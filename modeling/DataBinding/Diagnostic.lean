/-
Problems found in declarations. Each diagnostic concerns one type; its
code fixes how severe it is. Errors leave the type out, warnings leave
only the offending part out.
-/
namespace DataBinding

inductive Severity
  | warning
  | error
  deriving DecidableEq

inductive DiagnosticCode
  | accessibilityNotAllowed
  | duplicateEventCall
  | duplicatePropertyName
  | illegalBase
  | nestedType
  | notPartial
  | unknownAlsoNotifyTarget
  deriving DecidableEq

def Severity.word : Severity → String
  | .warning => "warning"
  | .error => "error"

namespace DiagnosticCode

def all : List DiagnosticCode :=
  [.accessibilityNotAllowed, .duplicateEventCall, .duplicatePropertyName, .illegalBase,
   .nestedType, .notPartial, .unknownAlsoNotifyTarget]

def label : DiagnosticCode → String
  | .accessibilityNotAllowed => "AccessibilityNotAllowed"
  | .duplicateEventCall => "DuplicateEventCall"
  | .duplicatePropertyName => "DuplicatePropertyName"
  | .illegalBase => "IllegalBase"
  | .nestedType => "NestedType"
  | .notPartial => "NotPartial"
  | .unknownAlsoNotifyTarget => "UnknownAlsoNotifyTarget"

def ofLabel? (text : String) : Option DiagnosticCode := all.find? (·.label == text)

/-- The stable identifier shown to users. -/
def identifier : DiagnosticCode → String
  | .notPartial => "BND001"
  | .nestedType => "BND002"
  | .accessibilityNotAllowed => "BND003"
  | .illegalBase => "BND004"
  | .unknownAlsoNotifyTarget => "BND005"
  | .duplicatePropertyName => "BND006"
  | .duplicateEventCall => "BND007"

def severity : DiagnosticCode → Severity
  | .notPartial | .nestedType | .accessibilityNotAllowed | .illegalBase => .error
  | .unknownAlsoNotifyTarget | .duplicatePropertyName | .duplicateEventCall => .warning

end DiagnosticCode

structure Diagnostic where
  code : DiagnosticCode
  /-- The full name of the type it is about. -/
  typeName : String
  message : String
  deriving DecidableEq

namespace Diagnostic

def severity (diagnostic : Diagnostic) : Severity := diagnostic.code.severity

def isError (diagnostic : Diagnostic) : Bool := diagnostic.severity == .error

/-- The line shown to users. -/
def shown (diagnostic : Diagnostic) : String :=
  diagnostic.severity.word ++ "[" ++ diagnostic.code.identifier ++ "] " ++
    diagnostic.typeName ++ ": " ++ diagnostic.message

end Diagnostic

/-- Whether some diagnostic of a run is an error. -/
def hasErrors (diagnostics : List Diagnostic) : Bool := diagnostics.any Diagnostic.isError

/-- How many diagnostics of a run carry a code. -/
def countWithCode (diagnostics : List Diagnostic) (code : DiagnosticCode) : Nat :=
  diagnostics.countP (·.code == code)

end DataBinding
