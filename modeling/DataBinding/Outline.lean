/-
Which types get binding code, and in which order. An annotated type is
accepted when it breaks none of the structural rules; each broken rule is
one diagnostic. Accepted types are linked to their nearest accepted
ancestor and put into an order in which every ancestor comes before its
descendants: by the number of accepted ancestors, then by name.

Two faults make the whole schema unusable: two types of one name, and a
cyclic chain of bases.
-/
import DataBinding.Diagnostic
import DataBinding.Inheritance

namespace DataBinding

-- =============================================================== faults

/-- Faults that leave nothing to generate. -/
inductive SchemaFault
  | cyclicBase (typeName : String)
  | duplicateType (typeName : String)
  deriving DecidableEq

def SchemaFault.message : SchemaFault → String
  | .cyclicBase typeName => "base chain of '" ++ typeName ++ "' is cyclic"
  | .duplicateType typeName => "type '" ++ typeName ++ "' is declared more than once"

/-- A result together with the problems reported on the way to it. -/
structure Reported (α : Type) where
  value : α
  diagnostics : List Diagnostic := []
  deriving DecidableEq

/-- The first name that repeats an earlier one. -/
def firstRepeat? (seen : List String) : List String → Option String
  | [] => none
  | name :: rest => if name ∈ seen then some name else firstRepeat? (name :: seen) rest

-- ===================================================== structural rules

/-- A structural rule that an annotated type breaks. -/
inductive Violation
  | notPartial
  | nested (parent : String)
  | accessibility
  | structWithBase (base : String)
  | sealedBase (base : String)
  deriving DecidableEq

namespace Violation

def code : Violation → DiagnosticCode
  | .notPartial => .notPartial
  | .nested _ => .nestedType
  | .accessibility => .accessibilityNotAllowed
  | .structWithBase _ | .sealedBase _ => .illegalBase

def message (decl : TypeDecl) : Violation → String
  | .notPartial => "'" ++ decl.name ++ "' must be declared partial"
  | .nested parent => "'" ++ decl.name ++ "' is nested in '" ++ parent ++ "'"
  | .accessibility => "'" ++ decl.name ++ "' is " ++ decl.accessibility.label
  | .structWithBase base => "struct '" ++ decl.name ++ "' cannot derive from '" ++ base ++ "'"
  | .sealedBase base => "'" ++ decl.name ++ "' derives from sealed '" ++ base ++ "'"

def diagnostic (decl : TypeDecl) (violation : Violation) : Diagnostic :=
  ⟨violation.code, decl.fullName, violation.message decl⟩

end Violation

/-- The rules that concern every annotated type. -/
def shapeViolations (decl : TypeDecl) : List Violation :=
  (if decl.isPartial then [] else [.notPartial])
    ++ (decl.parent.map Violation.nested).toList

/-- Whether a type of this accessibility may be bound. -/
def GenerationMode.allows : GenerationMode → Accessibility → Bool
  | .bindable _, accessibility => accessibility == .«public» || accessibility == .internal
  | .autoNotify, accessibility => accessibility == .«public»

/-- The rules about bases, which only a bindable type has to keep. -/
def baseViolations (schema : Schema) (decl : TypeDecl) (chain : List String) :
    List Violation :=
  match decl.base with
  | none => []
  | some base =>
    (if decl.isValueType then [.structWithBase base] else [])
      ++ (match chain with
          | [] => []
          | direct :: _ =>
            if (schema.typeDecl? direct).any (·.isSealed) then [.sealedBase direct] else [])

/-- All rules that a type to be bound breaks, in the order of report. -/
def violations (schema : Schema) (decl : TypeDecl) (mode : GenerationMode)
    (chain : List String) : List Violation :=
  shapeViolations decl
    ++ (if mode.allows decl.accessibility then [] else [.accessibility])
    ++ (if mode.isBindable then baseViolations schema decl chain else [])

-- ============================================================ accepting

/-- The outline of an accepted type, not linked yet. A type in auto-notify
mode embeds no base. -/
def outlineOf (decl : TypeDecl) (mode : GenerationMode) (chain : List String) :
    TypeOutline where
  fullName := decl.fullName
  simpleName := decl.name
  scope := decl.scope.filter (· != "")
  mode := mode
  accessibility := decl.accessibility
  isValueType := decl.isValueType
  isSealed := decl.isSealed || decl.isValueType
  base := if mode.isBindable then resolvedBase decl chain else none
  chain := if mode.isBindable then chain else []
  derives := decl.derives
  doc := decl.doc

/-- Accept or reject each annotated declaration in turn; a cyclic chain
ends the matter. -/
def screen (schema : Schema) :
    List (TypeDecl × GenerationMode) → Reported (Except SchemaFault (List TypeOutline))
  | [] => ⟨.ok [], []⟩
  | (decl, mode) :: rest =>
    match baseChain schema decl with
    | none => ⟨.error (.cyclicBase decl.fullName), []⟩
    | some chain =>
      let broken := violations schema decl mode chain
      let later := screen schema rest
      let accepted := if broken.isEmpty then [outlineOf decl mode chain] else []
      ⟨later.value.map (accepted ++ ·), broken.map (·.diagnostic decl) ++ later.diagnostics⟩

-- ============================================================== linking

/-- Connect an accepted type with its ancestors among the accepted ones. -/
def TypeOutline.link (schema : Schema) (accepted : List TypeOutline) (outline : TypeOutline) :
    TypeOutline :=
  if outline.mode.isBindable then
    let chain := embeddedChain schema outline.chain
    { outline with
      chain := chain
      ancestorDepth := depthWhere (fun name => accepted.any (·.fullName == name)) chain
      ancestorRaisesEvents :=
        chain.any fun name => accepted.any fun other =>
          other.fullName == name && other.raisesEvents }
  else outline

/-- The order of two types with known numbers of ancestors: fewer ancestors
first, then by name. -/
def comesBefore (a b : Nat × String) : Bool :=
  a.1 < b.1 || (a.1 == b.1 && a.2 ≤ b.2)

/-- Ancestors before descendants, given a name and a chain for each item. -/
def ancestorsFirst {α : Type} (name : α → String) (chain : α → List String)
    (items : List α) : List α :=
  let known := items.map name
  let key (item : α) := ((chain item).countP (known.contains ·), name item)
  items.mergeSort fun a b => comesBefore (key a) (key b)

-- ============================================================= the scan

/-- The annotated declarations, in the order of their full names. -/
def annotated (schema : Schema) : List (TypeDecl × GenerationMode) :=
  (schema.types.mergeSort (·.fullName ≤ ·.fullName)).filterMap fun decl =>
    decl.generationMode?.map (decl, ·)

/-- The outlines of all types that get binding code, ancestors first. -/
def outlines (schema : Schema) : Reported (Except SchemaFault (List TypeOutline)) :=
  match firstRepeat? [] (schema.types.map (·.fullName)) with
  | some typeName => ⟨.error (.duplicateType typeName), []⟩
  | none =>
    let screened := screen schema (annotated schema)
    { screened with
      value := screened.value.map fun accepted =>
        ancestorsFirst (·.fullName) (·.chain) (accepted.map (·.link schema accepted)) }

end DataBinding
