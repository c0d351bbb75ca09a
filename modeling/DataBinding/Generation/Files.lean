/-
The files of a generator run. Each type has a file for its binding code
and one for its event calls, named by its full name with a dot for each
`::`; each namespace has an index that includes the files of its types.
-/
import DataBinding.Emission.Selection
import DataBinding.Options
import DataBinding.Text.Segments

namespace DataBinding

open Code Emission

-- ================================================================ names

def dottedName (fullName : String) : String := String.ofList (Text.dotted fullName.toList)

def unitFileName (fullName : String) : String := dottedName fullName ++ ".g.rs"

def eventUnitFileName (fullName : String) : String := dottedName fullName ++ ".events.g.rs"

/-- The index of a namespace; types without one are in the root's. -/
def indexFileName (scope : Option String) : String :=
  scope.elim "__root" dottedName ++ ".g.rs"

-- =============================================================== drafts

/-- A file before the style of its selections is settled. -/
structure FileDraft where
  fileName : String
  /-- The type it is about; none for an index. -/
  typeName : Option String
  /-- The namespace under whose index it is. -/
  scope : Option String
  code : Drafts
  /-- The enums whose conversions it carries. -/
  enums : List String := []

structure GeneratedFile where
  fileName : String
  typeName : Option String
  scope : Option String
  code : String
  deriving DecidableEq

/-- The first line of generated files, and a blank one. -/
def banner : String := "// @generated by bindery. Do not edit.\n\n"

/-- A draft as the text of a file. -/
def FileDraft.settle (options : Options) (draft : FileDraft) : GeneratedFile where
  fileName := draft.fileName
  typeName := draft.typeName
  scope := draft.scope
  code :=
    (if options.header then banner else "")
      ++ Token.texts (settleAll options.usesBranchTable draft.code) ++ "\n"

-- ============================================================== indexes

/-- The root first, then by name. -/
def scopeOrder : Option String → Option String → Bool
  | none, _ => true
  | some _, none => false
  | some a, some b => a ≤ b

/-- The index of a namespace. -/
def indexDraft (files : List FileDraft) (scope : Option String) : FileDraft :=
  let included := files.filter (·.scope == scope)
  { fileName := indexFileName scope
    typeName := none
    scope := scope
    code := [.plain (included.flatMap fun file =>
      leaves "include !" ++ [round [stringLiteral file.fileName], .leaf ";"])] }

/-- One index for each namespace that has files. -/
def indexDrafts (files : List FileDraft) : List FileDraft :=
  (((files.map (·.scope)).eraseDups).mergeSort scopeOrder).map (indexDraft files)

end DataBinding
