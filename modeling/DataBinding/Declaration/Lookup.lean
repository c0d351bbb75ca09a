/-
Finding what a written reference names. A reference is read relative to
the namespace it is written in and, failing that, as an absolute path. A
leading `crate::`, however often repeated, says only that the path is
absolute from the root and is dropped before either reading.
-/
import DataBinding.Declaration
import DataBinding.Text.Blank

namespace DataBinding

open Text

/-- A path without its leading `crate::` steps. -/
def dropCrate : List Char → List Char
  | 'c' :: 'r' :: 'a' :: 't' :: 'e' :: ':' :: ':' :: rest => dropCrate rest
  | cs => cs

/-- A written reference as a path: no outer blanks, no leading `crate::`. -/
def referencePath (written : String) : String :=
  String.ofList (dropCrate (trimChars written.toList))

/-- The paths a reference may mean, the preferred one first. -/
def candidatePaths (scope : Option String) (written : String) : List String :=
  let path := referencePath written
  match scope with
  | some outer => if outer = "" then [path] else [outer ++ "::" ++ path, path]
  | none => [path]

namespace Schema

variable (schema : Schema)

/-- The first type declared under a full name. -/
def typeDecl? (fullName : String) : Option TypeDecl :=
  schema.types.find? (·.fullName == fullName)

/-- The first enum declared under a full name. -/
def enumDecl? (fullName : String) : Option EnumDecl :=
  schema.enums.find? (·.fullName == fullName)

/-- The type meant by a reference written inside `scope`. -/
def resolveType? (scope : Option String) (written : String) : Option TypeDecl :=
  (candidatePaths scope written).findSome? schema.typeDecl?

/-- The enum meant by a reference written inside `scope`. -/
def resolveEnum? (scope : Option String) (written : String) : Option EnumDecl :=
  (candidatePaths scope written).findSome? schema.enumDecl?

end Schema

end DataBinding
