/-
What the code of one type is written with: the path of the runtime, the
path of the type itself, and checked readings of what users wrote, be it a
path, a type or a statement. A text that cannot be read is a fault of the
type and goes no further.
-/
import DataBinding.Code.Grammar.Statements
import DataBinding.Emission.Selection
import DataBinding.Code.Name
import DataBinding.Options

namespace DataBinding.Emission

open Code

-- ===================================================== written by users

def readPath (text : String) : Emit Tokens :=
  match readPathText text with
  | some tokens => .ok tokens
  | none => .error (.invalidPath text)

def readType (text : String) : Emit Tokens :=
  match readTypeText text with
  | some tokens => .ok tokens
  | none => .error (.invalidType text)

/-- Statements, each read on its own. -/
def readStatements (texts : List String) : Emit Tokens := do
  let statements ← texts.mapM fun text =>
    match readStatementText text with
    | some tokens => .ok tokens
    | none => .error (.invalidInjection text)
  return statements.flatten

-- =============================================================== sites

structure Site where
  rootPath : String
  /-- The path of the runtime. -/
  runtime : Tokens
  /-- The path of the type that the code belongs to. -/
  self : Tokens

/-- The path of a declared item inside the consuming code. -/
def readItemPath (rootPath fullName : String) : Emit Tokens :=
  readPath (rootPath ++ "::" ++ fullName)

def Site.ofType (paths : CodePaths) (fullName : String) : Emit Site := do
  let runtime ← readPath paths.runtimePath
  let self ← readItemPath paths.rootPath fullName
  return { rootPath := paths.rootPath, runtime := runtime, self := self }

namespace Site

variable (site : Site)

def itemPath (fullName : String) : Emit Tokens := readItemPath site.rootPath fullName

/-- An item of the runtime, given the rest of its path. -/
def item (rest : String) : Tokens := site.runtime ++ leaves (":: " ++ rest)

end Site

-- ============================================================== phrases

/-- A call of something. -/
def call (callee : Tokens) (args : List Tokens) : Tokens :=
  callee ++ [round (commaSeparated args)]

/-- Pieces of code with a comma after each. -/
def commaEnded (pieces : List Tokens) : Tokens := pieces.flatMap (· ++ [.leaf ","])

/-- A call that is written over several lines. -/
def wideCall (callee : Tokens) (args : List Tokens) : Tokens :=
  callee ++ [round (commaEnded args)]

/-- A borrowed list of constants. -/
def listOf (items : List Tokens) : Tokens := [.leaf "&", square (commaSeparated items)]

/-- The value `depth` bases inside `self`. -/
def baseAccess (depth : Nat) : Tokens :=
  .leaf "self" :: (List.replicate depth (leaves ". base")).flatten

/-- Lines of documentation; a line keeps no blanks at its end. -/
def docLines (text : String) : List String :=
  let lines := Text.pieces (· == '\n') text.toList
  let lines := if lines.getLast? = some [] then lines.dropLast else lines
  lines.map fun line => " " ++ String.ofList (Text.trimEndChars line)

/-- Documentation as attributes, one a line. -/
def docAttributes (doc : Option String) : Tokens :=
  match doc with
  | none => []
  | some text =>
    (docLines text).flatMap fun line =>
      [.leaf "#", square [.leaf "doc", .leaf "=", stringLiteral line]]

/-- An attribute of one word. -/
def wordAttribute (word : String) : Tokens := [.leaf "#", square [.leaf word]]

/-- A method: what stands before it, its name, its parameters and result,
and its body. -/
def method (lead : Tokens) (name : Token) (params result : Tokens) (body : Drafts) : Drafts :=
  let arrow : Tokens := if result.isEmpty then [] else .leaf "->" :: result
  [.plain (lead ++ [.leaf "fn", name, round params] ++ arrow), .block body]

end DataBinding.Emission
