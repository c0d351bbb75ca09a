/-
Names of emitted items. A declared name must look like one: an underscore
or a letter first, underscores, letters and digits after it. The words
that no name may replace are refused; other keywords are written raw.

Letters and digits are taken here in a wider sense than in code itself. A
name that passes and still is no word of code, such as one with a
superscript digit, is no fault of one type alone: it stops the whole run.
-/
import DataBinding.Code.Token
import DataBinding.Text.Letters
import DataBinding.Text.NameChars

namespace DataBinding.Code

/-- Why code cannot be emitted. -/
inductive EmitFault
  | invalidName (name : String)
  | invalidInjection (statement : String)
  | invalidPath (path : String)
  | invalidType (type : String)
  /-- A name that no check has refused turns out to be no word of code. -/
  | noWord (name : String)
  deriving DecidableEq

def EmitFault.message : EmitFault → String
  | .invalidName name => "invalid identifier '" ++ name ++ "'"
  | .invalidInjection statement => "injected statement does not parse: '" ++ statement ++ "'"
  | .invalidPath path => "invalid path '" ++ path ++ "'"
  | .invalidType type => "invalid type '" ++ type ++ "'"
  | .noWord name => "'" ++ name ++ "' is not a word of code"

/-- Whether a fault is more than a fault of one type. -/
def EmitFault.endsRun : EmitFault → Bool
  | .noWord _ => true
  | _ => false

abbrev Emit := Except EmitFault

/-- Keywords; as names they are written raw. -/
def keywords : List String :=
  ["abstract", "as", "async", "await", "become", "box", "break", "const", "continue", "do",
   "dyn", "else", "enum", "extern", "false", "final", "fn", "for", "gen", "if", "impl", "in",
   "let", "loop", "macro", "match", "mod", "move", "mut", "override", "priv", "pub", "ref",
   "return", "static", "struct", "trait", "true", "try", "type", "typeof", "unsafe", "unsized",
   "use", "virtual", "where", "while", "yield"]

/-- Words that cannot be names even raw. -/
def reservedWords : List String := ["_", "crate", "self", "Self", "super"]

/-- Whether a declared name looks like a name. -/
def looksLikeName : List Char → Bool
  | [] => false
  | c :: rest =>
    (c == '_' || Text.isAlphabetic c) && rest.all fun d => d == '_' || Text.isAlphanumeric d

/-- A text as one word of code, which it has to be. -/
def word (text : String) : Emit Token :=
  if Text.isName text.toList then .ok (.leaf text) else .error (.noWord text)

/-- A declared name as a word of code. -/
def name (text : String) : Emit Token :=
  if !looksLikeName text.toList || reservedWords.contains text then
    .error (.invalidName text)
  else if keywords.contains text then .ok (.leaf ("r#" ++ text))
  else word text

end DataBinding.Code
