/-
Documents in JSON notation: keys and values spread over lines, two blanks
of indentation for each level, empty lists and records in one piece.
Characters are written as they are, except quotes, backslashes and
controls.
-/
import DataBinding.Document

namespace DataBinding.Document

/-- One hexadecimal digit, in small letters. -/
def hexDigit (n : Nat) : Char := Nat.digitChar (n % 16)

def escapeChar (c : Char) : List Char :=
  match c with
  | '"' => ['\\', '"']
  | '\\' => ['\\', '\\']
  | '\x08' => ['\\', 'b']
  | '\x0c' => ['\\', 'f']
  | '\n' => ['\\', 'n']
  | '\r' => ['\\', 'r']
  | '\t' => ['\\', 't']
  | _ =>
    if c.toNat < 32 then ['\\', 'u', '0', '0', hexDigit (c.toNat / 16), hexDigit c.toNat]
    else [c]

def quoted (text : String) : String :=
  "\"" ++ String.ofList (text.toList.flatMap escapeChar) ++ "\""

/-- A line break and the indentation of a level. -/
def lineBreak (level : Nat) : String := "\n" ++ "".pushn ' ' (2 * level)

/-- Items one to a line between two brackets. -/
def spread (opening closing : String) (level : Nat) (items : List String) : String :=
  if items.isEmpty then opening ++ closing
  else
    opening ++ String.intercalate "," (items.map (lineBreak (level + 1) ++ ·))
      ++ lineBreak level ++ closing

mutual

/-- A document in JSON notation at an indentation level. -/
def json (level : Nat) : Document → String
  | .null => "null"
  | .bool value => if value then "true" else "false"
  | .int value => toString value
  | .real => "0.0"
  | .excess => "0.0"
  | .text value => quoted value
  | .list items => spread "[" "]" level (jsonItems (level + 1) items)
  | .record entries => spread "\x7b" "\x7d" level (jsonEntries (level + 1) entries)

def jsonItems (level : Nat) : List Document → List String
  | [] => []
  | item :: rest => json level item :: jsonItems level rest

def jsonEntries (level : Nat) : List (String × Document) → List String
  | [] => []
  | (key, value) :: rest => (quoted key ++ ": " ++ json level value) :: jsonEntries level rest

end

end DataBinding.Document
