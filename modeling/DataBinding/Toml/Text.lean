/-
Texts and keys in TOML. A basic text stands in double quotes and has
escapes, a literal text stands in single quotes and has none; three quotes
let either run over several lines, and the line break right after the
opening is no part of it. Controls other than the tab have to be escaped.

Every reader takes the text from a place on and answers what it read and
what is left.
-/
import DataBinding.Text.Digits

namespace DataBinding.Toml

open Text (isDigit digitValue? ofDigits?)

/-- A reader of the front of a text. -/
abbrev Reader (α : Type) := List Char → Option (α × List Char)

-- ========================================================== characters

/-- Characters that stand for themselves in texts and comments. -/
def isPlain (c : Char) : Bool := c == '\t' || (0x20 ≤ c.toNat && c.toNat != 0x7F)

/-- The blanks inside a line. -/
def isSpace (c : Char) : Bool := c == ' ' || c == '\t'

def isLetter (c : Char) : Bool := ('a' ≤ c && c ≤ 'z') || ('A' ≤ c && c ≤ 'Z')

-- ============================================================= escapes

/-- The character with a code point of a fixed number of digits. -/
def codePoint (digits : Nat) : Reader Char := fun cs =>
  let written := cs.take digits
  match ofDigits? 16 written with
  | some point =>
    if written.length = digits ∧ point.isValidChar then some (Char.ofNat point, cs.drop digits)
    else none
  | none => none

/-- An escape after its backslash. -/
def escaped : Reader Char
  | 'b' :: rest => some ('\x08', rest)
  | 't' :: rest => some ('\t', rest)
  | 'n' :: rest => some ('\n', rest)
  | 'f' :: rest => some ('\x0c', rest)
  | 'r' :: rest => some ('\r', rest)
  | 'e' :: rest => some ('\x1b', rest)
  | '"' :: rest => some ('"', rest)
  | '\\' :: rest => some ('\\', rest)
  | 'x' :: rest => codePoint 2 rest
  | 'u' :: rest => codePoint 4 rest
  | 'U' :: rest => codePoint 8 rest
  | _ => none

-- ======================================================== on one line

/-- The rest of a basic text after its opening quote. The number bounds
the characters read, and the text's length is always enough. -/
def basicRest : Nat → Reader (List Char)
  | 0, _ => none
  | _ + 1, [] => none
  | _ + 1, '"' :: rest => some ([], rest)
  | bound + 1, '\\' :: rest =>
    match escaped rest with
    | some (c, after) => (basicRest bound after).map fun (cs, left) => (c :: cs, left)
    | none => none
  | bound + 1, c :: rest =>
    if isPlain c then (basicRest bound rest).map fun (cs, left) => (c :: cs, left) else none

/-- The rest of a literal text after its opening quote. -/
def literalRest : Reader (List Char)
  | [] => none
  | '\'' :: rest => some ([], rest)
  | c :: rest =>
    if isPlain c then (literalRest rest).map fun (cs, left) => (c :: cs, left) else none

-- ==================================================== on several lines

/-- A line break at the front; a carriage return needs the line feed. -/
def lineBreak? : List Char → Option (List Char)
  | '\n' :: rest => some rest
  | '\r' :: '\n' :: rest => some rest
  | _ => none

/-- A text without a line break at its front. -/
def dropLineBreak (cs : List Char) : List Char := (lineBreak? cs).getD cs

/-- A run of quotes inside a text over several lines: three close it, and
up to two before those belong to it. -/
inductive Quotes
  | inner (count : Nat)
  | closing (count : Nat)

def quotesAt? (quote : Char) (cs : List Char) : Option Quotes :=
  match (cs.takeWhile (· == quote)).length with
  | 0 => none
  | 1 => some (.inner 1)
  | 2 => some (.inner 2)
  | n + 3 => some (.closing (min n 2))

/-- Blanks and line breaks that a backslash at the end of a line joins. -/
def dropJoined : List Char → List Char
  | '\r' :: '\n' :: rest => dropJoined rest
  | c :: rest => if isSpace c || c == '\n' then dropJoined rest else c :: rest
  | [] => []

/-- Whether only blanks stand before the next line break. -/
def endsLine (cs : List Char) : Bool := (lineBreak? (cs.dropWhile isSpace)).isSome

/-- The rest of a text over several lines after its opening quotes; only a
basic one has escapes. Line breaks stand for themselves, each in its own
form. -/
def multilineRest (quote : Char) : Nat → Reader (List Char)
  | 0, _ => none
  | _ + 1, [] => none
  | bound + 1, c :: rest =>
    match quotesAt? quote (c :: rest) with
    | some (.closing count) => some (List.replicate count quote, (c :: rest).drop (count + 3))
    | some (.inner count) =>
      (multilineRest quote bound ((c :: rest).drop count)).map fun (cs, left) =>
        (List.replicate count quote ++ cs, left)
    | none =>
      if c == '\\' && quote == '"' then
        if endsLine rest then multilineRest quote bound (dropJoined rest)
        else
          match escaped rest with
          | some (d, after) =>
            (multilineRest quote bound after).map fun (cs, left) => (d :: cs, left)
          | none => none
      else if isPlain c || (lineBreak? (c :: rest)).isSome then
        (multilineRest quote bound rest).map fun (cs, left) => (c :: cs, left)
      else none

-- ================================================================ texts

/-- A text on one line. -/
def lineText : Reader String
  | '"' :: rest => (basicRest (rest.length + 1) rest).map fun (cs, left) => (String.ofList cs, left)
  | '\'' :: rest => (literalRest rest).map fun (cs, left) => (String.ofList cs, left)
  | _ => none

/-- A text of any kind. -/
def text : Reader String := fun cs =>
  let multiline (quote : Char) (rest : List Char) : Option (String × List Char) :=
    (multilineRest quote (rest.length + 1) (dropLineBreak rest)).map fun (cs, left) =>
      (String.ofList cs, left)
  match cs with
  | '"' :: '"' :: '"' :: rest => multiline '"' rest
  | '\'' :: '\'' :: '\'' :: rest => multiline '\'' rest
  | _ => lineText cs

-- ================================================================= keys

def isKeyChar (c : Char) : Bool := isLetter c || isDigit c || c == '_' || c == '-'

/-- A key without its dots: bare or a text on one line. -/
def simpleKey : Reader String := fun cs =>
  match cs.takeWhile isKeyChar with
  | [] => lineText cs
  | bare => some (String.ofList bare, cs.drop bare.length)

def dropSpaces (cs : List Char) : List Char := cs.dropWhile isSpace

/-- Keys with dots between them and blanks around. The number bounds how
many there are. -/
def dottedKey : Nat → Reader (List String)
  | 0, _ => none
  | bound + 1, cs =>
    match simpleKey (dropSpaces cs) with
    | none => none
    | some (key, rest) =>
      match dropSpaces rest with
      | '.' :: more => (dottedKey bound more).map fun (keys, left) => (key :: keys, left)
      | left => some ([key], left)

/-- How deep values nest in one another, and how many keys a dotted key
has, at most. -/
def nestingLimit : Nat := 80

def key : Reader (List String) := fun cs =>
  (dottedKey (cs.length + 1) cs).filter fun (keys, _) => keys.length ≤ nestingLimit

end DataBinding.Toml
