/-
Literals in written code: strings (plain, byte and C strings, each also
raw), characters, bytes, and numbers. Every reader here takes the text
from the first character of a literal on and answers what is left after
it; what it ran over is the literal. A word glued to the end is its
suffix.
-/
import DataBinding.Text.Digits
import DataBinding.Text.NameChars

namespace DataBinding.Code

open Text

/-- A reader of the front of a text: what is left, if the front fits. -/
abbrev Scan := List Char → Option (List Char)

/-- Skip an expected text. -/
def expect (lead : String) : Scan := fun cs =>
  if lead.toList.isPrefixOf cs then some (cs.drop lead.toList.length) else none

/-- Skip a word. -/
def skipWord : Scan
  | c :: rest => if startsName c then some (rest.dropWhile continuesName) else none
  | [] => none

/-- Skip the suffix of a literal, if there is one. -/
def skipSuffix (cs : List Char) : List Char := (skipWord cs).getD cs

-- ============================================================= escapes

/-- The rest of a code point escape after its opening brace: up to six
digits, with underscores after the first, that name a character. -/
def skipCodePoint (value digits : Nat) : Scan
  | [] => none
  | c :: rest =>
    if c = '_' ∧ 0 < digits then skipCodePoint value digits rest
    else if c = '\x7d' ∧ 0 < digits then
      if value.isValidChar then some rest else none
    else
      match digitValue? c with
      | some digit => if digits = 6 then none else skipCodePoint (16 * value + digit) (digits + 1) rest
      | none => none

/-- Which literals a reader is in: they differ in what they may hold. -/
inductive TextKind
  | characters
  | bytes
  | cString
  deriving DecidableEq

/-- Skip an escape, after its backslash, that stands for one character. -/
def skipEscape (kind : TextKind) : Scan
  | 'x' :: high :: low :: rest =>
    match digitValue? high, digitValue? low with
    | some h, some l =>
      if kind = .characters ∧ 7 < h then none
      else if kind = .cString ∧ h = 0 ∧ l = 0 then none
      else some rest
    | _, _ => none
  | 'u' :: '\x7b' :: rest => if kind = .bytes then none else skipCodePoint 0 0 rest
  | c :: rest =>
    if c = 'n' ∨ c = 'r' ∨ c = 't' ∨ c = '\\' ∨ c = '\'' ∨ c = '"' then some rest
    else if c = '0' ∧ kind ≠ .cString then some rest
    else none
  | [] => none

-- ============================================================= strings

/-- Blanks after a backslash at the end of a line; something has to follow
them, and a carriage return has to stand before a line break. -/
def skipLineJoin : Scan
  | '\r' :: '\n' :: rest => skipLineJoin rest
  | '\r' :: _ => none
  | c :: rest =>
    if c = ' ' ∨ c = '\t' ∨ c = '\n' then skipLineJoin rest else some (c :: rest)
  | [] => none

/-- Whether a character may stand for itself in a string. -/
def fitsString (kind : TextKind) (c : Char) : Bool :=
  match kind with
  | .characters => true
  | .bytes => c.toNat < 128
  | .cString => c != '\x00'

/-- The rest of a string after its opening quote. The number bounds the
characters read, and the text's length is always enough. -/
def skipString (kind : TextKind) : Nat → Scan
  | 0, _ => none
  | _ + 1, [] => none
  | _ + 1, '"' :: rest => some (skipSuffix rest)
  | bound + 1, '\r' :: '\n' :: rest => skipString kind bound rest
  | _ + 1, '\r' :: _ => none
  | bound + 1, '\\' :: '\n' :: rest => (skipLineJoin rest).bind (skipString kind bound)
  | bound + 1, '\\' :: '\r' :: rest => (skipLineJoin ('\r' :: rest)).bind (skipString kind bound)
  | bound + 1, '\\' :: rest => (skipEscape kind rest).bind (skipString kind bound)
  | bound + 1, c :: rest => if fitsString kind c then skipString kind bound rest else none

/-- The rest of a raw string after its opening quote; `hashes` is what has
to follow the closing one. -/
def skipRaw (kind : TextKind) (hashes : List Char) : Scan
  | [] => none
  | '\r' :: '\n' :: rest => skipRaw kind hashes rest
  | '\r' :: _ => none
  | c :: rest =>
    if c = '"' ∧ hashes.isPrefixOf rest then some (skipSuffix (rest.drop hashes.length))
    else if fitsString kind c then skipRaw kind hashes rest
    else none

/-- A raw string from its hashes on. -/
def skipRawString (kind : TextKind) : Scan := fun cs =>
  let hashes := cs.takeWhile (· == '#')
  match cs.drop hashes.length with
  | '"' :: rest => if hashes.length ≤ 255 then skipRaw kind hashes rest else none
  | _ => none

def skipPlainString (kind : TextKind) : Scan := fun cs => skipString kind (cs.length + 1) cs

-- ========================================================== characters

/-- The rest of a character literal after its opening quote. -/
def skipQuoted (kind : TextKind) : Scan := fun cs =>
  let inner : Option (List Char) :=
    match cs with
    | '\\' :: rest => skipEscape kind rest
    | c :: rest => if fitsString kind c then some rest else none
    | [] => none
  match inner with
  | some ('\'' :: rest) => some (skipSuffix rest)
  | _ => none

-- ============================================================= numbers

/-- A number ends where no word goes on. -/
def wordBreak : Scan
  | c :: rest => if continuesName c then none else some (c :: rest)
  | [] => some []

/-- The suffix of a number and its end. -/
def skipNumberEnd : Scan
  | c :: rest => if startsName c then (skipWord (c :: rest)).bind wordBreak else wordBreak (c :: rest)
  | [] => some []

/-- Digits with underscores among them. -/
def skipDigits (cs : List Char) : List Char := cs.dropWhile fun c => isDigit c || c == '_'

/-- The exponent after its letter: a sign at most, and one digit at least. -/
def skipExponent : Scan := fun cs =>
  let unsigned := cs.dropWhile (· == '_')
  let body :=
    match unsigned with
    | '+' :: rest => rest
    | '-' :: rest => rest
    | _ => unsigned
  if (body.dropWhile (· == '_')).head?.any isDigit then some (skipDigits body) else none

/-- A number with a point or an exponent, without its suffix. A point
before another point or a word belongs to what follows. -/
def skipFloatBody : Scan
  | c :: rest =>
    if isDigit c then
      match skipDigits rest with
      | '.' :: after =>
        if after.head?.any fun d => d == '.' || startsName d then none
        else
          match skipDigits after with
          | e :: exponent =>
            if e = 'e' ∨ e = 'E' then some ((skipExponent exponent).getD (e :: exponent))
            else some (e :: exponent)
          | [] => some []
      | e :: exponent => if e = 'e' ∨ e = 'E' then skipExponent exponent else none
      | [] => none
    else none
  | [] => none

/-- The base that a number's lead names, and the digits after the lead. -/
def numberBase : List Char → Nat × List Char
  | '0' :: 'x' :: rest => (16, rest)
  | '0' :: 'o' :: rest => (8, rest)
  | '0' :: 'b' :: rest => (2, rest)
  | cs => (10, cs)

/-- Digits of a base; a decimal digit that is too large is a fault, a
letter that is too large ends the number. -/
def skipBaseDigits (base : Nat) (isEmpty : Bool) : Scan
  | [] => if isEmpty then none else some []
  | c :: rest =>
    if c = '_' then
      if isEmpty ∧ base = 10 then none else skipBaseDigits base isEmpty rest
    else
      match digitValue? c with
      | some digit =>
        if digit < base then skipBaseDigits base false rest
        else if isDigit c ∨ isEmpty then none
        else some (c :: rest)
      | none => if isEmpty then none else some (c :: rest)

def skipFloat : Scan := fun cs => (skipFloatBody cs).bind skipNumberEnd

def skipInteger : Scan := fun cs =>
  let (base, digits) := numberBase cs
  (skipBaseDigits base true digits).bind skipNumberEnd

-- ============================================================ literals

/-- The readers of literals with the text each begins with, in the order
in which they are tried. -/
def literalReaders : List (String × Scan) :=
  [("\"", skipPlainString .characters), ("r", skipRawString .characters),
   ("b\"", skipPlainString .bytes), ("br", skipRawString .bytes),
   ("c\"", skipPlainString .cString), ("cr", skipRawString .cString),
   ("b'", skipQuoted .bytes), ("'", skipQuoted .characters),
   ("", skipFloat), ("", skipInteger)]

/-- Skip a literal of any kind. -/
def skipLiteral : Scan := fun cs =>
  literalReaders.findSome? fun (lead, reader) => (expect lead cs).bind reader

end DataBinding.Code
