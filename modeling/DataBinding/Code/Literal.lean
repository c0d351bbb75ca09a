/-
Values as literals of emitted code. In a string, quotes, backslashes and
what has no printed form of its own are escaped: controls with a name by
it, others by their code point. A mark that would attach to the quote or
letter before it is written by code point too. NUL is `\0`, unless an
octal digit follows.
-/
import DataBinding.Code.Token
import DataBinding.Text.Marks
import DataBinding.Text.Printable

namespace DataBinding.Code

/-- A number in hexadecimal digits. -/
def hexadecimal (n : Nat) : List Char := Nat.toDigits 16 n

def isOctalDigit (c : Char) : Bool := '0' ≤ c && c ≤ '7'

/-- One character of a string literal, given what follows it. -/
def escapeChar (c : Char) (next : Option Char) : List Char :=
  if c = '\x00' then
    if next.any isOctalDigit then ['\\', 'x', '0', '0'] else ['\\', '0']
  else if c = '\t' then ['\\', 't']
  else if c = '\r' then ['\\', 'r']
  else if c = '\n' then ['\\', 'n']
  else if c = '"' || c = '\\' then ['\\', c]
  else if Text.isExtendingMark c || !Text.isPrintable c then
    ['\\', 'u', '\x7b'] ++ hexadecimal c.toNat ++ ['\x7d']
  else [c]

def escapeChars : List Char → List Char
  | [] => []
  | c :: rest => escapeChar c rest.head? ++ escapeChars rest

/-- A text as a string literal. -/
def stringLiteral (text : String) : Token :=
  .leaf ("\"" ++ String.ofList (escapeChars text.toList) ++ "\"")

def boolLiteral (value : Bool) : Token := .leaf (if value then "true" else "false")

/-- An integer with its type; the sign of a negative one is a token of its
own. -/
def intLiteral (value : Int32) : Tokens :=
  let digits := Token.leaf (toString value.toInt.natAbs ++ "i32")
  if value < 0 then [.leaf "-", digits] else [digits]

end DataBinding.Code
