/-
What the text of a number says. A whole number has a value and perhaps a
suffix; underscores among its digits mean nothing. A number with a point
or an exponent is no whole number. As a field number only a whole number
without a suffix serves, up to 32 bits.
-/
import DataBinding.Code.LiteralText
import DataBinding.Text.Segments

namespace DataBinding.Code

open Text

/-- Whether the text of a literal is that of a number. -/
def isNumber (text : String) : Bool := text.toList.head?.any isDigit

/-- Whether a text may be the suffix of a literal: nothing, or a word. -/
def isSuffix (cs : List Char) : Bool := cs.isEmpty || (skipWord cs).any (·.isEmpty)

/-- Whether `e` and what follows it make an exponent. A sign always does;
digits do, unless what follows them is neither the end nor a word. -/
def isExponent (hasDigit : Bool) : List Char → Bool
  | [] => hasDigit
  | c :: rest =>
    if c = '_' then isExponent hasDigit rest
    else if c = '+' ∨ c = '-' then true
    else if isDigit c then isExponent true rest
    else hasDigit && isSuffix (c :: rest)

/-- Digits of a base and the suffix after them, if they make a whole
number. -/
def wholeDigits? (base : Nat) (value : Nat) (hasDigit : Bool) :
    List Char → Option (Nat × List Char)
  | [] => if hasDigit then some (value, []) else none
  | c :: rest =>
    if c = '_' then wholeDigits? base value hasDigit rest
    else
      match if isDigit c ∨ base = 16 then digitValue? c else none with
      | some digit =>
        if digit < base then wholeDigits? base (base * value + digit) true rest else none
      | none =>
        if base = 10 ∧ (c = '.' ∨ ((c = 'e' ∨ c = 'E') ∧ isExponent false rest)) then none
        else if hasDigit ∧ isSuffix (c :: rest) then some (value, c :: rest)
        else none

/-- The value and the suffix of a whole number. -/
def wholeNumber? (text : List Char) : Option (Nat × List Char) :=
  let (base, digits) := numberBase text
  if text.head?.any isDigit then wholeDigits? base 0 false digits else none

/-- A field number. -/
def fieldIndex? (text : List Char) : Option Nat :=
  match wholeNumber? text with
  | some (value, []) => if value < 4294967296 then some value else none
  | _ => none

/-- The field numbers between the points of a number that is not whole,
and whether it ends with a point. -/
def pointedIndices? (text : List Char) : Option (List Nat × Bool) :=
  if (wholeNumber? text).isSome then none
  else
    let parts := pieces (· == '.') text
    let endsWithPoint := parts.getLast? == some [] && 1 < parts.length
    let parts := if endsWithPoint then parts.dropLast else parts
    (parts.mapM fieldIndex?).map (·, endsWithPoint)

end DataBinding.Code
