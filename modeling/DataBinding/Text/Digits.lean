/-
Digits of ASCII: the ten decimal ones, and what a digit of any base up to
sixteen is worth. Digits of other scripts are none.
-/
namespace DataBinding.Text

def isDigit (c : Char) : Bool := '0' ≤ c && c ≤ '9'

/-- The value of a digit in any base up to 16. -/
def digitValue? (c : Char) : Option Nat :=
  if isDigit c then some (c.toNat - '0'.toNat)
  else if 'a' ≤ c ∧ c ≤ 'f' then some (10 + c.toNat - 'a'.toNat)
  else if 'A' ≤ c ∧ c ≤ 'F' then some (10 + c.toNat - 'A'.toNat)
  else none

/-- The number that digits of a base write. -/
def ofDigits? (base : Nat) (digits : List Char) : Option Nat :=
  digits.foldlM (fun number c =>
    match digitValue? c with
    | some digit => if digit < base then some (base * number + digit) else none
    | none => none) 0

end DataBinding.Text
