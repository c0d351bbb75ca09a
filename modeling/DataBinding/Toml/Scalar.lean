/-
Plain words of TOML: truth values, numbers and dates. Integers are decimal
with an optional sign, or hexadecimal, octal or binary without one.
Underscores stand between digits. Nothing in a manifest has a number with a
fraction or a date for its value, so of those only that they are well
formed is looked at, and that a number is not too large to have a value.
-/
import DataBinding.Document
import DataBinding.Text.Segments
import DataBinding.Toml.Text

namespace DataBinding.Toml

open Text (isDigit ofDigits?)

-- ============================================================= integers

/-- Digits of a base with single underscores between them. -/
def number? (base : Nat) (cs : List Char) : Option Nat :=
  let groups := Text.pieces (· == '_') cs
  if groups.any List.isEmpty then none else ofDigits? base groups.flatten

/-- A text without a sign at its front, and whether that was a minus. -/
def unsigned : List Char → Bool × List Char
  | '-' :: rest => (true, rest)
  | '+' :: rest => (false, rest)
  | cs => (false, cs)

/-- A decimal number; only zero begins with a zero. -/
def decimal? (cs : List Char) : Option Nat :=
  match cs with
  | '0' :: _ :: _ => none
  | _ => number? 10 cs

/-- An integer; 128 bits have to hold it, with a sign or without. -/
def integerDocument (value : Int) : Document :=
  if -0x80000000000000000000000000000000 ≤ value ∧ value ≤ 0xFFFFFFFFFFFFFFFFFFFFFFFFFFFFFFFF then
    .int value
  else .excess

def integer? (cs : List Char) : Option Int :=
  match cs with
  | '0' :: 'x' :: digits => (number? 16 digits).map Int.ofNat
  | '0' :: 'o' :: digits => (number? 8 digits).map Int.ofNat
  | '0' :: 'b' :: digits => (number? 2 digits).map Int.ofNat
  | _ =>
    let (negative, digits) := unsigned cs
    (decimal? digits).map fun n => if negative then -Int.ofNat n else Int.ofNat n

-- ================================================================ reals

/-- The least number that rounds to no real of 64 bits: half a step above
the largest of them. -/
def realLimit : Nat := (Nat.pow 2 54 - 1) * Nat.pow 2 970

/-- Whether digits times a power of ten reach the limit of reals. The count
of digits before the point decides unless it is that of the limit itself,
so that no long power is ever computed. -/
def exceedsReals (digits : Nat) (power : Int) : Bool :=
  let places : Int := (Nat.toDigits 10 digits).length + power
  if digits = 0 ∨ places < 309 then false
  else if 309 < places then true
  else realLimit * Nat.pow 10 (-power).toNat ≤ digits * Nat.pow 10 power.toNat

/-- A signed exponent; without one it is zero. -/
def exponent? : List Char → Option Int
  | [] => some 0
  | _ :: cs =>
    let (negative, digits) := unsigned cs
    (number? 10 digits).map fun n => if negative then -Int.ofNat n else Int.ofNat n

/-- A number with a fraction or an exponent, or one of the words for what
is no finite number. -/
def real? (cs : List Char) : Option Document := do
  let body := (unsigned cs).2
  if body = "inf".toList ∨ body = "nan".toList then return .real
  let mantissa := body.takeWhile fun c => c != 'e' && c != 'E'
  let exponent := body.drop mantissa.length
  let whole := mantissa.takeWhile (· != '.')
  let point := mantissa.drop whole.length
  if point.isEmpty && exponent.isEmpty then none
  let units ← decimal? whole
  let fraction := (point.drop 1).filter (· != '_')
  let parts ← if point.isEmpty then some 0 else number? 10 (point.drop 1)
  let power ← exponent? exponent
  let digits := units * Nat.pow 10 fraction.length + parts
  return if exceedsReals digits (power - fraction.length) then .excess else .real

-- ================================================================ dates

/-- Two digits that write a number in a range. -/
def inTwoDigits (low high : Nat) (cs : List Char) : Bool :=
  cs.length == 2 && (ofDigits? 10 cs).any fun n => low ≤ n && n ≤ high

def daysIn (year month : Nat) : Nat :=
  if month = 2 then
    if year % 4 = 0 ∧ (year % 100 ≠ 0 ∨ year % 400 = 0) then 29 else 28
  else if [4, 6, 9, 11].contains month then 30
  else 31

def isDate (cs : List Char) : Bool :=
  match Text.pieces (· == '-') cs with
  | [year, month, day] =>
    match ofDigits? 10 year, ofDigits? 10 month with
    | some y, some m =>
      year.length == 4 && inTwoDigits 1 12 month && inTwoDigits 1 (daysIn y m) day
    | _, _ => false
  | _ => false

/-- A time of day; seconds and their fraction may be missing. -/
def isTime (cs : List Char) : Bool :=
  let clock := cs.takeWhile (· != '.')
  let fraction := cs.drop clock.length
  let isFraction := fraction.isEmpty || (1 < fraction.length && (fraction.drop 1).all isDigit)
  match Text.pieces (· == ':') clock with
  | [hours, minutes] => inTwoDigits 0 23 hours && inTwoDigits 0 59 minutes && fraction.isEmpty
  | [hours, minutes, seconds] =>
    inTwoDigits 0 23 hours && inTwoDigits 0 59 minutes && inTwoDigits 0 60 seconds && isFraction
  | _ => false

/-- A time without its offset from the prime meridian. -/
def withoutOffset (cs : List Char) : List Char :=
  let time := cs.takeWhile fun c => c != 'Z' && c != 'z' && c != '+' && c != '-'
  match cs.drop time.length with
  | ['Z'] => time
  | ['z'] => time
  | _ :: offset => if offset.length = 5 ∧ isTime offset then time else cs
  | [] => time

def isMoment (cs : List Char) : Bool :=
  isDate cs || isTime cs
    || isDate (cs.take 10)
        && (cs.drop 10).head?.any (fun c => c == 'T' || c == 't' || c == ' ')
        && isTime (withoutOffset (cs.drop 11))

-- ================================================================ words

def isWordChar (c : Char) : Bool :=
  isLetter c || isDigit c || c == '_' || c == '+' || c == '-' || c == '.' || c == ':'

/-- The plain word at the front; a date may go on with a time after one
blank. -/
def plainWord (cs : List Char) : List Char :=
  let word := cs.takeWhile isWordChar
  match cs.drop word.length with
  | ' ' :: c :: rest =>
    if isDate word && isDigit c then word ++ ' ' :: (c :: rest).takeWhile isWordChar else word
  | _ => word

/-- The value of a plain word. A moment is a record with a single key that
no reading asks for. -/
def wordValue? (cs : List Char) : Option Document :=
  if cs = "true".toList then some (.bool true)
  else if cs = "false".toList then some (.bool false)
  else
    match integer? cs with
    | some value => some (integerDocument value)
    | none =>
      if isMoment cs then some (.record [("$moment", .text (String.ofList cs))]) else real? cs

end DataBinding.Toml
