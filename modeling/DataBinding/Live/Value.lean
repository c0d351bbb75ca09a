/-
Values on their way between models and the view. Numbers with a fraction
are single-precision and kept by their bits: comparing them is the
comparison of the numbers, for which the two zeros are equal and what is
no number differs from itself, while keeping them changes nothing. Enums
travel as their integers.
-/
import DataBinding.Category

namespace DataBinding

-- ============================================================== singles

/-- A single-precision number, by its bits. -/
structure Single where
  bits : UInt32
  deriving DecidableEq

namespace Single

def zero : Single := ⟨0⟩

/-- The bits without the sign. -/
def magnitude (number : Single) : UInt32 := number.bits &&& 0x7FFFFFFF

def isNaN (number : Single) : Bool := 0x7F800000 < number.magnitude

/-- Equality of numbers. -/
def same (a b : Single) : Bool :=
  !a.isNaN && !b.isNaN && (a.bits == b.bits || (a.magnitude == 0 && b.magnitude == 0))

end Single

-- =============================================================== values

/-- A handle to an image that somebody else keeps; it is only compared and
passed on. -/
structure Sprite where
  path : String := ""
  deriving DecidableEq

inductive PropertyValue
  | int (value : Int32)
  | float (value : Single)
  | bool (value : Bool)
  | string (value : String)
  | sprite (value : Sprite)
  | listInt (values : List Int32)
  | listFloat (values : List Single)
  | listBool (values : List Bool)
  | listString (values : List String)
  | listSprite (values : List Sprite)
  /-- Enums, as their integers. -/
  | listEnum (values : List Int32)
  deriving DecidableEq

/-- Whether two lists have the same length and pairwise the same items. -/
def sameItems {α : Type} (same : α → α → Bool) : List α → List α → Bool
  | [], [] => true
  | a :: as, b :: bs => same a b && sameItems same as bs
  | _, _ => false

namespace PropertyValue

/-- The category that a value shows; that of a single enum is gone. -/
def category : PropertyValue → Category
  | .int _ => .int
  | .float _ => .float
  | .bool _ => .bool
  | .string _ => .string
  | .sprite _ => .sprite
  | .listInt _ => .listInt
  | .listFloat _ => .listFloat
  | .listBool _ => .listBool
  | .listString _ => .listString
  | .listSprite _ => .listSprite
  | .listEnum _ => .listEnum

def int? : PropertyValue → Option Int32
  | .int value => some value
  | _ => none

def float? : PropertyValue → Option Single
  | .float value => some value
  | _ => none

def bool? : PropertyValue → Option Bool
  | .bool value => some value
  | _ => none

def string? : PropertyValue → Option String
  | .string value => some value
  | _ => none

/-- Values of one sort with equal contents. -/
def same : PropertyValue → PropertyValue → Bool
  | .float a, .float b => a.same b
  | .listFloat as, .listFloat bs => sameItems Single.same as bs
  | a, b => a == b

end PropertyValue

end DataBinding
