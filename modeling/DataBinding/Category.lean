/-
Kinds of values. A property is bound when its declared type falls into one
of thirteen categories: five scalars, sprites, the two sorts of enum, and
lists of these. Everything else is unsupported and stays unbound. Four of
the update methods assign by name, each serving some of the categories;
lists and sprites can be pushed but not assigned.
-/
namespace DataBinding

inductive Category
  | bool
  | enum
  | flagsEnum
  | float
  | int
  | listBool
  | listEnum
  | listFloat
  | listInt
  | listSprite
  | listString
  | sprite
  | string
  | unsupported
  deriving DecidableEq

/-- One of the four update methods. -/
inductive DispatchKind
  | bool
  | float
  | int
  | string
  deriving DecidableEq

/-- The update methods in the order in which code lists them. -/
def DispatchKind.all : List DispatchKind := [.int, .float, .string, .bool]

namespace Category

def all : List Category :=
  [.bool, .enum, .flagsEnum, .float, .int, .listBool, .listEnum, .listFloat, .listInt,
   .listSprite, .listString, .sprite, .string, .unsupported]

def label : Category → String
  | .bool => "Bool"
  | .enum => "Enum"
  | .flagsEnum => "FlagsEnum"
  | .float => "Float"
  | .int => "Int"
  | .listBool => "ListBool"
  | .listEnum => "ListEnum"
  | .listFloat => "ListFloat"
  | .listInt => "ListInt"
  | .listSprite => "ListSprite"
  | .listString => "ListString"
  | .sprite => "Sprite"
  | .string => "String"
  | .unsupported => "Unsupported"

def ofLabel? (text : String) : Option Category := all.find? (·.label == text)

def isSupported (category : Category) : Bool := category != .unsupported

def isList : Category → Bool
  | .listBool | .listEnum | .listFloat | .listInt | .listSprite | .listString => true
  | _ => false

/-- Backed by a declared enum. -/
def isEnum : Category → Bool
  | .enum | .flagsEnum | .listEnum => true
  | _ => false

/-- Handed out by value. -/
def isCopy : Category → Bool
  | .bool | .enum | .flagsEnum | .float | .int => true
  | _ => false

/-- Travels as an integer when it is assigned by name. -/
def isIntLike : Category → Bool
  | .int | .enum | .flagsEnum => true
  | _ => false

/-- The update method that assigns values of this category. -/
def dispatchKind? : Category → Option DispatchKind
  | .int | .enum | .flagsEnum => some .int
  | .float => some .float
  | .string => some .string
  | .bool => some .bool
  | _ => none

/-- The category of a list of such values. -/
def listOf? : Category → Option Category
  | .bool => some .listBool
  | .enum | .flagsEnum => some .listEnum
  | .float => some .listFloat
  | .int => some .listInt
  | .sprite => some .listSprite
  | .string => some .listString
  | _ => none

end Category

def DispatchKind.label : DispatchKind → String
  | .bool => "Bool"
  | .float => "Float"
  | .int => "Int"
  | .string => "String"

/-- How an argument of an event call travels from the host to the method. -/
inductive ArgumentKind
  | bool
  /-- Any other concrete type, passed through unopened. -/
  | custom
  | enum
  | float
  | int
  | sprite
  | string
  /-- Collections, borrows and trait objects. -/
  | unsupported
  deriving DecidableEq

namespace ArgumentKind

def all : List ArgumentKind :=
  [.bool, .custom, .enum, .float, .int, .sprite, .string, .unsupported]

def label : ArgumentKind → String
  | .bool => "Bool"
  | .custom => "Custom"
  | .enum => "Enum"
  | .float => "Float"
  | .int => "Int"
  | .sprite => "Sprite"
  | .string => "String"
  | .unsupported => "Unsupported"

def ofLabel? (text : String) : Option ArgumentKind := all.find? (·.label == text)

def isSupported (kind : ArgumentKind) : Bool := kind != .unsupported

end ArgumentKind

end DataBinding
