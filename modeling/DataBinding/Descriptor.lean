/-
What is known about a type once it has been analysed. A type starts as an
outline, which says where it stands among the others; extraction adds the
properties its own fields give rise to, and merging adds those it has from
hand-written code and from its ancestors. Code is emitted from these
descriptors alone.
-/
import DataBinding.Category
import DataBinding.Injection
import DataBinding.Text.SnakeCase

namespace DataBinding

-- =========================================================== properties

/-- Where the value of a property lives: in a generated field, or behind a
hand-written getter, which may have a name of its own. -/
inductive Backing
  | field (name : String)
  | handWritten (getterFn : Option String)
  deriving DecidableEq

/-- How a type comes by a property. -/
inductive PropertyOrigin
  /-- Reached through an ancestor, generated or hand-written. -/
  | ancestor
  /-- Hand-written on the type itself. -/
  | declared
  /-- Generated from one of the type's own fields. -/
  | field
  deriving DecidableEq

structure Property where
  name : String
  backing : Backing
  category : Category
  /-- The type as written. -/
  declaredType : String
  /-- The normalised type name recorded in metadata. -/
  typeFullName : String
  /-- The full name of the enum, for the enum categories. -/
  enumName : Option String
  /-- Seen from a type that embeds the owner. -/
  isFromAncestor : Bool := false
  /-- The type that has the storage or the getter. -/
  owner : String
  alsoNotify : List String := []
  injected : InjectedCode := {}
  isSuppressed : Bool := false
  doc : Option String := none
  deriving DecidableEq

namespace Property

variable (property : Property)

def origin : PropertyOrigin :=
  if property.isFromAncestor then .ancestor
  else
    match property.backing with
    | .field _ => .field
    | .handWritten _ => .declared

def fieldName? : Option String :=
  match property.backing with
  | .field name => some name
  | .handWritten _ => none

def getterFn? : Option String :=
  match property.backing with
  | .field _ => none
  | .handWritten getterFn => getterFn

def isEnum : Bool := property.enumName.isSome

def isInherited : Bool := property.origin != .field

/-- The method that reads the current value. -/
def getterName : String := property.getterFn?.getD (Text.snakeCase property.name)

/-- The generated method that writes it. -/
def setterName : String := "set_" ++ Text.snakeCase property.name

/-- The property as a derived type sees it: what concerns only the owner's
own accessors is gone. -/
def inherited : Property :=
  { property with isFromAncestor := true, alsoNotify := [], injected := {}, doc := none }

end Property

-- ================================================================ types

/-- One declared field as it appears in the generated structure. -/
structure FieldSlot where
  name : String
  declaredType : String
  category : Category
  enumName : Option String
  doc : Option String
  deriving DecidableEq

/-- Which annotation makes a type a bound one. A bindable type may carry an
event that is raised after each change. -/
inductive GenerationMode
  | bindable (raisesEvents : Bool)
  | autoNotify
  deriving DecidableEq

def GenerationMode.isBindable : GenerationMode → Bool
  | .bindable _ => true
  | .autoNotify => false

/-- How the generated methods of a type relate to those of an ancestor. -/
inductive MethodKind
  /-- Sealed, with no ancestor to delegate to. -/
  | final
  /-- Open, with no ancestor to delegate to. -/
  | overridable
  /-- An ancestor implements the contract; its version runs first. -/
  | refinement
  deriving DecidableEq

def MethodKind.of (delegates isSealed : Bool) : MethodKind :=
  if delegates then .refinement else if isSealed then .final else .overridable

/-- Where a type stands among the others. -/
structure TypeOutline where
  fullName : String
  simpleName : String
  scope : Option String
  mode : GenerationMode
  accessibility : Accessibility
  isValueType : Bool
  isSealed : Bool
  /-- The base: a full name when it is declared, as written otherwise. -/
  base : Option String
  /-- The class ancestors that the structure embeds, nearest first. -/
  chain : List String
  /-- The depth of the nearest bound ancestor; the direct base has depth 1. -/
  ancestorDepth : Option Nat := none
  /-- Some bound ancestor raises an event. -/
  ancestorRaisesEvents : Bool := false
  derives : List String
  doc : Option String
  deriving DecidableEq

namespace TypeOutline

variable (outline : TypeOutline)

def raisesEvents : Bool := outline.mode == .bindable true

/-- An ancestor implements the binding contract already. -/
def ancestorImplements : Bool := outline.ancestorDepth.isSome

def methodKind : MethodKind := .of outline.ancestorImplements outline.isSealed

/-- How deep inside a value of this type a value of `owner` is embedded. -/
def depthOf? (owner : String) : Option Nat :=
  if owner = outline.fullName then some 0
  else (outline.chain.idxOf? owner).map (· + 1)

end TypeOutline

structure TypeDescriptor extends TypeOutline where
  slots : List FieldSlot
  /-- The properties of the type's own fields. -/
  own : List Property
  /-- All properties, each name once. -/
  merged : List Property
  deriving DecidableEq

namespace TypeDescriptor

variable (type : TypeDescriptor)

/-- The own properties that have generated accessors. -/
def accessors : List Property := type.own.filter (!·.isSuppressed)

/-- The enums behind those properties, each once. -/
def usedEnums : List String := (type.accessors.filterMap (·.enumName)).eraseDups

/-- The own properties that an update method assigns. -/
def dispatched (kind : DispatchKind) : List Property :=
  type.accessors.filter (·.category.dispatchKind? == some kind)

def merged? (name : String) : Option Property := type.merged.find? (·.name == name)

end TypeDescriptor

-- ========================================================== event calls

structure ArgumentDescriptor where
  name : String
  declaredType : String
  typeFullName : String
  kind : ArgumentKind
  enumName : Option String
  /-- Passed by mutable reference. -/
  byRef : Bool
  deriving DecidableEq

/-- A method that the host may call by event name. -/
structure EventCallDescriptor where
  methodName : String
  eventName : String
  /-- The views that show the event; an empty list means all. -/
  views : List String
  isStatic : Bool
  returns : Option String
  arguments : List ArgumentDescriptor
  deriving DecidableEq

structure EventTypeDescriptor where
  fullName : String
  simpleName : String
  scope : Option String
  isSealed : Bool
  chain : List String
  /-- The depth of the nearest ancestor with event calls. -/
  registerDepth : Option Nat := none
  calls : List EventCallDescriptor
  deriving DecidableEq

def EventTypeDescriptor.methodKind (type : EventTypeDescriptor) : MethodKind :=
  .of type.registerDepth.isSome type.isSealed

end DataBinding
