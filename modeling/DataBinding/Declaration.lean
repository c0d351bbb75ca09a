/-
What the host hands over: the declarations of one program. A schema lists
types and enums; a type lists its fields, its hand-written properties and
methods, and the annotations that ask for binding code. Names of types and
enums are paths, segments joined by `::`, and may carry a namespace.

The readings at the end answer what an annotation list means as a whole:
which of several wins, and what is assumed when none is there.
-/
import DataBinding.Text.Segments

namespace DataBinding

-- ============================================================ the words

inductive TypeKind
  | «class»
  | struct
  deriving DecidableEq

/-- Who may name a declaration. -/
inductive Accessibility
  | internal
  | «private»
  | «protected»
  | «public»
  deriving DecidableEq

/-- Where a fragment of code is spliced into an accessor. -/
inductive InjectionPoint
  | onGet
  | onSetBeforeChange
  | onSetAfterChange
  deriving DecidableEq

/-- How an argument is passed: written back by the callee, as the variadic
tail, by mutable reference, or by value. -/
inductive ArgModifier
  | out
  | params
  | ref
  | value
  deriving DecidableEq

inductive TypeAttribute
  | bindable (onPropertyChanged : Bool)
  | eventRegister
  deriving DecidableEq

inductive FieldAttribute
  | alsoNotify (target : String)
  | autoNotify (propertyName : Option String)
  | codeInject (point : InjectionPoint) (code : String)
  | dontNotify
  | propertyName (name : String)
  deriving DecidableEq

inductive MethodAttribute
  | eventCall (eventName : Option String) (views : List String)
  deriving DecidableEq

-- ===================================================== the declarations

structure FieldDecl where
  name : String
  type : String
  attributes : List FieldAttribute := []
  doc : Option String := none
  deriving DecidableEq

/-- A hand-written property. Without a getter it is write-only; the getter
method is called like the property in snake case unless it is named. -/
structure PropertyDecl where
  name : String
  type : String
  getter : Option Accessibility := some .«public»
  getterFn : Option String := none
  deriving DecidableEq

structure ArgDecl where
  name : String
  type : String
  modifier : ArgModifier := .value
  deriving DecidableEq

/-- A hand-written method; only an annotated one is exposed. -/
structure MethodDecl where
  name : String
  args : List ArgDecl := []
  returns : Option String := none
  isStatic : Bool := false
  isGeneric : Bool := false
  isAsync : Bool := false
  attributes : List MethodAttribute := []
  deriving DecidableEq

structure TypeDecl where
  name : String
  /-- The namespace it is declared in. -/
  scope : Option String := none
  kind : TypeKind := .«class»
  accessibility : Accessibility := .«public»
  isPartial : Bool := false
  isSealed : Bool := false
  /-- The containing type of a nested declaration. -/
  parent : Option String := none
  base : Option String := none
  attributes : List TypeAttribute := []
  fields : List FieldDecl := []
  properties : List PropertyDecl := []
  methods : List MethodDecl := []
  derives : List String := []
  doc : Option String := none
  deriving DecidableEq

structure AliasDecl where
  locale : Option String := none
  text : String
  deriving DecidableEq

structure EnumValueDecl where
  name : String
  value : Int32
  aliases : List AliasDecl := []
  deriving DecidableEq

structure EnumDecl where
  name : String
  /-- The namespace it is declared in. -/
  scope : Option String := none
  isFlags : Bool := false
  values : List EnumValueDecl := []
  deriving DecidableEq

/-- All declarations of one program, in the order they were written. -/
structure Schema where
  types : List TypeDecl := []
  enums : List EnumDecl := []
  deriving DecidableEq

-- ================================================================ paths

/-- A namespace and a simple name as one path. An empty namespace is none. -/
def joinPath (scope : Option String) (name : String) : String :=
  match scope with
  | none => name
  | some outer => if outer = "" then name else outer ++ "::" ++ name

def TypeDecl.fullName (decl : TypeDecl) : String := joinPath decl.scope decl.name

def EnumDecl.fullName (decl : EnumDecl) : String := joinPath decl.scope decl.name

-- ============================================================= readings

def Accessibility.label : Accessibility → String
  | .internal => "Internal"
  | .«private» => "Private"
  | .«protected» => "Protected"
  | .«public» => "Public"

/-- Visible outside the declaring type. -/
def Accessibility.isExternallyVisible : Accessibility → Bool
  | .«public» | .«protected» => true
  | .internal | .«private» => false

namespace TypeDecl

variable (decl : TypeDecl)

/-- The flag of the first bindable annotation. -/
def bindable? : Option Bool :=
  decl.attributes.findSome? fun
    | .bindable onPropertyChanged => some onPropertyChanged
    | .eventRegister => none

def isEventRegister : Bool := decl.attributes.contains .eventRegister

def isValueType : Bool := decl.kind == .struct

def isNested : Bool := decl.parent.isSome

end TypeDecl

namespace FieldDecl

variable (field : FieldDecl)

/-- The name an annotation gives to the property; the last one wins. -/
def explicitName? : Option String :=
  field.attributes.reverse.findSome? fun
    | .propertyName name => some name
    | _ => none

def isSuppressed : Bool := field.attributes.contains .dontNotify

/-- The properties to notify along with this one, as written. -/
def alsoNotify : List String :=
  field.attributes.filterMap fun
    | .alsoNotify target => some target
    | _ => none

/-- The code fragments to splice in, as written. -/
def injections : List (InjectionPoint × String) :=
  field.attributes.filterMap fun
    | .codeInject point code => some (point, code)
    | _ => none

def isAutoNotify : Bool :=
  field.attributes.any fun
    | .autoNotify _ => true
    | _ => false

/-- The name given by an auto-notify annotation; the first that has one wins. -/
def autoNotifyName? : Option String :=
  field.attributes.findSome? fun
    | .autoNotify name => name
    | _ => none

end FieldDecl

def TypeDecl.hasAutoNotifyFields (decl : TypeDecl) : Bool :=
  decl.fields.any FieldDecl.isAutoNotify

/-- The first event-call annotation: its event name and its views. -/
def MethodDecl.eventCall? (method : MethodDecl) : Option (Option String × List String) :=
  method.attributes.findSome? fun
    | .eventCall eventName views => some (eventName, views)

end DataBinding
