/-
Calls of methods by event name. The host supplies the arguments as plain
values; they are read one after the other, each as the kind that the
method wants. Every reading takes exactly one value, whether it succeeds
or not, so that a fault names the right position.
-/
import DataBinding.Live.EnumTable
import DataBinding.Live.Value

namespace DataBinding

-- ================================================================ calls

structure ArgumentInfo where
  typeFullName : String
  kind : ArgumentKind
  name : String
  deriving DecidableEq

/-- A method that the host may call, in a table. -/
structure EventCall where
  eventName : String
  /-- The views that show the event; an empty list means all. -/
  views : List String
  methodName : String
  /-- The type that declares the method. -/
  typeFullName : String
  arguments : List ArgumentInfo
  returnType : Option String
  deriving DecidableEq

def EventCall.isShownIn (call : EventCall) (view : String) : Bool :=
  call.views.isEmpty || call.views.contains view

/-- A value from the host; `κ` are the values that are passed unopened. -/
inductive ArgValue (κ : Type)
  | int (value : Int32)
  | float (value : Single)
  | bool (value : Bool)
  | string (value : String)
  | sprite (value : Sprite)
  | custom (value : κ)
  deriving DecidableEq

def ArgValue.kind {κ : Type} : ArgValue κ → ArgumentKind
  | .int _ => .int
  | .float _ => .float
  | .bool _ => .bool
  | .string _ => .string
  | .sprite _ => .sprite
  | .custom _ => .custom

-- =============================================================== faults

/-- Why a call does not take place. -/
inductive InvokeFault
  | argumentMismatch (method : String) (index : Nat) (expected : ArgumentKind)
  | missingArgument (method : String) (index : Nat)
  | unknownEvent (eventName : String)
  deriving DecidableEq

def InvokeFault.message : InvokeFault → String
  | .argumentMismatch method index expected =>
    "argument " ++ toString index ++ " of '" ++ method ++ "' is not " ++ expected.label
  | .missingArgument method index =>
    "'" ++ method ++ "' is missing argument " ++ toString index
  | .unknownEvent eventName => "no event call named '" ++ eventName ++ "' in this view"

-- ============================================================== reading

/-- How an argument is read: the kind it is announced as, and what values
of that kind are opened to. -/
structure ArgShape (κ α : Type) where
  kind : ArgumentKind
  open? : ArgValue κ → Option α

namespace ArgShape

variable {κ : Type}

def int : ArgShape κ Int32 where
  kind := .int
  open?
    | .int value => some value
    | _ => none

def float : ArgShape κ Single where
  kind := .float
  open?
    | .float value => some value
    | _ => none

def bool : ArgShape κ Bool where
  kind := .bool
  open?
    | .bool value => some value
    | _ => none

def string : ArgShape κ String where
  kind := .string
  open?
    | .string value => some value
    | _ => none

def sprite : ArgShape κ Sprite where
  kind := .sprite
  open?
    | .sprite value => some value
    | _ => none

/-- A value that travels as an integer, from an integer that stands for one. -/
def enumeration {α : Type} (ofInt? : Int32 → Option α) : ArgShape κ α where
  kind := .enum
  open?
    | .int value => ofInt? value
    | _ => none

/-- An enum, from an integer that stands for one of its variants. -/
def enum (type : EnumDescriptor) : ArgShape κ type.Variant := enumeration type.ofInt?

/-- A value that was passed unopened, if it is one of the wanted sort. -/
def custom {α : Type} (unwrap? : κ → Option α) : ArgShape κ α where
  kind := .custom
  open?
    | .custom value => unwrap? value
    | _ => none

end ArgShape

/-- The arguments of one call that are still to be read. -/
structure Args (κ : Type) where
  /-- The method that is called. -/
  method : String
  values : List (ArgValue κ)
  /-- The position of the next value. -/
  index : Nat := 0

namespace Args

variable {κ α : Type}

/-- Read the next argument. -/
def read (args : Args κ) (shape : ArgShape κ α) : Except InvokeFault α × Args κ :=
  let rest := { args with values := args.values.drop 1, index := args.index + 1 }
  match args.values.head? with
  | none => (.error (.missingArgument args.method args.index), rest)
  | some value =>
    match shape.open? value with
    | some opened => (.ok opened, rest)
    | none => (.error (.argumentMismatch args.method args.index shape.kind), rest)

end Args

/-- Reading several arguments up to the first fault. -/
abbrev ReadArgs (κ : Type) := StateT (Args κ) (Except InvokeFault)

def ArgShape.next {κ α : Type} (shape : ArgShape κ α) : ReadArgs κ α := fun args =>
  match args.read shape with
  | (.ok value, rest) => .ok (value, rest)
  | (.error fault, _) => .error fault

/-- Read the arguments of a call. -/
def readArgs {κ α : Type} (call : EventCall) (values : List (ArgValue κ))
    (reading : ReadArgs κ α) : Except InvokeFault α :=
  (reading.run { method := call.methodName, values := values }).map (·.1)

-- ============================================================ registers

/-- The event calls that something answers to. A call with its arguments is
read before anything happens; what it asks for is then an action, of the
type `α`. -/
structure EventRegister (κ α : Type) where
  calls : List EventCall
  invoke : EventCall → List (ArgValue κ) → Except InvokeFault α

namespace EventRegister

variable {κ α : Type} (register : EventRegister κ α)

/-- The first call of an event that is shown in a view. -/
def call? (eventName view : String) : Option EventCall :=
  register.calls.find? fun call => call.eventName == eventName && call.isShownIn view

/-- Invoke an event in a view. -/
def invokeEvent (eventName view : String) (args : List (ArgValue κ)) : Except InvokeFault α :=
  match register.call? eventName view with
  | some call => register.invoke call args
  | none => .error (.unknownEvent eventName)

end EventRegister

end DataBinding
