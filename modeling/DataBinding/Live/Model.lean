/-
Bound models. A model has a layer for its own type and one for each type
it embeds; a layer has the accessors of its type. Setting a property to
the value that it has does nothing. Otherwise the new value is pushed,
written and raised, and then every value that follows from it is pushed,
and raised if it is another one than before. Values that come by name
reach all layers, the innermost first.

Code that is injected into accessors may count. It has no more room at
some time, and then the reading or the setter ends where it is.
-/
import DataBinding.CheckedInt
import DataBinding.Live.Change

namespace DataBinding

/-- A field with a setter and a getter that the host sees. -/
structure Accessor (σ : Type) extends Field σ where
  /-- Computed properties that are announced when the field has changed. -/
  followUps : List (Reading σ) := []
  /-- Code in front of a reading; without room the reading does not take
  place. -/
  onGet : σ → Option σ := some
  beforeChange : σ → σ := id
  /-- Code behind a write; without room the setter ends there. -/
  afterChange : σ → Option σ := some

/-- What one type brings to a model. -/
structure Layer (σ : Type) where
  typeName : String
  fullName : String
  isSealed : Bool := false
  accessors : List (Accessor σ)
  /-- Properties with a hand-written getter. -/
  computed : List (Reading σ) := []
  /-- Where handlers subscribe to changes. -/
  events : Option (Part σ (ChangeEvent String)) := none

structure Model (σ : Type) where
  /-- The state that a model starts with. -/
  initial : σ
  own : Layer σ
  /-- The layers of the embedded types, innermost first. -/
  embedded : List (Layer σ) := []
  /-- Fields whose changes nobody hears of. -/
  unbound : List (Field σ) := []

variable {σ τ : Type}

/-- A value by the name of its property. -/
abbrev Entry := String × PropertyValue

-- ================================================================ sending

/-- What is sent. -/
structure Sent where
  entries : List Entry := []
  /-- Sending ended early: the next value could not be read. -/
  overflows : Bool := false
  deriving DecidableEq

instance : Coe Sent (List Entry) := ⟨Sent.entries⟩

/-- Send one after the other, until one ends early. -/
def sendInTurn : List (StateM σ Sent) → StateM σ Sent
  | [] => return {}
  | send :: rest => do
    let sent ← send
    if sent.overflows then return sent
    let later ← sendInTurn rest
    return { later with entries := sent.entries ++ later.entries }

/-- What a getter hands out, if the value could be read. -/
abbrev Fetched := Except Overflow Held

-- ============================================================ accessors

namespace Accessor

variable (accessor : Accessor σ)

/-- What the getter hands out. -/
def fetch : StateM σ (Except Overflow accessor.kind.Carrier) := fun state =>
  match accessor.onGet state with
  | some state => (.ok (accessor.get state), state)
  | none => (.error {}, state)

/-- The property as it is sent when the host asks for it. -/
def send : StateM σ Sent := do
  match ← accessor.fetch with
  | .ok value => return { entries := [(accessor.name, accessor.kind.wire value)] }
  | .error _ => return { overflows := true }

/-- Whether a value on its way is one for the update method that serves
the property. -/
def takes (value : PropertyValue) : Bool :=
  match value.category.dispatchKind? with
  | some kind => accessor.kind.category.dispatchKind? == some kind
  | none => false

def within (accessor : Accessor τ) (outer : Part σ τ) : Accessor σ where
  toField := accessor.toField.within outer
  followUps := accessor.followUps.map (·.within outer)
  onGet := outer.modify? accessor.onGet
  beforeChange := outer.modify accessor.beforeChange
  afterChange := outer.modify? accessor.afterChange

end Accessor

-- =============================================================== layers

namespace Layer

variable (layer : Layer σ)

def push (property : String) (value : PropertyValue) (state : σ) : Change σ :=
  Change.push ⟨layer.fullName, property, value⟩ state

/-- Call the handlers, if the type has any. -/
def raise (property : String) (old : Held) (state : σ) : Change σ :=
  match layer.events with
  | some place => Change.raise place property old state
  | none => ⟨state, []⟩

/-- Push a value that followed, and raise it if it changed. -/
def announce (reading : Reading σ) (before state : σ) : Change σ :=
  (layer.push reading.name (reading.wired state) state).andThen fun state =>
    if reading.same before state then ⟨state, []⟩
    else layer.raise reading.name (reading.held before) state

/-- Push a value, write it, and raise that it was written. -/
def write (accessor : Accessor σ) (value : accessor.kind.Carrier) (state : σ) : Change σ :=
  (layer.push accessor.name (accessor.kind.wire value) state).andThen fun state =>
    layer.raise accessor.name (accessor.held state) (accessor.part.put value state)

/-- The setter of a property. -/
def set (accessor : Accessor σ) (value : accessor.kind.Carrier) (state : σ) : Course σ :=
  if accessor.kind.same (accessor.get state) value then .idle state
  else
    let before := accessor.beforeChange state
    let written := layer.write accessor value before
    match accessor.afterChange written.state with
    | none => { toChange := written, overflows := true }
    | some after =>
      { toChange := accessor.followUps.foldl
          (fun change reading => change.andThen (layer.announce reading before))
          { written with state := after } }

/-- Assign a value that comes by name. -/
def update (name : String) (value : PropertyValue) (state : σ) : Course σ :=
  match layer.accessors.find? fun accessor => accessor.name == name && accessor.takes value with
  | some accessor =>
    match accessor.kind.ofWire? value with
    | some value => layer.set accessor value state
    | none => .idle state
  | none => .idle state

def sendAll : StateM σ Sent := sendInTurn (layer.accessors.map (·.send))

def sendOne (name : String) : StateM σ Sent :=
  sendInTurn ((layer.accessors.find? (·.name == name)).toList.map (·.send))

/-- The layer of a model that is part of another one. -/
def within (layer : Layer τ) (outer : Part σ τ) : Layer σ where
  typeName := layer.typeName
  fullName := layer.fullName
  isSealed := layer.isSealed
  accessors := layer.accessors.map (·.within outer)
  computed := layer.computed.map (·.within outer)
  events := layer.events.map (·.within outer)

end Layer

-- =============================================================== models

namespace Model

variable (model : Model σ)

/-- All layers, innermost first. -/
def layers : List (Layer σ) := model.embedded ++ [model.own]

/-- Assign a value by name, in every layer that has such a property. -/
def update (name : String) (value : PropertyValue) (state : σ) : Course σ :=
  model.layers.foldl (fun course layer => course.andThen (layer.update name value)) (.idle state)

/-- Send all properties. -/
def sendAll : StateM σ Sent := sendInTurn (model.layers.map (·.sendAll))

/-- Send the properties of a name. -/
def sendOne (name : String) : StateM σ Sent := sendInTurn (model.layers.map (·.sendOne name))

/-- Call the setter of a name that the type itself has, if the value is
one for it. -/
def assign? (name : String) (value : PropertyValue) (state : σ) : Option (Course σ) :=
  match model.own.accessors.find? (·.name == name) with
  | some accessor =>
    (accessor.kind.ofWire? value).map fun value => model.own.set accessor value state
  | none => do
    let field ← model.unbound.find? (·.name == name)
    let value ← field.kind.ofWire? value
    return { state := field.part.put value state }

/-- Call the getter of a name that the type itself has. -/
def fetch? (name : String) (state : σ) : Option (Fetched × σ) :=
  match model.own.accessors.find? (·.name == name) with
  | some accessor =>
    let (fetched, state) := accessor.fetch state
    some (fetched.map fun value => ⟨accessor.kind, value⟩, state)
  | none => (model.unbound.find? (·.name == name)).map fun field => (.ok (field.held state), state)

/-- The properties of a type and of those that it embeds; of several with
one name the outermost counts. -/
def properties : List PropertyInfo :=
  let add (listed : List PropertyInfo) (more : List PropertyInfo) : List PropertyInfo :=
    listed ++ more.filter fun info => !(listed.map (·.name)).contains info.name
  let own := model.own.accessors.map (·.info false) ++ model.own.computed.map Reading.info
  model.embedded.reverse.foldl
    (fun listed layer =>
      add listed (layer.accessors.map (·.info true) ++ layer.computed.map Reading.info))
    own

def typeInfo : TypeInfo :=
  ⟨model.own.typeName, model.own.fullName, model.own.isSealed, model.properties⟩

/-- The enums that the listed properties show. -/
def enums : List EnumDescriptor :=
  model.layers.flatMap fun layer => layer.accessors.filterMap (·.kind.enum?)

end Model

end DataBinding
