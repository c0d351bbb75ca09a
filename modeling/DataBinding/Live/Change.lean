/-
Changes of a model. What an operation does is the state that it leaves and
the signals that it sends on the way: values pushed to the consumer, and
calls of the handlers that subscribed to changes. Signals are listed in
the order in which they are sent.

An operation may end before it is done, over a number that grew too large.
What it has done by then stays, and nothing comes behind it.
-/
import DataBinding.Live.ChangeEvent
import DataBinding.Live.Field

namespace DataBinding

/-- A value that is pushed to the consumer. -/
structure Delivery where
  /-- The full name of the type that the setter belongs to. -/
  model : String
  property : String
  value : PropertyValue
  deriving DecidableEq

inductive Signal (σ : Type)
  | pushed (delivery : Delivery)
  /-- A handler is called; it is shown the value that is no more and the
  state as it is now. -/
  | raised (handler property : String) (old : Held) (owner : σ)

structure Change (σ : Type) where
  state : σ
  signals : List (Signal σ) := []

/-- How an operation goes. -/
structure Course (σ : Type) extends Change σ where
  /-- It ends before it is done: a number grew too large. -/
  overflows : Bool := false

variable {σ τ : Type}

namespace Signal

def map (f : τ → σ) : Signal τ → Signal σ
  | .pushed delivery => .pushed delivery
  | .raised handler property old owner => .raised handler property old (f owner)

def delivery? : Signal σ → Option Delivery
  | .pushed delivery => some delivery
  | .raised _ _ _ _ => none

end Signal

namespace Change

/-- One change after the other. -/
def andThen (first : Change σ) (next : σ → Change σ) : Change σ :=
  let second := next first.state
  ⟨second.state, first.signals ++ second.signals⟩

/-- The change of a whole whose part changes. -/
def within (outer : Part σ τ) (whole : σ) (change : Change τ) : Change σ where
  state := outer.put change.state whole
  signals := change.signals.map (Signal.map fun owner => outer.put owner whole)

/-- The values pushed by a change. -/
def deliveries (change : Change σ) : List Delivery := change.signals.filterMap Signal.delivery?

/-- Push a value. -/
def push (delivery : Delivery) (state : σ) : Change σ := ⟨state, [.pushed delivery]⟩

/-- Call the handlers of an event. The event is out of its place meanwhile,
and what subscribed to the place in between comes behind. -/
def raise (place : Part σ (ChangeEvent String)) (property : String) (old : Held) (state : σ) :
    Change σ :=
  let owner := place.put {} state
  let (event, calls) :=
    (place.get state).invoke fun handler => (handler, Signal.raised handler property old owner)
  ⟨place.put (event.absorb (place.get owner)).1 owner, calls⟩

/-- Raising an event leaves the state as it was. -/
theorem state_raise (place : Part σ (ChangeEvent String)) (property : String) (old : Held)
    (state : σ) : (raise place property old state).state = state := by
  simp [raise, ChangeEvent.invoke, ChangeEvent.absorb, Function.comp_def]
  exact place.put_get state

end Change

namespace Course

instance : Coe (Course σ) (Change σ) := ⟨toChange⟩

/-- Nothing is done. -/
def idle (state : σ) : Course σ := { state }

/-- One operation after the other, if the first comes to its end. -/
def andThen (first : Course σ) (next : σ → Course σ) : Course σ :=
  if first.overflows then first
  else
    { toChange := first.toChange.andThen fun state => next state
      overflows := (next first.state).overflows }

/-- How it goes with a whole when an operation is done to its part. -/
def within (outer : Part σ τ) (whole : σ) (course : Course τ) : Course σ where
  toChange := course.toChange.within outer whole
  overflows := course.overflows

end Course

end DataBinding
