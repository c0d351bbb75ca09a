/-
The consumer of pushed values. There is a place for at most one. A value
that is pushed goes to the consumer in the place; while that one is
running, or when the place is empty, it goes nowhere. So a consumer that
changes further models does not hear of it, and pushing never nests.
-/
import DataBinding.Live.Change

namespace DataBinding

/-- The place of the consumer. -/
inductive Slot (κ : Type)
  | idle (installed : Option κ)
  | running (consumer : κ)
  deriving DecidableEq

/-- The place, and all that a running consumer may change. -/
structure Stage (κ ω : Type) where
  slot : Slot κ
  world : ω

/-- What consumers do with a value. -/
abbrev Reaction (κ ω : Type) := κ → Delivery → Stage κ ω → Stage κ ω

namespace Stage

variable {κ ω σ : Type}

/-- Push a value. Afterwards the place holds the consumer that it held. -/
def deliver (react : Reaction κ ω) (delivery : Delivery) (stage : Stage κ ω) : Stage κ ω :=
  match stage.slot with
  | .idle (some consumer) =>
    { react consumer delivery { stage with slot := .running consumer } with
      slot := .idle (some consumer) }
  | .idle none | .running _ => stage

/-- Push several values, one after the other. -/
def deliverAll (react : Reaction κ ω) (deliveries : List Delivery) (stage : Stage κ ω) :
    Stage κ ω :=
  deliveries.foldl (fun stage delivery => stage.deliver react delivery) stage

/-- Put a consumer into the place, or nobody; the one that was there comes
out. Not possible while a consumer is running. -/
def install? (consumer : Option κ) (stage : Stage κ ω) : Option (Option κ × Stage κ ω) :=
  match stage.slot with
  | .idle before => some (before, { stage with slot := .idle consumer })
  | .running _ => none

/-- While a consumer is running it does not matter what it would do. -/
theorem deliver_of_running (react : Reaction κ ω) (delivery : Delivery) (stage : Stage κ ω)
    (consumer : κ) (h : stage.slot = .running consumer) :
    stage.deliver react delivery = stage := by
  simp [deliver, h]

end Stage

-- ============================================================ recorders

/-- A consumer that writes down what it receives. -/
inductive Recorder
  | plain
  /-- Also pushes a value of its own for everything it receives. -/
  | reentrant
  deriving DecidableEq

namespace Recorder

/-- What has been received, oldest first. -/
abbrev Log := List Delivery

def record : Reaction Recorder Log := fun _ delivery stage =>
  { stage with world := stage.world ++ [delivery] }

def react : Reaction Recorder Log
  | .plain, delivery, stage => record .plain delivery stage
  | .reentrant, delivery, stage =>
    (record .reentrant delivery stage).deliver record
      ⟨delivery.model, "Reentered", .int 1⟩

end Recorder

end DataBinding
