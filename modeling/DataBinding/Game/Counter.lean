/-
Counters, which count in steps of at least one, and tallies, which are
counters with a bonus.
-/
import DataBinding.CheckedInt
import DataBinding.Live.Method
import DataBinding.Live.Model

namespace DataBinding.Game

structure Counter where
  count : Int32 := 0
  caption : String := ""
  /-- Changes of this one are never pushed. -/
  step : Int32 := 0
  deriving DecidableEq

namespace Counter

def countProperty : Accessor Counter where
  name := "Count"
  kind := .single .int
  part := { get := count, put := fun count counter => { counter with count } }

def captionProperty : Accessor Counter where
  name := "Caption"
  kind := .single .string
  part := { get := caption, put := fun caption counter => { counter with caption } }

def stepField : Field Counter where
  name := "Step"
  kind := .single .int
  part := { get := step, put := fun step counter => { counter with step } }

def layer : Layer Counter where
  typeName := "Counter"
  fullName := "game::Counter"
  accessors := [countProperty, captionProperty]

def model : Model Counter where
  initial := {}
  own := layer
  unbound := [stepField]

/-- Count one step further; the new count comes back. -/
def increment : Action Counter Int32 := fun counter =>
  match int32? (counter.count.toInt + max counter.step.toInt 1) with
  | some count => (layer.set countProperty count counter).returning (some count)
  | none => (⟨counter, []⟩, .error {})

end Counter

structure Tally where
  /-- The counter within. -/
  counter : Counter := {}
  bonus : Int32 := 0
  deriving DecidableEq

namespace Tally

def counterPart : Part Tally Counter :=
  { get := counter, put := fun counter tally => { tally with counter } }

def bonusProperty : Accessor Tally where
  name := "Bonus"
  kind := .single .int
  part := { get := bonus, put := fun bonus tally => { tally with bonus } }

def layer : Layer Tally where
  typeName := "Tally"
  fullName := "game::Tally"
  accessors := [bonusProperty]

def model : Model Tally where
  initial := {}
  own := layer
  embedded := [Counter.layer.within counterPart]

end Tally

end DataBinding.Game
