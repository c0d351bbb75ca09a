/-
What a setter does, read off once. Handlers are called on the way, but
they change nothing and push nothing (`state_raise`, `deliveries_raise`),
so a setter comes to two things: the state with the new value in it, and
one value pushed for the property and for each that follows from it.

If the code behind the write has no room, the setter ends there: the value
is written, and what follows from it is not pushed. That does no harm where
nothing follows (`Accessor.Completes`).
-/
import DataBinding.Live.Model

namespace DataBinding

variable {σ τ : Type}

-- ============================================================== changes

namespace Change

theorem deliveries_andThen (first : Change σ) (next : σ → Change σ) :
    (first.andThen next).deliveries = first.deliveries ++ (next first.state).deliveries :=
  List.filterMap_append

/-- Raising an event pushes nothing. -/
theorem deliveries_raise (place : Part σ (ChangeEvent String)) (property : String) (old : Held)
    (state : σ) : (raise place property old state).deliveries = [] := by
  have calls : (raise place property old state).signals
      = (place.get state).handlers.map fun handler =>
          Signal.raised handler property old (place.put {} state) := by
    simp [raise, ChangeEvent.invoke, Function.comp_def]
  unfold deliveries
  rw [calls, List.filterMap_map]
  exact List.filterMap_eq_nil_iff.2 fun _ _ => rfl

/-- Within a whole the same values are pushed. -/
theorem deliveries_within (outer : Part σ τ) (whole : σ) (change : Change τ) :
    (change.within outer whole).deliveries = change.deliveries := by
  unfold deliveries within
  rw [List.filterMap_map]
  congr 1
  funext signal
  cases signal <;> rfl

end Change

-- ============================================================ accessors

namespace Accessor

variable (accessor : Accessor σ)

/-- The state that the code in front of a reading leaves; without room it
leaves the one that it found. -/
def seen (state : σ) : σ := (accessor.onGet state).getD state

/-- The state that the code behind a write leaves. -/
def settled (state : σ) : σ := (accessor.afterChange state).getD state

/-- The state that a setter leaves when the value is another one. -/
def written (value : accessor.kind.Carrier) (state : σ) : σ :=
  accessor.settled (accessor.part.put value (accessor.beforeChange state))

/-- There is no room behind the write. -/
def overruns (value : accessor.kind.Carrier) (state : σ) : Bool :=
  (accessor.afterChange (accessor.part.put value (accessor.beforeChange state))).isNone

/-- What is announced when the value is written. -/
def followed (value : accessor.kind.Carrier) (state : σ) : List (Reading σ) :=
  if accessor.overruns value state then [] else accessor.followUps

/-- A setter announces all that follows: nothing does, or there always is
room behind the write. -/
def Completes : Prop :=
  accessor.followUps = [] ∨ ∀ state, (accessor.afterChange state).isSome = true

variable {accessor}

theorem Completes.followed_eq (completes : accessor.Completes) (value : accessor.kind.Carrier)
    (state : σ) : accessor.followed value state = accessor.followUps := by
  unfold followed overruns
  rcases completes with nothing | room
  · rw [nothing, ite_self]
  · rw [Option.isNone_eq_false_iff.2 (room _)]
    rfl

/-- Neither readings nor changes are counted. -/
def Uncounted (accessor : Accessor σ) : Prop :=
  accessor.onGet = some ∧ accessor.afterChange = some

theorem Uncounted.seen_eq (uncounted : accessor.Uncounted) : accessor.seen = id := by
  unfold seen
  rw [uncounted.1]
  rfl

theorem Uncounted.settled_eq (uncounted : accessor.Uncounted) : accessor.settled = id := by
  unfold settled
  rw [uncounted.2]
  rfl

theorem Uncounted.overruns_eq (uncounted : accessor.Uncounted) (value : accessor.kind.Carrier)
    (state : σ) : accessor.overruns value state = false := by
  unfold overruns
  rw [uncounted.2]
  rfl

end Accessor

/-- A change of the part that may be refused leaves of the whole what it
leaves of the part. -/
theorem Part.getD_modify? (outer : Part σ τ) (change : τ → Option τ) (whole : σ) :
    (outer.modify? change whole).getD whole
      = outer.modify (fun part => (change part).getD part) whole := by
  unfold modify? modify
  dsimp only
  cases change (outer.get whole) with
  | none => exact (outer.put_get whole).symm
  | some part => rfl

theorem Accessor.seen_within (accessor : Accessor τ) (outer : Part σ τ) :
    (accessor.within outer).seen = outer.modify accessor.seen :=
  funext (outer.getD_modify? accessor.onGet)

theorem Accessor.settled_within (accessor : Accessor τ) (outer : Part σ τ) :
    (accessor.within outer).settled = outer.modify accessor.settled :=
  funext (outer.getD_modify? accessor.afterChange)

theorem Accessor.Completes.within {accessor : Accessor τ} (completes : accessor.Completes)
    (outer : Part σ τ) : (accessor.within outer).Completes := by
  refine completes.imp (fun nothing => ?_) fun room whole => ?_
  · show accessor.followUps.map _ = []
    rw [nothing, List.map_nil]
  · exact (Option.isSome_map).trans (room (outer.get whole))

theorem Accessor.Uncounted.within {accessor : Accessor τ} (uncounted : accessor.Uncounted)
    (outer : Part σ τ) : (accessor.within outer).Uncounted := by
  have same : outer.modify? some = some :=
    funext fun whole => congrArg some (outer.put_get whole)
  constructor
  · show outer.modify? accessor.onGet = some
    rw [uncounted.1, same]
  · show outer.modify? accessor.afterChange = some
    rw [uncounted.2, same]

/-- Reading leaves what the code in front of it leaves. -/
theorem Accessor.fetch_snd (accessor : Accessor σ) (state : σ) :
    (accessor.fetch state).2 = accessor.seen state := by
  unfold fetch seen
  cases accessor.onGet state <;> rfl

-- =============================================================== layers

namespace Layer

variable (layer : Layer σ)

theorem state_raise (property : String) (old : Held) (state : σ) :
    (layer.raise property old state).state = state := by
  unfold raise
  split
  · exact Change.state_raise _ property old state
  · rfl

theorem deliveries_raise (property : String) (old : Held) (state : σ) :
    (layer.raise property old state).deliveries = [] := by
  unfold raise
  split
  · exact Change.deliveries_raise _ property old state
  · rfl

theorem state_write (accessor : Accessor σ) (value : accessor.kind.Carrier) (state : σ) :
    (layer.write accessor value state).state = accessor.part.put value state :=
  layer.state_raise _ _ _

theorem deliveries_write (accessor : Accessor σ) (value : accessor.kind.Carrier) (state : σ) :
    (layer.write accessor value state).deliveries
      = [⟨layer.fullName, accessor.name, accessor.kind.wire value⟩] := by
  unfold write
  rw [Change.deliveries_andThen, deliveries_raise]
  rfl

theorem state_announce (reading : Reading σ) (before state : σ) :
    (layer.announce reading before state).state = state := by
  unfold announce Change.andThen
  dsimp only [push, Change.push]
  split
  · rfl
  · exact layer.state_raise _ _ state

theorem deliveries_announce (reading : Reading σ) (before state : σ) :
    (layer.announce reading before state).deliveries
      = [⟨layer.fullName, reading.name, reading.wired state⟩] := by
  have raised : (if reading.same before state then (⟨state, []⟩ : Change σ)
      else layer.raise reading.name (reading.held before) state).deliveries = [] := by
    split
    · rfl
    · exact layer.deliveries_raise _ _ state
  unfold announce
  rw [Change.deliveries_andThen]
  exact congrArg (_ :: ·) raised

/-- Announcing values one after the other changes nothing and pushes each. -/
theorem announceAll (before : σ) (readings : List (Reading σ)) (change : Change σ) :
    let announced := readings.foldl
      (fun change reading => change.andThen (layer.announce reading before)) change
    announced.state = change.state
      ∧ announced.deliveries = change.deliveries
          ++ readings.map fun reading =>
              ⟨layer.fullName, reading.name, reading.wired change.state⟩ := by
  induction readings generalizing change with
  | nil => exact ⟨rfl, (List.append_nil _).symm⟩
  | cons reading rest ih =>
    have state : (change.andThen (layer.announce reading before)).state = change.state :=
      layer.state_announce reading before change.state
    obtain ⟨stateRest, deliveriesRest⟩ :=
      ih (change.andThen (layer.announce reading before))
    refine ⟨stateRest.trans state, ?_⟩
    rw [List.foldl_cons, deliveriesRest, state, Change.deliveries_andThen, deliveries_announce,
      List.append_assoc]
    rfl

/-- Setting the value that is there does nothing. -/
theorem set_of_same {accessor : Accessor σ} {value : accessor.kind.Carrier} {state : σ}
    (same : accessor.kind.same (accessor.get state) value = true) :
    layer.set accessor value state = .idle state := by
  unfold set
  rw [if_pos same]

/-- Setting another value writes it, and announces what follows from it as
far as there is room. -/
theorem set_of_other {accessor : Accessor σ} {value : accessor.kind.Carrier} {state : σ}
    (other : ¬ accessor.kind.same (accessor.get state) value = true) :
    layer.set accessor value state
      = { toChange := (accessor.followed value state).foldl
            (fun change reading =>
              change.andThen (layer.announce reading (accessor.beforeChange state)))
            { layer.write accessor value (accessor.beforeChange state) with
              state := accessor.written value state }
          overflows := accessor.overruns value state } := by
  unfold set Accessor.followed Accessor.overruns Accessor.written Accessor.settled
  rw [if_neg other]
  dsimp only
  rw [state_write]
  cases accessor.afterChange (accessor.part.put value (accessor.beforeChange state)) with
  | some after => rfl
  | none =>
    have put := layer.state_write accessor value (accessor.beforeChange state)
    exact congrArg (fun left => Course.mk ⟨left, _⟩ true) put

theorem state_set_of_other {accessor : Accessor σ} {value : accessor.kind.Carrier} {state : σ}
    (other : ¬ accessor.kind.same (accessor.get state) value = true) :
    (layer.set accessor value state).state = accessor.written value state := by
  rw [layer.set_of_other other]
  exact (layer.announceAll _ _ _).1

/-- The new value is pushed, and what follows from it. -/
theorem deliveries_set_of_other {accessor : Accessor σ} {value : accessor.kind.Carrier} {state : σ}
    (other : ¬ accessor.kind.same (accessor.get state) value = true) :
    (layer.set accessor value state).deliveries
      = ⟨layer.fullName, accessor.name, accessor.kind.wire value⟩
        :: (accessor.followed value state).map fun reading =>
            ⟨layer.fullName, reading.name, reading.wired (accessor.written value state)⟩ := by
  have pushed := layer.deliveries_write accessor value (accessor.beforeChange state)
  rw [layer.set_of_other other]
  refine (layer.announceAll _ _ _).2.trans ?_
  exact congrArg (· ++ _) pushed

/-- A setter ends early only for want of room behind the write. -/
theorem overflows_set_of_other {accessor : Accessor σ} {value : accessor.kind.Carrier} {state : σ}
    (other : ¬ accessor.kind.same (accessor.get state) value = true) :
    (layer.set accessor value state).overflows = accessor.overruns value state := by
  rw [layer.set_of_other other]

theorem overflows_set_of_uncounted {accessor : Accessor σ} (uncounted : accessor.Uncounted)
    (value : accessor.kind.Carrier) (state : σ) :
    (layer.set accessor value state).overflows = false := by
  by_cases same : accessor.kind.same (accessor.get state) value = true
  · rw [layer.set_of_same same]
    rfl
  · rw [layer.overflows_set_of_other same]
    exact uncounted.overruns_eq value state

end Layer

end DataBinding
