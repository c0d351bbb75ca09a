/-
The place of the consumer over whole runs. A run is a list of trees: a value
that is pushed is received by a consumer, which calls setters of further
models, which push values and call handlers, and so on. At every time the
place is in one of two states, idle or running, and what happens to a value
depends on that state and on who was put in last, on nothing else
(`runs_keepProtocol`).

# From trees to records

Trees are done by recursion (`Act.perform`), and what is done is written down
in a record. What is proved of trees is only this: whatever the stage, what
is done to it adds a record that the protocol allows, and changes the models
as the setters in the record do (`Proper`). That goes up a tree node by node,
one lemma for each kind of node. All else is proved of records, by induction
on how they come about (`Follows`).

# What is inside

A setter looks at its model alone, and that model cannot be reached from
inside: code that calls a setter has the model to itself until the setter is
done. So models whose setters are running are left out (`busy`), and it does
not matter that here a setter writes its model only after all its signals
were received. A setter that ends early is done then, and whoever called it
goes on.
-/
import DataBinding.Game.Foe
import DataBinding.Live.Consumer
import DataBinding.Live.Model
import DataBinding.Proofs.Setters
import Mathlib.Logic.Function.Basic

namespace DataBinding

variable {ι κ : Type} {σ : ι → Type}

-- ================================================================== acts

/-- What code does, with all that is done inside of it. -/
inductive Act (κ : Type) (σ : ι → Type)
  /-- Put a consumer into the place, or nobody. -/
  | install (consumer : Option κ)
  /-- Push a value. The consumer that receives it, if one does, does what is
  inside. -/
  | push (delivery : Delivery) (inside : List (Act κ σ))
  /-- Call the setter of a property of a model. Whoever receives the signal
  of a number does what is inside under that number. -/
  | set (model : ι) (layer : Layer (σ model)) (accessor : Accessor (σ model))
      (value : accessor.kind.Carrier) (inside : Nat → List (Act κ σ))

/-- What there is to be seen of a run. -/
inductive Occurrence (κ : Type) (σ : ι → Type)
  /-- A consumer, or nobody, was put into the place, and what was there came
  out. -/
  | installed (before after : Option κ)
  /-- Nothing could be put into the place, since a consumer is running. -/
  | refused (consumer : Option κ)
  | pushed (delivery : Delivery)
  | received (consumer : κ) (delivery : Delivery)
  /-- A consumer is done with what it received. -/
  | finished (consumer : κ)
  /-- A setter is done. -/
  | wrote (model : ι) (layer : Layer (σ model)) (accessor : Accessor (σ model))
      (value : accessor.kind.Carrier)

/-- The models, and what has occurred, oldest first. -/
structure Scene (κ : Type) (σ : ι → Type) where
  states : ∀ model, σ model
  record : List (Occurrence κ σ)

-- ============================================================== protocol

/-- What may occur, given how the place of the consumer is, and how it is
afterwards. -/
inductive Follows : Slot κ → List (Occurrence κ σ) → Slot κ → Prop
  | nothing {slot : Slot κ} : Follows slot [] slot
  | installed {before after : Option κ} {rest : List (Occurrence κ σ)} {slot : Slot κ}
      (next : Follows (.idle after) rest slot) :
      Follows (.idle before) (.installed before after :: rest) slot
  | refused {running : κ} {consumer : Option κ} {rest : List (Occurrence κ σ)} {slot : Slot κ}
      (next : Follows (.running running) rest slot) :
      Follows (.running running) (.refused consumer :: rest) slot
  /-- With a consumer in the place that is not running, a value is received. -/
  | delivered {consumer : κ} {delivery : Delivery} {inside rest : List (Occurrence κ σ)}
      {slot : Slot κ} (within : Follows (.running consumer) inside (.running consumer))
      (next : Follows (.idle (some consumer)) rest slot) :
      Follows (.idle (some consumer))
        (.pushed delivery :: .received consumer delivery :: (inside ++ .finished consumer :: rest))
        slot
  /-- Otherwise it goes nowhere. -/
  | unheard {delivery : Delivery} {rest : List (Occurrence κ σ)} {slot : Slot κ}
      (next : Follows (.idle none) rest slot) : Follows (.idle none) (.pushed delivery :: rest) slot
  | dropped {running : κ} {delivery : Delivery} {rest : List (Occurrence κ σ)} {slot : Slot κ}
      (next : Follows (.running running) rest slot) :
      Follows (.running running) (.pushed delivery :: rest) slot
  | wrote {model : ι} {layer : Layer (σ model)} {accessor : Accessor (σ model)}
      {value : accessor.kind.Carrier} {rest : List (Occurrence κ σ)} {slot slot' : Slot κ}
      (next : Follows slot rest slot') :
      Follows slot (.wrote model layer accessor value :: rest) slot'

variable {slot slot' slot'' : Slot κ} {record later : List (Occurrence κ σ)}

theorem Follows.append (follows : Follows slot record slot') (next : Follows slot' later slot'') :
    Follows slot (record ++ later) slot'' := by
  induction follows with
  | nothing => exact next
  | installed _ ih => exact .installed (ih next)
  | refused _ ih => exact .refused (ih next)
  | delivered within _ _ ih =>
    rw [List.cons_append, List.cons_append, List.append_assoc]
    exact .delivered within (ih next)
  | unheard _ ih => exact .unheard (ih next)
  | dropped _ ih => exact .dropped (ih next)
  | wrote _ ih => exact .wrote (ih next)

/-- Where nobody is running, nobody is in the end. -/
theorem Follows.of_idle {before : Option κ} (follows : Follows (.idle before) record slot) :
    ∃ last, slot = .idle last := by
  generalize started : Slot.idle before = start at follows
  induction follows generalizing before with
  | nothing => exact ⟨before, started.symm⟩
  | installed _ ih => exact ih rfl
  | delivered _ _ _ ih => exact ih rfl
  | unheard _ ih => exact ih rfl
  | wrote _ ih => exact ih started
  | _ => cases started

-- ============================================================== receipts

/-- Who received what. -/
def Occurrence.receipt? : Occurrence κ σ → Option (κ × Delivery)
  | .received consumer delivery => some (consumer, delivery)
  | _ => none

/-- Who should receive what, given who was put into the place and whether
that one is running: the values that are pushed while somebody is there and
not running. -/
def owed : Option κ → Bool → List (Occurrence κ σ) → List (κ × Delivery)
  | _, _, [] => []
  | _, isRunning, .installed _ after :: rest => owed after isRunning rest
  | installed, _, .received _ _ :: rest => owed installed true rest
  | installed, _, .finished _ :: rest => owed installed false rest
  | installed, isRunning, .pushed delivery :: rest =>
    (if isRunning then [] else installed.toList.map (·, delivery)) ++ owed installed isRunning rest
  | installed, isRunning, .refused _ :: rest => owed installed isRunning rest
  | installed, isRunning, .wrote _ _ _ _ :: rest => owed installed isRunning rest

/-- Who is in the place, running or not. -/
def Slot.occupant : Slot κ → Option κ
  | .idle installed => installed
  | .running consumer => some consumer

def Slot.isRunning : Slot κ → Bool
  | .idle _ => false
  | .running _ => true

/-- A consumer that is running is still running after all that occurs, and
meanwhile nothing is received and nothing is owed. -/
theorem Follows.of_running {consumer : κ} (follows : Follows (.running consumer) record slot) :
    slot = .running consumer ∧ record.filterMap Occurrence.receipt? = []
      ∧ ∀ later : List (Occurrence κ σ),
        owed (some consumer) true (record ++ later) = owed (some consumer) true later := by
  generalize started : Slot.running consumer = start at follows
  induction follows with
  | nothing => exact ⟨rfl, rfl, fun _ => rfl⟩
  | refused _ ih => exact ih started
  | dropped _ ih => exact ih started
  | wrote _ ih => exact ih started
  | _ => cases started

/-- Just those values are received that are owed, in their order, and by
those to whom they are owed. -/
theorem Follows.receipts (follows : Follows slot record slot') :
    record.filterMap Occurrence.receipt? = owed slot.occupant slot.isRunning record := by
  induction follows with
  | nothing => rfl
  | installed _ ih => exact ih
  | refused _ ih => exact ih
  | @delivered consumer delivery inside rest _ within _ _ ih =>
    obtain ⟨-, nothing, same⟩ := within.of_running
    have received : (Occurrence.pushed delivery :: .received consumer delivery
          :: (inside ++ .finished consumer :: rest)).filterMap Occurrence.receipt?
        = (consumer, delivery)
          :: (inside.filterMap Occurrence.receipt? ++ rest.filterMap Occurrence.receipt?) :=
      congrArg ((consumer, delivery) :: ·) List.filterMap_append
    rw [received, nothing, List.nil_append, ih]
    exact congrArg ((consumer, delivery) :: ·) (same (.finished consumer :: rest)).symm
  | unheard _ ih => exact ih
  | dropped _ ih => exact ih
  | wrote _ ih => exact ih

-- =============================================================== installs

/-- Who was put into the place. -/
def Occurrence.putIn? : Occurrence κ σ → Option (Option κ)
  | .installed _ after => some after
  | _ => none

/-- Who came out of the place. -/
def Occurrence.cameOut? : Occurrence κ σ → Option (Option κ)
  | .installed before _ => some before
  | _ => none

/-- What is selected of a delivery is selected inside of it, if it is nothing
of the delivery itself. -/
theorem filterMap_delivered {β : Type} {select : Occurrence κ σ → Option β} {consumer : κ}
    {delivery : Delivery} {inside rest : List (Occurrence κ σ)}
    (itself : ∀ occurrence ∈ [.pushed delivery, .received consumer delivery, .finished consumer],
      select occurrence = none) :
    (Occurrence.pushed delivery :: .received consumer delivery
        :: (inside ++ .finished consumer :: rest)).filterMap select
      = inside.filterMap select ++ rest.filterMap select := by
  simp only [List.forall_mem_cons] at itself
  rw [List.filterMap_cons_none itself.1, List.filterMap_cons_none itself.2.1,
    List.filterMap_append, List.filterMap_cons_none itself.2.2.1]

/-- Who is put in comes out next, whatever is received in between; and who is
put in last is in the place in the end. -/
theorem Follows.installs (follows : Follows slot record slot') :
    slot.occupant :: record.filterMap Occurrence.putIn?
      = record.filterMap Occurrence.cameOut? ++ [slot'.occupant] := by
  induction follows with
  | nothing => rfl
  | @installed before after rest _ _ ih => exact congrArg (before :: ·) ih
  | refused _ ih => exact ih
  | @delivered consumer delivery inside rest slot _ _ ihWithin ih =>
    rw [filterMap_delivered (by simp [Occurrence.putIn?]),
      filterMap_delivered (by simp [Occurrence.cameOut?]), List.append_assoc, ← ih]
    calc some consumer
          :: (inside.filterMap Occurrence.putIn? ++ rest.filterMap Occurrence.putIn?)
        = (inside.filterMap Occurrence.cameOut? ++ [some consumer])
            ++ rest.filterMap Occurrence.putIn? := congrArg (· ++ _) ihWithin
      _ = inside.filterMap Occurrence.cameOut?
            ++ some consumer :: rest.filterMap Occurrence.putIn? := List.append_assoc _ _ _
  | unheard _ ih => exact ih
  | dropped _ ih => exact ih
  | wrote _ ih => exact ih

-- ============================================================= performing

namespace Stage

/-- Write down that something occurred. -/
def note (stage : Stage κ (Scene κ σ)) (occurrence : Occurrence κ σ) : Stage κ (Scene κ σ) :=
  { stage with world := { stage.world with record := stage.world.record ++ [occurrence] } }

/-- Push a value to a consumer that does something with it. -/
def push (inside : Stage κ (Scene κ σ) → Stage κ (Scene κ σ)) (delivery : Delivery)
    (stage : Stage κ (Scene κ σ)) : Stage κ (Scene κ σ) :=
  (stage.note (.pushed delivery)).deliver
    (fun consumer delivery stage =>
      (inside (stage.note (.received consumer delivery))).note (.finished consumer))
    delivery

/-- Send the signals of a setter; what receives them does something. -/
def send {τ : Type} (inside : Nat → Stage κ (Scene κ σ) → Stage κ (Scene κ σ)) :
    List (Signal τ) → Stage κ (Scene κ σ) → Stage κ (Scene κ σ)
  | [], stage => stage
  | .pushed delivery :: rest, stage =>
    send (fun number => inside (number + 1)) rest (stage.push (inside 0) delivery)
  | .raised _ _ _ _ :: rest, stage =>
    send (fun number => inside (number + 1)) rest (inside 0 stage)

variable [DecidableEq ι]

/-- Leave a model as its setter leaves it. -/
def write (model : ι) (layer : Layer (σ model)) (accessor : Accessor (σ model))
    (value : accessor.kind.Carrier) (left : σ model) (stage : Stage κ (Scene κ σ)) :
    Stage κ (Scene κ σ) :=
  Stage.note
    { stage with
      world := { stage.world with states := Function.update stage.world.states model left } }
    (.wrote model layer accessor value)

end Stage

variable [DecidableEq ι]

mutual

/-- Do something, while the setters of some models are running. These models
cannot be set meanwhile. -/
def Act.perform (busy : List ι) : Act κ σ → Stage κ (Scene κ σ) → Stage κ (Scene κ σ)
  | .install consumer, stage =>
    match stage.install? consumer with
    | some (before, stage) => stage.note (.installed before consumer)
    | none => stage.note (.refused consumer)
  | .push delivery inside, stage => stage.push (performAll busy inside) delivery
  | .set model layer accessor value inside, stage =>
    if model ∈ busy then stage
    else
      let change := layer.set accessor value (stage.world.states model)
      (stage.send (fun number => performAll (model :: busy) (inside number)) change.signals).write
        model layer accessor value change.state

/-- Do several things, one after the other. -/
def performAll (busy : List ι) : List (Act κ σ) → Stage κ (Scene κ σ) → Stage κ (Scene κ σ)
  | [], stage => stage
  | act :: rest, stage => performAll busy rest (act.perform busy stage)

end

/-- What a run makes of some models, with somebody in the place or nobody. -/
def run (first : Option κ) (states : ∀ model, σ model) (acts : List (Act κ σ)) :
    Stage κ (Scene κ σ) :=
  performAll [] acts ⟨.idle first, ⟨states, []⟩⟩

-- =============================================================== passages

/-- The states of the models after what occurred: setters write, and nothing
else does. -/
def Occurrence.leave (states : ∀ model, σ model) : Occurrence κ σ → ∀ model, σ model
  | .wrote model layer accessor value =>
    Function.update states model (layer.set accessor value (states model)).state
  | _ => states

def afterWrites (record : List (Occurrence κ σ)) (states : ∀ model, σ model) :
    ∀ model, σ model :=
  record.foldl Occurrence.leave states

/-- A setter of a model is done. -/
def Occurrence.Writes (model : ι) : Occurrence κ σ → Prop
  | .wrote other _ _ _ => other = model
  | _ => False

/-- What occurs on the way from one stage to another, while the setters of
some models are running. -/
structure Passes (busy : List ι) (record : List (Occurrence κ σ))
    (stage stage' : Stage κ (Scene κ σ)) : Prop where
  noted : stage'.world.record = stage.world.record ++ record
  follows : Follows stage.slot record stage'.slot
  states : stage'.world.states = afterWrites record stage.world.states
  spared : ∀ occurrence ∈ record, ∀ model ∈ busy, ¬ occurrence.Writes model

/-- Something is done that goes by the protocol, whatever the stage. -/
def Proper (busy : List ι) (done : Stage κ (Scene κ σ) → Stage κ (Scene κ σ)) : Prop :=
  ∀ stage, ∃ record, Passes busy record stage (done stage)

variable {busy : List ι} {stage stage' stage'' : Stage κ (Scene κ σ)}

theorem Passes.nothing (busy : List ι) (stage : Stage κ (Scene κ σ)) :
    Passes busy [] stage stage :=
  ⟨(List.append_nil _).symm, .nothing, rfl, List.forall_mem_nil _⟩

/-- One after the other. -/
theorem Passes.append (passes : Passes busy record stage stage')
    (next : Passes busy later stage' stage'') : Passes busy (record ++ later) stage stage'' where
  noted := by rw [next.noted, passes.noted, List.append_assoc]
  follows := passes.follows.append next.follows
  states := by rw [next.states, passes.states, afterWrites, afterWrites, afterWrites,
    List.foldl_append]
  spared := List.forall_mem_append.2 ⟨passes.spared, next.spared⟩

theorem Proper.nothing : Proper busy fun stage : Stage κ (Scene κ σ) => stage :=
  fun stage => ⟨[], .nothing busy stage⟩

theorem Proper.andThen {first next : Stage κ (Scene κ σ) → Stage κ (Scene κ σ)}
    (proper : Proper busy first) (properNext : Proper busy next) :
    Proper busy fun stage => next (first stage) := by
  intro stage
  obtain ⟨record, passes⟩ := proper stage
  obtain ⟨later, passesNext⟩ := properNext (first stage)
  exact ⟨record ++ later, passes.append passesNext⟩

/-- A model that no setter writes stays as it is. -/
theorem afterWrites_of_spared {model : ι}
    (spared : ∀ occurrence ∈ record, ¬ occurrence.Writes model) (states : ∀ model, σ model) :
    afterWrites record states model = states model := by
  induction record generalizing states with
  | nil => rfl
  | cons occurrence rest ih =>
    obtain ⟨here, later⟩ := List.forall_mem_cons.1 spared
    have kept : occurrence.leave states model = states model := by
      cases occurrence with
      | wrote other layer accessor value => exact Function.update_of_ne (Ne.symm here) _ _
      | _ => rfl
    exact (ih later (occurrence.leave states)).trans kept

/-- Pushing is proper if what a consumer does with the value is. -/
theorem proper_push {inside : Stage κ (Scene κ σ) → Stage κ (Scene κ σ)}
    (proper : Proper busy inside) (delivery : Delivery) :
    Proper busy (Stage.push inside delivery) := by
  rintro ⟨slot, states, record⟩
  match slot with
  | .idle none =>
    exact ⟨[.pushed delivery], rfl, .unheard .nothing, rfl, by simp [Occurrence.Writes]⟩
  | .running consumer =>
    exact ⟨[.pushed delivery], rfl, .dropped .nothing, rfl, by simp [Occurrence.Writes]⟩
  | .idle (some consumer) =>
    let begun : Stage κ (Scene κ σ) :=
      ⟨.running consumer, states, record ++ [.pushed delivery] ++ [.received consumer delivery]⟩
    obtain ⟨within, passes⟩ := proper begun
    have running : (inside begun).slot = .running consumer := passes.follows.of_running.1
    have follows : Follows (.running consumer) within (.running consumer) := by
      have follows := passes.follows
      rw [running] at follows
      exact follows
    refine ⟨.pushed delivery :: .received consumer delivery :: (within ++ [.finished consumer]),
      ?_, .delivered follows .nothing, ?_, ?_⟩
    · show (inside begun).world.record ++ [Occurrence.finished consumer] = _
      rw [passes.noted]
      simp [begun]
    · show (inside begun).world.states
        = (within ++ [Occurrence.finished consumer]).foldl Occurrence.leave states
      rw [List.foldl_append]
      exact passes.states
    · intro occurrence among model isBusy
      simp only [List.mem_cons, List.mem_append, List.not_mem_nil, or_false] at among
      rcases among with rfl | rfl | among | rfl
      · exact id
      · exact id
      · exact passes.spared occurrence among model isBusy
      · exact id

/-- So is sending signals. -/
theorem proper_send {τ : Type} {inside : Nat → Stage κ (Scene κ σ) → Stage κ (Scene κ σ)}
    (proper : ∀ number, Proper busy (inside number)) (signals : List (Signal τ)) :
    Proper busy (Stage.send inside signals) := by
  induction signals generalizing inside with
  | nil => exact .nothing
  | cons signal rest ih =>
    have later := @ih (fun number => inside (number + 1)) fun number => proper (number + 1)
    cases signal with
    | pushed delivery => exact (proper_push (proper 0) delivery).andThen later
    | raised handler property old owner => exact (proper 0).andThen later

/-- So is a setter that is not running yet: what is done inside of it leaves
its model alone, so in the end it writes what it would write with nobody
listening. -/
theorem proper_set {model : ι} (free : model ∉ busy) (layer : Layer (σ model))
    (accessor : Accessor (σ model)) (value : accessor.kind.Carrier)
    {inside : Nat → Stage κ (Scene κ σ) → Stage κ (Scene κ σ)}
    (proper : ∀ number, Proper (model :: busy) (inside number)) :
    Proper busy fun stage =>
      let change := layer.set accessor value (stage.world.states model)
      (stage.send inside change.signals).write model layer accessor value change.state := by
  intro stage
  dsimp only
  generalize changes : layer.set accessor value (stage.world.states model) = change
  obtain ⟨record, passes⟩ := proper_send proper change.signals stage
  have alone : afterWrites record stage.world.states model = stage.world.states model :=
    afterWrites_of_spared
      (fun occurrence among => passes.spared occurrence among model List.mem_cons_self) _
  refine ⟨record ++ [.wrote model layer accessor value], ?_,
    passes.follows.append (.wrote .nothing), ?_, ?_⟩
  · show (stage.send inside change.signals).world.record ++ _ = _
    rw [passes.noted, List.append_assoc]
  · show Function.update (stage.send inside change.signals).world.states model change.state
      = (record ++ [Occurrence.wrote model layer accessor value]).foldl Occurrence.leave
          stage.world.states
    rw [List.foldl_append, passes.states, ← changes, ← alone]
    rfl
  · intro occurrence among other isBusy
    rcases List.mem_append.1 among with among | last
    · exact passes.spared occurrence among other (List.mem_cons_of_mem model isBusy)
    · cases List.mem_singleton.1 last
      rintro rfl
      exact free isBusy

mutual

/-- Whatever is done goes by the protocol. -/
theorem proper_perform (busy : List ι) : (act : Act κ σ) → Proper busy (act.perform busy)
  | .install consumer => by
    rintro ⟨slot, states, record⟩
    cases slot with
    | idle before =>
      exact ⟨[.installed before consumer], rfl, .installed .nothing, rfl,
        by simp [Occurrence.Writes]⟩
    | running running =>
      exact ⟨[.refused consumer], rfl, .refused .nothing, rfl, by simp [Occurrence.Writes]⟩
  | .push delivery inside => proper_push (proper_performAll busy inside) delivery
  | .set model layer accessor value inside => by
    intro stage
    unfold Act.perform
    split
    · exact Proper.nothing stage
    · next free =>
      exact proper_set free layer accessor value
        (fun number => proper_performAll (model :: busy) (inside number)) stage

theorem proper_performAll (busy : List ι) :
    (acts : List (Act κ σ)) → Proper busy (performAll busy acts)
  | [] => .nothing
  | act :: rest => (proper_perform busy act).andThen (proper_performAll busy rest)

end

-- ============================================================ whole runs

/-- The field has the value, or one that is the same. -/
def Accessor.Holds {τ : Type} (accessor : Accessor τ) (value : accessor.kind.Carrier) (state : τ) :
    Prop :=
  accessor.get state = value ∨ accessor.kind.same (accessor.get state) value = true

/-- A setter leaves its value in the field, unless the code injected behind
the write puts another one there. -/
theorem holds_set {τ : Type} (layer : Layer τ) {accessor : Accessor τ}
    (steady : ∀ state, accessor.get (accessor.settled state) = accessor.get state)
    (value : accessor.kind.Carrier) (state : τ) :
    accessor.Holds value (layer.set accessor value state).state := by
  by_cases same : accessor.kind.same (accessor.get state) value = true
  · rw [layer.set_of_same same]
    exact Or.inr same
  · rw [layer.state_set_of_other same]
    exact Or.inl ((steady _).trans (accessor.part.get_put _ _))

/-- What is to be said of a run, given who was in the place at first and how
the models were. -/
structure KeepsProtocol (first : Option κ) (states : ∀ model, σ model)
    (ended : Stage κ (Scene κ σ)) : Prop where
  follows : Follows (.idle first) ended.world.record ended.slot
  /-- What is pushed while a consumer is in the place and not running is
  received by it, once and in order, and nothing else is received. -/
  receipts : ended.world.record.filterMap Occurrence.receipt?
    = owed first false ended.world.record
  /-- Who is put in comes out when the next one is put in. Nobody is running
  in the end, and in the place is who was put in last. -/
  installs : ∃ last, ended.slot = .idle last
    ∧ first :: ended.world.record.filterMap Occurrence.putIn?
      = ended.world.record.filterMap Occurrence.cameOut? ++ [last]
  /-- The models are as the setters leave them one after the other. -/
  states : ended.world.states = afterWrites ended.world.record states
  /-- The value that was set last is in its field. -/
  fields : ∀ earlier later model layer accessor value,
    ended.world.record = earlier ++ .wrote model layer accessor value :: later →
    (∀ occurrence ∈ later, ¬ occurrence.Writes model) →
    (∀ state, accessor.get (accessor.settled state) = accessor.get state) →
      accessor.Holds value (ended.world.states model)

/-- A push leaves in the place who was there, whatever is done inside. -/
theorem slot_deliver {ω : Type} (react : Reaction κ ω) (delivery : Delivery) (stage : Stage κ ω) :
    (stage.deliver react delivery).slot = stage.slot := by
  unfold Stage.deliver
  split
  · next consumer idle => exact idle.symm
  · rfl
  · rfl

/-- Runs keep the protocol. A push leaves the place as it was, also one
whose value goes nowhere; and a setter that is called in between leaves its
value in the field all the same. -/
theorem runs_keepProtocol :
    (∀ (first : Option κ) (states : ∀ model, σ model) (acts : List (Act κ σ)),
        KeepsProtocol first states (run first states acts))
      ∧ (∀ (react : Reaction κ (Scene κ σ)) (delivery : Delivery) (stage : Stage κ (Scene κ σ)),
        (stage.deliver react delivery).slot = stage.slot)
      ∧ ∀ (busy : List ι) (model : ι), model ∉ busy → ∀ (layer : Layer (σ model))
          (accessor : Accessor (σ model)) (value : accessor.kind.Carrier)
          (inside : Nat → List (Act κ σ)) (stage : Stage κ (Scene κ σ)),
        (∀ state, accessor.get (accessor.settled state) = accessor.get state) →
          accessor.Holds value
            (((Act.set model layer accessor value inside).perform busy stage).world.states
              model) := by
  refine ⟨fun first states acts => ?_, slot_deliver, ?_⟩
  · obtain ⟨record, passes⟩ := proper_performAll [] acts ⟨.idle first, ⟨states, []⟩⟩
    have noted : (run first states acts).world.record = record := passes.noted
    have follows : Follows (.idle first) record (run first states acts).slot := passes.follows
    have left : (run first states acts).world.states = afterWrites record states := passes.states
    constructor
    · rw [noted]
      exact follows
    · rw [noted]
      exact follows.receipts
    · obtain ⟨last, idle⟩ := follows.of_idle
      have installs := follows.installs
      rw [idle] at installs
      exact ⟨last, idle, noted ▸ installs⟩
    · rw [noted, left]
    · intro earlier later model layer accessor value written lastWrite steady
      have final : (run first states acts).world.states model
          = (layer.set accessor value (afterWrites earlier states model)).state := by
        rw [left, ← noted, written, afterWrites, List.foldl_append, List.foldl_cons]
        exact (afterWrites_of_spared lastWrite _).trans (Function.update_self _ _ _)
      rw [final]
      exact holds_set layer steady value _
  · intro busy model free layer accessor value inside stage steady
    have left : ((Act.set model layer accessor value inside).perform busy stage).world.states model
        = (layer.set accessor value (stage.world.states model)).state := by
      unfold Act.perform
      rw [if_neg free]
      exact Function.update_self _ _ _
    rw [left]
    exact holds_set layer steady value _

-- ============================================================= a smithy

namespace Game

/-- Two people of a smithy. -/
inductive Smithy
  | smith
  | apprentice
  deriving DecidableEq

/-- Somebody of the smithy has so many hit points now. -/
def hit (who : Smithy) (hp : Int32) (inside : List (Act String fun _ : Smithy => Npc)) :
    Act String fun _ : Smithy => Npc :=
  .set who Npc.layer Npc.hpProperty hp fun _ => inside

/-- While the apprentice is hit because the smith is, the hud is running. The
smith cannot be hit again meanwhile, and nobody else can be put in. -/
def morning : List (Act String fun _ : Smithy => Npc) :=
  [hit .smith 9 [], .install (some "hud"),
   hit .smith 5 [hit .apprentice 7 [], .install none, hit .smith 1 []],
   hit .apprentice 6 [], .install none, hit .smith 4 []]

/-- The hud hears of what was pushed while it was there, but not of the hit
that it was the cause of. -/
theorem smithy_keepsProtocol :
    let ended := run none (fun _ => Npc.model.initial) morning
    KeepsProtocol none (fun _ => Npc.model.initial) ended
      ∧ ended.world.record.filterMap Occurrence.receipt?
        = [("hud", ⟨"game::Npc", "Hp", .int 5⟩), ("hud", ⟨"game::Npc", "Hp", .int 6⟩)]
      ∧ ended.world.record.filterMap Occurrence.cameOut? = [none, some "hud"]
      ∧ Npc.hpProperty.Holds (7 : Int32)
          (((hit .apprentice 7 []).perform [.smith]
            ⟨.running "hud", ⟨fun _ => Npc.model.initial, []⟩⟩).world.states .apprentice) := by
  obtain ⟨keeps, -, holds⟩ :=
    @runs_keepProtocol Smithy String (fun _ => Npc) inferInstance
  refine ⟨keeps _ _ _, by decide +kernel, by decide +kernel, ?_⟩
  exact holds [.smith] .apprentice (by decide) Npc.layer Npc.hpProperty _ _ _ fun _ => rfl

end Game

end DataBinding
