/-
What a setter owes to those who listen, and to the rest of the model. When
the value is another one, the property and all that follows from it are
pushed, every handler hears of what has changed, and nothing else changes.

# The signals in their order

The signals of a setter are written down once, as one list of blocks
(`signals_set_of_other`): a block is a value that is pushed and, right
behind it, the calls of all handlers about it. Everything about the order is
read off that list. That calls come after the push they belong to is a
property of each block which blocks in a row keep (`Heralded.append`).

# Around the write

Code that is injected before and after the write may do anything to the
model. The contract holds as far as that code leaves alone what the setter
looks at (`Accessor.Spares`), which is checked for each property of the
game. The mana is the only property with such code, and what it does besides
is said apart: it keeps the value before, and counts the change. The count
has 32 bits. When it is full, the setter of the mana keeps the contract all
the same, but ends over the count, which stays as it is.
-/
import DataBinding.Game.Counter
import DataBinding.Game.Foe
import DataBinding.Game.Player
import DataBinding.Game.Screen
import DataBinding.Proofs.Announcing
import DataBinding.Proofs.ManaCounts

namespace DataBinding

variable {σ : Type}

-- ========================================================== the handlers

namespace Layer

variable (layer : Layer σ)

/-- The handlers of a model, in the order in which they subscribed. -/
def handlers (state : σ) : List String :=
  match layer.events with
  | some place => (place.get state).handlers
  | none => []

/-- A model as its handlers are shown it: the event is out of its place. -/
def shown (state : σ) : σ :=
  match layer.events with
  | some place => place.put {} state
  | none => state

/-- The calls of all handlers about a value that is no more. -/
def calls (property : String) (old : Held) (state : σ) : List (Signal σ) :=
  (layer.handlers state).map fun handler => .raised handler property old (layer.shown state)

theorem signals_raise (property : String) (old : Held) (state : σ) :
    (layer.raise property old state).signals = layer.calls property old state := by
  unfold raise calls handlers shown
  cases layer.events with
  | none => rfl
  | some place => simp [Change.raise, ChangeEvent.invoke, Function.comp_def]

/-- What is sent about a value that followed: it is pushed, and raised if it
is another one than before. -/
def followUpSignals (reading : Reading σ) (before state : σ) : List (Signal σ) :=
  .pushed ⟨layer.fullName, reading.name, reading.wired state⟩
    :: if reading.same before state then []
      else layer.calls reading.name (reading.held before) state

theorem signals_announce (reading : Reading σ) (before state : σ) :
    (layer.announce reading before state).signals
      = layer.followUpSignals reading before state := by
  unfold announce followUpSignals Change.andThen
  dsimp only [push, Change.push]
  split
  · rfl
  · exact congrArg (_ :: ·) (layer.signals_raise _ _ state)

/-- Values that follow are announced block by block. -/
theorem signals_announceAll (before : σ) (readings : List (Reading σ)) (change : Change σ) :
    (readings.foldl (fun change reading => change.andThen (layer.announce reading before))
        change).signals
      = change.signals
        ++ readings.flatMap fun reading => layer.followUpSignals reading before change.state := by
  induction readings generalizing change with
  | nil => exact (List.append_nil _).symm
  | cons reading rest ih =>
    have state : (change.andThen (layer.announce reading before)).state = change.state :=
      layer.state_announce reading before change.state
    have signals : (change.andThen (layer.announce reading before)).signals
        = change.signals ++ layer.followUpSignals reading before change.state :=
      congrArg (change.signals ++ ·) (layer.signals_announce reading before change.state)
    rw [List.foldl_cons, ih, state, signals, List.flatMap_cons, List.append_assoc]

/-- What is sent with the write: the value is pushed, and raised. -/
theorem signals_write (accessor : Accessor σ) (value : accessor.kind.Carrier) (state : σ) :
    (layer.write accessor value state).signals
      = .pushed ⟨layer.fullName, accessor.name, accessor.kind.wire value⟩
        :: layer.calls accessor.name (accessor.held state) (accessor.part.put value state) :=
  congrArg (_ :: ·) (layer.signals_raise _ _ _)

/-- All that a setter sends when the value is another one. -/
theorem signals_set_of_other {accessor : Accessor σ} {value : accessor.kind.Carrier} {state : σ}
    (other : ¬ accessor.kind.same (accessor.get state) value = true) :
    (layer.set accessor value state).signals
      = (.pushed ⟨layer.fullName, accessor.name, accessor.kind.wire value⟩
          :: layer.calls accessor.name (accessor.held (accessor.beforeChange state))
              (accessor.part.put value (accessor.beforeChange state)))
        ++ (accessor.followed value state).flatMap fun reading =>
            layer.followUpSignals reading (accessor.beforeChange state)
              (accessor.written value state) := by
  have sent := layer.signals_write accessor value (accessor.beforeChange state)
  rw [layer.set_of_other other]
  refine (layer.signals_announceAll _ _ _).trans ?_
  exact congrArg (· ++ _) sent

end Layer

-- ======================================================= calls after pushes

/-- Whenever a handler is called, the property it is called about has been
pushed before. -/
def Heralded (signals : List (Signal σ)) : Prop :=
  ∀ before handler property old owner after,
    signals = before ++ .raised handler property old owner :: after →
      ∃ delivery, .pushed delivery ∈ before ∧ delivery.property = property

theorem Heralded.append {first later : List (Signal σ)} (heralded : Heralded first)
    (heraldedLater : Heralded later) : Heralded (first ++ later) := by
  intro before handler property old owner after split
  rcases List.append_eq_append_iff.1 split with ⟨between, rfl, rest⟩ | ⟨between, rfl, rest⟩
  · obtain ⟨delivery, pushed, named⟩ := heraldedLater _ _ _ _ _ _ rest
    exact ⟨delivery, List.mem_append_right _ pushed, named⟩
  · cases between with
    | nil =>
      obtain ⟨delivery, pushed, -⟩ := heraldedLater [] _ _ _ _ _ rest.symm
      cases pushed
    | cons signal between =>
      obtain ⟨rfl, -⟩ := List.cons.inj rest
      exact heralded _ _ _ _ _ _ rfl

/-- A value that is pushed, and calls about it. -/
theorem heralded_block (delivery : Delivery) {calls : List (Signal σ)}
    (about : ∀ signal ∈ calls, ∃ handler old owner,
      signal = .raised handler delivery.property old owner) :
    Heralded (.pushed delivery :: calls) := by
  intro before handler property old owner after split
  cases before with
  | nil => cases (List.cons.inj split).1
  | cons signal before =>
    obtain ⟨rfl, rest⟩ := List.cons.inj split
    obtain ⟨_, _, _, same⟩ := about (.raised handler property old owner)
      (rest ▸ List.mem_append_right _ List.mem_cons_self)
    cases same
    exact ⟨delivery, List.mem_cons_self, rfl⟩

theorem heralded_flatMap {ι : Type} {block : ι → List (Signal σ)} (items : List ι)
    (each : ∀ item ∈ items, Heralded (block item)) : Heralded (items.flatMap block) := by
  induction items with
  | nil =>
    intro before _ _ _ _ _ split
    cases before <;> cases split
  | cons item rest ih =>
    obtain ⟨here, later⟩ := List.forall_mem_cons.1 each
    rw [List.flatMap_cons]
    exact here.append (ih later)

namespace Layer

variable (layer : Layer σ)

theorem mem_calls {property : String} {old : Held} {state : σ} {signal : Signal σ}
    (called : signal ∈ layer.calls property old state) :
    ∃ handler, signal = .raised handler property old (layer.shown state) := by
  obtain ⟨handler, -, rfl⟩ := List.mem_map.1 called
  exact ⟨handler, rfl⟩

theorem heralded_followUpSignals (reading : Reading σ) (before state : σ) :
    Heralded (layer.followUpSignals reading before state) := by
  refine heralded_block _ fun signal called => ?_
  split at called
  · cases called
  · obtain ⟨handler, rfl⟩ := layer.mem_calls called
    exact ⟨handler, _, _, rfl⟩

end Layer

-- ========================================================== the contract

/-- What a handler hears: a property, and its value that is no more. -/
abbrev News := String × Held

/-- Who is called, and about what. -/
def Signal.call? : Signal σ → Option (String × News)
  | .pushed _ => none
  | .raised handler property old _ => some (handler, property, old)

/-- A part of a state to be looked at, under a name. -/
structure NamedPart (σ : Type) where
  name : String
  Value : Type
  get : σ → Value

/-- What is new when a setter has come from one state to another: the
property, and those that follow from it and have changed. -/
def Accessor.news (accessor : Accessor σ) (state after : σ) : List News :=
  (accessor.name, accessor.held state)
    :: (accessor.followUps.filter fun reading => !reading.same state after).map fun reading =>
        (reading.name, reading.held state)

/-- What a setter owes when the value is another one. `parts` are the parts
of the state, and `beside` names those that injected code changes. -/
structure Layer.Contract (layer : Layer σ) (parts : List (NamedPart σ)) (beside : List String)
    (accessor : Accessor σ) (value : accessor.kind.Carrier) (state : σ) (change : Change σ) :
    Prop where
  /-- The property is pushed, and then what follows, as it is afterwards. -/
  pushes : change.deliveries
    = ⟨layer.fullName, accessor.name, accessor.kind.wire value⟩
      :: accessor.followUps.map fun reading =>
          ⟨layer.fullName, reading.name, reading.wired change.state⟩
  /-- All that is new is told to every handler in turn. -/
  calls : change.signals.filterMap Signal.call?
    = (accessor.news state change.state).flatMap fun news =>
        (layer.handlers state).map fun handler => (handler, news)
  heralded : Heralded change.signals
  /-- Handlers are shown an owner that has the value. -/
  owners : ∀ handler property old owner, .raised handler property old owner ∈ change.signals →
    accessor.get owner = value
  /-- The same handlers are there afterwards. -/
  subscribers : layer.handlers change.state = layer.handlers state
  written : accessor.get change.state = value
  kept : ∀ part ∈ parts, part.name ≠ accessor.name → part.name ∉ beside →
    part.get change.state = part.get state

/-- Injected code leaves alone what the setter looks at, and so does taking
the event out of its place. -/
structure Accessor.Spares (layer : Layer σ) (accessor : Accessor σ) : Prop where
  completes : accessor.Completes
  get_before : ∀ state, accessor.get (accessor.beforeChange state) = accessor.get state
  get_after : ∀ state, accessor.get (accessor.settled state) = accessor.get state
  get_shown : ∀ state, accessor.get (layer.shown state) = accessor.get state
  followUps : ∀ reading ∈ accessor.followUps, ∀ state,
    reading.read (accessor.beforeChange state) = reading.read state
  handlers_before : ∀ state, layer.handlers (accessor.beforeChange state) = layer.handlers state
  handlers_put : ∀ value state,
    layer.handlers (accessor.part.put value state) = layer.handlers state
  handlers_after : ∀ state, layer.handlers (accessor.settled state) = layer.handlers state

/-- Without injected code and without handlers there is nothing to spare. -/
theorem Accessor.Spares.of_plain {layer : Layer σ} {accessor : Accessor σ}
    (silent : layer.events = none) (plain : accessor.Plain) : accessor.Spares layer := by
  have after := plain.uncounted.settled_eq
  obtain ⟨followUps, -, before, -⟩ := plain
  have nobody : ∀ state, layer.handlers state = [] := by
    intro state
    unfold Layer.handlers
    rw [silent]
  constructor
  · exact .inl followUps
  · exact fun state => by rw [before, id]
  · exact fun state => by rw [after, id]
  · intro state
    unfold Layer.shown
    rw [silent]
  · rw [followUps]
    exact List.forall_mem_nil _
  · exact fun state => by rw [nobody, nobody]
  · exact fun value state => by rw [nobody, nobody]
  · exact fun state => by rw [nobody, nobody]

namespace Layer

variable {layer : Layer σ} {accessor : Accessor σ} {parts : List (NamedPart σ)}
  {beside : List String}

theorem call?_calls (property : String) (old : Held) (state : σ) :
    (layer.calls property old state).filterMap Signal.call?
      = (layer.handlers state).map fun handler => (handler, property, old) := by
  unfold calls
  rw [List.filterMap_map, ← List.filterMap_eq_map]
  rfl

/-- Of the values that follow, those are told that have changed. -/
theorem call?_followUps (before after : σ) (readings : List (Reading σ)) :
    (readings.flatMap fun reading => layer.followUpSignals reading before after).filterMap
        Signal.call?
      = ((readings.filter fun reading => !reading.same before after).map fun reading =>
          (reading.name, reading.held before)).flatMap fun news =>
            (layer.handlers after).map fun handler => (handler, news) := by
  induction readings with
  | nil => rfl
  | cons reading rest ih =>
    rw [List.flatMap_cons, List.filterMap_append, ih, followUpSignals, List.filter_cons]
    by_cases same : reading.same before after = true
    · rw [if_pos same, if_neg (by rw [same]; exact Bool.false_ne_true)]
      rfl
    · rw [if_neg same, if_pos (by rw [Bool.not_eq_true] at same; rw [same]; rfl), List.map_cons,
        List.flatMap_cons]
      exact congrArg (· ++ _) (call?_calls _ _ after)

/-- A setter whose injected code spares what it looks at keeps the contract. -/
theorem contract_set (spares : accessor.Spares layer) {value : accessor.kind.Carrier} {state : σ}
    (kept : ∀ part ∈ parts, part.name ≠ accessor.name → part.name ∉ beside →
      part.get (accessor.written value state) = part.get state)
    (other : ¬ accessor.kind.same (accessor.get state) value = true) :
    layer.Contract parts beside accessor value state (layer.set accessor value state) := by
  have after := layer.state_set_of_other other
  have deliveries := layer.deliveries_set_of_other other
  have signals := layer.signals_set_of_other other
  rw [spares.completes.followed_eq] at deliveries signals
  have held : accessor.held (accessor.beforeChange state) = accessor.held state :=
    congrArg (Held.mk accessor.kind) (spares.get_before state)
  have wrote : accessor.get (accessor.part.put value (accessor.beforeChange state)) = value :=
    accessor.part.get_put _ _
  have written : accessor.get (accessor.written value state) = value :=
    (spares.get_after _).trans wrote
  have handlersPut : layer.handlers (accessor.part.put value (accessor.beforeChange state))
      = layer.handlers state :=
    (spares.handlers_put _ _).trans (spares.handlers_before state)
  have handlersWritten : layer.handlers (accessor.written value state) = layer.handlers state :=
    (spares.handlers_after _).trans handlersPut
  constructor
  · rw [deliveries, after]
  · have read : ∀ reading ∈ accessor.followUps,
        reading.held (accessor.beforeChange state) = reading.held state :=
      fun reading inside => congrArg (Held.mk reading.kind) (spares.followUps reading inside state)
    have changed : (accessor.followUps.filter fun reading =>
          !reading.same (accessor.beforeChange state) (accessor.written value state))
        = accessor.followUps.filter fun reading =>
            !reading.same state (accessor.written value state) := by
      refine List.filter_congr fun reading inside => ?_
      unfold Reading.same
      rw [spares.followUps reading inside]
    rw [signals, List.filterMap_append, List.filterMap_cons_none rfl, call?_calls, call?_followUps,
      handlersPut, handlersWritten, held, changed, after, Accessor.news, List.flatMap_cons]
    congr 2
    refine List.map_congr_left fun reading inside => ?_
    rw [read reading (List.mem_of_mem_filter inside)]
  · rw [signals]
    refine Heralded.append (heralded_block _ fun signal called => ?_)
      (heralded_flatMap _ fun reading _ => layer.heralded_followUpSignals reading _ _)
    obtain ⟨handler, rfl⟩ := layer.mem_calls called
    exact ⟨handler, _, _, rfl⟩
  · intro handler property old owner called
    rw [signals] at called
    rcases List.mem_append.1 called with byWrite | byFollowUp
    · rcases List.mem_cons.1 byWrite with pushed | raised
      · cases pushed
      · obtain ⟨_, same⟩ := layer.mem_calls raised
        cases same
        exact (spares.get_shown _).trans wrote
    · obtain ⟨reading, -, inside⟩ := List.mem_flatMap.1 byFollowUp
      rcases List.mem_cons.1 inside with pushed | raised
      · cases pushed
      · split at raised
        · cases raised
        · obtain ⟨_, same⟩ := layer.mem_calls raised
          cases same
          exact (spares.get_shown _).trans written
  · rw [after]
    exact handlersWritten
  · rw [after]
    exact written
  · rw [after]
    exact kept

end Layer

-- ============================================================== carefulness

/-- The parts of a state that are fields of a model, bound or not. -/
def Model.fieldParts (model : Model σ) : List (NamedPart σ) :=
  model.own.accessors.map (fun accessor => ⟨accessor.name, _, accessor.part.get⟩)
    ++ model.unbound.map fun field => ⟨field.name, _, field.part.get⟩

/-- A field changes no part but its own. -/
def Accessor.Keeps (accessor : Accessor σ) (beside : List String) (part : NamedPart σ) : Prop :=
  part.name ≠ accessor.name → part.name ∉ beside → ∀ value state,
    part.get (accessor.written value state) = part.get state

/-- All that has to be seen to for the setters of a layer. -/
structure Layer.Careful (layer : Layer σ) (parts : List (NamedPart σ))
    (beside : String → List String) : Prop where
  /-- Where injected code changes nothing, nothing is counted. -/
  uncounted : ∀ accessor ∈ layer.accessors, beside accessor.name = [] → accessor.Uncounted
  spares : ∀ accessor ∈ layer.accessors, accessor.Spares layer
  keeps : ∀ accessor ∈ layer.accessors, ∀ part ∈ parts,
    accessor.Keeps (beside accessor.name) part

/-- The setters of a careful layer keep the contract. -/
theorem Layer.Careful.contract {layer : Layer σ} {parts : List (NamedPart σ)}
    {beside : String → List String} (careful : layer.Careful parts beside) {accessor : Accessor σ}
    (listed : accessor ∈ layer.accessors) {value : accessor.kind.Carrier} {state : σ}
    (other : ¬ accessor.kind.same (accessor.get state) value = true) :
    layer.Contract parts (beside accessor.name) accessor value state
      (layer.set accessor value state) :=
  contract_set (careful.spares accessor listed)
    (fun part inside named aside =>
      careful.keeps accessor listed part inside named aside value state) other

/-- Without injected code and without handlers, fields only have to be apart. -/
theorem Layer.Careful.of_apart {model : Model σ} {beside : String → List String}
    (silent : model.own.events = none) (plain : ∀ accessor ∈ model.own.accessors, accessor.Plain)
    (apart : model.own.accessors.Pairwise Accessor.Apart)
    (aside : ∀ accessor ∈ model.own.accessors, ∀ field ∈ model.unbound, ∀ value state,
      field.get (accessor.part.put value state) = field.get state) :
    model.own.Careful model.fieldParts beside where
  uncounted accessor listed _ := (plain accessor listed).uncounted
  spares accessor listed := .of_plain silent (plain accessor listed)
  keeps accessor listed part inside named _ value state := by
    have after := (plain accessor listed).uncounted.settled_eq
    obtain ⟨-, -, before, -⟩ := plain accessor listed
    rw [Accessor.written, before, after]
    rcases List.mem_append.1 inside with bound | unbound
    · obtain ⟨other, listed', rfl⟩ := List.mem_map.1 bound
      have different : accessor ≠ other := fun equal => named (congrArg (·.name) equal.symm)
      exact (apart.forall listed listed' different).1 value state
    · obtain ⟨field, listed', rfl⟩ := List.mem_map.1 unbound
      exact aside accessor listed field listed' value state

/-- One more part that no setter reaches. -/
theorem Layer.Careful.cons {layer : Layer σ} {parts : List (NamedPart σ)}
    {beside : String → List String} (careful : layer.Careful parts beside) {part : NamedPart σ}
    (aside : ∀ accessor ∈ layer.accessors, ∀ value state,
      part.get (accessor.written value state) = part.get state) :
    layer.Careful (part :: parts) beside where
  uncounted := careful.uncounted
  spares := careful.spares
  keeps accessor listed := List.forall_mem_cons.2
    ⟨fun _ _ => aside accessor listed, careful.keeps accessor listed⟩

namespace Game

/-- What the code changes that is injected into the setter of a property. -/
def changedBeside (property : String) : List String :=
  if property = "Mana" then ["manaHistory", "manaChanges"] else []

theorem changedBeside_eq_nil {property : String} :
    changedBeside property = [] ↔ property ≠ "Mana" := by
  unfold changedBeside
  split <;> simp_all

/-- What is within players, their fields, and what is counted. -/
def Player.parts : List (NamedPart Player) :=
  [⟨"entity", _, entity⟩, ⟨"events", _, events⟩] ++ model.fieldParts ++
    [⟨"manaHistory", _, manaHistory⟩, ⟨"manaReads", _, manaReads⟩,
     ⟨"manaChanges", _, manaChanges⟩]

theorem Player.careful : Player.layer.Careful Player.parts changedBeside where
  uncounted accessor listed beside :=
    Player.uncounted accessor listed (changedBeside_eq_nil.1 beside)
  spares := by
    have settled : ∀ {α : Type} (look : Player → α), (∀ player changes,
        look { player with manaChanges := changes } = look player) →
        ∀ player, look (manaProperty.settled player) = look player := by
      intro α look keeps player
      rw [settled_mana]
      exact keeps player _
    have health : healthProperty.Completes := .inr fun _ => rfl
    have level : levelProperty.Completes := .inr fun _ => rfl
    simp only [layer, List.forall_mem_cons, List.not_mem_nil, false_implies, implies_true,
      and_true]
    and_intros <;> constructor <;>
      first
      | exact settled _ fun _ _ => rfl
      | exact health
      | exact level
      | exact .inl rfl
      | (intros; rfl)
      | exact List.forall_mem_nil _
  keeps := by
    have written : ∀ {α : Type} (look : Player → α), (∀ player mana history changes,
        look { player with mana := mana, manaHistory := history, manaChanges := changes }
          = look player) →
        ∀ mana player, look (manaProperty.written mana player) = look player := by
      intro α look keeps mana player
      exact (congrArg look (written_mana mana player)).trans (keeps player mana _ _)
    simp only [parts, Model.fieldParts, model, layer, List.map_cons, List.map_nil,
      List.cons_append, List.nil_append, List.forall_mem_cons, List.not_mem_nil, false_implies,
      implies_true, and_true]
    and_intros <;> intro named beside <;>
      first
      | exact absurd rfl named
      | (intros; rfl)
      | exact absurd (by decide) beside
      | exact written _ fun _ _ _ _ => rfl

/-- What is within tallies, and their field. -/
def Tally.parts : List (NamedPart Tally) := ⟨"counter", _, counter⟩ :: model.fieldParts

/-- A bound model with all the parts of its states. -/
structure Inventory where
  State : Type
  model : Model State
  parts : List (NamedPart State)
  distinct : (parts.map (·.name)).Nodup
  complete : ∀ state other,
    (∀ part ∈ parts, part.get state = part.get other) → state = other
  careful : model.own.Careful parts changedBeside

def Entity.inventory : Inventory where
  State := Entity
  model := Entity.model
  parts := Entity.model.fieldParts
  distinct := by decide +kernel
  complete := by
    rintro ⟨⟩ ⟨⟩ same
    simpa [Model.fieldParts, model, layer, scoreProperty, nameProperty] using same
  careful := by
    refine .of_apart rfl ?_ ?_ fun _ _ => List.forall_mem_nil _
    · simp [model, layer, scoreProperty, nameProperty, Accessor.Plain]
    · simp [model, layer, scoreProperty, nameProperty, Accessor.Apart, Field.get]

def Player.inventory : Inventory where
  State := Player
  model := Player.model
  parts := Player.parts
  distinct := by decide +kernel
  complete := by
    rintro ⟨⟩ ⟨⟩ same
    simpa [parts, Model.fieldParts, model, layer, healthProperty, levelProperty, classProperty,
      perkProperty, speedProperty, nicknameProperty, tagsProperty, scoreProperty, manaProperty,
      partyProperty, portraitProperty, secretField, entityPart, eventsPart] using same
  careful := Player.careful

def Boss.inventory : Inventory where
  State := Boss
  model := Boss.model
  parts := Boss.model.fieldParts
  distinct := by decide +kernel
  complete := by
    rintro ⟨⟩ ⟨⟩ same
    simpa [Model.fieldParts, model, layer, rageProperty, armorProperty, damageProperty] using same
  careful := by
    refine .of_apart rfl ?_ ?_ fun _ _ => List.forall_mem_nil _
    · simp [model, layer, rageProperty, armorProperty, damageProperty, Accessor.Plain]
    · simp [model, layer, rageProperty, armorProperty, damageProperty, Accessor.Apart, Field.get]

def Npc.inventory : Inventory where
  State := Npc
  model := Npc.model
  parts := Npc.model.fieldParts
  distinct := by decide +kernel
  complete := by
    rintro ⟨⟩ ⟨⟩ same
    simpa [Model.fieldParts, model, layer, classProperty, hpProperty] using same
  careful := by
    refine .of_apart rfl ?_ ?_ fun _ _ => List.forall_mem_nil _
    · simp [model, layer, classProperty, hpProperty, Accessor.Plain]
    · simp [model, layer, classProperty, hpProperty, Accessor.Apart, Field.get]

def Counter.inventory : Inventory where
  State := Counter
  model := Counter.model
  parts := Counter.model.fieldParts
  distinct := by decide +kernel
  complete := by
    rintro ⟨⟩ ⟨⟩ same
    simpa [Model.fieldParts, model, layer, countProperty, captionProperty, stepField] using same
  careful := by
    refine .of_apart rfl ?_ ?_ ?_
    · simp [model, layer, countProperty, captionProperty, Accessor.Plain]
    · simp [model, layer, countProperty, captionProperty, Accessor.Apart, Field.get]
    · simp [model, layer, countProperty, captionProperty, stepField, Field.get]

def Tally.inventory : Inventory where
  State := Tally
  model := Tally.model
  parts := Tally.parts
  distinct := by decide +kernel
  complete := by
    rintro ⟨⟩ ⟨⟩ same
    simpa [parts, Model.fieldParts, model, layer, bonusProperty, counterPart] using same
  careful := by
    refine .cons (.of_apart rfl ?_ ?_ fun _ _ => List.forall_mem_nil _) ?_
    · simp [model, layer, bonusProperty, Accessor.Plain]
    · exact List.pairwise_singleton _ _
    · exact List.forall_mem_singleton.2 fun _ _ => rfl

def Label.inventory : Inventory where
  State := Label
  model := Label.model
  parts := Label.model.fieldParts
  distinct := by decide +kernel
  complete := by
    rintro ⟨⟩ ⟨⟩ same
    simpa [Model.fieldParts, model, layer, visibleProperty, enabledProperty, textProperty]
      using same
  careful := by
    refine .of_apart rfl ?_ ?_ fun _ _ => List.forall_mem_nil _
    · simp [model, layer, visibleProperty, enabledProperty, textProperty, Accessor.Plain]
    · simp [model, layer, visibleProperty, enabledProperty, textProperty, Accessor.Apart, Field.get]

def Settings.inventory : Inventory where
  State := Settings
  model := Settings.model
  parts := Settings.model.fieldParts
  distinct := by decide +kernel
  complete := by
    rintro ⟨⟩ ⟨⟩ same
    simpa [Model.fieldParts, model, layer, volumeProperty, mutedProperty] using same
  careful := by
    refine .of_apart rfl ?_ ?_ fun _ _ => List.forall_mem_nil _
    · simp [model, layer, volumeProperty, mutedProperty, Accessor.Plain]
    · simp [model, layer, volumeProperty, mutedProperty, Accessor.Apart, Field.get]

end Game

end DataBinding
