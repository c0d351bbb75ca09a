/-
Which models tell all that they do. Whatever is done to a model comes down
to setters, so it is enough that these tell.

# What a type has to see to

A setter pushes its own property and those listed to follow. That is all
there is to push if a write touches nothing else, if the code injected into
accessors touches no property at all, and if that code ends a setter early
only where nothing follows (`Layer.Announces`). For a model
of several types, the steps of one must in addition be hidden from the
others (`Announcing`). Where a model embeds another one this needs to be
looked at for the whole's own type alone: what is announced within a part
is announced within the whole (`Announcing.embedding`).
-/
import DataBinding.Live.Method
import DataBinding.Proofs.Replay
import Mathlib.Data.List.Nodup
import Mathlib.Data.List.Pairwise

namespace DataBinding

variable {σ τ κ ρ : Type}

-- =============================================================== one type

/-- The silent steps that the accessors of a layer are made of. -/
inductive Layer.Steps (layer : Layer σ) : (σ → σ) → Prop
  | onGet {accessor : Accessor σ} (listed : accessor ∈ layer.accessors) :
      Steps layer accessor.seen
  | beforeChange {accessor : Accessor σ} (listed : accessor ∈ layer.accessors) :
      Steps layer accessor.beforeChange
  | afterChange {accessor : Accessor σ} (listed : accessor ∈ layer.accessors) :
      Steps layer accessor.settled
  | put {accessor : Accessor σ} (listed : accessor ∈ layer.accessors)
      (value : accessor.kind.Carrier) : Steps layer (accessor.part.put value)

/-- The properties that a setter pushes. -/
def Accessor.announced (accessor : Accessor σ) : List String :=
  accessor.name :: accessor.followUps.map (·.name)

/-- A type whose setters announce all that they change of the type's own
properties. -/
structure Layer.Announces (layer : Layer σ) : Prop where
  distinct : (layer.readings.map (·.name)).Nodup
  followUps : ∀ accessor ∈ layer.accessors, accessor.followUps ⊆ layer.computed
  completes : ∀ accessor ∈ layer.accessors, accessor.Completes
  hooks : ∀ accessor ∈ layer.accessors, layer.Hides accessor.seen
    ∧ layer.Hides accessor.beforeChange ∧ layer.Hides accessor.settled
  writes : ∀ accessor ∈ layer.accessors, ∀ reading ∈ layer.readings,
    reading.name ∈ accessor.announced
      ∨ ∀ value state, reading.wired (accessor.part.put value state) = reading.wired state

/-- An accessor with nothing but a field behind it. -/
def Accessor.Plain (accessor : Accessor σ) : Prop :=
  accessor.followUps = [] ∧ accessor.onGet = some ∧ accessor.beforeChange = id
    ∧ accessor.afterChange = some

theorem Accessor.Plain.uncounted {accessor : Accessor σ} (plain : accessor.Plain) :
    accessor.Uncounted :=
  ⟨plain.2.1, plain.2.2.2⟩

/-- Two accessors with different fields. -/
def Accessor.Apart (accessor other : Accessor σ) : Prop :=
  (∀ value state, other.get (accessor.part.put value state) = other.get state)
    ∧ ∀ value state, accessor.get (other.part.put value state) = accessor.get state

instance : Std.Symm (Accessor.Apart (σ := σ)) := ⟨fun _ _ => And.symm⟩

namespace Layer.Announces

variable {layer : Layer σ}

/-- Plain accessors of different fields announce all that they change. -/
theorem of_plain (distinct : (layer.accessors.map (·.name)).Nodup) (computed : layer.computed = [])
    (plain : ∀ accessor ∈ layer.accessors, accessor.Plain)
    (apart : layer.accessors.Pairwise Accessor.Apart) : layer.Announces where
  distinct := by
    unfold readings
    rw [computed, List.append_nil, List.map_map]
    exact distinct
  followUps accessor listed := by
    rw [(plain accessor listed).1]
    exact List.nil_subset _
  completes accessor listed := .inl (plain accessor listed).1
  hooks accessor listed := by
    have uncounted := (plain accessor listed).uncounted
    obtain ⟨-, -, before, -⟩ := plain accessor listed
    rw [uncounted.seen_eq, before, uncounted.settled_eq]
    exact ⟨fun _ _ _ => rfl, fun _ _ _ => rfl, fun _ _ _ => rfl⟩
  writes accessor listed := by
    rw [forall_readings, computed]
    refine ⟨fun other listed' => ?_, fun _ impossible => nomatch impossible⟩
    by_cases same : other.name = accessor.name
    · exact Or.inl (List.mem_cons.2 (Or.inl same))
    · have different : accessor ≠ other := fun equal => same (congrArg (·.name) equal.symm)
      have leaves := (apart.forall listed listed' different).1
      exact Or.inr fun value state => congrArg other.kind.wire (leaves value state)

variable (announces : layer.Announces)

include announces

theorem reading_unique {reading other : Reading σ} (listed : reading ∈ layer.readings)
    (listed' : other ∈ layer.readings) (named : reading.name = other.name) : reading = other :=
  List.inj_on_of_nodup_map announces.distinct listed listed' named

variable {accessor : Accessor σ} (listed : accessor ∈ layer.accessors)

include listed

/-- After a write the property has the value that was written. -/
theorem wired_written (value : accessor.kind.Carrier) (state : σ) :
    accessor.reading.wired (accessor.written value state) = accessor.kind.wire value := by
  obtain ⟨-, -, after⟩ := announces.hooks accessor listed
  rw [Accessor.written, after _ (List.mem_append_left _ (List.mem_map_of_mem listed))]
  exact congrArg accessor.kind.wire (accessor.part.get_put value _)

/-- A write leaves alone what it does not announce. -/
theorem wired_of_unannounced {reading : Reading σ} (shown : reading ∈ layer.readings)
    (unannounced : reading.name ∉ accessor.announced) (value : accessor.kind.Carrier)
    (state : σ) : reading.wired (accessor.written value state) = reading.wired state := by
  obtain ⟨-, before, after⟩ := announces.hooks accessor listed
  have written := (announces.writes accessor listed reading shown).resolve_left unannounced
  rw [Accessor.written, after reading shown, written, before reading shown]

/-- Replayed, what a setter pushes is what it leaves of the own type. -/
theorem replay_set (value : accessor.kind.Carrier) (state : σ) {reading : Reading σ}
    (shown : reading ∈ layer.readings) :
    replay layer.fullName reading.name (reading.wired state)
        (layer.set accessor value state).deliveries
      = reading.wired (layer.set accessor value state).state := by
  by_cases same : accessor.kind.same (accessor.get state) value = true
  · rw [layer.set_of_same same]
    rfl
  · rw [layer.state_set_of_other same, layer.deliveries_set_of_other same,
      (announces.completes accessor listed).followed_eq]
    apply replay_eq
    · -- the name determines the property, so its value is the pushed one
      rintro delivery pushed - named
      rcases List.mem_cons.1 pushed with rfl | pushed
      · have own : reading = accessor.reading :=
          announces.reading_unique shown
            (List.mem_append_left _ (List.mem_map_of_mem listed)) named.symm
        rw [own]
        exact (announces.wired_written listed value state).symm
      · obtain ⟨followUp, followsUp, rfl⟩ := List.mem_map.1 pushed
        have computed := announces.followUps accessor listed followsUp
        rw [announces.reading_unique shown (List.mem_append_right _ computed) named.symm]
    · by_cases announced : reading.name ∈ accessor.announced
      · right
        rcases List.mem_cons.1 announced with named | named
        · exact ⟨_, List.mem_cons_self, rfl, named.symm⟩
        · obtain ⟨followUp, followsUp, named⟩ := List.mem_map.1 named
          exact ⟨_, List.mem_cons_of_mem _ (List.mem_map_of_mem followsUp), rfl, named⟩
      · exact Or.inl (announces.wired_of_unannounced listed shown announced value state).symm

end Layer.Announces

/-- A setter does what its steps do. -/
theorem Layer.Hides.state_set {layer other : Layer σ} {accessor : Accessor σ}
    (listed : accessor ∈ layer.accessors) (hides : ∀ step, layer.Steps step → other.Hides step)
    (value : accessor.kind.Carrier) :
    other.Hides fun state => (layer.set accessor value state).state := by
  intro reading shown state
  show reading.wired (layer.set accessor value state).state = _
  by_cases same : accessor.kind.same (accessor.get state) value = true
  · rw [layer.set_of_same same]
    rfl
  · rw [layer.state_set_of_other same, Accessor.written,
      hides _ (.afterChange listed) reading shown, hides _ (.put listed value) reading shown,
      hides _ (.beforeChange listed) reading shown]

/-- Setters push for their own type. -/
theorem Layer.model_of_set {layer : Layer σ} {accessor : Accessor σ}
    {value : accessor.kind.Carrier} {state : σ} {delivery : Delivery}
    (pushed : delivery ∈ (layer.set accessor value state).deliveries) :
    layer.fullName = delivery.model := by
  by_cases same : accessor.kind.same (accessor.get state) value = true
  · rw [layer.set_of_same same] at pushed
    cases pushed
  · rw [layer.deliveries_set_of_other same] at pushed
    rcases List.mem_cons.1 pushed with rfl | pushed
    · rfl
    · obtain ⟨followUp, -, rfl⟩ := List.mem_map.1 pushed
      rfl

-- ============================================================ all types

/-- A model whose setters announce all that they change. -/
structure Announcing (model : Model σ) : Prop where
  distinct : (model.layers.map (·.fullName)).Nodup
  layers : ∀ layer ∈ model.layers, layer.Announces
  apart : ∀ layer ∈ model.layers, ∀ other ∈ model.layers, layer.fullName ≠ other.fullName →
    ∀ step, layer.Steps step → other.Hides step
  unbound : ∀ layer ∈ model.layers, ∀ field ∈ model.unbound, ∀ value,
    layer.Hides (field.part.put value)

namespace Announcing

variable {model : Model σ} (announcing : Announcing model)

include announcing

section layers

variable {layer : Layer σ} (inside : layer ∈ model.layers)

include inside

/-- Setters tell. -/
theorem told_set {accessor : Accessor σ} (listed : accessor ∈ layer.accessors)
    (value : accessor.kind.Carrier) (state : σ) :
    Told model state (layer.set accessor value state) where
  replayed other inside' reading shown := by
    by_cases same : layer.fullName = other.fullName
    · cases List.inj_on_of_nodup_map announcing.distinct inside inside' same
      exact (announcing.layers layer inside).replay_set listed value state shown
    · have hides := Layer.Hides.state_set listed (announcing.apart layer inside other inside' same)
      rw [replay_of_others]
      · exact (hides value reading shown state).symm
      · intro delivery pushed
        rw [← Layer.model_of_set pushed]
        exact same
  owners _ pushed := ⟨layer, inside, Layer.model_of_set pushed⟩

/-- Getters tell: what they do besides is not shown. -/
theorem told_fetch {accessor : Accessor σ} (listed : accessor ∈ layer.accessors) (state : σ) :
    Told model state ⟨(accessor.fetch state).2, []⟩ := by
  rw [accessor.fetch_snd]
  refine .hidden (fun other inside' => ?_) state
  by_cases same : layer.fullName = other.fullName
  · cases List.inj_on_of_nodup_map announcing.distinct inside inside' same
    exact ((announcing.layers layer inside).hooks accessor listed).1
  · exact announcing.apart layer inside other inside' same _ (.onGet listed)

/-- Assigning a value by name to a layer tells. -/
theorem told_updateLayer (name : String) (value : PropertyValue) (state : σ) :
    Told model state (layer.update name value state) := by
  unfold Layer.update
  split
  · next accessor found =>
    split
    · exact announcing.told_set inside (List.mem_of_find?_eq_some found) _ state
    · exact .nothing state
  · exact .nothing state

end layers

/-- Assigning a value by name tells, through all layers. -/
theorem told_update (name : String) (value : PropertyValue) (state : σ) :
    Told model state (model.update name value state) := by
  have along : ∀ layers ⊆ model.layers, ∀ course : Course σ, Told model state course →
      Told model state (layers.foldl
        (fun course layer => course.andThen (layer.update name value)) course : Course σ) := by
    intro layers among
    induction layers with
    | nil => exact fun _ told => told
    | cons layer rest ih =>
      obtain ⟨inside, later⟩ := List.cons_subset.1 among
      exact fun course told => ih later _
        (told.andThen_course (announcing.told_updateLayer inside name value course.state))
  exact along model.layers (List.Subset.refl _) _ (.nothing state)

/-- Writing a field that is not bound tells: it is not shown. -/
theorem told_write {field : Field σ} (listed : field ∈ model.unbound) (value : field.kind.Carrier)
    (state : σ) : Told model state ⟨field.part.put value state, []⟩ :=
  .hidden (fun layer inside => announcing.unbound layer inside field listed value) state

end Announcing

-- ================================================================= wholes

/-- The steps of a layer within a whole are those of the layer, made on the
part. -/
theorem Layer.Steps.of_within {layer : Layer τ} {outer : Part σ τ} {step : σ → σ}
    (steps : (layer.within outer).Steps step) :
    ∃ step', layer.Steps step' ∧ step = outer.modify step' := by
  have origin : ∀ {accessor : Accessor σ}, accessor ∈ (layer.within outer).accessors →
      ∃ accessor' ∈ layer.accessors, accessor'.within outer = accessor :=
    fun listed => List.mem_map.1 listed
  cases steps with
  | onGet listed =>
    obtain ⟨accessor, listed', rfl⟩ := origin listed
    exact ⟨_, .onGet listed', accessor.seen_within outer⟩
  | beforeChange listed =>
    obtain ⟨accessor, listed', rfl⟩ := origin listed
    exact ⟨_, .beforeChange listed', rfl⟩
  | afterChange listed =>
    obtain ⟨accessor, listed', rfl⟩ := origin listed
    exact ⟨_, .afterChange listed', accessor.settled_within outer⟩
  | put listed value =>
    obtain ⟨accessor, listed', rfl⟩ := origin listed
    exact ⟨_, .put listed' value, rfl⟩

/-- What is hidden from a layer is hidden from it within a whole. -/
theorem Layer.Hides.within {layer : Layer τ} {step : τ → τ} (hides : layer.Hides step)
    (outer : Part σ τ) : (layer.within outer).Hides (outer.modify step) := by
  intro reading shown whole
  rw [readings_within] at shown
  obtain ⟨reading', shown', rfl⟩ := List.mem_map.1 shown
  show reading'.wired (outer.get (outer.put (step (outer.get whole)) whole)) = _
  rw [outer.get_put]
  exact hides reading' shown' (outer.get whole)

/-- What leaves the part alone is hidden from its layers. -/
theorem Layer.Hides.of_part {layer : Layer τ} {outer : Part σ τ} {step : σ → σ}
    (leaves : ∀ whole, outer.get (step whole) = outer.get whole) :
    (layer.within outer).Hides step := by
  intro reading shown whole
  rw [readings_within] at shown
  obtain ⟨reading', -, rfl⟩ := List.mem_map.1 shown
  exact congrArg reading'.wired (leaves whole)

/-- What a type announces it announces within a whole. -/
theorem Layer.Announces.within {layer : Layer τ} (announces : layer.Announces)
    (outer : Part σ τ) : (layer.within outer).Announces where
  distinct := by
    rw [readings_within, List.map_map]
    exact announces.distinct
  followUps accessor listed := by
    obtain ⟨accessor', listed', rfl⟩ := List.mem_map.1 listed
    exact List.map_subset _ (announces.followUps accessor' listed')
  completes accessor listed := by
    obtain ⟨accessor', listed', rfl⟩ := List.mem_map.1 listed
    exact (announces.completes accessor' listed').within outer
  hooks accessor listed := by
    obtain ⟨accessor', listed', rfl⟩ := List.mem_map.1 listed
    obtain ⟨onGet, before, after⟩ := announces.hooks accessor' listed'
    rw [accessor'.seen_within, accessor'.settled_within]
    exact ⟨onGet.within outer, before.within outer, after.within outer⟩
  writes accessor listed reading shown := by
    obtain ⟨accessor', listed', rfl⟩ := List.mem_map.1 listed
    rw [readings_within] at shown
    obtain ⟨reading', shown', rfl⟩ := List.mem_map.1 shown
    refine (announces.writes accessor' listed' reading' shown').imp (fun named => ?_) ?_
    · unfold Accessor.announced Accessor.within
      rw [List.map_map]
      exact named
    · intro leaves value whole
      show reading'.wired (outer.get (outer.put _ whole)) = _
      rw [outer.get_put]
      exact leaves value (outer.get whole)

/-- A model of one type announces what the type does. -/
theorem Announcing.alone {model : Model σ} (alone : model.embedded = [])
    (own : model.own.Announces)
    (unbound : ∀ field ∈ model.unbound, ∀ value, model.own.Hides (field.part.put value)) :
    Announcing model := by
  have layers : model.layers = [model.own] := by
    unfold Model.layers
    rw [alone, List.nil_append]
  constructor
  · rw [layers]
    exact List.nodup_singleton _
  · rw [layers]
    exact List.forall_mem_singleton.2 own
  · rw [layers]
    intro layer inside other inside' different
    rw [List.mem_singleton.1 inside, List.mem_singleton.1 inside'] at different
    exact absurd rfl different
  · rw [layers]
    exact List.forall_mem_singleton.2 unbound

/-- A model that embeds an announcing one announces all if its own type
does, and if that type leaves the part alone. -/
theorem Announcing.embedding {model : Model σ} {outer : Part σ τ} {base : Model τ}
    (embeds : Embeds model outer base) (announcing : Announcing base)
    (own : model.own.Announces)
    (leaves : ∀ step, model.own.Steps step → ∀ whole, outer.get (step whole) = outer.get whole)
    (unbound : ∀ field ∈ model.unbound, ∀ value, model.own.Hides (field.part.put value)
      ∧ ∀ whole, outer.get (field.part.put value whole) = outer.get whole) :
    Announcing model where
  distinct := by
    unfold Model.layers
    rw [embeds.embedded, List.map_append, List.map_map]
    refine List.Nodup.append announcing.distinct (List.nodup_singleton _) ?_
    intro name inner own
    obtain ⟨layer, inside, rfl⟩ := List.mem_map.1 inner
    exact embeds.foreign layer inside (List.mem_singleton.1 own)
  layers layer inside := by
    rcases embeds.mem_layers inside with ⟨inner, inside', rfl⟩ | rfl
    · exact (announcing.layers inner inside').within outer
    · exact own
  apart layer inside other inside' different step steps := by
    rcases embeds.mem_layers inside with ⟨inner, innerInside, rfl⟩ | rfl
    · obtain ⟨step', steps', rfl⟩ := steps.of_within
      rcases embeds.mem_layers inside' with ⟨inner', innerInside', rfl⟩ | rfl
      · exact (announcing.apart inner innerInside inner' innerInside' different step'
          steps').within outer
      · intro reading shown whole
        exact embeds.apart _ reading shown whole
    · rcases embeds.mem_layers inside' with ⟨inner', -, rfl⟩ | rfl
      · exact .of_part (leaves step steps)
      · exact absurd rfl different
  unbound layer inside field listed value := by
    rcases embeds.mem_layers inside with ⟨inner, -, rfl⟩ | rfl
    · exact .of_part (unbound field listed value).2
    · exact (unbound field listed value).1

-- ================================================================ methods

/-- What an action does to the state. -/
def Action.change (action : Action σ ρ) (state : σ) : Change σ := (action state).1

/-- Actions that tell. -/
def Action.Tells (model : Model σ) (action : Action σ ρ) : Prop :=
  ∀ state, Told model state (action.change state)

/-- Whatever is read from arguments is of a certain sort. -/
def ReadArgs.Yields {α : Type} (sort : α → Prop) (reading : ReadArgs κ α) : Prop :=
  ∀ args result rest, reading.run args = .ok (result, rest) → sort result

namespace ReadArgs.Yields

variable {α β : Type} {sort : α → Prop}

theorem pure {value : α} (sorted : sort value) :
    ReadArgs.Yields sort (Pure.pure value : ReadArgs κ α) := by
  rintro args result rest run
  cases run
  exact sorted

theorem bind {first : ReadArgs κ β} {next : β → ReadArgs κ α}
    (yields : ∀ value, ReadArgs.Yields sort (next value)) :
    ReadArgs.Yields sort (first >>= next) := by
  intro args result rest run
  rw [StateT.run_bind] at run
  cases here : first.run args with
  | error fault =>
    rw [here] at run
    cases run
  | ok found =>
    rw [here] at run
    exact yields found.1 found.2 result rest run

theorem of_readArgs {reading : ReadArgs κ α} (yields : ReadArgs.Yields sort reading)
    {call : EventCall} {values : List (ArgValue κ)} {result : α}
    (read : readArgs call values reading = .ok result) : sort result := by
  unfold readArgs at read
  cases outcome : reading.run { method := call.methodName, values := values } with
  | error fault =>
    rw [outcome] at read
    cases read
  | ok found =>
    rw [outcome] at read
    cases read
    exact yields _ _ _ outcome

end ReadArgs.Yields

/-- A call is answered by the method of its name, if it is one of the type
on top, or by nothing; and else by what the type embeds. -/
theorem ModelRegister.of_invoke_extend {embedded : ModelRegister σ κ ρ} {typeFullName : String}
    {methods : List (Method σ κ ρ)} {call : EventCall} {values : List (ArgValue κ)}
    {action : Action σ ρ}
    (found : (embedded.extend typeFullName methods).invoke call values = .ok action) :
    (call.typeFullName = typeFullName ∧ ∃ method ∈ methods,
        method.call.methodName = call.methodName ∧ readArgs call values method.reading = .ok action)
      ∨ (call.typeFullName = typeFullName
          ∧ (∀ method ∈ methods, method.call.methodName ≠ call.methodName) ∧ action = .idle)
      ∨ (call.typeFullName ≠ typeFullName ∧ embedded.invoke call values = .ok action) := by
  unfold ModelRegister.extend at found
  dsimp only at found
  split at found
  · next typed =>
    split at found
    · next method searched =>
      have named : method.call.methodName = call.methodName := by
        simpa using List.find?_some searched
      exact .inl ⟨typed, method, List.mem_of_find?_eq_some searched, named, found⟩
    · next unnamed =>
      cases found
      refine .inr (.inl ⟨typed, fun method listed named => ?_, rfl⟩)
      exact List.find?_eq_none.1 unnamed method listed (beq_iff_eq.2 named)
  · next foreign => exact .inr (.inr ⟨foreign, found⟩)

theorem ModelRegister.of_invoke_within {register : ModelRegister τ κ ρ} {outer : Part σ τ}
    {call : EventCall} {values : List (ArgValue κ)} {action : Action σ ρ}
    (found : (register.within outer).invoke call values = .ok action) :
    ∃ inner, register.invoke call values = .ok inner ∧ action = inner.within outer := by
  unfold ModelRegister.within at found
  dsimp only at found
  cases below : register.invoke call values with
  | error fault =>
    rw [below] at found
    cases found
  | ok inner =>
    rw [below] at found
    cases found
    exact ⟨inner, rfl, rfl⟩

/-- The calls that a register answers with actions that tell. -/
def ModelRegister.Tells (model : Model σ) (answered : EventCall → Prop)
    (register : ModelRegister σ κ ρ) : Prop :=
  ∀ call values action, answered call → register.invoke call values = .ok action →
    action.Tells model

namespace ModelRegister.Tells

variable {model : Model σ} {answered : EventCall → Prop}

theorem nothing : (ModelRegister.nothing : ModelRegister σ κ ρ).Tells model answered := by
  intro call values action _ found
  cases found
  exact fun state => .nothing state

/-- Methods tell when each of them that may be meant does. -/
theorem extend {embedded : ModelRegister σ κ ρ} (tells : embedded.Tells model answered)
    {typeFullName : String} {methods : List (Method σ κ ρ)}
    (own : ∀ method ∈ methods, ∀ call, answered call → call.typeFullName = typeFullName →
      method.call.methodName = call.methodName →
      ReadArgs.Yields (Action.Tells model) method.reading) :
    (embedded.extend typeFullName methods).Tells model answered := by
  intro call values action answers found
  rcases of_invoke_extend found with ⟨typed, method, listed, named, read⟩ | ⟨-, -, rfl⟩ | ⟨-, below⟩
  · exact (own method listed call answers typed named).of_readArgs read
  · exact fun state => .nothing state
  · exact tells call values action answers below

/-- What tells of a part tells of the whole. -/
theorem within {outer : Part σ τ} {base : Model τ} (embeds : Embeds model outer base)
    {register : ModelRegister τ κ ρ} (tells : register.Tells base answered) :
    (register.within outer).Tells model answered := by
  intro call values action answers found
  obtain ⟨inner, below, rfl⟩ := of_invoke_within found
  exact fun whole => (tells call values inner answers below (outer.get whole)).within embeds

end ModelRegister.Tells

end DataBinding
