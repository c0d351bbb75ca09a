/-
What a consumer knows of a model that it listens to: for each property of
each type the value that was pushed last or, while none was pushed, the one
that the model started with (`replay`). The consumer is up to date when
these are the values that the model has now (`Fresh`).

# Changes that tell

It does not matter that a value is pushed before it is written, nor in
which order values are pushed. What counts is that a change, taken as a
whole, pushes the new value of every property that it changes, and pushes
nothing else (`Told`). Changes that tell can be made one after the other,
also on a part of a whole whose own properties do not look at the part. So
along a run of operations that tell, what the consumer knows and what the
model has are the same after every step (`fresh_run`).
-/
import DataBinding.Live.Consumer
import DataBinding.Live.Model
import DataBinding.Proofs.Setters

namespace DataBinding

variable {σ τ : Type}

-- ============================================================= properties

/-- The value of a field as a property. -/
def Accessor.reading (accessor : Accessor σ) : Reading σ :=
  ⟨accessor.name, accessor.kind, accessor.get⟩

namespace Layer

/-- The properties of a layer, stored and computed. -/
def readings (layer : Layer σ) : List (Reading σ) :=
  layer.accessors.map Accessor.reading ++ layer.computed

theorem forall_readings {layer : Layer σ} {holds : Reading σ → Prop} :
    (∀ reading ∈ layer.readings, holds reading)
      ↔ (∀ accessor ∈ layer.accessors, holds accessor.reading)
        ∧ ∀ reading ∈ layer.computed, holds reading := by
  unfold readings
  rw [List.forall_mem_append, List.forall_mem_map]

/-- The properties of a layer within a whole are those of the layer. -/
theorem readings_within (layer : Layer τ) (outer : Part σ τ) :
    (layer.within outer).readings = layer.readings.map (·.within outer) := by
  unfold readings
  rw [List.map_append, List.map_map]
  unfold within
  rw [List.map_map]
  rfl

/-- A step that no property of the layer shows. -/
def Hides (layer : Layer σ) (step : σ → σ) : Prop :=
  ∀ reading ∈ layer.readings, ∀ state, reading.wired (step state) = reading.wired state

end Layer

theorem own_mem_layers (model : Model σ) : model.own ∈ model.layers :=
  List.mem_append_right _ (List.mem_singleton_self _)

-- ============================================================== replaying

/-- The value that is known of a property after some more was pushed. -/
def replay (owner property : String) (known : PropertyValue) (log : List Delivery) :
    PropertyValue :=
  log.foldl
    (fun known delivery =>
      if delivery.model = owner ∧ delivery.property = property then delivery.value else known)
    known

section replay

variable {owner property : String} {known value : PropertyValue}

theorem replay_append (first second : List Delivery) :
    replay owner property known (first ++ second)
      = replay owner property (replay owner property known first) second :=
  List.foldl_append

/-- If all that is pushed of a property is one value, and it is pushed or
was known before, then that is what is known. -/
theorem replay_eq {log : List Delivery}
    (agree : ∀ delivery ∈ log, delivery.model = owner → delivery.property = property →
      delivery.value = value)
    (told : known = value
      ∨ ∃ delivery ∈ log, delivery.model = owner ∧ delivery.property = property) :
    replay owner property known log = value := by
  induction log generalizing known with
  | nil =>
    rcases told with rfl | ⟨_, impossible, -⟩
    · rfl
    · cases impossible
  | cons delivery rest ih =>
    have agreeRest : ∀ later ∈ rest, later.model = owner → later.property = property →
        later.value = value :=
      fun later inside => agree later (List.mem_cons_of_mem _ inside)
    show replay owner property
      (if delivery.model = owner ∧ delivery.property = property then delivery.value else known)
      rest = value
    split
    · next about =>
      exact ih agreeRest (Or.inl (agree delivery List.mem_cons_self about.1 about.2))
    · next elsewhere =>
      refine ih agreeRest (told.imp_right ?_)
      rintro ⟨later, inside, model, name⟩
      rcases List.mem_cons.1 inside with rfl | inside
      · exact absurd ⟨model, name⟩ elsewhere
      · exact ⟨later, inside, model, name⟩

/-- What is pushed of others changes nothing. -/
theorem replay_of_others {log : List Delivery} (others : ∀ delivery ∈ log, delivery.model ≠ owner) :
    replay owner property known log = known :=
  replay_eq (fun delivery inside about => absurd about (others delivery inside)) (Or.inl rfl)

end replay

-- ======================================================= changes that tell

variable {model : Model σ}

/-- A change tells what it does: replayed, the values that it pushes are
those that it leaves; and it pushes for types of the model only. -/
structure Told (model : Model σ) (state : σ) (change : Change σ) : Prop where
  replayed : ∀ layer ∈ model.layers, ∀ reading ∈ layer.readings,
    replay layer.fullName reading.name (reading.wired state) change.deliveries
      = reading.wired change.state
  owners : ∀ delivery ∈ change.deliveries, ∃ layer ∈ model.layers,
    layer.fullName = delivery.model

namespace Told

/-- A silent step tells all there is if no property shows it. -/
theorem hidden {step : σ → σ} (hides : ∀ layer ∈ model.layers, layer.Hides step) (state : σ) :
    Told model state ⟨step state, []⟩ where
  replayed layer inside reading listed := (hides layer inside reading listed state).symm
  owners _ impossible := nomatch impossible

theorem nothing (state : σ) : Told model state ⟨state, []⟩ :=
  hidden (fun _ _ _ _ _ => rfl) state

theorem andThen {state : σ} {first : Change σ} (told : Told model state first)
    (next : σ → Change σ) (toldNext : Told model first.state (next first.state)) :
    Told model state (first.andThen next) where
  replayed layer inside reading listed := by
    rw [Change.deliveries_andThen, replay_append, told.replayed layer inside reading listed]
    exact toldNext.replayed layer inside reading listed
  owners delivery pushed := by
    rw [Change.deliveries_andThen, List.mem_append] at pushed
    exact pushed.elim (told.owners delivery) (toldNext.owners delivery)

/-- It does not matter if the first of them ends early. -/
theorem andThen_course {state : σ} {first : Course σ} {next : σ → Course σ}
    (told : Told model state first) (toldNext : Told model first.state (next first.state)) :
    Told model state (first.andThen next) := by
  unfold Course.andThen
  split
  · exact told
  · exact Told.andThen told (fun state => next state) toldNext

end Told

-- ================================================================= wholes

/-- A model has another one within. The properties of the whole's own type
do not look at the part, and the whole's own type is none of the part's. -/
structure Embeds (model : Model σ) (outer : Part σ τ) (base : Model τ) : Prop where
  embedded : model.embedded = base.layers.map (·.within outer)
  apart : ∀ part, model.own.Hides (outer.put part)
  foreign : ∀ layer ∈ base.layers, layer.fullName ≠ model.own.fullName

/-- A layer of the whole is one of the part, or the own one. -/
theorem Embeds.mem_layers {outer : Part σ τ} {base : Model τ} (embeds : Embeds model outer base)
    {layer : Layer σ} (inside : layer ∈ model.layers) :
    (∃ inner ∈ base.layers, inner.within outer = layer) ∨ layer = model.own := by
  rcases List.mem_append.1 inside with inner | own
  · rw [embeds.embedded] at inner
    exact Or.inl (List.mem_map.1 inner)
  · exact Or.inr (List.mem_singleton.1 own)

/-- What a change of a part tells is told of the whole. -/
theorem Told.within {outer : Part σ τ} {base : Model τ} (embeds : Embeds model outer base)
    {whole : σ} {change : Change τ} (told : Told base (outer.get whole) change) :
    Told model whole (change.within outer whole) where
  replayed layer inside reading listed := by
    rw [Change.deliveries_within]
    rcases embeds.mem_layers inside with ⟨inner, inside', rfl⟩ | rfl
    · rw [Layer.readings_within] at listed
      obtain ⟨reading', listed', rfl⟩ := List.mem_map.1 listed
      refine (told.replayed inner inside' reading' listed').trans ?_
      show _ = reading'.wired (outer.get (outer.put change.state whole))
      rw [outer.get_put]
    · rw [replay_of_others]
      · exact (embeds.apart change.state reading listed whole).symm
      · intro delivery pushed
        obtain ⟨inner, inside', named⟩ := told.owners delivery pushed
        rw [← named]
        exact embeds.foreign inner inside'
  owners delivery pushed := by
    rw [Change.deliveries_within] at pushed
    obtain ⟨inner, inside', named⟩ := told.owners delivery pushed
    refine ⟨inner.within outer, List.mem_append_left _ ?_, named⟩
    rw [embeds.embedded]
    exact List.mem_map_of_mem inside'

-- ================================================================== runs

/-- A model, and the consumer in its place with what it has written down. -/
structure Watched (σ : Type) where
  state : σ
  stage : Stage Recorder Recorder.Log

namespace Watched

/-- A model in its initial state, and a consumer that has heard nothing. -/
def start (model : Model σ) : Watched σ := ⟨model.initial, ⟨.idle (some .plain), []⟩⟩

/-- Do something to the model; what it pushes goes to the consumer. -/
def perform (watched : Watched σ) (operation : σ → Change σ) : Watched σ :=
  let change := operation watched.state
  ⟨change.state, watched.stage.deliverAll Recorder.react change.deliveries⟩

/-- Do several things, one after the other. -/
def run (model : Model σ) (operations : List (σ → Change σ)) : Watched σ :=
  operations.foldl perform (start model)

/-- What the consumer has written down. -/
def log (watched : Watched σ) : Recorder.Log := watched.stage.world

end Watched

/-- The consumer knows what the model has: for each property of each type,
stored or computed, replaying what it has heard on top of the initial value
comes to the current value. -/
def Fresh (model : Model σ) (watched : Watched σ) : Prop :=
  ∀ layer ∈ model.layers,
    (∀ accessor ∈ layer.accessors,
        replay layer.fullName accessor.name (accessor.wired model.initial) watched.log
          = accessor.wired watched.state)
      ∧ ∀ reading ∈ layer.computed,
          replay layer.fullName reading.name (reading.wired model.initial) watched.log
            = reading.wired watched.state

theorem fresh_iff {watched : Watched σ} :
    Fresh model watched
      ↔ ∀ layer ∈ model.layers, ∀ reading ∈ layer.readings,
          replay layer.fullName reading.name (reading.wired model.initial) watched.log
            = reading.wired watched.state := by
  simp only [Layer.forall_readings]
  rfl

/-- A plain recorder in its place writes down all that is pushed, and stays
there. -/
theorem deliverAll_plain (deliveries log : List Delivery) :
    Stage.deliverAll Recorder.react deliveries ⟨.idle (some .plain), log⟩
      = ⟨.idle (some .plain), log ++ deliveries⟩ := by
  induction deliveries generalizing log with
  | nil =>
    rw [List.append_nil]
    rfl
  | cons delivery rest ih =>
    have next := ih (log ++ [delivery])
    rw [List.append_assoc] at next
    exact next

/-- After a change that tells, a consumer that was up to date is so still,
and in its place. -/
theorem fresh_perform {watched : Watched σ} {operation : σ → Change σ}
    (tells : Told model watched.state (operation watched.state))
    (installed : watched.stage.slot = .idle (some .plain)) (fresh : Fresh model watched) :
    (watched.perform operation).stage.slot = .idle (some .plain)
      ∧ Fresh model (watched.perform operation) := by
  obtain ⟨state, slot, log⟩ := watched
  cases installed
  have performed : Watched.perform ⟨state, .idle (some .plain), log⟩ operation
      = ⟨(operation state).state, .idle (some .plain), log ++ (operation state).deliveries⟩ :=
    congrArg (Watched.mk _) (deliverAll_plain _ _)
  rw [performed]
  refine ⟨rfl, fresh_iff.2 fun layer inside reading listed => ?_⟩
  calc replay layer.fullName reading.name (reading.wired model.initial)
        (log ++ (operation state).deliveries)
      = replay layer.fullName reading.name
          (replay layer.fullName reading.name (reading.wired model.initial) log)
          (operation state).deliveries := replay_append _ _
    _ = replay layer.fullName reading.name (reading.wired state)
          (operation state).deliveries := by
        rw [← fresh_iff.1 fresh layer inside reading listed]
        rfl
    _ = reading.wired (operation state).state := tells.replayed layer inside reading listed

/-- Along a run of operations that tell, the consumer is up to date. -/
theorem fresh_run {operations : List (σ → Change σ)}
    (tell : ∀ operation ∈ operations, ∀ state, Told model state (operation state)) :
    Fresh model (Watched.run model operations) := by
  have along : ∀ watched : Watched σ, watched.stage.slot = .idle (some .plain) →
      Fresh model watched → Fresh model (operations.foldl Watched.perform watched) := by
    induction operations with
    | nil => exact fun _ _ fresh => fresh
    | cons operation rest ih =>
      intro watched installed fresh
      obtain ⟨installed', fresh'⟩ :=
        fresh_perform (tell operation List.mem_cons_self watched.state) installed fresh
      exact ih (fun later inside => tell later (List.mem_cons_of_mem _ inside)) _ installed'
        fresh'
  exact along (Watched.start model) rfl fun _ _ => ⟨fun _ _ => rfl, fun _ _ => rfl⟩

end DataBinding
