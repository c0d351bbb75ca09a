/-
What comes of setting a property to the value that it has. A setter compares
the two, and if they are the same it does nothing; so writing back does
nothing as far as every value is the same as itself.

# What differs from itself

Floats are compared as numbers, and what is no number differs from all,
itself among them (`Single.same_self`). No other item does, and a list does
if one of its items does (`ValueKind.same_self`). So a property that holds
no number is pushed and raised each time that it is written back, although
nothing changes (`Layer.set_get_of_nan`).
-/
import DataBinding.Proofs.Dispatch

namespace DataBinding

variable {σ : Type}

-- =============================================================== sameness

/-- A number is the same as itself, and nothing else is. -/
theorem Single.same_self (number : Single) : number.same number = !number.isNaN := by
  unfold same
  rw [beq_self_eq_true, Bool.true_or, Bool.and_true, Bool.and_self]

theorem sameItems_self {α : Type} {same : α → α → Bool} (items : List α) :
    sameItems same items items = items.all fun item => same item item := by
  induction items with
  | nil => rfl
  | cons item rest ih => rw [sameItems, ih, List.all_cons]

/-- The value is a float that is no number. -/
def ItemKind.hasNaN : (kind : ItemKind) → kind.Carrier → Bool
  | .float => Single.isNaN
  | .int | .bool | .string | .sprite | .enum _ => fun _ => false

/-- Some float in the value is no number. -/
def ValueKind.hasNaN : (kind : ValueKind) → kind.Carrier → Bool
  | .single item => item.hasNaN
  | .list item => fun items => items.any item.hasNaN

theorem ItemKind.same_self {kind : ItemKind} (value : kind.Carrier) :
    kind.same value value = !kind.hasNaN value := by
  cases kind with
  | float => exact Single.same_self value
  | _ => exact beq_self_eq_true _

theorem ValueKind.same_self {kind : ValueKind} (value : kind.Carrier) :
    kind.same value value = !kind.hasNaN value := by
  cases kind with
  | single item => exact ItemKind.same_self value
  | list item =>
    show sameItems item.same value value = !value.any item.hasNaN
    rw [sameItems_self, List.not_any_eq_all_not]
    exact congrArg value.all (funext ItemKind.same_self)

/-- Kinds whose values are compared as they are. -/
def ValueKind.isExact : ValueKind → Bool
  | .single .float | .list .float => false
  | _ => true

theorem ValueKind.hasNaN_of_isExact {kind : ValueKind} (exact : kind.isExact = true)
    (value : kind.Carrier) : kind.hasNaN value = false := by
  cases kind with
  | single item =>
    cases item with
    | float => cases exact
    | _ => rfl
  | list item =>
    cases item with
    | float => cases exact
    | _ => exact List.any_eq_false.2 fun _ _ => Bool.false_ne_true

-- =========================================================== writing back

namespace Layer

variable {layer : Layer σ} {accessor : Accessor σ} {state : σ}

/-- A value that is the same as itself is not written back at all. -/
theorem set_get (number : accessor.kind.hasNaN (accessor.get state) = false) :
    layer.set accessor (accessor.get state) state = .idle state := by
  refine layer.set_of_same ?_
  rw [ValueKind.same_self, number]
  rfl

/-- What is no number is written back as if it were news. -/
theorem set_get_of_nan (plain : accessor.Plain)
    (nan : accessor.kind.hasNaN (accessor.get state) = true) :
    layer.set accessor (accessor.get state) state
      = { state
          signals := .pushed ⟨layer.fullName, accessor.name, accessor.wired state⟩
            :: layer.calls accessor.name (accessor.held state) state } := by
  have after := plain.uncounted.settled_eq
  have ends := layer.overflows_set_of_uncounted plain.uncounted (accessor.get state) state
  obtain ⟨followUps, -, before, -⟩ := plain
  have other : ¬ accessor.kind.same (accessor.get state) (accessor.get state) = true := by
    rw [ValueKind.same_self, nan]
    exact Bool.false_ne_true
  have put : accessor.part.put (accessor.get state) (accessor.beforeChange state) = state := by
    rw [before]
    exact accessor.part.put_get state
  have written : accessor.written (accessor.get state) state = state := by
    rw [Accessor.written, put, after]
    rfl
  have left := layer.state_set_of_other other
  have sent := layer.signals_set_of_other other
  rw [Accessor.Completes.followed_eq (.inl followUps), followUps, List.flatMap_nil,
    List.append_nil, put, before] at sent
  exact congrArg₂ Course.mk (congrArg₂ Change.mk (left.trans written) sent) ends

/-- What comes of writing back the value of a property. -/
structure WritesBack (layer : Layer σ) (accessor : Accessor σ) (state : σ) : Prop where
  /-- As a rule nothing. -/
  idle : accessor.kind.hasNaN (accessor.get state) = false →
    layer.set accessor (accessor.get state) state = .idle state
  /-- A float that is no number is pushed and raised, and stays as it is. -/
  again : accessor.kind.hasNaN (accessor.get state) = true →
    accessor.kind = .single .float
      ∧ layer.set accessor (accessor.get state) state
        = { state
            signals := .pushed ⟨layer.fullName, accessor.name, accessor.wired state⟩
              :: layer.calls accessor.name (accessor.held state) state }

end Layer

/-- A property that is compared as it is, or a float and nothing more. -/
def Accessor.Compared (accessor : Accessor σ) : Prop :=
  accessor.kind.isExact = true ∨ accessor.kind = .single .float ∧ accessor.Plain

theorem Accessor.Compared.writesBack {layer : Layer σ} {accessor : Accessor σ}
    (compared : accessor.Compared) (state : σ) : layer.WritesBack accessor state where
  idle := Layer.set_get
  again nan := by
    rcases compared with exact | ⟨float, plain⟩
    · rw [ValueKind.hasNaN_of_isExact exact] at nan
      cases nan
    · exact ⟨float, Layer.set_get_of_nan plain nan⟩

namespace Game

theorem Player.compared : ∀ accessor ∈ model.accessors, accessor.Compared := by
  have speed : speedProperty.Compared := .inr ⟨rfl, rfl, rfl, rfl, rfl⟩
  simp only [Model.accessors, Model.layers, model, layer, Layer.within, Entity.layer,
    List.cons_append, List.nil_append, List.flatMap_cons, List.flatMap_nil, List.map_cons,
    List.map_nil, List.forall_mem_cons, List.not_mem_nil, false_implies, implies_true, and_true]
  and_intros <;> first | exact .inl rfl | exact speed

theorem Boss.compared : ∀ accessor ∈ model.accessors, accessor.Compared := by
  simp only [Model.accessors, Model.layers, model, layer, List.nil_append, List.flatMap_singleton,
    List.forall_mem_cons, List.not_mem_nil, false_implies, implies_true, and_true]
  exact ⟨.inr ⟨rfl, rfl, rfl, rfl, rfl⟩, .inr ⟨rfl, rfl, rfl, rfl, rfl⟩,
    .inr ⟨rfl, rfl, rfl, rfl, rfl⟩⟩

theorem Settings.compared : ∀ accessor ∈ model.accessors, accessor.Compared := by
  simp only [Model.accessors, Model.layers, model, layer, List.nil_append, List.flatMap_singleton,
    List.forall_mem_cons, List.not_mem_nil, false_implies, implies_true, and_true]
  exact ⟨.inr ⟨rfl, rfl, rfl, rfl, rfl⟩, .inl rfl⟩

/-- All other models are without floats. -/
theorem compared_of_isExact {layout : Layout}
    (exact : ∀ accessor ∈ layout.model.accessors, accessor.kind.isExact = true) :
    ∀ accessor ∈ layout.model.accessors, accessor.Compared :=
  fun accessor listed => .inl (exact accessor listed)

/-- Writing back the value of a property of the game does nothing, unless
the value is a float that is no number: this one is pushed and raised again,
and nothing changes. -/
theorem writing_back : ∀ layout ∈ layouts, ∀ layer ∈ layout.model.layers,
    ∀ accessor ∈ layer.accessors, ∀ state : layout.State, layer.WritesBack accessor state := by
  have compared : ∀ layout ∈ layouts, ∀ accessor ∈ layout.model.accessors,
      accessor.Compared := by
    simp only [layouts, List.forall_mem_cons, List.not_mem_nil, false_implies, implies_true,
      and_true]
    exact ⟨compared_of_isExact (by decide +kernel), Player.compared, Boss.compared,
      compared_of_isExact (by decide +kernel), compared_of_isExact (by decide +kernel),
      compared_of_isExact (by decide +kernel), compared_of_isExact (by decide +kernel),
      Settings.compared⟩
  intro layout listed layer inside accessor listed' state
  exact (compared layout listed accessor (Model.mem_accessors inside listed')).writesBack state

/-- No number at all. -/
def noNumber : Single := ⟨0x7FC00000⟩

/-- A player with no speed to speak of, to whom one is listening. -/
def dazed : Player := { events := ⟨["hud"]⟩, health := 3, speed := noNumber }

/-- Not every value that is there can be written back without being pushed:
the speed of the dazed one is pushed, and raised, each time. -/
theorem speed_written_back_again :
    (Player.layer.set Player.speedProperty dazed.speed dazed).deliveries
        = [⟨"game::Player", "Speed", .float noNumber⟩]
      ∧ ¬ ∀ layout ∈ layouts, ∀ layer ∈ layout.model.layers, ∀ accessor ∈ layer.accessors,
          ∀ state : layout.State, layer.set accessor (accessor.get state) state = .idle state := by
  have pushed : (Player.layer.set Player.speedProperty dazed.speed dazed).deliveries
      = [⟨"game::Player", "Speed", .float noNumber⟩] := by decide +kernel
  have listed : Player.speedProperty ∈ Player.layer.accessors := by simp [Player.layer]
  refine ⟨pushed, fun idle => ?_⟩
  have nothing : Player.layer.set Player.speedProperty dazed.speed dazed = .idle dazed :=
    idle Player.layout (List.mem_cons_of_mem _ List.mem_cons_self) Player.layer
      (own_mem_layers Player.model) Player.speedProperty listed dazed
  rw [nothing] at pushed
  cases pushed

/-- The health of the dazed one can be written back, and then nothing is
sent; the speed is raised to the one who listens. -/
theorem dazed_written_back :
    Player.layer.set Player.healthProperty (3 : Int32) dazed = .idle dazed
      ∧ (Player.layer.set Player.speedProperty noNumber dazed).state = dazed
      ∧ ((Player.layer.set Player.speedProperty noNumber dazed).signals.filterMap
          Signal.call?).map (fun call => (call.1, call.2.1)) = [("hud", "Speed")] := by
  have back : ∀ accessor ∈ Player.layer.accessors, Player.layer.WritesBack accessor dazed :=
    fun accessor listed => writing_back Player.layout
      (List.mem_cons_of_mem _ List.mem_cons_self) Player.layer (own_mem_layers Player.model)
      accessor listed dazed
  have health := (back Player.healthProperty List.mem_cons_self).idle rfl
  obtain ⟨-, speed⟩ := (back Player.speedProperty (by simp [Player.layer])).again
    (by decide +kernel)
  refine ⟨health, congrArg (·.state) speed, ?_⟩
  rw [show Player.layer.set Player.speedProperty noNumber dazed = _ from speed]
  decide +kernel

end Game

end DataBinding
