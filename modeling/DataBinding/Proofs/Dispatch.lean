/-
Values that come by name. They go through all types of a model, the
innermost first, and each type has its say by calling setters: that of the
property of the name, if the value is of a sort that the property is
assigned, and else none. Nothing but these setters is called.

# One property at most

Within a type names are distinct, so searching for the first property that
fits comes to calling the setters of all that fit (`Layer.update_eq`).

# The types within

An embedded type sees its own part only. What its setters do is what they
do to the part on its own, and handlers are shown the whole around it
(`Layer.set_within`). The setters of the embedded types are therefore
written down as what they are of the part (`Base.setterCalls`).

# What is left alone

A write keeps all fields but its own, and those that injected code changes.
For each model of the game the fields are listed once more, those of the
embedded types among them (`Layout`), since an update by name reaches these
too.

# Setters that end early

Calls in a row end with the first that ends early (`Course.inTurn`). Only
setters of the mana ever do, and no property that is assigned comes behind
the mana (`ManaLast`).
-/
import DataBinding.Proofs.Freshness
import DataBinding.Proofs.SetterContract

namespace DataBinding

variable {σ τ : Type}

-- ========================================================== what is given

namespace DispatchKind

/-- What an update method is given beside the name. -/
@[reducible] def Input : DispatchKind → Type
  | .int => Int32
  | .float => Single
  | .string => String
  | .bool => Bool

/-- The value that is meant by it. -/
def value : (kind : DispatchKind) → kind.Input → PropertyValue
  | .int => .int
  | .float => .float
  | .string => .string
  | .bool => .bool

theorem dispatchKind?_value (kind : DispatchKind) (input : kind.Input) :
    (kind.value input).category.dispatchKind? = some kind := by
  cases kind <;> rfl

end DispatchKind

/-- Lists and sprites are never assigned by name. -/
theorem PropertyValue.dispatchKind?_eq_none {value : PropertyValue}
    (unassigned : value.category.isList = true ∨ value.category = .sprite) :
    value.category.dispatchKind? = none := by
  cases value <;> first | rfl | exact absurd unassigned (by simp [category, Category.isList])

namespace Accessor

variable (accessor : Accessor σ)

/-- The property is the one of a name, and an update method serves it. -/
def Serves (kind : DispatchKind) (name : String) : Prop :=
  accessor.name = name ∧ accessor.kind.category.dispatchKind? = some kind

instance (kind : DispatchKind) (name : String) : Decidable (accessor.Serves kind name) :=
  inferInstanceAs (Decidable (_ ∧ _))

/-- A property takes a value if one update method serves both. -/
theorem takes_iff_dispatchKind? (value : PropertyValue) :
    accessor.takes value = true
      ↔ value.category.dispatchKind? ≠ none
        ∧ accessor.kind.category.dispatchKind? = value.category.dispatchKind? := by
  unfold Accessor.takes
  cases value.category.dispatchKind? with
  | none => exact iff_of_false Bool.false_ne_true fun served => served.1 rfl
  | some kind => exact beq_iff_eq.trans (and_iff_right (Option.some_ne_none kind)).symm

theorem takes_iff {kind : DispatchKind} (input : kind.Input) :
    accessor.takes (kind.value input) = true
      ↔ accessor.kind.category.dispatchKind? = some kind := by
  rw [accessor.takes_iff_dispatchKind?, kind.dispatchKind?_value]
  exact and_iff_right (Option.some_ne_none kind)

/-- Properties that are assigned by name: numbers, texts, flags and enums. -/
def Assigned : Prop := accessor.kind.category.dispatchKind? ≠ none

instance : Decidable accessor.Assigned := inferInstanceAs (Decidable (_ ≠ _))

end Accessor

-- ======================================================== calls in a row

namespace Course

theorem andThen_of_overflows {first : Course σ} (early : first.overflows = true)
    (next : σ → Course σ) : first.andThen next = first := by
  unfold andThen
  rw [if_pos early]

theorem andThen_of_ends {first : Course σ} (ends : ¬ first.overflows = true)
    (next : σ → Course σ) :
    first.andThen next
      = { toChange := first.toChange.andThen fun state => next state
          overflows := (next first.state).overflows } := by
  unfold andThen
  rw [if_neg ends]

theorem andThen_assoc (first : Course σ) (second third : σ → Course σ) :
    (first.andThen second).andThen third
      = first.andThen fun state => (second state).andThen third := by
  by_cases early : first.overflows = true
  · rw [andThen_of_overflows early, andThen_of_overflows early, andThen_of_overflows early]
  · rw [andThen_of_ends early, andThen_of_ends early]
    unfold andThen
    by_cases again : (second first.state).overflows = true
    · simp only [Change.andThen, if_pos again]
    · simp only [Change.andThen, if_neg again, List.append_assoc]

theorem andThen_idle (course : Course σ) : course.andThen .idle = course := by
  by_cases early : course.overflows = true
  · exact andThen_of_overflows early _
  · rw [andThen_of_ends early]
    obtain ⟨⟨state, signals⟩, overflows⟩ := course
    rw [Bool.not_eq_true] at early
    cases early
    exact congrArg (fun sent => mk ⟨state, sent⟩ false) (List.append_nil signals)

/-- Calls that are made one after the other, until one ends early. -/
def inTurn : List (σ → Course σ) → σ → Course σ
  | [], state => .idle state
  | call :: rest, state => (call state).andThen (inTurn rest)

theorem inTurn_append (first later : List (σ → Course σ)) (state : σ) :
    inTurn (first ++ later) state = (inTurn first state).andThen (inTurn later) := by
  induction first generalizing state with
  | nil => rfl
  | cons call rest ih =>
    have step : inTurn (rest ++ later) = fun state => (inTurn rest state).andThen (inTurn later) :=
      funext ih
    rw [List.cons_append, inTurn, step, ← andThen_assoc]
    rfl

theorem inTurn_singleton (call : σ → Course σ) (state : σ) : inTurn [call] state = call state :=
  andThen_idle _

theorem foldl_andThen (calls : List (σ → Course σ)) (course : Course σ) :
    calls.foldl (fun course call => course.andThen call) course
      = course.andThen (inTurn calls) := by
  induction calls generalizing course with
  | nil => exact (andThen_idle course).symm
  | cons call rest ih => rw [List.foldl_cons, ih, andThen_assoc]; rfl

/-- Runs of calls can be made as one run. -/
theorem inTurn_flatMap {ι : Type} (items : List ι) (calls : ι → List (σ → Course σ)) :
    inTurn (items.map fun item => inTurn (calls item)) = inTurn (items.flatMap calls) := by
  induction items with
  | nil => rfl
  | cons item rest ih =>
    funext state
    rw [List.flatMap_cons, inTurn_append, ← ih]
    rfl

theorem kept_andThen {α : Type} {look : σ → α} {next : σ → Course σ}
    (kept : ∀ state, look (next state).state = look state) (first : Course σ) :
    look (first.andThen next).state = look first.state := by
  by_cases early : first.overflows = true
  · rw [andThen_of_overflows early]
  · rw [andThen_of_ends early]
    exact kept first.state

/-- What each call leaves as it is, all of them do. -/
theorem kept_inTurn {α : Type} {look : σ → α} {calls : List (σ → Course σ)}
    (kept : ∀ call ∈ calls, ∀ state, look (call state).state = look state) (state : σ) :
    look (inTurn calls state).state = look state := by
  induction calls generalizing state with
  | nil => rfl
  | cons call rest ih =>
    obtain ⟨here, later⟩ := List.forall_mem_cons.1 kept
    exact (kept_andThen (ih later) (call state)).trans (here state)

end Course

-- ================================================================ one type

/-- With distinct names, what fits first is all that fits. -/
theorem filter_eq_find? {α : Type} {items : List α} {key : α → String}
    (distinct : (items.map key).Nodup) (name : String) (fits : α → Bool) :
    (items.filter fun item => key item == name && fits item)
      = (items.find? fun item => key item == name && fits item).toList := by
  induction items with
  | nil => rfl
  | cons item rest ih =>
    obtain ⟨fresh, distinctRest⟩ := List.nodup_cons.1 distinct
    rw [List.filter_cons, List.find?_cons]
    split
    · next here =>
      have named : key item = name := beq_iff_eq.1 (Bool.and_eq_true_iff.1 here).1
      rw [here, Option.toList_some, List.filter_eq_nil_iff.2]
      intro other inside also
      have named' : key other = name := beq_iff_eq.1 (Bool.and_eq_true_iff.1 also).1
      exact fresh (List.mem_map.2 ⟨other, inside, named'.trans named.symm⟩)
    · next elsewhere =>
      rw [Bool.not_eq_true] at elsewhere
      rw [elsewhere]
      exact ih distinctRest

namespace Layer

variable (layer : Layer σ)

/-- The setters that an update method calls for a name: for each property
that it serves, with what the value stands for there, if anything. -/
def setterCalls (kind : DispatchKind) (name : String) (input : kind.Input) :
    List (σ → Course σ) :=
  (layer.accessors.filter fun accessor => accessor.Serves kind name).flatMap fun accessor =>
    (accessor.kind.ofWire? (kind.value input)).toList.map (layer.set accessor)

variable {layer}

/-- A type does with a value what the setters do that are meant. -/
theorem update_eq (distinct : (layer.accessors.map (·.name)).Nodup) (kind : DispatchKind)
    (name : String) (input : kind.Input) :
    layer.update name (kind.value input) = Course.inTurn (layer.setterCalls kind name input) := by
  have served : (fun accessor : Accessor σ => decide (accessor.Serves kind name))
      = fun accessor => accessor.name == name && accessor.takes (kind.value input) := by
    funext accessor
    rw [Bool.eq_iff_iff, decide_eq_true_iff, Bool.and_eq_true_iff, beq_iff_eq, accessor.takes_iff]
    rfl
  funext state
  unfold setterCalls update
  rw [served, filter_eq_find? distinct]
  cases layer.accessors.find? fun accessor =>
      accessor.name == name && accessor.takes (kind.value input) with
  | none => rfl
  | some accessor =>
    rw [Option.toList_some, List.flatMap_singleton]
    dsimp only
    cases accessor.kind.ofWire? (kind.value input) with
    | none => rfl
    | some value => exact (Course.inTurn_singleton (layer.set accessor value) state).symm

/-- A value by name comes to one setter, or to nothing. -/
theorem update_cases (layer : Layer σ) (name : String) (value : PropertyValue) (state : σ) :
    layer.update name value state = .idle state
      ∨ ∃ accessor ∈ layer.accessors, accessor.name = name ∧ accessor.takes value = true
          ∧ ∃ meant, accessor.kind.ofWire? value = some meant
            ∧ layer.update name value state = layer.set accessor meant state := by
  unfold update
  split
  · next accessor found =>
    split
    · next meant stands =>
      have fits := List.find?_some found
      obtain ⟨named, takes⟩ := Bool.and_eq_true_iff.1 fits
      exact .inr ⟨accessor, List.mem_of_find?_eq_some found, beq_iff_eq.1 named, takes, meant,
        stands, rfl⟩
    · exact .inl rfl
  · exact .inl rfl

/-- What no write that is meant reaches is left as it is. -/
theorem kept_inTurn {layers : List (Layer σ)} {α : Type} {look : σ → α} {name : String}
    {value : PropertyValue}
    (kept : ∀ layer ∈ layers, ∀ accessor ∈ layer.accessors, accessor.name = name →
      accessor.takes value = true → ∀ meant state, look (accessor.written meant state) = look state)
    (state : σ) :
    look (Course.inTurn (layers.map fun layer => layer.update name value) state).state
      = look state := by
  refine Course.kept_inTurn (List.forall_mem_map.2 fun layer inside state => ?_) state
  rcases layer.update_cases name value state with
    idle | ⟨accessor, listed, named, takes, meant, -, set⟩
  · rw [idle]
    rfl
  · rw [set]
    by_cases same : accessor.kind.same (accessor.get state) meant = true
    · rw [layer.set_of_same same]
      rfl
    · rw [layer.state_set_of_other same]
      exact kept layer inside accessor listed named takes meant state

end Layer

-- ========================================================= the types within

namespace Change

/-- One change of a part after the other is the same within the whole. -/
theorem within_andThen {outer : Part σ τ} {whole : σ} (change : Change τ) {next : τ → Change τ}
    {next' : σ → Change σ}
    (forwards : ∀ part, next' (outer.put part whole) = (next part).within outer whole) :
    (change.within outer whole).andThen next' = (change.andThen next).within outer whole := by
  have joined : (change.within outer whole).andThen next'
      = ⟨((next change.state).within outer whole).state,
          (change.within outer whole).signals
            ++ ((next change.state).within outer whole).signals⟩ := by
    rw [← forwards]
    rfl
  rw [joined]
  exact congrArg (mk _) List.map_append.symm

theorem raise_within (place : Part τ (ChangeEvent String)) (outer : Part σ τ) (property : String)
    (old : Held) (part : τ) (whole : σ) :
    raise (place.within outer) property old (outer.put part whole)
      = (raise place property old part).within outer whole := by
  simp [raise, within, Part.within, ChangeEvent.invoke, ChangeEvent.absorb, Function.comp_def,
    Signal.map]

end Change

theorem Part.modify_put (outer : Part σ τ) (change : τ → τ) (part : τ) (whole : σ) :
    outer.modify change (outer.put part whole) = outer.put (change part) whole := by
  rw [modify, outer.get_put, outer.put_put]

/-- A write within a whole is the write on the part. -/
theorem Accessor.written_within (accessor : Accessor τ) (outer : Part σ τ)
    (value : accessor.kind.Carrier) (whole : σ) :
    (accessor.within outer).written value whole
      = outer.put (accessor.written value (outer.get whole)) whole := by
  refine (congrFun (accessor.settled_within outer) _).trans ?_
  show outer.modify accessor.settled (outer.modify (accessor.part.put value)
    (outer.put (accessor.beforeChange (outer.get whole)) whole)) = _
  rw [outer.modify_put, outer.modify_put]
  rfl

/-- Within a whole there is as much room as for the part. -/
theorem Accessor.overruns_within (accessor : Accessor τ) (outer : Part σ τ)
    (value : accessor.kind.Carrier) (whole : σ) :
    (accessor.within outer).overruns value whole = accessor.overruns value (outer.get whole) := by
  show (outer.modify? accessor.afterChange (outer.modify (accessor.part.put value)
    (outer.put (accessor.beforeChange (outer.get whole)) whole))).isNone = _
  rw [outer.modify_put, Part.modify?, Option.isNone_map, outer.get_put]
  rfl

theorem Accessor.followed_within (accessor : Accessor τ) (outer : Part σ τ)
    (value : accessor.kind.Carrier) (whole : σ) :
    (accessor.within outer).followed value whole
      = (accessor.followed value (outer.get whole)).map (·.within outer) := by
  unfold followed
  rw [accessor.overruns_within]
  split <;> rfl

namespace Layer

variable (layer : Layer τ) (outer : Part σ τ)

theorem raise_within (property : String) (old : Held) (part : τ) (whole : σ) :
    (layer.within outer).raise property old (outer.put part whole)
      = (layer.raise property old part).within outer whole := by
  unfold raise within
  cases layer.events with
  | none => rfl
  | some place => exact Change.raise_within place outer property old part whole

theorem announce_within (reading : Reading τ) (before part : τ) (whole : σ) :
    (layer.within outer).announce (reading.within outer) (outer.put before whole)
        (outer.put part whole)
      = (layer.announce reading before part).within outer whole := by
  have read : ∀ part, (reading.within outer).read (outer.put part whole) = reading.read part :=
    fun part => congrArg reading.read (outer.get_put part whole)
  have wired : (reading.within outer).wired (outer.put part whole) = reading.wired part :=
    congrArg reading.kind.wire (read part)
  unfold announce
  rw [wired]
  refine Change.within_andThen (layer.push reading.name (reading.wired part) part) fun part => ?_
  have same : (reading.within outer).same (outer.put before whole) (outer.put part whole)
      = reading.same before part := by
    unfold Reading.same
    rw [read, read]
    rfl
  have held : (reading.within outer).held (outer.put before whole) = reading.held before :=
    congrArg (Held.mk reading.kind) (read before)
  rw [same, held]
  split
  · rfl
  · exact layer.raise_within outer _ _ _ _

theorem announceAll_within (readings : List (Reading τ)) (before : τ) (change : Change τ)
    (whole : σ) :
    (readings.map (·.within outer)).foldl (fun change reading =>
        change.andThen ((layer.within outer).announce reading (outer.put before whole)))
        (change.within outer whole)
      = (readings.foldl (fun change reading => change.andThen (layer.announce reading before))
          change).within outer whole := by
  induction readings generalizing change with
  | nil => rfl
  | cons reading rest ih =>
    have step := Change.within_andThen change
      fun part => layer.announce_within outer reading before part whole
    rw [List.map_cons, List.foldl_cons, step, ih]
    rfl

theorem write_within (accessor : Accessor τ) (value : accessor.kind.Carrier) (part : τ)
    (whole : σ) :
    (layer.within outer).write (accessor.within outer) value (outer.put part whole)
      = (layer.write accessor value part).within outer whole := by
  refine Change.within_andThen (layer.push accessor.name (accessor.kind.wire value) part)
    fun part => ?_
  have put : (accessor.within outer).part.put value (outer.put part whole)
      = outer.put (accessor.part.put value part) whole :=
    outer.modify_put (accessor.part.put value) part whole
  have held : (accessor.within outer).held (outer.put part whole) = accessor.held part :=
    congrArg (fun part => accessor.held part) (outer.get_put part whole)
  rw [put, held]
  exact layer.raise_within outer _ _ _ whole

/-- A setter does to a part within a whole what it does to the part. -/
theorem set_within (accessor : Accessor τ) (value : accessor.kind.Carrier) (whole : σ) :
    (layer.within outer).set (accessor.within outer) value whole
      = (layer.set accessor value (outer.get whole)).within outer whole := by
  by_cases same : accessor.kind.same (accessor.get (outer.get whole)) value = true
  · rw [layer.set_of_same same]
    refine ((layer.within outer).set_of_same same).trans ?_
    exact congrArg Course.idle (outer.put_get whole).symm
  · rw [layer.set_of_other same]
    refine ((layer.within outer).set_of_other same).trans ?_
    rw [accessor.followed_within, accessor.overruns_within, accessor.written_within]
    have write := layer.write_within outer accessor value
      (accessor.beforeChange (outer.get whole)) whole
    have announced := layer.announceAll_within outer
      (accessor.followed value (outer.get whole)) (accessor.beforeChange (outer.get whole))
      { layer.write accessor value (accessor.beforeChange (outer.get whole)) with
        state := accessor.written value (outer.get whole) } whole
    refine congrArg (Course.mk · _) (.trans ?_ announced)
    exact congrArg (fun change => List.foldl _ (Change.mk _ (Change.signals change)) _) write

end Layer

/-- A type that a model embeds, and where it does. -/
structure Base (σ : Type) where
  State : Type
  layer : Layer State
  part : Part σ State

namespace Base

variable (base : Base σ)

/-- What the type brings to the whole. -/
def within : Layer σ := base.layer.within base.part

/-- The setters of the type that an update method calls, each on the part. -/
def setterCalls (kind : DispatchKind) (name : String) (input : kind.Input) :
    List (σ → Course σ) :=
  (base.layer.setterCalls kind name input).map fun call whole =>
    (call (base.part.get whole)).within base.part whole

/-- Calling a setter through the whole is calling it on the part. -/
theorem setterCalls_within (kind : DispatchKind) (name : String) (input : kind.Input) :
    base.within.setterCalls kind name input = base.setterCalls kind name input := by
  unfold setterCalls Layer.setterCalls
  rw [List.map_flatMap]
  show ((base.layer.accessors.map (·.within base.part)).filter _).flatMap _ = _
  rw [List.filter_map, List.flatMap_map]
  refine congrArg (List.flatMap · _) (funext fun accessor => ?_)
  rw [List.map_map]
  refine List.map_congr_left fun value _ => funext fun whole => ?_
  exact base.layer.set_within base.part accessor value whole

end Base

namespace Model

variable {model : Model σ}

theorem update_eq_inTurn (name : String) (value : PropertyValue) (state : σ) :
    model.update name value state
      = Course.inTurn (model.layers.map fun layer => layer.update name value) state := by
  have run := Course.foldl_andThen (model.layers.map fun layer => layer.update name value)
    (.idle state)
  rw [List.foldl_map] at run
  exact run

/-- An update by name calls the setters that are meant, those of the
embedded types first, and does nothing else. -/
theorem update_eq {bases : List (Base σ)} (embedded : model.embedded = bases.map Base.within)
    (distinct : ∀ layer ∈ model.layers, (layer.accessors.map (·.name)).Nodup)
    (kind : DispatchKind) (name : String) (input : kind.Input) (state : σ) :
    model.update name (kind.value input) state
      = Course.inTurn
          (bases.flatMap (·.setterCalls kind name input)
            ++ model.own.setterCalls kind name input) state := by
  have each : (model.layers.map fun layer => layer.update name (kind.value input))
      = model.layers.map fun layer => Course.inTurn (layer.setterCalls kind name input) :=
    List.map_congr_left fun layer inside => Layer.update_eq (distinct layer inside) kind name input
  have within : (model.embedded.flatMap fun layer => layer.setterCalls kind name input)
      = bases.flatMap (·.setterCalls kind name input) := by
    rw [embedded, List.flatMap_map]
    exact congrArg (List.flatMap · bases)
      (funext fun base => base.setterCalls_within kind name input)
  rw [update_eq_inTurn, each, Course.inTurn_flatMap, layers, List.flatMap_append, within,
    List.flatMap_singleton]

/-- If no type has anything to do with a value, nothing is done. -/
theorem update_idle {name : String} {value : PropertyValue}
    (idle : ∀ layer ∈ model.layers, ∀ accessor ∈ layer.accessors, accessor.name = name →
      accessor.takes value = true → accessor.kind.ofWire? value = none) (state : σ) :
    model.update name value state = .idle state := by
  rw [update_eq_inTurn]
  generalize model.layers = layers at idle ⊢
  induction layers with
  | nil => rfl
  | cons layer rest ih =>
    obtain ⟨here, later⟩ := List.forall_mem_cons.1 idle
    have nothing : layer.update name value state = .idle state := by
      refine (layer.update_cases name value state).resolve_right ?_
      rintro ⟨accessor, listed, named, takes, meant, stands, -⟩
      rw [here accessor listed named takes] at stands
      cases stands
    rw [List.map_cons, Course.inTurn, nothing]
    exact ih later

/-- An update leaves as it is what no write that is meant reaches. -/
theorem kept_update {α : Type} {look : σ → α} {name : String} {value : PropertyValue}
    (kept : ∀ layer ∈ model.layers, ∀ accessor ∈ layer.accessors, accessor.name = name →
      accessor.takes value = true → ∀ meant state, look (accessor.written meant state) = look state)
    (state : σ) : look (model.update name value state).state = look state := by
  rw [update_eq_inTurn]
  exact Layer.kept_inTurn kept state

end Model

-- ============================================================= conversion

/-- Where integers tell the variants of enums apart, a value on its way
stands for that value which travels as it. -/
theorem ItemKind.ofWire?_eq_some_iff {item : ItemKind}
    (variants : ∀ type, item = .enum type → Function.Injective type.toInt) {value : PropertyValue}
    {meant : item.Carrier} : item.ofWire? value = some meant ↔ item.wire meant = value := by
  cases item with
  | enum type =>
    cases value with
    | int int =>
      rw [ofWire?, wire, PropertyValue.int.injEq, EnumDescriptor.ofInt?,
        List.findFinIdx?_eq_some_iff, beq_iff_eq]
      refine ⟨fun found => found.1, fun travels => ⟨travels, fun other before found => ?_⟩⟩
      have again : type.toInt other = type.toInt meant := (beq_iff_eq.1 found).trans travels.symm
      exact absurd (variants type rfl again) (Fin.ne_of_lt before)
    | _ => simp [ofWire?, wire]
  | _ => cases value <;> simp [ofWire?, wire, eq_comm]

/-- An integer that no variant has stands for none. -/
theorem EnumDescriptor.ofInt?_eq_none {type : EnumDescriptor} {int : Int32}
    (variantless : ∀ variant, type.toInt variant ≠ int) : type.ofInt? int = none := by
  rw [ofInt?, List.findFinIdx?_eq_none_iff]
  intro value listed found
  obtain ⟨variant, rfl⟩ := List.get_of_mem listed
  exact variantless variant (beq_iff_eq.1 found)

/-- Only single values are assigned by name. -/
theorem ValueKind.single_of_dispatched {kind : ValueKind}
    (dispatched : kind.category.dispatchKind? ≠ none) : ∃ item, kind = .single item := by
  cases kind with
  | single item => exact ⟨item, rfl⟩
  | list item =>
    refine absurd ?_ dispatched
    cases item with
    | enum type => cases flags : type.isFlags <;> simp [category, ItemKind.category, flags,
        Category.listOf?, Category.dispatchKind?]
    | _ => rfl

-- =========================================================== the models

/-- All properties with a setter, those of embedded types first. -/
def Model.accessors (model : Model σ) : List (Accessor σ) :=
  model.layers.flatMap (·.accessors)

theorem Model.mem_accessors {model : Model σ} {layer : Layer σ} (inside : layer ∈ model.layers)
    {accessor : Accessor σ} (listed : accessor ∈ layer.accessors) : accessor ∈ model.accessors :=
  List.mem_flatMap.2 ⟨layer, inside, listed⟩

theorem Model.accessors_of_alone {model : Model σ} (alone : model.embedded = []) :
    model.accessors = model.own.accessors := by
  unfold accessors layers
  rw [alone, List.nil_append, List.flatMap_singleton]

/-- With one type within, a property is one of that type or an own one. -/
theorem Model.mem_accessors_of_over {model : Model σ} {layer : Layer τ} {outer : Part σ τ}
    (embedded : model.embedded = [layer.within outer]) {accessor : Accessor σ} :
    accessor ∈ model.accessors
      ↔ (∃ inner ∈ layer.accessors, inner.within outer = accessor)
        ∨ accessor ∈ model.own.accessors := by
  unfold accessors layers
  rw [embedded, List.flatMap_append, List.flatMap_singleton, List.flatMap_singleton,
    List.mem_append]
  exact or_congr_left List.mem_map

theorem Layer.Announces.distinct_accessors {layer : Layer σ} (announces : layer.Announces) :
    (layer.accessors.map (·.name)).Nodup := by
  have distinct := announces.distinct
  unfold Layer.readings at distinct
  rw [List.map_append, List.map_map] at distinct
  exact distinct.of_append_left

/-- A part of a part, to be looked at. -/
def NamedPart.within (part : NamedPart τ) (outer : Part σ τ) : NamedPart σ :=
  ⟨part.name, part.Value, fun whole => part.get (outer.get whole)⟩

namespace Accessor.Keeps

variable {outer : Part σ τ} {beside : List String}

/-- What is kept of a part is kept of it within a whole. -/
theorem within {accessor : Accessor τ} {part : NamedPart τ} (keeps : accessor.Keeps beside part)
    (outer : Part σ τ) : (accessor.within outer).Keeps beside (part.within outer) := by
  intro named aside value whole
  rw [accessor.written_within outer value whole]
  exact (congrArg part.get (outer.get_put _ whole)).trans
    (keeps named aside value (outer.get whole))

/-- A write within a part keeps what is beside the part. -/
theorem of_beside {accessor : Accessor τ} {part : NamedPart σ}
    (apart : ∀ value whole, part.get (outer.put value whole) = part.get whole) :
    (accessor.within outer).Keeps beside part := by
  intro _ _ value whole
  rw [accessor.written_within outer value whole]
  exact apart _ whole

/-- A write that keeps a part keeps all that is within. -/
theorem of_part {accessor : Accessor σ} {part : NamedPart τ}
    (keeps : ∀ value whole, outer.get (accessor.written value whole) = outer.get whole) :
    accessor.Keeps beside (part.within outer) :=
  fun _ _ value whole => congrArg part.get (keeps value whole)

end Accessor.Keeps

/-- Integers tell the variants apart of all enums that can be assigned. -/
def TellsVariants (accessors : List (Accessor σ)) : Prop :=
  ∀ accessor ∈ accessors, ∀ type, accessor.kind = .single (.enum type) →
    Function.Injective type.toInt

namespace Game

/-- The mana comes behind all else that is assigned by name. -/
def ManaLast (accessors : List (Accessor σ)) : Prop :=
  accessors.Pairwise fun accessor later =>
    accessor.name = "Mana" → later.name ≠ "Mana" ∧ ¬ later.Assigned

instance (accessors : List (Accessor σ)) : Decidable (ManaLast accessors) :=
  inferInstanceAs (Decidable (List.Pairwise _ _))

/-- A bound model of the game down to its fields, those of embedded types
among them. -/
structure Layout where
  State : Type
  model : Model State
  bases : List (Base State)
  embedded : model.embedded = bases.map Base.within
  announcing : Announcing model
  fields : List (NamedPart State)
  complete : ∀ state other,
    (∀ field ∈ fields, field.get state = field.get other) → state = other
  keeps : ∀ accessor ∈ model.accessors, ∀ field ∈ fields,
    accessor.Keeps (changedBeside accessor.name) field
  /-- Where types share a name, it is that of properties of one kind. -/
  alike : ∀ accessor ∈ model.accessors, ∀ other ∈ model.accessors,
    accessor.name = other.name → accessor.kind = other.kind
  variants : TellsVariants model.accessors
  /-- Only the mana is counted. -/
  uncounted : ∀ accessor ∈ model.accessors, accessor.name ≠ "Mana" → accessor.Uncounted
  manaLast : ManaLast model.accessors

/-- A model of one type. -/
def Layout.alone (inventory : Inventory) (alone : inventory.model.embedded = [])
    (announcing : Announcing inventory.model)
    (variants : TellsVariants inventory.model.own.accessors)
    (manaLast : ManaLast inventory.model.own.accessors) : Layout where
  State := inventory.State
  model := inventory.model
  bases := []
  embedded := alone
  announcing := announcing
  fields := inventory.parts
  complete := inventory.complete
  keeps accessor listed := by
    rw [Model.accessors_of_alone alone] at listed
    exact inventory.careful.keeps accessor listed
  alike accessor listed other listed' named := by
    rw [Model.accessors_of_alone alone] at listed listed'
    have announces := announcing.layers _ (own_mem_layers inventory.model)
    rw [List.inj_on_of_nodup_map announces.distinct_accessors listed listed' named]
  variants := by
    rw [Model.accessors_of_alone alone]
    exact variants
  uncounted accessor listed other := by
    rw [Model.accessors_of_alone alone] at listed
    exact inventory.careful.uncounted accessor listed (changedBeside_eq_nil.2 other)
  manaLast := by
    rw [Model.accessors_of_alone alone]
    exact manaLast

/-- A model of the game with another one within, which is its first part. -/
def Layout.over (inventory base : Inventory) (outer : Part inventory.State base.State)
    (name : String) (rest : List (NamedPart inventory.State))
    (embedded : inventory.model.embedded = [base.model.own.within outer])
    (announcing : Announcing inventory.model) (announcingBase : Announcing base.model)
    (parts : inventory.parts = ⟨name, base.State, outer.get⟩ :: rest)
    (apart : ∀ part ∈ rest, ∀ value state,
      part.get (outer.put value state) = part.get state)
    (foreign : ∀ accessor ∈ inventory.model.own.accessors,
      name ≠ accessor.name ∧ name ∉ changedBeside accessor.name)
    (alike : ∀ accessor ∈ inventory.model.own.accessors, ∀ inner ∈ base.model.own.accessors,
      accessor.name = inner.name → accessor.kind = inner.kind)
    (variants : TellsVariants inventory.model.own.accessors)
    (variantsBase : TellsVariants base.model.own.accessors)
    (manaLast : ManaLast inventory.model.accessors) : Layout where
  State := inventory.State
  model := inventory.model
  bases := [⟨base.State, base.model.own, outer⟩]
  embedded := embedded
  announcing := announcing
  fields := base.parts.map (·.within outer) ++ rest
  complete state other same := by
    obtain ⟨inner, others⟩ := List.forall_mem_append.1 same
    refine inventory.complete state other ?_
    rw [parts]
    refine List.forall_mem_cons.2 ⟨base.complete _ _ fun part inside => ?_, others⟩
    exact inner _ (List.mem_map_of_mem inside)
  keeps accessor listed field inside := by
    rcases (Model.mem_accessors_of_over embedded).1 listed with ⟨inner, listed', rfl⟩ | own
    · rcases List.mem_append.1 inside with within | beside
      · obtain ⟨part, inside', rfl⟩ := List.mem_map.1 within
        exact (base.careful.keeps inner listed' part inside').within outer
      · exact .of_beside (apart field beside)
    · have keeps := inventory.careful.keeps accessor own
      rw [parts] at keeps
      obtain ⟨keepsPart, keepsRest⟩ := List.forall_mem_cons.1 keeps
      rcases List.mem_append.1 inside with within | beside
      · obtain ⟨part, -, rfl⟩ := List.mem_map.1 within
        exact .of_part (keepsPart (foreign accessor own).1 (foreign accessor own).2)
      · exact keepsRest field beside
  alike accessor listed other listed' named := by
    rcases (Model.mem_accessors_of_over embedded).1 listed with ⟨inner, inside, rfl⟩ | own <;>
      rcases (Model.mem_accessors_of_over embedded).1 listed' with ⟨inner', inside', rfl⟩ | own'
    · have distinct := (announcingBase.layers _ (own_mem_layers base.model)).distinct_accessors
      cases List.inj_on_of_nodup_map distinct inside inside' named
      rfl
    · exact (alike other own' inner inside named.symm).symm
    · exact alike accessor own inner' inside' named
    · have distinct := (announcing.layers _ (own_mem_layers inventory.model)).distinct_accessors
      rw [List.inj_on_of_nodup_map distinct own own' named]
  variants accessor listed := by
    rcases (Model.mem_accessors_of_over embedded).1 listed with ⟨inner, listed', rfl⟩ | own
    · exact variantsBase inner listed'
    · exact variants accessor own
  uncounted accessor listed other := by
    rcases (Model.mem_accessors_of_over embedded).1 listed with ⟨inner, listed', rfl⟩ | own
    · exact (base.careful.uncounted inner listed' (changedBeside_eq_nil.2 other)).within outer
    · exact inventory.careful.uncounted accessor own (changedBeside_eq_nil.2 other)
  manaLast := manaLast

theorem classes_toInt_injective : Function.Injective classes.toInt := by
  unfold Function.Injective
  decide

theorem perks_toInt_injective : Function.Injective perks.toInt := by
  unfold Function.Injective
  decide

/-- The enums that are assigned are those of the game. -/
theorem tellsVariants_of_known {accessors : List (Accessor σ)}
    (known : ∀ accessor ∈ accessors, ∀ type, accessor.kind = .single (.enum type) →
      type = classes ∨ type = perks) : TellsVariants accessors := by
  intro accessor listed type enum
  rcases known accessor listed type enum with rfl | rfl
  · exact classes_toInt_injective
  · exact perks_toInt_injective

theorem Entity.tellsVariants : TellsVariants layer.accessors :=
  tellsVariants_of_known (by simp [layer, scoreProperty, nameProperty])

theorem Player.tellsVariants : TellsVariants layer.accessors :=
  tellsVariants_of_known (by
    simp [layer, healthProperty, levelProperty, classProperty, perkProperty, speedProperty,
      nicknameProperty, tagsProperty, scoreProperty, manaProperty, partyProperty,
      portraitProperty])

theorem Boss.tellsVariants : TellsVariants layer.accessors :=
  tellsVariants_of_known (by simp [layer, rageProperty, armorProperty, damageProperty])

theorem Npc.tellsVariants : TellsVariants layer.accessors :=
  tellsVariants_of_known (by simp [layer, classProperty, hpProperty])

theorem Counter.tellsVariants : TellsVariants layer.accessors :=
  tellsVariants_of_known (by simp [layer, countProperty, captionProperty])

theorem Tally.tellsVariants : TellsVariants layer.accessors :=
  tellsVariants_of_known (by simp [layer, bonusProperty])

theorem Label.tellsVariants : TellsVariants layer.accessors :=
  tellsVariants_of_known (by simp [layer, visibleProperty, enabledProperty, textProperty])

theorem Settings.tellsVariants : TellsVariants layer.accessors :=
  tellsVariants_of_known (by simp [layer, volumeProperty, mutedProperty])

/-- The entity within is apart from all that players add to it. -/
theorem Player.kept_beside_entity : ∀ part ∈ parts.tail, ∀ entity player,
    part.get (entityPart.put entity player) = part.get player := by
  simp only [parts, Model.fieldParts, model, layer, List.map_cons, List.map_nil,
    List.cons_append, List.nil_append, List.tail_cons, List.forall_mem_cons]
  and_intros <;> first | exact List.forall_mem_nil _ | (intros; rfl)

/-- The score is the only name that players share with entities. -/
theorem Player.alike_entity : ∀ accessor ∈ layer.accessors, ∀ inner ∈ Entity.layer.accessors,
    accessor.name = inner.name → accessor.kind = inner.kind := by
  simp [layer, Entity.layer, healthProperty, levelProperty, classProperty, perkProperty,
    speedProperty, nicknameProperty, tagsProperty, scoreProperty, manaProperty, partyProperty,
    portraitProperty, Entity.scoreProperty, Entity.nameProperty]

theorem Tally.alike_counter : ∀ accessor ∈ layer.accessors, ∀ inner ∈ Counter.layer.accessors,
    accessor.name = inner.name → accessor.kind = inner.kind := by
  simp [layer, Counter.layer, bonusProperty, Counter.countProperty, Counter.captionProperty]

def Entity.layout : Layout :=
  .alone Entity.inventory rfl announcing tellsVariants (by decide +kernel)

def Player.layout : Layout :=
  .over Player.inventory Entity.inventory entityPart "entity" parts.tail rfl announcing
    Entity.announcing rfl kept_beside_entity (by decide +kernel) alike_entity tellsVariants
    Entity.tellsVariants (by decide +kernel)

def Boss.layout : Layout :=
  .alone Boss.inventory rfl announcing tellsVariants (by decide +kernel)

def Npc.layout : Layout :=
  .alone Npc.inventory rfl announcing tellsVariants (by decide +kernel)

def Counter.layout : Layout :=
  .alone Counter.inventory rfl announcing tellsVariants (by decide +kernel)

def Tally.layout : Layout :=
  .over Tally.inventory Counter.inventory counterPart "counter" parts.tail rfl announcing
    Counter.announcing rfl (List.forall_mem_singleton.2 fun _ _ => rfl) (by decide +kernel)
    alike_counter tellsVariants Counter.tellsVariants (by decide +kernel)

def Label.layout : Layout :=
  .alone Label.inventory rfl announcing tellsVariants (by decide +kernel)

def Settings.layout : Layout :=
  .alone Settings.inventory rfl announcing tellsVariants (by decide +kernel)

/-- All bound models of the game. -/
def layouts : List Layout :=
  [Entity.layout, Player.layout, Boss.layout, Npc.layout, Counter.layout, Tally.layout,
   Label.layout, Settings.layout]

-- ============================================================== routing

/-- What becomes of the values that come by a name. -/
structure Layout.Routes (layout : Layout) (name : String) (state : layout.State) : Prop where
  /-- An update method has the effect of the setters that are meant, from
  the innermost type outward. -/
  calls : ∀ (kind : DispatchKind) (input : kind.Input),
    layout.model.update name (kind.value input) state
      = Course.inTurn
          (layout.bases.flatMap (·.setterCalls kind name input)
            ++ layout.model.own.setterCalls kind name input) state
  /-- Setters are called with the value that travels as the one that came. -/
  converted : ∀ accessor ∈ layout.model.accessors, ∀ kind, accessor.Serves kind name →
    ∀ (input : kind.Input) (meant : accessor.kind.Carrier),
      accessor.kind.ofWire? (kind.value input) = some meant
        ↔ accessor.kind.wire meant = kind.value input
  /-- Nothing is done if no property has the name, or those that have it are
  not served. -/
  unserved : ∀ kind, (∀ accessor ∈ layout.model.accessors, ¬ accessor.Serves kind name) →
    ∀ input : kind.Input, layout.model.update name (kind.value input) state = .idle state
  /-- Nothing is done with an integer that is no variant's. -/
  variantless : ∀ accessor ∈ layout.model.accessors, accessor.name = name →
    ∀ type, accessor.kind = .single (.enum type) → ∀ int, (∀ variant, type.toInt variant ≠ int) →
      layout.model.update name (.int int) state = .idle state
  /-- Nothing is done with lists and sprites. -/
  unassigned : ∀ value : PropertyValue, value.category.isList = true ∨ value.category = .sprite →
    layout.model.update name value state = .idle state
  /-- Other fields are kept, but for what injected code does to them. -/
  kept : ∀ value, ∀ field ∈ layout.fields, field.name ≠ name → field.name ∉ changedBeside name →
    field.get (layout.model.update name value state).state = field.get state

namespace Layout

variable (layout : Layout)

theorem ofWire?_eq_some_iff {accessor : Accessor layout.State}
    (listed : accessor ∈ layout.model.accessors)
    (dispatched : accessor.kind.category.dispatchKind? ≠ none) {value : PropertyValue}
    {meant : accessor.kind.Carrier} :
    accessor.kind.ofWire? value = some meant ↔ accessor.kind.wire meant = value := by
  have variants := layout.variants accessor listed
  obtain ⟨item, single⟩ := ValueKind.single_of_dispatched dispatched
  revert meant
  rw [single]
  rw [single] at variants
  intro meant
  exact ItemKind.ofWire?_eq_some_iff fun type enum => variants type (congrArg _ enum)

theorem distinct_accessors : ∀ layer ∈ layout.model.layers,
    (layer.accessors.map (·.name)).Nodup :=
  fun layer inside => (layout.announcing.layers layer inside).distinct_accessors

theorem routes (name : String) (state : layout.State) : layout.Routes name state where
  calls kind input :=
    Model.update_eq layout.embedded layout.distinct_accessors kind name input state
  converted accessor listed kind serves input meant := by
    refine layout.ofWire?_eq_some_iff listed ?_
    rw [serves.2]
    exact Option.some_ne_none kind
  unserved kind nobody input := by
    refine Model.update_idle (fun layer inside accessor listed named takes => ?_) state
    exact absurd ⟨named, (accessor.takes_iff input).1 takes⟩
      (nobody accessor (Model.mem_accessors inside listed))
  variantless accessor listed named type enum int variantless := by
    refine Model.update_idle (fun layer inside other listed' named' _ => ?_) state
    have same := layout.alike accessor listed other (Model.mem_accessors inside listed')
      (named.trans named'.symm)
    have idle : ∀ kind : ValueKind, kind = .single (.enum type) →
        kind.ofWire? (.int int) = none := by
      rintro _ rfl
      exact EnumDescriptor.ofInt?_eq_none variantless
    exact idle other.kind (same.symm.trans enum)
  unassigned value unassigned := by
    refine Model.update_idle (fun layer inside accessor listed named takes => ?_) state
    exact absurd (PropertyValue.dispatchKind?_eq_none unassigned)
      ((accessor.takes_iff_dispatchKind? value).1 takes).1
  kept value field inside named aside := by
    refine Model.kept_update (fun layer inside' accessor listed named' _ meant state => ?_) state
    subst named'
    exact layout.keeps accessor (Model.mem_accessors inside' listed) field inside named aside
      meant state

end Layout

/-- Updates of the game by name touch what they name and nothing else: they
call the setters of that name, and do nothing where there are none. -/
theorem updates_routed : ∀ layout ∈ layouts, ∀ (name : String) (state : layout.State),
    layout.Routes name state :=
  fun layout _ => layout.routes

/-- A player to whom one is listening. -/
def watched : Player := { events := ⟨["hud"]⟩, score := 3 }

/-- A score goes to the entity first, and then to the player. A class that
there is none of goes nowhere, and neither do tags. -/
theorem watched_routed :
    Player.model.update "Score" (.int 7) watched
        = Course.inTurn
            [fun player => (Entity.layer.set Entity.scoreProperty (7 : Int32)
                player.entity).within Player.entityPart player,
              Player.layer.set Player.scoreProperty (7 : Int32)] watched
      ∧ (Player.model.update "Score" (.int 7) watched).deliveries
        = [⟨"game::Entity", "Score", .int 7⟩, ⟨"game::Player", "Score", .int 7⟩]
      ∧ (Player.model.update "Score" (.int 7) watched).state.manaReads = watched.manaReads
      ∧ Player.model.update "Class" (.int 99) watched = .idle watched
      ∧ Player.model.update "Tags" (.string "bold") watched = .idle watched
      ∧ Player.model.update "Tags" (.listString ["bold"]) watched = .idle watched := by
  have routed := updates_routed Player.layout (List.mem_cons_of_mem _ List.mem_cons_self)
  have score := (routed "Score" watched).calls .int (7 : Int32)
  refine ⟨score.trans rfl, ?_, ?_, ?_, ?_, ?_⟩
  · decide +kernel
  · have field : (⟨"manaReads", _, Player.manaReads⟩ : NamedPart Player) ∈ Player.parts.tail := by
      simp [Player.parts]
    exact (routed "Score" watched).kept (.int 7) _ (List.mem_append_right _ field) (by decide)
      (by decide)
  · refine (routed "Class" watched).variantless Player.classProperty ?_ rfl classes rfl 99
      (by decide)
    exact Model.mem_accessors (own_mem_layers Player.model) (by simp [Player.model, Player.layer])
  · exact (routed "Tags" watched).unserved .string (by decide +kernel) "bold"
  · exact (routed "Tags" watched).unassigned _ (.inl rfl)

end Game

end DataBinding
