/-
What the registry of enums knows. Entering and carrying are kept apart:
entering an enum leaves alone what is carried, and carrying one leaves the
entries alone. Neither takes anything back. What is pending for some names
is therefore settled by three questions about each: whether it is asked
for, whether it is entered, and whether it is carried already
(`mem_pending`).

The enums behind accessors are all entered when the analysis ends
(`contains_of_accessor`): the name of an enum comes out of a declared type
only when it resolves to a declared enum.
-/
import DataBinding.Proofs.Extraction

namespace DataBinding

variable {schema : Schema} {options : Options} {analysis : Analysis}

-- ========================================================= declared enums

theorem enumDecl?_of_resolveEnum? {scope : Option String} {written : String}
    {decl : EnumDecl} (found : schema.resolveEnum? scope written = some decl) :
    schema.enumDecl? decl.fullName = some decl := by
  obtain ⟨path, -, named⟩ := List.exists_of_findSome?_eq_some found
  have same : decl.fullName = path := by simpa using List.find?_some named
  rw [same]
  exact named

/-- A known scalar has no enum. -/
theorem enumName_knownScalar? {type : String} {known : Classified}
    (found : knownScalar? type = some known) : known.enumName = none := by
  unfold knownScalar? at found
  split at found <;> cases found <;> rfl

/-- The enum of a scalar is declared. -/
theorem enumDecl?_of_classifyScalar {scope : Option String} {type enum : String}
    (used : (classifyScalar schema scope type).enumName = some enum) :
    ∃ decl, schema.enumDecl? enum = some decl := by
  unfold classifyScalar at used
  split at used
  · next known found =>
    rw [enumName_knownScalar? found] at used
    cases used
  · split at used
    · next decl resolved =>
      cases used
      exact ⟨decl, enumDecl?_of_resolveEnum? resolved⟩
    · cases used

/-- The enum of any value type is declared. -/
theorem enumDecl?_of_classify {scope : Option String} {written enum : String}
    (used : (classify schema scope written).enumName = some enum) :
    ∃ decl, schema.enumDecl? enum = some decl := by
  unfold classify at used
  dsimp only at used
  split at used
  · split at used
    · exact enumDecl?_of_classifyScalar used
    · cases used
  · exact enumDecl?_of_classifyScalar used

/-- An enum is found under its own name. -/
theorem fullName_of_enumDecl? {enum : String} {decl : EnumDecl}
    (found : schema.enumDecl? enum = some decl) : decl.fullName = enum := by
  simpa using List.find?_some found

namespace EnumRegistry

variable {registry : EnumRegistry} {name : String}

-- ================================================================ entries

theorem contains_iff :
    registry.contains name = true ↔ name ∈ registry.entries.map (·.fullName) := by
  unfold contains get?
  rw [List.find?_isSome, List.mem_map]
  simp only [beq_iff_eq]

theorem contains_congr {other : EnumRegistry} (same : registry.entries = other.entries) :
    registry.contains name = other.contains name := by
  unfold contains get?
  rw [same]

theorem contains_register {descriptor : EnumDescriptor} :
    (registry.register descriptor).contains name = true
      ↔ registry.contains name = true ∨ name = descriptor.fullName := by
  unfold register
  split
  · next taken =>
    constructor
    · exact Or.inl
    · rintro (known | rfl)
      · exact known
      · exact taken
  · rw [contains_iff, contains_iff, List.map_append, List.mem_append, List.map_singleton,
      List.mem_singleton]

theorem emitted_register (descriptor : EnumDescriptor) :
    (registry.register descriptor).emitted = registry.emitted := by
  unfold register
  split <;> rfl

-- =============================================================== carrying

theorem isEmitted_iff : registry.isEmitted name = true ↔ name ∈ registry.emitted :=
  List.contains_iff_mem

theorem entries_markEmitted (registry : EnumRegistry) (carried : String) :
    (registry.markEmitted carried).entries = registry.entries := by
  unfold markEmitted
  split <;> rfl

theorem mem_emitted_markEmitted {carried : String} :
    name ∈ (registry.markEmitted carried).emitted
      ↔ name ∈ registry.emitted ∨ name = carried := by
  unfold markEmitted
  split
  · next known =>
    constructor
    · exact Or.inl
    · rintro (before | rfl)
      · exact before
      · exact isEmitted_iff.1 known
  · rw [List.mem_append, List.mem_singleton]

/-- Carrying enums leaves the entries alone. -/
theorem entries_markAllEmitted (registry : EnumRegistry) (carried : List String) :
    (registry.markAllEmitted carried).entries = registry.entries :=
  List.foldlRecOn (motive := fun later : EnumRegistry => later.entries = registry.entries)
    carried markEmitted rfl fun later same enum _ => (entries_markEmitted later enum).trans same

/-- What is carried then is what was carried before, and these enums. -/
theorem mem_emitted_markAllEmitted {carried : List String} :
    name ∈ (registry.markAllEmitted carried).emitted
      ↔ name ∈ registry.emitted ∨ name ∈ carried := by
  induction carried generalizing registry with
  | nil => exact (or_iff_left List.not_mem_nil).symm
  | cons enum rest ih =>
    show name ∈ ((registry.markEmitted enum).markAllEmitted rest).emitted ↔ _
    rw [ih, mem_emitted_markEmitted, List.mem_cons, or_assoc]

-- ================================================================ pending

theorem fullName_of_get? {descriptor : EnumDescriptor}
    (found : registry.get? name = some descriptor) : descriptor.fullName = name := by
  simpa using List.find?_some found

/-- What is pending is entered. -/
theorem mem_entries_of_pending {names : List String} {enum : EnumDescriptor}
    (inside : enum ∈ registry.pending names) : enum ∈ registry.entries := by
  obtain ⟨name, -, found⟩ := List.mem_filterMap.1 inside
  exact List.mem_of_find?_eq_some found

/-- The names of the pending enums. -/
theorem names_pending (registry : EnumRegistry) (names : List String) :
    (registry.pending names).map (·.fullName)
      = (names.eraseDups.filter (!registry.isEmitted ·)).filter registry.contains := by
  have each : ∀ name, (registry.get? name).map (·.fullName)
      = Option.guard registry.contains name := by
    intro name
    unfold Option.guard contains
    cases found : registry.get? name with
    | none => rfl
    | some descriptor => exact congrArg some (fullName_of_get? found)
  unfold pending
  rw [List.map_filterMap, ← @List.filterMap_eq_filter String registry.contains]
  exact List.filterMap_congr fun name _ => each name

/-- Nothing is pending twice. -/
theorem nodup_pending (registry : EnumRegistry) (names : List String) :
    ((registry.pending names).map (·.fullName)).Nodup := by
  rw [names_pending]
  exact ((nodup_eraseDups names).filter _).filter _

/-- What is pending is asked for and entered, and not carried yet. -/
theorem mem_pending {names : List String} :
    name ∈ (registry.pending names).map (·.fullName)
      ↔ name ∈ names ∧ registry.contains name = true ∧ name ∉ registry.emitted := by
  rw [names_pending, List.mem_filter, List.mem_filter, List.mem_eraseDups, Bool.not_eq_true',
    ← Bool.not_eq_true, isEmitted_iff, and_assoc, and_comm (a := name ∉ registry.emitted)]

-- =========================================================== registration

/-- What some step of a fold enters, and no step takes out, is there in
the end. -/
theorem contains_foldl {α : Type} {step : EnumRegistry → α → EnumRegistry}
    (keeps : ∀ registry item, registry.contains name = true →
      (step registry item).contains name = true)
    {items : List α} {item : α} (inside : item ∈ items)
    (enters : ∀ registry, (step registry item).contains name = true)
    (registry : EnumRegistry) : (items.foldl step registry).contains name = true := by
  obtain ⟨before, after, rfl⟩ := List.append_of_mem inside
  rw [List.foldl_append, List.foldl_cons]
  exact List.foldlRecOn after step (enters _) fun later known item _ => keeps later item known

/-- Entering the enum of a property takes no entry out. -/
theorem contains_enter (property : Property) (known : registry.contains name = true) :
    (match property.enumName.bind schema.enumDecl? with
      | some decl => registry.register (.ofDecl decl)
      | none => registry).contains name = true := by
  split
  · exact contains_register.2 (Or.inl known)
  · exact known

theorem contains_registerUsed_of_contains (properties : List Property)
    (known : registry.contains name = true) :
    (registry.registerUsed schema properties).contains name = true :=
  List.foldlRecOn (motive := fun later : EnumRegistry => later.contains name = true) _ _
    known fun _ known property _ => contains_enter property known

/-- Registering enters the declared enum behind an accessor. -/
theorem contains_registerUsed {properties : List Property} {property : Property}
    (inside : property ∈ properties) (accessible : property.isSuppressed = false)
    (used : property.enumName = some name) {decl : EnumDecl}
    (declared : schema.enumDecl? name = some decl) (registry : EnumRegistry) :
    (registry.registerUsed schema properties).contains name = true := by
  have accessor : property ∈ properties.filter (!·.isSuppressed) :=
    List.mem_filter.2 ⟨inside, by rw [accessible]; rfl⟩
  refine contains_foldl (fun _ property => contains_enter property) accessor ?_ registry
  intro registry
  rw [used, Option.bind_some, declared]
  exact contains_register.2 (Or.inr (fullName_of_enumDecl? declared).symm)

theorem emitted_registerUsed (registry : EnumRegistry) (properties : List Property) :
    (registry.registerUsed schema properties).emitted = registry.emitted := by
  refine List.foldlRecOn (motive := fun later : EnumRegistry => later.emitted = registry.emitted)
    _ _ rfl fun later same property _ => ?_
  split
  · exact (emitted_register _).trans same
  · exact same

end EnumRegistry

-- =========================================================== the analysis

/-- Nothing is carried when the analysis ends. -/
theorem emitted_registerAll (types : List ExtractedType) :
    (registerAll schema types).emitted = [] :=
  List.foldlRecOn (motive := fun later : EnumRegistry => later.emitted = []) types _ rfl
    fun later same type _ => (EnumRegistry.emitted_registerUsed later type.own).trans same

theorem emitted_of_analyze (run : analyze schema options = .ok analysis) :
    analysis.enums.emitted = [] := by
  obtain ⟨_, _, -, -, rfl⟩ := analyze_ok run
  exact emitted_registerAll _

/-- Every enum behind an accessor of a bound type is entered when the
analysis ends. -/
theorem contains_of_accessor (run : analyze schema options = .ok analysis)
    {type : TypeDescriptor} (listed : type ∈ analysis.types) {property : Property}
    (accessor : property ∈ type.accessors) {enum : String}
    (used : property.enumName = some enum) : analysis.enums.contains enum = true := by
  obtain ⟨own, notSuppressed⟩ := List.mem_filter.1 accessor
  have accessible : property.isSuppressed = false := by simpa using notSuppressed
  obtain ⟨outlined, eventTypes, found, -, rfl⟩ := analyze_ok run
  obtain ⟨outlined', found', extracted, inside, finished⟩ := finished_of_analyze run listed
  rw [found] at found'
  cases found'
  rw [own_of_finished finished] at own
  obtain ⟨offered, offeredOwn, rfl⟩ := List.mem_map.1 own
  obtain ⟨field, -, made⟩ := madeFrom_of_extracted inside offeredOwn
  obtain ⟨decl, declared⟩ := enumDecl?_of_classify (made.enumName.symm.trans used)
  refine EnumRegistry.contains_foldl ?_ inside ?_ {}
  · intro registry type known
    exact EnumRegistry.contains_registerUsed_of_contains type.own known
  · intro registry
    exact EnumRegistry.contains_registerUsed offeredOwn accessible used declared registry

end DataBinding
