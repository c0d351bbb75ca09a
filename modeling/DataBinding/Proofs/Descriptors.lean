/-
What emission can rely on in the descriptors of an analysis. A property has a
category, an enum is named exactly where the category calls for one, and it
is declared; what a type has from its own fields has a field; and an argument
of a call is of a kind that has a type.

# Where it is decided

Category and enum are read off a written type together, so they agree from
the start (`namesEnum_classify`). Extraction, hand-written offers and calls
let nothing pass that is not supported. After that the descriptors are only
handed on: follow-ups are restricted, and an entry that is inherited loses
what concerns accessors, but neither touches category or enum. So an entry
of a merged list fits wherever it comes from (`fit_of_merged`).
-/
import DataBinding.Proofs.Delegation
import DataBinding.Proofs.Emission
import DataBinding.Proofs.EnumRegistry
import DataBinding.Proofs.ExposedCalls

namespace DataBinding

variable {schema : Schema} {options : Options} {analysis : Analysis} {scope : Option String}
  {property : Property}

-- ============================================================== meanings

/-- An enum is named exactly for an enum category, and then it is declared.
A single value has the category that the flags of the enum choose. -/
structure NamesEnum (schema : Schema) (category : Category) (enumName : Option String) : Prop where
  present : enumName.isSome = category.isEnum
  declared : ∀ enum, enumName = some enum → ∃ decl, schema.enumDecl? enum = some decl
    ∧ decl.fullName = enum
    ∧ (category.isList = false → category = if decl.isFlags then .flagsEnum else .enum)

theorem namesEnum_none {category : Category} (plain : category.isEnum = false) :
    NamesEnum schema category none :=
  ⟨plain.symm, nofun⟩

theorem isEnum_knownScalar? {type : String} {known : Classified}
    (found : knownScalar? type = some known) : known.category.isEnum = false := by
  unfold knownScalar? at found
  split at found <;> cases found <;> rfl

theorem namesEnum_classifyScalar (scope : Option String) (type : String) :
    NamesEnum schema (classifyScalar schema scope type).category
      (classifyScalar schema scope type).enumName := by
  unfold classifyScalar
  split
  · next known found =>
    rw [enumName_knownScalar? found]
    exact namesEnum_none (isEnum_knownScalar? found)
  · split
    · next decl resolved =>
      refine ⟨?_, fun enum named => ?_⟩
      · unfold Classified.ofEnum
        cases decl.isFlags <;> rfl
      · cases named
        exact ⟨decl, enumDecl?_of_resolveEnum? resolved, rfl, fun _ => rfl⟩
    · exact namesEnum_none rfl

/-- A list is backed by an enum if its elements are. -/
theorem isEnum_listOf? {category list : Category} (listed : category.listOf? = some list) :
    list.isEnum = category.isEnum ∧ list.isList = true := by
  cases category <;> cases listed <;> exact ⟨rfl, rfl⟩

/-- Category and enum of a written type agree. -/
theorem namesEnum_classify (scope : Option String) (written : String) :
    NamesEnum schema (classify schema scope written).category
      (classify schema scope written).enumName := by
  unfold classify
  dsimp only
  split
  · next element _ =>
    have single := @namesEnum_classifyScalar schema scope element
    split
    · next list listed =>
      obtain ⟨isEnum, isList⟩ := isEnum_listOf? listed
      refine ⟨single.present.trans isEnum.symm, fun enum named => ?_⟩
      obtain ⟨decl, declared, same, -⟩ := single.declared enum named
      refine ⟨decl, declared, same, fun flat => ?_⟩
      rw [isList] at flat
      cases flat
    · exact namesEnum_none rfl
  · exact namesEnum_classifyScalar scope _

-- ============================================================ properties

/-- A property that accessors and metadata can deal with. -/
structure FitProperty (schema : Schema) (property : Property) : Prop where
  supported : property.category ≠ .unsupported
  names : NamesEnum schema property.category property.enumName

/-- What has the meaning of a supported type fits. -/
theorem fit_of_classified {written : String}
    (supported : (classify schema scope written).category.isSupported = true)
    (category : property.category = (classify schema scope written).category)
    (enumName : property.enumName = (classify schema scope written).enumName) :
    FitProperty schema property := by
  refine ⟨?_, ?_⟩
  · rw [category]
    exact bne_iff_ne.1 supported
  · rw [category, enumName]
    exact namesEnum_classify scope written

/-- Inheriting touches neither category nor enum. -/
theorem FitProperty.inherited (fit : FitProperty schema property) :
    FitProperty schema property.inherited :=
  ⟨fit.supported, fit.names⟩

/-- A property that a type has from a field of its own. -/
structure FitOwn (schema : Schema) (type : TypeDescriptor) (property : Property) : Prop
    extends FitProperty schema property where
  fromField : property.origin = .field
  owner : property.owner = type.fullName
  declared : ∃ field ∈ declaredFields schema type.fullName, property.fieldName? = some field.name

/-- What a field offers fits, whatever follow-ups it keeps. -/
theorem fitOwn_of_offer {type : TypeDescriptor} {field : FieldDecl}
    (declared : field ∈ declaredFields schema type.fullName)
    (offer : offeredProperty? schema type.toTypeOutline field = some property)
    (known : List String) : FitOwn schema type (property.keepKnown known) := by
  obtain ⟨usable, becomes⟩ := becomes_of_offer offer
  have fit : FitProperty schema property :=
    fit_of_classified usable.supported becomes.category becomes.enumName
  refine ⟨⟨fit.supported, fit.names⟩, ?_, becomes.owner, field, declared, ?_⟩
  · unfold Property.origin Property.keepKnown
    rw [becomes.isFromAncestor, becomes.backing]
    rfl
  · unfold Property.fieldName? Property.keepKnown
    rw [becomes.backing]

/-- Own properties fit. -/
theorem fitOwn_of_own (run : analyze schema options = .ok analysis) {type : TypeDescriptor}
    (listed : type ∈ analysis.types) (own : property ∈ type.own) :
    FitOwn schema type property := by
  obtain ⟨outlined, -, extracted, inside, finished⟩ := finished_of_analyze run listed
  have outline : type.toTypeOutline = extracted.toTypeOutline := by rw [finished]; rfl
  rw [own_of_finished finished] at own
  obtain ⟨offered, among, rfl⟩ := List.mem_map.1 own
  rw [mem_extractAll inside, ← outline] at among
  obtain ⟨field, declared, offer⟩ := List.mem_filterMap.1 ((firstOffers_sublist [] _).subset among)
  exact fitOwn_of_offer declared offer _

/-- What is written by hand and offered fits. -/
theorem fit_of_handWritten {isFromAncestor : Bool} {owner : String}
    (inside : property ∈ handWrittenOf schema isFromAncestor owner) :
    FitProperty schema property := by
  obtain ⟨decl, written, -, -, offer⟩ := mem_handWrittenOf inside
  have offered := (handWritten?_eq_some offer).1
  unfold isOffered at offered
  rw [Bool.and_eq_true] at offered
  unfold handWritten? at offer
  dsimp only at offer
  split at offer
  · cases offer
    exact fit_of_classified offered.2 (by dsimp only) (by dsimp only)
  · cases offer

/-- Entries of merged lists fit, wherever they come from. -/
theorem fit_of_merged (run : analyze schema options = .ok analysis) {type : TypeDescriptor}
    (listed : type ∈ analysis.types) {entry : Property} (inside : entry ∈ type.merged) :
    FitProperty schema entry := by
  have accessor : ∀ {holder : TypeDescriptor}, holder ∈ analysis.types →
      ∀ {property : Property}, property ∈ holder.accessors → FitProperty schema property :=
    fun listed _ among => (fitOwn_of_own run listed (List.mem_of_mem_filter among)).toFitProperty
  cases bindable : type.mode.isBindable with
  | false =>
    rw [merged_of_autoNotify run listed bindable] at inside
    exact accessor listed inside
  | true =>
    rw [merged_of_direct run listed bindable] at inside
    have offered := (firstOffers_sublist [] _).subset inside
    rcases mem_directOffers offered with own | ⟨_, _, byHand⟩ | ⟨_, -, handedDown⟩
    · exact accessor listed own
    · exact fit_of_handWritten byHand
    · obtain ⟨ancestor, listedAncestor, -, property, among, rfl⟩ := mem_ownHandedDown handedDown
      exact (accessor listedAncestor among).inherited

-- ================================================================= types

/-- A bound type that code can be emitted from. -/
structure FitType (schema : Schema) (type : TypeDescriptor) : Prop where
  own : ∀ property ∈ type.own, FitOwn schema type property
  merged : ∀ entry ∈ type.merged, FitProperty schema entry
  /-- A slot may be of any type, and shows a declared field. -/
  slots : ∀ slot ∈ type.slots, NamesEnum schema slot.category slot.enumName
    ∧ ∃ field ∈ declaredFields schema type.fullName, Shows schema type.scope field slot

theorem fitType_of_listed (run : analyze schema options = .ok analysis) {type : TypeDescriptor}
    (listed : type ∈ analysis.types) : FitType schema type where
  own _ := fitOwn_of_own run listed
  merged _ := fit_of_merged run listed
  slots slot stored := by
    obtain ⟨field, declared, shows⟩ := Emission.exists_of_forall₂ (keepsFields run listed).slots stored
    refine ⟨?_, field, declared, shows⟩
    rw [shows.category, shows.enumName]
    exact namesEnum_classify type.scope field.type

-- ============================================================= arguments

/-- An argument of a kind that has a type. An enum is named exactly for the
kind of enums, and then it is declared. -/
structure FitArgument (schema : Schema) (arg : ArgumentDescriptor) : Prop where
  supported : arg.kind ≠ .unsupported
  present : arg.enumName.isSome = true ↔ arg.kind = .enum
  declared : ∀ enum, arg.enumName = some enum → ∃ decl, schema.enumDecl? enum = some decl

/-- Of the kinds that are supported, that of enums goes with a category that
is backed by an enum. -/
theorem kind_classifyArgument {written : String}
    (supported : (classifyArgument schema scope written).kind.isSupported = true) :
    (classifyArgument schema scope written).kind = .enum
      ↔ (classify schema scope written).category.isEnum = true := by
  unfold classifyArgument at supported ⊢
  dsimp only at supported ⊢
  cases category : (classify schema scope written).category with
  | unsupported =>
    dsimp only
    split <;> exact iff_of_false nofun nofun
  | enum | flagsEnum => exact iff_of_true rfl rfl
  | listEnum =>
    rw [category] at supported
    cases supported
  | _ => exact iff_of_false nofun nofun

theorem fitArgument_of_exposed {arg : ArgDecl} {argument : ArgumentDescriptor}
    (supplied : Suppliable schema scope arg) (described : Describes schema scope arg argument) :
    FitArgument schema argument := by
  have names := @namesEnum_classify schema scope arg.type
  refine ⟨?_, ?_, fun enum named => ?_⟩
  · rw [described.kind]
    exact bne_iff_ne.1 supplied.supported
  · rw [described.kind, described.enumName, kind_classifyArgument supplied.supported,
      ← names.present]
    rfl
  · rw [described.enumName] at named
    obtain ⟨decl, declared, -⟩ := names.declared enum named
    exact ⟨decl, declared⟩

/-- All arguments of all calls fit. -/
theorem fitArgument_of_call (run : analyze schema options = .ok analysis)
    {type : EventTypeDescriptor} (listed : type ∈ analysis.eventTypes)
    {call : EventCallDescriptor} (exposed : call ∈ type.calls) {argument : ArgumentDescriptor}
    (takes : argument ∈ call.arguments) : FitArgument schema argument := by
  obtain ⟨_, _, -, searched, rfl⟩ := analyze_ok run
  obtain ⟨_, decl, _, -, -, -, -, calls⟩ := (searchExposes searched).calls type listed
  rw [calls] at exposed
  obtain ⟨method, -, makes⟩ := List.mem_filterMap.1 ((firstOffers_sublist [] _).subset exposed)
  obtain ⟨exposable, exposes⟩ := exposes_of_call makes
  obtain ⟨arg, -, supplied, described⟩ := Emission.exists_of_forall₂
    ((List.forall₂_and_left _ _).2 ⟨exposable.supplied, exposes.arguments⟩) takes
  exact fitArgument_of_exposed supplied described

end DataBinding
