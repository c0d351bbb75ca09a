/-
Which bases a type embeds, as two stages see it. The scan and the search
for event calls walk the same written bases and cut the walk at the same
ancestors. What the search does not look at is the type's own mode: the
structure of a type in auto-notify mode embeds no base, but its event
calls keep the ancestors of its declaration. So the two stages agree
exactly when the type is bindable or has no class to derive from, and the
ancestor that event calls are passed on to can be reached exactly when
the type is bindable.

# Why the hops of a bindable type exist

A hop from a listed type goes to the first member of its own chain, and
the chain of a listed member is what stands behind it in the chain
(`chain_of_ancestor`). A member with something behind it therefore has a
chain, so it is bindable, and its structure embeds the next member
(`base_of_listed`).
-/
import DataBinding.Proofs.WrittenInOrder

namespace DataBinding

variable {schema : Schema} {options : Options} {analysis : Analysis}

-- ======================================================= the direct base

/-- Cutting keeps the nearest ancestor. -/
theorem head?_embeddedChain (chain : List String) :
    (embeddedChain schema chain).head? = chain.head? := by
  cases chain with
  | nil => rfl
  | cons ancestor rest =>
    rw [embeddedChain]
    split <;> rfl

/-- Cutting leaves nothing only where nothing was. -/
theorem embeddedChain_eq_nil {chain : List String} :
    embeddedChain schema chain = [] ↔ chain = [] := by
  rw [← List.head?_eq_none_iff, head?_embeddedChain, List.head?_eq_none_iff]

/-- The base of a declaration with ancestors is the nearest of them. -/
theorem resolvedBase_of_ancestors {decl : TypeDecl} {ancestors : List String}
    (walked : baseChain schema decl = some ancestors) (derives : ancestors ≠ []) :
    resolvedBase decl ancestors = ancestors.head? := by
  obtain ⟨nearest, rest, rfl⟩ := List.exists_cons_of_ne_nil derives
  cases written : decl.base with
  | none =>
    unfold baseChain at walked
    rw [written, walkBases_none] at walked
    cases walked
  | some base =>
    unfold resolvedBase
    rw [written]
    rfl

theorem base_link (types : List TypeOutline) (outline : TypeOutline) :
    (outline.link schema types).base = outline.base := by
  unfold TypeOutline.link
  split <;> rfl

/-- The base and the chain of a listed type, from the walk along its
written bases. -/
theorem walked_of_listed (run : analyze schema options = .ok analysis)
    {type : TypeDescriptor} (listed : type ∈ analysis.types) :
    ∃ decl walked, schema.typeDecl? type.fullName = some decl
      ∧ baseChain schema decl = some walked
      ∧ type.base = (if type.mode.isBindable then resolvedBase decl walked else none)
      ∧ type.chain = if type.mode.isBindable then embeddedChain schema walked else [] := by
  obtain ⟨decl, mode, walked, found, -, walkedFrom, -, linkedAs⟩ :=
    mem_outlines (outlines_of_types run) (List.mem_map_of_mem listed)
  have sameMode : type.mode = mode := by
    rw [linkedAs, mode_link]
    rfl
  refine ⟨decl, walked, found, walkedFrom, ?_, ?_⟩
  · rw [sameMode, linkedAs, base_link]
    rfl
  · rw [sameMode, linkedAs]
    exact chain_link_outlineOf _ decl mode walked

/-- A listed type with a chain embeds its first member. -/
theorem base_of_listed (run : analyze schema options = .ok analysis)
    {type : TypeDescriptor} (listed : type ∈ analysis.types) (embeds : type.chain ≠ []) :
    type.base = type.chain.head? := by
  obtain ⟨decl, walked, -, walkedFrom, base, chain⟩ := walked_of_listed run listed
  cases bindable : type.mode.isBindable with
  | false =>
    rw [bindable] at chain
    exact absurd chain embeds
  | true =>
    rw [bindable, if_pos rfl] at base chain
    have derives : walked ≠ [] := fun none => embeds (chain.trans (embeddedChain_eq_nil.2 none))
    rw [base, chain, head?_embeddedChain, resolvedBase_of_ancestors walkedFrom derives]

-- ============================================================== the hops

/-- Some number of hops from a type to an embedded ancestor. Each goes to
the next member of the chain, and if the type it starts from is listed,
that type embeds this member. -/
def HopsExist (types : List TypeDescriptor) (type : TypeDescriptor) (depth : Nat) : Prop :=
  ∀ hop < depth, ∃ embedded, type.chain[hop]? = some embedded
    ∧ ∀ holder ∈ types, (type.fullName :: type.chain)[hop]? = some holder.fullName →
        holder.base = some embedded

/-- What stands behind a listed holder is the holder's own chain. -/
theorem chain_of_holder (run : analyze schema options = .ok analysis)
    {type holder : TypeDescriptor} (listed : type ∈ analysis.types)
    (listedHolder : holder ∈ analysis.types) {hop : Nat}
    (holds : (type.fullName :: type.chain)[hop]? = some holder.fullName) :
    holder.chain = type.chain.drop hop := by
  cases hop with
  | zero =>
    have same := Option.some.inj holds
    have one := (find?_fullName (distinct_of_analyze run)).2 ⟨listed, same⟩
    rw [(find?_fullName (distinct_of_analyze run)).2 ⟨listedHolder, rfl⟩] at one
    rw [Option.some.inj one]
    rfl
  | succ hop =>
    exact chain_of_ancestor run listed listedHolder (eq_take_cons_drop holds)

/-- All hops along a chain exist. -/
theorem hopsExist_of_chain (run : analyze schema options = .ok analysis)
    {type : TypeDescriptor} (listed : type ∈ analysis.types) {depth : Nat}
    (within : depth ≤ type.chain.length) : HopsExist analysis.types type depth := by
  intro hop before
  have inside : hop < type.chain.length := Nat.lt_of_lt_of_le before within
  refine ⟨type.chain[hop], List.getElem?_eq_getElem inside, fun holder listedHolder holds => ?_⟩
  have behind := chain_of_holder run listed listedHolder holds
  have embeds : holder.chain ≠ [] := by
    rw [behind]
    exact fun nothing => absurd (List.drop_eq_nil_iff.1 nothing) (Nat.not_le_of_lt inside)
  rw [base_of_listed run listedHolder embeds, behind, List.head?_drop,
    List.getElem?_eq_getElem inside]

-- ======================================================== the event calls

/-- The recorded depth leads to a listed event type. -/
theorem ancestor_of_registerDepth (run : analyze schema options = .ok analysis)
    {event : EventTypeDescriptor} (exposed : event ∈ analysis.eventTypes) {depth : Nat}
    (passes : event.registerDepth = some depth) :
    0 < depth ∧ ∃ ancestor ∈ analysis.eventTypes,
      event.chain[depth - 1]? = some ancestor.fullName := by
  obtain ⟨_, found, -, searched, rfl⟩ := analyze_ok run
  obtain ⟨decl, chain, -, -, -, -, linkedAs⟩ := mem_eventTypes searched exposed
  have recorded : event.registerDepth
      = depthWhere (fun name => found.any (·.fullName == name)) event.chain := by
    rw [linkedAs]
    rfl
  rw [passes] at recorded
  obtain ⟨position, at_, rfl⟩ := Option.map_eq_some_iff.1 recorded.symm
  obtain ⟨inside, here, -⟩ := List.findIdx?_eq_some_iff_getElem.1 at_
  obtain ⟨ancestor, listed, named⟩ := List.any_eq_true.1 here
  refine ⟨Nat.succ_pos position, ancestor, listed, ?_⟩
  rw [Nat.add_sub_cancel, List.getElem?_eq_getElem inside, ← eq_of_beq named]

/-- The chain of an event type, from the walk along its written bases. -/
theorem chain_of_eventType (distinct : (schema.types.map (·.fullName)).Nodup)
    {types : List EventTypeDescriptor} (run : (eventTypes schema).value = .ok types)
    {event : EventTypeDescriptor} (listed : event ∈ types) :
    ∃ decl walked, schema.typeDecl? event.fullName = some decl
      ∧ baseChain schema decl = some walked ∧ event.chain = embeddedChain schema walked := by
  obtain ⟨decl, walked, declared, -, walkedFrom, -, rfl⟩ := mem_eventTypes run listed
  exact ⟨decl, walked, typeDecl?_of_mem distinct declared, walkedFrom, rfl⟩

theorem walked_of_event (run : analyze schema options = .ok analysis)
    {event : EventTypeDescriptor} (exposed : event ∈ analysis.eventTypes) :
    ∃ decl walked, schema.typeDecl? event.fullName = some decl
      ∧ baseChain schema decl = some walked ∧ event.chain = embeddedChain schema walked := by
  obtain ⟨_, _, scanned, searched, rfl⟩ := analyze_ok run
  exact chain_of_eventType (outlines_ok scanned).1 searched exposed

/-- The chains of a bound type with event calls are both cut from the walk
along its written bases. They are the same exactly when the type is
bindable or the walk meets no class; and the hops to the ancestor that
event calls are passed on to exist exactly when the type is bindable. -/
theorem chains_of_bound_event_type (run : analyze schema options = .ok analysis)
    {type : TypeDescriptor} (bound : type ∈ analysis.types)
    {event : EventTypeDescriptor} (exposed : event ∈ analysis.eventTypes)
    (same : event.fullName = type.fullName) :
    ∃ walked, (schema.typeDecl? type.fullName).bind (baseChain schema) = some walked
      ∧ event.chain = embeddedChain schema walked
      ∧ type.chain = (if type.mode.isBindable then embeddedChain schema walked else [])
      ∧ (event.chain = type.chain ↔ type.mode.isBindable = true ∨ walked = [])
      ∧ ∀ depth, event.registerDepth = some depth →
          (∃ ancestor ∈ analysis.eventTypes,
            event.chain[depth - 1]? = some ancestor.fullName)
          ∧ (HopsExist analysis.types type depth ↔ type.mode.isBindable = true) := by
  obtain ⟨decl, walked, found, walkedFrom, -, typeChain⟩ := walked_of_listed run bound
  -- names are distinct, so both stages have looked at one declaration
  obtain ⟨decl', walked', found', walkedFrom', eventChain⟩ := walked_of_event run exposed
  rw [same, found] at found'
  cases found'
  rw [walkedFrom] at walkedFrom'
  cases walkedFrom'
  refine ⟨walked, by rw [found]; exact walkedFrom, eventChain, typeChain, ?_, ?_⟩
  · rw [eventChain, typeChain]
    cases type.mode.isBindable with
    | true => simp
    | false => simp [embeddedChain_eq_nil]
  · intro depth passes
    obtain ⟨positive, ancestor, listed, at_⟩ := ancestor_of_registerDepth run exposed passes
    refine ⟨⟨ancestor, listed, at_⟩, ?_⟩
    cases bindable : type.mode.isBindable with
    | false =>
      rw [bindable] at typeChain
      constructor
      · intro hops
        obtain ⟨embedded, impossible, -⟩ := hops 0 positive
        rw [typeChain] at impossible
        cases impossible
      · intro impossible
        cases impossible
    | true =>
      rw [bindable, if_pos rfl, ← eventChain] at typeChain
      refine iff_of_true (hopsExist_of_chain run bound ?_) rfl
      obtain ⟨inside, -⟩ := List.getElem?_eq_some_iff.1 at_
      rw [typeChain]
      omega

-- ======================================================== three devices

/-- A class that exposes one method to the host. -/
def eventClass (name : String) (base : Option String) (attributes : List TypeAttribute)
    (fields : List FieldDecl) : TypeDecl where
  name := name
  scope := some "game"
  isPartial := true
  base := base
  attributes := .eventRegister :: attributes
  fields := fields
  methods := [{ name := "reset", attributes := [.eventCall none []] }]

/-- A device, and two that derive from it: a gauge in auto-notify mode and
a lamp that is bindable. -/
def devices : Schema where
  types :=
    [eventClass "Device" none [] [],
     eventClass "Gauge" (some "Device") []
      [{ name := "_level", type := "i32", attributes := [.autoNotify none] }],
     eventClass "Lamp" (some "Device") [.bindable false] [{ name := "_glow", type := "f32" }]]

/-- The gauge embeds no base, but its event calls are passed on to the
device, one hop away. -/
theorem gauge_passes_calls_to_no_base :
    ∃ analysis, analyze devices {} = .ok analysis
      ∧ ∃ gauge ∈ analysis.types, ∃ event ∈ analysis.eventTypes,
        event.fullName = gauge.fullName
          ∧ gauge.mode = .autoNotify ∧ gauge.chain = [] ∧ gauge.base = none
          ∧ event.chain = ["game::Device"] ∧ event.registerDepth = some 1 := by
  obtain ⟨analysis, run, types, eventTypes, -⟩ :=
    @analyze_asWritten devices (by decide +kernel) {}
  have found : ∃ gauge ∈ typesAsWritten devices, ∃ event ∈ eventTypesAsWritten devices,
      event.fullName = gauge.fullName
        ∧ gauge.mode = .autoNotify ∧ gauge.chain = [] ∧ gauge.base = none
        ∧ event.chain = ["game::Device"] ∧ event.registerDepth = some 1 := by
    decide +kernel
  rw [← types, ← eventTypes] at found
  exact ⟨analysis, run, found⟩

/-- The lamp has one chain in both stages, and its calls reach the
device. -/
theorem lamp_chains :
    ∃ analysis, analyze devices {} = .ok analysis
      ∧ ∃ lamp ∈ analysis.types, ∃ event ∈ analysis.eventTypes,
        event.fullName = lamp.fullName ∧ lamp.mode.isBindable = true
          ∧ event.registerDepth = some 1 ∧ event.chain = lamp.chain
          ∧ HopsExist analysis.types lamp 1 := by
  obtain ⟨analysis, run, types, eventTypes, -⟩ :=
    @analyze_asWritten devices (by decide +kernel) {}
  have found : ∃ lamp ∈ typesAsWritten devices, ∃ event ∈ eventTypesAsWritten devices,
      event.fullName = lamp.fullName ∧ lamp.mode.isBindable = true
        ∧ event.registerDepth = some 1 := by
    decide +kernel
  rw [← types, ← eventTypes] at found
  obtain ⟨lamp, bound, event, exposed, same, bindable, passes⟩ := found
  obtain ⟨_, -, -, -, agree, reach⟩ := chains_of_bound_event_type run bound exposed same
  exact ⟨analysis, run, lamp, bound, event, exposed, same, bindable, passes,
    agree.2 (Or.inl bindable), (reach 1 passes).2.2 bindable⟩

end DataBinding
