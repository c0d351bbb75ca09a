/-
Schemas that need no sorting. When the declarations of a schema stand in the
order of their names, and every bound type and every event type after its
ancestors, then all stages of the analysis leave that order alone. What the
analysis consists of, and what a run drafts, is then computed declaration by
declaration, and small schemas can be looked into.
-/
import DataBinding.Generation
import DataBinding.Proofs.EventTypes

namespace DataBinding

variable {schema : Schema} {options : Options}

-- ============================================================ as written

/-- The accepted outlines in the order of the declarations. -/
def acceptedAsWritten (schema : Schema) : List TypeOutline :=
  (schema.types.filterMap fun decl => decl.generationMode?.map (decl, ·)).filterMap
    (accept? schema)

def outlinesAsWritten (schema : Schema) : List TypeOutline :=
  (acceptedAsWritten schema).map (·.link schema (acceptedAsWritten schema))

/-- The bound types in the order of the declarations. -/
def typesAsWritten (schema : Schema) : List TypeDescriptor :=
  (mergeAll schema [] (extractAll schema (outlinesAsWritten schema)).value).value

/-- The accepted event types in the order of the declarations. -/
def acceptedEventsAsWritten (schema : Schema) : List EventTypeDescriptor :=
  lastOffers ((schema.types.filter (·.isEventRegister)).filterMap (acceptEvent? schema))

def eventTypesAsWritten (schema : Schema) : List EventTypeDescriptor :=
  (acceptedEventsAsWritten schema).map (·.link schema (acceptedEventsAsWritten schema))

/-- The enums that the bound types use. -/
def enumsAsWritten (schema : Schema) : EnumRegistry :=
  registerAll schema (extractAll schema (outlinesAsWritten schema)).value

/-- Items that stand by the number of their ancestors, then by name. -/
def StandsInOrder {α : Type} (name : α → String) (chain : α → List String)
    (items : List α) : Prop :=
  items.Pairwise fun a b =>
    comesBefore (rank chain (items.map name) a, name a)
      (rank chain (items.map name) b, name b) = true

instance {α : Type} (name : α → String) (chain : α → List String) (items : List α) :
    Decidable (StandsInOrder name chain items) :=
  inferInstanceAs (Decidable (items.Pairwise _))

/-- A schema with names in order, bases that come to an end, and ancestors
before their descendants. -/
def WrittenInOrder (schema : Schema) : Prop :=
  (schema.types.map (·.fullName)).Nodup
    ∧ (schema.types.Pairwise fun a b => a.fullName ≤ b.fullName)
    ∧ (∀ decl ∈ schema.types, (baseChain schema decl).isSome)
    ∧ StandsInOrder TypeOutline.fullName TypeOutline.chain (outlinesAsWritten schema)
    ∧ StandsInOrder EventTypeDescriptor.fullName EventTypeDescriptor.chain
        (eventTypesAsWritten schema)

instance (schema : Schema) : Decidable (WrittenInOrder schema) :=
  inferInstanceAs (Decidable (_ ∧ _))

-- =========================================================== the stages

/-- The scan lists the outlines as they are written. -/
theorem outlines_asWritten (written : WrittenInOrder schema) :
    (outlines schema).value = .ok (outlinesAsWritten schema) := by
  obtain ⟨distinct, sorted, walked, inOrder, -⟩ := written
  refine outlines_of_sorted distinct sorted ?_ inOrder
  refine screen_eq_ok.2 ⟨rfl, fun item inside => ?_⟩
  obtain ⟨decl, declared, withMode⟩ := List.mem_filterMap.1 inside
  obtain ⟨mode, -, rfl⟩ := Option.map_eq_some_iff.1 withMode
  exact walked decl declared

/-- The search for event calls lists its types as they are written. -/
theorem eventTypes_asWritten (written : WrittenInOrder schema) :
    (eventTypes schema).value = .ok (eventTypesAsWritten schema) := by
  obtain ⟨-, -, walked, -, inOrder⟩ := written
  have screened : (screenEvents schema (schema.types.filter (·.isEventRegister))).value
      = .ok ((schema.types.filter (·.isEventRegister)).filterMap (acceptEvent? schema)) :=
    screenEvents_eq_ok.2 ⟨rfl, fun decl inside => walked decl (List.mem_of_mem_filter inside)⟩
  unfold eventTypes
  simp only [screened, Except.map]
  exact congrArg Except.ok (ancestorsFirst_of_sorted _ _ inOrder)

/-- What the analysis of a schema in order consists of. -/
theorem analyze_asWritten (written : WrittenInOrder schema) (options : Options) :
    ∃ analysis, analyze schema options = .ok analysis
      ∧ analysis.types = typesAsWritten schema
      ∧ analysis.eventTypes = eventTypesAsWritten schema
      ∧ analysis.enums = enumsAsWritten schema := by
  unfold analyze
  simp only [outlines_asWritten written, eventTypes_asWritten written]
  exact ⟨_, rfl, rfl, rfl, rfl⟩

/-- What a run over a schema in order drafts. -/
theorem draft_asWritten (written : WrittenInOrder schema) {types events : List Outcome}
    (typed : emitTypes options.toCodePaths (enumsAsWritten schema) (typesAsWritten schema)
      = .ok types)
    (evented : (eventTypesAsWritten schema).mapM (emitEvents options.toCodePaths)
      = .ok events) :
    ∃ drafting, draft schema options = .ok drafting
      ∧ drafting.types = types ∧ drafting.events = events := by
  obtain ⟨analysis, analysed, typesAre, eventTypesAre, enumsAre⟩ :=
    analyze_asWritten written options
  unfold draft
  simp only [analysed, typesAre, eventTypesAre, enumsAre, typed, evented]
  exact ⟨_, rfl, rfl, rfl⟩

end DataBinding
