/-
What a successful analysis consists of. The stages after the outlines
fill in members and merged lists and leave the outlines alone
(`outlines_of_types`), so the bound types of an analysis have the shape
that the scan gave them: they are `Linked`.
-/
import DataBinding.Analysis
import DataBinding.Proofs.FirstOffers
import DataBinding.Proofs.Lineage

namespace DataBinding

variable {schema : Schema} {options : Options} {analysis : Analysis}

-- ============================================================ the stages

/-- All that has happened when an analysis succeeds. -/
theorem analyze_ok (run : analyze schema options = .ok analysis) :
    ∃ outlined eventTypes', (outlines schema).value = .ok outlined
      ∧ (eventTypes schema).value = .ok eventTypes'
      ∧ analysis =
        { schema := schema
          options := options
          types := (mergeAll schema [] (extractAll schema outlined).value).value
          eventTypes := eventTypes'
          enums := registerAll schema (extractAll schema outlined).value
          diagnostics :=
            (outlines schema).diagnostics ++ (extractAll schema outlined).diagnostics
              ++ (mergeAll schema [] (extractAll schema outlined).value).diagnostics
              ++ (eventTypes schema).diagnostics } := by
  unfold analyze at run
  cases outlined : (outlines schema).value with
  | error fault =>
    simp only [outlined] at run
    cases run
  | ok found =>
    cases events : (eventTypes schema).value with
    | error fault =>
      simp only [outlined, events] at run
      cases run
    | ok found' =>
      simp only [outlined, events] at run
      cases run
      exact ⟨found, found', rfl, rfl, rfl⟩

/-- Extraction leaves the outlines alone. -/
theorem outlines_of_extractAll (outlined : List TypeOutline) :
    (extractAll schema outlined).value.map (·.toTypeOutline) = outlined := by
  unfold extractAll
  simp only [List.map_map]
  exact List.map_id outlined

/-- Merging leaves the outlines alone. -/
theorem outlines_of_mergeAll (done : List (String × List Property))
    (types : List ExtractedType) :
    (mergeAll schema done types).value.map (·.toTypeOutline)
      = types.map (·.toTypeOutline) := by
  induction types generalizing done with
  | nil => rfl
  | cons type rest ih =>
    unfold mergeAll
    rw [List.map_cons, List.map_cons, ih]
    rfl

/-- The bound types are the outlined ones, in their order. -/
theorem outlines_of_types (run : analyze schema options = .ok analysis) :
    (outlines schema).value = .ok (analysis.types.map (·.toTypeOutline)) := by
  obtain ⟨outlined, -, found, -, rfl⟩ := analyze_ok run
  rw [found, outlines_of_mergeAll, outlines_of_extractAll]

-- ======================================================== the bound types

/-- The bound types have the shape that the scan gave them. -/
theorem linked_of_analyze (run : analyze schema options = .ok analysis) :
    Linked (analysis.types.map (·.toTypeOutline)) :=
  linked_of_outlines (outlines_of_types run)

/-- The bound types have distinct names. -/
theorem distinct_of_analyze (run : analyze schema options = .ok analysis) :
    (analysis.types.map (·.fullName)).Nodup := by
  have distinct := (linked_of_analyze run).distinct
  rw [List.map_map] at distinct
  exact distinct

/-- Behind a listed ancestor in a chain stands the ancestor's own chain. -/
theorem chain_of_ancestor (run : analyze schema options = .ok analysis)
    {type ancestor : TypeDescriptor} (listed : type ∈ analysis.types)
    (listedAncestor : ancestor ∈ analysis.types) {before after : List String}
    (split : type.chain = before ++ ancestor.fullName :: after) : ancestor.chain = after :=
  (linked_of_analyze run).chain_of_ancestor type.toTypeOutline (List.mem_map_of_mem listed)
    ancestor.toTypeOutline (List.mem_map_of_mem listedAncestor) before after split

/-- No chain names a type twice. -/
theorem chain_nodup (run : analyze schema options = .ok analysis) {type : TypeDescriptor}
    (listed : type ∈ analysis.types) : type.chain.Nodup :=
  (List.nodup_cons.1 ((linked_of_analyze run).acyclic type.toTypeOutline
    (List.mem_map_of_mem listed))).2

/-- Among distinct names a type is found by its name. -/
theorem find?_fullName {types : List TypeDescriptor} {name : String}
    {type : TypeDescriptor} (distinct : (types.map (·.fullName)).Nodup) :
    types.find? (·.fullName == name) = some type ↔ type ∈ types ∧ type.fullName = name := by
  constructor
  · intro found
    have named := List.find?_some found
    exact ⟨List.mem_of_find?_eq_some found, by simpa using named⟩
  · rintro ⟨listed, rfl⟩
    exact find?_of_nodup distinct listed

end DataBinding
