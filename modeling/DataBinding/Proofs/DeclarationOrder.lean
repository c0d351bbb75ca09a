/-
The order in which declarations are written. However the declarations of a
schema are arranged, a run over it comes to the same files.

# Why the order does not show

Declarations are reached in two ways. Where they are looked up by name, the
order cannot matter, since names are distinct: those of enums by
assumption, and those of types because the scan refuses all other schemas
(`sameLookups_of_perm`). Where they are gone through one by one, the
results are sorted by keys that hold the name, and sorting forgets the
order it is given (`mergeSort_eq_of_perm`): the scan sorts before it
screens, so it even reports in one order, while the search for event calls
screens first and sorts what it has found. That search is the only place
where the order shows, and only in the order of what is reported.

Everything behind the analysis depends on the lists it made, and hence not
on the order either.
-/
import DataBinding.Proofs.ConversionNeeds
import DataBinding.Proofs.Lookups

namespace DataBinding

variable {schema other : Schema} {options : Options}

-- =========================================================== the lookups

/-- Under distinct names, schemas with the same declarations have the same
lookups. -/
theorem sameLookups_of_perm (types : schema.types.Perm other.types)
    (enums : schema.enums.Perm other.enums)
    (distinct : (schema.types.map (·.fullName)).Nodup)
    (distinctEnums : (schema.enums.map (·.fullName)).Nodup) : SameLookups schema other where
  types := funext (find?_of_perm distinct types)
  enums := funext (find?_of_perm distinctEnums enums)

-- ============================================================== the scan

/-- The annotated declarations stand in the order of their names, however
they are written. -/
theorem annotated_of_perm (types : schema.types.Perm other.types)
    (distinct : (schema.types.map (·.fullName)).Nodup) : annotated schema = annotated other := by
  unfold annotated
  rw [mergeSort_eq_of_perm _ _ _ types]
  · intro a b c first second
    exact decide_eq_true (String.le_trans (of_decide_eq_true first) (of_decide_eq_true second))
  · intro a b
    simpa using String.le_total a.fullName b.fullName
  · intro a inside b inside' before after
    exact List.inj_on_of_nodup_map distinct inside inside'
      (String.le_antisymm (of_decide_eq_true before) (of_decide_eq_true after))

/-- The scan lists and reports the same. -/
theorem outlines_of_perm (types : schema.types.Perm other.types)
    (same : SameLookups schema other)
    (distinct : (schema.types.map (·.fullName)).Nodup) : outlines schema = outlines other := by
  have distinct' := (types.map (·.fullName)).nodup_iff.1 distinct
  have unrepeated : firstRepeat? [] (schema.types.map (·.fullName)) = none :=
    firstRepeat?_eq_none.2 ⟨distinct, fun _ _ => List.not_mem_nil⟩
  have unrepeated' : firstRepeat? [] (other.types.map (·.fullName)) = none :=
    firstRepeat?_eq_none.2 ⟨distinct', fun _ _ => List.not_mem_nil⟩
  unfold outlines
  rw [unrepeated, unrepeated', annotated_of_perm types distinct, same.screen_eq, same.link_eq]

-- ======================================================= the event calls

/-- The search for event calls lists the same types, and reports the same
in some order. -/
theorem eventTypes_of_perm (types : schema.types.Perm other.types)
    (same : SameLookups schema other)
    (distinct : (schema.types.map (·.fullName)).Nodup) {found : List EventTypeDescriptor}
    (run : (eventTypes schema).value = .ok found) :
    (eventTypes other).value = .ok found
      ∧ (eventTypes schema).diagnostics.Perm (eventTypes other).diagnostics := by
  obtain ⟨ended, accepted, kept, sorted⟩ := eventTypes_eq_ok.1 run
  have registers := types.filter (·.isEventRegister)
  have ended' : ∀ decl ∈ other.types.filter (·.isEventRegister),
      (baseChain other decl).isSome := by
    intro decl inside
    rw [← same.baseChain_eq]
    exact ended decl (registers.mem_iff.2 inside)
  constructor
  · -- names are distinct, so nothing is dropped and sorting forgets the order
    have offers := registers.filterMap (acceptEvent? schema)
    have keeps : ∀ decl type, acceptEvent? schema decl = some type →
        type.fullName = decl.fullName := by
      intro decl type made
      obtain ⟨chain, -, -, rfl⟩ := acceptEvent?_eq_some.1 made
      rfl
    have named : (((schema.types.filter (·.isEventRegister)).filterMap
        (acceptEvent? schema)).map (·.fullName)).Nodup :=
      (distinct.sublist (List.filter_sublist.map _)).sublist (keys_filterMap_sublist keeps _)
    have named' := (offers.map (·.fullName)).nodup_iff.1 named
    rw [lastOffers_of_nodup named] at kept
    refine eventTypes_eq_ok.2 ⟨ended', _, rfl, ?_⟩
    rw [← same.acceptEvent?_eq, lastOffers_of_nodup named', ← same.link_event_eq, sorted, kept]
    have names : ∀ name,
        name ∈ ((schema.types.filter (·.isEventRegister)).filterMap
            (acceptEvent? schema)).map (·.fullName)
          ↔ name ∈ ((other.types.filter (·.isEventRegister)).filterMap
            (acceptEvent? schema)).map (·.fullName) :=
      fun _ => (offers.map (·.fullName)).mem_iff
    rw [← funext (link_event_congr names)]
    refine ancestorsFirst_of_perm ?_ (offers.map _)
    rw [List.map_map]
    exact named
  · show (screenEvents schema _).diagnostics.Perm (screenEvents other _).diagnostics
    rw [diagnostics_screenEvents ended, diagnostics_screenEvents ended']
    have reported : eventDiagnostics schema = eventDiagnostics other := by
      funext decl
      unfold eventDiagnostics
      rw [same.extractCalls_eq]
    rw [reported]
    exact registers.flatMap_right _

-- ========================================================== the analysis

/-- Analyses with the same results, reported in any order. -/
structure SameAnalysis (analysis other : Analysis) : Prop where
  types : analysis.types = other.types
  eventTypes : analysis.eventTypes = other.eventTypes
  enums : analysis.enums = other.enums
  diagnostics : analysis.diagnostics.Perm other.diagnostics

/-- What can be analysed can be analysed in any order, with the same
results. -/
theorem analyze_of_perm (types : schema.types.Perm other.types)
    (enums : schema.enums.Perm other.enums)
    (distinctEnums : (schema.enums.map (·.fullName)).Nodup) {analysis : Analysis}
    (run : analyze schema options = .ok analysis) :
    ∃ analysis', analyze other options = .ok analysis' ∧ SameAnalysis analysis analysis' := by
  have distinct := (outlines_ok (outlines_of_types run)).1
  have same := sameLookups_of_perm types enums distinct distinctEnums
  obtain ⟨outlined, found, scanned, searched, rfl⟩ := analyze_ok run
  obtain ⟨searched', reported⟩ := eventTypes_of_perm types same distinct searched
  have scanned' : (outlines other).value = .ok outlined := by
    rw [← outlines_of_perm types same distinct, scanned]
  unfold analyze
  simp only [scanned', searched']
  refine ⟨_, rfl, ?_, rfl, ?_, ?_⟩
  · rw [same.extractAll_eq, same.mergeAll_eq]
  · rw [same.extractAll_eq, same.registerAll_eq]
  · rw [outlines_of_perm types same distinct, same.extractAll_eq, same.mergeAll_eq]
    exact reported.append_left _

-- =============================================================== the run

/-- Two runs that come to the same: neither schema can be used, or both
end at the same fault of emission, or both write the same files, leave out
the same types for the same reasons and report the same in some order. -/
inductive SameRun : Except GenerationFault Generation → Except GenerationFault Generation → Prop
  | refused (fault fault' : SchemaFault) :
      SameRun (.error (.schema fault)) (.error (.schema fault'))
  | ended (fault : Code.EmitFault) :
      SameRun (.error (.emission fault)) (.error (.emission fault))
  | written {generation generation' : Generation}
      (units : generation.units = generation'.units)
      (eventUnits : generation.eventUnits = generation'.eventUnits)
      (indexes : generation.indexes = generation'.indexes)
      (omitted : generation.omitted = generation'.omitted)
      (diagnostics : generation.diagnostics.Perm generation'.diagnostics) :
      SameRun (.ok generation) (.ok generation')

/-- A run depends on the results of the analysis alone. -/
theorem sameRun_of_sameAnalysis {analysis analysis' : Analysis}
    (run : analyze schema options = .ok analysis)
    (run' : analyze other options = .ok analysis') (same : SameAnalysis analysis analysis') :
    SameRun (generate schema options) (generate other options) := by
  unfold generate draft
  simp only [run, run', same.types, same.eventTypes, same.enums]
  cases emitTypes options.toCodePaths analysis'.enums analysis'.types with
  | error fault => exact .ended fault
  | ok typed =>
    cases analysis'.eventTypes.mapM (emitEvents options.toCodePaths) with
    | error fault => exact .ended fault
    | ok evented => exact .written rfl rfl rfl rfl same.diagnostics

/-- A schema that cannot be analysed cannot be used by a run. -/
theorem generate_of_fault {fault : SchemaFault} (run : analyze schema options = .error fault) :
    generate schema options = .error (.schema fault) := by
  unfold generate draft
  rw [run]
  rfl

/-- Runs over schemas with the same declarations, in whatever order these
are written, come to the same. -/
theorem generate_of_perm (types : schema.types.Perm other.types)
    (enums : schema.enums.Perm other.enums)
    (distinctEnums : (schema.enums.map (·.fullName)).Nodup) (options : Options) :
    SameRun (generate schema options) (generate other options) := by
  cases run : analyze schema options with
  | ok analysis =>
    obtain ⟨analysis', run', same⟩ := analyze_of_perm types enums distinctEnums run
    exact sameRun_of_sameAnalysis run run' same
  | error fault =>
    cases run' : analyze other options with
    | ok analysis' =>
      -- read backwards, the other schema is the one that is rearranged
      have distinctEnums' := (enums.map (·.fullName)).nodup_iff.1 distinctEnums
      obtain ⟨analysis, run'', -⟩ :=
        analyze_of_perm types.symm enums.symm distinctEnums' run'
      rw [run] at run''
      cases run''
    | error fault' =>
      rw [generate_of_fault run, generate_of_fault run']
      exact .refused fault fault'

/-- Written back to front, the tavern still generates its two files, and the
same ones. -/
theorem tavern_written_backwards :
    ∃ generation generation', generate tavern {} = .ok generation
      ∧ generate { types := tavern.types.reverse, enums := tavern.enums.reverse } {}
        = .ok generation'
      ∧ tavern.types.reverse ≠ tavern.types
      ∧ generation'.units = generation.units ∧ generation'.eventUnits = generation.eventUnits
      ∧ generation'.indexes = generation.indexes ∧ generation'.omitted = []
      ∧ generation'.diagnostics.Perm generation.diagnostics := by
  obtain ⟨drafting, drafted, complete, -⟩ := draft_tavern
  have run := generate_of_draft drafted
  have backwards := @generate_of_perm tavern
    { types := tavern.types.reverse, enums := tavern.enums.reverse }
    (List.reverse_perm _).symm (List.reverse_perm _).symm (by decide +kernel) {}
  rw [run] at backwards
  generalize generate { types := tavern.types.reverse, enums := tavern.enums.reverse } {} = run'
    at backwards ⊢
  cases backwards with
  | written units eventUnits indexes omitted diagnostics =>
    exact ⟨_, _, run, rfl, by decide +kernel, units.symm, eventUnits.symm, indexes.symm,
      omitted.symm.trans complete, diagnostics.symm⟩

end DataBinding
