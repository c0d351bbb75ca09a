/-
One type's faults are its own. When a schema can be analysed, a run either
returns, and then each type has its file or its entry among what is left
out; or it ends over a word that is none, and such words are few.

# What can go wrong with a type

Emitting a type gives an outcome of that type, whether its code is known or
at fault (`outcomeOf_isOf`), unless the fault ends the run. Which words can
do that is known for the code of every file (`typeUnit_confined`,
`eventUnit_endsOver`), and along the types of a run nothing changes about
it: the registry may mark enums as carried, but its entries stay those of
the analysis. So either there is an outcome for each type, in their order,
and the two halves of the answer are cut out of one list
(`splits_of_outcomes`); or the run ends over one of those words.
-/
import DataBinding.Proofs.Conversions
import DataBinding.Proofs.EventTypes
import DataBinding.Proofs.RunEndings

namespace DataBinding

open Code Emission

variable {schema : Schema} {options : Options} {analysis : Analysis} {paths : CodePaths}

-- ============================================================== one type

/-- An outcome of the type with a name; what it is left out for is a fault
of this type alone. -/
def Outcome.IsOf (typeName : String) : Outcome → Prop
  | .drafted file => file.typeName = some typeName
  | .omitted omission => omission.typeName = typeName ∧ omission.fault.endsRun = false

/-- What emitting a type gives is an outcome of that type. -/
theorem outcomeOf_isOf {typeName : String} {file : Drafts → FileDraft} {code : Emit Drafts}
    {outcome : Outcome} (named : ∀ code, (file code).typeName = some typeName)
    (run : outcomeOf typeName file code = .ok outcome) : outcome.IsOf typeName := by
  rcases outcomeOf_eq_ok.1 run with ⟨code, -, rfl⟩ | ⟨fault, -, alone, rfl⟩
  · exact named code
  · exact ⟨rfl, alone⟩

/-- Only a word that is none goes beyond a type. -/
theorem outcomeOf_failsOnly {ends : String → Prop} {typeName : String}
    {file : Drafts → FileDraft} {code : Emit Drafts} (confined : FailsOnly (EndsOver ends) code) :
    FailsOnly (fun fault => ∃ text, fault = .noWord text ∧ ends text)
      (outcomeOf typeName file code) := by
  intro fault failed
  unfold outcomeOf at failed
  split at failed
  · cases failed
  · next fault' =>
    split at failed
    · next further =>
      cases failed
      cases fault with
      | noWord text => exact ⟨text, rfl, confined _ rfl⟩
      | invalidName | invalidInjection | invalidPath | invalidType => cases further
    · cases failed

-- ================================================================ a run

/-- The words over which a run may end: those of its types, and the names
of called methods. -/
def EndsGeneration (analysis : Analysis) (text : String) : Prop :=
  (∃ type ∈ analysis.types, EndsRun type analysis.enums.entries text)
    ∨ ∃ type ∈ analysis.eventTypes, ∃ call ∈ type.calls,
        call.methodName = text ∧ Overlooked text

/-- Bringing more enums along, a type has all its words still. -/
theorem endsRun_mono {type : TypeDescriptor} {enums others : List EnumDescriptor}
    (more : enums ⊆ others) {text : String} (ends : EndsRun type enums text) :
    EndsRun type others text := by
  cases ends with
  | simpleName overlooked => exact .simpleName overlooked
  | field stored overlooked => exact .field stored overlooked
  | accessor listed written overlooked => exact .accessor listed written overlooked
  | notified listed notifies found overlooked => exact .notified listed notifies found overlooked
  | kept listed notifies found raises noWord => exact .kept listed notifies found raises noWord
  | variant brought listed overlooked => exact .variant (more brought) listed overlooked

/-- Emitting bound types one after the other ends a run over their words
only, since the entries of the registry stay. -/
theorem emitTypes_failsOnly {registry : EnumRegistry} {types : List TypeDescriptor}
    (listed : types ⊆ analysis.types) (entries : registry.entries = analysis.enums.entries) :
    FailsOnly (fun fault => ∃ text, fault = .noWord text ∧ EndsGeneration analysis text)
      (emitTypes paths registry types) := by
  induction types generalizing registry with
  | nil => exact .ok []
  | cons type rest ih =>
    obtain ⟨here, later⟩ := List.cons_subset.1 listed
    have brought : registry.pending type.usedEnums ⊆ analysis.enums.entries := by
      intro enum inside
      rw [← entries]
      exact EnumRegistry.mem_entries_of_pending inside
    rw [emitTypes]
    refine .bind ?_ fun outcome => .bind (ih later ?_) fun _ => .ok _
    · refine outcomeOf_failsOnly ((typeUnit_confined paths).mono ?_)
      intro fault among
      cases fault with
      | noWord text => exact Or.inl ⟨type, here, endsRun_mono brought among⟩
      | invalidName | invalidInjection | invalidPath | invalidType => exact trivial
    · rw [EnumRegistry.entries_markAllEmitted, entries]

theorem emitEvents_failsOnly {type : EventTypeDescriptor} (listed : type ∈ analysis.eventTypes) :
    FailsOnly (fun fault => ∃ text, fault = .noWord text ∧ EndsGeneration analysis text)
      (emitEvents paths type) :=
  outcomeOf_failsOnly (eventUnit_endsOver paths fun call called overlooked =>
    Or.inr ⟨type, listed, call, called, rfl, overlooked⟩)

/-- There is an outcome of each bound type, in their order. -/
theorem outcomes_of_emitTypes {registry : EnumRegistry} {types : List TypeDescriptor}
    {outcomes : List Outcome} (run : emitTypes paths registry types = .ok outcomes) :
    List.Forall₂ (fun type outcome => outcome.IsOf type)
      (types.map (·.fullName)) outcomes := by
  rw [List.forall₂_map_left_iff]
  exact (forall₂_of_emitTypes run).imp fun _ _ ⟨_, here⟩ => outcomeOf_isOf (fun _ => rfl) here

/-- There is an outcome of each event type, in their order. -/
theorem outcomes_of_emitEvents {types : List EventTypeDescriptor} {outcomes : List Outcome}
    (run : types.mapM (emitEvents paths) = .ok outcomes) :
    List.Forall₂ (fun type outcome => outcome.IsOf type)
      (types.map (·.fullName)) outcomes := by
  rw [List.forall₂_map_left_iff]
  exact (forall₂_of_mapM_ok run).imp fun _ _ here => outcomeOf_isOf (fun _ => rfl) here

-- ============================================================= the answer

/-- Names that are split in two: each stands on one side, once, and both
sides are in the order of the names. -/
structure SplitsInOrder (names units left : List String) : Prop where
  distinct : names.Nodup
  unitsInOrder : units.Sublist names
  leftInOrder : left.Sublist names
  once : (units ++ left).Perm names

/-- Outcomes of distinct types split their names. -/
theorem splits_of_outcomes {names : List String} {outcomes : List Outcome}
    (distinct : names.Nodup)
    (each : List.Forall₂ (fun type outcome => outcome.IsOf type) names outcomes) :
    ∃ units, (outcomes.filterMap Outcome.file?).map (·.typeName) = units.map some
      ∧ SplitsInOrder names units ((outcomes.filterMap Outcome.omission?).map (·.typeName)) := by
  induction each with
  | nil => exact ⟨[], rfl, distinct, .slnil, .slnil, .nil⟩
  | @cons name outcome names outcomes isOf _ ih =>
    obtain ⟨units, typeNames, splits⟩ := ih (List.nodup_cons.1 distinct).2
    cases outcome with
    | drafted file =>
      refine ⟨name :: units, congrArg₂ List.cons isOf typeNames, distinct, ?_, ?_, ?_⟩
      · exact splits.unitsInOrder.cons_cons name
      · exact splits.leftInOrder.cons name
      · exact splits.once.cons name
    | omitted omission =>
      obtain ⟨rfl, -⟩ := isOf
      refine ⟨units, typeNames, distinct, ?_, ?_, ?_⟩
      · exact splits.unitsInOrder.cons _
      · exact splits.leftInOrder.cons_cons _
      · exact List.perm_middle.trans (splits.once.cons _)

/-- The answer of a run accounts for each type of the analysis: bound types
have a file or are left out, and so are event types, and no type is left out
for a fault that goes beyond it. -/
def Isolated (analysis : Analysis) (generation : Generation) : Prop :=
  (∃ units eventUnits left eventLeft,
      generation.units.map (·.typeName) = units.map some
        ∧ generation.eventUnits.map (·.typeName) = eventUnits.map some
        ∧ generation.omitted.map (·.typeName) = left ++ eventLeft
        ∧ SplitsInOrder (analysis.types.map (·.fullName)) units left
        ∧ SplitsInOrder (analysis.eventTypes.map (·.fullName)) eventUnits eventLeft)
    ∧ ∀ omission ∈ generation.omitted, omission.fault.endsRun = false

/-- Settling the drafts of a run changes nothing about whose they are. -/
theorem typeNames_settle (files : List FileDraft) :
    (files.map (·.settle options)).map (·.typeName) = files.map (·.typeName) := by
  rw [List.map_map]
  rfl

/-- A type is left out for a fault of its own. -/
theorem fault_of_omission {names : List String} {outcomes : List Outcome}
    (each : List.Forall₂ (fun type outcome => outcome.IsOf type) names outcomes)
    {omission : Omission} (left : omission ∈ outcomes.filterMap Outcome.omission?) :
    omission.fault.endsRun = false := by
  obtain ⟨outcome, among, made⟩ := List.mem_filterMap.1 left
  obtain ⟨name, -, isOf⟩ := exists_of_forall₂ each among
  cases outcome with
  | drafted file => cases made
  | omitted omission' =>
    cases made
    exact isOf.2

/-- What can be analysed is generated type by type: the run accounts for
each of them, or it ends over one of the words that `EndsGeneration`
lists. -/
theorem generate_isolates (run : analyze schema options = .ok analysis) :
    (∃ generation, generate schema options = .ok generation ∧ Isolated analysis generation)
      ∨ ∃ text, generate schema options = .error (.emission (.noWord text))
          ∧ EndsGeneration analysis text := by
  have distinctEvents : (analysis.eventTypes.map (·.fullName)).Nodup := by
    obtain ⟨_, _, -, searched, rfl⟩ := analyze_ok run
    exact distinct_of_eventTypes searched
  unfold generate draft
  simp only [run]
  cases typed : emitTypes options.toCodePaths analysis.enums analysis.types with
  | error fault =>
    obtain ⟨text, rfl, ends⟩ := emitTypes_failsOnly (List.Subset.refl _) rfl fault typed
    exact Or.inr ⟨text, rfl, ends⟩
  | ok types =>
    cases evented : analysis.eventTypes.mapM (emitEvents options.toCodePaths) with
    | error fault =>
      obtain ⟨text, rfl, ends⟩ :=
        FailsOnly.mapM (fun type listed => emitEvents_failsOnly listed) fault evented
      exact Or.inr ⟨text, rfl, ends⟩
    | ok events =>
      have each := outcomes_of_emitTypes typed
      have eachEvent := outcomes_of_emitEvents evented
      obtain ⟨units, unitNames, splits⟩ := splits_of_outcomes (distinct_of_analyze run) each
      obtain ⟨eventUnits, eventNames, splitsEvents⟩ :=
        splits_of_outcomes distinctEvents eachEvent
      refine Or.inl ⟨_, rfl, ⟨units, eventUnits, _, _, ?_, ?_, ?_, splits, splitsEvents⟩, ?_⟩
      · exact (typeNames_settle _).trans unitNames
      · exact (typeNames_settle _).trans eventNames
      · show List.map _ (List.filterMap _ (types ++ events)) = _
        rw [List.filterMap_append, List.map_append]
      · intro omission left
        have left : omission ∈ (types ++ events).filterMap Outcome.omission? := left
        rw [List.filterMap_append] at left
        rcases List.mem_append.1 left with left | left
        · exact fault_of_omission each left
        · exact fault_of_omission eachEvent left

/-- The troupe is generated, and the bard is left out alone. -/
theorem troupe_isolated :
    ∃ analysis generation, analyze troupe {} = .ok analysis
      ∧ generate troupe {} = .ok generation ∧ Isolated analysis generation
      ∧ generation.omitted.map (·.typeName) = ["game::Bard"] := by
  obtain ⟨drafting, drafted, omitted, -⟩ := draft_troupe
  have run := generate_of_draft drafted
  obtain ⟨analysis, _, analysed, -⟩ := generate_ok run
  rcases generate_isolates analysed with ⟨generation, run', isolated⟩ | ⟨text, ended, -⟩
  · rw [run] at run'
    cases run'
    exact ⟨analysis, _, analysed, run, isolated, omitted⟩
  · rw [run] at ended
    cases ended

-- ======================================================== a market stall

/-- Apples, and bricks with a field that has a superscript digit in its
name. -/
def stall : Schema where
  types :=
    [boundClass "Apple" none [{ name := "_weight", type := "i32" }],
     boundClass "Brick" none [{ name := "_x²", type := "i32" }]]

/-- The field of the bricks takes the apples with it: the stall can be
analysed, and a run over it returns nothing. -/
theorem stall_ends_run :
    ∃ analysis, analyze stall {} = .ok analysis
      ∧ analysis.types.map (·.fullName) = ["game::Apple", "game::Brick"]
      ∧ generate stall {} = .error (.emission (.noWord "_x²")) := by
  obtain ⟨analysis, analysed, types, -, enums⟩ :=
    @analyze_asWritten stall (by decide +kernel) {}
  have names : (typesAsWritten stall).map (·.fullName) = ["game::Apple", "game::Brick"] := by
    decide +kernel
  have ended : (emitTypes {} (enumsAsWritten stall) (typesAsWritten stall)).map List.length
      = .error (.noWord "_x²") := by
    decide +kernel
  refine ⟨analysis, analysed, by rw [types, names], ?_⟩
  unfold generate draft
  simp only [analysed, types, enums]
  cases emitted : emitTypes {} (enumsAsWritten stall) (typesAsWritten stall) with
  | ok outcomes =>
    rw [emitted] at ended
    cases ended
  | error fault =>
    rw [emitted] at ended
    cases ended
    rfl

end DataBinding
