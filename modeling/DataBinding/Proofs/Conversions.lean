/-
Which unit carries the conversions of which enum. A run goes along the
bound types with a registry of what is carried so far. A type whose code
is known leaves a unit with the conversions that were pending for it, and
only then they count as carried; a type whose code is at fault leaves
nothing and changes nothing (`EmitsAlong`).

# Why each enum is carried once, and early enough

Two facts about such a run carry everything. What a unit brings along was
not carried when the run began (`not_emitted_of_unit`), and since a run
after a unit begins with what the unit carries, no later unit brings that
along again. And whenever a unit is drafted, whatever counts as carried is
carried by an earlier unit, the entries being still those of the analysis
(`registry_of_unit`), so that what its type needs is either pending or
carried by an earlier unit. That types are left out in between does not
matter to either.
-/
import DataBinding.Generation
import DataBinding.Proofs.Emission
import DataBinding.Proofs.EnumRegistry
import DataBinding.Proofs.WrittenInOrder

namespace DataBinding

open Code Emission

variable {schema : Schema} {options : Options} {analysis : Analysis}

-- =============================================================== one type

/-- The enums that a type uses are those behind its accessors. -/
theorem mem_usedEnums {type : TypeDescriptor} {enum : String} :
    enum ∈ type.usedEnums ↔ ∃ property ∈ type.accessors, property.enumName = some enum := by
  unfold TypeDescriptor.usedEnums
  rw [List.mem_eraseDups, List.mem_filterMap]

/-- A unit of a type that carries the conversions of some enums: its code
is the type's own, then these conversions, then the binding contract. -/
structure Carries (paths : CodePaths) (type : TypeDescriptor) (enums : List EnumDescriptor)
    (unit : FileDraft) : Prop where
  typeName : unit.typeName = some type.fullName
  names : unit.enums = enums.map (·.fullName)
  code : ∃ site own conversions contract, Site.ofType paths type.fullName = .ok site
    ∧ enums.mapM (conversion site) = .ok conversions
    ∧ unit.code = .plain (own ++ conversions.flatten) :: contract

/-- The code of a type has the conversions of the given enums in it. -/
theorem typeUnit_ok {paths : CodePaths} {type : TypeDescriptor} {enums : List EnumDescriptor}
    {code : Drafts} (run : typeUnit paths type enums = .ok code) :
    ∃ site own conversions contract, Site.ofType paths type.fullName = .ok site
      ∧ enums.mapM (conversion site) = .ok conversions
      ∧ code = .plain (own ++ conversions.flatten) :: contract := by
  unfold typeUnit at run
  obtain ⟨site, located, run⟩ := bind_eq_ok.1 run
  obtain ⟨storage, -, run⟩ := bind_eq_ok.1 run
  obtain ⟨registration, -, run⟩ := bind_eq_ok.1 run
  obtain ⟨accessors, -, run⟩ := bind_eq_ok.1 run
  obtain ⟨conversions, converted, run⟩ := bind_eq_ok.1 run
  obtain ⟨contract, -, run⟩ := bind_eq_ok.1 run
  cases run
  exact ⟨site, _, conversions, contract, located, converted, rfl⟩

/-- What becomes of a type: its code is known and makes a file, or the code is
at fault, and not for more than this type. -/
theorem outcomeOf_eq_ok {typeName : String} {file : Drafts → FileDraft} {code : Emit Drafts}
    {outcome : Outcome} :
    outcomeOf typeName file code = .ok outcome ↔
      (∃ drafts, code = .ok drafts ∧ outcome = .drafted (file drafts))
        ∨ ∃ fault, code = .error fault ∧ fault.endsRun = false
            ∧ outcome = .omitted ⟨typeName, fault⟩ := by
  unfold outcomeOf
  cases code with
  | ok drafts =>
    constructor
    · intro run
      cases run
      exact Or.inl ⟨drafts, rfl, rfl⟩
    · rintro (⟨_, same, rfl⟩ | ⟨_, impossible, -⟩)
      · cases same
        rfl
      · cases impossible
  | error fault =>
    dsimp only
    constructor
    · intro run
      split at run
      · cases run
      · next alone =>
        cases run
        exact Or.inr ⟨fault, rfl, Bool.not_eq_true _ ▸ alone, rfl⟩
    · rintro (⟨_, impossible, -⟩ | ⟨_, same, alone, rfl⟩)
      · cases impossible
      · cases same
        rw [alone]
        rfl

/-- What can become of one type: a unit that carries what is pending for
it, or nothing but a fault. -/
theorem emitType_ok {paths : CodePaths} {registry : EnumRegistry} {type : TypeDescriptor}
    {outcome : Outcome} (run : emitType paths registry type = .ok outcome) :
    (∃ unit, outcome = .drafted unit
        ∧ Carries paths type (registry.pending type.usedEnums) unit)
      ∨ ∃ fault, outcome = .omitted ⟨type.fullName, fault⟩ := by
  rcases outcomeOf_eq_ok.1 run with ⟨code, emitted, rfl⟩ | ⟨fault, -, -, rfl⟩
  · exact Or.inl ⟨_, rfl, rfl, rfl, typeUnit_ok emitted⟩
  · exact Or.inr ⟨fault, rfl⟩

-- ============================================================== all types

/-- The bound types are emitted one by one, in their order, each with the
registry of its time. -/
theorem forall₂_of_emitTypes {paths : CodePaths} {registry : EnumRegistry}
    {types : List TypeDescriptor} {outcomes : List Outcome}
    (run : emitTypes paths registry types = .ok outcomes) :
    List.Forall₂ (fun type outcome => ∃ earlier, emitType paths earlier type = .ok outcome)
      types outcomes := by
  induction types generalizing registry outcomes with
  | nil =>
    cases run
    exact .nil
  | cons type rest ih =>
    rw [emitTypes] at run
    obtain ⟨outcome, here, run⟩ := bind_eq_ok.1 run
    obtain ⟨others, later, run⟩ := bind_eq_ok.1 run
    cases run
    exact .cons ⟨registry, here⟩ (ih later)

/-- How a run goes along the types: a type is drafted with what is pending
for it, which counts as carried from then on, or it is left out and
nothing changes. -/
inductive EmitsAlong (paths : CodePaths) :
    EnumRegistry → List TypeDescriptor → List Outcome → Prop
  | done {registry : EnumRegistry} : EmitsAlong paths registry [] []
  | drafts {registry : EnumRegistry} {type : TypeDescriptor} {unit : FileDraft}
      {rest : List TypeDescriptor} {outcomes : List Outcome}
      (carries : Carries paths type (registry.pending type.usedEnums) unit)
      (along : EmitsAlong paths (registry.markAllEmitted unit.enums) rest outcomes) :
      EmitsAlong paths registry (type :: rest) (.drafted unit :: outcomes)
  | omits {registry : EnumRegistry} {type : TypeDescriptor} {omission : Omission}
      {rest : List TypeDescriptor} {outcomes : List Outcome}
      (along : EmitsAlong paths registry rest outcomes) :
      EmitsAlong paths registry (type :: rest) (.omitted omission :: outcomes)

theorem emitsAlong_of_emitTypes {paths : CodePaths} {registry : EnumRegistry}
    {types : List TypeDescriptor} {outcomes : List Outcome}
    (run : emitTypes paths registry types = .ok outcomes) :
    EmitsAlong paths registry types outcomes := by
  induction types generalizing registry outcomes with
  | nil =>
    cases run
    exact .done
  | cons type rest ih =>
    rw [emitTypes] at run
    obtain ⟨outcome, here, run⟩ := bind_eq_ok.1 run
    obtain ⟨later, along, run⟩ := bind_eq_ok.1 run
    cases run
    rcases emitType_ok here with ⟨unit, rfl, carries⟩ | ⟨fault, rfl⟩
    · exact .drafts carries (ih along)
    · exact .omits (ih along)

namespace EmitsAlong

variable {paths : CodePaths} {registry : EnumRegistry} {types : List TypeDescriptor}
  {outcomes : List Outcome}

/-- A unit brings nothing along that was carried when the run began. -/
theorem not_emitted_of_unit (along : EmitsAlong paths registry types outcomes)
    {unit : FileDraft} (drafted : unit ∈ outcomes.filterMap Outcome.file?) {enum : String}
    (carried : enum ∈ unit.enums) : enum ∉ registry.emitted := by
  induction along with
  | done => cases drafted
  | drafts carries _ ih =>
    rcases List.mem_cons.1 drafted with rfl | later
    · rw [carries.names] at carried
      exact (EnumRegistry.mem_pending.1 carried).2.2
    · exact fun before => ih later (EnumRegistry.mem_emitted_markAllEmitted.2 (Or.inl before))
  | omits _ ih => exact ih drafted

/-- No two units carry the same enum. -/
theorem disjoint_units (along : EmitsAlong paths registry types outcomes) :
    (outcomes.filterMap Outcome.file?).Pairwise fun a b => a.enums.Disjoint b.enums := by
  induction along with
  | done => exact List.Pairwise.nil
  | drafts _ along ih =>
    refine List.Pairwise.cons (fun later drafted enum here there => ?_) ih
    exact along.not_emitted_of_unit drafted there
      (EnumRegistry.mem_emitted_markAllEmitted.2 (Or.inr here))
  | omits _ ih => exact ih

/-- The registry at the time a unit is drafted: its entries are those from
the beginning, and what it counts as carried was carried then or is carried
by an earlier unit. -/
theorem registry_of_unit (along : EmitsAlong paths registry types outcomes)
    {before after : List FileDraft} {unit : FileDraft}
    (split : outcomes.filterMap Outcome.file? = before ++ unit :: after) :
    ∃ type ∈ types, ∃ later : EnumRegistry,
      Carries paths type (later.pending type.usedEnums) unit
        ∧ later.entries = registry.entries
        ∧ ∀ enum ∈ later.emitted,
            enum ∈ registry.emitted ∨ ∃ earlier ∈ before, enum ∈ earlier.enums := by
  induction along generalizing before with
  | done => exact absurd split (by simp)
  | @drafts registry type first rest outcomes carries _ ih =>
    cases before with
    | nil =>
      cases split
      exact ⟨type, List.mem_cons_self, registry, carries, rfl, fun enum known => Or.inl known⟩
    | cons earliest between =>
      obtain ⟨rfl, splitRest⟩ := List.cons_eq_cons.1 split
      obtain ⟨holder, inside, later, carriesToo, entries, known⟩ := ih splitRest
      refine ⟨holder, List.mem_cons_of_mem type inside, later, carriesToo,
        entries.trans (EnumRegistry.entries_markAllEmitted registry _), fun enum carried => ?_⟩
      rcases known enum carried with marked | ⟨earlier, among, here⟩
      · rcases EnumRegistry.mem_emitted_markAllEmitted.1 marked with start | here
        · exact Or.inl start
        · exact Or.inr ⟨_, List.mem_cons_self, here⟩
      · exact Or.inr ⟨earlier, List.mem_cons_of_mem _ among, here⟩
  | omits _ ih =>
    obtain ⟨holder, inside, facts⟩ := ih split
    exact ⟨holder, List.mem_cons_of_mem _ inside, facts⟩

/-- Where nothing is left out, what a type uses is carried by some unit,
unless it was carried when the run began. -/
theorem carried_of_complete (along : EmitsAlong paths registry types outcomes)
    (complete : outcomes.filterMap Outcome.omission? = []) {type : TypeDescriptor}
    (listed : type ∈ types) {enum : String} (used : enum ∈ type.usedEnums)
    (entered : registry.contains enum = true) (new : enum ∉ registry.emitted) :
    ∃ unit ∈ outcomes.filterMap Outcome.file?, enum ∈ unit.enums := by
  induction along with
  | done => cases listed
  | @drafts registry _ unit _ _ carries _ ih =>
    by_cases here : enum ∈ unit.enums
    · exact ⟨unit, List.mem_cons_self, here⟩
    · rcases List.mem_cons.1 listed with rfl | inRest
      · refine absurd ?_ here
        rw [carries.names]
        exact EnumRegistry.mem_pending.2 ⟨used, entered, new⟩
      · have enteredStill : (registry.markAllEmitted unit.enums).contains enum = true := by
          rw [EnumRegistry.contains_congr (EnumRegistry.entries_markAllEmitted registry _)]
          exact entered
        have newStill : enum ∉ (registry.markAllEmitted unit.enums).emitted := fun known =>
          (EnumRegistry.mem_emitted_markAllEmitted.1 known).elim new here
        obtain ⟨later, drafted, carried⟩ := ih complete inRest enteredStill newStill
        exact ⟨later, List.mem_cons_of_mem unit drafted, carried⟩
  | omits _ _ => cases complete

end EmitsAlong

-- ================================================================= a run

/-- All that has happened when the files of a schema are drafted. -/
theorem draft_ok {drafting : Drafting} (run : draft schema options = .ok drafting) :
    ∃ analysis, analyze schema options = .ok analysis
      ∧ emitTypes options.toCodePaths analysis.enums analysis.types = .ok drafting.types
      ∧ analysis.eventTypes.mapM (emitEvents options.toCodePaths) = .ok drafting.events := by
  unfold draft at run
  cases analysed : analyze schema options with
  | error fault =>
    rw [analysed] at run
    cases run
  | ok analysis =>
    rw [analysed] at run
    dsimp only at run
    cases typed : emitTypes options.toCodePaths analysis.enums analysis.types with
    | error fault =>
      rw [typed] at run
      cases run
    | ok types =>
      cases evented : analysis.eventTypes.mapM (emitEvents options.toCodePaths) with
      | error fault =>
        rw [typed, evented] at run
        cases run
      | ok events =>
        rw [typed, evented] at run
        cases run
        exact ⟨analysis, rfl, typed, evented⟩

/-- All that has happened when a run succeeds. -/
theorem generate_ok {generation : Generation}
    (run : generate schema options = .ok generation) :
    ∃ analysis drafting, analyze schema options = .ok analysis
      ∧ draft schema options = .ok drafting ∧ generation = drafting.settle options
      ∧ EmitsAlong options.toCodePaths analysis.enums analysis.types drafting.types
      ∧ analysis.eventTypes.mapM (emitEvents options.toCodePaths) = .ok drafting.events := by
  unfold generate at run
  obtain ⟨drafting, drafted, rfl⟩ := except_map_eq_ok.1 run
  obtain ⟨analysis, analysed, typed, evented⟩ := draft_ok drafted
  exact ⟨analysis, drafting, analysed, drafted, rfl, emitsAlong_of_emitTypes typed, evented⟩

/-- A run whose files can be drafted succeeds. -/
theorem generate_of_draft {drafting : Drafting} (drafted : draft schema options = .ok drafting) :
    generate schema options = .ok (drafting.settle options) := by
  unfold generate
  rw [drafted]
  rfl

/-- The registry at the time a unit of a run is drafted: what it counts as
carried is carried by an earlier unit. -/
theorem registry_of_run {drafting : Drafting} (analysed : analyze schema options = .ok analysis)
    (along : EmitsAlong options.toCodePaths analysis.enums analysis.types drafting.types)
    {before after : List FileDraft} {unit : FileDraft}
    (split : drafting.units = before ++ unit :: after) :
    ∃ type ∈ analysis.types, ∃ registry : EnumRegistry,
      Carries options.toCodePaths type (registry.pending type.usedEnums) unit
        ∧ registry.entries = analysis.enums.entries
        ∧ ∀ enum ∈ registry.emitted, ∃ earlier ∈ before, enum ∈ earlier.enums := by
  obtain ⟨type, listed, registry, carries, entries, known⟩ := along.registry_of_unit split
  refine ⟨type, listed, registry, carries, entries, fun enum carried => ?_⟩
  refine (known enum carried).resolve_left ?_
  rw [emitted_of_analyze analysed]
  exact List.not_mem_nil

/-- A unit carries only enums that its type uses. -/
theorem used_of_carried {paths : CodePaths} {type : TypeDescriptor} {registry : EnumRegistry}
    {unit : FileDraft} (carries : Carries paths type (registry.pending type.usedEnums) unit)
    {enum : String} (carried : enum ∈ unit.enums) :
    ∃ property ∈ type.accessors, property.enumName = some enum := by
  rw [carries.names] at carried
  exact mem_usedEnums.1 (EnumRegistry.mem_pending.1 carried).1

/-- Every enum has its conversions in at most one unit of a run, once, and
only if an accessor of the unit's type uses it. And whatever types are left
out, an enum behind an accessor of a type with a unit is carried by this
unit or by an earlier one. -/
theorem conversions_carried_once {generation : Generation}
    (run : generate schema options = .ok generation) :
    ∃ analysis drafting, analyze schema options = .ok analysis
      ∧ draft schema options = .ok drafting ∧ generation = drafting.settle options
      ∧ (∀ unit ∈ drafting.units, unit.enums.Nodup)
      ∧ drafting.units.Pairwise (fun a b => a.enums.Disjoint b.enums)
      ∧ ∀ before unit after, drafting.units = before ++ unit :: after →
          ∃ type ∈ analysis.types, ∃ enums, Carries options.toCodePaths type enums unit
            ∧ (∀ enum ∈ unit.enums, ∃ property ∈ type.accessors, property.enumName = some enum)
            ∧ ∀ property ∈ type.accessors, ∀ enum, property.enumName = some enum →
                enum ∈ unit.enums ∨ ∃ earlier ∈ before, enum ∈ earlier.enums := by
  obtain ⟨analysis, drafting, analysed, drafted, settled, along, -⟩ := generate_ok run
  refine ⟨analysis, drafting, analysed, drafted, settled, ?_, along.disjoint_units, ?_⟩
  · intro unit inside
    obtain ⟨before, after, split⟩ := List.append_of_mem inside
    obtain ⟨type, -, registry, carries, -⟩ := registry_of_run analysed along split
    rw [carries.names]
    exact EnumRegistry.nodup_pending registry type.usedEnums
  · intro before unit after split
    obtain ⟨type, listed, registry, carries, entries, known⟩ :=
      registry_of_run analysed along split
    refine ⟨type, listed, _, carries, fun enum => used_of_carried carries, ?_⟩
    intro property accessor enum used
    by_cases old : enum ∈ registry.emitted
    · exact Or.inr (known enum old)
    · have entered : registry.contains enum = true := by
        rw [EnumRegistry.contains_congr entries]
        exact contains_of_accessor analysed listed accessor used
      rw [carries.names]
      exact Or.inl (EnumRegistry.mem_pending.2
        ⟨mem_usedEnums.2 ⟨property, accessor, used⟩, entered, old⟩)

-- ======================================================= three performers

/-- Three types that share an enum. The code injected into the first cannot
be read. -/
def troupe : Schema where
  types :=
    [boundClass "Bard" none
      [{ name := "_mood", type := "Mood", attributes := [.codeInject .onGet "let = 1"] }],
     boundClass "Clown" none [{ name := "_mood", type := "Mood" }],
     boundClass "Dancer" none [{ name := "_mood", type := "Mood" }]]
  enums :=
    [{ name := "Mood"
       scope := some "game"
       values := [{ name := "Calm", value := 0 }, { name := "Wild", value := 1 }] }]

/-- A run over the troupe leaves the bard out. -/
theorem draft_troupe :
    ∃ drafting, draft troupe {} = .ok drafting
      ∧ drafting.omitted.map (·.typeName) = ["game::Bard"]
      ∧ drafting.units.map (·.enums) = [["game::Mood"], []] := by
  have written : WrittenInOrder troupe := by decide +kernel
  have emitted : (emitTypes {} (enumsAsWritten troupe) (typesAsWritten troupe)).map
        (fun outcomes =>
          ((outcomes.filterMap Outcome.file?).map (·.enums),
            (outcomes.filterMap Outcome.omission?).map (·.typeName)))
      = .ok ([["game::Mood"], []], ["game::Bard"]) := by
    decide +kernel
  obtain ⟨outcomes, typed, outcome⟩ := except_map_eq_ok.1 emitted
  obtain ⟨carried, omitted⟩ := Prod.mk.inj outcome
  obtain ⟨drafting, drafted, types, events⟩ := @draft_asWritten troupe {} written _ [] typed rfl
  refine ⟨drafting, drafted, ?_, ?_⟩
  · unfold Drafting.omitted
    rw [types, events, List.append_nil]
    exact omitted
  · unfold Drafting.units
    rw [types]
    exact carried

/-- In the troupe the bard is left out and does not take the mood along:
the clown carries it, and the dancer has no need to. -/
theorem troupe_conversions_carried_once :
    ∃ generation, generate troupe {} = .ok generation
      ∧ generation.omitted.map (·.typeName) = ["game::Bard"]
      ∧ ∃ drafting, draft troupe {} = .ok drafting
        ∧ drafting.units.map (·.enums) = [["game::Mood"], []]
        ∧ drafting.units.Pairwise fun a b => a.enums.Disjoint b.enums := by
  obtain ⟨drafting, drafted, omitted, carried⟩ := draft_troupe
  have run := generate_of_draft drafted
  obtain ⟨_, drafting', -, drafted', -, -, disjoint, -⟩ := conversions_carried_once run
  rw [drafted] at drafted'
  cases drafted'
  exact ⟨_, run, omitted, drafting, drafted, carried, disjoint⟩

end DataBinding
