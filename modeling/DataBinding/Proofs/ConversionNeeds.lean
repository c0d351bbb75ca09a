/-
Which enums emitted code converts, against those it has the conversions
of. Only accessors make a unit carry an enum, but accessors are not all
that converts: event calls unpack arguments, and setters send the
properties that are notified along, which may be written by hand. When no
type is left out, an enum has its conversions in a unit exactly when an
accessor uses it. Follow-ups to generated properties are therefore safe,
since such a property is an accessor of the type it belongs to
(`accessor_behind_entry`). For an enum that only arguments or hand-written
properties mention, code asks for conversions that no unit carries.
-/
import DataBinding.Proofs.Conversions
import DataBinding.Proofs.Delegation

namespace DataBinding

open Code Emission

variable {schema : Schema} {options : Options} {analysis : Analysis}

-- ================================================================== needs

/-- Some accessor of a bound type uses the enum. -/
def BehindAccessor (analysis : Analysis) (enum : String) : Prop :=
  ∃ type ∈ analysis.types, ∃ property ∈ type.accessors, property.enumName = some enum

/-- Emitted code converts the enum beside its own properties: it unpacks an
argument of an event call, or it sends a property that a setter notifies
along. -/
inductive ConvertedElsewhere (analysis : Analysis) (enum : String) : Prop
  | argument {event : EventTypeDescriptor} {call : EventCallDescriptor}
      {argument : ArgumentDescriptor} (exposed : event ∈ analysis.eventTypes)
      (calls : call ∈ event.calls) (takes : argument ∈ call.arguments)
      (unpacked : argument.kind = .enum) (named : argument.enumName = some enum)
  | followUp {type : TypeDescriptor} {property entry : Property} {target : String}
      (bound : type ∈ analysis.types) (accessor : property ∈ type.accessors)
      (kept : target ∈ property.alsoNotify) (found : type.merged? target = some entry)
      (sent : entry.category.isEnum = true) (named : entry.enumName = some enum)

/-- Some unit carries the conversions of the enum. -/
def Implemented (drafting : Drafting) (enum : String) : Prop :=
  ∃ unit ∈ drafting.units, enum ∈ unit.enums

-- ================================================================ accessors

/-- The enum of an entry with a field is behind an accessor. -/
theorem behindAccessor_of_entry (run : analyze schema options = .ok analysis)
    {type : TypeDescriptor} (listed : type ∈ analysis.types) {entry : Property}
    (inside : entry ∈ type.merged) (withField : entry.fieldName?.isSome = true)
    {enum : String} (named : entry.enumName = some enum) : BehindAccessor analysis enum := by
  rcases accessor_behind_entry run listed inside withField with
    own | ⟨ancestor, listedAncestor, accessor, among, rfl⟩
  · exact ⟨type, listed, entry, own, named⟩
  · exact ⟨ancestor, listedAncestor, accessor, among, named⟩

/-- What nothing leaves out is implemented when an accessor uses it. -/
theorem implemented_of_accessor {drafting : Drafting}
    (analysed : analyze schema options = .ok analysis)
    (along : EmitsAlong options.toCodePaths analysis.enums analysis.types drafting.types)
    (complete : drafting.omitted = []) {enum : String}
    (behind : BehindAccessor analysis enum) : Implemented drafting enum := by
  obtain ⟨type, listed, property, accessor, used⟩ := behind
  unfold Drafting.omitted at complete
  rw [List.filterMap_append, List.append_eq_nil_iff] at complete
  refine along.carried_of_complete complete.1 listed
    (mem_usedEnums.2 ⟨property, accessor, used⟩)
    (contains_of_accessor analysed listed accessor used) ?_
  rw [emitted_of_analyze analysed]
  exact List.not_mem_nil

/-- What is implemented is used by an accessor. -/
theorem behindAccessor_of_implemented {drafting : Drafting}
    (analysed : analyze schema options = .ok analysis)
    (along : EmitsAlong options.toCodePaths analysis.enums analysis.types drafting.types)
    {enum : String} (implemented : Implemented drafting enum) :
    BehindAccessor analysis enum := by
  obtain ⟨unit, drafted, carried⟩ := implemented
  obtain ⟨before, after, split⟩ := List.append_of_mem drafted
  obtain ⟨type, listed, _, carries, -⟩ := registry_of_run analysed along split
  exact ⟨type, listed, used_of_carried carries carried⟩

/-- When a run leaves nothing out, the enums with conversions in a unit are
those behind accessors, wherever else an enum may be converted. A setter
that notifies along a property with a field always finds the conversions
of that property's enum. -/
theorem implemented_iff_behindAccessor {generation : Generation}
    (run : generate schema options = .ok generation) (complete : generation.omitted = []) :
    ∃ analysis drafting, analyze schema options = .ok analysis
      ∧ draft schema options = .ok drafting ∧ generation = drafting.settle options
      ∧ (∀ enum, Implemented drafting enum ↔ BehindAccessor analysis enum)
      ∧ ∀ type ∈ analysis.types, ∀ property ∈ type.accessors, ∀ target ∈ property.alsoNotify,
          ∀ entry, type.merged? target = some entry → entry.fieldName?.isSome = true →
            ∀ enum, entry.enumName = some enum → Implemented drafting enum := by
  obtain ⟨analysis, drafting, analysed, drafted, rfl, along, -⟩ := generate_ok run
  refine ⟨analysis, drafting, analysed, drafted, rfl, fun enum => ⟨?_, ?_⟩, ?_⟩
  · exact behindAccessor_of_implemented analysed along
  · exact implemented_of_accessor analysed along complete
  · intro type listed property _ target _ entry found withField enum named
    have inside := List.mem_of_find?_eq_some found
    exact implemented_of_accessor analysed along complete
      (behindAccessor_of_entry analysed listed inside withField named)

-- ============================================================== a tavern

/-- A guest whose rank is notified along with the health, and so is the
mood, which is written by hand; and a shop that is asked for some kind of
drink by guests of some rank. Only the rank is behind an accessor. -/
def tavern : Schema where
  types :=
    [{ name := "Guest"
       scope := some "game"
       isPartial := true
       attributes := [.bindable false]
       fields :=
        [{ name := "_rank", type := "Rank" },
         { name := "_health"
           type := "i32"
           attributes := [.alsoNotify "Mood", .alsoNotify "Rank"] }]
       properties := [{ name := "Mood", type := "Mood" }] },
     { name := "Shop"
       scope := some "game"
       isPartial := true
       attributes := [.eventRegister]
       methods :=
        [{ name := "order"
           args := [{ name := "kind", type := "Kind" }, { name := "rank", type := "Rank" }]
           attributes := [.eventCall none []] }] }]
  enums :=
    [{ name := "Kind", scope := some "game", values := [{ name := "Ale", value := 0 }] },
     { name := "Mood", scope := some "game", values := [{ name := "Calm", value := 0 }] },
     { name := "Rank", scope := some "game", values := [{ name := "Squire", value := 0 }] }]

/-- A run over the tavern drafts both its files and leaves nothing out. -/
theorem draft_tavern :
    ∃ drafting, draft tavern {} = .ok drafting
      ∧ drafting.omitted = []
      ∧ drafting.units.map (·.enums) = [["game::Rank"]] := by
  have written : WrittenInOrder tavern := by decide +kernel
  have emitted : (emitTypes {} (enumsAsWritten tavern) (typesAsWritten tavern)).map
        (fun outcomes =>
          ((outcomes.filterMap Outcome.file?).map (·.enums),
            outcomes.filterMap Outcome.omission?))
      = .ok ([["game::Rank"]], []) := by
    decide +kernel
  have called : ((eventTypesAsWritten tavern).mapM (emitEvents {})).map
        (List.filterMap Outcome.omission?) = .ok [] := by
    decide +kernel
  obtain ⟨outcomes, typed, outcome⟩ := except_map_eq_ok.1 emitted
  obtain ⟨carried, typesComplete⟩ := Prod.mk.inj outcome
  obtain ⟨calls, evented, callsComplete⟩ := except_map_eq_ok.1 called
  obtain ⟨drafting, drafted, types, events⟩ :=
    @draft_asWritten tavern {} written outcomes calls typed evented
  refine ⟨drafting, drafted, ?_, ?_⟩
  · unfold Drafting.omitted
    rw [types, events, List.filterMap_append, typesComplete, callsComplete]
    rfl
  · unfold Drafting.units
    rw [types]
    exact carried

/-- The kind that the shop unpacks and the mood that the guest sends along
have their conversions in no unit, though nothing is left out. -/
theorem tavern_lacks_conversions :
    ∃ analysis drafting, analyze tavern {} = .ok analysis ∧ draft tavern {} = .ok drafting
      ∧ drafting.omitted = []
      ∧ ConvertedElsewhere analysis "game::Kind" ∧ ¬ Implemented drafting "game::Kind"
      ∧ ConvertedElsewhere analysis "game::Mood" ∧ ¬ Implemented drafting "game::Mood" := by
  obtain ⟨analysis, analysed, types, eventTypes, -⟩ :=
    @analyze_asWritten tavern (by decide +kernel) {}
  obtain ⟨drafting, drafted, complete, carried⟩ := draft_tavern
  have unpacked : ∃ shop ∈ eventTypesAsWritten tavern, ∃ call ∈ shop.calls,
      ∃ argument ∈ call.arguments,
        argument.kind = .enum ∧ argument.enumName = some "game::Kind" := by
    decide +kernel
  have sent : ∃ guest ∈ typesAsWritten tavern, ∃ health ∈ guest.accessors,
      ∃ target ∈ health.alsoNotify, ∃ mood ∈ guest.merged,
        guest.merged? target = some mood ∧ mood.category.isEnum = true
          ∧ mood.enumName = some "game::Mood" := by
    decide +kernel
  have lacks : ∀ enum, enum ≠ "game::Rank" → ¬ Implemented drafting enum := by
    rintro enum other ⟨unit, inside, here⟩
    have among : unit.enums ∈ drafting.units.map (·.enums) := List.mem_map_of_mem inside
    rw [carried, List.mem_singleton] at among
    rw [among, List.mem_singleton] at here
    exact other here
  rw [← eventTypes] at unpacked
  rw [← types] at sent
  obtain ⟨shop, exposed, call, calls, argument, takes, kind, named⟩ := unpacked
  obtain ⟨guest, bound, health, accessor, target, kept, mood, -, found, isEnum, named'⟩ := sent
  exact ⟨analysis, drafting, analysed, drafted, complete,
    .argument exposed calls takes kind named, lacks _ (by decide),
    .followUp bound accessor kept found isEnum named', lacks _ (by decide)⟩

/-- The rank, which the shop unpacks as well, has them. -/
theorem tavern_implements_rank :
    ∃ generation, generate tavern {} = .ok generation ∧ generation.omitted = []
      ∧ ∃ drafting, draft tavern {} = .ok drafting ∧ Implemented drafting "game::Rank" := by
  obtain ⟨drafting, drafted, complete, -⟩ := draft_tavern
  have run := generate_of_draft drafted
  obtain ⟨analysis, drafting', analysed, drafted', -, agree, -⟩ :=
    implemented_iff_behindAccessor run complete
  rw [drafted] at drafted'
  cases drafted'
  have behind : ∃ guest ∈ typesAsWritten tavern, ∃ rank ∈ guest.accessors,
      rank.enumName = some "game::Rank" := by
    decide +kernel
  obtain ⟨analysis', analysed', types, -, -⟩ :=
    @analyze_asWritten tavern (by decide +kernel) {}
  rw [analysed] at analysed'
  cases analysed'
  rw [← types] at behind
  exact ⟨_, run, complete, drafting, drafted, (agree "game::Rank").2 behind⟩

end DataBinding
