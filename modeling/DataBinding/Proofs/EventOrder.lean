/-
The order of the types with event calls. Like the bound types they stand
by rank, which counts the listed members of a type's chain, and then by
name. For bound types that puts every ancestor first. Here it does so for
every ancestor but one sort.

# Which ancestors may come late

Behind a listed ancestor stands the ancestor's own chain
(`event_chain_behind`), so it has the smaller rank (`rank_lt_of_embeds`):
with one exception. A type in auto-notify mode ends every chain it stands
in, but its own chain goes on. What it counts is then lost to its
descendants, and its rank may well be theirs or larger. Whether it comes
first is left to the two numbers and, where they agree, to the names.
-/
import DataBinding.Proofs.EmbeddedBases

namespace DataBinding

variable {schema : Schema} {types : List EventTypeDescriptor}

-- ============================================================== the keys

/-- What event types are sorted by: how many listed types a chain has, and
the name. -/
def eventKey (types : List EventTypeDescriptor) (type : EventTypeDescriptor) : Nat × String :=
  (rank EventTypeDescriptor.chain (types.map (·.fullName)) type, type.fullName)

/-- Listed event types stand in the order of their keys. -/
theorem sorted_of_eventTypes (run : (eventTypes schema).value = .ok types) :
    types.Pairwise fun a b => comesBefore (eventKey types a) (eventKey types b) = true := by
  obtain ⟨accepted, -, sorted⟩ := eventTypes_ok run
  have names : ∀ name, name ∈ types.map (·.fullName)
      ↔ name ∈ (accepted.map (·.link schema accepted)).map (·.fullName) := by
    intro name
    rw [sorted]
    exact ((ancestorsFirst_perm _ _ _).map _).mem_iff
  have ordered := ancestorsFirst_sorted EventTypeDescriptor.fullName EventTypeDescriptor.chain
    (accepted.map (·.link schema accepted))
  rw [← sorted] at ordered
  refine ordered.imp fun {a b} before => ?_
  unfold eventKey
  rw [rank_congr names a, rank_congr names b]
  exact before

/-- Of two types with different names the one with the smaller key stands
first. -/
theorem index_lt_iff_comesBefore (run : (eventTypes schema).value = .ok types)
    {a b : EventTypeDescriptor} {i j : Nat} (atI : types[i]? = some a)
    (atJ : types[j]? = some b) (other : a.fullName ≠ b.fullName) :
    i < j ↔ comesBefore (eventKey types a) (eventKey types b) = true := by
  obtain ⟨iBound, rfl⟩ := List.getElem?_eq_some_iff.1 atI
  obtain ⟨jBound, rfl⟩ := List.getElem?_eq_some_iff.1 atJ
  have sorted := List.pairwise_iff_getElem.1 (sorted_of_eventTypes run)
  constructor
  · intro less
    exact sorted i j iBound jBound less
  · intro before
    rcases Nat.lt_trichotomy i j with lt | rfl | gt
    · exact lt
    · exact absurd rfl other
    · have same := comesBefore_antisymm before (sorted j i jBound iBound gt)
      exact absurd (congrArg Prod.snd same) other

-- ============================================================ the chains

/-- No event type stands in its own chain. -/
theorem not_mem_own_chain (distinct : (schema.types.map (·.fullName)).Nodup)
    (run : (eventTypes schema).value = .ok types) {type : EventTypeDescriptor}
    (listed : type ∈ types) : type.fullName ∉ type.chain := by
  obtain ⟨decl, walked, found, walkedFrom, chain⟩ := chain_of_eventType distinct run listed
  have away : decl.fullName ∉ walked := (List.nodup_cons.1 (baseChain_nodup walkedFrom)).1
  rw [chain, ← (mem_types_of_typeDecl? found).2]
  exact fun inChain => away ((embeddedChain_isPrefix walked).subset inChain)

/-- Behind a listed ancestor stands its own chain, unless it is in
auto-notify mode: then nothing does. -/
theorem event_chain_behind (distinct : (schema.types.map (·.fullName)).Nodup)
    (run : (eventTypes schema).value = .ok types) {type ancestor : EventTypeDescriptor}
    (listed : type ∈ types) (listedAncestor : ancestor ∈ types) {before after : List String}
    (split : type.chain = before ++ ancestor.fullName :: after) :
    after = if embedsNothing schema ancestor.fullName then [] else ancestor.chain := by
  obtain ⟨decl, walked, -, walkedFrom, chain⟩ := chain_of_eventType distinct run listed
  obtain ⟨member, walkedOn, found, walkedFrom', chain'⟩ :=
    chain_of_eventType distinct run listedAncestor
  rw [chain] at split
  obtain ⟨rest, rfl, behind⟩ := embeddedChain_split split
  obtain ⟨member', found', -, walkedFrom''⟩ := baseChain_split walkedFrom
  -- the chain's member and the listed ancestor are one declaration
  rw [found] at found'
  cases found'
  rw [walkedFrom'] at walkedFrom''
  cases walkedFrom''
  rw [behind, chain']

/-- An ancestor that embeds its own base has the smaller rank. -/
theorem rank_lt_of_embeds (distinct : (schema.types.map (·.fullName)).Nodup)
    (run : (eventTypes schema).value = .ok types) {type ancestor : EventTypeDescriptor}
    (listed : type ∈ types) (listedAncestor : ancestor ∈ types)
    (inChain : ancestor.fullName ∈ type.chain)
    (embeds : embedsNothing schema ancestor.fullName = false) :
    rank EventTypeDescriptor.chain (types.map (·.fullName)) ancestor
      < rank EventTypeDescriptor.chain (types.map (·.fullName)) type := by
  obtain ⟨before, after, split⟩ := List.append_of_mem inChain
  have behind := event_chain_behind distinct run listed listedAncestor split
  rw [embeds] at behind
  have known : (types.map (·.fullName)).contains ancestor.fullName = true :=
    List.contains_iff_mem.2 (List.mem_map_of_mem listedAncestor)
  unfold rank
  rw [split, behind, List.countP_append, List.countP_cons, if_pos known]
  simp only [Bool.false_eq_true, if_false]
  omega

-- ============================================================= the order

/-- Event types have distinct names, and each stands behind every listed
member of its chain that is not in auto-notify mode. A member in
auto-notify mode is the last of the chain, and it stands first exactly
when it has fewer listed types in its own chain, or as many and the
smaller name. -/
theorem eventTypes_in_order (distinct : (schema.types.map (·.fullName)).Nodup)
    (run : (eventTypes schema).value = .ok types) :
    (types.map (·.fullName)).Nodup
      ∧ ∀ (i j : Nat) (ancestor type : EventTypeDescriptor), types[i]? = some ancestor →
          types[j]? = some type → ancestor.fullName ∈ type.chain →
          (embedsNothing schema ancestor.fullName = false → i < j)
          ∧ (embedsNothing schema ancestor.fullName = true →
              type.chain.getLast? = some ancestor.fullName
              ∧ (i < j ↔ comesBefore (eventKey types ancestor) (eventKey types type) = true)) := by
  refine ⟨distinct_of_eventTypes run, ?_⟩
  intro i j ancestor type atI atJ inChain
  have listedAncestor := List.mem_of_getElem? atI
  have listed := List.mem_of_getElem? atJ
  have other : ancestor.fullName ≠ type.fullName := by
    intro same
    rw [same] at inChain
    exact not_mem_own_chain distinct run listed inChain
  have byKey := index_lt_iff_comesBefore run atI atJ other
  constructor
  · intro embeds
    have less := rank_lt_of_embeds distinct run listed listedAncestor inChain embeds
    rw [byKey]
    simp [comesBefore, eventKey, less]
  · intro flat
    obtain ⟨before, after, split⟩ := List.append_of_mem inChain
    have behind := event_chain_behind distinct run listed listedAncestor split
    rw [flat, if_pos rfl] at behind
    refine ⟨?_, byKey⟩
    rw [split, behind, List.getLast?_concat]

-- ============================================================ two gauges

/-- A device, a gauge in auto-notify mode that derives from it, and a dial
that derives from the gauge. -/
def gauges : Schema where
  types :=
    [eventClass "Device" none [] [],
     eventClass "Dial" (some "Gauge") [] [],
     eventClass "Gauge" (some "Device") []
      [{ name := "_level", type := "i32", attributes := [.autoNotify none] }]]

/-- The dial stands before the gauge, though the gauge is in its chain:
the chains of both have one listed type, and the dial has the smaller
name. -/
theorem dial_before_gauge :
    (gauges.types.map (·.fullName)).Nodup
      ∧ ∃ types, (eventTypes gauges).value = .ok types
        ∧ ∃ gauge ∈ types, ∃ dial ∈ types, ∃ i j : Nat, types[i]? = some gauge
          ∧ types[j]? = some dial ∧ gauge.fullName ∈ dial.chain ∧ ¬ i < j
          ∧ eventKey types dial = (1, "game::Dial")
          ∧ eventKey types gauge = (1, "game::Gauge") := by
  have written : WrittenInOrder gauges := by decide +kernel
  have found : ∃ gauge ∈ eventTypesAsWritten gauges, ∃ dial ∈ eventTypesAsWritten gauges,
      (eventTypesAsWritten gauges)[2]? = some gauge
        ∧ (eventTypesAsWritten gauges)[1]? = some dial ∧ gauge.fullName ∈ dial.chain
        ∧ eventKey (eventTypesAsWritten gauges) dial = (1, "game::Dial")
        ∧ eventKey (eventTypesAsWritten gauges) gauge = (1, "game::Gauge") := by
    decide +kernel
  obtain ⟨gauge, listed, dial, listed', at2, at1, inChain, keys⟩ := found
  exact ⟨written.1, _, eventTypes_asWritten written, gauge, listed, dial, listed', 2, 1, at2,
    at1, inChain, by decide, keys⟩

/-- The gauge stands behind the device, which is not in auto-notify mode,
and it is the last member of the dial's chain. -/
theorem device_before_gauge :
    ∃ types, (eventTypes gauges).value = .ok types
      ∧ ∃ device ∈ types, ∃ gauge ∈ types, ∃ dial ∈ types,
        device.fullName ∈ gauge.chain ∧ embedsNothing gauges device.fullName = false
          ∧ (∃ i j : Nat, types[i]? = some device ∧ types[j]? = some gauge ∧ i < j)
          ∧ gauge.fullName ∈ dial.chain ∧ embedsNothing gauges gauge.fullName = true
          ∧ dial.chain.getLast? = some gauge.fullName := by
  have written : WrittenInOrder gauges := by decide +kernel
  have run := eventTypes_asWritten written
  have found : ∃ device ∈ eventTypesAsWritten gauges, ∃ gauge ∈ eventTypesAsWritten gauges,
      ∃ dial ∈ eventTypesAsWritten gauges,
        (eventTypesAsWritten gauges)[0]? = some device
          ∧ (eventTypesAsWritten gauges)[2]? = some gauge
          ∧ (eventTypesAsWritten gauges)[1]? = some dial
          ∧ device.fullName ∈ gauge.chain ∧ embedsNothing gauges device.fullName = false
          ∧ gauge.fullName ∈ dial.chain ∧ embedsNothing gauges gauge.fullName = true := by
    decide +kernel
  obtain ⟨device, listed, gauge, listed', dial, listed'', at0, at2, at1, inGauge, embeds,
    inDial, flat⟩ := found
  obtain ⟨-, inOrder⟩ := eventTypes_in_order written.1 run
  exact ⟨_, run, device, listed, gauge, listed', dial, listed'', inGauge, embeds,
    ⟨0, 2, at0, at2, (inOrder 0 2 _ _ at0 at2 inGauge).1 embeds⟩, inDial, flat,
    ((inOrder 2 1 _ _ at2 at1 inDial).2 flat).1⟩

end DataBinding
