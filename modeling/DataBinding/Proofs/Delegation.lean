/-
Delegation reaches what metadata lists. A generated method first calls the
same method on the nearest listed ancestor, which does the same in turn.
Each type knows only its own hop, as a depth in its own chain; metadata,
in contrast, is merged from whole chains. Both see the same types and the
same properties.

# Why the hops miss nobody

A hop leads to the first listed member of the chain, and behind that
member stands its own chain, so the next hop leads to the next listed
member, and so on to the end. The induction is on the listed members of
the chain (`delegatesAlong_of_listed`); where the last one is reached no
depth is recorded.

# Why both agree on properties

Whatever is visited is listed and stands in the chain, so its accessors
are among the direct offers, and an offer is lost only to another of its
name. Conversely an entry with a field comes from an accessor of the type
or of a listed member of its chain; everything else is written by hand.
-/
import DataBinding.Proofs.Owners

namespace DataBinding

variable {schema : Schema} {options : Options} {analysis : Analysis}

-- ============================================================ one hop

section Depth

variable {holds : String → Bool}

/-- Where no member has the property there is no depth. -/
theorem depthWhere_eq_none {chain : List String}
    (nobody : ∀ name ∈ chain, ¬ holds name = true) : depthWhere holds chain = none := by
  unfold depthWhere
  rw [List.findIdx?_eq_none_iff.2 fun name inside => Bool.eq_false_iff.2 (nobody name inside)]
  rfl

/-- The depth of the first member with the property. -/
theorem depthWhere_split {before : List String} {name : String}
    (nobody : ∀ nearer ∈ before, ¬ holds nearer = true) (here : holds name = true)
    (after : List String) :
    depthWhere holds (before ++ name :: after) = some (before.length + 1) := by
  have skipped : before.findIdx? holds = none :=
    List.findIdx?_eq_none_iff.2 fun nearer inside => Bool.eq_false_iff.2 (nobody nearer inside)
  unfold depthWhere
  rw [List.findIdx?_append, skipped, List.findIdx?_cons, here]
  simp

end Depth

/-- The type that a type's generated methods call first: the one at the
recorded depth. The direct base has depth 1. -/
def delegateOf? (types : List TypeDescriptor) (type : TypeDescriptor) :
    Option TypeDescriptor :=
  type.ancestorDepth.bind fun depth =>
    type.chain[depth - 1]?.bind fun name => types.find? (·.fullName == name)

/-- Calls that start at a type go along the given types, nearest first. A
depth that leads to no listed type would leave the calls nowhere to go. -/
inductive DelegatesAlong (types : List TypeDescriptor) :
    TypeDescriptor → List TypeDescriptor → Prop
  | stops {type : TypeDescriptor} (alone : type.ancestorDepth = none) :
      DelegatesAlong types type []
  | hops {type next : TypeDescriptor} {farther : List TypeDescriptor}
      (delegates : delegateOf? types type = some next)
      (onward : DelegatesAlong types next farther) :
      DelegatesAlong types type (next :: farther)

namespace DelegatesAlong

variable {types visited others : List TypeDescriptor} {type : TypeDescriptor}

/-- There is one way to go. -/
theorem unique (along : DelegatesAlong types type visited)
    (alongOthers : DelegatesAlong types type others) : visited = others := by
  induction along generalizing others with
  | stops alone =>
    cases alongOthers with
    | stops => rfl
    | hops delegates =>
      unfold delegateOf? at delegates
      rw [alone] at delegates
      cases delegates
  | hops delegates _ ih =>
    cases alongOthers with
    | stops alone =>
      unfold delegateOf? at delegates
      rw [alone] at delegates
      cases delegates
    | hops delegates' onward =>
      rw [delegates] at delegates'
      cases delegates'
      rw [ih onward]

/-- Only listed types are visited. -/
theorem listed (along : DelegatesAlong types type visited) : visited ⊆ types := by
  induction along with
  | stops => exact List.nil_subset types
  | hops delegates _ ih =>
    obtain ⟨_, -, found⟩ := Option.bind_eq_some_iff.1 delegates
    obtain ⟨_, -, found⟩ := Option.bind_eq_some_iff.1 found
    exact List.cons_subset.2 ⟨List.mem_of_find?_eq_some found, ih⟩

end DelegatesAlong

-- ============================================================ all hops

/-- Whether a name is that of a listed type. -/
def isListed (types : List TypeDescriptor) (name : String) : Bool :=
  types.any (·.fullName == name)

theorem isListed_of_mem {types : List TypeDescriptor} {type : TypeDescriptor}
    (listed : type ∈ types) : isListed types type.fullName = true :=
  List.any_eq_true.2 ⟨type, listed, beq_self_eq_true type.fullName⟩

/-- The recorded depth leads to the nearest listed member of the chain. -/
theorem depth_of_listed (run : analyze schema options = .ok analysis)
    {type : TypeDescriptor} (listed : type ∈ analysis.types) :
    type.ancestorDepth = depthWhere (isListed analysis.types) type.chain := by
  have depth := (linked_of_analyze run).depth type.toTypeOutline (List.mem_map_of_mem listed)
  simp only [List.any_map] at depth
  exact depth

/-- A hop goes to the first listed member of the chain. -/
theorem delegateOf?_of_split (run : analyze schema options = .ok analysis)
    {type ancestor : TypeDescriptor} (listed : type ∈ analysis.types)
    (listedAncestor : ancestor ∈ analysis.types) {before after : List String}
    (split : type.chain = before ++ ancestor.fullName :: after)
    (nobody : ∀ nearer ∈ before, ¬ isListed analysis.types nearer = true) :
    delegateOf? analysis.types type = some ancestor := by
  have depth := depth_of_listed run listed
  rw [split, depthWhere_split nobody (isListed_of_mem listedAncestor)] at depth
  have member : type.chain[before.length + 1 - 1]? = some ancestor.fullName := by
    rw [split, Nat.add_sub_cancel, List.getElem?_append_right (Nat.le_refl _), Nat.sub_self]
    rfl
  unfold delegateOf?
  rw [depth, Option.bind_some, member, Option.bind_some]
  exact (find?_fullName (distinct_of_analyze run)).2 ⟨listedAncestor, rfl⟩

/-- The calls go along the listed members of the chain. -/
theorem delegatesAlong_of_listed (run : analyze schema options = .ok analysis)
    {type : TypeDescriptor} (listed : type ∈ analysis.types) :
    ∃ visited, DelegatesAlong analysis.types type visited
      ∧ visited.map (·.fullName) = type.chain.filter (isListed analysis.types) := by
  generalize names : type.chain.filter (isListed analysis.types) = members
  induction members generalizing type with
  | nil =>
    have depth := depth_of_listed run listed
    rw [depthWhere_eq_none (List.filter_eq_nil_iff.1 names)] at depth
    exact ⟨[], .stops depth, rfl⟩
  | cons name rest ih =>
    obtain ⟨before, after, split, nobody, here, behind⟩ := List.filter_eq_cons_iff.1 names
    obtain ⟨ancestor, listedAncestor, named⟩ := List.any_eq_true.1 here
    have same : ancestor.fullName = name := by simpa using named
    subst same
    rw [← chain_of_ancestor run listed listedAncestor split] at behind
    obtain ⟨visited, along, visitedNames⟩ := ih listedAncestor behind
    refine ⟨ancestor :: visited, .hops ?_ along, ?_⟩
    · exact delegateOf?_of_split run listed listedAncestor split nobody
    · rw [List.map_cons, visitedNames]

-- ============================================================ metadata

/-- An entry of the direct offers is either an accessor of the type itself,
or written by hand, or handed down by a listed member of the chain. -/
theorem mem_directOffers {types : List TypeDescriptor} {type : TypeDescriptor}
    {entry : Property} (offered : entry ∈ directOffers schema types type) :
    entry ∈ type.accessors
      ∨ (∃ isFromAncestor owner, entry ∈ handWrittenOf schema isFromAncestor owner)
      ∨ ∃ name ∈ type.chain, entry ∈ ownHandedDown types name := by
  unfold directOffers nearOffers at offered
  rcases List.mem_append.1 offered with near | handedDown
  · rcases List.mem_append.1 near with nearer | fromAncestor
    · rcases List.mem_append.1 nearer with own | declared
      · exact Or.inl own
      · exact Or.inr (Or.inl ⟨false, type.fullName, declared⟩)
    · obtain ⟨owner, -, inside⟩ := List.mem_flatMap.1 fromAncestor
      exact Or.inr (Or.inl ⟨true, owner, inside⟩)
  · exact Or.inr (Or.inr (List.mem_flatMap.1 handedDown))

/-- No name is lost from the direct offers. -/
theorem name_of_offer (run : analyze schema options = .ok analysis)
    {type : TypeDescriptor} (listed : type ∈ analysis.types)
    (bindable : type.mode.isBindable = true) {entry : Property}
    (offered : entry ∈ directOffers schema analysis.types type) :
    entry.name ∈ type.merged.map Property.name := by
  rw [merged_of_direct run listed bindable, mem_keys_firstOffers]
  exact ⟨List.mem_map_of_mem offered, List.not_mem_nil⟩

/-- The accessors of a type and of the listed members of its chain are
known to metadata by name. -/
theorem name_of_accessor (run : analyze schema options = .ok analysis)
    {type reached : TypeDescriptor} (listed : type ∈ analysis.types)
    (bindable : type.mode.isBindable = true)
    (reachable : reached = type ∨ reached ∈ analysis.types ∧ reached.fullName ∈ type.chain)
    {accessor : Property} (among : accessor ∈ reached.accessors) :
    accessor.name ∈ type.merged.map Property.name := by
  rcases reachable with rfl | ⟨listedToo, inChain⟩
  · refine name_of_offer run listed bindable ?_
    unfold directOffers nearOffers
    exact List.mem_append_left _ (List.mem_append_left _ (List.mem_append_left _ among))
  · have offered : accessor.inherited ∈ directOffers schema analysis.types type := by
      unfold directOffers
      refine List.mem_append_right _ (List.mem_flatMap.2 ⟨reached.fullName, inChain, ?_⟩)
      rw [(handedDown_of_listed run listedToo).2]
      exact List.mem_map_of_mem among
    have known := name_of_offer run listed bindable offered
    rw [name_inherited] at known
    exact known

/-- What is written by hand has no field. -/
theorem fieldName?_of_handWritten {isFromAncestor : Bool} {owner : String} {entry : Property}
    (inside : entry ∈ handWrittenOf schema isFromAncestor owner) : entry.fieldName? = none := by
  obtain ⟨decl, written, -, -, offer⟩ := mem_handWrittenOf inside
  obtain ⟨-, -, -, noField, -⟩ := handWritten?_eq_some offer
  exact noField

/-- An entry with a field is an accessor of the type it belongs to: the
type itself, or a listed member of its chain. -/
theorem accessor_of_entry (run : analyze schema options = .ok analysis)
    {type : TypeDescriptor} (listed : type ∈ analysis.types)
    (bindable : type.mode.isBindable = true) {entry : Property}
    (inside : entry ∈ type.merged) (withField : entry.fieldName?.isSome = true) :
    (entry.owner = type.fullName ∧ entry ∈ type.accessors)
      ∨ ∃ ancestor ∈ analysis.types, ancestor.fullName ∈ type.chain
        ∧ entry.owner = ancestor.fullName
        ∧ ∃ accessor ∈ ancestor.accessors, entry = accessor.inherited := by
  rw [merged_of_direct run listed bindable] at inside
  have offered := (firstOffers_sublist [] _).subset inside
  rcases mem_directOffers offered with own | ⟨_, _, byHand⟩ | ⟨name, inChain, handedDown⟩
  · exact Or.inl ⟨owner_of_accessor run listed own, own⟩
  · rw [fieldName?_of_handWritten byHand] at withField
    cases withField
  · obtain ⟨ancestor, listedAncestor, rfl, accessor, among, rfl⟩ :=
      mem_ownHandedDown handedDown
    have owned := owner_of_accessor run listedAncestor among
    exact Or.inr ⟨ancestor, listedAncestor, inChain, owned, accessor, among, rfl⟩

/-- Bindable or not, an entry with a field is seen through an accessor of a
listed type, and unless that is the type itself, it is from an ancestor. -/
theorem accessor_behind_entry (run : analyze schema options = .ok analysis)
    {type : TypeDescriptor} (listed : type ∈ analysis.types) {entry : Property}
    (inside : entry ∈ type.merged) (withField : entry.fieldName?.isSome = true) :
    entry ∈ type.accessors
      ∨ ∃ ancestor ∈ analysis.types, ∃ accessor ∈ ancestor.accessors,
          entry = accessor.inherited := by
  cases bindable : type.mode.isBindable with
  | false =>
    rw [merged_of_autoNotify run listed bindable] at inside
    exact Or.inl inside
  | true =>
    rcases accessor_of_entry run listed bindable inside withField with
      ⟨-, own⟩ | ⟨ancestor, listedAncestor, -, -, handedDown⟩
    · exact Or.inl own
    · exact Or.inr ⟨ancestor, listedAncestor, handedDown⟩

-- ============================================================ agreement

/-- Types that are listed under the names of the listed members of a chain
are those members. -/
theorem mem_of_names (run : analyze schema options = .ok analysis) {chain : List String}
    {visited : List TypeDescriptor} (visitedListed : visited ⊆ analysis.types)
    (names : visited.map (·.fullName) = chain.filter (isListed analysis.types))
    (ancestor : TypeDescriptor) :
    ancestor ∈ visited ↔ ancestor ∈ analysis.types ∧ ancestor.fullName ∈ chain := by
  constructor
  · intro inside
    have member : ancestor.fullName ∈ visited.map (·.fullName) := List.mem_map_of_mem inside
    rw [names] at member
    exact ⟨visitedListed inside, List.mem_of_mem_filter member⟩
  · rintro ⟨listedAncestor, inChain⟩
    have member := List.mem_filter.2 ⟨inChain, isListed_of_mem listedAncestor⟩
    rw [← names] at member
    obtain ⟨reached, inside, same⟩ := List.mem_map.1 member
    rw [← List.inj_on_of_nodup_map (distinct_of_analyze run) (visitedListed inside)
      listedAncestor same]
    exact inside

/-- Delegation and metadata agree. From a bindable type the generated calls
go along the listed members of its chain, all of them, each once and in the
order of the chain, and there is no other way for them to go. Every
accessor that they reach is listed by name in the metadata of the type; and
every entry there that has a field is an accessor of the type itself, or,
as inherited, of a type that the calls visit. -/
theorem delegation_agrees (run : analyze schema options = .ok analysis)
    {type : TypeDescriptor} (listed : type ∈ analysis.types)
    (bindable : type.mode.isBindable = true) :
    ∃ visited, DelegatesAlong analysis.types type visited
      ∧ (∀ others, DelegatesAlong analysis.types type others → others = visited)
      ∧ visited ⊆ analysis.types
      ∧ visited.map (·.fullName) = type.chain.filter (isListed analysis.types)
      ∧ (visited.map (·.fullName)).Nodup
      ∧ (∀ reached ∈ type :: visited, ∀ accessor ∈ reached.accessors,
          accessor.name ∈ type.merged.map Property.name)
      ∧ ∀ entry ∈ type.merged, entry.fieldName?.isSome = true →
          (entry.owner = type.fullName ∧ entry ∈ type.accessors)
            ∨ ∃ reached ∈ visited, entry.owner = reached.fullName
              ∧ ∃ accessor ∈ reached.accessors, entry = accessor.inherited := by
  obtain ⟨visited, along, names⟩ := delegatesAlong_of_listed run listed
  have members := mem_of_names run along.listed names
  have unique : ∀ others, DelegatesAlong analysis.types type others → others = visited :=
    fun others alongOthers => alongOthers.unique along
  refine ⟨visited, along, unique, along.listed, names, ?_, ?_, ?_⟩
  · rw [names]
    exact (chain_nodup run listed).sublist List.filter_sublist
  · intro reached inside accessor among
    refine name_of_accessor run listed bindable ?_ among
    rcases List.mem_cons.1 inside with rfl | farther
    · exact Or.inl rfl
    · exact Or.inr ((members reached).1 farther)
  · intro entry inside withField
    rcases accessor_of_entry run listed bindable inside withField with own | inherited
    · exact Or.inl own
    · obtain ⟨ancestor, listedAncestor, inChain, rest⟩ := inherited
      exact Or.inr ⟨ancestor, (members ancestor).2 ⟨listedAncestor, inChain⟩, rest⟩

/-- The shaman's calls go to the orc and from there, past the plain mob, to
the actor. -/
theorem family_delegation_agrees :
    ∃ analysis, analyze family {} = .ok analysis
      ∧ ∃ shaman ∈ analysis.types, shaman.mode.isBindable = true
        ∧ shaman.chain = ["game::Orc", "game::Mob", "game::Actor"]
        ∧ ∃ visited, DelegatesAlong analysis.types shaman visited
          ∧ visited.map (·.fullName) = ["game::Orc", "game::Actor"] := by
  obtain ⟨analysis, run, types⟩ := analyze_family
  have found : ∃ shaman ∈ familyTypes, shaman.mode.isBindable = true
      ∧ shaman.chain = ["game::Orc", "game::Mob", "game::Actor"]
      ∧ shaman.chain.filter (isListed familyTypes) = ["game::Orc", "game::Actor"] := by
    decide +kernel
  rw [← types] at found
  obtain ⟨shaman, listed, bindable, chain, members⟩ := found
  obtain ⟨visited, along, -, -, names, -, -⟩ := delegation_agrees run listed bindable
  exact ⟨analysis, run, shaman, listed, bindable, chain, visited, along, names.trans members⟩

end DataBinding
