/-
Whose property a merged entry is. Of the types that offer a name, the
merged list takes one, and which one depends on how they offer it:

- a type's own accessor hides everything else of its name;
- otherwise the nearest type that writes the name by hand has it, the type
  itself included;
- otherwise the nearest ancestor that generates it.

So the nearest type wins among those that write a name by hand, and among
those that generate it. Between the two kinds it need not: what is written
by hand, however far along the chain, comes before what a nearer ancestor
generates.

# Method

First offers look for the first item of a name (`find?_firstOffers`), and
a list of offers made by several owners in turn is searched owner by owner
(`owner_find?_flatMap`). It remains to say when an owner offers a name in
each of the parts that `directOffers` is made of.
-/
import DataBinding.Proofs.Extraction
import Mathlib.Data.List.Find

namespace DataBinding

variable {schema : Schema} {options : Options} {analysis : Analysis}

-- ============================================================= offering

/-- A type writes a name by hand when its declaration has an offered
property of that name. -/
def writesByHand (schema : Schema) (name owner : String) : Bool :=
  (schema.typeDecl? owner).any fun decl =>
    decl.properties.any fun property =>
      property.name == name && isOffered schema decl.scope property

/-- A type generates a name when it is listed with an accessor of that
name. -/
def generates (types : List TypeDescriptor) (name owner : String) : Bool :=
  (types.find? (·.fullName == owner)).any fun type =>
    type.accessors.any (·.name == name)

/-- A type offers a name in either way. -/
def offers (schema : Schema) (types : List TypeDescriptor) (name owner : String) : Bool :=
  generates types name owner || writesByHand schema name owner

/-- Hand-written offers of a name, seen from anywhere. -/
theorem any_handWrittenOf (isFromAncestor : Bool) (name owner : String) :
    (handWrittenOf schema isFromAncestor owner).any (·.name == name)
      = writesByHand schema name owner := by
  unfold handWrittenOf writesByHand
  cases schema.typeDecl? owner with
  | none => rfl
  | some decl =>
    rw [Option.any_some, List.any_filterMap]
    congr 1
    funext property
    have isSome := @handWritten?_isSome schema owner decl.scope isFromAncestor property
    cases offer : handWritten? schema owner decl.scope isFromAncestor property with
    | none =>
      rw [← isSome, offer]
      exact (Bool.and_false _).symm
    | some entry =>
      obtain ⟨offered, named, -, -, -⟩ := handWritten?_eq_some offer
      rw [offered, Bool.and_true, ← named]

/-- Accessors of a name, seen from a derived type. -/
theorem any_ownHandedDown (types : List TypeDescriptor) (name owner : String) :
    (ownHandedDown types owner).any (·.name == name) = generates types name owner := by
  unfold ownHandedDown generates
  cases types.find? (·.fullName == owner) with
  | none => rfl
  | some type =>
    rw [Option.any_some]
    dsimp only
    rw [List.any_map]
    rfl

-- =============================================================== owners

/-- The accessors of a type belong to it. -/
theorem owner_of_accessor (run : analyze schema options = .ok analysis)
    {type : TypeDescriptor} (listed : type ∈ analysis.types) {entry : Property}
    (inside : entry ∈ type.accessors) : entry.owner = type.fullName := by
  obtain ⟨_, _, -, made, rfl⟩ := own_of_analyze run listed (List.mem_of_mem_filter inside)
  exact made.owner

/-- Hand-written offers belong to the type they are asked of. -/
theorem owner_of_handWritten {isFromAncestor : Bool} {owner : String} {entry : Property}
    (inside : entry ∈ handWrittenOf schema isFromAncestor owner) : entry.owner = owner := by
  obtain ⟨decl, written, -, -, offer⟩ := mem_handWrittenOf inside
  obtain ⟨-, -, named, -, -⟩ := handWritten?_eq_some offer
  exact named

/-- What is handed down of a type's accessors belongs to that type. -/
theorem mem_ownHandedDown {types : List TypeDescriptor} {name : String} {entry : Property}
    (inside : entry ∈ ownHandedDown types name) :
    ∃ type ∈ types, type.fullName = name
      ∧ ∃ accessor ∈ type.accessors, accessor.inherited = entry := by
  cases found : types.find? (·.fullName == name) with
  | none =>
    rw [(handedDown_of_not_listed found).2] at inside
    cases inside
  | some type =>
    unfold ownHandedDown at inside
    rw [found] at inside
    have named := List.find?_some found
    exact ⟨type, List.mem_of_find?_eq_some found, by simpa using named,
      List.mem_map.1 inside⟩

/-- Searching what several owners offer in turn is searching the owners. -/
theorem owner_find?_flatMap {offer : String → List Property} {chain : List String}
    (owned : ∀ owner ∈ chain, ∀ entry ∈ offer owner, entry.owner = owner) (name : String) :
    ((chain.flatMap offer).find? (·.name == name)).map Property.owner
      = chain.find? fun owner => (offer owner).any (·.name == name) := by
  induction chain with
  | nil => rfl
  | cons owner rest ih =>
    rw [List.flatMap_cons, List.find?_append, Option.map_or,
      ih fun farther inside => owned farther (List.mem_cons_of_mem owner inside)]
    cases found : (offer owner).find? (·.name == name) with
    | none =>
      have nothing : (offer owner).any (·.name == name) = false := by
        rw [List.any_eq_false]
        exact List.find?_eq_none.1 found
      rw [List.find?_cons, nothing]
      rfl
    | some entry =>
      have something : (offer owner).any (·.name == name) = true :=
        List.any_eq_true.2 ⟨entry, List.mem_of_find?_eq_some found, by
          simpa using List.find?_some found⟩
      rw [List.find?_cons, something, Option.map_some,
        owned owner List.mem_cons_self entry (List.mem_of_find?_eq_some found)]
      rfl

-- ======================================================= who owns a name

/-- Of weaker and stronger tests along a list, the first item to pass the
weaker one is the first to pass the stronger one if it passes that too. -/
theorem find?_of_weaker {weak strong : String → Bool} {owners : List String} {owner : String}
    (weaker : ∀ other, strong other = true → weak other = true)
    (first : owners.find? weak = some owner) (passes : strong owner = true) :
    owners.find? strong = some owner := by
  induction owners with
  | nil => cases first
  | cons nearest rest ih =>
    by_cases near : weak nearest = true
    · rw [List.find?_cons_of_pos near] at first
      cases first
      exact List.find?_cons_of_pos passes
    · rw [List.find?_cons_of_neg near] at first
      rw [List.find?_cons_of_neg fun strongToo => near (weaker nearest strongToo)]
      exact ih first

/-- Who has a name in the offers that a merged list is made of. -/
theorem owner_find?_directOffers (run : analyze schema options = .ok analysis)
    {type : TypeDescriptor} (listed : type ∈ analysis.types) (name : String) :
    ((directOffers schema analysis.types type).find? (·.name == name)).map Property.owner
      = if generates analysis.types name type.fullName then some type.fullName
        else ((type.fullName :: type.chain).find? (writesByHand schema name)).or
          (type.chain.find? (generates analysis.types name)) := by
  have own : (type.accessors.find? (·.name == name)).map Property.owner
      = if generates analysis.types name type.fullName then some type.fullName else none := by
    have alone := @owner_find?_flatMap (fun _ => type.accessors) [type.fullName]
      (fun owner inside entry among => by
        rw [List.mem_singleton.1 inside]
        exact owner_of_accessor run listed among) name
    rw [List.flatMap_singleton, List.find?_singleton] at alone
    have itself := (find?_fullName (distinct_of_analyze run)).2 ⟨listed, rfl⟩
    unfold generates
    rw [itself, alone]
    rfl
  have byHand : ∀ (isFromAncestor : Bool) (chain : List String),
      ((chain.flatMap (handWrittenOf schema isFromAncestor)).find?
          (·.name == name)).map Property.owner
        = chain.find? (writesByHand schema name) := by
    intro isFromAncestor chain
    rw [owner_find?_flatMap fun owner _ entry inside => owner_of_handWritten inside]
    simp only [any_handWrittenOf]
  have handedDown : ((type.chain.flatMap (ownHandedDown analysis.types)).find?
          (·.name == name)).map Property.owner
        = type.chain.find? (generates analysis.types name) := by
    rw [owner_find?_flatMap fun owner _ entry inside => by
      obtain ⟨ancestor, listedAncestor, rfl, accessor, among, rfl⟩ := mem_ownHandedDown inside
      have owned := owner_of_accessor run listedAncestor among
      exact owned]
    simp only [any_ownHandedDown]
  have alone := byHand false [type.fullName]
  rw [List.flatMap_singleton] at alone
  unfold directOffers nearOffers
  rw [List.find?_append, List.find?_append, List.find?_append, Option.map_or, Option.map_or,
    Option.map_or, own, alone, byHand, handedDown]
  cases generates analysis.types name type.fullName with
  | true => rfl
  | false =>
    rw [← @List.singleton_append _ type.fullName type.chain, List.find?_append]
    rfl

/-- A name that nobody writes by hand is offered by those who generate it. -/
theorem nearest_generates {types : List TypeDescriptor} {name : String}
    {owners : List String}
    (nobody : ∀ owner ∈ owners, writesByHand schema name owner = false) :
    owners.find? (offers schema types name) = owners.find? (generates types name) := by
  refine List.find?_congr fun owner inside => ?_
  unfold offers
  rw [nobody owner inside, Bool.or_false]

/-- Of a name that somebody writes by hand, the nearest to write it is the
nearest to offer it exactly when the latter writes it by hand. -/
theorem nearest_writes {types : List TypeDescriptor} {name writer : String}
    {owners : List String} (written : owners.find? (writesByHand schema name) = some writer) :
    some writer = owners.find? (offers schema types name) ↔
      ∀ owner, owners.find? (offers schema types name) = some owner →
        writesByHand schema name owner = true := by
  have weaker : ∀ other, writesByHand schema name other = true →
      offers schema types name other = true := by
    intro other writes
    unfold offers
    rw [writes, Bool.or_true]
  constructor
  · intro same owner nearest
    rw [nearest] at same
    cases same
    exact List.find?_some written
  · intro byHand
    cases nearest : owners.find? (offers schema types name) with
    | none =>
      have nobody := List.find?_eq_none.1 nearest writer (List.mem_of_find?_eq_some written)
      exact absurd (weaker writer (List.find?_some written)) nobody
    | some owner =>
      rw [← written]
      exact find?_of_weaker weaker nearest (byHand owner nearest)

section Nearest

variable {types : List TypeDescriptor} {name fullName : String} {chain : List String}

/-- When the order in which a merged list prefers offers leads to the
nearest type to offer a name. -/
theorem nearest_iff :
    (if generates types name fullName then some fullName
      else ((fullName :: chain).find? (writesByHand schema name)).or
        (chain.find? (generates types name)))
      = (fullName :: chain).find? (offers schema types name)
    ↔ generates types name fullName = true
      ∨ (∀ owner, (fullName :: chain).find? (offers schema types name) = some owner →
          writesByHand schema name owner = true)
      ∨ ∀ owner ∈ fullName :: chain, writesByHand schema name owner = false := by
  cases own : generates types name fullName with
  | true =>
    have itself : offers schema types name fullName = true := by
      unfold offers
      rw [own, Bool.true_or]
    rw [if_pos rfl, List.find?_cons_of_pos itself]
    exact iff_of_true rfl (Or.inl rfl)
  | false =>
    have notOwn : ¬ generates types name fullName = true := by
      rw [own]
      exact Bool.false_ne_true
    rw [if_neg Bool.false_ne_true]
    cases written : (fullName :: chain).find? (writesByHand schema name) with
    | none =>
      have nobody : ∀ owner ∈ fullName :: chain, writesByHand schema name owner = false := by
        intro owner inside
        exact Bool.eq_false_iff.2 (List.find?_eq_none.1 written owner inside)
      rw [nearest_generates nobody, List.find?_cons_of_neg notOwn, Option.none_or]
      exact iff_of_true rfl (Or.inr (Or.inr nobody))
    | some writer =>
      rw [Option.some_or, nearest_writes written]
      constructor
      · intro byHand
        exact Or.inr (Or.inl byHand)
      · rintro (impossible | byHand | nobody)
        · cases impossible
        · exact byHand
        · have writes := List.find?_some written
          rw [nobody writer (List.mem_of_find?_eq_some written)] at writes
          cases writes

end Nearest

/-- Who has a name in the merged list of a bindable type. -/
theorem owner_of_merged? (run : analyze schema options = .ok analysis)
    {type : TypeDescriptor} (listed : type ∈ analysis.types)
    (bindable : type.mode.isBindable = true) (name : String) :
    (type.merged? name).map Property.owner
      = if generates analysis.types name type.fullName then some type.fullName
        else ((type.fullName :: type.chain).find? (writesByHand schema name)).or
          (type.chain.find? (generates analysis.types name)) := by
  unfold TypeDescriptor.merged?
  rw [merged_of_direct run listed bindable, find?_firstOffers List.not_mem_nil]
  exact owner_find?_directOffers run listed name

/-- The entry of a name in the merged list of a bindable type belongs to
the type itself if that has an accessor of the name; otherwise to the
nearest type, itself included, that writes the name by hand; otherwise to
the nearest listed ancestor with an accessor of the name. That is the
nearest of all types that offer the name exactly when the type has an
accessor, or the nearest one to offer the name writes it by hand, or no
one does. -/
theorem owner_of_entry (run : analyze schema options = .ok analysis)
    {type : TypeDescriptor} (listed : type ∈ analysis.types)
    (bindable : type.mode.isBindable = true) (name : String) :
    let types := analysis.types
    let owners := type.fullName :: type.chain
    (type.merged? name).map Property.owner
        = (if generates types name type.fullName then some type.fullName
          else (owners.find? (writesByHand schema name)).or
            (type.chain.find? (generates types name)))
      ∧ ((type.merged? name).map Property.owner = owners.find? (offers schema types name)
          ↔ generates types name type.fullName = true
            ∨ (∀ owner, owners.find? (offers schema types name) = some owner →
                writesByHand schema name owner = true)
            ∨ ∀ owner ∈ owners, writesByHand schema name owner = false) := by
  intro types owners
  have ownerIs := owner_of_merged? run listed bindable name
  refine ⟨ownerIs, ?_⟩
  rw [ownerIs]
  exact nearest_iff

-- ============================================================= a family

/-- The rage of the shaman: the orc, which is nearer, generates it, but the
mob writes it by hand. -/
theorem family_rage_from_afar :
    ∃ analysis, analyze family {} = .ok analysis
      ∧ ∃ shaman ∈ analysis.types, shaman.fullName = "game::Shaman"
        ∧ shaman.mode.isBindable = true
        ∧ (shaman.merged? "Rage").map Property.owner = some "game::Mob"
        ∧ (shaman.fullName :: shaman.chain).find? (offers family analysis.types "Rage")
          = some "game::Orc" := by
  obtain ⟨analysis, run, types⟩ := analyze_family
  have found : ∃ shaman ∈ familyTypes, shaman.fullName = "game::Shaman"
      ∧ shaman.mode.isBindable = true
      ∧ (shaman.merged? "Rage").map Property.owner = some "game::Mob"
      ∧ (shaman.fullName :: shaman.chain).find? (offers family familyTypes "Rage")
        = some "game::Orc" := by
    decide +kernel
  rw [← types] at found
  exact ⟨analysis, run, found⟩

/-- The orc has an accessor of its own and hides the mob's rage. -/
theorem family_owner_of_entry :
    ∃ analysis, analyze family {} = .ok analysis
      ∧ ∃ orc ∈ analysis.types, orc.fullName = "game::Orc" ∧ orc.mode.isBindable = true
        ∧ (orc.merged? "Rage").map Property.owner = some "game::Orc"
        ∧ (orc.merged? "Rage").map Property.owner
          = (orc.fullName :: orc.chain).find? (offers family analysis.types "Rage") := by
  obtain ⟨analysis, run, types⟩ := analyze_family
  have found : ∃ orc ∈ familyTypes, orc.fullName = "game::Orc" ∧ orc.mode.isBindable = true
      ∧ generates familyTypes "Rage" orc.fullName = true := by
    decide +kernel
  rw [← types] at found
  obtain ⟨orc, listed, named, bindable, own⟩ := found
  obtain ⟨ownerIs, nearest⟩ := owner_of_entry run listed bindable "Rage"
  refine ⟨analysis, run, orc, listed, named, bindable, ?_, nearest.2 (Or.inl own)⟩
  rw [ownerIs, if_pos own, named]

end DataBinding
