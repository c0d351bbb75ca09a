/-
How the listed types lie to one another: names are distinct, every type
comes after its listed ancestors, and behind a listed ancestor in a chain
stands that ancestor's own chain. These facts are gathered in `Linked`,
which speaks of a list of outlines alone and no longer of the schema they
come from; whatever is computed along the list afterwards rests on them.

# Why the order is right

The list is sorted by rank, the number of listed members of a type's
chain. Behind a listed ancestor stands the ancestor's chain, so whatever
counts for the ancestor counts for the descendant, and the ancestor
counts besides: ranks grow strictly along inheritance
(`Linked.rank_lt`), and a sorted list never puts the larger rank first
(`index_lt_of_rank_lt`).
-/
import DataBinding.Proofs.Outline
import Mathlib.Data.List.Nodup

namespace DataBinding

variable {schema : Schema}

-- ============================================================== sorting

theorem comesBefore_trans (a b c : Nat × String) (first : comesBefore a b = true)
    (second : comesBefore b c = true) : comesBefore a c = true := by
  simp only [comesBefore, Bool.or_eq_true, Bool.and_eq_true, decide_eq_true_eq,
    beq_iff_eq] at first second ⊢
  rcases first with lt | ⟨eq, le⟩
  · rcases second with lt' | ⟨eq', -⟩
    · exact Or.inl (Nat.lt_trans lt lt')
    · exact Or.inl (eq' ▸ lt)
  · rcases second with lt' | ⟨eq', le'⟩
    · exact Or.inl (eq ▸ lt')
    · exact Or.inr ⟨eq.trans eq', String.le_trans le le'⟩

theorem comesBefore_total (a b : Nat × String) :
    (comesBefore a b || comesBefore b a) = true := by
  simp only [comesBefore, Bool.or_eq_true, Bool.and_eq_true, decide_eq_true_eq,
    beq_iff_eq]
  rcases Nat.lt_trichotomy a.1 b.1 with lt | eq | gt
  · exact Or.inl (Or.inl lt)
  · rcases String.le_total a.2 b.2 with le | ge
    · exact Or.inl (Or.inr ⟨eq, le⟩)
    · exact Or.inr (Or.inr ⟨eq.symm, ge⟩)
  · exact Or.inr (Or.inl gt)

/-- Of two different keys only one comes first. -/
theorem comesBefore_antisymm {a b : Nat × String} (first : comesBefore a b = true)
    (second : comesBefore b a = true) : a = b := by
  simp only [comesBefore, Bool.or_eq_true, Bool.and_eq_true, decide_eq_true_eq,
    beq_iff_eq] at first second
  have sameNumber : a.1 = b.1 := by omega
  have le : a.2 ≤ b.2 := by
    rcases first with less | ⟨-, le⟩
    · omega
    · exact le
  have ge : b.2 ≤ a.2 := by
    rcases second with less | ⟨-, ge⟩
    · omega
    · exact ge
  exact Prod.ext sameNumber (String.le_antisymm le ge)

/-- What comes first has no larger number. -/
theorem le_of_comesBefore {a b : Nat × String} (before : comesBefore a b = true) :
    a.1 ≤ b.1 := by
  simp only [comesBefore, Bool.or_eq_true, Bool.and_eq_true, decide_eq_true_eq,
    beq_iff_eq] at before
  omega

/-- Sorting puts items into one order, however they are given, when no two
of them may stand either way. -/
theorem mergeSort_eq_of_perm {α : Type} {le : α → α → Bool} {items others : List α}
    (trans : ∀ a b c, le a b = true → le b c = true → le a c = true)
    (total : ∀ a b, (le a b || le b a) = true)
    (antisymm : ∀ a ∈ items, ∀ b ∈ items, le a b = true → le b a = true → a = b)
    (perm : items.Perm others) : items.mergeSort le = others.mergeSort le := by
  have moved := List.mergeSort_perm items le
  have moved' := List.mergeSort_perm others le
  refine List.Perm.eq_of_pairwise ?_ (List.pairwise_mergeSort trans total items)
    (List.pairwise_mergeSort trans total others) (moved.trans (perm.trans moved'.symm))
  intro a b inside inside'
  exact antisymm a (moved.mem_iff.1 inside) b (perm.mem_iff.2 (moved'.mem_iff.1 inside'))

section Sorting

variable {α : Type} (name : α → String) (chain : α → List String)

/-- The rank of an item among items of known names. -/
def rank (known : List String) (item : α) : Nat := (chain item).countP (known.contains ·)

/-- Ordering items moves them about and does nothing else. -/
theorem ancestorsFirst_perm (items : List α) :
    (ancestorsFirst name chain items).Perm items :=
  List.mergeSort_perm _ _

/-- Ordered items stand by growing rank, those of one rank by name. -/
theorem ancestorsFirst_sorted (items : List α) :
    (ancestorsFirst name chain items).Pairwise fun a b =>
      comesBefore (rank chain (items.map name) a, name a)
        (rank chain (items.map name) b, name b) = true := by
  refine List.pairwise_mergeSort ?_ ?_ items
  · intro a b c
    exact comesBefore_trans _ _ _
  · intro a b
    exact comesBefore_total _ _

/-- Ordered items stand by growing rank. -/
theorem ancestorsFirst_ranks (items : List α) :
    (ancestorsFirst name chain items).Pairwise fun a b =>
      rank chain (items.map name) a ≤ rank chain (items.map name) b := by
  refine (ancestorsFirst_sorted name chain items).imp ?_
  intro a b before
  exact le_of_comesBefore before

/-- Items that stand in order already are left alone. -/
theorem ancestorsFirst_of_sorted {items : List α}
    (sorted : items.Pairwise fun a b =>
      comesBefore (rank chain (items.map name) a, name a)
        (rank chain (items.map name) b, name b) = true) :
    ancestorsFirst name chain items = items :=
  List.mergeSort_of_pairwise sorted

end Sorting

/-- In a list sorted by a number, what has the smaller number has the
smaller index. -/
theorem index_lt_of_rank_lt {α : Type} {number : α → Nat} {items : List α} {a b : α}
    {i j : Nat} (sorted : items.Pairwise fun a b => number a ≤ number b)
    (atI : items[i]? = some a) (atJ : items[j]? = some b) (less : number a < number b) :
    i < j := by
  obtain ⟨iBound, rfl⟩ := List.getElem?_eq_some_iff.1 atI
  obtain ⟨jBound, rfl⟩ := List.getElem?_eq_some_iff.1 atJ
  rcases Nat.lt_trichotomy i j with lt | rfl | gt
  · exact lt
  · exact absurd less (Nat.lt_irrefl _)
  · have notLess := List.pairwise_iff_getElem.1 sorted j i jBound iBound gt
    omega

-- =============================================================== linked

/-- The shape of a list of bound types. -/
structure Linked (types : List TypeOutline) : Prop where
  distinct : (types.map (·.fullName)).Nodup
  /-- No type stands in its own chain, and no chain repeats a name. -/
  acyclic : ∀ type ∈ types, (type.fullName :: type.chain).Nodup
  /-- Behind a listed ancestor stands its own chain. -/
  chain_of_ancestor : ∀ type ∈ types, ∀ ancestor ∈ types, ∀ before after,
    type.chain = before ++ ancestor.fullName :: after → ancestor.chain = after
  /-- A type that is not bindable embeds nothing. -/
  flat : ∀ type ∈ types, type.mode.isBindable = false → type.chain = []
  /-- The recorded depth leads to the nearest listed ancestor. -/
  depth : ∀ type ∈ types,
    type.ancestorDepth = depthWhere (fun name => types.any (·.fullName == name)) type.chain
  /-- The list is sorted by the number of listed ancestors. -/
  ranks : types.Pairwise fun a b =>
    rank TypeOutline.chain (types.map (·.fullName)) a
      ≤ rank TypeOutline.chain (types.map (·.fullName)) b

namespace Linked

variable {types : List TypeOutline}

/-- Ranks grow from a listed ancestor to its descendants. -/
theorem rank_lt (linked : Linked types) {type ancestor : TypeOutline}
    (listed : type ∈ types) (listedAncestor : ancestor ∈ types)
    (inChain : ancestor.fullName ∈ type.chain) :
    rank TypeOutline.chain (types.map (·.fullName)) ancestor
      < rank TypeOutline.chain (types.map (·.fullName)) type := by
  obtain ⟨before, after, split⟩ := List.append_of_mem inChain
  have behind := linked.chain_of_ancestor type listed ancestor listedAncestor before after split
  have known : (types.map (·.fullName)).contains ancestor.fullName = true :=
    List.contains_iff_mem.2 (List.mem_map_of_mem listedAncestor)
  unfold rank
  rw [split, behind, List.countP_append, List.countP_cons, if_pos known]
  omega

/-- A listed ancestor comes first. -/
theorem index_lt (linked : Linked types) {type ancestor : TypeOutline} {i j : Nat}
    (atI : types[i]? = some ancestor) (atJ : types[j]? = some type)
    (inChain : ancestor.fullName ∈ type.chain) : i < j :=
  index_lt_of_rank_lt linked.ranks atI atJ
    (linked.rank_lt (List.mem_of_getElem? atJ) (List.mem_of_getElem? atI) inChain)

/-- No type has a later one in its chain. -/
theorem ordered (linked : Linked types) :
    types.Pairwise fun a b => b.fullName ∉ a.chain := by
  rw [List.pairwise_iff_getElem]
  intro i j iBound jBound less inChain
  have notLess := linked.index_lt (List.getElem?_eq_getElem jBound)
    (List.getElem?_eq_getElem iBound) inChain
  omega

end Linked

-- ===================================================== the listed types

/-- A rank depends on which names are known, not on their order. -/
theorem rank_congr {α : Type} {chain : α → List String} {known others : List String}
    (same : ∀ name, name ∈ known ↔ name ∈ others) (item : α) :
    rank chain known item = rank chain others item := by
  unfold rank
  have contained : ∀ name, known.contains name = others.contains name := by
    intro name
    rw [Bool.eq_iff_iff, List.contains_iff_mem, List.contains_iff_mem]
    exact same name
  simp only [contained]

/-- Items of distinct names are put into one order, however they are
given. -/
theorem ancestorsFirst_of_perm {α : Type} {name : α → String} {chain : α → List String}
    {items others : List α} (distinct : (items.map name).Nodup) (perm : items.Perm others) :
    ancestorsFirst name chain items = ancestorsFirst name chain others := by
  have counts : rank chain (items.map name) = rank chain (others.map name) :=
    funext fun item => rank_congr (fun _ => (perm.map name).mem_iff) item
  have keyed : ∀ list, ancestorsFirst name chain list = list.mergeSort fun a b =>
      comesBefore (rank chain (list.map name) a, name a)
        (rank chain (list.map name) b, name b) := fun _ => rfl
  rw [keyed, keyed, ← counts]
  refine mergeSort_eq_of_perm ?_ ?_ ?_ perm
  · intro a b c
    exact comesBefore_trans _ _ _
  · intro a b
    exact comesBefore_total _ _
  · intro a inside b inside' before after
    exact List.inj_on_of_nodup_map distinct inside inside'
      (congrArg Prod.snd (comesBefore_antisymm before after))

/-- Under a name whose declaration has a mode stands a type that embeds
nothing exactly when it is not bindable. -/
theorem embedsNothing_of_mode {name : String} {decl : TypeDecl} {mode : GenerationMode}
    (found : schema.typeDecl? name = some decl)
    (withMode : decl.generationMode? = some mode) :
    embedsNothing schema name = !mode.isBindable := by
  unfold embedsNothing
  rw [found]
  show (decl.generationMode? == some .autoNotify) = !mode.isBindable
  rw [withMode]
  cases mode <;> rfl

/-- What stands behind a member of a listed type's chain: the cut chain of
that member's declaration, or nothing when it embeds nothing. -/
theorem chain_behind_member {types : List TypeOutline} {type : TypeOutline}
    {before after : List String} {name : String}
    (run : (outlines schema).value = .ok types) (listed : type ∈ types)
    (split : type.chain = before ++ name :: after) :
    ∃ decl rest, schema.typeDecl? name = some decl ∧ baseChain schema decl = some rest
      ∧ after = if embedsNothing schema name then [] else embeddedChain schema rest := by
  obtain ⟨decl, mode, chain, -, -, walked, -, rfl⟩ := mem_outlines run listed
  rw [chain_link_outlineOf] at split
  cases bindable : mode.isBindable with
  | false =>
    rw [bindable] at split
    exact absurd split (by simp)
  | true =>
    rw [bindable, if_pos rfl] at split
    obtain ⟨rest, rfl, behind⟩ := embeddedChain_split split
    obtain ⟨member, found, -, walkedOn⟩ := baseChain_split walked
    exact ⟨member, rest, found, walkedOn, behind⟩

/-- Behind a listed ancestor stands its own chain. -/
theorem chain_of_listed_ancestor {types : List TypeOutline} {type ancestor : TypeOutline}
    {before after : List String}
    (run : (outlines schema).value = .ok types) (listed : type ∈ types)
    (listedAncestor : ancestor ∈ types)
    (split : type.chain = before ++ ancestor.fullName :: after) :
    ancestor.chain = after := by
  obtain ⟨member, rest, found, walkedOn, behind⟩ := chain_behind_member run listed split
  obtain ⟨decl, mode, chain, found', withMode, walked, -, linkedAs⟩ :=
    mem_outlines run listedAncestor
  -- the chain's member and the listed ancestor are one declaration
  rw [found] at found'
  cases found'
  rw [walkedOn] at walked
  cases walked
  rw [embedsNothing_of_mode found withMode] at behind
  rw [linkedAs, chain_link_outlineOf, behind]
  cases mode <;> rfl

/-- What a successful scan lists has the shape of a list of bound types. -/
theorem linked_of_outlines {types : List TypeOutline}
    (run : (outlines schema).value = .ok types) : Linked types := by
  obtain ⟨distinct, accepted, kept, sorted⟩ := outlines_ok run
  have perm : types.Perm (accepted.map (·.link schema accepted)) := by
    rw [sorted]
    exact ancestorsFirst_perm _ _ _
  have names : (types.map (·.fullName)).Perm
      ((accepted.map (·.link schema accepted)).map (·.fullName)) :=
    perm.map _
  constructor
  case distinct =>
    rw [names.nodup_iff, List.map_map]
    have same : TypeOutline.fullName ∘ TypeOutline.link schema accepted
        = TypeOutline.fullName :=
      funext (fullName_link accepted)
    rw [same, kept]
    exact List.Nodup.sublist (accepted_names_sublist _) (annotated_nodup distinct)
  case acyclic =>
    intro type listed
    obtain ⟨decl, mode, chain, -, -, walked, -, rfl⟩ := mem_outlines run listed
    rw [fullName_link, chain_link_outlineOf]
    have whole : (decl.fullName :: chain).Nodup := baseChain_nodup walked
    cases mode.isBindable with
    | false => exact List.nodup_singleton decl.fullName
    | true =>
      refine List.Nodup.sublist ?_ whole
      exact (embeddedChain_isPrefix chain).sublist.cons_cons decl.fullName
  case chain_of_ancestor =>
    intro type listed ancestor listedAncestor before after split
    exact chain_of_listed_ancestor run listed listedAncestor split
  case flat =>
    intro type listed unbound
    obtain ⟨decl, mode, chain, -, -, -, -, linkedAs⟩ := mem_outlines run listed
    rw [linkedAs, mode_link] at unbound
    have same : mode.isBindable = false := unbound
    rw [linkedAs, chain_link_outlineOf, same]
    rfl
  case depth =>
    intro type listed
    obtain ⟨decl, mode, chain, -, -, -, -, linkedAs⟩ := mem_outlines run listed
    rw [linkedAs]
    exact ancestorDepth_link_outlineOf types decl mode chain
  case ranks =>
    have ranked := ancestorsFirst_ranks (·.fullName) (·.chain)
      (accepted.map (·.link schema accepted))
    rw [← sorted] at ranked
    refine ranked.imp fun {a b} le => ?_
    have same : ∀ name, name ∈ types.map (·.fullName)
        ↔ name ∈ (accepted.map (·.link schema accepted)).map (·.fullName) :=
      fun name => names.mem_iff
    rw [rank_congr same a, rank_congr same b]
    exact le

/-- A chain split at one of its positions. -/
theorem eq_take_cons_drop {chain : List String} {i : Nat} {name : String}
    (atI : chain[i]? = some name) : chain = chain.take i ++ name :: chain.drop (i + 1) := by
  obtain ⟨bound, rfl⟩ := List.getElem?_eq_some_iff.1 atI
  rw [← List.drop_eq_getElem_cons bound, List.take_append_drop]

-- ============================================================= in order

/-- The list of a successful scan is in order. Names are distinct; every
type comes after those of its ancestors that are listed as well; behind a
bindable ancestor in the chain of a bindable type stands exactly the chain
of that ancestor; and a chain ends at the first type that is declared in
auto-notify mode, be it listed or not. -/
theorem outlines_in_order {types : List TypeOutline}
    (run : (outlines schema).value = .ok types) :
    (types.map (·.fullName)).Nodup
      ∧ (∀ (i j : Nat) (ancestor type : TypeOutline), types[i]? = some ancestor →
          types[j]? = some type → ancestor.fullName ∈ type.chain → i < j)
      ∧ ∀ type ∈ types, type.mode.isBindable = true →
          ∀ i name, type.chain[i]? = some name →
            (∀ ancestor ∈ types, ancestor.fullName = name →
                ancestor.mode.isBindable = true →
                ancestor.chain = type.chain.drop (i + 1))
              ∧ ∀ decl, schema.typeDecl? name = some decl →
                  decl.generationMode? = some .autoNotify →
                  type.chain.length = i + 1 := by
  have linked := linked_of_outlines run
  refine ⟨linked.distinct, ?_, ?_⟩
  · intro i j ancestor type atI atJ inChain
    exact linked.index_lt atI atJ inChain
  · intro type listed _ i name atI
    have split := eq_take_cons_drop atI
    constructor
    · rintro ancestor listedAncestor rfl _
      exact linked.chain_of_ancestor type listed ancestor listedAncestor _ _ split
    · intro decl found autoNotify
      obtain ⟨_, _, _, _, behind⟩ := chain_behind_member run listed split
      rw [embedsNothing_of_mode found autoNotify] at behind
      have ends : type.chain.length ≤ i + 1 := List.drop_eq_nil_iff.1 behind
      obtain ⟨bound, -⟩ := List.getElem?_eq_some_iff.1 atI
      omega

-- ============================================================= a family

/-- A schema that is written in order is left in order, so its list can be
read off without sorting. -/
theorem outlines_of_sorted {accepted : List TypeOutline}
    (distinct : (schema.types.map (·.fullName)).Nodup)
    (sorted : schema.types.Pairwise fun a b => a.fullName ≤ b.fullName)
    (screened : (screen schema (schema.types.filterMap fun decl =>
      decl.generationMode?.map (decl, ·))).value = .ok accepted)
    (inOrder : (accepted.map (·.link schema accepted)).Pairwise fun a b =>
      let known := (accepted.map (·.link schema accepted)).map (·.fullName)
      comesBefore (rank TypeOutline.chain known a, a.fullName)
        (rank TypeOutline.chain known b, b.fullName) = true) :
    (outlines schema).value = .ok (accepted.map (·.link schema accepted)) := by
  have unrepeated : firstRepeat? [] (schema.types.map (·.fullName)) = none :=
    firstRepeat?_eq_none.2 ⟨distinct, fun _ _ => List.not_mem_nil⟩
  have inPlace : annotated schema
      = schema.types.filterMap fun decl => decl.generationMode?.map (decl, ·) := by
    unfold annotated
    rw [List.mergeSort_of_pairwise]
    exact sorted.imp fun le => decide_eq_true le
  unfold outlines
  rw [unrepeated, inPlace]
  simp only [screened, Except.map]
  rw [ancestorsFirst_of_sorted _ _ inOrder]

/-- A class of the family that is annotated as bindable. -/
def boundClass (name : String) (base : Option String) (fields : List FieldDecl) :
    TypeDecl where
  name := name
  scope := some "game"
  isPartial := true
  base := base
  attributes := [.bindable true]
  fields := fields

/-- Three generations under one root. The counter is in auto-notify mode
and cuts the root off from the dial; the mob is plain and has its rage
written by hand, the orc has it generated, the shaman has none. -/
def family : Schema where
  types :=
    [boundClass "Actor" none [{ name := "_name", type := "String" }],
     { name := "Counter"
       scope := some "game"
       isPartial := true
       base := some "Actor"
       fields := [{ name := "_count", type := "i32", attributes := [.autoNotify none] }] },
     boundClass "Dial" (some "Counter") [{ name := "_angle", type := "f32" }],
     { name := "Mob"
       scope := some "game"
       base := some "Actor"
       properties := [{ name := "Rage", type := "i32" }] },
     boundClass "Orc" (some "Mob") [{ name := "_rage", type := "f32" }],
     boundClass "Shaman" (some "Orc") [{ name := "_mana", type := "i32" }]]

def familyAccepted : List TypeOutline :=
  family.types.filterMap fun decl =>
    decl.generationMode?.bind fun mode => accept? family (decl, mode)

def familyOutlines : List TypeOutline := familyAccepted.map (·.link family familyAccepted)

theorem outlines_family : (outlines family).value = .ok familyOutlines :=
  outlines_of_sorted (by decide +kernel) (by decide +kernel) (by decide +kernel)
    (by decide +kernel)

/-- In the family the dial's chain ends at the counter, and the orc's is
the shaman's without the orc. -/
theorem family_outlines_in_order :
    (outlines family).value = .ok familyOutlines
      ∧ (familyOutlines.map (·.fullName)).Nodup
      ∧ ∃ dial ∈ familyOutlines, ∃ orc ∈ familyOutlines, ∃ shaman ∈ familyOutlines,
        dial.chain = ["game::Counter"]
          ∧ shaman.chain = ["game::Orc", "game::Mob", "game::Actor"]
          ∧ dial.chain.length = 1 ∧ orc.chain = shaman.chain.drop 1 := by
  obtain ⟨distinct, -, chains⟩ := outlines_in_order outlines_family
  have dialListed := List.get_mem familyOutlines ⟨2, by decide +kernel⟩
  have orcListed := List.get_mem familyOutlines ⟨3, by decide +kernel⟩
  have shamanListed := List.get_mem familyOutlines ⟨4, by decide +kernel⟩
  obtain ⟨-, ends⟩ := chains _ dialListed (by decide +kernel) 0 "game::Counter"
    (by decide +kernel)
  obtain ⟨goesOn, -⟩ := chains _ shamanListed (by decide +kernel) 0 "game::Orc"
    (by decide +kernel)
  have counterFound : family.typeDecl? "game::Counter" = family.types[1]? := by
    decide +kernel
  refine ⟨outlines_family, distinct, _, dialListed, _, orcListed, _, shamanListed,
    by decide +kernel, by decide +kernel, ?_, ?_⟩
  · exact ends _ counterFound (by decide +kernel)
  · exact goesOn _ orcListed (by decide +kernel) (by decide +kernel)

end DataBinding
