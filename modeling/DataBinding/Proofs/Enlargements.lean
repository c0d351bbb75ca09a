/-
What an analysis makes of a schema when there are further types. The types
of the smaller schema are picked out of the larger one by their names, and
so is what each stage makes of them: with every list of the larger analysis
goes the list of its kept items, and that is the list of the smaller one.

# Where the stages read farther than one declaration

A walk along bases looks paths up, and a further type may be what such a
path names; that it is not is assumed (`Enlarges.undisturbed`), and then the
walks go the same ways, through kept types alone (`Enlarges.walked`).
Everything else that a stage reads about other types it reads at the members
of a chain: which of them embed nothing, are listed or raise events, and
what they hand down.

The lists are put in order by name and by the number of listed ancestors.
Kept types have kept ancestors, so that number is the same among more types,
and what stands between them does not matter (`filter_ancestorsFirst`).
-/
import DataBinding.Proofs.Lookups
import DataBinding.Proofs.Rejections
import DataBinding.Proofs.Walks

namespace DataBinding

variable {keep : String → Bool} {schema other : Schema}

-- ========================================================== kept items

section Kept

variable {α β : Type} (key : α → String)

/-- What is made of the kept items is what is kept of all that is made. -/
theorem filter_filterMap_key {key' : β → String} {make? : α → Option β}
    (keeps : ∀ item made, make? item = some made → key' made = key item) (items : List α) :
    (items.filterMap make?).filter (fun made => keep (key' made))
      = (items.filter fun item => keep (key item)).filterMap make? := by
  rw [List.filter_filterMap, List.filterMap_filter]
  refine List.filterMap_congr fun item _ => ?_
  cases made : make? item with
  | none => simp
  | some value => cases kept : keep (key item) <;> simp [keeps item value made, kept]

/-- The same where an item makes several. -/
theorem filter_flatMap_key {key' : β → String} {make : α → List β}
    (keeps : ∀ item, ∀ made ∈ make item, key' made = key item) (items : List α) :
    (items.flatMap make).filter (fun made => keep (key' made))
      = (items.filter fun item => keep (key item)).flatMap make := by
  rw [List.filter_flatMap, flatMap_of_filter]
  refine List.flatMap_congr fun item _ => ?_
  cases kept : keep (key item) with
  | true =>
    refine List.filter_eq_self.2 fun made inside => ?_
    rw [keeps item made inside, kept]
  | false =>
    refine List.filter_eq_nil_iff.2 fun made inside => ?_
    rw [keeps item made inside, kept]
    exact Bool.false_ne_true

/-- Sorting and dropping items may change places. -/
theorem filter_mergeSort {le : α → α → Bool} {items : List α}
    (trans : ∀ a b c, le a b = true → le b c = true → le a c = true)
    (total : ∀ a b, (le a b || le b a) = true)
    (antisymm : ∀ a ∈ items, ∀ b ∈ items, le a b = true → le b a = true → a = b)
    (p : α → Bool) : (items.mergeSort le).filter p = (items.filter p).mergeSort le := by
  have sorted : ((items.mergeSort le).filter p).Pairwise fun a b => le a b = true :=
    (List.pairwise_mergeSort trans total items).filter p
  rw [← List.mergeSort_of_pairwise sorted]
  refine mergeSort_eq_of_perm trans total ?_ ((List.mergeSort_perm items le).filter p)
  intro a inside b inside'
  exact antisymm a (List.mem_mergeSort.1 (List.mem_of_mem_filter inside))
    b (List.mem_mergeSort.1 (List.mem_of_mem_filter inside'))

/-- Among kept names a kept item has the rank that it has among all. -/
theorem rank_of_kept {chain : α → List String} {known : List String} {item : α}
    (kept : ∀ name ∈ chain item, keep name = true) :
    rank chain (known.filter keep) item = rank chain known item := by
  unfold rank
  refine List.countP_congr fun name inside => ?_
  rw [List.contains_iff_mem, List.contains_iff_mem, List.mem_filter]
  exact and_iff_left (kept name inside)

/-- Items with kept ancestors stand in the order in which they would stand
alone. -/
theorem filter_ancestorsFirst {chain : α → List String} {items : List α}
    (distinct : (items.map key).Nodup)
    (kept : ∀ item ∈ items, keep (key item) = true → ∀ name ∈ chain item, keep name = true) :
    (ancestorsFirst key chain items).filter (fun item => keep (key item))
      = ancestorsFirst key chain (items.filter fun item => keep (key item)) := by
  have perm := (ancestorsFirst_perm key chain items).filter fun item => keep (key item)
  have perm' := ancestorsFirst_perm key chain (items.filter fun item => keep (key item))
  have names : (items.filter fun item => keep (key item)).map key
      = (items.map key).filter keep := by
    rw [List.filter_map]
    rfl
  refine List.Perm.eq_of_pairwise ?_ ?_
    (ancestorsFirst_sorted key chain (items.filter fun item => keep (key item)))
    (perm.trans perm'.symm)
  · intro a b inside inside' before after
    exact List.inj_on_of_nodup_map distinct (List.mem_of_mem_filter (perm.mem_iff.1 inside))
      (List.mem_of_mem_filter (perm'.mem_iff.1 inside'))
      (congrArg Prod.snd (comesBefore_antisymm before after))
  · refine ((ancestorsFirst_sorted key chain items).filter _).imp_of_mem ?_
    intro a b inside inside' before
    have same : ∀ item ∈ (ancestorsFirst key chain items).filter fun item => keep (key item),
        rank chain ((items.filter fun item => keep (key item)).map key) item
          = rank chain (items.map key) item := by
      intro item listed
      obtain ⟨listed, keptItem⟩ := List.mem_filter.1 listed
      rw [names]
      exact rank_of_kept
        (kept item ((ancestorsFirst_perm key chain items).mem_iff.1 listed) keptItem)
    rw [same a inside, same b inside']
    exact before

/-- Items are linked one by one before they are put in order. Where linking
keeps names, takes members away from chains, and links a kept item as it
would be linked alone, the kept ones come out as they would alone. -/
theorem filter_linked {chain : α → List String} (link link' : α → α)
    {items : List α}
    (names : ∀ item, key (link' item) = key item)
    (cuts : ∀ item, chain (link' item) ⊆ chain item)
    (distinct : (items.map key).Nodup)
    (kept : ∀ item ∈ items, keep (key item) = true → ∀ name ∈ chain item, keep name = true)
    (alone : ∀ item ∈ items, keep (key item) = true → link' item = link item) :
    (ancestorsFirst key chain (items.map link')).filter (fun item => keep (key item))
        = ancestorsFirst key chain ((items.filter fun item => keep (key item)).map link)
      ∧ ∀ item ∈ ancestorsFirst key chain (items.map link'), keep (key item) = true →
          ∀ name ∈ chain item, keep name = true := by
  have keptLinked : ∀ item ∈ items.map link', keep (key item) = true →
      ∀ name ∈ chain item, keep name = true := by
    intro item linked keptItem name inside
    obtain ⟨unlinked, listed, rfl⟩ := List.mem_map.1 linked
    rw [names] at keptItem
    exact kept unlinked listed keptItem name (cuts unlinked inside)
  have distinctLinked : ((items.map link').map key).Nodup := by
    rw [List.map_map, show key ∘ link' = key from funext names]
    exact distinct
  constructor
  · rw [filter_ancestorsFirst key distinctLinked keptLinked, List.filter_map]
    congr 1
    have same : (fun item => keep (key item)) ∘ link' = fun item => keep (key item) :=
      funext fun item => congrArg keep (names item)
    rw [same]
    refine List.map_congr_left fun item inside => ?_
    obtain ⟨listed, keptItem⟩ := List.mem_filter.1 inside
    exact alone item listed keptItem
  · intro item listed
    exact keptLinked item ((ancestorsFirst_perm key chain _).mem_iff.1 listed)

/-- Whether some item is of a kept kind is asked of the kept ones alone. -/
theorem any_of_kept (items : List α) {p : α → Bool}
    (kept : ∀ item, p item = true → keep (key item) = true) :
    (items.filter fun item => keep (key item)).any p = items.any p := by
  rw [List.any_filter]
  refine List.any_congr rfl fun item => ?_
  cases holds : p item with
  | true => rw [kept item holds, Bool.and_true]
  | false => exact Bool.and_false _

/-- A depth depends on what holds of the members of the chain. -/
theorem depthWhere_congr {holds holds' : String → Bool} {chain : List String}
    (same : ∀ name ∈ chain, holds name = holds' name) :
    depthWhere holds chain = depthWhere holds' chain := by
  unfold depthWhere
  congr 1
  induction chain with
  | nil => rfl
  | cons name rest ih =>
    obtain ⟨sameName, sameRest⟩ := List.forall_mem_cons.1 same
    rw [List.findIdx?_cons, List.findIdx?_cons, sameName, ih sameRest]

end Kept

/-- Linking takes members away from a chain. -/
theorem chain_link_subset (accepted : List TypeOutline) (outline : TypeOutline) :
    (outline.link schema accepted).chain ⊆ outline.chain := by
  unfold TypeOutline.link
  split
  · exact (embeddedChain_isPrefix outline.chain).subset
  · exact List.Subset.refl _

/-- What the search accepts keeps its name. -/
theorem fullName_of_acceptEvent? {decl : TypeDecl} {type : EventTypeDescriptor}
    (made : acceptEvent? schema decl = some type) : type.fullName = decl.fullName := by
  obtain ⟨chain, -, -, rfl⟩ := acceptEvent?_eq_some.1 made
  rfl

/-- Of distinct declarations the search accepts distinct event types. -/
theorem nodup_foundEvents (distinct : (schema.types.map (·.fullName)).Nodup) :
    (((schema.types.filter (·.isEventRegister)).filterMap
      (acceptEvent? schema)).map (·.fullName)).Nodup :=
  (distinct.sublist (List.filter_sublist.map _)).sublist
    (keys_filterMap_sublist (fun _ _ => fullName_of_acceptEvent?) _)

/-- What the search reports about a declaration names it. -/
theorem typeName_eventDiagnostics {decl : TypeDecl} {said : Diagnostic}
    (reported : said ∈ eventDiagnostics schema decl) : said.typeName = decl.fullName := by
  unfold eventDiagnostics at reported
  split at reported
  · obtain ⟨call, -, rfl⟩ := List.mem_map.1 reported
    rfl
  · obtain ⟨violation, -, rfl⟩ := List.mem_map.1 reported
    rfl

-- ============================================================ the lookups

/-- Of the paths that a reference may mean, those that are looked up: up to
the first one under which something is declared. -/
def lookedUp (schema : Schema) : List String → List String
  | [] => []
  | path :: rest =>
    if (schema.typeDecl? path).isSome then [path] else path :: lookedUp schema rest

/-- A path is looked up on the walk from a declaration: for the base of the
declaration, or farther on. -/
inductive LooksUp (schema : Schema) : TypeDecl → String → Prop
  | here {decl : TypeDecl} {written path : String} (derives : decl.base = some written)
      (tried : path ∈ lookedUp schema (candidatePaths decl.scope written)) :
      LooksUp schema decl path
  | onward {decl next : TypeDecl} {path : String} (derives : DerivesFrom schema decl next)
      (later : LooksUp schema next path) : LooksUp schema decl path

/-- A schema has further types beside those of a smaller one, which are the
ones with kept names. No walk of the smaller schema looks a further type up,
and the walks of the further types end. -/
structure Enlarges (keep : String → Bool) (schema other : Schema) : Prop where
  enums : other.enums = schema.enums
  types : other.types.filter (fun decl => keep decl.fullName) = schema.types
  distinct : (other.types.map (·.fullName)).Nodup
  undisturbed : ∀ decl ∈ schema.types, ∀ path, LooksUp schema decl path → keep path = true
  ended : ∀ decl ∈ other.types, keep decl.fullName = false → (baseChain other decl).isSome

namespace Enlarges

variable (enlarges : Enlarges keep schema other)

include enlarges

theorem mem_types {decl : TypeDecl} :
    decl ∈ schema.types ↔ decl ∈ other.types ∧ keep decl.fullName = true := by
  rw [← enlarges.types, List.mem_filter]

/-- Under a kept name the same is declared. -/
theorem typeDecl?_eq {name : String} (kept : keep name = true) :
    other.typeDecl? name = schema.typeDecl? name := by
  unfold Schema.typeDecl?
  rw [← enlarges.types, List.find?_filter]
  congr 1
  funext decl
  by_cases same : decl.fullName = name
  · simp [same, kept]
  · simp [same]

theorem enumDecl?_eq : other.enumDecl? = schema.enumDecl? := by
  funext name
  unfold Schema.enumDecl?
  rw [enlarges.enums]

/-- A reference whose lookups stay among kept paths means the same. -/
theorem resolveType?_eq {scope : Option String} {written : String}
    (kept : ∀ path ∈ lookedUp schema (candidatePaths scope written), keep path = true) :
    other.resolveType? scope written = schema.resolveType? scope written := by
  unfold Schema.resolveType?
  generalize candidatePaths scope written = paths at kept
  induction paths with
  | nil => rfl
  | cons path rest ih =>
    rw [lookedUp] at kept
    rw [List.findSome?_cons, List.findSome?_cons]
    cases found : schema.typeDecl? path with
    | some decl =>
      rw [found] at kept
      rw [enlarges.typeDecl?_eq (kept path List.mem_cons_self), found]
    | none =>
      rw [found] at kept
      rw [enlarges.typeDecl?_eq (kept path List.mem_cons_self), found]
      exact ih fun later inside => kept later (List.mem_cons_of_mem _ inside)

-- ================================================================= walks

section Walks

variable {decl : TypeDecl} (kept : ∀ path, LooksUp schema decl path → keep path = true)

include kept

theorem derivesFrom {ancestor : TypeDecl} (derives : DerivesFrom schema decl ancestor) :
    DerivesFrom other decl ancestor := by
  obtain ⟨written, base, found⟩ := derives.resolves
  refine ⟨⟨written, base, ?_⟩, derives.isClass⟩
  rw [enlarges.resolveType?_eq fun path tried => kept path (.here base tried), found]

theorem endsAt (ends : EndsAt schema decl) : EndsAt other decl := by
  have same : ∀ {written}, decl.base = some written →
      other.resolveType? decl.scope written = schema.resolveType? decl.scope written :=
    fun base => enlarges.resolveType?_eq fun path tried => kept path (.here base tried)
  cases ends with
  | noBase absent => exact .noBase absent
  | unresolved derives unknown => exact .unresolved derives ((same derives).trans unknown)
  | struct derives found isStruct => exact .struct derives ((same derives).trans found) isStruct

/-- Trails stay as they are. -/
theorem trail {trail : List TypeDecl} {last : TypeDecl} (walked : Trail schema decl trail last) :
    Trail other decl trail last ∧ ∀ path, LooksUp schema last path → keep path = true := by
  induction walked with
  | here decl => exact ⟨.here decl, kept⟩
  | step derives _ ih =>
    obtain ⟨onward, keptLast⟩ := ih fun path later => kept path (.onward derives later)
    exact ⟨.step (enlarges.derivesFrom kept derives) onward, keptLast⟩

end Walks

section Chains

variable {decl : TypeDecl} {chain : List String} (declared : decl ∈ schema.types)
  (walked : baseChain schema decl = some chain)

include declared walked

/-- Chains stay as they are. -/
theorem baseChain_eq : baseChain other decl = some chain := by
  obtain ⟨trail, last, followed, ends, rfl, distinct⟩ := baseChain_eq_some.1 walked
  obtain ⟨followed', keptLast⟩ := enlarges.trail (enlarges.undisturbed decl declared) followed
  exact baseChain_eq_some.2 ⟨trail, last, followed', enlarges.endsAt keptLast ends, rfl, distinct⟩

omit declared in
/-- The members of a chain are kept. -/
theorem kept_of_chain : ∀ name ∈ chain, keep name = true := by
  obtain ⟨trail, _, followed, -, rfl, -⟩ := baseChain_eq_some.1 walked
  intro name inChain
  obtain ⟨ancestor, inTrail, rfl⟩ := List.mem_map.1 inChain
  exact (enlarges.mem_types.1 (followed.subset inTrail)).2

omit declared in
/-- A declaration breaks the same rules. -/
theorem violations_eq (mode : GenerationMode) :
    violations other decl mode chain = violations schema decl mode chain := by
  unfold violations baseViolations
  cases chain with
  | nil => rfl
  | cons direct rest =>
    have kept := enlarges.kept_of_chain walked direct List.mem_cons_self
    simp only [enlarges.typeDecl?_eq kept]

end Chains

-- =============================================================== the scan

/-- The kept declarations to be bound stand in the order of their names. -/
theorem annotated_eq :
    (annotated other).filter (fun item => keep item.1.fullName) = annotated schema := by
  unfold annotated
  rw [filter_filterMap_key TypeDecl.fullName (fun decl item made => by
      obtain ⟨mode, -, rfl⟩ := Option.map_eq_some_iff.1 made
      rfl),
    filter_mergeSort, enlarges.types]
  · intro a b c first second
    exact decide_eq_true (String.le_trans (of_decide_eq_true first) (of_decide_eq_true second))
  · intro a b
    simpa using String.le_total a.fullName b.fullName
  · intro a inside b inside' before after
    exact List.inj_on_of_nodup_map enlarges.distinct inside inside'
      (String.le_antisymm (of_decide_eq_true before) (of_decide_eq_true after))

/-- What ends in the smaller schema ends in the larger one, and what is
further ends by assumption. -/
theorem ended_of_ended {decl : TypeDecl} (declared : decl ∈ other.types)
    (ended : decl ∈ schema.types → (baseChain schema decl).isSome) :
    (baseChain other decl).isSome := by
  cases kept : keep decl.fullName with
  | false => exact enlarges.ended decl declared kept
  | true =>
    have declared' := enlarges.mem_types.2 ⟨declared, kept⟩
    obtain ⟨chain, walked⟩ := Option.isSome_iff_exists.1 (ended declared')
    rw [enlarges.baseChain_eq declared' walked]
    rfl

/-- The chain of a kept declaration is its chain in the smaller schema, with
kept members. -/
theorem walked_of_kept {decl : TypeDecl} {chain : List String} (declared : decl ∈ other.types)
    (kept : keep decl.fullName = true)
    (ended : decl ∈ schema.types → (baseChain schema decl).isSome)
    (walked : baseChain other decl = some chain) :
    baseChain schema decl = some chain ∧ ∀ name ∈ chain, keep name = true := by
  have declared' := enlarges.mem_types.2 ⟨declared, kept⟩
  obtain ⟨chain', walked'⟩ := Option.isSome_iff_exists.1 (ended declared')
  have same := walked.symm.trans (enlarges.baseChain_eq declared' walked')
  cases same
  exact ⟨walked', enlarges.kept_of_chain walked'⟩

theorem accepted_eq (ended : ∀ item ∈ annotated schema, (baseChain schema item.1).isSome) :
    ((annotated other).filterMap (accept? other)).filter (fun outline => keep outline.fullName)
      = (annotated schema).filterMap (accept? schema) := by
  rw [filter_filterMap_key (fun item : TypeDecl × GenerationMode => item.1.fullName)
      (fun item outline made => by
        obtain ⟨chain, -, -, rfl⟩ := accept?_eq_some.1 made
        rfl),
    enlarges.annotated_eq]
  refine List.filterMap_congr fun item listed => ?_
  obtain ⟨decl, mode⟩ := item
  obtain ⟨chain, walked⟩ := Option.isSome_iff_exists.1 (ended _ listed)
  unfold accept?
  rw [walked, enlarges.baseChain_eq (mem_annotated.1 listed).1 walked, Option.bind_some,
    Option.bind_some, enlarges.violations_eq walked]

/-- Chains of kept members are cut at the same place. -/
theorem embeddedChain_eq {chain : List String} (kept : ∀ name ∈ chain, keep name = true) :
    embeddedChain other chain = embeddedChain schema chain := by
  induction chain with
  | nil => rfl
  | cons name rest ih =>
    obtain ⟨keptName, keptRest⟩ := List.forall_mem_cons.1 kept
    have flat : embedsNothing other name = embedsNothing schema name := by
      unfold embedsNothing
      rw [enlarges.typeDecl?_eq keptName]
    rw [embeddedChain, embeddedChain, flat, ih keptRest]

/-- An outline with kept ancestors is linked as it would be among the kept
outlines alone. -/
theorem link_eq {accepted : List TypeOutline} {outline : TypeOutline}
    (kept : ∀ name ∈ outline.chain, keep name = true) :
    outline.link other accepted
      = outline.link schema (accepted.filter fun outline => keep outline.fullName) := by
  have keptCut : ∀ name ∈ embeddedChain schema outline.chain, keep name = true := fun name inside =>
    kept name ((embeddedChain_isPrefix outline.chain).subset inside)
  have depths := depthWhere_congr fun name inside =>
    any_of_kept TypeOutline.fullName accepted (p := fun outline => outline.fullName == name)
      fun outline named => eq_of_beq named ▸ keptCut name inside
  have events : ((embeddedChain schema outline.chain).any fun name => accepted.any fun other =>
        other.fullName == name && other.raisesEvents)
      = (embeddedChain schema outline.chain).any fun name =>
        (accepted.filter fun outline => keep outline.fullName).any fun other =>
          other.fullName == name && other.raisesEvents := by
    rw [Bool.eq_iff_iff, List.any_eq_true, List.any_eq_true]
    refine exists_congr fun name => and_congr_right fun inside => ?_
    rw [any_of_kept TypeOutline.fullName accepted fun outline found =>
      eq_of_beq (Bool.and_eq_true_iff.1 found).1 ▸ keptCut name inside]
  unfold TypeOutline.link
  rw [enlarges.embeddedChain_eq kept]
  simp only [depths, events]

/-- About a kept declaration the scan says the same. -/
theorem diagnostics_screen_eq
    (ended : ∀ item ∈ annotated schema, (baseChain schema item.1).isSome)
    (ended' : ∀ item ∈ annotated other, (baseChain other item.1).isSome) :
    (screen other (annotated other)).diagnostics.filter (fun said => keep said.typeName)
      = (screen schema (annotated schema)).diagnostics := by
  have kept : ((annotated other).map (·.1)).filter (fun decl => keep decl.fullName)
      = (annotated schema).map (·.1) := by
    rw [List.filter_map, ← enlarges.annotated_eq]
    rfl
  rw [diagnostics_screen (fun item listed => (mem_annotated.1 listed).2) ended,
    diagnostics_screen (fun item listed => (mem_annotated.1 listed).2) ended',
    filter_flatMap_key TypeDecl.fullName (fun decl said about => (mem_rejections about).2),
    kept]
  refine List.flatMap_congr fun decl spoken => ?_
  obtain ⟨⟨_, mode⟩, listed, rfl⟩ := List.mem_map.1 spoken
  obtain ⟨declared, bound⟩ := mem_annotated.1 listed
  obtain ⟨chain, walked⟩ := Option.isSome_iff_exists.1 (ended _ listed)
  unfold rejections brokenRules
  simp only [bound, walked, enlarges.baseChain_eq declared walked, Option.getD_some,
    enlarges.violations_eq walked]

/-- The scan lists the kept types as it lists them alone, and says the same
about them. -/
theorem outlines_eq {types : List TypeOutline} (run : (outlines schema).value = .ok types) :
    ∃ types', (outlines other).value = .ok types'
      ∧ types'.filter (fun type => keep type.fullName) = types
      ∧ (∀ type ∈ types', keep type.fullName = true → ∀ name ∈ type.chain, keep name = true)
      ∧ (outlines other).diagnostics.filter (fun said => keep said.typeName)
        = (outlines schema).diagnostics := by
  obtain ⟨-, accepted, keptAs, sorted⟩ := outlines_ok run
  obtain ⟨ended, said⟩ := screened_of_outlines run
  have ended' : ∀ item ∈ annotated other, (baseChain other item.1).isSome := by
    intro item listed
    obtain ⟨declared, bound⟩ := mem_annotated.1 listed
    exact enlarges.ended_of_ended declared fun declared' =>
      ended item (mem_annotated.2 ⟨declared', bound⟩)
  have unrepeated : firstRepeat? [] (other.types.map (·.fullName)) = none :=
    firstRepeat?_eq_none.2 ⟨enlarges.distinct, fun _ _ => List.not_mem_nil⟩
  have screened := screen_eq_ok.2 ⟨rfl, ended'⟩
  have chains : ∀ outline ∈ (annotated other).filterMap (accept? other),
      keep outline.fullName = true → ∀ name ∈ outline.chain, keep name = true := by
    intro outline inside kept
    obtain ⟨⟨decl, mode⟩, listed, made⟩ := List.mem_filterMap.1 inside
    obtain ⟨chain, walked, -, rfl⟩ := accept?_eq_some.1 made
    obtain ⟨declared, bound⟩ := mem_annotated.1 listed
    have keptChain := (enlarges.walked_of_kept declared kept (fun declared' =>
      ended (decl, mode) (mem_annotated.2 ⟨declared', bound⟩)) walked).2
    cases mode with
    | bindable raises => exact keptChain
    | autoNotify => exact fun _ => nofun
  have alone := enlarges.accepted_eq ended
  have distinct : (((annotated other).filterMap (accept? other)).map (·.fullName)).Nodup :=
    (annotated_nodup enlarges.distinct).sublist (accepted_names_sublist _)
  generalize (annotated other).filterMap (accept? other) = accepted'
    at screened chains alone distinct
  obtain ⟨inOrder, keptChains⟩ := filter_linked TypeOutline.fullName
    (·.link schema accepted) (·.link other accepted') (fullName_link accepted')
    (chain_link_subset accepted')
    distinct chains fun outline listed kept => by
      rw [enlarges.link_eq (chains outline listed kept), alone, keptAs]
  rw [said]
  unfold outlines
  rw [unrepeated]
  simp only [screened, Except.map]
  refine ⟨_, rfl, ?_, keptChains, enlarges.diagnostics_screen_eq ended ended'⟩
  rw [inOrder, alone, ← keptAs, sorted]

-- ============================================================ the members

/-- The members of the kept types are extracted as they would be alone. -/
theorem extractAll_eq (outlined : List TypeOutline) :
    (extractAll other outlined).value.filter (fun type => keep type.fullName)
        = (extractAll schema (outlined.filter fun type => keep type.fullName)).value
      ∧ (extractAll other outlined).diagnostics.filter (fun said => keep said.typeName)
        = (extractAll schema (outlined.filter fun type => keep type.fullName)).diagnostics := by
  have fields : ∀ outline ∈ outlined.filter fun type => keep type.fullName,
      extract other outline (((other.typeDecl? outline.fullName).map (·.fields)).getD [])
        = extract schema outline
            (((schema.typeDecl? outline.fullName).map (·.fields)).getD []) := by
    intro outline listed
    rw [extract_of_enums enlarges.enumDecl?_eq, enlarges.typeDecl?_eq (List.mem_filter.1 listed).2]
  unfold extractAll
  simp only [List.map_map, List.flatMap_map]
  constructor
  · rw [List.filter_map]
    exact List.map_congr_left fun outline listed => by
      simp only [Function.comp_apply, fields outline listed]
  · rw [filter_flatMap_key TypeOutline.fullName fun outline said about => ?_]
    · exact List.flatMap_congr fun outline listed => by rw [fields outline listed]
    · obtain ⟨property, -, rfl⟩ := List.mem_map.1 about
      rfl

/-- A kept type writes the same by hand. -/
theorem handWrittenOf_eq {owner : String} (kept : keep owner = true) (isFromAncestor : Bool) :
    handWrittenOf other isFromAncestor owner = handWrittenOf schema isFromAncestor owner := by
  unfold handWrittenOf
  rw [enlarges.typeDecl?_eq kept, handWritten?_of_enums enlarges.enumDecl?_eq]

/-- A kept type with kept ancestors is merged as it would be alone, given
tables that agree on kept names. -/
theorem merge_eq {type : ExtractedType} {done done' : List (String × List Property)}
    (kept : keep type.fullName = true) (keptChain : ∀ name ∈ type.chain, keep name = true)
    (same : ∀ name, keep name = true → done'.lookup name = done.lookup name) :
    type.merge other done' = type.merge schema done := by
  have byHand : type.chain.flatMap (handWrittenOf other true)
      = type.chain.flatMap (handWrittenOf schema true) :=
    List.flatMap_congr fun name inside => enlarges.handWrittenOf_eq (keptChain name inside) true
  rw [merge_congr fun name inside => same name (keptChain name inside)]
  unfold ExtractedType.merge ExtractedType.candidates
  rw [enlarges.handWrittenOf_eq kept, byHand]

/-- The kept types are merged as they would be alone. -/
theorem mergeAll_eq {types : List ExtractedType} {done done' : List (String × List Property)}
    (kept : ∀ type ∈ types, keep type.fullName = true → ∀ name ∈ type.chain, keep name = true)
    (same : ∀ name, keep name = true → done'.lookup name = done.lookup name) :
    (mergeAll other done' types).value.filter (fun type => keep type.fullName)
        = (mergeAll schema done (types.filter fun type => keep type.fullName)).value
      ∧ (mergeAll other done' types).diagnostics.filter (fun said => keep said.typeName)
        = (mergeAll schema done (types.filter fun type => keep type.fullName)).diagnostics := by
  induction types generalizing done done' with
  | nil => exact ⟨rfl, rfl⟩
  | cons type rest ih =>
    obtain ⟨keptHere, keptLater⟩ := List.forall_mem_cons.1 kept
    have about : ∀ said ∈ (type.finish (type.merge other done')).diagnostics,
        said.typeName = type.fullName := fun said reported => typeName_finish reported
    cases keptType : keep type.fullName with
    | true =>
      have merged := enlarges.merge_eq keptType (keptHere keptType) same
      have sameLater : ∀ made name, keep name = true →
          ((type.fullName, made) :: done').lookup name
            = ((type.fullName, made) :: done).lookup name := by
        intro made name keptName
        rw [List.lookup_cons, List.lookup_cons, same name keptName]
      obtain ⟨later, said⟩ := ih keptLater
        (sameLater (type.finish (type.merge schema done)).value.merged)
      rw [List.filter_cons_of_pos (p := fun type : ExtractedType => keep type.fullName) keptType,
        mergeAll, mergeAll, merged]
      constructor
      · rw [List.filter_cons_of_pos (p := fun type : TypeDescriptor => keep type.fullName) keptType,
          later]
      · rw [List.filter_append, said, List.filter_eq_self.2 fun said reported => ?_]
        rw [about said (merged ▸ reported), keptType]
    | false =>
      -- the entry of a further type is not looked up
      have sameLater : ∀ made name, keep name = true →
          ((type.fullName, made) :: done').lookup name = done.lookup name := by
        intro made name keptName
        have differs : (name == type.fullName) = false := by
          rw [beq_eq_false_iff_ne]
          rintro rfl
          rw [keptType] at keptName
          cases keptName
        rw [List.lookup_cons, differs]
        exact same name keptName
      obtain ⟨later, said⟩ := ih keptLater
        (sameLater (type.finish (type.merge other done')).value.merged)
      have dropped : ¬ keep type.fullName = true := by rw [keptType]; exact Bool.false_ne_true
      rw [List.filter_cons_of_neg (p := fun type : ExtractedType => keep type.fullName) dropped,
        mergeAll]
      constructor
      · rw [List.filter_cons_of_neg (p := fun type : TypeDescriptor => keep type.fullName) dropped,
          later]
      · rw [List.filter_append, said, List.filter_eq_nil_iff.2 fun said reported => ?_,
          List.nil_append]
        rw [about said reported, keptType]
        exact Bool.false_ne_true

-- ============================================================ event calls

/-- An event type with kept ancestors is linked as it would be among the
kept event types alone. -/
theorem link_event_eq {accepted : List EventTypeDescriptor} {type : EventTypeDescriptor}
    (kept : ∀ name ∈ type.chain, keep name = true) :
    type.link other accepted
      = type.link schema (accepted.filter fun type => keep type.fullName) := by
  have keptCut : ∀ name ∈ embeddedChain schema type.chain, keep name = true := fun name inside =>
    kept name ((embeddedChain_isPrefix type.chain).subset inside)
  have depths := depthWhere_congr fun name inside =>
    any_of_kept EventTypeDescriptor.fullName accepted (p := fun type => type.fullName == name)
      fun type named => eq_of_beq named ▸ keptCut name inside
  unfold EventTypeDescriptor.link
  rw [enlarges.embeddedChain_eq kept]
  simp only [depths]

section Search

variable (ended : ∀ decl ∈ schema.types.filter (·.isEventRegister),
  (baseChain schema decl).isSome)

/-- The kept declarations that ask for event calls are those of the smaller
schema. -/
theorem registers_eq :
    (other.types.filter (·.isEventRegister)).filter (fun decl => keep decl.fullName)
      = schema.types.filter (·.isEventRegister) := by
  rw [List.filter_comm, enlarges.types]

include ended

/-- The search accepts the kept declarations as it accepts them alone. -/
theorem found_eq :
    ((other.types.filter (·.isEventRegister)).filterMap
        (acceptEvent? other)).filter (fun type => keep type.fullName)
      = (schema.types.filter (·.isEventRegister)).filterMap (acceptEvent? schema) := by
  rw [filter_filterMap_key TypeDecl.fullName (fun decl type => fullName_of_acceptEvent?),
    enlarges.registers_eq]
  refine List.filterMap_congr fun decl listed => ?_
  obtain ⟨chain, walked⟩ := Option.isSome_iff_exists.1 (ended decl listed)
  unfold acceptEvent?
  rw [walked, enlarges.baseChain_eq (List.mem_of_mem_filter listed) walked,
    extractCalls_of_enums enlarges.enumDecl?_eq]

omit enlarges in
/-- What ends in the smaller schema ends where it is found again. -/
theorem ended_of_registered {decl : TypeDecl}
    (listed : decl ∈ other.types.filter (·.isEventRegister)) (declared : decl ∈ schema.types) :
    (baseChain schema decl).isSome :=
  ended decl (List.mem_filter.2 ⟨declared, (List.mem_filter.1 listed).2⟩)

/-- Kept event types have kept ancestors. -/
theorem chain_of_found : ∀ type ∈ (other.types.filter (·.isEventRegister)).filterMap
      (acceptEvent? other), keep type.fullName = true → ∀ name ∈ type.chain, keep name = true := by
  intro type found kept
  obtain ⟨decl, listed, made⟩ := List.mem_filterMap.1 found
  obtain ⟨chain, walked, -, rfl⟩ := acceptEvent?_eq_some.1 made
  exact (enlarges.walked_of_kept (List.mem_of_mem_filter listed) kept
    (ended_of_registered ended listed) walked).2

end Search

/-- The search lists the kept event types as it lists them alone, and says
the same about them. -/
theorem eventTypes_eq {types : List EventTypeDescriptor}
    (run : (eventTypes schema).value = .ok types) :
    ∃ types', (eventTypes other).value = .ok types'
      ∧ types'.filter (fun type => keep type.fullName) = types
      ∧ (eventTypes other).diagnostics.filter (fun said => keep said.typeName)
        = (eventTypes schema).diagnostics := by
  obtain ⟨ended, accepted, keptAs, sorted⟩ := eventTypes_eq_ok.1 run
  have ended' : ∀ decl ∈ other.types.filter (·.isEventRegister), (baseChain other decl).isSome :=
    fun decl listed =>
      enlarges.ended_of_ended (List.mem_of_mem_filter listed) (ended_of_registered ended listed)
  have run' := (@eventTypes_eq_ok other _).2 ⟨ended', _, rfl, rfl⟩
  have distinct := nodup_foundEvents enlarges.distinct
  have alone := enlarges.found_eq ended
  have chains := enlarges.chain_of_found ended
  rw [lastOffers_of_nodup distinct] at run'
  generalize (other.types.filter (·.isEventRegister)).filterMap (acceptEvent? other) = found
    at run' distinct alone chains
  -- among distinct names none stands for another
  rw [← alone, lastOffers_of_nodup (distinct.sublist (List.filter_sublist.map _))] at keptAs
  obtain ⟨inOrder, -⟩ := filter_linked EventTypeDescriptor.fullName (·.link schema accepted)
    (·.link other found) (fun _ => rfl) (fun type => (embeddedChain_isPrefix type.chain).subset)
    distinct chains
    fun type listed kept => by rw [enlarges.link_event_eq (chains type listed kept), keptAs]
  refine ⟨_, run', ?_, ?_⟩
  · rw [sorted, inOrder, keptAs]
  · show (screenEvents other _).diagnostics.filter _ = (screenEvents schema _).diagnostics
    rw [diagnostics_screenEvents ended', diagnostics_screenEvents ended,
      filter_flatMap_key TypeDecl.fullName fun decl said => typeName_eventDiagnostics,
      enlarges.registers_eq]
    refine List.flatMap_congr fun decl _ => ?_
    unfold eventDiagnostics
    rw [extractCalls_of_enums enlarges.enumDecl?_eq]

-- ========================================================== the analysis

/-- What can be analysed can be analysed among further types, with the same
results for its own. -/
theorem analyze_eq {options : Options} {analysis : Analysis}
    (run : analyze schema options = .ok analysis) :
    ∃ analysis', analyze other options = .ok analysis'
      ∧ analysis'.types.filter (fun type => keep type.fullName) = analysis.types
      ∧ analysis'.eventTypes.filter (fun type => keep type.fullName) = analysis.eventTypes
      ∧ analysis'.diagnostics.filter (fun said => keep said.typeName) = analysis.diagnostics := by
  obtain ⟨outlined, events, scanned, searched, rfl⟩ := analyze_ok run
  obtain ⟨outlined', scanned', outlinedAlone, chains, saidByScan⟩ := enlarges.outlines_eq scanned
  obtain ⟨events', searched', eventsAlone, saidBySearch⟩ := enlarges.eventTypes_eq searched
  obtain ⟨extractedAlone, saidByExtraction⟩ := enlarges.extractAll_eq outlined'
  have keptExtracted : ∀ type ∈ (extractAll other outlined').value, keep type.fullName = true →
      ∀ name ∈ type.chain, keep name = true := by
    intro type extracted
    have listed : type.toTypeOutline ∈ outlined' := by
      rw [← @outlines_of_extractAll other outlined']
      exact List.mem_map_of_mem extracted
    exact chains type.toTypeOutline listed
  obtain ⟨mergedAlone, saidByMerging⟩ :=
    enlarges.mergeAll_eq keptExtracted fun name _ => (rfl : List.lookup name [] = _)
  rw [outlinedAlone] at extractedAlone saidByExtraction
  rw [extractedAlone] at mergedAlone saidByMerging
  unfold analyze
  simp only [scanned', searched']
  refine ⟨_, rfl, mergedAlone, eventsAlone, ?_⟩
  rw [List.filter_append, List.filter_append, List.filter_append, saidByScan, saidByExtraction,
    saidByMerging, saidBySearch]

end Enlarges

end DataBinding
