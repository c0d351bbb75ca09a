/-
What the outlines of a schema say, and in which order they stand.

Screening is a filter: it keeps an annotated declaration exactly when its
chain ends and it breaks no rule (`screen_eq_ok`). Linking then reads nothing
of the other types but their names and modes, which linking itself leaves
alone, so the listed types are linked against the very list they end up
in (`mem_outlines`).

The order comes from sorting by a number: how many members of its chain
are listed too. That this number grows from ancestor to descendant is not
a property of sorting but of the chains: what stands behind a listed
ancestor in a chain is the whole chain of that ancestor
(`Linked.chain_of_ancestor`), so the descendant counts everything the
ancestor counts, and the ancestor besides. Plain and rejected ancestors
count for nothing on either side, and a type in auto-notify mode has an
empty chain and ends every chain it stands in.
-/
import DataBinding.Outline
import DataBinding.Proofs.FirstOffers
import DataBinding.Proofs.Inheritance

namespace DataBinding

variable {schema : Schema}

-- ======================================================= distinct names

/-- No name repeats an earlier one exactly when all are distinct. -/
theorem firstRepeat?_eq_none {seen names : List String} :
    firstRepeat? seen names = none ↔ names.Nodup ∧ ∀ name ∈ names, name ∉ seen := by
  induction names generalizing seen with
  | nil => simp [firstRepeat?]
  | cons name rest ih =>
    rw [firstRepeat?]
    by_cases repeated : name ∈ seen
    · rw [if_pos repeated]
      constructor
      · intro impossible
        cases impossible
      · rintro ⟨-, away⟩
        exact absurd repeated (away name List.mem_cons_self)
    · rw [if_neg repeated, ih, List.nodup_cons]
      constructor
      · rintro ⟨distinct, away⟩
        refine ⟨⟨fun again => away name again List.mem_cons_self, distinct⟩, ?_⟩
        intro other inside
        rcases List.mem_cons.1 inside with rfl | inRest
        · exact repeated
        · exact fun old => away other inRest (List.mem_cons_of_mem name old)
      · rintro ⟨⟨fresh, distinct⟩, away⟩
        refine ⟨distinct, fun other inside old => ?_⟩
        rcases List.mem_cons.1 old with rfl | older
        · exact fresh inside
        · exact away other (List.mem_cons_of_mem name inside) older

/-- Among distinct names every declaration is the one found by its name. -/
theorem typeDecl?_of_mem (distinct : (schema.types.map (·.fullName)).Nodup)
    {decl : TypeDecl} (declared : decl ∈ schema.types) :
    schema.typeDecl? decl.fullName = some decl :=
  find?_of_nodup distinct declared

-- ============================================================ screening

/-- A change of results keeps success. -/
theorem except_map_eq_ok {ε α β : Type} {result : Except ε α} {f : α → β} {value : β} :
    result.map f = .ok value ↔ ∃ before, result = .ok before ∧ f before = value := by
  cases result with
  | error fault =>
    constructor
    · intro impossible
      cases impossible
    · rintro ⟨_, impossible, -⟩
      cases impossible
  | ok before =>
    constructor
    · intro run
      cases run
      exact ⟨before, rfl, rfl⟩
    · rintro ⟨_, same, rfl⟩
      cases same
      rfl

/-- A first item adds what is made of it. -/
theorem filterMap_cons_toList {α β : Type} (f : α → Option β) (item : α) (rest : List α) :
    (item :: rest).filterMap f = (f item).toList ++ rest.filterMap f := by
  cases made : f item with
  | none => exact List.filterMap_cons_none made
  | some value => exact List.filterMap_cons_some made

/-- What screening makes of one annotated declaration. -/
def accept? (schema : Schema) (item : TypeDecl × GenerationMode) : Option TypeOutline :=
  (baseChain schema item.1).bind fun chain =>
    if (violations schema item.1 item.2 chain).isEmpty then
      some (outlineOf item.1 item.2 chain)
    else none

/-- A declaration is accepted when its chain ends and it breaks no rule. -/
theorem accept?_eq_some {item : TypeDecl × GenerationMode} {outline : TypeOutline} :
    accept? schema item = some outline ↔
      ∃ chain, baseChain schema item.1 = some chain
        ∧ violations schema item.1 item.2 chain = []
        ∧ outlineOf item.1 item.2 chain = outline := by
  unfold accept?
  constructor
  · intro accepted
    obtain ⟨chain, walked, kept⟩ := Option.bind_eq_some_iff.1 accepted
    by_cases clean : (violations schema item.1 item.2 chain).isEmpty
    · rw [if_pos clean] at kept
      exact ⟨chain, walked, List.isEmpty_iff.1 clean, Option.some.inj kept⟩
    · rw [if_neg clean] at kept
      cases kept
  · rintro ⟨chain, walked, clean, rfl⟩
    rw [walked, Option.bind_some, clean]
    rfl

/-- Screening a declaration whose chain ends adds what is accepted of it. -/
theorem screen_cons {decl : TypeDecl} {mode : GenerationMode} {chain : List String}
    (walked : baseChain schema decl = some chain) (rest : List (TypeDecl × GenerationMode)) :
    (screen schema ((decl, mode) :: rest)).value
      = (screen schema rest).value.map ((accept? schema (decl, mode)).toList ++ ·) := by
  rw [screen]
  simp only [walked, accept?, Option.bind_some]
  split <;> rfl

/-- Screening ends when all chains end, and then it keeps the accepted
declarations in their order. -/
theorem screen_eq_ok {items : List (TypeDecl × GenerationMode)}
    {accepted : List TypeOutline} :
    (screen schema items).value = .ok accepted ↔
      accepted = items.filterMap (accept? schema)
        ∧ ∀ item ∈ items, (baseChain schema item.1).isSome := by
  induction items generalizing accepted with
  | nil =>
    constructor
    · intro run
      cases run
      exact ⟨rfl, fun item inside => absurd inside List.not_mem_nil⟩
    · rintro ⟨rfl, -⟩
      rfl
  | cons item rest ih =>
    obtain ⟨decl, mode⟩ := item
    cases walked : baseChain schema decl with
    | none =>
      constructor
      · intro run
        rw [screen] at run
        simp only [walked] at run
        cases run
      · rintro ⟨-, ended⟩
        have here := ended (decl, mode) List.mem_cons_self
        rw [walked] at here
        cases here
    | some chain =>
      rw [screen_cons walked, except_map_eq_ok, filterMap_cons_toList]
      constructor
      · rintro ⟨kept, later, rfl⟩
        obtain ⟨rfl, ended⟩ := ih.1 later
        exact ⟨rfl, List.forall_mem_cons.2 ⟨by rw [walked]; rfl, ended⟩⟩
      · rintro ⟨rfl, ended⟩
        exact ⟨_, ih.2 ⟨rfl, (List.forall_mem_cons.1 ended).2⟩, rfl⟩

/-- The annotated declarations are those of the schema with a mode. -/
theorem mem_annotated {decl : TypeDecl} {mode : GenerationMode} :
    (decl, mode) ∈ annotated schema ↔
      decl ∈ schema.types ∧ decl.generationMode? = some mode := by
  simp [annotated, List.mem_filterMap]

/-- Sorting and filtering keep names distinct. -/
theorem annotated_nodup (distinct : (schema.types.map (·.fullName)).Nodup) :
    ((annotated schema).map (·.1.fullName)).Nodup := by
  have sortedNames : ((schema.types.mergeSort (·.fullName ≤ ·.fullName)).map
      (·.fullName)).Nodup :=
    ((List.mergeSort_perm _ _).map _).nodup_iff.2 distinct
  refine List.Nodup.sublist (keys_filterMap_sublist (fun decl item annotated => ?_) _) sortedNames
  obtain ⟨mode, -, rfl⟩ := Option.map_eq_some_iff.1 annotated
  rfl

/-- Accepting keeps names. -/
theorem accepted_names_sublist (items : List (TypeDecl × GenerationMode)) :
    ((items.filterMap (accept? schema)).map (·.fullName)).Sublist
      (items.map (·.1.fullName)) := by
  refine keys_filterMap_sublist (fun item outline accepted => ?_) items
  obtain ⟨chain, -, -, rfl⟩ := accept?_eq_some.1 accepted
  rfl

-- ============================================================== linking

/-- All that linking reads of the other types. -/
def TypeOutline.signature (outline : TypeOutline) : String × Bool :=
  (outline.fullName, outline.raisesEvents)

/-- A name is listed when some signature carries it. -/
theorem any_fullName_iff {types : List TypeOutline} {name : String} :
    types.any (·.fullName == name) = true ↔ name ∈ types.map (·.fullName) := by
  simp [List.any_eq_true]

/-- An outline is linked the same way against lists of the same
signatures. -/
theorem link_congr {accepted others : List TypeOutline}
    (same : ∀ signature, signature ∈ accepted.map TypeOutline.signature
      ↔ signature ∈ others.map TypeOutline.signature)
    (outline : TypeOutline) : outline.link schema accepted = outline.link schema others := by
  have names : ∀ name, accepted.any (·.fullName == name)
      = others.any (·.fullName == name) := by
    intro name
    rw [Bool.eq_iff_iff, any_fullName_iff, any_fullName_iff]
    have fullNames : ∀ types : List TypeOutline,
        types.map (·.fullName) = (types.map TypeOutline.signature).map Prod.fst := by
      intro types
      rw [List.map_map]
      rfl
    rw [fullNames, fullNames, List.mem_map, List.mem_map]
    simp only [same]
  have events : ∀ name,
      (accepted.any fun other => other.fullName == name && other.raisesEvents)
        = others.any fun other => other.fullName == name && other.raisesEvents := by
    intro name
    have raising : ∀ types : List TypeOutline,
        (types.any fun other => other.fullName == name && other.raisesEvents) = true
          ↔ (name, true) ∈ types.map TypeOutline.signature := by
      intro types
      simp [List.any_eq_true, TypeOutline.signature]
    rw [Bool.eq_iff_iff, raising, raising]
    exact same (name, true)
  unfold TypeOutline.link
  simp only [names, events]

section Linked

variable (types : List TypeOutline) (decl : TypeDecl) (mode : GenerationMode)
  (chain : List String)

theorem fullName_link (outline : TypeOutline) :
    (outline.link schema types).fullName = outline.fullName := by
  unfold TypeOutline.link
  split <;> rfl

theorem mode_link (outline : TypeOutline) :
    (outline.link schema types).mode = outline.mode := by
  unfold TypeOutline.link
  split <;> rfl

theorem signature_link (outline : TypeOutline) :
    (outline.link schema types).signature = outline.signature := by
  unfold TypeOutline.signature TypeOutline.raisesEvents
  rw [fullName_link, mode_link]

/-- The chain that an accepted type ends up with. -/
theorem chain_link_outlineOf :
    ((outlineOf decl mode chain).link schema types).chain
      = if mode.isBindable then embeddedChain schema chain else [] := by
  cases mode <;> rfl

/-- Bindable or not, the recorded depth is that of the first listed member
of the chain the type ends up with. -/
theorem ancestorDepth_link_outlineOf :
    ((outlineOf decl mode chain).link schema types).ancestorDepth
      = depthWhere (fun name => types.any (·.fullName == name))
          ((outlineOf decl mode chain).link schema types).chain := by
  cases mode <;> rfl

end Linked

-- ============================================================= the scan

/-- All that has happened when the scan succeeds. -/
theorem outlines_ok {types : List TypeOutline} (run : (outlines schema).value = .ok types) :
    (schema.types.map (·.fullName)).Nodup
      ∧ ∃ accepted, accepted = (annotated schema).filterMap (accept? schema)
        ∧ types = ancestorsFirst (·.fullName) (·.chain)
            (accepted.map (·.link schema accepted)) := by
  unfold outlines at run
  cases unrepeated : firstRepeat? [] (schema.types.map (·.fullName)) with
  | some typeName =>
    rw [unrepeated] at run
    cases run
  | none =>
    rw [unrepeated] at run
    refine ⟨(firstRepeat?_eq_none.1 unrepeated).1, ?_⟩
    cases screened : (screen schema (annotated schema)).value with
    | error fault =>
      simp only [screened] at run
      cases run
    | ok accepted =>
      simp only [screened] at run
      cases run
      exact ⟨accepted, (screen_eq_ok.1 screened).1, rfl⟩

/-- Where a listed type comes from: a declaration found under its name,
whose chain ends and which breaks no rule, linked against the list. -/
theorem mem_outlines {types : List TypeOutline} {type : TypeOutline}
    (run : (outlines schema).value = .ok types) (listed : type ∈ types) :
    ∃ decl mode chain, schema.typeDecl? type.fullName = some decl
      ∧ decl.generationMode? = some mode ∧ baseChain schema decl = some chain
      ∧ violations schema decl mode chain = []
      ∧ type = (outlineOf decl mode chain).link schema types := by
  obtain ⟨distinct, accepted, kept, sorted⟩ := outlines_ok run
  have perm : types.Perm (accepted.map (·.link schema accepted)) := by
    rw [sorted]
    exact List.mergeSort_perm _ _
  have signatures : ∀ signature, signature ∈ accepted.map TypeOutline.signature
      ↔ signature ∈ types.map TypeOutline.signature := by
    intro signature
    rw [(perm.map TypeOutline.signature).mem_iff, List.map_map]
    have same : TypeOutline.signature ∘ (·.link schema accepted) = TypeOutline.signature :=
      funext (signature_link accepted)
    rw [same]
  obtain ⟨outline, inside, rfl⟩ := List.mem_map.1 (perm.mem_iff.1 listed)
  rw [kept] at inside
  obtain ⟨⟨decl, mode⟩, annotatedDecl, acceptedDecl⟩ := List.mem_filterMap.1 inside
  obtain ⟨chain, walked, clean, rfl⟩ := accept?_eq_some.1 acceptedDecl
  obtain ⟨declared, withMode⟩ := mem_annotated.1 annotatedDecl
  refine ⟨decl, mode, chain, ?_, withMode, walked, clean, link_congr signatures _⟩
  rw [fullName_link]
  exact typeDecl?_of_mem distinct declared

end DataBinding
