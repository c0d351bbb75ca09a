/-
References written from the root. A `crate::` in front of a path asks for the
declaration of that full name, wherever the reference is written. The reading
of references drops the step and then treats the rest like any other path
(`referencePath_fromRoot`): it is looked up in the namespace first, and as a
full name only if there is nothing. So a namespace with a declaration of its
own under the path *hides* the one at the root.

# How much depends on the namespace

A reference is absolute in a namespace exactly if the namespace does not hide
its path, and two namespaces agree on it exactly if neither hides it or both
look at the same place (`ReadFromRoot`). This is so because a lookup returns a
declaration of the name looked up: what a namespace declares is never what
stands at the root. Chains of bases and kinds of values are made of such
readings and depend on the namespace no more than they do (`RootReference`).
-/
import DataBinding.Proofs.EnumRegistry
import DataBinding.Proofs.Inheritance
import Mathlib.Data.List.DropRight

namespace DataBinding

open Text

variable {schema : Schema} {path : String}

/-- A full name, written as a path from the root. -/
def fromRoot (path : String) : String := "crate::" ++ path

/-- A namespace has a declaration of its own under a path. -/
def Hides {α : Type} (find? : String → Option α) (scope : Option String) (path : String) : Prop :=
  joinPath scope path ≠ path ∧ (find? (joinPath scope path)).isSome

instance {α : Type} (find? : String → Option α) (scope : Option String) (path : String) :
    Decidable (Hides find? scope path) :=
  inferInstanceAs (Decidable (_ ∧ _))

-- ============================================================== trimming

/-- A trimmed text stays trimmed behind characters that are no blanks. -/
theorem trimChars_append {lead cs : List Char} (some_ : lead ≠ [])
    (solid : ∀ c ∈ lead, isBlank c = false) (trimmed : trimChars cs = cs) :
    trimChars (lead ++ cs) = lead ++ cs := by
  have front : (lead ++ cs).dropWhile isBlank = lead ++ cs := by
    obtain ⟨c, rest, rfl⟩ := List.exists_cons_of_ne_nil some_
    exact List.dropWhile_cons_of_neg (by simp [solid])
  have back : cs.rdropWhile isBlank = cs := by
    have again := List.rdropWhile_idempotent isBlank (cs.dropWhile isBlank)
    have same : (cs.dropWhile isBlank).rdropWhile isBlank = cs := trimmed
    rwa [same] at again
  unfold trimChars
  rw [front]
  refine List.rdropWhile_eq_self_iff.2 fun _ => ?_
  by_cases empty : cs = []
  · subst empty
    simp [solid]
  · rw [List.getLast_append_of_ne_nil _ empty]
    exact List.rdropWhile_eq_self_iff.1 back empty

/-- Of a path from the root, the path is read. -/
theorem referencePath_fromRoot (trimmed : trim path = path)
    (bare : ¬ "crate::".toList <+: path.toList) : referencePath (fromRoot path) = path := by
  have solid : "crate::".toList.all (!isBlank ·) = true := by decide +kernel
  have stays : trimChars (fromRoot path).toList = "crate::".toList ++ path.toList := by
    unfold fromRoot
    rw [String.toList_append]
    refine trimChars_append (by decide) (by simpa using solid) ?_
    simpa [trim] using congrArg String.toList trimmed
  have drops : dropCrate ("crate::".toList ++ path.toList) = dropCrate path.toList := rfl
  have keeps : dropCrate path.toList = path.toList := by
    unfold dropCrate
    split
    · next rest begins => exact absurd ⟨rest, begins.symm⟩ bare
    · rfl
  unfold referencePath
  rw [stays, drops, keeps, String.ofList_toList]

-- ============================================================ references

/-- The candidates for a reference are tried in the namespace first. -/
theorem findSome?_candidatePaths {α : Type} (find? : String → Option α) (scope : Option String)
    (written : String) :
    (candidatePaths scope written).findSome? find?
      = (find? (joinPath scope (referencePath written))).or (find? (referencePath written)) := by
  have one (path : String) : [path].findSome? find? = (find? path).or (find? path) := by
    rw [Option.or_self]
    cases found : find? path <;> simp [found]
  unfold candidatePaths joinPath
  cases scope with
  | none => exact one _
  | some outer =>
    dsimp only
    split
    · exact one _
    · rw [List.findSome?_cons]
      cases find? (outer ++ "::" ++ referencePath written) with
      | some found => rfl
      | none => cases found : find? (referencePath written) <;> simp [found]

/-- How a reference to one sort of declarations is read in all namespaces:
what it means is told by the lookups of full names. -/
structure ReadAs {α : Type} (find? : String → Option α)
    (resolve? : Option String → String → Option α) (written path : String) : Prop where
  /-- The namespace is tried first. -/
  tried : ∀ scope, resolve? scope written = (find? (joinPath scope path)).or (find? path)
  /-- The declaration of that full name is meant exactly if the namespace
  does not hide it. -/
  absolute : ∀ scope, resolve? scope written = find? path ↔ ¬ Hides find? scope path
  /-- Two namespaces agree exactly if both look at the same place or neither
  hides the declaration. -/
  agree : ∀ scope other,
    resolve? scope written = resolve? other written ↔
      joinPath scope path = joinPath other path
        ∨ ¬ Hides find? scope path ∧ ¬ Hides find? other path

/-- The reading of a reference, for lookups that return what has the
name. -/
theorem readAs {α : Type} {fullName : α → String} {find? : String → Option α}
    {resolve? : Option String → String → Option α} {written : String}
    (named : ∀ name decl, find? name = some decl → fullName decl = name)
    (tried : ∀ scope,
      resolve? scope written = (find? (joinPath scope path)).or (find? path)) :
    ReadAs find? resolve? written path := by
  have hidden {scope : Option String} (hides : Hides find? scope path) :
      ∃ decl, resolve? scope written = some decl ∧ fullName decl = joinPath scope path := by
    obtain ⟨decl, found⟩ := Option.isSome_iff_exists.1 hides.2
    exact ⟨decl, by rw [tried, found]; rfl, named _ _ found⟩
  have absolute (scope : Option String) :
      resolve? scope written = find? path ↔ ¬ Hides find? scope path := by
    constructor
    · intro same hides
      obtain ⟨decl, found, there⟩ := hidden hides
      exact hides.1 (there.symm.trans (named _ _ (same.symm.trans found)))
    · intro inSight
      rw [tried]
      by_cases here : joinPath scope path = path
      · rw [here, Option.or_self]
      · rw [Option.not_isSome_iff_eq_none.1 fun found => inSight ⟨here, found⟩, Option.none_or]
  refine ⟨tried, absolute, fun scope other => ⟨fun same => ?_, ?_⟩⟩
  · by_cases hides : Hides find? scope path
    · -- the name of what is found tells where it stands
      obtain ⟨decl, found, there⟩ := hidden hides
      by_cases hides' : Hides find? other path
      · obtain ⟨decl', found', there'⟩ := hidden hides'
        rw [found, found'] at same
        cases same
        exact Or.inl (there.symm.trans there')
      · rw [(absolute other).2 hides', found] at same
        exact absurd (there.symm.trans (named _ _ same.symm)) hides.1
    · refine Or.inr ⟨hides, (absolute other).1 ?_⟩
      rw [← same, (absolute scope).2 hides]
  · rintro (place | ⟨inSight, inSight'⟩)
    · rw [tried, tried, place]
    · rw [(absolute scope).2 inSight, (absolute other).2 inSight']

theorem readAs_type (schema : Schema) (written : String) :
    ReadAs schema.typeDecl? schema.resolveType? written (referencePath written) :=
  readAs (fun _ _ found => (mem_types_of_typeDecl? found).2)
    fun scope => findSome?_candidatePaths schema.typeDecl? scope written

theorem readAs_enum (schema : Schema) (written : String) :
    ReadAs schema.enumDecl? schema.resolveEnum? written (referencePath written) :=
  readAs (fun _ _ => fullName_of_enumDecl?)
    fun scope => findSome?_candidatePaths schema.enumDecl? scope written

-- ================================================================= bases

/-- The walk from a reference goes where the reference leads. -/
theorem walkBases_of_resolveType? {scope other : Option String} {written : String}
    (same : schema.resolveType? scope written = schema.resolveType? other written)
    (visited : List String) :
    walkBases schema visited scope (some written)
      = walkBases schema visited other (some written) := by
  by_cases isClass : ∃ decl, schema.resolveType? other written = some decl
      ∧ decl.kind = .«class»
  · obtain ⟨decl, found, isClass⟩ := isClass
    rw [walkBases_of_class found isClass, walkBases_of_class (same.trans found) isClass]
  · have noClass : ∀ decl, schema.resolveType? other written = some decl →
        decl.kind ≠ .«class» := fun decl found kind => isClass ⟨decl, found, kind⟩
    rw [walkBases_of_no_class noClass, walkBases_of_no_class (same ▸ noClass)]

-- ================================================================= values

theorem withoutBlanks_append (front back : String) :
    withoutBlanks (front ++ back) = withoutBlanks front ++ withoutBlanks back := by
  unfold withoutBlanks
  rw [String.toList_append, List.filter_append, String.ofList_append]

theorem withoutBlanks_fromRoot (path : String) :
    withoutBlanks (fromRoot path) = fromRoot (withoutBlanks path) :=
  withoutBlanks_append "crate::" path

/-- A path from the root is no list type. -/
theorem listElement?_fromRoot (path : String) : listElement? (fromRoot path) = none := by
  simp [listElement?, fromRoot, listHeads, dropLead?]

/-- Behind the head of a list type it is the element. -/
theorem listElement?_list_fromRoot {head : String} (isHead : head ∈ listHeads) (path : String) :
    listElement? (head ++ fromRoot path ++ ">") = some (fromRoot path) := by
  have closed (rest : List Char) (dropped : listHeads.findSome?
      (dropLead? · (head ++ fromRoot path ++ ">").toList) = some (rest ++ ['>'])) :
      listElement? (head ++ fromRoot path ++ ">") = some (String.ofList rest) := by
    unfold listElement?
    rw [dropped]
    simp
  rw [closed (fromRoot path).toList, String.ofList_toList]
  rcases List.mem_cons.1 isHead with rfl | isHead
  · simp [listHeads, dropLead?]
  · rcases List.mem_cons.1 isHead with rfl | isHead
    · simp [listHeads, dropLead?]
    · cases List.mem_singleton.1 isHead
      simp [listHeads, dropLead?]

/-- A path from the root is none of the known scalars. -/
theorem knownScalar?_fromRoot (path : String) : knownScalar? (fromRoot path) = none := by
  have begins : (fromRoot path).toList.head? = some 'c' := by simp [fromRoot]
  unfold knownScalar?
  split
  all_goals first | rfl | simp_all

/-- A scalar written from the root is the enum it means, if there is one. -/
theorem classifyScalar_fromRoot (schema : Schema) (scope : Option String) (path : String) :
    classifyScalar schema scope (fromRoot path)
      = ((schema.resolveEnum? scope (fromRoot path)).map .ofEnum).getD
          (.unsupported (fromRoot path)) := by
  unfold classifyScalar
  rw [knownScalar?_fromRoot]
  cases schema.resolveEnum? scope (fromRoot path) <;> rfl

/-- Two namespaces give it one meaning exactly if they find one enum. -/
theorem classifyScalar_fromRoot_eq {scope other : Option String} :
    classifyScalar schema scope (fromRoot path) = classifyScalar schema other (fromRoot path) ↔
      schema.resolveEnum? scope (fromRoot path) = schema.resolveEnum? other (fromRoot path) := by
  rw [classifyScalar_fromRoot, classifyScalar_fromRoot]
  refine ⟨fun same => ?_, fun same => by rw [same]⟩
  have named := congrArg Classified.enumName same
  cases found : schema.resolveEnum? scope (fromRoot path) with
  | none =>
    cases found' : schema.resolveEnum? other (fromRoot path) with
    | none => rfl
    | some decl' =>
      rw [found, found'] at named
      cases named
  | some decl =>
    cases found' : schema.resolveEnum? other (fromRoot path) with
    | none =>
      rw [found, found'] at named
      cases named
    | some decl' =>
      rw [found, found'] at named
      have sameName : decl.fullName = decl'.fullName := Option.some.inj named
      rw [← enumDecl?_of_resolveEnum? found, sameName, enumDecl?_of_resolveEnum? found']

/-- What a type written from the root means is a matter of the scalar. -/
theorem classify_fromRoot (schema : Schema) (scope : Option String) (path : String) :
    classify schema scope (fromRoot path)
      = classifyScalar schema scope (fromRoot (withoutBlanks path)) := by
  unfold classify
  dsimp only
  rw [withoutBlanks_fromRoot, listElement?_fromRoot]

theorem classify_list_fromRoot {scope other : Option String} {head : String}
    (isHead : head ∈ listHeads)
    (same : classifyScalar schema scope (fromRoot (withoutBlanks path))
      = classifyScalar schema other (fromRoot (withoutBlanks path))) :
    classify schema scope (head ++ fromRoot path ++ ">")
      = classify schema other (head ++ fromRoot path ++ ">") := by
  have solid : withoutBlanks (head ++ fromRoot path ++ ">")
      = head ++ fromRoot (withoutBlanks path) ++ ">" := by
    have headSolid : ∀ lead ∈ listHeads, withoutBlanks lead = lead := by decide +kernel
    rw [withoutBlanks_append, withoutBlanks_append, withoutBlanks_fromRoot, headSolid head isHead]
    rfl
  unfold classify
  dsimp only
  rw [solid, listElement?_list_fromRoot isHead]
  dsimp only
  rw [same]

-- ======================================================= the whole reading

/-- The path that a type written from the root is looked up as. Blanks count
for nothing in types. -/
def typePath (path : String) : String := referencePath (fromRoot (withoutBlanks path))

/-- What a path written from the root means, in all namespaces. -/
structure RootReference (schema : Schema) (path : String) : Prop where
  types : ReadAs schema.typeDecl? schema.resolveType? (fromRoot path) path
  enums : ReadAs schema.enumDecl? schema.resolveEnum? (fromRoot path) path
  /-- As a base it leads along one chain from all namespaces that do not
  hide the type. -/
  chains : ∀ scope other, ¬ Hides schema.typeDecl? scope path →
    ¬ Hides schema.typeDecl? other path → ∀ visited,
      walkBases schema visited scope (some (fromRoot path))
        = walkBases schema visited other (some (fromRoot path))
  /-- A path without blanks is looked up as it stands. -/
  solid : withoutBlanks path = path → typePath path = path
  /-- As the type of a value it has one meaning in two namespaces exactly if
  they agree on the enum. -/
  values : ∀ scope other,
    classify schema scope (fromRoot path) = classify schema other (fromRoot path) ↔
      joinPath scope (typePath path) = joinPath other (typePath path)
        ∨ ¬ Hides schema.enumDecl? scope (typePath path)
          ∧ ¬ Hides schema.enumDecl? other (typePath path)
  /-- So it has as the element of a list, if neither hides the enum. -/
  lists : ∀ head ∈ listHeads, ∀ scope other,
    ¬ Hides schema.enumDecl? scope (typePath path) →
    ¬ Hides schema.enumDecl? other (typePath path) →
      classify schema scope (head ++ fromRoot path ++ ">")
        = classify schema other (head ++ fromRoot path ++ ">")

/-- A path written from the root means the declaration of that full name in
all namespaces but those with a declaration of their own under the path,
and these are the only ones that see another chain or another enum. -/
theorem rootReference (schema : Schema) {path : String} (trimmed : trim path = path)
    (bare : ¬ "crate::".toList <+: path.toList) : RootReference schema path := by
  have read := referencePath_fromRoot trimmed bare
  have types := readAs_type schema (fromRoot path)
  have enums := readAs_enum schema (fromRoot path)
  have values := readAs_enum schema (fromRoot (withoutBlanks path))
  rw [read] at types enums
  refine ⟨types, enums, ?chains, ?solid, ?values, ?lists⟩
  case chains =>
    intro scope other inSight inSight'
    exact walkBases_of_resolveType? ((types.agree scope other).2 (Or.inr ⟨inSight, inSight'⟩))
  case solid =>
    intro noBlanks
    unfold typePath
    rw [noBlanks, read]
  case values =>
    intro scope other
    rw [classify_fromRoot, classify_fromRoot, classifyScalar_fromRoot_eq]
    exact values.agree scope other
  case lists =>
    intro head isHead scope other inSight inSight'
    refine classify_list_fromRoot isHead (classifyScalar_fromRoot_eq.2 ?_)
    exact (values.agree scope other).2 (Or.inr ⟨inSight, inSight'⟩)

-- ============================================================ two heroes

/-- A hero at the root and one in the game, and an enum for each. -/
def twoHeroes : Schema where
  types := [{ name := "Hero" }, { name := "Hero", scope := some "game" }]
  enums := [{ name := "Hero" }, { name := "Hero", scope := some "game" }]

/-- The game hides the hero at the root; a shop does not. -/
theorem twoHeroes_reading :
    (trim "Hero" = "Hero" ∧ ¬ "crate::".toList <+: "Hero".toList)
      ∧ twoHeroes.resolveType? (some "shop") "crate::Hero" = twoHeroes.typeDecl? "Hero"
      ∧ twoHeroes.resolveType? (some "game") "crate::Hero" ≠ twoHeroes.typeDecl? "Hero" := by
  have trimmed : trim "Hero" = "Hero" := by decide +kernel
  have bare : ¬ "crate::".toList <+: "Hero".toList := by decide +kernel
  have reading := (rootReference twoHeroes trimmed bare).types
  refine ⟨⟨trimmed, bare⟩, (reading.absolute (some "shop")).2 (by decide +kernel), ?_⟩
  exact fun same => (reading.absolute (some "game")).1 same (by decide +kernel)

/-- Inside the game the hero at the root cannot be named: written from the
root it is still the game's own hero, as a type and as an enum, as a base
and as the type of a value. -/
theorem twoHeroes_root_out_of_reach :
    ∃ root hero, twoHeroes.typeDecl? "Hero" = some root
      ∧ twoHeroes.typeDecl? "game::Hero" = some hero ∧ root ≠ hero
      ∧ twoHeroes.resolveType? none (fromRoot "Hero") = some root
      ∧ twoHeroes.resolveType? (some "game") (fromRoot "Hero") = some hero
      ∧ walkBases twoHeroes [] none (some (fromRoot "Hero")) = some ["Hero"]
      ∧ walkBases twoHeroes [] (some "game") (some (fromRoot "Hero")) = some ["game::Hero"]
      ∧ (classify twoHeroes none (fromRoot "Hero")).enumName = some "Hero"
      ∧ (classify twoHeroes (some "game") (fromRoot "Hero")).enumName = some "game::Hero" :=
  ⟨{ name := "Hero" }, { name := "Hero", scope := some "game" }, by decide +kernel⟩

end DataBinding
