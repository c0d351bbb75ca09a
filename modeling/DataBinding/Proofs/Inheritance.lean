/-
The shape of the chains that the walk along bases yields.

A chain is what remains of the walk, and the walk has no memory besides
the names it must not meet again: seen from an ancestor in the middle of
a chain, the walk goes on exactly as if it had started there. So the
chain of an ancestor is the part of the descendant's chain behind it
(`baseChain_split`), and no name stands in a chain twice
(`baseChain_nodup`).

Cutting a chain at the first type that embeds nothing keeps this
(`embeddedChain_split`), except that behind such a type nothing is left.

The walk is opened once, by the three equations of the first section and
by `walkBases_cons`; nothing below unfolds it.
-/
import DataBinding.Inheritance

namespace DataBinding

variable {schema : Schema}

-- ============================================================ the steps

/-- A declaration that a reference means is the first one of its name. -/
theorem typeDecl?_of_resolveType? {scope : Option String} {written : String}
    {decl : TypeDecl} (found : schema.resolveType? scope written = some decl) :
    schema.typeDecl? decl.fullName = some decl := by
  obtain ⟨path, -, named⟩ := List.exists_of_findSome?_eq_some found
  have same : decl.fullName = path := (mem_types_of_typeDecl? named).2
  rw [same]
  exact named

/-- Without a base the walk ends. -/
theorem walkBases_none (visited : List String) (scope : Option String) :
    walkBases schema visited scope none = some [] := by
  rw [walkBases]

/-- Where a base names no class the walk ends. -/
theorem walkBases_of_no_class {visited : List String} {scope : Option String}
    {written : String}
    (noClass : ∀ decl, schema.resolveType? scope written = some decl →
      decl.kind ≠ .«class») :
    walkBases schema visited scope (some written) = some [] := by
  rw [walkBases]
  split
  · rfl
  · next decl found => rw [if_neg (noClass decl found)]

/-- At a class the walk goes on from there, unless it has been there. -/
theorem walkBases_of_class {visited : List String} {scope : Option String}
    {written : String} {decl : TypeDecl}
    (found : schema.resolveType? scope written = some decl)
    (isClass : decl.kind = .«class») :
    walkBases schema visited scope (some written) =
      if decl.fullName ∉ visited then
        (walkBases schema (decl.fullName :: visited) decl.scope decl.base).map
          (decl.fullName :: ·)
      else none := by
  rw [walkBases]
  split
  · next unresolved => rw [found] at unresolved; cases unresolved
  · next other found' =>
    rw [found] at found'
    cases found'
    rw [if_pos isClass]
    rfl

/-- All that the walk has done when it ends with a first ancestor. -/
theorem walkBases_cons {visited rest : List String} {scope base : Option String}
    {name : String}
    (walked : walkBases schema visited scope base = some (name :: rest)) :
    ∃ written ancestor, base = some written
      ∧ schema.resolveType? scope written = some ancestor
      ∧ ancestor.kind = .«class» ∧ ancestor.fullName = name ∧ name ∉ visited
      ∧ walkBases schema (name :: visited) ancestor.scope ancestor.base = some rest := by
  cases base with
  | none =>
    rw [walkBases_none] at walked
    cases walked
  | some written =>
    by_cases isClass : ∃ decl, schema.resolveType? scope written = some decl
        ∧ decl.kind = .«class»
    · obtain ⟨decl, found, isClass⟩ := isClass
      rw [walkBases_of_class found isClass] at walked
      split at walked
      · next fresh =>
        obtain ⟨tail, walkedOn, split⟩ := Option.map_eq_some_iff.1 walked
        cases split
        exact ⟨written, decl, rfl, found, isClass, rfl, fresh, walkedOn⟩
      · cases walked
    · rw [walkBases_of_no_class fun decl found same => isClass ⟨decl, found, same⟩] at walked
      cases walked

-- ============================================================ the walk

/-- With fewer names to stay away from, a walk that ends goes the same
way. -/
theorem walkBases_mono {chain visited fewer : List String} {scope base : Option String}
    (walked : walkBases schema visited scope base = some chain)
    (subset : fewer ⊆ visited) :
    walkBases schema fewer scope base = some chain := by
  induction chain generalizing visited fewer scope base with
  | nil =>
    cases base with
    | none => exact walkBases_none fewer scope
    | some written =>
      refine walkBases_of_no_class fun decl found isClass => ?_
      rw [walkBases_of_class found isClass] at walked
      split at walked
      · obtain ⟨tail, -, split⟩ := Option.map_eq_some_iff.1 walked
        cases split
      · cases walked
  | cons name rest ih =>
    obtain ⟨written, ancestor, rfl, found, isClass, rfl, fresh, walkedOn⟩ :=
      walkBases_cons walked
    have stillFresh : ancestor.fullName ∉ fewer := fun visitedBefore =>
      fresh (subset visitedBefore)
    have goesOn := ih walkedOn (List.cons_subset_cons ancestor.fullName subset)
    rw [walkBases_of_class found isClass, if_pos stillFresh, goesOn]
    rfl

/-- A walk stays away from the names it has visited, its own included. -/
theorem walkBases_nodup {chain visited : List String} {scope base : Option String}
    (walked : walkBases schema visited scope base = some chain) :
    chain.Nodup ∧ ∀ name ∈ chain, name ∉ visited := by
  induction chain generalizing visited scope base with
  | nil => exact ⟨List.nodup_nil, fun name inside => absurd inside List.not_mem_nil⟩
  | cons name rest ih =>
    obtain ⟨-, ancestor, -, -, -, -, fresh, walkedOn⟩ := walkBases_cons walked
    obtain ⟨distinct, away⟩ := ih walkedOn
    constructor
    · exact List.nodup_cons.2 ⟨fun again => away name again List.mem_cons_self, distinct⟩
    · intro other inside visitedBefore
      rcases List.mem_cons.1 inside with rfl | inRest
      · exact fresh visitedBefore
      · exact away other inRest (List.mem_cons_of_mem name visitedBefore)

/-- From any member of its chain a walk goes on as from the declaration of
that member. -/
theorem walkBases_split {before rest visited : List String} {scope base : Option String}
    {name : String}
    (walked : walkBases schema visited scope base = some (before ++ name :: rest)) :
    ∃ ancestor, schema.typeDecl? name = some ancestor ∧ ancestor.kind = .«class»
      ∧ baseChain schema ancestor = some rest := by
  induction before generalizing visited scope base with
  | nil =>
    obtain ⟨written, ancestor, -, found, isClass, rfl, -, walkedOn⟩ :=
      walkBases_cons walked
    refine ⟨ancestor, typeDecl?_of_resolveType? found, isClass, ?_⟩
    -- the ancestor's own walk has visited nothing but the ancestor
    exact walkBases_mono walkedOn
      (List.cons_subset_cons ancestor.fullName (List.nil_subset visited))
  | cons nearer before ih =>
    obtain ⟨_, _, _, _, _, _, _, walkedOn⟩ := walkBases_cons walked
    exact ih walkedOn

-- =========================================================== the chains

/-- A chain names no type twice, and never the type it starts from. -/
theorem baseChain_nodup {decl : TypeDecl} {chain : List String}
    (walked : baseChain schema decl = some chain) : (decl.fullName :: chain).Nodup := by
  obtain ⟨distinct, away⟩ := walkBases_nodup walked
  exact List.nodup_cons.2 ⟨fun again => away _ again List.mem_cons_self, distinct⟩

/-- Behind a member of a chain stands the chain of that member. -/
theorem baseChain_split {decl : TypeDecl} {before rest : List String} {name : String}
    (walked : baseChain schema decl = some (before ++ name :: rest)) :
    ∃ ancestor, schema.typeDecl? name = some ancestor ∧ ancestor.kind = .«class»
      ∧ baseChain schema ancestor = some rest :=
  walkBases_split walked

-- ========================================================== the cutting

/-- Cutting takes members away only from the end. -/
theorem embeddedChain_isPrefix (chain : List String) : embeddedChain schema chain <+: chain := by
  induction chain with
  | nil => exact List.prefix_rfl
  | cons name rest ih =>
    rw [embeddedChain]
    split
    · exact ⟨rest, rfl⟩
    · exact List.prefix_cons_inj name |>.2 ih

/-- What is left behind a member: the rest of the chain, cut in turn, or
nothing when the member itself embeds nothing. -/
theorem embeddedChain_split {chain before after : List String} {name : String}
    (cut : embeddedChain schema chain = before ++ name :: after) :
    ∃ rest, chain = before ++ name :: rest
      ∧ after = if embedsNothing schema name then [] else embeddedChain schema rest := by
  induction before generalizing chain with
  | nil =>
    cases chain with
    | nil => cases cut
    | cons first rest =>
      rw [embeddedChain] at cut
      split at cut
      · next embeds =>
        cases cut
        exact ⟨rest, rfl, by rw [if_pos embeds]⟩
      · next embeds =>
        cases cut
        exact ⟨rest, rfl, by rw [if_neg embeds]⟩
  | cons nearer before ih =>
    cases chain with
    | nil => cases cut
    | cons first rest =>
      rw [embeddedChain] at cut
      split at cut
      · -- a chain of one member leaves no room for a second
        injection cut with _ impossible
        cases before <;> cases impossible
      · injection cut with same cutRest
        obtain ⟨farther, rfl, after⟩ := ih cutRest
        exact ⟨farther, by rw [same]; rfl, after⟩

end DataBinding
