/-
A type that nobody refers to disturbs nobody. It may stand anywhere among
the declarations, be bound or not, and derive from whatever is there; what
an analysis says about the others stays as it was, word for word and in the
same order.

That nobody refers to it is a matter of the paths that are looked up on the
walks along bases, and these are fewer than the paths that references may
mean: where a reference is found in its namespace, its bare form is not
looked up, and a stranger may have it for a name.
-/
import DataBinding.Proofs.Enlargements

namespace DataBinding

variable {schema : Schema} {options : Options} {analysis : Analysis}

-- ============================================================= inserting

/-- A schema with one more type, put in after the first few. -/
def Schema.withType (schema : Schema) (position : Nat) (decl : TypeDecl) : Schema :=
  { schema with types := schema.types.take position ++ decl :: schema.types.drop position }

section Stranger

variable {position : Nat} {stranger : TypeDecl}
  (isNew : stranger.fullName ∉ schema.types.map (·.fullName))

theorem mem_withType {decl : TypeDecl} :
    decl ∈ (schema.withType position stranger).types
      ↔ decl = stranger ∨ decl ∈ schema.types := by
  show decl ∈ schema.types.take position ++ stranger :: schema.types.drop position ↔ _
  rw [List.perm_middle.mem_iff, List.take_append_drop, List.mem_cons]

include isNew

/-- The types of other names are those that were there. -/
theorem filter_withType :
    (schema.withType position stranger).types.filter
      (fun decl => decl.fullName != stranger.fullName) = schema.types := by
  have others : ∀ decl ∈ schema.types, (decl.fullName != stranger.fullName) = true :=
    fun decl declared => bne_iff_ne.2 fun same => isNew (same ▸ List.mem_map_of_mem declared)
  show (schema.types.take position ++ stranger :: schema.types.drop position).filter _ = _
  rw [List.filter_append, List.filter_cons_of_neg (by simp), ← List.filter_append,
    List.take_append_drop]
  exact List.filter_eq_self.2 others

theorem nodup_withType (distinct : (schema.types.map (·.fullName)).Nodup) :
    ((schema.withType position stranger).types.map (·.fullName)).Nodup := by
  show ((schema.types.take position ++ stranger :: schema.types.drop position).map _).Nodup
  rw [(List.perm_middle.map _).nodup_iff, List.take_append_drop, List.map_cons]
  exact List.nodup_cons.2 ⟨isNew, distinct⟩

/-- A schema with a stranger enlarges the schema. -/
theorem enlarges_withType (distinct : (schema.types.map (·.fullName)).Nodup)
    (unseen : ∀ decl ∈ schema.types, ¬ LooksUp schema decl stranger.fullName)
    (forthright : ¬ Returns (schema.withType position stranger) stranger) :
    Enlarges (· != stranger.fullName) schema (schema.withType position stranger) where
  enums := rfl
  types := filter_withType isNew
  distinct := nodup_withType isNew distinct
  undisturbed decl declared path looked := bne_iff_ne.2 fun same =>
    unseen decl declared (same ▸ looked)
  ended decl declared dropped := by
    rcases mem_withType.1 declared with rfl | there
    · rw [Option.isSome_iff_ne_none, ne_eq, baseChain_eq_none]
      exact forthright
    · have same : decl.fullName = stranger.fullName := by simpa using dropped
      exact absurd (same ▸ List.mem_map_of_mem there) isNew

end Stranger

-- =============================================================== a stranger

/-- A type of a new name that no walk looks up, and whose own bases come to
an end, can be put in anywhere: the analysis succeeds as before, lists the
types and event types that it listed, with all that it knew of them and in
their order, and reports about them what it reported. -/
theorem analysis_undisturbed (run : analyze schema options = .ok analysis)
    {stranger : TypeDecl} (isNew : stranger.fullName ∉ schema.types.map (·.fullName))
    (unseen : ∀ decl ∈ schema.types, ¬ LooksUp schema decl stranger.fullName)
    {position : Nat} (forthright : ¬ Returns (schema.withType position stranger) stranger) :
    ∃ analysis', analyze (schema.withType position stranger) options = .ok analysis'
      ∧ analysis'.types.filter (·.fullName != stranger.fullName) = analysis.types
      ∧ analysis'.eventTypes.filter (·.fullName != stranger.fullName) = analysis.eventTypes
      ∧ analysis'.diagnostics.filter (·.typeName != stranger.fullName) = analysis.diagnostics :=
  have distinct := (outlines_ok (outlines_of_types run)).1
  (enlarges_withType isNew distinct unseen forthright).analyze_eq run

/-- Whatever is looked up on a walk among declared types is looked up for
the base of one of them. -/
theorem LooksUp.of_declared {decl : TypeDecl} {path : String} (looked : LooksUp schema decl path)
    (declared : decl ∈ schema.types) :
    ∃ last ∈ schema.types, ∃ written, last.base = some written
      ∧ path ∈ lookedUp schema (candidatePaths last.scope written) := by
  induction looked with
  | here derives tried => exact ⟨_, declared, _, derives, tried⟩
  | onward derives _ ih => exact ih derives.mem_types

/-- A mob without a namespace, which derives from the orc of the family. -/
def strangeMob : TypeDecl where
  name := "Mob"
  isPartial := true
  base := some "game::Orc"
  attributes := [.bindable false, .eventRegister]
  fields := [{ name := "_hunger", type := "i32" }]

/-- The family stays what it is with the strange mob among its members,
which is bound as they are. The orc writes its base as the mob, and means
the one in its namespace. -/
theorem family_undisturbed_by_mob :
    ∃ analysis analysis', analyze family {} = .ok analysis
      ∧ analyze (family.withType 3 strangeMob) {} = .ok analysis'
      ∧ "Mob" ∈ candidatePaths (some "game") "Mob"
      ∧ "Mob" ∈ analysis'.types.map (·.fullName)
      ∧ analysis'.types.filter (·.fullName != "Mob") = familyTypes
      ∧ analysis'.eventTypes.filter (·.fullName != "Mob") = analysis.eventTypes
      ∧ analysis'.diagnostics.filter (·.typeName != "Mob") = analysis.diagnostics := by
  obtain ⟨analysis, run, types⟩ := analyze_family
  have unseen : ∀ decl ∈ family.types, ¬ LooksUp family decl strangeMob.fullName := by
    intro decl declared looked
    obtain ⟨last, listed, written, base, tried⟩ := looked.of_declared declared
    have elsewhere : (family.types.all fun last => last.base.all fun written =>
        !(lookedUp family (candidatePaths last.scope written)).contains "Mob") = true := by
      decide +kernel
    have here := List.all_eq_true.1 elsewhere last listed
    rw [base, Option.all_some, Bool.not_eq_true', ← Bool.not_eq_true, List.contains_iff_mem] at here
    exact here tried
  have ends : (baseChain (family.withType 3 strangeMob) strangeMob).isSome := by decide +kernel
  have forthright : ¬ Returns (family.withType 3 strangeMob) strangeMob := by
    rw [← baseChain_eq_none, ← ne_eq, ← Option.isSome_iff_ne_none]
    exact ends
  obtain ⟨analysis', run', sameTypes, sameEvents, sameReports⟩ :=
    analysis_undisturbed run (by decide +kernel) unseen forthright
  have bound : MayBeBound (family.withType 3 strangeMob) strangeMob (.bindable false) :=
    { isPartial := rfl
      topLevel := rfl
      accessible := Or.inl rfl
      derivesAsClass := fun _ _ => nofun
      openBase := by
        intro _ base direct derives found _
        cases derives
        have orc : (family.withType 3 strangeMob).resolveType? none "game::Orc"
            = some family.types[4] := by decide +kernel
        cases orc.symm.trans found
        rfl }
  have listed := (mem_types_iff run' (mem_withType.2 (Or.inl rfl))).2
    ⟨rfl, (mayBeBound_iff rfl).1 bound⟩
  exact ⟨analysis, analysis', run, run', by decide +kernel, listed, sameTypes.trans types,
    sameEvents, sameReports⟩

end DataBinding
