/-
Where the walk along bases leads, said without the walk. A declaration
derives from the class that its base resolves to; following this from class
to class gives a trail. There is at most one class to go on to, so a
declaration has one trail, longer or shorter, and of two stretches of it one
continues the other (`Trail.isPrefix`).

# Two ways to end

The walk goes along the trail until there is nothing to go on to, or until
it would come to a name that it has met (`walk_outcome`). Until then all
names are distinct, so it has not gone farther than there are declarations.
The two ways exclude each other: on a trail that has come to its end with
distinct names there is no way back (`Trail.not_returns`). So each of them
is told by the trail alone, whatever else is declared, under whatever names.
-/
import DataBinding.Proofs.Inheritance
import Mathlib.Data.List.Nodup
import Mathlib.Data.List.Perm.Subperm

namespace DataBinding

variable {schema : Schema} {decl : TypeDecl}

-- ============================================================== one step

/-- The class that the base of a declaration resolves to, read in the
namespace of the declaration. -/
structure DerivesFrom (schema : Schema) (decl ancestor : TypeDecl) : Prop where
  resolves : ∃ written, decl.base = some written
    ∧ schema.resolveType? decl.scope written = some ancestor
  isClass : ancestor.kind = .«class»

/-- Nothing to go on to: no base, or one that names nothing or a struct. -/
inductive EndsAt (schema : Schema) (decl : TypeDecl) : Prop
  | noBase (absent : decl.base = none)
  | unresolved {written : String} (derives : decl.base = some written)
      (unknown : schema.resolveType? decl.scope written = none)
  | struct {written : String} {ancestor : TypeDecl} (derives : decl.base = some written)
      (found : schema.resolveType? decl.scope written = some ancestor)
      (isStruct : ancestor.kind = .struct)

/-- A base resolves to one class at most. -/
theorem DerivesFrom.unique {ancestor other : TypeDecl} (first : DerivesFrom schema decl ancestor)
    (second : DerivesFrom schema decl other) : ancestor = other := by
  obtain ⟨written, derives, found⟩ := first.resolves
  obtain ⟨written', derives', found'⟩ := second.resolves
  rw [derives] at derives'
  cases derives'
  exact Option.some.inj (found.symm.trans found')

theorem DerivesFrom.mem_types {ancestor : TypeDecl} (derives : DerivesFrom schema decl ancestor) :
    ancestor ∈ schema.types := by
  obtain ⟨_, -, found⟩ := derives.resolves
  exact mem_types_of_resolveType? found

theorem EndsAt.not_derives (ends : EndsAt schema decl) (ancestor : TypeDecl) :
    ¬ DerivesFrom schema decl ancestor := by
  rintro ⟨⟨written, derives, found⟩, isClass⟩
  cases ends with
  | noBase absent =>
    rw [absent] at derives
    cases derives
  | unresolved derives' unknown =>
    rw [derives] at derives'
    cases derives'
    rw [unknown] at found
    cases found
  | struct derives' found' isStruct =>
    rw [derives] at derives'
    cases derives'
    rw [found] at found'
    cases found'
    rw [isStruct] at isClass
    cases isClass

theorem endsAt_or_derives (schema : Schema) (decl : TypeDecl) :
    EndsAt schema decl ∨ ∃ ancestor, DerivesFrom schema decl ancestor := by
  cases derives : decl.base with
  | none => exact Or.inl (.noBase derives)
  | some written =>
    cases found : schema.resolveType? decl.scope written with
    | none => exact Or.inl (.unresolved derives found)
    | some ancestor =>
      cases kind : ancestor.kind with
      | struct => exact Or.inl (.struct derives found kind)
      | «class» => exact Or.inr ⟨ancestor, ⟨written, derives, found⟩, kind⟩

-- ================================================================ trails

/-- From a declaration one comes to the last one along a trail of classes,
the nearest first. -/
inductive Trail (schema : Schema) : TypeDecl → List TypeDecl → TypeDecl → Prop
  | here (decl : TypeDecl) : Trail schema decl [] decl
  | step {decl next last : TypeDecl} {trail : List TypeDecl}
      (derives : DerivesFrom schema decl next) (onward : Trail schema next trail last) :
      Trail schema decl (next :: trail) last

/-- Following classes comes back to the name it has started from, or to that
of a class met before. -/
def Returns (schema : Schema) (decl : TypeDecl) : Prop :=
  ∃ trail last again, Trail schema decl trail last ∧ DerivesFrom schema last again
    ∧ again.fullName ∈ (decl :: trail).map (·.fullName)

namespace Trail

variable {last final next : TypeDecl} {trail whole : List TypeDecl}

theorem snoc (walked : Trail schema decl trail last) (derives : DerivesFrom schema last next) :
    Trail schema decl (trail ++ [next]) next := by
  induction walked with
  | here decl => exact .step derives (.here next)
  | step first _ ih => exact .step first (ih derives)

/-- All trails from a declaration are stretches of the one that ends. -/
theorem isPrefix (walked : Trail schema decl trail last) (full : Trail schema decl whole final)
    (ends : EndsAt schema final) : trail <+: whole := by
  induction walked generalizing whole with
  | here decl => exact List.nil_prefix
  | step derives _ ih =>
    cases full with
    | here => exact absurd derives (ends.not_derives _)
    | step derives' onward =>
      cases derives.unique derives'
      exact (List.prefix_cons_inj _).2 (ih onward)

/-- A trail goes through declared types. -/
theorem subset (walked : Trail schema decl trail last) : trail ⊆ schema.types := by
  induction walked with
  | here => exact List.nil_subset _
  | step derives _ ih => exact List.cons_subset.2 ⟨derives.mem_types, ih⟩

/-- Without a repetition a trail is no longer than the list of
declarations. -/
theorem length_le (walked : Trail schema decl trail last)
    (distinct : (trail.map (·.fullName)).Nodup) : trail.length ≤ schema.types.length :=
  (distinct.of_map.subperm walked.subset).length_le

/-- From a trail that ends without a repetition there is no way back. -/
theorem not_returns (full : Trail schema decl whole final) (ends : EndsAt schema final)
    (distinct : ((decl :: whole).map (·.fullName)).Nodup) : ¬ Returns schema decl := by
  rintro ⟨trail, last, again, walked, derives, met⟩
  -- the way back would be a stretch of the trail
  have within : (decl :: (trail ++ [again])).map (·.fullName)
      <+: (decl :: whole).map (·.fullName) :=
    ((List.prefix_cons_inj decl).2 ((walked.snoc derives).isPrefix full ends)).map _
  have once := distinct.sublist within.sublist
  rw [← List.cons_append, List.map_append] at once
  exact List.disjoint_of_nodup_append once met (List.mem_singleton_self _)

end Trail

-- ============================================================== the walk

theorem walk_of_endsAt (ends : EndsAt schema decl) (visited : List String) :
    walkBases schema visited decl.scope decl.base = some [] := by
  cases derives : decl.base with
  | none => exact walkBases_none visited decl.scope
  | some written =>
    exact walkBases_of_no_class fun ancestor found isClass =>
      ends.not_derives ancestor ⟨⟨written, derives, found⟩, isClass⟩

theorem walk_of_derives {ancestor : TypeDecl} (derives : DerivesFrom schema decl ancestor)
    (visited : List String) :
    walkBases schema visited decl.scope decl.base =
      if ancestor.fullName ∉ visited then
        (walkBases schema (ancestor.fullName :: visited) ancestor.scope ancestor.base).map
          (ancestor.fullName :: ·)
      else none := by
  obtain ⟨written, base, found⟩ := derives.resolves
  rw [base]
  exact walkBases_of_class found derives.isClass

/-- The walk follows a trail of names that it has not met, until it ends or
would come to a name again. -/
theorem walk_outcome (schema : Schema) (visited : List String) (decl : TypeDecl) :
    ∃ trail last, Trail schema decl trail last
      ∧ (trail.map (·.fullName)).Nodup ∧ (∀ name ∈ trail.map (·.fullName), name ∉ visited)
      ∧ (EndsAt schema last
          ∧ walkBases schema visited decl.scope decl.base = some (trail.map (·.fullName))
        ∨ (∃ again, DerivesFrom schema last again
            ∧ (again.fullName ∈ visited ∨ again.fullName ∈ trail.map (·.fullName)))
          ∧ walkBases schema visited decl.scope decl.base = none) := by
  -- by the number of names that are left to come to
  induction left : schema.types.countP (fun d => d.fullName ∉ visited)
    using Nat.strongRecOn generalizing visited decl with
  | _ count ih =>
    rcases endsAt_or_derives schema decl with ends | ⟨next, derives⟩
    · exact ⟨[], decl, .here decl, List.nodup_nil, fun _ => nofun,
        Or.inl ⟨ends, walk_of_endsAt ends visited⟩⟩
    · by_cases met : next.fullName ∈ visited
      · refine ⟨[], decl, .here decl, List.nodup_nil, fun _ => nofun,
          Or.inr ⟨⟨next, derives, Or.inl met⟩, ?_⟩⟩
        rw [walk_of_derives derives, if_neg (not_not.2 met)]
      · have fewer := unvisited_lt derives.mem_types met
        obtain ⟨trail, last, onward, distinct, away, outcome⟩ :=
          ih _ (left ▸ fewer) (next.fullName :: visited) next rfl
        refine ⟨next :: trail, last, .step derives onward, ?_, ?_, ?_⟩
        · exact List.nodup_cons.2 ⟨fun again => away _ again List.mem_cons_self, distinct⟩
        · refine List.forall_mem_cons.2 ⟨met, fun name inside old => ?_⟩
          exact away name inside (List.mem_cons_of_mem _ old)
        · rw [walk_of_derives derives, if_pos met]
          rcases outcome with ⟨ends, walked⟩ | ⟨⟨again, back, known⟩, walked⟩
          · exact Or.inl ⟨ends, by rw [walked]; rfl⟩
          · refine Or.inr ⟨⟨again, back, ?_⟩, by rw [walked]; rfl⟩
            rcases known with old | inTrail
            · rcases List.mem_cons.1 old with same | older
              · exact Or.inr (same ▸ List.mem_cons_self)
              · exact Or.inl older
            · exact Or.inr (List.mem_cons_of_mem _ inTrail)

/-- The walk from a declaration ends with its trail, or comes back. -/
theorem baseChain_outcome (schema : Schema) (decl : TypeDecl) :
    ∃ trail last, Trail schema decl trail last ∧ ((decl :: trail).map (·.fullName)).Nodup
      ∧ (EndsAt schema last ∧ baseChain schema decl = some (trail.map (·.fullName))
        ∨ (∃ again, DerivesFrom schema last again
            ∧ again.fullName ∈ (decl :: trail).map (·.fullName))
          ∧ baseChain schema decl = none) := by
  obtain ⟨trail, last, walked, distinct, away, outcome⟩ :=
    walk_outcome schema [decl.fullName] decl
  refine ⟨trail, last, walked, ?_, outcome.imp_right ?_⟩
  · exact List.nodup_cons.2
      ⟨fun again => away _ again (List.mem_singleton_self _), distinct⟩
  · rintro ⟨⟨again, derives, known⟩, cyclic⟩
    exact ⟨⟨again, derives, List.mem_cons.2 (known.imp_left List.mem_singleton.1)⟩, cyclic⟩

/-- There is no chain exactly where following classes comes back. -/
theorem baseChain_eq_none : baseChain schema decl = none ↔ Returns schema decl := by
  obtain ⟨trail, last, walked, distinct, ⟨ends, chain⟩ | ⟨⟨again, derives, met⟩, cyclic⟩⟩ :=
    baseChain_outcome schema decl
  · have noReturn := walked.not_returns ends distinct
    rw [chain]
    exact ⟨nofun, fun returns => absurd returns noReturn⟩
  · exact ⟨fun _ => ⟨trail, last, again, walked, derives, met⟩, fun _ => cyclic⟩

/-- A spoke leads to the hub, and the hub and the rim to one another. -/
def wheel : Schema where
  types :=
    [{ name := "Spoke", base := some "Hub" },
     { name := "Hub", base := some "Rim" },
     { name := "Rim", base := some "crate::Hub" },
     { name := "Axle", base := some "Iron" }]

/-- The spoke has no chain either, though it is not part of the ring. -/
example : wheel.types.map (baseChain wheel) = [none, none, none, some []] := by
  decide +kernel

/-- The chain holds the names along the trail that ends, distinct from one
another and from the name of the declaration. -/
theorem baseChain_eq_some {chain : List String} :
    baseChain schema decl = some chain ↔
      ∃ trail last, Trail schema decl trail last ∧ EndsAt schema last
        ∧ chain = trail.map (·.fullName) ∧ (decl.fullName :: chain).Nodup := by
  constructor
  · intro walked
    obtain ⟨trail, last, followed, distinct, ⟨ends, walked'⟩ | ⟨-, cyclic⟩⟩ :=
      baseChain_outcome schema decl
    · rw [walked] at walked'
      cases walked'
      exact ⟨trail, last, followed, ends, rfl, distinct⟩
    · rw [walked] at cyclic
      cases cyclic
  · rintro ⟨trail, last, followed, ends, rfl, distinct⟩
    have noReturn := followed.not_returns ends distinct
    rw [← baseChain_eq_none] at noReturn
    obtain ⟨chain, walked⟩ := Option.ne_none_iff_exists'.1 noReturn
    obtain ⟨trail', last', followed', -, ⟨ends', walked'⟩ | ⟨-, cyclic⟩⟩ :=
      baseChain_outcome schema decl
    · -- both trails end, so each is a stretch of the other
      have same : trail = trail' := (followed.isPrefix followed' ends').eq_of_length_le
        (followed'.isPrefix followed ends).length_le
      rw [same, walked']
    · rw [walked] at cyclic
      cases cyclic

end DataBinding
