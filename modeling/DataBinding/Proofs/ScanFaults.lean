/-
The two faults of the scan are exact. Which schema cannot be used, what it
is told, and what has been reported until then is said here of the
declarations and of the trails of their bases alone.

A name that stands twice is found before anything else is looked at. After
that the declarations to be bound are gone through by name, so what decides
between several that come back to themselves is the order of the names, and
not the order in which they are written: the scan stops at the least, and
has reported about those before it (`screen_eq_error`). Names are compared
by their bytes.
-/
import DataBinding.Proofs.ByteOrder
import DataBinding.Proofs.Rejections
import DataBinding.Proofs.Walks

namespace DataBinding

open Text

variable {schema : Schema}

-- ======================================================= repeated names

/-- The name that is found is that of the first item whose name has been
seen, before the list or in it. -/
theorem firstRepeat?_eq_some {seen names : List String} {name : String} :
    firstRepeat? seen names = some name ↔
      ∃ before after, names = before ++ name :: after
        ∧ before.Nodup ∧ (∀ earlier ∈ before, earlier ∉ seen)
        ∧ (name ∈ seen ∨ name ∈ before) := by
  induction names generalizing seen with
  | nil => simp [firstRepeat?]
  | cons first rest ih =>
    rw [firstRepeat?]
    by_cases repeated : first ∈ seen
    · rw [if_pos repeated, Option.some.injEq]
      constructor
      · rintro rfl
        exact ⟨[], rest, rfl, List.nodup_nil, List.forall_mem_nil _, Or.inl repeated⟩
      · rintro ⟨_ | ⟨earlier, before⟩, after, split, -, away, -⟩
        · injection split
        · injection split with same
          exact absurd repeated (same ▸ away earlier List.mem_cons_self)
    · rw [if_neg repeated, ih]
      constructor
      · rintro ⟨before, after, rfl, distinct, away, found⟩
        refine ⟨first :: before, after, rfl, ?_, ?_, ?_⟩
        · exact List.nodup_cons.2 ⟨fun again => away _ again List.mem_cons_self, distinct⟩
        · exact List.forall_mem_cons.2 ⟨repeated, fun earlier inside old =>
            away earlier inside (List.mem_cons_of_mem _ old)⟩
        · rcases found with old | inside
          · rcases List.mem_cons.1 old with rfl | older
            · exact Or.inr List.mem_cons_self
            · exact Or.inl older
          · exact Or.inr (List.mem_cons_of_mem _ inside)
      · rintro ⟨_ | ⟨earlier, before⟩, after, split, distinct, away, found⟩
        · injection split with same
          exact absurd (found.resolve_right List.not_mem_nil) (same ▸ repeated)
        · injection split with same rest
          cases same
          obtain ⟨once, distinct⟩ := List.nodup_cons.1 distinct
          refine ⟨before, after, rest, distinct, fun later inside old => ?_, ?_⟩
          · rcases List.mem_cons.1 old with rfl | older
            · exact once inside
            · exact away later (List.mem_cons_of_mem _ inside) older
          · rcases found with old | inside
            · exact Or.inl (List.mem_cons_of_mem _ old)
            · rcases List.mem_cons.1 inside with rfl | later
              · exact Or.inl List.mem_cons_self
              · exact Or.inr later

-- ============================================================ screening

/-- Screening fails at the first declaration whose chain does not end. -/
theorem screen_eq_error {items : List (TypeDecl × GenerationMode)} {fault : SchemaFault} :
    (screen schema items).value = .error fault ↔
      ∃ before item after, items = before ++ item :: after
        ∧ (∀ earlier ∈ before, (baseChain schema earlier.1).isSome)
        ∧ baseChain schema item.1 = none ∧ fault = .cyclicBase item.1.fullName := by
  induction items with
  | nil => simp [screen]
  | cons first rest ih =>
    obtain ⟨decl, mode⟩ := first
    cases walked : baseChain schema decl with
    | none =>
      have failed : (screen schema ((decl, mode) :: rest)).value
          = .error (.cyclicBase decl.fullName) := by
        rw [screen]
        simp only [walked]
      rw [failed]
      constructor
      · intro same
        cases same
        exact ⟨[], _, rest, rfl, List.forall_mem_nil _, walked, rfl⟩
      · rintro ⟨_ | ⟨earlier, before⟩, item, after, split, ended, -, rfl⟩
        · injection split with same
          cases same
          rfl
        · injection split with same
          have here := ended earlier List.mem_cons_self
          rw [← same, walked] at here
          cases here
    | some chain =>
      have goesOn : (screen schema ((decl, mode) :: rest)).value = .error fault
          ↔ (screen schema rest).value = .error fault := by
        rw [screen_cons walked]
        cases (screen schema rest).value <;> simp [Except.map]
      rw [goesOn, ih]
      constructor
      · rintro ⟨before, item, after, rfl, ended, cyclic, rfl⟩
        refine ⟨(decl, mode) :: before, item, after, rfl, ?_, cyclic, rfl⟩
        exact List.forall_mem_cons.2 ⟨by rw [walked]; rfl, ended⟩
      · rintro ⟨_ | ⟨earlier, before⟩, item, after, split, ended, cyclic, rfl⟩
        · injection split with same
          rw [← same, walked] at cyclic
          cases cyclic
        · injection split with same split
          exact ⟨before, item, after, split, (List.forall_mem_cons.1 ended).2, cyclic, rfl⟩

/-- Until it fails, screening reports as if nothing came after. -/
theorem diagnostics_screen_append {before : List (TypeDecl × GenerationMode)}
    (ended : ∀ earlier ∈ before, (baseChain schema earlier.1).isSome)
    (rest : List (TypeDecl × GenerationMode)) :
    (screen schema (before ++ rest)).diagnostics
      = (screen schema before).diagnostics ++ (screen schema rest).diagnostics := by
  induction before with
  | nil => rfl
  | cons first before ih =>
    obtain ⟨decl, mode⟩ := first
    obtain ⟨here, later⟩ := List.forall_mem_cons.1 ended
    obtain ⟨chain, walked⟩ := Option.isSome_iff_exists.1 here
    rw [List.cons_append, screen, screen]
    simp only [walked]
    rw [ih later, List.append_assoc]

/-- Where the first chain does not end, nothing is reported. -/
theorem diagnostics_screen_of_cyclic {item : TypeDecl × GenerationMode}
    (cyclic : baseChain schema item.1 = none) (rest : List (TypeDecl × GenerationMode)) :
    (screen schema (item :: rest)).diagnostics = [] := by
  obtain ⟨decl, mode⟩ := item
  rw [screen]
  simp only [cyclic]

/-- The declarations to be bound stand in the order of their names. -/
theorem annotated_sorted (distinct : (schema.types.map (·.fullName)).Nodup) :
    (annotated schema).Pairwise fun a b => a.1.fullName < b.1.fullName := by
  have sorted : (schema.types.mergeSort (·.fullName ≤ ·.fullName)).Pairwise
      fun a b => a.fullName ≤ b.fullName := by
    refine (List.pairwise_mergeSort ?_ ?_ _).imp of_decide_eq_true
    · intro a b c first second
      exact decide_eq_true (String.le_trans (of_decide_eq_true first) (of_decide_eq_true second))
    · intro a b
      simpa using String.le_total a.fullName b.fullName
  have apart : (schema.types.mergeSort (·.fullName ≤ ·.fullName)).Pairwise
      fun a b => a.fullName ≠ b.fullName :=
    List.pairwise_map.1 (((List.mergeSort_perm _ _).map _).nodup_iff.2 distinct)
  refine List.Pairwise.filterMap _ (fun a b less item made item' made' => ?_)
    (List.Pairwise.imp₂ (fun a b => lt_of_le_of_ne) sorted apart)
  obtain ⟨mode, -, rfl⟩ := Option.map_eq_some_iff.1 made
  obtain ⟨mode', -, rfl⟩ := Option.map_eq_some_iff.1 made'
  exact less

-- ============================================================ vocabulary

/-- A declaration to be bound whose bases come back. -/
structure TurnsBack (schema : Schema) (decl : TypeDecl) : Prop where
  declared : decl ∈ schema.types
  bound : decl.generationMode?.isSome = true
  returns : Returns schema decl

/-- Reports that say of each of some declarations, one after the other,
which rules it breaks, each rule once, and say nothing else. -/
def TellsOf (schema : Schema) (decls : List TypeDecl) (diagnostics : List Diagnostic) : Prop :=
  ∃ broken : TypeDecl → List Violation,
    (∀ decl ∈ decls, (broken decl).Nodup
      ∧ ∀ violation, violation ∈ broken decl ↔ Breaks schema decl violation)
    ∧ diagnostics = decls.flatMap fun decl => (broken decl).map (·.diagnostic decl)

/-- What the walk from one declaration comes to. -/
structure WalkIsExact (schema : Schema) (decl : TypeDecl) : Prop where
  /-- Without a repetition it goes through no more classes than there are
  declarations; then it is at the end, or before a name it has met. -/
  ends : ∃ trail last, Trail schema decl trail last
    ∧ trail.length ≤ schema.types.length ∧ ((decl :: trail).map (·.fullName)).Nodup
    ∧ (EndsAt schema last ∨ ∃ again, DerivesFrom schema last again
        ∧ again.fullName ∈ (decl :: trail).map (·.fullName))
  cyclic : baseChain schema decl = none ↔ Returns schema decl
  chain : ∀ chain, baseChain schema decl = some chain ↔
    ∃ trail last, Trail schema decl trail last ∧ EndsAt schema last
      ∧ chain = trail.map (·.fullName) ∧ (decl.fullName :: chain).Nodup
  /-- The fault names the declaration that the walk has started from. -/
  fault : ∀ mode fault, (screen schema [(decl, mode)]).value = .error fault ↔
    Returns schema decl ∧ fault = .cyclicBase decl.fullName
  eventFault : ∀ fault, (screenEvents schema [decl]).value = .error fault ↔
    Returns schema decl ∧ fault = .cyclicBase decl.fullName

/-- What the scan of a schema comes to. -/
structure ScanIsExact (schema : Schema) : Prop where
  duplicate : ∀ name, (outlines schema).value = .error (.duplicateType name) ↔
    ∃ before again after, schema.types = before ++ again :: after
      ∧ (before.map (·.fullName)).Nodup ∧ again.fullName ∈ before.map (·.fullName)
      ∧ again.fullName = name
  repeated : (∃ name, (outlines schema).value = .error (.duplicateType name)) ↔
    ¬ (schema.types.map (·.fullName)).Nodup
  silent : ∀ name, (outlines schema).value = .error (.duplicateType name) →
    (outlines schema).diagnostics = []
  cyclic : ∀ name, (outlines schema).value = .error (.cyclicBase name) ↔
    (schema.types.map (·.fullName)).Nodup
      ∧ ∃ decl, TurnsBack schema decl ∧ decl.fullName = name
        ∧ ∀ other, TurnsBack schema other → ¬ bytes other.fullName < bytes name
  returning : (∃ name, (outlines schema).value = .error (.cyclicBase name)) ↔
    (schema.types.map (·.fullName)).Nodup ∧ ∃ decl, TurnsBack schema decl
  told : ∀ name, (outlines schema).value = .error (.cyclicBase name) →
    ∃ smaller : List TypeDecl,
      smaller.Pairwise (fun a b => bytes a.fullName < bytes b.fullName)
      ∧ (∀ decl, decl ∈ smaller ↔ decl ∈ schema.types ∧ decl.generationMode?.isSome = true
          ∧ bytes decl.fullName < bytes name)
      ∧ TellsOf schema smaller (outlines schema).diagnostics
  usable : (∃ types, (outlines schema).value = .ok types) ↔
    (schema.types.map (·.fullName)).Nodup ∧ ∀ decl, ¬ TurnsBack schema decl

-- ============================================================== one walk

/-- A change of results keeps the fault. -/
theorem except_map_eq_error {ε α β : Type} {result : Except ε α} {f : α → β} {fault : ε} :
    result.map f = .error fault ↔ result = .error fault := by
  cases result with
  | error other => simp [Except.map]
  | ok value => exact ⟨nofun, nofun⟩

theorem walk_isExact (schema : Schema) (decl : TypeDecl) : WalkIsExact schema decl where
  ends := by
    obtain ⟨trail, last, walked, distinct, outcome⟩ := baseChain_outcome schema decl
    exact ⟨trail, last, walked, walked.length_le (List.nodup_cons.1 distinct).2, distinct,
      outcome.imp And.left And.left⟩
  cyclic := baseChain_eq_none
  chain _ := baseChain_eq_some
  fault mode fault := by
    rw [← baseChain_eq_none, screen]
    cases walked : baseChain schema decl with
    | none => simp [eq_comm]
    | some chain => simp [screen, Except.map]
  eventFault fault := by
    rw [← baseChain_eq_none, screenEvents]
    cases walked : baseChain schema decl with
    | none => simp [eq_comm]
    | some chain =>
      dsimp only
      split <;> simp [screenEvents, Except.map]

-- ============================================================== the scan

/-- The scan is told a repeated name before anything else. -/
theorem outlines_of_repeat {name : String}
    (found : firstRepeat? [] (schema.types.map (·.fullName)) = some name) :
    outlines schema = ⟨.error (.duplicateType name), []⟩ := by
  unfold outlines
  rw [found]

/-- Without a repeated name the scan fails as screening does, and has
reported the same. -/
theorem outlines_of_nodup (distinct : (schema.types.map (·.fullName)).Nodup) :
    (outlines schema).diagnostics = (screen schema (annotated schema)).diagnostics
      ∧ ∀ fault, (outlines schema).value = .error fault
          ↔ (screen schema (annotated schema)).value = .error fault := by
  have unrepeated : firstRepeat? [] (schema.types.map (·.fullName)) = none :=
    firstRepeat?_eq_none.2 ⟨distinct, fun _ _ => List.not_mem_nil⟩
  unfold outlines
  rw [unrepeated]
  exact ⟨rfl, fun fault => except_map_eq_error⟩

/-- A name is reported as repeated when it is the first to be. -/
theorem duplicate_iff {name : String} :
    (outlines schema).value = .error (.duplicateType name)
      ↔ firstRepeat? [] (schema.types.map (·.fullName)) = some name := by
  cases found : firstRepeat? [] (schema.types.map (·.fullName)) with
  | some other =>
    rw [outlines_of_repeat found]
    simp
  | none =>
    have distinct := (firstRepeat?_eq_none.1 found).1
    rw [(outlines_of_nodup distinct).2, screen_eq_error]
    constructor
    · rintro ⟨_, _, _, -, -, -, impossible⟩
      cases impossible
    · nofun

/-- Where the scan comes to a cyclic chain, no name is repeated. -/
theorem nodup_of_cyclic {name : String}
    (run : (outlines schema).value = .error (.cyclicBase name)) :
    (schema.types.map (·.fullName)).Nodup := by
  cases found : firstRepeat? [] (schema.types.map (·.fullName)) with
  | some other =>
    rw [outlines_of_repeat found] at run
    cases run
  | none => exact (firstRepeat?_eq_none.1 found).1

/-- What is annotated and has no chain is what turns back. -/
theorem turnsBack_iff {decl : TypeDecl} : TurnsBack schema decl ↔
    ∃ mode, (decl, mode) ∈ annotated schema ∧ baseChain schema decl = none := by
  constructor
  · rintro ⟨declared, bound, returns⟩
    obtain ⟨mode, bound⟩ := Option.isSome_iff_exists.1 bound
    exact ⟨mode, mem_annotated.2 ⟨declared, bound⟩, baseChain_eq_none.2 returns⟩
  · rintro ⟨mode, listed, cyclic⟩
    obtain ⟨declared, bound⟩ := mem_annotated.1 listed
    exact ⟨declared, by rw [bound]; rfl, baseChain_eq_none.1 cyclic⟩

section Stopped

variable {before after : List (TypeDecl × GenerationMode)} {item : TypeDecl × GenerationMode}

/-- Before an annotated declaration stand those of smaller names. -/
theorem mem_before (distinct : (schema.types.map (·.fullName)).Nodup)
    (split : annotated schema = before ++ item :: after) {decl : TypeDecl} :
    decl ∈ before.map (·.1) ↔ decl ∈ schema.types ∧ decl.generationMode?.isSome = true
      ∧ decl.fullName < item.1.fullName := by
  have sorted := annotated_sorted distinct
  rw [split] at sorted
  obtain ⟨-, behind, across⟩ := List.pairwise_append.1 sorted
  constructor
  · intro earlier
    obtain ⟨⟨_, mode⟩, inside, rfl⟩ := List.mem_map.1 earlier
    have listed : (_, mode) ∈ annotated schema := split ▸ List.mem_append_left _ inside
    obtain ⟨declared, bound⟩ := mem_annotated.1 listed
    exact ⟨declared, by rw [bound]; rfl, across _ inside _ List.mem_cons_self⟩
  · rintro ⟨declared, bound, less⟩
    obtain ⟨mode, bound⟩ := Option.isSome_iff_exists.1 bound
    have listed := mem_annotated.2 ⟨declared, bound⟩
    rw [split] at listed
    rcases List.mem_append.1 listed with inside | here | later
    · exact List.mem_map.2 ⟨_, inside, rfl⟩
    · exact absurd less (String.lt_irrefl _)
    · exact absurd less (lt_asymm ((List.pairwise_cons.1 behind).1 _ ‹_›))

/-- Where screening stops is the least declaration that turns back. -/
theorem least_of_stopped (distinct : (schema.types.map (·.fullName)).Nodup)
    (split : annotated schema = before ++ item :: after)
    (ended : ∀ earlier ∈ before, (baseChain schema earlier.1).isSome)
    {other : TypeDecl} (turns : TurnsBack schema other) :
    ¬ other.fullName < item.1.fullName := by
  intro less
  obtain ⟨earlier, inside, rfl⟩ :=
    List.mem_map.1 ((mem_before distinct split).2 ⟨turns.declared, turns.bound, less⟩)
  have walked := ended earlier inside
  rw [baseChain_eq_none.2 turns.returns] at walked
  cases walked

/-- What has been reported where screening stops. -/
theorem tellsOf_stopped (distinct : (schema.types.map (·.fullName)).Nodup)
    (split : annotated schema = before ++ item :: after)
    (ended : ∀ earlier ∈ before, (baseChain schema earlier.1).isSome)
    (cyclic : baseChain schema item.1 = none) :
    TellsOf schema (before.map (·.1)) (outlines schema).diagnostics := by
  have within : ∀ earlier ∈ before, earlier ∈ annotated schema := fun earlier inside =>
    split ▸ List.mem_append_left _ inside
  refine ⟨brokenRules schema, fun decl earlier => ⟨nodup_brokenRules decl, fun violation => ?_⟩, ?_⟩
  · obtain ⟨_, inside, rfl⟩ := List.mem_map.1 earlier
    exact mem_brokenRules fun _ => ended _ inside
  · rw [(outlines_of_nodup distinct).1, split, diagnostics_screen_append ended,
      diagnostics_screen_of_cyclic cyclic, List.append_nil,
      diagnostics_screen (fun earlier inside => (mem_annotated.1 (within earlier inside)).2) ended]
    rfl

end Stopped

/-- Where some declaration turns back the scan comes to a cyclic chain. -/
theorem cyclic_of_turnsBack (distinct : (schema.types.map (·.fullName)).Nodup)
    {decl : TypeDecl} (turns : TurnsBack schema decl) :
    ∃ name, (outlines schema).value = .error (.cyclicBase name) := by
  obtain ⟨mode, listed, cyclic⟩ := turnsBack_iff.1 turns
  cases screened : (screen schema (annotated schema)).value with
  | ok accepted =>
    have ended := (screen_eq_ok.1 screened).2 _ listed
    rw [cyclic] at ended
    cases ended
  | error fault =>
    obtain ⟨before, stop, after, split, ended, cyclic, rfl⟩ := screen_eq_error.1 screened
    exact ⟨stop.1.fullName, ((outlines_of_nodup distinct).2 _).2 screened⟩

/-- All that has happened when the scan comes to a cyclic chain. -/
theorem stopped_of_cyclic {name : String}
    (run : (outlines schema).value = .error (.cyclicBase name)) :
    ∃ before item after, annotated schema = before ++ item :: after
      ∧ (∀ earlier ∈ before, (baseChain schema earlier.1).isSome)
      ∧ baseChain schema item.1 = none ∧ item.1.fullName = name
      ∧ TurnsBack schema item.1 := by
  rw [(outlines_of_nodup (nodup_of_cyclic run)).2, screen_eq_error] at run
  obtain ⟨before, ⟨decl, mode⟩, after, split, ended, cyclic, named⟩ := run
  cases named
  have listed : (decl, mode) ∈ annotated schema :=
    split ▸ List.mem_append_right _ List.mem_cons_self
  exact ⟨before, _, after, split, ended, cyclic, rfl, turnsBack_iff.2 ⟨mode, listed, cyclic⟩⟩

/-- The scan comes to a cyclic chain exactly where some declaration turns
back, and names the least of them. -/
theorem cyclic_iff {name : String} :
    (outlines schema).value = .error (.cyclicBase name) ↔
      (schema.types.map (·.fullName)).Nodup
        ∧ ∃ decl, TurnsBack schema decl ∧ decl.fullName = name
          ∧ ∀ other, TurnsBack schema other → ¬ other.fullName < name := by
  have least : ∀ {name}, (outlines schema).value = .error (.cyclicBase name) →
      ∃ decl, TurnsBack schema decl ∧ decl.fullName = name
        ∧ ∀ other, TurnsBack schema other → ¬ other.fullName < name := by
    intro name run
    obtain ⟨before, item, after, split, ended, -, rfl, turns⟩ := stopped_of_cyclic run
    exact ⟨item.1, turns, rfl,
      fun other => least_of_stopped (nodup_of_cyclic run) split ended⟩
  constructor
  · exact fun run => ⟨nodup_of_cyclic run, least run⟩
  · rintro ⟨distinct, decl, turns, rfl, isLeast⟩
    obtain ⟨name, run⟩ := cyclic_of_turnsBack distinct turns
    obtain ⟨stop, turns', rfl, isLeast'⟩ := least run
    -- neither of the two has the smaller name
    have same : stop.fullName = decl.fullName :=
      le_antisymm (not_lt.1 (isLeast' decl turns)) (not_lt.1 (isLeast stop turns'))
    rw [run, same]

theorem scan_isExact (schema : Schema) : ScanIsExact schema where
  duplicate name := by
    rw [duplicate_iff, firstRepeat?_eq_some]
    constructor
    · rintro ⟨names, rest, split, distinct, -, known⟩
      obtain ⟨before, later, whole, rfl, named⟩ := List.map_eq_append_iff.1 split
      obtain ⟨again, after, rfl, rfl, rfl⟩ := List.map_eq_cons_iff.1 named
      exact ⟨before, again, after, whole, distinct, known.resolve_left List.not_mem_nil, rfl⟩
    · rintro ⟨before, again, after, whole, distinct, known, rfl⟩
      refine ⟨_, after.map (·.fullName), ?_, distinct, fun _ _ => List.not_mem_nil, Or.inr known⟩
      rw [whole, List.map_append, List.map_cons]
  repeated := by
    simp only [duplicate_iff]
    rw [← Option.isSome_iff_exists, ← not_iff_not, not_not, Option.not_isSome_iff_eq_none,
      firstRepeat?_eq_none]
    exact and_iff_left fun _ _ => List.not_mem_nil
  silent name run := by
    rw [outlines_of_repeat (duplicate_iff.1 run)]
  cyclic name := by
    simp only [bytes_lt_iff]
    exact cyclic_iff
  returning := by
    constructor
    · rintro ⟨name, run⟩
      obtain ⟨distinct, decl, turns, -⟩ := cyclic_iff.1 run
      exact ⟨distinct, decl, turns⟩
    · rintro ⟨distinct, decl, turns⟩
      exact cyclic_of_turnsBack distinct turns
  told name run := by
    have distinct := nodup_of_cyclic run
    obtain ⟨before, item, after, split, ended, cyclic, rfl, -⟩ := stopped_of_cyclic run
    have sorted := annotated_sorted distinct
    rw [split] at sorted
    simp only [bytes_lt_iff]
    exact ⟨before.map (·.1), List.pairwise_map.2 (List.pairwise_append.1 sorted).1,
      fun decl => mem_before distinct split, tellsOf_stopped distinct split ended cyclic⟩
  usable := by
    constructor
    · rintro ⟨types, run⟩
      have distinct := (outlines_ok run).1
      refine ⟨distinct, fun decl turns => ?_⟩
      obtain ⟨name, failed⟩ := cyclic_of_turnsBack distinct turns
      rw [run] at failed
      cases failed
    · rintro ⟨distinct, none⟩
      cases run : (outlines schema).value with
      | ok types => exact ⟨types, rfl⟩
      | error fault =>
        cases fault with
        | cyclicBase name =>
          obtain ⟨-, decl, turns, -⟩ := cyclic_iff.1 run
          exact absurd turns (none decl)
        | duplicateType name =>
          have repeated := duplicate_iff.1 run
          rw [firstRepeat?_eq_none.2 ⟨distinct, fun _ _ => List.not_mem_nil⟩] at repeated
          cases repeated

/-- The faults of walks and of the scan are exact, in every schema. -/
theorem faults_exact (schema : Schema) :
    (∀ decl, WalkIsExact schema decl) ∧ ScanIsExact schema :=
  ⟨walk_isExact schema, scan_isExact schema⟩

end DataBinding
