/-
Every annotated declaration is listed or reported. What a declaration asks
for is checked in two places, the scan and the search for event calls, and
both check whether it is partial and not nested. A declaration that asks
for both is told about that by the scan alone.

# One report for a broken rule

What an analysis reports as errors is one list: the rules that each
declaration breaks, declaration by declaration (`errors_of_analyze`). The
scan speaks of the annotated ones, the search of those that are not
annotated but ask for event calls, so none is spoken of twice. And no two
rules are reported in the same words (`diagnostic_injective`), so this list
has no repetitions, and the rules can be counted off it.

Which rules are meant is said without the two stages (`Breaks`): a rule is a
condition on the declaration and on the class that its base resolves to.
-/
import DataBinding.CommandLine.Run
import DataBinding.Proofs.Diagnostics
import DataBinding.Proofs.WrittenInOrder

namespace DataBinding

variable {schema : Schema} {options : Options} {analysis : Analysis}

-- ============================================================ in general

/-- What is made of the kept items alone. -/
theorem flatMap_of_filter {α β : Type} (p : α → Bool) (f : α → List β) (items : List α) :
    (items.filter p).flatMap f = items.flatMap fun item => if p item then f item else [] := by
  induction items with
  | nil => rfl
  | cons item rest ih =>
    rw [List.flatMap_cons, ← ih, List.filter_cons]
    split
    · exact List.flatMap_cons
    · rfl

/-- Among distinct keys an item is all that its key picks out. -/
theorem filter_key_of_nodup {α : Type} {key : α → String} {items : List α}
    (distinct : (items.map key).Nodup) {item : α} (inside : item ∈ items) :
    items.filter (key · == key item) = [item] := by
  have only : ∀ other ∈ items.filter (key · == key item), other = item := by
    intro other picked
    obtain ⟨inside', same⟩ := List.mem_filter.1 picked
    exact List.inj_on_of_nodup_map distinct inside' inside (beq_iff_eq.1 same)
  have once : (items.filter (key · == key item)).Nodup := distinct.of_map.filter _
  have some : item ∈ items.filter (key · == key item) :=
    List.mem_filter.2 ⟨inside, beq_iff_eq.2 rfl⟩
  rw [List.eq_replicate_of_mem only] at once some ⊢
  have short := List.nodup_replicate.1 once
  have nonempty := (List.mem_replicate.1 some).1
  have single : (items.filter (key · == key item)).length = 1 := by omega
  rw [single, List.replicate_one]

-- ============================================================= the rules

/-- The rules that a declaration breaks. Those about its shape concern
everything that is annotated, the one about its accessibility what is to be
bound, and those about its base what is bindable. -/
inductive Breaks (schema : Schema) (decl : TypeDecl) : Violation → Prop
  | notPartial (asks : decl.generationMode?.isSome = true ∨ decl.isEventRegister = true)
      (whole : decl.isPartial = false) : Breaks schema decl .notPartial
  | nested (asks : decl.generationMode?.isSome = true ∨ decl.isEventRegister = true)
      {parent : String} (within : decl.parent = some parent) :
      Breaks schema decl (.nested parent)
  | accessibility {mode : GenerationMode} (bound : decl.generationMode? = some mode)
      (notPublic : decl.accessibility ≠ .«public»)
      (notInternal : mode.isBindable = true → decl.accessibility ≠ .internal) :
      Breaks schema decl .accessibility
  | structWithBase {raises : Bool} (bound : decl.generationMode? = some (.bindable raises))
      {base : String} (derives : decl.base = some base) (isStruct : decl.kind = .struct) :
      Breaks schema decl (.structWithBase base)
  | sealedBase {raises : Bool} (bound : decl.generationMode? = some (.bindable raises))
      {base : String} (derives : decl.base = some base) {direct : TypeDecl}
      (found : schema.resolveType? decl.scope base = some direct)
      (isClass : direct.kind = .«class») (isSealed : direct.isSealed = true) :
      Breaks schema decl (.sealedBase direct.fullName)

/-- What a declaration has to be like to be bound in a mode. -/
structure MayBeBound (schema : Schema) (decl : TypeDecl) (mode : GenerationMode) : Prop where
  isPartial : decl.isPartial = true
  topLevel : decl.parent = none
  accessible : decl.accessibility = .«public»
    ∨ mode.isBindable = true ∧ decl.accessibility = .internal
  derivesAsClass : mode.isBindable = true → decl.base ≠ none → decl.kind ≠ .struct
  openBase : mode.isBindable = true → ∀ base direct, decl.base = some base →
    schema.resolveType? decl.scope base = some direct → direct.kind = .«class» →
    direct.isSealed = false

/-- A declaration may be bound exactly when it breaks no rule. -/
theorem mayBeBound_iff {decl : TypeDecl} {mode : GenerationMode}
    (bound : decl.generationMode? = some mode) :
    MayBeBound schema decl mode ↔ ∀ violation, ¬ Breaks schema decl violation := by
  have asks : decl.generationMode?.isSome = true ∨ decl.isEventRegister = true := by
    rw [bound]
    exact Or.inl rfl
  constructor
  · intro may violation broken
    cases broken with
    | notPartial _ whole => exact absurd may.isPartial (by simp [whole])
    | nested _ within => exact absurd may.topLevel (by simp [within])
    | accessibility bound' notPublic notInternal =>
      rw [bound] at bound'
      cases bound'
      rcases may.accessible with isPublic | ⟨bindable, isInternal⟩
      · exact notPublic isPublic
      · exact notInternal bindable isInternal
    | structWithBase bound' derives isStruct =>
      rw [bound] at bound'
      cases bound'
      exact may.derivesAsClass rfl (by simp [derives]) isStruct
    | sealedBase bound' derives found isClass isSealed =>
      rw [bound] at bound'
      cases bound'
      have isOpen := may.openBase rfl _ _ derives found isClass
      rw [isSealed] at isOpen
      cases isOpen
  · intro clean
    constructor
    · cases isPartial : decl.isPartial with
      | true => rfl
      | false => exact absurd (.notPartial asks isPartial) (clean _)
    · cases within : decl.parent with
      | none => rfl
      | some parent => exact absurd (.nested asks within) (clean _)
    · by_contra hidden
      rw [not_or, not_and] at hidden
      exact clean _ (.accessibility bound hidden.1 hidden.2)
    · intro bindable derives isStruct
      cases mode with
      | autoNotify => cases bindable
      | bindable raises =>
        obtain ⟨base, derives⟩ := Option.ne_none_iff_exists'.1 derives
        exact clean _ (.structWithBase bound derives isStruct)
    · intro bindable base direct derives found isClass
      cases mode with
      | autoNotify => cases bindable
      | bindable raises =>
        cases isSealed : direct.isSealed with
        | false => rfl
        | true => exact absurd (.sealedBase bound derives found isClass isSealed) (clean _)

-- ===================================================== the rules checked

/-- The first class of a chain is the one that the base resolves to. -/
theorem head?_baseChain {decl : TypeDecl} {chain : List String}
    (walked : baseChain schema decl = some chain) {name : String} :
    chain.head? = some name ↔ ∃ base direct, decl.base = some base
      ∧ schema.resolveType? decl.scope base = some direct ∧ direct.kind = .«class»
      ∧ direct.fullName = name := by
  unfold baseChain at walked
  constructor
  · intro first
    obtain ⟨rest, rfl⟩ := List.head?_eq_some_iff.1 first
    obtain ⟨base, direct, derives, found, isClass, named, -⟩ := walkBases_cons walked
    exact ⟨base, direct, derives, found, isClass, named⟩
  · rintro ⟨base, direct, derives, found, isClass, rfl⟩
    rw [derives, walkBases_of_class found isClass] at walked
    split at walked
    · obtain ⟨rest, -, rfl⟩ := Option.map_eq_some_iff.1 walked
      rfl
    · cases walked

theorem mem_shapeViolations {decl : TypeDecl} {violation : Violation} :
    violation ∈ shapeViolations decl ↔
      violation = .notPartial ∧ decl.isPartial = false
        ∨ ∃ parent, violation = .nested parent ∧ decl.parent = some parent := by
  unfold shapeViolations
  cases decl.isPartial <;> cases decl.parent <;> simp [eq_comm]

theorem mem_baseViolations {decl : TypeDecl} {chain : List String} {violation : Violation}
    (walked : baseChain schema decl = some chain) :
    violation ∈ baseViolations schema decl chain ↔
      ∃ base, decl.base = some base
        ∧ (violation = .structWithBase base ∧ decl.kind = .struct
          ∨ ∃ direct, schema.resolveType? decl.scope base = some direct
              ∧ direct.kind = .«class» ∧ direct.isSealed = true
              ∧ violation = .sealedBase direct.fullName) := by
  unfold baseViolations
  cases derives : decl.base with
  | none => simp
  | some base =>
    have ofStruct : violation ∈ (if decl.isValueType then [Violation.structWithBase base] else [])
        ↔ violation = .structWithBase base ∧ decl.kind = .struct := by
      unfold TypeDecl.isValueType
      by_cases isStruct : decl.kind = .struct <;> simp [isStruct]
    simp only [Option.some.injEq, exists_eq_left']
    refine List.mem_append.trans (or_congr ofStruct ?_)
    -- the class whose seal is asked about is the one that the base resolves to
    cases chain with
    | nil =>
      constructor
      · intro impossible
        cases impossible
      · rintro ⟨direct, found, isClass, -, -⟩
        cases (head?_baseChain walked).2 ⟨base, direct, derives, found, isClass, rfl⟩
    | cons name rest =>
      obtain ⟨base', direct, derives', found, isClass, rfl⟩ := (head?_baseChain walked).1 rfl
      rw [derives] at derives'
      cases derives'
      dsimp only
      rw [typeDecl?_of_resolveType? found]
      cases isSealed : direct.isSealed <;> simp [found, isClass, isSealed]

/-- The rules that the scan finds broken are those that are. -/
theorem mem_violations {decl : TypeDecl} {mode : GenerationMode} {chain : List String}
    (bound : decl.generationMode? = some mode) (walked : baseChain schema decl = some chain)
    {violation : Violation} :
    violation ∈ violations schema decl mode chain ↔ Breaks schema decl violation := by
  have asks : decl.generationMode?.isSome = true ∨ decl.isEventRegister = true := by
    rw [bound]
    exact Or.inl rfl
  have allowed : mode.allows decl.accessibility = true ↔ decl.accessibility = .«public»
      ∨ mode.isBindable = true ∧ decl.accessibility = .internal := by
    cases mode <;> simp [GenerationMode.allows, GenerationMode.isBindable]
  unfold violations
  rw [List.mem_append, List.mem_append, mem_shapeViolations]
  constructor
  · rintro (((⟨rfl, whole⟩ | ⟨parent, rfl, within⟩) | hidden) | aboutBase)
    · exact .notPartial asks whole
    · exact .nested asks within
    · split at hidden
      · cases hidden
      · next refused =>
        rw [allowed, not_or, not_and] at refused
        rw [List.mem_singleton.1 hidden]
        exact .accessibility bound refused.1 refused.2
    · cases mode with
      | autoNotify => cases aboutBase
      | bindable raises =>
        obtain ⟨base, derives, ⟨rfl, isStruct⟩ | ⟨direct, found, isClass, isSealed, rfl⟩⟩ :=
          (mem_baseViolations walked).1 aboutBase
        · exact .structWithBase bound derives isStruct
        · exact .sealedBase bound derives found isClass isSealed
  · intro broken
    cases broken with
    | notPartial _ whole => exact Or.inl (Or.inl (Or.inl ⟨rfl, whole⟩))
    | nested _ within => exact Or.inl (Or.inl (Or.inr ⟨_, rfl, within⟩))
    | accessibility bound' notPublic notInternal =>
      rw [bound] at bound'
      cases bound'
      have refused : ¬ mode.allows decl.accessibility = true := by
        rw [allowed, not_or, not_and]
        exact ⟨notPublic, notInternal⟩
      rw [if_neg refused]
      exact Or.inl (Or.inr (List.mem_singleton_self _))
    | structWithBase bound' derives isStruct =>
      rw [bound] at bound'
      cases bound'
      exact Or.inr ((mem_baseViolations walked).2 ⟨_, derives, Or.inl ⟨rfl, isStruct⟩⟩)
    | sealedBase bound' derives found isClass isSealed =>
      rw [bound] at bound'
      cases bound'
      exact Or.inr ((mem_baseViolations walked).2
        ⟨_, derives, Or.inr ⟨_, found, isClass, isSealed, rfl⟩⟩)

/-- The scan finds no rule broken twice. -/
theorem nodup_violations (decl : TypeDecl) (mode : GenerationMode) (chain : List String) :
    (violations schema decl mode chain).Nodup := by
  unfold violations shapeViolations baseViolations
  cases decl.parent <;> cases decl.base <;> cases chain <;> dsimp only <;> (repeat' split) <;> simp

/-- Rules are told apart by what is reported. -/
theorem diagnostic_injective (decl : TypeDecl) :
    Function.Injective (Violation.diagnostic decl) := by
  intro violation other same
  have code : violation.code = other.code := congrArg Diagnostic.code same
  have message : violation.message decl = other.message decl := congrArg Diagnostic.message same
  -- the two rules about bases share a code, but their messages begin differently
  have apart : ∀ base direct, Violation.message decl (.structWithBase base)
      ≠ Violation.message decl (.sealedBase direct) := by
    intro base direct equal
    have first := congrArg (fun text : String => text.toList.head?) equal
    simp [Violation.message] at first
  cases violation with
  | notPartial => cases other <;> first | rfl | simp [Violation.code] at code
  | accessibility => cases other <;> first | rfl | simp [Violation.code] at code
  | nested parent =>
    cases other with
    | nested parent' => simpa [Violation.message] using message
    | _ => simp [Violation.code] at code
  | structWithBase base =>
    cases other with
    | structWithBase base' => simpa [Violation.message] using message
    | sealedBase direct => exact absurd message (apart base direct)
    | _ => simp [Violation.code] at code
  | sealedBase direct =>
    cases other with
    | sealedBase direct' => simpa [Violation.message] using message
    | structWithBase base => exact absurd message.symm (apart base direct)
    | _ => simp [Violation.code] at code

/-- The rules that a declaration breaks, as one list. Without a mode to be
bound in, only its shape is asked about. -/
def brokenRules (schema : Schema) (decl : TypeDecl) : List Violation :=
  match decl.generationMode? with
  | some mode => violations schema decl mode ((baseChain schema decl).getD [])
  | none => if decl.isEventRegister then shapeViolations decl else []

theorem mem_brokenRules {decl : TypeDecl}
    (ended : decl.generationMode?.isSome = true → (baseChain schema decl).isSome)
    {violation : Violation} :
    violation ∈ brokenRules schema decl ↔ Breaks schema decl violation := by
  unfold brokenRules
  cases bound : decl.generationMode? with
  | some mode =>
    obtain ⟨chain, walked⟩ := Option.isSome_iff_exists.1 (ended (by rw [bound]; rfl))
    simp only [walked, Option.getD_some]
    exact mem_violations bound walked
  | none =>
    have unbound : ¬ decl.generationMode?.isSome = true := by simp [bound]
    constructor
    · intro reported
      by_cases registers : decl.isEventRegister = true
      · simp only [if_pos registers] at reported
        rcases mem_shapeViolations.1 reported with ⟨rfl, whole⟩ | ⟨parent, rfl, within⟩
        · exact .notPartial (Or.inr registers) whole
        · exact .nested (Or.inr registers) within
      · simp only [if_neg registers] at reported
        cases reported
    · intro broken
      cases broken with
      | notPartial asks whole =>
        simp only [if_pos (asks.resolve_left unbound)]
        exact mem_shapeViolations.2 (Or.inl ⟨rfl, whole⟩)
      | nested asks within =>
        simp only [if_pos (asks.resolve_left unbound)]
        exact mem_shapeViolations.2 (Or.inr ⟨_, rfl, within⟩)
      | accessibility bound' => exact absurd (bound'.symm.trans bound) (by simp)
      | structWithBase bound' => exact absurd (bound'.symm.trans bound) (by simp)
      | sealedBase bound' => exact absurd (bound'.symm.trans bound) (by simp)

theorem nodup_brokenRules (decl : TypeDecl) : (brokenRules schema decl).Nodup := by
  unfold brokenRules
  cases decl.generationMode? with
  | some mode => exact nodup_violations decl mode _
  | none =>
    dsimp only
    split
    · have distinct : (violations schema decl .autoNotify []).Nodup := nodup_violations _ _ _
      exact distinct.sublist
        ((List.sublist_append_left _ _).trans (List.sublist_append_left _ _))
    · exact List.nodup_nil

-- ========================================================= the reports

/-- What is reported about a declaration as errors. -/
def rejections (schema : Schema) (decl : TypeDecl) : List Diagnostic :=
  (brokenRules schema decl).map (·.diagnostic decl)

/-- The declarations that a stage speaks about: those to be bound in the
scan, and the other event types in the search for event calls. -/
def spokenAbout (schema : Schema) : List TypeDecl :=
  (annotated schema).map (·.1)
    ++ (schema.types.filter (·.isEventRegister)).filter (·.generationMode?.isNone)

/-- Broken rules are errors. -/
theorem isError_diagnostic (decl : TypeDecl) (violation : Violation) :
    (violation.diagnostic decl).isError = true := by
  cases violation <;> rfl

/-- What is reported about a declaration names it, and is an error. -/
theorem mem_rejections {decl : TypeDecl} {diagnostic : Diagnostic}
    (reported : diagnostic ∈ rejections schema decl) :
    diagnostic.isError = true ∧ diagnostic.typeName = decl.fullName := by
  obtain ⟨violation, -, rfl⟩ := List.mem_map.1 reported
  exact ⟨isError_diagnostic decl violation, rfl⟩

/-- Where all chains end, screening reports about each declaration in its
turn. -/
theorem diagnostics_screen {items : List (TypeDecl × GenerationMode)}
    (moded : ∀ item ∈ items, item.1.generationMode? = some item.2)
    (ended : ∀ item ∈ items, (baseChain schema item.1).isSome) :
    (screen schema items).diagnostics = (items.map (·.1)).flatMap (rejections schema) := by
  induction items with
  | nil => rfl
  | cons item rest ih =>
    obtain ⟨decl, mode⟩ := item
    obtain ⟨bound, boundRest⟩ := List.forall_mem_cons.1 moded
    obtain ⟨here, later⟩ := List.forall_mem_cons.1 ended
    obtain ⟨chain, walked⟩ := Option.isSome_iff_exists.1 here
    have about : rejections schema decl
        = (violations schema decl mode chain).map (·.diagnostic decl) := by
      unfold rejections brokenRules
      simp only [bound, walked, Option.getD_some]
    rw [List.map_cons, List.flatMap_cons, ← ih boundRest later, about, screen]
    simp only [walked]

/-- What the search for event calls reports as errors about one event type:
what nobody has reported yet. -/
theorem errors_eventDiagnostics {decl : TypeDecl} (registers : decl.isEventRegister = true) :
    (eventDiagnostics schema decl).filter Diagnostic.isError
      = if decl.generationMode?.isNone then rejections schema decl else [] := by
  unfold eventDiagnostics rejections brokenRules unreportedViolations
  have warnings : (extractCalls schema decl).diagnostics.filter Diagnostic.isError = [] := by
    refine List.filter_eq_nil_iff.2 fun diagnostic reported => ?_
    obtain ⟨call, -, rfl⟩ := List.mem_map.1 reported
    exact Bool.false_ne_true
  have errors : ((shapeViolations decl).map (·.diagnostic decl)).filter Diagnostic.isError
      = (shapeViolations decl).map (·.diagnostic decl) := by
    refine List.filter_eq_self.2 fun diagnostic reported => ?_
    obtain ⟨violation, -, rfl⟩ := List.mem_map.1 reported
    exact isError_diagnostic decl violation
  cases bound : decl.generationMode? with
  | some mode => split <;> simp [warnings]
  | none =>
    by_cases clean : shapeViolations decl = []
    · simp [clean, warnings]
    · simp [clean, registers, errors]

/-- When the scan succeeds, all chains have ended, and it has said what
screening says. -/
theorem screened_of_outlines {types : List TypeOutline}
    (run : (outlines schema).value = .ok types) :
    (∀ item ∈ annotated schema, (baseChain schema item.1).isSome)
      ∧ (outlines schema).diagnostics = (screen schema (annotated schema)).diagnostics := by
  unfold outlines at run ⊢
  cases unrepeated : firstRepeat? [] (schema.types.map (·.fullName)) with
  | some typeName =>
    rw [unrepeated] at run
    cases run
  | none =>
    rw [unrepeated] at run
    obtain ⟨accepted, screened, -⟩ := except_map_eq_ok.1 run
    exact ⟨(screen_eq_ok.1 screened).2, rfl⟩

/-- The errors of an analysis are the rules that the declarations break,
each declaration being spoken about in one stage only. -/
theorem errors_of_analyze (run : analyze schema options = .ok analysis) :
    analysis.diagnostics.filter Diagnostic.isError
      = (spokenAbout schema).flatMap (rejections schema) := by
  obtain ⟨outlined, events, scanned, searched, rfl⟩ := analyze_ok run
  obtain ⟨endedScan, said⟩ := screened_of_outlines scanned
  have endedSearch := (eventTypes_eq_ok.1 searched).1
  have byScan : (outlines schema).diagnostics.filter Diagnostic.isError
      = ((annotated schema).map (·.1)).flatMap (rejections schema) := by
    rw [said, diagnostics_screen (fun item listed => (mem_annotated.1 listed).2) endedScan]
    refine List.filter_eq_self.2 fun diagnostic reported => ?_
    obtain ⟨decl, -, about⟩ := List.mem_flatMap.1 reported
    exact (mem_rejections about).1
  have byExtraction : (extractAll schema outlined).diagnostics.filter Diagnostic.isError = [] := by
    refine List.filter_eq_nil_iff.2 fun diagnostic reported => ?_
    obtain ⟨typeName, property, rfl⟩ := mem_diagnostics_extractAll reported
    exact Bool.false_ne_true
  have byMerging : (mergeAll schema [] (extractAll schema outlined).value).diagnostics.filter
      Diagnostic.isError = [] := by
    refine List.filter_eq_nil_iff.2 fun diagnostic reported => ?_
    unfold Diagnostic.isError Diagnostic.severity
    rw [(mem_diagnostics_mergeAll reported).1]
    exact Bool.false_ne_true
  have bySearch : (eventTypes schema).diagnostics.filter Diagnostic.isError
      = ((schema.types.filter (·.isEventRegister)).filter (·.generationMode?.isNone)).flatMap
          (rejections schema) := by
    show (screenEvents schema _).diagnostics.filter _ = _
    rw [diagnostics_screenEvents endedSearch, List.filter_flatMap,
      flatMap_of_filter fun decl : TypeDecl => decl.generationMode?.isNone]
    refine List.flatMap_congr fun decl listed => ?_
    exact errors_eventDiagnostics (List.mem_filter.1 listed).2
  rw [List.filter_append, List.filter_append, List.filter_append, byScan, byExtraction,
    byMerging, bySearch, List.append_nil, List.append_nil, spokenAbout, List.flatMap_append]

-- ================================================= one declaration's share

/-- What is spoken about is annotated. -/
theorem mem_spokenAbout {decl : TypeDecl} :
    decl ∈ spokenAbout schema ↔ decl ∈ schema.types
      ∧ (decl.generationMode?.isSome = true ∨ decl.isEventRegister = true) := by
  unfold spokenAbout
  rw [List.mem_append, List.mem_filter, List.mem_filter]
  constructor
  · rintro (scanned | ⟨⟨declared, registers⟩, -⟩)
    · obtain ⟨⟨_, mode⟩, listed, rfl⟩ := List.mem_map.1 scanned
      obtain ⟨declared, bound⟩ := mem_annotated.1 listed
      exact ⟨declared, Or.inl (by rw [bound]; rfl)⟩
    · exact ⟨declared, Or.inr registers⟩
  · rintro ⟨declared, asks⟩
    cases bound : decl.generationMode? with
    | some mode =>
      have found := mem_annotated.2 ⟨declared, bound⟩
      exact Or.inl (List.mem_map.2 ⟨(decl, mode), found, rfl⟩)
    | none =>
      rw [bound] at asks
      exact Or.inr ⟨⟨declared, asks.resolve_left Bool.false_ne_true⟩, rfl⟩

/-- No declaration is spoken about twice. -/
theorem nodup_spokenAbout (distinct : (schema.types.map (·.fullName)).Nodup) :
    ((spokenAbout schema).map (·.fullName)).Nodup := by
  unfold spokenAbout
  rw [List.map_append, List.map_map]
  refine List.Nodup.append (annotated_nodup distinct) ?_ ?_
  · exact distinct.sublist ((List.filter_sublist.trans List.filter_sublist).map _)
  · intro name scanned searched
    obtain ⟨⟨decl, mode⟩, listed, named⟩ := List.mem_map.1 scanned
    obtain ⟨other, kept, named'⟩ := List.mem_map.1 searched
    obtain ⟨declared, bound⟩ := mem_annotated.1 listed
    obtain ⟨registers, unbound⟩ := List.mem_filter.1 kept
    have same : decl = other := List.inj_on_of_nodup_map distinct declared
      (List.mem_of_mem_filter registers) (named.trans named'.symm)
    rw [← same, bound] at unbound
    cases unbound

/-- A declaration that asks for nothing breaks no rule. -/
theorem brokenRules_eq_nil {decl : TypeDecl}
    (plain : ¬ (decl.generationMode?.isSome = true ∨ decl.isEventRegister = true)) :
    brokenRules schema decl = [] := by
  obtain ⟨unbound, unregistered⟩ := not_or.1 plain
  unfold brokenRules
  rw [Option.not_isSome_iff_eq_none.1 unbound]
  exact if_neg unregistered

/-- What an analysis reports as errors about one name. -/
def Analysis.errorsAbout (analysis : Analysis) (typeName : String) : List Diagnostic :=
  analysis.diagnostics.filter fun diagnostic =>
    diagnostic.isError && diagnostic.typeName == typeName

/-- The errors about a declaration are its own share of them. -/
theorem errorsAbout_of_analyze (run : analyze schema options = .ok analysis) {decl : TypeDecl}
    (declared : decl ∈ schema.types) :
    analysis.errorsAbout decl.fullName = rejections schema decl := by
  obtain ⟨outlined, -, scanned, -, -⟩ := analyze_ok run
  have distinct := (outlines_ok scanned).1
  have share : ∀ decls : List TypeDecl,
      (decls.flatMap (rejections schema)).filter (·.typeName == decl.fullName)
        = (decls.filter (·.fullName == decl.fullName)).flatMap (rejections schema) := by
    intro decls
    rw [List.filter_flatMap, flatMap_of_filter]
    refine List.flatMap_congr fun other _ => ?_
    by_cases same : other.fullName = decl.fullName
    · rw [if_pos (beq_iff_eq.2 same)]
      refine List.filter_eq_self.2 fun diagnostic reported => ?_
      rw [(mem_rejections reported).2, beq_iff_eq]
      exact same
    · rw [if_neg (fun equal => same (beq_iff_eq.1 equal))]
      refine List.filter_eq_nil_iff.2 fun diagnostic reported equal => ?_
      rw [(mem_rejections reported).2, beq_iff_eq] at equal
      exact same equal
  have split : analysis.errorsAbout decl.fullName
      = (analysis.diagnostics.filter Diagnostic.isError).filter
          (·.typeName == decl.fullName) := by
    rw [List.filter_filter]
    refine List.filter_congr fun diagnostic _ => ?_
    exact Bool.and_comm _ _
  rw [split, errors_of_analyze run, share]
  by_cases asks : decl.generationMode?.isSome = true ∨ decl.isEventRegister = true
  · rw [filter_key_of_nodup (nodup_spokenAbout distinct) (mem_spokenAbout.2 ⟨declared, asks⟩)]
    exact List.flatMap_singleton _ _
  · have unspoken : (spokenAbout schema).filter (·.fullName == decl.fullName) = [] := by
      refine List.filter_eq_nil_iff.2 fun other spoken same => asks ?_
      obtain ⟨declared', asks'⟩ := mem_spokenAbout.1 spoken
      rw [← List.inj_on_of_nodup_map distinct declared' declared (beq_iff_eq.1 same)]
      exact asks'
    rw [unspoken, rejections, brokenRules_eq_nil asks]
    rfl

-- ========================================================== the listings

/-- The names of the bound types are those of the accepted outlines. -/
theorem mem_names_of_types (run : analyze schema options = .ok analysis) {name : String} :
    name ∈ analysis.types.map (·.fullName)
      ↔ name ∈ ((annotated schema).filterMap (accept? schema)).map (·.fullName) := by
  obtain ⟨-, accepted, kept, sorted⟩ := outlines_ok (outlines_of_types run)
  have perm := ancestorsFirst_perm TypeOutline.fullName TypeOutline.chain
    (accepted.map (·.link schema accepted))
  rw [← sorted] at perm
  have names := perm.map TypeOutline.fullName
  rw [List.map_map, List.map_map] at names
  have unlinked : TypeOutline.fullName ∘ (·.link schema accepted) = TypeOutline.fullName :=
    funext fun outline => fullName_link accepted outline
  rw [unlinked, kept] at names
  exact names.mem_iff

/-- Bound is what has a mode and breaks no rule. -/
theorem mem_types_iff (run : analyze schema options = .ok analysis) {decl : TypeDecl}
    (declared : decl ∈ schema.types) :
    decl.fullName ∈ analysis.types.map (·.fullName) ↔
      decl.generationMode?.isSome = true ∧ ∀ violation, ¬ Breaks schema decl violation := by
  have distinct := (outlines_ok (outlines_of_types run)).1
  have ended := (screened_of_outlines (outlines_of_types run)).1
  rw [mem_names_of_types run]
  constructor
  · intro listed
    obtain ⟨outline, accepted, named⟩ := List.mem_map.1 listed
    obtain ⟨⟨other, mode⟩, found, acceptedDecl⟩ := List.mem_filterMap.1 accepted
    obtain ⟨chain, walked, clean, rfl⟩ := accept?_eq_some.1 acceptedDecl
    obtain ⟨declared', bound⟩ := mem_annotated.1 found
    have same : other = decl := List.inj_on_of_nodup_map distinct declared' declared named
    rw [same] at bound walked clean
    refine ⟨by rw [bound]; rfl, fun violation broken => ?_⟩
    have reported := (mem_violations bound walked).2 broken
    rw [clean] at reported
    cases reported
  · rintro ⟨moded, unbroken⟩
    obtain ⟨mode, bound⟩ := Option.isSome_iff_exists.1 moded
    have found := mem_annotated.2 ⟨declared, bound⟩
    obtain ⟨chain, walked⟩ := Option.isSome_iff_exists.1 (ended _ found)
    have clean : violations schema decl mode chain = [] :=
      List.eq_nil_iff_forall_not_mem.2 fun violation reported =>
        unbroken violation ((mem_violations bound walked).1 reported)
    exact List.mem_map.2 ⟨outlineOf decl mode chain, List.mem_filterMap.2
      ⟨(decl, mode), found, accept?_eq_some.2 ⟨chain, walked, clean, rfl⟩⟩, rfl⟩

/-- A shape breaks no rule when it is partial and not nested. -/
theorem shapeViolations_eq_nil {decl : TypeDecl} :
    shapeViolations decl = [] ↔ decl.isPartial = true ∧ decl.parent = none := by
  unfold shapeViolations
  cases decl.isPartial <;> cases decl.parent <;> simp

/-- Listed with event calls is what asks for them and is in shape. -/
theorem mem_eventTypes_iff (run : analyze schema options = .ok analysis) {decl : TypeDecl}
    (declared : decl ∈ schema.types) :
    decl.fullName ∈ analysis.eventTypes.map (·.fullName) ↔
      decl.isEventRegister = true ∧ decl.isPartial = true ∧ decl.parent = none := by
  obtain ⟨outlined, events, scanned, searched, rfl⟩ := analyze_ok run
  have distinct := (outlines_ok scanned).1
  obtain ⟨ended, accepted, kept, sorted⟩ := eventTypes_eq_ok.1 searched
  have perm := ancestorsFirst_perm EventTypeDescriptor.fullName EventTypeDescriptor.chain
    (accepted.map (·.link schema accepted))
  rw [← sorted] at perm
  have names := perm.map EventTypeDescriptor.fullName
  rw [List.map_map] at names
  rw [names.mem_iff, ← shapeViolations_eq_nil]
  show decl.fullName ∈ accepted.map (·.fullName) ↔ _
  have offered : (((schema.types.filter (·.isEventRegister)).filterMap
      (acceptEvent? schema)).map (·.fullName)).Nodup := by
    refine List.Nodup.sublist (keys_filterMap_sublist (fun other type found => ?_) _)
      (distinct.sublist (List.filter_sublist.map _))
    obtain ⟨chain, -, -, rfl⟩ := acceptEvent?_eq_some.1 found
    rfl
  rw [kept, lastOffers_of_nodup offered]
  constructor
  · intro listed
    obtain ⟨type, found, named⟩ := List.mem_map.1 listed
    obtain ⟨other, registers, acceptedDecl⟩ := List.mem_filterMap.1 found
    obtain ⟨chain, -, clean, rfl⟩ := acceptEvent?_eq_some.1 acceptedDecl
    obtain ⟨declared', marked⟩ := List.mem_filter.1 registers
    have same : other = decl := List.inj_on_of_nodup_map distinct declared' declared named
    rw [same] at marked clean
    exact ⟨marked, clean⟩
  · rintro ⟨marked, clean⟩
    have registers := List.mem_filter.2 ⟨declared, marked⟩
    obtain ⟨chain, walked⟩ := Option.isSome_iff_exists.1 (ended decl registers)
    exact List.mem_map.2 ⟨_, List.mem_filterMap.2
      ⟨decl, registers, acceptEvent?_eq_some.2 ⟨chain, walked, clean, rfl⟩⟩, rfl⟩

-- ======================================================= listed or reported

/-- A declaration is missing from the list of a stage that it asks for. -/
def Analysis.Misses (analysis : Analysis) (decl : TypeDecl) : Prop :=
  decl.generationMode?.isSome = true ∧ decl.fullName ∉ analysis.types.map (·.fullName)
    ∨ decl.isEventRegister = true ∧ decl.fullName ∉ analysis.eventTypes.map (·.fullName)

/-- What misses a list is what breaks a rule. -/
theorem misses_iff (run : analyze schema options = .ok analysis) {decl : TypeDecl}
    (declared : decl ∈ schema.types) :
    analysis.Misses decl ↔ ∃ violation, Breaks schema decl violation := by
  unfold Analysis.Misses
  rw [mem_types_iff run declared, mem_eventTypes_iff run declared]
  constructor
  · rintro (⟨moded, unlisted⟩ | ⟨registers, unlisted⟩)
    · by_contra unbroken
      exact unlisted ⟨moded, fun violation broken => unbroken ⟨violation, broken⟩⟩
    · cases whole : decl.isPartial with
      | false => exact ⟨_, .notPartial (Or.inr registers) whole⟩
      | true =>
        cases within : decl.parent with
        | some parent => exact ⟨_, .nested (Or.inr registers) within⟩
        | none => exact absurd ⟨registers, whole, within⟩ unlisted
  · rintro ⟨violation, broken⟩
    by_cases moded : decl.generationMode?.isSome = true
    · exact Or.inl ⟨moded, fun listed => listed.2 violation broken⟩
    · refine Or.inr ?_
      cases broken with
      | notPartial asks whole =>
        refine ⟨asks.resolve_left moded, fun listed => ?_⟩
        rw [listed.2.1] at whole
        cases whole
      | nested asks within =>
        refine ⟨asks.resolve_left moded, fun listed => ?_⟩
        rw [listed.2.2] at within
        cases within
      | accessibility bound => exact absurd (by rw [bound]; rfl) moded
      | structWithBase bound => exact absurd (by rw [bound]; rfl) moded
      | sealedBase bound => exact absurd (by rw [bound]; rfl) moded

/-- What an analysis has made of one declaration: it is in the lists that it
asks for, as far as the rules allow, and the errors about it are the rules
that it breaks, one for each and none in the words of another. -/
structure AccountsFor (analysis : Analysis) (decl : TypeDecl) : Prop where
  bound : decl.fullName ∈ analysis.types.map (·.fullName) ↔
    ∃ mode, decl.generationMode? = some mode ∧ MayBeBound analysis.schema decl mode
  registered : decl.fullName ∈ analysis.eventTypes.map (·.fullName) ↔
    decl.isEventRegister = true ∧ decl.isPartial = true ∧ decl.parent = none
  errors : ∃ rules : List Violation, rules.Nodup
    ∧ (∀ violation, violation ∈ rules ↔ Breaks analysis.schema decl violation)
    ∧ analysis.errorsAbout decl.fullName = rules.map (·.diagnostic decl)
  once : (analysis.errorsAbout decl.fullName).Nodup
  reported : analysis.errorsAbout decl.fullName ≠ [] ↔ analysis.Misses decl

/-- The analysis accounts for each of its declarations. -/
theorem accountsFor_of_analyze (run : analyze schema options = .ok analysis) {decl : TypeDecl}
    (declared : decl ∈ schema.types) : AccountsFor analysis decl := by
  obtain ⟨outlined, _, scanned, -, made⟩ := analyze_ok run
  have ofSchema : analysis.schema = schema := congrArg Analysis.schema made
  have ended : decl.generationMode?.isSome = true → (baseChain schema decl).isSome := by
    intro moded
    obtain ⟨mode, bound⟩ := Option.isSome_iff_exists.1 moded
    exact (screened_of_outlines scanned).1 _ (mem_annotated.2 ⟨declared, bound⟩)
  have about := errorsAbout_of_analyze run declared
  rw [rejections] at about
  constructor
  · rw [mem_types_iff run declared, ofSchema]
    constructor
    · rintro ⟨moded, unbroken⟩
      obtain ⟨mode, bound⟩ := Option.isSome_iff_exists.1 moded
      exact ⟨mode, bound, (mayBeBound_iff bound).2 unbroken⟩
    · rintro ⟨mode, bound, may⟩
      exact ⟨by rw [bound]; rfl, (mayBeBound_iff bound).1 may⟩
  · exact mem_eventTypes_iff run declared
  · rw [ofSchema]
    exact ⟨brokenRules schema decl, nodup_brokenRules decl,
      fun violation => mem_brokenRules ended, about⟩
  · rw [about]
    exact (nodup_brokenRules decl).map (diagnostic_injective decl)
  · rw [about, misses_iff run declared, ne_eq, List.map_eq_nil_iff]
    constructor
    · intro broken
      obtain ⟨violation, reported⟩ := List.exists_mem_of_ne_nil _ broken
      exact ⟨violation, (mem_brokenRules ended).1 reported⟩
    · rintro ⟨violation, broken⟩
      exact List.ne_nil_of_mem ((mem_brokenRules ended).2 broken)

/-- An error is about some declaration. -/
theorem declared_of_errorsAbout (run : analyze schema options = .ok analysis) {name : String}
    (reported : analysis.errorsAbout name ≠ []) : ∃ decl ∈ schema.types, decl.fullName = name := by
  obtain ⟨diagnostic, inside⟩ := List.exists_mem_of_ne_nil _ reported
  obtain ⟨listed, severe⟩ := List.mem_filter.1 inside
  rw [Bool.and_eq_true, beq_iff_eq] at severe
  have error := List.mem_filter.2 ⟨listed, severe.1⟩
  rw [errors_of_analyze run] at error
  obtain ⟨decl, spoken, about⟩ := List.mem_flatMap.1 error
  exact ⟨decl, (mem_spokenAbout.1 spoken).1, (mem_rejections about).2.symm.trans severe.2⟩

/-- A run has errors when it has some about a declaration. -/
theorem hasErrors_iff (run : analyze schema options = .ok analysis) :
    hasErrors analysis.diagnostics = true
      ↔ ∃ decl ∈ schema.types, analysis.errorsAbout decl.fullName ≠ [] := by
  unfold hasErrors
  rw [List.any_eq_true]
  constructor
  · rintro ⟨diagnostic, listed, severe⟩
    have inside : diagnostic ∈ analysis.errorsAbout diagnostic.typeName :=
      List.mem_filter.2 ⟨listed, by rw [severe, beq_self_eq_true]; rfl⟩
    obtain ⟨decl, declared, named⟩ := declared_of_errorsAbout run (List.ne_nil_of_mem inside)
    exact ⟨decl, declared, List.ne_nil_of_mem (named ▸ inside)⟩
  · rintro ⟨decl, -, reported⟩
    obtain ⟨diagnostic, inside⟩ := List.exists_mem_of_ne_nil _ reported
    obtain ⟨listed, severe⟩ := List.mem_filter.1 inside
    exact ⟨diagnostic, listed, (Bool.and_eq_true_iff.1 severe).1⟩

/-- Every declaration is listed or reported. No list and no report names
anything but declarations, and neither does so twice. A check of the schema
fails when some declaration misses a list that it asks for. -/
theorem listed_or_reported (run : analyze schema options = .ok analysis) :
    (∀ decl ∈ schema.types, AccountsFor analysis decl)
      ∧ (analysis.types.map (·.fullName)).Nodup
      ∧ (analysis.eventTypes.map (·.fullName)).Nodup
      ∧ (∀ name, name ∈ analysis.types.map (·.fullName)
            ∨ name ∈ analysis.eventTypes.map (·.fullName)
            ∨ analysis.errorsAbout name ≠ [] →
          ∃ decl ∈ schema.types, decl.fullName = name)
      ∧ (hasErrors analysis.diagnostics = true ↔ ∃ decl ∈ schema.types, analysis.Misses decl)
      ∧ ((CommandLine.check ⟨options, schema⟩).exit = 1
          ↔ ∃ decl ∈ schema.types, analysis.Misses decl) := by
  obtain ⟨outlined, events, scanned, searched, made⟩ := analyze_ok run
  have fails : hasErrors analysis.diagnostics = true
      ↔ ∃ decl ∈ schema.types, analysis.Misses decl := by
    rw [hasErrors_iff run]
    exact exists_congr fun decl => and_congr_right fun declared =>
      (accountsFor_of_analyze run declared).reported
  have listedEvents : (eventTypes schema).value = .ok analysis.eventTypes := by
    rw [made]
    exact searched
  refine ⟨fun decl => accountsFor_of_analyze run, distinct_of_analyze run,
    distinct_of_eventTypes listedEvents, ?_, fails, ?_⟩
  · rintro name (bound | registered | reported)
    · obtain ⟨outline, accepted, rfl⟩ := List.mem_map.1 ((mem_names_of_types run).1 bound)
      obtain ⟨⟨decl, mode⟩, found, acceptedDecl⟩ := List.mem_filterMap.1 accepted
      obtain ⟨chain, -, -, rfl⟩ := accept?_eq_some.1 acceptedDecl
      exact ⟨decl, (mem_annotated.1 found).1, rfl⟩
    · obtain ⟨type, listed, rfl⟩ := List.mem_map.1 registered
      obtain ⟨decl, chain, declared, -, -, -, rfl⟩ := mem_eventTypes listedEvents listed
      exact ⟨decl, declared, rfl⟩
    · exact declared_of_errorsAbout run reported
  · rw [← fails]
    unfold CommandLine.check
    simp only [run]
    cases hasErrors analysis.diagnostics <;> simp

/-- A gate that is bound and called, and two that are to be: the hatch is
not partial, and the trap is hidden from whatever would bind it. -/
def gates : Schema where
  types :=
    [{ name := "Gate", isPartial := true, attributes := [.bindable false, .eventRegister] },
     { name := "Hatch", attributes := [.bindable false, .eventRegister] },
     { name := "Trap", accessibility := .«private», isPartial := true
       attributes := [.bindable false, .eventRegister] }]

/-- The hatch is in no list and reported once, the trap is called without
being bound, and the check fails. -/
theorem gates_listed_or_reported :
    ∃ analysis, analyze gates {} = .ok analysis
      ∧ (analysis.types.map (·.fullName)).Nodup
      ∧ "Gate" ∈ analysis.types.map (·.fullName)
      ∧ "Hatch" ∉ analysis.types.map (·.fullName)
      ∧ "Hatch" ∉ analysis.eventTypes.map (·.fullName)
      ∧ analysis.errorsAbout "Hatch"
        = [⟨.notPartial, "Hatch", "'Hatch' must be declared partial"⟩]
      ∧ "Trap" ∈ analysis.eventTypes.map (·.fullName)
      ∧ analysis.errorsAbout "Trap"
        = [⟨.accessibilityNotAllowed, "Trap", "'Trap' is Private"⟩]
      ∧ (CommandLine.check ⟨{}, gates⟩).exit = 1 := by
  obtain ⟨analysis, run, -⟩ := @analyze_asWritten gates (by decide +kernel) {}
  obtain ⟨accounts, distinct, -, -, -, fails⟩ := listed_or_reported run
  have someHatch : gates.types[1] ∈ gates.types := by decide
  have someTrap : gates.types[2] ∈ gates.types := by decide
  have gate : AccountsFor analysis gates.types[0] := accounts _ (by decide)
  have hatch : AccountsFor analysis gates.types[1] := accounts _ someHatch
  have trap : AccountsFor analysis gates.types[2] := accounts _ someTrap
  have aboutHatch : analysis.errorsAbout "Hatch"
      = [⟨.notPartial, "Hatch", "'Hatch' must be declared partial"⟩] :=
    (errorsAbout_of_analyze run someHatch).trans (by decide +kernel)
  have aboutTrap : analysis.errorsAbout "Trap"
      = [⟨.accessibilityNotAllowed, "Trap", "'Trap' is Private"⟩] :=
    (errorsAbout_of_analyze run someTrap).trans (by decide +kernel)
  have bound : MayBeBound analysis.schema gates.types[0] (.bindable false) :=
    { isPartial := rfl
      topLevel := rfl
      accessible := Or.inl rfl
      derivesAsClass := fun _ derives => absurd rfl derives
      openBase := fun _ _ _ derives => nomatch derives }
  refine ⟨analysis, run, distinct, ?_, ?_, ?_, aboutHatch, ?_, aboutTrap, ?_⟩
  · exact gate.bound.2 ⟨_, rfl, bound⟩
  · intro listed
    obtain ⟨mode, -, may⟩ := hatch.bound.1 listed
    exact absurd may.isPartial Bool.false_ne_true
  · intro listed
    exact absurd (hatch.registered.1 listed).2.1 Bool.false_ne_true
  · exact trap.registered.2 ⟨rfl, rfl, rfl⟩
  · have reported : analysis.errorsAbout gates.types[1].fullName ≠ [] :=
      List.ne_nil_of_mem (aboutHatch ▸ List.mem_cons_self)
    exact fails.2 ⟨_, someHatch, hatch.reported.1 reported⟩

end DataBinding
