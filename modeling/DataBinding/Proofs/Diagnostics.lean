/-
Which problems an analysis reports, and about which types. Every stage has
problems of its own: the scan and the search for event calls report broken
rules, extraction reports names that come twice, the search for event
calls also methods that come twice, and only merging reports follow-ups
that lead nowhere. So the warnings of one kind may be counted in the stage
they come from, and there each type speaks for itself alone
(`followUpWarnings_of_analyze`).
-/
import DataBinding.Proofs.Merging

namespace DataBinding

variable {schema : Schema} {options : Options} {analysis : Analysis}

-- ============================================================ the stages

/-- Screening reports broken rules. -/
theorem mem_diagnostics_screen {items : List (TypeDecl × GenerationMode)}
    {diagnostic : Diagnostic} (reported : diagnostic ∈ (screen schema items).diagnostics) :
    ∃ decl violation, diagnostic = Violation.diagnostic decl violation := by
  induction items with
  | nil => cases reported
  | cons item rest ih =>
    obtain ⟨decl, mode⟩ := item
    rw [screen] at reported
    cases walked : baseChain schema decl with
    | none =>
      simp only [walked] at reported
      cases reported
    | some chain =>
      simp only [walked] at reported
      rcases List.mem_append.1 reported with here | later
      · obtain ⟨violation, -, rfl⟩ := List.mem_map.1 here
        exact ⟨decl, violation, rfl⟩
      · exact ih later

/-- So does the whole scan. -/
theorem mem_diagnostics_outlines {diagnostic : Diagnostic}
    (reported : diagnostic ∈ (outlines schema).diagnostics) :
    ∃ decl violation, diagnostic = Violation.diagnostic decl violation := by
  unfold outlines at reported
  split at reported
  · cases reported
  · exact mem_diagnostics_screen reported

/-- Extraction reports names that come twice. -/
theorem mem_diagnostics_extractAll {outlined : List TypeOutline} {diagnostic : Diagnostic}
    (reported : diagnostic ∈ (extractAll schema outlined).diagnostics) :
    ∃ typeName property, diagnostic = repeatedName typeName property := by
  obtain ⟨⟨outline, members⟩, extracted, inside⟩ := List.mem_flatMap.1 reported
  obtain ⟨_, -, same⟩ := List.mem_map.1 extracted
  cases same
  obtain ⟨property, -, rfl⟩ := List.mem_map.1 inside
  exact ⟨outline.fullName, property, rfl⟩

/-- The search for event calls reports broken rules and methods that come
twice. -/
theorem mem_diagnostics_screenEvents {decls : List TypeDecl} {diagnostic : Diagnostic}
    (reported : diagnostic ∈ (screenEvents schema decls).diagnostics) :
    (∃ decl violation, diagnostic = Violation.diagnostic decl violation)
      ∨ ∃ typeName call, diagnostic = repeatedCall typeName call := by
  induction decls with
  | nil => cases reported
  | cons decl rest ih =>
    rw [screenEvents] at reported
    cases walked : baseChain schema decl with
    | none =>
      simp only [walked] at reported
      cases reported
    | some chain =>
      simp only [walked] at reported
      split at reported
      · rcases List.mem_append.1 reported with here | later
        · obtain ⟨call, -, rfl⟩ := List.mem_map.1 here
          exact Or.inr ⟨decl.fullName, call, rfl⟩
        · exact ih later
      · rcases List.mem_append.1 reported with here | later
        · obtain ⟨violation, -, rfl⟩ := List.mem_map.1 here
          exact Or.inl ⟨decl, violation, rfl⟩
        · exact ih later

/-- Broken rules are errors, so none of them has the code of a warning. -/
theorem code_violation {code : DiagnosticCode} (warns : code.severity = .warning)
    (decl : TypeDecl) (violation : Violation) : (violation.diagnostic decl).code ≠ code := by
  intro same
  have error : (violation.diagnostic decl).code.severity = .error := by cases violation <;> rfl
  rw [same, warns] at error
  cases error

/-- The scan has no warnings. -/
theorem code_outlines {code : DiagnosticCode} (warns : code.severity = .warning) :
    ∀ diagnostic ∈ (outlines schema).diagnostics, diagnostic.code ≠ code := by
  intro diagnostic reported
  obtain ⟨decl, violation, rfl⟩ := mem_diagnostics_outlines reported
  exact code_violation warns decl violation

/-- The search for event calls has no warnings but those about methods that
come twice. -/
theorem code_eventTypes {code : DiagnosticCode} (warns : code.severity = .warning)
    (other : code ≠ .duplicateEventCall) :
    ∀ diagnostic ∈ (eventTypes schema).diagnostics, diagnostic.code ≠ code := by
  intro diagnostic reported
  rcases mem_diagnostics_screenEvents reported with ⟨decl, violation, rfl⟩ | ⟨_, _, rfl⟩
  · exact code_violation warns decl violation
  · exact other.symm

-- =============================================================== merging

/-- Merging reports follow-ups, each about the type that has it. -/
theorem mem_diagnostics_mergeAll {done : List (String × List Property)}
    {types : List ExtractedType} {diagnostic : Diagnostic}
    (reported : diagnostic ∈ (mergeAll schema done types).diagnostics) :
    diagnostic.code = .unknownAlsoNotifyTarget
      ∧ diagnostic.typeName ∈ types.map (·.fullName) := by
  induction types generalizing done with
  | nil => cases reported
  | cons first rest ih =>
    rw [mergeAll] at reported
    rcases List.mem_append.1 reported with here | later
    · obtain ⟨property, -, inside⟩ := List.mem_flatMap.1 here
      obtain ⟨target, -, rfl⟩ := List.mem_map.1 inside
      exact ⟨rfl, List.mem_cons_self⟩
    · obtain ⟨code, about⟩ := ih later
      exact ⟨code, List.mem_cons_of_mem first.fullName about⟩

/-- What a type reports when it is finished is about itself. -/
theorem typeName_finish {extracted : ExtractedType} {merged : List Property}
    {diagnostic : Diagnostic} (reported : diagnostic ∈ (extracted.finish merged).diagnostics) :
    diagnostic.typeName = extracted.fullName := by
  obtain ⟨property, -, inside⟩ := List.mem_flatMap.1 reported
  obtain ⟨target, -, rfl⟩ := List.mem_map.1 inside
  rfl

/-- What merging reports about one of several types of distinct names is
what this type reports when it is finished. -/
theorem diagnostics_mergeAll_about {done : List (String × List Property)}
    {types : List ExtractedType} {type : TypeDescriptor}
    (distinct : (types.map (·.fullName)).Nodup)
    (finished : type ∈ (mergeAll schema done types).value) :
    ∃ extracted ∈ types, extracted.fullName = type.fullName
      ∧ (mergeAll schema done types).diagnostics.filter (·.typeName == type.fullName)
        = extracted.own.flatMap
            (unknownFollowUps type.fullName (type.merged.map (·.name))) := by
  induction types generalizing done with
  | nil => cases finished
  | cons first rest ih =>
    rw [List.map_cons, List.nodup_cons] at distinct
    rw [mergeAll] at finished ⊢
    rcases List.mem_cons.1 finished with rfl | inRest
    · refine ⟨first, List.mem_cons_self, rfl, ?_⟩
      have own : ∀ diagnostic ∈ (first.finish (first.merge schema done)).diagnostics,
          (diagnostic.typeName == first.fullName) = true :=
        fun diagnostic reported => beq_iff_eq.2 (typeName_finish reported)
      have others : ∀ diagnostic ∈ (mergeAll schema ((first.fullName,
            (first.finish (first.merge schema done)).value.merged) :: done) rest).diagnostics,
          ¬ (diagnostic.typeName == first.fullName) = true := by
        intro diagnostic reported same
        exact distinct.1 (beq_iff_eq.1 same ▸ (mem_diagnostics_mergeAll reported).2)
      have merged : (first.finish (first.merge schema done)).value.merged.map (·.name)
          = (first.merge schema done).map (·.name) := by
        show (List.map _ (List.map _ _)) = _
        rw [List.map_map]
        rfl
      rw [merged]
      show List.filter (fun diagnostic : Diagnostic => diagnostic.typeName == first.fullName) _
        = _
      rw [List.filter_append, List.filter_eq_self.2 own, List.filter_eq_nil_iff.2 others,
        List.append_nil]
      rfl
    · obtain ⟨extracted, inside, named, about⟩ := ih distinct.2 inRest
      refine ⟨extracted, List.mem_cons_of_mem first inside, named, ?_⟩
      have other : type.fullName ≠ first.fullName := fun same =>
        distinct.1 (same ▸ named ▸ List.mem_map_of_mem inside)
      have nothing : ∀ diagnostic ∈ (first.finish (first.merge schema done)).diagnostics,
          ¬ (diagnostic.typeName == type.fullName) = true := by
        intro diagnostic reported same
        exact other (beq_iff_eq.1 same ▸ typeName_finish reported)
      rw [List.filter_append, List.filter_eq_nil_iff.2 nothing, List.nil_append]
      exact about

-- ========================================================== the analysis

/-- The warnings about follow-ups of one type. -/
def followUpWarnings (diagnostics : List Diagnostic) (typeName : String) : List Diagnostic :=
  diagnostics.filter fun diagnostic =>
    diagnostic.code == .unknownAlsoNotifyTarget && diagnostic.typeName == typeName

/-- Where no diagnostic has a code, none about some type has it. -/
theorem filter_code_eq_nil {diagnostics : List Diagnostic} {code : DiagnosticCode}
    {typeName : String} (silent : ∀ diagnostic ∈ diagnostics, diagnostic.code ≠ code) :
    diagnostics.filter (fun diagnostic =>
      diagnostic.code == code && diagnostic.typeName == typeName) = [] := by
  refine List.filter_eq_nil_iff.2 fun diagnostic reported warned => ?_
  rw [Bool.and_eq_true, beq_iff_eq] at warned
  exact silent diagnostic reported warned.1

/-- Of all that an analysis reports, the warnings about follow-ups of a
type are those that merging makes about it. -/
theorem followUpWarnings_of_analyze (run : analyze schema options = .ok analysis)
    (typeName : String) :
    ∃ outlined, (outlines schema).value = .ok outlined
      ∧ followUpWarnings analysis.diagnostics typeName
        = (mergeAll schema [] (extractAll schema outlined).value).diagnostics.filter
            (·.typeName == typeName) := by
  obtain ⟨outlined, _, found, -, rfl⟩ := analyze_ok run
  refine ⟨outlined, found, ?_⟩
  have scanned : followUpWarnings (outlines schema).diagnostics typeName = [] :=
    filter_code_eq_nil (code_outlines rfl)
  have extracted : followUpWarnings (extractAll schema outlined).diagnostics typeName = [] := by
    refine filter_code_eq_nil fun diagnostic reported => ?_
    obtain ⟨_, _, rfl⟩ := mem_diagnostics_extractAll reported
    exact fun same => nomatch same
  have events : followUpWarnings (eventTypes schema).diagnostics typeName = [] :=
    filter_code_eq_nil (code_eventTypes rfl fun same => nomatch same)
  have merged : followUpWarnings
        (mergeAll schema [] (extractAll schema outlined).value).diagnostics typeName
      = (mergeAll schema [] (extractAll schema outlined).value).diagnostics.filter
          (·.typeName == typeName) := by
    refine List.filter_congr fun diagnostic reported => ?_
    rw [(mem_diagnostics_mergeAll reported).1]
    rfl
  unfold followUpWarnings at scanned extracted events merged ⊢
  rw [List.filter_append, List.filter_append, List.filter_append, scanned, extracted, merged,
    events, List.append_nil]
  rfl

end DataBinding
