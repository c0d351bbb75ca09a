/-
Every file is included once. A run writes a file for each type that it can
emit, and one index for each namespace in which there is such a file. Host
code includes the indexes and nothing else, so a file that no index includes
is not there.

# Reading an index

An index is text, and what it includes has to be read off that text. Each of
its statements includes the file that a literal names (`Includes`). A text
begins with one literal at most, so it can be cut into such statements in one
way, and includes one list of files at most (`Includes.unique`).

# Regrouping

The files of a run are gathered by their namespaces, which are listed once
and sorted. Each file has one namespace, and that is among the listed ones,
so the groups in a row hold the files of the run and nothing else
(`flatMap_filter_perm`); within a group they keep their order.
-/
import DataBinding.Proofs.ByteOrder
import DataBinding.Proofs.EmbeddedBases
import DataBinding.Proofs.Isolation
import DataBinding.Proofs.Literals

namespace DataBinding

open Code Emission

variable {schema : Schema} {options : Options} {analysis : Analysis} {generation : Generation}

-- ============================================================ whose file

/-- The file of a type: it is named after the type, and stands in its
namespace. -/
structure GeneratedFile.IsOf (nameFor : String → String) (fullName : String)
    (scope : Option String) (file : GeneratedFile) : Prop where
  fileName : file.fileName = nameFor fullName
  typeName : file.typeName = some fullName
  scope : file.scope = scope

/-- What is drafted of a type whose code is known. -/
theorem file_of_outcomeOf {typeName : String} {file : Drafts → FileDraft} {code : Emit Drafts}
    {outcome : Outcome} {draft : FileDraft} (run : outcomeOf typeName file code = .ok outcome)
    (drafted : outcome.file? = some draft) : ∃ tokens, draft = file tokens := by
  rcases outcomeOf_eq_ok.1 run with ⟨tokens, -, rfl⟩ | ⟨_, -, -, rfl⟩
  · cases drafted
    exact ⟨tokens, rfl⟩
  · cases drafted

/-- Each draft belongs to one of the types that have been emitted. -/
theorem type_of_draft {α : Type} {holds : α → FileDraft → Prop} {types : List α}
    {outcomes : List Outcome} {draft : FileDraft}
    (each : List.Forall₂
      (fun type outcome => ∀ draft, outcome.file? = some draft → holds type draft) types outcomes)
    (drafted : draft ∈ outcomes.filterMap Outcome.file?) : ∃ type ∈ types, holds type draft := by
  obtain ⟨outcome, inside, made⟩ := List.mem_filterMap.1 drafted
  obtain ⟨type, listed, held⟩ := exists_of_forall₂ each inside
  exact ⟨type, listed, held draft made⟩

/-- What is drafted of a bound type is its file. -/
theorem drafts_of_emitTypes {paths : CodePaths} {registry : EnumRegistry}
    {types : List TypeDescriptor} {outcomes : List Outcome}
    (run : emitTypes paths registry types = .ok outcomes) (options : Options) :
    List.Forall₂ (fun type outcome => ∀ draft, outcome.file? = some draft →
      (draft.settle options).IsOf unitFileName type.fullName type.scope) types outcomes := by
  refine (forall₂_of_emitTypes run).imp fun type outcome ⟨_, here⟩ draft drafted => ?_
  obtain ⟨tokens, rfl⟩ := file_of_outcomeOf here drafted
  exact ⟨rfl, rfl, rfl⟩

/-- What is drafted of an event type is its file. -/
theorem drafts_of_emitEvents {paths : CodePaths} {types : List EventTypeDescriptor}
    {outcomes : List Outcome} (run : types.mapM (emitEvents paths) = .ok outcomes)
    (options : Options) :
    List.Forall₂ (fun type outcome => ∀ draft, outcome.file? = some draft →
      (draft.settle options).IsOf eventUnitFileName type.fullName type.scope) types outcomes := by
  refine (forall₂_of_mapM_ok run).imp fun type outcome here draft drafted => ?_
  obtain ⟨tokens, rfl⟩ := file_of_outcomeOf here drafted
  exact ⟨rfl, rfl, rfl⟩

/-- A bound type is declared, and a blank namespace of it is none. -/
theorem decl_of_type (run : analyze schema options = .ok analysis) {type : TypeDescriptor}
    (listed : type ∈ analysis.types) :
    ∃ decl ∈ schema.types, type.fullName = decl.fullName
      ∧ type.scope = decl.scope.filter (· != "") := by
  obtain ⟨decl, mode, chain, found, -, -, -, same⟩ :=
    mem_outlines (outlines_of_types run) (List.mem_map_of_mem listed)
  refine ⟨decl, List.mem_of_find?_eq_some found, ?_, ?_⟩
  · have named := List.find?_some found
    exact (beq_iff_eq.1 named).symm
  · show type.toTypeOutline.scope = _
    rw [same]
    unfold TypeOutline.link
    split <;> rfl

/-- An event type is declared, and a blank namespace of it is none. -/
theorem decl_of_eventType (run : analyze schema options = .ok analysis)
    {type : EventTypeDescriptor} (listed : type ∈ analysis.eventTypes) :
    ∃ decl ∈ schema.types, type.fullName = decl.fullName
      ∧ type.scope = decl.scope.filter (· != "") := by
  obtain ⟨_, _, -, searched, rfl⟩ := analyze_ok run
  obtain ⟨decl, chain, declared, -, -, -, rfl⟩ := mem_eventTypes searched listed
  exact ⟨decl, declared, rfl, rfl⟩

-- ======================================================= reading an index

/-- The statement that includes the file a literal names. -/
def includeText (literal : String) : String := "include ! (" ++ literal ++ ") ;"

/-- The text of some statements in a row. -/
def includeTexts (literals : List String) : String := " ".intercalate (literals.map includeText)

/-- An index that includes some files, in their order: behind the header
there is a statement for each of them, with a literal that says its name,
and nothing else. -/
def GeneratedFile.Includes (options : Options) (index : GeneratedFile) (names : List String) :
    Prop :=
  ∃ literals : List String,
    literals.map (fun literal => literalText? (.leaf literal)) = names.map some
      ∧ index.code = (if options.header then banner else "") ++ includeTexts literals ++ "\n"

/-- What follows the literal of a first statement. -/
def afterLiteral (literals : List String) : String :=
  if literals.isEmpty then ") ;" else ") ; " ++ includeTexts literals

theorem includeTexts_cons (literal : String) (literals : List String) :
    includeTexts (literal :: literals)
      = "include ! (" ++ (literal ++ afterLiteral literals) := by
  unfold includeTexts afterLiteral
  cases literals with
  | nil => simp [includeText, String.append_assoc]
  | cons next rest =>
    rw [List.map_cons, List.map_cons, String.intercalate_cons_cons]
    simp [includeText, includeTexts, String.append_assoc]

theorem afterLiteral_injective {literals others : List String}
    (same : afterLiteral literals = afterLiteral others) :
    includeTexts literals = includeTexts others := by
  have goesOn : ∀ text : String, ") ;" ≠ ") ; " ++ text := by
    intro text same
    have chars := congrArg String.toList same
    simp [String.toList_append] at chars
  cases literals with
  | nil =>
    cases others with
    | nil => rfl
    | cons next rest => exact absurd same (goesOn _)
  | cons next rest =>
    cases others with
    | nil => exact absurd same.symm (goesOn _)
    | cons next' rest' => exact (String.append_right_inj _).1 same

/-- Statements in a row are cut in one way. -/
theorem includeTexts_unique {literals others : List String}
    (read : ∀ literal ∈ literals, (literalText? (.leaf literal)).isSome)
    (read' : ∀ literal ∈ others, (literalText? (.leaf literal)).isSome)
    (same : includeTexts literals = includeTexts others) : literals = others := by
  have begins : ∀ literal literals, includeTexts [] ≠ includeTexts (literal :: literals) := by
    intro literal literals same
    rw [includeTexts_cons] at same
    have chars := congrArg String.toList same
    simp [includeTexts, String.toList_append] at chars
  induction literals generalizing others with
  | nil =>
    cases others with
    | nil => rfl
    | cons next rest => exact absurd same (begins next rest)
  | cons literal rest ih =>
    cases others with
    | nil => exact absurd same.symm (begins literal rest)
    | cons literal' rest' =>
      rw [includeTexts_cons, includeTexts_cons, String.append_right_inj] at same
      obtain ⟨here, later⟩ := List.forall_mem_cons.1 read
      obtain ⟨here', later'⟩ := List.forall_mem_cons.1 read'
      obtain rfl := literal_unique here here' same
      rw [String.append_right_inj] at same
      rw [ih later later' (afterLiteral_injective same)]

/-- An index includes one list of files. -/
theorem GeneratedFile.Includes.unique {index : GeneratedFile} {names others : List String}
    (includes : index.Includes options names) (includes' : index.Includes options others) :
    names = others := by
  obtain ⟨literals, read, code⟩ := includes
  obtain ⟨literals', read', code'⟩ := includes'
  have reads : ∀ {literals names : List String},
      literals.map (fun literal => literalText? (.leaf literal)) = names.map some →
      ∀ literal ∈ literals, (literalText? (.leaf literal)).isSome := by
    intro literals names read literal inside
    have made := List.mem_map_of_mem (f := fun literal => literalText? (.leaf literal)) inside
    rw [read] at made
    obtain ⟨name, -, said⟩ := List.mem_map.1 made
    rw [← said]
    rfl
  rw [code, String.append_left_inj, String.append_right_inj] at code'
  obtain rfl := includeTexts_unique (reads read) (reads read') code'
  exact List.map_injective_iff.2 (fun _ _ => Option.some.inj) (read.symm.trans read')

/-- The statements of an index, as text. -/
theorem texts_includes (names : List String) :
    Token.texts (names.flatMap fun name =>
        leaves "include !" ++ [Code.round [stringLiteral name], .leaf ";"])
      = includeTexts (names.map fun name => (stringLiteral name).text) := by
  have lead : leaves "include !" = [.leaf "include", .leaf "!"] := by cbv
  induction names with
  | nil => rfl
  | cons name rest ih =>
    rw [List.flatMap_cons, List.map_cons, includeTexts_cons, afterLiteral, ← ih]
    refine String.toList_injective ?_
    cases rest with
    | nil => simp [lead, Code.round, Token.texts, Token.text, String.toList_append]
    | cons next others => simp [lead, Code.round, Token.texts, Token.text, String.toList_append]

-- ============================================================ regrouping

/-- Items that are gathered by their keys, one key after the other, are all
there, and nothing else. -/
theorem flatMap_filter_perm {α κ : Type} [BEq κ] [LawfulBEq κ] {key : α → κ} {keys : List κ}
    {items : List α} (distinct : keys.Nodup) (covered : ∀ item ∈ items, key item ∈ keys) :
    (keys.flatMap fun k => items.filter (key · == k)).Perm items := by
  induction keys generalizing items with
  | nil =>
    rw [List.eq_nil_iff_forall_not_mem.2 fun item inside => List.not_mem_nil (covered item inside)]
    exact .nil
  | cons k rest ih =>
    obtain ⟨new, distinct⟩ := List.nodup_cons.1 distinct
    -- the later groups are those of the items with another key
    have later : (rest.flatMap fun k' => items.filter (key · == k'))
        = rest.flatMap fun k' => (items.filter (!key · == k)).filter (key · == k') := by
      refine List.flatMap_congr fun k' inside => ?_
      rw [List.filter_filter]
      refine List.filter_congr fun item _ => ?_
      by_cases here : key item = k'
      · have other : k' ≠ k := fun same => new (same ▸ inside)
        simp [here, other]
      · simp [here]
    rw [List.flatMap_cons, later]
    refine (List.Perm.append_left _ (ih distinct ?_)).trans (List.filter_append_perm _ items)
    intro item inside
    obtain ⟨inside, other⟩ := List.mem_filter.1 inside
    refine (List.mem_cons.1 (covered item inside)).resolve_left fun same => ?_
    simp [same] at other

-- =========================================================== the indexes

/-- No namespace stands before each of them, and they stand in the order of
their bytes. -/
def ScopeBefore : Option String → Option String → Prop
  | none, some _ => True
  | some a, some b => Text.bytes a < Text.bytes b
  | _, none => False

/-- The order that indexes are sorted by, between different namespaces. -/
theorem scopeBefore_of_scopeOrder {a b : Option String} (ordered : scopeOrder a b = true)
    (other : a ≠ b) : ScopeBefore a b := by
  cases a with
  | none =>
    cases b with
    | none => exact absurd rfl other
    | some b => exact trivial
  | some a =>
    cases b with
    | none => cases ordered
    | some b =>
      have le : a ≤ b := of_decide_eq_true ordered
      exact Text.bytes_lt_iff.2 (lt_of_le_of_ne le fun same => other (congrArg some same))

theorem scopeOrder_trans (a b c : Option String) (ab : scopeOrder a b = true)
    (bc : scopeOrder b c = true) : scopeOrder a c = true := by
  cases a with
  | none => rfl
  | some a =>
    cases b with
    | none => cases ab
    | some b =>
      cases c with
      | none => cases bc
      | some c => exact decide_eq_true (le_trans (of_decide_eq_true ab) (of_decide_eq_true bc))

theorem scopeOrder_total (a b : Option String) :
    (scopeOrder a b || scopeOrder b a) = true := by
  cases a with
  | none => rfl
  | some a =>
    cases b with
    | none => rfl
    | some b => simpa [scopeOrder] using String.le_total a b

/-- The namespaces of indexes are those of the files, each once. -/
theorem scopes_of_indexDrafts (files : List FileDraft) :
    ((indexDrafts files).map (·.scope)).Perm (files.map (·.scope)).eraseDups := by
  unfold indexDrafts
  rw [List.map_map]
  exact (List.map_id _).symm ▸ List.mergeSort_perm _ _

theorem nodup_scopes (files : List FileDraft) : ((indexDrafts files).map (·.scope)).Nodup :=
  (scopes_of_indexDrafts files).nodup_iff.2 (nodup_eraseDups _)

theorem mem_scopes {files : List FileDraft} {scope : Option String} :
    scope ∈ (indexDrafts files).map (·.scope) ↔ ∃ file ∈ files, file.scope = scope := by
  rw [(scopes_of_indexDrafts files).mem_iff, List.mem_eraseDups, List.mem_map]

/-- Indexes stand in the order of their namespaces. -/
theorem sorted_scopes (files : List FileDraft) :
    ((indexDrafts files).map (·.scope)).Pairwise ScopeBefore := by
  have sorted : ((indexDrafts files).map (·.scope)).Pairwise (scopeOrder · · = true) := by
    unfold indexDrafts
    rw [List.map_map]
    exact (List.map_id _).symm ▸ List.pairwise_mergeSort scopeOrder_trans scopeOrder_total _
  exact (sorted.and (nodup_scopes files)).imp fun ⟨ordered, other⟩ =>
    scopeBefore_of_scopeOrder ordered other

/-- The index of a namespace includes the files of that namespace. -/
theorem includes_indexDraft (files : List FileDraft) (scope : Option String) :
    ((indexDraft files scope).settle options).Includes options
      ((files.filter (·.scope == scope)).map (·.fileName)) := by
  refine ⟨((files.filter (·.scope == scope)).map (·.fileName)).map fun name =>
    (stringLiteral name).text, ?_, ?_⟩
  · rw [List.map_map]
    exact List.map_congr_left fun name _ => literalText?_stringLiteral name
  · rw [← texts_includes, List.flatMap_map]
    show _ ++ Token.texts (_ ++ []) ++ _ = _
    rw [List.append_nil, Draft.settle]

-- ============================================================== all files

namespace Generation

/-- The files of a namespace: those of its bound types, then those of its
event types, in the order in which they are written. -/
def filesOf (generation : Generation) (scope : Option String) : List GeneratedFile :=
  generation.units.filter (·.scope == scope) ++ generation.eventUnits.filter (·.scope == scope)

/-- The files of a run, each in the namespace of its type, are included by
the indexes once: an index stands for one namespace that has files, and
includes these and nothing else. -/
structure Indexed (schema : Schema) (options : Options) (generation : Generation) : Prop where
  units : ∀ file ∈ generation.units, ∃ decl ∈ schema.types,
    file.IsOf unitFileName decl.fullName (decl.scope.filter (· != ""))
  eventUnits : ∀ file ∈ generation.eventUnits, ∃ decl ∈ schema.types,
    file.IsOf eventUnitFileName decl.fullName (decl.scope.filter (· != ""))
  distinct : (generation.units ++ generation.eventUnits).Nodup
  distinctScopes : (generation.indexes.map (·.scope)).Nodup
  sorted : (generation.indexes.map (·.scope)).Pairwise ScopeBefore
  named : ∀ index ∈ generation.indexes, index.fileName = indexFileName index.scope
  includes : ∀ index ∈ generation.indexes, ∀ names,
    index.Includes options names ↔ names = (generation.filesOf index.scope).map (·.fileName)
  filled : ∀ index ∈ generation.indexes, generation.filesOf index.scope ≠ []
  included : ∀ file ∈ generation.units ++ generation.eventUnits,
    ∃! index, index ∈ generation.indexes ∧ file ∈ generation.filesOf index.scope
  once : (generation.indexes.flatMap fun index => generation.filesOf index.scope).Perm
    (generation.units ++ generation.eventUnits)

end Generation

theorem filesOf_eq (generation : Generation) (scope : Option String) :
    generation.filesOf scope
      = (generation.units ++ generation.eventUnits).filter (·.scope == scope) :=
  (List.filter_append ..).symm

theorem mem_filesOf {file : GeneratedFile} {scope : Option String} :
    file ∈ generation.filesOf scope
      ↔ file ∈ generation.units ++ generation.eventUnits ∧ file.scope = scope := by
  rw [filesOf_eq, List.mem_filter, beq_iff_eq]

section Run

variable {drafting : Drafting}

/-- The files of a run are its settled drafts. -/
theorem files_settle (options : Options) (drafting : Drafting) :
    (drafting.settle options).units ++ (drafting.settle options).eventUnits
      = (drafting.units ++ drafting.eventUnits).map (·.settle options) :=
  List.map_append.symm

theorem scopes_settle (options : Options) (drafting : Drafting) :
    (drafting.settle options).indexes.map (·.scope) = drafting.indexes.map (·.scope) :=
  List.map_map

/-- The indexes of a run stand for the namespaces that have files. -/
theorem mem_scopes_settle {scope : Option String} :
    scope ∈ (drafting.settle options).indexes.map (·.scope)
      ↔ (drafting.settle options).filesOf scope ≠ [] := by
  rw [scopes_settle, Drafting.indexes, mem_scopes]
  constructor
  · rintro ⟨draft, drafted, rfl⟩
    refine List.ne_nil_of_mem (mem_filesOf.2 ⟨?_, rfl⟩ : draft.settle options ∈ _)
    rw [files_settle]
    exact List.mem_map_of_mem drafted
  · intro filled
    obtain ⟨file, inside⟩ := List.exists_mem_of_ne_nil _ filled
    obtain ⟨inside, placed⟩ := mem_filesOf.1 inside
    rw [files_settle] at inside
    obtain ⟨draft, drafted, rfl⟩ := List.mem_map.1 inside
    exact ⟨draft, drafted, placed⟩

/-- The index of a namespace includes its files. -/
theorem includes_of_settle {index : GeneratedFile}
    (inside : index ∈ (drafting.settle options).indexes) :
    index.fileName = indexFileName index.scope ∧ index.Includes options
      (((drafting.settle options).filesOf index.scope).map (·.fileName)) := by
  obtain ⟨draft, drafted, rfl⟩ := List.mem_map.1 inside
  obtain ⟨scope, -, rfl⟩ := List.mem_map.1 drafted
  refine ⟨rfl, ?_⟩
  have includes := @includes_indexDraft options (drafting.units ++ drafting.eventUnits) scope
  rw [filesOf_eq, files_settle, List.filter_map, List.map_map]
  exact includes

end Run

section Generated

variable (run : generate schema options = .ok generation)
include run

/-- A file with binding code is that of a declared type. -/
theorem decl_of_unit {file : GeneratedFile} (inside : file ∈ generation.units) :
    ∃ decl ∈ schema.types,
      file.IsOf unitFileName decl.fullName (decl.scope.filter (· != "")) := by
  obtain ⟨drafting, drafted, rfl⟩ := except_map_eq_ok.1 run
  obtain ⟨analysis, analysed, typed, -⟩ := draft_ok drafted
  obtain ⟨draft, among, rfl⟩ := List.mem_map.1 inside
  obtain ⟨type, listed, isOf⟩ := type_of_draft (drafts_of_emitTypes typed options) among
  obtain ⟨decl, declared, named, placed⟩ := decl_of_type analysed listed
  exact ⟨decl, declared, named ▸ placed ▸ isOf⟩

/-- A file with event calls is that of a declared type. -/
theorem decl_of_eventUnit {file : GeneratedFile} (inside : file ∈ generation.eventUnits) :
    ∃ decl ∈ schema.types,
      file.IsOf eventUnitFileName decl.fullName (decl.scope.filter (· != "")) := by
  obtain ⟨drafting, drafted, rfl⟩ := except_map_eq_ok.1 run
  obtain ⟨analysis, analysed, -, evented⟩ := draft_ok drafted
  obtain ⟨draft, among, rfl⟩ := List.mem_map.1 inside
  obtain ⟨type, listed, isOf⟩ := type_of_draft (drafts_of_emitEvents evented options) among
  obtain ⟨decl, declared, named, placed⟩ := decl_of_eventType analysed listed
  exact ⟨decl, declared, named ▸ placed ▸ isOf⟩

/-- A type has one file of each kind at most. -/
theorem nodup_typeNames :
    (generation.units.map (·.typeName)).Nodup
      ∧ (generation.eventUnits.map (·.typeName)).Nodup := by
  obtain ⟨drafting, drafted, rfl⟩ := except_map_eq_ok.1 run
  obtain ⟨analysis, analysed, typed, evented⟩ := draft_ok drafted
  have distinctEvents : (analysis.eventTypes.map (·.fullName)).Nodup := by
    obtain ⟨_, _, -, searched, rfl⟩ := analyze_ok analysed
    exact distinct_of_eventTypes searched
  have once : ∀ {names : List String} {outcomes : List Outcome}, names.Nodup →
      List.Forall₂ (fun type outcome => outcome.IsOf type) names outcomes →
      (((outcomes.filterMap Outcome.file?).map (·.settle options)).map (·.typeName)).Nodup := by
    intro names outcomes distinct each
    obtain ⟨units, typeNames, splits⟩ := splits_of_outcomes distinct each
    rw [typeNames_settle, typeNames]
    exact (splits.unitsInOrder.nodup distinct).map fun _ _ => Option.some.inj
  exact ⟨once (distinct_of_analyze analysed) (outcomes_of_emitTypes typed),
    once distinctEvents (outcomes_of_emitEvents evented)⟩

/-- The files of a type have different names. -/
theorem nodup_files : (generation.units ++ generation.eventUnits).Nodup := by
  obtain ⟨distinct, distinctEvents⟩ := nodup_typeNames run
  refine List.nodup_append.2 ⟨.of_map _ distinct, .of_map _ distinctEvents, ?_⟩
  rintro file unit _ eventUnit rfl
  obtain ⟨decl, -, isOf⟩ := decl_of_unit run unit
  obtain ⟨decl', -, isOf'⟩ := decl_of_eventUnit run eventUnit
  have named : decl.fullName = decl'.fullName :=
    Option.some.inj (isOf.typeName.symm.trans isOf'.typeName)
  have twice := isOf.fileName.symm.trans isOf'.fileName
  unfold unitFileName eventUnitFileName at twice
  rw [named, String.append_right_inj] at twice
  exact absurd twice (by decide)

/-- Each index stands for a namespace of its own, in which there are
files. -/
theorem scopes_of_generate :
    (generation.indexes.map (·.scope)).Pairwise ScopeBefore
      ∧ (generation.indexes.map (·.scope)).Nodup
      ∧ ∀ scope, scope ∈ generation.indexes.map (·.scope) ↔ generation.filesOf scope ≠ [] := by
  obtain ⟨drafting, -, rfl⟩ := except_map_eq_ok.1 run
  refine ⟨?_, ?_, fun scope => mem_scopes_settle⟩
  · rw [scopes_settle]
    exact sorted_scopes _
  · rw [scopes_settle]
    exact nodup_scopes _

/-- An index is named after its namespace and includes the files there. -/
theorem includes_of_generate {index : GeneratedFile} (inside : index ∈ generation.indexes) :
    index.fileName = indexFileName index.scope
      ∧ index.Includes options ((generation.filesOf index.scope).map (·.fileName)) := by
  obtain ⟨drafting, -, rfl⟩ := except_map_eq_ok.1 run
  exact includes_of_settle inside

end Generated

/-- Whatever the types of a schema and their namespaces, the indexes of a
run include each of its files once. -/
theorem files_indexed (run : generate schema options = .ok generation) :
    generation.Indexed schema options := by
  obtain ⟨sorted, distinctScopes, isScope⟩ := scopes_of_generate run
  have indexOf : ∀ file ∈ generation.units ++ generation.eventUnits,
      file.scope ∈ generation.indexes.map (·.scope) := fun file inside =>
    (isScope _).2 (List.ne_nil_of_mem (mem_filesOf.2 ⟨inside, rfl⟩))
  constructor
  case units => exact fun file => decl_of_unit run
  case eventUnits => exact fun file => decl_of_eventUnit run
  case distinct => exact nodup_files run
  case distinctScopes => exact distinctScopes
  case sorted => exact sorted
  case named => exact fun index inside => (includes_of_generate run inside).1
  case includes =>
    intro index inside names
    have includes := (includes_of_generate run inside).2
    exact ⟨fun includes' => includes'.unique includes, fun same => same ▸ includes⟩
  case filled => exact fun index inside => (isScope _).1 (List.mem_map_of_mem inside)
  case included =>
    intro file inside
    obtain ⟨index, listed, placed⟩ := List.mem_map.1 (indexOf file inside)
    refine ⟨index, ⟨listed, mem_filesOf.2 ⟨inside, placed.symm⟩⟩, ?_⟩
    rintro other ⟨listed', inside'⟩
    exact List.inj_on_of_nodup_map distinctScopes listed' listed
      ((mem_filesOf.1 inside').2.symm.trans placed.symm)
  case once =>
    have gathered := flatMap_filter_perm distinctScopes indexOf
    rw [List.flatMap_map] at gathered
    simpa only [filesOf_eq] using gathered

-- ============================================================== a harbour

/-- Two types without a namespace, one of which has a blank one instead, and
three in two namespaces; the gate is bindable and has event calls too. -/
def harbour : Schema where
  types :=
    [{ boundClass "Buoy" none [{ name := "_depth", type := "i32" }] with scope := none },
     { eventClass "Crane" none [] [] with scope := some "" },
     { eventClass "Gate" none [.bindable false] [{ name := "_open", type := "bool" }] with
       scope := some "dock" },
     { eventClass "Zone" none [] [] with scope := some "dock" },
     { boundClass "Lamp" none [{ name := "_glow", type := "f32" }] with
       scope := some "dock::pier" }]

/-- The files of the harbour, each with its namespace. -/
theorem draft_harbour :
    ∃ drafting, draft harbour {} = .ok drafting
      ∧ drafting.units.map (fun file => (file.scope, file.fileName))
        = [(none, "Buoy.g.rs"), (some "dock", "dock.Gate.g.rs"),
          (some "dock::pier", "dock.pier.Lamp.g.rs")]
      ∧ drafting.eventUnits.map (fun file => (file.scope, file.fileName))
        = [(none, "Crane.events.g.rs"), (some "dock", "dock.Gate.events.g.rs"),
          (some "dock", "dock.Zone.events.g.rs")] := by
  have written : WrittenInOrder harbour := by decide +kernel
  have emitted : (emitTypes {} (enumsAsWritten harbour) (typesAsWritten harbour)).map
        (fun outcomes => (outcomes.filterMap Outcome.file?).map
          fun file => (file.scope, file.fileName))
      = .ok [(none, "Buoy.g.rs"), (some "dock", "dock.Gate.g.rs"),
          (some "dock::pier", "dock.pier.Lamp.g.rs")] := by
    decide +kernel
  have called : ((eventTypesAsWritten harbour).mapM (emitEvents {})).map
        (fun outcomes => (outcomes.filterMap Outcome.file?).map
          fun file => (file.scope, file.fileName))
      = .ok [(none, "Crane.events.g.rs"), (some "dock", "dock.Gate.events.g.rs"),
          (some "dock", "dock.Zone.events.g.rs")] := by
    decide +kernel
  obtain ⟨outcomes, typed, units⟩ := except_map_eq_ok.1 emitted
  obtain ⟨calls, evented, eventUnits⟩ := except_map_eq_ok.1 called
  obtain ⟨drafting, drafted, types, events⟩ :=
    @draft_asWritten harbour {} written outcomes calls typed evented
  refine ⟨drafting, drafted, ?_, ?_⟩
  · unfold Drafting.units
    rw [types]
    exact units
  · unfold Drafting.eventUnits
    rw [events]
    exact eventUnits

/-- The index of the dock includes the gate's file for binding code, then
the event calls of the gate and the zone. -/
theorem harbour_indexed :
    ∃ generation, generate harbour {} = .ok generation ∧ generation.Indexed harbour {}
      ∧ ∃ index ∈ generation.indexes, index.fileName = "dock.g.rs" ∧ index.Includes {}
          ["dock.Gate.g.rs", "dock.Gate.events.g.rs", "dock.Zone.events.g.rs"] := by
  obtain ⟨drafting, drafted, units, eventUnits⟩ := draft_harbour
  have run := generate_of_draft drafted
  have indexed := files_indexed run
  refine ⟨_, run, indexed, ?_⟩
  -- the files of the dock
  have ofDock : ∀ drafts : List FileDraft,
      ((drafts.map (·.settle {})).filter (·.scope == some "dock")).map (·.fileName)
        = ((drafts.map fun file => (file.scope, file.fileName)).filter
            (·.1 == some "dock")).map (·.2) := by
    intro drafts
    rw [List.filter_map, List.map_map, List.filter_map, List.map_map]
    rfl
  have names : ((drafting.settle {}).filesOf (some "dock")).map (·.fileName)
      = ["dock.Gate.g.rs", "dock.Gate.events.g.rs", "dock.Zone.events.g.rs"] := by
    unfold Generation.filesOf
    rw [List.map_append]
    show List.map _ (List.filter _ (List.map _ drafting.units))
      ++ List.map _ (List.filter _ (List.map _ drafting.eventUnits)) = _
    rw [ofDock, ofDock, units, eventUnits]
    decide
  have filled : (drafting.settle {}).filesOf (some "dock") ≠ [] := by
    intro empty
    rw [empty] at names
    cases names
  obtain ⟨file, inside⟩ := List.exists_mem_of_ne_nil _ filled
  obtain ⟨listed, placed⟩ := mem_filesOf.1 inside
  obtain ⟨index, ⟨among, inside'⟩, -⟩ := indexed.included file listed
  have ofIndex : index.scope = some "dock" := (mem_filesOf.1 inside').2.symm.trans placed
  refine ⟨index, among, ?_, ?_⟩
  · rw [indexed.named index among, ofIndex]
    decide +kernel
  · rw [indexed.includes index among, ofIndex, names]

end DataBinding
