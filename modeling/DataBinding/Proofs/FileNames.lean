/-
Which generated files share a name, and what becomes of them. Files for
binding code, for event calls and for indexes are named in three ways, and
all are written into one directory, so a file may be written over another.

# One way of naming

Where the names of a schema are plain, each file is named as the binding code
of some type would be: the event calls of a type as that of `events` in the
type, an index as that of its namespace, and the root's as that of `__root`
(`named_of_unit`, `named_of_eventUnit`, `named_of_index`). A plain name can be
read off the name of its file (`unitFileName_injective`). So two files share
their name when two of these types are one, and `Clashes` lists how that can
be.

# Writing one file after the other

Writing a file leaves all directories where they are, so every path that
could be walked before leads to the same place (`walk_of_write`), and only one
file has other content than before. Where no file of a run shares its name
with a later one, each keeps its own content to the end of the run.
-/
import DataBinding.Proofs.Indexes
import DataBinding.Proofs.Writing

namespace DataBinding

open Code Emission CommandLine

namespace Text

-- =========================================================== plain names

/-- Names as they are declared: colons come in pairs, and there is no dot
and no slash. -/
def isPlain : List Char → Bool
  | ':' :: ':' :: rest => isPlain rest
  | c :: rest => c != ':' && c != '.' && c != '/' && isPlain rest
  | [] => true

/-- A path with a `::` for each dot. -/
def undotted : List Char → List Char
  | '.' :: rest => ':' :: ':' :: undotted rest
  | c :: rest => c :: undotted rest
  | [] => []

/-- Plain names are made of pairs of colons and of other characters. -/
theorem plain_induction {motive : (cs : List Char) → isPlain cs = true → Prop}
    (nil : motive [] rfl)
    (pair : ∀ rest plain, motive rest plain → motive (':' :: ':' :: rest) plain)
    (char : ∀ c rest plain whole, c ≠ ':' → c ≠ '.' → c ≠ '/' → motive rest plain →
      motive (c :: rest) whole)
    {cs : List Char} (plain : isPlain cs = true) : motive cs plain := by
  fun_induction isPlain cs with
  | case1 rest ih => exact pair rest plain (ih plain)
  | case2 c rest noPair ih =>
    have parts := plain
    rw [isPlain.eq_2 c rest noPair, Bool.and_eq_true, Bool.and_eq_true, Bool.and_eq_true] at parts
    obtain ⟨⟨⟨noColon, noDot⟩, noSlash⟩, plain'⟩ := parts
    exact char c rest plain' _ (bne_iff_ne.1 noColon) (bne_iff_ne.1 noDot) (bne_iff_ne.1 noSlash)
      (ih plain')
  | case3 => exact nil

/-- A character that is no colon stays what it is. -/
theorem dotted_cons {c : Char} (noColon : c ≠ ':') (rest : List Char) :
    dotted (c :: rest) = c :: dotted rest := by
  rw [dotted]
  exact fun _ isColon => absurd isColon noColon

theorem undotted_cons {c : Char} (noDot : c ≠ '.') (rest : List Char) :
    undotted (c :: rest) = c :: undotted rest := by
  rw [undotted]
  exact fun isDot => absurd isDot noDot

/-- Plain names in a row are a plain name. -/
theorem isPlain_append {cs ds : List Char} (plain : isPlain cs) (plain' : isPlain ds) :
    isPlain (cs ++ ds) := by
  induction plain using plain_induction with
  | nil => exact plain'
  | pair rest _ ih => exact ih
  | char c rest _ _ noColon noDot noSlash ih =>
    rw [List.cons_append, isPlain]
    · simp [noColon, noDot, noSlash, ih]
    · exact fun _ isColon => absurd isColon noColon

/-- What follows a plain name is written as if it stood alone. -/
theorem dotted_append {cs : List Char} (plain : isPlain cs) (ds : List Char) :
    dotted (cs ++ ds) = dotted cs ++ dotted ds := by
  induction plain using plain_induction with
  | nil => rfl
  | pair rest _ ih => exact congrArg ('.' :: ·) ih
  | char c rest _ _ noColon _ _ ih =>
    rw [List.cons_append, dotted_cons noColon, dotted_cons noColon, ih, List.cons_append]

/-- A plain name can be read off its dotted form. -/
theorem undotted_dotted {cs : List Char} (plain : isPlain cs) : undotted (dotted cs) = cs := by
  induction plain using plain_induction with
  | nil => rfl
  | pair rest _ ih => exact congrArg (':' :: ':' :: ·) ih
  | char c rest _ _ noColon noDot _ ih => rw [dotted_cons noColon, undotted_cons noDot, ih]

/-- No plain name leads into a directory. -/
theorem slash_not_mem_dotted {cs : List Char} (plain : isPlain cs) : '/' ∉ dotted cs := by
  induction plain using plain_induction with
  | nil => exact List.not_mem_nil
  | pair rest _ ih => exact List.not_mem_cons_of_ne_of_not_mem (by decide) ih
  | char c rest _ _ noColon _ noSlash ih =>
    rw [dotted_cons noColon]
    exact List.not_mem_cons_of_ne_of_not_mem noSlash.symm ih

end Text

/-- A name that a file name tells apart from others. -/
def PlainName (name : String) : Prop := Text.isPlain name.toList = true

instance (name : String) : Decidable (PlainName name) := inferInstanceAs (Decidable (_ = _))

theorem PlainName.append {a b : String} (plain : PlainName a) (plain' : PlainName b) :
    PlainName (a ++ b) := by
  unfold PlainName
  rw [String.toList_append]
  exact Text.isPlain_append plain plain'

/-- A schema whose types and namespaces have plain names. -/
def Schema.HasPlainNames (schema : Schema) : Prop :=
  ∀ decl ∈ schema.types, PlainName decl.name ∧ ∀ scope ∈ decl.scope, PlainName scope

instance (schema : Schema) : Decidable schema.HasPlainNames :=
  inferInstanceAs (Decidable (∀ decl ∈ schema.types, _ ∧ _))

theorem plain_fullName {decl : TypeDecl} (plain : PlainName decl.name)
    (plainScope : ∀ scope ∈ decl.scope, PlainName scope) : PlainName decl.fullName := by
  unfold TypeDecl.fullName joinPath
  split
  · exact plain
  · next scope declared =>
    split
    · exact plain
    · exact ((plainScope scope declared).append (by decide)).append plain

-- ============================================================ file names

/-- A plain name can be read off the name of its file. -/
theorem unitFileName_injective {a b : String} (plain : PlainName a) (plain' : PlainName b)
    (same : unitFileName a = unitFileName b) : a = b := by
  unfold unitFileName dottedName at same
  rw [String.append_left_inj] at same
  have same := String.ofList_injective same
  refine String.toList_injective ?_
  rw [← Text.undotted_dotted plain, same, Text.undotted_dotted plain']

/-- Event calls are named like the code of a type within their own. -/
theorem eventUnitFileName_eq {owner : String} (plain : PlainName owner) :
    eventUnitFileName owner = unitFileName (owner ++ "::events") := by
  have calls : Text.dotted "::events".toList = ".events".toList := by decide
  unfold eventUnitFileName unitFileName dottedName
  rw [String.toList_append, Text.dotted_append plain, calls]
  simp [String.append_assoc]

/-- An index is named like the code of a type with the name of its
namespace. -/
theorem indexFileName_eq (scope : Option String) :
    indexFileName scope = unitFileName (scope.getD "__root") := by
  cases scope with
  | none => decide
  | some scope => rfl

/-- A text without slashes is one step. -/
theorem steps_of_no_slash {name : String} (noSlash : '/' ∉ name.toList) (named : name ≠ "") :
    steps name = [name] := by
  have whole : ∀ cs : List Char, '/' ∉ cs → Text.pieces (· == '/') cs = [cs] := by
    intro cs noSlash
    induction cs with
    | nil => rfl
    | cons c rest ih =>
      rw [List.mem_cons, not_or] at noSlash
      obtain ⟨other, noSlash⟩ := noSlash
      rw [Text.pieces, if_neg (by simpa using Ne.symm other), ih noSlash]
  have relative : name.toList.head? ≠ some '/' := fun first =>
    noSlash (List.mem_of_mem_head? first)
  unfold steps
  rw [whole _ noSlash, if_neg relative]
  simp [named]

/-- A plain name is the name of a file in the directory itself. -/
theorem simpleName_unitFileName {name : String} (plain : PlainName name) :
    FileTree.SimpleName (unitFileName name) := by
  have noSlash : '/' ∉ (unitFileName name).toList := by
    unfold unitFileName dottedName
    rw [String.toList_append, String.toList_ofList, List.mem_append]
    exact not_or.2 ⟨Text.slash_not_mem_dotted plain, by decide⟩
  have long : ∀ other : String, other.length < 5 → unitFileName name ≠ other := by
    intro other short same
    have length := congrArg String.length same
    unfold unitFileName at length
    rw [String.length_append] at length
    have suffix : ".g.rs".length = 5 := by decide
    omega
  exact ⟨steps_of_no_slash noSlash (long "" (by decide)), long "." (by decide),
    long ".." (by decide)⟩

-- ============================================================= clashes

/-- How two files of a run can come to share their name. -/
inductive Generation.Clashes (generation : Generation) : Prop
  /-- A type is named like the event calls of another. -/
  | events {unit eventUnit : GeneratedFile} {owner : String}
      (bound : unit ∈ generation.units) (exposed : eventUnit ∈ generation.eventUnits)
      (ofOwner : eventUnit.typeName = some owner)
      (named : unit.typeName = some (owner ++ "::events"))
  /-- A type is named like a namespace that has files. -/
  | scope {unit index : GeneratedFile} {name : String} (bound : unit ∈ generation.units)
      (listed : index ∈ generation.indexes) (ofScope : index.scope = some name)
      (named : unit.typeName = some name)
  /-- A type is named like the root, where there are files. -/
  | root {unit index : GeneratedFile} (bound : unit ∈ generation.units)
      (listed : index ∈ generation.indexes) (ofRoot : index.scope = none)
      (named : unit.typeName = some "__root")
  /-- A namespace that has files is named like the event calls of a type. -/
  | eventScope {eventUnit index : GeneratedFile} {owner : String}
      (exposed : eventUnit ∈ generation.eventUnits) (listed : index ∈ generation.indexes)
      (ofOwner : eventUnit.typeName = some owner)
      (ofScope : index.scope = some (owner ++ "::events"))
  /-- A namespace that has files is named like the root, where there are
  files. -/
  | rootScope {index index' : GeneratedFile} (listed : index ∈ generation.indexes)
      (listed' : index' ∈ generation.indexes) (ofScope : index.scope = some "__root")
      (ofRoot : index'.scope = none)

variable {schema : Schema} {options : Options} {generation : Generation}

/-- Files with distinct types have distinct names, if the names of their
types can be read off them. -/
theorem nodup_fileNames_of_typeNames {files : List GeneratedFile} {stem : String → String}
    (distinct : (files.map (·.typeName)).Nodup) (injective : Function.Injective stem)
    (named : ∀ file ∈ files, ∃ name, PlainName (stem name) ∧ file.typeName = some name
      ∧ file.fileName = unitFileName (stem name)) : (files.map (·.fileName)).Nodup := by
  refine List.Nodup.map_on ?_ (.of_map _ distinct)
  intro file inside other inside' same
  obtain ⟨name, plain, ofType, ofName⟩ := named file inside
  obtain ⟨name', plain', ofType', ofName'⟩ := named other inside'
  have stems := unitFileName_injective plain plain' (ofName.symm.trans (same.trans ofName'))
  refine List.inj_on_of_nodup_map distinct inside inside' ?_
  rw [ofType, ofType', injective stems]

/-- No type is named like the root by its event calls. -/
theorem root_ne_events (owner : String) : owner ++ "::events" ≠ "__root" := by
  intro same
  have length := congrArg String.length same
  have long : "::events".length = 8 := by decide
  have short : "__root".length = 6 := by decide
  rw [String.length_append] at length
  omega

section Named

variable (plain : schema.HasPlainNames) (run : generate schema options = .ok generation)
include plain run

/-- A file with binding code is named after its type. -/
theorem named_of_unit {file : GeneratedFile} (inside : file ∈ generation.units) :
    ∃ name, PlainName name ∧ file.typeName = some name ∧ file.fileName = unitFileName name := by
  obtain ⟨decl, declared, isOf⟩ := decl_of_unit run inside
  obtain ⟨plainName, plainScope⟩ := plain decl declared
  exact ⟨decl.fullName, plain_fullName plainName plainScope, isOf.typeName, isOf.fileName⟩

/-- A file with event calls is named after `events` in its type. -/
theorem named_of_eventUnit {file : GeneratedFile} (inside : file ∈ generation.eventUnits) :
    ∃ owner, PlainName (owner ++ "::events") ∧ file.typeName = some owner
      ∧ file.fileName = unitFileName (owner ++ "::events") := by
  obtain ⟨decl, declared, isOf⟩ := decl_of_eventUnit run inside
  obtain ⟨plainName, plainScope⟩ := plain decl declared
  have plainOwner := plain_fullName plainName plainScope
  refine ⟨decl.fullName, plainOwner.append (by decide), isOf.typeName, ?_⟩
  rw [isOf.fileName, eventUnitFileName_eq plainOwner]

/-- An index is named after its namespace, or after the root. -/
theorem named_of_index {index : GeneratedFile} (inside : index ∈ generation.indexes) :
    PlainName (index.scope.getD "__root")
      ∧ index.fileName = unitFileName (index.scope.getD "__root") := by
  obtain ⟨-, -, isScope⟩ := scopes_of_generate run
  refine ⟨?_, (includes_of_generate run inside).1.trans (indexFileName_eq _)⟩
  obtain ⟨file, among⟩ :=
    List.exists_mem_of_ne_nil _ ((isScope _).1 (List.mem_map_of_mem inside))
  obtain ⟨listed, placed⟩ := mem_filesOf.1 among
  have declared : ∃ decl ∈ schema.types, file.scope = decl.scope.filter (· != "") := by
    rcases List.mem_append.1 listed with unit | eventUnit
    · obtain ⟨decl, declared, isOf⟩ := decl_of_unit run unit
      exact ⟨decl, declared, isOf.scope⟩
    · obtain ⟨decl, declared, isOf⟩ := decl_of_eventUnit run eventUnit
      exact ⟨decl, declared, isOf.scope⟩
  obtain ⟨decl, declared, ofDecl⟩ := declared
  rw [← placed, ofDecl]
  cases scoped' : decl.scope.filter (· != "") with
  | none => decide
  | some scope =>
    exact (plain decl declared).2 scope (Option.mem_def.2 (Option.filter_eq_some_iff.1 scoped').1)

theorem fileName_of_unit {unit : GeneratedFile} {name : String}
    (bound : unit ∈ generation.units) (ofType : unit.typeName = some name) :
    unit.fileName = unitFileName name := by
  obtain ⟨_, -, ofType', named⟩ := named_of_unit plain run bound
  rw [named, Option.some.inj (ofType'.symm.trans ofType)]

theorem fileName_of_eventUnit {eventUnit : GeneratedFile} {owner : String}
    (exposed : eventUnit ∈ generation.eventUnits) (ofOwner : eventUnit.typeName = some owner) :
    eventUnit.fileName = unitFileName (owner ++ "::events") := by
  obtain ⟨_, -, ofOwner', named⟩ := named_of_eventUnit plain run exposed
  rw [named, Option.some.inj (ofOwner'.symm.trans ofOwner)]

theorem clashes_of_unit_of_eventUnit {unit eventUnit : GeneratedFile}
    (bound : unit ∈ generation.units) (exposed : eventUnit ∈ generation.eventUnits)
    (same : unit.fileName = eventUnit.fileName) : generation.Clashes := by
  obtain ⟨name, plainName, ofType, named⟩ := named_of_unit plain run bound
  obtain ⟨owner, plainCalls, ofOwner, namedCalls⟩ := named_of_eventUnit plain run exposed
  have stems := unitFileName_injective plainName plainCalls
    (named.symm.trans (same.trans namedCalls))
  exact .events bound exposed ofOwner (stems ▸ ofType)

theorem clashes_of_unit_of_index {unit index : GeneratedFile}
    (bound : unit ∈ generation.units) (listed : index ∈ generation.indexes)
    (same : unit.fileName = index.fileName) : generation.Clashes := by
  obtain ⟨name, plainName, ofType, named⟩ := named_of_unit plain run bound
  obtain ⟨plainScope, ofScope⟩ := named_of_index plain run listed
  have stems := unitFileName_injective plainName plainScope
    (named.symm.trans (same.trans ofScope))
  cases scope : index.scope with
  | none =>
    rw [scope, Option.getD_none] at stems
    exact .root bound listed scope (stems ▸ ofType)
  | some space =>
    rw [scope, Option.getD_some] at stems
    exact .scope bound listed scope (stems ▸ ofType)

theorem clashes_of_eventUnit_of_index {eventUnit index : GeneratedFile}
    (exposed : eventUnit ∈ generation.eventUnits) (listed : index ∈ generation.indexes)
    (same : eventUnit.fileName = index.fileName) : generation.Clashes := by
  obtain ⟨owner, plainCalls, ofOwner, named⟩ := named_of_eventUnit plain run exposed
  obtain ⟨plainScope, ofScope⟩ := named_of_index plain run listed
  have stems := unitFileName_injective plainCalls plainScope
    (named.symm.trans (same.trans ofScope))
  cases scope : index.scope with
  | none =>
    rw [scope, Option.getD_none] at stems
    exact absurd stems (root_ne_events owner)
  | some space =>
    rw [scope, Option.getD_some] at stems
    exact .eventScope exposed listed ofOwner (stems ▸ scope)

/-- Indexes of one name are those of one namespace, if none is called like
the root. -/
theorem scope_eq_of_indexes {index index' : GeneratedFile} (listed : index ∈ generation.indexes)
    (listed' : index' ∈ generation.indexes) (apart : ¬ generation.Clashes)
    (same : index.fileName = index'.fileName) : index.scope = index'.scope := by
  obtain ⟨plainScope, ofScope⟩ := named_of_index plain run listed
  obtain ⟨plainScope', ofScope'⟩ := named_of_index plain run listed'
  have stems := unitFileName_injective plainScope plainScope'
    (ofScope.symm.trans (same.trans ofScope'))
  cases scope : index.scope with
  | none =>
    cases scope' : index'.scope with
    | none => rfl
    | some space' =>
      rw [scope, scope', Option.getD_none, Option.getD_some] at stems
      exact absurd (.rootScope listed' listed (stems ▸ scope') scope) apart
  | some space =>
    cases scope' : index'.scope with
    | none =>
      rw [scope, scope', Option.getD_none, Option.getD_some] at stems
      exact absurd (.rootScope listed listed' (stems ▸ scope) scope') apart
    | some space' =>
      rw [scope, scope', Option.getD_some, Option.getD_some] at stems
      rw [stems]

/-- Where a run does not clash, no two of its files share their name. -/
theorem nodup_fileNames (apart : ¬ generation.Clashes) :
    (generation.files.map (·.fileName)).Nodup := by
  obtain ⟨distinct, distinctEvents⟩ := nodup_typeNames run
  obtain ⟨-, distinctScopes, -⟩ := scopes_of_generate run
  unfold Generation.files
  rw [List.map_append, List.map_append, List.nodup_append, List.nodup_append]
  refine ⟨⟨?units, ?events, ?unitsEvents⟩, ?indexes, ?typesIndexes⟩
  case units =>
    exact nodup_fileNames_of_typeNames distinct Function.injective_id
      fun file => named_of_unit plain run
  case events =>
    exact nodup_fileNames_of_typeNames distinctEvents
      (fun _ _ => (String.append_left_inj _).1) fun file => named_of_eventUnit plain run
  case unitsEvents =>
    intro _ unitNamed _ eventNamed same
    obtain ⟨unit, bound, rfl⟩ := List.mem_map.1 unitNamed
    obtain ⟨eventUnit, exposed, rfl⟩ := List.mem_map.1 eventNamed
    exact apart (clashes_of_unit_of_eventUnit plain run bound exposed same)
  case indexes =>
    refine List.Nodup.map_on (fun index listed index' listed' same => ?_) (.of_map _ distinctScopes)
    exact List.inj_on_of_nodup_map distinctScopes listed listed'
      (scope_eq_of_indexes plain run listed listed' apart same)
  case typesIndexes =>
    intro _ typeNamed _ indexNamed same
    obtain ⟨index, listed, rfl⟩ := List.mem_map.1 indexNamed
    rcases List.mem_append.1 typeNamed with unitNamed | eventNamed
    · obtain ⟨unit, bound, rfl⟩ := List.mem_map.1 unitNamed
      exact apart (clashes_of_unit_of_index plain run bound listed same)
    · obtain ⟨eventUnit, exposed, rfl⟩ := List.mem_map.1 eventNamed
      exact apart (clashes_of_eventUnit_of_index plain run exposed listed same)

/-- Where a run clashes, two of its files share their name. -/
theorem not_nodup_of_clashes (clashes : generation.Clashes) :
    ¬ (generation.files.map (·.fileName)).Nodup := by
  intro distinct
  unfold Generation.files at distinct
  rw [List.map_append, List.map_append, List.nodup_append, List.nodup_append] at distinct
  obtain ⟨⟨-, -, unitsEvents⟩, indexes, typesIndexes⟩ := distinct
  have ofIndex := fun index listed => (@named_of_index _ _ _ plain run index listed).2
  cases clashes with
  | events bound exposed ofOwner named =>
    refine unitsEvents _ (List.mem_map_of_mem bound) _ (List.mem_map_of_mem exposed) ?_
    rw [fileName_of_unit plain run bound named, fileName_of_eventUnit plain run exposed ofOwner]
  | scope bound listed ofScope named =>
    refine typesIndexes _ (List.mem_append_left _ (List.mem_map_of_mem bound)) _
      (List.mem_map_of_mem listed) ?_
    rw [fileName_of_unit plain run bound named, ofIndex _ listed, ofScope, Option.getD_some]
  | root bound listed ofRoot named =>
    refine typesIndexes _ (List.mem_append_left _ (List.mem_map_of_mem bound)) _
      (List.mem_map_of_mem listed) ?_
    rw [fileName_of_unit plain run bound named, ofIndex _ listed, ofRoot, Option.getD_none]
  | eventScope exposed listed ofOwner ofScope =>
    refine typesIndexes _ (List.mem_append_right _ (List.mem_map_of_mem exposed)) _
      (List.mem_map_of_mem listed) ?_
    rw [fileName_of_eventUnit plain run exposed ofOwner, ofIndex _ listed, ofScope,
      Option.getD_some]
  | rootScope listed listed' ofScope ofRoot =>
    have same := List.inj_on_of_nodup_map indexes listed listed' (by
      rw [ofIndex _ listed, ofIndex _ listed', ofScope, ofRoot, Option.getD_some,
        Option.getD_none])
    rw [same, ofRoot] at ofScope
    cases ofScope

end Named

-- ================================================================ on disk

/-- The names of generated files are simple. -/
theorem simple_of_generate (plain : schema.HasPlainNames)
    (run : generate schema options = .ok generation) {file : GeneratedFile}
    (inside : file ∈ generation.files) : FileTree.SimpleName file.fileName := by
  rcases List.mem_append.1 inside with typed | index
  · rcases List.mem_append.1 typed with unit | eventUnit
    · obtain ⟨name, plainName, -, named⟩ := named_of_unit plain run unit
      exact named ▸ simpleName_unitFileName plainName
    · obtain ⟨owner, plainCalls, -, named⟩ := named_of_eventUnit plain run eventUnit
      exact named ▸ simpleName_unitFileName plainCalls
  · obtain ⟨plainScope, named⟩ := named_of_index plain run index
    exact named ▸ simpleName_unitFileName plainScope

/-- A directory into which a run has been written holds of each name the
file that stands last among those of the run. -/
theorem holds_of_generate (plain : schema.HasPlainNames)
    (run : generate schema options = .ok generation) {out : String} {disk disk' : FileTree}
    (written : (writeGeneration FileTree.access generation out).run disk = (.ok (), disk'))
    {before after : List GeneratedFile} {file : GeneratedFile}
    (split : generation.files = before ++ file :: after)
    (last : ∀ later ∈ after, later.fileName ≠ file.fileName) :
    disk'.Holds out file.fileName file.code := by
  rw [FileTree.run_writeGeneration] at written
  cases made : disk.makeDirectory out with
  | error fault =>
    rw [made] at written
    cases written
  | ok tree =>
    rw [made] at written
    exact FileTree.holds_of_writeAll (fun file => simple_of_generate plain run) written split last

/-- Of a run whose files have distinct names, a directory into which it has
been written holds every file. -/
theorem holds_of_nodup (plain : schema.HasPlainNames)
    (run : generate schema options = .ok generation)
    (distinct : (generation.files.map (·.fileName)).Nodup) {out : String}
    {disk disk' : FileTree}
    (written : (writeGeneration FileTree.access generation out).run disk = (.ok (), disk'))
    {file : GeneratedFile} (inside : file ∈ generation.files) :
    disk'.Holds out file.fileName file.code := by
  obtain ⟨before, after, split⟩ := List.append_of_mem inside
  refine holds_of_generate plain run written split fun later among same => ?_
  rw [split, List.map_append, List.map_cons] at distinct
  have fresh := (List.nodup_cons.1 (List.nodup_append.1 distinct).2.1).1
  exact fresh (same ▸ List.mem_map_of_mem among)

/-- The files of a run have distinct names exactly when it does not clash,
and then a directory into which the run has been written holds every file. -/
theorem files_apart_iff (plain : schema.HasPlainNames)
    (run : generate schema options = .ok generation) :
    ((generation.files.map (·.fileName)).Nodup ↔ ¬ generation.Clashes)
      ∧ (¬ generation.Clashes → ∀ out disk disk',
          (writeGeneration FileTree.access generation out).run disk = (.ok (), disk') →
          ∀ file ∈ generation.files, disk'.Holds out file.fileName file.code) := by
  refine ⟨⟨fun distinct clashes => not_nodup_of_clashes plain run clashes distinct,
    nodup_fileNames plain run⟩, ?_⟩
  intro apart out disk disk' written file inside
  exact holds_of_nodup plain run (nodup_fileNames plain run apart) written inside

-- ============================================================ a lone type

/-- One type without a namespace. -/
def lone (name : String) : Schema where
  types := [{ boundClass name none [{ name := "_depth", type := "i32" }] with scope := none }]

/-- What begins with a leaf is written beginning with its text. -/
theorem texts_leaf (text : String) (tokens : Tokens) :
    ∃ rest, Token.texts (.leaf text :: tokens) = text ++ rest := by
  cases tokens with
  | nil => exact ⟨"", by simp [Token.texts, Token.text]⟩
  | cons next rest =>
    exact ⟨" " ++ Token.texts (next :: rest), by
      simp [Token.texts, Token.text, String.append_assoc]⟩

/-- The first word of a draft's code, if that begins with one. -/
def FileDraft.firstWord? (draft : FileDraft) : Option String :=
  match settleAll ({} : Options).usesBranchTable draft.code with
  | .leaf text :: _ => some text
  | _ => none

/-- Code that begins with `pub` is no index. -/
theorem settle_ne_of_includes {draft : FileDraft} {index : GeneratedFile} {name : String}
    (first : draft.firstWord? = some "pub") (includes : index.Includes {} [name]) :
    (draft.settle {}).code ≠ index.code := by
  intro same
  obtain ⟨literals, read, code⟩ := includes
  obtain ⟨literal, rfl, -⟩ := List.map_eq_singleton_iff.1 read
  unfold FileDraft.firstWord? at first
  split at first
  · next text tokens settled =>
    cases first
    obtain ⟨rest, texts⟩ := texts_leaf "pub" tokens
    unfold FileDraft.settle at same
    rw [code, settled, texts, includeTexts_cons, String.append_left_inj,
      String.append_right_inj] at same
    have chars := congrArg String.toList same
    simp [String.toList_append] at chars
  · cases first

/-- The files of a lone type are its binding code, which is no index, and
the index of the root. -/
theorem generate_lone {name : String} (written : WrittenInOrder (lone name))
    (emitted : (emitTypes {} (enumsAsWritten (lone name)) (typesAsWritten (lone name))).map
        (fun outcomes => (outcomes.filterMap Outcome.file?).map fun file =>
          (file.fileName, file.typeName, file.scope, file.firstWord?))
      = .ok [(unitFileName name, some name, none, some "pub")])
    (silent : eventTypesAsWritten (lone name) = []) :
    ∃ generation unit index, generate (lone name) {} = .ok generation
      ∧ generation.files = [unit, index] ∧ unit.fileName = unitFileName name
      ∧ index.fileName = "__root.g.rs" ∧ unit.code ≠ index.code := by
  obtain ⟨outcomes, typed, files⟩ := except_map_eq_ok.1 emitted
  obtain ⟨drafting, drafted, types, events⟩ :=
    @draft_asWritten (lone name) {} written outcomes [] typed (by rw [silent]; rfl)
  obtain ⟨draft, units, facts⟩ := List.map_eq_singleton_iff.1 files
  simp only [Prod.mk.injEq] at facts
  obtain ⟨named, ofType, ofRoot, first⟩ := facts
  have unitDrafts : drafting.units = [draft] := by
    unfold Drafting.units
    rw [types, units]
  have eventDrafts : drafting.eventUnits = [] := by
    unfold Drafting.eventUnits
    rw [events]
    rfl
  have indexDrafts : drafting.indexes = [indexDraft [draft] none] := by
    unfold Drafting.indexes indexDrafts
    rw [unitDrafts, eventDrafts, List.append_nil, List.map_singleton, ofRoot]
    show List.map _ (List.mergeSort [none] scopeOrder) = _
    rw [List.mergeSort_singleton]
    rfl
  refine ⟨drafting.settle {}, draft.settle {}, (indexDraft [draft] none).settle {},
    generate_of_draft drafted, ?_, named, ?_, ?_⟩
  · show drafting.units.map _ ++ drafting.eventUnits.map _ ++ drafting.indexes.map _ = _
    rw [unitDrafts, eventDrafts, indexDrafts]
    rfl
  · show indexFileName none = _
    decide
  · have includes := @includes_indexDraft {} [draft] none
    rw [List.filter_cons_of_pos (by simp [ofRoot]), List.filter_nil, List.map_singleton]
      at includes
    exact settle_ne_of_includes first includes

/-- Two files are written into an empty disk. -/
theorem write_two {unit index : GeneratedFile} (files : generation.files = [unit, index])
    {tree disk' : FileTree}
    (first : FileTree.write { directories := [["out"]] } "out" unit.fileName unit.code = .ok tree)
    (second : tree.write "out" index.fileName index.code = .ok disk') :
    (writeGeneration FileTree.access generation "out").run {} = (.ok (), disk') := by
  have made : FileTree.makeDirectory {} "out" = .ok { directories := [["out"]] } := rfl
  rw [FileTree.run_writeGeneration, made, files]
  dsimp only
  rw [FileTree.run_writeAll_cons, first]
  dsimp only
  rw [FileTree.run_writeAll_cons, second]
  rfl

/-- A buoy is written under its own name, beside the index of the root. -/
theorem buoy_apart :
    ∃ generation disk', generate (lone "Buoy") {} = .ok generation
      ∧ generation.files.map (·.fileName) = ["Buoy.g.rs", "__root.g.rs"]
      ∧ ¬ generation.Clashes
      ∧ (writeGeneration FileTree.access generation "out").run {} = (.ok (), disk')
      ∧ ∀ file ∈ generation.files, disk'.Holds "out" file.fileName file.code := by
  obtain ⟨generation, unit, index, run, files, named, indexNamed, -⟩ :=
    @generate_lone "Buoy" (by decide +kernel) (by decide +kernel) (by decide +kernel)
  have unitNamed : unit.fileName = "Buoy.g.rs" := named.trans (by decide)
  have names : generation.files.map (·.fileName) = ["Buoy.g.rs", "__root.g.rs"] := by
    rw [files, List.map_cons, List.map_singleton, unitNamed, indexNamed]
  obtain ⟨distinct_iff, held⟩ := @files_apart_iff (lone "Buoy") {} _ (by decide) run
  have apart : ¬ generation.Clashes := distinct_iff.1 (names ▸ by decide)
  have first : FileTree.write { directories := [["out"]] } "out" unit.fileName unit.code
      = .ok { files := [(["out", "Buoy.g.rs"], unit.code.toUTF8)], directories := [["out"]] } := by
    rw [unitNamed]
    rfl
  have second : FileTree.write
        { files := [(["out", "Buoy.g.rs"], unit.code.toUTF8)], directories := [["out"]] }
        "out" index.fileName index.code
      = .ok {
          files :=
            [(["out", "Buoy.g.rs"], unit.code.toUTF8),
             (["out", "__root.g.rs"], index.code.toUTF8)]
          directories := [["out"]] } := by
    rw [indexNamed]
    rfl
  have written := write_two files first second
  exact ⟨generation, _, run, names, apart, written, held apart "out" {} _ written⟩

/-- A type with the root's name is written over by the index of the root:
both files have one name, and after the run the code of the type is not to
be found under it. -/
theorem namesake_of_root_overwritten :
    ∃ generation unit index disk', generate (lone "__root") {} = .ok generation
      ∧ generation.files = [unit, index] ∧ unit.fileName = index.fileName
      ∧ ¬ (generation.files.map (·.fileName)).Nodup
      ∧ (writeGeneration FileTree.access generation "out").run {} = (.ok (), disk')
      ∧ ¬ disk'.Holds "out" unit.fileName unit.code := by
  obtain ⟨generation, unit, index, run, files, named, indexNamed, apart⟩ :=
    @generate_lone "__root" (by decide +kernel) (by decide +kernel) (by decide +kernel)
  have unitNamed : unit.fileName = "__root.g.rs" := named.trans (by decide)
  have same : unit.fileName = index.fileName := unitNamed.trans indexNamed.symm
  have first : FileTree.write { directories := [["out"]] } "out" unit.fileName unit.code
      = .ok
          { files := [(["out", "__root.g.rs"], unit.code.toUTF8)]
            directories := [["out"]] } := by
    rw [unitNamed]
    rfl
  have second : FileTree.write
        { files := [(["out", "__root.g.rs"], unit.code.toUTF8)], directories := [["out"]] }
        "out" index.fileName index.code
      = .ok
          { files := [(["out", "__root.g.rs"], index.code.toUTF8)]
            directories := [["out"]] } := by
    rw [indexNamed]
    rfl
  have written := write_two files first second
  refine ⟨generation, unit, index, _, run, files, same, ?_, written, ?_⟩
  · rw [files, List.map_cons, List.map_singleton, same]
    simp
  · rintro ⟨place, walked, content⟩
    have split : generation.files = [unit] ++ index :: [] := files
    have held := holds_of_generate (by decide) run written split (by simp)
    obtain ⟨place', walked', content'⟩ := held
    rw [same, walked'] at walked
    cases walked
    rw [content'] at content
    exact apart (String.toByteArray_inj.1 (Option.some.inj content)).symm

end DataBinding
