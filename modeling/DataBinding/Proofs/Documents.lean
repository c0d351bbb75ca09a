/-
Declarations are read back as they were written. A type whose values come
back from their documents, under whatever conventions these are read, is a
`LawfulDocumented` one. The law is handed upward as the documents are
nested: scalars and words have it, options and lists of lawful types have
it, a keyed record has it when its fields do, and a tagged record when the
fields under each of its tags do. Nothing here looks at the text a document
is printed as.

Two points need care. Absence is written as null, so an option is read back
only if no value of the type is null itself (`NeverNull`). And a tagged
record is set aside before its tag is known, so all that is written under a
tag has to be storable (`isStorable_record`).
-/
import DataBinding.Declaration.Document

namespace DataBinding

open Document

-- ============================================================== the laws

/-- Types whose values are read back from what is written of them, under
any conventions. -/
class LawfulDocumented (α : Type) [Documented α] : Prop where
  read_written : ∀ value : α, ofDocument? (toDocument value) = (pure value : Decoder α)

export LawfulDocumented (read_written)

/-- Types none of whose values is written as null. -/
class NeverNull (α : Type) [Documented α] : Prop where
  written_ne_null : ∀ value : α, toDocument value ≠ .null

-- =============================================================== records

/-- A record with no other keys than its fields is taken as it stands. -/
theorem fields?_record {names : List String} {entries : List (String × Document)}
    (known : ∀ entry ∈ entries, entry.1 ∈ names) :
    (Document.record entries).fields? names = pure entries := by
  unfold fields?
  refine if_pos (List.all_eq_true.2 fun entry inside => ?_)
  rw [List.contains_iff_mem.2 (known entry inside), Bool.true_or]

-- ============================================================== storable

theorem leavesOfItems_eq (items : List Document) :
    leavesOfItems items = items.flatMap leaves := by
  induction items with
  | nil => rfl
  | cons item rest ih => rw [leavesOfItems, ih, List.flatMap_cons]

theorem leavesOfEntries_eq (entries : List (String × Document)) :
    leavesOfEntries entries = entries.flatMap (·.2.leaves) := by
  induction entries with
  | nil => rfl
  | cons entry rest ih => rw [leavesOfEntries, ih, List.flatMap_cons]

theorem isStorable_list (items : List Document) :
    (Document.list items).isStorable = items.all isStorable := by
  unfold isStorable
  rw [leaves, leavesOfItems_eq, List.all_flatMap]

theorem isStorable_record (entries : List (String × Document)) :
    (Document.record entries).isStorable = entries.all (·.2.isStorable) := by
  unfold isStorable
  rw [leaves, leavesOfEntries_eq, List.all_flatMap]

/-- A tagged record is read as its tag says, from what stands beside the
tag. -/
theorem readTagged_record {α : Type} {tag word : String} {entries : List (String × Document)}
    {content : String → Document → Decoder α} {value : α}
    (storable : entries.all (·.2.isStorable) = true) (untagged : ∀ entry ∈ entries, entry.1 ≠ tag)
    (read : content word (.record entries) = pure value) :
    readTagged tag (.record ((tag, .text word) :: entries)) content = pure value := by
  have kept : ((tag, Document.text word) :: entries).filter (·.1 != tag) = entries := by
    rw [List.filter_cons_of_neg (by simp)]
    exact List.filter_eq_self.2 fun entry inside => bne_iff_ne.2 (untagged entry inside)
  have found : tagged? tag (.record ((tag, .text word) :: entries))
      = some (word, .record entries) := by
    unfold tagged?
    simp only [List.lookup_cons_self, kept]
  have whole : (Document.record ((tag, .text word) :: entries)).isStorable = true := by
    rw [isStorable_record, List.all_cons, storable]
    rfl
  unfold readTagged
  rw [whole, found]
  simp only [Bool.not_true, Bool.false_eq_true, if_false]
  show withReader _ (content word (.record entries)) = pure value
  rw [read]
  rfl

-- =============================================================== scalars

instance : LawfulDocumented Bool where
  read_written _ := rfl

instance : LawfulDocumented String where
  read_written _ := rfl

instance : NeverNull String where
  written_ne_null _ := Document.noConfusion

/-- A number of 32 bits is read back. -/
theorem int32?_toInt (value : Int32) : int32? value.toInt = some value := by
  unfold int32?
  rw [if_pos ⟨value.le_toInt, by have := value.toInt_lt; omega⟩, Int32.ofInt_toInt]

instance : LawfulDocumented Int32 where
  read_written value := by
    show (liftM (int32? value.toInt) : Decoder Int32) = pure value
    rw [int32?_toInt]
    rfl

instance {α : Type} [Documented α] [LawfulDocumented α] [NeverNull α] :
    LawfulDocumented (Option α) where
  read_written
    | none => rfl
    | some value => by
      have read := read_written value
      have present := NeverNull.written_ne_null value
      show ofDocument? (toDocument value) = (pure (some value) : Decoder (Option α))
      cases written : toDocument value with
      | null => exact absurd written present
      | _ =>
        rw [written] at read
        exact congrArg (some <$> ·) read

instance {α : Type} [Documented α] [LawfulDocumented α] : LawfulDocumented (List α) where
  read_written items := by
    show (items.map toDocument).mapM ofDocument? = (pure items : Decoder (List α))
    induction items with
    | nil => rfl
    | cons item rest ih =>
      rw [List.map_cons, List.mapM_cons, read_written, pure_bind, ih, pure_bind]

-- ================================================================= words

/-- A word with a value is read as the value. -/
theorem named?_text {α : Type} {ofWord? : String → Option α} {word : String} {value : α}
    (named : ofWord? word = some value) :
    named? ofWord? (.text word) = (pure value : Decoder α) := by
  show (liftM (ofWord? word) : Decoder α) = pure value
  rw [named]
  rfl

instance : LawfulDocumented TypeKind where
  read_written kind := named?_text (by cases kind <;> rfl)

instance : LawfulDocumented Accessibility where
  read_written accessibility := named?_text (by cases accessibility <;> rfl)

instance : NeverNull Accessibility where
  written_ne_null _ := Document.noConfusion

instance : LawfulDocumented InjectionPoint where
  read_written point := named?_text (by cases point <;> rfl)

instance : LawfulDocumented ArgModifier where
  read_written modifier := named?_text (by cases modifier <;> rfl)

-- ============================================================ attributes

theorem isStorable_texts (texts : List String) : (toDocument texts).isStorable = true := by
  show (Document.list (texts.map Document.text)).isStorable = true
  rw [isStorable_list, List.all_map]
  exact List.all_eq_true.2 fun _ _ => rfl

theorem isStorable_optional_text (text : Option String) : (toDocument text).isStorable = true := by
  cases text <;> rfl

instance : LawfulDocumented TypeAttribute where
  read_written
    | .bindable onPropertyChanged => by
      refine readTagged_record rfl (by simp) ?_
      simp [fields?_record, Document.optional, read_written]
    | .eventRegister => by
      refine readTagged_record rfl (by simp) ?_
      simp [fields?_record]

instance : LawfulDocumented FieldAttribute where
  read_written
    | .alsoNotify target => by
      refine readTagged_record rfl (by simp) ?_
      simp [fields?_record, required, read_written]
    | .autoNotify propertyName => by
      refine readTagged_record (by simp [isStorable_optional_text]) (by simp) ?_
      simp [fields?_record, Document.optional, read_written]
    | .codeInject point code => by
      refine readTagged_record rfl (by simp) ?_
      simp [fields?_record, required, List.lookup_cons, read_written]
    | .dontNotify => by
      refine readTagged_record rfl (by simp) ?_
      simp [fields?_record]
    | .propertyName name => by
      refine readTagged_record rfl (by simp) ?_
      simp [fields?_record, required, read_written]

instance : LawfulDocumented MethodAttribute where
  read_written
    | .eventCall eventName views => by
      refine readTagged_record ?_ (by simp) ?_
      · simp [isStorable_optional_text, isStorable_texts]
      · simp [fields?_record, Document.optional, List.lookup_cons, read_written]

-- =============================================================== members

instance : LawfulDocumented FieldDecl where
  read_written field := by
    unfold toDocument ofDocument? instDocumentedFieldDecl
    simp [fields?_record, required, Document.optional, List.lookup_cons, read_written]

instance : LawfulDocumented PropertyDecl where
  read_written property := by
    unfold toDocument ofDocument? instDocumentedPropertyDecl
    simp [fields?_record, required, Document.optional, List.lookup_cons, read_written]

instance : LawfulDocumented ArgDecl where
  read_written arg := by
    unfold toDocument ofDocument? instDocumentedArgDecl
    simp [fields?_record, required, Document.optional, List.lookup_cons, read_written]

instance : LawfulDocumented MethodDecl where
  read_written method := by
    unfold toDocument ofDocument? instDocumentedMethodDecl
    simp [fields?_record, required, Document.optional, List.lookup_cons, read_written]

-- ======================================================= types and enums

instance : LawfulDocumented TypeDecl where
  read_written decl := by
    unfold toDocument ofDocument? instDocumentedTypeDecl
    simp [fields?_record, required, Document.optional, List.lookup_cons, read_written]

instance : LawfulDocumented AliasDecl where
  read_written entry := by
    unfold toDocument ofDocument? instDocumentedAliasDecl
    simp [fields?_record, required, Document.optional, List.lookup_cons, read_written]

instance : LawfulDocumented EnumValueDecl where
  read_written value := by
    unfold toDocument ofDocument? instDocumentedEnumValueDecl
    simp [fields?_record, required, Document.optional, List.lookup_cons, read_written]

instance : LawfulDocumented EnumDecl where
  read_written decl := by
    unfold toDocument ofDocument? instDocumentedEnumDecl
    simp [fields?_record, required, Document.optional, List.lookup_cons, read_written]

instance : LawfulDocumented Schema where
  read_written schema := by
    unfold toDocument ofDocument? instDocumentedSchema
    simp [fields?_record, Document.optional, List.lookup_cons, read_written]

-- =============================================================== getters

section Getters

variable {entries : List (String × Document)}

/-- The fields of a property in a keyed record. -/
def propertyOfEntries (entries : List (String × Document)) : Decoder PropertyDecl := do
  return {
    name := ← required entries "name"
    type := ← required entries "ty"
    getter := ← Document.optional entries "getter" (some .«public»)
    getterFn := ← Document.optional entries "getter_fn" none }

/-- A keyed record is a property when its other entries can be passed over
and its fields can be read. -/
theorem read_record (entries : List (String × Document)) :
    (ofDocument? (.record entries) : Decoder PropertyDecl)
      = if (entries.all fun entry => ["name", "ty", "getter", "getter_fn"].contains entry.1
          || entry.2.isReadable) = true then propertyOfEntries entries else failure := by
  show ((if _ then pure entries else failure) >>= propertyOfEntries) = _
  split <;> rfl

/-- A property object without a getter key is read like the same object with
a public getter. -/
theorem read_public (silent : entries.lookup "getter" = none) :
    (ofDocument? (.record entries) : Decoder PropertyDecl)
      = ofDocument? (.record (("getter", .text "public") :: entries)) := by
  have written : (ofDocument? (.text "public") : Decoder (Option Accessibility))
      = pure (some .«public») := read_written (some Accessibility.«public»)
  have same : propertyOfEntries (("getter", .text "public") :: entries)
      = propertyOfEntries entries := by
    simp [propertyOfEntries, required, Document.optional, List.lookup_cons, silent, written]
  rw [read_record, read_record, List.all_cons, same]
  rfl

/-- A property object with a null getter is read like the same object
without one, but for the getter. -/
theorem read_null (silent : entries.lookup "getter" = none) :
    (ofDocument? (.record (("getter", .null) :: entries)) : Decoder PropertyDecl)
      = (fun property : PropertyDecl => { property with getter := none })
          <$> ofDocument? (.record entries) := by
  have written : (ofDocument? .null : Decoder (Option Accessibility)) = pure none := rfl
  have same : propertyOfEntries (("getter", .null) :: entries)
      = (fun property : PropertyDecl => { property with getter := none })
          <$> propertyOfEntries entries := by
    simp [propertyOfEntries, required, Document.optional, List.lookup_cons, silent, written]
  rw [read_record, read_record, List.all_cons, same]
  show (if (entries.all _) = true then _ else _) = _
  split <;> rfl

/-- The getter of a property is what its object says under the key, and
public where it says nothing. -/
theorem getter_of_read {getter : Option Accessibility}
    (stated : Document.optional entries "getter" (some .«public») = (pure getter : Decoder _))
    {conventions : Conventions} {property : PropertyDecl}
    (read : (ofDocument? (.record entries)).run conventions = some property) :
    property.getter = getter := by
  rw [read_record] at read
  split at read
  · unfold propertyOfEntries at read
    simp only [stated, ReaderT.run_bind, Option.bind_eq_bind, Option.bind_eq_some_iff] at read
    obtain ⟨_, -, _, -, _, same, _, -, made⟩ := read
    cases same
    cases made
    rfl
  · cases read

end Getters

-- ============================================================= read back

/-- Declarations are read back as they were written, under any conventions,
and so is whatever has been read from a document, however that was written.
In particular the getter of a hand-written property survives: no getter is
written as null and read as no getter, while an object that says nothing
about the getter is read like one that says it is public. -/
theorem declarations_read_back :
    (∀ (schema : Schema) (conventions : Conventions),
        (ofDocument? (toDocument schema)).run conventions = some schema)
      ∧ (∀ (document : Document) (schema : Schema) (conventions others : Conventions),
          (ofDocument? document).run conventions = some schema →
          (ofDocument? (toDocument schema)).run others = some schema)
      ∧ (∀ property : PropertyDecl, property.getter = none →
          ∃ entries, toDocument property = .record entries
            ∧ entries.lookup "getter" = some .null
            ∧ ∀ conventions, (ofDocument? (.record entries)).run conventions = some property)
      ∧ ∀ entries : List (String × Document), entries.lookup "getter" = none →
          (ofDocument? (.record entries) : Decoder PropertyDecl)
              = ofDocument? (.record (("getter", .text "public") :: entries))
            ∧ (ofDocument? (.record (("getter", .null) :: entries)) : Decoder PropertyDecl)
              = (fun property : PropertyDecl => { property with getter := none })
                  <$> ofDocument? (.record entries)
            ∧ ∀ (conventions : Conventions) (property : PropertyDecl),
                (ofDocument? (.record entries)).run conventions = some property →
                property.getter = some .«public» := by
  have readBack : ∀ (schema : Schema) (conventions : Conventions),
      (ofDocument? (toDocument schema)).run conventions = some schema := by
    intro schema conventions
    rw [read_written]
    rfl
  refine ⟨readBack, fun _ schema _ others _ => readBack schema others, ?_, ?_⟩
  · intro property writeOnly
    refine ⟨_, rfl, ?_, fun conventions => ?_⟩
    · rw [writeOnly]
      rfl
    · show (ofDocument? (toDocument property)).run conventions = some property
      rw [read_written]
      rfl
  · intro entries silent
    refine ⟨read_public silent, read_null silent, fun conventions property read => ?_⟩
    refine getter_of_read ?_ read
    unfold Document.optional
    rw [silent]

-- ================================================================ a vault

/-- A vault as it may be handed over: keys in any order, one that nobody
knows, and most defaults left out. Its level can only be written, and about
the getter of its owner nothing is said. -/
def vaultDocument : Document :=
  .record
    [("types", .list
      [.record
        [("color", .text "red"), ("partial", .bool true), ("name", .text "Vault"),
         ("attributes", .list [.record [("kind", .text "bindable")]]),
         ("fields", .list
           [.record
             [("ty", .text "i32"), ("name", .text "_gold"),
              ("attributes", .list
                [.record [("target", .text "Level"), ("kind", .text "also_notify")],
                 .record [("kind", .text "auto_notify")]])]]),
         ("properties", .list
           [.record [("name", .text "Level"), ("ty", .text "i32"), ("getter", .null)],
            .record [("name", .text "Owner"), ("ty", .text "String")]])]])]

def vault : Schema where
  types :=
    [{ name := "Vault"
       isPartial := true
       attributes := [.bindable false]
       fields :=
         [{ name := "_gold"
            type := "i32"
            attributes := [.alsoNotify "Level", .autoNotify none] }]
       properties :=
         [{ name := "Level", type := "i32", getter := none },
          { name := "Owner", type := "String" }] }]

/-- The vault is read, and read back after it has been written out in full;
its level stays without a getter, its owner gets a public one. -/
theorem vault_read_back :
    (ofDocument? vaultDocument).run Conventions.json = some vault
      ∧ (ofDocument? (toDocument vault)).run Conventions.toml = some vault
      ∧ (∃ entries, toDocument ({ name := "Level", type := "i32", getter := none } : PropertyDecl)
            = .record entries ∧ entries.lookup "getter" = some .null)
      ∧ ((ofDocument? (.record [("name", .text "Owner"), ("ty", .text "String")])).run
          Conventions.json).map PropertyDecl.getter = some (some .«public») := by
  have read : (ofDocument? vaultDocument).run Conventions.json = some vault := by decide +kernel
  obtain ⟨-, again, writeOnly, keyed⟩ := declarations_read_back
  obtain ⟨entries, written, absent, -⟩ :=
    writeOnly { name := "Level", type := "i32", getter := none } rfl
  obtain ⟨-, -, isPublic⟩ :=
    keyed [("name", .text "Owner"), ("ty", .text "String")] rfl
  have owner : (ofDocument? (.record [("name", .text "Owner"), ("ty", .text "String")])).run
      Conventions.json = some ({ name := "Owner", type := "String" } : PropertyDecl) := by
    decide +kernel
  refine ⟨read, again vaultDocument vault .json .toml read, ⟨entries, written, absent⟩, ?_⟩
  rw [owner, Option.map_some, isPublic .json _ owner]

end DataBinding
