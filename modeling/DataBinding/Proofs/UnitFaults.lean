/-
What the code of a file may be at fault for. What users write reaches the
code in four ways. Paths, types and statements are read as code. Declared
names are checked, but letters and digits mean more to that check than they
mean in code (`Overlooked`). And the locals that keep values over a change
are put together from property names that nothing checks.

# Descriptors that do not hang together

Besides, emission has faults ready for descriptors that no analysis should
make: an enum category without an enum, an accessor without a field or
without a category, a follow-up that leads nowhere, an argument of a kind
that is not supported. They are listed like the others, each with the part of
the descriptor that it is about, so that they can be excluded by looking at
descriptors alone.

The lists follow the emission: what a part may be at fault for is what its
steps may be at fault for (`TypeFault`, `EventFault`).
-/
import DataBinding.Emission.Unit
import DataBinding.Proofs.Emission

namespace DataBinding.Emission

open Code

-- ================================================================= words

/-- A name that the check of names lets pass, although it is no word of
code. -/
def Overlooked (text : String) : Prop :=
  looksLikeName text.toList = true ∧ text ∉ reservedWords ∧ Text.isName text.toList = false

/-- What a declared name is at fault for: it is refused, or overlooked. -/
inductive NameFault (text : String) : EmitFault → Prop
  | refused : NameFault text (.invalidName text)
  | overlooked (overlooked : Overlooked text) : NameFault text (.noWord text)

theorem word_faults (text : String) :
    FailsOnly (fun fault => fault = .noWord text ∧ Text.isName text.toList = false)
      (word text) := by
  unfold word
  split
  · exact .ok _
  · next noName => exact .error ⟨rfl, Bool.not_eq_true _ ▸ noName⟩

theorem name_faults (text : String) : FailsOnly (NameFault text) (name text) := by
  unfold name
  split
  · exact .error .refused
  · next passed =>
    rw [Bool.not_eq_true, Bool.or_eq_false_iff, Bool.not_eq_false'] at passed
    split
    · exact .ok _
    · refine (word_faults text).mono ?_
      rintro _ ⟨rfl, noName⟩
      refine .overlooked ⟨passed.1, fun reserved => ?_, noName⟩
      exact absurd (List.contains_iff_mem.2 reserved) (Bool.not_eq_true _ ▸ passed.2)

-- ============================================================== readings

/-- A path or a statement that cannot be read as code. -/
inductive ReadingFault : EmitFault → Prop
  | path {text : String} (unread : readPathText text = none) : ReadingFault (.invalidPath text)
  | statement {text : String} (unread : readStatementText text = none) :
      ReadingFault (.invalidInjection text)

theorem ReadingFault.alone {fault : EmitFault} (faulty : ReadingFault fault) :
    fault.endsRun = false := by
  cases faulty <;> rfl

theorem readPath_faults (text : String) : FailsOnly ReadingFault (readPath text) := by
  unfold readPath
  split
  · exact .ok _
  · next unread => exact .error (.path unread)

theorem readStatements_faults (texts : List String) :
    FailsOnly ReadingFault (readStatements texts) := by
  unfold readStatements
  refine .bind (.mapM fun text _ => ?_) fun statements => .ok _
  split
  · exact .ok _
  · next unread => exact .error (.statement unread)

theorem site_faults (paths : CodePaths) (fullName : String) :
    FailsOnly ReadingFault (Site.ofType paths fullName) := by
  unfold Site.ofType
  exact .bind (readPath_faults _) fun _ => .bind (readPath_faults _) fun _ => .ok _

/-- A type that is written, and that cannot be read as code. -/
structure WrittenFault (written : String) (fault : EmitFault) : Prop where
  unread : readTypeText written = none
  about : fault = .invalidType written

theorem WrittenFault.alone {written : String} {fault : EmitFault}
    (faulty : WrittenFault written fault) : fault.endsRun = false := by
  rw [faulty.about]
  rfl

theorem readType_faults (written : String) :
    FailsOnly (WrittenFault written) (readType written) := by
  unfold readType
  split
  · exact .ok _
  · next unread => exact .error ⟨unread, rfl⟩

-- ================================================================ values

/-- What the type of an enum is at fault for: its path cannot be read, or
there is no enum. -/
inductive EnumFault (declaredType : String) (enumName : Option String) : EmitFault → Prop
  | path {fault : EmitFault} (unread : ReadingFault fault) : EnumFault declaredType enumName fault
  | noEnum (missing : enumName = none) :
      EnumFault declaredType enumName (.invalidType declaredType)

theorem EnumFault.alone {declaredType : String} {enumName : Option String} {fault : EmitFault}
    (faulty : EnumFault declaredType enumName fault) : fault.endsRun = false := by
  cases faulty with
  | path unread => exact unread.alone
  | noEnum => rfl

theorem enumType_faults (site : Site) (declaredType : String) (enumName : Option String) :
    FailsOnly (EnumFault declaredType enumName) (enumType site declaredType enumName) := by
  cases enumName with
  | none => exact .error (.noEnum rfl)
  | some enum => exact (readPath_faults _).mono fun _ => .path

/-- What the type that stores a value is at fault for. Without a category the
written type is taken. -/
inductive StorageFault (category : Category) (declaredType : String) (enumName : Option String) :
    EmitFault → Prop
  | enum {fault : EmitFault} (isEnum : category.isEnum = true)
      (faulty : EnumFault declaredType enumName fault) :
      StorageFault category declaredType enumName fault
  | written {fault : EmitFault} (unsupported : category = .unsupported)
      (faulty : WrittenFault declaredType fault) :
      StorageFault category declaredType enumName fault

theorem StorageFault.alone {category : Category} {declaredType : String}
    {enumName : Option String} {fault : EmitFault}
    (faulty : StorageFault category declaredType enumName fault) : fault.endsRun = false := by
  cases faulty with
  | enum _ faulty => exact faulty.alone
  | written _ faulty => exact faulty.alone

theorem storageType_faults (site : Site) (category : Category) (declaredType : String)
    (enumName : Option String) :
    FailsOnly (StorageFault category declaredType enumName)
      (storageType site category declaredType enumName) := by
  have enum : FailsOnly (EnumFault declaredType enumName) (enumType site declaredType enumName) :=
    enumType_faults site declaredType enumName
  cases category with
  | enum | flagsEnum => exact enum.mono fun _ => .enum rfl
  | listEnum => exact (enum.mono fun _ => .enum rfl).map _
  | unsupported => exact (readType_faults declaredType).mono fun _ => .written rfl
  | _ => exact .ok _

/-- What the getter of a property is at fault for. A value of no category has
no shape to be handed out in. -/
inductive GetterFault (property : Property) : EmitFault → Prop
  | stored {fault : EmitFault}
      (faulty : StorageFault property.category property.declaredType property.enumName fault) :
      GetterFault property fault
  | shapeless (unsupported : property.category = .unsupported) :
      GetterFault property (.invalidType property.declaredType)

theorem GetterFault.alone {property : Property} {fault : EmitFault}
    (faulty : GetterFault property fault) : fault.endsRun = false := by
  cases faulty with
  | stored faulty => exact faulty.alone
  | shapeless => rfl

/-- An element of a list is stored as its category says, and so is at fault
for what the list is. -/
theorem StorageFault.of_element {category : Category} {declaredType : String}
    {enumName : Option String} {fault : EmitFault} (isList : category.isList = true)
    (faulty : StorageFault (elementCategory category) declaredType enumName fault) :
    StorageFault category declaredType enumName fault := by
  cases faulty with
  | enum isEnum faulty => exact .enum (by cases category <;> first | rfl | cases isEnum) faulty
  | written unsupported _ => cases category <;> simp_all [elementCategory, Category.isList]

/-- A category with no shape to be handed out in is none. -/
theorem unsupported_of_shapeless {category : Category} (noCopy : ¬ category.isCopy = true)
    (noString : ¬ (category == .string) = true) (noSprite : ¬ (category == .sprite) = true)
    (noList : ¬ category.isList = true) : category = .unsupported := by
  cases category <;> simp_all [Category.isCopy, Category.isList]

theorem getterType_faults (site : Site) (property : Property) :
    FailsOnly (GetterFault property) (getterType site property) := by
  unfold getterType Site.storageOf
  refine .bind ((storageType_faults site _ _ _).mono fun _ => .stored) fun stored => ?_
  split
  · exact .ok _
  · split
    · exact .ok _
    · split
      · exact .ok _
      · split
        · next isList =>
          refine .bind ((storageType_faults site _ _ _).mono fun fault faulty => ?_) fun _ => .ok _
          exact .stored (faulty.of_element isList)
        · next noCopy noString noSprite noList =>
          exact .error (.shapeless (unsupported_of_shapeless noCopy noString noSprite noList))

-- ========================================================== a type's words

/-- The names that the accessors of a property write. -/
def writtenNames (property : Property) : List String :=
  property.fieldName?.toList ++ [property.getterName, property.setterName]

/-- The words over which the emission of a type may end a run, when the
type brings the conversions of some enums along. -/
inductive EndsRun (type : TypeDescriptor) (enums : List EnumDescriptor) : String → Prop
  | simpleName (overlooked : Overlooked type.simpleName) : EndsRun type enums type.simpleName
  | field {slot : FieldSlot} (stored : slot ∈ type.slots) (overlooked : Overlooked slot.name) :
      EndsRun type enums slot.name
  | accessor {property : Property} {text : String} (listed : property ∈ type.accessors)
      (written : text ∈ writtenNames property) (overlooked : Overlooked text) :
      EndsRun type enums text
  | notified {property entry : Property} {target : String} (listed : property ∈ type.accessors)
      (notifies : target ∈ property.alsoNotify) (found : type.merged? target = some entry)
      (overlooked : Overlooked entry.getterName) : EndsRun type enums entry.getterName
  | kept {property entry : Property} {target : String} (listed : property ∈ type.accessors)
      (notifies : target ∈ property.alsoNotify) (found : type.merged? target = some entry)
      (raises : type.raisesEvents = true)
      (noWord : Text.isName ("prev_" ++ Text.snakeCase target).toList = false) :
      EndsRun type enums ("prev_" ++ Text.snakeCase target)
  | variant {enum : EnumDescriptor} {value : EnumValue} (brought : enum ∈ enums)
      (listed : value ∈ enum.values) (overlooked : Overlooked value.name) :
      EndsRun type enums value.name

/-- What the code of a type may be at fault for, when the type brings the
conversions of some enums along. -/
inductive TypeFault (type : TypeDescriptor) (enums : List EnumDescriptor) : EmitFault → Prop
  | reading {fault : EmitFault} (faulty : ReadingFault fault) : TypeFault type enums fault
  | name {text : String} : TypeFault type enums (.invalidName text)
  | word {text : String} (ends : EndsRun type enums text) : TypeFault type enums (.noWord text)
  /-- The base is taken as it is written. -/
  | base {written : String} {fault : EmitFault} (derives : type.base = some written)
      (foreign : type.chain.head? ≠ some written) (faulty : WrittenFault written fault) :
      TypeFault type enums fault
  | slot {slot : FieldSlot} {fault : EmitFault} (stored : slot ∈ type.slots)
      (faulty : StorageFault slot.category slot.declaredType slot.enumName fault) :
      TypeFault type enums fault
  | accessor {property : Property} {fault : EmitFault} (listed : property ∈ type.accessors)
      (faulty : GetterFault property fault) : TypeFault type enums fault
  /-- An accessor has no field to read and write. -/
  | noField {property : Property} (listed : property ∈ type.accessors)
      (missing : property.fieldName? = none) : TypeFault type enums (.invalidName property.name)
  /-- What is notified along belongs to none of the embedded types. -/
  | astray {property entry : Property} {target : String} (listed : property ∈ type.accessors)
      (notifies : target ∈ property.alsoNotify) (found : type.merged? target = some entry)
      (lost : type.depthOf? entry.owner = none) :
      TypeFault type enums (.invalidPath entry.owner)

variable {type : TypeDescriptor} {enums : List EnumDescriptor} {property : Property}

theorem path_typeFaults (text : String) : FailsOnly (TypeFault type enums) (readPath text) :=
  (readPath_faults text).mono fun _ => .reading

theorem statements_typeFaults (texts : List String) :
    FailsOnly (TypeFault type enums) (readStatements texts) :=
  (readStatements_faults texts).mono fun _ => .reading

theorem name_typeFaults {text : String} (covered : Overlooked text → EndsRun type enums text) :
    FailsOnly (TypeFault type enums) (name text) := by
  refine (name_faults text).mono fun fault faulty => ?_
  cases faulty with
  | refused => exact .name
  | overlooked overlooked => exact .word (covered overlooked)

/-- A name that the accessors of a listed property write. -/
theorem written_typeFaults (listed : property ∈ type.accessors) {text : String}
    (written : text ∈ writtenNames property) : FailsOnly (TypeFault type enums) (name text) :=
  name_typeFaults fun overlooked => .accessor listed written overlooked

theorem getterName_typeFaults (listed : property ∈ type.accessors) :
    FailsOnly (TypeFault type enums) (name property.getterName) :=
  written_typeFaults listed (List.mem_append_right _ List.mem_cons_self)

theorem setterName_typeFaults (listed : property ∈ type.accessors) :
    FailsOnly (TypeFault type enums) (name property.setterName) :=
  written_typeFaults listed
    (List.mem_append_right _ (List.mem_cons_of_mem _ List.mem_cons_self))

-- =============================================================== storage

theorem storage_faults (site : Site) : FailsOnly (TypeFault type enums) (storage site type) := by
  have base : FailsOnly (TypeFault type enums) (baseType site type) := by
    unfold baseType
    split
    · exact .ok _
    · next written derives =>
      split
      · exact (path_typeFaults _).map _
      · next foreign => exact ((readType_faults _).mono fun _ => .base derives foreign).map _
  have field : ∀ slot ∈ type.slots, FailsOnly (TypeFault type enums) (storedField site slot) := by
    intro slot stored
    unfold storedField
    refine .bind (name_typeFaults fun overlooked => .field stored overlooked) fun _ => ?_
    exact .bind ((storageType_faults site _ _ _).mono fun _ => .slot stored) fun _ => .ok _
  unfold storage
  refine .bind (name_typeFaults EndsRun.simpleName) fun _ => ?_
  refine .bind (.mapM fun path _ => path_typeFaults path) fun _ => ?_
  refine .bind base fun _ => ?_
  exact .bind (.mapM field) fun _ => .ok _

-- ============================================================= accessors

theorem fieldToken_faults (listed : property ∈ type.accessors) :
    FailsOnly (TypeFault type enums) (fieldToken property) := by
  unfold fieldToken
  cases behind : property.fieldName? with
  | none => exact .error (.noField listed behind)
  | some field =>
    refine written_typeFaults listed (List.mem_append_left _ ?_)
    rw [behind]
    exact List.mem_singleton_self field

theorem getter_faults (site : Site) (listed : property ∈ type.accessors) :
    FailsOnly (TypeFault type enums) (getter site property) := by
  unfold getter
  refine .bind (fieldToken_faults listed) fun _ => ?_
  refine .bind (getterName_typeFaults listed) fun _ => ?_
  refine .bind ((getterType_faults site property).mono fun _ => .accessor listed) fun _ => ?_
  exact .bind (statements_typeFaults _) fun _ => .ok _

/-- A follow-up writes the getter of what is notified, and the local that
keeps its value where changes raise an event. -/
theorem followUps_faults (site : Site) (listed : property ∈ type.accessors) :
    FailsOnly (TypeFault type enums) (followUps site type property) := by
  unfold followUps
  refine .mapM fun (target, entry) inside => ?_
  obtain ⟨target', notifies, paired⟩ := List.mem_filterMap.1 inside
  obtain ⟨entry', found, same⟩ := Option.map_eq_some_iff.1 paired
  cases same
  have read : FailsOnly (TypeFault type enums) (readProperty type entry) := by
    have getterName : FailsOnly (TypeFault type enums) (name entry.getterName) :=
      name_typeFaults fun overlooked => .notified listed notifies found overlooked
    unfold readProperty
    dsimp only
    split
    · exact .bind (.ok _) fun _ => .bind getterName fun _ => .ok _
    · next lost =>
      exact .bind (.error (.astray listed notifies found lost)) fun _ =>
        .bind getterName fun _ => .ok _
  unfold followUp
  refine .bind read fun _ => ?_
  split
  · next raises =>
    refine .bind ((word_faults _).mono ?_) fun _ => .ok _
    rintro _ ⟨rfl, noWord⟩
    exact .word (.kept listed notifies found raises noWord)
  · exact .ok _

theorem setter_faults (site : Site) (listed : property ∈ type.accessors) :
    FailsOnly (TypeFault type enums) (setter site type property) := by
  have stored : FailsOnly (TypeFault type enums) (site.storageOf property) :=
    (storageType_faults site _ _ _).mono fun _ faulty => .accessor listed (.stored faulty)
  unfold setter
  refine .bind (fieldToken_faults listed) fun _ => ?_
  refine .bind (setterName_typeFaults listed) fun _ => ?_
  refine .bind stored fun _ => ?_
  refine .bind (statements_typeFaults _) fun _ => ?_
  refine .bind (statements_typeFaults _) fun _ => ?_
  exact .bind (followUps_faults site listed) fun _ => .ok _

theorem accessors_faults (site : Site) :
    FailsOnly (TypeFault type enums) (accessors site type) := by
  unfold accessors
  refine .bind (.mapM fun property listed => ?_) fun _ => .ok _
  refine .bind (getter_faults site listed) fun _ => ?_
  exact .bind (setter_faults site listed) fun _ => .ok _

-- =========================================================== conversions

theorem registration_faults (site : Site) (enumNames : List String) :
    FailsOnly (TypeFault type enums) (registration site enumNames) := by
  unfold registration
  split
  · exact .ok _
  · exact .bind (.mapM fun _ _ => path_typeFaults _) fun _ => .ok _

theorem variantToken_faults {enum : EnumDescriptor} (brought : enum ∈ enums)
    {variant : String} (listed : variant ∈ enum.values.map (·.name)) :
    FailsOnly (TypeFault type enums) (variantToken variant) := by
  obtain ⟨value, inside, rfl⟩ := List.mem_map.1 listed
  exact .bind (name_typeFaults fun overlooked => .variant brought inside overlooked)
    fun _ => .ok _

/-- Only arms of the first kind give arms of the second. -/
theorem mem_firstPerInt {taken : List Int32} {arms : List (String × Int32)} {int : Int32}
    {variant : String} (inside : (int, variant) ∈ firstPerInt taken arms) :
    (variant, int) ∈ arms := by
  induction arms generalizing taken with
  | nil => cases inside
  | cons arm rest ih =>
    obtain ⟨variant', int'⟩ := arm
    unfold firstPerInt at inside
    split at inside
    · exact List.mem_cons_of_mem _ (ih inside)
    · rcases List.mem_cons.1 inside with same | later
      · cases same
        exact List.mem_cons_self
      · exact List.mem_cons_of_mem _ (ih later)

theorem mem_names_of_arm {enum : EnumDescriptor} {int : Int32} {variant : String}
    (inside : (variant, int) ∈ toIntArms enum) : variant ∈ enum.values.map (·.name) := by
  obtain ⟨value, listed, same⟩ := List.mem_map.1 inside
  cases same
  exact List.mem_map_of_mem listed

theorem conversion_faults (site : Site) {enum : EnumDescriptor} (brought : enum ∈ enums) :
    FailsOnly (TypeFault type enums) (conversion site enum) := by
  have toInt : FailsOnly (TypeFault type enums) (toIntMethod enum) := by
    unfold toIntMethod
    refine .bind (.mapM fun (variant, int) inside => ?_) fun _ => .ok _
    exact .bind (variantToken_faults brought (mem_names_of_arm inside)) fun _ => .ok _
  have fromInt : FailsOnly (TypeFault type enums) (fromIntMethod enum) := by
    unfold fromIntMethod
    refine .bind (.mapM fun (int, variant) inside => ?_) fun _ => .ok _
    have arm := mem_names_of_arm (mem_firstPerInt inside)
    exact .bind (variantToken_faults brought arm) fun _ => .ok _
  unfold conversion
  exact .bind (path_typeFaults _) fun _ => .bind toInt fun _ => .bind fromInt fun _ => .ok _

-- ============================================================== contract

theorem assignment_faults (site : Site) (kind : DispatchKind)
    (listed : property ∈ type.accessors) :
    FailsOnly (TypeFault type enums) (assignment site kind property) := by
  unfold assignment
  refine .bind (setterName_typeFaults listed) fun _ => ?_
  split
  · exact .bind (path_typeFaults _) fun _ => .ok _
  · exact .ok _
  · exact .ok _

theorem updateMethod_faults (site : Site) (kind : DispatchKind) :
    FailsOnly (TypeFault type enums) (updateMethod site type kind) := by
  unfold updateMethod
  refine .bind (.mapM fun property dispatched => ?_) fun arms => ?_
  · have listed := List.mem_of_mem_filter dispatched
    exact .bind (assignment_faults site kind listed) fun _ => .ok _
  · split <;> exact .ok _

theorem pushMethods_faults (site : Site) :
    FailsOnly (TypeFault type enums) (pushMethods site type) := by
  unfold pushMethods
  refine .bind (.mapM fun property listed => ?_) fun sends => ?_
  · exact .bind (getterName_typeFaults listed) fun _ => .ok _
  · split <;> exact .ok _

theorem contract_faults (site : Site) : FailsOnly (TypeFault type enums) (contract site type) := by
  unfold contract
  refine .bind (.mapM fun kind _ => updateMethod_faults site kind) fun _ => ?_
  exact .bind (pushMethods_faults site) fun _ => .ok _

-- ============================================================ bound types

/-- All that the code of a type may be at fault for. -/
theorem typeUnit_faults (paths : CodePaths) (type : TypeDescriptor) (enums : List EnumDescriptor) :
    FailsOnly (TypeFault type enums) (typeUnit paths type enums) := by
  unfold typeUnit
  refine .bind ((site_faults _ _).mono fun _ => .reading) fun site => ?_
  refine .bind (storage_faults site) fun _ => ?_
  refine .bind (registration_faults site _) fun _ => ?_
  refine .bind (accessors_faults site) fun _ => ?_
  refine .bind (.mapM fun enum brought => conversion_faults site brought) fun _ => ?_
  exact .bind (contract_faults site) fun _ => .ok _

-- =========================================================== event types

/-- What the type of an argument is at fault for. A kind that is not
supported has no type. -/
inductive ArgumentFault (arg : ArgumentDescriptor) : EmitFault → Prop
  | enum {fault : EmitFault} (isEnum : arg.kind = .enum)
      (faulty : EnumFault arg.declaredType arg.enumName fault) : ArgumentFault arg fault
  | custom {fault : EmitFault} (passed : arg.kind = .custom)
      (faulty : WrittenFault arg.declaredType fault) : ArgumentFault arg fault
  | unsupported (closed : arg.kind = .unsupported) :
      ArgumentFault arg (.invalidType arg.declaredType)

theorem ArgumentFault.alone {arg : ArgumentDescriptor} {fault : EmitFault}
    (faulty : ArgumentFault arg fault) : fault.endsRun = false := by
  cases faulty with
  | enum _ faulty => exact faulty.alone
  | custom _ faulty => exact faulty.alone
  | unsupported => rfl

theorem argumentType_faults (site : Site) (arg : ArgumentDescriptor) :
    FailsOnly (ArgumentFault arg) (argumentType site arg) := by
  unfold argumentType
  split
  case h_6 isEnum => exact (enumType_faults site _ _).mono fun _ => .enum isEnum
  case h_7 passed => exact (readType_faults _).mono fun _ => .custom passed
  case h_8 closed => exact .error (.unsupported closed)
  all_goals exact .ok _

/-- What the code of event calls may be at fault for. -/
inductive EventFault (type : EventTypeDescriptor) : EmitFault → Prop
  | reading {fault : EmitFault} (faulty : ReadingFault fault) : EventFault type fault
  | method {call : EventCallDescriptor} {fault : EmitFault} (listed : call ∈ type.calls)
      (faulty : NameFault call.methodName fault) : EventFault type fault
  | argument {call : EventCallDescriptor} {arg : ArgumentDescriptor} {fault : EmitFault}
      (listed : call ∈ type.calls) (takes : arg ∈ call.arguments)
      (faulty : ArgumentFault arg fault) : EventFault type fault

/-- All that the code of event calls may be at fault for. -/
theorem eventUnit_faults (paths : CodePaths) (type : EventTypeDescriptor) :
    FailsOnly (EventFault type) (eventUnit paths type) := by
  have unpacked : ∀ site index arg, FailsOnly (ArgumentFault arg) (unpack site index arg) := by
    intro site index arg
    unfold unpack
    refine .bind (argumentType_faults site arg) fun _ => ?_
    split <;> exact .ok _
  have arm : ∀ site, ∀ call ∈ type.calls, FailsOnly (EventFault type) (callArm site call) := by
    intro site call listed
    unfold callArm
    refine .bind ((name_faults _).mono fun _ => .method listed) fun _ => ?_
    refine .bind (.mapM fun (arg, index) inside => ?_) fun _ => .ok _
    exact (unpacked site index arg).mono fun _ =>
      .argument listed (List.fst_mem_of_mem_zipIdx inside)
  unfold eventUnit
  refine .bind ((site_faults _ _).mono fun _ => .reading) fun site => ?_
  unfold eventRegister
  refine .bind ?_ fun _ => .ok _
  unfold invokeMethod
  dsimp only
  split
  · exact .ok _
  · exact .bind (.mapM (arm site)) fun _ => .ok _

end DataBinding.Emission
