/-
Which types emission calls invalid. The catalogue of faults lists steps that
fail because descriptors do not hang together: an enum category without an
enum, an accessor without a field, a value without a category, an argument of
no kind. Descriptors that fit leave none of them (`EmitsType`,
`argumentType_of_fit`). What remains are texts that are taken as they are
written and cannot be read: the type of a field without a category, a base
that the walk along classes did not resolve, and the type of an argument that
is passed through unopened.

# From the steps to a run

A run leaves a type out for the fault of its code and for nothing else
(`fault_of_omitted`), so what it says about invalid types is known from the
faults of the two sorts of code.
-/
import DataBinding.Proofs.Descriptors
import DataBinding.Proofs.EmbeddedBases
import DataBinding.Proofs.Isolation

namespace DataBinding

open Code Emission

variable {schema : Schema} {options : Options} {analysis : Analysis} {fault : EmitFault}

-- ============================================================= the steps

/-- With an enum named where one is called for, storing a value is at fault
for the path of the enum, or for a written type. -/
theorem storageFault_of_names {category : Category} {declaredType : String}
    {enumName : Option String} (names : NamesEnum schema category enumName)
    (faulty : StorageFault category declaredType enumName fault) :
    ReadingFault fault ∨ category = .unsupported ∧ WrittenFault declaredType fault := by
  cases faulty with
  | written unsupported faulty => exact Or.inr ⟨unsupported, faulty⟩
  | enum isEnum faulty =>
    cases faulty with
    | path unread => exact Or.inl unread
    | noEnum missing =>
      have present := names.present
      rw [missing, isEnum] at present
      cases present

/-- The getter of a property that fits is at fault for a path. -/
theorem getterFault_of_fit {property : Property} (fit : FitProperty schema property)
    (faulty : GetterFault property fault) : ReadingFault fault := by
  cases faulty with
  | stored faulty =>
    exact (storageFault_of_names fit.names faulty).resolve_right fun written =>
      fit.supported written.1
  | shapeless unsupported => exact absurd unsupported fit.supported

/-- An argument that fits is at fault for the path of its enum, or for the
written type of what is passed through. -/
theorem argumentFault_of_fit {arg : ArgumentDescriptor} (fit : FitArgument schema arg)
    (faulty : ArgumentFault arg fault) :
    ReadingFault fault ∨ arg.kind = .custom ∧ WrittenFault arg.declaredType fault := by
  cases faulty with
  | custom passed faulty => exact Or.inr ⟨passed, faulty⟩
  | unsupported closed => exact absurd closed fit.supported
  | enum isEnum faulty =>
    cases faulty with
    | path unread => exact Or.inl unread
    | noEnum missing =>
      have present := fit.present.2 isEnum
      rw [missing] at present
      cases present

/-- How the steps that read descriptors go for a type: each own property has
its field, and of a value only the path of its enum can be at fault, unless
the value is stored as it is written. -/
structure EmitsType (site : Site) (type : TypeDescriptor) : Prop where
  field : ∀ property ∈ type.own, ∃ field,
    property.fieldName? = some field ∧ fieldToken property = name field
  stored : ∀ property ∈ type.own, FailsOnly ReadingFault (site.storageOf property)
  handedOut : ∀ property ∈ type.own, FailsOnly ReadingFault (getterType site property)
  slots : ∀ slot ∈ type.slots,
    FailsOnly
      (fun fault => ReadingFault fault
        ∨ slot.category = .unsupported ∧ WrittenFault slot.declaredType fault)
      (storageType site slot.category slot.declaredType slot.enumName)

theorem emitsType_of_fit (site : Site) {type : TypeDescriptor} (fit : FitType schema type) :
    EmitsType site type where
  field property own := by
    obtain ⟨field, -, named⟩ := (fit.own property own).declared
    refine ⟨field.name, named, ?_⟩
    unfold fieldToken
    rw [named]
  stored property own :=
    (storageType_faults site _ _ _).mono fun _ faulty =>
      getterFault_of_fit (fit.own property own).toFitProperty (.stored faulty)
  handedOut property own :=
    (getterType_faults site property).mono fun _ =>
      getterFault_of_fit (fit.own property own).toFitProperty
  slots slot stored :=
    (storageType_faults site _ _ _).mono fun _ => storageFault_of_names (fit.slots slot stored).1

theorem argumentType_of_fit (site : Site) {arg : ArgumentDescriptor}
    (fit : FitArgument schema arg) :
    FailsOnly
      (fun fault => ReadingFault fault ∨ arg.kind = .custom ∧ WrittenFault arg.declaredType fault)
      (argumentType site arg) :=
  (argumentType_faults site arg).mono fun _ => argumentFault_of_fit fit

-- ============================================================== the code

/-- A type that the code of a bound type takes as it is written, though it
cannot be read. -/
inductive WritesUnread (schema : Schema) (type : TypeDescriptor) : String → Prop
  | field {field : FieldDecl} (declared : field ∈ declaredFields schema type.fullName)
      (unsupported : (classify schema type.scope field.type).category = .unsupported)
      (unread : readTypeText field.type = none) : WritesUnread schema type field.type
  | base {decl : TypeDecl} {written : String}
      (declared : schema.typeDecl? type.fullName = some decl) (derives : decl.base = some written)
      (kept : type.base = some (Text.trim written)) (unresolved : type.chain = [])
      (unread : readTypeText (Text.trim written) = none) :
      WritesUnread schema type (Text.trim written)

/-- The type of an argument that is passed through, though it cannot be
read. -/
def PassesUnread (type : EventTypeDescriptor) (text : String) : Prop :=
  ∃ call ∈ type.calls, ∃ arg ∈ call.arguments,
    arg.kind = .custom ∧ arg.declaredType = text ∧ readTypeText text = none

/-- Reading what is read as code calls no type invalid. -/
theorem ReadingFault.ne_invalidType {text : String} : ¬ ReadingFault (.invalidType text) := by
  rintro ⟨⟩

/-- A base that is taken as it is written is one that the walk did not
resolve. -/
theorem unresolved_of_foreign (run : analyze schema options = .ok analysis)
    {type : TypeDescriptor} (listed : type ∈ analysis.types) {base : String}
    (derives : type.base = some base) (foreign : type.chain.head? ≠ some base) :
    ∃ decl written, schema.typeDecl? type.fullName = some decl ∧ decl.base = some written
      ∧ base = Text.trim written ∧ type.chain = [] := by
  obtain ⟨decl, walked, declared, walkedFrom, baseIs, chainIs⟩ := walked_of_listed run listed
  have alone : type.chain = [] := by
    by_contra embeds
    exact foreign ((base_of_listed run listed embeds).symm.trans derives)
  cases bindable : type.mode.isBindable with
  | false =>
    rw [derives, bindable] at baseIs
    cases baseIs
  | true =>
    rw [bindable, if_pos rfl] at baseIs chainIs
    have stops : walked = [] := embeddedChain_eq_nil.1 (chainIs.symm.trans alone)
    rw [derives, stops] at baseIs
    obtain ⟨written, writes, same⟩ := Option.map_eq_some_iff.1 baseIs.symm
    exact ⟨decl, written, declared, writes, same.symm, alone⟩

/-- What the code of a bound type calls an invalid type. -/
theorem invalidType_of_typeUnit (run : analyze schema options = .ok analysis)
    {type : TypeDescriptor} (listed : type ∈ analysis.types) {paths : CodePaths}
    {enums : List EnumDescriptor} {text : String}
    (failed : typeUnit paths type enums = .error (.invalidType text)) :
    WritesUnread schema type text := by
  have fit := fitType_of_listed run listed
  cases typeUnit_faults paths type enums _ failed with
  | reading faulty => exact absurd faulty ReadingFault.ne_invalidType
  | base derives foreign faulty =>
    obtain ⟨decl, written, declared, writes, rfl, alone⟩ :=
      unresolved_of_foreign run listed derives foreign
    cases faulty.about
    exact .base declared writes derives alone faulty.unread
  | slot stored faulty =>
    obtain ⟨names, field, declared, shows⟩ := fit.slots _ stored
    rcases storageFault_of_names names faulty with unread | ⟨unsupported, faulty⟩
    · exact absurd unread ReadingFault.ne_invalidType
    · rw [shows.category] at unsupported
      rw [shows.declaredType] at faulty
      cases faulty.about
      exact .field declared unsupported faulty.unread
  | accessor among faulty =>
    have own := fit.own _ (List.mem_of_mem_filter among)
    exact absurd (getterFault_of_fit own.toFitProperty faulty) ReadingFault.ne_invalidType

/-- What the code of event calls calls an invalid type. -/
theorem invalidType_of_eventUnit (run : analyze schema options = .ok analysis)
    {type : EventTypeDescriptor} (listed : type ∈ analysis.eventTypes) {paths : CodePaths}
    {text : String} (failed : eventUnit paths type = .error (.invalidType text)) :
    PassesUnread type text := by
  cases eventUnit_faults paths type _ failed with
  | reading faulty => exact absurd faulty ReadingFault.ne_invalidType
  | method _ faulty => cases faulty
  | argument exposed takes faulty =>
    have fit := fitArgument_of_call run listed exposed takes
    rcases argumentFault_of_fit fit faulty with unread | ⟨passed, faulty⟩
    · exact absurd unread ReadingFault.ne_invalidType
    · cases faulty.about
      exact ⟨_, exposed, _, takes, passed, rfl, faulty.unread⟩

-- ================================================================= a run

/-- A type is left out for the fault of its code. -/
theorem error_of_omitted {typeName : String} {file : Drafts → FileDraft} {code : Emit Drafts}
    {omission : Omission} (run : outcomeOf typeName file code = .ok (.omitted omission)) :
    omission.typeName = typeName ∧ code = .error omission.fault := by
  rcases outcomeOf_eq_ok.1 run with ⟨_, -, impossible⟩ | ⟨fault, failed, -, same⟩
  · cases impossible
  · cases same
    exact ⟨rfl, failed⟩

/-- What a run leaves out has code that is at fault. -/
theorem fault_of_omitted (run : analyze schema options = .ok analysis) {generation : Generation}
    (generated : generate schema options = .ok generation) {omission : Omission}
    (left : omission ∈ generation.omitted) :
    (∃ type ∈ analysis.types, type.fullName = omission.typeName
        ∧ ∃ enums, typeUnit options.toCodePaths type enums = .error omission.fault)
      ∨ ∃ type ∈ analysis.eventTypes, type.fullName = omission.typeName
        ∧ eventUnit options.toCodePaths type = .error omission.fault := by
  obtain ⟨analysis', drafting, analysed, drafted, rfl, -, evented⟩ := generate_ok generated
  rw [run] at analysed
  cases analysed
  obtain ⟨_, analysed, typed, -⟩ := draft_ok drafted
  rw [run] at analysed
  cases analysed
  obtain ⟨outcome, among, here⟩ := List.mem_filterMap.1 left
  cases outcome with
  | drafted file => cases here
  | omitted _ =>
    cases here
    rcases List.mem_append.1 among with among | among
    · obtain ⟨type, listed, earlier, emitted⟩ := exists_of_forall₂ (forall₂_of_emitTypes typed) among
      obtain ⟨named, failed⟩ := error_of_omitted emitted
      exact Or.inl ⟨type, listed, named.symm, _, failed⟩
    · obtain ⟨type, listed, emitted⟩ := exists_of_forall₂ (forall₂_of_mapM_ok evented) among
      obtain ⟨named, failed⟩ := error_of_omitted emitted
      exact Or.inr ⟨type, listed, named.symm, failed⟩

/-- A run over what can be analysed ends over a word that is none. -/
theorem noWord_of_ended (run : analyze schema options = .ok analysis)
    (ended : generate schema options = .error (.emission fault)) :
    ∃ text, fault = .noWord text := by
  unfold generate draft at ended
  simp only [run] at ended
  cases typed : emitTypes options.toCodePaths analysis.enums analysis.types with
  | error _ =>
    obtain ⟨text, rfl, -⟩ := emitTypes_failsOnly (List.Subset.refl _) rfl _ typed
    rw [typed] at ended
    cases ended
    exact ⟨text, rfl⟩
  | ok types =>
    cases evented : analysis.eventTypes.mapM (emitEvents options.toCodePaths) with
    | error _ =>
      obtain ⟨text, rfl, -⟩ :=
        FailsOnly.mapM (fun type listed => emitEvents_failsOnly listed) _ evented
      rw [typed, evented] at ended
      cases ended
      exact ⟨text, rfl⟩
    | ok events =>
      rw [typed, evented] at ended
      cases ended

/-- What holds of the descriptors of an analysis and of what is emitted from
them. -/
structure DescriptorsFit (schema : Schema) (options : Options) (analysis : Analysis) : Prop where
  types : ∀ type ∈ analysis.types, FitType schema type
  arguments : ∀ type ∈ analysis.eventTypes, ∀ call ∈ type.calls, ∀ arg ∈ call.arguments,
    FitArgument schema arg
  /-- No step fails for want of an enum, a field or a category. -/
  steps : ∀ site, ∀ type ∈ analysis.types, EmitsType site type
  /-- Nor for want of a kind. -/
  argumentSteps : ∀ site, ∀ type ∈ analysis.eventTypes, ∀ call ∈ type.calls,
    ∀ arg ∈ call.arguments,
      FailsOnly
        (fun fault => ReadingFault fault
          ∨ arg.kind = .custom ∧ WrittenFault arg.declaredType fault)
        (argumentType site arg)
  /-- No run ends over an invalid type. -/
  ends : ∀ text, generate schema options ≠ .error (.emission (.invalidType text))
  /-- What is left out for an invalid type has a text that cannot be read, as
  the type of a field without a category, as a base that was not resolved, or
  as the type of an argument that is passed through. -/
  omitted : ∀ generation, generate schema options = .ok generation →
    ∀ omission ∈ generation.omitted, ∀ text, omission.fault = .invalidType text →
      (∃ type ∈ analysis.types, type.fullName = omission.typeName ∧ WritesUnread schema type text)
        ∨ ∃ type ∈ analysis.eventTypes, type.fullName = omission.typeName
          ∧ PassesUnread type text

/-- The descriptors of an analysis are fit for emission. -/
theorem descriptors_fit (run : analyze schema options = .ok analysis) :
    DescriptorsFit schema options analysis where
  types _ := fitType_of_listed run
  arguments _ listed _ exposed _ := fitArgument_of_call run listed exposed
  steps site _ listed := emitsType_of_fit site (fitType_of_listed run listed)
  argumentSteps site _ listed _ exposed _ takes :=
    argumentType_of_fit site (fitArgument_of_call run listed exposed takes)
  ends text failed := by
    obtain ⟨_, impossible⟩ := noWord_of_ended run failed
    cases impossible
  omitted generation generated omission left text about := by
    rcases fault_of_omitted run generated left with
      ⟨type, listed, named, enums, failed⟩ | ⟨type, listed, named, failed⟩
    · rw [about] at failed
      exact Or.inl ⟨type, listed, named, invalidType_of_typeUnit run listed failed⟩
    · rw [about] at failed
      exact Or.inr ⟨type, listed, named, invalidType_of_eventUnit run listed failed⟩

-- ========================================================== a storeroom

/-- Lockers with a lock, keys and contents, a ladder, and a clerk who fetches
what an order asks for. The contents, the base of the ladder and the order are
of types that cannot be read. -/
def storeroom : Schema where
  types :=
    [{ name := "Clerk"
       scope := some "game"
       isPartial := true
       attributes := [.eventRegister]
       methods :=
        [{ name := "fetch"
           args := [{ name := "lock", type := "Lock" }, { name := "order", type := "Order<" }]
           attributes := [.eventCall none []] }] },
     boundClass "Ladder" (some " Step< ") [{ name := "_height", type := "f32" }],
     boundClass "Locker" none
      [{ name := "_lock", type := "Lock" },
       { name := "_keys", type := "Vec<Lock>" },
       { name := "_contents", type := "Map<" }]]
  enums :=
    [{ name := "Lock"
       scope := some "game"
       isFlags := true
       values := [{ name := "Bolt", value := 1 }, { name := "Chain", value := 2 }] }]

/-- A run over the storeroom leaves out the ladder for its base, the lockers
for their contents and the clerk's call for the order. -/
theorem draft_storeroom :
    ∃ drafting, draft storeroom {} = .ok drafting
      ∧ drafting.omitted
        = [⟨"game::Ladder", .invalidType "Step<"⟩, ⟨"game::Locker", .invalidType "Map<"⟩,
          ⟨"game::Clerk", .invalidType "Order<"⟩] := by
  have typed : (emitTypes {} (enumsAsWritten storeroom) (typesAsWritten storeroom)).map
        (·.filterMap Outcome.omission?)
      = .ok [⟨"game::Ladder", .invalidType "Step<"⟩, ⟨"game::Locker", .invalidType "Map<"⟩] := by
    decide +kernel
  have evented : ((eventTypesAsWritten storeroom).mapM (emitEvents {})).map
        (·.filterMap Outcome.omission?)
      = .ok [⟨"game::Clerk", .invalidType "Order<"⟩] := by
    decide +kernel
  obtain ⟨types, emitted, omitted⟩ := except_map_eq_ok.1 typed
  obtain ⟨events, exposed, omittedToo⟩ := except_map_eq_ok.1 evented
  obtain ⟨drafting, drafted, rfl, rfl⟩ :=
    @draft_asWritten storeroom {} (by decide +kernel) _ _ emitted exposed
  refine ⟨drafting, drafted, ?_⟩
  unfold Drafting.omitted
  rw [List.filterMap_append, omitted, omittedToo]
  rfl

/-- The lock and the keys name their enum, and what the run leaves out is due
to the written types alone. -/
theorem storeroom_descriptors_fit :
    ∃ analysis generation, analyze storeroom {} = .ok analysis
      ∧ generate storeroom {} = .ok generation
      ∧ DescriptorsFit storeroom {} analysis
      ∧ generation.omitted
        = [⟨"game::Ladder", .invalidType "Step<"⟩, ⟨"game::Locker", .invalidType "Map<"⟩,
          ⟨"game::Clerk", .invalidType "Order<"⟩]
      ∧ ∃ locker ∈ analysis.types,
        locker.own.map (fun property => (property.category, property.enumName))
          = [(.flagsEnum, some "game::Lock"), (.listEnum, some "game::Lock")] := by
  obtain ⟨drafting, drafted, omitted⟩ := draft_storeroom
  obtain ⟨analysis, run, types, -, -⟩ := @analyze_asWritten storeroom (by decide +kernel) {}
  have found : ∃ locker ∈ typesAsWritten storeroom,
      locker.own.map (fun property => (property.category, property.enumName))
        = [(.flagsEnum, some "game::Lock"), (.listEnum, some "game::Lock")] := by
    decide +kernel
  rw [← types] at found
  exact ⟨analysis, _, run, generate_of_draft drafted, descriptors_fit run, omitted, found⟩

end DataBinding
