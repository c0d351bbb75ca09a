/-
Which methods of a type become event calls. A method can be exposed if it is
annotated, neither generic nor asynchronous, and the host can supply each of
its arguments. Of the methods of one name that can be exposed the first
becomes a call, and each later one is a warning.

# What does not count

A method that cannot be exposed takes no name: whatever stands before or
after it, it is passed over without a word (`exposedName?`). So calls and
warnings are told by the positions of the others, as those of properties are
told by the positions of usable fields.

# Who is warned

The search reports on each declaration that it accepts in its turn, and no
other stage says anything about calls; so what an analysis says about them is
what extraction says of the declaration behind the type (`exposesMethods_of_analyze`).
-/
import DataBinding.Proofs.FieldOffers

namespace DataBinding

open Text

variable {schema : Schema} {scope : Option String} {arg : ArgDecl} {argument : ArgumentDescriptor}
  {method : MethodDecl} {call : EventCallDescriptor}

-- ============================================================ in general

/-- All items make something exactly if each result is made of its item. -/
theorem mapM_eq_some_iff {α β : Type} {make? : α → Option β} {items : List α} {results : List β} :
    items.mapM make? = some results ↔
      List.Forall₂ (fun item result => make? item = some result) items results := by
  induction items generalizing results with
  | nil => simp [eq_comm]
  | cons item rest ih =>
    rw [List.mapM_cons]
    constructor
    · intro made
      obtain ⟨first, here, made⟩ := Option.bind_eq_some_iff.1 made
      obtain ⟨others, later, made⟩ := Option.bind_eq_some_iff.1 made
      cases made
      exact .cons here (ih.1 later)
    · rintro (_ | ⟨here, later⟩)
      rw [here, ih.2 later]
      rfl

/-- If each item makes something, so do all of them. -/
theorem exists_mapM_of_forall {α β : Type} {make? : α → Option β} {items : List α}
    (each : ∀ item ∈ items, ∃ result, make? item = some result) :
    ∃ results, items.mapM make? = some results := by
  induction items with
  | nil => exact ⟨[], rfl⟩
  | cons item rest ih =>
    obtain ⟨⟨first, here⟩, later⟩ := List.forall_mem_cons.1 each
    obtain ⟨others, made⟩ := ih later
    exact ⟨first :: others, by rw [List.mapM_cons, here, made]; rfl⟩

-- ============================================================= arguments

/-- An argument that the host can supply: it is handed in, as one value, and
the kind of this value is supported. -/
structure Suppliable (schema : Schema) (scope : Option String) (arg : ArgDecl) : Prop where
  notOut : arg.modifier ≠ .out
  notParams : arg.modifier ≠ .params
  supported : (classifyArgument schema scope arg.type).kind.isSupported = true

instance : Decidable (Suppliable schema scope arg) :=
  decidable_of_iff
    (arg.modifier ≠ .out ∧ arg.modifier ≠ .params
      ∧ (classifyArgument schema scope arg.type).kind.isSupported = true)
    ⟨fun ⟨notOut, notParams, supported⟩ => ⟨notOut, notParams, supported⟩,
      fun supplied => ⟨supplied.notOut, supplied.notParams, supplied.supported⟩⟩

/-- What a call says about an argument. -/
structure Describes (schema : Schema) (scope : Option String) (arg : ArgDecl)
    (argument : ArgumentDescriptor) : Prop where
  name : argument.name = arg.name
  declaredType : argument.declaredType = arg.type
  typeFullName : argument.typeFullName = (classifyArgument schema scope arg.type).typeFullName
  kind : argument.kind = (classifyArgument schema scope arg.type).kind
  enumName : argument.enumName = (classifyArgument schema scope arg.type).enumName
  byRef : argument.byRef = true ↔ arg.modifier = .ref

theorem exposableArgument?_eq_some :
    exposableArgument? schema scope arg = some argument ↔
      Suppliable schema scope arg ∧ Describes schema scope arg argument := by
  unfold exposableArgument?
  dsimp only
  split
  · next closed =>
    refine ⟨nofun, fun ⟨supplied, _⟩ => ?_⟩
    simp [supplied.notOut, supplied.notParams, supplied.supported] at closed
  · next open_ =>
    simp only [Bool.or_eq_true, beq_iff_eq, Bool.not_eq_true', not_or, Bool.not_eq_false] at open_
    obtain ⟨⟨notOut, notParams⟩, supported⟩ := open_
    constructor
    · intro made
      cases made
      exact ⟨⟨notOut, notParams, supported⟩,
        { name := rfl, declaredType := rfl, typeFullName := by dsimp only
          kind := by dsimp only, enumName := by dsimp only, byRef := beq_iff_eq }⟩
    · rintro ⟨-, describes⟩
      obtain ⟨name, declaredType, typeFullName, kind, enumName, byRef⟩ := argument
      obtain ⟨rfl, rfl, rfl, rfl, rfl, ref⟩ := describes
      have same : (arg.modifier == .ref) = byRef := by
        rw [Bool.eq_iff_iff, beq_iff_eq]
        exact ref.symm
      rw [same]

theorem argument_of_suppliable (supplied : Suppliable schema scope arg) :
    ∃ argument, exposableArgument? schema scope arg = some argument := by
  have handedIn : ¬ (arg.modifier == .out || arg.modifier == .params
      || !(classifyArgument schema scope arg.type).kind.isSupported) = true := by
    simp [supplied.notOut, supplied.notParams, supplied.supported]
  unfold exposableArgument?
  dsimp only
  rw [if_neg handedIn]
  exact ⟨_, rfl⟩

-- =============================================================== methods

/-- A method that can be exposed. -/
structure Exposable (schema : Schema) (scope : Option String) (method : MethodDecl) : Prop where
  annotated : method.eventCall?.isSome = true
  notGeneric : method.isGeneric = false
  notAsync : method.isAsync = false
  supplied : ∀ arg ∈ method.args, Suppliable schema scope arg

instance : Decidable (Exposable schema scope method) :=
  decidable_of_iff
    (method.eventCall?.isSome = true ∧ method.isGeneric = false ∧ method.isAsync = false
      ∧ ∀ arg ∈ method.args, Suppliable schema scope arg)
    ⟨fun ⟨annotated, notGeneric, notAsync, supplied⟩ => ⟨annotated, notGeneric, notAsync, supplied⟩,
      fun exposable => ⟨exposable.annotated, exposable.notGeneric, exposable.notAsync,
        exposable.supplied⟩⟩

/-- The event name meant for a method: what is written, trimmed, unless
nothing is left of it, and else the name of the method. -/
def meantEventName (methodName : String) : Option String → String
  | some written => if trim written = "" then methodName else trim written
  | none => methodName

theorem eventNameOf_eq (methodName : String) (written : Option String) :
    eventNameOf methodName written = meantEventName methodName written := by
  unfold eventNameOf meantEventName
  cases written with
  | none => rfl
  | some text => by_cases blank : trim text = "" <;> simp [Option.filter_some, blank]

/-- The call that exposes a method. It keeps all arguments in order. -/
structure Exposes (schema : Schema) (scope : Option String) (method : MethodDecl)
    (call : EventCallDescriptor) : Prop where
  methodName : call.methodName = method.name
  named : ∃ written, method.eventCall? = some (written, call.views)
    ∧ call.eventName = meantEventName method.name written
  isStatic : call.isStatic = method.isStatic
  returns : call.returns = returnType? method.returns
  arguments : List.Forall₂ (Describes schema scope) method.args call.arguments

theorem exposes_of_call (made : exposedCall? schema scope method = some call) :
    Exposable schema scope method ∧ Exposes schema scope method call := by
  unfold exposedCall? at made
  split at made
  · cases made
  · next eventName views marked =>
    split at made
    · cases made
    · next plain =>
      rw [Bool.or_eq_true, not_or, Bool.not_eq_true, Bool.not_eq_true] at plain
      obtain ⟨arguments, supplied, rfl⟩ := Option.map_eq_some_iff.1 made
      obtain ⟨each, described⟩ := (List.forall₂_and_left _ _).1
        ((mapM_eq_some_iff.1 supplied).imp fun _ _ => exposableArgument?_eq_some.1)
      exact ⟨⟨by rw [marked]; rfl, plain.1, plain.2, each⟩,
        { methodName := rfl, isStatic := rfl, returns := rfl, arguments := described
          named := ⟨eventName, marked, eventNameOf_eq method.name eventName⟩ }⟩

theorem call_of_exposable (exposable : Exposable schema scope method) :
    ∃ call, exposedCall? schema scope method = some call := by
  obtain ⟨⟨eventName, views⟩, marked⟩ := Option.isSome_iff_exists.1 exposable.annotated
  obtain ⟨arguments, supplied⟩ := exists_mapM_of_forall fun arg inside =>
    argument_of_suppliable (exposable.supplied arg inside)
  unfold exposedCall?
  simp only [marked, exposable.notGeneric, exposable.notAsync, supplied]
  exact ⟨_, rfl⟩

/-- The name that a method takes for its call, if it can be exposed. -/
def exposedName? (schema : Schema) (scope : Option String) (method : MethodDecl) :
    Option String :=
  if Exposable schema scope method then some method.name else none

theorem map_methodName_call :
    (exposedCall? schema scope method).map (·.methodName) = exposedName? schema scope method := by
  unfold exposedName?
  cases made : exposedCall? schema scope method with
  | some call =>
    obtain ⟨exposable, exposes⟩ := exposes_of_call made
    rw [if_pos exposable, Option.map_some, exposes.methodName]
  | none =>
    have closed : ¬ Exposable schema scope method := by
      intro exposable
      obtain ⟨call, makes⟩ := call_of_exposable exposable
      rw [makes] at made
      cases made
    rw [if_neg closed]
    rfl

-- ============================================================ extraction

/-- The name taken by the method at a position. -/
def exposedNameAt? (schema : Schema) (decl : TypeDecl) (i : Nat) : Option String :=
  decl.methods[i]?.bind (exposedName? schema decl.scope)

/-- The positions of the methods that take a name first. -/
def exposedPositions (schema : Schema) (decl : TypeDecl) : List Nat :=
  (List.range decl.methods.length).filter (FirstAt (exposedNameAt? schema decl))

/-- The positions of the methods that take a name again. -/
def droppedPositions (schema : Schema) (decl : TypeDecl) : List Nat :=
  (List.range decl.methods.length).filter (RepeatedAt (exposedNameAt? schema decl))

/-- What is said of a method whose name is taken already. -/
def dropWarning (typeName : String) (method : MethodDecl) : Diagnostic :=
  ⟨.duplicateEventCall, typeName, "'" ++ method.name ++ "' is exposed more than once"⟩

/-- What the methods of a type amount to. -/
structure ExposesMethods (schema : Schema) (decl : TypeDecl)
    (exposed : Reported (List EventCallDescriptor)) : Prop where
  /-- The methods that take a name first become calls, in order. -/
  calls : List.Forall₂
    (fun i call => ∃ method, decl.methods[i]? = some method
      ∧ Exposes schema decl.scope method call)
    (exposedPositions schema decl) exposed.value
  /-- Of those that take a name again each is a warning, and nothing else is
  said. -/
  warnings : List.Forall₂
    (fun i diagnostic => ∃ method, decl.methods[i]? = some method
      ∧ diagnostic = dropWarning decl.fullName method)
    (droppedPositions schema decl) exposed.diagnostics

theorem repeatedCall_eq (exposes : Exposes schema scope method call) (typeName : String) :
    repeatedCall typeName call = dropWarning typeName method := by
  unfold repeatedCall dropWarning
  rw [exposes.methodName]

theorem exposesMethods (schema : Schema) (decl : TypeDecl) :
    ExposesMethods schema decl (extractCalls schema decl) := by
  have names : nameAt? EventCallDescriptor.methodName (exposedCall? schema decl.scope) decl.methods
      = exposedNameAt? schema decl :=
    funext fun i => congrArg (decl.methods[i]?.bind ·) (funext fun _ => map_methodName_call)
  have first := @firstOffers_at _ _ EventCallDescriptor.methodName
    (exposedCall? schema decl.scope) decl.methods
  have later := @laterOffers_at _ _ EventCallDescriptor.methodName
    (exposedCall? schema decl.scope) decl.methods
  rw [names] at first later
  exact {
    calls := first.imp fun i call ⟨method, here, makes⟩ =>
      ⟨method, here, (exposes_of_call makes).2⟩
    warnings := List.forall₂_map_right_iff.2 (later.imp fun i call ⟨method, here, makes⟩ =>
      ⟨method, here, repeatedCall_eq (exposes_of_call makes).2 decl.fullName⟩) }

/-- There are as many warnings as methods that take a name again. -/
theorem ExposesMethods.count {decl : TypeDecl} {exposed : Reported (List EventCallDescriptor)}
    (exposes : ExposesMethods schema decl exposed) :
    exposed.diagnostics.length = (droppedPositions schema decl).length :=
  exposes.warnings.length_eq.symm

-- ============================================================ the search

variable {options : Options} {analysis : Analysis} {types : List EventTypeDescriptor}

/-- What is asked of a declaration that exposes calls. -/
structure Eligible (decl : TypeDecl) : Prop where
  registers : decl.isEventRegister = true
  isPartial : decl.isPartial = true
  topLevel : decl.parent = none

instance (decl : TypeDecl) : Decidable (Eligible decl) :=
  decidable_of_iff (decl.isEventRegister = true ∧ decl.isPartial = true ∧ decl.parent = none)
    ⟨fun ⟨registers, isPartial, topLevel⟩ => ⟨registers, isPartial, topLevel⟩,
      fun eligible => ⟨eligible.registers, eligible.isPartial, eligible.topLevel⟩⟩

theorem eligible_iff {decl : TypeDecl} :
    Eligible decl ↔ decl.isEventRegister = true ∧ shapeViolations decl = [] := by
  rw [shapeViolations_eq_nil]
  exact ⟨fun eligible => ⟨eligible.registers, eligible.isPartial, eligible.topLevel⟩,
    fun ⟨registers, isPartial, topLevel⟩ => ⟨registers, isPartial, topLevel⟩⟩

/-- Where all chains end, what is eligible is accepted. -/
theorem accepted_of_eligible {decl : TypeDecl}
    (ended : ∀ decl ∈ schema.types.filter (·.isEventRegister), (baseChain schema decl).isSome)
    (declared : decl ∈ schema.types) (eligible : Eligible decl) :
    ∃ type, acceptEvent? schema decl = some type ∧ type.fullName = decl.fullName := by
  obtain ⟨registers, clean⟩ := eligible_iff.1 eligible
  obtain ⟨chain, walked⟩ :=
    Option.isSome_iff_exists.1 (ended decl (List.mem_filter.2 ⟨declared, registers⟩))
  exact ⟨_, acceptEvent?_eq_some.2 ⟨chain, walked, clean, rfl⟩, rfl⟩

/-- What is kept of several types of one name is the last one. -/
theorem last_of_mem_lastOffers {found : List EventTypeDescriptor} {type : EventTypeDescriptor}
    (kept : type ∈ lastOffers found) :
    ∃ before after, found = before ++ type :: after
      ∧ ∀ later ∈ after, later.fullName ≠ type.fullName := by
  induction found with
  | nil => cases kept
  | cons first rest ih =>
    rw [lastOffers] at kept
    split at kept
    · obtain ⟨before, after, rfl, last⟩ := ih kept
      exact ⟨first :: before, after, rfl, last⟩
    · next alone =>
      rcases List.mem_cons.1 kept with rfl | keptToo
      · refine ⟨[], rest, rfl, fun later inside same => alone ?_⟩
        exact List.any_eq_true.2 ⟨later, inside, beq_iff_eq.2 same⟩
      · obtain ⟨before, after, rfl, last⟩ := ih keptToo
        exact ⟨first :: before, after, rfl, last⟩

/-- One type of each name is kept. -/
theorem mem_names_lastOffers {found : List EventTypeDescriptor} {name : String} :
    name ∈ (lastOffers found).map (·.fullName) ↔ name ∈ found.map (·.fullName) := by
  refine ⟨fun kept => ((lastOffers_sublist found).map _).subset kept, fun inside => ?_⟩
  induction found with
  | nil => cases inside
  | cons first rest ih =>
    rw [lastOffers]
    split
    · next again =>
      obtain ⟨later, inRest, same⟩ := List.any_eq_true.1 again
      rcases List.mem_cons.1 inside with rfl | inside
      · exact ih (List.mem_map.2 ⟨later, inRest, eq_of_beq same⟩)
      · exact ih inside
    · rcases List.mem_cons.1 inside with rfl | inside
      · exact List.mem_cons_self
      · exact List.mem_cons_of_mem _ (ih inside)

/-- The warnings about calls of one type. -/
def callWarnings (diagnostics : List Diagnostic) (typeName : String) : List Diagnostic :=
  diagnostics.filter fun diagnostic =>
    diagnostic.code == .duplicateEventCall && diagnostic.typeName == typeName

/-- Of one declaration only an eligible one is warned about calls, and all
that is said of it then is about itself. -/
theorem callWarnings_eventDiagnostics (decl : TypeDecl) (typeName : String) :
    callWarnings (eventDiagnostics schema decl) typeName
      = if (shapeViolations decl).isEmpty && decl.fullName == typeName
        then (extractCalls schema decl).diagnostics else [] := by
  unfold eventDiagnostics callWarnings
  split
  · next clean =>
    have about : ∀ diagnostic ∈ (extractCalls schema decl).diagnostics,
        (diagnostic.code == .duplicateEventCall && diagnostic.typeName == typeName)
          = (decl.fullName == typeName) := by
      intro diagnostic reported
      obtain ⟨call, -, rfl⟩ := List.mem_map.1 reported
      exact Bool.true_and _
    rw [List.filter_congr about, clean, Bool.true_and]
    split
    · next same => exact List.filter_eq_self.2 fun _ _ => same
    · next other => exact List.filter_eq_nil_iff.2 fun _ _ => other
  · next broken =>
    rw [Bool.eq_false_iff.2 broken]
    refine filter_code_eq_nil fun diagnostic reported => ?_
    obtain ⟨violation, -, rfl⟩ := List.mem_map.1 reported
    exact code_violation rfl decl violation

/-- The eligible declarations of a name, in order. -/
def eligibleNamed (schema : Schema) (name : String) : List TypeDecl :=
  schema.types.filter fun decl => Eligible decl ∧ decl.fullName = name

/-- What the search says about calls of a name is what is said of the
eligible declarations of that name, one after the other. -/
theorem callWarnings_eventTypes (run : (eventTypes schema).value = .ok types) (name : String) :
    callWarnings (eventTypes schema).diagnostics name
      = (eligibleNamed schema name).flatMap fun decl => (extractCalls schema decl).diagnostics := by
  have said : (eventTypes schema).diagnostics
      = (schema.types.filter (·.isEventRegister)).flatMap (eventDiagnostics schema) :=
    diagnostics_screenEvents (eventTypes_eq_ok.1 run).1
  unfold callWarnings eligibleNamed
  rw [said, List.filter_flatMap, flatMap_of_filter, flatMap_of_filter]
  refine congrArg (List.flatMap · schema.types) (funext fun decl => ?_)
  refine (congrArg (fun warnings => if decl.isEventRegister then warnings else [])
    (callWarnings_eventDiagnostics decl name)).trans ?_
  by_cases registers : decl.isEventRegister = true <;>
    by_cases clean : shapeViolations decl = [] <;>
      by_cases same : decl.fullName = name <;> simp [registers, clean, same, eligible_iff]

/-- What the search for event calls keeps of the declarations. -/
structure SearchExposes (schema : Schema) (types : List EventTypeDescriptor) : Prop where
  /-- A listed type has the calls of the last eligible declaration of its
  name. -/
  calls : ∀ type ∈ types, ∃ before decl after, schema.types = before ++ decl :: after
    ∧ Eligible decl ∧ decl.fullName = type.fullName
    ∧ (∀ later ∈ after, Eligible later → later.fullName ≠ type.fullName)
    ∧ type.calls = (extractCalls schema decl).value
  /-- Every eligible declaration has its name listed. -/
  listed : ∀ decl ∈ schema.types, Eligible decl → decl.fullName ∈ types.map (·.fullName)
  /-- Of a name that is said which is said of its eligible declarations. -/
  warnings : ∀ name, callWarnings (eventTypes schema).diagnostics name
    = (eligibleNamed schema name).flatMap fun decl => (extractCalls schema decl).diagnostics
  /-- There is one warning for each method that takes a name again. -/
  count : ∀ name, (callWarnings (eventTypes schema).diagnostics name).length
    = ((eligibleNamed schema name).flatMap (droppedPositions schema)).length

theorem searchExposes (run : (eventTypes schema).value = .ok types) :
    SearchExposes schema types := by
  obtain ⟨ended, accepted, kept, sorted⟩ := eventTypes_eq_ok.1 run
  have perm := ancestorsFirst_perm EventTypeDescriptor.fullName EventTypeDescriptor.chain
    (accepted.map (·.link schema accepted))
  rw [← sorted] at perm
  rw [List.filterMap_filter] at kept
  have warnings := callWarnings_eventTypes run
  refine ⟨?calls, ?listed, warnings, ?count⟩
  case calls =>
    intro type listed
    obtain ⟨unlinked, inside, rfl⟩ := List.mem_map.1 (perm.mem_iff.1 listed)
    rw [kept] at inside
    obtain ⟨before, after, split, last⟩ := last_of_mem_lastOffers inside
    obtain ⟨front, back, declared, -, found⟩ := List.filterMap_eq_append_iff.1 split
    obtain ⟨passed, decl, rest, rfl, -, here, behind⟩ := List.filterMap_eq_cons_iff.1 found
    split at here
    · next registers =>
      obtain ⟨chain, -, clean, rfl⟩ := acceptEvent?_eq_some.1 here
      refine ⟨front ++ passed, decl, rest, ?_, eligible_iff.2 ⟨registers, clean⟩, rfl, ?_, rfl⟩
      · rw [declared, List.append_assoc]
      · intro later inRest eligible
        have declaredToo : later ∈ schema.types := by
          rw [declared]
          exact List.mem_append_right _ (List.mem_append_right _ (List.mem_cons_of_mem _ inRest))
        obtain ⟨type, accepts, named⟩ := accepted_of_eligible ended declaredToo eligible
        rw [← named]
        refine last type (behind ▸ List.mem_filterMap.2 ⟨later, inRest, ?_⟩)
        rw [if_pos eligible.registers, accepts]
    · cases here
  case listed =>
    intro decl declared eligible
    obtain ⟨type, accepts, named⟩ := accepted_of_eligible ended declared eligible
    have inFound : decl.fullName ∈ accepted.map (·.fullName) := by
      rw [kept, mem_names_lastOffers, ← named]
      refine List.mem_map_of_mem (List.mem_filterMap.2 ⟨decl, declared, ?_⟩)
      rw [if_pos eligible.registers, accepts]
    rw [(perm.map EventTypeDescriptor.fullName).mem_iff, List.map_map]
    exact inFound
  case count =>
    intro name
    rw [warnings, List.length_flatMap, List.length_flatMap]
    exact congrArg List.sum (List.map_congr_left fun decl _ => (exposesMethods schema decl).count)

-- ========================================================== the analysis

/-- Of all that an analysis reports, the warnings about calls are those of
the search. -/
theorem callWarnings_of_analyze (run : analyze schema options = .ok analysis) (name : String) :
    callWarnings analysis.diagnostics name
      = callWarnings (eventTypes schema).diagnostics name := by
  obtain ⟨outlined, _, found, -, rfl⟩ := analyze_ok run
  have scanned : callWarnings (outlines schema).diagnostics name = [] :=
    filter_code_eq_nil (code_outlines rfl)
  have extracted : callWarnings (extractAll schema outlined).diagnostics name = [] := by
    refine filter_code_eq_nil fun diagnostic reported => ?_
    obtain ⟨_, _, rfl⟩ := mem_diagnostics_extractAll reported
    exact fun same => nomatch same
  have merged : callWarnings
      (mergeAll schema [] (extractAll schema outlined).value).diagnostics name = [] := by
    refine filter_code_eq_nil fun diagnostic reported => ?_
    rw [(mem_diagnostics_mergeAll reported).1]
    exact fun same => nomatch same
  unfold callWarnings at scanned extracted merged ⊢
  rw [List.filter_append, List.filter_append, List.filter_append, scanned, extracted, merged,
    List.nil_append, List.nil_append, List.nil_append]

/-- Among distinct names an eligible declaration is the only one of its
name. -/
theorem eligibleNamed_of_nodup (distinct : (schema.types.map (·.fullName)).Nodup)
    {decl : TypeDecl} (declared : decl ∈ schema.types) (eligible : Eligible decl) :
    eligibleNamed schema decl.fullName = [decl] := by
  have named := filter_key_of_nodup distinct declared
  have both : eligibleNamed schema decl.fullName
      = (schema.types.filter (·.fullName == decl.fullName)).filter (Eligible ·) := by
    unfold eligibleNamed
    rw [List.filter_filter]
    exact List.filter_congr fun other _ => by simp [Bool.decide_and, beq_eq_decide]
  rw [both, named, List.filter_singleton, decide_eq_true eligible]
  rfl

/-- An event type of an analysis has the calls and the warnings that the
methods of the declaration of its name amount to. -/
theorem exposesMethods_of_analyze (run : analyze schema options = .ok analysis)
    {type : EventTypeDescriptor} (listed : type ∈ analysis.eventTypes) :
    ∃ decl, schema.typeDecl? type.fullName = some decl ∧ Eligible decl
      ∧ ExposesMethods schema decl
          ⟨type.calls, callWarnings analysis.diagnostics type.fullName⟩ := by
  have warned := callWarnings_of_analyze run type.fullName
  obtain ⟨_, _, scanned, searched, rfl⟩ := analyze_ok run
  have distinct := (outlines_ok scanned).1
  have search := searchExposes searched
  obtain ⟨before, decl, after, declared, eligible, named, -, calls⟩ := search.calls type listed
  have inside : decl ∈ schema.types := by
    rw [declared]
    exact List.mem_append_right before List.mem_cons_self
  refine ⟨decl, named ▸ typeDecl?_of_mem distinct inside, eligible, ?_⟩
  rw [warned, search.warnings, ← named, eligibleNamed_of_nodup distinct inside eligible,
    List.flatMap_singleton, calls]
  exact exposesMethods schema decl

/-- Of the methods of a type, each that can be exposed and takes its name
first becomes a call, each that takes it again is a warning, and of the
others nothing is said: so it is in extraction, whatever the methods, in the
search, whatever the declarations, and so it stays in the analysis. -/
theorem methods_exposed :
    (∀ schema decl, ExposesMethods schema decl (extractCalls schema decl))
      ∧ (∀ {schema types}, (eventTypes schema).value = .ok types → SearchExposes schema types)
      ∧ ∀ {schema options analysis}, analyze schema options = .ok analysis →
        (∀ decl ∈ schema.types, Eligible decl →
          decl.fullName ∈ analysis.eventTypes.map (·.fullName))
        ∧ ∀ type ∈ analysis.eventTypes, ∃ decl, schema.typeDecl? type.fullName = some decl
          ∧ Eligible decl
          ∧ ExposesMethods schema decl
              ⟨type.calls, callWarnings analysis.diagnostics type.fullName⟩
          ∧ (callWarnings analysis.diagnostics type.fullName).length
              = (droppedPositions schema decl).length := by
  refine ⟨exposesMethods, searchExposes, fun run => ⟨?_, fun type listed => ?_⟩⟩
  · obtain ⟨_, _, -, searched, rfl⟩ := analyze_ok run
    exact (searchExposes searched).listed
  · obtain ⟨decl, declared, eligible, exposes⟩ := exposesMethods_of_analyze run listed
    exact ⟨decl, declared, eligible, exposes, exposes.count⟩

/-- A turret that fires in four ways, of which one is generic and one wants a
map, that loads in two, of which one is asynchronous and the other changes
the amount, and that is aimed by hand and jams without a mark. -/
def turret : TypeDecl where
  name := "Turret"
  isPartial := true
  attributes := [.eventRegister]
  methods :=
    [{ name := "fire", isGeneric := true, attributes := [.eventCall none []] },
     { name := "fire", args := [{ name := "shots", type := "i32" }]
       attributes := [.eventCall (some " Fire! ") ["Deck"]] },
     { name := "fire", args := [{ name := "plan", type := "HashMap<i32, i32>" }]
       attributes := [.eventCall none []] },
     { name := "load", isAsync := true, attributes := [.eventCall none []] },
     { name := "fire", attributes := [.eventCall (some "Burst") []] },
     { name := "load"
       args := [{ name := "amount", type := "i32", modifier := .ref },
         { name := "what", type := "Shell" }]
       attributes := [.eventCall (some "  ") []] },
     { name := "aim", args := [{ name := "found", type := "bool", modifier := .out }]
       attributes := [.eventCall none []] },
     { name := "jam" }]

/-- One way to fire and one to load are exposed, the burst is warned about,
and of the others nothing is said. -/
theorem turret_exposed :
    ∃ analysis, analyze { types := [turret] } {} = .ok analysis
      ∧ SearchExposes { types := [turret] } analysis.eventTypes
      ∧ ∃ type ∈ analysis.eventTypes,
        type.calls.map (fun call => (call.methodName, call.eventName))
            = [("fire", "Fire!"), ("load", "load")]
          ∧ type.calls.map (·.arguments.map (·.byRef)) = [[false], [true, false]]
          ∧ (callWarnings analysis.diagnostics type.fullName).length = 1
          ∧ exposedPositions { types := [turret] } turret = [1, 5]
          ∧ droppedPositions { types := [turret] } turret = [4]
          ∧ ExposesMethods { types := [turret] } turret
              ⟨type.calls, callWarnings analysis.diagnostics type.fullName⟩ := by
  obtain ⟨analysis, run, -, eventTypes, -⟩ :=
    @analyze_asWritten { types := [turret] } (by decide +kernel) {}
  have found : ∃ type ∈ eventTypesAsWritten { types := [turret] },
      type.calls.map (fun call => (call.methodName, call.eventName))
          = [("fire", "Fire!"), ("load", "load")]
        ∧ type.calls.map (·.arguments.map (·.byRef)) = [[false], [true, false]]
        ∧ Schema.typeDecl? { types := [turret] } type.fullName = some turret := by
    decide +kernel
  have exposed : exposedPositions { types := [turret] } turret = [1, 5] := by decide +kernel
  have dropped : droppedPositions { types := [turret] } turret = [4] := by decide +kernel
  rw [← eventTypes] at found
  obtain ⟨type, listed, names, refs, declared⟩ := found
  obtain ⟨decl, declared', -, exposes, count⟩ := (methods_exposed.2.2 run).2 type listed
  rw [declared] at declared'
  cases declared'
  rw [dropped] at count
  refine ⟨analysis, run, methods_exposed.2.1 ?_, type, listed, names, refs, count, exposed, dropped,
    exposes⟩
  rw [eventTypes]
  exact eventTypes_asWritten (by decide +kernel)

end DataBinding
