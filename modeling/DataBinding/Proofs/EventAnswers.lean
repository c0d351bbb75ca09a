/-
What becomes of an event. The first call that serves it in the view is
picked. When every argument fits, the call does what its method does with
the values that were passed; and otherwise it does nothing, and the fault
names the first position that does not fit.

# Reading along the arguments

A call announces its arguments in a table, and its method reads them in a
program of its own. That the two agree is shown argument by argument
(`Follows.bind`): what the table accepts at a position is what the reading
opens there. So a reading comes to the same as a check of the values against
the table (`firstFault?`), which knows nothing of what is read.

# Which method it is

A method is looked up by its name, in the type that the call names. Of the
embedded types the names differ, and so do the methods of one type; hence
each listed call leads to the method that it was listed for, however many
types are on top of it (`Answers.extend`).
-/
import DataBinding.Game.Player
import DataBinding.Game.Shop
import DataBinding.Proofs.Setters

namespace DataBinding

variable {σ τ κ ρ α β : Type} {accepts : ArgumentInfo → ArgValue κ → Bool}

-- ============================================================ positions

/-- A position at which an argument is missing or not accepted. -/
def FailsAt (accepts : ArgumentInfo → ArgValue κ → Bool) (arguments : List ArgumentInfo)
    (values : List (ArgValue κ)) (i : Nat) : Prop :=
  ∃ info, arguments[i]? = some info ∧ ∀ value, values[i]? = some value → accepts info value = false

theorem failsAt_cons_zero {info : ArgumentInfo} {arguments : List ArgumentInfo}
    {value : ArgValue κ} {values : List (ArgValue κ)} :
    FailsAt accepts (info :: arguments) (value :: values) 0 ↔ accepts info value = false := by
  simp [FailsAt]

theorem failsAt_cons_succ {info : ArgumentInfo} {arguments : List ArgumentInfo}
    {value : ArgValue κ} {values : List (ArgValue κ)} {i : Nat} :
    FailsAt accepts (info :: arguments) (value :: values) (i + 1)
      ↔ FailsAt accepts arguments values i := by
  simp [FailsAt]

/-- The first fault of some values against the arguments of a method, the
positions being counted from a number on. -/
def firstFault? (accepts : ArgumentInfo → ArgValue κ → Bool) (method : String) :
    Nat → List ArgumentInfo → List (ArgValue κ) → Option InvokeFault
  | _, [], _ => none
  | index, _ :: _, [] => some (.missingArgument method index)
  | index, info :: arguments, value :: values =>
    if accepts info value then firstFault? accepts method (index + 1) arguments values
    else some (.argumentMismatch method index info.kind)

theorem firstFault?_eq_none {method : String} {index : Nat} {arguments : List ArgumentInfo}
    {values : List (ArgValue κ)} :
    firstFault? accepts method index arguments values = none
      ↔ ∀ i, ¬ FailsAt accepts arguments values i := by
  induction arguments generalizing index values with
  | nil => simp [firstFault?, FailsAt]
  | cons info arguments ih =>
    cases values with
    | nil =>
      rw [firstFault?]
      constructor
      · intro impossible
        cases impossible
      · intro sound
        exact absurd ⟨info, rfl, fun _ impossible => nomatch impossible⟩ (sound 0)
    | cons value values =>
      rw [firstFault?]
      constructor
      · intro sound i
        split at sound
        · next accepted =>
          cases i with
          | zero =>
            rw [failsAt_cons_zero, accepted]
            exact Bool.false_ne_true.symm
          | succ i =>
            rw [failsAt_cons_succ]
            exact ih.1 sound i
        · cases sound
      · intro sound
        have accepted : accepts info value = true := by
          have here := sound 0
          rwa [failsAt_cons_zero, Bool.not_eq_false] at here
        rw [if_pos accepted]
        exact ih.2 fun i fails => sound (i + 1) (failsAt_cons_succ.2 fails)

/-- The fault is that of the first position that fails. -/
theorem fault_of_firstFault? {method : String} {index : Nat} {arguments : List ArgumentInfo}
    {values : List (ArgValue κ)} {fault : InvokeFault}
    (found : firstFault? accepts method index arguments values = some fault) :
    ∃ i info, arguments[i]? = some info
      ∧ (∀ value, values[i]? = some value → accepts info value = false)
      ∧ (∀ j < i, ¬ FailsAt accepts arguments values j)
      ∧ fault = if i < values.length then .argumentMismatch method (index + i) info.kind
        else .missingArgument method (index + i) := by
  induction arguments generalizing index values with
  | nil => cases found
  | cons info arguments ih =>
    cases values with
    | nil =>
      cases found
      refine ⟨0, info, rfl, ?_, fun j before => absurd before (Nat.not_lt_zero j), rfl⟩
      intro value here
      cases here
    | cons value values =>
      rw [firstFault?] at found
      split at found
      · next accepted =>
        obtain ⟨i, info', here, refused, earlier, named⟩ := ih found
        refine ⟨i + 1, info', here, refused, ?_, ?_⟩
        · intro j before
          cases j with
          | zero =>
            rw [failsAt_cons_zero, accepted]
            exact Bool.false_ne_true.symm
          | succ j =>
            rw [failsAt_cons_succ]
            exact earlier j (Nat.lt_of_succ_lt_succ before)
        · rw [named, List.length_cons, Nat.add_assoc, Nat.add_comm 1 i]
          simp only [Nat.add_lt_add_iff_right]
      · next refused =>
        cases found
        refine ⟨0, info, rfl, ?_, fun j before => absurd before (Nat.not_lt_zero j), rfl⟩
        intro value' here
        cases here
        exact Bool.not_eq_true _ ▸ refused

namespace EventCall

variable (call : EventCall)

/-- There is a value for each declared argument, and it is accepted; there
may be more values. -/
structure Fits (accepts : ArgumentInfo → ArgValue κ → Bool) (values : List (ArgValue κ)) :
    Prop where
  enough : call.arguments.length ≤ values.length
  accepted : ∀ (i : Nat) info value, call.arguments[i]? = some info →
    values[i]? = some value → accepts info value = true

/-- The fault of the first position that does not fit. -/
def Refuses (accepts : ArgumentInfo → ArgValue κ → Bool) (values : List (ArgValue κ))
    (fault : InvokeFault) : Prop :=
  ∃ (i : Nat) (info : ArgumentInfo), call.arguments[i]? = some info
    ∧ (∀ value, values[i]? = some value → accepts info value = false)
    ∧ (∀ j < i, ¬ FailsAt accepts call.arguments values j)
    ∧ fault = if i < values.length then .argumentMismatch call.methodName i info.kind
      else .missingArgument call.methodName i

theorem fits_iff {values : List (ArgValue κ)} :
    call.Fits accepts values
      ↔ firstFault? accepts call.methodName 0 call.arguments values = none := by
  rw [firstFault?_eq_none]
  constructor
  · rintro ⟨enough, accepted⟩ i ⟨info, here, refused⟩
    have inside : i < values.length :=
      Nat.lt_of_lt_of_le (List.getElem?_eq_some_iff.1 here).1 enough
    have found := List.getElem?_eq_getElem inside
    have clash := accepted i info _ here found
    rw [refused _ found] at clash
    cases clash
  · intro sound
    constructor
    · refine Nat.le_of_not_lt fun short => sound values.length ?_
      refine ⟨_, List.getElem?_eq_getElem short, fun value here => ?_⟩
      rw [List.getElem?_eq_none (Nat.le_refl _)] at here
      cases here
    · intro i info value here found
      refine eq_true_of_ne_false fun refused => sound i ⟨info, here, fun other found' => ?_⟩
      rw [found] at found'
      cases found'
      exact refused

theorem refuses_iff {values : List (ArgValue κ)} {fault : InvokeFault} :
    call.Refuses accepts values fault
      ↔ firstFault? accepts call.methodName 0 call.arguments values = some fault := by
  have first : ∀ {fault' : InvokeFault},
      firstFault? accepts call.methodName 0 call.arguments values = some fault' →
        call.Refuses accepts values fault' := by
    intro fault' found
    have refuses := fault_of_firstFault? found
    simp only [Nat.zero_add] at refuses
    exact refuses
  constructor
  · rintro ⟨i, info, here, refused, earlier, rfl⟩
    cases found : firstFault? accepts call.methodName 0 call.arguments values with
    | none => exact absurd ⟨info, here, refused⟩ (firstFault?_eq_none.1 found i)
    | some fault' =>
      obtain ⟨j, info', here', refused', earlier', rfl⟩ := first found
      -- both positions fail, and neither comes before the other
      have same : i = j := by
        rcases Nat.lt_trichotomy i j with before | same | behind
        · exact absurd ⟨info, here, refused⟩ (earlier' i before)
        · exact same
        · exact absurd ⟨info', here', refused'⟩ (earlier j behind)
      rw [same, here'] at here
      cases here
      rw [same]
  · exact first

end EventCall

-- ============================================================== reading

/-- A result is the fault, and without one it is what is wanted. -/
def Settles (fault? : Option InvokeFault) (wanted? : Option α) (result : Except InvokeFault α) :
    Prop :=
  match fault? with
  | some fault => result = .error fault
  | none => ∃ wanted, wanted? = some wanted ∧ result = .ok wanted

namespace Settles

variable {fault? : Option InvokeFault} {wanted? : Option α} {result : Except InvokeFault α}

theorem of_fault {fault : InvokeFault} (settles : Settles (some fault) wanted? result) :
    result = .error fault := settles

theorem of_none (settles : Settles none wanted? result) :
    ∃ wanted, wanted? = some wanted ∧ result = .ok wanted := settles

theorem map (settles : Settles fault? wanted? result) (f : α → β) :
    Settles fault? (wanted?.map f) (result.map f) := by
  cases fault? with
  | some fault =>
    obtain rfl := settles.of_fault
    rfl
  | none =>
    obtain ⟨wanted, rfl, rfl⟩ := settles.of_none
    exact ⟨f wanted, rfl, rfl⟩

end Settles

/-- A reading that goes along some arguments: it ends over their first fault,
and without one it makes of the values what is said. -/
def ReadArgs.Follows (accepts : ArgumentInfo → ArgValue κ → Bool) (arguments : List ArgumentInfo)
    (makes : List (ArgValue κ) → Option α) (reading : ReadArgs κ α) : Prop :=
  ∀ args : Args κ,
    Settles (firstFault? accepts args.method args.index arguments args.values)
      (makes args.values) ((reading.run args).map (·.1))

/-- A shape opens exactly the values that an announced argument accepts. -/
structure ArgShape.Opens (shape : ArgShape κ β) (accepts : ArgumentInfo → ArgValue κ → Bool)
    (info : ArgumentInfo) : Prop where
  kind : shape.kind = info.kind
  accepted : ∀ value, (shape.open? value).isSome = accepts info value

namespace ReadArgs.Follows

theorem pure {made : α} {makes : List (ArgValue κ) → Option α}
    (wanted : ∀ values, makes values = some made) :
    ReadArgs.Follows accepts [] makes (Pure.pure made : ReadArgs κ α) :=
  fun args => ⟨made, wanted args.values, rfl⟩

/-- One more argument is read in front of the others. -/
theorem bind {info : ArgumentInfo} {arguments : List ArgumentInfo} {shape : ArgShape κ β}
    (opens : shape.Opens accepts info) {next : β → ReadArgs κ α}
    {makes : List (ArgValue κ) → Option α}
    (follows : ∀ {value opened}, shape.open? value = some opened →
      (next opened).Follows accepts arguments fun values => makes (value :: values)) :
    ReadArgs.Follows accepts (info :: arguments) makes (shape.next >>= next) := by
  rintro ⟨method, values, index⟩
  cases values with
  | nil => rfl
  | cons value values =>
    have accepted := opens.accepted value
    rw [firstFault?, StateT.run_bind, ← accepted]
    cases found : shape.open? value with
    | none =>
      rw [Option.isSome_none, if_neg Bool.false_ne_true]
      simp only [ArgShape.next, Args.read, StateT.run, List.head?_cons, found, opens.kind]
      rfl
    | some opened =>
      rw [Option.isSome_some, if_pos rfl]
      simp only [ArgShape.next, Args.read, StateT.run, List.head?_cons, found, List.drop_one,
        List.tail_cons]
      exact follows found ⟨method, values, index + 1⟩

end ReadArgs.Follows

namespace ArgShape

variable {value : ArgValue κ}

theorem of_open_int {int : Int32} (found : ArgShape.int.open? value = some int) :
    value = .int int := by
  cases value with
  | int => exact congrArg ArgValue.int (Option.some.inj found)
  | _ => cases found

theorem of_open_string {text : String} (found : ArgShape.string.open? value = some text) :
    value = .string text := by
  cases value with
  | string => exact congrArg ArgValue.string (Option.some.inj found)
  | _ => cases found

theorem of_open_enum {type : EnumDescriptor} {variant : type.Variant}
    (found : (ArgShape.enum type).open? value = some variant) :
    ∃ int, value = .int int ∧ type.ofInt? int = some variant := by
  cases value with
  | int int => exact ⟨int, rfl, found⟩
  | _ => cases found

theorem of_open_custom {unwrap? : κ → Option α} {unwrapped : α}
    (found : (ArgShape.custom unwrap?).open? value = some unwrapped) :
    ∃ boxed, value = .custom boxed ∧ unwrap? boxed = some unwrapped := by
  cases value with
  | custom boxed => exact ⟨boxed, rfl, found⟩
  | _ => cases found

end ArgShape

-- ============================================================ registers

/-- A register that does what it lists: a listed call ends over the first
fault of the values, and without one it is what the call means with them. -/
def ModelRegister.Answers (register : ModelRegister σ κ ρ)
    (accepts : ArgumentInfo → ArgValue κ → Bool)
    (decoded? : EventCall → List (ArgValue κ) → Option (Action σ ρ)) : Prop :=
  ∀ call ∈ register.calls, ∀ values,
    Settles (firstFault? accepts call.methodName 0 call.arguments values)
      (decoded? call values) (register.invoke call values)

namespace ModelRegister.Answers

theorem nothing {decoded? : EventCall → List (ArgValue κ) → Option (Action σ ρ)} :
    (ModelRegister.nothing : ModelRegister σ κ ρ).Answers accepts decoded? :=
  fun _ impossible => nomatch impossible

theorem within {register : ModelRegister τ κ ρ}
    {decoded? : EventCall → List (ArgValue κ) → Option (Action τ ρ)}
    (answers : register.Answers accepts decoded?) (outer : Part σ τ) :
    (register.within outer).Answers accepts
      fun call values => (decoded? call values).map (·.within outer) := by
  intro call listed values
  exact (answers call listed values).map _

/-- Methods on top of what is embedded: the names of types tell calls of the
one from calls of the other, and names of methods tell the methods apart. -/
theorem extend {embedded : ModelRegister σ κ ρ} {typeName : String}
    {methods : List (Method σ κ ρ)}
    {decoded? : EventCall → List (ArgValue κ) → Option (Action σ ρ)}
    (answers : embedded.Answers accepts decoded?)
    (elsewhere : ∀ call ∈ embedded.calls, call.typeFullName ≠ typeName)
    (own : ∀ method ∈ methods, method.call.typeFullName = typeName)
    (distinct : methods.Pairwise (·.call.methodName ≠ ·.call.methodName))
    (follows : ∀ method ∈ methods,
      method.reading.Follows accepts method.call.arguments (decoded? method.call)) :
    (embedded.extend typeName methods).Answers accepts decoded? := by
  intro call listed values
  rcases List.mem_append.1 listed with inherited | added
  · simp only [ModelRegister.extend, if_neg (elsewhere call inherited)]
    exact answers call inherited values
  · obtain ⟨method, offered, rfl⟩ := List.mem_map.1 added
    have picked : methods.find? (·.call.methodName == method.call.methodName) = some method := by
      obtain ⟨before, behind, rfl⟩ := List.append_of_mem offered
      rw [List.pairwise_append] at distinct
      refine List.find?_eq_some_iff_append.2 ⟨beq_self_eq_true _, before, behind, rfl, ?_⟩
      intro earlier first
      rw [Bool.not_eq_true', beq_eq_false_iff_ne]
      exact distinct.2.2 earlier first method List.mem_cons_self
    simp only [ModelRegister.extend, if_pos (own method offered), picked]
    exact follows method offered { method := method.call.methodName, values := values }

end ModelRegister.Answers

-- =============================================================== events

/-- A call serves an event that is its own in a view that shows it. -/
def EventCall.Serves (call : EventCall) (eventName view : String) : Prop :=
  call.eventName = eventName ∧ (call.views = [] ∨ view ∈ call.views)

namespace EventRegister

variable (register : EventRegister κ α) {eventName view : String}

/-- The first listed call that serves an event. -/
def Picks (eventName view : String) (call : EventCall) : Prop :=
  ∃ before behind, register.calls = before ++ call :: behind
    ∧ call.Serves eventName view ∧ ∀ earlier ∈ before, ¬ earlier.Serves eventName view

theorem serves_iff (call : EventCall) :
    (call.eventName == eventName && call.isShownIn view) = true
      ↔ call.Serves eventName view := by
  simp [EventCall.isShownIn, EventCall.Serves]

theorem call?_eq_some {call : EventCall} :
    register.call? eventName view = some call ↔ register.Picks eventName view call := by
  rw [call?, List.find?_eq_some_iff_append, serves_iff]
  constructor
  · rintro ⟨serves, before, behind, split, unserved⟩
    refine ⟨before, behind, split, serves, fun earlier first => ?_⟩
    rw [← serves_iff, Bool.not_eq_true, ← Bool.not_eq_true']
    exact unserved earlier first
  · rintro ⟨before, behind, split, serves, unserved⟩
    refine ⟨serves, before, behind, split, fun earlier first => ?_⟩
    have missed := unserved earlier first
    rw [← serves_iff, Bool.not_eq_true] at missed
    rw [missed]
    rfl

theorem call?_eq_none :
    register.call? eventName view = none
      ↔ ∀ call ∈ register.calls, ¬ call.Serves eventName view := by
  simp only [call?, List.find?_eq_none, serves_iff]

theorem Picks.listed {call : EventCall} (picks : register.Picks eventName view call) :
    call ∈ register.calls := by
  obtain ⟨before, behind, split, -, -⟩ := picks
  rw [split]
  exact List.mem_append_right _ List.mem_cons_self

end EventRegister

/-- What becomes of a state when an event occurs: its change, and what the
call returns. An event that is refused leaves the state to itself. -/
def ModelRegister.occur (register : ModelRegister σ κ ρ) (eventName view : String)
    (values : List (ArgValue κ)) (state : σ) :
    Change σ × Except InvokeFault (Except Overflow (Option ρ)) :=
  match register.invokeEvent eventName view values with
  | .ok action => ((action state).1, .ok (action state).2)
  | .error fault => (⟨state, []⟩, .error fault)

/-- Every event either runs as a whole or does nothing. `careful` names the
methods that leave everything as it was when a number grows too large. -/
structure ModelRegister.AllOrNothing (register : ModelRegister σ κ ρ)
    (accepts : ArgumentInfo → ArgValue κ → Bool)
    (decoded? : EventCall → List (ArgValue κ) → Option (Action σ ρ))
    (careful : List String) : Prop where
  /-- An event that nobody serves is unknown. -/
  unknown : ∀ {eventName view}, (∀ call ∈ register.calls, ¬ call.Serves eventName view) →
    ∀ values state,
      register.occur eventName view values state = (⟨state, []⟩, .error (.unknownEvent eventName))
  /-- With values that fit, the first call that serves the event is what its
  method does with them. -/
  runs : ∀ {eventName view call}, register.Picks eventName view call →
    ∀ values, call.Fits accepts values →
      ∃ action, decoded? call values = some action ∧ ∀ state,
        register.occur eventName view values state = ((action state).1, .ok (action state).2)
  /-- With others, the fault is that of the first position that does not. -/
  refuses : ∀ {eventName view call}, register.Picks eventName view call →
    ∀ values, ¬ call.Fits accepts values →
      ∃ fault, call.Refuses accepts values fault ∧ ∀ state,
        register.occur eventName view values state = (⟨state, []⟩, .error fault)
  /-- An event that is refused has changed nothing. -/
  refused : ∀ {eventName view values state change fault},
    register.occur eventName view values state = (change, .error fault) → change = ⟨state, []⟩
  /-- Nor has one that fails over the numbers of a careful method. -/
  overflowed : ∀ {eventName view call}, register.Picks eventName view call →
    call.methodName ∈ careful →
    ∀ {values state change overflow},
      register.occur eventName view values state = (change, .ok (.error overflow)) →
        change = ⟨state, []⟩

theorem ModelRegister.Answers.allOrNothing {register : ModelRegister σ κ ρ}
    {decoded? : EventCall → List (ArgValue κ) → Option (Action σ ρ)} {careful : List String}
    (answers : register.Answers accepts decoded?)
    (keeps : ∀ {call values action}, call.methodName ∈ careful →
      decoded? call values = some action →
      ∀ {state change overflow}, action state = (change, .error overflow) →
        change = ⟨state, []⟩) :
    register.AllOrNothing accepts decoded? careful where
  unknown {eventName view} unserved values state := by
    rw [ModelRegister.occur, EventRegister.invokeEvent,
      (EventRegister.call?_eq_none register).2 unserved]
  runs {eventName view call} picks values fits := by
    have here := answers call picks.listed values
    rw [call.fits_iff.1 fits] at here
    obtain ⟨action, decoded, invoked⟩ := here.of_none
    refine ⟨action, decoded, fun state => ?_⟩
    simp only [ModelRegister.occur, EventRegister.invokeEvent,
      (EventRegister.call?_eq_some register).2 picks, invoked]
  refuses {eventName view call} picks values misfit := by
    have here := answers call picks.listed values
    cases found : firstFault? accepts call.methodName 0 call.arguments values with
    | none => exact absurd (call.fits_iff.2 found) misfit
    | some fault =>
      rw [found] at here
      refine ⟨fault, call.refuses_iff.2 found, fun state => ?_⟩
      simp only [ModelRegister.occur, EventRegister.invokeEvent,
        (EventRegister.call?_eq_some register).2 picks, here.of_fault]
  refused {eventName view values state change fault} ended := by
    unfold ModelRegister.occur at ended
    split at ended
    · cases (Prod.ext_iff.1 ended).2
    · exact (Prod.ext_iff.1 ended).1.symm
  overflowed {eventName view call} picks named {values state change overflow} ended := by
    have here := answers call picks.listed values
    simp only [ModelRegister.occur, EventRegister.invokeEvent,
      (EventRegister.call?_eq_some register).2 picks] at ended
    cases found : firstFault? accepts call.methodName 0 call.arguments values with
    | some fault =>
      rw [found] at here
      rw [here.of_fault] at ended
      cases (Prod.ext_iff.1 ended).2
    | none =>
      rw [found] at here
      obtain ⟨action, decoded, invoked⟩ := here.of_none
      rw [invoked] at ended
      obtain ⟨changed, failed⟩ := Prod.ext_iff.1 ended
      exact keeps named decoded (Prod.ext changed (Except.ok.inj failed))

namespace Game

-- ============================================================ arguments

/-- The sort of a parcel, as the tables of methods name it. -/
def Parcel.sortName : Parcel → String
  | .byte _ => "u8"
  | .int _ => "i32"
  | .text _ => "String"
  | .loot _ => "Loot"

theorem Parcel.of_loot? {parcel : Parcel} {loot : Loot} (found : parcel.loot? = some loot) :
    parcel = .loot loot := by
  cases parcel with
  | loot => exact congrArg Parcel.loot (Option.some.inj found)
  | _ => cases found

/-- Values of the right kind: the integer of a variant for an enum, and a
parcel of the sort that is wanted. -/
def admits (info : ArgumentInfo) (value : ArgValue Parcel) : Bool :=
  match info.kind, value with
  | .enum, .int int =>
    enums.any fun enum => enum.fullName == info.typeFullName && enum.values.any (·.intValue == int)
  | .custom, .custom parcel => parcel.sortName == info.typeFullName
  | kind, value => value.kind == kind

theorem opens_int (type name : String) : ArgShape.int.Opens admits ⟨type, .int, name⟩ :=
  ⟨rfl, fun value => by cases value <;> rfl⟩

theorem opens_string (type name : String) :
    ArgShape.string.Opens admits ⟨type, .string, name⟩ :=
  ⟨rfl, fun value => by cases value <;> rfl⟩

theorem opens_class (name : String) :
    (ArgShape.enum classes).Opens admits ⟨"game::Class", .enum, name⟩ := by
  refine ⟨rfl, fun value => ?_⟩
  cases value with
  | int int =>
    have opened : (classes.ofInt? int).isSome = classes.values.any (·.intValue == int) :=
      List.isSome_findFinIdx?
    have wanted : classes.fullName == "game::Class" := by decide
    have other : (perks.fullName == "game::Class") = false := by decide
    simp only [ArgShape.enum, ArgShape.enumeration, opened, admits, enums, List.any_cons,
      List.any_nil, wanted, other, Bool.true_and, Bool.false_and, Bool.or_false]
  | _ => rfl

theorem opens_loot (name : String) :
    (ArgShape.custom Parcel.loot?).Opens admits ⟨"Loot", .custom, name⟩ := by
  refine ⟨rfl, fun value => ?_⟩
  cases value with
  | custom parcel => cases parcel <;> rfl
  | _ => rfl

-- ============================================================== entities

/-- What an entity is asked for by a call. -/
def Entity.decoded? {ρ : Type} (call : EventCall) (values : List (ArgValue Parcel)) :
    Option (Action Entity ρ) :=
  match call.methodName, values with
  | "rename", .string name :: _ => some (rename name)
  | _, _ => none

theorem Entity.answers {ρ : Type} :
    (register : ModelRegister Entity Parcel ρ).Answers admits decoded? := by
  refine .extend .nothing (List.forall_mem_nil _) ?_ (List.pairwise_singleton _ _) ?_
  · exact List.forall_mem_singleton.2 rfl
  · refine List.forall_mem_singleton.2 (.bind (opens_string _ _) fun found => ?_)
    obtain rfl := ArgShape.of_open_string found
    exact .pure fun _ => rfl

-- =============================================================== players

/-- What a player is asked for by a call: what entities declare is asked of
the entity within. -/
def Player.decoded? (call : EventCall) (values : List (ArgValue Parcel)) :
    Option (Action Player Reply) :=
  if call.typeFullName = Entity.typeName then
    (Entity.decoded? call values).map (·.within entityPart)
  else
    match call.methodName, values with
    | "heal", .int amount :: _ => some (heal amount)
    | "respec", .int int :: _ => (classes.ofInt? int).map respec
    | "recruit", .string name :: .int level :: _ => some (recruitBeside name level)
    | "drain_mana", .int pool :: _ => some (drainMana pool)
    | "taunt", _ => some taunt
    | _, _ => none

theorem Player.answers : register.Answers admits decoded? := by
  have inherited : (ModelRegister.within Entity.register entityPart).Answers admits decoded? := by
    intro call listed values
    obtain rfl := List.mem_singleton.1 listed
    exact Entity.answers.within entityPart _ listed values
  refine .extend inherited ?_ ?_ (by decide) ?_
  · exact List.forall_mem_singleton.2 (by decide)
  · simp [methods, callOf]
  · simp only [methods, List.forall_mem_cons]
    refine ⟨?heal, ?respec, ?recruit, ?drainMana, ?taunt, List.forall_mem_nil _⟩
    case heal =>
      refine .bind (opens_int _ _) fun found => ?_
      obtain rfl := ArgShape.of_open_int found
      exact .pure fun _ => rfl
    case respec =>
      refine .bind (opens_class _) fun found => ?_
      obtain ⟨int, rfl, named⟩ := ArgShape.of_open_enum found
      exact .pure fun _ => congrArg (Option.map respec) named
    case recruit =>
      refine .bind (opens_string _ _) fun found => .bind (opens_int _ _) fun found' => ?_
      obtain rfl := ArgShape.of_open_string found
      obtain rfl := ArgShape.of_open_int found'
      exact .pure fun _ => rfl
    case drainMana =>
      refine .bind (opens_int _ _) fun found => ?_
      obtain rfl := ArgShape.of_open_int found
      exact .pure fun _ => rfl
    case taunt => exact .pure fun _ => rfl

/-- A player whose health would grow too large is not healed at all. -/
theorem Player.heal_overflows {amount : Int32} {player : Player} {change : Change Player}
    {overflow : Overflow} (ended : heal amount player = (change, .error overflow)) :
    change = ⟨player, []⟩ := by
  -- changes of the health are not counted, so its setter comes to its end
  have uncounted : healthProperty.Uncounted := ⟨rfl, rfl⟩
  unfold heal at ended
  split at ended
  next health _ =>
    have ends := layer.overflows_set_of_uncounted uncounted health player
    have healed := (Course.returning_of_ends ends none).symm.trans ended
    cases (Prod.ext_iff.1 healed).2
  next => exact (Prod.ext_iff.1 ended).1.symm

-- ================================================================= shops

/-- What a shop is asked for by a call. -/
def Shop.decoded? (call : EventCall) (values : List (ArgValue Parcel)) :
    Option (Action Shop Bool) :=
  match call.methodName, values with
  | "buy", .custom (.loot loot) :: .int quantity :: _ => some (buy loot quantity)
  | "close", _ => some close
  | _, _ => none

theorem Shop.answers : register.Answers admits decoded? := by
  refine .extend .nothing (List.forall_mem_nil _) ?_ (by decide) ?_
  · simp [methods]
  · simp only [methods, List.forall_mem_cons]
    refine ⟨?buy, ?close, List.forall_mem_nil _⟩
    case buy =>
      refine .bind (opens_loot _) fun found => .bind (opens_int _ _) fun found' => ?_
      obtain ⟨parcel, rfl, unwrapped⟩ := ArgShape.of_open_custom found
      obtain rfl := ArgShape.of_open_int found'
      obtain rfl := Parcel.of_loot? unwrapped
      exact .pure fun _ => rfl
    case close => exact .pure fun _ => rfl

/-- A shop whose gold would grow too large sells nothing. -/
theorem Shop.buy_overflows {loot : Loot} {quantity : Int32} {shop : Shop} {change : Change Shop}
    {overflow : Overflow} (ended : buy loot quantity shop = (change, .error overflow)) :
    change = ⟨shop, []⟩ := by
  unfold buy at ended
  split at ended
  · cases (Prod.ext_iff.1 ended).2
  · split at ended
    · exact (Prod.ext_iff.1 ended).1.symm
    · split at ended
      · exact (Prod.ext_iff.1 ended).1.symm
      · cases (Prod.ext_iff.1 ended).2

-- ================================================================ events

/-- Only healing is asked for under its name. -/
theorem Player.heal_of_decoded? {call : EventCall} {values : List (ArgValue Parcel)}
    {action : Action Player Reply} (named : call.methodName = "heal")
    (decoded : decoded? call values = some action) : ∃ amount, action = heal amount := by
  unfold decoded? Entity.decoded? at decoded
  rw [named] at decoded
  split at decoded
  · cases decoded
  · split at decoded
    · exact ⟨_, (Option.some.inj decoded).symm⟩
    -- what is left goes by other names
    all_goals contradiction

theorem Shop.buy_of_decoded? {call : EventCall} {values : List (ArgValue Parcel)}
    {action : Action Shop Bool} (named : call.methodName = "buy")
    (decoded : decoded? call values = some action) :
    ∃ loot quantity, action = buy loot quantity := by
  unfold decoded? at decoded
  rw [named] at decoded
  split at decoded
  · exact ⟨_, _, (Option.some.inj decoded).symm⟩
  all_goals contradiction

/-- Events of the game run as a whole or do nothing, and those of an entity
come first for a player. -/
theorem events_all_or_nothing {ρ : Type} :
    (Entity.register : ModelRegister Entity Parcel ρ).AllOrNothing admits Entity.decoded? []
      ∧ Player.register.AllOrNothing admits Player.decoded? ["heal"]
      ∧ Shop.register.AllOrNothing admits Shop.decoded? ["buy"]
      ∧ Player.register.calls = (Entity.register : ModelRegister Entity Parcel ρ).calls
        ++ Player.methods.map (·.call) := by
  refine ⟨Entity.answers.allOrNothing ?entity, Player.answers.allOrNothing ?player,
    Shop.answers.allOrNothing ?shop, rfl⟩
  case entity =>
    intro call values action impossible
    cases impossible
  case player =>
    intro call values action named decoded state change overflow ended
    obtain ⟨amount, rfl⟩ := Player.heal_of_decoded? (List.mem_singleton.1 named) decoded
    exact Player.heal_overflows ended
  case shop =>
    intro call values action named decoded state change overflow ended
    obtain ⟨loot, quantity, rfl⟩ := Shop.buy_of_decoded? (List.mem_singleton.1 named) decoded
    exact Shop.buy_overflows ended

/-- Someone who was hurt is healed, whatever is passed behind the amount;
nobody is recruited to the level of a truth, and in the hud nobody taunts. -/
theorem events_of_someone_hurt :
    let hurt : Player := { health := 3 }
    (∃ action : Action Player Player.Reply, (∀ state,
      Player.register.occur "heal" "arena" [.int 5, .bool true] state
        = ((action state).1, .ok (action state).2)) ∧ (action hurt).1.state.health = 8)
      ∧ Player.register.occur "Recruit" "hud" [.string "Bo", .bool true] hurt
        = (⟨hurt, []⟩, .error (.argumentMismatch "recruit" 1 .int))
      ∧ Player.register.occur "Taunt" "hud" [] hurt
        = (⟨hurt, []⟩, .error (.unknownEvent "Taunt")) := by
  intro hurt
  have players := (@events_all_or_nothing Unit).2.1
  refine ⟨?healed, ?recruited, ?taunted⟩
  case healed =>
    have picked : Player.register.call? "heal" "arena"
        = some (Player.callOf "heal" "heal" [⟨"i32", .int, "amount"⟩] [] none) := by decide
    obtain ⟨action, decoded, does⟩ := players.runs
      ((EventRegister.call?_eq_some _).1 picked) [.int 5, .bool true] ((EventCall.fits_iff _).2 rfl)
    obtain rfl : Player.heal 5 = action := Option.some.inj decoded
    exact ⟨_, does, by decide +kernel⟩
  case recruited =>
    have picked : Player.register.call? "Recruit" "hud"
        = some (Player.callOf "Recruit" "recruit"
          [⟨"String", .string, "name"⟩, ⟨"i32", .int, "level"⟩] [] (some "Player")) := by decide
    obtain ⟨fault, refuses, does⟩ := players.refuses
      ((EventRegister.call?_eq_some _).1 picked) [.string "Bo", .bool true]
      fun fits => nomatch (EventCall.fits_iff _).1 fits
    obtain rfl : .argumentMismatch "recruit" 1 .int = fault :=
      Option.some.inj ((EventCall.refuses_iff _).1 refuses)
    exact does hurt
  case taunted =>
    exact players.unknown ((EventRegister.call?_eq_none Player.register).1 rfl) [] hurt

end Game

end DataBinding
