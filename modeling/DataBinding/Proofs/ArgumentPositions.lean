/-
Reading the arguments of a call one after the other, each as what it is
wanted as. A reader holds the values that are left, and counts its readings.
The two are kept apart: what it opens comes from the values, what it says
about positions from the count.

# In step

After `i` readings the count is `i` and the first `i` values are gone
(`EventCall.argsAt`), and that is all there is to know of a reader. A reading
leads from position `i` to position `i + 1` whether there is a value or not,
and whether it has the wanted shape or not (`read_argsAt`). So each of any
number of readings is about its own position, whatever came of those before
it (`readAll_argsAt`).

# Shapes

Which values have a wanted shape, and what they hold then, is said by a
relation on values (`Wanted.Shows`) beside the functions that open them.
-/
import DataBinding.Game.Enums
import DataBinding.Game.Parcel

namespace DataBinding

variable {κ : Type}

-- =============================================================== shapes

/-- What an argument is wanted as. -/
inductive Wanted (κ : Type) : Type 1
  | int
  | float
  | bool
  | string
  | sprite
  /-- A value of a type that travels as integers, by what these stand for. -/
  | enumeration {α : Type} (ofInt? : Int32 → Option α)
  /-- A value of a type that is passed unopened. -/
  | custom {α : Type} (unwrap? : κ → Option α)

namespace Wanted

/-- What it is read to. -/
def Result : Wanted κ → Type
  | .int => Int32
  | .float => Single
  | .bool => Bool
  | .string => String
  | .sprite => Sprite
  | @enumeration _ α _ => α
  | @custom _ α _ => α

def kind : Wanted κ → ArgumentKind
  | .int => .int
  | .float => .float
  | .bool => .bool
  | .string => .string
  | .sprite => .sprite
  | .enumeration _ => .enum
  | .custom _ => .custom

/-- How it is read. -/
def shape : (wanted : Wanted κ) → ArgShape κ wanted.Result
  | .int => .int
  | .float => .float
  | .bool => .bool
  | .string => .string
  | .sprite => .sprite
  | .enumeration ofInt? => .enumeration ofInt?
  | .custom unwrap? => .custom unwrap?

/-- A value has the wanted shape, and this is what it holds. -/
inductive Shows : (wanted : Wanted κ) → ArgValue κ → wanted.Result → Prop
  | int (held : Int32) : Shows .int (.int held) held
  | float (held : Single) : Shows .float (.float held) held
  | bool (held : Bool) : Shows .bool (.bool held) held
  | string (held : String) : Shows .string (.string held) held
  | sprite (held : Sprite) : Shows .sprite (.sprite held) held
  | enumeration {α : Type} {ofInt? : Int32 → Option α} {int : Int32} {held : α}
      (standsFor : ofInt? int = some held) : Shows (.enumeration ofInt?) (.int int) held
  | custom {α : Type} {unwrap? : κ → Option α} {boxed : κ} {held : α}
      (unwrapped : unwrap? boxed = some held) : Shows (.custom unwrap?) (.custom boxed) held

variable {wanted : Wanted κ} {value : ArgValue κ} {held : wanted.Result}

theorem kind_shape (wanted : Wanted κ) : wanted.shape.kind = wanted.kind := by
  cases wanted <;> rfl

theorem Shows.opens (found : wanted.Shows value held) :
    wanted.shape.open? value = some held := by
  cases found with
  | enumeration standsFor => exact standsFor
  | custom unwrapped => exact unwrapped
  | _ => rfl

/-- Nothing else is opened. -/
theorem shows_of_opens : ∀ {wanted : Wanted κ} {value : ArgValue κ} {held : wanted.Result},
    wanted.shape.open? value = some held → wanted.Shows value held
  | .int, .int held, _, rfl => .int held
  | .float, .float held, _, rfl => .float held
  | .bool, .bool held, _, rfl => .bool held
  | .string, .string held, _, rfl => .string held
  | .sprite, .sprite held, _, rfl => .sprite held
  | .enumeration _, .int _, _, standsFor => .enumeration standsFor
  | .custom _, .custom _, _, unwrapped => .custom unwrapped

end Wanted

-- ========================================================== one reading

/-- The reader of the arguments of a call, at a position. -/
def EventCall.argsAt (call : EventCall) (values : List (ArgValue κ)) (i : Nat) : Args κ where
  method := call.methodName
  values := values.drop i
  index := i

section Reading

variable {α : Type} {call : EventCall} {values : List (ArgValue κ)} {i : Nat}
  {shape : ArgShape κ α} {value : ArgValue κ}

theorem head?_argsAt : (call.argsAt values i).values.head? = values[i]? :=
  List.head?_drop

theorem drop_argsAt : (call.argsAt values i).values.drop 1 = values.drop (i + 1) :=
  List.drop_drop

theorem read_of_missing (beyond : values.length ≤ i) :
    (call.argsAt values i).read shape
      = (.error (.missingArgument call.methodName i), call.argsAt values (i + 1)) := by
  have none_ : values[i]? = none := List.getElem?_eq_none beyond
  simp only [Args.read, head?_argsAt, drop_argsAt, none_]
  rfl

theorem read_of_opened {held : α} (here : values[i]? = some value)
    (opens : shape.open? value = some held) :
    (call.argsAt values i).read shape = (.ok held, call.argsAt values (i + 1)) := by
  simp only [Args.read, head?_argsAt, drop_argsAt, here, opens]
  rfl

theorem read_of_mismatched (here : values[i]? = some value) (opens : shape.open? value = none) :
    (call.argsAt values i).read shape
      = (.error (.argumentMismatch call.methodName i shape.kind),
          call.argsAt values (i + 1)) := by
  simp only [Args.read, head?_argsAt, drop_argsAt, here, opens]
  rfl

end Reading

/-- What comes of reading the value at a position as what is wanted. -/
structure ReadsAt (method : String) (values : List (ArgValue κ)) (i : Nat) (wanted : Wanted κ)
    (result : Except InvokeFault wanted.Result) : Prop where
  missing : values.length ≤ i → result = .error (.missingArgument method i)
  opened : ∀ value held, values[i]? = some value → wanted.Shows value held → result = .ok held
  mismatched : ∀ value, values[i]? = some value → (∀ held, ¬ wanted.Shows value held) →
    result = .error (.argumentMismatch method i wanted.kind)

/-- A reading is about the value at its position, and leads to the next one in
any case. -/
theorem read_argsAt (call : EventCall) (values : List (ArgValue κ)) (i : Nat)
    (wanted : Wanted κ) :
    ReadsAt call.methodName values i wanted ((call.argsAt values i).read wanted.shape).1
      ∧ ((call.argsAt values i).read wanted.shape).2 = call.argsAt values (i + 1) := by
  by_cases beyond : values.length ≤ i
  · have none_ : values[i]? = none := List.getElem?_eq_none beyond
    rw [read_of_missing beyond]
    exact ⟨⟨fun _ => rfl, by simp [none_], by simp [none_]⟩, rfl⟩
  · have inside : i < values.length := by omega
    have here : values[i]? = some values[i] := List.getElem?_eq_getElem inside
    -- there is one value at the position, and what it opens to settles both other cases
    have only : ∀ value, values[i]? = some value → value = values[i] := by
      intro value there
      rw [here] at there
      exact (Option.some.inj there).symm
    cases opens : wanted.shape.open? values[i] with
    | some held =>
      rw [read_of_opened here opens]
      have found := Wanted.shows_of_opens opens
      refine ⟨⟨fun short => absurd short beyond, ?_, ?_⟩, rfl⟩
      · intro value other there finds
        have opens' := finds.opens
        rw [only value there, opens] at opens'
        rw [Option.some.inj opens']
      · intro value there lacks
        rw [only value there] at lacks
        exact absurd found (lacks held)
    | none =>
      rw [read_of_mismatched here opens, wanted.kind_shape]
      refine ⟨⟨fun short => absurd short beyond, ?_, fun _ _ _ => rfl⟩, rfl⟩
      intro value held there finds
      have opens' := finds.opens
      rw [only value there, opens] at opens'
      cases opens'

-- ============================================================== in turn

/-- What was wanted, with what came of it. -/
abbrev Answer (κ : Type) : Type 1 := (wanted : Wanted κ) × Except InvokeFault wanted.Result

/-- Read one argument after the other, also behind faults. -/
def Args.readAll (args : Args κ) : List (Wanted κ) → List (Answer κ) × Args κ
  | [] => ([], args)
  | wanted :: rest =>
    let (result, left) := args.read wanted.shape
    let (answers, last) := left.readAll rest
    (⟨wanted, result⟩ :: answers, last)

/-- What a reader answers from a position on, and what it is then. -/
structure ReadsFrom (call : EventCall) (values : List (ArgValue κ)) (i : Nat)
    (wanted : List (Wanted κ)) (answers : List (Answer κ)) (left : Args κ) : Prop where
  asked : answers.map (·.1) = wanted
  positions : ∀ j answer, answers[j]? = some answer →
    ReadsAt call.methodName values (i + j) answer.1 answer.2
  left : left = call.argsAt values (i + wanted.length)

/-- Each reading that follows is one position further on. -/
theorem readAll_argsAt (call : EventCall) (values : List (ArgValue κ)) (i : Nat)
    (wanted : List (Wanted κ)) :
    ReadsFrom call values i wanted ((call.argsAt values i).readAll wanted).1
      ((call.argsAt values i).readAll wanted).2 := by
  -- the position is left free, since every reading moves it
  induction wanted generalizing i with
  | nil => exact ⟨rfl, nofun, rfl⟩
  | cons wanted rest ih =>
    obtain ⟨reads, next⟩ := read_argsAt call values i wanted
    have later := ih (i + 1)
    simp only [Args.readAll, next]
    constructor
    · rw [List.map_cons, later.asked]
    · intro j answer among
      cases j with
      | zero =>
        cases among
        exact reads
      | succ j =>
        have there := later.positions j answer among
        rwa [Nat.add_right_comm] at there
    · rw [later.left, List.length_cons, Nat.add_right_comm, Nat.add_assoc]

/-- Arguments are read by position. Each reading has an answer, and the `i`-th
one is about the `i`-th value alone, whatever came of the others: there is no
such value, or it has the wanted shape and is opened, or it is a mismatch. Of
the values as many are gone as were read, no more and no fewer. -/
theorem arguments_read_in_turn (call : EventCall) (values : List (ArgValue κ))
    (wanted : List (Wanted κ)) :
    let (answers, left) := Args.readAll { method := call.methodName, values := values } wanted
    answers.map (·.1) = wanted
      ∧ (∀ i answer, answers[i]? = some answer →
          ReadsAt call.methodName values i answer.1 answer.2)
      ∧ left = ⟨call.methodName, values.drop wanted.length, wanted.length⟩ := by
  have reads := readAll_argsAt call values 0 wanted
  refine ⟨reads.asked, fun i answer among => ?_, ?_⟩
  · have here := reads.positions i answer among
    rwa [Nat.zero_add] at here
  · have left := reads.left
    rwa [Nat.zero_add] at left

-- =============================================================== a toll

namespace Game

/-- What is asked of somebody at a bridge. -/
def toll : EventCall where
  eventName := "Toll"
  views := []
  methodName := "toll"
  typeFullName := "game::Bridge"
  arguments := []
  returnType := none

def tollPaid : List (ArgValue Parcel) :=
  [.bool true, .int 9, .int 1, .custom (.loot ⟨"Bow", 3⟩), .string "Ada"]

def tollWanted : List (Wanted Parcel) :=
  [.int, .enumeration classes.ofInt?, .enumeration classes.ofInt?, .custom Parcel.loot?, .string,
    .sprite]

/-- The first value is no integer and the second one no class, but the others
are read where they stand. There is no sixth one. -/
theorem toll_read_in_turn :
    let (answers, left) := Args.readAll { method := toll.methodName, values := tollPaid } tollWanted
    answers = [⟨.int, .error (.argumentMismatch "toll" 0 .int)⟩,
        ⟨.enumeration classes.ofInt?, .error (.argumentMismatch "toll" 1 .enum)⟩,
        ⟨.enumeration classes.ofInt?, .ok ⟨1, by decide⟩⟩,
        ⟨.custom Parcel.loot?, .ok ⟨"Bow", 3⟩⟩, ⟨.string, .ok "Ada"⟩,
        ⟨.sprite, .error (.missingArgument "toll" 5)⟩]
      ∧ ReadsAt "toll" tollPaid 1 (.enumeration classes.ofInt?)
          (.error (.argumentMismatch "toll" 1 .enum))
      ∧ ReadsAt "toll" tollPaid 3 (.custom Parcel.loot?) (.ok ⟨"Bow", 3⟩)
      ∧ ReadsAt "toll" tollPaid 5 .sprite (.error (.missingArgument "toll" 5))
      ∧ left = ⟨"toll", [], 6⟩ := by
  obtain ⟨-, positions, left⟩ := arguments_read_in_turn toll tollPaid tollWanted
  exact ⟨rfl, positions 1 _ rfl, positions 3 _ rfl, positions 5 _ rfl, left⟩

end Game

end DataBinding
