/-
Methods that are called by event. A method reads its arguments and then is
an action on the state: so a call that cannot be read does nothing. A type
knows its own methods; a call of another type's method goes on to what it
embeds, and in the end to nobody.
-/
import DataBinding.CheckedInt
import DataBinding.Live.Change
import DataBinding.Live.EventCall

namespace DataBinding

/-- What calling a method does; `ρ` are the values that methods return. -/
abbrev Action (σ ρ : Type) := σ → Change σ × Except Overflow (Option ρ)

/-- A method that ends with an operation: what it returns if that one comes
to its end. -/
def Course.returning {σ ρ : Type} (course : Course σ) (result : Option ρ) :
    Change σ × Except Overflow (Option ρ) :=
  (course.toChange, if course.overflows then .error {} else .ok result)

theorem Course.returning_of_ends {σ ρ : Type} {course : Course σ} (ends : course.overflows = false)
    (result : Option ρ) : course.returning result = (course.toChange, .ok result) := by
  unfold returning
  rw [ends]
  rfl

namespace Action

variable {σ τ ρ : Type}

/-- Nothing. -/
def idle : Action σ ρ := fun state => (⟨state, []⟩, .ok none)

/-- The action on a part of a whole. -/
def within (action : Action τ ρ) (outer : Part σ τ) : Action σ ρ := fun whole =>
  let (change, result) := action (outer.get whole)
  (change.within outer whole, result)

end Action

/-- A method with its entry in the table of event calls. -/
structure Method (σ κ ρ : Type) where
  call : EventCall
  reading : ReadArgs κ (Action σ ρ)

/-- The event calls of a model. -/
abbrev ModelRegister (σ κ ρ : Type) := EventRegister κ (Action σ ρ)

namespace ModelRegister

variable {σ τ κ ρ : Type}

/-- A type that embeds none with event calls. -/
def nothing : ModelRegister σ κ ρ := ⟨[], fun _ _ => .ok Action.idle⟩

/-- The methods of a type on top of those of what it embeds. -/
def extend (embedded : ModelRegister σ κ ρ) (typeFullName : String)
    (methods : List (Method σ κ ρ)) : ModelRegister σ κ ρ where
  calls := embedded.calls ++ methods.map (·.call)
  invoke call values :=
    if call.typeFullName = typeFullName then
      match methods.find? (·.call.methodName == call.methodName) with
      | some method => readArgs call values method.reading
      | none => .ok Action.idle
    else embedded.invoke call values

/-- The event calls of a part of a whole. -/
def within (register : ModelRegister τ κ ρ) (outer : Part σ τ) : ModelRegister σ κ ρ where
  calls := register.calls
  invoke call values := (register.invoke call values).map (·.within outer)

end ModelRegister

end DataBinding
