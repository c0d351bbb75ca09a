/-
Events that a model raises after a change. Handlers are called in the
order in which they subscribed, and a call may change the handler itself.
While an event runs it is out of its place; what subscribes meanwhile is
absorbed behind the handlers that were there.
-/
namespace DataBinding

structure ChangeEvent (η : Type) where
  handlers : List η := []
  deriving DecidableEq

namespace ChangeEvent

variable {η : Type} (event : ChangeEvent η)

def subscribe (handler : η) : ChangeEvent η := ⟨event.handlers ++ [handler]⟩

def size : Nat := event.handlers.length

def isEmpty : Bool := event.handlers.isEmpty

/-- Call every handler once; what the calls amount to is listed in their
order. -/
def invoke {β : Type} (run : η → η × β) : ChangeEvent η × List β :=
  let calls := event.handlers.map run
  (⟨calls.map (·.1)⟩, calls.map (·.2))

/-- Take over the handlers of another event, which is empty afterwards. -/
def absorb (other : ChangeEvent η) : ChangeEvent η × ChangeEvent η :=
  (⟨event.handlers ++ other.handlers⟩, {})

/-- The event as it is shown to programmers. -/
def shown : String := "ChangeEvent \x7b handlers: " ++ toString event.size ++ " \x7d"

/-- No handler is lost or called twice. -/
theorem size_invoke {β : Type} (run : η → η × β) :
    (event.invoke run).1.size = event.size ∧ (event.invoke run).2.length = event.size := by
  simp [invoke, size]

end ChangeEvent

end DataBinding
