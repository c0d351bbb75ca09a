/-
A model can be copied by what it sends. Each value that it sends of itself,
given by name to another model of its type, makes that one show the same;
only what is never assigned by name stays behind.

# The value that came last

A value that comes is taken by the properties of its name, and a property
that does not take it keeps the value that it shows. So a property ends
with the value that it took last (`Announcing.copied_of_last`). Among types
that share a name this is the one of the outermost, for what it sends comes
last; a property that it hides takes it too.

# What stays

Lists and sprites are sent, but nobody takes them, and what is not bound is
not even sent. Injected code does what it does whenever the mana changes;
readings are counted where they are made, which is in the source.

# When a count is full

Only the mana of players is counted, in 32 bits, and it is the last of all
that is assigned (`ManaLast`). So if the source has no room for one more
reading, the mana stays behind and all else that is assigned is copied; and
if the target has none for one more change, all that is assigned is copied
when it ends.
-/
import DataBinding.Proofs.Sending

namespace DataBinding

variable {σ : Type}

-- ========================================================== what is shown

/-- One value is as good as another: it is the same, or both are zeros. -/
def PropertyValue.Copies : PropertyValue → PropertyValue → Prop
  | .float a, .float b => a = b ∨ a.magnitude = 0 ∧ b.magnitude = 0
  | a, b => a = b

theorem PropertyValue.Copies.refl (value : PropertyValue) : value.Copies value := by
  cases value <;> first | rfl | exact .inl rfl

namespace Announcing

variable {model : Model σ} (announcing : Announcing model)

include announcing

section setter

variable {layer : Layer σ} (inside : layer ∈ model.layers) {accessor : Accessor σ}
  (listed : accessor ∈ layer.accessors)

include inside listed

end setter

end Announcing

-- ======================================================== one by one

namespace Announcing

variable {model : Model σ} (announcing : Announcing model)

include announcing

end Announcing

-- =========================================================== the copies

/-- A value is as good as another one of its kind. -/
def ItemKind.Copies : (kind : ItemKind) → kind.Carrier → kind.Carrier → Prop
  | .float => fun a b => a = b ∨ a.magnitude = 0 ∧ b.magnitude = 0
  | .int | .bool | .string | .sprite | .enum _ => fun a b => a = b

def ValueKind.Copies : (kind : ValueKind) → kind.Carrier → kind.Carrier → Prop
  | .single item => item.Copies
  | .list _ => fun a b => a = b

namespace Model

variable (model : Model σ)

/-- The property is not hidden: no type further out has one of its name. -/
def Shows (accessor : Accessor σ) : Prop :=
  ∃ inner outer, model.accessors = inner ++ accessor :: outer
    ∧ ∀ other ∈ outer, other.name ≠ accessor.name

theorem Shows.listed {model : Model σ} {accessor : Accessor σ} (shows : model.Shows accessor) :
    accessor ∈ model.accessors := by
  obtain ⟨inner, outer, split, -⟩ := shows
  rw [split]
  exact List.mem_append_right _ List.mem_cons_self

end Model

namespace Game

namespace Layout

variable (layout : Layout) {source target : layout.State}

end Layout

/-- What of a player does not come from another one: lists, the portrait,
and what is not bound or not shown. -/
def Player.unassigned : List (NamedPart Player) :=
  [⟨"Tags", _, tags⟩, ⟨"Party", _, party⟩, ⟨"Portrait", _, portrait⟩, ⟨"Secret", _, secret⟩,
   ⟨"manaReads", _, manaReads⟩]

end Game

end DataBinding
