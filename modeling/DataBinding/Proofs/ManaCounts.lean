/-
The two counts that a player keeps of the mana. Each reading is counted in
front of the getter, and each change behind the write, in 32 bits. What the
code around the mana leaves is said here once, whether there is room for one
more or not; no other property of players has such code.
-/
import DataBinding.Game.Player
import DataBinding.Proofs.Setters

namespace DataBinding.Game.Player

/-- Only the mana is counted. -/
theorem uncounted : ∀ accessor ∈ layer.accessors, accessor.name ≠ "Mana" →
    accessor.Uncounted := by
  simp only [layer, List.forall_mem_cons, List.not_mem_nil, false_implies, implies_true, and_true]
  and_intros <;> intro other <;> first | exact ⟨rfl, rfl⟩ | exact absurd rfl other

/-- With or without room, only the count is another one afterwards. -/
theorem seen_mana (player : Player) : manaProperty.seen player
    = { player with
        manaReads := (uint32? (player.manaReads.toNat + 1)).getD player.manaReads } := by
  show (Option.map _ (uint32? (player.manaReads.toNat + 1))).getD player = _
  cases uint32? (player.manaReads.toNat + 1) <;> rfl

theorem settled_mana (player : Player) : manaProperty.settled player
    = { player with
        manaChanges := (uint32? (player.manaChanges.toNat + 1)).getD player.manaChanges } := by
  show (Option.map _ (uint32? (player.manaChanges.toNat + 1))).getD player = _
  cases uint32? (player.manaChanges.toNat + 1) <;> rfl

/-- What a change of the mana leaves. -/
theorem written_mana (mana : Int32) (player : Player) : manaProperty.written mana player
    = { player with
        mana := mana
        manaHistory := player.manaHistory ++ [player.mana]
        manaChanges := (uint32? (player.manaChanges.toNat + 1)).getD player.manaChanges } :=
  settled_mana _

end DataBinding.Game.Player
