/-
Sets of code points, written as rising lists of inclusive ranges. A
published character property is thousands of code points but only a few
hundred ranges, and a character near the start of the alphabet is decided
by the first entries alone: the walk stops as soon as a range lies above
the code point asked for.
-/
namespace DataBinding.Text

/-- A set of code points: inclusive ranges, disjoint and in rising order. -/
abbrev Ranges := List (Nat × Nat)

/-- Whether a code point lies in one of the ranges. -/
def Ranges.holds : Ranges → Nat → Bool
  | [], _ => false
  | (low, high) :: rest, c =>
    if c < low then false else c ≤ high || holds rest c

/-- Each range is well formed and lies strictly above the one before. -/
def Ranges.Rising : Nat → Ranges → Prop
  | _, [] => True
  | floor, (low, high) :: rest => floor ≤ low ∧ low ≤ high ∧ Rising (high + 1) rest

/-- Below the floor of a rising list nothing is held. -/
theorem Ranges.holds_eq_false_of_lt {floor c : Nat} {ranges : Ranges}
    (rising : Rising floor ranges) (below : c < floor) : holds ranges c = false := by
  cases ranges with
  | nil => rfl
  | cons range rest =>
    obtain ⟨low, high⟩ := range
    have : c < low := Nat.lt_of_lt_of_le below rising.1
    simp [holds, this]

/-- On a rising list the early stop loses nothing: a code point is held
exactly when some range contains it. -/
theorem Ranges.holds_iff {floor : Nat} {ranges : Ranges} (rising : Rising floor ranges)
    (c : Nat) : holds ranges c = true ↔ ∃ range ∈ ranges, range.1 ≤ c ∧ c ≤ range.2 := by
  induction ranges generalizing floor with
  | nil => simp [holds]
  | cons range rest ih =>
    obtain ⟨low, high⟩ := range
    obtain ⟨-, ordered, risingRest⟩ := rising
    by_cases below : c < low
    · have dead : holds rest c = false := holds_eq_false_of_lt risingRest (by omega)
      have none_rest := mt (ih risingRest).mpr (by simp [dead])
      have : ¬ low ≤ c := by omega
      simp only [holds, below, if_true, List.mem_cons]
      constructor
      · intro absurdity; cases absurdity
      · rintro ⟨range, rfl | inRest, bounds⟩
        · exact absurd bounds.1 this
        · exact absurd ⟨range, inRest, bounds⟩ none_rest
    · have above : low ≤ c := by omega
      simp only [holds, below, if_false, Bool.or_eq_true, decide_eq_true_eq, List.mem_cons]
      constructor
      · rintro (fits | held)
        · exact ⟨(low, high), Or.inl rfl, above, fits⟩
        · obtain ⟨range, inRest, bounds⟩ := (ih risingRest).mp held
          exact ⟨range, Or.inr inRest, bounds⟩
      · rintro ⟨range, rfl | inRest, bounds⟩
        · exact Or.inl bounds.2
        · exact Or.inr ((ih risingRest).mpr ⟨range, inRest, bounds⟩)

end DataBinding.Text
