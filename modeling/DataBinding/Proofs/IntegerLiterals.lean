/-
What the integer literals of emitted code say. An integer is written into
code as decimal digits with the suffix of its type; a negative one has its
sign before them, as a token of its own. Reading that as the compiler of the
code does gives back the integer, up to both ends of the range
(`literalInt?_intLiteral`).

Digits are read from the first on, so the number so far is that of the
digits before (`wholeDigits?_toDigits`). What a number begins with could name
another base, and what follows its digits could belong to them; neither
happens with digits that are decimal and a suffix that begins with a letter.
-/
import DataBinding.Code.Literal
import DataBinding.Code.Number
import DataBinding.Proofs.Documents

namespace DataBinding.Code

open Text

-- ============================================================== reading

/-- The value of a number whose suffix makes it one of 32 bits. -/
def magnitude? (text : String) : Option Nat :=
  (wholeNumber? text.toList).bind fun (value, suffix) =>
    if suffix = "i32".toList then some value else none

/-- The integer that a literal says, with a sign before it or without. -/
def literalInt? : Tokens → Option Int32
  | [.leaf text] => (magnitude? text).bind fun value => int32? value
  | [.leaf sign, .leaf text] =>
    if sign = "-" then (magnitude? text).bind fun value => int32? (-value) else none
  | _ => none

-- =============================================================== digits

/-- A decimal digit is worth what it was written for. -/
theorem digitChar_decimal :
    ∀ digit < 10, digit.digitChar ≠ '_' ∧ isDigit digit.digitChar = true
      ∧ digitValue? digit.digitChar = some digit := by
  decide

/-- Reading a decimal digit appends it to the value so far. -/
theorem wholeDigits?_digitChar {digit : Nat} (small : digit < 10) (value : Nat) (hasDigit : Bool)
    (rest : List Char) :
    wholeDigits? 10 value hasDigit (digit.digitChar :: rest)
      = wholeDigits? 10 (10 * value + digit) true rest := by
  obtain ⟨noBlank, isDecimal, worth⟩ := digitChar_decimal digit small
  rw [wholeDigits?.eq_def]
  simp only [if_neg noBlank, if_pos (Or.inl isDecimal), worth, if_pos small]

/-- Decimal digits write their number. -/
theorem wholeDigits?_toDigits (number : Nat) (hasDigit : Bool) (rest : List Char) :
    wholeDigits? 10 0 hasDigit (Nat.toDigits 10 number ++ rest)
      = wholeDigits? 10 number true rest := by
  induction number using Nat.strongRecOn generalizing rest with
  | _ number ih =>
    rw [Nat.toDigits_eq_if (by decide)]
    by_cases small : number < 10
    · rw [if_pos small, List.singleton_append, wholeDigits?_digitChar small, Nat.mul_zero,
        Nat.zero_add]
    · rw [if_neg small, List.append_assoc, ih (number / 10) (by omega), List.singleton_append,
        wholeDigits?_digitChar (Nat.mod_lt _ (by decide)), Nat.div_add_mod]

/-- Without the letters that name another base, digits are decimal. -/
theorem numberBase_of_decimal {cs : List Char} (plain : ∀ c ∈ cs, c ∉ ['x', 'o', 'b']) :
    numberBase cs = (10, cs) := by
  unfold numberBase
  split
  · exact absurd (by decide) (plain 'x' (by simp))
  · exact absurd (by decide) (plain 'o' (by simp))
  · exact absurd (by decide) (plain 'b' (by simp))
  · rfl

/-- The digits of a number and the suffix behind them say the number. -/
theorem magnitude?_toString (number : Nat) :
    magnitude? (toString number ++ "i32") = some number := by
  have written : (toString number ++ "i32").toList = Nat.toDigits 10 number ++ "i32".toList := by
    rw [String.toList_append, Nat.toString_eq_repr, Nat.toList_repr]
  have decimal : ∀ c ∈ Nat.toDigits 10 number, isDigit c = true := fun c inside =>
    Nat.isDigit_of_mem_toDigits (by decide) (by decide) inside
  have plain : ∀ c ∈ Nat.toDigits 10 number ++ "i32".toList, c ∉ ['x', 'o', 'b'] := by
    intro c inside letter
    have letters : ['x', 'o', 'b'].all (fun c => !isDigit c && c ∉ "i32".toList) = true := by
      decide
    have apart := List.all_eq_true.1 letters c letter
    rw [Bool.and_eq_true, Bool.not_eq_true', decide_eq_true_eq] at apart
    obtain ⟨noDigit, noSuffix⟩ := apart
    rcases List.mem_append.1 inside with digit | suffix
    · rw [decimal c digit] at noDigit
      cases noDigit
    · exact noSuffix suffix
  have first : (Nat.toDigits 10 number ++ "i32".toList).head?.any isDigit = true := by
    rw [List.head?_append, List.head?_eq_some_head Nat.toDigits_ne_nil]
    exact decimal _ (List.head_mem _)
  have suffix : wholeDigits? 10 number true "i32".toList = some (number, "i32".toList) := by
    have isWord : isSuffix ['i', '3', '2'] = true := by decide +kernel
    show wholeDigits? 10 number true ['i', '3', '2'] = _
    rw [wholeDigits?, if_neg (by decide)]
    simp only [show ¬ (isDigit 'i' = true ∨ 10 = 16) by decide, if_false]
    rw [if_neg (by decide), if_pos ⟨trivial, isWord⟩]
    rfl
  unfold magnitude? wholeNumber?
  rw [written, numberBase_of_decimal plain]
  simp only [first, if_true, wholeDigits?_toDigits, suffix, Option.bind_some]

-- ============================================================= literals

/-- What an emitted integer says is the integer. -/
theorem literalInt?_intLiteral (value : Int32) : literalInt? (intLiteral value) = some value := by
  unfold intLiteral
  split
  · next negative =>
    have below : value.toInt < 0 := Int32.lt_iff_toInt_lt.1 negative
    show (if "-" = "-" then (magnitude? (toString value.toInt.natAbs ++ "i32")).bind _ else none)
      = _
    rw [if_pos rfl, magnitude?_toString, Option.bind_some,
      show -(value.toInt.natAbs : Int) = value.toInt by omega, int32?_toInt]
  · next positive =>
    have above : ¬ value.toInt < 0 := fun below => positive (Int32.lt_iff_toInt_lt.2 below)
    show (magnitude? (toString value.toInt.natAbs ++ "i32")).bind _ = _
    rw [magnitude?_toString, Option.bind_some,
      show (value.toInt.natAbs : Int) = value.toInt by omega, int32?_toInt]

/-- No mark stands in a literal but the sign. -/
theorem not_mem_of_literalInt? {literal : Tokens} {int : Int32}
    (means : literalInt? literal = some int) {mark : String} (noSign : mark ≠ "-")
    (noNumber : magnitude? mark = none) : .leaf mark ∉ literal := by
  intro inside
  unfold literalInt? at means
  split at means
  · cases List.mem_singleton.1 inside
    rw [noNumber] at means
    cases means
  · split at means
    · next sign text isSign =>
      rcases List.mem_cons.1 inside with same | last
      · cases same
        exact noSign isSign
      · cases List.mem_singleton.1 last
        rw [noNumber] at means
        cases means
    · cases means
  · cases means

end DataBinding.Code
