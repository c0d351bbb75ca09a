/-
The order of names is the order of their bytes. Texts are compared
character by character, their encodings byte by byte, and the two agree:
a character with a larger code never has a smaller encoding, whatever
follows either of them (`encodeChar_lt`).

An encoding is a numeral. The first byte tells how many follow, more for
larger codes; among encodings of one length the bytes are the digits of the
code, the heaviest first, so that the first differing byte decides.
-/
import DataBinding.Text.Blank
import Mathlib.Data.String.Basic

namespace DataBinding.Text

-- ========================================================= one character

/-- A leading byte that is no larger decides, or leaves it to what
follows. -/
theorem byte_cons_lt {a b : Nat} {rest others : List UInt8} (le : a ≤ b) (fits : b < 256)
    (goesOn : a = b → rest < others) : UInt8.ofNat a :: rest < UInt8.ofNat b :: others := by
  rw [List.cons_lt_cons_iff]
  rcases Nat.lt_or_eq_of_le le with less | rfl
  · exact Or.inl ((UInt8.ofNat_lt_iff_lt (Nat.lt_trans less fits) fits).2 less)
  · exact Or.inr ⟨rfl, goesOn rfl⟩

/-- No code takes more than three digits behind a leading byte. -/
theorem code_lt (c : Char) : c.val.toNat < 0x110000 := by
  rcases c.valid with below | ⟨-, above⟩
  · exact Nat.lt_trans below (by decide)
  · exact above

/-- The smaller of two characters has the smaller encoding, whatever
follows them. -/
theorem encodeChar_lt {c d : Char} (less : c < d) (rest others : List UInt8) :
    String.utf8EncodeChar c ++ rest < String.utf8EncodeChar d ++ others := by
  have smaller : c.val.toNat < d.val.toNat := less
  have bound : d.val.toNat < 0x110000 := code_lt d
  unfold String.utf8EncodeChar
  generalize c.val.toNat = m at *
  generalize d.val.toNat = n at *
  dsimp only
  -- encodings of different lengths differ in the leading byte, and the one
  -- digit of the shortest encodings differs; a longer one never comes first
  split_ifs <;> try first
    | omega
    | exact byte_cons_lt (by omega) (by omega) fun same => by omega
  -- two digits
  · refine byte_cons_lt (by omega) (by omega) fun first => ?_
    exact byte_cons_lt (by omega) (by omega) fun same => by omega
  -- three digits
  · refine byte_cons_lt (by omega) (by omega) fun first => ?_
    refine byte_cons_lt (by omega) (by omega) fun second => ?_
    exact byte_cons_lt (by omega) (by omega) fun same => by omega
  -- four digits
  · refine byte_cons_lt (by omega) (by omega) fun first => ?_
    refine byte_cons_lt (by omega) (by omega) fun second => ?_
    refine byte_cons_lt (by omega) (by omega) fun third => ?_
    exact byte_cons_lt (by omega) (by omega) fun same => by omega

-- ================================================================= texts

/-- The bytes of a text. -/
def bytes (text : String) : List UInt8 := text.toUTF8.data.toList

/-- A text is encoded character by character. -/
theorem bytes_eq (text : String) : bytes text = text.toList.flatMap String.utf8EncodeChar := by
  unfold bytes
  rw [String.toUTF8_eq_toByteArray, ← String.ofList_toList (s := text),
    String.toByteArray_ofList, String.ofList_toList]
  exact List.toList_data_toByteArray

/-- Encoding keeps the order of lists of characters. -/
theorem encoding_lt {cs ds : List Char} (less : cs < ds) :
    cs.flatMap String.utf8EncodeChar < ds.flatMap String.utf8EncodeChar := by
  induction less with
  | @nil d rest =>
    obtain ⟨first, others, encoded⟩ :=
      List.exists_cons_of_ne_nil (String.utf8EncodeChar_ne_nil (c := d))
    rw [List.flatMap_nil, List.flatMap_cons, encoded]
    exact List.nil_lt_cons _ _
  | rel less => exact encodeChar_lt less _ _
  | cons _ ih => exact List.append_left_lt ih

/-- Texts are ordered as their bytes are. -/
theorem bytes_lt_iff {a b : String} : bytes a < bytes b ↔ a < b := by
  have encoded : ∀ {c d : String}, c < d → bytes c < bytes d := by
    intro c d less
    rw [bytes_eq, bytes_eq]
    exact encoding_lt (String.lt_iff_toList_lt.1 less)
  refine ⟨fun less => ?_, encoded⟩
  by_contra notLess
  rcases lt_or_eq_of_le (String.not_lt.1 notLess) with more | rfl
  · exact List.lt_asymm less (encoded more)
  · exact List.lt_irrefl _ less

end DataBinding.Text
