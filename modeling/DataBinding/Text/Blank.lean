/-
White space: the characters with the Unicode property of that name, and
the three ways the library removes them. Trimming takes them from the
ends only, `withoutBlanks` from everywhere. A zero-width space is not one
of them, a no-break space is.
-/
import DataBinding.Text.Ranges

namespace DataBinding.Text

/-- The property White_Space. -/
def whiteSpace : Ranges :=
  [(0x9, 0xD), (0x20, 0x20), (0x85, 0x85), (0xA0, 0xA0), (0x1680, 0x1680),
   (0x2000, 0x200A), (0x2028, 0x2029), (0x202F, 0x202F), (0x205F, 0x205F),
   (0x3000, 0x3000)]

def isBlank (c : Char) : Bool := whiteSpace.holds c.toNat

/-- A list of characters without the blanks at its end. -/
def trimEndChars (cs : List Char) : List Char := (cs.reverse.dropWhile isBlank).reverse

/-- A list of characters without the blanks at either end. -/
def trimChars (cs : List Char) : List Char := trimEndChars (cs.dropWhile isBlank)

def trim (s : String) : String := String.ofList (trimChars s.toList)

def withoutBlanks (s : String) : String := String.ofList (s.toList.filter (!isBlank ·))

/-- Core's four blanks are among these. -/
theorem isBlank_of_isWhitespace (c : Char) (h : c.isWhitespace = true) : isBlank c = true := by
  simp only [Char.isWhitespace, Bool.or_eq_true, decide_eq_true_eq] at h
  rcases h with ((rfl | rfl) | rfl) | rfl <;> decide

end DataBinding.Text
