/-
What the string literals of emitted code say. A name is written into code as
a literal, with escapes for what cannot stand there itself. Reading the
literal as the compiler of that code does gives back the name
(`literalText?_stringLiteral`), so two names never share a literal.

An escape is read without looking at what follows it, although one of them
is written with an eye to it: NUL before an octal digit. So the reading goes
character by character (`spelled?_escapeChar`), and only a code point is
read in several steps, digit by digit up to its brace.

A literal is closed once, and nothing follows the quote that closes it. So no
literal is the beginning of another, and a text begins with one at most
(`literal_unique`).
-/
import DataBinding.Code.Literal
import DataBinding.Text.Digits

namespace DataBinding.Code

open Text

-- ============================================================= reading

/-- What a letter stands for after a backslash. -/
def namedEscape? : Char → Option Char
  | '0' => some '\x00'
  | 't' => some '\t'
  | 'r' => some '\r'
  | 'n' => some '\n'
  | '"' => some '"'
  | '\'' => some '\''
  | '\\' => some '\\'
  | _ => none

/-- The character with a number written in hexadecimal digits. -/
def codePoint? (digits : List Char) : Option Char :=
  (ofDigits? 16 digits).bind fun number =>
    if number.isValidChar then some (Char.ofNat number) else none

/-- The characters that the rest of a string literal stands for, up to the
closing quote at its end. Inside the braces of a code point, `pending` holds
the digits read so far. -/
def spelled? : (pending : Option (List Char)) → List Char → Option (List Char)
  | _, [] => none
  | some digits, c :: rest =>
    if c = '\x7d' then
      (codePoint? digits).bind fun first => (spelled? none rest).map (first :: ·)
    else spelled? (some (digits ++ [c])) rest
  | none, c :: rest =>
    if c = '"' then if rest.isEmpty then some [] else none
    else if c = '\\' then
      match rest with
      | 'u' :: '\x7b' :: digits => spelled? (some []) digits
      | 'x' :: high :: low :: later =>
        (codePoint? [high, low]).bind fun first => (spelled? none later).map (first :: ·)
      | letter :: later =>
        (namedEscape? letter).bind fun first => (spelled? none later).map (first :: ·)
      | [] => none
    else (spelled? none rest).map (c :: ·)

/-- The text of a string literal. -/
def literalText? : Token → Option String
  | .leaf text =>
    match text.toList with
    | '"' :: inner => (spelled? none inner).map String.ofList
    | _ => none
  | _ => none

-- ============================================================== digits

/-- A digit is worth what it was written for, and is no brace. -/
theorem digitValue?_digitChar :
    ∀ digit < 16, digitValue? digit.digitChar = some digit ∧ digit.digitChar ≠ '\x7d' := by
  decide

/-- Digits read one by one join those before them. -/
theorem spelled?_hexadecimal (number : Nat) (digits rest : List Char) :
    spelled? (some digits) (hexadecimal number ++ rest)
      = spelled? (some (digits ++ hexadecimal number)) rest := by
  induction number using Nat.strongRecOn generalizing digits rest with
  | _ number ih =>
    have step : ∀ digit < 16, ∀ before after : List Char,
        spelled? (some before) (digit.digitChar :: after)
          = spelled? (some (before ++ [digit.digitChar])) after := by
      intro digit small before after
      rw [spelled?, if_neg (digitValue?_digitChar digit small).2]
    unfold hexadecimal at ih ⊢
    rw [Nat.toDigits_eq_if (by decide)]
    by_cases small : number < 16
    · rw [if_pos small]
      exact step number small digits rest
    · rw [if_neg small, List.append_assoc, ih (number / 16) (by omega), List.singleton_append,
        step (number % 16) (Nat.mod_lt _ (by decide)), List.append_assoc]

/-- Hexadecimal digits write their number. -/
theorem ofDigits?_hexadecimal (number : Nat) : ofDigits? 16 (hexadecimal number) = some number := by
  induction number using Nat.strongRecOn with
  | _ number ih =>
    unfold hexadecimal ofDigits? at ih ⊢
    rw [Nat.toDigits_eq_if (by decide)]
    by_cases small : number < 16
    · rw [if_pos small]
      simp [(digitValue?_digitChar number small).1, small]
    · have last : number % 16 < 16 := Nat.mod_lt _ (by decide)
      rw [if_neg small, List.foldlM_append, ih (number / 16) (by omega)]
      simp [(digitValue?_digitChar (number % 16) last).1, last, Nat.div_add_mod]

/-- The number of a character names it. -/
theorem codePoint?_hexadecimal (c : Char) : codePoint? (hexadecimal c.toNat) = some c := by
  unfold codePoint?
  have isCharacter : c.toNat.isValidChar := c.valid
  rw [ofDigits?_hexadecimal, Option.bind_some, if_pos isCharacter, Char.ofNat_toNat]

-- ============================================================ literals

/-- An escaped character is read back, whatever follows. -/
theorem spelled?_escapeChar (c : Char) (next : Option Char) (rest : List Char) :
    spelled? none (escapeChar c next ++ rest) = (spelled? none rest).map (c :: ·) := by
  -- between its braces a code point is read digit by digit
  have byNumber : spelled? none ('\\' :: 'u' :: '\x7b' :: (hexadecimal c.toNat ++ '\x7d' :: rest))
      = (spelled? none rest).map (c :: ·) := by
    show spelled? (some []) _ = _
    rw [spelled?_hexadecimal, List.nil_append, spelled?, if_pos rfl, codePoint?_hexadecimal]
    rfl
  unfold escapeChar
  split
  · next isNul =>
    rw [isNul]
    split <;> rfl
  split
  · next isTab =>
    rw [isTab]
    rfl
  split
  · next isReturn =>
    rw [isReturn]
    rfl
  split
  · next isBreak =>
    rw [isBreak]
    rfl
  split
  · next isDelimiter =>
    rw [Bool.or_eq_true, decide_eq_true_eq, decide_eq_true_eq] at isDelimiter
    rcases isDelimiter with isQuote | isBackslash
    · rw [isQuote]
      rfl
    · rw [isBackslash]
      rfl
  · next isOrdinary =>
    split
    · rw [List.append_assoc, List.append_assoc]
      exact byNumber
    · rw [Bool.or_eq_true, decide_eq_true_eq, decide_eq_true_eq, not_or] at isOrdinary
      rw [List.singleton_append, spelled?.eq_def]
      dsimp only
      rw [if_neg isOrdinary.1, if_neg isOrdinary.2]

/-- Escaped characters are read back. -/
theorem spelled?_escapeChars (cs : List Char) :
    spelled? none (escapeChars cs ++ ['"']) = some cs := by
  induction cs with
  | nil => rfl
  | cons c rest ih => rw [escapeChars, List.append_assoc, spelled?_escapeChar, ih, Option.map_some]

/-- The literal of a text says that text. -/
theorem literalText?_stringLiteral (text : String) :
    literalText? (stringLiteral text) = some text := by
  have quoted : ("\"" ++ String.ofList (escapeChars text.toList) ++ "\"").toList
      = '"' :: (escapeChars text.toList ++ ['"']) := by
    simp [String.toList_append]
  unfold stringLiteral literalText?
  simp only [quoted]
  rw [spelled?_escapeChars, Option.map_some, String.ofList_toList]

-- ====================================================== where one ends

/-- A literal ends where it is closed: with more behind it a text is none. -/
theorem spelled?_append {pending : Option (List Char)} {cs more text : List Char}
    (spelled : spelled? pending cs = some text) (goesOn : more ≠ []) :
    spelled? pending (cs ++ more) = none := by
  -- a character that stands for itself, or has been decoded, leaves it to
  -- the rest of the text
  have passed : ∀ {rest text : List Char} {first : Char},
      (spelled? none rest).map (first :: ·) = some text →
      (∀ {text}, spelled? none rest = some text → spelled? none (rest ++ more) = none) →
      (spelled? none (rest ++ more)).map (first :: ·) = none := by
    intro rest text first read ends
    obtain ⟨_, read, -⟩ := Option.map_eq_some_iff.1 read
    rw [ends read, Option.map_none]
  fun_induction spelled? pending cs generalizing text with
  | case1 => cases spelled
  | case2 digits rest ih =>
    obtain ⟨first, decoded, read⟩ := Option.bind_eq_some_iff.1 spelled
    rw [List.cons_append, spelled?, if_pos rfl, decoded, Option.bind_some]
    exact passed read ih
  | case3 digits c rest isDigit ih =>
    rw [List.cons_append, spelled?, if_neg isDigit]
    exact ih spelled
  | case4 rest closes =>
    rw [List.isEmpty_iff.1 closes, List.singleton_append, spelled?.eq_def]
    dsimp only
    rw [if_pos rfl, if_neg fun empty => goesOn (List.isEmpty_iff.1 empty)]
  | case5 => cases spelled
  | case6 digits _ ih => exact ih spelled
  | case7 high low later _ ih =>
    obtain ⟨first, decoded, read⟩ := Option.bind_eq_some_iff.1 spelled
    show (codePoint? [high, low]).bind _ = none
    rw [decoded, Option.bind_some]
    exact passed read ih
  | case8 letter later noCodePoint noByte _ ih =>
    obtain ⟨first, decoded, read⟩ := Option.bind_eq_some_iff.1 spelled
    rw [List.cons_append, List.cons_append, spelled?]
    · rw [if_neg (by decide), if_pos rfl, decoded, Option.bind_some]
      exact passed read ih
    -- the letters that open a longer escape name nothing by themselves
    · rintro _ rfl
      cases decoded
    · rintro _ _ _ rfl
      cases decoded
  | case9 => cases spelled
  | case10 c rest noQuote noEscape ih =>
    rw [List.cons_append, spelled?.eq_def]
    dsimp only
    rw [if_neg noQuote, if_neg noEscape]
    exact passed spelled ih

/-- At the front of a text there is one literal at most. -/
theorem literal_unique {literal other rest rest' : String}
    (reads : (literalText? (.leaf literal)).isSome) (reads' : (literalText? (.leaf other)).isSome)
    (same : literal ++ rest = other ++ rest') : literal = other := by
  -- the longer of two literals cannot go on where the shorter is closed
  have closed : ∀ {short long : String} {more : List Char},
      (literalText? (.leaf short)).isSome → (literalText? (.leaf long)).isSome →
      long.toList = short.toList ++ more → more = [] := by
    intro short long more readsShort readsLong longer
    by_cases goesOn : more = []
    · exact goesOn
    exfalso
    simp only [literalText?] at readsShort readsLong
    rw [longer] at readsLong
    split at readsShort
    · next inner quoted =>
      obtain ⟨_, read⟩ := Option.isSome_iff_exists.1 readsShort
      obtain ⟨_, spelled, -⟩ := Option.map_eq_some_iff.1 read
      simp only [quoted, List.cons_append, spelled?_append spelled goesOn] at readsLong
      cases readsLong
    · cases readsShort
  have front := congrArg String.toList same
  rw [String.toList_append, String.toList_append] at front
  refine String.toList_injective ?_
  rcases List.append_eq_append_iff.1 front with ⟨more, longer, -⟩ | ⟨more, longer, -⟩
  · rw [longer, closed reads reads' longer, List.append_nil]
  · rw [longer, closed reads' reads longer, List.append_nil]

end DataBinding.Code
