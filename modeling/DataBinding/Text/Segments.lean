/-
Cutting texts at separators. A cut keeps every piece, also the empty ones
between neighbouring separators, so that a text with `n` separators has
`n + 1` pieces.
-/
namespace DataBinding.Text

/-- The pieces between the characters for which `sep` holds. -/
def pieces (sep : Char → Bool) : List Char → List (List Char)
  | [] => [[]]
  | c :: rest =>
    if sep c then [] :: pieces sep rest
    else
      match pieces sep rest with
      | [] => [[c]]
      | piece :: more => (c :: piece) :: more

theorem pieces_ne_nil (sep : Char → Bool) (cs : List Char) : pieces sep cs ≠ [] := by
  cases cs with
  | nil => simp [pieces]
  | cons c rest =>
    simp only [pieces]
    split
    · simp
    · split <;> simp

/-- No piece holds a separator. -/
theorem not_sep_of_mem_pieces {sep : Char → Bool} {cs piece : List Char} {c : Char}
    (inPieces : piece ∈ pieces sep cs) (inPiece : c ∈ piece) : sep c = false := by
  induction cs generalizing piece with
  | nil =>
    simp only [pieces, List.mem_singleton] at inPieces
    simp [inPieces] at inPiece
  | cons d rest ih =>
    simp only [pieces] at inPieces
    split at inPieces
    · rcases List.mem_cons.1 inPieces with rfl | inRest
      · simp at inPiece
      · exact ih inRest inPiece
    · next plain =>
      split at inPieces
      · next empty => exact absurd empty (pieces_ne_nil sep rest)
      · next first more found =>
        rcases List.mem_cons.1 inPieces with rfl | inMore
        · rcases List.mem_cons.1 inPiece with rfl | inFirst
          · simpa using plain
          · exact ih (found ▸ List.mem_cons_self) inFirst
        · exact ih (found ▸ List.mem_cons_of_mem _ inMore) inPiece

/-- Pieces of a joined text: the last piece before the seam and the first
after it become neighbours. -/
theorem pieces_append_sep {sep : Char → Bool} {c : Char} (isSep : sep c = true)
    (before after : List Char) :
    pieces sep (before ++ c :: after) = pieces sep before ++ pieces sep after := by
  induction before with
  | nil => simp [pieces, isSep]
  | cons d rest ih =>
    simp only [List.cons_append, pieces, ih]
    split
    · simp
    · next plain =>
      cases found : pieces sep rest with
      | nil => exact absurd found (pieces_ne_nil sep rest)
      | cons piece more => simp

/-- The text after the last `::`, or all of it. -/
def lastSegment (cs : List Char) : List Char :=
  (afterLast cs).getD cs
where
  /-- What follows the last `::`, if there is one. -/
  afterLast : List Char → Option (List Char)
    | [] => none
    | c :: rest =>
      match afterLast rest with
      | some found => some found
      | none =>
        match c, rest with
        | ':', ':' :: tail => some tail
        | _, _ => none

/-- A path with a dot for each `::`, read from the left. -/
def dotted : List Char → List Char
  | ':' :: ':' :: rest => '.' :: dotted rest
  | c :: rest => c :: dotted rest
  | [] => []

/-- What is left of a text after `lead`, if it begins with that. -/
def dropLead? (lead : String) (cs : List Char) : Option (List Char) :=
  if lead.toList.isPrefixOf cs then some (cs.drop lead.toList.length) else none

end DataBinding.Text
