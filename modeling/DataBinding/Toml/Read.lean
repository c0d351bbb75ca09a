/-
Reading TOML. A text is a sequence of lines: blank, a key with its value,
or the header of the table that the following keys belong to. Values nest
in arrays and inline tables, both of which may run over several lines and
end with a comma.
-/
import DataBinding.Toml.Scalar
import DataBinding.Toml.Table

namespace DataBinding.Toml

-- ================================================================= gaps

/-- A comment, if one begins here, up to the end of its line; none if it
holds a control. -/
def skipComment : List Char → Option (List Char)
  | '#' :: rest =>
    let body := rest.takeWhile fun c => c != '\n' && c != '\r'
    if body.all isPlain then some (rest.drop body.length) else none
  | cs => some cs

/-- Blanks, comments and line breaks. The number bounds the lines. -/
def skipLines : Nat → List Char → Option (List Char)
  | 0, _ => none
  | bound + 1, cs =>
    match skipComment (dropSpaces cs) with
    | none => none
    | some rest =>
      match lineBreak? rest with
      | some after => skipLines bound after
      | none => some rest

def skipGap (cs : List Char) : Option (List Char) := skipLines (cs.length + 1) cs

/-- What ends a line: a comment at most, and a line break unless the text
ends. -/
def lineEnd (cs : List Char) : Option (List Char) :=
  match skipComment (dropSpaces cs) with
  | some [] => some []
  | some rest => lineBreak? rest
  | none => none

-- =============================================================== values

/-- A key and the place of its value. The gaps around the equals sign are
blanks on a line, and may be whole lines in an inline table. -/
def keyEquals (skip : List Char → Option (List Char)) : Reader (List String) := fun cs => do
  let (keys, after) ← key cs
  match ← skip after with
  | '=' :: rest => return (keys, ← skip rest)
  | _ => none

/-- The rest of a bracketed list after its opening: items with commas, of
which the last may be missing, and gaps all around. -/
def listRest {α : Type} (closing : Char) (item : Reader α) : Nat → Reader (List α)
  | 0, _ => none
  | bound + 1, cs =>
    match skipGap cs with
    | none => none
    | some [] => none
    | some (c :: rest) =>
      if c = closing then some ([], rest)
      else
        match item (c :: rest) with
        | none => none
        | some (first, after) =>
          match skipGap after with
          | some (',' :: more) =>
            (listRest closing item bound more).map fun (others, left) => (first :: others, left)
          | some (d :: more) => if d = closing then some ([first], more) else none
          | _ => none

/-- The entries of an inline table as its document. -/
def inlineTable (entries : List (List String × Document)) : Option Document :=
  (entries.foldlM (fun table (keys, value) => addAt keys value table) []).map fun table =>
    .record (entriesDocument table)

/-- A value without brackets. -/
def plainValue : Reader Document
  | [] => none
  | c :: rest =>
    if c = '"' ∨ c = '\'' then (text (c :: rest)).map fun (found, left) => (.text found, left)
    else
      let word := plainWord (c :: rest)
      (wordValue? word).map (·, (c :: rest).drop word.length)

/-- A value. The number bounds the brackets in one another. -/
def value : Nat → Reader Document
  | 0, cs => plainValue cs
  | depth + 1, cs =>
    match cs with
    | '[' :: rest =>
      (listRest ']' (value depth) (rest.length + 1) rest).map fun (items, left) =>
        (.list items, left)
    | '\x7b' :: rest =>
      let entry : Reader (List String × Document) := fun cs => do
        let (keys, after) ← keyEquals skipGap cs
        let (found, left) ← value depth after
        return ((keys, found), left)
      match listRest '\x7d' entry (rest.length + 1) rest with
      | some (entries, left) => (inlineTable entries).map (·, left)
      | none => none
    | _ => plainValue cs

-- ================================================================ lines

/-- The table so far, and the path of the table that keys go to. -/
structure Progress where
  entries : Entries := []
  path : List String := []

/-- A header: the keys between its brackets, and whether it is that of an
array. -/
def header : Reader (List String × Bool)
  | '[' :: '[' :: rest =>
    match key rest with
    | some (keys, ']' :: ']' :: left) => some ((keys, true), left)
    | _ => none
  | '[' :: rest =>
    match key rest with
    | some (keys, ']' :: left) => some ((keys, false), left)
    | _ => none
  | _ => none

/-- Open the table of a header. -/
def Progress.open? (progress : Progress) (keys : List String) (isArray : Bool) :
    Option Progress :=
  match keys.getLast? with
  | none => none
  | some last =>
    let change := if isArray then openArrayTable last else openTable last
    (changeAt false keys.dropLast change progress.entries).map fun entries =>
      { entries := entries, path := keys }

/-- Read a header or a key with its value. -/
def line (progress : Progress) : Reader Progress := fun cs =>
  match cs with
  | '[' :: _ =>
    match header cs with
    | some ((keys, isArray), left) => (progress.open? keys isArray).map (·, left)
    | none => none
  | _ =>
    match keyEquals (some ∘ dropSpaces) cs with
    | none => none
    | some (keys, after) =>
      match value nestingLimit after with
      | none => none
      | some (found, left) =>
        (changeAt false progress.path (addAt keys found) progress.entries).map fun entries =>
          ({ progress with entries := entries }, left)

/-- Read line after line. The number bounds the lines. -/
def lines : Nat → Progress → List Char → Option Progress
  | 0, _, _ => none
  | bound + 1, progress, cs =>
    match skipGap cs with
    | none => none
    | some [] => some progress
    | some rest =>
      match line progress rest with
      | none => none
      | some (next, left) =>
        match lineEnd left with
        | none => none
        | some after => lines bound next after

/-- A text without a byte order mark. -/
def dropMark : List Char → List Char
  | '\uFEFF' :: rest => rest
  | cs => cs

/-- The document of a TOML text. -/
def read? (source : String) : Option Document :=
  let cs := dropMark source.toList
  (lines (cs.length + 1) {} cs).map fun progress => .record (entriesDocument progress.entries)

end DataBinding.Toml
