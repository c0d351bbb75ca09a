/-
Words of a name, and the name in small letters with underscores between
them. A word ends at `_`, `-` or a space, which vanish, and without losing
anything

  * between a small letter and a capital,
  * between a letter and a digit, either way round,
  * between two capitals of which the second is followed by a small letter.

Letters are clusters here, so a mark changes nothing about the letter it
sits on. Neighbouring delimiters leave empty words between them, and these
count: `__a__` is its own snake case.
-/
import DataBinding.Text.LetterCase
import DataBinding.Text.Clusters

namespace DataBinding.Text

/-- What the word rules see of a cluster. -/
inductive LetterClass
  | delimiter
  | small
  | capital
  | digit
  | other
  deriving DecidableEq

/-- A cluster is a capital when its case mappings differ and it is its own
capital form; a small letter correspondingly. -/
def LetterClass.ofCluster : Cluster → LetterClass
  | (c, tail) =>
    let text := c :: tail
    if tail.isEmpty && (c == '_' || c == '-' || c == ' ') then .delimiter
    else if tail.isEmpty && ('0' ≤ c && c ≤ '9') then .digit
    else if upper text == lower text then .other
    else if text == upper text then .capital
    else if text == lower text then .small
    else .other

/-- Whether a word ends between two letters, given what follows them. -/
def wordEnds : LetterClass → LetterClass → Option LetterClass → Bool
  | .small, .capital, _ => true
  | .small, .digit, _ => true
  | .capital, .digit, _ => true
  | .digit, .small, _ => true
  | .digit, .capital, _ => true
  | .capital, .capital, some .small => true
  | _, _, _ => false

/-- Cut classified letters into words; a delimiter belongs to none. -/
def cutWords : List (LetterClass × List Char) → List (List Char)
  | [] => [[]]
  | (.delimiter, _) :: rest => [] :: cutWords rest
  | (here, text) :: rest =>
    let more := cutWords rest
    let ends : Bool :=
      match rest with
      | (next, _) :: after => wordEnds here next (after.head?.map (·.1))
      | [] => false
    if ends then text :: more
    else
      match more with
      | [] => [text]
      | word :: words => (text ++ word) :: words

/-- The words of a name; the empty name has none. -/
def words (name : List Char) : List (List Char) :=
  if name.isEmpty then []
  else
    cutWords ((clusters name).map fun cluster =>
      (LetterClass.ofCluster cluster, cluster.1 :: cluster.2))

/-- Small letters, an underscore between words. -/
def snakeCase (name : String) : String :=
  String.ofList (['_'].intercalate ((words name.toList).map lower))

end DataBinding.Text
