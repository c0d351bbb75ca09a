/-
Which arguments are handed over unopened. What is written as the type of an
argument and is no known value is a path, a borrow, or begins with a keyword.
A path is meant to be passed on whatever it names, unless it names a
collection.

# What is left of a path

The reading never sees the path: blanks are gone before it looks, and then it
compares beginnings of the text. Beginnings of a text tell the words of a path
as far as a word cannot go on over a sign (`prefix_append_iff`), so the
collections are told exactly, and so are the paths into `std::collections`.
But once the blanks are gone nothing divides a keyword from what stood behind
it: `dyn Body` and `dynBody` are one text. So the keywords are told by their
letters alone, and every path whose first word begins with these letters is
taken for a type that begins with the keyword (`handedOver_of_foreign`).
-/
import DataBinding.Proofs.Descriptors

namespace DataBinding

open Text

variable {schema : Schema} {scope : Option String} {written : String}

-- =========================================================== identifiers

/-- An identifier as code has it, written raw or not. -/
def isIdentifier : List Char → Bool
  | 'r' :: '#' :: name => isName name
  | cs => isName cs

/-- A character that ends no word: no blank, and no sign that stands around
the words of a path. -/
structure Inner (c : Char) : Prop where
  solid : isBlank c = false
  noColon : c ≠ ':'
  noAngle : c ≠ '<'
  noBorrow : c ≠ '&'

instance (c : Char) : Decidable (Inner c) :=
  decidable_of_iff (isBlank c = false ∧ c ≠ ':' ∧ c ≠ '<' ∧ c ≠ '&')
    ⟨fun ⟨solid, noColon, noAngle, noBorrow⟩ => ⟨solid, noColon, noAngle, noBorrow⟩,
      fun inner => ⟨inner.solid, inner.noColon, inner.noAngle, inner.noBorrow⟩⟩

/-- A table that is looked up at every blank in vain holds no blank. -/
theorem holds_of_isBlank {table : Ranges} {c : Char}
    (apart : ∀ range ∈ whiteSpace, ∀ k < range.2 + 1 - range.1, table.holds (range.1 + k) = false)
    (blank : isBlank c = true) : table.holds c.toNat = false := by
  have rising : Ranges.Rising 0 whiteSpace := by simp [whiteSpace, Ranges.Rising]
  obtain ⟨range, among, low, high⟩ := (Ranges.holds_iff rising c.toNat).1 blank
  have found := apart range among (c.toNat - range.1) (by omega)
  rwa [Nat.add_sub_cancel' low] at found

theorem inner_of_continuesName {c : Char} (continues : continuesName c = true) : Inner c where
  solid := by
    refine Bool.eq_false_iff.2 fun blank => ?_
    rw [continuesName, holds_of_isBlank (by decide +kernel) blank] at continues
    cases continues
  noColon := by
    rintro rfl
    exact absurd continues (by decide +kernel)
  noAngle := by
    rintro rfl
    exact absurd continues (by decide +kernel)
  noBorrow := by
    rintro rfl
    exact absurd continues (by decide +kernel)

theorem inner_of_startsName {c : Char} (starts : startsName c = true) : Inner c := by
  by_cases line : c = '_'
  · rw [line]
    decide +kernel
  · rw [startsName, beq_eq_false_iff_ne.2 line, Bool.false_or] at starts
    have outside (d : Char) (missing : nameStart.holds d.toNat = false) : c ≠ d := by
      rintro rfl
      rw [starts] at missing
      cases missing
    refine ⟨Bool.eq_false_iff.2 fun blank => ?_, outside ':' (by decide +kernel),
      outside '<' (by decide +kernel), outside '&' (by decide +kernel)⟩
    rw [holds_of_isBlank (by decide +kernel) blank] at starts
    cases starts

theorem inner_of_mem_name {cs : List Char} (named : isName cs = true) :
    cs ≠ [] ∧ ∀ c ∈ cs, Inner c := by
  cases cs with
  | nil => cases named
  | cons first rest =>
    rw [isName, Bool.and_eq_true, List.all_eq_true] at named
    refine ⟨List.cons_ne_nil _ _, fun c inside => ?_⟩
    rcases List.mem_cons.1 inside with rfl | inside
    · exact inner_of_startsName named.1
    · exact inner_of_continuesName (named.2 c inside)

/-- Identifiers are words, and not empty. -/
theorem inner_of_identifier {cs : List Char} (identifier : isIdentifier cs = true) :
    cs ≠ [] ∧ ∀ c ∈ cs, Inner c := by
  unfold isIdentifier at identifier
  split at identifier
  · next name =>
    refine ⟨List.cons_ne_nil _ _, fun c inside => ?_⟩
    rcases List.mem_cons.1 inside with rfl | inside
    · decide +kernel
    · rcases List.mem_cons.1 inside with rfl | inside
      · decide +kernel
      · exact (inner_of_mem_name identifier).2 c inside
  · exact inner_of_mem_name identifier

/-- A word of code. -/
abbrev Identifier := { name : String // isIdentifier name.toList = true }

namespace Identifier

/-- The characters of a word. -/
def chars (name : Identifier) : List Char := name.1.toList

theorem chars_ne_nil (name : Identifier) : name.chars ≠ [] := (inner_of_identifier name.2).1

theorem inner (name : Identifier) : ∀ c ∈ name.chars, Inner c := (inner_of_identifier name.2).2

end Identifier

-- ================================================================= paths

/-- A path of identifiers, with generic arguments or without. -/
structure TypePath where
  /-- Whether it begins with a pair of colons. -/
  isAbsolute : Bool := false
  first : Identifier
  further : List Identifier := []
  /-- What is written behind the angle bracket that opens the arguments. -/
  generics : Option String := none

namespace TypePath

variable (path : TypePath)

def segments : List Identifier := path.first :: path.further

/-- The segment before the generic arguments. -/
def last : Identifier := path.segments.getLast (List.cons_ne_nil _ _)

/-- Each further segment behind its colons. -/
def tail (further : List Identifier) : List (List Char) :=
  further.flatMap fun segment => [[':', ':'], segment.chars]

/-- The pieces that are written, with or without blanks between them. -/
def pieces : List (List Char) :=
  (if path.isAbsolute then [[':', ':']] else []) ++ path.first.chars :: tail path.further
    ++ (path.generics.map fun rest => '<' :: rest.toList).toList

/-- The path leads into the collections of the standard library. -/
def EntersCollections : Prop :=
  path.isAbsolute = false ∧ ∃ item more,
    path.segments.map (·.1) = "std" :: "collections" :: item :: more

/-- The path begins with the letters of a keyword. -/
def BeginsLike (keyword : String) : Prop :=
  path.isAbsolute = false ∧ keyword.toList <+: path.first.chars

end TypePath

/-- Pieces written one after the other, with any blanks before, between and
behind them. -/
inductive Spelled : List (List Char) → List Char → Prop
  | done {blanks : List Char} (blank : ∀ c ∈ blanks, isBlank c = true) : Spelled [] blanks
  | piece {blanks piece rest : List Char} {pieces : List (List Char)}
      (blank : ∀ c ∈ blanks, isBlank c = true) (behind : Spelled pieces rest) :
      Spelled (piece :: pieces) (blanks ++ (piece ++ rest))

/-- Without blanks, the pieces are left. -/
theorem Spelled.solid {pieces : List (List Char)} {text : List Char}
    (spelled : Spelled pieces text) :
    text.filter (!isBlank ·) = pieces.flatten.filter (!isBlank ·) := by
  have gone {blanks : List Char} (blank : ∀ c ∈ blanks, isBlank c = true) :
      blanks.filter (!isBlank ·) = [] := by
    refine List.filter_eq_nil_iff.2 fun c inside => ?_
    rw [blank c inside]
    exact Bool.false_ne_true
  induction spelled with
  | done blank => exact gone blank
  | piece blank _ ih =>
    rw [List.filter_append, gone blank, List.nil_append, List.filter_append, ih, List.flatten_cons,
      List.filter_append]

-- ============================================================ beginnings

/-- What follows a word: nothing, or a sign. -/
def Stops (rest : List Char) : Prop := ∀ c ∈ rest.head?, ¬ Inner c

/-- What begins a text within a word begins the word. -/
theorem prefix_append_iff {lead word rest : List Char} (letters : ∀ c ∈ lead, Inner c)
    (stops : Stops rest) : lead <+: word ++ rest ↔ lead <+: word := by
  induction lead generalizing word with
  | nil => simp
  | cons c more ih =>
    cases word with
    | nil =>
      refine iff_of_false ?_ (by simp)
      rintro ⟨later, same⟩
      rw [List.nil_append] at same
      exact stops c (by simp [← same]) (letters c List.mem_cons_self)
    | cons d word =>
      rw [List.cons_append, List.cons_prefix_cons, List.cons_prefix_cons,
        ih fun other inside => letters other (List.mem_cons_of_mem c inside)]

/-- A word and a sign begin a text just when the word is the first one, and
the sign follows. -/
theorem word_prefix_iff {one word more rest : List Char} (letters : ∀ c ∈ one, Inner c)
    (inner : ∀ c ∈ word, Inner c) (stops : Stops rest) (sign : Stops more) (some_ : more ≠ []) :
    one ++ more <+: word ++ rest ↔ one = word ∧ more <+: rest := by
  induction one generalizing word with
  | nil =>
    cases word with
    | nil => simp
    | cons d word =>
      obtain ⟨c, more, rfl⟩ := List.exists_cons_of_ne_nil some_
      refine iff_of_false ?_ (by simp)
      rw [List.nil_append, List.cons_append, List.cons_prefix_cons]
      rintro ⟨rfl, -⟩
      exact sign c rfl (inner c List.mem_cons_self)
  | cons c one ih =>
    cases word with
    | nil =>
      refine iff_of_false ?_ (by simp)
      rintro ⟨later, same⟩
      rw [List.nil_append] at same
      exact stops c (by simp [← same]) (letters c List.mem_cons_self)
    | cons d word =>
      rw [List.cons_append, List.cons_append, List.cons_prefix_cons, List.cons.injEq,
        ih (fun other inside => letters other (List.mem_cons_of_mem c inside))
          (fun other inside => inner other (List.mem_cons_of_mem d inside)), and_assoc]

-- ============================================================== the last

/-- Behind a word there are no colons. -/
theorem afterLast_word {word : List Char} (inner : ∀ c ∈ word, Inner c) :
    lastSegment.afterLast word = none := by
  induction word with
  | nil => rfl
  | cons c rest ih =>
    have noColon : c ≠ ':' := (inner c List.mem_cons_self).noColon
    unfold lastSegment.afterLast
    rw [ih fun other inside => inner other (List.mem_cons_of_mem c inside)]
    dsimp only
    split
    · exact absurd rfl noColon
    · rfl

theorem lastSegment_word {word : List Char} (inner : ∀ c ∈ word, Inner c) :
    lastSegment word = word := by
  rw [lastSegment, afterLast_word inner]
  rfl

/-- The last word of a path is the one behind the last colons. -/
theorem lastSegment_behind (before : List Char) {word : List Char}
    (inner : ∀ c ∈ word, Inner c) : lastSegment (before ++ ':' :: ':' :: word) = word := by
  have found : lastSegment.afterLast (before ++ ':' :: ':' :: word) = some word := by
    induction before with
    | nil =>
      have second : lastSegment.afterLast (':' :: word) = none := by
        unfold lastSegment.afterLast
        rw [afterLast_word inner]
        dsimp only
        split
        · exact absurd rfl (inner ':' List.mem_cons_self).noColon
        · rfl
      rw [List.nil_append, lastSegment.afterLast, second]
    | cons c before ih =>
      rw [List.cons_append]
      unfold lastSegment.afterLast
      rw [ih]
  rw [lastSegment, found]
  rfl

-- ============================================================ the passage

/-- What can be passed on does not begin with a closed head and has no
collection before its arguments. -/
theorem isPassable_iff {type : String} :
    isPassable type = true ↔ type.toList ≠ []
      ∧ (∀ head ∈ closedHeads, ¬ head.toList <+: type.toList)
      ∧ String.ofList (lastSegment (type.toList.takeWhile (· != '<'))) ∉ collections := by
  have begins (head : String) : (dropLead? head type.toList == none) = true
      ↔ ¬ head.toList <+: type.toList := by
    unfold dropLead?
    rw [← List.isPrefixOf_iff_prefix]
    split
    · next here => simp [here]
    · next other => simp [other]
  simp only [isPassable, Bool.and_eq_true, Bool.not_eq_true', List.isEmpty_eq_false_iff,
    List.all_eq_true, begins, and_assoc, List.contains_eq_mem, decide_eq_false_iff_not]

/-- What is no scalar and no enum keeps its name. -/
theorem typeFullName_classifyScalar {type : String}
    (foreign : (classifyScalar schema scope type).category = .unsupported) :
    (classifyScalar schema scope type).typeFullName = type := by
  unfold classifyScalar at foreign ⊢
  split at foreign
  · next known found =>
    unfold knownScalar? at found
    split at found <;> cases found <;> cases foreign
  · split at foreign
    · next decl _ =>
      unfold Classified.ofEnum at foreign
      cases flags : decl.isFlags <;> simp [flags] at foreign
    · next missing => rfl

/-- What is no known value goes by its text without blanks. -/
theorem typeFullName_of_foreign
    (foreign : (classify schema scope written).category = .unsupported) :
    (classify schema scope written).typeFullName = withoutBlanks written := by
  unfold classify at foreign ⊢
  dsimp only at foreign ⊢
  split at foreign
  · split at foreign
    · next list listed =>
      cases (isEnum_listOf? listed).2.symm.trans (congrArg Category.isList foreign)
    · rfl
  · exact typeFullName_classifyScalar foreign

/-- The kind of what is no known value. -/
theorem kind_of_foreign (foreign : (classify schema scope written).category = .unsupported) :
    (classifyArgument schema scope written).kind
      = if isPassable (withoutBlanks written) then .custom else .unsupported := by
  unfold classifyArgument
  dsimp only
  rw [foreign, typeFullName_of_foreign foreign]

/-- What begins with a closed head is not handed over. -/
theorem kind_of_closed (foreign : (classify schema scope written).category = .unsupported)
    {head : String} (closed : head ∈ closedHeads)
    (begins : head.toList <+: (withoutBlanks written).toList) :
    (classifyArgument schema scope written).kind = .unsupported := by
  have stays : ¬ isPassable (withoutBlanks written) = true := fun passes =>
    (isPassable_iff.1 passes).2.1 head closed begins
  rw [kind_of_foreign foreign, if_neg stays]

-- ================================================================= paths

namespace TypePath

variable (path : TypePath)

/-- What is left of the colons in front. -/
def opening : List Char := if path.isAbsolute then [':', ':'] else []

/-- What is left of the generic arguments. -/
def closing : List Char :=
  (path.generics.map fun rest => '<' :: rest.toList.filter (!isBlank ·)).getD []

/-- What is left of all that is written, without blanks. -/
def solid : List Char :=
  path.opening ++ (path.first.chars ++ ((tail path.further).flatten ++ path.closing))

theorem filter_chars (name : Identifier) : name.chars.filter (!isBlank ·) = name.chars :=
  List.filter_eq_self.2 fun c inside => by rw [(name.inner c inside).solid]; rfl

theorem filter_tail (further : List Identifier) :
    (tail further).flatten.filter (!isBlank ·) = (tail further).flatten := by
  have colon : isBlank ':' = false := by decide +kernel
  induction further with
  | nil => rfl
  | cons segment rest ih =>
    have unfolded : (tail (segment :: rest)).flatten
        = ':' :: ':' :: (segment.chars ++ (tail rest).flatten) := rfl
    rw [unfolded, List.filter_cons, List.filter_cons, List.filter_append, filter_chars, ih, colon]
    rfl

theorem filter_pieces : path.pieces.flatten.filter (!isBlank ·) = path.solid := by
  have colon : isBlank ':' = false := by decide +kernel
  have angle : isBlank '<' = false := by decide +kernel
  have opened : (if path.isAbsolute then [[':', ':']] else []).flatten.filter (!isBlank ·)
      = path.opening := by
    unfold opening
    split
    · simp [colon]
    · rfl
  have closed : ((path.generics.map fun rest => '<' :: rest.toList).toList).flatten.filter
      (!isBlank ·) = path.closing := by
    unfold closing
    cases path.generics with
    | none => rfl
    | some rest => simp [angle]
  unfold pieces solid
  rw [List.flatten_append, List.flatten_append, List.filter_append, List.filter_append,
    opened, closed, List.flatten_cons, List.filter_append, filter_chars, filter_tail,
    List.append_assoc, List.append_assoc]

/-- Without blanks, what is left of a written path is told by the path. -/
theorem toList_withoutBlanks (spelled : Spelled path.pieces written.toList) :
    (withoutBlanks written).toList = path.solid := by
  rw [withoutBlanks, String.toList_ofList, spelled.solid, filter_pieces]

theorem stops_closing : Stops path.closing := by
  unfold closing Stops
  cases path.generics with
  | none => simp
  | some rest =>
    have angle : ¬ Inner '<' := fun inner => inner.noAngle rfl
    simpa using angle

theorem stops_tail (further : List Identifier) :
    Stops ((tail further).flatten ++ path.closing) := by
  cases further with
  | nil => exact path.stops_closing
  | cons segment rest =>
    have colon : ¬ Inner ':' := fun inner => inner.noColon rfl
    simpa [tail, Stops] using colon

-- ======================================================== the beginning

/-- Letters begin the text just when they begin the first word. -/
theorem prefix_solid_iff {lead : List Char} (letters : ∀ c ∈ lead, Inner c) (some_ : lead ≠ []) :
    lead <+: path.solid ↔ path.isAbsolute = false ∧ lead <+: path.first.chars := by
  unfold solid opening
  cases path.isAbsolute with
  | false =>
    rw [if_neg Bool.false_ne_true, List.nil_append,
      prefix_append_iff letters (path.stops_tail path.further)]
    exact (and_iff_right rfl).symm
  | true =>
    refine iff_of_false (fun begins => ?_) nofun
    obtain ⟨c, rest, rfl⟩ := List.exists_cons_of_ne_nil some_
    obtain ⟨rfl, -⟩ := List.cons_prefix_cons.1 begins
    exact (letters ':' List.mem_cons_self).noColon rfl

theorem beginsLike_iff {keyword : String} (letters : ∀ c ∈ keyword.toList, Inner c)
    (some_ : keyword.toList ≠ []) : keyword.toList <+: path.solid ↔ path.BeginsLike keyword :=
  path.prefix_solid_iff letters some_

/-- Colons and a word, and more colons, follow just when the word is the next
segment and not the last one. -/
theorem colons_prefix_tail_iff {one : List Char} (letters : ∀ c ∈ one, Inner c)
    (further : List Identifier) :
    ':' :: ':' :: (one ++ [':', ':']) <+: (tail further).flatten ++ path.closing
      ↔ ∃ next item more, further = next :: item :: more ∧ next.chars = one := by
  cases further with
  | nil =>
    refine iff_of_false (fun begins => ?_) nofun
    -- what follows is at most an angle bracket
    unfold closing tail at begins
    cases generics : path.generics with
    | none => simp [generics] at begins
    | some rest => simp [generics, List.cons_prefix_cons] at begins
  | cons next rest =>
    have colon : Stops [':', ':'] := by
      have outside : ¬ Inner ':' := fun inner => inner.noColon rfl
      simpa [Stops] using outside
    have unfolded : (tail (next :: rest)).flatten ++ path.closing
        = ':' :: ':' :: (next.chars ++ ((tail rest).flatten ++ path.closing)) := by
      simp [tail]
    rw [unfolded, List.cons_prefix_cons, List.cons_prefix_cons,
      word_prefix_iff letters next.inner (path.stops_tail rest) colon (List.cons_ne_nil _ _)]
    cases rest with
    | nil =>
      refine iff_of_false (fun ⟨_, _, _, begins⟩ => ?_) nofun
      unfold closing tail at begins
      cases generics : path.generics with
      | none => simp [generics] at begins
      | some rest => simp [generics, List.cons_prefix_cons] at begins
    | cons item more =>
      constructor
      · rintro ⟨-, -, same, -⟩
        exact ⟨next, item, more, rfl, same.symm⟩
      · rintro ⟨_, _, _, same, rfl⟩
        cases same
        exact ⟨rfl, rfl, rfl, by simp [tail]⟩

/-- The text begins like that of the collections just when the path leads
into them. -/
theorem entersCollections_iff :
    "std::collections::".toList <+: path.solid ↔ path.EntersCollections := by
  have letters : (∀ c ∈ "std".toList, Inner c) ∧ ∀ c ∈ "collections".toList, Inner c :=
    ⟨(inner_of_identifier (by decide +kernel)).2, (inner_of_identifier (by decide +kernel)).2⟩
  have colon : Stops (':' :: ':' :: ("collections".toList ++ [':', ':'])) := by
    have outside : ¬ Inner ':' := fun inner => inner.noColon rfl
    simpa [Stops] using outside
  have cut : "std::collections::".toList
      = "std".toList ++ ':' :: ':' :: ("collections".toList ++ [':', ':']) := rfl
  unfold EntersCollections segments
  cases absolute : path.isAbsolute with
  | true =>
    refine iff_of_false (fun begins => ?_) nofun
    have opened : path.solid.head? = some ':' := by
      unfold solid opening
      rw [absolute]
      rfl
    obtain ⟨later, same⟩ := begins
    rw [← same] at opened
    cases opened
  | false =>
    have opened : path.solid
        = path.first.chars ++ ((tail path.further).flatten ++ path.closing) := by
      unfold solid opening
      rw [absolute]
      rfl
    rw [cut, opened, word_prefix_iff letters.1 path.first.inner (path.stops_tail path.further)
      colon (List.cons_ne_nil _ _), path.colons_prefix_tail_iff letters.2]
    constructor
    · rintro ⟨std, next, item, more, further, same⟩
      refine ⟨rfl, item.1, more.map (·.1), ?_⟩
      rw [further, List.map_cons, List.map_cons, List.map_cons,
        String.toList_injective same, ← String.toList_injective std]
    · rintro ⟨-, item, more, same⟩
      obtain ⟨std, behind⟩ := List.cons.inj same
      refine ⟨(congrArg String.toList std).symm, ?_⟩
      match path.further, behind with
      | [_], behind => cases (List.cons.inj behind).2
      | next :: item :: more, behind =>
        exact ⟨next, item, more, rfl, congrArg String.toList (List.cons.inj behind).1⟩

-- ============================================================== the end

theorem last_append (further : List Identifier) (segment : Identifier)
    (ends : path.further = further ++ [segment]) : path.last = segment := by
  simp [last, segments, ends]

theorem last_name : String.ofList path.last.chars = path.last.1 := String.ofList_toList

/-- The segment that is looked at is the last one of the path. -/
theorem lastSegment_solid :
    lastSegment (path.solid.takeWhile (· != '<')) = path.last.chars := by
  have words : path.solid.takeWhile (· != '<')
      = path.opening ++ (path.first.chars ++ (tail path.further).flatten) := by
    have noAngle : ∀ c ∈ path.opening ++ (path.first.chars ++ (tail path.further).flatten),
        (c != '<') = true := by
      intro c inside
      rw [bne_iff_ne]
      rcases List.mem_append.1 inside with opened | inside
      · unfold opening at opened
        split at opened
        · simp at opened
          rw [opened]
          decide
        · cases opened
      · rcases List.mem_append.1 inside with first | further
        · exact (path.first.inner c first).noAngle
        · obtain ⟨piece, among, inPiece⟩ := List.mem_flatten.1 further
          obtain ⟨segment, -, isPiece⟩ := List.mem_flatMap.1 among
          rcases List.mem_cons.1 isPiece with rfl | isPiece
          · simp at inPiece
            rw [inPiece]
            decide
          · rw [List.mem_singleton.1 isPiece] at inPiece
            exact (segment.inner c inPiece).noAngle
    have closed : path.closing.takeWhile (· != '<') = [] := by
      unfold closing
      cases path.generics <;> simp
    have cut : path.solid
        = path.opening ++ (path.first.chars ++ (tail path.further).flatten) ++ path.closing := by
      simp [solid]
    rw [cut, List.takeWhile_append_of_pos noAngle, closed, List.append_nil]
  rw [words]
  rcases List.eq_nil_or_concat' path.further with alone | ⟨init, segment, ends⟩
  · have same : path.last = path.first := by simp [last, segments, alone]
    have nothing : path.first.chars ++ (tail []).flatten = path.first.chars :=
      List.append_nil _
    rw [alone, same, nothing]
    unfold opening
    split
    · exact lastSegment_behind [] path.first.inner
    · exact lastSegment_word path.first.inner
  · rw [path.last_append init segment ends, ends]
    have cut : path.opening ++ (path.first.chars ++ (tail (init ++ [segment])).flatten)
        = (path.opening ++ (path.first.chars ++ (tail init).flatten))
          ++ ':' :: ':' :: segment.chars := by
      simp [tail]
    rw [cut]
    exact lastSegment_behind _ segment.inner

end TypePath

-- ============================================================== the kinds

/-- The first that is written, blanks aside, is a certain text. -/
def Begins (lead written : String) : Prop :=
  ∃ blanks rest, (∀ c ∈ blanks, isBlank c = true) ∧ written.toList = blanks ++ (lead.toList ++ rest)

/-- The first that is written is a keyword, and not a longer word. -/
def Introduced (keyword written : String) : Prop :=
  ∃ blanks rest, (∀ c ∈ blanks, isBlank c = true)
    ∧ written.toList = blanks ++ (keyword.toList ++ rest)
    ∧ ∀ c ∈ rest.head?, continuesName c = false

theorem Introduced.begins {keyword : String} (introduced : Introduced keyword written) :
    Begins keyword written := by
  obtain ⟨blanks, rest, blank, same, -⟩ := introduced
  exact ⟨blanks, rest, blank, same⟩

/-- What is written first is first without blanks, too. -/
theorem prefix_withoutBlanks {lead : String} (solid : ∀ c ∈ lead.toList, isBlank c = false)
    (begins : Begins lead written) : lead.toList <+: (withoutBlanks written).toList := by
  obtain ⟨blanks, rest, blank, same⟩ := begins
  have gone : blanks.filter (!isBlank ·) = [] := by
    refine List.filter_eq_nil_iff.2 fun c inside => ?_
    rw [blank c inside]
    exact Bool.false_ne_true
  have stays : lead.toList.filter (!isBlank ·) = lead.toList :=
    List.filter_eq_self.2 fun c inside => by rw [solid c inside]; rfl
  rw [withoutBlanks, String.toList_ofList, same, List.filter_append, gone, List.nil_append,
    List.filter_append, stays]
  exact List.prefix_append _ _

/-- What becomes of an argument type that is no known value. -/
structure HandedOver (schema : Schema) (scope : Option String) (written : String) : Prop where
  /-- It is handed over unopened or not at all. -/
  either : (classifyArgument schema scope written).kind = .custom
    ∨ (classifyArgument schema scope written).kind = .unsupported
  /-- A path is handed over, except collections, what leads into the
  collections, and what begins with the letters of a keyword. -/
  paths : ∀ path : TypePath, Spelled path.pieces written.toList →
    ((classifyArgument schema scope written).kind = .custom ↔
      path.last.1 ∉ collections ∧ ¬ path.EntersCollections
        ∧ ¬ path.BeginsLike "impl" ∧ ¬ path.BeginsLike "dyn")
  borrows : Begins "&" written → (classifyArgument schema scope written).kind = .unsupported
  keywords : ∀ keyword ∈ ["impl", "dyn"], Introduced keyword written →
    (classifyArgument schema scope written).kind = .unsupported

/-- No path begins with an ampersand. -/
theorem TypePath.not_borrow (path : TypePath) : ¬ "&".toList <+: path.solid := by
  obtain ⟨c, rest, first⟩ := List.exists_cons_of_ne_nil path.first.chars_ne_nil
  have noBorrow : c ≠ '&' := (path.first.inner c (first ▸ List.mem_cons_self)).noBorrow
  unfold TypePath.solid TypePath.opening
  rw [first]
  cases path.isAbsolute with
  | false =>
    rintro ⟨later, same⟩
    exact noBorrow (List.cons.inj same).1.symm
  | true =>
    rintro ⟨later, same⟩
    cases same

/-- A path passes unless one of its words keeps it back. -/
theorem TypePath.isPassable_iff (path : TypePath) (spelled : Spelled path.pieces written.toList) :
    isPassable (withoutBlanks written) = true ↔
      path.last.1 ∉ collections ∧ ¬ path.EntersCollections
        ∧ ¬ path.BeginsLike "impl" ∧ ¬ path.BeginsLike "dyn" := by
  have letters : (∀ c ∈ "impl".toList, Inner c) ∧ ∀ c ∈ "dyn".toList, Inner c :=
    ⟨(inner_of_identifier (by decide +kernel)).2, (inner_of_identifier (by decide +kernel)).2⟩
  have some_ : path.solid ≠ [] := by
    have first := path.first.chars_ne_nil
    simp [TypePath.solid, first]
  rw [DataBinding.isPassable_iff, path.toList_withoutBlanks spelled, path.lastSegment_solid,
    TypePath.last_name]
  simp only [closedHeads, List.forall_mem_cons, List.not_mem_nil, IsEmpty.forall_iff,
    implies_true, and_true, path.entersCollections_iff,
    path.beginsLike_iff letters.1 (by decide), path.beginsLike_iff letters.2 (by decide)]
  constructor
  · rintro ⟨-, ⟨-, noImpl, noDyn, outside⟩, single⟩
    exact ⟨single, outside, noImpl, noDyn⟩
  · rintro ⟨single, outside, noImpl, noDyn⟩
    exact ⟨some_, ⟨path.not_borrow, noImpl, noDyn, outside⟩, single⟩

/-- Of the types that are no known values, paths are handed over unopened as
far as letters tell them from collections and keywords; borrows and what a
keyword introduces are not. -/
theorem handedOver_of_foreign
    (foreign : (classify schema scope written).category = .unsupported) :
    HandedOver schema scope written := by
  have solid : ∀ head ∈ closedHeads, ∀ c ∈ head.toList, isBlank c = false := by
    have all : ∀ head ∈ closedHeads, head.toList.all (!isBlank ·) = true := by decide +kernel
    intro head closed c inside
    simpa using List.all_eq_true.1 (all head closed) c inside
  have kind := kind_of_foreign foreign
  refine ⟨?either, fun path spelled => ?paths, fun borrowed => ?borrows,
    fun keyword among introduced => ?keywords⟩
  case either =>
    rw [kind]
    split
    · exact Or.inl rfl
    · exact Or.inr rfl
  case paths =>
    rw [← path.isPassable_iff spelled, kind]
    split
    · next passes => exact iff_of_true rfl passes
    · next stays => exact iff_of_false nofun stays
  case borrows =>
    have closed : "&" ∈ closedHeads := by decide
    exact kind_of_closed foreign closed (prefix_withoutBlanks (solid _ closed) borrowed)
  case keywords =>
    have closed : keyword ∈ closedHeads :=
      (by decide : ∀ keyword ∈ ["impl", "dyn"], keyword ∈ closedHeads) keyword among
    exact kind_of_closed foreign closed
      (prefix_withoutBlanks (solid _ closed) introduced.begins)

-- ============================================================ a workshop

/-- The path `crate::items::Crate<u8>`. -/
def crateOfItems : TypePath where
  first := ⟨"crate", by decide +kernel⟩
  further := [⟨"items", by decide +kernel⟩, ⟨"Crate", by decide +kernel⟩]
  generics := some " u8 >"

/-- Written with blanks, the path is handed over; neither is a borrow, nor an
`impl` with nothing but a bracket behind it. -/
theorem workshop_handedOver :
    (Spelled crateOfItems.pieces " crate :: items::Crate < u8 >".toList
        ∧ (classifyArgument {} (some "game") " crate :: items::Crate < u8 >").kind = .custom)
      ∧ (Begins "&" " & Crate"
        ∧ (classifyArgument {} (some "game") " & Crate").kind = .unsupported)
      ∧ (Introduced "impl" "impl(Crate)"
        ∧ (classifyArgument {} (some "game") "impl(Crate)").kind = .unsupported) := by
  have space : ∀ c ∈ [' '], isBlank c = true := List.forall_mem_singleton.2 (by decide)
  have tight : ∀ c ∈ [], isBlank c = true := List.forall_mem_nil _
  have spelled : Spelled crateOfItems.pieces " crate :: items::Crate < u8 >".toList :=
    @Spelled.piece [' '] _ _ _ space <| @Spelled.piece [' '] _ _ _ space <|
      @Spelled.piece [' '] _ _ _ space <| @Spelled.piece [] _ _ _ tight <|
      @Spelled.piece [] _ _ _ tight <| @Spelled.piece [' '] _ _ _ space <|
      @Spelled.done [] tight
  have borrowed : Begins "&" " & Crate" := ⟨[' '], " Crate".toList, space, rfl⟩
  have introduced : Introduced "impl" "impl(Crate)" := by
    refine ⟨[], "(Crate)".toList, tight, rfl, fun c first => ?_⟩
    cases first
    decide +kernel
  refine ⟨⟨spelled, ?_⟩, ⟨borrowed, ?_⟩, ⟨introduced, ?_⟩⟩
  · refine ((handedOver_of_foreign (by decide +kernel)).paths crateOfItems spelled).2 ?_
    refine ⟨by decide, fun enters => ?_, fun ⟨_, begins⟩ => ?_, fun ⟨_, begins⟩ => ?_⟩
    · obtain ⟨-, _, _, same⟩ := enters
      exact absurd (List.cons.inj same).1 (by decide)
    · revert begins
      decide
    · revert begins
      decide
  · exact (handedOver_of_foreign (by decide +kernel)).borrows borrowed
  · exact (handedOver_of_foreign (by decide +kernel)).keywords "impl" (by decide) introduced

/-- A type whose second method takes a body of the module `dynamics`. -/
def workshop : TypeDecl where
  name := "Workshop"
  scope := some "game"
  isPartial := true
  attributes := [.eventRegister]
  methods :=
    [{ name := "lift", args := [{ name := "body", type := "Body" }]
       attributes := [.eventCall none []] },
     { name := "push", args := [{ name := "body", type := "dynamics::Body" }]
       attributes := [.eventCall none []] }]

/-- The path `dynamics::Body`. -/
def bodyOfDynamics : TypePath where
  first := ⟨"dynamics", by decide +kernel⟩
  further := [⟨"Body", by decide +kernel⟩]

/-- A body of the module `dynamics` is not handed over, though it is named by
a path that has no keyword in it and no collection; and the method that
takes it is passed over without a word. -/
theorem dynamics_kept_closed :
    Spelled bodyOfDynamics.pieces "dynamics::Body".toList
      ∧ (∀ segment ∈ bodyOfDynamics.segments, segment.1 ∉ Code.keywords)
      ∧ bodyOfDynamics.last.1 ∉ collections ∧ ¬ bodyOfDynamics.EntersCollections
      ∧ (classify {} (some "game") "dynamics::Body").category = .unsupported
      ∧ (classifyArgument {} (some "game") "dynamics::Body").kind = .unsupported
      ∧ (extractCalls {} workshop).value.map (·.methodName) = ["lift"]
      ∧ (extractCalls {} workshop).diagnostics = [] := by
  have tight : ∀ c ∈ [], isBlank c = true := List.forall_mem_nil _
  have spelled : Spelled bodyOfDynamics.pieces "dynamics::Body".toList :=
    @Spelled.piece [] _ _ _ tight <| @Spelled.piece [] _ _ _ tight <|
      @Spelled.piece [] _ _ _ tight <| @Spelled.done [] tight
  refine ⟨spelled, by decide, by decide, fun enters => ?_, by decide +kernel, by decide +kernel,
    by decide +kernel, by decide +kernel⟩
  obtain ⟨-, _, _, same⟩ := enters
  exact absurd (List.cons.inj same).1 (by decide)

end DataBinding
