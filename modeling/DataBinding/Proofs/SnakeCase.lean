/-
Which names snake case keeps apart. In general it does not: `HitPoints` and
`Hit_points` have one snake case, and so have `Hp` and `HP`. Names of
capitalised words are kept apart: ASCII letters and digits, a capital at the
front and none right after another, and after a digit no small letter. Such
a name can be read back from its snake case (`readBack_underscored`).

# Method

On ASCII letters and digits the word rules see one character at a time, and
without neighbouring capitals they look no further than the next one. So
snake case is one pass along the name (`snakeCase_eq`): every letter in its
small form, and an underscore where a word ends. The pass can be undone
because a word of such a name never opens with a small letter, and goes on
with nothing else but small letters and digits.
-/
import DataBinding.Text.SnakeCase
import Mathlib.Data.List.Chain
import Mathlib.Data.String.Basic

namespace DataBinding.Text

-- ====================================================== ASCII characters

/-- The class of an ASCII letter or digit. -/
def plainClass (c : Char) : LetterClass :=
  if c.isUpper then .capital else if c.isLower then .small else .digit

theorem plainClass_eq_capital {c : Char} : plainClass c = .capital ↔ c.isUpper := by
  unfold plainClass
  cases c.isUpper <;> cases c.isLower <;> simp

theorem isLower_of_plainClass {c : Char} (small : plainClass c = .small) : c.isLower := by
  unfold plainClass at small
  cases lower : c.isLower <;> cases upper : c.isUpper <;> simp_all

theorem isDigit_of_plainClass {c : Char} (alphanum : c.isAlphanum)
    (digit : plainClass c = .digit) : c.isDigit := by
  have kinds : (c.isUpper || c.isLower || c.isDigit) = true := alphanum
  unfold plainClass at digit
  cases lower : c.isLower <;> cases upper : c.isUpper <;> simp_all

theorem plainClass_cases (c : Char) :
    plainClass c = .capital ∨ plainClass c = .small ∨ plainClass c = .digit := by
  unfold plainClass
  cases c.isUpper <;> cases c.isLower <;> simp

/-- What the tables say about a letter or digit that stands by itself. -/
structure Plain (c : Char) : Prop where
  leadsNot : leadsCluster c = false
  continuesNot : continuesCluster c = false
  noSigma : c ≠ 'Σ'
  small : lowerChar c = [c.toLower]
  ofClass : LetterClass.ofCluster (c, []) = plainClass c
  noUnderscore : c.toLower ≠ '_'
  /-- What is no small letter is known from its small form. -/
  opening : plainClass c ≠ .small → c.toLower.toUpper = c
  /-- What is no capital is its small form. -/
  inside : plainClass c ≠ .capital → c.toLower = c

theorem plain_table : ∀ code < 128, (Char.ofNat code).isAlphanum = true →
    (leadsCluster (Char.ofNat code) = false ∧ continuesCluster (Char.ofNat code) = false
      ∧ Char.ofNat code ≠ 'Σ' ∧ lowerChar (Char.ofNat code) = [(Char.ofNat code).toLower])
    ∧ LetterClass.ofCluster (Char.ofNat code, []) = plainClass (Char.ofNat code)
    ∧ (Char.ofNat code).toLower ≠ '_'
    ∧ (plainClass (Char.ofNat code) ≠ .small →
        (Char.ofNat code).toLower.toUpper = Char.ofNat code)
    ∧ (plainClass (Char.ofNat code) ≠ .capital →
        (Char.ofNat code).toLower = Char.ofNat code) := by
  decide +kernel

/-- Letters and digits are found in the first block of characters. -/
theorem toNat_lt_of_isAlphanum {c : Char} (alphanum : c.isAlphanum) : c.toNat < 128 := by
  have kinds : (c.isUpper || c.isLower || c.isDigit) = true := alphanum
  rw [Bool.or_eq_true, Bool.or_eq_true] at kinds
  rcases kinds with (upper | lower) | digit
  · have range : 'A'.val ≤ c.val ∧ c.val ≤ 'Z'.val := of_decide_eq_true upper
    exact Nat.lt_of_le_of_lt range.2 (by decide)
  · have last : c.val ≤ 'z'.val := of_decide_eq_true (Bool.and_eq_true_iff.1 lower).2
    exact Nat.lt_of_le_of_lt last (by decide)
  · have last : c.val ≤ '9'.val := of_decide_eq_true (Bool.and_eq_true_iff.1 digit).2
    exact Nat.lt_of_le_of_lt last (by decide)

theorem Plain.of_isAlphanum {c : Char} (alphanum : c.isAlphanum) : Plain c := by
  have table := plain_table c.toNat (toNat_lt_of_isAlphanum alphanum)
  rw [Char.ofNat_toNat] at table
  obtain ⟨⟨leadsNot, continuesNot, noSigma, small⟩, ofClass, noUnderscore, opening, inside⟩ :=
    table alphanum
  exact ⟨leadsNot, continuesNot, noSigma, small, ofClass, noUnderscore, opening, inside⟩

/-- Every one of them is a cluster by itself. -/
theorem clusters_plain {cs : List Char} (plain : ∀ c ∈ cs, Plain c) :
    clusters cs = cs.map fun c => (c, []) := by
  induction cs with
  | nil => rfl
  | cons c rest ih =>
    rw [clusters, ih fun d inside => plain d (List.mem_cons_of_mem c inside)]
    cases rest with
    | nil => rfl
    | cons d rest =>
      have apart : (leadsCluster c || continuesCluster d) = false := by
        rw [(plain c (by simp)).leadsNot, (plain d (by simp)).continuesNot]
        rfl
      simp [attach, apart, joinPictures, endsInJoiner]

theorem lowerFrom_plain {cs : List Char} (plain : ∀ c ∈ cs, Plain c) (before : List Char) :
    lowerFrom before cs = cs.map Char.toLower := by
  induction cs generalizing before with
  | nil => rfl
  | cons c rest ih =>
    have itself := plain c List.mem_cons_self
    rw [lowerFrom, ih fun d inside => plain d (List.mem_cons_of_mem c inside)]
    simp [itself.noSigma, itself.small]

-- ================================================================= words

theorem cutWords_ne_nil (letters : List (LetterClass × List Char)) :
    cutWords letters ≠ [] := by
  cases letters with
  | nil => exact List.cons_ne_nil _ _
  | cons letter rest =>
    obtain ⟨here, text⟩ := letter
    cases here
    case delimiter => exact List.cons_ne_nil _ _
    all_goals
      simp only [cutWords]
      repeat' split
      all_goals exact List.cons_ne_nil _ _

/-- Whether a word ends after a letter. -/
def endsBefore (here : LetterClass) : List (LetterClass × List Char) → Bool
  | (next, _) :: after => wordEnds here next (after.head?.map (·.1))
  | [] => false

/-- A letter is a word by itself or goes before the first of the others. -/
theorem cutWords_cons {here : LetterClass} (letter : here ≠ .delimiter) (text : List Char)
    {rest : List (LetterClass × List Char)} {first : List Char} {others : List (List Char)}
    (more : cutWords rest = first :: others) :
    cutWords ((here, text) :: rest)
      = if endsBefore here rest then text :: first :: others
        else (text ++ first) :: others := by
  cases here
  case delimiter => contradiction
  all_goals
    simp only [cutWords, more]
    cases rest <;> rfl

/-- What stands in a word comes from the letters that were cut. -/
theorem mem_cutWords {letters : List (LetterClass × List Char)} {part : List Char}
    (cut : part ∈ cutWords letters) {c : Char} (within : c ∈ part) :
    ∃ letter ∈ letters, c ∈ letter.2 := by
  induction letters generalizing part with
  | nil =>
    rw [cutWords, List.mem_singleton] at cut
    subst cut
    cases within
  | cons letter rest ih =>
    obtain ⟨here, text⟩ := letter
    obtain ⟨first, others, more⟩ := List.exists_cons_of_ne_nil (cutWords_ne_nil rest)
    rw [more] at ih
    have later {part : List Char} (cut : part ∈ first :: others) (within : c ∈ part) :
        ∃ letter ∈ (here, text) :: rest, c ∈ letter.2 := by
      obtain ⟨letter, inside, among⟩ := ih cut within
      exact ⟨letter, List.mem_cons_of_mem _ inside, among⟩
    by_cases delimiter : here = .delimiter
    · subst delimiter
      rw [cutWords, more] at cut
      rcases List.mem_cons.1 cut with rfl | among
      · cases within
      · exact later among within
    rw [cutWords_cons delimiter text more] at cut
    split at cut
    · rcases List.mem_cons.1 cut with rfl | among
      · exact ⟨_, List.mem_cons_self, within⟩
      · exact later among within
    · rcases List.mem_cons.1 cut with rfl | among
      · rcases List.mem_append.1 within with own | handed
        · exact ⟨_, List.mem_cons_self, own⟩
        · exact later List.mem_cons_self handed
      · exact later (List.mem_cons_of_mem _ among) within

-- ============================================================== one pass

/-- Whether a word ends between two letters of which one is no capital. -/
def breaks (c next : Char) : Bool := wordEnds (plainClass c) (plainClass next) none

/-- A name in small letters, with an underscore after each of its words but
the last. -/
def underscored : List Char → List Char
  | [] => []
  | c :: rest =>
    c.toLower :: (if rest.head?.any (breaks c) then ['_'] else []) ++ underscored rest

/-- Without neighbouring capitals the letter after the next one is of no
account. -/
theorem wordEnds_eq {c next : Char} (apart : ¬(c.isUpper ∧ next.isUpper))
    (after : Option LetterClass) :
    wordEnds (plainClass c) (plainClass next) after = breaks c next := by
  rw [← plainClass_eq_capital, ← plainClass_eq_capital] at apart
  unfold breaks
  obtain here | here | here := plainClass_cases c
    <;> obtain there | there | there := plainClass_cases next
    <;> rw [here, there] at apart ⊢
  case inl.inl => exact absurd ⟨rfl, rfl⟩ apart
  all_goals rfl

theorem plainClass_ne_delimiter (c : Char) : plainClass c ≠ .delimiter := by
  obtain is | is | is := plainClass_cases c <;> rw [is] <;> decide

/-- The letters of a name as the word rules see them. -/
def plainLetters (cs : List Char) : List (LetterClass × List Char) :=
  cs.map fun c => (plainClass c, [c])

/-- The words of a name without neighbouring capitals, in small letters and
with underscores between them. -/
theorem intercalate_cutWords {cs : List Char}
    (apart : cs.IsChain fun a b => ¬(a.isUpper ∧ b.isUpper)) :
    ['_'].intercalate ((cutWords (plainLetters cs)).map (·.map Char.toLower))
      = underscored cs := by
  induction cs with
  | nil => rfl
  | cons c rest ih =>
    have ends : endsBefore (plainClass c) (plainLetters rest) = rest.head?.any (breaks c) := by
      cases rest with
      | nil => rfl
      | cons next rest => exact wordEnds_eq ((List.isChain_cons.1 apart).1 next rfl) _
    obtain ⟨first, others, more⟩ :=
      List.exists_cons_of_ne_nil (cutWords_ne_nil (plainLetters rest))
    have tail := ih (List.isChain_cons.1 apart).2
    rw [more] at tail
    rw [underscored, ← tail, show plainLetters (c :: rest) = (_, _) :: plainLetters rest from rfl,
      cutWords_cons (plainClass_ne_delimiter c) [c] more, ends]
    split
    · rfl
    · cases others <;> rfl

/-- The snake case of a name without neighbouring capitals is one pass
along its letters. -/
theorem snakeCase_eq {name : String} (ascii : ∀ c ∈ name.toList, c.isAlphanum)
    (apart : name.toList.IsChain fun a b => ¬(a.isUpper ∧ b.isUpper)) :
    snakeCase name = String.ofList (underscored name.toList) := by
  have plain : ∀ c ∈ name.toList, Plain c := fun c inside => .of_isAlphanum (ascii c inside)
  rw [← intercalate_cutWords apart, snakeCase, words]
  split
  · next empty =>
    rw [List.isEmpty_iff.1 empty]
    rfl
  · have letters : (clusters name.toList).map
          (fun cluster => (LetterClass.ofCluster cluster, cluster.1 :: cluster.2))
        = plainLetters name.toList := by
      rw [clusters_plain plain, List.map_map]
      exact List.map_congr_left fun c inside => by
        simp [(plain c inside).ofClass]
    rw [letters]
    congr 2
    refine List.map_congr_left fun part cut => lowerFrom_plain (fun c within => ?_) []
    obtain ⟨letter, inside, among⟩ := mem_cutWords cut within
    obtain ⟨d, listed, rfl⟩ := List.mem_map.1 inside
    rw [List.mem_singleton.1 among]
    exact plain d listed

-- ===================================================== capitalised words

/-- Letters that may stand next to each other in capitalised words. -/
def Spaced (a b : Char) : Prop := ¬(a.isUpper ∧ b.isUpper) ∧ ¬(a.isDigit ∧ b.isLower)

instance (a b : Char) : Decidable (Spaced a b) := inferInstanceAs (Decidable (_ ∧ _))

/-- A name of capitalised words: ASCII letters and digits, a capital at the
front, none right after another, and no small letter after a digit. -/
structure Capitalised (name : String) : Prop where
  ascii : name.toList.all Char.isAlphanum = true
  opens : name.toList.head?.any Char.isUpper = true
  spaced : name.toList.IsChain Spaced

instance (name : String) : Decidable (Capitalised name) :=
  decidable_of_iff (name.toList.all Char.isAlphanum = true
      ∧ name.toList.head?.any Char.isUpper = true ∧ name.toList.IsChain Spaced)
    ⟨fun ⟨ascii, opens, spaced⟩ => ⟨ascii, opens, spaced⟩,
      fun ⟨ascii, opens, spaced⟩ => ⟨ascii, opens, spaced⟩⟩

/-- Capitalised words from their snake case. The first letter after an
underscore opens a word, and so may the very first. -/
def readBack (opens : Bool) : List Char → List Char
  | [] => []
  | c :: rest =>
    if c = '_' then readBack true rest
    else (if opens then c.toUpper else c) :: readBack false rest

/-- Whether a letter can stand where a word opens, or where none does. -/
def Fits (opens : Bool) (c : Char) : Prop :=
  plainClass c ≠ if opens then .small else .capital

/-- Words end in front of letters that can open one, and only there. -/
theorem Spaced.fits {a b : Char} (spaced : Spaced a b) (alphanum : a.isAlphanum) :
    Fits (breaks a b) b := by
  obtain ⟨noCapitals, noSmall⟩ := spaced
  unfold Fits breaks
  obtain here | here | here := plainClass_cases a
    <;> obtain there | there | there := plainClass_cases b
    <;> rw [here, there]
  case inl.inl =>
    exact absurd ⟨plainClass_eq_capital.1 here, plainClass_eq_capital.1 there⟩ noCapitals
  case inr.inr.inr.inl =>
    exact absurd ⟨isDigit_of_plainClass alphanum here, isLower_of_plainClass there⟩ noSmall
  all_goals decide

/-- What stands in the place of a letter gives the letter back. -/
theorem Plain.restored {c : Char} (plain : Plain c) {opens : Bool} (fits : Fits opens c) :
    (if opens then c.toLower.toUpper else c.toLower) = c := by
  cases opens with
  | true => exact plain.opening fits
  | false => exact plain.inside fits

/-- Reading undoes the pass, from any place in a name. -/
theorem readBack_underscored {cs : List Char} (ascii : ∀ c ∈ cs, c.isAlphanum)
    (spaced : cs.IsChain Spaced) {opens : Bool} (front : ∀ c ∈ cs.head?, Fits opens c) :
    readBack opens (underscored cs) = cs := by
  induction cs generalizing opens with
  | nil => rfl
  | cons c rest ih =>
    have alphanum := ascii c List.mem_cons_self
    have plain := Plain.of_isAlphanum alphanum
    have laterAscii : ∀ d ∈ rest, d.isAlphanum :=
      fun d inside => ascii d (List.mem_cons_of_mem c inside)
    obtain ⟨next, later⟩ := List.isChain_cons.1 spaced
    rw [underscored, List.cons_append, readBack, if_neg plain.noUnderscore,
      plain.restored (front c rfl)]
    congr 1
    cases rest with
    | nil => rfl
    | cons d rest =>
      have fits : Fits (breaks c d) d := (next d rfl).fits alphanum
      have goesOn : readBack (breaks c d) (underscored (d :: rest)) = d :: rest :=
        ih laterAscii later fun e front => by cases front; exact fits
      cases ends : breaks c d with
      | true =>
        rw [ends] at goesOn
        simpa [ends, readBack] using goesOn
      | false =>
        rw [ends] at goesOn
        simpa [ends] using goesOn

namespace Capitalised

variable {name other : String}

theorem snakeCase_eq (capitalised : Capitalised name) :
    snakeCase name = String.ofList (underscored name.toList) :=
  Text.snakeCase_eq (List.all_eq_true.1 capitalised.ascii)
    (capitalised.spaced.imp fun _ _ => And.left)

/-- The name can be read off its snake case. -/
theorem readBack_snakeCase (capitalised : Capitalised name) :
    String.ofList (readBack true (snakeCase name).toList) = name := by
  have front : ∀ c ∈ name.toList.head?, Fits true c := by
    intro c first
    have capital : c.isUpper := by simpa [Option.mem_def.1 first] using capitalised.opens
    rw [Fits, plainClass_eq_capital.2 capital]
    decide
  rw [capitalised.snakeCase_eq, String.toList_ofList,
    readBack_underscored (List.all_eq_true.1 capitalised.ascii) capitalised.spaced front,
    String.ofList_toList]

/-- Snake case keeps names of capitalised words apart. -/
theorem snakeCase_inj (capitalised : Capitalised name) (otherToo : Capitalised other) :
    snakeCase name = snakeCase other ↔ name = other := by
  refine ⟨fun same => ?_, congrArg snakeCase⟩
  rw [← capitalised.readBack_snakeCase, same, otherToo.readBack_snakeCase]

example : snakeCase "HitPoints" = snakeCase "Hit_points" ∧ Capitalised "HitPoints"
    ∧ ¬Capitalised "Hit_points" := by
  decide +kernel

theorem toList_set (name : String) :
    ("Set" ++ name).toList = 'S' :: 'e' :: 't' :: name.toList := by
  rw [String.toList_append]
  rfl

/-- Such a name opens with a capital. -/
theorem exists_cons (capitalised : Capitalised name) :
    ∃ c rest, name.toList = c :: rest ∧ c.isUpper := by
  have opens := capitalised.opens
  cases letters : name.toList with
  | nil => simp [letters] at opens
  | cons c rest => exact ⟨c, rest, rfl, by simpa [letters] using opens⟩

/-- The name with one word more in front. -/
theorem set (capitalised : Capitalised name) : Capitalised ("Set" ++ name) where
  ascii := by
    rw [toList_set]
    exact capitalised.ascii
  opens := by
    rw [toList_set]
    rfl
  spaced := by
    obtain ⟨c, rest, letters, capital⟩ := capitalised.exists_cons
    have spaced := capitalised.spaced
    rw [letters] at spaced
    rw [toList_set, letters]
    refine .cons_cons (by decide) (.cons_cons (by decide) (.cons_cons ?_ spaced))
    exact ⟨fun both => absurd both.1 (by decide), fun both => absurd both.1 (by decide)⟩

/-- That word stands in front of the snake case as well. -/
theorem snakeCase_set (capitalised : Capitalised name) :
    snakeCase ("Set" ++ name) = "set_" ++ snakeCase name := by
  obtain ⟨c, rest, letters, capital⟩ := capitalised.exists_cons
  have ends : breaks 't' c = true := by
    rw [breaks, plainClass_eq_capital.2 capital]
    decide
  have pass : underscored ('S' :: 'e' :: 't' :: c :: rest)
      = 's' :: 'e' :: 't' :: '_' :: underscored (c :: rest) := by
    rw [underscored, underscored, underscored, List.head?_cons, List.head?_cons,
      List.head?_cons, Option.any_some, Option.any_some, Option.any_some, ends]
    rfl
  rw [capitalised.set.snakeCase_eq, capitalised.snakeCase_eq, toList_set, letters, pass]
  rw [← String.toList_inj, String.toList_append, String.toList_ofList, String.toList_ofList]
  simp

/-- A getter of one property has the name of another's setter only by a
property name that opens with the word. -/
theorem snakeCase_eq_set (capitalised : Capitalised name) (otherToo : Capitalised other) :
    snakeCase name = "set_" ++ snakeCase other ↔ name = "Set" ++ other := by
  rw [← otherToo.snakeCase_set]
  exact capitalised.snakeCase_inj otherToo.set

end Capitalised

end DataBinding.Text
