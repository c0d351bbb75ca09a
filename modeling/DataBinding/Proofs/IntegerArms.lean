/-
The conversions between the variants of an enum and their integers, as they
are emitted: a match on the variant whose arms are integers, and a match on
the integer whose arms are variants. Variants may share an integer, so the
two matches have different arms: each variant has one in the first, each
integer only the first variant with it in the second. The two undo each
other as far as that allows (`convertsBothWays`).

# Reading the arms

Code is read as the compiler of it does: arms are tried top down, and the
first whose pattern fits gives the result (`Yields`). An arm ends its pattern
at the arrow and its result at the comma, so code is divided into arms in one
way only (`matchArm_inj`). Integers stand in both matches as literals of 32 bits,
digits with a sign before them or not, and are compared as what the literals
say (`literalInt?_intLiteral`); variants stand there as words, and no two
variants are one word.

From there on the two matches are tables, in which the first entry of a key
counts. The second table is the first one turned round, less the entries
whose integer has been there before (`lookup_firstPerInt`).
-/
import DataBinding.Emission.Conversions
import DataBinding.Live.EnumTable
import DataBinding.Proofs.AccessorNames
import DataBinding.Proofs.IntegerLiterals
import DataBinding.Proofs.UnitFaults

namespace DataBinding.Emission

open Code

-- ============================================================== matches

variable {κ α : Type} {fits : Tokens → κ → Prop} {gives : Tokens → α → Prop} {value : κ}
  {answer : α} {pattern result rows : Tokens}

/-- An arm of a match before further ones. -/
def matchArm (pattern result rows : Tokens) : Tokens :=
  pattern ++ leaves "=>" ++ result ++ .leaf "," :: rows

/-- The pattern ends at the first arrow, and the result at the first comma
behind it. -/
structure Separable (pattern result : Tokens) : Prop where
  arrow : .leaf "=>" ∉ pattern
  comma : .leaf "," ∉ result

/-- What a match answers for a value: the result of the first arm with a
pattern that fits. -/
inductive Yields (fits : Tokens → κ → Prop) (gives : Tokens → α → Prop) (value : κ) :
    Tokens → α → Prop
  | here {pattern result rows : Tokens} {answer : α} (shape : Separable pattern result)
      (fitting : fits pattern value) (given : gives result answer) :
      Yields fits gives value (matchArm pattern result rows) answer
  | later {pattern result rows : Tokens} {answer : α} (shape : Separable pattern result)
      (other : ¬ fits pattern value) (yielded : Yields fits gives value rows answer) :
      Yields fits gives value (matchArm pattern result rows) answer

/-- A text is divided in one way at the first of a mark. -/
theorem divided_once {mark : Token} {front front' back back' : Tokens} (first : mark ∉ front)
    (first' : mark ∉ front') (same : front ++ mark :: back = front' ++ mark :: back') :
    front = front' ∧ back = back' := by
  rcases List.append_eq_append_iff.1 same with ⟨more, longer, rest⟩ | ⟨more, longer, rest⟩
  · cases more with
    | nil => simpa [longer, eq_comm] using rest
    | cons next more =>
      obtain ⟨rfl, -⟩ := List.cons.inj rest
      exact absurd (by simp [longer]) first'
  · cases more with
    | nil => simpa [longer, eq_comm] using rest
    | cons next more =>
      obtain ⟨rfl, -⟩ := List.cons.inj rest
      exact absurd (by simp [longer]) first

/-- Code is an arm and further ones in one way at most. -/
theorem matchArm_inj {pattern' result' rows' : Tokens} (shape : Separable pattern result)
    (shape' : Separable pattern' result')
    (same : matchArm pattern result rows = matchArm pattern' result' rows') :
    pattern = pattern' ∧ result = result' ∧ rows = rows' := by
  have arrow : leaves "=>" = [.leaf "=>"] := by cbv
  unfold matchArm at same
  simp only [arrow, List.append_assoc, List.singleton_append] at same
  obtain ⟨patterns, behind⟩ := divided_once shape.arrow shape'.arrow same
  exact ⟨patterns, divided_once shape.comma shape'.comma behind⟩

/-- An arm is taken when its pattern fits, and passed over otherwise. -/
theorem yields_matchArm (shape : Separable pattern result) :
    Yields fits gives value (matchArm pattern result rows) answer
      ↔ (fits pattern value ∧ gives result answer)
        ∨ (¬ fits pattern value ∧ Yields fits gives value rows answer) := by
  constructor
  · intro yielded
    generalize written : matchArm pattern result rows = code at yielded
    cases yielded with
    | here shape' fitting given =>
      obtain ⟨rfl, rfl, -⟩ := matchArm_inj shape shape' written
      exact Or.inl ⟨fitting, given⟩
    | later shape' other yielded =>
      obtain ⟨rfl, -, rfl⟩ := matchArm_inj shape shape' written
      exact Or.inr ⟨other, yielded⟩
  · rintro (⟨fitting, given⟩ | ⟨other, yielded⟩)
    · exact .here shape fitting given
    · exact .later shape other yielded

/-- Without arms there is no answer. -/
theorem not_yields_nil : ¬ Yields fits gives value [] answer := by
  intro yielded
  generalize written : ([] : Tokens) = code at yielded
  cases yielded <;> simp [matchArm] at written

/-- What code answers that has its arms in some frame. -/
def Answers (frame : Tokens → Tokens) (fits : Tokens → κ → Prop) (gives : Tokens → α → Prop)
    (code : Tokens) (value : κ) (answer : α) : Prop :=
  ∃ rows, code = frame rows ∧ Yields fits gives value rows answer

/-- It answers what the arms yield. -/
theorem answers_frame {frame : Tokens → Tokens} (injective : Function.Injective frame) :
    Answers frame fits gives (frame rows) value answer
      ↔ Yields fits gives value rows answer := by
  constructor
  · rintro ⟨rows', written, yielded⟩
    rw [injective written]
    exact yielded
  · intro yielded
    exact ⟨rows, rfl, yielded⟩

-- ================================================================ tables

/-- The code of an arm for one key: its pattern fits no other, and its result
gives one answer. -/
def ArmFor (fits : Tokens → κ → Prop) (gives : Tokens → α → Prop) (key : κ) (answer : α)
    (code : Tokens) : Prop :=
  ∃ pattern result, code = pattern ++ leaves "=>" ++ result ∧ Separable pattern result
    ∧ (∀ value, fits pattern value ↔ value = key) ∧ ∀ given, gives result given ↔ given = answer

/-- Arms for the keys of a table answer as the table does, and leave the
values it lacks to what comes after them. -/
theorem yields_table {β : Type} [DecidableEq κ] (answerOf : β → α) {table : List (κ × β)}
    {codes : List Tokens}
    (each : List.Forall₂ (fun entry code => ArmFor fits gives entry.1 (answerOf entry.2) code)
      table codes) :
    Yields fits gives value (commaEnded codes ++ rows) answer
      ↔ match table.lookup value with
        | some found => answer = answerOf found
        | none => Yields fits gives value rows answer := by
  induction each with
  | nil => exact Iff.rfl
  | @cons entry code table codes here _ ih =>
    obtain ⟨key, found⟩ := entry
    obtain ⟨pattern, result, rfl, shape, fitting, given⟩ := here
    have written : commaEnded ((pattern ++ leaves "=>" ++ result) :: codes) ++ rows
        = matchArm pattern result (commaEnded codes ++ rows) := by
      simp [commaEnded, matchArm]
    rw [written, yields_matchArm shape, fitting, given, ih, List.lookup_cons]
    by_cases same : value = key
    · simp [same]
    · rw [beq_eq_false_iff_ne.2 same]
      simp [same]

-- ============================================================== variants

variable {enum : EnumDescriptor} {variant : String} {int : Int32} {word : Token}

/-- The path of a variant as code writes it. -/
def NamesVariant (path : Tokens) (variant : String) : Prop :=
  ∃ word, name variant = .ok word ∧ path = leaves "Self ::" ++ [word]

/-- A pattern fits the integer that it says, and the wildcard fits all. -/
def FitsInt (pattern : Tokens) (int : Int32) : Prop :=
  literalInt? pattern = some int ∨ pattern = [.leaf "_"]

def GivesInt (result : Tokens) (int : Int32) : Prop := literalInt? result = some int

/-- A result is some variant, or none. -/
def GivesVariant (result : Tokens) : Option String → Prop
  | some variant =>
    ∃ path, NamesVariant path variant
      ∧ result = call (leaves ":: std :: option :: Option :: Some") [path]
  | none => result = leaves ":: std :: option :: Option :: None"

/-- A path is that of one variant. -/
theorem namesVariant_iff (named : name variant = .ok word) {other : String} :
    NamesVariant (leaves "Self ::" ++ [word]) other ↔ other = variant := by
  constructor
  · rintro ⟨word', named', same⟩
    cases List.append_cancel_left same
    exact name_injective (named'.trans named.symm)
  · rintro rfl
    exact ⟨word, named, rfl⟩

/-- The word of a name is no mark. -/
theorem word_ne_mark (named : name variant = .ok word) {mark : String}
    (noName : Text.isName mark.toList = false) (notRaw : mark.toList.head? ≠ some 'r') :
    word ≠ .leaf mark := by
  rintro rfl
  rcases name_cases variant with refused | raw | isWord
  · rw [refused] at named
    cases named
  · rw [raw] at named
    cases named
    exact notRaw (by rw [String.toList_append]; rfl)
  · rw [isWord] at named
    unfold Code.word at named
    split at named
    · next isName =>
      cases named
      rw [noName] at isName
      cases isName
    · cases named

/-- The arm that gives the integer of a variant. -/
theorem variantArm (named : name variant = .ok word) (int : Int32) :
    ArmFor NamesVariant GivesInt variant int
      ((leaves "Self ::" ++ [word]) ++ leaves "=>" ++ intLiteral int) := by
  have lead : leaves "Self ::" = [.leaf "Self", .leaf "::"] := by cbv
  have means := literalInt?_intLiteral int
  refine ⟨_, _, rfl, ⟨?_, ?_⟩, fun _ => namesVariant_iff named, fun given => ?_⟩
  · have notArrow : word ≠ .leaf "=>" := word_ne_mark named (by decide +kernel) (by decide)
    simp [lead, notArrow.symm]
  · exact not_mem_of_literalInt? means (by decide) (by decide +kernel)
  · unfold GivesInt
    rw [means, Option.some.injEq, eq_comm]

theorem leaves_some :
    leaves ":: std :: option :: Option :: Some"
      = [.leaf "::", .leaf "std", .leaf "::", .leaf "option", .leaf "::", .leaf "Option",
          .leaf "::", .leaf "Some"] := by
  cbv

theorem leaves_none :
    leaves ":: std :: option :: Option :: None"
      = [.leaf "::", .leaf "std", .leaf "::", .leaf "option", .leaf "::", .leaf "Option",
          .leaf "::", .leaf "None"] := by
  cbv

/-- The result with a variant in it gives that variant. -/
theorem givesVariant_some (named : name variant = .ok word) {answer : Option String} :
    GivesVariant (call (leaves ":: std :: option :: Option :: Some") [leaves "Self ::" ++ [word]])
        answer
      ↔ answer = some variant := by
  cases answer with
  | none => simp [GivesVariant, leaves_some, leaves_none, call]
  | some other =>
    have argument : ∀ path path' : Tokens,
        call (leaves ":: std :: option :: Option :: Some") [path]
          = call (leaves ":: std :: option :: Option :: Some") [path'] ↔ path = path' := by
      intro path path'
      simp [call, Code.round, commaSeparated, separated]
    unfold GivesVariant
    simp only [argument, exists_eq_right', namesVariant_iff named, Option.some.injEq]

/-- The arm that gives the variant of an integer. -/
theorem integerArm (named : name variant = .ok word) (int : Int32) :
    ArmFor FitsInt GivesVariant int (some variant)
      (intLiteral int ++ leaves "=>"
        ++ call (leaves ":: std :: option :: Option :: Some") [leaves "Self ::" ++ [word]]) := by
  have means := literalInt?_intLiteral int
  refine ⟨_, _, rfl, ⟨?_, ?_⟩, fun value => ?_, fun _ => givesVariant_some named⟩
  · exact not_mem_of_literalInt? means (by decide) (by decide +kernel)
  · simp [leaves_some, call, Code.round]
  · have noWildcard : intLiteral int ≠ [.leaf "_"] := by
      intro wildcard
      rw [wildcard, show literalInt? [.leaf "_"] = none by decide +kernel] at means
      cases means
    unfold FitsInt
    rw [means, Option.some.injEq, eq_comm, or_iff_left noWildcard]

/-- The arm behind all others. -/
def noVariantArm : Tokens := matchArm [.leaf "_"] (leaves ":: std :: option :: Option :: None") []

/-- It gives no variant, whatever the integer. -/
theorem yields_noVariantArm {answer : Option String} :
    Yields FitsInt GivesVariant int noVariantArm answer ↔ answer = none := by
  have shape : Separable [.leaf "_"] (leaves ":: std :: option :: Option :: None") :=
    ⟨by simp, by simp [leaves_none]⟩
  have fitting : FitsInt [.leaf "_"] int := Or.inr rfl
  rw [noVariantArm, yields_matchArm shape, and_iff_right fitting,
    or_iff_left fun passed => passed.1 fitting]
  cases answer with
  | none => exact iff_of_true rfl rfl
  | some variant => simp [GivesVariant, leaves_some, leaves_none, call]

-- =============================================================== entries

/-- Turned round, a table has the first of the entries with an integer. -/
theorem lookup_firstPerInt {taken : List Int32} (free : int ∉ taken)
    (table : List (String × Int32)) :
    (firstPerInt taken table).lookup int = (table.find? (·.2 == int)).map (·.1) := by
  induction table generalizing taken with
  | nil => rfl
  | cons entry rest ih =>
    obtain ⟨variant, own⟩ := entry
    rw [firstPerInt, List.find?_cons]
    by_cases same : own = int
    · rw [if_neg (same ▸ free), List.lookup_cons, same, beq_self_eq_true]
      rfl
    · rw [beq_eq_false_iff_ne.2 same]
      split
      · exact ih free
      · rw [List.lookup_cons, beq_eq_false_iff_ne.2 (Ne.symm same)]
        exact ih (List.not_mem_cons_of_ne_of_not_mem (Ne.symm same) free)

/-- It has each integer once, and none of those that are taken. -/
theorem nodup_firstPerInt (taken : List Int32) (table : List (String × Int32)) :
    ((firstPerInt taken table).map (·.1)).Nodup
      ∧ ∀ int ∈ (firstPerInt taken table).map (·.1), int ∉ taken := by
  induction table generalizing taken with
  | nil => exact ⟨.nil, nofun⟩
  | cons entry rest ih =>
    obtain ⟨variant, own⟩ := entry
    rw [firstPerInt]
    split
    · exact ih taken
    · next free =>
      obtain ⟨once, others⟩ := ih (own :: taken)
      refine ⟨List.nodup_cons.2 ⟨fun again => others own again List.mem_cons_self, once⟩, ?_⟩
      intro int inside
      rcases List.mem_cons.1 inside with rfl | later
      · exact free
      · exact fun known => others int later (List.mem_cons_of_mem own known)

/-- In a table that has each key once, every entry is found. -/
theorem lookup_of_mem {β : Type} [DecidableEq κ] {table : List (κ × β)} {key : κ} {found : β}
    (once : (table.map (·.1)).Nodup) (inside : (key, found) ∈ table) :
    table.lookup key = some found := by
  induction table with
  | nil => cases inside
  | cons entry rest ih =>
    obtain ⟨fresh, once⟩ := List.nodup_cons.1 once
    rcases List.mem_cons.1 inside with rfl | later
    · exact List.lookup_cons_self
    · have other : key ≠ entry.1 := by
        rintro rfl
        exact fresh (List.mem_map.2 ⟨_, later, rfl⟩)
      rw [List.lookup_cons, beq_eq_false_iff_ne.2 other]
      exact ih once later

/-- The integer of a variant is the one in its arm. -/
theorem lookup_toIntArms (distinct : (enum.values.map (·.name)).Nodup) (variant : enum.Variant) :
    (toIntArms enum).lookup (enum.nameOf variant) = some (enum.toInt variant) := by
  have once : ((toIntArms enum).map (·.1)).Nodup := by
    rw [toIntArms, List.map_map]
    exact distinct
  refine lookup_of_mem once (List.mem_map.2 ⟨enum.valueOf variant, ?_, rfl⟩)
  exact List.get_mem enum.values variant

/-- The variant in the arm of an integer is the first one declared with it. -/
theorem lookup_fromIntArms (int : Int32) :
    (fromIntArms enum).lookup int = (enum.value? int).map (·.name) := by
  unfold fromIntArms toIntArms EnumDescriptor.value?
  rw [lookup_firstPerInt List.not_mem_nil, List.find?_map, Option.map_map]
  rfl

/-- The same variant is what the integer stands for. -/
theorem map_name_value? (int : Int32) :
    (enum.value? int).map (·.name) = (enum.ofInt? int).map enum.nameOf := by
  unfold EnumDescriptor.value? EnumDescriptor.ofInt?
  rw [List.find?_eq_map_findFinIdx?_getElem, Option.map_map]
  rfl

/-- An integer stands for the first variant that has it. -/
theorem ofInt?_eq_some_iff {variant : enum.Variant} :
    enum.ofInt? int = some variant
      ↔ enum.toInt variant = int ∧ ∀ earlier < variant, enum.toInt earlier ≠ int := by
  unfold EnumDescriptor.ofInt?
  rw [List.findFinIdx?_eq_some_iff]
  simp only [beq_iff_eq]
  rfl

/-- An integer that is not declared stands for none. -/
theorem ofInt?_eq_none_iff :
    enum.ofInt? int = none ↔ ∀ value ∈ enum.values, value.intValue ≠ int := by
  unfold EnumDescriptor.ofInt?
  rw [List.findFinIdx?_eq_none_iff]
  simp only [beq_iff_eq, ne_eq]

/-- A declared integer stands for some variant. -/
theorem ofInt?_of_declared (declared : ∃ value ∈ enum.values, value.intValue = int) :
    ∃ variant, enum.ofInt? int = some variant := by
  obtain ⟨value, listed, same⟩ := declared
  refine Option.ne_none_iff_exists'.1 fun none => ?_
  exact ofInt?_eq_none_iff.1 none value listed same

/-- The integers with an arm are the declared ones. -/
theorem mem_fromIntArms :
    int ∈ (fromIntArms enum).map (·.1) ↔ ∃ value ∈ enum.values, value.intValue = int := by
  have found : int ∈ (fromIntArms enum).map (·.1)
      ↔ ((fromIntArms enum).lookup int).isSome = true := by
    simp only [List.mem_map, List.lookup_isSome_iff, beq_iff_eq, @eq_comm _ int]
  rw [found, lookup_fromIntArms, Option.isSome_map, EnumDescriptor.value?, List.find?_isSome]
  simp only [beq_iff_eq]

-- =============================================================== methods

/-- The method with the arms from variants to integers. -/
def toIntCode (rows : Tokens) : Tokens :=
  leaves "fn to_int" ++ [round (leaves "self")] ++ leaves "-> i32"
    ++ [curly (leaves "match self" ++ [curly rows])]

/-- The method with the arms from integers to variants. -/
def fromIntCode (rows : Tokens) : Tokens :=
  leaves "fn from_int" ++ [round (leaves "value : i32")]
    ++ leaves "-> :: std :: option :: Option < Self >"
    ++ [curly (leaves "match value" ++ [curly rows])]

theorem toIntCode_injective : Function.Injective toIntCode := by
  intro rows rows' same
  simpa [toIntCode, curly] using same

theorem fromIntCode_injective : Function.Injective fromIntCode := by
  intro rows rows' same
  simpa [fromIntCode, curly] using same

/-- What the first method makes of a variant. -/
def RunsToInt : Tokens → String → Int32 → Prop := Answers toIntCode NamesVariant GivesInt

/-- What the second method makes of an integer. -/
def RunsFromInt : Tokens → Int32 → Option String → Prop :=
  Answers fromIntCode FitsInt GivesVariant

/-- A variant whose name is a word has a path. -/
theorem variantToken_ok (named : name variant = .ok word) :
    variantToken variant = .ok (leaves "Self ::" ++ [word]) := by
  unfold variantToken
  rw [named]
  rfl

section

variable (valid : ∀ value ∈ enum.values, ∃ word, name value.name = .ok word)

include valid

/-- The first method has an arm for each variant. -/
theorem toIntMethod_ok :
    ∃ codes, toIntMethod enum = .ok (toIntCode (commaEnded codes))
      ∧ List.Forall₂ (fun entry code => ArmFor NamesVariant GivesInt entry.1 entry.2 code)
          (toIntArms enum) codes := by
  have each : ∀ entry ∈ toIntArms enum,
      ∃ code, (do return (← variantToken entry.1) ++ leaves "=>" ++ intLiteral entry.2) = .ok code
        ∧ ArmFor NamesVariant GivesInt entry.1 entry.2 code := by
    intro entry inside
    obtain ⟨value, declared, rfl⟩ := List.mem_map.1 inside
    obtain ⟨word, named⟩ := valid value declared
    exact ⟨_, by rw [variantToken_ok named]; rfl, variantArm named value.intValue⟩
  obtain ⟨codes, written, arms⟩ := mapM_ok each
  exact ⟨codes, bind_eq_ok.2 ⟨codes, written, rfl⟩, arms⟩

/-- The second method has an arm for each integer, and one for all others. -/
theorem fromIntMethod_ok :
    ∃ codes, fromIntMethod enum = .ok (fromIntCode (commaEnded codes ++ noVariantArm))
      ∧ List.Forall₂ (fun entry code => ArmFor FitsInt GivesVariant entry.1 (some entry.2) code)
          (fromIntArms enum) codes := by
  have each : ∀ entry ∈ fromIntArms enum,
      ∃ code, (do
          return intLiteral entry.1 ++ leaves "=>"
            ++ call (leaves ":: std :: option :: Option :: Some") [← variantToken entry.2])
          = .ok code
        ∧ ArmFor FitsInt GivesVariant entry.1 (some entry.2) code := by
    intro entry inside
    obtain ⟨value, declared, same⟩ := List.mem_map.1 (mem_firstPerInt inside)
    obtain ⟨word, named⟩ := valid value declared
    rw [(Prod.mk.inj same).1] at named
    exact ⟨_, by rw [variantToken_ok named]; rfl, integerArm named entry.1⟩
  obtain ⟨codes, written, arms⟩ := mapM_ok each
  have default : commaEnded [leaves "_ => :: std :: option :: Option :: None"] = noVariantArm := by
    cbv
  have rows : commaEnded (codes ++ [leaves "_ => :: std :: option :: Option :: None"])
      = commaEnded codes ++ noVariantArm := by
    rw [← default]
    exact List.flatMap_append
  refine ⟨codes, bind_eq_ok.2 ⟨codes, written, ?_⟩, arms⟩
  rw [fromIntCode, ← rows]
  rfl

end

-- =============================================================== answers

/-- What the first method answers is in the table of its arms. -/
theorem runsToInt_iff {codes : List Tokens}
    (arms : List.Forall₂ (fun entry code => ArmFor NamesVariant GivesInt entry.1 entry.2 code)
      (toIntArms enum) codes) :
    RunsToInt (toIntCode (commaEnded codes)) variant int
      ↔ (toIntArms enum).lookup variant = some int := by
  have rows : commaEnded codes = commaEnded codes ++ [] := (List.append_nil _).symm
  rw [RunsToInt, answers_frame toIntCode_injective, rows, yields_table id arms]
  cases (toIntArms enum).lookup variant with
  | none => exact iff_of_false not_yields_nil nofun
  | some found => simp [eq_comm]

/-- What the second method answers is in the table of its arms, and for all
other integers it is nothing. -/
theorem runsFromInt_iff {codes : List Tokens}
    (arms : List.Forall₂
      (fun entry code => ArmFor FitsInt GivesVariant entry.1 (some entry.2) code)
      (fromIntArms enum) codes) {answer : Option String} :
    RunsFromInt (fromIntCode (commaEnded codes ++ noVariantArm)) int answer
      ↔ answer = (enum.ofInt? int).map enum.nameOf := by
  rw [RunsFromInt, answers_frame fromIntCode_injective, yields_table some arms,
    lookup_fromIntArms, map_name_value?]
  cases enum.ofInt? int with
  | none => exact yields_noVariantArm
  | some found => exact Iff.rfl

-- =========================================================== conversions

/-- The two conversions of an enum as they are emitted. -/
structure ConvertsBothWays (enum : EnumDescriptor) (toInt fromInt : Tokens) : Prop where
  /-- The first has one arm for each variant, with the integer of it. -/
  variantArms : ∃ codes, toInt = toIntCode (commaEnded codes)
    ∧ List.Forall₂
        (fun value code => ArmFor NamesVariant GivesInt value.name value.intValue code)
        enum.values codes
  /-- The second has one arm for each declared integer, with the variant that
  was declared first with it, and then an arm for all others. -/
  integerArms : ∃ ints codes, fromInt = fromIntCode (commaEnded codes ++ noVariantArm)
    ∧ ints.Nodup ∧ (∀ int, int ∈ ints ↔ ∃ value ∈ enum.values, value.intValue = int)
    ∧ List.Forall₂
        (fun int code => ∃ first, enum.value? int = some first
          ∧ ArmFor FitsInt GivesVariant int (some first.name) code)
        ints codes
  /-- Every variant is turned into its integer. -/
  given : ∀ variant int, RunsToInt toInt (enum.nameOf variant) int ↔ int = enum.toInt variant
  /-- Turned back, that is the variant, if no earlier one has the integer. -/
  undone : ∀ variant, (∀ earlier < variant, enum.toInt earlier ≠ enum.toInt variant) →
    ∀ answer, RunsFromInt fromInt (enum.toInt variant) answer
      ↔ answer = some (enum.nameOf variant)
  /-- Every declared integer is turned into a variant, which is turned back
  into that integer. -/
  restored : ∀ int, (∃ value ∈ enum.values, value.intValue = int) → ∃ variant,
    (∀ answer, RunsFromInt fromInt int answer ↔ answer = some (enum.nameOf variant))
      ∧ ∀ back, RunsToInt toInt (enum.nameOf variant) back ↔ back = int
  /-- No other integer is turned into a variant. -/
  refused : ∀ int, (∀ value ∈ enum.values, value.intValue ≠ int) →
    ∀ answer, RunsFromInt fromInt int answer ↔ answer = none

/-- An enum whose variants have distinct names, all of them valid, is emitted
with conversions that undo each other up to shared integers. -/
theorem convertsBothWays (distinct : (enum.values.map (·.name)).Nodup)
    (valid : ∀ value ∈ enum.values, ∃ word, name value.name = .ok word) :
    ∃ toInt fromInt, ConvertsBothWays enum toInt fromInt
      ∧ toIntMethod enum = .ok toInt ∧ fromIntMethod enum = .ok fromInt
      ∧ ∀ site path, Site.itemPath site enum.fullName = .ok path →
          conversion site enum
            = .ok (leaves "impl" ++ site.item "BindableEnum for" ++ path
                ++ [curly (enumInfoMethod site enum ++ toInt ++ fromInt)]) := by
  obtain ⟨codes, toInt, arms⟩ := toIntMethod_ok valid
  obtain ⟨codes', fromInt, arms'⟩ := fromIntMethod_ok valid
  have given : ∀ variant int, RunsToInt (toIntCode (commaEnded codes)) (enum.nameOf variant) int
      ↔ int = enum.toInt variant := by
    intro variant int
    rw [runsToInt_iff arms, lookup_toIntArms distinct, Option.some.injEq, eq_comm]
  refine ⟨_, _, ⟨⟨codes, rfl, ?_⟩, ⟨(fromIntArms enum).map (·.1), codes', rfl, ?_, ?_, ?_⟩, given,
    ?_, ?_, ?_⟩, toInt, fromInt, fun site path located => ?_⟩
  · exact List.forall₂_map_left_iff.1 arms
  · exact (nodup_firstPerInt [] _).1
  · exact fun int => mem_fromIntArms
  · have firsts : ∀ entry ∈ fromIntArms enum,
        ∃ first, enum.value? entry.1 = some first ∧ first.name = entry.2 := by
      intro entry inside
      have found := lookup_of_mem (nodup_firstPerInt [] (toIntArms enum)).1 inside
      exact Option.map_eq_some_iff.1 ((lookup_fromIntArms entry.1).symm.trans found)
    refine List.forall₂_map_left_iff.2
      (((List.forall₂_and_left _ _).2 ⟨firsts, arms'⟩).imp fun entry code both => ?_)
    obtain ⟨⟨first, found, named⟩, arm⟩ := both
    exact ⟨first, found, named ▸ arm⟩
  · intro variant first answer
    rw [runsFromInt_iff arms', ofInt?_eq_some_iff.2 ⟨rfl, first⟩, Option.map_some]
  · intro int declared
    obtain ⟨variant, found⟩ := ofInt?_of_declared declared
    refine ⟨variant, fun answer => ?_, fun back => ?_⟩
    · rw [runsFromInt_iff arms', found, Option.map_some]
    · rw [given, (ofInt?_eq_some_iff.1 found).1]
  · intro int undeclared answer
    rw [runsFromInt_iff arms', ofInt?_eq_none_iff.2 undeclared, Option.map_none]
  · unfold conversion
    rw [located, toInt, fromInt]
    rfl

-- ============================================================ directions

/-- Directions on a dial. Some are negative, some go by two names, and
neither the integers nor the names are in order. -/
def directions : EnumDescriptor where
  fullName := "game::Direction"
  isFlags := false
  values :=
    [⟨3, "Left", []⟩, ⟨-2147483648, "Down", []⟩, ⟨3, "Port", []⟩, ⟨-7, "type", []⟩,
     ⟨-7, "Back", []⟩, ⟨2147483647, "Up", []⟩]

/-- Port is turned into the integer of left and back into left, and no
direction is at zero. -/
theorem directions_convertBothWays :
    ∃ toInt fromInt, toIntMethod directions = .ok toInt ∧ fromIntMethod directions = .ok fromInt
      ∧ ConvertsBothWays directions toInt fromInt
      ∧ RunsToInt toInt "Port" 3 ∧ RunsFromInt fromInt 3 (some "Left")
      ∧ RunsFromInt fromInt (-7) (some "type") ∧ RunsFromInt fromInt 0 none := by
  have distinct : (directions.values.map (·.name)).Nodup := by decide +kernel
  have valid : ∀ value ∈ directions.values, ∃ word, name value.name = .ok word := by
    have words : ∀ value ∈ directions.values, (name value.name).toOption.isSome = true := by
      decide +kernel
    intro value listed
    have isWord := words value listed
    cases named : name value.name with
    | ok word => exact ⟨word, rfl⟩
    | error fault =>
      rw [named] at isWord
      cases isWord
  obtain ⟨toInt, fromInt, converts, writtenTo, writtenFrom, -⟩ := convertsBothWays distinct valid
  refine ⟨toInt, fromInt, writtenTo, writtenFrom, converts, ?_, ?_, ?_, ?_⟩
  · exact (converts.given ⟨2, by decide⟩ 3).2 (by decide)
  · exact (converts.undone ⟨0, by decide⟩ (by decide) _).2 (by decide)
  · exact (converts.undone ⟨3, by decide⟩ (by decide) _).2 (by decide)
  · exact (converts.refused 0 (by decide) _).2 rfl

end DataBinding.Emission
