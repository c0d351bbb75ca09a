/-
The styles of a selection. Whether names are told apart by a chain of tests
or by a table is settled last, and by their number alone. It decides what
the code looks like, and nothing else.

# What a selection does

The two styles are different texts, so what they have in common has to be
read off the texts: tests are taken top down until one holds (`TakesTest`),
the rows of a table until one fits (`TakesRow`). Names stand in both as
literals, and are compared as what the literals say. Read like this, code of
either style runs the first arm that has the name, also where several have
it, where none has it, and where there are no arms at all
(`runs_selection`).

# What a run does

The number at which tables begin and the banner are read when a drafted file
is settled and nowhere before. So two runs with different styles have one
drafting, and fail over the same fault or settle the same files
(`styles_interchangeable`).
-/
import DataBinding.Proofs.Conversions
import DataBinding.Proofs.Literals

namespace DataBinding.Emission

open Code

variable {subject : Tokens} {value : String} {arms : List Arm} {code : Tokens}

-- ============================================================== reading

/-- A test of a subject against a literal, what is done if it holds, and what
follows. -/
def testing (subject : Tokens) (literal : Token) (body further : Tokens) : Tokens :=
  .leaf "if" :: (subject ++ [.leaf "==", literal, curly body] ++ further)

/-- The code that tests run for a value. Those after the one that holds are
not looked at. -/
inductive TakesTest (subject : Tokens) (value : String) : Tokens → Tokens → Prop
  | holds {literal : Token} {body further : Tokens} (spells : literalText? literal = some value)
      (ends : further = [] ∨ ∃ later, further = .leaf "else" :: later) :
      TakesTest subject value (testing subject literal body further) body
  | fails {literal : Token} {name : String} {body : Tokens}
      (spells : literalText? literal = some name) (differs : name ≠ value) :
      TakesTest subject value (testing subject literal body []) []
  | goesOn {literal : Token} {name : String} {body later code : Tokens}
      (spells : literalText? literal = some name) (differs : name ≠ value)
      (taken : TakesTest subject value later code) :
      TakesTest subject value (testing subject literal body (.leaf "else" :: later)) code

/-- The code that the rows of a table run for a value. -/
inductive TakesRow (value : String) : Tokens → Tokens → Prop
  | fits {literal : Token} {body rows : Tokens} (spells : literalText? literal = some value) :
      TakesRow value ([literal, .leaf "=>", curly body] ++ rows) body
  | goesOn {literal : Token} {name : String} {body rows code : Tokens}
      (spells : literalText? literal = some name) (differs : name ≠ value)
      (taken : TakesRow value rows code) :
      TakesRow value ([literal, .leaf "=>", curly body] ++ rows) code
  | otherwise {body : Tokens} : TakesRow value [.leaf "_", .leaf "=>", curly body] body

/-- The code that a selection on a subject runs when the subject has a
value. No code at all is one, too, and runs nothing. -/
inductive Runs (subject : Tokens) (value : String) : Tokens → Tokens → Prop
  | nothing : Runs subject value [] []
  | tests {tokens code : Tokens} (taken : TakesTest subject value tokens code) :
      Runs subject value tokens code
  | table {rows code : Tokens} (taken : TakesRow value rows code) :
      Runs subject value (.leaf "match" :: (subject ++ [curly rows])) code

/-- The body of the first arm that has a name, and nothing without one. -/
def chosen (arms : List Arm) (value : String) : Tokens :=
  ((arms.find? (·.name == value)).map (·.body)).getD []

theorem chosen_cons_same {arm : Arm} (rest : List Arm) (same : arm.name = value) :
    chosen (arm :: rest) value = arm.body := by
  unfold chosen
  rw [List.find?_cons, beq_iff_eq.2 same]
  rfl

theorem chosen_cons_other {arm : Arm} (rest : List Arm) (differs : arm.name ≠ value) :
    chosen (arm :: rest) value = chosen rest value := by
  unfold chosen
  rw [List.find?_cons, beq_eq_false_iff_ne.2 differs]

-- =============================================================== tables

/-- The row of a name is taken for that name and passed over for others. -/
theorem takesRow_iff {literal : Token} {name : String} {body rows : Tokens}
    (spells : literalText? literal = some name) :
    TakesRow value ([literal, .leaf "=>", curly body] ++ rows) code ↔
      if name = value then code = body else TakesRow value rows code := by
  constructor
  · intro taken
    generalize written : [literal, .leaf "=>", curly body] ++ rows = tokens at taken
    have same : ∀ {literal' : Token} {body' rows' : Tokens},
        [literal, .leaf "=>", curly body] ++ rows = [literal', .leaf "=>", curly body'] ++ rows' →
          literal = literal' ∧ body = body' ∧ rows = rows' := by
      intro literal' body' rows' equal
      simpa [curly] using equal
    cases taken with
    | fits spells' =>
      obtain ⟨rfl, rfl, -⟩ := same written
      rw [spells] at spells'
      rw [if_pos (Option.some.inj spells')]
    | goesOn spells' differs taken =>
      obtain ⟨rfl, -, rfl⟩ := same written
      rw [spells] at spells'
      rw [if_neg (Option.some.inj spells' ▸ differs)]
      exact taken
    | otherwise =>
      obtain ⟨rfl, -⟩ := List.cons.inj written
      cases spells
  · intro taken
    by_cases same : name = value
    · rw [if_pos same] at taken
      rw [taken]
      exact .fits (same ▸ spells)
    · rw [if_neg same] at taken
      exact .goesOn spells same taken

/-- Behind all rows stands the default. -/
theorem takesRow_default {body : Tokens} :
    TakesRow value [.leaf "_", .leaf "=>", curly body] code ↔ code = body := by
  constructor
  · intro taken
    generalize written : [Token.leaf "_", .leaf "=>", curly body] = tokens at taken
    cases taken with
    | fits spells =>
      obtain ⟨rfl, -⟩ := List.cons.inj written
      cases spells
    | goesOn spells =>
      obtain ⟨rfl, -⟩ := List.cons.inj written
      cases spells
    | otherwise =>
      simpa [curly, eq_comm] using written
  · rintro rfl
    exact .otherwise

/-- A table takes the first arm that has the name. -/
theorem takesRow_rows :
    TakesRow value ((arms.flatMap fun arm => [stringLiteral arm.name, .leaf "=>", curly arm.body])
        ++ [.leaf "_", .leaf "=>", curly []]) code
      ↔ code = chosen arms value := by
  induction arms with
  | nil => exact takesRow_default
  | cons arm rest ih =>
    rw [List.flatMap_cons, List.append_assoc, takesRow_iff (literalText?_stringLiteral arm.name),
      ih]
    by_cases same : arm.name = value
    · rw [if_pos same, chosen_cons_same rest same]
    · rw [if_neg same, chosen_cons_other rest same]

-- =============================================================== chains

/-- Tests are told apart by their literals, their bodies and what follows. -/
theorem testing_inj {literal literal' : Token} {body body' further further' : Tokens}
    (equal : testing subject literal body further = testing subject literal' body' further') :
    literal = literal' ∧ body = body' ∧ further = further' := by
  unfold testing at equal
  rw [List.append_assoc, List.append_assoc] at equal
  have behind := List.append_cancel_left (List.cons.inj equal).2
  simpa [curly] using behind

/-- The last test is taken for its name; for others nothing is. -/
theorem takesTest_last {literal : Token} {name : String} {body : Tokens}
    (spells : literalText? literal = some name) :
    TakesTest subject value (testing subject literal body []) code ↔
      code = if name = value then body else [] := by
  constructor
  · intro taken
    generalize written : testing subject literal body [] = tokens at taken
    cases taken with
    | holds spells' =>
      obtain ⟨rfl, rfl, -⟩ := testing_inj written
      rw [spells] at spells'
      rw [if_pos (Option.some.inj spells')]
    | fails spells' differs =>
      obtain ⟨rfl, -, -⟩ := testing_inj written
      rw [spells] at spells'
      rw [if_neg (Option.some.inj spells' ▸ differs)]
    | goesOn => cases (testing_inj written).2.2
  · rintro rfl
    by_cases same : name = value
    · rw [if_pos same]
      exact .holds (same ▸ spells) (Or.inl rfl)
    · rw [if_neg same]
      exact .fails spells same

/-- A test before others is taken for its name and passed over for others. -/
theorem takesTest_else {literal : Token} {name : String} {body later : Tokens}
    (spells : literalText? literal = some name) :
    TakesTest subject value (testing subject literal body (.leaf "else" :: later)) code ↔
      if name = value then code = body else TakesTest subject value later code := by
  constructor
  · intro taken
    generalize written : testing subject literal body (.leaf "else" :: later) = tokens at taken
    cases taken with
    | holds spells' =>
      obtain ⟨rfl, rfl, -⟩ := testing_inj written
      rw [spells] at spells'
      rw [if_pos (Option.some.inj spells')]
    | fails spells' =>
      cases (testing_inj written).2.2
    | goesOn spells' differs taken =>
      obtain ⟨rfl, -, behind⟩ := testing_inj written
      rw [spells] at spells'
      rw [if_neg (Option.some.inj spells' ▸ differs), (List.cons.inj behind).2]
      exact taken
  · intro taken
    by_cases same : name = value
    · rw [if_pos same] at taken
      rw [taken]
      exact .holds (same ▸ spells) (Or.inr ⟨later, rfl⟩)
    · rw [if_neg same] at taken
      exact .goesOn spells same taken

/-- A chain takes the first arm that has the name. -/
theorem takesTest_chain {arm : Arm} {rest : List Arm} :
    TakesTest subject value ((Selection.chain (arm :: rest)).tokens subject) code
      ↔ code = chosen (arm :: rest) value := by
  induction rest generalizing arm with
  | nil =>
    have written : (Selection.chain [arm]).tokens subject
        = testing subject (stringLiteral arm.name) arm.body [] := by
      simp [Selection.chain, Selection.tokens, testing]
    rw [written, takesTest_last (literalText?_stringLiteral arm.name)]
    by_cases same : arm.name = value
    · rw [if_pos same, chosen_cons_same [] same]
    · rw [if_neg same, chosen_cons_other [] same]
      rfl
  | cons next rest ih =>
    have written : (Selection.chain (arm :: next :: rest)).tokens subject
        = testing subject (stringLiteral arm.name) arm.body
            (.leaf "else" :: (Selection.chain (next :: rest)).tokens subject) := by
      simp [Selection.chain, Selection.tokens, testing]
    rw [written, takesTest_else (literalText?_stringLiteral arm.name), ih]
    by_cases same : arm.name = value
    · rw [if_pos same, chosen_cons_same (next :: rest) same]
    · rw [if_neg same, chosen_cons_other (next :: rest) same]

-- =========================================================== selections

/-- Tests begin with a test. -/
theorem TakesTest.head {tokens : Tokens} (taken : TakesTest subject value tokens code) :
    tokens.head? = some (.leaf "if") := by
  cases taken <;> rfl

/-- Where there is no code, none runs. -/
theorem runs_nothing : Runs subject value [] code ↔ code = [] := by
  constructor
  · intro run
    cases run with
    | nothing => rfl
    | tests taken => cases taken.head
  · rintro rfl
    exact .nothing

/-- A table is read row by row. -/
theorem runs_table {rows : Tokens} :
    Runs subject value (.leaf "match" :: (subject ++ [curly rows])) code
      ↔ TakesRow value rows code := by
  constructor
  · intro run
    generalize written : Token.leaf "match" :: (subject ++ [curly rows]) = tokens at run
    cases run with
    | nothing => cases written
    | tests taken =>
      have first := taken.head
      rw [← written] at first
      simp at first
    | table taken =>
      have behind := List.append_cancel_left (List.cons.inj written).2
      simp only [curly, List.cons.injEq, Token.group.injEq, true_and, and_true] at behind
      rw [behind]
      exact taken
  · exact .table

/-- Code that begins with a test is read test by test. -/
theorem runs_tests {tokens : Tokens} (first : tokens.head? = some (.leaf "if")) :
    Runs subject value tokens code ↔ TakesTest subject value tokens code := by
  constructor
  · intro run
    cases run with
    | nothing => cases first
    | tests taken => exact taken
    | table => simp at first
  · exact .tests

/-- Whatever its style, a selection runs the first arm that has the name. -/
theorem runs_selection (usesTable : Nat → Bool) (arms : List Arm) :
    Runs subject value ((Selection.ofArms usesTable arms).tokens subject) code
      ↔ code = chosen arms value := by
  cases arms with
  | nil => exact runs_nothing
  | cons arm rest =>
    unfold Selection.ofArms
    rw [if_neg (by simp)]
    split
    · rw [← takesRow_rows]
      exact runs_table
    · have first : ((Selection.chain (arm :: rest)).tokens subject).head?
          = some (.leaf "if") := by
        simp [Selection.chain, Selection.tokens]
      rw [runs_tests first]
      exact takesTest_chain

-- =============================================================== drafts

/-- Code that differs in nothing but the style of its selections: they are
tables and chains as the one style says, and as the other says. -/
inductive Alike (style style' : Nat → Bool) : Tokens → Tokens → Prop
  | same (tokens : Tokens) : Alike style style' tokens tokens
  | block {inner inner' : Tokens} (alike : Alike style style' inner inner') :
      Alike style style' [curly inner] [curly inner']
  | selection (subject : Tokens) (arms : List Arm) :
      Alike style style' ((Selection.ofArms style arms).tokens subject)
        ((Selection.ofArms style' arms).tokens subject)
  | append {first first' later later' : Tokens} (alike : Alike style style' first first')
      (alike' : Alike style style' later later') :
      Alike style style' (first ++ later) (first' ++ later')

mutual

/-- However a draft is settled, it comes to the same code. -/
theorem alike_settle (style style' : Nat → Bool) :
    (draft : Draft) → Alike style style' (draft.settle style) (draft.settle style')
  | .plain tokens => .same tokens
  | .block inner => .block (alike_settleAll style style' inner)
  | .select subject arms => .selection subject arms

theorem alike_settleAll (style style' : Nat → Bool) :
    (drafts : Drafts) → Alike style style' (settleAll style drafts) (settleAll style' drafts)
  | [] => .same []
  | draft :: rest =>
    .append (alike_settle style style' draft) (alike_settleAll style style' rest)

end

end DataBinding.Emission

namespace DataBinding

open Code Emission

variable {schema : Schema} {options other : Options}

-- ================================================================= runs

/-- Files that differ in nothing but style: in the banner, and in how their
code selects by names. -/
structure FileInStyle (options other : Options) (file file' : GeneratedFile) : Prop where
  fileName : file'.fileName = file.fileName
  typeName : file'.typeName = file.typeName
  scope : file'.scope = file.scope
  code : ∃ tokens tokens', Alike options.usesBranchTable other.usesBranchTable tokens tokens'
    ∧ file.code = (if options.header then banner else "") ++ Token.texts tokens ++ "\n"
    ∧ file'.code = (if other.header then banner else "") ++ Token.texts tokens' ++ "\n"

/-- What two runs over one schema have made. -/
structure RunInStyle (options other : Options) (generation generation' : Generation) : Prop where
  diagnostics : generation'.diagnostics = generation.diagnostics
  omitted : generation'.omitted = generation.omitted
  units : List.Forall₂ (FileInStyle options other) generation.units generation'.units
  eventUnits :
    List.Forall₂ (FileInStyle options other) generation.eventUnits generation'.eventUnits
  indexes : List.Forall₂ (FileInStyle options other) generation.indexes generation'.indexes

/-- A draft settled in two styles. -/
theorem fileInStyle_settle (options other : Options) (file : FileDraft) :
    FileInStyle options other (file.settle options) (file.settle other) where
  fileName := rfl
  typeName := rfl
  scope := rfl
  code := ⟨_, _, alike_settleAll options.usesBranchTable other.usesBranchTable file.code, rfl, rfl⟩

/-- A drafting settled in two styles. -/
theorem runInStyle_settle (options other : Options) (drafting : Drafting) :
    RunInStyle options other (drafting.settle options) (drafting.settle other) := by
  have files : ∀ drafts : List FileDraft, List.Forall₂ (FileInStyle options other)
      (drafts.map (·.settle options)) (drafts.map (·.settle other)) := by
    intro drafts
    rw [List.forall₂_map_left_iff, List.forall₂_map_right_iff, List.forall₂_same]
    exact fun file _ => fileInStyle_settle options other file
  exact ⟨rfl, rfl, files _, files _, files _⟩

/-- The analysis only passes the options on. -/
theorem analyze_options (schema : Schema) (options other : Options) :
    analyze schema other
      = (analyze schema options).map fun analysis => { analysis with options := other } := by
  unfold analyze
  cases found : (outlines schema).value with
  | error fault => simp only [found, Except.map]
  | ok outlined =>
    cases searched : (eventTypes schema).value <;> simp only [found, searched, Except.map]

/-- Drafts depend on the paths alone. -/
theorem draft_options (samePaths : other.toCodePaths = options.toCodePaths) :
    draft schema other = draft schema options := by
  unfold draft
  rw [analyze_options schema options other, samePaths]
  cases analyze schema options <;> rfl

/-- The styles of a selection may be exchanged. Whatever the options say, the
code of a selection runs the first arm that has the name. And two runs whose
options have the same paths draft the same files, which hence carry the same
enums, and end over the same fault or in files that differ in style. -/
theorem styles_interchangeable :
    (∀ (options : Options) (subject : Tokens) (arms : List Arm) (value : String) (code : Tokens),
        Runs subject value ((Selection.ofArms options.usesBranchTable arms).tokens subject) code
          ↔ code = ((arms.find? (·.name == value)).map (·.body)).getD [])
      ∧ ∀ (schema : Schema) (options other : Options),
        other.toCodePaths = options.toCodePaths →
          (∃ fault, generate schema options = .error fault
              ∧ generate schema other = .error fault)
            ∨ ∃ drafting, draft schema options = .ok drafting ∧ draft schema other = .ok drafting
              ∧ generate schema options = .ok (drafting.settle options)
              ∧ generate schema other = .ok (drafting.settle other)
              ∧ RunInStyle options other (drafting.settle options) (drafting.settle other) := by
  refine ⟨fun options subject arms value code => runs_selection options.usesBranchTable arms, ?_⟩
  intro schema options other samePaths
  have same : draft schema other = draft schema options := draft_options samePaths
  cases drafted : draft schema options with
  | error fault =>
    rw [drafted] at same
    refine Or.inl ⟨fault, ?_, ?_⟩
    · unfold generate
      rw [drafted]
      rfl
    · unfold generate
      rw [same]
      rfl
  | ok drafting =>
    rw [drafted] at same
    exact Or.inr ⟨drafting, rfl, same, generate_of_draft drafted, generate_of_draft same,
      runInStyle_settle options other drafting⟩

/-- The troupe may be written with chains and a banner or with tables and
none, and there are two units either way. Of arms with a name in common both
styles run the first. -/
theorem troupe_in_style :
    (∃ generation generation', generate troupe {} = .ok generation
        ∧ generate troupe { branchThreshold := 0, header := false } = .ok generation'
        ∧ RunInStyle {} { branchThreshold := 0, header := false } generation generation'
        ∧ generation.units.length = 2)
      ∧ ∀ threshold, Runs [.leaf "name"] "b"
        ((Selection.ofArms (Options.usesBranchTable { branchThreshold := threshold })
          [⟨"a", [.leaf "first"]⟩, ⟨"b", [.leaf "second"]⟩, ⟨"b", [.leaf "third"]⟩]).tokens
            [.leaf "name"]) [.leaf "second"] := by
  obtain ⟨drafting, drafted, -, carried⟩ := draft_troupe
  constructor
  · rcases styles_interchangeable.2 troupe {} { branchThreshold := 0, header := false } rfl with
      ⟨fault, failed, -⟩ | ⟨same, drafted', -, settled, settled', inStyle⟩
    · rw [generate_of_draft drafted] at failed
      cases failed
    · refine ⟨_, _, settled, settled', inStyle, ?_⟩
      rw [drafted] at drafted'
      cases drafted'
      have count := congrArg List.length carried
      rw [List.length_map] at count
      exact (List.length_map _).trans count
  · intro threshold
    exact (styles_interchangeable.1 _ _ _ _ _).2 rfl

end DataBinding
