/-
Whether the names that are made from property names are told apart. The
properties of a type have distinct names, but its methods are named in snake
case, which makes one name of `HitPoints` and `Hit_points`; and the setter
of `Hp` has the name of the getter of `SetHp`. So the accessors of a type may
define a method twice, and in a setter two locals that keep values may have
one name, of which the second hides the first.

# How far names go

Methods are distinct just when snake case keeps the property names apart and
makes none of them the setter of another (`AccessorNames`). Between names of
capitalised words only the latter can happen, and no local hides another.
Names as such and names as words of code are the same question, since no two
names are written alike (`name_injective`).
-/
import DataBinding.Proofs.FollowUps
import DataBinding.Proofs.SnakeCase
import Mathlib.Data.List.Nodup
import Mathlib.Data.List.Perm.Basic

namespace DataBinding.Emission

open Code Text

variable {schema : Schema} {options : Options} {analysis : Analysis}

-- ================================================================ writing

/-- No two texts are written as one word. -/
theorem word_injective : Function.Injective word := by
  intro one other same
  unfold word at same
  split at same <;> split at same <;> cases same <;> rfl

/-- What is written raw is no word by itself. -/
theorem isName_raw (text : String) : isName ("r#" ++ text).toList = false := by
  have sign : continuesName '#' = false := by decide +kernel
  rw [String.toList_append, show "r#".toList = ['r', '#'] from rfl]
  simp [isName, sign]

/-- Making a word of a text neither writes a name raw nor refuses one. -/
theorem word_ne (text other : String) :
    word text ≠ .ok (.leaf ("r#" ++ other)) ∧ word text ≠ .error (.invalidName other) := by
  unfold word
  split
  · next isWord =>
    refine ⟨fun same => ?_, nofun⟩
    cases same
    rw [isName_raw] at isWord
    cases isWord
  · exact ⟨nofun, nofun⟩

/-- A name is refused, written raw, or a word. -/
theorem name_cases (text : String) :
    name text = .error (.invalidName text) ∨ name text = .ok (.leaf ("r#" ++ text))
      ∨ name text = word text := by
  unfold name
  split
  · exact Or.inl rfl
  · split
    · exact Or.inr (Or.inl rfl)
    · exact Or.inr (Or.inr rfl)

/-- No two names are written alike, raw or not. -/
theorem name_injective : Function.Injective name := by
  intro one other same
  obtain refused | raw | isWord := name_cases one
    <;> obtain refused' | raw' | isWord' := name_cases other
    <;> simp only [*] at same
  case inl.inl => simpa using same
  case inr.inl.inr.inl => simpa using same
  case inr.inr.inr.inr => exact word_injective same
  case inl.inr.inr => exact absurd same.symm (word_ne other one).2
  case inr.inl.inr.inr => exact absurd same.symm (word_ne other one).1
  case inr.inr.inl => exact absurd same (word_ne one other).2
  case inr.inr.inr.inl => exact absurd same (word_ne one other).1
  all_goals cases same

-- ================================================================ methods

/-- The names of the methods that the accessors of a type are. -/
def methodNames (type : TypeDescriptor) : List String :=
  type.accessors.flatMap fun property => [property.getterName, property.setterName]

/-- The code of a method: attributes, its name, and all the rest. -/
structure EmittedMethod where
  attributes : Tokens
  word : Token
  rest : Tokens

def EmittedMethod.code (method : EmittedMethod) : Tokens :=
  method.attributes ++ leaves "pub fn" ++ method.word :: method.rest

variable {site : Site} {type : TypeDescriptor} {property : Property} {code : Tokens}

/-- A getter is a method of its name. -/
theorem getter_defines (emitted : getter site property = .ok code) :
    ∃ method : EmittedMethod, code = method.code ∧ name property.getterName = .ok method.word := by
  unfold getter at emitted
  obtain ⟨field, -, emitted⟩ := bind_eq_ok.1 emitted
  obtain ⟨word, named, emitted⟩ := bind_eq_ok.1 emitted
  obtain ⟨result, -, emitted⟩ := bind_eq_ok.1 emitted
  obtain ⟨onGet, -, emitted⟩ := bind_eq_ok.1 emitted
  cases emitted
  let rest := round (leaves "& self") :: .leaf "->"
    :: (result ++ [curly (onGet ++ getterBody property.category field)])
  exact ⟨⟨docAttributes property.doc ++ wordAttribute "must_use", word, rest⟩,
    by simp [EmittedMethod.code, rest], named⟩

/-- A setter is a method of its name. -/
theorem setter_defines (emitted : setter site type property = .ok code) :
    ∃ method : EmittedMethod, code = method.code ∧ name property.setterName = .ok method.word := by
  unfold setter at emitted
  obtain ⟨field, -, emitted⟩ := bind_eq_ok.1 emitted
  obtain ⟨word, named, emitted⟩ := bind_eq_ok.1 emitted
  obtain ⟨stored, -, emitted⟩ := bind_eq_ok.1 emitted
  obtain ⟨before, -, emitted⟩ := bind_eq_ok.1 emitted
  obtain ⟨after, -, emitted⟩ := bind_eq_ok.1 emitted
  obtain ⟨further, -, emitted⟩ := bind_eq_ok.1 emitted
  cases emitted
  exact ⟨⟨_, word, _⟩, rfl, named⟩

/-- Getters and setters in turn are methods of their names. -/
theorem pairs_define {properties : List Property} {pairs : List Tokens}
    (each : List.Forall₂
      (fun property pair => (do
        return (← getter site property) ++ (← setter site type property)) = .ok pair)
      properties pairs) :
    ∃ methods : List EmittedMethod, pairs.flatten = methods.flatMap EmittedMethod.code
      ∧ methods.map (fun method => .ok method.word)
        = (properties.flatMap fun property =>
            [property.getterName, property.setterName]).map name := by
  induction each with
  | nil => exact ⟨[], rfl, rfl⟩
  | cons here later ih =>
    obtain ⟨methods, codes, words⟩ := ih
    obtain ⟨_, got, here⟩ := bind_eq_ok.1 here
    obtain ⟨_, written, here⟩ := bind_eq_ok.1 here
    cases here
    obtain ⟨reading, rfl, readingNamed⟩ := getter_defines got
    obtain ⟨writing, rfl, writingNamed⟩ := setter_defines written
    refine ⟨reading :: writing :: methods, ?_, ?_⟩
    · rw [List.flatten_cons, codes, List.append_assoc]
      rfl
    · rw [List.flatMap_cons, List.map_append, ← words, List.map_cons, List.map_cons,
        ← readingNamed, ← writingNamed]
      rfl

/-- The accessors of a type are methods of its method names, one after the
other. -/
theorem accessors_define (emitted : accessors site type = .ok code) :
    ∃ methods : List EmittedMethod, code = methods.flatMap EmittedMethod.code
      ∧ methods.map (fun method => .ok method.word) = (methodNames type).map name := by
  unfold accessors at emitted
  obtain ⟨pairs, each, emitted⟩ := bind_eq_ok.1 emitted
  cases emitted
  exact pairs_define (forall₂_of_mapM_ok each)

-- ================================================================= locals

/-- A follow-up keeps the value of its property in the local of that name,
and hands what is in the local to those who hear of the change. -/
def Keeps (target : String) (further : FollowUp) : Prop :=
  ∃ kept value pushed changed, keptLocal target = .ok kept
    ∧ further.capture = leaves "let" ++ kept :: value
    ∧ further.after = pushed ++ leaves "if" ++ changed ++ [curly (fireStatement target kept)]

/-- Where changes raise an event, every follow-up keeps a value. -/
theorem followUp_keeps (raises : type.raisesEvents = true) {target : String}
    {further : FollowUp} (emitted : followUp site type target property = .ok further) :
    Keeps target further := by
  unfold followUp at emitted
  obtain ⟨read, -, emitted⟩ := bind_eq_ok.1 emitted
  simp only [raises, if_true] at emitted
  obtain ⟨kept, named, emitted⟩ := bind_eq_ok.1 emitted
  cases emitted
  exact ⟨kept, _, _, _, named, rfl, rfl⟩

/-- So do those of a setter, one for each property that is notified along,
since a type lists all of these. -/
theorem followUps_keep (run : analyze schema options = .ok analysis)
    (listed : type ∈ analysis.types) (own : property ∈ type.own)
    (raises : type.raisesEvents = true) {further : List FollowUp}
    (emitted : followUps site type property = .ok further) :
    List.Forall₂ Keeps property.alsoNotify further := by
  have known : ∀ target ∈ property.alsoNotify, ∃ entry, type.merged? target = some entry := by
    intro target along
    obtain ⟨entry, -, found, -⟩ := routed_of_own run listed own along
    exact ⟨entry, found⟩
  have each := forall₂_of_mapM_ok emitted
  clear emitted
  generalize property.alsoNotify = targets at known each ⊢
  induction targets generalizing further with
  | nil =>
    cases each
    exact .nil
  | cons target rest ih =>
    obtain ⟨entry, found⟩ := known target List.mem_cons_self
    rw [List.filterMap_cons, found, Option.map_some] at each
    cases each with
    | cons here later =>
      exact .cons (followUp_keeps raises here)
        (ih (fun other along => known other (List.mem_cons_of_mem target along)) later)

-- ============================================================= told apart

/-- Some names and those of their setters are distinct just when the names
are, and none of them is the setter of another. -/
theorem nodup_pairs {names : List String} :
    (names.flatMap fun name => [name, "set_" ++ name]).Nodup
      ↔ names.Nodup ∧ ∀ one ∈ names, ∀ other ∈ names, one ≠ "set_" ++ other := by
  have apart : (names ++ names.map ("set_" ++ ·)).Perm
      (names.flatMap fun name => [name, "set_" ++ name]) := by
    rw [List.map_eq_flatMap]
    simpa using List.map_append_flatMap_perm names id fun name => ["set_" ++ name]
  rw [← apart.nodup_iff, List.nodup_append,
    List.nodup_map_iff fun one other => (String.append_right_inj "set_").1]
  constructor
  · rintro ⟨distinct, -, none⟩
    exact ⟨distinct, fun one here other there => none one here _ (List.mem_map_of_mem there)⟩
  · rintro ⟨distinct, none⟩
    refine ⟨distinct, distinct, fun one here setter among => ?_⟩
    obtain ⟨other, there, rfl⟩ := List.mem_map.1 among
    exact none one here other there

/-- How far the names around the accessors of a type are told apart. -/
structure AccessorNames (type : TypeDescriptor) : Prop where
  /-- Properties have distinct names. -/
  properties : (type.accessors.map (·.name)).Nodup
  /-- Methods have them just when snake case keeps those of the properties
  apart and makes none of them the setter of another. -/
  methods : (methodNames type).Nodup
    ↔ (type.accessors.map fun property => snakeCase property.name).Nodup
      ∧ ∀ one ∈ type.accessors, ∀ other ∈ type.accessors,
          snakeCase one.name ≠ "set_" ++ snakeCase other.name
  /-- When the names are of capitalised words, only the latter can happen. -/
  capitalised : (∀ property ∈ type.accessors, Capitalised property.name) →
    ((methodNames type).Nodup
      ↔ ∀ one ∈ type.accessors, ∀ other ∈ type.accessors, one.name ≠ "Set" ++ other.name)
  /-- The code defines a method twice just when two of the names are one. -/
  defined : ∀ site code, accessors site type = .ok code →
    ∃ methods : List EmittedMethod, code = methods.flatMap EmittedMethod.code
      ∧ methods.map (fun method => .ok method.word) = (methodNames type).map name
      ∧ ((methods.map (·.word)).Nodup ↔ (methodNames type).Nodup)
  /-- Where changes raise an event, a setter keeps a value for each property
  that is notified along. -/
  kept : type.raisesEvents = true → ∀ site, ∀ property ∈ type.accessors,
    ∀ further, followUps site type property = .ok further →
      List.Forall₂ Keeps property.alsoNotify further
  /-- Two of them share a local when snake case merges their names, which it
  does not do to names of capitalised words. -/
  locals : ∀ property ∈ type.accessors,
    ∀ target ∈ property.alsoNotify, ∀ other ∈ property.alsoNotify,
      (keptLocal target = keptLocal other ↔ snakeCase target = snakeCase other)
      ∧ (Capitalised target → Capitalised other →
          (keptLocal target = keptLocal other ↔ target = other))

/-- The method names of an analysed type: snake case, and that with a word
in front. -/
theorem methodNames_eq (run : analyze schema options = .ok analysis)
    (listed : type ∈ analysis.types) :
    methodNames type
      = (type.accessors.map fun property => snakeCase property.name).flatMap
          fun name => [name, "set_" ++ name] := by
  rw [List.flatMap_map]
  refine List.flatMap_congr fun property accessor => ?_
  obtain ⟨field, offered, -, made, same⟩ :=
    own_of_analyze run listed (List.mem_of_mem_filter accessor)
  have backing : property.backing = .field field.name := by
    rw [same]
    exact made.backing
  rw [Property.getterName, Property.getterFn?, backing]
  rfl

theorem keptLocal_inj {target other : String} :
    keptLocal target = keptLocal other ↔ snakeCase target = snakeCase other := by
  refine ⟨fun same => ?_, fun same => by rw [keptLocal, same, keptLocal]⟩
  exact (String.append_right_inj "prev_").1 (word_injective same)

/-- Words of distinct names, as emitted or not, are distinct. -/
theorem nodup_words {names : List String} {methods : List EmittedMethod}
    (named : methods.map (fun method => .ok method.word) = names.map name) :
    (methods.map (·.word)).Nodup ↔ names.Nodup := by
  have emitted : methods.map (fun method => (.ok method.word : Emit Token))
      = (methods.map (·.word)).map .ok := by
    rw [List.map_map]
    rfl
  rw [← List.nodup_map_iff name_injective, ← named, emitted,
    List.nodup_map_iff fun _ _ => Except.ok.inj]

/-- Names around accessors are told apart as far as snake case goes. -/
theorem names_told_apart (run : analyze schema options = .ok analysis)
    (listed : type ∈ analysis.types) : AccessorNames type := by
  have properties : (type.accessors.map (·.name)).Nodup :=
    (own_nodup run listed).sublist (List.filter_sublist.map _)
  have methods : (methodNames type).Nodup
      ↔ (type.accessors.map fun property => snakeCase property.name).Nodup
        ∧ ∀ one ∈ type.accessors, ∀ other ∈ type.accessors,
            snakeCase one.name ≠ "set_" ++ snakeCase other.name := by
    rw [methodNames_eq run listed, nodup_pairs]
    simp only [List.forall_mem_map]
  refine ⟨properties, methods, fun capitalised => ?_, fun site code emitted => ?_,
    fun raises site property accessor further emitted => ?_,
    fun property _ target _ other _ => ⟨keptLocal_inj, fun capital otherToo => ?_⟩⟩
  · have apart : (type.accessors.map fun property => snakeCase property.name).Nodup := by
      refine List.Nodup.map_on (fun one here other there same => ?_) properties.of_map
      have named := ((capitalised one here).snakeCase_inj (capitalised other there)).1 same
      exact List.inj_on_of_nodup_map properties here there named
    rw [methods]
    constructor
    · rintro ⟨-, none⟩ one here other there same
      exact none one here other there
        (((capitalised one here).snakeCase_eq_set (capitalised other there)).2 same)
    · intro none
      refine ⟨apart, fun one here other there same => none one here other there ?_⟩
      exact ((capitalised one here).snakeCase_eq_set (capitalised other there)).1 same
  · obtain ⟨methods, codes, named⟩ := accessors_define emitted
    exact ⟨methods, codes, named, nodup_words named⟩
  · exact followUps_keep run listed (List.mem_of_mem_filter accessor) raises emitted
  · rw [keptLocal_inj, capital.snakeCase_inj otherToo]

-- ============================================================== a tourney

/-- A knight with two names for hit points, both notified along with the
gold, and a squire with names of capitalised words. -/
def tourney : Schema where
  types :=
    [boundClass "Knight" none
      [{ name := "_hitPoints", type := "i32" },
       { name := "_hit_points", type := "i32" },
       { name := "_gold"
         type := "i32"
         attributes := [.alsoNotify "HitPoints", .alsoNotify "Hit_points"] }],
     boundClass "Squire" none
      [{ name := "_health", type := "i32" },
       { name := "_maxHealth", type := "i32", attributes := [.alsoNotify "Health"] }]]

/-- The knight is emitted with both getters and both setters of one name,
and what the gold notifies along has one local for both. -/
theorem knight_names_collide :
    ∃ analysis drafting, analyze tourney {} = .ok analysis ∧ draft tourney {} = .ok drafting
      ∧ drafting.omitted = []
      ∧ ∃ knight ∈ analysis.types, knight.fullName = "game::Knight"
        ∧ ¬ (methodNames knight).Nodup
        ∧ ∃ gold ∈ knight.accessors, ∃ target ∈ gold.alsoNotify, ∃ other ∈ gold.alsoNotify,
            target ≠ other ∧ keptLocal target = keptLocal other := by
  have written : WrittenInOrder tourney := by decide +kernel
  obtain ⟨analysis, run, types, -, -⟩ := analyze_asWritten written {}
  have emitted : (emitTypes {} (enumsAsWritten tourney) (typesAsWritten tourney)).map
      (List.filterMap Outcome.omission?) = .ok [] := by
    decide +kernel
  obtain ⟨outcomes, typed, complete⟩ := except_map_eq_ok.1 emitted
  obtain ⟨drafting, drafted, bound, exposed⟩ :=
    @draft_asWritten tourney {} written outcomes [] typed rfl
  have omitted : drafting.omitted = [] := by
    rw [Drafting.omitted, bound, exposed, List.append_nil, complete]
  have found : ∃ knight ∈ typesAsWritten tourney, knight.fullName = "game::Knight"
      ∧ ¬ (methodNames knight).Nodup
      ∧ ∃ gold ∈ knight.accessors, ∃ target ∈ gold.alsoNotify, ∃ other ∈ gold.alsoNotify,
          target ≠ other ∧ snakeCase target = snakeCase other := by
    decide +kernel
  rw [← types] at found
  simp only [← keptLocal_inj] at found
  exact ⟨analysis, drafting, run, drafted, omitted, found⟩

/-- The squire has its methods told apart, and no name is the setter of
another. -/
theorem squire_names_apart :
    ∃ analysis, analyze tourney {} = .ok analysis
      ∧ ∃ squire ∈ analysis.types, squire.fullName = "game::Squire"
        ∧ AccessorNames squire ∧ (methodNames squire).Nodup := by
  obtain ⟨analysis, run, types, -, -⟩ :=
    @analyze_asWritten tourney (by decide +kernel) {}
  have found : ∃ squire ∈ typesAsWritten tourney, squire.fullName = "game::Squire"
      ∧ (∀ property ∈ squire.accessors, Capitalised property.name)
      ∧ ∀ one ∈ squire.accessors, ∀ other ∈ squire.accessors,
          one.name ≠ "Set" ++ other.name := by
    decide +kernel
  rw [← types] at found
  obtain ⟨squire, listed, named, capitalised, none⟩ := found
  have apart := names_told_apart run listed
  exact ⟨analysis, run, squire, listed, named, apart, (apart.capitalised capitalised).2 none⟩

end DataBinding.Emission
