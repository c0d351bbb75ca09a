/-
What a registry of enums remembers over any sequence of calls. Enums are
entered, and noted as carried, in any order; a name may be noted before it is
entered, and both may be repeated.

# Two histories

Neither kind of call looks at what the other kind has left, so a registry is
told by two histories that do not know of each other: what is found under a
name is the first descriptor that was entered under it (`get?_foldl`), and
what counts as carried is what was noted (`isEmitted_foldl`). All that is said
about a whole run, and that nothing is ever taken back, is read off these two.

# Handing out

What is pending is what the two leave over, once each and in the order of
first mention. Noting all of it leaves nothing pending under these names, and
since noting a name concerns this name alone, nothing changes for others
(`pending_markAllEmitted`).
-/
import DataBinding.Proofs.EnumRegistry
import DataBinding.Proofs.FieldOffers

namespace DataBinding

variable {α : Type} {key : α → String}

-- ======================================================== first mentions

/-- It does not matter that a key is taken which no item has. -/
theorem firstOffers_of_foreign {taken : List String} {k : String} {items : List α}
    (foreign : ∀ item ∈ items, key item ≠ k) :
    firstOffers key (k :: taken) items = firstOffers key taken items := by
  induction items generalizing taken with
  | nil => rfl
  | cons item rest ih =>
    obtain ⟨apart, foreignRest⟩ := List.forall_mem_cons.1 foreign
    by_cases old : key item ∈ taken
    · rw [firstOffers_cons_of_mem old, firstOffers_cons_of_mem (List.mem_cons_of_mem k old),
        ih foreignRest]
    · have new : key item ∉ k :: taken := fun inside =>
        (List.mem_cons.1 inside).elim apart old
      have swapped : ∀ other, other ∈ key item :: k :: taken ↔ other ∈ k :: key item :: taken := by
        intro other
        simp only [List.mem_cons]
        exact or_left_comm
      rw [firstOffers_cons_of_not_mem old, firstOffers_cons_of_not_mem new,
        firstOffers_congr swapped, ih foreignRest]

/-- What is made of names, first mentions only, is first offers of what is
made, since what is made of a name has it. -/
theorem filterMap_firstOffers {make? : String → Option α}
    (named : ∀ name made, make? name = some made → key made = name) (taken names : List String) :
    (firstOffers id taken names).filterMap make?
      = firstOffers key taken (names.filterMap make?) := by
  induction names generalizing taken with
  | nil => rfl
  | cons name rest ih =>
    cases makes : make? name with
    | none =>
      rw [List.filterMap_cons_none makes]
      by_cases old : name ∈ taken
      · have known : id name ∈ taken := old
        rw [firstOffers_cons_of_mem known, ih]
      · have new : id name ∉ taken := old
        rw [firstOffers_cons_of_not_mem new, List.filterMap_cons_none makes, ih]
        -- nothing is made of the name, so it does not matter that it is taken
        refine firstOffers_of_foreign fun made among same => ?_
        obtain ⟨other, -, makesOther⟩ := List.mem_filterMap.1 among
        have here : other = name := (named other made makesOther).symm.trans same
        rw [here, makes] at makesOther
        cases makesOther
    | some made =>
      have same : key made = name := named name made makes
      rw [List.filterMap_cons_some makes]
      by_cases old : name ∈ taken
      · have known : id name ∈ taken := old
        rw [firstOffers_cons_of_mem known, firstOffers_cons_of_mem (same ▸ old), ih]
      · have new : id name ∉ taken := old
        rw [firstOffers_cons_of_not_mem new, List.filterMap_cons_some makes, ih,
          firstOffers_cons_of_not_mem (same ▸ old), same]
        rfl

namespace EnumRegistry

-- ================================================================== runs

/-- A call that changes a registry. -/
inductive Call
  | register (descriptor : EnumDescriptor)
  | markEmitted (fullName : String)

/-- The descriptor that a call enters, or would. -/
def Call.descriptor? : Call → Option EnumDescriptor
  | .register descriptor => some descriptor
  | .markEmitted _ => none

def perform (registry : EnumRegistry) : Call → EnumRegistry
  | .register descriptor => registry.register descriptor
  | .markEmitted fullName => registry.markEmitted fullName

/-- What a sequence of calls makes of an empty registry. -/
def after (calls : List Call) : EnumRegistry := calls.foldl perform {}

variable {registry : EnumRegistry} {calls : List Call} {name : String}

/-- Entering a descriptor matters to its own name only, and there only if
nothing was entered before. -/
theorem get?_register (registry : EnumRegistry) (descriptor : EnumDescriptor) (name : String) :
    (registry.register descriptor).get? name
      = (registry.get? name).or (if descriptor.fullName = name then some descriptor else none) := by
  unfold register
  split
  · next taken =>
    split
    · next same =>
      obtain ⟨found, here⟩ := Option.isSome_iff_exists.1 taken
      rw [← same, here]
      rfl
    · exact (Option.or_none).symm
  · unfold get?
    rw [List.find?_append, List.find?_singleton]
    simp only [beq_iff_eq]

theorem get?_markEmitted (registry : EnumRegistry) (carried name : String) :
    (registry.markEmitted carried).get? name = registry.get? name := by
  unfold get?
  rw [entries_markEmitted]

/-- What is found after some calls: what was found before, or else the first
descriptor that they enter under the name. -/
theorem get?_foldl (registry : EnumRegistry) (calls : List Call) (name : String) :
    (calls.foldl perform registry).get? name
      = (registry.get? name).or
          ((calls.filterMap Call.descriptor?).find? (·.fullName == name)) := by
  induction calls generalizing registry with
  | nil => exact (Option.or_none).symm
  | cons call rest ih =>
    rw [List.foldl_cons, ih]
    cases call with
    | register descriptor =>
      have entered : List.filterMap Call.descriptor? (.register descriptor :: rest)
          = descriptor :: rest.filterMap Call.descriptor? := rfl
      rw [perform, get?_register, entered, List.find?_cons, Option.or_assoc]
      by_cases same : descriptor.fullName = name
      · rw [if_pos same, beq_iff_eq.2 same]
        rfl
      · rw [if_neg same, beq_eq_false_iff_ne.2 same]
        rfl
    | markEmitted carried => exact congrArg (Option.or · _) (get?_markEmitted registry carried name)

/-- What counts as carried after some calls: what did before, and what they
note. -/
theorem isEmitted_foldl :
    (calls.foldl perform registry).isEmitted name = true
      ↔ registry.isEmitted name = true ∨ .markEmitted name ∈ calls := by
  induction calls generalizing registry with
  | nil => simp
  | cons call rest ih =>
    rw [List.foldl_cons, ih, List.mem_cons, ← or_assoc]
    refine or_congr_left ?_
    cases call with
    | register descriptor =>
      rw [isEmitted_iff, isEmitted_iff, perform, emitted_register]
      exact (or_iff_left nofun).symm
    | markEmitted carried =>
      rw [isEmitted_iff, isEmitted_iff, perform, mem_emitted_markEmitted, Call.markEmitted.injEq]

theorem get?_after (calls : List Call) (name : String) :
    (after calls).get? name = (calls.filterMap Call.descriptor?).find? (·.fullName == name) :=
  get?_foldl {} calls name

theorem after_append (before later : List Call) :
    after (before ++ later) = later.foldl perform (after before) :=
  List.foldl_append

/-- What was found before is found later. -/
theorem get?_of_before {before later : List Call} {descriptor : EnumDescriptor}
    (found : (after before).get? name = some descriptor) :
    (after (before ++ later)).get? name = some descriptor := by
  rw [after_append, get?_foldl, found]
  rfl

theorem contains_after :
    (after calls).contains name = true
      ↔ ∃ descriptor, .register descriptor ∈ calls ∧ descriptor.fullName = name := by
  unfold contains
  rw [get?_after, List.find?_isSome]
  constructor
  · rintro ⟨descriptor, among, same⟩
    obtain ⟨call, inside, enters⟩ := List.mem_filterMap.1 among
    cases call with
    | register => cases enters; exact ⟨descriptor, inside, beq_iff_eq.1 same⟩
    | markEmitted => cases enters
  · rintro ⟨descriptor, inside, same⟩
    exact ⟨descriptor, List.mem_filterMap.2 ⟨_, inside, rfl⟩, beq_iff_eq.2 same⟩

/-- A descriptor is added exactly if nothing was entered under its name. -/
theorem admits_after {descriptor : EnumDescriptor} :
    (after calls).admits descriptor = true
      ↔ ∀ earlier, .register earlier ∈ calls → earlier.fullName ≠ descriptor.fullName := by
  unfold admits
  rw [Bool.not_eq_true', ← Bool.not_eq_true, contains_after]
  exact ⟨fun new earlier inside same => new ⟨earlier, inside, same⟩,
    fun new ⟨earlier, inside, same⟩ => new earlier inside same⟩

-- =============================================================== pending

/-- The descriptor that is handed out under a name. -/
def awaited? (registry : EnumRegistry) (name : String) : Option EnumDescriptor :=
  if registry.isEmitted name then none else registry.get? name

theorem fullName_of_awaited? {descriptor : EnumDescriptor}
    (awaited : registry.awaited? name = some descriptor) : descriptor.fullName = name := by
  unfold awaited? at awaited
  split at awaited
  · cases awaited
  · exact fullName_of_get? awaited

/-- A name is handed out if it is entered and not carried. -/
theorem isSome_awaited? :
    (registry.awaited? name).isSome = true
      ↔ registry.contains name = true ∧ registry.isEmitted name = false := by
  unfold awaited? contains
  split
  · next carried => simp [carried]
  · next free => simp [free]

/-- What is pending are first offers of what is awaited. -/
theorem pending_eq (registry : EnumRegistry) (names : List String) :
    registry.pending names = firstOffers (·.fullName) [] (names.filterMap registry.awaited?) := by
  have first : names.eraseDups = firstOffers id [] names := eraseDupsBy_eq names
  unfold pending
  rw [← filterMap_firstOffers (fun name made => fullName_of_awaited?), ← first,
    List.filterMap_filter]
  refine List.filterMap_congr fun name _ => ?_
  unfold awaited?
  cases registry.isEmitted name <;> rfl

/-- A name is mentioned here first, is entered, and is not carried. -/
def FirstAsked (registry : EnumRegistry) (names : List String) (i : Nat) : Prop :=
  ∃ name ∈ names[i]?, registry.contains name = true ∧ registry.isEmitted name = false
    ∧ ∀ j < i, names[j]? ≠ some name

instance (registry : EnumRegistry) (names : List String) :
    DecidablePred (registry.FirstAsked names) :=
  fun i => inferInstanceAs (Decidable (∃ name ∈ names[i]?, _))

/-- The names that something is awaited under stand where they did. -/
theorem nameAt?_awaited? {names : List String} {i : Nat} :
    nameAt? (·.fullName) registry.awaited? names i = some name
      ↔ names[i]? = some name ∧ registry.contains name = true
        ∧ registry.isEmitted name = false := by
  unfold nameAt?
  rw [Option.bind_eq_some_iff]
  constructor
  · rintro ⟨mentioned, here, made⟩
    obtain ⟨descriptor, awaited, rfl⟩ := Option.map_eq_some_iff.1 made
    rw [fullName_of_awaited? awaited]
    exact ⟨here, isSome_awaited?.1 (Option.isSome_of_eq_some awaited)⟩
  · rintro ⟨here, asked⟩
    obtain ⟨descriptor, awaited⟩ := Option.isSome_iff_exists.1 (isSome_awaited?.2 asked)
    exact ⟨name, here, by rw [awaited, Option.map_some, fullName_of_awaited? awaited]⟩

theorem firstAsked_iff {names : List String} {i : Nat} :
    registry.FirstAsked names i
      ↔ FirstAt (nameAt? (·.fullName) registry.awaited? names) i := by
  constructor
  · rintro ⟨name, here, entered, free, new⟩
    have stands := nameAt?_awaited?.2 ⟨here, entered, free⟩
    refine ⟨by rw [stands]; exact Option.some_ne_none name, fun j earlier same => ?_⟩
    rw [stands] at same
    exact new j earlier (nameAt?_awaited?.1 same).1
  · rintro ⟨present, new⟩
    obtain ⟨name, stands⟩ := Option.ne_none_iff_exists'.1 present
    obtain ⟨here, entered, free⟩ := nameAt?_awaited?.1 stands
    refine ⟨name, here, entered, free, fun j earlier same => new j earlier ?_⟩
    rw [stands]
    exact nameAt?_awaited?.2 ⟨same, entered, free⟩

/-- What is pending is what is found at the positions of first mentions. -/
theorem pending_at (registry : EnumRegistry) (names : List String) :
    List.Forall₂
      (fun i descriptor => names[i]? = some descriptor.fullName
        ∧ registry.get? descriptor.fullName = some descriptor)
      ((List.range names.length).filter (registry.FirstAsked names)) (registry.pending names) := by
  have positions : (List.range names.length).filter (registry.FirstAsked names)
      = (List.range names.length).filter
          (FirstAt (nameAt? (·.fullName) registry.awaited? names)) :=
    List.filter_congr fun i _ => decide_eq_decide.2 firstAsked_iff
  rw [positions, pending_eq]
  refine (firstOffers_at names).imp fun i descriptor made => ?_
  obtain ⟨name, here, awaited⟩ := made
  rw [fullName_of_awaited? awaited]
  refine ⟨here, ?_⟩
  unfold awaited? at awaited
  split at awaited
  · cases awaited
  · exact awaited

-- ============================================================ handing out

/-- What is pending is a matter of the entries, and of what is carried of the
names. -/
theorem pending_congr {other : EnumRegistry} {names : List String}
    (entries : registry.entries = other.entries)
    (carried : ∀ name ∈ names, registry.isEmitted name = other.isEmitted name) :
    registry.pending names = other.pending names := by
  have same : registry.get? = other.get? := by
    funext name
    unfold get?
    rw [entries]
  unfold pending
  rw [same, List.filter_congr fun name inside => by
    rw [carried name (List.mem_eraseDups.1 inside)]]

theorem isEmitted_markAllEmitted {carried : List String} :
    (registry.markAllEmitted carried).isEmitted name = true
      ↔ registry.isEmitted name = true ∨ name ∈ carried := by
  rw [isEmitted_iff, isEmitted_iff, mem_emitted_markAllEmitted]

/-- Once all that was pending is noted, nothing is pending under the same
names. -/
theorem pending_markAllEmitted (registry : EnumRegistry) (names : List String) :
    (registry.markAllEmitted ((registry.pending names).map (·.fullName))).pending names = [] := by
  refine List.eq_nil_iff_forall_not_mem.2 fun descriptor inside => ?_
  obtain ⟨asked, entered, free⟩ := mem_pending.1 (List.mem_map_of_mem inside)
  rw [mem_emitted_markAllEmitted, not_or] at free
  rw [contains_congr (entries_markAllEmitted registry _)] at entered
  exact free.2 (mem_pending.2 ⟨asked, entered, free.1⟩)

/-- Noting some names changes nothing for others. -/
theorem pending_of_others {carried others : List String}
    (apart : ∀ name ∈ others, name ∉ carried) :
    (registry.markAllEmitted carried).pending others = registry.pending others := by
  refine pending_congr (entries_markAllEmitted registry carried) fun name inside => ?_
  rw [Bool.eq_iff_iff, isEmitted_markAllEmitted]
  exact or_iff_left (apart name inside)

-- ============================================================ the protocol

/-- What a registry remembers of the calls that made it. -/
structure Remembers (calls : List Call) : Prop where
  /-- A call to enter a descriptor is told that it was added exactly if it is
  the first one under its name. -/
  answers : ∀ before descriptor later, calls = before ++ .register descriptor :: later →
    ((after before).admits descriptor = true
      ↔ ∀ earlier, .register earlier ∈ before → earlier.fullName ≠ descriptor.fullName)
  /-- What is added then is what is found ever after. -/
  stored : ∀ before descriptor later, calls = before ++ .register descriptor :: later →
    (after before).admits descriptor = true →
      (after calls).get? descriptor.fullName = some descriptor
  entered : ∀ name, (after calls).contains name = true
    ↔ ∃ descriptor, .register descriptor ∈ calls ∧ descriptor.fullName = name
  carried : ∀ name, (after calls).isEmitted name = true ↔ .markEmitted name ∈ calls
  /-- Nothing is taken back. -/
  keeps : ∀ before later, calls = before ++ later → ∀ name,
    (∀ descriptor, (after before).get? name = some descriptor →
        (after calls).get? name = some descriptor)
      ∧ ((after before).contains name = true → (after calls).contains name = true)
      ∧ ((after before).isEmitted name = true → (after calls).isEmitted name = true)

/-- How a registry hands out what is pending under some names. -/
structure HandsOut (registry : EnumRegistry) (names : List String) : Prop where
  /-- What is entered and not carried is handed out once each, in the order of
  first mention, and as it was entered. -/
  pending : List.Forall₂
    (fun i descriptor => names[i]? = some descriptor.fullName
      ∧ registry.get? descriptor.fullName = some descriptor)
    ((List.range names.length).filter (registry.FirstAsked names)) (registry.pending names)
  /-- Once it is noted, there is nothing left under these names. -/
  drained :
    (registry.markAllEmitted ((registry.pending names).map (·.fullName))).pending names = []
  /-- Under names that are not among what was noted nothing changes. -/
  others : ∀ others : List String,
    (∀ name ∈ others, name ∉ (registry.pending names).map (·.fullName)) →
      (registry.markAllEmitted ((registry.pending names).map (·.fullName))).pending others
        = registry.pending others

theorem remembers (calls : List Call) : Remembers calls where
  answers before descriptor later _ := admits_after
  stored := by
    rintro before descriptor later rfl new
    have missing : (after before).get? descriptor.fullName = none := by
      simpa [admits, contains] using new
    rw [after_append, get?_foldl, missing, Option.none_or]
    exact List.find?_cons_of_pos (beq_iff_eq.2 rfl)
  entered name := contains_after
  carried name := isEmitted_foldl.trans (or_iff_right Bool.false_ne_true)
  keeps := by
    rintro before later rfl name
    refine ⟨fun descriptor => get?_of_before, fun entered => ?_, fun noted => ?_⟩
    · obtain ⟨descriptor, found⟩ := Option.isSome_iff_exists.1 entered
      exact Option.isSome_of_eq_some (get?_of_before found)
    · rw [after_append]
      exact isEmitted_foldl.2 (Or.inl noted)

theorem handsOut (registry : EnumRegistry) (names : List String) : HandsOut registry names where
  pending := registry.pending_at names
  drained := registry.pending_markAllEmitted names
  others _ := pending_of_others

/-- A registry only grows, and hands out each enum once: whatever calls have
made it, it remembers the first descriptor of each name and all that was
noted, and what it hands out under some names and is told about is not handed
out again. -/
theorem remembers_and_handsOut (calls : List Call) :
    Remembers calls ∧ ∀ names, HandsOut (after calls) names :=
  ⟨remembers calls, handsOut (after calls)⟩

/-- An enum may be noted before it is entered, and then is never pending. -/
example :
    let mood : EnumDescriptor := ⟨"game::Mood", false, []⟩
    let rank : EnumDescriptor := ⟨"game::Rank", false, []⟩
    let made := after [.markEmitted "game::Mood", .register rank, .register mood,
      .register { rank with isFlags := true }]
    made.pending ["game::Rank", "game::Mood", "game::Rank", "game::Ghost"] = [rank] := by
  decide +kernel

end EnumRegistry

end DataBinding
