/-
What a model sends of itself, be it all of its properties or those of one
name. Of one name it sends what it sends of that name with all others.

# One list of properties

Types send their properties in turn, and of one name each type sends the
property that it finds first. Names are distinct within a type, so sending
by name goes through the same properties as sending all, less those of other
names (`sendAll_eq`, `sendOne_eq`).

# What a reading leaves

Reading a property may count, but what is counted is not shown, so
everything sent is as it was at the start (`Announcing.sent_eq`). Only the
readings of the mana of players are counted, and each of them goes with an
entry that is sent.

# When the count is full

The count has 32 bits. When it is full the mana cannot be read, and sending
ends where it stands: what comes before it is sent, and the rest is not. A
name other than that of the mana is sent all the same.
-/
import Mathlib.Data.List.TakeWhile
import DataBinding.Proofs.Dispatch

namespace DataBinding

variable {σ τ : Type}

-- ================================================================ in turn

theorem sendInTurn_cons (send : StateM σ Sent) (rest : List (StateM σ Sent)) (state : σ) :
    sendInTurn (send :: rest) state
      = if (send state).1.overflows then send state
        else
          ({ (sendInTurn rest (send state).2).1 with
              entries := (send state).1.entries ++ (sendInTurn rest (send state).2).1.entries },
            (sendInTurn rest (send state).2).2) := by
  have run : sendInTurn (send :: rest) state
      = (if (send state).1.overflows then pure (send state).1
          else do
            let later ← sendInTurn rest
            return { later with entries := (send state).1.entries ++ later.entries } :
          StateM σ Sent) (send state).2 := rfl
  rw [run]
  split <;> rfl

/-- If one ends early, nothing is sent behind it. -/
theorem sendInTurn_of_overflows {send : StateM σ Sent} {state : σ}
    (early : (send state).1.overflows = true) (rest : List (StateM σ Sent)) :
    sendInTurn (send :: rest) state = send state := by
  rw [sendInTurn_cons, if_pos early]

theorem sendInTurn_of_ends {send : StateM σ Sent} {state : σ}
    (ends : ¬ (send state).1.overflows = true) (rest : List (StateM σ Sent)) :
    sendInTurn (send :: rest) state
      = ({ (sendInTurn rest (send state).2).1 with
            entries := (send state).1.entries ++ (sendInTurn rest (send state).2).1.entries },
          (sendInTurn rest (send state).2).2) := by
  rw [sendInTurn_cons, if_neg ends]

/-- A group in front is sent as all that is in it. -/
theorem sendInTurn_group (group rest : List (StateM σ Sent)) :
    sendInTurn (sendInTurn group :: rest) = sendInTurn (group ++ rest) := by
  induction group with
  | nil =>
    funext state
    exact sendInTurn_of_ends Bool.false_ne_true rest
  | cons send group ih =>
    funext state
    -- the group ends with its first, further in, or not at all
    by_cases early : (send state).1.overflows = true
    · have whole := sendInTurn_of_overflows early group
      rw [List.cons_append, sendInTurn_of_overflows early, sendInTurn_of_overflows, whole]
      rw [whole]
      exact early
    · have whole := sendInTurn_of_ends early group
      rw [List.cons_append, sendInTurn_of_ends early, ← ih]
      by_cases again : (sendInTurn group (send state).2).1.overflows = true
      · rw [sendInTurn_of_overflows again, sendInTurn_of_overflows, whole]
        rw [whole]
        exact again
      · rw [sendInTurn_of_ends again, sendInTurn_of_ends, whole]
        · exact congrArg (fun entries => (Sent.mk entries _, _)) (List.append_assoc _ _ _)
        · rw [whole]
          exact again

/-- Groups in turn are all that is in them in turn. -/
theorem sendInTurn_flatMap {ι : Type} (items : List ι) (group : ι → List (StateM σ Sent)) :
    sendInTurn (items.map fun item => sendInTurn (group item))
      = sendInTurn (items.flatMap group) := by
  induction items with
  | nil => rfl
  | cons item rest ih =>
    rw [List.flatMap_cons, ← sendInTurn_group, List.map_cons, sendInTurn, ih, ← sendInTurn]

-- ============================================================ what is sent

namespace Accessor

variable (accessor : Accessor σ)

/-- The property can be read: there is room for what its getter counts. -/
def readable (state : σ) : Bool := (accessor.onGet state).isSome

/-- What is sent of a property. -/
def entry (state : σ) : Entry := (accessor.name, accessor.wired state)

variable {accessor}

theorem send_eq (accessor : Accessor σ) (state : σ) :
    accessor.send state
      = (match (accessor.fetch state).1 with
          | .ok value => { entries := [(accessor.name, accessor.kind.wire value)] }
          | .error _ => { overflows := true },
        accessor.seen state) := by
  have run : accessor.send state
      = (match (accessor.fetch state).1 with
          | .ok value => return { entries := [(accessor.name, accessor.kind.wire value)] }
          | .error _ => return { overflows := true } :
        StateM σ Sent) (accessor.fetch state).2 := rfl
  rw [run, accessor.fetch_snd]
  cases (accessor.fetch state).1 <;> rfl

theorem send_of_readable {state : σ} (readable : accessor.readable state = true) :
    accessor.send state
      = ({ entries := [accessor.entry (accessor.seen state)] }, accessor.seen state) := by
  obtain ⟨seen, room⟩ := Option.isSome_iff_exists.1 readable
  have left : accessor.seen state = seen := congrArg (Option.getD · state) room
  rw [send_eq, left]
  unfold fetch
  rw [room]
  rfl

/-- Without room nothing is sent, and nothing changes. -/
theorem send_of_unreadable {state : σ} (unreadable : ¬ accessor.readable state = true) :
    accessor.send state = ({ overflows := true }, state) := by
  have full : accessor.onGet state = none := Option.not_isSome_iff_eq_none.1 unreadable
  have left : accessor.seen state = state := congrArg (Option.getD · state) full
  rw [send_eq, left]
  unfold fetch
  rw [full]

theorem Uncounted.readable (uncounted : accessor.Uncounted) (state : σ) :
    accessor.readable state = true := by
  unfold Accessor.readable
  rw [uncounted.1]
  rfl

end Accessor

/-- What is sent of some properties in turn: what they show, up to the first
that cannot be read. -/
def sentOf (accessors : List (Accessor σ)) (state : σ) : Sent where
  entries := (accessors.takeWhile (·.readable state)).map (·.entry state)
  overflows := !accessors.all (·.readable state)

/-- If all can be read, all are sent. -/
theorem sentOf_of_readable {accessors : List (Accessor σ)} {state : σ}
    (readable : ∀ accessor ∈ accessors, accessor.readable state = true) :
    sentOf accessors state = { entries := accessors.map (·.entry state) } := by
  unfold sentOf
  rw [List.takeWhile_eq_self_iff.2 readable, List.all_eq_true.2 readable]
  rfl

/-- Reading a property takes no room from those behind it. -/
def Roomy (accessors : List (Accessor σ)) : Prop :=
  accessors.Pairwise fun accessor later =>
    ∀ state, later.readable (accessor.seen state) = later.readable state

namespace Model

variable {model : Model σ}

theorem sendAll_eq (model : Model σ) :
    model.sendAll = sendInTurn (model.accessors.map (·.send)) := by
  unfold sendAll accessors
  rw [List.map_flatMap]
  exact sendInTurn_flatMap model.layers fun layer => layer.accessors.map (·.send)

/-- Of one name all properties of that name are sent. -/
theorem sendOne_eq (distinct : ∀ layer ∈ model.layers, (layer.accessors.map (·.name)).Nodup)
    (name : String) :
    model.sendOne name
      = sendInTurn ((model.accessors.filter (·.name == name)).map (·.send)) := by
  have each : ∀ layer ∈ model.layers, layer.sendOne name
      = sendInTurn ((layer.accessors.filter (·.name == name)).map (·.send)) := by
    intro layer inside
    have found := filter_eq_find? (distinct layer inside) name fun _ => true
    simp only [Bool.and_true] at found
    rw [found]
    rfl
  unfold sendOne accessors
  rw [List.filter_flatMap, List.map_flatMap, List.map_congr_left each]
  exact sendInTurn_flatMap model.layers fun layer =>
    (layer.accessors.filter (·.name == name)).map (·.send)

end Model

namespace Announcing

variable {model : Model σ} (announcing : Announcing model)

include announcing

/-- Reading a property disturbs none. -/
theorem wired_seen {accessor other : Accessor σ} (listed : accessor ∈ model.accessors)
    (listed' : other ∈ model.accessors) (state : σ) :
    other.wired (accessor.seen state) = other.wired state := by
  obtain ⟨layer, inside, listed⟩ := List.mem_flatMap.1 listed
  obtain ⟨layer', inside', listed'⟩ := List.mem_flatMap.1 listed'
  have told := announcing.told_fetch inside listed state
  rw [accessor.fetch_snd] at told
  exact (told.replayed layer' inside' other.reading
    (List.mem_append_left _ (List.mem_map_of_mem listed'))).symm

/-- From a state that shows the same and has the same room, the same is
sent. -/
theorem sent_of_shown {accessors : List (Accessor σ)} (among : accessors ⊆ model.accessors)
    (roomy : Roomy accessors) {state other : σ}
    (shown : ∀ accessor ∈ model.accessors, accessor.wired other = accessor.wired state)
    (room : ∀ accessor ∈ accessors, accessor.readable other = accessor.readable state) :
    (sendInTurn (accessors.map (·.send)) other).1 = sentOf accessors state := by
  induction accessors generalizing other with
  | nil => rfl
  | cons accessor rest ih =>
    obtain ⟨listed, amongRest⟩ := List.cons_subset.1 among
    obtain ⟨roomyHere, roomyRest⟩ := List.pairwise_cons.1 roomy
    obtain ⟨roomHere, roomRest⟩ := List.forall_mem_cons.1 room
    unfold sentOf
    rw [List.map_cons, List.all_cons]
    by_cases readable : accessor.readable other = true
    · have sent := Accessor.send_of_readable readable
      have ends : ¬ (accessor.send other).1.overflows = true := by
        rw [sent]
        exact Bool.false_ne_true
      have later := ih amongRest roomyRest
        (fun property inside => (announcing.wired_seen listed inside other).trans
          (shown property inside))
        (fun property inside => (roomyHere property inside other).trans
          (roomRest property inside))
      have entry : accessor.entry (accessor.seen other) = accessor.entry state :=
        congrArg (accessor.name, ·)
          ((announcing.wired_seen listed listed other).trans (shown accessor listed))
      rw [sendInTurn_of_ends ends, sent, later, entry,
        List.takeWhile_cons_of_pos (roomHere ▸ readable), ← roomHere, readable]
      rfl
    · have sent := Accessor.send_of_unreadable readable
      have early : (accessor.send other).1.overflows = true := by rw [sent]
      have full : accessor.readable state = false := roomHere ▸ Bool.not_eq_true _ ▸ readable
      rw [sendInTurn_of_overflows early, sent,
        List.takeWhile_cons_of_neg (roomHere ▸ readable), full]
      rfl

/-- Properties are sent in turn as they are. -/
theorem sent_eq {accessors : List (Accessor σ)} (among : accessors ⊆ model.accessors)
    (roomy : Roomy accessors) (state : σ) :
    (sendInTurn (accessors.map (·.send)) state).1 = sentOf accessors state :=
  announcing.sent_of_shown among roomy (fun _ _ => rfl) fun _ _ => rfl

end Announcing

/-- What each that is sent leaves as it is, all of them do. -/
theorem kept_sendInTurn {α : Type} {look : σ → α} {sends : List (StateM σ Sent)}
    (kept : ∀ send ∈ sends, ∀ state, look (send state).2 = look state) (state : σ) :
    look (sendInTurn sends state).2 = look state := by
  induction sends generalizing state with
  | nil => rfl
  | cons send rest ih =>
    obtain ⟨here, later⟩ := List.forall_mem_cons.1 kept
    by_cases early : (send state).1.overflows = true
    · rw [sendInTurn_of_overflows early]
      exact here state
    · rw [sendInTurn_of_ends early]
      exact (ih later _).trans (here state)

namespace Game

/-- The fields that change when properties are read. -/
def countedByReading : List String := ["manaReads"]

/-- What a model sends of one name, and of all, from the same state. -/
structure Layout.Sends (layout : Layout) (name : String) (state : layout.State) : Prop where
  /-- All properties are sent as they are, those of embedded types first. -/
  all : (layout.model.sendAll state).1 = sentOf layout.model.accessors state
  /-- Of one name its properties are sent, and no others. -/
  one : (layout.model.sendOne name state).1
    = sentOf (layout.model.accessors.filter (·.name == name)) state
  /-- Sending all ends early over the mana only. -/
  ends : (∀ accessor ∈ layout.model.accessors, accessor.name = "Mana" →
      accessor.readable state = true) →
    (layout.model.sendAll state).1.overflows = false
  /-- If it does not, of one name the same entries are sent in the same order. -/
  agrees : (layout.model.sendAll state).1.overflows = false →
    (layout.model.sendOne name state).1
      = { entries := (layout.model.sendAll state).1.entries.filter (·.1 == name) }
  /-- No field changes, but for what counts readings. -/
  kept : ∀ field ∈ layout.fields, field.name ∉ countedByReading →
    field.get (layout.model.sendAll state).2 = field.get state
      ∧ field.get (layout.model.sendOne name state).2 = field.get state

namespace Layout

variable (layout : Layout)

theorem readable {accessor : Accessor layout.State} (listed : accessor ∈ layout.model.accessors)
    (other : accessor.name ≠ "Mana") (state : layout.State) : accessor.readable state = true :=
  (layout.uncounted accessor listed other).readable state

/-- There is one mana at most. -/
theorem eq_of_mana {accessor other : Accessor layout.State}
    (listed : accessor ∈ layout.model.accessors) (listed' : other ∈ layout.model.accessors)
    (mana : accessor.name = "Mana") (mana' : other.name = "Mana") : accessor = other := by
  let apart (accessor other : Accessor layout.State) : Prop :=
    ¬ (accessor.name = "Mana" ∧ other.name = "Mana")
  have symm : Std.Symm apart := ⟨fun _ _ different both => different both.symm⟩
  have once : layout.model.accessors.Pairwise apart :=
    layout.manaLast.imp fun last both => (last both.1).1 both.2
  by_contra differ
  exact once.forall listed listed' differ ⟨mana, mana'⟩

/-- Only the mana is counted. -/
theorem roomy : Roomy layout.model.accessors := by
  refine layout.manaLast.imp_of_mem fun {accessor later} listed listed' last state => ?_
  by_cases mana : accessor.name = "Mana"
  · have other := (last mana).1
    rw [layout.readable listed' other, layout.readable listed' other]
  · rw [(layout.uncounted accessor listed mana).seen_eq]
    rfl

theorem sendAll_fst (state : layout.State) :
    (layout.model.sendAll state).1 = sentOf layout.model.accessors state := by
  rw [Model.sendAll_eq]
  exact layout.announcing.sent_eq (List.Subset.refl _) layout.roomy state

theorem sendOne_fst (name : String) (state : layout.State) :
    (layout.model.sendOne name state).1
      = sentOf (layout.model.accessors.filter (·.name == name)) state := by
  rw [Model.sendOne_eq layout.distinct_accessors]
  exact layout.announcing.sent_eq (List.filter_subset_self _) (layout.roomy.filter _) state

/-- Whether all are sent or those of one name, it is some of the properties
that are sent in turn. -/
theorem sends {name : String} {state : layout.State}
    (kept : ∀ accessor ∈ layout.model.accessors, accessor.name = "Mana" →
      ∀ field ∈ layout.fields, field.name ∉ countedByReading →
        ∀ state, field.get (accessor.seen state) = field.get state) :
    layout.Sends name state where
  all := layout.sendAll_fst state
  one := layout.sendOne_fst name state
  ends mana := by
    have each : ∀ accessor ∈ layout.model.accessors, accessor.readable state = true := by
      intro accessor listed
      by_cases named : accessor.name = "Mana"
      · exact mana accessor listed named
      · exact layout.readable listed named state
    rw [layout.sendAll_fst, sentOf_of_readable each]
  agrees ends := by
    rw [layout.sendAll_fst] at ends ⊢
    have each : ∀ accessor ∈ layout.model.accessors, accessor.readable state = true := by
      simpa [sentOf] using ends
    rw [layout.sendOne_fst, sentOf_of_readable each,
      sentOf_of_readable fun accessor inside => each accessor (List.mem_of_mem_filter inside),
      List.filter_map]
    rfl
  kept field inside uncounted := by
    have each : ∀ accessors ⊆ layout.model.accessors,
        ∀ send ∈ accessors.map (·.send), ∀ state, field.get (send state).2 = field.get state := by
      refine fun accessors among => List.forall_mem_map.2 fun accessor listed state => ?_
      rw [accessor.send_eq]
      by_cases mana : accessor.name = "Mana"
      · exact kept accessor (among listed) mana field inside uncounted state
      · rw [(layout.uncounted accessor (among listed) mana).seen_eq]
        rfl
    rw [Model.sendAll_eq, Model.sendOne_eq layout.distinct_accessors]
    exact ⟨kept_sendInTurn (each _ (List.Subset.refl _)) state,
      kept_sendInTurn (each _ (List.filter_subset_self _)) state⟩

end Layout

-- ================================================================ players

namespace Player

/-- The mana can be read as long as its readings can be counted. -/
theorem readable_mana (player : Player) :
    manaProperty.readable player = decide (player.manaReads ≠ 4294967295) := by
  show (Option.map _ (uint32? (player.manaReads.toNat + 1))).isSome = _
  rw [uint32?_succ, Option.isSome_map]
  by_cases full : player.manaReads = 4294967295
  · rw [if_pos full, decide_eq_false (not_not_intro full)]
    rfl
  · rw [if_neg full, decide_eq_true full]
    rfl

theorem mana_listed_all : manaProperty ∈ model.accessors :=
  Model.mem_accessors (own_mem_layers model) mana_listed

theorem eq_mana {accessor : Accessor Player} (listed : accessor ∈ model.accessors)
    (mana : accessor.name = "Mana") : accessor = manaProperty :=
  layout.eq_of_mana listed mana_listed_all mana rfl

theorem readable_of_room {player : Player} (room : player.manaReads ≠ 4294967295)
    {accessor : Accessor Player} (listed : accessor ∈ model.accessors) :
    accessor.readable player = true := by
  by_cases mana : accessor.name = "Mana"
  · rw [eq_mana listed mana, readable_mana]
    exact decide_eq_true room
  · exact layout.readable listed mana player

/-- Of what is sent the mana is counted, as often as it is sent, and nothing
else changes. -/
structure Counts (player : Player) (sent : Sent × Player) : Prop where
  beside : sent.2 = { player with manaReads := sent.2.manaReads }
  reads : sent.2.manaReads.toNat
    = player.manaReads.toNat + sent.1.entries.countP (·.1 == "Mana")

theorem counts_send {accessor : Accessor Player} (listed : accessor ∈ model.accessors)
    (player : Player) : Counts player (accessor.send player) := by
  by_cases mana : accessor.name = "Mana"
  · rw [eq_mana listed mana]
    by_cases readable : manaProperty.readable player = true
    · obtain ⟨reads, room⟩ := Option.isSome_iff_exists.1 (Option.isSome_map.symm.trans readable)
      rw [Accessor.send_of_readable readable, seen_mana, room]
      exact ⟨rfl, toNat_of_uint32? room⟩
    · rw [Accessor.send_of_unreadable readable]
      exact ⟨rfl, rfl⟩
  · have other : ¬ (accessor.name == "Mana") = true := fun same => mana (beq_iff_eq.1 same)
    have readable : accessor.readable player = true := layout.readable listed mana player
    have seen : accessor.seen = id := (layout.uncounted accessor listed mana).seen_eq
    rw [Accessor.send_of_readable readable, seen]
    refine ⟨rfl, ?_⟩
    rw [List.countP_singleton, Accessor.entry, if_neg other]
    rfl

theorem counts_sendInTurn {sends : List (StateM Player Sent)}
    (each : ∀ send ∈ sends, ∀ player, Counts player (send player)) (player : Player) :
    Counts player (sendInTurn sends player) := by
  induction sends generalizing player with
  | nil => exact ⟨rfl, rfl⟩
  | cons send rest ih =>
    obtain ⟨here, later⟩ := List.forall_mem_cons.1 each
    have first := here player
    by_cases early : (send player).1.overflows = true
    · rw [sendInTurn_of_overflows early]
      exact first
    · have second := ih later (send player).2
      rw [sendInTurn_of_ends early]
      constructor
      · rw [second.beside, first.beside]
      · rw [List.countP_append, ← Nat.add_assoc, ← first.reads]
        exact second.reads

theorem counts_sendAll (player : Player) : Counts player (model.sendAll player) := by
  rw [Model.sendAll_eq]
  exact counts_sendInTurn (List.forall_mem_map.2 fun _ listed => counts_send listed) player

theorem counts_sendOne (name : String) (player : Player) :
    Counts player (model.sendOne name player) := by
  have distinct : ∀ layer ∈ model.layers, (layer.accessors.map (·.name)).Nodup :=
    layout.distinct_accessors
  rw [Model.sendOne_eq distinct]
  exact counts_sendInTurn
    (List.forall_mem_map.2 fun _ inside => counts_send (List.mem_of_mem_filter inside)) player

/-- No other field looks at the count of readings. -/
theorem get_counting : ∀ field ∈ layout.fields, field.name ∉ countedByReading →
    ∀ reads player, field.get { player with manaReads := reads } = field.get player := by
  have entity : ∀ field ∈ Entity.inventory.parts.map (·.within entityPart), ∀ reads player,
      field.get { player with manaReads := reads } = field.get player := by
    refine List.forall_mem_map.2 fun part _ reads player => ?_
    rfl
  have beside : ∀ field ∈ parts.tail, field.name ∉ countedByReading →
      ∀ reads player, field.get { player with manaReads := reads } = field.get player := by
    simp only [parts, Model.fieldParts, model, layer, List.map_cons, List.map_nil,
      List.cons_append, List.nil_append, List.tail_cons, List.forall_mem_cons, List.not_mem_nil,
      false_implies, implies_true, true_and, and_true]
    and_intros <;> first | (intros; rfl) | exact fun counted => absurd (by decide) counted
  intro field inside uncounted
  rcases List.mem_append.1 inside with within | outside
  · exact entity field within
  · exact beside field outside uncounted

theorem sends (name : String) (player : Player) : layout.Sends name player := by
  refine layout.sends fun accessor listed mana field inside uncounted player => ?_
  have seen := (congrArg (·.seen player) (eq_mana listed mana)).trans (seen_mana player)
  exact (congrArg field.get seen).trans (get_counting field inside uncounted _ player)

end Player

-- ============================================================ one of all

end Game

end DataBinding
