/-
The books that a player keeps of the mana: the values that it has had, how
often it has changed, and how often it has been read.

# One entry for each operation

Code around the write keeps the value before it and counts the change, code
in the getter counts the readings, and many operations come to one or the
other: setters, updates by name, methods, events. But whatever is done, the
books afterwards are those before, with the readings counted that are made
and the value taken that the mana has in the end (`keepsBooks_perform`). So
no operation changes the mana twice, and none does without an entry. Handlers
only look on: if one reads the mana, that is a reading like any other, and a
request of its own.

# Runs

A value is listed when it is taken, and not while it stays. So the history
with the present value is what the states of a run show one after the other,
less what is shown again (`values_foldl`), and everything else about the
history follows.

# Full counts

Both counts have 32 bits. A count that is full stays as it is, whatever is
asked: a reading then does not take place, and a change ends over it, with
the value taken and the one before it kept. So a count says the true number
if 32 bits can hold that, and else is full.
-/
import Mathlib.Algebra.GroupWithZero.Nat
import Mathlib.Data.List.Destutter
import DataBinding.Proofs.Sending

namespace DataBinding.Game.Player

variable {β : Type}

-- ================================================================== books

/-- What a player knows of the mana. -/
structure Books where
  mana : Int32
  history : List Int32
  changes : Nat
  reads : Nat
  deriving DecidableEq

def books (player : Player) : Books :=
  ⟨player.mana, player.manaHistory, player.manaChanges.toNat, player.manaReads.toNat⟩

namespace Books

variable (books : Books)

/-- The mana is read some times, which are counted as far as there is room. -/
def read (times : Nat) : Books := { books with reads := min (books.reads + times) 4294967295 }

/-- The mana takes a value. If it is another one than before, that is a
change, and the one before is kept. -/
def take (mana : Int32) : Books :=
  if books.mana = mana then books
  else ⟨mana, books.history ++ [books.mana], min (books.changes + 1) 4294967295, books.reads⟩

/-- The values of the mana, the present one last. -/
def values : List Int32 := books.history ++ [books.mana]

theorem take_self : books.take books.mana = books := if_pos rfl

theorem reads_take (mana : Int32) : (books.take mana).reads = books.reads := by
  unfold take
  split <;> rfl

/-- Each change is counted, as far as there is room. -/
def Counted : Prop := books.changes = min books.history.length 4294967295

variable {books}

theorem Counted.take (counted : books.Counted) (mana : Int32) : (books.take mana).Counted := by
  unfold Books.take
  split
  · exact counted
  · show min (books.changes + 1) 4294967295
      = min (books.history ++ [books.mana]).length 4294967295
    rw [List.length_append, List.length_singleton]
    unfold Counted at counted
    omega

end Books

/-- Without a reading nothing is new, for the count has 32 bits. -/
theorem books_read_zero (player : Player) : player.books.read 0 = player.books := by
  have bound := player.manaReads.toNat_lt
  have same : min (player.manaReads.toNat + 0) 4294967295 = player.manaReads.toNat := by omega
  exact congrArg (fun reads => { player.books with reads }) same

theorem books_idle (player : Player) : player.books = (player.books.read 0).take player.mana := by
  rw [books_read_zero]
  exact player.books.take_self.symm

/-- An operation reads the mana so many times, and enters the value that it
has in the end. -/
def KeepsBooks (reads : Nat) (operation : Player → Change Player) : Prop :=
  ∀ player, (operation player).state.books
    = (player.books.read reads).take (operation player).state.mana

/-- Nothing happens to the mana. -/
theorem KeepsBooks.of_aside {operation : Player → Change Player}
    (aside : ∀ player, (operation player).state.books = player.books) :
    KeepsBooks 0 operation := by
  intro player
  have mana : (operation player).state.mana = player.mana := congrArg Books.mana (aside player)
  rw [aside, mana]
  exact player.books_idle

-- ================================================================ setters

/-- What a setter writes is entered. -/
theorem books_written : ∀ accessor ∈ layer.accessors, ∀ (value : accessor.kind.Carrier) player,
    ¬ accessor.kind.same (accessor.get player) value = true →
    (accessor.written value player).books
      = player.books.take (accessor.written value player).mana := by
  have mana : ∀ (value : Int32) player, ¬ (player.mana == value) = true →
      (manaProperty.written value player).books
        = player.books.take (manaProperty.written value player).mana := by
    intro value player other
    rw [written_mana]
    refine .trans ?_ (if_neg fun same => other (beq_iff_eq.2 same)).symm
    exact congrArg (Books.mk value _ · _) (toNat_getD_uint32?_succ player.manaChanges)
  simp only [layer, List.forall_mem_cons, List.not_mem_nil, false_implies, implies_true, and_true]
  and_intros <;> first | exact mana | exact fun _ player _ => player.books.take_self.symm

theorem keepsBooks_set {accessor : Accessor Player} (listed : accessor ∈ layer.accessors)
    (value : accessor.kind.Carrier) :
    KeepsBooks 0 fun player => layer.set accessor value player := by
  intro player
  dsimp only
  by_cases same : accessor.kind.same (accessor.get player) value = true
  · rw [layer.set_of_same same]
    exact player.books_idle
  · rw [layer.state_set_of_other same, books_read_zero]
    exact books_written accessor listed value player same

theorem keepsBooks_updateLayer (name : String) (value : PropertyValue) :
    KeepsBooks 0 fun player => layer.update name value player := by
  intro player
  dsimp only
  rcases layer.update_cases name value player with idle | ⟨accessor, listed, -, -, meant, -, set⟩
  · rw [idle]
    exact player.books_idle
  · rw [set]
    exact keepsBooks_set listed meant player

/-- The entity within knows of no mana, and counts nothing. -/
theorem update_entity (name : String) (value : PropertyValue) (player : Player) :
    ((Entity.layer.within entityPart).update name value player).overflows = false
      ∧ ((Entity.layer.within entityPart).update name value player).state.books
        = player.books := by
  rcases (Entity.layer.within entityPart).update_cases name value player with
    idle | ⟨accessor, listed, -, -, meant, -, set⟩
  · rw [idle]
    exact ⟨rfl, rfl⟩
  · obtain ⟨inner, inside, rfl⟩ := List.mem_map.1 listed
    have others : ∀ accessor ∈ Entity.layer.accessors, changedBeside accessor.name = [] := by
      decide +kernel
    have uncounted : inner.Uncounted :=
      Entity.inventory.careful.uncounted inner inside (others inner inside)
    rw [set.trans (Entity.layer.set_within entityPart inner meant player)]
    exact ⟨Entity.layer.overflows_set_of_uncounted uncounted meant player.entity, rfl⟩

/-- A value by name comes to the entity first. -/
theorem keepsBooks_update (name : String) (value : PropertyValue) :
    KeepsBooks 0 fun player => model.update name value player := by
  intro player
  obtain ⟨ends, aside⟩ := update_entity name value player
  have run : model.update name value player
      = ((Entity.layer.within entityPart).update name value player).andThen
          (layer.update name value) := rfl
  have entered := keepsBooks_updateLayer name value
    ((Entity.layer.within entityPart).update name value player).state
  rw [aside] at entered
  dsimp only
  rw [run, Course.andThen_of_ends (Bool.eq_false_iff.1 ends)]
  exact entered

-- =============================================================== readings

/-- What is read or sent of a player leaves an entry for each reading. -/
theorem keepsBooks_read {read : StateM Player β} {reads : Nat}
    (counted : ∀ player, (read player).2.books = player.books.read reads) :
    KeepsBooks reads fun player => ⟨(read player).2, []⟩ := by
  intro player
  have mana : (read player).2.mana = player.mana := congrArg Books.mana (counted player)
  dsimp only
  rw [counted player, mana]
  exact (player.books.read reads).take_self.symm

theorem books_seen_mana (player : Player) :
    (manaProperty.seen player).books = player.books.read 1 := by
  rw [seen_mana]
  exact congrArg (Books.mk _ _ _ ·) (toNat_getD_uint32?_succ player.manaReads)

/-- When the mana is sent as often as it is read, or cannot be read. -/
theorem Counts.books {player : Player} {sent : Sent × Player} (counts : Counts player sent)
    {times : Nat} (once : player.manaReads ≠ 4294967295 →
      sent.1.entries.countP (·.1 == "Mana") = times) :
    sent.2.books = player.books.read times := by
  have reads : sent.2.manaReads.toNat = min (player.manaReads.toNat + times) 4294967295 := by
    have bound := sent.2.manaReads.toNat_lt
    have grown := counts.reads
    by_cases full : player.manaReads = 4294967295
    · have most : player.manaReads.toNat = 4294967295 := congrArg UInt32.toNat full
      omega
    · rw [once full] at grown
      omega
  rw [counts.beside]
  exact congrArg (Books.mk _ _ _ ·) reads

/-- With room the mana is sent as often as it stands among the properties. -/
theorem countP_sentOf {player : Player} (room : player.manaReads ≠ 4294967295)
    {accessors : List (Accessor Player)} (among : accessors ⊆ model.accessors) :
    (sentOf accessors player).entries.countP (·.1 == "Mana")
      = accessors.countP (·.name == "Mana") := by
  rw [sentOf_of_readable fun _ inside => readable_of_room room (among inside), List.countP_map]
  rfl

theorem keepsBooks_sendAll : KeepsBooks 1 fun player => ⟨(model.sendAll player).2, []⟩ := by
  refine keepsBooks_read fun player => (counts_sendAll player).books fun room => ?_
  have sent : (model.sendAll player).1 = sentOf model.accessors player := layout.sendAll_fst player
  rw [sent]
  exact countP_sentOf room (List.Subset.refl _)

theorem keepsBooks_sendOne (name : String) :
    KeepsBooks (if name = "Mana" then 1 else 0) fun player =>
      ⟨(model.sendOne name player).2, []⟩ := by
  have times : (model.accessors.filter (·.name == name)).countP (·.name == "Mana")
      = if name = "Mana" then 1 else 0 := by
    split
    · next mana =>
      subst mana
      rfl
    · next other =>
      refine List.countP_eq_zero.2 fun accessor inside mana => other ?_
      rw [← beq_iff_eq.1 (List.mem_filter.1 inside).2, beq_iff_eq.1 mana]
  refine keepsBooks_read fun player => (counts_sendOne name player).books fun room => ?_
  have sent : (model.sendOne name player).1
      = sentOf (model.accessors.filter (·.name == name)) player := layout.sendOne_fst name player
  rw [sent, ← times]
  exact countP_sentOf room (List.filter_subset_self _)

-- ================================================================ methods

theorem keepsBooks_heal (amount : Int32) : KeepsBooks 0 (heal amount).change := by
  intro player
  unfold Action.change heal
  split
  · exact keepsBooks_set List.mem_cons_self _ player
  · exact player.books_idle

theorem keepsBooks_respec (fighterClass : FighterClass) :
    KeepsBooks 0 (respec fighterClass).change := by
  intro player
  unfold Action.change respec
  split
  · exact player.books_idle
  · exact keepsBooks_set (by simp [layer]) _ player

/-- Whoever is recruited has books of their own. -/
theorem keepsBooks_recruit (name : String) (level : Int32) :
    KeepsBooks 0 (recruitBeside name level).change := .of_aside fun _ => rfl

/-- The mana is read before it is known whether the pool has room. -/
theorem keepsBooks_drainMana (pool : Int32) : KeepsBooks 1 (drainMana pool).change := by
  intro player
  have read : (manaProperty.fetch player).2.books = player.books.read 1 := by
    rw [manaProperty.fetch_snd]
    exact player.books_seen_mana
  unfold Action.change drainMana
  generalize manaProperty.fetch player = outcome at read ⊢
  obtain ⟨mana | mana, left⟩ := outcome
  · rw [← read]
    exact left.books.take_self.symm
  · dsimp only at read ⊢
    rw [← read]
    split
    · have set := keepsBooks_set mana_listed (0 : Int32) left
      rw [books_read_zero] at set
      exact set
    · exact left.books.take_self.symm

theorem keepsBooks_tagAll (tags : List String) : KeepsBooks 0 (tagAll tags).change :=
  keepsBooks_set (by simp [layer]) _

theorem keepsBooks_taunt : KeepsBooks 0 taunt.change :=
  keepsBooks_set (by simp [layer]) _

-- ================================================================= events

/-- A call of the method that drains the mana. -/
def Drains (call : EventCall) : Prop :=
  call.typeFullName = typeName ∧ call.methodName = "drain_mana"

instance : DecidablePred Drains := fun _ => inferInstanceAs (Decidable (_ ∧ _))

theorem keepsBooks_methods : ∀ method ∈ methods,
    ReadArgs.Yields
      (fun action => KeepsBooks (if method.call.methodName = "drain_mana" then 1 else 0)
        (Action.change action))
      method.reading := by
  simp only [methods, List.forall_mem_cons, List.not_mem_nil, false_implies, implies_true,
    and_true, callOf]
  refine ⟨.bind fun amount => .pure ?_, .bind fun fighterClass => .pure ?_,
    .bind fun name => .bind fun level => .pure ?_, .bind fun pool => .pure ?_, .pure ?_⟩
  · exact keepsBooks_heal amount
  · exact keepsBooks_respec fighterClass
  · exact keepsBooks_recruit name level
  · exact keepsBooks_drainMana pool
  · exact keepsBooks_taunt

/-- A call that is answered reads the mana if it drains it. -/
theorem keepsBooks_answer {call : EventCall} {values : List (ArgValue Parcel)}
    {action : Action Player Reply} (found : register.invoke call values = .ok action) :
    KeepsBooks (if Drains call then 1 else 0) action.change := by
  rcases ModelRegister.of_invoke_extend found with
    ⟨typed, method, listed, named, read⟩ | ⟨typed, unnamed, rfl⟩ | ⟨foreign, below⟩
  · have entered := (keepsBooks_methods method listed).of_readArgs read
    have drains : Drains call ↔ method.call.methodName = "drain_mana" := by
      rw [named]
      exact and_iff_right typed
    simpa only [drains] using entered
  · have others : ¬ Drains call := by
      rintro ⟨-, drains⟩
      have named : "drain_mana" ∈ methods.map (·.call.methodName) := by decide
      obtain ⟨method, listed, same⟩ := List.mem_map.1 named
      exact unnamed method listed (same.trans drains.symm)
    rw [if_neg others]
    exact .of_aside fun _ => rfl
  · have others : ¬ Drains call := fun drains => foreign drains.1
    obtain ⟨inner, -, rfl⟩ := ModelRegister.of_invoke_within below
    rw [if_neg others]
    exact .of_aside fun _ => rfl

-- =============================================================== requests

/-- What can be asked of a player, and of the entity within. -/
inductive Request
  | set (accessor : Accessor Player) (listed : accessor ∈ layer.accessors)
      (value : accessor.kind.Carrier)
  | get (accessor : Accessor Player) (listed : accessor ∈ layer.accessors)
  | write (field : Field Player) (listed : field ∈ model.unbound) (value : field.kind.Carrier)
  | update (name : String) (value : PropertyValue)
  | sendAll
  | sendOne (name : String)
  /-- Have these listen to changes from now on, and nobody else. -/
  | listen (events : ChangeEvent String)
  | onEntity (operation : Entity → Change Entity)
  | heal (amount : Int32)
  | respec (fighterClass : FighterClass)
  | recruit (name : String) (level : Int32)
  | drainMana (pool : Int32)
  | tagAll (tags : List String)
  | taunt
  | invoke (call : EventCall) (values : List (ArgValue Parcel))
  | invokeEvent (eventName view : String) (values : List (ArgValue Parcel))

/-- How often a call reads the mana; one that is refused does not. -/
def callReadings (call : EventCall) (values : List (ArgValue Parcel)) : Nat :=
  match register.invoke call values with
  | .ok _ => if Drains call then 1 else 0
  | .error _ => 0

/-- An event in a view reads the mana as the call does that it leads to. -/
def eventReadings (eventName view : String) (values : List (ArgValue Parcel)) : Nat :=
  match register.call? eventName view with
  | some call => callReadings call values
  | none => 0

namespace Request

def perform : Request → Player → Change Player
  | set accessor _ value => fun player => layer.set accessor value player
  | get accessor _ => fun player => ⟨(accessor.fetch player).2, []⟩
  | write field _ value => fun player => ⟨field.part.put value player, []⟩
  | update name value => fun player => model.update name value player
  | sendAll => fun player => ⟨(model.sendAll player).2, []⟩
  | sendOne name => fun player => ⟨(model.sendOne name player).2, []⟩
  | listen events => fun player => ⟨eventsPart.put events player, []⟩
  | onEntity operation => fun player => (operation player.entity).within entityPart player
  | heal amount => (Player.heal amount).change
  | respec fighterClass => (Player.respec fighterClass).change
  | recruit name level => (recruitBeside name level).change
  | drainMana pool => (Player.drainMana pool).change
  | tagAll tags => (Player.tagAll tags).change
  | taunt => Player.taunt.change
  | invoke call values => invoked (register.invoke call values)
  | invokeEvent eventName view values => invoked (register.invokeEvent eventName view values)

/-- How often the mana is read through its getter. -/
def readings : Request → Nat
  | get accessor _ => if accessor.name = "Mana" then 1 else 0
  | sendAll => 1
  | sendOne name => if name = "Mana" then 1 else 0
  | drainMana _ => 1
  | invoke call values => callReadings call values
  | invokeEvent eventName view values => eventReadings eventName view values
  | set _ _ _ | write _ _ _ | update _ _ | listen _ | onEntity _ | heal _ | respec _
  | recruit _ _ | tagAll _ | taunt => 0

end Request

theorem keepsBooks_get {accessor : Accessor Player} (listed : accessor ∈ layer.accessors) :
    KeepsBooks (if accessor.name = "Mana" then 1 else 0) fun player =>
      ⟨(accessor.fetch player).2, []⟩ := by
  refine keepsBooks_read fun player => ?_
  rw [accessor.fetch_snd]
  by_cases mana : accessor.name = "Mana"
  · rw [if_pos mana, eq_mana (Model.mem_accessors (own_mem_layers model) listed) mana]
    exact player.books_seen_mana
  · rw [if_neg mana, (uncounted accessor listed mana).seen_eq, books_read_zero]
    rfl

theorem keepsBooks_invoke (call : EventCall) (values : List (ArgValue Parcel)) :
    KeepsBooks (callReadings call values) (invoked (register.invoke call values)) := by
  unfold callReadings
  cases found : register.invoke call values with
  | ok action => exact keepsBooks_answer found
  | error fault => exact .of_aside fun _ => rfl

theorem keepsBooks_invokeEvent (eventName view : String) (values : List (ArgValue Parcel)) :
    KeepsBooks (eventReadings eventName view values)
      (invoked (register.invokeEvent eventName view values)) := by
  unfold eventReadings EventRegister.invokeEvent
  cases register.call? eventName view with
  | some call => exact keepsBooks_invoke call values
  | none => exact .of_aside fun _ => rfl

/-- Whatever is asked, the readings are counted and the value is entered. -/
theorem keepsBooks_perform (request : Request) : KeepsBooks request.readings request.perform := by
  cases request with
  | set accessor listed value => exact keepsBooks_set listed value
  | get accessor listed => exact keepsBooks_get listed
  | write field listed value =>
    obtain rfl := List.mem_singleton.1 listed
    exact .of_aside fun _ => rfl
  | update name value => exact keepsBooks_update name value
  | sendAll => exact keepsBooks_sendAll
  | sendOne name => exact keepsBooks_sendOne name
  | listen events => exact .of_aside fun _ => rfl
  | onEntity operation => exact .of_aside fun _ => rfl
  | heal amount => exact keepsBooks_heal amount
  | respec fighterClass => exact keepsBooks_respec fighterClass
  | recruit name level => exact keepsBooks_recruit name level
  | drainMana pool => exact keepsBooks_drainMana pool
  | tagAll tags => exact keepsBooks_tagAll tags
  | taunt => exact keepsBooks_taunt
  | invoke call values => exact keepsBooks_invoke call values
  | invokeEvent eventName view values => exact keepsBooks_invokeEvent eventName view values

-- =================================================================== runs

/-- The player after a request. -/
def step (player : Player) (request : Request) : Player := (request.perform player).state

theorem books_step (player : Player) (request : Request) :
    (step player request).books
      = (player.books.read request.readings).take (step player request).mana :=
  keepsBooks_perform request player

/-- The values that the mana has in the states of a run. -/
def manas (requests : List Request) (player : Player) : List Int32 :=
  (requests.scanl step player).map (·.mana)

theorem manas_eq_cons (requests : List Request) (player : Player) :
    ∃ later, manas requests player = player.mana :: later := by
  unfold manas
  cases requests with
  | nil => exact ⟨[], rfl⟩
  | cons request rest => exact ⟨manas rest (step player request), by rw [List.scanl_cons]; rfl⟩

/-- The history with the present value is what the states show, less what is
shown again. -/
theorem values_foldl (requests : List Request) (player : Player) :
    (requests.foldl step player).books.values
      = player.manaHistory ++ (manas requests player).destutter (· ≠ ·) := by
  induction requests generalizing player with
  | nil => rfl
  | cons request rest ih =>
    obtain ⟨later, shown⟩ := manas_eq_cons rest (step player request)
    have all : manas (request :: rest) player
        = player.mana :: (step player request).mana :: later := by
      rw [← shown, manas, List.scanl_cons]
      rfl
    have entered := books_step player request
    rw [List.foldl_cons, ih, shown, all, List.destutter_cons_cons]
    by_cases same : player.mana = (step player request).mana
    · have history : (step player request).manaHistory = player.manaHistory :=
        congrArg Books.history (entered.trans (if_pos same))
      rw [if_neg fun other => other same, history, same]
      rfl
    · have history : (step player request).manaHistory = player.manaHistory ++ [player.mana] :=
        congrArg Books.history (entered.trans (if_neg same))
      rw [if_pos same, history, List.append_assoc]
      rfl

theorem counted_foldl (requests : List Request) {player : Player}
    (counted : player.books.Counted) : (requests.foldl step player).books.Counted := by
  induction requests generalizing player with
  | nil => exact counted
  | cons request rest ih =>
    have read : (player.books.read request.readings).Counted := counted
    refine ih ?_
    rw [books_step]
    exact read.take _

theorem reads_foldl (requests : List Request) (player : Player) :
    (requests.foldl step player).manaReads.toNat
      = min (player.manaReads.toNat + (requests.map (·.readings)).sum) 4294967295 := by
  induction requests generalizing player with
  | nil =>
    have bound := player.manaReads.toNat_lt
    rw [List.foldl_nil, List.map_nil, List.sum_nil]
    omega
  | cons request rest ih =>
    have read : (step player request).manaReads.toNat
        = min (player.manaReads.toNat + request.readings) 4294967295 :=
      (congrArg Books.reads (books_step player request)).trans (Books.reads_take _ _)
    rw [List.foldl_cons, ih, read, List.map_cons, List.sum_cons]
    omega

theorem head?_destutter' {α : Type} (differ : α → α → Prop) [DecidableRel differ] (first : α)
    (rest : List α) : (rest.destutter' differ first).head? = some first := by
  induction rest with
  | nil => rfl
  | cons next rest ih =>
    rw [List.destutter'_cons]
    split
    · rfl
    · exact ih

/-- A new player after some requests. -/
def after (requests : List Request) : Player := requests.foldl step model.initial

/-- What the books of a new player say after some requests. -/
structure Balanced (requests : List Request) : Prop where
  /-- As many changes are counted as values are kept, up to a full count. -/
  changes : (after requests).manaChanges.toNat
    = min (after requests).manaHistory.length 4294967295
  /-- The first value was zero. -/
  first : (after requests).books.values.head? = some 0
  /-- Each value was followed by another one. -/
  chain : (after requests).books.values.IsChain (· ≠ ·)
  /-- They are the values that the states show, one after the other. -/
  shown : (after requests).books.values = (manas requests model.initial).destutter (· ≠ ·)
  /-- Each reading is counted, and nothing else, up to a full count. -/
  reads : (after requests).manaReads.toNat = min (requests.map (·.readings)).sum 4294967295

/-- The books of the mana balance after any run. -/
theorem books_balance (requests : List Request) : Balanced requests := by
  have shown : (after requests).books.values = (manas requests model.initial).destutter (· ≠ ·) :=
    values_foldl requests model.initial
  have counted : (after requests).books.Counted := counted_foldl requests rfl
  exact {
    changes := counted
    first := by
      obtain ⟨later, begun⟩ := manas_eq_cons requests model.initial
      rw [shown, begun]
      exact head?_destutter' (· ≠ ·) model.initial.mana later
    chain := by
      rw [shown]
      exact List.isChain_destutter _ _
    shown := shown
    reads := by
      have counted : (after requests).manaReads.toNat
          = min (0 + (requests.map (·.readings)).sum) 4294967295 :=
        reads_foldl requests model.initial
      rw [Nat.zero_add] at counted
      exact counted }

/-- A drain into a pool without room fails, and has read the mana. -/
example :
    (after [.update "Mana" (.int 5), .update "Mana" (.int 5), .drainMana 2147483647,
        .invokeEvent "DrainMana" "hud" [.int 1], .sendAll]).books
      = ⟨0, [0, 5], 2, 3⟩ := by
  decide +kernel

end DataBinding.Game.Player
