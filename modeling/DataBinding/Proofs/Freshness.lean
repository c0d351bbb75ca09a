/-
Consumers of the game never go stale. Whatever is done to one of its
models, in whatever order, a consumer that has listened from the start
knows the current value of every property.

# What can be done

Every model has its setters, its getters and its updates by name
(`Model.Operates`); fields that are not bound are written silently. On top
come the methods that are written by hand, called directly or by event, and
all that can be done to what is embedded. An operation that fails, over its
arguments or over a number that grew too large, changes nothing; only the
count of mana changes may turn out to be full when all else is done, and
then all else was pushed (`Told.andThen_course`). Recruiting is left out: it
is asked of a player but is about a new one.

What is to be seen to for each model is little: that its own fields are
apart from each other, and that players announce whether they live along
with the health, and their rank along with the level.
-/
import DataBinding.Game.Counter
import DataBinding.Game.Foe
import DataBinding.Game.Player
import DataBinding.Game.Screen
import DataBinding.Proofs.Announcing
import DataBinding.Proofs.ManaCounts

namespace DataBinding

-- ============================================================ operations

section operations

variable {σ κ ρ : Type} {model : Model σ}

/-- What every bound model can be asked to do. -/
inductive Model.Operates (model : Model σ) : (σ → Change σ) → Prop
  | set {accessor : Accessor σ} (listed : accessor ∈ model.own.accessors)
      (value : accessor.kind.Carrier) :
      Operates model fun state => model.own.set accessor value state
  | fetch {accessor : Accessor σ} (listed : accessor ∈ model.own.accessors) :
      Operates model fun state => ⟨(accessor.fetch state).2, []⟩
  | write {field : Field σ} (listed : field ∈ model.unbound) (value : field.kind.Carrier) :
      Operates model fun state => ⟨field.part.put value state, []⟩
  | update (name : String) (value : PropertyValue) :
      Operates model fun state => model.update name value state

/-- What becomes of a call once its arguments are read, or cannot be. -/
def invoked : Except InvokeFault (Action σ ρ) → σ → Change σ
  | .ok action => action.change
  | .error _ => fun state => ⟨state, []⟩

theorem Announcing.told_of_operates (announcing : Announcing model) {operation : σ → Change σ}
    (operates : model.Operates operation) (state : σ) : Told model state (operation state) := by
  cases operates with
  | set listed value => exact announcing.told_set (own_mem_layers model) listed value state
  | fetch listed => exact announcing.told_fetch (own_mem_layers model) listed state
  | write listed value => exact announcing.told_write listed value state
  | update name value => exact announcing.told_update name value state

namespace ModelRegister.Tells

variable {register : ModelRegister σ κ ρ} {answered : EventCall → Prop}

theorem told_invoked (tells : register.Tells model answered) {call : EventCall}
    (answers : answered call) (values : List (ArgValue κ)) (state : σ) :
    Told model state (invoked (register.invoke call values) state) := by
  cases found : register.invoke call values with
  | error fault => exact .nothing state
  | ok action => exact tells call values action answers found state

theorem told_invokedEvent (tells : register.Tells model answered) {eventName view : String}
    (answers : ∀ call, register.call? eventName view = some call → answered call)
    (values : List (ArgValue κ)) (state : σ) :
    Told model state (invoked (register.invokeEvent eventName view values) state) := by
  unfold EventRegister.invokeEvent
  cases picked : register.call? eventName view with
  | none => exact .nothing state
  | some call => exact tells.told_invoked (answers call picked) values state

end ModelRegister.Tells

end operations

namespace Game

-- =============================================================== entities

namespace Entity

theorem announcing : Announcing model := by
  refine .alone rfl (.of_plain (by decide +kernel) rfl ?_ ?_) (List.forall_mem_nil _)
  · simp [model, layer, scoreProperty, nameProperty, Accessor.Plain]
  · simp [model, layer, scoreProperty, nameProperty, Accessor.Apart, Field.get]

theorem tells_rename {ρ : Type} (name : String) :
    (rename name : Action Entity ρ).Tells model :=
  fun entity => announcing.told_set (own_mem_layers model)
    (List.mem_cons_of_mem _ List.mem_cons_self) name entity

theorem tells_register {ρ : Type} {answered : EventCall → Prop} :
    (register : ModelRegister Entity Parcel ρ).Tells model answered := by
  refine ModelRegister.Tells.nothing.extend fun method listed _ _ _ _ => ?_
  rw [List.mem_singleton.1 listed]
  exact .bind fun name => .pure (tells_rename name)

/-- What can be done to an entity. -/
inductive Operates : (Entity → Change Entity) → Prop
  | bound {operation : Entity → Change Entity} (operates : model.Operates operation) :
      Operates operation
  | rename (name : String) : Operates (rename name : Action Entity Unit).change
  | invoke (call : EventCall) (values : List (ArgValue Parcel)) :
      Operates (invoked ((register : ModelRegister Entity Parcel Unit).invoke call values))
  | invokeEvent (eventName view : String) (values : List (ArgValue Parcel)) :
      Operates (invoked
        ((register : ModelRegister Entity Parcel Unit).invokeEvent eventName view values))

theorem told {operation : Entity → Change Entity} (operates : Operates operation)
    (entity : Entity) : Told model entity (operation entity) := by
  have tells : (register : ModelRegister Entity Parcel Unit).Tells model fun _ => True :=
    tells_register
  cases operates with
  | bound operates => exact announcing.told_of_operates operates entity
  | rename name => exact tells_rename name entity
  | invoke call values => exact tells.told_invoked trivial values entity
  | invokeEvent eventName view values =>
    exact tells.told_invokedEvent (fun _ _ => trivial) values entity

end Entity

-- ================================================================ players

namespace Player

/-- No property of players looks at anything but the bound fields. -/
theorem hides_of_kept {step : Player → Player}
    (keeps : ∀ player, ∃ entity secret history reads changes, step player =
      { player with
        entity := entity, secret := secret
        manaHistory := history, manaReads := reads, manaChanges := changes }) :
    layer.Hides step := by
  intro reading shown player
  obtain ⟨entity, secret, history, reads, changes, same⟩ := keeps player
  rw [same]
  revert reading
  rw [Layer.forall_readings]
  simp only [layer, List.forall_mem_cons, List.not_mem_nil, false_implies, implies_true, and_true]
  and_intros <;> rfl

/-- Every field is apart from the others, the health but for whether the
player lives, and the level but for the rank. -/
theorem announces : layer.Announces where
  distinct := by decide +kernel
  followUps := by
    simp [layer, healthProperty, levelProperty, classProperty, perkProperty, speedProperty,
      nicknameProperty, tagsProperty, scoreProperty, manaProperty, partyProperty,
      portraitProperty]
  completes := by
    simp only [layer, List.forall_mem_cons, List.not_mem_nil, false_implies, implies_true,
      and_true]
    and_intros <;> first | exact .inl rfl | exact .inr fun _ => rfl
  hooks := by
    have reads : layer.Hides manaProperty.seen :=
      hides_of_kept fun player => ⟨_, _, _, _, _, seen_mana player⟩
    have changes : layer.Hides manaProperty.settled :=
      hides_of_kept fun player => ⟨_, _, _, _, _, settled_mana player⟩
    simp only [layer, List.forall_mem_cons, List.not_mem_nil, false_implies, implies_true,
      and_true]
    and_intros <;>
      first | exact reads | exact changes | exact hides_of_kept fun _ => ⟨_, _, _, _, _, rfl⟩
  writes := by
    simp [layer, Layer.forall_readings, healthProperty, levelProperty, classProperty,
      perkProperty, speedProperty, nicknameProperty, tagsProperty, scoreProperty, manaProperty,
      partyProperty, portraitProperty, isAliveProperty, rankProperty, Accessor.announced,
      Accessor.reading, Reading.wired, Field.get, isAlive, rank]

theorem leaves_entity {step : Player → Player} (steps : layer.Steps step) (player : Player) :
    entityPart.get (step player) = entityPart.get player := by
  have reads : ∀ player, entityPart.get (manaProperty.seen player) = entityPart.get player :=
    fun player => (congrArg entityPart.get (seen_mana player)).trans rfl
  have changes : ∀ player, entityPart.get (manaProperty.settled player) = entityPart.get player :=
    fun player => (congrArg entityPart.get (settled_mana player)).trans rfl
  have each : ∀ accessor ∈ layer.accessors,
      (∀ player, entityPart.get (accessor.seen player) = entityPart.get player)
        ∧ (∀ player, entityPart.get (accessor.beforeChange player) = entityPart.get player)
        ∧ (∀ player, entityPart.get (accessor.settled player) = entityPart.get player)
        ∧ ∀ value player, entityPart.get (accessor.part.put value player)
            = entityPart.get player := by
    simp only [layer, List.forall_mem_cons, List.not_mem_nil, false_implies, implies_true,
      and_true]
    and_intros <;> first | exact reads | exact changes | (intros; rfl)
  cases steps with
  | onGet listed => exact (each _ listed).1 player
  | beforeChange listed => exact (each _ listed).2.1 player
  | afterChange listed => exact (each _ listed).2.2.1 player
  | put listed value => exact (each _ listed).2.2.2 value player

/-- The entity within is no property's business, and its type is another. -/
theorem embeds : Embeds model entityPart Entity.model where
  embedded := rfl
  apart _ := hides_of_kept fun _ => ⟨_, _, _, _, _, rfl⟩
  foreign := by decide +kernel

theorem announcing : Announcing model := by
  refine .embedding embeds Entity.announcing announces (fun _ steps => leaves_entity steps) ?_
  intro field listed value
  obtain rfl := List.mem_singleton.1 listed
  exact ⟨hides_of_kept fun _ => ⟨_, _, _, _, _, rfl⟩, fun _ => rfl⟩

/-- Setters of the own type tell. -/
theorem tells_set {accessor : Accessor Player} (listed : accessor ∈ layer.accessors)
    (value : accessor.kind.Carrier) (player : Player) :
    Told model player (layer.set accessor value player) :=
  announcing.told_set (own_mem_layers model) listed value player

theorem tells_heal (amount : Int32) : (heal amount).Tells model := by
  intro player
  unfold Action.change heal
  split
  · exact tells_set List.mem_cons_self _ player
  · exact .nothing player

theorem tells_respec (fighterClass : FighterClass) : (respec fighterClass).Tells model := by
  intro player
  unfold Action.change respec
  split
  · exact .nothing player
  · exact tells_set (by simp [layer]) _ player

theorem mana_listed : manaProperty ∈ layer.accessors := by simp [layer]

/-- The mana is read first, which is counted, and then set. -/
theorem tells_drainMana (pool : Int32) : (drainMana pool).Tells model := by
  intro player
  have fetched := announcing.told_fetch (own_mem_layers model) mana_listed player
  unfold Action.change drainMana
  generalize manaProperty.fetch player = outcome at fetched ⊢
  obtain ⟨mana | mana, read⟩ := outcome
  · exact fetched
  · dsimp only
    split
    · exact fetched.andThen (fun read => layer.set manaProperty (0 : Int32) read)
        (tells_set mana_listed _ read)
    · exact fetched

theorem tells_tagAll (tags : List String) : (tagAll tags).Tells model :=
  fun player => tells_set (by simp [layer]) _ player

theorem tells_taunt : taunt.Tells model :=
  fun player => tells_set (by simp [layer]) _ player

/-- A call that recruits. -/
def Recruits (call : EventCall) : Prop :=
  call.typeFullName = typeName ∧ call.methodName = "recruit"

theorem tells_register : register.Tells model (¬ Recruits ·) := by
  refine (Entity.tells_register.within embeds).extend fun method listed call other typed named => ?_
  simp only [methods, List.mem_cons, List.not_mem_nil, or_false] at listed
  rcases listed with rfl | rfl | rfl | rfl | rfl
  · exact .bind fun amount => .pure (tells_heal amount)
  · exact .bind fun fighterClass => .pure (tells_respec fighterClass)
  · exact absurd ⟨typed, named.symm⟩ other
  · exact .bind fun pool => .pure (tells_drainMana pool)
  · exact .pure tells_taunt

/-- What can be done to a player, and to the entity within. -/
inductive Operates : (Player → Change Player) → Prop
  | bound {operation : Player → Change Player} (operates : model.Operates operation) :
      Operates operation
  | onEntity {operation : Entity → Change Entity} (operates : Entity.Operates operation) :
      Operates fun player => (operation player.entity).within entityPart player
  | heal (amount : Int32) : Operates (heal amount).change
  | respec (fighterClass : FighterClass) : Operates (respec fighterClass).change
  | drainMana (pool : Int32) : Operates (drainMana pool).change
  | tagAll (tags : List String) : Operates (tagAll tags).change
  | taunt : Operates taunt.change
  | invoke {call : EventCall} (other : ¬ Recruits call) (values : List (ArgValue Parcel)) :
      Operates (invoked (register.invoke call values))
  | invokeEvent {eventName view : String}
      (other : ∀ call, register.call? eventName view = some call → ¬ Recruits call)
      (values : List (ArgValue Parcel)) :
      Operates (invoked (register.invokeEvent eventName view values))

theorem told {operation : Player → Change Player} (operates : Operates operation)
    (player : Player) : Told model player (operation player) := by
  cases operates with
  | bound operates => exact announcing.told_of_operates operates player
  | onEntity operates => exact (Entity.told operates player.entity).within embeds
  | heal amount => exact tells_heal amount player
  | respec fighterClass => exact tells_respec fighterClass player
  | drainMana pool => exact tells_drainMana pool player
  | tagAll tags => exact tells_tagAll tags player
  | taunt => exact tells_taunt player
  | invoke other values => exact tells_register.told_invoked other values player
  | invokeEvent other values => exact tells_register.told_invokedEvent other values player

end Player

-- =============================================================== counters

namespace Counter

theorem announcing : Announcing model := by
  refine .alone rfl (.of_plain (by decide +kernel) rfl ?_ ?_) ?_
  · simp [model, layer, countProperty, captionProperty, Accessor.Plain]
  · simp [model, layer, countProperty, captionProperty, Accessor.Apart, Field.get]
  · intro field listed value
    obtain rfl := List.mem_singleton.1 listed
    refine Layer.forall_readings.2 ⟨?_, List.forall_mem_nil _⟩
    simp [model, layer, countProperty, captionProperty, stepField, Accessor.reading,
      Reading.wired, Field.get]

theorem tells_increment : increment.Tells model := by
  intro counter
  unfold Action.change increment
  split
  · exact announcing.told_set (own_mem_layers model) List.mem_cons_self _ counter
  · exact .nothing counter

/-- What can be done to a counter. -/
inductive Operates : (Counter → Change Counter) → Prop
  | bound {operation : Counter → Change Counter} (operates : model.Operates operation) :
      Operates operation
  | increment : Operates increment.change

theorem told {operation : Counter → Change Counter} (operates : Operates operation)
    (counter : Counter) : Told model counter (operation counter) := by
  cases operates with
  | bound operates => exact announcing.told_of_operates operates counter
  | increment => exact tells_increment counter

end Counter

namespace Tally

theorem announces : layer.Announces := by
  refine .of_plain (by decide +kernel) rfl ?_ ?_
  · simp [layer, bonusProperty, Accessor.Plain]
  · exact List.pairwise_singleton _ _

theorem embeds : Embeds model counterPart Counter.model where
  embedded := rfl
  apart counter := Layer.forall_readings.2
    ⟨List.forall_mem_singleton.2 fun _ => rfl, List.forall_mem_nil _⟩
  foreign := by decide +kernel

theorem announcing : Announcing model := by
  refine .embedding embeds Counter.announcing announces ?_ (List.forall_mem_nil _)
  intro step steps tally
  cases steps with
  | onGet listed | beforeChange listed | afterChange listed | put listed =>
    obtain rfl := List.mem_singleton.1 listed
    rfl

/-- What can be done to a tally, and to the counter within. -/
inductive Operates : (Tally → Change Tally) → Prop
  | bound {operation : Tally → Change Tally} (operates : model.Operates operation) :
      Operates operation
  | onCounter {operation : Counter → Change Counter} (operates : Counter.Operates operation) :
      Operates fun tally => (operation tally.counter).within counterPart tally

theorem told {operation : Tally → Change Tally} (operates : Operates operation)
    (tally : Tally) : Told model tally (operation tally) := by
  cases operates with
  | bound operates => exact announcing.told_of_operates operates tally
  | onCounter operates => exact (Counter.told operates tally.counter).within embeds

end Tally

-- =================================================================== foes

theorem Boss.announcing : Announcing Boss.model := by
  refine .alone rfl (.of_plain (by decide +kernel) rfl ?_ ?_) (List.forall_mem_nil _)
  · simp [model, layer, rageProperty, armorProperty, damageProperty, Accessor.Plain]
  · simp [model, layer, rageProperty, armorProperty, damageProperty, Accessor.Apart, Field.get]

theorem Npc.announcing : Announcing Npc.model := by
  refine .alone rfl (.of_plain (by decide +kernel) rfl ?_ ?_) (List.forall_mem_nil _)
  · simp [model, layer, classProperty, hpProperty, Accessor.Plain]
  · simp [model, layer, classProperty, hpProperty, Accessor.Apart, Field.get]

-- ================================================================= screen

theorem Label.announcing : Announcing Label.model := by
  refine .alone rfl (.of_plain (by decide +kernel) rfl ?_ ?_) (List.forall_mem_nil _)
  · simp [model, layer, visibleProperty, enabledProperty, textProperty, Accessor.Plain]
  · simp [model, layer, visibleProperty, enabledProperty, textProperty, Accessor.Apart, Field.get]

theorem Settings.announcing : Announcing Settings.model := by
  refine .alone rfl (.of_plain (by decide +kernel) rfl ?_ ?_) (List.forall_mem_nil _)
  · simp [model, layer, volumeProperty, mutedProperty, Accessor.Plain]
  · simp [model, layer, volumeProperty, mutedProperty, Accessor.Apart, Field.get]

-- =================================================================== runs

/-- A bound model of the game with what can be done to it. -/
structure Fixture where
  State : Type
  model : Model State
  Operates : (State → Change State) → Prop

/-- All bound models of the game. -/
def fixtures : List Fixture :=
  [⟨Entity, Entity.model, Entity.Operates⟩, ⟨Player, Player.model, Player.Operates⟩,
   ⟨Boss, Boss.model, Boss.model.Operates⟩, ⟨Npc, Npc.model, Npc.model.Operates⟩,
   ⟨Counter, Counter.model, Counter.Operates⟩, ⟨Tally, Tally.model, Tally.Operates⟩,
   ⟨Label, Label.model, Label.model.Operates⟩,
   ⟨Settings, Settings.model, Settings.model.Operates⟩]

/-- Whatever can be done to a model of the game tells what it does. -/
theorem told_of_operates {fixture : Fixture} (listed : fixture ∈ fixtures)
    {operation : fixture.State → Change fixture.State} (operates : fixture.Operates operation)
    (state : fixture.State) : Told fixture.model state (operation state) := by
  simp only [fixtures, List.mem_cons, List.not_mem_nil, or_false] at listed
  rcases listed with rfl | rfl | rfl | rfl | rfl | rfl | rfl | rfl
  · exact Entity.told operates state
  · exact Player.told operates state
  · exact Boss.announcing.told_of_operates operates state
  · exact Npc.announcing.told_of_operates operates state
  · exact Counter.told operates state
  · exact Tally.told operates state
  · exact Label.announcing.told_of_operates operates state
  · exact Settings.announcing.told_of_operates operates state

/-- A consumer that listens to a model of the game from the start is up to
date after any run of operations. -/
theorem consumer_never_stale {fixture : Fixture} (listed : fixture ∈ fixtures)
    {operations : List (fixture.State → Change fixture.State)}
    (operate : ∀ operation ∈ operations, fixture.Operates operation) :
    Fresh fixture.model (Watched.run fixture.model operations) :=
  fresh_run fun operation inside => told_of_operates listed (operate operation inside)

/-- A player comes to live, is healed beyond measure, which fails, has a
score set by name, is renamed as an entity, and healed by event. -/
def exploits : List (Player → Change Player) :=
  [fun player => Player.layer.set Player.healthProperty (7 : Int32) player,
   (Player.heal 2147483647).change,
   fun player => Player.model.update "Score" (.int 3) player,
   fun player =>
     ((Entity.rename "Bo" : Action Entity Unit).change player.entity).within Player.entityPart
       player,
   invoked (Player.register.invokeEvent "heal" "arena" [.int 5])]

/-- The consumer has followed the exploits, and has heard of both scores. -/
theorem exploits_never_stale :
    Fresh Player.model (Watched.run Player.model exploits)
      ∧ (Watched.run Player.model exploits).state.health = 12
      ∧ (Watched.run Player.model exploits).log
        = [⟨"game::Player", "Health", .int 7⟩, ⟨"game::Player", "IsAlive", .bool true⟩,
           ⟨"game::Entity", "Score", .int 3⟩, ⟨"game::Player", "Score", .int 3⟩,
           ⟨"game::Entity", "Name", .string "Bo"⟩,
           ⟨"game::Player", "Health", .int 12⟩, ⟨"game::Player", "IsAlive", .bool true⟩] := by
  have operate : ∀ operation ∈ exploits, Player.Operates operation := by
    simp only [exploits, List.forall_mem_cons, List.not_mem_nil, false_implies, implies_true,
      and_true]
    refine ⟨.bound (.set List.mem_cons_self _), .heal _, .bound (.update _ _),
      .onEntity (.rename _), .invokeEvent ?_ _⟩
    intro call found
    have named : (Player.register.call? "heal" "arena").map (·.methodName) = some "heal" := by
      decide +kernel
    rw [found] at named
    rintro ⟨-, recruits⟩
    rw [Option.map_some, recruits] at named
    exact absurd named (by decide)
  exact ⟨@consumer_never_stale ⟨Player, Player.model, Player.Operates⟩
    (List.mem_cons_of_mem _ List.mem_cons_self) exploits operate, by decide +kernel,
    by decide +kernel⟩

end Game

end DataBinding
