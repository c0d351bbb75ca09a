/-
Players: entities that fight. Whether a player is alive follows from the
health, and the rank from the level. The score of a player hides the score
of the entity within. Each reading of the mana is counted; each change of
it is counted too, and the value before it is kept. The counts have 32
bits: when one is full, the mana cannot be read any more, or a change of it
ends when all but the count is done.
-/
import DataBinding.CheckedInt
import DataBinding.Game.Entity
import DataBinding.Game.Enums

namespace DataBinding.Game

structure Player where
  /-- The entity within. -/
  entity : Entity := {}
  events : ChangeEvent String := {}
  health : Int32 := 0
  level : Int32 := 0
  fighterClass : FighterClass := FighterClass.warrior
  perk : Perk := Perk.empty
  speed : Single := Single.zero
  nickname : String := ""
  tags : List String := []
  score : Int32 := 0
  mana : Int32 := 0
  party : List FighterClass := []
  portrait : Sprite := {}
  /-- Changes of this one are never pushed. -/
  secret : Int32 := 0
  /-- The values of the mana that were replaced, oldest first. -/
  manaHistory : List Int32 := []
  manaReads : UInt32 := 0
  manaChanges : UInt32 := 0
  deriving DecidableEq

namespace Player

def typeName : String := "game::Player"

def entityPart : Part Player Entity :=
  { get := entity, put := fun entity player => { player with entity } }

def eventsPart : Part Player (ChangeEvent String) :=
  { get := events, put := fun events player => { player with events } }

-- ================================================================ rules

def isAlive (player : Player) : Bool := 0 < player.health

def rank (player : Player) : String := if 10 ≤ player.level then "Veteran" else "Novice"

def countManaRead? (player : Player) : Option Player :=
  (uint32? (player.manaReads.toNat + 1)).map fun manaReads => { player with manaReads }

def keepMana (player : Player) : Player :=
  { player with manaHistory := player.manaHistory ++ [player.mana] }

def countManaChange? (player : Player) : Option Player :=
  (uint32? (player.manaChanges.toNat + 1)).map fun manaChanges => { player with manaChanges }

-- =========================================================== properties

def isAliveProperty : Reading Player := ⟨"IsAlive", .single .bool, isAlive⟩

def rankProperty : Reading Player := ⟨"Rank", .single .string, rank⟩

def healthProperty : Accessor Player where
  name := "Health"
  kind := .single .int
  part := { get := health, put := fun health player => { player with health } }
  followUps := [isAliveProperty]

def levelProperty : Accessor Player where
  name := "Level"
  kind := .single .int
  part := { get := level, put := fun level player => { player with level } }
  followUps := [rankProperty]

def classProperty : Accessor Player where
  name := "Class"
  kind := .single (.enum classes)
  part :=
    { get := fighterClass, put := fun fighterClass player => { player with fighterClass } }

def perkProperty : Accessor Player where
  name := "Perk"
  kind := .single (.enum perks)
  part := { get := perk, put := fun perk player => { player with perk } }

def speedProperty : Accessor Player where
  name := "Speed"
  kind := .single .float
  part := { get := speed, put := fun speed player => { player with speed } }

def nicknameProperty : Accessor Player where
  name := "Nickname"
  kind := .single .string
  part := { get := nickname, put := fun nickname player => { player with nickname } }

def tagsProperty : Accessor Player where
  name := "Tags"
  kind := .list .string
  part := { get := tags, put := fun tags player => { player with tags } }

def scoreProperty : Accessor Player where
  name := "Score"
  kind := .single .int
  part := { get := score, put := fun score player => { player with score } }

def manaProperty : Accessor Player where
  name := "Mana"
  kind := .single .int
  part := { get := mana, put := fun mana player => { player with mana } }
  onGet := countManaRead?
  beforeChange := keepMana
  afterChange := countManaChange?

def partyProperty : Accessor Player where
  name := "Party"
  kind := .list (.enum classes)
  part := { get := party, put := fun party player => { player with party } }

def portraitProperty : Accessor Player where
  name := "Portrait"
  kind := .single .sprite
  part := { get := portrait, put := fun portrait player => { player with portrait } }

def secretField : Field Player where
  name := "Secret"
  kind := .single .int
  part := { get := secret, put := fun secret player => { player with secret } }

def layer : Layer Player where
  typeName := "Player"
  fullName := typeName
  accessors :=
    [healthProperty, levelProperty, classProperty, perkProperty, speedProperty,
     nicknameProperty, tagsProperty, scoreProperty, manaProperty, partyProperty,
     portraitProperty]
  computed := [isAliveProperty, rankProperty]
  events := some eventsPart

def model : Model Player where
  initial := {}
  own := layer
  embedded := [Entity.layer.within entityPart]
  unbound := [secretField]

-- ============================================================== methods

/-- What the methods return. -/
inductive Reply
  | flag (value : Bool)
  | player (value : Player)

/-- Add to the health. -/
def heal (amount : Int32) : Action Player Reply := fun player =>
  match int32? (player.health.toInt + amount.toInt) with
  | some health => (layer.set healthProperty health player).returning none
  | none => (⟨player, []⟩, .error {})

/-- Become of another class; no to the class that it is already. -/
def respec (fighterClass : FighterClass) : Action Player Reply := fun player =>
  if player.fighterClass = fighterClass then (⟨player, []⟩, .ok (some (.flag false)))
  else (layer.set classProperty fighterClass player).returning (some (.flag true))

/-- A new player. -/
def recruit (name : String) (level : Int32) : Course Player :=
  let named := Course.within entityPart {} (Entity.layer.set Entity.nameProperty name {})
  named.andThen (layer.set levelProperty level)

/-- Have a new player; the one that is asked stays as it is. -/
def recruitBeside (name : String) (level : Int32) : Action Player Reply := fun player =>
  let recruited := recruit name level
  Course.returning { recruited with state := player } (some (.player recruited.state))

/-- Move all mana to a pool, of which only the amount is known. -/
def drainMana (pool : Int32) : Action Player Reply := fun player =>
  match manaProperty.fetch player with
  | (.error overflow, player) => (⟨player, []⟩, .error overflow)
  | (.ok mana, player) =>
    match int32? (pool.toInt + Int32.toInt mana) with
    | some _ => (layer.set manaProperty (0 : Int32) player).returning none
    | none => (⟨player, []⟩, .error {})

/-- Replace the tags. Events cannot pass a list, so none of them does this. -/
def tagAll (tags : List String) : Action Player Reply := fun player =>
  (layer.set tagsProperty tags player).returning none

def taunt : Action Player Reply := fun player =>
  (layer.set nicknameProperty "Taunter" player).returning none

/-- An event call of a method of players. -/
def callOf (eventName methodName : String) (arguments : List ArgumentInfo)
    (views : List String) (returnType : Option String) : EventCall :=
  { eventName, views, methodName, typeFullName := typeName, arguments, returnType }

def methods : List (Method Player Parcel Reply) :=
  [{ call := callOf "heal" "heal" [⟨"i32", .int, "amount"⟩] [] none
     reading := do return heal (← ArgShape.int.next) },
   { call := callOf "Respec" "respec" [⟨"game::Class", .enum, "class"⟩] ["hud"] (some "bool")
     reading := do return respec (← (ArgShape.enum classes).next) },
   { call :=
       callOf "Recruit" "recruit" [⟨"String", .string, "name"⟩, ⟨"i32", .int, "level"⟩] []
         (some "Player")
     reading := do
       let name ← ArgShape.string.next
       return recruitBeside name (← ArgShape.int.next) },
   { call := callOf "DrainMana" "drain_mana" [⟨"i32", .int, "pool"⟩] [] none
     reading := do return drainMana (← ArgShape.int.next) },
   { call := callOf "Taunt" "taunt" [] ["arena"] none
     reading := pure taunt }]

/-- The event calls of a player: those of the entity come first. -/
def register : ModelRegister Player Parcel Reply :=
  (ModelRegister.within Entity.register entityPart).extend typeName methods

end Player

end DataBinding.Game
