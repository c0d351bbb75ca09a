/-
The game as documents: what the host passes to methods, and the states of
players and shops.
-/
import DataBinding.Game.Player
import DataBinding.Game.Shop
import DataBinding.Live.Document

namespace DataBinding.Game

-- ============================================================ arguments

instance : Documented Loot where
  toDocument loot := .list [.text loot.name, toDocument loot.price]
  ofDocument?
    | .record entries => do
      let name ← Document.required entries "name"
      return ⟨name, ← Document.required entries "price"⟩
    | _ => failure

/-- A number of 8 bits. -/
def byteOfDocument? (document : Document) : Decoder UInt8 := do
  let value : Nat ← ofDocument? document
  if value < 256 then return value.toUInt8 else failure

/-- A value from the host, under the name of its sort. -/
def argOfDocument? : Document → Decoder (ArgValue Parcel)
  | .record [(tag, value)] =>
    match tag with
    | "int" => ArgValue.int <$> ofDocument? value
    | "float" => ArgValue.float <$> ofDocument? value
    | "bool" => ArgValue.bool <$> ofDocument? value
    | "string" | "str" => ArgValue.string <$> ofDocument? value
    | "sprite" => ArgValue.sprite <$> ofDocument? value
    | "custom_u8" => (ArgValue.custom ∘ .byte) <$> byteOfDocument? value
    | "custom_i32" => (ArgValue.custom ∘ .int) <$> ofDocument? value
    | "custom_string" => (ArgValue.custom ∘ .text) <$> ofDocument? value
    | "custom_loot" => (ArgValue.custom ∘ .loot) <$> ofDocument? value
    | _ => failure
  | _ => failure

-- =============================================================== states

def FighterClass.document (fighterClass : FighterClass) : Document :=
  .text (classes.nameOf fighterClass)

def Entity.document (entity : Entity) : Document :=
  .record [("score", toDocument entity.score), ("name", .text entity.name)]

/-- All of a player but the mana, whose reading would be counted. -/
def Player.document (player : Player) : Document :=
  .record
    [("health", toDocument player.health), ("level", toDocument player.level),
     ("class", player.fighterClass.document),
     ("perk", .text (perks.nameOf player.perk)), ("speed", toDocument player.speed),
     ("nickname", .text player.nickname), ("tags", toDocument player.tags),
     ("score", toDocument player.score),
     ("party", .list (player.party.map FighterClass.document)),
     ("portrait", toDocument player.portrait), ("secret", toDocument player.secret),
     ("is_alive", .bool player.isAlive), ("rank", .text player.rank),
     ("entity", player.entity.document), ("mana_history", toDocument player.manaHistory),
     ("mana_reads", toDocument player.manaReads),
     ("mana_changes", toDocument player.manaChanges)]

/-- What comes of a step together with the shop after it. -/
def Shop.documentWith (shop : Shop) (result : Document) : Document :=
  .record
    [("result", result), ("gold", toDocument shop.gold), ("sold", toDocument shop.sold),
     ("open", .bool shop.isOpen)]

end DataBinding.Game
