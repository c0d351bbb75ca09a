/-
Shops. None of their fields is bound; they only answer to events.
-/
import DataBinding.CheckedInt
import DataBinding.Game.Parcel
import DataBinding.Live.Method

namespace DataBinding.Game

structure Shop where
  gold : Int32 := 0
  /-- The names of what has been sold, oldest first. -/
  sold : List String := []
  isOpen : Bool := false
  deriving DecidableEq

namespace Shop

def typeName : String := "game::Shop"

/-- Open the doors. -/
def unlock (shop : Shop) : Shop := { shop with isOpen := true }

/-- Sell some pieces of one kind; none are no deal. -/
def buy (loot : Loot) (quantity : Int32) : Action Shop Bool := fun shop =>
  if quantity ≤ 0 then (⟨shop, []⟩, .ok (some false))
  else
    match int32? (loot.price.toInt * quantity.toInt) with
    | none => (⟨shop, []⟩, .error {})
    | some cost =>
      match int32? (shop.gold.toInt + cost.toInt) with
      | none => (⟨shop, []⟩, .error {})
      | some gold =>
        (⟨{ shop with gold, sold := shop.sold ++ [loot.name] }, []⟩, .ok (some true))

def close : Action Shop Bool := fun shop => (⟨{ shop with isOpen := false }, []⟩, .ok none)

def methods : List (Method Shop Parcel Bool) :=
  [{ call :=
       { eventName := "Buy", views := ["town"], methodName := "buy", typeFullName := typeName
         arguments := [⟨"Loot", .custom, "loot"⟩, ⟨"i32", .int, "qty"⟩]
         returnType := some "bool" }
     reading := do
       let loot ← (ArgShape.custom Parcel.loot?).next
       return buy loot (← ArgShape.int.next) },
   { call :=
       { eventName := "close", views := [], methodName := "close", typeFullName := typeName
         arguments := [], returnType := none }
     reading := pure close }]

/-- The event calls of a shop. -/
def register : ModelRegister Shop Parcel Bool := ModelRegister.nothing.extend typeName methods

end Shop

end DataBinding.Game
