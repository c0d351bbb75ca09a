/-
What the host of the game passes unopened.
-/
import DataBinding.Live.EventCall

namespace DataBinding.Game

/-- Something to be bought. -/
structure Loot where
  name : String
  price : Int32
  deriving DecidableEq

inductive Parcel
  | byte (value : UInt8)
  | int (value : Int32)
  | text (value : String)
  | loot (value : Loot)
  deriving DecidableEq

namespace Parcel

def byte? : Parcel → Option UInt8
  | .byte value => some value
  | _ => none

def int? : Parcel → Option Int32
  | .int value => some value
  | _ => none

def text? : Parcel → Option String
  | .text value => some value
  | _ => none

def loot? : Parcel → Option Loot
  | .loot value => some value
  | _ => none

end Parcel

end DataBinding.Game
