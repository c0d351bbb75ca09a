/-
Those whom players meet: bosses, and people of the village. Both are
sealed.
-/
import DataBinding.Game.Enums
import DataBinding.Live.Model

namespace DataBinding.Game

structure Boss where
  rage : Single := Single.zero
  armor : Single := Single.zero
  damage : Single := Single.zero
  deriving DecidableEq

namespace Boss

def rageProperty : Accessor Boss where
  name := "Rage"
  kind := .single .float
  part := { get := rage, put := fun rage boss => { boss with rage } }

def armorProperty : Accessor Boss where
  name := "Armor"
  kind := .single .float
  part := { get := armor, put := fun armor boss => { boss with armor } }

def damageProperty : Accessor Boss where
  name := "Damage"
  kind := .single .float
  part := { get := damage, put := fun damage boss => { boss with damage } }

def layer : Layer Boss where
  typeName := "Boss"
  fullName := "game::Boss"
  isSealed := true
  accessors := [rageProperty, armorProperty, damageProperty]

def model : Model Boss where
  initial := {}
  own := layer

end Boss

structure Npc where
  fighterClass : FighterClass := FighterClass.warrior
  hp : Int32 := 0
  deriving DecidableEq

namespace Npc

def classProperty : Accessor Npc where
  name := "Class"
  kind := .single (.enum classes)
  part := { get := fighterClass, put := fun fighterClass npc => { npc with fighterClass } }

def hpProperty : Accessor Npc where
  name := "Hp"
  kind := .single .int
  part := { get := hp, put := fun hp npc => { npc with hp } }

def layer : Layer Npc where
  typeName := "Npc"
  fullName := "game::Npc"
  isSealed := true
  accessors := [classProperty, hpProperty]

def model : Model Npc where
  initial := {}
  own := layer

end Npc

end DataBinding.Game
