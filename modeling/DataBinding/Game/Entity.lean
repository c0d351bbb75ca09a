/-
Entities: anything that lives in the world. An entity has a score and a
name, and can be renamed by event.
-/
import DataBinding.Game.Parcel
import DataBinding.Live.Method
import DataBinding.Live.Model

namespace DataBinding.Game

structure Entity where
  score : Int32 := 0
  name : String := ""
  deriving DecidableEq

namespace Entity

def typeName : String := "game::Entity"

-- =========================================================== properties

def scoreProperty : Accessor Entity where
  name := "Score"
  kind := .single .int
  part := { get := score, put := fun score entity => { entity with score } }

def nameProperty : Accessor Entity where
  name := "Name"
  kind := .single .string
  part := { get := name, put := fun name entity => { entity with name } }

def layer : Layer Entity where
  typeName := "Entity"
  fullName := typeName
  accessors := [scoreProperty, nameProperty]

def model : Model Entity where
  initial := {}
  own := layer

-- ============================================================== methods

def rename {ρ : Type} (name : String) : Action Entity ρ := fun entity =>
  (layer.set nameProperty name entity).returning none

def renameMethod {ρ : Type} : Method Entity Parcel ρ where
  call :=
    { eventName := "Rename", views := [], methodName := "rename", typeFullName := typeName
      arguments := [⟨"String", .string, "name"⟩], returnType := none }
  reading := do return rename (← ArgShape.string.next)

/-- The event calls of an entity. -/
def register {ρ : Type} : ModelRegister Entity Parcel ρ :=
  ModelRegister.nothing.extend typeName [renameMethod]

end Entity

end DataBinding.Game
