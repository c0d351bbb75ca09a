/-
Metadata of bound types as running code sees it: one entry for each
property, in the order in which code lists them.
-/
import DataBinding.Category

namespace DataBinding

structure PropertyInfo where
  category : Category
  name : String
  typeFullName : String
  /-- Reached through an ancestor or through hand-written code. -/
  isInherited : Bool
  deriving DecidableEq

structure TypeInfo where
  typeName : String
  typeFullName : String
  isSealed : Bool
  properties : List PropertyInfo
  deriving DecidableEq

namespace TypeInfo

variable (info : TypeInfo)

/-- The first entry of a name. -/
def property? (name : String) : Option PropertyInfo :=
  info.properties.find? (·.name == name)

def names : List String := info.properties.map (·.name)

end TypeInfo

end DataBinding
