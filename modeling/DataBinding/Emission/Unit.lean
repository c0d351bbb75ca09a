/-
The code of one type as a whole: its structure, its own methods, the
conversions of the enums it is the first to use, and the binding contract.
The event calls of a type are code of their own.

Which style selections have is left open, and nothing here depends on it.
-/
import DataBinding.Emission.Invocation
import DataBinding.Emission.Storage

namespace DataBinding.Emission

open Code

/-- The binding code of a type that brings the conversions of some enums
along. -/
def typeUnit (paths : CodePaths) (type : TypeDescriptor) (enums : List EnumDescriptor) :
    Emit Drafts := do
  let site ← Site.ofType paths type.fullName
  let storage ← storage site type
  let registration ← registration site type.usedEnums
  let accessors ← accessors site type
  let conversions ← enums.mapM (conversion site)
  let contract ← contract site type
  let event := if type.raisesEvents then changeEventMethod site else []
  let methods := typeInfo site type ++ event ++ registration ++ accessors
  let own := storage ++ leaves "impl" ++ site.self ++ [curly methods] ++ conversions.flatten
  return .plain own :: contract

/-- The code of a type's event calls. -/
def eventUnit (paths : CodePaths) (type : EventTypeDescriptor) : Emit Drafts := do
  let site ← Site.ofType paths type.fullName
  eventRegister site type

end DataBinding.Emission
