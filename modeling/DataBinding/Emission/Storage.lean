/-
The storage of a bound type: a structure with the embedded base first,
then the declared fields, and last the slot for change handlers. A base
that the schema declares is found under the root path; any other is taken
as it is written.
-/
import DataBinding.Emission.Values

namespace DataBinding.Emission

open Code

variable (site : Site) (type : TypeDescriptor)

/-- The type of the embedded base. -/
def baseType : Emit (Option Tokens) :=
  match type.base with
  | none => .ok none
  | some base =>
    if type.chain.head? = some base then (site.itemPath base).map some
    else (readType base).map some

def scopedVisibility : Tokens := [.leaf "pub", round (leaves "crate")]

def visibility : Accessibility → Tokens
  | .«public» => leaves "pub"
  | _ => scopedVisibility

/-- One field of the structure. -/
def storedField (slot : FieldSlot) : Emit Tokens := do
  let fieldName ← name slot.name
  let stored ← storageType site slot.category slot.declaredType slot.enumName
  return docAttributes slot.doc ++ scopedVisibility ++ [fieldName, .leaf ":"] ++ stored
    ++ leaves ","

/-- The documentation of the slot for change handlers. -/
def changeEventDoc : String :=
  " Raised after a bindable property changes."
    ++ if type.ancestorRaisesEvents then " Shadows the change event of the embedded base." else ""

def changeEventField : Tokens :=
  [.leaf "#", square [.leaf "doc", .leaf "=", stringLiteral (changeEventDoc type)]]
    ++ leaves "pub on_property_changed :" ++ site.item "ChangeEvent < Self >" ++ leaves ","

/-- The structure of a bound type. -/
def storage : Emit Tokens := do
  let simpleName ← name type.simpleName
  let derives ← type.derives.mapM readPath
  let derive :=
    if derives.isEmpty then []
    else [.leaf "#", square [.leaf "derive", round (commaSeparated derives)]]
  let base ← baseType site type
  let baseField := base.elim [] fun path =>
    scopedVisibility ++ leaves "base :" ++ path ++ leaves ","
  let fields ← type.slots.mapM (storedField site)
  let event := if type.raisesEvents then changeEventField site type else []
  return docAttributes type.doc ++ derive ++ visibility type.accessibility
    ++ [.leaf "struct", simpleName, curly (baseField ++ fields.flatten ++ event)]

end DataBinding.Emission
