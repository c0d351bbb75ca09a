/-
How values of each category appear in emitted code: the type that stores
them, the shape in which a getter hands them out, and the form in which
they are sent to the view. Small values are handed out by value, the
others borrowed.
-/
import DataBinding.Category
import DataBinding.Descriptor
import DataBinding.Emission.Site

namespace DataBinding.Emission

open Code

variable (site : Site)

-- =============================================================== storage

/-- The path of the enum behind a category. -/
def enumType (declaredType : String) : Option String → Emit Tokens
  | some enumName => site.itemPath enumName
  | none => .error (.invalidType declaredType)

def stringType : Tokens := leaves ":: std :: string :: String"

def vectorOf (element : Tokens) : Tokens :=
  leaves ":: std :: vec :: Vec <" ++ element ++ leaves ">"

/-- The type that stores values of a category. -/
def storageType (category : Category) (declaredType : String) (enumName : Option String) :
    Emit Tokens :=
  match category with
  | .bool => .ok (leaves "bool")
  | .float => .ok (leaves "f32")
  | .int => .ok (leaves "i32")
  | .string => .ok stringType
  | .sprite => .ok (site.item "Sprite")
  | .enum | .flagsEnum => enumType site declaredType enumName
  | .listBool => .ok (vectorOf (leaves "bool"))
  | .listFloat => .ok (vectorOf (leaves "f32"))
  | .listInt => .ok (vectorOf (leaves "i32"))
  | .listString => .ok (vectorOf stringType)
  | .listSprite => .ok (vectorOf (site.item "Sprite"))
  | .listEnum => (enumType site declaredType enumName).map vectorOf
  | .unsupported => readType declaredType

/-- The category of a list's elements. -/
def elementCategory : Category → Category
  | .listBool => .bool
  | .listEnum => .enum
  | .listFloat => .float
  | .listInt => .int
  | .listSprite => .sprite
  | .listString => .string
  | category => category

def Site.storageOf (property : Property) : Emit Tokens :=
  storageType site property.category property.declaredType property.enumName

-- =============================================================== getters

/-- What a getter answers. -/
def getterType (property : Property) : Emit Tokens := do
  let stored ← site.storageOf property
  if property.category.isCopy then return stored
  else if property.category == .string then return leaves "& str"
  else if property.category == .sprite then return .leaf "&" :: site.item "Sprite"
  else if property.category.isList then
    let element ←
      storageType site (elementCategory property.category) property.declaredType
        property.enumName
    return [.leaf "&", square element]
  else throw (.invalidType property.declaredType)

/-- A stored field in the shape of its getter. -/
def getterBody (category : Category) (field : Token) : Tokens :=
  let stored := leaves "self ." ++ [field]
  if category.isCopy then stored
  else if category == .string then stored ++ leaves ". as_str" ++ [round []]
  else if category.isList then stored ++ leaves ". as_slice" ++ [round []]
  else .leaf "&" :: stored

-- ============================================================= wire form

/-- An expression in getter shape as a value for the view. Enums travel as
their integers. -/
def wireValue (category : Category) (expr : Tokens) : Tokens :=
  match category with
  | .enum | .flagsEnum =>
    call (site.item "PropertyValue :: Int") [call (site.item "BindableEnum :: to_int") [expr]]
  | .listEnum =>
    let ints :=
      expr ++ leaves ". iter" ++ [round []] ++ leaves ". map"
        ++ [round (leaves "| v |" ++ call (site.item "BindableEnum :: to_int") [leaves "* v"])]
        ++ leaves ". collect" ++ [round []]
    call (site.item "PropertyValue :: ListEnum")
      [call (leaves ":: std :: borrow :: Cow :: Owned") [ints]]
  | _ => call (site.item "PropertyValue :: from") [expr]

/-- The value that a setter takes in, before it is stored. -/
def incomingValue (category : Category) : Tokens :=
  let shape :=
    if category.isCopy then leaves "value"
    else if category == .string then leaves "value . as_str" ++ [round []]
    else if category == .sprite then leaves "& value"
    else leaves "value . as_slice" ++ [round []]
  wireValue site category shape

-- ============================================================= snapshots

/-- A read value as a local keeps it over a change. -/
def captured (category : Category) (read : Tokens) : Tokens :=
  if category.isCopy then read
  else if category == .string then read ++ leaves ". to_owned" ++ [round []]
  else if category.isList then read ++ leaves ". to_vec" ++ [round []]
  else read ++ leaves ". clone" ++ [round []]

/-- The test whether a value differs from the one kept. -/
def differs (category : Category) (read : Tokens) (kept : Token) : Tokens :=
  if category.isCopy then read ++ [.leaf "!=", kept]
  else if category == .string then
    read ++ [.leaf "!=", kept] ++ leaves ". as_str" ++ [round []]
  else if category.isList then
    read ++ [.leaf "!=", kept] ++ leaves ". as_slice" ++ [round []]
  else .leaf "*" :: read ++ [.leaf "!=", kept]

end DataBinding.Emission
