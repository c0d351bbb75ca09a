/-
The binding contract of a type: its metadata, the update methods that
assign a property by name, and the push methods that send all properties
or one. A type with a bound ancestor lets the embedded value act first;
what is left are its own properties, chosen by name.
-/
import DataBinding.Emission.Accessors
import DataBinding.Emission.Conversions

namespace DataBinding.Emission

open Code

variable (site : Site) (type : TypeDescriptor)

-- ============================================================== metadata

/-- One entry of the metadata. -/
def propertyInfo (property : Property) : Tokens :=
  wideCall (site.item "BindablePropertyInfo :: new")
    [site.item ("BindableType :: " ++ property.category.label),
     [stringLiteral property.name], [stringLiteral property.typeFullName],
     [boolLiteral property.isInherited]]

/-- The metadata of the type: one entry for each merged property. -/
def typeInfo : Tokens :=
  [.leaf "#", square [.leaf "doc", .leaf "=", .leaf "r\" Binding metadata for this type.\""]]
    ++ leaves "pub const TYPE_INFO :" ++ site.item "BindableTypeInfo" ++ leaves "="
    ++ wideCall (site.item "BindableTypeInfo :: new")
        [[stringLiteral type.simpleName], [stringLiteral type.fullName],
         [boolLiteral type.isSealed], listOf (type.merged.map (propertyInfo site))]
    ++ leaves ";"

-- ============================================================= delegation

/-- The embedded value that acts first. -/
def delegate? (ancestorDepth : Option Nat) : Option Tokens := ancestorDepth.map baseAccess

/-- Methods that nothing refines are inlined. -/
def inlined (kind : MethodKind) : Tokens :=
  if kind = .final then wordAttribute "inline" else []

/-- A call of the contract on the embedded value. -/
def delegated (methodName : String) (borrow : String) (args : List Tokens) : Tokens :=
  match delegate? type.ancestorDepth with
  | none => []
  | some base =>
    call (site.item ("BindableModel :: " ++ methodName)) ((leaves borrow ++ base) :: args)
      ++ leaves ";"

/-- A method of the contract. -/
def contractMethod (methodName : String) (params : List Tokens) (result : Tokens)
    (body : Drafts) : Drafts :=
  method (inlined type.methodKind) (.leaf methodName) (commaSeparated params) result body

def typeInfoMethod : Drafts :=
  let table := site.item "BindableTypeInfo"
  let stored :=
    leaves "static TYPE_INFO :" ++ table ++ leaves "=" ++ site.self
      ++ leaves ":: TYPE_INFO ;"
  let ancestor :=
    let asked := delegated site type "type_info" "&" []
    if asked.isEmpty then [] else leaves "let _ =" ++ asked
  let registered :=
    if type.usedEnums.isEmpty then []
    else site.self ++ leaves ":: register_enums" ++ [round [], .leaf ";"]
  contractMethod type "type_info" [leaves "& self"] (leaves "& 'static" ++ table)
    [.plain (stored ++ ancestor ++ registered ++ leaves "& TYPE_INFO")]

-- ================================================================ updates

def updateName : DispatchKind → String
  | .int => "update_int"
  | .float => "update_float"
  | .string => "update_string"
  | .bool => "update_bool"

def updateType : DispatchKind → Tokens
  | .int => leaves "i32"
  | .float => leaves "f32"
  | .string => leaves "& str"
  | .bool => leaves "bool"

/-- Assigning an incoming value through the setter of a property. An enum
property is assigned only if the integer names a variant. -/
def assignment (kind : DispatchKind) (property : Property) : Emit Tokens := do
  let setterName ← name property.setterName
  let assign (value : Tokens) : Tokens :=
    leaves "self ." ++ [setterName, round value, .leaf ";"]
  match kind, property.enumName with
  | .int, some enumName =>
    let path ← site.itemPath enumName
    let pattern :=
      leaves "let" ++ call (leaves ":: std :: option :: Option :: Some") [leaves "value"]
    let converted := asEnum site path ++ leaves ":: from_int" ++ [round (leaves "value")]
    return leaves "if" ++ pattern ++ leaves "=" ++ converted
      ++ [curly (assign (leaves "value"))]
  | .string, _ => return assign (leaves "value . to_owned" ++ [round []])
  | _, _ => return assign (leaves "value")

/-- The update method of one kind. -/
def updateMethod (kind : DispatchKind) : Emit Drafts := do
  let arms ← (type.dispatched kind).mapM fun property => do
    return { name := property.name, body := ← assignment site kind property : Arm }
  if arms.isEmpty && type.ancestorDepth.isNone then
    return contractMethod type (updateName kind)
      [leaves "& mut self", leaves "_property_name : & str",
       leaves "_value :" ++ updateType kind] [] []
  else
    return contractMethod type (updateName kind)
      [leaves "& mut self", leaves "property_name : & str", leaves "value :" ++ updateType kind] []
      [.plain
        (delegated site type (updateName kind) "& mut" [leaves "property_name", leaves "value"]),
       .select (leaves "property_name") arms]

-- ================================================================= pushes

/-- Sending one property, by its name. -/
def sending (property : Property) : Emit Arm := do
  let getterName ← name property.getterName
  let read := leaves "self ." ++ [getterName, round []]
  let body :=
    call (leaves "sink . update_ui")
      [[stringLiteral property.name], wireValue site property.category read] ++ leaves ";"
  return { name := property.name, body := body }

def sinkParam (paramName : String) : Tokens :=
  [.leaf paramName] ++ leaves ": & mut dyn" ++ site.item "ModelSink"

def pushMethods : Emit Drafts := do
  let sends ← type.accessors.mapM (sending site)
  if sends.isEmpty && type.ancestorDepth.isNone then
    return contractMethod type "push_all" [leaves "& self", sinkParam site "_sink"] [] []
      ++ contractMethod type "push_one"
          [leaves "& self", leaves "_property_name : & str", sinkParam site "_sink"] [] []
  else
    return contractMethod type "push_all" [leaves "& self", sinkParam site "sink"] []
        [.plain (delegated site type "push_all" "&" [leaves "sink"]),
         .plain (sends.flatMap (·.body))]
      ++ contractMethod type "push_one"
          [leaves "& self", leaves "property_name : & str", sinkParam site "sink"] []
          [.plain (delegated site type "push_one" "&" [leaves "property_name", leaves "sink"]),
           .select (leaves "property_name") sends]

-- =============================================================== contract

/-- The implementation of the contract. -/
def contract : Emit Drafts := do
  let updates ← DispatchKind.all.mapM (updateMethod site type)
  let pushes ← pushMethods site type
  return [.plain (leaves "impl" ++ site.item "BindableModel for" ++ site.self),
    .block (typeInfoMethod site type ++ updates.flatten ++ pushes)]

end DataBinding.Emission
