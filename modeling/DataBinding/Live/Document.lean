/-
Values, tables and event calls of running models as documents. A value is
written under the name of its sort. A number with a fraction is written as
the hexadecimal digits of its bits, so that none is lost.
-/
import DataBinding.Document.Decoder
import DataBinding.Live.Consumer
import DataBinding.Live.Method
import DataBinding.Live.Model
import DataBinding.Text.Digits

namespace DataBinding

-- =============================================================== values

namespace Single

/-- The eight digits of the bits. -/
def digits (number : Single) : String :=
  let digits := Nat.toDigits 16 number.bits.toNat
  String.ofList (List.replicate (8 - digits.length) '0' ++ digits)

def ofDigits? (text : String) : Option Single := do
  let bits ← Text.ofDigits? 16 text.toList
  if text.isEmpty ∨ 4294967296 ≤ bits then none else some ⟨bits.toUInt32⟩

end Single

instance : Documented Single where
  toDocument number := .text number.digits
  ofDocument?
    | .text text => Single.ofDigits? text
    | _ => failure

instance : Documented Sprite where
  toDocument sprite := .text sprite.path
  ofDocument? document := Sprite.mk <$> ofDocument? document

instance : Documented PropertyValue where
  toDocument
    | .int value => .record [("int", toDocument value)]
    | .float value => .record [("float", toDocument value)]
    | .bool value => .record [("bool", toDocument value)]
    | .string value => .record [("string", toDocument value)]
    | .sprite value => .record [("sprite", toDocument value)]
    | .listInt values => .record [("list_int", toDocument values)]
    | .listFloat values => .record [("list_float", toDocument values)]
    | .listBool values => .record [("list_bool", toDocument values)]
    | .listString values => .record [("list_string", toDocument values)]
    | .listSprite values => .record [("list_sprite", toDocument values)]
    | .listEnum values => .record [("list_enum", toDocument values)]
  ofDocument?
    | .record [(tag, value)] =>
      match tag with
      | "int" => PropertyValue.int <$> ofDocument? value
      | "float" => PropertyValue.float <$> ofDocument? value
      | "bool" => PropertyValue.bool <$> ofDocument? value
      | "string" => PropertyValue.string <$> ofDocument? value
      | "sprite" => PropertyValue.sprite <$> ofDocument? value
      | "list_int" => PropertyValue.listInt <$> ofDocument? value
      | "list_float" => PropertyValue.listFloat <$> ofDocument? value
      | "list_bool" => PropertyValue.listBool <$> ofDocument? value
      | "list_string" => PropertyValue.listString <$> ofDocument? value
      | "list_sprite" => PropertyValue.listSprite <$> ofDocument? value
      | "list_enum" => PropertyValue.listEnum <$> ofDocument? value
      | _ => failure
    | _ => failure

/-- A value of a field as it stands; variants stand as their names. -/
def ItemKind.document : (kind : ItemKind) → kind.Carrier → Document
  | .int, value => toDocument (α := Int32) value
  | .float, value => toDocument (α := Single) value
  | .bool, value => .bool value
  | .string, value => .text value
  | .sprite, value => toDocument (α := Sprite) value
  | .enum type, variant => .text (type.nameOf variant)

def Held.document : Held → Document
  | ⟨.single item, value⟩ => item.document value
  | ⟨.list item, values⟩ => .list (values.map item.document)

/-- What a getter hands out; a reading that does not take place is a panic. -/
def Fetched.document : Fetched → Document
  | .ok held => held.document
  | .error _ => .record [("error", .text "Panic")]

-- =============================================================== tables

/-- The category of something that is bound. -/
def boundCategory? (label : String) : Option Category :=
  (Category.ofLabel? label).filter Category.isSupported

instance : Documented PropertyInfo where
  toDocument info :=
    .record
      [("bind_type", .text info.category.label), ("name", toDocument info.name),
       ("type_full_name", toDocument info.typeFullName),
       ("inherited", toDocument info.isInherited)]
  ofDocument?
    | .record entries => do
      let category ← boundCategory? (← Document.required entries "bind_type")
      let name ← Document.required entries "name"
      let typeFullName ← Document.required entries "type_full_name"
      return ⟨category, name, typeFullName, ← Document.required entries "inherited"⟩
    | _ => failure

instance : Documented TypeInfo where
  toDocument info :=
    .record
      [("type_name", toDocument info.typeName),
       ("type_full_name", toDocument info.typeFullName), ("sealed", toDocument info.isSealed),
       ("properties", toDocument info.properties)]
  ofDocument?
    | .record entries => do
      let typeName ← Document.required entries "type_name"
      let typeFullName ← Document.required entries "type_full_name"
      let isSealed ← Document.required entries "sealed"
      return ⟨typeName, typeFullName, isSealed, ← Document.required entries "properties"⟩
    | _ => failure

/-- An entry in the table of an enum. -/
def EnumValue.tableDocument (value : EnumValue) : Document :=
  .record
    [("int_value", toDocument value.intValue), ("name", toDocument value.name),
     ("aliases", .list (value.aliases.map fun (locale, text) =>
       .record [("locale", .text locale), ("text", .text text)]))]

/-- The table of an enum. -/
def EnumDescriptor.tableDocument (enum : EnumDescriptor) : Document :=
  .record
    [("full_name", toDocument enum.fullName), ("flags", toDocument enum.isFlags),
     ("values", .list (enum.values.map EnumValue.tableDocument))]

def Document.textPair? : Document → Decoder (String × String)
  | .list [.text first, .text second] => pure (first, second)
  | _ => failure

/-- An entry whose aliases are pairs. -/
def EnumValue.ofTable? : Document → Decoder EnumValue
  | .record entries => do
    let intValue ← Document.required entries "int_value"
    let name ← Document.required entries "name"
    match (entries.lookup "aliases").getD (.list []) with
    | .list aliases => return ⟨intValue, name, ← aliases.mapM Document.textPair?⟩
    | _ => failure
  | _ => failure

def EnumDescriptor.ofTable? : Document → Decoder EnumDescriptor
  | .record entries => do
    let fullName ← Document.required entries "full_name"
    let isFlags ← Document.optional entries "flags" false
    match (entries.lookup "values").getD (.list []) with
    | .list values => return ⟨fullName, isFlags, ← values.mapM EnumValue.ofTable?⟩
    | _ => failure
  | _ => failure

-- ================================================================ calls

instance : Documented ArgumentInfo where
  toDocument info :=
    .record
      [("type_full_name", toDocument info.typeFullName), ("kind", .text info.kind.label),
       ("name", toDocument info.name)]
  ofDocument?
    | .record entries => do
      let typeFullName ← Document.required entries "type_full_name"
      let kind ← ArgumentKind.ofLabel? (← Document.required entries "kind")
      return ⟨typeFullName, kind, ← Document.required entries "name"⟩
    | _ => failure

/-- A call may be written without any of its parts. -/
instance : Documented EventCall where
  toDocument call :=
    .record
      [("event_name", toDocument call.eventName), ("views", toDocument call.views),
       ("method_name", toDocument call.methodName),
       ("type_full_name", toDocument call.typeFullName),
       ("arguments", toDocument call.arguments), ("return_type", toDocument call.returnType)]
  ofDocument?
    | .record entries => do
      let eventName ← Document.optional entries "event_name" ""
      let views ← Document.optional entries "views" []
      let methodName ← Document.optional entries "method_name" ""
      let typeFullName ← Document.optional entries "type_full_name" ""
      let arguments ← Document.optional entries "arguments" []
      let returnType ← Document.optional entries "return_type" none
      return ⟨eventName, views, methodName, typeFullName, arguments, returnType⟩
    | _ => failure

-- ============================================================ deliveries

def Entry.document (entry : Entry) : Document :=
  .list [.text entry.1, toDocument entry.2]

def Delivery.document (delivery : Delivery) : Document :=
  .list [.text delivery.model, .text delivery.property, toDocument delivery.value]

end DataBinding
