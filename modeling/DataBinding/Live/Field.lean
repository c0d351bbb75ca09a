/-
Typed fields of a model. A value kind fixes what its values are, when two
of them are equal, and how they travel; a field of a kind is a part of the
state that holds such a value, under the name of its property. A reading
is a value that is computed from the state.
-/
import DataBinding.Live.EnumTable
import DataBinding.Live.TypeInfo
import DataBinding.Live.Value

namespace DataBinding

-- ================================================================ parts

/-- A part of a whole, which can be read and replaced. -/
structure Part (σ α : Type) where
  get : σ → α
  put : α → σ → σ
  get_put : ∀ a s, get (put a s) = a := by intros; rfl
  put_get : ∀ s, put (get s) s = s := by intros; rfl
  put_put : ∀ a b s, put b (put a s) = put b s := by intros; rfl

namespace Part

variable {σ τ α : Type}

attribute [simp] get_put put_get put_put

def modify (part : Part σ α) (change : α → α) (state : σ) : σ :=
  part.put (change (part.get state)) state

/-- Change the part, unless it is refused. -/
def modify? (part : Part σ α) (change : α → Option α) (state : σ) : Option σ :=
  (change (part.get state)).map fun value => part.put value state

/-- A part of a part. -/
def within (inner : Part τ α) (outer : Part σ τ) : Part σ α where
  get state := inner.get (outer.get state)
  put value state := outer.put (inner.put value (outer.get state)) state
  get_put := by simp
  put_get := by simp
  put_put := by simp

end Part

-- ========================================================== value kinds

/-- What a single value is. -/
inductive ItemKind
  | int
  | float
  | bool
  | string
  | sprite
  | enum (type : EnumDescriptor)

/-- What the value of a property is. -/
inductive ValueKind
  | single (item : ItemKind)
  | list (item : ItemKind)

namespace ItemKind

@[reducible] def Carrier : ItemKind → Type
  | .int => Int32
  | .float => Single
  | .bool => Bool
  | .string => String
  | .sprite => Sprite
  | .enum type => type.Variant

/-- Equality, which for floats is that of the numbers. -/
def same : (kind : ItemKind) → kind.Carrier → kind.Carrier → Bool
  | .int => fun a b => a == b
  | .float => Single.same
  | .bool => fun a b => a == b
  | .string => fun a b => a == b
  | .sprite => fun a b => a == b
  | .enum _ => fun a b => a == b

def typeFullName : ItemKind → String
  | .int => "i32"
  | .float => "f32"
  | .bool => "bool"
  | .string => "String"
  | .sprite => "bindery::Sprite"
  | .enum type => type.fullName

def category : ItemKind → Category
  | .int => .int
  | .float => .float
  | .bool => .bool
  | .string => .string
  | .sprite => .sprite
  | .enum type => if type.isFlags then .flagsEnum else .enum

/-- The value as it travels; enums do so as their integers. -/
def wire : (kind : ItemKind) → kind.Carrier → PropertyValue
  | .int => .int
  | .float => .float
  | .bool => .bool
  | .string => .string
  | .sprite => .sprite
  | .enum type => fun variant => .int (type.toInt variant)

/-- Several values as they travel together. -/
def wireList : (kind : ItemKind) → List kind.Carrier → PropertyValue
  | .int => .listInt
  | .float => .listFloat
  | .bool => .listBool
  | .string => .listString
  | .sprite => .listSprite
  | .enum type => fun variants => .listEnum (variants.map type.toInt)

/-- The value that something on its way stands for. -/
def ofWire? : (kind : ItemKind) → PropertyValue → Option kind.Carrier
  | .int, .int value => some value
  | .float, .float value => some value
  | .bool, .bool value => some value
  | .string, .string value => some value
  | .sprite, .sprite value => some value
  | .enum type, .int value => type.ofInt? value
  | _, _ => none

def listOfWire? : (kind : ItemKind) → PropertyValue → Option (List kind.Carrier)
  | .int, .listInt values => some values
  | .float, .listFloat values => some values
  | .bool, .listBool values => some values
  | .string, .listString values => some values
  | .sprite, .listSprite values => some values
  | .enum type, .listEnum values => values.mapM type.ofInt?
  | _, _ => none

end ItemKind

namespace ValueKind

@[reducible] def Carrier : ValueKind → Type
  | .single item => item.Carrier
  | .list item => List item.Carrier

def same : (kind : ValueKind) → kind.Carrier → kind.Carrier → Bool
  | .single item => item.same
  | .list item => sameItems item.same

def typeFullName : ValueKind → String
  | .single item => item.typeFullName
  | .list item => "Vec<" ++ item.typeFullName ++ ">"

def category : ValueKind → Category
  | .single item => item.category
  | .list item => (item.category.listOf?).getD .unsupported

def wire : (kind : ValueKind) → kind.Carrier → PropertyValue
  | .single item => item.wire
  | .list item => item.wireList

def ofWire? : (kind : ValueKind) → PropertyValue → Option kind.Carrier
  | .single item => item.ofWire?
  | .list item => item.listOfWire?

/-- The enum whose variants occur in the values. -/
def enum? : ValueKind → Option EnumDescriptor
  | .single (.enum type) | .list (.enum type) => some type
  | _ => none

end ValueKind

/-- A value together with its kind. -/
structure Held where
  kind : ValueKind
  value : kind.Carrier

-- =============================================================== fields

/-- A field of the state `σ`, by the name of its property. -/
structure Field (σ : Type) where
  name : String
  kind : ValueKind
  part : Part σ kind.Carrier

/-- A property that is computed. -/
structure Reading (σ : Type) where
  name : String
  kind : ValueKind
  read : σ → kind.Carrier

variable {σ τ : Type}

namespace Field

def get (field : Field σ) (state : σ) : field.kind.Carrier := field.part.get state

/-- The value as it travels. -/
def wired (field : Field σ) (state : σ) : PropertyValue :=
  field.kind.wire (field.get state)

def held (field : Field σ) (state : σ) : Held := ⟨field.kind, field.get state⟩

/-- The field of a model that is part of another one. -/
def within (field : Field τ) (outer : Part σ τ) : Field σ where
  name := field.name
  kind := field.kind
  part := field.part.within outer

def info (field : Field σ) (isInherited : Bool) : PropertyInfo :=
  ⟨field.kind.category, field.name, field.kind.typeFullName, isInherited⟩

end Field

namespace Reading

def wired (reading : Reading σ) (state : σ) : PropertyValue :=
  reading.kind.wire (reading.read state)

def held (reading : Reading σ) (state : σ) : Held := ⟨reading.kind, reading.read state⟩

/-- Whether two states show the same value. -/
def same (reading : Reading σ) (before after : σ) : Bool :=
  reading.kind.same (reading.read before) (reading.read after)

def within (reading : Reading τ) (outer : Part σ τ) : Reading σ where
  name := reading.name
  kind := reading.kind
  read state := reading.read (outer.get state)

def info (reading : Reading σ) : PropertyInfo :=
  ⟨reading.kind.category, reading.name, reading.kind.typeFullName, true⟩

end Reading

end DataBinding
