/-
Enums as running code sees them. A variant is its place in the table of
its enum; it has an integer, and an integer stands for the first variant
that has it. Tables are entered into a directory, where the first one of a
name stays.
-/
import DataBinding.EnumRegistry

namespace DataBinding

namespace EnumValue

/-- The text for a locale. -/
def alias? (value : EnumValue) (locale : String) : Option String := value.aliases.lookup locale

end EnumValue

namespace EnumDescriptor

variable (enum : EnumDescriptor)

/-- The first entry with an integer. -/
def value? (int : Int32) : Option EnumValue := enum.values.find? (·.intValue == int)

/-- The first entry of a name. -/
def valueNamed? (name : String) : Option EnumValue := enum.values.find? (·.name == name)

/-- A variant of the enum. -/
abbrev Variant : Type := Fin enum.values.length

def valueOf (variant : enum.Variant) : EnumValue := enum.values.get variant

def toInt (variant : enum.Variant) : Int32 := (enum.valueOf variant).intValue

def nameOf (variant : enum.Variant) : String := (enum.valueOf variant).name

/-- The variant that an integer stands for. -/
def ofInt? (int : Int32) : Option enum.Variant :=
  enum.values.findFinIdx? (·.intValue == int)

end EnumDescriptor

-- =========================================================== directories

/-- Who entered a table. -/
inductive TableSource
  /-- The code of the enum itself. -/
  | enum
  | host
  deriving DecidableEq

/-- The tables that are entered, each name once. -/
abbrev EnumDirectory := List (EnumDescriptor × TableSource)

namespace EnumDirectory

variable (directory : EnumDirectory)

def entry? (fullName : String) : Option (EnumDescriptor × TableSource) :=
  directory.find? (·.1.fullName == fullName)

def get? (fullName : String) : Option EnumDescriptor := (directory.entry? fullName).map (·.1)

/-- Enter a table unless its name is taken. -/
def enter (table : EnumDescriptor) (source : TableSource) : EnumDirectory :=
  if (directory.entry? table.fullName).isSome then directory else directory ++ [(table, source)]

/-- The names of all tables in order. -/
def names : List String := (directory.map (·.1.fullName)).mergeSort (· ≤ ·)

/-- Whether the table of an enum was entered by the enum itself. -/
def holdsOwn (fullName : String) : Bool :=
  (directory.entry? fullName).any (·.2 == .enum)

end EnumDirectory

end DataBinding
