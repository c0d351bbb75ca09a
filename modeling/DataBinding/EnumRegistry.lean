/-
The enums a generator run needs. A registry only grows: an enum is entered
on first reference, and later entries under the same name change nothing.
Beside it stands the set of enums whose conversions some unit already
carries; `pending` is what a unit still has to bring along.
-/
import DataBinding.Declaration

namespace DataBinding

structure EnumValue where
  intValue : Int32
  name : String
  /-- Pairs of locale and text. -/
  aliases : List (String × String)
  deriving DecidableEq

structure EnumDescriptor where
  fullName : String
  isFlags : Bool
  values : List EnumValue
  deriving DecidableEq

/-- The locale of an alias declared without one. -/
def noLocale : String := "none"

def EnumDescriptor.ofDecl (decl : EnumDecl) : EnumDescriptor where
  fullName := decl.fullName
  isFlags := decl.isFlags
  values := decl.values.map fun value =>
    { intValue := value.value
      name := value.name
      aliases := value.aliases.map fun entry => (entry.locale.getD noLocale, entry.text) }

/-- The enums entered so far, oldest first and no name twice, and the names
of those already carried by a unit. -/
structure EnumRegistry where
  entries : List EnumDescriptor := []
  emitted : List String := []
  deriving DecidableEq

namespace EnumRegistry

variable (registry : EnumRegistry)

def get? (fullName : String) : Option EnumDescriptor :=
  registry.entries.find? (·.fullName == fullName)

def contains (fullName : String) : Bool := (registry.get? fullName).isSome

def isEmitted (fullName : String) : Bool := registry.emitted.contains fullName

def size : Nat := registry.entries.length

/-- Whether entering a descriptor would add it: its name is not taken yet. -/
def admits (descriptor : EnumDescriptor) : Bool := !registry.contains descriptor.fullName

/-- Enter a descriptor unless its name is taken. -/
def register (descriptor : EnumDescriptor) : EnumRegistry :=
  if registry.contains descriptor.fullName then registry
  else { registry with entries := registry.entries ++ [descriptor] }

/-- Note that a unit carries the conversions of an enum. -/
def markEmitted (fullName : String) : EnumRegistry :=
  if registry.isEmitted fullName then registry
  else { registry with emitted := registry.emitted ++ [fullName] }

def markAllEmitted (fullNames : List String) : EnumRegistry :=
  fullNames.foldl markEmitted registry

/-- The entered enums among `names` that no unit carries yet, each once, in
the order of first mention. -/
def pending (names : List String) : List EnumDescriptor :=
  (names.eraseDups.filter (!registry.isEmitted ·)).filterMap registry.get?

/-- All entries in the order of their names. -/
def sorted : List EnumDescriptor :=
  registry.entries.mergeSort (·.fullName ≤ ·.fullName)

/-- All names of emitted enums in order. -/
def sortedEmitted : List String := registry.emitted.mergeSort (· ≤ ·)

end EnumRegistry

end DataBinding
