/-
The properties that a type's own fields give rise to. A field offers a
property when its type is supported, the mode of the type wants it, and a
usable name is left for it. Of several offers of one name the first is
taken; each later one is a warning. A suppressed field makes no accessors
but holds its name all the same.
-/
import DataBinding.Classification
import DataBinding.EnumRegistry
import DataBinding.Outline
import DataBinding.Text.LetterCase

namespace DataBinding

open Text

-- ========================================================== first offers

/-- The items whose key no earlier item has. -/
def firstOffers {α : Type} (key : α → String) (taken : List String) : List α → List α
  | [] => []
  | item :: rest =>
    if key item ∈ taken then firstOffers key taken rest
    else item :: firstOffers key (key item :: taken) rest

/-- The items whose key some earlier item has. -/
def laterOffers {α : Type} (key : α → String) (taken : List String) : List α → List α
  | [] => []
  | item :: rest =>
    if key item ∈ taken then item :: laterOffers key taken rest
    else laterOffers key (key item :: taken) rest

-- ================================================================ names

/-- A field name without the mark of a private field, `m_` or `_`. -/
def withoutFieldMark : List Char → List Char
  | 'm' :: '_' :: rest => rest
  | '_' :: rest => rest
  | cs => cs

/-- A property name is usable when something is left of it and it differs
from the field's. -/
def usableName? (fieldName name : String) : Option String :=
  if name = "" ∨ name = fieldName then none else some name

/-- The name a field gives to its property unless one is written: without
the mark, first character as a capital. -/
def derivedName? (fieldName : String) : Option String :=
  match withoutFieldMark fieldName.toList with
  | [] => none
  | first :: rest => usableName? fieldName (String.ofList (upperChar first ++ rest))

/-- The name of a field's property, from the written name if there is one. -/
def propertyName? (fieldName : String) : Option String → Option String
  | some explicit => usableName? fieldName (trim explicit)
  | none => derivedName? fieldName

-- =============================================================== offers

def slotOf (schema : Schema) (scope : Option String) (field : FieldDecl) : FieldSlot :=
  let meaning := classify schema scope field.type
  { name := field.name
    declaredType := field.type
    category := meaning.category
    enumName := meaning.enumName
    doc := field.doc }

/-- The property that a field offers. Only the bindable mode reads the
annotations about names, follow-ups, injected code and suppression. -/
def offeredProperty? (schema : Schema) (outline : TypeOutline) (field : FieldDecl) :
    Option Property :=
  let meaning := classify schema outline.scope field.type
  let plain (name : String) : Property :=
    { name := name
      backing := .field field.name
      category := meaning.category
      declaredType := field.type
      typeFullName := meaning.typeFullName
      enumName := meaning.enumName
      owner := outline.fullName
      doc := field.doc }
  if meaning.category.isSupported then
    match outline.mode with
    | .bindable _ =>
      (propertyName? field.name field.explicitName?).map fun name =>
        { plain name with
          alsoNotify := field.alsoNotify
          injected := .ofInjections field.injections
          isSuppressed := field.isSuppressed }
    | .autoNotify =>
      if field.isAutoNotify then
        (propertyName? field.name field.autoNotifyName?).map plain
      else none
  else none

-- ============================================================ extraction

/-- What the fields of a type amount to. -/
structure Members where
  slots : List FieldSlot
  own : List Property
  deriving DecidableEq

/-- The warning about an offer that comes too late. -/
def repeatedName (typeName : String) (property : Property) : Diagnostic :=
  ⟨.duplicatePropertyName, typeName,
    "field '" ++ property.fieldName?.getD "" ++ "' maps to '" ++ property.name
      ++ "', which an earlier field already uses"⟩

/-- Slots and own properties of an outlined type. -/
def extract (schema : Schema) (outline : TypeOutline) (fields : List FieldDecl) :
    Reported Members :=
  let offers := fields.filterMap (offeredProperty? schema outline)
  { value :=
      { slots := fields.map (slotOf schema outline.scope)
        own := firstOffers Property.name [] offers }
    diagnostics :=
      (laterOffers Property.name [] offers).map (repeatedName outline.fullName) }

/-- Enter the enums that the accessors of some properties use. -/
def EnumRegistry.registerUsed (registry : EnumRegistry) (schema : Schema)
    (properties : List Property) : EnumRegistry :=
  (properties.filter (!·.isSuppressed)).foldl (fun registry property =>
    match property.enumName.bind schema.enumDecl? with
    | some decl => registry.register (.ofDecl decl)
    | none => registry) registry

end DataBinding
