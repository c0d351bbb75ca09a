/-
Where the own properties of a type come from. A property is made from one
field, the first of its declaration to offer the property's name, and
everything about it is read off that field (`MadeFrom`). Merging restricts
its follow-ups afterwards and changes nothing else
(`own_of_analyze`).
-/
import DataBinding.Proofs.Merging

namespace DataBinding

variable {schema : Schema} {options : Options} {analysis : Analysis}

-- ============================================================== offers

/-- What a property has from the field it is made from, and whose it is.
Only a bindable type reads which properties are notified along. -/
structure MadeFrom (schema : Schema) (outline : TypeOutline) (field : FieldDecl)
    (property : Property) : Prop where
  backing : property.backing = .field field.name
  enumName : property.enumName = (classify schema outline.scope field.type).enumName
  owner : property.owner = outline.fullName
  alsoNotify : property.alsoNotify = if outline.mode.isBindable then field.alsoNotify else []

theorem madeFrom_of_offer {outline : TypeOutline} {field : FieldDecl} {property : Property}
    (offer : offeredProperty? schema outline field = some property) :
    MadeFrom schema outline field property := by
  unfold offeredProperty? at offer
  dsimp only at offer
  split at offer
  · split at offer
    · next _ mode =>
      obtain ⟨name, -, rfl⟩ := Option.map_eq_some_iff.1 offer
      exact ⟨rfl, by dsimp only, rfl, by rw [mode]; rfl⟩
    · next _ mode =>
      split at offer
      · obtain ⟨name, -, rfl⟩ := Option.map_eq_some_iff.1 offer
        exact ⟨rfl, by dsimp only, rfl, by rw [mode]; rfl⟩
      · cases offer
  · cases offer

/-- The fields of the declaration behind a type. -/
def declaredFields (schema : Schema) (fullName : String) : List FieldDecl :=
  ((schema.typeDecl? fullName).map (·.fields)).getD []

/-- The field behind an own property of a type: the first one that offers
the property's name. -/
def fieldBehind? (schema : Schema) (outline : TypeOutline) (name : String) :
    Option FieldDecl :=
  (declaredFields schema outline.fullName).find? fun field =>
    (offeredProperty? schema outline field).any (·.name == name)

/-- What extraction makes of an outline. -/
theorem mem_extractAll {outlined : List TypeOutline} {extracted : ExtractedType}
    (inside : extracted ∈ (extractAll schema outlined).value) :
    extracted.own = firstOffers Property.name []
      ((declaredFields schema extracted.fullName).filterMap
        (offeredProperty? schema extracted.toTypeOutline)) := by
  simp only [extractAll, List.map_map] at inside
  obtain ⟨outline, -, rfl⟩ := List.mem_map.1 inside
  rfl

/-- An extracted property is what the field behind it offers. -/
theorem offer_of_extracted {outlined : List TypeOutline} {extracted : ExtractedType}
    (inside : extracted ∈ (extractAll schema outlined).value) {property : Property}
    (own : property ∈ extracted.own) :
    ∃ field, fieldBehind? schema extracted.toTypeOutline property.name = some field
      ∧ offeredProperty? schema extracted.toTypeOutline field = some property := by
  rw [mem_extractAll inside] at own
  have first := find?_of_mem_firstOffers own
  rw [List.find?_filterMap] at first
  exact Option.bind_eq_some_iff.1 first

/-- So it is made from this field. -/
theorem madeFrom_of_extracted {outlined : List TypeOutline} {extracted : ExtractedType}
    (inside : extracted ∈ (extractAll schema outlined).value) {property : Property}
    (own : property ∈ extracted.own) :
    ∃ field, fieldBehind? schema extracted.toTypeOutline property.name = some field
      ∧ MadeFrom schema extracted.toTypeOutline field property := by
  obtain ⟨field, behind, offer⟩ := offer_of_extracted inside own
  exact ⟨field, behind, madeFrom_of_offer offer⟩

-- ============================================================ finishing

/-- The own properties of a finished type are the extracted ones, with
follow-ups restricted to the names in its merged list. -/
theorem own_of_finished {extracted : ExtractedType} {merged : List Property}
    {type : TypeDescriptor} (finished : type = (extracted.finish merged).value) :
    type.own = extracted.own.map (·.keepKnown (type.merged.map (·.name))) := by
  have names : type.merged.map (·.name) = merged.map (·.name) := by
    rw [finished]
    show List.map _ (List.map _ _) = _
    rw [List.map_map]
    rfl
  rw [names, finished]
  rfl

/-- Where an own property comes from: the field behind it offers it, and then
its follow-ups are restricted to the names in the merged list. -/
theorem offer_of_analyze (run : analyze schema options = .ok analysis) {type : TypeDescriptor}
    (listed : type ∈ analysis.types) {property : Property} (own : property ∈ type.own) :
    ∃ field offered, fieldBehind? schema type.toTypeOutline property.name = some field
      ∧ offeredProperty? schema type.toTypeOutline field = some offered
      ∧ property = offered.keepKnown (type.merged.map (·.name)) := by
  obtain ⟨outlined, -, extracted, inside, finished⟩ := finished_of_analyze run listed
  rw [own_of_finished finished] at own
  obtain ⟨offered, ownToo, rfl⟩ := List.mem_map.1 own
  have outline : type.toTypeOutline = extracted.toTypeOutline := by rw [finished]; rfl
  obtain ⟨field, behind, offer⟩ := offer_of_extracted inside ownToo
  rw [← outline] at behind offer
  exact ⟨field, offered, behind, offer, rfl⟩

/-- So it is made from this field, up to its follow-ups. -/
theorem own_of_analyze (run : analyze schema options = .ok analysis) {type : TypeDescriptor}
    (listed : type ∈ analysis.types) {property : Property} (own : property ∈ type.own) :
    ∃ field offered, fieldBehind? schema type.toTypeOutline property.name = some field
      ∧ MadeFrom schema type.toTypeOutline field offered
      ∧ property = offered.keepKnown (type.merged.map (·.name)) := by
  obtain ⟨field, offered, behind, offer, kept⟩ := offer_of_analyze run listed own
  exact ⟨field, offered, behind, madeFrom_of_offer offer, kept⟩

/-- Own properties have distinct names. -/
theorem own_nodup (run : analyze schema options = .ok analysis) {type : TypeDescriptor}
    (listed : type ∈ analysis.types) : (type.own.map (·.name)).Nodup := by
  obtain ⟨outlined, -, extracted, inside, finished⟩ := finished_of_analyze run listed
  have names : type.own.map (·.name) = extracted.own.map (·.name) := by
    rw [own_of_finished finished, List.map_map]
    rfl
  rw [names, mem_extractAll inside]
  exact nodup_keys_firstOffers [] _

end DataBinding
