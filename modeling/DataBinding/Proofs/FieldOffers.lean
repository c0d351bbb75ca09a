/-
Which fields of a type become properties. A field is usable if its type is
supported, the mode of the type wants it, and its name leaves one for the
property. Of the usable fields of one name the first becomes a property, and
each later one is a warning.

# Positions

Everything is said by the positions of the fields: a name is new at its
first position, and repeated at all others. Fields are taken up one after
the other, so what is known of the first ones stays as it is when one more
comes, and this one is compared with those before it (`firstOffers_at`,
`laterOffers_at`).

# Silence

Fields that are not usable are passed over without a word, and of the stages
that follow none says anything about repeated names; so what an analysis
says about them is what extraction says (`repeatWarnings_of_analyze`).
-/
import Mathlib.Data.List.Induction
import DataBinding.Proofs.Extraction
import DataBinding.Proofs.Rejections

namespace DataBinding

variable {α β : Type}

-- ============================================================= positions

/-- A name stands here, and nowhere before. -/
def FirstAt (names : Nat → Option String) (i : Nat) : Prop :=
  names i ≠ none ∧ ∀ j < i, names j ≠ names i

/-- A name stands here that stands somewhere before. -/
def RepeatedAt (names : Nat → Option String) (i : Nat) : Prop :=
  names i ≠ none ∧ ∃ j < i, names j = names i

instance (names : Nat → Option String) : DecidablePred (FirstAt names) :=
  fun i => inferInstanceAs (Decidable (names i ≠ none ∧ ∀ j < i, names j ≠ names i))

instance (names : Nat → Option String) : DecidablePred (RepeatedAt names) :=
  fun i => inferInstanceAs (Decidable (names i ≠ none ∧ ∃ j < i, names j = names i))

section Positions

variable {key : α → String} {make? : β → Option α}

/-- The name at a position, if the item there makes something. -/
def nameAt? (key : α → String) (make? : β → Option α) (items : List β) (i : Nat) :
    Option String :=
  items[i]?.bind fun item => (make? item).map key

theorem nameAt?_concat_of_lt {items : List β} (last : β) {i : Nat} (before : i < items.length) :
    nameAt? key make? (items ++ [last]) i = nameAt? key make? items i := by
  unfold nameAt?
  rw [List.getElem?_append_left before]

theorem nameAt?_concat_length (items : List β) (last : β) :
    nameAt? key make? (items ++ [last]) items.length = (make? last).map key := by
  unfold nameAt?
  rw [List.getElem?_concat_length]
  rfl

/-- The names of what is made are those that stand somewhere. -/
theorem mem_names_iff {items : List β} {name : String} :
    name ∈ (items.filterMap make?).map key
      ↔ ∃ i < items.length, nameAt? key make? items i = some name := by
  simp only [List.mem_map, List.mem_filterMap, nameAt?, Option.bind_eq_some_iff,
    Option.map_eq_some_iff]
  constructor
  · rintro ⟨made, ⟨item, inside, makes⟩, named⟩
    obtain ⟨i, within, here⟩ := List.mem_iff_getElem.1 inside
    exact ⟨i, within, item, List.getElem?_eq_some_iff.2 ⟨within, here⟩, made, makes, named⟩
  · rintro ⟨i, -, item, here, made, makes, named⟩
    exact ⟨made, ⟨item, List.mem_of_getElem? here, makes⟩, named⟩

/-- With one more item, positions before it are judged as they were. -/
theorem filter_range_concat {judge : (Nat → Option String) → Nat → Prop}
    [∀ names, DecidablePred (judge names)]
    (congr : ∀ names others i, (∀ j ≤ i, names j = others j) → (judge names i ↔ judge others i))
    (items : List β) (last : β) :
    (List.range (items ++ [last]).length).filter (judge (nameAt? key make? (items ++ [last])))
      = (List.range items.length).filter (judge (nameAt? key make? items))
        ++ if judge (nameAt? key make? (items ++ [last])) items.length then [items.length]
          else [] := by
  have before : ∀ i ∈ List.range items.length,
      decide (judge (nameAt? key make? (items ++ [last])) i)
        = decide (judge (nameAt? key make? items) i) := by
    intro i within
    refine decide_eq_decide.2 (congr _ _ i fun j upTo => ?_)
    exact nameAt?_concat_of_lt last (Nat.lt_of_le_of_lt upTo (List.mem_range.1 within))
  rw [List.length_append, List.length_singleton, List.range_succ, List.filter_append,
    List.filter_congr before]
  -- What is left is the position of the further item.
  simp only [List.filter_cons, List.filter_nil, decide_eq_true_eq]

theorem FirstAt.congr {names others : Nat → Option String} {i : Nat}
    (same : ∀ j ≤ i, names j = others j) : FirstAt names i ↔ FirstAt others i := by
  unfold FirstAt
  rw [same i (Nat.le_refl i)]
  refine and_congr_right fun _ => forall_congr' fun j => forall_congr' fun earlier => ?_
  rw [same j (Nat.le_of_lt earlier)]

theorem RepeatedAt.congr {names others : Nat → Option String} {i : Nat}
    (same : ∀ j ≤ i, names j = others j) : RepeatedAt names i ↔ RepeatedAt others i := by
  unfold RepeatedAt
  rw [same i (Nat.le_refl i)]
  refine and_congr_right fun _ => exists_congr fun j => and_congr_right fun earlier => ?_
  rw [same j (Nat.le_of_lt earlier)]

theorem firstAt_iff_not_repeatedAt {names : Nat → Option String} {i : Nat}
    (present : names i ≠ none) : FirstAt names i ↔ ¬ RepeatedAt names i := by
  unfold FirstAt RepeatedAt
  simp only [present, not_false_eq_true, ne_eq, true_and, not_exists, not_and]

/-- The name of a further item is repeated if one before it makes something
of that name. -/
theorem repeatedAt_length {items : List β} {last : β} {made : α}
    (makes : make? last = some made) :
    RepeatedAt (nameAt? key make? (items ++ [last])) items.length
      ↔ key made ∈ (items.filterMap make?).map key := by
  unfold RepeatedAt
  rw [nameAt?_concat_length, makes, Option.map_some, mem_names_iff]
  constructor
  · rintro ⟨-, i, before, named⟩
    exact ⟨i, before, (nameAt?_concat_of_lt last before).symm.trans named⟩
  · rintro ⟨i, before, named⟩
    exact ⟨Option.some_ne_none _, i, before, (nameAt?_concat_of_lt last before).trans named⟩

theorem firstAt_length {items : List β} {last : β} {made : α} (makes : make? last = some made) :
    FirstAt (nameAt? key make? (items ++ [last])) items.length
      ↔ key made ∉ (items.filterMap make?).map key := by
  have present : nameAt? key make? (items ++ [last]) items.length ≠ none := by
    rw [nameAt?_concat_length, makes]
    exact Option.some_ne_none _
  exact (firstAt_iff_not_repeatedAt present).trans (not_congr (repeatedAt_length makes))

/-- What the item at a position makes. -/
def MadeAt (make? : β → Option α) (items : List β) (i : Nat) (made : α) : Prop :=
  ∃ item, items[i]? = some item ∧ make? item = some made

theorem MadeAt.concat {items : List β} {i : Nat} {made : α} (here : MadeAt make? items i made)
    (last : β) : MadeAt make? (items ++ [last]) i made := by
  obtain ⟨item, stands, makes⟩ := here
  obtain ⟨within, -⟩ := List.getElem?_eq_some_iff.1 stands
  exact ⟨item, (List.getElem?_append_left within).trans stands, makes⟩

/-- Something picks from what is made in turn what is made at certain
positions, if with one more item it picks one more exactly when the new
position is one of them. -/
theorem picked_at {judge : (Nat → Option String) → Nat → Prop}
    [∀ names, DecidablePred (judge names)] {pick : List α → List α}
    (congr : ∀ names others i, (∀ j ≤ i, names j = others j) → (judge names i ↔ judge others i))
    (present : ∀ names i, judge names i → names i ≠ none) (nothing : pick [] = [])
    (further : ∀ (items : List β) last made, make? last = some made →
      pick (items.filterMap make? ++ [made]) = pick (items.filterMap make?)
        ++ if judge (nameAt? key make? (items ++ [last])) items.length then [made] else [])
    (items : List β) :
    List.Forall₂ (MadeAt make? items)
      ((List.range items.length).filter (judge (nameAt? key make? items)))
      (pick (items.filterMap make?)) := by
  -- The row grows at its end, as it is read: whether a name is new depends
  -- on what stands before it only.
  induction items using List.reverseRecOn with
  | nil =>
    rw [List.filterMap_nil, nothing]
    exact .nil
  | append_singleton items last ih =>
    have kept := ih.imp fun _ _ (here : MadeAt make? items _ _) => here.concat last
    rw [filter_range_concat congr, List.filterMap_append]
    cases makes : make? last with
    | none =>
      have silent : ¬ judge (nameAt? key make? (items ++ [last])) items.length := by
        intro judged
        refine present _ _ judged ?_
        rw [nameAt?_concat_length, makes]
        rfl
      rw [if_neg silent, List.filterMap_cons_none makes, List.filterMap_nil, List.append_nil,
        List.append_nil]
      exact kept
    | some made =>
      have here : MadeAt make? (items ++ [last]) items.length made :=
        ⟨last, List.getElem?_concat_length, makes⟩
      rw [List.filterMap_cons_some makes, List.filterMap_nil, further items last made makes]
      refine List.rel_append kept ?_
      split
      · exact .cons here .nil
      · exact .nil

/-- The first offers are what is made at the positions of new names. -/
theorem firstOffers_at (items : List β) :
    List.Forall₂ (MadeAt make? items)
      ((List.range items.length).filter (FirstAt (nameAt? key make? items)))
      (firstOffers key [] (items.filterMap make?)) := by
  refine picked_at (fun _ _ _ => FirstAt.congr) (fun _ _ first => first.1) rfl ?_ items
  intro items last made makes
  rw [firstOffers_concat]
  simp only [firstAt_length makes, ite_not]

/-- The later offers are what is made at the positions of repeated names. -/
theorem laterOffers_at (items : List β) :
    List.Forall₂ (MadeAt make? items)
      ((List.range items.length).filter (RepeatedAt (nameAt? key make? items)))
      (laterOffers key [] (items.filterMap make?)) := by
  refine picked_at (fun _ _ _ => RepeatedAt.congr) (fun _ _ repeated => repeated.1) rfl ?_ items
  intro items last made makes
  rw [laterOffers_concat]
  simp only [repeatedAt_length makes, List.not_mem_nil, false_or]

end Positions

-- ================================================================ names

/-- The name that is written for the property of a field, where the mode of
the type looks for it. -/
def writtenName? (mode : GenerationMode) (field : FieldDecl) : Option String :=
  match mode with
  | .bindable _ => field.explicitName?
  | .autoNotify => field.autoNotifyName?

/-- The name of a field without its mark, the first character as a capital. -/
def capitalized (fieldName : String) : String :=
  match withoutFieldMark fieldName.toList with
  | [] => ""
  | first :: rest => String.ofList (Text.upperChar first ++ rest)

/-- The name meant for the property of a field: the written one, trimmed, or
else the one made of the field's. -/
def meantName (mode : GenerationMode) (field : FieldDecl) : String :=
  match writtenName? mode field with
  | some written => Text.trim written
  | none => capitalized field.name

theorem usableName?_eq_some {fieldName name usable : String} :
    usableName? fieldName name = some usable ↔ name ≠ "" ∧ name ≠ fieldName ∧ usable = name := by
  unfold usableName?
  split
  · next unusable =>
    constructor
    · intro impossible
      cases impossible
    · rintro ⟨named, apart, -⟩
      exact absurd unusable (not_or.2 ⟨named, apart⟩)
  · next usable' =>
    obtain ⟨named, apart⟩ := not_or.1 usable'
    rw [Option.some_inj]
    exact ⟨fun same => ⟨named, apart, same.symm⟩, fun ⟨_, _, same⟩ => same.symm⟩

/-- A property has the meant name, if that one can be used. -/
theorem propertyName?_eq (mode : GenerationMode) (field : FieldDecl) :
    propertyName? field.name (writtenName? mode field)
      = usableName? field.name (meantName mode field) := by
  unfold meantName propertyName?
  cases writtenName? mode field with
  | some written => rfl
  | none =>
    unfold derivedName? capitalized
    cases withoutFieldMark field.name.toList with
    | nil => rfl
    | cons first rest => rfl

-- =============================================================== offers

variable {schema : Schema} {outline : TypeOutline} {field : FieldDecl} {property : Property}

/-- A field that can become a property. -/
structure Usable (schema : Schema) (outline : TypeOutline) (field : FieldDecl) : Prop where
  /-- Its type has a category. -/
  supported : (classify schema outline.scope field.type).category.isSupported = true
  /-- Where only marked fields count, it is marked. -/
  marked : outline.mode = .autoNotify → field.isAutoNotify = true
  named : meantName outline.mode field ≠ ""
  /-- The field itself is called otherwise. -/
  apart : meantName outline.mode field ≠ field.name

instance : Decidable (Usable schema outline field) :=
  decidable_of_iff
    ((classify schema outline.scope field.type).category.isSupported = true
      ∧ (outline.mode = .autoNotify → field.isAutoNotify = true)
      ∧ meantName outline.mode field ≠ "" ∧ meantName outline.mode field ≠ field.name)
    ⟨fun ⟨supported, marked, named, apart⟩ => ⟨supported, marked, named, apart⟩,
      fun usable => ⟨usable.supported, usable.marked, usable.named, usable.apart⟩⟩

/-- The property that a usable field becomes. Only a bindable type reads
which properties are notified along, which code is injected and whether the
property is suppressed. -/
structure Becomes (schema : Schema) (outline : TypeOutline) (field : FieldDecl)
    (property : Property) : Prop extends MadeFrom schema outline field property where
  name : property.name = meantName outline.mode field
  category : property.category = (classify schema outline.scope field.type).category
  declaredType : property.declaredType = field.type
  typeFullName : property.typeFullName = (classify schema outline.scope field.type).typeFullName
  isFromAncestor : property.isFromAncestor = false
  injected : property.injected
    = if outline.mode.isBindable then .ofInjections field.injections else {}
  isSuppressed : property.isSuppressed = (outline.mode.isBindable && field.isSuppressed)
  doc : property.doc = field.doc

/-- What a field offers is what it becomes, and then it is usable. -/
theorem becomes_of_offer (offer : offeredProperty? schema outline field = some property) :
    Usable schema outline field ∧ Becomes schema outline field property := by
  have made := madeFrom_of_offer offer
  have meant : ∀ {name}, propertyName? field.name (writtenName? outline.mode field) = some name →
      meantName outline.mode field ≠ "" ∧ meantName outline.mode field ≠ field.name
        ∧ name = meantName outline.mode field := by
    intro name meant
    rw [propertyName?_eq] at meant
    exact usableName?_eq_some.1 meant
  unfold offeredProperty? at offer
  dsimp only at offer
  split at offer
  · next supported =>
    split at offer
    · next raises mode =>
      obtain ⟨name, found, rfl⟩ := Option.map_eq_some_iff.1 offer
      have written : writtenName? outline.mode field = field.explicitName? := by rw [mode]; rfl
      obtain ⟨named, apart, rfl⟩ := meant (written ▸ found)
      have bindable : outline.mode.isBindable = true := by rw [mode]; rfl
      exact ⟨⟨supported, fun other => (by rw [mode] at other; cases other), named, apart⟩,
        { toMadeFrom := made, name := rfl, category := by dsimp only, declaredType := rfl
          typeFullName := by dsimp only, isFromAncestor := rfl, doc := rfl
          injected := by rw [bindable]; rfl
          isSuppressed := by rw [bindable, Bool.true_and] }⟩
    · next mode =>
      split at offer
      · next marked =>
        obtain ⟨name, found, rfl⟩ := Option.map_eq_some_iff.1 offer
        have written : writtenName? outline.mode field = field.autoNotifyName? := by rw [mode]; rfl
        obtain ⟨named, apart, rfl⟩ := meant (written ▸ found)
        have bindable : outline.mode.isBindable = false := by rw [mode]; rfl
        exact ⟨⟨supported, fun _ => marked, named, apart⟩,
          { toMadeFrom := made, name := rfl, category := by dsimp only, declaredType := rfl
            typeFullName := by dsimp only, isFromAncestor := rfl, doc := rfl
            injected := by rw [bindable]; rfl
            isSuppressed := by rw [bindable, Bool.false_and] }⟩
      · cases offer
  · cases offer

/-- A usable field offers something. -/
theorem offer_of_usable (usable : Usable schema outline field) :
    ∃ property, offeredProperty? schema outline field = some property := by
  have meant : propertyName? field.name (writtenName? outline.mode field)
      = some (meantName outline.mode field) := by
    rw [propertyName?_eq]
    exact usableName?_eq_some.2 ⟨usable.named, usable.apart, rfl⟩
  unfold offeredProperty?
  dsimp only
  rw [if_pos usable.supported]
  cases mode : outline.mode with
  | bindable raises =>
    rw [mode] at meant
    exact ⟨_, Option.map_eq_some_iff.2 ⟨_, meant, rfl⟩⟩
  | autoNotify =>
    rw [mode] at meant
    dsimp only
    rw [if_pos (usable.marked mode)]
    exact ⟨_, Option.map_eq_some_iff.2 ⟨_, meant, rfl⟩⟩

/-- The name that a field takes for its property, if it is usable. -/
def takenName? (schema : Schema) (outline : TypeOutline) (field : FieldDecl) : Option String :=
  if Usable schema outline field then some (meantName outline.mode field) else none

theorem map_name_offer :
    (offeredProperty? schema outline field).map (·.name) = takenName? schema outline field := by
  unfold takenName?
  cases offer : offeredProperty? schema outline field with
  | some property =>
    obtain ⟨usable, becomes⟩ := becomes_of_offer offer
    rw [if_pos usable, Option.map_some, becomes.name]
  | none =>
    have unusable : ¬ Usable schema outline field := by
      intro usable
      obtain ⟨property, offers⟩ := offer_of_usable usable
      rw [offers] at offer
      cases offer
    rw [if_neg unusable]
    rfl

-- ============================================================ extraction

/-- The name taken by the field at a position. -/
def takenNameAt? (schema : Schema) (outline : TypeOutline) (fields : List FieldDecl) (i : Nat) :
    Option String :=
  fields[i]?.bind (takenName? schema outline)

/-- The positions of the fields that take a name first. -/
def firstPositions (schema : Schema) (outline : TypeOutline) (fields : List FieldDecl) : List Nat :=
  (List.range fields.length).filter (FirstAt (takenNameAt? schema outline fields))

/-- The positions of the fields that take a name again. -/
def laterPositions (schema : Schema) (outline : TypeOutline) (fields : List FieldDecl) : List Nat :=
  (List.range fields.length).filter (RepeatedAt (takenNameAt? schema outline fields))

/-- A slot shows a field. -/
structure Shows (schema : Schema) (scope : Option String) (field : FieldDecl) (slot : FieldSlot) :
    Prop where
  name : slot.name = field.name
  declaredType : slot.declaredType = field.type
  category : slot.category = (classify schema scope field.type).category
  enumName : slot.enumName = (classify schema scope field.type).enumName
  doc : slot.doc = field.doc

theorem shows_slotOf (schema : Schema) (scope : Option String) (field : FieldDecl) :
    Shows schema scope field (slotOf schema scope field) := by
  unfold slotOf
  exact ⟨rfl, rfl, by dsimp only, by dsimp only, rfl⟩

/-- What is said of a field whose name is taken already. -/
def repeatWarning (outline : TypeOutline) (field : FieldDecl) : Diagnostic :=
  ⟨.duplicatePropertyName, outline.fullName,
    "field '" ++ field.name ++ "' maps to '" ++ meantName outline.mode field
      ++ "', which an earlier field already uses"⟩

/-- What the fields of a type amount to. -/
structure Extracts (schema : Schema) (outline : TypeOutline) (fields : List FieldDecl)
    (members : Reported Members) : Prop where
  /-- There is a slot for each field, in order. -/
  slots : List.Forall₂ (Shows schema outline.scope) fields members.value.slots
  /-- The fields that take a name first become properties, in order. -/
  own : List.Forall₂
    (fun i property => ∃ field, fields[i]? = some field ∧ Becomes schema outline field property)
    (firstPositions schema outline fields) members.value.own
  /-- Of those that take a name again each is a warning, and nothing else is
  said. -/
  warnings : List.Forall₂
    (fun i diagnostic => ∃ field, fields[i]? = some field
      ∧ diagnostic = repeatWarning outline field)
    (laterPositions schema outline fields) members.diagnostics

/-- The warning about a property that comes too late. -/
theorem Becomes.repeatedName (becomes : Becomes schema outline field property) :
    DataBinding.repeatedName outline.fullName property = repeatWarning outline field := by
  have fieldName : property.fieldName? = some field.name := by
    unfold Property.fieldName?
    rw [becomes.backing]
  unfold DataBinding.repeatedName repeatWarning
  rw [fieldName, becomes.name, Option.getD_some]

theorem extracts (schema : Schema) (outline : TypeOutline) (fields : List FieldDecl) :
    Extracts schema outline fields (extract schema outline fields) := by
  have names : nameAt? Property.name (offeredProperty? schema outline) fields
      = takenNameAt? schema outline fields :=
    funext fun i => congrArg (fields[i]?.bind ·) (funext fun _ => map_name_offer)
  have first := @firstOffers_at _ _ Property.name (offeredProperty? schema outline) fields
  have later := @laterOffers_at _ _ Property.name (offeredProperty? schema outline) fields
  rw [names] at first later
  exact {
    slots := List.forall₂_map_right_iff.2
      (List.forall₂_same.2 fun field _ => shows_slotOf schema outline.scope field)
    own := first.imp fun i property ⟨field, here, offer⟩ =>
      ⟨field, here, (becomes_of_offer offer).2⟩
    warnings := List.forall₂_map_right_iff.2 (later.imp fun i property ⟨field, here, offer⟩ =>
      ⟨field, here, (becomes_of_offer offer).2.repeatedName⟩) }

-- ========================================================= the analysis

variable {options : Options} {analysis : Analysis}

/-- The warnings about repeated names of one type. -/
def repeatWarnings (diagnostics : List Diagnostic) (typeName : String) : List Diagnostic :=
  diagnostics.filter fun diagnostic =>
    diagnostic.code == .duplicatePropertyName && diagnostic.typeName == typeName

/-- What extraction says about a type is about this type, and about repeated
names. -/
theorem repeatWarnings_extract (outline : TypeOutline) (fields : List FieldDecl)
    (typeName : String) :
    repeatWarnings (extract schema outline fields).diagnostics typeName
      = if outline.fullName == typeName then (extract schema outline fields).diagnostics
        else [] := by
  have about : ∀ diagnostic ∈ (extract schema outline fields).diagnostics,
      (diagnostic.code == .duplicatePropertyName && diagnostic.typeName == typeName)
        = (outline.fullName == typeName) := by
    intro diagnostic reported
    obtain ⟨property, -, rfl⟩ := List.mem_map.1 reported
    exact Bool.true_and _
  unfold repeatWarnings
  rw [List.filter_congr about]
  split
  · next same => exact List.filter_eq_self.2 fun _ _ => same
  · next other => exact List.filter_eq_nil_iff.2 fun _ _ => other

/-- Each type is spoken about once. -/
theorem repeatWarnings_extractAll {outlined : List TypeOutline} {outline : TypeOutline}
    (distinct : (outlined.map (·.fullName)).Nodup) (inside : outline ∈ outlined) :
    repeatWarnings (extractAll schema outlined).diagnostics outline.fullName
      = (extract schema outline (declaredFields schema outline.fullName)).diagnostics := by
  have said : (extractAll schema outlined).diagnostics
      = outlined.flatMap fun other =>
          (extract schema other (declaredFields schema other.fullName)).diagnostics :=
    List.flatMap_map _ _ outlined
  unfold repeatWarnings
  rw [said, List.filter_flatMap]
  calc
    _ = outlined.flatMap fun other => if other.fullName == outline.fullName
          then (extract schema other (declaredFields schema other.fullName)).diagnostics
          else [] :=
      congrArg (List.flatMap · outlined) (funext fun other => repeatWarnings_extract other _ _)
    _ = (outlined.filter (·.fullName == outline.fullName)).flatMap fun other =>
          (extract schema other (declaredFields schema other.fullName)).diagnostics :=
      (flatMap_of_filter _ _ outlined).symm
    _ = _ := by rw [filter_key_of_nodup distinct inside, List.flatMap_singleton]

/-- Of the stages only extraction speaks about repeated names. -/
theorem repeatWarnings_of_stage (run : analyze schema options = .ok analysis) (typeName : String) :
    ∃ outlined, (outlines schema).value = .ok outlined
      ∧ repeatWarnings analysis.diagnostics typeName
        = repeatWarnings (extractAll schema outlined).diagnostics typeName := by
  obtain ⟨outlined, _, found, -, rfl⟩ := analyze_ok run
  refine ⟨outlined, found, ?_⟩
  have scanned : repeatWarnings (outlines schema).diagnostics typeName = [] :=
    filter_code_eq_nil (code_outlines rfl)
  have merged : repeatWarnings
      (mergeAll schema [] (extractAll schema outlined).value).diagnostics typeName = [] := by
    refine filter_code_eq_nil fun diagnostic reported => ?_
    rw [(mem_diagnostics_mergeAll reported).1]
    exact fun same => nomatch same
  have events : repeatWarnings (eventTypes schema).diagnostics typeName = [] :=
    filter_code_eq_nil (code_eventTypes rfl fun same => nomatch same)
  unfold repeatWarnings at scanned merged events ⊢
  rw [List.filter_append, List.filter_append, List.filter_append, scanned, merged, events,
    List.nil_append, List.append_nil, List.append_nil]

/-- What an analysis says about repeated names of a type is what extraction
says about its fields. -/
theorem repeatWarnings_of_analyze (run : analyze schema options = .ok analysis)
    {type : TypeDescriptor} (listed : type ∈ analysis.types) :
    repeatWarnings analysis.diagnostics type.fullName
      = (extract schema type.toTypeOutline (declaredFields schema type.fullName)).diagnostics := by
  obtain ⟨outlined, found, said⟩ := repeatWarnings_of_stage run type.fullName
  have bound : analysis.types.map (·.toTypeOutline) = outlined :=
    Except.ok.inj ((outlines_of_types run).symm.trans found)
  have distinct : (outlined.map (·.fullName)).Nodup := by
    rw [← bound, List.map_map]
    exact distinct_of_analyze run
  rw [said]
  exact repeatWarnings_extractAll distinct (bound ▸ List.mem_map_of_mem listed)

/-- An extracted type has what extraction makes of the declared fields. -/
theorem members_of_extractAll {outlined : List TypeOutline} {extracted : ExtractedType}
    (inside : extracted ∈ (extractAll schema outlined).value) :
    (⟨extracted.slots, extracted.own⟩ : Members)
      = (extract schema extracted.toTypeOutline
          (declaredFields schema extracted.fullName)).value := by
  simp only [extractAll, List.map_map] at inside
  obtain ⟨outline, -, rfl⟩ := List.mem_map.1 inside
  rfl

/-- What an analysis keeps of the fields of a type. -/
structure KeepsFields (schema : Schema) (analysis : Analysis) (type : TypeDescriptor)
    (fields : List FieldDecl) : Prop where
  /-- There is a slot for each field, in order. -/
  slots : List.Forall₂ (Shows schema type.scope) fields type.slots
  /-- The fields that take a name first become properties, in order. Later
  their follow-ups are restricted to known names. -/
  own : List.Forall₂
    (fun i property => ∃ field offered, fields[i]? = some field
      ∧ Becomes schema type.toTypeOutline field offered
      ∧ property = offered.keepKnown (type.merged.map (·.name)))
    (firstPositions schema type.toTypeOutline fields) type.own
  /-- Those that take a name again are what the type is warned about. -/
  warnings : List.Forall₂
    (fun i diagnostic => ∃ field, fields[i]? = some field
      ∧ diagnostic = repeatWarning type.toTypeOutline field)
    (laterPositions schema type.toTypeOutline fields)
    (repeatWarnings analysis.diagnostics type.fullName)
  count : (repeatWarnings analysis.diagnostics type.fullName).length
    = (laterPositions schema type.toTypeOutline fields).length

theorem keepsFields (run : analyze schema options = .ok analysis) {type : TypeDescriptor}
    (listed : type ∈ analysis.types) :
    KeepsFields schema analysis type (declaredFields schema type.fullName) := by
  obtain ⟨outlined, -, extracted, inside, finished⟩ := finished_of_analyze run listed
  have outline : type.toTypeOutline = extracted.toTypeOutline := by rw [finished]; rfl
  have members := members_of_extractAll inside
  rw [← outline] at members
  have slots : type.slots
      = (extract schema type.toTypeOutline (declaredFields schema type.fullName)).value.slots := by
    have kept : type.slots = extracted.slots := by rw [finished]; rfl
    exact kept.trans (congrArg Members.slots members)
  have own : extracted.own
      = (extract schema type.toTypeOutline (declaredFields schema type.fullName)).value.own :=
    congrArg Members.own members
  have all := extracts schema type.toTypeOutline (declaredFields schema type.fullName)
  have warnings := all.warnings
  rw [← repeatWarnings_of_analyze run listed] at warnings
  exact {
    slots := by
      rw [slots]
      exact all.slots
    own := by
      rw [own_of_finished finished, own]
      exact List.forall₂_map_right_iff.2 (all.own.imp fun i offered ⟨field, here, becomes⟩ =>
        ⟨field, offered, here, becomes, rfl⟩)
    warnings := warnings
    count := warnings.length_eq.symm }

/-- Of the fields of a type, each usable one that takes a name first becomes
a property, each that takes it again is a warning, and of the others nothing
is said; so it is in extraction, whatever the fields, and so it stays in the
analysis. -/
theorem fields_extracted :
    (∀ schema outline fields, Extracts schema outline fields (extract schema outline fields))
      ∧ ∀ {schema options analysis}, analyze schema options = .ok analysis →
        ∀ type ∈ analysis.types, ∃ decl, schema.typeDecl? type.fullName = some decl
          ∧ decl.generationMode? = some type.mode
          ∧ KeepsFields schema analysis type decl.fields := by
  refine ⟨extracts, fun {schema options analysis} run type listed => ?_⟩
  obtain ⟨decl, mode, chain, declared, moded, -, -, linked⟩ :=
    mem_outlines (outlines_of_types run) (List.mem_map_of_mem listed)
  have fields : declaredFields schema type.fullName = decl.fields := by
    unfold declaredFields
    rw [declared]
    rfl
  have sameMode : type.mode = mode := by
    show type.toTypeOutline.mode = mode
    rw [linked, mode_link]
    rfl
  refine ⟨decl, declared, by rw [moded, sameMode], ?_⟩
  rw [← fields]
  exact keepsFields run listed

/-- A wardrobe with two names for the hat, a cape of an unknown type, a coat
that leaves no name for its property, boots that are suppressed, shoes that
are written to be boots, and a field with nothing but a mark. -/
def wardrobe : Schema where
  types :=
    [boundClass "Wardrobe" none
      [{ name := "_hat", type := "String" },
       { name := "m_hat", type := "String" },
       { name := "_cape", type := "Cape" },
       { name := "Coat", type := "i32" },
       { name := "_boots", type := "i32", attributes := [.dontNotify] },
       { name := "_shoes", type := "i32", attributes := [.propertyName " Boots "] },
       { name := "_", type := "i32" }]]

/-- The hat and the boots become properties; of the second hat and the shoes
there is a warning each, and of the others nothing is said. -/
theorem wardrobe_extracted :
    ∃ analysis, analyze wardrobe {} = .ok analysis
      ∧ ∃ type ∈ analysis.types, type.own.map (·.name) = ["Hat", "Boots"]
        ∧ (repeatWarnings analysis.diagnostics type.fullName).length = 2
        ∧ ∃ decl, wardrobe.typeDecl? type.fullName = some decl
          ∧ firstPositions wardrobe type.toTypeOutline decl.fields = [0, 4]
          ∧ laterPositions wardrobe type.toTypeOutline decl.fields = [1, 5]
          ∧ KeepsFields wardrobe analysis type decl.fields := by
  obtain ⟨analysis, run, types, -, -⟩ := @analyze_asWritten wardrobe (by decide +kernel) {}
  have found : ∃ type ∈ typesAsWritten wardrobe, type.own.map (·.name) = ["Hat", "Boots"]
      ∧ ∀ decl ∈ wardrobe.typeDecl? type.fullName,
          firstPositions wardrobe type.toTypeOutline decl.fields = [0, 4]
            ∧ laterPositions wardrobe type.toTypeOutline decl.fields = [1, 5] := by
    decide +kernel
  rw [← types] at found
  obtain ⟨type, listed, own, positions⟩ := found
  obtain ⟨decl, declared, -, keeps⟩ := fields_extracted.2 run type listed
  obtain ⟨first, later⟩ := positions decl declared
  have warned := keeps.count
  rw [later] at warned
  exact ⟨analysis, run, type, listed, own, warned, decl, declared, first, later, keeps⟩

end DataBinding
