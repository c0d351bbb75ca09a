/-
Properties that are notified along with another. A bindable type keeps, of
the follow-ups annotated on its fields, those that name an entry of its
merged list, and warns about each of the others. A type in auto-notify
mode does not read the annotations and keeps none.

# Why a kept follow-up can be read

A kept name has an entry in the merged list, and an entry belongs to the
type itself or to a member of its own chain, however it got there: what
ancestors hand down belongs to the ancestors that stand in this chain
(`owner_mem_of_merged`). So the entry lies at a known depth, and reading
it is at fault at most for the getter's name.
-/
import DataBinding.Emission.Accessors
import DataBinding.Proofs.Delegation
import DataBinding.Proofs.Diagnostics
import DataBinding.Proofs.Emission
import DataBinding.Proofs.Extraction
import DataBinding.Proofs.WrittenInOrder

namespace DataBinding

open Code Emission

variable {schema : Schema} {options : Options} {analysis : Analysis}

-- ============================================================= declared

/-- The follow-ups annotated on the field behind a property. -/
def annotatedFollowUps (schema : Schema) (type : TypeDescriptor) (property : Property) :
    List String :=
  ((fieldBehind? schema type.toTypeOutline property.name).map (·.alsoNotify)).getD []

/-- The follow-ups a type declares for a property: the annotated ones,
unless the type is in auto-notify mode. -/
def declaredFollowUps (schema : Schema) (type : TypeDescriptor) (property : Property) :
    List String :=
  if type.mode.isBindable then annotatedFollowUps schema type property else []

/-- The names that a type lists. -/
def TypeDescriptor.listedNames (type : TypeDescriptor) : List String :=
  type.merged.map (·.name)

/-- What a property made from the field behind it declares. -/
theorem alsoNotify_of_made {type : TypeDescriptor} {field : FieldDecl} {property : Property}
    (behind : fieldBehind? schema type.toTypeOutline property.name = some field)
    (made : MadeFrom schema type.toTypeOutline field property) :
    property.alsoNotify = declaredFollowUps schema type property := by
  unfold declaredFollowUps annotatedFollowUps
  rw [made.alsoNotify, behind]
  rfl

/-- An own property keeps, of the declared follow-ups, the listed ones. -/
theorem alsoNotify_of_own (run : analyze schema options = .ok analysis)
    {type : TypeDescriptor} (listed : type ∈ analysis.types) {property : Property}
    (own : property ∈ type.own) :
    property.alsoNotify
      = (declaredFollowUps schema type property).filter (type.listedNames.contains ·) := by
  obtain ⟨field, offered, behind, made, rfl⟩ := own_of_analyze run listed own
  have declared := @alsoNotify_of_made schema type field offered behind made
  show offered.alsoNotify.filter _ = _
  rw [declared]
  rfl

-- ============================================================= warnings

/-- A type is warned about as many follow-ups as its properties lose. -/
theorem length_followUpWarnings (run : analyze schema options = .ok analysis)
    {type : TypeDescriptor} (listed : type ∈ analysis.types) :
    (followUpWarnings analysis.diagnostics type.fullName).length
      = (type.own.flatMap fun property =>
          (declaredFollowUps schema type property).filter
            (!type.listedNames.contains ·)).length := by
  obtain ⟨outlined, found, extracted, inside, finished⟩ := finished_of_analyze run listed
  have outline : type.toTypeOutline = extracted.toTypeOutline := by rw [finished]; rfl
  obtain ⟨outlined', found', warnings⟩ := followUpWarnings_of_analyze run type.fullName
  rw [found] at found'
  cases found'
  have distinct : ((extractAll schema outlined).value.map (·.fullName)).Nodup := by
    have names := (linked_of_outlines found).distinct
    rw [← @outlines_of_extractAll schema outlined, List.map_map] at names
    exact names
  have merged : type ∈ (mergeAll schema [] (extractAll schema outlined).value).value := by
    obtain ⟨outlined'', _, found'', -, rfl⟩ := analyze_ok run
    rw [found] at found''
    cases found''
    exact listed
  obtain ⟨other, insideToo, named, about⟩ := diagnostics_mergeAll_about distinct merged
  -- the two ways to look at the type lead to one extracted type
  have same : other = extracted := by
    refine List.inj_on_of_nodup_map distinct insideToo inside ?_
    rw [named, outline]
  subst same
  rw [warnings, about, own_of_finished finished, List.flatMap_map, List.length_flatMap,
    List.length_flatMap]
  congr 1
  refine List.map_congr_left fun property own => ?_
  obtain ⟨field, behind, made⟩ := madeFrom_of_extracted inside own
  rw [← outline] at behind made
  unfold unknownFollowUps
  rw [List.length_map, alsoNotify_of_made behind made]
  rfl

-- ============================================================== entries

/-- What a type has from its own field has a field. -/
theorem isSome_fieldName?_of_origin {entry : Property} (fromField : entry.origin = .field) :
    entry.fieldName?.isSome = true := by
  unfold Property.origin at fromField
  unfold Property.fieldName?
  split at fromField
  · cases fromField
  · split at fromField
    · rfl
    · cases fromField

/-- An entry that a type has from its own field is the own property of its
name. -/
theorem find?_own_of_merged (run : analyze schema options = .ok analysis)
    {type : TypeDescriptor} (listed : type ∈ analysis.types) {entry : Property}
    (inside : entry ∈ type.merged) (fromField : entry.origin = .field) :
    type.own.find? (·.name == entry.name) = some entry := by
  have accessor : entry ∈ type.accessors := by
    have withField := isSome_fieldName?_of_origin fromField
    refine (accessor_behind_entry run listed inside withField).resolve_right ?_
    rintro ⟨_, _, accessor, _, rfl⟩
    cases fromField
  exact find?_of_nodup (own_nodup run listed) (List.mem_of_mem_filter accessor)

/-- An entry belongs to the type that lists it or to a member of its
chain. -/
theorem owner_mem_of_merged? (run : analyze schema options = .ok analysis)
    {type : TypeDescriptor} (listed : type ∈ analysis.types) {name : String}
    {entry : Property} (found : type.merged? name = some entry) :
    entry.owner ∈ type.fullName :: type.chain := by
  cases bindable : type.mode.isBindable with
  | false =>
    have inside := List.mem_of_find?_eq_some found
    rw [merged_of_autoNotify run listed bindable] at inside
    rw [owner_of_accessor run listed inside]
    exact List.mem_cons_self
  | true =>
    have ownerIs := owner_of_merged? run listed bindable name
    rw [found, Option.map_some] at ownerIs
    split at ownerIs
    · rw [Option.some.inj ownerIs]
      exact List.mem_cons_self
    · rcases Option.or_eq_some_iff.1 ownerIs.symm with written | ⟨-, generated⟩
      · exact List.mem_of_find?_eq_some written
      · exact List.mem_cons_of_mem type.fullName (List.mem_of_find?_eq_some generated)

/-- The types embedded in a type, and the type itself, lie at known
depths. -/
theorem isSome_depthOf? {outline : TypeOutline} {owner : String}
    (embedded : owner ∈ outline.fullName :: outline.chain) :
    ∃ depth, outline.depthOf? owner = some depth := by
  unfold TypeOutline.depthOf?
  split
  · exact ⟨0, rfl⟩
  · next other =>
    have inChain := (List.mem_cons.1 embedded).resolve_left other
    obtain ⟨position, at_⟩ := Option.isSome_iff_exists.1 (List.isSome_idxOf?.2 inChain)
    exact ⟨position + 1, by rw [at_]; rfl⟩

/-- Every follow-up that is kept has an entry, and the entry lies at a
known depth. -/
theorem routed_of_own (run : analyze schema options = .ok analysis)
    {type : TypeDescriptor} (listed : type ∈ analysis.types) {property : Property}
    (own : property ∈ type.own) {target : String} (kept : target ∈ property.alsoNotify) :
    ∃ entry depth, type.merged? target = some entry
      ∧ type.depthOf? entry.owner = some depth := by
  rw [alsoNotify_of_own run listed own] at kept
  have known := List.contains_iff_mem.1 (List.mem_filter.1 kept).2
  obtain ⟨entry, inside, named⟩ := List.mem_map.1 known
  cases found : type.merged? target with
  | none => exact absurd (List.find?_eq_none.1 found entry inside) (by simp [named])
  | some entry' =>
    obtain ⟨depth, at_⟩ := isSome_depthOf? (owner_mem_of_merged? run listed found)
    exact ⟨entry', depth, rfl, at_⟩

-- ============================================================== emission

/-- A fault that is not about a path. -/
def NoPathFault (fault : EmitFault) : Prop := ∀ path, fault ≠ .invalidPath path

/-- Reading an entry at a known depth finds its way. -/
theorem readProperty_failsOnly {type : TypeDescriptor} {entry : Property} {depth : Nat}
    (known : type.depthOf? entry.owner = some depth) :
    FailsOnly NoPathFault (readProperty type entry) := by
  unfold readProperty
  rw [known]
  refine FailsOnly.bind (FailsOnly.ok depth) fun _ => FailsOnly.bind ?_ fun _ => FailsOnly.ok _
  intro fault failed path same
  subst same
  rcases name_failsOnly _ _ failed with impossible | impossible
  · cases impossible
  · cases impossible

/-- So does the follow-up about it. -/
theorem followUp_failsOnly (site : Site) {type : TypeDescriptor} {entry : Property}
    {depth : Nat} (known : type.depthOf? entry.owner = some depth) (target : String) :
    FailsOnly NoPathFault (followUp site type target entry) := by
  unfold followUp
  refine FailsOnly.bind (readProperty_failsOnly known) fun read => ?_
  dsimp only
  split
  · refine FailsOnly.bind ?_ fun _ => FailsOnly.ok _
    intro fault failed path same
    subst same
    cases word_failsOnly _ _ failed
  · exact FailsOnly.ok _

/-- When every follow-up of a property has an entry at a known depth, none
is passed over, and none loses its way. -/
theorem followUps_of_routed (site : Site) {type : TypeDescriptor} {property : Property}
    (routed : ∀ target ∈ property.alsoNotify, ∃ entry depth,
      type.merged? target = some entry ∧ type.depthOf? entry.owner = some depth) :
    FailsOnly NoPathFault (followUps site type property)
      ∧ ∀ results, followUps site type property = .ok results →
          results.length = property.alsoNotify.length := by
  unfold followUps
  constructor
  · refine FailsOnly.mapM fun pair inside => ?_
    obtain ⟨target, kept, same⟩ := List.mem_filterMap.1 inside
    obtain ⟨entry, depth, found, known⟩ := routed target kept
    rw [found] at same
    cases same
    exact followUp_failsOnly site known target
  · intro results run
    have each := (forall₂_of_mapM_ok run).length_eq
    rw [← each, List.filterMap_length_eq_length]
    intro target kept
    obtain ⟨entry, -, found, -⟩ := routed target kept
    rw [found]
    rfl

/-- Of the follow-ups declared for a property a type keeps exactly those
that name an entry of its merged list, in their order and with repeats,
and it is warned about as many as it drops. An entry from its own field is
the own property of that name, follow-ups included. Each follow-up that is
kept has an entry that lies at a known depth, so that a setter passes over
none of them and finds its way to all. -/
theorem followUps_routed (run : analyze schema options = .ok analysis)
    {type : TypeDescriptor} (listed : type ∈ analysis.types) :
    (∀ property ∈ type.own, ∃ field,
        fieldBehind? schema type.toTypeOutline property.name = some field
          ∧ property.backing = .field field.name
          ∧ property.alsoNotify
            = (declaredFollowUps schema type property).filter (type.listedNames.contains ·))
      ∧ (followUpWarnings analysis.diagnostics type.fullName).length
        = (type.own.flatMap fun property =>
            (declaredFollowUps schema type property).filter
              (!type.listedNames.contains ·)).length
      ∧ (∀ entry ∈ type.merged, entry.origin = .field →
          type.own.find? (·.name == entry.name) = some entry)
      ∧ ∀ property ∈ type.own,
          (∀ target ∈ property.alsoNotify, ∃ entry depth,
            type.merged? target = some entry ∧ type.depthOf? entry.owner = some depth)
          ∧ ∀ site, FailsOnly NoPathFault (followUps site type property)
            ∧ ∀ results, followUps site type property = .ok results →
                results.length = property.alsoNotify.length := by
  refine ⟨?_, length_followUpWarnings run listed, ?_, ?_⟩
  · intro property own
    obtain ⟨field, offered, behind, made, same⟩ := own_of_analyze run listed own
    refine ⟨field, behind, ?_, alsoNotify_of_own run listed own⟩
    rw [same]
    exact made.backing
  · intro entry inside fromField
    exact find?_own_of_merged run listed inside fromField
  · intro property own
    have routed := fun target => @routed_of_own _ _ _ run _ listed property own target
    exact ⟨routed, fun site => followUps_of_routed site routed⟩

-- ========================================================= two instruments

/-- A clock in auto-notify mode with a label that asks to notify the ticks
along, and a dial that embeds the clock and names the ticks twice. -/
def instruments : Schema where
  types :=
    [{ name := "Clock"
       scope := some "game"
       isPartial := true
       fields :=
        [{ name := "_ticks", type := "i32", attributes := [.autoNotify none] },
         { name := "_label"
           type := "String"
           attributes := [.autoNotify none, .alsoNotify "Ticks"] }] },
     boundClass "Dial" (some "Clock")
      [{ name := "_angle"
         type := "f32"
         attributes := [.alsoNotify "Ticks", .alsoNotify "Ghost", .alsoNotify "Ticks"] }]]

/-- The label of the clock keeps nothing of what its field is annotated
with, though the clock lists the ticks. -/
theorem clock_label_keeps_nothing :
    ∃ analysis, analyze instruments {} = .ok analysis
      ∧ ∃ clock ∈ analysis.types, ∃ label ∈ clock.own,
        annotatedFollowUps instruments clock label = ["Ticks"]
          ∧ "Ticks" ∈ clock.listedNames
          ∧ label.alsoNotify
            ≠ (annotatedFollowUps instruments clock label).filter
                (clock.listedNames.contains ·) := by
  obtain ⟨analysis, run, types, -, -⟩ :=
    @analyze_asWritten instruments (by decide +kernel) {}
  have found : ∃ clock ∈ typesAsWritten instruments, ∃ label ∈ clock.own,
      annotatedFollowUps instruments clock label = ["Ticks"]
        ∧ "Ticks" ∈ clock.listedNames
        ∧ label.alsoNotify
          ≠ (annotatedFollowUps instruments clock label).filter
              (clock.listedNames.contains ·) := by
    decide +kernel
  rw [← types] at found
  exact ⟨analysis, run, found⟩

/-- The dial keeps both mentions of the ticks, which it reads one base
away, and is warned about the ghost. -/
theorem dial_followUps_routed :
    ∃ analysis, analyze instruments {} = .ok analysis
      ∧ ∃ dial ∈ analysis.types, dial.fullName = "game::Dial"
        ∧ (∀ angle ∈ dial.own, angle.alsoNotify = ["Ticks", "Ticks"])
        ∧ (followUpWarnings analysis.diagnostics dial.fullName).length = 1
        ∧ ∀ angle ∈ dial.own, ∀ target ∈ angle.alsoNotify, ∃ entry depth,
            dial.merged? target = some entry ∧ dial.depthOf? entry.owner = some depth := by
  obtain ⟨analysis, run, types, -, -⟩ :=
    @analyze_asWritten instruments (by decide +kernel) {}
  have found : ∃ dial ∈ typesAsWritten instruments, dial.fullName = "game::Dial"
      ∧ (∀ angle ∈ dial.own,
          (declaredFollowUps instruments dial angle).filter (dial.listedNames.contains ·)
            = ["Ticks", "Ticks"])
      ∧ (dial.own.flatMap fun angle =>
          (declaredFollowUps instruments dial angle).filter
            (!dial.listedNames.contains ·)).length = 1 := by
    decide +kernel
  rw [← types] at found
  obtain ⟨dial, listed, named, keeps, loses⟩ := found
  obtain ⟨kept, warned, -, routed⟩ := followUps_routed run listed
  refine ⟨analysis, run, dial, listed, named, ?_, warned.trans loses, ?_⟩
  · intro angle own
    obtain ⟨_, -, -, alsoNotify⟩ := kept angle own
    exact alsoNotify.trans (keeps angle own)
  · intro angle own
    exact (routed angle own).1

end DataBinding
