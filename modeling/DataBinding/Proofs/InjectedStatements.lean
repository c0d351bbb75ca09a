/-
Code that accessors run, as it is put together from annotations. Fragments are
pushed one after the other, each for one point, and cut into statements at
their semicolons.

# Cuts

A semicolon between two fragments is one more cut and nothing else
(`statementsOf_join`), and what becomes of a piece does not depend on its
neighbours. So fragments that are pushed in turn amount to what they are when
written together (`get_ofInjections`), and two ways to cut the same code into
fragments cannot be told apart: nothing but the injected code is read off
these annotations (`offeredProperty?_eq_map`).

# Statements

What is kept of a piece begins and ends with characters that are no blanks,
and has no semicolon (`isStatement_of_mem`). Such a text is cut into nothing
but itself, and there is nothing to take from it (`statementsOf_between`); so
what is stored can be pushed again.
-/
import DataBinding.Proofs.FieldOffers
import DataBinding.Proofs.WrittenInOrder
import Mathlib.Data.List.DropRight

namespace DataBinding

open Text

-- ============================================================== trimming

/-- There is a character at the beginning, and it is no blank. -/
def BeginsSolid (cs : List Char) : Prop := ∃ c ∈ cs.head?, isBlank c = false

theorem BeginsSolid.append {cs : List Char} (solid : BeginsSolid cs) (rest : List Char) :
    BeginsSolid (cs ++ rest) := by
  obtain ⟨c, first, apart⟩ := solid
  obtain ⟨tail, rfl⟩ := List.head?_eq_some_iff.1 first
  exact ⟨c, rfl, apart⟩

theorem BeginsSolid.of_append {cs rest : List Char} (some_ : cs ≠ [])
    (solid : BeginsSolid (cs ++ rest)) : BeginsSolid cs := by
  obtain ⟨c, tail, rfl⟩ := List.exists_cons_of_ne_nil some_
  exact solid

/-- Only what is in front of it is dropped then. -/
theorem BeginsSolid.dropWhile {blanks cs : List Char} (solid : BeginsSolid cs)
    (blank : ∀ c ∈ blanks, isBlank c = true) : (blanks ++ cs).dropWhile isBlank = cs := by
  obtain ⟨c, first, apart⟩ := solid
  obtain ⟨tail, rfl⟩ := List.head?_eq_some_iff.1 first
  rw [List.dropWhile_append_of_pos blank]
  exact List.dropWhile_cons_of_neg (by simp [apart])

theorem beginsSolid_dropWhile {cs : List Char} (left : cs.dropWhile isBlank ≠ []) :
    BeginsSolid (cs.dropWhile isBlank) :=
  ⟨_, List.head?_eq_some_head left, List.head_dropWhile_not isBlank left⟩

/-- Nothing but the blanks at its ends is taken from a text. -/
theorem trimChars_between {lead cs trail : List Char} (begins : BeginsSolid cs)
    (ends : BeginsSolid cs.reverse) (leads : ∀ c ∈ lead, isBlank c = true)
    (trails : ∀ c ∈ trail, isBlank c = true) : trimChars (lead ++ cs ++ trail) = cs := by
  have front : (lead ++ cs ++ trail).dropWhile isBlank = cs ++ trail := by
    rw [List.append_assoc]
    exact (begins.append trail).dropWhile leads
  have back : (trail.reverse ++ cs.reverse).dropWhile isBlank = cs.reverse :=
    ends.dropWhile (by simpa using trails)
  rw [trimChars, trimEndChars, front, List.reverse_append, back, List.reverse_reverse]

theorem trimChars_eq_nil {cs : List Char} (blank : ∀ c ∈ cs, isBlank c = true) :
    trimChars cs = [] := by
  have gone : cs.dropWhile isBlank = [] := List.dropWhile_eq_nil_iff.2 blank
  rw [trimChars, gone]
  rfl

/-- What is left after trimming has no blanks at its ends. -/
theorem solid_trimChars {cs : List Char} (left : trimChars cs ≠ []) :
    BeginsSolid (trimChars cs) ∧ BeginsSolid (trimChars cs).reverse := by
  constructor
  · -- the end is trimmed last, which leaves the beginning as it was
    obtain ⟨rest, split⟩ := List.rdropWhile_prefix isBlank (cs.dropWhile isBlank)
    have whole : trimChars cs ++ rest = cs.dropWhile isBlank := split
    apply BeginsSolid.of_append left
    rw [whole]
    apply beginsSolid_dropWhile
    intro gone
    rw [gone] at whole
    exact left (List.append_eq_nil_iff.1 whole).1
  · rw [trimChars, trimEndChars, List.reverse_reverse]
    apply beginsSolid_dropWhile
    intro gone
    apply left
    rw [trimChars, trimEndChars, gone, List.reverse_nil]

theorem mem_of_mem_trimChars {cs : List Char} {c : Char} (inside : c ∈ trimChars cs) : c ∈ cs := by
  have kept : c ∈ cs.dropWhile isBlank := (List.rdropWhile_prefix isBlank _).subset inside
  exact (List.dropWhile_suffix isBlank).subset kept

-- ============================================================ statements

/-- A text that begins and ends with characters that are no blanks, and has no
semicolon. -/
structure IsStatement (text : String) : Prop where
  begins : ∃ c ∈ text.toList.head?, isBlank c = false
  ends : ∃ c ∈ text.toList.getLast?, isBlank c = false
  uncut : ';' ∉ text.toList

theorem not_blank_semicolon : isBlank ';' ≠ true := by decide +kernel

/-- A text without separators is one piece. -/
theorem pieces_of_uncut {sep : Char → Bool} {cs : List Char} (uncut : ∀ c ∈ cs, sep c = false) :
    pieces sep cs = [cs] := by
  induction cs with
  | nil => rfl
  | cons c rest ih =>
    obtain ⟨plain, uncutRest⟩ := List.forall_mem_cons.1 uncut
    simp [pieces, plain, ih uncutRest]

/-- A semicolon between two fragments is one more cut. -/
theorem statementsOf_join (a b : String) :
    statementsOf (a ++ ";" ++ b) = statementsOf a ++ statementsOf b := by
  have chars : (a ++ ";" ++ b).toList = a.toList ++ ';' :: b.toList := by simp
  have seam : pieces (· == ';') (a.toList ++ ';' :: b.toList)
      = pieces (· == ';') a.toList ++ pieces (· == ';') b.toList :=
    pieces_append_sep rfl a.toList b.toList
  unfold statementsOf
  rw [chars, seam, List.map_append, List.filterMap_append]

theorem statementsOf_uncut {text : String} (uncut : ';' ∉ text.toList) :
    statementsOf text
      = if trimChars text.toList = [] then [] else [String.ofList (trimChars text.toList)] := by
  have one : pieces (· == ';') text.toList = [text.toList] :=
    pieces_of_uncut fun c inside => by
      rw [beq_eq_false_iff_ne]
      rintro rfl
      exact uncut inside
  unfold statementsOf
  rw [one]
  by_cases gone : trimChars text.toList = [] <;> simp [gone]

/-- What is kept of a fragment are statements. -/
theorem isStatement_of_mem {fragment text : String} (kept : text ∈ statementsOf fragment) :
    IsStatement text := by
  unfold statementsOf at kept
  obtain ⟨chars, among, some_⟩ := List.mem_filterMap.1 kept
  obtain ⟨piece, inPieces, rfl⟩ := List.mem_map.1 among
  split at some_
  · cases some_
  · next left =>
    obtain rfl := Option.some.inj some_
    obtain ⟨begins, ends⟩ := solid_trimChars (by simpa using left)
    refine ⟨?_, ?_, fun semicolon => ?_⟩
    · rwa [String.toList_ofList]
    · rwa [String.toList_ofList, ← List.head?_reverse]
    · rw [String.toList_ofList] at semicolon
      have apart := not_sep_of_mem_pieces inPieces (mem_of_mem_trimChars semicolon)
      simp at apart

theorem statementsOf_empty : statementsOf "" = [] := by decide +kernel

/-- Fragments that are written together have the statements of each. -/
theorem statementsOf_intercalate (fragments : List String) :
    statementsOf (";".intercalate fragments) = fragments.flatMap statementsOf := by
  induction fragments with
  | nil => exact statementsOf_empty
  | cons fragment rest ih =>
    cases rest with
    | nil => simp
    | cons next more =>
      rw [String.intercalate_cons_cons, statementsOf_join, ih]
      rfl

/-- A statement is kept as it is, without the blanks around it. -/
theorem statementsOf_between {lead text trail : String} (statement : IsStatement text)
    (leads : ∀ c ∈ lead.toList, isBlank c = true) (trails : ∀ c ∈ trail.toList, isBlank c = true) :
    statementsOf (lead ++ text ++ trail) = [text] := by
  have ends : BeginsSolid text.toList.reverse := by
    rw [BeginsSolid, List.head?_reverse]
    exact statement.ends
  have chars : (lead ++ text ++ trail).toList = lead.toList ++ text.toList ++ trail.toList := by
    simp
  have uncut : ';' ∉ (lead ++ text ++ trail).toList := by
    rw [chars]
    intro inside
    rcases List.mem_append.1 inside with inside | inside
    · rcases List.mem_append.1 inside with inside | inside
      · exact not_blank_semicolon (leads ';' inside)
      · exact statement.uncut inside
    · exact not_blank_semicolon (trails ';' inside)
  have trimmed := trimChars_between statement.begins ends leads trails
  rw [statementsOf_uncut uncut, chars, trimmed]
  obtain ⟨c, first, -⟩ := statement.begins
  have some_ : text.toList ≠ [] := by
    intro empty
    simp [empty] at first
  rw [if_neg some_, String.ofList_toList]

/-- What was kept is kept again. -/
theorem statementsOf_rejoined {texts : List String}
    (statements : ∀ text ∈ texts, IsStatement text) :
    statementsOf (";".intercalate texts) = texts := by
  have each : ∀ text ∈ texts, statementsOf text = [text] := by
    intro text among
    have kept : statementsOf ("" ++ text ++ "") = [text] :=
      statementsOf_between (statements text among) (by simp) (by simp)
    simpa using kept
  rw [statementsOf_intercalate]
  induction texts with
  | nil => rfl
  | cons text rest ih =>
    obtain ⟨first, later⟩ := List.forall_mem_cons.1 each
    rw [List.flatMap_cons, first, ih (List.forall_mem_cons.1 statements).2 later]
    rfl

/-- Blanks have no statements. -/
theorem statementsOf_blank {fragment : String} (blank : ∀ c ∈ fragment.toList, isBlank c = true) :
    statementsOf fragment = [] := by
  have uncut : ';' ∉ fragment.toList := by
    intro inside
    exact not_blank_semicolon (blank ';' inside)
  rw [statementsOf_uncut uncut, trimChars_eq_nil blank, if_pos rfl]

-- =============================================================== pushes

namespace InjectedCode

theorem ext_get {code other : InjectedCode} (same : ∀ point, code.get point = other.get point) :
    code = other := by
  cases code
  cases other
  rw [InjectedCode.mk.injEq]
  exact ⟨same .onGet, same .onSetBeforeChange, same .onSetAfterChange⟩

theorem get_push_self (code : InjectedCode) (point : InjectionPoint) (fragment : String) :
    (code.push point fragment).get point = code.get point ++ statementsOf fragment := by
  simp [get_push]

theorem get_push_of_ne {point other : InjectionPoint} (apart : other ≠ point)
    (code : InjectedCode) (fragment : String) :
    (code.push point fragment).get other = code.get other := by
  simp [get_push, apart]

theorem push_push (code : InjectedCode) (point : InjectionPoint) (a b : String) :
    (code.push point a).push point b = code.push point (a ++ ";" ++ b) := by
  apply ext_get
  intro other
  by_cases same : other = point
  · rw [same]
    simp only [get_push_self, statementsOf_join, List.append_assoc]
  · simp only [get_push_of_ne same]

/-- The code of a point, written together. -/
def codeAt (injections : List (InjectionPoint × String)) (point : InjectionPoint) : String :=
  ";".intercalate ((injections.filter (·.1 = point)).map (·.2))

theorem get_foldl_push (code : InjectedCode) (injections : List (InjectionPoint × String))
    (point : InjectionPoint) :
    (injections.foldl (fun code (point, fragment) => code.push point fragment) code).get point
      = code.get point ++ statementsOf (codeAt injections point) := by
  rw [codeAt, statementsOf_intercalate]
  induction injections generalizing code with
  | nil => simp
  | cons injection rest ih =>
    obtain ⟨place, fragment⟩ := injection
    rw [List.foldl_cons, ih]
    by_cases same : place = point
    · simp [same, get_push_self]
    · simp [same, get_push_of_ne (Ne.symm same)]

/-- What is stored are the statements of the code written together. -/
theorem get_ofInjections (injections : List (InjectionPoint × String)) (point : InjectionPoint) :
    (ofInjections injections).get point = statementsOf (codeAt injections point) := by
  have stored := get_foldl_push {} injections point
  have empty : ({} : InjectedCode).get point = [] := by cases point <;> rfl
  rwa [empty, List.nil_append] at stored

theorem ofInjections_of_code {injections others : List (InjectionPoint × String)}
    (same : ∀ point, codeAt injections point = codeAt others point) :
    ofInjections injections = ofInjections others := by
  apply ext_get
  intro point
  rw [get_ofInjections, get_ofInjections, same]

end InjectedCode

-- ========================================================== annotations

open InjectedCode (codeAt)

/-- Annotations that inject code. -/
def FieldAttribute.isCode : FieldAttribute → Bool
  | .codeInject _ _ => true
  | _ => false

namespace FieldDecl

/-- A field without its annotations that inject code. -/
def withoutCode (field : FieldDecl) : FieldDecl :=
  { field with attributes := field.attributes.filter (!·.isCode) }

variable (field : FieldDecl)

/-- Readings that pass over injected code do not miss it. -/
theorem filterMap_withoutCode {α : Type} {read? : FieldAttribute → Option α}
    (passes : ∀ point code, read? (.codeInject point code) = none)
    (attributes : List FieldAttribute) :
    (attributes.filter (!·.isCode)).filterMap read? = attributes.filterMap read? := by
  rw [List.filterMap_filter]
  refine List.filterMap_congr fun item _ => ?_
  cases item with
  | codeInject point code => exact (passes point code).symm
  | _ => rfl

theorem explicitName?_withoutCode : field.withoutCode.explicitName? = field.explicitName? := by
  unfold explicitName? withoutCode
  rw [← List.filter_reverse, ← List.head?_filterMap, ← List.head?_filterMap,
    filterMap_withoutCode fun _ _ => rfl]

theorem autoNotifyName?_withoutCode :
    field.withoutCode.autoNotifyName? = field.autoNotifyName? := by
  unfold autoNotifyName? withoutCode
  rw [← List.head?_filterMap, ← List.head?_filterMap, filterMap_withoutCode fun _ _ => rfl]

theorem alsoNotify_withoutCode : field.withoutCode.alsoNotify = field.alsoNotify :=
  filterMap_withoutCode (fun _ _ => rfl) field.attributes

theorem isSuppressed_withoutCode : field.withoutCode.isSuppressed = field.isSuppressed := by
  unfold isSuppressed withoutCode
  rw [Bool.eq_iff_iff, List.contains_iff_mem, List.contains_iff_mem, List.mem_filter]
  exact and_iff_left rfl

theorem isAutoNotify_withoutCode : field.withoutCode.isAutoNotify = field.isAutoNotify := by
  unfold isAutoNotify withoutCode
  rw [List.any_filter]
  congr
  funext item
  cases item <;> rfl

end FieldDecl

/-- Of the property that a field offers, code in annotations is the injected
code and nothing else. -/
theorem offeredProperty?_eq_map (schema : Schema) (outline : TypeOutline) (field : FieldDecl) :
    offeredProperty? schema outline field
      = (offeredProperty? schema outline field.withoutCode).map fun property =>
          { property with
            injected := if outline.mode.isBindable then .ofInjections field.injections else {} } := by
  unfold offeredProperty?
  rw [field.explicitName?_withoutCode, field.autoNotifyName?_withoutCode,
    field.alsoNotify_withoutCode, field.isSuppressed_withoutCode, field.isAutoNotify_withoutCode]
  dsimp only [FieldDecl.withoutCode]
  split
  · -- only a bindable type reads the code, for others it is empty on both sides
    cases outline.mode with
    | bindable raises =>
      rw [Option.map_map]
      rfl
    | autoNotify =>
      dsimp only
      split
      · rw [Option.map_map]
        rfl
      · rfl
  · rfl

/-- Two fields that are alike up to how their code is cut into fragments. -/
structure FieldDecl.SameButCuts (field other : FieldDecl) : Prop where
  apart : field.withoutCode = other.withoutCode
  code : ∀ point, codeAt field.injections point = codeAt other.injections point

namespace FieldDecl.SameButCuts

variable {field other : FieldDecl}

theorem offeredProperty? (same : field.SameButCuts other) (schema : Schema)
    (outline : TypeOutline) :
    DataBinding.offeredProperty? schema outline field
      = DataBinding.offeredProperty? schema outline other := by
  have injected := InjectedCode.ofInjections_of_code same.code
  rw [offeredProperty?_eq_map, same.apart, injected, ← offeredProperty?_eq_map]

theorem slotOf (same : field.SameButCuts other) (schema : Schema) (scope : Option String) :
    DataBinding.slotOf schema scope field = DataBinding.slotOf schema scope other := by
  show DataBinding.slotOf schema scope field.withoutCode = _
  rw [same.apart]
  rfl

end FieldDecl.SameButCuts

/-- What fields amount to does not depend on the cuts. -/
theorem extract_of_sameButCuts {fields others : List FieldDecl}
    (same : List.Forall₂ FieldDecl.SameButCuts fields others) (schema : Schema)
    (outline : TypeOutline) : extract schema outline fields = extract schema outline others := by
  have offers : fields.filterMap (offeredProperty? schema outline)
      = others.filterMap (offeredProperty? schema outline) := by
    induction same with
    | nil => rfl
    | cons first _ ih => simp only [List.filterMap_cons, first.offeredProperty?, ih]
  have slots : fields.map (slotOf schema outline.scope)
      = others.map (slotOf schema outline.scope) := by
    rw [← List.forall₂_eq_eq_eq, List.forall₂_map_left_iff, List.forall₂_map_right_iff]
    exact same.imp fun _ _ first => first.slotOf schema outline.scope
  unfold extract
  rw [slots, offers]

-- ============================================================== the laws

/-- What pushing fragments at a point does to some code. -/
structure AddsUp (code : InjectedCode) (point : InjectionPoint) : Prop where
  together : ∀ a b, (code.push point a).push point b = code.push point (a ++ ";" ++ b)
  elsewhere : ∀ fragment other, other ≠ point →
    (code.push point fragment).get other = code.get other
  added : ∀ fragment, ∃ added, (code.push point fragment).get point = code.get point ++ added
    ∧ ∀ text ∈ added, IsStatement text
  /-- Of a statement nothing is lost but the blanks around it. -/
  bare : ∀ lead text trail, IsStatement text → (∀ c ∈ lead.toList, isBlank c = true) →
    (∀ c ∈ trail.toList, isBlank c = true) →
      (code.push point (lead ++ text ++ trail)).get point = code.get point ++ [text]
  blank : ∀ fragment, (∀ c ∈ fragment.toList, isBlank c = true) → code.push point fragment = code

/-- What is stored at a point after some pushes. -/
structure StoresCode (injections : List (InjectionPoint × String)) (point : InjectionPoint)
    (stored : List String) : Prop where
  /-- The fragments for the point, in order, might have been written together. -/
  together : stored = statementsOf (codeAt injections point)
  statements : ∀ text ∈ stored, IsStatement text
  /-- What is stored may be pushed again. -/
  again : (({} : InjectedCode).push point (";".intercalate stored)).get point = stored

theorem addsUp (code : InjectedCode) (point : InjectionPoint) : AddsUp code point where
  together := code.push_push point
  elsewhere fragment _ apart := code.get_push_of_ne apart fragment
  added fragment := ⟨_, code.get_push_self point fragment, fun _ => isStatement_of_mem⟩
  bare lead text trail statement leads trails := by
    rw [code.get_push_self, statementsOf_between statement leads trails]
  blank fragment blank := by
    apply InjectedCode.ext_get
    intro other
    rw [InjectedCode.get_push, statementsOf_blank blank, ite_self, List.append_nil]

theorem storesCode (injections : List (InjectionPoint × String)) (point : InjectionPoint) :
    StoresCode injections point ((InjectedCode.ofInjections injections).get point) := by
  have together := InjectedCode.get_ofInjections injections point
  have statements : ∀ text ∈ (InjectedCode.ofInjections injections).get point,
      IsStatement text := by
    rw [together]
    exact fun _ => isStatement_of_mem
  refine ⟨together, statements, ?_⟩
  have empty : ({} : InjectedCode).get point = [] := by cases point <;> rfl
  rw [InjectedCode.get_push_self, empty, List.nil_append, statementsOf_rejoined statements]

/-- An own property of an analysed type stores the code of the field behind
it. -/
theorem storesCode_of_own {schema : Schema} {options : Options} {analysis : Analysis}
    (run : analyze schema options = .ok analysis) {type : TypeDescriptor}
    (listed : type ∈ analysis.types) {property : Property} (own : property ∈ type.own) :
    ∃ field, fieldBehind? schema type.toTypeOutline property.name = some field
      ∧ ∀ point, StoresCode (if type.mode.isBindable then field.injections else []) point
          (property.injected.get point) := by
  obtain ⟨field, offered, behind, offer, rfl⟩ := offer_of_analyze run listed own
  refine ⟨field, behind, fun point => ?_⟩
  have injected : (offered.keepKnown (type.merged.map (·.name))).injected
      = .ofInjections (if type.mode.isBindable then field.injections else []) := by
    have made := (becomes_of_offer offer).2.injected
    show offered.injected = _
    rw [made]
    split <;> rfl
  rw [injected]
  exact storesCode _ point

/-- Fragments add up to what they are when written together: for any code and
any point a push adds the statements of its fragment and nothing else
(`AddsUp`); what is stored after any pushes are the statements of all
fragments for the point, and can be pushed again (`StoresCode`). So it does
not matter to the properties of a type how the code of its fields is cut into
fragments, and each own property stores what the annotations of its field have
in their order. -/
theorem fragments_add_up :
    (∀ code point, AddsUp code point)
      ∧ (∀ injections point,
          StoresCode injections point ((InjectedCode.ofInjections injections).get point))
      ∧ (∀ {fields others}, List.Forall₂ FieldDecl.SameButCuts fields others →
          ∀ schema outline, extract schema outline fields = extract schema outline others)
      ∧ ∀ {schema options analysis}, analyze schema options = .ok analysis →
          ∀ type ∈ analysis.types, ∀ property ∈ type.own,
            ∃ field, fieldBehind? schema type.toTypeOutline property.name = some field
              ∧ ∀ point, StoresCode (if type.mode.isBindable then field.injections else []) point
                  (property.injected.get point) :=
  ⟨addsUp, storesCode, fun same => extract_of_sameButCuts same,
    fun run _ listed _ own => storesCode_of_own run listed own⟩

/-- The oil of a lantern, which is checked before it changes. -/
def lanternField : FieldDecl where
  name := "_oil"
  type := "i32"
  attributes :=
    [.codeInject .onSetBeforeChange " check(value); ;", .codeInject .onGet "seen()",
      .codeInject .onSetBeforeChange "log(value)"]

def lantern : Schema where
  types := [boundClass "Lantern" none [lanternField]]

/-- The same field with other cuts. -/
def lanternField' : FieldDecl where
  name := "_oil"
  type := "i32"
  attributes :=
    [.codeInject .onGet "seen()", .codeInject .onSetBeforeChange " check(value)",
      .codeInject .onSetBeforeChange " ;;log(value)"]

/-- Cut either way, the oil is checked and then written down. -/
theorem lantern_adds_up :
    lanternField.SameButCuts lanternField'
      ∧ (∀ outline,
          extract lantern outline [lanternField] = extract lantern outline [lanternField'])
      ∧ ∃ analysis, analyze lantern {} = .ok analysis
        ∧ ∃ type ∈ analysis.types, ∃ property ∈ type.own, property.name = "Oil"
          ∧ property.injected.get .onSetBeforeChange = ["check(value)", "log(value)"]
          ∧ ∀ point, StoresCode lanternField.injections point (property.injected.get point) := by
  obtain ⟨-, -, recut, stores⟩ := fragments_add_up
  have same : lanternField.SameButCuts lanternField' :=
    ⟨by decide +kernel, fun point => by cases point <;> decide +kernel⟩
  refine ⟨same, fun outline => recut (.cons same .nil) lantern outline, ?_⟩
  obtain ⟨analysis, run, types, -, -⟩ := @analyze_asWritten lantern (by decide +kernel) {}
  refine ⟨analysis, run, ?_⟩
  have found : ∃ type ∈ typesAsWritten lantern, type.mode.isBindable = true
      ∧ fieldBehind? lantern type.toTypeOutline "Oil" = some lanternField
      ∧ ∃ property ∈ type.own, property.name = "Oil" := by
    decide +kernel
  rw [← types] at found
  obtain ⟨type, listed, bindable, oil, property, own, named⟩ := found
  obtain ⟨field, behind, stored⟩ := stores run type listed property own
  rw [named, oil] at behind
  obtain rfl := Option.some.inj behind
  rw [bindable, if_pos rfl] at stored
  refine ⟨type, listed, property, own, named, ?_, stored⟩
  rw [(stored .onSetBeforeChange).together]
  decide +kernel

end DataBinding
