/-
What the scan makes of the base that a bindable type names. Where the written
base resolves to a class, the base is recorded under the full name of that
class, heads the chain, and is not sealed. Where it resolves to a struct, it
is treated like a base that nothing is known of: the walk stops before the
struct, so the chain is empty, the base is recorded as it was written, and
the struct, which counts as sealed, is not objected to.

The reason for both is that whether a base is resolved is read off the walk
along classes. So a resolved base is recorded as resolved exactly if it is a
class (`DirectBase.asResolved`).
-/
import DataBinding.Proofs.EmbeddedBases
import DataBinding.Proofs.Rejections

namespace DataBinding

open Emission

variable {schema : Schema}

/-- What a type has to be called sealed in its descriptor: to be declared so,
or to be a struct. -/
def TypeDecl.countsAsSealed (decl : TypeDecl) : Bool := decl.isSealed || decl.isValueType

theorem isSealed_link (types : List TypeOutline) (outline : TypeOutline) :
    (outline.link schema types).isSealed = outline.isSealed := by
  unfold TypeOutline.link
  split <;> rfl

/-- The descriptor of a listed type calls it sealed if it counts as sealed. -/
theorem isSealed_of_listed {types : List TypeOutline} (run : (outlines schema).value = .ok types)
    {type : TypeOutline} (listed : type ∈ types) {decl : TypeDecl}
    (declared : schema.typeDecl? type.fullName = some decl) :
    type.isSealed = decl.countsAsSealed := by
  obtain ⟨decl', mode, chain, declared', -, -, -, linkedAs⟩ := mem_outlines run listed
  rw [declared] at declared'
  cases declared'
  rw [linkedAs, isSealed_link]
  rfl

/-- A class that is not declared sealed does not count as sealed, a struct
always does. -/
theorem countsAsSealed_eq_false {decl : TypeDecl} :
    decl.countsAsSealed = false ↔ decl.kind = .«class» ∧ decl.isSealed = false := by
  unfold TypeDecl.countsAsSealed TypeDecl.isValueType
  cases decl.kind <;> simp

/-- The walk stops before a struct. -/
theorem baseChain_of_struct {decl ancestor : TypeDecl} {written : String} {chain : List String}
    (walked : baseChain schema decl = some chain) (derives : decl.base = some written)
    (resolves : schema.resolveType? decl.scope written = some ancestor)
    (isStruct : ancestor.kind = .struct) : chain = [] := by
  unfold baseChain at walked
  rw [derives, walkBases_of_no_class fun other found => ?_] at walked
  · exact (Option.some.inj walked).symm
  · rw [resolves] at found
    cases found
    simp [isStruct]

/-- A bindable type that is accepted derives from no sealed class. -/
theorem unsealed_of_accepted {decl ancestor : TypeDecl} {mode : GenerationMode}
    {written : String} {chain : List String} (bound : decl.generationMode? = some mode)
    (isBindable : mode.isBindable = true) (walked : baseChain schema decl = some chain)
    (clean : violations schema decl mode chain = []) (derives : decl.base = some written)
    (resolves : schema.resolveType? decl.scope written = some ancestor)
    (isClass : ancestor.kind = .«class») : ancestor.isSealed = false := by
  have may : MayBeBound schema decl mode := (mayBeBound_iff bound).2 fun violation broken => by
    have reported := (mem_violations bound walked).2 broken
    rw [clean] at reported
    cases reported
  exact may.openBase isBindable written ancestor derives resolves isClass

-- ===================================================== the resolved base

/-- What is recorded of a written base that resolves to a declaration. -/
structure DirectBase (types : List TypeOutline) (type : TypeOutline) (written : String)
    (ancestor : TypeDecl) : Prop where
  /-- A base is recorded as resolved, ahead of all others and not sealed,
  exactly if it is a class. -/
  asResolved : type.base = some ancestor.fullName ∧ type.chain.head? = some ancestor.fullName
      ∧ ancestor.countsAsSealed = false ↔ ancestor.kind = .«class»
  /-- A struct is recorded as it was written, though it counts as sealed. -/
  ofStruct : ancestor.kind = .struct →
    type.base = some (Text.trim written) ∧ type.chain = [] ∧ ancestor.countsAsSealed = true
  /-- The structure embeds a class under the root path, and a struct under
  the written one. -/
  embedded : ∀ (site : Site) (full : TypeDescriptor), full.toTypeOutline = type →
    baseType site full
      = if ancestor.kind = .«class» then (site.itemPath ancestor.fullName).map some
        else (readType (Text.trim written)).map some
  /-- To count as sealed is what a descriptor of the base would say. -/
  sealing : ∀ bound ∈ types, bound.fullName = ancestor.fullName →
    bound.isSealed = ancestor.countsAsSealed

/-- The base of an accepted bindable type, from what the written base
resolves to. -/
theorem directBase_of_listed {types : List TypeOutline}
    (run : (outlines schema).value = .ok types) {type : TypeOutline} (listed : type ∈ types)
    (bindable : type.mode.isBindable = true) {decl : TypeDecl}
    (declared : schema.typeDecl? type.fullName = some decl) {written : String}
    (derives : decl.base = some written) {ancestor : TypeDecl}
    (resolves : schema.resolveType? decl.scope written = some ancestor) :
    DirectBase types type written ancestor := by
  obtain ⟨decl', mode, walked, declared', bound, walkedFrom, clean, linkedAs⟩ :=
    mem_outlines run listed
  rw [declared] at declared'
  cases declared'
  have isBindable : mode.isBindable = true := by
    rw [linkedAs, mode_link] at bindable
    exact bindable
  have base : type.base = resolvedBase decl walked := by
    rw [linkedAs, base_link]
    exact if_pos isBindable
  have chain : type.chain = embeddedChain schema walked := by
    rw [linkedAs, chain_link_outlineOf, if_pos isBindable]
  have ofClass (isClass : ancestor.kind = .«class») : type.base = some ancestor.fullName
      ∧ type.chain.head? = some ancestor.fullName ∧ ancestor.countsAsSealed = false := by
    have head : walked.head? = some ancestor.fullName :=
      (head?_baseChain walkedFrom).2 ⟨written, ancestor, derives, resolves, isClass, rfl⟩
    have embeds : walked ≠ [] := fun empty => by simp [empty] at head
    refine ⟨?_, ?_, countsAsSealed_eq_false.2 ⟨isClass, ?_⟩⟩
    · rw [base, resolvedBase_of_ancestors walkedFrom embeds, head]
    · rw [chain, head?_embeddedChain, head]
    · exact unsealed_of_accepted bound isBindable walkedFrom clean derives resolves isClass
  have ofStruct (isStruct : ancestor.kind = .struct) : type.base = some (Text.trim written)
      ∧ type.chain = [] ∧ ancestor.countsAsSealed = true := by
    have stops := baseChain_of_struct walkedFrom derives resolves isStruct
    refine ⟨?_, ?_, ?_⟩
    · rw [base, stops]
      unfold resolvedBase
      rw [derives]
      rfl
    · rw [chain, stops]
      rfl
    · simp [TypeDecl.countsAsSealed, TypeDecl.isValueType, isStruct]
  refine ⟨⟨?_, ofClass⟩, ofStruct, ?_, ?_⟩
  · rintro ⟨-, -, unsealed⟩
    exact (countsAsSealed_eq_false.1 unsealed).1
  · rintro site full rfl
    unfold baseType
    cases kind : ancestor.kind with
    | «class» =>
      obtain ⟨base, head, -⟩ := ofClass kind
      rw [base]
      exact if_pos head
    | struct =>
      obtain ⟨base, chain, -⟩ := ofStruct kind
      rw [base]
      exact if_neg (by simp [chain])
  · intro other listedOther named
    refine isSealed_of_listed run listedOther ?_
    rw [named]
    exact typeDecl?_of_resolveType? resolves

-- ========================================================= a vector hero

/-- A knight is a hero, and the hero names a struct as its base. -/
def vectorHero : Schema where
  types :=
    [boundClass "Hero" (some "Vec2") [{ name := "_speed", type := "f32" }],
     boundClass "Knight" (some " Hero ") [{ name := "_horse", type := "String" }],
     { name := "Vec2", scope := some "game", kind := .struct }]

/-- The knight has the hero as its base, under the full name. -/
theorem knight_over_hero :
    ∃ types, (outlines vectorHero).value = .ok types
      ∧ ∃ knight ∈ types, knight.mode.isBindable = true ∧ knight.base = some "game::Hero"
        ∧ knight.chain.head? = some "game::Hero" := by
  refine ⟨_, outlines_asWritten (by decide +kernel), ?_⟩
  have found : ∃ knight ∈ outlinesAsWritten vectorHero, knight.mode.isBindable = true
      ∧ ∃ decl ∈ vectorHero.typeDecl? knight.fullName, decl.base = some " Hero "
        ∧ ∃ hero ∈ vectorHero.resolveType? decl.scope " Hero ",
          hero.kind = .«class» ∧ hero.fullName = "game::Hero" := by
    decide +kernel
  obtain ⟨knight, listed, bindable, decl, declared, derives, hero, resolves, isClass, named⟩ :=
    found
  have direct := directBase_of_listed (outlines_asWritten (by decide +kernel)) listed bindable
    declared derives resolves
  obtain ⟨base, head, -⟩ := direct.asResolved.2 isClass
  rw [named] at base head
  exact ⟨knight, listed, bindable, base, head⟩

/-- The struct that the hero names is declared and counts as sealed. All the
same the hero is accepted, with the base as written, which is not the name of
the struct, and without a chain. -/
theorem hero_over_struct :
    ∃ types, (outlines vectorHero).value = .ok types
      ∧ ∃ hero ∈ types, ∃ struct, hero.mode.isBindable = true ∧ hero.fullName = "game::Hero"
        ∧ vectorHero.resolveType? (some "game") "Vec2" = some struct
        ∧ struct.countsAsSealed = true ∧ hero.base = some "Vec2"
        ∧ hero.base ≠ some struct.fullName ∧ hero.chain = [] := by
  refine ⟨_, outlines_asWritten (by decide +kernel), ?_⟩
  have found : ∃ hero ∈ outlinesAsWritten vectorHero, hero.mode.isBindable = true
      ∧ hero.fullName = "game::Hero" ∧ hero.base = some "Vec2"
      ∧ hero.base ≠ some "game::Vec2" ∧ hero.chain = [] := by
    decide +kernel
  obtain ⟨hero, listed, bindable, named, base, unresolved, chain⟩ := found
  exact ⟨hero, listed, { name := "Vec2", scope := some "game", kind := .struct }, bindable,
    named, by decide +kernel, rfl, base, unresolved, chain⟩

end DataBinding
