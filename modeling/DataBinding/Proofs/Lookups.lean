/-
What the analysis reads of a schema. Its stages get at the declarations in
two ways: they go through the list of types, or they look a name up. This
module is about the second way. Whatever a stage says about one
declaration (what its types mean, which classes it derives from, which
rules it breaks, what it offers and inherits) it knows from lookups alone,
so schemas with the same lookups agree on it. What is left of a schema
beyond its lookups is the order in which a stage goes through the types.

What written types mean, and with it what fields and methods amount to, is
a matter of the lookups of enums alone.
-/
import DataBinding.Proofs.EventTypes

namespace DataBinding

variable {schema other : Schema}

-- =============================================================== meanings

section Enums

variable (enums : schema.enumDecl? = other.enumDecl?)

include enums

theorem classify_of_enums : classify schema = classify other := by
  have resolved : schema.resolveEnum? = other.resolveEnum? := by
    funext scope written
    unfold Schema.resolveEnum?
    rw [enums]
  have scalar : classifyScalar schema = classifyScalar other := by
    funext scope type
    unfold classifyScalar
    rw [resolved]
  funext scope written
  unfold classify
  rw [scalar]

theorem extract_of_enums : extract schema = extract other := by
  have offered : offeredProperty? schema = offeredProperty? other := by
    funext outline field
    unfold offeredProperty?
    rw [classify_of_enums enums]
  have slots : slotOf schema = slotOf other := by
    funext scope field
    unfold slotOf
    rw [classify_of_enums enums]
  funext outline fields
  unfold extract
  rw [offered, slots]

theorem handWritten?_of_enums : handWritten? schema = handWritten? other := by
  funext owner scope isFromAncestor decl
  unfold handWritten?
  rw [classify_of_enums enums]

theorem extractCalls_of_enums : extractCalls schema = extractCalls other := by
  have argument : exposableArgument? schema = exposableArgument? other := by
    funext scope arg
    unfold exposableArgument? classifyArgument
    rw [classify_of_enums enums]
  have exposed : exposedCall? schema = exposedCall? other := by
    funext scope method
    unfold exposedCall?
    rw [argument]
  funext decl
  unfold extractCalls
  rw [exposed]

end Enums

/-- Two schemas in which every name finds the same declaration. -/
structure SameLookups (schema other : Schema) : Prop where
  types : schema.typeDecl? = other.typeDecl?
  enums : schema.enumDecl? = other.enumDecl?

namespace SameLookups

theorem symm (same : SameLookups schema other) : SameLookups other schema :=
  ⟨same.types.symm, same.enums.symm⟩

-- ============================================================ references

theorem resolveType?_eq (same : SameLookups schema other) :
    schema.resolveType? = other.resolveType? := by
  funext scope written
  unfold Schema.resolveType?
  rw [same.types]

-- ================================================================= chains

/-- The walk along bases goes the same way, along the recursion of the
walk. -/
theorem walkBases_eq (same : SameLookups schema other) (visited : List String)
    (scope base : Option String) :
    walkBases schema visited scope base = walkBases other visited scope base := by
  fun_induction walkBases schema visited scope base with
  | case1 visited scope => exact (walkBases_none visited scope).symm
  | case2 visited scope written unresolved =>
    refine (walkBases_of_no_class fun decl found => ?_).symm
    rw [← same.resolveType?_eq, unresolved] at found
    cases found
  | case3 visited scope written ancestor found isClass fresh ih =>
    rw [same.resolveType?_eq] at found
    rw [walkBases_of_class found isClass, if_pos fresh, ih]
  | case4 visited scope written ancestor found isClass seen =>
    rw [same.resolveType?_eq] at found
    rw [walkBases_of_class found isClass, if_neg seen]
  | case5 visited scope written ancestor found noClass =>
    refine (walkBases_of_no_class fun decl found' => ?_).symm
    rw [← same.resolveType?_eq, found] at found'
    cases found'
    exact noClass

theorem baseChain_eq (same : SameLookups schema other) : baseChain schema = baseChain other := by
  funext decl
  exact same.walkBases_eq _ _ _

theorem embeddedChain_eq (same : SameLookups schema other) :
    embeddedChain schema = embeddedChain other := by
  have flat : embedsNothing schema = embedsNothing other := by
    funext name
    unfold embedsNothing
    rw [same.types]
  funext chain
  induction chain with
  | nil => rfl
  | cons ancestor rest ih => rw [embeddedChain, embeddedChain, flat, ih]

-- =============================================================== the scan

theorem violations_eq (same : SameLookups schema other) : violations schema = violations other := by
  funext decl mode chain
  unfold violations baseViolations
  rw [same.types]

theorem screen_eq (same : SameLookups schema other) : screen schema = screen other := by
  funext items
  induction items with
  | nil => rfl
  | cons item rest ih =>
    obtain ⟨decl, mode⟩ := item
    rw [screen, screen, same.baseChain_eq, same.violations_eq, ih]

theorem link_eq (same : SameLookups schema other) :
    TypeOutline.link schema = TypeOutline.link other := by
  funext accepted outline
  unfold TypeOutline.link
  rw [same.embeddedChain_eq]

-- ============================================================ the members

theorem extractAll_eq (same : SameLookups schema other) : extractAll schema = extractAll other := by
  funext outlined
  unfold extractAll
  rw [same.types, extract_of_enums same.enums]

theorem registerAll_eq (same : SameLookups schema other) :
    registerAll schema = registerAll other := by
  funext types
  unfold registerAll EnumRegistry.registerUsed
  rw [same.enums]

theorem mergeAll_eq (same : SameLookups schema other) : mergeAll schema = mergeAll other := by
  have written : handWrittenOf schema = handWrittenOf other := by
    funext isFromAncestor owner
    unfold handWrittenOf
    rw [same.types, handWritten?_of_enums same.enums]
  have merged : ∀ (type : ExtractedType) (done : List (String × List Property)),
      type.merge schema done = type.merge other done := by
    intro type done
    unfold ExtractedType.merge ExtractedType.candidates
    rw [written]
  funext done types
  induction types generalizing done with
  | nil => rfl
  | cons type rest ih => rw [mergeAll, mergeAll, merged, ih]

-- ============================================================ event calls

theorem extractCalls_eq (same : SameLookups schema other) :
    extractCalls schema = extractCalls other :=
  extractCalls_of_enums same.enums

theorem acceptEvent?_eq (same : SameLookups schema other) :
    acceptEvent? schema = acceptEvent? other := by
  funext decl
  unfold acceptEvent?
  rw [same.baseChain_eq, same.extractCalls_eq]

theorem link_event_eq (same : SameLookups schema other) :
    EventTypeDescriptor.link schema = EventTypeDescriptor.link other := by
  funext accepted type
  unfold EventTypeDescriptor.link
  rw [same.embeddedChain_eq]

end SameLookups

end DataBinding
