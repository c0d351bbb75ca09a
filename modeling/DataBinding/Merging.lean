/-
All properties of a type, each name once. The type's own accessors come
first; then hand-written properties, its own and those of its ancestors,
nearest first; then what the bound ancestors have, nearest first again.
The first entry of a name hides the later ones.

Ancestors are merged before their descendants, so a type finds the merged
lists of its ancestors ready.
-/
import DataBinding.Extraction

namespace DataBinding

variable (schema : Schema)

-- ================================================== hand-written offers

/-- A hand-written property seen from a type that has it. It is offered
when its getter can be called from outside and its type is supported. -/
def handWritten? (owner : String) (scope : Option String) (isFromAncestor : Bool)
    (decl : PropertyDecl) : Option Property :=
  let meaning := classify schema scope decl.type
  if decl.getter.any (·.isExternallyVisible) && meaning.category.isSupported then
    some
      { name := decl.name
        backing := .handWritten decl.getterFn
        category := meaning.category
        declaredType := decl.type
        typeFullName := meaning.typeFullName
        enumName := meaning.enumName
        isFromAncestor := isFromAncestor
        owner := owner }
  else none

/-- The hand-written properties that the declaration named `owner` offers. -/
def handWrittenOf (isFromAncestor : Bool) (owner : String) : List Property :=
  match schema.typeDecl? owner with
  | some decl => decl.properties.filterMap (handWritten? schema owner decl.scope isFromAncestor)
  | none => []

/-- A type together with its own properties, before merging. -/
structure ExtractedType extends TypeOutline, Members

namespace ExtractedType

variable (type : ExtractedType)

def accessors : List Property := type.own.filter (!·.isSuppressed)

-- ============================================================== merging

/-- Everything a type might list, the preferred entry of a name first.
`done` holds the merged lists of the types merged before. -/
def candidates (done : List (String × List Property)) : List Property :=
  type.accessors
    ++ handWrittenOf schema false type.fullName
    ++ type.chain.flatMap (handWrittenOf schema true)
    ++ type.chain.flatMap fun ancestor =>
        ((done.lookup ancestor).getD []).map Property.inherited

/-- The merged list of a type. In auto-notify mode that is just its own. -/
def merge (done : List (String × List Property)) : List Property :=
  if type.mode.isBindable then
    firstOffers Property.name [] (type.candidates schema done)
  else type.accessors

end ExtractedType

-- =========================================================== follow-ups

/-- A property whose follow-ups are restricted to known names. -/
def Property.keepKnown (known : List String) (property : Property) : Property :=
  { property with alsoNotify := property.alsoNotify.filter (known.contains ·) }

/-- The warnings about the follow-ups of a property that name nothing. -/
def unknownFollowUps (typeName : String) (known : List String) (property : Property) :
    List Diagnostic :=
  (property.alsoNotify.filter (!known.contains ·)).map fun target =>
    ⟨.unknownAlsoNotifyTarget, typeName,
      "'" ++ property.name ++ "' also notifies unknown property '" ++ target ++ "'"⟩

/-- The finished descriptor of a type with a given merged list. -/
def ExtractedType.finish (type : ExtractedType) (merged : List Property) :
    Reported TypeDescriptor :=
  let known := merged.map (·.name)
  { value :=
      { type with
        own := type.own.map (·.keepKnown known)
        merged := merged.map (·.keepKnown known) }
    diagnostics := type.own.flatMap (unknownFollowUps type.fullName known) }

/-- Merge the types one after the other. -/
def mergeAll (done : List (String × List Property)) :
    List ExtractedType → Reported (List TypeDescriptor)
  | [] => ⟨[], []⟩
  | type :: rest =>
    let finished := type.finish (type.merge schema done)
    let later := mergeAll ((type.fullName, finished.value.merged) :: done) rest
    ⟨finished.value :: later.value, finished.diagnostics ++ later.diagnostics⟩

end DataBinding
