/-
The walk along written bases. From a type one goes to the class its base
resolves to, reading the reference in the namespace of the type that wrote
it, and on from there; the walk ends where there is no base, where it
resolves to nothing, and before a struct. A walk that returns to a type it
has been at never ends, and that is an error of the schema.

The walk is total because a step takes it to a declared type whose name it
has not visited yet, and these run out.
-/
import DataBinding.Declaration.Lookup
import DataBinding.Descriptor

namespace DataBinding

-- ============================================================ resolving

variable (schema : Schema)

theorem mem_types_of_typeDecl? {schema : Schema} {fullName : String} {decl : TypeDecl}
    (found : schema.typeDecl? fullName = some decl) :
    decl ∈ schema.types ∧ decl.fullName = fullName := by
  have named := List.find?_some found
  exact ⟨List.mem_of_find?_eq_some found, by simpa using named⟩

theorem mem_types_of_resolveType? {schema : Schema} {scope : Option String}
    {written : String} {decl : TypeDecl}
    (found : schema.resolveType? scope written = some decl) : decl ∈ schema.types := by
  obtain ⟨path, -, named⟩ := List.exists_of_findSome?_eq_some found
  exact (mem_types_of_typeDecl? named).1

/-- Visiting one more declared type leaves fewer unvisited. -/
theorem unvisited_lt {types : List TypeDecl} {visited : List String} {decl : TypeDecl}
    (declared : decl ∈ types) (fresh : decl.fullName ∉ visited) :
    types.countP (fun d => d.fullName ∉ decl.fullName :: visited)
      < types.countP (fun d => d.fullName ∉ visited) := by
  induction types with
  | nil => cases declared
  | cons first rest ih =>
    have weaker : rest.countP (fun d => d.fullName ∉ decl.fullName :: visited)
        ≤ rest.countP (fun d => d.fullName ∉ visited) :=
      List.countP_mono_left fun d _ h => by simp_all
    rcases List.mem_cons.1 declared with rfl | inRest
    · simp only [List.countP_cons]
      simp [fresh]
      simpa using Nat.lt_succ_of_le weaker
    · have smaller := ih inRest
      simp only [List.countP_cons]
      by_cases h : first.fullName ∈ visited
      · simpa [h] using smaller
      · by_cases same : first.fullName = decl.fullName
        · simp [same, fresh]
          simpa using Nat.lt_succ_of_lt smaller
        · simpa [h, same] using smaller

-- ============================================================== walking

/-- The class ancestors met from a written base on, nearest first; `none`
when the walk comes back to one of the visited names. -/
def walkBases (visited : List String) (scope base : Option String) : Option (List String) :=
  match base with
  | none => some []
  | some written =>
    match _ : schema.resolveType? scope written with
    | none => some []
    | some ancestor =>
      if ancestor.kind = .«class» then
        if _ : ancestor.fullName ∉ visited then
          (walkBases (ancestor.fullName :: visited) ancestor.scope ancestor.base).map
            (ancestor.fullName :: ·)
        else none
      else some []
termination_by schema.types.countP (fun d => d.fullName ∉ visited)
decreasing_by exact unvisited_lt (mem_types_of_resolveType? ‹_›) ‹_›

/-- The class ancestors of a declaration, nearest first. -/
def baseChain (decl : TypeDecl) : Option (List String) :=
  walkBases schema [decl.fullName] decl.scope decl.base

/-- The base of a declaration whose ancestors are known: the first of them,
or what was written when it names no known class. -/
def resolvedBase (decl : TypeDecl) (chain : List String) : Option String :=
  decl.base.map fun written => chain.head?.getD (Text.trim written)

-- ============================================================ embedding

/-- The annotation that binds a type. A bindable annotation outweighs marks
on fields. -/
def TypeDecl.generationMode? (decl : TypeDecl) : Option GenerationMode :=
  match decl.bindable? with
  | some raisesEvents => some (.bindable raisesEvents)
  | none => if decl.hasAutoNotifyFields then some .autoNotify else none

/-- Whether the structure generated under a name embeds no base. -/
def embedsNothing (fullName : String) : Bool :=
  match schema.typeDecl? fullName with
  | some decl => decl.generationMode? == some .autoNotify
  | none => false

/-- The part of a chain that is reachable through embedded bases: up to and
with the first type that embeds nothing itself. -/
def embeddedChain : List String → List String
  | [] => []
  | ancestor :: rest =>
    if embedsNothing schema ancestor then [ancestor] else ancestor :: embeddedChain rest

/-- The depth of the first member of a chain with a property. -/
def depthWhere (holds : String → Bool) (chain : List String) : Option Nat :=
  (chain.findIdx? holds).map (· + 1)

end DataBinding
