/-
One run of the generator over a schema. The types are emitted one after
the other, ancestors first, and each brings along the conversions of those
enums that it uses and no earlier file carries. A type whose code cannot
be emitted is left out with its fault, and the others go on; only a name
that is no word of code ends the run.

What is emitted does not depend on the style of selections: the drafts of
all files are made first, and the options settle them at the end.
-/
import DataBinding.Analysis
import DataBinding.Emission.Unit
import DataBinding.Generation.Files

namespace DataBinding

open Code Emission

/-- A type that is left out, and why. -/
structure Omission where
  typeName : String
  fault : EmitFault
  deriving DecidableEq

/-- What became of one type. -/
inductive Outcome
  | drafted (file : FileDraft)
  | omitted (omission : Omission)

namespace Outcome

def file? : Outcome → Option FileDraft
  | .drafted file => some file
  | .omitted _ => none

def omission? : Outcome → Option Omission
  | .drafted _ => none
  | .omitted omission => some omission

end Outcome

-- ============================================================= emission

/-- The outcome for a type whose code is known or at fault. -/
def outcomeOf (typeName : String) (file : Drafts → FileDraft) : Emit Drafts → Emit Outcome
  | .ok code => .ok (.drafted (file code))
  | .error fault =>
    if fault.endsRun then .error fault else .ok (.omitted ⟨typeName, fault⟩)

/-- Emit a bound type with the enums that nothing carries yet. -/
def emitType (paths : CodePaths) (registry : EnumRegistry) (type : TypeDescriptor) :
    Emit Outcome :=
  let enums := registry.pending type.usedEnums
  outcomeOf type.fullName
    (fun code =>
      { fileName := unitFileName type.fullName
        typeName := some type.fullName
        scope := type.scope
        code := code
        enums := enums.map (·.fullName) })
    (typeUnit paths type enums)

/-- The enums that an outcome carries. -/
def Outcome.enums : Outcome → List String
  | .drafted file => file.enums
  | .omitted _ => []

/-- Emit all bound types in order. -/
def emitTypes (paths : CodePaths) (registry : EnumRegistry) :
    List TypeDescriptor → Emit (List Outcome)
  | [] => .ok []
  | type :: rest => do
    let outcome ← emitType paths registry type
    return outcome :: (← emitTypes paths (registry.markAllEmitted outcome.enums) rest)

/-- Emit the event calls of a type. -/
def emitEvents (paths : CodePaths) (type : EventTypeDescriptor) : Emit Outcome :=
  outcomeOf type.fullName
    (fun code =>
      { fileName := eventUnitFileName type.fullName
        typeName := some type.fullName
        scope := type.scope
        code := code })
    (eventUnit paths type)

-- ================================================================== run

/-- The drafts of a run. -/
structure Drafting where
  types : List Outcome
  events : List Outcome
  diagnostics : List Diagnostic

namespace Drafting

variable (drafting : Drafting)

def units : List FileDraft := drafting.types.filterMap Outcome.file?

def eventUnits : List FileDraft := drafting.events.filterMap Outcome.file?

def indexes : List FileDraft := indexDrafts (drafting.units ++ drafting.eventUnits)

def omitted : List Omission := (drafting.types ++ drafting.events).filterMap Outcome.omission?

end Drafting

/-- What a run writes and says. -/
structure Generation where
  units : List GeneratedFile
  eventUnits : List GeneratedFile
  indexes : List GeneratedFile
  diagnostics : List Diagnostic
  omitted : List Omission
  deriving DecidableEq

namespace Generation

variable (generation : Generation)

/-- All files in the order in which they are written. -/
def files : List GeneratedFile :=
  generation.units ++ generation.eventUnits ++ generation.indexes

def unit? (fullName : String) : Option GeneratedFile :=
  generation.units.find? (·.typeName == some fullName)

def eventUnit? (fullName : String) : Option GeneratedFile :=
  generation.eventUnits.find? (·.typeName == some fullName)

end Generation

/-- Why a run ends without a result. -/
inductive GenerationFault
  | schema (fault : SchemaFault)
  | emission (fault : EmitFault)
  deriving DecidableEq

/-- The drafts of all files of a schema. -/
def draft (schema : Schema) (options : Options) : Except GenerationFault Drafting :=
  match analyze schema options with
  | .error fault => .error (.schema fault)
  | .ok analysis =>
    let emitted : Emit Drafting := do
      return {
        types := ← emitTypes options.toCodePaths analysis.enums analysis.types
        events := ← analysis.eventTypes.mapM (emitEvents options.toCodePaths)
        diagnostics := analysis.diagnostics }
    emitted.mapError .emission

/-- Settle all files of a run. -/
def Drafting.settle (options : Options) (drafting : Drafting) : Generation where
  units := drafting.units.map (·.settle options)
  eventUnits := drafting.eventUnits.map (·.settle options)
  indexes := drafting.indexes.map (·.settle options)
  diagnostics := drafting.diagnostics
  omitted := drafting.omitted

/-- Generate the code of a schema. -/
def generate (schema : Schema) (options : Options) : Except GenerationFault Generation :=
  (draft schema options).map (·.settle options)

end DataBinding
