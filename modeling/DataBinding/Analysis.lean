/-
One run of the analysis: the schema goes through outlining, extraction,
merging and the search for event calls, and what comes out is everything
code is emitted from. The diagnostics of the stages follow one another.
-/
import DataBinding.EventCalls
import DataBinding.Merging
import DataBinding.Options

namespace DataBinding

structure Analysis where
  schema : Schema
  options : Options
  /-- The bound types, ancestors first. -/
  types : List TypeDescriptor
  /-- The types with event calls, ancestors first. -/
  eventTypes : List EventTypeDescriptor
  enums : EnumRegistry
  diagnostics : List Diagnostic
  deriving DecidableEq

/-- Extract the members of each outlined type. -/
def extractAll (schema : Schema) (outlines : List TypeOutline) :
    Reported (List ExtractedType) :=
  let extracted := outlines.map fun outline =>
    (outline, extract schema outline (((schema.typeDecl? outline.fullName).map (·.fields)).getD []))
  { value := extracted.map fun (outline, members) => { outline, members.value with }
    diagnostics := extracted.flatMap fun (_, members) => members.diagnostics }

/-- Enter the enums of all extracted types, in the order of the types. -/
def registerAll (schema : Schema) (types : List ExtractedType) : EnumRegistry :=
  types.foldl (fun registry type => registry.registerUsed schema type.own) {}

/-- Analyse a schema. -/
def analyze (schema : Schema) (options : Options) : Except SchemaFault Analysis :=
  let outlined := outlines schema
  match outlined.value with
  | .error fault => .error fault
  | .ok found =>
    let extracted := extractAll schema found
    let merged := mergeAll schema [] extracted.value
    let events := eventTypes schema
    match events.value with
    | .error fault => .error fault
    | .ok eventTypes =>
      .ok
        { schema := schema
          options := options
          types := merged.value
          eventTypes := eventTypes
          enums := registerAll schema extracted.value
          diagnostics :=
            outlined.diagnostics ++ extracted.diagnostics ++ merged.diagnostics
              ++ events.diagnostics }

def Analysis.typeNamed? (analysis : Analysis) (fullName : String) : Option TypeDescriptor :=
  analysis.types.find? (·.fullName == fullName)

end DataBinding
