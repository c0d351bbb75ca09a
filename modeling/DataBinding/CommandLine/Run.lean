/-
Running a command on a manifest. What a command prints, what it says about
problems and how it exits are one outcome; diagnostics come before any
fault, and the fault last.
-/
import DataBinding.CommandLine.Arguments
import DataBinding.CommandLine.Files
import DataBinding.Descriptor.Document
import DataBinding.Document.Json
import DataBinding.Generation
import DataBinding.Manifest

namespace DataBinding.CommandLine

-- =============================================================== faults

inductive CommandFault
  | unreadable (path : String) (fault : SystemFault)
  | unparsable (path : String)
  | schema (fault : SchemaFault)
  /-- The schema of a manifest whose code was to be generated. -/
  | unanalysable (path : String) (fault : SchemaFault)
  | noSuchType (typeName : String)
  | system (fault : SystemFault)
  | emission (fault : Code.EmitFault)
  deriving DecidableEq

namespace CommandFault

def message : CommandFault → String
  | .unreadable path fault => "failed to read '" ++ path ++ "': " ++ fault.message
  | .unparsable path => "failed to parse '" ++ path ++ "'"
  | .schema fault => fault.message
  | .unanalysable path _ => "cannot analyse '" ++ path ++ "'"
  | .noSuchType typeName => "no generated type named '" ++ typeName ++ "'"
  | .system fault => fault.message
  | .emission fault => fault.message

/-- What lies behind a fault. -/
def cause? : CommandFault → Option String
  | .unreadable _ fault => some fault.message
  | .unanalysable _ fault => some fault.message
  | _ => none

/-- A text with each line moved to the right. -/
def indented (text : String) : String :=
  "    " ++ String.intercalate "\n    "
    ((Text.pieces (· == '\n') text.toList).map String.ofList)

/-- A fault as it is shown. -/
def report (fault : CommandFault) : String :=
  "Error: " ++ fault.message ++ "\n"
    ++ match fault.cause? with
      | some cause => "\nCaused by:\n" ++ indented cause ++ "\n"
      | none => ""

/-- The exit code of a run that ends with a fault; an end that no command
provides for has its own. -/
def exit : CommandFault → Nat
  | .emission _ => 101
  | _ => 1

end CommandFault

-- ============================================================= outcomes

structure Outcome where
  exit : Nat := 0
  output : String := ""
  problems : String := ""
  fault : Option CommandFault := none
  deriving DecidableEq

/-- An outcome with a fault, after some problems. -/
def failed (problems : String) (fault : CommandFault) : Outcome where
  exit := fault.exit
  problems := problems ++ fault.report
  fault := some fault

def lines (texts : List String) : String := String.join (texts.map (· ++ "\n"))

/-- The diagnostics of a run, one a line. -/
def shownDiagnostics (diagnostics : List Diagnostic) : String :=
  lines (diagnostics.map Diagnostic.shown)

-- ============================================================= commands

def check (manifest : Manifest) : Outcome :=
  match analyze manifest.schema manifest.options with
  | .error fault => failed "" (.schema fault)
  | .ok analysis =>
    { exit := if hasErrors analysis.diagnostics then 1 else 0
      problems := shownDiagnostics analysis.diagnostics
      output :=
        toString analysis.types.length ++ " bindable types, "
          ++ toString analysis.eventTypes.length ++ " event types, "
          ++ toString analysis.enums.size ++ " enums, "
          ++ toString analysis.diagnostics.length ++ " diagnostics\n" }

/-- What an analysis found, as a document. -/
def inspection (analysis : Analysis) (types : List TypeDescriptor)
    (eventTypes : List EventTypeDescriptor) : Document :=
  .record
    [("types", .list (types.map TypeDescriptor.document)),
     ("event_types", .list (eventTypes.map EventTypeDescriptor.document)),
     ("enums", analysis.enums.document),
     ("diagnostics", .list (analysis.diagnostics.map Diagnostic.document))]

def inspect (manifest : Manifest) (typeName : Option String) : Outcome :=
  match analyze manifest.schema manifest.options with
  | .error fault => failed "" (.schema fault)
  | .ok analysis =>
    let shown (types : List TypeDescriptor) (eventTypes : List EventTypeDescriptor) : Outcome :=
      { output := (inspection analysis types eventTypes).json 0 ++ "\n" }
    match typeName with
    | none => shown analysis.types analysis.eventTypes
    | some name =>
      let types := (analysis.typeNamed? name).toList
      let eventTypes := analysis.eventTypes.filter (·.fullName == name)
      if types.isEmpty && eventTypes.isEmpty then failed "" (.noSuchType name)
      else shown types eventTypes

/-- The problems of a generator run: its diagnostics, and what it left
out. -/
def generationProblems (generation : Generation) : String :=
  shownDiagnostics generation.diagnostics
    ++ lines (generation.omitted.map fun omission =>
      "warning: '" ++ omission.typeName ++ "' omitted: " ++ omission.fault.message)

def generationSummary (generation : Generation) (out : String) : String :=
  toString generation.units.length ++ " units, "
    ++ toString generation.eventUnits.length ++ " event units, "
    ++ toString generation.indexes.length ++ " indexes -> " ++ out ++ "\n"

variable {m : Type → Type} [Monad m] (access : FileAccess m)

/-- Write files one after the other, up to the first fault. -/
def writeAll (directory : String) : List GeneratedFile → m (Except SystemFault Unit)
  | [] => return .ok ()
  | file :: rest => do
    match ← access.write directory file.fileName file.code with
    | .ok () => writeAll directory rest
    | .error fault => return .error fault

def writeGeneration (generation : Generation) (out : String) : m (Except SystemFault Unit) := do
  match ← access.makeDirectory out with
  | .ok () => writeAll access out generation.files
  | .error fault => return .error fault

def generateInto (path : String) (manifest : Manifest) (out : String) : m Outcome := do
  match generate manifest.schema manifest.options with
  | .error (.schema fault) => return failed "" (.unanalysable path fault)
  | .error (.emission fault) => return failed "" (.emission fault)
  | .ok generation =>
    let problems := generationProblems generation
    match ← writeGeneration access generation out with
    | .ok () => return { output := generationSummary generation out, problems := problems }
    | .error fault => return failed problems (.system fault)

-- ================================================================== run

/-- Run a command on the manifest at a path. -/
def runCommand (path : String) (command : Command) : m Outcome := do
  match ← access.read path with
  | .error fault => return failed "" (.unreadable path fault)
  | .ok text =>
    match Manifest.read? text with
    | none => return failed "" (.unparsable path)
    | some manifest =>
      match command with
      | .check => return check manifest
      | .inspect typeName => return inspect manifest typeName
      | .generate out => generateInto access path manifest out

/-- Name and version of the program. -/
def programVersion : String := "bindery 0.4.0"

def run : Request → m Outcome
  | .version => return { output := programVersion ++ "\n" }
  | .run path command => runCommand access path command

end DataBinding.CommandLine
