/-
The program: it takes its arguments from the command line and the path of
the manifest perhaps from the environment, and works on the disk.
-/
import DataBinding.CommandLine.Run

namespace DataBinding.CommandLine

/-- What the system has against a use of a file, in this library's terms. -/
def systemFault : IO.Error → SystemFault
  | .noFileOrDirectory .. => .notFound
  | .alreadyExists .. => .alreadyThere
  | .inappropriateType .. => .notDirectory
  | fault => .other (toString fault)

/-- The files on the disk. -/
def disk : FileAccess IO where
  read path := do
    try
      let bytes ← IO.FS.readBinFile path
      match String.fromUTF8? bytes with
      | some text => return .ok text
      | none => return .error .notText
    catch fault => return .error (systemFault fault)
  makeDirectory path := do
    try
      IO.FS.createDirAll path
      return .ok ()
    catch fault => return .error (systemFault fault)
  write directory fileName text := do
    try
      IO.FS.writeFile (directory ++ "/" ++ fileName) text
      return .ok ()
    catch fault => return .error (systemFault fault)

def usage : String :=
  "usage: bindery [-m PATH] check | inspect [--type NAME] | generate -o DIR"

end DataBinding.CommandLine

open DataBinding.CommandLine in
def main (args : List String) : IO UInt32 := do
  match request? (← IO.getEnv "BINDERY_MANIFEST") args with
  | none =>
    IO.eprintln usage
    return 2
  | some request =>
    let outcome ← run disk request
    IO.print outcome.output
    IO.eprint outcome.problems
    return outcome.exit.toUInt32
