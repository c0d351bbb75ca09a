/-
The settings of one generator run.
-/
namespace DataBinding

/-- Where the paths of emitted code begin. -/
structure CodePaths where
  /-- The path under which declared namespaces live in the consuming code. -/
  rootPath : String := "crate"
  /-- The path of the runtime as seen from generated code. -/
  runtimePath : String := "::bindery"
  deriving DecidableEq

structure Options extends CodePaths where
  /-- From this many arms on, a selection by name is a table. -/
  branchThreshold : Nat := 3
  /-- Whether a unit begins with the banner of generated files. -/
  header : Bool := true
  deriving DecidableEq

/-- Whether a selection among `count` names is a table. -/
def Options.usesBranchTable (options : Options) (count : Nat) : Bool :=
  options.branchThreshold ≤ count

end DataBinding
