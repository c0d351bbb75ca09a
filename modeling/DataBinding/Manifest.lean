/-
Manifests: the settings of a generator run and the schema it is about, in
one TOML text. Each of the three sections may be missing, and no other is
allowed.
-/
import DataBinding.Declaration.Document
import DataBinding.Toml.Read

namespace DataBinding

structure Manifest where
  options : Options := {}
  schema : Schema := {}

namespace Manifest

open Document

/-- The sections of a manifest. -/
def sections : List String := ["options", "enums", "types"]

def ofDocument? : Document → Decoder Manifest
  | .record entries => do
    if entries.any fun entry => !sections.contains entry.1 then failure
    else
      return {
        options := ← optional entries "options" {}
        schema :=
          { enums := ← optional entries "enums" []
            types := ← optional entries "types" [] } }
  | _ => failure

/-- The manifest that a text holds. -/
def read? (text : String) : Option Manifest := do
  let document ← Toml.read? text
  (ofDocument? document).run .toml

end Manifest

end DataBinding
