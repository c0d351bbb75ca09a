/-
Documents: the neutral tree that structured text is read into and written
from. Declarations arrive as documents whatever notation they were written
in, and answers leave as documents.
-/
namespace DataBinding

inductive Document
  | null
  | bool (value : Bool)
  | int (value : Int)
  /-- A number written with a fraction or an exponent. No reading of a
  declaration accepts one, so its value is not kept. -/
  | real
  /-- A number that is too large to have a value. It may be written, but
  nothing that reads it goes on. -/
  | excess
  | text (value : String)
  | list (items : List Document)
  | record (entries : List (String × Document))
  deriving Inhabited

namespace Document

mutual

/-- What stands in a document besides lists and records, in order. -/
def leaves : Document → List Document
  | .list items => leavesOfItems items
  | .record entries => leavesOfEntries entries
  | leaf => [leaf]

def leavesOfItems : List Document → List Document
  | [] => []
  | item :: rest => leaves item ++ leavesOfItems rest

def leavesOfEntries : List (String × Document) → List Document
  | [] => []
  | (_, document) :: rest => leaves document ++ leavesOfEntries rest

end

/-- Whether a document can be passed over: every number in it has a value. -/
def isReadable (document : Document) : Bool :=
  document.leaves.all fun
    | .excess => false
    | _ => true

/-- Whether a document can be set aside to be read later: its integers are
words of 64 bits, with a sign or without. -/
def isStorable (document : Document) : Bool :=
  document.leaves.all fun
    | .excess => false
    | .int value => -9223372036854775808 ≤ value && value < 18446744073709551616
    | _ => true

end Document

end DataBinding
