/-
Tables of TOML while they are read. A table may be written under its own
header, come about because a header or a dotted key runs through it, or
stand for the last entry of an array of tables. What may still be added
depends on that: nothing is defined twice, a dotted key never reaches into
a table with a header of its own, and what is written as a value is
closed.
-/
import DataBinding.Document

namespace DataBinding.Toml

/-- How a table came about. -/
inductive Origin
  /-- Under its own header. -/
  | header
  /-- On the way to a table under a header. -/
  | passed
  /-- On the way of a dotted key. -/
  | dotted
  deriving DecidableEq

inductive Item
  /-- A value is closed. -/
  | value (value : Document)
  | table (origin : Origin) (entries : List (String × Item))
  /-- An array of tables; the last one is open. -/
  | array (closed : List (List (String × Item))) (last : List (String × Item))

abbrev Entries := List (String × Item)

/-- What becomes of a table's entries, unless that is not allowed. -/
abbrev Change := Entries → Option Entries

/-- Give a key that is there another item. -/
def replace (key : String) (item : Item) (entries : Entries) : Entries :=
  entries.map fun entry => if entry.1 = key then (key, item) else entry

-- ============================================================ additions

/-- Add an entry under a key that is free. -/
def addValue (key : String) (value : Document) : Change := fun entries =>
  match entries.lookup key with
  | some _ => none
  | none => some (entries ++ [(key, .value value)])

/-- Open a table under its header. A table that headers only ran through
takes it; any other is there already. -/
def openTable (key : String) : Change := fun entries =>
  match entries.lookup key with
  | none => some (entries ++ [(key, .table .header [])])
  | some (.table .passed inner) => some (replace key (.table .header inner) entries)
  | some _ => none

/-- Open a further table of an array. -/
def openArrayTable (key : String) : Change := fun entries =>
  match entries.lookup key with
  | none => some (entries ++ [(key, .array [] [])])
  | some (.array closed last) => some (replace key (.array (closed ++ [last]) []) entries)
  | some _ => none

-- ============================================================== descent

/-- Change the table that a path of keys leads to. Missing tables on the
way come about; a dotted key may not run through a table with a header or
an array. -/
def changeAt (isDotted : Bool) : List String → Change → Change
  | [], change, entries => change entries
  | key :: path, change, entries =>
    match entries.lookup key with
    | none =>
      (changeAt isDotted path change []).map fun inner =>
        entries ++ [(key, .table (if isDotted then .dotted else .passed) inner)]
    | some (.table origin inner) =>
      if isDotted ∧ origin = .header then none
      else
        (changeAt isDotted path change inner).map fun inner =>
          replace key (.table origin inner) entries
    | some (.array closed last) =>
      if isDotted then none
      else
        (changeAt isDotted path change last).map fun last =>
          replace key (.array closed last) entries
    | some (.value _) => none

/-- Add a value under a dotted key. -/
def addAt (keys : List String) (value : Document) : Change := fun entries =>
  match keys.getLast? with
  | some key => changeAt true keys.dropLast (addValue key value) entries
  | none => none

-- ============================================================ documents

mutual

def Item.document : Item → Document
  | .value value => value
  | .table _ entries => .record (entriesDocument entries)
  | .array closed last => .list (tablesDocument closed ++ [.record (entriesDocument last)])

def entriesDocument : List (String × Item) → List (String × Document)
  | [] => []
  | (key, item) :: rest => (key, item.document) :: entriesDocument rest

def tablesDocument : List (List (String × Item)) → List Document
  | [] => []
  | entries :: rest => .record (entriesDocument entries) :: tablesDocument rest

end

end DataBinding.Toml
