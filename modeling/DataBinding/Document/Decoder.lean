/-
Reading values out of documents. A record may be written keyed, in any
order and with keys nobody asks for, or as a plain list of its fields in
order, of which a tail may be missing. A word, one of a fixed set of names,
may be written alone or as the only key of a record, with nothing under it.

Notations differ in two points, their conventions: whether such a list may
go on after the last field, and what counts as nothing under a word. A
tagged record is set aside until its tag is known, and what is set aside
is read by conventions of its own.
-/
import DataBinding.CheckedInt
import DataBinding.Document

namespace DataBinding

-- ========================================================== conventions

structure Conventions where
  /-- Whether a list may have more items than the record has fields. -/
  allowsSurplus : Bool
  /-- What counts as nothing under a word. -/
  isNothing : Document → Bool

namespace Conventions

def json : Conventions where
  allowsSurplus := false
  isNothing
    | .null => true
    | _ => false

def toml : Conventions where
  allowsSurplus := true
  isNothing
    | .list [] => true
    | .record [] => true
    | _ => false

/-- The conventions inside a tagged record, in any notation. -/
def setAside : Conventions where
  allowsSurplus := false
  isNothing
    | .null => true
    | .record [] => true
    | _ => false

end Conventions

/-- A value that is read by conventions, if what is there holds one. -/
abbrev Decoder := ReaderT Conventions Option

/-- Types whose values are written as documents and read back. -/
class Documented (α : Type) where
  toDocument : α → Document
  ofDocument? : Document → Decoder α

export Documented (toDocument ofDocument?)

namespace Document

-- ============================================================== records

/-- The entries of a record whose fields are called `names`. Other keys are
passed over. -/
def fields? (names : List String) : Document → Decoder (List (String × Document))
  | .record entries =>
    if entries.all fun entry => names.contains entry.1 || entry.2.isReadable then pure entries
    else failure
  | .list items => do
    if items.length ≤ names.length ∨ (← read).allowsSurplus then return names.zip items
    else failure
  | _ => failure

/-- A field that has to be there. -/
def required {α : Type} [Documented α] (fields : List (String × Document)) (name : String) :
    Decoder α :=
  match fields.lookup name with
  | none => failure
  | some document => ofDocument? document

/-- A field with a default. -/
def optional {α : Type} [Documented α] (fields : List (String × Document)) (name : String)
    (default : α) : Decoder α :=
  match fields.lookup name with
  | none => pure default
  | some document => ofDocument? document

-- ================================================================ words

/-- The word that a document stands for. -/
def word? : Document → Decoder String
  | .text word => pure word
  | .record [(word, under)] => do
    if (← read).isNothing under then return word else failure
  | _ => failure

/-- One of the values that have a word. -/
def named? {α : Type} (ofWord? : String → Option α) (document : Document) : Decoder α := do
  let word ← document.word?
  ofWord? word

-- ======================================================= tagged records

/-- The tag of a tagged record and the rest of it: `tag` is the key of the
tag in a keyed record, and in a list the tag comes first. -/
def tagged? (tag : String) : Document → Option (String × Document)
  | .record entries =>
    match entries.lookup tag with
    | some (.text word) => some (word, .record (entries.filter (·.1 != tag)))
    | _ => none
  | .list (.text word :: items) => some (word, .list items)
  | _ => none

/-- A tagged record, the rest of which is read as its tag says. -/
def readTagged {α : Type} (tag : String) (document : Document)
    (content : String → Document → Decoder α) : Decoder α := do
  if !document.isStorable then failure
  let (word, rest) ← document.tagged? tag
  withReader (fun _ => Conventions.setAside) (content word rest)

end Document

-- ============================================================== scalars

instance : Documented Bool where
  toDocument := .bool
  ofDocument?
    | .bool value => pure value
    | _ => failure

instance : Documented String where
  toDocument := .text
  ofDocument?
    | .text value => pure value
    | _ => failure

instance : Documented Int32 where
  toDocument value := .int value.toInt
  ofDocument?
    | .int value => int32? value
    | _ => failure

instance : Documented UInt32 where
  toDocument value := .int value.toNat
  ofDocument?
    | .int value => if 0 ≤ value then uint32? value.toNat else none
    | _ => failure

/-- Counts are words of 64 bits. -/
instance : Documented Nat where
  toDocument value := .int value
  ofDocument?
    | .int value =>
      if 0 ≤ value ∧ value < 18446744073709551616 then pure value.toNat else failure
    | _ => failure

instance {α : Type} [Documented α] : Documented (Option α) where
  toDocument
    | none => .null
    | some value => toDocument value
  ofDocument?
    | .null => pure none
    | document => some <$> ofDocument? document

instance {α : Type} [Documented α] : Documented (List α) where
  toDocument items := .list (items.map toDocument)
  ofDocument?
    | .list items => items.mapM ofDocument?
    | _ => failure

end DataBinding
