/-
What a declared type means. Blanks in it never matter. A list is written
with one of three heads; its element is a scalar, never another list. A
scalar is one of the known spellings or the name of a declared enum.

An argument of an event call is looser: what is no known value may still
be passed through unopened, unless it is borrowed, abstract or one of the
collections.
-/
import DataBinding.Category
import DataBinding.Declaration.Lookup

namespace DataBinding

open Text

structure Classified where
  category : Category
  /-- The normalised name recorded in metadata. -/
  typeFullName : String
  enumName : Option String := none
  deriving DecidableEq

def Classified.unsupported (type : String) : Classified := ⟨.unsupported, type, none⟩

/-- The scalars with a fixed spelling. -/
def knownScalar? : String → Option Classified
  | "i32" | "int" => some ⟨.int, "i32", none⟩
  | "f32" | "float" => some ⟨.float, "f32", none⟩
  | "bool" => some ⟨.bool, "bool", none⟩
  | "String" | "string" | "std::string::String" => some ⟨.string, "String", none⟩
  | "Sprite" | "bindery::Sprite" | "::bindery::Sprite" =>
    some ⟨.sprite, "bindery::Sprite", none⟩
  | _ => none

/-- An enum as a value type. -/
def Classified.ofEnum (decl : EnumDecl) : Classified :=
  ⟨if decl.isFlags then .flagsEnum else .enum, decl.fullName, some decl.fullName⟩

def classifyScalar (schema : Schema) (scope : Option String) (type : String) : Classified :=
  match knownScalar? type with
  | some known => known
  | none =>
    match schema.resolveEnum? scope type with
    | some decl => .ofEnum decl
    | none => .unsupported type

/-- The heads of list types. -/
def listHeads : List String := ["Vec<", "List<", "std::vec::Vec<"]

/-- The element of a list type: what stands between a list head and a final
closing bracket. -/
def listElement? (type : String) : Option String :=
  match listHeads.findSome? (dropLead? · type.toList) with
  | some rest =>
    match rest.reverse with
    | '>' :: element => some (String.ofList element.reverse)
    | _ => none
  | none => none

/-- The meaning of a type written inside `scope`. -/
def classify (schema : Schema) (scope : Option String) (written : String) : Classified :=
  let type := withoutBlanks written
  match listElement? type with
  | some elementType =>
    let element := classifyScalar schema scope elementType
    match element.category.listOf? with
    | some category => ⟨category, "Vec<" ++ element.typeFullName ++ ">", element.enumName⟩
    | none => .unsupported type
  | none => classifyScalar schema scope type

-- ============================================================ arguments

/-- Containers that cannot cross the event boundary. -/
def collections : List String :=
  ["BTreeMap", "BTreeSet", "Dictionary", "HashMap", "HashSet", "List", "Vec", "VecDeque"]

/-- What a type begins with when no value of it can be handed over. -/
def closedHeads : List String := ["&", "impl", "dyn", "std::collections::"]

/-- Whether a type that is no known value can be passed through unopened. -/
def isPassable (type : String) : Bool :=
  let cs := type.toList
  !cs.isEmpty && closedHeads.all (dropLead? · cs == none)
    && !collections.contains (String.ofList (lastSegment (cs.takeWhile (· != '<'))))

/-- The meaning of an argument type: its kind, its normalised name, and its
enum. -/
structure ClassifiedArgument where
  kind : ArgumentKind
  typeFullName : String
  enumName : Option String
  deriving DecidableEq

def classifyArgument (schema : Schema) (scope : Option String) (written : String) :
    ClassifiedArgument :=
  let value := classify schema scope written
  let kind : ArgumentKind :=
    match value.category with
    | .bool => .bool
    | .enum | .flagsEnum => .enum
    | .float => .float
    | .int => .int
    | .sprite => .sprite
    | .string => .string
    | .unsupported => if isPassable value.typeFullName then .custom else .unsupported
    | _ => .unsupported
  ⟨kind, value.typeFullName, value.enumName⟩

end DataBinding
