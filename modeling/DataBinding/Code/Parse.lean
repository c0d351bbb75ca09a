/-
Reading lexemes by a grammar. A reader takes lexemes off the front and
answers the tokens they are written back as; where a construct begins is
decided by looking ahead, and once begun it is not taken back.

A construct that contains others reads them through a `Grammar`, the
readers of one level of nesting less. Stacking levels closes the circle,
and twice as many levels as there are lexemes are always enough: on the
way down every second level takes at least one.
-/
import DataBinding.Code.Lexeme
import DataBinding.Code.Number

namespace DataBinding.Code

abbrev Parse := StateT (List Lexeme) Option

/-- A test of the lexemes ahead. -/
abbrev Ahead := List Lexeme → Bool

-- ========================================================= looking ahead

/-- What is left after a number of trees; a lifetime is one tree. -/
def skipTrees : Nat → List Lexeme → List Lexeme
  | 0, ahead => ahead
  | n + 1, .mark '\'' true :: .word _ :: rest => skipTrees n rest
  | n + 1, _ :: rest => skipTrees n rest
  | _ + 1, [] => []

/-- A test of what comes after a number of trees. -/
def afterTrees (n : Nat) (test : Ahead) : Ahead := fun ahead => test (skipTrees n ahead)

def anyOf (tests : List Ahead) : Ahead := fun ahead => tests.any (· ahead)

/-- One test, and not another. -/
def butNot (test exception : Ahead) : Ahead := fun ahead => test ahead && !exception ahead

/-- Whether the punctuation ahead begins with the given characters, joined
to each other. -/
def signAhead : List Char → Ahead
  | [], _ => true
  | [c], .mark symbol _ :: _ => symbol == c
  | c :: next :: more, .mark symbol joined :: rest =>
    symbol == c && joined && signAhead (next :: more) rest
  | _, _ => false

def atSign (sign : String) : Ahead := signAhead sign.toList

/-- A colon that is not half of a path separator. -/
def atColon : Ahead := butNot (atSign ":") (atSign "::")

/-- A bang that does not begin a comparison. -/
def atBang : Ahead := butNot (atSign "!") (atSign "!=")

/-- A dot that does not begin a range. -/
def atDot : Ahead := butNot (atSign ".") (atSign "..")

def atWord (word : String) : Ahead
  | .word text :: _ => text == word
  | _ => false

def atAnyWord : Ahead
  | .word _ :: _ => true
  | _ => false

/-- The words that are not names unless written raw. -/
def grammarWords : List String :=
  ["_", "abstract", "as", "async", "await", "become", "box", "break", "const", "continue",
   "crate", "do", "dyn", "else", "enum", "extern", "false", "final", "fn", "for", "if", "impl",
   "in", "let", "loop", "macro", "match", "mod", "move", "mut", "override", "priv", "pub", "ref",
   "return", "Self", "self", "static", "struct", "super", "trait", "true", "try", "type",
   "typeof", "unsafe", "unsized", "use", "virtual", "where", "while", "yield"]

def atName : Ahead
  | .word text :: _ => !grammarWords.contains text
  | _ => false

/-- The words that may stand in a path without arguments. -/
def atPathWord : Ahead :=
  anyOf [atName, atWord "super", atWord "self", atWord "Self", atWord "crate"]

def atLifetime : Ahead
  | .mark '\'' true :: .word _ :: _ => true
  | _ => false

def atGroup (bracket : Bracket) : Ahead
  | .group found _ :: _ => found == bracket
  | _ => false

def atAnyGroup : Ahead
  | .group _ _ :: _ => true
  | _ => false

/-- Whether a literal is ahead, a truth value and a negative number being
literals too. -/
def atLiteral : Ahead
  | .literal _ :: _ => true
  | .word text :: _ => text == "true" || text == "false"
  | .mark '-' _ :: .literal text :: _ => isNumber text
  | _ => false

/-- Whether a string of characters is ahead, raw or not. -/
def atString : Ahead
  | .literal text :: _ => text.toList.head?.any fun c => c == '"' || c == 'r'
  | _ => false

def atEnd : Ahead := List.isEmpty

/-- What follows a path without arguments, from one of its words on. -/
def afterPathWords : List Lexeme → Option (List Lexeme)
  | .word text :: .mark ':' true :: .mark ':' _ :: rest =>
    if atPathWord [.word text] then afterPathWords rest else none
  | .word text :: rest => if atPathWord [.word text] then some rest else none
  | _ => none

/-- A test of what follows a path without arguments. -/
def afterPlainPath (test : Ahead) : Ahead := fun ahead =>
  (afterPathWords (if atSign "::" ahead then ahead.drop 2 else ahead)).any test

/-- A test of what follows the attributes ahead. -/
def afterAttributes (test : Ahead) : Ahead
  | .mark '#' _ :: .group .square _ :: rest => afterAttributes test rest
  | ahead => test ahead

-- ============================================================== reading

/-- Whether a test holds here. -/
def sees (test : Ahead) : Parse Bool := do return test (← get)

/-- Take an operator. -/
def sign (text : String) : Parse Tokens := do
  let ahead ← get
  if atSign text ahead then
    set (ahead.drop text.length)
    return [.leaf text]
  else failure

def anyWord : Parse Tokens := do
  match ← get with
  | .word text :: rest =>
    set rest
    return [.leaf text]
  | _ => failure

def keyword (text : String) : Parse Tokens := do
  if ← sees (atWord text) then anyWord else failure

def ident : Parse Tokens := do
  if ← sees atName then anyWord else failure

/-- A name or an underscore. -/
def identOrBlank : Parse Tokens := do
  if ← sees (atWord "_") then anyWord else ident

def lifetime : Parse Tokens := do
  match ← get with
  | .mark '\'' true :: .word text :: rest =>
    set rest
    return [.leaf ("'" ++ text)]
  | _ => failure

def literal : Parse Tokens := do
  match ← get with
  | .literal text :: rest =>
    set rest
    return [.leaf text]
  | .mark '-' _ :: .literal text :: rest =>
    if isNumber text then
      set rest
      return [.leaf "-", .leaf text]
    else failure
  | .word text :: rest =>
    if text == "true" || text == "false" then
      set rest
      return [.leaf text]
    else failure
  | _ => failure

def indexToken (index : Nat) : Token := .leaf (toString index)

/-- The number of a field, written back in plain digits. -/
def fieldIndex : Parse Tokens := do
  match ← get with
  | .literal text :: rest =>
    match fieldIndex? text.toList with
    | some index =>
      set rest
      return [indexToken index]
    | none => failure
  | _ => failure

/-- Take a group and read all that it encloses. -/
def insideGroup {α : Type} (bracket : Bracket) (inner : Parse α) : Parse α := do
  match ← get with
  | .group found content :: rest =>
    if found = bracket then
      match inner.run content with
      | some (value, []) =>
        set rest
        return value
      | _ => failure
    else failure
  | _ => failure

/-- Take a group, the tokens of its content in the same brackets. -/
def inGroup (bracket : Bracket) (inner : Parse Tokens) : Parse Tokens := do
  return [.group bracket (← insideGroup bracket inner)]

/-- Take a group of any kind as it stands. -/
def anyGroup : Parse Tokens := do
  match ← get with
  | .group bracket content :: rest =>
    set rest
    return [.group bracket (rawTokens content)]
  | _ => failure

/-- Read if a test holds, else nothing. -/
def readIf (test : Ahead) (reader : Parse Tokens) : Parse Tokens := do
  if ← sees test then reader else return []

/-- Take a word if it is ahead. -/
def optionalWord (text : String) : Parse Tokens := readIf (atWord text) anyWord

/-- Take an operator if it is ahead. -/
def optionalSign (text : String) : Parse Tokens := readIf (atSign text) (sign text)

/-- Read again and again while a test holds, at most `bound` times. -/
def readWhileWithin (test : Ahead) (reader : Parse Tokens) : Nat → Parse Tokens
  | 0 => return []
  | bound + 1 => do
    if ← sees test then
      let first ← reader
      return first ++ (← readWhileWithin test reader bound)
    else return []

/-- Read again and again while a test holds. Each round has to take
something, so the lexemes ahead bound the rounds. -/
def readWhile (test : Ahead) (reader : Parse Tokens) : Parse Tokens := do
  readWhileWithin test reader ((← get).length + 1)

/-- A bound of the nestings ahead. -/
def nestingsAhead : Parse Nat := do return lexemeCount (← get) + 1

/-- Items with a sign between them, up to a place where a test holds, and
of each whether the sign follows it. The sign may stand before that place. -/
def entriesWithin {α : Type} (separator : String) (stop : Ahead) (item : Parse α) :
    Nat → Parse (List (α × Bool))
  | 0 => failure
  | bound + 1 => do
    if ← sees stop then return []
    let first ← item
    if ← sees stop then return [(first, false)]
    let _ ← sign separator
    return (first, true) :: (← entriesWithin separator stop item bound)

/-- Items with commas between them. -/
def commaEntries {α : Type} (stop : Ahead) (item : Parse α) : Parse (List (α × Bool)) := do
  entriesWithin "," stop item ((← get).length + 1)

/-- A piece of code with the sign after it, if there is one. -/
def withSign (separator : String) (entry : Tokens × Bool) : Tokens :=
  entry.1 ++ if entry.2 then [.leaf separator] else []

def commaList (stop : Ahead) (item : Parse Tokens) : Parse Tokens := do
  return (← commaEntries stop item).flatMap (withSign ",")

/-- Pieces with their commas, one after the other; where the piece before
has no comma, one is added. -/
def joinEntries (pending : Bool) : List (Tokens × Bool) → Tokens
  | [] => []
  | (tokens, comma) :: rest =>
    (if pending then [.leaf ","] else []) ++ withSign "," (tokens, comma)
      ++ joinEntries (!comma) rest

/-- Pieces of which some are to come first, such as lifetimes. -/
def frontFirst (entries : List ((Bool × Tokens) × Bool)) : Tokens :=
  let (front, others) := entries.partition (·.1.1)
  joinEntries false ((front ++ others).map fun ((_, tokens), comma) => (tokens, comma))

/-- What was read since an earlier place, as it stands. -/
def writtenSince (before : List Lexeme) : Parse Tokens := do
  return rawTokens (before.take (before.length - (← get).length))

/-- Read, and take what was read as it stands where the reader gives
nothing better. -/
def orAsWritten (reader : Parse (Option Tokens)) : Parse Tokens := do
  let before ← get
  match ← reader with
  | some tokens => return tokens
  | none => writtenSince before

/-- Read, and take what was read as it stands. -/
def asWritten {α : Type} (reader : Parse α) : Parse Tokens :=
  orAsWritten do
    let _ ← reader
    return none

-- ============================================================== grammar

/-- How an expression continues or ends, where that is more than its
operators say. -/
inductive ExprShape
  | plain
  /-- A range takes no further operator. -/
  | range
  /-- A comparison takes no further comparison. -/
  | comparison
  /-- Ends with its own block, so that no separator has to follow. -/
  | block
  /-- A macro call in curly brackets. -/
  | curlyMacro
  deriving DecidableEq

structure Expr where
  tokens : Tokens
  shape : ExprShape := .plain
  /-- It begins with a construct that takes no attributes: those in front
  of it are lost. -/
  losesAttributes : Bool := false

/-- A type, and what it may be part of. -/
structure TypeText where
  tokens : Tokens
  /-- It is one plain path segment, which may name an associated type. -/
  isSegment : Bool := false
  /-- The bound without its brackets, if the type may be one of a sum. -/
  asBound : Option Tokens := none

/-- What a pattern is, where its place asks for that. -/
inductive PatternShape
  | plain
  | range
  /-- A range without one of its ends. -/
  | openRange
  /-- Taken as it stands: attributes in front of it are lost. -/
  | asWritten
  deriving DecidableEq

structure PatternText where
  tokens : Tokens
  shape : PatternShape := .plain

/-- The readers that constructs nest. -/
structure Grammar where
  /-- A type; the flag allows a sum of bounds. -/
  type : Bool → Parse TypeText
  /-- One bound of a type parameter or an associated type. -/
  bound : Parse Tokens
  /-- An expression; the flag allows structure literals. -/
  expr : Bool → Parse Expr
  /-- An operand with its unary operators. -/
  unary : Bool → Parse Expr
  /-- What may follow an operand, from a precedence on. -/
  climb : Bool → Nat → Expr → Parse Expr
  /-- An expression in the place of a statement. -/
  statementExpr : Parse Expr
  /-- A pattern without alternatives. -/
  pattern : Parse PatternText
  /-- A block; the flag allows attributes at its beginning. -/
  block : Bool → Parse Tokens
  /-- An item of a module. -/
  item : Parse Tokens

/-- The grammar in which nothing may be nested. -/
def Grammar.flat : Grammar where
  type _ := failure
  bound := failure
  expr _ := failure
  unary _ := failure
  climb _ _ _ := failure
  statementExpr := failure
  pattern := failure
  block _ := failure
  item := failure

def Grammar.typeTokens (g : Grammar) (allowSum : Bool) : Parse Tokens := do
  return (← g.type allowSum).tokens

def Grammar.exprTokens (g : Grammar) : Parse Tokens := do return (← g.expr true).tokens

end DataBinding.Code
