/-
The grammar of statements and blocks, and with it the whole grammar. A
statement of a block ends with a semicolon, except the last one and those
that end with their own block.
-/
import DataBinding.Code.Grammar.Items

namespace DataBinding.Code

variable (g : Grammar)

-- =========================================================== statements

/-- Whether a piece of code ends with a curly bracket. -/
def endsCurly (tokens : Tokens) : Bool :=
  match tokens.getLast? with
  | some (.group .curly _) => true
  | _ => false

/-- A binding; what runs when its pattern fails may follow the value. -/
def binding : Parse Tokens := do
  let opening ← keyword "let"
  let pattern := (← g.pattern).tokens
  let type ← readIf (atSign ":") (do return (← sign ":") ++ (← g.typeTokens true))
  let value ← readIf (atSign "=") do
    let equals ← sign "="
    let value ← g.exprTokens
    let otherwise ←
      if endsCurly value then pure []
      else readIf (atWord "else") (do return (← keyword "else") ++ (← g.block false))
    return equals ++ value ++ otherwise
  return opening ++ pattern ++ type ++ value ++ (← sign ";")

/-- Where a macro call in curly brackets is a statement of its own. -/
def atCurlyMacro : Ahead :=
  afterPlainPath fun rest =>
    atSign "!" rest && afterTrees 1 (atGroup .curly) rest
      && !afterTrees 2 (anyOf [atDot, atSign "?"]) rest

/-- A statement, and whether a semicolon is still missing at its end. -/
def statementWithin (needsSemicolon : Bool) : Parse (Tokens × Bool) := do
  let before ← get
  let attributes ← outerAttributes g
  if ← sees atCurlyMacro then
    let call := (← plainPath) ++ (← sign "!") ++ (← anyGroup)
    return (attributes ++ call ++ (← optionalSign ";"), false)
  else if ← sees (atWord "let") then return (attributes ++ (← binding g), false)
  else if ← sees atItem then
    match ← item g with
    | some tokens => return (attributes ++ tokens, false)
    | none => return (← writtenSince before, false)
  else
    let found ← readStatementExpr g
    let semicolon ← optionalSign ";"
    let mayEnd := found.shape = .block || found.shape = .curlyMacro
    if semicolon.isEmpty && !mayEnd && needsSemicolon then failure
    else return ((found.behind attributes).tokens ++ semicolon, semicolon.isEmpty && !mayEnd)

/-- The statements of a block. -/
def statements : Nat → Parse Tokens
  | 0 => failure
  | rounds + 1 => do
    let empty ← readWhile (atSign ";") (sign ";")
    if ← sees atEnd then return empty
    let (tokens, isOpen) ← statementWithin g false
    if ← sees atEnd then return empty ++ tokens
    else if isOpen then failure
    else return empty ++ tokens ++ (← statements rounds)

/-- A block; the flag allows attributes at its beginning. -/
def readBlock (allowInner : Bool) : Parse Tokens :=
  inGroup .curly do
    let inner ← if allowInner then innerAttributes g else pure []
    return inner ++ (← statements g ((← get).length + 1))

-- ========================================================== the grammar

/-- The grammar with one more level of nesting. -/
def Grammar.deepen (g : Grammar) : Grammar where
  type := readType g
  bound := do return (← readBound g false true).tokens
  expr := readExpr g
  unary := readUnary g
  climb := readClimb g
  statementExpr := readStatementExpr g
  pattern := readPattern g
  block := readBlock g
  item := readItem g

/-- The grammar with a number of levels. -/
def Grammar.ofDepth : Nat → Grammar
  | 0 => .flat
  | depth + 1 => (ofDepth depth).deepen

/-- Read a whole text by one construct of the grammar. -/
def readWhole (text : String) (construct : Grammar → Parse Tokens) : Option Tokens :=
  match readLexemes text with
  | none => none
  | some lexemes =>
    match (construct (.ofDepth (2 * lexemeCount lexemes + 2))).run lexemes with
    | some (tokens, []) => some tokens
    | _ => none

def readPathText (text : String) : Option Tokens :=
  readWhole text fun g => do return (← path g false).tokens

def readTypeText (text : String) : Option Tokens :=
  readWhole text fun g => g.typeTokens true

/-- A statement that is written without its semicolon. -/
def readStatementText (text : String) : Option Tokens :=
  readWhole (text ++ ";") fun g => do return (← statementWithin g true).1

end DataBinding.Code
