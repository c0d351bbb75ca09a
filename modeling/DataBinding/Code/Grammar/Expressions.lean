/-
The grammar of expressions. An operand is an atom with what may trail it;
operators bind by precedence, comparisons are not chained, and a range
takes no further operator. Where a block follows, as after a condition, no
structure literal may begin.

Attributes belong to the operand they stand before. Before a whole
expression that is a range they belong to it, and it is bracketed to say
so.
-/
import DataBinding.Code.Grammar.Patterns

namespace DataBinding.Code

variable (g : Grammar)

-- ========================================================== precedences

/-- Assignment, the weakest operator. -/
def assignLevel : Nat := 1

def rangeLevel : Nat := 2

def compareLevel : Nat := 6

def castLevel : Nat := 13

/-- The binary operators with their precedences; a longer one comes before
its beginnings. -/
def binaryOperators : List (String × Nat) :=
  [("+=", 1), ("-=", 1), ("*=", 1), ("/=", 1), ("%=", 1), ("^=", 1), ("&=", 1), ("|=", 1),
   ("<<=", 1), (">>=", 1), ("&&", 4), ("||", 3), ("<<", 10), (">>", 10), ("==", 6), ("<=", 6),
   ("!=", 6), (">=", 6), ("+", 11), ("-", 11), ("*", 12), ("/", 12), ("%", 12), ("^", 8),
   ("&", 9), ("|", 7), ("<", 6), (">", 6)]

/-- The binary operator ahead. -/
def operatorAhead? (ahead : List Lexeme) : Option (String × Nat) :=
  binaryOperators.find? fun (text, _) => atSign text ahead

/-- A plain assignment and no arrow. -/
def atAssign : Ahead := butNot (atSign "=") (atSign "=>")

/-- How strongly what is ahead binds; nothing binds at 0. -/
def levelAhead (ahead : List Lexeme) : Nat :=
  match operatorAhead? ahead with
  | some (_, level) => level
  | none =>
    if atAssign ahead then assignLevel
    else if atSign ".." ahead then rangeLevel
    else if atWord "as" ahead then castLevel
    else 0

/-- Where a range ends without an upper bound. -/
def atRangeEnd (structs : Bool) : Ahead := fun ahead =>
  atEnd ahead || atDot ahead
    || anyOf
        (["," , ";", "?", "=>", "=", "+", "/", "%", "^", ">", "<=", "!=", "-=", "*=", "&=",
          "|=", "<<="].map atSign) ahead
    || (!structs && atGroup .curly ahead) || atWord "as" ahead

-- ============================================================ operators

/-- The right operand of an operator, with all that binds tighter. -/
def rightOperand (structs : Bool) (level : Nat) : Parse Tokens := do
  let first ← g.unary structs
  (← extend ((← get).length + 1) first).tokens |> pure
where
  extend : Nat → Expr → Parse Expr
    | 0, operand => return operand
    | rounds + 1, operand => do
      let ahead ← get
      let next := levelAhead ahead
      if level < next || (level == next && level == assignLevel) then
        let longer ← g.climb structs next operand
        if (← get).length == ahead.length then return longer
        else extend rounds longer
      else return operand

/-- A range from its dots on. -/
def rangeFrom (structs : Bool) : Parse Tokens := do
  let (dots, isClosed) ← rangeDots
  if !isClosed && (← sees (atRangeEnd structs)) then return dots
  else return dots ++ (← rightOperand g structs rangeLevel)

/-- An expression that goes on behind another. -/
def Expr.extended (left : Expr) (more : Tokens) (shape : ExprShape) : Expr where
  tokens := left.tokens ++ more
  shape := shape
  losesAttributes := left.losesAttributes && shape != .range

/-- Operators and their right operands, as long as they bind at least as
strongly as `base`. -/
def climbWithin (structs : Bool) (base : Nat) : Nat → Expr → Parse Expr
  | 0, left => return left
  | rounds + 1, left => do
    if left.shape = .range then return left
    let ahead ← get
    match operatorAhead? ahead with
    | some (text, level) =>
      if level < base then return left
      else if level == compareLevel && left.shape = .comparison then failure
      else
        let operator ← sign text
        let right ← rightOperand g structs level
        let shape := if level == compareLevel then ExprShape.comparison else .plain
        climbWithin structs base rounds (left.extended (operator ++ right) shape)
    | none =>
      if base ≤ assignLevel && atAssign ahead then
        let operator ← sign "="
        let right ← rightOperand g structs assignLevel
        climbWithin structs base rounds (left.extended (operator ++ right) .plain)
      else if base ≤ rangeLevel && atSign ".." ahead then
        let range ← rangeFrom g structs
        climbWithin structs base rounds (left.extended range .range)
      else if base ≤ castLevel && atWord "as" ahead then
        let operator ← keyword "as"
        let type ← g.typeTokens false
        climbWithin structs base rounds (left.extended (operator ++ type) .plain)
      else return left

def readClimb (structs : Bool) (base : Nat) (left : Expr) : Parse Expr := do
  climbWithin g structs base ((← get).length + 1) left

-- =========================================================== attributes

/-- An expression behind attributes. -/
def Expr.behind (attributes : Tokens) (expr : Expr) : Expr :=
  if attributes.isEmpty || expr.losesAttributes then expr
  else if expr.shape = .range then { expr with tokens := attributes ++ [round expr.tokens] }
  else { expr with tokens := attributes ++ expr.tokens }

-- ============================================================ arguments

def expressions : Parse Tokens := commaList atEnd g.exprTokens

/-- A condition or another expression before a block. -/
def head : Parse Tokens := do return (← g.expr false).tokens

-- ============================================================= trailers

/-- What follows the dot of a member: `await`, a field or a method call. -/
def memberName : Parse Tokens := do
  if ← sees (atWord "await") then anyWord
  else if ← sees atName then
    let name ← ident
    if ← sees (atSign "::") then
      let turbo ← sign "::"
      let (arguments, _) ← genericArguments g
      return name ++ turbo ++ arguments ++ (← inGroup .round (expressions g))
    else return name ++ (← readIf (atGroup .round) (inGroup .round (expressions g)))
  else fieldIndex

/-- A member from its dot on. A number with points in it is several field
numbers; after a point at its end one more member follows. -/
def member : Parse Tokens := do
  let dot ← sign "."
  match ← get with
  | .literal text :: rest =>
    match pointedIndices? text.toList with
    | some (indices, endsWithPoint) =>
      set rest
      let fields := indices.flatMap fun index => [.leaf ".", indexToken index]
      if endsWithPoint then return fields ++ dot ++ (← memberName g) else return fields
    | none => return dot ++ (← memberName g)
  | _ => return dot ++ (← memberName g)

/-- Where something trails an operand. -/
def atTrailer : Ahead := anyOf [atGroup .round, atGroup .square, atSign "?", atDot]

def trailer : Parse Tokens := do
  if ← sees (atGroup .round) then inGroup .round (expressions g)
  else if ← sees (atGroup .square) then inGroup .square g.exprTokens
  else if ← sees (atSign "?") then sign "?"
  else member g

/-- An operand with all that trails it. -/
def withTrailers (operand : Expr) : Parse Expr := do
  if operand.shape = .range then return operand
  if ← sees atTrailer then
    let tail ← readWhile atTrailer (trailer g)
    return { tokens := operand.tokens ++ tail }
  else return operand

-- ==================================================== blocks and control

/-- A condition, its block, and the branches after it. -/
def conditional : Nat → Parse Tokens
  | 0 => failure
  | rounds + 1 => do
    let opening ← keyword "if"
    let condition ← head g
    let block ← g.block false
    if ← sees (atWord "else") then
      let other ← keyword "else"
      let rest ← if ← sees (atWord "if") then conditional rounds else g.block false
      return opening ++ condition ++ block ++ other ++ rest
    else return opening ++ condition ++ block

/-- Whether an arm with such a body has to end with a comma. -/
def needsComma (shape : ExprShape) : Bool := shape != .block

def arm : Parse Tokens := do
  let attributes ← outerAttributes g
  let pattern ← alternativeTokens g
  let guardText ← readIf (atWord "if") (do return (← keyword "if") ++ (← g.exprTokens))
  let arrow ← sign "=>"
  let body ← g.statementExpr
  let comma ←
    if needsComma body.shape && !(← sees atEnd) then sign "," else optionalSign ","
  return attributes ++ pattern ++ guardText ++ arrow ++ body.tokens ++ comma

def selection : Parse Tokens := do
  let opening ← keyword "match"
  let subject ← head g
  let arms ← inGroup .curly do
    return (← innerAttributes g) ++ (← readWhile (fun ahead => !atEnd ahead) (arm g))
  return opening ++ subject ++ arms

def iteration : Parse Tokens := do
  if ← sees (atWord "while") then
    let opening ← keyword "while"
    let condition ← head g
    return opening ++ condition ++ (← g.block true)
  else if ← sees (atWord "for") then
    let opening ← keyword "for"
    let pattern ← alternativeTokens g
    let separator ← keyword "in"
    let source ← head g
    return opening ++ pattern ++ separator ++ source ++ (← g.block true)
  else
    let opening ← keyword "loop"
    return opening ++ (← g.block true)

/-- A loop or block behind its label. -/
def labeled : Parse Tokens := do
  let label ← lifetime
  let colon ← sign ":"
  if ← sees (atGroup .curly) then return label ++ colon ++ (← g.block true)
  else return label ++ colon ++ (← iteration g)

/-- Where a binder begins rather than a loop. -/
def atBinder : Ahead := fun ahead => atWord "for" ahead && afterTrees 1 atParameters ahead

/-- A word with a block of its own. -/
def atWordBlock (word : String) : Ahead := fun ahead =>
  atWord word ahead && afterTrees 1 (atGroup .curly) ahead

/-- The constructs that end with their own block. -/
def atBlockLike : Ahead :=
  anyOf [atWord "if", atWord "while", atWord "loop", atWord "match", atWord "unsafe",
    atGroup .curly, atLifetime, butNot (atWord "for") atBinder, atWordBlock "try",
    atWordBlock "const"]

def blockLike : Parse Tokens := do
  if ← sees (atWord "if") then conditional g ((← get).length + 1)
  else if ← sees (atWord "match") then selection g
  else if ← sees (anyOf [atWord "while", atWord "for", atWord "loop"]) then iteration g
  else if ← sees atLifetime then labeled g
  else if ← sees (atGroup .curly) then g.block true
  else
    let allowInner := !(← sees (atWord "try"))
    return (← anyWord) ++ (← g.block allowInner)

-- ================================================================ atoms

/-- One field of a structure literal. -/
def fieldValue : Parse Tokens := do
  let attributes ← outerAttributes g
  let (member, isName) ← fieldMember
  if isName && !(← sees (atSign ":")) then return attributes ++ member
  else
    let colon ← sign ":"
    return attributes ++ member ++ colon ++ (← g.exprTokens)

/-- The fields of a structure literal; a rest may stand last. -/
def structFields : Nat → Parse Tokens
  | 0 => failure
  | rounds + 1 => do
    if ← sees atEnd then return []
    if ← sees (atSign "..") then
      return (← sign "..") ++ (← readIf (fun ahead => !atEnd ahead) g.exprTokens)
    let first ← fieldValue g
    if ← sees atEnd then return first
    let comma ← sign ","
    return first ++ comma ++ (← structFields rounds)

/-- A path, a macro call or a structure literal. -/
def pathExpr (structs : Bool) : Parse Expr := do
  let found ← qualifiedPath g true
  if ← sees (atCall found) then
    let isCurly ← sees (afterTrees 1 (atGroup .curly))
    return { tokens := ← macroCall found.1, shape := if isCurly then .curlyMacro else .plain }
  else if structs && (← sees (atGroup .curly)) then
    let fields ← inGroup .curly do structFields g ((← get).length + 1)
    return { tokens := found.1.tokens ++ fields }
  else return { tokens := found.1.tokens }

/-- Where an operand can begin. -/
def atOperand : Ahead :=
  anyOf [butNot atAnyWord (atWord "as"), atGroup .round, atGroup .square, atGroup .curly,
    atLiteral, atSign "..", atSign "::", atLifetime, atSign "#", atBang,
    butNot (atSign "-") (anyOf [atSign "-=", atSign "->"]), butNot (atSign "*") (atSign "*="),
    butNot (atSign "|") (atSign "|="), butNot (atSign "&") (atSign "&="),
    butNot (atSign "<") (anyOf [atSign "<=", atSign "<<="])]

/-- A jump out of a loop; a labeled loop cannot be its value as it is. -/
def jumpOut (structs : Bool) : Parse Tokens := do
  let opening ← keyword "break"
  let isLoop ← sees fun ahead => atLifetime ahead && afterTrees 1 (atSign ":") ahead
  if isLoop then failure
  let label ← readIf atLifetime lifetime
  let hasValue ← sees fun ahead =>
    atOperand ahead && (structs || !atGroup .curly ahead)
  return opening ++ label ++ (← if hasValue then g.exprTokens else pure [])

/-- A parameter of a closure. -/
def closureParameter : Parse Tokens := do
  let attributes ← outerAttributes g
  let pattern ← g.pattern
  if ← sees (atSign ":") then
    let colon ← sign ":"
    return attributes ++ pattern.tokens ++ colon ++ (← g.typeTokens true)
  else if attributes.isEmpty || pattern.shape = .asWritten then return pattern.tokens
  else if pattern.shape = .plain then return attributes ++ pattern.tokens
  else return attributes ++ [round pattern.tokens]

def closure (structs : Bool) : Parse Tokens := do
  let outer ← readIf (atWord "for") (binder g)
  let constness ← optionalWord "const"
  let movability ← optionalWord "static"
  let asyncness ← optionalWord "async"
  let capture ← optionalWord "move"
  let opening ← sign "|"
  let params ← commaList (atSign "|") (closureParameter g)
  let closing ← sign "|"
  let body ←
    if ← sees (atSign "->") then
      let type ← callResult g true
      pure (type ++ (← g.block false))
    else pure (← g.expr structs).tokens
  return outer ++ constness ++ movability ++ asyncness ++ capture ++ opening ++ params
    ++ closing ++ body

def atClosure : Ahead := fun ahead =>
  anyOf [atSign "|", atWord "move", atBinder, atWord "static",
    butNot (atWord "const") (atWordBlock "const")] ahead
    || (atWord "async" ahead && afterTrees 1 (anyOf [atSign "|", atWord "move"]) ahead)

def atAsyncBlock : Ahead := fun ahead =>
  atWord "async" ahead && afterTrees 1 (anyOf [atGroup .curly, atWordBlock "move"]) ahead

/-- Items of a tuple or list; a list may instead repeat one item. -/
def squareItems : Parse Tokens :=
  inGroup .square do
    if ← sees atEnd then return []
    let first ← g.exprTokens
    if ← sees (atSign ";") then return first ++ (← sign ";") ++ (← g.exprTokens)
    else if ← sees atEnd then return first
    else return first ++ (← sign ",") ++ (← expressions g)

/-- A binding inside a condition. -/
def conditionBinding (structs : Bool) : Parse Tokens := do
  let opening ← keyword "let"
  let pattern ← alternativeTokens g
  let equals ← sign "="
  let first ← g.unary structs
  let value ← g.climb structs compareLevel first
  return opening ++ pattern ++ equals ++ value.tokens

/-- A jump that hands over to a call; it stands as it is written. -/
def tailCall : Parse Expr := do
  let call ← asWritten do
    let _ ← keyword "become"
    g.expr true
  return { tokens := call, losesAttributes := true }

def atBuiltin : Ahead := fun ahead => atWord "builtin" ahead && afterTrees 1 (atSign "#") ahead

/-- A construct of the language itself; it stands as it is written. -/
def builtin : Parse Expr := do
  let call ← asWritten do
    let _ ← anyWord
    let _ ← sign "#"
    let _ ← ident
    if ← sees (atGroup .round) then anyGroup else failure
  return { tokens := call, losesAttributes := true }

def atom (structs : Bool) : Parse Expr := do
  if ← sees atLiteral then return { tokens := ← literal }
  else if ← sees atAsyncBlock then
    let opening ← keyword "async"
    let capture ← optionalWord "move"
    return { tokens := opening ++ capture ++ (← g.block false) }
  else if ← sees (atWordBlock "try") then return { tokens := ← blockLike g, shape := .block }
  else if ← sees atClosure then return { tokens := ← closure g structs }
  else if ← sees atBuiltin then builtin
  else if ← sees (anyOf [atPathWord, atSign "::", atSign "<"]) then pathExpr g structs
  else if ← sees fun ahead =>
      atWord "try" ahead && afterTrees 1 (anyOf [atSign "!", atSign "::"]) ahead then
    pathExpr g structs
  else if ← sees (atGroup .round) then return { tokens := ← inGroup .round (expressions g) }
  else if ← sees (atWord "break") then return { tokens := ← jumpOut g structs }
  else if ← sees (atWord "continue") then
    return { tokens := (← keyword "continue") ++ (← readIf atLifetime lifetime) }
  else if ← sees (anyOf [atWord "return", atWord "yield"]) then
    return { tokens := (← anyWord) ++ (← readIf atOperand g.exprTokens) }
  else if ← sees (atWord "become") then tailCall g
  else if ← sees (atGroup .square) then return { tokens := ← squareItems g }
  else if ← sees (atWord "let") then return { tokens := ← conditionBinding g structs }
  else if ← sees atBlockLike then return { tokens := ← blockLike g, shape := .block }
  else if ← sees (atSign "..") then return { tokens := ← rangeFrom g structs, shape := .range }
  else if ← sees (atWord "_") then return { tokens := ← anyWord }
  else failure

/-- An atom with its attributes and what trails it. What stands as it is
written does so together with its attributes; a range takes none here. -/
def attributedAtom (structs : Bool) : Parse Expr := do
  let before ← get
  let attributes ← outerAttributes g
  let operand ← withTrailers g (← atom g structs)
  if attributes.isEmpty then return operand
  else if operand.losesAttributes then
    return { operand with tokens := ← writtenSince before }
  else if operand.shape = .range then failure
  else return operand.behind attributes

/-- An operand with its unary operators. -/
def readUnary (structs : Bool) : Parse Expr := do
  if ← sees (afterAttributes (atSign "&")) then
    let attributes ← outerAttributes g
    let borrow ← sign "&"
    let isRaw ← sees fun ahead =>
      atWord "raw" ahead && afterTrees 1 (anyOf [atWord "mut", atWord "const"]) ahead
    let raw ← if isRaw then (do return (← anyWord) ++ (← anyWord)) else pure []
    let mutability ← if isRaw then pure [] else optionalWord "mut"
    let operand ← g.unary structs
    return { tokens := attributes ++ borrow ++ raw ++ mutability ++ operand.tokens }
  else if ← sees (afterAttributes (anyOf [atSign "*", atSign "!", atSign "-"])) then
    let attributes ← outerAttributes g
    let operator ←
      if ← sees (atSign "*") then sign "*" else if ← sees (atSign "!") then sign "!" else sign "-"
    let operand ← g.unary structs
    return { tokens := attributes ++ operator ++ operand.tokens }
  else attributedAtom g structs

/-- An expression. -/
def readExpr (structs : Bool) : Parse Expr := do
  let first ← readUnary g structs
  readClimb g structs 0 first

/-- An expression in the place of a statement: after a construct with its
own block it only goes on with a member or a question mark. -/
def readStatementExpr : Parse Expr := do
  let attributes ← outerAttributes g
  if ← sees atBlockLike then
    let first : Expr := { tokens := ← blockLike g, shape := .block }
    if ← sees (anyOf [atDot, atSign "?"]) then
      let longer ← withTrailers g first
      readClimb g true 0 (longer.behind attributes)
    else return first.behind attributes
  else
    let first ← readUnary g true
    readClimb g true 0 (first.behind attributes)

end DataBinding.Code
