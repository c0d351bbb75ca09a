/-
The grammar of patterns: literals and ranges of them, paths, names with an
optional subpattern, borrows, tuples, slices and structures, and
alternatives of all these. A range without one of its ends has to be
bracketed inside a slice.
-/
import DataBinding.Code.Grammar.Types

namespace DataBinding.Code

variable (g : Grammar)

/-- A bar between alternatives. -/
def atBar : Ahead := butNot (atSign "|") (anyOf [atSign "||", atSign "|="])

/-- Alternatives, with an optional bar before the first. -/
def alternatives : Parse PatternText := do
  let lead ← optionalSign "|"
  let first ← g.pattern
  if lead.isEmpty && !(← sees atBar) then return first
  else
    let more ← readWhile atBar (do return (← sign "|") ++ (← g.pattern).tokens)
    return { tokens := lead ++ first.tokens ++ more }

def alternativeTokens : Parse Tokens := do return (← alternatives g).tokens

-- =============================================================== ranges

/-- The dots of a range, and whether it has to have an end. -/
def rangeDots : Parse (Tokens × Bool) := do
  if ← sees (atSign "..=") then return (← sign "..=", true)
  else if ← sees (atSign "...") then failure
  else return (← sign "..", false)

/-- The dots of a range inside a pattern; three dots include the end too. -/
def patternDots : Parse (Tokens × Bool) := do
  if ← sees (atSign "...") then
    let _ ← sign "..."
    return (leaves "..=", true)
  else rangeDots

/-- Where a pattern range has no end. -/
def atOpenEnd : Ahead :=
  anyOf [atEnd, atSign "|", atSign "=", atColon, atSign ",", atSign ";", atWord "if"]

/-- One end of a pattern range. -/
def rangeBound : Parse Tokens := do
  if ← sees atLiteral then literal
  else if ← sees (anyOf [atPathWord, atSign "::", atSign "<"]) then
    return (← qualifiedPath g true).1.tokens
  else if ← sees (atWord "const") then return (← keyword "const") ++ (← g.block true)
  else failure

/-- The upper end of a range; there may be none where none is needed. -/
def rangeEnd (isNeeded : Bool) : Parse Tokens := do
  if ← sees atOpenEnd then
    if isNeeded then failure else return []
  else rangeBound g

/-- A range from its dots on. -/
def rangeFromLower (lower : Tokens) : Parse PatternText := do
  let (dots, isClosed) ← patternDots
  let upper ← rangeEnd g isClosed
  return {
    tokens := lower ++ dots ++ upper
    shape := if upper.isEmpty then .openRange else .range }

/-- A range without a lower end, or the dots for all the rest. -/
def rangeToUpper : Parse PatternText := do
  let (dots, isClosed) ← rangeDots
  let upper ← rangeEnd g isClosed
  return { tokens := dots ++ upper, shape := if upper.isEmpty then .plain else .openRange }

-- =========================================================== structures

/-- A field by its name or number, and whether it is a name. -/
def fieldMember : Parse (Tokens × Bool) := do
  if ← sees atName then return (← ident, true) else return (← fieldIndex, false)

/-- One field of a structure pattern: a member and what it has to be, or a
name alone. One that is boxed stands as it is written. -/
def fieldPattern : Parse Tokens := do
  let attributes ← outerAttributes g
  if ← sees (anyOf [atWord "box", atWord "ref", atWord "mut"]) then
    let shorthand := do
      return (← optionalWord "box") ++ (← optionalWord "ref") ++ (← optionalWord "mut")
        ++ (← ident)
    let field ← if ← sees (atWord "box") then asWritten shorthand else shorthand
    return attributes ++ field
  else
    let (member, isName) ← fieldMember
    if isName && !(← sees (atSign ":")) then return attributes ++ member
    else
      let colon ← sign ":"
      return attributes ++ member ++ colon ++ (← alternativeTokens g)

/-- The fields of a structure pattern. Two dots, perhaps with attributes,
may stand last. -/
def structFieldPatterns : Nat → Parse Tokens
  | 0 => failure
  | rounds + 1 => do
    if ← sees atEnd then return []
    if ← sees (afterAttributes (atSign "..")) then
      return (← outerAttributes g) ++ (← sign "..")
    let first ← fieldPattern g
    if ← sees atEnd then return first
    let comma ← sign ","
    return first ++ comma ++ (← structFieldPatterns rounds)

-- ============================================================= patterns

/-- A pattern that begins with a path. -/
def pathPattern : Parse PatternText := do
  let found ← qualifiedPath g true
  if ← sees (atCall found) then return { tokens := ← macroCall found.1 }
  else if ← sees (atGroup .curly) then
    let fields ← inGroup .curly do structFieldPatterns g ((← get).length + 1)
    return { tokens := found.1.tokens ++ fields }
  else if ← sees (atGroup .round) then
    let items ← inGroup .round (commaList atEnd (alternativeTokens g))
    return { tokens := found.1.tokens ++ items }
  else if ← sees (atSign "..") then rangeFromLower g found.1.tokens
  else return { tokens := found.1.tokens }

/-- Where a path pattern begins rather than a name. -/
def atPathPattern : Ahead := fun ahead =>
  (atName ahead
      && afterTrees 1
          (anyOf [atSign "::", atSign "!", atGroup .curly, atGroup .round, atSign ".."]) ahead)
    || (atWord "self" ahead && afterTrees 1 (atSign "::") ahead)
    || anyOf [atSign "::", atSign "<", atWord "Self", atWord "super", atWord "crate"] ahead

/-- An item of a slice: no range without one of its ends. -/
def sliceItem : Parse Tokens := do
  let item ← alternatives g
  if item.shape = .openRange then failure else return item.tokens

/-- A pattern without alternatives. -/
def readPattern : Parse PatternText := do
  if ← sees atPathPattern then pathPattern g
  else if ← sees (atWord "_") then return { tokens := ← anyWord }
  else if ← sees (atWord "box") then
    let boxed ← asWritten do
      let _ ← keyword "box"
      g.pattern
    return { tokens := boxed, shape := .asWritten }
  else if ← sees (anyOf [atLiteral, atWord "const"]) then
    let first ← rangeBound g
    if ← sees (atSign "..") then rangeFromLower g first else return { tokens := first }
  else if ← sees (anyOf [atWord "ref", atWord "mut", atWord "self", atName]) then
    let byRef ← optionalWord "ref"
    let mutability ← optionalWord "mut"
    let name ← if ← sees (atWord "self") then anyWord else ident
    let inner ← readIf (atSign "@") (do return (← sign "@") ++ (← g.pattern).tokens)
    return { tokens := byRef ++ mutability ++ name ++ inner }
  else if ← sees (atSign "&") then
    let borrow ← sign "&"
    let mutability ← optionalWord "mut"
    return { tokens := borrow ++ mutability ++ (← g.pattern).tokens }
  else if ← sees (atGroup .round) then
    return { tokens := ← inGroup .round (commaList atEnd (alternativeTokens g)) }
  else if ← sees (atGroup .square) then
    return { tokens := ← inGroup .square (commaList atEnd (sliceItem g)) }
  else if ← sees (atSign "..") then rangeToUpper g
  else failure

end DataBinding.Code
