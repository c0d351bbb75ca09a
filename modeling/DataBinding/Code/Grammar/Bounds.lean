/-
The grammar of bounds and of generic parameters: what a type has to be,
and the names that a construct is generic in. Parentheses after a trait
hold the types of a call; they belong to bounds alone.
-/
import DataBinding.Code.Grammar.Paths

namespace DataBinding.Code

variable (g : Grammar)

-- ============================================================ signatures

/-- The result of a call. -/
def callResult (allowSum : Bool) : Parse Tokens :=
  readIf (atSign "->") (do return (← sign "->") ++ (← g.typeTokens allowSum))

/-- The types between the brackets of a call signature, and its result. -/
def signature : Parse Tokens := do
  let inputs ← inGroup .round (commaList atEnd (g.typeTokens true))
  return inputs ++ (← callResult g false)

-- ==================================================== generic parameters

/-- The bounds of a lifetime, up to a place where a test holds. -/
def lifetimeBounds (stop : Ahead) : Parse Tokens := do
  readBounds ((← get).length + 1)
where
  readBounds : Nat → Parse Tokens
    | 0 => failure
    | rounds + 1 => do
      if ← sees stop then return []
      let first ← lifetime
      if ← sees (atSign "+") then
        let plus ← sign "+"
        return first ++ plus ++ (← readBounds rounds)
      else return first

/-- Bounds behind a colon; without any the colon is dropped. -/
def colonBounds (bounds : Parse Tokens) : Parse Tokens := do
  if ← sees (atSign ":") then
    let colon ← sign ":"
    let found ← bounds
    return if found.isEmpty then [] else colon ++ found
  else return []

/-- The default of a constant parameter. -/
def constDefault : Parse Tokens := do
  if ← sees atName then ident else constArgument g

/-- A generic parameter, and whether it is a lifetime. -/
def genericParameter : Parse (Bool × Tokens) := do
  let attributes ← outerAttributes g
  if ← sees atLifetime then
    let name ← lifetime
    let bounds ← colonBounds (lifetimeBounds (anyOf [atEnd, atSign ",", atSign ">"]))
    return (true, attributes ++ name ++ bounds)
  else if ← sees (atWord "const") then
    let opening ← keyword "const"
    let name ← ident
    let colon ← sign ":"
    let type ← g.typeTokens true
    let value ← readIf (atSign "=") (do return (← sign "=") ++ (← constDefault g))
    return (false, attributes ++ opening ++ name ++ colon ++ type ++ value)
  else
    let name ← ident
    let bounds ← colonBounds
      (boundsUntil g (anyOf [atEnd, atSign ",", atSign ">", atSign "="]))
    let value ← readIf (atSign "=") (do return (← sign "=") ++ (← g.typeTokens true))
    return (false, attributes ++ name ++ bounds ++ value)

/-- The parameters that bind the names of one type or bound. -/
def binder : Parse Tokens := do
  let lead ← keyword "for"
  let opening ← sign "<"
  let params ← commaList (atSign ">") (do return (← genericParameter g).2)
  return lead ++ opening ++ params ++ (← sign ">")

/-- Where generic parameters begin rather than a qualified path. -/
def atParameters : Ahead := fun ahead =>
  atSign "<" ahead
    && (afterTrees 1 (anyOf [atSign ">", atSign "#", atWord "const"]) ahead
      || (afterTrees 1 (anyOf [atLifetime, atName]) ahead
        && afterTrees 2 (anyOf [atSign ">", atSign ",", atColon, atSign "="]) ahead))

-- =============================================================== bounds

inductive BoundKind
  | lifetime
  | trait
  /-- The names that a hidden type captures. -/
  | capture

structure BoundText where
  tokens : Tokens
  kind : BoundKind

/-- The names that a hidden type captures, lifetimes first. -/
def capture : Parse Tokens := do
  let opening ← keyword "use"
  let angle ← sign "<"
  let params ← commaEntries (atSign ">") do
    if ← sees atLifetime then return (true, ← lifetime)
    else if ← sees (atWord "Self") then return (false, ← anyWord)
    else return (false, ← ident)
  return opening ++ angle ++ frontFirst params ++ (← sign ">")

/-- The path of a trait; the types of a call take the place of its last
arguments, if there are none, and of the separator before them. -/
def traitPath : Parse Tokens := do
  let found ← path g false
  let spaced := (← sees (atSign "::")) && (← sees (afterTrees 2 (atGroup .round)))
  if found.endsBare && (spaced || (← sees (atGroup .round))) then
    let _ ← optionalSign "::"
    return found.front ++ (← signature g)
  else return found.tokens

/-- A trait as a bound. A question mark and a binder exclude each other.
With a `const`, where the flag allows one, there is nothing better than the
bound as it stands. -/
def traitBound (allowConst : Bool) : Parse (Option Tokens) := do
  let outer ← readIf (atWord "for") (binder g)
  let constness ←
    if ← sees (atGroup .square) then inGroup .square (keyword "const")
    else optionalWord "const"
  if !constness.isEmpty && !allowConst then failure
  let modifier ← optionalSign "?"
  if !modifier.isEmpty && (!outer.isEmpty || (← sees (atWord "for"))) then failure
  let path ← traitPath g
  return if constness.isEmpty then some (outer ++ modifier ++ path) else none

/-- One bound. -/
def readBound (allowCapture allowConst : Bool) : Parse BoundText := do
  if ← sees atLifetime then return { tokens := ← lifetime, kind := .lifetime }
  else if ← sees (atWord "use") then
    let found ← capture
    if allowCapture then return { tokens := found, kind := .capture } else failure
  else
    let found ← orAsWritten do
      if ← sees (atGroup .round) then
        return (← insideGroup .round (traitBound g allowConst)).map fun tokens => [round tokens]
      else traitBound g allowConst
    return { tokens := found, kind := .trait }

/-- What may begin a further bound. -/
def atBound (allowConst : Bool) : Ahead := fun ahead =>
  anyOf [atAnyWord, atSign "::", atSign "?", atLifetime, atGroup .round] ahead
    || (allowConst && atGroup .square ahead)

/-- The bounds after a plus; there may be none. -/
def furtherBounds (allowCapture allowConst : Bool) : Nat → Parse (List BoundText)
  | 0 => failure
  | rounds + 1 => do
    if ← sees (atBound allowConst) then
      let first ← readBound g allowCapture allowConst
      if ← sees (atSign "+") then
        let plus ← sign "+"
        let rest ← furtherBounds allowCapture allowConst rounds
        return { first with tokens := first.tokens ++ plus } :: rest
      else return [first]
    else return []

/-- A sum of bounds with a trait in it; without the flag for sums it is one
bound. -/
def traitSum (allowSum allowCapture allowConst : Bool) : Parse Tokens := do
  let first ← readBound g allowCapture allowConst
  let bounds ←
    if allowSum && (← sees (atSign "+")) then
      let plus ← sign "+"
      let rest ← furtherBounds g allowCapture allowConst ((← get).length + 1)
      pure ({ first with tokens := first.tokens ++ plus } :: rest)
    else pure [first]
  if bounds.any fun bound => bound.kind matches .trait then
    return bounds.flatMap (·.tokens)
  else failure

-- =============================================================== where

/-- Generic parameters in their brackets; without any the brackets are
dropped. -/
def parameters : Parse Tokens := do
  if ← sees (atSign "<") then
    let opening ← sign "<"
    let entries ← commaEntries (atSign ">") do
      let hidden ← sees (afterAttributes (atWord "_"))
      if hidden then return (false, (← outerAttributes g) ++ (← anyWord)) else genericParameter g
    let closing ← sign ">"
    return if entries.isEmpty then [] else opening ++ frontFirst entries ++ closing
  else return []

/-- Where a list of conditions ends. -/
def atWhereEnd : Ahead :=
  anyOf [atEnd, atGroup .curly, atSign ",", atSign ";", atColon, atSign "="]

/-- One condition: bounds of a lifetime or of a type. -/
def condition : Parse Tokens := do
  if ← sees (fun ahead => atLifetime ahead && afterTrees 1 (atSign ":") ahead) then
    let name ← lifetime
    let colon ← sign ":"
    return name ++ colon ++ (← lifetimeBounds (anyOf [atWhereEnd, atSign ":"]))
  else
    let outer ← readIf (atWord "for") (binder g)
    let type ← g.typeTokens true
    let colon ← sign ":"
    return outer ++ type ++ colon ++ (← boundsUntil g atWhereEnd)

/-- Conditions on what a construct is generic in; without any the word
before them is dropped. -/
def whereClause : Parse Tokens := do
  if ← sees (atWord "where") then
    let opening ← keyword "where"
    if ← sees atParameters then failure
    let conditions ← readConditions ((← get).length + 1)
    return if conditions.isEmpty then [] else opening ++ conditions
  else return []
where
  readConditions : Nat → Parse Tokens
    | 0 => failure
    | rounds + 1 => do
      if ← sees atWhereEnd then return []
      let first ← condition g
      if ← sees (atSign ",") then
        let comma ← sign ","
        return first ++ comma ++ (← readConditions rounds)
      else return first

end DataBinding.Code
