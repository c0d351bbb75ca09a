/-
The grammar of paths and attributes. A path is a sequence of segments with
generic arguments; in expressions the arguments need a `::` before them.
Among generic arguments the lifetimes are written back first.
-/
import DataBinding.Code.Parse

namespace DataBinding.Code

variable (g : Grammar)

-- =========================================================== attributes

/-- A path without arguments. -/
def plainPath : Parse Tokens := do
  let lead ← optionalSign "::"
  let segment := do if ← sees atPathWord then anyWord else failure
  let first ← segment
  return lead ++ first ++ (← readWhile (atSign "::") (do return (← sign "::") ++ (← segment)))

/-- The content of an attribute: a path, alone, with a group or with a
value, which has no attributes of its own. -/
def attributeContent : Parse Tokens := do
  let path ← if ← sees (atWord "unsafe") then anyWord else plainPath
  if ← sees atAnyGroup then return path ++ (← anyGroup)
  else if ← sees (atSign "=") then
    let equals ← sign "="
    if ← sees fun ahead => atSign "#" ahead && afterTrees 1 (atGroup .square) ahead then failure
    else return path ++ equals ++ (← g.exprTokens)
  else return path

def outerAttributes : Parse Tokens :=
  readWhile (atSign "#") do
    return (← sign "#") ++ (← inGroup .square (attributeContent g))

/-- Attributes of what encloses them. -/
def innerAttributes : Parse Tokens :=
  readWhile (fun ahead => atSign "#" ahead && afterTrees 1 (atSign "!") ahead) do
    return (← sign "#") ++ (← sign "!") ++ (← inGroup .square (attributeContent g))

-- ==================================================== generic arguments

/-- Bounds with a plus between them, up to a place where a test holds. -/
def boundsUntil (stop : Ahead) : Parse Tokens := do
  readBounds ((← get).length + 1)
where
  readBounds : Nat → Parse Tokens
    | 0 => failure
    | rounds + 1 => do
      if ← sees stop then return []
      let first ← g.bound
      if ← sees (atSign "+") then
        let plus ← sign "+"
        return first ++ plus ++ (← readBounds rounds)
      else return first

/-- A constant among generic arguments. -/
def constArgument : Parse Tokens := do
  if ← sees atLiteral then literal else g.block true

/-- One generic argument, and whether it is a lifetime. -/
def genericArgument : Parse (Bool × Tokens) := do
  if (← sees atLifetime) && !(← sees (afterTrees 1 (atSign "+"))) then
    return (true, ← lifetime)
  else if ← sees (anyOf [atLiteral, atGroup .curly]) then return (false, ← constArgument g)
  else
    let type ← g.type true
    if type.isSegment && (← sees (atSign "=")) then
      let equals ← sign "="
      let value ←
        if ← sees (anyOf [atLiteral, atGroup .curly]) then constArgument g else g.typeTokens true
      return (false, type.tokens ++ equals ++ value)
    else if type.isSegment && (← sees (atSign ":")) then
      let colon ← sign ":"
      let bounds ← boundsUntil g (anyOf [atSign ",", atSign ">"])
      return (false, type.tokens ++ colon ++ bounds)
    else return (false, type.tokens)

/-- Generic arguments in their brackets, and whether there are none. -/
def genericArguments : Parse (Tokens × Bool) := do
  let opening ← sign "<"
  let entries ← commaEntries (atSign ">") (genericArgument g)
  let closing ← sign ">"
  return (opening ++ frontFirst entries ++ closing, entries.isEmpty)

-- =============================================================== paths

/-- A segment of a path: its word, and its arguments with the separator
before them. -/
structure Segment where
  word : Tokens
  arguments : Tokens := []
  /-- The brackets hold no argument. -/
  isBare : Bool := true

/-- A path, with what decides how it may go on. -/
structure PathText where
  /-- All but the arguments of the last segment. -/
  front : Tokens
  /-- The arguments of the last segment. -/
  arguments : Tokens
  /-- No segment has brackets for arguments. -/
  isPlain : Bool
  /-- There is one segment, no leading separator and no type in front. -/
  isSegment : Bool
  /-- The last segment has no arguments. -/
  endsBare : Bool

def PathText.tokens (path : PathText) : Tokens := path.front ++ path.arguments

def segment (isExpr : Bool) : Parse Segment := do
  if ← sees (anyOf [atWord "super", atWord "self", atWord "crate", atWord "try"]) then
    return { word := ← anyWord }
  let word ← if ← sees (atWord "Self") then anyWord else ident
  let opens := butNot (atSign "<") (anyOf [atSign "<=", atSign "<<="])
  if !isExpr && (← sees opens) then
    let (arguments, isBare) ← genericArguments g
    return { word, arguments, isBare }
  else if (← sees (atSign "::")) && (← sees (afterTrees 2 (atSign "<"))) then
    let turbo ← sign "::"
    let (arguments, isBare) ← genericArguments g
    return { word, arguments := turbo ++ arguments, isBare }
  else return { word }

/-- A path with one more segment. -/
def PathText.push (path : PathText) (separator : Tokens) (segment : Segment) : PathText where
  front := path.tokens ++ separator ++ segment.word
  arguments := segment.arguments
  isPlain := path.isPlain && segment.arguments.isEmpty
  isSegment := false
  endsBare := segment.isBare

/-- The further segments of a path. Before a round bracket a separator is
left alone. -/
def moreSegments (isExpr : Bool) (path : PathText) : Nat → Parse PathText
  | 0 => return path
  | rounds + 1 => do
    if (← sees (atSign "::")) && !(← sees (afterTrees 2 (atGroup .round))) then
      let separator ← sign "::"
      let next ← segment g isExpr
      moreSegments isExpr (path.push separator next) rounds
    else return path

/-- A path from a lead on. -/
def pathFrom (isExpr : Bool) (lead : Tokens) : Parse PathText := do
  let first ← segment g isExpr
  let path : PathText := {
    front := lead ++ first.word
    arguments := first.arguments
    isPlain := first.arguments.isEmpty
    isSegment := lead.isEmpty
    endsBare := first.isBare }
  moreSegments g isExpr path ((← get).length + 1)

def path (isExpr : Bool) : Parse PathText := do pathFrom g isExpr (← optionalSign "::")

/-- A path that may begin at a type, `<T as Trait>::Item`, and whether it
does. -/
def qualifiedPath (isExpr : Bool) : Parse (PathText × Bool) := do
  if ← sees (atSign "<") then
    let opening ← sign "<"
    let self ← g.typeTokens true
    let asTrait ← readIf (atWord "as") do
      return (← keyword "as") ++ (← path g false).tokens
    let closing ← sign ">"
    let separator ← sign "::"
    let found ← pathFrom g isExpr (opening ++ self ++ asTrait ++ closing ++ separator)
    return ({ found with isPlain := false }, true)
  else return (← path g isExpr, false)

/-- Where a macro call goes on after its path. -/
def atCall (found : PathText × Bool) : Ahead := fun ahead =>
  !found.2 && found.1.isPlain && atBang ahead

/-- A macro call after its path. -/
def macroCall (path : PathText) : Parse Tokens := do
  let bang ← sign "!"
  return path.tokens ++ bang ++ (← anyGroup)

end DataBinding.Code
