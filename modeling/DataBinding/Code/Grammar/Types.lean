/-
The grammar of types. A sum of bounds may begin with a path or, in round
brackets, with a single bound; behind a borrow or a pointer a type is no
sum unless it is bracketed.
-/
import DataBinding.Code.Grammar.Bounds

namespace DataBinding.Code

variable (g : Grammar)

/-- A type that begins with a path: the path, a macro call, or a sum. A
macro call loses the binder before it. -/
def pathType (outer : Tokens) (allowSum : Bool) : Parse TypeText := do
  let found ← qualifiedPath g false
  if found.2 then return { tokens := found.1.tokens }
  else if ← sees (atCall found) then return { tokens := ← macroCall found.1 }
  else
    let first := outer ++ found.1.tokens
    if allowSum && (← sees (atSign "+")) then
      let plus ← sign "+"
      let rest ← furtherBounds g false false ((← get).length + 1)
      return { tokens := first ++ plus ++ rest.flatMap (·.tokens) }
    else
      return { tokens := first, isSegment := outer.isEmpty && found.1.isSegment, asBound := first }

/-- The bounds after a bracketed one, each behind its plus. -/
def bracketedSum (first : Tokens) : Parse Tokens := do
  let rest ← readWhile (atSign "+") do
    return (← sign "+") ++ (← readBound g false false).tokens
  return round first :: rest

/-- The content of a bracketed type: a type, the types of a tuple, or a
bound with a question mark. -/
def roundContent : Parse (TypeText × Bool) := do
  if ← sees atEnd then return ({ tokens := [] }, false)
  else if ← sees atLifetime then return ({ tokens := ← traitSum g true false false }, false)
  else if ← sees (atSign "?") then
    match ← traitBound g false with
    | some bound => return ({ tokens := bound, asBound := bound }, true)
    | none => failure
  else
    let first ← g.type true
    if ← sees (atSign ",") then
      let comma ← sign ","
      let others ← commaList atEnd (g.typeTokens true)
      return ({ tokens := first.tokens ++ comma ++ others }, false)
    else return (first, false)

/-- A type in round brackets: a tuple, a bracketed type, or a sum that
begins with a bracketed bound. -/
def roundType (allowSum : Bool) : Parse TypeText := do
  let (inner, isBound) ← insideGroup .round (roundContent g)
  let continues ← sees (atSign "+")
  match inner.asBound with
  | some bound =>
    if isBound || (allowSum && continues) then
      let sum ← bracketedSum g bound
      return { tokens := sum, asBound := if continues then none else bound }
    else return { tokens := [round inner.tokens] }
  | none => return { tokens := [round inner.tokens] }

def squareType : Parse Tokens :=
  inGroup .square do
    let element ← g.typeTokens true
    let size ← readIf (atSign ";") (do return (← sign ";") ++ (← g.exprTokens))
    return element ++ size

/-- The lead of a foreign function: the word and the name of a convention. -/
def linkage : Parse Tokens :=
  readIf (atWord "extern") (do return (← anyWord) ++ (← readIf atString literal))

/-- The receiver of a function pointer that binds it mutably, alone or with
a type, or that has a name besides. -/
def mutableReceiver : Parse Tokens :=
  asWritten do
    if ← sees (atWord "mut") then
      let _ ← anyWord
      let _ ← keyword "self"
      if ← sees atColon then
        let _ ← sign ":"
        let _ ← g.type true
    else
      let _ ← identOrBlank
      let _ ← sign ":"
      let _ ← keyword "mut"
      let _ ← keyword "self"

/-- One parameter of a function pointer; it may have a name. -/
def pointerParameter (isFirst : Bool) : Parse Tokens := do
  let named := anyOf [atName, atWord "_"]
  let mutSelf := fun ahead => atWord "mut" ahead && afterTrees 1 (atWord "self") ahead
  let isMutable := fun ahead =>
    mutSelf ahead
      || named ahead && afterTrees 1 atColon ahead && afterTrees 2 mutSelf ahead
  if isFirst && (← sees isMutable) then mutableReceiver g
  else
    let isNamed := fun ahead =>
      (named ahead || (isFirst && atWord "self" ahead)) && afterTrees 1 atColon ahead
    let name ← readIf isNamed (do return (← anyWord) ++ (← sign ":"))
    return name ++ (← g.typeTokens true)

/-- The parameters of a function pointer. Dots for further ones stand last
and may have a name. -/
def pointerParameters (isFirst : Bool) : Nat → Parse Tokens
  | 0 => failure
  | rounds + 1 => do
    if ← sees atEnd then return []
    let attributes ← outerAttributes g
    let hasName := fun ahead =>
      anyOf [atName, atWord "_"] ahead && afterTrees 1 (atSign ":") ahead
        && afterTrees 2 (atSign "...") ahead
    if ← sees (anyOf [atSign "...", hasName]) then
      let name ← readIf hasName (do return (← anyWord) ++ (← sign ":"))
      return attributes ++ name ++ (← sign "...") ++ (← optionalSign ",")
    else
      let first ← pointerParameter g isFirst
      if ← sees atEnd then return attributes ++ first
      let comma ← sign ","
      return attributes ++ first ++ comma ++ (← pointerParameters false rounds)

def functionType : Parse Tokens := do
  let safety ← optionalWord "unsafe"
  let linkage ← linkage
  let head ← keyword "fn"
  let inputs ← inGroup .round do
    pointerParameters g true ((← get).length + 1)
  return safety ++ linkage ++ head ++ inputs ++ (← callResult g false)

/-- A type. -/
def readType (allowSum : Bool) : Parse TypeText := do
  let outer ← readIf (atWord "for") (binder g)
  if ← sees (anyOf [atWord "fn", atWord "unsafe", atWord "extern"]) then
    return { tokens := outer ++ (← functionType g) }
  else if !outer.isEmpty then
    if ← sees atPathWord then pathType g outer allowSum else failure
  else if ← sees (atGroup .round) then roundType g allowSum
  else if ← sees (anyOf [atPathWord, atSign "::", atSign "<"]) then pathType g [] allowSum
  else if ← sees (fun ahead => atWord "dyn" ahead && afterTrees 1 (atSign "*") ahead) then
    return { tokens := ← asWritten (do
      let _ ← keyword "dyn"
      let _ ← sign "*"
      traitSum g allowSum false false) }
  else if ← sees (atWord "dyn") then
    let head ← keyword "dyn"
    return { tokens := head ++ (← traitSum g allowSum false false) }
  else if ← sees (atGroup .square) then return { tokens := ← squareType g }
  else if ← sees (atSign "*") then
    let star ← sign "*"
    let mutability ← if ← sees (atWord "const") then keyword "const" else keyword "mut"
    return { tokens := star ++ mutability ++ (← g.typeTokens false) }
  else if ← sees (atSign "&") then
    let borrow ← sign "&"
    let life ← readIf atLifetime lifetime
    let mutability ← optionalWord "mut"
    return { tokens := borrow ++ life ++ mutability ++ (← g.typeTokens false) }
  else if ← sees (atSign "!") then return { tokens := ← sign "!" }
  else if ← sees (atWord "impl") then
    let head ← keyword "impl"
    return { tokens := head ++ (← traitSum g allowSum true true) }
  else if ← sees (atWord "_") then return { tokens := ← anyWord }
  else if ← sees atLifetime then return { tokens := ← traitSum g true false false }
  else failure

end DataBinding.Code
