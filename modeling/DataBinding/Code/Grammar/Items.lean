/-
The grammar of items: imports, constants, functions, types and their
implementations, modules, and macros. An item that is more permissive than
its grammar has a form for, such as a function without a body, is taken as
it stands; the reader of such an item answers nothing.
-/
import DataBinding.Code.Grammar.Expressions

namespace DataBinding.Code

variable (g : Grammar)

-- =========================================================== visibility

/-- Who may use an item. Brackets that hold no scope belong to what
follows. -/
def visibility : Parse Tokens :=
  readIf (atWord "pub") do
    let opening ← keyword "pub"
    let atScope : Ahead := fun ahead =>
      match ahead with
      | .group .round [.word word] :: _ => ["crate", "self", "super"].contains word
      | .group .round (.word word :: _) :: _ => word == "in"
      | _ => false
    let scope ← readIf atScope <| inGroup .round do
      if ← sees (atWord "in") then return (← anyWord) ++ (← plainPath) else anyWord
    return opening ++ scope

/-- A body in curly brackets, with the attributes at its beginning. -/
def bodyOf (content : Parse Tokens) : Parse Tokens :=
  inGroup .curly (do return (← innerAttributes g) ++ (← content))

/-- Read again and again up to the end. -/
def readAll (reader : Parse Tokens) : Parse Tokens := readWhile (fun ahead => !atEnd ahead) reader

-- ============================================================== imports

/-- What an import names, down to a bound of nestings. Inside brackets a
name may begin at the root, where the flag allows it; there is no form for
that. -/
def importTree (allowRoot : Bool) : Nat → Parse (Option Tokens)
  | 0 => failure
  | depth + 1 => do
    if ← sees (atGroup .curly) then
      let entries ← insideGroup .curly <| commaEntries atEnd do
        let root ← if allowRoot then optionalSign "::" else pure []
        let tree ← importTree (allowRoot && root.isEmpty) depth
        return if root.isEmpty then tree else none
      let trees := entries.mapM fun ((tree, comma) : Option Tokens × Bool) =>
        tree.map fun tokens => withSign "," (tokens, comma)
      return trees.map fun trees => [curly trees.flatten]
    else if ← sees (atSign "*") then return some (← sign "*")
    else if ← sees (butNot (anyOf [atPathWord, atWord "try"]) (atWord "Self")) then
      let name ← anyWord
      if ← sees (atSign "::") then
        let separator ← sign "::"
        return (← importTree false depth).map (name ++ separator ++ ·)
      else if ← sees (atWord "as") then return some (name ++ (← anyWord) ++ (← identOrBlank))
      else return some name
    else failure

/-- An import, from its word on. -/
def importItem (scope : Tokens) : Parse (Option Tokens) := do
  let opening ← keyword "use"
  let lead ← optionalSign "::"
  let tree ← importTree lead.isEmpty (← nestingsAhead)
  let semicolon ← sign ";"
  return tree.map fun tokens => scope ++ opening ++ lead ++ tokens ++ semicolon

/-- An import of a whole library, from the word after `extern` on. -/
def libraryImport (opening : Tokens) : Parse Tokens := do
  let kind ← keyword "crate"
  let name ← if ← sees (atWord "self") then anyWord else ident
  let newName ← readIf (atWord "as") (do return (← anyWord) ++ (← identOrBlank))
  return opening ++ kind ++ name ++ newName ++ (← sign ";")

-- ============================================================ functions

/-- A word that may be left out. -/
def afterWord (word : String) (ahead : List Lexeme) : List Lexeme :=
  if atWord word ahead then ahead.drop 1 else ahead

/-- Where the head of a function begins; among foreign items it may be
marked safe. -/
def atFunction (allowSafe : Bool) : Ahead := fun ahead =>
  let rest := afterWord "async" (afterWord "const" ahead)
  let rest :=
    if allowSafe && atWord "safe" rest then rest.drop 1 else afterWord "unsafe" rest
  if atWord "extern" rest then
    afterTrees (if atString (rest.drop 1) then 2 else 1) (atWord "fn") rest
  else atWord "fn" rest

/-- The first parameter of a method. -/
def receiver : Parse Tokens := do
  let borrow ← optionalSign "&"
  let life ← if borrow.isEmpty then pure [] else readIf atLifetime lifetime
  let mutability ← optionalWord "mut"
  let self ← keyword "self"
  let type ←
    if borrow.isEmpty then
      readIf (atSign ":") (do return (← sign ":") ++ (← g.typeTokens true))
    else pure []
  return borrow ++ life ++ mutability ++ self ++ type

/-- A parameter with its type. A type with arguments may stand alone: the
parameter has no name then. Dots in the place of a type stand for further
arguments; the answer says so. -/
def namedParameter : Parse (Tokens × Bool) := do
  if ← sees (fun ahead => atName ahead && afterTrees 1 (atSign "<") ahead) then
    return (leaves "_ :" ++ (← g.typeTokens true), false)
  else
    let pattern ← g.pattern
    let colon ← sign ":"
    if ← sees (atSign "...") then return (pattern.tokens ++ colon ++ (← sign "..."), true)
    else return (pattern.tokens ++ colon ++ (← g.typeTokens true), false)

/-- The parameters of a function. Only the first may be a receiver, and
dots for further arguments stand last. -/
def functionParameters (isFirst : Bool) : Nat → Parse Tokens
  | 0 => failure
  | rounds + 1 => do
    if ← sees atEnd then return []
    let attributes ← outerAttributes g
    if ← sees (atSign "...") then
      return attributes ++ (← sign "...") ++ (← optionalSign ",")
    let isReceiver := ((receiver g).run (← get)).isSome
    if isReceiver && !isFirst then failure
    let (parameter, isLast) ←
      if isReceiver then (do return (← receiver g, false)) else namedParameter g
    if isLast then return attributes ++ parameter ++ (← optionalSign ",")
    if ← sees atEnd then return attributes ++ parameter
    let comma ← sign ","
    return attributes ++ parameter ++ comma ++ (← functionParameters false rounds)

/-- The head of a function, and whether it is marked safe. -/
def functionHead (allowSafe : Bool) : Parse (Tokens × Bool) := do
  let constness ← optionalWord "const"
  let asyncness ← optionalWord "async"
  let safety ← optionalWord "unsafe"
  let safe ← if allowSafe && safety.isEmpty then optionalWord "safe" else pure []
  let linkage ← linkage
  let opening ← keyword "fn"
  let name ← ident
  let generics ← parameters g
  let inputs ← inGroup .round do
    functionParameters g true ((← get).length + 1)
  let output ← callResult g true
  let conditions ← whereClause g
  return (constness ++ asyncness ++ safety ++ safe ++ linkage ++ opening ++ name ++ generics
    ++ inputs ++ output ++ conditions, !safe.isEmpty)

/-- A function, from its head on. Without a body there is no form for it. -/
def functionItem (lead : Tokens) : Parse (Option Tokens) := do
  let (head, _) ← functionHead g false
  if ← sees (atSign ";") then
    let _ ← sign ";"
    return none
  else return some (lead ++ head ++ (← g.block true))

-- ============================================================ constants

/-- A static value, from its word on. Without a type or a value there is
no form for it. -/
def staticItem (scope : Tokens) : Parse (Option Tokens) := do
  let opening ← keyword "static"
  let mutability ← optionalWord "mut"
  let name ← ident
  if ← sees (atSign "=") then
    let _ ← sign "="
    let _ ← g.expr true
    let _ ← sign ";"
    return none
  else
    let colon ← sign ":"
    let type ← g.typeTokens true
    if ← sees (atSign ";") then
      let _ ← sign ";"
      return none
    else
      let equals ← sign "="
      let value ← g.exprTokens
      return some (scope ++ opening ++ mutability ++ name ++ colon ++ type ++ equals ++ value
        ++ (← sign ";"))

/-- A constant, from its word on; it may be left without a value where the
flag says so. A generic one has no form. -/
def constItem (lead : Tokens) (mayBeOpen : Bool) : Parse (Option Tokens) := do
  let opening ← keyword "const"
  let name ← identOrBlank
  let isGeneric ← sees (atSign "<")
  let _ ← parameters g
  let colon ← sign ":"
  let type ← g.typeTokens true
  let value ← readIf (atSign "=") (do return (← sign "=") ++ (← g.exprTokens))
  let isConditional ← sees (atWord "where")
  let _ ← whereClause g
  let semicolon ← sign ";"
  if isGeneric || isConditional || (value.isEmpty && !mayBeOpen) then return none
  else return some (lead ++ opening ++ name ++ colon ++ type ++ value ++ semicolon)

/-- Where the conditions of a type stand: before its definition or after. -/
inductive WherePlace
  | before
  | after
  | anywhere
  deriving DecidableEq

/-- A named type. -/
structure NamedType where
  front : Tokens
  bounds : Tokens
  hasColon : Bool
  definition : Tokens
  conditions : Tokens
  semicolon : Tokens

/-- A named type, from its word on. -/
def namedType (place : WherePlace) : Parse NamedType := do
  let opening ← keyword "type"
  let name ← ident
  let generics ← parameters g
  let hasColon ← sees (atSign ":")
  let bounds ← colonBounds (boundsUntil g (anyOf [atWord "where", atSign "=", atSign ";"]))
  let mayPrecede := place != .after && (← sees (atWord "where"))
  let before ← if mayPrecede then whereClause g else pure []
  let definition ← readIf (atSign "=") (do return (← sign "=") ++ (← g.typeTokens true))
  let after ← if place != .before && !mayPrecede then whereClause g else pure []
  let semicolon ← sign ";"
  return { front := opening ++ name ++ generics, bounds, hasColon, definition
           conditions := before ++ after, semicolon }

/-- A type by another name; bounds have no form, nor has a missing
definition. -/
def typeItem (scope : Tokens) : Parse (Option Tokens) := do
  let type ← namedType g .before
  if type.hasColon || type.definition.isEmpty then return none
  else return some (scope ++ type.front ++ type.conditions ++ type.definition ++ type.semicolon)

-- ============================================================ structures

/-- A field with a name, down to a bound of nestings. An unnamed structure
in the place of its type stands as it is written. -/
def namedField : Nat → Parse Tokens
  | 0 => failure
  | depth + 1 => do
    let attributes ← outerAttributes g
    let scope ← visibility
    let isBlank ← sees (atWord "_")
    let name ← identOrBlank
    let colon ← sign ":"
    let type ←
      if isBlank && (← sees (anyOf [atWord "struct", atWordBlock "union"])) then
        asWritten do
          let _ ← anyWord
          inGroup .curly (commaList atEnd (namedField depth))
      else g.typeTokens true
    return attributes ++ scope ++ name ++ colon ++ type

def namedFields : Parse Tokens := do
  let depth ← nestingsAhead
  inGroup .curly (commaList atEnd (namedField g depth))

def unnamedFields : Parse Tokens :=
  inGroup .round <| commaList atEnd do
    return (← outerAttributes g) ++ (← visibility) ++ (← g.typeTokens true)

def structItem : Parse Tokens := do
  let front := (← keyword "struct") ++ (← ident) ++ (← parameters g)
  if ← sees (atGroup .round) then
    let fields ← unnamedFields g
    let conditions ← whereClause g
    return front ++ fields ++ conditions ++ (← sign ";")
  else
    let conditions ← whereClause g
    let fields ← if ← sees (atGroup .curly) then namedFields g else sign ";"
    return front ++ conditions ++ fields

def unionItem : Parse Tokens := do
  let front := (← keyword "union") ++ (← ident) ++ (← parameters g)
  let conditions ← whereClause g
  return front ++ conditions ++ (← namedFields g)

/-- One variant. That it has a visibility is not written back. -/
def variant : Parse Tokens := do
  let attributes ← outerAttributes g
  let _ ← visibility
  let name ← ident
  let fields ←
    if ← sees (atGroup .curly) then namedFields g
    else readIf (atGroup .round) (unnamedFields g)
  let value ← readIf (atSign "=") (do return (← sign "=") ++ (← g.exprTokens))
  return attributes ++ name ++ fields ++ value

def enumItem : Parse Tokens := do
  let front := (← keyword "enum") ++ (← ident) ++ (← parameters g)
  let conditions ← whereClause g
  return front ++ conditions ++ (← inGroup .curly (commaList atEnd (variant g)))

-- =============================================================== macros

/-- A macro call as an item: a semicolon follows any brackets but curly
ones. -/
def macroItem (mayName : Bool) : Parse Tokens := do
  let path ← plainPath
  let bang ← sign "!"
  let name ←
    if mayName then readIf (anyOf [atName, atWord "try"]) anyWord else pure []
  let isCurly ← sees (atGroup .curly)
  let content ← anyGroup
  return path ++ bang ++ name ++ content ++ (← if isCurly then pure [] else sign ";")

/-- Where a macro call may begin as an item. -/
def atMacroPath : Ahead := anyOf [butNot atPathWord (atWord "Self"), atSign "::"]

-- ======================================================== items of items

/-- An item inside another, which its own attributes precede. -/
def behindAttributes (inner : Parse (Option Tokens)) : Parse Tokens :=
  orAsWritten do
    let attributes ← outerAttributes g
    return (← inner).map (attributes ++ ·)

/-- A foreign item. A safe one has no form, nor has one with a body or a
value. -/
def foreignItem : Parse Tokens :=
  behindAttributes g do
    let scope ← visibility
    if ← sees (atFunction true) then
      let (head, isSafe) ← functionHead g true
      if ← sees (atGroup .curly) then
        let _ ← g.block true
        return none
      else
        let semicolon ← sign ";"
        return if isSafe then none else some (scope ++ head ++ semicolon)
    else if ← sees (fun ahead => atWord "static" ahead
        || anyOf [atWord "unsafe", atWord "safe"] ahead && afterTrees 1 (atWord "static") ahead) then
      let mark ← readIf (anyOf [atWord "unsafe", atWord "safe"]) anyWord
      let opening ← keyword "static"
      let mutability ← optionalWord "mut"
      let name ← ident
      let colon ← sign ":"
      let type ← g.typeTokens true
      let value ← readIf (atSign "=") (do return (← sign "=") ++ (← g.exprTokens))
      let semicolon ← sign ";"
      if mark.isEmpty && value.isEmpty then
        return some (scope ++ opening ++ mutability ++ name ++ colon ++ type ++ semicolon)
      else return none
    else if ← sees (atWord "type") then
      let type ← namedType g .anywhere
      if type.hasColon || !type.definition.isEmpty then return none
      else return some (scope ++ type.front ++ type.conditions ++ type.semicolon)
    else if scope.isEmpty && (← sees atMacroPath) then return some (← macroItem false)
    else failure

/-- A block of foreign items. -/
def foreignBlock (safety : Tokens) : Parse Tokens := do
  let linkage ← if ← sees (atWord "extern") then linkage else failure
  return safety ++ linkage ++ (← bodyOf g (readAll (foreignItem g)))

/-- An item of a trait. One with a visibility or a default mark has no
form. -/
def traitItem : Parse Tokens :=
  behindAttributes g do
    let scope ← visibility
    let defaultness ← optionalWord "default"
    let found ←
      if ← sees (atFunction false) then
        let (head, _) ← functionHead g false
        let body ← if ← sees (atSign ";") then sign ";" else g.block true
        pure (some (head ++ body))
      else if ← sees (atWord "const") then constItem g [] true
      else if ← sees (atWord "type") then
        let type ← namedType g .after
        pure (some (type.front ++ type.bounds ++ type.definition ++ type.conditions
          ++ type.semicolon))
      else if scope.isEmpty && defaultness.isEmpty && (← sees atMacroPath) then
        pure (some (← macroItem false))
      else failure
    return if scope.isEmpty && defaultness.isEmpty then found else none

/-- A mark that what follows is a default and no macro call. -/
def defaultMark : Parse Tokens :=
  readIf (fun ahead => atWord "default" ahead && !afterTrees 1 (atSign "!") ahead) anyWord

/-- An item of an implementation. -/
def implementationItem : Parse Tokens :=
  behindAttributes g do
    let lead := (← visibility) ++ (← defaultMark)
    if ← sees (atFunction false) then functionItem g lead
    else if ← sees (atWord "const") then constItem g lead false
    else if ← sees (atWord "type") then
      let type ← namedType g .after
      if type.hasColon || type.definition.isEmpty then return none
      else
        return some (lead ++ type.front ++ type.definition ++ type.conditions ++ type.semicolon)
    else if lead.isEmpty && (← sees atMacroPath) then return some (← macroItem false)
    else failure

-- =============================================== traits, implementations

/-- What follows the name of a trait: its bounds and body, or what it is
another name for. -/
def traitRest (front : Tokens) (allowAlias : Bool) : Parse Tokens := do
  if allowAlias && (← sees (atSign "=")) then
    let equals ← sign "="
    let bounds ← boundsUntil g (anyOf [atWord "where", atSign ";"])
    let conditions ← whereClause g
    return front ++ equals ++ bounds ++ conditions ++ (← sign ";")
  else
    let bounds ← colonBounds (boundsUntil g (anyOf [atWord "where", atGroup .curly]))
    let conditions ← whereClause g
    return front ++ bounds ++ conditions ++ (← bodyOf g (readAll (traitItem g)))

def traitDeclaration : Parse Tokens := do
  let safety ← optionalWord "unsafe"
  let auto ← optionalWord "auto"
  let front := safety ++ auto ++ (← keyword "trait") ++ (← ident) ++ (← parameters g)
  traitRest g front (safety.isEmpty && auto.isEmpty)

/-- An implementation. One with a visibility has no form, nor has a
constant one, nor one of what is no trait. -/
def implementation (scope : Tokens) : Parse (Option Tokens) := do
  let lead := (← optionalWord "default") ++ (← optionalWord "unsafe") ++ (← keyword "impl")
  let generics ← if ← sees atParameters then parameters g else pure []
  let isConst ← sees fun ahead =>
    atWord "const" ahead || atSign "?" ahead && afterTrees 1 (atWord "const") ahead
  if isConst then
    let _ ← optionalSign "?"
    let _ ← keyword "const"
  let isNegative ← sees fun ahead => atSign "!" ahead && !afterTrees 1 (atGroup .curly) ahead
  let polarity ← if isNegative then sign "!" else pure []
  let isPath ← sees (anyOf [atPathWord, atSign "::"])
  let first ← g.type true
  let isOfTrait ← sees (atWord "for")
  if isNegative && !isOfTrait then failure
  let subject ←
    if isOfTrait then (do return (← keyword "for") ++ (← g.typeTokens true)) else pure []
  let conditions ← whereClause g
  let body ← bodyOf g (readAll (implementationItem g))
  let hasForm := scope.isEmpty && !isConst && (!isOfTrait || (isPath && first.asBound.isSome))
  return if hasForm then
      some (lead ++ generics ++ polarity ++ first.tokens ++ subject ++ conditions ++ body)
    else none

-- ================================================================ items

/-- A module: its name, or its items. -/
def moduleItem (scope : Tokens) : Parse Tokens := do
  let safety ← optionalWord "unsafe"
  let opening ← keyword "mod"
  let name ← if ← sees (atWord "try") then anyWord else ident
  let front := scope ++ safety ++ opening ++ name
  if ← sees (atSign ";") then return front ++ (← sign ";")
  else return front ++ (← bodyOf g (readAll g.item))

/-- A declared macro; it has no form. -/
def macroDeclaration : Parse (Option Tokens) := do
  let _ ← keyword "macro"
  let _ ← ident
  if ← sees (atGroup .round) then let _ ← anyGroup
  if ← sees (atGroup .curly) then let _ ← anyGroup else failure
  return none

/-- An item after its attributes. -/
def item : Parse (Option Tokens) := do
  let scope ← visibility
  let second (word : String) : Ahead := afterTrees 1 (atWord word)
  let isUnsafe ← sees (atWord "unsafe")
  if ← sees (atFunction false) then functionItem g scope
  else if ← sees (fun ahead => atWord "extern" ahead && second "crate" ahead) then
    let opening := scope ++ (← anyWord)
    return some (← libraryImport opening)
  else if ← sees (atWord "extern") then
    if scope.isEmpty then return some (← foreignBlock g []) else failure
  else if ← sees (atWord "use") then importItem scope
  else if ← sees (atWord "static") then staticItem g scope
  else if ← sees (atWord "const") then constItem g scope false
  else if isUnsafe && (← sees (second "extern")) then
    let safety ← anyWord
    if scope.isEmpty then return some (← foreignBlock g safety) else failure
  else if ← sees (fun ahead => atWord "mod" ahead || isUnsafe && second "mod" ahead) then
    return some (← moduleItem g scope)
  else if ← sees (atWord "type") then typeItem g scope
  else if ← sees (atWord "struct") then return some (scope ++ (← structItem g))
  else if ← sees (atWord "enum") then return some (scope ++ (← enumItem g))
  else if ← sees (fun ahead => atWord "union" ahead && afterTrees 1 atName ahead) then
    return some (scope ++ (← unionItem g))
  else if ← sees (anyOf [atWord "trait", fun ahead => atWord "auto" ahead && second "trait" ahead]) then
    return some (scope ++ (← traitDeclaration g))
  else if isUnsafe && (← sees (anyOf [second "trait", fun ahead =>
      second "auto" ahead && afterTrees 2 (atWord "trait") ahead])) then
    return some (scope ++ (← traitDeclaration g))
  else if isUnsafe || (← sees (anyOf [atWord "impl", fun ahead =>
      atWord "default" ahead && !afterTrees 1 (atSign "!") ahead])) then
    implementation g scope
  else if ← sees (atWord "macro") then macroDeclaration
  else if scope.isEmpty && (← sees atMacroPath) then return some (← macroItem true)
  else failure

/-- An item with its attributes. -/
def readItem : Parse Tokens := behindAttributes g (item g)

/-- Where an item begins rather than an expression. -/
def atItem : Ahead := fun ahead =>
  let second (test : Ahead) : Bool := afterTrees 1 test ahead
  let third (test : Ahead) : Bool := afterTrees 2 test ahead
  let functionWord := anyOf [atWord "unsafe", atWord "extern", atWord "fn"]
  anyOf (["pub", "extern", "use", "fn", "mod", "type", "struct", "enum", "trait", "impl",
      "macro"].map atWord) ahead
    || (atWord "crate" ahead && !second (atSign "::"))
    || (atWord "static" ahead && (second (atWord "mut") || second atName))
    || (atWord "const" ahead
        && !(second (anyOf [atGroup .curly, atWord "static", atWord "move", atSign "|"])
          || second (atWord "async") && !third functionWord))
    || (atWord "unsafe" ahead && !second (atGroup .curly))
    || (atWord "async" ahead && second functionWord)
    || (atWord "union" ahead && second atName)
    || (atWord "auto" ahead && second (atWord "trait"))
    || (atWord "default" ahead && second (anyOf [atWord "unsafe", atWord "impl"]))
    || afterPlainPath
        (fun rest => atSign "!" rest && afterTrees 1 (anyOf [atName, atWord "try"]) rest) ahead

end DataBinding.Code
