/-
Written code as lexemes. Comments and blanks vanish, except that a
documentation comment is the attribute it stands for. Of the punctuation
each character is a lexeme; it is joined to the next when no blank stands
between them, and an operator of several characters is a run of joined
ones. Brackets have to match, and what they enclose is one lexeme.
-/
import DataBinding.Code.Literal
import DataBinding.Code.LiteralText
import DataBinding.Text.Blank

namespace DataBinding.Code

open Text

inductive Lexeme
  | word (text : String)
  | literal (text : String)
  | mark (symbol : Char) (joined : Bool)
  | group (bracket : Bracket) (inner : List Lexeme)

-- ============================================================ comments

/-- The rest of a block comment, `depth` of them being open. -/
def skipBlockComment : Nat → Scan
  | 0, cs => some cs
  | _, [] => none
  | depth + 1, '*' :: '/' :: rest => skipBlockComment depth rest
  | depth + 1, '/' :: '*' :: rest => skipBlockComment (depth + 2) rest
  | depth + 1, _ :: rest => skipBlockComment (depth + 1) rest
termination_by _ cs => cs.length

/-- Whether a text begins with a comment that documents nothing. -/
def startsLineComment (cs : List Char) : Bool :=
  "//".toList.isPrefixOf cs
    && (!"///".toList.isPrefixOf cs || "////".toList.isPrefixOf cs)
    && !"//!".toList.isPrefixOf cs

def startsBlockComment (cs : List Char) : Bool :=
  "/**/".toList.isPrefixOf cs
    || "/*".toList.isPrefixOf cs
        && (!"/**".toList.isPrefixOf cs || "/***".toList.isPrefixOf cs)
        && !"/*!".toList.isPrefixOf cs

/-- Blank in code: also the two direction marks. -/
def isCodeBlank (c : Char) : Bool :=
  isBlank c || c.toNat == 0x200E || c.toNat == 0x200F

/-- Skip blanks and comments; an unclosed comment stays. The number bounds
the steps, and the text's length is always enough. -/
def skipGapWithin : Nat → List Char → List Char
  | 0, cs => cs
  | _ + 1, [] => []
  | bound + 1, c :: rest =>
    if startsLineComment (c :: rest) then
      skipGapWithin bound ((c :: rest).dropWhile (· != '\n'))
    else if startsBlockComment (c :: rest) then
      match skipBlockComment 1 (rest.drop 1) with
      | some after => skipGapWithin bound after
      | none => c :: rest
    else if isCodeBlank c then skipGapWithin bound rest
    else c :: rest

def skipGap (cs : List Char) : List Char := skipGapWithin (cs.length + 1) cs

-- ====================================================== documentation

/-- What a documentation comment says, whether it stands inside the item it
documents, and what follows it. -/
def docComment? (cs : List Char) : Option (List Char × Bool × List Char) :=
  let line (isInner : Bool) (rest : List Char) :=
    let text := rest.takeWhile (· != '\n')
    let after := rest.drop text.length
    some (if text.getLast? = some '\r' ∧ after ≠ [] then text.dropLast else text, isInner, after)
  let block (isInner : Bool) (rest : List Char) :=
    (skipBlockComment 1 rest).map fun after =>
      (rest.take (rest.length - after.length - 2), isInner, after)
  if "//!".toList.isPrefixOf cs then line true (cs.drop 3)
  else if "/*!".toList.isPrefixOf cs then block true (cs.drop 3)
  else if "///".toList.isPrefixOf cs then
    if "////".toList.isPrefixOf cs then none else line false (cs.drop 3)
  else if "/**".toList.isPrefixOf cs ∧ (cs.drop 3).head? ≠ some '*' then block false (cs.drop 3)
  else none

/-- Each carriage return stands before a line break. -/
def hasBareReturn : List Char → Bool
  | '\r' :: '\n' :: rest => hasBareReturn rest
  | '\r' :: _ => true
  | _ :: rest => hasBareReturn rest
  | [] => false

/-- A documentation comment as an attribute. -/
def docLexemes (text : List Char) (isInner : Bool) : List Lexeme :=
  [.mark '#' false] ++ (if isInner then [.mark '!' false] else [])
    ++ [.group .square
          [.word "doc", .mark '=' false,
           .literal ("\"" ++ String.ofList (escapeChars text) ++ "\"")]]

-- ============================================================== leaves

/-- The characters of which punctuation consists. -/
def isMark (c : Char) : Bool := "~!@#$%^&*-=+|;:,<.>/?'".toList.contains c

/-- Whether a punctuation character stands at the front of a text. The
slash of a comment is none. -/
def startsMark : List Char → Bool
  | '/' :: '/' :: _ => false
  | '/' :: '*' :: _ => false
  | c :: _ => isMark c
  | [] => false

/-- Skip a word, raw or not. -/
def skipAnyWord : Scan
  | 'r' :: '#' :: rest =>
    match skipWord rest with
    | some after =>
      let text := String.ofList (rest.take (rest.length - after.length))
      if ["_", "super", "self", "Self", "crate"].contains text then none else some after
    | none => none
  | cs => skipWord cs

/-- The beginnings of literals that must not be read as words. -/
def literalLeads : List String :=
  ["r\"", "r#\"", "r##", "b\"", "b'", "br\"", "br#", "c\"", "cr\"", "cr#"]

/-- A punctuation character, if one stands here. A single quote begins a
lifetime, and a word has to follow it that is no quoted character. -/
def mark? : List Char → Option (Lexeme × List Char)
  | '\'' :: rest =>
    match skipAnyWord rest with
    | some after =>
      if after.head? = some '\'' ∨ (after.head? = some '#' ∧ !"r#".toList.isPrefixOf rest) then none
      else some (.mark '\'' true, rest)
    | none => none
  | c :: rest => if startsMark (c :: rest) then some (.mark c (startsMark rest), rest) else none
  | [] => none

/-- The text between a place and a later one. -/
def between (cs rest : List Char) : String := String.ofList (cs.take (cs.length - rest.length))

/-- A literal, a punctuation character or a word. -/
def leaf? (cs : List Char) : Option (Lexeme × List Char) :=
  match skipLiteral cs with
  | some rest => some (.literal (between cs rest), rest)
  | none =>
    match mark? cs with
    | some found => some found
    | none =>
      if literalLeads.any fun lead => lead.toList.isPrefixOf cs then none
      else (skipAnyWord cs).map fun rest => (.word (between cs rest), rest)

-- ============================================================= nesting

def opening? (c : Char) : Option Bracket :=
  if c = '(' then some .round
  else if c = '[' then some .square
  else if c = '\x7b' then some .curly
  else none

def closing? (c : Char) : Option Bracket :=
  if c = ')' then some .round
  else if c = ']' then some .square
  else if c = '\x7d' then some .curly
  else none

/-- Read lexemes up to the end. `here` are those of the innermost open
bracket, last first; `open` are the brackets around it with what stands
before each. The number bounds the steps, and the text's length is always
enough. -/
def readWithin : Nat → List Lexeme → List (Bracket × List Lexeme) → List Char →
    Option (List Lexeme)
  | 0, _, _, _ => none
  | bound + 1, here, opened, cs =>
    let cs := skipGap cs
    match docComment? cs with
    | some (text, isInner, rest) =>
      if hasBareReturn text then none
      else readWithin bound ((docLexemes text isInner).reverse ++ here) opened rest
    | none =>
      match cs with
      | [] => if opened.isEmpty then some here.reverse else none
      | c :: rest =>
        match opening? c, closing? c with
        | some bracket, _ => readWithin bound [] ((bracket, here) :: opened) rest
        | none, some bracket =>
          match opened with
          | (expected, before) :: outer =>
            if bracket = expected then
              readWithin bound (.group bracket here.reverse :: before) outer rest
            else none
          | [] => none
        | none, none =>
          match leaf? (c :: rest) with
          | some (lexeme, after) => readWithin bound (lexeme :: here) opened after
          | none => none

/-- A text without the byte order mark that may begin it. -/
def dropByteOrderMark : List Char → List Char
  | c :: rest => if c.toNat == 0xFEFF then rest else c :: rest
  | [] => []

/-- The lexemes of a text, if it is one of code at all. -/
def readLexemes (text : String) : Option (List Lexeme) :=
  let cs := dropByteOrderMark text.toList
  readWithin (cs.length + 1) [] [] cs

-- ============================================================= printing

/-- Lexemes as tokens, as they stand: joined punctuation stays joined. -/
def rawTokens : List Lexeme → Tokens
  | [] => []
  | .word text :: rest => .leaf text :: rawTokens rest
  | .literal text :: rest => .leaf text :: rawTokens rest
  | .mark symbol joined :: rest =>
    (if joined then .glued symbol.toString else .leaf symbol.toString) :: rawTokens rest
  | .group bracket inner :: rest => .group bracket (rawTokens inner) :: rawTokens rest

/-- How many lexemes there are, also inside brackets. -/
def lexemeCount : List Lexeme → Nat
  | [] => 0
  | .group _ inner :: rest => 1 + lexemeCount inner + lexemeCount rest
  | _ :: rest => 1 + lexemeCount rest

end DataBinding.Code
