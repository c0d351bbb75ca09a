/-
Emitted code as a tree of tokens, and its text. A token is a leaf (a name,
an operator, a literal) or a bracketed group. The text has one blank
between neighbours, except after a token that is glued to the next; round
and square brackets sit tight around their content, curly ones have a
blank inside.
-/
import DataBinding.Text.Segments

namespace DataBinding.Code

inductive Bracket
  | round
  | square
  | curly
  deriving DecidableEq

inductive Token
  | leaf (text : String)
  /-- A piece of punctuation that no blank separates from what follows. -/
  | glued (text : String)
  | group (bracket : Bracket) (inner : List Token)

namespace Token

mutual

/-- The text of one token. -/
def text : Token → String
  | .leaf text => text
  | .glued text => text
  | .group .round inner => "(" ++ texts inner ++ ")"
  | .group .square inner => "[" ++ texts inner ++ "]"
  | .group .curly [] => "\x7b \x7d"
  | .group .curly (first :: rest) => "\x7b " ++ texts (first :: rest) ++ " \x7d"

/-- The text of several tokens. -/
def texts : List Token → String
  | [] => ""
  | [token] => text token
  | .glued lead :: next :: rest => lead ++ texts (next :: rest)
  | token :: next :: rest => text token ++ " " ++ texts (next :: rest)

end

end Token

abbrev Tokens := List Token

/-- Leaves from their texts, written with blanks between them. -/
def leaves (template : String) : Tokens :=
  ((Text.pieces (· == ' ') template.toList).filter (!·.isEmpty)).map fun piece =>
    .leaf (String.ofList piece)

def round (inner : Tokens) : Token := .group .round inner

def square (inner : Tokens) : Token := .group .square inner

def curly (inner : Tokens) : Token := .group .curly inner

/-- Several pieces of code with a token between neighbours. -/
def separated (separator : Token) : List Tokens → Tokens
  | [] => []
  | [piece] => piece
  | piece :: next :: rest => piece ++ separator :: separated separator (next :: rest)

def commaSeparated (pieces : List Tokens) : Tokens := separated (.leaf ",") pieces

end DataBinding.Code
