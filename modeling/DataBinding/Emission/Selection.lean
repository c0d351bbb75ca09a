/-
Code that is chosen by a name at run time. Each arm holds the code for one
name. A selection with few arms is a chain of tests, one with many arms a
table with an empty default; which of the two is a matter of style, and
both run the first arm that has the name.

Where the style is still open, code is a draft: a tree in which a
selection is a node of its own. Settling a draft fixes the style of all
its selections and leaves tokens.
-/
import DataBinding.Code.Literal

namespace DataBinding.Emission

open Code

/-- The code to run for one name. -/
structure Arm where
  name : String
  body : Tokens

-- ========================================================== selections

inductive Selection
  /-- Nothing to choose from. -/
  | nothing
  /-- One name is tested; if it is another, the choice goes on. -/
  | test (name : String) (body : Tokens) (otherwise : Selection)
  /-- All names side by side, with an empty default. -/
  | table (arms : List Arm)

namespace Selection

/-- Tests in the order of the arms. -/
def chain : List Arm → Selection
  | [] => .nothing
  | arm :: rest => .test arm.name arm.body (chain rest)

/-- A selection in the style that its number of arms asks for. -/
def ofArms (usesTable : Nat → Bool) (arms : List Arm) : Selection :=
  if arms.isEmpty then .nothing
  else if usesTable arms.length then .table arms
  else chain arms

/-- A selection as code, given the expression that is compared. -/
def tokens (subject : Tokens) : Selection → Tokens
  | .nothing => []
  | .test name body otherwise =>
    let further :=
      match otherwise with
      | .nothing => []
      | _ => .leaf "else" :: otherwise.tokens subject
    .leaf "if" :: subject ++ [.leaf "==", stringLiteral name, curly body] ++ further
  | .table arms =>
    let rows := arms.flatMap fun arm => [stringLiteral arm.name, .leaf "=>", curly arm.body]
    .leaf "match" :: subject ++ [curly (rows ++ [.leaf "_", .leaf "=>", curly []])]

end Selection

-- ============================================================== drafts

inductive Draft
  /-- Code without open selections. -/
  | plain (tokens : Tokens)
  /-- A block in curly brackets. -/
  | block (inner : List Draft)
  /-- An open selection on the value of an expression. -/
  | select (subject : Tokens) (arms : List Arm)

abbrev Drafts := List Draft

mutual

/-- A draft with its selections settled. -/
def Draft.settle (usesTable : Nat → Bool) : Draft → Tokens
  | .plain tokens => tokens
  | .block inner => [curly (settleAll usesTable inner)]
  | .select subject arms => (Selection.ofArms usesTable arms).tokens subject

def settleAll (usesTable : Nat → Bool) : Drafts → Tokens
  | [] => []
  | draft :: rest => draft.settle usesTable ++ settleAll usesTable rest

end

end DataBinding.Emission
