/-
Code written by hand that an accessor runs: lists of statements, one for
each point of splicing. A fragment is cut at every semicolon; the pieces
lose their outer blanks, and a piece with nothing left is dropped.
-/
import DataBinding.Declaration
import DataBinding.Text.Blank

namespace DataBinding

open Text

/-- The spellings of an injection point in annotations. -/
def InjectionPoint.label : InjectionPoint → String
  | .onGet => "OnGet"
  | .onSetBeforeChange => "OnSetBeforeChange"
  | .onSetAfterChange => "OnSetAfterChange"

def InjectionPoint.all : List InjectionPoint :=
  [.onGet, .onSetBeforeChange, .onSetAfterChange]

/-- An injection point from its label, in any mixture of cases. -/
def InjectionPoint.ofLabel? (text : String) : Option InjectionPoint :=
  InjectionPoint.all.find? fun point =>
    point.label.toList.map Char.toLower == text.toList.map Char.toLower

/-- The statements of one property's accessors. -/
structure InjectedCode where
  onGet : List String := []
  onSetBeforeChange : List String := []
  onSetAfterChange : List String := []
  deriving DecidableEq

/-- The statements of a fragment. -/
def statementsOf (fragment : String) : List String :=
  ((pieces (· == ';') fragment.toList).map trimChars).filterMap fun statement =>
    if statement.isEmpty then none else some (String.ofList statement)

namespace InjectedCode

def get (injected : InjectedCode) : InjectionPoint → List String
  | .onGet => injected.onGet
  | .onSetBeforeChange => injected.onSetBeforeChange
  | .onSetAfterChange => injected.onSetAfterChange

/-- Append the statements of a fragment to the list of its point. -/
def push (injected : InjectedCode) (point : InjectionPoint) (fragment : String) :
    InjectedCode :=
  match point with
  | .onGet => { injected with onGet := injected.onGet ++ statementsOf fragment }
  | .onSetBeforeChange =>
    { injected with onSetBeforeChange := injected.onSetBeforeChange ++ statementsOf fragment }
  | .onSetAfterChange =>
    { injected with onSetAfterChange := injected.onSetAfterChange ++ statementsOf fragment }

/-- All fragments of a field, in the order of its annotations. -/
def ofInjections (injections : List (InjectionPoint × String)) : InjectedCode :=
  injections.foldl (fun injected (point, code) => injected.push point code) {}

def isEmpty (injected : InjectedCode) : Bool :=
  injected.onGet.isEmpty && injected.onSetBeforeChange.isEmpty
    && injected.onSetAfterChange.isEmpty

/-- A push extends the list of its point by the statements of the fragment
and leaves the other lists alone. -/
theorem get_push (injected : InjectedCode) (point other : InjectionPoint)
    (fragment : String) :
    (injected.push point fragment).get other =
      injected.get other ++ if other = point then statementsOf fragment else [] := by
  cases point <;> cases other <;> simp [push, get]

end InjectedCode

end DataBinding
