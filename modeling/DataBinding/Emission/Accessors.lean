/-
Getters and setters. A setter whose new value equals the stored one does
nothing. Otherwise it runs the code injected before a change, sends the
new value, writes it, runs the code injected after a change, and then
sends each property that is also notified. Where changes raise an event,
the write raises it, and so does each of those properties whose value
differs from the one kept before the write.
-/
import DataBinding.Emission.Values

namespace DataBinding.Emission

open Code

variable (site : Site) (type : TypeDescriptor)

-- ========================================================= change events

/-- A sending of a property's value. -/
def pushStatement (propertyName : String) (value : Tokens) : Tokens :=
  call (site.item "update_ui") [leaves "& * self", [stringLiteral propertyName], value]
    ++ leaves ";"

/-- Raising the event about a property, given the value it had. -/
def fireStatement (propertyName : String) (old : Token) : Tokens :=
  call (leaves "self . fire_property_changed")
    [[stringLiteral propertyName], [.leaf "&", old]] ++ leaves ";"

/-- The method that raises the event. The slot is empty while handlers
run, and takes up again what they put there. -/
def changeEventMethod : Tokens :=
  let slot := leaves "self . on_property_changed"
  let params :=
    commaEnded
      [leaves "& mut self", leaves "property_name : & str",
       leaves "old_value : & dyn :: std :: any :: Any"]
  let taken :=
    leaves "let mut event :" ++ site.item "ChangeEvent < Self >" ++ leaves "="
      ++ call (leaves ":: std :: mem :: take") [leaves "& mut" ++ slot] ++ leaves ";"
  let raised :=
    call (leaves "event . invoke")
      [leaves "property_name", leaves "& * self", leaves "old_value"] ++ leaves ";"
  let absorbed := call (leaves "event . absorb") [leaves "& mut" ++ slot] ++ leaves ";"
  let restored := slot ++ leaves "= event ;"
  leaves "fn fire_property_changed"
    ++ [round params, curly (taken ++ raised ++ absorbed ++ restored)]

-- =============================================================== getters

/-- The field behind a property. -/
def fieldToken (property : Property) : Emit Token :=
  match property.fieldName? with
  | some field => name field
  | none => .error (.invalidName property.name)

def getter (property : Property) : Emit Tokens := do
  let field ← fieldToken property
  let getterName ← name property.getterName
  let result ← getterType site property
  let onGet ← readStatements property.injected.onGet
  return docAttributes property.doc ++ wordAttribute "must_use" ++ leaves "pub fn"
    ++ [getterName, round (leaves "& self"), .leaf "->"] ++ result
    ++ [curly (onGet ++ getterBody property.category field)]

/-- The current value of any property of the type, in getter shape. -/
def readProperty (property : Property) : Emit Tokens := do
  let depth ←
    match type.depthOf? property.owner with
    | some depth => .ok depth
    | none => .error (.invalidPath property.owner)
  let getterName ← name property.getterName
  return baseAccess depth ++ [.leaf ".", getterName, round []]

-- ============================================================ follow-ups

/-- What a setter does about a property that is also notified. -/
structure FollowUp where
  /-- Keeps the value from before the write. -/
  capture : Tokens
  /-- Sends the value from after the write, and raises the event. -/
  after : Tokens

/-- The local that keeps a value over a write. -/
def keptLocal (target : String) : Emit Token := word ("prev_" ++ Text.snakeCase target)

/-- The follow-up about a property of the type. -/
def followUp (target : String) (property : Property) : Emit FollowUp := do
  let read ← readProperty type property
  let push := pushStatement site target (wireValue site property.category read)
  if type.raisesEvents then
    let kept ← keptLocal target
    let changed := differs property.category read kept
    return {
      capture :=
        leaves "let" ++ [kept, .leaf "="] ++ captured property.category read ++ leaves ";"
      after := push ++ leaves "if" ++ changed ++ [curly (fireStatement target kept)] }
  else return { capture := [], after := push }

/-- The follow-ups of a property; an unknown name has none. -/
def followUps (property : Property) : Emit (List FollowUp) :=
  (property.alsoNotify.filterMap fun target => (type.merged? target).map (target, ·)).mapM
    fun (target, found) => followUp site type target found

-- =============================================================== setters

/-- Storing the new value, and raising the event about it. -/
def writeStatements (property : Property) (field : Token) : Tokens :=
  if type.raisesEvents then
    leaves "let old_value ="
      ++ call (leaves ":: std :: mem :: replace")
          [leaves "& mut self ." ++ [field], leaves "value"]
      ++ leaves ";" ++ fireStatement property.name (.leaf "old_value")
  else leaves "self ." ++ [field] ++ leaves "= value ;"

def setter (property : Property) : Emit Tokens := do
  let field ← fieldToken property
  let setterName ← name property.setterName
  let stored ← site.storageOf property
  let before ← readStatements property.injected.onSetBeforeChange
  let after ← readStatements property.injected.onSetAfterChange
  let further ← followUps site type property
  let allow :=
    if property.category == .float then
      [.leaf "#", square [.leaf "allow", round (leaves "clippy :: float_cmp")]]
    else []
  let unchanged :=
    leaves "if self ." ++ [field] ++ leaves "== value" ++ [curly (leaves "return ;")]
  let body :=
    unchanged ++ before
      ++ pushStatement site property.name (incomingValue site property.category)
      ++ further.flatMap (·.capture) ++ writeStatements type property field
      ++ after ++ further.flatMap (·.after)
  return allow ++ leaves "pub fn"
    ++ [setterName, round (commaSeparated [leaves "& mut self", leaves "value :" ++ stored]),
      curly body]

/-- Getter and setter of each property with accessors. -/
def accessors : Emit Tokens := do
  let pairs ← type.accessors.mapM fun property => do
    return (← getter site property) ++ (← setter site type property)
  return pairs.flatten

end DataBinding.Emission
