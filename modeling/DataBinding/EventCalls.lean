/-
Methods that the host may call by event name. A type marked as an event
register exposes the annotated methods whose arguments the host can
supply. Of several exposed methods of one name the first is taken; each
later one is a warning. The structural rules are those of every annotated
type; a type that is bound as well has been told about them already.
-/
import DataBinding.Extraction

namespace DataBinding

open Text

-- ============================================================= exposing

/-- An argument as the host supplies it, unless it cannot. -/
def exposableArgument? (schema : Schema) (scope : Option String) (arg : ArgDecl) :
    Option ArgumentDescriptor :=
  let meaning := classifyArgument schema scope arg.type
  if arg.modifier == .out || arg.modifier == .params || !meaning.kind.isSupported then none
  else
    some
      { name := arg.name
        declaredType := arg.type
        typeFullName := meaning.typeFullName
        kind := meaning.kind
        enumName := meaning.enumName
        byRef := arg.modifier == .ref }

/-- A written return type; the unit type and a blank one are none. -/
def returnType? (written : Option String) : Option String :=
  (written.map trim).filter fun type => type != "" && type != "()"

/-- The event name of a method: the written one unless it is blank. -/
def eventNameOf (methodName : String) (written : Option String) : String :=
  ((written.map trim).filter (· != "")).getD methodName

/-- The call that exposes a method, if its annotation, its form and its
arguments allow one. -/
def exposedCall? (schema : Schema) (scope : Option String) (method : MethodDecl) :
    Option EventCallDescriptor :=
  match method.eventCall? with
  | none => none
  | some (eventName, views) =>
    if method.isGeneric || method.isAsync then none
    else
      (method.args.mapM (exposableArgument? schema scope)).map fun arguments =>
        { methodName := method.name
          eventName := eventNameOf method.name eventName
          views := views
          isStatic := method.isStatic
          returns := returnType? method.returns
          arguments := arguments }

/-- The warning about a method name that is exposed already. -/
def repeatedCall (typeName : String) (call : EventCallDescriptor) : Diagnostic :=
  ⟨.duplicateEventCall, typeName, "'" ++ call.methodName ++ "' is exposed more than once"⟩

/-- The calls of a declaration. -/
def extractCalls (schema : Schema) (decl : TypeDecl) : Reported (List EventCallDescriptor) :=
  let offers := decl.methods.filterMap (exposedCall? schema decl.scope)
  { value := firstOffers EventCallDescriptor.methodName [] offers
    diagnostics :=
      (laterOffers EventCallDescriptor.methodName [] offers).map
        (repeatedCall decl.fullName) }

-- ============================================================ accepting

/-- The descriptor of an accepted event type, not linked yet. -/
def eventTypeOf (decl : TypeDecl) (chain : List String) (calls : List EventCallDescriptor) :
    EventTypeDescriptor where
  fullName := decl.fullName
  simpleName := decl.name
  scope := decl.scope.filter (· != "")
  isSealed := decl.isSealed || decl.isValueType
  chain := chain
  calls := calls

/-- The broken rules of an event type that nobody has reported yet. -/
def unreportedViolations (decl : TypeDecl) : List Violation :=
  if decl.generationMode?.isSome then [] else shapeViolations decl

/-- Accept or reject each event type in turn; a cyclic chain ends the
matter. -/
def screenEvents (schema : Schema) :
    List TypeDecl → Reported (Except SchemaFault (List EventTypeDescriptor))
  | [] => ⟨.ok [], []⟩
  | decl :: rest =>
    match baseChain schema decl with
    | none => ⟨.error (.cyclicBase decl.fullName), []⟩
    | some chain =>
      let later := screenEvents schema rest
      if (shapeViolations decl).isEmpty then
        let calls := extractCalls schema decl
        ⟨later.value.map (eventTypeOf decl chain calls.value :: ·),
          calls.diagnostics ++ later.diagnostics⟩
      else
        ⟨later.value, (unreportedViolations decl).map (·.diagnostic decl) ++ later.diagnostics⟩

/-- Of several event types of one name the last one stands. -/
def lastOffers : List EventTypeDescriptor → List EventTypeDescriptor
  | [] => []
  | type :: rest =>
    if rest.any (·.fullName == type.fullName) then lastOffers rest
    else type :: lastOffers rest

def EventTypeDescriptor.link (schema : Schema) (accepted : List EventTypeDescriptor)
    (type : EventTypeDescriptor) : EventTypeDescriptor :=
  let chain := embeddedChain schema type.chain
  { type with
    chain := chain
    registerDepth := depthWhere (fun name => accepted.any (·.fullName == name)) chain }

/-- The types that expose event calls, ancestors first. -/
def eventTypes (schema : Schema) : Reported (Except SchemaFault (List EventTypeDescriptor)) :=
  let screened := screenEvents schema (schema.types.filter (·.isEventRegister))
  { screened with
    value := screened.value.map fun found =>
      let accepted := lastOffers found
      ancestorsFirst (·.fullName) (·.chain) (accepted.map (·.link schema accepted)) }

end DataBinding
