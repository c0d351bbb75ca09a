/-
The event calls of a type: their table, which an ancestor's calls precede,
and the method that invokes one. A call of another type goes to the
embedded ancestor; one of this type has its arguments unpacked in order
before the method runs.
-/
import DataBinding.Emission.Binding

namespace DataBinding.Emission

open Code

variable (site : Site) (type : EventTypeDescriptor)

-- ============================================================= the table

def argumentInfo (arg : ArgumentDescriptor) : Tokens :=
  call (site.item "ArgumentInfo :: new")
    [[stringLiteral arg.typeFullName], site.item ("ArgumentKind :: " ++ arg.kind.label),
     [stringLiteral arg.name]]

def someOf (inner : Tokens) : Tokens := call (leaves ":: std :: option :: Option :: Some") [inner]

def noneOf : Tokens := leaves ":: std :: option :: Option :: None"

def okOf (inner : Tokens) : Tokens := call (leaves ":: std :: result :: Result :: Ok") [inner]

def callInfo (descriptor : EventCallDescriptor) : Tokens :=
  let result := descriptor.returns.elim noneOf fun returned => someOf [stringLiteral returned]
  wideCall (site.item "EventCall :: new")
    [[stringLiteral descriptor.eventName],
     listOf (descriptor.views.map fun view => [stringLiteral view]),
     [stringLiteral descriptor.methodName], [stringLiteral type.fullName],
     listOf (descriptor.arguments.map (argumentInfo site)), result]

/-- Listing the calls. -/
def registerBody : Tokens :=
  let ancestor := (delegate? type.registerDepth).map fun base =>
    call (site.item "EventRegister :: register_event_calls") [.leaf "&" :: base, leaves "calls"]
      ++ leaves ";"
  if type.calls.isEmpty then ancestor.getD (leaves "let _ = calls ;")
  else
    leaves "static CALLS : &" ++ [square (site.item "EventCall")] ++ leaves "="
      ++ listOf (type.calls.map (callInfo site type)) ++ leaves ";"
      ++ ancestor.getD []
      ++ leaves "calls . extend" ++ [round (leaves "CALLS . iter" ++ [round []]), .leaf ";"]

-- ============================================================= arguments

def argumentType (arg : ArgumentDescriptor) : Emit Tokens :=
  match arg.kind with
  | .bool => .ok (leaves "bool")
  | .float => .ok (leaves "f32")
  | .int => .ok (leaves "i32")
  | .string => .ok stringType
  | .sprite => .ok (site.item "Sprite")
  | .enum => enumType site arg.declaredType arg.enumName
  | .custom => readType arg.declaredType
  | .unsupported => .error (.invalidType arg.declaredType)

/-- The method that unpacks an argument of a kind. -/
def readerName : ArgumentKind → String
  | .enum => "enumeration"
  | .custom => "custom"
  | _ => "value"

/-- Unpacking one argument into a local, and passing that on. -/
def unpack (index : Nat) (arg : ArgumentDescriptor) : Emit (Tokens × Tokens) := do
  let kept := Token.leaf ("arg" ++ toString index)
  let type ← argumentType site arg
  let read := leaves ("args . " ++ readerName arg.kind) ++ [round [], .leaf "?"]
  let taken (lead : String) := leaves lead ++ [kept, .leaf ":"] ++ type ++ leaves "=" ++ read ++ leaves ";"
  if arg.byRef then return (taken "let mut", leaves "& mut" ++ [kept])
  else return (taken "let", [kept])

/-- Unpacking all arguments of a call, then calling the method. -/
def callArm (descriptor : EventCallDescriptor) : Emit Arm := do
  let method ← name descriptor.methodName
  let args ← descriptor.arguments.zipIdx.mapM fun (arg, index) => unpack site index arg
  let receiver := if descriptor.isStatic then leaves "Self ::" else leaves "self ."
  let invocation := call (receiver ++ [method]) (args.map (·.2))
  let finish :=
    if descriptor.returns.isSome then
      leaves "let result : :: std :: boxed :: Box < dyn :: std :: any :: Any > ="
        ++ call (leaves ":: std :: boxed :: Box :: new") [invocation] ++ leaves ";"
        ++ leaves "return" ++ okOf (someOf (leaves "result")) ++ leaves ";"
    else invocation ++ leaves ";" ++ leaves "return" ++ okOf noneOf ++ leaves ";"
  return { name := descriptor.methodName, body := args.flatMap (·.1) ++ finish }

-- ============================================================ invocation

/-- The parameters of the invoking method. -/
def invokeParams (callName argsName : String) : Tokens :=
  commaEnded
    [leaves "& mut self", leaves (callName ++ " : &") ++ site.item "EventCall",
     leaves (argsName ++ " : :: std :: vec :: Vec <") ++ site.item "ArgValue >"]

def invokeMethod : Emit Drafts := do
  let delegate := delegate? type.registerDepth
  let invoked := site.item "Invoked"
  if type.calls.isEmpty && delegate.isNone then
    return method [] (.leaf "invoke") (invokeParams site "_call" "_args") invoked
      [.plain (okOf noneOf)]
  else
    let takesArgs := type.calls.any (!·.arguments.isEmpty)
    let argsName := if takesArgs || delegate.isSome then "args" else "_args"
    let elsewhere := delegate.elim (okOf noneOf) fun base =>
      call (site.item "EventRegister :: invoke")
        [leaves "& mut" ++ base, leaves "call", leaves "args"]
    let reader :=
      if takesArgs then
        leaves "let mut args ="
          ++ call (site.item "Args :: new") [leaves "call", leaves "args"] ++ leaves ";"
      else []
    let arms ← type.calls.mapM (callArm site)
    let foreign :=
      leaves "if call . type_full_name !=" ++ [stringLiteral type.fullName]
        ++ [curly (leaves "return" ++ elsewhere ++ leaves ";")]
    return method [] (.leaf "invoke") (invokeParams site "call" argsName) invoked
      [.plain (foreign ++ reader), .select (leaves "call . method_name") arms,
       .plain (okOf noneOf)]

/-- The event calls of a type. -/
def eventRegister : Emit Drafts := do
  let inline := inlined type.methodKind
  let callsParam :=
    leaves "calls : & mut :: std :: vec :: Vec < & 'static" ++ site.item "EventCall >"
  let register :=
    method inline (.leaf "register_event_calls") (commaSeparated [leaves "& self", callsParam]) []
      [.plain (registerBody site type)]
  let invoke ← invokeMethod site type
  return [.plain (leaves "impl" ++ site.item "EventRegister for" ++ site.self),
    .block (register ++ .plain inline :: invoke)]

end DataBinding.Emission
