/-
Declarations as documents. Every field is written, also one that has its
default value; on reading, only the fields without a default have to be
there. A field that is written as null is absent only where absence is a
value of the field.
-/
import DataBinding.Declaration
import DataBinding.Document.Decoder
import DataBinding.Options

namespace DataBinding

open Document

-- ================================================================ words

namespace TypeKind

def word : TypeKind → String
  | .«class» => "class"
  | .struct => "struct"

def ofWord? : String → Option TypeKind
  | "class" => some .«class»
  | "struct" => some .struct
  | _ => none

end TypeKind

namespace Accessibility

def word : Accessibility → String
  | .internal => "internal"
  | .«private» => "private"
  | .«protected» => "protected"
  | .«public» => "public"

def ofWord? : String → Option Accessibility
  | "internal" => some .internal
  | "private" => some .«private»
  | "protected" => some .«protected»
  | "public" => some .«public»
  | _ => none

end Accessibility

namespace InjectionPoint

def word : InjectionPoint → String
  | .onGet => "on_get"
  | .onSetBeforeChange => "on_set_before_change"
  | .onSetAfterChange => "on_set_after_change"

def ofWord? : String → Option InjectionPoint
  | "on_get" => some .onGet
  | "on_set_before_change" => some .onSetBeforeChange
  | "on_set_after_change" => some .onSetAfterChange
  | _ => none

end InjectionPoint

namespace ArgModifier

def word : ArgModifier → String
  | .out => "out"
  | .params => "params"
  | .ref => "ref"
  | .value => "value"

def ofWord? : String → Option ArgModifier
  | "out" => some .out
  | "params" => some .params
  | "ref" => some .ref
  | "value" => some .value
  | _ => none

end ArgModifier

instance : Documented TypeKind where
  toDocument kind := .text kind.word
  ofDocument? := named? TypeKind.ofWord?

instance : Documented Accessibility where
  toDocument accessibility := .text accessibility.word
  ofDocument? := named? Accessibility.ofWord?

instance : Documented InjectionPoint where
  toDocument point := .text point.word
  ofDocument? := named? InjectionPoint.ofWord?

instance : Documented ArgModifier where
  toDocument modifier := .text modifier.word
  ofDocument? := named? ArgModifier.ofWord?

-- =========================================================== attributes

instance : Documented TypeAttribute where
  toDocument
    | .bindable onPropertyChanged =>
      .record [("kind", .text "bindable"), ("on_property_changed", toDocument onPropertyChanged)]
    | .eventRegister => .record [("kind", .text "event_register")]
  ofDocument? document :=
    document.readTagged "kind" fun kind rest => do
    match kind with
    | "bindable" =>
      let fields ← rest.fields? ["on_property_changed"]
      return .bindable (← optional fields "on_property_changed" false)
    | "event_register" =>
      let _ ← rest.fields? []
      return .eventRegister
    | _ => failure

instance : Documented FieldAttribute where
  toDocument
    | .alsoNotify target =>
      .record [("kind", .text "also_notify"), ("target", toDocument target)]
    | .autoNotify propertyName =>
      .record [("kind", .text "auto_notify"), ("property_name", toDocument propertyName)]
    | .codeInject point code =>
      .record
        [("kind", .text "code_inject"), ("point", toDocument point), ("code", toDocument code)]
    | .dontNotify => .record [("kind", .text "dont_notify")]
    | .propertyName name =>
      .record [("kind", .text "property_name"), ("name", toDocument name)]
  ofDocument? document :=
    document.readTagged "kind" fun kind rest => do
    match kind with
    | "also_notify" =>
      let fields ← rest.fields? ["target"]
      return .alsoNotify (← required fields "target")
    | "auto_notify" =>
      let fields ← rest.fields? ["property_name"]
      return .autoNotify (← optional fields "property_name" none)
    | "code_inject" =>
      let fields ← rest.fields? ["point", "code"]
      return .codeInject (← required fields "point") (← required fields "code")
    | "dont_notify" =>
      let _ ← rest.fields? []
      return .dontNotify
    | "property_name" =>
      let fields ← rest.fields? ["name"]
      return .propertyName (← required fields "name")
    | _ => failure

instance : Documented MethodAttribute where
  toDocument
    | .eventCall eventName views =>
      .record
        [("kind", .text "event_call"), ("event_name", toDocument eventName),
         ("views", toDocument views)]
  ofDocument? document :=
    document.readTagged "kind" fun kind rest => do
    match kind with
    | "event_call" =>
      let fields ← rest.fields? ["event_name", "views"]
      return .eventCall (← optional fields "event_name" none) (← optional fields "views" [])
    | _ => failure

-- ============================================================== members

instance : Documented FieldDecl where
  toDocument field :=
    .record
      [("name", toDocument field.name), ("ty", toDocument field.type),
       ("attributes", toDocument field.attributes), ("doc", toDocument field.doc)]
  ofDocument? document := do
    let fields ← document.fields? ["name", "ty", "attributes", "doc"]
    return {
      name := ← required fields "name"
      type := ← required fields "ty"
      attributes := ← optional fields "attributes" []
      doc := ← optional fields "doc" none }

instance : Documented PropertyDecl where
  toDocument property :=
    .record
      [("name", toDocument property.name), ("ty", toDocument property.type),
       ("getter", toDocument property.getter), ("getter_fn", toDocument property.getterFn)]
  ofDocument? document := do
    let fields ← document.fields? ["name", "ty", "getter", "getter_fn"]
    return {
      name := ← required fields "name"
      type := ← required fields "ty"
      getter := ← optional fields "getter" (some .«public»)
      getterFn := ← optional fields "getter_fn" none }

instance : Documented ArgDecl where
  toDocument arg :=
    .record
      [("name", toDocument arg.name), ("ty", toDocument arg.type),
       ("modifier", toDocument arg.modifier)]
  ofDocument? document := do
    let fields ← document.fields? ["name", "ty", "modifier"]
    return {
      name := ← required fields "name"
      type := ← required fields "ty"
      modifier := ← optional fields "modifier" .value }

instance : Documented MethodDecl where
  toDocument method :=
    .record
      [("name", toDocument method.name), ("args", toDocument method.args),
       ("returns", toDocument method.returns), ("is_static", toDocument method.isStatic),
       ("is_generic", toDocument method.isGeneric), ("is_async", toDocument method.isAsync),
       ("attributes", toDocument method.attributes)]
  ofDocument? document := do
    let fields ←
      document.fields?
        ["name", "args", "returns", "is_static", "is_generic", "is_async", "attributes"]
    return {
      name := ← required fields "name"
      args := ← optional fields "args" []
      returns := ← optional fields "returns" none
      isStatic := ← optional fields "is_static" false
      isGeneric := ← optional fields "is_generic" false
      isAsync := ← optional fields "is_async" false
      attributes := ← optional fields "attributes" [] }

-- ====================================================== types and enums

instance : Documented TypeDecl where
  toDocument decl :=
    .record
      [("name", toDocument decl.name), ("namespace", toDocument decl.scope),
       ("kind", toDocument decl.kind), ("accessibility", toDocument decl.accessibility),
       ("partial", toDocument decl.isPartial), ("sealed", toDocument decl.isSealed),
       ("parent", toDocument decl.parent), ("base", toDocument decl.base),
       ("attributes", toDocument decl.attributes), ("fields", toDocument decl.fields),
       ("properties", toDocument decl.properties), ("methods", toDocument decl.methods),
       ("derives", toDocument decl.derives), ("doc", toDocument decl.doc)]
  ofDocument? document := do
    let fields ←
      document.fields?
        ["name", "namespace", "kind", "accessibility", "partial", "sealed", "parent", "base",
         "attributes", "fields", "properties", "methods", "derives", "doc"]
    return {
      name := ← required fields "name"
      scope := ← optional fields "namespace" none
      kind := ← optional fields "kind" .«class»
      accessibility := ← optional fields "accessibility" .«public»
      isPartial := ← optional fields "partial" false
      isSealed := ← optional fields "sealed" false
      parent := ← optional fields "parent" none
      base := ← optional fields "base" none
      attributes := ← optional fields "attributes" []
      fields := ← optional fields "fields" []
      properties := ← optional fields "properties" []
      methods := ← optional fields "methods" []
      derives := ← optional fields "derives" []
      doc := ← optional fields "doc" none }

instance : Documented AliasDecl where
  toDocument entry :=
    .record [("locale", toDocument entry.locale), ("text", toDocument entry.text)]
  ofDocument? document := do
    let fields ← document.fields? ["locale", "text"]
    return {
      locale := ← optional fields "locale" none
      text := ← required fields "text" }

instance : Documented EnumValueDecl where
  toDocument value :=
    .record
      [("name", toDocument value.name), ("value", toDocument value.value),
       ("aliases", toDocument value.aliases)]
  ofDocument? document := do
    let fields ← document.fields? ["name", "value", "aliases"]
    return {
      name := ← required fields "name"
      value := ← required fields "value"
      aliases := ← optional fields "aliases" [] }

instance : Documented EnumDecl where
  toDocument decl :=
    .record
      [("name", toDocument decl.name), ("namespace", toDocument decl.scope),
       ("flags", toDocument decl.isFlags), ("values", toDocument decl.values)]
  ofDocument? document := do
    let fields ← document.fields? ["name", "namespace", "flags", "values"]
    return {
      name := ← required fields "name"
      scope := ← optional fields "namespace" none
      isFlags := ← optional fields "flags" false
      values := ← optional fields "values" [] }

-- ================================================= schemas and settings

instance : Documented Schema where
  toDocument schema :=
    .record [("types", toDocument schema.types), ("enums", toDocument schema.enums)]
  ofDocument? document := do
    let fields ← document.fields? ["types", "enums"]
    return {
      types := ← optional fields "types" []
      enums := ← optional fields "enums" [] }

instance : Documented Options where
  toDocument options :=
    .record
      [("root_path", toDocument options.rootPath), ("runtime_path", toDocument options.runtimePath),
       ("branch_threshold", toDocument options.branchThreshold),
       ("header", toDocument options.header)]
  ofDocument? document := do
    let fields ← document.fields? ["root_path", "runtime_path", "branch_threshold", "header"]
    return {
      rootPath := ← optional fields "root_path" "crate"
      runtimePath := ← optional fields "runtime_path" "::bindery"
      branchThreshold := ← optional fields "branch_threshold" 3
      header := ← optional fields "header" true }

end DataBinding
