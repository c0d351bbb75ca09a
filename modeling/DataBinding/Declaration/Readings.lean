/-
What a declaration says besides its parts: the names, marks and defaults
that follow from it, as a document.
-/
import DataBinding.Declaration.Document

namespace DataBinding

open Document

def TypeKind.label : TypeKind → String
  | .«class» => "Class"
  | .struct => "Struct"

def ArgModifier.label : ArgModifier → String
  | .out => "Out"
  | .params => "Params"
  | .ref => "Ref"
  | .value => "Value"

def FieldDecl.readings (field : FieldDecl) : Document :=
  .record
    [("name", .text field.name), ("property_name", toDocument field.explicitName?),
     ("dont_notify", .bool field.isSuppressed), ("also_notify", toDocument field.alsoNotify),
     ("code_injections", .list (field.injections.map fun (point, code) =>
       .list [toDocument point, .text code])),
     ("auto_notify", .bool field.isAutoNotify),
     ("auto_notify_name", toDocument field.autoNotifyName?)]

def MethodDecl.readings (method : MethodDecl) : Document :=
  let call :=
    match method.eventCall? with
    | none => .null
    | some (eventName, views) =>
      .record [("event_name", toDocument eventName), ("views", toDocument views)]
  .record
    [("name", .text method.name), ("event_call", call),
     ("modifiers", .list (method.args.map fun arg => .text arg.modifier.label))]

def PropertyDecl.readings (property : PropertyDecl) : Document :=
  .record
    [("name", .text property.name),
     ("getter", toDocument (property.getter.map Accessibility.label)),
     ("visible", .bool (property.getter.any Accessibility.isExternallyVisible)),
     ("getter_fn", toDocument property.getterFn)]

def TypeDecl.readings (decl : TypeDecl) : Document :=
  .record
    [("full_name", .text decl.fullName), ("kind", .text decl.kind.label),
     ("accessibility", .text decl.accessibility.label),
     ("externally_visible", .bool decl.accessibility.isExternallyVisible),
     ("bindable", toDocument decl.bindable?), ("event_register", .bool decl.isEventRegister),
     ("has_auto_notify_fields", .bool decl.hasAutoNotifyFields),
     ("is_value_type", .bool decl.isValueType), ("is_nested", .bool decl.isNested),
     ("fields", .list (decl.fields.map FieldDecl.readings)),
     ("methods", .list (decl.methods.map MethodDecl.readings)),
     ("properties", .list (decl.properties.map PropertyDecl.readings))]

end DataBinding
