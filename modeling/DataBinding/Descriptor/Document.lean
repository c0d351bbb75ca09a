/-
Descriptors, registries and diagnostics as documents, the form in which an
analysis is shown.
-/
import DataBinding.Analysis
import DataBinding.Declaration.Document

namespace DataBinding

-- =========================================================== properties

def PropertyOrigin.word : PropertyOrigin → String
  | .ancestor => "ancestor"
  | .declared => "declared"
  | .field => "field"

def GenerationMode.word : GenerationMode → String
  | .bindable _ => "bindable"
  | .autoNotify => "auto_notify"

def MethodKind.label : MethodKind → String
  | .final => "Final"
  | .overridable => "Overridable"
  | .refinement => "Refinement"

def InjectedCode.document (injected : InjectedCode) : Document :=
  .record
    [("on_get", toDocument injected.onGet),
     ("on_set_before_change", toDocument injected.onSetBeforeChange),
     ("on_set_after_change", toDocument injected.onSetAfterChange)]

def Property.document (property : Property) : Document :=
  .record
    [("field_name", toDocument property.fieldName?),
     ("property_name", toDocument property.name),
     ("category", .text property.category.label),
     ("declared_type", toDocument property.declaredType),
     ("type_full_name", toDocument property.typeFullName),
     ("enum_name", toDocument property.enumName),
     ("origin", .text property.origin.word),
     ("declaring_type", toDocument property.owner),
     ("also_notify", toDocument property.alsoNotify),
     ("injected", property.injected.document),
     ("suppress_notify", toDocument property.isSuppressed),
     ("getter_fn", toDocument property.getterFn?),
     ("doc", toDocument property.doc)]

def FieldSlot.document (slot : FieldSlot) : Document :=
  .record
    [("name", toDocument slot.name), ("declared_type", toDocument slot.declaredType),
     ("category", .text slot.category.label), ("enum_name", toDocument slot.enumName),
     ("doc", toDocument slot.doc)]

-- ================================================================ types

/-- An outline with the given members, all under the names of a type. -/
def TypeOutline.document (outline : TypeOutline) (slots : List FieldSlot)
    (own merged : List Property) : Document :=
  .record
    [("full_name", toDocument outline.fullName),
     ("simple_name", toDocument outline.simpleName),
     ("namespace", toDocument outline.scope),
     ("mode", .text outline.mode.word),
     ("accessibility", toDocument outline.accessibility),
     ("is_value_type", toDocument outline.isValueType),
     ("is_sealed", toDocument outline.isSealed),
     ("base", toDocument outline.base),
     ("base_type_chain", toDocument outline.chain),
     ("bindable_ancestor_depth", toDocument outline.ancestorDepth),
     ("ancestor_already_implements", toDocument outline.ancestorImplements),
     ("ancestor_declared_change_event", toDocument outline.ancestorRaisesEvents),
     ("use_change_event", toDocument outline.raisesEvents),
     ("fields", .list (slots.map FieldSlot.document)),
     ("own_properties", .list (own.map Property.document)),
     ("merged_properties", .list (merged.map Property.document)),
     ("derives", toDocument outline.derives),
     ("doc", toDocument outline.doc)]

def TypeDescriptor.document (type : TypeDescriptor) : Document :=
  type.toTypeOutline.document type.slots type.own type.merged

def ArgumentDescriptor.document (argument : ArgumentDescriptor) : Document :=
  .record
    [("name", toDocument argument.name), ("declared_type", toDocument argument.declaredType),
     ("type_full_name", toDocument argument.typeFullName), ("kind", .text argument.kind.label),
     ("enum_name", toDocument argument.enumName), ("by_ref", toDocument argument.byRef)]

def EventCallDescriptor.document (call : EventCallDescriptor) : Document :=
  .record
    [("method_name", toDocument call.methodName), ("event_name", toDocument call.eventName),
     ("views", toDocument call.views), ("is_static", toDocument call.isStatic),
     ("returns", toDocument call.returns),
     ("arguments", .list (call.arguments.map ArgumentDescriptor.document))]

def EventTypeDescriptor.document (type : EventTypeDescriptor) : Document :=
  .record
    [("full_name", toDocument type.fullName), ("simple_name", toDocument type.simpleName),
     ("namespace", toDocument type.scope), ("is_sealed", toDocument type.isSealed),
     ("base_type_chain", toDocument type.chain),
     ("register_ancestor_depth", toDocument type.registerDepth),
     ("calls", .list (type.calls.map EventCallDescriptor.document))]

/-- Which of the properties of a type its code deals with, and how. -/
def TypeDescriptor.view (type : TypeDescriptor) : Document :=
  let names (properties : List Property) := toDocument (properties.map (·.name))
  .record
    [("full_name", .text type.fullName), ("method_kind", .text type.methodKind.label),
     ("accessors", names type.accessors),
     ("dispatch", .list (DispatchKind.all.map fun kind =>
       .list [.text kind.label, names (type.dispatched kind)])),
     ("merged", .list (type.merged.map fun property =>
       .list
         [.text property.name, toDocument (type.depthOf? property.owner),
          .bool property.isEnum, .bool property.isInherited]))]

-- ================================================================ enums

def EnumValue.document (value : EnumValue) : Document :=
  .record
    [("int_value", toDocument value.intValue), ("name", toDocument value.name),
     ("aliases", .list (value.aliases.map fun (locale, text) => .list [.text locale, .text text]))]

def EnumDescriptor.document (descriptor : EnumDescriptor) : Document :=
  .record
    [("full_name", toDocument descriptor.fullName), ("flags", toDocument descriptor.isFlags),
     ("values", .list (descriptor.values.map EnumValue.document))]

def EnumRegistry.document (registry : EnumRegistry) : Document :=
  .record
    [("enums", .record (registry.sorted.map fun entry => (entry.fullName, entry.document))),
     ("emitted", toDocument registry.sortedEmitted)]

-- ========================================================== diagnostics

def Diagnostic.document (diagnostic : Diagnostic) : Document :=
  .record
    [("code", .text diagnostic.code.label), ("severity", .text diagnostic.severity.word),
     ("type_name", toDocument diagnostic.typeName), ("message", toDocument diagnostic.message)]

end DataBinding
