/-
Types with event calls. The search goes through the declarations as the
scan does: it walks the same bases, asks for the same shape and cuts the
chain at the same ancestors. It is opened here once: which declarations it
accepts and what it makes of them (`screenEvents_eq_ok`), that linking reads
nothing of the others but their names (`link_event_congr`), and hence where
a listed event type comes from (`mem_eventTypes`).
-/
import DataBinding.Proofs.Analysis

namespace DataBinding

variable {schema : Schema} {options : Options} {analysis : Analysis}

-- ============================================================ screening

/-- What the search makes of one declaration. -/
def acceptEvent? (schema : Schema) (decl : TypeDecl) : Option EventTypeDescriptor :=
  (baseChain schema decl).bind fun chain =>
    if (shapeViolations decl).isEmpty then
      some (eventTypeOf decl chain (extractCalls schema decl).value)
    else none

/-- A declaration is accepted when its chain ends and its shape breaks no
rule. -/
theorem acceptEvent?_eq_some {decl : TypeDecl} {type : EventTypeDescriptor} :
    acceptEvent? schema decl = some type ↔
      ∃ chain, baseChain schema decl = some chain ∧ shapeViolations decl = []
        ∧ eventTypeOf decl chain (extractCalls schema decl).value = type := by
  unfold acceptEvent?
  constructor
  · intro accepted
    obtain ⟨chain, walked, kept⟩ := Option.bind_eq_some_iff.1 accepted
    split at kept
    · next clean => exact ⟨chain, walked, List.isEmpty_iff.1 clean, Option.some.inj kept⟩
    · cases kept
  · rintro ⟨chain, walked, clean, rfl⟩
    rw [walked, Option.bind_some, clean]
    rfl

/-- Searching a declaration whose chain ends adds what is accepted of it. -/
theorem screenEvents_cons {decl : TypeDecl} {chain : List String}
    (walked : baseChain schema decl = some chain) (rest : List TypeDecl) :
    (screenEvents schema (decl :: rest)).value
      = (screenEvents schema rest).value.map ((acceptEvent? schema decl).toList ++ ·) := by
  rw [screenEvents]
  simp only [walked, acceptEvent?, Option.bind_some]
  split
  · rfl
  · exact (congrFun Except.map_id (screenEvents schema rest).value).symm

/-- The search ends when all chains end, and then it keeps the accepted
declarations in their order. -/
theorem screenEvents_eq_ok {decls : List TypeDecl} {found : List EventTypeDescriptor} :
    (screenEvents schema decls).value = .ok found ↔
      found = decls.filterMap (acceptEvent? schema)
        ∧ ∀ decl ∈ decls, (baseChain schema decl).isSome := by
  induction decls generalizing found with
  | nil =>
    constructor
    · intro run
      cases run
      exact ⟨rfl, fun decl inside => absurd inside List.not_mem_nil⟩
    · rintro ⟨rfl, -⟩
      rfl
  | cons decl rest ih =>
    cases walked : baseChain schema decl with
    | none =>
      constructor
      · intro run
        rw [screenEvents] at run
        simp only [walked] at run
        cases run
      · rintro ⟨-, ended⟩
        have here := ended decl List.mem_cons_self
        rw [walked] at here
        cases here
    | some chain =>
      rw [screenEvents_cons walked, except_map_eq_ok, filterMap_cons_toList]
      constructor
      · rintro ⟨kept, later, rfl⟩
        obtain ⟨rfl, ended⟩ := ih.1 later
        exact ⟨rfl, List.forall_mem_cons.2 ⟨by rw [walked]; rfl, ended⟩⟩
      · rintro ⟨rfl, ended⟩
        exact ⟨_, ih.2 ⟨rfl, (List.forall_mem_cons.1 ended).2⟩, rfl⟩

/-- What the search reports about one declaration. -/
def eventDiagnostics (schema : Schema) (decl : TypeDecl) : List Diagnostic :=
  if (shapeViolations decl).isEmpty then (extractCalls schema decl).diagnostics
  else (unreportedViolations decl).map (·.diagnostic decl)

/-- Where all chains end, each declaration is reported about in its turn. -/
theorem diagnostics_screenEvents {decls : List TypeDecl}
    (ended : ∀ decl ∈ decls, (baseChain schema decl).isSome) :
    (screenEvents schema decls).diagnostics = decls.flatMap (eventDiagnostics schema) := by
  induction decls with
  | nil => rfl
  | cons decl rest ih =>
    obtain ⟨here, later⟩ := List.forall_mem_cons.1 ended
    obtain ⟨chain, walked⟩ := Option.isSome_iff_exists.1 here
    rw [List.flatMap_cons, ← ih later, screenEvents, eventDiagnostics]
    simp only [walked]
    split <;> rfl

/-- Dropping earlier types of one name keeps the others in their order. -/
theorem lastOffers_sublist (types : List EventTypeDescriptor) :
    (lastOffers types).Sublist types := by
  induction types with
  | nil => exact List.Sublist.slnil
  | cons type rest ih =>
    rw [lastOffers]
    split
    · exact ih.cons type
    · exact ih.cons_cons type

/-- Of distinct names nothing is dropped. -/
theorem lastOffers_of_nodup {types : List EventTypeDescriptor}
    (distinct : (types.map (·.fullName)).Nodup) : lastOffers types = types := by
  induction types with
  | nil => rfl
  | cons type rest ih =>
    rw [List.map_cons, List.nodup_cons] at distinct
    rw [lastOffers, if_neg, ih distinct.2]
    intro again
    obtain ⟨other, inside, same⟩ := List.any_eq_true.1 again
    exact distinct.1 (List.mem_map.2 ⟨other, inside, eq_of_beq same⟩)

/-- What is kept has distinct names. -/
theorem nodup_lastOffers (types : List EventTypeDescriptor) :
    ((lastOffers types).map (·.fullName)).Nodup := by
  induction types with
  | nil => exact List.nodup_nil
  | cons type rest ih =>
    rw [lastOffers]
    split
    · exact ih
    · next last =>
      rw [List.map_cons, List.nodup_cons]
      refine ⟨fun again => last ?_, ih⟩
      obtain ⟨other, kept, same⟩ := List.mem_map.1 again
      have later := (lastOffers_sublist rest).subset kept
      exact List.any_eq_true.2 ⟨other, later, beq_iff_eq.2 same⟩

-- ============================================================== linking

/-- Linking reads only the names of the other types. -/
theorem link_event_congr {accepted others : List EventTypeDescriptor}
    (same : ∀ name, name ∈ accepted.map (·.fullName) ↔ name ∈ others.map (·.fullName))
    (type : EventTypeDescriptor) : type.link schema accepted = type.link schema others := by
  have listed : ∀ (types : List EventTypeDescriptor) (name : String),
      types.any (·.fullName == name) = true ↔ name ∈ types.map (·.fullName) := by
    intro types name
    simp [List.any_eq_true]
  have names : ∀ name, accepted.any (·.fullName == name) = others.any (·.fullName == name) := by
    intro name
    rw [Bool.eq_iff_iff, listed, listed]
    exact same name
  unfold EventTypeDescriptor.link
  simp only [names]

/-- The search succeeds when the chains of all that ask for event calls
end, and then it lists what is accepted of them. -/
theorem eventTypes_eq_ok {types : List EventTypeDescriptor} :
    (eventTypes schema).value = .ok types ↔
      (∀ decl ∈ schema.types.filter (·.isEventRegister), (baseChain schema decl).isSome)
        ∧ ∃ accepted, accepted = lastOffers
              ((schema.types.filter (·.isEventRegister)).filterMap (acceptEvent? schema))
          ∧ types = ancestorsFirst (·.fullName) (·.chain)
              (accepted.map (·.link schema accepted)) := by
  show (screenEvents schema _).value.map _ = _ ↔ _
  rw [except_map_eq_ok]
  constructor
  · rintro ⟨found, screened, rfl⟩
    obtain ⟨rfl, ended⟩ := screenEvents_eq_ok.1 screened
    exact ⟨ended, _, rfl, rfl⟩
  · rintro ⟨ended, _, rfl, rfl⟩
    exact ⟨_, screenEvents_eq_ok.2 ⟨rfl, ended⟩, rfl⟩

/-- All that has happened when the search succeeds. -/
theorem eventTypes_ok {types : List EventTypeDescriptor}
    (run : (eventTypes schema).value = .ok types) :
    ∃ accepted, accepted = lastOffers
          ((schema.types.filter (·.isEventRegister)).filterMap (acceptEvent? schema))
      ∧ types = ancestorsFirst (·.fullName) (·.chain)
          (accepted.map (·.link schema accepted)) :=
  (eventTypes_eq_ok.1 run).2

/-- Listed event types have distinct names. -/
theorem distinct_of_eventTypes {types : List EventTypeDescriptor}
    (run : (eventTypes schema).value = .ok types) : (types.map (·.fullName)).Nodup := by
  obtain ⟨accepted, kept, sorted⟩ := eventTypes_ok run
  have perm := ancestorsFirst_perm EventTypeDescriptor.fullName EventTypeDescriptor.chain
    (accepted.map (·.link schema accepted))
  rw [← sorted] at perm
  rw [(perm.map (·.fullName)).nodup_iff, List.map_map, kept]
  exact nodup_lastOffers _

/-- Where a listed event type comes from: a declaration that asks for event
calls, whose chain ends and whose shape breaks no rule, linked against the
list. -/
theorem mem_eventTypes {types : List EventTypeDescriptor} {type : EventTypeDescriptor}
    (run : (eventTypes schema).value = .ok types) (listed : type ∈ types) :
    ∃ decl chain, decl ∈ schema.types ∧ decl.isEventRegister = true
      ∧ baseChain schema decl = some chain ∧ shapeViolations decl = []
      ∧ type = (eventTypeOf decl chain (extractCalls schema decl).value).link schema types := by
  obtain ⟨accepted, kept, sorted⟩ := eventTypes_ok run
  have perm : types.Perm (accepted.map (·.link schema accepted)) := by
    rw [sorted]
    exact ancestorsFirst_perm _ _ _
  have names : ∀ name, name ∈ accepted.map (·.fullName) ↔ name ∈ types.map (·.fullName) := by
    intro name
    rw [(perm.map (·.fullName)).mem_iff, List.map_map]
    rfl
  obtain ⟨unlinked, inside, rfl⟩ := List.mem_map.1 (perm.mem_iff.1 listed)
  rw [kept] at inside
  obtain ⟨decl, registers, acceptedDecl⟩ :=
    List.mem_filterMap.1 ((lastOffers_sublist _).subset inside)
  obtain ⟨chain, walked, clean, rfl⟩ := acceptEvent?_eq_some.1 acceptedDecl
  obtain ⟨declared, marked⟩ := List.mem_filter.1 registers
  exact ⟨decl, chain, declared, marked, walked, clean, link_event_congr names _⟩

end DataBinding
