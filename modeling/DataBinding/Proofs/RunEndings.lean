/-
The words over which a run ends. A fault of emission is a fault of one
type, with one exception: a name that the check of names has let pass, or
that no check was asked about, and that is no word of code.

# Where such words come from

Of the faults that the code of a file may have, those about paths, types
and statements concern one type alone. What is left are declared names that
the check overlooks, and locals. So every word over which the emission of a
type ends is one of those that `EndsRun` lists: its own name, names of its
fields, of its accessors and of what they notify, of variants it brings
along, or a local. The emission of event calls writes only the names of the
called methods.
-/
import DataBinding.Proofs.UnitFaults

namespace DataBinding.Emission

open Code

variable {α : Type} {type : TypeDescriptor} {enums : List EnumDescriptor}

-- ================================================================= words

/-- In the first block of characters the check takes for letters and digits
what code takes for them, so every overlooked name goes beyond it. -/
theorem Overlooked.beyond_ascii {text : String} (overlooked : Overlooked text) :
    ∃ c ∈ text.toList, 128 ≤ c.toNat := by
  have starts : ∀ code < 128, Text.alphabetic.holds code = true →
      Text.nameStart.holds code = true := by
    decide +kernel
  have continues : ∀ code < 128,
      (code == '_'.toNat || (Text.alphabetic.holds code || Text.numeric.holds code)) = true →
        Text.nameContinue.holds code = true := by
    decide +kernel
  obtain ⟨looks, -, noName⟩ := overlooked
  by_contra none
  have ascii : ∀ c ∈ text.toList, c.toNat < 128 :=
    fun c inside => Nat.lt_of_not_le fun beyond => none ⟨c, inside, beyond⟩
  cases characters : text.toList with
  | nil =>
    rw [characters] at looks
    cases looks
  | cons first rest =>
    rw [characters] at looks noName ascii
    rw [looksLikeName, Bool.and_eq_true, Bool.or_eq_true, List.all_eq_true] at looks
    have starting : Text.startsName first = true := by
      rw [Text.startsName, Bool.or_eq_true]
      exact looks.1.imp_right (starts _ (ascii first List.mem_cons_self))
    have continuing : rest.all Text.continuesName = true := by
      rw [List.all_eq_true]
      intro c inside
      refine continues _ (ascii c (List.mem_cons_of_mem first inside)) ?_
      rcases Bool.or_eq_true _ _ ▸ looks.2 c inside with underscore | letter
      · rw [beq_iff_eq.1 underscore]
        rfl
      · exact Bool.or_eq_true_iff.2 (Or.inr letter)
    rw [Text.isName, starting, continuing] at noName
    cases noName

-- ============================================================ run endings

/-- The faults that end a run only over certain words. -/
def EndsOver (ends : String → Prop) : EmitFault → Prop
  | .noWord text => ends text
  | _ => True

theorem endsOver_of_alone {ends : String → Prop} {fault : EmitFault}
    (alone : fault.endsRun = false) : EndsOver ends fault := by
  cases fault with
  | noWord => cases alone
  | invalidName | invalidInjection | invalidPath | invalidType => exact trivial

/-- The emission of a type ends a run over its own words only. -/
abbrev Confined (type : TypeDescriptor) (enums : List EnumDescriptor) (emission : Emit α) :
    Prop :=
  FailsOnly (EndsOver (EndsRun type enums)) emission

/-- The code of a type ends a run over the type's own words only. -/
theorem typeUnit_confined (paths : CodePaths) :
    Confined type enums (typeUnit paths type enums) := by
  refine (typeUnit_faults paths type enums).mono fun fault faulty => ?_
  cases faulty with
  | word ends => exact ends
  | reading faulty => exact endsOver_of_alone faulty.alone
  | base _ _ faulty => exact endsOver_of_alone faulty.alone
  | slot _ faulty => exact endsOver_of_alone faulty.alone
  | accessor _ faulty => exact endsOver_of_alone faulty.alone
  | name | noField | astray => exact trivial

/-- The code of event calls ends a run over names of the called methods
only. -/
theorem eventUnit_endsOver {ends : String → Prop} (paths : CodePaths) {type : EventTypeDescriptor}
    (covered : ∀ call ∈ type.calls, Overlooked call.methodName → ends call.methodName) :
    FailsOnly (EndsOver ends) (eventUnit paths type) := by
  refine (eventUnit_faults paths type).mono fun fault faulty => ?_
  cases faulty with
  | reading faulty => exact endsOver_of_alone faulty.alone
  | method listed faulty =>
    cases faulty with
    | refused => exact trivial
    | overlooked overlooked => exact covered _ listed overlooked
  | argument _ _ faulty => exact endsOver_of_alone faulty.alone

end DataBinding.Emission
