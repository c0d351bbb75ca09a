/-
How emissions succeed and fail. An emission made of several steps succeeds
when all of them do, and its fault is the fault of one of them. So what a
piece of code may be at fault for is read off its parts (`FailsOnly`),
without looking at the tokens that come out.
-/
import DataBinding.Code.Name
import Mathlib.Data.List.Forall2

namespace DataBinding.Emission

open Code

variable {α β : Type}

-- ============================================================= success

/-- Two steps succeed when both do. -/
theorem bind_eq_ok {first : Emit α} {next : α → Emit β} {result : β} :
    first >>= next = .ok result ↔ ∃ value, first = .ok value ∧ next value = .ok result := by
  cases first with
  | error fault =>
    constructor
    · intro impossible
      cases impossible
    · rintro ⟨_, impossible, -⟩
      cases impossible
  | ok value =>
    constructor
    · intro run
      exact ⟨value, rfl, run⟩
    · rintro ⟨_, same, run⟩
      cases same
      exact run

/-- A step for each item gives a result for each item. -/
theorem forall₂_of_mapM_ok {step : α → Emit β} {items : List α} {results : List β}
    (run : items.mapM step = .ok results) :
    List.Forall₂ (fun item result => step item = .ok result) items results := by
  induction items generalizing results with
  | nil =>
    cases run
    exact .nil
  | cons item rest ih =>
    rw [List.mapM_cons] at run
    obtain ⟨result, here, run⟩ := bind_eq_ok.1 run
    obtain ⟨others, later, run⟩ := bind_eq_ok.1 run
    cases run
    exact .cons here (ih later)

/-- When there is a result for each item, there are all. -/
theorem mapM_ok {step : α → Emit β} {belongs : α → β → Prop} {items : List α}
    (each : ∀ item ∈ items, ∃ result, step item = .ok result ∧ belongs item result) :
    ∃ results, items.mapM step = .ok results ∧ List.Forall₂ belongs items results := by
  induction items with
  | nil => exact ⟨[], rfl, .nil⟩
  | cons item rest ih =>
    obtain ⟨result, here, belonging⟩ := each item List.mem_cons_self
    obtain ⟨results, later, others⟩ := ih fun other inside =>
      each other (List.mem_cons_of_mem item inside)
    refine ⟨result :: results, ?_, .cons belonging others⟩
    rw [List.mapM_cons, here, later]
    rfl

/-- If each result belongs to an item, a given one does. -/
theorem exists_of_forall₂ {belongs : α → β → Prop} {items : List α} {results : List β}
    (each : List.Forall₂ belongs items results) {result : β} (inside : result ∈ results) :
    ∃ item ∈ items, belongs item result := by
  induction each with
  | nil => cases inside
  | cons here _ ih =>
    rcases List.mem_cons.1 inside with rfl | later
    · exact ⟨_, List.mem_cons_self, here⟩
    · obtain ⟨item, among, there⟩ := ih later
      exact ⟨item, List.mem_cons_of_mem _ among, there⟩

-- ============================================================== faults

/-- Every fault with which an emission can end is of a certain sort. -/
def FailsOnly (sort : EmitFault → Prop) (emission : Emit α) : Prop :=
  ∀ fault, emission = .error fault → sort fault

namespace FailsOnly

variable {sort : EmitFault → Prop}

theorem ok (value : α) : FailsOnly sort (.ok value : Emit α) :=
  fun _ failed => nomatch failed

theorem error {fault : EmitFault} (among : sort fault) :
    FailsOnly sort (.error fault : Emit α) := by
  intro fault' failed
  cases failed
  exact among

theorem bind {first : Emit α} {next : α → Emit β} (firstFails : FailsOnly sort first)
    (nextFails : ∀ value, FailsOnly sort (next value)) : FailsOnly sort (first >>= next) := by
  intro fault failed
  cases result : first with
  | error fault' =>
    rw [result] at failed
    cases failed
    exact firstFails fault result
  | ok value =>
    rw [result] at failed
    exact nextFails value fault failed

theorem map {emission : Emit α} (fails : FailsOnly sort emission) (made : α → β) :
    FailsOnly sort (emission.map made) := by
  intro fault failed
  cases result : emission with
  | error fault' =>
    rw [result] at failed
    cases failed
    exact fails fault result
  | ok value =>
    rw [result] at failed
    cases failed

theorem mapM {step : α → Emit β} {items : List α}
    (stepFails : ∀ item ∈ items, FailsOnly sort (step item)) :
    FailsOnly sort (items.mapM step) := by
  induction items with
  | nil => exact ok []
  | cons item rest ih =>
    rw [List.mapM_cons]
    refine bind (stepFails item List.mem_cons_self) fun result => ?_
    refine bind (ih fun other inside => stepFails other (List.mem_cons_of_mem item inside)) ?_
    exact fun others => ok (result :: others)

theorem mono {others : EmitFault → Prop} {emission : Emit α} (fails : FailsOnly sort emission)
    (wider : ∀ fault, sort fault → others fault) : FailsOnly others emission :=
  fun fault failed => wider fault (fails fault failed)

end FailsOnly

/-- A text that has to be a word is at fault for not being one. -/
theorem word_failsOnly (text : String) : FailsOnly (· = .noWord text) (word text) := by
  intro fault failed
  unfold word at failed
  split at failed
  · cases failed
  · cases failed
    rfl

/-- A declared name is at fault for not being a name, or no word. -/
theorem name_failsOnly (text : String) :
    FailsOnly (fun fault => fault = .invalidName text ∨ fault = .noWord text) (name text) := by
  intro fault failed
  unfold name at failed
  split at failed
  · cases failed
    exact Or.inl rfl
  · split at failed
    · cases failed
    · exact Or.inr (word_failsOnly text fault failed)

end DataBinding.Emission
