/-
The theory of first offers: from a list of items, those whose key no
earlier item has.

Two facts carry every use of it. The taken keys matter only as a set
(`firstOffers_congr`), so first offers of a concatenation are computed
piece by piece, each piece with the keys of the earlier ones taken
(`firstOffers_append`). And what is left out of a piece beforehand would
have been left out anyway (`firstOffers_absorb`): a list of first offers
may stand in for the list it was made from.
-/
import DataBinding.Extraction
import Mathlib.Data.List.Nodup

namespace DataBinding

variable {α : Type} {key : α → String}

-- ======================================================== distinct keys

/-- Among distinct keys an item is found by its key. -/
theorem find?_of_nodup {items : List α} (distinct : (items.map key).Nodup) {item : α}
    (inside : item ∈ items) : items.find? (key · == key item) = some item := by
  cases found : items.find? (key · == key item) with
  | none => exact absurd (List.find?_eq_none.1 found item inside) (by simp)
  | some other =>
    have named := List.find?_some found
    have same : key other = key item := by simpa using named
    rw [List.inj_on_of_nodup_map distinct (List.mem_of_find?_eq_some found) inside same]

/-- What is made of items one by one, under their keys, has some of these
keys in their order. -/
theorem keys_filterMap_sublist {β : Type} {make? : β → Option α} {origin : β → String}
    (keeps : ∀ given made, make? given = some made → key made = origin given)
    (items : List β) : ((items.filterMap make?).map key).Sublist (items.map origin) := by
  induction items with
  | nil => exact List.Sublist.slnil
  | cons given rest ih =>
    cases made : make? given with
    | none =>
      rw [List.filterMap_cons_none made]
      exact ih.cons _
    | some item =>
      rw [List.filterMap_cons_some made, List.map_cons, List.map_cons, keeps given item made]
      exact ih.cons_cons _

/-- Among distinct keys it does not matter in which order items stand. -/
theorem find?_of_perm {items others : List α} (distinct : (items.map key).Nodup)
    (perm : items.Perm others) (name : String) :
    items.find? (key · == name) = others.find? (key · == name) := by
  cases found : items.find? (key · == name) with
  | some item =>
    have named : key item = name := by simpa using List.find?_some found
    have inside := perm.mem_iff.1 (List.mem_of_find?_eq_some found)
    rw [← named]
    exact (find?_of_nodup ((perm.map key).nodup_iff.1 distinct) inside).symm
  | none =>
    refine (List.find?_eq_none.2 fun item inside => ?_).symm
    exact List.find?_eq_none.1 found item (perm.mem_iff.2 inside)

-- ============================================================ equations

theorem firstOffers_cons_of_mem {taken : List String} {item : α}
    (old : key item ∈ taken) (rest : List α) :
    firstOffers key taken (item :: rest) = firstOffers key taken rest := by
  rw [firstOffers, if_pos old]

theorem firstOffers_cons_of_not_mem {taken : List String} {item : α}
    (new : key item ∉ taken) (rest : List α) :
    firstOffers key taken (item :: rest)
      = item :: firstOffers key (key item :: taken) rest := by
  rw [firstOffers, if_neg new]

/-- Which keys are taken matters, not their order. -/
theorem firstOffers_congr {taken others : List String}
    (same : ∀ k, k ∈ taken ↔ k ∈ others) (items : List α) :
    firstOffers key taken items = firstOffers key others items := by
  induction items generalizing taken others with
  | nil => rfl
  | cons item rest ih =>
    by_cases old : key item ∈ taken
    · rw [firstOffers_cons_of_mem old, firstOffers_cons_of_mem ((same _).1 old)]
      exact ih same
    · have new : key item ∉ others := fun inOthers => old ((same _).2 inOthers)
      rw [firstOffers_cons_of_not_mem old, firstOffers_cons_of_not_mem new]
      congr 1
      apply ih
      intro k
      rw [List.mem_cons, List.mem_cons, same]

-- =========================================================== membership

/-- First offers are some of the items, in their order. -/
theorem firstOffers_sublist (taken : List String) (items : List α) :
    (firstOffers key taken items).Sublist items := by
  induction items generalizing taken with
  | nil => exact List.Sublist.slnil
  | cons item rest ih =>
    by_cases old : key item ∈ taken
    · rw [firstOffers_cons_of_mem old]
      exact (ih taken).cons item
    · rw [firstOffers_cons_of_not_mem old]
      exact (ih _).cons_cons item

/-- The keys of the first offers are those of the items, less the taken
ones. -/
theorem mem_keys_firstOffers {taken : List String} {items : List α} {k : String} :
    k ∈ (firstOffers key taken items).map key ↔ k ∈ items.map key ∧ k ∉ taken := by
  induction items generalizing taken with
  | nil => simp [firstOffers]
  | cons item rest ih =>
    by_cases old : key item ∈ taken
    · rw [firstOffers_cons_of_mem old, ih, List.map_cons, List.mem_cons]
      constructor
      · rintro ⟨inRest, new⟩
        exact ⟨Or.inr inRest, new⟩
      · rintro ⟨rfl | inRest, new⟩
        · exact absurd old new
        · exact ⟨inRest, new⟩
    · rw [firstOffers_cons_of_not_mem old, List.map_cons, List.map_cons, List.mem_cons,
        List.mem_cons, ih, List.mem_cons]
      by_cases same : k = key item
      · subst same
        simp [old]
      · simp [same]

/-- No key is offered twice. -/
theorem nodup_keys_firstOffers (taken : List String) (items : List α) :
    ((firstOffers key taken items).map key).Nodup := by
  induction items generalizing taken with
  | nil => exact List.nodup_nil
  | cons item rest ih =>
    by_cases old : key item ∈ taken
    · rw [firstOffers_cons_of_mem old]
      exact ih taken
    · rw [firstOffers_cons_of_not_mem old, List.map_cons, List.nodup_cons]
      refine ⟨fun again => ?_, ih _⟩
      exact (mem_keys_firstOffers.1 again).2 List.mem_cons_self

/-- Items whose keys are all taken offer nothing. -/
theorem firstOffers_eq_nil {taken : List String} {items : List α}
    (old : ∀ k ∈ items.map key, k ∈ taken) : firstOffers key taken items = [] := by
  cases offered : firstOffers key taken items with
  | nil => rfl
  | cons item rest =>
    have inside : key item ∈ (firstOffers key taken items).map key := by
      rw [offered]
      exact List.mem_cons_self
    obtain ⟨among, new⟩ := mem_keys_firstOffers.1 inside
    exact absurd (old _ among) new

/-- Under a free key the first offer is the first item of that key. -/
theorem find?_firstOffers {taken : List String} {k : String} (free : k ∉ taken)
    (items : List α) :
    (firstOffers key taken items).find? (key · == k) = items.find? (key · == k) := by
  induction items generalizing taken with
  | nil => rfl
  | cons item rest ih =>
    by_cases same : key item = k
    · have new : key item ∉ taken := same ▸ free
      rw [firstOffers_cons_of_not_mem new, List.find?_cons_of_pos (by simpa using same),
        List.find?_cons_of_pos (by simpa using same)]
    · rw [List.find?_cons_of_neg (by simpa using same)]
      by_cases old : key item ∈ taken
      · rw [firstOffers_cons_of_mem old]
        exact ih free
      · rw [firstOffers_cons_of_not_mem old, List.find?_cons_of_neg (by simpa using same)]
        refine ih fun inside => ?_
        rcases List.mem_cons.1 inside with rfl | inTaken
        · exact same rfl
        · exact free inTaken

/-- A first offer is the first item of its key. -/
theorem find?_of_mem_firstOffers {items : List α} {item : α}
    (offered : item ∈ firstOffers key [] items) :
    items.find? (key · == key item) = some item := by
  rw [← find?_firstOffers List.not_mem_nil]
  exact find?_of_nodup (nodup_keys_firstOffers [] items) offered

-- ============================================================== in parts

/-- First offers of a concatenation, piece by piece. -/
theorem firstOffers_append (taken : List String) (xs ys : List α) :
    firstOffers key taken (xs ++ ys)
      = firstOffers key taken xs ++ firstOffers key (xs.map key ++ taken) ys := by
  induction xs generalizing taken with
  | nil => rfl
  | cons x xs ih =>
    rw [List.cons_append]
    by_cases old : key x ∈ taken
    · rw [firstOffers_cons_of_mem old, firstOffers_cons_of_mem old, ih]
      congr 1
      apply firstOffers_congr
      intro k
      simp only [List.map_cons, List.cons_append, List.mem_cons, List.mem_append]
      constructor
      · exact Or.inr
      · rintro (rfl | inside)
        · exact Or.inr old
        · exact inside
    · rw [firstOffers_cons_of_not_mem old, firstOffers_cons_of_not_mem old, ih,
        List.cons_append]
      congr 2
      apply firstOffers_congr
      intro k
      simp only [List.map_cons, List.cons_append, List.mem_cons, List.mem_append]
      exact or_left_comm

/-- One more item is a first offer if its key is new. -/
theorem firstOffers_concat (items : List α) (last : α) :
    firstOffers key [] (items ++ [last])
      = firstOffers key [] items ++ if key last ∈ items.map key then [] else [last] := by
  rw [firstOffers_append, List.append_nil, firstOffers, firstOffers, firstOffers]

/-- One more item is a later offer if its key is known. -/
theorem laterOffers_concat (taken : List String) (items : List α) (last : α) :
    laterOffers key taken (items ++ [last])
      = laterOffers key taken items
        ++ if key last ∈ taken ∨ key last ∈ items.map key then [last] else [] := by
  induction items generalizing taken with
  | nil =>
    simp only [List.nil_append, laterOffers, List.map_nil, List.not_mem_nil, or_false]
  | cons item rest ih =>
    by_cases old : key item ∈ taken
    · have known : key last ∈ taken ∨ key last = key item ∨ key last ∈ rest.map key
          ↔ key last ∈ taken ∨ key last ∈ rest.map key := by
        refine ⟨?_, Or.imp_right Or.inr⟩
        rintro (inTaken | same | inRest)
        · exact .inl inTaken
        · exact .inl (same ▸ old)
        · exact .inr inRest
      simp only [List.cons_append, laterOffers, if_pos old, ih, List.map_cons, List.mem_cons, known]
    · simp only [List.cons_append, laterOffers, if_neg old, ih, List.map_cons, List.mem_cons,
        or_assoc, or_left_comm]

/-- A piece whose keys are all taken or offered before it may go. -/
theorem firstOffers_drop {taken : List String} {xs ys : List α}
    (old : ∀ k ∈ ys.map key, k ∈ xs.map key ∨ k ∈ taken) (zs : List α) :
    firstOffers key taken (xs ++ (ys ++ zs)) = firstOffers key taken (xs ++ zs) := by
  have nothing : firstOffers key (xs.map key ++ taken) ys = [] :=
    firstOffers_eq_nil fun k inside => List.mem_append.2 (old k inside)
  rw [firstOffers_append, firstOffers_append, firstOffers_append, nothing, List.nil_append]
  congr 1
  apply firstOffers_congr
  intro k
  rw [List.mem_append]
  constructor
  · rintro (inYs | inside)
    · exact List.mem_append.2 (old k inYs)
    · exact inside
  · exact Or.inr

/-- The same items over again offer nothing new. -/
theorem firstOffers_again (taken : List String) (xs ys : List α) :
    firstOffers key taken (xs ++ (ys ++ ys)) = firstOffers key taken (xs ++ ys) := by
  have old : ∀ k ∈ ys.map key, k ∈ (xs ++ ys).map key ∨ k ∈ taken := by
    intro k inside
    rw [List.map_append]
    exact Or.inl (List.mem_append_right _ inside)
  have dropped := firstOffers_drop old []
  rw [List.append_nil, List.append_nil, List.append_assoc] at dropped
  exact dropped

/-- First offers of first offers: what was left out before would have been
left out now. -/
theorem firstOffers_firstOffers {taken fewer : List String} (subset : fewer ⊆ taken)
    (items : List α) :
    firstOffers key taken (firstOffers key fewer items) = firstOffers key taken items := by
  induction items generalizing taken fewer with
  | nil => rfl
  | cons item rest ih =>
    by_cases old : key item ∈ fewer
    · rw [firstOffers_cons_of_mem old, firstOffers_cons_of_mem (subset old)]
      exact ih subset
    · rw [firstOffers_cons_of_not_mem old]
      by_cases old' : key item ∈ taken
      · rw [firstOffers_cons_of_mem old', firstOffers_cons_of_mem old']
        exact ih (List.cons_subset.2 ⟨old', subset⟩)
      · rw [firstOffers_cons_of_not_mem old', firstOffers_cons_of_not_mem old']
        congr 1
        exact ih (List.cons_subset_cons _ subset)

/-- The same in front of more items. -/
theorem firstOffers_absorb (taken : List String) (xs ys : List α) :
    firstOffers key taken (firstOffers key [] xs ++ ys) = firstOffers key taken (xs ++ ys) := by
  rw [firstOffers_append, firstOffers_append,
    firstOffers_firstOffers (List.nil_subset taken)]
  congr 1
  apply firstOffers_congr
  intro k
  rw [List.mem_append, List.mem_append, mem_keys_firstOffers]
  simp only [List.not_mem_nil, not_false_eq_true, and_true]

/-- A change that keeps the keys may come before or after. -/
theorem firstOffers_map {f : α → α} (keeps : ∀ item, key (f item) = key item)
    (taken : List String) (items : List α) :
    firstOffers key taken (items.map f) = (firstOffers key taken items).map f := by
  induction items generalizing taken with
  | nil => rfl
  | cons item rest ih =>
    rw [List.map_cons]
    by_cases old : key item ∈ taken
    · rw [firstOffers_cons_of_mem old, firstOffers_cons_of_mem ((keeps item).symm ▸ old)]
      exact ih taken
    · have new : key (f item) ∉ taken := (keeps item).symm ▸ old
      rw [firstOffers_cons_of_not_mem old, firstOffers_cons_of_not_mem new, List.map_cons,
        keeps]
      congr 1
      exact ih _

-- ========================================================= the library's

/-- First offers are what the library's removal of duplicates keeps. -/
theorem eraseDupsBy_loop_eq (seen items : List α) :
    List.eraseDupsBy.loop (fun a b => key a == key b) items seen
      = seen.reverse ++ firstOffers key (seen.map key) items := by
  induction items generalizing seen with
  | nil =>
    unfold List.eraseDupsBy.loop
    rw [firstOffers, List.append_nil]
  | cons item rest ih =>
    unfold List.eraseDupsBy.loop
    have known : (seen.any fun a => key item == key a) = true ↔ key item ∈ seen.map key := by
      rw [List.any_eq_true, List.mem_map]
      constructor
      · rintro ⟨other, inside, same⟩
        exact ⟨other, inside, (beq_iff_eq.1 same).symm⟩
      · rintro ⟨other, inside, same⟩
        exact ⟨other, inside, beq_iff_eq.2 same.symm⟩
    by_cases old : key item ∈ seen.map key
    · rw [firstOffers_cons_of_mem old, known.2 old]
      exact ih seen
    · have new : (seen.any fun a => key item == key a) = false := by
        rw [Bool.eq_false_iff]
        exact fun inside => old (known.1 inside)
      rw [firstOffers_cons_of_not_mem old, new]
      show List.eraseDupsBy.loop _ rest (item :: seen) = _
      rw [ih, List.reverse_cons, List.map_cons, List.append_assoc]
      rfl

theorem eraseDupsBy_eq (items : List α) :
    items.eraseDupsBy (fun a b => key a == key b) = firstOffers key [] items :=
  eraseDupsBy_loop_eq [] items

/-- Without duplicates a list has each item once. -/
theorem nodup_eraseDups {β : Type} [BEq β] [LawfulBEq β] (items : List β) :
    items.eraseDups.Nodup := by
  match items with
  | [] => exact List.nodup_nil
  | item :: rest =>
    have shorter := List.length_filter_le (fun other => !other == item) rest
    rw [List.eraseDups_cons, List.nodup_cons, List.mem_eraseDups, List.mem_filter]
    refine ⟨fun again => ?_, nodup_eraseDups _⟩
    simp at again
termination_by items.length
decreasing_by
  rw [List.length_cons]
  omega

end DataBinding
