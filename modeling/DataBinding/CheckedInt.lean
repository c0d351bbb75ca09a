/-
Integers of 32 bits, out of integers that may be too large for them.
-/
namespace DataBinding

/-- A number grew too large. -/
structure Overflow where
  deriving DecidableEq

/-- The number itself, if 32 bits can hold it. -/
def int32? (value : Int) : Option Int32 :=
  if -2147483648 ≤ value ∧ value ≤ 2147483647 then some (Int32.ofInt value) else none

theorem toInt_of_int32? {value : Int} {number : Int32} (h : int32? value = some number) :
    number.toInt = value := by
  unfold int32? at h
  split at h
  · cases h
    exact Int32.toInt_ofInt_of_le (by omega) (by omega)
  · cases h

/-- The number itself, if 32 bits without a sign can hold it. -/
def uint32? (value : Nat) : Option UInt32 :=
  if value ≤ 4294967295 then some (UInt32.ofNat value) else none

theorem toNat_of_uint32? {value : Nat} {number : UInt32} (h : uint32? value = some number) :
    number.toNat = value := by
  unfold uint32? at h
  split at h
  next fits =>
    cases h
    exact UInt32.toNat_ofNat_of_lt' (Nat.lt_succ_of_le fits)
  next => cases h

/-- One more can be counted unless the count is the largest of 32 bits. -/
theorem uint32?_succ (count : UInt32) :
    uint32? (count.toNat + 1) = if count = 4294967295 then none else some (count + 1) := by
  have full : count = 4294967295 ↔ count.toNat = 4294967295 := UInt32.toNat_inj.symm
  have bound := count.toNat_lt
  unfold uint32?
  by_cases last : count = 4294967295
  · have toNat := full.1 last
    rw [if_pos last, if_neg (by omega)]
  · have toNat := mt full.2 last
    rw [if_neg last, if_pos (by omega), UInt32.ofNat_add, UInt32.ofNat_toNat]
    rfl

/-- A count that is full stays as it is. -/
theorem toNat_getD_uint32?_succ (count : UInt32) :
    ((uint32? (count.toNat + 1)).getD count).toNat = min (count.toNat + 1) 4294967295 := by
  have bound := count.toNat_lt
  cases counted : uint32? (count.toNat + 1) with
  | some next =>
    have toNat := toNat_of_uint32? counted
    have room := next.toNat_lt
    rw [Option.getD_some]
    omega
  | none =>
    rw [uint32?_succ] at counted
    split at counted
    next full => rw [Option.getD_none, full]; rfl
    next => cases counted

end DataBinding
