import Mathlib.Data.Nat.Bitwise
import Mathlib.Data.Nat.Find

/-!
# Sixty-four bit host masks

A set of hosts packed into one machine word.  The full mask of `count` members is computed with
a special case at the word size, where the shift of the general formula would be undefined.
-/

namespace Cxloom

/-- A machine word used as a set of positions below sixty-four. -/
abbrev HostMask : Type := BitVec 64

namespace HostMask

def bit (position : Nat) : HostMask := 1#64 <<< position

/-- The mask of all positions below `count`. -/
def all (count : Nat) : HostMask :=
  if count = 64 then ~~~0#64 else (1#64 <<< count) - 1#64

/-- Membership test by masking. -/
def contains (mask : HostMask) (position : Nat) : Bool := mask &&& bit position ≠ 0#64

theorem getLsbD_bit (position other : Nat) :
    (bit position).getLsbD other = decide (other < 64 ∧ other = position) := by
  simp only [bit, BitVec.getLsbD_shiftLeft, BitVec.getLsbD_one]
  by_cases below : other < 64 <;> simp [below]
  by_cases order : other < position
  · simp [order, Nat.ne_of_lt order]
  · simp only [order, decide_false, Bool.not_false, Bool.true_and, decide_eq_decide]
    omega

theorem contains_eq_getLsbD (mask : HostMask) {position : Nat} (below : position < 64) :
    mask.contains position = mask.getLsbD position := by
  rw [contains]
  cases member : mask.getLsbD position with
  | false =>
      have empty : mask &&& bit position = 0#64 := by
        apply BitVec.eq_of_getLsbD_eq
        intro other _
        rw [BitVec.getLsbD_and, getLsbD_bit, BitVec.getLsbD_zero]
        by_cases same : other = position
        · simp [same, member]
        · simp [same]
      simp [empty]
  | true =>
      have nonempty : mask &&& bit position ≠ 0#64 := by
        intro empty
        have vanishes := congrArg (fun word => word.getLsbD position) empty
        simp only [BitVec.getLsbD_and, getLsbD_bit, member, below, BitVec.getLsbD_zero] at vanishes
        simp at vanishes
      simp [nonempty]

@[simp] theorem contains_zero (position : Nat) : contains 0#64 position = false := by
  simp [contains]

theorem contains_or_bit (mask : HostMask) {position other : Nat} (below : position < 64) :
    (mask ||| bit other).contains position = (mask.contains position || position = other) := by
  rw [contains_eq_getLsbD _ below, contains_eq_getLsbD _ below, BitVec.getLsbD_or, getLsbD_bit]
  simp [below]

theorem contains_and_not_bit (mask : HostMask) {position other : Nat} (below : position < 64) :
    (mask &&& ~~~bit other).contains position =
      (mask.contains position && !decide (position = other)) := by
  rw [contains_eq_getLsbD _ below, contains_eq_getLsbD _ below, BitVec.getLsbD_and,
    BitVec.getLsbD_not, getLsbD_bit]
  simp [below]

theorem contains_all {count position : Nat} (fits : count ≤ 64) (below : position < 64) :
    (all count).contains position = decide (position < count) := by
  rw [contains_eq_getLsbD _ below, all]
  split
  · rename_i full
    rw [BitVec.getLsbD_not, BitVec.getLsbD_zero]
    simp [full]
  · rename_i notFull
    have small : count < 64 := by omega
    have value : ((1#64 <<< count) - 1#64).toNat = 2 ^ count - 1 := by
      have power : 2 ^ count < 2 ^ 64 := Nat.pow_lt_pow_right (by decide) small
      have positive : 0 < 2 ^ count := Nat.two_pow_pos count
      rw [BitVec.toNat_sub, BitVec.toNat_shiftLeft]
      simp only [BitVec.toNat_ofNat, Nat.shiftLeft_eq]
      rw [Nat.mod_eq_of_lt (by omega : 1 < 2 ^ 64), Nat.one_mul, Nat.mod_eq_of_lt power]
      omega
    rw [BitVec.getLsbD, value, Nat.testBit_two_pow_sub_one]

theorem contains_of_eq_all {mask : HostMask} {count position : Nat} (fits : count ≤ 64)
    (full : mask = all count) (member : position < count) : mask.contains position = true := by
  rw [full, contains_all fits (member.trans_le fits)]
  simpa using member

theorem bit_injective {position other : Nat} (below : position < 64)
    (same : bit position = bit other) : position = other := by
  have member := congrArg (fun word => word.getLsbD position) same
  simp only [getLsbD_bit, below, true_and, and_self, decide_true] at member
  exact of_decide_eq_true member.symm

/-! ## The lowest member -/

/-- The lowest member of a mask, by the two's complement of the word. -/
def lowest (mask : HostMask) : HostMask := mask &&& (~~~mask + 1#64)

theorem contains_lowest (mask : HostMask) {position : Nat} (below : position < 64) :
    mask.lowest.contains position =
      (mask.contains position && decide (∀ other < position, mask.contains other = false)) := by
  rw [contains_eq_getLsbD _ below, contains_eq_getLsbD _ below, lowest, ← BitVec.neg_eq_not_add,
    BitVec.getLsbD_and, BitVec.getLsbD_neg]
  have lower : (∃ other < position, mask.getLsbD other = true) ↔
      ¬∀ other < position, mask.contains other = false := by
    push Not
    refine exists_congr fun other => and_congr_right fun order => ?_
    rw [contains_eq_getLsbD _ (order.trans below), Bool.ne_false_iff]
  simp only [below, decide_true, Bool.true_and, lower, decide_not]
  cases mask.getLsbD position <;> simp

theorem lowest_eq_bit {mask : HostMask} (nonempty : mask ≠ 0#64) :
    ∃ position < 64, mask.contains position = true ∧ mask.lowest = bit position := by
  have member : ∃ position, position < 64 ∧ mask.contains position = true := by
    by_contra none
    apply nonempty
    apply BitVec.eq_of_getLsbD_eq
    intro position below
    rw [← contains_eq_getLsbD _ below, BitVec.getLsbD_zero]
    simpa using fun member => none ⟨position, below, member⟩
  obtain ⟨below, present⟩ := Nat.find_spec member
  have first : ∀ other < Nat.find member, mask.contains other = false := by
    intro other order
    have absent := Nat.find_min member order
    simpa [order.trans below] using absent
  refine ⟨Nat.find member, below, present, ?_⟩
  apply BitVec.eq_of_getLsbD_eq
  intro position inside
  rw [← contains_eq_getLsbD _ inside, contains_lowest _ inside, getLsbD_bit]
  by_cases same : position = Nat.find member
  · subst same
    simpa [inside, present] using first
  · simp only [inside, same, and_false, decide_false, Bool.and_eq_false_iff,
      decide_eq_false_iff_not]
    rcases Nat.lt_or_gt_of_ne same with earlier | later
    · exact .inl (first position earlier)
    · refine .inr fun absent => ?_
      rw [absent _ later] at present
      cases present

theorem contains_not (mask : HostMask) {position : Nat} (below : position < 64) :
    (~~~mask).contains position = !mask.contains position := by
  rw [contains_eq_getLsbD _ below, contains_eq_getLsbD _ below, BitVec.getLsbD_not]
  simp [below]

theorem contains_and (mask other : HostMask) {position : Nat} (below : position < 64) :
    (mask &&& other).contains position = (mask.contains position && other.contains position) := by
  rw [contains_eq_getLsbD _ below, contains_eq_getLsbD _ below, contains_eq_getLsbD _ below,
    BitVec.getLsbD_and]

theorem contains_or (mask other : HostMask) {position : Nat} (below : position < 64) :
    (mask ||| other).contains position = (mask.contains position || other.contains position) := by
  rw [contains_eq_getLsbD _ below, contains_eq_getLsbD _ below, contains_eq_getLsbD _ below,
    BitVec.getLsbD_or]

theorem contains_bit (other : Nat) {position : Nat} (below : position < 64) :
    (bit other).contains position = decide (position = other) := by
  rw [contains_eq_getLsbD _ below, getLsbD_bit]
  simp [below]

end HostMask
end Cxloom
