import Mathlib.Data.Nat.Bitwise

/-!
# Sixty-four bit unsigned arithmetic

Sums, differences and products that wrap around at the word size, on natural numbers, and rounding
up to a power of two with zero as the sign of an overflow.
-/

namespace Cxloom

/-- Number of values of a machine word. -/
def wordLimit : Nat := 2 ^ 64

/-- Sum that wraps around. -/
def add64 (first second : Nat) : Nat := (first + second) % wordLimit

/-- Difference that wraps around. -/
def sub64 (first second : Nat) : Nat := (first + (wordLimit - second % wordLimit)) % wordLimit

/-- Product that wraps around. -/
def mul64 (first second : Nat) : Nat := first * second % wordLimit

/-- Complement of all bits. -/
def not64 (word : Nat) : Nat := wordLimit - 1 - word

/-- Round up to a multiple of a power of two; zero if the alignment is no power of two or the result
does not fit a word. -/
def alignUp (value alignment : Nat) : Nat :=
  let safe := max alignment 1
  if safe &&& sub64 safe 1 ≠ 0 then 0
  else
    let mask := sub64 safe 1
    if value > sub64 (wordLimit - 1) mask then 0 else add64 value mask &&& not64 mask

section Exact

variable {first second value alignment : Nat}

theorem add64_of_lt (fits : first + second < wordLimit) : add64 first second = first + second :=
  Nat.mod_eq_of_lt fits

theorem sub64_of_le (order : second ≤ first) (fits : first < wordLimit) :
    sub64 first second = first - second := by
  have small : second % wordLimit = second := Nat.mod_eq_of_lt (order.trans_lt fits)
  have wraps : first + (wordLimit - second) = first - second + wordLimit := by omega
  rw [sub64, small, wraps, Nat.add_mod_right, Nat.mod_eq_of_lt (by omega)]

theorem mul64_of_lt (fits : first * second < wordLimit) : mul64 first second = first * second :=
  Nat.mod_eq_of_lt fits

theorem isPowerOfTwo_iff (positive : 0 < alignment) (fits : alignment < wordLimit) :
    alignment &&& sub64 alignment 1 = 0 ↔ alignment.isPowerOfTwo := by
  rw [sub64_of_le positive fits]
  exact Nat.and_sub_one_eq_zero_iff_isPowerOfTwo (by omega)

theorem isPowerOfTwo_le (power : alignment.isPowerOfTwo) (fits : alignment < wordLimit) :
    alignment ≤ 2 ^ 63 := by
  obtain ⟨exponent, rfl⟩ := power
  have below : exponent < 64 := (Nat.pow_lt_pow_iff_right (by decide)).mp fits
  exact Nat.pow_le_pow_right (by decide) (by omega)

/-- Clearing the low bits of a word rounds it down. -/
theorem and_not64 {exponent : Nat} (fits : value < wordLimit) (small : exponent < 64) :
    value &&& not64 (2 ^ exponent - 1) = value / 2 ^ exponent * 2 ^ exponent := by
  have power : 2 ^ exponent < wordLimit := Nat.pow_lt_pow_right (by decide) small
  have positive : 0 < 2 ^ exponent := Nat.two_pow_pos exponent
  have shape : not64 (2 ^ exponent - 1) = 2 ^ 64 - ((2 ^ exponent - 1) + 1) := by
    simp only [not64, wordLimit]
    omega
  rw [← Nat.shiftRight_eq_div_pow, ← Nat.shiftLeft_eq, shape]
  apply Nat.eq_of_testBit_eq
  intro position
  have narrow : 2 ^ exponent - 1 < 2 ^ 64 := (Nat.sub_le _ _).trans_lt power
  rw [Nat.testBit_and, Nat.testBit_two_pow_sub_succ narrow, Nat.testBit_two_pow_sub_one,
    Nat.testBit_shiftLeft, Nat.testBit_shiftRight]
  by_cases low : position < exponent
  · simp [low, Nat.not_le.mpr low]
  · have high : exponent ≤ position := Nat.le_of_not_lt low
    rw [Nat.add_sub_cancel' high]
    by_cases inside : position < 64
    · simp [low, high, inside]
    · have absent : value.testBit position = false :=
        Nat.testBit_lt_two_pow (fits.trans_le (Nat.pow_le_pow_right (by decide) (by omega)))
      simp [absent]

/-- Rounding up by a power of two, exactly. -/
theorem alignUp_eq (power : alignment.isPowerOfTwo) (fits : alignment < wordLimit) :
    alignUp value alignment =
      if value + (alignment - 1) < wordLimit then
        (value + (alignment - 1)) / alignment * alignment
      else 0 := by
  have positive := Nat.pos_of_isPowerOfTwo power
  have safe : max alignment 1 = alignment := Nat.max_eq_left positive
  have clear := (isPowerOfTwo_iff positive fits).mpr power
  rw [sub64_of_le positive fits] at clear
  have mask : sub64 alignment 1 = alignment - 1 := sub64_of_le positive fits
  have bound : sub64 (wordLimit - 1) (alignment - 1) = wordLimit - alignment := by
    rw [sub64_of_le (by omega) (by omega)]
    omega
  simp only [alignUp, safe, clear, ne_eq, not_true, if_false, mask, bound]
  by_cases small : value + (alignment - 1) < wordLimit
  · obtain ⟨exponent, rfl⟩ := power
    have below : exponent < 64 := (Nat.pow_lt_pow_iff_right (by decide)).mp fits
    have within : ¬value > wordLimit - 2 ^ exponent := by
      have order : value + 2 ^ exponent ≤ wordLimit := by omega
      exact Nat.not_lt.mpr (Nat.le_sub_of_add_le order)
    rw [if_neg within, if_pos small, add64_of_lt small, and_not64 small below]
  · have beyond : value > wordLimit - alignment := by omega
    rw [if_pos beyond, if_neg small]

/-- The rounded value is the first multiple at or behind the given one. -/
theorem alignUp_spec (power : alignment.isPowerOfTwo) (fits : alignment < wordLimit)
    (small : value + (alignment - 1) < wordLimit) :
    value ≤ alignUp value alignment ∧ alignUp value alignment ≤ value + (alignment - 1) ∧
      alignment ∣ alignUp value alignment ∧
      ∀ multiple, alignment ∣ multiple → value ≤ multiple →
        alignUp value alignment ≤ multiple := by
  have positive := Nat.pos_of_isPowerOfTwo power
  rw [alignUp_eq power fits, if_pos small]
  have split := Nat.div_add_mod (value + (alignment - 1)) alignment
  have below := Nat.mod_lt (value + (alignment - 1)) positive
  rw [Nat.mul_comm] at split
  refine ⟨by omega, by omega, Nat.dvd_mul_left _ _, ?_⟩
  rintro _ ⟨quotient, rfl⟩ order
  have least : (value + (alignment - 1)) / alignment ≤ quotient := by
    apply Nat.le_of_lt_succ
    rw [Nat.div_lt_iff_lt_mul positive, Nat.succ_mul, Nat.mul_comm quotient]
    omega
  calc (value + (alignment - 1)) / alignment * alignment
      ≤ quotient * alignment := Nat.mul_le_mul_right _ least
    _ = alignment * quotient := Nat.mul_comm _ _

/-- A rounded value that is not below the given one did not overflow. -/
theorem small_of_le_alignUp (power : alignment.isPowerOfTwo) (fits : alignment < wordLimit)
    (order : value ≤ alignUp value alignment) :
    value + (alignment - 1) < wordLimit ∨ value = 0 := by
  rw [alignUp_eq power fits] at order
  split at order
  · rename_i small
    exact .inl small
  · exact .inr (Nat.le_zero.mp order)

/-- A value that is a multiple already stays as it is. -/
theorem alignUp_of_dvd (power : alignment.isPowerOfTwo) (fits : alignment < wordLimit)
    (small : value + (alignment - 1) < wordLimit) (divides : alignment ∣ value) :
    alignUp value alignment = value := by
  obtain ⟨low, -, -, least⟩ := alignUp_spec power fits small
  exact Nat.le_antisymm (least value divides (Nat.le_refl _)) low

/-- Rounding up keeps the multiples of another power of two. -/
theorem alignUp_dvd_of_dvd {unit : Nat} (unitPower : unit.isPowerOfTwo)
    (power : alignment.isPowerOfTwo) (fits : alignment < wordLimit)
    (small : value + (alignment - 1) < wordLimit) (divides : unit ∣ value) :
    unit ∣ alignUp value alignment := by
  obtain ⟨first, rfl⟩ := unitPower
  obtain ⟨second, rfl⟩ := power
  rcases Nat.le_total first second with order | order
  · exact (Nat.pow_dvd_pow 2 order).trans (alignUp_spec ⟨second, rfl⟩ fits small).2.2.1
  · rw [alignUp_of_dvd ⟨second, rfl⟩ fits small ((Nat.pow_dvd_pow 2 order).trans divides)]
    exact divides

end Exact

end Cxloom
