import Mathlib.Data.Nat.SuccPred
import Mathlib.Data.Set.Function
import Mathlib.Order.CompletePartialOrder
import Mathlib.Order.SuccPred.IntervalSucc

/-!
# Tables of ordered pairs

The numbering of the ordered pairs of distinct numbers, row by row without the diagonal; records of
one size behind a header; and the number of entries for which equal records fit a given space.
-/

namespace Cxloom.PairTable

/-! ## Numbering -/

/-- Ordered pairs of distinct numbers below a count. -/
def pairs (count : Nat) : Set (Nat × Nat) :=
  {pair | pair.1 < count ∧ pair.2 < count ∧ pair.1 ≠ pair.2}

/-- Place of a second number in the row of a first one, which leaves itself out. -/
def column (first second : Nat) : Nat := if second < first then second else second - 1

/-- Number of a pair. -/
def rank (count : Nat) (pair : Nat × Nat) : Nat := pair.1 * (count - 1) + column pair.1 pair.2

section Rank

variable {count first second second' : Nat}

theorem column_lt (firstBelow : first < count) (secondBelow : second < count)
    (distinct : first ≠ second) : column first second < count - 1 := by
  unfold column
  split <;> omega

theorem column_inj (distinct : first ≠ second) (distinct' : first ≠ second')
    (same : column first second = column first second') : second = second' := by
  unfold column at same
  split at same <;> split at same <;> omega

/-- Every place of a row belongs to a second number. -/
theorem exists_column {place : Nat} (firstBelow : first < count) (below : place < count - 1) :
    ∃ second < count, first ≠ second ∧ column first second = place := by
  by_cases before : place < first
  · exact ⟨place, by omega, by omega, if_pos before⟩
  · exact ⟨place + 1, by omega, by omega, by rw [column, if_neg (by omega), Nat.add_sub_cancel]⟩

/-- The row of a number and its place there. -/
theorem rank_div_mod {pair : Nat × Nat} (member : pair ∈ pairs count) :
    rank count pair / (count - 1) = pair.1 ∧
      rank count pair % (count - 1) = column pair.1 pair.2 := by
  obtain ⟨firstBelow, secondBelow, distinct⟩ := member
  have inRow := column_lt firstBelow secondBelow distinct
  have positive : 0 < count - 1 := (Nat.zero_le _).trans_lt inRow
  rw [rank, Nat.add_comm]
  exact ⟨by rw [Nat.add_mul_div_right _ _ positive, Nat.div_eq_of_lt inRow, Nat.zero_add],
    by rw [Nat.add_mul_mod_self_right, Nat.mod_eq_of_lt inRow]⟩

theorem rank_lt {pair : Nat × Nat} (member : pair ∈ pairs count) :
    rank count pair < count * (count - 1) := by
  obtain ⟨firstBelow, secondBelow, distinct⟩ := member
  have inRow := column_lt firstBelow secondBelow distinct
  calc rank count pair
      < pair.1 * (count - 1) + (count - 1) := Nat.add_lt_add_left inRow _
    _ = (pair.1 + 1) * (count - 1) := (Nat.succ_mul _ _).symm
    _ ≤ count * (count - 1) := Nat.mul_le_mul_right _ firstBelow

theorem rank_injOn (count : Nat) : Set.InjOn (rank count) (pairs count) := by
  rintro ⟨first, second⟩ member ⟨first', second'⟩ member' same
  have ranks := rank_div_mod member
  have ranks' := rank_div_mod member'
  rw [same] at ranks
  obtain rfl : first = first' := ranks.1.symm.trans ranks'.1
  obtain rfl : second = second' :=
    column_inj member.2.2 member'.2.2 (ranks.2.symm.trans ranks'.2)
  rfl

theorem exists_rank {index : Nat} (below : index < count * (count - 1)) :
    ∃ pair ∈ pairs count, rank count pair = index := by
  have positive : 0 < count - 1 := by
    rcases Nat.eq_zero_or_pos (count - 1) with none | some
    · rw [none, Nat.mul_zero] at below
      exact (Nat.not_lt_zero _ below).elim
    · exact some
  have firstBelow : index / (count - 1) < count := (Nat.div_lt_iff_lt_mul positive).mpr below
  obtain ⟨second, secondBelow, distinct, place⟩ :=
    exists_column firstBelow (Nat.mod_lt index positive)
  refine ⟨(index / (count - 1), second), ⟨firstBelow, secondBelow, distinct⟩, ?_⟩
  rw [rank, place, Nat.div_add_mod']

/-- The numbering is one to one and leaves no number out. -/
theorem rank_bijOn (count : Nat) :
    Set.BijOn (rank count) (pairs count) (Set.Iio (count * (count - 1))) :=
  ⟨fun _ member => rank_lt member, rank_injOn count, fun _ below => exists_rank below⟩

end Rank

/-! ## Records of one size -/

/-- Positions of a record. -/
def record (base stride index : Nat) : Set Nat :=
  Set.Ico (base + index * stride) (base + (index + 1) * stride)

section Record

variable {base stride index index' count : Nat}

theorem record_disjoint (different : index ≠ index') :
    Disjoint (record base stride index) (record base stride index') := by
  have ordered : Monotone fun index => base + index * stride := fun _ _ order =>
    Nat.add_le_add_left (Nat.mul_le_mul_right _ order) _
  exact ordered.pairwise_disjoint_on_Ico_succ different

/-- The records below a count lie in the space of that many records. -/
theorem record_subset (below : index < count) :
    record base stride index ⊆ Set.Ico base (base + count * stride) :=
  Set.Ico_subset_Ico (Nat.le_add_right _ _) (Nat.add_le_add_left (Nat.mul_le_mul_right _ below) _)

end Record

/-! ## Capacity -/

/-- Equal records with a header and some entries each fit a space exactly if their headers do and
the entries are not more than the share of a record has room for. -/
theorem fits_iff {base count header entry entries space : Nat} (records : 0 < count)
    (size : 0 < entry) :
    base + count * (header + entries * entry) ≤ space ↔
      base + count * header ≤ space ∧ entries ≤ ((space - base) / count - header) / entry := by
  have share : ∀ bytes, base ≤ space →
      (base + count * bytes ≤ space ↔ bytes ≤ (space - base) / count) := by
    intro bytes room
    rw [Nat.le_div_iff_mul_le records, Nat.le_sub_iff_add_le room, Nat.add_comm, Nat.mul_comm]
  by_cases room : base ≤ space
  · rw [share _ room, share _ room, Nat.le_div_iff_mul_le size]
    omega
  · exact iff_of_false (by omega) (by omega)

end Cxloom.PairTable
