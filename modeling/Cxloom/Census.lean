import Mathlib.Algebra.Order.BigOperators.Group.Finset
import Mathlib.Data.Fintype.Basic
import Mathlib.Data.List.Basic
import Mathlib.Logic.Function.Basic

/-!
# Counting occupied slots

A table assigns to each of its first slots an entry or nothing.  The number of entries with a
property changes by at most one when one slot is written.  A sum over finitely many places changes
by the difference at the place that is written.
-/

namespace Cxloom.Census

variable {Entry : Type} (test : Entry → Bool)

/-- One for an entry with the property, zero otherwise. -/
def weight (entry : Option Entry) : Nat := (entry.any test).toNat

/-- Number of the first `bound` slots whose entry has the property. -/
def count (slots : Nat → Option Entry) : Nat → Nat
  | 0 => 0
  | bound + 1 => count slots bound + weight test (slots bound)

@[simp] theorem weight_none : weight test none = 0 := rfl

theorem weight_some (entry : Entry) : weight test (some entry) = (test entry).toNat := rfl

theorem weight_le_one (entry : Option Entry) : weight test entry ≤ 1 := Bool.toNat_le _

variable {test}

theorem count_congr {first second : Nat → Option Entry} {bound : Nat}
    (same : ∀ slot < bound, first slot = second slot) :
    count test first bound = count test second bound := by
  induction bound with
  | zero => rfl
  | succ bound induction =>
      rw [count, count, same bound (Nat.lt_succ_self bound),
        induction fun slot inside => same slot (Nat.lt_succ_of_lt inside)]

/-- Writing a slot exchanges the weights of its entries. -/
theorem count_update (test : Entry → Bool) (slots : Nat → Option Entry) {bound slot : Nat}
    (inside : slot < bound)
    (entry : Option Entry) :
    count test (Function.update slots slot entry) bound + weight test (slots slot) =
      count test slots bound + weight test entry := by
  induction bound with
  | zero => exact absurd inside (Nat.not_lt_zero slot)
  | succ bound induction =>
      rw [count, count]
      obtain last | earlier := Nat.lt_succ_iff_lt_or_eq.mp inside |>.symm
      · subst last
        have below : count test (Function.update slots slot entry) slot =
            count test slots slot :=
          count_congr fun other lower => Function.update_of_ne (Nat.ne_of_lt lower) _ _
        rw [below, Function.update_self]
        omega
      · rw [Function.update_of_ne (Nat.ne_of_gt earlier)]
        have rest := induction earlier
        omega

/-- Writing the first free slot adds the weight of its entry. -/
theorem count_push (test : Entry → Bool) (slots : Nat → Option Entry) (bound : Nat)
    (entry : Option Entry) :
    count test (Function.update slots bound entry) (bound + 1) =
      count test slots bound + weight test entry := by
  rw [count, Function.update_self]
  congr 1
  exact count_congr fun other lower => Function.update_of_ne (Nat.ne_of_lt lower) _ _

/-- Writing one place exchanges its contribution to a sum. -/
theorem sum_update {Place Value : Type} [Fintype Place] [DecidableEq Place] (value : Value → Nat)
    (places : Place → Value) (place : Place) (written : Value) :
    ∑ each, value (Function.update places place written each) + value (places place) =
      ∑ each, value (places each) + value written := by
  have others : ∑ each ∈ Finset.univ.erase place,
        value (Function.update places place written each) =
      ∑ each ∈ Finset.univ.erase place, value (places each) :=
    Finset.sum_congr rfl fun each member => by
      rw [Function.update_of_ne (Finset.ne_of_mem_erase member)]
  rw [← Finset.add_sum_erase Finset.univ _ (Finset.mem_univ place),
    ← Finset.add_sum_erase Finset.univ (fun each => value (places each)) (Finset.mem_univ place),
    others, Function.update_self]
  omega

/-- Taking one element out of a list lowers a count by its weight. -/
theorem countP_eraseIdx {Element : Type} (test : Element → Bool) {list : List Element}
    {index : Nat} {element : Element} (listed : list[index]? = some element) :
    (list.eraseIdx index).countP test + (test element).toNat = list.countP test := by
  obtain ⟨inside, rfl⟩ := List.getElem?_eq_some_iff.mp listed
  have taken := (List.getElem_cons_eraseIdx_perm inside).countP_eq test
  rw [← taken, List.countP_cons]
  cases test list[index] <;> simp

/-- Replacing an element by one of the same weight keeps a count. -/
theorem countP_set {Element : Type} (test : Element → Bool) {list : List Element} {index : Nat}
    {element replacement : Element} (listed : list[index]? = some element)
    (same : test replacement = test element) :
    (list.set index replacement).countP test = list.countP test := by
  have inside := (List.getElem?_eq_some_iff.mp listed).1
  have before := countP_eraseIdx test listed
  have after := countP_eraseIdx test
    (List.getElem?_set_self inside : (list.set index replacement)[index]? = some replacement)
  rw [List.eraseIdx_set_eq, same] at after
  exact after.symm.trans before

/-- An element of a list is the one at a position or is left when that one is taken out. -/
theorem eq_or_mem_eraseIdx {Element : Type} {list : List Element} {index : Nat}
    {element other : Element} (listed : list[index]? = some element) (member : other ∈ list) :
    other = element ∨ other ∈ list.eraseIdx index := by
  obtain ⟨inside, rfl⟩ := List.getElem?_eq_some_iff.mp listed
  exact List.mem_cons.mp ((List.getElem_cons_eraseIdx_perm inside).mem_iff.mpr member)

end Cxloom.Census
