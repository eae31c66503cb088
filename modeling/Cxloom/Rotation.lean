import Mathlib.Data.List.Rotate

/-!
# Serving a rotating list

A list is served from its head: the first entry that passes a test is taken, and the list is
rotated until that entry is its last one.  The passing entries then form a queue that every service
rotates by one place.
-/

namespace Cxloom.Rotation

variable {α : Type} (test : α → Bool)

/-- The entries that pass, in the order of a service. -/
def queue (entries : List α) : List α :=
  entries.filter test

variable {test} {entries rest : List α} {entry : α}

/-- The head of the queue stands behind entries that do not pass. -/
theorem split_of_queue (first : queue test entries = entry :: rest) :
    ∃ front back, entries = front ++ entry :: back ∧ queue test back = rest ∧
      (∀ other ∈ front, test other = false) ∧ test entry = true := by
  obtain ⟨front, back, split, skipped, passes, later⟩ := List.filter_eq_cons_iff.mp first
  refine ⟨front, back, split, later, fun other member => ?_, passes⟩
  exact Bool.eq_false_iff.mpr (skipped other member)

/-- A service moves the head of the queue to its end. -/
theorem queue_rotate (front back : List α) (skipped : ∀ other ∈ front, test other = false)
    (passes : test entry = true) :
    queue test ((front ++ entry :: back).rotate (front.length + 1)) =
      queue test back ++ [entry] := by
  have rotated : (front ++ entry :: back).rotate (front.length + 1) =
      back ++ (front ++ [entry]) := by
    have whole : front ++ entry :: back = (front ++ [entry]) ++ back := by simp
    have count : front.length + 1 = (front ++ [entry]).length := by simp
    rw [whole, count, List.rotate_append_length_eq]
  have nothing : queue test front = [] :=
    List.filter_eq_nil_iff.mpr fun other member => by simp [skipped other member]
  rw [rotated]
  simp only [queue, List.filter_append] at nothing ⊢
  rw [nothing]
  simp [passes]

end Cxloom.Rotation
