import Mathlib.Data.List.Basic

/-!
# Queues with selective servers

Items wait in a queue.  A server takes the first item that is eligible for it, wherever that stands,
and new items join at the end.  An item that a server may take is overtaken by that server at most
as often as there are items ahead of it.
-/

namespace Cxloom.ReadyQueue

variable {Item Server : Type} {eligible : Item → Bool} {queue rest : List Item} {item other : Item}

/-- Remove the first eligible item. -/
def take (eligible : Item → Bool) (queue : List Item) : Option (Item × List Item) :=
  (queue.find? eligible).map fun item => (item, queue.eraseP eligible)

theorem take_split (taken : take eligible queue = some (item, rest)) :
    ∃ front back, (∀ other ∈ front, eligible other = false) ∧ eligible item = true ∧
      queue = front ++ item :: back ∧ rest = front ++ back := by
  obtain ⟨first, found, same⟩ := Option.map_eq_some_iff.mp taken
  obtain ⟨rfl, rfl⟩ := Prod.mk.inj same
  obtain ⟨suits, front, back, rfl, before⟩ := List.find?_eq_some_iff_append.mp found
  have skipped : ∀ other ∈ front, eligible other = false := fun other member => by
    simpa using before other member
  refine ⟨front, back, skipped, suits, rfl, ?_⟩
  rw [List.eraseP_append_right _ fun other member => by simp [skipped other member],
    List.eraseP_cons_of_pos suits]

theorem take_eligible (taken : take eligible queue = some (item, rest)) : eligible item = true := by
  obtain ⟨_, _, -, suits, -⟩ := take_split taken
  exact suits

theorem take_perm (taken : take eligible queue = some (item, rest)) :
    queue.Perm (item :: rest) := by
  obtain ⟨front, back, -, -, rfl, rfl⟩ := take_split taken
  exact List.perm_middle

theorem take_mem (taken : take eligible queue = some (item, rest)) : item ∈ queue :=
  (take_perm taken).mem_iff.mpr List.mem_cons_self

theorem take_mem_iff (taken : take eligible queue = some (item, rest)) (different : other ≠ item) :
    other ∈ rest ↔ other ∈ queue := by
  rw [(take_perm taken).mem_iff, List.mem_cons, or_iff_right different]

theorem take_nodup (taken : take eligible queue = some (item, rest)) (nodup : queue.Nodup) :
    item ∉ rest ∧ rest.Nodup :=
  List.nodup_cons.mp ((take_perm taken).nodup nodup)

theorem take_isSome (member : item ∈ queue) (suits : eligible item = true) :
    (take eligible queue).isSome = true := by
  rw [take, Option.isSome_map, List.find?_isSome]
  exact ⟨item, member, suits⟩

section Overtaking

variable [DecidableEq Item]

/-- An item that is passed over does not move back. -/
theorem idxOf_take_le (taken : take eligible queue = some (other, rest))
    (different : item ≠ other) :
    rest.idxOf item ≤ queue.idxOf item := by
  obtain ⟨front, back, -, -, rfl, rfl⟩ := take_split taken
  by_cases early : item ∈ front
  · refine Nat.le_of_eq ?_
    rw [List.idxOf_append_of_mem early, List.idxOf_append_of_mem early]
  · rw [List.idxOf_append_of_notMem early, List.idxOf_append_of_notMem early,
      List.idxOf_cons_ne _ different.symm]
    omega

/-- An eligible item that is passed over moves ahead. -/
theorem idxOf_take_lt (taken : take eligible queue = some (other, rest)) (different : item ≠ other)
    (suits : eligible item = true) : rest.idxOf item < queue.idxOf item := by
  obtain ⟨front, back, skipped, -, rfl, rfl⟩ := take_split taken
  have late : item ∉ front := fun early => by
    rw [skipped item early] at suits
    cases suits
  rw [List.idxOf_append_of_notMem late, List.idxOf_append_of_notMem late,
    List.idxOf_cons_ne _ different.symm]
  omega

variable (may : Server → Item → Prop)

/-- One change of the queue, with the service that it performs.  A server that may take an item
finds it eligible. -/
inductive Move (item : Item) : List Item → Option (Server × Item) → List Item → Prop
  /-- Nothing changes. -/
  | idle (queue : List Item) : Move item queue none queue
  | join (queue : List Item) (newcomer : Item) : Move item queue none (queue ++ [newcomer])
  | serve (queue rest : List Item) (eligible : Item → Bool) (server : Server) (served : Item)
      (taken : take eligible queue = some (served, rest))
      (suits : may server item → eligible item = true) :
      Move item queue (some (server, served)) rest

/-- Changes of the queue, with their services. -/
inductive Moves (item : Item) : List Item → List (Server × Item) → List Item → Prop
  /-- No change. -/
  | refl (queue : List Item) : Moves item queue [] queue
  /-- One more change. -/
  | tail {before middle after : List Item} {services : List (Server × Item)}
      {service : Option (Server × Item)} (earlier : Moves item before services middle)
      (last : Move may item middle service after) :
      Moves item before (services ++ service.toList) after

variable {may} {before after : List Item} {services : List (Server × Item)}

/-- Services by servers that may take the item use up the places ahead of it. -/
theorem Moves.overtakes [DecidablePred fun server => may server item]
    (moves : Moves may item before services after)
    (waiting : item ∈ before) (unserved : ∀ server, (server, item) ∉ services) :
    item ∈ after ∧
      (services.filter fun service => may service.1 item).length + after.idxOf item ≤
        before.idxOf item := by
  induction moves with
  | refl => exact ⟨waiting, by simp⟩
  | tail earlier last induction =>
      obtain ⟨present, bound⟩ := induction fun server member =>
        unserved server (List.mem_append_left _ member)
      cases last with
      | idle => simpa using ⟨present, bound⟩
      | join newcomer =>
          refine ⟨List.mem_append_left _ present, ?_⟩
          rw [List.idxOf_append_of_mem present]
          simpa using bound
      | serve _ eligible server served taken suits =>
          have different : item ≠ served := by
            rintro rfl
            exact unserved server (List.mem_append_right _ (by simp))
          refine ⟨(take_mem_iff taken different).mpr present, ?_⟩
          rw [Option.toList_some, List.filter_append, List.length_append]
          by_cases allowed : may server item
          · have closer := idxOf_take_lt taken different (suits allowed)
            simp only [List.filter_cons, allowed, decide_true, if_true, List.filter_nil,
              List.length_singleton]
            omega
          · have kept := idxOf_take_le taken different
            simp only [List.filter_cons, allowed, decide_false, Bool.false_eq_true, if_false,
              List.filter_nil, List.length_nil]
            omega

end Overtaking
end Cxloom.ReadyQueue
