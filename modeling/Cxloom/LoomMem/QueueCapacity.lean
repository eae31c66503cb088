import Cxloom.LoomMem.QueueLayout

/-!
# The automatic queue capacity

`AutomaticQueueCapacity` gives every queue an equal share of the region and divides what is left
behind the queue header by the size of a slot.  It rejects a share that ends with the header, but
not one that ends inside the first slot.
-/

namespace Cxloom.LoomMem.QueueRegion

/-- `AutomaticQueueCapacity`. -/
def automaticQueueCapacity (hostCount regionBytes : Nat) : Except Status Nat :=
  if hostCount ≤ 1 then .ok 1
  else
    let queueCount := mul64 hostCount (hostCount - 1)
    if regionBytes ≤ sizeofQueueRegionHeader ∨
        sub64 regionBytes sizeofQueueRegionHeader / queueCount ≤ sizeofSharedSpscQueueHeader then
      .error
        (.invalidArgument "queue region cannot hold one queue for every directed host pair")
    else
      let capacity :=
        sub64 (sub64 regionBytes sizeofQueueRegionHeader / queueCount) sizeofSharedSpscQueueHeader /
          sizeofSharedSpscQueueSlot
      .ok (min capacity 1024)

/-- `FormatSharedQueueRegion` accepts a capacity. -/
def Accepts (memory : Memory) (regionBytes hostCount capacityEntries : Nat) : Prop :=
  (formatSharedQueueRegion (some memory) regionBytes hostCount capacityEntries).1.isOk = true

/-- A capacity that has been chosen is usable and maximal; none has been chosen only if none is
usable. -/
def Suitable (memory : Memory) (regionBytes hostCount : Nat) : Except Status Nat → Prop
  | .ok capacity =>
      1 ≤ capacity ∧ capacity ≤ 1024 ∧ Accepts memory regionBytes hostCount capacity ∧
        (capacity = 1024 ∨ ¬Accepts memory regionBytes hostCount (capacity + 1))
  | .error _ => ∀ capacity, 1 ≤ capacity → ¬Accepts memory regionBytes hostCount capacity

def quota (hostCount regionBytes : Nat) : Nat :=
  ((regionBytes - sizeofQueueRegionHeader) / (hostCount * (hostCount - 1)) -
    sizeofSharedSpscQueueHeader) / sizeofSharedSpscQueueSlot

variable {memory : Memory} {hostCount regionBytes capacity : Nat}

theorem queues_pos (several : 2 ≤ hostCount) : 0 < hostCount * (hostCount - 1) :=
  Nat.mul_pos (by omega) (by omega)

/-- A region is accepted for the capacities that fit their field and its quota. -/
theorem accepts_iff (several : 2 ≤ hostCount) (bounded : hostCount ≤ kMaxHosts) :
    Accepts memory regionBytes hostCount capacity ↔
      0 < capacity ∧ capacity < 2 ^ 32 ∧
        sizeofQueueRegionHeader + hostCount * (hostCount - 1) * sizeofSharedSpscQueueHeader ≤
          regionBytes ∧
        capacity ≤ quota hostCount regionBytes := by
  rw [quota, ← PairTable.fits_iff (queues_pos several) (by decide)]
  constructor
  · intro accepted
    obtain ⟨_, -, layout, rfl, rfl, room⟩ := exists_layout_of_format accepted
    exact ⟨layout.capacityEntries_pos, layout.capacityEntries_lt, room⟩
  · rintro ⟨positive, small, room⟩
    let layout : QueueLayout := ⟨hostCount, capacity, by omega, bounded, positive, small⟩
    obtain ⟨after, formatted, -⟩ := layout.formatSharedQueueRegion_ok memory room
    exact congrArg (fun result => result.1.isOk) formatted

/-- The share of a queue ends behind its header. -/
theorem share_iff (several : 2 ≤ hostCount) :
    (regionBytes ≤ sizeofQueueRegionHeader ∨
        (regionBytes - sizeofQueueRegionHeader) / (hostCount * (hostCount - 1)) ≤
          sizeofSharedSpscQueueHeader) ↔
      regionBytes < sizeofQueueRegionHeader +
        hostCount * (hostCount - 1) * (sizeofSharedSpscQueueHeader + 1) := by
  have queues := queues_pos several
  have larger : hostCount * (hostCount - 1) ≤
      hostCount * (hostCount - 1) * (sizeofSharedSpscQueueHeader + 1) :=
    Nat.le_mul_of_pos_right _ (Nat.succ_pos _)
  have share : (regionBytes - sizeofQueueRegionHeader) / (hostCount * (hostCount - 1)) ≤
        sizeofSharedSpscQueueHeader ↔
      regionBytes - sizeofQueueRegionHeader <
        hostCount * (hostCount - 1) * (sizeofSharedSpscQueueHeader + 1) := by
    rw [← Nat.lt_succ_iff, Nat.div_lt_iff_lt_mul queues, Nat.mul_comm]
  rw [share]
  omega

theorem automaticQueueCapacity_eq (several : 2 ≤ hostCount) (bounded : hostCount ≤ kMaxHosts)
    (word : regionBytes < wordLimit) :
    automaticQueueCapacity hostCount regionBytes =
      if regionBytes < sizeofQueueRegionHeader +
          hostCount * (hostCount - 1) * (sizeofSharedSpscQueueHeader + 1) then
        .error
          (.invalidArgument "queue region cannot hold one queue for every directed host pair")
      else .ok (min (quota hostCount regionBytes) 1024) := by
  have count : mul64 hostCount (hostCount - 1) = hostCount * (hostCount - 1) := by
    have small : hostCount * (hostCount - 1) ≤ 4032 :=
      Nat.mul_le_mul bounded (Nat.sub_le_sub_right bounded 1)
    exact mul64_of_lt (small.trans_lt (by decide))
  rw [automaticQueueCapacity, if_neg (by omega)]
  simp only [count]
  by_cases tiny : regionBytes ≤ sizeofQueueRegionHeader
  · have below := (share_iff several).mp (.inl tiny)
    rw [if_pos (.inl tiny), if_pos below]
  · rw [sub64_of_le (Nat.le_of_not_le tiny) word]
    by_cases below : regionBytes < sizeofQueueRegionHeader +
        hostCount * (hostCount - 1) * (sizeofSharedSpscQueueHeader + 1)
    · rw [if_pos ((share_iff several).mpr below), if_pos below]
    · have behind := mt (share_iff several).mp below
      have shareWord : (regionBytes - sizeofQueueRegionHeader) / (hostCount * (hostCount - 1)) <
          wordLimit := (Nat.div_le_self _ _).trans_lt ((Nat.sub_le _ _).trans_lt word)
      rw [if_neg behind, if_neg below,
        sub64_of_le (Nat.le_of_lt (Nat.lt_of_not_le (not_or.mp behind).2)) shareWord, quota]

/-- A share has room for a slot if it ends behind the first slot. -/
theorem quota_pos_iff (several : 2 ≤ hostCount) :
    0 < quota hostCount regionBytes ↔
      sizeofQueueRegionHeader + hostCount * (hostCount - 1) *
        (sizeofSharedSpscQueueHeader + sizeofSharedSpscQueueSlot) ≤ regionBytes := by
  have fits : sizeofQueueRegionHeader + hostCount * (hostCount - 1) *
        (sizeofSharedSpscQueueHeader + 1 * sizeofSharedSpscQueueSlot) ≤ regionBytes ↔
      sizeofQueueRegionHeader + hostCount * (hostCount - 1) * sizeofSharedSpscQueueHeader ≤
          regionBytes ∧ 1 ≤ quota hostCount regionBytes :=
    PairTable.fits_iff (queues_pos several) (by decide)
  rw [Nat.one_mul] at fits
  rw [fits]
  refine ⟨fun positive => ⟨?_, positive⟩, fun room => room.2⟩
  by_contra small
  have none : (regionBytes - sizeofQueueRegionHeader) / (hostCount * (hostCount - 1)) <
      sizeofSharedSpscQueueHeader := by
    rw [Nat.div_lt_iff_lt_mul (queues_pos several), Nat.mul_comm]
    have queues := queues_pos several
    simp only [sizeofQueueRegionHeader, sizeofSharedSpscQueueHeader] at small ⊢
    omega
  rw [quota, Nat.sub_eq_zero_of_le (Nat.le_of_lt none), Nat.zero_div] at positive
  exact Nat.not_lt_zero _ positive

/-- The automatic capacity is suitable exactly for the regions that do not leave every queue some
bytes behind its header that are too few for a slot. -/
theorem automaticQueueCapacity_suitable_iff (several : 2 ≤ hostCount)
    (bounded : hostCount ≤ kMaxHosts) (word : regionBytes < wordLimit) (memory : Memory) :
    Suitable memory regionBytes hostCount (automaticQueueCapacity hostCount regionBytes) ↔
      regionBytes < sizeofQueueRegionHeader +
          hostCount * (hostCount - 1) * (sizeofSharedSpscQueueHeader + 1) ∨
        sizeofQueueRegionHeader + hostCount * (hostCount - 1) *
          (sizeofSharedSpscQueueHeader + sizeofSharedSpscQueueSlot) ≤ regionBytes := by
  rw [automaticQueueCapacity_eq several bounded word, ← quota_pos_iff several]
  split
  · rename_i below
    refine iff_of_true (fun capacity positive accepted => ?_) (.inl below)
    obtain ⟨-, -, -, within⟩ := (accepts_iff several bounded).mp accepted
    have room := (quota_pos_iff several).mp (positive.trans within)
    have larger : hostCount * (hostCount - 1) * (sizeofSharedSpscQueueHeader + 1) ≤
        hostCount * (hostCount - 1) * (sizeofSharedSpscQueueHeader + sizeofSharedSpscQueueSlot) :=
      Nat.mul_le_mul_left _ (by decide)
    omega
  · rename_i behind
    constructor
    · rintro ⟨positive, -⟩
      exact .inr (by omega)
    · intro known
      have positive := known.resolve_left behind
      have headers : sizeofQueueRegionHeader +
          hostCount * (hostCount - 1) * sizeofSharedSpscQueueHeader ≤ regionBytes := by
        have room := (quota_pos_iff several).mp positive
        rw [Nat.mul_add] at room
        omega
      refine ⟨by omega, Nat.min_le_right _ _,
        (accepts_iff several bounded).mpr ⟨by omega, by omega, headers, Nat.min_le_left _ _⟩, ?_⟩
      by_cases large : 1024 ≤ quota hostCount regionBytes
      · exact .inl (Nat.min_eq_right large)
      · refine .inr fun accepted => ?_
        obtain ⟨-, -, -, within⟩ := (accepts_iff several bounded).mp accepted
        omega

/-- The smallest region of two hosts gets the capacity one. -/
theorem automaticQueueCapacity_suitable_iff_twoHosts :
    Suitable (fun _ => 0) 832 2 (automaticQueueCapacity 2 832) :=
  (automaticQueueCapacity_suitable_iff (by decide) (by decide) (by decide) _).mpr (by decide)

/-- With one byte behind each header the automatic capacity of two hosts is zero. -/
theorem automaticQueueCapacity_zero :
    automaticQueueCapacity 2 450 = .ok 0 ∧
      ¬Suitable (fun _ => 0) 450 2 (automaticQueueCapacity 2 450) := by
  have chosen : automaticQueueCapacity 2 450 = .ok 0 := by rfl
  refine ⟨chosen, ?_⟩
  rw [chosen]
  rintro ⟨positive, -⟩
  exact Nat.not_lt_zero _ positive

end Cxloom.LoomMem.QueueRegion
