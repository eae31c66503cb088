import Cxloom.LoomMem.QueueLayout

/-!
# Formatting, validation and lookup agree

After `FormatSharedQueueRegion` has succeeded, `ValidateSharedQueueRegion` accepts the region for
the same dimensions and for no others, and `LocateSharedQueue` finds the queues of all ordered pairs
of distinct hosts in parts of the region that do not overlap.
-/

namespace Cxloom.LoomMem.QueueRegion

open PairTable

def SharedQueueStorage.bytes (storage : SharedQueueStorage) (capacityEntries : Nat) : Set Nat :=
  Set.Ico storage.header (storage.header + sizeofSharedSpscQueueHeader) ∪
    Set.Ico storage.slots (storage.slots + capacityEntries * sizeofSharedSpscQueueSlot)

/-! ## The region header -/

theorem validateHeader_described {layout : QueueLayout} {memory : Memory} {regionBytes : Nat}
    (described : layout.Described memory) (room : layout.bytes ≤ regionBytes) :
    validateHeader (regionHeader memory) regionBytes layout.hostCount layout.capacityEntries =
      .ok := by
  have same : regionHeader memory = layout.header := funext described
  simp only [validateHeader, layout.requiredBytes_eq, same, layout.queueStride_eq,
    layout.queueCount_eq, QueueLayout.header, ne_eq, not_true, or_self, if_false,
    if_neg (Nat.not_lt.mpr room)]

theorem validateHeader_named {header : HeaderField → Nat}
    {regionBytes hostCount capacityEntries : Nat}
    (accepted : (validateHeader header regionBytes hostCount capacityEntries).isOk = true) :
    header .hostCount = hostCount ∧ header .capacityEntries = capacityEntries := by
  rw [validateHeader] at accepted
  split at accepted
  · rename_i refused
    rw [requiredBytes_error refused] at accepted
    cases accepted
  · split at accepted
    · cases accepted
    · rename_i compatible
      simp only [not_or, not_not] at compatible
      exact ⟨compatible.2.2.2.1, compatible.2.2.2.2.1⟩

/-! ## Formatted regions -/

namespace QueueLayout.Formatted

variable {layout : QueueLayout} {memory : Memory} {regionBytes producer consumer : Nat}
  {storage : SharedQueueStorage}

theorem validateQueues_eq (formatted : layout.Formatted memory) (hosts : List (Nat × Nat))
    (bounded : ∀ pair ∈ hosts, pair.1 < layout.hostCount ∧ pair.2 < layout.hostCount) :
    validateQueues true memory layout.hostCount layout.capacityEntries hosts = .ok := by
  induction hosts with
  | nil => rfl
  | cons head rest induction =>
      have later := induction fun pair member => bounded pair (List.mem_cons_of_mem head member)
      have below := bounded head List.mem_cons_self
      rw [validateQueues]
      by_cases self : head.1 = head.2
      · rw [if_pos self, later]
      · have member : head ∈ pairs layout.hostCount := ⟨below.1, below.2, self⟩
        have recorded := formatted.recorded head member
        unfold Recorded at recorded
        rw [if_neg self, layout.pairIndex_eq member]
        simp only [formatted.described.queueAt_eq member, recorded, QueueLayout.identity, ne_eq,
          not_true, or_self, if_false, later, Bool.true_eq_false]

theorem header_le (room : layout.bytes ≤ regionBytes) : sizeofQueueRegionHeader ≤ regionBytes :=
  (Nat.le_add_right _ _).trans room

theorem validate_eq (formatted : layout.Formatted memory) (room : layout.bytes ≤ regionBytes) :
    validateSharedQueueRegion true (some memory) regionBytes layout.hostCount
      layout.capacityEntries = .ok := by
  simp only [validateSharedQueueRegion, if_neg (Nat.not_lt.mpr (header_le room)),
    validateHeader_described formatted.described room, Status.isOk_ok, if_true]
  exact formatted.validateQueues_eq _ fun _ listed => mem_hostPairs.mp listed

theorem locate_eq (formatted : layout.Formatted memory) (room : layout.bytes ≤ regionBytes)
    (member : (producer, consumer) ∈ pairs layout.hostCount) :
    locateSharedQueue (some memory) regionBytes producer consumer =
      .ok ⟨layout.queue (producer, consumer),
        layout.queue (producer, consumer) + sizeofSharedSpscQueueHeader⟩ := by
  have hosts : regionHeader memory .hostCount = layout.hostCount := formatted.described .hostCount
  have capacity : regionHeader memory .capacityEntries = layout.capacityEntries :=
    formatted.described .capacityEntries
  have recorded := formatted.recorded _ member
  have numbered := layout.pairIndex_eq member
  unfold Recorded at recorded
  simp only at numbered
  simp only [locateSharedQueue, if_neg (Nat.not_lt.mpr (header_le room)), hosts, capacity,
    validateHeader_described formatted.described room, Status.isOk_ok, if_true, numbered,
    formatted.described.queueAt_eq member, recorded, QueueLayout.identity, ne_eq, not_true, or_self,
    if_false]

theorem mem_of_locate (formatted : layout.Formatted memory)
    (located : locateSharedQueue (some memory) regionBytes producer consumer = .ok storage) :
    (producer, consumer) ∈ pairs layout.hostCount := by
  have hosts : regionHeader memory .hostCount = layout.hostCount := formatted.described .hostCount
  simp only [locateSharedQueue, hosts] at located
  split at located
  · cases located
  · split at located
    · split at located
      · cases located
      · rename_i numbered
        exact mem_pairs_of_pairIndex numbered
    · cases located

theorem locate_iff (formatted : layout.Formatted memory) (room : layout.bytes ≤ regionBytes) :
    locateSharedQueue (some memory) regionBytes producer consumer = .ok storage ↔
      (producer, consumer) ∈ pairs layout.hostCount ∧
        storage = ⟨layout.queue (producer, consumer),
          layout.queue (producer, consumer) + sizeofSharedSpscQueueHeader⟩ := by
  constructor
  · intro located
    have member := formatted.mem_of_locate located
    exact ⟨member, (Except.ok.inj ((formatted.locate_eq room member).symm.trans located)).symm⟩
  · rintro ⟨member, rfl⟩
    exact formatted.locate_eq room member

end QueueLayout.Formatted

theorem QueueLayout.bytes_eq (layout : QueueLayout) (pair : Nat × Nat) :
    (⟨layout.queue pair, layout.queue pair + sizeofSharedSpscQueueHeader⟩ :
        SharedQueueStorage).bytes layout.capacityEntries =
      record sizeofQueueRegionHeader layout.stride (rank layout.hostCount pair) := by
  rw [SharedQueueStorage.bytes, Set.Ico_union_Ico_eq_Ico (Nat.le_add_right _ _)
    (Nat.le_add_right _ _), record, queue, stride, Nat.succ_mul, Nat.add_assoc, Nat.add_assoc,
    Nat.add_assoc]

/-! ## Consistency -/

/-- The sums and products behind a size are those of natural numbers: none wraps around. -/
structure Unwrapped (hostCount capacityEntries required : Nat) : Prop where
  stride : queueStride capacityEntries =
    sizeofSharedSpscQueueHeader + capacityEntries * sizeofSharedSpscQueueSlot
  count : queueCount hostCount = hostCount * (hostCount - 1)
  required : required = sizeofQueueRegionHeader + hostCount * (hostCount - 1) *
    (sizeofSharedSpscQueueHeader + capacityEntries * sizeofSharedSpscQueueSlot)

/-- What formatting a region for some dimensions promises. -/
structure Consistent (isLockFree : Bool) (memory : Memory)
    (regionBytes hostCount capacityEntries : Nat) : Prop where
  /-- Validation with the same parameters succeeds. -/
  validated : validateSharedQueueRegion isLockFree (some memory) regionBytes hostCount
    capacityEntries = .ok
  /-- Validation with another number of hosts or another capacity fails. -/
  refused : ∀ regionBytes' hostCount' capacityEntries',
    (hostCount', capacityEntries') ≠ (hostCount, capacityEntries) →
      (validateSharedQueueRegion isLockFree (some memory) regionBytes' hostCount'
        capacityEntries').isOk = false
  /-- Lookup succeeds exactly for the ordered pairs of distinct hosts. -/
  located : ∀ producer consumer,
    (∃ storage, locateSharedQueue (some memory) regionBytes producer consumer = .ok storage) ↔
      producer < hostCount ∧ consumer < hostCount ∧ producer ≠ consumer
  /-- The queue found carries the pair as its identity. -/
  identified : ∀ producer consumer storage,
    locateSharedQueue (some memory) regionBytes producer consumer = .ok storage →
      identity memory storage.header .producer = producer ∧
        identity memory storage.header .consumer = consumer
  /-- Queues lie behind the region header and inside the region. -/
  inside : ∀ producer consumer storage,
    locateSharedQueue (some memory) regionBytes producer consumer = .ok storage →
      storage.bytes capacityEntries ⊆ Set.Ico sizeofQueueRegionHeader regionBytes
  /-- Queues of different pairs do not overlap. -/
  disjoint : ∀ producer consumer storage producer' consumer' storage',
    locateSharedQueue (some memory) regionBytes producer consumer = .ok storage →
    locateSharedQueue (some memory) regionBytes producer' consumer' = .ok storage' →
      (producer, consumer) ≠ (producer', consumer') →
        Disjoint (storage.bytes capacityEntries) (storage'.bytes capacityEntries)

/-- A region that names its dimensions is refused for others. -/
theorem QueueLayout.Described.refused {layout : QueueLayout} {memory : Memory}
    (described : layout.Described memory) {isLockFree : Bool}
    {regionBytes hostCount capacityEntries : Nat}
    (other : (hostCount, capacityEntries) ≠ (layout.hostCount, layout.capacityEntries)) :
    (validateSharedQueueRegion isLockFree (some memory) regionBytes hostCount
      capacityEntries).isOk = false := by
  simp only [validateSharedQueueRegion]
  split
  · rfl
  · split
    · rename_i accepted
      obtain ⟨hosts, capacity⟩ := validateHeader_named accepted
      rw [described .hostCount] at hosts
      rw [described .capacityEntries] at capacity
      exact (other (Prod.ext hosts.symm capacity.symm)).elim
    · rename_i refused
      exact Bool.not_eq_true _ ▸ refused

theorem QueueLayout.Formatted.consistent {layout : QueueLayout} {memory : Memory}
    (formatted : layout.Formatted memory) {regionBytes : Nat} (room : layout.bytes ≤ regionBytes) :
    Consistent true memory regionBytes layout.hostCount layout.capacityEntries where
  validated := formatted.validate_eq room
  refused _ _ _ other := formatted.described.refused other
  located producer consumer := by
    constructor
    · rintro ⟨storage, located⟩
      exact formatted.mem_of_locate located
    · intro member
      exact ⟨_, formatted.locate_eq room member⟩
  identified producer consumer storage located := by
    obtain ⟨member, rfl⟩ := (formatted.locate_iff room).mp located
    have recorded := formatted.recorded _ member
    exact ⟨recorded .producer, recorded .consumer⟩
  inside producer consumer storage located := by
    obtain ⟨member, rfl⟩ := (formatted.locate_iff room).mp located
    rw [layout.bytes_eq]
    exact (record_subset (rank_lt member)).trans (Set.Ico_subset_Ico_right room)
  disjoint producer consumer storage producer' consumer' storage' located located' different := by
    obtain ⟨member, rfl⟩ := (formatted.locate_iff room).mp located
    obtain ⟨member', rfl⟩ := (formatted.locate_iff room).mp located'
    rw [layout.bytes_eq, layout.bytes_eq]
    exact record_disjoint fun same => different (rank_injOn layout.hostCount member member' same)

theorem unwrapped_of_requiredBytes {hostCount capacityEntries required : Nat}
    (computed : requiredBytes hostCount capacityEntries = .ok required) :
    Unwrapped hostCount capacityEntries required := by
  obtain ⟨layout, rfl, rfl, rfl⟩ := exists_layout computed
  exact ⟨layout.queueStride_eq, layout.queueCount_eq, rfl⟩

theorem pairIndex_bijOn {hostCount : Nat} (positive : 0 < hostCount)
    (bounded : hostCount ≤ kMaxHosts) :
    Set.BijOn (fun pair => pairIndex hostCount pair.1 pair.2) (pairs hostCount)
      (Set.image Except.ok (Set.Iio (hostCount * (hostCount - 1)))) := by
  let layout : QueueLayout := ⟨hostCount, 1, positive, bounded, Nat.one_pos, by decide⟩
  have numbered : Set.EqOn (fun pair => pairIndex hostCount pair.1 pair.2)
      (fun pair => .ok (rank hostCount pair)) (pairs hostCount) :=
    fun _ member => layout.pairIndex_eq member
  have ranks := rank_bijOn hostCount
  refine Set.BijOn.congr ?_ numbered.symm
  exact (Set.InjOn.bijOn_image fun _ _ _ _ same => Except.ok.inj same).comp ranks

/-- For every admissible number of hosts, every capacity and every region: sizes do not wrap around,
pairs are numbered one to one, and a region that has been formatted is consistent. -/
theorem format_consistent {isLockFree : Bool} (lockFree : isLockFree = true) {hostCount : Nat}
    (positive : 0 < hostCount) (bounded : hostCount ≤ kMaxHosts)
    (region : Option Memory) (regionBytes capacityEntries : Nat) :
    (∀ required, requiredBytes hostCount capacityEntries = .ok required →
        Unwrapped hostCount capacityEntries required) ∧
      Set.BijOn (fun pair => pairIndex hostCount pair.1 pair.2) (pairs hostCount)
        (Set.image Except.ok (Set.Iio (hostCount * (hostCount - 1)))) ∧
      ((formatSharedQueueRegion region regionBytes hostCount capacityEntries).1.isOk = true →
        ∃ memory,
          (formatSharedQueueRegion region regionBytes hostCount capacityEntries).2 = some memory ∧
            Consistent isLockFree memory regionBytes hostCount capacityEntries) := by
  refine ⟨fun _ => unwrapped_of_requiredBytes, pairIndex_bijOn positive bounded, fun accepted => ?_⟩
  obtain ⟨before, rfl, layout, rfl, rfl, room⟩ := exists_layout_of_format accepted
  obtain ⟨memory, result, formatted⟩ := layout.formatSharedQueueRegion_ok before room
  rw [result, lockFree]
  exact ⟨memory, rfl, formatted.consistent room⟩

/-- The smallest region of two hosts. -/
theorem format_consistent_twoHosts :
    ∃ memory, (formatSharedQueueRegion (some fun _ => 255) 832 2 1).2 = some memory ∧
      Consistent true memory 832 2 1 :=
  (format_consistent rfl (by decide) (by decide) (some fun _ => 255) 832 1).2.2 (by decide +kernel)

end Cxloom.LoomMem.QueueRegion
