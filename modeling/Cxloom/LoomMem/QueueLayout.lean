import Cxloom.LoomMem.QueueRegion
import Cxloom.PairTable

/-!
# Layout of the shared queue region

`QueueLayout` is the table that the region is meant to be: one record of equal size for every
ordered pair of distinct hosts, behind a header.  Formatting writes it, and validation and lookup
find it again.
-/

namespace Cxloom.LoomMem.QueueRegion

open PairTable

/-- A region for an admissible number of hosts and an admissible capacity. -/
structure QueueLayout where
  hostCount : Nat
  /-- Slots of every queue. -/
  capacityEntries : Nat
  hostCount_pos : 0 < hostCount
  /-- The host table has room for every host. -/
  hostCount_le : hostCount ≤ kMaxHosts
  /-- There is a slot. -/
  capacityEntries_pos : 0 < capacityEntries
  /-- The capacity fits its field. -/
  capacityEntries_lt : capacityEntries < 2 ^ 32

namespace QueueLayout

variable (layout : QueueLayout)

def stride : Nat := sizeofSharedSpscQueueHeader + layout.capacityEntries * sizeofSharedSpscQueueSlot

/-- Number of queues. -/
def count : Nat := layout.hostCount * (layout.hostCount - 1)

def bytes : Nat := sizeofQueueRegionHeader + layout.count * layout.stride

def queue (pair : Nat × Nat) : Nat :=
  sizeofQueueRegionHeader + rank layout.hostCount pair * layout.stride

def header : HeaderField → Nat
  | .magic => kQueueRegionMagic
  | .layoutVersion => kQueueLayoutVersion
  | .headerBytes => sizeofQueueRegionHeader
  | .hostCount => layout.hostCount
  | .reserved0 => 0
  | .capacityEntries => layout.capacityEntries
  | .slotBytes => sizeofSharedSpscQueueSlot
  | .queueHeaderBytes => sizeofSharedSpscQueueHeader
  | .queueStride => layout.stride
  | .queueCount => layout.count
  | .requiredBytes => layout.bytes

def identity (pair : Nat × Nat) : IdentityField → Nat
  | .magic => kSpscQueueMagic
  | .producer => pair.1
  | .consumer => pair.2
  | .capacityEntries => layout.capacityEntries
  | .slotBytes => sizeofSharedSpscQueueSlot

/-! ## Bounds -/

theorem count_le : layout.count ≤ 4032 :=
  Nat.mul_le_mul layout.hostCount_le (Nat.sub_le_sub_right layout.hostCount_le 1)

theorem stride_le : layout.stride ≤ 192 * 2 ^ 32 := by
  have small := layout.capacityEntries_lt
  simp only [stride, sizeofSharedSpscQueueHeader, sizeofSharedSpscQueueSlot]
  omega

theorem product_le : layout.count * layout.stride ≤ 4032 * (192 * 2 ^ 32) :=
  Nat.mul_le_mul layout.count_le layout.stride_le

theorem bytes_lt : layout.bytes < wordLimit := by
  have small := layout.product_le
  simp only [bytes, sizeofQueueRegionHeader, wordLimit]
  omega

/-- Every queue lies behind the header and ends inside the region. -/
theorem queue_add_stride_le {pair : Nat × Nat} (member : pair ∈ pairs layout.hostCount) :
    layout.queue pair + layout.stride ≤ layout.bytes := by
  have below := Nat.mul_le_mul_right layout.stride (rank_lt member)
  rw [Nat.succ_mul] at below
  simp only [queue, bytes, count]
  omega

theorem header_fits (field : HeaderField) : layout.header field < 256 ^ field.size := by
  have hosts := layout.hostCount_le
  have capacity := layout.capacityEntries_lt
  have count := layout.count_le
  have stride := layout.stride_le
  have bytes := layout.bytes_lt
  simp only [kMaxHosts, wordLimit] at hosts bytes
  cases field <;>
    simp only [header, HeaderField.size, kQueueRegionMagic, kQueueLayoutVersion,
      sizeofQueueRegionHeader, sizeofSharedSpscQueueSlot, sizeofSharedSpscQueueHeader] <;>
    omega

theorem identity_fits {pair : Nat × Nat} (member : pair ∈ pairs layout.hostCount)
    (field : IdentityField) : layout.identity pair field < 256 ^ field.size := by
  have hosts := layout.hostCount_le
  have capacity := layout.capacityEntries_lt
  obtain ⟨producer, consumer, -⟩ := member
  simp only [kMaxHosts] at hosts
  cases field <;>
    simp only [identity, IdentityField.size, kSpscQueueMagic, sizeofSharedSpscQueueSlot] <;>
    omega

/-! ## The computed layout -/

theorem queueCount_eq : queueCount layout.hostCount = layout.count := by
  have positive := layout.hostCount_pos
  have small := layout.count_le
  rw [queueCount, if_neg (by omega)]
  refine mul64_of_lt ?_
  simp only [count, wordLimit] at small ⊢
  omega

theorem queueStride_eq : queueStride layout.capacityEntries = layout.stride := by
  have small := layout.stride_le
  simp only [stride, sizeofSharedSpscQueueHeader, sizeofSharedSpscQueueSlot] at small
  rw [queueStride, mul64_of_lt, add64_of_lt, stride] <;>
    simp only [sizeofSharedSpscQueueHeader, sizeofSharedSpscQueueSlot, wordLimit] <;>
    omega

/-- For admissible dimensions the size is computed without wrapping around. -/
theorem requiredBytes_eq :
    requiredBytes layout.hostCount layout.capacityEntries = .ok layout.bytes := by
  have hosts := layout.hostCount_pos
  have hosts' := layout.hostCount_le
  have capacity := layout.capacityEntries_pos
  have capacity' := layout.capacityEntries_lt
  have product := layout.product_le
  have room : sub64 (wordLimit - 1) sizeofSharedSpscQueueHeader / sizeofSharedSpscQueueSlot =
      (2 ^ 64 - 193) / 192 := by decide
  have rest : sub64 (wordLimit - 1) sizeofQueueRegionHeader = 2 ^ 64 - 65 := by decide
  have fits : ¬(layout.count ≠ 0 ∧ layout.stride > (2 ^ 64 - 65) / layout.count) := by
    rintro ⟨some, beyond⟩
    have order := (Nat.div_lt_iff_lt_mul (Nat.pos_of_ne_zero some)).mp beyond
    rw [Nat.mul_comm] at order
    omega
  rw [requiredBytes, if_neg (by omega), room, if_neg (by omega)]
  simp only [layout.queueCount_eq, layout.queueStride_eq, rest]
  rw [if_neg fits, mul64_of_lt (by simp only [wordLimit]; omega),
    add64_of_lt (by simp only [sizeofQueueRegionHeader, wordLimit]; omega), bytes]

end QueueLayout

/-- A size is computed for admissible dimensions only. -/
theorem exists_layout {hostCount capacityEntries required : Nat}
    (computed : requiredBytes hostCount capacityEntries = .ok required) :
    ∃ layout : QueueLayout, layout.hostCount = hostCount ∧
      layout.capacityEntries = capacityEntries ∧ layout.bytes = required := by
  by_cases refused : hostCount = 0 ∨ hostCount > kMaxHosts ∨ capacityEntries = 0 ∨
      capacityEntries > 2 ^ 32 - 1
  · rw [requiredBytes, if_pos refused] at computed
    cases computed
  · let layout : QueueLayout := ⟨hostCount, capacityEntries, by omega, by omega, by omega, by omega⟩
    refine ⟨layout, rfl, rfl, ?_⟩
    exact Except.ok.inj (layout.requiredBytes_eq.symm.trans computed)

theorem QueueLayout.pairIndex_eq (layout : QueueLayout) {pair : Nat × Nat}
    (member : pair ∈ pairs layout.hostCount) :
    pairIndex layout.hostCount pair.1 pair.2 = .ok (rank layout.hostCount pair) := by
  have below := rank_lt member
  have small := layout.count_le
  simp only [rank, count] at below small
  obtain ⟨producer, consumer, distinct⟩ := member
  have column_eq : (if pair.2 < pair.1 then pair.2 else pair.2 - 1) = column pair.1 pair.2 := rfl
  rw [pairIndex, if_neg (by omega), if_neg distinct]
  simp only [column_eq]
  rw [mul64_of_lt (by simp only [wordLimit]; omega), add64_of_lt (by simp only [wordLimit]; omega),
    rank]

theorem mem_pairs_of_pairIndex {hostCount producer consumer index : Nat}
    (numbered : pairIndex hostCount producer consumer = .ok index) :
    (producer, consumer) ∈ pairs hostCount := by
  rw [pairIndex] at numbered
  split at numbered
  · cases numbered
  · rename_i inside
    split at numbered
    · cases numbered
    · rename_i distinct
      exact ⟨by omega, by omega, distinct⟩

theorem mem_hostPairs {hostCount : Nat} {pair : Nat × Nat} :
    pair ∈ hostPairs hostCount ↔ pair.1 < hostCount ∧ pair.2 < hostCount := by
  obtain ⟨producer, consumer⟩ := pair
  simp [hostPairs]

/-! ## Stored records -/

theorem HeaderField.apart {field field' : HeaderField} (different : field' ≠ field) :
    field'.position + field'.size ≤ field.position ∨
      field.position + field.size ≤ field'.position := by
  cases field <;> cases field' <;> first | exact absurd rfl different | decide

theorem HeaderField.position_add_size_le (field : HeaderField) :
    field.position + field.size ≤ sizeofQueueRegionHeader := by
  cases field <;> decide

theorem IdentityField.apart {field field' : IdentityField} (different : field' ≠ field) :
    field'.position + field'.size ≤ field.position ∨
      field.position + field.size ≤ field'.position := by
  cases field <;> cases field' <;> first | exact absurd rfl different | decide

theorem IdentityField.position_add_size_le (field : IdentityField) :
    field.position + field.size ≤ sizeofSharedSpscQueueHeader := by
  cases field <;> decide

section Fields

variable {memory : Memory} {value queue : Nat}

theorem regionHeader_setRegionHeader (field : HeaderField) (fits : value < 256 ^ field.size) :
    regionHeader (setRegionHeader memory field value) field = value :=
  (Memory.load_store _ _ _ _).trans (Nat.mod_eq_of_lt fits)

theorem regionHeader_setRegionHeader_of_ne {field field' : HeaderField}
    (different : field' ≠ field) :
    regionHeader (setRegionHeader memory field value) field' = regionHeader memory field' :=
  Memory.load_store_of_disjoint (HeaderField.apart different)

theorem identity_setIdentity (field : IdentityField) (fits : value < 256 ^ field.size) :
    identity (setIdentity memory queue field value) queue field = value :=
  (Memory.load_store _ _ _ _).trans (Nat.mod_eq_of_lt fits)

theorem identity_setIdentity_of_ne {field field' : IdentityField} (different : field' ≠ field) :
    identity (setIdentity memory queue field value) queue field' =
      identity memory queue field' := by
  refine Memory.load_store_of_disjoint ?_
  have apart := IdentityField.apart different
  omega

theorem setIdentity_of_outside {cell : Nat} (field : IdentityField)
    (outside : cell < queue ∨ queue + sizeofSharedSpscQueueHeader ≤ cell) :
    setIdentity memory queue field value cell = memory cell := by
  refine Memory.store_of_outside ?_
  have inside := field.position_add_size_le
  omega

end Fields

theorem constructSlots_of_outside {memory : Memory} {slots count cell : Nat}
    (outside : cell < slots ∨ slots + count * sizeofSharedSpscQueueSlot ≤ cell) :
    constructSlots memory slots count cell = memory cell := by
  induction count with
  | zero => rfl
  | succ count induction =>
      rw [Nat.succ_mul] at outside
      rw [constructSlots, Memory.fill_of_outside (by omega), induction (by omega)]

theorem constructQueue_of_outside {memory : Memory}
    {queue producer consumer capacityEntries cell : Nat}
    (outside : cell < queue ∨ queue + sizeofSharedSpscQueueHeader +
      capacityEntries * sizeofSharedSpscQueueSlot ≤ cell) :
    constructQueue memory queue producer consumer capacityEntries cell = memory cell := by
  rw [constructQueue, constructSlots_of_outside (by omega)]
  simp (disch := omega) only [setIdentity_of_outside]
  exact Memory.fill_of_outside (by omega)

namespace QueueLayout

variable (layout : QueueLayout) {memory memory' : Memory} {pair pair' : Nat × Nat}

def Described (memory : Memory) : Prop := ∀ field, regionHeader memory field = layout.header field

def Recorded (memory : Memory) (pair : Nat × Nat) : Prop :=
  ∀ field, QueueRegion.identity memory (layout.queue pair) field = layout.identity pair field

variable {layout}

theorem formatHeader_described (memory : Memory) :
    layout.Described
      (formatHeader memory layout.bytes layout.hostCount layout.capacityEntries) := by
  intro field
  have fits := layout.header_fits field
  simp only [formatHeader, layout.queueCount_eq, layout.queueStride_eq]
  cases field with
  | reserved0 =>
      simp (disch := decide) only [regionHeader_setRegionHeader_of_ne]
      exact Memory.load_fill_zero (by decide) (by decide)
  | requiredBytes => exact regionHeader_setRegionHeader _ fits
  | _ =>
      simp (disch := decide) only [regionHeader_setRegionHeader_of_ne]
      exact regionHeader_setRegionHeader _ fits

/-- The header that formatting leaves behind gives every queue its place. -/
theorem Described.queueAt_eq (described : layout.Described memory)
    (member : pair ∈ pairs layout.hostCount) :
    queueAt memory (rank layout.hostCount pair) = layout.queue pair := by
  have within := layout.queue_add_stride_le member
  have small := layout.bytes_lt
  have stride := described .queueStride
  simp only [queue] at within
  rw [queueAt, stride, header, mul64_of_lt (by omega), queue]

theorem queue_apart (member : pair ∈ pairs layout.hostCount)
    (member' : pair' ∈ pairs layout.hostCount) (different : pair' ≠ pair) :
    layout.queue pair' + layout.stride ≤ layout.queue pair ∨
      layout.queue pair + layout.stride ≤ layout.queue pair' := by
  have ranks : rank layout.hostCount pair' ≠ rank layout.hostCount pair := fun same =>
    different (rank_injOn layout.hostCount member' member same)
  simp only [queue]
  rcases Nat.lt_or_gt_of_ne ranks with before | behind
  · have order := Nat.mul_le_mul_right layout.stride before
    rw [Nat.succ_mul] at order
    omega
  · have order := Nat.mul_le_mul_right layout.stride behind
    rw [Nat.succ_mul] at order
    omega

theorem constructQueue_recorded (memory : Memory) (member : pair ∈ pairs layout.hostCount) :
    layout.Recorded (constructQueue memory (layout.queue pair) pair.1 pair.2 layout.capacityEntries)
      pair := by
  intro field
  have outside : ∀ cell, layout.queue pair + field.position ≤ cell →
      cell < layout.queue pair + field.position + field.size →
      cell < layout.queue pair + sizeofSharedSpscQueueHeader := by
    intro cell _ high
    have inside := field.position_add_size_le
    omega
  rw [QueueRegion.identity, constructQueue, Memory.load_congr fun cell low high =>
    constructSlots_of_outside (.inl (outside cell low high)), ← QueueRegion.identity]
  have fits := layout.identity_fits member field
  cases field with
  | slotBytes => exact identity_setIdentity _ fits
  | _ =>
      simp (disch := decide) only [identity_setIdentity_of_ne]
      exact identity_setIdentity _ fits

/-- Constructing a queue changes the bytes of its own record only. -/
theorem constructQueue_agrees {cell : Nat}
    (outside : cell < layout.queue pair ∨ layout.queue pair + layout.stride ≤ cell) :
    constructQueue memory (layout.queue pair) pair.1 pair.2 layout.capacityEntries cell =
      memory cell := by
  simp only [stride] at outside
  exact constructQueue_of_outside (by omega)

theorem Described.constructQueue (described : layout.Described memory) :
    layout.Described
      (constructQueue memory (layout.queue pair) pair.1 pair.2 layout.capacityEntries) := by
  intro field
  rw [← described field]
  have inside := field.position_add_size_le
  refine Memory.load_congr fun cell _ high => constructQueue_agrees (.inl ?_)
  simp only [queue]
  omega

/-- Constructing a queue keeps the identities of all queues that are recorded already. -/
theorem Recorded.constructQueue (recorded : layout.Recorded memory pair')
    (member : pair ∈ pairs layout.hostCount) (member' : pair' ∈ pairs layout.hostCount) :
    layout.Recorded
      (constructQueue memory (layout.queue pair) pair.1 pair.2 layout.capacityEntries) pair' := by
  by_cases same : pair' = pair
  · rw [same]
    exact constructQueue_recorded memory member
  · intro field
    rw [← recorded field]
    have apart := queue_apart member member' same
    have inside := field.position_add_size_le
    have size : sizeofSharedSpscQueueHeader ≤ layout.stride := Nat.le_add_right _ _
    exact Memory.load_congr fun cell _ _ => constructQueue_agrees (by omega)

/-! ## Formatting -/

/-- A region that a successful call of `FormatSharedQueueRegion` leaves behind. -/
structure Formatted (layout : QueueLayout) (memory : Memory) : Prop where
  /-- The region header is the one of the layout. -/
  described : layout.Described memory
  /-- Every queue carries its identity. -/
  recorded : ∀ pair ∈ pairs layout.hostCount, layout.Recorded memory pair

/-- The queues of some pairs are constructed; queues that were there before stay. -/
theorem formatQueues_spec (layout : QueueLayout) (hosts : List (Nat × Nat))
    (bounded : ∀ pair ∈ hosts, pair.1 < layout.hostCount ∧ pair.2 < layout.hostCount)
    (described : layout.Described memory) :
    ∃ after, formatQueues layout.hostCount layout.capacityEntries hosts memory = (.ok, after) ∧
      layout.Described after ∧ ∀ pair ∈ pairs layout.hostCount,
        pair ∈ hosts ∨ layout.Recorded memory pair → layout.Recorded after pair := by
  induction hosts generalizing memory with
  | nil => exact ⟨memory, rfl, described, fun pair _ known => known.resolve_left List.not_mem_nil⟩
  | cons head rest induction =>
      have boundedRest := fun pair member => bounded pair (List.mem_cons_of_mem head member)
      have below := bounded head List.mem_cons_self
      by_cases self : head.1 = head.2
      · obtain ⟨after, formatted, describedAfter, recorded⟩ := induction boundedRest described
        refine ⟨after, ?_, describedAfter, ?_⟩
        · rw [formatQueues, if_pos self, formatted]
        · intro pair member known
          refine recorded pair member (known.imp_left fun listed => ?_)
          rcases List.mem_cons.mp listed with rfl | later
          · exact (member.2.2 self).elim
          · exact later
      · have member : head ∈ pairs layout.hostCount := ⟨below.1, below.2, self⟩
        have constructed : layout.Described (QueueRegion.constructQueue memory (layout.queue head)
            head.1 head.2 layout.capacityEntries) := described.constructQueue
        obtain ⟨after, formatted, describedAfter, recorded⟩ := induction boundedRest constructed
        refine ⟨after, ?_, describedAfter, ?_⟩
        · rw [formatQueues, if_neg self, layout.pairIndex_eq member]
          simp only [described.queueAt_eq member]
          exact formatted
        · intro pair member' known
          refine recorded pair member' ?_
          rcases known with listed | before
          · rcases List.mem_cons.mp listed with rfl | later
            · exact .inr (constructQueue_recorded memory member)
            · exact .inl later
          · exact .inr (before.constructQueue member member')

/-- `FormatSharedQueueRegion` succeeds if the layout fits the region. -/
theorem formatSharedQueueRegion_ok (layout : QueueLayout) (memory : Memory) {regionBytes : Nat}
    (room : layout.bytes ≤ regionBytes) :
    ∃ after, formatSharedQueueRegion (some memory) regionBytes layout.hostCount
      layout.capacityEntries = (.ok, some after) ∧ layout.Formatted after := by
  obtain ⟨after, formatted, described, recorded⟩ :=
    formatQueues_spec layout (hostPairs layout.hostCount) (fun _ listed => mem_hostPairs.mp listed)
      (formatHeader_described memory)
  refine ⟨after, ?_, described, fun pair member => recorded pair member (.inl ?_)⟩
  · simp only [formatSharedQueueRegion, layout.requiredBytes_eq, if_neg (Nat.not_lt.mpr room),
      formatted]
  · exact mem_hostPairs.mpr ⟨member.1, member.2.1⟩

end QueueLayout

theorem requiredBytes_error {hostCount capacityEntries : Nat} {status : Status}
    (refused : requiredBytes hostCount capacityEntries = .error status) : status.isOk = false := by
  rw [requiredBytes] at refused
  split at refused
  · obtain rfl := Except.error.inj refused
    rfl
  · split at refused
    · obtain rfl := Except.error.inj refused
      rfl
    · simp only at refused
      split at refused
      · obtain rfl := Except.error.inj refused
        rfl
      · cases refused

/-- A successful call of `FormatSharedQueueRegion` is about a layout that fits its region. -/
theorem exists_layout_of_format {region : Option Memory}
    {regionBytes hostCount capacityEntries : Nat}
    (accepted :
      (formatSharedQueueRegion region regionBytes hostCount capacityEntries).1.isOk = true) :
    ∃ memory, region = some memory ∧ ∃ layout : QueueLayout, layout.hostCount = hostCount ∧
      layout.capacityEntries = capacityEntries ∧ layout.bytes ≤ regionBytes := by
  cases region with
  | none => cases accepted
  | some memory =>
      refine ⟨memory, rfl, ?_⟩
      rw [formatSharedQueueRegion] at accepted
      simp only at accepted
      split at accepted
      · rename_i refused
        rw [requiredBytes_error refused] at accepted
        cases accepted
      · rename_i required computed
        obtain ⟨layout, rfl, rfl, rfl⟩ := exists_layout computed
        split at accepted
        · cases accepted
        · rename_i room
          exact ⟨layout, rfl, rfl, Nat.not_lt.mp room⟩

end Cxloom.LoomMem.QueueRegion
