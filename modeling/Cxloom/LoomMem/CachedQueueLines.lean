import Cxloom.LoomMem.CachedQueue

/-!
# Lines of the queue

Every part of the queue lies on one line, lines of different slots and of the cursors are different,
and every line has one writer.  The queue as its writers see it changes by stores only.
-/

namespace Cxloom.LoomMem

open WriteBackCache QueueRegion

attribute [ext] SharedSpscQueueSlot SharedSpscQueue

namespace MappedQueue

variable (mapped : MappedQueue)

/-! ## Lines -/

/-- The line of the producer cursor. -/
def tailLine : Nat := lineOf mapped.tailAddress

/-- The line of the consumer cursor. -/
def headLine : Nat := lineOf mapped.headAddress

def slotLine (index part : Nat) : Nat := mapped.slotAddress index + part * kCacheLineBytes

/-- The host that stores to a line. -/
def writerOf (line : Nat) : Nat :=
    if line = mapped.headLine then mapped.consumer else mapped.producer

variable {mapped} {index other part position : Nat}

theorem lineOf_position {position : Nat} (inside : position + kCacheLineBytes ≤
      sizeofSharedSpscQueueHeader + mapped.capacity * sizeofSharedSpscQueueSlot + kCacheLineBytes) :
    lineOf (mapped.address + position) =
      mapped.address + position / kCacheLineBytes * kCacheLineBytes := by
  have fits := mapped.fits
  obtain ⟨lines, place⟩ := mapped.aligned
  have line64 : kCacheLineBytes = 64 := rfl
  rw [line64] at place
  rw [lineOf_eq (by omega), line64]
  omega

theorem tailLine_eq : mapped.tailLine = mapped.address + 64 := by
  refine (lineOf_position ?_).trans rfl
  simp only [sizeofSharedSpscQueueHeader]
  omega

theorem headLine_eq : mapped.headLine = mapped.address + 128 := by
  refine (lineOf_position ?_).trans rfl
  simp only [sizeofSharedSpscQueueHeader]
  omega

theorem slot_inside (inRing : index < mapped.capacity) :
    index * sizeofSharedSpscQueueSlot + sizeofSharedSpscQueueSlot ≤
      mapped.capacity * sizeofSharedSpscQueueSlot := by
  rw [← Nat.succ_mul]
  exact Nat.mul_le_mul_right _ inRing

theorem lineOf_slot (inRing : index < mapped.capacity)
    (inside : position < sizeofSharedSpscQueueSlot) :
    lineOf (mapped.slotAddress index + position) =
      mapped.slotLine index (position / kCacheLineBytes) := by
  have room := slot_inside inRing
  simp only [slotLine, slotAddress, Nat.add_assoc, sizeofSharedSpscQueueHeader,
    sizeofSharedSpscQueueSlot] at room inside ⊢
  rw [lineOf_position]
  · simp only [kCacheLineBytes]
    omega
  · simp only [kCacheLineBytes, sizeofSharedSpscQueueHeader, sizeofSharedSpscQueueSlot]
    omega

theorem sequence_line (inRing : index < mapped.capacity) :
    lineOf (mapped.slotAddress index) = mapped.slotLine index 0 :=
  @lineOf_slot mapped index 0 inRing (by decide)

theorem header_line (inRing : index < mapped.capacity) :
    lineOf (mapped.headerAddress index) = mapped.slotLine index 0 :=
  @lineOf_slot mapped index sizeofCursor inRing (by decide)

theorem payload_line (inRing : index < mapped.capacity) (inside : position < kQueuePayloadBytes) :
    lineOf (mapped.payloadAddress index position) =
      mapped.slotLine index
        ((sizeofCursor + sizeofMessageHeader + position) / kCacheLineBytes) := by
  rw [payloadAddress, headerAddress, Nat.add_assoc, Nat.add_assoc, ← Nat.add_assoc sizeofCursor]
  refine lineOf_slot inRing ?_
  simp only [sizeofCursor, sizeofMessageHeader, kQueuePayloadBytes,
    sizeofSharedSpscQueueSlot] at inside ⊢
  omega

theorem payload_part (inside : position < kQueuePayloadBytes) :
    (sizeofCursor + sizeofMessageHeader + position) / kCacheLineBytes < 3 := by
  simp only [sizeofCursor, sizeofMessageHeader, kQueuePayloadBytes, kCacheLineBytes] at inside ⊢
  omega

theorem slotLine_ne {first second : Nat} (different : index ≠ other) (low : first < 3)
    (high : second < 3) : mapped.slotLine index first ≠ mapped.slotLine other second := by
  simp only [slotLine, slotAddress, sizeofSharedSpscQueueHeader, sizeofSharedSpscQueueSlot,
    kCacheLineBytes]
  omega

theorem slotLine_ne_tailLine : mapped.slotLine index part ≠ mapped.tailLine := by
  rw [tailLine_eq]
  simp only [slotLine, slotAddress, sizeofSharedSpscQueueHeader, sizeofSharedSpscQueueSlot]
  omega

theorem slotLine_ne_headLine : mapped.slotLine index part ≠ mapped.headLine := by
  rw [headLine_eq]
  simp only [slotLine, slotAddress, sizeofSharedSpscQueueHeader, sizeofSharedSpscQueueSlot]
  omega

theorem tailLine_ne_headLine : mapped.tailLine ≠ mapped.headLine := by
  rw [tailLine_eq, headLine_eq]
  omega

@[simp] theorem writerOf_tailLine : mapped.writerOf mapped.tailLine = mapped.producer :=
  if_neg tailLine_ne_headLine

@[simp] theorem writerOf_headLine : mapped.writerOf mapped.headLine = mapped.consumer :=
  if_pos rfl

@[simp] theorem writerOf_slotLine :
    mapped.writerOf (mapped.slotLine index part) = mapped.producer :=
  if_neg slotLine_ne_headLine

/-! ## Recipes -/

section Recipes

variable {address bytes byte : Nat}

theorem producerPublishes_line
    (usable : (validateVisibilityMode mapped.producerProcessor mapped.producerMode).isOk = true)
    (nonnull : 0 < address) (fits : address + bytes + kCacheLineBytes ≤ wordLimit)
    (low : address ≤ byte) (high : byte < address + bytes) :
    lineOf byte ∈ (mapped.producerPublishes address bytes).map Prod.fst := by
  have positive : 0 < bytes := by omega
  have visited := (mem_forEachCacheLine positive fits).mpr ⟨byte, low, high, rfl⟩
  rcases (publishData_lines usable mapped.producerWritesBack nonnull positive).2 _ visited with
    member | member
  · exact List.mem_map_of_mem (f := Prod.fst) member
  · exact List.mem_map_of_mem (f := Prod.fst) member

theorem consumerAcquires_eq
    (usable : (validateVisibilityMode mapped.consumerProcessor mapped.consumerMode).isOk = true)
    (nonnull : 0 < address) (positive : 0 < bytes) :
    mapped.consumerAcquires address bytes =
      (forEachCacheLine (cacheLineRounds bytes) address bytes).map (·, .clflush) := by
  rw [consumerAcquires, acquireData_lines usable mapped.consumerWritesBack nonnull positive]

theorem consumerAcquires_line
    (usable : (validateVisibilityMode mapped.consumerProcessor mapped.consumerMode).isOk = true)
    (nonnull : 0 < address) (fits : address + bytes + kCacheLineBytes ≤ wordLimit)
    (low : address ≤ byte) (high : byte < address + bytes) :
    lineOf byte ∈ (mapped.consumerAcquires address bytes).map Prod.fst := by
  have positive : 0 < bytes := by omega
  rw [consumerAcquires_eq usable nonnull positive, List.map_map]
  exact List.mem_map.mpr
    ⟨_, (mem_forEachCacheLine positive fits).mpr ⟨byte, low, high, rfl⟩, rfl⟩

theorem consumerAcquires_clflush
    (usable : (validateVisibilityMode mapped.consumerProcessor mapped.consumerMode).isOk = true)
    (nonnull : 0 < address) (positive : 0 < bytes) {step : Nat × LineInstruction}
    (member : step ∈ mapped.consumerAcquires address bytes) : step.2 = .clflush := by
  rw [consumerAcquires_eq usable nonnull positive] at member
  obtain ⟨line, -, rfl⟩ := List.mem_map.mp member
  rfl

end Recipes

/-! ## What the writers see -/

variable {caches : Caches Nat Nat SharedSpscQueue} {line host : Nat}
  {action : Action Nat SharedSpscQueue}

def Writers (mapped : MappedQueue) (caches : Caches Nat Nat SharedSpscQueue) : Prop :=
  ∀ line, Written (caches line) (mapped.writerOf line)

theorem Writers.perform (writers : Writers mapped caches)
    (only : ∀ host, action.writer? = some host → host = mapped.writerOf line) :
    Writers mapped (caches.perform (line, action)) := fun other => by
  by_cases here : other = line
  · subst here
    rw [Caches.perform_self]
    exact (writers _).perform only
  · rw [Caches.perform_of_ne _ _ here]
    exact writers other

/-- Nothing that the caches do changes what the writer of a line sees. -/
theorem Writers.view_perform (writers : Writers mapped caches) (quiet : action.writer? = none)
    (other : Nat) : ((caches.perform (line, action)) other).view (mapped.writerOf other) =
      (caches other).view (mapped.writerOf other) := by
  by_cases here : other = line
  · subst here
    rw [Caches.perform_self]
    exact (writers _).view_perform quiet
  · rw [Caches.perform_of_ne _ _ here]

theorem seenBy_slots (inRing : index < mapped.capacity) :
    (mapped.seenBy caches host).slots index = mapped.seenSlot caches host index :=
  if_pos inRing

theorem seenBy_slots_outside (outside : ¬ index < mapped.capacity) :
    (mapped.seenBy caches host).slots index = .formatted :=
  if_neg outside

theorem seenSlot_payload (inside : position < kQueuePayloadBytes) :
    (mapped.seenSlot caches host index).payload position =
      (((caches (lineOf (mapped.payloadAddress index position))).view host).slots index).payload
        position :=
  if_pos inside

theorem seenSlot_payload_beyond (beyond : ¬ position < kQueuePayloadBytes) :
    (mapped.seenSlot caches host index).payload position = 0 :=
  if_neg beyond

/-- What a host sees of a slot depends on what it sees of its lines. -/
theorem seenSlot_congr {first second : Caches Nat Nat SharedSpscQueue} {reader : Nat}
    (inRing : index < mapped.capacity)
    (same : ∀ part < 3, (first (mapped.slotLine index part)).view host =
      (second (mapped.slotLine index part)).view reader) :
    mapped.seenSlot first host index = mapped.seenSlot second reader index := by
  have front := same 0 (by decide)
  ext position
  · simp only [seenSlot, sequence_line inRing, front]
  · simp only [seenSlot, header_line inRing, front]
  · by_cases inside : position < kQueuePayloadBytes
    · rw [seenSlot_payload inside, seenSlot_payload inside, payload_line inRing inside,
        same _ (payload_part inside)]
    · rw [seenSlot_payload_beyond inside, seenSlot_payload_beyond inside]

/-- The queue as its writers see it. -/
def truth (mapped : MappedQueue) (caches : Caches Nat Nat SharedSpscQueue) : SharedSpscQueue :=
  { mapped.seenBy caches mapped.producer with head := (mapped.seenBy caches mapped.consumer).head }

theorem seenBy_slots_congr {first second : Caches Nat Nat SharedSpscQueue}
    (same : ∀ index part, index < mapped.capacity → part < 3 →
      (first (mapped.slotLine index part)).view host =
        (second (mapped.slotLine index part)).view host) :
    (mapped.seenBy first host).slots = (mapped.seenBy second host).slots := by
  funext index
  by_cases inRing : index < mapped.capacity
  · rw [seenBy_slots inRing, seenBy_slots inRing]
    exact seenSlot_congr inRing fun part small => same index part inRing small
  · rw [seenBy_slots_outside inRing, seenBy_slots_outside inRing]

/-- Nothing that the caches do changes the queue. -/
theorem Writers.truth_perform (writers : Writers mapped caches) (quiet : action.writer? = none) :
    truth mapped (caches.perform (line, action)) = truth mapped caches := by
  have kept : ∀ other, ((caches.perform (line, action)) other).view (mapped.writerOf other) =
      (caches other).view (mapped.writerOf other) := writers.view_perform quiet
  have tail := kept mapped.tailLine
  have head := kept mapped.headLine
  rw [writerOf_tailLine] at tail
  rw [writerOf_headLine] at head
  have tails := congrArg SharedSpscQueue.tail tail
  have heads := congrArg SharedSpscQueue.head head
  refine SharedSpscQueue.ext tails heads (seenBy_slots_congr fun index part _ _ => ?_)
  have slot := kept (mapped.slotLine index part)
  rwa [writerOf_slotLine] at slot

/-! ## Stores -/

section Stores

variable {shared : SharedSpscQueue}

theorem view_stored (other : Nat) :
    ((caches.perform (line, .store host fun _ => shared)) other).view host =
      if other = line then shared else (caches other).view host := by
  by_cases here : other = line
  · subst here
    rw [Caches.perform_self, view_store, if_pos rfl]
  · rw [Caches.perform_of_ne _ _ here, if_neg here]

theorem seenSlot_stored (inRing : index < mapped.capacity)
    (front : mapped.slotLine index 0 ≠ line →
      (shared.slots index).sequence = (mapped.seenSlot caches host index).sequence ∧
        (shared.slots index).header = (mapped.seenSlot caches host index).header)
    (payload : ∀ position < kQueuePayloadBytes,
      mapped.slotLine index ((sizeofCursor + sizeofMessageHeader + position) / kCacheLineBytes) ≠
          line →
        (shared.slots index).payload position =
          (mapped.seenSlot caches host index).payload position)
    (beyond : ∀ position, ¬ position < kQueuePayloadBytes →
      (shared.slots index).payload position = 0) :
    mapped.seenSlot (caches.perform (line, .store host fun _ => shared)) host index =
      shared.slots index := by
  ext position
  · show ((((caches.perform _) (lineOf _)).view host).slots index).sequence = _
    rw [view_stored, sequence_line inRing]
    split
    · rfl
    · rename_i away
      rw [(front away).1, seenSlot, sequence_line inRing]
  · show ((((caches.perform _) (lineOf _)).view host).slots index).header = _
    rw [view_stored, header_line inRing]
    split
    · rfl
    · rename_i away
      rw [(front away).2, seenSlot, header_line inRing]
  · by_cases inside : position < kQueuePayloadBytes
    · rw [seenSlot_payload inside, view_stored, payload_line inRing inside]
      split
      · rfl
      · rename_i away
        rw [payload position inside away, seenSlot_payload inside, payload_line inRing inside]
    · rw [seenSlot_payload_beyond inside, beyond position inside]

/-- Storing to a part of a slot. -/
theorem seenBy_setSlot {slot : SharedSpscQueueSlot} (inRing : index < mapped.capacity)
    (front : mapped.slotLine index 0 ≠ line →
      slot.sequence = ((mapped.seenBy caches host).slots index).sequence ∧
        slot.header = ((mapped.seenBy caches host).slots index).header)
    (payload : ∀ position < kQueuePayloadBytes,
      mapped.slotLine index ((sizeofCursor + sizeofMessageHeader + position) / kCacheLineBytes) ≠
          line →
        slot.payload position = ((mapped.seenBy caches host).slots index).payload position)
    (beyond : ∀ position, ¬ position < kQueuePayloadBytes → slot.payload position = 0) :
    mapped.seenBy (caches.perform (line, .store host fun _ =>
        (mapped.seenBy caches host).setSlot index slot)) host =
      (mapped.seenBy caches host).setSlot index slot := by
  rw [seenBy_slots inRing] at front payload
  refine SharedSpscQueue.ext ?_ ?_ (funext fun other => ?_)
  · show (((caches.perform _) (lineOf mapped.tailAddress)).view host).tail = _
    rw [view_stored]
    split <;> rfl
  · show (((caches.perform _) (lineOf mapped.headAddress)).view host).head = _
    rw [view_stored]
    split <;> rfl
  · by_cases within : other < mapped.capacity
    · rw [seenBy_slots within]
      by_cases same : other = index
      · subst same
        have there : ((mapped.seenBy caches host).setSlot other slot).slots other = slot :=
          Function.update_self ..
        refine seenSlot_stored within ?_ ?_ ?_ <;> rw [there]
        · exact front
        · exact payload
        · exact beyond
      · have there : ((mapped.seenBy caches host).setSlot index slot).slots other =
            mapped.seenSlot caches host other :=
          (Function.update_of_ne same ..).trans (seenBy_slots within)
        refine seenSlot_stored within ?_ ?_ ?_ <;> rw [there]
        · exact fun _ => ⟨rfl, rfl⟩
        · exact fun _ _ _ => rfl
        · exact fun _ => seenSlot_payload_beyond
    · have different : other ≠ index := fun same => within (same ▸ inRing)
      rw [seenBy_slots_outside within]
      exact ((Function.update_of_ne different ..).trans (seenBy_slots_outside within)).symm

theorem truth_setSlot {slot : SharedSpscQueueSlot} (inRing : index < mapped.capacity)
    (elsewhere : line ≠ mapped.headLine)
    (front : mapped.slotLine index 0 ≠ line →
      slot.sequence = ((mapped.seenBy caches mapped.producer).slots index).sequence ∧
        slot.header = ((mapped.seenBy caches mapped.producer).slots index).header)
    (payload : ∀ position < kQueuePayloadBytes,
      mapped.slotLine index ((sizeofCursor + sizeofMessageHeader + position) / kCacheLineBytes) ≠
          line →
        slot.payload position =
          ((mapped.seenBy caches mapped.producer).slots index).payload position)
    (beyond : ∀ position, ¬ position < kQueuePayloadBytes → slot.payload position = 0) :
    truth mapped (caches.perform (line, .store mapped.producer fun _ =>
        (mapped.seenBy caches mapped.producer).setSlot index slot)) =
      (truth mapped caches).setSlot index slot := by
  have seen := seenBy_setSlot inRing front payload beyond
  have head : (mapped.seenBy (caches.perform (line, .store mapped.producer fun _ =>
      (mapped.seenBy caches mapped.producer).setSlot index slot)) mapped.consumer).head =
      (mapped.seenBy caches mapped.consumer).head := by
    show (((caches.perform _) mapped.headLine).view mapped.consumer).head = _
    rw [Caches.perform_of_ne _ _ elsewhere.symm]
    rfl
  rw [truth, seen, head]
  rfl

theorem truth_storeTail (cursor : Nat) :
    truth mapped (caches.perform (mapped.tailLine, .store mapped.producer fun _ =>
        { mapped.seenBy caches mapped.producer with tail := cursor })) =
      { truth mapped caches with tail := cursor } := by
  refine SharedSpscQueue.ext ?_ ?_ (seenBy_slots_congr fun index part _ _ => ?_)
  · show (((caches.perform _) mapped.tailLine).view mapped.producer).tail = cursor
    rw [view_stored, if_pos rfl]
  · show (((caches.perform _) mapped.headLine).view mapped.consumer).head = _
    rw [Caches.perform_of_ne _ _ tailLine_ne_headLine.symm]
    rfl
  · rw [Caches.perform_of_ne _ _ slotLine_ne_tailLine]

theorem truth_storeHead (cursor : Nat) :
    truth mapped (caches.perform (mapped.headLine, .store mapped.consumer fun _ =>
        { mapped.seenBy caches mapped.consumer with head := cursor })) =
      { truth mapped caches with head := cursor } := by
  refine SharedSpscQueue.ext ?_ ?_ (seenBy_slots_congr fun index part _ _ => ?_)
  · show (((caches.perform _) mapped.tailLine).view mapped.producer).tail = _
    rw [Caches.perform_of_ne _ _ tailLine_ne_headLine]
    rfl
  · show (((caches.perform _) mapped.headLine).view mapped.consumer).head = cursor
    rw [view_stored, if_pos rfl]
  · rw [Caches.perform_of_ne _ _ slotLine_ne_headLine]

end Stores

end MappedQueue

end Cxloom.LoomMem
