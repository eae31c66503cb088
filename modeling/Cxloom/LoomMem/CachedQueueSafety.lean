import Cxloom.LoomMem.CachedQueueCoherence

/-!
# Order of the queue behind write-back caches

The accesses of `Push` and `TryPop` keep the queue coherent, so messages leave it in the order in
which they entered it and no cache makes a message appear late.
-/

namespace Cxloom.LoomMem

open WriteBackCache QueueRegion MappedQueue

namespace CachedQueue

variable {mapped : MappedQueue} {queue after : CachedQueue}

/-! ## Stores -/

/-- The writer of a line stores to it; cursors rise. -/
theorem CoherentLines.store (lines : CoherentLines mapped queue) {host : Nat} (line : Nat)
    (shared : SharedSpscQueue)
    (owner : mapped.writerOf line = host)
    (tail : line = mapped.tailLine →
      ((queue.caches mapped.tailLine).view mapped.producer).tail ≤ shared.tail)
    (head : line = mapped.headLine →
      ((queue.caches mapped.headLine).view mapped.consumer).head ≤ shared.head) :
    CoherentLines mapped (queue.perform line (.store host fun _ => shared)) := by
  have mine : ∀ other, (Action.store host fun _ : SharedSpscQueue => shared).writer? = some other →
      other = host := fun other same => (Option.some.inj same).symm
  refine ⟨lines.writers.perform fun other same => (mine other same).trans owner.symm, ?_, ?_⟩
  · refine keep_line (Rising SharedSpscQueue.tail · mapped.producer) lines.tail fun here => ?_
    subst here
    rw [writerOf_tailLine] at owner
    subst owner
    refine (lines.tail.perform mine ?_).1
    intro other change same
    cases same
    exact tail rfl
  · refine keep_line (Rising SharedSpscQueue.head · mapped.consumer) lines.head fun here => ?_
    subst here
    rw [writerOf_headLine] at owner
    subst owner
    refine (lines.head.perform mine ?_).1
    intro other change same
    cases same
    exact head rfl

/-- The consumer keeps what it has acquired when the producer stores elsewhere than to the slot that
is read. -/
theorem Acquired.store (acquired : Acquired mapped queue) (lines : CoherentLines mapped queue)
    (line : Nat) (shared : SharedSpscQueue)
    (tail : line = mapped.tailLine →
      ((queue.caches mapped.tailLine).view mapped.producer).tail ≤ shared.tail)
    (apart : QueueConfig.seesEnvelope queue.consumer = true → ∀ part < 3,
      mapped.slotLine (queue.returned.length % mapped.capacity) part ≠ line) :
    Acquired mapped (queue.perform line (.store mapped.producer fun _ => shared)) := by
  have only : ∀ other,
      (Action.store mapped.producer fun _ : SharedSpscQueue => shared).writer? = some other →
        other = mapped.producer := fun other same => (Option.some.inj same).symm
  have rises : ∀ host change, Action.store mapped.producer (fun _ => shared) = .store host change →
      mapped.tailLine = line →
      ((queue.caches mapped.tailLine).view host).tail ≤
        (change ((queue.caches mapped.tailLine).view host)).tail := by
    intro host change same here
    cases same
    exact tail here.symm
  have looks : ∀ {floor}, Seen SharedSpscQueue.tail floor (queue.caches mapped.tailLine)
      mapped.consumer → Seen SharedSpscQueue.tail floor
        ((queue.perform line (.store mapped.producer fun _ => shared)).caches mapped.tailLine)
          mapped.consumer := fun seen =>
    keep_line (Seen SharedSpscQueue.tail _ · mapped.consumer) seen fun here =>
      seen.perform lines.tail mapped.distinct.symm only fun host change same =>
        rises host change same here
  refine ⟨acquired.usable, acquired.flushes, looks acquired.seen, fun sees part small => ?_,
    fun point => (acquired.promise point).imp looks (And.imp_left fun promised => ?_),
    acquired.empty⟩
  · refine (acquired.current sees part small).imp (fun current => ?_) id
    exact keep_line (Current · mapped.consumer) current fun here =>
      (apart sees part small here).elim
  · exact keep_line (fun state => queue.promised ≤ state.memory.tail) promised fun here => promised

/-! ## Accesses of the producer -/

/-- Between calls and before a slot is written every slot is published. -/
theorem Published.clean_slot (published : Published mapped queue) (none : queue.producerSteps = [])
    (unwritten : ∀ message tail written, queue.producer ≠ .writePayload message tail written)
    {index part : Nat} (inRing : index < mapped.capacity) (small : part < 3) :
    Clean (queue.caches (mapped.slotLine index part)) mapped.producer := by
  refine (published.slots index part inRing small).resolve_right fun unpublished => ?_
  rw [Unpublished, none] at unpublished
  cases point : queue.producer with
  | writePayload message tail written => exact unwritten message tail written point
  | storeSequence message tail | storeTail message tail =>
      rw [point] at unpublished
      exact List.not_mem_nil unpublished.2
  | idle => rw [point] at unpublished; exact unpublished
  | loadTail message
  | loadHead message tail | writeHeader message tail => rw [point] at unpublished; exact unpublished

theorem Published.clean_cursor (published : Published mapped queue)
    (none : queue.producerSteps = []) :
    Clean (queue.caches mapped.tailLine) mapped.producer :=
  published.cursor.resolve_right fun pending => by
    rw [none] at pending
    exact List.not_mem_nil pending.2

/-- The producer moves on without a store. -/
theorem Coherent.producerAt (coherent : Coherent mapped queue) (none : queue.producerSteps = [])
    (running : queue.producer ≠ .idle) (point : PushPoint)
    (steps : List (Nat × LineInstruction))
    (fits : QueueConfig.PushFits mapped.toSpscQueueIdentity (mapped.truth queue.caches)
      queue.accepted queue.returned point)
    (slots : ∀ index part, index < mapped.capacity → part < 3 →
      Clean (queue.caches (mapped.slotLine index part)) mapped.producer ∨
        Unpublished mapped { queue with producer := point, producerSteps := steps } index
          (mapped.slotLine index part)) :
    Coherent mapped { queue with producer := point, producerSteps := steps } := by
  obtain ⟨plain, lines, published, acquired⟩ := coherent
  exact ⟨plain.producerAt fits, lines.frame rfl,
    ⟨fun _ => published.usable running, slots, .inl (published.clean_cursor none),
      published.behind⟩, acquired.frame rfl rfl rfl rfl rfl rfl⟩

/-- The producer stores to a line of its free slot. -/
theorem Coherent.setSlot (coherent : Coherent mapped queue) (none : queue.producerSteps = [])
    (running : queue.producer ≠ .idle) {message : QueueEnvelope} {tail part : Nat}
    (writing : QueueConfig.Writing mapped.toSpscQueueIdentity queue.accepted queue.returned message
      tail) (small : part < 3) (slot : SharedSpscQueueSlot)
    (same : mapped.truth (queue.caches.perform
        (mapped.slotLine (tail % mapped.capacity) part, .store mapped.producer fun _ =>
          (mapped.seenBy queue.caches mapped.producer).setSlot (tail % mapped.capacity) slot)) =
      (mapped.truth queue.caches).setSlot (tail % mapped.capacity) slot)
    (point : PushPoint) (steps : List (Nat × LineInstruction))
    (fits : QueueConfig.PushFits mapped.toSpscQueueIdentity
      ((mapped.truth queue.caches).setSlot (tail % mapped.capacity) slot) queue.accepted
      queue.returned point)
    (others : ∀ index part, index < mapped.capacity → part < 3 →
      Clean (queue.caches (mapped.slotLine index part)) mapped.producer ∨
        Unpublished mapped { queue with producer := point, producerSteps := steps } index
          (mapped.slotLine index part))
    (stored : Unpublished mapped { queue with producer := point, producerSteps := steps }
      (tail % mapped.capacity) (mapped.slotLine (tail % mapped.capacity) part)) :
    Coherent mapped
      { queue.perform (mapped.slotLine (tail % mapped.capacity) part) (.store mapped.producer
          fun _ => (mapped.seenBy queue.caches mapped.producer).setSlot (tail % mapped.capacity)
            slot) with
        producer := point, producerSteps := steps } := by
  obtain ⟨plain, lines, published, acquired⟩ := coherent
  have inRing : tail % mapped.capacity < mapped.capacity := Nat.mod_lt _ mapped.capacity_pos
  have elsewhere : mapped.slotLine (tail % mapped.capacity) part ≠ mapped.tailLine :=
    slotLine_ne_tailLine
  have storedLines := lines.store (mapped.slotLine (tail % mapped.capacity) part)
    ((mapped.seenBy queue.caches mapped.producer).setSlot (tail % mapped.capacity) slot)
    writerOf_slotLine (fun here => (elsewhere here).elim)
    fun here => (slotLine_ne_headLine here).elim
  have keeps := acquired.store lines (mapped.slotLine (tail % mapped.capacity) part)
    ((mapped.seenBy queue.caches mapped.producer).setSlot (tail % mapped.capacity) slot)
    (fun here => (elsewhere here).elim) fun sees other low => by
      refine slotLine_ne (mod_ne_of_lt_lap ?_ writing.free) low small
      have below := QueueConfig.PopFits.below plain.consumer sees
      exact writing.cursor ▸ below
  refine ⟨?_, storedLines.frame rfl, ⟨fun _ => published.usable running,
    fun index other low high => ?_, ?_, ?_⟩, keeps.frame rfl rfl rfl rfl rfl rfl⟩
  · have whole := plain.setSlot writing fits
    simp only [truth, perform, same]
    exact whole
  · by_cases here : mapped.slotLine index other =
      mapped.slotLine (tail % mapped.capacity) part
    · have index_eq : index = tail % mapped.capacity := by
        by_contra different
        exact slotLine_ne different high small here
      right
      rw [here, index_eq]
      exact stored
    · refine (others index other low high).imp (fun clean => ?_) id
      exact keep_line (Clean · mapped.producer) clean fun same => (here same).elim
  · exact .inl (keep_line (Clean · mapped.producer) (published.clean_cursor none)
      fun here => (elsewhere here.symm).elim)
  · exact keep_line (fun state => queue.accepted.length ≤ state.memory.tail + 1) published.behind
      fun here => (elsewhere here.symm).elim

theorem Coherent.storeTail (coherent : Coherent mapped queue) (none : queue.producerSteps = [])
    {message : QueueEnvelope} {tail : Nat} (point : queue.producer = .storeTail message tail)
    (bounded : queue.accepted.length + 1 < cursorModulus) :
    Coherent mapped
      { queue.perform mapped.tailLine (.store mapped.producer fun _ =>
          { mapped.seenBy queue.caches mapped.producer with
            tail := (tail + 1) % cursorModulus }) with
        producer := .idle
        producerSteps := mapped.producerPublishes mapped.tailAddress sizeofCursor
        pushes := queue.pushes ++ [(message, .ok)] } := by
  obtain ⟨plain, lines, published, acquired⟩ := coherent
  have fits : QueueConfig.PushFits mapped.toSpscQueueIdentity (mapped.truth queue.caches)
      queue.accepted queue.returned queue.producer := plain.producer
  rw [point] at fits
  obtain ⟨writing, holds⟩ := fits
  have cursor : tail = queue.accepted.length := writing.cursor
  have counted : ((queue.caches mapped.tailLine).view mapped.producer).tail =
      queue.accepted.length := plain.ring.tail
  have usable := published.usable (by rw [point]; exact PushPoint.noConfusion)
  have unwritten : ∀ message tail written,
      queue.producer ≠ .writePayload message tail written := fun _ _ _ other => by
    rw [point] at other
    cases other
  have rises : mapped.tailLine = mapped.tailLine →
      ((queue.caches mapped.tailLine).view mapped.producer).tail ≤ (tail + 1) % cursorModulus :=
    fun _ => by
      rw [counted, cursor, Nat.mod_eq_of_lt bounded]
      exact Nat.le_succ _
  have storedLines := lines.store mapped.tailLine
    { mapped.seenBy queue.caches mapped.producer with tail := (tail + 1) % cursorModulus }
    writerOf_tailLine rises fun here => (tailLine_ne_headLine here).elim
  have keeps := acquired.store lines mapped.tailLine
    { mapped.seenBy queue.caches mapped.producer with tail := (tail + 1) % cursorModulus }
    rises fun _ _ _ here => slotLine_ne_tailLine here
  have longer : (queue.pushes ++ [(message, Status.ok)]).filterMap
      (fun call => if call.2.isOk then some call.1 else Option.none) =
        queue.accepted ++ [message] :=
    QueueConfig.accepted_pushReturns_ok (queue.truth mapped) message
  refine ⟨?_, storedLines.frame rfl, ⟨fun running => (running rfl).elim,
    fun index part inRing small => .inl ?_, .inr ⟨rfl, ?_⟩, ?_⟩,
    keeps.frame rfl rfl rfl rfl rfl rfl⟩
  · have whole := plain.accept writing holds bounded
    have same := @truth_storeTail mapped queue.caches ((tail + 1) % cursorModulus)
    simp only [truth, perform, same]
    exact whole
  · exact keep_line (Clean · mapped.producer) (published.clean_slot none unwritten inRing small)
      fun here => (slotLine_ne_tailLine here).elim
  · refine producerPublishes_line usable (Nat.add_pos_left mapped.address_pos 64) ?_ le_rfl ?_
    · have room := mapped.fits
      simp only [tailAddress, sizeofCursor, sizeofSharedSpscQueueHeader] at room ⊢
      omega
    · exact Nat.lt_add_of_pos_right (by decide)
  · have memory : (queue.caches mapped.tailLine).memory.tail = queue.accepted.length :=
      (lines.tail.memory_eq (published.clean_cursor none)).trans counted
    show ((queue.pushes ++ [(message, Status.ok)]).filterMap _).length ≤ _
    rw [longer, List.length_append, List.length_singleton]
    refine Nat.add_le_add_right ?_ 1
    exact keep_line (fun state => queue.accepted.length ≤ state.memory.tail) memory.ge
      fun _ => memory.ge

theorem slot_fits {index bytes offset : Nat} (inRing : index < mapped.capacity)
    (inside : offset + bytes ≤ sizeofSharedSpscQueueSlot) :
    mapped.slotAddress index + offset + bytes + kCacheLineBytes ≤ wordLimit := by
  have room := slot_inside inRing
  have fits := mapped.fits
  simp only [slotAddress]
  omega

theorem slotAddress_pos (index : Nat) : 0 < mapped.slotAddress index :=
  Nat.add_pos_left (Nat.add_pos_left mapped.address_pos _) _

/-- A part of a message lies on a line that its publication writes back. -/
theorem message_line {message : QueueEnvelope} {index offset : Nat}
    (usable : (validateVisibilityMode mapped.producerProcessor mapped.producerMode).isOk = true)
    (inRing : index < mapped.capacity) (short : message.payload.length ≤ kQueuePayloadBytes)
    (inside : offset < sizeofMessageHeader + message.payload.length) :
    lineOf (mapped.headerAddress index + offset) ∈
      (mapped.producerPublishes (mapped.headerAddress index)
        (sizeofMessageHeader + message.payload.length)).map Prod.fst := by
  refine producerPublishes_line usable (Nat.add_pos_left (slotAddress_pos index) _) ?_
    (Nat.le_add_right _ _) (Nat.add_lt_add_left inside _)
  refine slot_fits inRing ?_
  simp only [sizeofCursor, sizeofMessageHeader, sizeofSharedSpscQueueSlot,
    kQueuePayloadBytes] at short ⊢
  omega

section Push

variable (coherent : Coherent mapped queue) (none : queue.producerSteps = [])
  {message : QueueEnvelope} {tail written : Nat} {slot : SharedSpscQueueSlot}

include coherent

theorem Coherent.pushFits {point : PushPoint} (here : queue.producer = point) :
    QueueConfig.PushFits mapped.toSpscQueueIdentity (mapped.truth queue.caches) queue.accepted
      queue.returned point := by
  rw [← here]
  exact coherent.plain.producer

/-- While the payload is written, the lines of other slots are published. -/
theorem Coherent.slots_writing (point : queue.producer = .writePayload message tail written)
    (count : Nat) (steps : List (Nat × LineInstruction)) (index part : Nat)
    (inRing : index < mapped.capacity) (small : part < 3) :
    Clean (queue.caches (mapped.slotLine index part)) mapped.producer ∨
      Unpublished mapped { queue with
        producer := .writePayload message tail count
        producerSteps := steps } index (mapped.slotLine index part) := by
  refine (coherent.published.slots index part inRing small).imp id fun unpublished => ?_
  rw [Unpublished, point] at unpublished
  exact unpublished

/-- The consumer cursor that the producer sees may be old. -/
theorem Coherent.head_le (point : queue.producer = .loadHead message tail) :
    (mapped.seenBy queue.caches mapped.producer).head ≤ queue.returned.length ∧
      queue.returned.length ≤ tail := by
  obtain ⟨-, rfl⟩ := coherent.pushFits point
  have order := coherent.lines.head.view_le mapped.producer
  have counted : ((queue.caches mapped.headLine).view mapped.consumer).head =
      queue.returned.length := coherent.plain.ring.head
  exact ⟨order.trans counted.le, coherent.plain.ring.fifo.length_le⟩

include none

theorem Coherent.slots_clean
    (unwritten : ∀ message tail written, queue.producer ≠ .writePayload message tail written)
    (after : CachedQueue) (index part : Nat) (inRing : index < mapped.capacity) (small : part < 3) :
    Clean (queue.caches (mapped.slotLine index part)) mapped.producer ∨
      Unpublished mapped after index (mapped.slotLine index part) :=
  .inl (coherent.published.clean_slot none unwritten inRing small)

theorem Coherent.writeHeader (point : queue.producer = .writeHeader message tail)
    (shape : slot = { (mapped.truth queue.caches).slots (tail % mapped.capacity) with
      header := message.header }) :
    Coherent mapped
      { queue.perform (mapped.slotLine (tail % mapped.capacity) 0) (.store mapped.producer fun _ =>
          (mapped.seenBy queue.caches mapped.producer).setSlot (tail % mapped.capacity) slot) with
        producer := .writePayload message tail 0
        producerSteps := [] } := by
  subst shape
  have fits := coherent.pushFits point
  have running : queue.producer ≠ .idle := by simp [point]
  have inRing : tail % mapped.capacity < mapped.capacity := Nat.mod_lt _ mapped.capacity_pos
  let slot := (mapped.truth queue.caches).slots (tail % mapped.capacity)
  refine coherent.setSlot none running fits (by decide) { slot with header := message.header }
    (truth_setSlot inRing slotLine_ne_headLine (fun away => (away rfl).elim) (fun _ _ _ => rfl) ?_)
    (.writePayload message tail 0) [] ⟨fits, ?_, fun _ _ below => ?_⟩
    (coherent.slots_clean none (by simp [point]) _) ⟨rfl, ?_⟩
  · intro position beyond
    exact (congrArg (SharedSpscQueueSlot.payload · position) (seenBy_slots inRing)).trans
      (seenSlot_payload_beyond beyond)
  · simp [SharedSpscQueue.setSlot]
  · exact (Nat.not_lt_zero _ below).elim
  · rw [← header_line inRing]
    exact message_line (coherent.published.usable running) inRing fits.admissible.fits
      (Nat.add_pos_left (by decide) _)

theorem Coherent.writeByte (point : queue.producer = .writePayload message tail written)
    {byte : UInt8}
    (next : message.payload[written]? = some byte)
    (shape : slot = { (mapped.truth queue.caches).slots (tail % mapped.capacity) with
      payload := Function.update
        ((mapped.truth queue.caches).slots (tail % mapped.capacity)).payload written byte }) :
    Coherent mapped
      { queue.perform (mapped.slotLine (tail % mapped.capacity)
            ((sizeofCursor + sizeofMessageHeader + written) / kCacheLineBytes))
          (.store mapped.producer fun _ =>
            (mapped.seenBy queue.caches mapped.producer).setSlot (tail % mapped.capacity) slot) with
        producer := .writePayload message tail (written + 1)
        producerSteps := [] } := by
  subst shape
  obtain ⟨writing, header, bytes⟩ := coherent.pushFits point
  have running : queue.producer ≠ .idle := by simp [point]
  have inRing : tail % mapped.capacity < mapped.capacity := Nat.mod_lt _ mapped.capacity_pos
  have inside : written < message.payload.length := (List.getElem?_eq_some_iff.mp next).1
  have room : written < kQueuePayloadBytes := inside.trans_le writing.admissible.fits
  let slot := (mapped.truth queue.caches).slots (tail % mapped.capacity)
  refine coherent.setSlot none running writing (payload_part room)
    { slot with payload := Function.update slot.payload written byte }
    (truth_setSlot inRing slotLine_ne_headLine (fun _ => ⟨rfl, rfl⟩) ?_ ?_)
    (.writePayload message tail (written + 1)) [] ⟨writing, ?_, ?_⟩
    (coherent.slots_writing point _ _) ⟨rfl, ?_⟩
  · intro position _ away
    refine Function.update_of_ne (fun same => away ?_) ..
    rw [same]
  · intro position beyond
    have different : position ≠ written := fun same => beyond (same ▸ room)
    refine (Function.update_of_ne different ..).trans ?_
    exact (congrArg (SharedSpscQueueSlot.payload · position) (seenBy_slots inRing)).trans
      (seenSlot_payload_beyond beyond)
  · simpa [SharedSpscQueue.setSlot] using header
  · simpa [SharedSpscQueue.setSlot] using bytes.succ next
  · rw [← payload_line inRing room, payloadAddress, Nat.add_assoc]
    exact message_line (coherent.published.usable running) inRing writing.admissible.fits
      (Nat.add_lt_add_left inside _)

/-- The producer has stored its message and begins to publish it. -/
theorem Coherent.payloadWritten (point : queue.producer = .writePayload message tail written)
    (complete : message.payload.length ≤ written) :
    Coherent mapped
      { queue with
        producer := .storeSequence message tail
        producerSteps := mapped.producerPublishes (mapped.headerAddress (tail % mapped.capacity))
          (sizeofMessageHeader + message.payload.length) } := by
  obtain ⟨writing, header, bytes⟩ := coherent.pushFits point
  refine coherent.producerAt none (by simp [point]) (.storeSequence message tail) _
    ⟨writing, header, fun index byte below => bytes index byte (below.trans_le complete)⟩
    fun index part low small => ?_
  refine (coherent.published.slots index part low small).imp id fun unpublished => ?_
  rw [Unpublished, point] at unpublished
  obtain ⟨rfl, member⟩ := unpublished
  exact ⟨rfl, member⟩

theorem Coherent.storeSequence (point : queue.producer = .storeSequence message tail)
    (shape : slot = { (mapped.truth queue.caches).slots (tail % mapped.capacity) with
      sequence := (tail + 1) % cursorModulus }) :
    Coherent mapped
      { queue.perform (mapped.slotLine (tail % mapped.capacity) 0) (.store mapped.producer fun _ =>
          (mapped.seenBy queue.caches mapped.producer).setSlot (tail % mapped.capacity) slot) with
        producer := .storeTail message tail
        producerSteps :=
          mapped.producerPublishes
            (mapped.slotAddress (tail % mapped.capacity)) sizeofCursor } := by
  subst shape
  obtain ⟨writing, header, bytes⟩ := coherent.pushFits point
  have running : queue.producer ≠ .idle := by simp [point]
  have inRing : tail % mapped.capacity < mapped.capacity := Nat.mod_lt _ mapped.capacity_pos
  let slot := (mapped.truth queue.caches).slots (tail % mapped.capacity)
  refine coherent.setSlot none running writing (by decide)
    { slot with sequence := (tail + 1) % cursorModulus }
    (truth_setSlot inRing slotLine_ne_headLine (fun away => (away rfl).elim) (fun _ _ _ => rfl) ?_)
    (.storeTail message tail) _ ⟨writing, ?_⟩
    (coherent.slots_clean none (by simp [point]) _) ⟨rfl, ?_⟩
  · intro position beyond
    exact (congrArg (SharedSpscQueueSlot.payload · position) (seenBy_slots inRing)).trans
      (seenSlot_payload_beyond beyond)
  · simp only [SharedSpscQueue.setSlot, Function.update_self]
    exact ⟨rfl, header, bytes⟩
  · rw [← sequence_line inRing]
    refine producerPublishes_line (coherent.published.usable running) (slotAddress_pos _) ?_ le_rfl
      (Nat.lt_add_of_pos_right (by decide))
    exact @slot_fits mapped _ _ 0 inRing (by decide)

end Push

theorem Coherent.pushAccess (coherent : Coherent mapped queue) (none : queue.producerSteps = [])
    {config : QueueConfig}
    (access : QueueConfig.pushAccess mapped.toSpscQueueIdentity
      (queue.config mapped mapped.producer) = some config)
    (bounded : (config.pushes.filterMap fun call => if call.2.isOk then some call.1
      else Option.none).length < cursorModulus) :
    Coherent mapped
      { queue.store mapped.producer (mapped.pushStore queue.producer) config.shared with
        producer := config.producer
        producerSteps := mapped.pushSteps queue.producer
        pushes := config.pushes } := by
  have inRing : ∀ {tail}, tail % mapped.capacity < mapped.capacity :=
    Nat.mod_lt _ mapped.capacity_pos
  cases point : queue.producer with
  | idle => simp only [QueueConfig.pushAccess, CachedQueue.config, point, reduceCtorEq] at access
  | loadTail message =>
      simp only [QueueConfig.pushAccess, CachedQueue.config, point, Option.some_inj] at access
      subst access
      exact coherent.producerAt none (by simp [point])
        (.loadHead message (mapped.truth queue.caches).tail) []
        ⟨coherent.pushFits point, coherent.plain.ring.tail⟩
        (coherent.slots_clean none (by simp [point]) _)
  | loadHead message tail =>
      obtain ⟨admissible, current⟩ := coherent.pushFits point
      obtain ⟨seen, order⟩ := coherent.head_le point
      have clean := coherent.slots_clean none (by simp [point])
      simp only [QueueConfig.pushAccess, CachedQueue.config, point] at access
      split at access
      · omega
      · split at access <;> rw [Option.some_inj] at access <;> subst access
        · exact (coherent.producerAt none (by simp [point]) .idle [] trivial (clean _)).pushFails
            message rfl (by decide)
        · refine coherent.producerAt none (by simp [point]) (.writeHeader message tail) []
            ⟨admissible, current, ?_⟩ (clean _)
          show tail < queue.returned.length + mapped.capacity
          omega
  | writeHeader message tail =>
      simp only [QueueConfig.pushAccess, CachedQueue.config, point, Option.some_inj] at access
      subst access
      simp only [pushStore, CachedQueue.store, header_line inRing]
      exact coherent.writeHeader none point rfl
  | writePayload message tail written =>
      simp only [QueueConfig.pushAccess, CachedQueue.config, point] at access
      cases next : message.payload[written]? with
      | some byte =>
          rw [next] at access
          simp only [Option.some_inj] at access
          subst access
          have inside : written < message.payload.length :=
            (List.getElem?_eq_some_iff.mp next).1
          have short := (coherent.pushFits point).1.admissible.fits
          simp only [pushStore, if_pos inside, CachedQueue.store,
            payload_line inRing (inside.trans_le short), pushSteps]
          exact coherent.writeByte none point next rfl
      | none =>
          rw [next] at access
          simp only [Option.some_inj] at access
          subst access
          have complete := List.getElem?_eq_none_iff.mp next
          simp only [pushStore, if_neg complete.not_gt, CachedQueue.store, pushSteps]
          exact coherent.payloadWritten none point complete
  | storeSequence message tail =>
      simp only [QueueConfig.pushAccess, CachedQueue.config, point, Option.some_inj] at access
      subst access
      simp only [pushStore, CachedQueue.store, sequence_line inRing, pushSteps]
      exact coherent.storeSequence none point rfl
  | storeTail message tail =>
      simp only [QueueConfig.pushAccess, CachedQueue.config, point, Option.some_inj] at access
      subst access
      have longer := QueueConfig.accepted_pushReturns_ok (queue.truth mapped) message
      have grows : queue.accepted.length + 1 < cursorModulus := by
        have counted := congrArg List.length longer
        rw [List.length_append, List.length_singleton] at counted
        exact counted ▸ bounded
      exact coherent.storeTail none point grows

/-- The next instruction or access of the producer. -/
theorem Coherent.produce (coherent : Coherent mapped queue)
    (performed : queue.produce mapped = some after)
    (bounded : after.accepted.length < cursorModulus) : Coherent mapped after := by
  rw [CachedQueue.produce] at performed
  split at performed
  · rename_i step steps pending
    obtain rfl := Option.some.inj performed
    exact coherent.producerStep pending
  · rename_i none
    obtain ⟨config, access, rfl⟩ := Option.map_eq_some_iff.mp performed
    exact coherent.pushAccess none access bounded

/-! ## Accesses of the consumer -/

/-- The consumer moves on without a store. -/
theorem Coherent.consumerAt (coherent : Coherent mapped queue)
    (running : queue.consumer ≠ .idle) (point : PopPoint) (steps : List (Nat × LineInstruction))
    (fits : QueueConfig.PopFits queue.accepted queue.returned point)
    (flushes : ∀ step ∈ steps, step.2 = .clflush)
    (seen : QueueConfig.seesEnvelope point = true → Seen SharedSpscQueue.tail
      (queue.returned.length + 1) (queue.caches mapped.tailLine) mapped.consumer)
    (current : QueueConfig.seesEnvelope point = true → ∀ part < 3,
      Current (queue.caches (mapped.slotLine (queue.returned.length % mapped.capacity) part))
          mapped.consumer ∨
        mapped.slotLine (queue.returned.length % mapped.capacity) part ∈ steps.map Prod.fst)
    (promise : (point = .loadHead ∨ ∃ head, point = .loadTail head) →
      Seen SharedSpscQueue.tail queue.promised (queue.caches mapped.tailLine) mapped.consumer) :
    Coherent mapped { queue with consumer := point, consumerSteps := steps } := by
  obtain ⟨plain, lines, published, acquired⟩ := coherent
  refine ⟨plain.consumerAt fits, lines.frame rfl, published.frame (fun _ _ => rfl) rfl rfl rfl,
    ⟨fun _ => acquired.usable running, fun _ => flushes, ?_, current,
      fun there => .inl (promise there), acquired.empty⟩⟩
  rw [known]
  split
  · rename_i sees
    exact seen sees
  · refine acquired.seen.weaken ?_
    rw [known]
    split
    · exact Nat.le_succ _
    · exact le_rfl

/-- A `TryPop` that pops nothing and reports no corruption changes nothing else. -/
theorem Coherent.popsNothing (coherent : Coherent mapped queue) {status : Status}
    (code : status.code ≠ .internal) (empty : List EmptyPop)
    (kept : ∀ pop ∈ empty, pop.promised ≤ pop.popped) :
    Coherent mapped
      { queue with pops := queue.pops ++ [(status, none)], emptyPops := empty } := by
  obtain ⟨plain, lines, published, acquired⟩ := coherent
  have same := QueueConfig.returned_popReturns_none (queue.truth mapped) status
  refine ⟨plain.popsNothing (QueueConfig.not_reportsCorruption_of_code code), lines.frame rfl,
    published.frame (fun _ _ => rfl) rfl rfl rfl, ?_⟩
  have moved : Acquired mapped { queue with pops := queue.pops ++ [(status, none)] } :=
    acquired.frame rfl rfl rfl same rfl rfl
  exact ⟨moved.usable, moved.flushes, moved.seen, moved.current, moved.promise, kept⟩

/-- Without instructions to execute, the consumer has the slot that it reads. -/
theorem Coherent.slot_seen (coherent : Coherent mapped queue) (none : queue.consumerSteps = [])
    (sees : QueueConfig.seesEnvelope queue.consumer = true) :
    (mapped.seenBy queue.caches mapped.consumer).slots (queue.returned.length % mapped.capacity) =
      (mapped.truth queue.caches).slots (queue.returned.length % mapped.capacity) := by
  have inRing : queue.returned.length % mapped.capacity < mapped.capacity :=
    Nat.mod_lt _ mapped.capacity_pos
  refine (seenBy_slots inRing).trans (Eq.trans ?_ (seenBy_slots inRing).symm)
  refine seenSlot_congr inRing fun part small => ?_
  have clean := coherent.clean_oldest sees small
  have written := coherent.lines.writers
    (mapped.slotLine (queue.returned.length % mapped.capacity) part)
  rw [writerOf_slotLine] at written
  have current := (coherent.acquired.current sees part small).resolve_right fun pending => by
    rw [none] at pending
    exact List.not_mem_nil pending
  exact current.view.trans (written.memory_eq clean)

theorem Coherent.storeHead (coherent : Coherent mapped queue) {head : Nat}
    {message : QueueEnvelope} (point : queue.consumer = .storeHead head message)
    (bounded : queue.accepted.length < cursorModulus) (steps : List (Nat × LineInstruction)) :
    Coherent mapped
      { queue.perform mapped.headLine (.store mapped.consumer fun _ =>
          { mapped.seenBy queue.caches mapped.consumer with
            head := (head + 1) % cursorModulus }) with
        consumer := .idle
        consumerSteps := steps
        pops := queue.pops ++ [(.ok, some message)] } := by
  have below := QueueConfig.PopFits.below coherent.plain.consumer
    (show QueueConfig.seesEnvelope queue.consumer = true by rw [point]; rfl)
  obtain ⟨plain, lines, published, acquired⟩ := coherent
  have fits : QueueConfig.PopFits queue.accepted queue.returned queue.consumer := plain.consumer
  rw [point] at fits
  obtain ⟨rfl, oldest⟩ := fits
  change queue.returned.length < queue.accepted.length at below
  have counted : ((queue.caches mapped.headLine).view mapped.consumer).head =
      queue.returned.length := plain.ring.head
  have storedLines := lines.store mapped.headLine
    { mapped.seenBy queue.caches mapped.consumer with
      head := (queue.returned.length + 1) % cursorModulus }
    writerOf_headLine (fun here => (tailLine_ne_headLine here.symm).elim) fun _ => by
      rw [counted, Nat.mod_eq_of_lt (by omega)]
      exact Nat.le_succ _
  have longer : (queue.pops ++ [(Status.ok, some message)]).filterMap
      (fun call => if call.1.isOk then call.2 else none) = queue.returned ++ [message] :=
    QueueConfig.returned_popReturns_some (queue.truth mapped) message
  refine ⟨?_, storedLines.frame rfl, ?_, ⟨fun running => (running rfl).elim,
    fun running => (running rfl).elim, ?_, fun sees => (by cases sees), fun there => ?_,
    acquired.empty⟩⟩
  · have whole := plain.pop oldest bounded
    have same := @truth_storeHead mapped queue.caches
      ((queue.returned.length + 1) % cursorModulus)
    simp only [truth, perform, same]
    exact whole
  · exact published.frame (fun _ away => Caches.perform_of_ne _ _ away) rfl rfl rfl
  · have seen := acquired.seen
    rw [known, point] at seen
    show Seen SharedSpscQueue.tail ((queue.pops ++ [(Status.ok, some message)]).filterMap
      _).length (queue.caches.perform (mapped.headLine, _) mapped.tailLine) mapped.consumer
    rw [longer, List.length_append, List.length_singleton,
      Caches.perform_of_ne _ _ tailLine_ne_headLine]
    exact seen
  · rcases there with here | ⟨_, here⟩
    · cases here
    · cases here

/-- Only the last access of a `TryPop` pops an envelope. -/
theorem popAccess_pops {identity : SpscQueueIdentity} {config final : QueueConfig}
    {message : QueueEnvelope}
    (access : QueueConfig.popAccess identity config = some final)
    (popped : final.pops = config.pops ++ [(.ok, some message)]) :
    ∃ head, config.consumer = .storeHead head message := by
  have unchanged : ∀ pops : List (Status × Option QueueEnvelope),
      pops ≠ pops ++ [(.ok, some message)] := fun pops same => by
    have lengths := congrArg List.length same
    simp at lengths
  have nothing : ∀ status, config.pops ++ [(status, none)] ≠
      config.pops ++ [(Status.ok, some message)] := fun status same => by
    have last := List.append_cancel_left same
    simp at last
  cases point : config.consumer with
  | idle => simp [QueueConfig.popAccess, point] at access
  | loadHead =>
      simp only [QueueConfig.popAccess, point, Option.some_inj] at access
      subst access
      exact (unchanged _ popped).elim
  | loadTail head =>
      simp only [QueueConfig.popAccess, point] at access
      split at access
      · rw [Option.some_inj] at access
        subst access
        exact (nothing _ popped).elim
      · split at access <;> rw [Option.some_inj] at access <;> subst access
        · exact (nothing _ popped).elim
        · exact (unchanged _ popped).elim
  | loadSequence head | checkHeader head =>
      simp only [QueueConfig.popAccess, point] at access
      split at access <;> rw [Option.some_inj] at access <;> subst access
      · exact (nothing _ popped).elim
      · exact (unchanged _ popped).elim
  | copyHeader head =>
      simp only [QueueConfig.popAccess, point, Option.some_inj] at access
      subst access
      exact (unchanged _ popped).elim
  | copyPayload head copied =>
      simp only [QueueConfig.popAccess, point] at access
      split at access <;> rw [Option.some_inj] at access <;> subst access
      · exact (unchanged _ popped).elim
      · exact (unchanged _ popped).elim
  | storeHead head copied =>
      simp only [QueueConfig.popAccess, point, Option.some_inj] at access
      subst access
      have last := List.append_cancel_left popped
      simp only [List.cons.injEq, Prod.mk.injEq, Option.some_inj, true_and, and_true] at last
      exact ⟨head, congrArg (PopPoint.storeHead head) last⟩

theorem pops_ne_concat (pops : List (Status × Option QueueEnvelope))
    (call : Status × Option QueueEnvelope) : pops ≠ pops ++ [call] := fun same => by
  have lengths := congrArg List.length same
  simp at lengths

section Pop

variable (coherent : Coherent mapped queue) {head : Nat}

include coherent

theorem Coherent.popFits {point : PopPoint} (here : queue.consumer = point) :
    QueueConfig.PopFits queue.accepted queue.returned point := by
  rw [← here]
  exact coherent.plain.consumer

/-- The producer cursor that the consumer sees is not ahead of the one in memory. -/
theorem Coherent.tail_le :
    (mapped.seenBy queue.caches mapped.consumer).tail ≤ queue.accepted.length := by
  have counted : ((queue.caches mapped.tailLine).view mapped.producer).tail =
      queue.accepted.length := coherent.plain.ring.tail
  exact (coherent.lines.tail.view_le mapped.consumer).trans counted.le

/-- The consumer acquires the slot of the oldest message. -/
theorem Coherent.acquireSlot (point : queue.consumer = .loadTail head)
    (more : head < (mapped.seenBy queue.caches mapped.consumer).tail) :
    Coherent mapped
      { queue with
        consumer := .loadSequence head
        consumerSteps := mapped.consumerAcquires (mapped.slotAddress (head % mapped.capacity))
          sizeofSharedSpscQueueSlot } := by
  obtain rfl : head = queue.returned.length := coherent.popFits point
  have running : queue.consumer ≠ .idle := by simp [point]
  have usable := coherent.acquired.usable running
  have inRing : queue.returned.length % mapped.capacity < mapped.capacity :=
    Nat.mod_lt _ mapped.capacity_pos
  refine coherent.consumerAt running (.loadSequence queue.returned.length) _
    ⟨rfl, more.trans_le coherent.tail_le⟩
    (fun step member => consumerAcquires_clflush usable (slotAddress_pos _) (by decide) member)
    (fun _ => (coherent.lines.tail.seen mapped.distinct.symm).weaken more)
    (fun _ part small => .inr ?_)
    fun there => by rcases there with here | ⟨_, here⟩ <;> cases here
  have byte : mapped.slotLine (queue.returned.length % mapped.capacity) part =
      lineOf (mapped.slotAddress (queue.returned.length % mapped.capacity) +
        part * kCacheLineBytes) := by
    rw [lineOf_slot inRing, Nat.mul_div_cancel _ (by decide)]
    simp only [kCacheLineBytes, sizeofSharedSpscQueueSlot]
    omega
  rw [byte]
  refine consumerAcquires_line usable (slotAddress_pos _)
    (@slot_fits mapped _ _ 0 inRing (by decide)) (Nat.le_add_right _ _)
    (Nat.add_lt_add_left ?_ _)
  simp only [kCacheLineBytes, sizeofSharedSpscQueueSlot]
  omega

variable (none : queue.consumerSteps = [])

include none

/-- The producer cursor that the consumer sees may be old, but not older than its promise. -/
theorem Coherent.promised_le (point : queue.consumer = .loadTail head) :
    queue.promised ≤ (mapped.seenBy queue.caches mapped.consumer).tail ∧
      head ≤ (mapped.seenBy queue.caches mapped.consumer).tail := by
  have promise := (coherent.acquired.promise (.inr ⟨_, point⟩)).resolve_right fun pending => by
    rw [none] at pending
    exact List.not_mem_nil pending.2
  obtain rfl : head = queue.returned.length := coherent.popFits point
  have seen := coherent.acquired.seen
  rw [known, point] at seen
  exact ⟨promise.view, seen.view⟩

theorem Coherent.findsNothing (point : queue.consumer = .loadTail head)
    (drained : head = (mapped.seenBy queue.caches mapped.consumer).tail) :
    Coherent mapped
      { queue with
        consumer := .idle
        consumerSteps := []
        pops := queue.pops ++ [(.ok, Option.none)]
        emptyPops := queue.emptyPops ++ [⟨queue.promised, queue.returned.length⟩] } := by
  have promised := (coherent.promised_le none point).1
  obtain rfl : head = queue.returned.length := coherent.popFits point
  have moved := coherent.consumerAt (by simp [point]) .idle [] trivial
    (fun step member => (List.not_mem_nil member).elim) (fun sees => by cases sees)
    (fun sees => by cases sees) fun there => by
      rcases there with here | ⟨_, here⟩ <;> cases here
  refine moved.popsNothing (by decide) _ fun pop member => ?_
  rcases List.mem_append.mp member with earlier | last
  · exact coherent.acquired.empty pop earlier
  · rw [List.mem_singleton.mp last]
    exact promised.trans drained.ge

/-- The consumer copies from its slot until it stores its cursor. -/
theorem Coherent.copies {config : QueueConfig}
    (access : QueueConfig.popAccess mapped.toSpscQueueIdentity
      (queue.config mapped mapped.consumer) = some config)
    (sees : QueueConfig.seesEnvelope queue.consumer = true)
    (copying : ∀ head message, queue.consumer ≠ .storeHead head message) :
    ∃ point, config = (queue.config mapped mapped.consumer).consumerAt point ∧
      Coherent mapped { queue with consumer := point, consumerSteps := [] } := by
  have oldest : queue.returned.length < queue.accepted.length →
      ∃ message, queue.accepted[queue.returned.length]? = some message ∧
        message.Admissible mapped.toSpscQueueIdentity ∧
        ((mapped.seenBy queue.caches mapped.consumer).slots
          (queue.returned.length % mapped.capacity)).Holds queue.returned.length message := by
    intro below
    rw [coherent.slot_seen none sees]
    exact coherent.plain.ring.oldest below
  rcases @QueueConfig.popAccess_copies (queue.config mapped mapped.consumer) _ _
    coherent.plain.consumer oldest sees access with ⟨point, later, knows, rfl⟩ | ⟨message, -, rfl⟩
  · have seen := coherent.acquired.seen
    rw [known, sees] at seen
    refine ⟨point, rfl, coherent.consumerAt (fun idle => by rw [idle] at sees; cases sees) point []
      knows (fun step member => (List.not_mem_nil member).elim) (fun _ => seen)
      (fun _ part small => .inl ?_) fun there => ?_⟩
    · refine (coherent.acquired.current sees part small).resolve_right fun pending => ?_
      rw [none] at pending
      exact List.not_mem_nil pending
    · rcases there with here | ⟨head, here⟩ <;> rw [here] at later <;> cases later
  · obtain ⟨head, point⟩ := popAccess_pops access rfl
    exact (copying head message point).elim

end Pop

theorem Coherent.popAccess (coherent : Coherent mapped queue) (none : queue.consumerSteps = [])
    (bounded : queue.accepted.length < cursorModulus) {config : QueueConfig}
    (access : QueueConfig.popAccess mapped.toSpscQueueIdentity
      (queue.config mapped mapped.consumer) = some config) {empty : List EmptyPop}
    (nothing : config.pops = queue.pops ++ [(.ok, Option.none)] →
      empty = queue.emptyPops ++ [⟨queue.promised, queue.returned.length⟩])
    (otherwise : config.pops ≠ queue.pops ++ [(.ok, Option.none)] → empty = queue.emptyPops) :
    Coherent mapped
      { queue.store mapped.consumer (mapped.popStore queue.consumer) config.shared with
        consumer := config.consumer
        consumerSteps := mapped.popSteps queue.consumer config.consumer
        pops := config.pops
        emptyPops := empty } := by
  have copies := fun sees copying => coherent.copies none access sees copying
  cases point : queue.consumer with
  | idle => simp only [QueueConfig.popAccess, CachedQueue.config, point, reduceCtorEq] at access
  | loadHead =>
      simp only [QueueConfig.popAccess, CachedQueue.config, point, Option.some_inj] at access
      subst access
      have promise := (coherent.acquired.promise (.inl point)).resolve_right fun pending => by
        rw [none] at pending
        exact List.not_mem_nil pending.2
      obtain rfl := otherwise (pops_ne_concat _ _)
      exact coherent.consumerAt (by simp [point])
        (.loadTail (mapped.seenBy queue.caches mapped.consumer).head) []
        coherent.plain.ring.head (fun step member => (List.not_mem_nil member).elim)
        (fun sees => by cases sees) (fun sees => by cases sees) fun _ => promise
  | loadTail head =>
      obtain ⟨-, past⟩ := coherent.promised_le none point
      have room : queue.accepted.length ≤ queue.returned.length + mapped.capacity :=
        coherent.plain.ring.room
      have stored := coherent.tail_le
      have fits : head = queue.returned.length := coherent.popFits point
      simp only [QueueConfig.popAccess, CachedQueue.config, point] at access
      split at access
      · rename_i drained
        rw [Option.some_inj] at access
        subst access
        obtain rfl := nothing rfl
        exact coherent.findsNothing none point drained
      · split at access <;> rw [Option.some_inj] at access <;> subst access
        · omega
        · rename_i filled _
          obtain rfl := otherwise (pops_ne_concat _ _)
          exact coherent.acquireSlot point (lt_of_le_of_ne past filled)
  | storeHead head message =>
      simp only [QueueConfig.popAccess, CachedQueue.config, point, Option.some_inj] at access
      subst access
      obtain rfl := otherwise fun same => by
        have call := List.append_cancel_left same
        simp at call
      exact coherent.storeHead point bounded (mapped.popSteps (.storeHead head message) .idle)
  | loadSequence head | checkHeader head | copyHeader head | copyPayload head message =>
      obtain ⟨next, rfl, moved⟩ := copies (by rw [point]; rfl) (by simp [point])
      obtain rfl := otherwise (pops_ne_concat _ _)
      exact moved

/-- The next instruction or access of the consumer. -/
theorem Coherent.consume (coherent : Coherent mapped queue)
    (performed : queue.consume mapped = some after)
    (bounded : queue.accepted.length < cursorModulus) : Coherent mapped after := by
  rw [CachedQueue.consume] at performed
  split at performed
  · rename_i step steps pending
    obtain rfl := Option.some.inj performed
    exact coherent.consumerStep pending
  · rename_i none
    obtain ⟨config, access, rfl⟩ := Option.map_eq_some_iff.mp performed
    exact coherent.popAccess none bounded access (fun same => if_pos same) fun other => if_neg other

/-! ## Runs -/

theorem writer?_cacheMove (host : Nat) (move : CacheMove) :
    (move.action host : Action Nat SharedSpscQueue).writer? = none := by
  cases move <;> rfl

theorem Coherent.formatted : Coherent mapped CachedQueue.formatted := by
  constructor
  case plain =>
    refine ⟨⟨rfl, rfl, List.nil_prefix, Nat.zero_le _, fun _ member => (by cases member),
      fun _ _ _ found => (by cases found)⟩, trivial, trivial, fun _ member => (by cases member)⟩
  case lines => exact ⟨fun _ => Written.uncached _ _, Rising.uncached _ _, Rising.uncached _ _⟩
  case published =>
    exact ⟨fun running => (running rfl).elim, fun _ _ _ _ => .inl fun _ found => (by cases found),
      .inl fun _ found => (by cases found), Nat.zero_le _⟩
  case acquired =>
    refine ⟨fun running => (running rfl).elim, fun running => (running rfl).elim,
      ⟨Nat.zero_le _, fun _ found => (by cases found)⟩, fun sees => (by cases sees),
      fun there => ?_, fun _ member => (by cases member)⟩
    rcases there with here | ⟨_, here⟩ <;> cases here

theorem accepted_store (host : Nat) (address : Option Nat) (shared : SharedSpscQueue) :
    (queue.store host address shared).accepted = queue.accepted := by
  cases address <;> rfl

/-- Every call that is made stays on record. -/
theorem next_accepted {op : CachedOp} (performed : queue.next mapped op = some after) :
    queue.accepted.length ≤ after.accepted.length := by
  cases op with
  | cache line host move =>
      obtain rfl := Option.some.inj performed
      exact le_rfl
  | push localHost message =>
      simp only [next] at performed
      split at performed
      · obtain rfl := Option.some.inj performed
        exact ((List.prefix_append queue.pushes _).filterMap _).length_le
      · split at performed
        · obtain rfl := Option.some.inj performed
          exact le_rfl
        · cases performed
  | tryPop localHost =>
      simp only [next] at performed
      split at performed
      · obtain rfl := Option.some.inj performed
        exact le_rfl
      · split at performed
        · obtain rfl := Option.some.inj performed
          exact le_rfl
        · cases performed
  | producer =>
      simp only [next, CachedQueue.produce] at performed
      split at performed
      · obtain rfl := Option.some.inj performed
        exact le_rfl
      · obtain ⟨config, access, rfl⟩ := Option.map_eq_some_iff.mp performed
        have taken : QueueConfig.step mapped.toSpscQueueIdentity
            (queue.config mapped mapped.producer) .producer = some config := access
        exact QueueConfig.step_accepted taken
  | consumer =>
      simp only [next, CachedQueue.consume] at performed
      split at performed
      · obtain rfl := Option.some.inj performed
        exact le_rfl
      · obtain ⟨config, access, rfl⟩ := Option.map_eq_some_iff.mp performed
        exact (congrArg List.length (accepted_store mapped.consumer _ config.shared)).ge

theorem Coherent.next (coherent : Coherent mapped queue) {op : CachedOp}
    (performed : queue.next mapped op = some after)
    (bounded : after.accepted.length < cursorModulus) : Coherent mapped after := by
  have earlier := (next_accepted performed).trans_lt bounded
  cases op with
  | cache line host move =>
      obtain rfl := Option.some.inj performed
      exact coherent.act line (writer?_cacheMove host move)
  | push localHost message => exact coherent.push performed
  | tryPop localHost => exact coherent.tryPop performed
  | producer => exact coherent.produce performed bounded
  | consumer => exact coherent.consume performed earlier

theorem Coherent.reaches
    (execution : Run.Reaches (CachedQueue.next mapped) CachedQueue.formatted queue)
    (bounded : queue.accepted.length < cursorModulus) : Coherent mapped queue := by
  induction execution with
  | refl => exact .formatted
  | tail _ last induction =>
      obtain ⟨op, -, performed⟩ := last
      exact (induction ((next_accepted performed).trans_lt bounded)).next performed bounded

/-- Behind write-back caches that nothing keeps coherent, and in every run that accepts fewer than
`2 ^ 64` messages: the messages popped are a prefix of those accepted, no call finds the queue
corrupt, and when a `TryPop` returns nothing, every message whose `Push` had returned before it
began has been popped. -/
theorem cached_queue_exact_fifo
    (execution : Run.Reaches (CachedQueue.next mapped) CachedQueue.formatted queue)
    (bounded : queue.accepted.length < 2 ^ 64) :
    queue.returned <+: queue.accepted ∧
      (∀ status ∈ queue.reports,
        status ≠ .internal "shared SPSC queue cursors are corrupt" ∧
          status ≠ .internal "shared SPSC queue message is corrupt") ∧
      ∀ pop ∈ queue.emptyPops, pop.promised ≤ pop.popped := by
  have coherent := Coherent.reaches execution bounded
  refine ⟨coherent.plain.ring.fifo, fun status member => ?_, coherent.acquired.empty⟩
  exact not_or.mp (coherent.plain.sound status member)

/-- A ring of one entry between hosts with different write-back modes. -/
def mappedEntry : MappedQueue where
  producer := 0
  consumer := 1
  capacity := 1
  capacity_pos := Nat.one_pos
  producerProcessor := ⟨true, true⟩
  producerMode := .clwb
  consumerProcessor := ⟨true, false⟩
  consumerMode := .clflush
  address := 64
  address_pos := Nat.succ_pos _
  aligned := ⟨1, rfl⟩
  fits := Nat.le_of_ble_eq_true rfl
  distinct := Nat.zero_ne_one
  producerWritesBack := rfl
  consumerWritesBack := rfl

/-- The consumer has old copies of the producer cursor and of the slot when a message is pushed.  It
pops the message and then finds the queue empty. -/
def mappedEntryOps : List CachedOp :=
  [CachedOp.cache 128 1 .fetch, .cache 256 1 .fetch, .push 0 (QueueConfig.oneEntryMessage [7])] ++
    List.replicate 5 CachedOp.producer ++ [CachedOp.cache 256 0 .evict] ++
    List.replicate 6 CachedOp.producer ++ [CachedOp.tryPop 1] ++
    List.replicate 13 CachedOp.consumer ++ [CachedOp.tryPop 1] ++ List.replicate 3 CachedOp.consumer

theorem cached_queue_exact_fifo_oldCopies :
    ∃ queue, Run.runLabels (CachedQueue.next mappedEntry) CachedQueue.formatted mappedEntryOps =
        some queue ∧
      queue.returned = [QueueConfig.oneEntryMessage [7]] ∧ queue.emptyPops = [⟨1, 1⟩] ∧
      queue.returned <+: queue.accepted ∧ ∀ pop ∈ queue.emptyPops, pop.promised ≤ pop.popped := by
  have outcome : (Run.runLabels (CachedQueue.next mappedEntry) CachedQueue.formatted
      mappedEntryOps).any (fun queue => queue.returned = [QueueConfig.oneEntryMessage [7]] ∧
        queue.emptyPops = [⟨1, 1⟩] ∧ queue.accepted.length = 1) = true := by
    decide +kernel
  obtain ⟨queue, execution, facts⟩ := (Option.any_eq_true _ _).mp outcome
  obtain ⟨popped, empty, pushed⟩ := of_decide_eq_true facts
  obtain ⟨fifo, -, nothing⟩ := cached_queue_exact_fifo (Run.reaches_of_runLabels execution)
    (by rw [pushed]; decide)
  exact ⟨queue, execution, popped, empty, fifo, nothing⟩

end CachedQueue
end Cxloom.LoomMem
