import Cxloom.LoomMem.CachedQueueLines
import Cxloom.LoomMem.QueueSaturation

/-!
# Coherence of the queue behind write-back caches

The queue as its writers see it keeps the invariant that it has in one memory.  The consumer cursor
that the producer sees may be old, and so may be the producer cursor that the consumer sees.  Slots
are published before the cursor counts them, and the consumer flushes its copies of a slot before it
reads the slot.
-/

namespace Cxloom.LoomMem

open WriteBackCache QueueRegion

/-! ## The invariant -/

namespace CachedQueue

open MappedQueue

variable (mapped : MappedQueue) (queue : CachedQueue)

/-- The queue as its writers see it, with the calls. -/
def truth : QueueConfig :=
  ⟨mapped.truth queue.caches, queue.producer, queue.consumer, queue.pushes, queue.pops⟩

/-- A line of a slot that the running `Push` has yet to write back. -/
def Unpublished (index line : Nat) : Prop :=
  match queue.producer with
  | .writePayload message tail _ =>
      index = tail % mapped.capacity ∧
        line ∈ (mapped.producerPublishes (mapped.headerAddress index)
          (sizeofMessageHeader + message.payload.length)).map Prod.fst
  | .storeSequence _ tail | .storeTail _ tail =>
      index = tail % mapped.capacity ∧ line ∈ queue.producerSteps.map Prod.fst
  | .idle | .loadTail _ | .loadHead _ _ | .writeHeader _ _ => False

/-- What the consumer knows of the producer cursor. -/
def known : Nat :=
  if QueueConfig.seesEnvelope queue.consumer then queue.returned.length + 1
  else queue.returned.length

/-- The lines of the queue follow their writers. -/
structure CoherentLines : Prop where
  writers : Writers mapped queue.caches
  tail : Rising SharedSpscQueue.tail (queue.caches mapped.tailLine) mapped.producer
  head : Rising SharedSpscQueue.head (queue.caches mapped.headLine) mapped.consumer

/-- What the producer has published. -/
structure Published : Prop where
  /-- A call is under way only if its mode is usable. -/
  usable : queue.producer ≠ .idle →
    (validateVisibilityMode mapped.producerProcessor mapped.producerMode).isOk = true
  /-- Slots are published but for what the running `Push` has yet to write back. -/
  slots : ∀ index part, index < mapped.capacity → part < 3 →
    Clean (queue.caches (mapped.slotLine index part)) mapped.producer ∨
      queue.Unpublished mapped index (mapped.slotLine index part)
  cursor : Clean (queue.caches mapped.tailLine) mapped.producer ∨
    queue.producer = .idle ∧ mapped.tailLine ∈ queue.producerSteps.map Prod.fst
  /-- The last message may be missing from the cursor in memory, but no other. -/
  behind : queue.accepted.length ≤ (queue.caches mapped.tailLine).memory.tail + 1

/-- What the consumer has acquired. -/
structure Acquired : Prop where
  /-- A call is under way only if its mode is usable. -/
  usable : queue.consumer ≠ .idle →
    (validateVisibilityMode mapped.consumerProcessor mapped.consumerMode).isOk = true
  /-- A running call executes flushes only. -/
  flushes : queue.consumer ≠ .idle → ∀ step ∈ queue.consumerSteps, step.2 = .clflush
  /-- The producer cursor does not fall behind what was seen of it. -/
  seen : Seen SharedSpscQueue.tail queue.known (queue.caches mapped.tailLine) mapped.consumer
  /-- The copies of the slot that is read are current once they were flushed. -/
  current : QueueConfig.seesEnvelope queue.consumer = true → ∀ part < 3,
    Current (queue.caches (mapped.slotLine (queue.returned.length % mapped.capacity) part))
        mapped.consumer ∨
      mapped.slotLine (queue.returned.length % mapped.capacity) part ∈
        queue.consumerSteps.map Prod.fst
  /-- The running call sees what it was promised once it has flushed the cursor. -/
  promise : (queue.consumer = .loadHead ∨ ∃ head, queue.consumer = .loadTail head) →
    Seen SharedSpscQueue.tail queue.promised (queue.caches mapped.tailLine) mapped.consumer ∨
      queue.promised ≤ (queue.caches mapped.tailLine).memory.tail ∧
        mapped.tailLine ∈ queue.consumerSteps.map Prod.fst
  /-- Calls that returned nothing had nothing to return. -/
  empty : ∀ pop ∈ queue.emptyPops, pop.promised ≤ pop.popped

/-- The invariant of every run behind the caches. -/
structure Coherent : Prop where
  plain : QueueConfig.QueueInv mapped.toSpscQueueIdentity (queue.truth mapped)
  lines : CoherentLines mapped queue
  /-- The producer. -/
  published : Published mapped queue
  /-- The consumer. -/
  acquired : Acquired mapped queue

variable {mapped queue} {line : Nat} {action : Action Nat SharedSpscQueue}

/-- The lines of a message that a running `Push` writes are not those of the oldest message. -/
theorem Coherent.clean_oldest (coherent : Coherent mapped queue)
    (sees : QueueConfig.seesEnvelope queue.consumer = true) {part : Nat} (small : part < 3) :
    Clean (queue.caches
      (mapped.slotLine (queue.returned.length % mapped.capacity) part)) mapped.producer := by
  have below : queue.returned.length < queue.accepted.length :=
    QueueConfig.PopFits.below coherent.plain.consumer sees
  have inRing : queue.returned.length % mapped.capacity < mapped.capacity :=
    Nat.mod_lt _ mapped.capacity_pos
  have apart : ∀ message tail,
      QueueConfig.Writing mapped.toSpscQueueIdentity queue.accepted queue.returned message tail →
      queue.returned.length % mapped.capacity ≠ tail % mapped.capacity :=
    fun message tail writing => mod_ne_of_lt_lap (writing.cursor ▸ below) writing.free
  have fits : QueueConfig.PushFits mapped.toSpscQueueIdentity (mapped.truth queue.caches)
      queue.accepted queue.returned queue.producer := coherent.plain.producer
  rcases coherent.published.slots _ part inRing small with clean | unpublished
  · exact clean
  · rw [Unpublished] at unpublished
    cases point : queue.producer with
    | writePayload message tail written | storeSequence message tail | storeTail message tail =>
        rw [point] at fits unpublished
        exact (apart message tail fits.1 unpublished.1).elim
    | idle | loadTail message => rw [point] at unpublished; exact unpublished.elim
    | loadHead message tail
    | writeHeader message tail => rw [point] at unpublished; exact unpublished.elim

/-- What holds of a line and is kept by an action on it holds after an action on any line. -/
theorem keep_line {other : Nat} (property : LineState Nat SharedSpscQueue → Prop)
    (before : property (queue.caches other))
    (kept : other = line → property ((queue.caches other).perform action)) :
    property ((queue.perform line action).caches other) := by
  show property (queue.caches.perform (line, action) other)
  by_cases here : other = line
  · subst here
    rw [Caches.perform_self]
    exact kept rfl
  · rw [Caches.perform_of_ne _ _ here]
    exact before

/-- Nothing that the caches do and no flush changes the queue. -/
theorem Coherent.act (coherent : Coherent mapped queue) (line : Nat)
    (quiet : action.writer? = none) : Coherent mapped (queue.perform line action) := by
  obtain ⟨plain, lines, published, acquired⟩ := coherent
  have silent : ∀ host change, action ≠ .store host change := fun host change same => by
    rw [same] at quiet
    cases quiet
  have same : (queue.perform line action).truth mapped = queue.truth mapped := by
    rw [truth, truth]
    congr 1
    exact lines.writers.truth_perform quiet
  have risen := lines.tail.perform (only_of_quiet quiet) fun host change store =>
    (silent host change store).elim
  have distinct := mapped.distinct.symm
  constructor
  case plain =>
    rw [same]
    exact plain
  case lines =>
    have headRisen := lines.head.perform (only_of_quiet quiet) fun host change store =>
      (silent host change store).elim
    exact ⟨lines.writers.perform (only_of_quiet quiet),
      keep_line (Rising SharedSpscQueue.tail · mapped.producer) lines.tail fun _ => risen.1,
      keep_line (Rising SharedSpscQueue.head · mapped.consumer) lines.head fun _ => headRisen.1⟩
  case published =>
    have stays : ∀ other, Clean (queue.caches other) mapped.producer →
        Clean ((queue.perform line action).caches other) mapped.producer := fun other clean =>
      keep_line (Clean · mapped.producer) clean fun _ => clean.perform quiet
    refine ⟨published.usable, fun index part inRing small => ?_,
      published.cursor.imp (stays _) id, ?_⟩
    · exact (published.slots index part inRing small).imp (stays _) id
    · refine keep_line (fun state => queue.accepted.length ≤ state.memory.tail + 1)
        published.behind fun _ => published.behind.trans ?_
      exact Nat.add_le_add_right risen.2 1
  case acquired =>
    have looks : ∀ {floor}, Seen SharedSpscQueue.tail floor (queue.caches mapped.tailLine)
        mapped.consumer → Seen SharedSpscQueue.tail floor
          ((queue.perform line action).caches mapped.tailLine) mapped.consumer := fun seen =>
      keep_line (Seen SharedSpscQueue.tail _ · mapped.consumer) seen fun _ =>
        seen.perform lines.tail distinct (only_of_quiet quiet) fun host change store =>
          (silent host change store).elim
    refine ⟨acquired.usable, acquired.flushes, looks acquired.seen, fun sees part small => ?_,
      fun point => (acquired.promise point).imp looks (And.imp_left fun promised => ?_),
      acquired.empty⟩
    · refine (acquired.current sees part small).imp (fun current => ?_) id
      have clean := Coherent.clean_oldest ⟨plain, lines, published, acquired⟩ sees small
      have written := lines.writers
        (mapped.slotLine (queue.returned.length % mapped.capacity) part)
      rw [writerOf_slotLine] at written
      exact keep_line (Current · mapped.consumer) current fun _ =>
        current.perform written clean quiet
    · exact keep_line (fun state => queue.promised ≤ state.memory.tail) promised fun _ =>
        promised.trans risen.2

/-- The producer executes an instruction of a recipe. -/
theorem Coherent.producerStep (coherent : Coherent mapped queue) {step : Nat × LineInstruction}
    {steps : List (Nat × LineInstruction)} (pending : queue.producerSteps = step :: steps) :
    Coherent mapped
      { queue.perform step.1 (step.2.action mapped.producer) with producerSteps := steps } := by
  obtain ⟨plain, lines, ⟨usable, slots, cursor, behind⟩, acquired⟩ :=
    coherent.act step.1 (step.2.writer?_action mapped.producer)
  have cleaned : Clean ((queue.perform step.1 (step.2.action mapped.producer)).caches step.1)
      mapped.producer := by
    show Clean (queue.caches.perform (step.1, _) step.1) mapped.producer
    rw [Caches.perform_self]
    exact step.2.clean_action _ _
  have executed : ∀ line, line ∈ queue.producerSteps.map Prod.fst →
      Clean ((queue.perform step.1 (step.2.action mapped.producer)).caches line) mapped.producer ∨
        line ∈ steps.map Prod.fst := fun line member => by
    rw [pending, List.map_cons, List.mem_cons] at member
    rcases member with rfl | later
    · exact .inl cleaned
    · exact .inr later
  refine ⟨plain, ⟨lines.writers, lines.tail, lines.head⟩, ⟨usable, ?_, ?_, behind⟩, ?_⟩
  · intro index part inRing small
    rcases slots index part inRing small with clean | unpublished
    · exact .inl clean
    · rw [Unpublished] at unpublished ⊢
      cases point : queue.producer with
      | writePayload message tail written =>
          simp only [perform, point] at unpublished ⊢
          exact .inr unpublished
      | storeSequence message tail | storeTail message tail =>
          simp only [perform, point] at unpublished ⊢
          exact (executed _ unpublished.2).imp id fun later => ⟨unpublished.1, later⟩
      | idle | loadTail message => simp only [perform, point] at unpublished
      | loadHead message tail
      | writeHeader message tail => simp only [perform, point] at unpublished
  · rcases cursor with clean | ⟨idle, member⟩
    · exact .inl clean
    · exact (executed _ member).imp id fun later => ⟨idle, later⟩
  · exact ⟨acquired.usable, acquired.flushes, acquired.seen, acquired.current, acquired.promise,
      acquired.empty⟩

/-- The consumer executes an instruction of a recipe. -/
theorem Coherent.consumerStep (coherent : Coherent mapped queue) {step : Nat × LineInstruction}
    {steps : List (Nat × LineInstruction)} (pending : queue.consumerSteps = step :: steps) :
    Coherent mapped
      { queue.perform step.1 (step.2.action mapped.consumer) with consumerSteps := steps } := by
  obtain ⟨plain, lines, published, ⟨usable, flushes, seen, current, promise, empty⟩⟩ :=
    coherent.act step.1 (step.2.writer?_action mapped.consumer)
  have first : queue.consumer ≠ .idle → step.2 = .clflush := fun running =>
    coherent.acquired.flushes running step (pending ▸ List.mem_cons_self)
  refine ⟨plain, ⟨lines.writers, lines.tail, lines.head⟩, ?_, ⟨usable, ?_, seen, ?_, ?_, empty⟩⟩
  · exact ⟨published.usable, published.slots, published.cursor, published.behind⟩
  · exact fun running other member =>
      coherent.acquired.flushes running other (pending ▸ List.mem_cons_of_mem step member)
  · intro sees part small
    have running : queue.consumer ≠ .idle := fun idle => by
      change QueueConfig.seesEnvelope queue.consumer = true at sees
      rw [idle] at sees
      cases sees
    rcases current sees part small with there | member
    · exact .inl there
    · change mapped.slotLine (queue.returned.length % mapped.capacity) part ∈
        queue.consumerSteps.map Prod.fst at member
      rw [pending, List.map_cons, List.mem_cons] at member
      rcases member with here | later
      · left
        show Current (queue.caches.perform (step.1, step.2.action mapped.consumer)
          (mapped.slotLine (queue.returned.length % mapped.capacity) part)) mapped.consumer
        rw [here, first running, Caches.perform_self]
        exact current_clflush _ _
      · exact .inr later
  · intro point
    have running : queue.consumer ≠ .idle := fun idle => by
      rcases point with here | ⟨head, here⟩
      · cases idle.symm.trans here
      · cases idle.symm.trans here
    rcases promise point with looks | ⟨promised, member⟩
    · exact .inl looks
    · change _ ∈ queue.consumerSteps.map Prod.fst at member
      rw [pending, List.map_cons, List.mem_cons] at member
      rcases member with here | later
      · left
        change queue.promised ≤ (queue.caches.perform
          (step.1, step.2.action mapped.consumer) mapped.tailLine).memory.tail at promised
        show Seen _ queue.promised (queue.caches.perform
          (step.1, step.2.action mapped.consumer) mapped.tailLine) mapped.consumer
        rw [here, first running, Caches.perform_self] at promised ⊢
        exact seen_clflush _ _ promised
      · exact .inr ⟨promised, later⟩

/-! ### Calls -/

section Frames

variable {after : CachedQueue}

theorem Unpublished.frame (producer : after.producer = queue.producer)
    (steps : after.producerSteps = queue.producerSteps) (index line : Nat) :
    after.Unpublished mapped index line = queue.Unpublished mapped index line := by
  unfold Unpublished
  rw [producer, steps]

/-- What the producer has published depends on nothing of the consumer. -/
theorem Published.frame (published : Published mapped queue)
    (caches : ∀ line, line ≠ mapped.headLine → after.caches line = queue.caches line)
    (producer : after.producer = queue.producer)
    (steps : after.producerSteps = queue.producerSteps)
    (accepted : after.accepted.length = queue.accepted.length) : Published mapped after := by
  have tail := caches mapped.tailLine tailLine_ne_headLine
  refine ⟨?_, fun index part inRing small => ?_, ?_, ?_⟩
  · rw [producer]
    exact published.usable
  · rw [caches _ slotLine_ne_headLine, Unpublished.frame producer steps]
    exact published.slots index part inRing small
  · rw [tail, producer, steps]
    exact published.cursor
  · rw [tail, accepted]
    exact published.behind

/-- What the consumer has acquired depends on nothing of the producer but its lines. -/
theorem Acquired.frame (acquired : Acquired mapped queue) (caches : after.caches = queue.caches)
    (consumer : after.consumer = queue.consumer)
    (steps : after.consumerSteps = queue.consumerSteps)
    (returned : after.returned = queue.returned) (promised : after.promised = queue.promised)
    (empty : after.emptyPops = queue.emptyPops) : Acquired mapped after := by
  refine ⟨?_, ?_, ?_, ?_, ?_, ?_⟩
  · rw [consumer]
    exact acquired.usable
  · rw [consumer, steps]
    exact acquired.flushes
  · rw [known, consumer, returned, caches]
    exact acquired.seen
  · rw [consumer, steps, returned, caches]
    exact acquired.current
  · rw [consumer, steps, promised, caches]
    exact acquired.promise
  · rw [empty]
    exact acquired.empty

theorem CoherentLines.frame (lines : CoherentLines mapped queue)
    (caches : after.caches = queue.caches) : CoherentLines mapped after := by
  refine ⟨?_, ?_, ?_⟩
  · rw [caches]
    exact lines.writers
  · rw [caches]
    exact lines.tail
  · rw [caches]
    exact lines.head

end Frames

theorem pushRejection_usable {identity : SpscQueueIdentity} {localHost : Nat}
    {message : QueueEnvelope}
    (passes : QueueConfig.pushRejection identity localHost message = none) :
    (validateVisibilityMode identity.producerProcessor identity.producerMode).isOk = true := by
  simp only [QueueConfig.pushRejection] at passes
  split at passes
  · cases passes
  · split at passes
    · cases passes
    · split at passes
      · cases passes
      · split at passes
        · assumption
        · cases passes

theorem popRejection_usable {identity : SpscQueueIdentity} {localHost : Nat}
    (passes : QueueConfig.popRejection identity localHost = none) :
    (validateVisibilityMode identity.consumerProcessor identity.consumerMode).isOk = true := by
  simp only [QueueConfig.popRejection] at passes
  split at passes
  · cases passes
  · split at passes
    · assumption
    · cases passes

/-- A `Push` that fails without reporting corruption changes nothing else. -/
theorem Coherent.pushFails (coherent : Coherent mapped queue) (message : QueueEnvelope)
    {status : Status} (failed : status.isOk = false) (code : status.code ≠ .internal) :
    Coherent mapped { queue with pushes := queue.pushes ++ [(message, status)] } := by
  obtain ⟨plain, lines, published, acquired⟩ := coherent
  have same := QueueConfig.accepted_pushReturns_of_not_isOk (queue.truth mapped) message failed
  exact ⟨plain.pushFails message failed (QueueConfig.not_reportsCorruption_of_code code),
    lines.frame rfl, published.frame (fun _ _ => rfl) rfl rfl (congrArg List.length same),
    acquired.frame rfl rfl rfl rfl rfl rfl⟩

theorem Coherent.push (coherent : Coherent mapped queue) {localHost : Nat}
    {message : QueueEnvelope} {after : CachedQueue}
    (performed : queue.next mapped (.push localHost message) = some after) :
    Coherent mapped after := by
  simp only [next] at performed
  split at performed
  · rename_i status rejected
    obtain rfl := Option.some.inj performed
    obtain ⟨failed, code⟩ := QueueConfig.pushRejection_some rejected
    exact coherent.pushFails message failed code
  · rename_i passes
    split at performed
    · rename_i waiting
      obtain ⟨idle, none⟩ := waiting
      obtain ⟨plain, lines, published, acquired⟩ := coherent
      obtain rfl := Option.some.inj performed
      refine ⟨plain.producerAt (QueueConfig.pushRejection_none passes), lines.frame rfl,
        ⟨fun _ => pushRejection_usable passes, fun index part inRing small => ?_, ?_,
          published.behind⟩, acquired.frame rfl rfl rfl rfl rfl rfl⟩
      · refine .inl ((published.slots index part inRing small).resolve_right fun unpublished => ?_)
        rw [Unpublished, idle] at unpublished
        exact unpublished
      · refine .inl (published.cursor.resolve_right fun pending => ?_)
        rw [none] at pending
        exact List.not_mem_nil pending.2
    · cases performed

/-- When a `TryPop` begins, memory has every message whose `Push` has returned. -/
theorem Coherent.completed_le (coherent : Coherent mapped queue) :
    queue.completed ≤ (queue.caches mapped.tailLine).memory.tail := by
  have behind := coherent.published.behind
  rw [completed]
  split
  · omega
  · rename_i returned
    have clean := coherent.published.cursor.resolve_right fun pending =>
      returned ⟨pending.1, fun none => by rw [none] at pending; exact List.not_mem_nil pending.2⟩
    have counted : (mapped.truth queue.caches).tail = queue.accepted.length :=
      coherent.plain.ring.tail
    rw [coherent.lines.tail.memory_eq clean]
    exact counted.ge

theorem Coherent.tryPop (coherent : Coherent mapped queue) {localHost : Nat} {after : CachedQueue}
    (performed : queue.next mapped (.tryPop localHost) = some after) : Coherent mapped after := by
  have memory := coherent.completed_le
  obtain ⟨plain, lines, published, acquired⟩ := coherent
  simp only [next] at performed
  split at performed
  · rename_i status rejected
    obtain rfl := Option.some.inj performed
    have same := QueueConfig.returned_popReturns_none (queue.truth mapped) status
    exact ⟨plain.popsNothing (QueueConfig.not_reportsCorruption_of_code
        (QueueConfig.popRejection_some rejected)), lines.frame rfl,
      published.frame (fun _ _ => rfl) rfl rfl rfl, acquired.frame rfl rfl rfl same rfl rfl⟩
  · rename_i passes
    split at performed
    · rename_i waiting
      obtain ⟨idle, none⟩ := waiting
      obtain rfl := Option.some.inj performed
      have usable := popRejection_usable passes
      have nonnull : 0 < mapped.tailAddress := Nat.add_pos_left mapped.address_pos 64
      have looks := acquired.seen
      rw [known, idle] at looks
      refine ⟨plain.consumerAt trivial, lines.frame rfl,
        published.frame (fun _ _ => rfl) rfl rfl rfl, ⟨fun _ => usable, fun _ step member => ?_,
          looks, fun sees => (by cases sees), fun _ => .inr ⟨memory, ?_⟩, acquired.empty⟩⟩
      · exact consumerAcquires_clflush usable nonnull (by decide) member
      · refine consumerAcquires_line usable nonnull ?_ le_rfl ?_
        · have fits := mapped.fits
          simp only [tailAddress, sizeofCursor, sizeofSharedSpscQueueHeader] at fits ⊢
          omega
        · exact Nat.lt_add_of_pos_right (by decide)
    · cases performed

end CachedQueue
end Cxloom.LoomMem
