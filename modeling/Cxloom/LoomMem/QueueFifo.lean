import Cxloom.LoomMem.Queue
import Mathlib.Data.List.Basic
import Mathlib.Data.List.Infix

/-!
# The shared queue is an exact bounded FIFO

The producer's writes stay inside the one slot that its cursor selects, and that slot is free for
as long as the cursor has not moved, whatever the consumer does in the meantime.  The invariant
therefore speaks about the slots of accepted and not yet popped envelopes only; stale sequence
numbers and stale payload tails are never constrained.
-/

namespace Cxloom.LoomMem

/-- An envelope that passes the checks of `Push` for this queue. -/
structure QueueEnvelope.Admissible (identity : SpscQueueIdentity) (message : QueueEnvelope) :
    Prop where
  kind : message.header.kind ≠ .invalid
  srcHost : message.header.srcHost = identity.producer
  dstHost : message.header.dstHost = identity.consumer
  payloadBytes : message.header.payloadBytes = message.payload.length
  fits : message.payload.length ≤ kQueuePayloadBytes

/-- The first `count` payload bytes of a slot are those of an envelope. -/
def SharedSpscQueueSlot.HoldsBytes (slot : SharedSpscQueueSlot) (message : QueueEnvelope)
    (count : Nat) : Prop :=
  ∀ index byte, index < count → message.payload[index]? = some byte → slot.payload index = byte

/-- A slot holds the envelope pushed at a cursor. -/
structure SharedSpscQueueSlot.Holds (slot : SharedSpscQueueSlot) (cursor : Nat)
    (message : QueueEnvelope) : Prop where
  sequence : slot.sequence = (cursor + 1) % cursorModulus
  header : slot.header = message.header
  payload : slot.HoldsBytes message message.payload.length

theorem SharedSpscQueueSlot.HoldsBytes.succ {slot : SharedSpscQueueSlot}
    {message : QueueEnvelope} {count : Nat} {byte : UInt8}
    (holds : slot.HoldsBytes message count) (next : message.payload[count]? = some byte) :
    SharedSpscQueueSlot.HoldsBytes
      { slot with payload := Function.update slot.payload count byte } message (count + 1) := by
  intro index other below present
  rcases Nat.lt_succ_iff_lt_or_eq.mp below with earlier | rfl
  · have distinct : index ≠ count := by omega
    simpa [distinct] using holds index other earlier present
  · rw [next] at present
    simpa using present

/-- Cursors less than one lap apart select different slots. -/
theorem mod_ne_of_lt_lap {early late capacity : Nat} (order : early < late)
    (lap : late < early + capacity) : early % capacity ≠ late % capacity := by
  intro same
  have multiple : capacity ∣ late - early :=
    Nat.dvd_of_mod_eq_zero (Nat.sub_mod_eq_zero_of_mod_eq same.symm)
  have positive : 0 < late - early := by omega
  have lower := Nat.le_of_dvd positive multiple
  omega

/-- A prefix followed by the next element is a prefix. -/
theorem concat_prefix {α : Type} {front whole : List α} {next : α} (order : front <+: whole)
    (present : whole[front.length]? = some next) : front ++ [next] <+: whole := by
  rw [List.prefix_iff_eq_take, List.length_append, List.length_singleton, List.take_add_one,
    present, ← List.prefix_iff_eq_take.mp order]
  rfl

namespace QueueConfig

/-- The two diagnostics that report corruption. -/
def ReportsCorruption (status : Status) : Prop :=
  status = .internal "shared SPSC queue cursors are corrupt" ∨
    status = .internal "shared SPSC queue message is corrupt"

/-- What the shared words say about the accepted and the popped envelopes. -/
structure RingInv (identity : SpscQueueIdentity) (shared : SharedSpscQueue)
    (accepted returned : List QueueEnvelope) : Prop where
  /-- The producer cursor counts the accepted envelopes. -/
  tail : shared.tail = accepted.length
  /-- The consumer cursor counts the popped envelopes. -/
  head : shared.head = returned.length
  /-- Envelopes leave in the order of their acceptance. -/
  fifo : returned <+: accepted
  /-- The ring is never overfull. -/
  room : accepted.length ≤ returned.length + identity.capacity
  /-- Every accepted envelope passed the checks. -/
  admissible : ∀ message ∈ accepted, message.Admissible identity
  /-- Every accepted and not yet popped envelope is in its slot. -/
  holds : ∀ cursor message, returned.length ≤ cursor → accepted[cursor]? = some message →
    (shared.slots (cursor % identity.capacity)).Holds cursor message

/-- A `Push` that has seen room for its envelope and not yet moved its cursor. -/
structure Writing (identity : SpscQueueIdentity) (accepted returned : List QueueEnvelope)
    (message : QueueEnvelope) (tail : Nat) : Prop where
  /-- The envelope passed the checks. -/
  admissible : message.Admissible identity
  cursor : tail = accepted.length
  free : tail < returned.length + identity.capacity

/-- What a running `Push` knows. -/
def PushFits (identity : SpscQueueIdentity) (shared : SharedSpscQueue)
    (accepted returned : List QueueEnvelope) : PushPoint → Prop
  | .idle => True
  | .loadTail message => message.Admissible identity
  | .loadHead message tail => message.Admissible identity ∧ tail = accepted.length
  | .writeHeader message tail => Writing identity accepted returned message tail
  | .writePayload message tail written =>
      Writing identity accepted returned message tail ∧
        (shared.slots (tail % identity.capacity)).header = message.header ∧
        (shared.slots (tail % identity.capacity)).HoldsBytes message written
  | .storeSequence message tail =>
      Writing identity accepted returned message tail ∧
        (shared.slots (tail % identity.capacity)).header = message.header ∧
        (shared.slots (tail % identity.capacity)).HoldsBytes message message.payload.length
  | .storeTail message tail =>
      Writing identity accepted returned message tail ∧
        (shared.slots (tail % identity.capacity)).Holds tail message

/-- What a running `TryPop` knows; nothing of it depends on the shared words. -/
def PopFits (accepted returned : List QueueEnvelope) : PopPoint → Prop
  | .idle => True
  | .loadHead => True
  | .loadTail head => head = returned.length
  | .loadSequence head => head = returned.length ∧ head < accepted.length
  | .checkHeader head => head = returned.length ∧ head < accepted.length
  | .copyHeader head => head = returned.length ∧ head < accepted.length
  | .copyPayload head message =>
      head = returned.length ∧
        ∃ original, accepted[head]? = some original ∧ message.header = original.header ∧
          message.payload <+: original.payload
  | .storeHead head message => head = returned.length ∧ accepted[head]? = some message

/-- The invariant of every interleaving. -/
structure QueueInv (identity : SpscQueueIdentity) (config : QueueConfig) : Prop where
  ring : RingInv identity config.shared config.accepted config.returned
  producer : PushFits identity config.shared config.accepted config.returned config.producer
  consumer : PopFits config.accepted config.returned config.consumer
  sound : ∀ status ∈ config.reports, ¬ReportsCorruption status

@[simp] theorem accepted_producerAt (config : QueueConfig) (point : PushPoint) :
    (config.producerAt point).accepted = config.accepted := rfl

@[simp] theorem accepted_consumerAt (config : QueueConfig) (point : PopPoint) :
    (config.consumerAt point).accepted = config.accepted := rfl

@[simp] theorem returned_consumerAt (config : QueueConfig) (point : PopPoint) :
    (config.consumerAt point).returned = config.returned := rfl

@[simp] theorem returned_withShared (config : QueueConfig) (shared : SharedSpscQueue) :
    (config.withShared shared).returned = config.returned := rfl

@[simp] theorem reports_consumerAt (config : QueueConfig) (point : PopPoint) :
    (config.consumerAt point).reports = config.reports := rfl

@[simp] theorem accepted_withShared (config : QueueConfig) (shared : SharedSpscQueue) :
    (config.withShared shared).accepted = config.accepted := rfl

@[simp] theorem accepted_pushReturns_ok (config : QueueConfig) (message : QueueEnvelope) :
    (config.pushReturns message .ok).accepted = config.accepted ++ [message] := by
  simp [accepted, pushReturns]

theorem accepted_pushReturns_of_not_isOk (config : QueueConfig) (message : QueueEnvelope)
    {status : Status} (failed : status.isOk = false) :
    (config.pushReturns message status).accepted = config.accepted := by
  simp [accepted, pushReturns, failed]

@[simp] theorem accepted_popReturns (config : QueueConfig) (status : Status)
    (popped : Option QueueEnvelope) :
    (config.popReturns status popped).accepted = config.accepted := rfl

@[simp] theorem returned_pushReturns (config : QueueConfig) (message : QueueEnvelope)
    (status : Status) : (config.pushReturns message status).returned = config.returned := rfl

@[simp] theorem returned_popReturns_some (config : QueueConfig) (message : QueueEnvelope) :
    (config.popReturns .ok (some message)).returned = config.returned ++ [message] := by
  simp [returned, popReturns]

@[simp] theorem returned_popReturns_none (config : QueueConfig) (status : Status) :
    (config.popReturns status none).returned = config.returned := by
  simp [returned, popReturns]

theorem mem_reports_pushReturns {config : QueueConfig} {message : QueueEnvelope}
    {status report : Status} (member : report ∈ (config.pushReturns message status).reports) :
    report ∈ config.reports ∨ report = status := by
  simp only [reports, pushReturns, List.map_append, List.mem_append, List.map_cons,
    List.map_nil, List.mem_singleton] at member ⊢
  tauto

theorem mem_reports_popReturns {config : QueueConfig} {popped : Option QueueEnvelope}
    {status report : Status} (member : report ∈ (config.popReturns status popped).reports) :
    report ∈ config.reports ∨ report = status := by
  simp only [reports, popReturns, List.map_append, List.mem_append, List.map_cons,
    List.map_nil, List.mem_singleton] at member ⊢
  tauto

theorem not_reportsCorruption_of_code {status : Status} (code : status.code ≠ .internal) :
    ¬ReportsCorruption status := by
  rintro (rfl | rfl) <;> exact code rfl

section Ring

variable {identity : SpscQueueIdentity} {shared : SharedSpscQueue}
  {accepted returned : List QueueEnvelope} {message : QueueEnvelope} {tail : Nat}

/-- Writing the producer's free slot disturbs no envelope of the ring. -/
theorem RingInv.setSlot (inv : RingInv identity shared accepted returned)
    (writing : Writing identity accepted returned message tail) (slot : SharedSpscQueueSlot) :
    RingInv identity (shared.setSlot (tail % identity.capacity) slot) accepted returned where
  tail := inv.tail
  head := inv.head
  fifo := inv.fifo
  room := inv.room
  admissible := inv.admissible
  holds := by
    intro cursor other unpopped present
    have order : cursor < tail := by
      rw [writing.cursor]
      exact (List.getElem?_eq_some_iff.mp present).1
    have lap := writing.free
    have distinct := mod_ne_of_lt_lap order (by omega : tail < cursor + identity.capacity)
    simpa [SharedSpscQueue.setSlot, distinct] using inv.holds cursor other unpopped present

/-- An envelope whose slot is complete extends the accepted ones. -/
theorem RingInv.extend (inv : RingInv identity shared accepted returned)
    (writing : Writing identity accepted returned message tail)
    (holds : (shared.slots (tail % identity.capacity)).Holds tail message) :
    RingInv identity { shared with tail := accepted.length + 1 } (accepted ++ [message])
      returned := by
  obtain ⟨admissible, rfl, free⟩ := writing
  have grows : (accepted ++ [message]).length = accepted.length + 1 := by simp
  constructor
  case tail => rw [grows]
  case head => exact inv.head
  case fifo => exact inv.fifo.trans (List.prefix_append _ _)
  case room => omega
  case admissible =>
    intro other member
    rcases List.mem_append.mp member with earlier | last
    · exact inv.admissible other earlier
    · rw [List.mem_singleton.mp last]
      exact admissible
  case holds =>
    intro cursor other unpopped present
    rcases Nat.lt_or_ge cursor accepted.length with earlier | late
    · rw [List.getElem?_append_left earlier] at present
      exact inv.holds cursor other unpopped present
    · have below := (List.getElem?_eq_some_iff.mp present).1
      obtain rfl : cursor = accepted.length := by omega
      rw [List.getElem?_concat_length, Option.some_inj] at present
      exact present ▸ holds

/-- Moving the producer cursor accepts the envelope whose slot is complete. -/
theorem RingInv.accept (inv : RingInv identity shared accepted returned)
    (writing : Writing identity accepted returned message tail)
    (holds : (shared.slots (tail % identity.capacity)).Holds tail message)
    (bounded : accepted.length + 1 < cursorModulus) :
    RingInv identity { shared with tail := (tail + 1) % cursorModulus }
      (accepted ++ [message]) returned := by
  rw [writing.cursor, Nat.mod_eq_of_lt bounded]
  exact inv.extend writing holds

/-- Moving the consumer cursor pops the oldest envelope of the ring. -/
theorem RingInv.pop (inv : RingInv identity shared accepted returned)
    (oldest : accepted[returned.length]? = some message)
    (bounded : returned.length + 1 < cursorModulus) :
    RingInv identity { shared with head := (returned.length + 1) % cursorModulus }
      accepted (returned ++ [message]) := by
  have below : returned.length < accepted.length := (List.getElem?_eq_some_iff.mp oldest).1
  have grows : (returned ++ [message]).length = returned.length + 1 := by simp
  have room := inv.room
  constructor
  case tail => exact inv.tail
  case head =>
    rw [grows]
    exact Nat.mod_eq_of_lt bounded
  case fifo => exact concat_prefix inv.fifo oldest
  case room => omega
  case admissible => exact inv.admissible
  case holds =>
    intro cursor other unpopped present
    exact inv.holds cursor other (by omega) present

/-- The slot of the oldest envelope that the consumer is about to pop. -/
theorem RingInv.oldest (inv : RingInv identity shared accepted returned)
    (below : returned.length < accepted.length) :
    ∃ message, accepted[returned.length]? = some message ∧ message.Admissible identity ∧
      (shared.slots (returned.length % identity.capacity)).Holds returned.length message := by
  have present := List.getElem?_eq_getElem below
  exact ⟨_, present, inv.admissible _ (List.getElem_mem below),
    inv.holds _ _ le_rfl present⟩

/-- The producer's knowledge survives every pop. -/
theorem PushFits.of_pop {after : SharedSpscQueue} {popped : List QueueEnvelope}
    {point : PushPoint} (fits : PushFits identity shared accepted returned point)
    (slots : after.slots = shared.slots) (longer : returned.length ≤ popped.length) :
    PushFits identity after accepted popped point := by
  have writes : ∀ {message tail}, Writing identity accepted returned message tail →
      Writing identity accepted popped message tail := by
    intro message tail writing
    have free := writing.free
    exact ⟨writing.admissible, writing.cursor, by omega⟩
  cases point with
  | idle => trivial
  | loadTail message | loadHead message tail => exact fits
  | writeHeader message tail => exact writes fits
  | writePayload message tail written => exact ⟨writes fits.1, by rw [slots]; exact fits.2⟩
  | storeSequence message tail
  | storeTail message tail => exact ⟨writes fits.1, by rw [slots]; exact fits.2⟩

/-- The consumer's knowledge survives every further acceptance. -/
theorem PopFits.of_accept {later : List QueueEnvelope} {point : PopPoint}
    (fits : PopFits accepted returned point) (extension : accepted <+: later) :
    PopFits later returned point := by
  have longer := extension.length_le
  have keeps : ∀ {cursor : Nat} {message}, accepted[cursor]? = some message →
      later[cursor]? = some message := by
    intro cursor message present
    obtain ⟨suffix, rfl⟩ := extension
    rw [List.getElem?_append_left (List.getElem?_eq_some_iff.mp present).1]
    exact present
  cases point with
  | idle | loadHead => trivial
  | loadTail head => exact fits
  | loadSequence head | checkHeader head | copyHeader head => exact ⟨fits.1, fits.2.trans_le longer⟩
  | copyPayload head message =>
      obtain ⟨current, original, present, header, payload⟩ := fits
      exact ⟨current, original, keeps present, header, payload⟩
  | storeHead head message => exact ⟨fits.1, keeps fits.2⟩

end Ring

section Steps

variable {identity : SpscQueueIdentity} {config after : QueueConfig}

/-- The producer moves to a point whose knowledge it has. -/
theorem QueueInv.producerAt (inv : QueueInv identity config) {point : PushPoint}
    (fits : PushFits identity config.shared config.accepted config.returned point) :
    QueueInv identity (config.producerAt point) :=
  ⟨inv.ring, fits, inv.consumer, inv.sound⟩

/-- The consumer moves to a point whose knowledge it has. -/
theorem QueueInv.consumerAt (inv : QueueInv identity config) {point : PopPoint}
    (fits : PopFits config.accepted config.returned point) :
    QueueInv identity (config.consumerAt point) :=
  ⟨inv.ring, inv.producer, fits, inv.sound⟩

/-- The producer fills in part of its free slot. -/
theorem QueueInv.setSlot (inv : QueueInv identity config) {message : QueueEnvelope} {tail : Nat}
    (writing : Writing identity config.accepted config.returned message tail)
    {slot : SharedSpscQueueSlot} {point : PushPoint}
    (fits : PushFits identity (config.shared.setSlot (tail % identity.capacity) slot)
      config.accepted config.returned point) :
    QueueInv identity ((config.withShared
      (config.shared.setSlot (tail % identity.capacity) slot)).producerAt point) :=
  ⟨inv.ring.setSlot writing slot, fits, inv.consumer, inv.sound⟩

/-- A `Push` that fails without reporting corruption changes nothing else. -/
theorem QueueInv.pushFails (inv : QueueInv identity config) (message : QueueEnvelope)
    {status : Status} (failed : status.isOk = false) (clean : ¬ReportsCorruption status) :
    QueueInv identity (config.pushReturns message status) := by
  have same := accepted_pushReturns_of_not_isOk config message failed
  constructor
  case ring => rw [same]; exact inv.ring
  case producer => rw [same]; exact inv.producer
  case consumer => rw [same]; exact inv.consumer
  case sound =>
    intro report member
    rcases mem_reports_pushReturns member with earlier | rfl
    · exact inv.sound report earlier
    · exact clean

/-- A `TryPop` that pops nothing and reports no corruption changes nothing else. -/
theorem QueueInv.popsNothing (inv : QueueInv identity config) {status : Status}
    (clean : ¬ReportsCorruption status) :
    QueueInv identity (config.popReturns status none) := by
  have same := returned_popReturns_none config status
  constructor
  case ring => rw [same]; exact inv.ring
  case producer => rw [same]; exact inv.producer
  case consumer => rw [same]; exact inv.consumer
  case sound =>
    intro report member
    rcases mem_reports_popReturns member with earlier | rfl
    · exact inv.sound report earlier
    · exact clean

/-- A `Push` returns success by moving the producer cursor. -/
theorem QueueInv.accept (inv : QueueInv identity config) {message : QueueEnvelope} {tail : Nat}
    (writing : Writing identity config.accepted config.returned message tail)
    (holds : (config.shared.slots (tail % identity.capacity)).Holds tail message)
    (bounded : config.accepted.length + 1 < cursorModulus) :
    QueueInv identity (((config.withShared
      { config.shared with tail := (tail + 1) % cursorModulus }).pushReturns message
        .ok).producerAt .idle) := by
  constructor
  case ring =>
    rw [accepted_producerAt, accepted_pushReturns_ok]
    exact inv.ring.accept writing holds bounded
  case producer => trivial
  case consumer =>
    rw [accepted_producerAt, accepted_pushReturns_ok]
    exact inv.consumer.of_accept (List.prefix_append _ _)
  case sound =>
    intro report member
    rcases mem_reports_pushReturns member with earlier | rfl
    · exact inv.sound report earlier
    · exact not_reportsCorruption_of_code (by decide)

/-- A `TryPop` returns an envelope by moving the consumer cursor. -/
theorem QueueInv.pop (inv : QueueInv identity config) {message : QueueEnvelope}
    (oldest : config.accepted[config.returned.length]? = some message)
    (bounded : config.accepted.length < cursorModulus) :
    QueueInv identity (((config.withShared
      { config.shared with
        head := (config.returned.length + 1) % cursorModulus }).popReturns .ok
          (some message)).consumerAt .idle) := by
  constructor
  case ring =>
    have below := (List.getElem?_eq_some_iff.mp oldest).1
    rw [returned_consumerAt, returned_popReturns_some]
    exact inv.ring.pop oldest (by omega)
  case producer =>
    rw [returned_consumerAt, returned_popReturns_some]
    exact inv.producer.of_pop rfl (by simp)
  case consumer => trivial
  case sound =>
    intro report member
    rw [reports_consumerAt] at member
    rcases mem_reports_popReturns member with earlier | rfl
    · exact inv.sound report earlier
    · exact not_reportsCorruption_of_code (by decide)

/-- Every access of the producer keeps the invariant. -/
theorem pushAccess_inv (inv : QueueInv identity config)
    (access : pushAccess identity config = some after)
    (bounded : after.accepted.length < cursorModulus) : QueueInv identity after := by
  have fits := inv.producer
  cases point : config.producer with
  | idle => simp [pushAccess, point] at access
  | loadTail message =>
      rw [point] at fits
      simp only [pushAccess, point, Option.some_inj] at access
      subst access
      exact inv.producerAt ⟨fits, inv.ring.tail⟩
  | loadHead message tail =>
      rw [point] at fits
      obtain ⟨admissible, current⟩ := fits
      have order := inv.ring.fifo.length_le
      have head := inv.ring.head
      simp only [pushAccess, point] at access
      split at access
      · omega
      · split at access <;> rw [Option.some_inj] at access <;> subst access
        · exact (inv.pushFails message rfl (not_reportsCorruption_of_code (by decide))).producerAt
            trivial
        · exact inv.producerAt ⟨admissible, current, by omega⟩
  | writeHeader message tail =>
      rw [point] at fits
      simp only [pushAccess, point, Option.some_inj] at access
      subst access
      apply inv.setSlot fits
      refine ⟨fits, ?_, ?_⟩
      · simp [SharedSpscQueue.setSlot]
      · intro index byte below
        omega
  | writePayload message tail written =>
      rw [point] at fits
      obtain ⟨writing, header, bytes⟩ := fits
      simp only [pushAccess, point] at access
      cases next : message.payload[written]? with
      | some byte =>
          rw [next] at access
          simp only [Option.some_inj] at access
          subst access
          apply inv.setSlot writing
          refine ⟨writing, ?_, ?_⟩
          · simpa [SharedSpscQueue.setSlot] using header
          · simpa [SharedSpscQueue.setSlot] using bytes.succ next
      | none =>
          rw [next] at access
          simp only [Option.some_inj] at access
          subst access
          have complete := List.getElem?_eq_none_iff.mp next
          refine inv.producerAt ⟨writing, header, ?_⟩
          intro index byte below present
          exact bytes index byte (by omega) present
  | storeSequence message tail =>
      rw [point] at fits
      obtain ⟨writing, header, bytes⟩ := fits
      simp only [pushAccess, point, Option.some_inj] at access
      subst access
      apply inv.setSlot writing
      refine ⟨writing, ?_⟩
      simp only [SharedSpscQueue.setSlot, Function.update_self]
      exact ⟨rfl, header, bytes⟩
  | storeTail message tail =>
      rw [point] at fits
      obtain ⟨writing, holds⟩ := fits
      simp only [pushAccess, point, Option.some_inj] at access
      subst access
      exact inv.accept writing holds (by simpa using bounded)

/-- Whether a `TryPop` has seen an envelope and not yet moved its cursor. -/
def seesEnvelope : PopPoint → Bool
  | .loadSequence _ | .checkHeader _ | .copyHeader _ | .copyPayload _ _ | .storeHead _ _ => true
  | _ => false

/-- A `TryPop` that has seen an envelope copies it and moves its cursor, whatever happens to the
producer cursor meanwhile. -/
theorem popAccess_copies {config after : QueueConfig} {identity : SpscQueueIdentity}
    (fits : PopFits config.accepted config.returned config.consumer)
    (oldest : config.returned.length < config.accepted.length →
      ∃ message, config.accepted[config.returned.length]? = some message ∧
        message.Admissible identity ∧
        (config.shared.slots (config.returned.length % identity.capacity)).Holds
          config.returned.length message)
    (sees : seesEnvelope config.consumer = true) (access : popAccess identity config = some after) :
    (∃ point, seesEnvelope point = true ∧ PopFits config.accepted config.returned point ∧
        after = config.consumerAt point) ∨
      ∃ message, config.accepted[config.returned.length]? = some message ∧
        after = ((config.withShared
          { config.shared with
            head := (config.returned.length + 1) % cursorModulus }).popReturns .ok
              (some message)).consumerAt .idle := by
  cases point : config.consumer with
  | idle | loadHead | loadTail head => simp [seesEnvelope, point] at sees
  | loadSequence head =>
      rw [point] at fits
      obtain ⟨rfl, below⟩ := fits
      obtain ⟨message, -, -, holds⟩ := oldest below
      simp only [popAccess, point, holds.sequence, ne_eq, not_true_eq_false, if_false,
        Option.some_inj] at access
      exact .inl ⟨.checkHeader _, rfl, ⟨rfl, below⟩, access.symm⟩
  | checkHeader head =>
      rw [point] at fits
      obtain ⟨rfl, below⟩ := fits
      obtain ⟨message, -, admissible, holds⟩ := oldest below
      have passes : ¬(message.header.kind = .invalid ∨
          message.header.srcHost ≠ identity.producer ∨
          message.header.dstHost ≠ identity.consumer ∨
          kQueuePayloadBytes < message.header.payloadBytes) := by
        have fit := admissible.fits
        simp [admissible.kind, admissible.srcHost, admissible.dstHost, admissible.payloadBytes, fit]
      simp only [popAccess, point, holds.header, if_neg passes, Option.some_inj] at access
      exact .inl ⟨.copyHeader _, rfl, ⟨rfl, below⟩, access.symm⟩
  | copyHeader head =>
      rw [point] at fits
      obtain ⟨rfl, below⟩ := fits
      obtain ⟨message, present, -, holds⟩ := oldest below
      simp only [popAccess, point, holds.header, Option.some_inj] at access
      exact .inl ⟨.copyPayload config.returned.length ⟨message.header, []⟩, rfl,
        ⟨rfl, message, present, rfl, List.nil_prefix⟩, access.symm⟩
  | copyPayload head message =>
      rw [point] at fits
      obtain ⟨rfl, original, present, header, payload⟩ := fits
      have below := (List.getElem?_eq_some_iff.mp present).1
      obtain ⟨first, firstPresent, admissible, holds⟩ := oldest below
      obtain rfl : first = original := Option.some_inj.mp (firstPresent.symm.trans present)
      simp only [popAccess, point] at access
      split at access
      · rename_i more
        rw [header, admissible.payloadBytes] at more
        rw [Option.some_inj] at access
        have byte := List.getElem?_eq_getElem more
        subst access
        refine .inl ⟨_, rfl, ?_, rfl⟩
        refine ⟨rfl, first, present, header, ?_⟩
        rw [holds.payload _ _ more byte]
        exact concat_prefix payload byte
      · rename_i complete
        rw [header, admissible.payloadBytes] at complete
        rw [Option.some_inj] at access
        have whole := payload.eq_of_length_le (by omega)
        refine .inl ⟨.storeHead _ _, rfl, ⟨rfl, ?_⟩, access.symm⟩
        rw [present, QueueEnvelope.ext header whole]
  | storeHead head message =>
      rw [point] at fits
      obtain ⟨rfl, present⟩ := fits
      simp only [popAccess, point, Option.some_inj] at access
      exact .inr ⟨message, present, access.symm⟩

/-- Every access of the consumer keeps the invariant. -/
theorem popAccess_inv (inv : QueueInv identity config)
    (access : popAccess identity config = some after)
    (bounded : after.accepted.length < cursorModulus) : QueueInv identity after := by
  have fits := inv.consumer
  have quiet := not_reportsCorruption_of_code (by decide : Status.ok.code ≠ .internal)
  cases sees : seesEnvelope config.consumer with
  | true =>
      rcases popAccess_copies fits inv.ring.oldest sees access with
        ⟨point, _, knows, rfl⟩ | ⟨message, oldest, rfl⟩
      · exact inv.consumerAt knows
      · exact inv.pop oldest bounded
  | false =>
      cases point : config.consumer with
      | idle => simp [popAccess, point] at access
      | loadHead =>
          simp only [popAccess, point, Option.some_inj] at access
          subst access
          exact inv.consumerAt inv.ring.head
      | loadTail head =>
          rw [point] at fits
          obtain rfl := fits
          have order := inv.ring.fifo.length_le
          have tail := inv.ring.tail
          have room := inv.ring.room
          simp only [popAccess, point] at access
          split at access
          · rw [Option.some_inj] at access
            subst access
            exact (inv.popsNothing quiet).consumerAt trivial
          · split at access
            · omega
            · rw [Option.some_inj] at access
              subst access
              exact inv.consumerAt ⟨rfl, by omega⟩
      | loadSequence head | checkHeader head => simp [point, seesEnvelope] at sees
      | copyHeader head
      | copyPayload head message | storeHead head message => simp [point, seesEnvelope] at sees

theorem validateVisibilityMode_code (processor : Processor) (mode : VisibilityMode) :
    (validateVisibilityMode processor mode).code ≠ .internal := by
  simp only [validateVisibilityMode]
  repeat' split
  all_goals simp [Status.unavailable, Status.ok]

theorem pushRejection_none {localHost : Nat} {message : QueueEnvelope}
    (passes : pushRejection identity localHost message = none) :
    message.Admissible identity := by
  simp only [pushRejection] at passes
  split at passes
  · simp at passes
  · split at passes
    · simp at passes
    · rename_i header
      split at passes
      · simp at passes
      · rename_i fits
        push Not at header fits
        exact ⟨header.1, header.2.1, header.2.2.1, header.2.2.2, fits⟩

theorem pushRejection_some {localHost : Nat} {message : QueueEnvelope} {status : Status}
    (rejected : pushRejection identity localHost message = some status) :
    status.isOk = false ∧ status.code ≠ .internal := by
  simp only [pushRejection] at rejected
  split at rejected
  · cases rejected
    exact ⟨rfl, by decide⟩
  · split at rejected
    · cases rejected
      exact ⟨rfl, by decide⟩
    · split at rejected
      · cases rejected
        exact ⟨rfl, by decide⟩
      · split at rejected
        · simp at rejected
        · rename_i unusable
          cases rejected
          exact ⟨by simpa using unusable, validateVisibilityMode_code _ _⟩

theorem popRejection_some {localHost : Nat} {status : Status}
    (rejected : popRejection identity localHost = some status) : status.code ≠ .internal := by
  simp only [popRejection] at rejected
  split at rejected
  · cases rejected
    decide
  · split at rejected
    · simp at rejected
    · cases rejected
      exact validateVisibilityMode_code _ _

/-- One step of any interleaving keeps the invariant. -/
theorem step_inv {op : QueueOp} (inv : QueueInv identity config)
    (taken : step identity config op = some after)
    (bounded : after.accepted.length < cursorModulus) : QueueInv identity after := by
  cases op with
  | push localHost message =>
      simp only [step] at taken
      split at taken
      · rename_i status rejected
        obtain ⟨failed, code⟩ := pushRejection_some rejected
        cases taken
        exact inv.pushFails message failed (not_reportsCorruption_of_code code)
      · rename_i passes
        split at taken
        · cases taken
          exact inv.producerAt (pushRejection_none passes)
        · simp at taken
  | tryPop localHost =>
      simp only [step] at taken
      split at taken
      · rename_i status rejected
        cases taken
        exact inv.popsNothing (not_reportsCorruption_of_code (popRejection_some rejected))
      · split at taken
        · cases taken
          exact inv.consumerAt trivial
        · simp at taken
  | producer => exact pushAccess_inv inv taken bounded
  | consumer => exact popAccess_inv inv taken bounded

/-- A step only ever adds returned calls. -/
theorem step_pushes {op : QueueOp} (taken : step identity config op = some after) :
    config.pushes <+: after.pushes := by
  cases op with
  | push localHost message =>
      simp only [step] at taken
      split at taken
      · cases taken
        exact List.prefix_append _ _
      · split at taken
        · cases taken
          exact List.prefix_rfl
        · simp at taken
  | tryPop localHost =>
      simp only [step] at taken
      split at taken
      · cases taken
        exact List.prefix_rfl
      · split at taken
        · cases taken
          exact List.prefix_rfl
        · simp at taken
  | producer =>
      simp only [step, pushAccess] at taken
      split at taken
      all_goals try split at taken
      all_goals try split at taken
      all_goals cases taken
      all_goals first
        | exact List.prefix_rfl
        | exact List.prefix_append _ _
  | consumer =>
      simp only [step, popAccess] at taken
      split at taken
      all_goals try split at taken
      all_goals try split at taken
      all_goals cases taken
      all_goals exact List.prefix_rfl

theorem step_accepted {op : QueueOp} (taken : step identity config op = some after) :
    config.accepted.length ≤ after.accepted.length :=
  ((step_pushes taken).filterMap _).length_le

/-- An access of the producer changes at most the slot that it found free. -/
theorem pushAccess_slots (inv : QueueInv identity config)
    (access : pushAccess identity config = some after) :
    after.shared.slots = config.shared.slots ∨
      ∃ message tail slot, Writing identity config.accepted config.returned message tail ∧
        after.shared.slots =
          Function.update config.shared.slots (tail % identity.capacity) slot := by
  have fits := inv.producer
  cases point : config.producer with
  | idle => simp [pushAccess, point] at access
  | loadTail message =>
      simp only [pushAccess, point, Option.some_inj] at access
      subst access
      exact .inl rfl
  | loadHead message tail =>
      simp only [pushAccess, point] at access
      split at access
      · cases access
        exact .inl rfl
      · split at access <;> cases access <;> exact .inl rfl
  | writeHeader message tail =>
      rw [point] at fits
      simp only [pushAccess, point, Option.some_inj] at access
      subst access
      exact .inr ⟨message, tail, _, fits, rfl⟩
  | writePayload message tail written =>
      rw [point] at fits
      simp only [pushAccess, point] at access
      split at access
      · cases access
        exact .inr ⟨message, tail, _, fits.1, rfl⟩
      · cases access
        exact .inl rfl
  | storeSequence message tail =>
      rw [point] at fits
      simp only [pushAccess, point, Option.some_inj] at access
      subst access
      exact .inr ⟨message, tail, _, fits.1, rfl⟩
  | storeTail message tail =>
      simp only [pushAccess, point, Option.some_inj] at access
      subst access
      exact .inl rfl

/-- The consumer writes no slot. -/
theorem popAccess_slots (access : popAccess identity config = some after) :
    after.shared.slots = config.shared.slots := by
  simp only [popAccess] at access
  split at access
  all_goals try split at access
  all_goals try split at access
  all_goals cases access
  all_goals rfl

theorem step_overwrites {op : QueueOp} (inv : QueueInv identity config)
    (taken : step identity config op = some after) {index : Nat}
    (changed : after.shared.slots index ≠ config.shared.slots index) {cursor : Nat}
    (unpopped : config.returned.length ≤ cursor) (below : cursor < config.accepted.length) :
    cursor % identity.capacity ≠ index := by
  cases op with
  | push localHost message | tryPop localHost =>
      simp only [step] at taken
      split at taken
      · cases taken
        exact absurd rfl changed
      · split at taken
        · cases taken
          exact absurd rfl changed
        · simp at taken
  | consumer =>
      rw [popAccess_slots taken] at changed
      exact absurd rfl changed
  | producer =>
      rcases pushAccess_slots inv taken with same | ⟨message, tail, slot, writing, same⟩
      · rw [same] at changed
        exact absurd rfl changed
      · rw [same] at changed
        have target : index = tail % identity.capacity := by
          by_contra other
          exact changed (Function.update_of_ne other _ _)
        have cursorEq := writing.cursor
        have free := writing.free
        rw [target]
        exact mod_ne_of_lt_lap (by omega) (by omega)

/-- The invariant of every run that accepts fewer messages than the cursors can count. -/
theorem reached_inv (execution : Reached identity config)
    (bounded : config.accepted.length < cursorModulus) : QueueInv identity config := by
  induction execution with
  | refl =>
      constructor
      case ring => constructor <;> simp [formatted, SharedSpscQueue.formatted, accepted, returned]
      case producer => trivial
      case consumer => trivial
      case sound => simp [formatted, reports]
  | tail _ last induction =>
      obtain ⟨op, -, taken⟩ := last
      exact step_inv (induction ((step_accepted taken).trans_lt bounded)) taken bounded

end Steps

/-- In every interleaving that accepts fewer than `2 ^ 64` messages the popped envelopes are a
prefix of the accepted ones, the cursors stay within one lap, no step overwrites a slot whose
envelope was not popped, and no call reports corruption. -/
theorem spsc_exact_fifo {identity : SpscQueueIdentity} {config : QueueConfig}
    (execution : Reached identity config) (bounded : config.accepted.length < 2 ^ 64) :
    config.returned <+: config.accepted ∧
      config.shared.head ≤ config.shared.tail ∧
      config.shared.tail - config.shared.head ≤ identity.capacity ∧
      (∀ op after index cursor, step identity config op = some after →
        after.shared.slots index ≠ config.shared.slots index →
        config.returned.length ≤ cursor → cursor < config.accepted.length →
        cursor % identity.capacity ≠ index) ∧
      ∀ status ∈ config.reports,
        status ≠ .internal "shared SPSC queue cursors are corrupt" ∧
          status ≠ .internal "shared SPSC queue message is corrupt" := by
  have inv := reached_inv execution bounded
  have order := inv.ring.fifo.length_le
  have room := inv.ring.room
  have tail := inv.ring.tail
  have head := inv.ring.head
  refine ⟨inv.ring.fifo, by omega, by omega, ?_, ?_⟩
  · intro op after index cursor taken changed unpopped below
    exact step_overwrites inv taken changed unpopped below
  · intro status member
    exact not_or.mp (inv.sound status member)

/-- A ring of one entry between two hosts. -/
def oneEntry : SpscQueueIdentity where
  producer := 0
  consumer := 1
  capacity := 1
  capacity_pos := by decide
  producerProcessor := ⟨true, false⟩
  producerMode := .releaseAcquire
  consumerProcessor := ⟨true, true⟩
  consumerMode := .clwb

/-- A message with the given payload on that ring. -/
def oneEntryMessage (payload : List UInt8) : QueueEnvelope :=
  ⟨⟨.tokenReq, 0, 1, payload.length⟩, payload⟩

/-- A long message is pushed, a second push finds the ring full, the first message is popped and a
short one takes its slot, with the consumer's next call already under way. -/
def oneEntryOps : List QueueOp :=
  QueueOp.push 0 (oneEntryMessage [7, 8]) :: List.replicate 8 QueueOp.producer ++
    [QueueOp.push 0 (oneEntryMessage [9]), .tryPop 1, .producer, .producer] ++
    List.replicate 9 QueueOp.consumer ++
    [QueueOp.push 0 (oneEntryMessage [9]), .tryPop 1] ++ List.replicate 7 QueueOp.producer ++
    List.replicate 8 QueueOp.consumer

theorem spsc_exact_fifo_wraps :
    ∃ config, Run.runLabels (step oneEntry) formatted oneEntryOps = some config ∧
      config.returned = [oneEntryMessage [7, 8], oneEntryMessage [9]] ∧
      config.accepted = [oneEntryMessage [7, 8], oneEntryMessage [9]] ∧
      Status.unavailable "queue is full" ∈ config.reports ∧
      config.returned <+: config.accepted ∧
      config.shared.tail - config.shared.head ≤ 1 := by
  have outcome : (Run.runLabels (step oneEntry) formatted oneEntryOps).any (fun config =>
      config.returned = [oneEntryMessage [7, 8], oneEntryMessage [9]] ∧
        config.accepted = [oneEntryMessage [7, 8], oneEntryMessage [9]] ∧
        Status.unavailable "queue is full" ∈ config.reports) = true := by
    decide +kernel
  obtain ⟨config, execution, facts⟩ := (Option.any_eq_true _ _).mp outcome
  obtain ⟨popped, pushed, full⟩ := of_decide_eq_true facts
  obtain ⟨fifo, -, lap, -, -⟩ :=
    spsc_exact_fifo (Run.reaches_of_runLabels execution) (by rw [pushed]; decide)
  exact ⟨config, execution, popped, pushed, full, fifo, lap⟩

end QueueConfig
end Cxloom.LoomMem
