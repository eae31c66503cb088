import Cxloom.LoomMem.QueueFifo

/-!
# Runs of any length

The producer cursor wraps around after `2 ^ 64` accepted envelopes.  From then on every `Push` and
every new `TryPop` takes the cursors for corrupt, so nothing more is accepted, at most the envelope
that a running `TryPop` has already seen is popped, and the consumer cursor never wraps.
-/

namespace Cxloom.LoomMem.QueueConfig

/-- The entries of a ring are counted by a thirty-two bit word. -/
def kMaxQueueCapacity : Nat := 2 ^ 32

/-- A queue whose producer cursor has wrapped. -/
structure Saturated (identity : SpscQueueIdentity) (config : QueueConfig) : Prop where
  /-- The cursor counted as far as it can. -/
  full : config.accepted.length = cursorModulus
  /-- It is zero again. -/
  tail : config.shared.tail = 0
  ring : RingInv identity { config.shared with tail := config.accepted.length } config.accepted
    config.returned
  /-- Something was popped. -/
  positive : 0 < config.returned.length
  /-- No `Push` is past its checks. -/
  producer : config.producer = .idle ∨ (∃ message, config.producer = .loadTail message) ∨
    ∃ message, config.producer = .loadHead message 0
  /-- What a running `TryPop` knows. -/
  consumer : PopFits config.accepted config.returned config.consumer
  /-- A `TryPop` that has seen an envelope saw it before the cursor wrapped. -/
  early : seesEnvelope config.consumer = true → config.returned.length + 1 < cursorModulus

section Steps

variable {identity : SpscQueueIdentity} {config after : QueueConfig}

/-- A `TryPop` that has seen an envelope has one ahead. -/
theorem PopFits.below {accepted returned : List QueueEnvelope} {point : PopPoint}
    (fits : PopFits accepted returned point) (sees : seesEnvelope point = true) :
    returned.length < accepted.length := by
  cases point with
  | idle | loadHead | loadTail head => simp [seesEnvelope] at sees
  | loadSequence head | checkHeader head | copyHeader head => exact fits.1 ▸ fits.2
  | copyPayload head message =>
      obtain ⟨rfl, original, present, -⟩ := fits
      exact (List.getElem?_eq_some_iff.mp present).1
  | storeHead head message =>
      obtain ⟨rfl, present⟩ := fits
      exact (List.getElem?_eq_some_iff.mp present).1

/-- The last envelope that the producer cursor can count makes it wrap. -/
theorem QueueInv.saturates (inv : QueueInv identity config) {message : QueueEnvelope} {tail : Nat}
    (point : config.producer = .storeTail message tail)
    (last : config.accepted.length + 1 = cursorModulus)
    (small : identity.capacity < kMaxQueueCapacity) :
    Saturated identity (((config.withShared
      { config.shared with tail := (tail + 1) % cursorModulus }).pushReturns message
        .ok).producerAt .idle) := by
  have fits := inv.producer
  rw [point] at fits
  obtain ⟨writing, holds⟩ := fits
  have cursor := writing.cursor
  have free := writing.free
  have order := inv.ring.fifo.length_le
  have accepted_eq : (((config.withShared
      { config.shared with tail := (tail + 1) % cursorModulus }).pushReturns message
        .ok).producerAt .idle).accepted = config.accepted ++ [message] := by
    rw [accepted_producerAt, accepted_pushReturns_ok, accepted_withShared]
  have grows : (config.accepted ++ [message]).length = cursorModulus := by simp [last]
  have wraps : (tail + 1) % cursorModulus = 0 := by
    rw [cursor, last, Nat.mod_self]
  have popped : 0 < config.returned.length := by
    have far : kMaxQueueCapacity < cursorModulus := by decide
    omega
  constructor
  case full => rw [accepted_eq, grows]
  case tail => exact wraps
  case ring =>
    rw [accepted_eq, List.length_append]
    exact inv.ring.extend writing holds
  case positive => exact popped
  case producer => exact .inl rfl
  case consumer =>
    rw [accepted_eq]
    exact inv.consumer.of_accept (List.prefix_append _ _)
  case early =>
    intro sees
    have below := inv.consumer.below sees
    exact Nat.lt_of_le_of_lt below (by omega)

/-- A call that changes neither list leaves a wrapped queue wrapped. -/
theorem Saturated.frame (saturated : Saturated identity config)
    (shared : after.shared = config.shared) (accepted : after.accepted = config.accepted)
    (returned : after.returned = config.returned)
    (producer : after.producer = .idle ∨ (∃ message, after.producer = .loadTail message) ∨
      ∃ message, after.producer = .loadHead message 0)
    (consumer : PopFits config.accepted config.returned after.consumer)
    (early : seesEnvelope after.consumer = true → config.returned.length + 1 < cursorModulus) :
    Saturated identity after where
  full := by rw [accepted]; exact saturated.full
  tail := by rw [shared]; exact saturated.tail
  ring := by rw [shared, accepted, returned]; exact saturated.ring
  positive := by rw [returned]; exact saturated.positive
  producer := producer
  consumer := by rw [accepted, returned]; exact consumer
  early := by rw [returned]; exact early

/-- A `Push` on a wrapped queue fails. -/
theorem Saturated.pushAccess (saturated : Saturated identity config)
    (access : QueueConfig.pushAccess identity config = some after) : Saturated identity after := by
  have head : config.shared.head = config.returned.length := saturated.ring.head
  have positive := saturated.positive
  rcases saturated.producer with point | ⟨message, point⟩ | ⟨message, point⟩
  · simp [QueueConfig.pushAccess, point] at access
  · simp only [QueueConfig.pushAccess, point, Option.some_inj] at access
    subst access
    exact saturated.frame rfl rfl rfl (.inr (.inr ⟨message, by simp [producerAt, saturated.tail]⟩))
      saturated.consumer saturated.early
  · have behind : 0 < config.shared.head := by omega
    simp only [QueueConfig.pushAccess, point, if_pos behind, Option.some_inj] at access
    subst access
    exact saturated.frame rfl (accepted_pushReturns_of_not_isOk config message rfl) rfl (.inl rfl)
      saturated.consumer saturated.early

/-- A `TryPop` on a wrapped queue copies the envelope that it has seen or fails. -/
theorem Saturated.popAccess (saturated : Saturated identity config)
    (access : QueueConfig.popAccess identity config = some after) : Saturated identity after := by
  have fits := saturated.consumer
  cases sees : seesEnvelope config.consumer with
  | true =>
      have early := saturated.early sees
      rcases popAccess_copies fits saturated.ring.oldest sees access with
        ⟨point, _, knows, rfl⟩ | ⟨message, oldest, rfl⟩
      · exact saturated.frame rfl rfl rfl saturated.producer knows fun _ => early
      · have popped := saturated.ring.pop oldest early
        constructor
        case full => exact saturated.full
        case tail => exact saturated.tail
        case ring =>
          rw [returned_consumerAt, returned_popReturns_some]
          exact popped
        case positive =>
          rw [returned_consumerAt, returned_popReturns_some, List.length_append]
          exact Nat.lt_of_lt_of_le Nat.one_pos (Nat.le_add_left _ _)
        case producer => exact saturated.producer
        case consumer => trivial
        case early => simp [consumerAt, seesEnvelope]
  | false =>
      cases point : config.consumer with
      | idle => simp [QueueConfig.popAccess, point] at access
      | loadHead =>
          simp only [QueueConfig.popAccess, point, Option.some_inj] at access
          subst access
          exact saturated.frame rfl rfl rfl saturated.producer saturated.ring.head
            (by simp [consumerAt, seesEnvelope])
      | loadTail head =>
          rw [point] at fits
          have head_eq : head = config.returned.length := fits
          have positive := saturated.positive
          have tail := saturated.tail
          have differs : ¬head = config.shared.tail := by omega
          have corrupt : config.shared.tail < head ∨
              identity.capacity < config.shared.tail - head := .inl (by omega)
          simp only [QueueConfig.popAccess, point, if_neg differs, if_pos corrupt,
            Option.some_inj] at access
          subst access
          exact saturated.frame rfl rfl (returned_popReturns_none config _) saturated.producer
            trivial (by simp [consumerAt, seesEnvelope])
      | loadSequence head | checkHeader head => simp [point, seesEnvelope] at sees
      | copyHeader head
      | copyPayload head message | storeHead head message => simp [point, seesEnvelope] at sees

/-- A wrapped queue stays one. -/
theorem Saturated.step {op : QueueOp} (saturated : Saturated identity config)
    (taken : QueueConfig.step identity config op = some after) : Saturated identity after := by
  cases op with
  | push localHost message =>
      simp only [QueueConfig.step] at taken
      split at taken
      · rename_i status rejected
        obtain ⟨failed, -⟩ := pushRejection_some rejected
        cases taken
        exact saturated.frame rfl (accepted_pushReturns_of_not_isOk config message failed) rfl
          saturated.producer saturated.consumer saturated.early
      · split at taken
        · cases taken
          exact saturated.frame rfl rfl rfl (.inr (.inl ⟨message, rfl⟩)) saturated.consumer
            saturated.early
        · simp at taken
  | tryPop localHost =>
      simp only [QueueConfig.step] at taken
      split at taken
      · cases taken
        exact saturated.frame rfl rfl (returned_popReturns_none config _) saturated.producer
          saturated.consumer saturated.early
      · split at taken
        · cases taken
          exact saturated.frame rfl rfl rfl saturated.producer trivial
            (by simp [consumerAt, seesEnvelope])
        · simp at taken
  | producer => exact saturated.pushAccess taken
  | consumer => exact saturated.popAccess taken

/-- Before the producer cursor wraps the full invariant holds. -/
def Sound (identity : SpscQueueIdentity) (config : QueueConfig) : Prop :=
  (QueueInv identity config ∧ config.accepted.length < cursorModulus) ∨ Saturated identity config

/-- The only step that accepts is the last one of a `Push`. -/
theorem step_accepts {op : QueueOp} (taken : QueueConfig.step identity config op = some after)
    (grows : config.accepted.length < after.accepted.length) :
    ∃ message tail, config.producer = .storeTail message tail ∧
      after = ((config.withShared
        { config.shared with tail := (tail + 1) % cursorModulus }).pushReturns message
          .ok).producerAt .idle := by
  cases op with
  | push localHost message =>
      simp only [QueueConfig.step] at taken
      split at taken
      · rename_i status rejected
        cases taken
        have kept := accepted_pushReturns_of_not_isOk config message (pushRejection_some rejected).1
        rw [kept] at grows
        omega
      · split at taken
        · cases taken
          exact absurd grows (Nat.lt_irrefl _)
        · simp at taken
  | tryPop localHost =>
      simp only [QueueConfig.step] at taken
      split at taken
      · cases taken
        exact absurd grows (Nat.lt_irrefl _)
      · split at taken
        · cases taken
          exact absurd grows (Nat.lt_irrefl _)
        · simp at taken
  | producer =>
      simp only [QueueConfig.step, QueueConfig.pushAccess] at taken
      cases point : config.producer with
      | idle => simp [point] at taken
      | loadTail message =>
          simp only [point, Option.some_inj] at taken
          subst taken
          exact absurd grows (Nat.lt_irrefl _)
      | loadHead message tail =>
          simp only [point] at taken
          split at taken
          · rw [Option.some_inj] at taken
            subst taken
            rw [accepted_producerAt, accepted_pushReturns_of_not_isOk config message rfl] at grows
            omega
          · split at taken <;> rw [Option.some_inj] at taken <;> subst taken
            · rw [accepted_producerAt, accepted_pushReturns_of_not_isOk config message rfl] at grows
              omega
            · exact absurd grows (Nat.lt_irrefl _)
      | writeHeader message tail =>
          simp only [point, Option.some_inj] at taken
          subst taken
          exact absurd grows (Nat.lt_irrefl _)
      | writePayload message tail written =>
          simp only [point] at taken
          split at taken <;> rw [Option.some_inj] at taken <;> subst taken
          · exact absurd grows (Nat.lt_irrefl _)
          · exact absurd grows (Nat.lt_irrefl _)
      | storeSequence message tail =>
          simp only [point, Option.some_inj] at taken
          subst taken
          exact absurd grows (Nat.lt_irrefl _)
      | storeTail message tail =>
          simp only [point, Option.some_inj] at taken
          exact ⟨message, tail, rfl, taken.symm⟩
  | consumer =>
      have same : after.accepted = config.accepted := by
        simp only [QueueConfig.step, QueueConfig.popAccess] at taken
        split at taken
        all_goals try split at taken
        all_goals try split at taken
        all_goals cases taken
        all_goals rfl
      rw [same] at grows
      omega

theorem Sound.step {op : QueueOp} (sound : Sound identity config)
    (small : identity.capacity < kMaxQueueCapacity)
    (taken : QueueConfig.step identity config op = some after) : Sound identity after := by
  rcases sound with ⟨inv, bounded⟩ | saturated
  · by_cases within : after.accepted.length < cursorModulus
    · exact .inl ⟨step_inv inv taken within, within⟩
    · obtain ⟨message, tail, point, rfl⟩ := step_accepts taken (by omega)
      rw [accepted_producerAt, accepted_pushReturns_ok, accepted_withShared, List.length_append,
        List.length_singleton] at within
      exact .inr (inv.saturates point (by omega) small)
  · exact .inr (saturated.step taken)

theorem reached_sound (execution : Reached identity config)
    (small : identity.capacity < kMaxQueueCapacity) : Sound identity config := by
  induction execution with
  | refl =>
      refine .inl ⟨reached_inv Relation.ReflTransGen.refl ?_, ?_⟩
      · exact Nat.two_pow_pos 64
      · exact Nat.two_pow_pos 64
  | tail _ last induction =>
      obtain ⟨op, -, taken⟩ := last
      exact induction.step small taken

/-- In every run the popped envelopes are the first accepted ones, and the consumer cursor counts
them. -/
theorem Sound.fifo (sound : Sound identity config) :
    config.returned <+: config.accepted ∧ config.shared.head = config.returned.length := by
  rcases sound with ⟨inv, -⟩ | saturated
  · exact ⟨inv.ring.fifo, inv.ring.head⟩
  · exact ⟨saturated.ring.fifo, saturated.ring.head⟩

end Steps

end Cxloom.LoomMem.QueueConfig
