import Cxloom.LoomMem.RetirementTrace
import Mathlib.Data.Prod.Lex

/-!
# What the retirement control certifies

The masks of the control stand for acknowledgements that participants gave in the phase of the mask
and in the current transaction; the phases of a transaction follow one another; and a transaction
ends before the next one starts.
-/

namespace Cxloom.LoomMem

theorem RetirementPhase.rank_le_idle (phase : RetirementPhase) :
    phase.rank ≤ RetirementPhase.idle.rank := by
  cases phase <;> decide

theorem RetirementPhase.rank_le_successor {phase : RetirementPhase} (active : phase ≠ .idle) :
    phase.rank ≤ phase.successor.rank := by
  cases phase with
  | idle => exact (active rfl).elim
  | _ => decide

namespace RetirementTrace

variable {layout : AllocatorLayout} {trace after : RetirementTrace}

/-! ## Masks -/

/-- A host acknowledged a phase of a transaction while that phase was current. -/
structure Gives (accepted : List Acknowledgement) (sequence : Nat) (phase : RetirementPhase)
    (host : HostId) (acknowledgement : Acknowledgement) : Prop where
  member : acknowledgement ∈ accepted
  /-- It was accepted in the transaction. -/
  sequence : acknowledgement.sequence = sequence
  phase : acknowledgement.phase = phase
  host : acknowledgement.host = host

theorem Gives.cons {accepted : List Acknowledgement} {sequence : Nat} {phase : RetirementPhase}
    {host : HostId} {acknowledgement : Acknowledgement}
    (gives : Gives accepted sequence phase host acknowledgement) (newest : Acknowledgement) :
    Gives (newest :: accepted) sequence phase host acknowledgement :=
  ⟨List.mem_cons_of_mem _ gives.member, gives.sequence, gives.phase, gives.host⟩

def Backed (current : RetirementSnapshot) (accepted : List Acknowledgement)
    (phase : RetirementPhase)
    (mask : HostMask) : Prop :=
  ∀ host : HostId, mask.contains host.val = true →
    ∃ acknowledgement, Gives accepted current.sequence phase host acknowledgement

/-- From a phase on, a mask holds all participants. -/
def Complete (current : RetirementSnapshot) (phase : RetirementPhase) (mask : HostMask) : Prop :=
  phase.rank ≤ current.phase.rank →
    ∀ host : HostId, host.val < current.hostCount → mask.contains host.val = true

/-- Snapshots and acknowledgements are not ahead of the control. -/
structure Dated (current : RetirementSnapshot) (issued : List RetirementSnapshot)
    (accepted : List Acknowledgement) : Prop where
  participants : current.hostCount ≤ kMaxHosts
  issued_le : ∀ snapshot ∈ issued, snapshot.sequence ≤ current.sequence
  /-- Snapshots of this transaction name its participants. -/
  issued_eq : ∀ snapshot ∈ issued, snapshot.sequence = current.sequence →
    snapshot.hostCount = current.hostCount
  accepted_le : ∀ acknowledgement ∈ accepted, acknowledgement.sequence ≤ current.sequence
  /-- Acknowledgements of this transaction are of earlier phases or of this one. -/
  accepted_rank : ∀ acknowledgement ∈ accepted, acknowledgement.sequence = current.sequence →
    acknowledgement.phase.rank ≤ current.phase.rank

/-- The masks and watermarks of a control agree with the history. -/
structure Consistent (control : RetirementControl) (issued : List RetirementSnapshot)
    (accepted : List Acknowledgement) : Prop extends Dated control.current issued accepted where
  /-- Watermarks are the cursors of an acknowledgement. -/
  closed : ∀ host : HostId, control.closed.contains host.val = true → ∃ acknowledgement,
    Gives accepted control.current.sequence .closing host acknowledgement ∧
      acknowledgement.cursors = control.watermarks host
  /-- Drained hosts acknowledged that. -/
  drained : Backed control.current accepted .draining control.drained
  /-- Cleaned hosts acknowledged that. -/
  cleaned : Backed control.current accepted .cleaning control.cleaned
  /-- All participants closed the object. -/
  closedAll : Complete control.current .draining control.closed
  /-- All participants drained their queues. -/
  drainedAll : Complete control.current .cleaning control.drained
  /-- All participants dropped their replicas. -/
  cleanedAll : Complete control.current .reclaimable control.cleaned
  /-- Draining hosts had reached the watermarks. -/
  reached : ∀ acknowledgement ∈ accepted,
    acknowledgement.sequence = control.current.sequence → acknowledgement.phase = .draining →
    ∀ producer : HostId, producer.val < control.current.hostCount →
      producer ≠ acknowledgement.host →
      control.watermarks producer acknowledgement.host ≤ acknowledgement.cursors producer

section Acknowledge

variable {control : RetirementControl} {issued : List RetirementSnapshot}
  {accepted : List Acknowledgement} {mask : HostMask} {hostCount : Nat} {phase : RetirementPhase}

theorem advance_cases (control : RetirementControl) (mask : HostMask) (hostCount : Nat)
    (phase : RetirementPhase) :
    Allocator.advance control mask hostCount phase = control.current ∨
      mask = HostMask.all hostCount ∧
        Allocator.advance control mask hostCount phase =
          { control.current with phase := phase } := by
  simp only [Allocator.advance]
  split
  · rename_i full
    exact .inr ⟨full, rfl⟩
  · exact .inl rfl

@[simp] theorem advance_sequence : (Allocator.advance control mask hostCount phase).sequence =
    control.current.sequence := by
  rcases advance_cases control mask hostCount phase with same | ⟨-, advanced⟩
  · rw [same]
  · rw [advanced]

@[simp] theorem advance_hostCount : (Allocator.advance control mask hostCount phase).hostCount =
    control.current.hostCount := by
  rcases advance_cases control mask hostCount phase with same | ⟨-, advanced⟩
  · rw [same]
  · rw [advanced]

theorem rank_le_advance (forward : control.current.phase.rank ≤ phase.rank) :
    control.current.phase.rank ≤ (Allocator.advance control mask hostCount phase).phase.rank := by
  rcases advance_cases control mask hostCount phase with same | ⟨-, advanced⟩
  · rw [same]
  · rw [advanced]
    exact forward

theorem advance_rank_le (forward : control.current.phase.rank ≤ phase.rank) :
    (Allocator.advance control mask hostCount phase).phase.rank ≤ phase.rank := by
  rcases advance_cases control mask hostCount phase with same | ⟨-, advanced⟩
  · rw [same]
    exact forward
  · rw [advanced]

/-- An acknowledgement of the current phase, after which the next one may be current. -/
theorem Dated.acknowledge (dated : Dated control.current issued accepted)
    (forward : control.current.phase.rank ≤ phase.rank) (host : HostId) (cursors : HostId → Nat) :
    Dated (Allocator.advance control mask hostCount phase) issued
      (⟨control.current.sequence, control.current.phase, host, cursors⟩ :: accepted) := by
  refine ⟨?_, ?_, ?_, ?_, ?_⟩
  · rw [advance_hostCount]
    exact dated.participants
  · rw [advance_sequence]
    exact dated.issued_le
  · rw [advance_sequence, advance_hostCount]
    exact dated.issued_eq
  · rw [advance_sequence]
    intro acknowledgement member
    rcases List.mem_cons.mp member with rfl | old
    · exact Nat.le_refl _
    · exact dated.accepted_le acknowledgement old
  · rw [advance_sequence]
    intro acknowledgement member now
    rcases List.mem_cons.mp member with rfl | old
    · exact rank_le_advance forward
    · exact (dated.accepted_rank acknowledgement old now).trans (rank_le_advance forward)

theorem Backed.acknowledge {backed : RetirementPhase}
    (holds : Backed control.current accepted backed mask) (other : HostMask)
    (newest : Acknowledgement) :
    Backed (Allocator.advance control other hostCount phase) (newest :: accepted) backed mask := by
  intro host member
  obtain ⟨acknowledgement, gives⟩ := holds host member
  rw [advance_sequence]
  exact ⟨acknowledgement, gives.cons newest⟩

theorem Backed.insert (holds : Backed control.current accepted control.current.phase mask)
    (other : HostMask) (host : HostId) (cursors : HostId → Nat) :
    Backed (Allocator.advance control other hostCount phase)
      (⟨control.current.sequence, control.current.phase, host, cursors⟩ :: accepted)
      control.current.phase (mask ||| HostMask.bit host.val) := by
  intro member contained
  rw [HostMask.contains_or_bit mask member.isLt, Bool.or_eq_true, decide_eq_true_eq] at contained
  rcases contained with old | same
  · exact holds.acknowledge other _ member old
  · rw [advance_sequence]
    exact ⟨_, List.mem_cons_self, rfl, rfl, (Fin.ext same).symm⟩

/-- A phase becomes current when all participants acknowledged the one before. -/
theorem Complete.advance (fits : control.current.hostCount ≤ kMaxHosts)
    (count : hostCount = control.current.hostCount)
    (behind : control.current.phase.rank < phase.rank) :
    Complete (Allocator.advance control mask hostCount phase) phase mask := by
  intro later host member
  rw [advance_hostCount] at member
  rcases advance_cases control mask hostCount phase with same | ⟨full, -⟩
  · rw [same] at later
    omega
  · exact HostMask.contains_of_eq_all (by rw [count]; exact fits) full (by rw [count]; exact member)

theorem Complete.stay {complete : RetirementPhase} {other : HostMask}
    (holds : Complete control.current complete mask)
    (past : complete.rank ≤ control.current.phase.rank) :
    Complete (Allocator.advance control other hostCount phase) complete mask := by
  intro _ host member
  rw [advance_hostCount] at member
  exact holds past host member

theorem Complete.ahead {complete : RetirementPhase} {other : HostMask}
    (forward : control.current.phase.rank ≤ phase.rank) (ahead : phase.rank < complete.rank) :
    Complete (Allocator.advance control other hostCount phase) complete mask := by
  intro later
  have bounded := @advance_rank_le control other hostCount phase forward
  omega

end Acknowledge

/-! ## Steps -/

theorem Consistent.closes {control : RetirementControl} {issued : List RetirementSnapshot}
    {accepted : List Acknowledgement} (consistent : Consistent control issued accepted)
    (phase : control.current.phase = .closing) {hostCount : Nat}
    (count : hostCount = control.current.hostCount) (host : HostId) (cursors : HostId → Nat) :
    Consistent
      { control with
        watermarks := Function.update control.watermarks host cursors
        closed := control.closed ||| HostMask.bit host.val
        current := Allocator.advance control (control.closed ||| HostMask.bit host.val) hostCount
          .draining }
      issued (⟨control.current.sequence, .closing, host, cursors⟩ :: accepted) := by
  have forward : control.current.phase.rank ≤ RetirementPhase.draining.rank := by
    rw [phase]
    decide
  have dated := @Dated.acknowledge control issued accepted
    (control.closed ||| HostMask.bit host.val) hostCount .draining consistent.toDated forward host
    cursors
  rw [phase] at dated
  refine ⟨dated, ?_, consistent.drained.acknowledge _ _, consistent.cleaned.acknowledge _ _,
    .advance consistent.participants count (by rw [phase]; decide), .ahead forward (by decide),
    .ahead forward (by decide), ?_⟩
  · intro member contained
    rw [HostMask.contains_or_bit control.closed member.isLt, Bool.or_eq_true,
      decide_eq_true_eq] at contained
    simp only [advance_sequence]
    by_cases same : member = host
    · subst same
      refine ⟨_, ⟨List.mem_cons_self, rfl, rfl, rfl⟩, ?_⟩
      rw [Function.update_self]
    · obtain ⟨acknowledgement, gives, recorded⟩ := consistent.closed member
        (contained.resolve_right fun equal => same (Fin.ext equal))
      refine ⟨acknowledgement, gives.cons _, ?_⟩
      rw [Function.update_of_ne same]
      exact recorded
  · intro acknowledgement member now draining
    simp only [advance_sequence] at now
    rcases List.mem_cons.mp member with rfl | old
    · cases draining
    · have early := consistent.accepted_rank acknowledgement old now
      rw [draining, phase] at early
      exact absurd early (by decide)

theorem Consistent.drains {control : RetirementControl} {issued : List RetirementSnapshot}
    {accepted : List Acknowledgement} (consistent : Consistent control issued accepted)
    (phase : control.current.phase = .draining) {hostCount : Nat}
    (count : hostCount = control.current.hostCount) {host : HostId} {cursors : HostId → Nat}
    (reached : ∀ producer : HostId, producer.val < hostCount → producer ≠ host →
      control.watermarks producer host ≤ cursors producer) :
    Consistent
      { control with
        drained := control.drained ||| HostMask.bit host.val
        current := Allocator.advance control (control.drained ||| HostMask.bit host.val) hostCount
          .cleaning }
      issued (⟨control.current.sequence, .draining, host, cursors⟩ :: accepted) := by
  have forward : control.current.phase.rank ≤ RetirementPhase.cleaning.rank := by
    rw [phase]
    decide
  have dated := @Dated.acknowledge control issued accepted
    (control.drained ||| HostMask.bit host.val) hostCount .cleaning consistent.toDated forward host
    cursors
  have backed := consistent.drained
  rw [← phase] at backed
  have drained := @Backed.insert control accepted control.drained hostCount .cleaning backed
    (control.drained ||| HostMask.bit host.val) host cursors
  rw [phase] at dated drained
  refine ⟨dated, ?_, drained, consistent.cleaned.acknowledge _ _,
    consistent.closedAll.stay (by rw [phase]),
    .advance consistent.participants count (by rw [phase]; decide), .ahead forward (by decide), ?_⟩
  · intro member contained
    obtain ⟨acknowledgement, gives, recorded⟩ := consistent.closed member contained
    simp only [advance_sequence]
    exact ⟨acknowledgement, gives.cons _, recorded⟩
  · intro acknowledgement member now draining producer participates different
    simp only [advance_sequence, advance_hostCount] at now participates
    rcases List.mem_cons.mp member with rfl | old
    · exact reached producer (by rw [count]; exact participates) different
    · exact consistent.reached acknowledgement old now draining producer participates different

theorem Consistent.cleans {control : RetirementControl} {issued : List RetirementSnapshot}
    {accepted : List Acknowledgement} (consistent : Consistent control issued accepted)
    (phase : control.current.phase = .cleaning) {hostCount : Nat}
    (count : hostCount = control.current.hostCount) (host : HostId) (cursors : HostId → Nat) :
    Consistent
      { control with
        cleaned := control.cleaned ||| HostMask.bit host.val
        current := Allocator.advance control (control.cleaned ||| HostMask.bit host.val) hostCount
          .reclaimable }
      issued (⟨control.current.sequence, .cleaning, host, cursors⟩ :: accepted) := by
  have forward : control.current.phase.rank ≤ RetirementPhase.reclaimable.rank := by
    rw [phase]
    decide
  have dated := @Dated.acknowledge control issued accepted
    (control.cleaned ||| HostMask.bit host.val) hostCount .reclaimable consistent.toDated forward
    host cursors
  have backed := consistent.cleaned
  rw [← phase] at backed
  have cleaned := @Backed.insert control accepted control.cleaned hostCount .reclaimable backed
    (control.cleaned ||| HostMask.bit host.val) host cursors
  rw [phase] at dated cleaned
  refine ⟨dated, ?_, consistent.drained.acknowledge _ _, cleaned,
    consistent.closedAll.stay (by rw [phase]; decide), consistent.drainedAll.stay (by rw [phase]),
    .advance consistent.participants count (by rw [phase]; decide), ?_⟩
  · intro member contained
    obtain ⟨acknowledgement, gives, recorded⟩ := consistent.closed member contained
    simp only [advance_sequence]
    exact ⟨acknowledgement, gives.cons _, recorded⟩
  · intro acknowledgement member now draining producer participates different
    simp only [advance_sequence, advance_hostCount] at now participates
    rcases List.mem_cons.mp member with rfl | old
    · cases draining
    · exact consistent.reached acknowledgement old now draining producer participates different

theorem Consistent.starts {state : Allocator} {issued returned : List RetirementSnapshot}
    {accepted : List Acknowledgement} (consistent : Consistent state.retirement issued accepted)
    {host : HostId} {object : GlobalPointer} {hostCount : Nat} (fits : hostCount ≤ kMaxHosts)
    (origin : ∀ snapshot ∈ returned,
      snapshot = (Allocator.startedControl state host object hostCount).current ∨
        snapshot ∈ issued) :
    Consistent (Allocator.startedControl state host object hostCount) returned accepted := by
  have older : ∀ acknowledgement ∈ accepted,
      acknowledgement.sequence ≠
        (Allocator.startedControl state host object hostCount).current.sequence := by
    intro acknowledgement member same
    have bounded := consistent.accepted_le acknowledgement member
    simp only [Allocator.startedControl] at same
    omega
  have early : ∀ complete : RetirementPhase, complete ≠ .closing →
      ¬complete.rank ≤
        (Allocator.startedControl state host object hostCount).current.phase.rank := by
    intro complete different
    change ¬complete.rank ≤ RetirementPhase.closing.rank
    cases complete with
    | closing => exact (different rfl).elim
    | _ => decide
  refine ⟨⟨fits, ?_, ?_, ?_, ?_⟩, ?_, ?_, ?_, ?_, ?_, ?_, ?_⟩
  · intro snapshot member
    rcases origin snapshot member with rfl | old
    · exact Nat.le_refl _
    · exact (consistent.issued_le snapshot old).trans (Nat.le_succ _)
  · intro snapshot member now
    rcases origin snapshot member with rfl | old
    · rfl
    · have bounded := consistent.issued_le snapshot old
      simp only [Allocator.startedControl] at now
      omega
  · intro acknowledgement member
    exact (consistent.accepted_le acknowledgement member).trans (Nat.le_succ _)
  · intro acknowledgement member now
    exact (older acknowledgement member now).elim
  · intro member contained
    simp [Allocator.startedControl] at contained
  · intro member contained
    simp [Allocator.startedControl] at contained
  · intro member contained
    simp [Allocator.startedControl] at contained
  · exact fun later => absurd later (early _ (by decide))
  · exact fun later => absurd later (early _ (by decide))
  · exact fun later => absurd later (early _ (by decide))
  · intro acknowledgement member now
    exact (older acknowledgement member now).elim

theorem Consistent.ends {control : RetirementControl} {issued : List RetirementSnapshot}
    {accepted : List Acknowledgement} (consistent : Consistent control issued accepted)
    (phase : control.current.phase = .reclaimable) :
    Consistent { control with current := { control.current with phase := .idle } } issued
      accepted := by
  have last : ∀ complete : RetirementPhase, complete ≠ .idle →
      complete.rank ≤ control.current.phase.rank := by
    intro complete active
    rw [phase]
    cases complete with
    | idle => exact (active rfl).elim
    | _ => decide
  refine ⟨⟨consistent.participants, consistent.issued_le, consistent.issued_eq,
    consistent.accepted_le, ?_⟩, consistent.closed, consistent.drained, consistent.cleaned,
    fun _ => consistent.closedAll (last _ (by decide)),
    fun _ => consistent.drainedAll (last _ (by decide)),
    fun _ => consistent.cleanedAll (last _ (by decide)), consistent.reached⟩
  exact fun acknowledgement _ _ => acknowledgement.phase.rank_le_idle

/-- Every transition keeps the masks and the history in agreement. -/
theorem Consistent.step
    (consistent : Consistent trace.allocator.retirement trace.issued trace.accepted)
    (step : Step layout trace after) :
    Consistent after.allocator.retirement after.issued after.accepted := by
  cases step with
  | stays allocator same =>
      simp only [same]
      exact consistent
  | issues =>
      refine ⟨⟨consistent.participants, ?_, ?_, consistent.accepted_le, consistent.accepted_rank⟩,
        consistent.closed, consistent.drained, consistent.cleaned, consistent.closedAll,
        consistent.drainedAll, consistent.cleanedAll, consistent.reached⟩
      · intro snapshot member
        rcases List.mem_cons.mp member with rfl | old
        · exact Nat.le_refl _
        · exact consistent.issued_le snapshot old
      · intro snapshot member now
        rcases List.mem_cons.mp member with rfl | old
        · rfl
        · exact consistent.issued_eq snapshot old now
  | starts host object hostCount allocator issued begins control returned =>
      simp only [control] at returned ⊢
      exact consistent.starts begins.count_le returned
  | ignores host cursors passive =>
      refine ⟨⟨consistent.participants, consistent.issued_le, consistent.issued_eq, ?_, ?_⟩, ?_, ?_,
        ?_, consistent.closedAll, consistent.drainedAll, consistent.cleanedAll, ?_⟩
      · intro acknowledgement member
        rcases List.mem_cons.mp member with rfl | old
        · exact Nat.le_refl _
        · exact consistent.accepted_le acknowledgement old
      · intro acknowledgement member now
        rcases List.mem_cons.mp member with rfl | old
        · exact Nat.le_refl _
        · exact consistent.accepted_rank acknowledgement old now
      · intro member contained
        obtain ⟨acknowledgement, gives, recorded⟩ := consistent.closed member contained
        exact ⟨acknowledgement, gives.cons _, recorded⟩
      · intro member contained
        obtain ⟨acknowledgement, gives⟩ := consistent.drained member contained
        exact ⟨acknowledgement, gives.cons _⟩
      · intro member contained
        obtain ⟨acknowledgement, gives⟩ := consistent.cleaned member contained
        exact ⟨acknowledgement, gives.cons _⟩
      · intro acknowledgement member now draining
        rcases List.mem_cons.mp member with rfl | old
        · simp only at draining
          rcases passive with idle | reclaimable
          · rw [idle] at draining
            cases draining
          · rw [reclaimable] at draining
            cases draining
        · exact consistent.reached acknowledgement old now draining
  | closes snapshot host cursors allocator member current phase control =>
      simp only [control]
      exact consistent.closes phase (consistent.issued_eq snapshot member current.sequence.symm)
        host cursors
  | drains snapshot host cursors allocator member current phase reached control =>
      simp only [control]
      exact consistent.drains phase (consistent.issued_eq snapshot member current.sequence.symm)
        reached
  | cleans snapshot host cursors allocator member current phase control =>
      simp only [control]
      exact consistent.cleans phase (consistent.issued_eq snapshot member current.sequence.symm)
        host cursors
  | ends allocator phase control =>
      simp only [control]
      exact consistent.ends phase

/-! ## Transactions -/

/-- Transactions that started and did not end. -/
def Active (trace : RetirementTrace) (sequence : Nat) : Prop :=
  sequence ∈ trace.started ∧ sequence ∉ trace.finished

/-- The transactions of a trace follow one another. -/
structure Ordered (trace : RetirementTrace) : Prop where
  /-- Sequences increase from one transaction to the next. -/
  increasing : trace.started.Pairwise (· > ·)
  /-- No transaction is newer than the current one. -/
  started_le : ∀ sequence ∈ trace.started, sequence ≤ trace.current.sequence
  /-- Only transactions that started have ended. -/
  finished_le : ∀ sequence ∈ trace.finished, sequence ≤ trace.current.sequence
  /-- The control holds the active transaction. -/
  active : ∀ sequence, trace.Active sequence ↔
    trace.current.phase ≠ .idle ∧ sequence = trace.current.sequence

/-- Transitions that neither start nor end a transaction. -/
theorem Ordered.of_eq (ordered : Ordered trace) (started : after.started = trace.started)
    (finished : after.finished = trace.finished)
    (sequence : after.current.sequence = trace.current.sequence)
    (phase : after.current.phase = .idle ↔ trace.current.phase = .idle) : Ordered after := by
  refine ⟨?_, ?_, ?_, ?_⟩
  · rw [started]
    exact ordered.increasing
  · rw [started, sequence]
    exact ordered.started_le
  · rw [finished, sequence]
    exact ordered.finished_le
  · intro transaction
    rw [Active, started, finished, sequence, ne_eq, phase]
    exact ordered.active transaction

theorem advance_idle {control : RetirementControl} {mask : HostMask} {hostCount : Nat}
    {phase : RetirementPhase} (active : control.current.phase ≠ .idle) (next : phase ≠ .idle) :
    (Allocator.advance control mask hostCount phase).phase = .idle ↔
      control.current.phase = .idle := by
  rcases advance_cases control mask hostCount phase with same | ⟨-, advanced⟩
  · rw [same]
  · rw [advanced]
    exact iff_of_false next active

theorem Ordered.step (ordered : Ordered trace) (step : Step layout trace after) :
    Ordered after := by
  cases step with
  | stays allocator same =>
      exact ordered.of_eq rfl rfl (by simp [current, same]) (by simp [current, same])
  | issues | ignores => exact ordered.of_eq rfl rfl rfl Iff.rfl
  | closes snapshot host cursors allocator member named phase control =>
      refine ordered.of_eq rfl rfl ?_ ?_
      · simp [current, control]
      · simp only [current, control]
        exact advance_idle (by rw [← current, phase]; decide) (by decide)
  | drains snapshot host cursors allocator member named phase reached control
  | cleans snapshot host cursors allocator member named phase control =>
      refine ordered.of_eq rfl rfl ?_ ?_
      · simp [current, control]
      · simp only [current, control]
        exact advance_idle (by rw [← current, phase]; decide) (by decide)
  | starts host object hostCount allocator issued begins control returned =>
      have quiet : ∀ sequence, ¬trace.Active sequence := by
        intro sequence active
        exact ((ordered.active sequence).mp active).1 begins.idle
      have now : allocator.retirement.current =
          ⟨.closing, object, trace.current.sequence + 1, host, hostCount⟩ := by
        rw [control]
        rfl
      simp only [Active, not_and, not_not] at quiet
      refine ⟨?_, ?_, ?_, ?_⟩
      · refine List.pairwise_cons.mpr ⟨?_, ordered.increasing⟩
        intro sequence member
        exact Nat.lt_succ_of_le (ordered.started_le sequence member)
      · simp only [current, now, List.mem_cons]
        rintro sequence (rfl | member)
        · exact Nat.le_refl _
        · exact (ordered.started_le sequence member).trans (Nat.le_succ _)
      · simp only [current, now]
        intro sequence member
        exact (ordered.finished_le sequence member).trans (Nat.le_succ _)
      · intro sequence
        simp only [Active, current, now, List.mem_cons]
        constructor
        · rintro ⟨rfl | old, unfinished⟩
          · exact ⟨by decide, rfl⟩
          · exact (unfinished (quiet sequence old)).elim
        · rintro ⟨-, rfl⟩
          refine ⟨.inl rfl, fun finished => ?_⟩
          have bounded := ordered.finished_le _ finished
          simp only [current] at bounded
          omega
  | ends allocator phase control =>
      have now : allocator.retirement.current = { trace.current with phase := .idle } := by
        rw [control]
      refine ⟨ordered.increasing, ?_, ?_, ?_⟩
      · simp only [current, now]
        exact ordered.started_le
      · simp only [current, now, List.mem_cons]
        rintro sequence (rfl | member)
        · exact Nat.le_refl _
        · exact ordered.finished_le sequence member
      · intro sequence
        simp only [Active, current, now, List.mem_cons, ne_eq, not_true, false_and, iff_false]
        rintro ⟨started, unfinished⟩
        push Not at unfinished
        exact unfinished.1 ((ordered.active sequence).mp ⟨started, unfinished.2⟩).2

/-! ## Runs -/

theorem next_allocator {label : Label} (step : next layout trace label = some after) :
    after.allocator = trace.allocator ∨
      ∃ call, label = .call call ∧
        Allocator.next layout trace.allocator call = some after.allocator := by
  cases label with
  | retirement =>
      simp only [next] at step
      split at step
      · cases step
      · obtain rfl := Option.some.inj step
        exact .inl rfl
  | call label =>
      obtain ⟨-, allocator, performed, rfl⟩ := next_call step
      refine .inr ⟨label, rfl, ?_⟩
      rw [performed]
      cases label <;> rfl

/-- The invariant of every run. -/
structure Sound (layout : AllocatorLayout) (trace : RetirementTrace) : Prop where
  /-- The shared state is one of the allocator. -/
  reachable : Allocator.Reachable layout trace.allocator
  /-- The masks agree with the history. -/
  consistent : Consistent trace.allocator.retirement trace.issued trace.accepted
  /-- The transactions follow one another. -/
  ordered : Ordered trace

theorem Sound.next (sound : Sound layout trace) {label : Label}
    (step : RetirementTrace.next layout trace label = some after) : Sound layout after := by
  have taken := step_of_next sound.reachable.ledger step
  refine ⟨?_, sound.consistent.step taken, sound.ordered.step taken⟩
  rcases next_allocator step with same | ⟨call, -, performed⟩
  · rw [same]
    exact sound.reachable
  · exact sound.reachable.step performed

theorem Sound.of_format {memory : Memory} {start : Allocator}
    (format : Allocator.formatSharedAllocator layout memory = .ok start) :
    Sound layout (initial start) := by
  have idle : start.retirement =
      ⟨⟨.idle, ⟨0, 0⟩, 0, ⟨0, by decide⟩, 0⟩, 0#64, 0#64, 0#64, fun _ _ => 0⟩ := by
    simp only [Allocator.formatSharedAllocator] at format
    split at format
    · cases format
    · obtain rfl := Except.ok.inj format
      rfl
  refine ⟨⟨memory, start, format, .refl⟩, ?_, ?_⟩
  · simp only [initial, idle]
    refine ⟨⟨by decide, by simp, by simp, by simp, by simp⟩, by simp, ?_, ?_, ?_, ?_, ?_, by simp⟩
    · simp [Backed]
    · simp [Backed]
    · simp [Complete]
    · simp [Complete]
    · simp [Complete]
  · refine ⟨.nil, by simp [initial], by simp [initial], ?_⟩
    simp [initial, Active, current, idle]

theorem Reachable.sound (reachable : Reachable layout trace) : Sound layout trace := by
  obtain ⟨memory, start, format, execution⟩ := reachable
  exact execution.preserves (Sound layout) (.of_format format)
    fun _ _ _ sound _ step => sound.next step

/-- The next phase of a transaction, or the first one of the next transaction. -/
inductive Forward (before : RetirementSnapshot) : RetirementSnapshot → Prop
  /-- Nothing changes. -/
  | stays : Forward before before
  | advances (active : before.phase ≠ .idle) :
      Forward before { before with phase := before.phase.successor }
  | starts (idle : before.phase = .idle) (object : GlobalPointer) (coordinator : HostId)
      (hostCount : Nat) :
      Forward before ⟨.closing, object, before.sequence + 1, coordinator, hostCount⟩

theorem forward_advance {control : RetirementControl} {mask : HostMask} {hostCount : Nat}
    {phase : RetirementPhase} (active : control.current.phase ≠ .idle)
    (successor : control.current.phase.successor = phase) :
    Forward control.current (Allocator.advance control mask hostCount phase) := by
  rcases advance_cases control mask hostCount phase with same | ⟨-, advanced⟩
  · rw [same]
    exact .stays
  · rw [advanced, ← successor]
    exact .advances active

theorem Step.forward (step : Step layout trace after) : Forward trace.current after.current := by
  cases step with
  | stays allocator same =>
      simp only [current, same]
      exact .stays
  | issues | ignores => exact .stays
  | starts host object hostCount allocator issued begins control returned =>
      simp only [current, control]
      exact .starts begins.idle object host hostCount
  | closes snapshot host cursors allocator member named phase control =>
      simp only [current, control] at phase ⊢
      exact forward_advance (by rw [phase]; decide) (by rw [phase]; rfl)
  | drains snapshot host cursors allocator member named phase reached control
  | cleans snapshot host cursors allocator member named phase control =>
      simp only [current, control] at phase ⊢
      exact forward_advance (by rw [phase]; decide) (by rw [phase]; rfl)
  | ends allocator phase control =>
      have ended : allocator.retirement.current =
          { trace.current with phase := trace.current.phase.successor } := by
        rw [control, phase]
        rfl
      simp only [current, ended] at phase ⊢
      exact .advances (by rw [phase]; decide)

/-- The place of a snapshot in the order of transactions and phases. -/
def stage (snapshot : RetirementSnapshot) : Nat ×ₗ Nat :=
  toLex (snapshot.sequence, snapshot.phase.rank)

theorem Forward.stage_le {before after : RetirementSnapshot} (forward : Forward before after) :
    stage before ≤ stage after := by
  cases forward with
  | stays => exact le_rfl
  | advances active =>
      exact Prod.Lex.toLex_le_toLex.mpr (.inr ⟨rfl, RetirementPhase.rank_le_successor active⟩)
  | starts => exact Prod.Lex.toLex_le_toLex.mpr (.inl (Nat.lt_succ_self _))

/-- A published object that is retiring. -/
structure Retiring (layout : AllocatorLayout) (state : Allocator) (object : Nat) : Prop where
  published : Allocator.Published layout state object
  state : descriptor state.memory object .state = AllocationState.retiring.code

/-- A transition returns the storage of an object. -/
def Returns (layout : AllocatorLayout) (object : Nat) (trace : RetirementTrace) : Label → Prop
  | .call (.free host pointer) =>
      pointer.offset = object ∧ (Allocator.free layout trace.allocator host pointer).1 = .ok
  | _ => False

/-- A retiring object stays so until its storage is returned. -/
theorem Retiring.next {state after : Allocator} {object : Nat}
    (retiring : Retiring layout state object) (ledger : Allocator.Ledger layout state)
    {label : Allocator.Label} (step : Allocator.next layout state label = some after)
    (keeps : ∀ host pointer, label = .free host pointer → pointer.offset = object →
      (Allocator.free layout state host pointer).1 ≠ .ok) :
    Retiring layout after object := by
  obtain ⟨⟨nonzero, slot, below, rfl⟩, lifecycle⟩ := retiring
  have here : slot ∈ Allocator.live layout state := ⟨below, nonzero⟩
  have stays : (∀ host defaultBlockBytes options,
        label ≠ .allocate host defaultBlockBytes options) →
      (∀ host object, label ≠ .free host object) →
      Retiring layout after (state.slots slot).objectOffset := by
    intro notAllocate notFree
    have passive := ledger.passive step notAllocate notFree
    refine ⟨⟨nonzero, slot, below, passive.slots slot⟩, ?_⟩
    rcases (passive.kept slot here).state with same | retired
    · rw [same]
      exact lifecycle
    · exact retired
  cases label with
  | allocate host defaultBlockBytes options =>
      simp only [Allocator.next] at step
      split at step
      · cases step
      · obtain rfl := Option.some.inj step
        rcases ledger.allocate_cases host defaultBlockBytes options with
          ⟨status, extents, restores, result⟩ |
          ⟨admissible, extents, taken, dataExtent, sidecar, object, reservation, result⟩
        · rw [result]
          exact ⟨⟨nonzero, slot, below, rfl⟩, lifecycle⟩
        · have different : slot ≠ taken := by
            rintro rfl
            exact nonzero (congrArg AllocationSlot.objectOffset reservation.empty)
          rw [result]
          refine ⟨⟨nonzero, slot, below, ?_⟩, ?_⟩
          · simp only [Function.update_of_ne different]
          · simp only [ledger.descriptor_constructed_of_live reservation rfl here .state]
            exact lifecycle
  | free host pointer =>
      simp only [Allocator.next] at step
      split at step
      · cases step
      · obtain rfl := Option.some.inj step
        rcases ledger.free_cases host pointer with
          ⟨-, status, -, result⟩ | ⟨freed, extents, ready, -, reclaimed, result⟩
        · rw [result]
          exact ⟨⟨nonzero, slot, below, rfl⟩, lifecycle⟩
        · have different : freed ≠ slot := by
            rintro rfl
            exact keeps host pointer rfl ready.published.symm (by rw [result])
          rw [result]
          refine ⟨⟨nonzero, slot, below, ?_⟩, ?_⟩
          · simp only [Allocator.freed, Function.update_of_ne different.symm]
          · simp only [ledger.descriptor_freed ready.member ready.published extents here different]
            exact lifecycle
  | _ => exact stays (by simp) (by simp)

/-- What the retirement control guarantees in a state of a run. -/
structure Certifies (layout : AllocatorLayout) (trace : RetirementTrace) : Prop where
  /-- At most one transaction is active, and the control holds it. -/
  active : ∀ sequence, trace.Active sequence ↔
    trace.current.phase ≠ .idle ∧ sequence = trace.current.sequence
  /-- Sequences strictly increase from one transaction to the next. -/
  increasing : trace.started.Pairwise (· > ·)
  /-- A transition leaves the transaction, advances its phase or starts the next transaction. -/
  forward : ∀ label after, next layout trace label = some after →
    Forward trace.current after.current
  /-- No run goes back. -/
  monotone : ∀ after, Run.Reaches (next layout) trace after →
    stage trace.current ≤ stage after.current
  /-- `BeginRetire` during a transaction changes nothing, and returns the current one if any. -/
  resumed : trace.current.phase ≠ .idle → ∀ host object hostCount,
    (Allocator.beginRetire layout trace.allocator host object hostCount).2 = trace.allocator ∧
      ∀ snapshot, (Allocator.beginRetire layout trace.allocator host object hostCount).1 =
        some (.ok snapshot) → snapshot = trace.current
  /-- From draining on, every participant closed the object in the closing phase of this
  transaction, and its watermarks are the ones it gave then. -/
  closed : RetirementPhase.draining.rank ≤ trace.current.phase.rank →
    ∀ host : HostId, host.val < trace.current.hostCount → ∃ acknowledgement,
      Gives trace.accepted trace.current.sequence .closing host acknowledgement ∧
        acknowledgement.cursors = trace.allocator.retirement.watermarks host
  /-- From cleaning on, every participant drained its queues in the draining phase of this
  transaction. -/
  drained : RetirementPhase.cleaning.rank ≤ trace.current.phase.rank →
    ∀ host : HostId, host.val < trace.current.hostCount → ∃ acknowledgement,
      Gives trace.accepted trace.current.sequence .draining host acknowledgement
  /-- In the reclaimable phase, every participant dropped its replicas in the cleaning phase of this
  transaction. -/
  cleaned : RetirementPhase.reclaimable.rank ≤ trace.current.phase.rank →
    ∀ host : HostId, host.val < trace.current.hostCount → ∃ acknowledgement,
      Gives trace.accepted trace.current.sequence .cleaning host acknowledgement
  /-- A draining acknowledgement is accepted only with cursors at the watermarks of the others. -/
  reached : ∀ snapshot ∈ trace.issued, ∀ host cursors, snapshot.phase = .draining →
    (Allocator.acknowledgeRetirement layout trace.allocator snapshot host cursors).1 = some .ok →
    ∀ producer : HostId, producer.val < trace.current.hostCount → producer ≠ host →
      trace.allocator.retirement.watermarks producer host ≤ cursors producer
  /-- Every draining acknowledgement of this transaction had such cursors. -/
  watermarks : ∀ acknowledgement ∈ trace.accepted,
    acknowledgement.sequence = trace.current.sequence → acknowledgement.phase = .draining →
    ∀ producer : HostId, producer.val < trace.current.hostCount →
      producer ≠ acknowledgement.host →
      trace.allocator.retirement.watermarks producer acknowledgement.host ≤
        acknowledgement.cursors producer
  /-- A snapshot of another transaction or phase changes nothing. -/
  stale : ∀ snapshot host cursors,
    snapshot.sequence ≠ trace.current.sequence ∨ snapshot.phase ≠ trace.current.phase →
    (Allocator.acknowledgeRetirement layout trace.allocator snapshot host cursors).2 =
      trace.allocator
  /-- A retiring object stays retiring until its storage is returned. -/
  retiring : ∀ object, Retiring layout trace.allocator object → ∀ after,
    Run.ReachesBy (next layout) (fun now label => ¬Returns layout object now label) trace after →
    Retiring layout after.allocator object

theorem Sound.monotone (sound : Sound layout trace)
    (execution : Run.Reaches (RetirementTrace.next layout) trace after) :
    stage trace.current ≤ stage after.current := by
  have carried := execution.preserves
    (fun later => Sound layout later ∧ stage trace.current ≤ stage later.current) ⟨sound, le_rfl⟩
    fun state label next holds _ step => ⟨holds.1.next step, holds.2.trans
      (step_of_next holds.1.reachable.ledger step).forward.stage_le⟩
  exact carried.2

theorem Sound.retiring (sound : Sound layout trace) {object : Nat}
    (retiring : Retiring layout trace.allocator object)
    (execution : Run.ReachesBy (RetirementTrace.next layout)
      (fun now label => ¬Returns layout object now label) trace after) :
    Retiring layout after.allocator object := by
  have carried := execution.preserves
    (fun later => Sound layout later ∧ Retiring layout later.allocator object) ⟨sound, retiring⟩ ?_
  · exact carried.2
  · rintro state label next ⟨sound, retiring⟩ keeps step
    refine ⟨sound.next step, ?_⟩
    rcases next_allocator step with same | ⟨call, rfl, performed⟩
    · rw [same]
      exact retiring
    · refine retiring.next sound.reachable.ledger performed ?_
      rintro host pointer rfl same ok
      exact keeps ⟨same, ok⟩

/-- In every state of every run the retirement control is a certificate that only moves forward. -/
theorem retirement_certifies (reachable : Reachable layout trace) : Certifies layout trace := by
  have sound := reachable.sound
  have consistent := sound.consistent
  refine
    { active := sound.ordered.active
      increasing := sound.ordered.increasing
      forward := fun label after step => (step_of_next sound.reachable.ledger step).forward
      monotone := fun after execution => sound.monotone execution
      resumed := ?_
      closed := fun later host member =>
        consistent.closed host (consistent.closedAll later host member)
      drained := fun later host member =>
        consistent.drained host (consistent.drainedAll later host member)
      cleaned := fun later host member =>
        consistent.cleaned host (consistent.cleanedAll later host member)
      reached := ?_
      watermarks := consistent.reached
      stale := ?_
      retiring := fun object retiring after execution => sound.retiring retiring execution }
  · intro active host object hostCount
    have begins := Allocator.beginRetire_spec sound.reachable.ledger.formatted trace.allocator host
      object hostCount
    generalize (Allocator.beginRetire layout trace.allocator host object hostCount).1 = result
      at begins ⊢
    generalize (Allocator.beginRetire layout trace.allocator host object hostCount).2 = allocator
      at begins ⊢
    cases begins with
    | refuses =>
        refine ⟨rfl, fun snapshot returned => ?_⟩
        cases returned
    | resumes =>
        refine ⟨rfl, fun snapshot returned => ?_⟩
        exact (Except.ok.inj (Option.some.inj returned)).symm
    | waits starts | starts starts => exact (active starts.idle).elim
  · intro snapshot member host cursors phase ok producer participates different
    have named := current_of_accepted ok
    have count := consistent.issued_eq snapshot member named.sequence.symm
    have acknowledges := Allocator.acknowledgeRetirement_spec sound.reachable.ledger.formatted
      trace.allocator snapshot host cursors
    rw [ok] at acknowledges
    generalize (Allocator.acknowledgeRetirement layout trace.allocator snapshot host cursors).2 =
      allocator at acknowledges
    cases acknowledges with
    | unchanged _ passive =>
        rcases passive rfl with idle | reclaimable
        · rw [phase] at idle
          cases idle
        · rw [phase] at reclaimable
          cases reclaimable
    | closes _ closing =>
        rw [phase] at closing
        cases closing
    | drains _ _ reached => exact reached producer (by rw [count]; exact participates) different
    | cleans _ cleaning =>
        rw [phase] at cleaning
        cases cleaning
  · intro snapshot host cursors other
    simp only [Allocator.acknowledgeRetirement]
    rw [if_pos]
    rcases other with sequence | phase
    · exact .inl sequence.symm
    · exact .inr (.inl phase.symm)

/-- Another host of the small region. -/
def otherHost : HostId := ⟨1, by decide⟩

/-- The transaction that retires the object of the small region, in a phase. -/
def smallSnapshot (phase : RetirementPhase) : RetirementSnapshot :=
  ⟨phase, ⟨0, 8832⟩, 1, Allocator.smallHost, 2⟩

/-- The retirement of an object by two hosts. The first host sent seven messages to the other one
before it closed the object, and got five from it: it may not acknowledge that its queues are
drained after four of them, nor once more that it closed the object. -/
def smallRetirement : List Label :=
  [.call (.allocate Allocator.smallHost 4096 ⟨1, 1, 0⟩),
    .call (.beginRetire Allocator.smallHost ⟨0, 8832⟩ 2),
    .call (.acknowledgeRetirement (smallSnapshot .closing) Allocator.smallHost fun _ => 7),
    .call (.acknowledgeRetirement (smallSnapshot .closing) otherHost fun _ => 5),
    .retirement,
    .call (.acknowledgeRetirement (smallSnapshot .draining) Allocator.smallHost fun _ => 4),
    .call (.acknowledgeRetirement (smallSnapshot .closing) Allocator.smallHost fun _ => 9),
    .call (.acknowledgeRetirement (smallSnapshot .draining) Allocator.smallHost fun _ => 5),
    .call (.acknowledgeRetirement (smallSnapshot .draining) otherHost fun _ => 8),
    .retirement,
    .call (.acknowledgeRetirement (smallSnapshot .cleaning) otherHost fun _ => 8),
    .call (.acknowledgeRetirement (smallSnapshot .cleaning) Allocator.smallHost fun _ => 5)]

theorem retirement_certifies_smallRegion :
    ∃ trace, Reachable Allocator.smallLayout trace ∧ trace.current = smallSnapshot .reclaimable ∧
      trace.accepted.length = 6 ∧
      trace.allocator.retirement.watermarks otherHost Allocator.smallHost = 5 ∧
      trace.allocator.retirement.watermarks Allocator.smallHost otherHost = 7 ∧
      Certifies Allocator.smallLayout trace := by
  have outcome : (Run.runLabels (next Allocator.smallLayout) (initial Allocator.smallRegion)
      smallRetirement).map (fun trace => (trace.current, trace.accepted.length,
        trace.allocator.retirement.watermarks otherHost Allocator.smallHost,
        trace.allocator.retirement.watermarks Allocator.smallHost otherHost)) =
      some (smallSnapshot .reclaimable, 6, 5, 7) := by
    decide +kernel
  obtain ⟨trace, execution, facts⟩ := Option.map_eq_some_iff.mp outcome
  simp only [Prod.mk.injEq] at facts
  obtain ⟨retired, given, fromOther, fromSmall⟩ := facts
  have reachable : Reachable Allocator.smallLayout trace :=
    ⟨fun _ => 0, Allocator.smallRegion, rfl, Run.reaches_of_runLabels execution⟩
  exact ⟨trace, reachable, retired, given, fromOther, fromSmall, retirement_certifies reachable⟩

end RetirementTrace
end Cxloom.LoomMem
