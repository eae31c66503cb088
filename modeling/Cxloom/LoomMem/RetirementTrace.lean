import Cxloom.LoomMem.AllocatorForgery

/-!
# Retirement as a certificate

Runs of the allocator together with what they did to the retirement control: which snapshots callers
obtained, which acknowledgements were accepted and in which phase of which transaction, and which
transactions started and ended.  An acknowledgement may carry any snapshot that was obtained before,
however old, and any cursors.
-/

namespace Cxloom.LoomMem

/-- Phases in the order of a transaction; the control is idle again at its end. -/
def RetirementPhase.rank : RetirementPhase → Nat
  | .closing => 1
  | .draining => 2
  | .cleaning => 3
  | .reclaimable => 4
  | .idle => 5

def RetirementPhase.successor : RetirementPhase → RetirementPhase
  | .idle => .closing
  | .closing => .draining
  | .draining => .cleaning
  | .cleaning => .reclaimable
  | .reclaimable => .idle

/-- An acknowledgement that was accepted. -/
structure Acknowledgement where
  /-- Transaction that was current. -/
  sequence : Nat
  phase : RetirementPhase
  host : HostId
  cursors : HostId → Nat

/-- An allocator with the history of its retirement control. -/
structure RetirementTrace where
  /-- The shared state. -/
  allocator : Allocator
  /-- Snapshots that `BeginRetire` and `Retirement` returned. -/
  issued : List RetirementSnapshot
  accepted : List Acknowledgement
  /-- Transactions that started, the newest first. -/
  started : List Nat
  /-- Transactions that `Free` ended. -/
  finished : List Nat

namespace RetirementTrace

/-- Transitions of a trace. -/
inductive Label
  | call (label : Allocator.Label)
  /-- `Retirement`. -/
  | retirement

/-- The current transaction. -/
def current (trace : RetirementTrace) : RetirementSnapshot := trace.allocator.retirement.current

def Carries (trace : RetirementTrace) : Allocator.Label → Prop
  | .acknowledgeRetirement snapshot _ _ => snapshot ∈ trace.issued
  | _ => True

instance (trace : RetirementTrace) : (label : Allocator.Label) → Decidable (trace.Carries label)
  | .acknowledgeRetirement _ _ _ => inferInstanceAs (Decidable (_ ∈ _))
  | .allocate .. | .beginRetire .. | .free .. | .acquireReference .. | .releaseReference ..
  | .setReplicaHosts .. | .pinSlot .. | .unpinSlot .. | .applicationWrite .. => .isTrue trivial

variable (layout : AllocatorLayout)

/-- Note what a call did. -/
def record (trace : RetirementTrace) (label : Allocator.Label) (after : Allocator) :
    RetirementTrace :=
  match label with
  | .beginRetire host object hostCount =>
      { trace with
        allocator := after
        issued :=
          match (Allocator.beginRetire layout trace.allocator host object hostCount).1 with
          | some (.ok snapshot) => snapshot :: trace.issued
          | _ => trace.issued
        started :=
          if after.retirement.current = trace.current then trace.started
          else after.retirement.current.sequence :: trace.started }
  | .acknowledgeRetirement snapshot host cursors =>
      { trace with
        allocator := after
        accepted :=
          if (Allocator.acknowledgeRetirement layout trace.allocator snapshot host cursors).1 =
              some .ok then
            ⟨trace.current.sequence, trace.current.phase, host, cursors⟩ :: trace.accepted
          else trace.accepted }
  | .free host object =>
      { trace with
        allocator := after
        finished :=
          if (Allocator.free layout trace.allocator host object).1 = .ok then
            trace.current.sequence :: trace.finished
          else trace.finished }
  | _ => { trace with allocator := after }

/-- The trace after an enabled transition. -/
def next (trace : RetirementTrace) : Label → Option RetirementTrace
  | .call label =>
      if trace.Carries label then
        (Allocator.next layout trace.allocator label).map (trace.record layout label)
      else none
  | .retirement =>
      if trace.allocator.extentLock then none
      else some { trace with issued := trace.current :: trace.issued }

/-- A formatted region without a history. -/
def initial (allocator : Allocator) : RetirementTrace := ⟨allocator, [], [], [], []⟩

/-- Traces of every run over a region that was formatted with any bytes in it. -/
def Reachable (trace : RetirementTrace) : Prop :=
  ∃ memory start, Allocator.formatSharedAllocator layout memory = .ok start ∧
    Run.Reaches (next layout) (initial start) trace

/-! ## Steps -/

section Steps

variable {layout}

/-- Only the retirement operations change the control. -/
theorem retirement_eq {state after : Allocator} {label : Allocator.Label}
    (ledger : Allocator.Ledger layout state) (step : Allocator.next layout state label = some after)
    (notBegin : ∀ host object hostCount, label ≠ .beginRetire host object hostCount)
    (notAcknowledge : ∀ snapshot host cursors,
      label ≠ .acknowledgeRetirement snapshot host cursors)
    (notFree : ∀ host object, label ≠ .free host object) :
    after.retirement = state.retirement := by
  cases label with
  | beginRetire host object hostCount => exact (notBegin host object hostCount rfl).elim
  | acknowledgeRetirement snapshot host cursors =>
      exact (notAcknowledge snapshot host cursors rfl).elim
  | free host object => exact (notFree host object rfl).elim
  | allocate host defaultBlockBytes options =>
      simp only [Allocator.next] at step
      split at step
      · cases step
      · obtain rfl := Option.some.inj step
        rcases ledger.allocate_cases host defaultBlockBytes options with
          ⟨status, extents, -, result⟩ | ⟨-, extents, slot, dataExtent, sidecar, object, -, result⟩
        · rw [result]
        · rw [result]
  | acquireReference object host allowRetiring =>
      simp only [Allocator.next, Option.some.injEq] at step
      subst step
      simp only [Allocator.acquireReference]
      split
      · rfl
      · split
        · rfl
        · rfl
  | releaseReference object host =>
      simp only [Allocator.next] at step
      split at step
      · obtain rfl := Option.some.inj step
        simp only [Allocator.releaseReference]
        split
        · rfl
        · rfl
      · cases step
  | setReplicaHosts object hosts | pinSlot index | unpinSlot index | applicationWrite cell byte =>
      simp only [Allocator.next] at step
      split at step
      · obtain rfl := Option.some.inj step
        rfl
      · cases step

/-- What a transition does to the history and to the control. -/
inductive Step (layout : AllocatorLayout) (trace : RetirementTrace) : RetirementTrace → Prop
  | stays (allocator : Allocator) (same : allocator.retirement = trace.allocator.retirement) :
      Step layout trace { trace with allocator := allocator }
  /-- A caller gets the current transaction. -/
  | issues : Step layout trace { trace with issued := trace.current :: trace.issued }
  | starts (host : HostId) (object : GlobalPointer) (hostCount : Nat) (allocator : Allocator)
      (issued : List RetirementSnapshot)
      (begins : Allocator.Starts layout trace.allocator host object hostCount)
      (control : allocator.retirement =
        Allocator.startedControl trace.allocator host object hostCount)
      (returned : ∀ snapshot ∈ issued,
        snapshot = allocator.retirement.current ∨ snapshot ∈ trace.issued) :
      Step layout trace
        { trace with
          allocator := allocator
          issued := issued
          started := (trace.current.sequence + 1) :: trace.started }
  /-- An acknowledgement of a phase that needs none. -/
  | ignores (host : HostId) (cursors : HostId → Nat)
      (passive : trace.current.phase = .idle ∨ trace.current.phase = .reclaimable) :
      Step layout trace
        { trace with
          accepted :=
            ⟨trace.current.sequence, trace.current.phase, host, cursors⟩ :: trace.accepted }
  | closes (snapshot : RetirementSnapshot) (host : HostId) (cursors : HostId → Nat)
      (allocator : Allocator) (member : snapshot ∈ trace.issued)
      (current : Allocator.Current trace.allocator snapshot host)
      (phase : trace.current.phase = .closing)
      (control : allocator.retirement =
        { trace.allocator.retirement with
          watermarks := Function.update trace.allocator.retirement.watermarks host cursors
          closed := trace.allocator.retirement.closed ||| HostMask.bit host.val
          current := Allocator.advance trace.allocator.retirement
            (trace.allocator.retirement.closed ||| HostMask.bit host.val) snapshot.hostCount
            .draining }) :
      Step layout trace
        { trace with
          allocator := allocator
          accepted := ⟨trace.current.sequence, .closing, host, cursors⟩ :: trace.accepted }
  | drains (snapshot : RetirementSnapshot) (host : HostId) (cursors : HostId → Nat)
      (allocator : Allocator) (member : snapshot ∈ trace.issued)
      (current : Allocator.Current trace.allocator snapshot host)
      (phase : trace.current.phase = .draining)
      (reached : ∀ producer : HostId, producer.val < snapshot.hostCount → producer ≠ host →
        trace.allocator.retirement.watermarks producer host ≤ cursors producer)
      (control : allocator.retirement =
        { trace.allocator.retirement with
          drained := trace.allocator.retirement.drained ||| HostMask.bit host.val
          current := Allocator.advance trace.allocator.retirement
            (trace.allocator.retirement.drained ||| HostMask.bit host.val) snapshot.hostCount
            .cleaning }) :
      Step layout trace
        { trace with
          allocator := allocator
          accepted := ⟨trace.current.sequence, .draining, host, cursors⟩ :: trace.accepted }
  /-- A participant dropped its replicas. -/
  | cleans (snapshot : RetirementSnapshot) (host : HostId) (cursors : HostId → Nat)
      (allocator : Allocator) (member : snapshot ∈ trace.issued)
      (current : Allocator.Current trace.allocator snapshot host)
      (phase : trace.current.phase = .cleaning)
      (control : allocator.retirement =
        { trace.allocator.retirement with
          cleaned := trace.allocator.retirement.cleaned ||| HostMask.bit host.val
          current := Allocator.advance trace.allocator.retirement
            (trace.allocator.retirement.cleaned ||| HostMask.bit host.val) snapshot.hostCount
            .reclaimable }) :
      Step layout trace
        { trace with
          allocator := allocator
          accepted := ⟨trace.current.sequence, .cleaning, host, cursors⟩ :: trace.accepted }
  /-- `Free` ends the transaction. -/
  | ends (allocator : Allocator) (phase : trace.current.phase = .reclaimable)
      (control : allocator.retirement =
        { trace.allocator.retirement with current := { trace.current with phase := .idle } }) :
      Step layout trace
        { trace with
          allocator := allocator
          finished := trace.current.sequence :: trace.finished }

/-- An accepted acknowledgement names the current transaction and phase. -/
theorem current_of_accepted {state : Allocator} {snapshot : RetirementSnapshot} {host : HostId}
    {cursors : HostId → Nat}
    (accepted : (Allocator.acknowledgeRetirement layout state snapshot host cursors).1 = some .ok) :
    Allocator.Current state snapshot host := by
  simp only [Allocator.acknowledgeRetirement] at accepted
  split at accepted
  · cases congrArg Status.code (Option.some.inj accepted)
  · rename_i current
    push Not at current
    exact ⟨current.1, current.2.1, current.2.2⟩

theorem next_call {trace after : RetirementTrace} {label : Allocator.Label}
    (step : next layout trace (.call label) = some after) :
    trace.Carries label ∧ ∃ allocator,
      Allocator.next layout trace.allocator label = some allocator ∧
      trace.record layout label allocator = after := by
  simp only [next] at step
  split at step
  · rename_i carries
    exact ⟨carries, Option.map_eq_some_iff.mp step⟩
  · cases step

theorem step_beginRetire {trace after : RetirementTrace}
    (ledger : Allocator.Ledger layout trace.allocator) {host : HostId} {object : GlobalPointer}
    {hostCount : Nat}
    (step : next layout trace (.call (.beginRetire host object hostCount)) = some after) :
    Step layout trace after := by
  obtain ⟨-, allocator, performed, rfl⟩ := next_call step
  simp only [Allocator.next] at performed
  split at performed
  · cases performed
  · obtain rfl := Option.some.inj performed
    have begins := Allocator.beginRetire_spec ledger.formatted trace.allocator host object hostCount
    have unchanged : trace.allocator.retirement.current = trace.current := rfl
    have changed : (Allocator.startedControl trace.allocator host object hostCount).current ≠
        trace.current := Allocator.startedControl_ne trace.allocator host object hostCount
    simp only [record]
    generalize (Allocator.beginRetire layout trace.allocator host object hostCount).1 = result
      at begins ⊢
    generalize (Allocator.beginRetire layout trace.allocator host object hostCount).2 = allocator
      at begins ⊢
    cases begins with
    | refuses status =>
        rw [if_pos unchanged]
        exact .stays trace.allocator rfl
    | resumes =>
        rw [if_pos unchanged]
        exact .issues
    | waits starts =>
        rw [if_neg changed]
        exact .starts host object hostCount _ trace.issued starts rfl fun _ old => .inr old
    | starts starts =>
        rw [if_neg changed]
        exact .starts host object hostCount _ _ starts rfl fun _ member => List.mem_cons.mp member

theorem step_acknowledgeRetirement {trace after : RetirementTrace}
    (ledger : Allocator.Ledger layout trace.allocator) {snapshot : RetirementSnapshot}
    {host : HostId} {cursors : HostId → Nat}
    (step : next layout trace (.call (.acknowledgeRetirement snapshot host cursors)) = some after) :
    Step layout trace after := by
  obtain ⟨member, allocator, performed, rfl⟩ := next_call step
  simp only [Allocator.next] at performed
  split at performed
  · cases performed
  · obtain rfl := Option.some.inj performed
    have acknowledges := Allocator.acknowledgeRetirement_spec ledger.formatted trace.allocator
      snapshot host cursors
    have named := @current_of_accepted layout trace.allocator snapshot host cursors
    simp only [record]
    generalize (Allocator.acknowledgeRetirement layout trace.allocator snapshot host cursors).1 =
      result at acknowledges named ⊢
    generalize (Allocator.acknowledgeRetirement layout trace.allocator snapshot host cursors).2 =
      allocator at acknowledges ⊢
    cases acknowledges with
    | unchanged status passive =>
        by_cases ok : status = .ok
        · subst ok
          rw [if_pos rfl]
          refine .ignores host cursors ?_
          rw [current, (named rfl).phase]
          exact passive rfl
        · rw [if_neg fun same => ok (Option.some.inj same)]
          exact .stays trace.allocator rfl
    | waits =>
        rw [if_neg (by simp)]
        exact .stays _ rfl
    | closes here phase =>
        have now : trace.current.phase = .closing := here.phase.trans phase
        rw [if_pos rfl, now]
        exact .closes snapshot host cursors _ member here now rfl
    | drains here phase reached =>
        have now : trace.current.phase = .draining := here.phase.trans phase
        rw [if_pos rfl, now]
        exact .drains snapshot host cursors _ member here now reached rfl
    | cleans here phase =>
        have now : trace.current.phase = .cleaning := here.phase.trans phase
        rw [if_pos rfl, now]
        exact .cleans snapshot host cursors _ member here now rfl

theorem step_free {trace after : RetirementTrace}
    (ledger : Allocator.Ledger layout trace.allocator) {host : HostId} {object : GlobalPointer}
    (step : next layout trace (.call (.free host object)) = some after) :
    Step layout trace after := by
  obtain ⟨-, allocator, performed, rfl⟩ := next_call step
  simp only [Allocator.next] at performed
  split at performed
  · cases performed
  · obtain rfl := Option.some.inj performed
    simp only [record]
    rcases ledger.free_cases host object with
      ⟨-, status, failed, result⟩ | ⟨slot, extents, ready, -, -, result⟩
    · rw [result]
      rw [if_neg (by rintro rfl; cases failed)]
      exact .stays trace.allocator rfl
    · rw [result, if_pos rfl]
      exact .ends _ ready.phase rfl

theorem step_of_next {trace after : RetirementTrace}
    (ledger : Allocator.Ledger layout trace.allocator) {label : Label}
    (step : next layout trace label = some after) : Step layout trace after := by
  cases label with
  | retirement =>
      simp only [next] at step
      split at step
      · cases step
      · obtain rfl := Option.some.inj step
        exact .issues
  | call label =>
      cases label with
      | beginRetire => exact step_beginRetire ledger step
      | acknowledgeRetirement => exact step_acknowledgeRetirement ledger step
      | free => exact step_free ledger step
      | _ =>
          obtain ⟨-, allocator, performed, rfl⟩ := next_call step
          exact .stays allocator
            (retirement_eq ledger performed (by simp) (by simp) (by simp))

end Steps

end RetirementTrace
end Cxloom.LoomMem
