import Cxloom.Common
import Cxloom.Run
import Mathlib.Data.List.Basic

/-!
# Migration transactions

`MigrationTransaction` is the record that a thread's home host keeps of its execution authority.
A transaction epoch is allocated by every `Begin`; the execution epoch follows it only at a commit.
Calls may repeat, arrive late or name a foreign host, so every call is checked against the current
epoch and phase.
-/

namespace Cxloom.LoomPar

/-- The largest transaction epoch. -/
def maxMigrationEpoch : Nat := 2 ^ 64 - 1

/-- Progress of a transaction. -/
inductive MigrationPhase
  | idle
  | requested
  | quiesced
  | prepared
  | committed
  | aborted
deriving DecidableEq, Repr

/-- The home host's record of one thread. -/
structure MigrationTransaction where
  /-- Host with the execution authority. -/
  owner : Nat
  /-- Owner at the last accepted `Begin`. -/
  source : Nat
  /-- Destination of the last accepted `Begin`. -/
  target : Nat
  /-- Number of configured hosts. -/
  hosts : Nat
  epoch : Nat
  /-- Epoch of the last commit. -/
  executionEpoch : Nat
  /-- Progress of the transaction. -/
  phase : MigrationPhase
deriving DecidableEq, Repr

/-- One call on a transaction. -/
inductive MigrationCall
  | begin (target : Nat)
  | quiesced (source epoch : Nat)
  | prepared (target epoch : Nat)
  | commit (epoch : Nat)
  | resumed (target epoch : Nat)
  | abort (epoch : Nat)
deriving DecidableEq, Repr

/-- What a call returns: the epoch allocated by `Begin`, or a status. -/
inductive MigrationReply
  | began (epoch : Nat)
  | answered (status : Status)
deriving DecidableEq, Repr

/-- Whether a call was accepted. -/
def MigrationReply.accepted : MigrationReply → Bool
  | .began _ => true
  | .answered status => status.isOk

namespace MigrationTransaction

/-- The record of a thread that was never migrated. -/
def initial (owner hosts : Nat) : MigrationTransaction := ⟨owner, 0, 0, hosts, 0, 0, .idle⟩

/-- Open a transaction with a fresh epoch. -/
def begin (transaction : MigrationTransaction) (target : Nat) :
    MigrationReply × MigrationTransaction :=
  if transaction.hosts ≤ transaction.owner ∨ transaction.hosts ≤ target ∨
      target = transaction.owner then
    (.answered (.invalidArgument "migration requires distinct valid hosts"), transaction)
  else if transaction.phase ≠ .idle ∧ transaction.phase ≠ .aborted then
    (.answered (.failedPrecondition "migration already active"), transaction)
  else if transaction.epoch = maxMigrationEpoch then
    (.answered (.unavailable "migration epoch exhausted"), transaction)
  else
    (.began (transaction.epoch + 1),
      { transaction with
        source := transaction.owner
        target := target
        phase := .requested
        epoch := transaction.epoch + 1 })

/-- The source has stopped. -/
def quiesced (transaction : MigrationTransaction) (source epoch : Nat) :
    MigrationReply × MigrationTransaction :=
  if epoch ≠ transaction.epoch ∨ source ≠ transaction.source then
    (.answered (.failedPrecondition "stale or foreign quiescence"), transaction)
  else if transaction.phase = .quiesced ∨ transaction.phase = .prepared then
    (.answered .ok, transaction)
  else if transaction.phase ≠ .requested then
    (.answered (.failedPrecondition "unexpected quiescence"), transaction)
  else (.answered .ok, { transaction with phase := .quiesced })

/-- The destination is ready. -/
def prepared (transaction : MigrationTransaction) (target epoch : Nat) :
    MigrationReply × MigrationTransaction :=
  if epoch ≠ transaction.epoch ∨ target ≠ transaction.target then
    (.answered (.failedPrecondition "stale or foreign preparation"), transaction)
  else if transaction.phase = .prepared then (.answered .ok, transaction)
  else if transaction.phase ≠ .quiesced then
    (.answered (.failedPrecondition "source is not quiescent"), transaction)
  else (.answered .ok, { transaction with phase := .prepared })

/-- Move the authority. -/
def commit (transaction : MigrationTransaction) (epoch : Nat) :
    MigrationReply × MigrationTransaction :=
  if epoch ≠ transaction.epoch then
    (.answered (.failedPrecondition "stale commit"), transaction)
  else if transaction.phase = .committed then (.answered .ok, transaction)
  else if transaction.phase ≠ .prepared then
    (.answered (.failedPrecondition "destination is not prepared"), transaction)
  else
    (.answered .ok,
      { transaction with
        owner := transaction.target
        executionEpoch := transaction.epoch
        phase := .committed })

/-- The destination runs. -/
def resumed (transaction : MigrationTransaction) (target epoch : Nat) :
    MigrationReply × MigrationTransaction :=
  if epoch ≠ transaction.epoch ∨ target ≠ transaction.owner ∨ transaction.phase ≠ .committed then
    (.answered (.failedPrecondition "unexpected resume acknowledgement"), transaction)
  else (.answered .ok, { transaction with phase := .idle })

def abort (transaction : MigrationTransaction) (epoch : Nat) :
    MigrationReply × MigrationTransaction :=
  if epoch ≠ transaction.epoch ∨ transaction.phase = .committed ∨ transaction.phase = .idle then
    (.answered (.failedPrecondition "cannot abort this transaction"), transaction)
  else (.answered .ok, { transaction with phase := .aborted })

def acceptsCompletion (transaction : MigrationTransaction) (host executionEpoch : Nat) : Bool :=
  host = transaction.owner ∧ executionEpoch = transaction.executionEpoch ∧
    (transaction.phase = .idle ∨ transaction.phase = .requested ∨ transaction.phase = .aborted ∨
      transaction.phase = .committed)

def perform (transaction : MigrationTransaction) :
    MigrationCall → MigrationReply × MigrationTransaction
  | .begin target => transaction.begin target
  | .quiesced source epoch => transaction.quiesced source epoch
  | .prepared target epoch => transaction.prepared target epoch
  | .commit epoch => transaction.commit epoch
  | .resumed target epoch => transaction.resumed target epoch
  | .abort epoch => transaction.abort epoch

/-- Everything a call can do. -/
inductive Outcome (transaction : MigrationTransaction) :
    MigrationCall → MigrationReply × MigrationTransaction → Prop
  | rejected (call : MigrationCall) (status : Status) (failed : status.isOk = false) :
      Outcome transaction call (.answered status, transaction)
  | began (target : Nat) (distinct : target ≠ transaction.owner)
      (ready : transaction.phase = .idle ∨ transaction.phase = .aborted) :
      Outcome transaction (.begin target)
        (.began (transaction.epoch + 1),
          { transaction with
            source := transaction.owner
            target := target
            phase := .requested
            epoch := transaction.epoch + 1 })
  | quiesced (active : transaction.phase = .requested) :
      Outcome transaction (.quiesced transaction.source transaction.epoch)
        (.answered .ok, { transaction with phase := .quiesced })
  | quiescedAgain (active : transaction.phase = .quiesced ∨ transaction.phase = .prepared) :
      Outcome transaction (.quiesced transaction.source transaction.epoch)
        (.answered .ok, transaction)
  | prepared (active : transaction.phase = .quiesced) :
      Outcome transaction (.prepared transaction.target transaction.epoch)
        (.answered .ok, { transaction with phase := .prepared })
  | preparedAgain (active : transaction.phase = .prepared) :
      Outcome transaction (.prepared transaction.target transaction.epoch)
        (.answered .ok, transaction)
  | committed (active : transaction.phase = .prepared) :
      Outcome transaction (.commit transaction.epoch)
        (.answered .ok,
          { transaction with
            owner := transaction.target
            executionEpoch := transaction.epoch
            phase := .committed })
  | committedAgain (active : transaction.phase = .committed) :
      Outcome transaction (.commit transaction.epoch) (.answered .ok, transaction)
  | resumed (active : transaction.phase = .committed) :
      Outcome transaction (.resumed transaction.owner transaction.epoch)
        (.answered .ok, { transaction with phase := .idle })
  | aborted (active : transaction.phase ≠ .committed ∧ transaction.phase ≠ .idle) :
      Outcome transaction (.abort transaction.epoch)
        (.answered .ok, { transaction with phase := .aborted })

theorem begin_outcome (transaction : MigrationTransaction) (target : Nat) :
    Outcome transaction (.begin target) (transaction.begin target) := by
  rw [begin]
  split
  · exact .rejected _ _ rfl
  · rename_i valid
    split
    · exact .rejected _ _ rfl
    · rename_i ready
      split
      · exact .rejected _ _ rfl
      · refine .began target (fun same => valid (.inr (.inr same))) ?_
        by_contra neither
        exact ready (not_or.mp neither)

theorem quiesced_outcome (transaction : MigrationTransaction) (source epoch : Nat) :
    Outcome transaction (.quiesced source epoch) (transaction.quiesced source epoch) := by
  rw [quiesced]
  split
  · exact .rejected _ _ rfl
  · rename_i current
    simp only [not_or, not_not] at current
    obtain ⟨rfl, rfl⟩ := current
    split
    · rename_i again
      exact .quiescedAgain again
    · split
      · exact .rejected _ _ rfl
      · rename_i active
        exact .quiesced (not_not.mp active)

theorem prepared_outcome (transaction : MigrationTransaction) (target epoch : Nat) :
    Outcome transaction (.prepared target epoch) (transaction.prepared target epoch) := by
  rw [prepared]
  split
  · exact .rejected _ _ rfl
  · rename_i current
    simp only [not_or, not_not] at current
    obtain ⟨rfl, rfl⟩ := current
    split
    · rename_i again
      exact .preparedAgain again
    · split
      · exact .rejected _ _ rfl
      · rename_i active
        exact .prepared (not_not.mp active)

theorem commit_outcome (transaction : MigrationTransaction) (epoch : Nat) :
    Outcome transaction (.commit epoch) (transaction.commit epoch) := by
  rw [commit]
  split
  · exact .rejected _ _ rfl
  · rename_i current
    obtain rfl := not_not.mp current
    split
    · rename_i again
      exact .committedAgain again
    · split
      · exact .rejected _ _ rfl
      · rename_i active
        exact .committed (not_not.mp active)

theorem resumed_outcome (transaction : MigrationTransaction) (target epoch : Nat) :
    Outcome transaction (.resumed target epoch) (transaction.resumed target epoch) := by
  rw [resumed]
  split
  · exact .rejected _ _ rfl
  · rename_i current
    simp only [not_or, not_not] at current
    obtain ⟨rfl, rfl, active⟩ := current
    exact .resumed active

theorem abort_outcome (transaction : MigrationTransaction) (epoch : Nat) :
    Outcome transaction (.abort epoch) (transaction.abort epoch) := by
  rw [abort]
  split
  · exact .rejected _ _ rfl
  · rename_i current
    simp only [not_or, not_not] at current
    obtain ⟨rfl, active⟩ := current
    exact .aborted active

theorem perform_outcome (transaction : MigrationTransaction) (call : MigrationCall) :
    Outcome transaction call (transaction.perform call) := by
  cases call with
  | begin target => exact transaction.begin_outcome target
  | quiesced source epoch => exact transaction.quiesced_outcome source epoch
  | prepared target epoch => exact transaction.prepared_outcome target epoch
  | commit epoch => exact transaction.commit_outcome epoch
  | resumed target epoch => exact transaction.resumed_outcome target epoch
  | abort epoch => exact transaction.abort_outcome epoch

theorem perform_rejected {transaction : MigrationTransaction} {call : MigrationCall}
    (rejected : (transaction.perform call).1.accepted = false) :
    (transaction.perform call).2 = transaction := by
  have outcome := transaction.perform_outcome call
  generalize transaction.perform call = result at outcome rejected ⊢
  cases outcome <;> first | rfl | simp [MigrationReply.accepted] at rejected

theorem acceptsCompletion_eq {transaction : MigrationTransaction} {host executionEpoch : Nat}
    (accepts : transaction.acceptsCompletion host executionEpoch = true) :
    host = transaction.owner ∧ executionEpoch = transaction.executionEpoch := by
  simp only [acceptsCompletion, decide_eq_true_eq] at accepts
  exact ⟨accepts.1, accepts.2.1⟩

/-- Nobody is heard between quiescence and the commit. -/
theorem acceptsCompletion_stopped {transaction : MigrationTransaction}
    (stopped : transaction.phase = .quiesced ∨ transaction.phase = .prepared)
    (host executionEpoch : Nat) :
    transaction.acceptsCompletion host executionEpoch = false := by
  rcases stopped with phase | phase <;> simp [acceptsCompletion, phase]

end MigrationTransaction

/-! ## Histories -/

/-- A call and its reply. -/
structure MigrationEvent where
  call : MigrationCall
  reply : MigrationReply
deriving DecidableEq, Repr

/-- A transaction record with the calls made on it. -/
structure MigrationLog where
  /-- The record. -/
  transaction : MigrationTransaction
  /-- Every call so far, oldest first. -/
  events : List MigrationEvent
deriving DecidableEq, Repr

namespace MigrationLog

/-- No call yet. -/
def initial (owner hosts : Nat) : MigrationLog := ⟨.initial owner hosts, []⟩

def after (log : MigrationLog) (call : MigrationCall) : MigrationLog :=
  let result := log.transaction.perform call
  ⟨result.2, log.events ++ [⟨call, result.1⟩]⟩

/-- Every call can be made in every state. -/
def next (log : MigrationLog) (call : MigrationCall) : Option MigrationLog := some (log.after call)

/-- The epochs that `Begin` has returned, oldest first. -/
def begunEpochs (events : List MigrationEvent) : List Nat :=
  events.filterMap fun event =>
    match event.reply with
    | .began epoch => some epoch
    | .answered _ => none

def Committed (events : List MigrationEvent) (epoch : Nat) : Prop :=
  ⟨.commit epoch, .answered .ok⟩ ∈ events

def opened (target epoch : Nat) : List MigrationEvent := [⟨.begin target, .began epoch⟩]

/-- A transaction was opened and its source stopped. -/
def stopped (owner target epoch : Nat) : List MigrationEvent :=
  opened target epoch ++ [⟨.quiesced owner epoch, .answered .ok⟩]

/-- A transaction was opened, its source stopped and its destination became ready. -/
def readied (owner target epoch : Nat) : List MigrationEvent :=
  stopped owner target epoch ++ [⟨.prepared target epoch, .answered .ok⟩]

/-- The part of the history that each phase rests on. -/
def evidence (transaction : MigrationTransaction) : List MigrationEvent :=
  match transaction.phase with
  | .requested => opened transaction.target transaction.epoch
  | .quiesced => stopped transaction.owner transaction.target transaction.epoch
  | .prepared => readied transaction.owner transaction.target transaction.epoch
  | .idle | .committed | .aborted => []

/-- A transaction that was opened and neither committed nor aborted. -/
def Active (transaction : MigrationTransaction) : Prop :=
  transaction.phase = .requested ∨ transaction.phase = .quiesced ∨ transaction.phase = .prepared

/-- What every history satisfies. -/
structure LogInv (log : MigrationLog) : Prop where
  bounded : log.transaction.executionEpoch ≤ log.transaction.epoch
  /-- An active transaction has a fresh epoch and left its owner in place. -/
  active : Active log.transaction →
    log.transaction.executionEpoch < log.transaction.epoch ∧
      log.transaction.source = log.transaction.owner ∧
      log.transaction.target ≠ log.transaction.owner
  current : log.transaction.phase = .committed →
    log.transaction.executionEpoch = log.transaction.epoch
  /-- The phase rests on accepted calls. -/
  justified : (evidence log.transaction).Sublist log.events
  allocated : ∀ epoch ∈ begunEpochs log.events, epoch ≤ log.transaction.epoch
  increasing : (begunEpochs log.events).Pairwise (· < ·)
  committed : ∀ epoch, Committed log.events epoch → epoch ≤ log.transaction.executionEpoch

theorem initial_inv (owner hosts : Nat) : LogInv (initial owner hosts) := by
  constructor <;>
    simp [initial, MigrationTransaction.initial, Active, evidence, begunEpochs, Committed]

theorem begunEpochs_append (events : List MigrationEvent) (event : MigrationEvent) :
    begunEpochs (events ++ [event]) = begunEpochs events ++ begunEpochs [event] := by
  simp [begunEpochs]

theorem committed_append {events : List MigrationEvent} {event : MigrationEvent} {epoch : Nat} :
    Committed (events ++ [event]) epoch ↔
      Committed events epoch ∨ event = ⟨.commit epoch, .answered .ok⟩ := by
  simp only [Committed, List.mem_append, List.mem_singleton, eq_comm]

/-- A call that allocates and commits nothing keeps the epochs. -/
theorem LogInv.quiet {log : MigrationLog} (inv : LogInv log) {transaction : MigrationTransaction}
    {event : MigrationEvent} (epoch : transaction.epoch = log.transaction.epoch)
    (executionEpoch : transaction.executionEpoch = log.transaction.executionEpoch)
    (answered : ∃ status, event.reply = .answered status)
    (committing : ∀ epoch, event = ⟨.commit epoch, .answered .ok⟩ →
      epoch ≤ log.transaction.executionEpoch)
    (active : Active transaction → Active log.transaction ∧
      transaction.source = log.transaction.source ∧ transaction.target = log.transaction.target ∧
      transaction.owner = log.transaction.owner)
    (current : transaction.phase = .committed → log.transaction.phase = .committed)
    (justified : (evidence transaction).Sublist (log.events ++ [event])) :
    LogInv ⟨transaction, log.events ++ [event]⟩ := by
  obtain ⟨status, answered⟩ := answered
  have unchanged : begunEpochs (log.events ++ [event]) = begunEpochs log.events := by
    rw [begunEpochs_append]
    simp [begunEpochs, answered]
  constructor
  case bounded =>
    rw [epoch, executionEpoch]
    exact inv.bounded
  case active =>
    intro phase
    obtain ⟨before, source, target, owner⟩ := active phase
    simp only [epoch, executionEpoch, source, target, owner]
    exact inv.active before
  case current =>
    intro phase
    simp only [epoch, executionEpoch]
    exact inv.current (current phase)
  case justified => exact justified
  case allocated =>
    simp only [unchanged, epoch]
    exact inv.allocated
  case increasing =>
    simp only [unchanged]
    exact inv.increasing
  case committed =>
    intro epoch done
    simp only [executionEpoch]
    rcases committed_append.mp done with earlier | last
    · exact inv.committed epoch earlier
    · exact committing epoch last

/-- Every call keeps the invariant. -/
theorem LogInv.after {log : MigrationLog} (inv : LogInv log) (call : MigrationCall) :
    LogInv (log.after call) := by
  have outcome := log.transaction.perform_outcome call
  have kept : ∀ event, (evidence log.transaction).Sublist (log.events ++ [event]) :=
    fun event => inv.justified.trans (List.sublist_append_left _ _)
  simp only [MigrationLog.after]
  generalize log.transaction.perform call = result at outcome ⊢
  cases outcome with
  | rejected _ status failed =>
      refine inv.quiet rfl rfl ⟨status, rfl⟩ ?_ (fun active => ⟨active, rfl, rfl, rfl⟩) id (kept _)
      intro epoch same
      cases same
      simp at failed
  | began target distinct ready =>
      have fresh : begunEpochs [⟨.begin target, .began (log.transaction.epoch + 1)⟩] =
          [log.transaction.epoch + 1] := rfl
      constructor
      case bounded =>
        have bounded := inv.bounded
        simp only
        omega
      case active =>
        intro _
        exact ⟨Nat.lt_succ_of_le inv.bounded, rfl, distinct⟩
      case current => simp
      case justified => exact List.sublist_append_right _ _
      case allocated =>
        intro epoch member
        rw [begunEpochs_append, fresh] at member
        rcases List.mem_append.mp member with earlier | last
        · exact Nat.le_succ_of_le (inv.allocated epoch earlier)
        · exact (List.mem_singleton.mp last).le
      case increasing =>
        rw [begunEpochs_append, fresh]
        refine List.pairwise_append.mpr ⟨inv.increasing, List.pairwise_singleton _ _, ?_⟩
        intro epoch earlier last member
        rw [List.mem_singleton.mp member]
        exact Nat.lt_succ_of_le (inv.allocated epoch earlier)
      case committed =>
        intro epoch done
        rcases committed_append.mp done with earlier | last
        · exact inv.committed epoch earlier
        · simp at last
  | quiesced active =>
      refine inv.quiet rfl rfl ⟨_, rfl⟩
        (by simp) (fun _ => ⟨.inl active, rfl, rfl, rfl⟩) (by simp) ?_
      have opened := inv.justified
      simp only [evidence, active] at opened
      have source := (inv.active (.inl active)).2.1
      simp only [evidence, stopped, ← source]
      exact opened.append (List.Sublist.refl _)
  | quiescedAgain active =>
      exact inv.quiet rfl rfl ⟨_, rfl⟩ (by simp) (fun active => ⟨active, rfl, rfl, rfl⟩) id (kept _)
  | prepared active =>
      refine inv.quiet rfl rfl ⟨_, rfl⟩ (by simp) (fun _ => ⟨.inr (.inl active), rfl, rfl, rfl⟩)
        (by simp) ?_
      have stopped := inv.justified
      simp only [evidence, active] at stopped
      exact stopped.append (List.Sublist.refl _)
  | preparedAgain active =>
      exact inv.quiet rfl rfl ⟨_, rfl⟩ (by simp) (fun active => ⟨active, rfl, rfl, rfl⟩) id (kept _)
  | committed active =>
      obtain ⟨fresh, -, -⟩ := inv.active (.inr (.inr active))
      have unchanged : begunEpochs [⟨.commit log.transaction.epoch, .answered .ok⟩] = [] := rfl
      constructor
      case bounded => exact Nat.le_refl _
      case active => simp [Active]
      case current => simp
      case justified => simp [evidence]
      case allocated =>
        simp only [begunEpochs_append, unchanged, List.append_nil]
        exact inv.allocated
      case increasing =>
        simp only [begunEpochs_append, unchanged, List.append_nil]
        exact inv.increasing
      case committed =>
        intro epoch done
        rcases committed_append.mp done with earlier | last
        · exact (inv.committed epoch earlier).trans fresh.le
        · simp only [MigrationEvent.mk.injEq, MigrationCall.commit.injEq, and_true] at last
          exact last.ge
  | committedAgain active =>
      refine inv.quiet rfl rfl ⟨_, rfl⟩ ?_ (fun active => ⟨active, rfl, rfl, rfl⟩) id (kept _)
      intro epoch same
      simp only [MigrationEvent.mk.injEq, MigrationCall.commit.injEq, and_true] at same
      rw [← same, inv.current active]
  | resumed active | aborted active =>
      exact inv.quiet rfl rfl ⟨_, rfl⟩ (by simp) (by simp [Active]) (by simp) (by simp [evidence])

theorem reached_inv {owner hosts : Nat} {log : MigrationLog}
    (execution : Run.Reaches next (initial owner hosts) log) : LogInv log := by
  apply execution.preserves
  · exact initial_inv owner hosts
  · intro before call after inv _ performed
    obtain rfl := Option.some.inj performed
    exact inv.after call

/-- The execution epoch never decreases. -/
theorem executionEpoch_le {log later : MigrationLog} (inv : LogInv log)
    (execution : Run.Reaches next log later) :
    log.transaction.executionEpoch ≤ later.transaction.executionEpoch := by
  refine (execution.preserves
    (fun state => LogInv state ∧
      log.transaction.executionEpoch ≤ state.transaction.executionEpoch) ⟨inv, le_rfl⟩ ?_).2
  intro before call after ⟨reached, grown⟩ _ performed
  obtain rfl := Option.some.inj performed
  refine ⟨reached.after call, grown.trans ?_⟩
  have outcome := before.transaction.perform_outcome call
  simp only [MigrationLog.after]
  generalize before.transaction.perform call = result at outcome ⊢
  cases outcome <;> first | exact le_rfl | exact reached.bounded

/-- The authority moves only at a commit of a transaction that is ready. -/
theorem owner_moves {log : MigrationLog} {call : MigrationCall}
    (moved : (log.after call).transaction.owner ≠ log.transaction.owner) :
    call = .commit log.transaction.epoch ∧ log.transaction.phase = .prepared ∧
      (log.transaction.perform call).1 = .answered .ok ∧
      (log.after call).transaction.owner = log.transaction.target ∧
      (log.after call).transaction.executionEpoch = log.transaction.epoch := by
  have outcome := log.transaction.perform_outcome call
  simp only [MigrationLog.after] at moved ⊢
  generalize log.transaction.perform call = result at outcome moved ⊢
  cases outcome with
  | committed active => exact ⟨rfl, active, rfl, rfl, rfl⟩
  | rejected | began | quiesced | quiescedAgain | prepared | preparedAgain | committedAgain |
      resumed | aborted => exact absurd rfl moved

/-- A history has a single execution authority: rejected calls change nothing, epochs increase, the
owner moves only at the first commit of a transaction that was opened, stopped and readied in that
order, at most one completion is accepted, and a superseded one never is. -/
theorem single_execution_authority {owner hosts : Nat} {log : MigrationLog}
    (execution : Run.Reaches next (initial owner hosts) log) :
    (∀ call, (log.transaction.perform call).1.accepted = false →
      (log.after call).transaction = log.transaction) ∧
    (begunEpochs log.events).Pairwise (· < ·) ∧
    (∀ call, (log.after call).transaction.owner ≠ log.transaction.owner →
      ∃ target epoch, call = .commit epoch ∧
        (log.transaction.perform call).1 = .answered .ok ∧ ¬Committed log.events epoch ∧
        (readied log.transaction.owner target epoch).Sublist log.events ∧
        (log.after call).transaction.owner = target) ∧
    (∀ host executionEpoch host' executionEpoch',
      log.transaction.acceptsCompletion host executionEpoch = true →
      log.transaction.acceptsCompletion host' executionEpoch' = true →
      host = host' ∧ executionEpoch = executionEpoch') ∧
    (log.transaction.phase = .quiesced ∨ log.transaction.phase = .prepared →
      ∀ host executionEpoch, log.transaction.acceptsCompletion host executionEpoch = false) ∧
    (∀ call, (log.after call).transaction.owner ≠ log.transaction.owner →
      ∀ later, Run.Reaches next (log.after call) later →
        later.transaction.acceptsCompletion log.transaction.owner
          log.transaction.executionEpoch = false) := by
  have inv := reached_inv execution
  refine ⟨?_, inv.increasing, ?_, ?_, ?_, ?_⟩
  · intro call rejected
    exact MigrationTransaction.perform_rejected rejected
  · intro call moved
    obtain ⟨same, active, accepted, owner, -⟩ := owner_moves moved
    refine ⟨_, _, same, accepted, ?_, ?_, owner⟩
    · intro earlier
      have below := inv.committed _ earlier
      have fresh := (inv.active (.inr (.inr active))).1
      omega
    · have justified := inv.justified
      simpa only [evidence, active] using justified
  · intro host executionEpoch host' executionEpoch' accepts accepts'
    obtain ⟨rfl, rfl⟩ := MigrationTransaction.acceptsCompletion_eq accepts
    obtain ⟨rfl, rfl⟩ := MigrationTransaction.acceptsCompletion_eq accepts'
    exact ⟨rfl, rfl⟩
  · exact MigrationTransaction.acceptsCompletion_stopped
  · intro call moved later continued
    obtain ⟨-, active, -, -, committed⟩ := owner_moves moved
    have fresh := (inv.active (.inr (.inr active))).1
    have grown := executionEpoch_le (inv.after call) continued
    by_contra accepts
    obtain ⟨-, same⟩ := MigrationTransaction.acceptsCompletion_eq (by simpa using accepts)
    omega

/-- A migration to host one that is aborted, one to host two that commits, and one that returns to
host zero. -/
def returningCalls : List MigrationCall :=
  [.begin 1, .quiesced 0 1, .abort 1, .begin 2, .quiesced 0 2, .prepared 2 2, .prepared 2 2,
    .commit 2, .resumed 2 2, .begin 0, .quiesced 2 3, .prepared 0 3]

/-- The authority leaves host zero and returns; the first residence is never heard again. -/
theorem single_execution_authority_returns :
    ∃ log, Run.runLabels next (initial 0 16) returningCalls = some log ∧
      begunEpochs log.events = [1, 2, 3] ∧ (begunEpochs log.events).Pairwise (· < ·) ∧
      (log.after (.commit 3)).transaction.owner = 0 ∧ log.transaction.owner = 2 ∧
      (log.after (.commit 3)).transaction.acceptsCompletion 0 3 = true ∧
      (log.after (.commit 3)).transaction.acceptsCompletion 2 2 = false := by
  have outcome : (Run.runLabels next (initial 0 16) returningCalls).any (fun log =>
      begunEpochs log.events = [1, 2, 3] ∧ (log.after (.commit 3)).transaction.owner = 0 ∧
        log.transaction.owner = 2 ∧ log.transaction.executionEpoch = 2 ∧
        (log.after (.commit 3)).transaction.acceptsCompletion 0 3 = true) = true := by
    decide
  obtain ⟨log, execution, facts⟩ := (Option.any_eq_true _ _).mp outcome
  obtain ⟨epochs, owner, before, superseded, accepts⟩ := of_decide_eq_true facts
  obtain ⟨-, increasing, -, -, -, final⟩ :=
    single_execution_authority (Run.reaches_of_runLabels execution)
  have moved : (log.after (.commit 3)).transaction.owner ≠ log.transaction.owner := by
    rw [owner, before]
    decide
  have silent := final _ moved _ .refl
  rw [before, superseded] at silent
  exact ⟨log, execution, epochs, increasing, owner, before, accepts, silent⟩

end MigrationLog
end Cxloom.LoomPar
