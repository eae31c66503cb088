import Cxloom.Run
import Mathlib.Data.List.Nodup
import Mathlib.Logic.Function.Basic

/-!
# Cooperative condition variables

`CooperativeCondition`: callers of `wait_until` register in a queue before they release their mutex,
wait natively or parked as a fiber, and take their result when they leave the queue.  `Notify` holds
the mutex of the queue but looks at the clock anew for every waiter, so a deadline can pass between
any two of its iterations.
-/

namespace Cxloom

/-- Where a call of `wait_until` is. -/
inductive WaitPoint
  /-- Not called. -/
  | idle
  /-- Called, with the caller's mutex. -/
  | entered
  /-- In the queue, still with the caller's mutex. -/
  | registered
  /-- Waiting without the caller's mutex. -/
  | waiting
  /-- Done waiting, still in the queue. -/
  | leaving
  /-- Out of the queue with its result, without the caller's mutex. -/
  | left (signaled : Bool)
  | returned (signaled : Bool)
deriving DecidableEq, Repr

/-- A call of `wait_until`. -/
structure WaitCall where
  /-- Where the call is. -/
  point : WaitPoint
  /-- Whether the caller waits natively. -/
  native : Bool
  /-- A notification selected the call. -/
  ready : Bool
  /-- The deadline has passed. -/
  expired : Bool
deriving DecidableEq, Repr

/-- Whether a notification would select a call. -/
def WaitCall.isOpen (call : WaitCall) : Bool :=
  !call.ready && !call.expired

/-- A call of `Notify`. -/
structure Notification where
  /-- Whether it wakes everyone. -/
  all : Bool
  /-- The registered calls that were neither selected nor expired when it began, oldest first. -/
  candidates : List Nat
  /-- The calls that it selected. -/
  chosen : List Nat
deriving DecidableEq, Repr

/-- The holder of the callers' mutex. -/
inductive MutexHolder
  /-- A call of `wait_until`. -/
  | waiter (id : Nat)
  /-- Anyone else. -/
  | other (agent : Nat)
deriving DecidableEq, Repr

/-- A condition variable, the mutex of its callers and what has happened. -/
structure CooperativeCondition where
  /-- Calls of `wait_until`. -/
  calls : Nat → WaitCall
  /-- The queue, oldest first. -/
  waiters : List Nat
  /-- A running `Notify` and the part of the queue that it has not examined. -/
  scan : Option (Notification × List Nat)
  mutex : Option MutexHolder
  notifications : List Notification
  selected : List Nat

namespace CooperativeCondition

/-- One step. -/
inductive Label
  /-- Call `wait_until` with the mutex. -/
  | enter (agent id : Nat) (native : Bool)
  /-- Call `wait_until` again with the mutex of a call that returned. -/
  | reenter (id other : Nat) (native : Bool)
  | register (id : Nat)
  | release (id : Nat)
  /-- The wait is over. -/
  | wake (id : Nat)
  /-- Take the result and leave the queue. -/
  | leave (id : Nat)
  /-- Take the mutex and return. -/
  | reacquire (id : Nat)
  /-- A caller whose call returned releases the mutex. -/
  | depart (id : Nat)
  /-- Anyone else takes the mutex. -/
  | lock (agent : Nat)
  /-- Anyone else releases the mutex. -/
  | unlock (agent : Nat)
  /-- A deadline passes. -/
  | expire (id : Nat)
  /-- `Notify` begins. -/
  | notify (all : Bool)
  /-- `Notify` examines the next waiter. -/
  | examine
  /-- `Notify` ends. -/
  | finish

/-- Nothing has happened. -/
def initial : CooperativeCondition where
  calls _ := ⟨.idle, false, false, false⟩
  waiters := []
  scan := none
  mutex := none
  notifications := []
  selected := []

/-- Change a call. -/
def modify (condition : CooperativeCondition) (id : Nat) (call : WaitCall) : CooperativeCondition :=
  { condition with calls := Function.update condition.calls id call }

def goto (condition : CooperativeCondition) (id : Nat) (point : WaitPoint) :
    CooperativeCondition :=
  condition.modify id { condition.calls id with point := point }

/-- The state after `Notify` selected a waiter. -/
def select (condition : CooperativeCondition) (notification : Notification) (id : Nat)
    (rest : List Nat) : CooperativeCondition :=
  { condition.modify id { condition.calls id with ready := true } with
    scan := some
      ({ notification with chosen := notification.chosen ++ [id] },
        if notification.all then rest else [])
    selected := condition.selected ++ [id] }

/-- Perform one step. -/
def next (condition : CooperativeCondition) : Label → Option CooperativeCondition
  | .enter agent id native =>
      if (condition.calls id).point = .idle ∧ condition.mutex = some (.other agent) then
        some
          { condition.modify id { condition.calls id with point := .entered, native := native } with
            mutex := some (.waiter id) }
      else none
  | .reenter id other native =>
      match (condition.calls id).point with
      | .returned _ =>
          if condition.mutex = some (.waiter id) ∧ (condition.calls other).point = .idle then
            some
              { condition.modify other
                  { condition.calls other with point := .entered, native := native } with
                mutex := some (.waiter other) }
          else none
      | _ => none
  | .register id =>
      if (condition.calls id).point = .entered ∧ condition.scan = none then
        some { condition.goto id .registered with waiters := condition.waiters ++ [id] }
      else none
  | .release id =>
      if (condition.calls id).point = .registered then
        some { condition.goto id .waiting with mutex := none }
      else none
  | .wake id =>
      if (condition.calls id).point = .waiting ∧
          ((condition.calls id).ready ∨ (condition.calls id).expired) ∧
          ((condition.calls id).native → condition.scan = none) then
        some (condition.goto id .leaving)
      else none
  | .leave id =>
      if (condition.calls id).point = .leaving ∧ condition.scan = none then
        some
          { condition.goto id (.left (condition.calls id).ready) with
            waiters := condition.waiters.erase id }
      else none
  | .reacquire id =>
      match (condition.calls id).point with
      | .left signaled =>
          if condition.mutex = none then
            some { condition.goto id (.returned signaled) with mutex := some (.waiter id) }
          else none
      | _ => none
  | .depart id =>
      match (condition.calls id).point with
      | .returned _ =>
          if condition.mutex = some (.waiter id) then some { condition with mutex := none }
          else none
      | _ => none
  | .lock agent =>
      if condition.mutex = none then some { condition with mutex := some (.other agent) } else none
  | .unlock agent =>
      if condition.mutex = some (.other agent) then some { condition with mutex := none } else none
  | .expire id => some (condition.modify id { condition.calls id with expired := true })
  | .notify all =>
      if condition.scan = none then
        some
          { condition with
            scan := some
              (⟨all, condition.waiters.filter fun id => (condition.calls id).isOpen, []⟩,
                condition.waiters) }
      else none
  | .examine =>
      match condition.scan with
      | some (notification, id :: rest) =>
          if (condition.calls id).isOpen then some (condition.select notification id rest)
          else some { condition with scan := some (notification, rest) }
      | _ => none
  | .finish =>
      match condition.scan with
      | some (notification, []) =>
          some
            { condition with
              scan := none
              notifications := condition.notifications ++ [notification] }
      | _ => none

/-- Whether a call is in the queue by where it is. -/
def queued : WaitPoint → Bool
  | .registered | .waiting | .leaving => true
  | _ => false

/-- What a notification selects from its candidates: it passes over those whose deadline has
passed meanwhile, and takes the first other one, or all of them. -/
inductive Selects (expired : Nat → Prop) (all : Bool) : List Nat → List Nat → Prop
  | nil : Selects expired all [] []
  | skip {id : Nat} {rest chosen : List Nat} (late : expired id)
      (later : Selects expired all rest chosen) : Selects expired all (id :: rest) chosen
  | one {id : Nat} {rest : List Nat} (single : all = false) : Selects expired all (id :: rest) [id]
  | more {id : Nat} {rest chosen : List Nat} (every : all = true)
      (later : Selects expired all rest chosen) : Selects expired all (id :: rest) (id :: chosen)

theorem Selects.mono {expired expired' : Nat → Prop} {all : Bool} {candidates chosen : List Nat}
    (selects : Selects expired all candidates chosen) (still : ∀ id, expired id → expired' id) :
    Selects expired' all candidates chosen := by
  induction selects with
  | nil => exact .nil
  | skip late _ induction => exact .skip (still _ late) induction
  | one single => exact .one single
  | more every _ induction => exact .more every induction

/-- Nothing but candidates is selected, in their order. -/
theorem Selects.sublist {expired : Nat → Prop} {all : Bool} {candidates chosen : List Nat}
    (selects : Selects expired all candidates chosen) : chosen.Sublist candidates := by
  induction selects with
  | nil => exact List.Sublist.refl _
  | skip _ _ induction => exact induction.cons _
  | one _ => exact (List.nil_sublist _).cons_cons _
  | more _ _ induction => exact induction.cons_cons _

/-- `notify_all` selects every candidate whose deadline has not passed. -/
theorem Selects.every {expired : Nat → Prop} {all : Bool} {candidates chosen : List Nat}
    (selects : Selects expired all candidates chosen) (everyone : all = true) :
    ∀ id ∈ candidates, id ∈ chosen ∨ expired id := by
  induction selects with
  | nil => simp
  | skip late _ induction =>
      intro id member
      rcases List.mem_cons.1 member with rfl | later
      · exact .inr late
      · exact induction id later
  | one single => simp [everyone] at single
  | more _ _ induction =>
      intro id member
      rcases List.mem_cons.1 member with rfl | later
      · exact .inl List.mem_cons_self
      · exact (induction id later).imp_left (List.mem_cons_of_mem _)

/-- `notify_one` selects the oldest candidate whose deadline has not passed, if there is one. -/
theorem Selects.first {expired : Nat → Prop} {all : Bool} {candidates chosen : List Nat}
    (selects : Selects expired all candidates chosen) (single : all = false) :
    (chosen = [] ∧ ∀ id ∈ candidates, expired id) ∨
      ∃ passed id rest, candidates = passed ++ id :: rest ∧ chosen = [id] ∧
        ∀ earlier ∈ passed, expired earlier := by
  induction selects with
  | nil => simp
  | @skip id rest chosen late _ induction =>
      rcases induction with ⟨empty, expired⟩ | ⟨passed, picked, later, split, only, expired⟩
      · exact .inl ⟨empty, List.forall_mem_cons.2 ⟨late, expired⟩⟩
      · exact .inr ⟨id :: passed, picked, later, by simp [split], only,
          List.forall_mem_cons.2 ⟨late, expired⟩⟩
  | @one id rest _ => exact .inr ⟨[], id, rest, rfl, rfl, by simp⟩
  | more every => simp [single] at every

/-- What holds of one call. -/
structure CallFits (condition : CooperativeCondition) (id : Nat) : Prop where
  queue : id ∈ condition.waiters ↔ queued (condition.calls id).point
  selected : id ∈ condition.selected ↔ (condition.calls id).ready
  result : ∀ signaled, (condition.calls id).point = .left signaled ∨
    (condition.calls id).point = .returned signaled → (condition.calls id).ready = signaled
  fresh : (condition.calls id).point = .idle ∨ (condition.calls id).point = .entered →
    (condition.calls id).ready = false
  holds : (condition.calls id).point = .entered ∨ (condition.calls id).point = .registered →
    condition.mutex = some (.waiter id)

/-- What a step leaves alone still fits. -/
theorem CallFits.frame {before after : CooperativeCondition} {id : Nat}
    (fits : before.CallFits id) (calls : after.calls id = before.calls id)
    (waiters : id ∈ after.waiters ↔ id ∈ before.waiters)
    (selected : id ∈ after.selected ↔ id ∈ before.selected)
    (mutex : (before.calls id).point = .entered ∨ (before.calls id).point = .registered →
      before.mutex = some (.waiter id) → after.mutex = some (.waiter id)) :
    after.CallFits id where
  queue := by rw [waiters, calls]; exact fits.queue
  selected := by rw [selected, calls]; exact fits.selected
  result := by rw [calls]; exact fits.result
  fresh := by rw [calls]; exact fits.fresh
  holds := by
    rw [calls]
    intro point
    exact mutex point (fits.holds point)

/-- The deadline of a call has passed. -/
def late (condition : CooperativeCondition) (id : Nat) : Prop :=
  (condition.calls id).expired = true

theorem late_goto (condition : CooperativeCondition) (id : Nat) (point : WaitPoint) (other : Nat) :
    (condition.goto id point).late other ↔ condition.late other := by
  by_cases same : other = id
  · subst same
    simp [goto, modify, late]
  · simp [goto, modify, late, same]

/-- What holds of a running `Notify`. -/
structure Scanning (condition : CooperativeCondition) (notification : Notification)
    (rest : List Nat) : Prop where
  /-- It has passed only calls that no notification selects anymore, or is over. -/
  passed : (∃ front, condition.waiters = front ++ rest ∧
      ∀ id ∈ front, (condition.calls id).isOpen = false) ∨
    (notification.all = false ∧ rest = [] ∧ notification.chosen ≠ [])
  /-- What was no candidate at its beginning will not be selected. -/
  closed : ∀ id ∈ rest, id ∉ notification.candidates → (condition.calls id).isOpen = false
  /-- A candidate ahead has not been selected meanwhile. -/
  unselected : ∀ id ∈ rest, id ∈ notification.candidates → (condition.calls id).ready = false
  /-- Whatever it does from here makes its selection right. -/
  completes : ∀ passes : Nat → Prop, (∀ id, condition.late id → passes id) → ∀ more,
    Selects passes notification.all
        (rest.filter fun id => decide (id ∈ notification.candidates)) more →
      Selects passes notification.all notification.candidates (notification.chosen ++ more)

/-- A call that no notification selects stays so. -/
theorem isOpen_eq_false_mono {before after : WaitCall} (ready : after.ready = before.ready)
    (expired : before.expired = true → after.expired = true) (closed : before.isOpen = false) :
    after.isOpen = false := by
  simp only [WaitCall.isOpen, Bool.and_eq_false_imp, Bool.not_eq_true', Bool.not_eq_false'] at *
  intro unready
  exact expired (closed (ready ▸ unready))

/-- Steps of the callers do not disturb a running `Notify`. -/
theorem Scanning.frame {before after : CooperativeCondition} {notification : Notification}
    {rest : List Nat} (scanning : before.Scanning notification rest)
    (waiters : after.waiters = before.waiters)
    (ready : ∀ id, (after.calls id).ready = (before.calls id).ready)
    (expired : ∀ id, before.late id → after.late id) : after.Scanning notification rest where
  passed := by
    rw [waiters]
    rcases scanning.passed with ⟨front, split, closed⟩ | last
    · refine .inl ⟨front, split, ?_⟩
      intro id member
      exact isOpen_eq_false_mono (ready id) (expired id) (closed id member)
    · exact .inr last
  closed := by
    intro id member absent
    exact isOpen_eq_false_mono (ready id) (expired id) (scanning.closed id member absent)
  unselected := by
    intro id member candidate
    rw [ready]
    exact scanning.unselected id member candidate
  completes := by
    intro passes weaker
    apply scanning.completes passes
    intro id past
    exact weaker id (expired id past)

/-- The selections of the finished notifications and of a running one. -/
def chosen (condition : CooperativeCondition) : List Nat :=
  condition.notifications.flatMap (fun notification => notification.chosen) ++
    condition.scan.elim [] fun scan => scan.1.chosen

/-- What holds in every reached state. -/
structure Fits (condition : CooperativeCondition) : Prop where
  calls : ∀ id, condition.CallFits id
  /-- No call is twice in the queue. -/
  nodup : condition.waiters.Nodup
  once : condition.selected.Nodup
  chosen : condition.selected = condition.chosen
  /-- A running `Notify` is right so far. -/
  scan : ∀ notification rest, condition.scan = some (notification, rest) →
    condition.Scanning notification rest
  /-- Finished notifications selected what they had to. -/
  notifications : ∀ notification ∈ condition.notifications,
    Selects condition.late notification.all notification.candidates notification.chosen

theorem initial_fits : initial.Fits where
  calls id :=
    { queue := by simp [initial, queued]
      selected := by simp [initial]
      result := by simp [initial]
      fresh := by simp [initial]
      holds := by simp [initial] }
  nodup := List.nodup_nil
  once := List.nodup_nil
  chosen := rfl
  scan := by simp [initial]
  notifications := by simp [initial]

/-- Steps of the callers that leave the queue alone keep everything but the calls themselves. -/
theorem Fits.frame {before after : CooperativeCondition} (fits : before.Fits)
    (calls : ∀ id, after.CallFits id) (waiters : after.waiters = before.waiters)
    (selected : after.selected = before.selected) (scan : after.scan = before.scan)
    (notifications : after.notifications = before.notifications)
    (ready : ∀ id, (after.calls id).ready = (before.calls id).ready)
    (expired : ∀ id, before.late id → after.late id) : after.Fits where
  calls := calls
  nodup := by rw [waiters]; exact fits.nodup
  once := by rw [selected]; exact fits.once
  chosen := by
    rw [selected, fits.chosen, CooperativeCondition.chosen, CooperativeCondition.chosen, scan,
      notifications]
  scan := by
    rw [scan]
    intro notification rest running
    exact (fits.scan notification rest running).frame waiters ready expired
  notifications := by
    rw [notifications]
    intro notification member
    exact (fits.notifications notification member).mono expired

/-- A call keeps its place in the queue while its point and the mutex change. -/
theorem CallFits.moved {before after : CooperativeCondition} {id : Nat} (fits : before.CallFits id)
    (ready : (after.calls id).ready = (before.calls id).ready)
    (waiters : after.waiters = before.waiters) (selected : after.selected = before.selected)
    (place : queued (after.calls id).point = queued (before.calls id).point)
    (result : ∀ signaled, (after.calls id).point = .left signaled ∨
      (after.calls id).point = .returned signaled → (before.calls id).ready = signaled)
    (fresh : (after.calls id).point = .idle ∨ (after.calls id).point = .entered →
      (before.calls id).ready = false)
    (holds : (after.calls id).point = .entered ∨ (after.calls id).point = .registered →
      after.mutex = some (.waiter id)) : after.CallFits id where
  queue := by rw [waiters, place]; exact fits.queue
  selected := by rw [selected, ready]; exact fits.selected
  result := by rw [ready]; exact result
  fresh := by rw [ready]; exact fresh
  holds := holds

/-- A step of one caller that leaves the queue alone keeps everything when the call fits
afterwards and no other call loses the mutex that it needs. -/
theorem Fits.moves {before after : CooperativeCondition} (fits : before.Fits) (id : Nat)
    (others : ∀ other, other ≠ id → after.calls other = before.calls other)
    (ready : (after.calls id).ready = (before.calls id).ready)
    (expired : before.late id → after.late id)
    (waiters : after.waiters = before.waiters) (selected : after.selected = before.selected)
    (scan : after.scan = before.scan)
    (notifications : after.notifications = before.notifications)
    (mutex : ∀ other, other ≠ id → (before.calls other).point = .entered ∨
      (before.calls other).point = .registered →
      before.mutex = some (.waiter other) → after.mutex = some (.waiter other))
    (own : after.CallFits id) : after.Fits := by
  refine fits.frame ?_ waiters selected scan notifications ?_ ?_
  · intro other
    by_cases same : other = id
    · exact same ▸ own
    · exact (fits.calls other).frame (others other same) (by rw [waiters]) (by rw [selected])
        (mutex other same)
  · intro other
    by_cases same : other = id
    · exact same ▸ ready
    · rw [others other same]
  · intro other past
    by_cases same : other = id
    · subst same
      exact expired past
    · rw [late, others other same]
      exact past

theorem enter_fits {before : CooperativeCondition} (fits : before.Fits) {id : Nat} (native : Bool)
    (idle : (before.calls id).point = .idle) {mutex : Option MutexHolder}
    (others : ∀ other, other ≠ id → (before.calls other).point = .entered ∨
      (before.calls other).point = .registered →
      before.mutex = some (.waiter other) → mutex = some (.waiter other))
    (taken : mutex = some (.waiter id)) :
    { before.modify id { before.calls id with point := .entered, native := native } with
      mutex := mutex : CooperativeCondition }.Fits := by
  refine fits.moves id ?_ ?_ ?_ rfl rfl rfl rfl others ?_
  · intro other distinct
    simp [modify, distinct]
  · simp [modify]
  · intro past
    simpa [modify, late] using past
  · refine (fits.calls id).moved ?_ rfl rfl ?_ ?_ ?_ ?_
    · simp [modify]
    · simp [modify, idle, queued]
    · simp [modify]
    · intro _
      exact (fits.calls id).fresh (.inl idle)
    · intro _
      exact taken

/-- A call moves on within the queue or outside it. -/
theorem goto_fits {before : CooperativeCondition} (fits : before.Fits) {id : Nat}
    {point : WaitPoint} {mutex : Option MutexHolder}
    (place : queued point = queued (before.calls id).point)
    (result : ∀ signaled, point = .left signaled ∨ point = .returned signaled →
      (before.calls id).ready = signaled)
    (started : point ≠ .idle ∧ point ≠ .entered ∧ point ≠ .registered)
    (others : ∀ other, other ≠ id → before.mutex = some (.waiter other) →
      mutex = some (.waiter other)) :
    { before.goto id point with mutex := mutex : CooperativeCondition }.Fits := by
  refine fits.moves id ?_ ?_ ?_ rfl rfl rfl rfl ?_ ?_
  · intro other distinct
    simp [goto, modify, distinct]
  · simp [goto, modify]
  · intro past
    exact (late_goto before id point id).2 past
  · intro other distinct _
    exact others other distinct
  · refine (fits.calls id).moved ?_ rfl rfl ?_ ?_ ?_ ?_
    · simp [goto, modify]
    · simpa [goto, modify] using place
    · simpa [goto, modify] using result
    · simp [goto, modify, started]
    · simp [goto, modify, started]

theorem register_fits {before : CooperativeCondition} (fits : before.Fits) {id : Nat}
    (entered : (before.calls id).point = .entered) (quiet : before.scan = none) :
    { before.goto id .registered with waiters := before.waiters ++ [id] :
      CooperativeCondition }.Fits where
  calls other := by
    by_cases same : other = id
    · subst same
      have unready := (fits.calls other).fresh (.inr entered)
      have unselected := (fits.calls other).selected
      have held := (fits.calls other).holds (.inl entered)
      exact
        { queue := by simp [goto, modify, queued]
          selected := by simpa [goto, modify] using unselected
          result := by simp [goto, modify]
          fresh := by simp [goto, modify]
          holds := by simpa [goto, modify] using held }
    · refine (fits.calls other).frame ?_ ?_ Iff.rfl ?_
      · simp [goto, modify, same]
      · simp [same]
      · intro _ held
        exact held
  nodup := by
    have absent : id ∉ before.waiters := by
      rw [(fits.calls id).queue, entered]
      simp [queued]
    rw [List.nodup_append]
    refine ⟨fits.nodup, List.nodup_singleton id, ?_⟩
    intro member inside other isNew
    rw [List.mem_singleton] at isNew
    rintro rfl
    exact absent (isNew ▸ inside)
  once := fits.once
  chosen := fits.chosen
  scan := by
    intro notification rest running
    simp [goto, modify, quiet] at running
  notifications := by
    intro notification member
    refine (fits.notifications notification member).mono ?_
    intro other past
    exact (late_goto before id _ other).2 past

theorem leave_fits {before : CooperativeCondition} (fits : before.Fits) {id : Nat}
    (quiet : before.scan = none) :
    { before.goto id (.left (before.calls id).ready) with waiters := before.waiters.erase id :
      CooperativeCondition }.Fits where
  calls other := by
    by_cases same : other = id
    · subst same
      have selected := (fits.calls other).selected
      exact
        { queue := by simp [goto, modify, queued, fits.nodup.mem_erase_iff]
          selected := by simpa [goto, modify] using selected
          result := by simp [goto, modify]
          fresh := by simp [goto, modify]
          holds := by simp [goto, modify] }
    · refine (fits.calls other).frame ?_ ?_ Iff.rfl ?_
      · simp [goto, modify, same]
      · exact List.mem_erase_of_ne same
      · intro _ held
        exact held
  nodup := fits.nodup.erase id
  once := fits.once
  chosen := fits.chosen
  scan := by
    intro notification rest running
    simp [goto, modify, quiet] at running
  notifications := by
    intro notification member
    refine (fits.notifications notification member).mono ?_
    intro other past
    exact (late_goto before id _ other).2 past

theorem expire_fits {before : CooperativeCondition} (fits : before.Fits) (id : Nat) :
    (before.modify id { before.calls id with expired := true }).Fits := by
  refine fits.moves id ?_ ?_ ?_ rfl rfl rfl rfl ?_ ?_
  · intro other distinct
    simp [modify, distinct]
  · simp [modify]
  · simp [modify, late]
  · intro other distinct _ held
    exact held
  · refine (fits.calls id).moved ?_ rfl rfl ?_ ?_ ?_ ?_
    · simp [modify]
    · simp [modify]
    · simpa [modify] using (fits.calls id).result
    · simpa [modify] using (fits.calls id).fresh
    · simpa [modify] using (fits.calls id).holds

/-- The mutex passes between parties none of which is about to register. -/
theorem mutex_fits {before : CooperativeCondition} (fits : before.Fits)
    {mutex : Option MutexHolder}
    (others : ∀ id, (before.calls id).point = .entered ∨ (before.calls id).point = .registered →
      before.mutex = some (.waiter id) → mutex = some (.waiter id)) :
    { before with mutex := mutex }.Fits := by
  refine fits.frame ?_ rfl rfl rfl rfl ?_ ?_
  · intro id
    exact (fits.calls id).frame rfl Iff.rfl Iff.rfl (others id)
  · intro id
    rfl
  · intro id past
    exact past

theorem notify_fits {before : CooperativeCondition} (fits : before.Fits) (all : Bool)
    (quiet : before.scan = none) :
    { before with
      scan := some
        (⟨all, before.waiters.filter fun id => (before.calls id).isOpen, []⟩,
          before.waiters) }.Fits where
  calls id :=
    (fits.calls id).frame rfl Iff.rfl Iff.rfl fun _ held => held
  nodup := fits.nodup
  once := fits.once
  chosen := by
    rw [fits.chosen]
    simp [CooperativeCondition.chosen, quiet]
  scan := by
    intro notification rest running
    simp only [Option.some.injEq, Prod.mk.injEq] at running
    obtain ⟨rfl, rfl⟩ := running
    have candidate_iff : ∀ id ∈ before.waiters,
        (id ∈ before.waiters.filter fun id => (before.calls id).isOpen) ↔
          (before.calls id).isOpen = true := by
      intro id member
      rw [List.mem_filter]
      exact and_iff_right member
    exact
      { passed := .inl ⟨[], rfl, by simp⟩
        closed := by
          intro id member absent
          rw [candidate_iff id member, Bool.not_eq_true] at absent
          exact absent
        unselected := by
          intro id member candidate
          rw [candidate_iff id member] at candidate
          simp only [WaitCall.isOpen, Bool.and_eq_true, Bool.not_eq_true'] at candidate
          exact candidate.1
        completes := by
          intro passes _ more selects
          have same : (before.waiters.filter fun id =>
              decide (id ∈ before.waiters.filter fun id => (before.calls id).isOpen)) =
              before.waiters.filter fun id => (before.calls id).isOpen := by
            apply List.filter_congr
            intro id member
            simp [candidate_iff id member]
          rw [same] at selects
          exact selects }
  notifications := fits.notifications

/-- A waiter that `Notify` has reached is in the queue. -/
theorem Scanning.mem {condition : CooperativeCondition} {notification : Notification} {id : Nat}
    {rest : List Nat} (scanning : condition.Scanning notification (id :: rest)) :
    ∃ front, condition.waiters = front ++ id :: rest ∧
      ∀ other ∈ front, (condition.calls other).isOpen = false := by
  rcases scanning.passed with passed | ⟨_, last, _⟩
  · exact passed
  · exact absurd last (List.cons_ne_nil id rest)

/-- The candidate that a running `Notify` selects is the oldest open waiter. -/
theorem Scanning.find {condition : CooperativeCondition} {notification : Notification} {id : Nat}
    {rest : List Nat} (scanning : condition.Scanning notification (id :: rest))
    (isOpen : (condition.calls id).isOpen = true) :
    condition.waiters.find? (fun id => (condition.calls id).isOpen) = some id := by
  obtain ⟨front, split, closed⟩ := scanning.mem
  have none_earlier : front.find? (fun id => (condition.calls id).isOpen) = none := by
    rw [List.find?_eq_none]
    intro other member
    rw [Bool.not_eq_true]
    exact closed other member
  rw [split, List.find?_append, none_earlier, Option.none_or, List.find?_cons, isOpen]

/-- `Notify` passes over a waiter that was selected before or whose deadline has passed. -/
theorem Scanning.pass {condition : CooperativeCondition} {notification : Notification} {id : Nat}
    {rest : List Nat} (scanning : condition.Scanning notification (id :: rest))
    (shut : (condition.calls id).isOpen = false) : condition.Scanning notification rest where
  passed := by
    obtain ⟨front, split, closed⟩ := scanning.mem
    refine .inl ⟨front ++ [id], by simp [split], ?_⟩
    intro other member
    rw [List.mem_append, List.mem_singleton] at member
    rcases member with earlier | rfl
    · exact closed other earlier
    · exact shut
  closed := by
    intro other member
    exact scanning.closed other (List.mem_cons_of_mem id member)
  unselected := by
    intro other member
    exact scanning.unselected other (List.mem_cons_of_mem id member)
  completes := by
    intro passes weaker more selects
    apply scanning.completes passes weaker more
    by_cases candidate : id ∈ notification.candidates
    · rw [List.filter_cons_of_pos (by simpa using candidate)]
      refine .skip (weaker id ?_) selects
      have unready := scanning.unselected id List.mem_cons_self candidate
      simpa [WaitCall.isOpen, unready, late] using shut
    · rw [List.filter_cons_of_neg (by simpa using candidate)]
      exact selects

theorem late_select (condition : CooperativeCondition) (notification : Notification) (id : Nat)
    (rest : List Nat) (other : Nat) :
    (condition.select notification id rest).late other ↔ condition.late other := by
  by_cases same : other = id
  · subst same
    simp [select, modify, late]
  · simp [select, modify, late, same]

/-- What `Notify` selects is a candidate. -/
theorem Scanning.candidate {condition : CooperativeCondition} {notification : Notification}
    {id : Nat} {rest : List Nat} (scanning : condition.Scanning notification (id :: rest))
    (isOpen : (condition.calls id).isOpen = true) : id ∈ notification.candidates := by
  by_contra absent
  rw [scanning.closed id List.mem_cons_self absent] at isOpen
  exact Bool.noConfusion isOpen

/-- A selection of everyone goes on with the rest. -/
theorem Scanning.choose_all {condition : CooperativeCondition} {notification : Notification}
    {id : Nat} {rest : List Nat} (scanning : condition.Scanning notification (id :: rest))
    (nodup : condition.waiters.Nodup) (isOpen : (condition.calls id).isOpen = true)
    (all : notification.all = true) :
    (condition.select notification id rest).Scanning
      { notification with chosen := notification.chosen ++ [id] } rest := by
  obtain ⟨front, split, closed⟩ := scanning.mem
  rw [split] at nodup
  have absent : id ∉ rest := (List.nodup_cons.1 (List.Nodup.of_append_right nodup)).1
  have kept : ∀ other ∈ rest,
      (condition.select notification id rest).calls other = condition.calls other := by
    intro other member
    have distinct : other ≠ id := by
      rintro rfl
      exact absent member
    simp [select, modify, distinct]
  exact
    { passed := by
        refine .inl ⟨front ++ [id], by simp [select, modify, split], ?_⟩
        intro other member
        by_cases same : other = id
        · subst same
          simp [select, modify, WaitCall.isOpen]
        · rw [List.mem_append, List.mem_singleton, or_iff_left same] at member
          simpa [select, modify, same] using closed other member
      closed := by
        intro other member
        rw [kept other member]
        exact scanning.closed other (List.mem_cons_of_mem id member)
      unselected := by
        intro other member
        rw [kept other member]
        exact scanning.unselected other (List.mem_cons_of_mem id member)
      completes := by
        intro passes weaker more selects
        rw [List.append_assoc]
        refine scanning.completes passes ?_ _ ?_
        · intro other past
          exact weaker other ((late_select condition notification id rest other).2 past)
        · rw [List.filter_cons_of_pos (by simpa using scanning.candidate isOpen)]
          exact .more all selects }

/-- A selection of one waiter is over. -/
theorem Scanning.choose_one {condition : CooperativeCondition} {notification : Notification}
    {id : Nat} {rest : List Nat} (scanning : condition.Scanning notification (id :: rest))
    (isOpen : (condition.calls id).isOpen = true) (single : notification.all = false) :
    (condition.select notification id rest).Scanning
      { notification with chosen := notification.chosen ++ [id] } [] where
  passed := .inr ⟨single, rfl, by simp⟩
  closed := by simp
  unselected := by simp
  completes := by
    intro passes weaker more selects
    cases selects
    rw [List.append_nil]
    refine scanning.completes passes ?_ _ ?_
    · intro other past
      exact weaker other ((late_select condition notification id rest other).2 past)
    · rw [List.filter_cons_of_pos (by simpa using scanning.candidate isOpen)]
      exact .one single

theorem select_fits {before : CooperativeCondition} (fits : before.Fits)
    {notification : Notification} {id : Nat} {rest : List Nat}
    (running : before.scan = some (notification, id :: rest))
    (isOpen : (before.calls id).isOpen = true) : (before.select notification id rest).Fits where
  calls other := by
    by_cases same : other = id
    · subst same
      obtain ⟨front, split, _⟩ := (fits.scan _ _ running).mem
      have inside : other ∈ before.waiters := by simp [split]
      have place := (fits.calls other).queue.1 inside
      have queue := (fits.calls other).queue
      have holds := (fits.calls other).holds
      exact
        { queue := by simpa [select, modify] using queue
          selected := by simp [select, modify]
          result := by
            intro signaled point
            simp only [select, modify, Function.update_self] at point
            rcases point with point | point <;> simp [point, queued] at place
          fresh := by
            intro point
            simp only [select, modify, Function.update_self] at point
            rcases point with point | point <;> simp [point, queued] at place
          holds := by simpa [select, modify] using holds }
    · refine (fits.calls other).frame ?_ Iff.rfl ?_ ?_
      · simp [select, modify, same]
      · simp [select, same]
      · intro _ held
        exact held
  nodup := fits.nodup
  once := by
    have unselected : id ∉ before.selected := by
      rw [(fits.calls id).selected]
      simp only [WaitCall.isOpen, Bool.and_eq_true, Bool.not_eq_true'] at isOpen
      simp [isOpen.1]
    simp only [select]
    rw [List.nodup_append]
    refine ⟨fits.once, List.nodup_singleton id, ?_⟩
    intro member inside other isNew
    rw [List.mem_singleton] at isNew
    rintro rfl
    exact unselected (isNew ▸ inside)
  chosen := by
    simp [select, modify, fits.chosen, CooperativeCondition.chosen, running]
  scan := by
    intro notification' rest' running'
    have scanning := fits.scan _ _ running
    simp only [select, Option.some.injEq, Prod.mk.injEq] at running'
    obtain ⟨rfl, rfl⟩ := running'
    cases all : notification.all with
    | true => simpa [all] using scanning.choose_all fits.nodup isOpen all
    | false => simpa [all] using scanning.choose_one isOpen all
  notifications := by
    intro other member
    refine (fits.notifications other member).mono ?_
    intro id' past
    exact (late_select before notification id rest id').2 past

theorem pass_fits {before : CooperativeCondition} (fits : before.Fits)
    {notification : Notification} {id : Nat} {rest : List Nat}
    (running : before.scan = some (notification, id :: rest))
    (shut : (before.calls id).isOpen = false) :
    { before with scan := some (notification, rest) }.Fits where
  calls other := (fits.calls other).frame rfl Iff.rfl Iff.rfl fun _ held => held
  nodup := fits.nodup
  once := fits.once
  chosen := by
    rw [fits.chosen]
    simp [CooperativeCondition.chosen, running]
  scan := by
    intro notification' rest' running'
    simp only [Option.some.injEq, Prod.mk.injEq] at running'
    obtain ⟨rfl, rfl⟩ := running'
    exact ((fits.scan _ _ running).pass shut).frame rfl (fun _ => rfl) fun _ past => past
  notifications := fits.notifications

theorem finish_fits {before : CooperativeCondition} (fits : before.Fits)
    {notification : Notification} (running : before.scan = some (notification, [])) :
    { before with
      scan := none
      notifications := before.notifications ++ [notification] }.Fits where
  calls other := (fits.calls other).frame rfl Iff.rfl Iff.rfl fun _ held => held
  nodup := fits.nodup
  once := fits.once
  chosen := by
    rw [fits.chosen]
    simp [CooperativeCondition.chosen, running]
  scan := by simp
  notifications := by
    intro other member
    rw [List.mem_append, List.mem_singleton] at member
    rcases member with earlier | rfl
    · exact fits.notifications other earlier
    · have selects := (fits.scan _ _ running).completes before.late (fun _ past => past) [] .nil
      rw [List.append_nil] at selects
      exact selects

/-- Every step keeps what holds. -/
theorem next_fits {before after : CooperativeCondition} {label : Label} (fits : before.Fits)
    (performed : before.next label = some after) : after.Fits := by
  cases label with
  | enter agent id native =>
      simp only [next, Option.ite_none_right_eq_some, Option.some.injEq] at performed
      obtain ⟨⟨idle, held⟩, rfl⟩ := performed
      refine enter_fits fits native idle ?_ rfl
      intro other _ _ heldByCall
      simp [held] at heldByCall
  | reenter id other native =>
      simp only [next] at performed
      split at performed
      next signaled returned =>
        simp only [Option.ite_none_right_eq_some, Option.some.injEq] at performed
        obtain ⟨⟨held, idle⟩, rfl⟩ := performed
        refine enter_fits fits native idle ?_ rfl
        intro third _ point heldByThird
        rw [held, Option.some.injEq, MutexHolder.waiter.injEq] at heldByThird
        subst heldByThird
        simp [returned] at point
      all_goals simp at performed
  | register id =>
      simp only [next, Option.ite_none_right_eq_some, Option.some.injEq] at performed
      obtain ⟨⟨entered, quiet⟩, rfl⟩ := performed
      exact register_fits fits entered quiet
  | release id =>
      simp only [next, Option.ite_none_right_eq_some, Option.some.injEq] at performed
      obtain ⟨registered, rfl⟩ := performed
      refine goto_fits fits ?_ ?_ (by simp) ?_
      · simp [registered, queued]
      · simp
      · intro other distinct held
        rw [(fits.calls id).holds (.inr registered), Option.some.injEq,
          MutexHolder.waiter.injEq] at held
        exact absurd held.symm distinct
  | wake id =>
      simp only [next, Option.ite_none_right_eq_some, Option.some.injEq] at performed
      obtain ⟨⟨waiting, _⟩, rfl⟩ := performed
      refine goto_fits fits ?_ ?_ (by simp) ?_
      · simp [waiting, queued]
      · simp
      · intro other _ held
        exact held
  | leave id =>
      simp only [next, Option.ite_none_right_eq_some, Option.some.injEq] at performed
      obtain ⟨⟨_, quiet⟩, rfl⟩ := performed
      exact leave_fits fits quiet
  | reacquire id =>
      simp only [next] at performed
      split at performed
      next signaled left =>
        simp only [Option.ite_none_right_eq_some, Option.some.injEq] at performed
        obtain ⟨free, rfl⟩ := performed
        refine goto_fits fits ?_ ?_ (by simp) ?_
        · simp [left, queued]
        · intro result same
          simp only [reduceCtorEq, WaitPoint.returned.injEq, false_or] at same
          exact same ▸ (fits.calls id).result signaled (.inl left)
        · intro other _ held
          simp [free] at held
      all_goals simp at performed
  | depart id =>
      simp only [next] at performed
      split at performed
      next signaled returned =>
        simp only [Option.ite_none_right_eq_some, Option.some.injEq] at performed
        obtain ⟨held, rfl⟩ := performed
        refine mutex_fits fits ?_
        intro other point heldByOther
        rw [held, Option.some.injEq, MutexHolder.waiter.injEq] at heldByOther
        subst heldByOther
        simp [returned] at point
      all_goals simp at performed
  | lock agent =>
      simp only [next, Option.ite_none_right_eq_some, Option.some.injEq] at performed
      obtain ⟨free, rfl⟩ := performed
      refine mutex_fits fits ?_
      intro id _ held
      simp [free] at held
  | unlock agent =>
      simp only [next, Option.ite_none_right_eq_some, Option.some.injEq] at performed
      obtain ⟨held, rfl⟩ := performed
      refine mutex_fits fits ?_
      intro id _ heldByCall
      simp [held] at heldByCall
  | expire id =>
      simp only [next, Option.some.injEq] at performed
      subst performed
      exact expire_fits fits id
  | notify all =>
      simp only [next, Option.ite_none_right_eq_some, Option.some.injEq] at performed
      obtain ⟨quiet, rfl⟩ := performed
      exact notify_fits fits all quiet
  | examine =>
      simp only [next] at performed
      split at performed
      next notification id rest running =>
        cases isOpen : (before.calls id).isOpen with
        | true =>
            simp only [isOpen, if_true, Option.some.injEq] at performed
            subst performed
            exact select_fits fits running isOpen
        | false =>
            simp only [isOpen, Bool.false_eq_true, if_false, Option.some.injEq] at performed
            subst performed
            exact pass_fits fits running isOpen
      all_goals simp at performed
  | finish =>
      simp only [next] at performed
      split at performed
      next notification running =>
        simp only [Option.some.injEq] at performed
        subst performed
        exact finish_fits fits running
      all_goals simp at performed

theorem reaches_fits {condition : CooperativeCondition}
    (execution : Run.Reaches next initial condition) : condition.Fits :=
  Run.ReachesBy.preserves execution Fits initial_fits fun _ _ _ fits _ performed =>
    next_fits fits performed

/-- Waiters are selected exactly. -/
structure Selective (condition : CooperativeCondition) : Prop where
  /-- A call has the result `no_timeout` exactly if a notification selected it. -/
  result : ∀ id signaled, (condition.calls id).point = .left signaled ∨
    (condition.calls id).point = .returned signaled → (signaled = true ↔ id ∈ condition.chosen)
  /-- A selected call had registered. -/
  registered : ∀ id ∈ condition.chosen,
    (condition.calls id).point ≠ .idle ∧ (condition.calls id).point ≠ .entered
  /-- No call is selected twice. -/
  once : condition.chosen.Nodup
  /-- What a notification selects is the oldest waiter that is neither selected nor expired. -/
  oldest : ∀ notification id rest, condition.scan = some (notification, id :: rest) →
    (condition.calls id).isOpen = true →
      condition.waiters.find? (fun id => (condition.calls id).isOpen) = some id
  /-- A notification of everyone, or one that selects nobody, ends when there is no such waiter. -/
  exhausted : ∀ notification, condition.scan = some (notification, []) →
    notification.all = true ∨ notification.chosen = [] →
      condition.waiters.find? (fun id => (condition.calls id).isOpen) = none
  /-- `notify_one` selected the oldest waiter that it found neither selected nor expired. -/
  one : ∀ notification ∈ condition.notifications, notification.all = false →
    (notification.chosen = [] ∧ ∀ id ∈ notification.candidates, condition.late id) ∨
      ∃ passed id rest, notification.candidates = passed ++ id :: rest ∧
        notification.chosen = [id] ∧ ∀ earlier ∈ passed, condition.late earlier
  /-- `notify_all` selected every waiter of its beginning that did not expire. -/
  all : ∀ notification ∈ condition.notifications, notification.all = true →
    ∀ id ∈ notification.candidates, id ∈ notification.chosen ∨ condition.late id
  /-- No notification selects a waiter that registers after its beginning. -/
  only : ∀ notification ∈ condition.notifications,
    notification.chosen.Sublist notification.candidates
  /-- The queue holds exactly the calls that registered and have not taken their result. -/
  queue : ∀ id, id ∈ condition.waiters ↔ queued (condition.calls id).point = true
  /-- No call is twice in the queue. -/
  nodup : condition.waiters.Nodup
  /-- A call that takes its result finds its entry. -/
  entry : ∀ id, (condition.calls id).point = .leaving → id ∈ condition.waiters
  /-- A notification sees every call without a result whose caller does not hold the mutex. -/
  heard : ∀ all after, condition.next (.notify all) = some after → ∀ id,
    condition.mutex ≠ some (.waiter id) → (condition.calls id).point ≠ .idle →
    (∀ signaled, (condition.calls id).point ≠ .left signaled ∧
      (condition.calls id).point ≠ .returned signaled) →
    (condition.calls id).isOpen = true →
      ∃ notification rest, after.scan = some (notification, rest) ∧
        id ∈ notification.candidates ∧ id ∈ rest

/-- A begun call without a result is in the queue unless its caller still holds the mutex. -/
theorem Fits.mem_waiters {condition : CooperativeCondition} (fits : condition.Fits) {id : Nat}
    (released : condition.mutex ≠ some (.waiter id)) (begun : (condition.calls id).point ≠ .idle)
    (pending : ∀ signaled, (condition.calls id).point ≠ .left signaled ∧
      (condition.calls id).point ≠ .returned signaled) : id ∈ condition.waiters := by
  have holds := (fits.calls id).holds
  rw [(fits.calls id).queue]
  cases point : (condition.calls id).point with
  | idle => exact absurd point begun
  | entered => exact absurd (holds (.inl point)) released
  | registered | waiting | leaving => rfl
  | left signaled => exact absurd point (pending signaled).1
  | returned signaled => exact absurd point (pending signaled).2

theorem Scanning.find_none {condition : CooperativeCondition} {notification : Notification}
    (scanning : condition.Scanning notification [])
    (full : notification.all = true ∨ notification.chosen = []) :
    condition.waiters.find? (fun id => (condition.calls id).isOpen) = none := by
  rw [List.find?_eq_none]
  intro id member
  rw [Bool.not_eq_true]
  rcases scanning.passed with ⟨front, split, closed⟩ | ⟨single, _, some⟩
  · rw [List.append_nil] at split
    exact closed id (split ▸ member)
  · rcases full with everyone | none
    · rw [single] at everyone
      exact Bool.noConfusion everyone
    · exact absurd none some

/-- In every interleaving of callers, notifications and deadlines, waiters are selected exactly. -/
theorem waiters_selected_exactly {condition : CooperativeCondition}
    (execution : Run.Reaches next initial condition) : Selective condition := by
  have fits := reaches_fits execution
  have chosen_iff : ∀ id, id ∈ condition.chosen ↔ (condition.calls id).ready = true := by
    intro id
    rw [← fits.chosen]
    exact (fits.calls id).selected
  exact
    { result := by
        intro id signaled point
        rw [chosen_iff, (fits.calls id).result signaled point]
      registered := by
        intro id member
        rw [chosen_iff] at member
        have fresh := (fits.calls id).fresh
        constructor
        · intro idle
          simp [member, idle] at fresh
        · intro entered
          simp [member, entered] at fresh
      once := fits.chosen ▸ fits.once
      oldest := by
        intro notification id rest running isOpen
        exact (fits.scan notification _ running).find isOpen
      exhausted := by
        intro notification running full
        exact (fits.scan notification _ running).find_none full
      one := by
        intro notification member single
        exact (fits.notifications notification member).first single
      all := by
        intro notification member everyone
        exact (fits.notifications notification member).every everyone
      only := by
        intro notification member
        exact (fits.notifications notification member).sublist
      queue := fun id => (fits.calls id).queue
      nodup := fits.nodup
      entry := by
        intro id leaving
        rw [(fits.calls id).queue, leaving]
        rfl
      heard := by
        intro all after performed id released begun pending isOpen
        have member := fits.mem_waiters released begun pending
        simp only [next, Option.ite_none_right_eq_some, Option.some.injEq] at performed
        obtain ⟨_, rfl⟩ := performed
        exact ⟨_, _, rfl, List.mem_filter.2 ⟨member, isOpen⟩, member⟩ }

/-- Two callers, the first of which expires before someone notifies one waiter. -/
def secondSelected : List Label :=
  [.lock 5, .enter 5 0 true, .register 0, .release 0, .lock 6, .enter 6 1 false, .register 1,
    .release 1, .expire 0, .lock 7, .notify false, .examine, .examine, .finish, .unlock 7, .wake 1,
      .leave 1,
    .reacquire 1]

theorem waiters_selected_exactly_secondSelected :
    ∃ condition, Run.runLabels next initial secondSelected = some condition ∧
      (condition.calls 1).point = .returned true ∧ condition.waiters = [0] ∧
        Selective condition := by
  have outcome : (Run.runLabels next initial secondSelected).any (fun condition =>
      (condition.calls 1).point = .returned true ∧ condition.waiters = [0]) = true := by
    decide +kernel
  obtain ⟨condition, execution, facts⟩ := (Option.any_eq_true _ _).mp outcome
  obtain ⟨returned, waiters⟩ := of_decide_eq_true facts
  exact ⟨condition, execution, returned, waiters,
    waiters_selected_exactly (Run.reaches_of_runLabels execution)⟩

/-- Whether a call registered and has not returned. -/
def outstanding : WaitPoint → Bool
  | .registered | .waiting | .leaving | .left _ => true
  | _ => false

/-- A caller that left the queue and waits for its mutex has not returned. -/
theorem outstanding_not_queued :
    ¬ ∀ condition, Run.Reaches next initial condition →
      ∀ id, id ∈ condition.waiters ↔ outstanding (condition.calls id).point = true := by
  intro exact_queue
  have outcome : (Run.runLabels next initial [.lock 5, .enter 5 0 true, .register 0, .release 0,
      .expire 0, .lock 7, .wake 0, .leave 0]).any (fun condition =>
        condition.waiters = [] ∧ outstanding (condition.calls 0).point = true) = true := by
    decide +kernel
  obtain ⟨condition, execution, facts⟩ := (Option.any_eq_true _ _).mp outcome
  obtain ⟨waiters, pending⟩ := of_decide_eq_true facts
  have member := (exact_queue condition (Run.reaches_of_runLabels execution) 0).2 pending
  rw [waiters] at member
  exact List.not_mem_nil member

end CooperativeCondition
end Cxloom
