import Cxloom.Common
import Cxloom.HostMask
import Cxloom.Run
import Mathlib.Data.List.Basic

/-!
# Distributed condition variables

`WaitCondition` and `NotifyCondition` on one distributed condition.  Two bitmaps in the shared
object record the registered waiters and the selected ones.  Every `ChangeCondition` body runs under
the object's write token and is one atomic action, and so is every poll of the shared state; between
them the hosts interleave freely.  How a `ChangeCondition` call ends, whether a hook, a read or a
mutex operation succeeds and whether a deadline has passed is part of the action.
-/

namespace Cxloom.Api

/-- The bitmaps in the shared object. -/
structure SharedCondition where
  /-- One bit for every registered waiter. -/
  waiting : HostMask
  /-- The registered waiters that were selected. -/
  ready : HostMask
deriving DecidableEq

namespace SharedCondition

/-- The state written by `cl_pthread_cond_init`. -/
def initial : SharedCondition := ⟨0#64, 0#64⟩

/-- Take the lowest free bit, if there is one. -/
def register (state : SharedCondition) : Option (HostMask × SharedCondition) :=
  let free := ~~~state.waiting
  if free = 0#64 then none
  else
    let bit := HostMask.lowest free
    some (bit, ⟨state.waiting ||| bit, state.ready &&& ~~~bit⟩)

/-- Give a bit back. -/
def cleanup (state : SharedCondition) (bit : HostMask) : SharedCondition :=
  ⟨state.waiting &&& ~~~bit, state.ready &&& ~~~bit⟩

/-- The bits that a notification selects. -/
def selection (state : SharedCondition) (all : Bool) : HostMask :=
  let pending := state.waiting &&& ~~~state.ready
  if all then pending else HostMask.lowest pending

/-- Select one waiter, or all that wait. -/
def notify (state : SharedCondition) (all : Bool) : SharedCondition :=
  { state with ready := state.ready ||| state.selection all }

end SharedCondition

/-- How a `ChangeCondition` call ends.  Its write buffer may not be acquired, and releasing it may
fail before the changed block is published and after. -/
structure ChangeEnd where
  /-- What acquiring or releasing the write buffer returned. -/
  released : StatusCode
  /-- Whether the change was published. -/
  published : Bool
  complete : released = .ok → published = true
deriving DecidableEq

namespace ChangeEnd

/-- The buffer is acquired, changed and released. -/
def completed : ChangeEnd := ⟨.ok, true, fun _ => rfl⟩

/-- What the call returns for the result of its body. -/
def result (ended : ChangeEnd) (change : StatusCode) : StatusCode :=
  if ended.released = .ok then change else ended.released

/-- The shared object after the call. -/
def keep (ended : ChangeEnd) (before after : SharedCondition) : SharedCondition :=
  if ended.published then after else before

theorem result_eq_ok {ended : ChangeEnd} {change : StatusCode} :
    ended.result change = .ok ↔ ended.released = .ok ∧ change = .ok := by
  rw [result]
  split
  · rename_i released
    simp [released]
  · rename_i failed
    simp [failed]

theorem keep_published {ended : ChangeEnd} (published : ended.published = true)
    (before after : SharedCondition) : ended.keep before after = after := by
  rw [keep, if_pos published]

theorem keep_unpublished {ended : ChangeEnd} (unpublished : ended.published = false)
    (before after : SharedCondition) : ended.keep before after = before := by
  simp [keep, unpublished]

end ChangeEnd

/-- Where a `WaitCondition` call is. -/
inductive WaitPhase
  /-- Registered, with the application mutex still held. -/
  | registered
  | polling
  /-- About to give the bit back, with the status decided and whether the mutex was released. -/
  | cleaning (status : StatusCode) (unlocked : Bool)
  /-- About to lock the application mutex again. -/
  | relocking (status : StatusCode)
  | returned (status : StatusCode)
deriving DecidableEq, Repr

/-- A `WaitCondition` call. -/
structure ConditionWaiter where
  /-- Its bit, zero if there was none left. -/
  bit : HostMask
  /-- Whether it has a deadline. -/
  timed : Bool
  /-- Where it is. -/
  phase : WaitPhase
  /-- Whether a notification has set its ready bit while it was registered. -/
  selected : Bool
deriving DecidableEq

namespace ConditionWaiter

/-- Between the registration and the cleanup. -/
def active (waiter : ConditionWaiter) : Bool :=
  match waiter.phase with
  | .registered | .polling | .cleaning .. => true
  | .relocking _ | .returned _ => false

/-- A call that was not registered. -/
def refused (timed : Bool) (status : StatusCode) : ConditionWaiter :=
  ⟨0#64, timed, .returned status, false⟩

/-- The mutex is released, or the call is given up. -/
def unlock (waiter : ConditionWaiter) (status : StatusCode) : ConditionWaiter :=
  if status = .ok then { waiter with phase := .polling }
  else { waiter with phase := .cleaning status false }

/-- One round of the polling loop, with the outcomes of the acquire hook and of the read and whether
the clock has reached the deadline. -/
def poll (waiter : ConditionWaiter) (state : SharedCondition) (acquired read : StatusCode)
    (expired : Bool) : ConditionWaiter :=
  if acquired ≠ .ok then { waiter with phase := .cleaning acquired true }
  else if read = .ok ∧ state.ready &&& waiter.bit ≠ 0#64 then
    { waiter with phase := .cleaning .ok true }
  else if read ≠ .ok ∧ read ≠ .unavailable then { waiter with phase := .cleaning read true }
  else if waiter.timed ∧ expired then { waiter with phase := .cleaning .unavailable true }
  else waiter

/-- Leave the registered waiters.  The status of this section counts only if the mutex was
released. -/
def clean (waiter : ConditionWaiter) (status : StatusCode) (unlocked : Bool) (ended : ChangeEnd) :
    ConditionWaiter :=
  { waiter with
    phase := if unlocked then .relocking (ended.result status) else .returned status }

/-- Lock the mutex again and return. -/
def relock (waiter : ConditionWaiter) (status reacquired : StatusCode) : ConditionWaiter :=
  { waiter with phase := .returned (if reacquired = .ok then status else reacquired) }

/-- Record a selection. -/
def select (waiter : ConditionWaiter) (selection : HostMask) : ConditionWaiter :=
  if waiter.active ∧ selection &&& waiter.bit ≠ 0#64 then { waiter with selected := true }
  else waiter

end ConditionWaiter

/-- One distributed condition with every call made on it. -/
structure ConditionWorld where
  state : SharedCondition
  /-- Every `WaitCondition` call, oldest first. -/
  waiters : List ConditionWaiter

/-- One atomic action.  Calls are named by their position. -/
inductive ConditionOp
  | wait (timed : Bool) (ended : ChangeEnd)
  | unlock (call : Nat) (status : StatusCode)
  | poll (call : Nat) (acquired read : StatusCode) (expired : Bool)
  | cleanup (call : Nat) (ended : ChangeEnd)
  | relock (call : Nat) (reacquired : StatusCode)
  | notify (all : Bool) (ended : ChangeEnd)
deriving DecidableEq

namespace ConditionWorld

/-- A new condition. -/
def initial : ConditionWorld := ⟨.initial, []⟩

/-- Replace a call. -/
def setWaiter (world : ConditionWorld) (call : Nat) (waiter : ConditionWaiter) : ConditionWorld :=
  { world with waiters := world.waiters.set call waiter }

/-- Perform one action. -/
def next (world : ConditionWorld) : ConditionOp → Option ConditionWorld
  | .wait timed ended =>
      match world.state.register with
      | none =>
          some { world with
            waiters := world.waiters ++ [.refused timed (ended.result .unavailable)] }
      | some (bit, state) =>
          -- a failed section leaves its bit set if the block was published before the failure
          some ⟨ended.keep world.state state, world.waiters ++
            [if ended.released = .ok then ⟨bit, timed, .registered, false⟩
              else .refused timed ended.released]⟩
  | .unlock call status =>
      match world.waiters[call]? with
      | some waiter =>
          match waiter.phase with
          | .registered => some (world.setWaiter call (waiter.unlock status))
          | _ => none
      | none => none
  | .poll call acquired read expired =>
      match world.waiters[call]? with
      | some waiter =>
          match waiter.phase with
          | .polling => some (world.setWaiter call (waiter.poll world.state acquired read expired))
          | _ => none
      | none => none
  | .cleanup call ended =>
      match world.waiters[call]? with
      | some waiter =>
          match waiter.phase with
          | .cleaning status unlocked =>
              some ({ world with
                state := ended.keep world.state (world.state.cleanup waiter.bit) }.setWaiter call
                  (waiter.clean status unlocked ended))
          | _ => none
      | none => none
  | .relock call reacquired =>
      match world.waiters[call]? with
      | some waiter =>
          match waiter.phase with
          | .relocking status => some (world.setWaiter call (waiter.relock status reacquired))
          | _ => none
      | none => none
  | .notify all ended =>
      if ended.published then
        some ⟨world.state.notify all,
          world.waiters.map fun waiter => waiter.select (world.state.selection all)⟩
      else some world

/-- Everything an action can do. -/
inductive Outcome (world : ConditionWorld) : ConditionOp → ConditionWorld → Prop
  | refused (timed : Bool) (ended : ChangeEnd) (full : world.state.register = none) :
      Outcome world (.wait timed ended)
        { world with waiters := world.waiters ++ [.refused timed (ended.result .unavailable)] }
  | registered (timed : Bool) {ended : ChangeEnd} {bit : HostMask} {state : SharedCondition}
      (free : world.state.register = some (bit, state)) (released : ended.released = .ok) :
      Outcome world (.wait timed ended)
        ⟨state, world.waiters ++ [⟨bit, timed, .registered, false⟩]⟩
  | unregistered (timed : Bool) {ended : ChangeEnd} {bit : HostMask} {state : SharedCondition}
      (free : world.state.register = some (bit, state)) (failed : ended.released ≠ .ok) :
      Outcome world (.wait timed ended)
        ⟨ended.keep world.state state, world.waiters ++ [.refused timed ended.released]⟩
  | unlocked {call : Nat} {waiter : ConditionWaiter} (status : StatusCode)
      (present : world.waiters[call]? = some waiter) (phase : waiter.phase = .registered) :
      Outcome world (.unlock call status) (world.setWaiter call (waiter.unlock status))
  | polled {call : Nat} {waiter : ConditionWaiter} (acquired read : StatusCode) (expired : Bool)
      (present : world.waiters[call]? = some waiter) (phase : waiter.phase = .polling) :
      Outcome world (.poll call acquired read expired)
        (world.setWaiter call (waiter.poll world.state acquired read expired))
  | cleaned {call : Nat} {waiter : ConditionWaiter} {status : StatusCode} {unlocked : Bool}
      (ended : ChangeEnd) (present : world.waiters[call]? = some waiter)
      (phase : waiter.phase = .cleaning status unlocked) :
      Outcome world (.cleanup call ended)
        ({ world with
          state := ended.keep world.state (world.state.cleanup waiter.bit) }.setWaiter call
            (waiter.clean status unlocked ended))
  | relocked {call : Nat} {waiter : ConditionWaiter} {status : StatusCode}
      (reacquired : StatusCode) (present : world.waiters[call]? = some waiter)
      (phase : waiter.phase = .relocking status) :
      Outcome world (.relock call reacquired)
        (world.setWaiter call (waiter.relock status reacquired))
  | notified (all : Bool) {ended : ChangeEnd} (published : ended.published = true) :
      Outcome world (.notify all ended)
        ⟨world.state.notify all,
          world.waiters.map fun waiter => waiter.select (world.state.selection all)⟩
  | unnotified (all : Bool) {ended : ChangeEnd} (unpublished : ended.published = false) :
      Outcome world (.notify all ended) world

theorem next_outcome {world after : ConditionWorld} {op : ConditionOp}
    (performed : world.next op = some after) : Outcome world op after := by
  cases op with
  | wait timed ended =>
      simp only [next] at performed
      split at performed
      · rename_i full
        cases performed
        exact .refused timed ended full
      · rename_i bit state free
        by_cases released : ended.released = .ok
        · rw [if_pos released, ended.keep_published (ended.complete released)] at performed
          cases performed
          exact .registered timed free released
        · rw [if_neg released] at performed
          cases performed
          exact .unregistered timed free released
  | unlock call status =>
      simp only [next] at performed
      split at performed
      · rename_i waiter present
        split at performed
        · rename_i phase
          cases performed
          exact .unlocked status present phase
        · cases performed
      · cases performed
  | poll call acquired read expired =>
      simp only [next] at performed
      split at performed
      · rename_i waiter present
        split at performed
        · rename_i phase
          cases performed
          exact .polled acquired read expired present phase
        · cases performed
      · cases performed
  | cleanup call ended =>
      simp only [next] at performed
      split at performed
      · rename_i waiter present
        split at performed
        · rename_i phase
          cases performed
          exact .cleaned ended present phase
        · cases performed
      · cases performed
  | relock call reacquired =>
      simp only [next] at performed
      split at performed
      · rename_i waiter present
        split at performed
        · rename_i phase
          cases performed
          exact .relocked reacquired present phase
        · cases performed
      · cases performed
  | notify all ended =>
      simp only [next] at performed
      split at performed
      · rename_i published
        cases performed
        exact .notified all published
      · rename_i unpublished
        cases performed
        exact .unnotified all (by simpa using unpublished)

end ConditionWorld
end Cxloom.Api
