import Mathlib.Algebra.Group.Nat.Defs
import Mathlib.Logic.Function.Basic

/-!
# Execution contexts

The identity of the code that runs on a thread, as `execution_context.h` and `Fiber` keep it: a
fiber has the identity that its construction draws, and a thread draws its own when it is first
asked for.  Code of different threads and fibers has different identities.
-/

namespace Cxloom

/-- Code with an identity of its own. -/
inductive Executor
  /-- The code of a thread outside fibers. -/
  | thread (thread : Nat)
  /-- The code of a fiber, on whatever thread it runs. -/
  | fiber (fiber : Nat)
deriving DecidableEq, Repr

/-- The identities that were drawn and the fibers that run on each thread. -/
structure ExecutionContexts where
  next : Nat
  /-- Identity of a thread, once it was asked for. -/
  native : Nat → Option Nat
  /-- Identity of a fiber, once it is constructed. -/
  contextId : Nat → Option Nat
  /-- Fibers that were resumed on a thread and did not yield, innermost first. -/
  resumed : Nat → List Nat

namespace ExecutionContexts

/-- Before any thread or fiber was identified. -/
def initial : ExecutionContexts where
  next := 1
  native _ := none
  contextId _ := none
  resumed _ := []

/-- `active_execution_context` of a thread. -/
def activeExecutionContext (contexts : ExecutionContexts) (thread : Nat) : Nat :=
  match contexts.resumed thread with
  | [] => 0
  | fiber :: _ => (contexts.contextId fiber).getD 0

/-- The first call on a thread draws its identity. -/
def drawNative (contexts : ExecutionContexts) (thread : Nat) : ExecutionContexts :=
  match contexts.native thread with
  | some _ => contexts
  | none =>
      { contexts with
        next := contexts.next + 1
        native := Function.update contexts.native thread (some contexts.next) }

/-- `CurrentExecutionContextId`. -/
def currentExecutionContextId (contexts : ExecutionContexts) (thread : Nat) :
    Nat × ExecutionContexts :=
  let drawn := contexts.drawNative thread
  let active := drawn.activeExecutionContext thread
  (if active ≠ 0 then active else (drawn.native thread).getD 0, drawn)

def construct (contexts : ExecutionContexts) (fiber : Nat) : ExecutionContexts :=
  { contexts with
    next := contexts.next + 1
    contextId := Function.update contexts.contextId fiber (some contexts.next) }

/-- `Fiber::Resume` up to the switch. -/
def resume (contexts : ExecutionContexts) (thread fiber : Nat) : ExecutionContexts :=
  { contexts with
    resumed := Function.update contexts.resumed thread (fiber :: contexts.resumed thread) }

/-- The switch back, when the innermost fiber yields or ends. -/
def leave (contexts : ExecutionContexts) (thread : Nat) : ExecutionContexts :=
  { contexts with
    resumed := Function.update contexts.resumed thread (contexts.resumed thread).tail }

/-- The code that runs on a thread. -/
def executor (contexts : ExecutionContexts) (thread : Nat) : Executor :=
  match contexts.resumed thread with
  | [] => .thread thread
  | fiber :: _ => .fiber fiber

/-- The identity of an executor. -/
def idOf (contexts : ExecutionContexts) : Executor → Option Nat
  | .thread thread => contexts.native thread
  | .fiber fiber => contexts.contextId fiber

/-- Identities are different. -/
structure Distinct (contexts : ExecutionContexts) : Prop where
  /-- Zero is not an identity. -/
  positive : 0 < contexts.next
  drawn : ∀ executor id, contexts.idOf executor = some id → 0 < id ∧ id < contexts.next
  /-- An identity has one owner. -/
  unique : ∀ first second id, contexts.idOf first = some id → contexts.idOf second = some id →
    first = second
  constructed : ∀ thread, ∀ fiber ∈ contexts.resumed thread,
    (contexts.contextId fiber).isSome = true

variable {contexts : ExecutionContexts}

theorem initial_distinct : initial.Distinct where
  positive := Nat.one_pos
  drawn executor id found := by cases executor <;> cases found
  unique first second id found := by cases first <;> cases found
  constructed thread fiber member := by cases member

theorem Distinct.draw (distinct : contexts.Distinct) {after : ExecutionContexts}
    (owner : Executor) (next : after.next = contexts.next + 1)
    (own : after.idOf owner = some contexts.next)
    (others : ∀ other, other ≠ owner → after.idOf other = contexts.idOf other)
    (constructed : ∀ thread, ∀ fiber ∈ after.resumed thread,
      (after.contextId fiber).isSome = true) : after.Distinct where
  positive := by
    rw [next]
    exact Nat.succ_pos _
  drawn executor id found := by
    have positive := distinct.positive
    by_cases same : executor = owner
    · rw [same, own] at found
      obtain rfl := Option.some.inj found
      omega
    · rw [others executor same] at found
      have bounds := distinct.drawn executor id found
      omega
  unique first second id foundFirst foundSecond := by
    -- an identity that is drawn now was nobody's
    have fresh : ∀ other, other ≠ owner → after.idOf other ≠ some contexts.next := by
      intro other different found
      rw [others other different] at found
      exact Nat.lt_irrefl _ (distinct.drawn other contexts.next found).2
    by_cases firstOwns : first = owner <;> by_cases secondOwns : second = owner
    · rw [firstOwns, secondOwns]
    · rw [firstOwns, own] at foundFirst
      obtain rfl := Option.some.inj foundFirst
      exact (fresh second secondOwns foundSecond).elim
    · rw [secondOwns, own] at foundSecond
      obtain rfl := Option.some.inj foundSecond
      exact (fresh first firstOwns foundFirst).elim
    · rw [others first firstOwns] at foundFirst
      rw [others second secondOwns] at foundSecond
      exact distinct.unique first second id foundFirst foundSecond
  constructed := constructed

theorem drawNative_resumed (contexts : ExecutionContexts) (thread : Nat) :
    (contexts.drawNative thread).resumed = contexts.resumed ∧
      (contexts.drawNative thread).contextId = contexts.contextId := by
  rw [drawNative]
  split
  · exact ⟨rfl, rfl⟩
  · exact ⟨rfl, rfl⟩

theorem Distinct.drawNative (distinct : contexts.Distinct) (thread : Nat) :
    (contexts.drawNative thread).Distinct := by
  rw [ExecutionContexts.drawNative]
  split
  · exact distinct
  · refine distinct.draw (.thread thread) rfl (Function.update_self ..) (fun other different => ?_)
      distinct.constructed
    cases other with
    | thread other =>
        exact Function.update_of_ne (fun same => different (congrArg Executor.thread same)) ..
    | fiber other => rfl

theorem Distinct.construct (distinct : contexts.Distinct) {fiber : Nat}
    (unknown : contexts.contextId fiber = none) : (contexts.construct fiber).Distinct := by
  refine distinct.draw (.fiber fiber) rfl (Function.update_self ..) (fun other different => ?_)
    fun thread other member => ?_
  · cases other with
    | thread other => rfl
    | fiber other =>
        exact Function.update_of_ne (fun same => different (congrArg Executor.fiber same)) ..
  · have known := distinct.constructed thread other member
    have different : other ≠ fiber := by
      rintro rfl
      rw [unknown] at known
      cases known
    exact (congrArg Option.isSome (Function.update_of_ne different ..)).trans known

/-- Identities stay when other fibers run. -/
theorem Distinct.switch (distinct : contexts.Distinct) {resumed : Nat → List Nat}
    (constructed : ∀ thread, ∀ fiber ∈ resumed thread,
      (contexts.contextId fiber).isSome = true) :
    Distinct { contexts with resumed := resumed } where
  positive := distinct.positive
  drawn executor id found := distinct.drawn executor id (by cases executor <;> exact found)
  unique first second id foundFirst foundSecond :=
    distinct.unique first second id (by cases first <;> exact foundFirst)
      (by cases second <;> exact foundSecond)
  constructed := constructed

theorem Distinct.resume (distinct : contexts.Distinct) (thread : Nat) {fiber : Nat}
    (known : (contexts.contextId fiber).isSome = true) :
    (contexts.resume thread fiber).Distinct := by
  refine distinct.switch fun other running member => ?_
  by_cases same : other = thread
  · subst same
    rw [Function.update_self] at member
    rcases List.mem_cons.mp member with rfl | earlier
    · exact known
    · exact distinct.constructed other running earlier
  · rw [Function.update_of_ne same] at member
    exact distinct.constructed other running member

theorem Distinct.leave (distinct : contexts.Distinct) (thread : Nat) :
    (contexts.leave thread).Distinct := by
  refine distinct.switch fun other running member => ?_
  by_cases same : other = thread
  · subst same
    rw [Function.update_self] at member
    exact distinct.constructed other running (List.mem_of_mem_tail member)
  · rw [Function.update_of_ne same] at member
    exact distinct.constructed other running member

/-- A call on a thread gets the identity of the code that runs there. -/
theorem Distinct.current (distinct : contexts.Distinct) (thread : Nat) :
    (contexts.currentExecutionContextId thread).2.idOf (contexts.executor thread) =
      some (contexts.currentExecutionContextId thread).1 := by
  have native : ∃ id, (contexts.drawNative thread).native thread = some id := by
    rw [ExecutionContexts.drawNative]
    split
    · rename_i id known
      exact ⟨id, known⟩
    · exact ⟨_, Function.update_self ..⟩
  obtain ⟨id, drawn⟩ := native
  obtain ⟨resumed, contextId⟩ := drawNative_resumed contexts thread
  simp only [currentExecutionContextId, activeExecutionContext, executor, resumed, contextId]
  cases running : contexts.resumed thread with
  | nil => simp [idOf, drawn]
  | cons fiber rest =>
      have known := distinct.constructed thread fiber (by rw [running]; exact List.mem_cons_self)
      obtain ⟨own, found⟩ := Option.isSome_iff_exists.mp known
      have positive := (distinct.drawn (.fiber fiber) own found).1
      simp [idOf, contextId, found, Nat.ne_of_gt positive]

/-- Identities that were drawn stay. -/
theorem drawNative_idOf (contexts : ExecutionContexts) (thread : Nat) (executor : Executor)
    (id : Nat)
    (found : contexts.idOf executor = some id) :
    (contexts.drawNative thread).idOf executor = some id := by
  rw [drawNative]
  split
  · exact found
  · rename_i unknown
    cases executor with
    | thread other =>
        have different : other ≠ thread := by
          rintro rfl
          cases unknown.symm.trans found
        exact (Function.update_of_ne different ..).trans found
    | fiber other => exact found

theorem construct_idOf {fiber : Nat} (unknown : contexts.contextId fiber = none)
    (executor : Executor) (id : Nat) (found : contexts.idOf executor = some id) :
    (contexts.construct fiber).idOf executor = some id := by
  cases executor with
  | thread other => exact found
  | fiber other =>
      have different : other ≠ fiber := by
        rintro rfl
        cases unknown.symm.trans found
      exact (Function.update_of_ne different ..).trans found

end ExecutionContexts
end Cxloom
