import Cxloom.Api.ConditionBits

/-!
# Signals and timeouts

A call that has passed its deadline decides to time out when it polls and gives its bit back later.
A notification in between selects a call that will not look at its ready bit again.  In runs where
no notification falls into that gap, every selected call returns success.
-/

namespace Cxloom.Api

/-- A call that a notification may still wake. -/
def ConditionWaiter.Listening (waiter : ConditionWaiter) : Prop :=
  waiter.phase = .registered ∨ waiter.phase = .polling

instance (waiter : ConditionWaiter) : Decidable waiter.Listening :=
  inferInstanceAs (Decidable (_ ∨ _))

namespace ConditionWorld

/-- The hooks, reads and mutex operations of an action succeed. -/
def AllSucceed (_ : ConditionWorld) : ConditionOp → Prop
  | .wait _ ended | .cleanup _ ended | .notify _ ended => ended.released = .ok
  | .unlock _ status => status = .ok
  | .poll _ acquired read _ => acquired = .ok ∧ read = .ok
  | .relock _ reacquired => reacquired = .ok

/-- A notification selects only calls that still poll. -/
def SelectsListening (world : ConditionWorld) : ConditionOp → Prop
  | .notify all _ => ∀ waiter ∈ world.waiters, waiter.active = true →
      world.state.selection all &&& waiter.bit ≠ 0#64 → waiter.Listening
  | _ => True

/-- Everything succeeds and no notification falls between a timeout and its cleanup. -/
def Undisturbed (world : ConditionWorld) (op : ConditionOp) : Prop :=
  world.AllSucceed op ∧ world.SelectsListening op

instance decidableAllSucceed (world : ConditionWorld) :
    ∀ op : ConditionOp, Decidable (world.AllSucceed op)
  | .wait _ ended | .cleanup _ ended | .notify _ ended =>
      inferInstanceAs (Decidable (ended.released = .ok))
  | .unlock _ status => inferInstanceAs (Decidable (status = .ok))
  | .poll _ acquired read _ => inferInstanceAs (Decidable (acquired = .ok ∧ read = .ok))
  | .relock _ reacquired => inferInstanceAs (Decidable (reacquired = .ok))

instance decidableSelectsListening (world : ConditionWorld) :
    ∀ op : ConditionOp, Decidable (world.SelectsListening op)
  | .wait .. | .cleanup .. | .unlock _ _ | .poll .. | .relock .. => .isTrue trivial
  | .notify all _ => inferInstanceAs (Decidable (∀ waiter ∈ world.waiters, waiter.active = true →
      world.state.selection all &&& waiter.bit ≠ 0#64 → waiter.Listening))

instance decidableUndisturbed (world : ConditionWorld) (op : ConditionOp) :
    Decidable (world.Undisturbed op) :=
  inferInstanceAs (Decidable (_ ∧ _))

def Kept (world : ConditionWorld) : Prop :=
  ∀ (call : Nat) (waiter : ConditionWaiter), world.waiters[call]? = some waiter →
    waiter.selected = true → waiter.Listening ∨ waiter.Succeeds

variable {world : ConditionWorld}

theorem AllSucceed.accounted {op : ConditionOp} (succeeds : world.AllSucceed op) :
    world.Accounted op := by
  cases op with
  | wait timed ended => exact Or.inl succeeds
  | cleanup call ended => exact ended.complete succeeds
  | unlock | poll | relock | notify => trivial

theorem Kept.setWaiter (kept : world.Kept) {call : Nat} {waiter changed : ConditionWaiter}
    (present : world.waiters[call]? = some waiter)
    (decided : changed.selected = true → changed.Listening ∨ changed.Succeeds) :
    (world.setWaiter call changed).Kept := by
  intro other found here selected
  rw [getElem?_setWaiter present] at here
  split at here
  · cases here
    exact decided selected
  · exact kept other found here selected

theorem Kept.append (kept : world.Kept) {state : SharedCondition} {waiter : ConditionWaiter}
    (unselected : waiter.selected = false) : Kept ⟨state, world.waiters ++ [waiter]⟩ := by
  intro call found here selected
  rcases getElem?_append_singleton.mp here with earlier | ⟨-, rfl⟩
  · exact kept call found earlier selected
  · rw [unselected] at selected
    cases selected

/-- A selected call sees its ready bit at the next poll. -/
theorem BitInv.poll_selected (inv : BitInv world) {call : Nat} {waiter : ConditionWaiter}
    (present : world.waiters[call]? = some waiter) (phase : waiter.phase = .polling)
    (selected : waiter.selected = true) (expired : Bool) :
    waiter.poll world.state .ok .ok expired = { waiter with phase := .cleaning .ok true } := by
  have active : waiter.active = true := by simp [ConditionWaiter.active, phase]
  obtain ⟨position, below, bit⟩ := inv.bits call waiter present active
  have ready := inv.ready position below call waiter present active bit
  rw [selected, HostMask.contains, ← bit, decide_eq_true_eq] at ready
  simp [ConditionWaiter.poll, ready]

/-- A poll does not change whether a call was selected. -/
theorem selected_poll (waiter : ConditionWaiter) (state : SharedCondition) (expired : Bool) :
    (waiter.poll state .ok .ok expired).selected = waiter.selected := by
  simp only [ConditionWaiter.poll]
  split_ifs <;> rfl

/-- Every undisturbed action keeps the selected calls. -/
theorem Kept.next (kept : world.Kept) (inv : BitInv world) {op : ConditionOp}
    {after : ConditionWorld} (undisturbed : world.Undisturbed op)
    (performed : world.next op = some after) : after.Kept := by
  obtain ⟨succeeds, listening⟩ := undisturbed
  cases next_outcome performed with
  | refused | registered | unregistered => exact kept.append rfl
  | unlocked status present phase =>
      obtain rfl : status = .ok := succeeds
      exact kept.setWaiter present fun _ => .inl (.inr rfl)
  | @polled call waiter acquired read expired present phase =>
      obtain ⟨rfl, rfl⟩ := succeeds
      refine kept.setWaiter present fun selected => ?_
      rw [selected_poll] at selected
      rw [inv.poll_selected present phase selected]
      exact .inr (.inl ⟨true, rfl⟩)
  | @cleaned call waiter status unlocked ended present phase =>
      have released : ended.released = .ok := succeeds
      have before : Kept { world with
          state := ended.keep world.state (world.state.cleanup waiter.bit) } := kept
      refine before.setWaiter present fun selected => ?_
      rcases kept call waiter present selected with (early | early) | (⟨_, ok⟩ | late | late)
      · rw [phase] at early; cases early
      · rw [phase] at early; cases early
      · rw [phase] at ok
        cases ok
        right
        cases unlocked
        · exact .inr (.inr rfl)
        · exact .inr (.inl (congrArg WaitPhase.relocking (if_pos released)))
      · rw [phase] at late; cases late
      · rw [phase] at late; cases late
  | @relocked call waiter status reacquired present phase =>
      obtain rfl : reacquired = .ok := succeeds
      refine kept.setWaiter present fun selected => ?_
      rcases kept call waiter present selected with (early | early) | (⟨_, ok⟩ | late | late)
      · rw [phase] at early; cases early
      · rw [phase] at early; cases early
      · rw [phase] at ok; cases ok
      · rw [phase] at late
        cases late
        exact .inr (.inr (.inr rfl))
      · rw [phase] at late; cases late
  | unnotified => exact kept
  | notified all =>
      intro call found here selected
      simp only [List.getElem?_map, Option.map_eq_some_iff] at here
      obtain ⟨waiter, before, rfl⟩ := here
      obtain ⟨-, phase, -, -⟩ := BitInv.select_fields waiter (world.state.selection all)
      simp only [ConditionWaiter.Listening, ConditionWaiter.Succeeds, phase]
      by_cases earlier : waiter.selected = true
      · exact kept call waiter before earlier
      · left
        by_cases chosen : waiter.active ∧ world.state.selection all &&& waiter.bit ≠ 0#64
        · exact listening waiter (List.mem_of_getElem? before) chosen.1 chosen.2
        · rw [ConditionWaiter.select, if_neg chosen] at selected
          exact absurd selected earlier

theorem reached_kept (execution : Run.ReachesBy next Undisturbed initial world) :
    BitInv world ∧ world.Kept := by
  refine execution.preserves (fun state => BitInv state ∧ state.Kept) ⟨BitInv.initially, ?_⟩ ?_
  · simp [Kept, initial]
  · rintro before op after ⟨inv, kept⟩ undisturbed performed
    exact ⟨inv.next undisturbed.1.accounted performed, kept.next inv undisturbed performed⟩

/-- In a run without a notification between a timeout and its cleanup, a selected call that has
returned has returned success, so no call that was selected times out; a signal that finds a
registered call unselected selects one, and its next poll succeeds. -/
theorem selected_calls_succeed (execution : Run.ReachesBy next Undisturbed initial world) :
    (∀ (call : Nat) (waiter : ConditionWaiter) (status : StatusCode),
      world.waiters[call]? = some waiter → waiter.selected = true →
      waiter.phase = .returned status → status = .ok) ∧
    (∀ (call : Nat) (waiter : ConditionWaiter), world.waiters[call]? = some waiter →
      waiter.phase = .returned .unavailable → waiter.selected = false) ∧
    (∀ after, world.next (.notify false .completed) = some after →
      (∃ call, world.activeAt call = true ∧ world.selectedAt call = false) →
      ∃ chosen, world.selectedAt chosen = false ∧ after.selectedAt chosen = true) ∧
    ∀ (call : Nat) (waiter : ConditionWaiter), world.waiters[call]? = some waiter →
      waiter.phase = .polling → waiter.selected = true → ∀ expired,
        waiter.poll world.state .ok .ok expired =
          { waiter with phase := .cleaning .ok true } := by
  obtain ⟨inv, kept⟩ := reached_kept execution
  have success : ∀ (call : Nat) (waiter : ConditionWaiter) (status : StatusCode),
      world.waiters[call]? = some waiter → waiter.selected = true →
      waiter.phase = .returned status → status = .ok := by
    intro call waiter status present selected phase
    rcases kept call waiter present selected with (early | early) | (⟨_, late⟩ | late | late)
    · rw [phase] at early; cases early
    · rw [phase] at early; cases early
    · rw [phase] at late; cases late
    · rw [phase] at late; cases late
    · rw [phase] at late; cases late; rfl
  refine ⟨success, ?_, ?_, ?_⟩
  · intro call waiter present phase
    by_contra selected
    have impossible := success call waiter _ present (by simpa using selected) phase
    cases impossible
  · intro after performed someone
    obtain ⟨chosen, -, unselected, selects⟩ := inv.signal rfl performed someone
    exact ⟨chosen, unselected, by simp [selects]⟩
  · intro call waiter present phase selected expired
    exact inv.poll_selected present phase selected expired

/-- A timed call is selected before its deadline and returns after it. -/
def promptOps : List ConditionOp :=
  [.wait true .completed, .wait false .completed, .unlock 0 .ok, .unlock 1 .ok,
    .poll 0 .ok .ok false, .notify false .completed, .poll 0 .ok .ok true, .cleanup 0 .completed,
    .relock 0 .ok]

theorem selected_calls_succeed_prompt :
    ∃ world, Run.runLabels next initial promptOps = some world ∧ world.selectedAt 0 = true ∧
      ∀ (waiter : ConditionWaiter) (status : StatusCode), world.waiters[0]? = some waiter →
        waiter.phase = .returned status → status = .ok := by
  have outcome : (Run.runLabels next initial promptOps).any (fun world =>
      world.selectedAt 0 = true) = true := by
    decide +kernel
  have undisturbed : Run.AdmitsLabels next Undisturbed initial promptOps := by
    decide +kernel
  obtain ⟨world, execution, facts⟩ := (Option.any_eq_true _ _).mp outcome
  have selected := of_decide_eq_true facts
  refine ⟨world, execution, selected, fun waiter status present phase => ?_⟩
  refine (selected_calls_succeed (Run.reachesBy_of_runLabels execution undisturbed)).1 0 waiter
    status present ?_ phase
  rw [selectedAt, present, Option.any_some] at selected
  exact selected

/-- A timed call passes its deadline, a signal selects it, and it gives its bit back. -/
def swallowedOps : List ConditionOp :=
  [.wait true .completed, .wait false .completed, .unlock 0 .ok, .unlock 1 .ok,
    .poll 0 .ok .ok true, .notify false .completed, .cleanup 0 .completed, .relock 0 .ok]

/-- The signal is lost: the call it selected returns the timeout result while another call stays
unselected. -/
theorem timeout_swallows_signal :
    ∃ world, Run.ReachesBy next AllSucceed initial world ∧
      world.waiters.map (fun waiter => (waiter.phase, waiter.selected)) =
        [(.returned .unavailable, true), (.polling, false)] := by
  have outcome : (Run.runLabels next initial swallowedOps).any (fun world =>
      world.waiters.map (fun waiter => (waiter.phase, waiter.selected)) =
        [(.returned .unavailable, true), (.polling, false)]) = true := by
    decide +kernel
  have succeed : Run.AdmitsLabels next AllSucceed initial swallowedOps := by
    decide +kernel
  obtain ⟨world, execution, facts⟩ := (Option.any_eq_true _ _).mp outcome
  exact ⟨world, Run.reachesBy_of_runLabels execution succeed, of_decide_eq_true facts⟩

end ConditionWorld
end Cxloom.Api
