import Cxloom.Api.Condition
import Mathlib.Data.Finset.Card

/-!
# The bits of a distributed condition

Every registered waiter has a bit of its own, and its ready bit says whether a notification has
selected it since.  The bits of calls that have left are clear, so a later call that takes one
starts unselected.

A registration that fails after its block was published has set a bit that no call gives back.
`WaitCondition` returns the error without a cleanup, while its path for a failed unlock has one.
-/

namespace Cxloom.Api

/-- A call that has decided to return success. -/
def ConditionWaiter.Succeeds (waiter : ConditionWaiter) : Prop :=
  (∃ unlocked, waiter.phase = .cleaning .ok unlocked) ∨ waiter.phase = .relocking .ok ∨
    waiter.phase = .returned .ok

namespace ConditionWorld

def Accounted (world : ConditionWorld) : ConditionOp → Prop
  | .wait _ ended =>
      ended.released = .ok ∨ ended.published = false ∨ world.state.register = none
  | .cleanup _ ended => ended.published = true
  | _ => True

instance decidableAccounted (world : ConditionWorld) :
    ∀ op : ConditionOp, Decidable (world.Accounted op)
  | .wait _ ended => inferInstanceAs (Decidable
      (ended.released = .ok ∨ ended.published = false ∨ world.state.register = none))
  | .cleanup _ ended => inferInstanceAs (Decidable (ended.published = true))
  | .unlock _ _ | .poll .. | .relock .. | .notify .. => .isTrue trivial

def Holds (world : ConditionWorld) (call position : Nat) : Prop :=
  ∃ waiter : ConditionWaiter, world.waiters[call]? = some waiter ∧ waiter.active = true ∧
    waiter.bit = HostMask.bit position

/-- The bits are in step with the calls. -/
structure BitInv (world : ConditionWorld) : Prop where
  bits : ∀ (call : Nat) (waiter : ConditionWaiter), world.waiters[call]? = some waiter →
    waiter.active = true →
    ∃ position < 64, waiter.bit = HostMask.bit position
  /-- No two registered calls have the same bit. -/
  unique : ∀ position < 64, ∀ call other, world.Holds call position →
    world.Holds other position → call = other
  /-- The waiting bits are those of the registered calls. -/
  waiting : ∀ position < 64,
    world.state.waiting.contains position = true ↔ ∃ call, world.Holds call position
  /-- The ready bit of a registered call says whether it was selected. -/
  ready : ∀ position < 64, ∀ (call : Nat) (waiter : ConditionWaiter),
    world.waiters[call]? = some waiter → waiter.active = true →
    waiter.bit = HostMask.bit position →
    world.state.ready.contains position = waiter.selected
  subset : ∀ position < 64, world.state.ready.contains position = true →
    world.state.waiting.contains position = true
  success : ∀ (call : Nat) (waiter : ConditionWaiter), world.waiters[call]? = some waiter →
    waiter.Succeeds →
    waiter.selected = true

theorem getElem?_setWaiter {world : ConditionWorld} {call : Nat} {waiter : ConditionWaiter}
    (present : world.waiters[call]? = some waiter) (changed : ConditionWaiter) (other : Nat) :
    (world.setWaiter call changed).waiters[other]? =
      if other = call then some changed else world.waiters[other]? := by
  have below := (List.getElem?_eq_some_iff.mp present).1
  simp only [setWaiter, List.getElem?_set]
  by_cases same : other = call
  · subst same
    simp [below]
  · simp [same, Ne.symm same]

@[simp] theorem setWaiter_state (world : ConditionWorld) (call : Nat) (waiter : ConditionWaiter) :
    (world.setWaiter call waiter).state = world.state := rfl

theorem getElem?_append_singleton {waiters : List ConditionWaiter} {waiter : ConditionWaiter}
    {call : Nat} {found : ConditionWaiter} :
    (waiters ++ [waiter])[call]? = some found ↔
      waiters[call]? = some found ∨ (call = waiters.length ∧ found = waiter) := by
  rcases Nat.lt_trichotomy call waiters.length with before | rfl | behind
  · rw [List.getElem?_append_left before]
    simp [before.ne]
  · simp [eq_comm]
  · have short : (waiters ++ [waiter]).length ≤ call := by
      simp only [List.length_append, List.length_singleton]
      omega
    simp [List.getElem?_eq_none_iff.mpr short, List.getElem?_eq_none_iff.mpr behind.le, behind.ne']

/-! ## Words -/

section Words

variable {state : SharedCondition}

/-- A free bit is found exactly when one is left. -/
theorem register_eq_none_iff :
    state.register = none ↔ ∀ position < 64, state.waiting.contains position = true := by
  simp only [SharedCondition.register]
  constructor
  · intro refused position below
    split at refused
    · rename_i full
      have complement : (~~~state.waiting).contains position = false := by rw [full]; simp
      rw [HostMask.contains_not _ below] at complement
      simpa using complement
    · cases refused
  · intro full
    rw [if_pos]
    apply BitVec.eq_of_getLsbD_eq
    intro position below
    rw [← HostMask.contains_eq_getLsbD _ below, HostMask.contains_not _ below, full position below]
    simp

/-- The bit that is found is free. -/
theorem register_spec {bit : HostMask} {after : SharedCondition}
    (registered : state.register = some (bit, after)) :
    ∃ position < 64, bit = HostMask.bit position ∧ state.waiting.contains position = false ∧
      ∀ other < 64,
        (after.waiting.contains other = (state.waiting.contains other || other = position)) ∧
        (after.ready.contains other =
          (state.ready.contains other && !decide (other = position))) := by
  simp only [SharedCondition.register] at registered
  split at registered
  · cases registered
  · rename_i nonempty
    obtain ⟨position, below, member, single⟩ := HostMask.lowest_eq_bit nonempty
    cases registered
    refine ⟨position, below, single, ?_, fun other inside => ?_⟩
    · rw [HostMask.contains_not _ below] at member
      simpa using member
    · rw [single]
      exact ⟨HostMask.contains_or_bit _ inside, HostMask.contains_and_not_bit _ inside⟩

theorem cleanup_spec (position : Nat) {other : Nat} (inside : other < 64) :
    ((state.cleanup (HostMask.bit position)).waiting.contains other =
      (state.waiting.contains other && !decide (other = position))) ∧
    (state.cleanup (HostMask.bit position)).ready.contains other =
      (state.ready.contains other && !decide (other = position)) :=
  ⟨HostMask.contains_and_not_bit _ inside, HostMask.contains_and_not_bit _ inside⟩

theorem selection_pending (all : Bool) {position : Nat} (below : position < 64)
    (selected : (state.selection all).contains position = true) :
    state.waiting.contains position = true ∧ state.ready.contains position = false := by
  have pending : (state.waiting &&& ~~~state.ready).contains position = true := by
    simp only [SharedCondition.selection] at selected
    split at selected
    · exact selected
    · rw [HostMask.contains_lowest _ below] at selected
      exact (Bool.and_eq_true_iff.mp selected).1
  rw [HostMask.contains_and _ _ below, HostMask.contains_not _ below] at pending
  simpa using pending

/-- A broadcast selects every bit that waits and is not ready. -/
theorem selection_all {position : Nat} (below : position < 64) :
    (state.selection true).contains position =
      (state.waiting.contains position && !state.ready.contains position) := by
  simp only [SharedCondition.selection, if_true]
  rw [HostMask.contains_and _ _ below, HostMask.contains_not _ below]

theorem selection_one {position : Nat} (below : position < 64)
    (waits : state.waiting.contains position = true)
    (unready : state.ready.contains position = false) :
    ∃ chosen < 64, state.selection false = HostMask.bit chosen ∧
      state.waiting.contains chosen = true ∧ state.ready.contains chosen = false := by
  have nonempty : state.waiting &&& ~~~state.ready ≠ 0#64 := by
    intro empty
    have member := HostMask.contains_and state.waiting (~~~state.ready) below
    rw [empty, HostMask.contains_not _ below, waits, unready] at member
    simp at member
  obtain ⟨chosen, inside, member, single⟩ := HostMask.lowest_eq_bit nonempty
  rw [HostMask.contains_and _ _ inside, HostMask.contains_not _ inside] at member
  refine ⟨chosen, inside, ?_, by simpa using member⟩
  simpa [SharedCondition.selection] using single

end Words

/-! ## Preservation -/

namespace BitInv

variable {world : ConditionWorld}

theorem initially : BitInv initial := by
  constructor <;> simp [initial, Holds, SharedCondition.initial]

theorem setWaiter (inv : BitInv world) {call : Nat} {waiter changed : ConditionWaiter}
    (present : world.waiters[call]? = some waiter) (bit : changed.bit = waiter.bit)
    (active : changed.active = waiter.active) (selected : changed.selected = waiter.selected)
    (success : changed.Succeeds → changed.selected = true) :
    BitInv (world.setWaiter call changed) := by
  have lookup := getElem?_setWaiter present changed
  have holds : ∀ other position,
      (world.setWaiter call changed).Holds other position ↔ world.Holds other position := by
    intro other position
    simp only [Holds, lookup]
    by_cases same : other = call
    · subst same
      simp only [if_true, present, Option.some_inj, exists_eq_left', bit, active]
    · simp only [same, if_false]
  constructor
  case bits =>
    intro other found here isActive
    rw [lookup] at here
    split at here
    · cases here
      rw [bit]
      exact inv.bits call waiter present (active ▸ isActive)
    · exact inv.bits other found here isActive
  case unique =>
    intro position below first second one two
    exact inv.unique position below first second ((holds _ _).mp one) ((holds _ _).mp two)
  case waiting =>
    intro position below
    simp only [holds]
    exact inv.waiting position below
  case ready =>
    intro position below other found here isActive isBit
    rw [lookup] at here
    split at here
    · cases here
      rw [selected]
      exact inv.ready position below call waiter present (active ▸ isActive) (bit ▸ isBit)
    · exact inv.ready position below other found here isActive isBit
  case subset => exact inv.subset
  case success =>
    intro other found here succeeds
    rw [lookup] at here
    split at here
    · cases here
      exact success succeeds
    · exact inv.success other found here succeeds

/-- A call that was not registered. -/
theorem refused (inv : BitInv world) (timed : Bool) {status : StatusCode} (failed : status ≠ .ok) :
    BitInv { world with waiters := world.waiters ++ [.refused timed status] } := by
  have holds : ∀ call position, ({ world with
      waiters := world.waiters ++ [.refused timed status] } : ConditionWorld).Holds call position ↔
        world.Holds call position := by
    intro call position
    constructor
    · rintro ⟨waiter, here, active, bit⟩
      rcases getElem?_append_singleton.mp here with earlier | ⟨-, rfl⟩
      · exact ⟨waiter, earlier, active, bit⟩
      · simp [ConditionWaiter.refused, ConditionWaiter.active] at active
    · rintro ⟨waiter, here, rest⟩
      exact ⟨waiter, getElem?_append_singleton.mpr (.inl here), rest⟩
  constructor
  case bits =>
    intro call waiter here active
    rcases getElem?_append_singleton.mp here with earlier | ⟨-, rfl⟩
    · exact inv.bits call waiter earlier active
    · simp [ConditionWaiter.refused, ConditionWaiter.active] at active
  case unique =>
    intro position below call other one two
    exact inv.unique position below call other ((holds _ _).mp one) ((holds _ _).mp two)
  case waiting =>
    intro position below
    simp only [holds]
    exact inv.waiting position below
  case ready =>
    intro position below call waiter here active bit
    rcases getElem?_append_singleton.mp here with earlier | ⟨-, rfl⟩
    · exact inv.ready position below call waiter earlier active bit
    · simp [ConditionWaiter.refused, ConditionWaiter.active] at active
  case subset => exact inv.subset
  case success =>
    intro call waiter here succeeds
    rcases getElem?_append_singleton.mp here with earlier | ⟨-, rfl⟩
    · exact inv.success call waiter earlier succeeds
    · simp [ConditionWaiter.refused, ConditionWaiter.Succeeds, failed] at succeeds

/-- A call that takes a free bit. -/
theorem registered (inv : BitInv world) {bit : HostMask} {state : SharedCondition}
    (free : world.state.register = some (bit, state)) (timed : Bool) :
    BitInv ⟨state, world.waiters ++ [⟨bit, timed, .registered, false⟩]⟩ := by
  obtain ⟨taken, inside, rfl, vacant, words⟩ := register_spec free
  have unheld : ∀ call, ¬world.Holds call taken := by
    intro call holds
    rw [(inv.waiting taken inside).mpr ⟨call, holds⟩] at vacant
    cases vacant
  have holds : ∀ call position, position < 64 →
      ((⟨state, world.waiters ++ [⟨HostMask.bit taken, timed, .registered, false⟩]⟩ :
        ConditionWorld).Holds call position ↔
          world.Holds call position ∨ (call = world.waiters.length ∧ position = taken)) := by
    intro call position below
    constructor
    · rintro ⟨waiter, here, active, bit⟩
      rcases getElem?_append_singleton.mp here with earlier | ⟨last, rfl⟩
      · exact .inl ⟨waiter, earlier, active, bit⟩
      · exact .inr ⟨last, HostMask.bit_injective below bit.symm⟩
    · rintro (⟨waiter, here, rest⟩ | ⟨rfl, rfl⟩)
      · exact ⟨waiter, getElem?_append_singleton.mpr (.inl here), rest⟩
      · exact ⟨_, getElem?_append_singleton.mpr (.inr ⟨rfl, rfl⟩), rfl, rfl⟩
  constructor
  case bits =>
    intro call waiter here active
    rcases getElem?_append_singleton.mp here with earlier | ⟨-, rfl⟩
    · exact inv.bits call waiter earlier active
    · exact ⟨taken, inside, rfl⟩
  case unique =>
    intro position below call other one two
    rcases (holds _ _ below).mp one with earlier | ⟨rfl, rfl⟩
    · rcases (holds _ _ below).mp two with earlier' | ⟨rfl, rfl⟩
      · exact inv.unique position below call other earlier earlier'
      · exact absurd earlier (unheld call)
    · rcases (holds _ _ below).mp two with earlier' | ⟨rfl, -⟩
      · exact absurd earlier' (unheld other)
      · rfl
  case waiting =>
    intro position below
    rw [(words position below).1, Bool.or_eq_true, decide_eq_true_eq, inv.waiting position below]
    simp only [holds _ _ below]
    constructor
    · rintro (⟨call, held⟩ | rfl)
      · exact ⟨call, .inl held⟩
      · exact ⟨_, .inr ⟨rfl, rfl⟩⟩
    · rintro ⟨call, held | ⟨-, rfl⟩⟩
      · exact .inl ⟨call, held⟩
      · exact .inr rfl
  case ready =>
    intro position below call waiter here active bit
    rw [(words position below).2]
    rcases getElem?_append_singleton.mp here with earlier | ⟨-, rfl⟩
    · have different : position ≠ taken := by
        rintro rfl
        exact unheld call ⟨waiter, earlier, active, bit⟩
      simpa [different] using inv.ready position below call waiter earlier active bit
    · obtain rfl := HostMask.bit_injective below bit.symm
      simp
  case subset =>
    intro position below member
    rw [(words position below).2, Bool.and_eq_true] at member
    rw [(words position below).1, inv.subset position below member.1, Bool.true_or]
  case success =>
    intro call waiter here succeeds
    rcases getElem?_append_singleton.mp here with earlier | ⟨-, rfl⟩
    · exact inv.success call waiter earlier succeeds
    · simp [ConditionWaiter.Succeeds] at succeeds

/-- A call that gives its bit back. -/
theorem cleaned (inv : BitInv world) {call : Nat} {waiter changed : ConditionWaiter}
    (present : world.waiters[call]? = some waiter) (active : waiter.active = true)
    (inactive : changed.active = false)
    (success : changed.Succeeds → changed.selected = true) :
    BitInv ({ world with state := world.state.cleanup waiter.bit }.setWaiter call changed) := by
  obtain ⟨taken, inside, bit⟩ := inv.bits call waiter present active
  have words : ∀ position < 64,
      ((world.state.cleanup waiter.bit).waiting.contains position =
        (world.state.waiting.contains position && !decide (position = taken))) ∧
      (world.state.cleanup waiter.bit).ready.contains position =
        (world.state.ready.contains position && !decide (position = taken)) := by
    intro position below
    rw [bit]
    exact cleanup_spec taken below
  have lookup : ∀ other,
      ({ world with state := world.state.cleanup waiter.bit }.setWaiter call
        changed).waiters[other]? = if other = call then some changed else world.waiters[other]? :=
    getElem?_setWaiter present changed
  have holds : ∀ other position, position < 64 →
      (({ world with state := world.state.cleanup waiter.bit }.setWaiter call changed).Holds other
        position ↔ world.Holds other position ∧ position ≠ taken) := by
    intro other position below
    simp only [Holds, lookup]
    by_cases same : other = call
    · subst same
      simp only [if_true, Option.some_inj, exists_eq_left', inactive, Bool.false_eq_true, false_and,
        present, active, true_and, bit, false_iff, not_and, not_not]
      exact fun same => HostMask.bit_injective below same.symm
    · simp only [same, if_false]
      refine (and_iff_left_of_imp ?_).symm
      rintro ⟨found, here, isActive, isBit⟩ rfl
      exact same (inv.unique position below other call ⟨found, here, isActive, isBit⟩
        ⟨waiter, present, active, bit⟩)
  constructor
  case bits =>
    intro other found here isActive
    rw [lookup] at here
    split at here
    · cases here
      rw [inactive] at isActive
      cases isActive
    · exact inv.bits other found here isActive
  case unique =>
    intro position below first second one two
    exact inv.unique position below first second ((holds _ _ below).mp one).1
      ((holds _ _ below).mp two).1
  case waiting =>
    intro position below
    simp only [setWaiter_state, (words position below).1, holds _ _ below, exists_and_right,
      ← inv.waiting position below]
    simp
  case ready =>
    intro position below other found here isActive isBit
    simp only [setWaiter_state, (words position below).2]
    have held := (holds other position below).mp ⟨found, here, isActive, isBit⟩
    rw [lookup] at here
    split at here
    · cases here
      rw [inactive] at isActive
      cases isActive
    · simpa [held.2] using inv.ready position below other found here isActive isBit
  case subset =>
    intro position below member
    simp only [setWaiter_state, (words position below).1, (words position below).2,
      Bool.and_eq_true] at member ⊢
    exact ⟨inv.subset position below member.1, member.2⟩
  case success =>
    intro other found here succeeds
    rw [lookup] at here
    split at here
    · cases here
      exact success succeeds
    · exact inv.success other found here succeeds

/-- Whether a notification selects a registered call depends on its bit alone. -/
theorem select_eq {waiter : ConditionWaiter} {position : Nat} (selection : HostMask)
    (active : waiter.active = true) (bit : waiter.bit = HostMask.bit position) :
    (waiter.select selection).selected = (waiter.selected || selection.contains position) := by
  simp only [ConditionWaiter.select, active, bit, true_and, HostMask.contains]
  split
  · rename_i chosen
    simp [chosen]
  · rename_i other
    simp [not_not.mp other]

theorem select_fields (waiter : ConditionWaiter) (selection : HostMask) :
    (waiter.select selection).bit = waiter.bit ∧ (waiter.select selection).phase = waiter.phase ∧
      (waiter.select selection).active = waiter.active ∧
      (waiter.selected = true → (waiter.select selection).selected = true) := by
  simp only [ConditionWaiter.select]
  split
  · exact ⟨rfl, rfl, rfl, fun _ => rfl⟩
  · exact ⟨rfl, rfl, rfl, id⟩

theorem notified (inv : BitInv world) (all : Bool) :
    BitInv ⟨world.state.notify all,
      world.waiters.map fun waiter => waiter.select (world.state.selection all)⟩ := by
  have lookup : ∀ (call : Nat) (found : ConditionWaiter),
      (world.waiters.map fun waiter => waiter.select (world.state.selection all))[call]? =
        some found ↔ ∃ waiter, world.waiters[call]? = some waiter ∧
          waiter.select (world.state.selection all) = found := by
    intro call found
    simp only [List.getElem?_map, Option.map_eq_some_iff]
  have holds : ∀ call position,
      (⟨world.state.notify all,
        world.waiters.map fun waiter => waiter.select (world.state.selection all)⟩ :
          ConditionWorld).Holds call position ↔ world.Holds call position := by
    intro call position
    simp only [Holds, lookup]
    constructor
    · rintro ⟨found, ⟨waiter, here, rfl⟩, active, bit⟩
      obtain ⟨sameBit, -, sameActive, -⟩ := select_fields waiter (world.state.selection all)
      exact ⟨waiter, here, sameActive ▸ active, sameBit ▸ bit⟩
    · rintro ⟨waiter, here, active, bit⟩
      obtain ⟨sameBit, -, sameActive, -⟩ := select_fields waiter (world.state.selection all)
      exact ⟨_, ⟨waiter, here, rfl⟩, sameActive.trans active, sameBit.trans bit⟩
  constructor
  case bits =>
    intro call found here active
    obtain ⟨waiter, before, rfl⟩ := (lookup call found).mp here
    obtain ⟨sameBit, -, sameActive, -⟩ := select_fields waiter (world.state.selection all)
    rw [sameBit]
    exact inv.bits call waiter before (sameActive ▸ active)
  case unique =>
    intro position below call other one two
    exact inv.unique position below call other ((holds _ _).mp one) ((holds _ _).mp two)
  case waiting =>
    intro position below
    simp only [holds]
    exact inv.waiting position below
  case ready =>
    intro position below call found here active bit
    obtain ⟨waiter, before, rfl⟩ := (lookup call found).mp here
    obtain ⟨sameBit, -, sameActive, -⟩ := select_fields waiter (world.state.selection all)
    rw [sameActive] at active
    rw [sameBit] at bit
    rw [select_eq _ active bit, ← inv.ready position below call waiter before active bit]
    exact HostMask.contains_or _ _ below
  case subset =>
    intro position below member
    simp only [SharedCondition.notify] at member ⊢
    rw [HostMask.contains_or _ _ below, Bool.or_eq_true] at member
    rcases member with earlier | new
    · exact inv.subset position below earlier
    · exact (selection_pending all below new).1
  case success =>
    intro call found here succeeds
    obtain ⟨waiter, before, rfl⟩ := (lookup call found).mp here
    obtain ⟨-, samePhase, -, kept⟩ := select_fields waiter (world.state.selection all)
    apply kept
    apply inv.success call waiter before
    simpa only [ConditionWaiter.Succeeds, samePhase] using succeeds

/-- A poll succeeds only if it sees the ready bit. -/
theorem polled (inv : BitInv world) {call : Nat} {waiter : ConditionWaiter}
    (present : world.waiters[call]? = some waiter) (phase : waiter.phase = .polling)
    (acquired read : StatusCode) (expired : Bool) :
    BitInv (world.setWaiter call (waiter.poll world.state acquired read expired)) := by
  have active : waiter.active = true := by simp [ConditionWaiter.active, phase]
  obtain ⟨position, below, bit⟩ := inv.bits call waiter present active
  have ready := inv.ready position below call waiter present active bit
  simp only [ConditionWaiter.poll]
  split
  · rename_i failed
    refine inv.setWaiter present rfl active.symm rfl ?_
    simp [ConditionWaiter.Succeeds, failed]
  · split
    · rename_i seen
      refine inv.setWaiter present rfl active.symm rfl fun _ => ?_
      rw [← ready, HostMask.contains, ← bit]
      simpa using seen.2
    · split
      · rename_i failed
        refine inv.setWaiter present rfl active.symm rfl ?_
        simp [ConditionWaiter.Succeeds, failed]
      · split
        · refine inv.setWaiter present rfl active.symm rfl ?_
          simp [ConditionWaiter.Succeeds]
        · exact inv.setWaiter present rfl rfl rfl (inv.success call waiter present)

/-- Every accounted action keeps the invariant. -/
theorem next (inv : BitInv world) {op : ConditionOp} {after : ConditionWorld}
    (accounted : world.Accounted op) (performed : world.next op = some after) : BitInv after := by
  cases next_outcome performed with
  | refused timed ended full =>
      exact inv.refused timed fun succeeded => by
        cases (ChangeEnd.result_eq_ok.mp succeeded).2
  | registered timed free => exact inv.registered free timed
  | unregistered timed free failed =>
      rcases accounted with released | unpublished | full
      · exact absurd released failed
      · rw [ChangeEnd.keep_unpublished unpublished]
        exact inv.refused timed failed
      · rw [free] at full
        cases full
  | @unlocked call waiter status present phase =>
      have active : waiter.active = true := by simp [ConditionWaiter.active, phase]
      rw [ConditionWaiter.unlock]
      split
      · refine inv.setWaiter present rfl active.symm rfl ?_
        simp [ConditionWaiter.Succeeds]
      · rename_i failed
        refine inv.setWaiter present rfl active.symm rfl ?_
        simp [ConditionWaiter.Succeeds, failed]
  | polled acquired read expired present phase => exact inv.polled present phase _ _ _
  | @cleaned call waiter status unlocked ended present phase =>
      have active : waiter.active = true := by simp [ConditionWaiter.active, phase]
      have success : status = .ok → waiter.selected = true := by
        rintro rfl
        exact inv.success call waiter present (.inl ⟨unlocked, phase⟩)
      rw [ChangeEnd.keep_published accounted]
      refine inv.cleaned present active ?_ ?_
      · cases unlocked <;> rfl
      · cases unlocked
        · simpa [ConditionWaiter.Succeeds, ConditionWaiter.clean] using success
        · simpa [ConditionWaiter.Succeeds, ConditionWaiter.clean, ChangeEnd.result_eq_ok] using
            fun _ => success
  | @relocked call waiter status reacquired present phase =>
      have inactive : waiter.active = false := by simp [ConditionWaiter.active, phase]
      refine inv.setWaiter present rfl inactive.symm rfl fun succeeds => ?_
      apply inv.success call waiter present
      simp only [ConditionWaiter.Succeeds, ConditionWaiter.relock, reduceCtorEq, exists_false,
        WaitPhase.returned.injEq, false_or] at succeeds
      split at succeeds
      · exact .inr (.inl (by rw [phase, succeeds]))
      · rename_i failed
        exact absurd succeeds failed
  | notified all _ => exact inv.notified all
  | unnotified => exact inv

end BitInv

theorem reached_bits {world : ConditionWorld}
    (execution : Run.ReachesBy next Accounted initial world) : BitInv world := by
  apply execution.preserves
  · exact BitInv.initially
  · intro before op after inv accounted performed
    exact inv.next accounted performed

/-! ## The discipline -/

/-- A call is registered. -/
def activeAt (world : ConditionWorld) (call : Nat) : Bool :=
  (world.waiters[call]?).any ConditionWaiter.active

def selectedAt (world : ConditionWorld) (call : Nat) : Bool :=
  (world.waiters[call]?).any ConditionWaiter.selected

def succeededAt (world : ConditionWorld) (call : Nat) : Bool :=
  (world.waiters[call]?).any fun waiter => waiter.phase = .returned .ok

/-- The registered calls. -/
def activeCalls (world : ConditionWorld) : Finset Nat :=
  (Finset.range world.waiters.length).filter fun call => world.activeAt call = true

/-- What the bitmaps promise in a state. -/
structure Discipline (world : ConditionWorld) : Prop where
  subset : world.state.ready &&& ~~~world.state.waiting = 0#64
  bits : ∀ call, world.activeAt call = true → ∃! position, position < 64 ∧ world.Holds call position
  /-- The waiting bits are those of the registered calls. -/
  waiting : ∀ position < 64,
    world.state.waiting.contains position = true ↔ ∃ call, world.Holds call position
  /-- No bit is shared. -/
  unique : ∀ position < 64, ∀ call other, world.Holds call position →
    world.Holds other position → call = other
  /-- With fewer than 64 registered calls a further one is registered, unselected, with its ready
  bit clear. -/
  register : world.activeCalls.card < 64 → ∀ timed ended, ended.released = .ok → ∃ after,
    world.next (.wait timed ended) = some after ∧ after.activeAt world.waiters.length = true ∧
      after.selectedAt world.waiters.length = false ∧
      ∀ position < 64, after.Holds world.waiters.length position →
        after.state.ready.contains position = false
  /-- With 64 registered calls a further one is refused, however its section ends. -/
  full : world.activeCalls.card = 64 → ∀ timed ended,
    ended.result .unavailable ≠ .ok ∧ world.next (.wait timed ended) =
      some { world with waiters := world.waiters ++ [.refused timed (ended.result .unavailable)] }
  /-- Never are more than 64 registered. -/
  bound : world.activeCalls.card ≤ 64
  success : ∀ call, world.succeededAt call = true → world.selectedAt call = true
  /-- A signal selects one registered call that was not selected, if there is one. -/
  signal : ∀ ended after, ended.published = true → world.next (.notify false ended) = some after →
    (∃ call, world.activeAt call = true ∧ world.selectedAt call = false) →
    ∃ chosen, world.activeAt chosen = true ∧ world.selectedAt chosen = false ∧
      ∀ call, after.selectedAt call = (world.selectedAt call || decide (call = chosen))
  /-- Otherwise it selects nobody. -/
  idle : ∀ ended after, world.next (.notify false ended) = some after →
    (∀ call, world.activeAt call = true → world.selectedAt call = true) →
    ∀ call, after.selectedAt call = world.selectedAt call
  /-- A broadcast selects the registered calls. -/
  broadcast : ∀ ended after, ended.published = true →
    world.next (.notify true ended) = some after →
    ∀ call, after.selectedAt call = (world.selectedAt call || world.activeAt call)
  /-- A notification that publishes nothing returns its error and changes nothing. -/
  unpublished : ∀ all ended after, ended.published = false →
    world.next (.notify all ended) = some after → ended.released ≠ .ok ∧ after = world

section Discipline

variable {world : ConditionWorld}

theorem activeAt_iff {call : Nat} : world.activeAt call = true ↔
    ∃ waiter : ConditionWaiter, world.waiters[call]? = some waiter ∧ waiter.active = true := by
  simp only [activeAt, Option.any_eq_true]

theorem Holds.activeAt {call position : Nat} (holds : world.Holds call position) :
    world.activeAt call = true := by
  obtain ⟨waiter, present, active, -⟩ := holds
  exact activeAt_iff.mpr ⟨waiter, present, active⟩

theorem BitInv.holds (inv : BitInv world) {call : Nat} (active : world.activeAt call = true) :
    ∃ position < 64, world.Holds call position := by
  obtain ⟨waiter, present, isActive⟩ := activeAt_iff.mp active
  obtain ⟨position, below, bit⟩ := inv.bits call waiter present isActive
  exact ⟨position, below, waiter, present, isActive, bit⟩

theorem BitInv.ready_eq (inv : BitInv world) {call position : Nat} (below : position < 64)
    (holds : world.Holds call position) :
    world.state.ready.contains position = world.selectedAt call := by
  obtain ⟨waiter, present, active, bit⟩ := holds
  rw [inv.ready position below call waiter present active bit, selectedAt, present, Option.any_some]

theorem mem_activeCalls {call : Nat} :
    call ∈ world.activeCalls ↔ world.activeAt call = true := by
  simp only [activeCalls, Finset.mem_filter, Finset.mem_range, and_iff_right_iff_imp]
  intro active
  obtain ⟨waiter, present, -⟩ := activeAt_iff.mp active
  exact (List.getElem?_eq_some_iff.mp present).1

def positions (world : ConditionWorld) : Finset Nat :=
  (Finset.range 64).filter fun position => world.state.waiting.contains position = true

theorem mem_positions {position : Nat} : position ∈ world.positions ↔
    position < 64 ∧ world.state.waiting.contains position = true := by
  rw [positions, Finset.mem_filter, Finset.mem_range]

theorem BitInv.taken (inv : BitInv world) {position : Nat} (member : position ∈ world.positions) :
    ∃ call, world.Holds call position := by
  obtain ⟨below, waits⟩ := mem_positions.mp member
  exact (inv.waiting position below).mp waits

/-- There are as many registered calls as waiting bits. -/
theorem BitInv.card (inv : BitInv world) : world.activeCalls.card = world.positions.card := by
  symm
  refine Finset.card_bij (fun position member => Classical.choose (inv.taken member)) ?_ ?_ ?_
  · intro position member
    exact mem_activeCalls.mpr (Classical.choose_spec (inv.taken member)).activeAt
  · intro position member other member' same
    obtain ⟨waiter, present, -, bit⟩ := Classical.choose_spec (inv.taken member)
    obtain ⟨waiter', present', -, bit'⟩ := Classical.choose_spec (inv.taken member')
    rw [← same, present, Option.some_inj] at present'
    subst present'
    exact HostMask.bit_injective (mem_positions.mp member).1 (bit.symm.trans bit')
  · intro call active
    obtain ⟨position, below, holds⟩ := inv.holds (mem_activeCalls.mp active)
    have member := mem_positions.mpr ⟨below, (inv.waiting position below).mpr ⟨call, holds⟩⟩
    exact ⟨position, member,
      inv.unique position below _ _ (Classical.choose_spec (inv.taken member)) holds⟩

/-- All bits are taken exactly when 64 calls are registered. -/
theorem BitInv.full_iff (inv : BitInv world) :
    world.activeCalls.card = 64 ↔ ∀ position < 64,
      world.state.waiting.contains position = true := by
  rw [inv.card]
  constructor
  · intro all position below
    have everything : world.positions = Finset.range 64 :=
      Finset.eq_of_subset_of_card_le (Finset.filter_subset _ _) (by rw [all, Finset.card_range])
    have member := Finset.mem_range.mpr below
    rw [← everything] at member
    exact (mem_positions.mp member).2
  · intro all
    rw [positions, Finset.filter_true_of_mem fun position member =>
      all position (Finset.mem_range.mp member), Finset.card_range]

/-- What a notification does to each call. -/
theorem BitInv.selectedAt_notify (inv : BitInv world) (all : Bool) {ended : ChangeEnd}
    (published : ended.published = true) {after : ConditionWorld}
    (performed : world.next (.notify all ended) = some after) (call : Nat) :
    (world.activeAt call = false ∧ after.selectedAt call = world.selectedAt call) ∨
      ∃ position < 64, world.Holds call position ∧
        after.selectedAt call =
          (world.selectedAt call || (world.state.selection all).contains position) := by
  simp only [ConditionWorld.next, if_pos published] at performed
  cases performed
  cases present : world.waiters[call]? with
  | none => exact .inl (by simp [activeAt, selectedAt, present])
  | some waiter =>
      simp only [activeAt, selectedAt, List.getElem?_map, present, Option.map_some, Option.any_some]
      cases active : waiter.active with
      | false => exact .inl ⟨rfl, by simp [ConditionWaiter.select, active]⟩
      | true =>
          obtain ⟨position, below, bit⟩ := inv.bits call waiter present active
          exact .inr ⟨position, below, ⟨waiter, present, active, bit⟩,
            BitInv.select_eq _ active bit⟩

theorem next_unpublished {all : Bool} {ended : ChangeEnd} (unpublished : ended.published = false)
    {after : ConditionWorld} (performed : world.next (.notify all ended) = some after) :
    ended.released ≠ .ok ∧ after = world := by
  refine ⟨fun released => ?_, ?_⟩
  · rw [ended.complete released] at unpublished
    cases unpublished
  · rw [next, if_neg (by simp [unpublished])] at performed
    exact (Option.some.inj performed).symm

theorem BitInv.signal (inv : BitInv world) {ended : ChangeEnd}
    (published : ended.published = true) {after : ConditionWorld}
    (performed : world.next (.notify false ended) = some after)
    (someone : ∃ call, world.activeAt call = true ∧ world.selectedAt call = false) :
    ∃ chosen, world.activeAt chosen = true ∧ world.selectedAt chosen = false ∧
      ∀ call, after.selectedAt call = (world.selectedAt call || decide (call = chosen)) := by
  obtain ⟨candidate, active, unselected⟩ := someone
  obtain ⟨position, below, holds⟩ := inv.holds active
  obtain ⟨bit, inside, single, waits, unready⟩ := selection_one below
    ((inv.waiting position below).mpr ⟨candidate, holds⟩)
    ((inv.ready_eq below holds).trans unselected)
  obtain ⟨chosen, held⟩ := (inv.waiting bit inside).mp waits
  refine ⟨chosen, held.activeAt, (inv.ready_eq inside held).symm.trans unready, fun call => ?_⟩
  rcases inv.selectedAt_notify false published performed call with
    ⟨inactive, same⟩ | ⟨position', below', holds', selected⟩
  · have different : call ≠ chosen := by
      rintro rfl
      rw [held.activeAt] at inactive
      cases inactive
    simp [same, different]
  · rw [selected, single, HostMask.contains_bit _ below']
    congr 1
    rw [decide_eq_decide]
    constructor
    · rintro rfl
      exact inv.unique position' below' call chosen holds' held
    · rintro rfl
      obtain ⟨waiter, present, -, bits⟩ := held
      obtain ⟨waiter', present', -, bits'⟩ := holds'
      rw [present, Option.some_inj] at present'
      subst present'
      exact HostMask.bit_injective below' (bits'.symm.trans bits)

theorem BitInv.idle (inv : BitInv world) {ended : ChangeEnd} {after : ConditionWorld}
    (performed : world.next (.notify false ended) = some after)
    (nobody : ∀ call, world.activeAt call = true → world.selectedAt call = true) (call : Nat) :
    after.selectedAt call = world.selectedAt call := by
  cases published : ended.published with
  | false => rw [(next_unpublished published performed).2]
  | true =>
      rcases inv.selectedAt_notify false published performed call with
        ⟨-, same⟩ | ⟨position, -, holds, selected⟩
      · exact same
      · rw [selected, nobody call holds.activeAt, Bool.true_or]

theorem BitInv.broadcast (inv : BitInv world) {ended : ChangeEnd}
    (published : ended.published = true) {after : ConditionWorld}
    (performed : world.next (.notify true ended) = some after) (call : Nat) :
    after.selectedAt call = (world.selectedAt call || world.activeAt call) := by
  rcases inv.selectedAt_notify true published performed call with
    ⟨inactive, same⟩ | ⟨position, below, holds, selected⟩
  · rw [same, inactive, Bool.or_false]
  · rw [selected, selection_all below, (inv.waiting position below).mpr ⟨call, holds⟩,
      inv.ready_eq below holds, holds.activeAt]
    cases world.selectedAt call <;> rfl

theorem BitInv.register (inv : BitInv world) (room : world.activeCalls.card < 64) (timed : Bool)
    {ended : ChangeEnd} (released : ended.released = .ok) :
    ∃ after, world.next (.wait timed ended) = some after ∧
      after.activeAt world.waiters.length = true ∧
      after.selectedAt world.waiters.length = false ∧
      ∀ position < 64, after.Holds world.waiters.length position →
        after.state.ready.contains position = false := by
  cases free : world.state.register with
  | none =>
      have all := inv.full_iff.mpr (register_eq_none_iff.mp free)
      omega
  | some result =>
      obtain ⟨bit, state⟩ := result
      have performed : world.next (.wait timed ended) =
          some ⟨state, world.waiters ++ [⟨bit, timed, .registered, false⟩]⟩ := by
        simp only [ConditionWorld.next, free, released, if_true,
          ended.keep_published (ended.complete released)]
      refine ⟨_, performed, ?_, ?_, fun position below holds => ?_⟩
      · simp [activeAt, ConditionWaiter.active]
      · simp [selectedAt]
      · have accounted : world.Accounted (.wait timed ended) := Or.inl released
        rw [(inv.next accounted performed).ready_eq below holds]
        simp [selectedAt]

end Discipline

/-- The bitmaps of a distributed condition keep their discipline in every state of every run in
which no failed registration was published and every cleanup was. -/
theorem bitmap_discipline {world : ConditionWorld}
    (execution : Run.ReachesBy next Accounted initial world) : world.Discipline := by
  have inv := reached_bits execution
  constructor
  case subset =>
    apply BitVec.eq_of_getLsbD_eq
    intro position below
    rw [← HostMask.contains_eq_getLsbD _ below, HostMask.contains_and _ _ below,
      HostMask.contains_not _ below, BitVec.getLsbD_zero]
    cases ready : world.state.ready.contains position with
    | false => rfl
    | true => simp [inv.subset position below ready]
  case bits =>
    intro call active
    obtain ⟨position, below, holds⟩ := inv.holds active
    refine ⟨position, ⟨below, holds⟩, ?_⟩
    rintro other ⟨inside, waiter, present, -, bit⟩
    obtain ⟨waiter', present', -, bit'⟩ := holds
    rw [present, Option.some_inj] at present'
    subst present'
    exact HostMask.bit_injective inside (bit.symm.trans bit')
  case waiting => exact inv.waiting
  case unique => exact inv.unique
  case register => exact fun room timed ended => inv.register room timed
  case full =>
    intro all timed ended
    refine ⟨fun succeeded => ?_, ?_⟩
    · cases (ChangeEnd.result_eq_ok.mp succeeded).2
    · have refused := register_eq_none_iff.mpr (inv.full_iff.mp all)
      simp only [next, refused]
  case bound =>
    rw [inv.card]
    exact (Finset.card_filter_le _ _).trans (Finset.card_range 64).le
  case success =>
    intro call succeeded
    obtain ⟨waiter, present, returned⟩ := (Option.any_eq_true _ _).mp succeeded
    rw [selectedAt, present, Option.any_some]
    exact inv.success call waiter present (.inr (.inr (of_decide_eq_true returned)))
  case signal => exact fun ended after published => inv.signal published
  case idle => exact fun ended after => inv.idle
  case broadcast => exact fun ended after published => inv.broadcast published
  case unpublished => exact fun all ended after unpublished => next_unpublished unpublished

/-- Two calls wait, a signal selects the first, which leaves; a third call takes its bit. -/
def reuseOps : List ConditionOp :=
  [.wait false .completed, .wait true .completed, .unlock 0 .ok, .notify false .completed,
    .poll 0 .ok .ok false, .cleanup 0 .completed, .relock 0 .ok, .wait false .completed]

theorem bitmap_discipline_reuse :
    ∃ world, Run.runLabels next initial reuseOps = some world ∧
      (world.waiters.map ConditionWaiter.bit) = [1#64, 2#64, 1#64] ∧
      world.selectedAt 0 = true ∧ world.selectedAt 2 = false ∧ world.Discipline := by
  have outcome : (Run.runLabels next initial reuseOps).any (fun world =>
      world.waiters.map ConditionWaiter.bit = [1#64, 2#64, 1#64] ∧
        world.succeededAt 0 = true ∧ world.selectedAt 2 = false) = true := by
    decide +kernel
  have accounted : Run.AdmitsLabels next Accounted initial reuseOps := by
    decide +kernel
  obtain ⟨world, execution, facts⟩ := (Option.any_eq_true _ _).mp outcome
  obtain ⟨bits, succeeded, fresh⟩ := of_decide_eq_true facts
  have discipline := bitmap_discipline (Run.reachesBy_of_runLabels execution accounted)
  exact ⟨world, execution, bits, discipline.success 0 succeeded, fresh, discipline⟩

/-- A block that is published before its release fails. -/
def publishedLate : ChangeEnd := ⟨.notFound, true, fun _ => rfl⟩

/-- The failed registration leaves a waiting bit that belongs to no call, and a signal selects it.
-/
theorem failed_registration_keeps_bit :
    ∃ world, Run.runLabels next initial [.wait false publishedLate] = some world ∧
      world.waiters.map ConditionWaiter.phase = [.returned .notFound] ∧
      world.activeCalls = ∅ ∧ world.state.waiting = 1#64 ∧ ¬world.Discipline ∧
      (world.next (.notify false .completed)).map ConditionWorld.state = some ⟨1#64, 1#64⟩ := by
  have outcome : (Run.runLabels next initial [.wait false publishedLate]).any (fun world =>
      world.waiters.map ConditionWaiter.phase = [.returned .notFound] ∧
        world.activeCalls = ∅ ∧ world.state.waiting = 1#64 ∧
        (world.next (.notify false .completed)).map ConditionWorld.state =
          some ⟨1#64, 1#64⟩) = true := by
    decide +kernel
  obtain ⟨world, execution, facts⟩ := (Option.any_eq_true _ _).mp outcome
  obtain ⟨phases, nobody, waiting, signalled⟩ := of_decide_eq_true facts
  refine ⟨world, execution, phases, nobody, waiting, fun discipline => ?_, signalled⟩
  obtain ⟨call, holds⟩ := (discipline.waiting 0 (by decide)).mp (by rw [waiting]; decide)
  have member := mem_activeCalls.mpr holds.activeAt
  simp [nobody] at member

end ConditionWorld
end Cxloom.Api
