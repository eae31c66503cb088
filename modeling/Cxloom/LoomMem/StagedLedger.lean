import Cxloom.LoomMem.StagedWrites
import Mathlib.Data.List.Flatten

/-!
# Staged writes are published once and in order

A context's stagings and releases form one timeline: every release takes what was staged since the
release before it.  The loop of a release commits the front of what it took and, after the first
failure, aborts the rest.
-/

namespace Cxloom.LoomMem.StagedWrites

/-! ## Timelines -/

/-- The calls of a context take its stagings in order, and the rest waits. -/
structure Timeline (contexts : ExecutionContexts) (nextTicket id : Nat) (calls : List Call)
    (waiting history : List Staged) : Prop where
  split : history = calls.flatMap Call.taken ++ waiting
  /-- Stagings have ascending numbers. -/
  sorted : history.Pairwise fun earlier later => earlier.ticket < later.ticket
  /-- Numbers were given. -/
  below : ∀ staged ∈ history, staged.ticket < nextTicket
  called : ∀ call ∈ calls, call.ticket ≤ nextTicket
  before : ∀ call ∈ calls, ∀ staged ∈ call.taken, staged.ticket < call.ticket
  after : calls.Pairwise fun earlier later =>
    ∀ staged ∈ later.taken, earlier.ticket ≤ staged.ticket
  remaining : ∀ call ∈ calls, ∀ staged ∈ waiting, call.ticket ≤ staged.ticket
  stager : ∀ staged ∈ history, contexts.idOf staged.executor = some id
  caller : ∀ call ∈ calls, contexts.idOf call.executor = some id

section Timelines

variable {contexts after : ExecutionContexts} {nextTicket id : Nat} {calls : List Call}
  {waiting history : List Staged}

/-- What other contexts do. -/
theorem Timeline.mono (timeline : Timeline contexts nextTicket id calls waiting history)
    {later : Nat} (ticket : nextTicket ≤ later)
    (kept : ∀ executor id, contexts.idOf executor = some id → after.idOf executor = some id) :
    Timeline after later id calls waiting history where
  split := timeline.split
  sorted := timeline.sorted
  below staged member := lt_of_lt_of_le (timeline.below staged member) ticket
  called call member := (timeline.called call member).trans ticket
  before := timeline.before
  after := timeline.after
  remaining := timeline.remaining
  stager staged member := kept _ _ (timeline.stager staged member)
  caller call member := kept _ _ (timeline.caller call member)

theorem Timeline.stage (timeline : Timeline contexts nextTicket id calls waiting history)
    {staged : Staged} (ticket : staged.ticket = nextTicket)
    (own : contexts.idOf staged.executor = some id) :
    Timeline contexts (nextTicket + 1) id calls (waiting ++ [staged]) (history ++ [staged]) where
  split := by rw [timeline.split, List.append_assoc]
  sorted := by
    refine List.pairwise_append.mpr
      ⟨timeline.sorted, List.pairwise_singleton .., fun earlier member later last => ?_⟩
    rw [List.mem_singleton.mp last, ticket]
    exact timeline.below earlier member
  below other member := by
    rcases List.mem_append.mp member with earlier | last
    · exact Nat.lt_succ_of_lt (timeline.below other earlier)
    · rw [List.mem_singleton.mp last, ticket]
      exact Nat.lt_succ_self _
  called call member := Nat.le_succ_of_le (timeline.called call member)
  before := timeline.before
  after := timeline.after
  remaining call member other waits := by
    rcases List.mem_append.mp waits with earlier | last
    · exact timeline.remaining call member other earlier
    · rw [List.mem_singleton.mp last, ticket]
      exact timeline.called call member
  stager other member := by
    rcases List.mem_append.mp member with earlier | last
    · exact timeline.stager other earlier
    · rw [List.mem_singleton.mp last]
      exact own
  caller := timeline.caller

theorem Timeline.call (timeline : Timeline contexts nextTicket id calls waiting history)
    {call : Call} (ticket : call.ticket = nextTicket) (taken : call.taken = waiting)
    (own : contexts.idOf call.executor = some id) :
    Timeline contexts nextTicket id (calls ++ [call]) [] history where
  split := by
    rw [timeline.split, List.flatMap_append, List.flatMap_singleton, taken, List.append_nil]
  sorted := timeline.sorted
  below := timeline.below
  called other member := by
    rcases List.mem_append.mp member with earlier | last
    · exact timeline.called other earlier
    · rw [List.mem_singleton.mp last, ticket]
  before other member staged inside := by
    rcases List.mem_append.mp member with earlier | last
    · exact timeline.before other earlier staged inside
    · rw [List.mem_singleton.mp last] at inside ⊢
      rw [taken] at inside
      rw [ticket]
      refine timeline.below staged ?_
      rw [timeline.split]
      exact List.mem_append_right _ inside
  after := by
    refine List.pairwise_append.mpr
      ⟨timeline.after, List.pairwise_singleton .., fun earlier member later last staged inside =>
        ?_⟩
    rw [List.mem_singleton.mp last, taken] at inside
    exact timeline.remaining earlier member staged inside
  remaining other member staged nothing := by cases nothing
  stager := timeline.stager
  caller other member := by
    rcases List.mem_append.mp member with earlier | last
    · exact timeline.caller other earlier
    · rw [List.mem_singleton.mp last]
      exact own

/-- A call takes exactly what its context staged before it and after its earlier calls. -/
theorem Timeline.mem_taken_iff {earlier later : List Call} {call : Call}
    (timeline : Timeline contexts nextTicket id (earlier ++ call :: later) waiting history)
    (staged : Staged) :
    staged ∈ call.taken ↔
      staged ∈ history ∧ staged.ticket < call.ticket ∧
        ∀ first ∈ earlier, first.ticket ≤ staged.ticket := by
  have present : call ∈ earlier ++ call :: later :=
    List.mem_append_right _ List.mem_cons_self
  have order := List.pairwise_append.mp timeline.after
  constructor
  · intro inside
    refine ⟨?_, timeline.before call present staged inside, fun first member => ?_⟩
    · rw [timeline.split]
      exact List.mem_append_left _ (List.mem_flatMap.mpr ⟨call, present, inside⟩)
    · exact order.2.2 first member call List.mem_cons_self staged inside
  · intro known
    obtain ⟨written, bound, behind⟩ := known
    rw [timeline.split] at written
    rcases List.mem_append.mp written with taken | waits
    · obtain ⟨other, member, inside⟩ := List.mem_flatMap.mp taken
      rcases List.mem_append.mp member with first | rest
      · have taken := timeline.before other member staged inside
        exact (Nat.not_lt.mpr (behind other first) taken).elim
      · rcases List.mem_cons.mp rest with rfl | last
        · exact inside
        · have taken := (List.pairwise_cons.mp order.2.1).1 other last staged inside
          exact (Nat.not_lt.mpr taken bound).elim
    · exact (Nat.not_lt.mpr (timeline.remaining call present staged waits) bound).elim

end Timelines

/-! ## Releases -/

/-- The front of what a release took is committed, the rest from the first failure on aborted. -/
structure Release.Sound (release : Release) : Prop where
  /-- Writes are committed, aborted or not reached, in this order. -/
  split : release.taken = release.committed ++ release.aborted ++ release.writes
  /-- The first write that is aborted is the one whose commit failed. -/
  failed : release.failed.map Prod.fst = release.aborted.head?
  /-- The status tells whether a commit failed. -/
  result : release.result.isOk = true ↔ release.aborted = []

/-- What a release has stored: all bytes of what it committed, then what the failed commit left. -/
def Release.effects (id : Nat) (release : Release) : List Effect :=
  release.committed.map (fun staged => ⟨id, staged, (staged.write.storage.getD []).length⟩) ++
    release.failed.toList.map fun failure => ⟨id, failure.1, failure.2⟩

section Releases

variable {release : Release} {staged : Staged} {rest : List Staged}

theorem Release.Sound.commit (sound : release.Sound) (reached : release.writes = staged :: rest)
    (succeeds : release.result.isOk = true) :
    Release.Sound
      { release with writes := rest, committed := release.committed ++ [staged] } where
  split := by
    have none : release.aborted = [] := sound.result.mp succeeds
    have split := sound.split
    rw [reached, none, List.append_nil] at split
    simp only [none, List.append_nil, split, List.append_assoc, List.singleton_append]
  failed := sound.failed
  result := sound.result

/-- The first commit that fails. -/
theorem Release.Sound.fail (sound : release.Sound) (reached : release.writes = staged :: rest)
    (succeeds : release.result.isOk = true) {status : Status} (fails : status.isOk = false)
    (stored : Nat) :
    Release.Sound
      { release with
        writes := rest
        result := status
        failed := some (staged, stored)
        aborted := release.aborted ++ [staged] } where
  split := by
    have none : release.aborted = [] := sound.result.mp succeeds
    have split := sound.split
    rw [reached, none, List.append_nil] at split
    simp only [none, List.nil_append, split, List.append_assoc, List.singleton_append]
  failed := by simp [sound.result.mp succeeds]
  result := by simp [fails]

theorem Release.Sound.abort (sound : release.Sound) (reached : release.writes = staged :: rest)
    (fails : release.result.isOk = false) :
    Release.Sound
      { release with writes := rest, aborted := release.aborted ++ [staged] } where
  split := by
    have split := sound.split
    rw [reached] at split
    simp only [split, List.append_assoc, List.singleton_append]
  failed := by
    have some : release.aborted ≠ [] := by
      intro none
      rw [sound.result.mpr none] at fails
      cases fails
    rw [sound.failed, List.head?_append_of_ne_nil _ some]
  result := by simp [fails]

theorem releaseWriteBuffer_ok {initialized : Bool} {write : WriteBuffer} {outcome : CommitOutcome}
    (succeeds : (releaseWriteBuffer initialized write outcome).1.isOk = true) :
    (releaseWriteBuffer initialized write outcome).2 = (write.storage.getD []).length := by
  unfold releaseWriteBuffer at succeeds ⊢
  cases storage : write.storage with
  | none =>
      rw [storage] at succeeds
      cases succeeds
  | some bytes =>
      rw [storage] at succeeds
      simp only at succeeds ⊢
      split at succeeds
      · cases succeeds
      · rename_i ready
        rw [if_neg ready]
        cases outcome with
        | ok => rfl
        | failed status failure stored =>
            rw [failure] at succeeds
            cases succeeds

theorem Release.Sound.failed_none (sound : release.Sound)
    (succeeds : release.result.isOk = true) : release.failed = none := by
  have failed := sound.failed
  rw [sound.result.mp succeeds] at failed
  exact Option.map_eq_none_iff.mp failed

end Releases

/-! ## The ledger of a host -/

/-- The timeline and the releases of one context. -/
structure Account (state : StagedWrites) (id : Nat) : Prop where
  timeline : Timeline state.contexts state.nextTicket id ((state.releases id).map Release.toCall)
    (state.stagedWrites id) (state.history id)
  /-- Releases commit the front of what they took. -/
  sound : ∀ release ∈ state.releases id, release.Sound
  returned : ∀ release ∈ state.returned id, release.writes = []
  /-- During a release the list is empty. -/
  moved : (state.running id).isSome = true → state.stagedWrites id = []
  stored : state.effects.filter (fun effect => effect.context = id) =
    (state.releases id).flatMap (Release.effects id)

/-- The accounts of all contexts, and the bytes. -/
structure Ledger (memory : Nat → UInt8) (state : StagedWrites) : Prop where
  /-- Identities are different. -/
  distinct : state.contexts.Distinct
  accounts : ∀ id, Account state id
  /-- A staging belongs to one context. -/
  apart : ∀ first second, first ≠ second → ∀ earlier ∈ state.history first,
    ∀ later ∈ state.history second, earlier.ticket ≠ later.ticket
  /-- The bytes are the ones that commits have stored. -/
  bytes : state.memory = state.effects.foldl (fun bytes effect => effect.apply bytes) memory
  /-- Without a runtime nothing waits. -/
  idle : state.initialized = false → ∀ id, state.stagedWrites id = []

section Ledgers

variable {memory : Nat → UInt8} {state after : StagedWrites} {id : Nat}

/-- A step of another context. -/
theorem Account.frame (account : Account state id) (ticket : state.nextTicket ≤ after.nextTicket)
    (kept : ∀ executor id, state.contexts.idOf executor = some id →
      after.contexts.idOf executor = some id)
    (stagedWrites : after.stagedWrites id = state.stagedWrites id)
    (history : after.history id = state.history id)
    (running : after.running id = state.running id)
    (returned : after.returned id = state.returned id)
    (effects : after.effects.filter (fun effect => effect.context = id) =
      state.effects.filter (fun effect => effect.context = id)) : Account after id := by
  have releases : after.releases id = state.releases id := by
    rw [StagedWrites.releases, StagedWrites.releases, running, returned]
  constructor
  · rw [releases, stagedWrites, history]
    exact account.timeline.mono ticket kept
  · rw [releases]
    exact account.sound
  · rw [returned]
    exact account.returned
  · rw [running, stagedWrites]
    exact account.moved
  · rw [effects, releases]
    exact account.stored

/-- Identities are drawn and fibers run. -/
theorem Ledger.switch (ledger : Ledger memory state) {contexts : ExecutionContexts}
    (distinct : contexts.Distinct)
    (kept : ∀ executor id, state.contexts.idOf executor = some id →
      contexts.idOf executor = some id) : Ledger memory { state with contexts := contexts } where
  distinct := distinct
  accounts id := (ledger.accounts id).frame (Nat.le_refl _) kept rfl rfl rfl rfl rfl
  apart := ledger.apart
  bytes := ledger.bytes
  idle := ledger.idle

/-- The variables of the callers change. -/
theorem Ledger.assign (ledger : Ledger memory state) (buffers : Nat → WriteBuffer) :
    Ledger memory { state with buffers := buffers } where
  distinct := ledger.distinct
  accounts id :=
    (ledger.accounts id).frame (Nat.le_refl _) (fun _ _ found => found) rfl rfl rfl rfl rfl
  apart := ledger.apart
  bytes := ledger.bytes
  idle := ledger.idle

theorem Ledger.start (ledger : Ledger memory state) :
    Ledger memory { state with initialized := true } where
  distinct := ledger.distinct
  accounts id :=
    (ledger.accounts id).frame (Nat.le_refl _) (fun _ _ found => found) rfl rfl rfl rfl rfl
  apart := ledger.apart
  bytes := ledger.bytes
  idle off := by cases off

/-- Only contexts whose identities were drawn stage. -/
theorem Ledger.stagedWriteCount_eq_zero (ledger : Ledger memory state)
    (none : state.stagedWriteCount = 0) (id : Nat) : state.stagedWrites id = [] := by
  rw [StagedWrites.stagedWriteCount, List.sum_eq_zero_iff_forall_eq_nat] at none
  by_contra waits
  obtain ⟨staged, member⟩ := List.exists_mem_of_ne_nil _ waits
  have timeline := (ledger.accounts id).timeline
  have written : staged ∈ state.history id := by
    rw [timeline.split]
    exact List.mem_append_right _ member
  have drawn := (ledger.distinct.drawn _ _ (timeline.stager staged written)).2
  have empty := none _ (List.mem_map.mpr ⟨id, List.mem_range.mpr drawn, rfl⟩)
  exact waits (List.length_eq_zero_iff.mp empty)

theorem Ledger.finalize (ledger : Ledger memory state) (retirementIdle : Bool) :
    Ledger memory (state.finalize retirementIdle).2 := by
  rw [StagedWrites.finalize]
  split
  · exact ledger
  · split
    · exact ledger
    · rename_i none
      exact
        { distinct := ledger.distinct
          accounts := fun id =>
            (ledger.accounts id).frame (Nat.le_refl _) (fun _ _ found => found) rfl rfl rfl rfl rfl
          apart := ledger.apart
          bytes := ledger.bytes
          idle := fun _ => ledger.stagedWriteCount_eq_zero (not_not.mp none) }

theorem Ledger.stage (ledger : Ledger memory state) {executor : Executor}
    (own : state.contexts.idOf executor = some id) (ready : state.initialized = true)
    (outside : state.running id = none) (write : WriteBuffer) :
    Ledger memory
      { state with
        stagedWrites := Function.update state.stagedWrites id
          (state.stagedWrites id ++ [⟨state.nextTicket, executor, write⟩])
        nextTicket := state.nextTicket + 1
        history := Function.update state.history id
          (state.history id ++ [⟨state.nextTicket, executor, write⟩]) } where
  distinct := ledger.distinct
  accounts other := by
    by_cases same : other = id
    · subst same
      have account := ledger.accounts other
      refine ⟨?_, account.sound, account.returned, fun inside => ?_, account.stored⟩
      · simp only [Function.update_self]
        exact account.timeline.stage rfl own
      · have inside : (state.running other).isSome = true := inside
        rw [outside] at inside
        cases inside
    · exact (ledger.accounts other).frame (Nat.le_succ _) (fun _ _ found => found)
        (Function.update_of_ne same ..) (Function.update_of_ne same ..) rfl rfl rfl
  apart first second different earlier written later behind := by
    -- the new number was not given before
    have fresh : ∀ context, ∀ staged ∈ state.history context, staged.ticket ≠ state.nextTicket :=
      fun context staged member =>
        Nat.ne_of_lt ((ledger.accounts context).timeline.below staged member)
    have cases : ∀ context, ∀ staged ∈ Function.update state.history id
        (state.history id ++ [⟨state.nextTicket, executor, write⟩]) context,
        staged ∈ state.history context ∨ context = id ∧ staged.ticket = state.nextTicket := by
      intro context staged member
      by_cases same : context = id
      · rw [same, Function.update_self] at member
        rcases List.mem_append.mp member with old | new
        · exact .inl (same ▸ old)
        · exact .inr ⟨same, by rw [List.mem_singleton.mp new]⟩
      · rw [Function.update_of_ne same] at member
        exact .inl member
    rcases cases first earlier written with old | new
    · rcases cases second later behind with older | newer
      · exact ledger.apart first second different earlier old later older
      · rw [newer.2]
        exact fresh first earlier old
    · rcases cases second later behind with older | newer
      · rw [new.2]
        exact (fresh second later older).symm
      · exact (different (new.1.trans newer.1.symm)).elim
  bytes := ledger.bytes
  idle off := by
    have off : state.initialized = false := off
    rw [ready] at off
    cases off

/-- A call of `SynchronizeRelease`. -/
theorem Ledger.call (ledger : Ledger memory state) {executor : Executor}
    (own : state.contexts.idOf executor = some id) (outside : state.running id = none) :
    Ledger memory
      { state with
        stagedWrites := Function.update state.stagedWrites id []
        running := Function.update state.running id
          (some ⟨⟨executor, state.nextTicket, state.stagedWrites id⟩, state.stagedWrites id, .ok,
            [],
            none, []⟩) } where
  distinct := ledger.distinct
  accounts other := by
    by_cases same : other = id
    · subst same
      have account := ledger.accounts other
      have known : state.releases other = state.returned other := by
        rw [StagedWrites.releases, outside]
        exact List.append_nil _
      have timeline := account.timeline
      have stored := account.stored
      rw [known] at timeline stored
      constructor
      · simp only [StagedWrites.releases, Function.update_self, Option.toList_some, List.map_append,
          List.map_cons, List.map_nil]
        exact timeline.call rfl rfl own
      · intro release member
        simp only [StagedWrites.releases, Function.update_self, Option.toList_some] at member
        rcases List.mem_append.mp member with earlier | last
        · exact account.sound release (known ▸ earlier)
        · rw [List.mem_singleton.mp last]
          exact ⟨rfl, rfl, by simp⟩
      · exact account.returned
      · intro inside
        exact Function.update_self ..
      · simp only [StagedWrites.releases, Function.update_self, Option.toList_some,
          List.flatMap_append, List.flatMap_singleton]
        exact stored.trans (List.append_nil _).symm
    · exact (ledger.accounts other).frame (Nat.le_refl _) (fun _ _ found => found)
        (Function.update_of_ne same ..) rfl (Function.update_of_ne same ..) rfl rfl
  apart := ledger.apart
  bytes := ledger.bytes
  idle off other := by
    by_cases same : other = id
    · rw [same]
      exact Function.update_self ..
    · exact (Function.update_of_ne same ..).trans (ledger.idle off other)

theorem Ledger.visit (ledger : Ledger memory state) {release later : Release}
    (inside : state.running id = some release) (sound : later.Sound)
    (same : later.toCall = release.toCall) {stored : List Effect}
    (own : ∀ effect ∈ stored, effect.context = id)
    (effects : later.effects id = release.effects id ++ stored) :
    Ledger memory
      { state with
        memory := stored.foldl (fun bytes effect => effect.apply bytes) state.memory
        effects := state.effects ++ stored
        running := Function.update state.running id (some later) } where
  distinct := ledger.distinct
  accounts other := by
    by_cases here : other = id
    · subst here
      have account := ledger.accounts other
      have known : state.releases other = state.returned other ++ [release] := by
        rw [StagedWrites.releases, inside]
        rfl
      have timeline := account.timeline
      have before := account.stored
      rw [known] at timeline before
      constructor
      · simp only [StagedWrites.releases, Function.update_self, Option.toList_some, List.map_append,
          List.map_cons, List.map_nil, same] at timeline ⊢
        exact timeline
      · intro release member
        simp only [StagedWrites.releases, Function.update_self, Option.toList_some] at member
        rcases List.mem_append.mp member with earlier | last
        · refine account.sound release ?_
          rw [known]
          exact List.mem_append_left _ earlier
        · rw [List.mem_singleton.mp last]
          exact sound
      · exact account.returned
      · intro running
        exact account.moved (by rw [inside]; rfl)
      · have all : stored.filter (fun effect => effect.context = other) = stored :=
          List.filter_eq_self.mpr fun effect member => decide_eq_true (own effect member)
        simp only [StagedWrites.releases, Function.update_self, Option.toList_some,
          List.flatMap_append, List.flatMap_singleton, List.filter_append, before, all, effects,
          List.append_assoc]
    · have none : stored.filter (fun effect => effect.context = other) = [] := by
        refine List.filter_eq_nil_iff.mpr fun effect member found => here ?_
        exact (of_decide_eq_true found).symm.trans (own effect member)
      refine (ledger.accounts other).frame (Nat.le_refl _) (fun _ _ found => found)
        rfl rfl (Function.update_of_ne here ..) rfl ?_
      rw [List.filter_append, none, List.append_nil]
  apart := ledger.apart
  bytes := by rw [List.foldl_append, ledger.bytes]
  idle := ledger.idle

/-- A release returns. -/
theorem Ledger.finish (ledger : Ledger memory state) {release : Release}
    (inside : state.running id = some release) (reached : release.writes = []) :
    Ledger memory (state.finish id release) where
  distinct := ledger.distinct
  accounts other := by
    by_cases here : other = id
    · subst here
      have account := ledger.accounts other
      have known : (state.finish other release).releases other = state.releases other := by
        simp only [StagedWrites.releases, StagedWrites.finish, Function.update_self, inside,
          Option.toList_none, Option.toList_some, List.append_nil]
      constructor
      · rw [known]
        exact account.timeline
      · rw [known]
        exact account.sound
      · intro other member
        simp only [StagedWrites.finish, Function.update_self] at member
        rcases List.mem_append.mp member with earlier | last
        · exact account.returned other earlier
        · rw [List.mem_singleton.mp last]
          exact reached
      · intro running
        exact account.moved (by rw [inside]; rfl)
      · rw [known]
        exact account.stored
    · exact (ledger.accounts other).frame (Nat.le_refl _) (fun _ _ found => found)
        rfl rfl (Function.update_of_ne here ..) (Function.update_of_ne here ..) rfl
  apart := ledger.apart
  bytes := ledger.bytes
  idle := ledger.idle

/-- `StageWriteBuffer` refuses and changes nothing, or it moves the buffer to the list of the
caller. -/
theorem stageWriteBuffer_cases (state : StagedWrites) (thread : Nat) (write : Option Nat) :
    (state.stageWriteBuffer thread write).1.isOk = false ∧
        (state.stageWriteBuffer thread write).2 = state ∨
      state.initialized = true ∧ ∃ address, write = some address ∧
        state.stageWriteBuffer thread write =
          (.ok,
            { state with
              contexts := state.contexts.drawNative thread
              stagedWrites := Function.update state.stagedWrites (state.context thread)
                (state.stagedWrites (state.context thread) ++
                  [⟨state.nextTicket, state.contexts.executor thread, state.buffers address⟩])
              buffers := Function.update state.buffers address .empty
              nextTicket := state.nextTicket + 1
              history := Function.update state.history (state.context thread)
                (state.history (state.context thread) ++
                  [⟨state.nextTicket, state.contexts.executor thread,
                    state.buffers address⟩]) }) := by
  cases write with
  | none => exact .inl ⟨rfl, rfl⟩
  | some address =>
      rw [stageWriteBuffer]
      simp only
      split
      · exact .inl ⟨rfl, rfl⟩
      · rename_i active
        split
        · exact .inl ⟨rfl, rfl⟩
        · refine .inr ⟨?_, address, rfl, rfl⟩
          cases ready : state.initialized with
          | true => rfl
          | false => exact (active (.inl (by simp [ready]))).elim

/-- The identity of the caller, once it is drawn. -/
theorem Ledger.drawn (ledger : Ledger memory state) (thread : Nat) :
    Ledger memory { state with contexts := state.contexts.drawNative thread } ∧
      (state.contexts.drawNative thread).idOf (state.contexts.executor thread) =
        some (state.context thread) :=
  ⟨ledger.switch (ledger.distinct.drawNative thread)
      (ExecutionContexts.drawNative_idOf state.contexts thread),
    ledger.distinct.current thread⟩

theorem Ledger.stageWriteBuffer (ledger : Ledger memory state) {thread : Nat}
    (outside : state.running (state.context thread) = none) (write : Option Nat) :
    Ledger memory (state.stageWriteBuffer thread write).2 := by
  rcases stageWriteBuffer_cases state thread write with refused | moved
  · rw [refused.2]
    exact ledger
  · obtain ⟨ready, address, rfl, performed⟩ := moved
    obtain ⟨drawn, own⟩ := ledger.drawn thread
    rw [performed]
    exact (drawn.stage own ready outside (state.buffers address)).assign _

theorem Ledger.synchronizeRelease (ledger : Ledger memory state) {thread : Nat}
    (outside : state.running (state.context thread) = none) :
    Ledger memory (state.synchronizeRelease thread) := by
  rw [StagedWrites.synchronizeRelease]
  split
  · exact ledger
  · obtain ⟨drawn, own⟩ := ledger.drawn thread
    exact drawn.call own outside

/-- One iteration of the loop. -/
theorem Ledger.iterate (ledger : Ledger memory state) {release : Release} {staged : Staged}
    {rest : List Staged} (inside : state.running id = some release)
    (reached : release.writes = staged :: rest) (outcome : CommitOutcome) :
    Ledger memory (state.visit id release staged rest outcome) := by
  have sound : release.Sound := by
    refine (ledger.accounts id).sound release (List.mem_append_right _ ?_)
    rw [inside]
    exact List.mem_singleton_self _
  have own : ∀ stored, ∀ effect ∈ [(⟨id, staged, stored⟩ : Effect)], effect.context = id := by
    intro stored effect member
    rw [List.mem_singleton.mp member]
  rw [StagedWrites.visit]
  split
  · rename_i succeeds
    have none := sound.failed_none succeeds
    simp only
    split
    · rename_i committed
      rw [releaseWriteBuffer_ok committed]
      refine ledger.visit inside (sound.commit reached succeeds) rfl (own _) ?_
      simp only [Release.effects, none, Option.toList_none, List.map_nil, List.append_nil,
        List.map_append, List.map_cons]
    · rename_i refused
      have fails := Bool.eq_false_iff.mpr refused
      refine ledger.visit inside (sound.fail reached succeeds fails _) rfl (own _) ?_
      simp only [Release.effects, none, Option.toList_none, Option.toList_some, List.map_nil,
        List.append_nil, List.map_cons]
  · rename_i aborting
    have fails := Bool.eq_false_iff.mpr aborting
    have nothing : ∀ effect ∈ ([] : List Effect), effect.context = id := by
      intro effect member
      cases member
    have after := ledger.visit inside (sound.abort reached fails) rfl nothing
      (List.append_nil _).symm
    simpa only [List.append_nil, List.foldl_nil] using after

/-- Every action keeps the ledger. -/
theorem Ledger.next (ledger : Ledger memory state) (label : Label)
    (performed : StagedWrites.next state label = some after) : Ledger memory after := by
  cases label with
  | construct fiber =>
      obtain ⟨unknown, constructed⟩ := Option.ite_none_right_eq_some.mp performed
      obtain rfl := Option.some.inj constructed
      exact ledger.switch (ledger.distinct.construct unknown)
        (ExecutionContexts.construct_idOf unknown)
  | resume thread fiber =>
      obtain ⟨known, resumed⟩ := Option.ite_none_right_eq_some.mp performed
      obtain rfl := Option.some.inj resumed
      exact ledger.switch (ledger.distinct.resume thread known) fun executor id found => by
        cases executor <;> exact found
  | leave thread =>
      obtain rfl := Option.some.inj performed
      exact ledger.switch (ledger.distinct.leave thread) fun executor id found => by
        cases executor <;> exact found
  | assign address write =>
      obtain rfl := Option.some.inj performed
      exact ledger.assign _
  | start =>
      obtain rfl := Option.some.inj performed
      exact ledger.start
  | finalize retirementIdle =>
      obtain rfl := Option.some.inj performed
      exact ledger.finalize retirementIdle
  | stageWriteBuffer thread write =>
      obtain ⟨outside, called⟩ := Option.ite_none_right_eq_some.mp performed
      obtain rfl := Option.some.inj called
      exact ledger.stageWriteBuffer (Option.isNone_iff_eq_none.mp outside) write
  | synchronizeRelease thread =>
      obtain ⟨outside, called⟩ := Option.ite_none_right_eq_some.mp performed
      obtain rfl := Option.some.inj called
      exact ledger.synchronizeRelease (Option.isNone_iff_eq_none.mp outside)
  | advance thread outcome =>
      rw [StagedWrites.next] at performed
      split at performed
      · cases performed
      · rename_i release inside
        split at performed
        · rename_i reached
          obtain rfl := Option.some.inj performed
          exact ledger.finish inside reached
        · rename_i staged rest reached
          obtain rfl := Option.some.inj performed
          exact ledger.iterate inside reached outcome

theorem ledger_initial (memory : Nat → UInt8) : Ledger memory (initial memory) where
  distinct := ExecutionContexts.initial_distinct
  accounts id :=
    { timeline :=
        { split := rfl
          sorted := .nil
          below := fun staged nothing => by cases nothing
          called := fun call nothing => by cases nothing
          before := fun call nothing => by cases nothing
          after := .nil
          remaining := fun call nothing => by cases nothing
          stager := fun staged nothing => by cases nothing
          caller := fun call nothing => by cases nothing }
      sound := fun release nothing => by cases nothing
      returned := fun release nothing => by cases nothing
      moved := fun inside => by cases inside
      stored := rfl }
  apart first second different earlier nothing := by cases nothing
  bytes := rfl
  idle off id := rfl

theorem reaches_ledger (execution : Run.Reaches StagedWrites.next (initial memory) state) :
    Ledger memory state :=
  execution.preserves (Ledger memory) (ledger_initial memory)
    fun _ label _ ledger _ performed => ledger.next label performed

end Ledgers

/-! ## Published writes -/

section Publication

variable {memory : Nat → UInt8} {state : StagedWrites}

/-- A commit changes a byte by itself. -/
theorem Effect.apply_congr (effect : Effect) {first second : Nat → UInt8} {position : Nat}
    (same : first position = second position) :
    effect.apply first position = effect.apply second position := by
  rw [Effect.apply, Effect.apply, overlay, overlay, same]

/-- Commits that do not reach a byte may be left out. -/
theorem foldl_filter {position : Nat} (selected : Effect → Bool) (effects : List Effect)
    (others : ∀ effect ∈ effects, selected effect = false → ¬effect.Covers position)
    {first second : Nat → UInt8} (same : first position = second position) :
    effects.foldl (fun bytes effect => effect.apply bytes) first position =
      (effects.filter selected).foldl (fun bytes effect => effect.apply bytes) second position := by
  induction effects generalizing first second with
  | nil => exact same
  | cons effect effects induction =>
      have rest : ∀ other ∈ effects, selected other = false → ¬other.Covers position :=
        fun other member => others other (List.mem_cons_of_mem _ member)
      rw [List.foldl_cons]
      cases chosen : selected effect with
      | true =>
          rw [List.filter_cons_of_pos chosen, List.foldl_cons]
          exact induction rest (effect.apply_congr same)
      | false =>
          have missed := others effect List.mem_cons_self chosen
          rw [List.filter_cons_of_neg (by rw [chosen]; exact Bool.false_ne_true)]
          exact induction rest ((overlay_outside first missed).trans same)

/-- A commit that succeeds stores its buffer. -/
theorem foldl_committed (id : Nat) (writes : List Staged) (memory : Nat → UInt8) :
    (writes.map fun staged => (⟨id, staged, (staged.write.storage.getD []).length⟩ : Effect)).foldl
        (fun bytes effect => effect.apply bytes) memory =
      writes.foldl (fun bytes staged => staged.write.apply bytes) memory := by
  rw [List.foldl_map]
  refine congrArg (fun step => List.foldl step memory writes) ?_
  funext bytes staged
  rw [Effect.apply, WriteBuffer.apply, List.take_length]

theorem foldl_staged_congr (writes : List Staged) {first second : Nat → UInt8} {position : Nat}
    (same : first position = second position) :
    writes.foldl (fun bytes staged => staged.write.apply bytes) first position =
      writes.foldl (fun bytes staged => staged.write.apply bytes) second position := by
  induction writes generalizing first second with
  | nil => exact same
  | cons staged writes induction =>
      refine induction ?_
      simp only [WriteBuffer.apply, overlay, same]

/-- Where failed commits did not reach, releases have stored what they committed. -/
theorem foldl_releases (id : Nat) {position : Nat} {releases : List Release}
    (missed : ∀ release ∈ releases, ∀ staged stored, release.failed = some (staged, stored) →
      ¬(⟨id, staged, stored⟩ : Effect).Covers position)
    {first second : Nat → UInt8} (same : first position = second position) :
    (releases.flatMap (Release.effects id)).foldl (fun bytes effect => effect.apply bytes) first
        position =
      (releases.flatMap Release.committed).foldl
        (fun bytes staged => staged.write.apply bytes) second
        position := by
  induction releases generalizing first second with
  | nil => exact same
  | cons release releases induction =>
      rw [List.flatMap_cons, List.flatMap_cons, List.foldl_append, List.foldl_append,
        Release.effects, List.foldl_append, foldl_committed]
      refine induction (fun other member => missed other (List.mem_cons_of_mem _ member)) ?_
      have committed := foldl_staged_congr release.committed same
      cases failure : release.failed with
      | none => exact committed
      | some failed =>
          exact (overlay_outside _ (missed release List.mem_cons_self _ _ failure)).trans committed

/-- Staged writes are published once, in order and by their own context. -/
structure Published (memory : Nat → UInt8) (state : StagedWrites) : Prop where
  /-- A release takes exactly what its context staged before the call and after all its earlier
  calls. -/
  first : ∀ id earlier release later, state.releases id = earlier ++ release :: later →
    ∀ staged, staged ∈ release.taken ↔
      staged ∈ state.history id ∧ staged.ticket < release.ticket ∧
        ∀ call ∈ earlier, call.ticket ≤ staged.ticket
  /-- What no release took still waits. -/
  waiting : ∀ id, state.history id =
    (state.releases id).flatMap (fun release => release.taken) ++ state.stagedWrites id
  /-- The code that calls a release is the code that staged what the release takes. -/
  own : ∀ id, ∀ release ∈ state.releases id, ∀ staged ∈ release.taken,
    staged.executor = release.executor
  /-- A release commits the front of what it took, and from the first failure on it aborts. -/
  outcome : ∀ id, ∀ release ∈ state.releases id, release.Sound
  /-- When a release has returned, all that it took is committed or aborted. -/
  returned : ∀ id, ∀ release ∈ state.returned id,
    release.taken = release.committed ++ release.aborted
  /-- Commits of a context are in the order of its stagings. -/
  order : ∀ id, ((state.releases id).flatMap Release.committed).Sublist (state.history id)
  /-- No write is staged twice, so that none is committed twice. -/
  once : ∀ id, (state.history id).Pairwise fun earlier later => earlier.ticket < later.ticket
  /-- Writes of one context are not in the lists of another. -/
  apart : ∀ first second, first ≠ second → ∀ earlier ∈ state.history first,
    ∀ later ∈ state.history second, earlier.ticket ≠ later.ticket
  /-- What is stored is what the releases of the contexts committed. -/
  stored : ∀ id, state.effects.filter (fun effect => effect.context = id) =
    (state.releases id).flatMap (Release.effects id)
  /-- The bytes are those of all commits, oldest first. -/
  bytes : state.memory = state.effects.foldl (fun bytes effect => effect.apply bytes) memory
  /-- Where only one context stored, the bytes are those of its commits in order. -/
  context : ∀ id position,
    (∀ effect ∈ state.effects, effect.context ≠ id → ¬effect.Covers position) →
      state.memory position =
        ((state.releases id).flatMap (Release.effects id)).foldl
          (fun bytes effect => effect.apply bytes) memory position
  /-- Where besides no failed commit of it stored, they are those of its committed buffers in
  staging order. -/
  applied : ∀ id position,
    (∀ effect ∈ state.effects, effect.context ≠ id → ¬effect.Covers position) →
      (∀ release ∈ state.releases id, ∀ staged stored, release.failed = some (staged, stored) →
        ¬(⟨id, staged, stored⟩ : Effect).Covers position) →
        state.memory position =
          ((state.releases id).flatMap Release.committed).foldl
            (fun bytes staged => staged.write.apply bytes) memory position

/-- Where only one context stored, the bytes are those of its commits. -/
theorem Ledger.context (ledger : Ledger memory state) (id position : Nat)
    (others : ∀ effect ∈ state.effects, effect.context ≠ id → ¬effect.Covers position) :
    state.memory position =
      ((state.releases id).flatMap (Release.effects id)).foldl
        (fun bytes effect => effect.apply bytes) memory position := by
  rw [← (ledger.accounts id).stored, ledger.bytes]
  exact foldl_filter _ state.effects
    (fun effect member other => others effect member (of_decide_eq_false other)) rfl

theorem Ledger.published (ledger : Ledger memory state) : Published memory state where
  first id earlier release later split staged := by
    have timeline := (ledger.accounts id).timeline
    rw [split, List.map_append, List.map_cons] at timeline
    rw [timeline.mem_taken_iff staged, List.forall_mem_map]
  waiting id := by
    rw [(ledger.accounts id).timeline.split, List.flatMap_map]
  own id release member staged inside := by
    have timeline := (ledger.accounts id).timeline
    have called : release.toCall ∈ (state.releases id).map Release.toCall :=
      List.mem_map_of_mem member
    refine ledger.distinct.unique _ _ id (timeline.stager staged ?_) (timeline.caller _ called)
    rw [timeline.split]
    exact List.mem_append_left _ (List.mem_flatMap.mpr ⟨release.toCall, called, inside⟩)
  outcome id := (ledger.accounts id).sound
  returned id release member := by
    have account := ledger.accounts id
    have split := (account.sound release (List.mem_append_left _ member)).split
    rwa [account.returned release member, List.append_nil] at split
  order id := by
    have account := ledger.accounts id
    have front : ∀ release ∈ state.releases id, release.committed.Sublist release.taken := by
      intro release member
      rw [(account.sound release member).split, List.append_assoc]
      exact List.sublist_append_left ..
    rw [account.timeline.split, List.flatMap_map]
    exact (List.Sublist.flatMap_right _ front).trans (List.sublist_append_left ..)
  once id := (ledger.accounts id).timeline.sorted
  apart := ledger.apart
  stored id := (ledger.accounts id).stored
  bytes := ledger.bytes
  context := ledger.context
  applied id position others missed :=
    (ledger.context id position others).trans (foldl_releases id missed rfl)

/-- In every run staged writes are published once, in order and by their own context.  A step of a
release leaves the list of its caller empty and the other lists as they were, and a staging that is
refused changes nothing. -/
theorem staged_published_once
    (execution : Run.Reaches StagedWrites.next (initial memory) state) :
    Published memory state ∧
      (∀ thread label after,
        (label = .synchronizeRelease thread ∨ ∃ outcome, label = .advance thread outcome) →
          StagedWrites.next state label = some after →
            after.stagedWrites = Function.update state.stagedWrites (state.context thread) []) ∧
      ∀ thread write, (state.stageWriteBuffer thread write).1.isOk = false →
        (state.stageWriteBuffer thread write).2 = state := by
  have ledger := reaches_ledger execution
  refine ⟨ledger.published, fun thread label after releasing performed => ?_,
    fun thread write refused => ?_⟩
  · rcases releasing with rfl | advancing
    · obtain ⟨-, called⟩ := Option.ite_none_right_eq_some.mp performed
      obtain rfl := Option.some.inj called
      rw [StagedWrites.synchronizeRelease]
      split
      · rename_i off
        have waits := ledger.idle (Bool.eq_false_iff.mpr off) (state.context thread)
        rw [← waits, Function.update_eq_self]
      · rfl
    · obtain ⟨outcome, rfl⟩ := advancing
      rw [StagedWrites.next] at performed
      split at performed
      · cases performed
      · rename_i release inside
        have moved : state.stagedWrites (state.context thread) = [] :=
          (ledger.accounts (state.context thread)).moved (by rw [inside]; rfl)
        have kept : after.stagedWrites = state.stagedWrites := by
          split at performed
          · obtain rfl := Option.some.inj performed
            rfl
          · obtain rfl := Option.some.inj performed
            rw [visit]
            split
            · rfl
            · rfl
        rw [kept, ← moved, Function.update_eq_self]
  · rcases stageWriteBuffer_cases state thread write with intact | moved
    · exact intact.2
    · obtain ⟨-, address, -, performed⟩ := moved
      rw [performed] at refused
      cases refused

/-- A buffer that only the caller owns. -/
def exclusiveBuffer (offset : Nat) (bytes : List UInt8) : WriteBuffer :=
  ⟨⟨0, 0⟩, offset, some bytes, 1, true, 1⟩

/-- Two fibers stage on one thread, and their releases overlap.  The second commit of the first
fiber fails after one byte. -/
def twoFibers : List Label :=
  [.start, .construct 1, .construct 2, .resume 0 1,
    .assign 0 (exclusiveBuffer 10 [1, 2]), .stageWriteBuffer 0 (some 0),
    .assign 0 (exclusiveBuffer 11 [3, 4]), .stageWriteBuffer 0 (some 0), .leave 0, .resume 0 2,
    .assign 1 (exclusiveBuffer 20 [7]), .stageWriteBuffer 0 (some 1), .leave 0, .resume 0 1,
    .assign 0 (exclusiveBuffer 12 [5, 6]), .stageWriteBuffer 0 (some 0), .synchronizeRelease 0,
    .advance 0 .ok, .leave 0, .resume 0 2, .synchronizeRelease 0, .advance 0 .ok, .advance 0 .ok,
    .leave 0, .resume 0 1, .advance 0 (.failed (.unavailable "queue") rfl 1), .advance 0 .ok,
    .advance 0 .ok]

def outcomes (state : StagedWrites) (id : Nat) : List (List Nat × List Nat) :=
  (state.releases id).map fun release =>
    (release.committed.map Staged.ticket, release.aborted.map Staged.ticket)

theorem staged_published_once_twoFibers :
    ∃ state, Run.Reaches StagedWrites.next (initial fun _ => 0) state ∧
      outcomes state 1 = [([0], [1, 3])] ∧ outcomes state 2 = [([2], [])] ∧
        [10, 11, 12, 20].map state.memory = [1, 3, 0, 7] ∧ Published (fun _ => 0) state := by
  have holds : (Run.runLabels StagedWrites.next (initial fun _ => 0) twoFibers).map
      (fun state => (outcomes state 1 = [([0], [1, 3])] ∧ outcomes state 2 = [([2], [])] ∧
        [10, 11, 12, 20].map state.memory = [1, 3, 0, 7] : Bool)) = some true := by
    decide +kernel
  obtain ⟨state, ran, found⟩ := Option.map_eq_some_iff.mp holds
  obtain ⟨first, second, bytes⟩ := of_decide_eq_true found
  have execution := Run.reaches_of_runLabels ran
  exact ⟨state, execution, first, second, bytes, (staged_published_once execution).1⟩

end Publication

end Cxloom.LoomMem.StagedWrites
