import Cxloom.LoomPar.Scheduler

/-!
# Round-robin placement

The scan over a load view finds the eligible host with the smallest distance from the cursor, which
is the first eligible host of the round.  An advancing selection therefore serves the queue of the
eligible hosts, and as many selections as there are eligible hosts return each of them once.
-/

namespace Cxloom.LoomPar

namespace PlacementScheduler

variable {WorkingSet Score : Type} {config : PlacementConfig}
  {scoring : Scoring WorkingSet Score} {scheduler : PlacementScheduler}
  {hint : ThreadPlacementHint WorkingSet} {loadView : List HostLoadSnapshot}

/-! ## The round -/

theorem length_round (cursor : Nat) : (round config cursor).length = config.hostCount := by
  rw [round, List.length_rotate, List.length_range]

theorem getElem_round {cursor place : Nat} (inside : place < (round config cursor).length) :
    (round config cursor)[place] = (place + cursor) % config.hostCount := by
  simp only [round, List.getElem_rotate, List.length_range, List.getElem_range]

theorem mem_round {cursor host : Nat} : host ∈ round config cursor ↔ host < config.hostCount := by
  rw [round, List.mem_rotate, List.mem_range]

theorem distance_getElem_round {cursor place : Nat} (inside : place < config.hostCount) :
    distance config cursor ((place + cursor) % config.hostCount) = place := by
  have positive := config.hostCount_pos
  have below : cursor % config.hostCount < config.hostCount := Nat.mod_lt _ positive
  rw [distance, Nat.add_mod place cursor, Nat.mod_eq_of_lt inside]
  by_cases wraps : place + cursor % config.hostCount < config.hostCount
  · rw [Nat.mod_eq_of_lt wraps]
    have gap : place + cursor % config.hostCount + config.hostCount - cursor % config.hostCount =
        place + config.hostCount := by omega
    rw [gap, Nat.add_mod_right, Nat.mod_eq_of_lt inside]
  · have wrapped : (place + cursor % config.hostCount) % config.hostCount =
        place + cursor % config.hostCount - config.hostCount := by
      have once := Nat.mod_eq_sub_mod (Nat.le_of_not_lt wraps)
      rw [once]
      exact Nat.mod_eq_of_lt (by omega)
    have gap : place + cursor % config.hostCount - config.hostCount + config.hostCount -
        cursor % config.hostCount = place := by omega
    rw [wrapped, gap, Nat.mod_eq_of_lt inside]

theorem distance_lt (cursor host : Nat) : distance config cursor host < config.hostCount :=
  Nat.mod_lt _ config.hostCount_pos

theorem distance_add_mod (cursor : Nat) {host : Nat} (inside : host < config.hostCount) :
    (distance config cursor host + cursor) % config.hostCount = host := by
  obtain ⟨place, there, value⟩ := List.getElem_of_mem (mem_round.mpr inside :
    host ∈ round config cursor)
  have below : place < config.hostCount := by rwa [length_round] at there
  rw [getElem_round] at value
  rw [← value, distance_getElem_round below]

theorem round_behind (cursor : Nat) {host : Nat} (inside : host < config.hostCount) :
    round config ((host + 1) % config.hostCount) =
      (round config cursor).rotate (distance config cursor host + 1) := by
  have place := distance_add_mod cursor inside
  have same : (cursor + (distance config cursor host + 1)) % config.hostCount =
      (host + 1) % config.hostCount :=
    calc (cursor + (distance config cursor host + 1)) % config.hostCount
        = (distance config cursor host + cursor + 1) % config.hostCount := by
          congr 1
          omega
      _ = ((distance config cursor host + cursor) % config.hostCount + 1) % config.hostCount := by
          rw [Nat.mod_add_mod]
      _ = (host + 1) % config.hostCount := by rw [place]
  have whole := List.rotate_mod (List.range config.hostCount)
    (cursor + (distance config cursor host + 1))
  rw [List.length_range, same] at whole
  rw [round, round, List.rotate_rotate]
  exact whole

/-! ## The scan -/

/-- Whether a call considers a sample. -/
def considers (config : PlacementConfig) (hint : ThreadPlacementHint WorkingSet)
    (snapshot : HostLoadSnapshot) : Bool :=
  hint.explicitHost.all (· = snapshot.hostId) && belowLimits config snapshot

/-- What the scan knows about the samples it has seen. -/
structure Scanned (config : PlacementConfig) (scheduler : PlacementScheduler)
    (hint : ThreadPlacementHint WorkingSet) (seen : List HostLoadSnapshot)
    (candidate : PlacementCandidate Score) : Prop where
  /-- Nothing was considered. -/
  nothing : candidate.eligible = false →
    candidate.bestDistance = 2 ^ 64 - 1 ∧ ∀ snapshot ∈ seen, considers config hint snapshot = false
  closest : candidate.eligible = true →
    candidate.bestDistance = distance config scheduler.rrCursor candidate.best ∧
      (∃ snapshot ∈ seen, considers config hint snapshot = true ∧
        snapshot.hostId = candidate.best) ∧
      ∀ snapshot ∈ seen, considers config hint snapshot = true →
        candidate.bestDistance ≤ distance config scheduler.rrCursor snapshot.hostId

theorem Scanned.skip {seen : List HostLoadSnapshot} {candidate : PlacementCandidate Score}
    (scanned : Scanned config scheduler hint seen candidate) {snapshot : HostLoadSnapshot}
    (skipped : considers config hint snapshot = false) :
    Scanned config scheduler hint (seen ++ [snapshot]) candidate := by
  refine ⟨fun none => ?_, fun some => ?_⟩
  · obtain ⟨far, without⟩ := scanned.nothing none
    refine ⟨far, fun other member => ?_⟩
    rcases List.mem_append.mp member with before | last
    · exact without other before
    · rw [List.mem_singleton.mp last]
      exact skipped
  · obtain ⟨measured, ⟨chosen, member, considered, host⟩, least⟩ := scanned.closest some
    refine ⟨measured, ⟨chosen, List.mem_append_left _ member, considered, host⟩,
      fun other there considered' => ?_⟩
    rcases List.mem_append.mp there with before | last
    · exact least other before considered'
    · rw [List.mem_singleton.mp last, skipped] at considered'
      cases considered'

theorem Scanned.take {seen : List HostLoadSnapshot} {candidate : PlacementCandidate Score}
    (scanned : Scanned config scheduler hint seen candidate) {snapshot : HostLoadSnapshot}
    {score : Score} (considered : considers config hint snapshot = true)
    (closer : distance config scheduler.rrCursor snapshot.hostId < candidate.bestDistance) :
    Scanned config scheduler hint (seen ++ [snapshot])
      ⟨snapshot.hostId, true, distance config scheduler.rrCursor snapshot.hostId, score⟩ := by
  refine ⟨fun none => (by cases none), fun _ => ⟨rfl, ⟨snapshot, by simp, considered, rfl⟩, ?_⟩⟩
  intro other member considered'
  rcases List.mem_append.mp member with before | last
  · cases known : candidate.eligible with
    | false =>
        rw [(scanned.nothing known).2 other before] at considered'
        cases considered'
    | true =>
        have least := (scanned.closest known).2.2 other before considered'
        exact closer.le.trans least
  · rw [List.mem_singleton.mp last]

theorem Scanned.keep {seen : List HostLoadSnapshot} {candidate : PlacementCandidate Score}
    (scanned : Scanned config scheduler hint seen candidate) {snapshot : HostLoadSnapshot}
    (farther : ¬distance config scheduler.rrCursor snapshot.hostId < candidate.bestDistance) :
    Scanned config scheduler hint (seen ++ [snapshot]) { candidate with eligible := true } := by
  have known : candidate.eligible = true := by
    by_contra unknown
    have far := (scanned.nothing (Bool.eq_false_iff.mpr unknown)).1
    have near := @distance_lt config scheduler.rrCursor snapshot.hostId
    have small := config.hostCount_lt
    omega
  obtain ⟨measured, ⟨chosen, member, considered, host⟩, least⟩ := scanned.closest known
  refine ⟨fun none => (by cases none), fun _ => ⟨measured,
    ⟨chosen, List.mem_append_left _ member, considered, host⟩, fun other there considered' => ?_⟩⟩
  rcases List.mem_append.mp there with before | last
  · exact least other before considered'
  · rw [List.mem_singleton.mp last]
    exact Nat.le_of_not_lt farther

/-- One sample. -/
theorem Scanned.visit (roundRobin : config.placementPolicy = .roundRobin)
    {seen : List HostLoadSnapshot} {candidate : PlacementCandidate Score}
    (scanned : Scanned config scheduler hint seen candidate) {snapshot : HostLoadSnapshot}
    (inside : snapshot.hostId < config.hostCount) (cost : Option (Nat → Score)) :
    ∃ after, visit config scoring scheduler hint cost candidate snapshot = .ok after ∧
      Scanned config scheduler hint (seen ++ [snapshot]) after := by
  rw [PlacementScheduler.visit, if_neg (Nat.not_le.mpr inside)]
  by_cases other : hint.explicitHost.any (· ≠ snapshot.hostId) = true
  · rw [if_pos other]
    refine ⟨candidate, rfl, scanned.skip ?_⟩
    cases named : hint.explicitHost with
    | none => simp [named] at other
    | some host => simp_all [considers]
  · rw [if_neg other]
    by_cases full : (!belowLimits config snapshot) = true
    · rw [if_pos full]
      exact ⟨candidate, rfl, scanned.skip (by simp_all [considers])⟩
    · rw [if_neg full]
      have considered : considers config hint snapshot = true := by
        cases named : hint.explicitHost <;> simp_all [considers]
      refine ⟨_, rfl, ?_⟩
      simp only [if_pos roundRobin, decide_eq_true_eq]
      by_cases closer : distance config scheduler.rrCursor snapshot.hostId < candidate.bestDistance
      · rw [if_pos closer]
        exact scanned.take considered closer
      · rw [if_neg closer]
        exact scanned.keep closer

/-- The whole view. -/
theorem Scanned.foldlM (roundRobin : config.placementPolicy = .roundRobin)
    (cost : Option (Nat → Score)) (rest : List HostLoadSnapshot) :
    ∀ (seen : List HostLoadSnapshot) (candidate : PlacementCandidate Score),
      Scanned config scheduler hint seen candidate →
      (∀ snapshot ∈ rest, snapshot.hostId < config.hostCount) →
      ∃ after, rest.foldlM (PlacementScheduler.visit config scoring scheduler hint cost)
          candidate = .ok after ∧
        Scanned config scheduler hint (seen ++ rest) after := by
  induction rest with
  | nil =>
      intro seen candidate scanned _
      refine ⟨candidate, rfl, ?_⟩
      rw [List.append_nil]
      exact scanned
  | cons snapshot rest induction =>
      intro seen candidate scanned inside
      obtain ⟨next, visited, scanned'⟩ :=
        @Scanned.visit _ _ config scoring scheduler hint roundRobin seen candidate scanned snapshot
          (inside snapshot List.mem_cons_self) cost
      obtain ⟨after, folded, done⟩ := induction (seen ++ [snapshot]) next scanned'
        fun other member => inside other (List.mem_cons_of_mem _ member)
      refine ⟨after, ?_, ?_⟩
      · rw [List.foldlM_cons, visited]
        exact folded
      · rw [List.append_assoc] at done
        exact done

/-! ## Selections -/

theorem ListsHosts.hostId_lt (lists : ListsHosts config loadView) {snapshot : HostLoadSnapshot}
    (member : snapshot ∈ loadView) : snapshot.hostId < config.hostCount :=
  List.mem_range.mp (lists.mem_iff.mp (List.mem_map_of_mem member))

/-- The outcome of a call by what its scan finds. -/
theorem selectHost_spec (roundRobin : config.placementPolicy = .roundRobin)
    (lists : ListsHosts config loadView)
    (configured : ∀ host, hint.explicitHost = some host → host < config.hostCount)
    (advance : Bool) :
    ∃ candidate : PlacementCandidate Score,
      Scanned config scheduler hint loadView candidate ∧
      selectHost config scoring scheduler hint loadView advance =
        if candidate.eligible then
          (.ok candidate.best,
            if advance ∧ hint.explicitHost = none then
              { scheduler with rrCursor := (candidate.best + 1) % config.hostCount }
            else scheduler)
        else (.error (.unavailable "all execution hosts are at capacity"), scheduler) := by
  have inside : ¬hint.explicitHost.any (fun host => decide (config.hostCount ≤ host)) = true := by
    cases named : hint.explicitHost with
    | none => simp
    | some host => simpa using configured host named
  have cost : placementCost config scoring hint = .ok none := by
    rw [placementCost, roundRobin, if_neg (by simp)]
  cases loadView with
  | nil =>
      have empty := lists.length_eq
      have positive := config.hostCount_pos
      simp only [List.map_nil, List.length_nil, List.length_range] at empty
      omega
  | cons front others =>
      have start : Scanned config scheduler hint []
          (⟨front.hostId, false, 2 ^ 64 - 1, scoring.infinity⟩ : PlacementCandidate Score) :=
        ⟨fun _ => ⟨rfl, fun _ member => by cases member⟩, fun some => by cases some⟩
      obtain ⟨candidate, folded, scanned⟩ := @Scanned.foldlM _ _ config scoring scheduler hint
        roundRobin none (front :: others) [] _ start fun _ member => lists.hostId_lt member
      refine ⟨candidate, scanned, ?_⟩
      rw [selectHost, if_neg inside]
      simp only [cost, folded, roundRobin, and_true]

theorem eligible_of_considers {snapshot : HostLoadSnapshot} (member : snapshot ∈ loadView)
    (considered : considers config hint snapshot = true) :
    eligible config loadView snapshot.hostId = true := by
  refine List.any_eq_true.mpr ⟨snapshot, member, ?_⟩
  simp only [considers, Bool.and_eq_true] at considered
  simp [considered.2]

theorem considers_of_eligible (free : hint.explicitHost = none) {host : Nat}
    (open_ : eligible config loadView host = true) :
    ∃ snapshot ∈ loadView, considers config hint snapshot = true ∧ snapshot.hostId = host := by
  obtain ⟨snapshot, member, facts⟩ := List.any_eq_true.mp open_
  obtain ⟨same, below⟩ := of_decide_eq_true facts
  exact ⟨snapshot, member, by simp [considers, free, below], same⟩

/-- The closest host that was considered is the first eligible host of the round. -/
theorem Scanned.find_round (lists : ListsHosts config loadView) (free : hint.explicitHost = none)
    {candidate : PlacementCandidate Score}
    (scanned : Scanned config scheduler hint loadView candidate) :
    (round config scheduler.rrCursor).find? (eligible config loadView) =
      if candidate.eligible then some candidate.best else none := by
  cases known : candidate.eligible with
  | false =>
      refine List.find?_eq_none.mpr fun host _ open_ => ?_
      obtain ⟨snapshot, member, considered, -⟩ := considers_of_eligible free open_
      rw [(scanned.nothing known).2 snapshot member] at considered
      cases considered
  | true =>
      obtain ⟨measured, ⟨snapshot, member, considered, host⟩, least⟩ := scanned.closest known
      have inside : candidate.best < config.hostCount := by
        rw [← host]
        exact lists.hostId_lt member
      have place := @distance_lt config scheduler.rrCursor candidate.best
      have there : distance config scheduler.rrCursor candidate.best <
          (round config scheduler.rrCursor).length := by
        rwa [length_round]
      have split := List.take_append_drop (distance config scheduler.rrCursor candidate.best)
        (round config scheduler.rrCursor)
      rw [← List.getElem_cons_drop there, getElem_round, distance_add_mod _ inside] at split
      refine List.find?_eq_some_iff_append.mpr ⟨?_, _, _, split.symm, fun other front => ?_⟩
      · rw [← host]
        exact eligible_of_considers member considered
      · obtain ⟨earlier, below, value⟩ := List.mem_take_iff_getElem.mp front
        have before : earlier < distance config scheduler.rrCursor candidate.best :=
          (Nat.lt_min.mp below).1
        rw [getElem_round] at value
        have closed : eligible config loadView other ≠ true := by
          intro open_
          obtain ⟨sample, listed, considered', same⟩ := considers_of_eligible free open_
          have far := least sample listed considered'
          rw [same, ← value, distance_getElem_round (before.trans place), measured] at far
          omega
        simpa using closed

theorem selectHost_free (roundRobin : config.placementPolicy = .roundRobin)
    (lists : ListsHosts config loadView) (free : hint.explicitHost = none) (advance : Bool) :
    selectHost config scoring scheduler hint loadView advance =
      match (round config scheduler.rrCursor).find? (eligible config loadView) with
      | some host =>
          (.ok host,
            if advance then { scheduler with rrCursor := (host + 1) % config.hostCount }
            else scheduler)
      | none => (.error (.unavailable "all execution hosts are at capacity"), scheduler) := by
  obtain ⟨candidate, scanned, outcome⟩ := @selectHost_spec _ _ config scoring scheduler hint
    loadView roundRobin lists (fun host named => by rw [free] at named; cases named) advance
  rw [outcome, scanned.find_round lists free]
  cases candidate.eligible with
  | false => rfl
  | true => simp [free]

theorem selectHost_explicit (roundRobin : config.placementPolicy = .roundRobin)
    (lists : ListsHosts config loadView) {host : Nat} (named : hint.explicitHost = some host)
    (inside : host < config.hostCount) (advance : Bool) :
    selectHost config scoring scheduler hint loadView advance =
      (if eligible config loadView host then .ok host
        else .error (.unavailable "all execution hosts are at capacity"), scheduler) := by
  obtain ⟨candidate, scanned, outcome⟩ := @selectHost_spec _ _ config scoring scheduler hint
    loadView roundRobin lists
    (fun other same => by rw [named] at same; cases same; exact inside) advance
  have only : ∀ snapshot, considers config hint snapshot = true → snapshot.hostId = host := by
    intro snapshot considered
    simp only [considers, named, Option.all_some, Bool.and_eq_true, decide_eq_true_eq] at considered
    exact considered.1.symm
  rw [outcome]
  cases known : candidate.eligible with
  | false =>
      have closed : eligible config loadView host ≠ true := by
        intro open_
        obtain ⟨snapshot, member, facts⟩ := List.any_eq_true.mp open_
        obtain ⟨same, below⟩ := of_decide_eq_true facts
        have skipped := (scanned.nothing known).2 snapshot member
        simp [considers, named, same, below] at skipped
      simp [closed]
  | true =>
      obtain ⟨-, ⟨snapshot, member, considered, best⟩, -⟩ := scanned.closest known
      have same := only snapshot considered
      have open_ := eligible_of_considers member considered
      rw [same] at open_ best
      simp [open_, ← best, named]

/-- A probe and a call with an explicit host leave the scheduler as it was. -/
theorem selectHost_still {advance : Bool}
    (still : ¬(advance = true ∧ hint.explicitHost = none)) :
    (selectHost config scoring scheduler hint loadView advance).2 = scheduler := by
  by_cases outside : hint.explicitHost.any (fun host => decide (config.hostCount ≤ host)) = true
  · rw [selectHost.eq_def, if_pos outside]
  · rw [selectHost.eq_def, if_neg outside]
    cases loadView with
    | nil => rfl
    | cons front others =>
        have unmoved : ¬(advance = true ∧ hint.explicitHost = none ∧
            config.placementPolicy = .roundRobin) := fun moves => still ⟨moves.1, moves.2.1⟩
        simp only [if_neg unmoved]
        cases placementCost config scoring hint with
        | error status => rfl
        | ok cost =>
            simp only
            cases (front :: others).foldlM (PlacementScheduler.visit config scoring scheduler hint
              cost) ⟨front.hostId, false, 2 ^ 64 - 1, scoring.infinity⟩ with
            | error status => rfl
            | ok candidate =>
                simp only
                cases candidate.eligible <;> rfl

/-! ## Sequences of calls -/

/-- The arguments of a call. -/
structure Call (WorkingSet : Type) where
  /-- What the creator asks for. -/
  hint : ThreadPlacementHint WorkingSet
  /-- Loads at the time of the call. -/
  loadView : List HostLoadSnapshot
  /-- Whether the selection counts. -/
  advance : Bool

/-- Whether a call advances the round. -/
def Call.advances (call : Call WorkingSet) : Bool :=
  call.advance && call.hint.explicitHost.isNone

/-- The calls with their results. -/
def outcomes (config : PlacementConfig) (scoring : Scoring WorkingSet Score) :
    PlacementScheduler → List (Call WorkingSet) → List (Call WorkingSet × Except Status Nat)
  | _, [] => []
  | scheduler, call :: calls =>
      let selected := selectHost config scoring scheduler call.hint call.loadView call.advance
      (call, selected.1) :: outcomes config scoring selected.2 calls

/-- The results of the other calls do not depend on the probes between them. -/
theorem outcomes_probe (calls : List (Call WorkingSet)) : ∀ scheduler : PlacementScheduler,
    (outcomes config scoring scheduler calls).filter (fun outcome => outcome.1.advance) =
      outcomes config scoring scheduler (calls.filter fun call => call.advance) := by
  induction calls with
  | nil => exact fun _ => rfl
  | cons call calls induction =>
      intro scheduler
      cases counts : call.advance with
      | false =>
          have same : (selectHost config scoring scheduler call.hint call.loadView
              call.advance).2 = scheduler := by
            exact selectHost_still (by simp [counts])
          simp only [outcomes, List.filter_cons, counts, Bool.false_eq_true, if_false]
          rw [counts] at same
          rw [same]
          exact induction scheduler
      | true =>
          simp only [outcomes, List.filter_cons, counts, if_true]
          rw [induction]

/-- A call serves the queue of the eligible hosts when it advances, and keeps it otherwise. -/
theorem queue_selectHost (roundRobin : config.placementPolicy = .roundRobin)
    (lists : ListsHosts config loadView) {test : Nat → Bool}
    (same : ∀ host, host < config.hostCount → eligible config loadView host = test host)
    (free : hint.explicitHost = none) {host : Nat} {rest : List Nat}
    (first : Rotation.queue test (round config scheduler.rrCursor) = host :: rest) :
    (selectHost config scoring scheduler hint loadView true).1 = .ok host ∧
      Rotation.queue test (round config
          (selectHost config scoring scheduler hint loadView true).2.rrCursor) =
        rest ++ [host] := by
  obtain ⟨front, back, split, later, skipped, passes⟩ := Rotation.split_of_queue first
  have member : host ∈ round config scheduler.rrCursor := by
    rw [split]
    simp
  have inside := mem_round.mp member
  have agrees : (round config scheduler.rrCursor).find? (eligible config loadView) = some host := by
    refine List.find?_eq_some_iff_append.mpr ⟨?_, front, back, split, fun other before => ?_⟩
    · rw [same host inside]
      exact passes
    · have there : other ∈ round config scheduler.rrCursor := by
        rw [split]
        exact List.mem_append_left _ before
      rw [same other (mem_round.mp there), skipped other before]
      rfl
  have place : distance config scheduler.rrCursor host = front.length := by
    have at_ : (round config scheduler.rrCursor)[front.length]? = some host := by
      rw [split]
      simp
    obtain ⟨within, value⟩ := List.getElem?_eq_some_iff.mp at_
    rw [getElem_round] at value
    rw [length_round] at within
    rw [← value]
    exact distance_getElem_round within
  rw [selectHost_free roundRobin lists free, agrees]
  refine ⟨rfl, ?_⟩
  simp only [if_true]
  rw [round_behind scheduler.rrCursor inside, place, split,
    Rotation.queue_rotate front back skipped passes, later]

/-- Advancing selections return the eligible hosts from the head of their queue on. -/
theorem outcomes_serve (roundRobin : config.placementPolicy = .roundRobin) {test : Nat → Bool}
    (calls : List (Call WorkingSet)) :
    ∀ (scheduler : PlacementScheduler) (waiting served : List Nat),
    (∀ call ∈ calls, ListsHosts config call.loadView ∧
      ∀ host, host < config.hostCount → eligible config call.loadView host = test host) →
    Rotation.queue test (round config scheduler.rrCursor) = waiting ++ served →
    calls.countP Call.advances = waiting.length →
    ((outcomes config scoring scheduler calls).filter fun outcome => outcome.1.advances).map
      Prod.snd = waiting.map Except.ok := by
  induction calls with
  | nil =>
      intro scheduler waiting served _ _ count
      simp only [List.countP_nil] at count
      rw [List.eq_nil_of_length_eq_zero count.symm]
      rfl
  | cons call calls induction =>
      intro scheduler waiting served views queued count
      obtain ⟨lists, same⟩ := views call List.mem_cons_self
      have laterViews := fun other member => views other (List.mem_cons_of_mem call member)
      cases moves : call.advances with
      | false =>
          have kept : (selectHost config scoring scheduler call.hint call.loadView
              call.advance).2 = scheduler := by
            refine selectHost_still fun both => ?_
            simp [Call.advances, both.1, both.2] at moves
          simp only [outcomes, List.filter_cons, moves, Bool.false_eq_true, if_false, kept]
          refine induction scheduler waiting served laterViews queued ?_
          simpa [List.countP_cons, moves] using count
      | true =>
          obtain ⟨counts, free⟩ : call.advance = true ∧ call.hint.explicitHost = none := by
            simpa [Call.advances] using moves
          rw [List.countP_cons, if_pos moves] at count
          obtain ⟨host, rest, rfl⟩ : ∃ host rest, waiting = host :: rest := by
            refine List.exists_cons_of_length_pos ?_
            omega
          obtain ⟨result, queued'⟩ := @queue_selectHost _ _ config scoring scheduler call.hint
            call.loadView roundRobin lists test same free host (rest ++ served) queued
          simp only [outcomes, List.filter_cons, moves, if_true, List.map_cons, counts, result]
          refine congrArg (Except.ok host :: ·) ?_
          refine induction _ rest (served ++ [host]) laterViews ?_ ?_
          · rw [queued', List.append_assoc]
          · simpa using count

/-- A round-robin selection without an explicit host returns the first eligible host of the round
that starts at the cursor and fails when there is none; with an explicit host it returns that host
or fails, and leaves the scheduler alone; probes do not matter for the other calls; and while the
eligible hosts stay the same, as many advancing selections as there are eligible hosts return each
of them once. -/
theorem round_robin_fair (config : PlacementConfig) (scoring : Scoring WorkingSet Score)
    (roundRobin : config.placementPolicy = .roundRobin) :
    (∀ scheduler loadView, ListsHosts config loadView → ∀ hint, hint.explicitHost = none →
      ∀ advance, (selectHost config scoring scheduler hint loadView advance).1 =
        match (round config scheduler.rrCursor).find? (eligible config loadView) with
        | some host => .ok host
        | none => .error (.unavailable "all execution hosts are at capacity")) ∧
    (∀ scheduler loadView, ListsHosts config loadView → ∀ hint host,
      hint.explicitHost = some host → host < config.hostCount → ∀ advance,
        selectHost config scoring scheduler hint loadView advance =
          (if eligible config loadView host then .ok host
            else .error (.unavailable "all execution hosts are at capacity"), scheduler)) ∧
    (∀ scheduler calls,
      (outcomes config scoring scheduler calls).filter (fun outcome => outcome.1.advance) =
        outcomes config scoring scheduler (calls.filter fun call => call.advance)) ∧
    ∀ scheduler calls hosts, List.Nodup hosts →
      (∀ call ∈ calls, ListsHosts config call.loadView ∧
        ∀ host, host ∈ hosts ↔
          host < config.hostCount ∧ eligible config call.loadView host = true) →
      calls.countP Call.advances = hosts.length →
      (((outcomes config scoring scheduler calls).filter fun outcome =>
        outcome.1.advances).map Prod.snd).Perm (hosts.map Except.ok) := by
  refine ⟨?_, ?_, fun scheduler calls => outcomes_probe calls scheduler, ?_⟩
  · intro scheduler loadView lists hint free advance
    rw [selectHost_free roundRobin lists free]
    cases (round config scheduler.rrCursor).find? (eligible config loadView) <;> rfl
  · intro scheduler loadView lists hint host named inside advance
    exact selectHost_explicit roundRobin lists named inside advance
  · intro scheduler calls hosts nodup views count
    cases calls with
    | nil =>
        rw [List.countP_nil] at count
        rw [List.eq_nil_of_length_eq_zero count.symm]
        exact List.Perm.nil
    | cons first calls =>
        have below : ∀ host ∈ hosts, host < config.hostCount := fun host member =>
          ((views first List.mem_cons_self).2 host).mp member |>.1
        have agrees : ∀ call ∈ first :: calls, ListsHosts config call.loadView ∧
            ∀ host, host < config.hostCount →
              eligible config call.loadView host = decide (host ∈ hosts) := by
          intro call member
          obtain ⟨lists, fixed⟩ := views call member
          refine ⟨lists, fun host inside => ?_⟩
          rw [Bool.eq_iff_iff, decide_eq_true_iff, fixed host]
          exact ⟨fun open_ => ⟨inside, open_⟩, fun both => both.2⟩
        have queued : (Rotation.queue (fun host => decide (host ∈ hosts))
            (round config scheduler.rrCursor)).Perm hosts := by
          refine (List.perm_ext_iff_of_nodup ?_ nodup).mpr fun host => ?_
          · exact (List.nodup_rotate.mpr List.nodup_range).filter _
          · rw [Rotation.queue, List.mem_filter, mem_round, decide_eq_true_iff]
            exact ⟨fun both => both.2, fun member => ⟨below host member, member⟩⟩
        have served := @outcomes_serve _ _ config scoring roundRobin _ (first :: calls) scheduler
          (Rotation.queue (fun host => decide (host ∈ hosts)) (round config scheduler.rrCursor)) []
          agrees (List.append_nil _).symm (count.trans queued.length_eq.symm)
        rw [served]
        exact queued.map _

theorem threeHosts_pos : 0 < 3 := by decide

/-- Three hosts with room for one execution each. -/
def threeHosts : PlacementConfig := ⟨3, .roundRobin, ⟨1, 0⟩, threeHosts_pos, by decide⟩

def unscored : Scoring Unit Unit :=
    ⟨(), fun _ => .ok fun _ => (), fun _ _ _ _ => (), fun _ _ => false⟩

def middleFull : List HostLoadSnapshot :=
  [⟨2, 0, 0, 0, 0, ⟨0, 0, 0⟩⟩, ⟨0, 0, 0, 0, 0, ⟨0, 0, 0⟩⟩, ⟨1, 1, 0, 0, 0, ⟨0, 0, 0⟩⟩]

/-- Two creations, each of which probes before it selects. -/
def twoCreations : List (Call Unit) :=
  [⟨⟨none, ()⟩, middleFull, false⟩, ⟨⟨none, ()⟩, middleFull, true⟩,
    ⟨⟨none, ()⟩, middleFull, false⟩, ⟨⟨none, ()⟩, middleFull, true⟩]

theorem round_robin_fair_twoCreations :
    (((outcomes threeHosts unscored initial twoCreations).filter fun outcome =>
      outcome.1.advances).map Prod.snd).Perm ([0, 2].map Except.ok) := by
  have lists : ListsHosts threeHosts middleFull := by
    rw [ListsHosts]
    decide
  have hosts : ∀ host, host ∈ [0, 2] ↔
      host < threeHosts.hostCount ∧ eligible threeHosts middleFull host = true := by
    intro host
    constructor
    · intro member
      simp only [List.mem_cons, List.not_mem_nil, or_false] at member
      rcases member with rfl | rfl <;> decide
    · rintro ⟨inside, open_⟩
      have which : host = 0 ∨ host = 1 ∨ host = 2 := by
        have count : threeHosts.hostCount = 3 := rfl
        omega
      rcases which with rfl | rfl | rfl
      · decide
      · exact absurd open_ (by decide)
      · decide
  refine (round_robin_fair threeHosts unscored rfl).2.2.2 initial twoCreations [0, 2] (by decide)
    (fun call member => ?_) rfl
  simp only [twoCreations, List.mem_cons, List.not_mem_nil, or_false] at member
  rcases member with rfl | rfl | rfl | rfl <;> exact ⟨lists, hosts⟩

end PlacementScheduler
end Cxloom.LoomPar
