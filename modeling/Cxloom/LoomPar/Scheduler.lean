import Cxloom.LoomPar.ThreadRuntime
import Cxloom.Rotation
import Mathlib.Data.List.Perm.Basic

/-!
# Thread placement

`PlacementScheduler::SelectHost`.  The scores of the memory-aware and the least-loaded policy are
floating-point numbers, so what they are computed to and how they compare is a parameter; the
round-robin policy compares distances from its cursor only.
-/

namespace Cxloom.LoomPar

/-- How hosts are compared. -/
inductive PlacementPolicy
  | memoryAware
  | roundRobin
  | leastLoaded
deriving DecidableEq, Repr

/-- The part of the configuration that placement reads. -/
structure PlacementConfig where
  /-- Number of configured hosts. -/
  hostCount : Nat
  placementPolicy : PlacementPolicy
  limits : ThreadLimits
  /-- A valid configuration has a host. -/
  hostCount_pos : 0 < hostCount
  /-- The number is a sixteen-bit word. -/
  hostCount_lt : hostCount < 2 ^ 16

/-- Sampled execution slots of a host. -/
structure ExecutionLoad where
  /-- Busy workers. -/
  executing : Nat
  /-- Runnable fibers. -/
  ready : Nat
  workers : Nat

/-- One entry of a load view. -/
structure HostLoadSnapshot where
  hostId : Nat
  /-- Executions on the host. -/
  runningThreads : Nat
  /-- Remote creations in flight. -/
  pendingCreates : Nat
  queuedMessages : Nat
  sampledAtNs : Nat
  execution : ExecutionLoad

/-- What a creator asks for. -/
structure ThreadPlacementHint (WorkingSet : Type) where
  explicitHost : Option Nat
  /-- Blocks that the thread will use. -/
  workingSet : WorkingSet

/-- What the scheduler remembers. -/
structure PlacementScheduler where
  /-- Next host of the round. -/
  rrCursor : Nat
  launches : Nat → Nat
  completions : Nat → Nat

/-- Scores and their order. -/
structure Scoring (WorkingSet Score : Type) where
  /-- The minimum before any host was looked at. -/
  infinity : Score
  /-- Cost of a working set on every host, or why it is refused. -/
  memoryCost : WorkingSet → Except Status (Nat → Score)
  score : PlacementPolicy → PlacementScheduler → Option (Nat → Score) → HostLoadSnapshot → Score
  less : Score → Score → Bool

/-- The best host so far. -/
structure PlacementCandidate (Score : Type) where
  /-- The host. -/
  best : Nat
  /-- A host below its limits was seen. -/
  eligible : Bool
  /-- Distance of the host from the cursor. -/
  bestDistance : Nat
  minScore : Score

namespace PlacementScheduler

/-- The scheduler of a new runtime. -/
def initial : PlacementScheduler := ⟨0, fun _ => 0, fun _ => 0⟩

/-- `RecordCompletion`. -/
def recordCompletion (scheduler : PlacementScheduler) (host : Nat) : PlacementScheduler :=
  { scheduler with
    completions := Function.update scheduler.completions host (scheduler.completions host + 1) }

variable {WorkingSet Score : Type} (config : PlacementConfig) (scoring : Scoring WorkingSet Score)

/-- Whether a sample is below both limits. -/
def belowLimits (snapshot : HostLoadSnapshot) : Bool :=
  !(config.limits.maxRunningThreadsPerHost ≠ 0 ∧
      config.limits.maxRunningThreadsPerHost ≤ snapshot.runningThreads) &&
    !(config.limits.maxPendingCreatesPerHost ≠ 0 ∧
      config.limits.maxPendingCreatesPerHost ≤ snapshot.pendingCreates)

def distance (cursor host : Nat) : Nat :=
  (host + config.hostCount - cursor % config.hostCount) % config.hostCount

def placementCost (hint : ThreadPlacementHint WorkingSet) :
    Except Status (Option (Nat → Score)) :=
  if config.placementPolicy = .memoryAware ∧ hint.explicitHost = none then
    (scoring.memoryCost hint.workingSet).map some
  else .ok none

/-- Look at one sample. -/
def visit (scheduler : PlacementScheduler) (hint : ThreadPlacementHint WorkingSet)
    (cost : Option (Nat → Score)) (candidate : PlacementCandidate Score)
    (snapshot : HostLoadSnapshot) : Except Status (PlacementCandidate Score) :=
  if config.hostCount ≤ snapshot.hostId then
    .error (.invalidArgument "load host out of range")
  else if hint.explicitHost.any (· ≠ snapshot.hostId) then .ok candidate
  else if !belowLimits config snapshot then .ok candidate
  else
    let score := scoring.score config.placementPolicy scheduler cost snapshot
    let distance := distance config scheduler.rrCursor snapshot.hostId
    let choose :=
      if config.placementPolicy = .roundRobin then decide (distance < candidate.bestDistance)
      else scoring.less score candidate.minScore
    .ok (if choose then ⟨snapshot.hostId, true, distance, score⟩
      else { candidate with eligible := true })

/-- `SelectHost`. -/
def selectHost (scheduler : PlacementScheduler) (hint : ThreadPlacementHint WorkingSet)
    (loadView : List HostLoadSnapshot) (advance : Bool) :
    Except Status Nat × PlacementScheduler :=
  if hint.explicitHost.any (config.hostCount ≤ ·) then
    (.error (.invalidArgument "explicit host out of range"), scheduler)
  else
    match loadView with
    | [] => (.error (.failedPrecondition "scheduler has no host load samples"), scheduler)
    | front :: others =>
        match placementCost config scoring hint with
        | .error status => (.error status, scheduler)
        | .ok cost =>
            match (front :: others).foldlM (visit config scoring scheduler hint cost)
              ⟨front.hostId, false, 2 ^ 64 - 1, scoring.infinity⟩ with
            | .error status => (.error status, scheduler)
            | .ok candidate =>
                if candidate.eligible then
                  (.ok candidate.best,
                    if advance ∧ hint.explicitHost = none ∧
                        config.placementPolicy = .roundRobin then
                      { scheduler with rrCursor := (candidate.best + 1) % config.hostCount }
                    else scheduler)
                else (.error (.unavailable "all execution hosts are at capacity"), scheduler)

def ListsHosts (loadView : List HostLoadSnapshot) : Prop :=
  (loadView.map HostLoadSnapshot.hostId).Perm (List.range config.hostCount)

def eligible (loadView : List HostLoadSnapshot) (host : Nat) : Bool :=
  loadView.any fun snapshot => snapshot.hostId = host ∧ belowLimits config snapshot

/-- The hosts in the order of a round that starts at the cursor. -/
def round (cursor : Nat) : List Nat :=
  (List.range config.hostCount).rotate cursor

end PlacementScheduler
end Cxloom.LoomPar
