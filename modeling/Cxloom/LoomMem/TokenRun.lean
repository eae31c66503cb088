import Cxloom.LoomMem.TokenFrame
import Cxloom.Run

/-!
# Runs of the token services

Any interleaving of the callers' operations on every host and of packet deliveries.  A
configuration adds to the services what their callers remember: the handle of every request that
was issued and the lease of every request whose wait succeeded and that was not released since.
-/

namespace Cxloom.LoomMem

/-- The services of a cluster and what their callers hold. -/
structure TokenConfig (cluster : Cluster) where
  state : TokenState cluster
  /-- Block of every issued request, by host and request identifier. -/
  issued : cluster.Host → Nat → Option BlockKey
  /-- Lease returned by `Wait`, by host and request identifier. -/
  returned : cluster.Host → Nat → Option TokenLease
  /-- Lease returned by `Wait` and not yet released, by host and request identifier. -/
  leased : cluster.Host → Nat → Option TokenLease

/-- One atomic action on the services. -/
inductive TokenOp (cluster : Cluster)
  | request (host : cluster.Host) (key : BlockKey) (activateCoherenceEpoch : Bool)
  | wait (host : cluster.Host) (requestId : Nat)
  | cancel (host : cluster.Host) (requestId : Nat)
  | cancelAndWait (host : cluster.Host) (requestId : Nat)
  | awaitCancel (host : cluster.Host) (requestId : Nat)
  | beginWriteback (host : cluster.Host) (lease : TokenLease)
  | release (host : cluster.Host) (requestId : Nat) (modified : Bool)
  | progress (host : cluster.Host)
  | publish (source destination : cluster.Host)
  | deliver (source destination : cluster.Host)
deriving DecidableEq

/-- Change one entry of a table indexed by host and request identifier. -/
def updateEntry {cluster : Cluster} {α : Type} (table : cluster.Host → Nat → Option α)
    (host : cluster.Host) (requestId : Nat) (entry : Option α) :
    cluster.Host → Nat → Option α :=
  Function.update table host (Function.update (table host) requestId entry)

@[simp] theorem updateEntry_apply {cluster : Cluster} {α : Type}
    (table : cluster.Host → Nat → Option α) (host other : cluster.Host)
    (requestId otherId : Nat) (entry : Option α) :
    updateEntry table host requestId entry other otherId =
      if other = host ∧ otherId = requestId then entry else table other otherId := by
  by_cases same : other = host
  · subst same
    simp [updateEntry, Function.update_apply]
  · simp [updateEntry, same]

namespace TokenConfig

variable {cluster : Cluster}

/-- Replace the shared state. -/
def withState (config : TokenConfig cluster) (state : TokenState cluster) :
    TokenConfig cluster :=
  { config with state := state }

/-- Run one caller operation that keeps the tables. -/
def run (config : TokenConfig cluster) (result : Status × TokenState cluster) :
    Status × TokenConfig cluster :=
  (result.1, config.withState result.2)

def publishApplication (state : TokenState cluster) (source destination : cluster.Host) :
    TokenState cluster :=
  let channel := state.channel source destination
  { state with
    channel := Function.update state.channel source
      (Function.update (state.channel source) destination
        { channel with packets := channel.packets ++ [.application] }) }

/-- Perform one action, with the status its caller or the poller sees.  An action is disabled when
its caller has no such handle or lease, or when there is no packet to deliver. -/
def step (config : TokenConfig cluster) : TokenOp cluster → Option (Status × TokenConfig cluster)
  | .request host key activate =>
      let result := config.state.request host key activate
      match result.1 with
      | .ok handle =>
          some (.ok,
            { config with
              state := result.2
              issued := updateEntry config.issued host handle.requestId (some handle.key) })
      | .error status => some (status, config.withState result.2)
  | .wait host requestId =>
      (config.issued host requestId).map fun key =>
        let result := config.state.wait host ⟨key, requestId⟩
        match result.1 with
        | .ok lease =>
            (.ok,
              { config with
                state := result.2
                returned := updateEntry config.returned host requestId (some lease)
                leased := updateEntry config.leased host requestId (some lease) })
        | .error status => (status, config.withState result.2)
  | .cancel host requestId =>
      (config.issued host requestId).map fun key =>
        config.run (config.state.cancel host ⟨key, requestId⟩)
  | .cancelAndWait host requestId =>
      (config.issued host requestId).map fun key =>
        config.run (config.state.cancelAndWait host ⟨key, requestId⟩)
  | .awaitCancel host requestId =>
      (config.issued host requestId).map fun key =>
        config.run (config.state.awaitCancel host ⟨key, requestId⟩)
  | .beginWriteback host lease => some (config.run (config.state.beginWriteback host lease))
  | .release host requestId modified =>
      (config.leased host requestId).map fun lease =>
        let result := config.state.release host lease modified
        (result.1,
          { config with
            state := result.2
            leased :=
              if result.1.isOk then updateEntry config.leased host requestId none
              else config.leased })
  | .progress host => some (config.run (config.state.progressOutbound host))
  | .publish source destination =>
      some (.ok, config.withState (publishApplication config.state source destination))
  | .deliver source destination =>
      (config.state.pop source destination).map fun popped =>
        config.run (popped.2.handleMessage destination popped.1)

/-- What each action does, case by case. -/
inductive Effect (config : TokenConfig cluster) :
    TokenOp cluster → Status → TokenConfig cluster → Prop
  | requested (host : cluster.Host) (key : BlockKey) (activate : Bool)
      (handle : TokenRequestHandle) :
      (config.state.request host key activate).1 = .ok handle →
      Effect config (.request host key activate) .ok
        { config with
          state := (config.state.request host key activate).2
          issued := updateEntry config.issued host handle.requestId (some handle.key) }
  | requestFailed (host : cluster.Host) (key : BlockKey) (activate : Bool) (status : Status) :
      (config.state.request host key activate).1 = .error status →
      Effect config (.request host key activate) status
        (config.withState (config.state.request host key activate).2)
  | waited (host : cluster.Host) (requestId : Nat) (key : BlockKey) (lease : TokenLease) :
      config.issued host requestId = some key →
      (config.state.wait host ⟨key, requestId⟩).1 = .ok lease →
      Effect config (.wait host requestId) .ok
        { config with
          state := (config.state.wait host ⟨key, requestId⟩).2
          returned := updateEntry config.returned host requestId (some lease)
          leased := updateEntry config.leased host requestId (some lease) }
  | waitFailed (host : cluster.Host) (requestId : Nat) (key : BlockKey) (status : Status) :
      config.issued host requestId = some key →
      (config.state.wait host ⟨key, requestId⟩).1 = .error status →
      Effect config (.wait host requestId) status
        (config.withState (config.state.wait host ⟨key, requestId⟩).2)
  | cancelled (host : cluster.Host) (requestId : Nat) (key : BlockKey) :
      config.issued host requestId = some key →
      Effect config (.cancel host requestId) (config.state.cancel host ⟨key, requestId⟩).1
        (config.withState (config.state.cancel host ⟨key, requestId⟩).2)
  | cancelledAndWaited (host : cluster.Host) (requestId : Nat) (key : BlockKey) :
      config.issued host requestId = some key →
      Effect config (.cancelAndWait host requestId)
        (config.state.cancelAndWait host ⟨key, requestId⟩).1
        (config.withState (config.state.cancelAndWait host ⟨key, requestId⟩).2)
  | awaitedCancel (host : cluster.Host) (requestId : Nat) (key : BlockKey) :
      config.issued host requestId = some key →
      Effect config (.awaitCancel host requestId)
        (config.state.awaitCancel host ⟨key, requestId⟩).1
        (config.withState (config.state.awaitCancel host ⟨key, requestId⟩).2)
  | beganWriteback (host : cluster.Host) (lease : TokenLease) :
      Effect config (.beginWriteback host lease) (config.state.beginWriteback host lease).1
        (config.withState (config.state.beginWriteback host lease).2)
  | released (host : cluster.Host) (requestId : Nat) (modified : Bool) (lease : TokenLease) :
      config.leased host requestId = some lease →
      Effect config (.release host requestId modified)
        (config.state.release host lease modified).1
        { config with
          state := (config.state.release host lease modified).2
          leased :=
            if (config.state.release host lease modified).1.isOk then
              updateEntry config.leased host requestId none
            else config.leased }
  | progressed (host : cluster.Host) :
      Effect config (.progress host) (config.state.progressOutbound host).1
        (config.withState (config.state.progressOutbound host).2)
  | published (source destination : cluster.Host) :
      Effect config (.publish source destination) .ok
        (config.withState (publishApplication config.state source destination))
  | delivered (source destination : cluster.Host) (packet : Packet cluster)
      (after : TokenState cluster) :
      config.state.pop source destination = some (packet, after) →
      Effect config (.deliver source destination) (after.handleMessage destination packet).1
        (config.withState (after.handleMessage destination packet).2)

theorem step_effect {config next : TokenConfig cluster} {op : TokenOp cluster} {status : Status}
    (performed : config.step op = some (status, next)) : config.Effect op status next := by
  cases op with
  | request host key activate =>
      simp only [step] at performed
      split at performed
      · rename_i handle accepted
        cases performed
        exact .requested host key activate handle accepted
      · rename_i refused
        cases performed
        exact .requestFailed host key activate _ refused
  | wait host requestId =>
      simp only [step, Option.map_eq_some_iff] at performed
      obtain ⟨key, issued, result⟩ := performed
      split at result
      · rename_i lease granted
        cases result
        exact .waited host requestId key lease issued granted
      · rename_i failed
        cases result
        exact .waitFailed host requestId key _ issued failed
  | cancel host requestId =>
      simp only [step, Option.map_eq_some_iff] at performed
      obtain ⟨key, issued, result⟩ := performed
      cases result
      exact .cancelled host requestId key issued
  | cancelAndWait host requestId =>
      simp only [step, Option.map_eq_some_iff] at performed
      obtain ⟨key, issued, result⟩ := performed
      cases result
      exact .cancelledAndWaited host requestId key issued
  | awaitCancel host requestId =>
      simp only [step, Option.map_eq_some_iff] at performed
      obtain ⟨key, issued, result⟩ := performed
      cases result
      exact .awaitedCancel host requestId key issued
  | beginWriteback host lease =>
      cases performed
      exact .beganWriteback host lease
  | release host requestId modified =>
      simp only [step, Option.map_eq_some_iff] at performed
      obtain ⟨lease, leased, result⟩ := performed
      cases result
      exact .released host requestId modified lease leased
  | progress host =>
      cases performed
      exact .progressed host
  | publish source destination =>
      cases performed
      exact .published source destination
  | deliver source destination =>
      simp only [step, Option.map_eq_some_iff] at performed
      obtain ⟨⟨packet, after⟩, popped, result⟩ := performed
      cases result
      exact .delivered source destination packet after popped

/-- One action, forgetting the status. -/
def next (config : TokenConfig cluster) (op : TokenOp cluster) : Option (TokenConfig cluster) :=
  (config.step op).map Prod.snd

/-- Any interleaving of admitted actions. -/
def ReachesBy (admitted : TokenConfig cluster → TokenOp cluster → Prop) :
    TokenConfig cluster → TokenConfig cluster → Prop :=
  Run.ReachesBy next admitted

/-- Any interleaving of actions. -/
def Reaches : TokenConfig cluster → TokenConfig cluster → Prop :=
  ReachesBy fun _ _ => True

/-- What every admitted action preserves holds in every reached configuration. -/
theorem ReachesBy.preserves {admitted : TokenConfig cluster → TokenOp cluster → Prop}
    {before after : TokenConfig cluster} (execution : ReachesBy admitted before after)
    (invariant : TokenConfig cluster → Prop) (initially : invariant before)
    (step : ∀ config op status next, invariant config → admitted config op →
      config.step op = some (status, next) → invariant next) : invariant after := by
  apply Run.ReachesBy.preserves execution invariant initially
  intro config op after holds admits performed
  obtain ⟨⟨status, reached⟩, stepped, same⟩ := Option.map_eq_some_iff.mp performed
  obtain rfl : reached = after := same
  exact step config op status reached holds admits stepped

/-- Execute a list of actions, failing at the first disabled one. -/
def runOps (config : TokenConfig cluster) (ops : List (TokenOp cluster)) :
    Option (TokenConfig cluster) :=
  Run.runLabels next config ops

/-- Every action of a list is admitted when it is performed. -/
def AdmitsOps (config : TokenConfig cluster)
    (admitted : TokenConfig cluster → TokenOp cluster → Prop) (ops : List (TokenOp cluster)) :
    Prop :=
  Run.AdmitsLabels next admitted config ops

instance decidableAdmitsOps (config : TokenConfig cluster)
    (admitted : TokenConfig cluster → TokenOp cluster → Prop)
    [∀ config op, Decidable (admitted config op)] (ops : List (TokenOp cluster)) :
    Decidable (config.AdmitsOps admitted ops) :=
  inferInstanceAs (Decidable (Run.AdmitsLabels next admitted config ops))

theorem reachesBy_of_runOps {admitted : TokenConfig cluster → TokenOp cluster → Prop}
    {ops : List (TokenOp cluster)} {before after : TokenConfig cluster}
    (execution : before.runOps ops = some after) (admits : before.AdmitsOps admitted ops) :
    ReachesBy admitted before after :=
  Run.reachesBy_of_runLabels execution admits

theorem reaches_of_runOps {ops : List (TokenOp cluster)} {before after : TokenConfig cluster}
    (execution : before.runOps ops = some after) : before.Reaches after :=
  Run.reaches_of_runLabels execution

/-! ## Initial configurations -/

def firstHost (cluster : Cluster) : cluster.Host := ⟨0, cluster.hostCount_pos⟩

/-- The configuration in which `Allocate` and `RegisterAllocation` ran for the objects of
`allocation` (owner and number of blocks) and nothing else happened. -/
def initial (cluster : Cluster) (allocation : GlobalPointer → Option (cluster.Host × Nat)) :
    TokenConfig cluster where
  state :=
    { descriptor := fun object =>
        { state := if (allocation object).isSome then .allocated else .empty
          ownerHost := ((allocation object).map Prod.fst).getD (firstHost cluster)
          coherenceBlockCount := ((allocation object).map Prod.snd).getD 0
          sealedHosts := 0#64
          activeOperations := fun _ => 0
          replicaHosts := 0#64 }
      block := fun key =>
        { tokenOwner := ((allocation key.object).map Prod.fst).getD (firstHost cluster)
          version := 0
          tokenEpoch := 1
          writebackEpoch := 0
          lastWriter := none }
      service := fun host =>
        { nextRequestId := 1
          waiters := fun _ => none
          objects := fun key =>
            { available :=
                (allocation key.object).any fun owned =>
                  owned.1 = host ∧ key.blockIndex < owned.2
              held := false
              pending := [] }
          outbound := fun _ => [] }
      channel := fun _ _ => { packets := [], consumedSequence := 0 } }
  issued := fun _ _ => none
  returned := fun _ _ => none
  leased := fun _ _ => none

/-! ## Three hosts and one block -/

/-- Three hosts with queues of eight packets. -/
def threeHosts : Cluster := ⟨3, 8, by decide, by decide⟩

/-- The host that allocates. -/
def host0 : threeHosts.Host := ⟨0, by decide⟩

/-- A host that uses the object. -/
def host1 : threeHosts.Host := ⟨1, by decide⟩

/-- Another host that uses the object. -/
def host2 : threeHosts.Host := ⟨2, by decide⟩

/-- The only block of the object at offset 64. -/
def onlyBlock : BlockKey := ⟨⟨0, 64⟩, 0⟩

def firstOwns (object : GlobalPointer) : Option (threeHosts.Host × Nat) :=
  if object = onlyBlock.object then some (host0, 1) else none

def threeHostsInitial : TokenConfig threeHosts := initial threeHosts firstOwns

end TokenConfig
end Cxloom.LoomMem
