import Cxloom.LoomMem.ReclamationSteps
import Cxloom.LoomMem.RetirementCertificate

/-!
# Pollers during a reclamation

An acknowledgement sets one bit of one mask.  A host that still has to acknowledge a phase keeps the
phase current, so what its poller observed stays true until it acknowledges itself.
-/

namespace Cxloom.LoomMem.Reclamation

variable {cluster : Cluster} {limits : cluster.Host → CacheLimits}
  {config after : Reclamation cluster} {host other : cluster.Host}
  {control before : RetirementControl} {transaction : RetirementSnapshot} {cursors : HostId → Nat}

/-! ## Acknowledgements -/

theorem contains_acknowledged (mask : HostMask) (host other : cluster.Host) :
    (mask ||| HostMask.bit host).contains other = true ↔
      mask.contains other = true ∨ other = host := by
  rw [HostMask.contains_or_bit mask (other.isLt.trans_le cluster.hostCount_le), Bool.or_eq_true,
    decide_eq_true_eq, Fin.val_inj]

/-- What an acknowledgement of a host changes in the control. -/
structure Confirms (before : RetirementControl) (host : cluster.Host) (after : RetirementControl) :
    Prop where
  /-- The transaction stays. -/
  named : after.current = { before.current with phase := after.current.phase }
  gained : ∀ phase, Active phase → ∀ other : cluster.Host,
    (mask after phase).contains other = true →
      (mask before phase).contains other = true ∨ phase = before.current.phase ∧ other = host
  /-- A phase ends when all hosts have acknowledged it. -/
  full : after.current = before.current ∨
    ∀ other : cluster.Host, (mask after before.current.phase).contains other = true

theorem Confirms.of_advance {acknowledged : HostMask} {phase : RetirementPhase}
    (gained : ∀ phase, Active phase → ∀ other : cluster.Host,
      (mask control phase).contains other = true →
        (mask before phase).contains other = true ∨ phase = before.current.phase ∧ other = host)
    (current : control.current = Allocator.advance before acknowledged cluster.hostCount phase)
    (own : mask control before.current.phase = acknowledged) : Confirms before host control := by
  rcases RetirementTrace.advance_cases before acknowledged cluster.hostCount phase with stays
    | ⟨all, advances⟩
  · rw [stays] at current
    exact ⟨by rw [current], gained, .inl current⟩
  · rw [advances] at current
    refine ⟨by rw [current], gained, .inr fun other => ?_⟩
    rw [own]
    exact HostMask.contains_of_eq_all cluster.hostCount_le all other.isLt

namespace Confirms

theorem sequence (confirms : Confirms before host control) :
    control.current.sequence = before.current.sequence := by rw [confirms.named]

theorem object (confirms : Confirms before host control) :
    control.current.object = before.current.object := by rw [confirms.named]

theorem hostCount (confirms : Confirms before host control) :
    control.current.hostCount = before.current.hostCount := by rw [confirms.named]

end Confirms

theorem Owes.confirm (owes : Owes before other transaction)
    (confirms : Confirms before host control)
    (apart : other ≠ host) : Owes control other transaction := by
  have missing : (mask control transaction.phase).contains other = false := by
    by_contra given
    rcases confirms.gained _ owes.active other (Bool.not_eq_false _ ▸ given) with old | ⟨-, same⟩
    · rw [owes.missing] at old
      cases old
    · exact apart same
  refine ⟨?_, owes.active, missing⟩
  rcases confirms.full with stays | all
  · rw [stays]
    exact owes.current
  · have given := all other
    rw [← owes.current, missing] at given
    cases given

theorem Known.confirm (known : Known before transaction) (confirms : Confirms before host control) :
    Known control transaction where
  past := by
    rw [confirms.sequence]
    exact known.past
  same := by
    intro now
    rw [confirms.sequence] at now
    rw [confirms.named]
    exact known.same now
  active := known.active

/-- Another poller stands where it stood. -/
theorem Standing.confirm {state : TokenState cluster} {point : PollerPoint cluster}
    (standing : Standing state before other point) (confirms : Confirms before host control)
    (busy : before.current.phase ≠ .idle) (apart : other ≠ host) :
    Standing state control other point := by
  cases point with
  | scanning | flushed => trivial
  | handling packet =>
      intro object about
      obtain ⟨exists_, distinct⟩ := standing object about
      refine ⟨exists_, fun _ acknowledged => ?_⟩
      rw [confirms.object]
      rcases confirms.gained .draining (.inr (.inl rfl)) other acknowledged with old | ⟨-, same⟩
      · exact distinct busy old
      · exact (apart same).elim
  | observed => exact Known.confirm standing confirms
  | owing => exact Owes.confirm standing confirms apart
  | sampling | forgotten | acknowledging => exact ⟨standing.1.confirm confirms apart, standing.2⟩

/-- What an acknowledgement of any phase leaves as it was. -/
theorem Progressing.confirm {first second : TokenState cluster} {accepted : List Acknowledgement}
    (progressing : Progressing first before accepted) (keeps : first.Keeps second)
    (confirms : Confirms before host control) (cursors : HostId → Nat)
    (closed : ∀ other : cluster.Host, control.closed.contains other = true →
      Closed second before.current.object control.watermarks other)
    (drained : ∀ other : cluster.Host, control.drained.contains other = true →
      control.current.phase ≠ .closing ∧
        ∀ source, (second.channel source other).Clear before.current.object)
    (allClosed : control.current.phase ≠ .closing →
      ∀ other : cluster.Host, control.closed.contains other = true)
    (allDrained : control.current.phase = .cleaning ∨ control.current.phase = .reclaimable →
      ∀ other : cluster.Host, control.drained.contains other = true)
    (allCleaned : control.current.phase = .reclaimable →
      ∀ other : cluster.Host, control.cleaned.contains other = true) :
    Progressing second control
      (⟨before.current.sequence, before.current.phase, hostId host, cursors⟩ :: accepted) where
  retiring := by
    rw [confirms.object, keeps.unallocated (by rw [progressing.retiring]; decide)]
    exact progressing.retiring
  participants := by
    rw [confirms.hostCount]
    exact progressing.participants
  closed := by
    rw [confirms.object]
    exact closed
  drained := by
    rw [confirms.object]
    exact drained
  allClosed := allClosed
  allDrained := allDrained
  allCleaned := allCleaned
  logged := by
    intro phase other given active
    rw [confirms.sequence]
    rcases confirms.gained phase active other given with old | ⟨rfl, rfl⟩
    · obtain ⟨acknowledgement, member, gives⟩ := progressing.logged phase other old active
      exact ⟨acknowledgement, List.mem_cons_of_mem _ member, gives⟩
    · exact ⟨_, List.mem_cons_self, rfl, rfl, rfl⟩

/-- An accepted acknowledgement, after which the poller goes back to its queues. -/
theorem Invariant.confirm {accepting : Reclamation cluster} (invariant : Invariant limits config)
    (active : Active config.retirement.current.phase)
    (keeps : config.state.Keeps accepting.state)
    (confirms : Confirms config.retirement host control)
    (view : ∀ other, accepting.view other = config.view other)
    (poller : accepting.poller = config.poller)
    (progressing : Progressing accepting.state control
      (accepting.accept host cursors control).accepted) :
    Invariant limits ((accepting.accept host cursors control).setPoller host .scanning) where
  sound := invariant.sound.keep keeps
  progressing _ := progressing
  standing := by
    intro other
    by_cases same : other = host
    · subst same
      simp [setPoller, Standing]
    · have standing := ((invariant.standing other).keep keeps).confirm confirms
        (by rcases active with phase | phase | phase <;> simp [phase]) same
      rw [← poller] at standing
      simp only [setPoller, Function.update_of_ne same]
      exact standing
  kept := by
    intro other
    have kept := invariant.kept other
    rw [← view other] at kept
    exact kept

/-- A host seals an object that it closed, and records the cursors of its producers. -/
theorem Invariant.acknowledgeClosing (invariant : Invariant limits config)
    (closing : config.retirement.current.phase = .closing)
    (quiet : (config.descriptor config.retirement.current.object).activeOperations host = 0)
    (sampled : Sampled config.state host config.retirement.current cursors cluster.hostCount) :
    Invariant limits
      (((config.setDescriptor config.retirement.current.object
          { config.descriptor config.retirement.current.object with
            sealedHosts := (config.descriptor config.retirement.current.object).sealedHosts |||
              HostMask.bit host }).accept host cursors
          { config.retirement with
            watermarks := Function.update config.retirement.watermarks (hostId host) cursors
            closed := config.retirement.closed ||| HostMask.bit host
            current := Allocator.advance config.retirement
              (config.retirement.closed ||| HostMask.bit host) cluster.hostCount
              .draining }).setPoller host .scanning) := by
  have progressing := invariant.progressing (by rw [closing]; decide)
  have keeps := @keeps_setDescriptor _ config config.retirement.current.object invariant.sound
    { config.descriptor config.retirement.current.object with
      sealedHosts := (config.descriptor config.retirement.current.object).sealedHosts |||
        HostMask.bit host } (.inl rfl) rfl
    (fun other sealed => (contains_acknowledged _ host other).mpr (.inl sealed)) (fun _ _ => id)
  have sealed := setDescriptor_descriptor config config.retirement.current.object
    { config.descriptor config.retirement.current.object with
      sealedHosts := (config.descriptor config.retirement.current.object).sealedHosts |||
        HostMask.bit host } config.retirement.current.object
  rw [if_pos rfl] at sealed
  have confirms : Confirms config.retirement host
      { config.retirement with
        watermarks := Function.update config.retirement.watermarks (hostId host) cursors
        closed := config.retirement.closed ||| HostMask.bit host
        current := Allocator.advance config.retirement
          (config.retirement.closed ||| HostMask.bit host) cluster.hostCount .draining } := by
    refine .of_advance (fun phase active other given => ?_) rfl (by rw [closing]; rfl)
    rcases active with rfl | rfl | rfl
    · exact ((contains_acknowledged _ host other).mp given).imp_right fun same =>
        ⟨closing.symm, same⟩
    · exact .inl given
    · exact .inl given
  have advanced := RetirementTrace.advance_cases config.retirement
    (config.retirement.closed ||| HostMask.bit host) cluster.hostCount .draining
  refine invariant.confirm (.inl closing) keeps confirms
    (@setDescriptor_view _ config _ _ Iff.rfl rfl) rfl
    (progressing.confirm keeps confirms cursors (fun other given => ?_) (fun other given => ?_)
      (fun behind other => ?_) (fun behind => ?_) fun behind => ?_)
  · by_cases same : other = host
    · subst same
      refine ⟨?_, ?_, ?_, ?_⟩
      · rw [← descriptor, sealed]
        exact (contains_acknowledged _ other other).mpr (.inr rfl)
      · rw [← descriptor, sealed]
        exact quiet
      · exact keeps.rid other _ (sampled.rid closing)
      · intro producer apart
        simp only [Function.update_self]
        exact sampled.marked closing producer apart producer.isLt
    · have old := ((contains_acknowledged _ host other).mp given).resolve_right same
      have closed := (progressing.closed other old).keep keeps
      refine ⟨closed.sealedHost, closed.quiet, closed.rid, fun producer apart => ?_⟩
      simp only [Function.update_of_ne fun equal => same (hostId_injective equal)]
      exact closed.marked producer apart
  · exact ((progressing.drained other given).1 closing).elim
  · rcases advanced with stays | ⟨all, -⟩
    · exact (behind (by rw [stays, closing])).elim
    · exact HostMask.contains_of_eq_all cluster.hostCount_le all other.isLt
  · rcases advanced with stays | ⟨-, advances⟩
    · simp [stays, closing] at behind
    · simp [advances] at behind
  · rcases advanced with stays | ⟨-, advances⟩
    · simp [stays, closing] at behind
    · simp [advances] at behind

/-- A host that reached the recorded cursors has no packet about the object ahead. -/
theorem Invariant.acknowledgeDraining (invariant : Invariant limits config)
    (draining : config.retirement.current.phase = .draining)
    (reached : ∀ producer : HostId, producer.val < cluster.hostCount → producer ≠ hostId host →
      config.retirement.watermarks producer (hostId host) ≤ cursors producer)
    (sampled : Sampled config.state host config.retirement.current cursors cluster.hostCount) :
    Invariant limits
      ((config.accept host cursors
          { config.retirement with
            drained := config.retirement.drained ||| HostMask.bit host
            current := Allocator.advance config.retirement
              (config.retirement.drained ||| HostMask.bit host) cluster.hostCount
              .cleaning }).setPoller host .scanning) := by
  have progressing := invariant.progressing (by rw [draining]; decide)
  have keeps := (TokenState.Confined.refl (invariant.sound.filed host)).keeps invariant.sound.filed
  have confirms : Confirms config.retirement host
      { config.retirement with
        drained := config.retirement.drained ||| HostMask.bit host
        current := Allocator.advance config.retirement
          (config.retirement.drained ||| HostMask.bit host) cluster.hostCount .cleaning } := by
    refine .of_advance (fun phase active other given => ?_) rfl (by rw [draining]; rfl)
    rcases active with rfl | rfl | rfl
    · exact .inl given
    · exact ((contains_acknowledged _ host other).mp given).imp_right fun same =>
        ⟨draining.symm, same⟩
    · exact .inl given
  have advanced := RetirementTrace.advance_cases config.retirement
    (config.retirement.drained ||| HostMask.bit host) cluster.hostCount .cleaning
  have behind : config.retirement.current.phase ≠ .closing := by
    rw [draining]
    decide
  have passed : ∀ source, (config.state.channel source host).Clear
      config.retirement.current.object := by
    intro source
    by_cases same : source = host
    · subst same
      intro packet member
      rw [invariant.sound.loopback source packet member]
      simp
    · have closed := progressing.closed source (progressing.allClosed behind source)
      refine (closed.marked host (Ne.symm same)).clear ?_
      exact (reached (hostId source) source.isLt fun equal => same (hostId_injective equal)).trans
        (sampled.reached draining source same)
  refine invariant.confirm (.inr (.inl draining)) keeps confirms (fun _ => rfl) rfl
    (progressing.confirm keeps confirms cursors progressing.closed (fun other given => ?_)
      (fun _ => progressing.allClosed behind) (fun ended other => ?_) fun ended => ?_)
  · constructor
    · rcases advanced with stays | ⟨-, advances⟩
      · rwa [stays]
      · simp [advances]
    · rcases (contains_acknowledged _ host other).mp given with old | rfl
      · exact (progressing.drained other old).2
      · exact passed
  · rcases advanced with stays | ⟨all, -⟩
    · simp [stays, draining] at ended
    · exact HostMask.contains_of_eq_all cluster.hostCount_le all other.isLt
  · rcases advanced with stays | ⟨-, advances⟩
    · simp [stays, draining] at ended
    · simp [advances] at ended

theorem Invariant.acknowledgeCleaning (invariant : Invariant limits config)
    (cleaning : config.retirement.current.phase = .cleaning) (cursors : HostId → Nat) :
    Invariant limits
      ((config.accept host cursors
          { config.retirement with
            cleaned := config.retirement.cleaned ||| HostMask.bit host
            current := Allocator.advance config.retirement
              (config.retirement.cleaned ||| HostMask.bit host) cluster.hostCount
              .reclaimable }).setPoller host .scanning) := by
  have progressing := invariant.progressing (by rw [cleaning]; decide)
  have keeps := (TokenState.Confined.refl (invariant.sound.filed host)).keeps invariant.sound.filed
  have confirms : Confirms config.retirement host
      { config.retirement with
        cleaned := config.retirement.cleaned ||| HostMask.bit host
        current := Allocator.advance config.retirement
          (config.retirement.cleaned ||| HostMask.bit host) cluster.hostCount .reclaimable } := by
    refine .of_advance (fun phase active other given => ?_) rfl (by rw [cleaning]; rfl)
    rcases active with rfl | rfl | rfl
    · exact .inl given
    · exact .inl given
    · exact ((contains_acknowledged _ host other).mp given).imp_right fun same =>
        ⟨cleaning.symm, same⟩
  have advanced := RetirementTrace.advance_cases config.retirement
    (config.retirement.cleaned ||| HostMask.bit host) cluster.hostCount .reclaimable
  have behind : config.retirement.current.phase ≠ .closing := by
    rw [cleaning]
    decide
  refine invariant.confirm (.inr (.inr cleaning)) keeps confirms (fun _ => rfl) rfl
    (progressing.confirm keeps confirms cursors progressing.closed (fun other given => ?_)
      (fun _ => progressing.allClosed behind)
      (fun _ => progressing.allDrained (.inl cleaning)) fun ended other => ?_)
  · refine ⟨?_, (progressing.drained other given).2⟩
    rcases advanced with stays | ⟨-, advances⟩
    · rwa [stays]
    · simp [advances]
  · rcases advanced with stays | ⟨all, -⟩
    · simp [stays, cleaning] at ended
    · exact HostMask.contains_of_eq_all cluster.hostCount_le all other.isLt

theorem Invariant.moved (invariant : Invariant limits config) {point : PollerPoint cluster}
    (standing : Standing config.state config.retirement host point) :
    Invariant limits (config.setPoller host point) :=
  invariant.confined (.refl (invariant.sound.filed host)) rfl rfl rfl rfl rfl
    (standing_setPoller standing)

theorem Invariant.acknowledge (invariant : Invariant limits config)
    (owes : Owes config.retirement host transaction)
    (sampled : Sampled config.state host transaction cursors cluster.hostCount) :
    Invariant limits
      ((config.acknowledgeRetirement transaction host cursors).2.setPoller host .scanning) := by
  have participants := (invariant.progressing owes.busy).participants
  obtain rfl := owes.current
  have refused : Invariant limits (config.setPoller host .scanning) := invariant.moved trivial
  simp only [acknowledgeRetirement, participants]
  split
  · exact refused
  · rcases owes.active with closing | draining | cleaning
    · simp only [closing]
      split
      · exact refused
      · split
        · exact refused
        · rename_i quiet
          exact invariant.acknowledgeClosing closing (not_not.mp quiet) sampled
    · simp only [draining]
      split
      · exact refused
      · rename_i reached
        push Not at reached
        exact invariant.acknowledgeDraining draining reached sampled
    · simp only [cleaning]
      exact invariant.acknowledgeCleaning cleaning cursors

/-! ## Steps of a poller -/

theorem Sampled.read {bound : Nat} (inside : bound < cluster.hostCount)
    (sampled : Sampled config.state host transaction cursors bound) :
    Sampled config.state host transaction
      (if (⟨bound, inside⟩ : cluster.Host) = host then cursors
      else Function.update cursors (hostId ⟨bound, inside⟩)
        (config.sample transaction.phase host ⟨bound, inside⟩))
      (bound + 1) := by
  generalize named : (⟨bound, inside⟩ : cluster.Host) = other
  obtain rfl : other.val = bound := by rw [← named]
  by_cases self : other = host
  · rw [if_pos self]
    refine ⟨sampled.rid, fun closing producer apart below => ?_, sampled.reached⟩
    have different : producer.val ≠ other.val := fun same => apart ((Fin.ext same).trans self)
    exact sampled.marked closing producer apart (by omega)
  · rw [if_neg self]
    refine ⟨sampled.rid, fun closing producer apart below => ?_, fun draining producer apart => ?_⟩
    · by_cases same : producer = other
      · subst same
        rw [Function.update_self, sample, if_pos closing]
        exact Channel.marked_publishedSequence _ _
      · have different : producer.val ≠ other.val := fun equal => same (Fin.ext equal)
        rw [Function.update_of_ne fun equal => same (hostId_injective equal)]
        exact sampled.marked closing producer apart (by omega)
    · by_cases same : producer = other
      · subst same
        rw [Function.update_self, sample, if_neg (by rw [draining]; decide)]
      · rw [Function.update_of_ne fun equal => same (hostId_injective equal)]
        exact sampled.reached draining producer apart

theorem runCache_retirement {label : ReplicaCache.Label}
    (step : config.runCache limits host label = some after) :
    after.retirement = config.retirement := by
  simp only [Reclamation.runCache] at step
  split at step
  · obtain ⟨cache, -, rfl⟩ := Option.map_eq_some_iff.mp step
    rfl
  · cases step

/-- A poller observes the transaction, closes the object or drops what it has of it, reads its
cursors, and acknowledges the phase. -/
theorem Invariant.poll (invariant : Invariant limits config) {order : List Nat}
    (step : config.poll limits host order = some after) : Invariant limits after := by
  have standing := invariant.standing host
  simp only [Reclamation.poll] at step
  split at step
  case h_1 => cases step
  case h_2 point =>
    obtain rfl := Option.some.inj step
    refine invariant.confined (.progressOutbound (invariant.sound.filed host)) rfl rfl rfl rfl rfl
      (@standing_setPoller cluster
        (config.withState (config.state.progressOutbound host).2) host _ ?_)
    split
    · trivial
    · trivial
  case h_3 point =>
    obtain rfl := Option.some.inj step
    refine invariant.moved ?_
    split
    · trivial
    · rename_i active
      refine ⟨Nat.le_refl _, fun _ => rfl, ?_⟩
      cases phase : config.retirement.current.phase <;> simp [phase, Active] at active ⊢
  case h_4 transaction point =>
    obtain rfl := Option.some.inj step
    rw [point] at standing
    refine invariant.moved ?_
    split
    · trivial
    · rename_i missing
      simp only [retirementAcknowledged, decide_eq_true_eq, not_or, not_not] at missing
      obtain ⟨sequence, phase, ungiven⟩ := missing
      have same := standing.same sequence.symm
      rw [← phase] at same
      exact ⟨same, standing.active, Bool.eq_false_of_not_eq_true ungiven⟩
  case h_5 transaction point =>
    rw [point] at standing
    have owes : Owes config.retirement host transaction := standing
    rcases owes.active with closing | draining | cleaning
    · simp only [closing] at step
      split at step
      · obtain rfl := Option.some.inj step
        refine invariant.confined
          (.closeObject (invariant.sound.filed host) transaction.object order)
          rfl rfl rfl rfl rfl (@standing_setPoller cluster
            (config.withState (config.state.closeObject host transaction.object order).2) host _ ?_)
        split
        · rename_i closed
          have retiring := (invariant.progressing owes.busy).retiring
          rw [← owes.current] at retiring
          have rid := TokenState.closeObject_rid (invariant.sound.filed host)
            (by rw [retiring]; decide) (fun index outside => invariant.sound.beyond host _ outside)
            closed
          refine ⟨owes, fun _ => rid, fun _ other _ below => ?_, fun draining => ?_⟩
          · exact (Nat.not_lt_zero _ below).elim
          · rw [closing] at draining
            cases draining
        · trivial
      · cases step
    · simp only [draining] at step
      obtain rfl := Option.some.inj step
      refine invariant.moved ⟨owes, fun closing => ?_, fun closing => ?_, fun _ other _ => ?_⟩
      · rw [draining] at closing
        cases closing
      · rw [draining] at closing
        cases closing
      · exact Nat.zero_le _
    · simp only [cleaning] at step
      split at step
      · obtain rfl := Option.some.inj step
        exact invariant.confined
          (.forgetAllocation (invariant.sound.filed host) transaction.object) rfl rfl rfl rfl rfl
          (@standing_setPoller cluster
            (config.withState (config.state.forgetAllocation host transaction.object)) host
            (.forgotten transaction) ⟨owes, cleaning⟩)
      · obtain rfl := Option.some.inj step
        exact invariant.moved trivial
  case h_6 transaction cursors bound point =>
    rw [point] at standing
    obtain ⟨owes, sampled⟩ := standing
    split at step
    · rename_i inside
      obtain rfl := Option.some.inj step
      exact invariant.moved ⟨owes, sampled.read inside⟩
    · rename_i outside
      obtain rfl := Option.some.inj step
      refine invariant.moved ⟨owes, sampled.rid, fun closing other apart _ => ?_, sampled.reached⟩
      exact sampled.marked closing other apart (other.isLt.trans_le (Nat.not_lt.mp outside))
  case h_7 transaction point =>
    rw [point] at standing
    obtain ⟨owes, cleaning⟩ := standing
    obtain ⟨cleaned, performed, rfl⟩ := Option.map_eq_some_iff.mp step
    have owed : Owes cleaned.retirement host transaction := by
      rwa [runCache_retirement performed]
    refine (invariant.runCache performed).moved ⟨owed, fun closing => ?_, fun closing => ?_,
      fun draining => ?_⟩
    · rw [cleaning] at closing
      cases closing
    · rw [cleaning] at closing
      cases closing
    · rw [cleaning] at draining
      cases draining
  case h_8 transaction cursors point =>
    rw [point] at standing
    obtain rfl := Option.some.inj step
    exact invariant.acknowledge standing.1 standing.2

end Cxloom.LoomMem.Reclamation
