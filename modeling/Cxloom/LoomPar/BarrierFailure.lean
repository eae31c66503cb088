import Cxloom.LoomPar.BarrierSafety

/-!
# Barrier failure is agreed

A host that breaks an entry tells every other host once; a host that is told does not pass the
failure on.  From the first break on, every host is therefore broken or has a failure message under
way, whichever branch broke the entry and whatever else is in flight.
-/

namespace Cxloom.LoomPar

def BarrierMessage.Fails {cluster : Cluster} (message : BarrierMessage cluster)
    (host : cluster.Host) (id : Nat) : Prop :=
  message.failed = true ∧ message.id = id ∧ message.target = host

namespace BarrierWorld

variable {cluster : Cluster}

/-- Failure messages come from managers only. -/
def FailsByBreaking (_ : BarrierWorld cluster) : BarrierOp cluster → Prop
  | .inject message => message.failed = false
  | _ => True

instance decidableFailsByBreaking (world : BarrierWorld cluster) :
    ∀ op : BarrierOp cluster, Decidable (world.FailsByBreaking op)
  | .wait .. | .awake .. | .deliver .. | .duplicate .. | .breakBarrier .. => .isTrue trivial
  | .inject message => inferInstanceAs (Decidable (message.failed = false))

/-- The identifier that an action is about. -/
def subject (world : BarrierWorld cluster) : BarrierOp cluster → Option Nat
  | .wait _ id _ | .breakBarrier _ id => some id
  | .awake position => (world.calls[position]?).map fun call => call.id
  | .deliver position | .duplicate position =>
      (world.network[position]?).map fun message => message.id
  | .inject message => some message.id

/-- Two states that do not differ in an identifier's entries, messages and calls. -/
structure SameFor (id : Nat) (world after : BarrierWorld cluster) : Prop where
  entries : ∀ host, after.entries host id = world.entries host id
  network : after.network.filter (fun message => message.id = id) =
    world.network.filter fun message => message.id = id
  /-- Calls that were made and their results. -/
  calls : ∀ position call, world.calls[position]? = some call → call.id = id →
    after.calls[position]? = some call ∧ after.results position = world.results position

/-- An entry that is broken and fails every call, new or waiting. -/
structure Fails (world : BarrierWorld cluster) (host : cluster.Host) (id : Nat) : Prop where
  broken : (world.entries host id).broken = true
  /-- New calls fail. -/
  wait : ∀ participants status after,
    world.step (.wait host id participants) = some (status, after) → status.isOk = false
  /-- Waiting calls fail. -/
  awake : ∀ position call status after, world.calls[position]? = some call → call.host = host →
    call.id = id → world.step (.awake position) = some (status, after) → status.isOk = false

/-! ## Changes of one entry -/

/-- What a change of one entry can do about failure: nothing, or break the entry and tell every
other host. -/
inductive FailureChange (host : cluster.Host) (id : Nat) (entry : BarrierEntry)
    (change : BarrierEntry × List (BarrierMessage cluster)) : Prop
  | quiet (kept : change.1.broken = entry.broken)
      (silent : ∀ message ∈ change.2, message.failed = false)
  | breaks (broken : change.1.broken = true)
      (told : ∀ other, other ≠ host → ∃ message ∈ change.2, message.Fails other id)
      (releases : ∀ message ∈ change.2, message.kind = .release)

section Changes

variable {host : cluster.Host} {id : Nat} {entry : BarrierEntry}

theorem breakLocked_failure : FailureChange host id entry (entry.breakLocked host id) := by
  simp only [BarrierEntry.breakLocked]
  split
  · exact .quiet rfl (by simp)
  · refine .breaks rfl (fun other different => ?_) (fun message member => ?_)
    · refine ⟨⟨.release, host, other, id, entry.generation, true⟩, ?_, rfl, rfl, rfl⟩
      refine List.mem_map.mpr ⟨other, ?_, rfl⟩
      simpa using different
    · obtain ⟨target, -, rfl⟩ := List.mem_map.mp member
      rfl

theorem arriveLocked_failure {source : cluster.Host} :
    FailureChange host id entry (entry.arriveLocked host id source) := by
  simp only [BarrierEntry.arriveLocked]
  split
  · exact .quiet rfl (by simp)
  · refine .quiet rfl (fun message member => ?_)
    obtain ⟨target, -, rfl⟩ := List.mem_map.mp member
    rfl

theorem FailureChange.of_broken {before : BarrierEntry}
    {change : BarrierEntry × List (BarrierMessage cluster)}
    (failure : FailureChange host id before change) (same : before.broken = entry.broken) :
    FailureChange host id entry change := by
  cases failure with
  | quiet kept silent => exact .quiet (kept.trans same) silent
  | breaks broken told releases => exact .breaks broken told releases

theorem wait_failure {participants : Nat} :
    FailureChange host id entry (entry.wait host id participants).2 := by
  have outcome := entry.wait_outcome host id participants
  generalize entry.wait host id participants = result at outcome ⊢
  cases outcome with
  | refused => exact .quiet rfl (by simp)
  | mismatch => exact breakLocked_failure
  | overfull => exact breakLocked_failure.of_broken rfl
  | arrived => exact .quiet rfl (by simp)
  | coordinated => exact arriveLocked_failure.of_broken rfl
  | reported => exact .quiet rfl (by simp)

theorem handle_failure {message : BarrierMessage cluster} (sent : message.failed = false) :
    FailureChange message.target message.id entry (entry.handle message).2 := by
  simp only [BarrierEntry.handle, sent, Bool.false_eq_true, if_false]
  split
  · exact .quiet rfl (by simp)
  · split
    · exact breakLocked_failure
    · split
      · exact arriveLocked_failure
      · split
        · exact .quiet rfl (by simp)
        · exact breakLocked_failure

theorem wait_broken (host : cluster.Host) (id participants : Nat) (broken : entry.broken = true) :
    ∃ status, entry.wait host id participants = (.error status, entry, []) ∧
      status.isOk = false := by
  simp only [BarrierEntry.wait, broken]
  split
  · exact ⟨_, rfl, rfl⟩
  · exact ⟨_, rfl, rfl⟩

end Changes

/-! ## The invariant -/

/-- A host that has failed on an identifier or is about to. -/
def Doomed (world : BarrierWorld cluster) (host : cluster.Host) (id : Nat) : Prop :=
  (world.entries host id).broken = true ∨ ∃ message ∈ world.network, message.Fails host id

/-- Failure is agreed except for messages under way. -/
structure FailureInv (world : BarrierWorld cluster) : Prop where
  releases : ∀ message ∈ world.network, message.failed = true → message.kind = .release
  doomed : ∀ id host other, world.Doomed host id → world.Doomed other id

namespace FailureInv

variable {world : BarrierWorld cluster}

/-- A change of one entry keeps the invariant. -/
theorem update (inv : FailureInv world) {host : cluster.Host} {id : Nat}
    {change : BarrierEntry × List (BarrierMessage cluster)}
    (sent : ∀ message ∈ change.2, message.id = id)
    (failure : FailureChange host id (world.entries host id) change) :
    FailureInv (world.update host id change) := by
  cases failure with
  | quiet kept silent =>
      have same : ∀ other otherId,
          (world.update host id change).Doomed other otherId ↔ world.Doomed other otherId := by
        intro other otherId
        have entry : ((world.update host id change).entries other otherId).broken =
            (world.entries other otherId).broken := by
          rw [entries_update]
          split
          · rename_i here
            obtain ⟨rfl, rfl⟩ := here
            exact kept
          · rfl
        simp only [Doomed, entry]
        refine or_congr_right ⟨?_, ?_⟩
        · rintro ⟨message, member, fails⟩
          rcases List.mem_append.mp member with earlier | new
          · exact ⟨message, earlier, fails⟩
          · have failed := fails.1
            rw [silent message new] at failed
            cases failed
        · rintro ⟨message, member, fails⟩
          exact ⟨message, List.mem_append_left _ member, fails⟩
      constructor
      case releases =>
        intro message member failed
        rcases List.mem_append.mp member with earlier | new
        · exact inv.releases message earlier failed
        · rw [silent message new] at failed
          cases failed
      case doomed =>
        intro otherId first second doomed
        rw [same] at doomed ⊢
        exact inv.doomed otherId first second doomed
  | breaks broken told releases =>
      constructor
      case releases =>
        intro message member failed
        rcases List.mem_append.mp member with earlier | new
        · exact inv.releases message earlier failed
        · exact releases message new
      case doomed =>
        intro otherId first second doomed
        by_cases here : otherId = id
        · subst here
          by_cases self : second = host
          · subst self
            left
            rw [entries_update, if_pos ⟨rfl, rfl⟩]
            exact broken
          · obtain ⟨message, member, fails⟩ := told second self
            exact .inr ⟨message, List.mem_append_right _ member, fails⟩
        · have entries : ∀ other, (world.update host id change).entries other otherId =
              world.entries other otherId := by
            intro other
            rw [entries_update, if_neg (fun same => here same.2)]
          have before : world.Doomed first otherId := by
            rcases doomed with failed | ⟨message, member, fails⟩
            · rw [entries] at failed
              exact .inl failed
            · rcases List.mem_append.mp member with earlier | new
              · exact .inr ⟨message, earlier, fails⟩
              · exact absurd (fails.2.1.symm.trans (sent message new)) here
          rcases inv.doomed otherId first second before with failed | ⟨message, member, fails⟩
          · left
            rw [entries]
            exact failed
          · exact .inr ⟨message, List.mem_append_left _ member, fails⟩

/-- Messages that are not failures come and go. -/
theorem withNetwork (inv : FailureInv world) {network : List (BarrierMessage cluster)}
    (same : ∀ message, message.failed = true → (message ∈ network ↔ message ∈ world.network)) :
    FailureInv { world with network := network } := by
  have doomed : ∀ host id,
      ({ world with network := network } : BarrierWorld cluster).Doomed host id ↔
        world.Doomed host id := by
    intro host id
    refine or_congr_right ⟨?_, ?_⟩
    · rintro ⟨message, member, fails⟩
      exact ⟨message, (same message fails.1).mp member, fails⟩
    · rintro ⟨message, member, fails⟩
      exact ⟨message, (same message fails.1).mpr member, fails⟩
  constructor
  case releases =>
    intro message member failed
    exact inv.releases message ((same message failed).mp member) failed
  case doomed =>
    intro id host other
    rw [doomed, doomed]
    exact inv.doomed id host other

theorem mem_eraseIdx_of_ne {network : List (BarrierMessage cluster)} {position : Nat}
    {message other : BarrierMessage cluster} (present : network[position]? = some message)
    (different : other ≠ message) : other ∈ network.eraseIdx position ↔ other ∈ network := by
  refine ⟨List.mem_of_mem_eraseIdx, fun member => ?_⟩
  rw [List.mem_eraseIdx_iff_getElem?]
  obtain ⟨index, found⟩ := List.mem_iff_getElem?.mp member
  refine ⟨index, ?_, found⟩
  rintro rfl
  rw [present, Option.some_inj] at found
  exact different found.symm

/-- The delivery of a failure. -/
theorem told (inv : FailureInv world) {position : Nat} {message : BarrierMessage cluster}
    (present : world.network[position]? = some message) (failed : message.failed = true) :
    FailureInv ({ world with network := world.network.eraseIdx position }.update message.target
      message.id ({ world.entries message.target message.id with broken := true }, [])) := by
  have member := List.mem_of_getElem? present
  have target : world.Doomed message.target message.id :=
    .inr ⟨message, member, failed, rfl, rfl⟩
  have network : ({ world with network := world.network.eraseIdx position }.update message.target
      message.id ({ world.entries message.target message.id with broken := true }, [])).network =
        world.network.eraseIdx position := List.append_nil _
  have same : ∀ host id, ({ world with network := world.network.eraseIdx position }.update
      message.target message.id
        ({ world.entries message.target message.id with broken := true }, [])).Doomed host id ↔
          world.Doomed host id := by
    intro host id
    simp only [Doomed, network, entries_update]
    split
    · rename_i here
      obtain ⟨rfl, rfl⟩ := here
      exact iff_of_true (.inl rfl) target
    · rename_i elsewhere
      refine or_congr_right (exists_congr fun other => ?_)
      constructor
      · rintro ⟨kept, fails⟩
        exact ⟨List.mem_of_mem_eraseIdx kept, fails⟩
      · rintro ⟨there, fails⟩
        refine ⟨(mem_eraseIdx_of_ne present ?_).mpr there, fails⟩
        rintro rfl
        exact elsewhere ⟨fails.2.2.symm, fails.2.1.symm⟩
  constructor
  case releases =>
    rw [network]
    exact fun other kept => inv.releases other (List.mem_of_mem_eraseIdx kept)
  case doomed =>
    intro id host other
    rw [same, same]
    exact inv.doomed id host other

/-- Every action keeps the invariant. -/
theorem step (inv : FailureInv world) {op : BarrierOp cluster} {status : Status}
    {after : BarrierWorld cluster} (genuine : world.FailsByBreaking op)
    (taken : world.step op = some (status, after)) : FailureInv after := by
  cases op with
  | wait host id participants =>
      have updated : FailureInv (world.update host id
          ((world.entries host id).wait host id participants).2) :=
        inv.update BarrierEntry.wait_id wait_failure
      simp only [BarrierWorld.step] at taken
      split at taken
      · cases taken
        exact updated
      · cases taken
        exact ⟨updated.releases, updated.doomed⟩
  | awake position =>
      simp only [BarrierWorld.step] at taken
      split at taken
      · obtain ⟨result, -, same⟩ := Option.map_eq_some_iff.mp taken
        cases same
        exact ⟨inv.releases, inv.doomed⟩
      · simp at taken
  | deliver position =>
      obtain ⟨message, present, same⟩ := Option.map_eq_some_iff.mp taken
      cases same
      cases failed : message.failed with
      | true =>
          have kind := inv.releases message (List.mem_of_getElem? present) failed
          have handled : ((world.entries message.target message.id).handle message).2 =
              ({ world.entries message.target message.id with broken := true }, []) := by
            simp [BarrierEntry.handle, failed, kind]
          rw [handled]
          exact inv.told present failed
      | false =>
          have erased : FailureInv { world with network := world.network.eraseIdx position } := by
            refine inv.withNetwork fun other fails => mem_eraseIdx_of_ne present ?_
            rintro rfl
            rw [failed] at fails
            cases fails
          exact erased.update BarrierEntry.handle_id (handle_failure failed)
  | duplicate position =>
      obtain ⟨message, present, same⟩ := Option.map_eq_some_iff.mp taken
      cases same
      refine inv.withNetwork fun other _ => ?_
      simp only [List.mem_append, List.mem_singleton, or_iff_left_iff_imp]
      rintro rfl
      exact List.mem_of_getElem? present
  | inject message =>
      cases taken
      refine inv.withNetwork fun other failed => ?_
      simp only [List.mem_append, List.mem_singleton, or_iff_left_iff_imp]
      rintro rfl
      rw [genuine] at failed
      cases failed
  | breakBarrier host id =>
      cases taken
      exact inv.update BarrierEntry.breakLocked_id breakLocked_failure

end FailureInv

theorem reached_failure {world : BarrierWorld cluster}
    (execution : Run.ReachesBy next FailsByBreaking (initial cluster) world) :
    FailureInv world := by
  apply execution.preserves
  · constructor <;> simp [initial, Doomed, BarrierEntry.fresh]
  · intro before op after inv genuine performed
    obtain ⟨⟨status, reached⟩, taken, same⟩ := Option.map_eq_some_iff.mp performed
    obtain rfl : reached = after := same
    exact inv.step genuine taken

/-! ## Broken entries -/

section Broken

variable {world after : BarrierWorld cluster} {host : cluster.Host} {id : Nat}

theorem FailureChange.broken {entry : BarrierEntry}
    {change : BarrierEntry × List (BarrierMessage cluster)}
    (failure : FailureChange host id entry change) (broken : entry.broken = true) :
    change.1.broken = true := by
  cases failure with
  | quiet kept _ => exact kept.trans broken
  | breaks broken _ _ => exact broken

theorem update_broken {other : cluster.Host} {otherId : Nat}
    {change : BarrierEntry × List (BarrierMessage cluster)}
    (kept : (world.entries other otherId).broken = true → change.1.broken = true)
    (broken : (world.entries host id).broken = true) :
    ((world.update other otherId change).entries host id).broken = true := by
  rw [entries_update]
  split
  · rename_i here
    obtain ⟨rfl, rfl⟩ := here
    exact kept broken
  · exact broken

theorem handle_broken {entry : BarrierEntry} {message : BarrierMessage cluster}
    (broken : entry.broken = true) : (entry.handle message).2.1.broken = true := by
  cases failed : message.failed with
  | true =>
      simp only [BarrierEntry.handle, failed, if_true]
      split
      · exact broken
      · rfl
  | false => exact (handle_failure failed).broken broken

theorem step_broken {op : BarrierOp cluster} {status : Status}
    (taken : world.step op = some (status, after))
    (broken : (world.entries host id).broken = true) : (after.entries host id).broken = true := by
  cases op with
  | wait other otherId participants =>
      have kept : ((world.update other otherId
          ((world.entries other otherId).wait other otherId participants).2).entries host
            id).broken = true :=
        update_broken wait_failure.broken broken
      simp only [step] at taken
      split at taken
      · cases taken
        exact kept
      · cases taken
        exact kept
  | awake position =>
      simp only [step] at taken
      split at taken
      · obtain ⟨result, -, same⟩ := Option.map_eq_some_iff.mp taken
        cases same
        exact broken
      · simp at taken
  | deliver position =>
      obtain ⟨message, present, same⟩ := Option.map_eq_some_iff.mp taken
      cases same
      exact update_broken handle_broken broken
  | duplicate position =>
      obtain ⟨message, present, same⟩ := Option.map_eq_some_iff.mp taken
      cases same
      exact broken
  | inject message =>
      cases taken
      exact broken
  | breakBarrier other otherId =>
      cases taken
      exact update_broken breakLocked_failure.broken broken

theorem fails_of_broken (broken : (world.entries host id).broken = true) : world.Fails host id := by
  constructor
  case broken => exact broken
  case wait =>
    intro participants status after taken
    obtain ⟨refusal, refused, failed⟩ := wait_broken host id participants broken
    simp only [step, refused] at taken
    cases taken
    exact failed
  case awake =>
    rintro position call status after present rfl rfl taken
    simp only [step, present] at taken
    split at taken
    · rename_i found _ same _
      obtain rfl := Option.some.inj same
      obtain ⟨result, woken, same⟩ := Option.map_eq_some_iff.mp taken
      cases same
      simp only [BarrierEntry.awake, broken, if_true, Option.some_inj] at woken
      rw [← woken]
      rfl
    · simp at taken

theorem reached_broken {admitted : BarrierWorld cluster → BarrierOp cluster → Prop}
    (execution : Run.ReachesBy next admitted world after)
    (broken : (world.entries host id).broken = true) : (after.entries host id).broken = true := by
  apply execution.preserves (fun state => (state.entries host id).broken = true) broken
  intro before op later kept _ performed
  obtain ⟨⟨status, reached⟩, taken, same⟩ := Option.map_eq_some_iff.mp performed
  obtain rfl : reached = later := same
  exact step_broken taken kept

end Broken

/-! ## Other identifiers -/

section Others

variable {world after : BarrierWorld cluster} {host : cluster.Host} {id other : Nat}

theorem filter_sent {sent : List (BarrierMessage cluster)}
    (same : ∀ message ∈ sent, message.id = id) (different : other ≠ id) :
    sent.filter (fun message => message.id = other) = [] := by
  simp only [List.filter_eq_nil_iff, decide_eq_true_eq]
  intro message member sameOther
  exact different (sameOther.symm.trans (same message member))

theorem filter_eraseIdx {position : Nat} {message : BarrierMessage cluster}
    {network : List (BarrierMessage cluster)} (present : network[position]? = some message)
    (different : message.id ≠ other) :
    (network.eraseIdx position).filter (fun message => message.id = other) =
      network.filter fun message => message.id = other := by
  obtain ⟨below, rfl⟩ := List.getElem?_eq_some_iff.mp present
  conv_rhs => rw [← List.take_append_drop position network, List.drop_eq_getElem_cons below]
  rw [List.eraseIdx_eq_take_drop_succ, List.filter_append, List.filter_append,
    List.filter_cons_of_neg (by simpa using different)]

theorem SameFor.update (different : other ≠ id)
    {change : BarrierEntry × List (BarrierMessage cluster)}
    (sent : ∀ message ∈ change.2, message.id = id) :
    SameFor other world (world.update host id change) := by
  constructor
  case entries =>
    intro host'
    rw [entries_update, if_neg (fun same => different same.2)]
  case network =>
    simp only [BarrierWorld.update]
    rw [List.filter_append, filter_sent sent different, List.append_nil]
  case calls => exact fun _ _ present _ => ⟨present, rfl⟩

/-- An action on an identifier leaves the others alone. -/
theorem step_sameFor {op : BarrierOp cluster} {status : Status}
    (taken : world.step op = some (status, after)) (about : world.subject op = some id)
    (different : other ≠ id) : SameFor other world after := by
  cases op with
  | wait host otherId participants =>
      obtain rfl := Option.some.inj about
      have updated : SameFor other world (world.update host otherId
          ((world.entries host otherId).wait host otherId participants).2) :=
        .update different BarrierEntry.wait_id
      simp only [step] at taken
      split at taken
      · cases taken
        exact updated
      · cases taken
        refine ⟨updated.entries, updated.network, fun position call present _ => ⟨?_, rfl⟩⟩
        have below := (List.getElem?_eq_some_iff.mp present).1
        rw [List.getElem?_append_left below]
        exact present
  | awake position =>
      simp only [step] at taken
      split at taken
      · rename_i call present waits
        obtain ⟨result, -, same⟩ := Option.map_eq_some_iff.mp taken
        cases same
        simp only [subject, present, Option.map_some, Option.some_inj] at about
        refine ⟨fun _ => rfl, rfl, fun position' call' present' sameId => ⟨present', ?_⟩⟩
        refine Function.update_of_ne ?_ _ _
        rintro rfl
        rw [present, Option.some_inj] at present'
        subst present'
        exact different (sameId.symm.trans about)
      · simp at taken
  | deliver position =>
      obtain ⟨message, present, same⟩ := Option.map_eq_some_iff.mp taken
      cases same
      simp only [subject, present, Option.map_some, Option.some_inj] at about
      subst about
      have updated : SameFor other { world with network := world.network.eraseIdx position }
          ({ world with network := world.network.eraseIdx position }.update message.target
            message.id ((world.entries message.target message.id).handle message).2) :=
        .update different BarrierEntry.handle_id
      exact ⟨updated.entries, updated.network.trans (filter_eraseIdx present different.symm),
        updated.calls⟩
  | duplicate position =>
      obtain ⟨message, present, same⟩ := Option.map_eq_some_iff.mp taken
      cases same
      simp only [subject, present, Option.map_some, Option.some_inj] at about
      refine ⟨fun _ => rfl, ?_, fun _ _ present _ => ⟨present, rfl⟩⟩
      simp only [List.filter_append]
      have none : [message].filter (fun message => message.id = other) = [] :=
        filter_sent (by simpa using about) different
      rw [none, List.append_nil]
  | inject message =>
      cases taken
      obtain rfl := Option.some.inj about
      refine ⟨fun _ => rfl, ?_, fun _ _ present _ => ⟨present, rfl⟩⟩
      simp only [List.filter_append]
      have none : [message].filter (fun sent => sent.id = other) = [] :=
        filter_sent (by simp) different
      rw [none, List.append_nil]
  | breakBarrier host otherId =>
      cases taken
      obtain rfl := Option.some.inj about
      exact .update different BarrierEntry.breakLocked_id

/-- Replace one entry. -/
def withEntry (world : BarrierWorld cluster) (host : cluster.Host) (id : Nat)
    (entry : BarrierEntry) : BarrierWorld cluster :=
  { world with
    entries := Function.update world.entries host (Function.update (world.entries host) id entry) }

theorem entries_withEntry_apply (world : BarrierWorld cluster) (host host' : cluster.Host)
    (id id' : Nat) (entry : BarrierEntry) : (world.withEntry host id entry).entries host' id' =
      if host' = host ∧ id' = id then entry else world.entries host' id' :=
  entries_update world host host' id id' (entry, [])

theorem entries_withEntry (world : BarrierWorld cluster) (host host' : cluster.Host)
    (entry : BarrierEntry) (different : other ≠ id) :
    (world.withEntry host id entry).entries host' other = world.entries host' other := by
  rw [entries_withEntry_apply, if_neg (fun same => different same.2)]

theorem withEntry_update (world : BarrierWorld cluster) (host host' : cluster.Host)
    (entry : BarrierEntry) (different : other ≠ id)
    (change : BarrierEntry × List (BarrierMessage cluster)) :
    (world.withEntry host id entry).update host' other change =
      (world.update host' other change).withEntry host id entry := by
  have entries : ((world.withEntry host id entry).update host' other change).entries =
      ((world.update host' other change).withEntry host id entry).entries := by
    funext host'' id''
    rw [entries_update, entries_withEntry_apply, entries_withEntry_apply, entries_update]
    by_cases first : host'' = host' ∧ id'' = other
    · rw [if_pos first, if_pos first, if_neg (fun same => different (first.2.symm.trans same.2))]
    · rw [if_neg first, if_neg first]
  simp only [withEntry, BarrierWorld.update, BarrierWorld.mk.injEq, and_self, and_true] at entries ⊢
  exact entries

/-- An action does not see the entries of other identifiers. -/
theorem step_withEntry (world : BarrierWorld cluster) {op : BarrierOp cluster}
    (about : world.subject op ≠ some id) (host : cluster.Host) (entry : BarrierEntry) :
    (world.withEntry host id entry).step op =
      (world.step op).map fun result => (result.1, result.2.withEntry host id entry) := by
  cases op with
  | wait host' other participants =>
      have different : other ≠ id := fun same => about (congrArg some same)
      simp only [step, entries_withEntry _ _ _ _ different, withEntry_update _ _ _ _ different]
      split <;> rfl
  | awake position =>
      simp only [subject] at about
      simp only [step]
      have calls : (world.withEntry host id entry).calls = world.calls := rfl
      have results : (world.withEntry host id entry).results = world.results := rfl
      rw [calls, results]
      split
      · rename_i call present waits
        rw [present] at about
        have different : call.id ≠ id := fun same => about (congrArg some same)
        rw [entries_withEntry _ _ _ _ different, Option.map_map]
        rfl
      · rfl
  | deliver position =>
      simp only [subject] at about
      simp only [step]
      have network : (world.withEntry host id entry).network = world.network := rfl
      rw [network]
      cases present : world.network[position]? with
      | none => rfl
      | some message =>
          rw [present] at about
          have different : message.id ≠ id := fun same => about (congrArg some same)
          simp only [Option.map_some, entries_withEntry _ _ _ _ different]
          have moved := withEntry_update { world with network := world.network.eraseIdx position }
            host message.target entry different
            ((world.entries message.target message.id).handle message).2
          rw [← moved]
          rfl
  | duplicate position =>
      simp only [step, Option.map_map]
      rfl
  | inject message => rfl
  | breakBarrier host' other =>
      have different : other ≠ id := fun same => about (congrArg some same)
      simp only [step, entries_withEntry _ _ _ _ different, withEntry_update _ _ _ _ different]
      rfl

end Others

/-- Without a message of an identifier in flight, all hosts have broken it or none has.  A broken
entry stays broken and fails every call, actions on its identifier change nothing of the others, and
actions on the others neither see nor change it. -/
theorem failure_agreed {world : BarrierWorld cluster}
    (execution : Run.ReachesBy next FailsByBreaking (initial cluster) world) (id : Nat) :
    ((∀ message ∈ world.network, message.id ≠ id) →
      (∀ host, (world.entries host id).broken = true) ∨
        ∀ host, (world.entries host id).broken = false) ∧
    (∀ host, (world.entries host id).broken = true →
      ∀ after, Run.ReachesBy next FailsByBreaking world after → after.Fails host id) ∧
    (∀ op status after, world.step op = some (status, after) → world.subject op = some id →
      ∀ other, other ≠ id → SameFor other world after) ∧
    ∀ op, world.subject op ≠ some id → ∀ host entry,
      (world.withEntry host id entry).step op =
        (world.step op).map fun result => (result.1, result.2.withEntry host id entry) := by
  have inv := reached_failure execution
  refine ⟨fun quiet => ?_, ?_, ?_, ?_⟩
  · by_cases someone : ∃ host, (world.entries host id).broken = true
    · left
      obtain ⟨host, broken⟩ := someone
      intro other
      rcases inv.doomed id host other (.inl broken) with failed | ⟨message, member, fails⟩
      · exact failed
      · exact absurd fails.2.1 (quiet message member)
    · right
      intro host
      simpa using not_exists.mp someone host
  · intro host broken after continued
    exact fails_of_broken (reached_broken continued broken)
  · intro op status after taken about other different
    exact step_sameFor taken about different
  · intro op about host entry
    exact world.step_withEntry about host entry

/-- A member passes one count and then another; the coordinator arrives in between and is told. -/
def mismatchOps : List (BarrierOp twoHosts) :=
  [.wait ⟨1, Nat.one_lt_two⟩ 7 2, .wait ⟨0, Nat.two_pos⟩ 7 1, .wait ⟨1, Nat.one_lt_two⟩ 7 3,
    .deliver 0]

theorem failure_agreed_mismatch :
    ∃ world, Run.runLabels next (initial twoHosts) mismatchOps = some world ∧
      (world.entries ⟨1, by decide⟩ 7).broken = true ∧
      (∀ host, (world.entries host 7).broken = true) ∧ world.Fails ⟨0, by decide⟩ 7 := by
  have outcome : (Run.runLabels next (initial twoHosts) mismatchOps).any (fun world =>
      world.network = [] ∧ (world.entries ⟨1, by decide⟩ 7).broken = true) = true := by
    decide +kernel
  have genuine : Run.AdmitsLabels next FailsByBreaking (initial twoHosts) mismatchOps := by
    decide +kernel
  obtain ⟨world, execution, facts⟩ := (Option.any_eq_true _ _).mp outcome
  obtain ⟨empty, broken⟩ := of_decide_eq_true facts
  obtain ⟨agreed, lasting, -, -⟩ :=
    failure_agreed (Run.reachesBy_of_runLabels execution genuine) 7
  have all : ∀ host, (world.entries host 7).broken = true := by
    rcases agreed (by simp [empty]) with all | none
    · exact all
    · rw [none] at broken
      cases broken
  exact ⟨world, execution, broken, all, lasting _ (all _) world .refl⟩

end BarrierWorld
end Cxloom.LoomPar
