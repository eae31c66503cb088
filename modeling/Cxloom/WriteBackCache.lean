import Cxloom.Run
import Mathlib.Order.Basic
import Mathlib.Logic.Function.Basic

/-!
# Write-back caches without coherence

Hosts share a memory through caches that nothing keeps coherent.  A cache may fetch, write back and
evict a line at any time; a host changes its own copy of a line and can write it back or flush it.
A line that one host writes is followed here through every action: what the writer has written back
stays in memory, a host that flushes its copy reads at least that, and a line that was handed over
by flushes has another writer.
-/

namespace Cxloom.WriteBackCache

variable {Host Line Data : Type}

/-! ## One line -/

/-- A cached copy of a line. -/
structure Copy (Data : Type) where
  /-- Its contents. -/
  data : Data
  /-- Whether it was changed since it was fetched or written back. -/
  dirty : Bool
deriving DecidableEq, Repr

/-- A line in memory and in the caches. -/
structure LineState (Host Data : Type) where
  memory : Data
  copies : Host → Option (Copy Data)

/-- What happens to a line. -/
inductive Action (Host Data : Type)
  /-- A cache fetches the line. -/
  | fetch (host : Host)
  | writeBack (host : Host)
  /-- A cache drops its copy, written back if it is dirty. -/
  | evict (host : Host)
  | store (host : Host) (change : Data → Data)
  /-- A host writes its copy back. -/
  | clwb (host : Host)
  /-- A host writes its copy back and drops it. -/
  | clflush (host : Host)

/-- The host that changes the line. -/
def Action.writer? : Action Host Data → Option Host
  | .store host _ => some host
  | _ => none

namespace LineState

/-- A line that is in no cache. -/
def uncached (memory : Data) : LineState Host Data := ⟨memory, fun _ => none⟩

/-- What a host reads. -/
def view (state : LineState Host Data) (host : Host) : Data :=
  match state.copies host with
  | some copy => copy.data
  | none => state.memory

variable [DecidableEq Host] (state : LineState Host Data)

def setCopy (host : Host) (copy : Option (Copy Data)) : LineState Host Data :=
  { state with copies := Function.update state.copies host copy }

/-- The contents of a copy reach memory. -/
def deposit (host : Host) (data : Data) : LineState Host Data :=
  ⟨data, Function.update state.copies host (some ⟨data, false⟩)⟩

def writeBack (host : Host) : LineState Host Data :=
  match state.copies host with
  | some copy => if copy.dirty then state.deposit host copy.data else state
  | none => state

def fetch (host : Host) : LineState Host Data :=
  match state.copies host with
  | some _ => state
  | none => state.setCopy host (some ⟨state.memory, false⟩)

def perform : Action Host Data → LineState Host Data
  | .fetch host => state.fetch host
  | .writeBack host | .clwb host => state.writeBack host
  | .evict host | .clflush host => (state.writeBack host).setCopy host none
  | .store host change => state.setCopy host (some ⟨change (state.view host), true⟩)

end LineState

/-- Nothing that a host has written waits in its cache. -/
def Clean (state : LineState Host Data) (host : Host) : Prop :=
  ∀ copy, state.copies host = some copy → copy.dirty = false

def Current (state : LineState Host Data) (host : Host) : Prop :=
  ∀ copy, state.copies host = some copy → copy.data = state.memory

/-- Only one host has written the line since the others were told. -/
structure Written (state : LineState Host Data) (writer : Host) : Prop where
  others : ∀ host, host ≠ writer → Clean state host
  fresh : ∀ copy, state.copies writer = some copy → copy.dirty = false → copy.data = state.memory

section Views

variable {state : LineState Host Data} {host writer : Host} {copy : Copy Data}

theorem view_of_copy (found : state.copies host = some copy) : state.view host = copy.data := by
  rw [LineState.view, found]

theorem view_of_absent (absent : state.copies host = none) : state.view host = state.memory := by
  rw [LineState.view, absent]

/-- A copy is clean, or it waits to be written back. -/
theorem clean_or_dirty (state : LineState Host Data) (host : Host) :
    Clean state host ∨ ∃ copy, state.copies host = some copy ∧ copy.dirty = true := by
  cases found : state.copies host with
  | none => exact .inl fun copy there => by rw [found] at there; cases there
  | some copy =>
      cases dirty : copy.dirty with
      | true => exact .inr ⟨copy, rfl, dirty⟩
      | false =>
          refine .inl fun item there => ?_
          rw [found] at there
          rw [← Option.some.inj there, dirty]

theorem Current.view (current : Current state host) : state.view host = state.memory := by
  cases found : state.copies host with
  | none => exact view_of_absent found
  | some copy => exact (view_of_copy found).trans (current copy found)

theorem Written.current (written : Written state writer) (clean : Clean state writer) :
    Current state writer :=
  fun copy found => written.fresh copy found (clean copy found)

theorem Written.clean (written : Written state writer) (clean : Clean state writer) (host : Host) :
    Clean state host := by
  rcases Classical.em (host = writer) with rfl | other
  · exact clean
  · exact written.others host other

theorem Written.uncached (memory : Data) (writer : Host) :
    Written (LineState.uncached memory) writer :=
  ⟨fun _ _ _ found => (by cases found), fun _ found => (by cases found)⟩

/-- Memory has what the writer reads, once that is written back. -/
theorem Written.memory_eq (written : Written state writer) (clean : Clean state writer) :
    state.memory = state.view writer :=
  (written.current clean).view.symm

theorem Written.handOver (written : Written state writer) (clean : Clean state writer)
    (current : Current state host) : Written state host :=
  ⟨fun other _ => written.clean clean other, fun copy found _ => current copy found⟩

end Views

/-! ## The primitive actions -/

section Primitives

variable [DecidableEq Host] {state : LineState Host Data} {host other writer : Host}
  {copy : Copy Data}

theorem writeBack_of_clean (clean : Clean state host) : state.writeBack host = state := by
  rw [LineState.writeBack]
  split
  · rename_i copy found
    rw [clean copy found, if_neg Bool.false_ne_true]
  · rfl

theorem writeBack_of_dirty (found : state.copies host = some copy) (dirty : copy.dirty = true) :
    state.writeBack host = state.deposit host copy.data := by
  rw [LineState.writeBack, found]
  exact if_pos dirty

theorem setCopy_self (state : LineState Host Data) (host : Host) (copy : Option (Copy Data)) :
    (state.setCopy host copy).copies host = copy :=
  Function.update_self ..

theorem setCopy_of_ne (different : other ≠ host) (copy : Option (Copy Data)) :
    (state.setCopy host copy).copies other = state.copies other :=
  Function.update_of_ne different ..

theorem deposit_self (state : LineState Host Data) (host : Host) (data : Data) :
    (state.deposit host data).copies host = some ⟨data, false⟩ :=
  Function.update_self ..

theorem deposit_of_ne (different : other ≠ host) (data : Data) :
    (state.deposit host data).copies other = state.copies other :=
  Function.update_of_ne different ..

theorem view_setCopy_of_ne (different : other ≠ host) (copy : Option (Copy Data)) :
    (state.setCopy host copy).view other = state.view other := by
  rw [LineState.view, LineState.view, setCopy_of_ne different]
  rfl

theorem clean_writeBack (state : LineState Host Data) (host : Host) :
    Clean (state.writeBack host) host := by
  rcases clean_or_dirty state host with clean | ⟨copy, found, dirty⟩
  · rw [writeBack_of_clean clean]
    exact clean
  · rw [writeBack_of_dirty found dirty]
    intro item there
    rw [deposit_self] at there
    rw [← Option.some.inj there]

/-- What every primitive preserves is preserved by the actions. -/
theorem perform_preserves (invariant : LineState Host Data → Prop) (action : Action Host Data)
    (initially : invariant state)
    (fetched : ∀ host, state.copies host = none →
      invariant (state.setCopy host (some ⟨state.memory, false⟩)))
    (returned : ∀ host copy, state.copies host = some copy → copy.dirty = true →
      invariant (state.deposit host copy.data))
    (dropped : ∀ state host, invariant state → Clean state host →
      invariant (state.setCopy host none))
    (stored : ∀ host change, action = .store host change →
      invariant (state.setCopy host (some ⟨change (state.view host), true⟩))) :
    invariant (state.perform action) := by
  have written : ∀ host, invariant (state.writeBack host) := fun host => by
    rcases clean_or_dirty state host with clean | ⟨copy, found, dirty⟩
    · rw [writeBack_of_clean clean]
      exact initially
    · rw [writeBack_of_dirty found dirty]
      exact returned host copy found dirty
  cases action with
  | fetch host =>
      show invariant (state.fetch host)
      rw [LineState.fetch]
      split
      · exact initially
      · rename_i absent
        exact fetched host absent
  | writeBack host | clwb host => exact written host
  | evict host | clflush host => exact dropped _ host (written host) (clean_writeBack state host)
  | store host change => exact stored host change rfl

theorem Written.writer_of_dirty (written : Written state writer)
    (found : state.copies host = some copy) (dirty : copy.dirty = true) : host = writer := by
  by_contra other
  rw [written.others host other copy found] at dirty
  cases dirty

end Primitives

/-! ## A line with one writer -/

section Writer

variable [DecidableEq Host] {state : LineState Host Data} {host writer : Host}
  {action : Action Host Data}

theorem Written.setCopy (written : Written state writer) (host : Host) (copy : Option (Copy Data))
    (clean : host ≠ writer → ∀ item, copy = some item → item.dirty = false)
    (fresh : ∀ item, copy = some item → item.dirty = false → item.data = state.memory) :
    Written (state.setCopy host copy) writer := by
  refine ⟨fun other different item found => ?_, fun item found unchanged => ?_⟩
  · by_cases here : other = host
    · subst here
      rw [setCopy_self] at found
      exact clean different item found
    · rw [setCopy_of_ne here] at found
      exact written.others other different item found
  · by_cases here : writer = host
    · subst here
      rw [setCopy_self] at found
      exact fresh item found unchanged
    · rw [setCopy_of_ne here] at found
      exact written.fresh item found unchanged

theorem Written.deposit (written : Written state writer) (data : Data) :
    Written (state.deposit writer data) writer := by
  refine ⟨fun other different item found => ?_, fun item found _ => ?_⟩
  · rw [deposit_of_ne different] at found
    exact written.others other different item found
  · rw [deposit_self] at found
    rw [← Option.some.inj found]
    rfl

/-- The line keeps its writer while no other host stores to it. -/
theorem Written.perform (written : Written state writer)
    (only : ∀ host, action.writer? = some host → host = writer) :
    Written (state.perform action) writer := by
  refine perform_preserves (Written · writer) action written (fun host _ => ?_)
    (fun host copy found dirty => ?_) (fun state host written _ => ?_) fun host change same => ?_
  · refine written.setCopy host _ (fun _ item found => ?_) fun item found _ => ?_
    · rw [← Option.some.inj found]
    · rw [← Option.some.inj found]
  · obtain rfl := written.writer_of_dirty found dirty
    exact written.deposit copy.data
  · exact written.setCopy host none (fun _ _ found => by cases found) fun _ found => by cases found
  · obtain rfl := only host (by rw [same]; rfl)
    refine written.setCopy host _ (fun different => (different rfl).elim) fun item found clean => ?_
    rw [← Option.some.inj found] at clean
    cases clean

/-- The writer reads what it has stored until it stores again. -/
theorem Written.view_perform (written : Written state writer) (quiet : action.writer? = none) :
    (state.perform action).view writer = state.view writer := by
  refine (perform_preserves
    (fun after => Written after writer ∧ after.view writer = state.view writer) action
    ⟨written, rfl⟩ (fun host absent => ⟨?_, ?_⟩) (fun host copy found dirty => ?_)
    (fun after host before clean => ⟨?_, ?_⟩) fun host change same => ?_).2
  · refine written.setCopy host _ (fun _ item found => ?_) fun item found _ => ?_
    · rw [← Option.some.inj found]
    · rw [← Option.some.inj found]
  · by_cases here : writer = host
    · subst here
      rw [view_of_absent absent]
      exact view_of_copy (setCopy_self ..)
    · exact view_setCopy_of_ne here _
  · obtain rfl := written.writer_of_dirty found dirty
    exact ⟨written.deposit _, (view_of_copy (deposit_self ..)).trans (view_of_copy found).symm⟩
  · exact before.1.setCopy host none (fun _ _ found => by cases found) fun _ found => by cases found
  · by_cases here : writer = host
    · subst here
      rw [← before.2, (before.1.current clean).view]
      exact view_of_absent (setCopy_self ..)
    · rw [view_setCopy_of_ne here]
      exact before.2
  · rw [same] at quiet
    cases quiet

theorem view_store (state : LineState Host Data) (host : Host) (change : Data → Data) :
    (state.perform (.store host change)).view host = change (state.view host) :=
  view_of_copy (setCopy_self ..)

/-- What the writer has written back is not written back again. -/
theorem Clean.perform (clean : Clean state writer) (quiet : action.writer? = none) :
    Clean (state.perform action) writer := by
  have dropped : ∀ (state : LineState Host Data) host (copy : Option (Copy Data)),
      Clean state writer → (∀ item, copy = some item → item.dirty = false) →
      Clean (state.setCopy host copy) writer := fun state host copy clean only item found => by
    by_cases here : writer = host
    · subst here
      rw [setCopy_self] at found
      exact only item found
    · rw [setCopy_of_ne here] at found
      exact clean item found
  refine perform_preserves (Clean · writer) action clean (fun host _ => ?_)
    (fun host copy found dirty => ?_) (fun state host clean _ => ?_) fun host change same => ?_
  · exact dropped state host _ clean fun item found => by rw [← Option.some.inj found]
  · intro item there
    by_cases here : writer = host
    · subst here
      rw [deposit_self] at there
      rw [← Option.some.inj there]
    · rw [deposit_of_ne here] at there
      exact clean item there
  · exact dropped state host none clean fun _ found => by cases found
  · rw [same] at quiet
    cases quiet

theorem Current.perform (current : Current state host) (written : Written state writer)
    (clean : Clean state writer) (quiet : action.writer? = none) :
    Current (state.perform action) host := by
  have changed : ∀ (state : LineState Host Data) other (copy : Option (Copy Data)),
      Current state host → (∀ item, copy = some item → item.data = state.memory) →
      Current (state.setCopy other copy) host := fun state other copy current only item found => by
    by_cases here : host = other
    · subst here
      rw [setCopy_self] at found
      exact only item found
    · rw [setCopy_of_ne here] at found
      exact current item found
  refine perform_preserves (Current · host) action current (fun other _ => ?_)
    (fun other copy found dirty => ?_) (fun state other current _ => ?_) fun other change same => ?_
  · exact changed state other _ current fun item found => by rw [← Option.some.inj found]
  · rw [written.clean clean other copy found] at dirty
    cases dirty
  · exact changed state other none current fun _ found => by cases found
  · rw [same] at quiet
    cases quiet

theorem clean_clwb (state : LineState Host Data) (host : Host) :
    Clean (state.perform (.clwb host)) host :=
  clean_writeBack state host

theorem copies_clflush (state : LineState Host Data) (host : Host) :
    (state.perform (.clflush host)).copies host = none :=
  setCopy_self ..

theorem clean_clflush (state : LineState Host Data) (host : Host) :
    Clean (state.perform (.clflush host)) host := fun copy found => by
  rw [copies_clflush] at found
  cases found

theorem current_clflush (state : LineState Host Data) (host : Host) :
    Current (state.perform (.clflush host)) host := fun copy found => by
  rw [copies_clflush] at found
  cases found

end Writer

/-! ## Lines that only rise

The contents of such a line are ordered, and the writer replaces them by larger ones.  A host may
read the line at any time.  What it reads may be old, but not older than memory was when it flushed
its copy. -/

section Rising

variable [DecidableEq Host] {Rank : Type} [Preorder Rank] {rank : Data → Rank}
  {state : LineState Host Data} {host writer : Host} {action : Action Host Data} {floor : Rank}

/-- A line with one writer in which memory is behind the writer and the others are behind memory. -/
structure Rising (rank : Data → Rank) (state : LineState Host Data) (writer : Host) : Prop extends
    Written state writer where
  memory : rank state.memory ≤ rank (state.view writer)
  behind : ∀ host, host ≠ writer → ∀ copy, state.copies host = some copy →
    rank copy.data ≤ rank state.memory

/-- What a host reads is at least this. -/
structure Seen (rank : Data → Rank) (floor : Rank) (state : LineState Host Data) (host : Host) :
    Prop where
  memory : floor ≤ rank state.memory
  copy : ∀ copy, state.copies host = some copy → floor ≤ rank copy.data

omit [DecidableEq Host] in
theorem Seen.view (seen : Seen rank floor state host) : floor ≤ rank (state.view host) := by
  cases found : state.copies host with
  | none =>
      rw [view_of_absent found]
      exact seen.memory
  | some copy =>
      rw [view_of_copy found]
      exact seen.copy copy found

omit [DecidableEq Host] in
theorem Seen.weaken {lower : Rank} (seen : Seen rank floor state host) (below : lower ≤ floor) :
    Seen rank lower state host :=
  ⟨below.trans seen.memory, fun copy found => below.trans (seen.copy copy found)⟩

omit [DecidableEq Host] in
/-- Nobody reads more than the writer has stored. -/
theorem Rising.view_le (rising : Rising rank state writer) (host : Host) :
    rank (state.view host) ≤ rank (state.view writer) := by
  rcases Classical.em (host = writer) with rfl | other
  · exact le_rfl
  · cases found : state.copies host with
    | none =>
        rw [view_of_absent found]
        exact rising.memory
    | some copy =>
        rw [view_of_copy found]
        exact (rising.behind host other copy found).trans rising.memory

omit [DecidableEq Host] in
/-- What another host than the writer reads it does not read less of later. -/
theorem Rising.seen (rising : Rising rank state writer) (reader : host ≠ writer) :
    Seen rank (rank (state.view host)) state host := by
  cases found : state.copies host with
  | none =>
      rw [view_of_absent found]
      exact ⟨le_rfl, fun copy there => by rw [found] at there; cases there⟩
  | some copy =>
      rw [view_of_copy found]
      refine ⟨rising.behind host reader copy found, fun item there => ?_⟩
      rw [Option.some.inj (found.symm.trans there)]

omit [DecidableEq Host] in
theorem Rising.uncached (memory : Data) (writer : Host) :
    Rising rank (LineState.uncached memory) writer :=
  ⟨Written.uncached memory writer, le_rfl, fun _ _ _ found => by cases found⟩

theorem Rising.setCopy (rising : Rising rank state writer) (host : Host)
    (copy : Option (Copy Data)) (written : Written (state.setCopy host copy) writer)
    (behind : host ≠ writer → ∀ item, copy = some item → rank item.data ≤ rank state.memory)
    (ahead : host = writer → rank state.memory ≤ rank ((state.setCopy host copy).view writer)) :
    Rising rank (state.setCopy host copy) writer := by
  refine ⟨written, ?_, fun other different item found => ?_⟩
  · by_cases here : writer = host
    · exact ahead here.symm
    · rw [view_setCopy_of_ne here]
      exact rising.memory
  · by_cases here : other = host
    · subst here
      rw [setCopy_self] at found
      exact behind different item found
    · rw [setCopy_of_ne here] at found
      exact rising.behind other different item found

/-- The line keeps rising, and so does memory. -/
theorem Rising.perform (rising : Rising rank state writer)
    (only : ∀ host, action.writer? = some host → host = writer)
    (increases : ∀ host change, action = .store host change →
      rank (state.view host) ≤ rank (change (state.view host))) :
    Rising rank (state.perform action) writer ∧
      rank state.memory ≤ rank (state.perform action).memory := by
  refine perform_preserves
    (fun after => Rising rank after writer ∧ rank state.memory ≤ rank after.memory) action
    ⟨rising, le_rfl⟩ (fun host absent => ⟨?_, le_rfl⟩) (fun host copy found dirty => ?_)
    (fun after host before clean => ⟨?_, before.2⟩) fun host change same => ⟨?_, le_rfl⟩
  · refine rising.setCopy host _ (rising.toWritten.setCopy host _ (fun _ item found => ?_)
      fun item found _ => ?_) (fun _ item found => ?_) fun here => ?_
    · rw [← Option.some.inj found]
    · rw [← Option.some.inj found]
    · rw [← Option.some.inj found]
    · rw [here, view_of_copy (setCopy_self ..)]
  · obtain rfl := rising.writer_of_dirty found dirty
    have higher : rank state.memory ≤ rank copy.data := by
      rw [← view_of_copy found]
      exact rising.memory
    refine ⟨⟨rising.toWritten.deposit _, ?_, fun other different item there => ?_⟩, higher⟩
    · rw [view_of_copy (deposit_self ..)]
      exact le_rfl
    · rw [deposit_of_ne different] at there
      exact (rising.behind other different item there).trans higher
  · refine before.1.setCopy host none (before.1.toWritten.setCopy host none
      (fun _ _ found => by cases found) fun _ found => by cases found)
      (fun _ _ found => by cases found) fun here => ?_
    rw [here, view_of_absent (setCopy_self ..)]
    exact le_rfl
  · obtain rfl := only host (by rw [same]; rfl)
    refine rising.setCopy host _ (rising.toWritten.setCopy host _
      (fun different => (different rfl).elim) fun item found clean => ?_)
      (fun different => (different rfl).elim) fun _ => ?_
    · rw [← Option.some.inj found] at clean
      cases clean
    · rw [view_of_copy (setCopy_self ..)]
      exact rising.memory.trans (increases host change same)

/-- What a host has read it does not read less of later. -/
theorem Seen.perform (seen : Seen rank floor state host) (rising : Rising rank state writer)
    (reader : host ≠ writer) (only : ∀ host, action.writer? = some host → host = writer)
    (increases : ∀ host change, action = .store host change →
      rank (state.view host) ≤ rank (change (state.view host))) :
    Seen rank floor (state.perform action) host := by
  refine ⟨seen.memory.trans (rising.perform only increases).2, ?_⟩
  refine (perform_preserves (fun after => floor ≤ rank after.memory ∧
    ∀ copy, after.copies host = some copy → floor ≤ rank copy.data) action
    ⟨seen.memory, seen.copy⟩ (fun other _ => ⟨seen.memory, fun item found => ?_⟩)
    (fun other copy found dirty => ?_)
      (fun after other before _ => ⟨before.1, fun item found => ?_⟩)
    fun other change same => ⟨seen.memory, fun item found => ?_⟩).2
  · by_cases here : host = other
    · subst here
      rw [setCopy_self] at found
      rw [← Option.some.inj found]
      exact seen.memory
    · rw [setCopy_of_ne here] at found
      exact seen.copy item found
  · obtain rfl := rising.writer_of_dirty found dirty
    refine ⟨?_, fun item there => ?_⟩
    · refine seen.memory.trans (rising.memory.trans ?_)
      rw [view_of_copy found]
      exact le_rfl
    · rw [deposit_of_ne reader] at there
      exact seen.copy item there
  · by_cases here : host = other
    · subst here
      rw [setCopy_self] at found
      cases found
    · rw [setCopy_of_ne here] at found
      exact before.2 item found
  · have different : host ≠ other := by
      rw [only other (by rw [same]; rfl)]
      exact reader
    rw [setCopy_of_ne different] at found
    exact seen.copy item found

/-- A host that flushes its copy reads at least what memory has. -/
theorem seen_clflush (state : LineState Host Data) (host : Host)
    (memory : floor ≤ rank (state.perform (.clflush host)).memory) :
    Seen rank floor (state.perform (.clflush host)) host :=
  ⟨memory, fun copy found => by rw [copies_clflush] at found; cases found⟩

omit [DecidableEq Host] in
/-- Memory has what the writer stored before it wrote its copy back. -/
theorem Rising.memory_eq (rising : Rising rank state writer) (clean : Clean state writer) :
    rank state.memory = rank (state.view writer) := by
  rw [rising.toWritten.memory_eq clean]

end Rising

/-! ## Handing a line over -/

section HandOver

variable [DecidableEq Host] {state : LineState Host Data} {host writer : Host}
  {actions : List (Action Host Data)}

/-- No host stores to the line. -/
def Quiet (actions : List (Action Host Data)) : Prop :=
  ∀ action ∈ actions, action.writer? = none

omit [DecidableEq Host] in
theorem only_of_quiet {action : Action Host Data} (quiet : action.writer? = none) :
    ∀ host, action.writer? = some host → host = writer := fun host some => by
  rw [quiet] at some
  cases some

/-- Actions that change nothing. -/
theorem Written.quiet (written : Written state writer) (quiet : Quiet actions) :
    Written (actions.foldl LineState.perform state) writer ∧
      (actions.foldl LineState.perform state).view writer = state.view writer ∧
      (Clean state writer → Clean (actions.foldl LineState.perform state) writer ∧
        ∀ host, Current state host → Current (actions.foldl LineState.perform state) host) := by
  induction actions generalizing state with
  | nil => exact ⟨written, rfl, fun clean => ⟨clean, fun _ => id⟩⟩
  | cons action actions induction =>
      have silent : action.writer? = none := quiet action List.mem_cons_self
      have after := written.perform (only_of_quiet silent)
      obtain ⟨finally_, view, kept⟩ :=
        induction after fun later member => quiet later (List.mem_cons_of_mem action member)
      refine ⟨finally_, view.trans (written.view_perform silent), fun clean => ?_⟩
      obtain ⟨stays, fresh⟩ := kept (clean.perform silent)
      exact ⟨stays, fun host current => fresh host (current.perform written clean silent)⟩

omit [DecidableEq Host] in
theorem Quiet.split (quiet : Quiet actions) {action : Action Host Data}
    (member : action ∈ actions) :
    ∃ before after, actions = before ++ action :: after ∧ Quiet before ∧ Quiet after := by
  obtain ⟨before, after, rfl⟩ := List.append_of_mem member
  exact ⟨before, after, rfl, fun earlier early => quiet earlier (List.mem_append_left _ early),
    fun later late => quiet later (List.mem_append_right _ (List.mem_cons_of_mem action late))⟩

/-- A writer that has written its copy back has nothing left to write back. -/
theorem Written.published (written : Written state writer) (quiet : Quiet actions)
    (flushed : .clwb writer ∈ actions ∨ .clflush writer ∈ actions) :
    Clean (actions.foldl LineState.perform state) writer := by
  obtain ⟨flush, member, cleans, silent⟩ : ∃ flush ∈ actions,
      (∀ state : LineState Host Data, Clean (state.perform flush) writer) ∧
        flush.writer? = none := by
    rcases flushed with member | member
    · exact ⟨_, member, fun state => clean_clwb state writer, rfl⟩
    · exact ⟨_, member, fun state => clean_clflush state writer, rfl⟩
  obtain ⟨before, after, rfl, early, late⟩ := quiet.split member
  rw [List.foldl_append, List.foldl_cons]
  have middle := (written.quiet early).1.perform (only_of_quiet silent)
  exact ((middle.quiet late).2.2 (cleans _)).1

/-- A host that flushes its copy of a clean line has the contents of memory. -/
theorem Written.acquired (written : Written state writer) (clean : Clean state writer)
    (quiet : Quiet actions) (flushed : .clflush host ∈ actions) :
    Current (actions.foldl LineState.perform state) host := by
  obtain ⟨before, after, rfl, early, late⟩ := quiet.split flushed
  rw [List.foldl_append, List.foldl_cons]
  obtain ⟨kept, -, stays⟩ := written.quiet early
  have silent : (Action.clflush host : Action Host Data).writer? = none := rfl
  have middle := kept.perform (only_of_quiet silent)
  have cleaned := (stays clean).1.perform silent
  exact ((middle.quiet late).2.2 cleaned).2 host (current_clflush _ host)

end HandOver

/-! ## All lines -/

/-- The lines of a memory. -/
abbrev Caches (Host Line Data : Type) := Line → LineState Host Data

namespace Caches

variable [DecidableEq Host] [DecidableEq Line]

def perform (caches : Caches Host Line Data) (label : Line × Action Host Data) :
    Caches Host Line Data :=
  Function.update caches label.1 ((caches label.1).perform label.2)

@[simp] theorem perform_self (caches : Caches Host Line Data) (line : Line)
    (action : Action Host Data) :
    caches.perform (line, action) line = (caches line).perform action :=
  Function.update_self ..

theorem perform_of_ne (caches : Caches Host Line Data) {line other : Line}
    (action : Action Host Data) (different : other ≠ line) :
    caches.perform (line, action) other = caches other :=
  Function.update_of_ne different ..

/-- Actions one after the other. -/
def performAll (caches : Caches Host Line Data) (labels : List (Line × Action Host Data)) :
    Caches Host Line Data :=
  labels.foldl perform caches

def actionsOn (line : Line) (labels : List (Line × Action Host Data)) : List (Action Host Data) :=
  labels.filterMap fun label => if label.1 = line then some label.2 else none

omit [DecidableEq Host] in
theorem mem_actionsOn {line : Line} {labels : List (Line × Action Host Data)}
    {action : Action Host Data} : action ∈ actionsOn line labels ↔ (line, action) ∈ labels := by
  simp only [actionsOn, List.mem_filterMap, Option.ite_none_right_eq_some, Option.some.injEq]
  constructor
  · rintro ⟨⟨other, found⟩, member, rfl, rfl⟩
    exact member
  · exact fun member => ⟨(line, action), member, rfl, rfl⟩

theorem performAll_line (caches : Caches Host Line Data) (labels : List (Line × Action Host Data))
    (line : Line) :
    caches.performAll labels line =
      (actionsOn line labels).foldl LineState.perform (caches line) := by
  induction labels generalizing caches with
  | nil => rfl
  | cons label labels induction =>
      rw [performAll, List.foldl_cons]
      refine (induction (caches.perform label)).trans ?_
      by_cases here : label.1 = line
      · subst here
        have first : actionsOn label.1 (label :: labels) =
            label.2 :: actionsOn label.1 labels := by
          rw [actionsOn, List.filterMap_cons, if_pos rfl]
          rfl
        rw [first, List.foldl_cons, perform, Function.update_self]
      · have first : actionsOn line (label :: labels) = actionsOn line labels := by
          rw [actionsOn, List.filterMap_cons, if_neg here]
          rfl
        rw [first, perform, Function.update_of_ne (Ne.symm here)]

end Caches
end Cxloom.WriteBackCache
