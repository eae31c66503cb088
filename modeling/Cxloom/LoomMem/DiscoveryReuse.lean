import Cxloom.LoomMem.AllocatorPools
import Cxloom.LoomMem.DiscoverySafety
import Mathlib.Algebra.BigOperators.Group.Finset.Piecewise

/-!
# Lookups during reuse

The invariant of all interleavings of lookups with allocation, retirement and reuse, and what it
says about the results of `Describe`, about the descriptors that lookups touch and about the reader
counts. It needs that no retirement through a stray pointer stores into the descriptor of a live
object.
-/

namespace Cxloom.LoomMem.Discovery

open PinnedSlots (Role Counted Stored)

variable {Thread : Type} [Fintype Thread] {layout : AllocatorLayout}
  {state after : Discovery Thread} {thread : Thread}

/-- What holds in every state of every run. -/
structure Safe (state : Discovery Thread) : Prop where
  /-- The lock has one holder, and slots count their readers. -/
  counted : Counted kUint32Max state.table state.roles
  /-- Published objects are out of the pools and described by their records. -/
  stored : Stored Fixed state.table state.roles
  sane : ∀ thread, (state.phases thread).Sane state.taken state.retirement
  /-- A running retirement is about an object. -/
  addressed : Addressed state.retirement
  genuine : ∀ entry ∈ state.returned, Genuine entry.2

variable [DecidableEq Thread]

/-- A move of one thread keeps what holds in every state. -/
theorem Safe.moved (safe : Safe state) (moved : Moved thread state after) : Safe after := by
  have roles : after.roles = Function.update state.roles thread (after.roles thread) := by
    funext other
    by_cases same : other = thread
    · rw [same, Function.update_self]
    · rw [Function.update_of_ne same]
      exact congrArg Phase.role (moved.others other same)
  refine ⟨?_, ?_, fun other => ?_, ?_, fun entry member => ?_⟩
  · rw [roles]
    exact safe.counted.moves Fixed moved.moves (by decide)
  · rw [roles]
    exact safe.stored.moves safe.counted moved.moves
  · by_cases same : other = thread
    · rw [same]
      exact moved.sane
    · rw [moved.others other same]
      refine (safe.sane other).stays ?_ ?_
      · intro slot object reads
        exact safe.stored.taken_stays safe.counted reads moved.moves
      · intro locks
        have owned : state.extentLock = some other := (safe.counted.lock other).mp locks
        rcases moved.control with unchanged | ⟨-, free | writes⟩
        · exact unchanged
        · rw [owned] at free
          cases free
        · exact (same (safe.counted.writer_unique locks writes)).elim
  · rcases moved.control with unchanged | ⟨addressed, -⟩
    · rw [unchanged]
      exact safe.addressed
    · exact addressed
  · rcases moved.returned entry member with earlier | new
    · exact safe.genuine entry earlier
    · exact new

/-! ## Steps -/

omit [Fintype Thread] in
/-- A thread that enters a call knows what its first access relies on. -/
theorem call_moved {entry : Except Status Phase}
    (enters : ∀ phase, entry = .ok phase → phase.role = .away ∧
      phase.Sane state.taken state.retirement)
    (performed : state.call thread entry = some after) : Moved thread state after := by
  unfold call at performed
  split at performed
  · rename_i now
    split at performed
    · obtain rfl := Option.some.inj performed
      exact moved_finish now ⟨rfl, rfl, .inl rfl⟩ (quiet thread state.table .away) trivial
    · rename_i phase
      obtain ⟨role, sane⟩ := enters phase rfl
      obtain rfl := Option.some.inj performed
      exact moved_quiet now role sane
  · cases performed

omit [Fintype Thread] [DecidableEq Thread] in
theorem enterLookup_enters (state : Discovery Thread) (call : Lookup) (object : GlobalPointer)
    (phase : Phase) (entry : enterLookup call object = .ok phase) :
    phase.role = .away ∧ phase.Sane state.taken state.retirement := by
  rw [enterLookup] at entry
  split at entry
  · cases entry
  · rename_i address
    obtain rfl := Except.ok.inj entry
    exact ⟨rfl, fun zero => address (.inr zero)⟩

theorem advance_moved (formatted : layout.Formatted) (safe : Safe state) {choice : Choice}
    (spares : Spares state (.advance thread choice))
    (performed : advance layout state thread choice = some after) : Moved thread state after := by
  have sane := safe.sane thread
  rw [advance] at performed
  cases find : advanceFind layout state thread choice (state.phases thread) with
  | some middle =>
      rw [find] at performed
      exact advanceFind_moved formatted safe.counted safe.stored sane rfl spares
        (find.trans performed)
  | none =>
      rw [find, Option.orElse_none] at performed
      cases lookup : advanceLookup layout state thread choice (state.phases thread) with
      | some middle =>
          rw [lookup] at performed
          exact advanceLookup_moved safe.counted safe.stored sane rfl spares
            (lookup.trans performed)
      | none =>
          rw [lookup, Option.orElse_none] at performed
          exact advanceChange_moved safe.addressed sane rfl spares performed

theorem next_moved (formatted : layout.Formatted) (safe : Safe state) {label : Label Thread}
    (spares : Spares state label) (performed : next layout state label = some after) :
    ∃ thread, Moved thread state after := by
  have changes : ∀ change phase, (.ok (.lockExtents change) : Except Status Phase) = .ok phase →
      phase.role = .away ∧ phase.Sane state.taken state.retirement := by
    intro change phase entry
    obtain rfl := Except.ok.inj entry
    exact ⟨rfl, trivial⟩
  cases label with
  | describe thread object =>
      exact ⟨thread, call_moved (enterLookup_enters state .describe object) performed⟩
  | acquireReference thread object host allowRetiring =>
      exact ⟨thread, call_moved (enterLookup_enters state _ object) performed⟩
  | releaseReference thread object host =>
      have enters : state.call thread (.ok (.release object host)) = some after := performed
      refine ⟨thread, call_moved (fun phase entry => ?_) enters⟩
      obtain rfl := Except.ok.inj entry
      exact ⟨rfl, trivial⟩
  | allocate thread host defaultBlockBytes options =>
      refine ⟨thread, call_moved (fun phase entry => ?_) performed⟩
      generalize requestOf host defaultBlockBytes options = request at entry
      cases request with
      | error status => cases entry
      | ok request => exact changes _ phase entry
  | beginRetire thread host object hostCount =>
      refine ⟨thread, call_moved (fun phase entry => ?_) performed⟩
      split at entry
      · cases entry
      · exact changes _ phase entry
  | acknowledgeRetirement thread snapshot host cursors =>
      exact ⟨thread, call_moved (changes _) performed⟩
  | free thread host object => exact ⟨thread, call_moved (changes _) performed⟩
  | advance thread choice => exact ⟨thread, advance_moved formatted safe spares performed⟩
  | overwrite thread object field value =>
      simp only [next] at performed
      split at performed
      · rename_i allowed
        obtain rfl := Option.some.inj performed
        have free : ¬Fixed field ∨ state.taken object = none := by
          rcases allowed with pooled | rfl
          · exact .inr (Option.isNone_iff_eq_none.mp pooled)
          · exact .inl (by decide)
        exact ⟨thread, .writes _ _ (keeps_store state value free), fun _ _ => rfl, safe.sane thread,
          fun _ member => .inl member, .inl rfl⟩
      · cases performed

/-! ## Runs -/

omit [DecidableEq Thread] in
theorem safe_ofAllocator {formatted : Allocator} (slots : formatted.slots = fun _ => ⟨0, 0⟩)
    (idle : formatted.retirement.current.phase = .idle) :
    Safe (ofAllocator formatted : Discovery Thread) := by
  have objects : ∀ slot, (ofAllocator formatted : Discovery Thread).table.objects slot = 0 := by
    intro slot
    simp only [table, ofAllocator, slots]
  have nobody : PinnedSlots.pins (ofAllocator formatted : Discovery Thread).roles = fun _ => 0 := by
    funext slot
    exact PinnedSlots.pins_eq_zero fun thread pins => by cases pins
  refine ⟨⟨?_, ?_, ?_⟩, ⟨?_, ?_, ?_, ?_⟩, fun _ => trivial, ?_, ?_⟩
  · exact fun thread => iff_of_false (fun locks => by cases locks) fun same => by cases same
  · exact fun thread slot holds => by cases holds
  · intro slot _
    have readers : (ofAllocator formatted : Discovery Thread).table.readers slot = 0 := by
      simp only [table, ofAllocator, slots]
    rw [readers, nobody]
    exact ⟨rfl, by decide⟩
  · exact fun slot used => (used (objects slot)).elim
  · exact fun first _ used => (used (objects first)).elim
  · exact fun _ => trivial
  · exact fun object values out => by cases out
  · exact fun running => (running idle).elim
  · exact fun entry member => (List.not_mem_nil member).elim

theorem safe_of_reaches {memory : Memory} {region : Allocator}
    (format : Allocator.formatSharedAllocator layout memory = .ok region)
    (execution : Run.ReachesBy (next layout) Spares (ofAllocator region) state) : Safe state := by
  have formatted := Allocator.formatted_of_format format
  refine execution.preserves Safe ?_ fun before label after safe spares performed => ?_
  · rw [Allocator.formatSharedAllocator] at format
    split at format
    · cases format
    · obtain rfl := Except.ok.inj format
      exact safe_ofAllocator rfl rfl
  · obtain ⟨thread, moved⟩ := next_moved formatted safe spares performed
    exact safe.moved moved

/-! ## What survives reuse -/

/-- The slot that a thread has pinned. -/
def Phase.pins (phase : Phase) : Option Nat := phase.role.pin

/-- The slot that a thread has for itself. -/
def Phase.holds (phase : Phase) : Option Nat := phase.role.hold

end Cxloom.LoomMem.Discovery
