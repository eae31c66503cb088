import Cxloom.Census

/-!
# Slots with reader counts

A table of slots publishes objects.  A reader counts itself in a slot and looks at the slot again
before it reads the object; a writer holds the lock of the table and takes a slot for itself by
moving its count from zero to a limit.  Objects come from a pool and go back to it, and a record
describes an object while it is out of the pool.  Threads are known by the role that they play.
-/

namespace Cxloom.PinnedSlots

variable {Thread Field : Type}

/-- What a thread does with the table. -/
inductive Role (Field : Type)
  /-- The thread neither counts in a slot nor holds the lock. -/
  | away
  /-- The thread counts in a slot. -/
  | pinned (slot : Nat)
  /-- The thread counts in a slot and saw the object there. -/
  | reading (slot object : Nat)
  /-- The thread holds the lock. -/
  | inside
  | found (slot object : Nat)
  /-- The writer saw that a slot is empty. -/
  | vacant (slot : Nat)
  /-- The writer has an empty slot for itself. -/
  | claimed (slot : Nat)
  /-- The writer took an object from the pool and fills its record; some fields are not yet there.
  -/
  | building (slot object : Nat) (values : Field → Nat) (pending : Field → Prop)
  /-- The writer has the slot of an object for itself. -/
  | closed (slot object : Nat)
  /-- The writer returned the object of its slot to the pool. -/
  | emptied (slot object : Nat)
  /-- The writer has a slot for itself and is done with it. -/
  | opening (slot : Nat)

namespace Role

/-- The slot in which the thread counts. -/
def pin : Role Field → Option Nat
  | pinned slot | reading slot _ => some slot
  | _ => none

/-- The slot that the thread has for itself. -/
def hold : Role Field → Option Nat
  | claimed slot | building slot _ _ _ | closed slot _ | emptied slot _ | opening slot => some slot
  | _ => none

/-- Whether the thread holds the lock. -/
def locks : Role Field → Bool
  | away | pinned _ | reading _ _ => false
  | _ => true

theorem locks_of_hold {role : Role Field} {slot : Nat} (holds : role.hold = some slot) :
    role.locks = true := by
  cases role with
  | away | pinned | reading | inside | found | vacant => cases holds
  | claimed | building | closed | emptied | opening => rfl

theorem pin_of_locks {role : Role Field} (inside : role.locks = true) : role.pin = none := by
  cases role with
  | away | pinned | reading => cases inside
  | _ => rfl

end Role

/-- The shared words, and which objects are out of the pool. -/
structure Table (Thread Field : Type) where
  /-- Object of a slot, zero when it is empty. -/
  objects : Nat → Nat
  readers : Nat → Nat
  lock : Option Thread
  /-- Fields of the record at the address of an object. -/
  words : Nat → Field → Nat
  /-- Objects that are out of the pool, with the fields they were made with. -/
  taken : Nat → Option (Field → Nat)

variable (fixed : Field → Prop) (limit : Nat)

/-- A write that keeps the fixed fields of the objects out of the pool, apart from one. -/
def KeepsRecords (table : Table Thread Field) (words : Nat → Field → Nat) (except : Option Nat) :
    Prop :=
  ∀ object values, table.taken object = some values → except ≠ some object →
    ∀ field, fixed field → words object field = table.words object field

/-- What a thread in a role can do to the table. -/
inductive Moves (thread : Thread) (table : Table Thread Field) :
    Role Field → Table Thread Field → Role Field → Prop
  | writes (role : Role Field) (words : Nat → Field → Nat)
      (kept : KeepsRecords fixed table words none) :
      Moves thread table role { table with words := words } role
  | pin (slot : Nat) (below : table.readers slot + 1 < limit) :
      Moves thread table .away
        { table with
          readers := Function.update table.readers slot (table.readers slot + 1) }
        (.pinned slot)
  | verify (slot object : Nat) (nonzero : object ≠ 0) (seen : table.objects slot = object) :
      Moves thread table (.pinned slot) table (.reading slot object)
  /-- A reader that saw something else leaves. -/
  | leave (slot : Nat) :
      Moves thread table (.pinned slot)
        { table with
          readers := Function.update table.readers slot (table.readers slot - 1) } .away
  /-- A reader leaves. -/
  | unpin (slot object : Nat) :
      Moves thread table (.reading slot object)
        { table with
          readers := Function.update table.readers slot (table.readers slot - 1) } .away
  | lock (free : table.lock = none) :
      Moves thread table .away { table with lock := some thread } .inside
  | unlock : Moves thread table .inside { table with lock := none } .away
  | find (slot object : Nat) (nonzero : object ≠ 0) (seen : table.objects slot = object) :
      Moves thread table .inside table (.found slot object)
  | yields (slot object : Nat) : Moves thread table (.found slot object) table .inside
  /-- A writer sees that a slot is empty. -/
  | search (slot : Nat) (seen : table.objects slot = 0) :
      Moves thread table .inside table (.vacant slot)
  /-- A writer cannot have the empty slot. -/
  | skip (slot : Nat) : Moves thread table (.vacant slot) table .inside
  /-- A writer takes an empty slot. -/
  | claim (slot : Nat) (unread : table.readers slot = 0) :
      Moves thread table (.vacant slot)
        { table with readers := Function.update table.readers slot limit } (.claimed slot)
  /-- The pool has no object. -/
  | refuse (slot : Nat) : Moves thread table (.claimed slot) table (.opening slot)
  /-- A writer takes an object from the pool. -/
  | take (slot object : Nat) (values : Field → Nat) (nonzero : object ≠ 0)
      (pooled : table.taken object = none) :
      Moves thread table (.claimed slot)
        { table with taken := Function.update table.taken object (some values) }
        (.building slot object values fixed)
  /-- A writer fills the record of its object. -/
  | build (slot object : Nat) (values : Field → Nat) (pending later : Field → Prop)
      (words : Nat → Field → Nat) (kept : KeepsRecords fixed table words (some object))
      (written : ∀ field, fixed field → ¬later field →
        words object field = table.words object field ∧ ¬pending field ∨
          words object field = values field) :
      Moves thread table (.building slot object values pending) { table with words := words }
        (.building slot object values later)
  | publish (slot object : Nat) (values : Field → Nat) (pending : Field → Prop)
      (complete : ∀ field, fixed field → ¬pending field) :
      Moves thread table (.building slot object values pending)
        { table with objects := Function.update table.objects slot object } (.opening slot)
  | close (slot object : Nat) (unread : table.readers slot = 0) :
      Moves thread table (.found slot object)
        { table with readers := Function.update table.readers slot limit } (.closed slot object)
  | keep (slot object : Nat) : Moves thread table (.closed slot object) table (.opening slot)
  /-- A writer returns the object to the pool. -/
  | give (slot object : Nat) :
      Moves thread table (.closed slot object)
        { table with taken := Function.update table.taken object none } (.emptied slot object)
  | clear (slot object : Nat) :
      Moves thread table (.emptied slot object)
        { table with objects := Function.update table.objects slot 0 } (.opening slot)
  | opens (slot : Nat) :
      Moves thread table (.opening slot)
        { table with readers := Function.update table.readers slot 0 } .inside

/-! ## Counts -/

variable {table : Table Thread Field} {roles : Thread → Role Field} {thread : Thread}
  {role : Role Field}

/-- What holds for the new role of a thread and for the roles of the others. -/
theorem update_cases [DecidableEq Thread] (motive : Thread → Role Field → Prop)
    (here : motive thread role) (there : ∀ other, other ≠ thread → motive other (roles other))
    (other : Thread) : motive other (Function.update roles thread role other) := by
  by_cases same : other = thread
  · subst same
    rw [Function.update_self]
    exact here
  · rw [Function.update_of_ne same]
    exact there other same

/-- Number of threads that count in a slot. -/
def pins [Fintype Thread] (roles : Thread → Role Field) (slot : Nat) : Nat :=
  ∑ thread, if (roles thread).pin = some slot then 1 else 0

theorem pins_update [Fintype Thread] [DecidableEq Thread] (roles : Thread → Role Field)
    (thread : Thread) (role : Role Field) (slot : Nat) :
    pins (Function.update roles thread role) slot +
        (if (roles thread).pin = some slot then 1 else 0) =
      pins roles slot + (if role.pin = some slot then 1 else 0) :=
  Census.sum_update (fun role : Role Field => if role.pin = some slot then 1 else 0) roles thread
    role

section Finite

variable [Fintype Thread]

theorem pins_pos {slot : Nat} (counts : (roles thread).pin = some slot) : 0 < pins roles slot := by
  refine Finset.sum_pos' (fun _ _ => Nat.zero_le _) ⟨thread, Finset.mem_univ thread, ?_⟩
  rw [if_pos counts]
  exact Nat.one_pos

theorem pins_eq_zero {slot : Nat} (nobody : ∀ thread, (roles thread).pin ≠ some slot) :
    pins roles slot = 0 :=
  Finset.sum_eq_zero fun thread _ => if_neg (nobody thread)

/-- The lock has one holder, and the count of a slot is the number of its readers or the limit. -/
structure Counted (limit : Nat) (table : Table Thread Field) (roles : Thread → Role Field) :
    Prop where
  /-- The lock word names the writer. -/
  lock : ∀ thread, (roles thread).locks = true ↔ table.lock = some thread
  /-- A slot that a writer has for itself has no readers. -/
  held : ∀ thread slot, (roles thread).hold = some slot →
    table.readers slot = limit ∧ ∀ other, (roles other).pin ≠ some slot
  counted : ∀ slot, (∀ thread, (roles thread).hold ≠ some slot) →
    table.readers slot = pins roles slot ∧ table.readers slot < limit

end Finite

namespace Counted

variable [Fintype Thread] {limit : Nat} (counted : Counted limit table roles)

include counted

/-- There is one writer. -/
theorem writer_unique {first second : Thread} (left : (roles first).locks = true)
    (right : (roles second).locks = true) : first = second := by
  have one := (counted.lock first).mp left
  have other := (counted.lock second).mp right
  rw [one] at other
  exact Option.some.inj other

theorem unheld_of_pin {slot : Nat} (counts : (roles thread).pin = some slot) (other : Thread) :
    (roles other).hold ≠ some slot :=
  fun holds => (counted.held other slot holds).2 thread counts

theorem unheld_of_locks {slot : Nat} (writes : (roles thread).locks = true)
    (different : (roles thread).hold ≠ some slot) (other : Thread) :
    (roles other).hold ≠ some slot := by
  intro holds
  have same := counted.writer_unique (Role.locks_of_hold holds) writes
  rw [same] at holds
  exact different holds

variable [DecidableEq Thread]

/-- A step that changes neither counts nor the lock. -/
theorem same {after : Table Thread Field} (readers : after.readers = table.readers)
    (lock : after.lock = table.lock) (pin : role.pin = (roles thread).pin)
    (hold : role.hold = (roles thread).hold) (locks : role.locks = (roles thread).locks) :
    Counted limit after (Function.update roles thread role) := by
  have pins_eq : ∀ other, (Function.update roles thread role other).pin = (roles other).pin :=
    update_cases (fun other now => now.pin = (roles other).pin) pin fun _ _ => rfl
  have hold_eq : ∀ other, (Function.update roles thread role other).hold = (roles other).hold :=
    update_cases (fun other now => now.hold = (roles other).hold) hold fun _ _ => rfl
  have locks_eq : ∀ other, (Function.update roles thread role other).locks = (roles other).locks :=
    update_cases (fun other now => now.locks = (roles other).locks) locks fun _ _ => rfl
  refine ⟨fun other => ?_, fun other slot holds => ?_, fun slot unheld => ?_⟩
  · rw [locks_eq, lock]
    exact counted.lock other
  · simp only [hold_eq, pins_eq, readers] at holds ⊢
    exact counted.held other slot holds
  · simp only [hold_eq] at unheld
    have counts := counted.counted slot unheld
    simp only [pins, pins_eq, readers] at counts ⊢
    exact counts

/-- A step that changes the count of one slot by what the role of the thread counts there. -/
theorem recount {slot value : Nat} (outside : (roles thread).locks = false)
    (stays : role.locks = false)
    (unheld : ∀ other, (roles other).hold ≠ some slot)
    (elsewhere : ∀ place, place ≠ slot → (role.pin = some place ↔ (roles thread).pin = some place))
    (value_eq : value + (if (roles thread).pin = some slot then 1 else 0) =
      table.readers slot + (if role.pin = some slot then 1 else 0)) (below : value < limit) :
    Counted limit { table with readers := Function.update table.readers slot value }
      (Function.update roles thread role) := by
  have nothing : ∀ place, role.hold ≠ some place := by
    intro place holds
    rw [Role.locks_of_hold holds] at stays
    cases stays
  have nothingBefore : ∀ place, (roles thread).hold ≠ some place := by
    intro place holds
    rw [Role.locks_of_hold holds] at outside
    cases outside
  refine ⟨?_, ?_, ?_⟩
  · refine update_cases (fun other now => now.locks = true ↔ table.lock = some other) ?_
      fun other _ => counted.lock other
    have now := counted.lock thread
    rw [outside] at now
    rw [stays]
    exact now
  · refine update_cases (fun other now => ∀ place, now.hold = some place →
      Function.update table.readers slot value place = limit ∧
        ∀ reader, (Function.update roles thread role reader).pin ≠ some place)
      (fun place holds => (nothing place holds).elim) fun other _ place holds => ?_
    have different : place ≠ slot := by
      rintro rfl
      exact unheld other holds
    obtain ⟨full, unread⟩ := counted.held other place holds
    refine ⟨by rw [Function.update_of_ne different]; exact full, ?_⟩
    refine update_cases (fun _ now => now.pin ≠ some place) ?_ fun reader _ => unread reader
    exact fun counts => unread thread ((elsewhere place different).mp counts)
  · intro place free
    have before : ∀ other, (roles other).hold ≠ some place := by
      intro other
      by_cases same : other = thread
      · rw [same]
        exact nothingBefore place
      · have there := free other
        rwa [Function.update_of_ne same] at there
    obtain ⟨count, small⟩ := counted.counted place before
    have updated := pins_update roles thread role place
    by_cases here : place = slot
    · subst here
      simp only [Function.update_self]
      omega
    · have agree := elsewhere place here
      simp only [Function.update_of_ne here]
      by_cases counts : (roles thread).pin = some place
      · rw [if_pos counts, if_pos (agree.mpr counts)] at updated
        omega
      · rw [if_neg counts, if_neg fun now => counts (agree.mp now)] at updated
        omega

theorem leave {slot : Nat} (counts : (roles thread).pin = some slot) :
    Counted limit
      { table with readers := Function.update table.readers slot (table.readers slot - 1) }
      (Function.update roles thread .away) := by
  have outside : (roles thread).locks = false := by
    by_contra locks
    rw [Role.pin_of_locks (Bool.not_eq_false _ ▸ locks)] at counts
    cases counts
  have positive := pins_pos counts
  obtain ⟨count, small⟩ := counted.counted slot (counted.unheld_of_pin counts)
  refine counted.recount outside rfl (counted.unheld_of_pin counts) ?_ ?_ (by omega)
  · intro place different
    rw [counts]
    exact iff_of_false (fun none => by cases none)
      fun same => different (Option.some.inj same).symm
  · rw [if_pos counts]
    simp only [Role.pin, reduceCtorEq, if_false]
    omega

theorem seize {slot : Nat} (writes : (roles thread).locks = true)
    (nothing : (roles thread).hold = none) (unread : table.readers slot = 0)
    (stays : role.locks = true) (holds : role.hold = some slot) :
    Counted limit { table with readers := Function.update table.readers slot limit }
      (Function.update roles thread role) := by
  have unheld : ∀ place other, (roles other).hold ≠ some place := fun place =>
    counted.unheld_of_locks writes (by rw [nothing]; exact fun none => by cases none)
  have empty : ∀ reader, (roles reader).pin ≠ some slot := by
    intro reader counts
    have positive := pins_pos counts
    have count := (counted.counted slot (unheld slot)).1
    omega
  have pinless := Role.pin_of_locks stays
  refine ⟨?_, ?_, ?_⟩
  · refine update_cases (fun other now => now.locks = true ↔ table.lock = some other) ?_
      fun other _ => counted.lock other
    exact iff_of_true stays ((counted.lock thread).mp writes)
  · refine update_cases (fun other now => ∀ place, now.hold = some place →
      Function.update table.readers slot limit place = limit ∧
        ∀ reader, (Function.update roles thread role reader).pin ≠ some place) ?_
      fun other _ place held => (unheld place other held).elim
    intro place held
    rw [holds] at held
    obtain rfl := Option.some.inj held
    refine ⟨Function.update_self _ _ _, ?_⟩
    refine update_cases (fun _ now => now.pin ≠ some slot) ?_ fun reader _ => empty reader
    rw [pinless]
    exact fun counts => by cases counts
  · intro place free
    have different : place ≠ slot := by
      rintro rfl
      have now := free thread
      rw [Function.update_self] at now
      exact now holds
    obtain ⟨count, small⟩ := counted.counted place (unheld place)
    have updated := pins_update roles thread role place
    rw [Role.pin_of_locks writes, pinless] at updated
    simp only [Function.update_of_ne different]
    omega

theorem opens {slot : Nat} (opening : (roles thread).hold = some slot) (positive : 0 < limit)
    (stays : role.locks = true) (nothing : role.hold = none) :
    Counted limit { table with readers := Function.update table.readers slot 0 }
      (Function.update roles thread role) := by
  have writes := Role.locks_of_hold opening
  have pinless := Role.pin_of_locks stays
  have only : ∀ place other, other ≠ thread → (roles other).hold ≠ some place := by
    intro place other different holds
    exact different (counted.writer_unique (Role.locks_of_hold holds) writes)
  refine ⟨?_, ?_, ?_⟩
  · refine update_cases (fun other now => now.locks = true ↔ table.lock = some other) ?_
      fun other _ => counted.lock other
    exact iff_of_true stays ((counted.lock thread).mp writes)
  · refine update_cases (fun other now => ∀ place, now.hold = some place →
      Function.update table.readers slot 0 place = limit ∧
        ∀ reader, (Function.update roles thread role reader).pin ≠ some place)
      (fun place held => by rw [nothing] at held; cases held)
      fun other different place held => (only place other different held).elim
  · intro place free
    have updated := pins_update roles thread role place
    rw [Role.pin_of_locks writes, pinless] at updated
    by_cases here : place = slot
    · subst here
      have empty := pins_eq_zero (counted.held thread place opening).2
      simp only [Function.update_self]
      omega
    · have before : ∀ other, (roles other).hold ≠ some place := by
        intro other
        by_cases same : other = thread
        · rw [same, opening]
          exact fun held => here (Option.some.inj held).symm
        · exact only place other same
      obtain ⟨count, small⟩ := counted.counted place before
      simp only [Function.update_of_ne here]
      omega

/-- A writer takes or returns the lock. -/
theorem relock {lock : Option Thread} (free : table.lock = none ∨ table.lock = some thread)
    (pinless : (roles thread).pin = none) (stays : role.pin = none)
    (nothing : (roles thread).hold = none) (still : role.hold = none)
    (names : role.locks = true ↔ lock = some thread) (own : lock = none ∨ lock = some thread) :
    Counted limit { table with lock := lock } (Function.update roles thread role) := by
  have pins_eq : ∀ other, (Function.update roles thread role other).pin = (roles other).pin :=
    update_cases (fun other now => now.pin = (roles other).pin) (by rw [pinless, stays])
      fun _ _ => rfl
  have hold_eq : ∀ other, (Function.update roles thread role other).hold = (roles other).hold :=
    update_cases (fun other now => now.hold = (roles other).hold) (by rw [nothing, still])
      fun _ _ => rfl
  refine ⟨?_, fun other slot holds => ?_, fun slot unheld => ?_⟩
  · refine update_cases (fun other now => now.locks = true ↔ lock = some other) names
      fun other different => ?_
    have before := counted.lock other
    have outside : table.lock ≠ some other := by
      rcases free with none | mine
      · rw [none]
        exact fun same => by cases same
      · rw [mine]
        exact fun same => different (Option.some.inj same).symm
    have later : lock ≠ some other := by
      rcases own with none | mine
      · rw [none]
        exact fun same => by cases same
      · rw [mine]
        exact fun same => different (Option.some.inj same).symm
    exact iff_of_false (fun locks => outside (before.mp locks)) later
  · simp only [hold_eq, pins_eq] at holds ⊢
    exact counted.held other slot holds
  · simp only [hold_eq] at unheld
    have counts := counted.counted slot unheld
    simp only [pins, pins_eq] at counts ⊢
    exact counts

/-- Every move keeps the counts. -/
theorem moves {after : Table Thread Field}
    (moves : Moves fixed limit thread table (roles thread) after role) (positive : 0 < limit) :
    Counted limit after (Function.update roles thread role) := by
  generalize now : roles thread = before at moves
  cases moves with
  | writes => exact counted.same rfl rfl (by rw [now]) (by rw [now]) (by rw [now])
  | pin slot below =>
      refine counted.recount (by rw [now]; rfl) rfl ?_ ?_ ?_ (by omega)
      · intro other holds
        have full := (counted.held other slot holds).1
        omega
      · intro place different
        rw [now]
        exact iff_of_false (fun same => different (Option.some.inj same).symm)
          fun none => by cases none
      · rw [now]
        simp [Role.pin]
  | leave slot | unpin slot object => exact counted.leave (by rw [now]; rfl)
  | lock free =>
      exact counted.relock (.inl free) (by rw [now]; rfl) rfl (by rw [now]; rfl) rfl
        (iff_of_true rfl rfl) (.inr rfl)
  | unlock =>
      have mine := (counted.lock thread).mp (by rw [now]; rfl)
      exact counted.relock (.inr mine) (by rw [now]; rfl) rfl (by rw [now]; rfl) rfl
        (iff_of_false (fun locks => by cases locks) (fun same => by cases same)) (.inl rfl)
  | verify | find | yields | search | skip | refuse | take | build | publish | keep | give
    | clear =>
      exact counted.same rfl rfl (by rw [now]; rfl) (by rw [now]; rfl) (by rw [now]; rfl)
  | claim slot unread => exact counted.seize (by rw [now]; rfl) (by rw [now]; rfl) unread rfl rfl
  | close slot object unread =>
      exact counted.seize (by rw [now]; rfl) (by rw [now]; rfl) unread rfl rfl
  | opens slot => exact counted.opens (by rw [now]; rfl) positive rfl rfl

end Counted

/-! ## Objects -/

/-- What a thread knows in its role. -/
def Placed (table : Table Thread Field) : Role Field → Prop
  | .reading slot object | .found slot object => table.objects slot = object ∧ object ≠ 0
  | .vacant slot | .claimed slot => table.objects slot = 0
  | .building slot object values _ =>
      table.objects slot = 0 ∧ object ≠ 0 ∧ table.taken object = some values ∧
        ∀ other, table.objects other ≠ object
  | .closed slot object =>
      table.objects slot = object ∧ object ≠ 0 ∧ (table.taken object).isSome = true
  | .emptied slot object => table.objects slot = object ∧ object ≠ 0 ∧ table.taken object = none
  | _ => True

/-- Published objects are out of the pool and described by their records. -/
structure Stored (fixed : Field → Prop) (table : Table Thread Field) (roles : Thread → Role Field) :
    Prop where
  /-- A published object is out of the pool, unless the writer has just returned it. -/
  published : ∀ slot, table.objects slot ≠ 0 →
    (table.taken (table.objects slot)).isSome = true ∨
      ∃ thread, roles thread = .emptied slot (table.objects slot)
  distinct : ∀ first second, table.objects first ≠ 0 →
    table.objects first = table.objects second → first = second
  placed : ∀ thread, Placed table (roles thread)
  recorded : ∀ object values, table.taken object = some values → ∀ field, fixed field →
    (∀ thread slot made pending, roles thread = .building slot object made pending →
      ¬pending field) →
    table.words object field = values field

namespace Stored

variable {fixed : Field → Prop} [Fintype Thread] [DecidableEq Thread] {limit : Nat}
  {after : Table Thread Field} (stored : Stored fixed table roles)

include stored

omit [Fintype Thread] in
/-- A step that leaves the published objects and the pool alone. -/
theorem same (objects : after.objects = table.objects) (taken : after.taken = table.taken)
    (kept : KeepsRecords fixed table after.words none) (placed : Placed after role)
    (emptied : ∀ slot object, roles thread = .emptied slot object → role = .emptied slot object)
    (building : ∀ slot object values pending, roles thread = .building slot object values pending →
      role = .building slot object values pending) :
    Stored fixed after (Function.update roles thread role) := by
  refine ⟨?_, ?_, ?_, ?_⟩
  · intro slot nonzero
    rw [objects] at nonzero ⊢
    rw [taken]
    rcases stored.published slot nonzero with out | ⟨writer, gives⟩
    · exact .inl out
    · refine .inr ⟨writer, ?_⟩
      by_cases mine : writer = thread
      · subst mine
        rw [Function.update_self]
        exact emptied slot _ gives
      · rw [Function.update_of_ne mine]
        exact gives
  · rw [objects]
    exact stored.distinct
  · refine update_cases (fun _ now => Placed after now) placed fun other _ => ?_
    have before := stored.placed other
    generalize roles other = theirs at before ⊢
    cases theirs <;> simp only [Placed, objects, taken] at before ⊢ <;> exact before
  · intro object values out field constant complete
    rw [taken] at out
    rw [kept object values out (fun none => by cases none) field constant]
    refine stored.recorded object values out field constant ?_
    intro builder slot made pending builds
    refine complete builder slot made pending ?_
    by_cases mine : builder = thread
    · subst mine
      rw [Function.update_self]
      exact building slot object made pending builds
    · rw [Function.update_of_ne mine]
      exact builds

variable (counted : Counted limit table roles)

include counted

omit [DecidableEq Thread] in
theorem taken_of_writer (writes : (roles thread).locks = true) {slot : Nat}
    (nonzero : table.objects slot ≠ 0)
    (other : roles thread ≠ .emptied slot (table.objects slot)) :
    (table.taken (table.objects slot)).isSome = true := by
  rcases stored.published slot nonzero with out | ⟨writer, gives⟩
  · exact out
  · have same := counted.writer_unique (by rw [gives]; rfl) writes
    rw [same] at gives
    exact (other gives).elim

omit [DecidableEq Thread] stored in
theorem placed_of_reader (writes : (roles thread).locks = true) {other : Thread}
    (different : other ≠ thread) (placed : Placed table (roles other))
    (slots : ∀ slot, (roles other).pin = some slot → after.objects slot = table.objects slot) :
    Placed after (roles other) := by
  have outside : (roles other).locks ≠ true :=
    fun locks => different (counted.writer_unique locks writes)
  generalize roles other = theirs at placed slots outside ⊢
  cases theirs with
  | away | pinned => trivial
  | reading slot object =>
      simp only [Placed] at placed ⊢
      rw [slots slot rfl]
      exact placed
  | _ => exact (outside rfl).elim

theorem take {slot object : Nat} {values : Field → Nat} (claimed : roles thread = .claimed slot)
    (nonzero : object ≠ 0) (pooled : table.taken object = none) :
    Stored fixed { table with taken := Function.update table.taken object (some values) }
      (Function.update roles thread (.building slot object values fixed)) := by
  have writes : (roles thread).locks = true := by
    rw [claimed]
    rfl
  have out : ∀ place, table.objects place ≠ 0 →
      (table.taken (table.objects place)).isSome = true := fun place used =>
    stored.taken_of_writer counted writes used (by rw [claimed]; exact fun same => by cases same)
  have fresh : ∀ place, table.objects place ≠ object := by
    rintro place rfl
    have some := out place nonzero
    rw [pooled] at some
    cases some
  refine ⟨fun place used => .inl ?_, stored.distinct, ?_, ?_⟩
  · simp only [Function.update_of_ne (fresh place)]
    exact out place used
  · refine update_cases (fun _ now => Placed _ now) ?_ fun other different =>
      placed_of_reader counted writes different (stored.placed other) fun _ _ => rfl
    have empty := stored.placed thread
    rw [claimed] at empty
    exact ⟨empty, nonzero, Function.update_self _ _ _, fresh⟩
  · intro other made there field constant complete
    by_cases same : other = object
    · subst same
      exact (complete thread slot values fixed (Function.update_self _ _ _) constant).elim
    · simp only [Function.update_of_ne same] at there
      refine stored.recorded other made there field constant ?_
      intro builder place value pending builds
      have writer := counted.writer_unique (by rw [builds]; rfl) writes
      rw [writer, claimed] at builds
      cases builds

theorem build {slot object : Nat} {values : Field → Nat} {pending later : Field → Prop}
    {words : Nat → Field → Nat} (building : roles thread = .building slot object values pending)
    (kept : KeepsRecords fixed table words (some object))
    (written : ∀ field, fixed field → ¬later field →
      words object field = table.words object field ∧ ¬pending field ∨
        words object field = values field) :
    Stored fixed { table with words := words }
      (Function.update roles thread (.building slot object values later)) := by
  have writes : (roles thread).locks = true := by
    rw [building]
    rfl
  have mine := stored.placed thread
  rw [building] at mine
  refine ⟨fun place used => .inl ?_, stored.distinct, ?_, ?_⟩
  · exact stored.taken_of_writer counted writes used
      (by rw [building]; exact fun same => by cases same)
  · exact update_cases (fun _ now => Placed _ now) mine fun other different =>
      placed_of_reader counted writes different (stored.placed other) fun _ _ => rfl
  · intro other made there field constant complete
    have untouched :
      (∀ builder place value open_, roles builder = .building place other value open_ →
        ¬open_ field) → table.words other field = made field :=
      stored.recorded other made there field constant
    by_cases same : other = object
    · subst same
      have filled := complete thread slot values later (Function.update_self _ _ _)
      obtain rfl := Option.some.inj (there.symm.trans mine.2.2.1)
      rcases written field constant filled with ⟨kept, ready⟩ | fresh
      · refine kept.trans (untouched ?_)
        intro builder place value open_ builds
        have writer := counted.writer_unique (by rw [builds]; rfl) writes
        rw [writer, building] at builds
        cases builds
        exact ready
      · exact fresh
    · refine (kept other made there (fun equal => same (Option.some.inj equal).symm) field
        constant).trans (untouched ?_)
      intro builder place value open_ builds
      have writer := counted.writer_unique (by rw [builds]; rfl) writes
      rw [writer, building] at builds
      cases builds
      exact (same rfl).elim

theorem publish {slot object : Nat} {values : Field → Nat} {pending : Field → Prop}
    (building : roles thread = .building slot object values pending)
    (complete : ∀ field, fixed field → ¬pending field) :
    Stored fixed { table with objects := Function.update table.objects slot object }
      (Function.update roles thread (.opening slot)) := by
  have writes : (roles thread).locks = true := by
    rw [building]
    rfl
  have mine := stored.placed thread
  rw [building] at mine
  obtain ⟨-, nonzero, out, fresh⟩ := mine
  have unread := (counted.held thread slot (by rw [building]; rfl)).2
  refine ⟨fun place used => .inl ?_, ?_, ?_, ?_⟩
  · by_cases here : place = slot
    · subst here
      simp only [Function.update_self, out, Option.isSome_some]
    · simp only [Function.update_of_ne here] at used ⊢
      exact stored.taken_of_writer counted writes used
        (by rw [building]; exact fun same => by cases same)
  · intro first second used same
    by_cases left : first = slot
    · by_cases right : second = slot
      · rw [left, right]
      · simp only [left, Function.update_self, Function.update_of_ne right] at same
        exact (fresh second same.symm).elim
    · by_cases right : second = slot
      · simp only [right, Function.update_self, Function.update_of_ne left] at same
        exact (fresh first same).elim
      · simp only [Function.update_of_ne left, Function.update_of_ne right] at used same
        exact stored.distinct first second used same
  · refine update_cases (fun _ now => Placed _ now) trivial fun other different => ?_
    refine placed_of_reader counted writes different (stored.placed other) fun place counts => ?_
    have elsewhere : place ≠ slot := by
      rintro rfl
      exact unread other counts
    exact Function.update_of_ne elsewhere _ _
  · intro other made there field constant _
    refine stored.recorded other made there field constant ?_
    intro builder place value open_ builds
    have writer := counted.writer_unique (by rw [builds]; rfl) writes
    rw [writer, building] at builds
    cases builds
    exact complete field constant

theorem give {slot object : Nat} (closed : roles thread = .closed slot object) :
    Stored fixed { table with taken := Function.update table.taken object none }
      (Function.update roles thread (.emptied slot object)) := by
  have writes : (roles thread).locks = true := by
    rw [closed]
    rfl
  have mine := stored.placed thread
  rw [closed] at mine
  obtain ⟨here, nonzero, -⟩ := mine
  refine ⟨fun place used => ?_, stored.distinct, ?_, ?_⟩
  · by_cases same : place = slot
    · subst same
      refine .inr ⟨thread, ?_⟩
      rw [Function.update_self]
      simp only [here]
    · have different : table.objects place ≠ object := by
        intro equal
        exact same (stored.distinct place slot used (equal.trans here.symm))
      refine .inl ?_
      simp only [Function.update_of_ne different]
      exact stored.taken_of_writer counted writes used
        (by rw [closed]; exact fun same => by cases same)
  · refine update_cases (fun _ now => Placed _ now) ?_ fun other different =>
      placed_of_reader counted writes different (stored.placed other) fun _ _ => rfl
    exact ⟨here, nonzero, Function.update_self _ _ _⟩
  · intro other made there field constant _
    have different : other ≠ object := by
      rintro rfl
      simp only [Function.update_self, reduceCtorEq] at there
    simp only [Function.update_of_ne different] at there
    refine stored.recorded other made there field constant ?_
    intro builder place value open_ builds
    have writer := counted.writer_unique (by rw [builds]; rfl) writes
    rw [writer, closed] at builds
    cases builds

theorem clear {slot object : Nat} (emptied : roles thread = .emptied slot object) :
    Stored fixed { table with objects := Function.update table.objects slot 0 }
      (Function.update roles thread (.opening slot)) := by
  have writes : (roles thread).locks = true := by
    rw [emptied]
    rfl
  have unread := (counted.held thread slot (by rw [emptied]; rfl)).2
  have elsewhere : ∀ place, Function.update table.objects slot 0 place ≠ 0 →
      place ≠ slot ∧ Function.update table.objects slot 0 place = table.objects place := by
    intro place used
    have different : place ≠ slot := by
      rintro rfl
      rw [Function.update_self] at used
      exact used rfl
    exact ⟨different, Function.update_of_ne different _ _⟩
  refine ⟨fun place used => .inl ?_, ?_, ?_, ?_⟩
  · obtain ⟨different, same⟩ := elsewhere place used
    simp only [same] at used ⊢
    refine stored.taken_of_writer counted writes used ?_
    rw [emptied]
    exact fun equal => different (by cases equal; rfl)
  · intro first second used same
    have usedToo : Function.update table.objects slot 0 second ≠ 0 :=
      fun zero => used (same.trans zero)
    obtain ⟨-, left⟩ := elsewhere first used
    obtain ⟨-, right⟩ := elsewhere second usedToo
    simp only [left, right] at used same
    exact stored.distinct first second used same
  · refine update_cases (fun _ now => Placed _ now) trivial fun other different => ?_
    refine placed_of_reader counted writes different (stored.placed other) fun place counts => ?_
    have apart : place ≠ slot := by
      rintro rfl
      exact unread other counts
    exact Function.update_of_ne apart _ _
  · intro other made there field constant _
    refine stored.recorded other made there field constant ?_
    intro builder place value open_ builds
    have writer := counted.writer_unique (by rw [builds]; rfl) writes
    rw [writer, emptied] at builds
    cases builds

/-- Every move keeps the records of the published objects. -/
theorem moves (moves : Moves fixed limit thread table (roles thread) after role) :
    Stored fixed after (Function.update roles thread role) := by
  have unchanged : KeepsRecords fixed table table.words none := fun _ _ _ _ _ _ => rfl
  have mine := stored.placed thread
  generalize now : roles thread = before at moves mine
  have notEmptied : (∀ slot object, before ≠ .emptied slot object) → ∀ slot object,
      roles thread = .emptied slot object → role = .emptied slot object := by
    intro other slot object same
    exact (other slot object (now.symm.trans same)).elim
  have notBuilding : (∀ slot object values pending, before ≠ .building slot object values pending) →
      ∀ slot object values pending, roles thread = .building slot object values pending →
        role = .building slot object values pending := by
    intro other slot object values pending same
    exact (other slot object values pending (now.symm.trans same)).elim
  cases moves with
  | writes _ words kept =>
      refine stored.same rfl rfl kept ?_ (fun _ _ same => now.symm.trans same)
        fun _ _ _ _ same => now.symm.trans same
      cases role <;> exact mine
  | pin | lock | unlock | yields | skip | refuse | leave | unpin | keep | opens =>
      exact stored.same rfl rfl unchanged trivial (notEmptied (by simp)) (notBuilding (by simp))
  | verify slot object nonzero seen | find slot object nonzero seen =>
      exact stored.same rfl rfl unchanged ⟨seen, nonzero⟩ (notEmptied (by simp))
        (notBuilding (by simp))
  | search slot seen =>
      exact stored.same rfl rfl unchanged seen (notEmptied (by simp)) (notBuilding (by simp))
  | claim slot unread =>
      exact stored.same rfl rfl unchanged mine (notEmptied (by simp)) (notBuilding (by simp))
  | close slot object unread =>
      obtain ⟨rfl, nonzero⟩ := mine
      have out := stored.taken_of_writer counted (by rw [now]; rfl) nonzero
        (by rw [now]; exact fun same => by cases same)
      exact stored.same rfl rfl unchanged ⟨rfl, nonzero, out⟩ (notEmptied (by simp))
        (notBuilding (by simp))
  | take slot object values nonzero pooled => exact stored.take counted now nonzero pooled
  | build slot object values pending later words kept written =>
      exact stored.build counted now kept written
  | publish slot object values pending complete => exact stored.publish counted now complete
  | give slot object => exact stored.give counted now
  | clear slot object => exact stored.clear counted now

omit [DecidableEq Thread] in
/-- The object that a reader saw is out of the pool. -/
theorem taken_of_reading {reader : Thread} {slot object : Nat}
    (reads : roles reader = .reading slot object) : (table.taken object).isSome = true := by
  have placed := stored.placed reader
  rw [reads] at placed
  obtain ⟨rfl, nonzero⟩ := placed
  rcases stored.published slot nonzero with out | ⟨writer, gives⟩
  · exact out
  · have unread := (counted.held writer slot (by rw [gives]; rfl)).2 reader
    exact (unread (by rw [reads]; rfl)).elim

omit [Fintype Thread] [DecidableEq Thread] counted in
/-- A reader finds the fields with which its object was made. -/
theorem recorded_of_reading {reader : Thread} {slot object : Nat}
    (reads : roles reader = .reading slot object) {values : Field → Nat}
    (out : table.taken object = some values) {field : Field} (constant : fixed field) :
    table.words object field = values field := by
  have placed := stored.placed reader
  rw [reads] at placed
  refine stored.recorded object values out field constant ?_
  intro builder place made pending builds
  have unpublished := stored.placed builder
  rw [builds] at unpublished
  exact (unpublished.2.2.2 slot placed.1).elim

omit [DecidableEq Thread] in
/-- The object that a reader saw stays out of the pool. -/
theorem taken_stays {reader : Thread} {slot object : Nat}
    (reads : roles reader = .reading slot object)
    (moves : Moves fixed limit thread table (roles thread) after role) :
    after.taken object = table.taken object := by
  have out := stored.taken_of_reading counted reads
  have placed := stored.placed reader
  rw [reads] at placed
  have mine := stored.placed thread
  generalize now : roles thread = before at moves mine
  cases moves with
  | take place other values nonzero pooled =>
      have different : object ≠ other := by
        rintro rfl
        rw [pooled] at out
        cases out
      exact Function.update_of_ne different ..
  | give place other =>
      have different : object ≠ other := by
        rintro rfl
        have same := stored.distinct place slot (by rw [mine.1]; exact mine.2.1)
          (mine.1.trans placed.1.symm)
        have unread := (counted.held thread place (by rw [now]; rfl)).2 reader
        exact unread (by rw [reads, same]; rfl)
      exact Function.update_of_ne different ..
  | _ => rfl

end Stored

end Cxloom.PinnedSlots
