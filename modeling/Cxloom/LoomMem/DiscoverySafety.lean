import Cxloom.LoomMem.AllocatorLedger
import Cxloom.LoomMem.Discovery
import Cxloom.PinnedSlots

/-!
# Discovery survives reuse

Every step of a lookup or of a call under the extent lock is a move of a reader or of the writer on
a table of counted slots.  A pinned object therefore stays out of the pools with the fields it was
allocated with, however often its address was used before, and `Describe` returns these fields.
-/

namespace Cxloom.LoomMem.Discovery

open PinnedSlots (Role Moves Counted Stored Table KeepsRecords)

variable {Thread : Type} {layout : AllocatorLayout}

/-! ## Roles -/

/-- The fields that `Describe` returns do not change while an object is allocated. -/
def Fixed (field : DescriptorField) : Prop := field ∈ infoFields

instance (field : DescriptorField) : Decidable (Fixed field) :=
  inferInstanceAs (Decidable (_ ∈ _))

theorem lock_not_fixed : ¬Fixed .accessLock := by decide

theorem references_not_fixed (host : HostId) : ¬Fixed (.activeOperations host) := by
  simp [Fixed, infoFields]

/-- The role of a thread that examines a descriptor. -/
def Purpose.role (purpose : Purpose) (object : GlobalPointer) : Role DescriptorField :=
  match purpose with
  | .lookup _ slot => .reading slot object.offset
  | .beginRetire _ _ => .inside
  | .acknowledgeRetirement _ _ _ => .inside
  | .free slot => .closed slot object.offset

/-- The role of a thread. -/
def Phase.role : Phase → Role DescriptorField
  | .idle | .scan _ _ _ | .count _ _ _ | .compare _ _ _ _ => .away
  | .verify _ _ slot | .retreat _ _ slot => .pinned slot
  | .find purpose object _ | .lockObject purpose object => purpose.role object
  | .recheck _ object slot | .copy object slot _ _ _ | .sealed _ object slot
  | .reference _ object slot | .unlockObject object slot _ | .unpin object slot _ =>
      .reading slot object.offset
  | .release _ _ | .restore _ _ | .lockExtents _ => .away
  | .search _ _ => .inside
  | .claim _ slot => .vacant slot
  | .reserve _ slot => .claimed slot
  | .build slot object values rest =>
      .building slot object values fun field => Fixed field ∧ field ∈ rest.map Prod.fst
  | .start _ _ _ | .retire _ | .active _ _ _ | .sealHost _ _ _ | .unlockDescriptor _ _
  | .findSlot _ _ => .inside
  | .close object slot => .found slot object.offset
  | .replicas object slot | .actives object slot _ => .closed slot object.offset
  | .emptyState object slot | .emptyMagic object slot | .clear object slot =>
      .emptied slot object.offset
  | .openSlot slot _ => .opening slot
  | .unlockExtents _ _ => .inside
  | .unlockLate _ _ => .away

/-- The words that the threads share. -/
def table (state : Discovery Thread) : Table Thread DescriptorField where
  objects slot := (state.slots slot).objectOffset
  readers slot := (state.slots slot).readers
  lock := state.extentLock
  words := state.words
  taken := state.taken

def roles (state : Discovery Thread) (thread : Thread) : Role DescriptorField :=
  (state.phases thread).role

/-! ## What a thread knows -/

/-- The stores that are left end with the fields of the object. -/
def Completes (values : DescriptorField → Nat) : List (DescriptorField × Nat) → Prop
  | [] => True
  | (field, value) :: rest =>
      (Fixed field → field ∈ rest.map Prod.fst ∨ value = values field) ∧ Completes values rest

theorem completes_assigned (values : DescriptorField → Nat) (fields : List DescriptorField) :
    Completes values (fields.map fun field => (field, values field)) := by
  induction fields with
  | nil => trivial
  | cons field fields induction => exact ⟨fun _ => .inr rfl, induction⟩

theorem completes_construction (values : DescriptorField → Nat) :
    Completes values (construction values) := by
  have cleared : ∀ fields : List DescriptorField,
      Completes values (fields.map (fun field => (field, 0)) ++
        assignedFields.map fun field => (field, values field)) := by
    intro fields
    induction fields with
    | nil => exact completes_assigned values assignedFields
    | cons field fields induction =>
        have covered : infoFields ⊆ assignedFields := by decide
        rw [List.map_cons, List.cons_append]
        refine ⟨fun constant => .inl ?_, induction⟩
        rw [List.map_append, List.map_map, List.map_map]
        exact List.mem_append_right _ (List.mem_map.mpr ⟨field, covered constant, rfl⟩)
  exact cleared descriptorFields

/-- What `Describe` returns are the fields of one allocation of its object, which was published and
in the state allocated when `Describe` looked. -/
def Genuine : Outcome → Prop
  | .described info sighting =>
      sighting.state = AllocationState.allocated.code ∧ sighting.published = info.gptr.offset ∧
        ∃ values, sighting.allocation = some values ∧ info = infoOf info.gptr values
  | _ => True

/-- What a thread knows about the objects that are out of the pools and about the retirement. -/
def Phase.Sane (taken : Nat → Option (DescriptorField → Nat)) (control : RetirementControl) :
    Phase → Prop
  | .scan _ object _ | .count _ object _ | .compare _ object _ _ | .verify _ object _
  | .retreat _ object _ => object.offset ≠ 0
  | .find (.beginRetire _ _) object rest => .range ∈ rest ∨ object.offset ≠ 0
  | .find (.acknowledgeRetirement _ _ _) _ _ | .lockObject (.acknowledgeRetirement _ _ _) _
  | .active _ _ _ | .sealHost _ _ _ => control.current.phase ≠ .idle
  | .start _ object _ | .findSlot object _ => object.offset ≠ 0
  | .copy object _ sighting rest copied =>
      sighting.state = AllocationState.allocated.code ∧ sighting.published = object.offset ∧
        ∃ values, taken object.offset = some values ∧ sighting.allocation = some values ∧
          ∀ field ∈ infoFields, field ∉ rest → copied field = values field
  | .build _ _ values rest => Completes values rest
  | .unlockObject _ _ outcome | .unpin _ _ outcome | .unlockDescriptor _ outcome
  | .openSlot _ outcome | .unlockExtents _ outcome | .unlockLate _ outcome => Genuine outcome
  | _ => True

/-- A running retirement is about an object. -/
def Addressed (control : RetirementControl) : Prop :=
  control.current.phase ≠ .idle → control.current.object.offset ≠ 0

section Knowledge

variable {taken taken' : Nat → Option (DescriptorField → Nat)}
  {control control' : RetirementControl}
  {phase : Phase}

/-- What a thread knows stays true while its object stays out of the pools, and while the retirement
stays as it is or the thread has no lock. -/
theorem Phase.Sane.stays (sane : phase.Sane taken control)
    (pinned : ∀ slot object, phase.role = .reading slot object → taken' object = taken object)
    (locked : phase.role.locks = true → control' = control) : phase.Sane taken' control' := by
  cases phase with
  | find purpose object rest | lockObject purpose object =>
      cases purpose with
      | acknowledgeRetirement snapshot host cursors =>
          rw [locked rfl]
          exact sane
      | _ => exact sane
  | active snapshot host cursors | sealHost snapshot host cursors =>
      rw [locked rfl]
      exact sane
  | copy object slot sighting rest copied =>
      obtain ⟨allocated, published, values, out, seen, fields⟩ := sane
      exact ⟨allocated, published, values, (pinned slot object.offset rfl).trans out, seen, fields⟩
  | _ => exact sane

theorem Phase.Sane.found {purpose : Purpose} {object : GlobalPointer} {check : Check}
    (sane : (Phase.find purpose object [check]).Sane taken control)
    (addressed : check = .range → object.offset ≠ 0) :
    (purpose.found object).Sane taken control := by
  cases purpose with
  | beginRetire host hostCount =>
      rcases sane with last | nonzero
      · exact addressed (List.mem_singleton.mp last).symm
      · exact nonzero
  | acknowledgeRetirement snapshot host cursors => exact sane
  | _ => trivial

theorem Phase.Sane.tail {purpose : Purpose} {object : GlobalPointer} {check : Check}
    {rest : List Check} (sane : (Phase.find purpose object (check :: rest)).Sane taken control)
    (addressed : check = .range → object.offset ≠ 0) :
    (Phase.find purpose object rest).Sane taken control := by
  cases purpose with
  | beginRetire host hostCount =>
      rcases sane with ahead | nonzero
      · rcases List.mem_cons.mp ahead with now | later
        · exact .inr (addressed now.symm)
        · exact .inl later
      · exact .inr nonzero
  | acknowledgeRetirement snapshot host cursors => exact sane
  | _ => trivial

theorem Phase.Sane.locked {purpose : Purpose} {object : GlobalPointer}
    (sane : (Phase.lockObject purpose object).Sane taken control) :
    (purpose.locked object).Sane taken control := by
  cases purpose with
  | acknowledgeRetirement snapshot host cursors => exact sane
  | _ => trivial

theorem rejected_sane (purpose : Purpose) (object : GlobalPointer) (status : Status) :
    (purpose.rejected object status).Sane taken control := by
  cases purpose <;> trivial

/-- The result of `Describe` depends on the fields it names only. -/
theorem infoOf_congr (object : GlobalPointer) {fields fields' : DescriptorField → Nat}
    (agree : ∀ field ∈ infoFields, fields field = fields' field) :
    infoOf object fields = infoOf object fields' := by
  simp only [infoOf, agree .bytes (by decide), agree .alignment (by decide),
    agree .ownerHost (by decide), agree .coherenceBlockBytes (by decide),
    agree .coherenceBlockCount (by decide), agree .coherenceMetadataOffset (by decide)]

/-- What a call knows that has just taken the extent lock. -/
theorem entered_sane (addressed : Addressed control) (change : Change) :
    (entered control change).1.Sane taken (entered control change).2 := by
  cases change with
  | allocate request => trivial
  | beginRetire host object hostCount =>
      simp only [entered, enterBeginRetire]
      split
      · split
        · trivial
        · trivial
      · exact .inl (by decide)
  | acknowledgeRetirement snapshot host cursors =>
      simp only [entered]
      split
      · trivial
      · rename_i current
        split
        · rename_i closing
          have phase : control.current.phase = snapshot.phase := by
            by_contra other
            exact current (.inr (.inl other))
          show control.current.phase ≠ .idle
          rw [phase, closing]
          exact fun same => by cases same
        · simp only [acknowledgeControl]
          split
          · split
            · trivial
            · trivial
          · trivial
          · trivial
  | free host object =>
      simp only [entered]
      split
      · trivial
      · rename_i reclaimable
        simp only [ne_eq, not_or, not_not] at reclaimable
        have nonzero := addressed (by rw [reclaimable.1]; exact fun same => by cases same)
        rw [reclaimable.2.1] at nonzero
        exact nonzero

theorem entered_addressed (addressed : Addressed control) (change : Change) :
    Addressed (entered control change).2 := by
  cases change with
  | allocate request | beginRetire host object hostCount => exact addressed
  | acknowledgeRetirement snapshot host cursors =>
      simp only [entered]
      split
      · exact addressed
      · rename_i current
        have phase : control.current.phase = snapshot.phase := by
          by_contra other
          exact current (.inr (.inl other))
        split
        · exact addressed
        · simp only [acknowledgeControl]
          split
          · rename_i draining
            have nonzero := addressed (by rw [phase, draining]; exact fun same => by cases same)
            split
            · exact addressed
            · intro _
              simp only
              split
              · exact nonzero
              · exact nonzero
          · rename_i cleaning
            have nonzero := addressed (by rw [phase, cleaning]; exact fun same => by cases same)
            intro _
            simp only
            split
            · exact nonzero
            · exact nonzero
          · exact addressed
  | free host object =>
      simp only [entered]
      split
      · exact addressed
      · exact addressed

theorem acknowledgeClosing_addressed (addressed : Addressed control)
    (running : control.current.phase ≠ .idle) (snapshot : RetirementSnapshot) (host : HostId)
    (cursors : HostId → Nat) : Addressed (acknowledgeClosing control snapshot host cursors) := by
  have nonzero := addressed running
  intro _
  simp only [acknowledgeClosing]
  split
  · exact nonzero
  · exact nonzero

end Knowledge

/-! ## Steps are moves -/

/-- A step is a move of one thread, after which the thread knows what its next access relies on. -/
structure Moved (thread : Thread) (state after : Discovery Thread) : Prop where
  /-- The move. -/
  moves : Moves Fixed kUint32Max thread state.table (state.roles thread) after.table
    (after.roles thread)
  others : ∀ other, other ≠ thread → after.phases other = state.phases other
  sane : (after.phases thread).Sane after.taken after.retirement
  returned : ∀ entry ∈ after.returned, entry ∈ state.returned ∨ Genuine entry.2
  /-- The retirement changes under the extent lock only, and is about an object while it runs. -/
  control : after.retirement = state.retirement ∨
    Addressed after.retirement ∧ (state.extentLock = none ∨ (state.roles thread).locks = true)

/-- What an access leaves alone before its thread goes on. -/
structure Kept (phase : Phase) (state middle : Discovery Thread) : Prop where
  /-- No thread has moved. -/
  phases : middle.phases = state.phases
  returned : middle.returned = state.returned
  /-- The retirement changes under the extent lock only, and is about an object while it runs. -/
  control : middle.retirement = state.retirement ∨
    Addressed middle.retirement ∧ (state.extentLock = none ∨ phase.role.locks = true)

section Moves

variable {state middle : Discovery Thread} {thread : Thread}
  {phase later : Phase} {choice : Choice} {after : Discovery Thread}

theorem quiet (thread : Thread) (table : Table Thread DescriptorField)
    (role : Role DescriptorField) : Moves Fixed kUint32Max thread table role table role :=
  .writes role table.words fun _ _ _ _ _ _ => rfl

/-- Stores into what no reader depends on. -/
theorem keeps_store (state : Discovery Thread) {object : Nat} {field : DescriptorField}
    (value : Nat) (free : ¬Fixed field ∨ state.taken object = none) :
    KeepsRecords Fixed state.table (state.store object field value).words none := by
  intro other values out _ constant fixed
  by_cases here : other = object
  · subst here
    rcases free with changes | pooled
    · have different : constant ≠ field := by
        rintro rfl
        exact changes fixed
      simp only [store, Function.update_self, Function.update_of_ne different]
      rfl
    · have out : state.taken other = some values := out
      rw [pooled] at out
      cases out
  · simp only [store, Function.update_of_ne here]
    rfl

theorem stores (thread : Thread) (role : Role DescriptorField) {object : Nat}
    {field : DescriptorField} (value : Nat) (changes : ¬Fixed field) :
    Moves Fixed kUint32Max thread state.table role (state.store object field value).table role :=
  .writes role _ (keeps_store state value (.inl changes))

theorem storeReaders_table (state : Discovery Thread) (slot readers : Nat) :
    (state.storeReaders slot readers).table =
      { state.table with readers := Function.update state.table.readers slot readers } := by
  have objects : (state.storeReaders slot readers).table.objects = state.table.objects := by
    funext place
    by_cases here : place = slot
    · subst here
      simp [table, storeReaders]
    · simp [table, storeReaders, here]
  have counts : (state.storeReaders slot readers).table.readers =
      Function.update state.table.readers slot readers := by
    funext place
    by_cases here : place = slot
    · subst here
      simp [table, storeReaders]
    · simp [table, storeReaders, here]
  have split : (state.storeReaders slot readers).table =
      ⟨(state.storeReaders slot readers).table.objects,
        (state.storeReaders slot readers).table.readers, state.extentLock, state.words,
        state.taken⟩ := rfl
  rw [split, objects, counts]
  rfl

theorem storeObject_table (state : Discovery Thread) (slot object : Nat) :
    (state.storeObject slot object).table =
      { state.table with objects := Function.update state.table.objects slot object } := by
  have objects : (state.storeObject slot object).table.objects =
      Function.update state.table.objects slot object := by
    funext place
    by_cases here : place = slot
    · subst here
      simp [table, storeObject]
    · simp [table, storeObject, here]
  have counts : (state.storeObject slot object).table.readers = state.table.readers := by
    funext place
    by_cases here : place = slot
    · subst here
      simp [table, storeObject]
    · simp [table, storeObject, here]
  have split : (state.storeObject slot object).table =
      ⟨(state.storeObject slot object).table.objects,
        (state.storeObject slot object).table.readers, state.extentLock, state.words,
        state.taken⟩ := rfl
  rw [split, objects, counts]
  rfl

/-- A store through a pointer of a live object, or beside what readers depend on. -/
theorem keeps_storeAt (state : Discovery Thread) {object : Nat} {field : DescriptorField}
    (value : Nat) (strayed : Nat → DescriptorField → Nat) (changes : ¬Fixed field)
    (spared : ¬state.Hits object field) :
    KeepsRecords Fixed state.table (state.storeAt object field value strayed).words none := by
  cases live : state.taken object with
  | some values =>
      have same : (state.storeAt object field value strayed).words =
          (state.store object field value).words := by simp [storeAt, live]
      rw [same]
      exact keeps_store state value (.inl changes)
  | none =>
      intro other values out _ constant fixed
      have out : state.taken other = some values := out
      have apart : other ≠ object := by
        rintro rfl
        rw [live] at out
        cases out
      have beside : ¬Overlaps object field other constant :=
        fun shares => spared ⟨live, other, constant, by simp [out], fixed, shares⟩
      simp only [storeAt, live, Option.isSome_none, Bool.false_eq_true, if_false, apart, false_and,
        beside]
      rfl

theorem not_hits {object : Nat} (field : DescriptorField)
    (live : (state.taken object).isSome = true) : ¬state.Hits object field := by
  rintro ⟨pooled, -⟩
  rw [pooled] at live
  cases live

theorem storesAt (thread : Thread) (role : Role DescriptorField) {object : Nat}
    {field : DescriptorField} (value : Nat) (strayed : Nat → DescriptorField → Nat)
    (changes : ¬Fixed field) (spared : ¬state.Hits object field) :
    Moves Fixed kUint32Max thread state.table role
      (state.storeAt object field value strayed).table role :=
  .writes role _ (keeps_storeAt state value strayed changes spared)

variable [DecidableEq Thread]

/-- A step after which the thread goes on. -/
theorem moved_goto (now : state.phases thread = phase) (kept : Kept phase state middle)
    (moves : Moves Fixed kUint32Max thread state.table phase.role middle.table later.role)
    (sane : later.Sane middle.taken middle.retirement) :
    Moved thread state (middle.goto thread later) := by
  have before : state.roles thread = phase.role := congrArg Phase.role now
  have goes : (middle.goto thread later).phases thread = later := Function.update_self ..
  have behind : (middle.goto thread later).roles thread = later.role := congrArg Phase.role goes
  refine ⟨?_, fun other different => ?_, ?_, fun entry member => .inl ?_, ?_⟩
  · rw [before, behind]
    exact moves
  · exact (Function.update_of_ne different ..).trans (congrFun kept.phases other)
  · rw [goes]
    exact sane
  · rw [← kept.returned]
    exact member
  · rw [before]
    exact kept.control

/-- A step after which the thread has returned. -/
theorem moved_finish {outcome : Outcome} (now : state.phases thread = phase)
    (kept : Kept phase state middle)
    (moves : Moves Fixed kUint32Max thread state.table phase.role middle.table .away)
    (genuine : Genuine outcome) : Moved thread state (middle.finish thread outcome) := by
  have idle : Moved thread state (middle.goto thread .idle) := moved_goto now kept moves trivial
  refine ⟨idle.moves, idle.others, idle.sane, fun entry member => ?_, idle.control⟩
  rcases List.mem_append.mp member with earlier | last
  · rw [kept.returned] at earlier
    exact .inl earlier
  · rw [List.mem_singleton.mp last]
    exact .inr genuine

/-- A step that only moves on. -/
theorem moved_quiet (now : state.phases thread = phase) (role : later.role = phase.role)
    (sane : later.Sane state.taken state.retirement) :
    Moved thread state (state.goto thread later) := by
  refine moved_goto now ⟨rfl, rfl, .inl rfl⟩ ?_ sane
  rw [role]
  exact quiet thread state.table phase.role

/-- A step that stores into what no reader depends on. -/
theorem moved_store {object value : Nat} {field : DescriptorField}
    (now : state.phases thread = phase) (role : later.role = phase.role) (changes : ¬Fixed field)
    (sane : later.Sane state.taken state.retirement) :
    Moved thread state ((state.store object field value).goto thread later) := by
  refine moved_goto now ⟨rfl, rfl, .inl rfl⟩ ?_ sane
  rw [role]
  exact stores thread phase.role value changes

/-- A step that stores through a pointer of its call. -/
theorem moved_storeAt {object value : Nat} {field : DescriptorField}
    {strayed : Nat → DescriptorField → Nat} (now : state.phases thread = phase)
    (role : later.role = phase.role) (changes : ¬Fixed field) (spared : ¬state.Hits object field)
    (sane : later.Sane state.taken state.retirement) :
    Moved thread state ((state.storeAt object field value strayed).goto thread later) := by
  refine moved_goto now ⟨rfl, rfl, .inl rfl⟩ ?_ sane
  rw [role]
  exact storesAt thread phase.role value strayed changes spared

omit [DecidableEq Thread] in
/-- A step that waits. -/
theorem moved_refl (now : state.phases thread = phase)
    (sane : phase.Sane state.taken state.retirement) :
    Moved thread state state := by
  rw [← now] at sane
  exact ⟨quiet thread state.table _, fun _ _ => rfl, sane, fun _ member => .inl member, .inl rfl⟩

theorem found_role (purpose : Purpose) (object : GlobalPointer) :
    (purpose.found object).role = purpose.role object := by
  cases purpose <;> rfl

theorem locked_role (purpose : Purpose) (object : GlobalPointer) :
    (purpose.locked object).role = purpose.role object := by
  cases purpose <;> rfl

omit [DecidableEq Thread] in
theorem rejected_moves (thread : Thread) (table : Table Thread DescriptorField) (purpose : Purpose)
    (object : GlobalPointer) (status : Status) :
    Moves Fixed kUint32Max thread table (purpose.role object) table
      (purpose.rejected object status).role := by
  cases purpose with
  | lookup call slot => exact quiet thread table _
  | beginRetire host hostCount
  | acknowledgeRetirement snapshot host cursors => exact quiet thread table _
  | free slot => exact .keep slot object.offset

theorem offset_ne_zero {object : GlobalPointer} (formatted : layout.Formatted)
    (inside : InRange layout object) : object.offset ≠ 0 := by
  have low : add64 layout.sharedDataOffset sizeofAllocationDescriptor ≤ object.offset := by
    by_contra below
    exact inside (.inr (.inl (Nat.lt_of_not_le below)))
  have data := layout.data_le
  have word := layout.region_lt
  have room := formatted.data
  rw [add64_of_lt (by omega)] at low
  have positive : 0 < sizeofAllocationDescriptor := by decide
  omega

theorem decrement32_eq {readers : Nat} (positive : 0 < readers) (below : readers < kUint32Max) :
    decrement32 readers = readers - 1 := by
  simp only [decrement32, kUint32Max] at below ⊢
  omega

variable [Fintype Thread]

omit [DecidableEq Thread] in
theorem readers_of_pin (counted : Counted kUint32Max state.table state.roles) {slot : Nat}
    (pins : (state.roles thread).pin = some slot) :
    decrement32 (state.slots slot).readers = (state.slots slot).readers - 1 := by
  obtain ⟨count, below⟩ := counted.counted slot (counted.unheld_of_pin pins)
  have positive := PinnedSlots.pins_pos pins
  rw [← count] at positive
  exact decrement32_eq positive below

omit [DecidableEq Thread] in
/-- Counts fit their words. -/
theorem readers_le (counted : Counted kUint32Max state.table state.roles) (slot : Nat) :
    (state.slots slot).readers ≤ kUint32Max := by
  by_cases held : ∃ holder, (state.roles holder).hold = some slot
  · obtain ⟨holder, holds⟩ := held
    exact Nat.le_of_eq (counted.held holder slot holds).1
  · have free := counted.counted slot fun holder holds => held ⟨holder, holds⟩
    exact Nat.le_of_lt free.2

omit [DecidableEq Thread] in
theorem pinned_spared (counted : Counted kUint32Max state.table state.roles)
    (stored : Stored Fixed state.table state.roles) (now : state.phases thread = phase)
    {slot object : Nat} (reading : phase.role = .reading slot object) (field : DescriptorField) :
    ¬state.Hits object field :=
  not_hits field (stored.taken_of_reading counted ((congrArg Phase.role now).trans reading))

theorem advanceFind_moved (formatted : layout.Formatted)
    (counted : Counted kUint32Max state.table state.roles)
    (stored : Stored Fixed state.table state.roles)
    (sane : phase.Sane state.taken state.retirement) (now : state.phases thread = phase)
    (spares : ∀ object field, state.unpinnedStore phase = some (object, field) →
      ¬state.Hits object field)
    (performed : advanceFind layout state thread choice phase = some after) :
    Moved thread state after := by
  cases phase with
  | find purpose object rest =>
      cases rest with
      | nil => cases performed
      | cons check rest =>
          simp only [advanceFind] at performed
          split at performed
          · rename_i passes
            obtain rfl := Option.some.inj performed
            have addressed : check = .range → object.offset ≠ 0 := by
              rintro rfl
              exact offset_ne_zero formatted (of_decide_eq_true passes)
            split
            · rename_i last
              rw [last] at sane
              exact moved_quiet now (found_role purpose object) (sane.found addressed)
            · exact moved_quiet now rfl (sane.tail addressed)
          · obtain rfl := Option.some.inj performed
            exact moved_goto now ⟨rfl, rfl, .inl rfl⟩
              (rejected_moves thread state.table purpose object _) (rejected_sane purpose object _)
  | lockObject purpose object =>
      simp only [advanceFind] at performed
      split at performed
      · rename_i free
        obtain rfl := Option.some.inj performed
        refine moved_storeAt now (locked_role purpose object) lock_not_fixed ?_ sane.locked
        cases purpose with
        | lookup call slot => exact pinned_spared counted stored now rfl .accessLock
        | _ => exact spares object.offset .accessLock (if_pos free.1)
      · obtain rfl := Option.some.inj performed
        exact moved_refl now sane
  | _ => cases performed

omit [DecidableEq Thread] in
/-- What `Describe` knows when it has seen that its object is allocated. -/
theorem rechecked_sane (counted : Counted kUint32Max state.table state.roles)
    (stored : Stored Fixed state.table state.roles) {call : Lookup} {object : GlobalPointer}
    {slot : Nat} (now : state.phases thread = .recheck call object slot) :
    (rechecked state call object slot).Sane state.taken state.retirement := by
  have reads : state.roles thread = .reading slot object.offset := congrArg Phase.role now
  have out : (state.taken object.offset).isSome = true := stored.taken_of_reading counted reads
  have placed := stored.placed thread
  rw [reads] at placed
  unfold rechecked
  cases call with
  | describe =>
      simp only
      split
      · rename_i allocated
        obtain ⟨values, made⟩ := Option.isSome_iff_exists.mp out
        exact ⟨allocated, placed.1, values, made, made, fun field member none => (none member).elim⟩
      · trivial
  | acquireReference host allowRetiring =>
      simp only
      split
      · trivial
      · trivial

omit [Fintype Thread] [DecidableEq Thread] in
/-- `Describe` copies the fields with which its object was allocated. -/
theorem copied_sane (stored : Stored Fixed state.table state.roles) {object : GlobalPointer}
    {slot : Nat} {sighting : Sighting} {field : DescriptorField} {rest : List DescriptorField}
    {copied : DescriptorField → Nat} (now : state.phases thread =
      .copy object slot sighting (field :: rest) copied)
    (sane : (Phase.copy object slot sighting (field :: rest) copied).Sane state.taken
      state.retirement) :
    (Phase.copy object slot sighting rest
      (Function.update copied field (state.words object.offset field))).Sane state.taken
        state.retirement := by
  have reads : state.roles thread = .reading slot object.offset := congrArg Phase.role now
  obtain ⟨allocated, published, values, out, seen, fields⟩ := sane
  refine ⟨allocated, published, values, out, seen, fun other member copiedNow => ?_⟩
  by_cases same : other = field
  · subst same
    rw [Function.update_self]
    exact stored.recorded_of_reading reads out member
  · rw [Function.update_of_ne same]
    refine fields other member fun listed => ?_
    rcases List.mem_cons.mp listed with now | later
    · exact same now
    · exact copiedNow later

theorem advanceLookup_moved (counted : Counted kUint32Max state.table state.roles)
    (stored : Stored Fixed state.table state.roles)
    (sane : phase.Sane state.taken state.retirement) (now : state.phases thread = phase)
    (spares : ∀ object field, state.unpinnedStore phase = some (object, field) →
      ¬state.Hits object field)
    (performed : advanceLookup layout state thread choice phase = some after) :
    Moved thread state after := by
  have here : state.roles thread = phase.role := congrArg Phase.role now
  cases phase with
  | scan call object slot =>
      simp only [advanceLookup] at performed
      split at performed
      · obtain rfl := Option.some.inj performed
        exact moved_finish now ⟨rfl, rfl, .inl rfl⟩ (quiet thread state.table .away) trivial
      · split at performed
        · obtain rfl := Option.some.inj performed
          exact moved_quiet now rfl sane
        · obtain rfl := Option.some.inj performed
          exact moved_quiet now rfl sane
  | count call object slot =>
      obtain rfl := Option.some.inj performed
      exact moved_quiet now rfl sane
  | compare call object slot readers =>
      simp only [advanceLookup] at performed
      split at performed
      · obtain rfl := Option.some.inj performed
        exact moved_quiet now rfl sane
      · rename_i open_
        split at performed
        · rename_i same
          obtain rfl := Option.some.inj performed
          refine moved_goto now ⟨rfl, rfl, .inl rfl⟩ ?_ sane
          have bound := readers_le counted slot
          rw [same.1] at bound
          rw [storeReaders_table, ← same.1]
          refine .pin slot ?_
          rw [not_or] at open_
          simp only [table, same.1]
          simp only [kUint32Max] at bound open_ ⊢
          omega
        · obtain rfl := Option.some.inj performed
          exact moved_quiet now rfl sane
  | verify call object slot =>
      simp only [advanceLookup] at performed
      split at performed
      · rename_i seen
        obtain rfl := Option.some.inj performed
        exact moved_goto now ⟨rfl, rfl, .inl rfl⟩ (.verify slot object.offset sane seen) trivial
      · obtain rfl := Option.some.inj performed
        exact moved_quiet now rfl sane
  | retreat call object slot =>
      obtain rfl := Option.some.inj performed
      refine moved_goto now ⟨rfl, rfl, .inl rfl⟩ ?_ sane
      rw [storeReaders_table, readers_of_pin counted (by rw [here]; rfl)]
      exact .leave slot
  | recheck call object slot =>
      obtain rfl := Option.some.inj performed
      refine moved_quiet now ?_ (rechecked_sane counted stored now)
      unfold rechecked
      cases call with
      | describe | acquireReference host allowRetiring =>
          simp only
          split
          · rfl
          · rfl
  | copy object slot sighting rest copied =>
      cases rest with
      | nil =>
          obtain rfl := Option.some.inj performed
          obtain ⟨allocated, published, values, -, seen, fields⟩ := sane
          exact moved_storeAt now rfl lock_not_fixed (pinned_spared counted stored now rfl _)
            ⟨allocated, published, values, seen,
              infoOf_congr object fun field member => fields field member List.not_mem_nil⟩
      | cons field rest =>
          obtain rfl := Option.some.inj performed
          exact moved_quiet now rfl (copied_sane stored now sane)
  | sealed host object slot =>
      simp only [advanceLookup] at performed
      split at performed
      · obtain rfl := Option.some.inj performed
        exact moved_quiet now rfl trivial
      · obtain rfl := Option.some.inj performed
        exact moved_quiet now rfl trivial
  | reference host object slot =>
      obtain rfl := Option.some.inj performed
      exact moved_storeAt now rfl (references_not_fixed host)
        (pinned_spared counted stored now rfl _) trivial
  | unlockObject object slot outcome =>
      obtain rfl := Option.some.inj performed
      exact moved_storeAt now rfl lock_not_fixed (pinned_spared counted stored now rfl _) sane
  | unpin object slot outcome =>
      obtain rfl := Option.some.inj performed
      refine moved_finish now ⟨rfl, rfl, .inl rfl⟩ ?_ sane
      rw [storeReaders_table, readers_of_pin counted (by rw [here]; rfl)]
      exact .unpin slot object.offset
  | release object host =>
      simp only [advanceLookup] at performed
      split at performed
      · obtain rfl := Option.some.inj performed
        exact moved_storeAt now rfl (references_not_fixed host) (spares _ _ rfl) trivial
      · obtain rfl := Option.some.inj performed
        exact moved_finish now ⟨rfl, rfl, .inl rfl⟩
          (storesAt thread .away _ _ (references_not_fixed host) (spares _ _ rfl)) trivial
  | restore object host =>
      obtain rfl := Option.some.inj performed
      exact moved_finish now ⟨rfl, rfl, .inl rfl⟩
        (storesAt thread .away _ _ (references_not_fixed host) (spares _ _ rfl)) trivial
  | _ => cases performed

omit [Fintype Thread] in
/-- A call that has taken the extent lock and found no object is inside. -/
theorem entered_role (control : RetirementControl) (change : Change) :
    (entered control change).1.role = .inside := by
  cases change with
  | allocate request => rfl
  | beginRetire host object hostCount =>
      simp only [entered, enterBeginRetire]
      split
      · split
        · rfl
        · rfl
      · rfl
  | acknowledgeRetirement snapshot host cursors =>
      simp only [entered]
      split
      · rfl
      · split
        · rfl
        · rfl
  | free host object =>
      simp only [entered]
      split
      · rfl
      · rfl

omit [Fintype Thread] [DecidableEq Thread] in
/-- The next store of a new descriptor. -/
theorem build_moves (thread : Thread) {slot object value : Nat} {field : DescriptorField}
    {values : DescriptorField → Nat} {rest : List (DescriptorField × Nat)}
    (completes : Completes values ((field, value) :: rest)) :
    Moves Fixed kUint32Max thread state.table
      (Phase.build slot object values ((field, value) :: rest)).role
      (state.store object field value).table (Phase.build slot object values rest).role := by
  refine .build slot object values _ _ _ ?_ ?_
  · intro other made out different constant _
    have apart : other ≠ object := fun same => different (by rw [same])
    simp only [store, Function.update_of_ne apart]
    rfl
  · intro constant fixed filled
    have stored : constant ∉ rest.map Prod.fst := fun member => filled ⟨fixed, member⟩
    by_cases same : constant = field
    · subst same
      refine .inr ?_
      rw [← (completes.1 fixed).resolve_left stored]
      simp [store]
    · refine .inl ⟨?_, ?_⟩
      · simp only [store, Function.update_self, Function.update_of_ne same]
        rfl
      · rintro ⟨-, member⟩
        rcases List.mem_cons.mp member with now | later
        · exact same now
        · exact stored later

omit [Fintype Thread] in
theorem lockExtents_moved (addressed : Addressed state.retirement) {change : Change}
    (now : state.phases thread = .lockExtents change)
    (performed : advanceChange layout state thread choice (.lockExtents change) = some after) :
    Moved thread state after := by
  simp only [advanceChange] at performed
  split at performed
  · obtain rfl := Option.some.inj performed
    exact moved_refl now trivial
  · rename_i free
    obtain rfl := Option.some.inj performed
    rw [not_or, Option.not_isSome_iff_eq_none] at free
    refine moved_goto now ⟨rfl, rfl, .inr ⟨entered_addressed addressed change, .inl free.1⟩⟩ ?_
      (entered_sane addressed change)
    rw [entered_role]
    exact .lock free.1

omit [Fintype Thread] in
/-- `Allocate` looks for an empty slot and claims it. -/
theorem search_moved {request : Request} {slot : Nat}
    (now : state.phases thread = .search request slot)
    (performed : advanceChange layout state thread choice (.search request slot) = some after) :
    Moved thread state after := by
  simp only [advanceChange] at performed
  split at performed
  · obtain rfl := Option.some.inj performed
    exact moved_quiet now rfl trivial
  · split at performed
    · rename_i empty
      obtain rfl := Option.some.inj performed
      exact moved_goto now ⟨rfl, rfl, .inl rfl⟩ (.search slot empty) trivial
    · obtain rfl := Option.some.inj performed
      exact moved_quiet now rfl trivial

omit [Fintype Thread] in
theorem claim_moved {request : Request} {slot : Nat}
    (now : state.phases thread = .claim request slot)
    (performed : advanceChange layout state thread choice (.claim request slot) = some after) :
    Moved thread state after := by
  simp only [advanceChange] at performed
  split at performed
  · rename_i unread
    obtain rfl := Option.some.inj performed
    refine moved_goto now ⟨rfl, rfl, .inl rfl⟩ ?_ trivial
    rw [storeReaders_table]
    exact .claim slot unread
  · obtain rfl := Option.some.inj performed
    exact moved_goto now ⟨rfl, rfl, .inl rfl⟩ (.skip slot) trivial

omit [Fintype Thread] [DecidableEq Thread] in
/-- No field of a new descriptor is stored yet. -/
theorem construction_role (slot object : Nat) (values : DescriptorField → Nat) :
    (Phase.build slot object values (construction values)).role =
      .building slot object values Fixed := by
  have all : infoFields ⊆ (construction values).map Prod.fst := by
    have covered : infoFields ⊆ assignedFields := by decide
    intro field member
    rw [construction, List.map_append, List.map_map, List.map_map]
    exact List.mem_append_right _ (List.mem_map.mpr ⟨field, covered member, rfl⟩)
  simp only [Phase.role]
  congr 1
  funext field
  exact propext ⟨fun both => both.1, fun fixed => ⟨fixed, all fixed⟩⟩

omit [Fintype Thread] in
/-- `Allocate` takes both extents. -/
theorem reserve_moved {request : Request} {slot : Nat}
    (now : state.phases thread = .reserve request slot)
    (performed : advanceChange layout state thread choice (.reserve request slot) = some after) :
    Moved thread state after := by
  simp only [advanceChange] at performed
  split at performed
  · obtain rfl := Option.some.inj performed
    exact moved_goto now ⟨rfl, rfl, .inl rfl⟩ (.refuse slot) trivial
  · rename_i placement placed
    split at performed
    · rename_i free
      obtain rfl := Option.some.inj performed
      refine moved_goto now ⟨rfl, rfl, .inl rfl⟩ ?_ (completes_construction _)
      rw [construction_role]
      exact .take slot _ _ free.1 (Option.isNone_iff_eq_none.mp free.2)
    · cases performed

omit [Fintype Thread] in
/-- `BeginRetire` starts its transaction. -/
theorem start_moved {host : HostId} {object : GlobalPointer} {hostCount : Nat}
    (nonzero : object.offset ≠ 0) (now : state.phases thread = .start host object hostCount)
    (performed : advanceChange layout state thread choice (.start host object hostCount) =
      some after) : Moved thread state after := by
  simp only [advanceChange] at performed
  split at performed
  · obtain rfl := Option.some.inj performed
    exact moved_quiet now rfl trivial
  · split at performed
    · obtain rfl := Option.some.inj performed
      exact moved_quiet now rfl trivial
    · obtain rfl := Option.some.inj performed
      exact moved_goto now ⟨rfl, rfl, .inr ⟨fun _ => nonzero, .inr rfl⟩⟩
        (quiet thread state.table .inside) trivial

omit [Fintype Thread] in
/-- `Free` looks for the slot of its object. -/
theorem findSlot_moved {object : GlobalPointer} {slot : Nat} (nonzero : object.offset ≠ 0)
    (now : state.phases thread = .findSlot object slot)
    (performed : advanceChange layout state thread choice (.findSlot object slot) = some after) :
    Moved thread state after := by
  simp only [advanceChange] at performed
  split at performed
  · obtain rfl := Option.some.inj performed
    exact moved_quiet now rfl trivial
  · split at performed
    · rename_i seen
      obtain rfl := Option.some.inj performed
      exact moved_goto now ⟨rfl, rfl, .inl rfl⟩ (.find slot object.offset nonzero seen) trivial
    · obtain rfl := Option.some.inj performed
      exact moved_quiet now rfl nonzero

omit [Fintype Thread] in
theorem close_moved {object : GlobalPointer} {slot : Nat}
    (now : state.phases thread = .close object slot)
    (performed : advanceChange layout state thread choice (.close object slot) = some after) :
    Moved thread state after := by
  simp only [advanceChange] at performed
  split at performed
  · rename_i unread
    obtain rfl := Option.some.inj performed
    refine moved_goto now ⟨rfl, rfl, .inl rfl⟩ ?_ trivial
    rw [storeReaders_table]
    exact .close slot object.offset unread
  · obtain rfl := Option.some.inj performed
    exact moved_goto now ⟨rfl, rfl, .inl rfl⟩ (.yields slot object.offset) trivial

omit [Fintype Thread] in
/-- `Free` returns the extents when no host has references. -/
theorem actives_moved {object : GlobalPointer} {slot : Nat} {rest : List HostId}
    (now : state.phases thread = .actives object slot rest)
    (performed : advanceChange layout state thread choice (.actives object slot rest) =
      some after) : Moved thread state after := by
  cases rest with
  | nil =>
      simp only [advanceChange] at performed
      split at performed
      · obtain rfl := Option.some.inj performed
        exact moved_goto now ⟨rfl, rfl, .inl rfl⟩ (.give slot object.offset) trivial
      · obtain rfl := Option.some.inj performed
        exact moved_goto now ⟨rfl, rfl, .inl rfl⟩ (.keep slot object.offset) trivial
  | cons host rest =>
      simp only [advanceChange] at performed
      split at performed
      · obtain rfl := Option.some.inj performed
        exact moved_goto now ⟨rfl, rfl, .inl rfl⟩ (.keep slot object.offset) trivial
      · obtain rfl := Option.some.inj performed
        exact moved_quiet now rfl trivial

omit [Fintype Thread] in
theorem advanceChange_moved (addressed : Addressed state.retirement)
    (sane : phase.Sane state.taken state.retirement) (now : state.phases thread = phase)
    (spares : ∀ object field, state.unpinnedStore phase = some (object, field) →
      ¬state.Hits object field)
    (performed : advanceChange layout state thread choice phase = some after) :
    Moved thread state after := by
  cases phase with
  | lockExtents change => exact lockExtents_moved addressed now performed
  | search request slot => exact search_moved now performed
  | claim request slot => exact claim_moved now performed
  | reserve request slot => exact reserve_moved now performed
  | build slot object values rest =>
      cases rest with
      | nil =>
          obtain rfl := Option.some.inj performed
          refine moved_goto now ⟨rfl, rfl, .inl rfl⟩ ?_ trivial
          rw [storeObject_table]
          exact .publish slot object values _ fun field _ pending => List.not_mem_nil pending.2
      | cons stored rest =>
          obtain rfl := Option.some.inj performed
          exact moved_goto now ⟨rfl, rfl, .inl rfl⟩ (build_moves thread sane) sane.2
  | start host object hostCount => exact start_moved sane now performed
  | retire object =>
      obtain rfl := Option.some.inj performed
      exact moved_storeAt now rfl (show ¬Fixed _ by decide) (spares _ _ rfl) trivial
  | active snapshot host cursors =>
      simp only [advanceChange] at performed
      split at performed
      · obtain rfl := Option.some.inj performed
        exact moved_quiet now rfl trivial
      · obtain rfl := Option.some.inj performed
        exact moved_quiet now rfl sane
  | sealHost snapshot host cursors =>
      obtain rfl := Option.some.inj performed
      exact moved_goto now
        ⟨rfl, rfl,
          .inr ⟨acknowledgeClosing_addressed addressed sane snapshot host cursors, .inr rfl⟩⟩
        (storesAt thread .inside _ _ (by decide) (spares _ _ rfl)) trivial
  | unlockDescriptor object outcome =>
      obtain rfl := Option.some.inj performed
      exact moved_storeAt now rfl lock_not_fixed (spares _ _ rfl) sane
  | findSlot object slot => exact findSlot_moved sane now performed
  | close object slot => exact close_moved now performed
  | replicas object slot =>
      simp only [advanceChange] at performed
      split at performed
      · obtain rfl := Option.some.inj performed
        exact moved_goto now ⟨rfl, rfl, .inl rfl⟩ (.keep slot object.offset) trivial
      · obtain rfl := Option.some.inj performed
        exact moved_quiet now rfl trivial
  | actives object slot rest => exact actives_moved now performed
  | emptyState object slot | emptyMagic object slot =>
      obtain rfl := Option.some.inj performed
      exact moved_store now rfl (show ¬Fixed _ by decide) trivial
  | clear object slot =>
      obtain rfl := Option.some.inj performed
      refine moved_goto now
        ⟨rfl, rfl, .inr ⟨fun running => (running rfl).elim, .inr rfl⟩⟩ ?_ trivial
      rw [storeObject_table]
      exact .clear slot object.offset
  | openSlot slot outcome =>
      obtain rfl := Option.some.inj performed
      refine moved_goto now ⟨rfl, rfl, .inl rfl⟩ ?_ sane
      rw [storeReaders_table]
      exact .opens slot
  | unlockExtents late outcome =>
      cases late with
      | none =>
          obtain rfl := Option.some.inj performed
          exact moved_finish now ⟨rfl, rfl, .inl rfl⟩ .unlock sane
      | some object =>
          obtain rfl := Option.some.inj performed
          exact moved_goto now ⟨rfl, rfl, .inl rfl⟩ .unlock sane
  | unlockLate object outcome =>
      obtain rfl := Option.some.inj performed
      exact moved_finish now ⟨rfl, rfl, .inl rfl⟩
        (storesAt thread .away 0 _ lock_not_fixed (spares _ _ rfl)) sane
  | _ => cases performed

end Moves

end Cxloom.LoomMem.Discovery
