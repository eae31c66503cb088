import Cxloom.LoomMem.AllocatorSteps
import Cxloom.LoomMem.ExtentRelease

/-!
# The ledger of the allocator

The free extents and the extents that published descriptors record share out both pools, in every
state of every run.  Applications may write anything into their objects, and a retirement may run on
bytes that only pass for a descriptor: neither touches what the ledger reads.
-/

namespace Cxloom.LoomMem.Allocator

variable {layout : AllocatorLayout} {state : Allocator}

def live (layout : AllocatorLayout) (state : Allocator) : Set Nat :=
  { index | index < layout.slotCapacity ∧ (state.slots index).objectOffset ≠ 0 }

def slotExtent (state : Allocator) (pool : ExtentPool) (index : Nat) : Extent :=
  recorded state.memory (state.slots index).objectOffset pool

/-- The free extents and the recorded ones share out both pools. -/
structure Ledger (layout : AllocatorLayout) (state : Allocator) : Prop where
  /-- The layout passed the checks of `FormatSharedAllocator`. -/
  formatted : layout.Formatted
  capacity : state.extents.extentNodeCapacity = layout.extentNodeCapacity
  /-- The extent metadata is well formed. -/
  manages : state.extents.Manages layout.range state.extents.freeExtents
  described : ∀ index ∈ live layout state, Described state.memory (state.slots index).objectOffset
  /-- Nothing is lost and nothing is used twice. -/
  partition : ∀ pool, Extent.Partition (layout.range pool) (state.extents.freeExtents pool)
    (live layout state) (slotExtent state pool)

/-! ## Formatting -/

theorem formatted_of_format {memory : Memory}
    (format : formatSharedAllocator layout memory = .ok state) : layout.Formatted := by
  rw [formatSharedAllocator] at format
  split at format
  · cases format
  · rename_i checks
    push Not at checks
    obtain ⟨data, low, high⟩ := checks
    rw [AllocatorLayout.Formatted.coherence_stop_eq] at high
    refine ⟨data, ?_, high⟩
    have order := layout.coherence_le
    have inside := layout.data_le
    have word := layout.region_lt
    have power : alignofCoherenceBlockDescriptor.isPowerOfTwo := ⟨6, by decide⟩
    have fits : alignofCoherenceBlockDescriptor < wordLimit := by decide
    simp only [AllocatorLayout.coherenceDataOffset, alignUp_eq power fits] at low high ⊢
    by_cases small : add64 layout.coherenceOffset sizeofCoherenceRegionHeader +
        (alignofCoherenceBlockDescriptor - 1) < wordLimit
    · rw [if_pos small] at low high ⊢
      simp only [add64, wordLimit, sizeofCoherenceRegionHeader, alignofCoherenceBlockDescriptor]
        at low high word ⊢
      omega
    · rw [if_neg small] at low high ⊢
      simp only [add64, wordLimit, sizeofCoherenceRegionHeader, alignofCoherenceBlockDescriptor]
        at low small ⊢
      omega

/-- The unused nodes of a new table. -/
theorem formatExtents_spare (layout : AllocatorLayout) (count first : Nat) (low : 2 ≤ first)
    (total : first + count = layout.extentNodeCapacity) :
    Linked.Segment (formatExtents layout).next (if count = 0 then none else some first)
      (List.range' first count) none := by
  induction count generalizing first with
  | zero => rfl
  | succ count induction =>
      refine ⟨rfl, ?_⟩
      have rest := induction (first + 1) (by omega) (by omega)
      have link : (formatExtents layout).next first =
          if count = 0 then none else some (first + 1) := by
        simp only [formatExtents]
        by_cases last : count = 0
        · rw [if_pos last, if_neg (by omega)]
        · rw [if_neg last, if_pos (by omega)]
      rwa [link]

/-- The node that a new table gives to a pool. -/
def formatNode : ExtentPool → Nat
  | .data => 0
  | .coherence => 1

/-- The pool that a new table gives a node to. -/
def formatOwner : Nat → Option ExtentPool
  | 0 => some .data
  | 1 => some .coherence
  | _ => none

theorem formatOwner_eq_some {index : Nat} {pool : ExtentPool} :
    formatOwner index = some pool ↔ index = formatNode pool := by
  match index with
  | 0 | 1 | _ + 2 => cases pool <;> simp [formatOwner, formatNode]

theorem formatExtents_threaded (layout : AllocatorLayout) :
    (formatExtents layout).Threaded (fun pool => [formatNode pool])
      (List.range' 2 (layout.extentNodeCapacity - 2)) where
  chain pool := by
    refine ⟨⟨by cases pool <;> rfl, ?_⟩, ⟨rfl, trivial⟩, List.nodup_singleton _⟩
    cases pool <;> rfl
  spare := by
    have two := layout.two_lt
    have segment := formatExtents_spare layout (layout.extentNodeCapacity - 2) 2 (Nat.le_refl _)
      (by omega)
    rwa [if_neg (by omega)] at segment
  nodes := by
    have two := layout.two_lt
    obtain ⟨rest, capacity⟩ := Nat.exists_eq_add_of_lt two
    have shape : (formatExtents layout).extentNodeCapacity = rest + 1 + 1 + 1 := by
      rw [show (formatExtents layout).extentNodeCapacity = layout.extentNodeCapacity from rfl]
      omega
    rw [shape, List.range_eq_range', List.range'_succ, List.range'_succ]
    have tail : layout.extentNodeCapacity - 2 = rest + 1 := by omega
    rw [tail]
    exact List.Perm.refl _
  free pool index member := by
    obtain rfl := List.mem_singleton.mp member
    cases pool <;> rfl
  unmarked index member := by
    have low := (List.mem_range'_1.mp member).1
    exact if_neg (by omega)

theorem formatExtents_binned (layout : AllocatorLayout) :
    (formatExtents layout).Binned formatOwner where
  chains pool bin := by
    by_cases mine : bin = binForBytes (layout.range pool).bytes
    · refine ⟨[formatNode pool], ⟨⟨?_, rfl⟩, ⟨rfl, trivial⟩, List.nodup_singleton _⟩,
        fun index => ?_⟩
      · simp only [formatExtents, if_pos mine]
        cases pool <;> rfl
      · rw [List.mem_singleton, ExtentHeader.InBin, formatOwner_eq_some]
        constructor
        · rintro rfl
          exact ⟨rfl, by rw [mine]; cases pool <;> rfl⟩
        · exact fun inside => inside.1
    · refine ⟨[], ?_, fun index => ?_⟩
      · simp only [formatExtents, if_neg mine]
        exact Linked.Chain.nil
      · rw [ExtentHeader.InBin, formatOwner_eq_some]
        constructor
        · intro member
          cases member
        · rintro ⟨rfl, bin_eq⟩
          refine (mine ?_).elim
          rw [← bin_eq]
          cases pool <;> rfl
  sized index owned := by
    rcases index with _ | _ | index
    · rfl
    · rfl
    · exact absurd rfl owned
  bitmap pool bin below := by
    rw [formatExtents]
    simp only
    rw [HostMask.contains_bit _ below]
    by_cases mine : bin = binForBytes (layout.range pool).bytes
    · rw [if_pos mine, decide_eq_true mine]
      cases pool <;> rfl
    · rw [if_neg mine, decide_eq_false mine]
      rfl

theorem formatExtents_manages (formatted : layout.Formatted) :
    (formatExtents layout).Manages layout.range fun pool => [layout.range pool] where
  represents := by
    refine ⟨_, _, ⟨formatExtents_threaded layout, formatOwner, formatExtents_binned layout,
      fun index pool => ?_⟩, fun pool => ?_⟩
    · rw [formatOwner_eq_some, List.mem_singleton]
    · cases pool <;> rfl
  separated pool := by
    refine Extent.Separated.singleton ?_
    cases pool with
    | data => exact (Nat.zero_le _).trans_lt formatted.data
    | coherence =>
        have stop := formatted.range_stop
        have high := formatted.high
        simp only [AllocatorLayout.range, Extent.stop] at stop ⊢
        omega
  inRange pool extent member := by
    obtain rfl := List.mem_singleton.mp member
    exact ⟨Nat.le_refl _, Nat.le_refl _⟩
  inWord := formatted.range_lt

/-- The ledger of a formatted region: everything is free. -/
theorem Ledger.of_format {memory : Memory}
    (format : formatSharedAllocator layout memory = .ok state) : Ledger layout state := by
  have formatted := formatted_of_format format
  rw [formatSharedAllocator] at format
  split at format
  · cases format
  · have empty : ∀ index, index ∉ live layout state := by
      rw [← Except.ok.inj format]
      exact fun index member => member.2 rfl
    obtain rfl := Except.ok.inj format
    have manages := formatExtents_manages formatted
    have extents := manages.freeExtents_eq
    refine ⟨formatted, rfl, ?_, fun index member => (empty index member).elim, fun pool => ?_⟩
    · rw [extents]
      exact manages
    · rw [extents]
      refine ⟨fun index member => (empty index member).elim,
        fun index member => (empty index member).elim, fun cell => ?_⟩
      constructor
      · intro inside
        exact .inl ⟨_, List.mem_singleton_self _, inside⟩
      · rintro (⟨extent, member, inside⟩ | ⟨index, member, -⟩)
        · obtain rfl := List.mem_singleton.mp member
          exact inside
        · exact (empty index member).elim

/-! ## Writes between the operations -/

/-- A write keeps the fixed fields of a published object, and its lifecycle or makes it retiring. -/
structure Keeps (before after : Memory) (object : Nat) : Prop where
  fields : ∀ field, field.fixed = true →
    descriptor after object field = descriptor before object field
  /-- The lifecycle stays, or the object becomes retiring. -/
  state : descriptor after object .state = descriptor before object .state ∨
    descriptor after object .state = AllocationState.retiring.code

theorem Keeps.of_eq {before after : Memory} {object : Nat}
    (same : ∀ field, field.fixed = true ∨ field = .state →
      descriptor after object field = descriptor before object field) :
    Keeps before after object :=
  ⟨fun field fixed => same field (.inl fixed), .inl (same .state (.inr rfl))⟩

theorem Keeps.refl (memory : Memory) (object : Nat) : Keeps memory memory object :=
  .of_eq fun _ _ => rfl

namespace Ledger

variable {first second : Nat}

/-- Different slots publish objects with disjoint data extents. -/
theorem disjoint (ledger : Ledger layout state) (here : first ∈ live layout state)
    (there : second ∈ live layout state) (different : first ≠ second) (pool : ExtentPool) :
    Disjoint (slotExtent state pool first).cells (slotExtent state pool second).cells :=
  (ledger.partition pool).apart here there different

/-- No object is published twice. -/
theorem objectOffset_injective (ledger : Ledger layout state) (here : first ∈ live layout state)
    (there : second ∈ live layout state)
    (same : (state.slots first).objectOffset = (state.slots second).objectOffset) :
    first = second := by
  by_contra different
  have disjoint := ledger.disjoint here there different .data
  have described := ledger.described first here
  have inside := described.payload_cells (Nat.le_refl _)
    (Nat.lt_add_of_pos_right described.bytes_pos)
  refine Set.disjoint_left.mp disjoint inside ?_
  rw [slotExtent, ← same]
  exact inside

/-- The recorded extents lie inside their pools. -/
theorem slotExtent_bounds (ledger : Ledger layout state) (here : first ∈ live layout state)
    (pool : ExtentPool) :
    (layout.range pool).offset ≤ (slotExtent state pool first).offset ∧
      (slotExtent state pool first).stop ≤ (layout.range pool).stop :=
  (ledger.partition pool).bounds here ((ledger.described first here).bytes_pos_recorded pool)

/-- The descriptors of other objects depend on none of the data cells of an object. -/
theorem descriptor_eq (ledger : Ledger layout state) (here : first ∈ live layout state)
    (there : second ∈ live layout state) (different : first ≠ second) {memory : Memory}
    (agree : ∀ cell, cell ∉ (slotExtent state .data first).cells →
      memory cell = state.memory cell) (field : DescriptorField) :
    descriptor memory (state.slots second).objectOffset field =
      descriptor state.memory (state.slots second).objectOffset field := by
  have described := ledger.described second there
  refine descriptor_congr described.room (fun cell low high => agree cell ?_) field
  have inside := described.descriptor_cells low high
  exact Set.disjoint_right.mp (ledger.disjoint here there different .data) inside

/-- The ledger survives writes that keep the published descriptors. -/
theorem keep (ledger : Ledger layout state) {after : Allocator}
    (extents : after.extents = state.extents)
    (slots : ∀ index, (after.slots index).objectOffset = (state.slots index).objectOffset)
    (kept : ∀ index ∈ live layout state,
      Keeps state.memory after.memory (state.slots index).objectOffset) :
    Ledger layout after := by
  have lives : live layout after = live layout state := by
    ext index
    rw [live, live, Set.mem_ofPred_eq, Set.mem_ofPred_eq, slots]
  have stays : ∀ index ∈ live layout state,
      Described after.memory (state.slots index).objectOffset ∧
        ∀ pool, slotExtent after pool index = slotExtent state pool index := by
    intro index member
    obtain ⟨described, same⟩ :=
      (ledger.described index member).congr (kept index member).fields (kept index member).state
    refine ⟨described, fun pool => ?_⟩
    rw [slotExtent, slotExtent, slots, same]
  refine ⟨ledger.formatted, by rw [extents, ledger.capacity], by rw [extents]; exact ledger.manages,
    ?_, fun pool => ?_⟩
  · rw [lives]
    intro index member
    rw [slots]
    exact (stays index member).1
  · rw [lives, extents]
    exact (ledger.partition pool).congr fun index member => (stays index member).2 pool

/-- An operation on one published object keeps all descriptors. -/
theorem keeps_set (ledger : Ledger layout state) (here : first ∈ live layout state)
    {written : DescriptorField} (unfixed : written.fixed = false) (passive : written ≠ .state)
    (value : Nat) (there : second ∈ live layout state) :
    Keeps state.memory (setDescriptor state.memory (state.slots first).objectOffset written value)
      (state.slots second).objectOffset := by
  refine .of_eq fun field kept => ?_
  by_cases same : first = second
  · subst same
    refine descriptor_setDescriptor_of_ne ?_
    rintro rfl
    rcases kept with fixed | lifecycle
    · rw [unfixed] at fixed
      cases fixed
    · exact passive lifecycle
  · refine ledger.descriptor_eq here there same (fun cell outside => ?_) field
    have described := ledger.described first here
    refine setDescriptor_of_outside described.room ?_
    by_contra inside
    push Not at inside
    exact outside (described.descriptor_cells inside.1 inside.2)

theorem keeps_applicationWrite (ledger : Ledger layout state) {cell : Nat}
    (writable : Writable layout state cell) (byte : UInt8) (there : second ∈ live layout state) :
    Keeps state.memory (Function.update state.memory cell byte)
      (state.slots second).objectOffset := by
  obtain ⟨first, below, published, low, high⟩ := writable
  have here : first ∈ live layout state := ⟨below, published⟩
  have payload := (ledger.described first here).payload_cells low high
  refine .of_eq fun field _ => ?_
  by_cases same : first = second
  · subst same
    refine descriptor_congr (ledger.described first here).room (fun place _ before => ?_) field
    exact Function.update_of_ne (by omega) _ _
  · refine ledger.descriptor_eq here there same (fun place outside => ?_) field
    refine Function.update_of_ne ?_ _ _
    rintro rfl
    exact outside payload

/-- A retirement that starts keeps all descriptors, also when it runs on a false one. -/
theorem keeps_retiring (ledger : Ledger layout state) {object : Nat} {allowRetiring : Bool}
    (accepted : Accepted layout state.memory object allowRetiring)
    (there : second ∈ live layout state) :
    Keeps state.memory (setDescriptor state.memory object .state AllocationState.retiring.code)
      (state.slots second).objectOffset := by
  by_cases same : object = (state.slots second).objectOffset
  · subst same
    refine ⟨fun field fixed => descriptor_setDescriptor_of_ne ?_, .inr ?_⟩
    · rintro rfl
      cases fixed
    · rw [descriptor_setDescriptor]
      rfl
  · exact .of_eq fun field kept =>
      (ledger.described second there).keeps_forged accepted same (.inl rfl) kept

/-- An acknowledgement keeps all descriptors, also when it seals a false one. -/
theorem keeps_sealed (ledger : Ledger layout state) {object : Nat} {allowRetiring : Bool}
    (accepted : Accepted layout state.memory object allowRetiring) (value : Nat)
    (there : second ∈ live layout state) :
    Keeps state.memory (setDescriptor state.memory object .sealedHosts value)
      (state.slots second).objectOffset := by
  by_cases same : object = (state.slots second).objectOffset
  · subst same
    exact ledger.keeps_set there rfl (by decide) value there
  · exact .of_eq fun field kept =>
      (ledger.described second there).keeps_forged accepted same (.inr rfl) kept

end Ledger

end Cxloom.LoomMem.Allocator
