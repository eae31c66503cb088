import Cxloom.LoomMem.AllocatorLedger

/-!
# Storage of objects

Allocations take storage out of the pools and reclamations return it; both keep the ledger, and so
does every other transition.
-/

namespace Cxloom.LoomMem.Allocator

variable {layout : AllocatorLayout} {state : Allocator}

/-! ## Reserving storage -/

/-- Storage that `Allocate` reserved for an object. -/
structure Reservation (layout : AllocatorLayout) (state : Allocator) (extents : ExtentHeader)
    (bytes alignment dataExtentBytes coherenceExtentBytes slot dataExtent sidecar object : Nat) :
    Prop where
  slot_lt : slot < layout.slotCapacity
  empty : state.slots slot = ⟨0, 0⟩
  /-- The number of nodes stays. -/
  capacity : extents.extentNodeCapacity = layout.extentNodeCapacity
  /-- The extent metadata stays well formed. -/
  manages : extents.Manages layout.range extents.freeExtents
  data_served : ∃ extent ∈ state.extents.freeExtents .data,
    extent.Serves dataExtentBytes alignofAllocationDescriptor dataExtent
  sidecar_served : ∃ extent ∈ state.extents.freeExtents .coherence,
    extent.Serves coherenceExtentBytes alignofCoherenceBlockDescriptor sidecar
  extentAligned : alignofAllocationDescriptor ∣ dataExtent
  data_free : Extent.cells ⟨dataExtent, dataExtentBytes⟩ ⊆
    Extent.cellsOf (state.extents.freeExtents .data)
  data_taken : Extent.cellsOf (extents.freeExtents .data) =
    Extent.cellsOf (state.extents.freeExtents .data) \ Extent.cells ⟨dataExtent, dataExtentBytes⟩
  sidecarAligned : alignofCoherenceBlockDescriptor ∣ sidecar
  sidecar_free : Extent.cells ⟨sidecar, coherenceExtentBytes⟩ ⊆
    Extent.cellsOf (state.extents.freeExtents .coherence)
  sidecar_taken : Extent.cellsOf (extents.freeExtents .coherence) =
    Extent.cellsOf (state.extents.freeExtents .coherence) \
      Extent.cells ⟨sidecar, coherenceExtentBytes⟩
  place : object = alignUp (dataExtent + sizeofAllocationDescriptor) alignment
  dvd : alignment ∣ object
  aligned : alignofAllocationDescriptor ∣ object
  low : dataExtent + sizeofAllocationDescriptor ≤ object
  high : object + bytes ≤ dataExtent + dataExtentBytes

/-- An allocation that fails leaves the free extents as they are. -/
structure Restores (layout : AllocatorLayout) (state : Allocator) (extents : ExtentHeader) :
    Prop where
  /-- The number of nodes stays. -/
  capacity : extents.extentNodeCapacity = layout.extentNodeCapacity
  manages : extents.Manages layout.range state.extents.freeExtents

theorem findEmptySlot_eq_some {slot : Nat} (found : findEmptySlot layout state = some slot) :
    slot < layout.slotCapacity ∧ state.slots slot = ⟨0, 0⟩ := by
  have member := List.mem_of_find?_eq_some found
  have empty := List.find?_some found
  rw [decide_eq_true_eq] at empty
  exact ⟨List.mem_range.mp member, congrArg₂ AllocationSlot.mk empty.1 empty.2⟩

/-- The outcome of the part of `Allocate` under the extent lock. -/
theorem Ledger.reserve_cases (ledger : Ledger layout state) (host : HostId)
    {bytes alignment blockBytes : Nat} (admissible : Admissible bytes alignment blockBytes)
    {blockCount dataExtentBytes coherenceExtentBytes : Nat}
    (dataExact : dataExtentBytes = sizeofAllocationDescriptor + bytes + (alignment - 1))
    (coherence_pos : 0 < coherenceExtentBytes) :
    (∃ message extents, Restores layout state extents ∧
      reserve layout state host bytes alignment blockBytes blockCount dataExtentBytes
          coherenceExtentBytes =
        (.error (.unavailable message), { state with extents := extents })) ∨
      ∃ extents slot dataExtent sidecar object,
        Reservation layout state extents bytes alignment dataExtentBytes coherenceExtentBytes slot
            dataExtent sidecar object ∧
          reserve layout state host bytes alignment blockBytes blockCount dataExtentBytes
              coherenceExtentBytes =
            (.ok ⟨0, object⟩,
              { state with
                extents := extents
                memory := constructBlocks (constructDescriptor state.memory object
                  (newDescriptor host object bytes alignment blockBytes blockCount sidecar
                    dataExtent
                    dataExtentBytes coherenceExtentBytes)) sidecar host blockCount
                slots := Function.update state.slots slot ⟨object, 0⟩ }) := by
  have sixtyFour : Nat.isPowerOfTwo 64 := ⟨6, by decide⟩
  have data_pos : 0 < dataExtentBytes := by
    have positive := admissible.bytes_pos
    omega
  simp only [reserve]
  cases found : findEmptySlot layout state with
  | none => exact .inl ⟨_, state.extents, ⟨ledger.capacity, ledger.manages⟩, rfl⟩
  | some slot =>
      obtain ⟨slot_lt, empty⟩ := findEmptySlot_eq_some found
      have capacity := state.extents.allocateExtent_extentNodeCapacity .data dataExtentBytes
        alignofAllocationDescriptor
      have outcome := @ExtentHeader.Manages.allocateExtent _ _ _ .data dataExtentBytes
        alignofAllocationDescriptor ledger.manages data_pos
      generalize state.extents.allocateExtent .data dataExtentBytes alignofAllocationDescriptor =
        result at capacity outcome ⊢
      obtain ⟨status, extents⟩ := result
      rcases outcome with ⟨rfl, rfl, -⟩ | ⟨rfl, manages, -⟩ |
        ⟨dataExtent, before, after, extent, rfl, serves, manages⟩
      · exact .inl ⟨_, _, ⟨ledger.capacity, ledger.manages⟩, rfl⟩
      · exact .inl ⟨_, _, ⟨capacity.trans ledger.capacity, manages⟩, rfl⟩
      · obtain ⟨dvd, available, carved⟩ := ledger.manages.taken serves sixtyFour (by decide)
        have capacity' := extents.allocateExtent_extentNodeCapacity .coherence coherenceExtentBytes
          alignofCoherenceBlockDescriptor
        have outcome := @ExtentHeader.Manages.allocateExtent _ _ _ .coherence coherenceExtentBytes
          alignofCoherenceBlockDescriptor manages coherence_pos
        simp only
        generalize extents.allocateExtent .coherence coherenceExtentBytes
          alignofCoherenceBlockDescriptor = result at capacity' outcome ⊢
        obtain ⟨status', extents'⟩ := result
        have undone : extents'.Manages layout.range (Function.update state.extents.freeExtents .data
            (before ++ (Extent.remainder extent dataExtent dataExtentBytes ++ after))) →
            Restores layout state (extents'.freeExtent .data dataExtent dataExtentBytes).2 := by
          intro kept
          have total : extents'.extentNodeCapacity = layout.extentNodeCapacity :=
            capacity'.trans (capacity.trans ledger.capacity)
          refine ⟨?_, (ledger.manages.undo serves data_pos ?_ kept).2⟩
          · rw [ExtentHeader.freeExtent_extentNodeCapacity, total]
          · rw [total, ledger.capacity]
        rcases outcome with ⟨rfl, rfl, -⟩ | ⟨rfl, manages', -⟩ |
          ⟨sidecar, before', after', extent', rfl, serves', manages'⟩
        · exact .inl ⟨_, _, undone manages, rfl⟩
        · exact .inl ⟨_, _, undone manages', rfl⟩
        · obtain ⟨dvd', available', carved'⟩ := manages.taken serves' sixtyFour (by decide)
          rw [Function.update_of_ne (by decide)] at available' carved'
          have bounds := ledger.manages.inRange .data extent (by rw [serves.member]; simp)
          have word := ledger.manages.inWord .data
          have ends := serves.high
          have exactStart : add64 dataExtent sizeofAllocationDescriptor =
              dataExtent + sizeofAllocationDescriptor := add64_of_lt (by omega)
          have small : dataExtent + sizeofAllocationDescriptor + (alignment - 1) < wordLimit := by
            omega
          obtain ⟨low, high, multiple, -⟩ :=
            alignUp_spec admissible.power admissible.alignment_lt small
          have extents_eq := manages'.freeExtents_eq
          have here' : extent' ∈ state.extents.freeExtents .coherence := by
            have member := serves'.member
            rw [Function.update_of_ne (by decide)] at member
            rw [member]
            simp
          refine .inr ⟨extents', slot, dataExtent, sidecar,
            alignUp (dataExtent + sizeofAllocationDescriptor) alignment, ?_, ?_⟩
          · refine ⟨slot_lt, empty, capacity'.trans (capacity.trans ledger.capacity), ?_,
              ⟨extent, by rw [serves.member]; simp, serves.toServes⟩,
              ⟨extent', here', serves'.toServes⟩, dvd,
              available, ?_, dvd', available', ?_, rfl, multiple, ?_, low, by omega⟩
            · rw [extents_eq]
              exact manages'
            · rw [extents_eq, Function.update_of_ne (by decide), Function.update_self, carved]
            · rw [extents_eq, Function.update_self, carved']
            · exact alignUp_dvd_of_dvd sixtyFour admissible.power admissible.alignment_lt small
                (Nat.dvd_add dvd (by decide))
          · rw [exactStart]

namespace Ledger

/-- A failed allocation keeps the ledger. -/
theorem restore (ledger : Ledger layout state) {extents : ExtentHeader}
    (restores : Restores layout state extents) :
    Ledger layout { state with extents := extents } := by
  have same : extents.freeExtents = state.extents.freeExtents := restores.manages.freeExtents_eq
  refine ⟨ledger.formatted, restores.capacity, ?_, ledger.described, fun pool => ?_⟩
  · rw [same]
    exact restores.manages
  · rw [same]
    exact ledger.partition pool

theorem data_notMem_coherence (ledger : Ledger layout state) {cell : Nat}
    (data : cell ∈ (layout.range .data).cells) : cell ∉ (layout.range .coherence).cells := by
  intro coherence
  have stop := ledger.formatted.range_stop
  have order := layout.coherence_le
  rw [Extent.mem_cells, stop] at coherence
  have low : layout.sharedDataOffset ≤ cell := data.1
  omega

section Reserved

variable {extents : ExtentHeader} {host : HostId} {bytes alignment blockBytes dataExtentBytes
  coherenceExtentBytes slot dataExtent sidecar object blockCount : Nat}

def constructed (state : Allocator) (host : HostId) (object bytes alignment blockBytes blockCount
    sidecar dataExtent dataExtentBytes coherenceExtentBytes : Nat) : Memory :=
  constructBlocks (constructDescriptor state.memory object
    (newDescriptor host object bytes alignment blockBytes blockCount sidecar dataExtent
      dataExtentBytes coherenceExtentBytes)) sidecar host blockCount

variable (ledger : Ledger layout state)
  (reservation : Reservation layout state extents bytes alignment dataExtentBytes
    coherenceExtentBytes slot dataExtent sidecar object)
  (blocks : coherenceExtentBytes = blockCount * sizeofCoherenceBlockDescriptor)

include ledger reservation blocks

theorem sidecar_outside {cell : Nat} (data : cell ∈ (layout.range .data).cells) :
    cell < sidecar ∨ sidecar + blockCount * sizeofCoherenceBlockDescriptor ≤ cell := by
  by_contra inside
  push Not at inside
  rw [← blocks] at inside
  refine ledger.data_notMem_coherence data ?_
  exact ((ledger.partition .coherence).cover cell).mpr (.inl (reservation.sidecar_free inside))

/-- The construction of an object writes its own data extent only, as far as the data pool goes. -/
theorem constructed_of_outside {cell : Nat} (data : cell ∈ (layout.range .data).cells)
    (outside : cell ∉ Extent.cells ⟨dataExtent, dataExtentBytes⟩) :
    constructed state host object bytes alignment blockBytes blockCount sidecar dataExtent
      dataExtentBytes coherenceExtentBytes cell = state.memory cell := by
  have low := reservation.low
  have high := reservation.high
  rw [constructed, constructBlocks_of_outside (ledger.sidecar_outside reservation blocks data),
    constructDescriptor_of_outside (by omega)]
  simp only [Extent.mem_cells, Extent.stop, sizeofAllocationDescriptor] at outside low ⊢
  omega

theorem descriptor_constructed_of_live {index : Nat} (member : index ∈ live layout state)
    (field : DescriptorField) :
    descriptor (constructed state host object bytes alignment blockBytes blockCount sidecar
        dataExtent dataExtentBytes coherenceExtentBytes) (state.slots index).objectOffset field =
      descriptor state.memory (state.slots index).objectOffset field := by
  have old := ledger.described index member
  refine descriptor_congr old.room (fun cell begins ends => ?_) field
  have inside := old.descriptor_cells begins ends
  refine ledger.constructed_of_outside reservation blocks
    (((ledger.partition .data).cover cell).mpr (.inr ⟨index, member, inside⟩)) fun taken => ?_
  exact Set.disjoint_left.mp ((ledger.partition .data).unfree index member) inside
    (reservation.data_free taken)

theorem descriptor_constructed (field : DescriptorField) :
    descriptor (constructed state host object bytes alignment blockBytes blockCount sidecar
        dataExtent dataExtentBytes coherenceExtentBytes) object field =
      newDescriptor host object bytes alignment blockBytes blockCount sidecar dataExtent
        dataExtentBytes coherenceExtentBytes field % 256 ^ field.size := by
  rw [← descriptor_constructDescriptor state.memory object _ field]
  have low := reservation.low
  have high := reservation.high
  refine descriptor_congr (by omega) (fun cell begins ends => ?_) field
  refine constructBlocks_of_outside (ledger.sidecar_outside reservation blocks ?_)
  refine ((ledger.partition .data).cover cell).mpr (.inl (reservation.data_free ?_))
  simp only [Extent.mem_cells, Extent.stop, sizeofAllocationDescriptor] at low begins ⊢
  omega

variable (host) in
/-- Full words are stored exactly. -/
theorem descriptor_constructed_of_lt {field : DescriptorField} (full : field.size = 8)
    (fits : newDescriptor host object bytes alignment blockBytes blockCount sidecar dataExtent
      dataExtentBytes coherenceExtentBytes field < wordLimit) :
    descriptor (constructed state host object bytes alignment blockBytes blockCount sidecar
        dataExtent dataExtentBytes coherenceExtentBytes) object field =
      newDescriptor host object bytes alignment blockBytes blockCount sidecar dataExtent
        dataExtentBytes coherenceExtentBytes field := by
  rw [ledger.descriptor_constructed reservation blocks field, full]
  exact Nat.mod_eq_of_lt fits

variable (admissible : Admissible bytes alignment blockBytes) (count_pos : 0 < blockCount)

include admissible count_pos

/-- Sizes and places of a new object fit words. -/
theorem reservation_lt : object + bytes < wordLimit ∧ dataExtent + dataExtentBytes < wordLimit ∧
    sidecar + coherenceExtentBytes < wordLimit ∧ 0 < dataExtentBytes ∧ 0 < coherenceExtentBytes ∧
    layout.sharedDataOffset ≤ dataExtent ∧
    dataExtent + dataExtentBytes ≤ (layout.range .data).stop ∧
    layout.coherenceDataOffset ≤ sidecar ∧
    sidecar + coherenceExtentBytes ≤ (layout.range .coherence).stop := by
  have bytes_pos := admissible.bytes_pos
  have low := reservation.low
  have high := reservation.high
  have coherence_pos : 0 < coherenceExtentBytes := by
    rw [blocks]
    exact Nat.mul_pos count_pos (by decide)
  have inPool : ∀ {pool : ExtentPool} {start length : Nat}, 0 < length →
      Extent.cells ⟨start, length⟩ ⊆ Extent.cellsOf (state.extents.freeExtents pool) →
      (layout.range pool).offset ≤ start ∧ start + length ≤ (layout.range pool).stop := by
    intro pool start length positive free
    have first := ((ledger.partition pool).cover start).mpr
      (.inl (free (by simp only [Extent.mem_cells, Extent.stop]; omega)))
    have last := ((ledger.partition pool).cover (start + length - 1)).mpr
      (.inl (free (by simp only [Extent.mem_cells, Extent.stop]; omega)))
    rw [Extent.mem_cells] at first last
    omega
  have data := inPool (by omega) reservation.data_free
  have coherence := inPool coherence_pos reservation.sidecar_free
  have dataWord := ledger.formatted.range_lt .data
  have coherenceWord := ledger.formatted.range_lt .coherence
  exact ⟨by omega, by omega, by omega, by omega, coherence_pos, data.1, data.2, coherence.1,
    coherence.2⟩

variable (host) in
/-- The descriptor of a new object. -/
theorem described_constructed :
    Described (constructed state host object bytes alignment blockBytes blockCount sidecar
        dataExtent dataExtentBytes coherenceExtentBytes) object ∧
      recorded (constructed state host object bytes alignment blockBytes blockCount sidecar
        dataExtent dataExtentBytes coherenceExtentBytes) object .data =
        ⟨dataExtent, dataExtentBytes⟩ ∧
      recorded (constructed state host object bytes alignment blockBytes blockCount sidecar
        dataExtent dataExtentBytes coherenceExtentBytes) object .coherence =
        ⟨sidecar, coherenceExtentBytes⟩ := by
  obtain ⟨objectWord, dataWord, coherenceWord, -, -, -⟩ :=
    ledger.reservation_lt reservation blocks admissible count_pos
  have exactField : ∀ {field : DescriptorField}, field.size = 8 →
      newDescriptor host object bytes alignment blockBytes blockCount sidecar dataExtent
        dataExtentBytes coherenceExtentBytes field < wordLimit → _ :=
    ledger.descriptor_constructed_of_lt host reservation blocks
  have countWord : blockCount < wordLimit := by
    have order : blockCount ≤ blockCount * sizeofCoherenceBlockDescriptor :=
      Nat.le_mul_of_pos_right _ (by decide)
    omega
  have offset := @exactField .objectOffset rfl (show object < wordLimit by omega)
  have length := @exactField .bytes rfl (show bytes < wordLimit by omega)
  have align := @exactField .alignment rfl admissible.alignment_lt
  have count := @exactField .coherenceBlockCount rfl countWord
  have data : recorded (constructed state host object bytes alignment blockBytes blockCount sidecar
      dataExtent dataExtentBytes coherenceExtentBytes) object .data =
      ⟨dataExtent, dataExtentBytes⟩ := by
    rw [recorded, @exactField .dataExtentOffset rfl (show dataExtent < wordLimit by omega),
      @exactField .dataExtentBytes rfl (show dataExtentBytes < wordLimit by omega)]
    rfl
  have coherence : recorded (constructed state host object bytes alignment blockBytes blockCount
      sidecar dataExtent dataExtentBytes coherenceExtentBytes) object .coherence =
      ⟨sidecar, coherenceExtentBytes⟩ := by
    rw [recorded, @exactField .coherenceMetadataOffset rfl (show sidecar < wordLimit by omega),
      @exactField .coherenceExtentBytes rfl (show coherenceExtentBytes < wordLimit by omega)]
    rfl
  refine ⟨⟨?_, .inl ?_, offset, ?_, ?_, ?_, ?_, reservation.aligned, ?_, ?_, ?_, ?_, ?_, ?_⟩, data,
    coherence⟩
  · exact @exactField .magic rfl (show kAllocationMagic < wordLimit by decide)
  · rw [ledger.descriptor_constructed reservation blocks]
    rfl
  · rw [ledger.descriptor_constructed reservation blocks]
    exact (Nat.mod_le _ _).trans_lt host.isLt
  · rw [length]
    exact admissible.bytes_pos
  · rw [align]
    exact admissible.power
  · rw [align]
    exact reservation.dvd
  · rw [data]
    exact reservation.extentAligned
  · rw [data]
    exact reservation.low
  · rw [data, length]
    exact reservation.high
  · rw [coherence]
    exact reservation.sidecarAligned
  · rw [count]
    exact count_pos
  · rw [coherence, count]
    exact blocks

variable (host) in
/-- A successful allocation keeps the ledger. -/
theorem reserved :
    Ledger layout
      { state with
        extents := extents
        memory := constructed state host object bytes alignment blockBytes blockCount sidecar
          dataExtent dataExtentBytes coherenceExtentBytes
        slots := Function.update state.slots slot ⟨object, 0⟩ } := by
  obtain ⟨described, data, coherence⟩ :=
    ledger.described_constructed host reservation blocks admissible count_pos
  have low := reservation.low
  have fresh : slot ∉ live layout state := by
    rintro ⟨-, used⟩
    rw [reservation.empty] at used
    exact used rfl
  have object_pos : object ≠ 0 := by
    simp only [sizeofAllocationDescriptor] at low
    omega
  have apart : ∀ index ∈ live layout state, index ≠ slot := by
    rintro index member rfl
    exact fresh member
  have same : ∀ index ∈ live layout state, ∀ field, _ := fun index member field =>
    @descriptor_constructed_of_live _ _ extents host bytes alignment blockBytes dataExtentBytes
      coherenceExtentBytes slot dataExtent sidecar object blockCount ledger reservation blocks index
      member field
  have lives : live layout
      { state with
        extents := extents
        memory := constructed state host object bytes alignment blockBytes blockCount sidecar
          dataExtent dataExtentBytes coherenceExtentBytes
        slots := Function.update state.slots slot ⟨object, 0⟩ } =
      insert slot (live layout state) := by
    ext index
    rw [live, Set.mem_ofPred_eq, Set.mem_insert_iff]
    by_cases here : index = slot
    · subst here
      simp [reservation.slot_lt, object_pos]
    · simp only [Function.update_of_ne here, here, false_or]
      rfl
  refine ⟨ledger.formatted, reservation.capacity, reservation.manages, ?_, fun pool => ?_⟩
  · rw [lives]
    rintro index (rfl | member)
    · simp only [Function.update_self]
      exact described
    · simp only [Function.update_of_ne (apart index member)]
      exact ((ledger.described index member).congr (fun field _ => same index member field)
        (.inl (same index member .state))).1
  · rw [lives]
    have kept : ∀ other ∈ live layout state, recorded
        (constructed state host object bytes alignment blockBytes blockCount sidecar dataExtent
          dataExtentBytes coherenceExtentBytes)
        (Function.update state.slots slot ⟨object, 0⟩ other).objectOffset pool =
          slotExtent state pool other := by
      intro other member
      rw [Function.update_of_ne (apart other member), slotExtent]
      exact ((ledger.described other member).congr (fun field _ => same other member field)
        (.inl (same other member .state))).2 pool
    refine (ledger.partition pool).insert kept fresh ?_ ?_
    · rw [slotExtent]
      simp only [Function.update_self]
      cases pool with
      | data =>
          rw [data]
          exact reservation.data_free
      | coherence =>
          rw [coherence]
          exact reservation.sidecar_free
    · rw [slotExtent]
      simp only [Function.update_self]
      cases pool with
      | data =>
          rw [data]
          exact reservation.data_taken
      | coherence =>
          rw [coherence]
          exact reservation.sidecar_taken

end Reserved

end Ledger

/-! ## Reclaiming storage -/

/-- Everything that `Free` checks. -/
structure Ready (layout : AllocatorLayout) (state : Allocator) (host : HostId)
    (object : GlobalPointer) (slot : Nat) : Prop where
  phase : state.retirement.current.phase = .reclaimable
  transaction : state.retirement.current.object = object
  coordinator : state.retirement.current.coordinator = host
  member : slot ∈ live layout state
  published : (state.slots slot).objectOffset = object.offset
  unpinned : (state.slots slot).readers = 0
  replicas : descriptor state.memory object.offset .replicaHosts = 0
  quiet : ∀ active, descriptor state.memory object.offset (.activeOperations active) = 0
  nodes : 2 ≤ availableNodes state.extents

/-- The pools after the extents of an object were returned. -/
structure Reclaimed (layout : AllocatorLayout) (state : Allocator) (object : Nat)
    (extents : ExtentHeader) : Prop where
  /-- The number of nodes stays. -/
  capacity : extents.extentNodeCapacity = layout.extentNodeCapacity
  /-- The extent metadata stays well formed. -/
  manages : extents.Manages layout.range extents.freeExtents
  /-- The extents of the object, and nothing else, became free. -/
  freed : ∀ pool, Extent.cellsOf (extents.freeExtents pool) =
    Extent.cellsOf (state.extents.freeExtents pool) ∪ (recorded state.memory object pool).cells

def freed (state : Allocator) (slot object : Nat) (extents : ExtentHeader) : Allocator :=
  { state with
    extents := extents
    memory := setDescriptor
      (setDescriptor state.memory object .state AllocationState.empty.code) object .magic 0
    slots := Function.update state.slots slot ⟨0, 0⟩
    retirement :=
      { state.retirement with
        current := { state.retirement.current with phase := .idle } } }

namespace Ledger

/-- Nodes marked unused are the ones that hold no free extent. -/
theorem availableNodes_eq (ledger : Ledger layout state) :
    availableNodes state.extents = state.extents.spareNodes state.extents.freeExtents := by
  obtain ⟨lists, unused, represents, extents⟩ := ledger.manages.represents
  rw [availableNodes, represents.threaded.countP_unused,
    ExtentHeader.Manages.spareNodes_eq represents extents]

/-- With two unused nodes both extents of an object return to their pools. -/
theorem reclaims (ledger : Ledger layout state) {slot : Nat} (here : slot ∈ live layout state)
    (nodes : 2 ≤ availableNodes state.extents) :
    ∃ extents, Reclaimed layout state (state.slots slot).objectOffset extents ∧
      reclaim state slot (state.slots slot).objectOffset =
        (.ok, freed state slot (state.slots slot).objectOffset extents) := by
  have described := ledger.described slot here
  have total := ledger.manages.length_le
  have capacity := ledger.capacity
  rw [ledger.availableNodes_eq] at nodes
  have dataBounds := ledger.slotExtent_bounds here .data
  have positive : ∀ pool, 0 < (slotExtent state pool slot).bytes := described.bytes_pos_recorded
  rcases ledger.manages.freeExtent (positive .data) dataBounds.1 dataBounds.2
    ((ledger.partition .data).unfree slot here) with
    ⟨dataOk, before, after, result, split, absorbs, manages⟩ | ⟨-, exhausted, -⟩
  · have capacity' := state.extents.freeExtent_extentNodeCapacity .data
      (slotExtent state .data slot).offset (slotExtent state .data slot).bytes
    have cells := absorbs.cellsOf_eq
    have longer := absorbs.length_le
    rw [← split] at cells longer
    generalize pools : state.extents.freeExtent .data (slotExtent state .data slot).offset
      (slotExtent state .data slot).bytes = freeing at dataOk manages capacity'
    obtain ⟨dataStatus, extents⟩ := freeing
    obtain rfl : dataStatus = .ok := dataOk
    have coherenceBounds := ledger.slotExtent_bounds here .coherence
    have unfree : Disjoint (slotExtent state .coherence slot).cells (Extent.cellsOf
        (Function.update state.extents.freeExtents .data result .coherence)) := by
      rw [Function.update_of_ne (by decide)]
      exact (ledger.partition .coherence).unfree slot here
    rcases manages.freeExtent (positive .coherence) coherenceBounds.1
      coherenceBounds.2 unfree with
      ⟨coherenceOk, before', after', result', split', absorbs', manages'⟩ | ⟨-, exhausted, -⟩
    · have capacity'' := extents.freeExtent_extentNodeCapacity .coherence
        (slotExtent state .coherence slot).offset (slotExtent state .coherence slot).bytes
      have cells' := absorbs'.cellsOf_eq
      rw [← split', Function.update_of_ne (by decide)] at cells'
      generalize pools' : extents.freeExtent .coherence (slotExtent state .coherence slot).offset
        (slotExtent state .coherence slot).bytes = freeing at coherenceOk manages' capacity''
      obtain ⟨coherenceStatus, extents'⟩ := freeing
      obtain rfl : coherenceStatus = .ok := coherenceOk
      have extents_eq : extents'.freeExtents = _ := manages'.freeExtents_eq
      refine ⟨extents', ⟨capacity''.trans (capacity'.trans capacity), ?_, fun pool => ?_⟩, ?_⟩
      · rw [extents_eq]
        exact manages'
      · rw [extents_eq]
        cases pool with
        | data =>
            rw [Function.update_of_ne (by decide), Function.update_self]
            exact cells
        | coherence =>
            rw [Function.update_self]
            exact cells'
      · have data : state.extents.freeExtent .data
            (descriptor state.memory (state.slots slot).objectOffset .dataExtentOffset)
            (descriptor state.memory (state.slots slot).objectOffset .dataExtentBytes) =
            (.ok, extents) := pools
        have coherence : extents.freeExtent .coherence
            (descriptor state.memory (state.slots slot).objectOffset .coherenceMetadataOffset)
            (descriptor state.memory (state.slots slot).objectOffset .coherenceExtentBytes) =
            (.ok, extents') := pools'
        simp only [reclaim, data, coherence, Status.isOk_ok, Bool.true_eq_false, if_false]
        rfl
    · exfalso
      have total' := manages.length_le
      simp only [Function.update_self, ne_eq, reduceCtorEq, not_false_eq_true,
        Function.update_of_ne] at total' exhausted
      have same : extents.extentNodeCapacity = state.extents.extentNodeCapacity := capacity'
      omega
  · omega

/-- A published descriptor is found while its object may be retiring. -/
theorem accepted (ledger : Ledger layout state) {slot : Nat} (here : slot ∈ live layout state) :
    Accepted layout state.memory (state.slots slot).objectOffset true := by
  have described := ledger.described slot here
  have bounds := ledger.slotExtent_bounds here .data
  have low := described.low
  have high := described.high
  have positive := described.bytes_pos
  have begins : layout.sharedDataOffset ≤ (slotExtent state .data slot).offset := bounds.1
  rw [slotExtent] at begins bounds
  exact
    { low := by omega
      high := by omega
      aligned := described.aligned
      state := described.state.imp_right fun retiring => ⟨rfl, retiring⟩
      magic := described.magic
      objectOffset := described.objectOffset
      bytes_pos := positive
      bytes_le := by omega
      owner := described.owner }

/-- The slot search of `Free` finds the slot of a published object. -/
theorem findSlot_eq (ledger : Ledger layout state) {slot : Nat} (here : slot ∈ live layout state) :
    findSlot layout state (state.slots slot).objectOffset = some slot := by
  cases found : findSlot layout state (state.slots slot).objectOffset with
  | none =>
      have missed := List.find?_eq_none.mp found slot (List.mem_range.mpr here.1)
      simp at missed
  | some other =>
      have same := List.find?_some found
      rw [decide_eq_true_eq] at same
      have member := List.mem_range.mp (List.mem_of_find?_eq_some found)
      have there : other ∈ live layout state := ⟨member, by rw [same]; exact here.2⟩
      rw [ledger.objectOffset_injective there here same]

/-- The outcome of `Free`: it is refused and changes nothing, or everything it checks holds and both
extents of the object return to their pools. -/
theorem free_cases (ledger : Ledger layout state) (host : HostId) (object : GlobalPointer) :
    (¬(∃ slot, Ready layout state host object slot ∧ object.regionId = 0) ∧
      ∃ status, status.isOk = false ∧ free layout state host object = (status, state)) ∨
    ∃ slot extents, Ready layout state host object slot ∧ object.regionId = 0 ∧
      Reclaimed layout state object.offset extents ∧
      free layout state host object = (.ok, freed state slot object.offset extents) := by
  simp only [free]
  by_cases certificate : state.retirement.current.phase ≠ .reclaimable ∨
      state.retirement.current.object ≠ object ∨ state.retirement.current.coordinator ≠ host
  · rw [if_pos certificate]
    refine .inl ⟨?_, _, rfl, rfl⟩
    rintro ⟨slot, ready, -⟩
    rcases certificate with phase | transaction | coordinator
    · exact phase ready.phase
    · exact transaction ready.transaction
    · exact coordinator ready.coordinator
  · rw [if_neg certificate]
    push Not at certificate
    obtain ⟨phase, transaction, coordinator⟩ := certificate
    cases found : findSlot layout state object.offset with
    | none =>
        refine .inl ⟨?_, _, rfl, rfl⟩
        rintro ⟨slot, ready, -⟩
        have search := ledger.findSlot_eq ready.member
        rw [ready.published, found] at search
        cases search
    | some slot =>
        have published : (state.slots slot).objectOffset = object.offset := by
          have same := List.find?_some found
          rwa [decide_eq_true_eq] at same
        have below := List.mem_range.mp (List.mem_of_find?_eq_some found)
        have only : ∀ {other}, Ready layout state host object other → other = slot := by
          intro other ready
          have search := ledger.findSlot_eq ready.member
          rw [ready.published, found] at search
          exact (Option.some.inj search).symm
        simp only
        by_cases pinned : (state.slots slot).readers = 0
        · rw [if_neg (not_not.mpr pinned)]
          cases lookup : findDescriptor layout state.memory object true with
          | error status =>
              refine .inl ⟨?_, status, ?_, rfl⟩
              · rintro ⟨other, ready, region⟩
                have accepted := ledger.accepted ready.member
                rw [ready.published] at accepted
                have found := (findDescriptor_eq_ok ledger.formatted).mpr ⟨rfl, region, accepted⟩
                rw [lookup] at found
                cases found
              · simp only [findDescriptor] at lookup
                split at lookup
                · rw [← Except.error.inj lookup]
                  rfl
                · split at lookup
                  · rw [← Except.error.inj lookup]
                    rfl
                  · cases lookup
          | ok place =>
              obtain ⟨rfl, region, accepted⟩ := (findDescriptor_eq_ok ledger.formatted).mp lookup
              have here : slot ∈ live layout state := by
                refine ⟨below, ?_⟩
                have low := accepted.low
                simp only [sizeofAllocationDescriptor] at low
                omega
              by_cases replicas : descriptor state.memory object.offset .replicaHosts = 0
              · by_cases quiet :
                  ∃ active : HostId,
                    descriptor state.memory object.offset (.activeOperations active) ≠ 0
                · simp only [replicas, ne_eq, not_true, if_false]
                  rw [if_pos quiet]
                  refine .inl ⟨?_, _, rfl, rfl⟩
                  rintro ⟨other, ready, -⟩
                  obtain ⟨active, busy⟩ := quiet
                  exact busy (ready.quiet active)
                · simp only [replicas, ne_eq, not_true, if_false]
                  rw [if_neg quiet]
                  push Not at quiet
                  by_cases nodes : availableNodes state.extents < 2
                  · rw [if_pos nodes]
                    refine .inl ⟨?_, _, rfl, rfl⟩
                    rintro ⟨other, ready, -⟩
                    have enough := ready.nodes
                    omega
                  · rw [if_neg nodes]
                    have ready : Ready layout state host object slot :=
                      ⟨phase, transaction, coordinator, here, published, pinned, replicas, quiet,
                        by omega⟩
                    obtain ⟨extents, reclaimed, result⟩ := ledger.reclaims here (by omega)
                    rw [published] at reclaimed result
                    exact .inr ⟨slot, extents, ready, region, reclaimed, result⟩
              · simp only [replicas, ne_eq, not_false_eq_true, if_true]
                refine .inl ⟨?_, _, rfl, rfl⟩
                rintro ⟨other, ready, -⟩
                exact replicas ready.replicas
        · rw [if_pos pinned]
          refine .inl ⟨?_, _, rfl, rfl⟩
          rintro ⟨other, ready, -⟩
          rw [only ready] at ready
          exact pinned ready.unpinned

/-- The end of an object keeps the other descriptors. -/
theorem descriptor_freed (ledger : Ledger layout state) {slot object : Nat}
    (here : slot ∈ live layout state) (published : (state.slots slot).objectOffset = object)
    (extents : ExtentHeader) {index : Nat} (member : index ∈ live layout state)
    (different : slot ≠ index) (field : DescriptorField) :
    descriptor (freed state slot object extents).memory (state.slots index).objectOffset field =
      descriptor state.memory (state.slots index).objectOffset field := by
  subst published
  have described := ledger.described slot here
  refine ledger.descriptor_eq here member different (fun cell outside => ?_) field
  have apart : cell < (state.slots slot).objectOffset - sizeofAllocationDescriptor ∨
      (state.slots slot).objectOffset ≤ cell := by
    by_contra inside
    push Not at inside
    exact outside (described.descriptor_cells inside.1 inside.2)
  simp only [freed]
  rw [setDescriptor_of_outside described.room apart,
    setDescriptor_of_outside described.room apart]

theorem free (ledger : Ledger layout state) {slot : Nat} (here : slot ∈ live layout state)
    {extents : ExtentHeader}
    (reclaimed : Reclaimed layout state (state.slots slot).objectOffset extents) :
    Ledger layout (freed state slot (state.slots slot).objectOffset extents) := by
  have described := ledger.described slot here
  have lives : live layout (freed state slot (state.slots slot).objectOffset extents) =
      live layout state \ {slot} := by
    ext index
    rw [live, Set.mem_ofPred_eq, Set.mem_sdiff, Set.mem_singleton_iff]
    by_cases same : index = slot
    · subst same
      simp [freed]
    · simp only [freed, Function.update_of_ne same, same, not_false_eq_true, and_true]
      rfl
  have same : ∀ index ∈ live layout state \ {slot}, ∀ field, _ := fun index member field =>
    ledger.descriptor_freed here rfl extents member.1 (Ne.symm member.2) field
  have stays : ∀ index ∈ live layout state \ {slot},
      (freed state slot (state.slots slot).objectOffset extents).slots index =
        state.slots index := by
    rintro index ⟨-, different⟩
    exact Function.update_of_ne different _ _
  refine ⟨ledger.formatted, reclaimed.capacity, reclaimed.manages, ?_, fun pool => ?_⟩
  · rw [lives]
    intro index member
    rw [stays index member]
    exact ((ledger.described index member.1).congr (fun field _ => same index member field)
      (.inl (same index member .state))).1
  · rw [lives]
    refine ((ledger.partition pool).remove here (reclaimed.freed pool)).congr fun index member => ?_
    rw [slotExtent, slotExtent, stays index member]
    exact ((ledger.described index member.1).congr (fun field _ => same index member field)
      (.inl (same index member .state))).2 pool

end Ledger

/-! ## Runs -/

theorem lockAllocationSlot_eq_ok {object : GlobalPointer} {slot : Nat}
    (pinned : lockAllocationSlot layout state object = .ok slot) :
    object.regionId = 0 ∧ slot ∈ live layout state ∧
      (state.slots slot).objectOffset = object.offset := by
  rw [lockAllocationSlot] at pinned
  split at pinned
  · cases pinned
  · rename_i address
    push Not at address
    split at pinned
    · cases pinned
    · rename_i found
      obtain rfl := Except.ok.inj pinned
      have matching := List.find?_some found
      rw [decide_eq_true_eq] at matching
      have below := List.mem_range.mp (List.mem_of_find?_eq_some found)
      exact ⟨address.1, ⟨below, by rw [matching.1]; exact address.2⟩, matching.1⟩

theorem mutableDescriptor_eq_ok (formatted : layout.Formatted) {object : GlobalPointer}
    {allowRetiring : Bool} {found : Nat}
    (lookup : mutableDescriptor layout state object allowRetiring = .ok found) :
    found = object.offset ∧ object.regionId = 0 ∧
      (∃ slot ∈ live layout state, (state.slots slot).objectOffset = object.offset) ∧
      Accepted layout state.memory object.offset allowRetiring := by
  rw [mutableDescriptor] at lookup
  split at lookup
  · cases lookup
  · rename_i pinned
    obtain ⟨region, here, published⟩ := lockAllocationSlot_eq_ok pinned
    obtain ⟨rfl, -, accepted⟩ := (findDescriptor_eq_ok formatted).mp lookup
    exact ⟨rfl, region, ⟨_, here, published⟩, accepted⟩

/-- The outcome of `Allocate`. -/
theorem Ledger.allocate_cases (ledger : Ledger layout state) (host : HostId)
    (defaultBlockBytes : UInt64) (options : AllocationOptions) :
    (∃ status extents, Restores layout state extents ∧
      allocate layout state host defaultBlockBytes options =
        (.error status, { state with extents := extents })) ∨
      Admissible options.bytes.toNat options.alignment.toNat
          (blockBytesOf defaultBlockBytes options) ∧
        ∃ extents slot dataExtent sidecar object,
          Reservation layout state extents options.bytes.toNat options.alignment.toNat
              (sizeofAllocationDescriptor + options.bytes.toNat + (options.alignment.toNat - 1))
              ((1 + (options.bytes.toNat - 1) / blockBytesOf defaultBlockBytes options) *
                sizeofCoherenceBlockDescriptor) slot dataExtent sidecar object ∧
            allocate layout state host defaultBlockBytes options =
              (.ok ⟨0, object⟩,
                { state with
                  extents := extents
                  memory := constructed state host object options.bytes.toNat
                    options.alignment.toNat (blockBytesOf defaultBlockBytes options)
                    (1 + (options.bytes.toNat - 1) / blockBytesOf defaultBlockBytes options) sidecar
                    dataExtent
                    (sizeofAllocationDescriptor + options.bytes.toNat +
                      (options.alignment.toNat - 1))
                    ((1 + (options.bytes.toNat - 1) / blockBytesOf defaultBlockBytes options) *
                      sizeofCoherenceBlockDescriptor)
                  slots := Function.update state.slots slot ⟨object, 0⟩ }) := by
  rcases Allocator.allocate_cases state host defaultBlockBytes options with
    ⟨message, refused⟩ | ⟨admissible, reserves⟩
  · exact .inl ⟨_, state.extents, ⟨ledger.capacity, ledger.manages⟩, refused⟩
  · have count_pos : 0 < 1 + (options.bytes.toNat - 1) / blockBytesOf defaultBlockBytes options :=
      Nat.add_pos_left (by decide) _
    have block_pos : 0 < sizeofCoherenceBlockDescriptor := by decide
    rw [reserves]
    rcases ledger.reserve_cases host admissible rfl (Nat.mul_pos count_pos block_pos) with
      ⟨message, extents, restores, result⟩ |
      ⟨extents, slot, dataExtent, sidecar, object, reservation, result⟩
    · exact .inl ⟨_, extents, restores, result⟩
    · exact .inr ⟨admissible, extents, slot, dataExtent, sidecar, object, reservation, result⟩

/-- A transition that takes and returns no storage. -/
structure Passive (layout : AllocatorLayout) (state after : Allocator) : Prop where
  extents : after.extents = state.extents
  slots : ∀ index, (after.slots index).objectOffset = (state.slots index).objectOffset
  /-- Published objects keep their descriptors. -/
  kept : ∀ index ∈ live layout state,
    Keeps state.memory after.memory (state.slots index).objectOffset

theorem Passive.refl (layout : AllocatorLayout) (state : Allocator) : Passive layout state state :=
  ⟨rfl, fun _ => rfl, fun _ _ => .refl _ _⟩

/-- Only `Allocate` and `Free` take and return storage. -/
theorem Ledger.passive (ledger : Ledger layout state) {label : Label} {after : Allocator}
    (step : Allocator.next layout state label = some after)
    (notAllocate : ∀ host defaultBlockBytes options,
      label ≠ .allocate host defaultBlockBytes options)
    (notFree : ∀ host object, label ≠ .free host object) : Passive layout state after := by
  cases label with
  | allocate host defaultBlockBytes options =>
      exact (notAllocate host defaultBlockBytes options rfl).elim
  | beginRetire host object hostCount =>
      simp only [Allocator.next] at step
      split at step
      · cases step
      · obtain rfl := Option.some.inj step
        have begins := beginRetire_spec ledger.formatted state host object hostCount
        generalize (beginRetire layout state host object hostCount).1 = result at begins
        generalize (beginRetire layout state host object hostCount).2 = after at begins ⊢
        cases begins with
        | refuses | resumes => exact .refl layout state
        | waits => exact ⟨rfl, fun _ => rfl, fun _ _ => .refl _ _⟩
        | starts starts unlocked =>
            refine ⟨rfl, fun _ => rfl, fun _ there => ?_⟩
            exact ledger.keeps_retiring starts.accepted there
  | acknowledgeRetirement snapshot host cursors =>
      simp only [Allocator.next] at step
      split at step
      · cases step
      · obtain rfl := Option.some.inj step
        have acknowledges :=
          acknowledgeRetirement_spec ledger.formatted state snapshot host cursors
        generalize (acknowledgeRetirement layout state snapshot host cursors).1 = result
          at acknowledges
        generalize (acknowledgeRetirement layout state snapshot host cursors).2 = after
          at acknowledges ⊢
        cases acknowledges with
        | unchanged => exact .refl layout state
        | waits => exact ⟨rfl, fun _ => rfl, fun _ _ => .refl _ _⟩
        | closes current phase accepted quiet =>
            refine ⟨rfl, fun _ => rfl, fun _ there => ?_⟩
            exact ledger.keeps_sealed accepted _ there
        | drains | cleans => exact ⟨rfl, fun _ => rfl, fun _ _ => .refl _ _⟩
  | free host object => exact (notFree host object rfl).elim
  | acquireReference object host allowRetiring =>
      simp only [Allocator.next, Option.some.injEq] at step
      subst step
      simp only [acquireReference]
      cases lookup : mutableDescriptor layout state object allowRetiring with
      | error status => exact .refl layout state
      | ok found =>
          obtain ⟨rfl, -, ⟨slot, here, published⟩, -⟩ :=
            mutableDescriptor_eq_ok ledger.formatted lookup
          simp only
          split
          · exact .refl layout state
          · refine ⟨rfl, fun _ => rfl, fun _ there => ?_⟩
            rw [← published]
            exact ledger.keeps_set here rfl (by simp) _ there
  | releaseReference object host =>
      simp only [Allocator.next] at step
      split at step
      · rename_i published
        obtain ⟨nonzero, slot, below, same⟩ := published
        obtain rfl := Option.some.inj step
        simp only [releaseReference]
        split
        · exact .refl layout state
        · refine ⟨rfl, fun _ => rfl, fun _ there => ?_⟩
          subst same
          exact ledger.keeps_set ⟨below, nonzero⟩ rfl (by simp) _ there
      · cases step
  | setReplicaHosts object hosts =>
      simp only [Allocator.next] at step
      split at step
      · rename_i published
        obtain ⟨nonzero, slot, below, same⟩ := published
        obtain rfl := Option.some.inj step
        refine ⟨rfl, fun _ => rfl, fun _ there => ?_⟩
        subst same
        exact ledger.keeps_set ⟨below, nonzero⟩ rfl (by decide) _ there
      · cases step
  | pinSlot index | unpinSlot index =>
      simp only [Allocator.next] at step
      split at step
      · obtain rfl := Option.some.inj step
        refine ⟨rfl, fun other => ?_, fun _ _ => .refl _ _⟩
        by_cases same : other = index
        · simp [same]
        · simp [same]
      · cases step
  | applicationWrite cell byte =>
      simp only [Allocator.next] at step
      split at step
      · rename_i writable
        obtain rfl := Option.some.inj step
        refine ⟨rfl, fun _ => rfl, fun _ there => ?_⟩
        exact ledger.keeps_applicationWrite writable byte there
      · cases step

/-- Every transition keeps the ledger. -/
theorem Ledger.next (ledger : Ledger layout state) {label : Label} {after : Allocator}
    (step : Allocator.next layout state label = some after) : Ledger layout after := by
  have stays : (∀ host defaultBlockBytes options,
        label ≠ .allocate host defaultBlockBytes options) →
      (∀ host object, label ≠ .free host object) → Ledger layout after := by
    intro notAllocate notFree
    have passive := ledger.passive step notAllocate notFree
    exact ledger.keep passive.extents passive.slots passive.kept
  cases label with
  | allocate host defaultBlockBytes options =>
      simp only [Allocator.next] at step
      split at step
      · cases step
      · obtain rfl := Option.some.inj step
        rcases ledger.allocate_cases host defaultBlockBytes options with
          ⟨status, extents, restores, result⟩ |
          ⟨admissible, extents, slot, dataExtent, sidecar, object, reservation, result⟩
        · rw [result]
          exact ledger.restore restores
        · rw [result]
          exact ledger.reserved host reservation rfl admissible (Nat.add_pos_left (by decide) _)
  | free host object =>
      simp only [Allocator.next] at step
      split at step
      · cases step
      · obtain rfl := Option.some.inj step
        rcases ledger.free_cases host object with
          ⟨-, status, -, result⟩ | ⟨slot, extents, ready, -, reclaimed, result⟩
        · rw [result]
          exact ledger
        · rw [result]
          rw [← ready.published] at reclaimed ⊢
          exact ledger.free ready.member reclaimed
  | _ => exact stays (by simp) (by simp)

/-- Runs go on with every enabled transition. -/
theorem Reachable.step (reachable : Reachable layout state) {label : Label} {after : Allocator}
    (step : Allocator.next layout state label = some after) : Reachable layout after := by
  obtain ⟨memory, start, format, execution⟩ := reachable
  exact ⟨memory, start, format, execution.tail ⟨label, trivial, step⟩⟩

section Unlocked

variable (reachable : Reachable layout state) (unlocked : state.extentLock = false)

include reachable unlocked

theorem Reachable.allocate (host : HostId) (defaultBlockBytes : UInt64)
    (options : AllocationOptions) :
    Reachable layout (allocate layout state host defaultBlockBytes options).2 :=
  @Reachable.step _ _ reachable (.allocate host defaultBlockBytes options) _
    (if_neg (by rw [unlocked]; decide))

theorem Reachable.beginRetire (host : HostId) (object : GlobalPointer) (hostCount : Nat) :
    Reachable layout (beginRetire layout state host object hostCount).2 :=
  @Reachable.step _ _ reachable (.beginRetire host object hostCount) _
    (if_neg (by rw [unlocked]; decide))

theorem Reachable.acknowledgeRetirement (snapshot : RetirementSnapshot) (host : HostId)
    (cursors : HostId → Nat) :
    Reachable layout (acknowledgeRetirement layout state snapshot host cursors).2 :=
  @Reachable.step _ _ reachable (.acknowledgeRetirement snapshot host cursors) _
    (if_neg (by rw [unlocked]; decide))

end Unlocked

/-- The ledger holds in every state of every run. -/
theorem Reachable.ledger (reachable : Reachable layout state) : Ledger layout state := by
  obtain ⟨memory, start, format, execution⟩ := reachable
  exact execution.preserves (Ledger layout) (.of_format format)
    fun _ _ _ ledger _ step => ledger.next step

end Cxloom.LoomMem.Allocator
