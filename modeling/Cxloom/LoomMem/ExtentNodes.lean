import Cxloom.LoomMem.AllocatorPools
import Cxloom.Run

/-!
# Well-formed extent nodes

Runs of `AllocateExtentLocked` and `FreeExtentLocked` on a formatted header, where extents that were
allocated come back in any order.  The lists of the node table are what a traversal from their heads
meets, and in every state of every run these lists share out the table.
-/

namespace Cxloom.LoomMem

namespace ExtentHeader

variable {header : ExtentHeader}

def addressList (header : ExtentHeader) (pool : ExtentPool) : List Nat :=
  Linked.walk header.next header.extentNodeCapacity (header.freeHead pool)

def unusedList (header : ExtentHeader) : List Nat :=
  Linked.walk header.next header.extentNodeCapacity header.freeExtentNodeHead

/-- The nodes from the head of a size bin on. -/
def binList (header : ExtentHeader) (pool : ExtentPool) (bin : Nat) : List Nat :=
  Linked.walk header.binNext header.extentNodeCapacity (header.bins pool bin)

/-- The four kinds of lists in the node table are well formed. -/
structure WellFormed (header : ExtentHeader) : Prop where
  /-- Every node is in exactly one of the address lists and the unused list. -/
  shared : (nodesOf header.addressList header.unusedList).Perm
    (List.range header.extentNodeCapacity)
  /-- The nodes of the address lists are the ones marked free. -/
  marked : ∀ index, index < header.extentNodeCapacity →
    (header.state index = .free ↔ ∃ pool, index ∈ header.addressList pool)
  /-- The address lists end and are linked in both directions. -/
  addressed : ∀ pool, Linked.Chain header.next header.previous (header.freeHead pool)
    (header.addressList pool)
  /-- Successors and predecessors of an address list are inverse to each other. -/
  inverse : ∀ pool, ∀ left ∈ header.addressList pool, ∀ right ∈ header.addressList pool,
    (header.next left = some right ↔ header.previous right = some left)
  spare : Linked.Segment header.next header.freeExtentNodeHead header.unusedList none
  /-- The size bins end and are linked in both directions. -/
  binned : ∀ pool bin, Linked.Chain header.binNext header.binPrevious (header.bins pool bin)
    (header.binList pool bin)
  /-- Successors and predecessors of a size bin are inverse to each other. -/
  binInverse : ∀ pool bin, ∀ left ∈ header.binList pool bin, ∀ right ∈ header.binList pool bin,
    (header.binNext left = some right ↔ header.binPrevious right = some left)
  binHead : ∀ pool bin index, header.bins pool bin = some index → header.binPrevious index = none
  /-- The bins of a pool hold its free nodes by the logarithm of their size. -/
  sized : ∀ pool bin index, index ∈ header.binList pool bin ↔
    index ∈ header.addressList pool ∧ (header.bytes index).log2 = bin
  /-- The bitmap marks the bins that are not empty. -/
  bitmap : ∀ pool bin, bin < kTlsfBinCount →
    (HostMask.contains (header.binBitmap pool) bin = true ↔ header.binList pool bin ≠ [])
  /-- The search of `AllocateExtentLocked` ends: more steps find nothing else. -/
  searches : ∀ pool bin bytes alignment fuel, header.extentNodeCapacity ≤ fuel →
    header.walkBin bytes alignment fuel (header.bins pool bin) =
      header.walkBin bytes alignment header.extentNodeCapacity (header.bins pool bin)
  /-- The walk of `FreeExtentLocked` ends: more steps arrive at the same place. -/
  positions : ∀ pool offset fuel, header.extentNodeCapacity ≤ fuel →
    header.findPosition offset fuel none (header.freeHead pool) =
      header.findPosition offset header.extentNodeCapacity none (header.freeHead pool)
  /-- As many nodes are marked unused as the unused list has. -/
  counted : (List.range header.extentNodeCapacity).countP
    (fun index => header.state index = .unused) = header.unusedList.length

/-- With enough steps the walk to a position does not depend on their number. -/
theorem findPosition_fuel (offset : Nat) {cells : List Nat} {first : Option Nat}
    (previous : Option Nat) {fuel : Nat} (segment : Linked.Segment header.next first cells none)
    (enough : cells.length ≤ fuel) :
    header.findPosition offset fuel previous first =
      header.findPosition offset cells.length previous first := by
  induction cells generalizing first previous fuel with
  | nil =>
      obtain rfl : first = none := segment
      cases fuel <;> rfl
  | cons index rest induction =>
      obtain ⟨rfl, tail⟩ := segment
      cases fuel with
      | zero => simp at enough
      | succ fuel =>
          rw [List.length_cons, findPosition, findPosition,
            induction (some index) tail (Nat.le_of_succ_le_succ enough)]

/-- The bin of a size that is neither zero nor outside the word is its logarithm. -/
theorem binForBytes_eq_log2 {bytes : Nat} (positive : 0 < bytes) (inWord : bytes < wordLimit) :
    binForBytes bytes = bytes.log2 := by
  rw [binForBytes]
  by_cases one : bytes ≤ 1
  · obtain rfl : bytes = 1 := by omega
    rfl
  · have below : bytes.log2 < 64 := (Nat.log2_lt (by omega)).mpr inWord
    rw [if_neg one]
    simp only [kTlsfBinCount]
    omega

theorem Manages.wellFormed {range : ExtentPool → Extent}
    (manages : header.Manages range header.freeExtents) : header.WellFormed := by
  obtain ⟨lists, unused, represents, extents⟩ := manages.represents
  have threaded := represents.threaded
  obtain ⟨owner, binned, owned⟩ := represents.binned
  have addresses : header.addressList = lists := funext fun pool =>
    (threaded.chain pool).forward.walk_eq (threaded.length_le pool)
  have spares : header.unusedList = unused := by
    refine threaded.spare.walk_eq ?_
    have total := threaded.length
    omega
  have bins : ∀ pool bin, ∃ cells,
      Linked.Chain header.binNext header.binPrevious (header.bins pool bin) cells ∧
        cells.length ≤ header.extentNodeCapacity ∧
        ∀ index, index ∈ cells ↔ header.InBin owner pool bin index := by
    intro pool bin
    obtain ⟨cells, chain, members⟩ := binned.chains pool bin
    refine ⟨cells, chain, ?_, members⟩
    have subset : cells ⊆ lists pool := fun index member =>
      (owned index pool).mp ((members index).mp member).1
    exact (chain.nodup.subperm subset).length_le.trans (threaded.length_le pool)
  have listed : ∀ pool bin, Linked.Chain header.binNext header.binPrevious (header.bins pool bin)
      (header.binList pool bin) ∧
      ∀ index, index ∈ header.binList pool bin ↔ header.InBin owner pool bin index := by
    intro pool bin
    obtain ⟨cells, chain, short, members⟩ := bins pool bin
    have same : header.binList pool bin = cells := chain.forward.walk_eq short
    rw [same]
    exact ⟨chain, members⟩
  refine
    { shared := ?_, marked := ?_, addressed := ?_, inverse := ?_, spare := ?_
      binned := fun pool bin => (listed pool bin).1, binInverse := ?_, binHead := ?_, sized := ?_
      bitmap := ?_, searches := ?_, positions := ?_, counted := ?_ }
  · rw [addresses, spares]
    exact threaded.nodes
  · intro index inside
    rw [addresses]
    constructor
    · intro free
      have member : index ∈ nodesOf lists unused :=
        threaded.nodes.mem_iff.mpr (List.mem_range.mpr inside)
      rcases Threaded.mem_nodesOf.mp member with here | there
      · exact here
      · rw [threaded.unmarked index there] at free
        cases free
    · rintro ⟨pool, member⟩
      exact threaded.free pool index member
  · rw [addresses]
    exact threaded.chain
  · intro pool left here right there
    rw [addresses] at here there
    exact (threaded.chain pool).next_eq_iff here there
  · rw [spares]
    exact threaded.spare
  · intro pool bin left here right there
    exact (listed pool bin).1.next_eq_iff here there
  · intro pool bin index first
    exact (listed pool bin).1.previous_head first
  · intro pool bin index
    rw [(listed pool bin).2, InBin, owned, addresses]
    refine and_congr_right fun member => ?_
    have inside : header.extent index ∈ header.freeExtents pool := by
      rw [← extents]
      exact List.mem_map_of_mem member
    have positive : 0 < header.bytes index := (manages.separated pool).nonempty _ inside
    have inWord : header.offset index + header.bytes index < wordLimit :=
      manages.node_inWord extents pool index member
    have mine : owner index ≠ none := by
      rw [(owned index pool).mpr member]
      exact Option.some_ne_none pool
    rw [binned.sized index mine, binForBytes_eq_log2 positive (by omega)]
  · intro pool bin below
    rw [binned.bitmap pool bin below, (listed pool bin).1.head_eq]
    simp
  · intro pool bin bytes alignment fuel enough
    obtain ⟨cells, chain, short, -⟩ := bins pool bin
    rw [walkBin_eq chain.forward (short.trans enough), walkBin_eq chain.forward short]
  · intro pool offset fuel enough
    have short := threaded.length_le pool
    rw [findPosition_fuel offset none (threaded.chain pool).forward (short.trans enough),
      findPosition_fuel offset none (threaded.chain pool).forward short]
  · rw [spares]
    exact threaded.countP_unused

end ExtentHeader

/-- The extent metadata and the extents that are out. -/
structure ExtentRun where
  header : ExtentHeader
  /-- Extents that were allocated and did not come back. -/
  outstanding : ExtentPool → List Extent

namespace ExtentRun

/-- One call. -/
inductive Label
  /-- `AllocateExtentLocked`; `Allocate` asks for at least one byte. -/
  | allocate (pool : ExtentPool) (bytes alignment : Nat)
  /-- `FreeExtentLocked` for an extent that is out. -/
  | free (pool : ExtentPool) (extent : Extent)

/-- Perform one call. -/
def next (run : ExtentRun) : Label → Option ExtentRun
  | .allocate pool bytes alignment =>
      if 0 < bytes then
        match run.header.allocateExtent pool bytes alignment with
        | (.error _, header) => some { run with header := header }
        | (.ok start, header) =>
            some
              { header := header
                outstanding := Function.update run.outstanding pool
                  (⟨start, bytes⟩ :: run.outstanding pool) }
      else none
  | .free pool extent =>
      if extent ∈ run.outstanding pool then
        let outcome := run.header.freeExtent pool extent.offset extent.bytes
        some
          { header := outcome.2
            outstanding :=
              if outcome.1.isOk then
                Function.update run.outstanding pool ((run.outstanding pool).filter (· ≠ extent))
              else run.outstanding }
      else none

/-- A formatted header without extents that are out. -/
def initial (allocator : Allocator) : ExtentRun := ⟨allocator.extents, fun _ => []⟩

/-- The free extents and the ones that are out share out both pools. -/
structure Shares (layout : AllocatorLayout) (run : ExtentRun) : Prop where
  manages : run.header.Manages layout.range run.header.freeExtents
  /-- Nothing is lost and nothing is out twice. -/
  partition : ∀ pool, Extent.Partition (layout.range pool) (run.header.freeExtents pool)
    { extent | extent ∈ run.outstanding pool } id
  positive : ∀ pool, ∀ extent ∈ run.outstanding pool, 0 < extent.bytes

variable {layout : AllocatorLayout} {run after : ExtentRun} {pool : ExtentPool}

theorem Shares.congr (shares : Shares layout run) {header : ExtentHeader}
    (manages : header.Manages layout.range run.header.freeExtents) :
    Shares layout { run with header := header } := by
  have same := manages.freeExtents_eq
  refine ⟨?_, fun pool => ?_, shares.positive⟩
  · simp only
    rw [same]
    exact manages
  · simp only
    rw [same]
    exact shares.partition pool

theorem Shares.change (shares : Shares layout run) {header : ExtentHeader}
    {free outstanding : List Extent}
    (manages : header.Manages layout.range (Function.update run.header.freeExtents pool free))
    (partition : Extent.Partition (layout.range pool) free { extent | extent ∈ outstanding } id)
    (positive : ∀ extent ∈ outstanding, 0 < extent.bytes) :
    Shares layout ⟨header, Function.update run.outstanding pool outstanding⟩ := by
  have same := manages.freeExtents_eq
  refine ⟨?_, fun other => ?_, fun other => ?_⟩
  · rw [same]
    exact manages
  · simp only
    rw [same]
    by_cases here : other = pool
    · subst here
      simp only [Function.update_self]
      exact partition
    · simp only [Function.update_of_ne here]
      exact shares.partition other
  · by_cases here : other = pool
    · subst here
      simp only [Function.update_self]
      exact positive
    · simp only [Function.update_of_ne here]
      exact shares.positive other

theorem Shares.allocate (shares : Shares layout run) {bytes alignment : Nat}
    (performed : run.next (.allocate pool bytes alignment) = some after) :
    Shares layout after := by
  by_cases positive : 0 < bytes
  · rw [next, if_pos positive] at performed
    rcases @ExtentHeader.Manages.allocateExtent _ _ _ pool bytes alignment shares.manages positive
      with ⟨refused, same, -⟩ | ⟨refused, manages, -⟩ | ⟨start, before, behind, extent, served,
        serves, manages⟩
    · generalize run.header.allocateExtent pool bytes alignment = outcome at *
      obtain ⟨result, header⟩ := outcome
      simp only at refused same
      subst refused same
      cases performed
      exact shares
    · generalize run.header.allocateExtent pool bytes alignment = outcome at *
      obtain ⟨result, header⟩ := outcome
      simp only at refused
      subst refused
      cases performed
      exact shares.congr manages
    · generalize run.header.allocateExtent pool bytes alignment = outcome at *
      obtain ⟨result, header⟩ := outcome
      simp only at served
      subst served
      cases performed
      have separated := shares.manages.separated pool
      have low := serves.low
      have high := serves.high
      have available : Extent.cells ⟨start, bytes⟩ ⊆
          Extent.cellsOf (run.header.freeExtents pool) := by
        intro cell member
        refine ⟨extent, by rw [serves.member]; simp, ?_⟩
        simp only [Extent.mem_cells, Extent.stop] at member high ⊢
        omega
      have fresh : (⟨start, bytes⟩ : Extent) ∉ { extent | extent ∈ run.outstanding pool } := by
        intro out
        have disjoint := (shares.partition pool).unfree _ out
        have first : start ∈ Extent.cells ⟨start, bytes⟩ := by
          simp only [Extent.mem_cells, Extent.stop]
          omega
        exact Set.disjoint_left.mp disjoint first (available first)
      refine shares.change manages ?_ ?_
      · have carved : Extent.cellsOf (before ++ (Extent.remainder extent start bytes ++ behind)) =
            Extent.cellsOf (run.header.freeExtents pool) \ Extent.cells ⟨start, bytes⟩ := by
          rw [serves.member] at separated ⊢
          exact separated.cellsOf_carve low high
        have inserted := (shares.partition pool).insert (fun _ _ => rfl) fresh available carved
        have members : { extent | extent ∈ (⟨start, bytes⟩ : Extent) :: run.outstanding pool } =
            insert ⟨start, bytes⟩ { extent | extent ∈ run.outstanding pool } := by
          ext other
          simp
        rw [members]
        exact inserted
      · intro other member
        rcases List.mem_cons.mp member with rfl | there
        · exact positive
        · exact shares.positive pool other there
  · rw [next, if_neg positive] at performed
    cases performed

theorem Shares.free (shares : Shares layout run) {extent : Extent}
    (performed : run.next (.free pool extent) = some after) : Shares layout after := by
  by_cases out : extent ∈ run.outstanding pool
  · rw [next, if_pos out] at performed
    have positive := shares.positive pool extent out
    obtain ⟨low, high⟩ : (layout.range pool).offset ≤ extent.offset ∧
        extent.stop ≤ (layout.range pool).stop := (shares.partition pool).bounds out positive
    have disjoint : Disjoint extent.cells (Extent.cellsOf (run.header.freeExtents pool)) :=
      (shares.partition pool).unfree extent out
    obtain rfl := Option.some.inj performed
    rcases shares.manages.freeExtent positive low high disjoint with
      ⟨freed, before, behind, result, split, absorbs, manages⟩ | ⟨refused, -, -⟩
    · simp only [freed, Status.isOk_ok, if_true]
      have removed := (shares.partition pool).remove out
        (by rw [absorbs.cellsOf_eq, ← split]; rfl)
      refine shares.change manages ?_ ?_
      · have members : { other | other ∈ (run.outstanding pool).filter (· ≠ extent) } =
            { other | other ∈ run.outstanding pool } \ {extent} := by
          ext other
          simp
        rw [members]
        exact removed
      · intro other member
        exact shares.positive pool other (List.mem_filter.mp member).1
    · simp only [refused, Status.isOk_unavailable, Bool.false_eq_true, if_false]
      exact shares
  · rw [next, if_neg out] at performed
    cases performed

/-- One call keeps the pools shared out. -/
theorem Shares.next (shares : Shares layout run) (label : Label)
    (performed : run.next label = some after) : Shares layout after := by
  cases label with
  | allocate pool bytes alignment => exact shares.allocate performed
  | free pool extent => exact shares.free performed

theorem Shares.of_format {memory : Memory} {allocator : Allocator}
    (format : Allocator.formatSharedAllocator layout memory = .ok allocator) :
    Shares layout (initial allocator) := by
  have ledger := Allocator.Ledger.of_format format
  refine ⟨ledger.manages, fun pool => ?_, fun pool extent out => by cases out⟩
  have partition := ledger.partition pool
  have empty : Allocator.live layout allocator = ∅ := by
    rw [Allocator.formatSharedAllocator] at format
    split at format
    · cases format
    · rw [← Except.ok.inj format]
      ext index
      simp [Allocator.live]
  refine ⟨fun extent out => (by cases out), fun extent out => (by cases out), fun cell => ?_⟩
  rw [partition.cover, empty]
  simp [initial]

/-- In every state of every run the node table is well formed. -/
theorem extent_nodes_wellFormed {memory : Memory} {allocator : Allocator}
    (format : Allocator.formatSharedAllocator layout memory = .ok allocator)
    (execution : Run.Reaches next (initial allocator) run) : run.header.WellFormed := by
  have shares : Shares layout run := execution.preserves (Shares layout) (.of_format format)
    fun _ label _ shares _ performed => shares.next label performed
  exact shares.manages.wellFormed

/-- Two extents are allocated, the first one comes back, and a third one does not fit. -/
def smallRun : List Label :=
  [.allocate .data 640 64, .allocate .data 64 64, .free .data ⟨8192, 640⟩,
    .allocate .coherence 8192 64]

theorem extent_nodes_wellFormed_smallRun :
    ∃ run, Run.runLabels next (initial Allocator.smallRegion) smallRun = some run ∧
      run.header.addressList .data = [2, 0] ∧ run.header.WellFormed := by
  have outcome : (Run.runLabels next (initial Allocator.smallRegion) smallRun).any
      (fun run => run.header.addressList .data = [2, 0]) = true := by
    decide +kernel
  obtain ⟨run, execution, facts⟩ := (Option.any_eq_true _ _).mp outcome
  have format : Allocator.formatSharedAllocator Allocator.smallLayout (fun _ => 0) =
      .ok Allocator.smallRegion := rfl
  exact ⟨run, execution, of_decide_eq_true facts,
    extent_nodes_wellFormed format (Run.reaches_of_runLabels execution)⟩

end ExtentRun
end Cxloom.LoomMem
