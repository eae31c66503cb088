import Cxloom.LoomMem.ExtentLists

/-!
# Allocating an extent

Splitting a free extent leaves its remainder in the list, in the same place: the two, one or no
pieces that are left when the request is carved out.  Where two pieces need a second node and none
is unused, nothing changes.
-/

namespace Cxloom.LoomMem.ExtentHeader

/-- The header lists given nodes, each binned by its size. -/
structure Represents (header : ExtentHeader) (lists : ExtentPool → List Nat)
    (unused : List Nat) : Prop where
  threaded : header.Threaded lists unused
  binned : ∃ owner, header.Binned owner ∧ ∀ index pool, owner index = some pool ↔ index ∈ lists pool

/-- The bins after a node was taken out and put back with another size. -/
theorem Binned.rebin {header after : ExtentHeader} {owner : Nat → Option ExtentPool}
    {pool : ExtentPool} {index : Nat} (binned : header.Binned owner)
    (mine : owner index = some pool)
    (links : ∀ node, node ≠ index → owner node ≠ none →
      after.binNext node = (header.removeBin pool index).binNext node ∧
        after.binPrevious node = (header.removeBin pool index).binPrevious node ∧
        after.bin node = header.bin node ∧ after.bytes node = header.bytes node)
    (bins : after.bins = (header.removeBin pool index).bins)
    (binBitmap : after.binBitmap = (header.removeBin pool index).binBitmap) :
    (after.insertBin pool index).Binned owner := by
  have apart : ∀ node, Function.update owner index none node ≠ none →
      node ≠ index ∧ owner node ≠ none := by
    intro node owned
    by_cases same : node = index
    · simp [same] at owned
    · rw [Function.update_of_ne same] at owned
      exact ⟨same, owned⟩
  have links' := fun node owned => links node (apart node owned).1 (apart node owned).2
  have removed : after.Binned (Function.update owner index none) :=
    (binned.removeBin mine).congr (fun node owned => (links' node owned).1)
      (fun node owned => (links' node owned).2.1) (fun node owned => (links' node owned).2.2.1)
      (fun node owned => (links' node owned).2.2.2) bins binBitmap
  have inserted : (after.insertBin pool index).Binned _ :=
    removed.insertBin (Function.update_self _ _ _)
  rwa [Function.update_idem, ← mine, Function.update_eq_self] at inserted

namespace Represents

variable {header : ExtentHeader} {lists : ExtentPool → List Nat} {unused : List Nat}
  {pool : ExtentPool} {index start bytes : Nat} {front back : List Nat}

/-- A node outside the pools is in no bin. -/
theorem unowned {owner : Nat → Option ExtentPool} {node : Nat}
    (owned : ∀ index pool, owner index = some pool ↔ index ∈ lists pool)
    (absent : ∀ pool, node ∉ lists pool) : owner node = none := by
  cases found : owner node with
  | none => rfl
  | some pool => exact (absent pool ((owned node pool).mp found)).elim

theorem unlisted (represents : header.Represents lists unused) {node : Nat}
    (spare : node ∈ unused) (pool : ExtentPool) : node ∉ lists pool := fun here =>
  represents.threaded.notMem_unused here spare

/-- Bins and lists after the nodes of one pool changed. -/
theorem of_update {after : ExtentHeader} {cells unused' : List Nat}
    {owner : Nat → Option ExtentPool} (owner' : Nat → Option ExtentPool)
    (threaded : after.Threaded (Function.update lists pool cells) unused')
    (binned : after.Binned owner')
    (owned : ∀ index pool, owner index = some pool ↔ index ∈ lists pool)
    (mine : ∀ node, owner' node = some pool ↔ node ∈ cells)
    (others : ∀ node other, other ≠ pool → (owner' node = some other ↔ owner node = some other)) :
    after.Represents (Function.update lists pool cells) unused' := by
  refine ⟨threaded, owner', binned, fun node other => ?_⟩
  by_cases same : other = pool
  · subst same
    rw [Function.update_self, mine]
  · rw [Function.update_of_ne same, others node other same, owned]

/-- The outcome of a split: the pieces left of the carved extent, in its place. -/
structure SplitInto (header after : ExtentHeader) (lists : ExtentPool → List Nat)
    (unused : List Nat) (pool : ExtentPool) (front back : List Nat) (index start bytes : Nat) :
    Prop where
  pieces : ∃ cells unused',
    after.Represents (Function.update lists pool (front ++ (cells ++ back))) unused' ∧
      cells.map after.extent = Extent.remainder (header.extent index) start bytes
  others : ∀ node, node ≠ index → node ∉ unused → after.extent node = header.extent node

section Split

variable (represents : header.Represents lists unused)
  (split : lists pool = front ++ index :: back)

include represents split

/-- A node that keeps its place and changes its extent. -/
theorem resize {after : ExtentHeader} (extent : Extent)
    (shape : after = ({ header.removeBin pool index with
      offset := Function.update header.offset index extent.offset
      bytes := Function.update header.bytes index extent.bytes } : ExtentHeader).insertBin pool
        index) :
    after.Represents lists unused ∧ after.extent index = extent ∧
      ∀ node, node ≠ index → after.extent node = header.extent node := by
  subst shape
  obtain ⟨owner, binned, owned⟩ := represents.binned
  have mine : owner index = some pool := (owned index pool).mpr (by simp [split])
  refine ⟨⟨represents.threaded.congr rfl rfl rfl rfl rfl rfl, owner, ?_, owned⟩, ?_, ?_⟩
  · exact binned.rebin mine
      (fun node apart _ => ⟨rfl, rfl, rfl, Function.update_of_ne apart _ _⟩) rfl rfl
  · simp [ExtentHeader.extent]
  · intro node apart
    simp [ExtentHeader.extent, apart]

theorem split_whole {after : ExtentHeader}
    (shape : after =
      ({ header.removeBin pool index with
          next := Linked.unlinkNext header.next header.previous index
          previous := Linked.unlinkPrevious header.next header.previous index
          freeHead := Function.update header.freeHead pool
            (Linked.unlinkHead header.next header.previous (header.freeHead pool)
              index) } : ExtentHeader).retireNode index) :
    after.Represents (Function.update lists pool (front ++ back)) (index :: unused) ∧
      after.extent = header.extent := by
  subst shape
  obtain ⟨owner, binned, owned⟩ := represents.binned
  have mine : owner index = some pool := (owned index pool).mpr (by simp [split])
  have nodup := (represents.threaded.chain pool).nodup
  rw [split] at nodup
  obtain ⟨-, nodup, disjoint⟩ := List.nodup_append.mp nodup
  have absent : index ∉ front ++ back := by
    rw [List.mem_append, not_or]
    exact ⟨fun before => disjoint index before index List.mem_cons_self rfl,
      (List.nodup_cons.mp nodup).1⟩
  refine ⟨of_update _ ((represents.threaded.retire split).congr rfl rfl rfl rfl rfl rfl)
    ((binned.removeBin mine).congr (fun _ _ => rfl) (fun _ _ => rfl) (fun _ _ => rfl)
      (fun _ _ => rfl) rfl rfl) owned (fun node => ?_) (fun node other apart => ?_), rfl⟩
  · by_cases same : node = index
    · simp [same, absent]
    · rw [Function.update_of_ne same, owned, split]
      simp [same]
  · by_cases same : node = index
    · subst same
      simp [mine, Ne.symm apart]
    · rw [Function.update_of_ne same]

/-- A second piece gets the first unused node. -/
theorem split_two {extra : Nat} {rest : List Nat} (spare : unused = extra :: rest)
    {after : ExtentHeader} (first second : Extent)
    (shape : after =
      (({ header.removeBin pool index with
          freeExtentNodeHead := header.next extra
          offset := Function.update (Function.update header.offset extra 0) extra second.offset
          bytes := Function.update
            (Function.update (Function.update header.bytes extra 0) extra second.bytes) index
            first.bytes
          next := Linked.linkNext (Function.update header.next extra none) (some index)
            (header.next index) extra
          previous := Linked.linkPrevious (Function.update header.previous extra none) (some index)
            (header.next index) extra
          binNext := Function.update (header.removeBin pool index).binNext extra none
          binPrevious := Function.update (header.removeBin pool index).binPrevious extra none
          bin := Function.update header.bin extra 0
          state := Function.update
            (Function.update (Function.update header.state extra .unused) extra .free) index
              .free } : ExtentHeader).insertBin pool index).insertBin pool extra)
    (begins : first.offset = header.offset index) :
    after.Represents (Function.update lists pool (front ++ ([index, extra] ++ back))) rest ∧
      after.extent index = first ∧ after.extent extra = second ∧
      ∀ node, node ≠ index → node ≠ extra → after.extent node = header.extent node := by
  subst shape spare
  obtain ⟨owner, binned, owned⟩ := represents.binned
  have member : index ∈ lists pool := by simp [split]
  have mine : owner index = some pool := (owned index pool).mpr member
  have unlisted : ∀ pool, extra ∉ lists pool := represents.unlisted List.mem_cons_self
  have unownedExtra : owner extra = none := unowned owned unlisted
  have apart : extra ≠ index := by
    rintro rfl
    exact unlisted pool member
  have marked := represents.threaded.free pool index member
  have follower : header.next index = back.head? := by
    have chain := represents.threaded.chain pool
    rw [split] at chain
    exact chain.neighbours.1
  have placed : lists pool = (front ++ [index]) ++ back := by simp [split]
  have regroup : front ++ ([index, extra] ++ back) = (front ++ [index]) ++ extra :: back := by simp
  have last : (front ++ [index]).getLast? = some index := by simp
  refine ⟨of_update (Function.update owner extra (some pool)) ?_ ?_ owned
    (fun node => ?_) (fun node other different => ?_), ?_, ?_, fun node first second => ?_⟩
  · rw [regroup]
    refine represents.threaded.insert placed rfl ?_ ?_ ?_ rfl ?_ fun node different => ?_
    · rw [last, ← follower]
      rfl
    · rw [last, ← follower]
      rfl
    · simp [last, Linked.linkHead]
    · simp [apart]
    · by_cases same : node = index
      · simp [same, marked]
      · simp [same, different]
  · refine Binned.insertBin (binned.rebin mine (fun node different owns => ?_) ?_ ?_) unownedExtra
    · have foreign : node ≠ extra := by
        rintro rfl
        exact owns unownedExtra
      simp [foreign, different]
    · rfl
    · rfl
  · by_cases same : node = extra
    · simp [same]
    · rw [Function.update_of_ne same, owned, split]
      simp [same]
  · by_cases same : node = extra
    · subst same
      simp [unownedExtra, Ne.symm different]
    · rw [Function.update_of_ne same]
  · cases first
    simp only [ExtentHeader.extent, insertBin_offset, insertBin_bytes, Function.update_self,
      Function.update_of_ne apart.symm, Extent.mk.injEq, and_true]
    exact begins.symm
  · simp [ExtentHeader.extent, apart]
  · simp [ExtentHeader.extent, first, second]

/-- A split that needs a second node when none is unused, or one that leaves the remainder. -/
theorem splitExtent (low : header.offset index ≤ start)
    (high : start + bytes ≤ (header.extent index).stop)
    (inWord : (header.extent index).stop < wordLimit) :
    (unused = [] ∧ header.offset index < start ∧ start + bytes < (header.extent index).stop ∧
      (header.splitExtent pool index start bytes).1 =
        .error (.unavailable "shared extent metadata is exhausted") ∧
      (header.splitExtent pool index start bytes).2.Represents lists unused ∧
      (header.splitExtent pool index start bytes).2.extent = header.extent) ∨
    ((header.splitExtent pool index start bytes).1 = .ok start ∧
      SplitInto header (header.splitExtent pool index start bytes).2 lists unused pool front back
        index start bytes) := by
  have stop : add64 (header.offset index) (header.bytes index) = (header.extent index).stop :=
    add64_of_lt inWord
  have prefixBytes : sub64 start (header.offset index) = start - header.offset index :=
    sub64_of_le low (by omega)
  have suffixOffset : add64 start bytes = start + bytes := add64_of_lt (by omega)
  have suffixBytes : sub64 (header.extent index).stop (start + bytes) =
      (header.extent index).stop - (start + bytes) := sub64_of_le high inWord
  have keeps : Function.update lists pool (front ++ ([index] ++ back)) = lists := by
    have same : front ++ ([index] ++ back) = lists pool := by simp [split]
    rw [same, Function.update_eq_self]
  have remainder : Extent.remainder (header.extent index) start bytes =
      Extent.piece (header.offset index) start ++
        Extent.piece (start + bytes) (header.extent index).stop := rfl
  simp only [ExtentHeader.splitExtent, stop, prefixBytes, suffixOffset, suffixBytes]
  by_cases first : start - header.offset index = 0
  · have begins : header.offset index = start := by omega
    by_cases second : (header.extent index).stop - (start + bytes) = 0
    · have ends : start + bytes = (header.extent index).stop := by omega
      refine .inr ?_
      simp only [first, second, ne_eq, not_true, and_self, if_false]
      obtain ⟨after, same⟩ := represents.split_whole split rfl
      refine ⟨trivial, ⟨[], index :: unused, after, ?_⟩, fun node _ _ => congrFun same node⟩
      simp [remainder, Extent.piece, begins, ends]
    · have ends : start + bytes ≠ (header.extent index).stop := by omega
      refine .inr ?_
      simp only [first, second, ne_eq, not_true, false_and, if_false, not_false_eq_true, if_true]
      obtain ⟨after, mine, others⟩ := represents.resize split
        ⟨start + bytes, (header.extent index).stop - (start + bytes)⟩ rfl
      refine ⟨trivial, ⟨[index], unused, by rwa [keeps], ?_⟩, fun node apart _ => others node apart⟩
      simp only [remainder, Extent.piece, begins, ends, if_true, if_false, List.nil_append]
      exact congrArg (fun extent => [extent]) mine
  · have begins : header.offset index ≠ start := by omega
    by_cases second : (header.extent index).stop - (start + bytes) = 0
    · have ends : start + bytes = (header.extent index).stop := by omega
      refine .inr ?_
      simp only [first, second, ne_eq, not_true, and_false, if_false, not_false_eq_true, if_true]
      obtain ⟨after, mine, others⟩ := represents.resize split
        ⟨header.offset index, start - header.offset index⟩ (by rw [Function.update_eq_self])
      refine ⟨trivial, ⟨[index], unused, by rwa [keeps], ?_⟩, fun node apart _ => others node apart⟩
      simp only [remainder, Extent.piece, begins, ends, if_true, if_false, List.append_nil]
      exact congrArg (fun extent => [extent]) mine
    · have ends : start + bytes ≠ (header.extent index).stop := by omega
      simp only [first, second, ne_eq, not_false_eq_true, and_self, if_true]
      cases unused with
      | nil =>
          have exhausted : header.freeExtentNodeHead = none := represents.threaded.spare
          have refused : (header.removeBin pool index).reserveExtentNode =
              .error (.unavailable "shared extent metadata is exhausted") := by
            simp [reserveExtentNode, exhausted]
          rw [refused]
          have shape : (header.removeBin pool index).insertBin pool index =
              ({ header.removeBin pool index with
                offset := Function.update header.offset index (header.extent index).offset
                bytes := Function.update header.bytes index
                  (header.extent index).bytes } : ExtentHeader).insertBin pool index := by
            simp only [ExtentHeader.extent, Function.update_eq_self]
            rfl
          obtain ⟨after, mine, others⟩ := represents.resize split (header.extent index) shape
          refine .inl ⟨rfl, by omega, by omega, rfl, after, funext fun node => ?_⟩
          by_cases same : node = index
          · rw [same]
            exact mine
          · exact others node same
      | cons extra rest =>
          have available : header.freeExtentNodeHead = some extra := represents.threaded.spare.1
          refine .inr ?_
          simp only [reserveExtentNode, removeBin_freeExtentNodeHead, available]
          obtain ⟨after, mine, new, others⟩ := represents.split_two split rfl
            ⟨header.offset index, start - header.offset index⟩
            ⟨start + bytes, (header.extent index).stop - (start + bytes)⟩ rfl rfl
          refine ⟨trivial, ⟨[index, extra], rest, after, ?_⟩, fun node apart absent =>
            others node apart (by rintro rfl; exact absent List.mem_cons_self)⟩
          simp only [remainder, Extent.piece, begins, ends, if_false]
          exact congrArg₂ (fun first second => [first, second]) mine new

end Split

/-- The nodes of a header can be searched. -/
theorem searchable (represents : header.Represents lists unused)
    (inWord : ∀ pool, ∀ index ∈ lists pool, (header.extent index).stop < wordLimit) :
    ∃ owner, header.Searchable owner ∧
      ∀ index pool, owner index = some pool ↔ index ∈ lists pool := by
  obtain ⟨owner, binned, owned⟩ := represents.binned
  have listed : ∀ index, owner index ≠ none → ∃ pool, index ∈ lists pool := by
    intro index some_
    obtain ⟨pool, mine⟩ := Option.ne_none_iff_exists'.mp some_
    exact ⟨pool, (owned index pool).mp mine⟩
  refine ⟨owner, ⟨binned, fun index some_ => ?_, fun index some_ => ?_⟩, owned⟩
  · exact represents.threaded.lt_capacity (Threaded.mem_nodesOf.mpr (.inl (listed index some_)))
  · obtain ⟨pool, here⟩ := listed index some_
    exact inWord pool index here

theorem map_extent_of_ne (represents : header.Represents lists unused)
    (member : index ∈ lists pool) {other : ExtentPool} (apart : other ≠ pool)
    {after : ExtentHeader}
    (others : ∀ node, node ≠ index → node ∉ unused → after.extent node = header.extent node) :
    (lists other).map after.extent = (lists other).map header.extent := by
  refine List.map_congr_left fun node here => others node ?_ ?_
  · rintro rfl
    exact apart (represents.threaded.pool_unique member here)
  · exact represents.threaded.notMem_unused here

end Represents

/-! ## Managed pools -/

/-- The header manages the free extents of the pools, inside the ranges of the pools. -/
structure Manages (header : ExtentHeader) (range : ExtentPool → Extent)
    (free : ExtentPool → List Extent) : Prop where
  /-- The address lists hold the free extents. -/
  represents : ∃ lists unused, header.Represents lists unused ∧
    ∀ pool, (lists pool).map header.extent = free pool
  separated : ∀ pool, Extent.Separated (free pool)
  inRange : ∀ pool, ∀ extent ∈ free pool,
    (range pool).offset ≤ extent.offset ∧ extent.stop ≤ (range pool).stop
  inWord : ∀ pool, (range pool).stop < wordLimit

def freeExtents (header : ExtentHeader) (pool : ExtentPool) : List Extent :=
  (Linked.walk header.next header.extentNodeCapacity (header.freeHead pool)).map header.extent

def spareNodes (header : ExtentHeader) (free : ExtentPool → List Extent) : Nat :=
  header.extentNodeCapacity - ((free .data).length + (free .coherence).length)

/-- A request is served from a free extent. -/
structure Serves (free : ExtentPool → List Extent) (pool : ExtentPool)
    (bytes alignment start : Nat) (before after : List Extent) (extent : Extent) : Prop
    extends extent.Serves bytes alignment start where
  member : free pool = before ++ extent :: after

namespace Manages

variable {header : ExtentHeader} {range : ExtentPool → Extent} {free : ExtentPool → List Extent}
  {pool : ExtentPool} {bytes alignment : Nat}

theorem spareNodes_eq {lists : ExtentPool → List Nat} {unused : List Nat}
    (represents : header.Represents lists unused)
    (extents : ∀ pool, (lists pool).map header.extent = free pool) :
    header.spareNodes free = unused.length := by
  have total := represents.threaded.length
  have lengths : ∀ pool, (free pool).length = (lists pool).length := by
    intro pool
    rw [← extents, List.length_map]
  simp only [spareNodes, lengths]
  omega

/-- The managed extents are the ones of the address lists. -/
theorem freeExtents_eq (manages : header.Manages range free) : header.freeExtents = free := by
  obtain ⟨lists, unused, represents, extents⟩ := manages.represents
  funext pool
  rw [freeExtents, (represents.threaded.chain pool).forward.walk_eq
    (represents.threaded.length_le pool), extents]

/-- The free extents of both pools fit into the node table. -/
theorem length_le (manages : header.Manages range free) :
    (free .data).length + (free .coherence).length + header.spareNodes free =
      header.extentNodeCapacity := by
  obtain ⟨lists, unused, represents, extents⟩ := manages.represents
  have total := represents.threaded.length
  rw [spareNodes_eq represents extents, ← extents, ← extents, List.length_map, List.length_map]
  exact total

theorem node_inWord (manages : header.Manages range free) {lists : ExtentPool → List Nat}
    (extents : ∀ pool, (lists pool).map header.extent = free pool) (pool : ExtentPool) (index : Nat)
    (member : index ∈ lists pool) : (header.extent index).stop < wordLimit := by
  have here : header.extent index ∈ free pool := by
    rw [← extents]
    exact List.mem_map_of_mem member
  exact ((manages.inRange pool _ here).2).trans_lt (manages.inWord pool)

/-- Carving a request out of a free extent keeps the extents separated and inside their pool. -/
theorem carve (manages : header.Manages range free) (positive : 0 < bytes) {start : Nat}
    {before after : List Extent} {extent : Extent}
    (serves : Serves free pool bytes alignment start before after extent) {result : ExtentHeader}
    (represents : ∃ lists unused, result.Represents lists unused ∧
      ∀ other, (lists other).map result.extent =
        Function.update free pool (before ++ (Extent.remainder extent start bytes ++ after))
          other) :
    result.Manages range
      (Function.update free pool
        (before ++ (Extent.remainder extent start bytes ++ after))) where
  represents := represents
  separated other := by
    by_cases same : other = pool
    · subst same
      rw [Function.update_self]
      have separated := manages.separated other
      rw [serves.member] at separated
      exact separated.carve serves.low serves.high positive
    · rw [Function.update_of_ne same]
      exact manages.separated other
  inRange other part member := by
    by_cases same : other = pool
    · subst same
      rw [Function.update_self] at member
      have inside := manages.inRange other
      rw [serves.member] at inside
      rcases List.mem_append.mp member with here | there
      · exact inside part (List.mem_append_left _ here)
      · rcases List.mem_append.mp there with piece | behind
        · have around := inside extent (by simp)
          have part_ := Extent.mem_remainder serves.low serves.high piece
          omega
        · exact inside part (by simp [behind])
    · rw [Function.update_of_ne same] at member
      exact manages.inRange other part member
  inWord := manages.inWord

/-- A served request is aligned, was free, and is no longer free. -/
theorem taken (manages : header.Manages range free) {start : Nat} {before after : List Extent}
    {extent : Extent} (serves : Serves free pool bytes alignment start before after extent)
    (power : alignment.isPowerOfTwo) (fits : alignment < wordLimit) :
    alignment ∣ start ∧ Extent.cells ⟨start, bytes⟩ ⊆ Extent.cellsOf (free pool) ∧
      Extent.cellsOf (before ++ (Extent.remainder extent start bytes ++ after)) =
        Extent.cellsOf (free pool) \ Extent.cells ⟨start, bytes⟩ := by
  have low := serves.low
  have high := serves.high
  refine ⟨?_, fun cell member => ?_, ?_⟩
  · rw [serves.aligned] at low ⊢
    rcases small_of_le_alignUp power fits low with small | zero
    · exact (alignUp_spec power fits small).2.2.1
    · rw [zero, alignUp_of_dvd power fits (by omega) (Nat.dvd_zero _)]
      exact Nat.dvd_zero _
  · refine ⟨extent, by rw [serves.member]; simp, ?_⟩
    simp only [Extent.mem_cells, Extent.stop] at member high ⊢
    omega
  · have separated := manages.separated pool
    rw [serves.member] at separated ⊢
    exact separated.cellsOf_carve low high

/-- The outcome of `AllocateExtentLocked`. -/
theorem allocateExtent (manages : header.Manages range free) (positive : 0 < bytes) :
    ((header.allocateExtent pool bytes alignment).1 =
        .error (.unavailable "shared extent pool is exhausted") ∧
      (header.allocateExtent pool bytes alignment).2 = header ∧
      header.findExtent pool bytes alignment = none) ∨
    ((header.allocateExtent pool bytes alignment).1 =
        .error (.unavailable "shared extent metadata is exhausted") ∧
      (header.allocateExtent pool bytes alignment).2.Manages range free ∧
      header.spareNodes free = 0) ∨
    ∃ start before after extent,
      (header.allocateExtent pool bytes alignment).1 = .ok start ∧
        Serves free pool bytes alignment start before after extent ∧
        (header.allocateExtent pool bytes alignment).2.Manages range
          (Function.update free pool
            (before ++ (Extent.remainder extent start bytes ++ after))) := by
  obtain ⟨lists, unused, represents, extents⟩ := manages.represents
  have inWord := manages.node_inWord extents
  obtain ⟨owner, searchable, owned⟩ := represents.searchable inWord
  simp only [ExtentHeader.allocateExtent]
  cases found : header.findExtent pool bytes alignment with
  | none => exact .inl ⟨rfl, rfl, rfl⟩
  | some fit =>
      obtain ⟨index, start⟩ := fit
      obtain ⟨mine, aligned⟩ := searchable.findExtent_eq_some found
      have member := (owned index pool).mp mine
      obtain ⟨front, back, split⟩ := List.append_of_mem member
      obtain ⟨begins, low, high⟩ := (alignedStart_eq_some (inWord pool index member)).mp aligned
      refine .inr ?_
      rcases represents.splitExtent split low high (inWord pool index member) with
        ⟨spare, -, -, status, after, same⟩ | ⟨status, ⟨cells, unused', after, pieces⟩, others⟩
      · refine .inl ⟨status, ⟨⟨lists, unused, after, fun other => ?_⟩, manages.separated,
          manages.inRange, manages.inWord⟩, ?_⟩
        · rw [same, extents]
        · rw [spareNodes_eq represents extents, spare]
          rfl
      · have shape : free pool = front.map header.extent ++
            header.extent index :: back.map header.extent := by
          rw [← extents, split, List.map_append, List.map_cons]
        have serves : Serves free pool bytes alignment start (front.map header.extent)
            (back.map header.extent) (header.extent index) := ⟨⟨begins, low, high⟩, shape⟩
        refine .inr ⟨start, _, _, _, status, serves, manages.carve positive serves
          ⟨_, unused', after, fun other => ?_⟩⟩
        by_cases same : other = pool
        · subst same
          have nodup := (represents.threaded.chain other).nodup
          rw [split] at nodup
          obtain ⟨-, nodupBack, disjoint⟩ := List.nodup_append.mp nodup
          have kept : ∀ node ∈ lists other, node ≠ index →
              (header.splitExtent other index start bytes).2.extent node = header.extent node :=
            fun node here apart => others node apart (represents.threaded.notMem_unused here)
          have frontKept : front.map (header.splitExtent other index start bytes).2.extent =
              front.map header.extent :=
            List.map_congr_left fun node here => kept node (by simp [split, here])
              (disjoint node here index List.mem_cons_self)
          have backKept : back.map (header.splitExtent other index start bytes).2.extent =
              back.map header.extent := by
            refine List.map_congr_left fun node here => kept node (by simp [split, here]) ?_
            rintro rfl
            exact (List.nodup_cons.mp nodupBack).1 here
          rw [Function.update_self, Function.update_self, List.map_append, List.map_append,
            frontKept, pieces, backKept]
        · rw [Function.update_of_ne same, Function.update_of_ne same,
            represents.map_extent_of_ne member same others, extents]

end Manages

theorem splitExtent_extentNodeCapacity (header : ExtentHeader) (pool : ExtentPool)
    (index start bytes : Nat) :
    (header.splitExtent pool index start bytes).2.extentNodeCapacity =
      header.extentNodeCapacity := by
  simp only [splitExtent]
  split
  · simp only [reserveExtentNode]
    split
    · rename_i refused
      split at refused <;> simp_all
    · rename_i granted
      split at granted <;> simp_all
      simp [← granted.2]
  · split
    · rfl
    · split <;> rfl

/-- The number of nodes never changes. -/
theorem allocateExtent_extentNodeCapacity (header : ExtentHeader) (pool : ExtentPool)
    (bytes alignment : Nat) :
    (header.allocateExtent pool bytes alignment).2.extentNodeCapacity =
      header.extentNodeCapacity := by
  simp only [allocateExtent]
  split
  · rfl
  · exact splitExtent_extentNodeCapacity _ _ _ _ _

end Cxloom.LoomMem.ExtentHeader
