import Cxloom.LoomMem.ExtentAllocation

/-!
# Releasing an extent

A released extent is absorbed by the free list of its pool: it joins the extents it touches on
either side, or gets a node of its own.  Only the last case needs an unused node.
-/

namespace Cxloom.LoomMem.ExtentHeader

variable {header : ExtentHeader} {lists : ExtentPool → List Nat} {unused : List Nat}
  {pool : ExtentPool} {index offset bytes : Nat} {front back : List Nat}

/-- The walk stops between the extents before a position and the others. -/
theorem findPosition_spec (offset : Nat) {cells : List Nat} {first : Option Nat}
    (previous : Option Nat)
    {fuel : Nat} (segment : Linked.Segment header.next first cells none)
    (enough : cells.length ≤ fuel) :
    ∃ before after, cells = before ++ after ∧
      header.findPosition offset fuel previous first =
        (before.getLast?.or previous, after.head?) ∧
      (∀ index ∈ before, header.offset index < offset) ∧
      ∀ index, after.head? = some index → offset ≤ header.offset index := by
  induction cells generalizing first previous fuel with
  | nil =>
      obtain rfl : first = none := segment
      refine ⟨[], [], rfl, ?_, by simp, by simp⟩
      cases fuel <;> rfl
  | cons index rest induction =>
      obtain ⟨rfl, tail⟩ := segment
      cases fuel with
      | zero => simp at enough
      | succ fuel =>
          by_cases earlier : header.offset index < offset
          · obtain ⟨before, after, shape, walked, low, high⟩ :=
              induction (some index) tail (Nat.le_of_succ_le_succ enough)
            refine ⟨index :: before, after, by rw [shape]; rfl, ?_, ?_, high⟩
            · rw [findPosition, if_pos earlier, walked, List.getLast?_cons]
              cases before.getLast? <;> rfl
            · intro other member
              rcases List.mem_cons.mp member with rfl | there
              · exact earlier
              · exact low other there
          · refine ⟨[], index :: rest, rfl, ?_, by simp, ?_⟩
            · rw [findPosition, if_neg earlier]
              rfl
            · intro other here
              obtain rfl : index = other := Option.some.inj here
              exact Nat.le_of_not_lt earlier

namespace Represents

variable (represents : header.Represents lists unused)

include represents

/-- A node swallows its successor. -/
theorem merge {previous next : Nat} (split : lists pool = front ++ previous :: next :: back)
    {after : ExtentHeader} {length : Nat}
    (grown : add64 (add64 (header.bytes previous) bytes) (header.bytes next) = length)
    (shape : after =
      (({ header.removeBin pool previous with
          bytes := Function.update header.bytes previous
            (add64 (header.bytes previous) bytes) } : ExtentHeader).mergeNext pool previous
              next).insertBin pool previous) :
    after.Represents (Function.update lists pool (front ++ previous :: back)) (next :: unused) ∧
      after.extent previous = ⟨header.offset previous, length⟩ ∧
      ∀ node, node ≠ previous → after.extent node = header.extent node := by
  subst shape
  obtain ⟨owner, binned, owned⟩ := represents.binned
  have chain := represents.threaded.chain pool
  rw [split] at chain
  have regroup : lists pool = (front ++ [previous]) ++ next :: back := by simp [split]
  have links : header.next next = back.head? ∧ header.previous next = some previous := by
    have chain' := represents.threaded.chain pool
    rw [regroup] at chain'
    simpa using chain'.neighbours
  have minePrevious : owner previous = some pool := (owned previous pool).mpr (by simp [split])
  have mineNext : owner next = some pool := (owned next pool).mpr (by simp [split])
  have apart : next ≠ previous := by
    rintro rfl
    have nodup := chain.nodup
    simp [List.nodup_append] at nodup
  have retired := represents.threaded.retire regroup
  have nextTable : Linked.unlinkNext header.next header.previous next =
      Function.update header.next previous (header.next next) := by
    simp [Linked.unlinkNext, links.2]
  have previousTable : Linked.unlinkPrevious header.next header.previous next =
      (header.mergeNext pool previous next).previous := by
    cases follower : header.next next <;>
      simp [Linked.unlinkPrevious, mergeNext, retireNode, follower, links.2]
  have head : Linked.unlinkHead header.next header.previous (header.freeHead pool) next =
      header.freeHead pool := by
    simp [Linked.unlinkHead, links.2]
  rw [nextTable, previousTable, head, Function.update_eq_self] at retired
  have grownBins : ({ header.removeBin pool previous with
      bytes := Function.update header.bytes previous
        (add64 (header.bytes previous) bytes) } : ExtentHeader).Binned
      (Function.update owner previous none) := by
    refine (binned.removeBin minePrevious).congr (fun _ _ => rfl) (fun _ _ => rfl) (fun _ _ => rfl)
      (fun node owns => ?_) rfl rfl
    refine Function.update_of_ne ?_ _ _
    rintro rfl
    simp at owns
  have merged := @Binned.removeBin _ _ pool next grownBins
    (by rw [Function.update_of_ne apart, mineNext])
  refine ⟨?_, ?_, fun node different => ?_⟩
  · refine of_update (Function.update (Function.update (Function.update owner previous none) next
      none) previous (some pool)) ?_ ?_ owned (fun node => ?_) (fun node other different => ?_)
    · have cells : front ++ previous :: back = (front ++ [previous]) ++ back := by simp
      rw [cells]
      exact retired.congr rfl rfl rfl rfl rfl rfl
    · refine Binned.insertBin (merged.congr (fun _ _ => rfl) (fun _ _ => rfl) (fun _ _ => rfl)
        (fun node owns => ?_) rfl rfl) ?_
      · refine Function.update_of_ne ?_ _ _
        rintro rfl
        simp [Ne.symm apart] at owns
      · simp [Ne.symm apart]
    · have nodup := chain.nodup
      obtain ⟨-, nodupRest, disjoint⟩ := List.nodup_append.mp nodup
      by_cases first : node = previous
      · simp [first]
      · by_cases second : node = next
        · subst second
          have here : node ∉ front := fun inFront =>
            disjoint node inFront node (by simp) rfl
          have there : node ∉ back := by
            simp only [List.nodup_cons] at nodupRest
            exact nodupRest.2.1
          simp [first, here, there]
        · rw [Function.update_of_ne first, Function.update_of_ne second,
            Function.update_of_ne first, owned, split]
          simp [first, second]
    · by_cases first : node = previous
      · subst first
        simp [minePrevious, Ne.symm different]
      · by_cases second : node = next
        · subst second
          simp [first, mineNext, Ne.symm different]
        · rw [Function.update_of_ne first, Function.update_of_ne second,
            Function.update_of_ne first]
  · simp [ExtentHeader.extent, mergeNext, retireNode, apart, grown]
  · simp [ExtentHeader.extent, mergeNext, retireNode, different]

/-- The first unused node gets a released extent of its own. -/
theorem place {extra : Nat} {rest : List Nat} (spare : unused = extra :: rest)
    (split : lists pool = front ++ back) {after : ExtentHeader}
    (shape : after =
      ({ header with
          freeExtentNodeHead := header.next extra
          offset := Function.update (Function.update header.offset extra 0) extra offset
          bytes := Function.update (Function.update header.bytes extra 0) extra bytes
          next := Linked.linkNext (Function.update header.next extra none) front.getLast?
            back.head? extra
          previous := Linked.linkPrevious (Function.update header.previous extra none)
            front.getLast? back.head? extra
          binNext := Function.update header.binNext extra none
          binPrevious := Function.update header.binPrevious extra none
          bin := Function.update header.bin extra 0
          state := Function.update (Function.update header.state extra .unused) extra .free
          freeHead := Function.update header.freeHead pool
            (Linked.linkHead (header.freeHead pool) front.getLast? extra) } :
              ExtentHeader).insertBin pool extra) :
    after.Represents (Function.update lists pool (front ++ extra :: back)) rest ∧
      after.extent extra = ⟨offset, bytes⟩ ∧
      ∀ node, node ≠ extra → after.extent node = header.extent node := by
  subst shape spare
  obtain ⟨owner, binned, owned⟩ := represents.binned
  have unlisted : ∀ pool, extra ∉ lists pool := represents.unlisted List.mem_cons_self
  have unownedExtra : owner extra = none := unowned owned unlisted
  have foreign : ∀ node, owner node ≠ none → node ≠ extra := by
    rintro node owns rfl
    exact owns unownedExtra
  refine ⟨of_update (Function.update owner extra (some pool)) ?_ ?_ owned (fun node => ?_)
    (fun node other different => ?_), ?_, fun node different => ?_⟩
  · exact represents.threaded.insert split rfl rfl rfl rfl rfl (Function.update_self _ _ _)
      fun node different => by simp [different]
  · refine Binned.insertBin (binned.congr (fun node owns => ?_) (fun node owns => ?_)
      (fun node owns => ?_) (fun node owns => ?_) rfl rfl) unownedExtra <;>
    simp [foreign node owns]
  · by_cases same : node = extra
    · simp [same]
    · rw [Function.update_of_ne same, owned, split]
      simp [same]
  · by_cases same : node = extra
    · subst same
      simp [unownedExtra, Ne.symm different]
    · rw [Function.update_of_ne same]
  · simp [ExtentHeader.extent]
  · simp [ExtentHeader.extent, different]

end Represents

/-! ## Managed pools -/

namespace Manages

variable {range : ExtentPool → Extent} {free : ExtentPool → List Extent}

/-- Absorbing a released extent keeps the extents separated and inside their pool. -/
theorem absorb (manages : header.Manages range free) (positive : 0 < bytes)
    (low : (range pool).offset ≤ offset) (high : offset + bytes ≤ (range pool).stop)
    {before after result : List Extent} (split : free pool = before ++ after)
    (absorbs : Extent.Absorbs ⟨offset, bytes⟩ before after result) {header' : ExtentHeader}
    (represents : ∃ lists unused, header'.Represents lists unused ∧
      ∀ other, (lists other).map header'.extent = Function.update free pool result other) :
    header'.Manages range (Function.update free pool result) where
  represents := represents
  separated other := by
    by_cases same : other = pool
    · subst same
      rw [Function.update_self]
      have separated := manages.separated other
      rw [split] at separated
      exact absorbs.separated positive separated
    · rw [Function.update_of_ne same]
      exact manages.separated other
  inRange other part member := by
    by_cases same : other = pool
    · subst same
      rw [Function.update_self] at member
      have inside := manages.inRange other
      rw [split] at inside
      exact absorbs.bounds low high inside part member
    · rw [Function.update_of_ne same] at member
      exact manages.inRange other part member
  inWord := manages.inWord

/-- The nodes around a released extent. -/
structure Gap (header : ExtentHeader) (lists : ExtentPool → List Nat) (pool : ExtentPool)
    (offset bytes : Nat) (before after : List Nat) : Prop where
  /-- The nodes before and behind it. -/
  split : lists pool = before ++ after
  /-- The walk finds the nodes next to it. -/
  position : header.findPosition offset header.extentNodeCapacity none (header.freeHead pool) =
    (before.getLast?, after.head?)
  /-- Nodes before it end before it. -/
  low : ∀ index ∈ before, (header.extent index).stop ≤ offset
  /-- Nodes behind it begin behind it. -/
  high : ∀ index ∈ after, offset + bytes ≤ header.offset index

/-- The walk of a release finds the gap of a range that is not free. -/
theorem gap (manages : header.Manages range free) (represents : header.Represents lists unused)
    (extents : ∀ pool, (lists pool).map header.extent = free pool) (positive : 0 < bytes)
    (disjoint : Disjoint (Extent.cells ⟨offset, bytes⟩) (Extent.cellsOf (free pool))) :
    ∃ before after, Gap header lists pool offset bytes before after := by
  obtain ⟨before, after, split, position, low, high⟩ :=
    findPosition_spec offset none (represents.threaded.chain pool).forward
      (represents.threaded.length_le pool)
  have shape : free pool = before.map header.extent ++ after.map header.extent := by
    rw [← extents, split, List.map_append]
  have separated := manages.separated pool
  rw [shape] at separated disjoint
  obtain ⟨ends, begins⟩ := separated.gap positive disjoint
    (by
      intro extent member
      obtain ⟨index, here, rfl⟩ := List.mem_map.mp member
      exact low index here)
    (by
      intro extent first
      rw [List.head?_map, Option.map_eq_some_iff] at first
      obtain ⟨index, here, rfl⟩ := first
      exact high index here)
  exact ⟨before, after, split, by rw [position, Option.or_none],
    fun index here => ends _ (List.mem_map_of_mem here),
    fun index here => begins _ (List.mem_map_of_mem here)⟩

/-- The extents of a list in which one node changed. -/
theorem map_extent_middle {result : ExtentHeader} (nodup : (front ++ index :: back).Nodup)
    (others : ∀ node, node ≠ index → result.extent node = header.extent node) :
    (front ++ index :: back).map result.extent =
      front.map header.extent ++ result.extent index :: back.map header.extent := by
  obtain ⟨-, nodupBack, disjoint⟩ := List.nodup_append.mp nodup
  rw [List.map_append, List.map_cons]
  congr 1
  · exact List.map_congr_left fun node here =>
      others node (disjoint node here index List.mem_cons_self)
  · congr 1
    refine List.map_congr_left fun node here => others node ?_
    rintro rfl
    exact (List.nodup_cons.mp nodupBack).1 here

def Released (range : ExtentPool → Extent) (free : ExtentPool → List Extent) (pool : ExtentPool)
    (offset bytes : Nat) (result : ExtentHeader) : Prop :=
  ∃ before after extents, free pool = before ++ after ∧
    Extent.Absorbs ⟨offset, bytes⟩ before after extents ∧
    result.Manages range (Function.update free pool extents)

/-- The extents of the pools after one pool took in a released range. -/
theorem absorbed {result : ExtentHeader} {before after cells unused' : List Nat}
    {extents' : List Extent} (manages : header.Manages range free)
    (extents : ∀ pool, (lists pool).map header.extent = free pool) (positive : 0 < bytes)
    (inLow : (range pool).offset ≤ offset) (inHigh : offset + bytes ≤ (range pool).stop)
    (split : lists pool = before ++ after)
    (represents' : result.Represents (Function.update lists pool cells) unused')
    (mapped : cells.map result.extent = extents')
    (others : ∀ other, other ≠ pool → ∀ node ∈ lists other, result.extent node = header.extent node)
    (absorbs : Extent.Absorbs ⟨offset, bytes⟩ (before.map header.extent) (after.map header.extent)
      extents') :
    Released range free pool offset bytes result := by
  have shape : free pool = before.map header.extent ++ after.map header.extent := by
    rw [← extents, split, List.map_append]
  refine ⟨_, _, _, shape, absorbs, manages.absorb positive inLow inHigh shape absorbs
    ⟨_, unused', represents', fun other => ?_⟩⟩
  by_cases same : other = pool
  · subst same
    rw [Function.update_self, Function.update_self, mapped]
  · rw [Function.update_of_ne same, Function.update_of_ne same, ← extents]
    exact List.map_congr_left (others other same)

section Gap

variable {before after : List Nat} (manages : header.Manages range free)
  (extents : ∀ pool, (lists pool).map header.extent = free pool)
  (gap : Gap header lists pool offset bytes before after)

theorem Gap.mem_before (gap : Gap header lists pool offset bytes before after)
    (here : index ∈ before) : index ∈ lists pool := by
  rw [gap.split]
  exact List.mem_append_left _ here

theorem Gap.mem_after (gap : Gap header lists pool offset bytes before after)
    (here : index ∈ after) : index ∈ lists pool := by
  rw [gap.split]
  exact List.mem_append_right _ here

include manages extents

theorem node_stop (here : index ∈ lists pool) :
    add64 (header.offset index) (header.bytes index) = (header.extent index).stop :=
  add64_of_lt (manages.node_inWord extents pool index here)

include gap

/-- The checks for an overlap pass. -/
theorem Gap.fits : ¬(before.getLast?.any (header.endsBehind offset) = true ∨
    after.head?.any (fun next => decide (header.offset next < offset + bytes)) = true) := by
  simp only [Option.any_eq_true, decide_eq_true_eq, endsBehind]
  rintro (⟨index, last, beyond⟩ | ⟨index, first, earlier⟩)
  · have here := List.mem_of_getLast? last
    have ends := gap.low index here
    rw [manages.node_stop extents (gap.mem_before here)] at beyond
    omega
  · have begins := gap.high index (List.mem_of_head? first)
    omega

theorem Gap.separated : Extent.Separated (before.map header.extent) ∧
    Extent.Separated (after.map header.extent) := by
  have separated := manages.separated pool
  rw [← extents, gap.split, List.map_append] at separated
  obtain ⟨earlier, later, -⟩ := Extent.Separated.append_iff.mp separated
  exact ⟨earlier, later⟩

/-- If the last extent before a released one does not touch it, none does. -/
theorem Gap.last_lt (apart : before.getLast?.filter (header.endsAt offset) = none) :
    ∀ extent ∈ before.map header.extent, extent.stop < offset := by
  refine (gap.separated manages extents).1.lt_of_last fun extent last => ?_
  rw [List.getLast?_map, Option.map_eq_some_iff] at last
  obtain ⟨index, last, rfl⟩ := last
  have here := List.mem_of_getLast? last
  have ends := gap.low index here
  have different := (Option.filter_eq_none_iff.mp apart) index last
  rw [endsAt, manages.node_stop extents (gap.mem_before here), decide_eq_true_eq] at different
  omega

/-- If the first extent behind a released one does not touch it, none does. -/
theorem Gap.lt_next
    (apart : after.head?.filter (fun next => decide (offset + bytes = header.offset next)) = none) :
    ∀ extent ∈ after.map header.extent, offset + bytes < extent.offset := by
  refine (gap.separated manages extents).2.lt_of_head fun extent first => ?_
  rw [List.head?_map, Option.map_eq_some_iff] at first
  obtain ⟨index, first, rfl⟩ := first
  have begins := gap.high index (List.mem_of_head? first)
  have different := (Option.filter_eq_none_iff.mp apart) index first
  rw [decide_eq_true_eq] at different
  simp only [extent]
  omega

theorem Gap.previous_grows {front : List Nat} {previous : Nat}
    (touches : before.getLast?.filter (header.endsAt offset) = some previous)
    (shape : before = front ++ [previous]) (inWord : offset + bytes < wordLimit) :
    (header.extent previous).stop = offset ∧
      add64 (header.bytes previous) bytes = header.bytes previous + bytes := by
  obtain ⟨-, ends⟩ := Option.filter_eq_some_iff.mp touches
  have ends : (header.extent previous).stop = offset := by
    rw [← manages.node_stop extents (gap.mem_before (by simp [shape]))]
    simpa [endsAt] using ends
  refine ⟨ends, add64_of_lt ?_⟩
  simp only [extent, Extent.stop] at ends
  omega

end Gap

section Released

variable {before after : List Nat} {previous next : Nat} (manages : header.Manages range free)
  (represents : header.Represents lists unused)
  (extents : ∀ pool, (lists pool).map header.extent = free pool) (positive : 0 < bytes)
  (inLow : (range pool).offset ≤ offset) (inHigh : offset + bytes ≤ (range pool).stop)
  {result : ExtentHeader}

theorem foreign (represents : header.Represents lists unused) (here : index ∈ lists pool)
    (other : ExtentPool) (apart : other ≠ pool) (node : Nat) (there : node ∈ lists other) :
    node ≠ index := by
  rintro rfl
  exact apart (represents.threaded.pool_unique here there)

include manages represents extents positive inLow inHigh

theorem released_both (gap : Gap header lists pool offset bytes before after)
    (last : before.getLast?.filter (header.endsAt offset) = some previous)
    (first : after.head?.filter (fun next => decide (offset + bytes = header.offset next)) =
      some next)
    (shape : result =
      (({ header.removeBin pool previous with
          bytes := Function.update header.bytes previous
            (add64 (header.bytes previous) bytes) } : ExtentHeader).mergeNext pool previous
              next).insertBin pool previous) :
    Released range free pool offset bytes result := by
  have poolWord := manages.inWord pool
  obtain ⟨front, rfl⟩ := List.getLast?_eq_some_iff.mp (Option.filter_eq_some_iff.mp last).1
  obtain ⟨ends, grown⟩ := gap.previous_grows manages extents last rfl (by omega)
  obtain ⟨behind, begins⟩ := Option.filter_eq_some_iff.mp first
  obtain ⟨back, rfl⟩ := List.head?_eq_some_iff.mp behind
  have begins : offset + bytes = header.offset next := of_decide_eq_true begins
  have nextWord := manages.node_inWord extents pool next (gap.mem_after (by simp))
  have total : add64 (add64 (header.bytes previous) bytes) (header.bytes next) =
      header.bytes previous + bytes + header.bytes next := by
    rw [grown]
    refine add64_of_lt ?_
    simp only [extent, Extent.stop] at ends nextWord
    omega
  have regroup : lists pool = front ++ previous :: next :: back := by simp [gap.split]
  obtain ⟨represents', mine, others⟩ := represents.merge regroup total shape
  have short : (front ++ previous :: back).Nodup := by
    have nodup := (represents'.threaded.chain pool).nodup
    rwa [Function.update_self] at nodup
  have mapped := map_extent_middle short others
  rw [mine] at mapped
  refine manages.absorbed extents positive inLow inHigh gap.split represents' mapped
    (fun other apart node there =>
      others node (foreign represents (gap.mem_before (by simp)) other apart node there)) ?_
  rw [List.map_append]
  exact .both _ _ (header.extent previous) (header.extent next) ends begins

/-- One node changed its extent and stayed at its place. -/
theorem released_resized (split : lists pool = front ++ index :: back)
    (gap : Gap header lists pool offset bytes before after) {grown : Extent}
    (represents' : result.Represents lists unused) (mine : result.extent index = grown)
    (others : ∀ node, node ≠ index → result.extent node = header.extent node)
    (absorbs : Extent.Absorbs ⟨offset, bytes⟩ (before.map header.extent) (after.map header.extent)
      (front.map header.extent ++ grown :: back.map header.extent)) :
    Released range free pool offset bytes result := by
  have kept : Function.update lists pool (front ++ index :: back) = lists := by
    rw [← split, Function.update_eq_self]
  rw [← kept] at represents'
  have nodup := (represents.threaded.chain pool).nodup
  rw [split] at nodup
  have mapped := map_extent_middle nodup others
  rw [mine] at mapped
  have here : index ∈ lists pool := by simp [split]
  exact manages.absorbed extents positive inLow inHigh gap.split represents' mapped
    (fun other apart node there =>
      others node (foreign represents here other apart node there)) absorbs

theorem released_previous (gap : Gap header lists pool offset bytes before after)
    (last : before.getLast?.filter (header.endsAt offset) = some previous)
    (apart : after.head?.filter (fun next => decide (offset + bytes = header.offset next)) = none)
    (shape : result = ({ header.removeBin pool previous with
      bytes := Function.update header.bytes previous
        (add64 (header.bytes previous) bytes) } : ExtentHeader).insertBin pool previous) :
    Released range free pool offset bytes result := by
  have poolWord := manages.inWord pool
  obtain ⟨front, rfl⟩ := List.getLast?_eq_some_iff.mp (Option.filter_eq_some_iff.mp last).1
  obtain ⟨ends, grown⟩ := gap.previous_grows manages extents last rfl (by omega)
  have split := gap.split.trans (List.append_assoc front [previous] after)
  obtain ⟨represents', mine, others⟩ := represents.resize split
    ⟨header.offset previous, add64 (header.bytes previous) bytes⟩
    (shape.trans (by rw [Function.update_eq_self]; rfl))
  refine manages.released_resized represents extents positive inLow inHigh split gap represents'
    mine others ?_
  rw [List.map_append, grown]
  exact .previous _ _ (header.extent previous) ends (gap.lt_next manages extents apart)

theorem released_next (gap : Gap header lists pool offset bytes before after)
    (apart : before.getLast?.filter (header.endsAt offset) = none)
    (first : after.head?.filter (fun next => decide (offset + bytes = header.offset next)) =
      some next)
    (shape : result = ({ header.removeBin pool next with
      offset := Function.update header.offset next offset
      bytes := Function.update header.bytes next
        (add64 (header.bytes next) bytes) } : ExtentHeader).insertBin pool next) :
    Released range free pool offset bytes result := by
  obtain ⟨behind, begins⟩ := Option.filter_eq_some_iff.mp first
  obtain ⟨back, rfl⟩ := List.head?_eq_some_iff.mp behind
  have begins : offset + bytes = header.offset next := of_decide_eq_true begins
  have nextWord := manages.node_inWord extents pool next (gap.mem_after (by simp))
  have grown : add64 (header.bytes next) bytes = bytes + header.bytes next := by
    rw [Nat.add_comm bytes]
    refine add64_of_lt ?_
    simp only [extent, Extent.stop] at nextWord
    omega
  obtain ⟨represents', mine, others⟩ := represents.resize gap.split
    ⟨offset, add64 (header.bytes next) bytes⟩ shape
  refine manages.released_resized represents extents positive inLow inHigh gap.split gap represents'
    mine others ?_
  rw [grown]
  exact .next _ _ (header.extent next) (gap.last_lt manages extents apart) begins

/-- A new node holds the extent. -/
theorem released_alone (gap : Gap header lists pool offset bytes before after)
    (apart : before.getLast?.filter (header.endsAt offset) = none)
    (apart' : after.head?.filter (fun next => decide (offset + bytes = header.offset next)) = none)
    {rest : List Nat} (spare : unused = index :: rest)
    (represents' : result.Represents (Function.update lists pool (before ++ index :: after)) rest)
    (mine : result.extent index = ⟨offset, bytes⟩)
    (others : ∀ node, node ≠ index → result.extent node = header.extent node) :
    Released range free pool offset bytes result := by
  have fresh : (before ++ index :: after).Nodup := by
    have nodup := (represents'.threaded.chain pool).nodup
    rwa [Function.update_self] at nodup
  have mapped := map_extent_middle fresh others
  rw [mine] at mapped
  refine manages.absorbed extents positive inLow inHigh gap.split represents' mapped
    (fun other _ node there => others node ?_)
    (.alone _ _ (gap.last_lt manages extents apart) (gap.lt_next manages extents apart'))
  rintro rfl
  exact represents.unlisted (by rw [spare]; exact List.mem_cons_self) other there

end Released

/-- The outcome of `FreeExtentLocked` for a range of the pool that is not free. -/
theorem freeExtent (manages : header.Manages range free) (positive : 0 < bytes)
    (inLow : (range pool).offset ≤ offset) (inHigh : offset + bytes ≤ (range pool).stop)
    (disjoint : Disjoint (Extent.cells ⟨offset, bytes⟩) (Extent.cellsOf (free pool))) :
    ((header.freeExtent pool offset bytes).1 = .ok ∧
      Released range free pool offset bytes (header.freeExtent pool offset bytes).2) ∨
    (header.freeExtent pool offset bytes =
        (.unavailable "shared extent metadata is exhausted", header) ∧
      header.spareNodes free = 0 ∧
      ∀ extent ∈ free pool, extent.stop ≠ offset ∧ offset + bytes ≠ extent.offset) := by
  obtain ⟨lists, unused, represents, extents⟩ := manages.represents
  obtain ⟨before, after, gap⟩ := manages.gap represents extents positive disjoint
  have poolWord := manages.inWord pool
  have stop : add64 offset bytes = offset + bytes := add64_of_lt (by omega)
  simp only [ExtentHeader.freeExtent, gap.position, stop, positive.ne', if_false,
    gap.fits manages extents]
  cases last : before.getLast?.filter (header.endsAt offset) with
  | some previous =>
      cases first : after.head?.filter
        (fun next => decide (offset + bytes = header.offset next)) with
      | some next =>
          exact .inl ⟨rfl, manages.released_both represents extents positive inLow inHigh gap last
            first rfl⟩
      | none =>
          exact .inl
            ⟨rfl, manages.released_previous represents extents positive inLow inHigh gap last
            first rfl⟩
  | none =>
      cases first : after.head?.filter
        (fun next => decide (offset + bytes = header.offset next)) with
      | some next =>
          exact .inl ⟨rfl, manages.released_next represents extents positive inLow inHigh gap last
            first rfl⟩
      | none =>
          cases unused with
          | nil =>
              have exhausted : header.freeExtentNodeHead = none := represents.threaded.spare
              refine .inr ⟨by simp [reserveExtentNode, exhausted], ?_, ?_⟩
              · rw [spareNodes_eq represents extents]
                rfl
              · rw [← extents, gap.split, List.map_append]
                intro extent member
                rcases List.mem_append.mp member with earlier | later
                · have order := gap.last_lt manages extents last extent earlier
                  simp only [Extent.stop] at order ⊢
                  omega
                · have order := gap.lt_next manages extents first extent later
                  simp only [Extent.stop]
                  omega
          | cons extra rest =>
              have available : header.freeExtentNodeHead = some extra := represents.threaded.spare.1
              simp only [reserveExtentNode, available]
              obtain ⟨represents', mine, others⟩ := represents.place rfl gap.split rfl
              exact .inl
                ⟨trivial, manages.released_alone represents extents positive inLow inHigh gap
                last first rfl represents' mine others⟩

/-- Giving a carved range back always works and restores the free extents. -/
theorem undo (manages : header.Manages range free) {alignment start : Nat}
    {before after : List Extent} {extent : Extent}
    (serves : Serves free pool bytes alignment start before after extent) (positive : 0 < bytes)
    {carved : ExtentHeader} (capacity : carved.extentNodeCapacity = header.extentNodeCapacity)
    (carvedManages : carved.Manages range
      (Function.update free pool (before ++ (Extent.remainder extent start bytes ++ after)))) :
    (carved.freeExtent pool start bytes).1 = .ok ∧
      (carved.freeExtent pool start bytes).2.Manages range free := by
  have separated := manages.separated pool
  have inside := manages.inRange pool extent (by rw [serves.member]; simp)
  rw [serves.member] at separated
  have cells := separated.cellsOf_carve serves.low serves.high
  have disjoint : Disjoint (Extent.cells ⟨start, bytes⟩) (Extent.cellsOf
      (Function.update free pool (before ++ (Extent.remainder extent start bytes ++ after))
        pool)) := by
    rw [Function.update_self, cells]
    exact Set.disjoint_sdiff_right
  have low := serves.low
  have high := serves.high
  rcases carvedManages.freeExtent positive (inside.1.trans low) (high.trans inside.2) disjoint with
    ⟨status, front, back, result, split, absorbs, manages'⟩ | ⟨-, exhausted, apart⟩
  · refine ⟨status, ?_⟩
    have whole : Extent.cellsOf result = Extent.cellsOf (free pool) := by
      rw [absorbs.cellsOf_eq, ← split, Function.update_self, cells, ← serves.member,
        Set.sdiff_union_self]
      refine Set.union_eq_left.mpr fun cell member => ?_
      refine ⟨extent, by rw [serves.member]; simp, ?_⟩
      simp only [Extent.mem_cells, Extent.stop] at member high ⊢
      omega
    have separated' := manages'.separated pool
    rw [Function.update_self] at separated'
    have same := separated'.eq_of_cells (manages.separated pool) whole
    rwa [same, Function.update_idem, Function.update_eq_self] at manages'
  · exfalso
    rw [Function.update_self] at apart
    have total := manages.length_le
    have total' := carvedManages.length_le
    have lengths : (Extent.remainder extent start bytes).length = 0 := by
      rw [List.length_eq_zero_iff, List.eq_nil_iff_forall_not_mem]
      intro part member
      have touches := apart part (by simp [member])
      have ends := Extent.remainder_touches low member
      omega
    have shorter : (free pool).length = (before ++
        (Extent.remainder extent start bytes ++ after)).length + 1 := by
      rw [serves.member]
      simp only [List.length_append, List.length_cons, lengths]
      omega
    cases pool <;> simp only [Function.update_self, ne_eq, reduceCtorEq, not_false_eq_true,
      Function.update_of_ne] at total' <;> omega

end Manages

theorem freeExtent_extentNodeCapacity (header : ExtentHeader) (pool : ExtentPool)
    (offset bytes : Nat) :
    (header.freeExtent pool offset bytes).2.extentNodeCapacity = header.extentNodeCapacity := by
  simp only [freeExtent]
  split
  · rfl
  · split
    · rfl
    · split
      · rfl
      · rfl
      · rfl
      · simp only [reserveExtentNode]
        split
        · rfl
        · rename_i granted
          split at granted <;> simp_all
          simp [← granted.2]

end Cxloom.LoomMem.ExtentHeader
