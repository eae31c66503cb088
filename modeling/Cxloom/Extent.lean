import Mathlib.Data.List.Perm.Subperm
import Mathlib.Data.Set.Lattice
import Mathlib.Data.Set.Pairwise.Basic
import Mathlib.Order.CompletePartialOrder
import Mathlib.Order.Interval.Set.Basic

/-!
# Extents

Ranges of cells, and lists of ranges in increasing order with a gap between any two of them.  Such a
list is determined by the cells it covers.  A range can be carved out of one of its members, and a
range between two members can be absorbed.  The ranges in use and the free ones share out a pool.
-/

namespace Cxloom

/-- A range of cells. -/
structure Extent where
  /-- First cell. -/
  offset : Nat
  /-- Number of cells. -/
  bytes : Nat
deriving DecidableEq, Repr

namespace Extent

/-- First cell behind the range. -/
def stop (extent : Extent) : Nat := extent.offset + extent.bytes

/-- Cells of the range. -/
def cells (extent : Extent) : Set Nat := Set.Ico extent.offset extent.stop

def cellsOf (extents : List Extent) : Set Nat :=
  { cell | ∃ extent ∈ extents, cell ∈ extent.cells }

@[simp] theorem mem_cells {extent : Extent} {cell : Nat} :
    cell ∈ extent.cells ↔ extent.offset ≤ cell ∧ cell < extent.stop := Iff.rfl

@[simp] theorem cellsOf_nil : cellsOf [] = ∅ := by
  simp [cellsOf]

@[simp] theorem cellsOf_cons (extent : Extent) (extents : List Extent) :
    cellsOf (extent :: extents) = extent.cells ∪ cellsOf extents := by
  ext cell
  simp [cellsOf]

@[simp] theorem cellsOf_append (first second : List Extent) :
    cellsOf (first ++ second) = cellsOf first ∪ cellsOf second := by
  induction first with
  | nil => simp
  | cons extent rest induction => simp [induction, Set.union_assoc]

/-- Non-empty ranges in increasing order, no two of them overlapping or touching. -/
structure Separated (extents : List Extent) : Prop where
  /-- No range is empty. -/
  nonempty : ∀ extent ∈ extents, 0 < extent.bytes
  /-- A gap lies between any two ranges. -/
  apart : extents.Pairwise fun before after => before.stop < after.offset

namespace Separated

variable {first second extents others : List Extent} {extent other : Extent}

theorem append_iff : Separated (first ++ second) ↔
    Separated first ∧ Separated second ∧
      ∀ before ∈ first, ∀ after ∈ second, before.stop < after.offset := by
  constructor
  · rintro ⟨nonempty, apart⟩
    obtain ⟨left, right, between⟩ := List.pairwise_append.mp apart
    exact ⟨⟨fun extent member => nonempty extent (List.mem_append_left _ member), left⟩,
      ⟨fun extent member => nonempty extent (List.mem_append_right _ member), right⟩, between⟩
  · rintro ⟨left, right, between⟩
    refine ⟨fun extent member => ?_, List.pairwise_append.mpr ⟨left.apart, right.apart, between⟩⟩
    rcases List.mem_append.mp member with here | there
    · exact left.nonempty extent here
    · exact right.nonempty extent there

theorem cons_iff : Separated (extent :: extents) ↔
    0 < extent.bytes ∧ (∀ after ∈ extents, extent.stop < after.offset) ∧ Separated extents := by
  constructor
  · rintro ⟨nonempty, apart⟩
    obtain ⟨before, rest⟩ := List.pairwise_cons.mp apart
    exact ⟨nonempty extent List.mem_cons_self, before,
      ⟨fun other member => nonempty other (List.mem_cons_of_mem _ member), rest⟩⟩
  · rintro ⟨positive, before, rest⟩
    refine ⟨fun other member => ?_, List.pairwise_cons.mpr ⟨before, rest.apart⟩⟩
    rcases List.mem_cons.mp member with rfl | there
    · exact positive
    · exact rest.nonempty other there

theorem nil : Separated [] := ⟨by simp, List.Pairwise.nil⟩

theorem singleton (positive : 0 < extent.bytes) : Separated [extent] :=
  cons_iff.mpr ⟨positive, by simp, nil⟩

/-- No cell lies before the first range. -/
theorem offset_le (separated : Separated (extent :: extents)) {cell : Nat}
    (member : cell ∈ cellsOf (extent :: extents)) : extent.offset ≤ cell := by
  obtain ⟨-, before, -⟩ := cons_iff.mp separated
  obtain ⟨found, here, low, -⟩ := member
  rcases List.mem_cons.mp here with rfl | there
  · exact low
  · have gap := before found there
    simp only [stop] at gap
    omega

/-- The cells behind the first range belong to the others. -/
theorem mem_tail_iff (separated : Separated (extent :: extents)) {cell : Nat} :
    cell ∈ cellsOf extents ↔ cell ∈ cellsOf (extent :: extents) ∧ extent.stop < cell := by
  obtain ⟨-, before, -⟩ := cons_iff.mp separated
  constructor
  · rintro ⟨found, there, low, high⟩
    exact ⟨⟨found, List.mem_cons_of_mem _ there, low, high⟩,
      (before found there).trans_le low⟩
  · rintro ⟨⟨found, here, low, high⟩, behind⟩
    rcases List.mem_cons.mp here with rfl | there
    · exact absurd high (by omega)
    · exact ⟨found, there, low, high⟩

theorem stop_not_mem (separated : Separated (extent :: extents)) :
    extent.stop ∉ cellsOf (extent :: extents) := by
  intro member
  rw [cellsOf_cons] at member
  rcases member with own | later
  · exact (mem_cells.mp own).2.ne rfl
  · exact ((separated.mem_tail_iff.mp later).2).ne rfl

theorem offset_mem (separated : Separated (extent :: extents)) :
    extent.offset ∈ cellsOf (extent :: extents) := by
  obtain ⟨positive, -, -⟩ := cons_iff.mp separated
  refine ⟨extent, List.mem_cons_self, Nat.le_refl _, ?_⟩
  simp only [stop]
  omega

/-- The first range of a list begins and ends no later than that of a list with the same cells. -/
theorem head_le (separated : Separated (extent :: extents))
    (separated' : Separated (other :: others))
    (same : cellsOf (extent :: extents) = cellsOf (other :: others)) :
    extent.offset ≤ other.offset ∧ (other.offset ≤ extent.offset → other.stop ≤ extent.stop) := by
  refine ⟨separated.offset_le (same ▸ separated'.offset_mem), fun low => ?_⟩
  by_contra longer
  apply separated.stop_not_mem
  rw [same]
  refine ⟨other, List.mem_cons_self, ?_, Nat.lt_of_not_le longer⟩
  simp only [stop]
  omega

/-- Lists with the same cells are equal. -/
theorem eq_of_cells (separated : Separated extents) (separated' : Separated others)
    (same : cellsOf extents = cellsOf others) : extents = others := by
  induction extents generalizing others with
  | nil =>
      cases others with
      | nil => rfl
      | cons other rest =>
          have member := separated'.offset_mem
          rw [← same] at member
          simp at member
  | cons extent rest induction =>
      cases others with
      | nil =>
          have member := separated.offset_mem
          rw [same] at member
          simp at member
      | cons other rest' =>
          obtain ⟨low, high⟩ := separated.head_le separated' same
          obtain ⟨low', high'⟩ := separated'.head_le separated same.symm
          have stops : extent.stop = other.stop := Nat.le_antisymm (high' low) (high low')
          have heads : extent = other := by
            cases extent
            cases other
            simp only [stop, mk.injEq] at low low' stops ⊢
            omega
          subst heads
          obtain ⟨-, -, tail⟩ := cons_iff.mp separated
          obtain ⟨-, -, tail'⟩ := cons_iff.mp separated'
          rw [induction tail tail']
          ext cell
          rw [separated.mem_tail_iff, separated'.mem_tail_iff, same]

end Separated

/-- A range that ends before the first of a list ends before all of it. -/
theorem Separated.lt_of_head {extents : List Extent} (separated : Separated extents) {bound : Nat}
    (first : ∀ extent, extents.head? = some extent → bound < extent.offset) :
    ∀ extent ∈ extents, bound < extent.offset := by
  intro extent member
  cases extents with
  | nil => cases member
  | cons head rest =>
      obtain ⟨-, behind, -⟩ := cons_iff.mp separated
      have begins := first head rfl
      rcases List.mem_cons.mp member with rfl | there
      · exact begins
      · have order := behind extent there
        simp only [stop] at order
        omega

/-- A range that begins behind the last of a list begins behind all of it. -/
theorem Separated.lt_of_last {extents : List Extent} (separated : Separated extents) {bound : Nat}
    (last : ∀ extent, extents.getLast? = some extent → extent.stop < bound) :
    ∀ extent ∈ extents, extent.stop < bound := by
  intro extent member
  rcases List.eq_nil_or_concat extents with rfl | ⟨front, final, rfl⟩
  · cases member
  · rw [List.concat_eq_append] at *
    obtain ⟨-, -, before⟩ := append_iff.mp separated
    have ends := last final (by simp)
    rcases List.mem_append.mp member with here | there
    · have order := before extent here final List.mem_cons_self
      simp only [stop] at order ends ⊢
      omega
    · rw [List.mem_singleton.mp there]
      exact ends

/-- A range disjoint from a list lies in the gap between the ranges that begin before it and the
others. -/
theorem Separated.gap {before after : List Extent} {range : Extent}
    (separated : Separated (before ++ after)) (positive : 0 < range.bytes)
    (disjoint : Disjoint range.cells (cellsOf (before ++ after)))
    (low : ∀ extent ∈ before, extent.offset < range.offset)
    (high : ∀ extent, after.head? = some extent → range.offset ≤ extent.offset) :
    (∀ extent ∈ before, extent.stop ≤ range.offset) ∧
      ∀ extent ∈ after, range.stop ≤ extent.offset := by
  rw [Set.disjoint_left] at disjoint
  have later : ∀ extent ∈ after, range.offset ≤ extent.offset := by
    intro extent member
    by_contra earlier
    have order : ∀ first, after.head? = some first → range.offset - 1 < first.offset := by
      intro first here
      have begins := high first here
      omega
    have behind := (append_iff.mp separated).2.1.lt_of_head order extent member
    omega
  constructor
  · intro extent member
    by_contra beyond
    refine disjoint (a := range.offset) ⟨Nat.le_refl _, ?_⟩
      ⟨extent, List.mem_append_left _ member, (low extent member).le, by omega⟩
    simp only [stop]
    omega
  · intro extent member
    by_contra beyond
    have nonempty := separated.nonempty extent (List.mem_append_right _ member)
    refine disjoint (a := extent.offset) ⟨later extent member, by omega⟩
      ⟨extent, List.mem_append_right _ member, Nat.le_refl _, ?_⟩
    simp only [stop]
    omega

/-! ## Carving -/

/-- The range between two positions, unless it is empty. -/
def piece (low high : Nat) : List Extent :=
  if low = high then [] else [⟨low, high - low⟩]

/-- What is left of a range when `bytes` cells from `start` on are taken out. -/
def remainder (extent : Extent) (start bytes : Nat) : List Extent :=
  piece extent.offset start ++ piece (start + bytes) extent.stop

theorem mem_piece {low high : Nat} (ordered : low ≤ high) {extent : Extent}
    (member : extent ∈ piece low high) :
    0 < extent.bytes ∧ extent.offset = low ∧ extent.stop = high := by
  simp only [piece] at member
  split at member
  · simp at member
  · obtain rfl := List.mem_singleton.mp member
    simp only [stop, true_and]
    omega

theorem cellsOf_piece {low high : Nat} (ordered : low ≤ high) :
    cellsOf (piece low high) = Set.Ico low high := by
  simp only [piece]
  split
  · rename_i same
    simp [same]
  · ext cell
    simp only [cellsOf_cons, cellsOf_nil, Set.union_empty, mem_cells, stop, Set.mem_Ico]
    omega

section Carve

variable {before after : List Extent} {extent : Extent} {start bytes : Nat}

theorem mem_remainder {part : Extent} (low : extent.offset ≤ start)
    (high : start + bytes ≤ extent.stop) (member : part ∈ remainder extent start bytes) :
    0 < part.bytes ∧ extent.offset ≤ part.offset ∧ part.stop ≤ extent.stop := by
  rcases List.mem_append.mp member with first | second
  · obtain ⟨positive, from_, to_⟩ := mem_piece low first
    omega
  · obtain ⟨positive, from_, to_⟩ := mem_piece high second
    omega

/-- Every piece touches the carved range. -/
theorem remainder_touches {part : Extent} (low : extent.offset ≤ start)
    (member : part ∈ remainder extent start bytes) :
    part.stop = start ∨ start + bytes = part.offset := by
  rcases List.mem_append.mp member with here | there
  · refine .inl ?_
    rw [piece] at here
    split at here
    · cases here
    · obtain rfl := List.mem_singleton.mp here
      simp only [stop]
      omega
  · refine .inr ?_
    rw [piece] at there
    split at there
    · cases there
    · obtain rfl := List.mem_singleton.mp there
      rfl

theorem separated_remainder (low : extent.offset ≤ start) (high : start + bytes ≤ extent.stop)
    (positive : 0 < bytes) : Separated (remainder extent start bytes) := by
  refine ⟨fun part member => (mem_remainder low high member).1, ?_⟩
  refine List.pairwise_append.mpr ⟨?_, ?_, ?_⟩
  · simp only [piece]
    split <;> simp
  · simp only [piece]
    split <;> simp
  · intro first here second there
    obtain ⟨-, -, ends⟩ := mem_piece low here
    obtain ⟨-, begins, -⟩ := mem_piece high there
    omega

theorem cellsOf_remainder (low : extent.offset ≤ start) (high : start + bytes ≤ extent.stop) :
    cellsOf (remainder extent start bytes) = extent.cells \ cells ⟨start, bytes⟩ := by
  ext cell
  simp only [remainder, cellsOf_append, cellsOf_piece low, cellsOf_piece high, Set.mem_union,
    Set.mem_Ico, Set.mem_sdiff, mem_cells]
  simp only [stop] at high ⊢
  omega

/-- Carving keeps the list separated. -/
theorem Separated.carve (separated : Separated (before ++ extent :: after))
    (low : extent.offset ≤ start) (high : start + bytes ≤ extent.stop) (positive : 0 < bytes) :
    Separated (before ++ (remainder extent start bytes ++ after)) := by
  obtain ⟨left, middle, between⟩ := append_iff.mp separated
  obtain ⟨-, gap, right⟩ := cons_iff.mp middle
  refine append_iff.mpr ⟨left,
    append_iff.mpr
      ⟨separated_remainder low high positive, right, fun part member other there => ?_⟩,
    fun other here part member => ?_⟩
  · exact (mem_remainder low high member).2.2.trans_lt (gap other there)
  · rcases List.mem_append.mp member with inside | there
    · exact (between other here extent List.mem_cons_self).trans_le
        (mem_remainder low high inside).2.1
    · exact between other here part (List.mem_cons_of_mem _ there)

/-- The ranges of a separated list are disjoint. -/
theorem Separated.disjoint (separated : Separated (before ++ extent :: after)) :
    Disjoint extent.cells (cellsOf (before ++ after)) := by
  obtain ⟨-, middle, between⟩ := append_iff.mp separated
  obtain ⟨-, gap, -⟩ := cons_iff.mp middle
  rw [Set.disjoint_left]
  rintro cell ⟨low, high⟩ ⟨other, member, low', high'⟩
  rcases List.mem_append.mp member with here | there
  · have order := between other here extent List.mem_cons_self
    omega
  · have order := gap other there
    omega

/-- Carving takes out exactly the carved cells. -/
theorem Separated.cellsOf_carve (separated : Separated (before ++ extent :: after))
    (low : extent.offset ≤ start) (high : start + bytes ≤ extent.stop) :
    cellsOf (before ++ (remainder extent start bytes ++ after)) =
      cellsOf (before ++ extent :: after) \ cells ⟨start, bytes⟩ := by
  have disjoint := separated.disjoint
  rw [cellsOf_append, Set.disjoint_union_right] at disjoint
  have inside : cells ⟨start, bytes⟩ ⊆ extent.cells := by
    rintro cell ⟨from_, to_⟩
    simp only [stop] at to_ high
    exact ⟨low.trans from_, by simp only [stop]; omega⟩
  have left : cellsOf before \ cells ⟨start, bytes⟩ = cellsOf before :=
    (disjoint.1.mono_left inside).symm.sdiff_eq_left
  have right : cellsOf after \ cells ⟨start, bytes⟩ = cellsOf after :=
    (disjoint.2.mono_left inside).symm.sdiff_eq_left
  simp only [cellsOf_append, cellsOf_cons, cellsOf_remainder low high, Set.union_sdiff_distrib,
    left, right]

end Carve

/-! ## Absorbing -/

/-- Absorbing a range between two parts of a list: it is joined with the range it touches on either
side, or stands alone. -/
inductive Absorbs (range : Extent) : List Extent → List Extent → List Extent → Prop
  | alone (before after : List Extent) :
      (∀ previous ∈ before, previous.stop < range.offset) →
      (∀ next ∈ after, range.stop < next.offset) →
      Absorbs range before after (before ++ range :: after)
  | previous (before after : List Extent) (previous : Extent) :
      previous.stop = range.offset → (∀ next ∈ after, range.stop < next.offset) →
      Absorbs range (before ++ [previous]) after
        (before ++ ⟨previous.offset, previous.bytes + range.bytes⟩ :: after)
  | next (before after : List Extent) (next : Extent) :
      (∀ previous ∈ before, previous.stop < range.offset) → range.stop = next.offset →
      Absorbs range before (next :: after)
        (before ++ ⟨range.offset, range.bytes + next.bytes⟩ :: after)
  | both (before after : List Extent) (previous next : Extent) :
      previous.stop = range.offset → range.stop = next.offset →
      Absorbs range (before ++ [previous]) (next :: after)
        (before ++ ⟨previous.offset, previous.bytes + range.bytes + next.bytes⟩ :: after)

namespace Absorbs

variable {range : Extent} {before after result : List Extent}

/-- Absorbing keeps the list separated. -/
theorem separated (absorbs : Absorbs range before after result) (positive : 0 < range.bytes)
    (separated : Separated (before ++ after)) : Separated result := by
  obtain ⟨left, right, between⟩ := Separated.append_iff.mp separated
  cases absorbs with
  | alone _ _ low high =>
      refine Separated.append_iff.mpr ⟨left, Separated.cons_iff.mpr ⟨positive, high, right⟩, ?_⟩
      intro earlier here later there
      rcases List.mem_cons.mp there with rfl | behind
      · exact low earlier here
      · exact between earlier here later behind
  | previous start _ previous touches high =>
      obtain ⟨left', last, gap⟩ := Separated.append_iff.mp left
      refine Separated.append_iff.mpr ⟨left', Separated.cons_iff.mpr ⟨?_, ?_, right⟩, ?_⟩
      · exact Nat.add_pos_right _ positive
      · intro later there
        have order := high later there
        simp only [stop] at touches order ⊢
        omega
      · intro earlier here later there
        rcases List.mem_cons.mp there with rfl | behind
        · exact gap earlier here previous List.mem_cons_self
        · exact between earlier (List.mem_append_left _ here) later behind
  | next _ rest next low touches =>
      obtain ⟨-, gap, right'⟩ := Separated.cons_iff.mp right
      refine Separated.append_iff.mpr ⟨left, Separated.cons_iff.mpr ⟨?_, ?_, right'⟩, ?_⟩
      · exact Nat.add_pos_left positive _
      · intro later there
        have order := gap later there
        simp only [stop] at touches order ⊢
        omega
      · intro earlier here later there
        rcases List.mem_cons.mp there with rfl | behind
        · exact low earlier here
        · exact between earlier here later (List.mem_cons_of_mem _ behind)
  | both start rest previous next touches touches' =>
      obtain ⟨left', last, gap⟩ := Separated.append_iff.mp left
      obtain ⟨-, gap', right'⟩ := Separated.cons_iff.mp right
      refine Separated.append_iff.mpr ⟨left', Separated.cons_iff.mpr ⟨?_, ?_, right'⟩, ?_⟩
      · exact Nat.add_pos_left (Nat.add_pos_right _ positive) _
      · intro later there
        have order := gap' later there
        simp only [stop] at touches touches' order ⊢
        omega
      · intro earlier here later there
        rcases List.mem_cons.mp there with rfl | behind
        · exact gap earlier here previous List.mem_cons_self
        · exact between earlier (List.mem_append_left _ here) later
            (List.mem_cons_of_mem _ behind)

/-- Absorbing adds exactly the absorbed cells. -/
theorem cellsOf_eq (absorbs : Absorbs range before after result) :
    cellsOf result = cellsOf (before ++ after) ∪ range.cells := by
  ext cell
  cases absorbs with
  | alone _ _ =>
      simp only [cellsOf_append, cellsOf_cons, Set.mem_union]
      tauto
  | previous start _ previous touches =>
      have joined : cell ∈ cells ⟨previous.offset, previous.bytes + range.bytes⟩ ↔
          cell ∈ previous.cells ∨ cell ∈ range.cells := by
        simp only [mem_cells, stop] at touches ⊢
        omega
      simp only [cellsOf_append, cellsOf_cons, cellsOf_nil, Set.mem_union, joined,
        Set.mem_empty_iff_false, or_false]
      tauto
  | next _ rest next _ touches =>
      have joined : cell ∈ cells ⟨range.offset, range.bytes + next.bytes⟩ ↔
          cell ∈ range.cells ∨ cell ∈ next.cells := by
        simp only [mem_cells, stop] at touches ⊢
        omega
      simp only [cellsOf_append, cellsOf_cons, Set.mem_union, joined]
      tauto
  | both start rest previous next touches touches' =>
      have joined : cell ∈ cells ⟨previous.offset, previous.bytes + range.bytes + next.bytes⟩ ↔
          cell ∈ previous.cells ∨ cell ∈ range.cells ∨ cell ∈ next.cells := by
        simp only [mem_cells, stop] at touches touches' ⊢
        omega
      simp only [cellsOf_append, cellsOf_cons, cellsOf_nil, Set.mem_union, joined,
        Set.mem_empty_iff_false, or_false]
      tauto

theorem length_le (absorbs : Absorbs range before after result) :
    result.length ≤ (before ++ after).length + 1 := by
  cases absorbs <;> simp only [List.length_append, List.length_cons, List.length_nil] <;> omega

/-- Absorbing stays inside every range that holds the parts. -/
theorem bounds {low high : Nat} (absorbs : Absorbs range before after result)
    (begins : low ≤ range.offset) (ends : range.stop ≤ high)
    (inside : ∀ extent ∈ before ++ after, low ≤ extent.offset ∧ extent.stop ≤ high) :
    ∀ extent ∈ result, low ≤ extent.offset ∧ extent.stop ≤ high := by
  intro extent member
  cases absorbs with
  | alone _ _ _ _ =>
      rcases List.mem_append.mp member with here | there
      · exact inside extent (List.mem_append_left _ here)
      · rcases List.mem_cons.mp there with rfl | behind
        · exact ⟨begins, ends⟩
        · exact inside extent (List.mem_append_right _ behind)
  | previous start _ previous touches _ =>
      rcases List.mem_append.mp member with here | there
      · exact inside extent (by simp [here])
      · rcases List.mem_cons.mp there with rfl | behind
        · have edge := inside previous (by simp)
          simp only [stop] at touches edge ends ⊢
          omega
        · exact inside extent (by simp [behind])
  | next _ rest next _ touches =>
      rcases List.mem_append.mp member with here | there
      · exact inside extent (by simp [here])
      · rcases List.mem_cons.mp there with rfl | behind
        · have edge := inside next (by simp)
          simp only [stop] at touches edge ⊢
          omega
        · exact inside extent (by simp [behind])
  | both start rest previous next touches touches' =>
      rcases List.mem_append.mp member with here | there
      · exact inside extent (by simp [here])
      · rcases List.mem_cons.mp there with rfl | behind
        · have left := inside previous (by simp)
          have right := inside next (by simp)
          simp only [stop] at touches touches' left right ⊢
          omega
        · exact inside extent (by simp [behind])

end Absorbs

/-! ## Sharing out a pool -/

/-- The free ranges and the ranges in use share out a pool. -/
structure Partition {Index : Type} (pool : Extent) (free : List Extent) (used : Set Index)
    (extent : Index → Extent) : Prop where
  apart : used.Pairwise fun first second => Disjoint (extent first).cells (extent second).cells
  unfree : ∀ index ∈ used, Disjoint (extent index).cells (cellsOf free)
  cover : ∀ cell, cell ∈ pool.cells ↔
    cell ∈ cellsOf free ∨ ∃ index ∈ used, cell ∈ (extent index).cells

namespace Partition

variable {Index : Type} {pool : Extent} {free free' : List Extent} {used : Set Index}
  {extent extent' : Index → Extent} {index : Index}

theorem congr (partition : Partition pool free used extent)
    (same : ∀ index ∈ used, extent' index = extent index) : Partition pool free used extent' where
  apart first here second there different := by
    have disjoint : Disjoint (extent first).cells (extent second).cells :=
      partition.apart here there different
    rwa [← same first here, ← same second there] at disjoint
  unfree index member := by
    rw [same index member]
    exact partition.unfree index member
  cover cell := by
    rw [partition.cover]
    refine or_congr_right (exists_congr fun index => and_congr_right fun member => ?_)
    rw [same index member]

/-- A range in use lies inside the pool. -/
theorem bounds (partition : Partition pool free used extent) (member : index ∈ used)
    (positive : 0 < (extent index).bytes) :
    pool.offset ≤ (extent index).offset ∧ (extent index).stop ≤ pool.stop := by
  have first : (extent index).offset ∈ pool.cells :=
    (partition.cover _).mpr (.inr ⟨index, member, by simp only [mem_cells, stop]; omega⟩)
  have last : (extent index).stop - 1 ∈ pool.cells :=
    (partition.cover _).mpr (.inr ⟨index, member, by simp only [mem_cells, stop]; omega⟩)
  simp only [mem_cells, stop] at first last ⊢
  omega

/-- A free range is taken into use. -/
theorem insert (partition : Partition pool free used extent)
    (same : ∀ other ∈ used, extent' other = extent other) (fresh : index ∉ used)
    (available : (extent' index).cells ⊆ cellsOf free)
    (carved : cellsOf free' = cellsOf free \ (extent' index).cells) :
    Partition pool free' (insert index used) extent' := by
  have kept := partition.congr same
  refine ⟨?_, ?_, fun cell => ?_⟩
  · refine kept.apart.insert fun other member different => ?_
    have disjoint := (kept.unfree other member).mono_right available
    exact ⟨disjoint.symm, disjoint⟩
  · intro other member
    rw [carved]
    rcases member with rfl | member
    · exact Set.disjoint_sdiff_right
    · exact (kept.unfree other member).mono_right Set.sdiff_subset
  · rw [kept.cover, carved]
    simp only [Set.mem_sdiff, Set.mem_insert_iff, exists_eq_or_imp]
    constructor
    · rintro (here | there)
      · by_cases taken : cell ∈ (extent' index).cells
        · exact .inr (.inl taken)
        · exact .inl ⟨here, taken⟩
      · exact .inr (.inr there)
    · rintro (⟨here, -⟩ | taken | there)
      · exact .inl here
      · exact .inl (available taken)
      · exact .inr there

/-- A range in use becomes free. -/
theorem remove (partition : Partition pool free used extent) (member : index ∈ used)
    (absorbed : cellsOf free' = cellsOf free ∪ (extent index).cells) :
    Partition pool free' (used \ {index}) extent := by
  refine ⟨partition.apart.mono Set.sdiff_subset, ?_, fun cell => ?_⟩
  · rintro other ⟨here, different⟩
    rw [absorbed]
    exact (partition.unfree other here).union_right (partition.apart here member different)
  · rw [partition.cover, absorbed]
    constructor
    · rintro (here | ⟨other, there, inside⟩)
      · exact .inl (.inl here)
      · by_cases same : other = index
        · subst same
          exact .inl (.inr inside)
        · exact .inr ⟨other, ⟨there, same⟩, inside⟩
    · rintro ((here | inside) | ⟨other, ⟨there, -⟩, inside⟩)
      · exact .inl here
      · exact .inr ⟨index, member, inside⟩
      · exact .inr ⟨other, there, inside⟩

/-- The cells in use determine the free ones. -/
theorem cellsOf_free (partition : Partition pool free used extent) :
    cellsOf free = pool.cells \ { cell | ∃ index ∈ used, cell ∈ (extent index).cells } := by
  ext cell
  rw [Set.mem_sdiff, partition.cover, Set.mem_ofPred_eq]
  constructor
  · intro here
    refine ⟨.inl here, ?_⟩
    rintro ⟨index, member, inside⟩
    exact Set.disjoint_left.mp (partition.unfree index member) inside here
  · rintro ⟨here | there, unused⟩
    · exact here
    · exact absurd there unused

/-- A range in use begins where a free range ends, unless it is the last free one. -/
theorem exists_offset_eq_stop (partition : Partition pool free used extent)
    {before after : List Extent} {gap : Extent} (separated : Separated free)
    (shape : free = before ++ gap :: after) (inner : after ≠ []) :
    ∃ index ∈ used, (extent index).offset = gap.stop := by
  rw [shape] at separated
  obtain ⟨-, rest, between⟩ := Separated.append_iff.mp separated
  obtain ⟨positive, behind, later⟩ := Separated.cons_iff.mp rest
  obtain ⟨next, tail, rfl⟩ := List.exists_cons_of_ne_nil inner
  have nextPositive := (Separated.cons_iff.mp later).1
  have order := behind next List.mem_cons_self
  have inPool : ∀ part ∈ free, 0 < part.bytes → part.offset ∈ pool.cells := by
    intro part member nonempty
    exact (partition.cover _).mpr (.inl ⟨part, member, by simp only [mem_cells, stop]; omega⟩)
  have low := inPool gap (by rw [shape]; simp) positive
  have high := inPool next (by rw [shape]; simp) nextPositive
  have unfree : gap.stop ∉ cellsOf free := by
    rw [shape]
    rintro ⟨part, member, inside⟩
    simp only [mem_cells, stop] at inside order
    rcases List.mem_append.mp member with earlier | here
    · have apart := between part earlier gap List.mem_cons_self
      simp only [stop] at apart
      omega
    · rcases List.mem_cons.mp here with rfl | there
      · omega
      · have apart := behind part there
        simp only [stop] at apart
        omega
  have inside : gap.stop ∈ pool.cells := by
    simp only [mem_cells, stop] at low high order ⊢
    omega
  obtain ⟨index, member, holds⟩ := ((partition.cover _).mp inside).resolve_left unfree
  refine ⟨index, member, ?_⟩
  have outside : gap.stop - 1 ∉ (extent index).cells := by
    refine Set.disjoint_right.mp (partition.unfree index member) ⟨gap, by rw [shape]; simp, ?_⟩
    simp only [mem_cells, stop]
    omega
  simp only [mem_cells, stop] at holds outside ⊢
  omega

/-- There is at most one more free range than ranges in use. -/
theorem length_le {indices : List Index} (partition : Partition pool free used extent)
    (separated : Separated free) (listed : ∀ index ∈ used, index ∈ indices) :
    free.length ≤ indices.length + 1 := by
  rcases List.eq_nil_or_concat free with rfl | ⟨front, last, rfl⟩
  · simp
  · have apart : (front.map stop).Nodup := by
      obtain ⟨first, -, -⟩ := Separated.append_iff.mp (List.concat_eq_append ▸ separated)
      rw [List.nodup_iff_pairwise_ne, List.pairwise_map]
      refine first.apart.imp fun order => ?_
      simp only [stop] at order ⊢
      omega
    have subset : front.map stop ⊆ indices.map fun index => (extent index).offset := by
      intro cell member
      obtain ⟨gap, here, rfl⟩ := List.mem_map.mp member
      obtain ⟨before, after, rfl⟩ := List.append_of_mem here
      obtain ⟨index, inUse, begins⟩ :=
        @exists_offset_eq_stop _ _ _ _ _ partition before (after ++ [last]) gap separated (by simp)
          (by simp)
      exact List.mem_map.mpr ⟨index, listed index inUse, begins⟩
    have shorter := (apart.subperm subset).length_le
    simp only [List.length_map] at shorter
    simpa using shorter

end Partition

end Extent
end Cxloom
