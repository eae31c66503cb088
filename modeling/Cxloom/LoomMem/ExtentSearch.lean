import Cxloom.Extent
import Cxloom.LoomMem.ExtentBins
import Mathlib.Data.List.Range
import Mathlib.Data.List.Perm.Subperm

/-!
# Searching the size bins

The search looks at non-empty bins from the size class of the request on.  An extent that can hold
the request is in one of them, so the search finds one whenever there is one; each node is visited
at most once.
-/

namespace Cxloom

/-- An aligned request fits an extent. -/
def Extent.CanHold (extent : Extent) (bytes alignment : Nat) : Prop :=
  ∃ start, alignment ∣ start ∧ extent.offset ≤ start ∧ start + bytes ≤ extent.stop

/-- A request starts at the first aligned position of an extent and ends inside it. -/
structure Extent.Serves (extent : Extent) (bytes alignment start : Nat) : Prop where
  aligned : start = alignUp extent.offset alignment
  low : extent.offset ≤ start
  /-- The request ends inside the extent. -/
  high : start + bytes ≤ extent.stop

/-- A multiple of a power of two inside a word leaves room for one more. -/
theorem add_le_wordLimit_of_dvd {alignment multiple : Nat} (power : alignment.isPowerOfTwo)
    (fits : alignment < wordLimit) (divides : alignment ∣ multiple)
    (small : multiple < wordLimit) : multiple + alignment ≤ wordLimit := by
  obtain ⟨exponent, rfl⟩ := power
  have below : exponent < 64 := (Nat.pow_lt_pow_iff_right (by decide)).mp fits
  have word : 2 ^ exponent ∣ wordLimit := Nat.pow_dvd_pow 2 below.le
  obtain ⟨factor, rfl⟩ := divides
  obtain ⟨total, shape⟩ := word
  rw [shape] at small ⊢
  have order : factor < total := Nat.lt_of_mul_lt_mul_left small
  calc 2 ^ exponent * factor + 2 ^ exponent = 2 ^ exponent * (factor + 1) := by
        rw [Nat.mul_succ]
    _ ≤ 2 ^ exponent * total := Nat.mul_le_mul_left _ order

namespace LoomMem.ExtentHeader

variable {header : ExtentHeader} {owner : Nat → Option ExtentPool} {pool : ExtentPool}
  {index bytes alignment start : Nat}

/-- The extent of a node. -/
def extent (header : ExtentHeader) (index : Nat) : Extent :=
  ⟨header.offset index, header.bytes index⟩

/-! ## The fit test -/

/-- The fit test computes the first aligned position and checks that the request ends inside. -/
theorem alignedStart_eq_some (inside : (header.extent index).stop < wordLimit) :
    header.alignedStart index bytes alignment = some start ↔
      start = alignUp (header.offset index) alignment ∧ header.offset index ≤ start ∧
        start + bytes ≤ (header.extent index).stop := by
  have stop : add64 (header.offset index) (header.bytes index) = (header.extent index).stop :=
    add64_of_lt inside
  simp only [alignedStart, stop]
  by_cases order : alignUp (header.offset index) alignment ≤ (header.extent index).stop
  · rw [sub64_of_le order inside]
    split
    · rename_i refused
      simp only [reduceCtorEq, false_iff]
      rintro ⟨rfl, low, high⟩
      omega
    · rename_i accepted
      rw [Option.some.injEq]
      constructor
      · rintro rfl
        omega
      · exact fun fit => fit.1.symm
  · rw [if_pos (by omega)]
    simp only [reduceCtorEq, false_iff]
    rintro ⟨rfl, low, high⟩
    omega

/-- A node passes the fit test exactly if its extent can hold the aligned request. -/
theorem alignedStart_isSome (inside : (header.extent index).stop < wordLimit)
    (power : alignment.isPowerOfTwo) (fits : alignment < wordLimit) :
    (header.alignedStart index bytes alignment).isSome ↔
      (header.extent index).CanHold bytes alignment := by
  have positive := Nat.pos_of_isPowerOfTwo power
  rw [Option.isSome_iff_exists]
  constructor
  · rintro ⟨start, found⟩
    obtain ⟨rfl, low, high⟩ := (alignedStart_eq_some inside).mp found
    refine ⟨_, ?_, low, high⟩
    rcases small_of_le_alignUp power fits low with small | zero
    · exact (alignUp_spec power fits small).2.2.1
    · exact (alignUp_spec power fits (by rw [zero]; omega)).2.2.1
  · rintro ⟨multiple, divides, low, high⟩
    have bound := add_le_wordLimit_of_dvd power fits divides (by omega)
    have small : header.offset index + (alignment - 1) < wordLimit := by
      simp only [extent] at low
      omega
    obtain ⟨above, -, -, least⟩ := alignUp_spec power fits small
    have first := least multiple divides low
    exact ⟨_, (alignedStart_eq_some inside).mpr ⟨rfl, above, by omega⟩⟩

/-! ## Walking the bins -/

/-- What the search needs of the nodes. -/
structure Searchable (header : ExtentHeader) (owner : Nat → Option ExtentPool) : Prop where
  /-- The bins list the owned nodes. -/
  binned : header.Binned owner
  inTable : ∀ index, owner index ≠ none → index < header.extentNodeCapacity
  inWord : ∀ index, owner index ≠ none → (header.extent index).stop < wordLimit

/-- Nodes that the walk of a bin visits. -/
def visitBin (header : ExtentHeader) (bytes alignment : Nat) : Nat → Option Nat → List Nat
  | 0, _ => []
  | _ + 1, none => []
  | fuel + 1, some index =>
      index ::
        match header.alignedStart index bytes alignment with
        | some _ => []
        | none => visitBin header bytes alignment fuel (header.binNext index)

/-- Nodes that the search visits in a list of bins. -/
def visitBins (header : ExtentHeader) (pool : ExtentPool) (bytes alignment fuel : Nat) :
    List Nat → List Nat
  | [] => []
  | bin :: rest =>
      header.visitBin bytes alignment fuel (header.bins pool bin) ++
        match header.walkBin bytes alignment fuel (header.bins pool bin) with
        | some _ => []
        | none => visitBins header pool bytes alignment fuel rest

/-- With enough steps the walk finds the first node of the bin that fits. -/
theorem walkBin_eq {cells : List Nat} {first : Option Nat} {fuel : Nat}
    (segment : Linked.Segment header.binNext first cells none) (enough : cells.length ≤ fuel) :
    header.walkBin bytes alignment fuel first =
      cells.findSome? fun index =>
        (header.alignedStart index bytes alignment).map fun start => (index, start) := by
  induction cells generalizing first fuel with
  | nil =>
      obtain rfl : first = none := segment
      cases fuel <;> rfl
  | cons index rest induction =>
      obtain ⟨rfl, tail⟩ := segment
      cases fuel with
      | zero => simp at enough
      | succ fuel =>
          rw [walkBin, List.findSome?_cons]
          cases header.alignedStart index bytes alignment with
          | some start => rfl
          | none => exact induction tail (Nat.le_of_succ_le_succ enough)

/-- The walk visits nodes of the bin in order, whatever the number of steps. -/
theorem visitBin_prefix {cells : List Nat} {first : Option Nat} {fuel : Nat}
    (segment : Linked.Segment header.binNext first cells none) :
    header.visitBin bytes alignment fuel first <+: cells := by
  induction cells generalizing first fuel with
  | nil =>
      obtain rfl : first = none := segment
      cases fuel <;> exact List.prefix_refl _
  | cons index rest induction =>
      obtain ⟨rfl, tail⟩ := segment
      cases fuel with
      | zero => exact List.nil_prefix
      | succ fuel =>
          rw [visitBin]
          refine List.cons_prefix_cons.mpr ⟨rfl, ?_⟩
          cases header.alignedStart index bytes alignment with
          | some start => exact List.nil_prefix
          | none => exact induction tail

/-- More steps than nodes visit nothing more. -/
theorem visitBin_eq {cells : List Nat} {first : Option Nat} {fuel : Nat}
    (segment : Linked.Segment header.binNext first cells none) (enough : cells.length ≤ fuel) :
    header.visitBin bytes alignment fuel first =
      header.visitBin bytes alignment cells.length first := by
  induction cells generalizing first fuel with
  | nil =>
      obtain rfl : first = none := segment
      cases fuel <;> rfl
  | cons index rest induction =>
      obtain ⟨rfl, tail⟩ := segment
      cases fuel with
      | zero => simp at enough
      | succ fuel =>
          simp only [visitBin, List.length_cons]
          cases header.alignedStart index bytes alignment with
          | some start => rfl
          | none => rw [induction tail (Nat.le_of_succ_le_succ enough)]

namespace Searchable

/-- A bin of the pool as a list that the number of steps covers. -/
theorem bin (searchable : header.Searchable owner) (pool : ExtentPool) (number : Nat) :
    ∃ cells, Linked.Segment header.binNext (header.bins pool number) cells none ∧
      cells.Nodup ∧ cells.length ≤ header.extentNodeCapacity ∧
      ∀ index, index ∈ cells ↔ header.InBin owner pool number index := by
  obtain ⟨cells, chain, members⟩ := searchable.binned.chains pool number
  refine ⟨cells, chain.forward, chain.nodup, ?_, members⟩
  have subset : cells ⊆ List.range header.extentNodeCapacity := by
    intro index member
    refine List.mem_range.mpr (searchable.inTable index ?_)
    rw [((members index).mp member).1]
    exact Option.some_ne_none pool
  simpa using (chain.nodup.subperm subset).length_le

/-- The search returns a node of the pool that passes the fit test. -/
theorem findExtent_eq_some (searchable : header.Searchable owner)
    (found : header.findExtent pool bytes alignment = some (index, start)) :
    owner index = some pool ∧ header.alignedStart index bytes alignment = some start := by
  obtain ⟨number, -, here⟩ := List.exists_of_findSome?_eq_some found
  obtain ⟨cells, segment, -, enough, members⟩ := searchable.bin pool number
  rw [walkBin_eq segment enough] at here
  obtain ⟨node, member, fit⟩ := List.exists_of_findSome?_eq_some here
  obtain ⟨position, aligned, same⟩ := Option.map_eq_some_iff.mp fit
  cases same
  exact ⟨((members index).mp member).1, aligned⟩

/-- A node that can serve a request is in one of the bins that the search looks at. -/
theorem mem_availableBins (searchable : header.Searchable owner)
    (mine : owner index = some pool) (large : bytes ≤ header.bytes index) :
    header.bin index ∈ header.availableBins pool bytes := by
  have owned : owner index ≠ none := by
    rw [mine]
    exact Option.some_ne_none pool
  have size := searchable.binned.sized index owned
  have below : header.bin index < 64 := size ▸ binForBytes_lt _
  have order : binForBytes bytes ≤ header.bin index := size ▸ binForBytes_mono large
  obtain ⟨cells, segment, -, -, members⟩ := searchable.bin pool (header.bin index)
  have present : (header.bins pool (header.bin index)).isSome := by
    have member := (members index).mpr ⟨mine, rfl⟩
    cases cells with
    | nil => cases member
    | cons first rest => rw [segment.1]; rfl
  have marked := searchable.binned.bitmap pool _ below
  rw [present, HostMask.contains_eq_getLsbD _ below] at marked
  simp only [availableBins, List.mem_filter, List.mem_range, kTlsfBinCount]
  refine ⟨below, ?_⟩
  rw [HostMask.contains_eq_getLsbD _ below, BitVec.getLsbD_and, marked,
    BitVec.getLsbD_shiftLeft, BitVec.getLsbD_not, BitVec.getLsbD_zero]
  simp only [below, decide_true, Bool.true_and, Bool.not_false, Bool.and_true, Bool.not_eq_true',
    decide_eq_false_iff_not, Nat.not_lt, Bool.and_eq_true, decide_eq_true_eq]
  omega

/-- A failing search leaves no node of the pool that passes the fit test. -/
theorem findExtent_eq_none (searchable : header.Searchable owner)
    (missing : header.findExtent pool bytes alignment = none) (mine : owner index = some pool) :
    header.alignedStart index bytes alignment = none := by
  cases aligned : header.alignedStart index bytes alignment with
  | none => rfl
  | some start =>
      have owned : owner index ≠ none := by
        rw [mine]
        exact Option.some_ne_none pool
      obtain ⟨-, low, high⟩ :=
        (alignedStart_eq_some (searchable.inWord index owned)).mp aligned
      have large : bytes ≤ header.bytes index := by
        simp only [extent, Extent.stop] at high
        omega
      have here := List.findSome?_eq_none_iff.mp missing _
        (searchable.mem_availableBins mine large)
      obtain ⟨cells, segment, -, enough, members⟩ := searchable.bin pool (header.bin index)
      rw [walkBin_eq segment enough] at here
      have refused := List.findSome?_eq_none_iff.mp here index ((members index).mpr ⟨mine, rfl⟩)
      simp [aligned] at refused

/-- The bitmap search finds an extent exactly if some free extent of the pool can hold the aligned
request. -/
theorem findExtent_isSome (searchable : header.Searchable owner)
    (power : alignment.isPowerOfTwo) (fits : alignment < wordLimit) :
    (header.findExtent pool bytes alignment).isSome ↔
      ∃ index, owner index = some pool ∧ (header.extent index).CanHold bytes alignment := by
  have owned : ∀ index, owner index = some pool → owner index ≠ none := by
    intro index mine
    rw [mine]
    exact Option.some_ne_none pool
  constructor
  · intro found
    obtain ⟨⟨index, start⟩, found⟩ := Option.isSome_iff_exists.mp found
    obtain ⟨mine, aligned⟩ := searchable.findExtent_eq_some found
    refine ⟨index, mine, ?_⟩
    rw [← alignedStart_isSome (searchable.inWord index (owned index mine)) power fits, aligned]
    rfl
  · rintro ⟨index, mine, holds⟩
    rw [← alignedStart_isSome (searchable.inWord index (owned index mine)) power fits] at holds
    by_contra missing
    have none := searchable.findExtent_eq_none (Option.not_isSome_iff_eq_none.mp missing) mine
    rw [none] at holds
    cases holds

/-- The search visits nodes of the pool, each at most once, and ends before its steps run out. -/
theorem visits (searchable : header.Searchable owner) {fuel : Nat}
    (enough : header.extentNodeCapacity ≤ fuel) :
    ∀ bins : List Nat, bins.Nodup →
      (header.visitBins pool bytes alignment fuel bins).Nodup ∧
        (∀ index ∈ header.visitBins pool bytes alignment fuel bins,
          owner index = some pool ∧ header.bin index ∈ bins) ∧
        header.visitBins pool bytes alignment fuel bins =
          header.visitBins pool bytes alignment header.extentNodeCapacity bins := by
  intro bins
  induction bins with
  | nil => simp [visitBins]
  | cons number rest induction =>
      intro nodup
      obtain ⟨fresh, nodupRest⟩ := List.nodup_cons.mp nodup
      obtain ⟨restNodup, restMembers, restSame⟩ := induction nodupRest
      obtain ⟨cells, segment, cellsNodup, short, members⟩ := searchable.bin pool number
      have first : header.visitBin bytes alignment fuel (header.bins pool number) <+: cells :=
        visitBin_prefix segment
      have firstMembers : ∀ index ∈ header.visitBin bytes alignment fuel (header.bins pool number),
          owner index = some pool ∧ header.bin index = number :=
        fun index member => (members index).mp (first.subset member)
      have steps : header.visitBin bytes alignment fuel (header.bins pool number) =
          header.visitBin bytes alignment header.extentNodeCapacity (header.bins pool number) :=
        (visitBin_eq segment (short.trans enough)).trans (visitBin_eq segment short).symm
      have walks : header.walkBin bytes alignment fuel (header.bins pool number) =
          header.walkBin bytes alignment header.extentNodeCapacity (header.bins pool number) :=
        (walkBin_eq segment (short.trans enough)).trans (walkBin_eq segment short).symm
      simp only [visitBins, ← steps, ← walks]
      cases header.walkBin bytes alignment fuel (header.bins pool number) with
      | some found =>
          refine ⟨by simpa using first.sublist.nodup cellsNodup, fun index member => ?_, rfl⟩
          obtain ⟨mine, here⟩ := firstMembers index (by simpa using member)
          exact ⟨mine, by simp [here]⟩
      | none =>
          refine ⟨List.nodup_append.mpr ⟨first.sublist.nodup cellsNodup, restNodup, ?_⟩, ?_, ?_⟩
          · rintro index here other there rfl
            exact fresh ((firstMembers index here).2 ▸ (restMembers index there).2)
          · intro index member
            rcases List.mem_append.mp member with here | there
            · obtain ⟨mine, same⟩ := firstMembers index here
              exact ⟨mine, by simp [same]⟩
            · obtain ⟨mine, later⟩ := restMembers index there
              exact ⟨mine, List.mem_cons_of_mem _ later⟩
          · rw [restSame]

end Searchable
end LoomMem.ExtentHeader
end Cxloom
