import Cxloom.LoomMem.ExtentPools

/-!
# Size bins

Every binned node is in exactly one doubly linked list, the one of its pool and of the size class it
remembers, and the bitmap marks the lists that are not empty.  Inserting and removing keep this, for
both pools at once.
-/

namespace Cxloom.LoomMem

theorem binForBytes_lt (bytes : Nat) : binForBytes bytes < 64 := by
  simp only [binForBytes, kTlsfBinCount]
  split <;> omega

/-- A larger extent is never in a lower bin. -/
theorem binForBytes_mono {small large : Nat} (order : small ≤ large) :
    binForBytes small ≤ binForBytes large := by
  simp only [binForBytes]
  split
  · exact Nat.zero_le _
  · rename_i positive
    rw [if_neg (by omega)]
    have logs : small.log2 ≤ large.log2 :=
      (Nat.le_log2 (by omega)).mpr ((Nat.log2_self_le (by omega)).trans order)
    omega

namespace ExtentHeader

variable {header : ExtentHeader} {owner : Nat → Option ExtentPool} {pool : ExtentPool}
  {index : Nat}

section Frame

variable (header) (pool : ExtentPool) (index other : Nat)

@[simp] theorem insertBin_extentNodeCapacity :
    (header.insertBin pool index).extentNodeCapacity = header.extentNodeCapacity := rfl

@[simp] theorem insertBin_offset : (header.insertBin pool index).offset = header.offset := rfl

@[simp] theorem insertBin_bytes : (header.insertBin pool index).bytes = header.bytes := rfl

@[simp] theorem insertBin_next : (header.insertBin pool index).next = header.next := rfl

@[simp] theorem insertBin_previous : (header.insertBin pool index).previous = header.previous := rfl

@[simp] theorem insertBin_state : (header.insertBin pool index).state = header.state := rfl

@[simp] theorem insertBin_freeHead : (header.insertBin pool index).freeHead = header.freeHead := rfl

@[simp] theorem insertBin_freeExtentNodeHead :
    (header.insertBin pool index).freeExtentNodeHead = header.freeExtentNodeHead := rfl

@[simp] theorem removeBin_extentNodeCapacity :
    (header.removeBin pool index).extentNodeCapacity = header.extentNodeCapacity := rfl

@[simp] theorem removeBin_offset : (header.removeBin pool index).offset = header.offset := rfl

@[simp] theorem removeBin_bytes : (header.removeBin pool index).bytes = header.bytes := rfl

@[simp] theorem removeBin_next : (header.removeBin pool index).next = header.next := rfl

@[simp] theorem removeBin_previous : (header.removeBin pool index).previous = header.previous := rfl

@[simp] theorem removeBin_state : (header.removeBin pool index).state = header.state := rfl

@[simp] theorem removeBin_freeHead : (header.removeBin pool index).freeHead = header.freeHead := rfl

@[simp] theorem removeBin_freeExtentNodeHead :
    (header.removeBin pool index).freeExtentNodeHead = header.freeExtentNodeHead := rfl

end Frame

/-- The nodes of one bin: those of a pool that remember it. -/
def InBin (header : ExtentHeader) (owner : Nat → Option ExtentPool) (pool : ExtentPool)
    (bin index : Nat) : Prop :=
  owner index = some pool ∧ header.bin index = bin

/-- The bins list the owned nodes by size. -/
structure Binned (header : ExtentHeader) (owner : Nat → Option ExtentPool) : Prop where
  /-- Each bin is a list of the nodes that remember it. -/
  chains : ∀ pool bin, ∃ cells,
    Linked.Chain header.binNext header.binPrevious (header.bins pool bin) cells ∧
      ∀ index, index ∈ cells ↔ header.InBin owner pool bin index
  /-- A node remembers the bin of its size. -/
  sized : ∀ index, owner index ≠ none → header.bin index = binForBytes (header.bytes index)
  bitmap : ∀ pool bin, bin < 64 →
    HostMask.contains (header.binBitmap pool) bin = (header.bins pool bin).isSome

namespace Binned

/-- Only the bins and the owned nodes matter. -/
theorem congr (binned : header.Binned owner) {after : ExtentHeader}
    (binNext : ∀ index, owner index ≠ none → after.binNext index = header.binNext index)
    (binPrevious : ∀ index, owner index ≠ none →
      after.binPrevious index = header.binPrevious index)
    (bin : ∀ index, owner index ≠ none → after.bin index = header.bin index)
    (bytes : ∀ index, owner index ≠ none → after.bytes index = header.bytes index)
    (bins : after.bins = header.bins) (binBitmap : after.binBitmap = header.binBitmap) :
    after.Binned owner where
  chains pool number := by
    obtain ⟨cells, chain, members⟩ := binned.chains pool number
    have owned : ∀ index ∈ cells, owner index ≠ none := by
      intro index member
      rw [((members index).mp member).1]
      exact Option.some_ne_none pool
    refine ⟨cells, ?_, fun index => ?_⟩
    · rw [bins]
      exact chain.congr (fun index member => binNext index (owned index member))
        fun index member => binPrevious index (owned index member)
    · rw [members]
      refine and_congr_right fun mine => ?_
      rw [bin index (by rw [mine]; exact Option.some_ne_none pool)]
  sized index mine := by rw [bin index mine, bytes index mine, binned.sized index mine]
  bitmap pool number := by
    rw [bins, binBitmap]
    exact binned.bitmap pool number

theorem head_inBin (binned : header.Binned owner) {bin head : Nat}
    (first : header.bins pool bin = some head) : header.InBin owner pool bin head := by
  obtain ⟨cells, chain, members⟩ := binned.chains pool bin
  have head_eq := chain.head_eq
  rw [first] at head_eq
  exact (members head).mp (List.mem_of_head? head_eq.symm)

theorem insertBin (binned : header.Binned owner) (absent : owner index = none) :
    (header.insertBin pool index).Binned (Function.update owner index (some pool)) where
  chains other number := by
    obtain ⟨cells, chain, members⟩ := binned.chains other number
    have outside : index ∉ cells := by
      intro member
      rw [((members index).mp member).1] at absent
      cases absent
    by_cases here : other = pool ∧ number = binForBytes (header.bytes index)
    · obtain ⟨rfl, rfl⟩ := here
      refine ⟨index :: cells, ?_, fun node => ?_⟩
      · have linked := @Linked.Chain.link _ _ _ _ [] _ _ _ chain outside
        simpa [ExtentHeader.insertBin, chain.head_eq, Linked.linkHead] using linked
      · by_cases same : node = index
        · simp [same, InBin, ExtentHeader.insertBin]
        · simp [same, members, InBin, ExtentHeader.insertBin]
    · refine ⟨cells, ?_, fun node => ?_⟩
      · have kept : (header.insertBin pool index).bins other number = header.bins other number := by
          by_cases same : other = pool
          · subst same
            have apart : number ≠ binForBytes (header.bytes index) := fun equal => here ⟨rfl, equal⟩
            simp [ExtentHeader.insertBin, apart]
          · simp [ExtentHeader.insertBin, same]
        rw [kept]
        refine chain.congr (fun node member => ?_) fun node member => ?_
        · have different : node ≠ index := by
            rintro rfl
            exact outside member
          exact Linked.linkNext_of_ne different (Option.some_ne_none node).symm
        · refine Linked.linkPrevious_of_ne ?_ fun first => ?_
          · rintro rfl
            exact outside member
          · obtain ⟨mine, size⟩ := binned.head_inBin first
            obtain ⟨theirs, other⟩ := (members node).mp member
            rw [mine] at theirs
            exact here ⟨(Option.some.inj theirs).symm, other.symm.trans size⟩
      · by_cases same : node = index
        · subst same
          simp only [outside, InBin, ExtentHeader.insertBin, Function.update_self, false_iff]
          rintro ⟨mine, size⟩
          exact here ⟨(Option.some.inj mine).symm, size.symm⟩
        · simp [same, members, InBin, ExtentHeader.insertBin]
  sized node mine := by
    by_cases same : node = index
    · simp [same, ExtentHeader.insertBin]
    · simp only [same, ExtentHeader.insertBin, ne_eq, not_false_eq_true,
        Function.update_of_ne] at mine ⊢
      exact binned.sized node mine
  bitmap other number below := by
    have marked := binned.bitmap other number below
    by_cases same : other = pool
    · subst same
      simp only [ExtentHeader.insertBin, Function.update_self, HostMask.contains_or_bit _ below,
        marked]
      by_cases equal : number = binForBytes (header.bytes index)
      · simp [equal]
      · simp [equal]
    · simpa [ExtentHeader.insertBin, same] using marked

theorem removeBin (binned : header.Binned owner) (mine : owner index = some pool) :
    (header.removeBin pool index).Binned (Function.update owner index none) := by
  obtain ⟨cells, chain, members⟩ := binned.chains pool (header.bin index)
  obtain ⟨first, second, rfl⟩ := List.append_of_mem ((members index).mpr ⟨mine, rfl⟩)
  obtain ⟨-, nodup, apart⟩ := List.nodup_append.mp chain.nodup
  have absent : index ∉ first ++ second := by
    rw [List.mem_append, not_or]
    exact ⟨fun before => apart index before index List.mem_cons_self rfl,
      (List.nodup_cons.mp nodup).1⟩
  have different : ∀ node ∈ first ++ second, node ≠ index := by
    rintro node member rfl
    exact absent member
  have remaining : Linked.Chain (header.removeBin pool index).binNext
      (header.removeBin pool index).binPrevious
      (Linked.unlinkHead header.binNext header.binPrevious
        (header.bins pool (header.bin index)) index) (first ++ second) :=
    chain.unlink.congr (fun node member => Function.update_of_ne (different node member) _ _)
      fun node member => Function.update_of_ne (different node member) _ _
  refine ⟨fun other number => ?_, fun node owned => ?_, fun other number below => ?_⟩
  · by_cases here : other = pool ∧ number = header.bin index
    · obtain ⟨rfl, rfl⟩ := here
      refine ⟨first ++ second, ?_, fun node => ?_⟩
      · simpa [ExtentHeader.removeBin] using remaining
      · by_cases same : node = index
        · simp only [same, absent, InBin, Function.update_self, reduceCtorEq, false_and]
        · have member := members node
          simp only [InBin, Function.update_of_ne same]
          simp only [List.mem_append, List.mem_cons, same, false_or, InBin] at member ⊢
          exact member
    · obtain ⟨others, chain', members'⟩ := binned.chains other number
      have foreign : ∀ node ∈ others, node ∉ first ++ index :: second := by
        intro node member inside
        obtain ⟨theirs, size⟩ := (members' node).mp member
        obtain ⟨ours, size'⟩ := (members node).mp inside
        rw [ours] at theirs
        exact here ⟨(Option.some.inj theirs).symm, size.symm.trans size'⟩
      refine ⟨others, ?_, fun node => ?_⟩
      · have kept : (header.removeBin pool index).bins other number =
            header.bins other number := by
          by_cases same : other = pool
          · subst same
            have different : number ≠ header.bin index := fun equal => here ⟨rfl, equal⟩
            simp [ExtentHeader.removeBin, different]
          · simp [ExtentHeader.removeBin, same]
        rw [kept]
        refine chain'.congr (fun node member => ?_) fun node member => ?_ <;>
        · have outside := foreign node member
          simp only [List.mem_append, List.mem_cons, not_or] at outside
          obtain ⟨before, different, behind⟩ := outside
          simp only [ExtentHeader.removeBin, Function.update_of_ne different]
          first
          | exact chain.unlinkNext_of_notMem before
          | exact chain.unlinkPrevious_of_notMem behind
      · by_cases same : node = index
        · subst same
          have outside : node ∉ others := fun member => foreign node member (by simp)
          simp [outside, InBin]
        · simp [same, members', InBin, ExtentHeader.removeBin]
  · by_cases same : node = index
    · simp [same] at owned
    · rw [Function.update_of_ne same] at owned
      exact binned.sized node owned
  · have marked := binned.bitmap other number below
    by_cases same : other = pool
    · subst same
      by_cases equal : number = header.bin index
      · subst equal
        cases empty : Linked.unlinkHead header.binNext header.binPrevious
            (header.bins other (header.bin index)) index with
        | none =>
            simp [ExtentHeader.removeBin, empty, HostMask.contains_and_not_bit _ below]
        | some head =>
            have present : (header.bins other (header.bin index)).isSome := by
              rw [chain.head_eq]
              cases first <;> rfl
            simp [ExtentHeader.removeBin, empty, marked, present]
      · have other_bits : HostMask.contains ((header.removeBin other index).binBitmap other)
            number = HostMask.contains (header.binBitmap other) number := by
          simp only [ExtentHeader.removeBin, Function.update_self]
          split
          · simp [HostMask.contains_and_not_bit _ below, equal]
          · rfl
        rw [other_bits, marked]
        simp [ExtentHeader.removeBin, equal]
    · simpa [ExtentHeader.removeBin, same] using marked

end Binned
end ExtentHeader
end Cxloom.LoomMem
