import Cxloom.LoomMem.ExtentSearch

/-!
# The node table

Every node is in exactly one list: the address list of a pool, where it is also binned by size, or
the list of unused nodes.  `Threaded` states this for given lists; splitting and releasing extents
turn one such triple of lists into another.
-/

namespace Cxloom.LoomMem.ExtentHeader

/-- Number of nodes that two pools and the unused list use. -/
def nodesOf (lists : ExtentPool → List Nat) (unused : List Nat) : List Nat :=
  lists .data ++ lists .coherence ++ unused

/-- Every node is in exactly one of the given lists, and the links follow them. -/
structure Threaded (header : ExtentHeader) (lists : ExtentPool → List Nat) (unused : List Nat) :
    Prop where
  /-- The address lists. -/
  chain : ∀ pool,
    Linked.Chain header.next header.previous (header.freeHead pool) (lists pool)
  spare : Linked.Segment header.next header.freeExtentNodeHead unused none
  nodes : (nodesOf lists unused).Perm (List.range header.extentNodeCapacity)
  free : ∀ pool, ∀ index ∈ lists pool, header.state index = .free
  unmarked : ∀ index ∈ unused, header.state index = .unused

namespace Threaded

variable {header : ExtentHeader} {lists : ExtentPool → List Nat} {unused : List Nat}
  {pool other : ExtentPool} {index : Nat} {front back : List Nat}

/-- The three lists have no node in common and no node twice. -/
theorem nodup (threaded : header.Threaded lists unused) : (nodesOf lists unused).Nodup :=
  threaded.nodes.nodup_iff.mpr List.nodup_range

theorem lt_capacity (threaded : header.Threaded lists unused)
    (member : index ∈ nodesOf lists unused) : index < header.extentNodeCapacity :=
  List.mem_range.mp (threaded.nodes.mem_iff.mp member)

theorem mem_nodesOf : index ∈ nodesOf lists unused ↔
    (∃ pool, index ∈ lists pool) ∨ index ∈ unused := by
  simp only [nodesOf, List.mem_append]
  constructor
  · rintro ((here | here) | here)
    · exact .inl ⟨_, here⟩
    · exact .inl ⟨_, here⟩
    · exact .inr here
  · rintro (⟨pool, here⟩ | here)
    · cases pool
      · exact .inl (.inl here)
      · exact .inl (.inr here)
    · exact .inr here

/-- A node of one pool is not in the other. -/
theorem pool_unique (threaded : header.Threaded lists unused) (here : index ∈ lists pool)
    (there : index ∈ lists other) : other = pool := by
  have nodup := (List.nodup_append.mp threaded.nodup).1
  have apart := (List.nodup_append.mp nodup).2.2
  cases pool <;> cases other <;> first | rfl | skip
  · exact (apart index here index there rfl).elim
  · exact (apart index there index here rfl).elim

theorem notMem_unused (threaded : header.Threaded lists unused) (here : index ∈ lists pool) :
    index ∉ unused := by
  intro there
  have apart := (List.nodup_append.mp threaded.nodup).2.2
  refine apart index ?_ index there rfl
  cases pool
  · exact List.mem_append_left _ here
  · exact List.mem_append_right _ here

theorem unused_nodup (threaded : header.Threaded lists unused) : unused.Nodup :=
  (List.nodup_append.mp threaded.nodup).2.1

/-- The number of nodes is fixed. -/
theorem length (threaded : header.Threaded lists unused) :
    (lists .data).length + (lists .coherence).length + unused.length =
      header.extentNodeCapacity := by
  simpa [nodesOf, Nat.add_assoc] using threaded.nodes.length_eq

/-- The address list of a pool has no more nodes than the table. -/
theorem length_le (threaded : header.Threaded lists unused) (pool : ExtentPool) :
    (lists pool).length ≤ header.extentNodeCapacity := by
  have total := threaded.length
  cases pool <;> omega

/-- Nodes marked unused are the ones of the unused list. -/
theorem countP_unused (threaded : header.Threaded lists unused) :
    (List.range header.extentNodeCapacity).countP (fun index => header.state index = .unused) =
      unused.length := by
  have owned : ∀ pool, (lists pool).countP (fun index => header.state index = .unused) = 0 := by
    intro pool
    rw [List.countP_eq_zero]
    intro index member
    simp [threaded.free pool index member]
  have rest : unused.countP (fun index => header.state index = .unused) = unused.length := by
    rw [List.countP_eq_length]
    intro index member
    simp [threaded.unmarked index member]
  rw [← threaded.nodes.countP_eq, nodesOf, List.countP_append, List.countP_append, owned, owned,
    rest]
  simp

/-- Only the links, the heads and the marks of the listed nodes matter. -/
theorem congr (threaded : header.Threaded lists unused) {after : ExtentHeader}
    (capacity : after.extentNodeCapacity = header.extentNodeCapacity)
    (next : after.next = header.next) (previous : after.previous = header.previous)
    (state : after.state = header.state) (freeHead : after.freeHead = header.freeHead)
    (freeExtentNodeHead : after.freeExtentNodeHead = header.freeExtentNodeHead) :
    after.Threaded lists unused where
  chain pool := by
    rw [next, previous, freeHead]
    exact threaded.chain pool
  spare := by
    rw [next, freeExtentNodeHead]
    exact threaded.spare
  nodes := by
    rw [capacity]
    exact threaded.nodes
  free := by
    rw [state]
    exact threaded.free
  unmarked := by
    rw [state]
    exact threaded.unmarked

end Threaded

/-! ## Moves of a node between the lists -/

section Moves

variable {header after : ExtentHeader} {lists : ExtentPool → List Nat} {unused : List Nat}
  {pool : ExtentPool} {index : Nat} {front back : List Nat}

/-- Exchanging nodes between a pool and the unused list keeps the share of the table. -/
theorem nodesOf_update_perm {cells unused' : List Nat}
    (exchange : (cells ++ unused').Perm (lists pool ++ unused)) :
    (nodesOf (Function.update lists pool cells) unused').Perm (nodesOf lists unused) := by
  rw [List.perm_iff_count] at exchange ⊢
  intro node
  have counts := exchange node
  simp only [List.count_append] at counts
  cases pool <;> simp [nodesOf, List.count_append] <;> omega

namespace Threaded

theorem unlink_frame (threaded : header.Threaded lists unused)
    (split : lists pool = front ++ index :: back) {node : Nat}
    (outside : node ∉ front ++ index :: back) :
    Linked.unlinkNext header.next header.previous index node = header.next node ∧
      Linked.unlinkPrevious header.next header.previous index node = header.previous node := by
  have chain := threaded.chain pool
  rw [split] at chain
  simp only [List.mem_append, List.mem_cons, not_or] at outside
  exact ⟨chain.unlinkNext_of_notMem outside.1, chain.unlinkPrevious_of_notMem outside.2.2⟩

/-- A node leaves its address list and becomes the first unused one. -/
theorem retire (threaded : header.Threaded lists unused)
    (split : lists pool = front ++ index :: back) :
    ({ header with
        next := Linked.unlinkNext header.next header.previous index
        previous := Linked.unlinkPrevious header.next header.previous index
        freeHead := Function.update header.freeHead pool
          (Linked.unlinkHead header.next header.previous (header.freeHead pool)
            index) }.retireNode index).Threaded
      (Function.update lists pool (front ++ back)) (index :: unused) := by
  have member : index ∈ lists pool := by simp [split]
  have chain := threaded.chain pool
  rw [split] at chain
  have absent : index ∉ front ++ back := by
    obtain ⟨-, nodup, apart⟩ := List.nodup_append.mp chain.nodup
    rw [List.mem_append, not_or]
    exact ⟨fun before => apart index before index List.mem_cons_self rfl,
      (List.nodup_cons.mp nodup).1⟩
  have different : ∀ node ∈ front ++ back, node ≠ index := by
    rintro node here rfl
    exact absent here
  have foreign : ∀ {other}, other ≠ pool → ∀ node ∈ lists other, node ∉ front ++ index :: back := by
    intro other apart node here there
    rw [← split] at there
    exact apart (threaded.pool_unique there here)
  refine ⟨fun other => ?_, ?_, ?_, fun other node here => ?_, fun node here => ?_⟩
  · by_cases same : other = pool
    · subst same
      simp only [retireNode, Function.update_self]
      exact chain.unlink.congr (fun node here => Function.update_of_ne (different node here) _ _)
        fun _ _ => rfl
    · simp only [retireNode, Function.update_of_ne same]
      refine (threaded.chain other).congr (fun node here => ?_) fun node here => ?_
      · have outside := foreign same node here
        rw [Function.update_of_ne (by rintro rfl; simp at outside)]
        exact (threaded.unlink_frame split outside).1
      · exact (threaded.unlink_frame split (foreign same node here)).2
  · simp only [retireNode]
    refine ⟨rfl, ?_⟩
    rw [Function.update_self]
    refine threaded.spare.congr fun node here => ?_
    have outside : node ∉ front ++ index :: back := by
      intro there
      rw [← split] at there
      exact threaded.notMem_unused there here
    rw [Function.update_of_ne (by rintro rfl; simp at outside)]
    exact (threaded.unlink_frame split outside).1
  · refine (nodesOf_update_perm ?_).trans threaded.nodes
    rw [split]
    simp only [List.append_assoc, List.cons_append]
    exact List.perm_middle.append_left front
  · by_cases same : other = pool
    · subst same
      rw [Function.update_self] at here
      simp only [retireNode, Function.update_of_ne (different node here)]
      refine threaded.free other node ?_
      rw [split]
      rcases List.mem_append.mp here with before | behind
      · exact List.mem_append_left _ before
      · exact List.mem_append_right _ (List.mem_cons_of_mem _ behind)
    · rw [Function.update_of_ne same] at here
      have outside := foreign same node here
      simp only [retireNode]
      rw [Function.update_of_ne (by rintro rfl; simp at outside)]
      exact threaded.free other node here
  · rcases List.mem_cons.mp here with rfl | spare
    · simp [retireNode]
    · have apart : node ≠ index := by
        rintro rfl
        exact threaded.notMem_unused member spare
      simp only [retireNode, Function.update_of_ne apart]
      exact threaded.unmarked node spare

theorem insert (threaded : header.Threaded lists (index :: unused))
    (split : lists pool = front ++ back)
    (capacity : after.extentNodeCapacity = header.extentNodeCapacity)
    (next : after.next = Linked.linkNext (Function.update header.next index none)
      front.getLast? back.head? index)
    (previous : after.previous = Linked.linkPrevious
      (Function.update header.previous index none) front.getLast? back.head? index)
    (freeHead : after.freeHead = Function.update header.freeHead pool
      (Linked.linkHead (header.freeHead pool) front.getLast? index))
    (freeExtentNodeHead : after.freeExtentNodeHead = header.next index)
    (marked : after.state index = .free)
    (state : ∀ node, node ≠ index → after.state node = header.state node) :
    after.Threaded (Function.update lists pool (front ++ index :: back)) unused := by
  have unlisted : ∀ other, index ∉ lists other := fun other here =>
    threaded.notMem_unused here List.mem_cons_self
  have absent : index ∉ front ++ back := by
    rw [← split]
    exact unlisted pool
  obtain ⟨fresh, -⟩ := List.nodup_cons.mp threaded.unused_nodup
  have chain : Linked.Chain (Function.update header.next index none)
      (Function.update header.previous index none) (header.freeHead pool) (front ++ back) := by
    have before := threaded.chain pool
    rw [split] at before
    have different : ∀ node ∈ front ++ back, node ≠ index := by
      rintro node here rfl
      exact absent here
    exact before.congr (fun node here => Function.update_of_ne (different node here) _ _)
      fun node here => Function.update_of_ne (different node here) _ _
  have frame : ∀ node, node ≠ index → node ∉ front ++ back →
      after.next node = header.next node ∧ after.previous node = header.previous node := by
    intro node apart outside
    rw [List.mem_append, not_or] at outside
    rw [next, previous, Linked.linkNext_of_ne apart, Linked.linkPrevious_of_ne apart,
      Function.update_of_ne apart, Function.update_of_ne apart]
    · exact ⟨rfl, rfl⟩
    · exact fun first => outside.2 (List.mem_of_head? first)
    · exact fun last => outside.1 (List.mem_of_getLast? last)
  refine ⟨fun other => ?_, ?_, ?_, fun other node here => ?_, fun node here => ?_⟩
  · by_cases same : other = pool
    · subst same
      rw [next, previous, freeHead, Function.update_self, Function.update_self]
      exact chain.link absent
    · rw [freeHead, Function.update_of_ne same, Function.update_of_ne same]
      have apart : ∀ node ∈ lists other, node ≠ index ∧ node ∉ front ++ back := by
        refine fun node here => ⟨?_, fun there => ?_⟩
        · rintro rfl
          exact unlisted other here
        · rw [← split] at there
          exact same (threaded.pool_unique there here)
      exact (threaded.chain other).congr
        (fun node here => (frame node (apart node here).1 (apart node here).2).1)
        fun node here => (frame node (apart node here).1 (apart node here).2).2
  · rw [freeExtentNodeHead]
    refine threaded.spare.2.congr fun node here => (frame node ?_ ?_).1
    · rintro rfl
      exact fresh here
    · intro there
      rw [← split] at there
      exact threaded.notMem_unused there (List.mem_cons_of_mem _ here)
  · rw [capacity]
    refine (nodesOf_update_perm ?_).trans threaded.nodes
    rw [split]
    simp only [List.append_assoc, List.cons_append]
    exact List.perm_middle.symm.append_left front
  · by_cases same : node = index
    · rw [same, marked]
    · rw [state node same]
      by_cases mine : other = pool
      · subst mine
        rw [Function.update_self] at here
        refine threaded.free other node ?_
        rw [split]
        simpa [same] using here
      · rw [Function.update_of_ne mine] at here
        exact threaded.free other node here
  · have apart : node ≠ index := by
      rintro rfl
      exact fresh here
    rw [state node apart]
    exact threaded.unmarked node (List.mem_cons_of_mem _ here)

end Threaded
end Moves

end Cxloom.LoomMem.ExtentHeader
