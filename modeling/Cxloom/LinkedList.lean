import Mathlib.Data.List.Nodup
import Mathlib.Logic.Function.Basic

/-!
# Lists linked through tables

A list of cells kept in a table of successors and a table of predecessors.  A cell is unlinked or
linked by changing the entries of its neighbours, or the head where there is no predecessor.
-/

namespace Cxloom.Linked

variable {Cell : Type} {next next' previous previous' : Cell → Option Cell}
  {start stop head before : Option Cell} {cells first second : List Cell} {cell : Cell}

/-- Following `next` from `start` visits the cells of a list and arrives at `stop`. -/
def Segment (next : Cell → Option Cell) : Option Cell → List Cell → Option Cell → Prop
  | start, [], stop => start = stop
  | start, cell :: rest, stop => start = some cell ∧ Segment next (next cell) rest stop

/-- Each cell names the one before it; the first names `before`. -/
def Backlinks (previous : Cell → Option Cell) : Option Cell → List Cell → Prop
  | _, [] => True
  | before, cell :: rest => previous cell = before ∧ Backlinks previous (some cell) rest

/-- A list linked in both directions. -/
structure Chain (next previous : Cell → Option Cell) (head : Option Cell) (cells : List Cell) :
    Prop where
  /-- Successors. -/
  forward : Segment next head cells none
  /-- Predecessors. -/
  backward : Backlinks previous none cells
  /-- No cell occurs twice. -/
  nodup : cells.Nodup

/-! ## Segments -/

theorem segment_append : Segment next start (first ++ second) stop ↔
    ∃ middle, Segment next start first middle ∧ Segment next middle second stop := by
  induction first generalizing start with
  | nil => simp [Segment]
  | cons cell rest induction =>
      simp only [List.cons_append, Segment, induction]
      constructor
      · rintro ⟨begins, middle, left, right⟩
        exact ⟨middle, ⟨begins, left⟩, right⟩
      · rintro ⟨middle, ⟨begins, left⟩, right⟩
        exact ⟨begins, middle, left, right⟩

theorem Segment.congr (segment : Segment next start cells stop)
    (agree : ∀ cell ∈ cells, next' cell = next cell) : Segment next' start cells stop := by
  induction cells generalizing start with
  | nil => exact segment
  | cons cell rest induction =>
      obtain ⟨begins, tail⟩ := segment
      refine ⟨begins, ?_⟩
      rw [agree cell List.mem_cons_self]
      exact induction tail fun other member => agree other (List.mem_cons_of_mem _ member)

theorem Segment.start_eq (segment : Segment next start cells stop) :
    start = cells.head?.or stop := by
  cases cells with
  | nil => exact segment
  | cons cell rest => exact segment.1

/-- The last cell of a segment can be given another successor. -/
theorem Segment.retarget {last : Cell} {stop' : Option Cell}
    (segment : Segment next start (cells ++ [last]) stop)
    (agree : ∀ cell ∈ cells, next' cell = next cell) (turned : next' last = stop') :
    Segment next' start (cells ++ [last]) stop' := by
  obtain ⟨middle, front, back⟩ := segment_append.mp segment
  exact segment_append.mpr ⟨middle, front.congr agree, back.1, turned⟩

/-! ## Backlinks -/

/-- The cells met from a start on. -/
def walk (next : Cell → Option Cell) : Nat → Option Cell → List Cell
  | 0, _ => []
  | _ + 1, none => []
  | fuel + 1, some cell => cell :: walk next fuel (next cell)

/-- A walk meets exactly the cells of a segment that ends. -/
theorem Segment.walk_eq {fuel : Nat} (segment : Segment next start cells none)
    (enough : cells.length ≤ fuel) : walk next fuel start = cells := by
  induction cells generalizing start fuel with
  | nil =>
      obtain rfl : start = none := segment
      cases fuel <;> rfl
  | cons cell rest induction =>
      obtain ⟨rfl, tail⟩ := segment
      cases fuel with
      | zero => simp at enough
      | succ fuel => rw [walk, induction tail (Nat.le_of_succ_le_succ enough)]

theorem backlinks_append : Backlinks previous before (first ++ second) ↔
    Backlinks previous before first ∧ Backlinks previous (first.getLast?.or before) second := by
  induction first generalizing before with
  | nil => simp [Backlinks]
  | cons cell rest induction =>
      have last : (cell :: rest).getLast?.or before = rest.getLast?.or (some cell) := by
        cases rest with
        | nil => rfl
        | cons other rest => simp [List.getLast?_cons]
      simp only [List.cons_append, Backlinks, induction, last, and_assoc]

theorem Backlinks.congr (backlinks : Backlinks previous before cells)
    (agree : ∀ cell ∈ cells, previous' cell = previous cell) :
    Backlinks previous' before cells := by
  induction cells generalizing before with
  | nil => trivial
  | cons cell rest induction =>
      obtain ⟨back, tail⟩ := backlinks
      refine ⟨(agree cell List.mem_cons_self).trans back, ?_⟩
      exact induction tail fun other member => agree other (List.mem_cons_of_mem _ member)

/-! ## Chains -/

namespace Chain

theorem congr (chain : Chain next previous head cells)
    (forward : ∀ cell ∈ cells, next' cell = next cell)
    (backward : ∀ cell ∈ cells, previous' cell = previous cell) :
    Chain next' previous' head cells :=
  ⟨chain.forward.congr forward, chain.backward.congr backward, chain.nodup⟩

theorem nil : Chain next previous none [] := ⟨rfl, trivial, List.nodup_nil⟩

theorem head_eq (chain : Chain next previous head cells) : head = cells.head? := by
  simpa using chain.forward.start_eq

theorem neighbours (chain : Chain next previous head (first ++ cell :: second)) :
    next cell = second.head? ∧ previous cell = first.getLast? := by
  obtain ⟨middle, -, -, tail⟩ := segment_append.mp chain.forward
  obtain ⟨-, back, -⟩ := backlinks_append.mp chain.backward
  exact ⟨by simpa using tail.start_eq, by simpa using back⟩

/-- Successors and predecessors are inverse to each other. -/
theorem next_eq_iff (chain : Chain next previous head cells) {left right : Cell}
    (here : left ∈ cells) (there : right ∈ cells) :
    next left = some right ↔ previous right = some left := by
  constructor
  · intro follows
    obtain ⟨front, back, rfl⟩ := List.append_of_mem here
    rw [chain.neighbours.1] at follows
    obtain ⟨rest, rfl⟩ := List.head?_eq_some_iff.mp follows
    have regroup : front ++ left :: right :: rest = (front ++ [left]) ++ right :: rest := by simp
    rw [regroup] at chain
    simpa using chain.neighbours.2
  · intro precedes
    obtain ⟨front, back, rfl⟩ := List.append_of_mem there
    rw [chain.neighbours.2] at precedes
    obtain ⟨rest, rfl⟩ := List.getLast?_eq_some_iff.mp precedes
    have regroup : (rest ++ [left]) ++ right :: back = rest ++ left :: right :: back := by simp
    rw [regroup] at chain
    simpa using chain.neighbours.1

theorem previous_head (chain : Chain next previous head cells) {cell : Cell}
    (first : head = some cell) : previous cell = none := by
  rw [chain.head_eq] at first
  obtain ⟨rest, rfl⟩ := List.head?_eq_some_iff.mp first
  exact chain.backward.1

end Chain

section Change

variable [DecidableEq Cell]

def unlinkNext (next previous : Cell → Option Cell) (cell : Cell) : Cell → Option Cell :=
  match previous cell with
  | some other => Function.update next other (next cell)
  | none => next

def unlinkPrevious (next previous : Cell → Option Cell) (cell : Cell) : Cell → Option Cell :=
  match next cell with
  | some other => Function.update previous other (previous cell)
  | none => previous

def unlinkHead (next previous : Cell → Option Cell) (head : Option Cell) (cell : Cell) :
    Option Cell :=
  match previous cell with
  | some _ => head
  | none => next cell

/-- Successors after a cell is linked between two others. -/
def linkNext (next : Cell → Option Cell) (before after : Option Cell) (cell : Cell) :
    Cell → Option Cell :=
  match before with
  | some other => Function.update (Function.update next cell after) other (some cell)
  | none => Function.update next cell after

/-- Predecessors after a cell is linked between two others. -/
def linkPrevious (previous : Cell → Option Cell) (before after : Option Cell) (cell : Cell) :
    Cell → Option Cell :=
  match after with
  | some other => Function.update (Function.update previous cell before) other (some cell)
  | none => Function.update previous cell before

/-- Head after a cell is linked between two others. -/
def linkHead (head before : Option Cell) (cell : Cell) : Option Cell :=
  match before with
  | some _ => head
  | none => some cell

theorem Chain.unlink (chain : Chain next previous head (first ++ cell :: second)) :
    Chain (unlinkNext next previous cell) (unlinkPrevious next previous cell)
      (unlinkHead next previous head cell) (first ++ second) := by
  obtain ⟨successor, predecessor⟩ := chain.neighbours
  obtain ⟨nodupFirst, nodupRest, apart⟩ := List.nodup_append.mp chain.nodup
  obtain ⟨absent, nodupSecond⟩ := List.nodup_cons.mp nodupRest
  obtain ⟨middle, front, begins, tail⟩ := segment_append.mp chain.forward
  obtain ⟨back, -, backTail⟩ := backlinks_append.mp chain.backward
  refine ⟨?_, ?_, List.nodup_append.mpr ⟨nodupFirst, nodupSecond, fun one here two there =>
    apart one here two (List.mem_cons_of_mem _ there)⟩⟩
  · rcases List.eq_nil_or_concat first with rfl | ⟨front', last, rfl⟩
    · simp only [List.getLast?_nil] at predecessor
      simpa [unlinkHead, unlinkNext, predecessor] using tail
    · simp only [List.concat_eq_append] at *
      simp only [List.getLast?_append, List.getLast?_singleton, Option.some_or] at predecessor
      simp only [unlinkHead, unlinkNext, predecessor]
      refine segment_append.mpr ⟨next cell, front.retarget (fun other member => ?_)
        (Function.update_self _ _ _), tail.congr fun other member => ?_⟩
      · refine Function.update_of_ne ?_ _ _
        rintro rfl
        exact (List.nodup_append.mp nodupFirst).2.2 other member other List.mem_cons_self rfl
      · refine Function.update_of_ne ?_ _ _
        rintro rfl
        exact apart other (by simp) other (List.mem_cons_of_mem _ member) rfl
  · rw [backlinks_append]
    cases second with
    | nil =>
        simp only [List.head?_nil] at successor
        simpa [unlinkPrevious, successor, Backlinks] using back
    | cons follower rest =>
        simp only [List.head?_cons] at successor
        obtain ⟨nodupFollower, -⟩ := List.nodup_cons.mp nodupSecond
        simp only [unlinkPrevious, successor]
        refine ⟨back.congr fun other member => Function.update_of_ne ?_ _ _, ?_,
          backTail.2.congr fun other member => Function.update_of_ne ?_ _ _⟩
        · rintro rfl
          exact apart other member other (by simp) rfl
        · rw [Function.update_self, predecessor, Option.or_none]
        · rintro rfl
          exact nodupFollower member

/-- Linking a cell between two parts of a chain. -/
theorem Chain.link (chain : Chain next previous head (first ++ second))
    (absent : cell ∉ first ++ second) :
    Chain (linkNext next first.getLast? second.head? cell)
      (linkPrevious previous first.getLast? second.head? cell)
      (linkHead head first.getLast? cell) (first ++ cell :: second) := by
  obtain ⟨nodupFirst, nodupSecond, apart⟩ := List.nodup_append.mp chain.nodup
  obtain ⟨middle, front, tail⟩ := segment_append.mp chain.forward
  obtain ⟨back, backTail⟩ := backlinks_append.mp chain.backward
  have begins : middle = second.head? := by simpa using tail.start_eq
  subst begins
  rw [List.mem_append, not_or] at absent
  obtain ⟨absentFirst, absentSecond⟩ := absent
  refine ⟨?_, ?_, ?_⟩
  · rcases List.eq_nil_or_concat first with rfl | ⟨front', last, rfl⟩
    · refine ⟨rfl, ?_⟩
      simp only [List.getLast?_nil, linkNext, Function.update_self]
      refine tail.congr fun other member => Function.update_of_ne ?_ _ _
      rintro rfl
      exact absentSecond member
    · simp only [List.concat_eq_append] at *
      simp only [List.getLast?_append, List.getLast?_singleton, Option.some_or, linkHead, linkNext]
      have other : cell ≠ last := by
        rintro rfl
        exact absentFirst (by simp)
      refine segment_append.mpr ⟨some cell, front.retarget (fun member here => ?_)
        (Function.update_self _ _ _), rfl, ?_⟩
      · rw [Function.update_of_ne, Function.update_of_ne]
        · rintro rfl
          exact absentFirst (List.mem_append_left _ here)
        · rintro rfl
          exact (List.nodup_append.mp nodupFirst).2.2 member here member List.mem_cons_self rfl
      · rw [Function.update_of_ne other, Function.update_self]
        refine tail.congr fun member there => ?_
        rw [Function.update_of_ne, Function.update_of_ne]
        · rintro rfl
          exact absentSecond there
        · rintro rfl
          exact apart member (by simp) member there rfl
  · rw [backlinks_append]
    cases second with
    | nil =>
        simp only [List.head?_nil, linkPrevious]
        refine ⟨back.congr fun member here => Function.update_of_ne ?_ _ _, ?_, trivial⟩
        · rintro rfl
          exact absentFirst here
        · rw [Function.update_self, Option.or_none]
    | cons follower rest =>
        have other : cell ≠ follower := by
          rintro rfl
          exact absentSecond List.mem_cons_self
        simp only [List.head?_cons, linkPrevious]
        refine ⟨back.congr fun member here => ?_, ?_, Function.update_self _ _ _,
          backTail.2.congr fun member there => ?_⟩
        · rw [Function.update_of_ne, Function.update_of_ne]
          · rintro rfl
            exact absentFirst here
          · rintro rfl
            exact apart member here member List.mem_cons_self rfl
        · rw [Function.update_of_ne other, Function.update_self, Option.or_none]
        · rw [Function.update_of_ne, Function.update_of_ne]
          · rintro rfl
            exact absentSecond (List.mem_cons_of_mem _ there)
          · rintro rfl
            exact (List.nodup_cons.mp nodupSecond).1 there
  · refine List.nodup_append.mpr ⟨nodupFirst, List.nodup_cons.mpr ⟨absentSecond, nodupSecond⟩, ?_⟩
    intro one here two there
    rcases List.mem_cons.mp there with rfl | behind
    · rintro rfl
      exact absentFirst here
    · exact apart one here two behind

/-- Unlinking changes no successor outside the part before the cell. -/
theorem Chain.unlinkNext_of_notMem (chain : Chain next previous head (first ++ cell :: second))
    {other : Cell} (absent : other ∉ first) :
    unlinkNext next previous cell other = next other := by
  rw [unlinkNext, chain.neighbours.2]
  cases last : first.getLast? with
  | none => rfl
  | some neighbour =>
      refine Function.update_of_ne ?_ _ _
      rintro rfl
      exact absent (List.mem_of_getLast? last)

/-- Unlinking changes no predecessor outside the part behind the cell. -/
theorem Chain.unlinkPrevious_of_notMem (chain : Chain next previous head (first ++ cell :: second))
    {other : Cell} (absent : other ∉ second) :
    unlinkPrevious next previous cell other = previous other := by
  rw [unlinkPrevious, chain.neighbours.1]
  cases follower : second.head? with
  | none => rfl
  | some neighbour =>
      refine Function.update_of_ne ?_ _ _
      rintro rfl
      exact absent (List.mem_of_head? follower)

theorem linkNext_of_ne {after : Option Cell} {other : Cell} (apart : other ≠ cell)
    (absent : before ≠ some other) : linkNext next before after cell other = next other := by
  cases before with
  | none => exact Function.update_of_ne apart _ _
  | some neighbour =>
      have different : other ≠ neighbour := fun same => absent (congrArg some same.symm)
      simp [linkNext, different, apart]

theorem linkPrevious_of_ne {after : Option Cell} {other : Cell} (apart : other ≠ cell)
    (absent : after ≠ some other) :
    linkPrevious previous before after cell other = previous other := by
  cases after with
  | none => exact Function.update_of_ne apart _ _
  | some neighbour =>
      have different : other ≠ neighbour := fun same => absent (congrArg some same.symm)
      simp [linkPrevious, different, apart]

end Change

end Cxloom.Linked
