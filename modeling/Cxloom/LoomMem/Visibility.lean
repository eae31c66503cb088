import Cxloom.LoomMem.Queue
import Cxloom.Words
import Cxloom.WriteBackCache

/-!
# Visibility recipes

`PublishData` and `AcquireData` execute one instruction for every cache line that an address range
meets and then a fence.  The instructions of one host take effect in program order here, which is
what the fence is for.  Between hosts nothing is ordered, and the caches move lines as they please:
a range that hosts pass on by publishing and acquiring it is still one memory.
-/

namespace Cxloom.LoomMem

open WriteBackCache

/-! ## Lines -/

def kCacheLineBytes : Nat := 64

def lineOf (address : Nat) : Nat := address &&& not64 (kCacheLineBytes - 1)

/-- The lines from one on that begin before an end.  The address of a line wraps around. -/
def cacheLinesFrom : Nat → Nat → Nat → List Nat
  | 0, _, _ => []
  | fuel + 1, line, rawEnd =>
      if line < rawEnd then
        line :: cacheLinesFrom fuel (add64 line kCacheLineBytes) rawEnd
      else []

/-- The lines that `ForEachCacheLine` visits, with a bound for the number of its rounds. -/
def forEachCacheLine (fuel address bytes : Nat) : List Nat :=
  cacheLinesFrom fuel (lineOf address) (add64 address bytes)

/-- What is executed for a line. -/
inductive LineInstruction
  | clflush
  | clwb
deriving DecidableEq, Repr

def LineInstruction.action {Host Data : Type} (host : Host) : LineInstruction → Action Host Data
  | .clflush => .clflush host
  | .clwb => .clwb host

theorem LineInstruction.writer?_action {Host Data : Type} (host : Host)
    (instruction : LineInstruction) :
    (instruction.action host : Action Host Data).writer? = none := by
  cases instruction <;> rfl

/-- Both instructions write the copy back. -/
theorem LineInstruction.clean_action {Host Data : Type} [DecidableEq Host]
    (state : LineState Host Data) (host : Host) (instruction : LineInstruction) :
    Clean (state.perform (instruction.action host)) host := by
  cases instruction with
  | clflush => exact clean_clflush state host
  | clwb => exact clean_clwb state host

/-- Rounds that cover a range of a number of bytes. -/
def cacheLineRounds (bytes : Nat) : Nat := bytes / kCacheLineBytes + 2

/-- Make stores to a range visible to the other hosts. -/
def publishData (processor : Processor) (address bytes : Nat) (mode : VisibilityMode) :
    Status × List (Nat × LineInstruction) :=
  if address = 0 ∨ bytes = 0 then
    (.invalidArgument "visibility publication range must be non-empty", [])
  else
    let validation := validateVisibilityMode processor mode
    if validation.isOk then
      match mode with
      | .releaseAcquire | .sequentiallyConsistent => (.ok, [])
      | .clflush =>
          (.ok, (forEachCacheLine (cacheLineRounds bytes) address bytes).map (·, .clflush))
      | .clwb => (.ok, (forEachCacheLine (cacheLineRounds bytes) address bytes).map (·, .clwb))
    else (validation, [])

/-- Let the loads that follow see what other hosts have published.  `CLWB` keeps the line of a
reader, so both write-back modes flush here. -/
def acquireData (processor : Processor) (address bytes : Nat) (mode : VisibilityMode) :
    Status × List (Nat × LineInstruction) :=
  if address = 0 ∨ bytes = 0 then
    (.invalidArgument "visibility acquisition range must be non-empty", [])
  else
    let validation := validateVisibilityMode processor mode
    if validation.isOk then
      match mode with
      | .releaseAcquire | .sequentiallyConsistent => (.ok, [])
      | .clflush | .clwb =>
          (.ok, (forEachCacheLine (cacheLineRounds bytes) address bytes).map (·, .clflush))
    else (validation, [])

/-- Modes that write lines back. -/
def VisibilityMode.writesBack : VisibilityMode → Bool
  | .clflush | .clwb => true
  | .releaseAcquire | .sequentiallyConsistent => false

/-! ## The lines of a range -/

section Lines

variable {address bytes line byte : Nat}

theorem lineOf_eq (fits : address < wordLimit) :
    lineOf address = address / kCacheLineBytes * kCacheLineBytes :=
  @and_not64 address 6 fits (by decide)

/-- The lines that a loop visits which does not reach the end of the address space. -/
theorem mem_cacheLinesFrom {fuel start rawEnd : Nat} (fits : rawEnd + kCacheLineBytes ≤ wordLimit)
    (enough : rawEnd ≤ start + fuel * kCacheLineBytes) :
    line ∈ cacheLinesFrom fuel start rawEnd ↔
      ∃ round, line = start + round * kCacheLineBytes ∧ line < rawEnd := by
  induction fuel generalizing start with
  | zero =>
      refine iff_of_false List.not_mem_nil fun ⟨round, position, inside⟩ => ?_
      omega
  | succ fuel induction =>
      rw [cacheLinesFrom]
      split
      · rename_i before
        have next : add64 start kCacheLineBytes = start + kCacheLineBytes :=
          add64_of_lt (by omega)
        rw [next, List.mem_cons, induction (by rw [Nat.succ_mul] at enough; omega)]
        constructor
        · rintro (rfl | ⟨round, rfl, inside⟩)
          · exact ⟨0, by omega, before⟩
          · refine ⟨round + 1, ?_, inside⟩
            rw [Nat.succ_mul]
            omega
        · rintro ⟨round, rfl, inside⟩
          cases round with
          | zero => exact .inl (by omega)
          | succ round =>
              refine .inr ⟨round, ?_, inside⟩
              rw [Nat.succ_mul]
              omega
      · refine iff_of_false List.not_mem_nil fun ⟨round, position, inside⟩ => ?_
        omega

/-- The loop visits the line of every byte of the range and no other line, provided that the range
ends a line before the address space. -/
theorem mem_forEachCacheLine (positive : 0 < bytes)
    (fits : address + bytes + kCacheLineBytes ≤ wordLimit) :
    line ∈ forEachCacheLine (cacheLineRounds bytes) address bytes ↔
      ∃ byte, address ≤ byte ∧ byte < address + bytes ∧ lineOf byte = line := by
  have line64 : kCacheLineBytes = 64 := rfl
  have small : address < wordLimit := by omega
  have rawEnd : add64 address bytes = address + bytes := add64_of_lt (by omega)
  rw [forEachCacheLine, rawEnd, lineOf_eq small]
  have enough : address + bytes ≤
      address / kCacheLineBytes * kCacheLineBytes + cacheLineRounds bytes * kCacheLineBytes := by
    simp only [cacheLineRounds, line64]
    omega
  rw [mem_cacheLinesFrom fits enough]
  constructor
  · rintro ⟨round, rfl, inside⟩
    cases round with
    | zero =>
        refine ⟨address, le_rfl, by omega, ?_⟩
        rw [lineOf_eq small]
        omega
    | succ round =>
        refine ⟨_, ?_, inside, ?_⟩
        · simp only [line64]
          omega
        · rw [lineOf_eq (by omega)]
          simp only [line64]
          omega
  · rintro ⟨byte, low, high, rfl⟩
    rw [lineOf_eq (by omega)]
    simp only [line64]
    refine ⟨byte / 64 - address / 64, ?_, ?_⟩
    · rw [Nat.sub_mul]
      omega
    · omega

theorem publishData_lines {processor : Processor} {mode : VisibilityMode}
    (usable : (validateVisibilityMode processor mode).isOk = true)
    (writesBack : mode.writesBack = true) (nonnull : 0 < address) (positive : 0 < bytes) :
    (publishData processor address bytes mode).1 = .ok ∧
      ∀ line ∈ forEachCacheLine (cacheLineRounds bytes) address bytes,
        (line, .clwb) ∈ (publishData processor address bytes mode).2 ∨
          (line, .clflush) ∈ (publishData processor address bytes mode).2 := by
  have nonempty : ¬ (address = 0 ∨ bytes = 0) := not_or.mpr ⟨nonnull.ne', positive.ne'⟩
  unfold publishData
  rw [if_neg nonempty]
  simp only [usable, if_true]
  cases mode with
  | releaseAcquire | sequentiallyConsistent => cases writesBack
  | clflush => exact ⟨rfl, fun line visited => .inr (List.mem_map_of_mem visited)⟩
  | clwb => exact ⟨rfl, fun line visited => .inl (List.mem_map_of_mem visited)⟩

/-- A mode that writes lines back flushes every line of a range that is acquired. -/
theorem acquireData_lines {processor : Processor} {mode : VisibilityMode}
    (usable : (validateVisibilityMode processor mode).isOk = true)
    (writesBack : mode.writesBack = true) (nonnull : 0 < address) (positive : 0 < bytes) :
    acquireData processor address bytes mode =
      (.ok, (forEachCacheLine (cacheLineRounds bytes) address bytes).map (·, .clflush)) := by
  have nonempty : ¬ (address = 0 ∨ bytes = 0) := not_or.mpr ⟨nonnull.ne', positive.ne'⟩
  unfold acquireData
  rw [if_neg nonempty]
  simp only [usable, if_true]
  cases mode with
  | releaseAcquire | sequentiallyConsistent => cases writesBack
  | clflush | clwb => rfl

/-- The byte of a line that an address names. -/
def lineOffset (address : Nat) : Fin kCacheLineBytes :=
  ⟨address % kCacheLineBytes, Nat.mod_lt _ (by decide)⟩

theorem lineOffset_ne (small : address < wordLimit) (other : byte < wordLimit)
    (different : byte ≠ address) (same : lineOf byte = lineOf address) :
    lineOffset byte ≠ lineOffset address := by
  intro position
  have offset : byte % kCacheLineBytes = address % kCacheLineBytes := congrArg Fin.val position
  rw [lineOf_eq small, lineOf_eq other] at same
  simp only [kCacheLineBytes] at same offset
  omega

end Lines

/-! ## A range that hosts pass on -/

/-- The bytes of a line. -/
abbrev LineBytes := Fin kCacheLineBytes → UInt8

def readByte {Host : Type} (caches : Caches Host Nat LineBytes) (host : Host) (address : Nat) :
    UInt8 :=
  (caches (lineOf address)).view host (lineOffset address)

/-- Hosts with their recipes and a range of addresses. -/
structure VisibilityDomain (Host : Type) where
  processor : Host → Processor
  mode : Host → VisibilityMode
  writesBack : ∀ host, (mode host).writesBack = true
  /-- The processors support the modes. -/
  usable : ∀ host, (validateVisibilityMode (processor host) (mode host)).isOk = true
  /-- First byte. -/
  address : Nat
  bytes : Nat
  /-- The first byte is not that of the null pointer. -/
  address_pos : 0 < address
  /-- The range is not empty. -/
  bytes_pos : 0 < bytes
  /-- The range ends a line before the address space. -/
  fits : address + bytes + kCacheLineBytes ≤ wordLimit

namespace VisibilityDomain

variable {Host : Type} (domain : VisibilityDomain Host)

def Covers (line : Nat) : Prop :=
  ∃ byte, domain.address ≤ byte ∧ byte < domain.address + domain.bytes ∧ lineOf byte = line

/-- What a host executes to publish the range. -/
def publication (host : Host) : Status × List (Nat × LineInstruction) :=
  publishData (domain.processor host) domain.address domain.bytes (domain.mode host)

/-- What a host executes to acquire the range. -/
def acquisition (host : Host) : Status × List (Nat × LineInstruction) :=
  acquireData (domain.processor host) domain.address domain.bytes (domain.mode host)

variable {domain}

theorem publication_spec (host : Host) : (domain.publication host).1 = .ok ∧
    ∀ line, domain.Covers line →
      (line, .clwb) ∈ (domain.publication host).2 ∨
        (line, .clflush) ∈ (domain.publication host).2 := by
  obtain ⟨accepted, lines⟩ := publishData_lines (domain.usable host) (domain.writesBack host)
    domain.address_pos domain.bytes_pos
  exact ⟨accepted, fun line covers =>
    lines line ((mem_forEachCacheLine domain.bytes_pos domain.fits).mpr covers)⟩

/-- Acquiring flushes every line of the range. -/
theorem acquisition_spec (host : Host) : (domain.acquisition host).1 = .ok ∧
    ∀ line, domain.Covers line → (line, .clflush) ∈ (domain.acquisition host).2 := by
  rw [acquisition, acquireData_lines (domain.usable host) (domain.writesBack host)
    domain.address_pos domain.bytes_pos]
  exact ⟨rfl, fun line covers =>
    List.mem_map_of_mem ((mem_forEachCacheLine domain.bytes_pos domain.fits).mpr covers)⟩

end VisibilityDomain

/-- Lines of a memory, the host that may store to the range, and what one memory would have. -/
structure SharedRange (Host : Type) where
  caches : Caches Host Nat LineBytes
  /-- The host that may store to the range. -/
  holder : Host
  /-- The bytes that one memory would have. -/
  contents : Nat → UInt8

/-- What happens to a range. -/
inductive RangeLabel (Host : Type)
  | store (host : Host) (address : Nat) (value : UInt8)
  /-- Anything else happens to a line. -/
  | act (line : Nat) (action : Action Host LineBytes)
  /-- The holder publishes and another host acquires the range, among other actions. -/
  | pass (reader : Host) (publishing acquiring : List (Nat × Action Host LineBytes))

namespace SharedRange

variable {Host : Type} [DecidableEq Host] (domain : VisibilityDomain Host)

def next (range : SharedRange Host) : RangeLabel Host → Option (SharedRange Host)
  | .store host address value =>
      some { range with
        caches := range.caches.perform
          (lineOf address, .store host fun line => Function.update line (lineOffset address) value)
        contents := Function.update range.contents address value }
  | .act line action => some { range with caches := range.caches.perform (line, action) }
  | .pass reader publishing acquiring =>
      some { range with
        caches := (range.caches.performAll publishing).performAll acquiring, holder := reader }

/-- No host stores to the range. -/
def QuietOn (labels : List (Nat × Action Host LineBytes)) : Prop :=
  ∀ label ∈ labels, domain.Covers label.1 → label.2.writer? = none

/-- Only the holder stores to lines of the range, and it passes them on by the recipes. -/
def Admits (range : SharedRange Host) : RangeLabel Host → Prop
  | .store host address _ =>
      address < wordLimit ∧ (domain.Covers (lineOf address) → host = range.holder)
  | .act line action => domain.Covers line → action.writer? = none
  | .pass reader publishing acquiring =>
      QuietOn domain publishing ∧ QuietOn domain acquiring ∧
        (∀ step ∈ (domain.publication range.holder).2,
          (step.1, step.2.action range.holder) ∈ publishing) ∧
        ∀ step ∈ (domain.acquisition reader).2, (step.1, step.2.action reader) ∈ acquiring

/-- The holder is the writer of the range and reads what was stored. -/
structure Holds (range : SharedRange Host) : Prop where
  written : ∀ line, domain.Covers line → Written (range.caches line) range.holder
  /-- It reads what one memory would have. -/
  reads : ∀ address, address < wordLimit → domain.Covers (lineOf address) →
    readByte range.caches range.holder address = range.contents address

variable {domain} {range after : SharedRange Host}

omit [DecidableEq Host] in
theorem QuietOn.quiet {labels : List (Nat × Action Host LineBytes)} (quiet : QuietOn domain labels)
    {line : Nat} (covers : domain.Covers line) : Quiet (Caches.actionsOn line labels) :=
  fun action member => quiet (line, action) (Caches.mem_actionsOn.mp member) covers

theorem Holds.store (holds : Holds domain range) {host : Host} {address : Nat} {value : UInt8}
    (small : address < wordLimit)
    (mine : domain.Covers (lineOf address) → host = range.holder) :
    Holds domain { range with
      caches := range.caches.perform
        (lineOf address, .store host fun line => Function.update line (lineOffset address) value)
      contents := Function.update range.contents address value } := by
  refine ⟨fun line covers => ?_, fun byte inside covers => ?_⟩
  · show Written (range.caches.perform (lineOf address, _) line) range.holder
    by_cases here : line = lineOf address
    · subst here
      obtain rfl := mine covers
      rw [Caches.perform_self]
      exact (holds.written _ covers).perform fun host some => (Option.some.inj some).symm
    · rw [Caches.perform_of_ne _ _ here]
      exact holds.written line covers
  · show ((range.caches.perform (lineOf address, _) (lineOf byte)).view range.holder)
      (lineOffset byte) = Function.update range.contents address value byte
    by_cases here : lineOf byte = lineOf address
    · rw [here] at covers
      obtain rfl := mine covers
      rw [here, Caches.perform_self, view_store]
      by_cases same : byte = address
      · subst same
        rw [Function.update_self, Function.update_self]
      · rw [Function.update_of_ne same,
          Function.update_of_ne (lineOffset_ne small inside same here), ← here]
        exact holds.reads byte inside (here ▸ covers)
    · have different : byte ≠ address := fun same => here (congrArg lineOf same)
      rw [Caches.perform_of_ne _ _ here, Function.update_of_ne different]
      exact holds.reads byte inside covers

theorem Holds.act (holds : Holds domain range) {line : Nat} {action : Action Host LineBytes}
    (quiet : domain.Covers line → action.writer? = none) :
    Holds domain { range with caches := range.caches.perform (line, action) } := by
  refine ⟨fun other covers => ?_, fun byte inside covers => ?_⟩
  · show Written (range.caches.perform (line, action) other) range.holder
    by_cases here : other = line
    · subst here
      rw [Caches.perform_self]
      exact (holds.written _ covers).perform (only_of_quiet (quiet covers))
    · rw [Caches.perform_of_ne _ _ here]
      exact holds.written other covers
  · rw [← holds.reads byte inside covers]
    show ((range.caches.perform (line, action) (lineOf byte)).view range.holder)
      (lineOffset byte) = (range.caches (lineOf byte)).view range.holder (lineOffset byte)
    by_cases here : lineOf byte = line
    · subst here
      rw [Caches.perform_self, (holds.written _ covers).view_perform (quiet covers)]
    · rw [Caches.perform_of_ne _ _ here]

/-- The next host reads what the holder has stored, and may store in turn. -/
theorem Holds.pass (holds : Holds domain range) {reader : Host}
    {publishing acquiring : List (Nat × Action Host LineBytes)}
    (admits : Admits domain range (.pass reader publishing acquiring)) :
    Holds domain { range with
      caches := (range.caches.performAll publishing).performAll acquiring, holder := reader } := by
  obtain ⟨first, second, published, acquired⟩ := admits
  have passed : ∀ line, domain.Covers line →
      Written (((range.caches.performAll publishing).performAll acquiring) line) reader ∧
      (((range.caches.performAll publishing).performAll acquiring) line).view reader =
        (range.caches line).view range.holder := fun line covers => by
    have written := holds.written line covers
    have early := first.quiet covers
    have late := second.quiet covers
    have flushed : .clwb range.holder ∈ Caches.actionsOn line publishing ∨
        .clflush range.holder ∈ Caches.actionsOn line publishing := by
      rw [Caches.mem_actionsOn, Caches.mem_actionsOn]
      exact ((VisibilityDomain.publication_spec range.holder).2 line covers).imp (published _)
        (published _)
    have dropped : .clflush reader ∈ Caches.actionsOn line acquiring :=
      Caches.mem_actionsOn.mpr
        (acquired _ ((VisibilityDomain.acquisition_spec reader).2 line covers))
    rw [Caches.performAll_line, Caches.performAll_line]
    obtain ⟨middle, same, -⟩ := written.quiet early
    have clean := written.published early flushed
    obtain ⟨final, still, stays⟩ := middle.quiet late
    have current := middle.acquired clean late dropped
    refine ⟨final.handOver (stays clean).1 current, ?_⟩
    rw [current.view, final.memory_eq (stays clean).1, still, same]
  refine ⟨fun line covers => (passed line covers).1, fun byte inside covers => ?_⟩
  rw [← holds.reads byte inside covers, readByte, readByte, (passed _ covers).2]

theorem Holds.next (holds : Holds domain range) {label : RangeLabel Host}
    (admits : Admits domain range label) (performed : range.next label = some after) :
    Holds domain after := by
  cases label with
  | store host address value =>
      obtain rfl := Option.some.inj performed
      exact holds.store admits.1 admits.2
  | act line action =>
      obtain rfl := Option.some.inj performed
      exact holds.act admits
  | pass reader publishing acquiring =>
      obtain rfl := Option.some.inj performed
      exact holds.pass admits

/-- In every run in which hosts pass a range on by publishing and acquiring it, and only the host
that holds it stores to its lines, the holder reads the bytes that one memory would have, whatever
the caches fetch, write back and evict. -/
theorem passed_range_is_one_memory (holds : Holds domain range)
    (execution : Run.ReachesBy SharedRange.next (Admits domain) range after) (byte : Nat)
    (low : domain.address ≤ byte) (high : byte < domain.address + domain.bytes) :
    readByte after.caches after.holder byte = after.contents byte := by
  have held : Holds domain after :=
    execution.preserves (Holds domain) holds fun _ _ _ holds admits performed =>
      holds.next admits performed
  have fits := domain.fits
  exact held.reads byte (by omega) ⟨byte, low, high, rfl⟩

/-- The line instructions of a host as what happens to the lines. -/
def executes (host : Host) (steps : List (Nat × LineInstruction)) :
    List (Nat × Action Host LineBytes) :=
  steps.map fun step => (step.1, step.2.action host)

omit [DecidableEq Host] in
theorem quietOn_executes (host : Host) (steps : List (Nat × LineInstruction)) :
    QuietOn domain (executes host steps) := by
  rintro label member -
  obtain ⟨step, -, rfl⟩ := List.mem_map.mp member
  exact step.2.writer?_action host

omit [DecidableEq Host] in
/-- Passing a range on without anything in between. -/
theorem admits_pass (range : SharedRange Host) (reader : Host) :
    Admits domain range (.pass reader (executes range.holder (domain.publication range.holder).2)
      (executes reader (domain.acquisition reader).2)) :=
  ⟨quietOn_executes _ _, quietOn_executes _ _, fun _ => List.mem_map_of_mem,
    fun _ => List.mem_map_of_mem⟩

/-- A range on two lines, for hosts with different modes. -/
def writeBackPair : VisibilityDomain Bool where
  processor _ := ⟨true, true⟩
  mode host := if host then .clflush else .clwb
  writesBack := fun host => by cases host <;> rfl
  usable := fun host => by cases host <;> rfl
  address := 60
  bytes := 8
  address_pos := Nat.succ_pos _
  bytes_pos := Nat.succ_pos _
  fits := Nat.le_of_ble_eq_true rfl

/-- Zero bytes in no cache. -/
def zeroPair : SharedRange Bool := ⟨fun _ => .uncached fun _ => 0, false, fun _ => 0⟩

/-- A host with an old copy of the line reads what the other has stored. -/
theorem passed_range_is_one_memory_staleCopy :
    ∃ after, Run.ReachesBy SharedRange.next (Admits writeBackPair) zeroPair after ∧
      after.contents 62 = 7 ∧ after.holder = true ∧
        readByte after.caches after.holder 62 = after.contents 62 := by
  have holds : Holds writeBackPair zeroPair :=
    ⟨fun _ _ => Written.uncached _ _, fun _ _ _ => rfl⟩
  have execution : ∃ after, Run.ReachesBy SharedRange.next (Admits writeBackPair) zeroPair after ∧
      after.contents 62 = 7 ∧ after.holder = true := by
    have performed : Run.runLabels SharedRange.next zeroPair [.act 0 (.fetch true),
        .store false 62 7, .pass true (executes false (writeBackPair.publication false).2)
          (executes true (writeBackPair.acquisition true).2)] = some _ := rfl
    refine ⟨_, Run.reachesBy_of_runLabels performed ?_, rfl, rfl⟩
    exact ⟨fun _ => rfl, ⟨by decide, fun _ => rfl⟩, admits_pass _ true, trivial⟩
  obtain ⟨after, reached, value, holder⟩ := execution
  exact ⟨after, reached, value, holder,
    passed_range_is_one_memory holds reached 62 (by decide) (by decide)⟩

end SharedRange
end Cxloom.LoomMem
