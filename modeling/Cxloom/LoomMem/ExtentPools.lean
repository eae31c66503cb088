import Cxloom.Common
import Cxloom.HostMask
import Cxloom.LinkedList
import Cxloom.Words

/-!
# The shared extent pools

An embedding of the extent lists of `AllocatorHeader`: an address-ordered list and sixty-four size
bins for each of the two pools, threaded through one table of nodes, and the list of unused nodes.
Every operation runs under the extent lock.  The fields of `SharedExtentNode` are tables by node
index.
-/

namespace Cxloom.LoomMem

/-- Number of size bins of a pool. -/
def kTlsfBinCount : Nat := 64

/-- Whether a node describes a free extent. -/
inductive SharedExtentState
  | unused
  | free
deriving DecidableEq, Repr

/-- The two pools that share the node table. -/
inductive ExtentPool
  | data
  | coherence
deriving DecidableEq, Repr

/-- The extent metadata of `AllocatorHeader`. -/
structure ExtentHeader where
  /-- Number of nodes. -/
  extentNodeCapacity : Nat
  /-- First byte of a node's extent. -/
  offset : Nat → Nat
  /-- Length of a node's extent. -/
  bytes : Nat → Nat
  /-- Next node in address order, or of the unused list. -/
  next : Nat → Option Nat
  /-- Previous node in address order. -/
  previous : Nat → Option Nat
  binNext : Nat → Option Nat
  binPrevious : Nat → Option Nat
  /-- Size bin of a node. -/
  bin : Nat → Nat
  /-- Use of a node. -/
  state : Nat → SharedExtentState
  freeHead : ExtentPool → Option Nat
  bins : ExtentPool → Nat → Option Nat
  binBitmap : ExtentPool → BitVec 64
  /-- First unused node. -/
  freeExtentNodeHead : Option Nat

/-- `BinForBytes`: the position of the highest set bit, and zero for sizes zero and one. -/
def binForBytes (bytes : Nat) : Nat :=
  if bytes ≤ 1 then 0 else min bytes.log2 (kTlsfBinCount - 1)

namespace ExtentHeader

/-! ## Nodes and bins -/

/-- `InsertBinLocked`: put a node at the front of the bin of its size. -/
def insertBin (header : ExtentHeader) (pool : ExtentPool) (index : Nat) : ExtentHeader :=
  let bin := binForBytes (header.bytes index)
  let head := header.bins pool bin
  { header with
    bin := Function.update header.bin index bin
    binNext := Linked.linkNext header.binNext none head index
    binPrevious := Linked.linkPrevious header.binPrevious none head index
    bins := Function.update header.bins pool
      (Function.update (header.bins pool) bin (some index))
    binBitmap := Function.update header.binBitmap pool
      (header.binBitmap pool ||| HostMask.bit bin) }

/-- `RemoveBinLocked`: take a node out of the bin it remembers. -/
def removeBin (header : ExtentHeader) (pool : ExtentPool) (index : Nat) : ExtentHeader :=
  let bin := header.bin index
  let head :=
    Linked.unlinkHead header.binNext header.binPrevious (header.bins pool bin) index
  { header with
    binNext := Function.update
      (Linked.unlinkNext header.binNext header.binPrevious index) index none
    binPrevious := Function.update
      (Linked.unlinkPrevious header.binNext header.binPrevious index) index none
    bins := Function.update header.bins pool (Function.update (header.bins pool) bin head)
    binBitmap := Function.update header.binBitmap pool
      (if head = none then header.binBitmap pool &&& ~~~HostMask.bit bin
      else header.binBitmap pool) }

/-- `ReserveExtentNodeLocked`: take and reset the first unused node. -/
def reserveExtentNode (header : ExtentHeader) : Except Status (Nat × ExtentHeader) :=
  match header.freeExtentNodeHead with
  | none => .error (.unavailable "shared extent metadata is exhausted")
  | some index =>
      .ok (index,
        { header with
          freeExtentNodeHead := header.next index
          offset := Function.update header.offset index 0
          bytes := Function.update header.bytes index 0
          next := Function.update header.next index none
          previous := Function.update header.previous index none
          binNext := Function.update header.binNext index none
          binPrevious := Function.update header.binPrevious index none
          bin := Function.update header.bin index 0
          state := Function.update header.state index .unused })

/-- Put a node that left its lists in front of the unused ones. -/
def retireNode (header : ExtentHeader) (index : Nat) : ExtentHeader :=
  { header with
    state := Function.update header.state index .unused
    next := Function.update header.next index header.freeExtentNodeHead
    freeExtentNodeHead := some index }

/-! ## Search -/

/-- The fit test of `AllocateExtentLocked`: the aligned start of a request inside a node. -/
def alignedStart (header : ExtentHeader) (index bytes alignment : Nat) : Option Nat :=
  let start := alignUp (header.offset index) alignment
  let stop := add64 (header.offset index) (header.bytes index)
  if start < header.offset index ∨ stop < start ∨ sub64 stop start < bytes then none
  else some start

/-- Walk one bin up to the first node that fits. -/
def walkBin (header : ExtentHeader) (bytes alignment : Nat) :
    Nat → Option Nat → Option (Nat × Nat)
  | 0, _ => none
  | _ + 1, none => none
  | fuel + 1, some index =>
      match header.alignedStart index bytes alignment with
      | some start => some (index, start)
      | none => walkBin header bytes alignment fuel (header.binNext index)

/-- Non-empty bins from the one of a size on, in ascending order. -/
def availableBins (header : ExtentHeader) (pool : ExtentPool) (bytes : Nat) : List Nat :=
  let available := header.binBitmap pool &&& ((~~~0#64) <<< binForBytes bytes)
  (List.range kTlsfBinCount).filter (HostMask.contains available)

/-- The node that serves a request and the aligned start inside it. -/
def findExtent (header : ExtentHeader) (pool : ExtentPool) (bytes alignment : Nat) :
    Option (Nat × Nat) :=
  (header.availableBins pool bytes).findSome? fun bin =>
    header.walkBin bytes alignment header.extentNodeCapacity (header.bins pool bin)

/-! ## Allocation -/

/-- Take `bytes` bytes from `start` on out of a node: what is left keeps the node, a second piece
gets a reserved one, and a node without a rest becomes unused. -/
def splitExtent (header : ExtentHeader) (pool : ExtentPool) (index start bytes : Nat) :
    Except Status Nat × ExtentHeader :=
  let prefixBytes := sub64 start (header.offset index)
  let suffixOffset := add64 start bytes
  let suffixBytes :=
    sub64 (add64 (header.offset index) (header.bytes index)) suffixOffset
  let oldNext := header.next index
  let removed := header.removeBin pool index
  if prefixBytes ≠ 0 ∧ suffixBytes ≠ 0 then
    match removed.reserveExtentNode with
    | .error status => (.error status, removed.insertBin pool index)
    | .ok (extra, reserved) =>
        let linked :=
          { reserved with
            offset := Function.update reserved.offset extra suffixOffset
            bytes := Function.update (Function.update reserved.bytes extra suffixBytes) index
              prefixBytes
            state := Function.update (Function.update reserved.state extra .free) index .free
            next := Linked.linkNext reserved.next (some index) oldNext extra
            previous := Linked.linkPrevious reserved.previous (some index) oldNext extra }
        (.ok start, (linked.insertBin pool index).insertBin pool extra)
  else if prefixBytes ≠ 0 then
    (.ok start,
      { removed with bytes := Function.update removed.bytes index prefixBytes }.insertBin pool
        index)
  else if suffixBytes ≠ 0 then
    (.ok start,
      { removed with
        offset := Function.update removed.offset index suffixOffset
        bytes := Function.update removed.bytes index suffixBytes }.insertBin pool index)
  else
    (.ok start,
      { removed with
        next := Linked.unlinkNext removed.next removed.previous index
        previous := Linked.unlinkPrevious removed.next removed.previous index
        freeHead := Function.update removed.freeHead pool
          (Linked.unlinkHead removed.next removed.previous (removed.freeHead pool)
            index) }.retireNode index)

/-- `AllocateExtentLocked`. -/
def allocateExtent (header : ExtentHeader) (pool : ExtentPool) (bytes alignment : Nat) :
    Except Status Nat × ExtentHeader :=
  match header.findExtent pool bytes alignment with
  | none => (.error (.unavailable "shared extent pool is exhausted"), header)
  | some (index, start) => header.splitExtent pool index start bytes

/-! ## Release -/

/-- Walk the address list up to the first extent at or behind a position. -/
def findPosition (header : ExtentHeader) (offset : Nat) :
    Nat → Option Nat → Option Nat → Option Nat × Option Nat
  | 0, previous, next => (previous, next)
  | _ + 1, previous, none => (previous, none)
  | fuel + 1, previous, some next =>
      if header.offset next < offset then findPosition header offset fuel (some next)
        (header.next next)
      else (previous, some next)

/-- Whether the extent of a node ends behind a position. -/
def endsBehind (header : ExtentHeader) (offset : Nat) (index : Nat) : Bool :=
  offset < add64 (header.offset index) (header.bytes index)

/-- Whether the extent of a node ends at a position. -/
def endsAt (header : ExtentHeader) (offset : Nat) (index : Nat) : Bool :=
  add64 (header.offset index) (header.bytes index) = offset

/-- Let a node swallow its successor, which becomes unused. -/
def mergeNext (header : ExtentHeader) (pool : ExtentPool) (index next : Nat) : ExtentHeader :=
  let removed := header.removeBin pool next
  let follower := removed.next next
  { removed with
    bytes := Function.update removed.bytes index
      (add64 (removed.bytes index) (removed.bytes next))
    next := Function.update removed.next index follower
    previous :=
      match follower with
      | some other => Function.update removed.previous other (some index)
      | none => removed.previous }.retireNode next

/-- `FreeExtentLocked`. -/
def freeExtent (header : ExtentHeader) (pool : ExtentPool) (offset bytes : Nat) :
    Status × ExtentHeader :=
  let position :=
    header.findPosition offset header.extentNodeCapacity none (header.freeHead pool)
  let stop := add64 offset bytes
  if bytes = 0 then
    (.invalidArgument "cannot free an empty extent", header)
  else if position.1.any (header.endsBehind offset) ∨
      position.2.any (fun next => header.offset next < stop) then
    (.failedPrecondition "freed extent overlaps the free pool", header)
  else
    match position.1.filter (header.endsAt offset),
      position.2.filter (fun next => stop = header.offset next) with
    | some previous, some next =>
        let removed := header.removeBin pool previous
        let grown :=
          { removed with
            bytes := Function.update removed.bytes previous
              (add64 (removed.bytes previous) bytes) }
        (.ok, (grown.mergeNext pool previous next).insertBin pool previous)
    | some previous, none =>
        let removed := header.removeBin pool previous
        (.ok,
          { removed with
            bytes := Function.update removed.bytes previous
              (add64 (removed.bytes previous) bytes) }.insertBin pool previous)
    | none, some next =>
        let removed := header.removeBin pool next
        (.ok,
          { removed with
            offset := Function.update removed.offset next offset
            bytes := Function.update removed.bytes next
              (add64 (removed.bytes next) bytes) }.insertBin pool next)
    | none, none =>
        match header.reserveExtentNode with
        | .error status => (status, header)
        | .ok (index, reserved) =>
            (.ok,
              { reserved with
                offset := Function.update reserved.offset index offset
                bytes := Function.update reserved.bytes index bytes
                state := Function.update reserved.state index .free
                next := Linked.linkNext reserved.next position.1 position.2 index
                previous := Linked.linkPrevious reserved.previous position.1 position.2 index
                freeHead := Function.update reserved.freeHead pool
                  (Linked.linkHead (reserved.freeHead pool) position.1 index) }.insertBin pool
                index)

end ExtentHeader
end Cxloom.LoomMem
