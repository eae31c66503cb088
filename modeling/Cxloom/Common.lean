import Mathlib.Algebra.Group.Nat.Defs
import Mathlib.Data.Fin.Basic

/-!
# Common vocabulary

Status codes, global pointers and the validated cluster configuration shared by LoomMem and
LoomPar.  A `Cluster` carries the bounds that `ConfigValidator` enforces, so a host identifier is
an element of `Fin hostCount` and an out-of-range host is not a value.
-/

namespace Cxloom

/-- Capacity of every host-indexed shared table. -/
def kMaxHosts : Nat := 64

theorem kMaxHosts_pos : 0 < kMaxHosts := by decide

theorem two_le_kMaxHosts : 2 ≤ kMaxHosts := by decide

/-- Outcome classes of a runtime call. -/
inductive StatusCode
  | ok
  | invalidArgument
  | notFound
  | alreadyExists
  | unavailable
  | failedPrecondition
  | unimplemented
  | internal
deriving DecidableEq, Repr

/-- A status code together with its diagnostic text. -/
structure Status where
  /-- Outcome class. -/
  code : StatusCode
  /-- Diagnostic text, empty on success. -/
  message : String
deriving DecidableEq, Repr

namespace Status

/-- The successful status. -/
def ok : Status := ⟨.ok, ""⟩

/-- Rejected argument. -/
def invalidArgument (message : String) : Status := ⟨.invalidArgument, message⟩

/-- Missing entity. -/
def notFound (message : String) : Status := ⟨.notFound, message⟩

/-- Conflicting entity. -/
def alreadyExists (message : String) : Status := ⟨.alreadyExists, message⟩

/-- Transient refusal. -/
def unavailable (message : String) : Status := ⟨.unavailable, message⟩

/-- Call in the wrong state. -/
def failedPrecondition (message : String) : Status := ⟨.failedPrecondition, message⟩

/-- Broken internal invariant. -/
def internal (message : String) : Status := ⟨.internal, message⟩

/-- Whether a status reports success. -/
def isOk (status : Status) : Bool := status.code = .ok

@[simp] theorem isOk_ok : ok.isOk = true := rfl

@[simp] theorem isOk_invalidArgument (message : String) :
    (invalidArgument message).isOk = false := rfl

@[simp] theorem isOk_notFound (message : String) : (notFound message).isOk = false := rfl

@[simp] theorem isOk_alreadyExists (message : String) :
    (alreadyExists message).isOk = false := rfl

@[simp] theorem isOk_unavailable (message : String) : (unavailable message).isOk = false := rfl

@[simp] theorem isOk_failedPrecondition (message : String) :
    (failedPrecondition message).isOk = false := rfl

@[simp] theorem isOk_internal (message : String) : (internal message).isOk = false := rfl

end Status

/-- A location in the shared region. -/
structure GlobalPointer where
  /-- Region selector; only region zero is mapped. -/
  regionId : Nat
  /-- Byte offset inside the region. -/
  offset : Nat
deriving DecidableEq, Repr

/-- A configuration accepted by `ConfigValidator`. -/
structure Cluster where
  /-- Number of configured hosts. -/
  hostCount : Nat
  /-- Entries of every directed host-pair queue. -/
  queueCapacity : Nat
  /-- At least one host is configured. -/
  hostCount_pos : 0 < hostCount
  /-- The host table has room for every host. -/
  hostCount_le : hostCount ≤ kMaxHosts

/-- Hosts of a cluster. -/
abbrev Cluster.Host (cluster : Cluster) : Type := Fin cluster.hostCount

theorem Cluster.host_lt_max {cluster : Cluster} (host : cluster.Host) : host.val < kMaxHosts :=
  host.isLt.trans_le cluster.hostCount_le

end Cxloom
