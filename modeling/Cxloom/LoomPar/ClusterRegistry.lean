import Cxloom.Common
import Cxloom.Run
import Mathlib.Data.List.FinRange
import Mathlib.Data.List.Sort
import Mathlib.Logic.Function.Basic

/-!
# The cluster function registry

`ClusterFunctionRegistry` on every host.  `Install` fixes the local manifest, sorted by name, and
advertises it to every other host, one fragment for each function; `Handle` collects the fragments
of each peer, possibly before the local `Install`; `CheckLocked` compares the complete ones with the
local manifest.  A disagreement is remembered for ever.
-/

namespace Cxloom.LoomPar

/-- Largest number of functions in a manifest. -/
def kMaxClusterFunctions : Nat := 256

/-- Longest function name in bytes. -/
def kMaxClusterFunctionName : Nat := 63

/-- Largest argument record in bytes. -/
def kMaxClusterArgumentBytes : Nat := 80

/-- Bytes of a name field on the wire. -/
def kManifestNameBytes : Nat := 64

/-- `"CLFN"`. -/
def kManifestMagic : Nat := 0x434c464e

/-- Version of the fragments. -/
def kManifestVersion : Nat := 1

/-- Bytes of a fragment. -/
def kManifestWireBytes : Nat := 96

/-- A registered function with its local binding. -/
structure ClusterFunction (Callable : Type) where
  name : List UInt8
  /-- Version of the argument layout. -/
  abiVersion : UInt32
  argumentBytes : UInt32
  /-- Identifier of the argument schema. -/
  schemaId : UInt64
  /-- Identity of the callback in this process, zero if absent. -/
  localIdentity : Nat
  /-- The callback, if any. -/
  function : Option Callable

/-- What a manifest says about a function. -/
structure FunctionDescriptor where
  name : List UInt8
  /-- Version of the argument layout. -/
  abiVersion : UInt32
  argumentBytes : UInt32
  /-- Identifier of the argument schema. -/
  schemaId : UInt64
deriving DecidableEq

/-- One fragment of a manifest. -/
structure ManifestWire where
  /-- Format mark. -/
  magic : Nat
  version : Nat
  /-- Number of functions in the manifest. -/
  count : Nat
  /-- Position of this function. -/
  index : Nat
  /-- Version of the argument layout. -/
  abiVersion : UInt32
  /-- Identifier of the argument schema. -/
  schemaId : UInt64
  argumentBytes : UInt32
  /-- Byte order and word sizes of the sender. -/
  platformAbi : Nat
  /-- Name, padded with zero bytes. -/
  name : List UInt8
deriving DecidableEq

/-- A fragment with its header. -/
structure ManifestMessage (hosts : Nat) where
  source : Fin hosts
  target : Fin hosts
  /-- Payload size announced by the header. -/
  payloadBytes : Nat
  /-- The payload. -/
  wire : ManifestWire
deriving DecidableEq

/-- What has arrived from one host. -/
structure ManifestPeer where
  /-- Whether any fragment has arrived. -/
  seen : Bool
  /-- The descriptors that have arrived, by position. -/
  entries : List (Option FunctionDescriptor)
deriving DecidableEq

/-- The registry of one host. -/
structure ClusterRegistry (hosts : Nat) (Callable : Type) where
  /-- Whether the local manifest is fixed. -/
  installed : Bool
  /-- Whether every host has advertised the local manifest. -/
  ready : Bool
  /-- The first disagreement, if any. -/
  failure : Status
  /-- Local functions, sorted by name. -/
  functions : List (ClusterFunction Callable)
  descriptors : List FunctionDescriptor
  /-- Positions by identifier. -/
  byId : List (UInt64 × Nat)
  peers : Fin hosts → ManifestPeer

/-- The identifier of a name, by the FNV-1a hash. -/
def functionId (name : List UInt8) : UInt64 :=
  name.foldl (fun id byte => (id ^^^ byte.toUInt64) * 1099511628211) 14695981039346656037

namespace ClusterFunction

variable {Callable : Type}

/-- What the manifest says about a function. -/
def describe (function : ClusterFunction Callable) : FunctionDescriptor :=
  ⟨function.name, function.abiVersion, function.argumentBytes, function.schemaId⟩

/-- A function that `Install` refuses. -/
def invalid (function : ClusterFunction Callable) : Bool :=
  function.name = [] ∨ kMaxClusterFunctionName < function.name.length ∨ 0 ∈ function.name ∨
    function.function.isNone ∨ function.localIdentity = 0 ∨ function.abiVersion = 0 ∨
    function.schemaId = 0 ∨ kMaxClusterArgumentBytes < function.argumentBytes.toNat

/-- The order of a manifest. -/
def NameLe (first second : ClusterFunction Callable) : Prop := ¬second.name < first.name

instance decidableNameLe (first second : ClusterFunction Callable) :
    Decidable (first.NameLe second) :=
  inferInstanceAs (Decidable (¬_))

end ClusterFunction

/-- What `Install` has gathered from the functions before. -/
structure ManifestDraft where
  descriptors : List FunctionDescriptor
  /-- Positions by identifier. -/
  ids : List (UInt64 × Nat)
  identities : List Nat

namespace ClusterRegistry

variable {hosts : Nat} {Callable : Type}

/-- A registry before `Install`. -/
def initial (hosts : Nat) (Callable : Type) : ClusterRegistry hosts Callable :=
  ⟨false, false, .ok, [], [], [], fun _ => ⟨false, []⟩⟩

/-- Check the functions one by one. -/
def gather : List (ClusterFunction Callable) → ManifestDraft → Except Status ManifestDraft
  | [], draft => .ok draft
  | function :: rest, draft =>
      if function.invalid then
        .error (.invalidArgument
          "invalid cluster function name, binding, ABI, schema or argument size")
      else if (draft.ids.lookup (functionId function.name)).isSome ∨
          function.localIdentity ∈ draft.identities then
        .error (.alreadyExists "duplicate cluster function name/ID or callback identity")
      else
        gather rest
          { descriptors := draft.descriptors ++ [function.describe]
            ids := draft.ids ++ [(functionId function.name, draft.descriptors.length)]
            identities := draft.identities ++ [function.localIdentity] }

/-- Compare the arrived descriptors of one peer: whether all have arrived and whether one differs.
The comparison stops at the first difference. -/
def checkEntries : List (Option FunctionDescriptor) → List FunctionDescriptor → Bool → Bool × Bool
  | none :: entries, _ :: descriptors, _ => checkEntries entries descriptors false
  | some entry :: entries, descriptor :: descriptors, complete =>
      if entry = descriptor then checkEntries entries descriptors complete else (complete, true)
  | _, _, complete => (complete, false)

/-- Compare every peer, up to the first with another number of functions. -/
def checkPeers (registry : ClusterRegistry hosts Callable) (localHost : Fin hosts) :
    List (Fin hosts) → Bool → Status → Bool × Status
  | [], complete, failure => (complete, failure)
  | host :: rest, complete, failure =>
      let peer := registry.peers host
      if host = localHost then registry.checkPeers localHost rest complete failure
      else if peer.seen = false then registry.checkPeers localHost rest false failure
      else if peer.entries.length ≠ registry.descriptors.length then
        (complete, .failedPrecondition
          ("cluster function count mismatch on host " ++ toString host.val))
      else
        let compared := checkEntries peer.entries registry.descriptors complete
        registry.checkPeers localHost rest compared.1
          (if compared.2 then
            .failedPrecondition
              ("cluster function ABI/schema/name mismatch on host " ++ toString host.val)
          else failure)

/-- Decide whether every host agrees. -/
def checkLocked (registry : ClusterRegistry hosts Callable) (localHost : Fin hosts) :
    ClusterRegistry hosts Callable :=
  if registry.installed = false ∨ registry.failure.isOk = false then registry
  else
    let checked := registry.checkPeers localHost (List.finRange hosts) true registry.failure
    { registry with failure := checked.2, ready := checked.2.isOk && checked.1 }

/-- The fragment at a position of the local manifest. -/
def fragment (platformAbi : Nat) (descriptors : List FunctionDescriptor) (index : Nat) :
    ManifestWire :=
  match descriptors[index]? with
  | some descriptor =>
      { magic := kManifestMagic
        version := kManifestVersion
        count := descriptors.length % 2 ^ 16
        index := index % 2 ^ 32
        abiVersion := descriptor.abiVersion
        schemaId := descriptor.schemaId
        argumentBytes := descriptor.argumentBytes
        platformAbi := platformAbi
        name := descriptor.name ++
          List.replicate (kManifestNameBytes - descriptor.name.length) 0 }
  | none =>
      { magic := kManifestMagic
        version := kManifestVersion
        count := descriptors.length % 2 ^ 16
        index := index % 2 ^ 32
        abiVersion := 0
        schemaId := 0
        argumentBytes := 0
        platformAbi := platformAbi
        name := List.replicate kManifestNameBytes 0 }

/-- The fragments for every other host.  An empty manifest still advertises its presence. -/
def advertisements (platformAbi : Nat) (localHost : Fin hosts)
    (descriptors : List FunctionDescriptor) : List (ManifestMessage hosts) :=
  ((List.finRange hosts).filter fun host => host ≠ localHost).flatMap fun host =>
    (List.range (max 1 descriptors.length)).map fun index =>
      ⟨localHost, host, kManifestWireBytes, fragment platformAbi descriptors index⟩

/-- Fix the local manifest and advertise it.  A repeated call must bring the same functions and
sends nothing. -/
def install (registry : ClusterRegistry hosts Callable) (platformAbi : Nat) (localHost : Fin hosts)
    (functions : List (ClusterFunction Callable)) :
    Except Status (List (ManifestMessage hosts)) × ClusterRegistry hosts Callable :=
  if kMaxClusterFunctions < functions.length then
    (.error (.invalidArgument "invalid cluster manifest size or host configuration"), registry)
  else
    let sorted := functions.insertionSort ClusterFunction.NameLe
    match gather sorted ⟨[], [], []⟩ with
    | .error status => (.error status, registry)
    | .ok draft =>
        if registry.installed then
          if draft.descriptors ≠ registry.descriptors then
            (.error (.failedPrecondition "cluster manifest is immutable for this runtime"),
              registry)
          else if sorted.map ClusterFunction.localIdentity ≠
              registry.functions.map ClusterFunction.localIdentity then
            (.error (.alreadyExists "cluster callback binding cannot change"), registry)
          else (.ok [], registry)
        else
          (.ok (advertisements platformAbi localHost draft.descriptors),
            ({ registry with
              functions := sorted
              descriptors := draft.descriptors
              byId := draft.ids
              installed := true } : ClusterRegistry hosts Callable).checkLocked localHost)

/-- Remember a conflicting fragment. -/
def reject (registry : ClusterRegistry hosts Callable) :
    Status × ClusterRegistry hosts Callable :=
  (.invalidArgument "invalid or conflicting peer function manifest",
    { registry with
      ready := false
      failure := .failedPrecondition "invalid or conflicting peer function manifest" })

/-- The name in a name field. -/
def wireName (name : List UInt8) : List UInt8 := name.takeWhile fun byte => byte ≠ 0

/-- The descriptor in a fragment. -/
def wireDescriptor (wire : ManifestWire) : FunctionDescriptor :=
  ⟨wireName wire.name, wire.abiVersion, wire.argumentBytes, wire.schemaId⟩

/-- A fragment that no `Install` on this platform produces. -/
def malformed (platformAbi : Nat) (wire : ManifestWire) : Bool :=
  wire.magic ≠ kManifestMagic ∨ wire.version ≠ kManifestVersion ∨
    wire.platformAbi ≠ platformAbi ∨ kMaxClusterFunctions < wire.count ∨
    max 1 wire.count ≤ wire.index ∨ 0 ∉ wire.name ∨
    (wire.count ≠ 0 ∧ (wire.name.head? = some 0 ∨ wire.abiVersion = 0 ∨ wire.schemaId = 0 ∨
      kMaxClusterArgumentBytes < wire.argumentBytes.toNat))

/-- Process one fragment. -/
def handle (registry : ClusterRegistry hosts Callable) (platformAbi : Nat) (localHost : Fin hosts)
    (message : ManifestMessage hosts) : Status × ClusterRegistry hosts Callable :=
  if message.target ≠ localHost ∨ message.source = localHost then
    (.invalidArgument "invalid manifest endpoint", registry)
  else if message.payloadBytes ≠ kManifestWireBytes then registry.reject
  else
    let wire := message.wire
    if malformed platformAbi wire then registry.reject
    else
      let peer := registry.peers message.source
      if peer.seen ∧ peer.entries.length ≠ wire.count then registry.reject
      else
        let peer : ManifestPeer :=
          if peer.seen then peer else ⟨true, List.replicate wire.count none⟩
        if wire.count = 0 then
          (.ok, ({ registry with peers := Function.update registry.peers message.source peer } :
            ClusterRegistry hosts Callable).checkLocked localHost)
        else
          match peer.entries[wire.index]? with
          | some (some entry) =>
              if entry = wireDescriptor wire then
                (.ok, ({ registry with
                    peers := Function.update registry.peers message.source peer } :
                      ClusterRegistry hosts Callable).checkLocked localHost)
              else
                ({ registry with peers := Function.update registry.peers message.source peer } :
                  ClusterRegistry hosts Callable).reject
          | _ =>
              (.ok, ({ registry with
                  peers := Function.update registry.peers message.source
                    { peer with
                      entries := peer.entries.set wire.index (some (wireDescriptor wire)) } } :
                        ClusterRegistry hosts Callable).checkLocked localHost)

/-- The status `Wait` returns, unless it still has to wait. -/
def wait (registry : ClusterRegistry hosts Callable) (timeoutMs : Nat) (expired : Bool) :
    Option Status :=
  if timeoutMs = 0 ∨ 2 ^ 32 - 1 < timeoutMs then
    some (.invalidArgument "invalid manifest timeout")
  else if registry.installed = false then
    some (.failedPrecondition "register the cluster function manifest before create")
  else if registry.ready ∨ registry.failure.isOk = false then some registry.failure
  else if expired then
    some (.unavailable
      "timed out waiting for all host function manifests; retry the same manifest")
  else none

/-- The callback for an identifier and an argument size. -/
def resolve (registry : ClusterRegistry hosts Callable) (id : UInt64) (argumentBytes : Nat)
    (requireReady : Bool) : Except Status (Option Callable) :=
  if registry.failure.isOk = false then .error registry.failure
  else if registry.installed = false ∨ (requireReady ∧ registry.ready = false) then
    .error (.failedPrecondition "cluster function manifest is not ready")
  else
    match (registry.byId.lookup id).bind fun index => registry.functions[index]? with
    | none => .error (.notFound "unknown cluster function ID")
    | some function =>
        if argumentBytes ≠ function.argumentBytes.toNat then
          .error (.invalidArgument "argument size differs from cluster function schema")
        else .ok function.function

end ClusterRegistry

/-- The registries of all hosts and every fragment that was sent. -/
structure ManifestWorld (hosts : Nat) (Callable : Type) where
  registries : Fin hosts → ClusterRegistry hosts Callable
  /-- Every fragment sent so far; each may be delivered any number of times. -/
  sent : List (ManifestMessage hosts)

/-- One atomic action. -/
inductive ManifestOp (hosts : Nat) (Callable : Type)
  | install (host : Fin hosts) (functions : List (ClusterFunction Callable))
  | deliver (position : Nat)

namespace ManifestWorld

variable {hosts : Nat} {Callable : Type}

/-- Nothing is installed. -/
def initial (hosts : Nat) (Callable : Type) : ManifestWorld hosts Callable :=
  ⟨fun _ => .initial hosts Callable, []⟩

/-- Perform one action.  Each host has its own platform. -/
def next (platformAbi : Fin hosts → Nat) (world : ManifestWorld hosts Callable) :
    ManifestOp hosts Callable → Option (ManifestWorld hosts Callable)
  | .install host functions =>
      let result := (world.registries host).install (platformAbi host) host functions
      match result.1 with
      | .error _ => some { world with registries := Function.update world.registries host result.2 }
      | .ok messages =>
          some ⟨Function.update world.registries host result.2, world.sent ++ messages⟩
  | .deliver position =>
      (world.sent[position]?).map fun message =>
        { world with
          registries := Function.update world.registries message.target
            ((world.registries message.target).handle (platformAbi message.target) message.target
              message).2 }

end ManifestWorld
end Cxloom.LoomPar
