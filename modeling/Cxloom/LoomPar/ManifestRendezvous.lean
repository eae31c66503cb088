import Cxloom.Bytes
import Cxloom.LoomPar.ManifestAgreement

/-!
# The manifest rendezvous

The fragments of a manifest as the bytes of their messages, and the registry of one host that
receives the fragments of all others in any order, with repetitions, before and after its own
`Install`.
-/

namespace Cxloom.LoomPar

/-- Byte order of a platform, the low byte of `PlatformAbi`. -/
def platformOrder (platformAbi : Nat) : ByteOrder :=
  if platformAbi % 256 = 1 then .little else .big

namespace ManifestWire

/-- The bytes of a fragment. -/
def encode (order : ByteOrder) (wire : ManifestWire) : List UInt8 :=
  order.encode 4 wire.magic ++ (order.encode 2 wire.version ++ (order.encode 2 wire.count ++
    (order.encode 4 wire.index ++ (order.encode 4 wire.abiVersion.toNat ++
      (order.encode 8 wire.schemaId.toNat ++ (order.encode 4 wire.argumentBytes.toNat ++
        (order.encode 4 wire.platformAbi ++ wire.name)))))))

/-- The fragment in some bytes. -/
def decode (order : ByteOrder) (bytes : List UInt8) : ManifestWire where
  magic := order.decode (slice 0 4 bytes)
  version := order.decode (slice 4 2 bytes)
  count := order.decode (slice 6 2 bytes)
  index := order.decode (slice 8 4 bytes)
  abiVersion := UInt32.ofNat (order.decode (slice 12 4 bytes))
  schemaId := UInt64.ofNat (order.decode (slice 16 8 bytes))
  argumentBytes := UInt32.ofNat (order.decode (slice 24 4 bytes))
  platformAbi := order.decode (slice 28 4 bytes)
  name := slice 32 kManifestNameBytes bytes

/-- The fields of a fragment fit their places. -/
structure Bounded (wire : ManifestWire) : Prop where
  magic : wire.magic < 256 ^ 4
  version : wire.version < 256 ^ 2
  count : wire.count < 256 ^ 2
  index : wire.index < 256 ^ 4
  platformAbi : wire.platformAbi < 256 ^ 4
  name : wire.name.length = kManifestNameBytes

theorem length_encode (order : ByteOrder) {wire : ManifestWire} (bounded : wire.Bounded) :
    (wire.encode order).length = kManifestWireBytes := by
  simp [encode, bounded.name, kManifestNameBytes, kManifestWireBytes]

/-- A fragment is read back from its bytes. -/
theorem decode_encode (order : ByteOrder) {wire : ManifestWire} (bounded : wire.Bounded) :
    decode order (wire.encode order) = wire := by
  have name_eq : slice 0 kManifestNameBytes wire.name = wire.name := by
    rw [slice, List.drop_zero, ← bounded.name, List.take_length]
  cases wire with
  | mk magic version count index abiVersion schemaId argumentBytes platformAbi name =>
      have abiVersion_lt : abiVersion.toNat < 256 ^ 4 := abiVersion.toNat_lt
      have schemaId_lt : schemaId.toNat < 256 ^ 8 := schemaId.toNat_lt
      have argumentBytes_lt : argumentBytes.toNat < 256 ^ 4 := argumentBytes.toNat_lt
      simp only [decode, encode, slice_append_first, ByteOrder.length_encode, slice_append_behind,
        Nat.le_refl, Nat.reduceLeDiff, Nat.reduceSub, Nat.sub_self,
        ByteOrder.decode_encode order bounded.magic,
        ByteOrder.decode_encode order bounded.version, ByteOrder.decode_encode order bounded.count,
        ByteOrder.decode_encode order bounded.index, ByteOrder.decode_encode order abiVersion_lt,
        ByteOrder.decode_encode order schemaId_lt, ByteOrder.decode_encode order argumentBytes_lt,
        ByteOrder.decode_encode order bounded.platformAbi, name_eq, UInt32.ofNat_toNat,
        UInt64.ofNat_toNat]

end ManifestWire
/-- A message of `Install` as it travels. -/
structure ManifestEnvelope (hosts : Nat) where
  source : Fin hosts
  target : Fin hosts
  /-- Payload size announced by the header. -/
  payloadBytes : Nat
  payload : List UInt8
deriving DecidableEq

def ManifestMessage.envelope {hosts : Nat} (platformAbi : Nat) (message : ManifestMessage hosts) :
    ManifestEnvelope hosts :=
  ⟨message.source, message.target, message.payloadBytes,
    message.wire.encode (platformOrder platformAbi)⟩

/-- What `Install` sorts and advertises. -/
def sortedManifest {Callable : Type} (functions : List (ClusterFunction Callable)) :
    List FunctionDescriptor :=
  (functions.insertionSort ClusterFunction.NameLe).map ClusterFunction.describe

namespace ClusterRegistry

variable {hosts : Nat} {Callable : Type}

/-- Process one message. -/
def receive (registry : ClusterRegistry hosts Callable) (platformAbi : Nat) (localHost : Fin hosts)
    (envelope : ManifestEnvelope hosts) : Status × ClusterRegistry hosts Callable :=
  if envelope.target ≠ localHost ∨ envelope.source = localHost then
    (.invalidArgument "invalid manifest endpoint", registry)
  else if envelope.payload.length ≠ kManifestWireBytes ∨
      envelope.payloadBytes ≠ kManifestWireBytes then
    registry.reject
  else
    registry.handle platformAbi localHost
      ⟨envelope.source, envelope.target, envelope.payloadBytes,
        ManifestWire.decode (platformOrder platformAbi) envelope.payload⟩

/-- A message is processed by the fragment in it. -/
theorem receive_envelope (registry : ClusterRegistry hosts Callable) (platformAbi : Nat)
    (localHost : Fin hosts) {message : ManifestMessage hosts} (bounded : message.wire.Bounded)
    (sized : message.payloadBytes = kManifestWireBytes) :
    registry.receive platformAbi localHost (message.envelope platformAbi) =
      registry.handle platformAbi localHost message := by
  have length_eq : (message.envelope platformAbi).payload.length = kManifestWireBytes :=
    ManifestWire.length_encode _ bounded
  have decoded : ManifestWire.decode (platformOrder platformAbi)
      (message.envelope platformAbi).payload = message.wire :=
    ManifestWire.decode_encode _ bounded
  have sized' : (message.envelope platformAbi).payloadBytes = kManifestWireBytes := sized
  have target_eq : (message.envelope platformAbi).target = message.target := rfl
  have source_eq : (message.envelope platformAbi).source = message.source := rfl
  rw [receive, length_eq, sized', decoded, target_eq, source_eq, ← sized]
  by_cases misdirected : message.target ≠ localHost ∨ message.source = localHost
  · rw [if_pos misdirected, handle, if_pos misdirected]
  · rw [if_neg misdirected, if_neg (by simp)]

/-- The fields of an advertised fragment fit their places. -/
theorem bounded_fragment (platformAbi : UInt32) {descriptors : List FunctionDescriptor}
    (manifest : ValidManifest descriptors) (index : Nat) :
    (fragment platformAbi.toNat descriptors index).Bounded := by
  have abi_lt : platformAbi.toNat < 256 ^ 4 := platformAbi.toNat_lt
  have magic_lt : kManifestMagic < 256 ^ 4 := by decide
  have version_lt : kManifestVersion < 256 ^ 2 := by decide
  have count_lt : descriptors.length % 2 ^ 16 < 256 ^ 2 := Nat.mod_lt _ (by decide)
  have index_lt : index % 2 ^ 32 < 256 ^ 4 := Nat.mod_lt _ (by decide)
  unfold fragment
  split
  next descriptor here =>
    have valid := manifest.valid descriptor (List.mem_of_getElem? here)
    have short := valid.name_le
    refine ⟨magic_lt, version_lt, count_lt, index_lt, abi_lt, ?_⟩
    simp only [List.length_append, List.length_replicate, kManifestNameBytes,
      kMaxClusterFunctionName] at short ⊢
    omega
  next => exact ⟨magic_lt, version_lt, count_lt, index_lt, abi_lt, by simp⟩

/-- The messages of the first `Install` on a host. -/
def published (platformAbi : Nat) (source : Fin hosts)
    (functions : List (ClusterFunction Callable)) : List (ManifestEnvelope hosts) :=
  match ((initial hosts Callable).install platformAbi source functions).1 with
  | .ok messages => messages.map (ManifestMessage.envelope platformAbi)
  | .error _ => []

/-- `Install` accepts a manifest. -/
def Accepts (platformAbi : Nat) (host : Fin hosts)
    (functions : List (ClusterFunction Callable)) : Prop :=
  ∃ messages, ((initial hosts Callable).install platformAbi host functions).1 = .ok messages

/-- What `Install` finds in a manifest that it accepts. -/
theorem Accepts.gathers {platformAbi : Nat} {host : Fin hosts}
    {functions : List (ClusterFunction Callable)} (accepted : Accepts platformAbi host functions) :
    functions.length ≤ kMaxClusterFunctions ∧
      ∃ draft, gather (functions.insertionSort ClusterFunction.NameLe) ⟨[], [], []⟩ = .ok draft ∧
        draft.descriptors = sortedManifest functions := by
  obtain ⟨messages, success⟩ := accepted
  by_cases large : kMaxClusterFunctions < functions.length
  · simp [install, large] at success
  · refine ⟨Nat.le_of_not_lt large, ?_⟩
    cases gathered : gather (functions.insertionSort ClusterFunction.NameLe) ⟨[], [], []⟩ with
    | error status => simp [install, large, gathered] at success
    | ok draft =>
        refine ⟨draft, rfl, ?_⟩
        rw [(gather_ok gathered).2.1]
        rfl

theorem Accepts.valid {platformAbi : Nat} {host : Fin hosts}
    {functions : List (ClusterFunction Callable)} (accepted : Accepts platformAbi host functions) :
    ValidManifest (sortedManifest functions) := by
  obtain ⟨small, draft, gathered, _⟩ := accepted.gathers
  have valid := (gather_ok gathered).1
  refine ⟨by simpa [sortedManifest] using small, ?_⟩
  intro descriptor member
  obtain ⟨function, listed, rfl⟩ := List.mem_map.1 member
  exact (ClusterFunction.valid_describe (valid function listed)).1

/-- The messages of a host for another one are the fragments of its manifest. -/
theorem mem_published {platformAbi : Nat} {source localHost : Fin hosts}
    {functions : List (ClusterFunction Callable)} (accepted : Accepts platformAbi source functions)
    (foreign : source ≠ localHost) (envelope : ManifestEnvelope hosts) :
    (envelope ∈ published platformAbi source functions ∧ envelope.target = localHost) ↔
      ∃ index, index < max 1 (sortedManifest functions).length ∧
        envelope = (⟨source, localHost, kManifestWireBytes,
          fragment platformAbi (sortedManifest functions) index⟩ :
            ManifestMessage hosts).envelope platformAbi := by
  obtain ⟨small, draft, gathered, descriptors_eq⟩ := accepted.gathers
  have published_eq : published platformAbi source functions =
      (advertisements platformAbi source (sortedManifest functions)).map
        (ManifestMessage.envelope platformAbi) := by
    simp [published, install, Nat.not_lt.2 small, gathered, initial, descriptors_eq]
  rw [published_eq]
  simp only [advertisements, List.mem_map, List.mem_flatMap, List.mem_filter, List.mem_finRange,
    List.mem_range, true_and, decide_eq_true_eq]
  constructor
  · rintro ⟨⟨_, ⟨host, _, index, inside, rfl⟩, rfl⟩, rfl⟩
    exact ⟨index, inside, rfl⟩
  · rintro ⟨index, inside, rfl⟩
    exact ⟨⟨_, ⟨localHost, foreign.symm, index, inside, rfl⟩, rfl⟩, rfl⟩

/-- A comparison that finds no difference leaves none. -/
theorem checkEntries_reports {entries : List (Option FunctionDescriptor)}
    {descriptors : List FunctionDescriptor} {complete : Bool}
    (length_eq : entries.length = descriptors.length)
    (checked : (checkEntries entries descriptors complete).2 = false) {index : Nat}
    {descriptor : FunctionDescriptor} (here : entries[index]? = some (some descriptor)) :
    descriptors[index]? = some descriptor := by
  induction entries generalizing descriptors complete index with
  | nil => simp at here
  | cons entry entries induction =>
      obtain _ | ⟨head, descriptors⟩ := descriptors
      · simp at length_eq
      have rest : entries.length = descriptors.length := by simpa using length_eq
      cases entry with
      | none =>
          cases index with
          | zero => simp at here
          | succ index => exact induction rest checked (by simpa using here)
      | some entry =>
          rw [checkEntries] at checked
          split_ifs at checked with same
          cases index with
          | zero =>
              obtain rfl : entry = descriptor := by simpa using here
              simp [same]
          | succ index => exact induction rest checked (by simpa using here)

/-- The whole local manifest passes the comparison. -/
theorem checkEntries_self (descriptors : List FunctionDescriptor) (complete : Bool) :
    checkEntries (descriptors.map some) descriptors complete = (complete, false) := by
  induction descriptors with
  | nil => rfl
  | cons descriptor descriptors induction => simpa [checkEntries] using induction

/-- A comparison of all peers that finds no failure leaves none. -/
theorem checkPeers_reports (registry : ClusterRegistry hosts Callable) (localHost : Fin hosts)
    {rest : List (Fin hosts)} {complete : Bool} {failure : Status}
    (success : (registry.checkPeers localHost rest complete failure).2.isOk = true) :
    failure.isOk = true ∧ ∀ host ∈ rest, host ≠ localHost →
      (registry.peers host).Reports registry.descriptors := by
  induction rest generalizing complete failure with
  | nil => exact ⟨success, by simp⟩
  | cons host rest induction =>
      rw [checkPeers] at success
      simp only [List.forall_mem_cons]
      split_ifs at success with same unseen length_ne
      case pos =>
        obtain ⟨before, others⟩ := induction success
        exact ⟨before, fun foreign => absurd same foreign, others⟩
      case pos =>
        obtain ⟨before, others⟩ := induction success
        refine ⟨before, fun _ seen => ?_, others⟩
        simp [unseen] at seen
      case pos => simp at success
      case neg =>
        have length_eq : (registry.peers host).entries.length = registry.descriptors.length :=
          not_not.1 length_ne
        obtain ⟨ok_before, others⟩ := induction success
        obtain ⟨same_entries, ok_before⟩ :
            (checkEntries (registry.peers host).entries registry.descriptors complete).2 = false ∧
              failure.isOk = true := by
          split at ok_before
          case isTrue => simp at ok_before
          case isFalse differs => exact ⟨by simpa using differs, ok_before⟩
        refine ⟨ok_before, fun _ _ => ⟨length_eq, fun index descriptor here => ?_⟩, others⟩
        exact checkEntries_reports length_eq same_entries here

/-- When every peer has advertised the local manifest, the comparison says so. -/
theorem checkPeers_agreed (registry : ClusterRegistry hosts Callable) (localHost : Fin hosts)
    (agreed : registry.Agreed localHost) (rest : List (Fin hosts)) (complete : Bool)
    (failure : Status) :
    registry.checkPeers localHost rest complete failure = (complete, failure) := by
  induction rest with
  | nil => rfl
  | cons host rest induction =>
      rw [checkPeers]
      by_cases own : host = localHost
      · rw [if_pos own, induction]
      · obtain ⟨seen, entries_eq⟩ := agreed host own
        rw [if_neg own, if_neg (by simp [seen]), if_neg (by simp [entries_eq]), entries_eq,
          checkEntries_self]
        exact induction

/-- What a registry has found out about its peers. -/
structure Verdict (registry : ClusterRegistry hosts Callable) (localHost : Fin hosts) : Prop where
  /-- It has failed exactly if a peer contradicts it. -/
  failed : registry.failure.isOk = true ↔
    ∀ host, host ≠ localHost → (registry.peers host).Reports registry.descriptors
  ready : registry.ready = true ↔ registry.Agreed localHost

/-- A whole manifest is a part of itself. -/
theorem Agreed.reports {registry : ClusterRegistry hosts Callable} {localHost : Fin hosts}
    (agreed : registry.Agreed localHost) (host : Fin hosts) (foreign : host ≠ localHost) :
    (registry.peers host).Reports registry.descriptors := by
  intro _
  rw [(agreed host foreign).2]
  refine ⟨List.length_map _, fun index descriptor here => ?_⟩
  simpa using here

/-- `CheckLocked` finds out everything, given that an earlier failure had a reason. -/
theorem verdict_checkLocked {registry : ClusterRegistry hosts Callable} {localHost : Fin hosts}
    (installed : registry.installed = true) (silent : (registry.peers localHost).seen = false)
    (sticky : registry.failure.isOk = false → registry.ready = false ∧
      ∃ host, host ≠ localHost ∧ ¬(registry.peers host).Reports registry.descriptors) :
    (registry.checkLocked localHost).Verdict localHost := by
  cases before : registry.failure.isOk with
  | false =>
      obtain ⟨unready, host, foreign, contradicts⟩ := sticky before
      have same : registry.checkLocked localHost = registry := by simp [checkLocked, before]
      rw [same]
      refine ⟨?_, ?_⟩
      · simp only [before, Bool.false_eq_true, false_iff]
        intro reports
        exact contradicts (reports host foreign)
      · simp only [unready, Bool.false_eq_true, false_iff]
        intro agreed
        exact contradicts (agreed.reports host foreign)
  | true =>
      have after : registry.checkLocked localHost =
          { registry with
            failure := (registry.checkPeers localHost (List.finRange hosts) true
              registry.failure).2
            ready := (registry.checkPeers localHost (List.finRange hosts) true
              registry.failure).2.isOk &&
              (registry.checkPeers localHost (List.finRange hosts) true registry.failure).1 } := by
        simp [checkLocked, before, installed]
      rw [after]
      refine ⟨⟨?_, ?_⟩, ?_, ?_⟩
      · intro success host foreign
        exact (checkPeers_reports registry localHost success).2 host (List.mem_finRange host)
          foreign
      · intro reports
        by_contra failed
        obtain earlier | ⟨host, seen, contradicts⟩ :=
          checkPeers_contradicted registry localHost (Bool.eq_false_of_not_eq_true failed)
        · simp [before] at earlier
        · by_cases own : host = localHost
          · rw [own, silent] at seen
            exact Bool.noConfusion seen
          · exact contradicts (reports host own)
      · intro ready
        rw [Bool.and_eq_true] at ready
        intro host foreign
        exact (checkPeers_agree registry localHost ready.1 ready.2).2 host (List.mem_finRange host)
          foreign
      · intro agreed
        have agreed' : registry.Agreed localHost := agreed
        simp [checkPeers_agreed registry localHost agreed', before]

end ClusterRegistry

/-- One event of a rendezvous. -/
inductive RendezvousAction (hosts : Nat)
  /-- The local `Install`. -/
  | install
  /-- A message arrives. -/
  | deliver (envelope : ManifestEnvelope hosts)

namespace ClusterRegistry

variable {hosts : Nat} {Callable : Type}

/-- Perform one event. -/
def perform (platformAbi : Nat) (localHost : Fin hosts)
    (functions : List (ClusterFunction Callable)) (registry : ClusterRegistry hosts Callable) :
    RendezvousAction hosts → Status × ClusterRegistry hosts Callable
  | .install =>
      match registry.install platformAbi localHost functions with
      | (.ok _, after) => (.ok, after)
      | (.error status, after) => (status, after)
  | .deliver envelope => registry.receive platformAbi localHost envelope

/-- Perform some events and list what they return. -/
def rendezvous (platformAbi : Nat) (localHost : Fin hosts)
    (functions : List (ClusterFunction Callable)) :
    List (RendezvousAction hosts) → ClusterRegistry hosts Callable →
      List Status × ClusterRegistry hosts Callable
  | [], registry => ([], registry)
  | action :: actions, registry =>
      let performed := registry.perform platformAbi localHost functions action
      let later := rendezvous platformAbi localHost functions actions performed.2
      (performed.1 :: later.1, later.2)

def fragmentEnvelope (platformAbi : Nat) (source localHost : Fin hosts)
    (descriptors : List FunctionDescriptor) (index : Nat) : ManifestEnvelope hosts :=
  (⟨source, localHost, kManifestWireBytes, fragment platformAbi descriptors index⟩ :
    ManifestMessage hosts).envelope platformAbi

/-- What a registry knows in the midst of a rendezvous. -/
structure Gathers (platformAbi : Nat) (localHost : Fin hosts)
    (functions : Fin hosts → List (ClusterFunction Callable))
    (happened : RendezvousAction hosts → Prop) (registry : ClusterRegistry hosts Callable) :
    Prop where
  /-- Whether `Install` was called. -/
  installed : registry.installed = true ↔ happened .install
  /-- Nothing is decided before. -/
  early : registry.installed = false → registry.failure.isOk = true ∧ registry.ready = false
  /-- The local functions are those of the manifest. -/
  bindings : registry.installed = true →
    registry.functions = (functions localHost).insertionSort ClusterFunction.NameLe
  /-- Their descriptors too. -/
  manifest : registry.installed = true →
    registry.descriptors = sortedManifest (functions localHost)
  /-- No message comes from the host itself. -/
  silent : (registry.peers localHost).seen = false
  /-- Each peer has reported parts of its manifest. -/
  reports : ∀ source, source ≠ localHost →
    (registry.peers source).Reports (sortedManifest (functions source))
  /-- What arrived is recorded. -/
  received : ∀ source, source ≠ localHost → ∀ index,
    happened (.deliver (fragmentEnvelope platformAbi source localHost
      (sortedManifest (functions source)) index)) →
    (registry.peers source).seen = true ∧ ∀ descriptor,
      (sortedManifest (functions source))[index]? = some descriptor →
        (registry.peers source).entries[index]? = some (some descriptor)
  /-- The peers have been compared. -/
  verdict : registry.installed = true → registry.Verdict localHost

theorem gathers_initial (platformAbi : Nat) (localHost : Fin hosts)
    (functions : Fin hosts → List (ClusterFunction Callable)) :
    Gathers platformAbi localHost functions (fun _ => False) (initial hosts Callable) where
  installed := by simp [initial]
  early := by simp [initial]
  bindings := by simp [initial]
  manifest := by simp [initial]
  silent := rfl
  reports := by
    intro source _ seen
    simp [initial] at seen
  received := by simp
  verdict := by simp [initial]

/-- The local `Install` at any point. -/
theorem Gathers.install {platformAbi : Nat} {localHost : Fin hosts}
    {functions : Fin hosts → List (ClusterFunction Callable)}
    {happened : RendezvousAction hosts → Prop} {registry : ClusterRegistry hosts Callable}
    (gathers : Gathers platformAbi localHost functions happened registry)
    (accepted : Accepts platformAbi localHost (functions localHost)) :
    (registry.perform platformAbi localHost (functions localHost) .install).1 = .ok ∧
      Gathers platformAbi localHost functions (fun action => happened action ∨ action = .install)
        (registry.perform platformAbi localHost (functions localHost) .install).2 := by
  obtain ⟨small, draft, gathered, descriptors_eq⟩ := accepted.gathers
  have kept : ∀ source index, (happened (.deliver (fragmentEnvelope platformAbi source localHost
      (sortedManifest (functions source)) index)) ∨
        RendezvousAction.deliver (fragmentEnvelope platformAbi source localHost
          (sortedManifest (functions source)) index) = .install) →
      happened (.deliver (fragmentEnvelope platformAbi source localHost
        (sortedManifest (functions source)) index)) := by
    intro source index arrived
    exact arrived.resolve_right (by simp)
  cases again : registry.installed with
  | true =>
      have same : registry.perform platformAbi localHost (functions localHost) .install =
          (.ok, registry) := by
        simp [perform, ClusterRegistry.install, Nat.not_lt.2 small, gathered, again, descriptors_eq,
          gathers.manifest again, gathers.bindings again]
      rw [same]
      refine ⟨rfl, { gathers with
        installed := ?_
        received := fun source foreign index arrived =>
          gathers.received source foreign index (kept source index arrived) }⟩
      simp [again]
  | false =>
      let fixed : ClusterRegistry hosts Callable :=
        { registry with
          functions := (functions localHost).insertionSort ClusterFunction.NameLe
          descriptors := draft.descriptors
          byId := draft.ids
          installed := true }
      have after : registry.perform platformAbi localHost (functions localHost) .install =
          (.ok, fixed.checkLocked localHost) := by
        simp [perform, ClusterRegistry.install, Nat.not_lt.2 small, gathered, again, fixed]
      have clean : fixed.failure.isOk = true := (gathers.early again).1
      rw [after]
      refine ⟨rfl, ?_⟩
      exact
        { installed := by simp [fixed]
          early := by simp [fixed]
          bindings := by simp [fixed]
          manifest := by simpa [fixed] using descriptors_eq
          silent := by simpa [fixed] using gathers.silent
          reports := by simpa [fixed] using gathers.reports
          received := by
            intro source foreign index arrived
            simpa [fixed] using gathers.received source foreign index (kept source index arrived)
          verdict := by
            intro _
            refine verdict_checkLocked rfl gathers.silent ?_
            intro failed
            simp [clean] at failed }

/-- The messages of different fragments differ. -/
theorem fragmentEnvelope_inj (platformAbi : UInt32) {first second localHost : Fin hosts}
    {descriptors others : List FunctionDescriptor} (manifest : ValidManifest descriptors)
    (other : ValidManifest others) {index position : Nat}
    (inside : index < max 1 descriptors.length) (within : position < max 1 others.length)
    (same : fragmentEnvelope platformAbi.toNat first localHost descriptors index =
      fragmentEnvelope platformAbi.toNat second localHost others position) :
    first = second ∧ index = position := by
  simp only [fragmentEnvelope, ManifestMessage.envelope, ManifestEnvelope.mk.injEq,
    true_and] at same
  obtain ⟨source_eq, bytes_eq⟩ := same
  refine ⟨source_eq, ?_⟩
  have wire_eq := congrArg (ManifestWire.decode (platformOrder platformAbi.toNat)) bytes_eq
  rw [ManifestWire.decode_encode _ (bounded_fragment platformAbi manifest index),
    ManifestWire.decode_encode _ (bounded_fragment platformAbi other position)] at wire_eq
  have index_eq := congrArg ManifestWire.index wire_eq
  rwa [fragment_index _ manifest inside, fragment_index _ other within] at index_eq

/-- A message of a peer at any point. -/
theorem Gathers.deliver {platformAbi : UInt32} {localHost : Fin hosts}
    {functions : Fin hosts → List (ClusterFunction Callable)}
    {happened : RendezvousAction hosts → Prop} {registry : ClusterRegistry hosts Callable}
    (gathers : Gathers platformAbi.toNat localHost functions happened registry)
    (accepted : ∀ host, Accepts platformAbi.toNat host (functions host)) {source : Fin hosts}
    (foreign : source ≠ localHost) {index : Nat}
    (inside : index < max 1 (sortedManifest (functions source)).length) :
    let action : RendezvousAction hosts := .deliver (fragmentEnvelope platformAbi.toNat source
      localHost (sortedManifest (functions source)) index)
    (registry.perform platformAbi.toNat localHost (functions localHost) action).1 = .ok ∧
      Gathers platformAbi.toNat localHost functions
        (fun other => happened other ∨ other = action)
        (registry.perform platformAbi.toNat localHost (functions localHost) action).2 := by
  intro action
  have valid := (accepted source).valid
  have reported := gathers.reports source foreign
  let recording : ClusterRegistry hosts Callable :=
    { registry with
      peers := Function.update registry.peers source
        (recorded (registry.peers source) (sortedManifest (functions source)) index) }
  have performed : registry.perform platformAbi.toNat localHost (functions localHost) action =
      (.ok, recording.checkLocked localHost) := by
    simp only [perform, action, fragmentEnvelope]
    rw [receive_envelope registry _ localHost (bounded_fragment platformAbi valid index) rfl]
    exact handle_accepts platformAbi.toNat valid inside foreign reported
  have reports : ∀ host, host ≠ localHost →
      (recording.peers host).Reports (sortedManifest (functions host)) := by
    intro host away
    by_cases same : host = source
    · subst same
      simpa [recording] using reports_recorded reported index
    · simpa [recording, same] using gathers.reports host away
  rw [performed]
  refine ⟨rfl, ?_⟩
  exact
    { installed := by simpa [recording, action] using gathers.installed
      early := by
        intro uninstalled
        have uninstalled' : registry.installed = false := by simpa [recording] using uninstalled
        have same : recording.checkLocked localHost = recording := by
          simp [checkLocked, recording, uninstalled']
        rw [same]
        exact gathers.early uninstalled'
      bindings := by simpa [recording] using gathers.bindings
      manifest := by simpa [recording] using gathers.manifest
      silent := by simpa [recording, Ne.symm foreign] using gathers.silent
      reports := by simpa using reports
      received := by
        intro host away position arrived
        rw [checkLocked_peers]
        by_cases same : host = source
        · subst same
          have recorded_eq : recording.peers host =
              recorded (registry.peers host) (sortedManifest (functions host)) index := by
            simp [recording]
          rw [recorded_eq]
          refine ⟨seen_recorded _ _ _, fun descriptor here => ?_⟩
          rcases arrived with earlier | now
          · obtain ⟨seen, stored⟩ := gathers.received host away position earlier
            exact recorded_keeps reported index seen (stored descriptor here)
          · have within : position < max 1 (sortedManifest (functions host)).length :=
              Nat.lt_of_lt_of_le (List.getElem?_eq_some_iff.1 here).1 (Nat.le_max_right _ _)
            simp only [action, RendezvousAction.deliver.injEq] at now
            obtain ⟨_, rfl⟩ := fragmentEnvelope_inj platformAbi valid valid within inside now
            exact recorded_here reported here
        · have kept : recording.peers host = registry.peers host := by simp [recording, same]
          rw [kept]
          refine gathers.received host away position (arrived.resolve_right ?_)
          intro now
          simp only [action, RendezvousAction.deliver.injEq, fragmentEnvelope,
            ManifestMessage.envelope, ManifestEnvelope.mk.injEq] at now
          exact same now.1
      verdict := by
        intro installed
        have installed' : registry.installed = true := by simpa [recording] using installed
        refine verdict_checkLocked installed' ?_ ?_
        · simpa [recording, Ne.symm foreign] using gathers.silent
        · intro failed
          have verdict := gathers.verdict installed'
          have unready : registry.ready = false := by
            by_contra ready
            have agreed := verdict.ready.1 (Bool.eq_true_of_not_eq_false ready)
            have success := verdict.failed.2 agreed.reports
            have failed' : registry.failure.isOk = false := failed
            simp [success] at failed'
          have contradicted : ¬∀ host, host ≠ localHost →
              (registry.peers host).Reports registry.descriptors := by
            intro every
            have success := verdict.failed.2 every
            have failed' : registry.failure.isOk = false := failed
            simp [success] at failed'
          refine ⟨unready, ?_⟩
          by_contra none_contradicts
          push Not at none_contradicts
          refine contradicted fun host away => ?_
          have now := none_contradicts host away
          by_cases same : host = source
          · subst same
            refine reports_of_recorded reported index ?_
            simpa [recording] using now
          · simpa [recording, same] using now }

/-- Any events of a rendezvous are accepted and keep what the registry knows. -/
theorem rendezvous_gathers {platformAbi : UInt32} {localHost : Fin hosts}
    {functions : Fin hosts → List (ClusterFunction Callable)}
    (accepted : ∀ host, Accepts platformAbi.toNat host (functions host))
    (actions : List (RendezvousAction hosts))
    (sent : ∀ envelope, .deliver envelope ∈ actions → envelope.target = localHost ∧
      ∃ source, source ≠ localHost ∧
        envelope ∈ published platformAbi.toNat source (functions source))
    {happened : RendezvousAction hosts → Prop} {registry : ClusterRegistry hosts Callable}
    (gathers : Gathers platformAbi.toNat localHost functions happened registry) :
    (∀ status ∈ (rendezvous platformAbi.toNat localHost (functions localHost) actions registry).1,
        status = .ok) ∧
      Gathers platformAbi.toNat localHost functions
        (fun action => happened action ∨ action ∈ actions)
        (rendezvous platformAbi.toNat localHost (functions localHost) actions registry).2 := by
  induction actions generalizing happened registry with
  | nil => simpa [rendezvous] using gathers
  | cons action actions induction =>
      have step : (registry.perform platformAbi.toNat localHost (functions localHost) action).1 =
            .ok ∧
          Gathers platformAbi.toNat localHost functions
            (fun other => happened other ∨ other = action)
            (registry.perform platformAbi.toNat localHost (functions localHost) action).2 := by
        cases action with
        | install => exact gathers.install (accepted localHost)
        | deliver envelope =>
            obtain ⟨addressed, source, foreign, member⟩ := sent envelope List.mem_cons_self
            obtain ⟨index, inside, rfl⟩ :=
              (mem_published (accepted source) foreign envelope).1 ⟨member, addressed⟩
            exact gathers.deliver accepted foreign inside
      obtain ⟨statuses, later⟩ := induction
        (fun envelope member => sent envelope (List.mem_cons_of_mem action member)) step.2
      refine ⟨?_, ?_⟩
      · simp only [rendezvous, List.forall_mem_cons]
        exact ⟨step.1, statuses⟩
      · simpa only [rendezvous, List.mem_cons, or_assoc] using later

/-- When every fragment of a peer has arrived, its manifest is complete. -/
theorem Gathers.complete {platformAbi : Nat} {localHost : Fin hosts}
    {functions : Fin hosts → List (ClusterFunction Callable)}
    {happened : RendezvousAction hosts → Prop} {registry : ClusterRegistry hosts Callable}
    (gathers : Gathers platformAbi localHost functions happened registry) {source : Fin hosts}
    (foreign : source ≠ localHost)
    (arrived : ∀ index, index < max 1 (sortedManifest (functions source)).length →
      happened (.deliver (fragmentEnvelope platformAbi source localHost
        (sortedManifest (functions source)) index))) :
    registry.peers source = ⟨true, (sortedManifest (functions source)).map some⟩ := by
  have seen := (gathers.received source foreign 0 (arrived 0 (by omega))).1
  obtain ⟨length_eq, _⟩ := gathers.reports source foreign seen
  have entries_eq : (registry.peers source).entries =
      (sortedManifest (functions source)).map some := by
    refine List.ext_getElem? fun index => ?_
    cases here : (sortedManifest (functions source))[index]? with
    | some descriptor =>
        have inside : index < max 1 (sortedManifest (functions source)).length :=
          Nat.lt_of_lt_of_le (List.getElem?_eq_some_iff.1 here).1 (Nat.le_max_right _ _)
        have stored := (gathers.received source foreign index (arrived index inside)).2
        simp [stored descriptor here, here]
    | none =>
        have outside := List.getElem?_eq_none_iff.1 here
        have beyond : (registry.peers source).entries[index]? = none :=
          List.getElem?_eq_none_iff.2 (by omega)
        simp [beyond, here]
  rw [← entries_eq, ← seen]

/-- In whatever order the messages of the peers and the local `Install` happen, and however often,
every message is accepted, every manifest is put together again, and `Wait` succeeds exactly if all
manifests are the same. -/
theorem rendezvous_order_independent (platformAbi : UInt32) (localHost : Fin hosts)
    (functions : Fin hosts → List (ClusterFunction Callable))
    (accepted : ∀ host, Accepts platformAbi.toNat host (functions host))
    (actions : List (RendezvousAction hosts)) (registered : .install ∈ actions)
    (sent : ∀ envelope, .deliver envelope ∈ actions → envelope.target = localHost ∧
      ∃ source, source ≠ localHost ∧
        envelope ∈ published platformAbi.toNat source (functions source))
    (arrived : ∀ source envelope, source ≠ localHost →
      envelope ∈ published platformAbi.toNat source (functions source) →
        envelope.target = localHost → .deliver envelope ∈ actions) :
    let outcome := rendezvous platformAbi.toNat localHost (functions localHost) actions
      (initial hosts Callable)
    (∀ status ∈ outcome.1, status = .ok) ∧
      (∀ source, source ≠ localHost →
        outcome.2.peers source = ⟨true, (sortedManifest (functions source)).map some⟩) ∧
      ∀ timeoutMs expired, 0 < timeoutMs → timeoutMs < 2 ^ 32 →
        ∃ status, outcome.2.wait timeoutMs expired = some status ∧
          (status.isOk = true ↔
            ∀ source,
              sortedManifest (functions source) = sortedManifest (functions localHost)) := by
  intro outcome
  obtain ⟨statuses, gathers⟩ := rendezvous_gathers accepted actions sent
    (gathers_initial platformAbi.toNat localHost functions)
  have complete : ∀ source, source ≠ localHost →
      outcome.2.peers source = ⟨true, (sortedManifest (functions source)).map some⟩ := by
    intro source foreign
    refine gathers.complete foreign fun index inside => .inr ?_
    obtain ⟨member, addressed⟩ := (mem_published (accepted source) foreign _).2 ⟨index, inside, rfl⟩
    exact arrived source _ foreign member addressed
  have installed : outcome.2.installed = true := gathers.installed.2 (.inr registered)
  have manifest : outcome.2.descriptors = sortedManifest (functions localHost) :=
    gathers.manifest installed
  have verdict := gathers.verdict installed
  refine ⟨statuses, complete, fun timeoutMs expired positive small => ?_⟩
  have timely : ¬(timeoutMs = 0 ∨ 2 ^ 32 - 1 < timeoutMs) := by omega
  by_cases same : ∀ source, sortedManifest (functions source) = sortedManifest (functions localHost)
  case pos =>
    have agreed : outcome.2.Agreed localHost := by
      intro source foreign
      rw [complete source foreign, manifest, same source]
      exact ⟨rfl, rfl⟩
    have ready := verdict.ready.2 agreed
    have success := verdict.failed.2 agreed.reports
    refine ⟨outcome.2.failure, ?_, iff_of_true success same⟩
    rw [wait, if_neg timely, if_neg (by simp [installed]), if_pos (.inl ready)]
  case neg =>
    have failed : outcome.2.failure.isOk = false := by
      rw [← Bool.not_eq_true, verdict.failed]
      intro reports
      refine same fun source => ?_
      by_cases own : source = localHost
      · rw [own]
      · have parts := reports source own
        rw [manifest] at parts
        exact (parts.eq_of_entries (by rw [complete source own])
          (by rw [complete source own])).symm
    refine ⟨outcome.2.failure, ?_, iff_of_false (by simp [failed]) same⟩
    rw [wait, if_neg timely, if_neg (by simp [installed]), if_pos (.inr failed)]

/-- A little-endian platform with words of eight bytes. -/
def smallEndianAbi : UInt32 := 526337

/-- Two hosts with the same two functions, listed in different orders. -/
def sameTwice (host : Fin 2) : List (ClusterFunction Unit) :=
  if host.val = 0 then [ManifestWorld.oneByteFunction 97 1, ManifestWorld.oneByteFunction 98 2]
  else [ManifestWorld.oneByteFunction 98 7, ManifestWorld.oneByteFunction 97 8]

/-- The messages of the second host arrive in reverse before the local `Install` and again after
it. -/
def reversedTwice : List (RendezvousAction 2) :=
  (published smallEndianAbi.toNat (Fin.last 1) (sameTwice (Fin.last 1))).reverse.map .deliver ++
    [.install] ++
      (published smallEndianAbi.toNat (Fin.last 1) (sameTwice (Fin.last 1))).map .deliver

theorem rendezvous_order_independent_reversedTwice :
    (∀ status ∈ (rendezvous smallEndianAbi.toNat 0 (sameTwice 0) reversedTwice
        (initial 2 Unit)).1, status = .ok) ∧
      ∃ status, (rendezvous smallEndianAbi.toNat 0 (sameTwice 0) reversedTwice
        (initial 2 Unit)).2.wait 100 false = some status ∧ status.isOk = true := by
  have accepts : ∀ host : Fin 2, ((initial 2 Unit).install smallEndianAbi.toNat host
      (sameTwice host)).1.isOk = true := by
    decide +kernel
  have addressed : ∀ envelope ∈ published smallEndianAbi.toNat (1 : Fin 2) (sameTwice 1),
      envelope.target = 0 := by
    decide +kernel
  have same : ∀ source, sortedManifest (sameTwice source) = sortedManifest (sameTwice 0) := by
    decide +kernel
  obtain ⟨statuses, _, returns⟩ := rendezvous_order_independent smallEndianAbi (0 : Fin 2) sameTwice
    (by
      intro host
      have accepted := accepts host
      cases result : ((initial 2 Unit).install smallEndianAbi.toNat host (sameTwice host)).1 with
      | ok messages => exact ⟨messages, result⟩
      | error status => simp [result, Except.isOk, Except.toBool] at accepted)
    reversedTwice (by simp [reversedTwice])
    (by
      intro envelope member
      have member' : envelope ∈ published smallEndianAbi.toNat (1 : Fin 2) (sameTwice 1) := by
        simpa [reversedTwice] using member
      exact ⟨addressed envelope member', 1, by decide, member'⟩)
    (by
      intro source envelope foreign member _
      have second : source = 1 := by omega
      subst second
      simp [reversedTwice, member])
  obtain ⟨status, waited, success⟩ := returns 100 false (by decide) (by decide)
  exact ⟨statuses, status, waited, success.2 same⟩

end ClusterRegistry

end Cxloom.LoomPar
