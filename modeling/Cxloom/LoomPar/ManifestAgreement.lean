import Cxloom.LoomPar.ClusterRegistry

/-!
# Agreement of the cluster manifests

A registry is ready only when every other host has advertised the local manifest.  The fragments of
a host are pieces of its one installed manifest, so they never contradict each other, and a host
remembers a failure only when two hosts really differ.
-/

namespace Cxloom.LoomPar

/-- A descriptor of a function that `Install` accepts. -/
structure FunctionDescriptor.Valid (descriptor : FunctionDescriptor) : Prop where
  name_ne : descriptor.name ≠ []
  /-- The name leaves room for its terminator. -/
  name_le : descriptor.name.length ≤ kMaxClusterFunctionName
  name_nul : 0 ∉ descriptor.name
  abiVersion_ne : descriptor.abiVersion ≠ 0
  schemaId_ne : descriptor.schemaId ≠ 0
  argumentBytes_le : descriptor.argumentBytes.toNat ≤ kMaxClusterArgumentBytes

/-- A manifest that `Install` accepts. -/
structure ValidManifest (descriptors : List FunctionDescriptor) : Prop where
  /-- There are not too many functions. -/
  length_le : descriptors.length ≤ kMaxClusterFunctions
  /-- Each of them is acceptable. -/
  valid : ∀ descriptor ∈ descriptors, descriptor.Valid

/-- What a peer has reported so far are parts of one manifest. -/
def ManifestPeer.Reports (peer : ManifestPeer) (descriptors : List FunctionDescriptor) : Prop :=
  peer.seen → peer.entries.length = descriptors.length ∧
    ∀ (index : Nat) (descriptor : FunctionDescriptor),
      peer.entries[index]? = some (some descriptor) →
      descriptors[index]? = some descriptor

/-- The record of a peer at its first fragment. -/
def ManifestPeer.opened (peer : ManifestPeer) (count : Nat) : ManifestPeer :=
  if peer.seen then peer else ⟨true, List.replicate count none⟩

theorem ManifestPeer.Reports.opened {peer : ManifestPeer} {descriptors : List FunctionDescriptor}
    (reported : peer.Reports descriptors) :
    (peer.opened descriptors.length).seen ∧
      (peer.opened descriptors.length).Reports descriptors := by
  rw [ManifestPeer.opened]
  split
  case isTrue seen => exact ⟨seen, reported⟩
  case isFalse unseen =>
    refine ⟨rfl, fun _ => ⟨List.length_replicate, fun index descriptor here => ?_⟩⟩
    simp [List.getElem?_replicate] at here

theorem ManifestPeer.Reports.record {peer : ManifestPeer} {descriptors : List FunctionDescriptor}
    (reported : peer.Reports descriptors) {index : Nat} {descriptor : FunctionDescriptor}
    (here : descriptors[index]? = some descriptor) :
    ({ peer with entries := peer.entries.set index (some descriptor) } :
      ManifestPeer).Reports descriptors := by
  intro seen
  obtain ⟨length_eq, parts⟩ := reported seen
  refine ⟨by simpa using length_eq, fun position other there => ?_⟩
  rw [List.getElem?_set] at there
  split_ifs at there with same inside
  · obtain rfl : descriptor = other := by simpa using there
    exact same ▸ here
  · exact parts position other there

theorem ManifestPeer.Reports.eq_of_entries {peer : ManifestPeer}
    {descriptors expected : List FunctionDescriptor} (reported : peer.Reports descriptors)
    (seen : peer.seen = true) (entries_eq : peer.entries = expected.map some) :
    descriptors = expected := by
  obtain ⟨length_eq, parts⟩ := reported seen
  refine List.ext_getElem? fun index => ?_
  cases here : expected[index]? with
  | some descriptor => exact parts index descriptor (by simp [entries_eq, here])
  | none =>
      have outside : expected.length ≤ index := List.getElem?_eq_none_iff.mp here
      rw [entries_eq, List.length_map] at length_eq
      exact List.getElem?_eq_none_iff.mpr (by omega)

/-- The identifiers of a manifest with their positions. -/
def manifestIds (descriptors : List FunctionDescriptor) (start : Nat) : List (UInt64 × Nat) :=
  (descriptors.zipIdx start).map fun entry => (functionId entry.1.name, entry.2)

theorem ClusterFunction.valid_describe {Callable : Type} {function : ClusterFunction Callable}
    (accepted : function.invalid = false) :
    function.describe.Valid ∧ function.function.isSome := by
  simp only [ClusterFunction.invalid, decide_eq_false_iff_not, not_or, not_lt] at accepted
  obtain ⟨name_ne, name_le, name_nul, bound, -, abi_ne, schema_ne, argument_le⟩ := accepted
  exact ⟨⟨name_ne, name_le, name_nul, abi_ne, schema_ne, argument_le⟩,
    by simpa [Option.isSome_iff_ne_none] using bound⟩

namespace ClusterRegistry

variable {hosts : Nat} {Callable : Type}

theorem gather_ok {functions : List (ClusterFunction Callable)} {draft result : ManifestDraft}
    (gathered : gather functions draft = .ok result) :
    (∀ function ∈ functions, function.invalid = false) ∧
      result.descriptors = draft.descriptors ++ functions.map ClusterFunction.describe ∧
      result.ids = draft.ids ++
        manifestIds (functions.map ClusterFunction.describe) draft.descriptors.length := by
  induction functions generalizing draft with
  | nil =>
      obtain rfl : draft = result := by simpa [gather] using gathered
      simp [manifestIds]
  | cons function functions induction =>
      rw [gather] at gathered
      split_ifs at gathered with refused duplicate
      obtain ⟨valid, descriptors, ids⟩ := induction gathered
      refine ⟨?_, ?_, ?_⟩
      · simpa [refused] using valid
      · simpa using descriptors
      · simpa [manifestIds, ClusterFunction.describe] using ids

theorem checkEntries_agree {entries : List (Option FunctionDescriptor)}
    {descriptors : List FunctionDescriptor} {complete : Bool}
    (length_eq : entries.length = descriptors.length)
    (checked : checkEntries entries descriptors complete = (true, false)) :
    complete = true ∧ entries = descriptors.map some := by
  induction entries generalizing descriptors complete with
  | nil =>
      obtain rfl : descriptors = [] := by simpa using length_eq.symm
      simpa [checkEntries] using checked
  | cons entry entries induction =>
      obtain _ | ⟨descriptor, descriptors⟩ := descriptors
      · simp at length_eq
      have rest : entries.length = descriptors.length := by simpa using length_eq
      cases entry with
      | none =>
          have impossible := (induction rest checked).1
          simp at impossible
      | some entry =>
          rw [checkEntries] at checked
          split_ifs at checked with same
          · subst same
            simpa using induction rest checked
          · simp at checked

theorem checkEntries_differ {entries : List (Option FunctionDescriptor)}
    {descriptors : List FunctionDescriptor} {complete : Bool}
    (checked : (checkEntries entries descriptors complete).2 = true) :
    ∃ (index : Nat) (descriptor : FunctionDescriptor), entries[index]? = some (some descriptor) ∧
      descriptors[index]? ≠ some descriptor := by
  fun_induction checkEntries entries descriptors complete with
  | case1 entries head descriptors complete induction
  | case2 entries entry descriptors complete induction =>
      obtain ⟨index, descriptor, here, differs⟩ := induction checked
      exact ⟨index + 1, descriptor, by simpa using here, by simpa using differs⟩
  | case3 entry entries head descriptors complete differs =>
      exact ⟨0, entry, rfl, by simpa using Ne.symm differs⟩
  | case4 => simp at checked

/-- Every other host has advertised the local manifest. -/
def Agreed (registry : ClusterRegistry hosts Callable) (localHost : Fin hosts) : Prop :=
  ∀ host, host ≠ localHost →
    (registry.peers host).seen ∧
      (registry.peers host).entries = registry.descriptors.map some

/-- Some other host has reported what cannot be part of the local manifest. -/
def Contradicted (registry : ClusterRegistry hosts Callable) : Prop :=
  ∃ host, (registry.peers host).seen ∧ ¬(registry.peers host).Reports registry.descriptors

theorem checkPeers_agree (registry : ClusterRegistry hosts Callable) (localHost : Fin hosts)
    {rest : List (Fin hosts)} {complete : Bool} {failure : Status}
    (success : (registry.checkPeers localHost rest complete failure).2.isOk = true)
    (all : (registry.checkPeers localHost rest complete failure).1 = true) :
    (complete = true ∧ failure.isOk = true) ∧ ∀ host ∈ rest, host ≠ localHost →
      (registry.peers host).seen ∧
        (registry.peers host).entries = registry.descriptors.map some := by
  induction rest generalizing complete failure with
  | nil => exact ⟨⟨all, success⟩, by simp⟩
  | cons host rest induction =>
      rw [checkPeers] at success all
      simp only [List.forall_mem_cons]
      split_ifs at success all with same unseen length_ne
      case pos =>
        obtain ⟨before, others⟩ := induction success all
        exact ⟨before, fun ne => absurd same ne, others⟩
      case pos =>
        obtain ⟨⟨impossible, -⟩, -⟩ := induction success all
        simp at impossible
      case pos => simp at success
      case neg =>
        obtain ⟨⟨complete_now, ok_before⟩, others⟩ := induction success all
        obtain ⟨same_entries, ok_before⟩ :
            (checkEntries (registry.peers host).entries registry.descriptors complete).2 = false ∧
              failure.isOk = true := by
          split at ok_before
          case isTrue => simp at ok_before
          case isFalse differs => exact ⟨by simpa using differs, ok_before⟩
        have compared : checkEntries (registry.peers host).entries registry.descriptors complete =
            (true, false) := Prod.ext complete_now same_entries
        obtain ⟨complete_before, entries_eq⟩ :=
          checkEntries_agree (by simpa using length_ne) compared
        exact ⟨⟨complete_before, ok_before⟩, fun _ => ⟨by simpa using unseen, entries_eq⟩, others⟩

theorem checkPeers_contradicted (registry : ClusterRegistry hosts Callable) (localHost : Fin hosts)
    {rest : List (Fin hosts)} {complete : Bool} {failure : Status}
    (failed : (registry.checkPeers localHost rest complete failure).2.isOk = false) :
    failure.isOk = false ∨ registry.Contradicted := by
  induction rest generalizing complete failure with
  | nil => exact .inl failed
  | cons host rest induction =>
      rw [checkPeers] at failed
      split_ifs at failed with same unseen length_ne
      case pos => exact induction failed
      case pos => exact induction failed
      case pos =>
        have seen : (registry.peers host).seen = true := by simpa using unseen
        exact .inr ⟨host, seen, fun reports => length_ne (reports seen).1⟩
      case neg =>
        obtain later | later := induction failed
        · split at later
          case isTrue differs =>
            have seen : (registry.peers host).seen = true := by simpa using unseen
            obtain ⟨index, descriptor, here, other⟩ := checkEntries_differ differs
            exact .inr ⟨host, seen, fun reports => other ((reports seen).2 index descriptor here)⟩
          case isFalse => exact .inl later
        · exact .inr later

@[simp] theorem checkLocked_installed (registry : ClusterRegistry hosts Callable)
    (localHost : Fin hosts) : (registry.checkLocked localHost).installed = registry.installed := by
  rw [checkLocked]
  split <;> rfl

@[simp] theorem checkLocked_functions (registry : ClusterRegistry hosts Callable)
    (localHost : Fin hosts) : (registry.checkLocked localHost).functions = registry.functions := by
  rw [checkLocked]
  split <;> rfl

@[simp] theorem checkLocked_descriptors (registry : ClusterRegistry hosts Callable)
    (localHost : Fin hosts) :
    (registry.checkLocked localHost).descriptors = registry.descriptors := by
  rw [checkLocked]
  split <;> rfl

@[simp] theorem checkLocked_byId (registry : ClusterRegistry hosts Callable)
    (localHost : Fin hosts) : (registry.checkLocked localHost).byId = registry.byId := by
  rw [checkLocked]
  split <;> rfl

@[simp] theorem checkLocked_peers (registry : ClusterRegistry hosts Callable)
    (localHost : Fin hosts) : (registry.checkLocked localHost).peers = registry.peers := by
  rw [checkLocked]
  split <;> rfl

/-- A ready registry has seen no failure and every other host advertise its manifest. -/
def ReadyAgreed (registry : ClusterRegistry hosts Callable) (localHost : Fin hosts) : Prop :=
  registry.ready = true →
    registry.failure.isOk = true ∧ registry.installed = true ∧ registry.Agreed localHost

theorem readyAgreed_checkLocked {registry : ClusterRegistry hosts Callable} {localHost : Fin hosts}
    (before : registry.ready = true → registry.failure.isOk = true ∧ registry.installed = true) :
    (registry.checkLocked localHost).ReadyAgreed localHost := by
  intro ready
  rw [checkLocked] at ready ⊢
  split at ready
  case isTrue skipped =>
    obtain ⟨success, installed⟩ := before ready
    simp [success, installed] at skipped
  case isFalse checks =>
    rw [if_neg checks]
    simp only [not_or, Bool.not_eq_false] at checks
    simp only [Bool.and_eq_true] at ready
    obtain ⟨success, complete⟩ := ready
    refine ⟨success, checks.1, fun host ne => ?_⟩
    exact (registry.checkPeers_agree localHost success complete).2 host (List.mem_finRange host) ne

theorem contradicted_of_checkLocked {registry : ClusterRegistry hosts Callable}
    {localHost : Fin hosts} (failed : (registry.checkLocked localHost).failure.isOk = false) :
    registry.failure.isOk = false ∨ registry.installed = true ∧ registry.Contradicted := by
  rw [checkLocked] at failed
  split at failed
  case isTrue => exact .inl failed
  case isFalse checks =>
    simp only [not_or, Bool.not_eq_false] at checks
    obtain before | contradicted := registry.checkPeers_contradicted localHost failed
    · exact .inl before
    · exact .inr ⟨checks.1, contradicted⟩

/-- The descriptor at a position of a manifest, the absent one of an empty manifest included. -/
theorem wireDescriptor_fragment {platformAbi : Nat} {descriptors : List FunctionDescriptor}
    {index : Nat} {descriptor : FunctionDescriptor} (here : descriptors[index]? = some descriptor)
    (valid : descriptor.Valid) :
    wireDescriptor (fragment platformAbi descriptors index) = descriptor := by
  have kept : ∀ byte ∈ descriptor.name, decide (byte ≠ 0) = true := by
    intro byte member
    simp only [decide_eq_true_eq]
    rintro rfl
    exact valid.name_nul member
  have name_eq : wireName (descriptor.name ++
      List.replicate (kManifestNameBytes - descriptor.name.length) 0) = descriptor.name := by
    rw [wireName, List.takeWhile_append_of_pos kept]
    simp
  simp [wireDescriptor, fragment, here, name_eq]

theorem fragment_count (platformAbi index : Nat) {descriptors : List FunctionDescriptor}
    (manifest : ValidManifest descriptors) :
    (fragment platformAbi descriptors index).count = descriptors.length := by
  have small : descriptors.length < 2 ^ 16 :=
    manifest.length_le.trans_lt (by decide)
  unfold fragment
  split <;> exact Nat.mod_eq_of_lt small

theorem fragment_index (platformAbi : Nat) {descriptors : List FunctionDescriptor} {index : Nat}
    (manifest : ValidManifest descriptors) (inside : index < max 1 descriptors.length) :
    (fragment platformAbi descriptors index).index = index := by
  have small : index < 2 ^ 32 := by
    have bounded := manifest.length_le
    simp only [kMaxClusterFunctions] at bounded
    omega
  unfold fragment
  split <;> exact Nat.mod_eq_of_lt small

theorem malformed_fragment (senderAbi platformAbi : Nat) {descriptors : List FunctionDescriptor}
    {index : Nat} (manifest : ValidManifest descriptors)
    (inside : index < max 1 descriptors.length) :
    malformed platformAbi (fragment senderAbi descriptors index) = true ↔
      senderAbi ≠ platformAbi := by
  have bounded : ¬256 < descriptors.length := by
    simpa [kMaxClusterFunctions] using manifest.length_le
  have placed : ¬(1 ≤ index ∧ descriptors.length ≤ index) := by omega
  have count_eq : descriptors.length % 65536 = descriptors.length := by omega
  have index_eq : index % 4294967296 = index := by omega
  cases here : descriptors[index]? with
  | some descriptor =>
      have valid := manifest.valid descriptor (List.mem_of_getElem? here)
      obtain ⟨byte, name, name_eq⟩ := List.exists_cons_of_ne_nil valid.name_ne
      have padded : kManifestNameBytes - (name.length + 1) ≠ 0 := by
        have short := valid.name_le
        simp only [name_eq, List.length_cons, kMaxClusterFunctionName,
          kManifestNameBytes] at short ⊢
        omega
      have byte_ne : byte ≠ 0 := by
        rintro rfl
        exact valid.name_nul (by simp [name_eq])
      have argument_le : ¬kMaxClusterArgumentBytes < descriptor.argumentBytes.toNat :=
        not_lt.mpr valid.argumentBytes_le
      simp only [malformed, fragment, here, decide_eq_true_eq]
      simp [count_eq, index_eq, bounded, placed, kMaxClusterFunctions, padded, name_eq, byte_ne,
        valid.abiVersion_ne, valid.schemaId_ne, argument_le]
  | none =>
      have outside : descriptors.length ≤ index := List.getElem?_eq_none_iff.mp here
      obtain rfl : descriptors = [] := List.length_eq_zero_iff.mp (by omega)
      simp only [malformed, fragment, here, decide_eq_true_eq]
      have index_zero : index = 0 := by simpa using inside
      simp [index_zero, kManifestNameBytes]

/-- What a peer has reported after one more fragment. -/
def recorded (peer : ManifestPeer) (descriptors : List FunctionDescriptor) (index : Nat) :
    ManifestPeer :=
  match descriptors[index]? with
  | none => peer.opened descriptors.length
  | some descriptor =>
      { peer.opened descriptors.length with
        entries := (peer.opened descriptors.length).entries.set index (some descriptor) }

theorem seen_opened (peer : ManifestPeer) (count : Nat) : (peer.opened count).seen = true := by
  rw [ManifestPeer.opened]
  split
  case isTrue seen => exact seen
  case isFalse => rfl

theorem seen_recorded (peer : ManifestPeer) (descriptors : List FunctionDescriptor) (index : Nat) :
    (recorded peer descriptors index).seen = true := by
  rw [recorded]
  split <;> exact seen_opened peer descriptors.length

theorem reports_recorded {peer : ManifestPeer} {descriptors : List FunctionDescriptor}
    (reported : peer.Reports descriptors) (index : Nat) :
    (recorded peer descriptors index).Reports descriptors := by
  rw [recorded]
  split
  next => exact reported.opened.2
  next descriptor here => exact reported.opened.2.record here

theorem recorded_here {peer : ManifestPeer} {descriptors : List FunctionDescriptor}
    (reported : peer.Reports descriptors) {index : Nat} {descriptor : FunctionDescriptor}
    (here : descriptors[index]? = some descriptor) :
    (recorded peer descriptors index).entries[index]? = some (some descriptor) := by
  have inside : index < (peer.opened descriptors.length).entries.length := by
    rw [(reported.opened.2 (seen_opened peer _)).1]
    exact (List.getElem?_eq_some_iff.1 here).1
  simp [recorded, here, inside]

/-- What was recorded stays. -/
theorem recorded_keeps {peer : ManifestPeer} {descriptors : List FunctionDescriptor}
    (reported : peer.Reports descriptors) (index : Nat) (seen : peer.seen = true) {other : Nat}
    {descriptor : FunctionDescriptor} (there : peer.entries[other]? = some (some descriptor)) :
    (recorded peer descriptors index).entries[other]? = some (some descriptor) := by
  by_cases same : other = index
  · subst same
    exact recorded_here reported ((reported seen).2 other descriptor there)
  · rw [recorded]
    split
    next => simpa [ManifestPeer.opened, seen] using there
    next => simpa [ManifestPeer.opened, seen, List.getElem?_set, Ne.symm same] using there

/-- A contradiction stays one. -/
theorem reports_of_recorded {peer : ManifestPeer} {descriptors expected : List FunctionDescriptor}
    (reported : peer.Reports descriptors) (index : Nat)
    (reports : (recorded peer descriptors index).Reports expected) : peer.Reports expected := by
  intro seen
  obtain ⟨length_eq, parts⟩ := reports (seen_recorded peer descriptors index)
  have same_length := (reports_recorded reported index (seen_recorded peer descriptors index)).1
  refine ⟨?_, fun other descriptor there => ?_⟩
  · rw [(reported seen).1, ← same_length, length_eq]
  · exact parts other descriptor (recorded_keeps reported index seen there)

/-- A fragment from a host of the same platform is accepted and recorded. -/
theorem handle_accepts {registry : ClusterRegistry hosts Callable} (platformAbi : Nat) {index : Nat}
    {source localHost : Fin hosts} {descriptors : List FunctionDescriptor}
    (manifest : ValidManifest descriptors) (inside : index < max 1 descriptors.length)
    (foreign : source ≠ localHost) (reported : (registry.peers source).Reports descriptors) :
    registry.handle platformAbi localHost
        ⟨source, localHost, kManifestWireBytes, fragment platformAbi descriptors index⟩ =
      (.ok, ({ registry with
        peers := Function.update registry.peers source
          (recorded (registry.peers source) descriptors index) } :
            ClusterRegistry hosts Callable).checkLocked localHost) := by
  have accepted : malformed platformAbi (fragment platformAbi descriptors index) = false := by
    rw [← Bool.not_eq_true, malformed_fragment platformAbi platformAbi manifest inside]
    exact not_not_intro rfl
  have consistent : ¬((registry.peers source).seen = true ∧
      (registry.peers source).entries.length ≠ descriptors.length) :=
    fun conflict => conflict.2 (reported conflict.1).1
  have opened_eq : (if (registry.peers source).seen = true then registry.peers source
      else ⟨true, List.replicate descriptors.length none⟩) =
        (registry.peers source).opened descriptors.length := rfl
  simp only [handle, foreign, accepted, fragment_count platformAbi index manifest,
    fragment_index platformAbi manifest inside, consistent, ne_eq, not_true_eq_false, or_self,
    if_false, Bool.false_eq_true, opened_eq]
  split
  case isTrue empty =>
    have none_here : descriptors[index]? = none := List.getElem?_eq_none_iff.2 (by omega)
    simp [recorded, none_here]
  case isFalse nonempty =>
    have there : index < descriptors.length := by omega
    have here : descriptors[index]? = some descriptors[index] := List.getElem?_eq_getElem there
    have decoded : wireDescriptor (fragment platformAbi descriptors index) = descriptors[index] :=
      wireDescriptor_fragment here (manifest.valid _ (List.getElem_mem there))
    rw [decoded]
    split
    case h_1 entry stored =>
      have entry_eq : entry = descriptors[index] := by
        have part := (reported.opened.2 (seen_opened _ _)).2 index entry stored
        simpa [here] using part.symm
      have set_eq : ((registry.peers source).opened descriptors.length).entries.set index
          (some descriptors[index]) =
            ((registry.peers source).opened descriptors.length).entries := by
        obtain ⟨bound, stored_eq⟩ := List.getElem?_eq_some_iff.1 stored
        rw [← entry_eq, ← stored_eq, List.set_getElem_self]
      rw [if_pos entry_eq]
      simp [recorded, here, set_eq]
    case h_2 => simp [recorded, here]

/-- A fragment of a manifest is either refused for the platform of its sender or recorded. -/
theorem handle_fragment {registry : ClusterRegistry hosts Callable}
    (senderAbi platformAbi : Nat) {index : Nat} {source localHost : Fin hosts}
    {descriptors : List FunctionDescriptor} (manifest : ValidManifest descriptors)
    (inside : index < max 1 descriptors.length) (foreign : source ≠ localHost)
    (reported : (registry.peers source).Reports descriptors) :
    let message : ManifestMessage hosts :=
      ⟨source, localHost, kManifestWireBytes, fragment senderAbi descriptors index⟩
    (senderAbi ≠ platformAbi ∧
        (registry.handle platformAbi localHost message).2 = registry.reject.2) ∨
      (senderAbi = platformAbi ∧ ∃ peer : ManifestPeer, peer.Reports descriptors ∧
        (registry.handle platformAbi localHost message).2 =
          ({ registry with peers := Function.update registry.peers source peer } :
            ClusterRegistry hosts Callable).checkLocked localHost) := by
  intro message
  by_cases same : senderAbi = platformAbi
  case neg =>
    have refused := (malformed_fragment senderAbi platformAbi manifest inside).mpr same
    refine .inl ⟨same, ?_⟩
    simp [handle, message, foreign, refused]
  case pos =>
    subst same
    have recorded := handle_accepts senderAbi manifest inside foreign reported
    exact .inr ⟨rfl, _, reports_recorded reported index, congrArg Prod.snd recorded⟩

/-- The local manifest of an installed registry. -/
structure Fixed (registry : ClusterRegistry hosts Callable) : Prop where
  /-- There are not too many functions. -/
  length_le : registry.functions.length ≤ kMaxClusterFunctions
  valid : ∀ function ∈ registry.functions, function.invalid = false
  descriptors_eq : registry.descriptors = registry.functions.map ClusterFunction.describe
  byId_eq : registry.byId = manifestIds registry.descriptors 0

theorem Fixed.manifest {registry : ClusterRegistry hosts Callable} (fixed : registry.Fixed) :
    ValidManifest registry.descriptors := by
  rw [fixed.descriptors_eq]
  refine ⟨by simpa using fixed.length_le, fun descriptor member => ?_⟩
  obtain ⟨function, listed, rfl⟩ := List.mem_map.mp member
  exact (ClusterFunction.valid_describe (fixed.valid function listed)).1

theorem Fixed.congr {registry other : ClusterRegistry hosts Callable} (fixed : registry.Fixed)
    (functions_eq : other.functions = registry.functions)
    (descriptors_eq : other.descriptors = registry.descriptors)
    (byId_eq : other.byId = registry.byId) : other.Fixed where
  length_le := functions_eq ▸ fixed.length_le
  valid := functions_eq ▸ fixed.valid
  descriptors_eq := by rw [descriptors_eq, functions_eq, fixed.descriptors_eq]
  byId_eq := by rw [byId_eq, descriptors_eq, fixed.byId_eq]

/-- `Install` fails, repeats an earlier call or fixes the manifest. -/
theorem install_cases (registry : ClusterRegistry hosts Callable) (platformAbi : Nat)
    (localHost : Fin hosts) (functions : List (ClusterFunction Callable)) :
    (∃ status, registry.install platformAbi localHost functions = (.error status, registry)) ∨
      registry.install platformAbi localHost functions = (.ok [], registry) ∨
      (registry.installed = false ∧ ∃ after : ClusterRegistry hosts Callable,
        after.Fixed ∧ after.installed = true ∧ after.peers = registry.peers ∧
        after.ready = registry.ready ∧ after.failure = registry.failure ∧
        registry.install platformAbi localHost functions =
          (.ok (advertisements platformAbi localHost after.descriptors),
            after.checkLocked localHost)) := by
  by_cases large : kMaxClusterFunctions < functions.length
  case pos => exact .inl ⟨_, by rw [install, if_pos large]⟩
  case neg =>
    simp only [install, if_neg large]
    cases gathered : gather (functions.insertionSort ClusterFunction.NameLe) ⟨[], [], []⟩ with
    | error status => exact .inl ⟨status, rfl⟩
    | ok draft =>
        dsimp only
        split
        case isTrue again =>
          split_ifs
          · exact .inl ⟨_, rfl⟩
          · exact .inl ⟨_, rfl⟩
          · exact .inr (.inl rfl)
        case isFalse fresh =>
          obtain ⟨valid, descriptors_eq, ids_eq⟩ := gather_ok gathered
          refine .inr (.inr ⟨by simpa using fresh,
            { registry with
              functions := functions.insertionSort ClusterFunction.NameLe
              descriptors := draft.descriptors
              byId := draft.ids
              installed := true }, ?_, rfl, rfl, rfl, rfl, rfl⟩)
          exact ⟨by simpa using large, valid, by simpa using descriptors_eq,
            by simpa [descriptors_eq] using ids_eq⟩

end ClusterRegistry

namespace ManifestWorld

variable {hosts : Nat} {Callable : Type} {platformAbi : Fin hosts → Nat}
  {before after : ManifestWorld hosts Callable}

/-- Two hosts that cannot agree: their platforms or their installed manifests differ. -/
def Discord (platformAbi : Fin hosts → Nat) (world : ManifestWorld hosts Callable)
    (first second : Fin hosts) : Prop :=
  platformAbi first ≠ platformAbi second ∨
    ((world.registries first).installed = true ∧ (world.registries second).installed = true ∧
      (world.registries first).descriptors ≠ (world.registries second).descriptors)

def Extends (before after : ManifestWorld hosts Callable) : Prop :=
  ∀ host, (before.registries host).installed = true →
    (after.registries host).installed = true ∧
      (after.registries host).descriptors = (before.registries host).descriptors

/-- What a record about a peer says holds of that peer. -/
def Truthful (platformAbi : Fin hosts → Nat) (world : ManifestWorld hosts Callable)
    (localHost source : Fin hosts) (peer : ManifestPeer) : Prop :=
  peer.seen = true →
    (world.registries source).installed = true ∧ platformAbi source = platformAbi localHost ∧
      peer.Reports (world.registries source).descriptors

/-- What the registry of a host says about the cluster. -/
structure Sound (platformAbi : Fin hosts → Nat) (world : ManifestWorld hosts Callable)
    (localHost : Fin hosts) (registry : ClusterRegistry hosts Callable) : Prop where
  /-- An installed manifest is one that `Install` accepts. -/
  fixed : registry.installed = true → registry.Fixed
  /-- What is recorded about the other hosts is true. -/
  peers : ∀ source, world.Truthful platformAbi localHost source (registry.peers source)
  failure : registry.failure.isOk = false → ∃ host, world.Discord platformAbi host localHost
  ready : registry.ReadyAgreed localHost

def Advertised (platformAbi : Fin hosts → Nat) (world : ManifestWorld hosts Callable)
    (message : ManifestMessage hosts) : Prop :=
  (world.registries message.source).installed = true ∧ message.source ≠ message.target ∧
    message.payloadBytes = kManifestWireBytes ∧
    ∃ index < max 1 (world.registries message.source).descriptors.length,
      message.wire = ClusterRegistry.fragment (platformAbi message.source)
        (world.registries message.source).descriptors index

/-- What holds in every reached state. -/
structure Consistent (platformAbi : Fin hosts → Nat) (world : ManifestWorld hosts Callable) :
    Prop where
  /-- Every registry is right about the cluster. -/
  sound : ∀ host, world.Sound platformAbi host (world.registries host)
  /-- Only fragments of installed manifests were sent. -/
  sent : ∀ message ∈ world.sent, world.Advertised platformAbi message

theorem Discord.mono {first second : Fin hosts} (extension : before.Extends after)
    (discord : before.Discord platformAbi first second) :
    after.Discord platformAbi first second := by
  obtain platforms | ⟨first_in, second_in, differ⟩ := discord
  · exact .inl platforms
  · obtain ⟨first_now, first_eq⟩ := extension first first_in
    obtain ⟨second_now, second_eq⟩ := extension second second_in
    exact .inr ⟨first_now, second_now, by rwa [first_eq, second_eq]⟩

theorem Truthful.mono {localHost source : Fin hosts} {peer : ManifestPeer}
    (extension : before.Extends after)
    (truthful : before.Truthful platformAbi localHost source peer) :
    after.Truthful platformAbi localHost source peer := by
  intro seen
  obtain ⟨installed, platforms, reports⟩ := truthful seen
  obtain ⟨installed_now, descriptors_eq⟩ := extension source installed
  exact ⟨installed_now, platforms, by rwa [descriptors_eq]⟩

theorem Sound.mono {localHost : Fin hosts} {registry : ClusterRegistry hosts Callable}
    (extension : before.Extends after) (sound : before.Sound platformAbi localHost registry) :
    after.Sound platformAbi localHost registry where
  fixed := sound.fixed
  peers source := (sound.peers source).mono extension
  failure failed := by
    obtain ⟨host, discord⟩ := sound.failure failed
    exact ⟨host, discord.mono extension⟩
  ready := sound.ready

theorem Advertised.mono {message : ManifestMessage hosts} (extension : before.Extends after)
    (advertised : before.Advertised platformAbi message) :
    after.Advertised platformAbi message := by
  obtain ⟨installed, foreign, size, index, inside, wire_eq⟩ := advertised
  obtain ⟨installed_now, descriptors_eq⟩ := extension message.source installed
  exact ⟨installed_now, foreign, size, index, by rwa [descriptors_eq], by rwa [descriptors_eq]⟩

/-- `CheckLocked` reports a failure only where two hosts differ, and readiness only where all
agree. -/
theorem Sound.checkLocked {localHost : Fin hosts} {registry : ClusterRegistry hosts Callable}
    {world : ManifestWorld hosts Callable}
    (own : world.registries localHost = registry.checkLocked localHost)
    (fixed : registry.installed = true → registry.Fixed)
    (peers : ∀ source, world.Truthful platformAbi localHost source (registry.peers source))
    (failure : registry.failure.isOk = false → ∃ host, world.Discord platformAbi host localHost)
    (ready : registry.ready = true → registry.failure.isOk = true ∧ registry.installed = true) :
    world.Sound platformAbi localHost (registry.checkLocked localHost) where
  fixed installed := by
    rw [ClusterRegistry.checkLocked_installed] at installed
    exact (fixed installed).congr (by simp) (by simp) (by simp)
  peers source := by
    rw [ClusterRegistry.checkLocked_peers]
    exact peers source
  failure failed := by
    obtain earlier | ⟨installed, host, seen, contradiction⟩ :=
      ClusterRegistry.contradicted_of_checkLocked failed
    · exact failure earlier
    · obtain ⟨host_installed, -, reports⟩ := peers host seen
      refine ⟨host, .inr ⟨host_installed, by simpa [own] using installed, fun same => ?_⟩⟩
      rw [same, own, ClusterRegistry.checkLocked_descriptors] at reports
      exact contradiction reports
  ready := ClusterRegistry.readyAgreed_checkLocked ready

/-- The registry of one host moves to a state that is right about the cluster. -/
theorem Consistent.update {host : Fin hosts} {registry : ClusterRegistry hosts Callable}
    (consistent : before.Consistent platformAbi)
    (registries_eq : after.registries = Function.update before.registries host registry)
    (kept : (before.registries host).installed = true →
      registry.installed = true ∧ registry.descriptors = (before.registries host).descriptors)
    (sound : before.Extends after → after.Sound platformAbi host registry)
    (sent : ∀ message ∈ after.sent,
      message ∈ before.sent ∨ after.Advertised platformAbi message) :
    after.Consistent platformAbi := by
  have extension : before.Extends after := by
    intro other installed
    rw [registries_eq]
    by_cases same : other = host
    · subst same
      simpa using kept installed
    · simpa [same] using installed
  refine ⟨fun other => ?_, fun message member => ?_⟩
  · rw [registries_eq]
    by_cases same : other = host
    · subst same
      simpa using sound extension
    · simpa [same] using (consistent.sound other).mono extension
  · obtain earlier | new := sent message member
    · exact (consistent.sent message earlier).mono extension
    · exact new

theorem Consistent.install {host : Fin hosts} {functions : List (ClusterFunction Callable)}
    (consistent : before.Consistent platformAbi)
    (performed : before.next platformAbi (.install host functions) = some after) :
    after.Consistent platformAbi := by
  obtain ⟨status, failed⟩ | repeated | ⟨fresh, registry, fixed, installed, peers_eq, ready_eq,
    failure_eq, installs⟩ :=
      (before.registries host).install_cases (platformAbi host) host functions
  · obtain rfl : before = after := by simpa [next, failed] using performed
    exact consistent
  · obtain rfl : before = after := by simpa [next, repeated] using performed
    exact consistent
  · obtain rfl : ⟨Function.update before.registries host (registry.checkLocked host), before.sent ++
        ClusterRegistry.advertisements (platformAbi host) host registry.descriptors⟩ = after := by
      simpa [next, installs] using performed
    refine consistent.update rfl (by simp [fresh]) (fun extension => ?_) (fun message member => ?_)
    · have old := (consistent.sound host).mono extension
      refine .checkLocked (by simp) (fun _ => fixed) ?_ ?_ ?_
      · simpa only [peers_eq] using old.peers
      · simpa only [failure_eq] using old.failure
      · rw [ready_eq, failure_eq]
        exact fun ready => ⟨(old.ready ready).1, installed⟩
    · obtain earlier | new := List.mem_append.mp member
      · exact .inl earlier
      · simp only [ClusterRegistry.advertisements, List.mem_flatMap, List.mem_filter, List.mem_map,
          List.mem_range, decide_eq_true_eq] at new
        obtain ⟨target, ⟨-, foreign⟩, index, inside, rfl⟩ := new
        exact .inr ⟨by simpa using installed, Ne.symm foreign, rfl, index, by simpa using inside,
          by simp⟩

theorem Consistent.deliver {position : Nat} (consistent : before.Consistent platformAbi)
    (performed : before.next platformAbi (.deliver position) = some after) :
    after.Consistent platformAbi := by
  obtain ⟨message, found, rfl⟩ := Option.map_eq_some_iff.mp performed
  obtain ⟨source, target, payloadBytes, wire⟩ := message
  obtain ⟨installed, foreign, size, index, inside, wire_eq⟩ :=
    consistent.sent _ (List.mem_of_getElem? found)
  dsimp only at installed foreign size inside wire_eq ⊢
  subst size wire_eq
  have manifest := ((consistent.sound source).fixed installed).manifest
  have reported : ((before.registries target).peers source).Reports
      (before.registries source).descriptors := fun seen =>
    ((consistent.sound target).peers source seen).2.2 seen
  obtain ⟨platforms, handled⟩ | ⟨platforms, peer, reports, handled⟩ :=
    ClusterRegistry.handle_fragment (platformAbi source) (platformAbi target) manifest inside
      foreign reported
  · rw [handled]
    refine consistent.update rfl (fun installed => ⟨installed, rfl⟩) (fun extension => ?_)
      (fun message member => .inl member)
    have old := (consistent.sound target).mono extension
    exact
      { fixed := fun installed => (old.fixed installed).congr rfl rfl rfl
        peers := old.peers
        failure := fun _ => ⟨source, .inl platforms⟩
        ready := fun ready => by simp [ClusterRegistry.reject] at ready }
  · rw [handled]
    refine consistent.update rfl (fun installed => by simpa using installed) (fun extension => ?_)
      (fun message member => .inl member)
    have old := (consistent.sound target).mono extension
    refine .checkLocked (by simp) (fun installed => (old.fixed installed).congr rfl rfl rfl) ?_
      old.failure (fun ready => ⟨(old.ready ready).1, (old.ready ready).2.1⟩)
    intro other
    by_cases same : other = source
    · subst same
      obtain ⟨installed_now, descriptors_eq⟩ := extension other installed
      intro _
      refine ⟨installed_now, platforms, ?_⟩
      rw [descriptors_eq]
      simpa using reports
    · simpa [same] using old.peers other

theorem consistent_of_reaches
    (execution : Run.Reaches (next platformAbi) (initial hosts Callable) after) :
    after.Consistent platformAbi := by
  refine execution.preserves (Consistent platformAbi) ?_ ?_
  · refine ⟨fun host => ⟨?_, ?_, ?_, ?_⟩, ?_⟩
    · simp [initial, ClusterRegistry.initial]
    · simp [initial, ClusterRegistry.initial, Truthful]
    · simp [initial, ClusterRegistry.initial]
    · simp [initial, ClusterRegistry.initial, ClusterRegistry.ReadyAgreed]
    · simp [initial]
  · intro state label after consistent _ performed
    cases label with
    | install host functions => exact consistent.install performed
    | deliver position => exact consistent.deliver performed

theorem Consistent.agreement {world : ManifestWorld hosts Callable} {localHost : Fin hosts}
    (consistent : world.Consistent platformAbi)
    (ready : (world.registries localHost).ready = true) (host : Fin hosts) :
    (world.registries host).installed = true ∧ platformAbi host = platformAbi localHost ∧
      (world.registries host).descriptors = (world.registries localHost).descriptors := by
  obtain ⟨-, installed, agreed⟩ := (consistent.sound localHost).ready ready
  by_cases same : host = localHost
  · subst same
    exact ⟨installed, rfl, rfl⟩
  · obtain ⟨seen, entries_eq⟩ := agreed host same
    obtain ⟨host_installed, platforms, reports⟩ := (consistent.sound localHost).peers host seen
    exact ⟨host_installed, platforms, reports.eq_of_entries seen entries_eq⟩

theorem Consistent.isOk_of_ready {world : ManifestWorld hosts Callable} {localHost : Fin hosts}
    (consistent : world.Consistent platformAbi)
    (ready : (world.registries localHost).ready = true) (host : Fin hosts) :
    (world.registries host).failure.isOk = true := by
  by_contra failed
  obtain ⟨other, platforms | ⟨-, -, differ⟩⟩ :=
    (consistent.sound host).failure (by simpa using failed)
  · rw [(consistent.agreement ready other).2.1, (consistent.agreement ready host).2.1] at platforms
    exact platforms rfl
  · rw [(consistent.agreement ready other).2.2, (consistent.agreement ready host).2.2] at differ
    exact differ rfl

end ManifestWorld

namespace ClusterRegistry

variable {hosts : Nat} {Callable : Type}

/-- The functions a registry offers, without their callbacks. -/
def manifest (registry : ClusterRegistry hosts Callable) : Set FunctionDescriptor :=
  { descriptor | ∃ function ∈ registry.functions, function.describe = descriptor }

theorem Fixed.manifest_eq {registry : ClusterRegistry hosts Callable} (fixed : registry.Fixed) :
    registry.manifest = { descriptor | descriptor ∈ registry.descriptors } := by
  ext descriptor
  simp [ClusterRegistry.manifest, fixed.descriptors_eq]

/-- What one registry resolves, another with the same manifest resolves as well. -/
theorem Fixed.resolve {registry other : ClusterRegistry hosts Callable} (fixed : registry.Fixed)
    (other_fixed : other.Fixed) (same : other.descriptors = registry.descriptors)
    (success : other.failure.isOk = true) (installed : other.installed = true) {id : UInt64}
    {argumentBytes : Nat} {callable : Option Callable}
    (resolved : registry.resolve id argumentBytes true = .ok callable) :
    ∃ callback, other.resolve id argumentBytes false = .ok (some callback) := by
  rw [ClusterRegistry.resolve] at resolved
  split_ifs at resolved
  cases position : registry.byId.lookup id with
  | none => simp [position] at resolved
  | some index =>
      cases here : registry.functions[index]? with
      | none => simp [position, here] at resolved
      | some function =>
          simp only [position, here, Option.bind_some] at resolved
          split_ifs at resolved with size
          have position_other : other.byId.lookup id = some index := by
            rw [other_fixed.byId_eq, same, ← fixed.byId_eq, position]
          have described : (other.functions[index]?).map ClusterFunction.describe =
              some function.describe := by
            rw [← List.getElem?_map, ← other_fixed.descriptors_eq, same, fixed.descriptors_eq,
              List.getElem?_map, here, Option.map_some]
          obtain ⟨twin, there, twin_eq⟩ := Option.map_eq_some_iff.mp described
          have size_eq : twin.argumentBytes = function.argumentBytes :=
            congrArg FunctionDescriptor.argumentBytes twin_eq
          obtain ⟨callback, bound⟩ := Option.isSome_iff_exists.mp
            (ClusterFunction.valid_describe
              (other_fixed.valid twin (List.mem_of_getElem? there))).2
          refine ⟨callback, ?_⟩
          simp only [not_not] at size
          simp [ClusterRegistry.resolve, success, installed, position_other, there, size, size_eq,
            bound]

end ClusterRegistry

namespace ManifestWorld

variable {hosts : Nat} {Callable : Type} {platformAbi : Fin hosts → Nat}

/-- When `Wait` succeeds on one host, every host has installed the same manifest and resolves what
that host resolves. -/
theorem wait_agrees {world : ManifestWorld hosts Callable} {localHost : Fin hosts}
    {timeoutMs : Nat} {expired : Bool} {status : Status}
    (execution : Run.Reaches (next platformAbi) (initial hosts Callable) world)
    (returned : (world.registries localHost).wait timeoutMs expired = some status)
    (success : status.isOk = true) :
    (∀ host, (world.registries host).installed = true) ∧
      (∀ host, (world.registries host).manifest = (world.registries localHost).manifest) ∧
      ∀ id argumentBytes callable,
        (world.registries localHost).resolve id argumentBytes true = .ok callable →
          ∀ host, ∃ callback,
            (world.registries host).resolve id argumentBytes false = .ok (some callback) := by
  have consistent := consistent_of_reaches execution
  have ready : (world.registries localHost).ready = true := by
    rw [ClusterRegistry.wait] at returned
    split_ifs at returned with invalid absent decided
    all_goals
      obtain rfl := Option.some.inj returned
    · simp at success
    · simp at success
    · simpa [success] using decided
    · simp at success
  have agreement := consistent.agreement ready
  have fixed := fun host => (consistent.sound host).fixed (agreement host).1
  refine ⟨fun host => (agreement host).1, fun host => ?_, ?_⟩
  · rw [(fixed host).manifest_eq, (fixed localHost).manifest_eq, (agreement host).2.2]
  · intro id argumentBytes callable resolved host
    exact (fixed localHost).resolve (fixed host) (agreement host).2.2
      (consistent.isOk_of_ready ready host) (agreement host).1 resolved

def oneByteFunction (byte : UInt8) (identity : Nat) : ClusterFunction Unit :=
  ⟨[byte], 1, 8, 5, identity, some ()⟩

/-- Two hosts register the same two functions in different orders; one fragment arrives before its
receiver has registered, and again afterwards. -/
def exchangeOps : List (ManifestOp 2 Unit) :=
  [.install 0 [oneByteFunction 97 1, oneByteFunction 98 2], .deliver 1,
    .install 1 [oneByteFunction 98 7, oneByteFunction 97 8], .deliver 2, .deliver 1, .deliver 3]

theorem wait_agrees_exchange :
    ∃ world, Run.runLabels (next fun _ => 1) (initial 2 Unit) exchangeOps = some world ∧
      (world.registries 0).wait 1000 false = some .ok ∧ (world.registries 1).ready = false ∧
      ∀ host, ∃ callback,
        (world.registries host).resolve (functionId [98]) 8 false = .ok (some callback) := by
  have outcome : (Run.runLabels (next fun _ => 1) (initial 2 Unit) exchangeOps).any (fun world =>
      (world.registries 0).wait 1000 false = some .ok ∧ (world.registries 1).ready = false ∧
        (match (world.registries 0).resolve (functionId [98]) 8 true with
          | .ok _ => true
          | .error _ => false) = true) = true := by
    decide +kernel
  obtain ⟨world, execution, facts⟩ := (Option.any_eq_true _ _).mp outcome
  obtain ⟨returned, waiting, resolves⟩ := of_decide_eq_true facts
  obtain ⟨-, -, resolved⟩ := wait_agrees (Run.reaches_of_runLabels execution) returned rfl
  refine ⟨world, execution, returned, waiting, fun host => ?_⟩
  cases result : (world.registries 0).resolve (functionId [98]) 8 true with
  | error status => simp [result] at resolves
  | ok callable => exact resolved _ _ callable result host

end ManifestWorld
end Cxloom.LoomPar
