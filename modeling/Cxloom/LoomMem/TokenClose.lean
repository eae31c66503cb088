import Cxloom.LoomMem.TokenFrame

/-!
# The token service of an object that retires

The part of `TokenService` that starts and ends the life of an object: a host registers the blocks
that it allocated, closes an object that retires, and forgets its blocks.
-/

namespace Cxloom.LoomMem

variable {cluster : Cluster}

/-- The object that a token message is about.  All kinds carry it at the same place. -/
def Packet.object : Packet cluster → Option GlobalPointer
  | .request message => some message.key.object
  | .grant message => some message.key.object
  | .reject message => some message.key.object
  | .cancel message => some message.key.object
  | .cancelAck message => some message.key.object
  | .application => none

namespace TokenState

/-- `MutableDescriptor`. -/
def mutableDescriptor (state : TokenState cluster) (object : GlobalPointer)
    (allowRetiring : Bool) : Status :=
  let descriptor := state.descriptor object
  if object.regionId ≠ 0 ∨ object.offset = 0 then
    .invalidArgument "invalid allocation address"
  else if descriptor.state = .empty then
    .notFound "address has no accessible allocation slot"
  else if descriptor.state ≠ .allocated ∧ ¬(allowRetiring ∧ descriptor.state = .retiring) then
    .notFound "global pointer is not an accessible allocation base"
  else
    .ok

/-- The loop of `RegisterAllocation` over blocks of an object. -/
def registerBlocks (host : cluster.Host) (object : GlobalPointer) :
    List Nat → TokenState cluster → Status × TokenState cluster
  | [], state => (.ok, state)
  | index :: rest, state =>
      let key : BlockKey := ⟨object, index⟩
      let found := state.target host key false
      if ¬found.isOk then
        (found, state)
      else if (state.block key).tokenOwner ≠ host then
        (.failedPrecondition
          "new allocation block token is not owned by the allocating host", state)
      else
        registerBlocks host object rest
          (state.setLocal host key { state.localObject host key with available := true })

/-- `RegisterAllocation`. -/
def registerAllocation (state : TokenState cluster) (host : cluster.Host)
    (object : GlobalPointer) : Status × TokenState cluster :=
  let found := state.mutableDescriptor object false
  if ¬found.isOk then (found, state)
  else registerBlocks host object
    (List.range (state.descriptor object).coherenceBlockCount) state

/-! ## Closing -/

def dropWaiters (state : TokenState cluster) (host : cluster.Host) (object : GlobalPointer) :
    TokenState cluster :=
  let service := state.service host
  state.setService host
    { service with
      waiters := fun requestId =>
        (service.waiters requestId).filter fun waiter => waiter.object ≠ object }

def unclaimed (state : TokenState cluster) (host : cluster.Host) (object : GlobalPointer)
    (order : List Nat) : List TokenLease :=
  order.filterMap fun requestId =>
    (state.waiter host requestId).bind fun waiter =>
      if waiter.object = object ∧ waiter.state = .granted then some waiter.lease else none

/-- Release leases until a release fails. -/
def releaseAll (host : cluster.Host) :
    List TokenLease → TokenState cluster → Bool × TokenState cluster
  | [], state => (true, state)
  | lease :: rest, state =>
      let released := state.release host lease false
      if released.1.isOk then releaseAll host rest released.2 else (false, released.2)

/-- Drop the pending requests and the deferred packets of an object. -/
def withdraw (state : TokenState cluster) (host : cluster.Host) (object : GlobalPointer) :
    TokenState cluster :=
  let service := state.service host
  let count := (state.descriptor object).coherenceBlockCount
  state.setService host
    { service with
      objects := fun key =>
        if key.object = object ∧ key.blockIndex < count then
          { service.objects key with pending := [] }
        else service.objects key
      outbound := fun destination =>
        (service.outbound destination).filter fun packet => packet.object ≠ some object }

section Withdraw

variable (state : TokenState cluster) (host other : cluster.Host) (object : GlobalPointer)

@[simp] theorem dropWaiters_waiter (requestId : Nat) :
    (state.dropWaiters host object).waiter other requestId =
      if other = host then
        (state.waiter other requestId).filter fun waiter => waiter.object ≠ object
      else state.waiter other requestId := by
  by_cases same : other = host <;> simp [dropWaiters, waiter, same]

@[simp] theorem dropWaiters_localObject (key : BlockKey) :
    (state.dropWaiters host object).localObject other key = state.localObject other key := by
  by_cases same : other = host <;> simp [dropWaiters, localObject, same]

@[simp] theorem dropWaiters_outbound (destination : cluster.Host) :
    (state.dropWaiters host object).outbound other destination =
      state.outbound other destination := by
  by_cases same : other = host <;> simp [dropWaiters, outbound, same]

@[simp] theorem withdraw_waiter (requestId : Nat) :
    (state.withdraw host object).waiter other requestId = state.waiter other requestId := by
  by_cases same : other = host <;> simp [withdraw, waiter, same]

@[simp] theorem withdraw_localObject (key : BlockKey) :
    (state.withdraw host object).localObject other key =
      if other = host ∧ key.object = object ∧
          key.blockIndex < (state.descriptor object).coherenceBlockCount then
        { state.localObject other key with pending := [] }
      else state.localObject other key := by
  by_cases same : other = host <;> simp [withdraw, localObject, same]

@[simp] theorem withdraw_outbound (destination : cluster.Host) :
    (state.withdraw host object).outbound other destination =
      if other = host then
        (state.outbound other destination).filter fun packet => packet.object ≠ some object
      else state.outbound other destination := by
  by_cases same : other = host <;> simp [withdraw, outbound, same]

end Withdraw

def holdsBlock (state : TokenState cluster) (host : cluster.Host) (object : GlobalPointer) : Bool :=
  (List.range (state.descriptor object).coherenceBlockCount).any fun index =>
    (state.localObject host ⟨object, index⟩).held

/-- `CloseObject`, which visits the waiters in the order of their table. -/
def closeObject (state : TokenState cluster) (host : cluster.Host) (object : GlobalPointer)
    (order : List Nat) : Bool × TokenState cluster :=
  let released := releaseAll host (state.unclaimed host object order)
    (state.dropWaiters host object)
  if released.1 = false then
    released
  else if ¬(released.2.mutableDescriptor object true).isOk then
    (false, released.2)
  else
    (!released.2.holdsBlock host object &&
        (released.2.descriptor object).activeOperations host = 0,
      released.2.withdraw host object)

/-- `ForgetAllocation`. -/
def forgetAllocation (state : TokenState cluster) (host : cluster.Host) (object : GlobalPointer) :
    TokenState cluster :=
  let service := state.service host
  let count := (state.descriptor object).coherenceBlockCount
  state.setService host
    { service with
      objects := fun key =>
        if key.object = object ∧ key.blockIndex < count then .fresh else service.objects key }

section Forget

variable (state : TokenState cluster) (host other : cluster.Host) (object : GlobalPointer)

@[simp] theorem forgetAllocation_waiter (requestId : Nat) :
    (state.forgetAllocation host object).waiter other requestId = state.waiter other requestId := by
  by_cases same : other = host <;> simp [forgetAllocation, waiter, same]

@[simp] theorem forgetAllocation_localObject (key : BlockKey) :
    (state.forgetAllocation host object).localObject other key =
      if other = host ∧ key.object = object ∧
          key.blockIndex < (state.descriptor object).coherenceBlockCount then .fresh
      else state.localObject other key := by
  by_cases same : other = host <;> simp [forgetAllocation, localObject, same]

@[simp] theorem forgetAllocation_outbound (destination : cluster.Host) :
    (state.forgetAllocation host object).outbound other destination =
      state.outbound other destination := by
  by_cases same : other = host <;> simp [forgetAllocation, outbound, same]

end Forget

end TokenState
end Cxloom.LoomMem
