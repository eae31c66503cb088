import Cxloom.Common
import Cxloom.Common.Condition
import Cxloom.Bytes
import Cxloom.HostMask
import Cxloom.Run
import Cxloom.LoomMem.Token
import Cxloom.LoomMem.TokenFrame
import Cxloom.LoomMem.TokenRun
import Cxloom.LoomMem.TokenCycle
import Cxloom.LoomMem.TokenServe
import Cxloom.LoomMem.TokenStale
import Cxloom.LoomMem.TokenExclusion
import Cxloom.LoomMem.TokenPlaces
import Cxloom.LoomMem.TokenRequests
import Cxloom.LoomMem.TokenCancellation
import Cxloom.LoomMem.TokenProgress
import Cxloom.LoomMem.QueueFifo
import Cxloom.LoomMem.QueueSaturation
import Cxloom.LoomMem.Poller
import Cxloom.LoomPar.Barrier
import Cxloom.LoomPar.BarrierSafety
import Cxloom.LoomPar.BarrierUse
import Cxloom.LoomPar.BarrierFailure
import Cxloom.LoomPar.Migration
import Cxloom.LoomPar.ClusterRegistry
import Cxloom.LoomPar.ManifestAgreement
import Cxloom.LoomPar.ManifestRendezvous
import Cxloom.LoomPar.MessageHandling
import Cxloom.Census
import Cxloom.LoomPar.Threading
import Cxloom.LoomPar.ThreadRuntime
import Cxloom.LoomPar.ThreadAccounts
import Cxloom.LoomPar.ThreadTrace
import Cxloom.LoomPar.RemoteThreads
import Cxloom.LoomMem.Coherence
import Cxloom.LoomMem.CoherenceStable
import Cxloom.LoomMem.CoherenceFresh
import Cxloom.LoomMem.TokenBlocks
import Cxloom.LoomMem.TokenPassive
import Cxloom.LoomMem.WriteBuffer
import Cxloom.LoomMem.WriteBufferUpdates
import Cxloom.Api.Condition
import Cxloom.Api.ConditionBits
import Cxloom.Api.ConditionSignals
import Cxloom.Api.Mutex
import Cxloom.Api.MutexGates
import Cxloom.Api.MutexLeases
import Cxloom.Api.MutexExclusion
import Cxloom.LoomMem.CoherenceSnapshots
import Cxloom.LoomMem.CoherenceBuffers
import Cxloom.LoomPar.BarrierRounds
import Cxloom.LoomPar.BarrierPublication
import Cxloom.LoomPar.BarrierVisibility
import Cxloom.Extent
import Cxloom.LinkedList
import Cxloom.Words
import Cxloom.Memory
import Cxloom.LoomMem.ExtentPools
import Cxloom.LoomMem.ExtentBins
import Cxloom.LoomMem.ExtentSearch
import Cxloom.LoomMem.ExtentLists
import Cxloom.LoomMem.ExtentAllocation
import Cxloom.LoomMem.ExtentRelease
import Cxloom.LoomMem.Allocator
import Cxloom.LoomMem.AllocatorDescriptors
import Cxloom.LoomMem.AllocatorSteps
import Cxloom.LoomMem.AllocatorLedger
import Cxloom.LoomMem.AllocatorStorage
import Cxloom.LoomMem.AllocatorPools
import Cxloom.LoomMem.AllocatorRequests
import Cxloom.LoomMem.AllocatorReclaim
import Cxloom.LoomMem.AllocatorForgery
import Cxloom.LoomMem.RetirementTrace
import Cxloom.LoomMem.RetirementCertificate
import Cxloom.LoomMem.ReplicaCache
import Cxloom.LoomMem.ReplicaBookkeeping
import Cxloom.LoomMem.ReplicaSharing
import Cxloom.LoomMem.TokenClose
import Cxloom.LoomMem.TokenConfined
import Cxloom.LoomMem.Reclamation
import Cxloom.LoomMem.ReclamationInvariant
import Cxloom.LoomMem.ReclamationSteps
import Cxloom.LoomMem.ReclamationPolling
import Cxloom.LoomMem.ReclamationSafety
import Cxloom.PinnedSlots
import Cxloom.Rotation
import Cxloom.LoomPar.Scheduler
import Cxloom.LoomPar.SchedulerFairness
import Cxloom.LoomMem.ExtentNodes
import Cxloom.LoomPar.ThreadLifecycle
import Cxloom.LoomMem.ReadRange
import Cxloom.LoomMem.RangeCommit
import Cxloom.Common.ExecutionContext
import Cxloom.LoomMem.StagedWrites
import Cxloom.LoomMem.StagedLedger
import Cxloom.LoomMem.Discovery
import Cxloom.LoomMem.DiscoverySafety
import Cxloom.LoomMem.DiscoveryReuse
import Cxloom.PairTable
import Cxloom.LoomMem.QueueRegion
import Cxloom.LoomMem.QueueLayout
import Cxloom.LoomMem.QueueConsistency
import Cxloom.LoomMem.QueueCapacity
import Cxloom.ReadyQueue
import Cxloom.LoomPar.WorkerPool
import Cxloom.LoomPar.WorkerPoolInvariant
import Cxloom.LoomPar.WorkerPoolExecution
import Cxloom.LoomPar.WorkerPoolCompletion
import Cxloom.LoomPar.WorkerPoolFairness
import Cxloom.WriteBackCache
import Cxloom.LoomMem.Visibility
import Cxloom.LoomMem.CachedQueue
import Cxloom.LoomMem.CachedQueueLines
import Cxloom.LoomMem.CachedQueueCoherence
import Cxloom.LoomMem.CachedQueueSafety
import Cxloom.LoomMem.Bootstrap
import Cxloom.LoomMem.BootstrapInvariant
import Cxloom.LoomMem.BootstrapAgreement
