import JupiterSuite.Base.OrderedMap
import JupiterSuite.Historian.CommitmentIndexer
import Mathlib.Data.List.Sort

/-! What the historian keeps of each canister: why it is tracked, its commitments, what a probe
last told of it and its cycles. A history is the one in the heap or else the one in stable memory,
as the snapshots read it. -/

namespace JupiterSuite.Historian.Registry

open Base Memo

inductive CanisterTrackingReason where
  | memoCommitment
  | snsDiscovery
  | relayTarget
  | relayInstance
  deriving DecidableEq, Repr

/-- The reasons in the order in which a set of them is listed. -/
def allReasons : List CanisterTrackingReason :=
  [.memoCommitment, .snsDiscovery, .relayTarget, .relayInstance]

/-- A set of reasons with one more. -/
def insertReason (reasons : List CanisterTrackingReason) (add : CanisterTrackingReason) :
    List CanisterTrackingReason :=
  allReasons.filter fun reason => decide (reason = add ∨ reason ∈ reasons)

def mergeTrackingReasons (existing : Option (List CanisterTrackingReason))
    (add : CanisterTrackingReason) : List CanisterTrackingReason :=
  insertReason (existing.getD []) add

inductive CyclesSampleSource where
  | selfCanister
  | directCanisterStatus
  | blackholeStatus
  | nnsRootStatus
  | snsRootStatus
  | snsSwapStatus
  deriving DecidableEq, Repr

inductive CyclesProbeResult where
  | ok (source : CyclesSampleSource)
  | error (message : String)
  deriving DecidableEq, Repr

structure CanisterMeta where
  firstSeenTs : Option Nat
  lastCommitmentTs : Option Nat
  lastCyclesProbeTs : Option Nat
  lastCyclesProbeResult : Option CyclesProbeResult
  deriving DecidableEq, Repr

def CanisterMeta.default : CanisterMeta := ⟨none, none, none, none⟩

structure CommitmentSample where
  txId : Nat
  timestampNanos : Option Nat
  amountE8s : Nat
  countsTowardFaucet : Bool
  rawIcpDestinationSubaccount : Option (List UInt8)
  deriving DecidableEq, Repr

structure CyclesSample where
  timestampNanos : Nat
  cycles : Nat
  source : CyclesSampleSource
  deriving DecidableEq, Repr

inductive CyclesProbeRoute where
  | directCanisterStatus
  | blackhole (canisterId : Principal)
  | nnsRoot
  | snsRoot (rootCanisterId : Principal)
  | snsSwap (rootCanisterId swapCanisterId : Principal)
  deriving DecidableEq, Repr

structure MemoRegisteredCanisterSummary where
  canisterId : Principal
  trackingReasons : List CanisterTrackingReason
  qualifyingCommitmentCount : Nat
  totalQualifyingCommittedE8s : Nat
  lastCommitmentTs : Option Nat
  latestCycles : Option Nat
  lastCyclesProbeTs : Option Nat
  deriving DecidableEq, Repr

def maxCommitmentEntriesPerCanisterHardCap : Nat := 250

def maxCyclesEntriesPerCanisterHardCap : Nat := 250

def maxCanistersPerCyclesTickHardCap : Nat := 500

def maxInitialCyclesProbeQueue : Nat := 256

structure RegistryConfig where
  maxCyclesEntriesPerCanister : Nat
  maxCommitmentEntriesPerCanister : Nat
  maxCanistersPerCyclesTick : Nat
  cyclesIntervalSeconds : Nat
  scanIntervalSeconds : Nat
  canonicalRelayCanisterId : Option Principal
  canonicalRelayTargets : List Principal
  deriving DecidableEq, Repr

/-- `clamp` between one and a hard cap. -/
def clampEntries (value hardCap : Nat) : Nat := min (max value 1) hardCap

def clampConfig (config : RegistryConfig) : RegistryConfig :=
  { config with
    maxCyclesEntriesPerCanister :=
      clampEntries config.maxCyclesEntriesPerCanister maxCyclesEntriesPerCanisterHardCap
    maxCommitmentEntriesPerCanister :=
      clampEntries config.maxCommitmentEntriesPerCanister maxCommitmentEntriesPerCanisterHardCap
    maxCanistersPerCyclesTick :=
      clampEntries config.maxCanistersPerCyclesTick maxCanistersPerCyclesTickHardCap }

structure RegistryState where
  config : RegistryConfig
  distinctCanisters : OrderedMap Principal Unit
  canisterTrackingReasons : OrderedMap Principal (List CanisterTrackingReason)
  commitmentHistory : OrderedMap Principal (List CommitmentSample)
  rawIcpCommitmentHistory : OrderedMap Principal (List CommitmentSample)
  neuronCommitmentHistory : OrderedMap Nat (List CommitmentSample)
  commitmentRouteRollups : KeyedMap CommitmentRouteKey CommitmentRouteRollup
  cyclesHistory : OrderedMap Principal (List CyclesSample)
  perCanisterMeta : OrderedMap Principal CanisterMeta
  cachedCyclesProbeRoutes : OrderedMap Principal CyclesProbeRoute
  initialCyclesProbeQueue : List Principal
  summariesCache : Option (OrderedMap Principal MemoRegisteredCanisterSummary)
  totalDescIndex : Option (List Principal)
  deriving DecidableEq

def RegistryState.new (config : RegistryConfig) : RegistryState where
  config := config
  distinctCanisters := .empty
  canisterTrackingReasons := .empty
  commitmentHistory := .empty
  rawIcpCommitmentHistory := .empty
  neuronCommitmentHistory := .empty
  commitmentRouteRollups := .empty
  cyclesHistory := .empty
  perCanisterMeta := .empty
  cachedCyclesProbeRoutes := .empty
  initialCyclesProbeQueue := []
  summariesCache := some .empty
  totalDescIndex := some []

/-! ## Histories -/

/-- `sort_unstable_by_key`: the ids of a history are distinct. -/
def sortByTxId (history : List CommitmentSample) : List CommitmentSample :=
  history.insertionSort fun first second => first.txId ≤ second.txId

def pruneVec {α : Type} (history : List α) (maxEntries : Nat) : List α :=
  if maxEntries = 0 then [] else history.drop (history.length - maxEntries)

/-- The binary search of the sorted history finds the id or the place to insert it. -/
def pushCommitment (history : List CommitmentSample) (sample : CommitmentSample)
    (maxEntries : Nat) : List CommitmentSample × Bool :=
  let sorted := sortByTxId history
  if sorted.any fun item => decide (item.txId = sample.txId) then (sorted, false)
  else
    let older := sorted.takeWhile fun item => decide (item.txId < sample.txId)
    let newer := sorted.dropWhile fun item => decide (item.txId < sample.txId)
    (pruneVec (older ++ sample :: newer) maxEntries, true)

def pushCyclesSample (history : List CyclesSample) (sample : CyclesSample) (maxEntries : Nat) :
    List CyclesSample × Bool :=
  if history.getLast?.any fun existing =>
      decide (existing.timestampNanos = sample.timestampNanos) then (history, false)
  else (pruneVec (history ++ [sample]) maxEntries, true)

/-- `max_by_key`: the last of the samples with the greatest time. -/
def latestCycles (history : List CyclesSample) : Option Nat :=
  let latest := history.foldl (fun best item =>
    match best with
    | none => some item
    | some other => if other.timestampNanos ≤ item.timestampNanos then some item else best) none
  latest.map CyclesSample.cycles

def applyCyclesProbeResult (known : CanisterMeta) (timestampNanos : Nat)
    (result : CyclesProbeResult) : CanisterMeta :=
  { known with
    lastCyclesProbeTs := some (timestampNanos / nanosPerSecond)
    lastCyclesProbeResult := some result }

def applyCommitmentSeen (known : CanisterMeta) (timestampNanos : Option Nat) (nowSecs : Nat) :
    CanisterMeta :=
  let observedTs := (timestampNanos.map (· / nanosPerSecond)).getD nowSecs
  { known with
    firstSeenTs := known.firstSeenTs.or (some nowSecs)
    lastCommitmentTs := some ((known.lastCommitmentTs.map (max · observedTs)).getD observedTs) }

namespace RegistryState

variable (st : RegistryState)

def commitmentHistorySnapshot (canisterId : Principal) : List CommitmentSample :=
  sortByTxId ((st.commitmentHistory.lookup canisterId).getD [])

def cyclesHistorySnapshot (canisterId : Principal) : List CyclesSample :=
  (st.cyclesHistory.lookup canisterId).getD []

def getCommitmentRouteRollup (key : CommitmentRouteKey) : CommitmentRouteRollup :=
  (st.commitmentRouteRollups.lookup key).getD ⟨0, 0⟩

def memoSourceIsRegistered (canisterId : Principal) (sources : List CanisterTrackingReason) :
    Bool :=
  sources.contains .memoCommitment &&
    (st.commitmentHistorySnapshot canisterId).any CommitmentSample.countsTowardFaucet

def withoutMemo (sources : List CanisterTrackingReason) : List CanisterTrackingReason :=
  sources.filter fun reason => decide (reason ≠ .memoCommitment)

def visibleTrackingReasonsForCanister (canisterId : Principal) :
    Option (List CanisterTrackingReason) :=
  match st.canisterTrackingReasons.lookup canisterId with
  | none => none
  | some sources =>
      let visible :=
        if st.memoSourceIsRegistered canisterId sources then sources else withoutMemo sources
      if visible.isEmpty then none else some visible

def memoRegisteredCanisterSummaryFor (canisterId : Principal) :
    Option MemoRegisteredCanisterSummary :=
  match st.visibleTrackingReasonsForCanister canisterId with
  | none => none
  | some trackingReasons =>
      let history := st.commitmentHistorySnapshot canisterId
      if history.isEmpty then none
      else
        (CommitmentRouteKey.fromIndexed (.cyclesTopUp canisterId)).map fun key =>
          let rollup := st.getCommitmentRouteRollup key
          let retainedLastTs := (history.filter CommitmentSample.countsTowardFaucet).filterMap
            (fun item => item.timestampNanos.map (· / nanosPerSecond)) |>.max?
          let known := (st.perCanisterMeta.lookup canisterId).getD .default
          { canisterId := canisterId
            trackingReasons := trackingReasons
            qualifyingCommitmentCount := rollup.qualifyingCommitmentCount
            totalQualifyingCommittedE8s := rollup.totalQualifyingCommittedE8s
            lastCommitmentTs := known.lastCommitmentTs.or retainedLastTs
            latestCycles := latestCycles (st.cyclesHistorySnapshot canisterId)
            lastCyclesProbeTs := known.lastCyclesProbeTs }

end RegistryState

end JupiterSuite.Historian.Registry
