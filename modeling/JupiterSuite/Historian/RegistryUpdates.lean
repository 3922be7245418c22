import JupiterSuite.Historian.SummaryIndex

/-! What writes the registry: commitments, probes, the registrations of SNS and Relay canisters,
and the normalization of an upgrade. -/

namespace JupiterSuite.Historian.Registry

open Base Memo

namespace RegistryState

variable (st : RegistryState)

def enqueueInitialCyclesProbe (canisterId : Principal) : RegistryState :=
  if st.initialCyclesProbeQueue.contains canisterId then st
  else if maxInitialCyclesProbeQueue ≤ st.initialCyclesProbeQueue.length then st
  else { st with initialCyclesProbeQueue := st.initialCyclesProbeQueue ++ [canisterId] }

def updateMeta (canisterId : Principal) (change : CanisterMeta → CanisterMeta) : RegistryState :=
  { st with
    perCanisterMeta := st.perCanisterMeta.update canisterId fun known =>
      change (known.getD .default) }

def metaOf (canisterId : Principal) : CanisterMeta :=
  (st.perCanisterMeta.lookup canisterId).getD .default

def lastCyclesProbeTs (canisterId : Principal) : Option Nat :=
  (st.metaOf canisterId).lastCyclesProbeTs

def track (canisterId : Principal) (reason : CanisterTrackingReason) : RegistryState :=
  { st with
    distinctCanisters := st.distinctCanisters.insert canisterId ()
    canisterTrackingReasons := st.canisterTrackingReasons.update canisterId fun existing =>
      mergeTrackingReasons existing reason }

def incrementCommitmentRouteRollup (key : Option CommitmentRouteKey) (amountE8s : Nat) :
    RegistryState :=
  match key with
  | none => st
  | some key => { st with
      commitmentRouteRollups := st.commitmentRouteRollups.update key
        (Historian.incrementCommitmentRouteRollup amountE8s) }

def commitmentSample (commitment : IndexedCommitment) (timestampNanos : Option Nat)
    (subaccount : Option (List UInt8)) : CommitmentSample where
  txId := commitment.txId
  timestampNanos := timestampNanos
  amountE8s := commitment.amountE8s
  countsTowardFaucet := true
  rawIcpDestinationSubaccount := subaccount

def countNewCommitment (canisterId : Principal) (commitment : IndexedCommitment)
    (timestampNanos : Option Nat) (nowSecs : Nat) : RegistryState :=
  let st := st.incrementCommitmentRouteRollup (CommitmentRouteKey.fromIndexed commitment.target)
    commitment.amountE8s
  let needsInitialCyclesProbe := (st.lastCyclesProbeTs canisterId).isNone
  let st := st.updateMeta canisterId fun known => applyCommitmentSeen known timestampNanos nowSecs
  if needsInitialCyclesProbe then st.enqueueInitialCyclesProbe canisterId else st

def applyVerifiedQualifyingCommitment (commitment : IndexedCommitment)
    (timestampNanos : Option Nat) (nowSecs : Nat) : RegistryState :=
  match commitment.target with
  | .cyclesTopUp canisterId =>
      let st := st.track canisterId .memoCommitment
      let pushed := pushCommitment ((st.commitmentHistory.lookup canisterId).getD [])
        (commitmentSample commitment timestampNanos none)
        st.config.maxCommitmentEntriesPerCanister
      let st := { st with
        commitmentHistory := st.commitmentHistory.insert canisterId pushed.1 }
      let st :=
        if pushed.2 then st.countNewCommitment canisterId commitment timestampNanos nowSecs
        else st
      st.refreshMemoRegisteredCanisterSummary canisterId
  | _ => st

def applyRecentRawOrNeuronCommitment (commitment : IndexedCommitment)
    (timestampNanos : Option Nat) : RegistryState :=
  let maxEntries := st.config.maxCommitmentEntriesPerCanister
  let rollup := fun (st : RegistryState) (inserted : Bool) =>
    if inserted then
      st.incrementCommitmentRouteRollup (CommitmentRouteKey.fromIndexed commitment.target)
        commitment.amountE8s
    else st
  if !commitment.countsTowardFaucet then st
  else
    match commitment.target with
    | .cyclesTopUp _ => st
    | .rawIcp canisterId destinationSubaccount _ =>
        let pushed := pushCommitment ((st.rawIcpCommitmentHistory.lookup canisterId).getD [])
          (commitmentSample commitment timestampNanos destinationSubaccount) maxEntries
        rollup { st with
          rawIcpCommitmentHistory := st.rawIcpCommitmentHistory.insert canisterId pushed.1 }
          pushed.2
    | .neuronStake neuronId _ =>
        let pushed := pushCommitment ((st.neuronCommitmentHistory.lookup neuronId).getD [])
          (commitmentSample commitment timestampNanos none) maxEntries
        rollup { st with
          neuronCommitmentHistory := st.neuronCommitmentHistory.insert neuronId pushed.1 }
          pushed.2

/-- What `apply_indexed_commitment_tx` does with a valid commitment. -/
def applyIndexedCommitment (commitment : IndexedCommitment) (timestampNanos : Option Nat)
    (nowSecs : Nat) : RegistryState :=
  match commitment.target with
  | .cyclesTopUp _ =>
      if commitment.countsTowardFaucet then
        st.applyVerifiedQualifyingCommitment commitment timestampNanos nowSecs
      else st
  | _ => st.applyRecentRawOrNeuronCommitment commitment timestampNanos

def registerSnsMember (nowSecs : Nat) (canisterId : Principal) : RegistryState :=
  let st := st.track canisterId .snsDiscovery
  let st := st.updateMeta canisterId fun known =>
    { known with firstSeenTs := known.firstSeenTs.or (some nowSecs) }
  let st :=
    if (st.lastCyclesProbeTs canisterId).isNone then st.enqueueInitialCyclesProbe canisterId
    else st
  st.refreshMemoRegisteredCanisterSummary canisterId

def registerSnsMembership (canisterIds : List Principal) (nowSecs : Nat) : RegistryState :=
  canisterIds.foldl (fun st canisterId => st.registerSnsMember nowSecs canisterId) st

def trackRelay (canisterId : Principal) (reason : CanisterTrackingReason)
    (nowSecs : Option Nat) : RegistryState :=
  let st := st.track canisterId reason
  let st := st.updateMeta canisterId fun known =>
    { known with firstSeenTs := known.firstSeenTs.or nowSecs }
  if (st.cyclesHistorySnapshot canisterId).isEmpty && (st.lastCyclesProbeTs canisterId).isNone then
    st.enqueueInitialCyclesProbe canisterId
  else st

def markActiveRelayTracked (target relayId : Principal) (nowSecs : Option Nat) : RegistryState :=
  let st := (st.trackRelay target .relayTarget nowSecs).trackRelay relayId .relayInstance nowSecs
  (st.refreshMemoRegisteredCanisterSummary target).refreshMemoRegisteredCanisterSummary relayId

def ensureCanonicalRelayTracking : RegistryState :=
  match st.config.canonicalRelayCanisterId with
  | none => st
  | some relayCanisterId => st.config.canonicalRelayTargets.foldl
      (fun st target => st.markActiveRelayTracked target relayCanisterId none) st

/-! ## Probes -/

inductive CyclesProbeOutcome where
  | ok (cycles : Nat) (route : Option CyclesProbeRoute)
  | err (message : String)
  deriving DecidableEq, Repr

def cyclesSampleSourceForRoute : Option CyclesProbeRoute → CyclesSampleSource
  | none => .selfCanister
  | some .directCanisterStatus => .directCanisterStatus
  | some (.blackhole _) => .blackholeStatus
  | some .nnsRoot => .nnsRootStatus
  | some (.snsRoot _) => .snsRootStatus
  | some (.snsSwap _ _) => .snsSwapStatus

def recordCyclesProbe (timestampNanos nowSecs : Nat) (canisterId : Principal)
    (maxEntries : Nat) : CyclesProbeOutcome → RegistryState
  | .ok cycles route =>
      let source := cyclesSampleSourceForRoute route
      let pushed := pushCyclesSample (st.cyclesHistorySnapshot canisterId)
        ⟨timestampNanos, cycles, source⟩ maxEntries
      let st := { st with
        cachedCyclesProbeRoutes :=
          match route with
          | some route => st.cachedCyclesProbeRoutes.insert canisterId route
          | none => st.cachedCyclesProbeRoutes.erase canisterId
        cyclesHistory := st.cyclesHistory.insert canisterId pushed.1 }
      let st := st.updateMeta canisterId fun known =>
        let known := { known with firstSeenTs := known.firstSeenTs.or (some nowSecs) }
        if pushed.2 then applyCyclesProbeResult known timestampNanos (.ok source) else known
      st.refreshMemoRegisteredCanisterSummary canisterId
  | .err message =>
      let st := { st with
        cachedCyclesProbeRoutes := st.cachedCyclesProbeRoutes.erase canisterId }
      let st := st.updateMeta canisterId fun known =>
        applyCyclesProbeResult { known with firstSeenTs := known.firstSeenTs.or (some nowSecs) }
          timestampNanos (.error message)
      st.refreshMemoRegisteredCanisterSummary canisterId

def recordsCyclesProbe (timestampNanos : Nat) (canisterId : Principal) :
    CyclesProbeOutcome → Bool
  | .ok _ _ => !(st.cyclesHistorySnapshot canisterId).getLast?.any fun existing =>
      decide (existing.timestampNanos = timestampNanos)
  | .err _ => true

/-! ## Upgrades -/

/-- A canister that was tracked for a memo which was never registered. -/
def dropStaleMemoSource (entry : Principal × List CanisterTrackingReason) : RegistryState :=
  if (withoutMemo entry.2).isEmpty then
    { st with
      canisterTrackingReasons := st.canisterTrackingReasons.erase entry.1
      perCanisterMeta := st.perCanisterMeta.erase entry.1 }
  else
    { st with
      canisterTrackingReasons := st.canisterTrackingReasons.insert entry.1 (withoutMemo entry.2) }

def normalizeLastCommitment (canisterId : Principal) : RegistryState :=
  let historyLastTs := ((st.commitmentHistorySnapshot canisterId).filterMap fun item =>
    item.timestampNanos.map (· / nanosPerSecond)).max?
  match historyLastTs with
  | none => st
  | some last => st.updateMeta canisterId fun known =>
      { known with
        lastCommitmentTs := some ((known.lastCommitmentTs.map (max · last)).getD last) }

def normalizeDistinctCanisters : RegistryState :=
  let known := st.canisterTrackingReasons.keys ++ st.commitmentHistory.keys ++
    st.cyclesHistory.keys
  { st with
    distinctCanisters := known.foldl (fun distinct canisterId => distinct.insert canisterId ())
      .empty }

/-- The heap holds no history when an upgrade normalizes, so only what it reads off the snapshots
changes: canisters whose memo was never registered, the last commitments and the known set. -/
def normalizeRuntimeState : RegistryState :=
  let st := { st with config := clampConfig st.config }
  let stale := st.canisterTrackingReasons.entries.filter fun entry =>
    entry.2.contains .memoCommitment && !st.memoSourceIsRegistered entry.1 entry.2
  let st := stale.foldl dropStaleMemoSource st
  let st := st.perCanisterMeta.keys.foldl normalizeLastCommitment st
  st.normalizeDistinctCanisters.rebuildMemoRegisteredCanisterSummariesCache

structure RegistryUpgradeArgs where
  maxCyclesEntriesPerCanister : Option Nat
  maxCommitmentEntriesPerCanister : Option Nat
  maxCanistersPerCyclesTick : Option Nat
  cyclesIntervalSeconds : Option Nat
  scanIntervalSeconds : Option Nat
  canonicalRelayCanisterId : Option (Option Principal)
  canonicalRelayTargets : Option (List Principal)
  deriving DecidableEq, Repr

def upgradedConfig (config : RegistryConfig) (args : RegistryUpgradeArgs) : RegistryConfig where
  maxCyclesEntriesPerCanister :=
    (args.maxCyclesEntriesPerCanister.map
      (clampEntries · maxCyclesEntriesPerCanisterHardCap)).getD config.maxCyclesEntriesPerCanister
  maxCommitmentEntriesPerCanister :=
    (args.maxCommitmentEntriesPerCanister.map
      (clampEntries · maxCommitmentEntriesPerCanisterHardCap)).getD
      config.maxCommitmentEntriesPerCanister
  maxCanistersPerCyclesTick :=
    (args.maxCanistersPerCyclesTick.map (clampEntries · maxCanistersPerCyclesTickHardCap)).getD
      config.maxCanistersPerCyclesTick
  cyclesIntervalSeconds := args.cyclesIntervalSeconds.getD config.cyclesIntervalSeconds
  scanIntervalSeconds := args.scanIntervalSeconds.getD config.scanIntervalSeconds
  canonicalRelayCanisterId :=
    args.canonicalRelayCanisterId.getD config.canonicalRelayCanisterId
  canonicalRelayTargets := args.canonicalRelayTargets.getD config.canonicalRelayTargets

/-- The known set, the probe routes and the summaries are not kept across an upgrade. -/
def upgraded (args : RegistryUpgradeArgs) : Option RegistryState :=
  let restored := { st with
    config := upgradedConfig st.config args
    distinctCanisters := .empty
    cachedCyclesProbeRoutes := .empty
    summariesCache := none
    totalDescIndex := none }
  let st := (repairMemoRegisteredCanisterSummariesIfInvalid restored).normalizeRuntimeState
  let st := st.ensureCanonicalRelayTracking
  if st.config.scanIntervalSeconds = 0 ∨ st.config.cyclesIntervalSeconds = 0 then none
  else some st

/-- `init`: the canonical Relay is tracked before the state is normalized. -/
def installed (config : RegistryConfig) : RegistryState :=
  (RegistryState.new config).ensureCanonicalRelayTracking.normalizeRuntimeState

end RegistryState

end JupiterSuite.Historian.Registry
