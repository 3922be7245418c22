import JupiterSuite.Base.LazyLists
import JupiterSuite.Historian.CyclesProbes

/-! How the historian stores its histories: loaded into the heap by canister and neuron, written to
stable memory by section and scope, at once or when the outermost batch ends. -/

namespace JupiterSuite.Historian.Registry

open Base Memo

/-- The `DIRTY_*` bits. -/
structure Sections where
  root : Bool
  registry : Bool
  commitments : Bool
  cycles : Bool
  rawIcpCommitments : Bool
  neuronCommitments : Bool
  deriving DecidableEq, Repr

def Sections.none : Sections := ⟨false, false, false, false, false, false⟩

def Sections.all : Sections := ⟨true, true, true, true, true, true⟩

def Sections.union (left right : Sections) : Sections where
  root := left.root || right.root
  registry := left.registry || right.registry
  commitments := left.commitments || right.commitments
  cycles := left.cycles || right.cycles
  rawIcpCommitments := left.rawIcpCommitments || right.rawIcpCommitments
  neuronCommitments := left.neuronCommitments || right.neuronCommitments

/-- The keys that a write is about. A section without any is written whole. -/
structure Scopes where
  registry : List Principal
  commitments : List Principal
  cycles : List Principal
  rawIcpCommitments : List Principal
  neuronCommitments : List Nat
  deriving DecidableEq, Repr

def Scopes.none : Scopes := ⟨[], [], [], [], []⟩

def markDirty {κ : Type} [DecidableEq κ] (dirty keys : List κ) : List κ :=
  keys.foldl (fun dirty key => dirty.insert key) dirty

def Scopes.mark (dirty scopes : Scopes) : Scopes where
  registry := markDirty dirty.registry scopes.registry
  commitments := markDirty dirty.commitments scopes.commitments
  cycles := markDirty dirty.cycles scopes.cycles
  rawIcpCommitments := markDirty dirty.rawIcpCommitments scopes.rawIcpCommitments
  neuronCommitments := markDirty dirty.neuronCommitments scopes.neuronCommitments

structure HistoryHeap where
  config : RegistryConfig
  commitmentHistory : OrderedMap Principal (List CommitmentSample)
  cyclesHistory : OrderedMap Principal (List CyclesSample)
  rawIcpCommitmentHistory : OrderedMap Principal (List CommitmentSample)
  neuronCommitmentHistory : OrderedMap Nat (List CommitmentSample)
  deriving DecidableEq

def HistoryHeap.new (config : RegistryConfig) : HistoryHeap :=
  ⟨config, .empty, .empty, .empty, .empty⟩

/-- The stable maps of the histories; of the root, what it keeps of the configuration. -/
structure StableHistories where
  root : RegistryConfig
  commitments : StableLists Principal CommitmentSample
  cycles : StableLists Principal CyclesSample
  rawIcpCommitments : StableLists Principal CommitmentSample
  neuronCommitments : StableLists Nat CommitmentSample
  deriving DecidableEq

def syncHistory {κ α : Type} [LinearOrder κ] [DecidableEq α] (entryId : α → Nat)
    (loaded : OrderedMap κ (List α)) (stable : StableLists κ α) (scope : List κ) :
    StableLists κ α :=
  if scope.isEmpty then StableLists.syncAll entryId loaded
  else stable.syncKeys entryId loaded scope

def persistSnapshotSectionsScoped (heap : HistoryHeap) (stable : StableHistories)
    (dirtySections : Sections) (scopes : Scopes) : StableHistories where
  commitments :=
    if dirtySections.commitments then
      syncHistory CommitmentSample.txId heap.commitmentHistory stable.commitments
        scopes.commitments
    else stable.commitments
  cycles :=
    if dirtySections.cycles then
      syncHistory CyclesSample.timestampNanos heap.cyclesHistory stable.cycles scopes.cycles
    else stable.cycles
  rawIcpCommitments :=
    if dirtySections.rawIcpCommitments then
      syncHistory CommitmentSample.txId heap.rawIcpCommitmentHistory stable.rawIcpCommitments
        scopes.rawIcpCommitments
    else stable.rawIcpCommitments
  neuronCommitments :=
    if dirtySections.neuronCommitments then
      syncHistory CommitmentSample.txId heap.neuronCommitmentHistory stable.neuronCommitments
        scopes.neuronCommitments
    else stable.neuronCommitments
  root := if dirtySections.root then heap.config else stable.root

/-! ## Changes of the loaded histories -/

namespace HistoryHeap

variable (stable : StableHistories)

def applyVerifiedQualifyingCommitment (canisterId : Principal) (commitment : IndexedCommitment)
    (timestampNanos : Option Nat) (heap : HistoryHeap) : HistoryHeap :=
  let loaded := ensureLoaded stable.commitments heap.commitmentHistory canisterId
  let pushed := pushCommitment ((loaded.lookup canisterId).getD [])
    (RegistryState.commitmentSample commitment timestampNanos none)
    heap.config.maxCommitmentEntriesPerCanister
  { heap with commitmentHistory := loaded.insert canisterId pushed.1 }

def applyRecentRawOrNeuronCommitment (commitment : IndexedCommitment)
    (timestampNanos : Option Nat) (heap : HistoryHeap) : HistoryHeap :=
  let maxEntries := heap.config.maxCommitmentEntriesPerCanister
  if !commitment.countsTowardFaucet then heap
  else
    match commitment.target with
    | .cyclesTopUp _ => heap
    | .rawIcp canisterId destinationSubaccount _ =>
        let loaded := ensureLoaded stable.rawIcpCommitments heap.rawIcpCommitmentHistory canisterId
        let pushed := pushCommitment ((loaded.lookup canisterId).getD [])
          (RegistryState.commitmentSample commitment timestampNanos destinationSubaccount)
          maxEntries
        { heap with rawIcpCommitmentHistory := loaded.insert canisterId pushed.1 }
    | .neuronStake neuronId _ =>
        let loaded := ensureLoaded stable.neuronCommitments heap.neuronCommitmentHistory neuronId
        let pushed := pushCommitment ((loaded.lookup neuronId).getD [])
          (RegistryState.commitmentSample commitment timestampNanos none) maxEntries
        { heap with neuronCommitmentHistory := loaded.insert neuronId pushed.1 }

def pushCycles (canisterId : Principal) (sample : CyclesSample) (maxEntries : Nat)
    (heap : HistoryHeap) : HistoryHeap :=
  let loaded := ensureLoaded stable.cycles heap.cyclesHistory canisterId
  let pushed := pushCyclesSample ((loaded.lookup canisterId).getD []) sample maxEntries
  { heap with cyclesHistory := loaded.insert canisterId pushed.1 }

end HistoryHeap

structure HistoryStore where
  heap : HistoryHeap
  stable : StableHistories
  batchDepth : Nat
  dirtySections : Sections
  dirtyScopes : Scopes
  deriving DecidableEq

namespace HistoryStore

/-- `set_state`: the empty histories of a new state are written whole. -/
def setState (heap : HistoryHeap) (stable : StableHistories) : HistoryStore where
  heap := heap
  stable := persistSnapshotSectionsScoped heap stable .all .none
  batchDepth := 0
  dirtySections := .none
  dirtyScopes := .none

def installed (config : RegistryConfig) : HistoryStore :=
  setState (.new (clampConfig config)) ⟨clampConfig config, .empty, .empty, .empty, .empty⟩

variable (store : HistoryStore)

def persistenceBatchActive : Bool := decide (0 < store.batchDepth)

def clearPersistenceDirty : HistoryStore :=
  { store with dirtySections := .none, dirtyScopes := .none }

def persistDirtyState : HistoryStore :=
  if store.dirtySections = .none then store
  else
    { store with
      stable := persistSnapshotSectionsScoped store.heap store.stable store.dirtySections
        store.dirtyScopes }.clearPersistenceDirty

def beginPersistenceBatch : HistoryStore :=
  { store with batchDepth := satAdd u32Max store.batchDepth 1 }

/-- What dropping a batch does; `none` is the underflow of the depth. -/
def finishPersistenceBatch : Option HistoryStore :=
  if store.batchDepth = 0 then none
  else
    let shouldFlush := store.batchDepth - 1 = 0 ∧ store.dirtySections ≠ .none
    let store := { store with batchDepth := store.batchDepth - 1 }
    some (if shouldFlush then store.persistDirtyState else store)

def withStateMutSectionsScoped (dirtySections : Sections) (scopes : Scopes)
    (f : StableHistories → HistoryHeap → HistoryHeap) : HistoryStore :=
  let heap := f store.stable store.heap
  if store.persistenceBatchActive then
    { store with
      heap := heap
      dirtySections := store.dirtySections.union dirtySections
      dirtyScopes := store.dirtyScopes.mark scopes }
  else
    { store with
      heap := heap
      stable := persistSnapshotSectionsScoped heap store.stable dirtySections scopes }

def withRootStateMut : (StableHistories → HistoryHeap → HistoryHeap) → HistoryStore :=
  store.withStateMutSectionsScoped { Sections.none with root := true } .none

def withRootAndRegistryCanisterStateMut (canisterId : Principal) :
    (StableHistories → HistoryHeap → HistoryHeap) → HistoryStore :=
  store.withStateMutSectionsScoped { Sections.none with root := true, registry := true }
    { Scopes.none with registry := [canisterId] }

def withRootRegistryAndCommitmentsCanisterStateMut (canisterId : Principal) :
    (StableHistories → HistoryHeap → HistoryHeap) → HistoryStore :=
  store.withStateMutSectionsScoped
    { Sections.none with root := true, registry := true, commitments := true }
    { Scopes.none with registry := [canisterId], commitments := [canisterId] }

def withRootRegistryAndCyclesCanisterStateMut (canisterId : Principal) :
    (StableHistories → HistoryHeap → HistoryHeap) → HistoryStore :=
  store.withStateMutSectionsScoped
    { Sections.none with root := true, registry := true, cycles := true }
    { Scopes.none with registry := [canisterId], cycles := [canisterId] }

def withRootAndRawIcpCommitmentsStateMut (canisterId : Principal) :
    (StableHistories → HistoryHeap → HistoryHeap) → HistoryStore :=
  store.withStateMutSectionsScoped { Sections.none with root := true, rawIcpCommitments := true }
    { Scopes.none with rawIcpCommitments := [canisterId] }

def withRootAndNeuronCommitmentsStateMut (neuronId : Nat) :
    (StableHistories → HistoryHeap → HistoryHeap) → HistoryStore :=
  store.withStateMutSectionsScoped { Sections.none with root := true, neuronCommitments := true }
    { Scopes.none with neuronCommitments := [neuronId] }

def withFactoryTrackingStateMut (canisters : List Principal)
    (f : StableHistories → HistoryHeap → HistoryHeap) : Option HistoryStore :=
  if store.persistenceBatchActive then none
  else
    let heap := f store.stable store.heap
    some { store with
      heap := heap
      stable := persistSnapshotSectionsScoped heap store.stable
        { Sections.none with root := true, registry := true }
        { Scopes.none with registry := canisters } }

def clearLoadedHistoryCachesAfterFlush : Option HistoryStore :=
  if store.batchDepth ≠ 0 then none
  else if store.dirtySections ≠ .none then none
  else some (store.withRootStateMut fun _ heap => .new heap.config)

/-! ## What the historian does with its histories -/

def applyIndexedCommitment (commitment : IndexedCommitment) (timestampNanos : Option Nat) :
    HistoryStore :=
  match commitment.target with
  | .cyclesTopUp canisterId =>
      if commitment.countsTowardFaucet then
        store.withRootRegistryAndCommitmentsCanisterStateMut canisterId fun stable =>
          HistoryHeap.applyVerifiedQualifyingCommitment stable canisterId commitment timestampNanos
      else store.withRootStateMut fun _ heap => heap
  | .rawIcp canisterId _ _ =>
      if commitment.countsTowardFaucet then
        store.withRootAndRawIcpCommitmentsStateMut canisterId fun stable =>
          HistoryHeap.applyRecentRawOrNeuronCommitment stable commitment timestampNanos
      else store.withRootStateMut fun stable =>
        HistoryHeap.applyRecentRawOrNeuronCommitment stable commitment timestampNanos
  | .neuronStake neuronId _ =>
      if commitment.countsTowardFaucet then
        store.withRootAndNeuronCommitmentsStateMut neuronId fun stable =>
          HistoryHeap.applyRecentRawOrNeuronCommitment stable commitment timestampNanos
      else store.withRootStateMut fun stable =>
        HistoryHeap.applyRecentRawOrNeuronCommitment stable commitment timestampNanos

/-- What a probe does once it has its outcome. Its fence is asked before the write and in it. -/
def recordCyclesProbe (fenceIsCurrent : Bool) (timestampNanos : Nat) (canisterId : Principal)
    (maxEntries : Nat) (outcome : RegistryState.CyclesProbeOutcome) : HistoryStore :=
  if !fenceIsCurrent then store
  else
    match outcome with
    | .ok cycles route =>
        store.withRootRegistryAndCyclesCanisterStateMut canisterId fun stable heap =>
          if !fenceIsCurrent then heap
          else heap.pushCycles stable canisterId
            ⟨timestampNanos, cycles, RegistryState.cyclesSampleSourceForRoute route⟩ maxEntries
    | .err _ => store.withRootAndRegistryCanisterStateMut canisterId fun _ heap => heap

def registerSnsMembership (canisterIds : List Principal) : HistoryStore :=
  canisterIds.foldl (fun store canisterId =>
    store.withRootAndRegistryCanisterStateMut canisterId fun _ heap => heap) store

def activateRelay (targets : List Principal) (relayId : Principal) : Option HistoryStore :=
  store.withFactoryTrackingStateMut (targets ++ [relayId]) fun _ heap => heap

/-- The heap histories start empty; the root and the registry are written and nothing is dirty. -/
def postUpgrade (args : RegistryState.RegistryUpgradeArgs) : Option HistoryStore :=
  let config := clampConfig (RegistryState.upgradedConfig store.stable.root args)
  if config.scanIntervalSeconds = 0 ∨ config.cyclesIntervalSeconds = 0 then none
  else
    let heap := HistoryHeap.new config
    some {
      heap := heap
      stable := persistSnapshotSectionsScoped heap store.stable
        { Sections.none with root := true, registry := true } .none
      batchDepth := 0
      dirtySections := .none
      dirtyScopes := .none }

/-! ## Reads -/

def commitmentHistorySnapshot (canisterId : Principal) : List CommitmentSample :=
  sortByTxId (readList store.heap.commitmentHistory store.stable.commitments canisterId)

def cyclesHistorySnapshot (canisterId : Principal) : List CyclesSample :=
  readList store.heap.cyclesHistory store.stable.cycles canisterId

def rawIcpCommitmentHistorySnapshot (canisterId : Principal) : List CommitmentSample :=
  sortByTxId (readList store.heap.rawIcpCommitmentHistory store.stable.rawIcpCommitments canisterId)

def neuronCommitmentHistorySnapshot (neuronId : Nat) : List CommitmentSample :=
  sortByTxId (readList store.heap.neuronCommitmentHistory store.stable.neuronCommitments neuronId)

end HistoryStore

/-! ## Messages -/

def HistoryStore.register (store : HistoryStore) : RegistryEvent → Option HistoryStore
  | .commitment commitment timestampNanos _ =>
      some (store.applyIndexedCommitment commitment timestampNanos)
  | .snsMembership canisterIds _ => some (store.registerSnsMembership canisterIds)
  | .relay targets relayId _ => store.activateRelay targets relayId

/-- What a tick writes when it resumes with the outcome of a probe. -/
def HistoryStore.probed (store : HistoryStore) (st : CyclesState)
    (outcome : RegistryState.CyclesProbeOutcome) : CyclesKont → HistoryStore
  | .initialProbe probes canisterId _ =>
      store.recordCyclesProbe (st.isCurrent probes.tick.lease) probes.tick.nowNanos canisterId
        probes.maxEntries outcome
  | .sweepProbe slice targetIndex canisterId =>
      store.recordCyclesProbe (st.sweepFence slice targetIndex canisterId)
        slice.snapshot.startedAtTsNanos canisterId slice.maxEntries outcome
  | _ => store

inductive StoreEvent where
  -- Any other write: cursors, recent lists, leases.
  | root
  | beginBatch
  | finishBatch
  | persistDirty
  | clearLoaded
  deriving DecidableEq, Repr

def HistoryStore.maintain (store : HistoryStore) : StoreEvent → Option HistoryStore
  | .root => some (store.withRootStateMut fun _ heap => heap)
  | .beginBatch => some store.beginPersistenceBatch
  | .finishBatch => store.finishPersistenceBatch
  | .persistDirty => some store.persistDirtyState
  | .clearLoaded => store.clearLoadedHistoryCachesAfterFlush

namespace RegistryState

variable (st : RegistryState)

def rawIcpCommitmentHistorySnapshot (canisterId : Principal) : List CommitmentSample :=
  sortByTxId ((st.rawIcpCommitmentHistory.lookup canisterId).getD [])

def neuronCommitmentHistorySnapshot (neuronId : Nat) : List CommitmentSample :=
  sortByTxId ((st.neuronCommitmentHistory.lookup neuronId).getD [])

end RegistryState

end JupiterSuite.Historian.Registry
