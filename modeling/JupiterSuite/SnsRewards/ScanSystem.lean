import JupiterSuite.SnsRewards.Policy
import JupiterSuite.Clients.LeaseGuards

/-! The persisted state of the owner index with its two owner maps, the scan that fills the one
that is not active, and the queries answered from the active one. -/

namespace JupiterSuite.SnsRewards

open Base

structure Config where
  rewardSnsRootCanisterId : Option Principal
  deriving DecidableEq, Repr

inductive OwnerIndexSlot where
  | a
  | b
  deriving DecidableEq, Repr

def OwnerIndexSlot.other : OwnerIndexSlot → OwnerIndexSlot
  | .a => .b
  | .b => .a

structure OwnerSnapshot where
  snapshotId : Nat
  activeSlot : OwnerIndexSlot
  snsRootCanisterId : Principal
  snsGovernanceCanisterId : Principal
  snsLedgerCanisterId : Principal
  scanStartedAtTimestampNanos : Nat
  scanCompletedAtTimestampNanos : Nat
  neuronCount : Nat
  ownerCount : Nat
  deriving DecidableEq, Repr

structure OwnerScan where
  stagingSlot : OwnerIndexSlot
  snsRootCanisterId : Principal
  snsGovernanceCanisterId : Principal
  snsLedgerCanisterId : Principal
  scanStartedAtTimestampNanos : Nat
  startPageAt : Option (List UInt8)
  pagesProcessed : Nat
  neuronsProcessed : Nat
  deriving DecidableEq, Repr

structure State where
  config : Config
  nextSnapshotId : Nat
  activeSnapshot : Option OwnerSnapshot
  scan : Option OwnerScan
  lastScanStartedAtTimestampNanos : Nat
  scanLockStateTs : Option Nat
  deriving DecidableEq, Repr

def State.new (config : Config) : State where
  config := config
  nextSnapshotId := 1
  activeSnapshot := none
  scan := none
  lastScanStartedAtTimestampNanos := 0
  scanLockStateTs := some 0

/-- The metadata cell with the maps `OWNERS_A` and `OWNERS_B`. -/
structure Canister where
  st : State
  owners : OwnerIndexSlot → OwnerMap

def clearSlot (owners : OwnerIndexSlot → OwnerMap) (slot : OwnerIndexSlot) :
    OwnerIndexSlot → OwnerMap :=
  Function.update owners slot .empty

def invalidateForRoot (canister : Canister) (root : Option Principal) : Canister where
  st := { canister.st with
    config := ⟨root⟩
    activeSnapshot := none
    scan := none
    lastScanStartedAtTimestampNanos := 0
    scanLockStateTs := some 0 }
  owners := clearSlot (clearSlot canister.owners .a) .b

structure ListSnsCanistersResponse where
  root : Option Principal
  governance : Option Principal
  ledger : Option Principal
  deriving DecidableEq, Repr

def usizeMax : Nat := 2 ^ 32 - 1

/-- A decoded page; its vector has a length. -/
structure ListNeuronsResponse where
  neurons : List Neuron
  fits : neurons.length ≤ usizeMax
  deriving DecidableEq, Repr

/-- `owns_scan` for a guard that was not dropped. -/
def ownsScan (st : State) (lease : Nat) (root : Principal) (expected : Option OwnerScan) : Bool :=
  decide (st.scanLockStateTs = some lease ∧ st.config.rewardSnsRootCanisterId = some root ∧
    st.scan = expected)

def dropGuard (canister : Canister) (lease : Nat) : Canister :=
  { canister with st := { canister.st with
      scanLockStateTs := releaseLease lease canister.st.scanLockStateTs } }

inductive StartScanResult where
  | started (startedAtNanos : Nat)
  | notConfigured
  | stale
  | failed
  deriving DecidableEq, Repr

def resolveComponents (configuredRoot : Principal) (resolved : ListSnsCanistersResponse) :
    Except String (Principal × Principal) :=
  if resolved.root ≠ some configuredRoot then .error "resolved_root_mismatch"
  else
    match resolved.governance, resolved.ledger with
    | none, _ => .error "missing_governance"
    | some _, none => .error "missing_ledger"
    | some governance, some ledger => .ok (governance, ledger)

def finishStartScan (canister : Canister) (lease : Nat) (root : Principal)
    (response : Option ListSnsCanistersResponse) (nowNanos : Nat) : Canister × StartScanResult :=
  if !ownsScan canister.st lease root none then (canister, .stale)
  else
    match response with
    | none => (canister, .failed)
    | some resolved =>
        match resolveComponents root resolved with
        | .error _ => (canister, .failed)
        | .ok (governance, ledger) =>
            let stagingSlot := (canister.st.activeSnapshot.map fun snapshot =>
              snapshot.activeSlot.other).getD .a
            let scan : OwnerScan :=
              { stagingSlot := stagingSlot
                snsRootCanisterId := root
                snsGovernanceCanisterId := governance
                snsLedgerCanisterId := ledger
                scanStartedAtTimestampNanos := nowNanos
                startPageAt := none
                pagesProcessed := 0
                neuronsProcessed := 0 }
            ({ st := { canister.st with
                lastScanStartedAtTimestampNanos := nowNanos
                scan := some scan }
               owners := clearSlot canister.owners stagingSlot }, .started nowNanos)

def validateIds : Option (List UInt8) → List Neuron → Except String Unit
  | _, [] => .ok ()
  | previous, neuron :: rest =>
      match neuron.id with
      | none => .error "missing_neuron_id"
      | some id =>
          if id.length ≠ 32 then .error "malformed_neuron_id"
          else if previous.any fun cursor => decide (id ≤ cursor) then
            .error "non_progressing_cursor"
          else validateIds (some id) rest

/-- The cursor behind the last neuron. -/
def lastNeuronId (neurons : List Neuron) : Option (List UInt8) := neurons.getLast?.bind Neuron.id

def validatePage (scan : OwnerScan) (neurons : List Neuron) :
    Except String (Option (List UInt8)) :=
  (validateIds scan.startPageAt neurons).map fun _ => lastNeuronId neurons

def failScan (canister : Canister) : Canister :=
  { canister with st := { canister.st with scan := none } }

inductive PageResult where
  | inProgress
  | stale
  | completed
  | failed
  deriving DecidableEq, Repr

def completedSnapshot (canister : Canister) (completed : OwnerScan) (nowNanos : Nat) :
    OwnerSnapshot where
  snapshotId := canister.st.nextSnapshotId
  activeSlot := completed.stagingSlot
  snsRootCanisterId := completed.snsRootCanisterId
  snsGovernanceCanisterId := completed.snsGovernanceCanisterId
  snsLedgerCanisterId := completed.snsLedgerCanisterId
  scanStartedAtTimestampNanos := completed.scanStartedAtTimestampNanos
  scanCompletedAtTimestampNanos := nowNanos
  neuronCount := completed.neuronsProcessed
  ownerCount := (canister.owners completed.stagingSlot).entries.length

def publish (canister : Canister) (completed : OwnerScan) (nowNanos : Nat) : Canister :=
  { canister with st := { canister.st with
      scan := none
      activeSnapshot := some (completedSnapshot canister completed nowNanos)
      nextSnapshotId := satAdd u64Max canister.st.nextSnapshotId 1 } }

/-- A page whose neurons were inserted: the scan's counters, then its next step or its end. -/
def advanceScan (canister : Canister) (scan : OwnerScan) (neurons : List Neuron)
    (nextCursor : Option (List UInt8)) (nowNanos : Nat) : Canister × PageResult :=
  let updated : OwnerScan := { scan with
    pagesProcessed := scan.pagesProcessed + 1
    neuronsProcessed := satAdd u64Max scan.neuronsProcessed neurons.length
    startPageAt := nextCursor }
  let canister := { canister with st := { canister.st with scan := some updated } }
  if neurons.length < snsNeuronPageSize then (publish canister updated nowNanos, .completed)
  else if snsOwnerScanMaxPages ≤ updated.pagesProcessed then (failScan canister, .failed)
  else (canister, .inProgress)

def finishPage (hashes : Hashes) (canister : Canister) (lease : Nat) (scan : OwnerScan)
    (response : Option ListNeuronsResponse) (nowNanos : Nat) : Canister × PageResult :=
  if !ownsScan canister.st lease scan.snsRootCanisterId (some scan) then (canister, .stale)
  else
    match response with
    | none => (failScan canister, .failed)
    | some response =>
        match validatePage scan response.neurons with
        | .error _ => (failScan canister, .failed)
        | .ok nextCursor =>
            let staged := (canister.owners scan.stagingSlot).insertOwners hashes response.neurons
            let filled :=
              { canister with owners := Function.update canister.owners scan.stagingSlot staged }
            advanceScan filled scan response.neurons nextCursor nowNanos

structure ResolveDefaultIcpAccountsArgs where
  snapshotId : Nat
  accountIdentifiers : List (List UInt8)
  deriving DecidableEq, Repr

inductive ResolveDefaultIcpAccountsResult where
  | ok (owners : List (Option Principal))
  | snapshotChanged
  | tooManyAccounts
  | invalidAccountIdentifier (index : Nat)
  deriving DecidableEq, Repr

def resolveDefaultIcpAccounts (canister : Canister) (args : ResolveDefaultIcpAccountsArgs) :
    ResolveDefaultIcpAccountsResult :=
  if maxAccountLookupsPerCall < args.accountIdentifiers.length then .tooManyAccounts
  else
    match args.accountIdentifiers.findIdx? fun identifier => decide (identifier.length ≠ 32) with
    | some index => .invalidAccountIdentifier index
    | none =>
        match canister.st.activeSnapshot with
        | none => .snapshotChanged
        | some snapshot =>
            if snapshot.snapshotId ≠ args.snapshotId then .snapshotChanged
            else .ok (args.accountIdentifiers.map
              (canister.owners snapshot.activeSlot).lookup)

structure UpgradeArgs where
  rewardSnsRootCanisterId : Option (Option Principal)
  deriving DecidableEq, Repr

def postUpgrade (canister : Canister) (args : Option UpgradeArgs) : Canister :=
  let restored := { canister with st := { canister.st with scanLockStateTs := some 0 } }
  match args.bind UpgradeArgs.rewardSnsRootCanisterId with
  | none => restored
  | some newRoot =>
      if restored.st.config.rewardSnsRootCanisterId ≠ newRoot then invalidateForRoot restored newRoot
      else restored

/-! The owner-scan timer as a system: any number of ticks wait for the SNS root or for a page of
neurons, and any of them may resume late. -/

inductive ScanKont where
  | root (lease : Nat) (root : Principal)
  | page (lease : Nat) (scan : OwnerScan) (nowNanos : Nat)
  deriving DecidableEq, Repr

def ScanKont.lease : ScanKont → Nat
  | .root lease _ | .page lease _ _ => lease

inductive ScanPause where
  | done
  | await (kont : ScanKont)
  deriving DecidableEq, Repr

/-- `None` is a failed call. -/
inductive ScanReply where
  | canisters (response : Option ListSnsCanistersResponse)
  | neurons (response : Option ListNeuronsResponse)
  deriving DecidableEq, Repr

def processOnePage (canister : Canister) (lease nowNanos : Nat) : Canister × ScanPause :=
  match canister.st.scan with
  | none => (dropGuard canister lease, .done)
  | some scan =>
      if snsOwnerScanMaxPages ≤ scan.pagesProcessed then
        (dropGuard (failScan canister) lease, .done)
      else (canister, .await (.page lease scan nowNanos))

def scanDue (st : State) (force : Bool) (nowNanos : Nat) : Bool :=
  force || decide (st.lastScanStartedAtTimestampNanos = 0) ||
    decide (snsOwnerScanIntervalSeconds * nanosPerSecond ≤
      nowNanos - st.lastScanStartedAtTimestampNanos)

def scanTick (canister : Canister) (force : Bool) (nowNanos : Nat) : Canister × ScanPause :=
  match acquireLease (nowNanos / nanosPerSecond) scanLeaseSeconds
      canister.st.scanLockStateTs with
  | none => (canister, .done)
  | some lease =>
      let held :=
        { canister with st := { canister.st with scanLockStateTs := some lease } }
      match held.st.scan with
      | some _ => processOnePage held lease nowNanos
      | none =>
          if !scanDue held.st force nowNanos then (dropGuard held lease, .done)
          else
            match held.st.config.rewardSnsRootCanisterId with
            | none => (dropGuard held lease, .done)
            | some root => (held, .await (.root lease root))

def resumeScan (hashes : Hashes) (canister : Canister) (nowNanos : Nat) :
    ScanKont → ScanReply → Option (Canister × ScanPause)
  | .root lease root, .canisters response =>
      match finishStartScan canister lease root response nowNanos with
      | (started, .started _) => some (processOnePage started lease nowNanos)
      | (same, _) => some (dropGuard same lease, .done)
  | .page lease scan requestedNanos, .neurons response =>
      some (dropGuard (finishPage hashes canister lease scan response requestedNanos).1 lease,
        .done)
  | _, _ => none

/-- A page that was accepted, with the scan and the request that it answers. -/
structure Page where
  scanNumber : Nat
  snsGovernanceCanisterId : Principal
  startPageAt : Option (List UInt8)
  response : ListNeuronsResponse
  deriving DecidableEq, Repr

structure Publication where
  scanNumber : Nat
  snapshot : OwnerSnapshot
  pages : List Page
  owners : OwnerMap

/-- No code reads `scans`, how many scans were started, `asked`, the scan for which a task
requested its page, the `pages` of the last scan and what was `published`. -/
structure ScanSystem where
  canister : Canister
  tasks : Pool ScanKont
  clock : Nat
  scans : Nat
  asked : Nat → Nat
  pages : List Page
  published : List Publication

inductive ScanEvent where
  | tick (id : Nat) (force : Bool) (nowNanos : Nat)
  | resume (id : Nat) (reply : ScanReply) (nowNanos : Nat)
  -- The continuation never runs again; after a trap its cleanup still drops the guard.
  | abandon (id : Nat) (cleanup : Bool)
  | upgrade (args : Option UpgradeArgs) (nowNanos : Nat)
  deriving DecidableEq, Repr

def settleScan (sys : ScanSystem) (id nowNanos : Nat) : Canister × ScanPause → ScanSystem
  | (canister, .done) => { sys with
      canister := canister, tasks := sys.tasks.put id none, clock := nowNanos }
  | (canister, .await kont) => { sys with
      canister := canister
      tasks := sys.tasks.put id (some kont)
      clock := nowNanos
      asked := Function.update sys.asked id sys.scans }

def observeScan (hashes : Hashes) (sys : ScanSystem) (id nowNanos : Nat) :
    ScanKont → ScanReply → ScanSystem
  | .root lease root, .canisters response =>
      match (finishStartScan sys.canister lease root response nowNanos).2 with
      | .started _ => { sys with scans := sys.scans + 1, pages := [] }
      | _ => sys
  | .page lease scan requestedNanos, .neurons (some response) =>
      let pages := sys.pages ++
        [⟨sys.asked id, scan.snsGovernanceCanisterId, scan.startPageAt, response⟩]
      match finishPage hashes sys.canister lease scan (some response) requestedNanos with
      | (_, .inProgress) => { sys with pages := pages }
      | (canister, .completed) => { sys with
          pages := pages
          published := sys.published ++ (canister.st.activeSnapshot.map fun snapshot =>
            ⟨sys.scans, snapshot, pages, canister.owners snapshot.activeSlot⟩).toList }
      | _ => sys
  | _, _ => sys

def scanClockAdmits (clock nowNanos : Nat) : Bool :=
  decide (clock ≤ nowNanos) && decide (nowNanos ≤ u64Max)

def stepScan (hashes : Hashes) (sys : ScanSystem) : ScanEvent → Option ScanSystem
  | .tick id force now =>
      if scanClockAdmits sys.clock now && (sys.tasks id).isNone then
        some (settleScan sys id now (scanTick sys.canister force now))
      else none
  | .resume id reply now =>
      match sys.tasks id with
      | none => none
      | some kont =>
          if scanClockAdmits sys.clock now then
            (resumeScan hashes sys.canister now kont reply).map
              (settleScan (observeScan hashes sys id now kont reply) id now)
          else none
  | .abandon id cleanup =>
      match sys.tasks id with
      | none => none
      | some kont => some { sys with
          canister := if cleanup then dropGuard sys.canister kont.lease else sys.canister
          tasks := sys.tasks.put id none }
  | .upgrade args now =>
      if scanClockAdmits sys.clock now then
        some { sys with
          canister := postUpgrade sys.canister args, tasks := Pool.empty, clock := now }
      else none

def scanMachine (hashes : Hashes) : Machine ScanSystem ScanEvent where
  init := fun sys => ∃ config nowNanos asked, sys =
    { canister := ⟨State.new config, fun _ => .empty⟩
      tasks := Pool.empty
      clock := nowNanos
      scans := 0
      asked := asked
      pages := []
      published := [] }
  step := stepScan hashes

end JupiterSuite.SnsRewards
