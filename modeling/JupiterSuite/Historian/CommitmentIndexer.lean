import JupiterSuite.Base.KeyedMap
import JupiterSuite.Historian.RouteSystem
import JupiterSuite.Memo.Policy

/-! The historian's commitment indexer: every transaction of the staking account is applied once,
a qualifying commitment counts towards its route. What a history keeps besides is left out: the
timestamps, the recent lists and the registry. -/

namespace JupiterSuite.Historian

open Base Memo

inductive IndexedCommitmentTarget where
  | cyclesTopUp (canisterId : Principal)
  | rawIcp (canisterId : Principal) (destinationSubaccount : Option (List UInt8))
      (memoText : Text)
  | neuronStake (neuronId : Nat) (memoText : Option Text)
  deriving DecidableEq, Repr

structure IndexedCommitment where
  txId : Nat
  target : IndexedCommitmentTarget
  amountE8s : Nat
  countsTowardFaucet : Bool
  deriving DecidableEq, Repr

inductive IndexedCommitmentEntry where
  | valid (commitment : IndexedCommitment)
  | invalid (txId amountE8s : Nat)
  deriving DecidableEq, Repr

def memoBytesFromIndexTx (stakingId : String) (tx : IndexTransactionWithId) :
    Option (Nat × Option (List UInt8) × Nat) :=
  match tx.transaction.operation with
  | .transfer toAccount _ _ amount _ =>
      if toAccount = stakingId then
        some (tx.id, tx.transaction.icrc1Memo.filter fun bytes => !bytes.isEmpty, amount)
      else none
  | _ => none

def IndexedCommitmentTarget.ofDirective : MemoDirective → IndexedCommitmentTarget
  | .topUp canisterId => .cyclesTopUp canisterId
  | .rawIcp canisterId destinationSubaccount memo => .rawIcp canisterId destinationSubaccount memo
  | .neuronStake neuronId memo => .neuronStake neuronId memo

def indexedCommitmentFromTx (fromText : Text → Option Principal) (stakingId : String)
    (minTxE8s : Nat) (tx : IndexTransactionWithId) : Option IndexedCommitmentEntry :=
  match memoBytesFromIndexTx stakingId tx with
  | some (txId, some memo, amountE8s) =>
      match parseMemoDirective fromText memo with
      | some directive => some (.valid
          { txId := txId
            target := .ofDirective directive
            amountE8s := amountE8s
            countsTowardFaucet := decide (minTxE8s ≤ amountE8s) })
      | none => some (.invalid txId amountE8s)
  | _ => none

structure CommitmentSample where
  txId : Nat
  amountE8s : Nat
  rawIcpDestinationSubaccount : Option (List UInt8)
  deriving DecidableEq, Repr

/-- `sort_unstable_by_key`: the ids of a history are distinct. -/
def sortByTxId (history : List CommitmentSample) : List CommitmentSample :=
  history.mergeSort fun first second => decide (first.txId ≤ second.txId)

def pruneVec (history : List CommitmentSample) (maxEntries : Nat) : List CommitmentSample :=
  if maxEntries = 0 then [] else history.drop (history.length - maxEntries)

/-- The binary search of the sorted history finds the id or the place to insert it. -/
def pushCommitment (history : List CommitmentSample) (sample : CommitmentSample)
    (maxEntries : Nat) : List CommitmentSample × Bool :=
  let sorted := sortByTxId history
  if sorted.any fun item => decide (item.txId = sample.txId) then (sorted, false)
  else
    let older := sorted.takeWhile fun item => decide (item.txId < sample.txId)
    let newer := sorted.dropWhile fun item => decide (item.txId < sample.txId)
    (pruneVec (older ++ sample :: newer) maxEntries, true)

inductive CommitmentRouteKey where
  | cyclesTopUp (canister : Principal)
  | rawIcp (destinationCanister : Principal) (memo : List UInt8)
  | neuronStake (neuronId : Nat) (memo : Option (List UInt8))
  | rawIcpSubaccount (destinationCanister : Principal) (subaccountNumber : Nat)
      (memo : List UInt8)
  deriving DecidableEq, Repr

def validRoutePrincipal (principal : Principal) : Bool :=
  decide (principal ≠ anonymous) && decide (principal ≠ managementCanister) &&
    decide (principal.bytes.length ≤ 29)

def u64FromBeBytes (bytes : List UInt8) : Nat :=
  bytes.foldl (fun value byte => 256 * value + byte.toNat) 0

/-- The number of a subaccount, if it is zero-padded; number zero is the default subaccount. -/
def numberedSubaccountNumber (subaccount : List UInt8) : Option (Option Nat) :=
  if (subaccount.take 24).any fun byte => decide (byte ≠ 0) then none
  else
    let number := u64FromBeBytes (subaccount.drop 24)
    some (if number ≠ 0 then some number else none)

namespace CommitmentRouteKey

def ofRawIcp (destination : Principal) (destinationSubaccount : Option (List UInt8))
    (memo : List UInt8) : Option CommitmentRouteKey :=
  if !validRoutePrincipal destination || decide (maxTargetCanisterMemoBytes < memo.length) then
    none
  else
    match destinationSubaccount with
    | none => some (.rawIcp destination memo)
    | some bytes =>
        match numberedSubaccountNumber bytes with
        | none => none
        | some none => some (.rawIcp destination memo)
        | some (some subaccountNumber) =>
            -- 64 bytes bound the stored key
            if 11 + destination.bytes.length + memo.length ≤ 64 then
              some (.rawIcpSubaccount destination subaccountNumber memo)
            else none

def fromIndexed : IndexedCommitmentTarget → Option CommitmentRouteKey
  | .cyclesTopUp canisterId =>
      if validRoutePrincipal canisterId then some (.cyclesTopUp canisterId) else none
  | .rawIcp canisterId destinationSubaccount memoText =>
      ofRawIcp canisterId destinationSubaccount memoText
  | .neuronStake neuronId memoText =>
      if neuronId ≠ 0 ∧ (memoText.elim 0 List.length) ≤ maxTargetCanisterMemoBytes then
        some (.neuronStake neuronId memoText)
      else none

end CommitmentRouteKey

structure CommitmentRouteRollup where
  qualifyingCommitmentCount : Nat
  totalQualifyingCommittedE8s : Nat
  deriving DecidableEq, Repr

structure CommitmentIndexFault where
  observedAtTs : Nat
  lastCursorTxId : Option Nat
  offendingTxId : Nat
  message : String
  deriving DecidableEq, Repr

structure CommitmentConfig where
  stakingAccount : Account
  minTxE8s : Nat
  maxCommitmentEntriesPerCanister : Nat
  maxIndexPagesPerTick : Nat
  deriving DecidableEq, Repr

/-- No code reads `applied`, the transactions that were applied. -/
structure CommitmentState where
  config : CommitmentConfig
  lastIndexedStakingTxId : Option Nat
  oldestIndexedStakingTxId : Option Nat
  stakingIndexDescending : Option Bool
  stakingBackfillComplete : Option Bool
  activeStakingCatchUp : Option DescendingIndexCatchUp
  commitmentRouteRollupsCompleteFromGenesis : Option Bool
  commitmentIndexFault : Option CommitmentIndexFault
  commitmentHistory : Principal → List CommitmentSample
  rawIcpCommitmentHistory : Principal → List CommitmentSample
  neuronCommitmentHistory : Nat → List CommitmentSample
  commitmentRouteRollups : KeyedMap CommitmentRouteKey CommitmentRouteRollup
  qualifyingCommitmentCount : Nat
  commitmentIndexRevision : Nat
  lastIndexRunTs : Option Nat
  endowmentRefreshNextAllowedTs : Nat
  lock : CommitmentIndexLock
  applied : List IndexTransactionWithId

def CommitmentState.new (config : CommitmentConfig) : CommitmentState where
  config := config
  lastIndexedStakingTxId := none
  oldestIndexedStakingTxId := none
  stakingIndexDescending := none
  stakingBackfillComplete := some false
  activeStakingCatchUp := none
  commitmentRouteRollupsCompleteFromGenesis := some false
  commitmentIndexFault := none
  commitmentHistory := fun _ => []
  rawIcpCommitmentHistory := fun _ => []
  neuronCommitmentHistory := fun _ => []
  commitmentRouteRollups := .empty
  qualifyingCommitmentCount := 0
  commitmentIndexRevision := 0
  lastIndexRunTs := some 0
  endowmentRefreshNextAllowedTs := 0
  lock := ⟨none, 0, none⟩
  applied := []

def commitmentIndexIsComplete (st : CommitmentState) : Bool :=
  decide (st.commitmentRouteRollupsCompleteFromGenesis = some true) &&
    decide (st.stakingIndexDescending ≠ some false) && st.activeStakingCatchUp.isNone &&
    st.commitmentIndexFault.isNone

def getCommitmentRouteRollup (st : CommitmentState) (key : CommitmentRouteKey) :
    CommitmentRouteRollup :=
  (st.commitmentRouteRollups.lookup key).getD ⟨0, 0⟩

def incrementCommitmentRouteRollup (amountE8s : Nat) (rollup : Option CommitmentRouteRollup) :
    CommitmentRouteRollup :=
  let rollup := rollup.getD ⟨0, 0⟩
  { qualifyingCommitmentCount := satAdd u64Max rollup.qualifyingCommitmentCount 1
    totalQualifyingCommittedE8s := satAdd u64Max rollup.totalQualifyingCommittedE8s amountE8s }

def CommitmentState.countInserted (st : CommitmentState) (commitment : IndexedCommitment)
    (inserted : Bool) : CommitmentState :=
  if inserted then
    { st with
      commitmentRouteRollups :=
        (CommitmentRouteKey.fromIndexed commitment.target).elim st.commitmentRouteRollups
          fun key => st.commitmentRouteRollups.update key
            (incrementCommitmentRouteRollup commitment.amountE8s)
      qualifyingCommitmentCount := satAdd u64Max st.qualifyingCommitmentCount 1 }
  else st

def applyVerifiedQualifyingCommitment (st : CommitmentState) (commitment : IndexedCommitment) :
    CommitmentState :=
  match commitment.target with
  | .cyclesTopUp canisterId =>
      let pushed := pushCommitment (st.commitmentHistory canisterId)
        ⟨commitment.txId, commitment.amountE8s, none⟩ st.config.maxCommitmentEntriesPerCanister
      let st := { st with
        commitmentHistory := Function.update st.commitmentHistory canisterId pushed.1 }
      st.countInserted commitment pushed.2
  | _ => st

def applyRecentRawOrNeuronCommitment (st : CommitmentState) (commitment : IndexedCommitment) :
    CommitmentState :=
  match commitment.target with
  | .rawIcp canisterId destinationSubaccount _ =>
      if commitment.countsTowardFaucet then
        let pushed := pushCommitment (st.rawIcpCommitmentHistory canisterId)
          ⟨commitment.txId, commitment.amountE8s, destinationSubaccount⟩
          st.config.maxCommitmentEntriesPerCanister
        let st := { st with
          rawIcpCommitmentHistory :=
            Function.update st.rawIcpCommitmentHistory canisterId pushed.1 }
        st.countInserted commitment pushed.2
      else st
  | .neuronStake neuronId _ =>
      if commitment.countsTowardFaucet then
        let pushed := pushCommitment (st.neuronCommitmentHistory neuronId)
          ⟨commitment.txId, commitment.amountE8s, none⟩
          st.config.maxCommitmentEntriesPerCanister
        let st := { st with
          neuronCommitmentHistory :=
            Function.update st.neuronCommitmentHistory neuronId pushed.1 }
        st.countInserted commitment pushed.2
      else st
  | .cyclesTopUp _ => st

def applyIndexedCommitmentTx (fromText : Text → Option Principal) (stakingId : String)
    (minTxE8s : Nat) (st : CommitmentState) (tx : IndexTransactionWithId) : CommitmentState :=
  let st := { st with applied := st.applied ++ [tx] }
  match indexedCommitmentFromTx fromText stakingId minTxE8s tx with
  | some (.valid commitment) =>
      match commitment.target with
      | .cyclesTopUp _ =>
          if commitment.countsTowardFaucet then applyVerifiedQualifyingCommitment st commitment
          else st
      | _ => applyRecentRawOrNeuronCommitment st commitment
  | _ => st

def applyCommitmentTransactionsInChronologicalOrder (fromText : Text → Option Principal)
    (stakingId : String) (minTxE8s : Nat) (st : CommitmentState)
    (txs : List IndexTransactionWithId) : CommitmentState :=
  txs.reverse.foldl (applyIndexedCommitmentTx fromText stakingId minTxE8s) st

def CommitmentState.advanceRevision (st : CommitmentState) : CommitmentState :=
  { st with commitmentIndexRevision := satAdd u64Max st.commitmentIndexRevision 1 }

/-- What `process_commitment_indexing_bounded` keeps across its awaits, with its guard. -/
structure CommitmentWork where
  task : CommitmentIndexTask
  owner : CommitmentIndexLeaseOwner
  nowSecs : Nat
  stakingId : String
  minTxE8s : Nat
  latestCursor : Option Nat
  oldestCursor : Option Nat
  backfillComplete : Bool
  remainingPages : Nat
  deriving DecidableEq, Repr

inductive CommitmentKont where
  | first (work : CommitmentWork)
  | catchUp (work : CommitmentWork) (progress : DescendingIndexCatchUp)
  | backfill (work : CommitmentWork)
  deriving DecidableEq, Repr

def CommitmentKont.work : CommitmentKont → CommitmentWork
  | .first work | .catchUp work _ | .backfill work => work

def CommitmentKont.start : CommitmentKont → Option Nat
  | .first _ => none
  | .catchUp _ progress => progress.nextStartTxId
  | .backfill work => work.oldestCursor

def CommitmentKont.withToken (token : CommitmentIndexLeaseToken) : CommitmentKont → CommitmentKont
  | .first work => .first { work with task := { work.task with token } }
  | .catchUp work progress => .catchUp { work with task := { work.task with token } } progress
  | .backfill work => .backfill { work with task := { work.task with token } }

inductive CommitmentPause where
  | done
  | await (kont : CommitmentKont)
  deriving DecidableEq, Repr

def endowmentPokeMinIntervalSeconds : Nat := 10

def CommitmentWork.leaseNow (work : CommitmentWork) (clockSecs : Nat) : Nat :=
  match work.owner with
  | .scheduled => clockSecs
  | .endowmentRefresh => work.nowSecs

/-- The caller drops the guard. A poke that is still current starts its interval first. -/
def finishCommitmentIndexing (st : CommitmentState) (work : CommitmentWork) : CommitmentState :=
  let guard := work.task.guard
  let st :=
    if work.owner = .endowmentRefresh ∧
        st.lock.isCurrent ⟨guard.leaseExpiresAtTs, guard.generation⟩ = true then
      { st with endowmentRefreshNextAllowedTs :=
          satAdd u64Max work.nowSecs endowmentPokeMinIntervalSeconds }
    else st
  { st with lock := st.lock.dropGuard guard }

def awaitCommitmentPage (clockSecs : Nat) (st : CommitmentState) (kont : CommitmentKont) :
    CommitmentState × CommitmentPause :=
  match st.lock.renew kont.work.task.token (kont.work.leaseNow clockSecs) with
  | none => (finishCommitmentIndexing st kont.work, .done)
  | some (lock, token) => ({ st with lock := lock }, .await (kont.withToken token))

def exitCommitmentIndexing (st : CommitmentState) (work : CommitmentWork) :
    CommitmentState × CommitmentPause :=
  let st := { st with
    lastIndexedStakingTxId := work.latestCursor
    oldestIndexedStakingTxId := work.oldestCursor
    stakingIndexDescending := some true
    stakingBackfillComplete := some work.backfillComplete
    commitmentRouteRollupsCompleteFromGenesis :=
      if work.backfillComplete ∧ st.commitmentRouteRollupsCompleteFromGenesis = some false then
        some true
      else st.commitmentRouteRollupsCompleteFromGenesis
    lastIndexRunTs := some work.nowSecs }
  (finishCommitmentIndexing st work, .done)

def commitmentCatchUpLoop (clockSecs : Nat) (st : CommitmentState) (work : CommitmentWork)
    (progress : DescendingIndexCatchUp) : CommitmentState × CommitmentPause :=
  if 0 < work.remainingPages then awaitCommitmentPage clockSecs st (.catchUp work progress)
  else exitCommitmentIndexing st work

def onCommitmentCatchUpPage (fromText : Text → Option Principal) (clockSecs : Nat)
    (st : CommitmentState) (work : CommitmentWork) (progress : DescendingIndexCatchUp)
    (page : List IndexTransactionWithId) : CommitmentState × CommitmentPause :=
  let work := { work with remainingPages := work.remainingPages - 1 }
  if page.isEmpty then
    let work := { work with latestCursor := some progress.observedHeadTxId }
    let st := { st with
      lastIndexedStakingTxId := work.latestCursor
      activeStakingCatchUp := none }
    exitCommitmentIndexing st.advanceRevision work
  else
    let (items, reachedBoundary) := newItems progress.boundaryTxId page
    let pageIsTerminal := reachedBoundary || decide (page.length < pageSize)
    let st := applyCommitmentTransactionsInChronologicalOrder fromText work.stakingId
      work.minTxE8s st items
    let maxNew := (items.map IndexTransactionWithId.id).max?
    let progress := { progress with
      observedHeadTxId := maxNew.elim progress.observedHeadTxId (max progress.observedHeadTxId)
      nextStartTxId := page.getLast?.map IndexTransactionWithId.id }
    if pageIsTerminal then
      let work := { work with latestCursor := some progress.observedHeadTxId }
      let st := { st with
        activeStakingCatchUp := none
        lastIndexedStakingTxId := work.latestCursor }
      exitCommitmentIndexing st.advanceRevision work
    else
      let st := { st with activeStakingCatchUp := some progress }
      commitmentCatchUpLoop clockSecs st.advanceRevision work progress

def commitmentBackfillLoop (clockSecs : Nat) (st : CommitmentState) (work : CommitmentWork) :
    CommitmentState × CommitmentPause :=
  if 0 < work.remainingPages && !work.backfillComplete then
    awaitCommitmentPage clockSecs st (.backfill work)
  else exitCommitmentIndexing st work

def onCommitmentBackfillPage (fromText : Text → Option Principal) (clockSecs : Nat)
    (st : CommitmentState) (work : CommitmentWork) (page : List IndexTransactionWithId) :
    CommitmentState × CommitmentPause :=
  let work := { work with remainingPages := work.remainingPages - 1 }
  if page.isEmpty then
    exitCommitmentIndexing st.advanceRevision { work with backfillComplete := true }
  else
    let olderItems := itemsOlderThan work.oldestCursor page
    if olderItems.isEmpty then exitCommitmentIndexing st { work with backfillComplete := true }
    else
      let st := applyCommitmentTransactionsInChronologicalOrder fromText work.stakingId
        work.minTxE8s st olderItems
      let maxSeen := (olderItems.map IndexTransactionWithId.id).max?
      let minSeen := (olderItems.map IndexTransactionWithId.id).min?
      let work := { work with
        latestCursor := maxSeen.elim work.latestCursor fun seen =>
          some (work.latestCursor.elim seen (max · seen))
        oldestCursor := minSeen.elim work.oldestCursor fun seen =>
          some (work.oldestCursor.elim seen (min · seen)) }
      let st := { st with
        lastIndexedStakingTxId := work.latestCursor
        oldestIndexedStakingTxId := work.oldestCursor
        stakingIndexDescending := some true
        stakingBackfillComplete := some work.backfillComplete }
      let st := st.advanceRevision
      if page.length < pageSize then
        exitCommitmentIndexing st { work with backfillComplete := true }
      else commitmentBackfillLoop clockSecs st work

/-- From the cursors that were read, with the page that a first run has read already. -/
def processCommitmentIndexingDescendingSeeded (fromText : Text → Option Principal)
    (clockSecs : Nat) (st : CommitmentState) (work : CommitmentWork)
    (firstPage : Option (List IndexTransactionWithId)) : CommitmentState × CommitmentPause :=
  let work := { work with oldestCursor :=
      if work.latestCursor.isSome && work.oldestCursor.isNone then work.latestCursor
      else work.oldestCursor }
  -- An account that was found empty has no cursor; it is walked again from its newest page.
  let reopened := work.backfillComplete && work.latestCursor.isNone
  let work := { work with backfillComplete := work.backfillComplete && !reopened }
  let st := if reopened then
      { st with
        stakingBackfillComplete := some false
        commitmentRouteRollupsCompleteFromGenesis := some false }
    else st
  if work.backfillComplete then
    let started := work.latestCursor.map fun latest =>
      (⟨latest, latest, none⟩ : DescendingIndexCatchUp)
    match st.activeStakingCatchUp.or started with
    | none => exitCommitmentIndexing st work
    | some progress =>
        match firstPage with
        | some page => onCommitmentCatchUpPage fromText clockSecs st work progress page
        | none => commitmentCatchUpLoop clockSecs st work progress
  else
    match firstPage with
    | some page => onCommitmentBackfillPage fromText clockSecs st work page
    | none => commitmentBackfillLoop clockSecs st work

def unsupportedAscendingMessage : String :=
  "unsupported persisted ascending staking-index pagination state; historical coverage cannot " ++
    "be proven under the configured newest-first ICP Index contract"

def latchCommitmentIndexFault (st : CommitmentState) (nowSecs : Nat)
    (lastCursorTxId : Option Nat) (offendingTxId : Nat) (message : String) : CommitmentState :=
  { st with
    commitmentIndexFault := some
      { observedAtTs := st.commitmentIndexFault.elim nowSecs CommitmentIndexFault.observedAtTs
        lastCursorTxId := lastCursorTxId
        offendingTxId := offendingTxId
        message := message } }

def processCommitmentIndexingBounded (fromText : Text → Option Principal)
    (identifierText : Principal → List UInt8 → String) (clockSecs : Nat) (st : CommitmentState)
    (task : CommitmentIndexTask) (owner : CommitmentIndexLeaseOwner) (nowSecs maxPages : Nat) :
    CommitmentState × CommitmentPause :=
  let account := st.config.stakingAccount
  let work : CommitmentWork :=
    { task := task
      owner := owner
      nowSecs := nowSecs
      stakingId := identifierText account.owner (account.subaccount.getD (List.replicate 32 0))
      minTxE8s := st.config.minTxE8s
      latestCursor := st.lastIndexedStakingTxId
      oldestCursor := st.oldestIndexedStakingTxId
      backfillComplete := st.stakingBackfillComplete.getD false
      remainingPages := max (max maxPages 1) 1 }
  match st.stakingIndexDescending with
  | some false =>
      let st := { st with commitmentRouteRollupsCompleteFromGenesis := some false }
      (finishCommitmentIndexing (latchCommitmentIndexFault st nowSecs work.latestCursor
        (work.latestCursor.getD 0) unsupportedAscendingMessage) work, .done)
  | none => awaitCommitmentPage clockSecs st (.first work)
  | some true => processCommitmentIndexingDescendingSeeded fromText clockSecs st work none

/-- The answer to an awaited page. A failed call and a lost lease end the run. -/
def resumeCommitmentIndexing (fromText : Text → Option Principal) (clockSecs : Nat)
    (st : CommitmentState) (kont : CommitmentKont)
    (reply : Option (List IndexTransactionWithId)) : CommitmentState × CommitmentPause :=
  match reply with
  | none => (finishCommitmentIndexing st kont.work, .done)
  | some page =>
      if !st.lock.isCurrent kont.work.task.token then
        (finishCommitmentIndexing st kont.work, .done)
      else
        match kont with
        | .first work => processCommitmentIndexingDescendingSeeded fromText clockSecs
            { st with stakingIndexDescending := some true } work (some page)
        | .catchUp work progress =>
            onCommitmentCatchUpPage fromText clockSecs st work progress page
        | .backfill work => onCommitmentBackfillPage fromText clockSecs st work page

end JupiterSuite.Historian
