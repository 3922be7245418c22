import JupiterSuite.Faucet.Logic

/-! A tick up to the creation of its payout job: the discovery of the oldest funding transfer
above the last processed one, and the completion of a job. Cut at the awaits. -/

namespace JupiterSuite.Faucet

open Base

def mainTickLeaseSeconds : Nat := 15 * 60

/-- Who runs `process_payout`: the timer, a retry or the rescue tick, or a poke. -/
structure MainTick where
  lease : Nat
  nowNanos : Nat
  poke : Bool
  deriving DecidableEq, Repr

def MainTick.nowSecs (tick : MainTick) : Nat := tick.nowNanos / nanosPerSecond

inductive FundingDiscoveryUnreadableReason where
  | indexReadFailed
  | qualifyingFundingTransferMissingTimestamp
  deriving DecidableEq, Repr

inductive FundingDiscovery where
  | found (tranche : FundingTranche)
  | inProgress
  | empty
  | unreadable (reason : FundingDiscoveryUnreadableReason)
  deriving DecidableEq, Repr

/-- What `process_payout` read before its discovery. -/
structure DiscoveryRun where
  tick : MainTick
  feeE8s : Nat
  payoutBalanceE8s : Nat
  denomE8s : Nat
  lastProcessed : Option Nat
  payoutNonce : Nat
  deriving DecidableEq, Repr

inductive FundingKont where
  | fee (tick : MainTick)
  | balance (tick : MainTick) (feeE8s : Nat)
  | denom (tick : MainTick) (feeE8s payoutBalanceE8s : Nat)
  | page (run : DiscoveryRun) (scan : FundingScanState) (observedOldest : Option Nat)
      (pagesLeft : Nat)
  | reread (run : DiscoveryRun) (tranche : FundingTranche)
  | probe (tick : MainTick)
  -- Suspended somewhere in the payout loop.
  | payout (tick : MainTick)
  | finalize (tick : MainTick) (job : ActivePayoutJob)
  | rescue (tick : MainTick)
  deriving DecidableEq, Repr

inductive FundingPause where
  | done
  | await (kont : FundingKont)
  deriving DecidableEq, Repr

def FundingPause.suspended : FundingPause → Option FundingKont
  | .done => none
  | .await kont => some kont

section Guard

variable (st : FaucetState) (tick : MainTick)

def FaucetState.dropGuard (lease : Nat) : FaucetState :=
  { st with mainLockStateTs := releaseLease lease st.mainLockStateTs }

def FaucetState.finishGuard (lease nowSecs : Nat) : FaucetState :=
  if st.isCurrent lease then
    { st with lastMainRunTs := nowSecs, mainLockStateTs := some 0 }
  else st

/-- What the caller does with the result of `process_payout`. -/
def endProcess (ok : Bool) : FaucetState × FundingPause :=
  if tick.poke then (st.dropGuard tick.lease, .done)
  else if ok && st.isCurrent tick.lease then (st, .await (.rescue tick))
  else (st.finishGuard tick.lease tick.nowSecs, .done)

end Guard

section Scan

/-- The amount of a transfer from the funding source that is worth more than the fee. -/
def qualifyingAmount (config : FaucetConfig) (feeE8s : Nat) (tx : IndexTx) : Option Nat :=
  match tx.operation with
  | .transfer sender receiver amountE8s =>
      if sender = config.fundingSourceAccountIdentifier ∧
          receiver = config.payoutAccountIdentifier ∧ feeE8s < amountE8s then
        some amountE8s
      else none
  | _ => none

def isProcessed (lastProcessed : Option Nat) (tx : IndexTx) : Bool :=
  lastProcessed.any fun last => decide (tx.id ≤ last)

def olderCandidate (candidate : Option FundingTranche) (tranche : FundingTranche) :
    Option FundingTranche :=
  match candidate with
  | none => some tranche
  | some old => if tranche.txId < old.txId then some tranche else some old

/-- The candidate after a page, and whether a processed record was reached; nothing when a
qualifying transfer has no timestamp. -/
def scanTransactions (config : FaucetConfig) (feeE8s : Nat) (lastProcessed : Option Nat) :
    Option FundingTranche → List IndexTx → Option (Option FundingTranche × Bool)
  | candidate, [] => some (candidate, false)
  | candidate, tx :: rest =>
      if isProcessed lastProcessed tx then some (candidate, true)
      else
        match qualifyingAmount config feeE8s tx with
        | none => scanTransactions config feeE8s lastProcessed candidate rest
        | some amountE8s =>
            match indexTxTimestampNanos tx with
            | none => none
            | some timestampNanos =>
                scanTransactions config feeE8s lastProcessed
                  (olderCandidate candidate ⟨tx.id, timestampNanos, amountE8s⟩) rest

def freshFundingScan (lastProcessed : Option Nat) : FundingScanState where
  anchorLastProcessedFundingTxId := lastProcessed
  cursor := none
  candidate := none

/-- The scan that a discovery goes on with; one with another anchor is started anew. -/
def FaucetState.fundingScan (st : FaucetState) (lastProcessed : Option Nat) : FundingScanState :=
  match st.activeFundingScan with
  | none => freshFundingScan lastProcessed
  | some scan =>
      if scan.anchorLastProcessedFundingTxId = lastProcessed then scan
      else freshFundingScan lastProcessed

def FaucetState.setScan (st : FaucetState) (scan : Option FundingScanState) : FaucetState :=
  { st with activeFundingScan := scan }

def FaucetState.ownsScan (st : FaucetState) (run : DiscoveryRun) (scan : FundingScanState) : Bool :=
  st.isCurrent run.tick.lease && decide (st.lastProcessedFundingTxId = run.lastProcessed) &&
    st.activePayoutJob.isNone && decide (st.activeFundingScan = some scan)

/-- What a page makes of a scan: a result, or the next scan with its observed oldest record. -/
inductive ScanOutcome where
  | unreadable (reason : FundingDiscoveryUnreadableReason)
  | complete (candidate : Option FundingTranche)
  | continued (scan : FundingScanState) (observedOldest : Option Nat)
  deriving DecidableEq, Repr

def scanPage (pageSize : Nat) (config : FaucetConfig) (run : DiscoveryRun)
    (scan : FundingScanState) (observedOldest : Option Nat) (page : IndexPage) : ScanOutcome :=
  if scan.candidate.isSome && page.oldestTxId.isNone then .unreadable .indexReadFailed
  else
    match validateHistoryPage pageSize page scan.cursor observedOldest with
    | none => .unreadable .indexReadFailed
    | some exhausted =>
        match scanTransactions config run.feeE8s run.lastProcessed scan.candidate
            page.transactions with
        | none => .unreadable .qualifyingFundingTransferMissingTimestamp
        | some (candidate, reachedProcessed) =>
            if exhausted || reachedProcessed then .complete candidate
            else
              .continued
                { scan with
                  candidate := candidate
                  cursor := (page.transactions.getLast?.map IndexTx.id).or scan.cursor }
                page.oldestTxId

end Scan

section Creation

def newPayoutJob (id feeE8s potStartE8s denomE8s createdAtTimeNanos serial : Nat) :
    ActivePayoutJob where
  id
  feeE8s
  potStartE8s
  denomStakingBalanceE8s := denomE8s
  nextStart := none
  scanComplete := false
  ignoredUnderThreshold := 0
  ignoredBadMemo := 0
  grossOutflowE8s := 0
  toppedUpCount := 0
  toppedUpSumE8s := 0
  toppedUpMinE8s := none
  toppedUpMaxE8s := none
  failedTopups := 0
  ambiguousTopups := 0
  remainderToRelayE8s := 0
  pendingTransfer := none
  skipCandidateStartTxId := none
  skipCandidateEndTxId := none
  skipCandidateTxCount := 0
  nextCreatedAtTimeNanos := createdAtTimeNanos
  observedOldestTxId := none
  observedLatestTxId := none
  roundStartTimeNanos := none
  roundStartLatestTxId := none
  roundEndTimeNanos := none
  roundEndLatestTxId := none
  effectiveDenomStakingBalanceE8s := none
  effectiveDenomScanComplete := none
  fundingTxId := none
  fundingTxTimestampNanos := none
  fundingAmountE8s := none
  serial
  staged := []
  failedLookups := []
  overAllocated := false

namespace ActivePayoutJob

variable (job : ActivePayoutJob)

def configureFundingTranche (tranche : FundingTranche) : ActivePayoutJob :=
  { job with
    fundingTxId := some tranche.txId
    fundingTxTimestampNanos := some tranche.timestampNanos
    fundingAmountE8s := some tranche.amountE8s }

def configureRoundAccounting (roundStartTimeNanos roundStartLatestTxId : Option Nat)
    (roundEndTimeNanos : Nat) (roundEndLatestTxId : Option Nat) (denomE8s : Nat)
    (denomScanComplete : Bool) : ActivePayoutJob :=
  { job with
    roundStartTimeNanos := roundStartTimeNanos
    roundStartLatestTxId := roundStartLatestTxId
    roundEndTimeNanos := some roundEndTimeNanos
    roundEndLatestTxId := roundEndLatestTxId
    effectiveDenomStakingBalanceE8s := some denomE8s
    effectiveDenomScanComplete := some denomScanComplete }

end ActivePayoutJob

/-- `ensure_active_job_with_boundary` for a tranche -/
def ensureActiveJob (st : FaucetState) (nowNanos feeE8s denomE8s : Nat)
    (tranche : FundingTranche) : FaucetState :=
  if st.activePayoutJob.isSome then st
  else
    let job := (newPayoutJob st.payoutNonce feeE8s tranche.amountE8s denomE8s nowNanos
      st.past.length).configureFundingTranche tranche
    let job := match st.currentRoundStartTimeNanos with
      | some roundStart =>
          job.configureRoundAccounting (some roundStart) st.currentRoundStartLatestTxId
            tranche.timestampNanos (some tranche.txId) 0 false
      | none =>
          job.configureRoundAccounting none none tranche.timestampNanos (some tranche.txId) 0 false
    { st with
      payoutNonce := satAdd u64Max st.payoutNonce 1
      activePayoutJob := some job }

def FaucetState.awaitsTranche (st : FaucetState) (run : DiscoveryRun) : Bool :=
  st.isCurrent run.tick.lease && decide (st.lastProcessedFundingTxId = run.lastProcessed) &&
    decide (st.payoutNonce = run.payoutNonce) && st.activePayoutJob.isNone

def createJob (st : FaucetState) (run : DiscoveryRun) (tranche : FundingTranche) :
    FaucetState × FundingPause :=
  if st.awaitsTranche run then
    (ensureActiveJob st run.tick.nowNanos run.feeE8s run.denomE8s tranche,
      .await (.payout run.tick))
  else endProcess st run.tick true

def onReread (st : FaucetState) (run : DiscoveryRun) (tranche : FundingTranche) :
    Option Nat → FaucetState × FundingPause
  | balance =>
      if !st.awaitsTranche run then endProcess st run.tick true
      else
        match balance with
        | none => endProcess st run.tick false
        | some balance =>
            if balance < tranche.amountE8s then
              endProcess (st.latchForcedRescueReason .fundingTrancheBalanceMismatch) run.tick true
            else createJob st run tranche

def onDiscovery (st : FaucetState) (run : DiscoveryRun) :
    FundingDiscovery → FaucetState × FundingPause
  | .inProgress | .empty => (st, .await (.probe run.tick))
  | .unreadable .indexReadFailed => endProcess st run.tick false
  | .unreadable .qualifyingFundingTransferMissingTimestamp =>
      endProcess (st.latchForcedRescueReason .fundingDiscoveryUnreadable) run.tick true
  | .found tranche =>
      -- The funding may have arrived after the balance was read.
      if run.payoutBalanceE8s < tranche.amountE8s then (st, .await (.reread run tranche))
      else createJob st run tranche

end Creation

section Discovery

variable (limits : ScanLimits)

def requestPage (st : FaucetState) (run : DiscoveryRun) (scan : FundingScanState)
    (observedOldest : Option Nat) : Nat → FaucetState × FundingPause
  | 0 => onDiscovery st run .inProgress
  | pagesLeft + 1 =>
      if st.ownsScan run scan then (st, .await (.page run scan observedOldest pagesLeft))
      else endProcess st run.tick true

def discover (st : FaucetState) (run : DiscoveryRun) : FaucetState × FundingPause :=
  if st.isCurrent run.tick.lease && decide (st.lastProcessedFundingTxId = run.lastProcessed) &&
      st.activePayoutJob.isNone then
    let scan := st.fundingScan run.lastProcessed
    requestPage (st.setScan (some scan)) run scan none
      limits.maxFundingScanPagesPerTick
  else endProcess st run.tick true

def discoveryOf : Option FundingTranche → FundingDiscovery
  | some candidate => .found candidate
  | none => .empty

def onFundingPage (st : FaucetState) (run : DiscoveryRun) (scan : FundingScanState)
    (observedOldest : Option Nat) (pagesLeft : Nat) (page : Option IndexPage) :
    FaucetState × FundingPause :=
  if !st.ownsScan run scan then endProcess st run.tick true
  else
    match page with
    | none => onDiscovery st run (.unreadable .indexReadFailed)
    | some page =>
        match scanPage limits.pageSize st.config run scan observedOldest page with
        | .unreadable reason => onDiscovery st run (.unreadable reason)
        | .complete candidate =>
            onDiscovery (st.setScan none) run (discoveryOf candidate)
        | .continued next oldest =>
            requestPage (st.setScan (some next)) run next oldest pagesLeft

end Discovery

section Ticks

variable (limits : ScanLimits) (st : FaucetState) (tick : MainTick)

def processPayout : FaucetState × FundingPause :=
  if !st.isCurrent tick.lease then endProcess st tick true
  else if st.activePayoutJob.isNone then (st, .await (.fee tick))
  else (st, .await (.payout tick))

def beginTick (nowNanos : Nat) (force poke : Bool) : FaucetState × FundingPause :=
  let nowSecs := nowNanos / nanosPerSecond
  match acquireLease nowSecs mainTickLeaseSeconds st.mainLockStateTs with
  | none => (st, .done)
  | some lease =>
      let st := { st with mainLockStateTs := some lease }
      let due := satAdd u64Max st.lastMainRunTs (st.config.mainIntervalSeconds - 60)
      if !force && !poke && decide (nowSecs < due) then (st.dropGuard lease, .done)
      else processPayout st ⟨lease, nowNanos, poke⟩

def onFee : Option Nat → FaucetState × FundingPause
  | none => endProcess st tick false
  | some feeE8s =>
      if st.isCurrent tick.lease then (st, .await (.balance tick feeE8s))
      else endProcess st tick true

def onBalance (feeE8s : Nat) : Option Nat → FaucetState × FundingPause
  | none => endProcess st tick false
  | some balanceE8s =>
      if st.isCurrent tick.lease then (st, .await (.denom tick feeE8s balanceE8s))
      else endProcess st tick true

def onDenom (feeE8s payoutBalanceE8s : Nat) : Option Nat → FaucetState × FundingPause
  | none => endProcess st tick false
  | some denomE8s =>
      if !st.isCurrent tick.lease then endProcess st tick true
      else if payoutBalanceE8s ≤ feeE8s ∨ denomE8s = 0 then (st, .await (.probe tick))
      else
        discover limits st
          ⟨tick, feeE8s, payoutBalanceE8s, denomE8s, st.lastProcessedFundingTxId, st.payoutNonce⟩

end Ticks

section Completion

/-- The first segment of `finalize_completed_job`. -/
def startFinalize (st : FaucetState) (tick : MainTick) (expectedJobId : Nat) :
    FaucetState × FundingPause :=
  match st.activePayoutJob with
  | some job =>
      if st.isCurrent tick.lease && decide (job.id = expectedJobId) then
        (st, .await (.finalize tick job))
      else endProcess st tick true
  | none => endProcess st tick true

def FaucetState.finalized (st : FaucetState) (job : ActivePayoutJob) : FaucetState :=
  { st with
    activePayoutJob := none
    currentRoundStartTimeNanos := job.roundEndTimeNanos.or st.currentRoundStartTimeNanos
    currentRoundStartLatestTxId :=
      if job.roundEndTimeNanos.isSome then job.roundEndLatestTxId.or job.observedLatestTxId
      else st.currentRoundStartLatestTxId
    lastProcessedFundingTxId := job.fundingTxId.or st.lastProcessedFundingTxId
    lastSummary := some (summaryFromJob job)
    past := ⟨job, st.config.policy, summaryFromJob job⟩ :: st.past }

def onFinalize (st : FaucetState) (tick : MainTick) (job : ActivePayoutJob) :
    FaucetState × FundingPause :=
  if st.isCurrent tick.lease && st.activePayoutJob.any fun active => decide (active.id = job.id) then
    (st.finalized job, .await (.probe tick))
  else endProcess st tick true

end Completion
end JupiterSuite.Faucet
