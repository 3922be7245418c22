import JupiterSuite.Faucet.PayoutScan
import JupiterSuite.Faucet.TransferDriver

/-! The payout loop of `process_payout`, cut at its awaits: a pending transfer first, then the
denominator pass, the payout pass and the remainder. -/

namespace JupiterSuite.Faucet

open Base Memo

/-- The locals of the payout pass over a page, with the records that it has not seen yet. -/
structure PayoutFrame where
  jobId : Nat
  roundEndLatestTxId : Option Nat
  rest : List IndexTx
  lastId : Option Nat
  scanComplete : Bool
  pagesLeft : Nat
  ignoredUnderThresholdDelta : Nat
  ignoredBadMemoDelta : Nat
  pageNextStart : Option Nat
  lastPersistedCursor : Option Nat
  deriving DecidableEq, Repr

inductive DriveCaller where
  | loop (pagesLeft : Nat)
  | page (frame : PayoutFrame)
  | remainder (jobId : Nat)
  deriving DecidableEq, Repr

structure StakeLookup where
  tx : IndexTx
  neuronId : Nat
  memo : Option (List UInt8)
  grossShareE8s : Nat
  feeE8s : Nat
  deriving DecidableEq, Repr

/-- The job and the staged transfer on whose behalf a call is made. -/
structure PayoutTag where
  serial : Nat
  number : Nat
  deriving DecidableEq, Repr

def ActivePayoutJob.latestTag (job : ActivePayoutJob) : PayoutTag :=
  ⟨job.serial, job.staged.length - 1⟩

def FaucetState.stagedTag (st : FaucetState) : PayoutTag :=
  match st.activePayoutJob with
  | some job => job.latestTag
  | none => ⟨st.past.length, 0⟩

inductive PayoutKont where
  -- Suspended somewhere in the discovery of a tranche.
  | discovery (tick : MainTick)
  | page (tick : MainTick) (job : ActivePayoutJob) (pagesLeft : Nat)
  | lookup (tick : MainTick) (frame : PayoutFrame) (stake : StakeLookup) (second : Bool)
  | transfer (caller : DriveCaller) (run : DriveRun) (second priorUncertainty : Bool) (call : Nat)
  | claim (caller : DriveCaller) (run : DriveRun)
  -- The tag of the staged transfer is read by no code.
  | notify (caller : DriveCaller) (run : DriveRun) (first : Option NotifyAttemptOutcome)
      (tag : PayoutTag)
  | finalize (tick : MainTick) (job : ActivePayoutJob)
  -- The index is probed after a completion.
  | probe (tick : MainTick)
  | rescue (tick : MainTick)
  deriving DecidableEq, Repr

def PayoutKont.lease : PayoutKont → Nat
  | .discovery tick | .page tick _ _ | .lookup tick _ _ _ | .finalize tick _ | .probe tick
  | .rescue tick => tick.lease
  | .transfer _ run _ _ _ | .claim _ run | .notify _ run _ _ => run.tick.lease

/-- Where a segment stops. A transfer becomes a continuation once its call is numbered. -/
inductive PayoutPause where
  | done
  | await (kont : PayoutKont)
  | transferring (caller : DriveCaller) (run : DriveRun) (second priorUncertainty : Bool)
      (arg : TransferArg)
  | trapped (failed : FailedExpectation) (lease : Nat)
  deriving DecidableEq, Repr

/-- What follows the driver: its caller goes on with the result, or is suspended with it. -/
def afterDrive (caller : DriveCaller) (lease : Nat)
    (goOn : FaucetState → Bool → FaucetState × PayoutPause) :
    FaucetState × DriveStop → FaucetState × PayoutPause
  | (st, .finished ok) => goOn st ok
  | (st, .transferring run second priorUncertainty arg) =>
      (st, .transferring caller run second priorUncertainty arg)
  | (st, .claiming run) => (st, .await (.claim caller run))
  | (st, .notifying run first) => (st, .await (.notify caller run first st.stagedTag))
  | (st, .trapped failed) => (st, .trapped failed lease)

def FundingPause.outside : FundingPause → PayoutPause
  | .done => .done
  | .await (.finalize tick job) => .await (.finalize tick job)
  | .await (.probe tick) => .await (.probe tick)
  | .await (.rescue tick) => .await (.rescue tick)
  | .await (.fee tick) | .await (.balance tick _) | .await (.denom tick _ _)
  | .await (.payout tick) => .await (.discovery tick)
  | .await (.page run _ _ _) | .await (.reread run _) => .await (.discovery run.tick)

def leaveWith (result : FaucetState × FundingPause) : FaucetState × PayoutPause :=
  (result.1, result.2.outside)

def leavePayout (st : FaucetState) (tick : MainTick) (ok : Bool) : FaucetState × PayoutPause :=
  leaveWith (endProcess st tick ok)

section Completion

variable (st : FaucetState) (tick : MainTick)

def remainderNotification (job : ActivePayoutJob) (remainderGrossE8s : Nat) :
    PendingNotification where
  kind := .remainderToRelay
  beneficiary := st.config.canonicalRelayCanisterId
  grossShareE8s := remainderGrossE8s
  amountE8s := remainderGrossE8s - job.feeE8s
  blockIndex := 0
  nextStart := none
  transferMemo := some []
  destinationSubaccount := none
  neuronId := none

def completeJob (job : ActivePayoutJob) : FaucetState × PayoutPause :=
  match checkedSub job.potStartE8s job.grossOutflowE8s with
  | none => (st, .trapped .validatedPayoutAccounting tick.lease)
  | some remainderGrossE8s =>
      if job.feeE8s < remainderGrossE8s ∧ job.remainderToRelayE8s = 0 then
        afterDrive (.remainder job.id) tick.lease
          (fun st ok =>
            if ok then leaveWith (startFinalize st tick job.id) else leavePayout st tick true)
          (sendAndNotify st tick (remainderNotification st job remainderGrossE8s) job.feeE8s)
      else leaveWith (startFinalize st tick job.id)

end Completion

section Loop

variable (limits : ScanLimits) (st : FaucetState) (tick : MainTick)

/-- The loop without a pending transfer. A page and a jump count against the same limit. -/
def payoutScans (tick : MainTick) : Nat → FaucetState → FaucetState × PayoutPause
  | pagesLeft, st =>
      match st.activePayoutJob with
      | none => leavePayout st tick true
      | some job =>
          if job.scanComplete then
            if job.denomScanComplete then completeJob st tick job
            else (st, .await (.page tick job pagesLeft))
          else
            match pagesLeft with
            | 0 => leavePayout st tick true
            | left + 1 =>
                match skipCachedHistory limits st job with
                | .error _ => leavePayout st.latchSkipRangeInvariantFault tick true
                | .ok (some st) => payoutScans tick left st
                | .ok none => (st, .await (.page tick job (left + 1)))

def payoutLoop (pagesLeft : Nat) : FaucetState × PayoutPause :=
  if !st.isCurrent tick.lease then leavePayout st tick true
  else
    match st.activePayoutJob with
    | none => leavePayout st tick true
    | some job =>
        if job.pendingTransfer.isSome then
          afterDrive (.loop pagesLeft) tick.lease
            (fun st ok =>
              if ok then payoutScans limits tick pagesLeft st else leavePayout st tick true)
            (drivePendingTransfer st tick job.feeE8s 0)
        else payoutScans limits tick pagesLeft st

end Loop

section PayoutPass

variable (limits : ScanLimits) (fromText : Text → Option Principal)

def FaucetState.updateJob (st : FaucetState) (selected : ActivePayoutJob → Bool)
    (update : ActivePayoutJob → ActivePayoutJob) : FaucetState :=
  match st.activePayoutJob.filter selected with
  | some job => st.setJob (update job)
  | none => st

def ActivePayoutJob.addIgnored (job : ActivePayoutJob) (frame : PayoutFrame) : ActivePayoutJob :=
  { job with
    ignoredUnderThreshold :=
      satAdd u64Max job.ignoredUnderThreshold frame.ignoredUnderThresholdDelta
    ignoredBadMemo := satAdd u64Max job.ignoredBadMemo frame.ignoredBadMemoDelta }

def PayoutFrame.atCursor (frame : PayoutFrame) (job : ActivePayoutJob) : Bool :=
  decide (job.id = frame.jobId) && decide (job.nextStart = frame.lastPersistedCursor)

def FaucetState.scansPage (st : FaucetState) (tick : MainTick) (frame : PayoutFrame) : Bool :=
  st.isCurrent tick.lease && st.activePayoutJob.any fun active =>
    frame.atCursor active && !active.scanComplete

def ActivePayoutJob.flush (job : ActivePayoutJob) (frame : PayoutFrame) : ActivePayoutJob :=
  { (job.addIgnored frame).setSkipCandidate .empty with
    nextStart := frame.pageNextStart.or job.nextStart }

def flushScanProgress (st : FaucetState) (tick : MainTick) (frame : PayoutFrame) : FaucetState :=
  if st.isCurrent tick.lease then st.updateJob frame.atCursor (·.flush frame) else st

def PayoutFrame.flushed (frame : PayoutFrame) : PayoutFrame :=
  { frame with
    ignoredUnderThresholdDelta := 0
    ignoredBadMemoDelta := 0
    lastPersistedCursor := frame.pageNextStart.or frame.lastPersistedCursor }

/-- Flushes the progress and stages the share, unless the page was lost; the caller goes on behind
the record. -/
def sendShare (st : FaucetState) (tick : MainTick) (frame : PayoutFrame)
    (notification : PendingNotification) (feeE8s : Nat)
    (goOn : FaucetState → FaucetState × PayoutPause) : FaucetState × PayoutPause :=
  let st := flushScanProgress st tick frame
  if st.isCurrent tick.lease && st.activePayoutJob.any fun active =>
      decide (active.id = frame.jobId) && decide (active.nextStart = frame.pageNextStart) then
    afterDrive (.page frame.flushed) tick.lease
      (fun st ok =>
        if ok && st.scansPage tick frame.flushed then goOn st else leavePayout st tick true)
      (sendAndNotify st tick notification feeE8s)
  else leavePayout st tick true

def shareNotification (tx : IndexTx) (grossShareE8s feeE8s : Nat) (kind : TransferKind)
    (beneficiary : Principal) (transferMemo destinationSubaccount : Option (List UInt8))
    (neuronId : Option Nat) : PendingNotification where
  kind
  beneficiary
  grossShareE8s
  amountE8s := grossShareE8s - feeE8s
  blockIndex := 0
  nextStart := some tx.id
  transferMemo
  destinationSubaccount
  neuronId

def ActivePayoutJob.endPage (job : ActivePayoutJob) (frame : PayoutFrame) : ActivePayoutJob :=
  if frame.scanComplete then { job.flush frame with scanComplete := true }
  else { job.flush frame with nextStart := frame.lastId }

def finishPage (st : FaucetState) (tick : MainTick) (frame : PayoutFrame) : FaucetState :=
  if st.isCurrent tick.lease then st.updateJob frame.atCursor (·.endPage frame) else st

def endPage (st : FaucetState) (tick : MainTick) (frame : PayoutFrame) : FaucetState × PayoutPause :=
  let st := finishPage st tick frame
  if st.isCurrent tick.lease && st.activePayoutJob.any fun active =>
      decide (active.id = frame.jobId) then
    if !frame.scanComplete && decide (frame.pagesLeft = 0) then leavePayout st tick true
    else payoutLoop limits st tick frame.pagesLeft
  else leavePayout st tick true

inductive PayoutRecord where
  -- In the cache, or no transfer to the staking account.
  | irrelevant
  | underThreshold
  | badMemo
  -- The share is not worth the fee.
  | dust
  | share (grossShareE8s feeE8s : Nat) (target : PayoutTarget)
  | overAllocated
  | brokenCache
  | noJob
  deriving DecidableEq, Repr

def readShare (st : FaucetState) (job : ActivePayoutJob) (nowNanos : Nat) (tx : IndexTx)
    (commitment : Commitment) (target : PayoutTarget) : PayoutRecord :=
  let amountForRoundE8s := (commitmentAmountForJobPayoutE8s job commitment tx.id
    (indexTxTimestampNanos tx) nowNanos st.config.policy.recognitionDelaySeconds).getD 0
  let grossShareE8s := computeRawShareE8s amountForRoundE8s job.potStartE8s job.denomE8s
  if grossShareE8s ≤ job.feeE8s then .dust
  else if job.potStartE8s < satAdd u64Max job.grossOutflowE8s grossShareE8s then .overAllocated
  else .share grossShareE8s job.feeE8s target

def readRecord (st : FaucetState) (nowNanos : Nat) (tx : IndexTx) : PayoutRecord :=
  match st.skipRangeContaining limits tx.id with
  | .error _ => .brokenCache
  | .ok (some _) => .irrelevant
  | .ok none =>
      match memoBytesFromIndexTx tx st.config.policy.stakingAccountIdentifier with
      | none => .irrelevant
      | some commitment =>
          match st.activePayoutJob with
          | none => .noJob
          | some job =>
              match classifyCommitment fromText st.config.policy.minTxE8s commitment with
              | .ignoreUnderThreshold => .underThreshold
              | .ignoreBadMemo => .badMemo
              | .valid target => readShare st job nowNanos tx commitment target

def payRecords (tick : MainTick) (frame : PayoutFrame) :
    List IndexTx → FaucetState → FaucetState × PayoutPause
  | [], st => endPage limits st tick { frame with rest := [] }
  | tx :: rest, st =>
      let frame := { frame with pageNextStart := some tx.id, rest := rest }
      if frame.roundEndLatestTxId.any fun last => decide (last < tx.id) then
        payRecords tick frame rest st
      else
        match readRecord limits fromText st tick.nowNanos tx with
        | .irrelevant | .dust => payRecords tick frame rest st
        | .underThreshold =>
            payRecords tick
              { frame with
                ignoredUnderThresholdDelta := satAdd u64Max frame.ignoredUnderThresholdDelta 1 }
              rest st
        | .badMemo =>
            payRecords tick
              { frame with ignoredBadMemoDelta := satAdd u64Max frame.ignoredBadMemoDelta 1 }
              rest st
        | .share grossShareE8s feeE8s (.cyclesTopUp canisterId) =>
            sendShare st tick frame (shareNotification tx grossShareE8s feeE8s .beneficiary
              canisterId none none none) feeE8s (payRecords tick frame.flushed rest)
        | .share grossShareE8s feeE8s (.rawIcp canisterId destinationSubaccount memo) =>
            sendShare st tick frame (shareNotification tx grossShareE8s feeE8s .rawIcp
              canisterId (some memo) destinationSubaccount none) feeE8s
              (payRecords tick frame.flushed rest)
        | .share grossShareE8s feeE8s (.neuronStake neuronId memo) =>
            (st, .await (.lookup tick frame ⟨tx, neuronId, memo, grossShareE8s, feeE8s⟩ false))
        | .overAllocated =>
            leavePayout (st.latchForcedRescueReason .accountingInvariantBroken) tick true
        | .brokenCache => leavePayout st.latchSkipRangeInvariantFault tick true
        | .noJob => (st, .trapped .activePayoutJob tick.lease)

def onSubaccount (st : FaucetState) (tick : MainTick) (frame : PayoutFrame) (stake : StakeLookup)
    (second : Bool) : Option (List UInt8) → FaucetState × PayoutPause
  | some subaccount =>
      if st.scansPage tick frame then
        sendShare st tick frame (shareNotification stake.tx stake.grossShareE8s stake.feeE8s
          .neuronStake st.config.governanceCanisterId stake.memo (some subaccount)
          (some stake.neuronId)) stake.feeE8s
          (payRecords limits fromText tick frame.flushed frame.rest)
      else leavePayout st tick true
  | none =>
      -- The retry follows the first failure without a look at the lease.
      if !second then (st, .await (.lookup tick frame stake true))
      else if st.scansPage tick frame then
        payRecords limits fromText tick frame frame.rest
          (st.updateJob (fun job => decide (job.id = frame.jobId)) fun job =>
            { job with
              failedTopups := satAdd u64Max job.failedTopups 1
              failedLookups := stake.tx.id :: job.failedLookups })
      else leavePayout st tick true

end PayoutPass

section Pages

variable (limits : ScanLimits) (fromText : Text → Option Principal)

def FaucetState.scansDenominator (st : FaucetState) (tick : MainTick) (job : ActivePayoutJob) :
    Bool :=
  st.isCurrent tick.lease && st.activePayoutJob.any fun active =>
    decide (active.id = job.id) && decide (active.nextStart = job.nextStart) &&
      decide (active.effectiveDenomScanComplete = some false)

def onDenomPage (st : FaucetState) (tick : MainTick) (job : ActivePayoutJob) (pagesLeft : Nat)
    (page : IndexPage) : FaucetState × PayoutPause :=
  let expectedOldest := st.config.expectedFirstStakingTxId
  if expectedOldest.any fun id => decide (page.oldestTxId ≠ some id) then leavePayout st tick true
  else
    match validateHistoryPage limits.pageSize page job.nextStart
        (job.observedOldestTxId.or expectedOldest) with
    | none => leavePayout st tick false
    | some scanComplete =>
        match applyDenomPage limits fromText st job tick.nowNanos page scanComplete with
        | .overflow => leavePayout st tick false
        | .fault st => leavePayout st tick true
        | .applied st =>
            if !scanComplete && decide (pagesLeft = 0) then leavePayout st tick true
            else payoutLoop limits st tick pagesLeft

def FaucetState.scansPayouts (st : FaucetState) (tick : MainTick) (job : ActivePayoutJob) : Bool :=
  st.isCurrent tick.lease && st.activePayoutJob.any fun active =>
    decide (active.id = job.id) && decide (active.nextStart = job.nextStart) &&
      !active.scanComplete && active.denomScanComplete

/-- `note_index_page_with_lease` -/
def ActivePayoutJob.noteIndexPage (job : ActivePayoutJob) (page : IndexPage) : ActivePayoutJob :=
  { job with
    observedOldestTxId := job.observedOldestTxId.or page.oldestTxId
    observedLatestTxId :=
      match page.transactions.head? with
      | some tx => some (max (job.observedLatestTxId.getD tx.id) tx.id)
      | none => job.observedLatestTxId }

def onPayoutPage (st : FaucetState) (tick : MainTick) (job : ActivePayoutJob) (pagesLeft : Nat)
    (page : IndexPage) : FaucetState × PayoutPause :=
  match validateHistoryPage limits.pageSize page job.nextStart
      (job.observedOldestTxId.or st.config.expectedFirstStakingTxId) with
  | none => leavePayout st tick false
  | some scanComplete =>
      let frame : PayoutFrame := {
        jobId := job.id
        roundEndLatestTxId := job.roundEndLatestTxId
        rest := page.transactions
        lastId := (page.transactions.getLast?.map IndexTx.id).or job.nextStart
        scanComplete
        pagesLeft
        ignoredUnderThresholdDelta := 0
        ignoredBadMemoDelta := 0
        pageNextStart := job.nextStart
        lastPersistedCursor := job.nextStart }
      payRecords limits fromText tick frame page.transactions
        (st.updateJob
          (fun active => decide (active.id = job.id) && decide (active.nextStart = job.nextStart))
          fun active => active.noteIndexPage page)

def onPage (st : FaucetState) (tick : MainTick) (job : ActivePayoutJob) (pagesLeft : Nat) :
    Option IndexPage → FaucetState × PayoutPause
  | none => leavePayout st tick false
  | some page =>
      if job.denomScanComplete then
        if st.scansPayouts tick job then
          onPayoutPage limits fromText st tick job (pagesLeft - 1) page
        else leavePayout st tick true
      else if st.scansDenominator tick job then
        onDenomPage limits fromText st tick job (pagesLeft - 1) page
      else leavePayout st tick true

end Pages
end JupiterSuite.Faucet
