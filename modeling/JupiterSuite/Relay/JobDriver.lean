import JupiterSuite.Relay.JobState

/-! The funding pipeline of a main tick or a poke, cut at its awaits. `continue` suspends the
drive loop as well: its next iteration reads everything again. -/

namespace JupiterSuite.Relay

open Base

def mainTickLeaseSeconds : Nat := 30 * 60

def memoTopUpCanisterU64 : Nat := 1347768404

def cmcDepositAccount (cmcId canisterId : Principal) : Account :=
  ⟨cmcId, some (principalToSubaccount canisterId)⟩

def destinationForPending (cmcId : Principal) : PendingTransferKind → Account
  | .cmcTopUp canisterId => cmcDepositAccount cmcId canisterId
  | .surplusIcp _ account _ => account

def memoForPending : PendingTransferKind → Option (List UInt8)
  | .cmcTopUp _ => some (u64ToLeBytes memoTopUpCanisterU64)
  | .surplusIcp _ _ memo => memo

def pendingTransferArg (cmcId : Principal) (feeE8s : Nat) (pending : PendingTransfer) :
    TransferArg where
  fromSubaccount := none
  toAccount := destinationForPending cmcId pending.kind
  fee := some feeE8s
  createdAtTime := some pending.createdAtTimeNanos
  memo := memoForPending pending.kind
  amount := pending.amountE8s

inductive TransferAttemptOutcome where
  | accepted (block : Nat)
  | immediateRetryable
  | badFee (expectedFee : Nat)
  | failed
  deriving DecidableEq, Repr

def acceptedBlock (block : Nat) : TransferAttemptOutcome :=
  if block ≤ u64Max then .accepted block else .immediateRetryable

def transferOnce : Option TransferReply → TransferAttemptOutcome
  | some (.ok block) => acceptedBlock block
  | some (.error (.duplicate block)) => acceptedBlock block
  | some (.error .temporarilyUnavailable) => .immediateRetryable
  | some (.error (.createdInFuture _)) => .immediateRetryable
  | some (.error (.genericError _ _)) => .immediateRetryable
  | some (.error (.badFee expectedFee)) => .badFee expectedFee
  | some (.error (.badBurn _)) => .failed
  | some (.error (.insufficientFunds _)) => .failed
  | some (.error .tooOld) => .failed
  | none => .immediateRetryable

inductive NotifyAttemptOutcome where
  | succeeded (mintedCycles : Nat)
  | retryable
  | terminal
  deriving DecidableEq, Repr

structure JobStart where
  lease : Nat
  nowNanos : Nat
  expectedNextJobId : Nat
  deriving DecidableEq, Repr

/-- One run of `drive_active_job`; `number` counts them and is read by no code. -/
structure Tick where
  lease : Nat
  nowNanos : Nat
  poke : Bool
  number : Nat
  limit : Option Nat
  started : Nat
  deriving DecidableEq, Repr

/-- What `plan_surplus_phase` read of the job before its awaits. -/
structure SurplusPhase where
  jobId : Nat
  knownUnspentE8s : Nat
  feeE8s : Nat
  deriving DecidableEq, Repr

inductive JobKont where
  | stages (lease nowNanos : Nat) (poke : Bool)
  | probe (start : JobStart)
  | balance (start : JobStart) (current : List (Principal × Nat))
  | fee (start : JobStart) (current : List (Principal × Nat)) (balance : Nat)
  | conversion (start : JobStart) (current : List (Principal × Nat)) (balance feeE8s : Nat)
  | loop (tick : Tick)
  | governance (tick : Tick) (phase : SurplusPhase) (recipient : SurplusRecipient)
      (remaining : List SurplusRecipient) (resolved : List ResolvedSurplusRecipient)
  | transfer (tick : Tick) (jobId feeE8s : Nat) (staged : PendingTransfer) (second : Bool)
      (call : Nat)
  | notify (tick : Tick) (jobId : Nat) (accepted : PendingTransfer) (canisterId : Principal)
      (first : Option NotifyAttemptOutcome)
  | rewards (lease : Nat)
  deriving DecidableEq, Repr

inductive JobPause where
  | done
  | await (kont : JobKont)
  | drive (lease nowNanos : Nat) (poke : Bool)
  | transferring (tick : Tick) (jobId feeE8s : Nat) (staged : PendingTransfer) (second : Bool)
  deriving DecidableEq, Repr

inductive JobReply where
  | stages (completed : Bool)
  | probed (snapshots : List (Principal × Nat)) (transientFailures : Bool)
  | amount (result : Option Nat)
  | conversion (rate : Option (Nat × Nat))
  | subaccount (result : Option (List UInt8))
  | transfer (result : Option TransferReply)
  | notify (result : NotifyAttemptOutcome)
  | resumed
  deriving DecidableEq, Repr

variable (relayId : Principal)

def effectiveManagedCanisters (config : RelayConfig) : List Principal :=
  relayId :: config.managedCanisters

section Start

def RelayState.report (st : RelayState) (reason : String) (nowNanos : Nat) : RelayState :=
  { st with
    lastSummary := some
      { skippedSurplusReason := some reason
        completedAtTsNanos := some nowNanos } }

/-- `start_job_with_self_with_lease` returned. -/
def afterStart (st : RelayState) (start : JobStart) : RelayState × JobPause :=
  if st.isCurrent start.lease then (st, .drive start.lease start.nowNanos false)
  else (st.dropGuard start.lease, .done)

def jobGenerationMatches (st : RelayState) (start : JobStart) : Bool :=
  st.isCurrent start.lease && st.activeJob.isNone &&
    decide (st.nextJobId = start.expectedNextJobId)

def startJob (st : RelayState) (lease nowNanos : Nat) : RelayState × JobPause :=
  if st.activeJob.isNone then (st, .await (.probe ⟨lease, nowNanos, st.nextJobId⟩))
  else (st, .drive lease nowNanos false)

def completeBaselineSample (st : RelayState) (current : List (Principal × Nat))
    (nowNanos : Nat) : RelayState :=
  let st := st.retainEffectiveTargets (effectiveManagedCanisters relayId st.config)
  let fresh := current.filter fun entry => (st.lastCompletedCycles entry.1).isNone
  { st.report "missing_previous_sample" nowNanos with
    lastCompletedCycles := insertCycles st.lastCompletedCycles fresh
    relayMintedCyclesSinceSample :=
      removeCycles st.relayMintedCyclesSinceSample fresh }.record (.baseline fresh)

def onProbe (st : RelayState) (start : JobStart) (snapshots : List (Principal × Nat))
    (transientFailures : Bool) : RelayState × JobPause :=
  if !jobGenerationMatches st start then afterStart st start
  else if transientFailures then
    afterStart (st.report "transient_probe_failure" start.nowNanos) start
  else if snapshots.all fun entry => (st.lastCompletedCycles entry.1).isSome then
    (st, .await (.balance start snapshots))
  else afterStart (completeBaselineSample relayId st snapshots start.nowNanos) start

def onBalance (st : RelayState) (start : JobStart) (current : List (Principal × Nat)) :
    Option Nat → RelayState × JobPause
  | none => afterStart (st.report "ledger_balance_read_failed" start.nowNanos) start
  | some balance =>
      if !jobGenerationMatches st start then afterStart st start
      else (st, .await (.fee start current balance))

def RelayState.samples (st : RelayState) (current : List (Principal × Nat)) : CycleSamples :=
  ⟨current, st.lastCompletedCycles, st.relayMintedCyclesSinceSample, st.recoveryDeficitCycles⟩

def hasRawIcpRecipients (st : RelayState) : Bool := !st.config.surplusRecipients.isEmpty

def allocationFor (st : RelayState) (current : List (Principal × Nat)) (balance feeE8s : Nat)
    (estimate : Option ConversionEstimate) (nowNanos : Nat) : AllocationPlan :=
  if hasRawIcpRecipients st then
    buildAllocationPlan (st.samples current) balance feeE8s estimate nowNanos
  else buildSpendAllCyclesPlan (st.samples current) balance feeE8s

def completeNoFundsSample (st : RelayState) (current : List (Principal × Nat))
    (feeE8s nowNanos : Nat) : RelayState :=
  let allocation := allocationFor st current 0 feeE8s none nowNanos
  let st := st.retainEffectiveTargets (effectiveManagedCanisters relayId st.config)
  { st with
    lastCompletedCycles := insertCycles st.lastCompletedCycles current
    relayMintedCyclesSinceSample := removeCycles st.relayMintedCyclesSinceSample current
    recoveryDeficitCycles := persistRecoveryDeficits st.recoveryDeficitCycles allocation.topups
    lastSummary := some
      { feeE8s
        skippedSurplusReason := some "no_surplus"
        completedAtTsNanos := some nowNanos } }.record (.run allocation.topups [])

def buildJob (st : RelayState) (start : JobStart) (current : List (Principal × Nat))
    (balance feeE8s : Nat) : ActiveRelayJob :=
  let allocation := allocationFor st current balance feeE8s st.conversionEstimate start.nowNanos
  let canisters := allocation.topups.map CanisterBurnSample.ofPlan
  { id := start.expectedNextJobId
    feeE8s
    balanceStartE8s := balance
    currentCycles := current
    canisters
    surplusTransfers := []
    surplusMemos := []
    surplusPhasePlanned := !hasRawIcpRecipients st || !allocation.topupPhaseFullyFunded
    pendingTransfer := none
    nextTransferIndex := 0
    surplusTransferIndex := 0
    nextCreatedAtTimeNanos := start.nowNanos
    summary :=
      { defaultAccountBalanceStartE8s := balance
        feeE8s
        skippedSurplusReason := allocation.skippedSurplusReason
        plannedRetainedE8s := retainedE8s balance canisters []
        knownUnspentE8s := retainedE8s balance canisters [] }
    serial := st.past.length
    staged := [] }

/-- The rest of the start after its last await. -/
def installJob (st : RelayState) (start : JobStart) (current : List (Principal × Nat))
    (balance feeE8s : Nat) : RelayState × JobPause :=
  if !jobGenerationMatches st start then afterStart st start
  else
    afterStart
      { st with
        relayMintedCyclesSinceSample := removeCycles st.relayMintedCyclesSinceSample current
        mints := []
        nextJobId := satAdd u64Max st.nextJobId 1
        activeJob := some (buildJob st start current balance feeE8s) } start

def onFee (st : RelayState) (start : JobStart) (current : List (Principal × Nat))
    (balance : Nat) (reply : Option Nat) : RelayState × JobPause :=
  let resolved := st.resolveIcpLedgerFeeE8s reply
  let st := resolved.1
  let feeE8s := resolved.2
  if !jobGenerationMatches st start then afterStart st start
  else if balance = 0 then
    afterStart (completeNoFundsSample relayId st current feeE8s start.nowNanos) start
  else if hasRawIcpRecipients st then (st, .await (.conversion start current balance feeE8s))
  else installJob st start current balance feeE8s

def conversionEstimateFromCmcRate (xdrPermyriadPerIcp timestampSeconds : Nat) :
    Option ConversionEstimate :=
  if xdrPermyriadPerIcp = 0 then none
  else if timestampSeconds * nanosPerSecond ≤ u64Max then
    some ⟨xdrPermyriadPerIcp, timestampSeconds * nanosPerSecond⟩
  else none

def refreshConversionEstimate (st : RelayState) (lease : Nat) (rate : Option (Nat × Nat)) :
    RelayState :=
  match rate.bind fun rate => conversionEstimateFromCmcRate rate.1 rate.2 with
  | none => st
  | some estimate =>
      if st.isCurrent lease then { st with conversionEstimate := some estimate } else st

def onConversion (st : RelayState) (start : JobStart) (current : List (Principal × Nat))
    (balance feeE8s : Nat) (rate : Option (Nat × Nat)) : RelayState × JobPause :=
  installJob (refreshConversionEstimate st start.lease rate) start current balance feeE8s

end Start

section Drive

/-- `drive_active_job` returned, with the value it gives its caller. -/
def returnFromDrive (st : RelayState) (tick : Tick) (completed : Bool) : RelayState × JobPause :=
  if completed && st.isCurrent tick.lease && !tick.poke then (st, .await (.rewards tick.lease))
  else (st.dropGuard tick.lease, .done)

/-- A pending transfer was driven; the loop goes on if the lease is still current. -/
def nextPass (st : RelayState) (tick : Tick) : RelayState × JobPause := (st, .await (.loop tick))

def settleSurplus (st : RelayState) (tick : Tick) (phase : SurplusPhase)
    (resolved : List ResolvedSurplusRecipient) : RelayState :=
  if rejectDuplicateResolvedDestinations resolved then
    st.updateActiveJob tick.lease phase.jobId fun job =>
      job.installSurplus
        (buildSurplusPlan resolved phase.knownUnspentE8s phase.feeE8s st.conversionEstimate
          tick.nowNanos)
        (resolved.map ResolvedSurplusRecipient.memo)
  else
    st.updateActiveJob tick.lease phase.jobId fun job =>
      job.disableSurplus "recipient_resolution_failed"

/-- Resolves recipients up to the next neuron, whose account governance is asked for. -/
def resolveSurplusRecipients (st : RelayState) (tick : Tick) (phase : SurplusPhase) :
    List SurplusRecipient → List ResolvedSurplusRecipient → RelayState × JobPause
  | [], resolved => nextPass (settleSurplus st tick phase resolved) tick
  | recipient :: remaining, resolved =>
      match recipient.target with
      | .canister _ =>
          resolveSurplusRecipients st tick phase remaining
            (resolved ++ (resolveCanisterSurplusRecipient recipient).toList)
      | .neuron _ => (st, .await (.governance tick phase recipient remaining resolved))

def onGovernance (st : RelayState) (tick : Tick) (phase : SurplusPhase)
    (recipient : SurplusRecipient) (remaining : List SurplusRecipient)
    (resolved : List ResolvedSurplusRecipient) :
    Option (List UInt8) → RelayState × JobPause
  | none =>
      nextPass (st.updateActiveJob tick.lease phase.jobId fun job =>
        job.disableSurplus "recipient_resolution_failed") tick
  | some subaccount =>
      resolveSurplusRecipients st tick phase remaining
        (resolved ++ [⟨recipient.target,
          ⟨st.config.governanceCanisterId, some subaccount⟩, recipient.memo⟩])

def planSurplusPhase (st : RelayState) (tick : Tick) (job : ActiveRelayJob) :
    RelayState × JobPause :=
  match job.surplusAllowedAfterTopups with
  | some reason =>
      nextPass (st.updateActiveJob tick.lease job.id fun job => job.disableSurplus reason) tick
  | none =>
      resolveSurplusRecipients st tick ⟨job.id, job.summary.knownUnspentE8s, job.feeE8s⟩
        st.config.surplusRecipients []

/-- The transfer was accepted at the block that its phase names. -/
def driveAccepted (st : RelayState) (tick : Tick) (jobId : Nat) (accepted : PendingTransfer) :
    RelayState × JobPause :=
  match accepted.kind with
  | .cmcTopUp canisterId => (st, .await (.notify tick jobId accepted canisterId none))
  | .surplusIcp _ _ _ => nextPass (st.markPendingCompleted jobId accepted none) tick

def drivePendingTransfer (st : RelayState) (tick : Tick) (job : ActiveRelayJob)
    (pending : PendingTransfer) : RelayState × JobPause :=
  match pending.phase with
  | .awaitingTransfer =>
      if createdAtTimeIsValid pending.createdAtTimeNanos tick.nowNanos then
        (st, .transferring tick job.id job.feeE8s pending false)
      else nextPass (st.markPendingAmbiguous job.id pending) tick
  | .transferAccepted _ => driveAccepted st tick job.id pending

/-- One iteration of the loop of `drive_active_job`. -/
def driveActiveJobStep (st : RelayState) (tick : Tick) (nowNanos : Nat) : RelayState × JobPause :=
  if !st.isCurrent tick.lease then returnFromDrive st tick true
  else
    match st.activeJob with
    | none => returnFromDrive st tick true
    | some job =>
        match job.pendingTransfer with
        | some pending => drivePendingTransfer st tick job pending
        | none =>
            if job.topupPhaseDoneAndSurplusUnplanned then planSurplusPhase st tick job
            else
              match job.planNextTransfer tick.limit tick.started tick.number nowNanos with
              | (job, .planned) =>
                  -- The counter saturates, but only a limit below 2^32 is ever compared with it.
                  nextPass (st.setActiveJob job) { tick with started := tick.started + 1 }
              | (job, .paused) => returnFromDrive (st.setActiveJob job) tick true
              | (job, .done) =>
                  if job.topupPhaseDoneAndSurplusUnplanned then
                    nextPass (st.setActiveJob job) tick
                  else
                    returnFromDrive ((st.setActiveJob job).completeJob
                      (effectiveManagedCanisters relayId st.config) tick.nowNanos) tick true

def acceptTransfer (st : RelayState) (tick : Tick) (jobId : Nat) (staged : PendingTransfer)
    (block : Nat) : RelayState × JobPause :=
  driveAccepted (st.markPendingLedgerAccepted jobId staged block) tick jobId
    { staged with phase := .transferAccepted block }

def stopForFeeChange (st : RelayState) (tick : Tick) : RelayState × JobPause :=
  nextPass (st.stopActiveJobForLedgerFeeChange (effectiveManagedCanisters relayId st.config)
    tick.nowNanos) tick

def onFirstTransfer (st : RelayState) (tick : Tick) (jobId feeE8s : Nat)
    (staged : PendingTransfer) (reply : Option TransferReply) : RelayState × JobPause :=
  if !st.pendingMatches jobId staged then returnFromDrive st tick false
  else
    match transferOnce reply with
    | .accepted block => acceptTransfer st tick jobId staged block
    | .immediateRetryable => (st, .transferring tick jobId feeE8s staged true)
    | .badFee expectedFee =>
        stopForFeeChange relayId ((st.recordBadFee expectedFee).markPendingFailed jobId staged) tick
    | .failed => nextPass (st.markPendingFailed jobId staged) tick

def onSecondTransfer (st : RelayState) (tick : Tick) (jobId : Nat) (staged : PendingTransfer)
    (reply : Option TransferReply) : RelayState × JobPause :=
  if !st.pendingMatches jobId staged then returnFromDrive st tick false
  else
    match transferOnce reply with
    | .accepted block => acceptTransfer st tick jobId staged block
    | .badFee expectedFee =>
        stopForFeeChange relayId
          ((st.recordBadFee expectedFee).markPendingAmbiguous jobId staged) tick
    | .immediateRetryable | .failed => nextPass (st.markPendingAmbiguous jobId staged) tick

def onNotify (st : RelayState) (tick : Tick) (jobId : Nat) (accepted : PendingTransfer)
    (canisterId : Principal) (first : Option NotifyAttemptOutcome)
    (reply : NotifyAttemptOutcome) : RelayState × JobPause :=
  if !st.pendingMatches jobId accepted then returnFromDrive st tick false
  else
    match reply, first with
    | .succeeded mintedCycles, _ =>
        nextPass (st.markPendingCompleted jobId accepted (some (canisterId, mintedCycles))) tick
    | outcome, none => (st, .await (.notify tick jobId accepted canisterId (some outcome)))
    | .terminal, some .terminal =>
        nextPass (st.markPendingFailedAfterAcceptance jobId accepted) tick
    | _, some _ => nextPass (st.markPendingAmbiguousAfterAcceptance jobId accepted) tick

end Drive

def onStages (st : RelayState) (lease nowNanos : Nat) (poke completed : Bool) :
    RelayState × JobPause :=
  if !completed || !st.isCurrent lease then (st.dropGuard lease, .done)
  else if !poke then startJob st lease nowNanos
  else if st.activeJob.isNone then (st.dropGuard lease, .done)
  else (st, .drive lease nowNanos true)

def acquireMain (st : RelayState) (nowNanos : Nat) : Option (RelayState × Nat) :=
  (acquireLease (nowNanos / nanosPerSecond) mainTickLeaseSeconds st.mainLockStateTs).map
    fun lease => ({ st with mainLockStateTs := some lease }, lease)

def beginTick (st : RelayState) (nowNanos : Nat) (poke : Bool) : RelayState × JobPause :=
  match acquireMain st nowNanos with
  | none => (st, .done)
  | some (st, lease) => (st, .await (.stages lease nowNanos poke))

def resumeJob (st : RelayState) (nowNanos : Nat) :
    JobKont → JobReply → Option (RelayState × JobPause)
  | .stages lease now poke, .stages completed => some (onStages st lease now poke completed)
  | .probe start, .probed snapshots transientFailures =>
      some (onProbe relayId st start snapshots transientFailures)
  | .balance start current, .amount balance => some (onBalance st start current balance)
  | .fee start current balance, .amount fee => some (onFee relayId st start current balance fee)
  | .conversion start current balance feeE8s, .conversion rate =>
      some (onConversion st start current balance feeE8s rate)
  | .loop tick, .resumed => some (driveActiveJobStep relayId st tick nowNanos)
  | .governance tick phase recipient remaining resolved, .subaccount result =>
      some (onGovernance st tick phase recipient remaining resolved result)
  | .transfer tick jobId feeE8s staged false _, .transfer reply =>
      some (onFirstTransfer relayId st tick jobId feeE8s staged reply)
  | .transfer tick jobId _ staged true _, .transfer reply =>
      some (onSecondTransfer relayId st tick jobId staged reply)
  | .notify tick jobId accepted canisterId first, .notify result =>
      some (onNotify st tick jobId accepted canisterId first result)
  | .rewards lease, .resumed => some (st.dropGuard lease, .done)
  | _, _ => none

end JupiterSuite.Relay
