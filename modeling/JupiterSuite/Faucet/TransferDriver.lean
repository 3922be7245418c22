import JupiterSuite.Faucet.Transfers

/-! `drive_pending_transfer`, cut at its awaits. -/

namespace JupiterSuite.Faucet

open Base

/-- What the driver reads again after an await. The fallback is taken at most once. -/
structure DriveRun where
  tick : MainTick
  feeE8s : Nat
  fallbackTransitions : Nat
  jobId : Nat
  expected : PendingTransfer
  deriving DecidableEq, Repr

inductive NotifyAttemptOutcome where
  | succeeded
  | refunded (blockIndex : Option Nat)
  | terminal
  | failed
  deriving DecidableEq, Repr

def NotifyAttemptOutcome.isProvenRefundWithBlock : NotifyAttemptOutcome → Bool
  | .refunded (some _) => true
  | _ => false

def NotifyAttemptOutcome.isTerminalNotifyError : NotifyAttemptOutcome → Bool
  | .refunded _ | .terminal => true
  | _ => false

inductive TransferAttemptOutcome where
  | accepted (block : Nat)
  | definiteNoDebit (retryable : Bool)
  | uncertain
  | acceptedWithUnusableBlockIndex
  deriving DecidableEq, Repr

def acceptedAt (block : Nat) : TransferAttemptOutcome :=
  if block ≤ u64Max then .accepted block else .acceptedWithUnusableBlockIndex

def classifyTransferReply : Option TransferReply → TransferAttemptOutcome
  | none => .uncertain
  | some (.ok block) => acceptedAt block
  | some (.error (.duplicate duplicateOf)) => acceptedAt duplicateOf
  | some (.error .temporarilyUnavailable) => .definiteNoDebit true
  | some (.error _) => .definiteNoDebit false

inductive FailedExpectation where
  | validatedPayoutAccounting
  | activePayoutJob
  | stakingSubaccount
  deriving DecidableEq, Repr

inductive DriveStop where
  | finished (ok : Bool)
  | transferring (run : DriveRun) (second priorUncertainty : Bool) (arg : TransferArg)
  | claiming (run : DriveRun)
  | notifying (run : DriveRun) (first : Option NotifyAttemptOutcome)
  | trapped (failed : FailedExpectation)
  deriving DecidableEq, Repr

section Driver

variable (st : FaucetState) (run : DriveRun)

/-- One dispatch of the identity; the record that it was dispatched is written first. -/
def attemptTransfer (second : Bool) : FaucetState × DriveStop :=
  match depositAccountForPending st.config.cmcCanisterId run.expected.notification with
  | none => (st, .trapped .stakingSubaccount)
  | some account =>
      match st.setDispatchStarted run.tick.lease run.jobId run.expected true with
      | none => (st, .finished false)
      | some started =>
          (started, .transferring run second
            (st.pendingTransferMayHaveDispatched run.jobId run.expected)
            (payoutTransferArg st.config account run.expected run.feeE8s))

/-- An accepted transfer: a top-up is notified, a stake is claimed, any other one is complete. -/
def driveAccepted : FaucetState × DriveStop :=
  let accepted := run.expected.notification
  if accepted.kind.requiresCmcNotify then (st, .notifying run none)
  else if accepted.kind = .neuronStake ∧ accepted.neuronId.isSome then (st, .claiming run)
  else (st.recordCompletedTransfer run.jobId run.expected, .finished true)

def drivePendingTransfer (tick : MainTick) (feeE8s fallbackTransitions : Nat) :
    FaucetState × DriveStop :=
  match st.activePayoutJob with
  | none => (st, .finished true)
  | some job =>
      match job.pendingTransfer with
      | none => (st, .finished true)
      | some staged =>
          let run := ⟨tick, feeE8s, fallbackTransitions, job.id, staged⟩
          match staged.phase with
          | .awaitingTransfer =>
              if createdAtTimeIsValidForLedger staged.createdAtTimeNanos tick.nowNanos then
                attemptTransfer st run false
              else
                let (st, ok) := st.reserveThenClearAmbiguousAwaitingTransfer job.id staged
                (st, .finished ok)
          | .transferAccepted => driveAccepted st run

/-- `DefiniteNoDebit`: a top-up is replaced by the raw fallback once. -/
def driveRejected : FaucetState × DriveStop :=
  let failed := fun (st : FaucetState) =>
    (st.clearPendingTransfer run.jobId run.expected .failed, DriveStop.finished true)
  if run.fallbackTransitions = 0 ∧ run.expected.notification.kind = .beneficiary then
    match stageRawFallbackAfterDefiniteRejection st run.jobId run.expected run.tick.nowNanos with
    | .staged st => drivePendingTransfer st run.tick run.feeE8s 1
    | .notApplicable => failed st
    | .noCreatedAtTime => failed (st.latchForcedRescueReason .accountingInvariantBroken)
  else failed st

def driveUncertain : FaucetState × DriveStop :=
  let (st, ok) := st.reserveThenClearAmbiguousAwaitingTransfer run.jobId run.expected
  (st, .finished ok)

/-- The rest of `transfer_identity_with_one_retry` and its caller, on the outcome of a dispatch. -/
def onTransferOutcome (second priorUncertainty : Bool) :
    TransferAttemptOutcome → FaucetState × DriveStop
  | .accepted block =>
      match st.markPendingTransferAccepted run.jobId run.expected block with
      | none => (st, .finished false)
      | some (st, accepted) => driveAccepted st { run with expected := accepted }
  | .acceptedWithUnusableBlockIndex =>
      let (st, broken) :=
        st.recordAcceptedTransferWithUnusableBlockIndex run.jobId run.expected
      if broken then (st.latchForcedRescueReason .accountingInvariantBroken, .finished false)
      else (st, .finished true)
  | .definiteNoDebit retryable =>
      -- A rejection disproves only this dispatch, not an earlier unknown one.
      let recorded := if priorUncertainty then some st
        else st.setDispatchStarted run.tick.lease run.jobId run.expected false
      match recorded with
      | none => (st, .finished false)
      | some st =>
          if !retryable || second then
            if priorUncertainty then driveUncertain st run else driveRejected st run
          else attemptTransfer st run true
  | .uncertain => if second then driveUncertain st run else attemptTransfer st run true

def onTransferReply (second priorUncertainty : Bool) (reply : Option TransferReply) :
    FaucetState × DriveStop :=
  if st.isCurrent run.tick.lease && st.pendingTransferMatches run.jobId run.expected then
    onTransferOutcome st run second priorUncertainty (classifyTransferReply reply)
  else (st, .finished false)

def onClaimReply : FaucetState × DriveStop :=
  if st.isCurrent run.tick.lease && st.pendingTransferMatches run.jobId run.expected then
    (st.recordCompletedTransfer run.jobId run.expected, .finished true)
  else (st, .finished false)

def driveRefunded : FaucetState × DriveStop :=
  match transitionRefundedBeneficiaryToRawFallback st run.jobId run.expected run.feeE8s
      run.tick.nowNanos with
  | .staged st => drivePendingTransfer st run.tick run.feeE8s 1
  | .belowFee st => (st.clearPendingTransfer run.jobId run.expected .failed, .finished true)
  | .invariantBroken =>
      ((st.latchForcedRescueReason .accountingInvariantBroken).clearPendingTransfer run.jobId
        run.expected .ambiguous, .finished true)

def notifyStatus (first second : NotifyAttemptOutcome) : PendingTransferTerminalStatus :=
  if first.isTerminalNotifyError && second.isTerminalNotifyError then .failed else .ambiguous

def onNotifyReply (first : Option NotifyAttemptOutcome) (outcome : NotifyAttemptOutcome) :
    FaucetState × DriveStop :=
  if !(st.isCurrent run.tick.lease && st.pendingTransferMatches run.jobId run.expected) then
    (st, .finished false)
  else if outcome = .succeeded then
    (st.recordCompletedTransfer run.jobId run.expected, .finished true)
  else if run.expected.notification.kind = .beneficiary && outcome.isProvenRefundWithBlock then
    driveRefunded st run
  else
    match first with
    | none => (st, .notifying run (some outcome))
    | some first =>
        (st.clearPendingTransfer run.jobId run.expected (notifyStatus first outcome),
          .finished true)

def sendAndNotify (tick : MainTick) (notification : PendingNotification) (feeE8s : Nat) :
    FaucetState × DriveStop :=
  if st.activePayoutJob.any fun job => (FaucetState.chargedOutflow job notification).isNone then
    (st.latchForcedRescueReason .accountingInvariantBroken, .finished false)
  else
    match st.activePayoutJob with
    | none => (st, .trapped .activePayoutJob)
    | some _ =>
        drivePendingTransfer (st.stagePendingTransfer notification tick.nowNanos) tick feeE8s 0

end Driver
end JupiterSuite.Faucet
