import JupiterSuite.Faucet.FundingDriver

/-! The pending transfer of a payout job: its creation time, its dispatch record and what becomes
of it. A write needs the job that still holds the expected transfer. -/

namespace JupiterSuite.Faucet

open Base

def ledgerCreatedAtMaxAgeNanos : Nat := 24 * 60 * 60 * nanosPerSecond

def ledgerCreatedAtMaxFutureSkewNanos : Nat := 60 * nanosPerSecond

def memoTopUpCanisterU64 : Nat := 1347768404

def createdAtTimeIsValidForLedger (createdAtTimeNanos nowNanos : Nat) : Bool :=
  decide (nowNanos - createdAtTimeNanos ≤ ledgerCreatedAtMaxAgeNanos) &&
    decide (createdAtTimeNanos ≤ satAdd u64Max nowNanos ledgerCreatedAtMaxFutureSkewNanos)

namespace ActivePayoutJob

variable (job : ActivePayoutJob)

/-- The next creation time, or the clock when the ledger would not take it. -/
def candidateCreatedAtTime (nowNanos : Nat) : Nat :=
  if createdAtTimeIsValidForLedger job.nextCreatedAtTimeNanos nowNanos then
    job.nextCreatedAtTimeNanos
  else nowNanos

def allocateCreatedAtTimeNanos (nowNanos : Nat) : Nat × ActivePayoutJob :=
  let createdAtTimeNanos := job.candidateCreatedAtTime nowNanos
  (createdAtTimeNanos,
    { job with nextCreatedAtTimeNanos := satAdd u64Max createdAtTimeNanos 1 })

def freshTransitionCreatedAtTime (nowNanos previousCreatedAtTimeNanos : Nat) :
    Option (Nat × ActivePayoutJob) :=
  let candidate := job.candidateCreatedAtTime nowNanos
  let distinct :=
    if candidate = previousCreatedAtTimeNanos then checkedAdd u64Max candidate 1
    else some candidate
  distinct.bind fun createdAtTimeNanos =>
    if createdAtTimeIsValidForLedger createdAtTimeNanos nowNanos then
      (checkedAdd u64Max createdAtTimeNanos 1).map fun next =>
        (createdAtTimeNanos, { job with nextCreatedAtTimeNanos := next })
    else none

def settle (fate : Fate → Fate) : ActivePayoutJob :=
  { job with staged := job.staged.modifyHead fun entry => { entry with fate := fate entry.fate } }

def stage (pending : PendingTransfer) (nowNanos nextNanos : Nat) : ActivePayoutJob :=
  { job with
    pendingTransfer := some pending
    staged := ⟨job.staged.length, pending, nowNanos, nextNanos, .awaiting⟩ :: job.staged }

def applyNotifiedTransfer (pending : PendingNotification) : ActivePayoutJob :=
  if pending.kind.isBeneficiaryPayout then
    { job with
      toppedUpCount := satAdd u64Max job.toppedUpCount 1
      toppedUpSumE8s := satAdd u64Max job.toppedUpSumE8s pending.amountE8s
      toppedUpMinE8s := some ((job.toppedUpMinE8s.map (min · pending.amountE8s)).getD
        pending.amountE8s)
      toppedUpMaxE8s := some ((job.toppedUpMaxE8s.map (max · pending.amountE8s)).getD
        pending.amountE8s) }
  else { job with remainderToRelayE8s := pending.amountE8s }

end ActivePayoutJob

def PendingTransfer.acceptAt (pending : PendingTransfer) (blockIndex : Nat) : PendingTransfer :=
  { pending with
    notification.blockIndex := blockIndex
    phase := .transferAccepted }

inductive PendingTransferTerminalStatus where
  | failed
  | ambiguous
  deriving DecidableEq, Repr

def PendingTransferTerminalStatus.close : PendingTransferTerminalStatus → Fate → Fate
  | .failed, .awaiting => .failed
  | .failed, .accepted => .failedAfterAcceptance
  | .ambiguous, .awaiting => .ambiguous
  | .ambiguous, .accepted => .ambiguousAfterAcceptance
  | _, fate => fate

def ActivePayoutJob.countTerminal (job : ActivePayoutJob) (kind : TransferKind) :
    PendingTransferTerminalStatus → ActivePayoutJob
  | .failed =>
      if kind.isBeneficiaryPayout then
        { job with failedTopups := satAdd u64Max job.failedTopups 1 }
      else job
  | .ambiguous =>
      if kind.isBeneficiaryPayout then
        { job with ambiguousTopups := satAdd u64Max job.ambiguousTopups 1 }
      else job

section Arguments

def cmcDepositAccount (cmcId canisterId : Principal) : Account :=
  ⟨cmcId, some (principalToSubaccount canisterId)⟩

/-- Nothing when the subaccount that a neuron stake must have is missing. -/
def depositAccountForPending (cmcId : Principal) (pending : PendingNotification) :
    Option Account :=
  match pending.kind with
  | .rawIcp => some ⟨pending.beneficiary, pending.destinationSubaccount⟩
  | .cyclesTopUpRawFallback | .remainderToRelay => some ⟨pending.beneficiary, none⟩
  | .neuronStake =>
      pending.destinationSubaccount.map fun subaccount => ⟨pending.beneficiary, some subaccount⟩
  | .beneficiary => some (cmcDepositAccount cmcId pending.beneficiary)

def transferMemoForPending (pending : PendingNotification) : List UInt8 :=
  match pending.kind with
  | .cyclesTopUpRawFallback | .remainderToRelay => []
  | .beneficiary | .neuronStake =>
      pending.transferMemo.getD (u64ToLeBytes memoTopUpCanisterU64)
  | .rawIcp => pending.transferMemo.getD []

def payoutTransferArg (config : FaucetConfig) (account : Account) (pending : PendingTransfer)
    (feeE8s : Nat) : TransferArg where
  fromSubaccount := config.payoutSubaccount
  toAccount := account
  fee := some feeE8s
  createdAtTime := some pending.createdAtTimeNanos
  memo := some (transferMemoForPending pending.notification)
  amount := pending.notification.amountE8s

end Arguments

namespace FaucetState

variable (st : FaucetState)

def holding (jobId : Nat) (expected : PendingTransfer) : Option ActivePayoutJob :=
  st.activePayoutJob.filter fun job =>
    decide (job.id = jobId) && decide (job.pendingTransfer = some expected)

def pendingTransferMatches (jobId : Nat) (expected : PendingTransfer) : Bool :=
  (st.holding jobId expected).isSome

def pendingTransferMayHaveDispatched (jobId : Nat) (pending : PendingTransfer) : Bool :=
  match st.dispatch with
  | some record =>
      if record.jobId = jobId ∧ record.pending = pending then record.dispatched else true
  | none => true

def setPendingTransferDispatch (jobId : Nat) (pending : PendingTransfer) (dispatched : Bool) :
    FaucetState :=
  { st with dispatch := some ⟨jobId, pending, dispatched⟩ }

def setDispatchStarted (lease jobId : Nat) (expected : PendingTransfer) (started : Bool) :
    Option FaucetState :=
  if st.isCurrent lease && st.pendingTransferMatches jobId expected then
    some (st.setPendingTransferDispatch jobId expected started)
  else none

def stageTransfer (job : ActivePayoutJob) (pending : PendingTransfer) (nowNanos nextNanos : Nat) :
    FaucetState :=
  (st.setPendingTransferDispatch job.id pending false).setJob
    (job.stage pending nowNanos nextNanos)

def dropTransfer (job : ActivePayoutJob) : FaucetState :=
  { st.setJob { job with pendingTransfer := none } with dispatch := none }

/-- `allocate_created_at_time_nanos` and `stage_pending_transfer` -/
def stagePendingTransfer (notification : PendingNotification) (nowNanos : Nat) : FaucetState :=
  match st.activePayoutJob with
  | none => st
  | some job =>
      let (createdAtTimeNanos, allocated) := job.allocateCreatedAtTimeNanos nowNanos
      st.stageTransfer allocated ⟨notification, createdAtTimeNanos, .awaitingTransfer⟩ nowNanos
        job.nextCreatedAtTimeNanos

def markPendingTransferAccepted (jobId : Nat) (expected : PendingTransfer) (blockIndex : Nat) :
    Option (FaucetState × PendingTransfer) :=
  (st.holding jobId expected).map fun job =>
    let accepted := expected.acceptAt blockIndex
    let job := { job with
      pendingTransfer := some accepted
      grossOutflowE8s :=
        satAdd u64Max job.grossOutflowE8s accepted.notification.grossShareE8s }
    (st.setJob (job.settle fun _ => .accepted), accepted)

def clearPendingTransfer (jobId : Nat) (expected : PendingTransfer)
    (status : PendingTransferTerminalStatus) : FaucetState :=
  match st.holding jobId expected with
  | none => st
  | some job =>
      st.dropTransfer
        ((job.countTerminal expected.notification.kind status).settle status.close)

def recordCompletedTransfer (jobId : Nat) (expected : PendingTransfer) : FaucetState :=
  match st.holding jobId expected with
  | none => st
  | some job =>
      st.dropTransfer
        ((job.applyNotifiedTransfer expected.notification).settle fun _ => .completed)

/-- The outflow with the gross share of the pending transfer, when the pot holds it. -/
def chargedOutflow (job : ActivePayoutJob) (pending : PendingNotification) : Option Nat :=
  (checkedAdd u64Max job.grossOutflowE8s pending.grossShareE8s).filter fun total =>
    decide (total ≤ job.potStartE8s)

/-- `true` when the accounting is broken; the identity is then kept. -/
def recordAcceptedTransferWithUnusableBlockIndex (jobId : Nat) (expected : PendingTransfer) :
    FaucetState × Bool :=
  match st.holding jobId expected with
  | none => (st, false)
  | some job =>
      match chargedOutflow job expected.notification with
      | none => (st, true)
      | some total =>
          let job := (job.countTerminal expected.notification.kind .ambiguous).settle
            fun _ => .unusable
          (st.dropTransfer { job with grossOutflowE8s := total }, false)

inductive AmbiguousPendingGrossReservation where
  | notApplicable
  | reserved (st : FaucetState)
  | invariantBroken

def reserveAmbiguousAwaitingTransferGross (jobId : Nat) (expected : PendingTransfer) :
    AmbiguousPendingGrossReservation :=
  match st.holding jobId expected with
  | none => .notApplicable
  | some job =>
      if expected.phase ≠ .awaitingTransfer then .notApplicable
      else
        match chargedOutflow job expected.notification with
        | some total => .reserved (st.setJob { job with grossOutflowE8s := total })
        | none => .invariantBroken

def reserveThenClearAmbiguousAwaitingTransfer (jobId : Nat) (expected : PendingTransfer) :
    FaucetState × Bool :=
  match st.reserveAmbiguousAwaitingTransferGross jobId expected with
  | .invariantBroken => (st.latchForcedRescueReason .accountingInvariantBroken, false)
  | .notApplicable => (st.clearPendingTransfer jobId expected .ambiguous, true)
  | .reserved st => (st.clearPendingTransfer jobId expected .ambiguous, true)

end FaucetState

section Fallbacks

/-- The plain transfer to the beneficiary that follows a top-up that did not happen. -/
def rawFallback (notification : PendingNotification) (grossShareE8s amountE8s : Nat) :
    PendingNotification where
  kind := .cyclesTopUpRawFallback
  beneficiary := notification.beneficiary
  grossShareE8s
  amountE8s
  blockIndex := 0
  nextStart := notification.nextStart
  transferMemo := some []
  destinationSubaccount := none
  neuronId := none

inductive RejectionFallback where
  | staged (st : FaucetState)
  | notApplicable
  | noCreatedAtTime

def stageRawFallbackAfterDefiniteRejection (st : FaucetState) (jobId : Nat)
    (expected : PendingTransfer) (nowNanos : Nat) : RejectionFallback :=
  match st.holding jobId expected with
  | none => .notApplicable
  | some job =>
      if expected.phase ≠ .awaitingTransfer ∨ expected.notification.kind ≠ .beneficiary then
        .notApplicable
      else
        match job.freshTransitionCreatedAtTime nowNanos expected.createdAtTimeNanos with
        | none => .noCreatedAtTime
        | some (createdAtTimeNanos, fresh) =>
            let pending := rawFallback expected.notification
              expected.notification.grossShareE8s expected.notification.amountE8s
            .staged (st.stageTransfer (fresh.settle fun _ => .replaced)
              ⟨pending, createdAtTimeNanos, .awaitingTransfer⟩ nowNanos
              job.nextCreatedAtTimeNanos)

/-- What the CMC credits for a refunded top-up: it keeps the fee of the refund and twice the fee
for the attempt. The accounting must be that of a top-up. -/
def refundCreditE8s (accepted : PendingNotification) (feeE8s : Nat) : Option Nat := do
  let originalAmountE8s ← checkedSub accepted.grossShareE8s feeE8s
  if originalAmountE8s ≠ accepted.amountE8s then none
  else
    let cmcRefundTopUpFeeE8s ← checkedMul u64Max feeE8s 2
    let value ← checkedSub originalAmountE8s feeE8s
    checkedSub value cmcRefundTopUpFeeE8s

inductive RefundFallbackTransition where
  | staged (st : FaucetState)
  | belowFee (st : FaucetState)
  | invariantBroken

def transitionRefundedBeneficiaryToRawFallback (st : FaucetState) (jobId : Nat)
    (expected : PendingTransfer) (feeE8s nowNanos : Nat) : RefundFallbackTransition :=
  match st.holding jobId expected with
  | none => .invariantBroken
  | some job =>
      let accepted := expected.notification
      if expected.phase ≠ .transferAccepted ∨ accepted.kind ≠ .beneficiary then .invariantBroken
      else
        match refundCreditE8s accepted feeE8s with
        | none => .invariantBroken
        | some refundCreditE8s =>
            match checkedSub job.grossOutflowE8s refundCreditE8s with
            | none => .invariantBroken
            | some releasedGrossOutflowE8s =>
                if refundCreditE8s ≤ feeE8s then
                  .belowFee (st.setJob
                    ({ job with grossOutflowE8s := releasedGrossOutflowE8s }.settle
                      fun _ => .refundedBelowFee))
                else
                  match job.freshTransitionCreatedAtTime nowNanos
                      expected.createdAtTimeNanos with
                  | none => .invariantBroken
                  | some (createdAtTimeNanos, fresh) =>
                      let pending := rawFallback accepted refundCreditE8s
                        (refundCreditE8s - feeE8s)
                      let fresh := { fresh with grossOutflowE8s := releasedGrossOutflowE8s }
                      .staged (st.stageTransfer (fresh.settle fun _ => .refunded)
                        ⟨pending, createdAtTimeNanos, .awaitingTransfer⟩ nowNanos
                        job.nextCreatedAtTimeNanos)

end Fallbacks
end JupiterSuite.Faucet
