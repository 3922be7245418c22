import JupiterSuite.Faucet.PayoutRuns

/-! The part of the state that belongs to the scans. The driver of a pending transfer leaves it
alone, and so does the staging of one. -/

namespace JupiterSuite.Faucet

open Base Memo

/-- The job without the state of its transfers. -/
def ActivePayoutJob.scan (job : ActivePayoutJob) : ActivePayoutJob :=
  { job with
    grossOutflowE8s := 0
    toppedUpCount := 0
    toppedUpSumE8s := 0
    toppedUpMinE8s := none
    toppedUpMaxE8s := none
    failedTopups := 0
    ambiguousTopups := 0
    remainderToRelayE8s := 0
    pendingTransfer := none
    nextCreatedAtTimeNanos := 0
    staged := [] }

structure StateView where
  config : FaucetConfig
  skipRanges : List SkipRange
  job : Option ActivePayoutJob
  lock : Option Nat

def FaucetState.view (st : FaucetState) : StateView :=
  ⟨st.config, st.skipRanges, st.activePayoutJob.map ActivePayoutJob.scan, st.mainLockStateTs⟩

section Frames

variable {st after : FaucetState} {job next : ActivePayoutJob} {run : DriveRun} {tick : MainTick}
  {jobId feeE8s : Nat} {expected : PendingTransfer}

theorem scan_countTerminal (job : ActivePayoutJob) (kind : TransferKind)
    (status : PendingTransferTerminalStatus) : (job.countTerminal kind status).scan = job.scan := by
  cases status <;> simp only [ActivePayoutJob.countTerminal] <;> split <;> rfl

theorem view_move (active : st.activePayoutJob = some job) (same : next.scan = job.scan)
    (dispatch : Option DispatchRecord) :
    FaucetState.view { st with activePayoutJob := some next, dispatch := dispatch } = st.view := by
  simp only [FaucetState.view, active, Option.map_some, same]

theorem view_setJob (held : st.holding jobId expected = some job) (same : next.scan = job.scan) :
    (st.setJob next).view = st.view :=
  view_move (holding_some.mp held).1 same st.dispatch

theorem view_drop (held : st.holding jobId expected = some job) (same : next.scan = job.scan) :
    (st.dropTransfer next).view = st.view :=
  @view_move st job next.drop (holding_some.mp held).1 same none

theorem view_latch (st : FaucetState) (reason : ForcedRescueReason) :
    (st.latchForcedRescueReason reason).view = st.view := by
  rw [FaucetState.latchForcedRescueReason]
  split <;> rfl

theorem view_clear (st : FaucetState) (jobId : Nat) (expected : PendingTransfer)
    (status : PendingTransferTerminalStatus) :
    (st.clearPendingTransfer jobId expected status).view = st.view := by
  rw [FaucetState.clearPendingTransfer]
  split
  · rfl
  · rename_i held
    exact view_drop held (scan_countTerminal ..)

theorem view_recordCompleted (st : FaucetState) (jobId : Nat) (expected : PendingTransfer) :
    (st.recordCompletedTransfer jobId expected).view = st.view := by
  rw [FaucetState.recordCompletedTransfer]
  split
  · rfl
  · rename_i job held
    have applied : (job.applyNotifiedTransfer expected.notification).scan = job.scan := by
      rw [ActivePayoutJob.applyNotifiedTransfer]
      split <;> rfl
    exact view_drop held applied

theorem view_unusable (st : FaucetState) (jobId : Nat) (expected : PendingTransfer) :
    (st.recordAcceptedTransferWithUnusableBlockIndex jobId expected).1.view = st.view := by
  rw [FaucetState.recordAcceptedTransferWithUnusableBlockIndex]
  split
  · rfl
  · rename_i job held
    split
    · rfl
    · exact view_drop held (scan_countTerminal job expected.notification.kind .ambiguous)

theorem view_uncertain (st : FaucetState) (jobId : Nat) (expected : PendingTransfer) :
    (st.reserveThenClearAmbiguousAwaitingTransfer jobId expected).1.view = st.view := by
  rw [FaucetState.reserveThenClearAmbiguousAwaitingTransfer]
  split
  · exact view_latch st _
  · exact view_clear ..
  · rename_i reserved same
    refine (view_clear ..).trans ?_
    rw [FaucetState.reserveAmbiguousAwaitingTransferGross] at same
    repeat' split at same
    all_goals cases same
    have held := ‹st.holding jobId expected = some _›
    exact view_setJob held rfl

theorem view_attempt (st : FaucetState) (run : DriveRun) (second : Bool) :
    (attemptTransfer st run second).1.view = st.view := by
  rw [attemptTransfer]
  split
  · rfl
  · split
    · rfl
    · rename_i started
      rw [FaucetState.setDispatchStarted, Option.ite_none_right_eq_some] at started
      cases started.2
      rfl

theorem view_accepted (st : FaucetState) (run : DriveRun) :
    (driveAccepted st run).1.view = st.view := by
  simp only [driveAccepted]
  repeat' split
  · rfl
  · rfl
  · exact view_recordCompleted ..

theorem view_drive (st : FaucetState) (tick : MainTick) (feeE8s transitions : Nat) :
    (drivePendingTransfer st tick feeE8s transitions).1.view = st.view := by
  simp only [drivePendingTransfer]
  repeat' split
  · rfl
  · rfl
  · exact view_attempt ..
  · exact view_uncertain ..
  · exact view_accepted ..

theorem view_rejected (st : FaucetState) (run : DriveRun) :
    (driveRejected st run).1.view = st.view := by
  simp only [driveRejected]
  repeat' split
  · rename_i same
    refine (view_drive ..).trans ?_
    rw [stageRawFallbackAfterDefiniteRejection] at same
    repeat' split at same
    all_goals cases same
    rename_i allocated
    have held := ‹st.holding run.jobId run.expected = some _›
    refine view_move (holding_some.mp held).1 ?_ _
    cases (freshTransition_some allocated).2.2.2.2
    rfl
  · exact view_clear ..
  · exact (view_clear ..).trans (view_latch ..)
  · exact view_clear ..

theorem view_refunded (st : FaucetState) (run : DriveRun) :
    (driveRefunded st run).1.view = st.view := by
  simp only [driveRefunded]
  split
  all_goals
    rename_i same
    simp only [transitionRefundedBeneficiaryToRawFallback] at same
    repeat' split at same
    all_goals cases same
  · rename_i allocated
    have held := ‹st.holding run.jobId run.expected = some _›
    refine (view_drive ..).trans (view_move (holding_some.mp held).1 ?_ _)
    cases (freshTransition_some allocated).2.2.2.2
    rfl
  · have held := ‹st.holding run.jobId run.expected = some _›
    exact (view_clear ..).trans (view_setJob held rfl)
  all_goals exact (view_clear ..).trans (view_latch ..)

theorem view_onTransfer (st : FaucetState) (run : DriveRun) (second prior : Bool)
    (reply : Option TransferReply) : (onTransferReply st run second prior reply).1.view = st.view := by
  simp only [onTransferReply]
  split
  · cases classifyTransferReply reply with
    | accepted block =>
        simp only [onTransferOutcome]
        split
        · rfl
        · rename_i marked
          rw [FaucetState.markPendingTransferAccepted, Option.map_eq_some_iff] at marked
          rcases marked with ⟨job, held, same⟩
          cases same
          exact (view_accepted ..).trans (view_setJob held rfl)
    | acceptedWithUnusableBlockIndex =>
        simp only [onTransferOutcome]
        split
        · exact (view_latch ..).trans (view_unusable ..)
        · exact view_unusable ..
    | definiteNoDebit retryable =>
        simp only [onTransferOutcome]
        split
        · rfl
        · rename_i recorded same
          have kept : recorded.view = st.view := by
            rw [FaucetState.setDispatchStarted] at same
            repeat' split at same
            all_goals cases same; rfl
          rw [← kept]
          repeat' split
          · exact view_uncertain ..
          · exact view_rejected ..
          · exact view_attempt ..
    | uncertain =>
        simp only [onTransferOutcome]
        split
        · exact view_uncertain ..
        · exact view_attempt ..
  · rfl

theorem view_onClaim (st : FaucetState) (run : DriveRun) :
    (onClaimReply st run).1.view = st.view := by
  rw [onClaimReply]
  split
  · exact view_recordCompleted ..
  · rfl

theorem view_onNotify (st : FaucetState) (run : DriveRun) (first : Option NotifyAttemptOutcome)
    (outcome : NotifyAttemptOutcome) : (onNotifyReply st run first outcome).1.view = st.view := by
  simp only [onNotifyReply]
  repeat' split
  · rfl
  · exact view_recordCompleted ..
  · exact view_refunded ..
  · rfl
  · exact view_clear ..

theorem view_send (st : FaucetState) (tick : MainTick) (notification : PendingNotification)
    (feeE8s : Nat) : (sendAndNotify st tick notification feeE8s).1.view = st.view := by
  rw [sendAndNotify]
  split
  · exact view_latch ..
  · split
    · rfl
    · rename_i active
      refine (view_drive ..).trans ?_
      rw [FaucetState.stagePendingTransfer, active, FaucetState.view, FaucetState.view, active]
      rfl

end Frames
end JupiterSuite.Faucet
