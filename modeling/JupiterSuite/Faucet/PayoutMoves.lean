import JupiterSuite.Faucet.PayoutSystem

/-! What a segment of the payout loop can do to the active job and its dispatch record, one move
at a time, and where it stops. -/

namespace JupiterSuite.Faucet

open Base Memo

structure SameTransfers (job after : ActivePayoutJob) : Prop where
  id : after.id = job.id
  serial : after.serial = job.serial
  fee : after.feeE8s = job.feeE8s
  pot : after.potStartE8s = job.potStartE8s
  outflow : after.grossOutflowE8s = job.grossOutflowE8s
  pending : after.pendingTransfer = job.pendingTransfer
  nextCreatedAt : after.nextCreatedAtTimeNanos = job.nextCreatedAtTimeNanos
  staged : after.staged = job.staged

section Moves

def ActivePayoutJob.Holds (job : ActivePayoutJob) (pending : PendingTransfer)
    (phase : PendingTransferPhase) : Prop :=
  job.pendingTransfer = some pending ∧ pending.phase = phase

/-- Every dispatch of the pending transfer is known to have failed. -/
def Disproved (job : ActivePayoutJob) (pending : PendingTransfer)
    (dispatch : Option DispatchRecord) : Prop :=
  dispatch = some ⟨job.id, pending, false⟩

def ActivePayoutJob.accept (job : ActivePayoutJob) (pending : PendingTransfer) (blockIndex : Nat) :
    ActivePayoutJob :=
  { job with
    pendingTransfer := some (pending.acceptAt blockIndex)
    grossOutflowE8s :=
      satAdd u64Max job.grossOutflowE8s pending.notification.grossShareE8s }.settle fun _ => .accepted

def ActivePayoutJob.drop (job : ActivePayoutJob) : ActivePayoutJob :=
  { job with pendingTransfer := none }

/-- `clear_pending_transfer` -/
def ActivePayoutJob.close (job : ActivePayoutJob) (pending : PendingTransfer)
    (status : PendingTransferTerminalStatus) : ActivePayoutJob :=
  ((job.countTerminal pending.notification.kind status).settle status.close).drop

/-- What the payout pass and the completion stage; the fallback has its own moves. -/
structure PendingNotification.Plain (notification : PendingNotification) (feeE8s : Nat) : Prop where
  kind : notification.kind ≠ .cyclesTopUpRawFallback
  priced : notification.amountE8s + feeE8s = notification.grossShareE8s

/-- One move of the tick at a time under its fee. A call may have been answered with a rejection
that no earlier dispatch contradicts, and a top-up with a refund. -/
inductive JobMove (nowNanos : Nat) (rejected refunded : PayoutTag → Prop) (job : ActivePayoutJob)
    (dispatch : Option DispatchRecord) : ActivePayoutJob → Option DispatchRecord → Prop where
  | scan {after : ActivePayoutJob} (same : SameTransfers job after) :
      JobMove nowNanos rejected refunded job dispatch after dispatch
  | stage {notification : PendingNotification} (idle : job.pendingTransfer = none)
      (fits : (FaucetState.chargedOutflow job notification).isSome)
      (plain : notification.Plain job.feeE8s)
      {pending : PendingTransfer}
      (staged : pending = ⟨notification, job.candidateCreatedAtTime nowNanos, .awaitingTransfer⟩) :
      JobMove nowNanos rejected refunded job dispatch
        ((job.allocateCreatedAtTimeNanos nowNanos).2.stage pending nowNanos
          job.nextCreatedAtTimeNanos)
        (some ⟨job.id, pending, false⟩)
  | disprove {pending : PendingTransfer} (held : job.Holds pending .awaitingTransfer)
      (known : rejected job.latestTag) :
      JobMove nowNanos rejected refunded job dispatch job (some ⟨job.id, pending, false⟩)
  | accept {pending : PendingTransfer} {blockIndex : Nat}
      (held : job.Holds pending .awaitingTransfer) :
      JobMove nowNanos rejected refunded job dispatch (job.accept pending blockIndex) dispatch
  | complete {pending : PendingTransfer} (held : job.Holds pending .transferAccepted) :
      JobMove nowNanos rejected refunded job dispatch
        ((job.applyNotifiedTransfer pending.notification).settle fun _ => .completed).drop none
  | fail {pending : PendingTransfer} (held : job.Holds pending .awaitingTransfer)
      (disproved : Disproved job pending dispatch) :
      JobMove nowNanos rejected refunded job dispatch
        (job.close pending .failed) none
  | giveUp {pending : PendingTransfer} {total : Nat} (held : job.Holds pending .awaitingTransfer)
      (charged : FaucetState.chargedOutflow job pending.notification = some total) :
      JobMove nowNanos rejected refunded job dispatch
        ({ job with grossOutflowE8s := total }.close pending .ambiguous) none
  | unusable {pending : PendingTransfer} {total : Nat} (held : job.Holds pending .awaitingTransfer)
      (charged : FaucetState.chargedOutflow job pending.notification = some total) :
      JobMove nowNanos rejected refunded job dispatch
        (ActivePayoutJob.drop
          { (job.countTerminal pending.notification.kind .ambiguous).settle fun _ => .unusable with
            grossOutflowE8s := total }) none
  | close {pending : PendingTransfer} (status : PendingTransferTerminalStatus)
      (held : job.Holds pending .transferAccepted) :
      JobMove nowNanos rejected refunded job dispatch (job.close pending status) none
  | replace {pending raw : PendingTransfer} {createdAtTimeNanos : Nat} {fresh : ActivePayoutJob}
      (held : job.Holds pending .awaitingTransfer)
      (topUp : pending.notification.kind = .beneficiary)
      (disproved : Disproved job pending dispatch)
      (allocated : job.freshTransitionCreatedAtTime nowNanos pending.createdAtTimeNanos =
        some (createdAtTimeNanos, fresh))
      (staged : raw = ⟨rawFallback pending.notification pending.notification.grossShareE8s
        pending.notification.amountE8s, createdAtTimeNanos, .awaitingTransfer⟩) :
      JobMove nowNanos rejected refunded job dispatch
        ((fresh.settle fun _ => .replaced).stage raw nowNanos job.nextCreatedAtTimeNanos)
        (some ⟨job.id, raw, false⟩)
  | refund {pending raw : PendingTransfer} {createdAtTimeNanos credit released : Nat}
      {fresh : ActivePayoutJob} (held : job.Holds pending .transferAccepted)
      (topUp : pending.notification.kind = .beneficiary) (known : refunded job.latestTag)
      (credited : refundCreditE8s pending.notification job.feeE8s = some credit)
      (covered : checkedSub job.grossOutflowE8s credit = some released) (above : job.feeE8s < credit)
      (allocated : job.freshTransitionCreatedAtTime nowNanos pending.createdAtTimeNanos =
        some (createdAtTimeNanos, fresh))
      (staged : raw = ⟨rawFallback pending.notification credit (credit - job.feeE8s),
        createdAtTimeNanos, .awaitingTransfer⟩) :
      JobMove nowNanos rejected refunded job dispatch
        (({ fresh with grossOutflowE8s := released }.settle fun _ => .refunded).stage raw nowNanos
          job.nextCreatedAtTimeNanos)
        (some ⟨job.id, raw, false⟩)
  | refundBelowFee {pending : PendingTransfer} {credit released : Nat}
      (held : job.Holds pending .transferAccepted)
      (topUp : pending.notification.kind = .beneficiary) (known : refunded job.latestTag)
      (credited : refundCreditE8s pending.notification job.feeE8s = some credit)
      (covered : checkedSub job.grossOutflowE8s credit = some released) :
      JobMove nowNanos rejected refunded job dispatch
        (({ job with grossOutflowE8s := released }.settle fun _ => .refundedBelowFee).close pending
          .failed) none

/-- A move of the active job, or a write that concerns neither the job nor its dispatch. -/
inductive Advance (nowNanos : Nat) (rejected refunded : PayoutTag → Prop) (st : FaucetState) :
    FaucetState → Prop where
  | quiet {reason : Option ForcedRescueReason} {fault : Bool} {ranges : List SkipRange} :
      Advance nowNanos rejected refunded st
        { st with
          forcedRescueReason := reason
          skipRangeInvariantFault := fault
          skipRanges := ranges }
  | move {job after : ActivePayoutJob} {dispatch : Option DispatchRecord}
      (active : st.activePayoutJob = some job)
      (move : JobMove nowNanos rejected refunded job st.dispatch after dispatch) :
      Advance nowNanos rejected refunded st
        { st with activePayoutJob := some after, dispatch := dispatch }

abbrev Advances (nowNanos : Nat) (rejected refunded : PayoutTag → Prop) :
    FaucetState → FaucetState → Prop :=
  Relation.ReflTransGen (Advance nowNanos rejected refunded)

end Moves

section Driver

def FaucetState.Idle (st : FaucetState) : Prop :=
  ∀ job, st.activePayoutJob = some job → job.pendingTransfer = none

def FaucetState.PaysFee (st : FaucetState) (feeE8s : Nat) : Prop :=
  ∀ job, st.activePayoutJob = some job → feeE8s = job.feeE8s

/-- The run drives the pending transfer of the active job. -/
structure Driving (st : FaucetState) (run : DriveRun) (phase : PendingTransferPhase)
    (job : ActivePayoutJob) : Prop where
  active : st.activePayoutJob = some job
  id : job.id = run.jobId
  fee : run.feeE8s = job.feeE8s
  held : job.Holds run.expected phase

/-- Where the driver stops: with its result, or at a call for the transfer that it drives. -/
inductive DriveEnd (tick : MainTick) (st : FaucetState) :
    FaucetState × DriveStop → Prop where
  | gaveUp : DriveEnd tick st (st, .finished false)
  | finished (idle : st.Idle) : DriveEnd tick st (st, .finished true)
  | dispatch {run : DriveRun} {job : ActivePayoutJob} {account : Account} (second : Bool)
      (driving : Driving st run .awaitingTransfer job) (ofTick : run.tick = tick)
      (destination : depositAccountForPending st.config.cmcCanisterId run.expected.notification =
        some account) :
      DriveEnd tick st
        (st.setPendingTransferDispatch run.jobId run.expected true,
          .transferring run second (st.pendingTransferMayHaveDispatched run.jobId run.expected)
            (payoutTransferArg st.config account run.expected run.feeE8s))
  | claim {run : DriveRun} {job : ActivePayoutJob} (driving : Driving st run .transferAccepted job)
      (ofTick : run.tick = tick) :
      DriveEnd tick st (st, .claiming run)
  | notify {run : DriveRun} {job : ActivePayoutJob} (first : Option NotifyAttemptOutcome)
      (driving : Driving st run .transferAccepted job) (ofTick : run.tick = tick) :
      DriveEnd tick st (st, .notifying run first)
  | trap (failed : FailedExpectation) (other : failed ≠ .validatedPayoutAccounting) :
      DriveEnd tick st (st, .trapped failed)

def Drives (tick : MainTick) (rejected refunded : PayoutTag → Prop) (st : FaucetState)
    (result : FaucetState × DriveStop) : Prop :=
  ∃ middle, Advances tick.nowNanos rejected refunded st middle ∧
    DriveEnd tick middle result

variable {st : FaucetState} {run : DriveRun} {job : ActivePayoutJob} {tick : MainTick}
  {phase : PendingTransferPhase} {feeE8s : Nat} {rejected refunded : PayoutTag → Prop}

theorem DriveEnd.drives {result : FaucetState × DriveStop} (ends : DriveEnd tick st result) :
    Drives tick rejected refunded st result :=
  ⟨st, .refl, ends⟩

theorem Drives.after {middle : FaucetState} {result : FaucetState × DriveStop}
    (advance : Advance tick.nowNanos rejected refunded st middle)
    (drives : Drives tick rejected refunded middle result) :
    Drives tick rejected refunded st result := by
  rcases drives with ⟨last, advances, ends⟩
  exact ⟨last, .head advance advances, ends⟩

theorem holding_some {jobId : Nat} {expected : PendingTransfer} :
    st.holding jobId expected = some job ↔
      st.activePayoutJob = some job ∧ job.id = jobId ∧ job.pendingTransfer = some expected := by
  simp [FaucetState.holding, Option.filter_eq_some_iff]

theorem Driving.holding (driving : Driving st run phase job) :
    st.holding run.jobId run.expected = some job :=
  holding_some.mpr ⟨driving.active, driving.id, driving.held.1⟩

theorem Driving.tag (driving : Driving st run phase job) : st.stagedTag = job.latestTag := by
  simp only [FaucetState.stagedTag, driving.active]

theorem latch_quiet (reason : ForcedRescueReason) :
    Advance tick.nowNanos rejected refunded st (st.latchForcedRescueReason reason) := by
  simp only [FaucetState.latchForcedRescueReason]
  split
  · exact .quiet
  · exact .quiet

theorem Driving.latch (driving : Driving st run phase job) (reason : ForcedRescueReason) :
    Driving (st.latchForcedRescueReason reason) run phase job := by
  refine ⟨?_, driving.id, driving.fee, driving.held⟩
  cases latched : st.forcedRescueReason <;>
    simp only [FaucetState.latchForcedRescueReason, latched, driving.active]

theorem idle_drop {after : ActivePayoutJob} {dispatch : Option DispatchRecord} :
    FaucetState.Idle { st with activePayoutJob := some after.drop, dispatch := dispatch } := by
  intro job active
  cases active
  rfl

theorem freshTransition_some {nowNanos previous createdAtTimeNanos : Nat} {fresh : ActivePayoutJob}
    (allocated : job.freshTransitionCreatedAtTime nowNanos previous =
      some (createdAtTimeNanos, fresh)) :
    createdAtTimeNanos = (if job.candidateCreatedAtTime nowNanos = previous then
        job.candidateCreatedAtTime nowNanos + 1 else job.candidateCreatedAtTime nowNanos) ∧
      createdAtTimeIsValidForLedger createdAtTimeNanos nowNanos = true ∧
      createdAtTimeNanos + 1 ≤ u64Max ∧ createdAtTimeNanos ≠ previous ∧
      fresh = { job with nextCreatedAtTimeNanos := createdAtTimeNanos + 1 } := by
  simp only [ActivePayoutJob.freshTransitionCreatedAtTime, Option.bind_eq_some_iff,
    Option.ite_none_right_eq_some, Option.map_eq_some_iff, Prod.mk.injEq] at allocated
  rcases allocated with ⟨candidate, chosen, valid, next, fits, rfl, rfl⟩
  rcases checkedAdd_eq_some.mp fits with ⟨room, rfl⟩
  split at chosen
  · rename_i repeated
    rcases checkedAdd_eq_some.mp chosen with ⟨_, rfl⟩
    refine ⟨(if_pos repeated).symm, valid, room, ?_, rfl⟩
    omega
  · rename_i fresh
    cases chosen
    exact ⟨(if_neg fresh).symm, valid, room, fresh, rfl⟩

theorem attemptTransfer_drives (driving : Driving st run .awaitingTransfer job) (second : Bool) :
    Drives run.tick rejected refunded st (attemptTransfer st run second) := by
  apply DriveEnd.drives
  simp only [attemptTransfer]
  cases destination : depositAccountForPending st.config.cmcCanisterId run.expected.notification with
  | none => exact .trap .stakingSubaccount nofun
  | some account =>
      simp only [FaucetState.setDispatchStarted]
      split
      · exact .gaveUp
      · rename_i started marked
        rw [Option.ite_none_right_eq_some, Option.some.injEq] at marked
        rw [← marked.2]
        exact .dispatch second driving rfl destination

theorem clearPendingTransfer_eq (driving : Driving st run phase job)
    (status : PendingTransferTerminalStatus) :
    st.clearPendingTransfer run.jobId run.expected status =
      { st with activePayoutJob := some (job.close run.expected status), dispatch := none } := by
  simp only [FaucetState.clearPendingTransfer, driving.holding]
  rfl

theorem recordCompleted_drives (driving : Driving st run .transferAccepted job) :
    Drives run.tick rejected refunded st
      (st.recordCompletedTransfer run.jobId run.expected, .finished true) := by
  have written : st.recordCompletedTransfer run.jobId run.expected = { st with
      activePayoutJob := some
        ((job.applyNotifiedTransfer run.expected.notification).settle fun _ => .completed).drop
      dispatch := none } := by
    simp only [FaucetState.recordCompletedTransfer, driving.holding]
    rfl
  rw [written]
  exact (DriveEnd.finished idle_drop).drives.after (.move driving.active (.complete driving.held))

theorem driveAccepted_drives (driving : Driving st run .transferAccepted job) :
    Drives run.tick rejected refunded st (driveAccepted st run) := by
  simp only [driveAccepted]
  split
  · exact (DriveEnd.notify none driving rfl).drives
  · split
    · exact (DriveEnd.claim driving rfl).drives
    · exact recordCompleted_drives driving

theorem driveUncertain_drives (driving : Driving st run .awaitingTransfer job) :
    Drives run.tick rejected refunded st (driveUncertain st run) := by
  simp only [driveUncertain, FaucetState.reserveThenClearAmbiguousAwaitingTransfer,
    FaucetState.reserveAmbiguousAwaitingTransferGross, driving.holding, driving.held.2]
  rw [if_neg (not_not.mpr rfl)]
  cases charged : FaucetState.chargedOutflow job run.expected.notification with
  | none => exact (DriveEnd.gaveUp).drives.after (latch_quiet _)
  | some total =>
      have reserved : Driving (st.setJob { job with grossOutflowE8s := total }) run
          .awaitingTransfer { job with grossOutflowE8s := total } :=
        ⟨rfl, driving.id, driving.fee, driving.held⟩
      simp only [clearPendingTransfer_eq reserved]
      exact (DriveEnd.finished idle_drop).drives.after
        (.move driving.active (.giveUp driving.held charged))

theorem drivePendingTransfer_drives (tick : MainTick) (fallbackTransitions : Nat)
    (fee : st.PaysFee feeE8s) : Drives tick rejected refunded st
      (drivePendingTransfer st tick feeE8s fallbackTransitions) := by
  simp only [drivePendingTransfer]
  split
  · rename_i absent
    apply DriveEnd.drives
    apply DriveEnd.finished
    intro job active
    rw [absent] at active
    cases active
  · rename_i job active
    split
    · rename_i idle
      apply DriveEnd.drives
      apply DriveEnd.finished
      intro other present
      rw [active] at present
      cases present
      exact idle
    · rename_i staged held
      split
      · rename_i awaiting
        have driving : Driving st ⟨tick, feeE8s, fallbackTransitions, job.id, staged⟩
            .awaitingTransfer job := ⟨active, rfl, fee job active, held, awaiting⟩
        split
        · exact attemptTransfer_drives driving false
        · exact driveUncertain_drives driving
      · rename_i accepted
        have driving : Driving st ⟨tick, feeE8s, fallbackTransitions, job.id, staged⟩
            .transferAccepted job := ⟨active, rfl, fee job active, held, accepted⟩
        exact driveAccepted_drives driving

theorem disprove_advance (driving : Driving st run .awaitingTransfer job)
    (known : rejected job.latestTag) :
    Advance tick.nowNanos rejected refunded st
      (st.setPendingTransferDispatch run.jobId run.expected false) := by
  have same : st.setPendingTransferDispatch run.jobId run.expected false = { st with
      activePayoutJob := some job, dispatch := some ⟨job.id, run.expected, false⟩ } := by
    rw [← driving.active, driving.id]
    rfl
  rw [same]
  exact .move driving.active (.disprove driving.held known)

theorem fail_drives (driving : Driving st run .awaitingTransfer job)
    (disproved : Disproved job run.expected st.dispatch) :
    Drives run.tick rejected refunded st
      (st.clearPendingTransfer run.jobId run.expected .failed, .finished true) := by
  rw [clearPendingTransfer_eq driving]
  exact (DriveEnd.finished idle_drop).drives.after
    (.move driving.active (.fail driving.held disproved))

theorem close_drives (driving : Driving st run .transferAccepted job)
    (status : PendingTransferTerminalStatus) :
    Drives run.tick rejected refunded st
      (st.clearPendingTransfer run.jobId run.expected status, .finished true) := by
  rw [clearPendingTransfer_eq driving]
  exact (DriveEnd.finished idle_drop).drives.after
    (.move driving.active (.close status driving.held))

theorem driveRejected_drives (driving : Driving st run .awaitingTransfer job)
    (disproved : Disproved job run.expected st.dispatch) :
    Drives run.tick rejected refunded st (driveRejected st run) := by
  simp only [driveRejected]
  split
  · rename_i once
    simp only [stageRawFallbackAfterDefiniteRejection, driving.holding, driving.held.2, once.2,
      ne_eq, not_true_eq_false, or_self, if_false]
    cases allocated : job.freshTransitionCreatedAtTime run.tick.nowNanos
        run.expected.createdAtTimeNanos with
    | none =>
        refine (fail_drives (driving.latch _) ?_).after (latch_quiet _)
        cases latched : st.forcedRescueReason <;>
          simpa only [FaucetState.latchForcedRescueReason, latched] using disproved
    | some fresh =>
        have moved : Advance run.tick.nowNanos rejected refunded st { st with
            activePayoutJob := some ((fresh.2.settle fun _ => .replaced).stage
              ⟨rawFallback run.expected.notification run.expected.notification.grossShareE8s
                run.expected.notification.amountE8s, fresh.1, .awaitingTransfer⟩
              run.tick.nowNanos job.nextCreatedAtTimeNanos)
            dispatch := some ⟨job.id,
              ⟨rawFallback run.expected.notification run.expected.notification.grossShareE8s
                run.expected.notification.amountE8s, fresh.1, .awaitingTransfer⟩, false⟩ } :=
          .move driving.active (.replace driving.held once.2 disproved allocated rfl)
        have same := (freshTransition_some allocated).2.2.2.2
        have sameId : fresh.2.id = job.id := by rw [same]
        rw [← sameId] at moved
        apply Drives.after moved
        apply drivePendingTransfer_drives run.tick 1
        intro next active
        cases active
        rw [driving.fee, same]
        rfl
  · exact fail_drives driving disproved

theorem onTransferOutcome_drives {second priorUncertainty : Bool} {outcome : TransferAttemptOutcome}
    (driving : Driving st run .awaitingTransfer job)
    (known : ∀ retryable, priorUncertainty = false → outcome = .definiteNoDebit retryable →
      rejected job.latestTag) :
    Drives run.tick rejected refunded st
      (onTransferOutcome st run second priorUncertainty outcome) := by
  cases outcome with
  | accepted block =>
      simp only [onTransferOutcome, FaucetState.markPendingTransferAccepted, driving.holding,
        Option.map_some]
      have accepted : Driving { st with
            activePayoutJob := some (job.accept run.expected block), dispatch := st.dispatch }
          { run with expected := run.expected.acceptAt block }
          .transferAccepted (job.accept run.expected block) := ⟨rfl, driving.id, driving.fee, rfl, rfl⟩
      exact (driveAccepted_drives accepted).after (.move driving.active (.accept driving.held))
  | acceptedWithUnusableBlockIndex =>
      simp only [onTransferOutcome, FaucetState.recordAcceptedTransferWithUnusableBlockIndex,
        driving.holding]
      cases charged : FaucetState.chargedOutflow job run.expected.notification with
      | none => exact (DriveEnd.gaveUp).drives.after (latch_quiet _)
      | some total =>
          exact (DriveEnd.finished idle_drop).drives.after
            (.move driving.active (.unusable driving.held charged))
  | definiteNoDebit retryable =>
      cases priorUncertainty with
      | true =>
          simp only [onTransferOutcome, if_true]
          split
          · exact driveUncertain_drives driving
          · exact attemptTransfer_drives driving true
      | false =>
          simp only [onTransferOutcome, Bool.false_eq_true, if_false]
          cases recorded : st.setDispatchStarted run.tick.lease run.jobId run.expected false with
          | none => exact (DriveEnd.gaveUp).drives
          | some disproved =>
              rw [FaucetState.setDispatchStarted, Option.ite_none_right_eq_some,
                Option.some.injEq] at recorded
              have again : Driving disproved run .awaitingTransfer job := by
                rw [← recorded.2]
                exact ⟨driving.active, driving.id, driving.fee, driving.held⟩
              have written : Disproved job run.expected disproved.dispatch := by
                rw [← recorded.2, Disproved, driving.id]
                rfl
              have advance : Advance run.tick.nowNanos rejected refunded st
                  disproved := by
                rw [← recorded.2]
                exact disprove_advance driving (known retryable rfl rfl)
              apply Drives.after advance
              dsimp only
              split
              · exact driveRejected_drives again written
              · exact attemptTransfer_drives again true
  | uncertain =>
      simp only [onTransferOutcome]
      split
      · exact driveUncertain_drives driving
      · exact attemptTransfer_drives driving true

theorem driveRefunded_drives (driving : Driving st run .transferAccepted job)
    (topUp : run.expected.notification.kind = .beneficiary) (known : refunded job.latestTag) :
    Drives run.tick rejected refunded st (driveRefunded st run) := by
  have broken : Drives run.tick rejected refunded st
      ((st.latchForcedRescueReason .accountingInvariantBroken).clearPendingTransfer run.jobId
        run.expected .ambiguous, .finished true) :=
    (close_drives (driving.latch _) .ambiguous).after (latch_quiet _)
  simp only [driveRefunded, transitionRefundedBeneficiaryToRawFallback, driving.holding,
    driving.held.2, topUp, ne_eq, not_true_eq_false, or_self, if_false]
  rw [driving.fee]
  cases credited : refundCreditE8s run.expected.notification job.feeE8s with
  | none => exact broken
  | some credit =>
      dsimp only
      cases covered : checkedSub job.grossOutflowE8s credit with
      | none => exact broken
      | some released =>
          dsimp only
          by_cases below : credit ≤ job.feeE8s
          · rw [if_pos below]
            dsimp only
            have released_driving : Driving
                (st.setJob ({ job with grossOutflowE8s := released }.settle
                  fun _ => .refundedBelowFee)) run .transferAccepted
                ({ job with grossOutflowE8s := released }.settle fun _ => .refundedBelowFee) :=
              ⟨rfl, driving.id, driving.fee, driving.held⟩
            rw [clearPendingTransfer_eq released_driving]
            exact (DriveEnd.finished idle_drop).drives.after
              (.move driving.active (.refundBelowFee driving.held topUp known credited covered))
          · rw [if_neg below]
            cases allocated : job.freshTransitionCreatedAtTime run.tick.nowNanos
                run.expected.createdAtTimeNanos with
            | none => exact broken
            | some fresh =>
                have moved := @Advance.move run.tick.nowNanos rejected refunded st job _ _
                  driving.active (.refund driving.held topUp known credited covered
                    (not_le.mp below) allocated rfl)
                have same := (freshTransition_some allocated).2.2.2.2
                have sameId : fresh.2.id = job.id := by rw [same]
                rw [← sameId] at moved
                apply Drives.after moved
                apply drivePendingTransfer_drives run.tick 1
                intro next active
                cases active
                show job.feeE8s = fresh.2.feeE8s
                rw [same]

theorem driving_of_matches (owned : (st.isCurrent run.tick.lease &&
    st.pendingTransferMatches run.jobId run.expected) = true)
    (fee : st.PaysFee run.feeE8s) (phased : run.expected.phase = phase) :
    ∃ job, Driving st run phase job := by
  rw [Bool.and_eq_true, FaucetState.pendingTransferMatches, Option.isSome_iff_exists] at owned
  rcases owned with ⟨_, job, held⟩
  rcases holding_some.mp held with ⟨active, id, pending⟩
  exact ⟨job, active, id, fee job active, pending, phased⟩

theorem onTransferReply_drives {second priorUncertainty : Bool} {reply : Option TransferReply}
    (phased : run.expected.phase = .awaitingTransfer)
    (fee : st.isCurrent run.tick.lease = true → st.PaysFee run.feeE8s)
    (known : ∀ retryable, st.isCurrent run.tick.lease = true → priorUncertainty = false →
      classifyTransferReply reply = .definiteNoDebit retryable → rejected st.stagedTag) :
    Drives run.tick rejected refunded st
      (onTransferReply st run second priorUncertainty reply) := by
  simp only [onTransferReply]
  split
  · rename_i owned
    have current := (Bool.and_eq_true .. ▸ owned).1
    rcases driving_of_matches owned (fee current) phased with ⟨job, driving⟩
    rw [driving.tag] at known
    exact onTransferOutcome_drives driving fun retryable => known retryable current
  · exact DriveEnd.gaveUp.drives

theorem onClaimReply_drives (phased : run.expected.phase = .transferAccepted)
    (fee : st.isCurrent run.tick.lease = true → st.PaysFee run.feeE8s) :
    Drives run.tick rejected refunded st (onClaimReply st run) := by
  simp only [onClaimReply]
  split
  · rename_i owned
    have current := (Bool.and_eq_true .. ▸ owned).1
    rcases driving_of_matches owned (fee current) phased with ⟨job, driving⟩
    exact recordCompleted_drives driving
  · exact DriveEnd.gaveUp.drives

theorem onNotifyReply_drives {first : Option NotifyAttemptOutcome} {outcome : NotifyAttemptOutcome}
    (phased : run.expected.phase = .transferAccepted)
    (fee : st.isCurrent run.tick.lease = true → st.PaysFee run.feeE8s)
    (known : st.isCurrent run.tick.lease = true → outcome.isProvenRefundWithBlock = true →
      refunded st.stagedTag) :
    Drives run.tick rejected refunded st (onNotifyReply st run first outcome) := by
  simp only [onNotifyReply]
  split
  · exact DriveEnd.gaveUp.drives
  · rename_i lost
    rw [Bool.not_eq_true', Bool.not_eq_false] at lost
    have current := (Bool.and_eq_true .. ▸ lost).1
    rcases driving_of_matches lost (fee current) phased with ⟨job, driving⟩
    rw [driving.tag] at known
    split
    · exact recordCompleted_drives driving
    · split
      · rename_i proven
        rw [Bool.and_eq_true, decide_eq_true_eq] at proven
        exact driveRefunded_drives driving proven.1 (known current proven.2)
      · cases first with
        | none => exact (DriveEnd.notify _ driving rfl).drives
        | some first => exact close_drives driving _

theorem sendAndNotify_drives {notification : PendingNotification} (idle : st.Idle)
    (fee : st.PaysFee feeE8s)
    (plain : notification.Plain feeE8s) :
    Drives tick rejected refunded st (sendAndNotify st tick notification feeE8s) := by
  simp only [sendAndNotify]
  split
  · exact DriveEnd.gaveUp.drives.after (latch_quiet _)
  · rename_i fits
    cases active : st.activePayoutJob with
    | none => exact (DriveEnd.trap .activePayoutJob nofun).drives
    | some job =>
        have held : (FaucetState.chargedOutflow job notification).isSome = true :=
          Option.isSome_iff_ne_none.mpr (by simpa [active] using fits)
        have moved : Advance tick.nowNanos rejected refunded st
            (st.stagePendingTransfer notification tick.nowNanos) := by
          simp only [FaucetState.stagePendingTransfer, active]
          rw [fee job active] at plain
          exact .move active (.stage (idle job active) held plain rfl)
        apply Drives.after moved
        apply drivePendingTransfer_drives tick 0
        intro next staged
        simp only [FaucetState.stagePendingTransfer, active] at staged
        cases staged
        exact fee job active

end Driver
end JupiterSuite.Faucet
