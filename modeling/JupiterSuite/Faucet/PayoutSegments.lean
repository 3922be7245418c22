import JupiterSuite.Faucet.PayoutMoves

/-! The segments of the payout loop: moves of the active job, then the stop of the tick. -/

namespace JupiterSuite.Faucet

open Base Memo

/-- Where a tick stops: it leaves the loop, or awaits a reply for the job that it works on. -/
inductive PayoutEnd (tick : MainTick) (st : FaucetState) : FaucetState × PayoutPause → Prop where
  | leave (ok : Bool) : PayoutEnd tick st (leavePayout st tick ok)
  | finalize (jobId : Nat) : PayoutEnd tick st (leaveWith (startFinalize st tick jobId))
  | page {job : ActivePayoutJob} (pagesLeft : Nat) (active : st.activePayoutJob = some job)
      (idle : st.Idle) : PayoutEnd tick st (st, .await (.page tick job pagesLeft))
  | lookup {frame : PayoutFrame} {stake : StakeLookup} (second : Bool)
      (idle : st.isCurrent tick.lease = true → st.Idle)
      (fee : st.isCurrent tick.lease = true → st.PaysFee stake.feeE8s)
      (worth : stake.feeE8s < stake.grossShareE8s) :
      PayoutEnd tick st (st, .await (.lookup tick frame stake second))
  | drive (caller : DriveCaller) {goOn : FaucetState → Bool → FaucetState × PayoutPause}
      {result : FaucetState × DriveStop} (ends : DriveEnd tick st result)
      (unfinished : ∀ ok, result.2 ≠ .finished ok) :
      PayoutEnd tick st (afterDrive caller tick.lease goOn result)
  | trap (failed : FailedExpectation) (other : failed ≠ .validatedPayoutAccounting) :
      PayoutEnd tick st (st, .trapped failed tick.lease)
  | overdrawn {job : ActivePayoutJob} (active : st.activePayoutJob = some job)
      (exceeds : job.potStartE8s < job.grossOutflowE8s) :
      PayoutEnd tick st (st, .trapped .validatedPayoutAccounting tick.lease)

/-- Moves, then a stop. -/
def Plays (tick : MainTick) (rejected refunded : PayoutTag → Prop) (st : FaucetState)
    (result : FaucetState × PayoutPause) : Prop :=
  ∃ middle, Advances tick.nowNanos rejected refunded st middle ∧ PayoutEnd tick middle result

variable {feeE8s : Nat}

section Segments

variable {tick : MainTick} {rejected refunded : PayoutTag → Prop} {st : FaucetState}
  {limits : ScanLimits} {fromText : Text → Option Principal}

theorem PayoutEnd.plays {result : FaucetState × PayoutPause} (ends : PayoutEnd tick st result) :
    Plays tick rejected refunded st result :=
  ⟨st, .refl, ends⟩

theorem Plays.after {middle : FaucetState} {result : FaucetState × PayoutPause}
    (advances : Advances tick.nowNanos rejected refunded st middle)
    (plays : Plays tick rejected refunded middle result) :
    Plays tick rejected refunded st result := by
  rcases plays with ⟨last, later, ends⟩
  exact ⟨last, advances.trans later, ends⟩

theorem leave_plays (ok : Bool) : Plays tick rejected refunded st (leavePayout st tick ok) :=
  (PayoutEnd.leave ok).plays

theorem afterDrive_plays {caller : DriveCaller} {result : FaucetState × DriveStop}
    {goOn : FaucetState → Bool → FaucetState × PayoutPause}
    (drives : Drives tick rejected refunded st result)
    (goes : ∀ next, next.Idle → Plays tick rejected refunded next (goOn next true))
    (stops : ∀ next, Plays tick rejected refunded next (goOn next false)) :
    Plays tick rejected refunded st (afterDrive caller tick.lease goOn result) := by
  rcases drives with ⟨middle, advances, ends⟩
  apply Plays.after advances
  cases ends with
  | gaveUp => exact stops middle
  | finished idle => exact goes middle idle
  | dispatch second driving ofTick destination =>
      apply PayoutEnd.plays
      refine .drive caller (.dispatch second driving ofTick destination) ?_
      intro ok impossible
      cases impossible
  | claim driving ofTick =>
      apply PayoutEnd.plays
      refine .drive caller (.claim driving ofTick) ?_
      intro ok impossible
      cases impossible
  | notify first driving ofTick =>
      apply PayoutEnd.plays
      refine .drive caller (.notify first driving ofTick) ?_
      intro ok impossible
      cases impossible
  | trap failed other => exact (PayoutEnd.trap failed other).plays

theorem latch_advances (reason : ForcedRescueReason) :
    Advances tick.nowNanos rejected refunded st (st.latchForcedRescueReason reason) :=
  .single (latch_quiet reason)

theorem fault_advances :
    Advances tick.nowNanos rejected refunded st st.latchSkipRangeInvariantFault :=
  .single .quiet

section Updates

variable {selected : ActivePayoutJob → Bool} {update : ActivePayoutJob → ActivePayoutJob}
  (same : ∀ job, SameTransfers job (update job))

include same

theorem updateJob_advances :
    Advances tick.nowNanos rejected refunded st (st.updateJob selected update) := by
  simp only [FaucetState.updateJob]
  split
  · rename_i job found
    rw [Option.filter_eq_some_iff] at found
    exact .single (.move found.1 (.scan (same job)))
  · exact .refl

theorem updateJob_active {job : ActivePayoutJob}
    (active : (st.updateJob selected update).activePayoutJob = some job) :
    ∃ before, st.activePayoutJob = some before ∧ SameTransfers before job := by
  simp only [FaucetState.updateJob] at active
  split at active
  · rename_i before found
    rw [Option.filter_eq_some_iff] at found
    cases active
    exact ⟨before, found.1, same before⟩
  · exact ⟨job, active, ⟨rfl, rfl, rfl, rfl, rfl, rfl, rfl, rfl⟩⟩

theorem updateJob_idle (idle : st.Idle) : (st.updateJob selected update).Idle := by
  intro job active
  rcases updateJob_active same active with ⟨before, found, kept⟩
  exact kept.pending.trans (idle before found)

theorem updateJob_paysFee (fee : st.PaysFee feeE8s) :
    (st.updateJob selected update).PaysFee feeE8s := by
  intro job active
  rcases updateJob_active same active with ⟨before, found, kept⟩
  exact (fee before found).trans kept.fee.symm

end Updates

section Scans

theorem completeJob_plays {job : ActivePayoutJob} (active : st.activePayoutJob = some job)
    (idle : st.Idle) : Plays tick rejected refunded st (completeJob st tick job) := by
  simp only [completeJob]
  split
  · rename_i overdrawn
    exact (PayoutEnd.overdrawn active (by simpa [checkedSub] using overdrawn)).plays
  · split
    · rename_i worth
      apply afterDrive_plays
      · apply sendAndNotify_drives idle
        · intro other also
          rw [active] at also
          cases also
          rfl
        · exact ⟨nofun, Nat.sub_add_cancel worth.1.le⟩
      · intro next _
        exact (PayoutEnd.finalize job.id).plays
      · intro next
        exact leave_plays true
    · exact (PayoutEnd.finalize job.id).plays

theorem learn_advances (learned : List SkipRange) :
    Advances tick.nowNanos rejected refunded st (st.learn limits learned).1 := by
  simp only [FaucetState.learn]
  split
  · exact .single .quiet
  · exact .refl

theorem learn_active (learned : List SkipRange) :
    (st.learn limits learned).1.activePayoutJob = st.activePayoutJob := by
  simp only [FaucetState.learn]
  split <;> rfl

theorem jump_same (job : ActivePayoutJob) (low : Nat) (complete : Bool) :
    SameTransfers job (job.jump low complete) := by
  simp only [ActivePayoutJob.jump]
  split
  · split <;> exact ⟨rfl, rfl, rfl, rfl, rfl, rfl, rfl, rfl⟩
  · exact ⟨rfl, rfl, rfl, rfl, rfl, rfl, rfl, rfl⟩

theorem skipCachedHistory_jumped {job : ActivePayoutJob} {next : FaucetState}
    (active : st.activePayoutJob = some job)
    (jumped : skipCachedHistory limits st job = .ok (some next)) :
    Advances tick.nowNanos rejected refunded st next ∧
      ∃ low complete, next.activePayoutJob = some (job.jump low complete) := by
  simp only [skipCachedHistory] at jumped
  split at jumped
  · split at jumped
    · cases jumped
    · cases jumped
    · rename_i oldest unread seen cursor result range found
      split at jumped
      · cases jumped
      · generalize remembered : st.learn limits _ = learning at jumped
        rcases learning with ⟨learned, accepted⟩
        cases accepted with
        | false => cases jumped
        | true =>
            cases jumped
            have kept : learned = (st.learn limits _).1 := congrArg Prod.fst remembered.symm
            have still : learned.activePayoutJob = some job := by
              rw [kept, learn_active, active]
            refine ⟨?_, range.startTxId, _, rfl⟩
            rw [kept] at still ⊢
            exact (learn_advances _).tail (.move still (.scan (jump_same job _ _)))
  · cases jumped

theorem payoutScans_plays (pagesLeft : Nat) (idle : st.Idle) :
    Plays tick rejected refunded st (payoutScans limits tick pagesLeft st) := by
  induction pagesLeft generalizing st with
  | zero =>
      rw [payoutScans]
      split
      · exact leave_plays true
      · rename_i job active
        split
        · split
          · exact completeJob_plays active idle
          · exact (PayoutEnd.page 0 active idle).plays
        · exact leave_plays true
  | succ left ih =>
      rw [payoutScans]
      split
      · exact leave_plays true
      · rename_i job active
        split
        · split
          · exact completeJob_plays active idle
          · exact (PayoutEnd.page (left + 1) active idle).plays
        · cases jumped : skipCachedHistory limits st job with
          | error failure => exact Plays.after fault_advances (leave_plays true)
          | ok jump =>
              cases jump with
              | none => exact (PayoutEnd.page (left + 1) active idle).plays
              | some next =>
                  rcases skipCachedHistory_jumped active jumped with
                    ⟨advances, low, complete, still⟩
                  apply Plays.after advances
                  apply ih
                  intro other present
                  rw [still] at present
                  cases present
                  exact (jump_same job low complete).pending.trans (idle job active)

theorem payoutLoop_plays (pagesLeft : Nat) :
    Plays tick rejected refunded st (payoutLoop limits st tick pagesLeft) := by
  simp only [payoutLoop]
  split
  · exact leave_plays true
  · split
    · exact leave_plays true
    · rename_i job active
      split
      · apply afterDrive_plays
        · apply drivePendingTransfer_drives
          intro other also
          rw [active] at also
          cases also
          rfl
        · intro next idle
          exact payoutScans_plays pagesLeft idle
        · intro next
          exact leave_plays true
      · rename_i vacant
        apply payoutScans_plays
        intro other also
        rw [active] at also
        cases also
        simpa using vacant

end Scans

section Records

theorem flush_same (frame : PayoutFrame) (job : ActivePayoutJob) :
    SameTransfers job (job.flush frame) :=
  ⟨rfl, rfl, rfl, rfl, rfl, rfl, rfl, rfl⟩

theorem endPage_same (frame : PayoutFrame) (job : ActivePayoutJob) :
    SameTransfers job (job.endPage frame) := by
  simp only [ActivePayoutJob.endPage]
  split <;> exact ⟨rfl, rfl, rfl, rfl, rfl, rfl, rfl, rfl⟩

theorem flush_advances (frame : PayoutFrame) :
    Advances tick.nowNanos rejected refunded st (flushScanProgress st tick frame) := by
  simp only [flushScanProgress]
  split
  · exact updateJob_advances (flush_same frame)
  · exact .refl

theorem flush_keeps (frame : PayoutFrame) (idle : st.Idle) (fee : st.PaysFee feeE8s) :
    (flushScanProgress st tick frame).Idle ∧
      (flushScanProgress st tick frame).PaysFee feeE8s := by
  simp only [flushScanProgress]
  split
  · have same := flush_same frame
    exact ⟨updateJob_idle same idle, updateJob_paysFee same fee⟩
  · exact ⟨idle, fee⟩

theorem sendShare_plays {frame : PayoutFrame} {notification : PendingNotification}
    {goOn : FaucetState → FaucetState × PayoutPause} (idle : st.Idle) (fee : st.PaysFee feeE8s)
    (plain : notification.Plain feeE8s)
    (goes : ∀ next, next.Idle → Plays tick rejected refunded next (goOn next)) :
    Plays tick rejected refunded st (sendShare st tick frame notification feeE8s goOn) := by
  rcases flush_keeps frame idle fee with ⟨kept, paid⟩
  apply Plays.after (flush_advances frame)
  simp only [sendShare]
  split
  · apply afterDrive_plays
    · exact sendAndNotify_drives kept paid plain
    · intro next cleared
      split
      · exact goes next cleared
      · exact leave_plays true
    · intro next
      exact leave_plays true
  · exact leave_plays true

theorem endPage_plays (frame : PayoutFrame) :
    Plays tick rejected refunded st (endPage limits st tick frame) := by
  have finished : Advances tick.nowNanos rejected refunded st (finishPage st tick frame) := by
    simp only [finishPage]
    split
    · exact updateJob_advances (endPage_same frame)
    · exact .refl
  apply Plays.after finished
  simp only [endPage]
  split
  · split
    · exact leave_plays true
    · exact payoutLoop_plays frame.pagesLeft
  · exact leave_plays true

theorem readRecord_share {nowNanos grossShareE8s : Nat} {tx : IndexTx} {target : PayoutTarget}
    (found : readRecord limits fromText st nowNanos tx =
      .share grossShareE8s feeE8s target) : st.PaysFee feeE8s ∧ feeE8s < grossShareE8s := by
  simp only [readRecord] at found
  split at found
  · cases found
  · cases found
  · split at found
    · cases found
    · split at found
      · cases found
      · rename_i job active
        split at found
        · cases found
        · cases found
        · simp only [readShare] at found
          split at found
          · cases found
          · rename_i worth
            split at found
            · cases found
            · cases found
              refine ⟨fun other also => ?_, Nat.lt_of_not_le worth⟩
              rw [active] at also
              cases also
              rfl

theorem payRecords_plays (records : List IndexTx) (frame : PayoutFrame) (idle : st.Idle) :
    Plays tick rejected refunded st (payRecords limits fromText tick frame records st) := by
  induction records generalizing st frame with
  | nil =>
      simp only [payRecords]
      exact endPage_plays _
  | cons tx rest ih =>
      simp only [payRecords]
      split
      · exact ih _ idle
      · cases found : readRecord limits fromText st tick.nowNanos tx with
        | irrelevant => exact ih _ idle
        | dust => exact ih _ idle
        | underThreshold => exact ih _ idle
        | badMemo => exact ih _ idle
        | overAllocated => exact Plays.after (latch_advances _) (leave_plays true)
        | brokenCache => exact Plays.after fault_advances (leave_plays true)
        | noJob => exact (PayoutEnd.trap .activePayoutJob nofun).plays
        | share grossShareE8s feeE8s target =>
            rcases readRecord_share found with ⟨fee, worth⟩
            have priced := Nat.sub_add_cancel worth.le
            cases target with
            | cyclesTopUp canisterId =>
                exact sendShare_plays idle fee ⟨nofun, priced⟩ fun _ cleared => ih _ cleared
            | rawIcp canisterId destinationSubaccount memo =>
                exact sendShare_plays idle fee ⟨nofun, priced⟩ fun _ cleared => ih _ cleared
            | neuronStake neuronId memo =>
                exact (PayoutEnd.lookup false (fun _ => idle) (fun _ => fee) worth).plays

theorem onSubaccount_plays {frame : PayoutFrame} {stake : StakeLookup} {second : Bool}
    {result : Option (List UInt8)} (idle : st.isCurrent tick.lease = true → st.Idle)
    (fee : st.isCurrent tick.lease = true → st.PaysFee stake.feeE8s)
    (worth : stake.feeE8s < stake.grossShareE8s) :
    Plays tick rejected refunded st
      (onSubaccount limits fromText st tick frame stake second result) := by
  cases result with
  | some subaccount =>
      simp only [onSubaccount]
      split
      · rename_i owned
        have current := (Bool.and_eq_true .. ▸ owned).1
        have priced := Nat.sub_add_cancel worth.le
        exact sendShare_plays (idle current) (fee current) ⟨nofun, priced⟩ fun _ cleared =>
          payRecords_plays _ _ cleared
      · exact leave_plays true
  | none =>
      simp only [onSubaccount]
      split
      · exact (PayoutEnd.lookup true idle fee worth).plays
      · split
        · rename_i owned
          have current := (Bool.and_eq_true .. ▸ owned).1
          have same : ∀ job : ActivePayoutJob, SameTransfers job
              { job with
                failedTopups := satAdd u64Max job.failedTopups 1
                failedLookups := stake.tx.id :: job.failedLookups } :=
            fun _ => ⟨rfl, rfl, rfl, rfl, rfl, rfl, rfl, rfl⟩
          apply Plays.after (updateJob_advances same)
          exact payRecords_plays _ _ (updateJob_idle same (idle current))
        · exact leave_plays true

end Records

section Pages

variable {job : ActivePayoutJob} {page : IndexPage}

theorem applyDenomPage_same (active : ActivePayoutJob) (denominatorE8s : Nat)
    (skipCandidate : LocalSkipCandidate) (scanComplete : Bool) :
    SameTransfers active (active.applyDenomPage page denominatorE8s skipCandidate scanComplete) := by
  simp only [ActivePayoutJob.applyDenomPage]
  split <;> exact ⟨rfl, rfl, rfl, rfl, rfl, rfl, rfl, rfl⟩

theorem applyDenomPage_advances {nowNanos : Nat} {scanComplete : Bool} :
    match applyDenomPage limits fromText st job nowNanos page scanComplete with
    | .overflow => True
    | .fault next | .applied next => Advances tick.nowNanos rejected refunded st next := by
  simp only [applyDenomPage]
  cases denomTransactions limits fromText st job nowNanos ⟨0, job.skipCandidate, []⟩
      page.transactions with
  | error failure =>
      cases failure with
      | overflow => trivial
      | skipRange => exact fault_advances
  | ok pass =>
      dsimp only
      cases checkedAdd u64Max (job.effectiveDenomStakingBalanceE8s.getD 0) pass.denomDeltaE8s with
      | none => trivial
      | some denominatorE8s =>
          dsimp only
          generalize (if scanComplete = true then pass.recordCompletedSkipRange limits
            else pass) = closed
          have learned : Advances tick.nowNanos rejected refunded st
              (st.learn limits closed.pendingSkipRanges).1 := learn_advances _
          generalize st.learn limits closed.pendingSkipRanges = result at learned
          rcases result with ⟨middle, accepted⟩
          cases accepted with
          | false => exact learned.trans fault_advances
          | true =>
              dsimp only
              cases active : middle.activePayoutJob with
              | none => exact learned
              | some other =>
                  exact learned.tail (.move active (.scan (applyDenomPage_same other _ _ _)))

theorem onDenomPage_plays (pagesLeft : Nat) : Plays tick rejected refunded st
    (onDenomPage limits fromText st tick job pagesLeft page) := by
  simp only [onDenomPage]
  split
  · exact leave_plays true
  · split
    · exact leave_plays false
    · rename_i scanComplete valid
      have applied := @applyDenomPage_advances tick rejected refunded st limits fromText job page
        tick.nowNanos scanComplete
      generalize applyDenomPage limits fromText st job tick.nowNanos page scanComplete = result
        at applied
      cases result with
      | overflow => exact leave_plays false
      | fault next => exact Plays.after applied (leave_plays true)
      | applied next =>
          apply Plays.after applied
          dsimp only
          split
          · exact leave_plays true
          · exact payoutLoop_plays pagesLeft

theorem onPayoutPage_plays (pagesLeft : Nat) (idle : st.Idle) : Plays tick rejected refunded st
    (onPayoutPage limits fromText st tick job pagesLeft page) := by
  simp only [onPayoutPage]
  split
  · exact leave_plays false
  · have same : ∀ active : ActivePayoutJob, SameTransfers active (active.noteIndexPage page) :=
      fun _ => ⟨rfl, rfl, rfl, rfl, rfl, rfl, rfl, rfl⟩
    apply Plays.after (updateJob_advances same)
    exact payRecords_plays _ _ (updateJob_idle same idle)

theorem onPage_plays {pagesLeft : Nat} {reply : Option IndexPage}
    (idle : st.isCurrent tick.lease = true → st.Idle) :
    Plays tick rejected refunded st (onPage limits fromText st tick job pagesLeft reply) := by
  cases reply with
  | none => exact leave_plays false
  | some page =>
      simp only [onPage]
      split
      · split
        · rename_i owned
          have current := (Bool.and_eq_true .. ▸ owned).1
          exact onPayoutPage_plays _ (idle current)
        · exact leave_plays true
      · split
        · exact onDenomPage_plays _
        · exact leave_plays true

end Pages

theorem resumeDriver_plays {caller : DriveCaller} {run : DriveRun}
    {result : FaucetState × DriveStop} (drives : Drives run.tick rejected refunded st result) :
    Plays run.tick rejected refunded st (resumeDriver limits fromText caller run result) := by
  apply afterDrive_plays drives
  · intro next idle
    cases caller with
    | loop pagesLeft => exact payoutLoop_plays pagesLeft
    | page frame =>
        simp only [DriveCaller.goOn, Bool.not_true, Bool.false_eq_true, if_false]
        split
        · exact payRecords_plays _ _ idle
        · exact leave_plays true
    | remainder jobId => exact (PayoutEnd.finalize jobId).plays
  · intro next
    exact leave_plays true

end Segments
end JupiterSuite.Faucet
