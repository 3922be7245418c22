import JupiterSuite.Faucet.DenominatorPass

/-! The segments of a tick over a truthful history. Behind the denominator pass nothing that the
denominator rests on is written any more. -/

namespace JupiterSuite.Faucet

open Base Memo

/-- The job without the cursors and the counters of its passes. -/
def ActivePayoutJob.round (job : ActivePayoutJob) : ActivePayoutJob :=
  { job.scan.setSkipCandidate .empty with
    nextStart := none
    scanComplete := false
    ignoredUnderThreshold := 0
    ignoredBadMemo := 0
    observedOldestTxId := none
    observedLatestTxId := none
    failedLookups := []
    overAllocated := false }

def Counted (view : StateView) : Prop :=
  ∀ job, view.job = some job → job.denomScanComplete = true

def CallerScan (view : StateView) : DriveCaller → Prop
  | .page _ => Counted view
  | .loop _ | .remainder _ => True

def KontScan (st : FaucetState) : PayoutKont → Prop
  | .page _ job _ => st.activePayoutJob = some job
  | .lookup _ _ _ _ => Counted st.view
  | .transfer caller _ _ _ _ | .claim caller _ | .notify caller _ _ _ => CallerScan st.view caller
  | .discovery _ | .finalize _ _ | .probe _ | .rescue _ => True

def PauseScan (st : FaucetState) : PayoutPause → Prop
  | .await kont => KontScan st kont
  | .transferring caller _ _ _ _ => CallerScan st.view caller
  | .done | .trapped _ _ => True

section Owners

variable (fromText : Text → Option Principal) (history : List IndexTx) (tick : MainTick)

/-- A segment of the owner ends with sound scans. -/
structure Lands (result : FaucetState × PayoutPause) : Prop where
  lock : result.1.mainLockStateTs = some tick.lease ∨ result.1.mainLockStateTs = some 0
  sound : ScanSound fromText history result.1.view
  pause : PauseScan result.1 result.2

structure PayScan (view : StateView) : Prop extends OwnScan fromText history tick view where
  counted : Counted view

end Owners

section Segments

variable {fromText : Text → Option Principal} {history : List IndexTx} {limits : ScanLimits}
  {st : FaucetState} {tick : MainTick} {job after : ActivePayoutJob} {policy : CommitmentPolicy}

theorem OwnScan.lands (own : OwnScan fromText history tick st.view) {pause : PayoutPause}
    (sound : PauseScan st pause) : Lands fromText history tick (st, pause) :=
  ⟨.inl own.lock, own.toScanSound, sound⟩

theorem OwnScan.current (own : OwnScan fromText history tick st.view) :
    st.isCurrent tick.lease = true :=
  isCurrent_iff.mpr own.lock

theorem JobScan.same (scan : JobScan fromText policy history job)
    (done : job.denomScanComplete = true) (round : after.round = job.round) :
    after.denomScanComplete = true ∧ JobScan fromText policy history after.scan := by
  have done : job.round.denomScanComplete = true := done
  have ended : job.round.roundEndTimeNanos.isSome := scan.ended
  have pot : job.round.potStartE8s ≤ u64Max := scan.pot
  have counts : job.round.Counts fromText policy history := scan.counts done
  rw [← round] at done ended pot counts
  exact ⟨done, ended, pot, .counted done counts⟩

theorem PayScan.update (own : PayScan fromText history tick st.view)
    (selected : ActivePayoutJob → Bool) {update : ActivePayoutJob → ActivePayoutJob}
    (round : ∀ job, (update job).round = job.round) :
    PayScan fromText history tick (st.updateJob selected update).view := by
  rw [FaucetState.updateJob]
  split
  · rename_i job found
    have active := (Option.filter_eq_some_iff.mp found).1
    have done := own.counted job.scan (by rw [FaucetState.view, active]; rfl)
    rcases (own.active active).same done (round job) with ⟨still, scan⟩
    refine { own.setJob scan with lock := own.lock, counted := ?_ }
    rintro _ ⟨⟩
    exact still
  · exact own

section Owned

variable (own : OwnScan fromText history tick st.view)
include own

theorem leave_lands (ok : Bool) : Lands fromText history tick (leavePayout st tick ok) := by
  simp only [leavePayout, leaveWith, endProcess, FaucetState.finishGuard, own.current,
    Bool.and_true, if_true]
  split
  · refine ⟨.inr ?_, { own.toScanSound with }, trivial⟩
    have owned : st.mainLockStateTs = some tick.lease := own.lock
    simp only [FaucetState.dropGuard, releaseLease, owned, if_true]
  · split
    · exact own.lands trivial
    · exact ⟨.inr rfl, { own.toScanSound with }, trivial⟩

theorem finalize_lands (jobId : Nat) :
    Lands fromText history tick (leaveWith (startFinalize st tick jobId)) := by
  simp only [startFinalize]
  repeat' split
  · exact own.lands trivial
  · exact leave_lands own true
  · exact leave_lands own true

/-- The driver leaves the scans alone, and its caller goes on or is suspended with it. -/
theorem afterDrive_lands {caller : DriveCaller} {result : FaucetState × DriveStop}
    {goOn : FaucetState → Bool → FaucetState × PayoutPause}
    (view : result.1.view = st.view) (calls : CallerScan st.view caller)
    (goes : ∀ next ok, next.view = st.view → OwnScan fromText history tick next.view →
      Lands fromText history tick (goOn next ok)) :
    Lands fromText history tick (afterDrive caller tick.lease goOn result) := by
  rcases result with ⟨after, stop⟩
  have kept : OwnScan fromText history tick after.view := view ▸ own
  cases stop with
  | finished ok => exact goes after ok view kept
  | trapped failed => exact kept.lands trivial
  | transferring | claiming | notifying =>
      have calls : CallerScan after.view caller := view ▸ calls
      exact kept.lands calls

theorem completeJob_lands : Lands fromText history tick (completeJob st tick job) := by
  simp only [completeJob]
  repeat' split
  · exact own.lands trivial
  · refine afterDrive_lands own (view_send ..) (by trivial) ?_
    intro next ok _ kept
    split
    · exact finalize_lands kept job.id
    · exact leave_lands kept true
  · exact finalize_lands own job.id

theorem payoutScans_lands (pagesLeft : Nat) :
    Lands fromText history tick (payoutScans limits tick pagesLeft st) := by
  induction pagesLeft generalizing st with
  | zero =>
      rw [payoutScans]
      dsimp only
      repeat' split
      · exact leave_lands own true
      · exact completeJob_lands own
      · exact own.lands ‹_›
      · exact leave_lands own true
  | succ left ih =>
      rw [payoutScans]
      dsimp only
      repeat' split
      · exact leave_lands own true
      · exact completeJob_lands own
      · exact own.lands ‹_›
      · exact @leave_lands _ _ st.latchSkipRangeInvariantFault tick own true
      · rename_i jumped
        exact ih (skipCachedHistory_sound own ‹_› jumped)
      · exact own.lands ‹_›

theorem payoutLoop_lands (pagesLeft : Nat) :
    Lands fromText history tick (payoutLoop limits st tick pagesLeft) := by
  simp only [payoutLoop, own.current, Bool.not_true, Bool.false_eq_true, if_false]
  repeat' split
  · exact leave_lands own true
  · refine afterDrive_lands own (view_drive ..) (by trivial) ?_
    intro next ok _ kept
    split
    · exact payoutScans_lands kept pagesLeft
    · exact leave_lands kept true
  · exact payoutScans_lands own pagesLeft

end Owned

section Pages

variable (own : PayScan fromText history tick st.view)
include own

theorem sendShare_lands {frame : PayoutFrame} {notification : PendingNotification} {feeE8s : Nat}
    {goOn : FaucetState → FaucetState × PayoutPause}
    (goes : ∀ next, PayScan fromText history tick next.view →
      Lands fromText history tick (goOn next)) :
    Lands fromText history tick (sendShare st tick frame notification feeE8s goOn) := by
  have round : ∀ job : ActivePayoutJob, (job.flush frame).round = job.round := fun _ => rfl
  have flushed := own.update frame.atCursor round
  simp only [sendShare, flushScanProgress, own.current, if_true]
  split
  · refine afterDrive_lands flushed.toOwnScan (view_send ..) flushed.counted ?_
    intro next ok view kept
    split
    · exact goes next { kept with counted := view ▸ flushed.counted }
    · exact leave_lands kept true
  · exact leave_lands flushed.toOwnScan true

theorem endPage_lands (frame : PayoutFrame) :
    Lands fromText history tick (endPage limits st tick frame) := by
  have round : ∀ job : ActivePayoutJob, (job.endPage frame).round = job.round := by
    intro job
    rw [ActivePayoutJob.endPage]
    split <;> rfl
  have kept := (own.update frame.atCursor round).toOwnScan
  simp only [endPage, finishPage, own.current, if_true]
  repeat' split
  · exact leave_lands kept true
  · exact payoutLoop_lands kept frame.pagesLeft
  · exact leave_lands kept true

theorem payRecords_lands (records : List IndexTx) (frame : PayoutFrame) :
    Lands fromText history tick (payRecords limits fromText tick frame records st) := by
  induction records generalizing st frame with
  | nil => exact endPage_lands own _
  | cons tx rest ih =>
      simp only [payRecords]
      split
      · exact ih own _
      · cases readRecord limits fromText st tick.nowNanos tx with
        | irrelevant | dust | underThreshold | badMemo => exact ih own _
        | overAllocated =>
            have latched := own.toOwnScan
            rw [← view_latch st .accountingInvariantBroken] at latched
            exact leave_lands latched true
        | brokenCache =>
            exact @leave_lands _ _ st.latchSkipRangeInvariantFault tick own.toOwnScan true
        | noJob => exact own.lands trivial
        | share grossShareE8s feeE8s target =>
            cases target with
            | cyclesTopUp | rawIcp => exact sendShare_lands own fun _ kept => ih kept _
            | neuronStake => exact own.lands own.counted

theorem onSubaccount_lands {frame : PayoutFrame} {stake : StakeLookup} {second : Bool}
    (result : Option (List UInt8)) : Lands fromText history tick
      (onSubaccount limits fromText st tick frame stake second result) := by
  cases result with
  | some subaccount =>
      simp only [onSubaccount]
      split
      · exact sendShare_lands own fun _ kept => payRecords_lands kept _ _
      · exact leave_lands own.toOwnScan true
  | none =>
      simp only [onSubaccount]
      repeat' split
      · exact own.lands own.counted
      · have round : ∀ job : ActivePayoutJob, ({ job with
            failedTopups := satAdd u64Max job.failedTopups 1
            failedLookups := stake.tx.id :: job.failedLookups } : ActivePayoutJob).round =
            job.round := fun _ => rfl
        exact payRecords_lands (own.update (fun job => decide (job.id = frame.jobId)) round) _ _
      · exact leave_lands own.toOwnScan true

end Pages

/-- The pages of the index tell the truth about the history below the cursor. -/
theorem onPage_lands (own : OwnScan fromText history tick st.view)
    (active : st.activePayoutJob = some job) {pagesLeft : Nat} {reply : Option IndexPage}
    (truthful : ∀ page, reply = some page → ∃ count, page = indexPage history job.nextStart count) :
    Lands fromText history tick (onPage limits fromText st tick job pagesLeft reply) := by
  cases reply with
  | none => exact leave_lands own false
  | some page =>
      rcases truthful page rfl with ⟨count, rfl⟩
      simp only [onPage]
      repeat' split
      · rename_i done _
        have counted : Counted st.view := by
          rintro _ same
          rw [FaucetState.view, active] at same
          cases same
          exact done
        have round : ∀ other : ActivePayoutJob,
          (other.noteIndexPage (indexPage history job.nextStart count)).round = other.round :=
            fun _ => rfl
        have kept := PayScan.update { own with counted := counted } (fun other =>
          decide (other.id = job.id) && decide (other.nextStart = job.nextStart)) round
        rw [onPayoutPage]
        split
        · exact leave_lands own false
        · exact payRecords_lands kept _ _
      · exact leave_lands own true
      · rename_i waits _
        simp only [onDenomPage]
        split
        · exact leave_lands own true
        · split
          · exact leave_lands own false
          · rename_i complete valid
            have applied := @applyDenomPage_sound _ _ _ _ _ _ tick.nowNanos _ _ _ own active
              (Bool.eq_false_iff.mpr waits) valid
            split
            · exact leave_lands own false
            · rename_i found
              rw [found] at applied
              exact leave_lands applied true
            · rename_i found
              rw [found] at applied
              split
              · exact leave_lands applied true
              · exact payoutLoop_lands applied _
      · exact leave_lands own true

end Segments
end JupiterSuite.Faucet
