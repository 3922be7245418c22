import JupiterSuite.Relay.SplitterInvariant

/-! Every pass of the drive loop, and with it every segment, continues the job it drives or
ends it in one of the three admitted ways. -/

namespace JupiterSuite.Relay

open Base

variable (relayId : Principal)

/-- A claimed leg about to be sent under its pinned identity. -/
structure Sendable (ledger : LedgerLog SplitterTag) (serial : Nat) (plan : SplitterPlan)
    (claimed : ActiveSplitterJob) (leg : SplitterLeg) (hadPrior : Bool) : Prop where
  continues : Continues relayId ledger serial plan claimed
  ready : (claimed.progress leg).status = .ready
  ordered : leg = .subaccountOne → claimed.defaultLeg.status.isAccepted = true
  started : (claimed.progress leg).attemptStarted = true
  prior : hadPrior = false → ledger.Refused ⟨serial, leg⟩

/-- What a continuation other than a transfer may rely on under its lease. -/
def AwaitOk (activeJob : Option ActiveSplitterJob) : SplitterKont → Prop
  | .waitFunds _ claimed leg | .waitFee _ claimed leg =>
      activeJob = some claimed ∧ (claimed.progress leg).status.isAccepted = false ∧
        (claimed.progress leg).untried
  | .transfer _ _ _ _ _ => False
  | .stageFee _ _ _ | .stageBalance _ _ _ _ _ _ => activeJob = none

/-- How a segment leaves the active slot, the lock and its own continuation. -/
def SegmentOk (slot : Option ActiveSplitterJob → List (Nat × QuarantinedSplitterJob) → Prop)
    (sendable : ActiveSplitterJob → SplitterLeg → Bool → Prop) (lease : Nat)
    (lock : Option Nat) : SplitterState × SplitterPause → Prop
  | (st, .done) =>
      slot st.activeJob st.quarantinedJobs ∧ st.splitterLockStateTs = releaseLease lease lock
  | (st, .await kont) =>
      slot st.activeJob st.quarantinedJobs ∧ st.splitterLockStateTs = lock ∧
        kont.lease = lease ∧ AwaitOk st.activeJob kont
  | (st, .transferring driver claimed leg hadPrior) =>
      st.activeJob = some claimed ∧ st.splitterLockStateTs = lock ∧ driver.lease = lease ∧
        sendable claimed leg hadPrior
  | (_, .trap) => True
  | (st, .exhausted) =>
      slot st.activeJob st.quarantinedJobs ∧ st.splitterLockStateTs = lock

abbrev JobSegment (ledger : LedgerLog SplitterTag) (serial : Nat) (plan : SplitterPlan) :=
  SegmentOk (SlotOk relayId ledger serial plan) (Sendable relayId ledger serial plan)

abbrev VacantSegment :=
  SegmentOk (fun activeJob _ => activeJob = none) fun _ _ _ => False

def PassOk (ledger : LedgerLog SplitterTag) (serial : Nat) (plan : SplitterPlan) (lease : Nat)
    (lock : Option Nat) : Pass → Prop
  | .exit st pause => JobSegment relayId ledger serial plan lease lock (st, pause)
  | .result st result =>
      SlotOk relayId ledger serial plan st.activeJob st.quarantinedJobs ∧
        st.splitterLockStateTs = lock ∧ (result = .completed → st.activeJob = none)
  | .again st =>
      (∃ job, st.activeJob = some job ∧ Continues relayId ledger serial plan job) ∧
        st.splitterLockStateTs = lock

variable {relayId} {ledger : LedgerLog SplitterTag} {serial : Nat} {plan : SplitterPlan}
  {lock : Option Nat}
variable {lease : Nat} {st : SplitterState} {driver : Driver} {job : ActiveSplitterJob}
  {leg : SplitterLeg}

theorem stageNext_ok {slot : Option ActiveSplitterJob → List (Nat × QuarantinedSplitterJob) → Prop}
    {sendable : ActiveSplitterJob → SplitterLeg → Bool → Prop} (nowNanos : Nat)
    (resumed : Option Nat) (feeE8s : Nat) (remaining : List Nat)
    (filled : slot st.activeJob st.quarantinedJobs) (vacant : st.activeJob = none)
    (locked : st.splitterLockStateTs = lock) :
    SegmentOk slot sendable lease lock
      (stageNext st lease nowNanos resumed feeE8s remaining) := by
  induction remaining with
  | nil =>
      refine ⟨filled, ?_⟩
      simp only [SplitterState.dropGuard, locked]
  | cons number remaining ih =>
      simp only [stageNext]
      split
      · exact ih
      · exact ⟨filled, locked, rfl, vacant⟩

theorem finishDrive_ok {result : DriveResult}
    (slot : SlotOk relayId ledger serial plan st.activeJob st.quarantinedJobs)
    (locked : st.splitterLockStateTs = lock) (completed : result = .completed → st.activeJob = none) :
    JobSegment relayId ledger serial plan driver.lease lock (finishDrive st driver result) := by
  unfold finishDrive
  split
  · exact ⟨slot, locked, rfl, completed rfl⟩
  · exact stageNext_ok _ _ _ _ slot (completed rfl) locked
  · refine ⟨slot, ?_⟩
    simp only [SplitterState.dropGuard, locked]

theorem claim_some {next : SplitterState} {claimed : ActiveSplitterJob} {mark : Option SplitterLeg}
    (taken : st.claimActiveJob job mark = .claimed next claimed) :
    ∃ revision, next.activeJob = some claimed ∧
      next.splitterLockStateTs = st.splitterLockStateTs ∧
      claimed = match mark with
        | none => { job with driverRevision := revision }
        | some leg => { job with driverRevision := revision }.setProgress leg
            { job.progress leg with attemptStarted := true } := by
  simp only [SplitterState.claimActiveJob] at taken
  split at taken
  · cases taken
  · split at taken
    · cases taken
    · rename_i revision _
      cases taken
      refine ⟨revision, rfl, rfl, ?_⟩
      cases mark with
      | none => rfl
      | some leg => cases leg <;> rfl

theorem quarantine_ok (stored : st.activeJob = some job) (locked : st.splitterLockStateTs = lock)
    (continues : Continues relayId ledger serial plan job) (leg : SplitterLeg) (nowNanos : Nat)
    (reason : String) :
    PassOk relayId ledger serial plan lease lock (quarantine st leg nowNanos reason) := by
  have moved : st.quarantineActiveJob leg nowNanos reason =
      { st with
        activeJob := none
        quarantinedJobs := (job.plan.splitterNumber, ⟨job, leg, nowNanos, reason⟩) ::
          st.quarantinedJobs.filter fun entry => entry.1 != job.plan.splitterNumber } := by
    simp [SplitterState.quarantineActiveJob, stored]
  simp only [quarantine, moved]
  refine ⟨.quarantined _ List.mem_cons_self continues, locked, fun impossible => ?_⟩
  cases impossible

theorem repinAnd_ok {feeE8s nowNanos : Nat} {next : SplitterState → Pass}
    (stored : st.activeJob = some job) (locked : st.splitterLockStateTs = lock)
    (continues : Continues relayId ledger serial plan job)
    (unaccepted : (job.progress leg).status.isAccepted = false)
    (refused : ledger.Refused ⟨serial, leg⟩) (feasible : feeE8s ≤ (job.plan.leg leg).grossShareE8s)
    (rest : ∀ repinned, Continues relayId ledger serial plan repinned →
      PassOk relayId ledger serial plan lease lock (next (st.setActiveJob repinned))) :
    PassOk relayId ledger serial plan lease lock (repinAnd st job leg feeE8s nowNanos next) := by
  simp only [repinAnd]
  cases pinned : repinLeg job leg feeE8s nowNanos with
  | none => exact quarantine_ok stored locked continues ..
  | some repinned => exact rest _ (continues.repin unaccepted refused feasible pinned)

theorem fee_le_gross (invariant : JobInvariant relayId ledger serial job) (leg : SplitterLeg) :
    (job.plan.leg leg).feeE8s ≤ (job.plan.leg leg).grossShareE8s := by
  have parts := invariant.exact.each leg
  omega

theorem untried_of_prior {progress : SplitterLegProgress}
    (prior : (progress.attemptStarted || progress.uncertainAttemptSeen) = false) :
    progress.untried := by
  simpa [SplitterLegProgress.untried, Bool.or_eq_false_iff] using prior

theorem cleared_refused (invariant : JobInvariant relayId ledger serial job)
    (unaccepted : job.defaultLeg.status.isAccepted = false)
    (refused : ledger.Refused ⟨serial, .defaultAccount⟩) (leg : SplitterLeg) :
    ledger.Refused ⟨serial, leg⟩ := by
  cases leg with
  | defaultAccount => exact refused
  | subaccountOne => exact invariant.ordered unaccepted

theorem claimed_sendable (revision : Nat) (continues : Continues relayId ledger serial plan job)
    (current : currentLeg job = some leg) (ready : (job.progress leg).status = .ready) :
    Sendable relayId ledger serial plan
      ({ job with driverRevision := revision }.setProgress leg
        { job.progress leg with attemptStarted := true })
      leg ((job.progress leg).attemptStarted || (job.progress leg).uncertainAttemptSeen) := by
  have open_leg := currentLeg_some current
  have invariant := continues.invariant.claim revision
  refine ⟨⟨?_, ?_⟩, ?_, ?_, ?_, ?_⟩
  · apply invariant.setProgress
    · rw [progress_withRevision]
      exact open_leg.1
    · intro _ untried
      cases untried.1
    · intro waiting
      exact absurd ready waiting
    · intro block accepted
      rw [ready] at accepted
      cases accepted
  · rw [plan_setProgress]
    exact continues.repinned
  · rw [progress_setProgress]
    exact ready
  · rintro rfl
    exact open_leg.2 rfl
  · rw [progress_setProgress]
  · intro none_prior
    exact continues.invariant.untried leg open_leg.1 (untried_of_prior none_prior)

theorem driveReady_ok (stored : st.activeJob = some job) (locked : st.splitterLockStateTs = lock)
    (continues : Continues relayId ledger serial plan job) (current : currentLeg job = some leg)
    (ready : (job.progress leg).status = .ready) :
    PassOk relayId ledger serial plan driver.lease lock (driveReady st job leg driver) := by
  have open_leg := currentLeg_some current
  simp only [driveReady]
  split
  · split
    · exact quarantine_ok stored locked continues ..
    · rename_i none_prior
      have untried := untried_of_prior (Bool.eq_false_iff.mpr none_prior)
      have refused := continues.invariant.untried leg open_leg.1 untried
      split
      · rename_i first
        subst first
        refine ⟨.clearedPreSpend (cleared_refused continues.invariant open_leg.1 refused),
          locked, fun impossible => ?_⟩
        cases impossible
      · exact repinAnd_ok stored locked continues open_leg.1 refused
          (fee_le_gross continues.invariant leg) fun repinned again => ⟨⟨repinned, rfl, again⟩, locked⟩
  · split
    · refine ⟨?_, locked, fun impossible => ?_⟩
      · rw [stored]
        exact continues
      · cases impossible
    · exact trivial
    · rename_i next claimed taken
      rcases claim_some taken with ⟨revision, active, kept, rfl⟩
      exact ⟨active, kept.trans locked, rfl, claimed_sendable revision continues current ready⟩

theorem claimAnd_ok {next : ActiveSplitterJob → SplitterKont} (stored : st.activeJob = some job)
    (locked : st.splitterLockStateTs = lock) (continues : Continues relayId ledger serial plan job)
    (current : currentLeg job = some leg) (waiting : (job.progress leg).status ≠ .ready)
    (leased : ∀ claimed, (next claimed).lease = lease)
    (awaits : ∀ claimed, AwaitOk (some claimed) (next claimed) ↔
      (claimed.progress leg).status.isAccepted = false ∧ (claimed.progress leg).untried) :
    PassOk relayId ledger serial plan lease lock (claimAnd st job next) := by
  have open_leg := currentLeg_some current
  simp only [claimAnd]
  split
  · refine ⟨?_, locked, fun impossible => ?_⟩
    · rw [stored]
      exact continues
    · cases impossible
  · exact trivial
  · rename_i after claimed taken
    rcases claim_some taken with ⟨revision, active, kept, rfl⟩
    refine ⟨?_, kept.trans locked, leased _, ?_⟩
    · rw [active]
      exact ⟨continues.invariant.claim revision, continues.repinned⟩
    · rw [active]
      refine (awaits _).mpr ?_
      rw [progress_withRevision]
      exact ⟨open_leg.1, continues.invariant.waiting leg waiting open_leg.1⟩

theorem driveStep_ok (stored : st.activeJob = some job) (locked : st.splitterLockStateTs = lock)
    (continues : Continues relayId ledger serial plan job) :
    PassOk relayId ledger serial plan driver.lease lock (driveStep st driver) := by
  simp only [driveStep, stored]
  split
  · exact quarantine_ok stored locked continues ..
  · split
    · exact quarantine_ok stored locked continues ..
    · split
      · rename_i all_accepted
        exact ⟨.completed job continues (currentLeg_none all_accepted), locked, fun _ => rfl⟩
      · rename_i leg current
        split
        · exact trivial
        · rename_i status
          refine claimAnd_ok stored locked continues current ?_ (fun _ => rfl) fun claimed => ?_
          · rw [status]
            simp
          · simp [AwaitOk]
        · rename_i status
          refine claimAnd_ok stored locked continues current ?_ (fun _ => rfl) fun claimed => ?_
          · rw [status]
            simp
          · simp [AwaitOk]
        · rename_i ready
          exact driveReady_ok stored locked continues current ready

/-- The run lemma of the loop: what each pass keeps, the whole segment keeps. -/
theorem drive_ok (fuel : Nat) {pass : Pass}
    (ok : PassOk relayId ledger serial plan driver.lease lock pass) :
    JobSegment relayId ledger serial plan driver.lease lock (drive fuel driver pass) := by
  induction fuel generalizing pass with
  | zero =>
      cases pass with
      | exit st pause => exact ok
      | result st result => exact finishDrive_ok ok.1 ok.2.1 ok.2.2
      | again st =>
          rcases ok with ⟨⟨job, stored, continues⟩, locked⟩
          refine ⟨?_, locked⟩
          rw [stored]
          exact continues
  | succ fuel ih =>
      cases pass with
      | exit st pause => exact ok
      | result st result => exact finishDrive_ok ok.1 ok.2.1 ok.2.2
      | again st =>
          rcases ok with ⟨⟨job, stored, continues⟩, locked⟩
          exact ih (driveStep_ok stored locked continues)

end JupiterSuite.Relay
