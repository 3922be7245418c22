import JupiterSuite.Relay.SplitterExactlyOnce

/-! Every pass of the drive loop keeps the stored plan valid and the recorded evidence; only the
second leg waits and is repinned. -/

namespace JupiterSuite.Relay

open Base

structure ValidPlan (plan : SplitterPlan) : Prop where
  percentage : splitterPercentage plan.splitterNumber = some plan.percentageToDefault
  source : plan.sourceSubaccount = relayNumberedSubaccount plan.splitterNumber
  first_destination : plan.defaultLeg.destination = .defaultAccount
  second_destination : plan.subaccountOneLeg.destination = .subaccountOne
  share : plan.defaultLeg.grossShareE8s = plan.balanceStartE8s * plan.percentageToDefault / 100
  total : plan.defaultLeg.grossShareE8s + plan.subaccountOneLeg.grossShareE8s =
    plan.balanceStartE8s
  small : plan.balanceStartE8s ≤ u64Max
  amounts : ∀ leg, (plan.leg leg).amountE8s + (plan.leg leg).feeE8s = (plan.leg leg).grossShareE8s
  fees : ∀ leg, (plan.leg leg).feeE8s < (plan.leg leg).grossShareE8s
  apart : plan.defaultLeg.createdAtTimeNanos ≠ plan.subaccountOneLeg.createdAtTimeNanos

theorem activePlanIsValid_of {job : ActiveSplitterJob} (valid : ValidPlan job.plan) :
    activePlanIsValid job = true := by
  have first := valid.amounts .defaultAccount
  have second := valid.amounts .subaccountOne
  have first_fee := valid.fees .defaultAccount
  have second_fee := valid.fees .subaccountOne
  have total := valid.total
  have small := valid.small
  simp only [SplitterPlan.leg] at first second first_fee second_fee
  have whole : checkedAdd u64Max job.plan.defaultLeg.grossShareE8s
      job.plan.subaccountOneLeg.grossShareE8s = some job.plan.balanceStartE8s :=
    checkedAdd_eq_some.mpr (by omega)
  have first_part : checkedAdd u64Max job.plan.defaultLeg.amountE8s job.plan.defaultLeg.feeE8s =
      some job.plan.defaultLeg.grossShareE8s := checkedAdd_eq_some.mpr (by omega)
  have second_part : checkedAdd u64Max job.plan.subaccountOneLeg.amountE8s
      job.plan.subaccountOneLeg.feeE8s = some job.plan.subaccountOneLeg.grossShareE8s :=
    checkedAdd_eq_some.mpr (by omega)
  simp [activePlanIsValid, valid.percentage, valid.source, valid.first_destination,
    valid.second_destination, valid.share.symm, whole, first_part, second_part, first_fee,
    second_fee, valid.apart]

structure PlanOk (job : ActiveSplitterJob) : Prop where
  valid : ValidPlan job.plan
  ordered : job.plan.defaultLeg.createdAtTimeNanos < job.plan.subaccountOneLeg.createdAtTimeNanos
  /-- Only the second leg is ever left waiting. -/
  prompt : job.defaultLeg.status = .ready ∨ job.defaultLeg.status.isAccepted = true

def planInvariantFailed : String := "stable splitter plan invariant failed"

structure Evidence (entry : Nat × QuarantinedSplitterJob) : Prop where
  plan : PlanOk entry.2.job
  reason : entry.2.reason ≠ planInvariantFailed

structure Sound (st : SplitterState) : Prop where
  plan : ∀ job, st.activeJob = some job → PlanOk job
  admitted : ∀ job, st.activeJob = some job →
    st.isQuarantined job.plan.splitterNumber = false
  revision : ∀ job, st.activeJob = some job → job.driverRevision ≤ st.nextDriverRevision
  evidence : ∀ entry ∈ st.quarantinedJobs, Evidence entry

structure Later (before after : SplitterState) : Prop where
  evidence : ∀ entry ∈ before.quarantinedJobs, entry ∈ after.quarantinedJobs
  revision : before.nextDriverRevision ≤ after.nextDriverRevision

def SplitterKont.claim : SplitterKont → Option ActiveSplitterJob
  | .waitFunds _ claimed _ | .waitFee _ claimed _ | .transfer _ claimed _ _ _ => some claimed
  | .stageFee _ _ _ | .stageBalance _ _ _ _ _ _ => none

/-- The claim was made since `before`, under the last revision. -/
def Fresh (before after : SplitterState) (claimed : ActiveSplitterJob) : Prop :=
  before.nextDriverRevision < claimed.driverRevision ∧
    claimed.driverRevision = after.nextDriverRevision

def KontSound (st : SplitterState) : SplitterKont → Prop
  | .waitFunds _ _ leg | .waitFee _ _ leg => leg = .subaccountOne
  | .stageBalance _ _ _ _ number _ => st.isQuarantined number = false
  | _ => True

def SegmentSound (before : SplitterState) : SplitterState × SplitterPause → Prop
  | (st, .await kont) =>
      Sound st ∧ Later before st ∧ KontSound st kont ∧
        ∀ claimed, kont.claim = some claimed → Fresh before st claimed
  | (st, .transferring _ claimed _ _) => Sound st ∧ Later before st ∧ Fresh before st claimed
  | (_, .trap) => True
  | (st, .done) | (st, .exhausted) => Sound st ∧ Later before st

def PassSound (before : SplitterState) : Pass → Prop
  | .exit st pause => SegmentSound before (st, pause)
  | .result st _ => Sound st ∧ Later before st
  | .again st => Sound st ∧ Later before st

section States

variable {before st : SplitterState}

theorem later_refl (st : SplitterState) : Later st st := ⟨fun _ member => member, Nat.le_refl _⟩

theorem sound_frame {next : SplitterState} (sound : Sound st) (active : next.activeJob = st.activeJob)
    (quarantined : next.quarantinedJobs = st.quarantinedJobs)
    (revision : next.nextDriverRevision = st.nextDriverRevision) : Sound next := by
  constructor
  · rw [active]
    exact sound.plan
  · rw [active]
    simp only [SplitterState.isQuarantined, quarantined]
    exact sound.admitted
  · rw [active, revision]
    exact sound.revision
  · rw [quarantined]
    exact sound.evidence

theorem later_frame {next : SplitterState} (later : Later before st)
    (quarantined : next.quarantinedJobs = st.quarantinedJobs)
    (revision : next.nextDriverRevision = st.nextDriverRevision) : Later before next := by
  refine ⟨?_, ?_⟩
  · rw [quarantined]
    exact later.evidence
  · rw [revision]
    exact later.revision

theorem sound_cleared (sound : Sound st) : Sound st.clearActiveJob := by
  refine ⟨?_, ?_, ?_, sound.evidence⟩ <;>
  · intro job impossible
    cases impossible

theorem sound_replaced {job next : ActiveSplitterJob} (sound : Sound st)
    (stored : st.activeJob = some job) (ok : PlanOk next)
    (number : next.plan.splitterNumber = job.plan.splitterNumber)
    (revision : next.driverRevision = job.driverRevision) : Sound (st.setActiveJob next) := by
  refine ⟨?_, ?_, ?_, sound.evidence⟩
  · intro other same
    cases same
    exact ok
  · intro other same
    cases same
    have admitted := sound.admitted job stored
    rw [number]
    exact admitted
  · intro other same
    cases same
    have bound := sound.revision job stored
    rw [revision]
    exact bound

/-- Nothing is quarantined twice: the active job's splitter has no recorded evidence yet. -/
theorem quarantine_sound {job : ActiveSplitterJob} {reason : String} (sound : Sound st)
    (later : Later before st) (stored : st.activeJob = some job)
    (other : reason ≠ planInvariantFailed) (leg : SplitterLeg) (nowNanos : Nat) :
    PassSound before (quarantine st leg nowNanos reason) := by
  have admitted := sound.admitted job stored
  simp only [SplitterState.isQuarantined, List.any_eq_false, beq_iff_eq] at admitted
  have kept : (st.quarantinedJobs.filter fun entry => entry.1 != job.plan.splitterNumber) =
      st.quarantinedJobs := by
    rw [List.filter_eq_self]
    intro entry member
    simpa using admitted entry member
  have moved : st.quarantineActiveJob leg nowNanos reason =
      { st with
        activeJob := none
        quarantinedJobs := (job.plan.splitterNumber, ⟨job, leg, nowNanos, reason⟩) ::
          st.quarantinedJobs } := by
    simp only [SplitterState.quarantineActiveJob, stored, kept]
  simp only [quarantine, moved, PassSound]
  refine ⟨⟨?_, ?_, ?_, ?_⟩, fun entry member => ?_, later.revision⟩
  · intro next impossible
    cases impossible
  · intro next impossible
    cases impossible
  · intro next impossible
    cases impossible
  · intro entry member
    rcases List.mem_cons.mp member with rfl | old
    · exact ⟨sound.plan job stored, other⟩
    · exact sound.evidence entry old
  · exact List.mem_cons_of_mem _ (later.evidence entry member)

end States

variable {feeE8s : Nat}

section Jobs

variable {job next : ActiveSplitterJob}

theorem planOk_same (ok : PlanOk job) (plan : next.plan = job.plan)
    (first : next.defaultLeg.status = .ready ∨ next.defaultLeg.status.isAccepted = true) :
    PlanOk next := by
  refine ⟨?_, ?_, first⟩
  · rw [plan]
    exact ok.valid
  · rw [plan]
    exact ok.ordered

theorem planOk_progress (ok : PlanOk job) (leg : SplitterLeg) (value : SplitterLegProgress)
    (first : leg = .defaultAccount → value.status = .ready ∨ value.status.isAccepted = true) :
    PlanOk (job.setProgress leg value) := by
  apply planOk_same ok (plan_setProgress job leg value)
  cases leg with
  | defaultAccount => exact first rfl
  | subaccountOne => exact ok.prompt

theorem currentLeg_second {leg : SplitterLeg} (ok : PlanOk job)
    (current : currentLeg job = some leg) (waiting : (job.progress leg).status ≠ .ready) :
    leg = .subaccountOne := by
  cases leg with
  | subaccountOne => rfl
  | defaultAccount =>
      rcases ok.prompt with ready | accepted
      · exact absurd ready waiting
      · have unaccepted := (currentLeg_some current).1
        rw [progress_defaultAccount, accepted] at unaccepted
        cases unaccepted

/-- Only the second leg is repinned, to a later time than before. -/
theorem planOk_repinned {nowNanos : Nat} (ok : PlanOk job)
    (feasible : feeE8s < job.plan.subaccountOneLeg.grossShareE8s)
    (repinned : repinLeg job .subaccountOne feeE8s nowNanos = some next) :
    PlanOk next ∧ next.plan.splitterNumber = job.plan.splitterNumber ∧
      next.driverRevision = job.driverRevision := by
  simp only [repinLeg, freshCreatedAt, Option.map_map, Option.map_eq_some_iff,
    Function.comp_apply] at repinned
  rcases repinned with ⟨minimum, fits, rfl⟩
  have after := (checkedAdd_eq_some.mp fits).2
  have valid := ok.valid
  have ordered := ok.ordered
  simp only [SplitterPlan.leg] at after
  refine ⟨⟨?_, ?_, ok.prompt⟩, rfl, rfl⟩
  · refine ⟨valid.percentage, valid.source, valid.first_destination, valid.second_destination,
      valid.share, valid.total, valid.small, ?_, ?_, ?_⟩
    · intro leg
      cases leg with
      | defaultAccount => exact valid.amounts .defaultAccount
      | subaccountOne => exact Nat.sub_add_cancel (Nat.le_of_lt feasible)
    · intro leg
      cases leg with
      | defaultAccount => exact valid.fees .defaultAccount
      | subaccountOne => exact feasible
    · show job.plan.defaultLeg.createdAtTimeNanos ≠ max nowNanos minimum
      omega
  · show job.plan.defaultLeg.createdAtTimeNanos < max nowNanos minimum
    omega

theorem planOk_new {number balance fee now : Nat} {plan : SplitterPlan}
    (built : buildSplitterPlan number balance fee now = .ok plan) (small : balance ≤ u64Max)
    (ledgerId : Principal) :
    PlanOk (ActiveSplitterJob.new ledgerId plan) ∧ plan.splitterNumber = number := by
  have split := buildSplitterPlan_split built
  simp only [buildSplitterPlan] at built
  repeat' split at built
  all_goals cases built
  rename_i known _ _ _ _ _ _ _ feasible _ created
  have later := (checkedAdd_eq_some.mp created).2
  refine ⟨⟨⟨known, rfl, rfl, rfl, rfl, split.1.total, small, split.1.each, ?_, ?_⟩, ?_, .inl rfl⟩,
    rfl⟩
  · intro leg
    cases leg <;> simp only [SplitterPlan.leg, ActiveSplitterJob.new] <;> omega
  · simp only [ActiveSplitterJob.new]
    omega
  · simp only [ActiveSplitterJob.new]
    omega

end Jobs

section Passes

variable {before st : SplitterState} {job : ActiveSplitterJob} {leg : SplitterLeg}

theorem stageNext_sound (sound : Sound st) (later : Later before st) (lease nowNanos : Nat)
    (resumed : Option Nat) (feeE8s : Nat) (remaining : List Nat) :
    SegmentSound before (stageNext st lease nowNanos resumed feeE8s remaining) := by
  induction remaining with
  | nil => exact ⟨sound_frame sound rfl rfl rfl, later_frame later rfl rfl⟩
  | cons number remaining ih =>
      simp only [stageNext]
      split
      · exact ih
      · rename_i open_number
        simp only [Bool.or_eq_true, not_or, Bool.not_eq_true] at open_number
        exact ⟨sound, later, open_number.2, fun _ impossible => by cases impossible⟩

theorem finishDrive_sound (sound : Sound st) (later : Later before st) (driver : Driver)
    (result : DriveResult) : SegmentSound before (finishDrive st driver result) := by
  unfold finishDrive
  split
  · exact ⟨sound, later, trivial, fun _ impossible => by cases impossible⟩
  · exact stageNext_sound sound later ..
  · exact ⟨sound_frame sound rfl rfl rfl, later_frame later rfl rfl⟩

theorem repinAnd_sound {nowNanos : Nat} {next : SplitterState → Pass} (sound : Sound st)
    (later : Later before st) (stored : st.activeJob = some job) (second : leg = .subaccountOne)
    (feasible : feeE8s < (job.plan.leg leg).grossShareE8s)
    (rest : ∀ repinned, Sound (st.setActiveJob repinned) →
      Later before (st.setActiveJob repinned) → PassSound before (next (st.setActiveJob repinned))) :
    PassSound before (repinAnd st job leg feeE8s nowNanos next) := by
  subst second
  simp only [repinAnd]
  cases pinned : repinLeg job .subaccountOne feeE8s nowNanos with
  | none => exact quarantine_sound sound later stored (by decide) ..
  | some repinned =>
      have ok := planOk_repinned (sound.plan job stored) feasible pinned
      exact rest _ (sound_replaced sound stored ok.1 ok.2.1 ok.2.2) (later_frame later rfl rfl)

/-- A claim changes the revision and possibly a flag of the leg. -/
structure Claims (st next : SplitterState) (job claimed : ActiveSplitterJob) : Prop where
  active : next.activeJob = some claimed
  quarantined : next.quarantinedJobs = st.quarantinedJobs
  revision : next.nextDriverRevision = st.nextDriverRevision + 1
  counted : claimed.driverRevision = st.nextDriverRevision + 1
  plan : claimed.plan = job.plan
  status : claimed.defaultLeg.status = job.defaultLeg.status

theorem claim_fields {next : SplitterState} {claimed : ActiveSplitterJob}
    {mark : Option SplitterLeg} (taken : st.claimActiveJob job mark = .claimed next claimed) :
    Claims st next job claimed := by
  simp only [SplitterState.claimActiveJob] at taken
  split at taken
  · cases taken
  · split at taken
    · cases taken
    · rename_i revision counted
      have advanced := (checkedAdd_eq_some.mp counted).2
      subst advanced
      cases mark with
      | none =>
          cases taken
          exact ⟨rfl, rfl, rfl, rfl, rfl, rfl⟩
      | some leg =>
          cases leg <;> cases taken <;> exact ⟨rfl, rfl, rfl, rfl, rfl, rfl⟩

theorem claim_sound {next : SplitterState} {claimed : ActiveSplitterJob}
    {mark : Option SplitterLeg} (sound : Sound st) (later : Later before st)
    (stored : st.activeJob = some job) (taken : st.claimActiveJob job mark = .claimed next claimed) :
    Sound next ∧ Later before next ∧ Fresh before next claimed := by
  have fields := claim_fields taken
  have ok := sound.plan job stored
  have bound := later.revision
  refine ⟨⟨?_, ?_, ?_, ?_⟩, ⟨?_, ?_⟩, ?_, ?_⟩
  · intro other same
    rw [fields.active] at same
    cases same
    apply planOk_same ok fields.plan
    rw [fields.status]
    exact ok.prompt
  · intro other same
    rw [fields.active] at same
    cases same
    simp only [SplitterState.isQuarantined, fields.quarantined, fields.plan]
    exact sound.admitted job stored
  · intro other same
    rw [fields.active] at same
    cases same
    rw [fields.counted, fields.revision]
  · rw [fields.quarantined]
    exact sound.evidence
  · rw [fields.quarantined]
    exact later.evidence
  · rw [fields.revision]
    omega
  · rw [fields.counted]
    omega
  · rw [fields.counted, fields.revision]

theorem claimAnd_sound {next : ActiveSplitterJob → SplitterKont} (sound : Sound st)
    (later : Later before st) (stored : st.activeJob = some job)
    (konts : ∀ after claimed, KontSound after (next claimed))
    (claims : ∀ claimed, (next claimed).claim = some claimed) :
    PassSound before (claimAnd st job next) := by
  simp only [claimAnd]
  split
  · exact ⟨sound, later⟩
  · exact trivial
  · rename_i after claimed taken
    have result := claim_sound sound later stored taken
    refine ⟨result.1, result.2.1, konts after claimed, ?_⟩
    intro other same
    rw [claims] at same
    cases same
    exact result.2.2

theorem driveReady_sound {driver : Driver} (sound : Sound st) (later : Later before st)
    (stored : st.activeJob = some job) : PassSound before (driveReady st job leg driver) := by
  simp only [driveReady]
  split
  · split
    · exact quarantine_sound sound later stored (by decide) ..
    · split
      · exact ⟨sound_cleared sound, later_frame later rfl rfl⟩
      · rename_i other
        have second : leg = .subaccountOne := by
          cases leg with
          | defaultAccount => exact absurd rfl other
          | subaccountOne => rfl
        have feasible := (sound.plan job stored).valid.fees leg
        exact repinAnd_sound sound later stored second feasible fun _ again after => ⟨again, after⟩
  · split
    · exact ⟨sound, later⟩
    · exact trivial
    · rename_i taken
      exact claim_sound sound later stored taken

/-- The quarantine of an invalid plan is never reached. -/
theorem driveStep_sound (sound : Sound st) (later : Later before st) (driver : Driver) :
    PassSound before (driveStep st driver) := by
  unfold driveStep
  split
  · exact ⟨sound, later⟩
  · rename_i job stored
    have ok := sound.plan job stored
    split
    · exact quarantine_sound sound later stored (by decide) ..
    · rw [activePlanIsValid_of ok.valid, if_neg (by simp)]
      split
      · exact ⟨sound_cleared sound, later_frame later rfl rfl⟩
      · rename_i leg current
        split
        · exact trivial
        · rename_i waiting
          have second := currentLeg_second ok current (by simp [waiting])
          exact claimAnd_sound sound later stored (fun _ _ => second) fun _ => rfl
        · rename_i waiting
          have second := currentLeg_second ok current (by simp [waiting])
          exact claimAnd_sound sound later stored (fun _ _ => second) fun _ => rfl
        · exact driveReady_sound sound later stored

theorem drive_sound (fuel : Nat) {driver : Driver} {pass : Pass} (ok : PassSound before pass) :
    SegmentSound before (drive fuel driver pass) := by
  induction fuel generalizing pass with
  | zero =>
      cases pass with
      | exit st pause => exact ok
      | result st result => exact finishDrive_sound ok.1 ok.2 ..
      | again st => exact ok
  | succ fuel ih =>
      cases pass with
      | exit st pause => exact ok
      | result st result => exact finishDrive_sound ok.1 ok.2 ..
      | again st => exact ih (driveStep_sound ok.1 ok.2 driver)

end Passes

section Replies

variable {st : SplitterState} {driver : Driver} {claimed : ActiveSplitterJob} {leg : SplitterLeg}

theorem stored_of_claim (holds : claimHolds st driver claimed = true) :
    st.activeJob = some claimed := by
  simp only [claimHolds, Bool.and_eq_true, decide_eq_true_eq] at holds
  exact holds.2

theorem current_of_claim (holds : claimHolds st driver claimed = true) :
    st.isCurrent driver.lease = true := by
  simp only [claimHolds, Bool.and_eq_true] at holds
  exact holds.1

theorem replaced_sound {before : SplitterState} {value : SplitterLegProgress} (sound : Sound st)
    (later : Later before st) (stored : st.activeJob = some claimed)
    (first : leg = .defaultAccount → value.status = .ready ∨ value.status.isAccepted = true) :
    Sound (st.setActiveJob (claimed.setProgress leg value)) ∧
      Later before (st.setActiveJob (claimed.setProgress leg value)) := by
  have ok := planOk_progress (sound.plan claimed stored) leg value first
  refine ⟨sound_replaced sound stored ok ?_ ?_, later_frame later rfl rfl⟩
  · rw [plan_setProgress]
  · cases leg <;> rfl

theorem onWaitFunds_sound (sound : Sound st) (balance : Option Nat)
    (own : st.isCurrent driver.lease = true → leg = .subaccountOne) :
    PassSound st (onWaitFunds st driver claimed leg balance) := by
  unfold onWaitFunds
  split
  · exact ⟨sound, later_refl st⟩
  · rename_i holds
    have held : claimHolds st driver claimed = true := by simpa using holds
    have stored := stored_of_claim held
    have second := own (current_of_claim held)
    subst second
    split
    · exact ⟨sound, later_refl st⟩
    · split
      · exact replaced_sound sound (later_refl st) stored fun impossible => by cases impossible
      · have feasible := (sound.plan claimed stored).valid.fees .subaccountOne
        exact repinAnd_sound sound (later_refl st) stored rfl feasible
          fun _ again after => ⟨again, after⟩

theorem resolve_sound (sound : Sound st) (reply : Option Nat) :
    Sound (resolveIcpLedgerFeeE8s st reply).1 ∧
      Later st (resolveIcpLedgerFeeE8s st reply).1 := by
  cases reply with
  | none => exact ⟨sound, later_refl st⟩
  | some fee => exact ⟨sound_frame sound rfl rfl rfl, later_frame (later_refl st) rfl rfl⟩

theorem onWaitFee_sound (sound : Sound st) (reply : Option Nat)
    (own : st.isCurrent driver.lease = true → leg = .subaccountOne) :
    PassSound st (onWaitFee st driver claimed leg reply) := by
  have resolved := resolve_sound sound reply
  simp only [onWaitFee]
  split
  · exact resolved
  · rename_i holds
    have held : claimHolds (resolveIcpLedgerFeeE8s st reply).1 driver claimed = true := by
      simpa using holds
    have stored := stored_of_claim held
    have second : leg = .subaccountOne := by
      apply own
      have current := current_of_claim held
      rw [← current]
      simp only [SplitterState.isCurrent, (resolve_frame st reply).2.2]
    subst second
    split
    · exact replaced_sound resolved.1 resolved.2 stored fun impossible => by cases impossible
    · rename_i feasible
      exact repinAnd_sound resolved.1 resolved.2 stored rfl (by omega)
        fun _ again after => ⟨again, after⟩

theorem rejected_sound {before : SplitterState} {hadPrior : Bool} {next : Pass}
    (sound : Sound st) (later : Later before st) (stored : st.activeJob = some claimed)
    (ready : (claimed.progress leg).status = .ready)
    (second : leg = .subaccountOne → PassSound before next) :
    PassSound before (rejected st claimed leg hadPrior next) := by
  unfold rejected
  split
  · exact replaced_sound sound later stored fun _ => .inl ready
  · split
    · exact ⟨sound_cleared sound, later_frame later rfl rfl⟩
    · rename_i other
      apply second
      cases leg with
      | defaultAccount => exact absurd rfl other
      | subaccountOne => rfl

theorem recordBadFee_sound (sound : Sound st) (expectedFee : Nat) :
    Sound (recordBadFee st expectedFee) ∧ Later st (recordBadFee st expectedFee) := by
  unfold recordBadFee
  split
  · exact ⟨sound_frame sound rfl rfl rfl, later_frame (later_refl st) rfl rfl⟩
  · exact ⟨sound, later_refl st⟩

theorem onSplitterTransfer_sound (sound : Sound st) (hadPrior : Bool)
    (reply : Option TransferReply)
    (own : st.isCurrent driver.lease = true → (claimed.progress leg).status = .ready) :
    PassSound st (onSplitterTransfer st driver claimed leg hadPrior reply) := by
  unfold onSplitterTransfer
  split
  · exact ⟨sound, later_refl st⟩
  · rename_i holds
    have held : claimHolds st driver claimed = true := by simpa using holds
    have stored := stored_of_claim held
    have ready := own (current_of_claim held)
    have fees := (sound.plan claimed stored).valid.fees leg
    dsimp only
    split
    · exact replaced_sound sound (later_refl st) stored fun _ => .inr rfl
    · exact replaced_sound sound (later_refl st) stored fun _ => .inl ready
    · rename_i expectedFee _
      have recorded := recordBadFee_sound sound expectedFee
      have kept : (recordBadFee st expectedFee).activeJob = some claimed :=
        (recordBadFee_frame st expectedFee).1.trans stored
      refine rejected_sound recorded.1 recorded.2 kept ready fun second => ?_
      split
      · rename_i feasible
        exact repinAnd_sound recorded.1 recorded.2 kept second feasible.2
          fun _ again after => ⟨again, after⟩
      · exact replaced_sound recorded.1 recorded.2 kept fun first => by
          rw [second] at first
          cases first
    · refine rejected_sound sound (later_refl st) stored ready fun second => ?_
      exact replaced_sound sound (later_refl st) stored fun first => by
        rw [second] at first
        cases first
    · refine rejected_sound sound (later_refl st) stored ready fun second => ?_
      exact repinAnd_sound sound (later_refl st) stored second fees
        fun _ again after => ⟨again, after⟩

theorem onStageFee_sound (sound : Sound st) (lease nowNanos : Nat) (resumed reply : Option Nat) :
    SegmentSound st (onStageFee st lease nowNanos resumed reply) := by
  have resolved := resolve_sound sound reply
  simp only [onStageFee]
  split
  · exact ⟨sound_frame resolved.1 rfl rfl rfl, later_frame resolved.2 rfl rfl⟩
  · exact stageNext_sound resolved.1 resolved.2 ..

theorem onStageBalance_sound (sound : Sound st) {lease : Nat} (nowNanos : Nat)
    (resumed : Option Nat) {number : Nat} (remaining : List Nat) {balance : Option Nat}
    (small : ∀ amount, balance = some amount → amount ≤ u64Max)
    (own : st.isCurrent lease = true → st.isQuarantined number = false) :
    SegmentSound st (onStageBalance st lease nowNanos resumed feeE8s number remaining balance) := by
  unfold onStageBalance
  split
  · exact ⟨sound_frame sound rfl rfl rfl, later_frame (later_refl st) rfl rfl⟩
  · split
    · exact stageNext_sound sound (later_refl st) ..
    · rename_i plan planned
      cases balance with
      | none => cases planned
      | some amount =>
          simp only [planOnBalance] at planned
          split at planned
          · rename_i current
            cases built : buildSplitterPlan number amount feeE8s nowNanos with
            | error reason =>
                rw [built] at planned
                cases planned
            | ok other =>
                rw [built] at planned
                cases planned
                have ok := planOk_new built (small amount rfl) st.configLedgerCanisterId
                apply drive_sound
                refine ⟨⟨?_, ?_, ?_, sound.evidence⟩, later_frame (later_refl st) rfl rfl⟩
                · intro job same
                  cases same
                  exact ok.1
                · intro job same
                  cases same
                  show st.isQuarantined plan.splitterNumber = false
                  rw [ok.2]
                  exact own current
                · intro job same
                  cases same
                  exact Nat.zero_le _
          · cases planned

end Replies

end JupiterSuite.Relay
