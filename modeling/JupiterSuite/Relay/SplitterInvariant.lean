import JupiterSuite.Relay.SplitterSystem

/-! What the drive loop keeps true of the active job: every call of a leg made under an older
identity was refused, and a leg without a started attempt has no open or accepted call. -/

namespace JupiterSuite.Relay

open Base

def SplitterLegProgress.untried (progress : SplitterLegProgress) : Prop :=
  progress.attemptStarted = false ∧ progress.uncertainAttemptSeen = false

def SpentAt (ledger : LedgerLog SplitterTag) (arg : TransferArg) (block : Nat) : Prop :=
  ∃ call ∈ ledger, call.arg = arg ∧
    (call.outcome = some (.accepted block) ∨ call.outcome = some (.duplicate block))

variable (relayId : Principal)

/-- Only the current identity of a leg can be debited. -/
structure PlanInvariant (ledger : LedgerLog SplitterTag) (serial : Nat) (plan : SplitterPlan) :
    Prop where
  exact : ExactSplit plan
  calls : ∀ call ∈ ledger, call.tag.job = serial →
    call.refused = true ∨ call.arg = splitterTransferArg relayId plan call.tag.leg

structure JobInvariant (ledger : LedgerLog SplitterTag) (serial : Nat)
    (job : ActiveSplitterJob) : Prop extends PlanInvariant relayId ledger serial job.plan where
  untried : ∀ leg, (job.progress leg).status.isAccepted = false → (job.progress leg).untried →
    ledger.Refused ⟨serial, leg⟩
  waiting : ∀ leg, (job.progress leg).status ≠ .ready →
    (job.progress leg).status.isAccepted = false → (job.progress leg).untried
  ordered : job.defaultLeg.status.isAccepted = false →
    ledger.Refused ⟨serial, .subaccountOne⟩
  settled : ∀ leg block, (job.progress leg).status = .accepted block →
    SpentAt ledger (splitterTransferArg relayId job.plan leg) block

/-- The later plan pins a leg anew only when all calls made for that leg were refused. -/
def Repinned (ledger : LedgerLog SplitterTag) (serial : Nat) (plan later : SplitterPlan) :
    Prop :=
  later.balanceStartE8s = plan.balanceStartE8s ∧
    ∀ leg, splitterTransferArg relayId later leg = splitterTransferArg relayId plan leg ∨
      ledger.Refused ⟨serial, leg⟩

structure Continues (ledger : LedgerLog SplitterTag) (serial : Nat) (plan : SplitterPlan)
    (job : ActiveSplitterJob) : Prop where
  invariant : JobInvariant relayId ledger serial job
  repinned : Repinned relayId ledger serial plan job.plan

inductive Ended (ledger : LedgerLog SplitterTag) (serial : Nat) (plan : SplitterPlan)
    (quarantinedJobs : List (Nat × QuarantinedSplitterJob)) : Prop where
  | completed (job : ActiveSplitterJob) (continues : Continues relayId ledger serial plan job)
      (accepted : ∀ leg, (job.progress leg).status.isAccepted = true)
  | quarantined (entry : Nat × QuarantinedSplitterJob) (stored : entry ∈ quarantinedJobs)
      (continues : Continues relayId ledger serial plan entry.2.job)
  | clearedPreSpend (refused : ∀ leg, ledger.Refused ⟨serial, leg⟩)

def SlotOk (ledger : LedgerLog SplitterTag) (serial : Nat) (plan : SplitterPlan)
    (activeJob : Option ActiveSplitterJob)
    (quarantinedJobs : List (Nat × QuarantinedSplitterJob)) : Prop :=
  match activeJob with
  | some job => Continues relayId ledger serial plan job
  | none => Ended relayId ledger serial plan quarantinedJobs

variable {relayId} {ledger : LedgerLog SplitterTag} {serial : Nat}

theorem repinned_refl (plan : SplitterPlan) : Repinned relayId ledger serial plan plan :=
  ⟨rfl, fun _ => .inl rfl⟩

theorem Repinned.trans {middle later : SplitterPlan}
    (first : Repinned relayId ledger serial plan middle)
    (second : Repinned relayId ledger serial middle later) :
    Repinned relayId ledger serial plan later := by
  refine ⟨second.1.trans first.1, fun leg => ?_⟩
  rcases second.2 leg with same | refused
  · rcases first.2 leg with old | refused
    · exact .inl (same.trans old)
    · exact .inr refused
  · exact .inr refused

theorem Continues.refl (invariant : JobInvariant relayId ledger serial job) :
    Continues relayId ledger serial job.plan job :=
  ⟨invariant, repinned_refl job.plan⟩

theorem currentLeg_some (current : currentLeg job = some leg) :
    (job.progress leg).status.isAccepted = false ∧
      (leg = .subaccountOne → job.defaultLeg.status.isAccepted = true) := by
  unfold currentLeg at current
  split at current
  · rename_i open_default
    cases current
    exact ⟨by simpa using open_default, nofun⟩
  · rename_i default_accepted
    split at current
    · rename_i open_second
      cases current
      exact ⟨by simpa using open_second, fun _ => by simpa using default_accepted⟩
    · cases current

theorem currentLeg_none (current : currentLeg job = none) :
    ∀ leg, (job.progress leg).status.isAccepted = true := by
  unfold currentLeg at current
  split at current
  · cases current
  · rename_i default_accepted
    split at current
    · cases current
    · rename_i second_accepted
      intro leg
      cases leg
      · simpa using default_accepted
      · simpa using second_accepted

/-- Replacing the progress of an unaccepted leg, when the new flags are not more innocent than
the calls allow. -/
theorem JobInvariant.setProgress (invariant : JobInvariant relayId ledger serial job)
    (value : SplitterLegProgress) (unaccepted : (job.progress leg).status.isAccepted = false)
    (untried : value.status.isAccepted = false → value.untried → ledger.Refused ⟨serial, leg⟩)
    (waiting : value.status ≠ .ready → value.status.isAccepted = false → value.untried)
    (settled : ∀ block, value.status = .accepted block →
      SpentAt ledger (splitterTransferArg relayId job.plan leg) block) :
    JobInvariant relayId ledger serial (job.setProgress leg value) where
  exact := by simpa using invariant.exact
  calls := by simpa using invariant.calls
  untried := by
    intro other
    by_cases same : other = leg
    · subst same
      simpa using untried
    · simpa [progress_setProgress_other job value same] using invariant.untried other
  waiting := by
    intro other
    by_cases same : other = leg
    · subst same
      simpa using waiting
    · simpa [progress_setProgress_other job value same] using invariant.waiting other
  ordered := by
    intro open_default
    apply invariant.ordered
    cases leg with
    | defaultAccount => exact unaccepted
    | subaccountOne => exact open_default
  settled := by
    intro other block accepted
    rw [plan_setProgress]
    by_cases same : other = leg
    · subst same
      rw [progress_setProgress] at accepted
      exact settled block accepted
    · rw [progress_setProgress_other job value same] at accepted
      exact invariant.settled other block accepted

theorem JobInvariant.claim (invariant : JobInvariant relayId ledger serial job) (revision : Nat) :
    JobInvariant relayId ledger serial { job with driverRevision := revision } where
  exact := invariant.exact
  calls := invariant.calls
  untried := by
    intro leg
    rw [progress_withRevision]
    exact invariant.untried leg
  waiting := by
    intro leg
    rw [progress_withRevision]
    exact invariant.waiting leg
  ordered := invariant.ordered
  settled := by
    intro leg
    rw [progress_withRevision]
    exact invariant.settled leg

theorem exactSplit_setLeg (exact : ExactSplit plan) (leg : SplitterLeg) {value : SplitterLegPlan}
    (gross : value.grossShareE8s = (plan.leg leg).grossShareE8s)
    (parts : value.amountE8s + value.feeE8s = value.grossShareE8s) :
    ExactSplit (plan.setLeg leg value) := by
  constructor
  · rw [balanceStartE8s_setLeg, ← exact.total]
    cases leg <;> simp only [SplitterPlan.setLeg, SplitterPlan.leg] at gross ⊢ <;> omega
  · intro other
    by_cases same : other = leg
    · subst same
      rw [leg_setLeg]
      exact parts
    · rw [leg_setLeg_other plan value same]
      exact exact.each other

theorem Continues.repin {next : ActiveSplitterJob} {feeE8s nowNanos : Nat}
    (continues : Continues relayId ledger serial plan job)
    (unaccepted : (job.progress leg).status.isAccepted = false)
    (refused : ledger.Refused ⟨serial, leg⟩) (feasible : feeE8s ≤ (job.plan.leg leg).grossShareE8s)
    (repinned : repinLeg job leg feeE8s nowNanos = some next) :
    Continues relayId ledger serial plan next := by
  simp only [repinLeg, Option.map_eq_some_iff] at repinned
  rcases repinned with ⟨created, _, rfl⟩
  let value : SplitterLegPlan :=
    { job.plan.leg leg with
      feeE8s := feeE8s
      amountE8s := (job.plan.leg leg).grossShareE8s - feeE8s
      createdAtTimeNanos := created }
  let moved : ActiveSplitterJob := { job with plan := job.plan.setLeg leg value }
  have progress : ∀ other, moved.progress other = job.progress other := by
    intro other
    cases other <;> rfl
  have invariant := continues.invariant
  have base : JobInvariant relayId ledger serial moved := by
    refine ⟨⟨?_, ?_⟩, ?_, ?_, invariant.ordered, ?_⟩
    · have split : ExactSplit (job.plan.setLeg leg value) :=
        exactSplit_setLeg invariant.exact leg rfl (Nat.sub_add_cancel feasible)
      exact split
    · intro call member here
      by_cases same : call.tag.leg = leg
      · have tags : call.tag = ⟨serial, leg⟩ := by
          rw [← here, ← same]
        exact .inl (refused call member tags)
      · rcases invariant.calls call member here with gone | current
        · exact .inl gone
        · exact .inr (current.trans
            (splitterTransferArg_setLeg_other relayId job.plan value same).symm)
    · intro other
      rw [progress]
      exact invariant.untried other
    · intro other
      rw [progress]
      exact invariant.waiting other
    · intro other block accepted
      rw [progress] at accepted
      have different : other ≠ leg := by
        rintro rfl
        rw [accepted] at unaccepted
        cases unaccepted
      rw [splitterTransferArg_setLeg_other relayId job.plan value different]
      exact invariant.settled other block accepted
  constructor
  · apply base.setProgress {}
    · rw [progress]
      exact unaccepted
    · intro _ _
      exact refused
    · intro other
      exact absurd rfl other
    · intro block accepted
      cases accepted
  · refine continues.repinned.trans ⟨?_, fun other => ?_⟩
    · simp
    · rw [plan_setProgress]
      by_cases same : other = leg
      · subst same
        exact .inr refused
      · exact .inl (splitterTransferArg_setLeg_other relayId job.plan value same)

end JupiterSuite.Relay
