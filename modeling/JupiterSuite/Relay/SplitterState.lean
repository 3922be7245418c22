import JupiterSuite.Relay.SplitterPlan

/-! Persisted splitter state: the active job, the quarantined jobs and the driver revision. -/

namespace JupiterSuite.Relay

open Base

def splitterLeaseSeconds : Nat := 30 * 60

def icpLedgerFeeBootstrapFallbackE8s : Nat := 10000

def ledgerCreatedAtValidWindowNanos : Nat := 24 * 60 * 60 * 1000000000

inductive SplitterLegStatus where
  | ready
  | waitingForFunds (observedBalanceE8s : Nat)
  | waitingForFeasibleFee (expectedFeeE8s : Nat)
  | accepted (blockIndex : Nat)
  deriving DecidableEq, Repr

structure SplitterLegProgress where
  status : SplitterLegStatus := .ready
  attemptStarted : Bool := false
  uncertainAttemptSeen : Bool := false
  deriving DecidableEq, Repr

structure ActiveSplitterJob where
  pinnedLedgerCanisterId : Principal
  plan : SplitterPlan
  defaultLeg : SplitterLegProgress
  subaccountOneLeg : SplitterLegProgress
  driverRevision : Nat
  deriving DecidableEq, Repr

def ActiveSplitterJob.new (pinnedLedgerCanisterId : Principal) (plan : SplitterPlan) :
    ActiveSplitterJob :=
  ⟨pinnedLedgerCanisterId, plan, {}, {}, 0⟩

structure QuarantinedSplitterJob where
  job : ActiveSplitterJob
  blockedLeg : SplitterLeg
  quarantinedAtNanos : Nat
  reason : String
  deriving DecidableEq, Repr

structure SplitterState where
  activeJob : Option ActiveSplitterJob
  quarantinedJobs : List (Nat × QuarantinedSplitterJob)
  nextDriverRevision : Nat
  splitterLockStateTs : Option Nat
  lastKnownLedgerFeeE8s : Option Nat
  configLedgerCanisterId : Principal
  deriving DecidableEq, Repr

namespace ActiveSplitterJob

def progress (job : ActiveSplitterJob) : SplitterLeg → SplitterLegProgress
  | .defaultAccount => job.defaultLeg
  | .subaccountOne => job.subaccountOneLeg

def setProgress (job : ActiveSplitterJob) (leg : SplitterLeg) (value : SplitterLegProgress) :
    ActiveSplitterJob :=
  match leg with
  | .defaultAccount => { job with defaultLeg := value }
  | .subaccountOne => { job with subaccountOneLeg := value }

def setStatus (job : ActiveSplitterJob) (leg : SplitterLeg) (status : SplitterLegStatus) :
    ActiveSplitterJob :=
  job.setProgress leg { job.progress leg with status := status }

def markUncertain (job : ActiveSplitterJob) (leg : SplitterLeg) : ActiveSplitterJob :=
  job.setProgress leg { job.progress leg with uncertainAttemptSeen := true }

end ActiveSplitterJob

namespace SplitterState

def setActiveJob (st : SplitterState) (job : ActiveSplitterJob) : SplitterState :=
  { st with activeJob := some job }

def clearActiveJob (st : SplitterState) : SplitterState := { st with activeJob := none }

def isQuarantined (st : SplitterState) (splitterNumber : Nat) : Bool :=
  st.quarantinedJobs.any fun entry => entry.1 == splitterNumber

/-- `None` when another job is stored; the revision counter traps at its last value. -/
inductive Claim where
  | claimed (st : SplitterState) (job : ActiveSplitterJob)
  | stale
  | trap

def claimActiveJob (st : SplitterState) (expected : ActiveSplitterJob)
    (markAttemptStarted : Option SplitterLeg) : Claim :=
  if st.activeJob ≠ some expected then .stale
  else
    match checkedAdd u64Max st.nextDriverRevision 1 with
    | none => .trap
    | some revision =>
        let job := { expected with driverRevision := revision }
        let job := match markAttemptStarted with
          | none => job
          | some leg => job.setProgress leg { job.progress leg with attemptStarted := true }
        .claimed { st with nextDriverRevision := revision, activeJob := some job } job

def quarantineActiveJob (st : SplitterState) (blockedLeg : SplitterLeg)
    (quarantinedAtNanos : Nat) (reason : String) : SplitterState :=
  match st.activeJob with
  | none => st
  | some job =>
      { st with
        activeJob := none
        quarantinedJobs :=
          (job.plan.splitterNumber, ⟨job, blockedLeg, quarantinedAtNanos, reason⟩) ::
            st.quarantinedJobs.filter fun entry => entry.1 != job.plan.splitterNumber }

def isCurrent (st : SplitterState) (lease : Nat) : Bool :=
  decide (st.splitterLockStateTs = some lease)

def dropGuard (st : SplitterState) (lease : Nat) : SplitterState :=
  { st with splitterLockStateTs := releaseLease lease st.splitterLockStateTs }

end SplitterState

/-- `resolve_icp_ledger_fee_e8s`: the live fee, else the cached one, else the fallback. -/
def resolveIcpLedgerFeeE8s (st : SplitterState) : Option Nat → SplitterState × Nat
  | some fee => ({ st with lastKnownLedgerFeeE8s := some fee }, fee)
  | none => (st, st.lastKnownLedgerFeeE8s.getD icpLedgerFeeBootstrapFallbackE8s)

def recordBadFee (st : SplitterState) (expectedFee : Nat) : SplitterState :=
  if expectedFee ≤ u64Max then { st with lastKnownLedgerFeeE8s := some expectedFee } else st

def createdAtTimeIsValid (createdAtTimeNanos nowNanos : Nat) : Bool :=
  decide (nowNanos - createdAtTimeNanos ≤ ledgerCreatedAtValidWindowNanos)

def SplitterLegStatus.isAccepted : SplitterLegStatus → Bool
  | .accepted _ => true
  | _ => false

def currentLeg (job : ActiveSplitterJob) : Option SplitterLeg :=
  if !job.defaultLeg.status.isAccepted then some .defaultAccount
  else if !job.subaccountOneLeg.status.isAccepted then some .subaccountOne
  else none

def activePlanIsValid (job : ActiveSplitterJob) : Bool :=
  match splitterPercentage job.plan.splitterNumber with
  | none => false
  | some percentage =>
      let first := job.plan.defaultLeg
      let second := job.plan.subaccountOneLeg
      decide (percentage = job.plan.percentageToDefault) &&
      decide (job.plan.sourceSubaccount = relayNumberedSubaccount job.plan.splitterNumber) &&
      decide (first.destination = .defaultAccount) &&
      decide (second.destination = .subaccountOne) &&
      decide (first.grossShareE8s = job.plan.balanceStartE8s * percentage / 100) &&
      decide (checkedAdd u64Max first.grossShareE8s second.grossShareE8s =
        some job.plan.balanceStartE8s) &&
      decide (checkedAdd u64Max first.amountE8s first.feeE8s = some first.grossShareE8s) &&
      decide (checkedAdd u64Max second.amountE8s second.feeE8s = some second.grossShareE8s) &&
      decide (first.feeE8s < first.grossShareE8s) &&
      decide (second.feeE8s < second.grossShareE8s) &&
      decide (first.createdAtTimeNanos ≠ second.createdAtTimeNanos)

def freshCreatedAt (previous nowNanos : Nat) : Option Nat :=
  (checkedAdd u64Max previous 1).map fun minimum => max nowNanos minimum

def repinLeg (job : ActiveSplitterJob) (leg : SplitterLeg) (feeE8s nowNanos : Nat) :
    Option ActiveSplitterJob :=
  let plan := job.plan.leg leg
  (freshCreatedAt plan.createdAtTimeNanos nowNanos).map fun createdAtTimeNanos =>
    { job with
      plan := job.plan.setLeg leg
        { plan with
          feeE8s
          amountE8s := plan.grossShareE8s - feeE8s
          createdAtTimeNanos } }.setProgress leg {}

@[simp]
theorem progress_defaultAccount (job : ActiveSplitterJob) :
    job.progress .defaultAccount = job.defaultLeg := rfl

@[simp]
theorem progress_subaccountOne (job : ActiveSplitterJob) :
    job.progress .subaccountOne = job.subaccountOneLeg := rfl

theorem progress_withRevision (job : ActiveSplitterJob) (revision : Nat) (leg : SplitterLeg) :
    { job with driverRevision := revision }.progress leg = job.progress leg := by
  cases leg <;> rfl

@[simp]
theorem progress_setProgress (job : ActiveSplitterJob) (leg : SplitterLeg)
    (value : SplitterLegProgress) : (job.setProgress leg value).progress leg = value := by
  cases leg <;> rfl

theorem progress_setProgress_other (job : ActiveSplitterJob) {leg other : SplitterLeg}
    (value : SplitterLegProgress) (different : other ≠ leg) :
    (job.setProgress leg value).progress other = job.progress other := by
  cases leg <;> cases other <;> first | rfl | exact absurd rfl different

@[simp]
theorem plan_setProgress (job : ActiveSplitterJob) (leg : SplitterLeg)
    (value : SplitterLegProgress) : (job.setProgress leg value).plan = job.plan := by
  cases leg <;> rfl

end JupiterSuite.Relay
