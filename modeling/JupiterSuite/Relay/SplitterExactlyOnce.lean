import JupiterSuite.Relay.SplitterSafety

/-! The money of the splitter jobs: each leg at most once, each job at most its balance, and a
new identity only after every call under the old one was refused. -/

namespace JupiterSuite.Relay

open Base

def transferCost (arg : TransferArg) : Nat := arg.amount + arg.fee.getD 0

variable {relayId : Principal}
variable {plan : SplitterPlan} {sys : SplitterSystem} {serial : Nat}
variable {id lease now : Nat} {result : SplitterState × SplitterPause} {job : ActiveSplitterJob}

theorem slot_of_job_segment
    (unchanged : SlotOk relayId sys.ledger (sys.plans.length - 1) plan sys.state.activeJob
      sys.state.quarantinedJobs)
    (segment : JobSegment relayId sys.ledger (sys.plans.length - 1) plan lease (some lease)
      result) :
    SlotOk relayId sys.ledger (sys.plans.length - 1) plan
      (settleSplitter relayId sys id now sys.plans result).state.activeJob
      (settleSplitter relayId sys id now sys.plans result).state.quarantinedJobs := by
  rcases result with ⟨st, pause⟩
  cases pause with
  | done => exact segment.1
  | exhausted => exact segment.1
  | await kont => exact segment.1
  | transferring driver claimed leg hadPrior =>
      simp only [settleSplitter, segment.1]
      exact segment.2.2.2.continues
  | trap =>
      simp only [settleSplitter]
      split <;> exact unchanged

theorem slot_of_owned {more : List SplitterPlan} (invariant : SplitterInvariant relayId sys)
    (stored : sys.state.activeJob = some job) (owned : OwnedSegment relayId sys lease more result) :
    SlotOk relayId sys.ledger (sys.plans.length - 1) job.plan
      (settleSplitter relayId sys id now (sys.plans ++ more) result).state.activeJob
      (settleSplitter relayId sys id now (sys.plans ++ more) result).state.quarantinedJobs := by
  cases owned with
  | drives other present segment =>
      rw [stored] at present
      cases present
      rw [List.append_nil]
      refine slot_of_job_segment ?_ segment
      rw [stored]
      exact .refl (invariant.active job stored).2
  | rests vacant segment =>
      rw [stored] at vacant
      cases vacant
  | starts plan vacant exact segment =>
      rw [stored] at vacant
      cases vacant

/-- One step leaves the active job in place, possibly repinned, or ends it; both only in the
ways that `SlotOk` admits. -/
theorem slot_step {next : SplitterSystem} {event : SplitterEvent}
    (invariant : SplitterInvariant relayId sys) (stored : sys.state.activeJob = some job)
    (taken : stepSplitter relayId sys event = some next) :
    SlotOk relayId sys.ledger (sys.plans.length - 1) job.plan next.state.activeJob
      next.state.quarantinedJobs := by
  have same : ∀ quarantinedJobs, SlotOk relayId sys.ledger (sys.plans.length - 1) job.plan
      (some job) quarantinedJobs := fun _ => .refl (invariant.active job stored).2
  have started_slot : ∀ {id now : Nat} {result : SplitterState × SplitterPause},
      Started relayId sys now result →
        SlotOk relayId sys.ledger (sys.plans.length - 1) job.plan
          (settleSplitter relayId sys id now sys.plans result).state.activeJob
          (settleSplitter relayId sys id now sys.plans result).state.quarantinedJobs := by
    intro id now result started
    cases started with
    | refused idle =>
        rw [idle]
        simp only [settleSplitter, stored]
        exact same _
    | acquired lease free later segment => simpa using slot_of_owned invariant stored segment
  cases event with
  | mainStage id now =>
      rcases step_start taken with ⟨vacant, forward, bound, rfl⟩
      exact started_slot (mainStage_started invariant bound)
  | retry id now =>
      rcases step_start taken with ⟨vacant, forward, bound, rfl⟩
      exact started_slot (retry_started invariant bound)
  | resume id reply now =>
      rcases step_resume invariant taken with ⟨kont, result, found, forward,
        ⟨more, owner, owned, rfl⟩ | ⟨unowned, lost, rfl⟩⟩
      · exact slot_of_owned invariant stored owned
      · rcases result with ⟨st, pause⟩
        have active : st.activeJob = some job := lost.active.trans stored
        rcases lost.paused with paused | ⟨kont, paused, _⟩
        · simp only at paused
          subst paused
          simp only [settleSplitter, active]
          exact same _
        · simp only at paused
          subst paused
          simp only [settleSplitter, active]
          exact same _
  | abandon id cleanup =>
      simp only [stepSplitter] at taken
      split at taken <;> cases taken
      cases cleanup <;> simp only [SplitterState.dropGuard, if_true, if_false, stored,
        Bool.false_eq_true] <;> exact same _
  | ledger call outcome =>
      simp only [stepSplitter] at taken
      split at taken
      · rcases Option.map_eq_some_iff.mp taken with ⟨ledger, answered, rfl⟩
        simp only [stored]
        exact same _
      · cases taken
  | upgrade ledgerCanisterId =>
      rcases Option.ite_none_right_eq_some.mp taken with ⟨_, same⟩
      cases same
      simp only [stored]
      exact same _

/-- Every accepted call of a leg carries the leg's last pinned arguments. -/
theorem accepted_current (invariant : SplitterInvariant relayId sys)
    (present : sys.plans[serial]? = some plan) {call : Call SplitterTag TransferArg TransferError}
    (member : call ∈ sys.ledger) (same : call.tag.job = serial) (accepted : call.accepted = true) :
    call.arg = splitterTransferArg relayId plan call.tag.leg := by
  rcases (invariant.each serial plan present).calls call member same with refused | current
  · have quiet := Call.not_accepted_of_refused refused
    rw [accepted] at quiet
    cases quiet
  · exact current

theorem leg_once (invariant : SplitterInvariant relayId sys) (serial : Nat) (leg : SplitterLeg) :
    sys.ledger.debits (fun tag => decide (tag = ⟨serial, leg⟩)) ≤ 1 := by
  cases present : sys.plans[serial]? with
  | none =>
      have unused : sys.ledger.debits (fun tag => decide (tag = ⟨serial, leg⟩)) = 0 := by
        apply CallLog.debits_eq_zero
        intro tag chosen call member same
        have older := invariant.known call member
        simp only [decide_eq_true_eq] at chosen
        rw [same, chosen] at older
        rw [List.getElem?_eq_none_iff] at present
        exact absurd older (Nat.not_lt_of_le present)
      omega
  | some plan =>
      refine CallLog.debits_le_one invariant.deduplicated
        (show ∀ call ∈ sys.ledger, _ → _ → call.arg = splitterTransferArg relayId plan leg from ?_)
      intro call member chosen accepted
      simp only [decide_eq_true_eq] at chosen
      have current := accepted_current invariant present member (by rw [chosen]) accepted
      rw [current, chosen]

theorem leg_cost (invariant : SplitterInvariant relayId sys)
    (present : sys.plans[serial]? = some plan) (leg : SplitterLeg) :
    sys.ledger.spend (fun tag => decide (tag = ⟨serial, leg⟩)) transferCost ≤
      (plan.leg leg).grossShareE8s := by
  have fixed : ∀ call ∈ sys.ledger, decide (call.tag = ⟨serial, leg⟩) = true →
      call.accepted = true → call.arg = splitterTransferArg relayId plan leg := by
    intro call member chosen accepted
    simp only [decide_eq_true_eq] at chosen
    have current := accepted_current invariant present member (by rw [chosen]) accepted
    rw [current, chosen]
  calc
    _ ≤ transferCost (splitterTransferArg relayId plan leg) :=
      CallLog.spend_le_cost transferCost invariant.deduplicated fixed
    _ = (plan.leg leg).grossShareE8s := (invariant.each serial plan present).exact.each leg

theorem job_cost (invariant : SplitterInvariant relayId sys)
    (present : sys.plans[serial]? = some plan) :
    sys.ledger.spend (fun tag => decide (tag.job = serial)) transferCost ≤
      plan.balanceStartE8s := by
  have cover : ∀ tag : SplitterTag, decide (tag.job = serial) = true →
      decide (tag = ⟨serial, .defaultAccount⟩) = true ∨
        decide (tag = ⟨serial, .subaccountOne⟩) = true := by
    rintro ⟨job, leg⟩ chosen
    simp only [decide_eq_true_eq] at chosen
    subst chosen
    cases leg <;> simp
  have parts := CallLog.spend_le_add sys.ledger transferCost cover
  have first := leg_cost invariant present .defaultAccount
  have second := leg_cost invariant present .subaccountOne
  have total := (invariant.each serial plan present).exact.total
  simp only [SplitterPlan.leg] at first second
  omega

structure SplitterSafety (relayId : Principal) (sys : SplitterSystem) : Prop where
  leg_once : ∀ serial leg,
    sys.ledger.debits (fun tag => decide (tag = ⟨serial, leg⟩)) ≤ 1
  exact_split : ∀ (serial : Nat) (plan : SplitterPlan), sys.plans[serial]? = some plan →
    plan.defaultLeg.grossShareE8s + plan.subaccountOneLeg.grossShareE8s = plan.balanceStartE8s
  bounded : ∀ (serial : Nat) (plan : SplitterPlan), sys.plans[serial]? = some plan →
    sys.ledger.spend (fun tag => decide (tag.job = serial)) transferCost ≤ plan.balanceStartE8s
  active : ∀ job, sys.state.activeJob = some job →
    sys.plans[sys.plans.length - 1]? = some job.plan
  accepted : ∀ job, sys.state.activeJob = some job → ∀ (leg : SplitterLeg) (block : Nat),
    (job.progress leg).status = .accepted block →
      SpentAt sys.ledger (splitterTransferArg relayId job.plan leg) block
  slot : ∀ job, sys.state.activeJob = some job → ∀ event next,
    stepSplitter relayId sys event = some next →
      SlotOk relayId sys.ledger (sys.plans.length - 1) job.plan next.state.activeJob
        next.state.quarantinedJobs

theorem splitter_exactly_once (relayId : Principal) (sys : SplitterSystem)
    (reachable : (splitterMachine relayId).Reachable sys) : SplitterSafety relayId sys := by
  have invariant := splitter_invariant reachable
  refine ⟨leg_once invariant, ?_, ?_, ?_, ?_, ?_⟩
  · intro serial plan present
    exact (invariant.each serial plan present).exact.total
  · intro serial plan present
    exact job_cost invariant present
  · intro job stored
    exact (invariant.active job stored).1
  · intro job stored
    exact (invariant.active job stored).2.settled
  · intro job stored event next taken
    exact slot_step invariant stored taken

def sampleRelay : Principal := ⟨[7]⟩

def sampleSplitterStart : SplitterSystem where
  state := SplitterState.initial ⟨[1]⟩
  tasks := Pool.empty
  ledger := []
  plans := []
  clock := 1700000000000000000

/-- The first leg is accepted and its reply lost; the retry learns of the duplicate, sends the
second leg, has it rejected and repins it. -/
def repinnedSplitterRun : List SplitterEvent :=
  let now := 1700000000000000000
  [.mainStage 0 now, .resume 0 (.amount (some 10000)) now,
    .resume 0 (.amount (some 500000000)) now, .ledger 0 (.accepted 3),
    .resume 0 (.transfer none) now, .retry 1 now, .ledger 1 (.duplicate 3),
    .resume 1 (.transfer (some (.error (.duplicate 3)))) now,
    .ledger 2 (.rejected (.badFee 20000)),
    .resume 1 (.transfer (some (.error (.badFee 20000)))) now]

theorem repinned_reachable : (splitterMachine sampleRelay).Reachable
    (((splitterMachine sampleRelay).run sampleSplitterStart repinnedSplitterRun).getD
      sampleSplitterStart) :=
  (splitterMachine sampleRelay).reachable_getD ⟨_, 1700000000000000000, rfl⟩ (by rfl)

theorem splitter_exactly_once_repinned :
    ∃ sys, (splitterMachine sampleRelay).Reachable sys ∧ sys.ledger.length = 3 ∧
      (sys.state.activeJob.map fun job => job.plan.subaccountOneLeg.feeE8s) = some 20000 ∧
      SplitterSafety sampleRelay sys := by
  exact ⟨_, repinned_reachable, rfl, rfl, splitter_exactly_once sampleRelay _ repinned_reachable⟩

end JupiterSuite.Relay
