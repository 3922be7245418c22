import JupiterSuite.Relay.SplitterPasses

/-! What a resumed continuation does: with its lease it continues or ends the claimed job;
without it, it leaves the splitter state alone. -/

namespace JupiterSuite.Relay

open Base

variable (relayId : Principal)

/-- What the owner of the splitter lease may rely on at each await. -/
def KontOk (ledger : LedgerLog SplitterTag) (serial : Nat)
    (activeJob : Option ActiveSplitterJob) : SplitterKont → Prop
  | .transfer _ claimed leg hadPrior call =>
      activeJob = some claimed ∧ (claimed.progress leg).status = .ready ∧
        (claimed.progress leg).attemptStarted = true ∧
        (∃ sent, ledger[call]? = some sent ∧ sent.tag = ⟨serial, leg⟩ ∧
          sent.arg = splitterTransferArg relayId claimed.plan leg) ∧
        (hadPrior = false → ledger.RefusedExcept ⟨serial, leg⟩ call)
  | kont => AwaitOk activeJob kont

variable {relayId} {ledger : LedgerLog SplitterTag} {serial : Nat} {lock : Option Nat}
variable {claimed : ActiveSplitterJob} {driver : Driver} {st : SplitterState} {leg : SplitterLeg}
  {call lease : Nat} {reply : Option TransferReply} {plan : SplitterPlan}

theorem claimHolds_true (owner : st.splitterLockStateTs = some driver.lease)
    (stored : st.activeJob = some claimed) : claimHolds st driver claimed = true := by
  simp [claimHolds, SplitterState.isCurrent, owner, stored]

theorem claimHolds_lost (lost : st.splitterLockStateTs ≠ some driver.lease)
    (claimed : ActiveSplitterJob) :
    claimHolds st driver claimed = false := by
  simp [claimHolds, SplitterState.isCurrent, lost]

/-- A leg of which no call can be accepted waits as if it had never been tried. -/
theorem waiting_ok (invariant : JobInvariant relayId ledger serial claimed)
    (unaccepted : (claimed.progress leg).status.isAccepted = false)
    (refused : ledger.Refused ⟨serial, leg⟩) {value : SplitterLegProgress}
    (waiting : value.status.isAccepted = false) (untried : value.untried) :
    Continues relayId ledger serial claimed.plan (claimed.setProgress leg value) := by
  constructor
  · apply invariant.setProgress _ unaccepted
    · intro _ _
      exact refused
    · intro _ _
      exact untried
    · intro block accepted
      rw [accepted] at waiting
      cases waiting
  · rw [plan_setProgress]
    exact repinned_refl _

theorem onWaitFunds_ok (owner : st.splitterLockStateTs = some driver.lease)
    (invariant : JobInvariant relayId ledger serial claimed)
    (awaits : AwaitOk st.activeJob (.waitFunds driver claimed leg)) (balance : Option Nat) :
    PassOk relayId ledger serial claimed.plan driver.lease st.splitterLockStateTs
      (onWaitFunds st driver claimed leg balance) := by
  rcases awaits with ⟨stored, unaccepted, untried⟩
  have refused := invariant.untried leg unaccepted untried
  have slot : SlotOk relayId ledger serial claimed.plan st.activeJob st.quarantinedJobs := by
    rw [stored]
    exact .refl invariant
  simp only [onWaitFunds, claimHolds_true owner stored, Bool.not_true, Bool.false_eq_true,
    if_false]
  cases balance with
  | none => exact ⟨slot, rfl, nofun⟩
  | some balance =>
      dsimp only
      split
      · exact ⟨waiting_ok invariant unaccepted refused rfl untried, rfl, nofun⟩
      · exact repinAnd_ok stored rfl (.refl invariant) unaccepted refused
          (fee_le_gross invariant leg) fun repinned again => ⟨⟨repinned, rfl, again⟩, rfl⟩

theorem resolve_frame (st : SplitterState) (reply : Option Nat) :
    (resolveIcpLedgerFeeE8s st reply).1.activeJob = st.activeJob ∧
      (resolveIcpLedgerFeeE8s st reply).1.quarantinedJobs = st.quarantinedJobs ∧
      (resolveIcpLedgerFeeE8s st reply).1.splitterLockStateTs = st.splitterLockStateTs := by
  cases reply <;> exact ⟨rfl, rfl, rfl⟩

theorem onWaitFee_ok (owner : st.splitterLockStateTs = some driver.lease)
    (invariant : JobInvariant relayId ledger serial claimed)
    (awaits : AwaitOk st.activeJob (.waitFee driver claimed leg)) (reply : Option Nat) :
    PassOk relayId ledger serial claimed.plan driver.lease st.splitterLockStateTs
      (onWaitFee st driver claimed leg reply) := by
  rcases awaits with ⟨stored, unaccepted, untried⟩
  have refused := invariant.untried leg unaccepted untried
  rcases resolve_frame st reply with ⟨active, quarantined, locked⟩
  have holds := claimHolds_true (locked.trans owner) (active.trans stored)
  simp only [onWaitFee, holds, Bool.not_true, Bool.false_eq_true, if_false]
  split
  · exact ⟨waiting_ok invariant unaccepted refused rfl untried, locked, nofun⟩
  · rename_i feasible
    exact repinAnd_ok (active.trans stored) locked (.refl invariant) unaccepted refused
      (by omega) fun repinned again => ⟨⟨repinned, rfl, again⟩, locked⟩

/-- A typed answer other than a duplicate is the ledger's own rejection of the call. -/
theorem rejected_of_reply (received : delivered ledger call reply = true)
    (typed : splitterOutcome reply ≠ .transportUncertain)
    (unspent : ∀ block, splitterOutcome reply ≠ .accepted block) :
    ∃ error, ledger.outcomeOf call = some (.rejected error) := by
  cases reply with
  | none => exact absurd rfl typed
  | some reply =>
      rcases delivered_some.mp received with ⟨outcome, answered, same⟩
      cases outcome with
      | accepted block =>
          subst same
          exact absurd rfl (unspent block)
      | duplicate block =>
          subst same
          exact absurd rfl (unspent block)
      | rejected error => exact ⟨error, answered⟩

theorem spentAt_of_reply {block : Nat} {arg : TransferArg}
    {sent : Call SplitterTag TransferArg TransferError} (typed : TypedLog ledger)
    (found : ledger[call]? = some sent) (same : sent.arg = arg)
    (received : delivered ledger call reply = true)
    (spent : splitterOutcome reply = .accepted block) : SpentAt ledger arg block := by
  cases reply with
  | none => cases spent
  | some reply =>
      rcases delivered_some.mp received with ⟨outcome, answered, replied⟩
      have member := List.mem_of_getElem? found
      simp only [CallLog.outcomeOf, found, Option.bind_some] at answered
      have reported : reply = .ok block ∨ reply = .error (.duplicate block) := by
        cases reply with
        | ok index =>
            cases spent
            exact .inl rfl
        | error error =>
            cases error <;> cases spent
            exact .inr rfl
      refine ⟨sent, member, same, ?_⟩
      rw [answered]
      rcases outcome_of_spent_reply (typed sent member outcome answered) replied reported with
        rfl | rfl
      · exact .inl rfl
      · exact .inr rfl

theorem markUncertain_ok (invariant : JobInvariant relayId ledger serial claimed)
    (ready : (claimed.progress leg).status = .ready) :
    Continues relayId ledger serial claimed.plan (claimed.markUncertain leg) := by
  constructor
  · apply invariant.setProgress
    · rw [ready]
      rfl
    · intro _ untried
      cases untried.2
    · intro waiting
      exact absurd ready waiting
    · intro block accepted
      rw [ready] at accepted
      cases accepted
  · rw [ActiveSplitterJob.markUncertain, plan_setProgress]
    exact repinned_refl _

theorem rejected_ok {hadPrior : Bool} {next : Pass} (locked : st.splitterLockStateTs = lock)
    (invariant : JobInvariant relayId ledger serial claimed)
    (ready : (claimed.progress leg).status = .ready)
    (refused : hadPrior = false → ledger.Refused ⟨serial, leg⟩)
    (second : ledger.Refused ⟨serial, leg⟩ →
      PassOk relayId ledger serial claimed.plan lease lock next) :
    PassOk relayId ledger serial claimed.plan lease lock
      (rejected st claimed leg hadPrior next) := by
  unfold rejected
  split
  · exact ⟨markUncertain_ok invariant ready, locked, nofun⟩
  · rename_i none_prior
    have gone := refused (Bool.eq_false_iff.mpr none_prior)
    split
    · rename_i first
      subst first
      have unaccepted : claimed.defaultLeg.status.isAccepted = false := by
        rw [← progress_defaultAccount, ready]
        rfl
      exact ⟨.clearedPreSpend (cleared_refused invariant unaccepted gone), locked,
        nofun⟩
    · exact second gone

theorem accepted_ok {block : Nat} (invariant : JobInvariant relayId ledger serial claimed)
    (ready : (claimed.progress leg).status = .ready)
    (spent : SpentAt ledger (splitterTransferArg relayId claimed.plan leg) block) :
    Continues relayId ledger serial claimed.plan
      (claimed.setStatus leg (.accepted block)) := by
  constructor
  · apply invariant.setProgress
    · rw [ready]
      rfl
    · intro impossible
      cases impossible
    · intro _ impossible
      cases impossible
    · intro index same
      cases same
      exact spent
  · rw [ActiveSplitterJob.setStatus, plan_setProgress]
    exact repinned_refl _

theorem recordBadFee_frame (st : SplitterState) (expectedFee : Nat) :
    (recordBadFee st expectedFee).activeJob = st.activeJob ∧
      (recordBadFee st expectedFee).splitterLockStateTs = st.splitterLockStateTs := by
  unfold recordBadFee
  split <;> exact ⟨rfl, rfl⟩

theorem onSplitterTransfer_ok {hadPrior : Bool} (typed : TypedLog ledger)
    (owner : st.splitterLockStateTs = some driver.lease)
    (invariant : JobInvariant relayId ledger serial claimed)
    (kont : KontOk relayId ledger serial st.activeJob
      (.transfer driver claimed leg hadPrior call)) (received : delivered ledger call reply = true) :
    PassOk relayId ledger serial claimed.plan driver.lease st.splitterLockStateTs
      (onSplitterTransfer st driver claimed leg hadPrior reply) := by
  rcases kont with ⟨stored, ready, _, ⟨sent, found, tag, arg⟩, prior⟩
  have unaccepted : (claimed.progress leg).status.isAccepted = false := by
    rw [ready]
    rfl
  have refused_of : (∃ error, ledger.outcomeOf call = some (.rejected error)) →
      hadPrior = false → ledger.Refused ⟨serial, leg⟩ := by
    rintro ⟨error, answered⟩ none_prior
    exact CallLog.refused_of_except (prior none_prior) answered
  simp only [onSplitterTransfer, claimHolds_true owner stored, Bool.not_true,
    Bool.false_eq_true, if_false]
  cases outcome : splitterOutcome reply with
  | accepted block =>
      have spent := spentAt_of_reply typed found arg received outcome
      exact ⟨⟨_, rfl, accepted_ok invariant ready spent⟩, rfl⟩
  | transportUncertain =>
      exact ⟨markUncertain_ok invariant ready, rfl, nofun⟩
  | badFee expectedFee =>
      have refused := refused_of (rejected_of_reply received (by simp [outcome])
        (by simp [outcome]))
      rcases recordBadFee_frame st expectedFee with ⟨active, locked⟩
      refine rejected_ok locked invariant ready refused fun gone => ?_
      split
      · rename_i feasible
        exact repinAnd_ok (active.trans stored) locked (.refl invariant) unaccepted gone
          (by omega) fun repinned again => ⟨again, locked, nofun⟩
      · exact ⟨waiting_ok invariant unaccepted gone rfl ⟨rfl, rfl⟩, locked,
          nofun⟩
  | insufficientFunds balance =>
      have refused := refused_of (rejected_of_reply received (by simp [outcome])
        (by simp [outcome]))
      exact rejected_ok rfl invariant ready refused fun gone =>
        ⟨waiting_ok invariant unaccepted gone rfl ⟨rfl, rfl⟩, rfl, nofun⟩
  | definitiveRejection =>
      have refused := refused_of (rejected_of_reply received (by simp [outcome])
        (by simp [outcome]))
      refine rejected_ok rfl invariant ready refused fun gone => ?_
      exact repinAnd_ok stored rfl (.refl invariant) unaccepted gone (fee_le_gross invariant leg)
        fun repinned again => ⟨again, rfl, nofun⟩

theorem onStageFee_ok (nowNanos : Nat) (resumed reply : Option Nat)
    (owner : st.splitterLockStateTs = some lease) (vacant : st.activeJob = none) :
    VacantSegment lease st.splitterLockStateTs (onStageFee st lease nowNanos resumed reply) := by
  rcases resolve_frame st reply with ⟨active, quarantined, locked⟩
  have current : (resolveIcpLedgerFeeE8s st reply).1.isCurrent lease = true := by
    simp [SplitterState.isCurrent, locked, owner]
  simp only [onStageFee, current, Bool.not_true, Bool.false_eq_true, if_false]
  exact stageNext_ok _ _ _ _ (active.trans vacant) (active.trans vacant) locked

theorem newJob_invariant {config : Principal} (known : ∀ call ∈ ledger, call.tag.job < serial)
    (exact : ExactSplit plan) :
    JobInvariant relayId ledger serial (ActiveSplitterJob.new config plan) := by
  have unused : ∀ leg, ledger.Refused ⟨serial, leg⟩ := by
    intro leg call member same
    have older := known call member
    rw [same] at older
    exact absurd older (Nat.lt_irrefl serial)
  refine ⟨⟨exact, ?_⟩, fun leg _ _ => unused leg, ?_, fun _ => unused _, ?_⟩
  · intro call member same
    have older := known call member
    omega
  · intro leg waiting
    cases leg <;> exact absurd rfl waiting
  · intro leg block accepted
    cases leg <;> cases accepted

theorem onStageBalance_vacant (nowNanos : Nat) (resumed : Option Nat) (feeE8s number : Nat)
    (remaining : List Nat) (balance : Option Nat) (owner : st.splitterLockStateTs = some lease)
    (vacant : st.activeJob = none)
    (planned : planOnBalance st lease nowNanos feeE8s number balance = none) :
    VacantSegment lease st.splitterLockStateTs
      (onStageBalance st lease nowNanos resumed feeE8s number remaining balance) := by
  have current : st.isCurrent lease = true := by
    simp [SplitterState.isCurrent, owner]
  simp only [onStageBalance, current, planned, Bool.not_true, Bool.and_false,
    Bool.false_eq_true, if_false]
  exact stageNext_ok _ _ _ _ vacant vacant rfl

theorem planOnBalance_exact {nowNanos feeE8s number : Nat} {balance : Option Nat}
    (planned : planOnBalance st lease nowNanos feeE8s number balance = some plan) :
    ExactSplit plan ∧ balance = some plan.balanceStartE8s := by
  cases balance with
  | none => cases planned
  | some balance =>
      simp only [planOnBalance] at planned
      split at planned
      · cases built : buildSplitterPlan number balance feeE8s nowNanos with
        | error reason =>
            rw [built] at planned
            cases planned
        | ok other =>
            rw [built] at planned
            cases planned
            have split := buildSplitterPlan_split built
            exact ⟨split.1, by rw [split.2]⟩
      · cases planned

/-- The main stage's balance reply starts the job of the plan it makes. -/
theorem onStageBalance_planned (nowNanos : Nat) (resumed : Option Nat) (feeE8s number : Nat)
    (remaining : List Nat) (balance : Option Nat) (owner : st.splitterLockStateTs = some lease)
    (known : ∀ call ∈ ledger, call.tag.job < serial)
    (planned : planOnBalance st lease nowNanos feeE8s number balance = some plan) :
    ExactSplit plan ∧ JobSegment relayId ledger serial plan lease st.splitterLockStateTs
      (onStageBalance st lease nowNanos resumed feeE8s number remaining balance) := by
  have current : st.isCurrent lease = true := by
    simp [SplitterState.isCurrent, owner]
  have exact := (planOnBalance_exact planned).1
  refine ⟨exact, ?_⟩
  simp only [onStageBalance, current, planned, Bool.not_true, Bool.and_false,
    Bool.false_eq_true, if_false]
  exact drive_ok drivePasses ⟨⟨_, rfl, newJob_invariant known exact, repinned_refl _⟩, rfl⟩

end JupiterSuite.Relay
