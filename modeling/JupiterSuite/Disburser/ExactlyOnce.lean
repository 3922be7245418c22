import JupiterSuite.Disburser.Payout

/-! Every reachable system pays each planned transfer at most once and writes the plan only
for the driver whose call it answers. -/

namespace JupiterSuite.Disburser

open Base

def Kont.heldPlan : Kont → Option PayoutPlan
  | .balance _ _ expectedPlan _ => expectedPlan
  | .transfer _ plan _ _ => some plan
  | _ => none

/-- The task's call was made for the stored plan, in its current installation. -/
structure DrivesStored (sys : System) (id : Nat) (plan : PayoutPlan) (index call : Nat) :
    Prop where
  suspended : ∃ run, sys.tasks id = some (.transfer run plan index call)
  stored : sys.state.payoutPlan = some plan
  called : ∃ sent transfer, sys.ledger[call]? = some sent ∧ sent.tag.planId = plan.id ∧
    sent.tag.index = index ∧ plan.transfers[index]? = some transfer ∧
    sent.arg = transferArg plan transfer ∧
    (plan.id < u64Max → sent.tag.serial + 1 = sys.installed.length)

inductive PlanWrite (sys : System) (event : Event) (after : Option PayoutPlan) : Prop where
  | keep (same : after = sys.state.payoutPlan)
  | install (plan : PayoutPlan) (vacant : sys.state.payoutPlan = none)
      (fresh : plan.id = sys.state.payoutNonce) (pending : plan.reset = plan)
      (written : after = some plan ∨ plan.transfers = [] ∧ after = none)
  | complete (plan : PayoutPlan) (stored : sys.state.payoutPlan = some plan)
      (sent : AllSent plan) (cleared : after = none)
  | mark (id nowNanos index call block : Nat) (result : TransferReply) (plan : PayoutPlan)
      (resumed : event = .resume id (.transfer (some result)) nowNanos)
      (driver : DrivesStored sys id plan index call)
      (reply : result = .ok block ∨ result = .error (.duplicate block))
      (answered : sys.ledger.outcomeOf call = some (.accepted block) ∨
        sys.ledger.outcomeOf call = some (.duplicate block))
      (written : after = some (plan.markSent index block) ∨
        AllSent (plan.markSent index block) ∧ after = none)
  | reject (id nowNanos index call : Nat) (error : TransferError) (plan : PayoutPlan)
      (resumed : event = .resume id (.transfer (some (.error error))) nowNanos)
      (driver : DrivesStored sys id plan index call)
      (answered : sys.ledger.outcomeOf call = some (.rejected error))
      (clears : shouldClearPayoutPlanOnTransferError error = true) (cleared : after = none)

structure PayoutSafety (sys : System) : Prop where
  installation_once : ∀ serial index,
    sys.ledger.debits (fun tag => decide (tag.serial = serial ∧ tag.index = index)) ≤ 1
  plan_index_once : ∀ planId index, planId < u64Max →
    sys.ledger.debits (fun tag => decide (tag.planId = planId ∧ tag.index = index)) ≤ 1
  sent_settled : ∀ plan, sys.state.payoutPlan = some plan → ∀ (index : Nat)
    (transfer : PlannedTransfer) (block : Nat), plan.transfers[index]? = some transfer →
    transfer.status = .sent block → SettledBy sys.ledger (transferArg plan transfer) block
  writes : ∀ event next, step sys event = some next →
    PlanWrite sys event next.state.payoutPlan
  stale : ∀ id kont plan, sys.tasks id = some kont → kont.heldPlan = some plan →
    sys.state.payoutPlan ≠ some plan → ∀ reply nowNanos next,
      step sys (.resume id reply nowNanos) = some next →
        next.state.payoutPlan = sys.state.payoutPlan

theorem debits_le_one_of_justified {chosen : Tag → Bool} (invariant : Invariant sys)
    (agree : ∀ first second, first ∈ sys.ledger → second ∈ sys.ledger →
      chosen first.tag = true → chosen second.tag = true →
        first.tag.serial = second.tag.serial ∧ first.tag.index = second.tag.index) :
    sys.ledger.debits chosen ≤ 1 := by
  by_cases present : ∃ call ∈ sys.ledger, chosen call.tag = true
  · rcases present with ⟨first, member, selected⟩
    refine CallLog.debits_le_one invariant.deduplicated
      (show ∀ second ∈ sys.ledger, chosen second.tag = true → second.accepted = true →
        second.arg = first.arg from ?_)
    intro second other also _
    have same := agree first second member other selected also
    rcases invariant.justified first member with ⟨plan, transfer, found, _, here, arg⟩
    rcases invariant.justified second other with ⟨plan', transfer', found', _, here', arg'⟩
    rw [← same.1, found] at found'
    cases found'
    rw [← same.2, here] at here'
    cases here'
    rw [arg, arg']
  · have unused : sys.ledger.debits chosen = 0 := by
      apply CallLog.debits_eq_zero
      intro tag selected call member same
      subst same
      exact absurd ⟨call, member, selected⟩ present
    omega

theorem serial_of_id (invariant : Invariant sys) {call : Call Tag TransferArg
    TransferError} (member : call ∈ sys.ledger) (below : call.tag.planId < u64Max) :
    call.tag.serial + 1 = call.tag.planId := by
  rcases invariant.justified call member with ⟨plan, transfer, found, same, _, _⟩
  have number := invariant.plan.numbered call.tag.serial plan found
  omega

variable {id : Nat} {result : State × Pause} {st : State} {next : System} {reply : Reply}

theorem drivesStored_of_held (invariant : Invariant sys) {index call : Nat} {run : PayoutRun}
    (suspended : sys.tasks id = some (.transfer run plan index call))
    (stored : sys.state.payoutPlan = some plan) : DrivesStored sys id plan index call := by
  rcases invariant.drivers id _ suspended with ⟨sent, transfer, found, here, base, present, arg⟩
  have member := List.mem_of_getElem? found
  rcases invariant.justified sent member with ⟨original, _, original_found, same, _, _⟩
  rw [base] at original_found
  cases original_found
  refine ⟨⟨run, suspended⟩, stored, sent, transfer, found, same.symm, here, present, arg, ?_⟩
  intro below
  have current := invariant.plan.current plan stored
  rw [List.getLast?_eq_getElem?] at current
  have last := invariant.plan.numbered _ _ current
  have own := serial_of_id invariant member (by rw [← same]; exact below)
  have occupied := (List.getElem?_eq_some_iff.mp current).1
  rw [← same] at own
  simp only [reset_id] at own last
  omega

theorem settle_payoutPlan (sys : System) (id nowNanos : Nat) (installed : List PayoutPlan)
    (result : State × Pause) :
    (settle sys id nowNanos installed result).state.payoutPlan = result.1.payoutPlan := by
  rcases result with ⟨st, pause⟩
  cases pause <;> rfl

theorem drives_payoutPlan (drives : Drives st result) :
    result.1.payoutPlan = st.payoutPlan ∨
      ∃ plan, st.payoutPlan = some plan ∧ AllSent plan ∧ result.1.payoutPlan = none := by
  cases drives with
  | rests rests => exact .inl rests.1
  | completes plan stored sent cleared => exact .inr ⟨plan, stored, sent, cleared.1⟩
  | dispatches run plan index transfer stored present pending paused =>
      rw [paused]
      exact .inl rfl

theorem transfers_eq_nil (pending : plan.reset = plan) (sent : AllSent plan) :
    plan.transfers = [] := by
  apply List.eq_nil_iff_forall_not_mem.mpr
  intro transfer member
  have open_member : transfer ∈ plan.reset.transfers := by rwa [pending]
  rcases List.mem_map.mp open_member with ⟨old, _, rfl⟩
  exact sent _ member rfl

theorem planWrite_resume (invariant : Invariant sys) {nowNanos : Nat}
    (taken : step sys (.resume id reply nowNanos) = some next) :
    PlanWrite sys (.resume id reply nowNanos) next.state.payoutPlan := by
  rcases step_resume taken with
    ⟨kont, result, entered, suspended, replies, entry, drives, rfl⟩
  rw [settle_payoutPlan]
  have loop := drives_payoutPlan drives
  generalize installs sys.state (nowNanos / nanosPerSecond) kont reply = more at entry
  cases entry with
  | keep =>
      rcases loop with same | ⟨plan, stored, sent, cleared⟩
      · exact .keep same
      · exact .complete plan stored sent cleared
  | install run prevAge balance fee vacant =>
      have pending := plannedPayout_reset sys.state.config run sys.state.payoutNonce prevAge
        balance fee
      refine .install _ vacant rfl pending ?_
      rcases loop with same | ⟨plan, stored, sent, cleared⟩
      · exact .inl same
      · cases stored
        exact .inr ⟨transfers_eq_nil pending sent, cleared⟩
  | mark run plan index call block answer held received spent stored =>
      subst held
      subst received
      have driver := drivesStored_of_held invariant suspended stored
      rcases delivered_some.mp (show delivered sys.ledger call (some answer) = true from replies)
        with ⟨outcome, answered, same⟩
      rcases driver.called with ⟨sent, _, found, _⟩
      have legal : ledgerAnswer outcome = true := by
        apply invariant.typed sent (List.mem_of_getElem? found)
        simpa [CallLog.outcomeOf, found] using answered
      have reported := outcome_of_spent_reply legal same spent
      refine .mark id nowNanos index call block answer plan rfl driver spent ?_ ?_
      · rcases reported with rfl | rfl
        · exact .inl answered
        · exact .inr answered
      · rcases loop with same | ⟨marked, written, sent, cleared⟩
        · exact .inl same
        · cases written
          exact .inr ⟨sent, cleared⟩
  | reject run plan index call error held received clears stored =>
      subst held
      subst received
      have driver := drivesStored_of_held invariant suspended stored
      rcases delivered_some.mp
          (show delivered sys.ledger call (some (.error error)) = true from replies)
        with ⟨outcome, answered, same⟩
      have rejected : outcome = .rejected error := by
        cases outcome with
        | accepted block => cases same
        | duplicate block =>
            cases same
            cases clears
        | rejected other =>
            cases same
            rfl
      rw [rejected] at answered
      refine .reject id nowNanos index call error plan rfl driver answered clears ?_
      rcases loop with same | ⟨plan', written, _, _⟩
      · exact same
      · cases written

theorem planWrite_step (invariant : Invariant sys) {event : Event}
    (taken : step sys event = some next) : PlanWrite sys event next.state.payoutPlan := by
  cases event with
  | mainTick id force now =>
      simp only [step] at taken
      split at taken <;> cases taken
      rw [settle_payoutPlan]
      exact .keep (runMainTick_rests ..).1
  | poke id now =>
      simp only [step] at taken
      split at taken <;> cases taken
      rw [settle_payoutPlan]
      exact .keep (runPoke_rests ..).1
  | resume id reply now => exact planWrite_resume invariant taken
  | abandon id cleanup =>
      simp only [step] at taken
      split at taken <;> cases taken
      cases cleanup <;> exact .keep rfl
  | ledger call outcome =>
      simp only [step] at taken
      split at taken
      · rcases Option.map_eq_some_iff.mp taken with ⟨ledger, answered, rfl⟩
        exact .keep rfl
      · cases taken

/-- A driver whose plan is no longer the stored one leaves the stored one alone. -/
theorem stale_resume {kont : Kont} {nowSecs : Nat} (held : kont.heldPlan = some plan)
    (replaced : st.payoutPlan ≠ some plan) (resumed : resume st nowSecs kont reply = some result) :
    result.1.payoutPlan = st.payoutPlan := by
  cases kont with
  | balance run expectedNonce expectedPlan prevAge =>
      cases held
      cases reply <;> cases resumed
      rename_i amount
      cases amount with
      | none => exact (afterPayout_rests ..).1
      | some amount =>
          have mismatch : payoutGenerationMatches st expectedNonce (some plan) = false := by
            simp [payoutGenerationMatches, replaced]
          simp only [onBalance, mismatch, Bool.not_false, Bool.or_true, if_true]
          exact (afterPayout_rests ..).1
  | transfer run plan' index call =>
      cases held
      cases reply <;> cases resumed
      rename_i answer
      cases answer with
      | none => exact (afterPayout_rests ..).1
      | some answer =>
          simp only [onTransfer]
          rw [if_pos replaced]
          exact (afterPayout_rests ..).1
  | _ => cases held

theorem payout_exactly_once (sys : System) (reachable : machine.Reachable sys) :
    PayoutSafety sys := by
  have invariant := reachable_invariant reachable
  refine ⟨?_, ?_, invariant.plan.settled, fun _ _ => planWrite_step invariant, ?_⟩
  · intro serial index
    apply debits_le_one_of_justified invariant
    intro first second _ _ chosen also
    simp only [decide_eq_true_eq] at chosen also
    omega
  · intro planId index below
    apply debits_le_one_of_justified invariant
    intro first second member other chosen also
    simp only [decide_eq_true_eq] at chosen also
    have one := serial_of_id invariant member (by omega)
    have two := serial_of_id invariant other (by omega)
    omega
  · intro id kont plan suspended held replaced reply nowNanos next taken
    simp only [step, suspended] at taken
    split at taken
    · rcases Option.map_eq_some_iff.mp taken with ⟨result, resumed, rfl⟩
      rw [settle_payoutPlan]
      exact stale_resume held replaced resumed
    · cases taken

def sampleAccount (byte : UInt8) : Account := ⟨⟨[byte]⟩, none⟩

def sampleStart : System where
  state := State.new ⟨sampleAccount 1, sampleAccount 2, sampleAccount 3, 86400⟩ 1700000000
  tasks := Pool.empty
  ledger := []
  installed := []
  clock := 1700000000000000000

/-- The ledger accepts the first transfer, its reply is lost, a poke sends it again and learns
of the duplicate. -/
def lostReplyRun : List Event :=
  let now := 1700000000000000000
  [.mainTick 0 true now, .resume 0 (.acknowledged true) now, .resume 0 (.acknowledged true) now,
    .resume 0 (.neuron (some ⟨1700000000, none⟩)) now, .resume 0 (.amount (some 1000000)) now,
    .resume 0 (.amount (some 10000)) now, .ledger 0 (.accepted 7),
    .resume 0 (.transfer none) now, .poke 1 now, .resume 1 (.neuron (some ⟨0, some []⟩)) now,
    .resume 1 (.amount (some 0)) now, .ledger 1 (.duplicate 7),
    .resume 1 (.transfer (some (.error (.duplicate 7)))) now]

theorem payout_exactly_once_lost_reply :
    ∃ sys, machine.Reachable sys ∧ sys.ledger.length = 2 ∧ sys.state.payoutPlan = none ∧
      PayoutSafety sys := by
  have ran : machine.run sampleStart lostReplyRun =
      some ((machine.run sampleStart lostReplyRun).getD sampleStart) := by rfl
  have reachable : machine.Reachable ((machine.run sampleStart lostReplyRun).getD sampleStart) :=
    ⟨sampleStart, lostReplyRun, ⟨_, 1700000000000000000, rfl⟩, ran⟩
  exact ⟨_, reachable, rfl, rfl, payout_exactly_once _ reachable⟩

end JupiterSuite.Disburser
