import JupiterSuite.Disburser.Segments

/-! Exactly-once payout: the invariant of the plan, the calls and the suspended drivers, kept
by every step of every task and of the ledger. -/

namespace JupiterSuite.Disburser

open Base

def PlannedTransfer.reset (transfer : PlannedTransfer) : PlannedTransfer :=
  { transfer with status := .pending }

/-- The plan as it was installed. -/
def PayoutPlan.reset (plan : PayoutPlan) : PayoutPlan :=
  { plan with transfers := plan.transfers.map PlannedTransfer.reset }

@[simp]
theorem reset_id (plan : PayoutPlan) : plan.reset.id = plan.id := rfl

theorem getElem?_reset (plan : PayoutPlan) (index : Nat) :
    plan.reset.transfers[index]? = plan.transfers[index]?.map PlannedTransfer.reset := by
  simp [PayoutPlan.reset]

theorem reset_markSent (plan : PayoutPlan) (index block : Nat) :
    (plan.markSent index block).reset = plan.reset := by
  simp only [PayoutPlan.reset, PayoutPlan.markSent, PayoutPlan.mk.injEq, true_and]
  apply List.ext_getElem?
  intro i
  simp only [List.getElem?_map, List.getElem?_modify]
  split <;> cases plan.transfers[i]? <;> rfl

theorem getElem?_markSent {i : Nat} {transfer : PlannedTransfer}
    (present : (plan.markSent index block).transfers[i]? = some transfer) :
    ∃ old, plan.transfers[i]? = some old ∧
      transferArg plan old = transferArg (plan.markSent index block) transfer ∧
      (transfer = old ∨ i = index ∧ transfer.status = .sent block) := by
  simp only [PayoutPlan.markSent, List.getElem?_modify] at present
  cases found : plan.transfers[i]? with
  | none => simp [found] at present
  | some old =>
      simp only [found, Option.map_eq_map, Option.map_some, Option.some.injEq] at present
      refine ⟨old, rfl, ?_, ?_⟩
      · subst present
        split <;> rfl
      · by_cases here : index = i
        · rw [if_pos here] at present
          exact .inr ⟨here.symm, by rw [← present]⟩
        · rw [if_neg here] at present
          exact .inl present.symm

theorem plannedPayout_reset (config : Config) (run : PayoutRun)
    (payoutId prevAge balance fee : Nat) :
    (plannedPayout config run payoutId prevAge balance fee).reset =
      plannedPayout config run payoutId prevAge balance fee := by
  simp only [PayoutPlan.reset, plannedPayout, PayoutPlan.mk.injEq, true_and]
  apply List.ext_getElem?
  intro i
  rw [List.getElem?_map]
  cases found : (planPayoutTransfers payoutId run.tick.nowNanos balance fee prevAge
      config.normalRecipient config.ageBonusRecipient1 config.ageBonusRecipient2).2[i]? with
  | none => rfl
  | some transfer =>
      have planned := plannedAt_of_plan _ _ _ _ _ _ _ _ i transfer found
      simp only [Option.map_some, PlannedTransfer.reset, ← planned.2.2.2.2]

/-- The transfer of an installed plan that the tag speaks for. -/
def Justified (installed : List PayoutPlan) (tag : Tag) (arg : TransferArg) : Prop :=
  ∃ plan transfer, installed[tag.serial]? = some plan ∧ plan.id = tag.planId ∧
    plan.transfers[tag.index]? = some transfer ∧ arg = transferArg plan transfer

/-- The `n`th installation has id `n + 1`, up to the last representable id. -/
def NumberedPlans (installed : List PayoutPlan) : Prop :=
  ∀ serial plan, installed[serial]? = some plan → plan.id = min (serial + 1) u64Max

def SettledBy (ledger : LedgerLog Tag) (arg : TransferArg) (block : Nat) : Prop :=
  ∃ call ∈ ledger, call.arg = arg ∧
    (call.outcome = some (.accepted block) ∨ call.outcome = some (.duplicate block))

structure PlanInvariant (st : State) (ledger : LedgerLog Tag) (installed : List PayoutPlan) :
    Prop where
  numbered : NumberedPlans installed
  nonce : st.payoutNonce = min (installed.length + 1) u64Max
  current : ∀ plan, st.payoutPlan = some plan → installed.getLast? = some plan.reset
  settled : ∀ plan, st.payoutPlan = some plan → ∀ (index : Nat) (transfer : PlannedTransfer)
    (block : Nat), plan.transfers[index]? = some transfer → transfer.status = .sent block →
      SettledBy ledger (transferArg plan transfer) block

/-- A suspended driver's call was made for the transfer it holds. -/
def DriverInvariant (ledger : LedgerLog Tag) (installed : List PayoutPlan) : Kont → Prop
  | .transfer _ plan index call =>
      ∃ sent transfer, ledger[call]? = some sent ∧ sent.tag.index = index ∧
        installed[sent.tag.serial]? = some plan.reset ∧
        plan.transfers[index]? = some transfer ∧ sent.arg = transferArg plan transfer
  | _ => True

structure Invariant (sys : System) : Prop where
  typed : TypedLog sys.ledger
  deduplicated : sys.ledger.Deduplicated
  justified : ∀ call ∈ sys.ledger, Justified sys.installed call.tag call.arg
  plan : PlanInvariant sys.state sys.ledger sys.installed
  drivers : sys.tasks.Holds (DriverInvariant sys.ledger sys.installed)

theorem justified_append {tag : Tag} (justified : Justified installed tag arg)
    (more : List PayoutPlan) :
    Justified (installed ++ more) tag arg := by
  rcases justified with ⟨plan, transfer, found, rest⟩
  have bound := (List.getElem?_eq_some_iff.mp found).1
  exact ⟨plan, transfer, by rw [List.getElem?_append_left bound, found], rest⟩

theorem driver_append (driver : DriverInvariant ledger installed kont) (more : List PayoutPlan) :
    DriverInvariant ledger (installed ++ more) kont := by
  cases kont with
  | transfer run plan index call =>
      rcases driver with ⟨sent, transfer, present, position, found, rest⟩
      have bound := (List.getElem?_eq_some_iff.mp found).1
      exact ⟨sent, transfer, present, position,
        by rw [List.getElem?_append_left bound, found], rest⟩
  | _ => exact trivial

theorem driver_dispatch (driver : DriverInvariant ledger installed kont) (tag : Tag)
    (arg : TransferArg) :
    DriverInvariant (ledger.dispatch tag arg) installed kont := by
  cases kont with
  | transfer run plan index call =>
      rcases driver with ⟨sent, transfer, present, rest⟩
      have bound := (List.getElem?_eq_some_iff.mp present).1
      exact ⟨sent, transfer, by rw [CallLog.getElem?_dispatch_old bound, present], rest⟩
  | _ => exact trivial

theorem driver_answer {target : Nat} (driver : DriverInvariant ledger installed kont)
    (answered : ledger.answer target outcome = some next) :
    DriverInvariant next installed kont := by
  cases kont with
  | transfer run plan index call =>
      rcases driver with ⟨sent, transfer, present, position, found, here, arg⟩
      have frame := CallLog.getElem?_answer answered call
      rw [present] at frame
      split at frame
      · exact ⟨_, transfer, frame, position, found, here, arg⟩
      · exact ⟨sent, transfer, frame, position, found, here, arg⟩
  | _ => exact trivial

theorem settledBy_answer {target : Nat} (settled : SettledBy ledger arg block)
    (answered : ledger.answer target outcome = some next) : SettledBy next arg block := by
  rcases settled with ⟨call, member, same, spent⟩
  have closed : call.outcome.isSome = true := by
    rcases spent with spent | spent <;> simp [spent]
  rcases List.mem_iff_getElem?.mp member with ⟨position, found⟩
  have kept := CallLog.answer_keeps_answered answered found closed
  exact ⟨call, List.mem_of_getElem? kept, same, spent⟩

theorem settledBy_dispatch (settled : SettledBy ledger arg block) (tag : Tag) (other : TransferArg) :
    SettledBy (ledger.dispatch tag other) arg block := by
  rcases settled with ⟨call, member, rest⟩
  exact ⟨call, CallLog.mem_dispatch.mpr (.inl member), rest⟩

theorem PlanInvariant.mono (invariant : PlanInvariant st ledger installed)
    (settles : ∀ arg block, SettledBy ledger arg block → SettledBy next arg block) :
    PlanInvariant st next installed where
  numbered := invariant.numbered
  nonce := invariant.nonce
  current := invariant.current
  settled := fun plan stored index transfer block present sent =>
    settles _ _ (invariant.settled plan stored index transfer block present sent)

theorem PlanInvariant.of_rests (invariant : PlanInvariant st ledger installed)
    (rests : Rests st result) : PlanInvariant result.1 ledger installed where
  numbered := invariant.numbered
  nonce := by rw [rests.2.1, invariant.nonce]
  current := by
    rw [rests.1]
    exact invariant.current
  settled := by
    rw [rests.1]
    exact invariant.settled

theorem PlanInvariant.clear (invariant : PlanInvariant st ledger installed) :
    PlanInvariant { st with payoutPlan := none } ledger installed where
  numbered := invariant.numbered
  nonce := invariant.nonce
  current := by
    intro plan stored
    cases stored
  settled := by
    intro plan stored
    cases stored

theorem PlanInvariant.install (invariant : PlanInvariant st ledger installed) (run : PayoutRun)
    (prevAge balance fee : Nat) :
    PlanInvariant
      (installPlan st (plannedPayout st.config run st.payoutNonce prevAge balance fee)) ledger
      (installed ++ [plannedPayout st.config run st.payoutNonce prevAge balance fee]) where
  numbered := by
    intro serial plan found
    rcases Nat.lt_trichotomy serial installed.length with old | last | beyond
    · rw [List.getElem?_append_left old] at found
      exact invariant.numbered serial plan found
    · subst last
      simp only [List.getElem?_concat_length, Option.some.injEq] at found
      subst found
      exact invariant.nonce
    · rw [List.getElem?_eq_none (by simp only [List.length_append, List.length_singleton]; omega)]
        at found
      cases found
  nonce := by
    simp only [installPlan, satAdd, invariant.nonce, List.length_append, List.length_singleton]
    omega
  current := by
    intro plan stored
    cases stored
    rw [List.getLast?_append, plannedPayout_reset]
    rfl
  settled := by
    intro plan stored index transfer block present sent
    cases stored
    have planned := plannedAt_of_plan _ _ _ _ _ _ _ _ index transfer present
    rw [planned.2.2.2.2] at sent
    cases sent

theorem PlanInvariant.mark (invariant : PlanInvariant st ledger installed)
    (stored : st.payoutPlan = some plan)
    (spent : ∀ transfer, plan.transfers[index]? = some transfer →
      SettledBy ledger (transferArg plan transfer) block) (nowSecs : Nat) :
    PlanInvariant (markSent st plan index block nowSecs) ledger installed where
  numbered := invariant.numbered
  nonce := invariant.nonce
  current := by
    intro marked holds
    cases holds
    rw [reset_markSent]
    exact invariant.current plan stored
  settled := by
    intro marked holds position transfer receipt present sent
    cases holds
    rcases getElem?_markSent present with ⟨old, found, same, unchanged | ⟨here, written⟩⟩
    · subst unchanged
      exact invariant.settled plan stored position transfer receipt found sent
    · subst here
      rw [written] at sent
      cases sent
      rw [← same]
      exact spent old found

theorem PlanInvariant.drive (invariant : PlanInvariant st ledger installed)
    (drives : Drives st result) : PlanInvariant result.1 ledger installed := by
  cases drives with
  | rests rests => exact invariant.of_rests rests
  | completes plan stored sent cleared => exact invariant.clear.of_rests cleared
  | dispatches run plan index transfer stored present pending paused =>
      rw [paused]
      exact invariant

theorem settledBy_of_reply {run : PayoutRun} {call : Nat} {result : TransferReply}
    (typed : TypedLog ledger)
    (driver : DriverInvariant ledger installed (.transfer run plan index call))
    (received : delivered ledger call (some result) = true)
    (spent : result = .ok block ∨ result = .error (.duplicate block)) (transfer : PlannedTransfer)
    (present : plan.transfers[index]? = some transfer) :
    SettledBy ledger (transferArg plan transfer) block := by
  rcases driver with ⟨sent, held, found, _, _, here, arg⟩
  rw [present] at here
  cases here
  rcases delivered_some.mp received with ⟨outcome, answered, reply⟩
  have member := List.mem_of_getElem? found
  simp only [CallLog.outcomeOf, found, Option.bind_some] at answered
  have reported := outcome_of_spent_reply (typed sent member outcome answered) reply spent
  refine ⟨sent, member, arg, ?_⟩
  rw [answered]
  rcases reported with rfl | rfl
  · exact .inl rfl
  · exact .inr rfl

theorem PlanInvariant.enter {entered : State} {more : List PayoutPlan} {nowSecs : Nat}
    (invariant : PlanInvariant st ledger installed) (typed : TypedLog ledger)
    (driver : DriverInvariant ledger installed kont)
    (received : ∀ run plan index call result, kont = .transfer run plan index call →
      reply = .transfer (some result) → delivered ledger call (some result) = true)
    (entry : Entry st kont reply nowSecs more entered) :
    PlanInvariant entered ledger (installed ++ more) := by
  cases entry with
  | keep => simpa using invariant
  | install run prevAge balance fee vacant => exact invariant.install run prevAge balance fee
  | mark run plan index call block result held answered spent stored =>
      subst held
      rw [List.append_nil]
      exact invariant.mark stored (fun transfer present =>
        settledBy_of_reply typed driver (received _ _ _ _ _ rfl answered) spent transfer present)
        _
  | reject run plan index call error held answered clears stored =>
      rw [List.append_nil]
      exact invariant.clear

theorem driver_of_quiet (quiet : (Pause.await kont).transfers = false) :
    DriverInvariant ledger installed kont := by
  cases kont with
  | transfer => cases quiet
  | _ => exact trivial

theorem invariant_settle {entered : State} {id nowNanos : Nat} {more : List PayoutPlan}
    (invariant : Invariant sys) (plan : PlanInvariant entered sys.ledger (sys.installed ++ more))
    (drives : Drives entered result) :
    Invariant (settle sys id nowNanos (sys.installed ++ more) result) := by
  have justified : ∀ call ∈ sys.ledger, Justified (sys.installed ++ more) call.tag call.arg :=
    fun call member => justified_append (invariant.justified call member) more
  have drivers : sys.tasks.Holds (DriverInvariant sys.ledger (sys.installed ++ more)) :=
    invariant.drivers.mono fun kont driver => driver_append driver more
  have after := plan.drive drives
  rcases result with ⟨st, pause⟩
  cases pause with
  | done =>
      exact ⟨invariant.typed, invariant.deduplicated, justified, after,
        drivers.put (fun kont none_left => by cases none_left) fun _ _ _ _ driver => driver⟩
  | await kont =>
      have quiet : (Pause.await kont).transfers = false := by
        cases drives with
        | rests rests => exact rests.2.2
        | completes _ _ _ cleared => exact cleared.2.2
        | dispatches _ _ _ _ _ _ _ paused => cases paused
      refine ⟨invariant.typed, invariant.deduplicated, justified, after,
        drivers.put (fun other mine => ?_) fun _ _ _ _ driver => driver⟩
      cases mine
      exact driver_of_quiet quiet
  | transferring run held index arg =>
      cases drives with
      | rests rests => exact absurd rests.2.2 (by simp [Pause.transfers])
      | completes _ _ _ cleared => exact absurd cleared.2.2 (by simp [Pause.transfers])
      | dispatches run' plan' index' transfer stored present pending paused =>
          cases paused
          have current := plan.current held stored
          rw [List.getLast?_eq_getElem?] at current
          refine ⟨typedLog_dispatch invariant.typed _ _,
            CallLog.deduplicated_dispatch invariant.deduplicated _ _, ?_, ?_, ?_⟩
          · intro call member
            rcases CallLog.mem_dispatch.mp member with old | rfl
            · exact justified call old
            · refine ⟨held.reset, transfer.reset, current, rfl, ?_, rfl⟩
              rw [getElem?_reset, present]
              rfl
          · exact after.mono fun _ _ settled => settledBy_dispatch settled _ _
          · refine drivers.put (fun kont mine => ?_) fun _ kont _ _ driver =>
              driver_dispatch driver _ _
            cases mine
            exact ⟨_, transfer, CallLog.getElem?_dispatch_new .., rfl, current, present, rfl⟩

theorem invariant_ledger {call : Nat} (invariant : Invariant sys)
    (legal : ledgerAnswer outcome = true) (answered : sys.ledger.answer call outcome = some ledger) :
    Invariant { sys with ledger := ledger } where
  typed := typedLog_answer invariant.typed legal answered
  deduplicated := CallLog.deduplicated_answer invariant.deduplicated answered
  justified := by
    intro sent member
    rcases CallLog.mem_answer answered member with ⟨old, present, tags, args, _⟩
    rw [← tags, ← args]
    exact invariant.justified old present
  plan := invariant.plan.mono fun _ _ settled => settledBy_answer settled answered
  drivers := invariant.drivers.mono fun _ driver => driver_answer driver answered

theorem invariant_abandon (invariant : Invariant sys) (id lease : Nat) (cleanup : Bool) :
    Invariant { sys with
      state := if cleanup then dropGuard sys.state lease else sys.state
      tasks := sys.tasks.put id none } where
  typed := invariant.typed
  deduplicated := invariant.deduplicated
  justified := invariant.justified
  plan := by
    cases cleanup with
    | false => exact invariant.plan
    | true =>
        have rests : Rests sys.state (dropGuard sys.state lease, .done) := ⟨rfl, rfl, rfl⟩
        exact invariant.plan.of_rests rests
  drivers := invariant.drivers.put (fun kont none_left => by cases none_left)
    fun _ _ _ _ driver => driver

theorem invariant_start (invariant : Invariant sys) (rests : Rests sys.state result)
    (id nowNanos : Nat) :
    Invariant (settle sys id nowNanos sys.installed result) := by
  have plan : PlanInvariant sys.state sys.ledger (sys.installed ++ []) := by
    simpa using invariant.plan
  have settled : Invariant (settle sys id nowNanos (sys.installed ++ []) result) :=
    invariant_settle invariant plan (.rests rests)
  simpa using settled

theorem step_resume {next : System} {id nowNanos : Nat}
    (taken : step sys (.resume id reply nowNanos) = some next) :
    ∃ kont result entered, sys.tasks id = some kont ∧ repliesTo sys kont reply = true ∧
      Entry sys.state kont reply (nowNanos / nanosPerSecond)
        (installs sys.state (nowNanos / nanosPerSecond) kont reply) entered ∧
      Drives entered result ∧
      next = settle sys id nowNanos
        (sys.installed ++ installs sys.state (nowNanos / nanosPerSecond) kont reply) result := by
  simp only [step] at taken
  split at taken
  · cases taken
  · rename_i kont suspended
    split at taken
    · rename_i enabled
      simp only [Bool.and_eq_true] at enabled
      rcases Option.map_eq_some_iff.mp taken with ⟨result, resumed, rfl⟩
      rcases resume_cases resumed with ⟨entered, entry, drives⟩
      exact ⟨kont, result, entered, suspended, enabled.2, entry, drives, rfl⟩
    · cases taken

theorem received_of_repliesTo (replies : repliesTo sys kont reply = true) (run : PayoutRun)
    (plan : PayoutPlan) (index call : Nat) (result : TransferReply)
    (held : kont = .transfer run plan index call) (answered : reply = .transfer (some result)) :
    delivered sys.ledger call (some result) = true := by
  subst held
  subst answered
  exact replies

theorem invariant_step {next : System} {event : Event} (invariant : Invariant sys)
    (taken : step sys event = some next) : Invariant next := by
  cases event with
  | mainTick id force now =>
      simp only [step] at taken
      split at taken <;> cases taken
      exact invariant_start invariant (runMainTick_rests ..) id now
  | poke id now =>
      simp only [step] at taken
      split at taken <;> cases taken
      exact invariant_start invariant (runPoke_rests ..) id now
  | resume id reply now =>
      rcases step_resume taken with
        ⟨kont, result, entered, suspended, replies, entry, drives, rfl⟩
      have driver := invariant.drivers id kont suspended
      have entered_plan := invariant.plan.enter invariant.typed driver
        (received_of_repliesTo replies) entry
      exact invariant_settle invariant entered_plan drives
  | abandon id cleanup =>
      simp only [step] at taken
      split at taken <;> cases taken
      exact invariant_abandon invariant ..
  | ledger call outcome =>
      simp only [step] at taken
      split at taken
      · rename_i legal
        rcases Option.map_eq_some_iff.mp taken with ⟨ledger, answered, rfl⟩
        exact invariant_ledger invariant legal answered
      · cases taken

theorem invariant_init (begun : machine.init sys) : Invariant sys := by
  rcases begun with ⟨config, nowNanos, rfl⟩
  refine ⟨?_, ?_, ?_, ⟨?_, ?_, ?_, ?_⟩, Pool.holds_empty _⟩
  · intro call member
    cases member
  · exact List.nodup_nil
  · intro call member
    cases member
  · intro serial plan found
    simp at found
  · simp [State.new, u64Max]
  · intro plan stored
    cases stored
  · intro plan stored
    cases stored

theorem reachable_invariant (reachable : machine.Reachable sys) : Invariant sys :=
  machine.reachable_invariant Invariant (fun _ => invariant_init)
    (fun _ _ _ invariant taken => invariant_step invariant taken) reachable

end JupiterSuite.Disburser
