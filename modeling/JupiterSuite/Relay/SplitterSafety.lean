import JupiterSuite.Relay.SplitterResume

/-! The invariant of the whole splitter, kept by every driver, by the ledger and by upgrades,
and what it says about the money of each job. -/

namespace JupiterSuite.Relay

open Base

variable (relayId : Principal)

structure SplitterInvariant (sys : SplitterSystem) : Prop where
  typed : TypedLog sys.ledger
  deduplicated : sys.ledger.Deduplicated
  known : ∀ call ∈ sys.ledger, call.tag.job < sys.plans.length
  each : ∀ serial plan, sys.plans[serial]? = some plan →
    PlanInvariant relayId sys.ledger serial plan
  active : ∀ job, sys.state.activeJob = some job →
    sys.plans[sys.plans.length - 1]? = some job.plan ∧
      JobInvariant relayId sys.ledger (sys.plans.length - 1) job
  leased : Leased SplitterKont.lease sys.state.splitterLockStateTs
    (sys.clock / nanosPerSecond) sys.tasks
  owners : sys.tasks.Holds (Fenced SplitterKont.lease sys.state.splitterLockStateTs
    (KontOk relayId sys.ledger (sys.plans.length - 1) sys.state.activeJob))

variable {relayId}

theorem plansAfter_length (plans : List SplitterPlan) (st : SplitterState) :
    (plansAfter plans st).length = plans.length := by
  unfold plansAfter
  split <;> simp

variable {ledger next : LedgerLog SplitterTag} {plan : SplitterPlan} {plans : List SplitterPlan}
  {st : SplitterState} {outcome : TransferOutcome} {target serial id now lease : Nat}
  {kont : SplitterKont} {sys : SplitterSystem} {result : SplitterState × SplitterPause}
  {reply : SplitterReply}

theorem plansAfter_each
    (each : ∀ serial plan, plans[serial]? = some plan → PlanInvariant relayId ledger serial plan)
    (slot : SlotOk relayId ledger (plans.length - 1) plan st.activeJob st.quarantinedJobs) :
    ∀ serial plan, (plansAfter plans st)[serial]? = some plan →
      PlanInvariant relayId ledger serial plan := by
  intro serial other found
  unfold plansAfter at found
  cases stored : st.activeJob with
  | none =>
      rw [stored] at found
      exact each serial other found
  | some job =>
      rw [stored] at found slot
      dsimp only at found
      by_cases last : plans.length - 1 = serial
      · subst last
        rw [List.getElem?_set_self'] at found
        cases present : plans[plans.length - 1]? with
        | none => simp [present] at found
        | some old =>
            simp only [present, Option.map_eq_map, Option.map_some, Function.const_apply,
              Option.some.injEq] at found
            subst found
            exact slot.invariant.toPlanInvariant
      · rw [List.getElem?_set_ne last] at found
        exact each serial other found

theorem plansAfter_active (present : plans[plans.length - 1]? = some plan)
    (slot : SlotOk relayId ledger (plans.length - 1) plan st.activeJob st.quarantinedJobs)
    (job : ActiveSplitterJob) (stored : st.activeJob = some job) :
    (plansAfter plans st)[plans.length - 1]? = some job.plan ∧
      JobInvariant relayId ledger (plans.length - 1) job := by
  have bound := (List.getElem?_eq_some_iff.mp present).1
  rw [stored] at slot
  refine ⟨?_, slot.invariant⟩
  simp only [plansAfter, stored]
  exact List.getElem?_set_self bound

variable {arg : TransferArg} {block clock nowNanos : Nat} {job : ActiveSplitterJob}
  {activeJob : Option ActiveSplitterJob}

theorem spentAt_dispatch {other : TransferArg} (spent : SpentAt ledger arg block)
    (tag : SplitterTag) :
    SpentAt (ledger.dispatch tag other) arg block := by
  rcases spent with ⟨call, member, rest⟩
  exact ⟨call, CallLog.mem_dispatch.mpr (.inl member), rest⟩

theorem spentAt_answer (spent : SpentAt ledger arg block)
    (answered : ledger.answer target outcome = some next) : SpentAt next arg block := by
  rcases spent with ⟨call, member, same, reply⟩
  have closed : call.outcome.isSome = true := by
    rcases reply with reply | reply <;> simp [reply]
  rcases List.mem_iff_getElem?.mp member with ⟨position, found⟩
  have kept := CallLog.answer_keeps_answered answered found closed
  exact ⟨call, List.mem_of_getElem? kept, same, reply⟩

theorem PlanInvariant.answer (invariant : PlanInvariant relayId ledger serial plan)
    (answered : ledger.answer target outcome = some next) :
    PlanInvariant relayId next serial plan where
  exact := invariant.exact
  calls := by
    intro call member same
    rcases CallLog.mem_answer answered member with ⟨old, present, tags, args, kept | ⟨opened, _⟩⟩
    · subst kept
      exact invariant.calls call present same
    · rw [← tags] at same
      rcases invariant.calls old present same with refused | current
      · have closed := Call.answered_of_refused refused
        rw [opened] at closed
        cases closed
      · right
        rw [← args, ← tags]
        exact current

theorem JobInvariant.answer (invariant : JobInvariant relayId ledger serial job)
    (answered : ledger.answer target outcome = some next) :
    JobInvariant relayId next serial job where
  toPlanInvariant := invariant.toPlanInvariant.answer answered
  untried := fun leg unaccepted untried =>
    CallLog.refused_answer (invariant.untried leg unaccepted untried) answered
  waiting := invariant.waiting
  ordered := fun unaccepted => CallLog.refused_answer (invariant.ordered unaccepted) answered
  settled := fun leg block accepted => spentAt_answer (invariant.settled leg block accepted) answered

theorem PlanInvariant.dispatch_other (invariant : PlanInvariant relayId ledger serial plan)
    {tag : SplitterTag} (arg : TransferArg) (different : tag.job ≠ serial) :
    PlanInvariant relayId (ledger.dispatch tag arg) serial plan where
  exact := invariant.exact
  calls := by
    intro call member same
    rcases CallLog.mem_dispatch.mp member with old | rfl
    · exact invariant.calls call old same
    · exact absurd same different

theorem Sendable.dispatch {claimed : ActiveSplitterJob} {leg : SplitterLeg} {hadPrior : Bool}
    (sendable : Sendable relayId ledger serial plan claimed leg hadPrior) :
    JobInvariant relayId
      (ledger.dispatch ⟨serial, leg⟩ (splitterTransferArg relayId claimed.plan leg)) serial
      claimed := by
  have invariant := sendable.continues.invariant
  refine ⟨⟨invariant.exact, ?_⟩, ?_, invariant.waiting, ?_, ?_⟩
  · intro call member same
    rcases CallLog.mem_dispatch.mp member with old | rfl
    · exact invariant.calls call old same
    · exact .inr rfl
  · intro other unaccepted untried
    have different : other ≠ leg := by
      rintro rfl
      have started := sendable.started
      rw [untried.1] at started
      cases started
    refine CallLog.refused_dispatch (invariant.untried other unaccepted untried) _ ?_
    intro same
    exact different (SplitterTag.mk.inj same).2.symm
  · intro unaccepted
    refine CallLog.refused_dispatch (invariant.ordered unaccepted) _ ?_
    intro same
    have second := (SplitterTag.mk.inj same).2
    have accepted := sendable.ordered second
    rw [unaccepted] at accepted
    cases accepted
  · intro other block accepted
    exact spentAt_dispatch (invariant.settled other block accepted) _

theorem KontOk.of_await (awaits : AwaitOk activeJob kont) :
    KontOk relayId ledger serial activeJob kont := by
  cases kont with
  | transfer => cases awaits
  | _ => exact awaits

theorem KontOk.answer (ok : KontOk relayId ledger serial activeJob kont)
    (answered : ledger.answer target outcome = some next) :
    KontOk relayId next serial activeJob kont := by
  cases kont with
  | transfer driver claimed leg hadPrior call =>
      rcases ok with ⟨stored, ready, started, ⟨sent, found, tag, arg⟩, prior⟩
      refine ⟨stored, ready, started, ?_, fun none_prior =>
        CallLog.refusedExcept_answer (prior none_prior) answered⟩
      have frame := CallLog.getElem?_answer answered call
      rw [found] at frame
      split at frame
      · exact ⟨_, frame, tag, arg⟩
      · exact ⟨sent, frame, tag, arg⟩
  | _ => exact ok

theorem invariant_of_idle {tasks : Pool SplitterKont} (invariant : SplitterInvariant relayId sys)
    (active : st.activeJob = sys.state.activeJob)
    (leased : Leased SplitterKont.lease st.splitterLockStateTs (clock / nanosPerSecond) tasks)
    (owners : tasks.Holds (Fenced SplitterKont.lease st.splitterLockStateTs
      (KontOk relayId sys.ledger (sys.plans.length - 1) sys.state.activeJob))) :
    SplitterInvariant relayId { sys with state := st, tasks := tasks, clock := clock } where
  typed := invariant.typed
  deduplicated := invariant.deduplicated
  known := invariant.known
  each := invariant.each
  active := by
    intro job stored
    rw [active] at stored
    exact invariant.active job stored
  leased := leased
  owners := by
    simp only [active]
    exact owners

theorem invariant_of_trap (invariant : SplitterInvariant relayId sys) (forward : sys.clock ≤ now)
    (plans : List SplitterPlan) (st : SplitterState) :
    SplitterInvariant relayId (settleSplitter relayId sys id now plans (st, .trap)) := by
  have ticked : Leased SplitterKont.lease sys.state.splitterLockStateTs
      (now / nanosPerSecond) sys.tasks := invariant.leased.tick (Nat.div_le_div_right forward)
  simp only [settleSplitter]
  cases found : sys.tasks id with
  | none =>
      rw [Pool.put_vacant found]
      exact invariant_of_idle invariant rfl ticked invariant.owners
  | some kont =>
      by_cases owner : sys.state.splitterLockStateTs = some kont.lease
      · have turn := ticked.turn_of_owner found owner
        have locked : (sys.state.dropGuard kont.lease).splitterLockStateTs = some 0 := by
          simp [SplitterState.dropGuard, releaseLease, owner]
        refine invariant_of_idle invariant rfl (turn.stop _ (.inr locked)) ?_
        exact invariant.owners.put (fun _ impossible => by cases impossible)
          fun other theirs different also _ =>
            turn.others _ (.inr locked) other theirs different also _
      · have locked : (sys.state.dropGuard kont.lease).splitterLockStateTs =
            sys.state.splitterLockStateTs := releaseLease_lost owner
        refine invariant_of_idle invariant rfl ?_ ?_
        · rw [locked]
          exact ticked.stop found (.inl rfl)
        · rw [locked]
          exact invariant.owners.put (fun _ impossible => by cases impossible)
            fun _ _ _ _ fenced => fenced

theorem invariant_of_job_segment (invariant : SplitterInvariant relayId sys)
    (known : ∀ call ∈ sys.ledger, call.tag.job < plans.length)
    (each : ∀ serial plan, plans[serial]? = some plan →
      PlanInvariant relayId sys.ledger serial plan) (present : plans[plans.length - 1]? = some plan)
    (turn : Turn SplitterKont.lease sys.tasks id lease (now / nanosPerSecond))
    (segment : JobSegment relayId sys.ledger (plans.length - 1) plan lease (some lease) result)
    (forward : sys.clock ≤ now) :
    SplitterInvariant relayId (settleSplitter relayId sys id now plans result) := by
  have released : releaseLease lease (some lease) = some 0 := by simp [releaseLease]
  have none_left : ∀ assertion : SplitterKont → Prop, ∀ kont : SplitterKont,
      (none : Option SplitterKont) = some kont → assertion kont :=
    fun _ _ impossible => by cases impossible
  rcases result with ⟨st, pause⟩
  cases pause with
  | done =>
      rcases segment with ⟨slot, locked⟩
      rw [released] at locked
      refine ⟨invariant.typed, invariant.deduplicated, ?_, plansAfter_each each slot, ?_, ?_, ?_⟩
      · simpa [settleSplitter, plansAfter_length] using known
      · simpa [settleSplitter, plansAfter_length] using plansAfter_active present slot
      · exact turn.stop _ (.inr locked)
      · exact invariant.owners.put (none_left _) fun other theirs different also _ =>
          turn.others _ (.inr locked) other theirs different also _
  | exhausted =>
      rcases segment with ⟨slot, locked⟩
      refine ⟨invariant.typed, invariant.deduplicated, ?_, plansAfter_each each slot, ?_, ?_, ?_⟩
      · simpa [settleSplitter, plansAfter_length] using known
      · simpa [settleSplitter, plansAfter_length] using plansAfter_active present slot
      · exact turn.stop _ (.inl locked)
      · exact invariant.owners.put (none_left _) fun other theirs different also _ =>
          turn.others _ (.inl locked) other theirs different also _
  | await kont =>
      rcases segment with ⟨slot, locked, same, awaits⟩
      refine ⟨invariant.typed, invariant.deduplicated, ?_, plansAfter_each each slot, ?_, ?_, ?_⟩
      · simpa [settleSplitter, plansAfter_length] using known
      · simpa [settleSplitter, plansAfter_length] using plansAfter_active present slot
      · simpa [settleSplitter, locked] using turn.await kont same
      · refine invariant.owners.put (fun mine mine_eq => ?_) fun other theirs different also _ =>
          turn.others _ (.inl locked) other theirs different also _
        cases mine_eq
        exact fun _ => KontOk.of_await awaits
  | transferring driver claimed leg hadPrior =>
      rcases segment with ⟨stored, locked, same, sendable⟩
      have sent := sendable.dispatch
      have length : (plansAfter plans st).length = plans.length := plansAfter_length plans st
      have bound := (List.getElem?_eq_some_iff.mp present).1
      have written : plansAfter plans st = plans.set (plans.length - 1) claimed.plan := by
        simp [plansAfter, stored]
      refine ⟨typedLog_dispatch invariant.typed _ _,
        CallLog.deduplicated_dispatch invariant.deduplicated _ _, ?_, ?_, ?_, ?_, ?_⟩
      · intro call member
        simp only [settleSplitter, length]
        rcases CallLog.mem_dispatch.mp member with old | rfl
        · exact known call old
        · exact bound
      · intro serial other found
        simp only [settleSplitter, written] at found
        by_cases last : plans.length - 1 = serial
        · subst last
          rw [List.getElem?_set_self bound] at found
          cases found
          exact sent.toPlanInvariant
        · rw [List.getElem?_set_ne last] at found
          exact (each serial other found).dispatch_other _ last
      · intro job active
        simp only [settleSplitter] at active
        rw [stored] at active
        cases active
        simp only [settleSplitter, length]
        refine ⟨?_, sent⟩
        rw [written]
        exact List.getElem?_set_self bound
      · simpa [settleSplitter, locked] using
          turn.await (.transfer driver claimed leg hadPrior sys.ledger.length) same
      · refine invariant.owners.put (fun mine mine_eq => ?_) fun other theirs different also _ =>
          turn.others _ (.inl locked) other theirs different also _
        cases mine_eq
        intro _
        simp only [settleSplitter, length]
        exact ⟨stored, sendable.ready, sendable.started,
          ⟨_, CallLog.getElem?_dispatch_new .., rfl, rfl⟩,
          fun none_prior => CallLog.refusedExcept_dispatch (sendable.prior none_prior) _⟩
  | trap => exact invariant_of_trap invariant forward _ _

theorem plansAfter_vacant (vacant : st.activeJob = none) : plansAfter plans st = plans := by
  simp [plansAfter, vacant]

theorem invariant_of_vacant_segment (invariant : SplitterInvariant relayId sys)
    (vacant : sys.state.activeJob = none)
    (turn : Turn SplitterKont.lease sys.tasks id lease (now / nanosPerSecond))
    (segment : VacantSegment lease (some lease) result) (forward : sys.clock ≤ now) :
    SplitterInvariant relayId (settleSplitter relayId sys id now sys.plans result) := by
  have released : releaseLease lease (some lease) = some 0 := by simp [releaseLease]
  rcases result with ⟨st, pause⟩
  cases pause with
  | done =>
      rcases segment with ⟨empty, locked⟩
      rw [released] at locked
      simp only [settleSplitter, plansAfter_vacant empty]
      refine invariant_of_idle invariant (empty.trans vacant.symm) (turn.stop _ (.inr locked)) ?_
      exact invariant.owners.put (fun _ impossible => by cases impossible)
        fun other theirs different also _ =>
          turn.others _ (.inr locked) other theirs different also _
  | exhausted =>
      rcases segment with ⟨empty, locked⟩
      simp only [settleSplitter, plansAfter_vacant empty]
      refine invariant_of_idle invariant (empty.trans vacant.symm) (turn.stop _ (.inl locked)) ?_
      exact invariant.owners.put (fun _ impossible => by cases impossible)
        fun other theirs different also _ =>
          turn.others _ (.inl locked) other theirs different also _
  | await kont =>
      rcases segment with ⟨empty, locked, same, awaits⟩
      simp only [settleSplitter, plansAfter_vacant empty]
      refine invariant_of_idle invariant (empty.trans vacant.symm) ?_ ?_
      · rw [locked]
        exact turn.await kont same
      · refine invariant.owners.put (fun mine mine_eq => ?_) fun other theirs different also _ =>
          turn.others _ (.inl locked) other theirs different also _
        cases mine_eq
        intro _
        apply KontOk.of_await
        rw [vacant, ← empty]
        exact awaits
  | transferring driver claimed leg hadPrior => exact segment.2.2.2.elim
  | trap => exact invariant_of_trap invariant forward _ _

/-- What a continuation without its lease leaves behind. -/
structure Lost (st : SplitterState) (lease : Nat) (result : SplitterState × SplitterPause) :
    Prop where
  active : result.1.activeJob = st.activeJob
  quarantined : result.1.quarantinedJobs = st.quarantinedJobs
  locked : result.1.splitterLockStateTs = st.splitterLockStateTs
  paused : result.2 = .done ∨ ∃ kont, result.2 = .await kont ∧ kont.lease = lease

theorem lost_done (lost : st.splitterLockStateTs ≠ some lease) :
    Lost st lease (st.dropGuard lease, .done) :=
  ⟨rfl, rfl, releaseLease_lost lost, .inl rfl⟩

theorem lost_stale {driver : Driver} (fuel : Nat)
    (lost : st.splitterLockStateTs ≠ some driver.lease) :
    Lost st driver.lease (drive fuel driver (.result st .stale)) := by
  have finished : drive fuel driver (.result st .stale) = (st.dropGuard driver.lease, .done) := by
    rcases driver with ⟨lease, nowNanos, stage⟩
    cases fuel <;> cases stage <;> rfl
  rw [finished]
  exact lost_done lost

theorem lost_stageNext (nowNanos : Nat) (resumed : Option Nat) (feeE8s : Nat) (remaining : List Nat)
    (lost : st.splitterLockStateTs ≠ some lease) :
    Lost st lease (stageNext st lease nowNanos resumed feeE8s remaining) := by
  induction remaining with
  | nil => exact lost_done lost
  | cons number remaining ih =>
      simp only [stageNext]
      split
      · exact ih
      · exact ⟨rfl, rfl, rfl, .inr ⟨_, rfl, rfl⟩⟩

theorem Lost.of_resolved {reply : Option Nat}
    (lost : Lost (resolveIcpLedgerFeeE8s st reply).1 lease result) : Lost st lease result := by
  rcases resolve_frame st reply with ⟨active, quarantined, locked⟩
  exact ⟨lost.active.trans active, lost.quarantined.trans quarantined,
    lost.locked.trans locked, lost.paused⟩

/-- A continuation that lost its lease writes neither the job nor the quarantine, and sends
nothing. -/
theorem resume_lost (lost : st.splitterLockStateTs ≠ some kont.lease)
    (resumed : resumeSplitter st kont reply = some result) :
    Lost st kont.lease result ∧ installsSplitter st kont reply = [] := by
  cases kont with
  | waitFunds driver claimed leg =>
      cases reply <;> cases resumed
      refine ⟨?_, rfl⟩
      simp only [onWaitFunds, claimHolds_lost lost, Bool.not_false, if_true]
      exact lost_stale _ lost
  | waitFee driver claimed leg =>
      cases reply <;> cases resumed
      rename_i fee
      refine ⟨?_, rfl⟩
      have still : (resolveIcpLedgerFeeE8s st fee).1.splitterLockStateTs ≠ some driver.lease := by
        rw [(resolve_frame st fee).2.2]
        exact lost
      simp only [onWaitFee, claimHolds_lost still, Bool.not_false, if_true]
      exact (lost_stale _ still).of_resolved
  | transfer driver claimed leg hadPrior call =>
      cases reply <;> cases resumed
      refine ⟨?_, rfl⟩
      simp only [onSplitterTransfer, claimHolds_lost lost, Bool.not_false, if_true]
      exact lost_stale _ lost
  | stageFee lease nowNanos resumedJob =>
      cases reply <;> cases resumed
      rename_i fee
      refine ⟨?_, rfl⟩
      have still : (resolveIcpLedgerFeeE8s st fee).1.splitterLockStateTs ≠ some lease := by
        rw [(resolve_frame st fee).2.2]
        exact lost
      have stale : (resolveIcpLedgerFeeE8s st fee).1.isCurrent lease = false := by
        simpa [SplitterState.isCurrent] using still
      simp only [onStageFee, stale, Bool.not_false, if_true]
      exact (lost_done still).of_resolved
  | stageBalance lease nowNanos resumedJob feeE8s number remaining =>
      cases reply <;> cases resumed
      rename_i balance
      have unowned : st.splitterLockStateTs ≠ some lease := lost
      have stale : st.isCurrent lease = false := by
        simpa [SplitterState.isCurrent] using unowned
      cases balance with
      | none => exact ⟨lost_stageNext _ _ _ _ lost, rfl⟩
      | some balance =>
          simp only [onStageBalance, installsSplitter, planOnBalance, stale, Option.isSome_some,
            Bool.not_false, Bool.and_self, if_true, Bool.false_eq_true, if_false,
            Option.toList_none, and_true]
          exact lost_done lost

theorem invariant_of_lost (invariant : SplitterInvariant relayId sys) (forward : sys.clock ≤ now)
    (found : sys.tasks id = some kont) (unowned : sys.state.splitterLockStateTs ≠ some kont.lease)
    (lost : Lost sys.state kont.lease result) :
    SplitterInvariant relayId (settleSplitter relayId sys id now sys.plans result) := by
  have ticked : Leased SplitterKont.lease sys.state.splitterLockStateTs
      (now / nanosPerSecond) sys.tasks := invariant.leased.tick (Nat.div_le_div_right forward)
  rcases result with ⟨st, pause⟩
  have kept : plansAfter sys.plans st = sys.plans := by
    unfold plansAfter
    cases stored : st.activeJob with
    | none => rfl
    | some job =>
        have present := (invariant.active job (lost.active.symm.trans stored)).1
        rcases List.getElem?_eq_some_iff.mp present with ⟨bound, here⟩
        dsimp only
        rw [← here]
        exact List.set_getElem_self bound
  rcases lost.paused with paused | ⟨next, paused, same⟩
  · simp only at paused
    subst paused
    simp only [settleSplitter, kept]
    refine invariant_of_idle invariant lost.active ?_ ?_
    · rw [lost.locked]
      exact ticked.stop found (.inl rfl)
    · rw [lost.locked]
      exact invariant.owners.put (fun _ impossible => by cases impossible)
        fun _ _ _ _ fenced => fenced
  · simp only at paused
    subst paused
    simp only [settleSplitter, kept]
    refine invariant_of_idle invariant lost.active ?_ ?_
    · rw [lost.locked]
      exact ticked.keep found same
    · rw [lost.locked]
      refine invariant.owners.put (fun mine mine_eq => ?_) fun _ _ _ _ fenced => fenced
      cases mine_eq
      intro owner
      rw [Owns, same] at owner
      exact absurd owner unowned

theorem clock_admits (admitted : clockAdmits clock nowNanos = true) :
    clock ≤ nowNanos ∧ nowNanos ≤ u64Max := by
  simpa [clockAdmits] using admitted

theorem acquireSplitter_some {next : SplitterState} (bound : nowNanos ≤ u64Max)
    (acquired : acquireSplitter st nowNanos = some (next, lease)) :
    next = { st with splitterLockStateTs := some lease } ∧
      st.splitterLockStateTs.getD 0 ≤ nowNanos / nanosPerSecond ∧
      nowNanos / nanosPerSecond < lease := by
  simp only [acquireSplitter, Option.map_eq_some_iff, Prod.mk.injEq] at acquired
  rcases acquired with ⟨token, acquired, rfl, rfl⟩
  have seconds : nowNanos / nanosPerSecond + splitterLeaseSeconds ≤ u64Max := by
    simp only [nanosPerSecond, splitterLeaseSeconds, u64Max] at bound ⊢
    omega
  exact ⟨rfl, acquireLease_some (by simp [splitterLeaseSeconds]) seconds acquired⟩

theorem each_append (known : ∀ call ∈ ledger, call.tag.job < plans.length)
    (each : ∀ serial plan, plans[serial]? = some plan → PlanInvariant relayId ledger serial plan)
    (exact : ExactSplit plan) (serial : Nat) (other : SplitterPlan)
    (found : (plans ++ [plan])[serial]? = some other) :
    PlanInvariant relayId ledger serial other := by
  rcases Nat.lt_trichotomy serial plans.length with old | last | beyond
  · rw [List.getElem?_append_left old] at found
    exact each serial other found
  · subst last
    simp only [List.getElem?_concat_length, Option.some.injEq] at found
    subst found
    refine ⟨exact, fun call member same => ?_⟩
    have older := known call member
    omega
  · rw [List.getElem?_eq_none (by simp only [List.length_append, List.length_singleton]; omega)]
      at found
    cases found

/-- What a segment run under the splitter lease does to the slot, by the plan it starts. -/
inductive OwnedSegment (relayId : Principal) (sys : SplitterSystem) (lease : Nat) :
    List SplitterPlan → SplitterState × SplitterPause → Prop where
  | drives (job : ActiveSplitterJob) {result : SplitterState × SplitterPause}
      (stored : sys.state.activeJob = some job)
      (segment : JobSegment relayId sys.ledger (sys.plans.length - 1) job.plan lease
        (some lease) result) : OwnedSegment relayId sys lease [] result
  | rests {result : SplitterState × SplitterPause} (vacant : sys.state.activeJob = none)
      (segment : VacantSegment lease (some lease) result) : OwnedSegment relayId sys lease [] result
  | starts (plan : SplitterPlan) {result : SplitterState × SplitterPause}
      (vacant : sys.state.activeJob = none) (exact : ExactSplit plan)
      (segment : JobSegment relayId sys.ledger sys.plans.length plan lease (some lease) result) :
      OwnedSegment relayId sys lease [plan] result

theorem resume_owned (invariant : SplitterInvariant relayId sys) (found : sys.tasks id = some kont)
    (owner : sys.state.splitterLockStateTs = some kont.lease)
    (replies : splitterRepliesTo sys kont reply = true)
    (resumed : resumeSplitter sys.state kont reply = some result) :
    OwnedSegment relayId sys kont.lease (installsSplitter sys.state kont reply) result := by
  have ok := invariant.owners id kont found owner
  cases kont with
  | waitFunds driver claimed leg =>
      cases reply <;> cases resumed
      rename_i balance
      have holds := (invariant.active claimed ok.1).2
      have segment := drive_ok drivePasses (onWaitFunds_ok owner holds ok balance)
      rw [owner] at segment
      exact .drives claimed ok.1 segment
  | waitFee driver claimed leg =>
      cases reply <;> cases resumed
      rename_i fee
      have holds := (invariant.active claimed ok.1).2
      have segment := drive_ok drivePasses (onWaitFee_ok owner holds ok fee)
      rw [owner] at segment
      exact .drives claimed ok.1 segment
  | transfer driver claimed leg hadPrior call =>
      cases reply <;> cases resumed
      have holds := (invariant.active claimed ok.1).2
      have segment := drive_ok drivePasses
        (onSplitterTransfer_ok invariant.typed owner holds ok replies)
      rw [owner] at segment
      exact .drives claimed ok.1 segment
  | stageFee lease nowNanos resumedJob =>
      cases reply <;> cases resumed
      rename_i fee
      have segment := onStageFee_ok nowNanos resumedJob fee owner ok
      rw [owner] at segment
      exact .rests ok segment
  | stageBalance lease nowNanos resumedJob feeE8s number remaining =>
      cases reply <;> cases resumed
      rename_i balance
      have owned : sys.state.splitterLockStateTs = some lease := owner
      cases planned : planOnBalance sys.state lease nowNanos feeE8s number balance with
      | none =>
          have segment := onStageBalance_vacant nowNanos resumedJob feeE8s number remaining
            balance owned ok planned
          rw [owned] at segment
          simp only [installsSplitter, planned, Option.toList_none]
          exact .rests ok segment
      | some plan =>
          have outcome : ExactSplit plan ∧ JobSegment relayId sys.ledger sys.plans.length plan
              lease sys.state.splitterLockStateTs
              (onStageBalance sys.state lease nowNanos resumedJob feeE8s number remaining balance) :=
            onStageBalance_planned nowNanos resumedJob feeE8s number remaining balance owned
              invariant.known planned
          rw [owned] at outcome
          simp only [installsSplitter, planned, Option.toList_some]
          exact .starts plan ok outcome.1 outcome.2

/-- A tick that found the lease taken, or no job to retry, or that runs under a fresh lease. -/
inductive Started (relayId : Principal) (sys : SplitterSystem) (now : Nat)
    (result : SplitterState × SplitterPause) : Prop where
  | refused (same : result = (sys.state, .done))
  | acquired (lease : Nat) (free : sys.state.splitterLockStateTs.getD 0 ≤ now / nanosPerSecond)
      (later : now / nanosPerSecond < lease) (segment : OwnedSegment relayId sys lease [] result)

theorem drive_started (invariant : SplitterInvariant relayId sys) (bound : now ≤ u64Max)
    (acquired : acquireSplitter sys.state now = some (st, lease)) (stage : Stage)
    (stored : sys.state.activeJob = some job) :
    Started relayId sys now (drive drivePasses ⟨lease, now, stage⟩ (.again st)) := by
  rcases acquireSplitter_some bound acquired with ⟨rfl, free, later⟩
  have holds := (invariant.active job stored).2
  have segment : JobSegment relayId sys.ledger (sys.plans.length - 1) job.plan lease
      (some lease) (drive drivePasses ⟨lease, now, stage⟩
        (.again { sys.state with splitterLockStateTs := some lease })) :=
    drive_ok drivePasses ⟨⟨job, stored, .refl holds⟩, rfl⟩
  exact .acquired lease free later (.drives job stored segment)

theorem retry_started (invariant : SplitterInvariant relayId sys) (bound : now ≤ u64Max) :
    Started relayId sys now (retryActiveSplitter sys.state now) := by
  unfold retryActiveSplitter
  split
  · exact .refused rfl
  · rename_i present
    split
    · exact .refused rfl
    · rename_i st lease acquired
      rcases Option.ne_none_iff_exists'.mp present with ⟨job, stored⟩
      exact drive_started invariant bound acquired _ stored

theorem mainStage_started (invariant : SplitterInvariant relayId sys) (bound : now ≤ u64Max) :
    Started relayId sys now (processMainStage sys.state now) := by
  unfold processMainStage
  split
  · exact .refused rfl
  · rename_i st lease acquired
    have fresh := acquireSplitter_some bound acquired
    split
    · rename_i empty
      rw [fresh.1] at empty ⊢
      exact .acquired lease fresh.2.1 fresh.2.2 (.rests empty ⟨empty, rfl, rfl, empty⟩)
    · rename_i job stored
      have active : sys.state.activeJob = some job := by
        rw [fresh.1] at stored
        exact stored
      exact drive_started invariant bound acquired _ active

theorem invariant_of_owned {more : List SplitterPlan} (invariant : SplitterInvariant relayId sys)
    (forward : sys.clock ≤ now)
    (turn : Turn SplitterKont.lease sys.tasks id lease (now / nanosPerSecond))
    (owned : OwnedSegment relayId sys lease more result) :
    SplitterInvariant relayId (settleSplitter relayId sys id now (sys.plans ++ more) result) := by
  cases owned with
  | drives job stored segment =>
      rw [List.append_nil]
      exact invariant_of_job_segment invariant invariant.known invariant.each
        (invariant.active job stored).1 turn segment forward
  | rests vacant segment =>
      rw [List.append_nil]
      exact invariant_of_vacant_segment invariant vacant turn segment forward
  | starts plan vacant exact segment =>
      have length : (sys.plans ++ [plan]).length - 1 = sys.plans.length := by simp
      have present : (sys.plans ++ [plan])[(sys.plans ++ [plan]).length - 1]? = some plan := by
        rw [length]
        exact List.getElem?_concat_length
      refine invariant_of_job_segment invariant ?_ ?_ present turn ?_ forward
      · intro call member
        have older := invariant.known call member
        simp only [List.length_append, List.length_singleton]
        omega
      · exact each_append invariant.known invariant.each exact
      · rw [length]
        exact segment

theorem invariant_of_unstarted (invariant : SplitterInvariant relayId sys)
    (vacant : sys.tasks id = none) (forward : sys.clock ≤ now) :
    SplitterInvariant relayId
      (settleSplitter relayId sys id now sys.plans (sys.state, .done)) := by
  have ticked : Leased SplitterKont.lease sys.state.splitterLockStateTs
      (now / nanosPerSecond) sys.tasks := invariant.leased.tick (Nat.div_le_div_right forward)
  have kept : plansAfter sys.plans sys.state = sys.plans := by
    unfold plansAfter
    cases stored : sys.state.activeJob with
    | none => rfl
    | some job =>
        rcases List.getElem?_eq_some_iff.mp (invariant.active job stored).1 with ⟨bound, here⟩
        dsimp only
        rw [← here]
        exact List.set_getElem_self bound
  have unchanged : sys.tasks.put id none = sys.tasks := Pool.put_vacant vacant
  simp only [settleSplitter, kept, unchanged]
  exact invariant_of_idle invariant rfl ticked invariant.owners

theorem invariant_of_started (invariant : SplitterInvariant relayId sys)
    (vacant : sys.tasks id = none) (forward : sys.clock ≤ now)
    (started : Started relayId sys now result) :
    SplitterInvariant relayId (settleSplitter relayId sys id now sys.plans result) := by
  cases started with
  | refused same =>
      rw [same]
      exact invariant_of_unstarted invariant vacant forward
  | acquired lease free later segment =>
      have turn :=
        invariant.leased.turn_of_acquire vacant (Nat.div_le_div_right forward) free later
      simpa using invariant_of_owned invariant forward turn segment

theorem invariant_of_ledger {call : Nat} (invariant : SplitterInvariant relayId sys)
    (legal : ledgerAnswer outcome = true) (answered : sys.ledger.answer call outcome = some ledger) :
    SplitterInvariant relayId { sys with ledger := ledger } where
  typed := typedLog_answer invariant.typed legal answered
  deduplicated := CallLog.deduplicated_answer invariant.deduplicated answered
  known := by
    intro sent member
    rcases CallLog.mem_answer answered member with ⟨old, present, tags, _, _⟩
    rw [← tags]
    exact invariant.known old present
  each := fun serial plan found => (invariant.each serial plan found).answer answered
  active := fun job stored =>
    ⟨(invariant.active job stored).1, (invariant.active job stored).2.answer answered⟩
  leased := invariant.leased
  owners := invariant.owners.mono fun _ fenced owner => (fenced owner).answer answered

theorem step_start {next : SplitterSystem}
    (taken : (if clockAdmits sys.clock now && (sys.tasks id).isNone then
      some (settleSplitter relayId sys id now sys.plans result) else none) = some next) :
    sys.tasks id = none ∧ sys.clock ≤ now ∧ now ≤ u64Max ∧
      next = settleSplitter relayId sys id now sys.plans result := by
  split at taken
  · rename_i enabled
    simp only [Bool.and_eq_true, Option.isNone_iff_eq_none] at enabled
    rcases clock_admits enabled.1 with ⟨forward, bound⟩
    cases taken
    exact ⟨enabled.2, forward, bound, rfl⟩
  · cases taken

/-- The resumption behind an enabled `resume` event: with the lease an owned segment, without
it one that leaves the slot alone. -/
theorem step_resume {next : SplitterSystem} (invariant : SplitterInvariant relayId sys)
    (taken : stepSplitter relayId sys (.resume id reply now) = some next) :
    ∃ kont result, sys.tasks id = some kont ∧ sys.clock ≤ now ∧
      ((∃ more, sys.state.splitterLockStateTs = some kont.lease ∧
          OwnedSegment relayId sys kont.lease more result ∧
          next = settleSplitter relayId sys id now (sys.plans ++ more) result) ∨
        (sys.state.splitterLockStateTs ≠ some kont.lease ∧ Lost sys.state kont.lease result ∧
          next = settleSplitter relayId sys id now sys.plans result)) := by
  simp only [stepSplitter] at taken
  split at taken
  · cases taken
  · rename_i kont found
    split at taken
    · rename_i enabled
      simp only [Bool.and_eq_true] at enabled
      have forward := (clock_admits enabled.1).1
      rcases Option.map_eq_some_iff.mp taken with ⟨result, resumed, rfl⟩
      refine ⟨kont, result, found, forward, ?_⟩
      by_cases owner : sys.state.splitterLockStateTs = some kont.lease
      · exact .inl ⟨_, owner, resume_owned invariant found owner enabled.2 resumed, rfl⟩
      · rcases resume_lost owner resumed with ⟨lost, none_installed⟩
        rw [none_installed, List.append_nil]
        exact .inr ⟨owner, lost, rfl⟩
    · cases taken

theorem invariant_step {next : SplitterSystem} {event : SplitterEvent}
    (invariant : SplitterInvariant relayId sys) (taken : stepSplitter relayId sys event = some next) :
    SplitterInvariant relayId next := by
  cases event with
  | mainStage id now =>
      rcases step_start taken with ⟨vacant, forward, bound, rfl⟩
      exact invariant_of_started invariant vacant forward (mainStage_started invariant bound)
  | retry id now =>
      rcases step_start taken with ⟨vacant, forward, bound, rfl⟩
      exact invariant_of_started invariant vacant forward (retry_started invariant bound)
  | resume id reply now =>
      rcases step_resume invariant taken with ⟨kont, result, found, forward,
        ⟨more, owner, owned, rfl⟩ | ⟨unowned, lost, rfl⟩⟩
      · have ticked : Leased SplitterKont.lease sys.state.splitterLockStateTs
            (now / nanosPerSecond) sys.tasks :=
          invariant.leased.tick (Nat.div_le_div_right forward)
        exact invariant_of_owned invariant forward (ticked.turn_of_owner found owner) owned
      · exact invariant_of_lost invariant forward found unowned lost
  | abandon id cleanup =>
      simp only [stepSplitter] at taken
      split at taken <;> cases taken
      rename_i kont found
      cases cleanup with
      | false =>
          refine invariant_of_idle invariant rfl (invariant.leased.stop found (.inl rfl)) ?_
          exact invariant.owners.put (fun _ impossible => by cases impossible)
            fun _ _ _ _ fenced => fenced
      | true =>
          have trapped : SplitterInvariant relayId
              (settleSplitter relayId sys id sys.clock [] (sys.state, .trap)) :=
            invariant_of_trap invariant (Nat.le_refl sys.clock) _ _
          simpa [settleSplitter, found] using trapped
  | ledger call outcome =>
      simp only [stepSplitter] at taken
      split at taken
      · rename_i legal
        rcases Option.map_eq_some_iff.mp taken with ⟨ledger, answered, rfl⟩
        exact invariant_of_ledger invariant legal answered
      · cases taken
  | upgrade ledgerCanisterId =>
      rcases Option.ite_none_right_eq_some.mp taken with ⟨_, same⟩
      cases same
      exact invariant_of_idle invariant rfl (Leased.empty _ _) (Pool.holds_empty _)

theorem invariant_init (begun : (splitterMachine relayId).init sys) :
    SplitterInvariant relayId sys := by
  rcases begun with ⟨ledgerId, nowNanos, rfl⟩
  refine ⟨?_, List.nodup_nil, ?_, ?_, ?_, Leased.empty _ _, Pool.holds_empty _⟩
  · intro call member
    cases member
  · intro call member
    cases member
  · intro serial plan found
    simp at found
  · intro job stored
    cases stored

theorem splitter_invariant (reachable : (splitterMachine relayId).Reachable sys) :
    SplitterInvariant relayId sys :=
  (splitterMachine relayId).reachable_invariant (SplitterInvariant relayId)
    (fun _ => invariant_init) (fun _ _ _ invariant taken => invariant_step invariant taken)
    reachable

end JupiterSuite.Relay
