import JupiterSuite.Faucet.PayoutTurns
import JupiterSuite.Faucet.FundingMoves

/-! The payout jobs are sound in every reachable state: the owner of the lease finds the job as it
left it, and the others leave it alone. -/

namespace JupiterSuite.Faucet

open Base Memo

structure PayoutInvariant (sys : PayoutSystem) : Prop where
  leased : Leased PayoutKont.lease sys.state.mainLockStateTs (sys.clock / nanosPerSecond) sys.tasks
  konts : sys.tasks.Holds KontHolds
  ticks : sys.tasks.Holds fun kont => kont.tick.nowNanos ≤ sys.clock ∧ kont.tick.nowNanos ≤ u64Max
  fits : sys.tasks.Holds (Fenced PayoutKont.lease sys.state.mainLockStateTs fun kont =>
    KontFits sys.ledger sys.state kont ∧ Timely kont.tick.nowNanos sys.state)
  sound : StateSound sys.ledger sys.refunds sys.clock sys.state

variable {kont : PayoutKont} {ledger : LedgerLog PayoutTag} {nowNanos : Nat}
  {result : FaucetState × PayoutPause} {reply : PayoutReply}

section Turns

variable {sys : PayoutSystem} {id now : Nat} {tick : MainTick} {st : FaucetState}
  {limits : ScanLimits} {fromText : Text → Option Principal}

theorem lease_eq (kont : PayoutKont) : kont.lease = kont.tick.lease := by
  cases kont <;> rfl

/-- A turn under the lease `lease` that ends in the given state. -/
structure TurnOf (sys : PayoutSystem) (id now : Nat) (tick : MainTick) : Prop where
  turn : Turn PayoutKont.lease sys.tasks id tick.lease (now / nanosPerSecond)
  forward : sys.clock ≤ now
  past : tick.nowNanos ≤ now
  bounded : tick.nowNanos ≤ u64Max

theorem PayoutInvariant.stop (invariant : PayoutInvariant sys) (turn : TurnOf sys id now tick)
    (lock : st.mainLockStateTs = some tick.lease ∨ st.mainLockStateTs = some 0)
    (sound : StateSound sys.ledger sys.refunds tick.nowNanos st) :
    PayoutInvariant { sys with state := st, tasks := sys.tasks.put id none, clock := now } where
  leased := turn.turn.stop _ lock
  konts := by
    refine invariant.konts.put ?_ fun _ _ _ _ holds => holds
    intro kont impossible
    cases impossible
  ticks := by
    refine invariant.ticks.put ?_ fun _ _ _ _ ticks => ⟨ticks.1.trans turn.forward, ticks.2⟩
    intro kont impossible
    cases impossible
  fits := by
    refine invariant.fits.put ?_ ?_
    · intro kont impossible
      cases impossible
    · intro other kont different also _
      exact turn.turn.others _ lock other kont different also _
  sound := sound.later turn.past

theorem PayoutInvariant.await (invariant : PayoutInvariant sys) (turn : TurnOf sys id now tick)
    (lock : st.mainLockStateTs = some tick.lease) (keeps : kont.tick = tick)
    (holds : KontHolds kont) (fits : KontFits ledger st kont)
    (sound : StateSound ledger sys.refunds tick.nowNanos st) :
    PayoutInvariant { sys with
      state := st, tasks := sys.tasks.put id (some kont), ledger := ledger, clock := now } where
  leased := by
    show Leased _ st.mainLockStateTs _ _
    rw [lock]
    apply turn.turn.await
    rw [lease_eq, keeps]
  konts := by
    refine invariant.konts.put ?_ fun _ _ _ _ holds => holds
    intro own same
    cases same
    exact holds
  ticks := by
    refine invariant.ticks.put ?_ fun _ _ _ _ ticks => ⟨ticks.1.trans turn.forward, ticks.2⟩
    intro own same
    cases same
    rw [keeps]
    exact ⟨turn.past, turn.bounded⟩
  fits := by
    refine invariant.fits.put ?_ ?_
    · intro own same _
      cases same
      rw [keeps]
      exact ⟨fits, sound.timely (Nat.le_refl _)⟩
    · intro other theirs different also _
      exact turn.turn.others _ (.inl lock) other theirs different also _
  sound := sound.later turn.past

theorem Advances.lock {rejected refunded : PayoutTag → Prop} {after : FaucetState}
    (advances : Advances nowNanos rejected refunded st after) :
    after.mainLockStateTs = st.mainLockStateTs := by
  induction advances with
  | refl => rfl
  | tail _ advance ih =>
      rw [← ih]
      cases advance <;> rfl

theorem leave_owned (owned : st.mainLockStateTs = some tick.lease) (ok : Bool) :
    leavePayout st tick ok = (st, .await (.rescue tick)) ∨
      ∃ after, leavePayout st tick ok = (after, .done) ∧ SameJobs st after ∧
        after.mainLockStateTs = some 0 := by
  have current : st.isCurrent tick.lease = true := isCurrent_iff.mpr owned
  simp only [leavePayout, leaveWith, endProcess, current, Bool.and_true]
  split
  · refine .inr ⟨_, rfl, ⟨rfl, rfl, rfl, rfl, rfl⟩, ?_⟩
    simp only [FaucetState.dropGuard, releaseLease, owned, if_true]
  · split
    · exact .inl rfl
    · refine .inr ⟨_, rfl, ?_, ?_⟩
      · simp only [FaucetState.finishGuard, current, if_true]
        exact ⟨rfl, rfl, rfl, rfl, rfl⟩
      · simp only [FaucetState.finishGuard, current, if_true]

theorem leave_sound (invariant : PayoutInvariant sys) (turn : TurnOf sys id now tick)
    (owned : st.mainLockStateTs = some tick.lease)
    (sound : StateSound sys.ledger sys.refunds tick.nowNanos st) (ok : Bool) :
    PayoutInvariant (settlePayout sys id now (leavePayout st tick ok)) := by
  rcases leave_owned owned ok with same | ⟨after, same, kept, lock⟩
  · rw [same]
    exact invariant.await turn owned rfl trivial trivial sound
  · rw [same]
    exact invariant.stop turn (.inr lock) (sound.congr kept)

theorem refusedExcept_sent {refunds : List Refund} {job : ActivePayoutJob}
    {pending : PendingTransfer} {arg : TransferArg} (sound : StateSound ledger refunds nowNanos st)
    (active : st.activePayoutJob = some job) (held : job.Holds pending .awaitingTransfer)
    (certain : st.pendingTransferMayHaveDispatched job.id pending = false) :
    (ledger.dispatch job.latestTag arg).RefusedExcept job.latestTag ledger.length := by
  apply CallLog.refusedExcept_dispatch
  apply sound.unsent job pending active held
  simp only [FaucetState.pendingTransferMayHaveDispatched] at certain
  split at certain
  · rename_i record found
    split at certain
    · rename_i matched
      rw [Disproved, found, ← matched.1, ← matched.2, ← certain]
    · cases certain
  · cases certain

theorem end_sound (invariant : PayoutInvariant sys) (turn : TurnOf sys id now tick)
    (owned : st.mainLockStateTs = some tick.lease)
    (sound : StateSound sys.ledger sys.refunds tick.nowNanos st)
    (trapped : ∀ failed, PayoutInvariant (settlePayout sys id now (st, .trapped failed tick.lease)))
    (ends : PayoutEnd tick st result) : PayoutInvariant (settlePayout sys id now result) := by
  have current : st.isCurrent tick.lease = true := isCurrent_iff.mpr owned
  cases ends with
  | leave ok => exact leave_sound invariant turn owned sound ok
  | finalize jobId =>
      simp only [startFinalize]
      split
      · rename_i job active
        split
        · exact invariant.await turn owned rfl trivial active sound
        · exact leave_sound invariant turn owned sound true
      · exact leave_sound invariant turn owned sound true
  | page pagesLeft active idle => exact invariant.await turn owned rfl trivial idle sound
  | lookup second idle fee worth =>
      exact invariant.await turn owned rfl worth ⟨idle current, fee current⟩ sound
  | drive caller ends unfinished =>
      cases ends with
      | gaveUp => exact absurd rfl (unfinished false)
      | finished idle => exact absurd rfl (unfinished true)
      | @dispatch run job account second driving ofTick destination =>
          subst ofTick
          have sent := sound.send driving.active driving.held destination
          rw [driving.id, ← driving.fee] at sent
          have tag : (st.setPendingTransferDispatch run.jobId run.expected true).stagedTag =
            job.latestTag := driving.tag
          have fee : (st.setPendingTransferDispatch run.jobId run.expected true).PaysFee
              run.feeE8s := by
            intro other also
            cases driving.active.symm.trans also
            exact driving.fee
          simp only [afterDrive, settlePayout, tag]
          refine invariant.await turn owned rfl driving.held.2 ⟨fee, ?_, ?_⟩ sent
          · rw [CallLog.getElem?_dispatch_new, tag]
            rfl
          · intro certain
            rw [tag]
            rw [← driving.id] at certain
            exact refusedExcept_sent sound driving.active driving.held certain
      | @claim run job driving ofTick =>
          subst ofTick
          refine invariant.await turn owned rfl driving.held.2 ?_ sound
          intro other also
          cases driving.active.symm.trans also
          exact driving.fee
      | @notify run job first driving ofTick =>
          subst ofTick
          refine invariant.await turn owned rfl driving.held.2 ⟨?_, rfl⟩ sound
          intro other also
          cases driving.active.symm.trans also
          exact driving.fee
      | trap failed other => exact trapped failed
  | trap failed other => exact trapped failed
  | overdrawn active exceeds => exact trapped _

theorem plays_sound (invariant : PayoutInvariant sys) (turn : TurnOf sys id now tick)
    (owned : st.mainLockStateTs = some tick.lease)
    (sound : StateSound sys.ledger sys.refunds tick.nowNanos st)
    (trapped : ∀ failed, PayoutInvariant (settlePayout sys id now (st, .trapped failed tick.lease)))
    (plays : Plays tick sys.ledger.Refused (RefundedTag sys.refunds) st result) :
    PayoutInvariant (settlePayout sys id now result) := by
  rcases plays with ⟨middle, advances, ends⟩
  have kept := advances.lock.trans owned
  exact end_sound invariant turn kept (advances.sound turn.bounded sound) trapped ends

end Turns

section Steps

variable {sys : PayoutSystem} {id now : Nat} {tick : MainTick} {limits : ScanLimits}
  {fromText : Text → Option Principal}

theorem dropGuard_same (st : FaucetState) (lease : Nat) : SameJobs st (st.dropGuard lease) :=
  ⟨rfl, rfl, rfl, rfl, rfl⟩

theorem turn_sound (invariant : PayoutInvariant sys) (found : sys.tasks id = some kont)
    (owner : Owns PayoutKont.lease sys.state.mainLockStateTs kont) (forward : sys.clock ≤ now)
    (turned : PayoutTurn kont.tick sys.ledger.Refused (RefundedTag sys.refunds) sys.state result) :
    PayoutInvariant (settlePayout sys id now result) := by
  have later := invariant.leased.tick (Nat.div_le_div_right (c := nanosPerSecond) forward)
  have ticks := invariant.ticks id kont found
  have own := later.turn_of_owner found owner
  rw [lease_eq] at own
  have turn : TurnOf sys id now kont.tick := ⟨own, forward, ticks.1.trans forward, ticks.2⟩
  have owned : sys.state.mainLockStateTs = some kont.tick.lease := by
    rw [← lease_eq]
    exact owner
  have sound := invariant.sound.retime (invariant.fits id kont found owner).2
  have trapped : ∀ st failed,
      PayoutInvariant (settlePayout sys id now (st, .trapped failed kont.tick.lease)) := by
    intro st failed
    apply invariant.stop turn _ (sound.congr (dropGuard_same _ _))
    exact .inr (by simp only [FaucetState.dropGuard, releaseLease, owned, if_true])
  cases turned with
  | plays plays => exact plays_sound invariant turn owned sound (trapped _) plays
  | @create _ feeE8s denomE8s tranche vacant admitted plays =>
      simp only [trancheAdmits, Bool.and_eq_true, decide_eq_true_eq] at admitted
      have created := sound.create vacant feeE8s denomE8s admitted.1.1.1.2
      refine plays_sound invariant turn ?_ created (trapped _) plays
      rcases ensureActiveJob_creates vacant kont.tick.nowNanos feeE8s denomE8s tranche with
        ⟨job, nonce, same, _⟩
      rw [same]
      exact owned
  | finish active => exact invariant.await turn owned rfl trivial trivial (sound.finish active)
  | rescued =>
      have current : sys.state.isCurrent kont.tick.lease = true := isCurrent_iff.mpr owned
      simp only [FaucetState.finishGuard, current, if_true]
      exact invariant.stop turn (.inr rfl) (sound.congr ⟨rfl, rfl, rfl, rfl, rfl⟩)

theorem lost_sound (invariant : PayoutInvariant sys) (found : sys.tasks id = some kont)
    (lost : ¬ Owns PayoutKont.lease sys.state.mainLockStateTs kont) (forward : sys.clock ≤ now)
    (resumed : resumePayout limits fromText sys.state kont reply = some result) :
    PayoutInvariant (settlePayout sys id now result) := by
  have later := invariant.leased.tick (Nat.div_le_div_right (c := nanosPerSecond) forward)
  have current : sys.state.isCurrent kont.tick.lease = false := by
    rw [← lease_eq]
    exact decide_eq_false lost
  have ticks : ∀ {kont : PayoutKont}, kont.tick.nowNanos ≤ sys.clock ∧ kont.tick.nowNanos ≤ u64Max →
      kont.tick.nowNanos ≤ now ∧ kont.tick.nowNanos ≤ u64Max :=
    fun bounds => ⟨bounds.1.trans forward, bounds.2⟩
  rcases resume_lost current resumed with rfl | ⟨tick, frame, stake, rfl, rfl⟩
  · refine ⟨later.stop found (.inl rfl), ?_, ?_, ?_, invariant.sound.later forward⟩
    · exact invariant.konts.put (fun _ impossible => by cases impossible) fun _ _ _ _ holds => holds
    · exact invariant.ticks.put (fun _ impossible => by cases impossible) fun _ _ _ _ => ticks
    · exact invariant.fits.put (fun _ impossible => by cases impossible) fun _ _ _ _ fits => fits
  · refine ⟨later.keep found rfl, ?_, ?_, ?_, invariant.sound.later forward⟩
    · refine invariant.konts.put ?_ fun _ _ _ _ holds => holds
      intro own same
      cases same
      have holds := invariant.konts id _ found
      exact holds
    · refine invariant.ticks.put ?_ fun _ _ _ _ => ticks
      intro own same
      cases same
      have bounds := invariant.ticks id _ found
      exact ticks bounds
    · refine invariant.fits.put ?_ fun _ _ _ _ fits => fits
      intro own same owns
      cases same
      exact absurd owns lost

theorem classify_rejected {reply : Option TransferReply} {retryable : Bool}
    (classified : classifyTransferReply reply = .definiteNoDebit retryable) :
    ∃ error, reply = some (.error error) ∧ error.isDuplicate = false := by
  cases reply with
  | none => cases classified
  | some reply =>
      cases reply with
      | ok block =>
          simp only [classifyTransferReply, acceptedAt] at classified
          split at classified <;> cases classified
      | error error =>
          refine ⟨error, rfl, ?_⟩
          cases error with
          | duplicate block =>
              simp only [classifyTransferReply, acceptedAt] at classified
              split at classified <;> cases classified
          | _ => rfl

theorem informed (fits : KontFits sys.ledger sys.state kont)
    (replies : payoutRepliesTo sys kont reply = true) :
    Informs sys.state sys.ledger.Refused (RefundedTag sys.refunds) kont reply where
  found := by
    rintro tick feeE8s denomE8s tranche rfl rfl
    exact replies
  rejected := by
    rintro caller run second call result retryable rfl rfl classified
    rcases classify_rejected classified with ⟨error, rfl, definite⟩
    rcases delivered_some.mp replies with ⟨outcome, answered, same⟩
    have rejection : outcome = .rejected error := by
      cases outcome with
      | accepted block => cases same
      | duplicate block =>
          cases same
          cases definite
      | rejected other =>
          cases same
          rfl
    rw [rejection] at answered
    exact CallLog.refused_of_except (fits.2.2 rfl) answered
  refunded := by
    rintro caller run first tag outcome rfl rfl proven
    cases outcome with
    | refunded block =>
        cases block with
        | none => cases proven
        | some index =>
            rcases List.any_eq_true.mp replies with ⟨refund, member, same⟩
            exact ⟨refund, member, (of_decide_eq_true same).trans fits.2⟩
    | _ => cases proven

theorem resume_sound_payout (invariant : PayoutInvariant sys) (found : sys.tasks id = some kont)
    (forward : sys.clock ≤ now) (replies : payoutRepliesTo sys kont reply = true)
    (resumed : resumePayout limits fromText sys.state kont reply = some result) :
    PayoutInvariant (settlePayout sys id now result) := by
  by_cases owner : Owns PayoutKont.lease sys.state.mainLockStateTs kont
  · have fits := (invariant.fits id kont found owner).1
    have turned := resume_owned (invariant.konts id kont found) fits (informed fits replies) resumed
    exact turn_sound invariant found owner forward turned
  · exact lost_sound invariant found owner forward resumed

theorem beginPayout_cases (limits : ScanLimits) (st : FaucetState) (nowNanos : Nat)
    (force poke : Bool) : beginPayout limits st nowNanos force poke = (st, .done) ∨
      ∃ lease, acquireLease (nowNanos / nanosPerSecond) mainTickLeaseSeconds st.mainLockStateTs =
          some lease ∧
        (beginPayout limits st nowNanos force poke = ({ st with mainLockStateTs := some 0 }, .done) ∨
          beginPayout limits st nowNanos force poke =
            ({ st with mainLockStateTs := some lease }, .await (.discovery ⟨lease, nowNanos, poke⟩)) ∨
          beginPayout limits st nowNanos force poke =
            payoutLoop limits { st with mainLockStateTs := some lease } ⟨lease, nowNanos, poke⟩
              limits.maxIndexPagesPerPayoutTick) := by
  rw [beginPayout]
  generalize ticked : beginTick st nowNanos force poke = result
  cases acquired : acquireLease (nowNanos / nanosPerSecond) mainTickLeaseSeconds
      st.mainLockStateTs with
  | none =>
      simp only [beginTick, acquired] at ticked
      subst ticked
      exact .inl rfl
  | some lease =>
      refine .inr ⟨lease, rfl, ?_⟩
      simp only [beginTick, acquired] at ticked
      split at ticked
      · subst ticked
        simp [leaveWith, FaucetState.dropGuard, FundingPause.outside]
      · have current : FaucetState.isCurrent { st with mainLockStateTs := some lease } lease :=
          decide_eq_true rfl
        simp only [processPayout, current, Bool.not_true, Bool.false_eq_true, if_false] at ticked
        split at ticked
        · subst ticked
          exact .inr (.inl rfl)
        · subst ticked
          exact .inr (.inr rfl)

theorem PayoutInvariant.pass (invariant : PayoutInvariant sys) (vacant : sys.tasks id = none)
    (forward : sys.clock ≤ now) :
    PayoutInvariant { sys with tasks := sys.tasks.put id none, clock := now } := by
  have later := invariant.leased.tick (Nat.div_le_div_right (c := nanosPerSecond) forward)
  have ticks : sys.tasks.Holds fun kont =>
      kont.tick.nowNanos ≤ now ∧ kont.tick.nowNanos ≤ u64Max :=
    invariant.ticks.mono fun _ bounds => ⟨bounds.1.trans forward, bounds.2⟩
  rw [Pool.put_vacant vacant]
  exact ⟨later, invariant.konts, ticks, invariant.fits, invariant.sound.later forward⟩

theorem begin_sound_payout {force poke : Bool} (invariant : PayoutInvariant sys)
    (vacant : sys.tasks id = none) (forward : sys.clock ≤ now) (bounded : now ≤ u64Max) :
    PayoutInvariant (settlePayout sys id now (beginPayout limits sys.state now force poke)) := by
  have later := invariant.leased.tick (Nat.div_le_div_right (c := nanosPerSecond) forward)
  have sound := invariant.sound.later forward
  rcases beginPayout_cases limits sys.state now force poke with same | ⟨lease, acquired, taken⟩
  · rw [same]
    exact invariant.pass vacant forward
  · have fits : now / nanosPerSecond + mainTickLeaseSeconds ≤ u64Max := by
      simp only [nanosPerSecond, mainTickLeaseSeconds, u64Max] at bounded ⊢
      omega
    have spec := acquireLease_some (by decide) fits acquired
    have turn : TurnOf sys id now ⟨lease, now, poke⟩ :=
      ⟨later.turn_of_acquire vacant (Nat.le_refl _) spec.1 spec.2, forward, Nat.le_refl now, bounded⟩
    have held : StateSound sys.ledger sys.refunds now { sys.state with
      mainLockStateTs := some lease } := sound.congr ⟨rfl, rfl, rfl, rfl, rfl⟩
    rcases taken with same | same | same
    · rw [same]
      exact invariant.stop turn (.inr rfl) (sound.congr ⟨rfl, rfl, rfl, rfl, rfl⟩)
    · rw [same]
      exact invariant.await turn rfl rfl trivial trivial held
    · rw [same]
      refine plays_sound invariant turn rfl held ?_ (payoutLoop_plays _)
      intro failed
      -- The lease was not written when the message failed.
      have other : sys.state.mainLockStateTs ≠ some lease := by
        intro taken
        rw [taken, Option.getD_some] at spec
        omega
      have kept : sys.state.dropGuard lease = sys.state := by
        simp only [FaucetState.dropGuard, releaseLease, if_neg other]
      simp only [settlePayout, kept]
      exact invariant.pass vacant forward

theorem abandon_sound_payout (cleanup : Bool) (invariant : PayoutInvariant sys)
    (found : sys.tasks id = some kont) : PayoutInvariant { sys with
      state := if cleanup then sys.state.dropGuard kont.lease else sys.state
      tasks := sys.tasks.put id none } := by
  by_cases owner : Owns PayoutKont.lease sys.state.mainLockStateTs kont
  · have ticks := invariant.ticks id kont found
    have own := invariant.leased.turn_of_owner found owner
    rw [lease_eq] at own
    have turn : TurnOf sys id sys.clock kont.tick := ⟨own, Nat.le_refl _, ticks.1, ticks.2⟩
    have sound := invariant.sound.retime (invariant.fits id kont found owner).2
    have owned : sys.state.mainLockStateTs = some kont.tick.lease := by
      rw [← lease_eq]
      exact owner
    cases cleanup with
    | false => exact invariant.stop turn (.inl owned) sound
    | true =>
        apply invariant.stop turn _ (sound.congr (dropGuard_same _ _))
        exact .inr (by simp only [FaucetState.dropGuard, releaseLease, lease_eq, owned, if_true])
  · have other : sys.state.mainLockStateTs ≠ some kont.lease := owner
    have kept : sys.state.dropGuard kont.lease = sys.state := by
      simp only [FaucetState.dropGuard, releaseLease, if_neg other]
    rw [kept, ite_self]
    refine ⟨invariant.leased.stop found (.inl rfl), ?_, ?_, ?_, invariant.sound⟩
    · exact invariant.konts.put (fun _ impossible => by cases impossible) fun _ _ _ _ holds => holds
    · exact invariant.ticks.put (fun _ impossible => by cases impossible) fun _ _ _ _ ticks => ticks
    · exact invariant.fits.put (fun _ impossible => by cases impossible) fun _ _ _ _ fits => fits

theorem upgrade_same (st : FaucetState) (args : UpgradeArgs) :
    SameJobs st (applyUpgradeArgs st args) := by
  have cleared : SameJobs st (st.clearRescue args.clearForcedRescue) := by
    rw [FaucetState.clearRescue]
    split <;> exact ⟨rfl, rfl, rfl, rfl, rfl⟩
  have raised : SameJobs st ((st.clearRescue args.clearForcedRescue).raiseFunding
      args.lastProcessedFundingTxId) := by
    simp only [FaucetState.raiseFunding]
    split
    · split
      · exact cleared
      · exact ⟨cleared.active, cleared.dispatch, cleared.past, cleared.cmc, cleared.subaccount⟩
    · exact cleared
  exact ⟨raised.active, raised.dispatch, raised.past, raised.cmc, raised.subaccount⟩

theorem upgrade_sound_payout (args : UpgradeArgs) (invariant : PayoutInvariant sys) :
    PayoutInvariant { sys with
      state := applyUpgradeArgs sys.state args, tasks := Pool.empty } :=
  ⟨Leased.empty _ _, Pool.holds_empty _, Pool.holds_empty _, Pool.holds_empty _,
    invariant.sound.congr (upgrade_same sys.state args)⟩

theorem KontFits.answer {next : LedgerLog PayoutTag} {st : FaucetState} {index : Nat}
    {outcome : TransferOutcome} (fits : KontFits ledger st kont)
    (answered : ledger.answer index outcome = some next) : KontFits next st kont := by
  cases kont with
  | transfer caller run second priorUncertainty call =>
      refine ⟨fits.1, ?_, fun certain => CallLog.refusedExcept_answer (fits.2.2 certain) answered⟩
      have tag := fits.2.1
      rw [CallLog.getElem?_answer answered]
      split
      · rw [Option.map_map]
        exact tag
      · exact tag
  | _ => exact fits

theorem payout_init (start : (payoutMachine limits fromText).init sys) : PayoutInvariant sys := by
  rcases start with ⟨config, nowNanos, history, rfl, _⟩
  refine ⟨Leased.empty _ _, Pool.holds_empty _, Pool.holds_empty _, Pool.holds_empty _, ?_⟩
  refine ⟨?_, ?_, ?_, ?_, rfl, ?_⟩
  · intro job impossible
    cases impossible
  · intro job impossible
    cases impossible
  · intro job pending impossible
    cases impossible
  · intro past impossible
    cases impossible
  · intro call impossible
    cases impossible

theorem payout_step {next : PayoutSystem} {event : PayoutEvent} (invariant : PayoutInvariant sys)
    (taken : stepPayout limits fromText sys event = some next) : PayoutInvariant next := by
  cases event with
  | begin id now force poke =>
      simp only [stepPayout, Option.ite_none_right_eq_some, Bool.and_eq_true,
        Option.some.injEq] at taken
      rcases taken with ⟨⟨admitted, vacant⟩, rfl⟩
      simp only [clockAdmits, Bool.and_eq_true, decide_eq_true_eq] at admitted
      exact begin_sound_payout invariant (by simpa using vacant) admitted.1 admitted.2
  | resume id reply now =>
      simp only [stepPayout] at taken
      split at taken
      · cases taken
      · rename_i kont found
        simp only [Option.ite_none_right_eq_some, Option.map_eq_some_iff, Bool.and_eq_true] at taken
        rcases taken with ⟨⟨admitted, replies⟩, result, resumed, rfl⟩
        simp only [clockAdmits, Bool.and_eq_true, decide_eq_true_eq] at admitted
        exact resume_sound_payout invariant found admitted.1 replies resumed
  | abandon id cleanup =>
      simp only [stepPayout] at taken
      split at taken
      · cases taken
      · rename_i kont found
        cases taken
        exact abandon_sound_payout cleanup invariant found
  | ledger call outcome =>
      simp only [stepPayout, Option.ite_none_right_eq_some, Option.map_eq_some_iff] at taken
      rcases taken with ⟨_, ledger, answered, rfl⟩
      refine ⟨invariant.leased, invariant.konts, invariant.ticks, ?_,
        invariant.sound.answer answered⟩
      intro id kont found owner
      have fits := invariant.fits id kont found owner
      exact ⟨fits.1.answer answered, fits.2⟩
  | refund refund =>
      simp only [stepPayout, Option.ite_none_right_eq_some, Option.some.injEq] at taken
      rcases taken with ⟨_, rfl⟩
      exact ⟨invariant.leased, invariant.konts, invariant.ticks, invariant.fits,
        invariant.sound.refund refund⟩
  | arrive tx =>
      simp only [stepPayout, Option.ite_none_right_eq_some, Option.some.injEq] at taken
      rcases taken with ⟨_, rfl⟩
      exact ⟨invariant.leased, invariant.konts, invariant.ticks, invariant.fits, invariant.sound⟩
  | upgrade args =>
      simp only [stepPayout, Option.ite_none_right_eq_some, Option.some.injEq] at taken
      rcases taken with ⟨_, rfl⟩
      exact upgrade_sound_payout args invariant

theorem payout_reachable (reachable : (payoutMachine limits fromText).Reachable sys) :
    PayoutInvariant sys :=
  (payoutMachine limits fromText).reachable_invariant PayoutInvariant
    (fun _ start => payout_init start) (fun _ _ _ invariant taken => payout_step invariant taken)
    reachable

end Steps

section Samples

def payoutConfig : FaucetConfig where
  policy := ⟨"staking", 10000000, none⟩
  payoutSubaccount := none
  payoutAccountIdentifier := "payout"
  fundingSourceAccountIdentifier := "funding"
  cmcCanisterId := ⟨[1]⟩
  governanceCanisterId := ⟨[2]⟩
  canonicalRelayCanisterId := ⟨[3]⟩
  expectedFirstStakingTxId := none
  mainIntervalSeconds := 60

/-- A commitment of one ICP for the cycles of a canister. -/
def topUpCommitment (id : Nat) : IndexTx where
  id
  operation := .transfer "payer" "staking" 100000000
  icrc1Memo := some [97]
  timestamp := some 0
  createdAtTime := none

def topUpPage : IndexPage := ⟨[topUpCommitment 1], some 1⟩

def topUpNow : Nat := 1700000000000000000

def payoutStart (nowNanos : Nat) : PayoutSystem :=
  ⟨FaucetState.new payoutConfig (nowNanos / nanosPerSecond), Pool.empty, [], [], [], nowNanos⟩

/-- The system after the events; they are all enabled in the runs below. -/
def payoutAfter (fromText : Text → Option Principal) (nowNanos : Nat) (events : List PayoutEvent) :
    PayoutSystem :=
  ((payoutMachine {} fromText).run (payoutStart nowNanos) events).getD (payoutStart nowNanos)

theorem payoutAfter_reachable {fromText : Text → Option Principal} {events : List PayoutEvent}
    (enabled : ((payoutMachine {} fromText).run (payoutStart nowNanos) events).isSome = true) :
    (payoutMachine {} fromText).Reachable (payoutAfter fromText nowNanos events) := by
  rcases Option.isSome_iff_exists.mp enabled with ⟨sys, ran⟩
  refine ⟨payoutStart nowNanos, events, ⟨payoutConfig, nowNanos, [], rfl, .nil⟩, ?_⟩
  rw [payoutAfter, ran, Option.getD_some]

end Samples
end JupiterSuite.Faucet
