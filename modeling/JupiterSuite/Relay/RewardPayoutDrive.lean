import JupiterSuite.Relay.RewardSegments
import JupiterSuite.Relay.SplitterSafety

/-! The drive of reward payouts over whole runs. -/

namespace JupiterSuite.Relay

open Base

def Identified (installed : List PendingRewardPayout)
    (call : Call RewardTag (Principal × TransferArg) TransferError) : Prop :=
  ∃ plan, installed[call.tag.payout - 1]? = some plan ∧
    call.arg = rewardCall plan.snsLedgerCanisterId
      { plan with nextRecipientIndex := call.tag.recipient }

structure RewardFrame (sys : RewardSystem) : Prop where
  leased : Leased RewardKont.lease sys.state.mainLockStateTs (sys.clock / nanosPerSecond) sys.tasks
  konts : sys.tasks.Holds
    (Fenced RewardKont.lease sys.state.mainLockStateTs (RewardKontOk sys.state))
  pinned : sys.state.Pinned
  identified : ∀ call ∈ sys.ledger, Identified sys.state.installed call
  fresh : sys.ledger.Deduplicated
  untrapped : sys.traps = 0

/-- Why a step may record the cadence: it drove the pending payout, its adjudication came to an
end, or the payout that its timer continues has ended. -/
inductive CadenceCause (st : RewardCanister) (kont : RewardKont) (reply : RewardReply) : Prop where
  | drove (pending : st.reward.pendingPayout.isSome = true)
  | concluded (concludes : Concludes kont reply)
  | late (lease number : Nat) (timer : kont = .timer lease number)
      (ours : number = st.installed.length)

section Steps

variable {sys next : RewardSystem} {st : RewardCanister} {kont : RewardKont} {reply : RewardReply}

theorem RewardStage.mono {ended weaker : Prop} {lease : Nat} {result : RewardCanister × RewardPause}
    (stage : RewardStage ended st lease result) (weaken : ended → weaker) :
    RewardStage weaker st lease result :=
  ⟨stage.pinned, stage.progress, stage.pause,
    fun changed => ⟨(stage.cadence changed).1, weaken (stage.cadence changed).2⟩⟩

theorem resumeReward_stage {nowNanos : Nat} {result : Trapping (RewardCanister × RewardPause)}
    (pinned : st.Pinned) (ok : RewardKontOk st kont)
    (resumed : resumeReward st nowNanos kont reply = some result) :
    ∃ after, result = some after ∧
      RewardStage (CadenceCause st kont reply) st kont.lease after := by
  unfold resumeReward at resumed
  split at resumed <;> cases resumed
  · exact ⟨_, rfl, stage_return (Moved.refl pinned).carried _ _⟩
  · rename_i lease force
    rcases startSweep_stage pinned lease nowNanos force with ⟨after, same, stage⟩
    exact ⟨after, same, stage.mono .drove⟩
  · exact onContext_stage pinned ok _ _ _ _ _
  · exact onPotBalance_stage pinned ok _ _ _ _ _ _
  · rename_i attempt usage last context balance amount
    rcases onPotFee_stage pinned ok attempt usage last nowNanos context balance amount with
      ⟨after, same, stage⟩
    exact ⟨after, same, stage.mono .concluded⟩
  · rename_i attempt last context balance fee search
    rcases onSearch_stage pinned ok attempt last nowNanos context balance fee search with
      ⟨after, same, stage⟩
    exact ⟨after, same, stage.mono .concluded⟩
  · have pending : st.reward.pendingPayout.isSome = true := by
      rw [DriveOk.pending ok]
      rfl
    exact onTransfer_stage pinned ok (.drove pending) _ _ _ _ _
  · rename_i lease number
    exact onTimer_stage pinned (.late lease number rfl ok) lease nowNanos

theorem identified_kept {installed later : List PendingRewardPayout}
    {call : Call RewardTag (Principal × TransferArg) TransferError} (kept : installed <+: later)
    (identified : Identified installed call) : Identified later call := by
  rcases identified with ⟨plan, found, arg⟩
  rcases kept with ⟨more, rfl⟩
  refine ⟨plan, ?_, arg⟩
  have inside := (List.getElem?_eq_some_iff.mp found).1
  rw [List.getElem?_append_left inside]
  exact found

theorem identified_dispatch {drive : PayoutDrive} {expected : PendingRewardPayout}
    (pinned : st.Pinned) (ok : DriveOk st drive expected) :
    Identified st.installed
      ⟨⟨drive.number, expected.nextRecipientIndex⟩, rewardCall drive.ledger expected, none⟩ := by
  rcases pinned.latest expected ok.pending with ⟨earlier, plan, installed, whole⟩
  refine ⟨plan, ?_, ?_⟩
  · rw [ok.number, installed]
    simp
  · have ledger : drive.ledger = plan.snsLedgerCanisterId := by
      rw [ok.ledger, whole]
    show rewardCall drive.ledger expected = _
    rw [ledger, ← whole]

variable {id now : Nat}

theorem frame_settle {ended : Prop} {lease : Nat} {after : RewardCanister × RewardPause}
    (frame : RewardFrame sys) (turn : Turn RewardKont.lease sys.tasks id lease
      (now / nanosPerSecond)) (owner : st.mainLockStateTs = some lease)
    (kept : sys.state.installed <+: st.installed) (stage : RewardStage ended st lease after) :
    RewardFrame (settleReward sys id now (some after)) := by
  rcases after with ⟨final, pause⟩
  have installs := kept.trans stage.progress.kept
  have identified : ∀ call ∈ sys.ledger, Identified final.installed call :=
    fun call member => identified_kept installs (frame.identified call member)
  have paused := stage.pause
  cases pause with
  | done =>
      have released : final.mainLockStateTs = some 0 := by
        have done : final.mainLockStateTs = releaseLease lease st.mainLockStateTs := paused
        rw [done, owner, releaseLease_held]
      refine ⟨?_, ?_, stage.pinned, identified, frame.fresh, frame.untrapped⟩
      · show Leased _ final.mainLockStateTs _ _
        exact turn.stop _ (.inr released)
      · refine frame.konts.put (fun _ gone => by cases gone) ?_
        intro other theirs different also _
        exact turn.others _ (.inr released) other theirs different also _
  | await kont =>
      rcases paused with ⟨lock, same, ok⟩
      have held : final.mainLockStateTs = some lease := lock.trans owner
      refine ⟨?_, ?_, stage.pinned, identified, frame.fresh, frame.untrapped⟩
      · show Leased _ final.mainLockStateTs _ _
        rw [held]
        exact turn.await kont same
      · refine frame.konts.put ?_ ?_
        · intro own here
          cases here
          exact fun _ => ok
        · intro other theirs different also _
          exact turn.others _ (.inl held) other theirs different also _
  | transferring drive usage lastAbandonment expected second =>
      rcases paused with ⟨lock, same, ok⟩
      have held : final.mainLockStateTs = some lease := lock.trans owner
      refine ⟨?_, ?_, stage.pinned, ?_, ?_, frame.untrapped⟩
      · show Leased _ final.mainLockStateTs _ _
        rw [held]
        exact turn.await _ same
      · refine frame.konts.put ?_ ?_
        · intro own here
          cases here
          exact fun _ => ok
        · intro other theirs different also _
          exact turn.others _ (.inl held) other theirs different also _
      · intro call member
        rcases CallLog.mem_dispatch.mp member with old | rfl
        · exact identified call old
        · exact identified_dispatch stage.pinned ok
      · exact CallLog.deduplicated_dispatch frame.fresh _ _

def RewardKont.number : RewardKont → Option Nat
  | .transfer drive _ _ _ _ _ => some drive.number
  | .timer _ number => some number
  | _ => none

structure PayoutStep (sys : RewardSystem) (event : RewardEvent) (next : RewardSystem) : Prop where
  progress : Progress sys.state next.state
  older : ∀ id reply nowNanos kont number, event = .resume id reply nowNanos →
    sys.tasks id = some kont → kont.number = some number →
    number ≠ sys.state.installed.length ∨ sys.state.mainLockStateTs ≠ some kont.lease →
      next.state = sys.state
  cadence : next.state.reward.lastSweepAttemptTimestampSeconds ≠
      sys.state.reward.lastSweepAttemptTimestampSeconds →
    next.state.reward.pendingPayout = none ∧
      ∃ id reply nowNanos kont, event = .resume id reply nowNanos ∧ sys.tasks id = some kont ∧
        CadenceCause sys.state kont reply

theorem payoutStep_idle {event : RewardEvent} (reward : next.state.reward = sys.state.reward)
    (installed : next.state.installed = sys.state.installed)
    (other : ∀ id reply nowNanos, event ≠ .resume id reply nowNanos) :
    PayoutStep sys event next := by
  refine ⟨.of_same installed (congrArg RewardState.pendingPayout reward), ?_, ?_⟩
  · intro id reply nowNanos kont number same
    exact absurd same (other id reply nowNanos)
  · intro changed
    rw [reward] at changed
    exact absurd rfl changed

/-- Another task keeps what it relies on when neither the lock nor the payouts have changed. -/
theorem rewardKontOk_same {after : RewardCanister} (ok : RewardKontOk st kont)
    (reward : after.reward.pendingPayout = st.reward.pendingPayout)
    (installed : after.installed = st.installed) : RewardKontOk after kont := by
  cases kont with
  | main lease => trivial
  | context attempt usage last => exact reward.trans ok
  | balance attempt usage last context => exact reward.trans ok
  | fee attempt usage last context balance => exact reward.trans ok
  | search attempt last context balance fee => exact reward.trans ok
  | transfer drive usage lastAbandonment expected second call =>
      exact ⟨reward.trans ok.pending, by rw [installed]; exact ok.number, ok.ledger⟩
  | timer lease number =>
      show number = after.installed.length
      rw [installed]
      exact ok

theorem begin_step (frame : RewardFrame sys) (taken : stepReward sys (.begin id now) = some next) :
    RewardFrame next ∧ PayoutStep sys (.begin id now) next := by
  simp only [stepReward] at taken
  split at taken
  · rename_i enabled
    cases taken
    simp only [Bool.and_eq_true, Option.isNone_iff_eq_none] at enabled
    have clock := clock_admits enabled.1
    have seconds : sys.clock / nanosPerSecond ≤ now / nanosPerSecond :=
      Nat.div_le_div_right clock.1
    cases acquired : acquireLease (now / nanosPerSecond) mainTickLeaseSeconds
        sys.state.mainLockStateTs with
    | none =>
        have same : beginRewardTick sys.state now = (sys.state, .done) := by
          simp only [beginRewardTick, acquired]
        rw [same]
        refine ⟨?_, payoutStep_idle rfl rfl (by simp)⟩
        refine ⟨?_, ?_, frame.pinned, frame.identified, frame.fresh, frame.untrapped⟩
        · show Leased _ _ _ (sys.tasks.put id none)
          rw [Pool.put_vacant enabled.2]
          exact frame.leased.tick seconds
        · show (sys.tasks.put id none).Holds _
          rw [Pool.put_vacant enabled.2]
          exact frame.konts
    | some lease =>
        have same : beginRewardTick sys.state now =
            ({ sys.state with mainLockStateTs := some lease }, .await (.main lease)) := by
          simp only [beginRewardTick, acquired]
        rw [same]
        refine ⟨?_, payoutStep_idle rfl rfl (by simp)⟩
        have fits : now / nanosPerSecond + mainTickLeaseSeconds ≤ u64Max := by
          have bound := clock.2
          simp only [nanosPerSecond, mainTickLeaseSeconds, u64Max] at bound ⊢
          omega
        rcases acquireLease_some (by simp [mainTickLeaseSeconds]) fits acquired with
          ⟨free, later⟩
        have pinned : RewardCanister.Pinned { sys.state with mainLockStateTs := some lease } :=
          Pinned.of_same frame.pinned rfl rfl
        have stage : RewardStage True { sys.state with mainLockStateTs := some lease } lease
            ({ sys.state with mainLockStateTs := some lease }, .await (.main lease)) := by
          exact ⟨pinned, .refl _, ⟨rfl, rfl, trivial⟩, fun changed => absurd rfl changed⟩
        refine frame_settle frame (frame.leased.turn_of_acquire enabled.2 seconds free later) ?_ ?_
          stage
        · rfl
        · exact List.prefix_rfl
  · cases taken

theorem resume_step (frame : RewardFrame sys)
    (taken : stepReward sys (.resume id reply now) = some next) :
    RewardFrame next ∧ PayoutStep sys (.resume id reply now) next := by
  simp only [stepReward] at taken
  split at taken
  · cases taken
  · rename_i kont found
    split at taken
    · rename_i enabled
      simp only [Bool.and_eq_true] at enabled
      have clock := clock_admits enabled.1
      have ticked := frame.leased.tick (Nat.div_le_div_right (c := nanosPerSecond) clock.1)
      rcases Option.map_eq_some_iff.mp taken with ⟨result, resumed, rfl⟩
      by_cases owner : sys.state.mainLockStateTs = some kont.lease
      · have ok := frame.konts id kont found owner
        rcases resumeReward_stage frame.pinned ok resumed with ⟨after, rfl, stage⟩
        refine ⟨frame_settle frame (ticked.turn_of_owner found owner) owner List.prefix_rfl stage,
          ?_⟩
        have state : (settleReward sys id now (some after)).state = after.1 := by
          rcases after with ⟨final, pause⟩
          cases pause <;> rfl
        refine ⟨?_, ?_, ?_⟩
        · rw [state]
          exact stage.progress
        · intro other again later theirs number same also ours stale
          cases same
          rw [found] at also
          cases also
          rcases stale with old | lost
          · exfalso
            apply old
            cases kont with
            | transfer drive usage lastAbandonment expected second call =>
                cases ours
                exact DriveOk.number ok
            | timer lease continued =>
                cases ours
                exact ok
            | _ => cases ours
          · exact absurd owner lost
        · rw [state]
          intro changed
          rcases stage.cadence changed with ⟨vacant, cause⟩
          exact ⟨vacant, id, reply, now, kont, rfl, found, cause⟩
      · have lost : sys.state.isCurrent kont.lease = false := by
          simpa [RewardCanister.isCurrent] using owner
        have same := resumeReward_lost lost resumed
        rw [return_lost lost] at same
        subst same
        refine ⟨?_, .refl _, fun _ _ _ _ _ _ _ _ _ => rfl, fun changed => absurd rfl changed⟩
        refine ⟨ticked.stop found (.inl rfl), ?_, frame.pinned, frame.identified, frame.fresh,
          frame.untrapped⟩
        exact frame.konts.put (fun _ gone => by cases gone) fun _ _ _ _ ok => ok
    · cases taken

theorem abandon_step {cleanup : Bool} (frame : RewardFrame sys)
    (taken : stepReward sys (.abandon id cleanup) = some next) :
    RewardFrame next ∧ PayoutStep sys (.abandon id cleanup) next := by
  simp only [stepReward] at taken
  split at taken
  · cases taken
  · rename_i kont found
    cases taken
    have stopped : ∀ after, after = sys.state.mainLockStateTs ∨
        after = releaseLease kont.lease sys.state.mainLockStateTs →
          Leased RewardKont.lease after (sys.clock / nanosPerSecond) (sys.tasks.put id none) ∧
            (sys.tasks.put id none).Holds
              (Fenced RewardKont.lease after (RewardKontOk sys.state)) := by
      intro after released
      by_cases owner : sys.state.mainLockStateTs = some kont.lease
      · have turn := frame.leased.turn_of_owner found owner
        have freed : after = some kont.lease ∨ after = some 0 := by
          rcases released with same | dropped
          · exact .inl (same.trans owner)
          · right
            rw [dropped, owner, releaseLease_held]
        exact ⟨turn.stop after freed, frame.konts.put (fun _ gone => by cases gone)
          fun other theirs different also _ => turn.others after freed other theirs different also _⟩
      · have same : after = sys.state.mainLockStateTs := by
          rcases released with same | dropped
          · exact same
          · rw [dropped, releaseLease_lost owner]
        rw [same]
        exact ⟨frame.leased.stop found (.inl rfl),
          frame.konts.put (fun _ gone => by cases gone) fun _ _ _ _ ok => ok⟩
    cases cleanup with
    | false =>
        rcases stopped _ (.inl rfl) with ⟨leased, konts⟩
        exact ⟨⟨leased, konts, frame.pinned, frame.identified, frame.fresh, frame.untrapped⟩,
          payoutStep_idle rfl rfl (by simp)⟩
    | true =>
        rcases stopped _ (.inr rfl) with ⟨leased, konts⟩
        refine ⟨⟨leased, konts.mono ?_, Pinned.of_same frame.pinned rfl rfl, frame.identified,
          frame.fresh, frame.untrapped⟩, payoutStep_idle rfl rfl (by simp)⟩
        exact fun theirs ok owned => rewardKontOk_same (ok owned) rfl rfl

theorem reward_step {event : RewardEvent} (frame : RewardFrame sys)
    (taken : stepReward sys event = some next) : RewardFrame next ∧ PayoutStep sys event next := by
  cases event with
  | begin id now => exact begin_step frame taken
  | resume id reply now => exact resume_step frame taken
  | abandon id cleanup => exact abandon_step frame taken
  | ledger call outcome =>
      simp only [stepReward] at taken
      split at taken
      · rcases Option.map_eq_some_iff.mp taken with ⟨ledger, answered, rfl⟩
        refine ⟨⟨frame.leased, frame.konts, frame.pinned, ?_,
          CallLog.deduplicated_answer frame.fresh answered, frame.untrapped⟩,
          payoutStep_idle rfl rfl (by simp)⟩
        intro answer member
        rcases CallLog.mem_answer answered member with ⟨old, present, tag, arg, _⟩
        rcases frame.identified old present with ⟨plan, found, paid⟩
        rw [tag] at found paid
        exact ⟨plan, found, arg.symm.trans paid⟩
      · cases taken
  | upgrade =>
      cases taken
      exact ⟨⟨Leased.empty _ _, Pool.holds_empty _, Pinned.of_same frame.pinned rfl rfl,
        frame.identified, frame.fresh, frame.untrapped⟩, payoutStep_idle rfl rfl (by simp)⟩

theorem rewardFrame_init (started : rewardMachine.init sys) : RewardFrame sys := by
  rcases started with ⟨now, rfl⟩
  refine ⟨Leased.empty _ _, Pool.holds_empty _, ⟨rfl, ?_, ?_⟩, ?_, List.nodup_nil, rfl⟩
  · intro plan member
    cases member
  · intro payout impossible
    cases impossible
  · intro call member
    cases member

end Steps

theorem progress_run {sys final : RewardSystem} {events : List RewardEvent}
    (frame : RewardFrame sys) (ran : rewardMachine.run sys events = some final) :
    Progress sys.state final.state := by
  have run := rewardMachine.run_preserves
    (fun later => RewardFrame later ∧ Progress sys.state later.state) (by
      rintro before event after ⟨framed, moved⟩ taken
      have stepped := reward_step framed taken
      exact ⟨stepped.1, moved.trans stepped.2.progress⟩)
    ⟨frame, .refl sys.state⟩ ran
  exact run.2

/-- What every reachable state promises of the reward payouts. -/
structure PayoutDriveSound (sys : RewardSystem) : Prop where
  untrapped : sys.traps = 0
  storable : sys.state.reward.storable = true
  identified : ∀ call ∈ sys.ledger, Identified sys.state.installed call
  once : ∀ tag, sys.ledger.debits (fun other => decide (other = tag)) ≤ 1
  step : ∀ event next, stepReward sys event = some next → PayoutStep sys event next
  forward : ∀ events final, rewardMachine.run sys events = some final →
    Progress sys.state final.state

theorem reward_payout_drive (sys : RewardSystem) (reachable : rewardMachine.Reachable sys) :
    PayoutDriveSound sys := by
  have frame : RewardFrame sys :=
    rewardMachine.reachable_invariant RewardFrame (fun _ started => rewardFrame_init started)
      (fun _ _ _ frame taken => (reward_step frame taken).1) reachable
  refine ⟨frame.untrapped, frame.pinned.storable, frame.identified, ?_,
    fun event next taken => (reward_step frame taken).2,
    fun events final ran => progress_run frame ran⟩
  intro tag
  by_cases known : ∃ plan, sys.state.installed[tag.payout - 1]? = some plan
  · rcases known with ⟨plan, found⟩
    have fixed : ∀ call ∈ sys.ledger, decide (call.tag = tag) = true → call.accepted = true →
        call.arg = rewardCall plan.snsLedgerCanisterId
          { plan with nextRecipientIndex := tag.recipient } := by
      intro call member chosen _
      have same : call.tag = tag := of_decide_eq_true chosen
      rcases frame.identified call member with ⟨other, also, arg⟩
      rw [same] at also arg
      rw [found] at also
      cases also
      exact arg
    exact CallLog.debits_le_one frame.fresh fixed
  · have nothing : sys.ledger.debits (fun other => decide (other = tag)) = 0 := by
      simp only [CallLog.debits, List.countP_eq_zero, Bool.and_eq_true, decide_eq_true_eq, not_and]
      intro call member same
      rcases frame.identified call member with ⟨plan, found, _⟩
      rw [same] at found
      exact absurd ⟨plan, found⟩ known
    omega

def sampleSweepTime : Nat := 1700000000000000000

def sampleSweepStart : RewardSystem := ⟨⟨some 0, {}, []⟩, Pool.empty, [], 0, sampleSweepTime⟩

/-- Two contributors are paid; the first transfer is retried after an uncertain attempt. -/
def sampleSweep : List RewardEvent :=
  [.begin 0 sampleSweepTime, .resume 0 (.rewards false) sampleSweepTime,
    .resume 0 (.context (some ⟨⟨[7]⟩, sampleSweepTime⟩)) sampleSweepTime,
    .resume 0 (.amount (some 3000000)) sampleSweepTime,
    .resume 0 (.amount (some 10000)) sampleSweepTime,
    .resume 0 (.search (.found 42 [(⟨[8]⟩, 100000000), (⟨[9]⟩, 200000000)] ⟨0, 0, 0, 0⟩))
      sampleSweepTime,
    .ledger 0 (.accepted 5), .resume 0 (.transfer none) sampleSweepTime,
    .ledger 1 (.duplicate 5), .resume 0 (.transfer (some (.error (.duplicate 5)))) sampleSweepTime,
    .ledger 2 (.accepted 6), .resume 0 (.transfer (some (.ok 6))) sampleSweepTime]

theorem reward_payout_drive_of_sample :
    ∃ sys, rewardMachine.Reachable sys ∧ sys.ledger.length = 3 ∧
      sys.state.reward.lastSweepAttemptTimestampSeconds = 1700000000 ∧ PayoutDriveSound sys := by
  have ran : rewardMachine.run sampleSweepStart sampleSweep =
      some ((rewardMachine.run sampleSweepStart sampleSweep).getD sampleSweepStart) := by
    rfl
  have reachable : rewardMachine.Reachable
      ((rewardMachine.run sampleSweepStart sampleSweep).getD sampleSweepStart) :=
    ⟨sampleSweepStart, sampleSweep, ⟨sampleSweepTime, rfl⟩, ran⟩
  exact ⟨_, reachable, by rfl, by rfl, reward_payout_drive _ reachable⟩

end JupiterSuite.Relay
