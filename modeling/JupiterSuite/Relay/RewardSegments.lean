import JupiterSuite.Relay.RewardSystem

/-! What one segment of the reward stage does: nothing without the lease; with it, it moves the
pinned payout forward, and it never traps. -/

namespace JupiterSuite.Relay

open Base

/-- The pending payout is the latest installed one at some index within its bounds. -/
structure RewardCanister.Pinned (st : RewardCanister) : Prop where
  storable : st.reward.storable = true
  sized : ∀ plan ∈ st.installed, plan.recipients.length ≤ 2 ^ 32
  latest : ∀ payout, st.reward.pendingPayout = some payout → ∃ earlier plan,
    st.installed = earlier ++ [plan] ∧
      payout = { plan with nextRecipientIndex := payout.nextRecipientIndex }

/-- The payouts only move forward: a payout keeps everything but its index, which never
decreases, until it ends or a later one is installed. -/
structure Progress (before after : RewardCanister) : Prop where
  kept : before.installed <+: after.installed
  forward : after.installed.length = before.installed.length →
    ∀ later, after.reward.pendingPayout = some later →
      ∃ earlier, before.reward.pendingPayout = some earlier ∧
        later = { earlier with nextRecipientIndex := later.nextRecipientIndex } ∧
        earlier.nextRecipientIndex ≤ later.nextRecipientIndex

variable {middle : RewardCanister} {drive : PayoutDrive} {lease nowNanos : Nat}
  {attempt : RewardAttempt}

section Store

variable {st next : RewardCanister} {payout : PendingRewardPayout}

theorem Progress.of_same (installed : next.installed = st.installed)
    (pending : next.reward.pendingPayout = st.reward.pendingPayout) : Progress st next := by
  refine ⟨?_, ?_⟩
  · exact installed ▸ List.prefix_rfl
  · intro _ later found
    rw [pending] at found
    exact ⟨later, found, rfl, Nat.le_refl _⟩

theorem Progress.refl (st : RewardCanister) : Progress st st := .of_same rfl rfl

theorem Progress.trans (first : Progress st middle) (second : Progress middle next) :
    Progress st next := by
  refine ⟨first.kept.trans second.kept, ?_⟩
  intro same later found
  have up := first.kept.length_le
  have on := second.kept.length_le
  rcases second.forward (by omega) later found with ⟨between, also, rest, further⟩
  rcases first.forward (by omega) between also with ⟨earlier, before, whole, forward⟩
  refine ⟨earlier, before, ?_, Nat.le_trans forward further⟩
  calc
    later = { between with nextRecipientIndex := later.nextRecipientIndex } := rest
    _ = { earlier with nextRecipientIndex := later.nextRecipientIndex } := by rw [whole]

theorem bounds_of_pinned (pinned : st.Pinned) (pending : st.reward.pendingPayout = some payout) :
    payout.recipients ≠ [] ∧ payout.nextRecipientIndex < payout.recipients.length ∧
      payout.recipients.length ≤ 2 ^ 32 := by
  have stored := pinned.storable
  simp only [RewardState.storable, pending, Option.all_some, PendingRewardPayout.inBounds,
    Bool.and_eq_true, Bool.not_eq_true', List.isEmpty_eq_false_iff, decide_eq_true_eq] at stored
  rcases pinned.latest payout pending with ⟨earlier, plan, installed, whole⟩
  refine ⟨stored.1, stored.2, ?_⟩
  have same : payout.recipients = plan.recipients := by rw [whole]
  rw [same]
  apply pinned.sized
  rw [installed]
  simp

theorem set_storable {reward : RewardState} (storable : reward.storable = true) :
    st.set reward = some { st with reward } := by
  simp only [RewardCanister.set, storable, if_true]

theorem keep_pinned (pinned : st.Pinned) : st.keep = some st := set_storable pinned.storable

theorem recordCadence_pinned (pinned : st.Pinned) (nowSecs : Nat) :
    st.recordCadence nowSecs = some { st with reward := { st.reward with
      lastSweepAttemptTimestampSeconds :=
        max st.reward.lastSweepAttemptTimestampSeconds nowSecs } } :=
  set_storable pinned.storable

theorem Pinned.of_same (pinned : st.Pinned) (installed : next.installed = st.installed)
    (pending : next.reward.pendingPayout = st.reward.pendingPayout) : next.Pinned := by
  refine ⟨?_, ?_, ?_⟩
  · have stored := pinned.storable
    simp only [RewardState.storable] at stored ⊢
    rw [pending]
    exact stored
  · rw [installed]
    exact pinned.sized
  · rw [installed, pending]
    exact pinned.latest

/-- A part of a segment that leaves the lock and the cadence alone. -/
structure Moved (st next : RewardCanister) : Prop where
  lock : next.mainLockStateTs = st.mainLockStateTs
  cadence : next.reward.lastSweepAttemptTimestampSeconds =
    st.reward.lastSweepAttemptTimestampSeconds
  pinned : next.Pinned
  progress : Progress st next

/-- A step of a drive, which touches only the progress of the payout. -/
structure PayoutDriven (st next : RewardCanister) : Prop extends Moved st next where
  installed : next.installed = st.installed

theorem Moved.refl (pinned : st.Pinned) : Moved st st := ⟨rfl, rfl, pinned, .refl st⟩

theorem Moved.trans (first : Moved st middle) (second : Moved middle next) : Moved st next :=
  ⟨second.lock.trans first.lock, second.cadence.trans first.cadence, second.pinned,
    first.progress.trans second.progress⟩

theorem PayoutDriven.refl (pinned : st.Pinned) : PayoutDriven st st := ⟨.refl pinned, rfl⟩

theorem PayoutDriven.trans (first : PayoutDriven st middle) (second : PayoutDriven middle next) :
    PayoutDriven st next :=
  ⟨first.toMoved.trans second.toMoved, second.installed.trans first.installed⟩

theorem end_payout (pinned : st.Pinned) :
    ∃ next, st.setPending none = some next ∧ PayoutDriven st next ∧
      next.reward.pendingPayout = none := by
  refine ⟨_, set_storable rfl, ⟨⟨rfl, rfl, ?_, ?_⟩, rfl⟩, rfl⟩
  · refine ⟨rfl, pinned.sized, ?_⟩
    intro payout impossible
    cases impossible
  · refine ⟨List.prefix_rfl, ?_⟩
    intro _ later impossible
    cases impossible

theorem advance_pinned (pinned : st.Pinned) (pending : st.reward.pendingPayout = some payout) :
    ∃ next result, st.advanceExpectedPayout payout = some (next, result) ∧ PayoutDriven st next ∧
      result ≠ .stale ∧ next.remaining < st.remaining ∧
      ∀ later, next.reward.pendingPayout = some later →
        later.snsLedgerCanisterId = payout.snsLedgerCanisterId := by
  rcases bounds_of_pinned pinned pending with ⟨filled, inside, sized⟩
  have left : st.remaining = payout.recipients.length - payout.nextRecipientIndex := by
    simp only [RewardCanister.remaining, pending, Option.map_some, Option.getD_some]
  have current : ¬ st.reward.pendingPayout ≠ some payout := not_not_intro pending
  simp only [RewardCanister.advanceExpectedPayout, if_neg current]
  by_cases last : payout.nextRecipientIndex + 1 = payout.recipients.length
  · rcases end_payout pinned with ⟨next, ended, driven, vacant⟩
    simp only [if_pos last, ended]
    refine ⟨next, .cleared, rfl, driven, by simp, ?_, ?_⟩
    · rw [left]
      simp only [RewardCanister.remaining, vacant, Option.map_none, Option.getD_none]
      omega
    · intro later found
      rw [vacant] at found
      cases found
  · have fits : payout.nextRecipientIndex + 1 < 2 ^ 32 := by omega
    have within : payout.nextRecipientIndex + 1 < payout.recipients.length := by omega
    have stored : RewardState.storable
        { st.reward with
          pendingPayout :=
            some { payout with nextRecipientIndex := payout.nextRecipientIndex + 1 } } = true := by
      simp only [RewardState.storable, Option.all_some, PendingRewardPayout.inBounds,
        Bool.and_eq_true, Bool.not_eq_true', List.isEmpty_eq_false_iff, decide_eq_true_eq]
      exact ⟨filled, within⟩
    simp only [if_neg last, if_pos fits, RewardCanister.setPending, set_storable stored]
    refine ⟨_, .more, rfl, ⟨⟨rfl, rfl, ⟨stored, pinned.sized, ?_⟩, ⟨List.prefix_rfl, ?_⟩⟩, rfl⟩,
      by simp, ?_, ?_⟩
    · rcases pinned.latest payout pending with ⟨earlier, plan, installed, whole⟩
      intro later found
      cases found
      refine ⟨earlier, plan, installed, ?_⟩
      rw [whole]
    · intro _ later found
      cases found
      exact ⟨payout, pending, rfl, Nat.le_succ _⟩
    · rw [left]
      simp only [RewardCanister.remaining, Option.map_some, Option.getD_some]
      omega
    · intro later found
      cases found
      rfl

theorem clear_pinned (pinned : st.Pinned) (pending : st.reward.pendingPayout = some payout) :
    ∃ next, st.clearExpectedPayout payout = some (next, true) ∧ PayoutDriven st next ∧
      next.reward.pendingPayout = none := by
  rcases end_payout pinned with ⟨next, ended, driven, vacant⟩
  refine ⟨next, ?_, driven, vacant⟩
  have current : ¬ st.reward.pendingPayout ≠ some payout := not_not_intro pending
  simp only [RewardCanister.clearExpectedPayout, if_neg current, ended]
  rfl

end Store

section Stage

variable {ended : Prop} {st mid : RewardCanister}

/-- What the drive that waits for a transfer finds when it still has the lease. -/
structure DriveOk (st : RewardCanister) (drive : PayoutDrive) (expected : PendingRewardPayout) :
    Prop where
  pending : st.reward.pendingPayout = some expected
  number : drive.number = st.installed.length
  ledger : drive.ledger = expected.snsLedgerCanisterId

/-- What the owner of the lease may rely on. -/
def RewardKontOk (st : RewardCanister) : RewardKont → Prop
  | .main _ => True
  | .context _ _ _ | .balance _ _ _ _ | .fee _ _ _ _ _ | .search _ _ _ _ _ =>
      st.reward.pendingPayout = none
  | .transfer drive _ _ expected _ _ => DriveOk st drive expected
  | .timer _ number => number = st.installed.length

def RewardPauseOk (lock : Option Nat) (lease : Nat) : RewardCanister × RewardPause → Prop
  | (st, .done) => st.mainLockStateTs = releaseLease lease lock
  | (st, .await kont) => st.mainLockStateTs = lock ∧ kont.lease = lease ∧ RewardKontOk st kont
  | (st, .transferring drive _ _ expected _) =>
      st.mainLockStateTs = lock ∧ drive.attempt.lease = lease ∧ DriveOk st drive expected

/-- The part of a segment before its return; the cadence is recorded when nothing is pending. -/
structure Carried (ended : Prop) (st mid : RewardCanister) : Prop where
  pinned : mid.Pinned
  progress : Progress st mid
  lock : mid.mainLockStateTs = st.mainLockStateTs
  cadence : mid.reward.lastSweepAttemptTimestampSeconds ≠
      st.reward.lastSweepAttemptTimestampSeconds →
    mid.reward.pendingPayout = none ∧ ended

structure RewardStage (ended : Prop) (st : RewardCanister) (lease : Nat)
    (result : RewardCanister × RewardPause) : Prop where
  pinned : result.1.Pinned
  progress : Progress st result.1
  pause : RewardPauseOk st.mainLockStateTs lease result
  cadence : result.1.reward.lastSweepAttemptTimestampSeconds ≠
      st.reward.lastSweepAttemptTimestampSeconds →
    result.1.reward.pendingPayout = none ∧ ended

theorem Moved.carried (moved : Moved st mid) : Carried ended st mid :=
  ⟨moved.pinned, moved.progress, moved.lock, fun changed => absurd moved.cadence changed⟩

theorem carried_recordCadence (carried : Carried ended st mid)
    (vacant : mid.reward.pendingPayout = none) (ends : ended) (nowSecs : Nat) :
    ∃ next, mid.recordCadence nowSecs = some next ∧ Carried ended st next ∧
      next.reward.pendingPayout = none := by
  refine ⟨_, recordCadence_pinned carried.pinned nowSecs, ⟨?_, ?_, carried.lock, ?_⟩, vacant⟩
  · exact Pinned.of_same carried.pinned rfl rfl
  · exact carried.progress.trans (.of_same rfl rfl)
  · intro _
    exact ⟨vacant, ends⟩

theorem stage_return (carried : Carried ended st mid) (lease : Nat) (continues : Bool) :
    RewardStage ended st lease (returnToTick mid lease continues) := by
  cases continues with
  | false =>
      refine ⟨Pinned.of_same carried.pinned rfl rfl, carried.progress.trans (.of_same rfl rfl), ?_,
        carried.cadence⟩
      show releaseLease lease mid.mainLockStateTs = _
      rw [carried.lock]
  | true => exact ⟨carried.pinned, carried.progress, ⟨carried.lock, rfl, rfl⟩, carried.cadence⟩

theorem adjudicated_stage (carried : Carried ended st mid) (attempt : RewardAttempt) (last : Nat)
    {disposition : SweepDisposition}
    (done : disposition = .completed → mid.reward.pendingPayout = none ∧ ended) :
    ∃ result, adjudicated mid attempt last disposition = some result ∧
      RewardStage ended st attempt.lease result := by
  have recorded : ∃ next, mid.recordSweepDispositionIfCurrent disposition attempt.nowSecs
      (attempt.generation last) = some next ∧ Carried ended st next := by
    unfold RewardCanister.recordSweepDispositionIfCurrent
    split
    · rename_i current
      simp only [Bool.and_eq_true, decide_eq_true_eq] at current
      rcases done current.1 with ⟨vacant, ends⟩
      split
      · rcases carried_recordCadence carried vacant ends attempt.nowSecs with
          ⟨next, stored, after, _⟩
        exact ⟨next, stored, after⟩
      · exact ⟨mid, keep_pinned carried.pinned, carried⟩
    · exact ⟨mid, rfl, carried⟩
  rcases recorded with ⟨next, stored, after⟩
  simp only [adjudicated, stored, Option.map_some]
  exact ⟨_, rfl, stage_return after attempt.lease _⟩

theorem driveReturned_stage (carried : Carried ended st mid) (drive : PayoutDrive)
    {result : PendingDriveResult}
    (done : result.sweepDisposition = .completed → mid.reward.pendingPayout = none ∧ ended) :
    ∃ returned, driveReturned mid drive result = some returned ∧
      RewardStage ended st drive.attempt.lease returned := by
  have recorded : ∃ next, recordPinnedPayoutResult mid result drive.attempt.nowSecs = some next ∧
      Carried ended st next ∧ (result.sweepDisposition = .completed →
        next.reward.pendingPayout = none ∧ ended) := by
    unfold recordPinnedPayoutResult
    split
    · rename_i completed
      rcases done completed with ⟨vacant, ends⟩
      rcases carried_recordCadence carried vacant ends drive.attempt.nowSecs with
        ⟨next, stored, after, still⟩
      exact ⟨next, stored, after, fun _ => ⟨still, ends⟩⟩
    · exact ⟨mid, rfl, carried, done⟩
  rcases recorded with ⟨next, stored, after, still⟩
  unfold driveReturned
  rw [stored, Option.bind_some]
  cases drive.caller with
  | process => exact ⟨_, rfl, stage_return after _ _⟩
  | adjudicate last => exact adjudicated_stage after drive.attempt last still
  | continuation before => exact ⟨_, rfl, stage_return after _ _⟩

def StepOk (st : RewardCanister) (drive : PayoutDrive) : DriveStep → Prop
  | .returned result => result.sweepDisposition = .completed → st.reward.pendingPayout = none
  | .send _ _ payout =>
      st.reward.pendingPayout = some payout ∧ drive.ledger = payout.snsLedgerCanisterId

theorem driveLoop_driven {rounds : Nat} (nowNanos : Nat) (pinned : st.Pinned)
    (enough : st.remaining < rounds) (ledger : ∀ payout, st.reward.pendingPayout = some payout →
      drive.ledger = payout.snsLedgerCanisterId) (usage : Usage) (lastAbandonment : Option String) :
    ∃ next step, driveLoop drive nowNanos rounds st usage lastAbandonment = some (next, step) ∧
      PayoutDriven st next ∧ StepOk next drive step := by
  induction rounds generalizing st usage lastAbandonment with
  | zero => omega
  | succ rounds ih =>
      have held : StepOk st drive (.returned .held) := by
        intro impossible
        cases impossible
      simp only [driveLoop]
      split
      · exact ⟨st, _, rfl, .refl pinned, held⟩
      · split
        · rename_i vacant
          exact ⟨st, _, rfl, .refl pinned, fun _ => vacant⟩
        · rename_i payout pending
          have inside := (bounds_of_pinned pinned pending).2.1
          have found : payout.recipients[payout.nextRecipientIndex]? =
              some payout.recipients[payout.nextRecipientIndex] :=
            List.getElem?_eq_getElem inside
          simp only [found]
          split
          · split
            · exact ⟨st, _, rfl, .refl pinned, held⟩
            · exact ⟨st, _, rfl, .refl pinned, pending, ledger payout pending⟩
          · rcases advance_pinned pinned pending with
              ⟨next, result, advanced, driven, fresh, fewer, same⟩
            have rest := ih driven.pinned (by omega) (by
              intro later found
              rw [same later found]
              exact ledger payout pending)
            simp only [advanced]
            cases result with
            | stale => exact absurd rfl fresh
            | more =>
                rcases rest _ (some "reward_identity_expired") with ⟨last, step, looped, also, ok⟩
                exact ⟨last, step, looped, driven.trans also, ok⟩
            | cleared =>
                rcases rest _ (some "reward_identity_expired") with ⟨last, step, looped, also, ok⟩
                exact ⟨last, step, looped, driven.trans also, ok⟩

theorem driveOn_stage (moved : Moved st mid) (ends : ended)
    (number : drive.number = mid.installed.length)
    (ledger : ∀ payout, mid.reward.pendingPayout = some payout →
      drive.ledger = payout.snsLedgerCanisterId) (nowNanos : Nat) (usage : Usage)
    (lastAbandonment : Option String) :
    ∃ result, driveOn mid drive nowNanos usage lastAbandonment = some result ∧
      RewardStage ended st drive.attempt.lease result := by
  rcases driveLoop_driven nowNanos moved.pinned (Nat.lt_succ_self mid.remaining)
    ledger usage lastAbandonment with ⟨next, step, looped, driven, ok⟩
  have after := moved.trans driven.toMoved
  simp only [driveOn, looped, Option.bind_some]
  cases step with
  | returned result => exact driveReturned_stage after.carried drive fun done => ⟨ok done, ends⟩
  | send usage lastAbandonment payout =>
      refine ⟨_, rfl, after.pinned, after.progress, ⟨after.lock, rfl, ok.1, ?_, ok.2⟩,
        fun changed => absurd after.cadence changed⟩
      rw [number, driven.installed]

theorem drivePending_stage (moved : Moved st mid) (ends : ended) (caller : DriveCaller)
    (attempt : RewardAttempt) (nowNanos : Nat) (usage : Usage) :
    ∃ result, drivePending mid caller attempt nowNanos usage = some result ∧
      RewardStage ended st attempt.lease result := by
  unfold drivePending
  split
  · rename_i vacant
    exact driveReturned_stage moved.carried _ fun _ => ⟨vacant, ends⟩
  · rename_i payout pending
    refine driveOn_stage moved ends rfl ?_ nowNanos usage _
    intro later found
    rw [pending] at found
    cases found
    rfl

theorem onTransfer_stage {expected : PendingRewardPayout} (pinned : st.Pinned)
    (ok : DriveOk st drive expected) (ends : ended) (nowNanos : Nat) (usage : Usage)
    (lastAbandonment : Option String) (second : Bool) (reply : Option TransferReply) :
    ∃ result, onTransfer st drive nowNanos usage lastAbandonment expected second reply =
      some result ∧ RewardStage ended st drive.attempt.lease result := by
  have held : ∃ result, driveReturned st drive .held = some result ∧
      RewardStage ended st drive.attempt.lease result :=
    driveReturned_stage (Moved.refl pinned).carried drive nofun
  have advanced : ∀ abandonment, ∃ result,
      settleOutcome.advance st drive nowNanos usage expected abandonment = some result ∧
        RewardStage ended st drive.attempt.lease result := by
    intro abandonment
    rcases advance_pinned pinned ok.pending with ⟨next, result, advanced, driven, fresh, _, same⟩
    have number : drive.number = next.installed.length := by
      rw [driven.installed]
      exact ok.number
    have onward := driveOn_stage driven.toMoved ends number (by
      intro later found
      rw [same later found]
      exact ok.ledger) nowNanos usage abandonment
    simp only [settleOutcome.advance, advanced, Option.bind_some]
    cases result with
    | stale => exact absurd rfl fresh
    | more => exact onward
    | cleared => exact onward
  unfold onTransfer
  split
  · exact held
  · rw [if_neg (not_not_intro ok.pending)]
    dsimp only
    split
    · split
      · exact held
      · exact ⟨_, rfl, pinned, .refl st, ⟨rfl, rfl, ok⟩, fun changed => absurd rfl changed⟩
    · unfold settleOutcome
      split
      · rcases clear_pinned pinned ok.pending with ⟨next, cleared, driven, vacant⟩
        rw [cleared, Option.bind_some]
        exact driveReturned_stage driven.toMoved.carried drive fun _ => ⟨vacant, ends⟩
      · exact advanced _
      · exact advanced _
      · exact advanced _
      · exact advanced _

end Stage

variable {kont : RewardKont} {allocations : List (Principal × Nat)} {commitmentTxId : Nat}

section Sweep

variable {ended : Prop} {st : RewardCanister}

theorem failed_stage (pinned : st.Pinned) (attempt : RewardAttempt) (last : Nat) :
    ∃ result, adjudicated st attempt last .retryNextDailyTick = some result ∧
      RewardStage ended st attempt.lease result :=
  adjudicated_stage (Moved.refl pinned).carried attempt last nofun

theorem await_stage (pinned : st.Pinned) (same : kont.lease = lease) (ok : RewardKontOk st kont) :
    RewardStage ended st lease (st, .await kont) :=
  ⟨pinned, .refl st, ⟨rfl, same, ok⟩, fun changed => absurd rfl changed⟩

theorem startSweep_stage (pinned : st.Pinned) (lease nowNanos : Nat) (force : Bool) :
    ∃ result, startSweep st lease nowNanos force = some result ∧
      RewardStage (st.reward.pendingPayout.isSome = true) st lease result := by
  simp only [startSweep]
  split
  · rename_i pending
    exact drivePending_stage (.refl pinned) pending _ (RewardAttempt.new lease nowNanos) _ _
  · rename_i vacant
    have none_pending : st.reward.pendingPayout = none := by
      simpa using vacant
    split
    · split
      · exact failed_stage pinned (RewardAttempt.new lease nowNanos) _
      · exact ⟨_, rfl, await_stage pinned rfl none_pending⟩
    · exact ⟨_, rfl, stage_return (Moved.refl pinned).carried lease false⟩

theorem onContext_stage (pinned : st.Pinned) (vacant : st.reward.pendingPayout = none)
    (attempt : RewardAttempt) (usage : Usage) (last nowNanos : Nat)
    (result : Option RewardContext) :
    ∃ returned, onContext st attempt usage last nowNanos result = some returned ∧
      RewardStage ended st attempt.lease returned := by
  have failed : ∃ returned, adjudicated st attempt last .retryNextDailyTick = some returned ∧
      RewardStage ended st attempt.lease returned := failed_stage pinned attempt last
  simp only [onContext]
  split
  · exact failed
  · split
    · exact failed
    · split
      · exact failed
      · split
        · exact failed
        · exact ⟨_, rfl, await_stage pinned rfl vacant⟩

theorem onPotBalance_stage (pinned : st.Pinned) (vacant : st.reward.pendingPayout = none)
    (attempt : RewardAttempt) (usage : Usage) (last nowNanos : Nat) (context : RewardContext)
    (result : Option Nat) :
    ∃ returned, onPotBalance st attempt usage last nowNanos context result = some returned ∧
      RewardStage ended st attempt.lease returned := by
  have failed : ∃ returned, adjudicated st attempt last .retryNextDailyTick = some returned ∧
      RewardStage ended st attempt.lease returned := failed_stage pinned attempt last
  simp only [onPotBalance]
  split
  · exact failed
  · split
    · exact failed
    · split
      · exact failed
      · exact ⟨_, rfl, await_stage pinned rfl vacant⟩

/-- What an adjudication that has read everything came to: it holds the pot, finds no batch, or
has a batch whose weights can be summed. -/
def Concludes : RewardKont → RewardReply → Prop
  | .fee _ _ _ _ balance, .amount (some fee) =>
      (terminalRewardPotHoldReason balance fee).isSome = true
  | .search _ _ _ _ _, .search .none => True
  | .search _ _ _ _ _, .search (.found _ eligible _) =>
      ∃ total, sumEligibleWeight eligible = .ok total
  | _, _ => False

theorem onPotFee_stage (pinned : st.Pinned) (vacant : st.reward.pendingPayout = none)
    (attempt : RewardAttempt) (usage : Usage) (last nowNanos : Nat) (context : RewardContext)
    (balance : Nat) (result : Option Nat) :
    ∃ returned, onPotFee st attempt last nowNanos context balance result = some returned ∧
      RewardStage (Concludes (.fee attempt usage last context balance) (.amount result)) st
        attempt.lease returned := by
  unfold onPotFee
  split
  · exact failed_stage pinned attempt last
  · split
    · exact failed_stage pinned attempt last
    · split
      · rename_i hold
        exact adjudicated_stage (Moved.refl pinned).carried attempt last fun _ => ⟨vacant, hold⟩
      · exact ⟨_, rfl, await_stage pinned rfl vacant⟩

theorem pendingRecipients_sized {index : Nat} {recipients : List PendingRewardRecipient}
    (built : pendingRecipients commitmentTxId nowNanos allocations index = .ok recipients)
    (fits : index ≤ 2 ^ 32) : index + recipients.length ≤ 2 ^ 32 := by
  induction allocations generalizing index recipients with
  | nil =>
      cases built
      exact fits
  | cons allocation rest ih =>
      simp only [pendingRecipients, rewardMemo] at built
      by_cases within : index < 2 ^ 32
      · rw [if_pos within] at built
        cases later : pendingRecipients commitmentTxId nowNanos rest (index + 1) with
        | error reason =>
            rw [later] at built
            cases built
        | ok others =>
            rw [later] at built
            cases built
            have bound := ih later within
            simp only [List.length_cons]
            omega
      · rw [if_neg within] at built
        cases built

theorem buildPendingPayout_bounds {ledger : Principal} {fee : Nat} {payout : PendingRewardPayout}
    (built : buildPendingPayout ledger commitmentTxId fee allocations nowNanos = .ok payout) :
    payout.inBounds = true ∧ payout.recipients.length ≤ 2 ^ 32 := by
  simp only [buildPendingPayout] at built
  cases made : pendingRecipients commitmentTxId nowNanos allocations 0 with
  | error reason =>
      rw [made] at built
      cases built
  | ok recipients =>
      rw [made] at built
      have sized := pendingRecipients_sized made (Nat.zero_le _)
      cases recipients with
      | nil => cases built
      | cons first rest =>
          cases built
          rw [Nat.zero_add] at sized
          refine ⟨?_, sized⟩
          simp [PendingRewardPayout.inBounds]

theorem install_moved {pending : PendingRewardPayout} (pinned : st.Pinned)
    (bounds : pending.inBounds = true) (sized : pending.recipients.length ≤ 2 ^ 32) (generation : SweepGeneration) :
    ∃ next installed, st.installPendingIfCurrent generation pending = some (next, installed) ∧
      Moved st next ∧ (installed = false → next = st) := by
  unfold RewardCanister.installPendingIfCurrent
  split
  · exact ⟨st, false, rfl, .refl pinned, fun _ => rfl⟩
  · split
    · rw [keep_pinned pinned]
      exact ⟨st, false, rfl, .refl pinned, fun _ => rfl⟩
    · have stored : RewardState.storable { st.reward with pendingPayout := some pending } = true :=
        bounds
      rw [RewardCanister.setPending, set_storable stored]
      refine ⟨_, true, rfl, ⟨rfl, rfl, ⟨stored, ?_, ?_⟩, ?_, ?_⟩, fun no => (by cases no)⟩
      · intro plan member
        rcases List.mem_append.mp member with earlier | here
        · exact pinned.sized plan earlier
        · rw [List.mem_singleton.mp here]
          exact sized
      · intro payout found
        cases found
        exact ⟨st.installed, pending, rfl, rfl⟩
      · exact List.prefix_append _ _
      · intro same
        simp at same

theorem onSearch_stage (pinned : st.Pinned) (vacant : st.reward.pendingPayout = none)
    (attempt : RewardAttempt) (last nowNanos : Nat) (context : RewardContext)
    (balance fee : Nat) (result : BatchSearch) :
    ∃ returned, onSearch st attempt last nowNanos context balance fee result = some returned ∧
      RewardStage (Concludes (.search attempt last context balance fee) (.search result)) st
        attempt.lease returned := by
  simp only [onSearch]
  split
  · exact failed_stage pinned attempt last
  · split
    · exact failed_stage pinned attempt last
    · exact adjudicated_stage (Moved.refl pinned).carried attempt last fun _ => ⟨vacant, trivial⟩
    · rename_i commitmentTxId eligible usage
      split
      · exact failed_stage pinned attempt last
      · rename_i total summed
        have concludes : Concludes (.search attempt last context balance fee)
            (.search (.found commitmentTxId eligible usage)) := ⟨total, summed⟩
        split
        · exact adjudicated_stage (Moved.refl pinned).carried attempt last
            fun _ => ⟨vacant, concludes⟩
        · split
          · exact failed_stage pinned attempt last
          · rename_i pending built
            rcases buildPendingPayout_bounds built with ⟨bounds, sized⟩
            rcases install_moved pinned bounds sized (attempt.generation last) with
              ⟨next, installed, stored, moved, refused⟩
            rw [installAndDrive, stored, Option.bind_some]
            dsimp only
            split
            · exact drivePending_stage moved concludes _ attempt nowNanos usage
            · exact adjudicated_stage moved.carried attempt last nofun

theorem onTimer_stage (pinned : st.Pinned) (ends : ended) (lease nowNanos : Nat) :
    ∃ result, onTimer st lease nowNanos = some result ∧ RewardStage ended st lease result := by
  unfold onTimer
  split
  · exact ⟨_, rfl, stage_return (Moved.refl pinned).carried lease false⟩
  · exact drivePending_stage (.refl pinned) ends _ (RewardAttempt.new lease nowNanos) _ _

end Sweep

section Lost

variable {st : RewardCanister}

theorem checkAt_lost (lost : st.isCurrent attempt.lease = false) (nowNanos : Nat) :
    st.checkAt attempt nowNanos = false := by
  simp only [RewardCanister.checkAt, lost, Bool.and_false]

theorem charge_lost (lost : st.isCurrent attempt.lease = false) (usage : Usage)
    (nowNanos calls work : Nat) :
    st.charge attempt usage nowNanos calls work = .error rewardAttemptExpiredOrStale := by
  simp only [RewardCanister.charge, checkAt_lost lost, Bool.false_eq_true, if_false]

theorem adjudicated_lost (lost : st.isCurrent attempt.lease = false) (last : Nat) :
    adjudicated st attempt last .retryNextDailyTick =
      some (returnToTick st attempt.lease false) := by
  simp only [adjudicated, RewardCanister.recordSweepDispositionIfCurrent, reduceCtorEq,
    decide_false, Bool.false_and, Bool.false_eq_true, if_false, Option.map_some, lost]

theorem held_lost (lost : st.isCurrent drive.attempt.lease = false) :
    driveReturned st drive .held = some (returnToTick st drive.attempt.lease false) := by
  have unrecorded : recordPinnedPayoutResult st .held drive.attempt.nowSecs = some st := rfl
  unfold driveReturned
  rw [unrecorded, Option.bind_some]
  cases drive.caller with
  | process => simp only [lost, Bool.and_false]
  | adjudicate last => exact adjudicated_lost lost last
  | continuation before => simp only [lost, Bool.and_false]

theorem drivePending_lost (lost : st.isCurrent attempt.lease = false)
    (pending : st.reward.pendingPayout.isSome = true) (caller : DriveCaller) (nowNanos : Nat)
    (usage : Usage) :
    drivePending st caller attempt nowNanos usage =
      some (returnToTick st attempt.lease false) := by
  rcases Option.isSome_iff_exists.mp pending with ⟨payout, found⟩
  simp only [drivePending, found, driveOn, driveLoop, charge_lost lost, Option.bind_some,
    afterLoop]
  exact held_lost lost

theorem startSweep_lost (lost : st.isCurrent lease = false) (nowNanos : Nat) (force : Bool) :
    startSweep st lease nowNanos force = some (returnToTick st lease false) := by
  have stale : st.isCurrent (RewardAttempt.new lease nowNanos).lease = false := lost
  simp only [startSweep]
  split
  · rename_i pending
    exact drivePending_lost stale pending _ _ _
  · split
    · rw [charge_lost stale]
      exact adjudicated_lost stale _
    · rfl

/-- Whatever comes back, a continuation that lost the lease ends and changes nothing. -/
theorem resumeReward_lost {reply : RewardReply} {result : Trapping (RewardCanister × RewardPause)}
    (lost : st.isCurrent kont.lease = false)
    (resumed : resumeReward st nowNanos kont reply = some result) :
    result = some (returnToTick st kont.lease false) := by
  unfold resumeReward at resumed
  split at resumed <;> cases resumed
  · rfl
  · exact startSweep_lost lost _ _
  · simp only [onContext, checkAt_lost lost]
    exact adjudicated_lost lost _
  · simp only [onPotBalance, checkAt_lost lost]
    exact adjudicated_lost lost _
  · simp only [onPotFee, checkAt_lost lost]
    exact adjudicated_lost lost _
  · simp only [onSearch, checkAt_lost lost]
    exact adjudicated_lost lost _
  · simp only [onTransfer, checkAt_lost lost]
    exact held_lost lost
  · rename_i lease number
    have current : st.isCurrent lease = false := lost
    simp only [onTimer, current, Bool.not_false, Bool.true_or, if_true]
    rfl

theorem return_lost (lost : st.isCurrent lease = false) :
    returnToTick st lease false = (st, .done) := by
  have other : st.mainLockStateTs ≠ some lease := by
    simpa [RewardCanister.isCurrent] using lost
  simp only [returnToTick, RewardCanister.dropGuard, releaseLease_lost other]
  rfl

end Lost
end JupiterSuite.Relay
