import JupiterSuite.Relay.JobSystem

/-! What one segment may do to the job slot: marks on the pending transfer, which any driver of
that transfer may make, and the planning moves of the lease owner. -/

namespace JupiterSuite.Relay

open Base

/-- Conditions under which a run takes the moves that the code does not guard. -/
structure JobRules where
  install : RelayState → JobStart → List (Principal × Nat) → Nat → Nat → Bool
  plan : ActiveRelayJob → Nat → Bool
  disable : ActiveRelayJob → Bool
  fail : ActiveRelayJob → Bool

inductive Mark (rules : JobRules) : ActiveRelayJob → ActiveRelayJob → Prop where
  | accept {job : ActiveRelayJob} {pending : PendingTransfer} (block : Nat)
      (has : job.pendingTransfer = some pending) (awaiting : pending.phase = .awaitingTransfer) :
      Mark rules job (job.acceptPending pending block)
  | complete {job : ActiveRelayJob} {pending : PendingTransfer}
      (minted : Option (Principal × Nat)) (has : job.pendingTransfer = some pending)
      (accepted : pending.phase ≠ .awaitingTransfer) :
      Mark rules job (job.completePending minted)
  | fail {job : ActiveRelayJob} {pending : PendingTransfer}
      (has : job.pendingTransfer = some pending) (awaiting : pending.phase = .awaitingTransfer)
      (may : rules.fail job) : Mark rules job (job.failPending pending)
  | failAfter {job : ActiveRelayJob} {pending : PendingTransfer}
      (has : job.pendingTransfer = some pending) (accepted : pending.phase ≠ .awaitingTransfer) :
      Mark rules job job.failPendingAfterAcceptance
  | ambiguous {job : ActiveRelayJob} {pending : PendingTransfer}
      (has : job.pendingTransfer = some pending) (awaiting : pending.phase = .awaitingTransfer) :
      Mark rules job (job.ambiguousPending pending)
  | ambiguousAfter {job : ActiveRelayJob} {pending : PendingTransfer}
      (has : job.pendingTransfer = some pending) (accepted : pending.phase ≠ .awaitingTransfer) :
      Mark rules job (job.ambiguousPendingAfterAcceptance pending)

/-- What the lease owner does to a job without a pending transfer, other than staging one. -/
inductive Planning (rules : JobRules) : ActiveRelayJob → ActiveRelayJob → Prop where
  | rest {job : ActiveRelayJob} (limit : Option Nat) (started number nowNanos : Nat)
      (may : rules.plan job nowNanos)
      (unplanned : (job.planNextTransfer limit started number nowNanos).2 ≠ .planned) :
      Planning rules job (job.planNextTransfer limit started number nowNanos).1
  | disable {job : ActiveRelayJob} (reason : String) (open_phase : job.surplusPhasePlanned = false)
      (topups : job.remainingTopups = [])
      (may : job.surplusAllowedAfterTopups = none ∨ rules.disable job) :
      Planning rules job (job.disableSurplus reason)
  | surplus {job : ActiveRelayJob} (recipients : List ResolvedSurplusRecipient)
      (estimate : Option ConversionEstimate) (nowNanos : Nat)
      (memos : List (Option (List UInt8))) (open_phase : job.surplusPhasePlanned = false)
      (topups : job.remainingTopups = []) (clean : job.surplusAllowedAfterTopups = none) :
      Planning rules job (job.installSurplus
        (buildSurplusPlan recipients job.summary.knownUnspentE8s job.feeE8s estimate nowNanos)
        memos)

abbrev Slot := Option ActiveRelayJob × List PastJob

def RelayState.slot (st : RelayState) : Slot := (st.activeJob, st.past)

/-- A mark that ends the pending transfer before its acceptance, when the fee has changed. -/
inductive Stopping (rules : JobRules) : ActiveRelayJob → ActiveRelayJob → Prop where
  | failed {job : ActiveRelayJob} {pending : PendingTransfer} (may : rules.fail job)
      (has : job.pendingTransfer = some pending) (awaiting : pending.phase = .awaitingTransfer) :
      Stopping rules job (job.failPending pending)
  | ambiguous {job : ActiveRelayJob} {pending : PendingTransfer}
      (has : job.pendingTransfer = some pending) (awaiting : pending.phase = .awaitingTransfer) :
      Stopping rules job (job.ambiguousPending pending)

inductive Move (rules : JobRules) (owner : Prop) : Slot → Slot → Prop where
  | install (view : RelayState) (start : JobStart) (current : List (Principal × Nat))
      (balance feeE8s : Nat) (past : List PastJob) (owns : owner)
      (may : rules.install view start current balance feeE8s) (small : balance ≤ u64Max)
      (serial : view.past.length = past.length) :
      Move rules owner (none, past) (some (buildJob view start current balance feeE8s), past)
  | mark {job next : ActiveRelayJob} (past : List PastJob) (marked : Mark rules job next) :
      Move rules owner (some job, past) (some next, past)
  | plan {job next : ActiveRelayJob} (past : List PastJob) (owns : owner)
      (vacant : job.pendingTransfer = none) (planned : Planning rules job next) :
      Move rules owner (some job, past) (some next, past)
  | complete {job : ActiveRelayJob} (past : List PastJob) (owns : owner)
      (vacant : job.pendingTransfer = none) (topups : job.remainingTopups = [])
      (surplus : job.remainingSurplus = []) (nowNanos : Nat) :
      Move rules owner (some job, past) (none, ⟨job.finished nowNanos, true⟩ :: past)
  | stop {job next : ActiveRelayJob} (past : List PastJob) (stopped : Stopping rules job next)
      (nowNanos : Nat) :
      Move rules owner (some job, past)
        (none, ⟨next.returnUnsent.finished nowNanos, true⟩ :: past)

abbrev Moves (rules : JobRules) (owner : Prop) : Slot → Slot → Prop :=
  Relation.ReflTransGen (Move rules owner)

/-- What a planned surplus phase still finds after it asked governance. -/
def Surveyed (activeJob : Option ActiveRelayJob) (phase : SurplusPhase) : Prop :=
  ∃ job, activeJob = some job ∧ job.pendingTransfer = none ∧ job.surplusPhasePlanned = false ∧
    job.remainingTopups = [] ∧ job.surplusAllowedAfterTopups = none ∧ job.id = phase.jobId ∧
    job.summary.knownUnspentE8s = phase.knownUnspentE8s ∧ job.feeE8s = phase.feeE8s

def JobKont.tick : JobKont → Option Tick
  | .loop tick | .governance tick _ _ _ _ | .transfer tick _ _ _ _ _ | .notify tick _ _ _ _ =>
      some tick
  | _ => none

/-- What a suspended continuation may rely on; only the lease owner finds the job as it left it. -/
def JobKontOk (st : RelayState) : JobKont → Prop
  | .fee _ _ balance | .conversion _ _ balance _ => balance ≤ u64Max
  | .governance tick phase _ _ _ =>
      st.isCurrent tick.lease = true → Surveyed st.activeJob phase
  | .transfer _ _ _ staged _ _ => staged.phase = .awaitingTransfer
  | .notify _ _ accepted _ _ => accepted.phase ≠ .awaitingTransfer
  | _ => True

def PauseOk (lock : Option Nat) (lease : Nat) (tick : Option Tick) :
    RelayState × JobPause → Prop
  | (st, .done) => st.mainLockStateTs = releaseLease lease lock
  | (st, .await kont) =>
      st.mainLockStateTs = lock ∧ kont.lease = lease ∧ (kont.tick = none ∨ kont.tick = tick) ∧
        JobKontOk st kont
  | (st, .drive other _ _) => st.mainLockStateTs = lock ∧ other = lease ∧ tick = none
  | (st, .transferring own jobId _ staged _) =>
      st.mainLockStateTs = lock ∧ own.lease = lease ∧ tick = some own ∧
        staged.phase = .awaitingTransfer ∧ st.pendingMatches jobId staged = true

structure Quiet (rules : JobRules) (st : RelayState) (lease : Nat) (tick : Option Tick)
    (result : RelayState × JobPause) : Prop where
  moves : Moves rules (st.isCurrent lease = true) st.slot result.1.slot
  pause : PauseOk st.mainLockStateTs lease tick result

/-- The one segment that stages a transfer. -/
structure Stages (rules : JobRules) (st : RelayState) (nowNanos : Nat) (tick : Tick)
    (job next : ActiveRelayJob) (result : RelayState × JobPause) : Prop where
  owner : st.isCurrent tick.lease = true
  active : st.activeJob = some job
  vacant : job.pendingTransfer = none
  may : rules.plan job nowNanos
  planned : job.planNextTransfer tick.limit tick.started tick.number nowNanos = (next, .planned)
  result : result = (st.setActiveJob next,
    .await (.loop { tick with started := tick.started + 1 }))

def TransferAttemptOutcome.definite : TransferAttemptOutcome → Bool
  | .badFee _ | .failed => true
  | _ => false

def JobRules.allowsPass (rules : JobRules) (st : RelayState) (nowNanos : Nat) : Bool :=
  st.activeJob.all fun job =>
    job.pendingTransfer.isSome ||
      if job.topupPhaseDoneAndSurplusUnplanned then
        job.surplusAllowedAfterTopups.isNone || rules.disable job
      else rules.plan job nowNanos

def JobRules.allowsOutcome (rules : JobRules) (st : RelayState) (staged : PendingTransfer)
    (outcome : TransferAttemptOutcome) : Bool :=
  st.activeJob.all fun job =>
    !(decide (job.pendingTransfer = some staged) && outcome.definite) || rules.fail job

/-- The conditions on one resumed segment. -/
def JobRules.allowsResume (rules : JobRules) (st : RelayState) (nowNanos : Nat) :
    JobKont → JobReply → Bool
  | .fee start current balance, .amount fee =>
      hasRawIcpRecipients st ||
        rules.install (st.resolveIcpLedgerFeeE8s fee).1 start current balance
          (st.resolveIcpLedgerFeeE8s fee).2
  | .conversion start current balance feeE8s, .conversion rate =>
      rules.install (refreshConversionEstimate st start.lease rate) start current balance feeE8s
  | .loop _, .resumed => rules.allowsPass st nowNanos
  | .transfer _ _ _ staged false _, .transfer reply =>
      rules.allowsOutcome st staged (transferOnce reply)
  | _, _ => true

variable {next : RelayState} {job : ActiveRelayJob} {jobId nowNanos number : Nat}
  {phase : SurplusPhase} {staged : PendingTransfer}

section Frames

@[simp]
theorem slot_dropGuard (st : RelayState) (lease : Nat) : (st.dropGuard lease).slot = st.slot := rfl

@[simp]
theorem slot_resolveFee (st : RelayState) (fee : Option Nat) :
    (st.resolveIcpLedgerFeeE8s fee).1.slot = st.slot := by
  cases fee <;> rfl

@[simp]
theorem lock_resolveFee (st : RelayState) (fee : Option Nat) :
    (st.resolveIcpLedgerFeeE8s fee).1.mainLockStateTs = st.mainLockStateTs := by
  cases fee <;> rfl

@[simp]
theorem slot_recordBadFee (st : RelayState) (fee : Nat) : (st.recordBadFee fee).slot = st.slot := by
  unfold RelayState.recordBadFee
  split <;> rfl

@[simp]
theorem lock_recordBadFee (st : RelayState) (fee : Nat) :
    (st.recordBadFee fee).mainLockStateTs = st.mainLockStateTs := by
  unfold RelayState.recordBadFee
  split <;> rfl

@[simp]
theorem slot_refresh (st : RelayState) (lease : Nat) (rate : Option (Nat × Nat)) :
    (refreshConversionEstimate st lease rate).slot = st.slot := by
  unfold refreshConversionEstimate
  split
  · rfl
  · split <;> rfl

@[simp]
theorem lock_refresh (st : RelayState) (lease : Nat) (rate : Option (Nat × Nat)) :
    (refreshConversionEstimate st lease rate).mainLockStateTs = st.mainLockStateTs := by
  unfold refreshConversionEstimate
  split
  · rfl
  · split <;> rfl

theorem active_of_slot {st : RelayState} (same : next.slot = st.slot) :
    next.activeJob = st.activeJob := congrArg Prod.fst same

theorem isCurrent_of_lock {st : RelayState} (same : next.mainLockStateTs = st.mainLockStateTs)
    (lease : Nat) : next.isCurrent lease = st.isCurrent lease := by
  simp only [RelayState.isCurrent, same]

theorem slot_of_active {st : RelayState} (active : st.activeJob = some job) :
    st.slot = (some job, st.past) := by
  simp only [RelayState.slot, active]

end Frames

variable {relayId : Principal} {rules : JobRules} {st : RelayState} {lease : Nat}
  {tick : Option Tick}

theorem quiet_done (slot : next.slot = st.slot) (lock : next.mainLockStateTs = st.mainLockStateTs) :
    Quiet rules st lease tick (next.dropGuard lease, .done) := by
  refine ⟨?_, ?_⟩
  · rw [slot_dropGuard, slot]
  · simp only [PauseOk, RelayState.dropGuard, lock]

variable {kont : JobKont} {balance feeE8s started : Nat} {expected accepted : PendingTransfer}
  {owner : Prop} {before : RelayState} {limit : Option Nat} {reply : Option TransferReply}

theorem quiet_await (slot : next.slot = st.slot) (lock : next.mainLockStateTs = st.mainLockStateTs)
    (same : kont.lease = lease) (ticks : kont.tick = none ∨ kont.tick = tick)
    (kontOk : JobKontOk next kont) :
    Quiet rules st lease tick (next, .await kont) := by
  refine ⟨?_, lock, same, ticks, kontOk⟩
  rw [slot]

section Start

variable {start : JobStart}

theorem afterStart_moves (moves : Moves rules (st.isCurrent start.lease = true) st.slot next.slot)
    (lock : next.mainLockStateTs = st.mainLockStateTs) :
    Quiet rules st start.lease none (afterStart next start) := by
  unfold afterStart
  split
  · exact ⟨moves, lock, rfl, rfl⟩
  · refine ⟨moves, ?_⟩
    simp only [PauseOk, RelayState.dropGuard, lock]

theorem afterStart_quiet (slot : next.slot = st.slot)
    (lock : next.mainLockStateTs = st.mainLockStateTs) :
    Quiet rules st start.lease none (afterStart next start) := by
  apply afterStart_moves _ lock
  rw [slot]

theorem generation_matches (current : jobGenerationMatches st start = true) :
    st.isCurrent start.lease = true ∧ st.activeJob = none := by
  simp only [jobGenerationMatches, Bool.and_eq_true, Option.isNone_iff_eq_none] at current
  exact current.1

theorem onProbe_quiet (snapshots : List (Principal × Nat)) (transientFailures : Bool) :
    Quiet rules st start.lease none
      (onProbe relayId st start snapshots transientFailures) := by
  unfold onProbe
  split
  · exact afterStart_quiet rfl rfl
  · split
    · exact afterStart_quiet rfl rfl
    · split
      · exact quiet_await rfl rfl rfl (.inl rfl) trivial
      · exact afterStart_quiet rfl rfl

theorem onBalance_quiet (current : List (Principal × Nat)) {balance : Option Nat}
    (small : ∀ amount, balance = some amount → amount ≤ u64Max) :
    Quiet rules st start.lease none (onBalance st start current balance) := by
  cases balance with
  | none => exact afterStart_quiet rfl rfl
  | some amount =>
      simp only [onBalance]
      split
      · exact afterStart_quiet rfl rfl
      · exact quiet_await rfl rfl rfl (.inl rfl) (small amount rfl)

theorem installJob_quiet {view : RelayState} (current : List (Principal × Nat))
    (slot : view.slot = st.slot) (lock : view.mainLockStateTs = st.mainLockStateTs)
    (small : balance ≤ u64Max) (may : rules.install view start current balance feeE8s) :
    Quiet rules st start.lease none (installJob view start current balance feeE8s) := by
  unfold installJob
  split
  · exact afterStart_quiet slot lock
  · rename_i matched
    have vacant := generation_matches (by simpa using matched)
    refine afterStart_moves ?_ lock
    apply Relation.ReflTransGen.single
    have before : st.slot = (none, st.past) := by
      rw [← slot]
      simp only [RelayState.slot, vacant.2]
      exact congrArg _ (congrArg Prod.snd slot)
    have past : view.past = st.past := congrArg Prod.snd slot
    rw [before]
    show Move rules _ (none, st.past) (some (buildJob view start current balance feeE8s), view.past)
    rw [past]
    apply Move.install view start current balance feeE8s _ _ may small (by rw [past])
    rw [← isCurrent_of_lock lock]
    exact vacant.1

theorem onFee_quiet (current : List (Principal × Nat)) {reply : Option Nat}
    (small : balance ≤ u64Max)
    (may : (hasRawIcpRecipients st || rules.install (st.resolveIcpLedgerFeeE8s reply).1 start
      current balance (st.resolveIcpLedgerFeeE8s reply).2) = true) :
    Quiet rules st start.lease none (onFee relayId st start current balance reply) := by
  have raw : hasRawIcpRecipients (st.resolveIcpLedgerFeeE8s reply).1 = hasRawIcpRecipients st := by
    cases reply <;> rfl
  simp only [onFee]
  split
  · exact afterStart_quiet (slot_resolveFee st reply) (lock_resolveFee st reply)
  · split
    · exact afterStart_quiet (slot_resolveFee st reply) (lock_resolveFee st reply)
    · split
      · exact quiet_await (slot_resolveFee st reply) (lock_resolveFee st reply) rfl (.inl rfl) small
      · rename_i direct
        apply installJob_quiet current (slot_resolveFee st reply) (lock_resolveFee st reply) small
        rw [← raw] at may
        simpa [direct] using may

end Start

section Drive

variable {own : Tick}

theorem returnFromDrive_quiet {completed : Bool}
    (moves : Moves rules (st.isCurrent own.lease = true) st.slot next.slot)
    (lock : next.mainLockStateTs = st.mainLockStateTs) :
    Quiet rules st own.lease (some own) (returnFromDrive next own completed) := by
  unfold returnFromDrive
  split
  · exact ⟨moves, lock, rfl, .inl rfl, trivial⟩
  · refine ⟨moves, ?_⟩
    simp only [PauseOk, RelayState.dropGuard, lock]

theorem nextPass_quiet (moves : Moves rules (st.isCurrent own.lease = true) st.slot next.slot)
    (lock : next.mainLockStateTs = st.mainLockStateTs) :
    Quiet rules st own.lease (some own) (nextPass next own) :=
  ⟨moves, lock, rfl, .inr rfl, trivial⟩

theorem matched_job (matched : st.pendingMatches jobId expected = true) :
    ∃ job, st.activeJob = some job ∧ job.id = jobId ∧ job.pendingTransfer = some expected := by
  cases active : st.activeJob with
  | none => simp [RelayState.pendingMatches, active] at matched
  | some job =>
      simp only [RelayState.pendingMatches, active, Option.any_some, decide_eq_true_eq] at matched
      exact ⟨job, rfl, matched.1, matched.2⟩

theorem updatePending_matched (active : st.activeJob = some job)
    (has : job.pendingTransfer = some expected) (mark : ActiveRelayJob → ActiveRelayJob) :
    st.updatePending job.id expected mark = st.setActiveJob (mark job) := by
  simp [RelayState.updatePending, active, has]

theorem updateActiveJob_current (active : st.activeJob = some job)
    (owner : st.isCurrent lease = true) (open_phase : job.surplusPhasePlanned = false)
    (f : ActiveRelayJob → ActiveRelayJob) :
    st.updateActiveJob lease job.id f = st.setActiveJob (f job) := by
  simp [RelayState.updateActiveJob, active, owner, open_phase]

theorem updateActiveJob_lost (lost : st.isCurrent lease = false) (jobId : Nat)
    (f : ActiveRelayJob → ActiveRelayJob) : st.updateActiveJob lease jobId f = st := by
  unfold RelayState.updateActiveJob
  split
  · rfl
  · simp [lost]

theorem marked {next : ActiveRelayJob} (active : st.activeJob = some job)
    (mark : Mark rules job next) : Moves rules owner st.slot (st.setActiveJob next).slot := by
  rw [slot_of_active active]
  exact Relation.ReflTransGen.single (.mark st.past mark)

theorem settleSurplus_quiet (resolved : List ResolvedSurplusRecipient)
    (surveyed : st.isCurrent own.lease = true → Surveyed st.activeJob phase) :
    Quiet rules st own.lease (some own) (nextPass (settleSurplus st own phase resolved) own) := by
  cases current : st.isCurrent own.lease with
  | false =>
      have kept : settleSurplus st own phase resolved = st := by
        unfold settleSurplus
        split <;> exact updateActiveJob_lost current _ _
      rw [kept]
      exact nextPass_quiet .refl rfl
  | true =>
      rcases surveyed current with
        ⟨job, active, vacant, open_phase, topups, clean, same, known, fee⟩
      unfold settleSurplus
      rw [← same, ← known, ← fee]
      split
      · rw [updateActiveJob_current active current open_phase]
        refine nextPass_quiet ?_ rfl
        rw [slot_of_active active]
        exact .single (.plan _ current vacant (.surplus _ _ _ _ open_phase topups clean))
      · rw [updateActiveJob_current active current open_phase]
        refine nextPass_quiet ?_ rfl
        rw [slot_of_active active]
        exact .single (.plan _ current vacant (.disable _ open_phase topups (.inl clean)))

theorem resolveSurplusRecipients_quiet
    (surveyed : st.isCurrent own.lease = true → Surveyed st.activeJob phase)
    (remaining : List SurplusRecipient) (resolved : List ResolvedSurplusRecipient) :
    Quiet rules st own.lease (some own)
      (resolveSurplusRecipients st own phase remaining resolved) := by
  induction remaining generalizing resolved with
  | nil => exact settleSurplus_quiet resolved surveyed
  | cons recipient remaining ih =>
      unfold resolveSurplusRecipients
      split
      · exact ih _
      · exact quiet_await rfl rfl rfl (.inr rfl) surveyed

theorem onGovernance_quiet (surveyed : st.isCurrent own.lease = true → Surveyed st.activeJob phase)
    (recipient : SurplusRecipient) (remaining : List SurplusRecipient)
    (resolved : List ResolvedSurplusRecipient) (reply : Option (List UInt8)) :
    Quiet rules st own.lease (some own)
      (onGovernance st own phase recipient remaining resolved reply) := by
  cases reply with
  | some subaccount => exact resolveSurplusRecipients_quiet surveyed _ _
  | none =>
      simp only [onGovernance]
      cases current : st.isCurrent own.lease with
      | false =>
          rw [updateActiveJob_lost current]
          exact nextPass_quiet .refl rfl
      | true =>
          rcases surveyed current with ⟨job, active, vacant, open_phase, topups, clean, same, _⟩
          rw [← same, updateActiveJob_current active current open_phase]
          refine nextPass_quiet ?_ rfl
          rw [slot_of_active active]
          exact .single (.plan _ current vacant (.disable _ open_phase topups (.inl clean)))

theorem topups_done (ended : job.topupPhaseDoneAndSurplusUnplanned = true) :
    job.remainingTopups = [] ∧ job.surplusPhasePlanned = false := by
  simp only [ActiveRelayJob.topupPhaseDoneAndSurplusUnplanned, Bool.and_eq_true,
    decide_eq_true_eq, Bool.not_eq_true'] at ended
  exact ⟨List.drop_eq_nil_of_le ended.1, ended.2⟩

theorem planSurplusPhase_quiet (active : st.activeJob = some job)
    (owner : st.isCurrent own.lease = true) (vacant : job.pendingTransfer = none)
    (ended : job.topupPhaseDoneAndSurplusUnplanned = true)
    (may : (job.surplusAllowedAfterTopups.isNone || rules.disable job) = true) :
    Quiet rules st own.lease (some own) (planSurplusPhase st own job) := by
  have open_phase := topups_done ended
  unfold planSurplusPhase
  split
  · rename_i reason refused
    rw [updateActiveJob_current active owner open_phase.2]
    refine nextPass_quiet ?_ rfl
    rw [slot_of_active active]
    have allowed : rules.disable job := by simpa [refused] using may
    exact .single (.plan _ owner vacant (.disable _ open_phase.2 open_phase.1 (.inr allowed)))
  · rename_i clean
    apply resolveSurplusRecipients_quiet
    intro _
    exact ⟨job, active, vacant, open_phase.2, open_phase.1, clean, rfl, rfl, rfl⟩

theorem driveAccepted_quiet
    (moves : Moves rules (before.isCurrent own.lease = true) before.slot st.slot)
    (lock : st.mainLockStateTs = before.mainLockStateTs) (active : st.activeJob = some job)
    (has : job.pendingTransfer = some accepted) (phase : accepted.phase ≠ .awaitingTransfer) :
    Quiet rules before own.lease (some own) (driveAccepted st own job.id accepted) := by
  unfold driveAccepted
  split
  · exact ⟨moves, lock, rfl, .inr rfl, phase⟩
  · have matched : st.pendingMatches job.id accepted = true := by
      simp [RelayState.pendingMatches, active, has]
    have marks : st.markPendingCompleted job.id accepted none =
        st.setActiveJob (job.completePending none) := by
      simp only [RelayState.markPendingCompleted, matched, if_true]
      exact updatePending_matched active has _
    rw [marks]
    exact nextPass_quiet (moves.trans (marked active (.complete none has phase))) lock

theorem drivePendingTransfer_quiet {pending : PendingTransfer} (active : st.activeJob = some job)
    (has : job.pendingTransfer = some pending) :
    Quiet rules st own.lease (some own) (drivePendingTransfer st own job pending) := by
  unfold drivePendingTransfer
  split
  · rename_i awaiting
    split
    · refine ⟨.refl, rfl, rfl, rfl, awaiting, ?_⟩
      simp [RelayState.pendingMatches, active, has]
    · have marks : st.markPendingAmbiguous job.id pending =
          st.setActiveJob (job.ambiguousPending pending) := updatePending_matched active has _
      rw [marks]
      exact nextPass_quiet (marked active (.ambiguous has awaiting)) rfl
  · rename_i block accepted
    apply driveAccepted_quiet .refl rfl active has
    rw [accepted]
    simp

theorem nextPayable_none {α : Type} {amountE8s : α → Nat} {samples : List α} {index : Nat}
    (found : nextPayable amountE8s samples index = none) :
    ∀ sample ∈ samples, amountE8s sample = 0 := by
  induction samples generalizing index with
  | nil => simp
  | cons sample samples ih =>
      simp only [nextPayable] at found
      split at found
      · rename_i zero
        intro other member
        rcases List.mem_cons.mp member with rfl | later
        · exact zero
        · exact ih found other later
      · cases found

theorem nextTopupPending_none (none_left : (job.nextTopupPending number nowNanos).2 = false) :
    (job.nextTopupPending number nowNanos).1 =
      { job with nextTransferIndex := max job.nextTransferIndex job.canisters.length } ∧
      job.topupsRemain = false := by
  unfold ActiveRelayJob.nextTopupPending at none_left ⊢
  split at none_left
  · rename_i found
    refine ⟨rfl, ?_⟩
    have zero := nextPayable_none found
    simp only [ActiveRelayJob.topupsRemain, List.any_eq_false, decide_eq_true_eq]
    intro sample member
    have nothing := zero sample member
    omega
  · cases none_left

theorem nextSurplusPending_none (none_left : (job.nextSurplusPending number nowNanos).2 = false) :
    (job.nextSurplusPending number nowNanos).1.remainingSurplus = [] := by
  unfold ActiveRelayJob.nextSurplusPending at none_left ⊢
  split at none_left
  · rename_i empty
    rw [if_pos empty]
    simp [ActiveRelayJob.remainingSurplus, List.isEmpty_iff.mp empty]
  · rename_i filled
    rw [if_neg filled]
    split at none_left
    · rename_i reason refused
      simp [ActiveRelayJob.remainingSurplus]
    · split at none_left
      · exact List.drop_eq_nil_of_le (Nat.le_max_right _ _)
      · cases none_left

theorem planNextTransfer_done
    (finished : (job.planNextTransfer limit started number nowNanos).2 = .done) :
    (job.planNextTransfer limit started number nowNanos).1.remainingTopups = [] ∧
      (job.planNextTransfer limit started number nowNanos).1.remainingSurplus = [] := by
  simp only [ActiveRelayJob.planNextTransfer] at finished ⊢
  split at finished
  · rename_i nothing
    rw [if_pos nothing]
    simp [ActiveRelayJob.remainingTopups, ActiveRelayJob.remainingSurplus]
  · rename_i something
    rw [if_neg something]
    split at finished
    · cases finished
    · rename_i within
      rw [if_neg within]
      split at finished
      · cases finished
      · rename_i no_topup
        rw [if_neg no_topup]
        have topup := nextTopupPending_none (by simpa using no_topup)
        split at finished
        · cases finished
        · rename_i no_surplus
          rw [if_neg no_surplus]
          refine ⟨?_, nextSurplusPending_none (by simpa using no_surplus)⟩
          rw [topup.1]
          simp only [ActiveRelayJob.nextSurplusPending, ActiveRelayJob.remainingTopups]
          split
          · exact List.drop_eq_nil_of_le (Nat.le_max_right _ _)
          · split
            · exact List.drop_eq_nil_of_le (Nat.le_max_right _ _)
            · split
              · exact List.drop_eq_nil_of_le (Nat.le_max_right _ _)
              · exact List.drop_eq_nil_of_le (Nat.le_max_right _ _)

theorem planNextTransfer_vacant (vacant : job.pendingTransfer = none)
    (unplanned : (job.planNextTransfer limit started number nowNanos).2 ≠ .planned) :
    (job.planNextTransfer limit started number nowNanos).1.pendingTransfer = none := by
  simp only [ActiveRelayJob.planNextTransfer] at unplanned ⊢
  split
  · exact vacant
  · split
    · exact vacant
    · split
      · rename_i something within planned
        simp only [if_neg something, if_neg within, if_pos planned, ne_eq,
          not_true_eq_false] at unplanned
      · rename_i something within no_topup
        simp only [if_neg something, if_neg within, if_neg no_topup] at unplanned
        have topup := nextTopupPending_none (by simpa using no_topup)
        split
        · rename_i planned
          simp only [if_pos planned, ne_eq, not_true_eq_false] at unplanned
        · rename_i no_surplus
          rw [topup.1] at no_surplus ⊢
          simp only [ActiveRelayJob.nextSurplusPending] at no_surplus ⊢
          split
          · exact vacant
          · rename_i filled
            rw [if_neg filled] at no_surplus
            split
            · exact vacant
            · rename_i clean
              simp only [clean] at no_surplus
              split
              · exact vacant
              · rename_i found
                simp [found] at no_surplus

theorem completeJob_moves (owns : owner) (active : st.activeJob = some job)
    (vacant : job.pendingTransfer = none) (topups : job.remainingTopups = [])
    (surplus : job.remainingSurplus = []) (managed : List Principal) (nowNanos : Nat) :
    Moves rules owner st.slot (st.completeJob managed nowNanos).slot := by
  have slot : (st.completeJob managed nowNanos).slot =
      (none, ⟨job.finished nowNanos, true⟩ :: st.past) := by
    simp only [RelayState.completeJob, active, RelayState.slot]
    rfl
  rw [slot, slot_of_active active]
  exact .single (.complete st.past owns vacant topups surplus nowNanos)

theorem lock_completeJob (st : RelayState) (managed : List Principal) (nowNanos : Nat) :
    (st.completeJob managed nowNanos).mainLockStateTs = st.mainLockStateTs := by
  unfold RelayState.completeJob
  split <;> rfl

theorem driveActiveJobStep_segment (may : rules.allowsPass st nowNanos = true) :
    Quiet rules st own.lease (some own) (driveActiveJobStep relayId st own nowNanos) ∨
      ∃ job next, Stages rules st nowNanos own job next
        (driveActiveJobStep relayId st own nowNanos) := by
  unfold driveActiveJobStep
  split
  · exact .inl (returnFromDrive_quiet .refl rfl)
  · rename_i kept
    have owner : st.isCurrent own.lease = true := by simpa using kept
    split
    · exact .inl (returnFromDrive_quiet .refl rfl)
    · rename_i job active
      split
      · rename_i pending has
        exact .inl (drivePendingTransfer_quiet active has)
      · rename_i vacant
        have allowed := may
        simp only [JobRules.allowsPass, active, Option.all_some, vacant, Option.isSome_none,
          Bool.false_or] at allowed
        split
        · rename_i ended
          rw [if_pos ended] at allowed
          exact .inl (planSurplusPhase_quiet active owner vacant ended allowed)
        · rename_i open_topups
          rw [if_neg open_topups] at allowed
          have rested : ∀ next step,
              job.planNextTransfer own.limit own.started own.number nowNanos = (next, step) →
              step ≠ .planned →
              Move rules (st.isCurrent own.lease = true) st.slot (st.setActiveJob next).slot ∧
                next.pendingTransfer = none := by
            intro next step planned other
            have unplanned :
                (job.planNextTransfer own.limit own.started own.number nowNanos).2 ≠ .planned := by
              rw [planned]
              exact other
            have free := planNextTransfer_vacant vacant unplanned
            have rest := Planning.rest _ _ _ _ allowed unplanned
            rw [planned] at free rest
            rw [slot_of_active active]
            exact ⟨.plan _ owner vacant rest, free⟩
          split
          · rename_i next planned
            exact .inr ⟨job, next, owner, active, vacant, allowed, planned, rfl⟩
          · rename_i next planned
            exact .inl (returnFromDrive_quiet (.single (rested next _ planned (by simp)).1) rfl)
          · rename_i next planned
            have step := rested next _ planned (by simp)
            have rest := planNextTransfer_done (by rw [planned])
            rw [planned] at rest
            split
            · exact .inl (nextPass_quiet (.single step.1) rfl)
            · left
              refine returnFromDrive_quiet ?_ (lock_completeJob _ _ _)
              apply Relation.ReflTransGen.trans (.single step.1)
              exact completeJob_moves owner rfl step.2 rest.1 rest.2 _ _

theorem stopForFeeChange_quiet {next : ActiveRelayJob}
    (slot : before.slot = (some job, before.past)) (active : st.activeJob = some next)
    (past : st.past = before.past) (lock : st.mainLockStateTs = before.mainLockStateTs)
    (stopped : Stopping rules job next) :
    Quiet rules before own.lease (some own) (stopForFeeChange relayId st own) := by
  have slots : (st.stopActiveJobForLedgerFeeChange (effectiveManagedCanisters relayId st.config)
      own.nowNanos).slot = (none, ⟨next.returnUnsent.finished own.nowNanos, true⟩ :: st.past) := by
    simp only [RelayState.stopActiveJobForLedgerFeeChange, active]
    rfl
  refine nextPass_quiet ?_ ?_
  · rw [slots, slot, past]
    exact .single (.stop _ stopped own.nowNanos)
  · simp only [RelayState.stopActiveJobForLedgerFeeChange, active]
    rw [lock_completeJob]
    exact lock

theorem accept_quiet {block : Nat} (active : st.activeJob = some job)
    (has : job.pendingTransfer = some staged) (awaiting : staged.phase = .awaitingTransfer) :
    Quiet rules st own.lease (some own) (acceptTransfer st own job.id staged block) := by
  have marks : st.markPendingLedgerAccepted job.id staged block =
      st.setActiveJob (job.acceptPending staged block) := updatePending_matched active has _
  have id : job.id = (job.acceptPending staged block).id := rfl
  unfold acceptTransfer
  rw [marks, id]
  refine driveAccepted_quiet (marked active (.accept block has awaiting)) rfl rfl ?_ (by simp)
  rfl

theorem onFirstTransfer_quiet (awaiting : staged.phase = .awaitingTransfer)
    (may : rules.allowsOutcome st staged (transferOnce reply) = true) :
    Quiet rules st own.lease (some own)
      (onFirstTransfer relayId st own jobId feeE8s staged reply) := by
  unfold onFirstTransfer
  split
  · exact returnFromDrive_quiet .refl rfl
  · rename_i matched
    have pending : st.pendingMatches jobId staged = true := by simpa using matched
    rcases matched_job pending with ⟨job, active, rfl, has⟩
    have allowed : (transferOnce reply).definite = true → rules.fail job := by
      intro definite
      simpa [JobRules.allowsOutcome, active, has, definite] using may
    split
    · exact accept_quiet active has awaiting
    · exact ⟨.refl, rfl, rfl, rfl, awaiting, pending⟩
    · rename_i expectedFee outcome
      have failed : rules.fail job := allowed (by rw [outcome]; rfl)
      have recorded : (st.recordBadFee expectedFee).activeJob = some job := by
        rw [active_of_slot (slot_recordBadFee st expectedFee), active]
      have marks : (st.recordBadFee expectedFee).markPendingFailed job.id staged =
          (st.recordBadFee expectedFee).setActiveJob (job.failPending staged) :=
        updatePending_matched recorded has _
      rw [marks]
      exact stopForFeeChange_quiet (slot_of_active active) rfl
        (congrArg Prod.snd (slot_recordBadFee st expectedFee)) (lock_recordBadFee st expectedFee)
        (.failed failed has awaiting)
    · rename_i outcome
      have failed : rules.fail job := allowed (by rw [outcome]; rfl)
      have marks : st.markPendingFailed job.id staged = st.setActiveJob (job.failPending staged) :=
        updatePending_matched active has _
      rw [marks]
      exact nextPass_quiet (marked active (.fail has awaiting failed)) rfl

theorem onSecondTransfer_quiet (awaiting : staged.phase = .awaitingTransfer) :
    Quiet rules st own.lease (some own) (onSecondTransfer relayId st own jobId staged reply) := by
  unfold onSecondTransfer
  split
  · exact returnFromDrive_quiet .refl rfl
  · rename_i matched
    have pending : st.pendingMatches jobId staged = true := by simpa using matched
    rcases matched_job pending with ⟨job, active, rfl, has⟩
    have ambiguous : Quiet rules st own.lease (some own)
        (nextPass (st.markPendingAmbiguous job.id staged) own) := by
      have marks : st.markPendingAmbiguous job.id staged =
          st.setActiveJob (job.ambiguousPending staged) := updatePending_matched active has _
      rw [marks]
      exact nextPass_quiet (marked active (.ambiguous has awaiting)) rfl
    split
    · exact accept_quiet active has awaiting
    · rename_i expectedFee outcome
      have recorded : (st.recordBadFee expectedFee).activeJob = some job := by
        rw [active_of_slot (slot_recordBadFee st expectedFee), active]
      have marks : (st.recordBadFee expectedFee).markPendingAmbiguous job.id staged =
          (st.recordBadFee expectedFee).setActiveJob (job.ambiguousPending staged) :=
        updatePending_matched recorded has _
      rw [marks]
      exact stopForFeeChange_quiet (slot_of_active active) rfl
        (congrArg Prod.snd (slot_recordBadFee st expectedFee)) (lock_recordBadFee st expectedFee)
        (.ambiguous has awaiting)
    · exact ambiguous
    · exact ambiguous

theorem onNotify_quiet {canisterId : Principal} {first : Option NotifyAttemptOutcome}
    {reply : NotifyAttemptOutcome} (phase : accepted.phase ≠ .awaitingTransfer) :
    Quiet rules st own.lease (some own)
      (onNotify st own jobId accepted canisterId first reply) := by
  unfold onNotify
  split
  · exact returnFromDrive_quiet .refl rfl
  · rename_i matched
    have pending : st.pendingMatches jobId accepted = true := by simpa using matched
    rcases matched_job pending with ⟨job, active, rfl, has⟩
    split
    · rename_i mintedCycles
      have marks : (st.markPendingCompleted job.id accepted (some (canisterId, mintedCycles))).slot
          = (st.setActiveJob (job.completePending (some (canisterId, mintedCycles)))).slot := by
        simp only [RelayState.markPendingCompleted, pending, if_true,
          updatePending_matched active has]
        rfl
      refine nextPass_quiet ?_ ?_
      · rw [marks]
        exact marked active (.complete _ has phase)
      · simp only [RelayState.markPendingCompleted, pending, if_true,
          updatePending_matched active has]
        rfl
    · exact ⟨.refl, rfl, rfl, .inr rfl, phase⟩
    · have marks : st.markPendingFailedAfterAcceptance job.id accepted =
          st.setActiveJob job.failPendingAfterAcceptance := updatePending_matched active has _
      rw [marks]
      exact nextPass_quiet (marked active (.failAfter has phase)) rfl
    · have marks : st.markPendingAmbiguousAfterAcceptance job.id accepted =
          st.setActiveJob (job.ambiguousPendingAfterAcceptance accepted) :=
        updatePending_matched active has _
      rw [marks]
      exact nextPass_quiet (marked active (.ambiguousAfter has phase)) rfl

end Drive

theorem onStages_quiet (nowNanos : Nat) (poke completed : Bool) :
    Quiet rules st lease none (onStages st lease nowNanos poke completed) := by
  unfold onStages
  split
  · exact quiet_done rfl rfl
  · split
    · unfold startJob
      split
      · exact quiet_await rfl rfl rfl (.inl rfl) trivial
      · exact ⟨.refl, rfl, rfl, rfl⟩
    · split
      · exact quiet_done rfl rfl
      · exact ⟨.refl, rfl, rfl, rfl⟩

def JobReply.small : JobReply → Prop
  | .amount (some value) => value ≤ u64Max
  | _ => True

/-- Every resumed segment is quiet, or the pass of a drive loop that stages a transfer. -/
theorem resumeJob_segment {reply : JobReply} {result : RelayState × JobPause}
    (kontOk : JobKontOk st kont) (small : reply.small)
    (allowed : rules.allowsResume st nowNanos kont reply = true)
    (resumed : resumeJob relayId st nowNanos kont reply = some result) :
    Quiet rules st kont.lease kont.tick result ∨
      ∃ tick job next, kont = .loop tick ∧ Stages rules st nowNanos tick job next result := by
  unfold resumeJob at resumed
  split at resumed <;> cases resumed
  · exact .inl (onStages_quiet _ _ _)
  · exact .inl (onProbe_quiet _ _)
  · rename_i balance
    refine .inl (onBalance_quiet _ ?_)
    rintro amount rfl
    exact small
  · exact .inl (onFee_quiet _ kontOk allowed)
  · exact .inl (installJob_quiet _ (slot_refresh _ _ _) (lock_refresh _ _ _) kontOk allowed)
  · rename_i tick
    rcases driveActiveJobStep_segment allowed with quiet | ⟨job, next, stages⟩
    · exact .inl quiet
    · exact .inr ⟨tick, job, next, rfl, stages⟩
  · exact .inl (onGovernance_quiet kontOk _ _ _ _)
  · exact .inl (onFirstTransfer_quiet kontOk allowed)
  · exact .inl (onSecondTransfer_quiet kontOk)
  · exact .inl (onNotify_quiet kontOk)
  · exact .inl (quiet_done rfl rfl)

end JupiterSuite.Relay
