import JupiterSuite.Relay.CycleRuns

/-! What the probes and the cycles minting canister have answered, noted when a reply is delivered,
beside the accounts that the relay keeps of it. The accounts are those of the noted answers, and
the burn of every canister telescopes. -/

namespace JupiterSuite.Relay

open Base

structure NotedRun where
  cycles : List (Principal × Nat)
  mints : List (Principal × Nat)
  deriving DecidableEq, Repr

inductive NotedUpdate where
  | baseline (fresh : List (Principal × Nat))
  | run (noted : NotedRun)
  deriving DecidableEq, Repr

/-- The finished updates, the latest first, and the run that has not finished. -/
structure CycleLog where
  updates : List NotedUpdate
  running : Option NotedRun
  deriving DecidableEq, Repr

namespace CycleLog

def update (log : CycleLog) (noted : NotedUpdate) : CycleLog :=
  { log with updates := noted :: log.updates }

def mint (log : CycleLog) (canisterId : Principal) (mintedCycles : Nat) : CycleLog :=
  { log with
    running := log.running.map fun run =>
      { run with mints := (canisterId, mintedCycles) :: run.mints } }

/-- What a reply says about cycles: first baselines, a probe for which there is no money, or a
mint. Only the current start is listened to, and only for the transfer that is still pending. -/
def hear (st : RelayState) (observed : List (Principal × Nat)) (log : CycleLog) :
    JobKont → JobReply → CycleLog
  | .probe start, .probed snapshots false =>
      if jobGenerationMatches st start &&
          !(snapshots.all fun entry => (st.lastCompletedCycles entry.1).isSome) then
        log.update (.baseline
          (snapshots.filter fun entry => (st.lastCompletedCycles entry.1).isNone))
      else log
  | .fee start _ 0, .amount _ =>
      if jobGenerationMatches st start then log.update (.run ⟨observed, []⟩) else log
  | .notify _ jobId accepted canisterId _, .notify (.succeeded mintedCycles) =>
      if st.pendingMatches jobId accepted then log.mint canisterId mintedCycles else log
  | _, _ => log

/-- A run begins with what its task's probe observed, and ends with the mints heard since. -/
def settle (observed : List (Principal × Nat)) (active : Bool) (log : CycleLog) : CycleLog :=
  match log.running, active with
  | some run, false => ⟨.run run :: log.updates, none⟩
  | none, true => ⟨log.updates, some ⟨observed, []⟩⟩
  | _, _ => log

end CycleLog

structure CycleSystem where
  jobs : JobSystem
  /-- By task, what its last probe answered. -/
  probes : Nat → List (Principal × Nat)
  log : CycleLog

def probed (earlier : List (Principal × Nat)) : JobReply → List (Principal × Nat)
  | .probed snapshots _ => snapshots
  | _ => earlier

def CycleSystem.note (sys : CycleSystem) (next : JobSystem) : JobEvent → CycleSystem
  | .resume id reply _ =>
      match sys.jobs.tasks id with
      | none => { sys with jobs := next }
      | some kont =>
          let observed := probed (sys.probes id) reply
          { jobs := next
            probes := Function.update sys.probes id observed
            log := (sys.log.hear sys.jobs.state observed kont reply).settle observed
              next.state.activeJob.isSome }
  | .upgrade _ => ⟨next, fun _ => [], ⟨[], none⟩⟩
  | _ => { sys with jobs := next }

def stepCycles (relayId : Principal) (sys : CycleSystem) (event : JobEvent) :
    Option CycleSystem :=
  (stepJob relayId sys.jobs event).map fun next => sys.note next event

def cycleMachine (relayId : Principal) : Machine CycleSystem JobEvent where
  init := fun sys => ∃ jobs, (jobMachine relayId).init jobs ∧ sys = ⟨jobs, fun _ => [], ⟨[], none⟩⟩
  step := stepCycles relayId

def AccountUpdate.noted : AccountUpdate → NotedUpdate
  | .baseline fresh => .baseline fresh
  | .run samples mints => .run ⟨samples.map cyclesSeen, mints⟩

/-- What the relay itself has kept. -/
def RelayState.kept (st : RelayState) : CycleLog where
  updates := st.records.map fun record => record.update.noted
  running := st.activeJob.map fun job => ⟨job.plans.map cyclesSeen, st.mints⟩

variable {jobId nowNanos id : Nat} {result : RelayState × JobPause} {sys : CycleSystem}

section Segments

variable {relayId : Principal} {st next : RelayState} {own : Tick} {start : JobStart}
  {observed : List (Principal × Nat)} {log middle final : CycleLog}

/-- What one segment makes of the log besides what it hears. -/
inductive CycleLog.Goes (observed : List (Principal × Nat)) : CycleLog → CycleLog → Prop where
  | on (log : CycleLog) : Goes observed log log
  | begins (updates : List NotedUpdate) :
      Goes observed ⟨updates, none⟩ ⟨updates, some ⟨observed, []⟩⟩
  | ends (updates : List NotedUpdate) (run : NotedRun) :
      Goes observed ⟨updates, some run⟩ ⟨.run run :: updates, none⟩

theorem goes_same (same : middle = log) : log.Goes observed middle := by
  subst same
  exact .on middle

theorem goes_settle (goes : log.Goes observed next.kept) :
    next.kept = log.settle observed next.activeJob.isSome := by
  have active : next.activeJob.isSome = next.kept.running.isSome := by
    simp only [RelayState.kept, Option.isSome_map]
  rw [active]
  generalize next.kept = kept at goes
  cases goes with
  | on =>
      rcases log with ⟨updates, _ | run⟩
      · rfl
      · rfl
  | begins updates => rfl
  | ends updates run => rfl

/-- The probe that a continuation of a start still carries. -/
def JobKont.current : JobKont → Option (List (Principal × Nat))
  | .balance _ current | .fee _ current _ | .conversion _ current _ _ => some current
  | _ => none

def JobPause.current : JobPause → Option (List (Principal × Nat))
  | .await kont => kont.current
  | _ => none

structure Heard (log : CycleLog) (observed : List (Principal × Nat))
    (result : RelayState × JobPause) : Prop where
  goes : log.Goes observed result.1.kept
  carried : ∀ current, result.2.current = some current → current = observed

theorem kept_setActiveJob {job next : ActiveRelayJob} (active : st.activeJob = some job)
    (same : SameRun job next) : (st.setActiveJob next).kept = st.kept := by
  simp only [RelayState.kept, RelayState.setActiveJob, active, Option.map_some, same.plans]

theorem kept_updatePending {expected : PendingTransfer} {mark : ActiveRelayJob → ActiveRelayJob}
    (same : ∀ job, job.pendingTransfer = some expected → SameRun job (mark job)) :
    (st.updatePending jobId expected mark).kept = st.kept := by
  unfold RelayState.updatePending
  split
  · rfl
  · rename_i job active
    split
    · rename_i matched
      exact kept_setActiveJob active (same job matched.2)
    · rfl

theorem kept_updateActiveJob {lease : Nat} {f : ActiveRelayJob → ActiveRelayJob}
    (same : ∀ job, SameRun job (f job)) : (st.updateActiveJob lease jobId f).kept = st.kept := by
  unfold RelayState.updateActiveJob
  split
  · rfl
  · rename_i job active
    split
    · exact kept_setActiveJob active (same job)
    · rfl

theorem kept_recordBadFee (st : RelayState) (expectedFee : Nat) :
    (st.recordBadFee expectedFee).kept = st.kept := by
  unfold RelayState.recordBadFee
  split <;> rfl

theorem kept_resolveFee (st : RelayState) (reply : Option Nat) :
    (st.resolveIcpLedgerFeeE8s reply).1.kept = st.kept := by
  cases reply <;> rfl

theorem kept_refresh (st : RelayState) (lease : Nat) (rate : Option (Nat × Nat)) :
    (refreshConversionEstimate st lease rate).kept = st.kept := by
  unfold refreshConversionEstimate
  split
  · rfl
  · split <;> rfl

theorem kept_completeJob {job : ActiveRelayJob} (active : st.activeJob = some job)
    (managed : List Principal) (nowNanos : Nat) :
    st.kept.Goes observed (st.completeJob managed nowNanos).kept := by
  have samples : ((job.finished nowNanos).canisters.map CanisterBurnSample.toBurnPlan).map
      cyclesSeen = job.plans.map cyclesSeen := by
    rw [finished_plans, List.map_map]
    rfl
  have before : st.kept = ⟨st.records.map fun record => record.update.noted,
      some ⟨job.plans.map cyclesSeen, st.mints⟩⟩ := by
    simp only [RelayState.kept, active, Option.map_some]
  have after : (st.completeJob managed nowNanos).kept =
      ⟨.run ⟨job.plans.map cyclesSeen, st.mints⟩ ::
        st.records.map fun record => record.update.noted, none⟩ := by
    simp only [RelayState.completeJob, active]
    rw [← samples]
    rfl
  rw [before, after]
  exact .ends _ _

theorem afterStart_heard (goes : log.Goes observed next.kept) :
    Heard log observed (afterStart next start) := by
  unfold afterStart
  split
  · exact ⟨goes, nofun⟩
  · exact ⟨goes, nofun⟩

theorem returnFromDrive_heard (completed : Bool) (goes : log.Goes observed next.kept) :
    Heard log observed (returnFromDrive next own completed) := by
  unfold returnFromDrive
  split
  · exact ⟨goes, nofun⟩
  · exact ⟨goes, nofun⟩

theorem nextPass_heard (goes : log.Goes observed next.kept) :
    Heard log observed (nextPass next own) := ⟨goes, nofun⟩

theorem vacant_generation (current : jobGenerationMatches st start = true) :
    st.kept = ⟨st.kept.updates, none⟩ := by
  simp only [RelayState.kept, idle_of_generation current, Option.map_none]

theorem kept_baseline (accounted : Accounted relayId st) (snapshots : List (Principal × Nat))
    (nowNanos : Nat) :
    (completeBaselineSample relayId st snapshots nowNanos).kept =
      st.kept.update (.baseline
        (snapshots.filter fun entry => (st.lastCompletedCycles entry.1).isNone)) := by
  simp only [completeBaselineSample, retain_effective accounted]
  rfl

theorem onProbe_heard (snapshots : List (Principal × Nat)) (transientFailures : Bool)
    (accounted : Accounted relayId st) :
    Heard (st.kept.hear st snapshots (.probe start) (.probed snapshots transientFailures))
      snapshots (onProbe relayId st start snapshots transientFailures) := by
  cases transientFailures with
  | true =>
      simp only [onProbe, CycleLog.hear, if_true]
      split
      · exact afterStart_heard (.on _)
      · exact afterStart_heard (.on _)
  | false =>
      simp only [onProbe, CycleLog.hear, Bool.false_eq_true, if_false]
      cases jobGenerationMatches st start with
      | false => exact afterStart_heard (.on _)
      | true =>
          cases snapshots.all fun entry => (st.lastCompletedCycles entry.1).isSome with
          | true =>
              refine ⟨.on _, ?_⟩
              intro carried here
              cases here
              rfl
          | false =>
              apply afterStart_heard
              exact goes_same (kept_baseline accounted snapshots _)

theorem onBalance_heard (balance : Option Nat) :
    Heard st.kept observed (onBalance st start observed balance) := by
  unfold onBalance
  split
  · exact afterStart_heard (.on _)
  · split
    · exact afterStart_heard (.on _)
    · refine ⟨.on _, ?_⟩
      intro carried here
      cases here
      rfl

theorem kept_buildJob (st : RelayState) (start : JobStart) (current : List (Principal × Nat))
    (balance feeE8s : Nat) :
    (buildJob st start current balance feeE8s).plans.map cyclesSeen = current := by
  have plans : (buildJob st start current balance feeE8s).plans =
      (allocationFor st current balance feeE8s st.conversionEstimate start.nowNanos).topups := by
    simp only [ActiveRelayJob.plans, buildJob, List.map_map]
    exact List.map_id' _
  rw [plans]
  exact cyclesSeen_planned
    (cycles_allocationFor st current balance feeE8s st.conversionEstimate start.nowNanos)

theorem installJob_heard (balance feeE8s : Nat) :
    Heard st.kept observed (installJob st start observed balance feeE8s) := by
  unfold installJob
  split
  · exact afterStart_heard (.on _)
  · rename_i current
    apply afterStart_heard
    rw [vacant_generation (by simpa using current)]
    have seen := kept_buildJob st start observed balance feeE8s
    have begun : CycleLog.Goes observed _ _ := .begins st.kept.updates
    simp only [RelayState.kept, Option.map_some, seen]
    exact begun

theorem kept_noFunds (st : RelayState) (current : List (Principal × Nat)) (feeE8s nowNanos : Nat) :
    (completeNoFundsSample relayId st current feeE8s nowNanos).kept =
      st.kept.update (.run ⟨current, []⟩) := by
  have seen := cyclesSeen_planned (cycles_allocationFor st current 0 feeE8s none nowNanos)
  have samples : (st.samples current).current = current := rfl
  rw [samples] at seen
  simp only [RelayState.kept, completeNoFundsSample, RelayState.record, List.map_cons,
    AccountUpdate.noted, seen, CycleLog.update]
  rfl

theorem onFee_heard (balance : Nat) (reply : Option Nat) :
    Heard (st.kept.hear st observed (.fee start observed balance) (.amount reply)) observed
      (onFee relayId st start observed balance reply) := by
  have same := kept_resolveFee st reply
  have matched : jobGenerationMatches (st.resolveIcpLedgerFeeE8s reply).1 start =
      jobGenerationMatches st start := by
    cases reply <;> rfl
  cases balance with
  | zero =>
      simp only [onFee, CycleLog.hear, matched]
      cases jobGenerationMatches st start with
      | false => exact afterStart_heard (goes_same same)
      | true =>
          apply afterStart_heard
          apply goes_same
          rw [← same]
          exact kept_noFunds _ observed _ _
  | succ balance =>
      have unheard : st.kept.hear st observed (.fee start observed (balance + 1)) (.amount reply) =
          (st.resolveIcpLedgerFeeE8s reply).1.kept := by
        rw [same]
        rfl
      rw [unheard]
      simp only [onFee]
      split
      · exact afterStart_heard (.on _)
      · rw [if_neg (Nat.succ_ne_zero balance)]
        split
        · refine ⟨.on _, ?_⟩
          intro carried here
          cases here
          rfl
        · exact installJob_heard _ _

theorem onConversion_heard (balance feeE8s : Nat) (rate : Option (Nat × Nat)) :
    Heard st.kept observed (onConversion st start observed balance feeE8s rate) := by
  rw [← kept_refresh st start.lease rate]
  exact installJob_heard balance feeE8s

theorem kept_settleSurplus (phase : SurplusPhase) (resolved : List ResolvedSurplusRecipient) :
    (settleSurplus st own phase resolved).kept = st.kept := by
  unfold settleSurplus
  split
  · exact kept_updateActiveJob fun job => .of_pending rfl rfl rfl
  · exact kept_updateActiveJob fun job => .of_pending rfl rfl rfl

theorem resolveSurplusRecipients_heard (phase : SurplusPhase) (remaining : List SurplusRecipient)
    (resolved : List ResolvedSurplusRecipient) :
    Heard st.kept observed (resolveSurplusRecipients st own phase remaining resolved) := by
  induction remaining generalizing resolved with
  | nil => exact nextPass_heard (goes_same (kept_settleSurplus phase resolved))
  | cons recipient remaining ih =>
      unfold resolveSurplusRecipients
      split
      · exact ih _
      · exact ⟨.on _, nofun⟩

theorem onGovernance_heard (phase : SurplusPhase) (recipient : SurplusRecipient)
    (remaining : List SurplusRecipient) (resolved : List ResolvedSurplusRecipient)
    (result : Option (List UInt8)) :
    Heard st.kept observed (onGovernance st own phase recipient remaining resolved result) := by
  cases result with
  | none =>
      exact nextPass_heard (goes_same (kept_updateActiveJob fun job => .of_pending rfl rfl rfl))
  | some subaccount => exact resolveSurplusRecipients_heard phase remaining _

theorem planSurplusPhase_heard (job : ActiveRelayJob) :
    Heard st.kept observed (planSurplusPhase st own job) := by
  unfold planSurplusPhase
  split
  · exact nextPass_heard (goes_same (kept_updateActiveJob fun job => .of_pending rfl rfl rfl))
  · exact resolveSurplusRecipients_heard _ _ _

theorem kept_markPendingPaid (jobId : Nat) (accepted : PendingTransfer) :
    (st.markPendingCompleted jobId accepted none).kept = st.kept := by
  unfold RelayState.markPendingCompleted
  split
  · exact kept_updatePending fun job _ => .of_vacant rfl rfl rfl
  · rfl

theorem driveAccepted_heard (jobId : Nat) (accepted : PendingTransfer) :
    Heard st.kept observed (driveAccepted st own jobId accepted) := by
  unfold driveAccepted
  split
  · exact ⟨.on _, nofun⟩
  · exact nextPass_heard (goes_same (kept_markPendingPaid jobId accepted))

theorem drivePendingTransfer_heard (job : ActiveRelayJob) (pending : PendingTransfer) :
    Heard st.kept observed (drivePendingTransfer st own job pending) := by
  unfold drivePendingTransfer
  split
  · split
    · exact ⟨.on _, nofun⟩
    · exact nextPass_heard (goes_same (kept_updatePending fun job _ => .of_vacant rfl rfl rfl))
  · exact driveAccepted_heard _ _

theorem driveActiveJobStep_heard (nowNanos : Nat) :
    Heard st.kept observed (driveActiveJobStep relayId st own nowNanos) := by
  unfold driveActiveJobStep
  split
  · exact returnFromDrive_heard _ (.on _)
  · split
    · exact returnFromDrive_heard _ (.on _)
    · rename_i job active
      split
      · exact drivePendingTransfer_heard _ _
      · rename_i vacant
        split
        · exact planSurplusPhase_heard _
        · have planned := sameRun_plan own.limit own.started own.number nowNanos vacant
          split <;> rename_i next step <;> rw [step] at planned <;>
            have same := kept_setActiveJob active planned
          · exact nextPass_heard (goes_same same)
          · exact returnFromDrive_heard _ (goes_same same)
          · split
            · exact nextPass_heard (goes_same same)
            · apply returnFromDrive_heard
              rw [← same]
              exact kept_completeJob rfl _ _

theorem stopForFeeChange_heard (same : next.kept = st.kept) :
    Heard st.kept observed (stopForFeeChange relayId next own) := by
  apply nextPass_heard
  rw [← same]
  unfold RelayState.stopActiveJobForLedgerFeeChange
  split
  · exact .on _
  · rename_i job active
    have unsent : SameRun job job.returnUnsent := .of_pending rfl rfl rfl
    rw [← kept_setActiveJob active unsent]
    exact kept_completeJob rfl _ _

theorem acceptTransfer_heard (jobId : Nat) (staged : PendingTransfer) (block : Nat) :
    Heard st.kept observed (acceptTransfer st own jobId staged block) := by
  have marked : (st.markPendingLedgerAccepted jobId staged block).kept = st.kept :=
    kept_updatePending fun job has => sameRun_accept has block
  rw [← marked]
  exact driveAccepted_heard _ _

theorem onFirstTransfer_heard (jobId feeE8s : Nat) (staged : PendingTransfer)
    (reply : Option TransferReply) :
    Heard st.kept observed (onFirstTransfer relayId st own jobId feeE8s staged reply) := by
  unfold onFirstTransfer
  split
  · exact returnFromDrive_heard _ (.on _)
  · split
    · exact acceptTransfer_heard _ _ _
    · exact ⟨.on _, nofun⟩
    · rename_i expectedFee outcome
      apply stopForFeeChange_heard
      rw [← kept_recordBadFee st expectedFee]
      exact kept_updatePending fun job _ => .of_vacant rfl rfl rfl
    · exact nextPass_heard (goes_same (kept_updatePending fun job _ => .of_vacant rfl rfl rfl))

theorem onSecondTransfer_heard (jobId : Nat) (staged : PendingTransfer)
    (reply : Option TransferReply) :
    Heard st.kept observed (onSecondTransfer relayId st own jobId staged reply) := by
  have ambiguous : (st.markPendingAmbiguous jobId staged).kept = st.kept :=
    kept_updatePending fun job _ => .of_vacant rfl rfl rfl
  unfold onSecondTransfer
  split
  · exact returnFromDrive_heard _ (.on _)
  · split
    · exact acceptTransfer_heard _ _ _
    · rename_i expectedFee outcome
      apply stopForFeeChange_heard
      rw [← kept_recordBadFee st expectedFee]
      exact kept_updatePending fun job _ => .of_vacant rfl rfl rfl
    · exact nextPass_heard (goes_same ambiguous)
    · exact nextPass_heard (goes_same ambiguous)

theorem kept_mint {accepted : PendingTransfer} (canisterId : Principal) (mintedCycles : Nat)
    (matched : st.pendingMatches jobId accepted = true) :
    (st.markPendingCompleted jobId accepted (some (canisterId, mintedCycles))).kept =
      st.kept.mint canisterId mintedCycles := by
  rcases matched_job matched with ⟨job, active, rfl, has⟩
  have seen : (job.completePending (some (canisterId, mintedCycles))).plans.map cyclesSeen =
      job.plans.map cyclesSeen := by
    simp only [ActiveRelayJob.plans, List.map_map]
    apply updateSample_map (cyclesSeen ∘ CanisterBurnSample.toBurnPlan)
    intro sample
    rfl
  simp only [RelayState.markPendingCompleted, matched, if_true, updatePending_matched active has]
  simp only [RelayState.kept, RelayState.addMinted, RelayState.setActiveJob, active, seen,
    CycleLog.mint, Option.map_some]

theorem onNotify_heard (jobId : Nat) (accepted : PendingTransfer) (canisterId : Principal)
    (first : Option NotifyAttemptOutcome) (reply : NotifyAttemptOutcome) :
    Heard (st.kept.hear st observed (.notify own jobId accepted canisterId first) (.notify reply))
      observed (onNotify st own jobId accepted canisterId first reply) := by
  unfold onNotify
  split
  · rename_i lost
    have lost : st.pendingMatches jobId accepted = false := by simpa using lost
    cases reply <;> simp only [CycleLog.hear, lost, Bool.false_eq_true, if_false] <;>
      exact returnFromDrive_heard _ (.on _)
  · rename_i matched
    have matched : st.pendingMatches jobId accepted = true := by simpa using matched
    split
    · simp only [CycleLog.hear, matched, if_true]
      exact nextPass_heard (goes_same (kept_mint canisterId _ matched))
    · rename_i unminted
      cases reply with
      | succeeded mintedCycles => cases unminted mintedCycles rfl
      | retryable => exact ⟨.on _, nofun⟩
      | terminal => exact ⟨.on _, nofun⟩
    · exact nextPass_heard (goes_same (kept_updatePending fun job _ => .of_vacant rfl rfl rfl))
    · rename_i unminted _
      cases reply with
      | succeeded mintedCycles => cases unminted mintedCycles rfl
      | retryable =>
          exact nextPass_heard (goes_same (kept_updatePending fun job _ => .of_vacant rfl rfl rfl))
      | terminal =>
          exact nextPass_heard (goes_same (kept_updatePending fun job _ => .of_vacant rfl rfl rfl))

theorem onStages_heard (lease nowNanos : Nat) (poke completed : Bool) :
    Heard st.kept observed (onStages st lease nowNanos poke completed) := by
  unfold onStages startJob
  split
  · exact ⟨.on _, nofun⟩
  · split
    · split
      · exact ⟨.on _, nofun⟩
      · exact ⟨.on _, nofun⟩
    · split
      · exact ⟨.on _, nofun⟩
      · exact ⟨.on _, nofun⟩

/-- One lemma for all segments: the relay keeps what was heard. -/
theorem resumeJob_heard {kont : JobKont} {reply : JobReply} {earlier : List (Principal × Nat)}
    (accounted : Accounted relayId st)
    (carried : ∀ current, kont.current = some current → current = earlier)
    (resumed : resumeJob relayId st nowNanos kont reply = some result) :
    Heard (st.kept.hear st (probed earlier reply) kont reply) (probed earlier reply) result := by
  unfold resumeJob at resumed
  split at resumed <;> cases resumed
  · exact onStages_heard _ _ _ _
  · exact onProbe_heard _ _ accounted
  · cases carried _ rfl
    exact onBalance_heard _
  · cases carried _ rfl
    exact onFee_heard _ _
  · cases carried _ rfl
    exact onConversion_heard _ _ _
  · exact driveActiveJobStep_heard _
  · exact onGovernance_heard _ _ _ _ _
  · exact onFirstTransfer_heard _ _ _ _
  · exact onSecondTransfer_heard _ _ _
  · exact onNotify_heard _ _ _ _ _
  · exact ⟨.on _, nofun⟩

end Segments

section Runs

variable {relayId : Principal}

/-- The relay has kept what was noted, and no continuation has another probe than its task's. -/
structure Noted (relayId : Principal) (sys : CycleSystem) : Prop where
  frame : BooksFrame relayId sys.jobs
  log : sys.jobs.state.kept = sys.log
  carried : ∀ id kont current, sys.jobs.tasks id = some kont → kont.current = some current →
    current = sys.probes id

theorem settleJob_state (jobs : JobSystem) (id nowNanos : Nat) (result : RelayState × JobPause) :
    (settleJob jobs id nowNanos result).state = result.1 := by
  rcases result with ⟨next, _ | _ | _ | _⟩ <;> rfl

theorem settleJob_other {jobs : JobSystem} {other : Nat} (nowNanos : Nat)
    (result : RelayState × JobPause) (different : other ≠ id) :
    (settleJob jobs id nowNanos result).tasks other = jobs.tasks other := by
  rcases result with ⟨next, _ | _ | _ | _⟩ <;> exact Pool.put_other _ _ different

theorem settleJob_current {jobs : JobSystem} {kont : JobKont} {current : List (Principal × Nat)}
    (here : (settleJob jobs id nowNanos result).tasks id = some kont)
    (carries : kont.current = some current) : result.2.current = some current := by
  rcases result with ⟨next, pause⟩
  cases pause <;> simp only [settleJob, Pool.put_self] at here <;> cases here
  · exact carries
  · cases carries
  · cases carries

theorem noted_settle {probes : Nat → List (Principal × Nat)} {log : CycleLog}
    (noted : Noted relayId sys) (books : BooksKept relayId sys.jobs.state result)
    (kept : result.1.kept = log) (others : ∀ other, other ≠ id → probes other = sys.probes other)
    (carried : ∀ current, result.2.current = some current → current = probes id) :
    Noted relayId ⟨settleJob sys.jobs id nowNanos result, probes, log⟩ := by
  refine ⟨booksFrame_settle noted.frame id nowNanos books, ?_, ?_⟩
  · rw [settleJob_state]
    exact kept
  · intro other kont current here carries
    by_cases own : other = id
    · subst own
      exact carried current (settleJob_current here carries)
    · simp only [settleJob_other nowNanos result own] at here
      simp only [others other own]
      exact noted.carried other kont current here carries

theorem noted_step {next : CycleSystem} {event : JobEvent} (noted : Noted relayId sys)
    (taken : stepCycles relayId sys event = some next) : Noted relayId next := by
  rcases Option.map_eq_some_iff.mp taken with ⟨jobs, stepped, rfl⟩
  have frame := booksFrame_step noted.frame stepped
  cases stepJob_cases stepped with
  | @begin id now poke =>
      rcases beginTick_cases sys.jobs.state now poke with same | ⟨lease, _, same⟩ <;> rw [same]
      · exact noted_settle noted ⟨.refl noted.frame.accounted, trivial⟩ noted.log
          (fun _ _ => rfl) fun _ impossible => by cases impossible
      · exact noted_settle noted
          ⟨bookkept_same noted.frame.accounted ⟨rfl, rfl, rfl, rfl, rfl⟩, trivial⟩ noted.log
          (fun _ _ => rfl) fun _ impossible => by cases impossible
  | @resume id now kont reply result found forward bounded replies resumed =>
      have kept := resumeJob_kept noted.frame.accounted (noted.frame.konts id kont found) replies
        resumed
      have heard := resumeJob_heard noted.frame.accounted
        (fun current carries => noted.carried id kont current found carries) resumed
      rw [noted.log] at heard
      simp only [CycleSystem.note, found, settleJob_state]
      refine noted_settle noted kept (goes_settle heard.goes) ?_ ?_
      · intro other different
        exact Function.update_of_ne different _ _
      · intro current carries
        rw [Function.update_self]
        exact heard.carried current carries
  | @abandon id _ cleanup =>
      refine ⟨frame, ?_, ?_⟩
      · cases cleanup <;> exact noted.log
      · intro other kont current here carries
        by_cases own : other = id
        · subst own
          simp only [CycleSystem.note, Pool.put_self] at here
          cases here
        · simp only [CycleSystem.note, Pool.put_other _ _ own] at here
          exact noted.carried other kont current here carries
  | ledger => exact ⟨frame, noted.log, noted.carried⟩
  | upgrade config => exact ⟨frame, rfl, fun id kont current impossible => (by cases impossible)⟩

theorem noted_reachable (reachable : (cycleMachine relayId).Reachable sys) : Noted relayId sys := by
  apply (cycleMachine relayId).reachable_invariant (Noted relayId) _ _ reachable
  · rintro sys ⟨jobs, ⟨config, nowNanos, rfl⟩, rfl⟩
    exact ⟨⟨accounted_new config, Pool.holds_empty _⟩, rfl,
      fun id kont current impossible => (by cases impossible)⟩
  · intro state event next noted taken
    exact noted_step noted taken

/-- The accounts of a relay that runs: its updates are made of the noted answers, every one since
the start obeys the law for its kind, and nothing else changes what a finished one has left. -/
theorem cycle_accounts_telescope (relayId : Principal) (sys : CycleSystem)
    (reachable : (cycleMachine relayId).Reachable sys) :
    sys.jobs.state.kept = sys.log ∧
      LawfulRecords (effectiveManagedCanisters relayId sys.jobs.state.config)
        (hasRawIcpRecipients sys.jobs.state) sys.jobs.state.records ∧
      (sys.jobs.state.activeJob = none →
        sys.jobs.state.accounts = accountsAfter sys.jobs.state.records) ∧
      (∀ job, sys.jobs.state.activeJob = some job →
        JobAccounted (effectiveManagedCanisters relayId sys.jobs.state.config)
          (hasRawIcpRecipients sys.jobs.state) (accountsAfter sys.jobs.state.records)
          sys.jobs.state.accounts sys.jobs.state.mints job) ∧
      ∀ canisterId, Telescopes canisterId sys.jobs.state.records := by
  have noted := noted_reachable reachable
  have accounted := noted.frame.accounted
  exact ⟨noted.log, accounted.lawful, accounted.idle, accounted.running,
    lawful_telescopes accounted.lawful⟩

def spendAllStart : JobSystem :=
  { sampleJobStart with
    state := RelayState.new
      { sampleJobConfig with maxTransfersPerTick := none, surplusRecipients := [] } }

/-- A tick that finds no balance, so that what was burnt stays a deficit. -/
def noFundsTick (cycles : Nat) : List JobEvent :=
  [.begin 0 sampleJobTime false, .resume 0 (.stages true) sampleJobTime,
    .resume 0 (.probed [(⟨[2]⟩, cycles), (⟨[3]⟩, cycles)] false) sampleJobTime,
    .resume 0 (.amount (some 0)) sampleJobTime, .resume 0 (.amount (some 10000)) sampleJobTime,
    .resume 0 .resumed sampleJobTime, .resume 0 .resumed sampleJobTime]

def deficitRun : List JobEvent := baselineTick 5000000000000 ++ noFundsTick 4000000000000

/-- Both deficits are repaid. -/
def repayingRun : List JobEvent :=
  [.begin 0 sampleJobTime false, .resume 0 (.stages true) sampleJobTime,
    .resume 0 (.probed [(⟨[2]⟩, 4000000000000), (⟨[3]⟩, 4000000000000)] false) sampleJobTime,
    .resume 0 (.amount (some 10000000000)) sampleJobTime,
    .resume 0 (.amount (some 10000)) sampleJobTime] ++
    wholeAgain 0 7 ++ wholeAgain 1 8 ++ [.resume 0 .resumed sampleJobTime]

def notedStart (jobs : JobSystem) : CycleSystem := ⟨jobs, fun _ => [], ⟨[], none⟩⟩

def notedRun : Option CycleSystem :=
  (cycleMachine sampleRelay).run (notedStart spendAllStart) (deficitRun ++ repayingRun)

def notedUpdates : List NotedUpdate :=
  [.run ⟨[(⟨[2]⟩, 4000000000000), (⟨[3]⟩, 4000000000000)],
    [(⟨[3]⟩, 2000000000000), (⟨[2]⟩, 2000000000000)]⟩,
    .run ⟨[(⟨[2]⟩, 4000000000000), (⟨[3]⟩, 4000000000000)], []⟩,
    .baseline [(⟨[2]⟩, 5000000000000), (⟨[3]⟩, 5000000000000)]]

theorem cycle_accounts_telescope_repaid :
    ∃ sys, (cycleMachine sampleRelay).Reachable sys ∧ sys.log.updates = notedUpdates ∧
      sys.jobs.state.kept = sys.log ∧ Telescopes ⟨[2]⟩ sys.jobs.state.records := by
  have logged : notedRun.map (fun sys => sys.log.updates) = some notedUpdates := by
    decide +kernel
  rcases Option.map_eq_some_iff.mp logged with ⟨sys, ran, updates⟩
  have reachable : (cycleMachine sampleRelay).Reachable sys :=
    ⟨notedStart spendAllStart, deficitRun ++ repayingRun, ⟨spendAllStart, ⟨_, _, rfl⟩, rfl⟩, ran⟩
  have sound := cycle_accounts_telescope sampleRelay sys reachable
  exact ⟨sys, reachable, updates, sound.1, sound.2.2.2.2 _⟩

/-- The entry of a repaid deficit is removed while its canister is still managed. -/
theorem repaid_entry_removed :
    ∃ before after, (jobMachine sampleRelay).Reachable before ∧
      (jobMachine sampleRelay).run before repayingRun = some after ∧
      ⟨[2]⟩ ∈ effectiveManagedCanisters sampleRelay before.state.config ∧
      after.state.config = before.state.config ∧
      before.state.recoveryDeficitCycles ⟨[2]⟩ = some 1000000000000 ∧
      after.state.recoveryDeficitCycles ⟨[2]⟩ = none := by
  have ran : (jobMachine sampleRelay).run spendAllStart deficitRun =
      some (((jobMachine sampleRelay).run spendAllStart deficitRun).getD spendAllStart) := by
    rfl
  refine ⟨((jobMachine sampleRelay).run spendAllStart deficitRun).getD spendAllStart,
    (((jobMachine sampleRelay).run spendAllStart deficitRun).bind fun sys =>
      (jobMachine sampleRelay).run sys repayingRun).getD spendAllStart,
    ⟨spendAllStart, deficitRun, ⟨_, _, rfl⟩, ran⟩, by rfl, by decide, by rfl, by rfl,
    by decide +kernel⟩

end Runs
end JupiterSuite.Relay
