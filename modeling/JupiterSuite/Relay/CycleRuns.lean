import JupiterSuite.Relay.CycleAccounting
import JupiterSuite.Relay.JobSurplusGate

/-! No segment of the relay forgets one of the cycle maps, so the laws of the accounts hold in
every state that it reaches. -/

namespace JupiterSuite.Relay

open Base

section Jobs

variable {job : ActiveRelayJob}

theorem SameRun.of_vacant {next : ActiveRelayJob} (plans : next.plans = job.plans)
    (observed : next.currentCycles = job.currentCycles) (vacant : next.pendingTransfer = none) :
    SameRun job next := by
  refine ⟨plans, observed, ?_⟩
  intro _ pending canisterId has
  rw [vacant] at has
  cases has

theorem SameRun.of_pending {next : ActiveRelayJob} (plans : next.plans = job.plans)
    (observed : next.currentCycles = job.currentCycles)
    (pending : next.pendingTransfer = job.pendingTransfer) : SameRun job next := by
  refine ⟨plans, observed, ?_⟩
  intro known
  simp only [PendingKnown, plans, pending]
  exact known

theorem SameRun.trans {middle next : ActiveRelayJob} (first : SameRun job middle)
    (second : SameRun middle next) : SameRun job next :=
  ⟨second.plans.trans first.plans, second.observed.trans first.observed,
    fun known => second.pending (first.pending known)⟩

theorem sameRun_accept {pending : PendingTransfer} (has : job.pendingTransfer = some pending)
    (block : Nat) : SameRun job (job.acceptPending pending block) := by
  have plans : (job.acceptPending pending block).plans = job.plans := by
    simp only [ActiveRelayJob.plans, ActiveRelayJob.acceptPending]
    split
    · apply updateSample_map CanisterBurnSample.toBurnPlan
      intro sample
      rfl
    · rfl
  refine ⟨plans, rfl, ?_⟩
  intro known accepted canisterId here kind
  rw [plans]
  cases here
  exact known pending canisterId has kind

theorem sameRun_topup (number nowNanos : Nat) (vacant : job.pendingTransfer = none) :
    SameRun job (job.nextTopupPending number nowNanos).1 := by
  simp only [ActiveRelayJob.nextTopupPending]
  split
  · exact .of_vacant rfl rfl vacant
  · rename_i index sample located
    rcases nextPayable_some located with ⟨_, _, _, skipped, parts, _⟩
    have member : sample ∈ job.canisters := by
      apply List.mem_of_mem_drop (i := job.nextTransferIndex)
      rw [parts]
      simp
    refine ⟨rfl, rfl, ?_⟩
    intro _ pending canisterId here kind
    cases here
    cases kind
    exact List.mem_map_of_mem (List.mem_map_of_mem member)

theorem sameRun_surplus (number nowNanos : Nat) (vacant : job.pendingTransfer = none) :
    SameRun job (job.nextSurplusPending number nowNanos).1 := by
  simp only [ActiveRelayJob.nextSurplusPending]
  split
  · exact .of_vacant rfl rfl vacant
  · split
    · exact .of_vacant rfl rfl vacant
    · split
      · exact .of_vacant rfl rfl vacant
      · refine ⟨rfl, rfl, ?_⟩
        intro _ pending canisterId here kind
        cases here
        cases kind

theorem sameRun_plan (limit : Option Nat) (started number nowNanos : Nat)
    (vacant : job.pendingTransfer = none) :
    SameRun job (job.planNextTransfer limit started number nowNanos).1 := by
  simp only [ActiveRelayJob.planNextTransfer]
  split
  · exact .of_vacant rfl rfl vacant
  · split
    · exact .of_vacant rfl rfl vacant
    · have topup := sameRun_topup number nowNanos vacant
      split
      · exact topup
      · rename_i no_topup
        have rest := nextTopupPending_none (by simpa using no_topup)
        rw [rest.1] at topup ⊢
        have surplus : SameRun _ (ActiveRelayJob.nextSurplusPending
            { job with nextTransferIndex := max job.nextTransferIndex job.canisters.length }
            number nowNanos).1 := sameRun_surplus number nowNanos vacant
        split
        · exact topup.trans surplus
        · exact topup.trans surplus

end Jobs

variable {middle : RelayState} {current : List (Principal × Nat)} {result : RelayState × JobPause}
  {jobId : Nat} {accepted : PendingTransfer} {sys : JobSystem}

section Segments

variable {relayId : Principal} {st next : RelayState} {own : Tick} {start : JobStart}

/-- What a continuation of a start or of a top-up brings back. -/
def KontSampled (relayId : Principal) (st : RelayState) : JobKont → Prop
  | .balance _ current | .fee _ current _ | .conversion _ current _ _ =>
      RelayState.sampled relayId st current
  | .notify _ _ accepted canisterId _ => accepted.kind = .cmcTopUp canisterId
  | _ => True

def PauseSampled (relayId : Principal) (st : RelayState) : JobPause → Prop
  | .await kont => KontSampled relayId st kont
  | _ => True

structure BooksKept (relayId : Principal) (st : RelayState) (result : RelayState × JobPause) :
    Prop where
  books : Bookkept relayId st result.1
  pause : PauseSampled relayId result.1 result.2

theorem Bookkept.refl (accounted : Accounted relayId st) : Bookkept relayId st st :=
  ⟨rfl, accounted, fun _ had => had⟩

theorem Bookkept.trans (first : Bookkept relayId st middle) (second : Bookkept relayId middle next) :
    Bookkept relayId st next :=
  ⟨second.config.trans first.config, second.accounted,
    fun canisterId had => second.baselines canisterId (first.baselines canisterId had)⟩

theorem Bookkept.same (first : Bookkept relayId st middle) (same : SameBooks middle next) :
    Bookkept relayId st next :=
  first.trans (bookkept_same first.accounted same)

theorem sampled_kept (books : Bookkept relayId st next)
    (sampled : RelayState.sampled relayId st current) :
    RelayState.sampled relayId next current := by
  simp only [RelayState.sampled, books.config]
  exact Sampled.mono sampled books.baselines

theorem kontSampled_kept {kont : JobKont} (books : Bookkept relayId st next)
    (sampled : KontSampled relayId st kont) : KontSampled relayId next kont := by
  cases kont with
  | balance start current => exact sampled_kept books sampled
  | fee start current balance => exact sampled_kept books sampled
  | conversion start current balance feeE8s => exact sampled_kept books sampled
  | notify tick jobId accepted canisterId first => exact sampled
  | _ => trivial

theorem afterStart_kept (books : Bookkept relayId st next) :
    BooksKept relayId st (afterStart next start) := by
  unfold afterStart
  split
  · exact ⟨books, trivial⟩
  · exact ⟨books.same ⟨rfl, rfl, rfl, rfl, rfl⟩, trivial⟩

theorem returnFromDrive_kept (completed : Bool) (books : Bookkept relayId st next) :
    BooksKept relayId st (returnFromDrive next own completed) := by
  unfold returnFromDrive
  split
  · exact ⟨books, trivial⟩
  · exact ⟨books.same ⟨rfl, rfl, rfl, rfl, rfl⟩, trivial⟩

theorem nextPass_kept (books : Bookkept relayId st next) :
    BooksKept relayId st (nextPass next own) := ⟨books, trivial⟩

theorem idle_of_generation (current : jobGenerationMatches st start = true) :
    st.activeJob = none := by
  simp only [jobGenerationMatches, Bool.and_eq_true] at current
  exact Option.isNone_iff_eq_none.mp current.1.2

theorem onProbe_kept {snapshots : List (Principal × Nat)} (transientFailures : Bool)
    (accounted : Accounted relayId st)
    (probe : isProbe (effectiveManagedCanisters relayId st.config) snapshots = true) :
    BooksKept relayId st (onProbe relayId st start snapshots transientFailures) := by
  simp only [isProbe, Bool.and_eq_true, decide_eq_true_eq, List.all_eq_true] at probe
  unfold onProbe
  split
  · exact afterStart_kept (.refl accounted)
  · rename_i matched
    have idle := idle_of_generation (by simpa using matched)
    split
    · exact afterStart_kept (bookkept_same accounted ⟨rfl, rfl, rfl, rfl, rfl⟩)
    · split
      · rename_i known
        refine ⟨.refl accounted, probe.1, fun entry member => (probe.2 entry member).1,
          fun entry member => (probe.2 entry member).2, ?_⟩
        exact List.all_eq_true.mp known
      · exact afterStart_kept (bookkept_baseline accounted idle probe.1
          (fun entry member => (probe.2 entry member).1) _)

theorem onBalance_kept (balance : Option Nat) (accounted : Accounted relayId st)
    (sampled : RelayState.sampled relayId st current) :
    BooksKept relayId st (onBalance st start current balance) := by
  unfold onBalance
  split
  · exact afterStart_kept (bookkept_same accounted ⟨rfl, rfl, rfl, rfl, rfl⟩)
  · split
    · exact afterStart_kept (.refl accounted)
    · exact ⟨.refl accounted, sampled⟩

theorem installJob_kept (balance feeE8s : Nat) (accounted : Accounted relayId st)
    (sampled : RelayState.sampled relayId st current) :
    BooksKept relayId st (installJob st start current balance feeE8s) := by
  unfold installJob
  split
  · exact afterStart_kept (.refl accounted)
  · rename_i matched
    have idle := idle_of_generation (by simpa using matched)
    exact afterStart_kept (bookkept_install start accounted idle sampled balance feeE8s)

theorem BooksKept.after (first : Bookkept relayId st middle)
    (rest : BooksKept relayId middle result) :
    BooksKept relayId st result :=
  ⟨first.trans rest.books, rest.pause⟩

theorem onFee_kept (balance : Nat) (reply : Option Nat) (accounted : Accounted relayId st)
    (sampled : RelayState.sampled relayId st current) :
    BooksKept relayId st (onFee relayId st start current balance reply) := by
  have resolved : Bookkept relayId st (st.resolveIcpLedgerFeeE8s reply).1 := by
    apply bookkept_same accounted
    cases reply <;> exact ⟨rfl, rfl, rfl, rfl, rfl⟩
  have sampled := sampled_kept resolved sampled
  apply BooksKept.after resolved
  simp only [onFee]
  split
  · exact afterStart_kept (.refl resolved.accounted)
  · rename_i matched
    have idle := idle_of_generation (by simpa using matched)
    split
    · exact afterStart_kept (bookkept_noFunds resolved.accounted idle sampled _ _)
    · split
      · exact ⟨.refl resolved.accounted, sampled⟩
      · exact installJob_kept _ _ resolved.accounted sampled

theorem onConversion_kept (balance feeE8s : Nat) (rate : Option (Nat × Nat))
    (accounted : Accounted relayId st) (sampled : RelayState.sampled relayId st current) :
    BooksKept relayId st (onConversion st start current balance feeE8s rate) := by
  have refreshed : Bookkept relayId st (refreshConversionEstimate st start.lease rate) := by
    apply bookkept_same accounted
    unfold refreshConversionEstimate
    split
    · exact ⟨rfl, rfl, rfl, rfl, rfl⟩
    · split <;> exact ⟨rfl, rfl, rfl, rfl, rfl⟩
  exact .after refreshed
    (installJob_kept _ _ refreshed.accounted (sampled_kept refreshed sampled))

theorem updatePending_kept {expected : PendingTransfer} {mark : ActiveRelayJob → ActiveRelayJob}
    (accounted : Accounted relayId st)
    (same : ∀ job, job.pendingTransfer = some expected → SameRun job (mark job)) :
    Bookkept relayId st (st.updatePending jobId expected mark) := by
  unfold RelayState.updatePending
  split
  · exact .refl accounted
  · rename_i job active
    split
    · rename_i matched
      exact bookkept_job accounted active (same job matched.2)
    · exact .refl accounted

theorem updateActiveJob_kept {lease : Nat} {f : ActiveRelayJob → ActiveRelayJob}
    (accounted : Accounted relayId st) (same : ∀ job, SameRun job (f job)) :
    Bookkept relayId st (st.updateActiveJob lease jobId f) := by
  unfold RelayState.updateActiveJob
  split
  · exact .refl accounted
  · rename_i job active
    split
    · exact bookkept_job accounted active (same job)
    · exact .refl accounted

theorem recordBadFee_kept (expectedFee : Nat) (accounted : Accounted relayId st) :
    Bookkept relayId st (st.recordBadFee expectedFee) := by
  apply bookkept_same accounted
  unfold RelayState.recordBadFee
  split <;> exact ⟨rfl, rfl, rfl, rfl, rfl⟩

theorem markPendingCompleted_kept {canisterId : Principal} (mintedCycles : Nat)
    (accounted : Accounted relayId st) (kind : accepted.kind = .cmcTopUp canisterId) :
    Bookkept relayId st
      (st.markPendingCompleted jobId accepted (some (canisterId, mintedCycles))) := by
  unfold RelayState.markPendingCompleted
  split
  · rename_i matched
    rcases matched_job matched with ⟨job, active, rfl, has⟩
    simp only [updatePending_matched active has]
    exact bookkept_mint mintedCycles accounted active has kind
  · exact .refl accounted

theorem markPendingPaid_kept (accounted : Accounted relayId st) :
    Bookkept relayId st (st.markPendingCompleted jobId accepted none) := by
  unfold RelayState.markPendingCompleted
  split
  · exact updatePending_kept accounted fun job _ => .of_vacant rfl rfl rfl
  · exact .refl accounted

theorem settleSurplus_kept (phase : SurplusPhase) (resolved : List ResolvedSurplusRecipient)
    (accounted : Accounted relayId st) :
    Bookkept relayId st (settleSurplus st own phase resolved) := by
  unfold settleSurplus
  split
  · exact updateActiveJob_kept accounted fun job => .of_pending rfl rfl rfl
  · exact updateActiveJob_kept accounted fun job => .of_pending rfl rfl rfl

theorem resolveSurplusRecipients_kept (phase : SurplusPhase) (remaining : List SurplusRecipient)
    (resolved : List ResolvedSurplusRecipient) (accounted : Accounted relayId st) :
    BooksKept relayId st (resolveSurplusRecipients st own phase remaining resolved) := by
  induction remaining generalizing resolved with
  | nil => exact nextPass_kept (settleSurplus_kept phase resolved accounted)
  | cons recipient remaining ih =>
      unfold resolveSurplusRecipients
      split
      · exact ih _
      · exact ⟨.refl accounted, trivial⟩

theorem onGovernance_kept (phase : SurplusPhase) (recipient : SurplusRecipient)
    (remaining : List SurplusRecipient) (resolved : List ResolvedSurplusRecipient)
    (result : Option (List UInt8)) (accounted : Accounted relayId st) :
    BooksKept relayId st (onGovernance st own phase recipient remaining resolved result) := by
  cases result with
  | none =>
      exact nextPass_kept (updateActiveJob_kept accounted fun job => .of_pending rfl rfl rfl)
  | some subaccount => exact resolveSurplusRecipients_kept phase remaining _ accounted

theorem planSurplusPhase_kept (job : ActiveRelayJob) (accounted : Accounted relayId st) :
    BooksKept relayId st (planSurplusPhase st own job) := by
  unfold planSurplusPhase
  split
  · exact nextPass_kept (updateActiveJob_kept accounted fun job => .of_pending rfl rfl rfl)
  · exact resolveSurplusRecipients_kept _ _ _ accounted

theorem driveAccepted_kept (jobId : Nat) (accepted : PendingTransfer)
    (accounted : Accounted relayId st) :
    BooksKept relayId st (driveAccepted st own jobId accepted) := by
  unfold driveAccepted
  split
  · rename_i canisterId kind
    exact ⟨.refl accounted, kind⟩
  · exact nextPass_kept (markPendingPaid_kept accounted)

theorem drivePendingTransfer_kept (job : ActiveRelayJob) (pending : PendingTransfer)
    (accounted : Accounted relayId st) :
    BooksKept relayId st (drivePendingTransfer st own job pending) := by
  unfold drivePendingTransfer
  split
  · split
    · exact ⟨.refl accounted, trivial⟩
    · exact nextPass_kept (updatePending_kept accounted fun job _ => .of_vacant rfl rfl rfl)
  · exact driveAccepted_kept _ _ accounted

theorem driveActiveJobStep_kept (nowNanos : Nat) (accounted : Accounted relayId st) :
    BooksKept relayId st (driveActiveJobStep relayId st own nowNanos) := by
  unfold driveActiveJobStep
  split
  · exact returnFromDrive_kept _ (.refl accounted)
  · split
    · exact returnFromDrive_kept _ (.refl accounted)
    · rename_i job active
      split
      · exact drivePendingTransfer_kept _ _ accounted
      · rename_i vacant
        split
        · exact planSurplusPhase_kept _ accounted
        · have planned := sameRun_plan own.limit own.started own.number nowNanos vacant
          split <;> rename_i next step
          · rw [step] at planned
            exact nextPass_kept (bookkept_job accounted active planned)
          · rw [step] at planned
            exact returnFromDrive_kept _ (bookkept_job accounted active planned)
          · rw [step] at planned
            have rested := bookkept_job accounted active planned
            split
            · exact nextPass_kept rested
            · exact returnFromDrive_kept _
                (rested.trans (bookkept_complete _ rested.accounted rfl))

theorem stopForFeeChange_kept (books : Bookkept relayId st next) :
    BooksKept relayId st (stopForFeeChange relayId next own) := by
  apply nextPass_kept
  unfold RelayState.stopActiveJobForLedgerFeeChange
  split
  · exact books
  · rename_i job active
    have unsent : SameRun job job.returnUnsent := .of_pending rfl rfl rfl
    have rested := bookkept_job books.accounted active unsent
    exact books.trans (rested.trans (bookkept_complete _ rested.accounted rfl))

theorem acceptTransfer_kept (jobId : Nat) (staged : PendingTransfer) (block : Nat)
    (accounted : Accounted relayId st) :
    BooksKept relayId st (acceptTransfer st own jobId staged block) := by
  have marked : Bookkept relayId st (st.markPendingLedgerAccepted jobId staged block) :=
    updatePending_kept accounted fun job has => sameRun_accept has block
  exact .after marked (driveAccepted_kept _ _ marked.accounted)

theorem onFirstTransfer_kept (jobId feeE8s : Nat) (staged : PendingTransfer)
    (reply : Option TransferReply) (accounted : Accounted relayId st) :
    BooksKept relayId st (onFirstTransfer relayId st own jobId feeE8s staged reply) := by
  unfold onFirstTransfer
  split
  · exact returnFromDrive_kept _ (.refl accounted)
  · split
    · exact acceptTransfer_kept _ _ _ accounted
    · exact ⟨.refl accounted, trivial⟩
    · rename_i expectedFee outcome
      have recorded := recordBadFee_kept expectedFee accounted
      exact stopForFeeChange_kept (recorded.trans
        (updatePending_kept recorded.accounted fun job _ => .of_vacant rfl rfl rfl))
    · exact nextPass_kept (updatePending_kept accounted fun job _ => .of_vacant rfl rfl rfl)

theorem onSecondTransfer_kept (jobId : Nat) (staged : PendingTransfer)
    (reply : Option TransferReply) (accounted : Accounted relayId st) :
    BooksKept relayId st (onSecondTransfer relayId st own jobId staged reply) := by
  have ambiguous : Bookkept relayId st (st.markPendingAmbiguous jobId staged) :=
    updatePending_kept accounted fun job _ => .of_vacant rfl rfl rfl
  unfold onSecondTransfer
  split
  · exact returnFromDrive_kept _ (.refl accounted)
  · split
    · exact acceptTransfer_kept _ _ _ accounted
    · rename_i expectedFee outcome
      have recorded := recordBadFee_kept expectedFee accounted
      exact stopForFeeChange_kept (recorded.trans
        (updatePending_kept recorded.accounted fun job _ => .of_vacant rfl rfl rfl))
    · exact nextPass_kept ambiguous
    · exact nextPass_kept ambiguous

theorem onNotify_kept (jobId : Nat) {canisterId : Principal} (first : Option NotifyAttemptOutcome)
    (reply : NotifyAttemptOutcome) (accounted : Accounted relayId st)
    (kind : accepted.kind = .cmcTopUp canisterId) :
    BooksKept relayId st (onNotify st own jobId accepted canisterId first reply) := by
  unfold onNotify
  split
  · exact returnFromDrive_kept _ (.refl accounted)
  · split
    · exact nextPass_kept (markPendingCompleted_kept _ accounted kind)
    · exact ⟨.refl accounted, kind⟩
    · exact nextPass_kept (updatePending_kept accounted fun job _ => .of_vacant rfl rfl rfl)
    · exact nextPass_kept (updatePending_kept accounted fun job _ => .of_vacant rfl rfl rfl)

theorem onStages_kept (lease nowNanos : Nat) (poke completed : Bool)
    (accounted : Accounted relayId st) :
    BooksKept relayId st (onStages st lease nowNanos poke completed) := by
  have released : Bookkept relayId st (st.dropGuard lease) :=
    bookkept_same accounted ⟨rfl, rfl, rfl, rfl, rfl⟩
  unfold onStages
  split
  · exact ⟨released, trivial⟩
  · split
    · unfold startJob
      split
      · exact ⟨.refl accounted, trivial⟩
      · exact ⟨.refl accounted, trivial⟩
    · split
      · exact ⟨released, trivial⟩
      · exact ⟨.refl accounted, trivial⟩

theorem resumeJob_kept {nowNanos : Nat} {kont : JobKont} {reply : JobReply}
    (accounted : Accounted relayId sys.state) (sampled : KontSampled relayId sys.state kont)
    (replies : jobRepliesTo relayId sys kont reply = true)
    (resumed : resumeJob relayId sys.state nowNanos kont reply = some result) :
    BooksKept relayId sys.state result := by
  unfold resumeJob at resumed
  split at resumed <;> cases resumed
  · exact onStages_kept _ _ _ _ accounted
  · exact onProbe_kept _ accounted replies
  · exact onBalance_kept _ accounted sampled
  · exact onFee_kept _ _ accounted sampled
  · exact onConversion_kept _ _ _ accounted sampled
  · exact driveActiveJobStep_kept _ accounted
  · exact onGovernance_kept _ _ _ _ _ accounted
  · exact onFirstTransfer_kept _ _ _ _ accounted
  · exact onSecondTransfer_kept _ _ _ accounted
  · exact onNotify_kept _ _ _ accounted sampled
  · exact ⟨bookkept_same accounted ⟨rfl, rfl, rfl, rfl, rfl⟩, trivial⟩

end Segments

section Runs

variable {relayId : Principal}

structure BooksFrame (relayId : Principal) (sys : JobSystem) : Prop where
  accounted : Accounted relayId sys.state
  konts : sys.tasks.Holds (KontSampled relayId sys.state)

theorem accounted_new (config : RelayConfig) : Accounted relayId (RelayState.new config) :=
  ⟨trivial, fun _ => rfl, nofun⟩

theorem accounted_upgraded (st : RelayState) (config : RelayConfig) :
    Accounted relayId (st.upgraded config) :=
  ⟨trivial, fun _ => rfl, nofun⟩

theorem booksFrame_settle (frame : BooksFrame relayId sys) (id nowNanos : Nat)
    (kept : BooksKept relayId sys.state result) :
    BooksFrame relayId (settleJob sys id nowNanos result) := by
  have others : ∀ other kont, other ≠ id → sys.tasks other = some kont →
      KontSampled relayId sys.state kont → KontSampled relayId result.1 kont :=
    fun _ _ _ _ sampled => kontSampled_kept kept.books sampled
  rcases result with ⟨next, pause⟩
  cases pause with
  | done => exact ⟨kept.books.accounted, frame.konts.put (fun _ none => by cases none) others⟩
  | await kont =>
      refine ⟨kept.books.accounted, frame.konts.put ?_ others⟩
      intro own same
      cases same
      exact kept.pause
  | drive lease now poke =>
      refine ⟨kept.books.accounted, frame.konts.put ?_ others⟩
      intro own same
      cases same
      trivial
  | transferring tick jobId feeE8s staged second =>
      refine ⟨kept.books.accounted, frame.konts.put ?_ others⟩
      intro own same
      cases same
      trivial

theorem booksFrame_step {next : JobSystem} {event : JobEvent} (frame : BooksFrame relayId sys)
    (taken : stepJob relayId sys event = some next) :
    BooksFrame relayId next := by
  cases stepJob_cases taken with
  | @begin id now poke =>
      apply booksFrame_settle frame
      rcases beginTick_cases sys.state now poke with same | ⟨lease, _, same⟩
      · rw [same]
        exact ⟨.refl frame.accounted, trivial⟩
      · rw [same]
        exact ⟨bookkept_same frame.accounted ⟨rfl, rfl, rfl, rfl, rfl⟩, trivial⟩
  | resume found forward bounded replies resumed =>
      exact booksFrame_settle frame _ _
        (resumeJob_kept frame.accounted (frame.konts _ _ found) replies resumed)
  | @abandon id kont cleanup =>
      have books : Bookkept relayId sys.state
          (if cleanup then sys.state.dropGuard kont.lease else sys.state) := by
        split
        · exact bookkept_same frame.accounted ⟨rfl, rfl, rfl, rfl, rfl⟩
        · exact .refl frame.accounted
      exact ⟨books.accounted, frame.konts.put (fun _ none => by cases none)
        fun _ _ _ _ sampled => kontSampled_kept books sampled⟩
  | ledger => exact ⟨frame.accounted, frame.konts⟩
  | upgrade config => exact ⟨accounted_upgraded _ _, Pool.holds_empty _⟩

end Runs
end JupiterSuite.Relay
