import JupiterSuite.Historian.RelayFactorySegments

/-! The segments of a creation and of an admission, from the reply that begins each of them. -/

namespace JupiterSuite.Historian

open Base

variable {key : RelaySetupKey} {next : FactoryState} {progress : RelayCreationProgress}

section Creation

variable {env : FactoryEnv} {rules : FactoryRules} {before st : FactoryState}
  {work : FactoryWork} {relay : Principal} {now : Nat}

theorem Written.rank (written : Written st next key (some (.creating progress))) :
    (next.journal key).rank = progress.phase.rank := by
  rw [written.journal]
  rfl

theorem rank_of_creating (found : st.entries key = some (.creating progress)) :
    (st.journal key).rank = progress.phase.rank := by
  rw [journal_of_creating found]
  rfl

theorem Written.paidFor {rank : Nat}
    (written : Written st next work.key (some (.creating progress))) (phase : RelayCreationPhase)
    (attempt : work.attempt = some (st.attempts work.key)) (here : progress.phase = phase)
    (ranked : rank ≤ phase.rank) : PaidFor next work rank := by
  constructor
  · rw [attempt, written.attempts]
  · rw [written.rank, here]
    exact ranked

theorem SameWork.refl (work : FactoryWork) : SameWork work work := ⟨rfl, rfl, rfl⟩

theorem onRelayFunding_segment {reply : Except String TransferReply}
    (reached : Reached rules work.key before st) (resting : Resting st work.key)
    (paid : PaidFor st work 4) :
    Segment env rules before work (onRelayFunding env st now work reply) := by
  apply requirePhase_segment reached (.inl resting)
  intro progress found phase
  split
  · exact manualRecovery_segment reached (.inl resting) (by decide) (fun here => by cases here) rfl
  · exact manualRecovery_segment reached (.inl resting) (by decide) (fun here => by cases here) rfl
  · rename_i fundingBlock _
    apply updateProgress_segment reached (.inl resting)
    · intro progress _ here
      exact .funded _ fundingBlock here
    · intro after progress arrived found here written
      apply driveRelayFinalization_segment arrived (.of_phase written.found rfl (by simp))
      rw [paid.1, written.attempts]

theorem onFundingFee_segment {balanceE8s : Nat} {fee : Except String Nat}
    (reached : Reached rules work.key before st) (resting : Resting st work.key)
    (same : st = before) (paid : PaidFor st work 4) :
    Segment env rules before work (onFundingFee env st now work relay balanceE8s fee) := by
  apply requirePhase_segment reached (.inl resting)
  intro progress found phase
  have recovery : ∀ diagnostic : FactoryDiagnostic, diagnostic.needsLostEvidence = false →
      Segment env rules before work (manualRecovery env st work .codeInstalled diagnostic) :=
    fun diagnostic reachable => manualRecovery_segment reached (.inl resting) (by decide)
      (fun here => by cases here) reachable
  cases fee with
  | error error => exact recovery _ rfl
  | ok feeE8s =>
      dsimp only
      split
      · exact recovery _ rfl
      · split
        · exact recovery _ rfl
        · split
          · apply updateProgress_segment reached (.inl resting)
            · intro progress _ here
              exact .fund _ _ here
            · intro after progress arrived found here written
              refine ⟨arrived, .of_phase written.found rfl (by simp), .refl work,
                written.paidFor .relayFundingPrepared paid.1 rfl (by decide), ?_⟩
              rw [← same, rank_of_creating found, here]
              decide
          · exact recovery _ rfl

theorem onRemainingBalance_segment {balance : Except String Nat}
    (reached : Reached rules work.key before st) (resting : Resting st work.key)
    (paid : PaidFor st work 4) :
    Segment env rules before work (onRemainingBalance env st work relay balance) := by
  apply requirePhase_segment reached (.inl resting)
  intro progress found phase
  cases balance with
  | error error =>
      exact manualRecovery_segment reached (.inl resting) (by decide) (fun here => by cases here)
        rfl
  | ok balanceE8s => exact ⟨reached, resting, .refl work, paid, rfl⟩

theorem codeInstalled_segment (reached : Reached rules work.key before st)
    (resting : Resting st work.key) (paid : PaidFor st work 4) :
    Segment env rules before work (codeInstalled env st work relay) := by
  apply updateProgress_segment reached (.inl resting)
  · intro progress _ here
    exact .install _ here
  · intro after progress arrived found here written
    exact ⟨arrived, .of_phase written.found rfl (by simp), .refl work,
      written.paidFor .codeInstalled paid.1 rfl (by decide), rfl⟩

theorem onInstallStatus_segment {expectedHash : List UInt8} {installError : String}
    {observed : Except String CanisterStatusResult} (reached : Reached rules work.key before st)
    (resting : Resting st work.key) (paid : PaidFor st work 4) :
    Segment env rules before work
      (onInstallStatus env st work relay expectedHash installError observed) := by
  apply requirePhase_segment reached (.inl resting)
  intro progress found phase
  cases observed with
  | error statusError =>
      exact manualRecovery_segment reached (.inl resting) (by decide) (fun here => by cases here)
        rfl
  | ok status =>
      dsimp only
      split
      · exact codeInstalled_segment reached resting paid
      · exact manualRecovery_segment reached (.inl resting) (by decide)
          (fun here => by cases here) rfl

theorem onInstallCode_segment {expectedHash : List UInt8} {result : Except String Unit}
    (reached : Reached rules work.key before st) (resting : Resting st work.key)
    (paid : PaidFor st work 4) :
    Segment env rules before work (onInstallCode env st work relay expectedHash result) := by
  apply requirePhase_segment reached (.inl resting)
  intro progress found phase
  cases result with
  | error installError => exact ⟨reached, resting, .refl work, paid, rfl⟩
  | ok _ => exact codeInstalled_segment reached resting paid

theorem onCreateCanister_segment {result : Except String Principal}
    (reached : Reached rules work.key before st) (resting : Resting st work.key)
    (paid : PaidFor st work 4) :
    Segment env rules before work (onCreateCanister env st work result) := by
  apply requirePhase_segment reached (.inl resting)
  intro progress found phase
  cases result with
  | error error =>
      exact manualRecovery_segment reached (.inl resting) (by decide) (fun here => by cases here)
        rfl
  | ok created =>
      apply updateProgress_segment reached (.inl resting)
      · intro progress _ here
        exact .child _ created here
      · intro after progress arrived found here written
        split
        · exact nofun
        · exact ⟨arrived, .of_phase written.found rfl (by simp), .refl work,
            written.paidFor .childCreated paid.1 rfl (by decide), rfl⟩

/-- A conversion that was just notified has what its creation needs. -/
theorem paidEvidence_consistent (work : FactoryWork) {notified : Option Nat}
    (evidence : ProgressEvidence progress notified) (phase : progress.phase = .cmcNotifySucceeded)
    (configured : notified = some work.config.relayInitialCycles) :
    paidEvidenceInconsistent work progress = false := by
  rcases evidence.minted (by rw [phase]; decide) with ⟨cycles, initialCycles, minted, same, enough⟩
  rw [configured] at same
  cases same
  have accepted := evidence.accepted (by rw [phase]; decide)
  have undispatched := evidence.undispatched (by rw [phase]; decide)
  have childless := evidence.childless (by rw [phase]; decide)
  rw [← Option.not_isNone, Bool.not_eq_true'] at accepted
  simp [paidEvidenceInconsistent, minted, enough, accepted, undispatched, childless]

theorem dispatchCreate_segment (reached : Reached rules work.key before st)
    (attempt : work.attempt = some (st.attempts work.key))
    (early : (before.journal work.key).rank ≤ 5)
    (configured : ∀ progress, st.entries work.key = some (.creating progress) →
      progress.phase = .cmcNotifySucceeded →
        st.notified work.key = some work.config.relayInitialCycles) :
    Segment env rules before work (dispatchCreate env st now work) := by
  apply requirePhase_segment reached (.inr rfl)
  intro progress found phase
  have consistent := paidEvidence_consistent work (reached.progressEvidence found) phase
    (configured progress found phase)
  rw [consistent, if_neg Bool.false_ne_true]
  apply updateProgress_segment reached (.inr rfl)
  · intro progress _ here
    exact .dispatch _ _ here
  · intro after progress arrived found here written
    exact ⟨arrived, .of_phase written.found rfl (by simp), .refl work,
      written.paidFor .createDispatched attempt rfl (by decide), early⟩

/-- The success of a notification is written, with the cycles that were configured then. -/
theorem Reached.notify {cycles : Nat} (reached : Reached rules key before st)
    (found : st.entries key = some (.creating progress))
    (phase : progress.phase = .cmcTransferAccepted) (enough : rules.initialCycles ≤ cycles)
    (written : Written st next key (some (.creating
      { progress with phase := .cmcNotifySucceeded, cyclesMinted := some cycles }))) :
    Reached rules key before { next with
      notified := Function.update next.notified key (some rules.initialCycles) } := by
  have move : JournalMove rules (st.journal key) (FactoryState.journal { next with
      notified := Function.update next.notified key (some rules.initialCycles) } key) := by
    rw [journal_of_creating found]
    simp only [FactoryState.journal, written.found, written.attempts, Function.update_self]
    exact .advance _ (.succeed _ cycles phase enough)
  exact reached.note written move fun _ different => ⟨rfl, Function.update_of_ne different ..⟩

theorem onNotifyTopUp_segment {minted : Except NotifyTopUpError Nat}
    (reached : Reached rules work.key before st) (resting : Resting st work.key)
    (same : st = before) (paid : PaidFor st work 4) (config : work.config = st.config)
    (initialCycles : rules.initialCycles = st.config.relayInitialCycles) :
    Segment env rules before work (onNotifyTopUp env st now work minted) := by
  apply requirePhase_segment reached (.inl resting)
  intro progress found phase
  have early : (before.journal work.key).rank ≤ 5 := by
    rw [← same, rank_of_creating found, phase]
    decide
  cases minted with
  | error error =>
      dsimp only
      split
      · exact keepInProgress_segment reached resting (by decide)
      · exact manualRecovery_segment reached (.inl resting) (by decide)
          (fun here => by cases here) rfl
  | ok mintedCycles =>
      apply updateProgress_segment reached (.inl resting)
      · intro progress _ here
        exact .mint _ mintedCycles here
      · intro middle progress arrived found here written
        have pending : Resting middle work.key :=
          .of_phase written.found here (by decide)
        split
        · exact manualRecovery_segment arrived (.inl pending) (by decide)
            (fun here => by cases here) rfl
        · rename_i enough
          apply requirePhase_segment arrived (.inl pending)
          intro last lastFound lastPhase
          apply orTrap_segment (insertEntry_creating arrived.index lastFound _)
          intro after inserted
          have final := insertEntry_written inserted
          have kept : after.config = st.config := final.config.trans written.config
          have configured : rules.initialCycles = work.config.relayInitialCycles := by
            rw [initialCycles, config]
          have sufficient : rules.initialCycles ≤ mintedCycles := by
            rw [configured]
            exact Nat.le_of_not_lt enough
          have moved := arrived.notify lastFound lastPhase sufficient final
          have cycles : after.config.relayInitialCycles = rules.initialCycles := by
            rw [kept, initialCycles]
          dsimp only
          rw [cycles]
          apply dispatchCreate_segment moved
          · rw [paid.1]
            dsimp only
            rw [final.attempts, written.attempts]
          · exact early
          · intro _ _ _
            dsimp only
            rw [Function.update_self, configured]

theorem continuePaidCreation_segment (reached : Reached rules work.key before st)
    (resting : Resting st work.key) (attempt : work.attempt = some (st.attempts work.key)) :
    Segment env rules before work (continuePaidCreation env st now work) := by
  simp only [continuePaidCreation]
  split
  · rename_i progress found
    split
    · rename_i phase
      have accepted := (reached.progressEvidence found).accepted (by rw [phase]; decide)
      rcases Option.isSome_iff_exists.mp accepted with ⟨cmcBlock, known⟩
      rw [known]
      refine ⟨reached, resting, .refl work, ⟨attempt, ?_⟩, rfl⟩
      rw [rank_of_creating found, phase]
      decide
    · apply requirePhase_segment reached (.inl resting)
      intro progress found phase
      exact absurd phase (resting progress found)
  · exact stop_segment reached resting _
  · exact stop_segment reached resting _

end Creation

end JupiterSuite.Historian
