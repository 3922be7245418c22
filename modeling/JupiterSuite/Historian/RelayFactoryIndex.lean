import JupiterSuite.Historian.RelayFactoryExactlyOnce

/-! What the phase of a relay setup says of its evidence, and which audit makes a relay active. -/

namespace JupiterSuite.Historian

open Base

/-- The step activates the relay of the journal, on an audit of it that found nothing amiss. -/
structure Activation (env : FactoryEnv) (sys : FactorySystem) (event : FactoryEvent)
    (key : RelaySetupKey) (relay : Principal) : Prop where
  recorded : ∃ progress, sys.state.entries key = some (.creating progress) ∧
    10 ≤ progress.phase.rank ∧ progress.relayCanisterId = some relay
  audited : ∃ id now kont expectedHash status,
    event = .resume id (.status (.ok status)) now ∧ sys.tasks id = some kont ∧
      kont.work.key = key ∧ kont.Audits relay expectedHash ∧
      sys.state.approvedRelayOnchainModuleHash env = some expectedHash ∧
      status.status = .running ∧ status.moduleHash = some expectedHash ∧
      status.logVisibility = .everyone ∧ status.statusVisibility = .everyone ∧
      status.controllers = []

structure FactoryEvidence (env : FactoryEnv) (sys : FactorySystem) : Prop where
  evidence : ∀ key progress, sys.state.entries key = some (.creating progress) ∨
    sys.state.entries key = some (.manualRecoveryRequired progress) →
      ProgressEvidence progress (sys.state.notified key)
  forward : ∀ key event next, stepFactory env sys event = some next →
    Forward (sys.state.journal key) (next.state.journal key)
  complete : ∀ key progress, sys.state.entries key = some (.creating progress) →
    10 ≤ progress.phase.rank →
      ∃ relay, relayIdWithCompleteActivationEvidence progress = .ok relay
  consistent : ∀ id work cmcBlock progress cycles,
    sys.tasks id = some (.notifyTopUp work cmcBlock) →
      sys.state.entries work.key = some (.creating progress) →
        progress.phase = .cmcTransferAccepted → work.config.relayInitialCycles ≤ cycles →
          paidEvidenceInconsistent work
            { progress with phase := .cmcNotifySucceeded, cyclesMinted := some cycles } = false
  unlost : ∀ key, Unlost (sys.state.entries key)
  recordable : ∀ key progress,
    (sys.state.insertEntry key (.manualRecoveryRequired progress)).isSome = true
  activated : ∀ key relay event next, stepFactory env sys event = some next →
    next.state.entries key = some (.active relay) →
      sys.state.entries key ≠ some (.active relay) → Activation env sys event key relay
  settled : ∀ key relay event next, stepFactory env sys event = some next →
    sys.state.entries key = some (.active relay) →
      next.state.entries key = some (.active relay)

section Finalization

variable {env : FactoryEnv} {sys next : FactorySystem} {event : FactoryEvent}
  {key : RelaySetupKey} {relay historian : Principal} {status : CanisterStatusResult}
  {expectedHash : List UInt8}

theorem finalized_status
    (finalized : classifyRelayFinalizationState status expectedHash historian = .ok .finalized) :
    status.status = .running ∧ status.moduleHash = some expectedHash ∧
      status.logVisibility = .everyone ∧ status.statusVisibility = .everyone ∧
      status.controllers = [] := by
  simp only [classifyRelayFinalizationState] at finalized
  split at finalized
  · cases finalized
  · rename_i running
    split at finalized
    · cases finalized
    · rename_i approved
      split at finalized
      · cases finalized
      · rename_i logs
        split at finalized
        · cases finalized
        · rename_i visible
          split at finalized
          · split at finalized <;> cases finalized
          · rename_i uncontrolled
            exact ⟨not_not.mp running, not_not.mp approved, not_not.mp logs,
              not_not.mp visible, uncontrolled⟩
          · cases finalized

theorem auditing_of_audits {st : FactoryState} {kont : FactoryKont}
    (ready : KontReady env st kont) (audits : kont.Audits relay expectedHash) :
    Auditing env st kont.work relay expectedHash := by
  cases kont with
  | firstAudit work phase audited hash =>
      rcases audits with ⟨rfl, rfl⟩
      exact ready.1
  | finalAudit work audited hash updateError =>
      rcases audits with ⟨rfl, rfl⟩
      exact ready
  | _ => exact audits.elim

theorem activation_of_step (invariant : FactoryInvariant env sys)
    (taken : stepFactory env sys event = some next)
    (active : next.state.entries key = some (.active relay))
    (before : sys.state.entries key ≠ some (.active relay)) :
    Activation env sys event key relay := by
  rcases (stepFactory_keeps invariant taken).2 key with ⟨rules, moved⟩
  rcases JournalMoves.activated moved.moves active with same | audited
  · exact absurd same before
  · rcases moved.audited relay audited with ⟨id, reply, now, kont, rfl, found, rfl, observed⟩
    rcases observed with ⟨expectedHash, status, audits, rfl, finalized⟩
    have auditing := auditing_of_audits (invariant.tasks id kont found).ready audits
    rcases auditing with ⟨funded, names, approved⟩
    refine ⟨?_, id, now, kont, expectedHash, status, rfl, found, rfl, audits, approved,
      finalized_status finalized⟩
    cases entry : sys.state.entries kont.work.key with
    | none =>
        have rank : (sys.state.journal kont.work.key).rank = 0 := by
          simp only [Journal.rank, FactoryState.journal, entry, entryRank]
        have late := funded.2
        omega
    | some value =>
        cases value with
        | creating progress =>
            have late := funded.2
            rw [rank_of_creating entry] at late
            exact ⟨progress, rfl, late, names progress entry⟩
        | active _ | manualRecoveryRequired _ =>
            have present : (sys.state.journal kont.work.key).entry ≠ none := by
              simp [FactoryState.journal, entry]
            have still := JournalMoves.settled moved.moves present
              (fun progress => by simp [FactoryState.journal, entry])
            rw [entries_of_journal still] at active
            exact absurd active before

end Finalization

theorem relay_factory_evidence {env : FactoryEnv} {sys : FactorySystem}
    (reachable : (factoryMachine env).Reachable sys) : FactoryEvidence env sys := by
  have invariant := reachable_factory reachable
  have creating : ∀ key progress, sys.state.entries key = some (.creating progress) →
      ProgressEvidence progress (sys.state.notified key) := by
    intro key progress found
    have evidence := invariant.evidence key
    rw [journal_of_creating found] at evidence
    exact evidence
  constructor
  · intro key progress found
    rcases found with found | found
    · exact creating key progress found
    · have evidence := invariant.evidence key
      simp only [Journal.Evidence, FactoryState.journal, found] at evidence
      exact evidence
  · intro key event next taken
    rcases (stepFactory_keeps invariant taken).2 key with ⟨rules, moved⟩
    exact JournalMoves.forward moved.moves
  · intro key progress found late
    rcases (creating key progress found).activation late with ⟨relay, _, complete⟩
    exact ⟨relay, complete⟩
  · intro id work cmcBlock progress cycles _ found phase enough
    have advanced : Advance (.quiet work.config.relayInitialCycles) progress
        (sys.state.notified work.key)
        { progress with phase := .cmcNotifySucceeded, cyclesMinted := some cycles }
        (some work.config.relayInitialCycles) := .succeed _ cycles phase enough
    exact paidEvidence_consistent work (advanced.evidence (creating work.key progress found))
      rfl rfl
  · exact invariant.unlost
  · intro key progress
    exact insertEntry_settled invariant.index (by simp)
  · intro key relay event next taken
    exact activation_of_step invariant taken
  · intro key relay event next taken active
    rcases (stepFactory_keeps invariant taken).2 key with ⟨rules, moved⟩
    have still := JournalMoves.settled moved.moves
      (by simp [FactoryState.journal, active])
      (fun progress => by simp [FactoryState.journal, active])
    rw [entries_of_journal still]
    exact active

theorem relay_factory_evidence_activated :
    factorySampleSystem.state.notified factorySampleKey = some 2000000000000 ∧
      FactoryEvidence factorySampleEnv factorySampleSystem :=
  ⟨by decide +kernel, relay_factory_evidence factorySampleSystem_reachable⟩

/-! The index of the setups in progress never fails an assertion, and what is swept was not paid. -/

structure Unprepared (progress : RelayCreationProgress) : Prop where
  transfer : progress.cmcTransfer = none
  minted : progress.cyclesMinted = none
  dispatched : progress.createDispatchedAtTs = none
  relay : progress.relayCanisterId = none
  funding : progress.relayFundingTransfer = none

/-- A registry that loses an entry loses a reservation that nothing was prepared for. -/
def RemovesUnprepared (st next : FactoryState) : Prop :=
  ∀ key, st.entries key ≠ none → next.entries key = none →
    ∃ progress, st.entries key = some (.creating progress) ∧ Unprepared progress

/-- What a relay factory promises of its Creating-key index. -/
structure CreatingIndex (env : FactoryEnv) (sys : FactorySystem) : Prop where
  exact : ∀ key, key ∈ sys.state.creatingKeys ↔
    ∃ progress, sys.state.entries key = some (.creating progress)
  distinct : sys.state.creatingKeys.Nodup
  bounded : sys.state.creatingKeys.length ≤ maxConcurrentFundedRelaySetups
  notified : ∀ args now after,
    notifyRelayConfiguration env sys.state now args ≠ (after, .trap .creatingIndex)
  resumed : ∀ id kont reply now after, sys.tasks id = some kont →
    resumeFactory env sys.state now kont reply ≠ some (after, .trap .creatingIndex)
  upgraded : ∀ config relayWasm limiter, ∃ creating next,
    sys.state.relayCreatingKeys = some creating ∧
      FactoryState.reconcileInterruptedCreatingEntriesAfterUpgrade
        { sys.state with config := config, relayWasm := relayWasm, limiter := limiter } = some next
  reclaimed : ∀ now next, sys.state.reclaimAbandonedPreSpendReservations now = some next →
    RemovesUnprepared sys.state next
  reconciled : ∀ args accountingStarted relayWasm next,
    upgradeFactory sys.state args accountingStarted relayWasm = some next →
      RemovesUnprepared sys.state next

section Removal

variable {rules : FactoryRules} {before after : Journal} {st next : FactoryState}

theorem JournalMoves.removed (moves : JournalMoves rules before after) (owns : ¬ rules.owns)
    (refused : ¬ rules.refused) (present : before.entry ≠ none) (vacant : after.entry = none) :
    ∃ progress, before.entry = some (.creating progress) ∧ progress.phase.rank ≤ 2 := by
  rcases Relation.ReflTransGen.cases_tail moves with same | ⟨middle, first, move⟩
  · rw [same] at vacant
    exact absurd vacant present
  · have attempt := (JournalMoves.attempt first).resolve_right owns
    have forward := (JournalMoves.forward first).rank attempt
    cases move with
    | reserve | advance | recover | activate => cases vacant
    | refuse _ _ _ _ rejected => exact absurd rejected refused
    | release _ _ unpaid =>
        have rank : before.rank ≤ 2 := Nat.le_trans (forward (by simp)) unpaid
        cases entry : before.entry with
        | none => exact absurd entry present
        | some value =>
            cases value with
            | creating progress =>
                simp only [Journal.rank, entry, entryRank] at rank
                exact ⟨progress, rfl, rank⟩
            | active relay =>
                simp only [Journal.rank, entry, entryRank] at rank
                omega
            | manualRecoveryRequired progress =>
                have still := JournalMoves.settled first present (by simp [entry])
                rw [← still] at entry
                cases entry

theorem removesUnprepared_of_moves
    (moves : ∀ key, JournalMoves rules (st.journal key) (next.journal key)) (owns : ¬ rules.owns)
    (refused : ¬ rules.refused) (evidence : ∀ key, (st.journal key).Evidence) :
    RemovesUnprepared st next := by
  intro key present vacant
  rcases JournalMoves.removed (moves key) owns refused present vacant with
    ⟨progress, found, unpaid⟩
  have known := evidence key
  rw [journal_of_creating found] at known
  have sound : ProgressEvidence progress (st.notified key) := known
  exact ⟨progress, found, sound.unprepared unpaid, sound.unminted (by omega),
    sound.undispatched (by omega), sound.childless (by omega), sound.unfunded (by omega)⟩

end Removal

theorem creating_index {env : FactoryEnv} {sys : FactorySystem}
    (reachable : (factoryMachine env).Reachable sys) : CreatingIndex env sys := by
  have invariant := reachable_factory reachable
  have index := invariant.index
  constructor
  · exact index.exact
  · exact index.nodup
  · exact index.bounded
  · intro args now after trapped
    have notified : Notified env (.quiet sys.state.config.relayInitialCycles) sys.state
        (notifyRelayConfiguration env sys.state now args) :=
      notifyRelayConfiguration_notified invariant.evidence index invariant.resting
        invariant.limiter
    rw [trapped] at notified
    cases notified with
    | trapped _ _ other => exact other rfl
    | admitted work sweeps granted config segment => exact segment rfl
  · intro id kont reply now after found resumed
    exact resume_segment invariant found resumed rfl
  · intro config relayWasm limiter
    have reconciles : ∃ next, FactoryState.reconcileInterruptedCreatingEntriesAfterUpgrade
        { sys.state with config := config, relayWasm := relayWasm, limiter := limiter } =
          some next := reconcile_of_sound index
    rcases reconciles with ⟨next, reconciled⟩
    exact ⟨_, next, relayCreatingKeys_of_sound index, reconciled⟩
  · intro now next reclaimed
    have sweeps : Swept (.quiet 0) sys.state next := reclaim_swept reclaimed
    exact removesUnprepared_of_moves sweeps.moves (fun impossible => impossible)
      (fun impossible => impossible) invariant.evidence
  · intro args accountingStarted relayWasm next upgraded
    exact removesUnprepared_of_moves (upgrade_keeps invariant 0 upgraded).2
      (fun impossible => impossible) (fun impossible => impossible) invariant.evidence

def factorySampleConverting : FactorySystem :=
  ((factoryMachine factorySampleEnv).run factorySampleStart
    (factorySamplePayment 0 1700000000000000000)).getD factorySampleStart

theorem factorySampleConverting_reachable :
    (factoryMachine factorySampleEnv).Reachable factorySampleConverting :=
  (factoryMachine factorySampleEnv).reachable_getD
    ⟨factorySampleConfig, _, _, by decide +kernel, rfl⟩
    (by decide +kernel)

theorem creating_index_converting :
    factorySampleConverting.state.creatingKeys = [factorySampleKey] ∧
      CreatingIndex factorySampleEnv factorySampleConverting :=
  ⟨by decide +kernel, creating_index factorySampleConverting_reachable⟩

end JupiterSuite.Historian
