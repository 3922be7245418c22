import JupiterSuite.Historian.RelayCreatingIndex
import JupiterSuite.Historian.RelayFactoryMoves

/-! What a segment of a notification leaves behind: moves of its own setup's journal, and a
continuation that agrees with it. -/

namespace JupiterSuite.Historian

open Base

/-- A state that a message comes to from the one it began in. -/
structure Reached (rules : FactoryRules) (key : RelaySetupKey) (before after : FactoryState) :
    Prop where
  config : after.config = before.config
  wasm : after.relayWasm = before.relayWasm
  others : ∀ other, other ≠ key → after.journal other = before.journal other
  moves : JournalMoves rules (before.journal key) (after.journal key)
  tickets : after.limiter.tickets = before.limiter.tickets
  issued : after.limiter.nextToken = before.limiter.nextToken
  evidence : (after.journal key).Evidence
  index : after.IndexSound

/-- No message ends with a conversion that is notified but not followed by a creation. -/
def Resting (st : FactoryState) (key : RelaySetupKey) : Prop :=
  ∀ progress, st.entries key = some (.creating progress) → progress.phase ≠ .cmcNotifySucceeded

/-- The work is on the present attempt, which has come to the rank. -/
def PaidFor (st : FactoryState) (work : FactoryWork) (rank : Nat) : Prop :=
  work.attempt = some (st.attempts work.key) ∧ rank ≤ (st.journal work.key).rank

def Converting (st : FactoryState) (work : FactoryWork) : Prop :=
  work.attempt = some (st.attempts work.key) ∧
    ∃ progress, st.entries work.key = some (.creating progress) ∧
      progress.phase = .cmcTransferPrepared

def Auditing (env : FactoryEnv) (st : FactoryState) (work : FactoryWork) (relay : Principal)
    (expectedHash : List UInt8) : Prop :=
  PaidFor st work 10 ∧ (st.journal work.key).Names relay ∧
    st.approvedRelayOnchainModuleHash env = some expectedHash

/-- What a suspended continuation may rely on. Before the payment only a ticket that still holds
its slot tells that the reservation is its own. -/
def KontReady (env : FactoryEnv) (st : FactoryState) : FactoryKont → Prop
  | .balance work | .fee work _ | .rate work _ _ => work.attempt = none
  | .neuron work _ _ _ | .probe work _ _ _ =>
      work.ticket ∈ st.limiter.tickets → work.attempt = some (st.attempts work.key)
  | .cmcTransfer work _ => Converting st work
  | .notifyTopUp work _ | .createCanister work | .installCode work _ _
  | .installStatus work _ _ _ | .remainingBalance work _ | .fundingFee work _ _
  | .relayFunding work _ => PaidFor st work 4
  | .firstAudit work phase relay expectedHash =>
      Auditing env st work relay expectedHash ∧
        (phase = .relayFunded ∨ phase = .finalizationAttempted)
  | .updateSettings work relay expectedHash | .finalAudit work relay expectedHash _ =>
      Auditing env st work relay expectedHash

structure SameWork (work other : FactoryWork) : Prop where
  key : other.key = work.key
  config : other.config = work.config
  ticket : other.ticket = work.ticket

def FactoryKont.isConversion : FactoryKont → Bool
  | .cmcTransfer _ _ => true
  | _ => false

/-- How a message on a setup may end. -/
def Segment (env : FactoryEnv) (rules : FactoryRules) (before : FactoryState)
    (work : FactoryWork) : FactoryStep → Prop
  | (_, .trap cause) => cause ≠ .creatingIndex
  | (st, .done _) => ∃ last, Reached rules work.key before last ∧ Resting last work.key ∧
      st = { last with limiter := last.limiter.dropTicket work.ticket }
  | (st, .await kont) => Reached rules work.key before st ∧ Resting st work.key ∧
      SameWork work kont.work ∧ KontReady env st kont ∧ kont.isConversion = false
  | (st, .convert other _) => Reached rules work.key before st ∧ Resting st work.key ∧
      SameWork work other ∧ Converting st other ∧ (before.journal work.key).rank ≤ 2
  | (st, .create other _) => Reached rules work.key before st ∧ Resting st work.key ∧
      SameWork work other ∧ PaidFor st other 6 ∧ (before.journal work.key).rank ≤ 5
  | (st, .fund other _) => Reached rules work.key before st ∧ Resting st work.key ∧
      SameWork work other ∧ PaidFor st other 9 ∧ (before.journal work.key).rank ≤ 8

/-- The writing of one entry. -/
structure Written (st next : FactoryState) (key : RelaySetupKey)
    (entry : Option RelaySetupEntry) : Prop where
  config : next.config = st.config
  wasm : next.relayWasm = st.relayWasm
  entries : next.entries = Function.update st.entries key entry
  limiter : next.limiter = st.limiter
  attempts : next.attempts = st.attempts
  notified : next.notified = st.notified
  index : st.IndexSound → next.IndexSound

section Writing

variable {st next : FactoryState} {key : RelaySetupKey} {entry : Option RelaySetupEntry}

theorem setRelayCreatingKeys_written {keys : List RelaySetupKey}
    (index : st.IndexSound → next.IndexSound)
    (written : (st.putEntry key entry).setRelayCreatingKeys keys = some next) :
    Written st next key entry := by
  rw [FactoryState.setRelayCreatingKeys] at written
  split at written
  · cases written
    exact ⟨rfl, rfl, rfl, rfl, rfl, rfl, index⟩
  · cases written

theorem insertEntry_written {value : RelaySetupEntry}
    (inserted : st.insertEntry key value = some next) : Written st next key (some value) := by
  have index : st.IndexSound → next.IndexSound := fun sound => insertEntry_index sound inserted
  rw [FactoryState.insertEntry] at inserted
  split at inserted
  · cases inserted
  · split at inserted
    · split at inserted
      · exact setRelayCreatingKeys_written index inserted
      · split at inserted
        · exact setRelayCreatingKeys_written index inserted
        · cases inserted
    · exact setRelayCreatingKeys_written index inserted

theorem removeEntry_written (removed : st.removeEntry key = some next) :
    Written st next key none := by
  have index : st.IndexSound → next.IndexSound := fun sound => removeEntry_index sound removed
  rw [FactoryState.removeEntry] at removed
  split at removed
  · cases removed
  · exact setRelayCreatingKeys_written index removed

theorem Written.journal (written : Written st next key entry) :
    next.journal key = ⟨entry, st.attempts key, st.notified key⟩ := by
  simp only [FactoryState.journal, written.entries, written.attempts, written.notified,
    Function.update_self]

theorem Written.others (written : Written st next key entry) {other : RelaySetupKey}
    (different : other ≠ key) : next.journal other = st.journal other := by
  simp only [FactoryState.journal, written.entries, written.attempts, written.notified,
    Function.update_of_ne different]

theorem Written.found (written : Written st next key entry) : next.entries key = entry := by
  rw [written.entries, Function.update_self]

end Writing

section Reaching

variable {rules : FactoryRules} {key : RelaySetupKey} {before st next : FactoryState}
  {progress : RelayCreationProgress}

theorem Reached.refl (evidence : (before.journal key).Evidence) (index : before.IndexSound) :
    Reached rules key before before :=
  ⟨rfl, rfl, fun _ _ => rfl, .refl, rfl, rfl, evidence, index⟩

theorem Reached.write {entry : Option RelaySetupEntry} (reached : Reached rules key before st)
    (written : Written st next key entry)
    (move : JournalMove rules (st.journal key) (next.journal key)) :
    Reached rules key before next where
  config := written.config.trans reached.config
  wasm := written.wasm.trans reached.wasm
  others := fun other different =>
    (written.others different).trans (reached.others other different)
  moves := reached.moves.tail move
  tickets := by
    rw [written.limiter]
    exact reached.tickets
  issued := by
    rw [written.limiter]
    exact reached.issued
  evidence := move.evidence reached.evidence
  index := written.index reached.index

/-- As `write`, with an attempt of the key counted or its notification noted. -/
theorem Reached.note {entry : Option RelaySetupEntry} {attempts : RelaySetupKey → Nat}
    {notified : RelaySetupKey → Option Nat} (reached : Reached rules key before st)
    (written : Written st next key entry)
    (move : JournalMove rules (st.journal key) (FactoryState.journal { next with
      attempts := attempts
      notified := notified } key))
    (others : ∀ other, other ≠ key → attempts other = next.attempts other ∧
      notified other = next.notified other) :
    Reached rules key before { next with attempts := attempts, notified := notified } where
  config := written.config.trans reached.config
  wasm := written.wasm.trans reached.wasm
  others := by
    intro other different
    rw [← reached.others other different, ← written.others different]
    simp only [FactoryState.journal, others other different]
  moves := reached.moves.tail move
  tickets := by
    rw [written.limiter]
    exact reached.tickets
  issued := by
    rw [written.limiter]
    exact reached.issued
  evidence := move.evidence reached.evidence
  index := written.index reached.index

theorem journal_of_creating (found : st.entries key = some (.creating progress)) :
    st.journal key = ⟨some (.creating progress), st.attempts key, st.notified key⟩ := by
  simp only [FactoryState.journal, found]

theorem Reached.progressEvidence (reached : Reached rules key before st)
    (found : st.entries key = some (.creating progress)) :
    ProgressEvidence progress (st.notified key) := by
  have evidence := reached.evidence
  rw [journal_of_creating found] at evidence
  exact evidence

theorem Reached.charge {limiter : Limiter} {now : Nat} {ticket : Ticket}
    (reached : Reached rules key before st)
    (charged : st.limiter.charge now ticket = some limiter) :
    Reached rules key before { st with limiter := limiter } := by
  rcases charge_tickets charged with ⟨tickets, issued⟩
  exact ⟨reached.config, reached.wasm, reached.others, reached.moves,
    tickets.trans reached.tickets, issued.trans reached.issued, reached.evidence,
    reached.index⟩

theorem Resting.of_phase {expected : RelayCreationPhase}
    (found : st.entries key = some (.creating progress)) (phase : progress.phase = expected)
    (resting : expected ≠ .cmcNotifySucceeded) : Resting st key := by
  intro other same
  rw [found] at same
  cases same
  rw [phase]
  exact resting

theorem Resting.of_settled {entry : RelaySetupEntry} (found : st.entries key = some entry)
    (settled : ∀ progress, entry ≠ .creating progress) : Resting st key := by
  intro progress same
  rw [found] at same
  cases same
  exact absurd rfl (settled progress)

theorem Resting.of_vacant (vacant : st.entries key = none) : Resting st key := by
  intro progress same
  rw [vacant] at same
  cases same

end Reaching

variable {diagnostic : FactoryDiagnostic} {expectedHash : List UInt8}

section Rules

variable {env : FactoryEnv} {rules : FactoryRules} {before st : FactoryState}
  {work : FactoryWork} {expected : RelayCreationPhase}

theorem stop_segment (reached : Reached rules work.key before st) (resting : Resting st work.key)
    (result : RelaySetupNotifyResult) : Segment env rules before work (work.stop st result) :=
  ⟨st, reached, resting, rfl⟩

theorem orTrap_segment {value : Option FactoryState} {next : FactoryState → FactoryStep}
    (written : value.isSome = true)
    (goes : ∀ after, value = some after → Segment env rules before work (next after)) :
    Segment env rules before work (orTrap st value next) := by
  cases made : value with
  | none =>
      rw [made] at written
      cases written
  | some after => exact goes after made

theorem requirePhase_segment {next : RelayCreationProgress → FactoryStep}
    (reached : Reached rules work.key before st)
    (resting : Resting st work.key ∨ expected = .cmcNotifySucceeded)
    (goes : ∀ progress, st.entries work.key = some (.creating progress) →
      progress.phase = expected → Segment env rules before work (next progress)) :
    Segment env rules before work (requirePhase env st work expected next) := by
  simp only [requirePhase]
  split
  · rename_i progress found
    split
    · rename_i phase
      exact goes progress found phase
    · rename_i elsewhere
      refine stop_segment reached ?_ _
      rcases resting with resting | here
      · exact resting
      · intro other same
        rw [found] at same
        cases same
        rw [← here]
        exact elsewhere
  · rename_i entry notCreating found
    exact stop_segment reached (.of_settled found notCreating) _
  · rename_i vacant
    exact stop_segment reached (.of_vacant vacant) _

theorem updateProgress_segment {update : RelayCreationProgress → RelayCreationProgress}
    {next : FactoryState → RelayCreationProgress → FactoryStep}
    (reached : Reached rules work.key before st)
    (resting : Resting st work.key ∨ expected = .cmcNotifySucceeded)
    (advance : ∀ progress, st.entries work.key = some (.creating progress) →
      progress.phase = expected →
        Advance rules progress (st.notified work.key) (update progress) (st.notified work.key))
    (goes : ∀ after progress, Reached rules work.key before after →
      st.entries work.key = some (.creating progress) → progress.phase = expected →
      Written st after work.key (some (.creating (update progress))) →
        Segment env rules before work (next after (update progress))) :
    Segment env rules before work (updateProgress env st work expected update next) := by
  apply requirePhase_segment reached resting
  intro progress found phase
  apply orTrap_segment (insertEntry_creating reached.index found _)
  intro after inserted
  have written := insertEntry_written inserted
  refine goes after progress (reached.write written ?_) found phase written
  rw [journal_of_creating found, written.journal]
  exact .advance _ (advance progress found phase)

theorem manualRecovery_segment (reached : Reached rules work.key before st)
    (resting : Resting st work.key ∨ expected = .cmcNotifySucceeded) (paid : 3 ≤ expected.rank)
    (converts : expected = .cmcTransferPrepared → rules.converts)
    (reachable : diagnostic.needsLostEvidence = false) :
    Segment env rules before work (manualRecovery env st work expected diagnostic) := by
  apply requirePhase_segment reached resting
  intro progress found phase
  apply orTrap_segment (insertEntry_settled reached.index (by simp))
  intro after inserted
  have written := insertEntry_written inserted
  have move : JournalMove rules (st.journal work.key) (after.journal work.key) := by
    rw [journal_of_creating found, written.journal]
    refine .recover _ _ diagnostic ?_ ?_ reachable
    · rw [phase]
      exact paid
    · rw [phase]
      exact converts
  refine stop_segment (reached.write written move) ?_ _
  exact .of_settled written.found (fun _ => by simp)

theorem keepInProgress_segment (reached : Reached rules work.key before st)
    (resting : Resting st work.key) (paid : 4 ≤ expected.rank) :
    Segment env rules before work (keepInProgress env st work expected diagnostic) := by
  apply updateProgress_segment reached (.inl resting)
  · intro progress found phase
    refine .note _ diagnostic ?_
    rw [phase]
    exact paid
  · intro after progress arrived found phase written
    refine stop_segment arrived ?_ _
    exact .of_phase written.found rfl (resting progress found)

end Rules

section Finalization

variable {env : FactoryEnv} {rules : FactoryRules} {before st : FactoryState}
  {work : FactoryWork} {phase : RelayCreationPhase} {relay : Principal} {now : Nat}

theorem ProgressEvidence.activation {progress : RelayCreationProgress} {notified : Option Nat}
    (evidence : ProgressEvidence progress notified) (funded : 10 ≤ progress.phase.rank) :
    ∃ relay, progress.relayCanisterId = some relay ∧
      relayIdWithCompleteActivationEvidence progress = .ok relay := by
  rcases Option.isSome_iff_exists.mp (evidence.child (by omega)) with ⟨relay, named⟩
  have accepted := evidence.accepted (by omega)
  have paid := evidence.funded funded
  rcases evidence.minted (by omega) with ⟨cycles, _, minted, _⟩
  refine ⟨relay, named, ?_⟩
  rw [← Option.not_isNone, Bool.not_eq_true'] at accepted paid
  simp only [relayIdWithCompleteActivationEvidence, named, accepted, paid, minted,
    Option.isNone_some, Bool.false_eq_true, if_false]

theorem late_rank (late : phase = .relayFunded ∨ phase = .finalizationAttempted) :
    10 ≤ phase.rank := by
  rcases late with rfl | rfl <;> decide

theorem late_not_notified (late : phase = .relayFunded ∨ phase = .finalizationAttempted) :
    phase ≠ .cmcNotifySucceeded ∧ phase ≠ .cmcTransferPrepared := by
  rcases late with rfl | rfl <;> decide

theorem admittedCall_segment {kont : FactoryKont} (reached : Reached rules work.key before st)
    (resting : Resting st work.key) (same : kont.work = work)
    (other : kont.isConversion = false)
    (ready : ∀ limiter : Limiter, limiter.tickets = st.limiter.tickets →
      KontReady env { st with limiter := limiter } kont) :
    Segment env rules before work (admittedCall st now work kont) := by
  simp only [admittedCall]
  split
  · exact stop_segment reached resting _
  · rename_i limiter charged
    refine ⟨reached.charge charged, resting, ?_, ready limiter (charge_tickets charged).1, other⟩
    rw [same]
    exact ⟨rfl, rfl, rfl⟩

theorem lateRecovery_segment (reached : Reached rules work.key before st)
    (resting : Resting st work.key) (late : phase = .relayFunded ∨ phase = .finalizationAttempted)
    (reachable : diagnostic.needsLostEvidence = false) :
    Segment env rules before work (manualRecovery env st work phase diagnostic) :=
  manualRecovery_segment reached (.inl resting)
    (Nat.le_trans (by decide) (late_rank late))
    (fun here => absurd here (late_not_notified late).2) reachable

theorem activateRelaySetup_segment (reached : Reached rules work.key before st)
    (resting : Resting st work.key)
    (late : phase = .relayFunded ∨ phase = .finalizationAttempted)
    (names : (st.journal work.key).Names relay) (audited : rules.audited relay) :
    Segment env rules before work (activateRelaySetup env st work phase relay) := by
  apply requirePhase_segment reached (.inl resting)
  intro progress found here
  have evidence := reached.progressEvidence found
  have named : progress.relayCanisterId = some relay := names progress found
  have ranked : 10 ≤ progress.phase.rank := by
    rw [here]
    exact late_rank late
  rcases evidence.activation ranked with ⟨other, same, complete⟩
  rw [named] at same
  cases same
  rw [complete]
  dsimp only
  rw [if_pos rfl]
  apply orTrap_segment (insertEntry_settled reached.index (by simp))
  intro after inserted
  have written := insertEntry_written inserted
  have move : JournalMove rules (st.journal work.key) (after.journal work.key) := by
    rw [journal_of_creating found, written.journal]
    refine .activate _ _ ?_ named audited
    rw [here]
    exact late
  refine stop_segment (reached.write written move) ?_ _
  exact .of_settled written.found (fun _ => by simp)

theorem driveRelayFinalization_segment (reached : Reached rules work.key before st)
    (resting : Resting st work.key) (attempt : work.attempt = some (st.attempts work.key)) :
    Segment env rules before work (driveRelayFinalization env st now work) := by
  simp only [driveRelayFinalization]
  split
  · rename_i progress found
    split
    · rename_i late
      rcases (reached.progressEvidence found).activation (late_rank late) with
        ⟨relay, named, complete⟩
      rw [complete]
      dsimp only
      split
      · exact lateRecovery_segment reached resting late rfl
      · rename_i expectedHash approved
        apply admittedCall_segment reached resting rfl rfl
        intro limiter _
        refine ⟨⟨⟨attempt, ?_⟩, ?_, approved⟩, late⟩
        · have rank : entryRank (st.entries work.key) = progress.phase.rank := by
            rw [found]
            rfl
          have funded := late_rank late
          rw [← rank] at funded
          exact funded
        · intro other same
          have present : st.entries work.key = some (.creating other) := same
          rw [found] at present
          cases present
          exact named
    · exact stop_segment reached resting _
  · exact stop_segment reached resting _
  · exact stop_segment reached resting _

theorem withSameRelay_segment {next : FactoryStep} (reached : Reached rules work.key before st)
    (resting : Resting st work.key)
    (late : phase = .relayFunded ∨ phase = .finalizationAttempted)
    (names : (st.journal work.key).Names relay)
    (goes : Segment env rules before work next) :
    Segment env rules before work (withSameRelay env st work phase relay next) := by
  apply requirePhase_segment reached (.inl resting)
  intro progress found here
  have named : progress.relayCanisterId = some relay := names progress found
  have ranked : 10 ≤ progress.phase.rank := by
    rw [here]
    exact late_rank late
  rcases (reached.progressEvidence found).activation ranked with ⟨other, same, complete⟩
  rw [named] at same
  cases same
  rw [complete]
  dsimp only
  rw [if_pos rfl]
  exact goes

theorem onFirstAudit_segment {observed : Except String CanisterStatusResult}
    (reached : Reached rules work.key before st) (resting : Resting st work.key)
    (late : phase = .relayFunded ∨ phase = .finalizationAttempted)
    (auditing : Auditing env st work relay expectedHash)
    (audited : ∀ status, observed = .ok status →
      classifyRelayFinalizationState status expectedHash env.historian = .ok .finalized →
        rules.audited relay) :
    Segment env rules before work
      (onFirstAudit env st now work phase relay expectedHash observed) := by
  rcases auditing with ⟨paid, names, approved⟩
  apply withSameRelay_segment reached resting late names
  cases observed with
  | error error =>
      exact keepInProgress_segment reached resting
        (Nat.le_trans (by decide) (late_rank late))
  | ok status =>
      dsimp only
      split
      · exact lateRecovery_segment reached resting late rfl
      · rename_i finalized
        exact activateRelaySetup_segment reached resting late names (audited status rfl finalized)
      · apply updateProgress_segment reached (.inl resting)
        · intro progress _ here
          refine .finalize _ ?_
          rw [here]
          exact late
        · intro after progress arrived found here written
          have attempted : { progress with
              phase := .finalizationAttempted, lastError := none }.phase =
                RelayCreationPhase.finalizationAttempted := rfl
          apply admittedCall_segment arrived
            (.of_phase written.found attempted (by decide)) rfl rfl
          intro limiter _
          refine ⟨⟨?_, ?_⟩, ?_, ?_⟩
          · rw [paid.1, ← written.attempts]
          · have rank : (after.journal work.key).rank = 11 := by
              rw [written.journal]
              rfl
            exact Nat.le_trans (by decide) (Nat.le_of_eq rank.symm)
          · intro other same
            have present : after.entries work.key = some (.creating other) := same
            rw [written.found] at present
            cases present
            exact names progress found
          · rw [← approved]
            simp only [FactoryState.approvedRelayOnchainModuleHash, written.wasm]

theorem onUpdateSettings_segment {result : Except String Unit}
    (reached : Reached rules work.key before st) (resting : Resting st work.key)
    (auditing : Auditing env st work relay expectedHash) :
    Segment env rules before work
      (onUpdateSettings env st now work relay expectedHash result) := by
  apply requirePhase_segment reached (.inl resting)
  intro progress found here
  apply admittedCall_segment reached resting rfl rfl
  intro limiter _
  exact auditing

theorem onFinalAudit_segment {updateError : Option String}
    {observed : Except String CanisterStatusResult} (reached : Reached rules work.key before st)
    (resting : Resting st work.key) (auditing : Auditing env st work relay expectedHash)
    (audited : ∀ status, observed = .ok status →
      classifyRelayFinalizationState status expectedHash env.historian = .ok .finalized →
        rules.audited relay) :
    Segment env rules before work
      (onFinalAudit env st work relay expectedHash updateError observed) := by
  have late : RelayCreationPhase.finalizationAttempted = .relayFunded ∨
      RelayCreationPhase.finalizationAttempted = .finalizationAttempted := .inr rfl
  apply withSameRelay_segment reached resting late auditing.2.1
  cases observed with
  | error error => exact keepInProgress_segment reached resting (by decide)
  | ok status =>
      dsimp only
      split
      · exact lateRecovery_segment reached resting late rfl
      · rename_i finalized
        exact activateRelaySetup_segment reached resting late auditing.2.1
          (audited status rfl finalized)
      · exact keepInProgress_segment reached resting (by decide)

end Finalization

end JupiterSuite.Historian
