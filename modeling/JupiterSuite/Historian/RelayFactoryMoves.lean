import JupiterSuite.Historian.RelayFactorySystem

/-! What one message may do to the journal of a setup: reserve it, advance its progress, hand it to
manual recovery, activate it, or remove it while nothing is paid. -/

namespace JupiterSuite.Historian

open Base

def RelayCreationPhase.rank : RelayCreationPhase → Nat
  | .reserved => 1
  | .probingTargets => 2
  | .cmcTransferPrepared => 3
  | .cmcTransferAccepted => 4
  | .cmcNotifySucceeded => 5
  | .createDispatched => 6
  | .childCreated => 7
  | .codeInstalled => 8
  | .relayFundingPrepared => 9
  | .relayFunded => 10
  | .finalizationAttempted => 11

def entryRank : Option RelaySetupEntry → Nat
  | none => 0
  | some (.creating progress) => progress.phase.rank
  | some (.manualRecoveryRequired progress) => progress.phase.rank
  | some (.active _) => 12

/-- What is kept of one setup, with the counters that no code reads. -/
structure Journal where
  entry : Option RelaySetupEntry
  attempt : Nat
  notified : Option Nat

def FactoryState.journal (st : FactoryState) (key : RelaySetupKey) : Journal :=
  ⟨st.entries key, st.attempts key, st.notified key⟩

def Journal.rank (journal : Journal) : Nat := entryRank journal.entry

/-- Branches that only a journal without its evidence could take. -/
def FactoryDiagnostic.needsLostEvidence : FactoryDiagnostic → Bool
  | .missingAcceptedBlock | .inconsistentPaidCreationEvidence | .activationIncomplete _
  | .relayIdChanged => true
  | _ => false

/-- Conditions under which a message takes the moves that the journal does not guard. -/
structure FactoryRules where
  owns : Prop
  converts : Prop
  refused : Prop
  initialCycles : Nat
  audited : Principal → Prop

/-- One update of the progress, with the initial cycles that a notification is recorded under. -/
inductive Advance (rules : FactoryRules) : RelayCreationProgress → Option Nat →
    RelayCreationProgress → Option Nat → Prop where
  | probe {progress : RelayCreationProgress} (notified : Option Nat)
      (phase : progress.phase = .reserved) :
      Advance rules progress notified { progress with phase := .probingTargets } notified
  | prepare {progress : RelayCreationProgress} (notified : Option Nat)
      (record : RelayTransferRecord) (phase : progress.phase = .probingTargets) :
      Advance rules progress notified
        { progress with phase := .cmcTransferPrepared, cmcTransfer := some record } notified
  | accept {progress : RelayCreationProgress} (notified : Option Nat) (block : Nat)
      (phase : progress.phase = .cmcTransferPrepared) (converts : rules.converts) :
      Advance rules progress notified
        { progress with
          phase := .cmcTransferAccepted
          cmcTransfer := progress.cmcTransfer.map fun record =>
            { record with blockIndex := some block } } notified
  | mint {progress : RelayCreationProgress} (notified : Option Nat) (cycles : Nat)
      (phase : progress.phase = .cmcTransferAccepted) :
      Advance rules progress notified { progress with cyclesMinted := some cycles } notified
  | succeed {progress : RelayCreationProgress} (notified : Option Nat) (cycles : Nat)
      (phase : progress.phase = .cmcTransferAccepted) (enough : rules.initialCycles ≤ cycles) :
      Advance rules progress notified
        { progress with phase := .cmcNotifySucceeded, cyclesMinted := some cycles }
        (some rules.initialCycles)
  | dispatch {progress : RelayCreationProgress} (notified : Option Nat) (nowSecs : Nat)
      (phase : progress.phase = .cmcNotifySucceeded) :
      Advance rules progress notified
        { progress with phase := .createDispatched, createDispatchedAtTs := some nowSecs } notified
  | child {progress : RelayCreationProgress} (notified : Option Nat) (relay : Principal)
      (phase : progress.phase = .createDispatched) :
      Advance rules progress notified
        { progress with relayCanisterId := some relay, phase := .childCreated } notified
  | install {progress : RelayCreationProgress} (notified : Option Nat)
      (phase : progress.phase = .childCreated) :
      Advance rules progress notified { progress with phase := .codeInstalled } notified
  | fund {progress : RelayCreationProgress} (notified : Option Nat) (record : RelayTransferRecord)
      (phase : progress.phase = .codeInstalled) :
      Advance rules progress notified
        { progress with phase := .relayFundingPrepared, relayFundingTransfer := some record }
        notified
  | funded {progress : RelayCreationProgress} (notified : Option Nat) (block : Nat)
      (phase : progress.phase = .relayFundingPrepared) :
      Advance rules progress notified
        { progress with
          phase := .relayFunded
          relayFundingTransfer := progress.relayFundingTransfer.map fun record =>
            { record with blockIndex := some block } } notified
  | finalize {progress : RelayCreationProgress} (notified : Option Nat)
      (phase : progress.phase = .relayFunded ∨ progress.phase = .finalizationAttempted) :
      Advance rules progress notified
        { progress with phase := .finalizationAttempted, lastError := none } notified
  | note {progress : RelayCreationProgress} (notified : Option Nat)
      (diagnostic : FactoryDiagnostic) (paid : 4 ≤ progress.phase.rank) :
      Advance rules progress notified { progress with lastError := some diagnostic } notified

inductive JournalMove (rules : FactoryRules) : Journal → Journal → Prop where
  | reserve (attempt : Nat) (notified : Option Nat) (owns : rules.owns) :
      JournalMove rules ⟨none, attempt, notified⟩
        ⟨some (.creating .new), attempt + 1, none⟩
  | release {progress : RelayCreationProgress} (attempt : Nat) (notified : Option Nat)
      (unpaid : progress.phase.rank ≤ 2) :
      JournalMove rules ⟨some (.creating progress), attempt, notified⟩ ⟨none, attempt, notified⟩
  | refuse {progress : RelayCreationProgress} (attempt : Nat) (notified : Option Nat)
      (phase : progress.phase = .cmcTransferPrepared) (converts : rules.converts)
      (refused : rules.refused) :
      JournalMove rules ⟨some (.creating progress), attempt, notified⟩ ⟨none, attempt, notified⟩
  | advance {progress next : RelayCreationProgress} {notified after : Option Nat} (attempt : Nat)
      (advanced : Advance rules progress notified next after) :
      JournalMove rules ⟨some (.creating progress), attempt, notified⟩
        ⟨some (.creating next), attempt, after⟩
  | recover {progress : RelayCreationProgress} (attempt : Nat) (notified : Option Nat)
      (diagnostic : FactoryDiagnostic) (paid : 3 ≤ progress.phase.rank)
      (converts : progress.phase = .cmcTransferPrepared → rules.converts)
      (reachable : diagnostic.needsLostEvidence = false) :
      JournalMove rules ⟨some (.creating progress), attempt, notified⟩
        ⟨some (.manualRecoveryRequired { progress with lastError := some diagnostic }), attempt,
          notified⟩
  | activate {progress : RelayCreationProgress} {relay : Principal} (attempt : Nat)
      (notified : Option Nat)
      (phase : progress.phase = .relayFunded ∨ progress.phase = .finalizationAttempted)
      (named : progress.relayCanisterId = some relay) (audited : rules.audited relay) :
      JournalMove rules ⟨some (.creating progress), attempt, notified⟩
        ⟨some (.active relay), attempt, notified⟩

abbrev JournalMoves (rules : FactoryRules) : Journal → Journal → Prop :=
  Relation.ReflTransGen (JournalMove rules)

structure ProgressEvidence (progress : RelayCreationProgress) (notified : Option Nat) :
    Prop where
  prepared : 3 ≤ progress.phase.rank → progress.cmcTransfer.isSome = true
  accepted : 4 ≤ progress.phase.rank →
    (progress.cmcTransfer.bind RelayTransferRecord.blockIndex).isSome = true
  minted : 5 ≤ progress.phase.rank → ∃ cycles initialCycles,
    progress.cyclesMinted = some cycles ∧ notified = some initialCycles ∧ initialCycles ≤ cycles
  dispatched : 6 ≤ progress.phase.rank → progress.createDispatchedAtTs.isSome = true
  child : 7 ≤ progress.phase.rank → progress.relayCanisterId.isSome = true
  fundingPrepared : 9 ≤ progress.phase.rank → progress.relayFundingTransfer.isSome = true
  funded : 10 ≤ progress.phase.rank →
    (progress.relayFundingTransfer.bind RelayTransferRecord.blockIndex).isSome = true
  undispatched : progress.phase.rank ≤ 5 → progress.createDispatchedAtTs = none
  childless : progress.phase.rank ≤ 6 → progress.relayCanisterId = none
  unprepared : progress.phase.rank ≤ 2 → progress.cmcTransfer = none
  unminted : progress.phase.rank ≤ 3 → progress.cyclesMinted = none
  unfunded : progress.phase.rank ≤ 8 → progress.relayFundingTransfer = none

def Journal.Evidence (journal : Journal) : Prop :=
  match journal.entry with
  | some (.creating progress) | some (.manualRecoveryRequired progress) =>
      ProgressEvidence progress journal.notified
  | _ => True

section Phases

variable {rules : FactoryRules} {progress next : RelayCreationProgress}
  {notified after : Option Nat} {before final : Journal}

theorem rank_le (phase : RelayCreationPhase) : phase.rank ≤ 11 := by
  cases phase <;> simp [RelayCreationPhase.rank]

theorem Advance.forward (advanced : Advance rules progress notified next after) :
    progress.phase.rank ≤ next.phase.rank ∧ next.phase.rank ≤ progress.phase.rank + 1 ∧
      (progress.phase = .cmcTransferPrepared → rules.converts) := by
  cases advanced with
  | probe phase | dispatch _ phase | child _ phase | install phase | mint _ phase
  | prepare _ phase | fund _ phase | funded _ phase | succeed _ phase _ =>
      dsimp only
      rw [phase]
      exact ⟨by decide, by decide, nofun⟩
  | accept _ phase converts =>
      dsimp only
      rw [phase]
      exact ⟨by decide, by decide, fun _ => converts⟩
  | finalize phase =>
      dsimp only
      rcases phase with phase | phase <;> rw [phase] <;>
        exact ⟨by decide, by decide, nofun⟩
  | note _ paid =>
      refine ⟨Nat.le_refl _, Nat.le_succ _, ?_⟩
      intro phase
      rw [phase] at paid
      exact absurd paid (by decide)

theorem Advance.relay (advanced : Advance rules progress notified next after)
    (created : 7 ≤ progress.phase.rank) : next.relayCanisterId = progress.relayCanisterId := by
  cases advanced with
  | child _ phase =>
      rw [phase] at created
      exact absurd created (by decide)
  | _ => rfl

theorem Advance.evidence (advanced : Advance rules progress notified next after)
    (evidence : ProgressEvidence progress notified) : ProgressEvidence next after := by
  rcases evidence with ⟨prepared, accepted, minted, dispatched, child, fundingPrepared, funded,
    undispatched, childless, unprepared, unminted, unfunded⟩
  rcases progress with ⟨current, cmcTransfer, cyclesMinted, createDispatchedAtTs, relay, funding,
    lastError⟩
  dsimp only at *
  cases advanced with
  | probe phase | prepare _ phase | mint _ phase | succeed _ phase _ | dispatch _ phase
  | child _ phase | install phase | fund _ phase =>
      subst phase
      -- a field is set by the update, excluded by the new phase, or implied by the old one
      constructor <;> intro bound <;> dsimp only at bound ⊢ <;> first
        | rfl
        | exact absurd bound (by decide)
        | exact prepared (by decide)
        | exact accepted (by decide)
        | exact ⟨_, _, rfl, rfl, by assumption⟩
        | exact minted (by decide)
        | exact dispatched (by decide)
        | exact child (by decide)
        | exact fundingPrepared (by decide)
        | exact undispatched (by decide)
        | exact childless (by decide)
        | exact unprepared (by decide)
        | exact unminted (by decide)
        | exact unfunded (by decide)
  | accept block phase converts =>
      subst phase
      rcases Option.isSome_iff_exists.mp (prepared (by decide)) with ⟨record, rfl⟩
      constructor <;> intro bound <;> dsimp only at bound ⊢ <;> first
        | rfl
        | exact absurd bound (by decide)
        | exact undispatched (by decide)
        | exact childless (by decide)
        | exact unminted (by decide)
        | exact unfunded (by decide)
  | funded block phase =>
      subst phase
      rcases Option.isSome_iff_exists.mp (fundingPrepared (by decide)) with ⟨record, rfl⟩
      constructor <;> intro bound <;> dsimp only at bound ⊢ <;> first
        | rfl
        | exact absurd bound (by decide)
        | exact prepared (by decide)
        | exact accepted (by decide)
        | exact minted (by decide)
        | exact dispatched (by decide)
        | exact child (by decide)
  | finalize phase =>
      rcases phase with phase | phase <;> subst phase <;>
        constructor <;> intro bound <;> dsimp only at bound ⊢ <;> first
          | exact absurd bound (by decide)
          | exact prepared (by decide)
          | exact accepted (by decide)
          | exact minted (by decide)
          | exact dispatched (by decide)
          | exact child (by decide)
          | exact fundingPrepared (by decide)
          | exact funded (by decide)
  | note _ _ =>
      exact ⟨prepared, accepted, minted, dispatched, child, fundingPrepared, funded,
        undispatched, childless, unprepared, unminted, unfunded⟩

end Phases

section Journals

variable {rules : FactoryRules} {before after : Journal} {relay : Principal}

def Journal.Names (journal : Journal) (relay : Principal) : Prop :=
  ∀ progress, journal.entry = some (.creating progress) → progress.relayCanisterId = some relay

theorem ProgressEvidence.new : ProgressEvidence .new none := by
  constructor <;> intro bound <;> first | rfl | exact absurd bound (by decide)

theorem JournalMove.evidence (move : JournalMove rules before after)
    (evidence : before.Evidence) : after.Evidence := by
  cases move with
  | reserve => exact ProgressEvidence.new
  | release => trivial
  | refuse => trivial
  | advance _ advanced => exact advanced.evidence evidence
  | recover _ _ diagnostic =>
      have kept : ProgressEvidence _ _ := evidence
      exact ⟨kept.prepared, kept.accepted, kept.minted, kept.dispatched, kept.child,
        kept.fundingPrepared, kept.funded, kept.undispatched, kept.childless, kept.unprepared,
        kept.unminted, kept.unfunded⟩
  | activate => trivial

theorem JournalMoves.evidence (moves : JournalMoves rules before after)
    (evidence : before.Evidence) : after.Evidence := by
  induction moves with
  | refl => exact evidence
  | tail _ move ih => exact move.evidence ih

/-- Once a conversion was accepted, the journal of the attempt stays and only goes forward. -/
theorem JournalMove.paid (move : JournalMove rules before after) (paid : 4 ≤ before.rank) :
    before.rank ≤ after.rank ∧ after.attempt = before.attempt := by
  cases move with
  | reserve =>
      have impossible : 4 ≤ 0 := paid
      omega
  | release _ _ unpaid =>
      have early : 4 ≤ RelayCreationPhase.rank _ := paid
      omega
  | refuse _ _ phase =>
      have early : 4 ≤ RelayCreationPhase.rank _ := paid
      rw [phase] at early
      exact absurd early (by decide)
  | advance _ advanced => exact ⟨advanced.forward.1, rfl⟩
  | recover => exact ⟨Nat.le_refl _, rfl⟩
  | activate =>
      refine ⟨?_, rfl⟩
      exact Nat.le_succ_of_le (rank_le _)

theorem JournalMoves.paid (moves : JournalMoves rules before after) (paid : 4 ≤ before.rank) :
    before.rank ≤ after.rank ∧ after.attempt = before.attempt := by
  induction moves with
  | refl => exact ⟨Nat.le_refl _, rfl⟩
  | tail _ move ih =>
      have next := move.paid (Nat.le_trans paid ih.1)
      exact ⟨Nat.le_trans ih.1 next.1, next.2.trans ih.2⟩

theorem JournalMove.names (move : JournalMove rules before after) (created : 7 ≤ before.rank)
    (names : before.Names relay) : after.Names relay := by
  intro progress present
  cases move with
  | reserve =>
      have impossible : 7 ≤ 0 := created
      omega
  | release => cases present
  | refuse => cases present
  | advance _ advanced =>
      cases present
      rw [advanced.relay created]
      exact names _ rfl
  | recover => cases present
  | activate => cases present

theorem JournalMoves.names (moves : JournalMoves rules before after) (created : 7 ≤ before.rank)
    (names : before.Names relay) : after.Names relay := by
  induction moves with
  | refl => exact names
  | tail first move ih =>
      have later := (JournalMoves.paid first (Nat.le_trans (by decide) created)).1
      exact move.names (Nat.le_trans created later) ih

theorem JournalMoves.prepared {progress : RelayCreationProgress}
    (moves : JournalMoves rules before after) (stranger : ¬ rules.converts)
    (entry : before.entry = some (.creating progress))
    (phase : progress.phase = .cmcTransferPrepared) : after = before := by
  rcases Relation.ReflTransGen.cases_head moves with same | ⟨middle, move, _⟩
  · exact same.symm
  · exfalso
    cases move with
    | reserve => cases entry
    | release _ _ unpaid =>
        cases entry
        rw [phase] at unpaid
        exact absurd unpaid (by decide)
    | refuse _ _ _ converts => exact stranger converts
    | advance _ advanced =>
        cases entry
        exact stranger (advanced.forward.2.2 phase)
    | recover _ _ _ _ converts =>
        cases entry
        exact stranger (converts phase)
    | activate _ _ late =>
        cases entry
        rw [phase] at late
        rcases late with late | late <;> cases late

theorem JournalMoves.settled (moves : JournalMoves rules before after)
    (entry : before.entry ≠ none) (settled : ∀ progress, before.entry ≠ some (.creating progress)) :
    after = before := by
  rcases Relation.ReflTransGen.cases_head moves with same | ⟨middle, move, _⟩
  · exact same.symm
  · exfalso
    cases move with
    | reserve => exact entry rfl
    | release => exact settled _ rfl
    | refuse => exact settled _ rfl
    | advance => exact settled _ rfl
    | recover => exact settled _ rfl
    | activate => exact settled _ rfl

theorem JournalMoves.attempt (moves : JournalMoves rules before after) :
    after.attempt = before.attempt ∨ rules.owns := by
  induction moves with
  | refl => exact .inl rfl
  | tail _ move ih =>
      cases move with
      | reserve _ _ owns => exact .inr owns
      | release => exact ih
      | refuse => exact ih
      | advance => exact ih
      | recover => exact ih
      | activate => exact ih

/-- Within one attempt a journal that was not removed only goes forward. -/
structure Forward (before after : Journal) : Prop where
  attempt : before.attempt ≤ after.attempt
  vacant : after.attempt = before.attempt → before.entry = none → after.entry = none
  rank : after.attempt = before.attempt → after.entry ≠ none → before.rank ≤ after.rank

theorem JournalMove.forward (move : JournalMove rules before after) : Forward before after := by
  cases move with
  | reserve attempt =>
      exact ⟨Nat.le_succ _, fun impossible => absurd impossible (Nat.succ_ne_self attempt),
        fun impossible => absurd impossible (Nat.succ_ne_self attempt)⟩
  | release | refuse =>
      exact ⟨Nat.le_refl _, fun _ _ => rfl, fun _ present => absurd rfl present⟩
  | advance _ advanced =>
      exact ⟨Nat.le_refl _, nofun,
        fun _ _ => advanced.forward.1⟩
  | recover =>
      exact ⟨Nat.le_refl _, nofun, fun _ _ => Nat.le_refl _⟩
  | activate =>
      exact ⟨Nat.le_refl _, nofun,
        fun _ _ => Nat.le_succ_of_le (rank_le _)⟩

theorem Forward.trans {first second third : Journal} (early : Forward first second)
    (late : Forward second third) : Forward first third := by
  have between : third.attempt = first.attempt →
      third.attempt = second.attempt ∧ second.attempt = first.attempt := by
    intro same
    have lower := early.attempt
    have upper := late.attempt
    omega
  refine ⟨Nat.le_trans early.attempt late.attempt, ?_, ?_⟩
  · intro same vacant
    rcases between same with ⟨final, initial⟩
    exact late.vacant final (early.vacant initial vacant)
  · intro same present
    rcases between same with ⟨final, initial⟩
    have middle : second.entry ≠ none := fun vacant => present (late.vacant final vacant)
    exact Nat.le_trans (early.rank initial middle) (late.rank final present)

theorem JournalMoves.forward (moves : JournalMoves rules before after) :
    Forward before after := by
  induction moves with
  | refl => exact ⟨Nat.le_refl _, fun _ vacant => vacant, fun _ _ => Nat.le_refl _⟩
  | tail _ move ih => exact ih.trans move.forward

theorem JournalMoves.activated (moves : JournalMoves rules before after)
    (active : after.entry = some (.active relay)) :
    before.entry = some (.active relay) ∨ rules.audited relay := by
  induction moves with
  | refl => exact .inl active
  | tail _ move ih =>
      cases move with
      | reserve => cases active
      | release => cases active
      | refuse => cases active
      | advance => cases active
      | recover => cases active
      | activate _ _ _ _ audited =>
          cases active
          exact .inr audited

end Journals

end JupiterSuite.Historian
