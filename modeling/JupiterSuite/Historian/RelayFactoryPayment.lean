import JupiterSuite.Historian.RelayFactoryResults

/-! The segments of an admission up to its payment, and what the reply to any continuation leads
to. Before the payment a reservation belongs to the ticket that holds its slot. -/

namespace JupiterSuite.Historian

open Base

theorem SameWork.trans {first second third : FactoryWork} (early : SameWork first second)
    (late : SameWork second third) : SameWork first third :=
  ⟨late.key.trans early.key, late.config.trans early.config, late.ticket.trans early.ticket⟩

variable {key : RelaySetupKey} {rest : List Principal} {result : Except String Unit}
  {target : Principal} {balanceE8s : Nat}

section Unpaid

variable {env : FactoryEnv} {rules : FactoryRules} {before st : FactoryState}
  {work : FactoryWork} {expected : RelayCreationPhase} {now : Nat} {quote : SetupQuote}

/-- The attempt of the work does not matter to how a message on its setup ends. -/
theorem Segment.same {other : FactoryWork} {step : FactoryStep} (same : SameWork work other)
    (segment : Segment env rules before other step) : Segment env rules before work step := by
  rcases step with ⟨after, pause⟩
  cases pause with
  | trap cause => exact segment
  | done result =>
      simp only [Segment, same.key, same.ticket] at segment ⊢
      exact segment
  | await kont =>
      simp only [Segment, same.key] at segment ⊢
      rcases segment with ⟨reached, resting, next, rest⟩
      exact ⟨reached, resting, same.trans next, rest⟩
  | convert next _ | create next _ | fund next _ =>
      simp only [Segment, same.key] at segment ⊢
      rcases segment with ⟨reached, resting, kept, rest⟩
      exact ⟨reached, resting, same.trans kept, rest⟩

theorem removeReservation_cases {after : FactoryState}
    (released : removeReservation st key expected = some after) :
    after = st ∨ ∃ progress, st.entries key = some (.creating progress) ∧
      progress.phase = expected ∧ st.removeEntry key = some after := by
  simp only [removeReservation] at released
  split at released
  · rename_i progress found
    split at released
    · rename_i phase
      exact .inr ⟨progress, found, phase, released⟩
    · cases released
      exact .inl rfl
  · cases released
    exact .inl rfl

theorem removeReservation_isSome (sound : st.IndexSound) (key : RelaySetupKey) :
    (removeReservation st key expected).isSome = true := by
  simp only [removeReservation]
  split
  · split
    · exact removeEntry_isSome sound key
    · rfl
  · rfl

theorem removeOwnedReservation_isSome (sound : st.IndexSound) (key : RelaySetupKey)
    (ticket : Ticket) : (removeOwnedReservation st key expected ticket).isSome = true := by
  simp only [removeOwnedReservation]
  split
  · exact removeReservation_isSome sound key
  · rfl

theorem releaseReservation_segment {result : RelaySetupNotifyResult}
    (reached : Reached rules work.key before st) (resting : Resting st work.key)
    (unpaid : expected.rank ≤ 2) :
    Segment env rules before work (releaseReservation st work expected result) := by
  apply orTrap_segment (removeOwnedReservation_isSome reached.index _ _)
  intro after released
  simp only [removeOwnedReservation] at released
  split at released
  · rcases removeReservation_cases released with same | ⟨progress, found, phase, removed⟩
    · subst same
      exact stop_segment reached resting _
    · have written := removeEntry_written removed
      refine stop_segment (reached.write written ?_) (.of_vacant written.found) _
      rw [journal_of_creating found, written.journal]
      refine .release _ _ ?_
      rw [phase]
      exact unpaid
  · cases released
    exact stop_segment reached resting _

theorem onCmcTransfer_segment {reply : Except String TransferReply}
    (reached : Reached rules work.key before st) (resting : Resting st work.key)
    (converting : Converting st work) (converts : rules.converts)
    (refused : ∀ error, acceptedTransfer reply = .rejected error → rules.refused) :
    Segment env rules before work (onCmcTransfer env st now work reply) := by
  apply requirePhase_segment reached (.inl resting)
  intro progress found phase
  split
  · rename_i error rejected
    apply orTrap_segment (removeReservation_isSome reached.index _)
    intro after removed
    rcases removeReservation_cases removed with same | ⟨progress, found, phase, removed⟩
    · subst same
      exact stop_segment reached resting _
    · have written := removeEntry_written removed
      refine stop_segment (reached.write written ?_) (.of_vacant written.found) _
      rw [journal_of_creating found, written.journal]
      exact .refuse _ _ phase converts (refused error rejected)
  · exact manualRecovery_segment reached (.inl resting) (by decide) (fun _ => converts) rfl
  · rename_i cmcBlock _
    apply updateProgress_segment reached (.inl resting)
    · intro progress _ here
      exact .accept _ cmcBlock here converts
    · intro after progress arrived found here written
      apply continuePaidCreation_segment arrived (.of_phase written.found rfl (by simp))
      rw [converting.1, written.attempts]

theorem prepareConversion_segment (reached : Reached rules work.key before st)
    (resting : Resting st work.key) (attempt : work.attempt = some (st.attempts work.key))
    (early : (before.journal work.key).rank ≤ 2) :
    Segment env rules before work (prepareConversion env st now work quote) := by
  simp only [prepareConversion]
  split
  · exact releaseReservation_segment reached resting (by decide)
  · split
    · exact releaseReservation_segment reached resting (by decide)
    · apply updateProgress_segment reached (.inl resting)
      · intro progress _ here
        exact .prepare _ _ here
      · intro after progress arrived found here written
        split
        · exact nofun
        · refine ⟨arrived, .of_phase written.found rfl (by simp), .refl work, ⟨?_, ?_⟩, early⟩
          · rw [attempt, written.attempts]
          · exact ⟨_, written.found, rfl⟩

theorem probeTargets_segment {targets : List Principal}
    (reached : Reached rules work.key before st) (resting : Resting st work.key)
    (attempt : work.attempt = some (st.attempts work.key))
    (early : (before.journal work.key).rank ≤ 2) :
    Segment env rules before work (probeTargets env st now work quote targets) := by
  cases targets with
  | nil => exact prepareConversion_segment reached resting attempt early
  | cons target rest =>
      simp only [probeTargets]
      split
      · exact releaseReservation_segment reached resting (by decide)
      · exact ⟨reached, resting, .refl work, fun _ => attempt, rfl⟩

theorem onProbed_segment (reached : Reached rules work.key before st)
    (resting : Resting st work.key) (same : st = before)
    (ready : work.ticket ∈ st.limiter.tickets → work.attempt = some (st.attempts work.key)) :
    Segment env rules before work (onProbed env st now work quote target rest result) := by
  simp only [onProbed]
  split
  · exact releaseReservation_segment reached resting (by decide)
  · rename_i live
    rw [Bool.not_eq_true, Bool.not_eq_false'] at live
    have attempt := ready (owns_of_check live)
    apply requirePhase_segment reached (.inl resting)
    intro progress found phase
    have early : (before.journal work.key).rank ≤ 2 := by
      rw [← same, rank_of_creating found, phase]
      decide
    cases result with
    | ok _ => exact probeTargets_segment reached resting attempt early
    | error message => exact releaseReservation_segment reached resting (by decide)

theorem onProbing_segment {charged : Bool} {step : FactoryStep}
    (reached : Reached rules work.key before st) (resting : Resting st work.key)
    (ready : work.ticket ∈ st.limiter.tickets → work.attempt = some (st.attempts work.key))
    (probing : onProbing st now (.probe work quote target rest) charged = some step) :
    Segment env rules before work step := by
  simp only [onProbing] at probing
  split at probing
  · rcases Option.map_eq_some_iff.mp probing with ⟨limiter, paid, rfl⟩
    refine ⟨reached.charge paid, resting, .refl work, ?_, rfl⟩
    intro owned
    have tickets : limiter.tickets = st.limiter.tickets := (charge_tickets paid).1
    dsimp only at owned
    rw [tickets] at owned
    exact ready owned
  · split at probing
    · cases probing
      exact ⟨reached, resting, .refl work, ready, rfl⟩
    · cases probing

theorem validateNeurons_segment {neuronIds : List Nat}
    (reached : Reached rules work.key before st) (resting : Resting st work.key)
    (attempt : work.attempt = some (st.attempts work.key))
    (early : (before.journal work.key).rank ≤ 2) :
    Segment env rules before work (validateNeurons env st now work quote neuronIds) := by
  cases neuronIds with
  | nil =>
      simp only [validateNeurons]
      apply updateProgress_segment reached (.inl resting)
      · intro progress _ here
        exact .probe _ here
      · intro after progress arrived found here written
        apply probeTargets_segment arrived (.of_phase written.found rfl (by simp)) _ early
        rw [attempt, written.attempts]
  | cons neuronId rest =>
      simp only [validateNeurons]
      split
      · exact releaseReservation_segment reached resting (by decide)
      · rename_i limiter paid
        exact ⟨reached.charge paid, resting, .refl work, fun _ => attempt, rfl⟩

theorem onNeuron_segment {neuronId : Nat} {rest : List Nat} {resolved : Bool}
    (reached : Reached rules work.key before st) (resting : Resting st work.key)
    (same : st = before)
    (ready : work.ticket ∈ st.limiter.tickets → work.attempt = some (st.attempts work.key)) :
    Segment env rules before work (onNeuron env st now work quote neuronId rest resolved) := by
  simp only [onNeuron]
  split
  · exact releaseReservation_segment reached resting (by decide)
  · rename_i live
    rw [Bool.not_eq_true, Bool.not_eq_false'] at live
    have attempt := ready (owns_of_check live)
    apply requirePhase_segment reached (.inl resting)
    intro progress found phase
    have early : (before.journal work.key).rank ≤ 2 := by
      rw [← same, rank_of_creating found, phase]
      decide
    split
    · exact validateNeurons_segment reached resting attempt early
    · exact releaseReservation_segment reached resting (by decide)

theorem Reached.reserve {next : FactoryState} (reached : Reached rules key before st)
    (vacant : st.entries key = none) (owns : rules.owns)
    (written : Written st next key (some (.creating .new))) :
    Reached rules key before { next with
      attempts := Function.update next.attempts key (next.attempts key + 1)
      notified := Function.update next.notified key none } := by
  have move : JournalMove rules (st.journal key) (FactoryState.journal { next with
      attempts := Function.update next.attempts key (next.attempts key + 1)
      notified := Function.update next.notified key none } key) := by
    simp only [FactoryState.journal, vacant, written.found, written.attempts,
      Function.update_self]
    exact .reserve _ _ owns
  exact reached.note written move fun _ different =>
    ⟨Function.update_of_ne different .., Function.update_of_ne different ..⟩

theorem reserve_segment {next : FactoryState → FactoryWork → FactoryStep}
    (reached : Reached rules work.key before st) (resting : Resting st work.key)
    (owns : rules.owns)
    (goes : ∀ after reserved, SameWork work reserved → Reached rules reserved.key before after →
      Resting after reserved.key → reserved.attempt = some (after.attempts reserved.key) →
      st.entries work.key = none → Segment env rules before reserved (next after reserved)) :
    Segment env rules before work (reserve env st work next) := by
  simp only [reserve]
  split
  · exact stop_segment reached resting _
  · rename_i vacant
    rw [relayCreatingKeys_of_sound reached.index]
    dsimp only
    split
    · exact stop_segment reached resting _
    · rename_i room
      apply orTrap_segment (insertEntry_vacancy reached.index (Nat.lt_of_not_le room) _)
      intro after inserted
      have written := insertEntry_written inserted
      have kept : SameWork work { work with
          attempt := some (after.attempts work.key + 1) } := ⟨rfl, rfl, rfl⟩
      apply Segment.same kept
      apply goes _ _ kept (reached.reserve vacant owns written)
      · exact .of_phase written.found rfl (by simp [RelayCreationProgress.new])
      · dsimp only
        rw [Function.update_self]
      · exact vacant

theorem onRate_segment {feeE8s : Nat} {rate : Except String Nat}
    (reached : Reached rules work.key before st) (resting : Resting st work.key)
    (same : st = before) (owns : work.ticket ∈ st.limiter.tickets → rules.owns) :
    Segment env rules before work (onRate env st now work balanceE8s feeE8s rate) := by
  simp only [onRate]
  split
  · exact stop_segment reached resting _
  · rename_i live
    rw [Bool.not_eq_true, Bool.not_eq_false'] at live
    cases rate with
    | error error => exact stop_segment reached resting _
    | ok xdrPermyriadPerIcp =>
        dsimp only
        split
        · exact stop_segment reached resting _
        · split
          · exact stop_segment reached resting _
          · apply reserve_segment reached resting (owns (owns_of_check live))
            intro after reserved kept arrived pending attempt vacant
            apply validateNeurons_segment arrived pending attempt
            rw [kept.key, ← same]
            have rank : (st.journal work.key).rank = 0 := by
              simp only [Journal.rank, FactoryState.journal, vacant, entryRank]
            rw [rank]
            exact Nat.zero_le _

theorem onFee_segment {fee : Except String Nat} (reached : Reached rules work.key before st)
    (resting : Resting st work.key) (fresh : work.attempt = none) :
    Segment env rules before work (onFee st now work balanceE8s fee) := by
  simp only [onFee]
  split
  · exact stop_segment reached resting _
  · cases fee with
    | error error => exact stop_segment reached resting _
    | ok feeE8s => exact admittedCall_segment reached resting rfl rfl (fun _ _ => fresh)

theorem onBalance_segment {balance : Except String Nat}
    (reached : Reached rules work.key before st) (resting : Resting st work.key)
    (fresh : work.attempt = none) :
    Segment env rules before work (onBalance st now work balance) := by
  simp only [onBalance]
  split
  · exact stop_segment reached resting _
  · cases balance with
    | error error => exact stop_segment reached resting _
    | ok balanceE8s =>
        dsimp only
        split
        · exact stop_segment reached resting _
        · split
          · exact stop_segment reached resting _
          · exact admittedCall_segment reached resting rfl rfl (fun _ _ => fresh)

end Unpaid

section Resuming

variable {env : FactoryEnv} {st : FactoryState} {kont : FactoryKont} {reply : FactoryReply}
  {step : FactoryStep} {now : Nat}

/-- The relay whose status a continuation awaits, with the module that it must run. -/
def FactoryKont.Audits (kont : FactoryKont) (relay : Principal) (expectedHash : List UInt8) :
    Prop :=
  match kont with
  | .firstAudit _ _ audited hash | .finalAudit _ audited hash _ =>
      audited = relay ∧ hash = expectedHash
  | _ => False

/-- The conditions that a reply sets for the moves of its setup's journal. -/
def resumeRules (env : FactoryEnv) (st : FactoryState) (kont : FactoryKont)
    (reply : FactoryReply) : FactoryRules where
  owns := kont.work.ticket ∈ st.limiter.tickets
  converts := kont.isConversion = true
  refused := ∃ transferred error, reply = .transfer transferred ∧
    acceptedTransfer transferred = .rejected error
  initialCycles := st.config.relayInitialCycles
  audited relay := ∃ expectedHash status, kont.Audits relay expectedHash ∧
    reply = .status (.ok status) ∧
      classifyRelayFinalizationState status expectedHash env.historian = .ok .finalized

theorem resumeAmount_segment {amount : Except String Nat}
    (start : Reached (resumeRules env st kont (.amount amount)) kont.work.key st st)
    (resting : Resting st kont.work.key) (ready : KontReady env st kont)
    (resumed : resumeFactory env st now kont (.amount amount) = some step) :
    Segment env (resumeRules env st kont (.amount amount)) st kont.work step := by
  cases kont with
  | balance work =>
      cases resumed
      exact onBalance_segment start resting ready
  | fee work balanceE8s =>
      cases resumed
      exact onFee_segment start resting ready
  | rate work balanceE8s feeE8s =>
      cases resumed
      exact onRate_segment start resting rfl id
  | remainingBalance work relay =>
      cases resumed
      exact onRemainingBalance_segment start resting ready
  | fundingFee work relay balanceE8s =>
      cases resumed
      exact onFundingFee_segment start resting rfl ready
  | _ => cases resumed

theorem resumeTransfer_segment {transferred : Except String TransferReply}
    (start : Reached (resumeRules env st kont (.transfer transferred)) kont.work.key st st)
    (resting : Resting st kont.work.key) (ready : KontReady env st kont)
    (resumed : resumeFactory env st now kont (.transfer transferred) = some step) :
    Segment env (resumeRules env st kont (.transfer transferred)) st kont.work step := by
  cases kont with
  | cmcTransfer work call =>
      cases resumed
      exact onCmcTransfer_segment start resting ready rfl
        (fun error rejected => ⟨transferred, error, rfl, rejected⟩)
  | relayFunding work call =>
      cases resumed
      exact onRelayFunding_segment start resting ready
  | _ => cases resumed

theorem resumeManaged_segment
    (start : Reached (resumeRules env st kont (.managed result)) kont.work.key st st)
    (resting : Resting st kont.work.key) (ready : KontReady env st kont)
    (resumed : resumeFactory env st now kont (.managed result) = some step) :
    Segment env (resumeRules env st kont (.managed result)) st kont.work step := by
  cases kont with
  | installCode work relay hash =>
      cases resumed
      exact onInstallCode_segment start resting ready
  | updateSettings work relay hash =>
      simp only [resumeFactory] at resumed
      split at resumed
      · cases resumed
        exact stop_segment start resting _
      · cases resumed
        exact onUpdateSettings_segment start resting ready
  | _ => cases resumed

/-- Both audits admit the relay that the status shows to be finalized. -/
theorem resumeStatus_segment {observed : Except String CanisterStatusResult}
    (start : Reached (resumeRules env st kont (.status observed)) kont.work.key st st)
    (resting : Resting st kont.work.key) (ready : KontReady env st kont)
    (resumed : resumeFactory env st now kont (.status observed) = some step) :
    Segment env (resumeRules env st kont (.status observed)) st kont.work step := by
  cases kont with
  | installStatus work relay hash installError =>
      cases resumed
      exact onInstallStatus_segment start resting ready
  | firstAudit work phase relay hash =>
      simp only [resumeFactory] at resumed
      split at resumed
      · cases resumed
        exact stop_segment start resting _
      · cases resumed
        apply onFirstAudit_segment start resting ready.2 ready.1
        intro status seen finalized
        subst seen
        exact ⟨hash, status, ⟨rfl, rfl⟩, rfl, finalized⟩
  | finalAudit work relay hash updateError =>
      simp only [resumeFactory] at resumed
      split at resumed
      · cases resumed
        exact stop_segment start resting _
      · cases resumed
        apply onFinalAudit_segment start resting ready
        intro status seen finalized
        subst seen
        exact ⟨hash, status, ⟨rfl, rfl⟩, rfl, finalized⟩
  | _ => cases resumed

theorem resumeFactory_segment (evidence : (st.journal kont.work.key).Evidence)
    (index : st.IndexSound) (resting : Resting st kont.work.key) (ready : KontReady env st kont)
    (config : kont.work.config = st.config)
    (resumed : resumeFactory env st now kont reply = some step) :
    Segment env (resumeRules env st kont reply) st kont.work step := by
  have start : Reached (resumeRules env st kont reply) kont.work.key st st :=
    .refl evidence index
  cases reply with
  | amount value => exact resumeAmount_segment start resting ready resumed
  | transfer transferred => exact resumeTransfer_segment start resting ready resumed
  | managed result => exact resumeManaged_segment start resting ready resumed
  | status observed => exact resumeStatus_segment start resting ready resumed
  | probing charged =>
      cases kont with
      | probe work quote target rest => exact onProbing_segment start resting ready resumed
      | _ => cases resumed
  | neuron resolved =>
      cases kont with
      | neuron work quote neuronId rest =>
          cases resumed
          exact onNeuron_segment start resting rfl ready
      | _ => cases resumed
  | probed result =>
      cases kont with
      | probe work quote target rest =>
          cases resumed
          exact onProbed_segment start resting rfl ready
      | _ => cases resumed
  | minted cycles =>
      cases kont with
      | notifyTopUp work cmcBlock =>
          cases resumed
          exact onNotifyTopUp_segment start resting rfl ready config rfl
      | _ => cases resumed
  | created result =>
      cases kont with
      | createCanister work =>
          cases resumed
          exact onCreateCanister_segment start resting ready
      | _ => cases resumed

end Resuming

end JupiterSuite.Historian
