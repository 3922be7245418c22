import JupiterSuite.Historian.CommitmentExactlyOnce
import JupiterSuite.Historian.RecentCommitments

/-! What the historian answers about an expected transaction: the retained lists tell what became
of it, the cursors whether it was visited. -/

namespace JupiterSuite.Historian

open Base Memo

inductive ExpectedEndowmentStatus where
  | notYetObserved
  | knownIndexed
  | observedNotQualifying
  | notFoundInRetainedEvidence
  deriving DecidableEq, Repr

def cursorStatus (st : CommitmentState) (expectedTransactionId : Nat) :
    ExpectedEndowmentStatus :=
  match st.activeStakingCatchUp with
  | some progress =>
      if progress.observedHeadTxId < expectedTransactionId ∨
          (progress.boundaryTxId < expectedTransactionId ∧
            progress.nextStartTxId.any fun next => decide (expectedTransactionId < next)) then
        .notYetObserved
      else .notFoundInRetainedEvidence
  | none =>
      if st.lastIndexedStakingTxId.any fun head => decide (head < expectedTransactionId) then
        .notYetObserved
      else if st.stakingBackfillComplete ≠ some true ∧
          st.oldestIndexedStakingTxId.any fun oldest => decide (expectedTransactionId < oldest)
          then .notYetObserved
      else if st.lastIndexedStakingTxId.isSome then .notFoundInRetainedEvidence
      else .notYetObserved

def expectedTransactionStatus (st : CommitmentState) (recent : RecentLists)
    (expectedTransactionId : Nat) : ExpectedEndowmentStatus :=
  let qualifying :=
    recent.recentCommitments.any (fun item => decide (item.txId = expectedTransactionId)) ||
      recent.recentNeuronCommitments.any fun item => decide (item.txId = expectedTransactionId)
  let nonQualifying :=
    recent.recentUnderThresholdCommitments.any
        (fun item => decide (item.txId = expectedTransactionId)) ||
      recent.recentUnderThresholdNeuronCommitments.any
        (fun item => decide (item.txId = expectedTransactionId)) ||
      recent.recentInvalidCommitments.any fun item => decide (item.txId = expectedTransactionId)
  if qualifying then .knownIndexed
  else if nonQualifying then .observedNotQualifying
  else cursorStatus st expectedTransactionId

/-- The indexer with the lists that it retains. -/
structure EvidenceSystem where
  index : CommitmentSystem
  recent : RecentLists

/-- The lists after a step: a page applies its transactions, and an upgrade normalizes. -/
def stepRecent (env : CommitmentEnv) (sys next : CommitmentSystem) (recent : RecentLists) :
    CommitmentEvent → RecentLists
  | .resume id _ _ =>
      (sys.tasks id).elim recent fun kont =>
        recent.applyTxs env.fromText kont.work.stakingId kont.work.minTxE8s sys.state
          (next.state.applied.drop sys.state.applied.length)
  | .upgrade _ _ _ => recent.normalize
  | _ => recent

def stepEvidence (env : CommitmentEnv) (sys : EvidenceSystem) (event : CommitmentEvent) :
    Option EvidenceSystem :=
  (stepCommitments env sys.index event).map fun next =>
    ⟨next, stepRecent env sys.index next sys.recent event⟩

def evidenceMachine (env : CommitmentEnv) : Machine EvidenceSystem CommitmentEvent where
  init := fun sys => (commitmentMachine env).init sys.index ∧ sys.recent = .empty
  step := stepEvidence env

/-! ## Transactions are applied behind the ones before -/

section Growth

variable {fromText : Text → Option Principal} {stakingId : String} {minTxE8s clockSecs : Nat}
  {st : CommitmentState} {work : CommitmentWork}

theorem countInserted_applied (commitment : IndexedCommitment) (inserted : Bool) :
    (st.countInserted commitment inserted).applied = st.applied := by
  cases inserted <;> rfl

theorem applyIndexedCommitmentTx_applied (tx : Tx) :
    (applyIndexedCommitmentTx fromText stakingId minTxE8s st tx).applied = st.applied ++ [tx] := by
  simp only [applyIndexedCommitmentTx]
  split
  · split
    · split
      · simp only [applyVerifiedQualifyingCommitment]
        split
        · rw [countInserted_applied]
        · rfl
      · rfl
    · simp only [applyRecentRawOrNeuronCommitment]
      split
      · split
        · rw [countInserted_applied]
        · rfl
      · split
        · rw [countInserted_applied]
        · rfl
      · rfl
  · rfl

theorem applyItems_prefix (items : List Tx) :
    st.applied <+: (applyCommitmentTransactionsInChronologicalOrder fromText stakingId minTxE8s st
      items).applied := by
  simp only [applyCommitmentTransactionsInChronologicalOrder]
  generalize items.reverse = oldestFirst
  induction oldestFirst generalizing st with
  | nil => exact List.prefix_refl _
  | cons tx rest ih =>
      have first : st.applied <+:
          (applyIndexedCommitmentTx fromText stakingId minTxE8s st tx).applied := by
        rw [applyIndexedCommitmentTx_applied]
        exact List.prefix_append _ _
      exact first.trans ih

theorem prefix_of_same {shorter longer : List Tx} (same : longer = shorter) :
    shorter <+: longer :=
  same ▸ List.prefix_refl shorter

@[simp]
theorem finish_applied : (finishCommitmentIndexing st work).applied = st.applied := by
  simp only [finishCommitmentIndexing]
  split <;> rfl

@[simp]
theorem exit_applied : (exitCommitmentIndexing st work).1.applied = st.applied := by
  simp only [exitCommitmentIndexing, finish_applied]

@[simp]
theorem awaitPage_applied (kont : CommitmentKont) :
    (awaitCommitmentPage clockSecs st kont).1.applied = st.applied := by
  simp only [awaitCommitmentPage]
  split
  · exact finish_applied
  · rfl

@[simp]
theorem catchUpLoop_applied (progress : DescendingIndexCatchUp) :
    (commitmentCatchUpLoop clockSecs st work progress).1.applied = st.applied := by
  simp only [commitmentCatchUpLoop]
  split
  · exact awaitPage_applied _
  · exact exit_applied

@[simp]
theorem backfillLoop_applied :
    (commitmentBackfillLoop clockSecs st work).1.applied = st.applied := by
  simp only [commitmentBackfillLoop]
  split
  · exact awaitPage_applied _
  · exact exit_applied

theorem onCatchUpPage_prefix (progress : DescendingIndexCatchUp) (page : List Tx) :
    st.applied <+:
      (onCommitmentCatchUpPage fromText clockSecs st work progress page).1.applied := by
  simp only [onCommitmentCatchUpPage]
  split
  · exact prefix_of_same exit_applied
  · split
    · rw [exit_applied]
      exact applyItems_prefix _
    · rw [catchUpLoop_applied]
      exact applyItems_prefix _

theorem onBackfillPage_prefix (page : List Tx) :
    st.applied <+: (onCommitmentBackfillPage fromText clockSecs st work page).1.applied := by
  simp only [onCommitmentBackfillPage]
  split
  · exact prefix_of_same exit_applied
  · split
    · exact prefix_of_same exit_applied
    · split
      · rw [exit_applied]
        exact applyItems_prefix _
      · rw [backfillLoop_applied]
        exact applyItems_prefix _

theorem seeded_extends (firstPage : Option (List Tx)) :
    st.applied <+: (processCommitmentIndexingDescendingSeeded fromText clockSecs st work
      firstPage).1.applied := by
  simp only [processCommitmentIndexingDescendingSeeded]
  generalize reopened : (if (work.backfillComplete && work.latestCursor.isNone) = true then
      { st with
        stakingBackfillComplete := some false
        commitmentRouteRollupsCompleteFromGenesis := some false } else st) = opened
  have same : opened.applied = st.applied := by
    rw [← reopened]
    split <;> rfl
  rw [← same]
  split
  · split
    · exact prefix_of_same exit_applied
    · split
      · exact onCatchUpPage_prefix _ _
      · exact prefix_of_same (catchUpLoop_applied _)
  · split
    · exact onBackfillPage_prefix _
    · exact prefix_of_same backfillLoop_applied

theorem resume_prefix (kont : CommitmentKont) (reply : Option (List Tx)) :
    st.applied <+: (resumeCommitmentIndexing fromText clockSecs st kont reply).1.applied := by
  simp only [resumeCommitmentIndexing]
  split
  · exact prefix_of_same finish_applied
  · split
    · exact prefix_of_same finish_applied
    · split
      · exact @seeded_extends fromText clockSecs { st with stakingIndexDescending := some true } _ _
      · exact onCatchUpPage_prefix _ _
      · exact onBackfillPage_prefix _

theorem seeded_none_applied : (processCommitmentIndexingDescendingSeeded fromText clockSecs st work
    none).1.applied = st.applied := by
  simp only [processCommitmentIndexingDescendingSeeded]
  generalize reopened : (if (work.backfillComplete && work.latestCursor.isNone) = true then
      { st with
        stakingBackfillComplete := some false
        commitmentRouteRollupsCompleteFromGenesis := some false } else st) = opened
  have same : opened.applied = st.applied := by
    rw [← reopened]
    split <;> rfl
  rw [← same]
  split
  · split
    · exact exit_applied
    · exact catchUpLoop_applied _
  · exact backfillLoop_applied

theorem bounded_applied (identifierText : Principal → List UInt8 → String)
    (task : CommitmentIndexTask) (owner : CommitmentIndexLeaseOwner) (nowSecs maxPages : Nat) :
    (processCommitmentIndexingBounded fromText identifierText clockSecs st task owner nowSecs
      maxPages).1.applied = st.applied := by
  simp only [processCommitmentIndexingBounded]
  split
  · exact finish_applied
  · exact awaitPage_applied _
  · exact seeded_none_applied

end Growth

/-! ## The lists along a run -/

structure EvidenceInvariant (env : CommitmentEnv) (sys : EvidenceSystem) : Prop where
  index : CommitmentInvariant env sys.index
  recent : RecentSound (sys.index.terms env) sys.index.state.applied sys.recent

section Steps

variable {env : CommitmentEnv} {sys : CommitmentSystem} {recent : RecentLists}
  {st : CommitmentState}

/-- The state keeps what the lists are judged by. -/
structure SameEvidence (before after : CommitmentState) : Prop where
  applied : after.applied = before.applied
  config : after.config = before.config

theorem SameEvidence.refl (st : CommitmentState) : SameEvidence st st := ⟨rfl, rfl⟩

theorem SameEvidence.sound {next : CommitmentSystem} (same : SameEvidence sys.state next.state)
    (sound : RecentSound (sys.terms env) sys.state.applied recent) :
    RecentSound (next.terms env) next.state.applied recent := by
  rw [CommitmentSystem.terms, same.config, same.applied]
  exact sound

theorem settle_state (id nowNanos : Nat) (result : CommitmentState × CommitmentPause) :
    (settleCommitments sys id nowNanos result).state = result.1 := by
  rcases result with ⟨next, pause⟩
  cases pause <;> rfl

theorem bounded_sameEvidence {lock : CommitmentIndexLock} {owner : CommitmentIndexLeaseOwner}
    {leaseSecs : Nat} {task : CommitmentIndexTask} (clockSecs nowSecs maxPages : Nat)
    (sound : IndexSound env sys.history sys.state)
    (acquired : sys.state.lock.acquire owner leaseSecs = some (lock, task)) :
    SameEvidence sys.state (processCommitmentIndexingBounded env.fromText env.identifierText
      clockSecs { sys.state with lock := lock } task owner nowSecs maxPages).1 := by
  rcases acquire_generation acquired with ⟨_, mine, token⟩
  have same : SameIndex sys.state { sys.state with lock := lock } :=
    ⟨⟨rfl, rfl, rfl, rfl, rfl, rfl⟩, rfl, rfl, rfl⟩
  have segment := processCommitmentIndexingBounded_result clockSecs
    { sys.state with lock := lock } task owner nowSecs maxPages (same.indexSound sound)
    mine.symm token
  exact ⟨bounded_applied _ _ _ _ _, segment.config⟩

theorem scheduled_sameEvidence (sound : IndexSound env sys.history sys.state)
    (tickSecs clockSecs : Nat) :
    SameEvidence sys.state (env.startScheduled sys.state tickSecs clockSecs).1 := by
  simp only [CommitmentEnv.startScheduled]
  cases acquired : sys.state.lock.acquire .scheduled clockSecs with
  | none => exact SameEvidence.refl _
  | some taken => exact bounded_sameEvidence _ _ _ sound acquired

theorem poke_sameEvidence (sound : IndexSound env sys.history sys.state) (nowSecs : Nat) :
    SameEvidence sys.state (env.handleEndowmentPoke sys.state nowSecs).1 := by
  simp only [CommitmentEnv.handleEndowmentPoke]
  split
  · exact SameEvidence.refl _
  · cases acquired : sys.state.lock.acquire .endowmentRefresh nowSecs with
    | none => exact SameEvidence.refl _
    | some taken => exact bounded_sameEvidence _ _ _ sound acquired

theorem resume_recent {id : Nat} {kont : CommitmentKont} {reply : CommitmentReply}
    (decodes : DecodesPrincipals env.fromText) (invariant : CommitmentInvariant env sys)
    (sound : RecentSound (sys.terms env) sys.state.applied recent)
    (found : sys.tasks id = some kont)
    (admitted : commitmentReplyAdmits sys id kont reply = true) (clockSecs : Nat) :
    let after := (resumeCommitmentIndexing env.fromText clockSecs sys.state kont
      (commitmentReply sys kont reply)).1
    RecentSound (env.terms after.config) after.applied
      (recent.applyTxs env.fromText kont.work.stakingId kont.work.minTxE8s sys.state
        (after.applied.drop sys.state.applied.length)) := by
  intro after
  by_cases current : sys.state.lock.generation = kont.generation
  · rcases invariant.promises id kont found current with ⟨past, suffix, asked, ready⟩
    rcases commitmentReply_spec suffix asked admitted with ⟨served, grown, within, answered⟩
    have segment := resumeCommitmentIndexing_result clockSecs sys.state kont decodes ready
      invariant.sound grown within answered
    have longer : sys.state.applied <+: after.applied := resume_prefix kont _
    rw [show after.config = sys.state.config from segment.config, ready.fits.stakingId,
      ready.fits.minTx]
    exact (sound.mono longer.subset).applyTxs fun tx later => List.mem_of_mem_drop later
  · have lost : after = sys.state := by
      simp only [after, resume_superseded clockSecs _ current (invariant.tokens id kont found)]
    rw [lost, List.drop_length]
    exact sound

/-- The lists survive an upgrade, which changes the terms only of an index that read nothing. -/
theorem upgrade_recent {args : CommitmentUpgradeArgs} {routesStarted : Bool}
    (sound : RecentSound (sys.terms env) sys.state.applied recent)
    (indexed : IndexSound env sys.history sys.state)
    (taken : applyUpgradeArgs sys.state args routesStarted = some st) :
    RecentSound (env.terms st.config) st.applied recent.normalize := by
  have applied : st.applied = sys.state.applied := by
    simp only [applyUpgradeArgs] at taken
    split at taken
    · cases taken
    · split at taken
      · cases taken
      · cases taken
        rfl
  rw [applied]
  rcases applyUpgradeArgs_terms env taken with terms | unread
  · rw [terms]
    exact sound.normalize
  · have nothing : sys.state.applied = [] := by
      rcases indexed.cursors.unread unread with ⟨_, idle⟩
      apply List.eq_nil_iff_forall_not_mem.mpr
      intro tx member
      rcases ((indexed.applied tx).mp member).2 with ⟨_, _, last, _⟩ | ⟨_, _, active, _⟩
      · cases unread.symm.trans last
      · cases idle.symm.trans active
    rw [nothing] at sound ⊢
    exact sound.unread.normalize

theorem evidence_step {sys next : EvidenceSystem} {event : CommitmentEvent}
    (decodes : DecodesPrincipals env.fromText) (invariant : EvidenceInvariant env sys)
    (taken : stepEvidence env sys event = some next) : EvidenceInvariant env next := by
  rcases Option.map_eq_some_iff.mp taken with ⟨after, moved, rfl⟩
  refine ⟨invariant_step_commitments decodes invariant.index moved, ?_⟩
  cases event with
  | scheduled id tickSecs now =>
      simp only [stepCommitments] at moved
      split at moved
      · cases moved
        refine SameEvidence.sound ?_ invariant.recent
        rw [settle_state]
        exact scheduled_sameEvidence invariant.index.sound tickSecs _
      · cases moved
  | poke id now =>
      simp only [stepCommitments] at moved
      split at moved
      · cases moved
        refine SameEvidence.sound ?_ invariant.recent
        rw [settle_state]
        exact poke_sameEvidence invariant.index.sound _
      · cases moved
  | resume id reply now =>
      simp only [stepCommitments] at moved
      cases found : sys.index.tasks id with
      | none => simp only [found, reduceCtorEq] at moved
      | some kont =>
          simp only [found] at moved
          split at moved
          · rename_i admitted
            cases moved
            simp only [Bool.and_eq_true] at admitted
            simp only [stepRecent, found, Option.elim_some, CommitmentSystem.terms, settle_state]
            exact resume_recent decodes invariant.index invariant.recent found admitted.2 _
          · cases moved
  | abandon id cleanup =>
      simp only [stepCommitments] at moved
      cases found : sys.index.tasks id with
      | none => simp only [found, reduceCtorEq] at moved
      | some kont =>
          simp only [found] at moved
          cases moved
          refine SameEvidence.sound ?_ invariant.recent
          cases cleanup <;> exact ⟨rfl, rfl⟩
  | record accountIdentifier tx =>
      simp only [stepCommitments] at moved
      split at moved
      · cases moved
        exact SameEvidence.sound (SameEvidence.refl _) invariant.recent
      · cases moved
  | upgrade args routesStarted now =>
      simp only [stepCommitments] at moved
      split at moved
      · rcases Option.map_eq_some_iff.mp moved with ⟨st, applied, rfl⟩
        exact upgrade_recent invariant.recent invariant.index.sound applied
      · cases moved

theorem reachable_evidence {sys : EvidenceSystem} (decodes : DecodesPrincipals env.fromText)
    (reachable : (evidenceMachine env).Reachable sys) : EvidenceInvariant env sys := by
  refine (evidenceMachine env).reachable_invariant (EvidenceInvariant env) ?_ ?_ reachable
  · rintro ⟨index, lists⟩ ⟨begun, rfl⟩
    have started : (commitmentMachine env).Reachable index := ⟨index, [], begun, rfl⟩
    exact ⟨reachable_commitmentInvariant decodes started, .empty⟩
  · intro state event next invariant taken
    exact evidence_step decodes invariant taken

end Steps

/-! ## The cursors -/

section Cursors

variable {terms : CommitmentTerms} {history : List Tx} {st : CommitmentState} {tx : Tx}

theorem cursorStatus_or (id : Nat) : cursorStatus st id = .notYetObserved ∨
    cursorStatus st id = .notFoundInRetainedEvidence := by
  simp only [cursorStatus]
  split
  · split <;> simp
  · split
    · exact .inl rfl
    · split
      · exact .inl rfl
      · split <;> simp

theorem cursorStatus_catchUp {progress : DescendingIndexCatchUp} (id : Nat)
    (active : st.activeStakingCatchUp = some progress) :
    cursorStatus st id = .notFoundInRetainedEvidence ↔ ¬ (progress.observedHeadTxId < id ∨
      (progress.boundaryTxId < id ∧
        progress.nextStartTxId.any fun next => decide (id < next))) := by
  simp only [cursorStatus, active]
  split
  · rename_i ahead
    simp [ahead]
  · rename_i behind
    exact iff_of_true rfl behind

theorem cursorStatus_idle {latest oldest : Nat} (id : Nat)
    (idle : st.activeStakingCatchUp = none) (last : st.lastIndexedStakingTxId = some latest)
    (first : st.oldestIndexedStakingTxId = some oldest) :
    cursorStatus st id = .notFoundInRetainedEvidence ↔
      id ≤ latest ∧ (st.stakingBackfillComplete = some true ∨ oldest ≤ id) := by
  simp only [cursorStatus, idle, last, first, Option.any_some, Option.isSome_some,
    decide_eq_true_eq]
  by_cases above : latest < id
  · simp [above, Nat.not_le.mpr above]
  · by_cases whole : st.stakingBackfillComplete = some true
    · simp [above, whole, Nat.not_lt.mp above]
    · by_cases below : id < oldest
      · simp [above, whole, below]
      · simp [above, whole, below, Nat.not_lt.mp above, Nat.not_lt.mp below]

/-- What a catch-up says of an id is whether it lies in a range that was read. -/
theorem covered_of_catchUp {progress : DescendingIndexCatchUp}
    (sound : CommitmentSound terms history st) (member : tx ∈ history)
    (active : st.activeStakingCatchUp = some progress) :
    Covered st.cursors tx.id ↔ cursorStatus st tx.id = .notFoundInRetainedEvidence := by
  rw [cursorStatus_catchUp tx.id active]
  rcases sound.cursors.catchUp progress active with
    ⟨complete, last, start, _, head, _, next, top, above, within⟩
  simp only [next, Option.any_some, decide_eq_true_eq]
  constructor
  · rintro (⟨latest, oldest, known, first, lower, upper⟩ |
      ⟨other, reached, also, here, lower, upper⟩)
    · cases last.symm.trans known
      omega
    · cases active.symm.trans also
      cases next.symm.trans here
      omega
  · intro inside
    by_cases below : tx.id ≤ progress.boundaryTxId
    · rcases sound.cursors.cursors with ⟨unread, _⟩ | ⟨_, _, oldest, _, known, first, _⟩
      · cases last.symm.trans unread
      · have bottom := sound.cursors.bottom complete tx member oldest.id first
        exact .inl ⟨progress.boundaryTxId, oldest.id, last, first, bottom, below⟩
    · exact .inr ⟨progress, start.id, active, next, by omega, by omega⟩

/-- Without a catch-up the cursors answer for everything between them. -/
theorem covered_of_idle (sound : CommitmentSound terms history st) (member : tx ∈ history)
    (idle : st.activeStakingCatchUp = none) :
    Covered st.cursors tx.id ↔ cursorStatus st tx.id = .notFoundInRetainedEvidence := by
  rcases sound.cursors.cursors with ⟨unread, empty⟩ | ⟨latest, _, oldest, _, last, first, _⟩
  · have never : ¬ Covered st.cursors tx.id := by
      rintro (⟨_, _, last, _⟩ | ⟨_, _, active, _⟩)
      · cases unread.symm.trans last
      · cases idle.symm.trans active
    have nothing : st.lastIndexedStakingTxId = none ∧ st.oldestIndexedStakingTxId = none :=
      ⟨unread, empty⟩
    simp [never, cursorStatus, idle, nothing]
  · rw [cursorStatus_idle tx.id idle last first]
    constructor
    · rintro (⟨_, _, known, reached, lower, upper⟩ | ⟨_, _, active, _⟩)
      · cases last.symm.trans known
        cases first.symm.trans reached
        exact ⟨upper, .inr lower⟩
      · cases idle.symm.trans active
    · rintro ⟨upper, whole | lower⟩
      · have bottom := sound.cursors.bottom whole tx member oldest.id first
        exact .inl ⟨latest.id, oldest.id, last, first, bottom, upper⟩
      · exact .inl ⟨latest.id, oldest.id, last, first, lower, upper⟩

theorem applied_iff_found (sound : CommitmentSound terms history st) (member : tx ∈ history) :
    tx ∈ st.applied ↔ cursorStatus st tx.id = .notFoundInRetainedEvidence := by
  rw [sound.applied tx, and_iff_right member]
  cases active : st.activeStakingCatchUp with
  | none => exact covered_of_idle sound member active
  | some progress => exact covered_of_catchUp sound member active

end Cursors

/-! ## The answers -/

/-- What each answer about a transaction of the staking account says. -/
def ExpectedEndowmentStatus.tells (terms : CommitmentTerms) (applied : List Tx) (tx : Tx) :
    ExpectedEndowmentStatus → Prop
  | .notYetObserved => tx ∉ applied
  | .notFoundInRetainedEvidence => tx ∈ applied
  | .knownIndexed => tx ∈ applied ∧ (terms.qualifying tx).isSome = true
  | .observedNotQualifying => tx ∈ applied ∧ terms.notQualifying tx = true

section Answers

variable {st : CommitmentState} {recent : RecentLists} {id : Nat}

/-- An answer comes from the qualifying lists, from the others, or from the cursors. -/
theorem expectedTransactionStatus_cases :
    (recent.lists id ∧ expectedTransactionStatus st recent id = .knownIndexed) ∨
      (recent.listsOther id ∧
        expectedTransactionStatus st recent id = .observedNotQualifying) ∨
      expectedTransactionStatus st recent id = cursorStatus st id := by
  simp only [expectedTransactionStatus]
  split
  · rename_i listed
    simp only [Bool.or_eq_true, List.any_eq_true, decide_eq_true_eq] at listed
    exact .inl ⟨listed, rfl⟩
  · split
    · rename_i listed
      simp only [Bool.or_eq_true, List.any_eq_true, decide_eq_true_eq] at listed
      exact .inr (.inl ⟨or_assoc.mp listed, rfl⟩)
    · exact .inr (.inr rfl)

end Answers

theorem expected_status_sound {env : CommitmentEnv} {sys : EvidenceSystem}
    (decodes : DecodesPrincipals env.fromText) (reachable : (evidenceMachine env).Reachable sys) :
    ∀ tx ∈ sys.index.stakingHistory env,
      (expectedTransactionStatus sys.index.state sys.recent tx.id).tells (sys.index.terms env)
        sys.index.state.applied tx := by
  intro tx member
  have invariant := reachable_evidence decodes reachable
  have sound := invariant.index.sound
  have mine : ∀ other ∈ sys.index.state.applied, other.id = tx.id → other = tx := by
    intro other applied same
    exact sound.cursors.newest.unique ((sound.applied other).mp applied).1 member same
  rcases @expectedTransactionStatus_cases sys.index.state sys.recent tx.id with
    ⟨listed, answer⟩ | ⟨listed, answer⟩ | answer
  · rw [answer]
    obtain ⟨other, applied, same, kind⟩ := invariant.recent.qualifying tx.id listed
    cases mine other applied same
    exact ⟨applied, kind⟩
  · rw [answer]
    obtain ⟨other, applied, same, kind⟩ := invariant.recent.other tx.id listed
    cases mine other applied same
    exact ⟨applied, kind⟩
  · rw [answer]
    have visited := applied_iff_found sound member
    rcases @cursorStatus_or sys.index.state tx.id with pending | found
    · rw [pending] at visited ⊢
      intro applied
      cases visited.mp applied
    · rw [found]
      exact visited.mpr found

section Sample

def evidenceSampleSystem : EvidenceSystem :=
  ((evidenceMachine sampleEnv).run ⟨commitmentSampleStart, .empty⟩
    (commitmentSampleEvents ++
      [.record sampleStakingId (sampleCommitment 15 300000000 sampleTargetText)])).getD
    ⟨commitmentSampleStart, .empty⟩

theorem evidenceSampleSystem_reachable :
    (evidenceMachine sampleEnv).Reachable evidenceSampleSystem :=
  (evidenceMachine sampleEnv).reachable_getD
    ⟨⟨_, _, _, _, fun _ => List.Pairwise.nil, rfl⟩, rfl⟩
    (by decide +kernel)

theorem expected_status_sound_after_catch_up :
    (evidenceSampleSystem.index.stakingHistory sampleEnv).map (fun tx =>
        (tx.id, expectedTransactionStatus evidenceSampleSystem.index.state
          evidenceSampleSystem.recent tx.id)) =
      [(15, .notYetObserved), (12, .knownIndexed), (9, .observedNotQualifying),
        (7, .knownIndexed)] ∧
      ∀ tx ∈ evidenceSampleSystem.index.stakingHistory sampleEnv,
        (expectedTransactionStatus evidenceSampleSystem.index.state
          evidenceSampleSystem.recent tx.id).tells (evidenceSampleSystem.index.terms sampleEnv)
          evidenceSampleSystem.index.state.applied tx :=
  ⟨by decide +kernel, expected_status_sound sampleEnv_decodes evidenceSampleSystem_reachable⟩

end Sample

end JupiterSuite.Historian
