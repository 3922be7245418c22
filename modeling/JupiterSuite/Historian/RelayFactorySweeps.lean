import JupiterSuite.Historian.RelayFactoryPayment

/-! What a notification and an upgrade do to the reservations of every setup, before the setup that
is notified is admitted. -/

namespace JupiterSuite.Historian

open Base

/-- Reservations that nothing was paid for are removed, and an upgrade hands interrupted setups to
manual recovery. -/
structure Swept (rules : FactoryRules) (st next : FactoryState) : Prop where
  config : next.config = st.config
  wasm : next.relayWasm = st.relayWasm
  limiter : next.limiter = st.limiter
  journals : ∀ key, next.journal key = st.journal key ∨
    Resting next key ∧ JournalMoves rules (st.journal key) (next.journal key)
  index : st.IndexSound → next.IndexSound

section Sweeping

variable {rules : FactoryRules} {st next last : FactoryState} {key : RelaySetupKey} {now : Nat}

theorem entries_of_journal (same : next.journal key = st.journal key) :
    next.entries key = st.entries key :=
  congrArg Journal.entry same

theorem Resting.congr (resting : Resting st key) (same : next.journal key = st.journal key) :
    Resting next key := by
  intro progress found
  rw [entries_of_journal same] at found
  exact resting progress found

theorem Swept.refl (st : FactoryState) : Swept rules st st :=
  ⟨rfl, rfl, rfl, fun _ => .inl rfl, id⟩

theorem Swept.moves (swept : Swept rules st next) (key : RelaySetupKey) :
    JournalMoves rules (st.journal key) (next.journal key) := by
  rcases swept.journals key with same | ⟨_, moves⟩
  · rw [same]
  · exact moves

theorem Swept.resting (swept : Swept rules st next) (resting : Resting st key) :
    Resting next key := by
  rcases swept.journals key with same | ⟨arrived, _⟩
  · exact resting.congr same
  · exact arrived

theorem Swept.trans (early : Swept rules st next) (late : Swept rules next last) :
    Swept rules st last where
  config := late.config.trans early.config
  wasm := late.wasm.trans early.wasm
  limiter := late.limiter.trans early.limiter
  journals := by
    intro key
    rcases late.journals key with same | ⟨resting, moves⟩
    · rcases early.journals key with kept | ⟨rested, moves⟩
      · exact .inl (same.trans kept)
      · refine .inr ⟨rested.congr same, ?_⟩
        rw [same]
        exact moves
    · exact .inr ⟨resting, (early.moves key).trans moves⟩
  index := late.index ∘ early.index

theorem Swept.of_written {entry : Option RelaySetupEntry} (written : Written st next key entry)
    (resting : Resting next key) (move : JournalMove rules (st.journal key) (next.journal key)) :
    Swept rules st next where
  config := written.config
  wasm := written.wasm
  limiter := written.limiter
  journals := by
    intro other
    by_cases same : other = key
    · subst same
      exact .inr ⟨resting, .single move⟩
    · exact .inl (written.others same)
  index := written.index

theorem foldlM_swept {step : FactoryState → RelaySetupKey → Option FactoryState}
    (each : ∀ st key next, step st key = some next → Swept rules st next)
    {keys : List RelaySetupKey} (folded : keys.foldlM step st = some next) :
    Swept rules st next := by
  induction keys generalizing st with
  | nil =>
      cases folded
      exact .refl _
  | cons key rest ih =>
      rw [List.foldlM_cons] at folded
      rcases Option.bind_eq_some_iff.mp folded with ⟨middle, taken, remaining⟩
      exact (each st key middle taken).trans (ih remaining)

theorem removeEntry_swept {progress : RelayCreationProgress}
    (found : st.entries key = some (.creating progress)) (unpaid : progress.phase.rank ≤ 2)
    (removed : st.removeEntry key = some next) : Swept rules st next := by
  have written := removeEntry_written removed
  refine .of_written written (.of_vacant written.found) ?_
  rw [journal_of_creating found, written.journal]
  exact .release _ _ unpaid

theorem reclaimReservation_swept (reclaimed : st.reclaimReservation now key = some next) :
    Swept rules st next := by
  simp only [FactoryState.reclaimReservation] at reclaimed
  split at reclaimed
  · cases reclaimed
    exact .refl st
  · split at reclaimed
    · rename_i progress found
      split at reclaimed
      · rename_i empty
        simp only [FactoryState.reclaimable, Bool.and_eq_true, Bool.or_eq_true,
          decide_eq_true_eq] at empty
        have unpaid : progress.phase.rank ≤ 2 := by
          rcases empty.1.1.1.1.1 with phase | phase <;> rw [phase] <;> decide
        exact removeEntry_swept found unpaid reclaimed
      · cases reclaimed
        exact .refl st
    · cases reclaimed
      exact .refl st

theorem reclaim_swept (reclaimed : st.reclaimAbandonedPreSpendReservations now = some next) :
    Swept rules st next := by
  rcases Option.bind_eq_some_iff.mp reclaimed with ⟨keys, _, folded⟩
  exact foldlM_swept (fun _ _ _ => reclaimReservation_swept) folded

theorem reconcileInterruptedEntry_swept (converts : rules.converts)
    (reconciled : st.reconcileInterruptedEntry key = some next) : Swept rules st next := by
  simp only [FactoryState.reconcileInterruptedEntry] at reconciled
  split at reconciled
  · rename_i progress found
    split at reconciled
    · rename_i phase
      exact removeEntry_swept found (by rw [phase]; decide) reconciled
    · rename_i phase
      exact removeEntry_swept found (by rw [phase]; decide) reconciled
    · cases reconciled
      exact .refl st
    · cases reconciled
      exact .refl st
    · rename_i notReserved notProbing _ _
      have written := insertEntry_written reconciled
      refine .of_written written (.of_settled written.found (by simp)) ?_
      rw [journal_of_creating found, written.journal]
      refine .recover _ _ .upgradeInterrupted ?_ (fun _ => converts) rfl
      cases phase : progress.phase with
      | reserved => exact absurd phase notReserved
      | probingTargets => exact absurd phase notProbing
      | _ => decide
  · cases reconciled

theorem reconcile_swept (converts : rules.converts)
    (reconciled : st.reconcileInterruptedCreatingEntriesAfterUpgrade = some next) :
    Swept rules st next := by
  rcases Option.bind_eq_some_iff.mp reconciled with ⟨keys, _, folded⟩
  exact foldlM_swept (fun _ _ _ => reconcileInterruptedEntry_swept converts) folded

theorem reclaimReservation_of_sound (now : Nat) (sound : st.IndexSound) (key : RelaySetupKey) :
    ∃ next, st.reclaimReservation now key = some next ∧ next.IndexSound := by
  simp only [FactoryState.reclaimReservation]
  split
  · exact ⟨st, rfl, sound⟩
  · split
    · split
      · exact removeEntry_of_sound sound key
      · exact ⟨st, rfl, sound⟩
    · exact ⟨st, rfl, sound⟩

/-- No reclaim fails on an index that is sound. -/
theorem reclaim_of_sound (now : Nat) (sound : st.IndexSound) :
    ∃ next, st.reclaimAbandonedPreSpendReservations now = some next := by
  have folds : ∀ (keys : List RelaySetupKey) (st : FactoryState), st.IndexSound →
      ∃ next, keys.foldlM (FactoryState.reclaimReservation now) st = some next := by
    intro keys
    induction keys with
    | nil => exact fun st _ => ⟨st, rfl⟩
    | cons key rest ih =>
        intro st sound
        rcases reclaimReservation_of_sound now sound key with ⟨middle, taken, kept⟩
        rw [List.foldlM_cons, taken]
        exact ih middle kept
  rw [FactoryState.reclaimAbandonedPreSpendReservations, relayCreatingKeys_of_sound sound]
  exact folds st.creatingKeys st sound

/-- What is reconciled is a setup in progress; the others are left as they are. -/
theorem reconcileInterruptedEntry_of_sound (sound : st.IndexSound)
    {progress : RelayCreationProgress} (found : st.entries key = some (.creating progress)) :
    ∃ next, st.reconcileInterruptedEntry key = some next ∧ next.IndexSound ∧
      ∀ other, other ≠ key → next.entries other = st.entries other := by
  have written : ∀ {after : FactoryState} {entry : Option RelaySetupEntry},
      Written st after key entry → ∀ other, other ≠ key → after.entries other = st.entries other :=
    fun written other different => entries_of_journal (written.others different)
  simp only [FactoryState.reconcileInterruptedEntry, found]
  split
  · rcases removeEntry_of_sound sound key with ⟨next, removed, kept⟩
    exact ⟨next, removed, kept, written (removeEntry_written removed)⟩
  · rcases removeEntry_of_sound sound key with ⟨next, removed, kept⟩
    exact ⟨next, removed, kept, written (removeEntry_written removed)⟩
  · exact ⟨st, rfl, sound, fun _ _ => rfl⟩
  · exact ⟨st, rfl, sound, fun _ _ => rfl⟩
  · have inserts : ∃ next, st.insertEntry key (.manualRecoveryRequired
        { progress with lastError := some .upgradeInterrupted }) = some next ∧
          next.IndexSound := insertEntry_of_sound sound (by simp)
    rcases inserts with ⟨next, inserted, kept⟩
    exact ⟨next, inserted, kept, written (insertEntry_written inserted)⟩

theorem reconcile_of_sound (sound : st.IndexSound) :
    ∃ next, st.reconcileInterruptedCreatingEntriesAfterUpgrade = some next := by
  have folds : ∀ (keys : List RelaySetupKey) (st : FactoryState), st.IndexSound → keys.Nodup →
      (∀ key ∈ keys, ∃ progress, st.entries key = some (.creating progress)) →
        ∃ next, keys.foldlM FactoryState.reconcileInterruptedEntry st = some next := by
    intro keys
    induction keys with
    | nil => exact fun st _ _ _ => ⟨st, rfl⟩
    | cons key rest ih =>
        intro st sound distinct creating
        rcases List.nodup_cons.mp distinct with ⟨absent, others⟩
        rcases creating key List.mem_cons_self with ⟨progress, found⟩
        rcases reconcileInterruptedEntry_of_sound sound found with ⟨middle, taken, kept, same⟩
        rw [List.foldlM_cons, taken]
        apply ih middle kept others
        intro other member
        have different : other ≠ key := by
          rintro rfl
          exact absent member
        rw [same other different]
        exact creating other (List.mem_cons_of_mem _ member)
  rw [FactoryState.reconcileInterruptedCreatingEntriesAfterUpgrade,
    relayCreatingKeys_of_sound sound]
  exact folds st.creatingKeys st sound sound.nodup (fun key member => (sound.exact key).mp member)

end Sweeping

/-- How a notification ends: it sweeps the reservations, and may be admitted under a new
ticket. -/
inductive Notified (env : FactoryEnv) (rules : FactoryRules) (st : FactoryState) :
    FactoryStep → Prop where
  | trapped (after : FactoryState) (cause : FactoryTrap) (other : cause ≠ .creatingIndex) :
      Notified env rules st (after, .trap cause)
  | refused {swept : FactoryState} {limiter : Limiter} (result : RelaySetupNotifyResult)
      (sweeps : Swept rules st swept) (sound : LimiterSound limiter)
      (fewer : ∀ ticket ∈ limiter.tickets, ticket ∈ st.limiter.tickets)
      (issued : limiter.nextToken = st.limiter.nextToken) :
      Notified env rules st ({ swept with limiter := limiter }, .done result)
  | admitted {swept : FactoryState} {limiter : Limiter} {step : FactoryStep} (work : FactoryWork)
      (sweeps : Swept rules st swept)
      (granted : Granted st.limiter limiter work.ticket work.key)
      (config : work.config = st.config)
      (segment : Segment env rules { swept with limiter := limiter } work step) :
      Notified env rules st step

section Notifying

variable {env : FactoryEnv} {rules : FactoryRules} {st swept : FactoryState} {now : Nat}
  {setup : CanonicalRelaySetup} {key : RelaySetupKey}

theorem Notified.unadmitted (sweeps : Swept rules st swept) (sound : LimiterSound st.limiter)
    (result : RelaySetupNotifyResult) : Notified env rules st (swept, .done result) := by
  have same : swept = { swept with limiter := st.limiter } := by
    rw [← sweeps.limiter]
  rw [same]
  exact .refused result sweeps sound (fun _ held => held) rfl

theorem withGuard_notified {lane : Lane} {next : FactoryState → Ticket → FactoryStep}
    (sweeps : Swept rules st swept) (sound : LimiterSound st.limiter)
    (goes : ∀ limiter ticket, Granted st.limiter limiter ticket key →
      Notified env rules st (next { swept with limiter := limiter } ticket)) :
    Notified env rules st (withGuard swept now key lane next) := by
  simp only [withGuard]
  split
  · exact .trapped _ _ (by simp)
  · rename_i limiter refused
    rw [sweeps.limiter] at refused
    rcases acquire_refused sound refused with ⟨kept, fewer, issued⟩
    exact .refused _ sweeps kept fewer issued
  · rename_i limiter ticket granted
    rw [sweeps.limiter] at granted
    exact goes limiter ticket (acquire_granted sound granted)

variable (evidence : ∀ key, (st.journal key).Evidence) (index : st.IndexSound)
  (resting : ∀ key, Resting st key) (sound : LimiterSound st.limiter)
include evidence index resting sound

theorem notifyExisting_notified {entry : RelaySetupEntry} (sweeps : Swept rules st swept) :
    Notified env rules st (notifyExisting env swept now setup key entry) := by
  have known : (swept.journal key).Evidence := (sweeps.moves key).evidence (evidence key)
  have rested : Resting swept key := sweeps.resting (resting key)
  have paid : ∀ limiter ticket, Granted st.limiter limiter ticket key →
      Notified env rules st (continuePaidCreation env { swept with limiter := limiter } now
        (resumedWork { swept with limiter := limiter } setup key ticket)) := by
    intro limiter ticket granted
    apply Notified.admitted (resumedWork { swept with limiter := limiter } setup key ticket)
      sweeps granted sweeps.config
    exact continuePaidCreation_segment (.refl known (sweeps.index index)) rested rfl
  have funded : ∀ limiter ticket, Granted st.limiter limiter ticket key →
      Notified env rules st (driveRelayFinalization env { swept with limiter := limiter }
        (now / nanosPerSecond)
        (resumedWork { swept with limiter := limiter } setup key ticket)) := by
    intro limiter ticket granted
    apply Notified.admitted (resumedWork { swept with limiter := limiter } setup key ticket)
      sweeps granted sweeps.config
    exact driveRelayFinalization_segment (.refl known (sweeps.index index)) rested rfl
  cases entry with
  | creating progress =>
      simp only [notifyExisting]
      split
      · exact withGuard_notified sweeps sound paid
      · exact withGuard_notified sweeps sound paid
      · exact withGuard_notified sweeps sound funded
      · exact withGuard_notified sweeps sound funded
      · exact .unadmitted sweeps sound _
  | active relay => exact .unadmitted sweeps sound _
  | manualRecoveryRequired progress => exact .unadmitted sweeps sound _

theorem notifyNew_notified (sweeps : Swept rules st swept) :
    Notified env rules st (notifyNew env swept now setup key) := by
  have known : (swept.journal key).Evidence := (sweeps.moves key).evidence (evidence key)
  have rested : Resting swept key := sweeps.resting (resting key)
  simp only [notifyNew]
  split
  · exact .unadmitted sweeps sound _
  · split
    · exact .unadmitted sweeps sound _
    · split
      · exact .unadmitted sweeps sound _
      · split
        · rename_i failed
          rw [relayCreatingKeys_of_sound (sweeps.index index)] at failed
          cases failed
        · split
          · exact .unadmitted sweeps sound _
          · apply withGuard_notified sweeps sound
            intro limiter ticket granted
            apply Notified.admitted ⟨setup, key, swept.config, ticket, none⟩ sweeps granted
              sweeps.config
            exact admittedCall_segment (.refl known (sweeps.index index)) rested rfl rfl (fun _ _ => rfl)

theorem notifyRelayConfiguration_notified {args : RelaySetupArgs} :
    Notified env rules st (notifyRelayConfiguration env st now args) := by
  simp only [notifyRelayConfiguration]
  split
  · exact .unadmitted (.refl st) sound _
  · rename_i setup canonical
    rcases reclaim_of_sound (now / nanosPerSecond) index with ⟨swept, reclaimed⟩
    have sweeps : Swept rules st swept := reclaim_swept reclaimed
    rw [reclaimed]
    simp only [orTrap]
    split
    · exact notifyExisting_notified evidence index resting sound sweeps
    · exact notifyNew_notified evidence index resting sound sweeps

end Notifying

end JupiterSuite.Historian
