import JupiterSuite.Historian.CommitmentSegments

/-! Every run of the commitment indexer: generations fence the runs, the one that was not superseded
finds the state as its locals say, and a complete index counts every qualifying commitment up to
its cursor once. -/

namespace JupiterSuite.Historian

open Base Memo

variable {env : CommitmentEnv}

def CommitmentKont.generation (kont : CommitmentKont) : Nat := kont.work.task.guard.generation

structure CommitmentInvariant (env : CommitmentEnv) (sys : CommitmentSystem) : Prop where
  newest : ∀ accountIdentifier,
    NewestFirst IndexTransactionWithId.id (sys.history accountIdentifier)
  leased : Leased CommitmentKont.generation (some sys.state.lock.generation)
    sys.state.lock.generation sys.tasks
  sound : IndexSound env sys.history sys.state
  tokens : ∀ id kont, sys.tasks id = some kont →
    kont.work.task.token.generation = kont.generation
  promises : ∀ id kont, sys.tasks id = some kont →
    sys.state.lock.generation = kont.generation →
      ∃ past, past <:+ sys.history kont.work.stakingId ∧ past.length = sys.asked id ∧
        CommitmentReady env past sys.state kont

variable {kont : CommitmentKont} {st next : CommitmentState} {args : CommitmentUpgradeArgs}
  {routesStarted : Bool}
variable {lock : CommitmentIndexLock} {nowSecs : Nat} {owner : CommitmentIndexLeaseOwner}
  {task : CommitmentIndexTask} {reply : CommitmentReply} {history : List Tx}
  {terms : CommitmentTerms}

section Steps

variable {sys : CommitmentSystem} {id nowNanos : Nat}

theorem invariant_of_turn_commitments {config : CommitmentConfig} {generation clock : Nat}
    {result : CommitmentState × CommitmentPause}
    (newest : ∀ accountIdentifier,
      NewestFirst IndexTransactionWithId.id (sys.history accountIdentifier))
    (tokens : ∀ id kont, sys.tasks id = some kont →
      kont.work.task.token.generation = kont.generation)
    (turn : Turn CommitmentKont.generation sys.tasks id generation clock)
    (forward : clock ≤ generation)
    (segment : CommitmentResult env sys.history config generation result) :
    CommitmentInvariant env (settleCommitments sys id nowNanos result) := by
  rcases result with ⟨st, pause⟩
  have fence : st.lock.generation = generation := segment.fence
  cases pause with
  | done =>
      refine ⟨newest, ?_, segment.sound, ?_, ?_⟩
      · simp only [settleCommitments, fence]
        exact (turn.stop _ (.inl rfl)).tick forward
      · intro other theirs found
        rcases Pool.put_eq_some found with ⟨_, gone⟩ | ⟨_, also⟩
        · cases gone
        · exact tokens other theirs also
      · intro other theirs found current
        rcases Pool.put_eq_some found with ⟨_, gone⟩ | ⟨different, also⟩
        · cases gone
        · have lost := turn.others _ (.inl rfl) other theirs different also (fun _ => False)
            (congrArg some (fence.symm.trans current))
          exact lost.elim
  | await kont =>
      rcases segment.pause kont rfl with ⟨mine, ready⟩
      refine ⟨newest, ?_, segment.sound, ?_, ?_⟩
      · simp only [settleCommitments, fence]
        exact (turn.await kont mine).tick forward
      · intro other theirs found
        rcases Pool.put_eq_some found with ⟨_, same⟩ | ⟨_, also⟩
        · cases same
          exact ready.fits.token
        · exact tokens other theirs also
      · intro other theirs found current
        rcases Pool.put_eq_some found with ⟨rfl, same⟩ | ⟨different, also⟩
        · cases same
          refine ⟨_, List.suffix_refl _, ?_, ready⟩
          simp only [settleCommitments, Function.update_self]
        · have lost := turn.others _ (.inl rfl) other theirs different also (fun _ => False)
            (congrArg some (fence.symm.trans current))
          exact lost.elim

theorem invariant_same (invariant : CommitmentInvariant env sys) (found : sys.tasks id = some kont)
    (same : SameIndex sys.state st) (generation : st.lock.generation = sys.state.lock.generation) :
    CommitmentInvariant env
      { sys with state := st, tasks := sys.tasks.put id none, clock := nowNanos } where
  newest := invariant.newest
  leased := by
    dsimp only
    rw [generation]
    exact invariant.leased.stop found (.inl rfl)
  sound := same.indexSound invariant.sound
  tokens := by
    intro other theirs located
    rcases Pool.put_eq_some located with ⟨_, gone⟩ | ⟨_, also⟩
    · cases gone
    · exact invariant.tokens other theirs also
  promises := by
    intro other theirs located current
    rcases Pool.put_eq_some located with ⟨_, gone⟩ | ⟨_, also⟩
    · cases gone
    · rcases invariant.promises other theirs also (generation.symm.trans current) with
        ⟨past, suffix, asked, ready⟩
      exact ⟨past, suffix, asked, ready.carry same generation⟩

theorem acquire_generation {fresh : CommitmentIndexLock}
    (acquired : lock.acquire owner nowSecs = some (fresh, task)) :
    fresh.generation = lock.generation + 1 ∧ task.guard.generation = fresh.generation ∧
      task.token.generation = task.guard.generation := by
  rcases Option.map_eq_some_iff.mp acquired with ⟨guard, taken, same⟩
  cases same
  rw [FencedTimerLeaseGuard.acquire] at taken
  split at taken
  · cases taken
  · rcases Option.map_eq_some_iff.mp taken with ⟨next, added, same⟩
    cases same
    exact ⟨(checkedAdd_eq_some.mp added).2, rfl, rfl⟩

theorem invariant_acquired {leaseSecs clockSecs maxPages : Nat}
    (invariant : CommitmentInvariant env sys) (vacant : sys.tasks id = none)
    (acquired : sys.state.lock.acquire owner leaseSecs = some (lock, task)) :
    CommitmentInvariant env (settleCommitments sys id nowNanos
      (processCommitmentIndexingBounded env.fromText env.identifierText clockSecs
        { sys.state with lock := lock } task owner nowSecs maxPages)) := by
  rcases acquire_generation acquired with ⟨fresh, mine, token⟩
  have same : SameIndex sys.state { sys.state with lock := lock } :=
    ⟨⟨rfl, rfl, rfl, rfl, rfl, rfl⟩, rfl, rfl, rfl⟩
  have segment := processCommitmentIndexingBounded_result clockSecs
    { sys.state with lock := lock } task owner nowSecs maxPages
    (same.indexSound invariant.sound) mine.symm token
  have later : sys.state.lock.generation < lock.generation := by omega
  have turn : Turn CommitmentKont.generation sys.tasks id lock.generation
      sys.state.lock.generation :=
    invariant.leased.turn_of_acquire vacant (Nat.le_refl _) (Nat.le_refl _) later
  exact invariant_of_turn_commitments invariant.newest invariant.tokens turn (Nat.le_of_lt later)
    segment

theorem invariant_busy (invariant : CommitmentInvariant env sys) (vacant : sys.tasks id = none) :
    CommitmentInvariant env (settleCommitments sys id nowNanos (sys.state, .done)) := by
  simp only [settleCommitments, Pool.put_vacant vacant]
  exact ⟨invariant.newest, invariant.leased, invariant.sound, invariant.tokens,
    invariant.promises⟩

theorem invariant_scheduled (invariant : CommitmentInvariant env sys)
    (vacant : sys.tasks id = none) (tickSecs clockSecs : Nat) :
    CommitmentInvariant env
      (settleCommitments sys id nowNanos (env.startScheduled sys.state tickSecs clockSecs)) := by
  simp only [CommitmentEnv.startScheduled]
  cases acquired : sys.state.lock.acquire .scheduled clockSecs with
  | none => exact invariant_busy invariant vacant
  | some taken => exact invariant_acquired invariant vacant acquired

theorem invariant_poke (invariant : CommitmentInvariant env sys) (vacant : sys.tasks id = none)
    (nowSecs : Nat) :
    CommitmentInvariant env
      (settleCommitments sys id nowNanos (env.handleEndowmentPoke sys.state nowSecs)) := by
  simp only [CommitmentEnv.handleEndowmentPoke]
  split
  · exact invariant_busy invariant vacant
  · cases acquired : sys.state.lock.acquire .endowmentRefresh nowSecs with
    | none => exact invariant_busy invariant vacant
    | some taken => exact invariant_acquired invariant vacant acquired

theorem isCurrent_generation (lock : CommitmentIndexLock) (token : CommitmentIndexLeaseToken)
    (superseded : lock.generation ≠ token.generation) : lock.isCurrent token = false := by
  simp [CommitmentIndexLock.isCurrent, superseded]

/-- A superseded run writes nothing, and its guard leaves the lock to its successor. -/
theorem finish_superseded {work : CommitmentWork}
    (superseded : st.lock.generation ≠ work.task.guard.generation) :
    finishCommitmentIndexing st work = st := by
  have lost := isCurrent_generation st.lock
    ⟨work.task.guard.leaseExpiresAtTs, work.task.guard.generation⟩ superseded
  simp only [finishCommitmentIndexing, lost, Bool.false_eq_true, and_false, if_false,
    CommitmentIndexLock.dropGuard, superseded]

theorem resume_superseded (clockSecs : Nat) (reply : Option (List Tx))
    (superseded : st.lock.generation ≠ kont.generation)
    (token : kont.work.task.token.generation = kont.generation) :
    resumeCommitmentIndexing env.fromText clockSecs st kont reply = (st, .done) := by
  simp only [resumeCommitmentIndexing]
  cases reply with
  | none => rw [finish_superseded superseded]
  | some page =>
      have lost := isCurrent_generation st.lock kont.work.task.token (by rwa [token])
      simp only [lost, Bool.not_false, if_true, finish_superseded superseded]

/-- The reply to a page comes from a history between the one at its request and the present. -/
theorem commitmentReply_spec {past : List Tx} (suffix : past <:+ sys.history kont.work.stakingId)
    (asked : past.length = sys.asked id) (admitted : commitmentReplyAdmits sys id kont reply = true) :
    ∃ current, past <:+ current ∧ current <:+ sys.history kont.work.stakingId ∧
      ∀ page, commitmentReply sys kont reply = some page →
        page = pageOf IndexTransactionWithId.id current kont.start pageSize := by
  cases reply with
  | failed => exact ⟨past, List.suffix_refl _, suffix, fun _ impossible => by cases impossible⟩
  | page unseen =>
      simp only [commitmentReplyAdmits, decide_eq_true_eq] at admitted
      refine ⟨servedStaking sys kont unseen, ?_, List.drop_suffix _ _, ?_⟩
      · exact List.suffix_of_suffix_length_le suffix (List.drop_suffix _ _)
          (by rw [asked]; exact admitted)
      · intro page same
        exact (Option.some.inj same).symm

theorem invariant_resume_commitments (decodes : DecodesPrincipals env.fromText)
    (invariant : CommitmentInvariant env sys) (found : sys.tasks id = some kont)
    (admitted : commitmentReplyAdmits sys id kont reply = true) (clockSecs : Nat) :
    CommitmentInvariant env (settleCommitments sys id nowNanos
      (resumeCommitmentIndexing env.fromText clockSecs sys.state kont
        (commitmentReply sys kont reply))) := by
  by_cases current : sys.state.lock.generation = kont.generation
  · rcases invariant.promises id kont found current with ⟨past, suffix, asked, ready⟩
    rcases commitmentReply_spec suffix asked admitted with ⟨served, grown, within, answered⟩
    have segment := resumeCommitmentIndexing_result clockSecs sys.state kont decodes ready
      invariant.sound grown within answered
    have turn := invariant.leased.turn_of_owner found (congrArg some current)
    rw [current] at segment
    rw [← current] at turn segment
    exact invariant_of_turn_commitments invariant.newest invariant.tokens turn (Nat.le_refl _)
      segment
  · rw [resume_superseded clockSecs _ current (invariant.tokens id kont found)]
    have same : SameIndex sys.state sys.state :=
      ⟨⟨rfl, rfl, rfl, rfl, rfl, rfl⟩, rfl, rfl, rfl⟩
    exact invariant_same invariant found same rfl

theorem invariant_abandon_commitments (invariant : CommitmentInvariant env sys)
    (found : sys.tasks id = some kont) (cleanup : Bool) :
    CommitmentInvariant env { sys with
      state :=
        if cleanup then { sys.state with lock := sys.state.lock.dropGuard kont.work.task.guard }
        else sys.state
      tasks := sys.tasks.put id none } := by
  cases cleanup with
  | true =>
      exact invariant_same invariant found ⟨⟨rfl, rfl, rfl, rfl, rfl, rfl⟩, rfl, rfl, rfl⟩
        (CommitmentIndexLock.dropGuard_generation sys.state.lock kont.work.task.guard)
  | false =>
      exact invariant_same invariant found ⟨⟨rfl, rfl, rfl, rfl, rfl, rfl⟩, rfl, rfl, rfl⟩ rfl

/-- A new transaction leaves what was read and what was asked as it was. -/
theorem invariant_record_commitments {accountIdentifier : String} {tx : Tx}
    (invariant : CommitmentInvariant env sys)
    (above : ∀ older ∈ sys.history accountIdentifier, older.id < tx.id) :
    CommitmentInvariant env { sys with
      history := Function.update sys.history accountIdentifier
        (tx :: sys.history accountIdentifier) } where
  newest := by
    intro other
    dsimp only
    by_cases here : other = accountIdentifier
    · rw [here, Function.update_self]
      exact List.pairwise_cons.mpr ⟨above, invariant.newest accountIdentifier⟩
    · rw [Function.update_of_ne here]
      exact invariant.newest other
  leased := invariant.leased
  sound := by
    dsimp only [IndexSound]
    by_cases here : (env.terms sys.state.config).stakingId = accountIdentifier
    · have sound := invariant.sound
      rw [IndexSound, here] at sound
      rw [here, Function.update_self]
      exact sound.grow above
    · rw [Function.update_of_ne here]
      exact invariant.sound
  tokens := invariant.tokens
  promises := by
    intro other theirs found current
    rcases invariant.promises other theirs found current with ⟨past, suffix, asked, ready⟩
    refine ⟨past, ?_, asked, ready⟩
    dsimp only
    by_cases here : theirs.work.stakingId = accountIdentifier
    · rw [here, Function.update_self]
      rw [here] at suffix
      exact suffix.trans (List.suffix_cons _ _)
    · rw [Function.update_of_ne here]
      exact suffix

/-- An index that has read nothing has applied nothing, whatever its terms. -/
theorem CommitmentSound.retarget {other : CommitmentTerms} {others : List Tx}
    (sound : CommitmentSound terms history st)
    (newest : NewestFirst IndexTransactionWithId.id others)
    (unread : st.lastIndexedStakingTxId = none) : CommitmentSound other others st := by
  rcases sound.cursors.unread unread with ⟨first, idle⟩
  have uncovered : ∀ id, ¬ Covered st.cursors id := by
    rintro id (⟨_, _, last, _⟩ | ⟨_, _, active, _⟩)
    · cases unread.symm.trans last
    · cases idle.symm.trans active
  have nothing : st.applied = [] := by
    apply List.eq_nil_iff_forall_not_mem.mpr
    intro tx member
    exact uncovered tx.id ((sound.applied tx).mp member).2
  refine ⟨⟨newest, .inl ⟨unread, first⟩, ?_, ?_⟩, sound.nodup, ?_,
    sound.rollups.unread nothing, sound.order, sound.fresh, sound.genesis⟩
  · intro _ _ _ oldest found
    cases first.symm.trans found
  · intro progress active
    cases idle.symm.trans active
  · intro tx
    rw [nothing]
    constructor
    · intro impossible
      cases impossible
    · rintro ⟨_, covered⟩
      exact absurd covered (uncovered tx.id)

theorem applyUpgradeArgs_terms (env : CommitmentEnv)
    (taken : applyUpgradeArgs st args routesStarted = some next) :
    env.terms next.config = env.terms st.config ∨ st.lastIndexedStakingTxId = none := by
  simp only [applyUpgradeArgs] at taken
  split at taken
  · cases taken
  · rename_i kept
    split at taken
    · cases taken
    · cases taken
      cases started : accountingStarted st routesStarted with
      | false =>
          simp only [accountingStarted, Bool.or_eq_false_iff] at started
          rcases started with ⟨⟨⟨⟨⟨⟨_, last⟩, _⟩, _⟩, _⟩, _⟩, _⟩
          exact .inr (Option.isSome_eq_false_iff.mp last |> Option.isNone_iff_eq_none.mp)
      | true =>
          simp only [started, Bool.true_and, Bool.not_eq_true, Bool.not_eq_false',
            Bool.and_eq_true] at kept
          rcases kept with ⟨account, minTx⟩
          apply Or.inl
          have sameMin : args.minTxE8s.getD st.config.minTxE8s = st.config.minTxE8s := by
            cases given : args.minTxE8s with
            | none => rfl
            | some value => simpa [given] using minTx
          have sameId : env.accountIdentifierTextForAccount
              (args.stakingAccount.getD st.config.stakingAccount) =
                env.accountIdentifierTextForAccount st.config.stakingAccount := by
            cases given : args.stakingAccount with
            | none => rfl
            | some chosen =>
                simp only [given, Option.all_some, sameAccount, Bool.and_eq_true,
                  decide_eq_true_eq] at account
                simp only [Option.getD_some, CommitmentEnv.accountIdentifierTextForAccount,
                  account.1, account.2]
          simp only [CommitmentEnv.terms, sameMin, sameId]

theorem applyUpgradeArgs_sound (taken : applyUpgradeArgs st args routesStarted = some next)
    (sound : CommitmentSound terms history st) : CommitmentSound terms history next := by
  simp only [applyUpgradeArgs] at taken
  split at taken
  · cases taken
  · split at taken
    · cases taken
    · cases complete : st.stakingBackfillComplete with
      | none =>
          cases taken
          exact sound.opened complete ⟨rfl, rfl, rfl, rfl, rfl, rfl⟩
            (by simp [CommitmentState.cursors, complete]) rfl
      | some stamped =>
          cases taken
          exact sound.carry ⟨rfl, rfl, rfl, rfl, rfl, rfl⟩
            (by simp [CommitmentState.cursors, complete]) rfl

theorem invariant_upgrade_commitments (invariant : CommitmentInvariant env sys)
    (taken : applyUpgradeArgs sys.state args routesStarted = some next) :
    CommitmentInvariant env
      { sys with state := next, tasks := Pool.empty, clock := nowNanos } where
  newest := invariant.newest
  leased := .empty _ _
  sound := by
    rcases applyUpgradeArgs_terms env taken with terms | unread
    · dsimp only [IndexSound]
      rw [terms]
      exact applyUpgradeArgs_sound taken invariant.sound
    · exact applyUpgradeArgs_sound taken
        (invariant.sound.retarget (invariant.newest _) unread)
  tokens := fun _ _ impossible => by cases impossible
  promises := fun _ _ impossible => by cases impossible

theorem invariant_step_commitments {event : CommitmentEvent} {next : CommitmentSystem}
    (decodes : DecodesPrincipals env.fromText) (invariant : CommitmentInvariant env sys)
    (taken : stepCommitments env sys event = some next) : CommitmentInvariant env next := by
  cases event with
  | scheduled id tickSecs now =>
      simp only [stepCommitments] at taken
      split at taken
      · rename_i admitted
        cases taken
        simp only [Bool.and_eq_true, Option.isNone_iff_eq_none] at admitted
        exact invariant_scheduled invariant admitted.2 tickSecs _
      · cases taken
  | poke id now =>
      simp only [stepCommitments] at taken
      split at taken
      · rename_i admitted
        cases taken
        simp only [Bool.and_eq_true, Option.isNone_iff_eq_none] at admitted
        exact invariant_poke invariant admitted.2 _
      · cases taken
  | resume id reply now =>
      simp only [stepCommitments] at taken
      cases found : sys.tasks id with
      | none => simp only [found, reduceCtorEq] at taken
      | some kont =>
          simp only [found] at taken
          split at taken
          · rename_i admitted
            cases taken
            simp only [Bool.and_eq_true] at admitted
            exact invariant_resume_commitments decodes invariant found admitted.2 _
          · cases taken
  | abandon id cleanup =>
      simp only [stepCommitments] at taken
      cases found : sys.tasks id with
      | none => simp only [found, reduceCtorEq] at taken
      | some kont =>
          simp only [found] at taken
          cases taken
          exact invariant_abandon_commitments invariant found cleanup
  | record accountIdentifier tx =>
      simp only [stepCommitments] at taken
      split at taken
      · rename_i above
        cases taken
        rw [List.all_eq_true] at above
        exact invariant_record_commitments invariant fun older member =>
          of_decide_eq_true (above older member)
      · cases taken
  | upgrade args routesStarted now =>
      simp only [stepCommitments] at taken
      split at taken
      · rcases Option.map_eq_some_iff.mp taken with ⟨st, applied, same⟩
        cases same
        exact invariant_upgrade_commitments invariant applied
      · cases taken

theorem CommitmentSound.new (terms : CommitmentTerms) (config : CommitmentConfig) {txs : List Tx}
    (newest : NewestFirst IndexTransactionWithId.id txs) :
    CommitmentSound terms txs (.new config) where
  cursors := ⟨newest, .inl ⟨rfl, rfl⟩, (fun impossible => by cases impossible),
    (fun _ impossible => by cases impossible)⟩
  nodup := List.nodup_nil
  applied := by
    intro tx
    constructor
    · intro impossible
      cases impossible
    · rintro ⟨_, ⟨_, _, impossible, _⟩ | ⟨_, _, impossible, _⟩⟩
      · cases impossible
      · cases impossible
  rollups := .new config
  order := by simp [CommitmentState.new]
  fresh := fun _ => ⟨rfl, rfl⟩
  genesis := fun impossible => by cases impossible

theorem reachable_commitmentInvariant (decodes : DecodesPrincipals env.fromText)
    (reachable : (commitmentMachine env).Reachable sys) : CommitmentInvariant env sys := by
  refine (commitmentMachine env).reachable_invariant (CommitmentInvariant env) ?_ ?_ reachable
  · rintro start ⟨config, nowNanos, history, asked, newest, rfl⟩
    exact ⟨newest, .empty _ _, .new _ config (newest _), (fun _ _ impossible => by cases impossible),
      (fun _ _ impossible => by cases impossible)⟩
  · intro state event next invariant taken
    exact invariant_step_commitments decodes invariant taken

end Steps

end JupiterSuite.Historian
