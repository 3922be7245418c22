import JupiterSuite.Historian.CommitmentRollups

/-! What a segment of the commitment indexer leaves behind: the transactions between the cursors
are applied, the rollups stand for them, and a continuation's locals agree with the state. -/

namespace JupiterSuite.Historian

open Base Memo

/-- The cursors of the staking walk, in the shape of a route's. -/
def CommitmentState.cursors (st : CommitmentState) : IndexedRoute where
  lastIndexedTxId := st.lastIndexedStakingTxId
  oldestIndexedTxId := st.oldestIndexedStakingTxId
  indexDescending := st.stakingIndexDescending
  backfillComplete := st.stakingBackfillComplete
  activeCatchUp := st.activeStakingCatchUp
  totalE8s := 0
  added := []

structure CommitmentSound (terms : CommitmentTerms) (history : List Tx) (st : CommitmentState) :
    Prop where
  cursors : CursorsSound history st.cursors
  nodup : st.applied.Nodup
  applied : ∀ tx, tx ∈ st.applied ↔ tx ∈ history ∧ Covered st.cursors tx.id
  rollups : RollupsSound terms st
  order : st.stakingIndexDescending ≠ some false
  fresh : st.stakingIndexDescending = none →
    st.lastIndexedStakingTxId = none ∧ st.stakingBackfillComplete = some false
  genesis : st.commitmentRouteRollupsCompleteFromGenesis = some true →
    st.stakingBackfillComplete = some true

/-- What the rollups are read from. -/
structure SameRollups (before after : CommitmentState) : Prop where
  applied : after.applied = before.applied
  rollups : after.commitmentRouteRollups = before.commitmentRouteRollups
  count : after.qualifyingCommitmentCount = before.qualifyingCommitmentCount
  topUp : after.commitmentHistory = before.commitmentHistory
  rawIcp : after.rawIcpCommitmentHistory = before.rawIcpCommitmentHistory
  neuron : after.neuronCommitmentHistory = before.neuronCommitmentHistory

structure SameIndex (before after : CommitmentState) : Prop extends SameRollups before after where
  config : after.config = before.config
  cursors : after.cursors = before.cursors
  genesis : after.commitmentRouteRollupsCompleteFromGenesis =
    before.commitmentRouteRollupsCompleteFromGenesis

variable {items past : List Tx} {token : CommitmentIndexLeaseToken} {kont : CommitmentKont}

section States

variable {terms : CommitmentTerms} {history : List Tx} {st before after : CommitmentState}

theorem SameRollups.sound (same : SameRollups before after) (sound : RollupsSound terms before) :
    RollupsSound terms after where
  count := by rw [same.count, same.applied, sound.count]
  rollup := by
    intro key
    rw [getCommitmentRouteRollup, same.rollups, same.applied]
    exact sound.rollup key
  total := by
    rw [same.rollups, same.applied]
    exact sound.total
  samples := by
    constructor
    · rw [same.topUp, same.applied]
      exact sound.samples.topUp
    · rw [same.rawIcp, same.applied]
      exact sound.samples.rawIcp
    · rw [same.neuron, same.applied]
      exact sound.samples.neuron

theorem SameIndex.last (same : SameIndex before after) :
    after.lastIndexedStakingTxId = before.lastIndexedStakingTxId :=
  congrArg IndexedRoute.lastIndexedTxId same.cursors

theorem SameIndex.oldest (same : SameIndex before after) :
    after.oldestIndexedStakingTxId = before.oldestIndexedStakingTxId :=
  congrArg IndexedRoute.oldestIndexedTxId same.cursors

theorem SameIndex.complete (same : SameIndex before after) :
    after.stakingBackfillComplete = before.stakingBackfillComplete :=
  congrArg IndexedRoute.backfillComplete same.cursors

theorem CommitmentSound.carry (sound : CommitmentSound terms history before)
    (rolled : SameRollups before after) (cursors : after.cursors = before.cursors)
    (genesis : after.commitmentRouteRollupsCompleteFromGenesis =
      before.commitmentRouteRollupsCompleteFromGenesis) :
    CommitmentSound terms history after := by
  have last : after.lastIndexedStakingTxId = before.lastIndexedStakingTxId :=
    congrArg IndexedRoute.lastIndexedTxId cursors
  have order : after.stakingIndexDescending = before.stakingIndexDescending :=
    congrArg IndexedRoute.indexDescending cursors
  have complete : after.stakingBackfillComplete = before.stakingBackfillComplete :=
    congrArg IndexedRoute.backfillComplete cursors
  constructor
  · rw [cursors]
    exact sound.cursors
  · rw [rolled.applied]
    exact sound.nodup
  · rw [rolled.applied, cursors]
    exact sound.applied
  · exact rolled.sound sound.rollups
  · rw [order]
    exact sound.order
  · rw [order, last, complete]
    exact sound.fresh
  · rw [genesis, complete]
    exact sound.genesis

theorem SameIndex.sound (same : SameIndex before after)
    (sound : CommitmentSound terms history before) : CommitmentSound terms history after :=
  sound.carry same.toSameRollups same.cursors same.genesis

theorem CommitmentSound.opened (sound : CommitmentSound terms history before)
    (unset : before.stakingBackfillComplete = none) (rolled : SameRollups before after)
    (cursors : after.cursors = { before.cursors with backfillComplete := some false })
    (genesis : after.commitmentRouteRollupsCompleteFromGenesis =
      before.commitmentRouteRollupsCompleteFromGenesis) :
    CommitmentSound terms history after := by
  have incomplete : before.cursors.backfillComplete ≠ some true := by
    intro complete
    cases unset.symm.trans complete
  have idle := sound.cursors.idle incomplete
  have order : after.stakingIndexDescending = before.stakingIndexDescending :=
    congrArg IndexedRoute.indexDescending cursors
  constructor
  · rw [cursors]
    refine ⟨sound.cursors.newest, sound.cursors.cursors, ?_, ?_⟩
    · intro impossible
      cases impossible
    · intro progress active
      cases idle.symm.trans active
  · rw [rolled.applied]
    exact sound.nodup
  · rw [rolled.applied, cursors]
    exact sound.applied
  · exact rolled.sound sound.rollups
  · rw [order]
    exact sound.order
  · intro unknown
    have before := sound.fresh (order.symm.trans unknown)
    cases unset.symm.trans before.2
  · intro whole
    have before := sound.genesis (genesis.symm.trans whole)
    cases unset.symm.trans before

theorem CommitmentSound.read {moved : IndexedRoute} (decodes : DecodesPrincipals terms.fromText)
    (sound : CommitmentSound terms history st) (read : PageRead history st.cursors moved items)
    (rolled : SameRollups (terms.applyAll st items) after) (same : SameCursors moved after.cursors)
    (order : after.stakingIndexDescending = some true ∨
      after.stakingIndexDescending = st.stakingIndexDescending ∧
        st.lastIndexedStakingTxId ≠ none)
    (genesis : after.commitmentRouteRollupsCompleteFromGenesis = some true →
      after.stakingBackfillComplete = some true) : CommitmentSound terms history after := by
  have unapplied : ∀ old ∈ st.applied, ∀ tx ∈ items, old.id ≠ tx.id := by
    intro old member tx item clash
    rcases (sound.applied old).mp member with ⟨known, covered⟩
    rcases read.fresh tx item with ⟨there, uncovered⟩
    have twin := sound.cursors.newest.unique known there clash
    exact uncovered (twin ▸ covered)
  rcases sound.rollups.applyAll decodes read.distinct unapplied with ⟨rollups, applied⟩
  have whole : after.applied = st.applied ++ items.reverse := rolled.applied.trans applied
  constructor
  · exact same.sound read.sound
  · rw [whole]
    apply List.nodup_append.mpr
    refine ⟨sound.nodup, List.nodup_reverse.mpr read.distinct.nodup, ?_⟩
    rintro old member new item rfl
    exact unapplied old member old (List.mem_reverse.mp item) rfl
  · intro tx
    rw [whole, List.mem_append, List.mem_reverse, sound.applied tx, same.covered]
    constructor
    · rintro (⟨member, covered⟩ | item)
      · exact ⟨member, (read.exactly tx member).mpr (.inl covered)⟩
      · have member := (read.fresh tx item).1
        exact ⟨member, (read.exactly tx member).mpr (.inr item)⟩
    · rintro ⟨member, covered⟩
      rcases (read.exactly tx member).mp covered with old | new
      · exact .inl ⟨member, old⟩
      · exact .inr new
  · exact rolled.sound rollups
  · rcases order with descending | ⟨kept, _⟩
    · rw [descending]
      simp
    · rw [kept]
      exact sound.order
  · intro unknown
    rcases order with descending | ⟨kept, present⟩
    · rw [descending] at unknown
      cases unknown
    · exact absurd (sound.fresh (kept.symm.trans unknown)).1 present
  · exact genesis

theorem CommitmentSound.grow {tx : Tx} (sound : CommitmentSound terms history st)
    (above : ∀ older ∈ history, older.id < tx.id) :
    CommitmentSound terms (tx :: history) st := by
  refine ⟨sound.cursors.grow above, sound.nodup, ?_, sound.rollups, sound.order, sound.fresh,
    sound.genesis⟩
  intro other
  rw [sound.applied other, List.mem_cons]
  constructor
  · rintro ⟨member, covered⟩
    exact ⟨.inr member, covered⟩
  · rintro ⟨rfl | member, covered⟩
    · exact absurd covered (sound.cursors.grow_uncovered above)
    · exact ⟨member, covered⟩

theorem CommitmentSound.restamp (complete : Bool) (sound : CommitmentSound terms history st)
    (bottom : complete = true → ∀ tx ∈ history, ∀ oldest,
      st.oldestIndexedStakingTxId = some oldest → oldest ≤ tx.id)
    (idle : st.activeStakingCatchUp = none ∨ complete = true)
    (rolled : SameRollups st after)
    (cursors : after.cursors = st.cursors.withProgress st.lastIndexedStakingTxId
      st.oldestIndexedStakingTxId complete)
    (genesis : after.commitmentRouteRollupsCompleteFromGenesis = some true →
      complete = true) : CommitmentSound terms history after := by
  have stamped := sound.cursors.restamp complete bottom idle
  have order : after.stakingIndexDescending = some true :=
    congrArg IndexedRoute.indexDescending cursors
  have completed : after.stakingBackfillComplete = some complete :=
    congrArg IndexedRoute.backfillComplete cursors
  constructor
  · rw [cursors]
    exact stamped
  · rw [rolled.applied]
    exact sound.nodup
  · rw [rolled.applied, cursors]
    exact sound.applied
  · exact rolled.sound sound.rollups
  · rw [order]
    simp
  · intro unknown
    rw [order] at unknown
    cases unknown
  · intro whole
    rw [completed, genesis whole]

end States

def CommitmentEnv.terms (env : CommitmentEnv) (config : CommitmentConfig) : CommitmentTerms where
  fromText := env.fromText
  stakingId := env.accountIdentifierTextForAccount config.stakingAccount
  minTxE8s := config.minTxE8s

def IndexSound (env : CommitmentEnv) (history : String → List Tx) (st : CommitmentState) : Prop :=
  CommitmentSound (env.terms st.config) (history (env.terms st.config).stakingId) st

/-- The locals of a run that was not superseded agree with the state. -/
structure CommitmentFits (env : CommitmentEnv) (st : CommitmentState) (work : CommitmentWork) :
    Prop where
  generation : st.lock.generation = work.task.guard.generation
  token : work.task.token.generation = work.task.guard.generation
  stakingId : work.stakingId = (env.terms st.config).stakingId
  minTx : work.minTxE8s = st.config.minTxE8s
  latest : work.latestCursor = st.lastIndexedStakingTxId
  oldest : work.oldestCursor = st.oldestIndexedStakingTxId

def CommitmentMode (st : CommitmentState) : CommitmentKont → Prop
  | .first work => st.lastIndexedStakingTxId = none ∧ work.backfillComplete = false ∧
      st.stakingBackfillComplete ≠ some true
  | .backfill work => work.backfillComplete = false ∧ st.stakingBackfillComplete ≠ some true
  | .catchUp work progress => work.backfillComplete = true ∧
      st.stakingBackfillComplete = some true ∧
      (st.activeStakingCatchUp = some progress ∨ CatchUpBegins st.cursors progress)

/-- A suspended run; its cursor was known to the index when it asked. -/
structure CommitmentReady (env : CommitmentEnv) (past : List Tx) (st : CommitmentState)
    (kont : CommitmentKont) : Prop where
  fits : CommitmentFits env st kont.work
  known : ∀ cursor, kont.start = some cursor → ∃ entry ∈ past, entry.id = cursor
  mode : CommitmentMode st kont

structure CommitmentResult (env : CommitmentEnv) (history : String → List Tx)
    (config : CommitmentConfig) (generation : Nat) (result : CommitmentState × CommitmentPause) :
    Prop where
  config : result.1.config = config
  sound : IndexSound env history result.1
  fence : result.1.lock.generation = generation
  pause : ∀ kont, result.2 = .await kont → kont.work.task.guard.generation = generation ∧
    CommitmentReady env (history kont.work.stakingId) result.1 kont

/-- What is written at the end of a run. -/
def stampExit (st : CommitmentState) (work : CommitmentWork) : CommitmentState :=
  { st with
    lastIndexedStakingTxId := work.latestCursor
    oldestIndexedStakingTxId := work.oldestCursor
    stakingIndexDescending := some true
    stakingBackfillComplete := some work.backfillComplete
    commitmentRouteRollupsCompleteFromGenesis :=
      if work.backfillComplete ∧ st.commitmentRouteRollupsCompleteFromGenesis = some false then
        some true
      else st.commitmentRouteRollupsCompleteFromGenesis
    lastIndexRunTs := some work.nowSecs }

section Segments

variable {env : CommitmentEnv} {history : String → List Tx} {st before after : CommitmentState}
  {work : CommitmentWork} {served page : List Tx} {clockSecs : Nat}

theorem SameIndex.indexSound (same : SameIndex before after)
    (sound : IndexSound env history before) : IndexSound env history after := by
  rw [IndexSound, same.config]
  exact same.sound sound

theorem renew_generation {lock renewed : CommitmentIndexLock} {fresh : CommitmentIndexLeaseToken}
    {nowSecs : Nat} (found : lock.renew token nowSecs = some (renewed, fresh)) :
    renewed.generation = lock.generation ∧ fresh.generation = token.generation := by
  rw [CommitmentIndexLock.renew] at found
  split at found
  · cases found
    exact ⟨rfl, rfl⟩
  · cases found

theorem finish_same (st : CommitmentState) (work : CommitmentWork) :
    SameIndex st (finishCommitmentIndexing st work) ∧
      (finishCommitmentIndexing st work).lock.generation = st.lock.generation := by
  simp only [finishCommitmentIndexing]
  constructor
  · split <;> exact ⟨⟨rfl, rfl, rfl, rfl, rfl, rfl⟩, rfl, rfl, rfl⟩
  · rw [CommitmentIndexLock.dropGuard_generation]
    split <;> rfl

theorem finishCommitment_result (st : CommitmentState) (work : CommitmentWork)
    (sound : IndexSound env history st) :
    CommitmentResult env history st.config st.lock.generation
      (finishCommitmentIndexing st work, .done) where
  config := (finish_same st work).1.config
  sound := (finish_same st work).1.indexSound sound
  fence := (finish_same st work).2
  pause := nofun

theorem CommitmentReady.carry (ready : CommitmentReady env past before kont)
    (same : SameIndex before after) (generation : after.lock.generation = before.lock.generation) :
    CommitmentReady env past after kont where
  fits :=
    { generation := generation.trans ready.fits.generation
      token := ready.fits.token
      stakingId := by rw [same.config, ready.fits.stakingId]
      minTx := by rw [same.config, ready.fits.minTx]
      latest := by rw [same.last, ready.fits.latest]
      oldest := by rw [same.oldest, ready.fits.oldest] }
  known := ready.known
  mode := by
    have catchUp : after.activeStakingCatchUp = before.activeStakingCatchUp :=
      congrArg IndexedRoute.activeCatchUp same.cursors
    have mode := ready.mode
    cases kont <;> simp only [CommitmentMode] at mode ⊢
    · rw [same.last, same.complete]
      exact mode
    · rw [same.complete, catchUp, same.cursors]
      exact mode
    · rw [same.complete]
      exact mode

theorem CommitmentReady.withToken (ready : CommitmentReady env past st kont)
    (same : token.generation = kont.work.task.token.generation) :
    CommitmentReady env past st (kont.withToken token) := by
  have kept := same.trans ready.fits.token
  cases kont <;> exact ⟨⟨ready.fits.generation, kept, ready.fits.stakingId, ready.fits.minTx,
    ready.fits.latest, ready.fits.oldest⟩, ready.known, ready.mode⟩

theorem awaitCommitmentPage_result (kont : CommitmentKont)
    (ready : CommitmentReady env (history kont.work.stakingId) st kont)
    (sound : IndexSound env history st) :
    CommitmentResult env history st.config st.lock.generation
      (awaitCommitmentPage clockSecs st kont) := by
  simp only [awaitCommitmentPage]
  cases renewed : st.lock.renew kont.work.task.token (kont.work.leaseNow clockSecs) with
  | none => exact finishCommitment_result st kont.work sound
  | some next =>
      rcases next with ⟨lock, token⟩
      rcases renew_generation renewed with ⟨generation, tokens⟩
      have same : SameIndex st { st with lock := lock } :=
        ⟨⟨rfl, rfl, rfl, rfl, rfl, rfl⟩, rfl, rfl, rfl⟩
      refine ⟨rfl, same.indexSound sound, generation, ?_⟩
      rintro _ ⟨⟩
      have kept := (ready.carry same generation).withToken tokens
      have identifier : (kont.withToken token).work.stakingId = kont.work.stakingId := by
        cases kont <;> rfl
      rw [identifier]
      have guard : (kont.withToken token).work.task.guard = kont.work.task.guard := by
        cases kont <;> rfl
      rw [guard]
      exact ⟨ready.fits.generation.symm, kept⟩

theorem exitCommitment_result (st : CommitmentState) (work : CommitmentWork)
    (sound : IndexSound env history (stampExit st work)) :
    CommitmentResult env history st.config st.lock.generation
      (exitCommitmentIndexing st work) :=
  finishCommitment_result (stampExit st work) work sound

theorem exitUnmoved_result (st : CommitmentState) (work : CommitmentWork)
    (fits : CommitmentFits env st work) (sound : IndexSound env history st)
    (bottom : work.backfillComplete = true → ∀ tx ∈ history work.stakingId, ∀ oldest,
      st.oldestIndexedStakingTxId = some oldest → oldest ≤ tx.id)
    (unfinished : work.backfillComplete = false → st.stakingBackfillComplete ≠ some true)
    (idle : st.activeStakingCatchUp = none ∨ work.backfillComplete = true) :
    CommitmentResult env history st.config st.lock.generation
      (exitCommitmentIndexing st work) := by
  apply exitCommitment_result
  rw [fits.stakingId] at bottom
  refine CommitmentSound.restamp work.backfillComplete sound bottom idle
    ⟨rfl, rfl, rfl, rfl, rfl, rfl⟩ ?_ ?_
  · rw [← fits.latest, ← fits.oldest]
    rfl
  · intro whole
    cases complete : work.backfillComplete with
    | true => rfl
    | false =>
        simp only [stampExit, complete, Bool.false_eq_true, false_and, if_false] at whole
        exact absurd (sound.genesis whole) (unfinished complete)

theorem IndexSound.idle (sound : IndexSound env history st)
    (incomplete : st.stakingBackfillComplete ≠ some true) : st.activeStakingCatchUp = none :=
  sound.cursors.idle incomplete

theorem commitmentBackfillLoop_result (clockSecs : Nat) (st : CommitmentState)
    (work : CommitmentWork) (fits : CommitmentFits env st work)
    (sound : IndexSound env history st) (incomplete : st.stakingBackfillComplete ≠ some true)
    (unfinished : work.backfillComplete = false) :
    CommitmentResult env history st.config st.lock.generation
      (commitmentBackfillLoop clockSecs st work) := by
  simp only [commitmentBackfillLoop]
  split
  · refine awaitCommitmentPage_result (.backfill work) ⟨fits, ?_, unfinished, incomplete⟩ sound
    intro cursor start
    have known : st.oldestIndexedStakingTxId = some cursor := fits.oldest.symm.trans start
    rcases sound.cursors.cursors with ⟨_, none⟩ | ⟨_, _, oldest, member, _, same, _⟩
    · have impossible := none.symm.trans known
      cases impossible
    · have found := same.symm.trans known
      rw [CommitmentKont.work, fits.stakingId]
      exact ⟨oldest, member, Option.some.inj found⟩
  · refine exitUnmoved_result st work fits sound ?_ (fun _ => incomplete)
      (.inl (sound.idle incomplete))
    intro impossible
    rw [unfinished] at impossible
    cases impossible

theorem CommitmentFits.applied (fits : CommitmentFits env st work) (items : List Tx) :
    applyCommitmentTransactionsInChronologicalOrder env.fromText work.stakingId work.minTxE8s st
      items = (env.terms st.config).applyAll st items := by
  rw [fits.stakingId, fits.minTx]
  rfl

/-- The cursors after a page of the backfill. -/
def CommitmentState.backfilled (st : CommitmentState) (latest oldest : Nat) : CommitmentState :=
  { st with
    lastIndexedStakingTxId := some latest
    oldestIndexedStakingTxId := some oldest
    stakingIndexDescending := some true
    stakingBackfillComplete := some false }.advanceRevision

theorem CommitmentFits.backfilled {next : CommitmentState} (fits : CommitmentFits env st work)
    (latest oldest : Nat) (generation : next.lock.generation = st.lock.generation)
    (config : next.config = st.config) {remainingPages : Nat} {complete : Bool} :
    CommitmentFits env (next.backfilled latest oldest)
      { work with
        remainingPages := remainingPages
        latestCursor := some latest
        oldestCursor := some oldest
        backfillComplete := complete } where
  generation := generation.trans fits.generation
  token := fits.token
  stakingId := by
    rw [fits.stakingId, ← config]
    rfl
  minTx := by
    rw [fits.minTx, ← config]
    rfl
  latest := rfl
  oldest := rfl

theorem onCommitmentBackfillPage_result (decodes : DecodesPrincipals env.fromText)
    (fits : CommitmentFits env st work) (sound : IndexSound env history st)
    (incomplete : st.stakingBackfillComplete ≠ some true)
    (unfinished : work.backfillComplete = false)
    (here : ServedPage (history work.stakingId) served work.oldestCursor page) :
    CommitmentResult env history st.config st.lock.generation
      (onCommitmentBackfillPage env.fromText clockSecs st work page) := by
  have idle := sound.idle incomplete
  by_cases present : page = []
  · subst present
    have same : SameIndex st st.advanceRevision :=
      ⟨⟨rfl, rfl, rfl, rfl, rfl, rfl⟩, rfl, rfl, rfl⟩
    simp only [onCommitmentBackfillPage, List.isEmpty_nil, if_true]
    refine exitUnmoved_result st.advanceRevision _
      ⟨fits.generation, fits.token, fits.stakingId, fits.minTx, fits.latest, fits.oldest⟩
      (same.indexSound sound) ?_ nofun (.inl idle)
    intro _ tx member oldest found
    exact here.bottom_empty (fits.oldest.trans found) tx member
  · rcases exists_maxKey IndexTransactionWithId.id present with
      ⟨greatest, greatestHere, maxSeen, upper⟩
    rcases exists_minKey IndexTransactionWithId.id present with
      ⟨least, leastHere, minSeen, lower⟩
    have nonempty : page.isEmpty = false := by simpa using present
    have within := here
    rw [fits.oldest, fits.stakingId] at within
    have read := CursorsSound.backfillPage sound.cursors incomplete within
      leastHere lower greatestHere upper
    have latest : (some (work.latestCursor.elim greatest.id (max · greatest.id)) : Option Nat) =
        some (st.lastIndexedStakingTxId.getD greatest.id) := by
      rw [fits.latest]
      rcases sound.cursors.cursors with ⟨nothing, _⟩ | ⟨newest, _, oldest, _, last, first, ordered⟩
      · have unread : st.lastIndexedStakingTxId = none := nothing
        rw [unread]
        rfl
      · have behind := within.below greatestHere first
        have known : st.lastIndexedStakingTxId = some newest.id := last
        rw [known]
        exact congrArg some (Nat.max_eq_left (by omega))
    have oldest : (some (work.oldestCursor.elim least.id (min · least.id)) : Option Nat) =
        some least.id := by
      cases cursor : work.oldestCursor with
      | none => rfl
      | some start =>
          have behind := here.below leastHere cursor
          exact congrArg some (Nat.min_eq_right (by omega))
    have frame := applyAll_frame (env.terms st.config) st page
    simp only [onCommitmentBackfillPage, nonempty, Bool.false_eq_true, if_false]
    rw [here.older, nonempty, maxSeen, minSeen, fits.applied]
    simp only [Bool.false_eq_true, if_false, Option.elim_some, latest, oldest, unfinished]
    generalize applied : (env.terms st.config).applyAll st page = next at frame ⊢
    have moved : ∀ after : CommitmentState, SameRollups next after →
        after.config = st.config → SameCursors (st.cursors.withProgress
          (some (st.lastIndexedStakingTxId.getD greatest.id)) (some least.id) false)
            after.cursors → after.stakingIndexDescending = some true →
        (after.commitmentRouteRollupsCompleteFromGenesis = some true →
          after.stakingBackfillComplete = some true) → IndexSound env history after := by
      intro after rolled config same order genesis
      rw [IndexSound, config]
      exact CommitmentSound.read decodes sound read (applied ▸ rolled) same (.inl order) genesis
    have unsure : next.commitmentRouteRollupsCompleteFromGenesis ≠ some true := by
      intro whole
      exact incomplete (sound.genesis (frame.genesis.symm.trans whole))
    have soundNext := moved (next.backfilled (st.lastIndexedStakingTxId.getD greatest.id) least.id)
      ⟨rfl, rfl, rfl, rfl, rfl, rfl⟩ frame.config ⟨rfl, rfl, rfl, frame.catchUp⟩ rfl
      (fun whole => absurd whole unsure)
    have generation : next.lock.generation = st.lock.generation := by rw [frame.lock]
    split
    · rename_i short
      have result := exitUnmoved_result
        (next.backfilled (st.lastIndexedStakingTxId.getD greatest.id) least.id)
        { work with
          remainingPages := work.remainingPages - 1
          latestCursor := some (st.lastIndexedStakingTxId.getD greatest.id)
          oldestCursor := some least.id
          backfillComplete := true }
        (fits.backfilled _ _ generation frame.config) soundNext (by
          intro _ tx member cursor found
          rw [← Option.some.inj found]
          exact here.bottom short leastHere lower tx member)
        nofun (.inr rfl)
      rw [← frame.config, ← generation]
      exact result
    · have result := commitmentBackfillLoop_result clockSecs
        (next.backfilled (st.lastIndexedStakingTxId.getD greatest.id) least.id)
        { work with
          remainingPages := work.remainingPages - 1
          latestCursor := some (st.lastIndexedStakingTxId.getD greatest.id)
          oldestCursor := some least.id
          backfillComplete := false }
        (fits.backfilled _ _ generation frame.config) soundNext
        (by simp [CommitmentState.backfilled, CommitmentState.advanceRevision]) rfl
      rw [← frame.config, ← generation]
      exact result

theorem commitmentCatchUpLoop_result (clockSecs : Nat) (st : CommitmentState)
    (work : CommitmentWork) (progress : DescendingIndexCatchUp)
    (fits : CommitmentFits env st work) (sound : IndexSound env history st)
    (complete : work.backfillComplete = true) (whole : st.stakingBackfillComplete = some true)
    (under_way : st.activeStakingCatchUp = some progress ∨ CatchUpBegins st.cursors progress) :
    CommitmentResult env history st.config st.lock.generation
      (commitmentCatchUpLoop clockSecs st work progress) := by
  simp only [commitmentCatchUpLoop]
  split
  · refine awaitCommitmentPage_result (.catchUp work progress)
      ⟨fits, ?_, complete, whole, under_way⟩ sound
    intro cursor start
    rcases under_way with active | ⟨_, latest, _, rfl⟩
    · rcases (sound.cursors.catchUp progress active).2.2 with ⟨entry, member, _, _, next, _⟩
      rw [CommitmentKont.start, next] at start
      rw [CommitmentKont.work, fits.stakingId]
      exact ⟨entry, member, Option.some.inj start⟩
    · cases start
  · refine exitUnmoved_result st work fits sound ?_ ?_ (.inr complete)
    · intro _
      rw [fits.stakingId]
      exact sound.cursors.bottom whole
    · intro impossible
      rw [complete] at impossible
      cases impossible

theorem catchUpEnds_result (decodes : DecodesPrincipals env.fromText)
    (fits : CommitmentFits env st work) (sound : IndexSound env history st)
    (complete : work.backfillComplete = true) {head : Nat}
    (read : PageRead (history (env.terms st.config).stakingId) st.cursors
      ((st.cursors.withCatchUp none).withProgress (some head)
        st.cursors.oldestIndexedTxId true) items) (remainingPages : Nat) :
    CommitmentResult env history st.config st.lock.generation
      (exitCommitmentIndexing
        { (env.terms st.config).applyAll st items with
          activeStakingCatchUp := none
          lastIndexedStakingTxId := some head }.advanceRevision
        { work with remainingPages := remainingPages, latestCursor := some head }) := by
  have frame := applyAll_frame (env.terms st.config) st items
  generalize applied : (env.terms st.config).applyAll st items = next at frame ⊢
  rw [← frame.config, ← frame.lock]
  refine exitCommitment_result { next with
    activeStakingCatchUp := none
    lastIndexedStakingTxId := some head }.advanceRevision _ ?_
  have terms : env.terms next.config = env.terms st.config := by rw [frame.config]
  rw [IndexSound]
  simp only [stampExit, CommitmentState.advanceRevision, terms]
  refine CommitmentSound.read decodes sound read (applied ▸ ⟨rfl, rfl, rfl, rfl, rfl, rfl⟩) ?_
    (.inl rfl) ?_
  · refine ⟨rfl, fits.oldest, congrArg some complete, rfl⟩
  · intro _
    exact congrArg some complete

theorem onCommitmentCatchUpPage_result (clockSecs : Nat) (st : CommitmentState)
    (work : CommitmentWork) (progress : DescendingIndexCatchUp)
    (decodes : DecodesPrincipals env.fromText) (fits : CommitmentFits env st work)
    (sound : IndexSound env history st) (complete : work.backfillComplete = true)
    (whole : st.stakingBackfillComplete = some true)
    (under_way : st.activeStakingCatchUp = some progress ∨ CatchUpBegins st.cursors progress)
    (here : ServedPage (history work.stakingId) served progress.nextStartTxId page) :
    CommitmentResult env history st.config st.lock.generation
      (onCommitmentCatchUpPage env.fromText clockSecs st work progress page) := by
  have known := CursorsSound.catchingUp sound.cursors whole under_way
  have spec := newItems_spec progress.boundaryTxId here.pageNewest
  have within := here
  rw [fits.stakingId] at within
  by_cases present : page = []
  · subst present
    have nothing : SeenHead progress [] progress.observedHeadTxId :=
      ⟨Nat.le_refl _, nofun, .inl rfl⟩
    have read := CursorsSound.catchUpEnds sound.cursors known within spec (.inr (by decide)) nothing
    simp only [onCommitmentCatchUpPage, List.isEmpty_nil, if_true]
    exact catchUpEnds_result decodes fits sound complete read (work.remainingPages - 1)
  · have nonempty : page.isEmpty = false := by simpa using present
    rcases exists_lastKey here.pageNewest present with ⟨final, finalHere, lastIs, lower⟩
    have seen := seenHead_spec progress (newItems progress.boundaryTxId page).1
    simp only [onCommitmentCatchUpPage, nonempty, Bool.false_eq_true, if_false]
    generalize newItems progress.boundaryTxId page = found at spec seen ⊢
    rcases found with ⟨items, reached⟩
    dsimp only at spec seen ⊢
    rw [fits.applied]
    split
    · rename_i terminal
      have read := CursorsSound.catchUpEnds sound.cursors known within spec
        (by simpa using terminal) seen
      exact catchUpEnds_result decodes fits sound complete read (work.remainingPages - 1)
    · rename_i goesOn
      simp only [Bool.or_eq_true, decide_eq_true_eq, not_or, Bool.not_eq_true] at goesOn
      have all : items = page := spec.above goesOn.1
      subst all
      rw [lastIs]
      generalize (items.map IndexTransactionWithId.id).max?.elim progress.observedHeadTxId
        (max progress.observedHeadTxId) = head at seen ⊢
      have read := CursorsSound.catchUpGoesOn sound.cursors whole known within spec seen finalHere
        lower
      have frame := applyAll_frame (env.terms st.config) st items
      generalize applied : (env.terms st.config).applyAll st items = next at frame ⊢
      rw [← frame.config, ← frame.lock]
      have terms : env.terms next.config = env.terms st.config := by rw [frame.config]
      have soundNext : IndexSound env history
          { next with
            activeStakingCatchUp := some ⟨progress.boundaryTxId, head, some final.id⟩
            commitmentIndexRevision := satAdd u64Max next.commitmentIndexRevision 1 } := by
        simp only [IndexSound, terms]
        refine CommitmentSound.read decodes sound read
          (applied ▸ ⟨rfl, rfl, rfl, rfl, rfl, rfl⟩)
          ⟨frame.last, frame.oldest, frame.complete, rfl⟩ (.inr ⟨frame.order, ?_⟩) ?_
        · intro unread
          have impossible := known.last.symm.trans unread
          cases impossible
        · intro _
          exact frame.complete.trans whole
      refine commitmentCatchUpLoop_result clockSecs
        { next with
          activeStakingCatchUp := some ⟨progress.boundaryTxId, head, some final.id⟩
          commitmentIndexRevision := satAdd u64Max next.commitmentIndexRevision 1 }
        { work with remainingPages := work.remainingPages - 1 } _ ?_ soundNext complete
        (frame.complete.trans whole) (.inl rfl)
      exact {
        generation := (congrArg CommitmentIndexLock.generation frame.lock).trans fits.generation
        token := fits.token
        stakingId := fits.stakingId.trans (by rw [← terms])
        minTx := fits.minTx.trans (by rw [← frame.config])
        latest := fits.latest.trans frame.last.symm
        oldest := fits.oldest.trans frame.oldest.symm }

theorem seeded_first (clockSecs : Nat) (st : CommitmentState) (work : CommitmentWork)
    (decodes : DecodesPrincipals env.fromText) (fits : CommitmentFits env st work)
    (sound : IndexSound env history st) (mode : CommitmentMode st (.first work))
    (here : ServedPage (history work.stakingId) served none page) :
    CommitmentResult env history st.config st.lock.generation
      (processCommitmentIndexingDescendingSeeded env.fromText clockSecs st work (some page)) := by
  rcases mode with ⟨unread, unfinished, incomplete⟩
  have latest : work.latestCursor = none := fits.latest.trans unread
  have oldest : work.oldestCursor = none :=
    fits.oldest.trans (sound.cursors.unread unread).1
  simp only [processCommitmentIndexingDescendingSeeded, latest, oldest, unfinished,
    Option.isSome_none, Option.isNone_none, Bool.false_and, Bool.false_eq_true, if_false]
  exact onCommitmentBackfillPage_result decodes
    ⟨fits.generation, fits.token, fits.stakingId, fits.minTx, unread.symm,
      (sound.cursors.unread unread).1.symm⟩ sound incomplete rfl here

theorem IndexSound.reopen (sound : IndexSound env history st)
    (unread : st.lastIndexedStakingTxId = none) (known : st.stakingIndexDescending = some true) :
    IndexSound env history { st with
      stakingBackfillComplete := some false
      commitmentRouteRollupsCompleteFromGenesis := some false } := by
  rcases sound.cursors.unread unread with ⟨oldest, idle⟩
  refine CommitmentSound.restamp false sound nofun (.inl idle)
    ⟨rfl, rfl, rfl, rfl, rfl, rfl⟩ ?_ nofun
  simp only [CommitmentState.cursors, IndexedRoute.withProgress, known]

theorem seeded_none (clockSecs : Nat) (st : CommitmentState) (work : CommitmentWork)
    (fits : CommitmentFits env st work) (sound : IndexSound env history st)
    (known : st.stakingIndexDescending = some true)
    (complete : work.backfillComplete = st.stakingBackfillComplete.getD false) :
    CommitmentResult env history st.config st.lock.generation
      (processCommitmentIndexingDescendingSeeded env.fromText clockSecs st work none) := by
  have oldest : (if work.latestCursor.isSome && work.oldestCursor.isNone then work.latestCursor
      else work.oldestCursor) = work.oldestCursor := by
    rw [fits.latest, fits.oldest]
    exact sound.cursors.oldestCursor
  simp only [processCommitmentIndexingDescendingSeeded]
  rw [oldest]
  cases finished : work.backfillComplete with
  | false =>
      have incomplete : st.stakingBackfillComplete ≠ some true := by
        intro whole
        rw [finished, whole] at complete
        cases complete
      simp only [Bool.false_and, Bool.false_eq_true, if_false]
      exact commitmentBackfillLoop_result clockSecs st _
        ⟨fits.generation, fits.token, fits.stakingId, fits.minTx, fits.latest, fits.oldest⟩ sound
        incomplete rfl
  | true =>
      have whole : st.stakingBackfillComplete = some true := by
        rw [finished] at complete
        cases stored : st.stakingBackfillComplete with
        | none =>
            rw [stored] at complete
            cases complete
        | some value =>
            rw [stored] at complete
            exact congrArg some complete.symm
      cases last : work.latestCursor with
      | none =>
          have unread : st.lastIndexedStakingTxId = none := fits.latest.symm.trans last
          have opened := sound.reopen unread known
          simp only [Option.isNone_none, Bool.and_self, Bool.not_true, if_true, Bool.and_false,
            Bool.false_eq_true, if_false]
          exact commitmentBackfillLoop_result clockSecs { st with
              stakingBackfillComplete := some false
              commitmentRouteRollupsCompleteFromGenesis := some false } _
            ⟨fits.generation, fits.token, fits.stakingId, fits.minTx, unread.symm, fits.oldest⟩
            opened (by simp) rfl
      | some latest =>
          have seen : st.lastIndexedStakingTxId = some latest := fits.latest.symm.trans last
          have fitsNow : CommitmentFits env st { work with
              latestCursor := some latest, backfillComplete := true } :=
            ⟨fits.generation, fits.token, fits.stakingId, fits.minTx, seen.symm, fits.oldest⟩
          simp only [Option.isNone_some, Bool.and_false, Bool.not_false, Bool.and_self, if_true,
            Bool.false_eq_true, if_false, Option.map_some]
          cases active : st.activeStakingCatchUp with
          | none =>
              simp only [Option.none_or]
              exact commitmentCatchUpLoop_result clockSecs st _ _ fitsNow sound rfl whole
                (.inr ⟨active, latest, seen, rfl⟩)
          | some progress =>
              simp only [Option.some_or]
              exact commitmentCatchUpLoop_result clockSecs st _ progress fitsNow sound rfl whole
                (.inl active)

theorem processCommitmentIndexingBounded_result (clockSecs : Nat) (st : CommitmentState)
    (task : CommitmentIndexTask) (owner : CommitmentIndexLeaseOwner) (nowSecs maxPages : Nat)
    (sound : IndexSound env history st) (generation : st.lock.generation = task.guard.generation)
    (token : task.token.generation = task.guard.generation) :
    CommitmentResult env history st.config st.lock.generation
      (processCommitmentIndexingBounded env.fromText env.identifierText clockSecs st task owner
        nowSecs maxPages) := by
  have fits : CommitmentFits env st
      { task := task
        owner := owner
        nowSecs := nowSecs
        stakingId := env.identifierText st.config.stakingAccount.owner
          (st.config.stakingAccount.subaccount.getD (List.replicate 32 0))
        minTxE8s := st.config.minTxE8s
        latestCursor := st.lastIndexedStakingTxId
        oldestCursor := st.oldestIndexedStakingTxId
        backfillComplete := st.stakingBackfillComplete.getD false
        remainingPages := max (max maxPages 1) 1 } := ⟨generation, token, rfl, rfl, rfl, rfl⟩
  simp only [processCommitmentIndexingBounded]
  split
  · rename_i ascending
    exact absurd ascending sound.order
  · rename_i unknown
    rcases sound.fresh unknown with ⟨unread, incomplete⟩
    refine awaitCommitmentPage_result (.first _) ⟨fits, nofun,
      unread, ?_, ?_⟩ sound
    · rw [incomplete]
      rfl
    · rw [incomplete]
      simp
  · rename_i known
    exact seeded_none clockSecs st _ fits sound known rfl

theorem IndexSound.descending (sound : IndexSound env history st) :
    IndexSound env history { st with stakingIndexDescending := some true } := by
  have cursors : SameCursors st.cursors
      { st with stakingIndexDescending := some true }.cursors := ⟨rfl, rfl, rfl, rfl⟩
  have rolled : SameRollups st { st with stakingIndexDescending := some true } :=
    ⟨rfl, rfl, rfl, rfl, rfl, rfl⟩
  exact {
    cursors := cursors.sound sound.cursors
    nodup := sound.nodup
    applied := sound.applied
    rollups := rolled.sound sound.rollups
    order := by simp
    fresh := nofun
    genesis := sound.genesis }

theorem resumeCommitmentIndexing_result (clockSecs : Nat) (st : CommitmentState)
    (kont : CommitmentKont) (decodes : DecodesPrincipals env.fromText)
    (ready : CommitmentReady env served st kont) (sound : IndexSound env history st)
    {reply : Option (List Tx)} {current : List Tx} (grown : served <:+ current)
    (suffix : current <:+ history kont.work.stakingId)
    (answered : ∀ page, reply = some page →
      page = pageOf IndexTransactionWithId.id current kont.start pageSize) :
    CommitmentResult env history st.config st.lock.generation
      (resumeCommitmentIndexing env.fromText clockSecs st kont reply) := by
  simp only [resumeCommitmentIndexing]
  cases reply with
  | none => exact finishCommitment_result st kont.work sound
  | some page =>
      have here : ServedPage (history kont.work.stakingId) current kont.start page := by
        refine ⟨?_, suffix, ?_, answered page rfl⟩
        · rw [ready.fits.stakingId]
          exact sound.cursors.newest
        · intro cursor start
          rcases ready.known cursor start with ⟨entry, member, same⟩
          exact ⟨entry, grown.subset member, same⟩
      dsimp only
      split
      · exact finishCommitment_result st kont.work sound
      · cases kont with
        | first work =>
            have fits := ready.fits
            exact seeded_first clockSecs { st with stakingIndexDescending := some true } work
              decodes ⟨fits.generation, fits.token, fits.stakingId, fits.minTx, fits.latest, fits.oldest⟩
              sound.descending ready.mode here
        | catchUp work progress =>
            exact onCommitmentCatchUpPage_result clockSecs st work progress decodes ready.fits
              sound ready.mode.1 ready.mode.2.1 ready.mode.2.2 here
        | backfill work =>
            exact onCommitmentBackfillPage_result decodes ready.fits sound ready.mode.2
              ready.mode.1 here

end Segments

end JupiterSuite.Historian
