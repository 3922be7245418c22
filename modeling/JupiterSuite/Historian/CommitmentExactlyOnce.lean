import JupiterSuite.Historian.CommitmentRuns

/-! The commitment index counts every transaction of the staking account once: none is applied
twice, one that was not applied is still ahead of a cursor, and a complete index counts the
commitments up to its latest cursor. -/

namespace JupiterSuite.Historian

open Base Memo

namespace CommitmentSystem

variable (env : CommitmentEnv) (sys : CommitmentSystem)

def terms : CommitmentTerms := env.terms sys.state.config

def stakingHistory : List Tx := sys.history (sys.terms env).stakingId

def indexedTransactions : List Tx :=
  (sys.stakingHistory env).filter fun tx =>
    sys.state.lastIndexedStakingTxId.any fun latest => decide (tx.id ≤ latest)

end CommitmentSystem

/-- The walk has yet to get to the id: below its oldest cursor, or above its latest one and not
among what the catch-up has read. -/
def AheadOfWalk (st : CommitmentState) (id : Nat) : Prop :=
  st.lastIndexedStakingTxId = none ∨
    (st.stakingBackfillComplete ≠ some true ∧
      ∃ oldest, st.oldestIndexedStakingTxId = some oldest ∧ id < oldest) ∨
    ∃ latest, st.lastIndexedStakingTxId = some latest ∧ latest < id ∧
      ∀ progress start, st.activeStakingCatchUp = some progress →
        progress.nextStartTxId = some start → id < start ∨ progress.observedHeadTxId < id

structure CommitmentsExactlyOnce (env : CommitmentEnv) (sys : CommitmentSystem) : Prop where
  once : sys.state.applied.Nodup
  staking : ∀ tx ∈ sys.state.applied, tx ∈ sys.stakingHistory env
  ahead : ∀ tx ∈ sys.stakingHistory env, tx ∈ sys.state.applied ∨ AheadOfWalk sys.state tx.id
  complete : commitmentIndexIsComplete sys.state = true →
    sys.state.applied.Perm (sys.indexedTransactions env)
  count : commitmentIndexIsComplete sys.state = true →
    sys.state.qualifyingCommitmentCount =
      min ((sys.terms env).qualifyingCount (sys.indexedTransactions env)) u64Max
  rollup : commitmentIndexIsComplete sys.state = true → ∀ key,
    getCommitmentRouteRollup sys.state key =
      ⟨min ((sys.terms env).routeCount key (sys.indexedTransactions env)) u64Max,
        min ((sys.terms env).routeSum key (sys.indexedTransactions env)) u64Max⟩
  total : commitmentIndexIsComplete sys.state = true →
    (sys.terms env).qualifyingCount (sys.indexedTransactions env) ≤ u64Max →
      sys.state.commitmentRouteRollups.sumOf CommitmentRouteRollup.qualifyingCommitmentCount =
        sys.state.qualifyingCommitmentCount

section Reading

variable {terms : CommitmentTerms} {history : List Tx} {st : CommitmentState}

theorem CommitmentSound.aheadOfWalk (sound : CommitmentSound terms history st) {tx : Tx}
    (member : tx ∈ history) (unapplied : tx ∉ st.applied) : AheadOfWalk st tx.id := by
  have uncovered : ¬ Covered st.cursors tx.id := fun covered =>
    unapplied ((sound.applied tx).mpr ⟨member, covered⟩)
  rcases sound.cursors.cursors with ⟨unread, _⟩ | ⟨latest, _, oldest, _, last, first, _⟩
  · exact .inl unread
  · apply Or.inr
    by_cases below : tx.id < oldest.id
    · refine .inl ⟨?_, oldest.id, first, below⟩
      intro complete
      have bottom := sound.cursors.bottom complete tx member oldest.id first
      omega
    · refine .inr ⟨latest.id, last, ?_, ?_⟩
      · by_contra within
        exact uncovered (.inl ⟨latest.id, oldest.id, last, first, by omega, by omega⟩)
      · intro progress start active next
        by_contra inside
        exact uncovered (.inr ⟨progress, start, active, next, by omega, by omega⟩)

theorem commitmentIndexIsComplete_idle (complete : commitmentIndexIsComplete st = true) :
    st.commitmentRouteRollupsCompleteFromGenesis = some true ∧
      st.activeStakingCatchUp = none := by
  simp only [commitmentIndexIsComplete, Bool.and_eq_true, decide_eq_true_eq,
    Option.isNone_iff_eq_none] at complete
  exact ⟨complete.1.1.1, complete.1.2⟩

/-- A complete index has applied just what is not above its latest cursor. -/
theorem CommitmentSound.applied_perm (sound : CommitmentSound terms history st)
    (complete : commitmentIndexIsComplete st = true) :
    st.applied.Perm (history.filter fun tx =>
      st.lastIndexedStakingTxId.any fun latest => decide (tx.id ≤ latest)) := by
  rcases commitmentIndexIsComplete_idle complete with ⟨whole, idle⟩
  have walked : st.cursors.backfillComplete = some true := sound.genesis whole
  apply (List.perm_ext_iff_of_nodup sound.nodup (sound.cursors.newest.nodup.filter _)).mpr
  intro tx
  rw [sound.applied tx, List.mem_filter]
  constructor
  · rintro ⟨member, covered⟩
    rcases (sound.cursors.covered_complete walked idle member).mp covered with
      ⟨latest, last, upper⟩
    have known : st.lastIndexedStakingTxId = some latest := last
    refine ⟨member, ?_⟩
    rw [known]
    exact decide_eq_true upper
  · rintro ⟨member, below⟩
    rcases Option.any_eq_true _ _ |>.mp below with ⟨latest, last, upper⟩
    exact ⟨member, (sound.cursors.covered_complete walked idle member).mpr
      ⟨latest, last, of_decide_eq_true upper⟩⟩

end Reading

theorem commitments_exactly_once {env : CommitmentEnv} {sys : CommitmentSystem}
    (decodes : DecodesPrincipals env.fromText)
    (reachable : (commitmentMachine env).Reachable sys) : CommitmentsExactlyOnce env sys := by
  have sound := (reachable_commitmentInvariant decodes reachable).sound
  have perm : commitmentIndexIsComplete sys.state = true →
      sys.state.applied.Perm (sys.indexedTransactions env) :=
    fun complete => sound.applied_perm complete
  constructor
  · exact sound.nodup
  · intro tx member
    exact ((sound.applied tx).mp member).1
  · intro tx member
    by_cases applied : tx ∈ sys.state.applied
    · exact .inl applied
    · exact .inr (sound.aheadOfWalk member applied)
  · exact perm
  · intro complete
    rw [← qualifyingCount_perm (perm complete)]
    exact sound.rollups.count
  · intro complete key
    rw [← routeCount_perm key (perm complete), ← routeSum_perm key (perm complete)]
    exact sound.rollups.rollup key
  · intro complete fits
    rw [← qualifyingCount_perm (perm complete)] at fits
    have counted := sound.rollups.count
    have whole := sound.rollups.total fits
    rw [whole, counted]
    exact (Nat.min_eq_left fits).symm

section Sample

def sampleTarget : Principal := ⟨[0, 0, 0, 0, 2, 80, 47, 169, 1, 1]⟩

def sampleTargetText : Text :=
  [50, 50, 50, 53, 53, 45, 122, 113, 97, 97, 97, 45, 97, 97, 97, 97, 115, 45, 113, 102, 54, 117,
    113, 45, 99, 97, 105]

def sampleStakingId : String := "3e80bb7d621893cc664aff5ff953451ee36ccdf71e7f0fb831e8d1c5f86e82e6"

/-- A decoder that knows the sample target, and identifiers that know its default account. -/
def sampleEnv : CommitmentEnv where
  fromText text := if text = sampleTargetText then some sampleTarget else none
  identifierText owner subaccount :=
    if owner = sampleTarget ∧ subaccount = List.replicate 32 0 then sampleStakingId else ""

theorem sampleEnv_decodes : DecodesPrincipals sampleEnv.fromText := by
  intro text principal found
  simp only [sampleEnv] at found
  split at found
  · rename_i same
    cases found
    subst same
    decide
  · cases found

def sampleCommitment (id amount : Nat) (memo : Text) : Tx where
  id := id
  transaction :=
    { memo := 0
      icrc1Memo := some memo
      operation := .transfer sampleStakingId 10000 "" amount none
      timestampNanos := none }

def commitmentSampleStart : CommitmentSystem where
  state := CommitmentState.new ⟨⟨sampleTarget, none⟩, 100000000, 100, 10⟩
  tasks := Pool.empty
  clock := 1700000000000000000
  history := fun _ => []
  asked := fun _ => 0

/-- A poke takes over from a scheduled run whose page comes late, and the next run catches up. -/
def commitmentSampleEvents : List CommitmentEvent :=
  [.record sampleStakingId (sampleCommitment 7 250000000 sampleTargetText),
    .record sampleStakingId (sampleCommitment 9 90000000 sampleTargetText),
    .scheduled 0 1700000000 1700000000000000000, .poke 1 1700003600000000000,
    .resume 1 (.page 0) 1700003600000000000,
    .record sampleStakingId (sampleCommitment 12 300000000 [49, 50, 51, 52, 53]),
    .resume 0 (.page 0) 1700003600000000000,
    .scheduled 2 1700003601 1700003601000000000, .resume 2 (.page 0) 1700003602000000000]

def commitmentSampleSystem : CommitmentSystem :=
  ((commitmentMachine sampleEnv).run commitmentSampleStart commitmentSampleEvents).getD
    commitmentSampleStart

theorem commitmentSampleSystem_reachable :
    (commitmentMachine sampleEnv).Reachable commitmentSampleSystem :=
  (commitmentMachine sampleEnv).reachable_getD
    ⟨_, _, _, _, fun _ => List.Pairwise.nil, rfl⟩
    (by decide +kernel)

theorem commitments_exactly_once_late_page :
    commitmentIndexIsComplete commitmentSampleSystem.state = true ∧
      commitmentSampleSystem.state.qualifyingCommitmentCount = 2 ∧
      getCommitmentRouteRollup commitmentSampleSystem.state (.neuronStake 12345 none) =
        ⟨1, 300000000⟩ ∧
      CommitmentsExactlyOnce sampleEnv commitmentSampleSystem :=
  ⟨by decide +kernel, by decide +kernel, by decide +kernel,
    commitments_exactly_once sampleEnv_decodes commitmentSampleSystem_reachable⟩

end Sample

end JupiterSuite.Historian
