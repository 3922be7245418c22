import JupiterSuite.Faucet.IndexHealth

/-! A forced rescue for the index needs sustained evidence: two counted failures of one kind,
the gap apart, and its check never in order between them. -/

namespace JupiterSuite.Faucet

open Base

namespace IndexHealthState

variable (st : IndexHealthState)

@[simp]
theorem count_latch (reason : ForcedRescueReason) (failure : IndexFailure) :
    (st.latch reason).count failure = st.count failure := by
  unfold latch
  split <;> cases failure <;> rfl

@[simp]
theorem lastFailure_latch (reason : ForcedRescueReason) (check : IndexCheck) :
    (st.latch reason).lastFailure check = st.lastFailure check := by
  unfold latch
  split <;> cases check <;> rfl

theorem latch_reason (reason : ForcedRescueReason) :
    (st.latch reason).forcedRescueReason = st.forcedRescueReason ∨
      (st.latch reason).forcedRescueReason = some reason := by
  unfold latch
  split
  · exact .inr rfl
  · exact .inl rfl

@[simp]
theorem count_setLastFailure (last : Option Nat) (check : IndexCheck) (failure : IndexFailure) :
    (st.setLastFailure last check).count failure = st.count failure := by
  cases check <;> cases failure <;> rfl

@[simp]
theorem reason_setLastFailure (last : Option Nat) (check : IndexCheck) :
    (st.setLastFailure last check).forcedRescueReason = st.forcedRescueReason := by
  cases check <;> rfl

theorem lastFailure_setLastFailure (last : Option Nat) (check other : IndexCheck) :
    (st.setLastFailure last check).lastFailure other =
      if other = check then last else st.lastFailure other := by
  cases check <;> cases other <;> rfl

@[simp]
theorem lastFailure_setCount (failures : Nat) (failure : IndexFailure) (check : IndexCheck) :
    (st.setCount failures failure).lastFailure check = st.lastFailure check := by
  cases failure <;> cases check <;> rfl

@[simp]
theorem reason_setCount (failures : Nat) (failure : IndexFailure) :
    (st.setCount failures failure).forcedRescueReason = st.forcedRescueReason := by
  cases failure <;> rfl

theorem count_setCount (failures : Nat) (failure other : IndexFailure) :
    (st.setCount failures failure).count other =
      if other = failure then failures
      else if other.check = failure.check then 0 else st.count other := by
  cases failure <;> cases other <;> rfl

theorem count_le_episode (failure : IndexFailure) :
    st.count failure ≤ st.episodeFailures failure.check := by
  cases failure
  · exact Nat.le_refl _
  · exact Nat.le_max_left _ _
  · exact Nat.le_max_right _ _

end IndexHealthState

/-- What an observation does to every kind of failure. -/
structure Observed (st next : IndexHealthState) (evidence : IndexEvidence) (nowSecs : Nat) :
    Prop where
  count : ∀ failure, next.count failure = st.count failure ∨ next.count failure = 0 ∨
    evidence = .failing failure ∧ next.count failure = satAdd u8Max (st.count failure) 1 ∧
      next.lastFailure failure.check = some nowSecs ∧
      (st.count failure ≠ 0 → ∃ previous, st.lastFailure failure.check = some previous ∧
        st.minGapSeconds ≤ nowSecs - previous)
  last : ∀ check, next.lastFailure check = st.lastFailure check ∨
    next.lastFailure check = none ∨ next.lastFailure check = some nowSecs
  healthy : ∀ failure : IndexFailure, evidence = .healthy failure.check → next.count failure = 0
  latched : ∀ reason, next.forcedRescueReason = some reason →
    st.forcedRescueReason = some reason ∨
      st.forcedRescueReason = none ∧ ∃ failure : IndexFailure, reason = failure.reason ∧
        next.count failure = satAdd u8Max (st.count failure) 1 ∧ 2 ≤ next.count failure
  unlatched : next.forcedRescueReason = none → st.forcedRescueReason = none ∧
    ∀ failure, next.count failure = st.count failure ∨ next.count failure ≤ 1

theorem countSustainedFailure_cases (last : Option Nat) (failures nowSecs gap : Nat) :
    (countSustainedFailure last failures nowSecs gap = (some nowSecs, true) ∧
      (failures ≠ 0 → ∃ previous, last = some previous ∧ gap ≤ nowSecs - previous)) ∨
    (countSustainedFailure last failures nowSecs gap = (last, false)) ∨
      countSustainedFailure last failures nowSecs gap = (some nowSecs, false) := by
  unfold countSustainedFailure
  split
  · rename_i none_yet
    exact .inl ⟨rfl, fun some_yet => absurd none_yet some_yet⟩
  · split
    · rename_i previous
      split
      · rename_i elapsed
        exact .inl ⟨rfl, fun _ => ⟨previous, rfl, elapsed⟩⟩
      · exact .inr (.inl rfl)
    · exact .inr (.inr rfl)

theorem reason_injective {first second : IndexFailure} (same : first.reason = second.reason) :
    first = second := by
  cases first <;> cases second <;> first | rfl | cases same

theorem observed_same (st : IndexHealthState) {evidence : IndexEvidence} (nowSecs : Nat)
    (quiet : ∀ check, evidence ≠ .healthy check) : Observed st st evidence nowSecs where
  count := fun _ => .inl rfl
  last := fun _ => .inl rfl
  healthy := fun _ healthy => absurd healthy (quiet _)
  latched := fun _ latched => .inl latched
  unlatched := fun unlatched => ⟨unlatched, fun _ => .inl rfl⟩

theorem observed_uncounted (st : IndexHealthState) (failure : IndexFailure) (nowSecs : Nat)
    {last : Option Nat} (moved : last = st.lastFailure failure.check ∨ last = some nowSecs) :
    Observed st (st.setLastFailure last failure.check) (.failing failure) nowSecs where
  count := fun other => .inl (by simp)
  last := by
    intro check
    rw [IndexHealthState.lastFailure_setLastFailure]
    split
    · rename_i same
      subst same
      rcases moved with kept | now
      · exact .inl kept
      · exact .inr (.inr now)
    · exact .inl rfl
  healthy := nofun
  latched := by
    intro reason latched
    left
    simpa using latched
  unlatched := by
    intro unlatched
    rw [IndexHealthState.reason_setLastFailure] at unlatched
    exact ⟨unlatched, fun other => .inl (by simp)⟩

/-- A counted failure ends the other kind's count of its check; the second one is latched. -/
theorem observed_counted {st next : IndexHealthState} {failure : IndexFailure} {nowSecs : Nat}
    (gap : st.count failure ≠ 0 → ∃ previous, st.lastFailure failure.check = some previous ∧
      st.minGapSeconds ≤ nowSecs - previous)
    (counted : ∀ other, next.count other =
      if other = failure then satAdd u8Max (st.count failure) 1
      else if other.check = failure.check then 0 else st.count other)
    (timed : ∀ check, next.lastFailure check =
      if check = failure.check then some nowSecs else st.lastFailure check)
    (latched : ∀ reason, next.forcedRescueReason = some reason →
      st.forcedRescueReason = some reason ∨ st.forcedRescueReason = none ∧
        reason = failure.reason ∧ 2 ≤ satAdd u8Max (st.count failure) 1)
    (unlatched : next.forcedRescueReason = none →
      st.forcedRescueReason = none ∧ ¬ 2 ≤ satAdd u8Max (st.count failure) 1) :
    Observed st next (.failing failure) nowSecs := by
  have own := counted failure
  rw [if_pos rfl] at own
  constructor
  · intro other
    by_cases same : other = failure
    · subst same
      refine .inr (.inr ⟨rfl, own, ?_, gap⟩)
      rw [timed, if_pos rfl]
    · rw [counted, if_neg same]
      split
      · exact .inr (.inl rfl)
      · exact .inl rfl
  · intro check
    rw [timed]
    split
    · exact .inr (.inr rfl)
    · exact .inl rfl
  · intro other impossible
    cases impossible
  · intro reason latch
    rcases latched reason latch with earlier | ⟨before, same, twice⟩
    · exact .inl earlier
    · exact .inr ⟨before, failure, same, own, own ▸ twice⟩
  · intro none_latched
    rcases unlatched none_latched with ⟨before, once⟩
    refine ⟨before, fun other => ?_⟩
    rw [counted]
    split
    · exact .inr (by omega)
    · split
      · exact .inr (Nat.zero_le _)
      · exact .inl rfl

theorem recordFailure_observed (st : IndexHealthState) (failure : IndexFailure) (nowSecs : Nat) :
    Observed st (st.recordFailure failure nowSecs) (.failing failure) nowSecs := by
  have cases := countSustainedFailure_cases (st.lastFailure failure.check)
    (st.episodeFailures failure.check) nowSecs st.minGapSeconds
  rcases cases with ⟨counts, elapsed⟩ | same | fresh
  · have gap : st.count failure ≠ 0 → ∃ previous, st.lastFailure failure.check = some previous ∧
        st.minGapSeconds ≤ nowSecs - previous := by
      intro earlier
      have bound := st.count_le_episode failure
      exact elapsed (by omega)
    simp only [IndexHealthState.recordFailure, counts, Bool.not_true, Bool.false_eq_true, if_false]
    split
    · rename_i twice
      apply observed_counted gap
      · intro other
        simp [IndexHealthState.count_setCount]
      · intro check
        simp [IndexHealthState.lastFailure_setLastFailure]
      · intro reason latch
        cases before : st.forcedRescueReason with
        | some earlier =>
            left
            simpa [IndexHealthState.latch, before] using latch
        | none =>
            refine .inr ⟨rfl, ?_, twice⟩
            simpa [IndexHealthState.latch, before, eq_comm] using latch
      · intro unlatched
        simp only [IndexHealthState.latch] at unlatched
        split at unlatched
        · cases unlatched
        · rename_i before
          rw [before] at unlatched
          cases unlatched
    · rename_i once
      apply observed_counted gap
      · intro other
        simp [IndexHealthState.count_setCount]
      · intro check
        simp [IndexHealthState.lastFailure_setLastFailure]
      · intro reason latch
        left
        simpa using latch
      · intro unlatched
        exact ⟨by simpa using unlatched, once⟩
  · simp only [IndexHealthState.recordFailure, same, Bool.not_false, if_true]
    exact observed_uncounted st failure nowSecs (.inl rfl)
  · simp only [IndexHealthState.recordFailure, fresh, Bool.not_false, if_true]
    exact observed_uncounted st failure nowSecs (.inr rfl)

theorem anchor_healthy (st : IndexHealthState) (nowSecs : Nat) :
    Observed st { st with consecutiveIndexAnchorFailures := some 0, lastAnchorFailure := none }
      (.healthy .anchor) nowSecs := by
  constructor
  · intro failure
    cases failure
    · exact .inr (.inl rfl)
    · exact .inl rfl
    · exact .inl rfl
  · intro check
    cases check
    · exact .inr (.inl rfl)
    · exact .inl rfl
  · intro failure healthy
    cases failure
    · rfl
    · cases healthy
    · cases healthy
  · exact fun _ latched => .inl latched
  · intro unlatched
    refine ⟨unlatched, fun failure => ?_⟩
    cases failure
    · exact .inr (Nat.zero_le _)
    · exact .inl rfl
    · exact .inl rfl

theorem applyAnchorObservation_observed (pageSize : Nat) (st : IndexHealthState)
    (lastRead : Option (Nat × Option Nat)) (observedOldest : Option Nat) (nowSecs : Nat) :
    Observed st (st.applyAnchorObservation observedOldest nowSecs)
      ((Observation.anchor observedOldest).evidence pageSize st.expectedFirstStakingTxId lastRead)
      nowSecs := by
  simp only [IndexHealthState.applyAnchorObservation]
  split
  · rename_i expected
    rw [Observation.evidence, if_pos expected]
    exact observed_same st nowSecs nofun
  · rename_i expectedFirst expected
    have evidence : (Observation.anchor observedOldest).evidence pageSize
        st.expectedFirstStakingTxId lastRead =
          if observedOldest = some expectedFirst then .healthy .anchor
          else .failing .anchorMissing := by
      simp only [Observation.evidence, expected, reduceCtorEq, if_false]
    rw [evidence]
    split
    · exact anchor_healthy st nowSecs
    · exact recordFailure_observed st .anchorMissing nowSecs

/-! ## Pages -/

theorem strictlyDescending_iff (txs : List IndexTx) : strictlyDescending txs = true ↔
    txs.Pairwise fun newer older => older.id < newer.id := by
  induction txs with
  | nil => simp [strictlyDescending]
  | cons first rest ih =>
      cases rest with
      | nil => simp [strictlyDescending]
      | cons second rest =>
          rw [strictlyDescending, Bool.and_eq_true, decide_eq_true_eq, ih]
          constructor
          · rintro ⟨below, sorted⟩
            refine List.pairwise_cons.mpr ⟨?_, sorted⟩
            intro tx member
            rcases List.mem_cons.mp member with rfl | later
            · exact below
            · exact Nat.lt_trans ((List.pairwise_cons.mp sorted).1 tx later) below
          · intro sorted
            have parts := List.pairwise_cons.mp sorted
            exact ⟨parts.1 second List.mem_cons_self, parts.2⟩

theorem head_below_iff {txs : List IndexTx} {cursor : Option Nat}
    (sorted : txs.Pairwise fun newer older => older.id < newer.id) :
    (txs.head?.any fun tx => cursor.any fun id => decide (id ≤ tx.id)) = false ↔
      ∀ tx ∈ txs, ∀ id ∈ cursor, tx.id < id := by
  cases txs with
  | nil => simp
  | cons first rest =>
      cases cursor with
      | none => simp
      | some id =>
          simp only [List.head?_cons, Option.any_some, decide_eq_false_iff_not, Nat.not_le,
            Option.mem_some_iff, forall_eq']
          constructor
          · intro below tx member
            rcases List.mem_cons.mp member with rfl | later
            · exact below
            · exact Nat.lt_trans ((List.pairwise_cons.mp sorted).1 tx later) below
          · intro all
            exact all first List.mem_cons_self

theorem validateHistoryPage_iff (pageSize : Nat) (page : IndexPage)
    (cursor expectedOldest : Option Nat) :
    validateHistoryPage pageSize page cursor expectedOldest = none ↔
      ¬ WellFormedPage pageSize page cursor expectedOldest := by
  have pinned : (expectedOldest.any fun id => decide (page.oldestTxId ≠ some id)) = false ↔
      ∀ id ∈ expectedOldest, page.oldestTxId = some id := by
    cases expectedOldest <;> simp
  have above : (page.transactions.any fun tx => page.oldestTxId.all fun id =>
      decide (tx.id < id)) = false ↔
        ∀ tx ∈ page.transactions, ∃ oldest ∈ page.oldestTxId, oldest ≤ tx.id := by
    rw [List.any_eq_false]
    refine forall_congr' fun tx => forall_congr' fun _ => ?_
    cases page.oldestTxId <;> simp
  simp only [validateHistoryPage, WellFormedPage]
  by_cases sorted : page.transactions.Pairwise fun newer older => older.id < newer.id
  · have below := @head_below_iff _ cursor sorted
    have descends := (strictlyDescending_iff page.transactions).mpr sorted
    split
    · rename_i refused
      refine iff_of_true rfl ?_
      rintro ⟨oldest, size, _, lower, anchored, _⟩
      rw [pinned.mpr oldest, below.mpr lower, above.mpr anchored, descends,
        decide_eq_false (Nat.not_lt.mpr size)] at refused
      cases refused
    · rename_i passed
      simp only [Bool.or_eq_true, not_or, Bool.not_eq_true, Bool.not_eq_false',
        decide_eq_false_iff_not, Nat.not_lt] at passed
      rcases passed with ⟨⟨⟨⟨oldest, size⟩, _⟩, lower⟩, anchored⟩
      have rest : ∀ whole : Prop, ((∀ id ∈ expectedOldest, page.oldestTxId = some id) ∧
          page.transactions.length ≤ pageSize ∧
          page.transactions.Pairwise (fun newer older => older.id < newer.id) ∧
          (∀ tx ∈ page.transactions, ∀ id ∈ cursor, tx.id < id) ∧
          (∀ tx ∈ page.transactions, ∃ oldest ∈ page.oldestTxId, oldest ≤ tx.id) ∧ whole) ↔
            whole := fun _ =>
        ⟨fun all => all.2.2.2.2.2,
          fun whole => ⟨pinned.mp oldest, size, sorted, below.mp lower, above.mp anchored, whole⟩⟩
      rw [rest]
      split
      · rename_i empty
        have nothing := List.getLast?_eq_none_iff.mp empty
        cases cursor <;> cases page.oldestTxId <;> simp [nothing]
      · rename_i last found
        have some_page : page.transactions ≠ [] := List.ne_nil_of_mem (List.mem_of_getLast? found)
        simp [some_page]
  · have scrambled : strictlyDescending page.transactions = false := by
      rw [← Bool.not_eq_true, strictlyDescending_iff]
      exact sorted
    rw [if_pos (by simp [scrambled])]
    exact iff_of_true rfl fun whole => sorted whole.2.2.1

theorem scanLatestObservation_page (pageSize balanceE8s : Nat) (page : IndexPage) :
    scanLatestObservation pageSize none (some (balanceE8s, page)) =
      if WellFormedPage pageSize page none none then
        .read balanceE8s (page.transactions.head?.map IndexTx.id)
      else .invariantBroken := by
  simp only [scanLatestObservation]
  by_cases empty : page.transactions = []
  · have whole : WellFormedPage pageSize page none none ↔ page.oldestTxId = none := by
      simp [WellFormedPage, empty, eq_comm]
    cases oldest : page.oldestTxId <;> simp [whole, empty, oldest]
  · have some_page : page.transactions.isEmpty = false := List.isEmpty_eq_false_iff.mpr empty
    have valid := validateHistoryPage_iff pageSize page none none
    simp only [some_page, Bool.false_eq_true, if_false]
    by_cases whole : WellFormedPage pageSize page none none
    · have accepted := fun refused => valid.mp refused whole
      rw [if_pos whole, if_pos (Option.isSome_iff_ne_none.mpr accepted)]
    · rw [if_neg whole, valid.mpr whole]
      rfl

/-- The code remembers the pair of the last healthy newest page. -/
def Remembers (st : IndexHealthState) (lastRead : Option (Nat × Option Nat)) : Prop :=
  st.lastObservedStakingBalanceE8s = lastRead.map Prod.fst ∧
    st.lastObservedLatestTxId = lastRead.bind Prod.snd

theorem Remembers.recordFailure {st : IndexHealthState} (remembers : Remembers st lastRead)
    (failure : IndexFailure) (nowSecs : Nat) :
    Remembers (st.recordFailure failure nowSecs) lastRead := by
  have latch : ∀ (before : IndexHealthState) reason, Remembers before lastRead →
      Remembers (before.latch reason) lastRead := by
    intro before reason kept
    unfold IndexHealthState.latch
    split <;> exact kept
  have timed : ∀ last, Remembers (st.setLastFailure last failure.check) lastRead := by
    intro last
    cases failure <;> exact remembers
  have counted : ∀ last failures,
      Remembers ((st.setLastFailure last failure.check).setCount failures failure) lastRead := by
    intro last failures
    cases failure <;> exact remembers
  simp only [IndexHealthState.recordFailure]
  split
  · exact timed _
  · split
    · exact latch _ _ (counted _ _)
    · exact counted _ _

theorem latest_healthy (st : IndexHealthState) (balance tip : Option Nat) (nowSecs : Nat) :
    Observed st { st with
        lastObservedStakingBalanceE8s := balance
        lastObservedLatestTxId := tip
        consecutiveIndexLatestInvariantFailures := some 0
        consecutiveIndexLatestUnreadableFailures := some 0
        lastLatestFailure := none } (.healthy .latest) nowSecs := by
  constructor
  · intro failure
    cases failure
    · exact .inl rfl
    · exact .inr (.inl rfl)
    · exact .inr (.inl rfl)
  · intro check
    cases check
    · exact .inl rfl
    · exact .inr (.inl rfl)
  · intro failure healthy
    cases failure
    · cases healthy
    · rfl
    · rfl
  · exact fun _ latched => .inl latched
  · intro unlatched
    refine ⟨unlatched, fun failure => ?_⟩
    cases failure
    · exact .inl rfl
    · exact .inr (Nat.zero_le _)
    · exact .inr (Nat.zero_le _)

theorem tipBehind_iff (latest previous : Option Nat) : tipBehind latest previous = true ↔
    ∃ id ∈ previous, ∀ newest ∈ latest, newest < id := by
  cases latest <;> cases previous <;> simp [tipBehind]

theorem applyLatest_observed {st : IndexHealthState} (remembers : Remembers st lastRead)
    (balanceE8s : Nat) (tip : Option Nat) (nowSecs : Nat) :
    Observed st (st.applyLatestObservation (.read balanceE8s tip) nowSecs)
        (tipEvidence lastRead balanceE8s tip) nowSecs ∧
      Remembers (st.applyLatestObservation (.read balanceE8s tip) nowSecs)
        (if tipEvidence lastRead balanceE8s tip = .healthy .latest then some (balanceE8s, tip)
          else lastRead) := by
  rcases remembers with ⟨balance, last⟩
  simp only [IndexHealthState.applyLatestObservation, balance, last]
  cases lastRead with
  | none => exact ⟨latest_healthy st _ _ nowSecs, ⟨rfl, rfl⟩⟩
  | some read =>
      simp only [tipEvidence, Option.map_some, Option.bind_some, Option.isSome_some, Bool.true_and,
        Option.any_some, tipBehind_iff, Bool.and_eq_true, bne_iff_ne, decide_eq_true_eq]
      by_cases behind : ∃ id ∈ read.2, ∀ newest ∈ tip, newest < id
      · simp only [if_pos behind, reduceCtorEq, if_false]
        exact ⟨observed_same st nowSecs nofun, balance, last⟩
      · simp only [if_neg behind]
        by_cases changed : tip = read.2 ∧ read.1 ≠ balanceE8s
        · simp only [if_pos changed, if_pos changed.symm, reduceCtorEq, if_false]
          exact ⟨recordFailure_observed st .latestInvariantBroken nowSecs,
            Remembers.recordFailure ⟨balance, last⟩ .latestInvariantBroken nowSecs⟩
        · have steady : ¬ (read.1 ≠ balanceE8s ∧ tip = read.2) := fun both => changed both.symm
          simp only [if_neg changed, if_neg steady, if_true]
          exact ⟨latest_healthy st _ _ nowSecs, ⟨rfl, rfl⟩⟩

theorem apply_observed (pageSize : Nat) {st : IndexHealthState} (remembers : Remembers st lastRead)
    (observation : Observation) (nowSecs : Nat) :
    Observed st (observation.apply pageSize st nowSecs)
        (observation.evidence pageSize st.expectedFirstStakingTxId lastRead) nowSecs ∧
      Remembers (observation.apply pageSize st nowSecs) (observation.lastRead
        (observation.evidence pageSize st.expectedFirstStakingTxId lastRead) lastRead) := by
  cases observation with
  | anchor observedOldest =>
      refine ⟨applyAnchorObservation_observed pageSize st lastRead observedOldest nowSecs, ?_⟩
      simp only [Observation.apply, IndexHealthState.applyAnchorObservation]
      split
      · exact remembers
      · split
        · exact remembers
        · exact remembers.recordFailure .anchorMissing nowSecs
  | unreadable =>
      exact ⟨recordFailure_observed st .latestUnreadable nowSecs,
        remembers.recordFailure .latestUnreadable nowSecs⟩
  | latestPage reply =>
      rcases reply with _ | ⟨balanceE8s, page⟩
      · exact ⟨recordFailure_observed st .latestUnreadable nowSecs,
          remembers.recordFailure .latestUnreadable nowSecs⟩
      · simp only [Observation.apply, scanLatestObservation_page, Observation.evidence,
          Observation.lastRead]
        split
        · exact applyLatest_observed remembers balanceE8s _ nowSecs
        · exact ⟨recordFailure_observed st .latestInvariantBroken nowSecs,
            remembers.recordFailure .latestInvariantBroken nowSecs⟩
  | payoutPage page cursor expectedOldest =>
      have valid := validateHistoryPage_iff pageSize page cursor expectedOldest
      simp only [Observation.apply, Observation.evidence, Observation.lastRead]
      by_cases whole : WellFormedPage pageSize page cursor expectedOldest
      · cases accepted : validateHistoryPage pageSize page cursor expectedOldest with
        | none => exact absurd whole (valid.mp accepted)
        | some complete =>
            rw [if_pos whole]
            exact ⟨observed_same st nowSecs nofun, remembers⟩
      · rw [if_neg whole, valid.mpr whole]
        exact ⟨recordFailure_observed st .latestInvariantBroken nowSecs,
          remembers.recordFailure .latestInvariantBroken nowSecs⟩

/-! ## Evidence -/

/-- The check was never in order. -/
def NeverHealthy (check : IndexCheck) (between : List HealthRecord) : Prop :=
  ∀ record ∈ between, record.evidence ≠ .healthy check

/-- A counter that is not zero rests on a counted failure: nothing since was healthy, and the
heap's time is none before it. -/
def Evidence (sys : HealthSystem) (failure : IndexFailure) : Prop :=
  sys.state.count failure = 0 ∨ ∃ earlier first between,
    sys.log = earlier ++ ⟨.failing failure, true, first⟩ :: between ∧
      NeverHealthy failure.check between ∧ first ≤ sys.clock ∧
      ∀ last, sys.state.lastFailure failure.check = some last → first ≤ last

structure Evident (sys : HealthSystem) : Prop where
  evidence : ∀ failure, Evidence sys failure
  unlatched : sys.state.forcedRescueReason = none → ∀ failure, sys.state.count failure ≤ 1
  remembers : Remembers sys.state sys.lastRead

theorem evidence_observe {sys : HealthSystem} {observation : Observation} {nowSecs : Nat}
    (evident : Evident sys) (forward : sys.clock ≤ nowSecs) (failure : IndexFailure) :
    Evidence (sys.observe pageSize observation nowSecs) failure := by
  have observed := (apply_observed pageSize evident.remembers observation nowSecs).1
  by_cases zero : (observation.apply pageSize sys.state nowSecs).count failure = 0
  · exact .inl zero
  by_cases begun : sys.state.count failure = 0
  · rcases observed.count failure with same | none_yet | ⟨own, counted, now, _⟩
    · exact absurd (same.trans begun) zero
    · exact absurd none_yet zero
    · have nothing : NeverHealthy failure.check [] := fun _ member => nomatch member
      refine .inr ⟨sys.log, nowSecs, [], ?_, nothing, Nat.le_refl _, ?_⟩
      · have raised : sys.state.count failure <
            (observation.apply pageSize sys.state nowSecs).count failure := by omega
        simp only [HealthSystem.observe, own, raises, decide_eq_true raised]
      · intro last found
        exact Nat.le_of_eq (Option.some.inj (now.symm.trans found))
  · have appended : ∃ record, (sys.observe pageSize observation nowSecs).log = sys.log ++ [record] ∧
        record.evidence ≠ .healthy failure.check :=
      ⟨_, rfl, fun healthy => zero (observed.healthy failure healthy)⟩
    rcases appended with ⟨record, log, unhealthy⟩
    rcases evident.evidence failure with
      none_yet | ⟨earlier, first, between, split, quiet, past, window⟩
    · exact absurd none_yet begun
    · refine .inr ⟨earlier, first, between ++ [record], ?_, ?_, Nat.le_trans past forward, ?_⟩
      · rw [log, split, List.append_assoc, List.cons_append]
      · intro other member
        rcases List.mem_append.mp member with old | last
        · exact quiet other old
        · rw [List.mem_singleton.mp last]
          exact unhealthy
      · intro last found
        rcases observed.last failure.check with same | gone | fresh
        · exact window last (same.symm.trans found)
        · cases gone.symm.trans found
        · have now : nowSecs = last := Option.some.inj (fresh.symm.trans found)
          omega

theorem count_upgrade (st : IndexHealthState) (interval : Option Nat) (failure : IndexFailure) :
    (st.upgrade false interval).count failure = st.count failure := by
  cases failure <;> rfl

theorem evident_step (sys : HealthSystem) (event : HealthEvent) (next : HealthSystem)
    (evident : Evident sys) (taken : stepHealth pageSize sys event = some next) :
    Evident next := by
  cases event with
  | observe observation nowSecs =>
      simp only [stepHealth] at taken
      split at taken
      · rename_i forward
        cases taken
        have applied := apply_observed pageSize evident.remembers observation nowSecs
        refine ⟨evidence_observe evident forward, ?_, applied.2⟩
        intro unlatched failure
        rcases applied.1.unlatched unlatched with ⟨before, counts⟩
        have few := evident.unlatched before failure
        rcases counts failure with same | one
        · exact same.trans_le few
        · exact one
      · cases taken
  | latchOther reason =>
      simp only [stepHealth] at taken
      split at taken
      · cases taken
      · cases taken
        constructor
        · intro failure
          have evidence := evident.evidence failure
          simp only [Evidence, IndexHealthState.count_latch, IndexHealthState.lastFailure_latch]
          exact evidence
        · intro unlatched failure
          rw [IndexHealthState.count_latch]
          apply evident.unlatched
          rcases IndexHealthState.latch_reason sys.state reason with kept | fresh
          · exact kept.symm.trans unlatched
          · cases fresh.symm.trans unlatched
        · unfold IndexHealthState.latch
          split <;> exact evident.remembers
  | upgrade clear interval =>
      cases taken
      cases clear with
      | true =>
          refine ⟨?_, ?_, evident.remembers⟩
          · intro failure
            left
            cases failure <;> rfl
          · intro _ failure
            cases failure <;> exact Nat.zero_le _
      | false =>
          refine ⟨?_, ?_, evident.remembers⟩
          · intro failure
            rcases evident.evidence failure with
              none_yet | ⟨earlier, first, between, split, quiet, past, _⟩
            · exact .inl ((count_upgrade _ _ _).trans none_yet)
            · refine .inr ⟨earlier, first, between, split, quiet, past, ?_⟩
              intro last found
              cases failure <;> cases found
          · intro unlatched failure
            exact (count_upgrade _ _ _).trans_le (evident.unlatched unlatched failure)

theorem reachable_evident {sys : HealthSystem} (reachable : (indexHealth pageSize).Reachable sys) :
    Evident sys := by
  apply (indexHealth pageSize).reachable_invariant Evident _ evident_step reachable
  rintro _ ⟨interval, expectedFirst, clock, rfl⟩
  refine ⟨?_, ?_, rfl, rfl⟩
  · intro failure
    left
    cases failure <;> rfl
  · intro _ failure
    cases failure <;> exact Nat.zero_le _

theorem reason_ofIndex (failure : IndexFailure) : failure.reason.ofIndex = true := by
  cases failure <;> rfl

/-- The step that latches an index reason observes a second counted failure of that kind, the gap
after an earlier one; the records say what was observed, whatever the code made of it. -/
theorem forced_rescue_sustained {pageSize : Nat} {sys next : HealthSystem} {event : HealthEvent}
    {failure : IndexFailure} (reachable : (indexHealth pageSize).Reachable sys)
    (taken : stepHealth pageSize sys event = some next)
    (before : sys.state.forcedRescueReason ≠ some failure.reason)
    (latched : next.state.forcedRescueReason = some failure.reason) :
    ∃ earlier first between second,
      next.log = earlier ++ ⟨.failing failure, true, first⟩ :: between ++
          [⟨.failing failure, true, second⟩] ∧
        first + max sys.state.mainIntervalSeconds 60 ≤ second ∧
        NeverHealthy failure.check between := by
  have evident := reachable_evident reachable
  cases event with
  | observe observation nowSecs =>
      simp only [stepHealth] at taken
      split at taken
      · cases taken
        have observed := (apply_observed pageSize evident.remembers observation nowSecs).1
        rcases observed.latched failure.reason latched with
          old | ⟨unlatched, other, same, counted, twice⟩
        · exact absurd old before
        have own := reason_injective same
        subst own
        have few := evident.unlatched unlatched failure
        have raised : sys.state.count failure <
            (observation.apply pageSize sys.state nowSecs).count failure := by omega
        have again : sys.state.count failure ≠ 0 := by
          intro zero
          rw [counted, zero] at twice
          exact absurd twice (by decide)
        rcases observed.count failure with kept | none_left | ⟨own, _, _, gap⟩
        · omega
        · omega
        rcases evident.evidence failure with
          none_yet | ⟨earlier, first, between, split, quiet, _, window⟩
        · exact absurd none_yet again
        rcases gap again with ⟨previous, found, elapsed⟩
        have bound := window previous found
        have wide : max sys.state.mainIntervalSeconds 60 ≤ nowSecs - previous := elapsed
        have positive : 60 ≤ max sys.state.mainIntervalSeconds 60 := Nat.le_max_right _ _
        refine ⟨earlier, first, between, nowSecs, ?_, by omega, quiet⟩
        simp only [HealthSystem.observe, own, raises, decide_eq_true raised, split]
      · cases taken
  | latchOther reason =>
      simp only [stepHealth] at taken
      split at taken
      · cases taken
      · rename_i other
        cases taken
        rcases IndexHealthState.latch_reason sys.state reason with kept | fresh
        · exact absurd (kept.symm.trans latched) before
        · have same : reason = failure.reason := Option.some.inj (fresh.symm.trans latched)
          rw [same, reason_ofIndex] at other
          exact absurd rfl other
  | upgrade clear interval =>
      cases taken
      cases clear with
      | true => cases latched
      | false => exact absurd latched before

/-- An unreadable page is counted, the heap is lost, the next one opens a fresh window, and the
third one a day later latches. -/
def sustainedOutage : List HealthEvent :=
  [.observe .unreadable 1000, .upgrade false none, .observe .unreadable 90000]

def freshHealth : HealthSystem := ⟨.new 86400 none, 0, none, []⟩

def outageHealth : HealthSystem :=
  ((indexHealth 500).run freshHealth sustainedOutage).getD freshHealth

def rescuedHealth : HealthSystem :=
  (stepHealth 500 outageHealth (.observe .unreadable 180000)).getD outageHealth

theorem forced_rescue_sustained_outage :
    ∃ earlier first between second,
      rescuedHealth.log =
        earlier ++ ⟨.failing .latestUnreadable, true, first⟩ :: between ++
          [⟨.failing .latestUnreadable, true, second⟩] ∧
        first + 86400 ≤ second ∧ NeverHealthy .latest between := by
  have ran : (indexHealth 500).run freshHealth sustainedOutage = some outageHealth := by
    decide +kernel
  have reachable : (indexHealth 500).Reachable outageHealth :=
    ⟨freshHealth, sustainedOutage, ⟨86400, none, 0, rfl⟩, ran⟩
  have taken : stepHealth 500 outageHealth (.observe .unreadable 180000) =
      some rescuedHealth := by decide +kernel
  exact @forced_rescue_sustained 500 outageHealth rescuedHealth _ .latestUnreadable reachable taken
    (by decide +kernel) (by decide +kernel)

end JupiterSuite.Faucet
