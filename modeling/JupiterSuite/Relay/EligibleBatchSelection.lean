import JupiterSuite.Relay.EligibleBatchSteps

/-! Which batch the search selects: the least cutoff that has an eligible batch, and its newest one,
however the histories are cut into pages. -/

namespace JupiterSuite.Relay

open Base

section Cutoffs

variable {cutoffs : List Nat} {timestamp cutoff first last : Nat}

theorem nextCutoff_mem (place : nextCutoff cutoffs timestamp = some cutoff) :
    cutoff ∈ cutoffs ∧ timestamp < cutoff := by
  have member := List.mem_of_head? place
  refine ⟨(List.dropWhile_suffix _).subset member, ?_⟩
  have late := List.head?_dropWhile_not (fun cutoff => decide (cutoff ≤ timestamp)) cutoffs
  rw [nextCutoff] at place
  rw [place] at late
  simpa using late

theorem nextCutoff_of_lt (begins : cutoffs.head? = some first) (before : timestamp < first) :
    nextCutoff cutoffs timestamp = some first := by
  cases cutoffs with
  | nil => cases begins
  | cons front rest =>
      cases begins
      rw [nextCutoff, List.dropWhile_cons_of_neg (by simpa using before)]
      rfl

theorem head_le (increasing : cutoffs.Pairwise (· < ·)) (begins : cutoffs.head? = some first)
    (member : cutoff ∈ cutoffs) : first ≤ cutoff := by
  cases cutoffs with
  | nil => cases begins
  | cons front rest =>
      cases begins
      rcases List.mem_cons.mp member with rfl | later
      · exact Nat.le_refl _
      · exact Nat.le_of_lt ((List.pairwise_cons.mp increasing).1 cutoff later)

theorem le_last (increasing : cutoffs.Pairwise (· < ·)) (ends : cutoffs.getLast? = some last)
    (member : cutoff ∈ cutoffs) : cutoff ≤ last := by
  rcases List.eq_nil_or_concat cutoffs with rfl | ⟨front, final, rfl⟩
  · cases ends
  · rw [List.concat_eq_append] at *
    rw [List.getLast?_append, List.getLast?_singleton, Option.some_or] at ends
    cases ends
    rcases List.mem_append.mp member with old | same
    · exact Nat.le_of_lt ((List.pairwise_append.mp increasing).2.2 cutoff old last
        List.mem_cons_self)
    · exact Nat.le_of_eq (List.mem_singleton.mp same)

end Cutoffs

section Selection

variable (world : RewardWorld) (scope : SearchScope)

def RewardBatch (batch : ContributionBatch) : Prop :=
  IsBatch scope.attribution (world.ledger scope.attribution.relayAccountIdentifier) batch

def EligibleIn (batch : ContributionBatch) (classified : ClassifiedSources) : Prop :=
  RewardBatch world scope batch ∧ BatchOutcome world scope batch classified ∧
    classified.eligible.entries ≠ []

def Rejected (commitmentTxId : Nat) : Prop :=
  ∃ batch classified, RewardBatch world scope batch ∧ batch.commitmentTxId = commitmentTxId ∧
    BatchOutcome world scope batch classified ∧ classified.eligible.entries = []

def Candidate (found : EligibleBatch) : Prop :=
  ∃ batch classified, EligibleIn world scope batch classified ∧
    nextCutoff scope.cutoffs batch.timestampNanos = some found.cutoff ∧
    Describes found batch classified

def EligibleBatch.Beats (found : EligibleBatch) (cutoff commitmentTxId : Nat) : Prop :=
  found.cutoff < cutoff ∨ found.cutoff = cutoff ∧ commitmentTxId ≤ found.commitmentTxId

structure BatchSelected (answer : Option EligibleBatch) (st : BatchSearchState) : Prop where
  candidate : ∀ found, answer = some found → Candidate world scope found
  first : ∀ batch classified firstCutoff, scope.cutoffs.head? = some firstCutoff →
    EligibleIn world scope batch classified → batch.timestampNanos < firstCutoff →
      ∃ found, answer = some found ∧ found.cutoff = firstCutoff ∧
        batch.commitmentTxId ≤ found.commitmentTxId
  /-- In general, nothing is returned before an eligible batch of a lesser cutoff, nor a batch
  older than an eligible one of the same cutoff. -/
  least : ∀ batch classified cutoff, EligibleIn world scope batch classified →
    nextCutoff scope.cutoffs batch.timestampNanos = some cutoff →
      ∃ found, answer = some found ∧ found.Beats cutoff batch.commitmentTxId
  /-- Whatever is returned but a batch before the first cutoff is returned at the end of the
  history. -/
  complete : (∀ found, answer = some found → scope.cutoffs.head? ≠ some found.cutoff) →
    st.history.exhausted = true ∧ st.history.transactions =
      (world.ledger scope.attribution.relayAccountIdentifier).reverse

end Selection

variable {batches : List ContributionBatch}

section Pass

variable {world : RewardWorld} {scope : SearchScope} {clients : RewardClients}
  {usage left : Usage} {st next : BatchSearchState} {batch twin : ContributionBatch}
  {classified : ClassifiedSources} {firstCutoff : Nat} {found : Option EligibleBatch}

theorem Rejected.not_eligible (rejected : Rejected world scope batch.commitmentTxId)
    (eligible : EligibleIn world scope batch classified) : False := by
  rcases rejected with ⟨other, result, of, same, outcome, nothing⟩
  rcases eligible with ⟨ofToo, outcomeToo, something⟩
  have truthful := world.truthful scope.attribution.relayAccountIdentifier
  cases (BatchOutcome.unique (ofToo.unique truthful of same.symm) outcomeToo outcome)
  exact something nothing

structure PassReady (world : RewardWorld) (scope : SearchScope) (firstCutoff : Nat)
    (st : BatchSearchState) (batches : List ContributionBatch) : Prop where
  cache : st.splitterCache.ReadsFrom world scope.view scope.relay
  genuine : ∀ batch ∈ batches, RewardBatch world scope batch
  descending : batches.Pairwise fun newer older => older.commitmentTxId < newer.commitmentTxId
  seen : ∀ batch ∈ batches, batch.commitmentTxId ∈ st.examinedCommitments →
    Rejected world scope batch.commitmentTxId
  best : ∀ best, st.best = some best → Candidate world scope best ∧ best.cutoff ≠ firstCutoff ∧
    ∀ batch ∈ batches, batch.commitmentTxId < best.commitmentTxId

def SettledBy (world : RewardWorld) (scope : SearchScope) (best : Option EligibleBatch)
    (batch : ContributionBatch) : Prop :=
  Rejected world scope batch.commitmentTxId ∨
    nextCutoff scope.cutoffs batch.timestampNanos = none ∨
    ∃ found cutoff, best = some found ∧
      nextCutoff scope.cutoffs batch.timestampNanos = some cutoff ∧
      found.Beats cutoff batch.commitmentTxId

def Improves (before after : Option EligibleBatch) : Prop :=
  ∀ best, before = some best → ∃ better, after = some better ∧
    (better = best ∨ better.cutoff < best.cutoff)

theorem Improves.refl (best : Option EligibleBatch) : Improves best best :=
  fun found known => ⟨found, known, .inl rfl⟩

theorem Improves.trans {before middle after : Option EligibleBatch}
    (one : Improves before middle) (two : Improves middle after) : Improves before after := by
  intro best known
  rcases one best known with ⟨better, knownToo, less⟩
  rcases two better knownToo with ⟨final, finally_known, lesser⟩
  refine ⟨final, finally_known, ?_⟩
  rcases lesser with rfl | below
  · exact less
  · rcases less with rfl | above
    · exact .inr below
    · exact .inr (Nat.lt_trans below above)

theorem SettledBy.improves {before after : Option EligibleBatch}
    (settled : SettledBy world scope before batch) (improves : Improves before after) :
    SettledBy world scope after batch := by
  rcases settled with rejected | late | ⟨best, cutoff, known, place, beats⟩
  · exact .inl rejected
  · exact .inr (.inl late)
  · rcases improves best known with ⟨better, knownToo, rfl | below⟩
    · exact .inr (.inr ⟨better, cutoff, knownToo, place, beats⟩)
    · refine .inr (.inr ⟨better, cutoff, knownToo, place, .inl ?_⟩)
      rcases beats with less | ⟨same, _⟩ <;> omega

/-- What one turn of the pass comes to when it returns nothing. -/
structure Turned (world : RewardWorld) (scope : SearchScope) (firstCutoff : Nat)
    (st next : BatchSearchState) (batches : List ContributionBatch) : Prop where
  settled : ∀ batch ∈ batches, SettledBy world scope next.best batch
  improves : Improves st.best next.best
  best : ∀ best, next.best = some best → st.best = some best ∨ ∃ batch ∈ batches,
    nextCutoff scope.cutoffs batch.timestampNanos = some best.cutoff ∧
      Candidate world scope best ∧ best.cutoff ≠ firstCutoff ∧
      best.commitmentTxId = batch.commitmentTxId
  examined : ∀ id ∈ next.examinedCommitments, id ∈ st.examinedCommitments ∨
    ∃ batch ∈ batches, batch.commitmentTxId = id

theorem turned_of_examined (of : RewardBatch world scope batch)
    (seen : batch.commitmentTxId ∈ st.examinedCommitments →
      Rejected world scope batch.commitmentTxId)
    (newer : ∀ best, st.best = some best → batch.commitmentTxId < best.commitmentTxId)
    (examined : Examined world scope firstCutoff st batch next none) :
    Turned world scope firstCutoff st next [batch] := by
  have recorded_in : ∀ id, id ∈ batch.commitmentTxId :: st.examinedCommitments →
      id ∈ st.examinedCommitments ∨ ∃ one ∈ [batch], one.commitmentTxId = id := by
    intro id member
    rcases List.mem_cons.mp member with rfl | old
    · exact .inr ⟨batch, List.mem_singleton_self _, rfl⟩
    · exact .inl old
  generalize none_found : (none : Option EligibleBatch) = found at examined
  cases examined with
  | again present same =>
      subst same
      refine ⟨?_, .refl _, fun best known => .inl known, fun id member => .inl member⟩
      rw [List.forall_mem_singleton]
      exact .inl (seen present)
  | late recorded kept late =>
      refine ⟨?_, kept ▸ .refl _, fun best known => .inl (kept ▸ known), recorded ▸ recorded_in⟩
      rw [List.forall_mem_singleton]
      exact .inr (.inl late)
  | @beaten cutoff best recorded kept place known below =>
      refine ⟨?_, kept ▸ .refl _, fun best known => .inl (kept ▸ known), recorded ▸ recorded_in⟩
      rw [List.forall_mem_singleton]
      refine .inr (.inr ⟨best, cutoff, kept.trans known, place, ?_⟩)
      rcases Nat.lt_or_eq_of_le below with less | same
      · exact .inl less
      · exact .inr ⟨same, Nat.le_of_lt (newer best known)⟩
  | @ineligible classified recorded kept outcome nothing =>
      refine ⟨?_, kept ▸ .refl _, fun best known => .inl (kept ▸ known), recorded ▸ recorded_in⟩
      rw [List.forall_mem_singleton]
      exact .inl ⟨batch, classified, of, rfl, outcome, nothing⟩
  | @improved classified candidate recorded outcome something place describes ahead apart best =>
      refine ⟨?_, ?_, ?_, recorded ▸ recorded_in⟩
      · rw [List.forall_mem_singleton]
        exact .inr (.inr ⟨candidate, candidate.cutoff, best, place,
          .inr ⟨rfl, Nat.le_of_eq describes.commitment.symm⟩⟩)
      · intro old known
        exact ⟨candidate, best, .inr (ahead old known)⟩
      · intro better known
        cases best.symm.trans known
        exact .inr ⟨batch, List.mem_singleton_self _, place,
          ⟨batch, classified, ⟨of, outcome, something⟩, place, describes⟩, apart,
          describes.commitment⟩
  | returned => cases none_found

theorem PassReady.advance (ready : PassReady world scope firstCutoff st (batch :: batches))
    (continues : KeepsReads world scope st next)
    (turned : Turned world scope firstCutoff st next [batch]) :
    PassReady world scope firstCutoff next batches := by
  rcases List.pairwise_cons.mp ready.descending with ⟨above, descending⟩
  refine ⟨continues.cache, fun other member => ready.genuine other
    (List.mem_cons_of_mem batch member), descending, ?_, ?_⟩
  · intro other member examined
    rcases turned.examined _ examined with old | ⟨one, here, same⟩
    · exact ready.seen other (List.mem_cons_of_mem batch member) old
    · rw [List.mem_singleton] at here
      subst here
      have below := above other member
      omega
  · intro best known
    rcases turned.best best known with old | ⟨one, here, _, candidate, apart, same⟩
    · rcases ready.best best old with ⟨candidate, apart, newer⟩
      exact ⟨candidate, apart, fun other member => newer other (List.mem_cons_of_mem batch member)⟩
    · rw [List.mem_singleton] at here
      subst here
      refine ⟨candidate, apart, ?_⟩
      intro other member
      rw [same]
      exact above other member

theorem Turned.cons {middle : BatchSearchState}
    (one : Turned world scope firstCutoff st middle [batch])
    (two : Turned world scope firstCutoff middle next batches) :
    Turned world scope firstCutoff st next (batch :: batches) := by
  refine ⟨?_, one.improves.trans two.improves, ?_, ?_⟩
  · rw [List.forall_mem_cons]
    exact ⟨(one.settled batch (List.mem_singleton_self _)).improves two.improves, two.settled⟩
  · intro best known
    rcases two.best best known with old | ⟨other, member, rest⟩
    · rcases one.best best old with first | ⟨other, member, rest⟩
      · exact .inl first
      · rw [List.mem_singleton] at member
        subst member
        exact .inr ⟨other, List.mem_cons_self, rest⟩
    · exact .inr ⟨other, List.mem_cons_of_mem batch member, rest⟩
  · intro id member
    rcases two.examined id member with old | ⟨other, present, same⟩
    · rcases one.examined id old with first | ⟨other, present, same⟩
      · exact .inl first
      · rw [List.mem_singleton] at present
        subst present
        exact .inr ⟨other, List.mem_cons_self, same⟩
    · exact .inr ⟨other, List.mem_cons_of_mem batch present, same⟩

/-- What is returned at once is before the first cutoff, and no newer batch there is eligible. -/
structure Returned (world : RewardWorld) (scope : SearchScope) (firstCutoff : Nat)
    (batches : List ContributionBatch) (candidate : EligibleBatch) : Prop where
  eligible : Candidate world scope candidate
  listed : ∃ batch ∈ batches, batch.commitmentTxId = candidate.commitmentTxId
  first : candidate.cutoff = firstCutoff
  newest : ∀ batch ∈ batches, candidate.commitmentTxId < batch.commitmentTxId →
    nextCutoff scope.cutoffs batch.timestampNanos = some firstCutoff →
    Rejected world scope batch.commitmentTxId

theorem examineAll_spec (answers : world.Answers scope.snapshotId clients)
    (increasing : scope.cutoffs.Pairwise (· < ·)) (begins : scope.cutoffs.head? = some firstCutoff)
    (ready : PassReady world scope firstCutoff st batches)
    (passed : BatchSearchState.examineAll clients scope firstCutoff st usage batches =
      .ok ((next, found), left)) :
    KeepsReads world scope st next ∧
      (found = none → Turned world scope firstCutoff st next batches) ∧
      ∀ candidate, found = some candidate →
        Returned world scope firstCutoff batches candidate := by
  induction batches generalizing st usage with
  | nil =>
      cases passed
      refine ⟨⟨rfl, rfl, ready.cache⟩, fun _ => ⟨?_, .refl _, fun best known => .inl known,
        fun id member => .inl member⟩, fun candidate impossible => (by cases impossible)⟩
      intro batch impossible
      cases impossible
  | cons batch batches ih =>
      simp only [BatchSearchState.examineAll] at passed
      rcases bind_eq_ok.mp passed with ⟨⟨⟨middle, here⟩, _⟩, examined, passed⟩
      rcases examine_cases answers ready.cache examined with ⟨continues, turn⟩
      have of := ready.genuine batch List.mem_cons_self
      cases here with
      | some candidate =>
          cases passed
          refine ⟨continues, nofun, ?_⟩
          intro other same
          cases same
          cases turn with
          | @returned classified candidate outcome something place describes first =>
              refine ⟨⟨batch, classified, ⟨of, outcome, something⟩, place, describes⟩,
                ⟨batch, List.mem_cons_self, describes.commitment.symm⟩, first, ?_⟩
              rw [List.forall_mem_cons]
              refine ⟨fun above => ?_, fun other member above => ?_⟩
              · rw [describes.commitment] at above
                omega
              · have below := (List.pairwise_cons.mp ready.descending).1 other member
                rw [describes.commitment] at above
                omega
      | none =>
          have turned := turned_of_examined of (ready.seen batch List.mem_cons_self)
            (fun best known => (ready.best best known).2.2 batch List.mem_cons_self) turn
          rcases ih (ready.advance continues turned) passed with ⟨along, done, returned⟩
          refine ⟨⟨along.history.trans continues.history,
            along.orphanSearch.trans continues.orphanSearch, along.cache⟩,
            fun nothing => turned.cons (done nothing), ?_⟩
          intro candidate same
          have rest := returned candidate same
          refine ⟨rest.eligible, ?_, rest.first, ?_⟩
          · rcases rest.listed with ⟨other, member, id⟩
            exact ⟨other, List.mem_cons_of_mem batch member, id⟩
          rw [List.forall_mem_cons]
          refine ⟨fun _ place => ?_, rest.newest⟩
          rcases turned.settled batch (List.mem_singleton_self _) with
            rejected | late | ⟨best, cutoff, known, placed, beats⟩
          · exact rejected
          · cases late.symm.trans place
          · cases placed.symm.trans place
            have sound : best.cutoff ≠ firstCutoff ∧ firstCutoff ≤ best.cutoff := by
              rcases turned.best best known with old | ⟨_, _, _, ⟨_, _, _, place, _⟩, apart, _⟩
              · rcases ready.best best old with ⟨⟨_, _, _, place, _⟩, apart, _⟩
                exact ⟨apart, head_le increasing begins (nextCutoff_mem place).1⟩
              · exact ⟨apart, head_le increasing begins (nextCutoff_mem place).1⟩
            rcases beats with less | ⟨same, _⟩ <;> omega

end Pass

end JupiterSuite.Relay
