import JupiterSuite.Relay.BatchOutcomes

/-! One turn of the search: its reads keep to the ledgers, and what it classifies is the outcome of
the batch. -/

namespace JupiterSuite.Relay

open Base

variable {world : RewardWorld} {clients : RewardClients} {usage left : Usage}

section Owners

theorem resolveChunks_owners {snapshotId : Nat} {pieces : List (List AccountIdentifier)}
    {owners : List (Option Principal)} (answers : world.Answers snapshotId clients)
    (resolved : resolveChunks clients snapshotId usage pieces = .ok (owners, left)) :
    owners = pieces.flatten.map world.owner := by
  induction pieces generalizing usage owners with
  | nil =>
      cases resolved
      rfl
  | cons chunk pieces ih =>
      simp only [resolveChunks] at resolved
      rcases bind_eq_ok.mp resolved with ⟨charged, _, resolved⟩
      rcases bind_eq_ok.mp resolved with ⟨here, accepted, resolved⟩
      rcases bind_eq_ok.mp resolved with ⟨⟨others, _⟩, continued, same⟩
      cases same
      rw [List.flatten_cons, List.map_append, ← ih continued]
      congr 1
      generalize answered : clients.resolve usage.calls snapshotId chunk = reply at accepted
      cases reply with
      | stale => cases accepted
      | failed => cases accepted
      | answered result =>
          cases result with
          | ok found =>
              simp only [acceptOwners] at accepted
              split at accepted
              · cases accepted
              · rename_i matching
                cases accepted
                exact answers.owners _ _ _ answered (not_not.mp matching)
          | snapshotChanged => cases accepted
          | tooManyAccounts => cases accepted
          | invalidAccountIdentifier index => cases accepted

theorem resolveAccounts_owners {snapshotId : Nat} {sources : Sources}
    {owners : List (Option Principal)} (answers : world.Answers snapshotId clients)
    (resolved : resolveAccountsBounded clients snapshotId sources usage = .ok (owners, left)) :
    owners = sources.keys.map world.owner := by
  simp only [resolveAccountsBounded] at resolved
  rcases bind_eq_ok.mp resolved with ⟨_, _, resolved⟩
  have found := resolveChunks_owners answers resolved
  rwa [flatten_chunks (by decide)] at found

end Owners

section Splitters

variable {scope : ProvenanceScope} {history result : BackwardHistory} {snapshotId : Nat}
  {credits : List SplitterFundingCredit} {share : ExpandedSplitterProvenance}

theorem ReadFrom.extendHistory (answers : world.Answers snapshotId clients)
    (read : ReadFrom world scope.splitterAccount history)
    (extended : scope.extendHistory clients history usage = .ok (result, left)) :
    ReadFrom world scope.splitterAccount result := by
  simp only [ProvenanceScope.extendHistory] at extended
  generalize found : history.extend usage (history.request clients usage) = outcome at extended
  cases outcome with
  | error errorClass => cases extended
  | ok final =>
      cases extended
      exact read.request answers found

theorem ReadFrom.openHistory (answers : world.Answers snapshotId clients)
    (read : ReadFrom world scope.splitterAccount history)
    (opened : scope.openHistory clients history usage = .ok (result, left)) :
    ReadFrom world scope.splitterAccount result := by
  simp only [ProvenanceScope.openHistory] at opened
  split at opened
  · exact read.extendHistory answers opened
  · cases opened
    exact read

theorem authoritative_of_complete {transactions : List IndexTransactionWithId}
    {authoritative : Bool}
    (complete : reconstructSplitterHistoryBounded scope transactions credits authoritative usage =
      .complete (share, left)) : authoritative = true := by
  unfold reconstructSplitterHistoryBounded at complete
  split at complete
  · cases complete
  · split at complete
    · cases complete
    · rename_i whole
      simpa using whole

theorem replayHistory_traced {rounds : Nat} (answers : world.Answers snapshotId clients)
    (read : ReadFrom world scope.splitterAccount history)
    (replayed : scope.replayHistory clients credits rounds history usage =
      .ok ((share, result), left)) :
    ReadFrom world scope.splitterAccount result ∧ SplitterShare world scope credits share := by
  induction rounds generalizing history usage with
  | zero => cases replayed
  | succ rounds ih =>
      simp only [ProvenanceScope.replayHistory] at replayed
      rcases bind_eq_ok.mp replayed with ⟨⟨opened, spent⟩, begun, replayed⟩
      have reads := read.openHistory answers begun
      generalize found : reconstructSplitterHistoryBounded scope
        opened.authoritativeTransactions credits opened.authoritative spent = outcome at replayed
      cases outcome with
      | complete value =>
          cases replayed
          have authoritative := authoritative_of_complete found
          rcases reads.boundary authoritative with ⟨older, split, zero⟩
          rw [authoritative, ← List.reverse_reverse opened.authoritativeTransactions] at found
          exact ⟨reads, older, opened.authoritativeTransactions.reverse, spent, value.2, split,
            zero, found⟩
      | needOlderHistory =>
          dsimp only at replayed
          split at replayed
          · cases replayed
          · rcases bind_eq_ok.mp replayed with ⟨⟨more, _⟩, extended, replayed⟩
            exact ih (reads.extendHistory answers extended) replayed
      | malformed error => cases replayed

end Splitters

section Cache

/-- Every history in the cache was read from the world. -/
def SplitterHistoryCache.ReadsFrom (cache : SplitterHistoryCache) (world : RewardWorld)
    (view : IndexView) (relay : Principal) : Prop :=
  ∀ number history, cache.histories.lookup number = some history →
    ReadFrom world (provenanceScope view relay number).splitterAccount history

variable {view : IndexView} {relay : Principal} {credits : List SplitterFundingCredit}
  {cache next : SplitterHistoryCache} {expanded final : ExpandedSplitterProvenance}
  {snapshotId : Nat}

theorem readsFrom_new : SplitterHistoryCache.new.ReadsFrom world view relay := by
  intro number history impossible
  cases impossible

theorem SplitterHistoryCache.ReadsFrom.history (reads : cache.ReadsFrom world view relay)
    (number : Nat) : ReadFrom world (provenanceScope view relay number).splitterAccount
      (cache.history view relay number) := by
  rw [SplitterHistoryCache.history]
  cases known : cache.histories.lookup number with
  | none => exact readFrom_new
  | some history => exact reads number history known

theorem expandSplitter_traced {number : Nat} (answers : world.Answers snapshotId clients)
    (reads : cache.ReadsFrom world view relay)
    (traced : cache.expandSplitter clients view relay credits expanded number usage =
      .ok ((final, next), left)) :
    next.ReadsFrom world view relay ∧
      ∃ share, SplitterShare world (provenanceScope view relay number)
          (creditsFrom number credits) share ∧
        mergeAttribution expanded.sources expanded.ineligibleE8s share =
          .ok (final.sources, final.ineligibleE8s) := by
  simp only [SplitterHistoryCache.expandSplitter] at traced
  rcases bind_eq_ok.mp traced with ⟨_, _, traced⟩
  rcases bind_eq_ok.mp traced with ⟨⟨⟨one, history⟩, _⟩, replayed, traced⟩
  rcases bind_eq_ok.mp traced with ⟨_, _, traced⟩
  rcases bind_eq_ok.mp traced with ⟨⟨sources, ineligible⟩, merged, same⟩
  cases same
  rcases replayHistory_traced answers (reads.history number) replayed with ⟨read, share⟩
  refine ⟨?_, one, share, merged⟩
  intro other known lookup
  simp only [OrderedMap.insert, OrderedMap.lookup_update] at lookup
  split at lookup
  · rename_i here
    cases lookup
    exact here ▸ read
  · exact reads other known lookup

theorem expandAll_traced {numbers : List Nat} (answers : world.Answers snapshotId clients)
    (reads : cache.ReadsFrom world view relay)
    (traced : SplitterHistoryCache.expandAll clients view relay credits cache expanded usage
      numbers = .ok ((final, next), left)) :
    next.ReadsFrom world view relay ∧
      ExpandedFrom world view relay credits (expanded.sources, expanded.ineligibleE8s) numbers
        (final.sources, final.ineligibleE8s) := by
  induction numbers generalizing cache expanded usage with
  | nil =>
      cases traced
      exact ⟨reads, .done _⟩
  | cons number numbers ih =>
      simp only [SplitterHistoryCache.expandAll] at traced
      rcases bind_eq_ok.mp traced with ⟨⟨⟨middle, between⟩, _⟩, here, traced⟩
      rcases expandSplitter_traced answers reads here with ⟨kept, share, found, merged⟩
      rcases ih kept traced with ⟨done, rest⟩
      exact ⟨done, .step found merged rest⟩

theorem expand_traced (answers : world.Answers snapshotId clients)
    (reads : cache.ReadsFrom world view relay)
    (traced : cache.expand clients view relay credits usage = .ok ((final, next), left)) :
    next.ReadsFrom world view relay ∧
      ExpandedFrom world view relay credits (.empty, 0) (referencedSplitters credits)
        (final.sources, final.ineligibleE8s) := by
  simp only [SplitterHistoryCache.expand] at traced
  rcases bind_eq_ok.mp traced with ⟨_, _, traced⟩
  split at traced
  · cases traced
  · exact expandAll_traced answers reads traced

end Cache

section Batches

variable {scope : SearchScope} {st next : BatchSearchState} {batch : ContributionBatch}
  {classified : ClassifiedSources} {count : Nat}

/-- What the turns over the batches leave alone, and that the cache is kept. -/
structure KeepsReads (world : RewardWorld) (scope : SearchScope) (st next : BatchSearchState) :
    Prop where
  history : next.history = st.history
  orphanSearch : next.orphanSearch = st.orphanSearch
  cache : next.splitterCache.ReadsFrom world scope.view scope.relay

theorem classifyBatch_outcome (answers : world.Answers scope.snapshotId clients)
    (reads : st.splitterCache.ReadsFrom world scope.view scope.relay)
    (found : st.classifyBatch clients scope batch usage =
      .ok ((next, classified, count), left)) :
    KeepsReads world scope st next ∧ next.best = st.best ∧
      next.examinedCommitments = st.examinedCommitments ∧
      BatchOutcome world scope batch classified := by
  simp only [BatchSearchState.classifyBatch] at found
  rcases bind_eq_ok.mp found with ⟨⟨⟨expanded, cache⟩, _⟩, traced, found⟩
  rcases bind_eq_ok.mp found with ⟨_, _, found⟩
  rcases bind_eq_ok.mp found with ⟨_, _, found⟩
  rcases bind_eq_ok.mp found with ⟨_, _, found⟩
  rcases bind_eq_ok.mp found with ⟨_, _, found⟩
  rcases bind_eq_ok.mp found with ⟨⟨sources, ineligible⟩, merged, found⟩
  rcases bind_eq_ok.mp found with ⟨⟨owners, _⟩, resolved, found⟩
  rcases bind_eq_ok.mp found with ⟨_, classification, same⟩
  cases same
  rcases expand_traced answers reads traced with ⟨kept, shares⟩
  cases resolveAccounts_owners answers resolved
  exact ⟨⟨rfl, rfl, kept⟩, rfl, rfl, (expanded.sources, expanded.ineligibleE8s),
    (sources, ineligible), shares, merged, classification⟩

/-- The candidate tells what the batch comes to. -/
structure Describes (found : EligibleBatch) (batch : ContributionBatch)
    (classified : ClassifiedSources) : Prop where
  commitment : found.commitmentTxId = batch.commitmentTxId
  eligible : found.eligible = classified.eligible
  ineligible : found.ineligibleE8s = classified.ineligibleE8s
  mismatches : found.ownerMismatchCount = classified.ownerMismatchCount

inductive Examined (world : RewardWorld) (scope : SearchScope) (firstCutoff : Nat)
    (st : BatchSearchState) (batch : ContributionBatch) (next : BatchSearchState) :
    Option EligibleBatch → Prop where
  | again (seen : batch.commitmentTxId ∈ st.examinedCommitments) (same : next = st) :
      Examined world scope firstCutoff st batch next none
  | late (recorded : next.examinedCommitments = batch.commitmentTxId :: st.examinedCommitments)
      (kept : next.best = st.best) (late : nextCutoff scope.cutoffs batch.timestampNanos = none) :
      Examined world scope firstCutoff st batch next none
  | beaten {cutoff : Nat} {best : EligibleBatch}
      (recorded : next.examinedCommitments = batch.commitmentTxId :: st.examinedCommitments)
      (kept : next.best = st.best)
      (place : nextCutoff scope.cutoffs batch.timestampNanos = some cutoff)
      (known : st.best = some best) (below : best.cutoff ≤ cutoff) :
      Examined world scope firstCutoff st batch next none
  | ineligible {classified : ClassifiedSources}
      (recorded : next.examinedCommitments = batch.commitmentTxId :: st.examinedCommitments)
      (kept : next.best = st.best) (outcome : BatchOutcome world scope batch classified)
      (none_eligible : classified.eligible.entries = []) :
      Examined world scope firstCutoff st batch next none
  | improved {classified : ClassifiedSources} {candidate : EligibleBatch}
      (recorded : next.examinedCommitments = batch.commitmentTxId :: st.examinedCommitments)
      (outcome : BatchOutcome world scope batch classified)
      (some_eligible : classified.eligible.entries ≠ [])
      (place : nextCutoff scope.cutoffs batch.timestampNanos = some candidate.cutoff)
      (describes : Describes candidate batch classified)
      (ahead : ∀ best, st.best = some best → candidate.cutoff < best.cutoff)
      (apart : candidate.cutoff ≠ firstCutoff) (best : next.best = some candidate) :
      Examined world scope firstCutoff st batch next none
  | returned {classified : ClassifiedSources} {candidate : EligibleBatch}
      (outcome : BatchOutcome world scope batch classified)
      (some_eligible : classified.eligible.entries ≠ [])
      (place : nextCutoff scope.cutoffs batch.timestampNanos = some candidate.cutoff)
      (describes : Describes candidate batch classified)
      (first : candidate.cutoff = firstCutoff) :
      Examined world scope firstCutoff st batch next (some candidate)

theorem examine_cases {firstCutoff : Nat} {found : Option EligibleBatch}
    (answers : world.Answers scope.snapshotId clients)
    (reads : st.splitterCache.ReadsFrom world scope.view scope.relay)
    (examined : st.examine clients scope firstCutoff batch usage = .ok ((next, found), left)) :
    KeepsReads world scope st next ∧ Examined world scope firstCutoff st batch next found := by
  simp only [BatchSearchState.examine] at examined
  rcases bind_eq_ok.mp examined with ⟨_, _, examined⟩
  split at examined
  · rename_i seen
    cases examined
    exact ⟨⟨rfl, rfl, reads⟩, .again seen rfl⟩
  · rcases bind_eq_ok.mp examined with ⟨_, _, examined⟩
    split at examined
    · rename_i late
      cases examined
      exact ⟨⟨rfl, rfl, reads⟩, .late rfl rfl late⟩
    · rename_i cutoff place
      split at examined
      · rename_i below
        cases examined
        rcases (Option.any_eq_true _ _).mp below with ⟨best, known, le⟩
        exact ⟨⟨rfl, rfl, reads⟩, .beaten rfl rfl place known (of_decide_eq_true le)⟩
      · rename_i ahead
        have before : ∀ best, st.best = some best → cutoff < best.cutoff := by
          intro best known
          by_contra above
          apply ahead
          rw [Option.any_eq_true]
          exact ⟨best, known, decide_eq_true (Nat.not_lt.mp above)⟩
        rcases bind_eq_ok.mp examined with ⟨⟨⟨middle, classified, count⟩, _⟩, classify, examined⟩
        rcases classifyBatch_outcome answers (by exact reads) classify with
          ⟨continues, best, recorded, outcome⟩
        have along : KeepsReads world scope st middle :=
          ⟨continues.history, continues.orphanSearch, continues.cache⟩
        dsimp only at examined
        split at examined
        · rename_i empty
          cases examined
          exact ⟨along, .ineligible recorded best outcome (List.isEmpty_iff.mp empty)⟩
        · rename_i nonempty
          have some_eligible : classified.eligible.entries ≠ [] :=
            fun empty => nonempty (List.isEmpty_iff.mpr empty)
          split at examined
          · rename_i first
            cases examined
            exact ⟨along, .returned outcome some_eligible place ⟨rfl, rfl, rfl, rfl⟩ first⟩
          · rename_i apart
            cases examined
            exact ⟨⟨along.history, along.orphanSearch, along.cache⟩, .improved recorded outcome
              some_eligible place ⟨rfl, rfl, rfl, rfl⟩ before apart rfl⟩

end Batches

end JupiterSuite.Relay
