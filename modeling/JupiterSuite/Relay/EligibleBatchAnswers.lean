import JupiterSuite.Relay.EligibleBatchRuns

/-! The answer of the search is a fact of the ledgers and the owners; only how many sources it
counts depends on the pages. -/

namespace JupiterSuite.Relay

open Base

/-- The search with splitter histories that were read before. -/
def findEligibleBatchFrom (splitterCache : SplitterHistoryCache) (clients : RewardClients)
    (scope : SearchScope) (usage : Usage) :
    Except String ((Option EligibleBatch × BatchSearchState) × Usage) :=
  match scope.cutoffs.head?, scope.cutoffs.getLast? with
  | some firstCutoff, some lastCutoff =>
      BatchSearchState.search clients scope firstCutoff lastCutoff (maxCalls + 2)
        { BatchSearchState.new scope with splitterCache } usage
  | _, _ => .error "reward_history_not_caught_up"

def EligibleBatch.selection (found : EligibleBatch) : EligibleBatch :=
  { found with distinctSources := 0 }

section Answers

variable {world : RewardWorld} {scope : SearchScope} {found other : EligibleBatch}

theorem find_selects {cache : SplitterHistoryCache} {clients : RewardClients} {usage left : Usage}
    {answer : Option EligibleBatch} {st : BatchSearchState}
    (increasing : scope.cutoffs.Pairwise (· < ·))
    (answers : world.Answers scope.snapshotId clients)
    (reads : cache.ReadsFrom world scope.view scope.relay)
    (found : findEligibleBatchFrom cache clients scope usage = .ok ((answer, st), left)) :
    BatchSelected world scope answer st := by
  unfold findEligibleBatchFrom at found
  split at found
  · rename_i firstCutoff lastCutoff begins ends
    have invariant : SearchInvariant world scope
        { BatchSearchState.new scope with splitterCache := cache } :=
      ⟨readFrom_new, reads, rfl, fun id impossible => (by cases impossible),
        nofun⟩
    exact search_selects answers increasing begins ends invariant found
  · cases found

theorem Candidate.selection_eq (one : Candidate world scope found)
    (two : Candidate world scope other) (same : found.commitmentTxId = other.commitmentTxId) :
    found.selection = other.selection := by
  rcases one with ⟨batch, classified, ⟨of, outcome, _⟩, place, describes⟩
  rcases two with ⟨twin, result, ⟨ofToo, outcomeToo, _⟩, placeToo, describesToo⟩
  have ids : batch.commitmentTxId = twin.commitmentTxId := by
    rw [← describes.commitment, ← describesToo.commitment, same]
  have agrees := of.unique (world.truthful scope.attribution.relayAccountIdentifier) ofToo ids
  cases outcome.unique agrees outcomeToo
  rw [agrees.timestamp, placeToo, Option.some.injEq] at place
  rcases found with ⟨id, cutoff, eligible, ineligible, mismatches, count⟩
  rcases other with ⟨_, _, _, _, _, _⟩
  have eligibleSame := describes.eligible.trans describesToo.eligible.symm
  have ineligibleSame := describes.ineligible.trans describesToo.ineligible.symm
  have mismatchesSame := describes.mismatches.trans describesToo.mismatches.symm
  dsimp only at same place eligibleSame ineligibleSame mismatchesSame
  subst same place eligibleSame ineligibleSame mismatchesSame
  rfl

theorem BatchSelected.unique {answer result : Option EligibleBatch} {st final : BatchSearchState}
    (one : BatchSelected world scope answer st) (two : BatchSelected world scope result final) :
    answer.map EligibleBatch.selection = result.map EligibleBatch.selection := by
  have beaten : ∀ {answer : Option EligibleBatch} {st : BatchSearchState} {found : EligibleBatch},
      BatchSelected world scope answer st → Candidate world scope found →
        ∃ best, answer = some best ∧ best.Beats found.cutoff found.commitmentTxId := by
    intro answer st found selected candidate
    rcases candidate with ⟨batch, classified, eligible, place, describes⟩
    rw [describes.commitment]
    exact selected.least batch classified found.cutoff eligible place
  cases answer with
  | none =>
      cases result with
      | none => rfl
      | some found =>
          rcases beaten one (two.candidate found rfl) with ⟨_, impossible, _⟩
          cases impossible
  | some found =>
      have candidate := one.candidate found rfl
      rcases beaten two candidate with ⟨best, rfl, beats⟩
      have candidateToo := two.candidate best rfl
      rcases beaten one candidateToo with ⟨_, same, beatsToo⟩
      cases same
      have ids : found.commitmentTxId = best.commitmentTxId := by
        rcases beats with less | ⟨_, newer⟩ <;> rcases beatsToo with lesser | ⟨_, newerToo⟩ <;> omega
      rw [Option.map_some, Option.map_some, candidate.selection_eq candidateToo ids]

def CachesAgree (world : RewardWorld) (scope : SearchScope) : Prop :=
  ∀ clients others cache cacheToo credits usage spent expanded expandedToo next nextToo left rest,
    world.Answers scope.snapshotId clients → world.Answers scope.snapshotId others →
    cache.ReadsFrom world scope.view scope.relay →
    cacheToo.ReadsFrom world scope.view scope.relay →
    SplitterHistoryCache.expand clients scope.view scope.relay credits cache usage =
      .ok ((expanded, next), left) →
    SplitterHistoryCache.expand others scope.view scope.relay credits cacheToo spent =
      .ok ((expandedToo, nextToo), rest) →
    expanded.sources = expandedToo.sources ∧
      expanded.ineligibleE8s = expandedToo.ineligibleE8s

theorem cachesAgree (world : RewardWorld) (scope : SearchScope) : CachesAgree world scope := by
  intro clients others cache cacheToo credits usage spent expanded expandedToo next nextToo left rest
    answers answersToo reads readsToo one two
  have shares := (expand_traced answers reads one).2.unique (expand_traced answersToo readsToo two).2
  exact ⟨congrArg Prod.fst shares, congrArg Prod.snd shares⟩

/-- Whatever the pages and the histories read before, the search selects the newest eligible batch
of the least cutoff. -/
theorem eligible_batch_selected (world : RewardWorld) (scope : SearchScope)
    (clients others : RewardClients) (usage spent left rest : Usage)
    (cache : SplitterHistoryCache) (answer other : Option EligibleBatch)
    (st final : BatchSearchState) (increasing : scope.cutoffs.Pairwise (· < ·))
    (answers : world.Answers scope.snapshotId clients)
    (answersToo : world.Answers scope.snapshotId others)
    (reads : cache.ReadsFrom world scope.view scope.relay)
    (found : findEligibleBatch clients scope usage = .ok ((answer, st), left))
    (foundToo : findEligibleBatchFrom cache others scope spent = .ok ((other, final), rest)) :
    BatchSelected world scope answer st ∧
      answer.map EligibleBatch.selection = other.map EligibleBatch.selection ∧
      CachesAgree world scope := by
  have selected : BatchSelected world scope answer st :=
    find_selects increasing answers readsFrom_new found
  exact ⟨selected, selected.unique (find_selects increasing answersToo reads foundToo),
    cachesAgree world scope⟩

end Answers

section Samples

/-- An index that returns pages of at most a size, and a resolver that knows every owner. -/
def honestClients (world : RewardWorld) (size : Nat) : RewardClients where
  getTransactions _ account start := .page
    { balance := world.balance account
      transactions := ((world.ledger account).reverse.filter fun entry =>
        start.all fun before => decide (entry.id < before)).take size
      oldestTxId := (world.ledger account).head?.map IndexTransactionWithId.id } (some 100)
  resolve _ _ accounts := .answered (.ok (accounts.map world.owner))

theorem honestClients_answers (world : RewardWorld) (snapshotId : Nat) {size : Nat}
    (positive : 0 < size) : world.Answers snapshotId (honestClients world size) where
  pages := by
    intro calls account start page encodedBytes same
    cases same
    refine ⟨List.take_prefix _ _, ?_, rfl, fun id known => known⟩
    intro nothing
    rcases List.take_eq_nil_iff.mp nothing with zero | none_left
    · omega
    · exact none_left
  owners := by
    intro calls accounts owners same _
    cases same
    rfl

def hexCharacter (digit : Nat) : Char := "0123456789abcdef".toList.getD digit '0'

def sampleText (number : Nat) : String :=
  String.ofList (List.replicate 61 '0' ++ [hexCharacter (number / 256),
    hexCharacter (number / 16 % 16), hexCharacter (number % 16)])

/-- The accounts of the sample are the numbered subaccounts of its relay and, below them, the
accounts of owners with one byte. -/
def sampleIdentifier (account : Account) : AccountIdentifier :=
  match account.subaccount with
  | none => Fin.castLE (by decide) (account.owner.bytes.headD 0).toFin
  | some subaccount => Fin.castLE (by decide) (Fin.natAdd 256 (subaccount.getLastD 0).toFin)

def sampleSearch : SearchScope where
  view := ⟨fun account => sampleText (sampleIdentifier account), some⟩
  identifier := sampleIdentifier
  snapshotId := 1
  relay := ⟨[200]⟩
  faucetAccountIdentifier := "faucet"
  commitmentMemo := [7]
  cutoffs := [10, 20]

def poolPayment (id fromAccount toAccount amount fee : Nat) : IndexTransactionWithId :=
  sampleTransfer id (sampleText fromAccount) (sampleText toAccount) amount fee

def sampleCommitmentOf (id amount fee : Nat) : IndexTransactionWithId :=
  ⟨id, ⟨0, some [7], .transfer "faucet" fee (sampleText 257) amount none, some id⟩⟩

/-- Two commitments; the second was paid through a splitter, and a credit of zero came between. -/
def sampleRewards : List IndexTransactionWithId :=
  [poolPayment 1 10 257 120000000 10, sampleCommitmentOf 2 119999990 10,
    poolPayment 5 11 257 0 10, poolPayment 7 306 257 200000000 10,
    sampleCommitmentOf 8 199999990 10]

def sampleSplitterRewards : List IndexTransactionWithId :=
  [poolPayment 3 10 306 400000020 10, poolPayment 6 306 200 200000000 10,
    poolPayment 7 306 257 200000000 10]

def poolSampleLedger (account : String) : List IndexTransactionWithId :=
  if account = sampleText 257 then sampleRewards
  else if account = sampleText 306 then sampleSplitterRewards
  else []

theorem truthful_of_ids {ledger : List IndexTransactionWithId}
    (ascending : ledger.Pairwise fun older newer => older.id < newer.id)
    (timed : ∀ entry ∈ ledger, entry.transaction.timestampNanos = some entry.id) :
    TruthfulHistory ledger := by
  refine ⟨ascending, ascending.imp_of_mem ?_⟩
  intro older newer olderIn newerIn below first second one two
  rw [timed older olderIn] at one
  rw [timed newer newerIn] at two
  cases one
  cases two
  exact Nat.le_of_lt below

def sampleRewardWorld : RewardWorld where
  ledger := poolSampleLedger
  balance account := (replayBalance account 0 (poolSampleLedger account)).getD 0
  owner account := some ⟨[if account.val < 256 then UInt8.ofNat account.val else 200]⟩
  truthful account := by
    apply truthful_of_ids
    · unfold poolSampleLedger
      split
      · decide
      · split <;> decide
    · unfold poolSampleLedger
      split
      · decide
      · split <;> decide
  settled account := by
    unfold poolSampleLedger
    split
    · rename_i relay
      rw [relay]
      decide +kernel
    · split
      · rename_i splitter
        rw [splitter]
        decide +kernel
      · rfl

def sampleAnswer (size : Nat) :
    Except String ((Option EligibleBatch × BatchSearchState) × Usage) :=
  findEligibleBatch (honestClients sampleRewardWorld size) sampleSearch ⟨0, 0, 0, 0⟩

def countedSources (result : Except String ((Option EligibleBatch × BatchSearchState) × Usage)) :
    Option Nat :=
  match result with
  | .ok ((some found, _), _) => some found.distinctSources
  | _ => none

theorem found_of_counted {result : Except String ((Option EligibleBatch × BatchSearchState) × Usage)}
    {count : Nat} (counted : countedSources result = some count) :
    ∃ found st left, result = .ok ((some found, st), left) ∧ found.distinctSources = count := by
  unfold countedSources at counted
  split at counted
  · rename_i found st left
    cases counted
    exact ⟨found, st, left, rfl, rfl⟩
  · cases counted

theorem sampleAnswer_counts : countedSources (sampleAnswer 2) = some 1 ∧
    countedSources (sampleAnswer 3) = some 2 := by
  decide +kernel

theorem eligible_batch_selected_of_pages : ∃ (found other : EligibleBatch) (st : BatchSearchState),
    found.distinctSources = 1 ∧ other.distinctSources = 2 ∧
      (BatchSelected sampleRewardWorld sampleSearch (some found) st ∧
        (some found).map EligibleBatch.selection = (some other).map EligibleBatch.selection ∧
        CachesAgree sampleRewardWorld sampleSearch) := by
  rcases found_of_counted sampleAnswer_counts.1 with ⟨found, st, left, answer, count⟩
  rcases found_of_counted sampleAnswer_counts.2 with ⟨other, final, rest, answerToo, countToo⟩
  exact ⟨found, other, st, count, countToo,
    eligible_batch_selected sampleRewardWorld sampleSearch (honestClients sampleRewardWorld 2)
      (honestClients sampleRewardWorld 3) ⟨0, 0, 0, 0⟩ ⟨0, 0, 0, 0⟩ left rest .new (some found)
      (some other) st final (by decide) (honestClients_answers _ _ (by decide))
      (honestClients_answers _ _ (by decide)) readsFrom_new answer answerToo⟩

/-- A source that paid nothing is counted when the page reaches back to it. -/
theorem source_count_depends_on_pages : ∃ world scope clients others answer other st final left rest,
    scope.cutoffs.Pairwise (· < ·) ∧ RewardWorld.Answers world scope.snapshotId clients ∧
      RewardWorld.Answers world scope.snapshotId others ∧
      findEligibleBatch clients scope ⟨0, 0, 0, 0⟩ = .ok ((answer, st), left) ∧
      findEligibleBatch others scope ⟨0, 0, 0, 0⟩ = .ok ((other, final), rest) ∧
      answer ≠ other := by
  rcases found_of_counted sampleAnswer_counts.1 with ⟨found, st, left, answer, count⟩
  rcases found_of_counted sampleAnswer_counts.2 with ⟨other, final, rest, answerToo, countToo⟩
  refine ⟨sampleRewardWorld, sampleSearch, honestClients sampleRewardWorld 2,
    honestClients sampleRewardWorld 3, some found, some other, st, final, left, rest, by decide,
    honestClients_answers _ _ (by decide), honestClients_answers _ _ (by decide), answer,
    answerToo, ?_⟩
  intro same
  cases same
  rw [count] at countToo
  cases countToo

end Samples

end JupiterSuite.Relay
