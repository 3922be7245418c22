import JupiterSuite.Relay.OwnerResolution
import JupiterSuite.Relay.RewardHistorySound

/-! The choice of the commitment that a reward pot is paid out for: the account of the relay is read
backwards, every batch is examined once, and the splitter accounts are read as far as a batch needs
them. -/

namespace JupiterSuite.Relay

open Base

def usizeMax : Nat := 2 ^ 32 - 1

def addCount (count more : Nat) (overflow : String) : Except String Nat :=
  if count + more ≤ usizeMax then .ok (count + more) else .error overflow

def BackwardHistory.request (history : BackwardHistory) (clients : RewardClients) (usage : Usage) :
    Fetched GetAccountIdentifierTransactionsResponse :=
  clients.getTransactions usage.calls history.accountIdentifier history.nextStart

namespace ProvenanceScope

variable (clients : RewardClients) (scope : ProvenanceScope)

def replayUsage (transactions : List IndexTransactionWithId)
    (requiredCredits : List SplitterFundingCredit) (historyAuthoritative : Bool) (usage : Usage) :
    Usage :=
  match usage.spendWork (sortWork transactions.length + requiredCredits.length) with
  | .error _ => usage
  | .ok sorted =>
      if !historyAuthoritative then sorted
      else
        match scope.requiredAnchors .empty sorted requiredCredits with
        | .error _ => sorted
        | .ok (required, anchored) =>
            match required.entries.getLast? with
            | none => anchored
            | some (lastAnchor, _) =>
                match scope.replayEntries lastAnchor ⟨[], none, required, {}⟩ anchored
                    (chronological transactions) with
                | .error _ => anchored
                | .ok (_, left) => left

def extendHistory (history : BackwardHistory) (usage : Usage) :
    Except String (BackwardHistory × Usage) :=
  match history.extend usage (history.request clients usage) with
  | .error errorClass => scope.fail none errorClass
  | .ok extended => .ok extended

def openHistory (history : BackwardHistory) (usage : Usage) :
    Except String (BackwardHistory × Usage) :=
  if history.transactions.isEmpty && !history.exhausted then
    scope.extendHistory clients history usage
  else .ok (history, usage)

/-- The loop over a splitter's history. Every round but the last makes a call, so that more rounds
than the budget has calls are never taken. -/
def replayHistory (requiredCredits : List SplitterFundingCredit) :
    Nat → BackwardHistory → Usage →
      Except String ((ExpandedSplitterProvenance × BackwardHistory) × Usage)
  | 0, _, _ => .error rewardWorkBudgetExhausted
  | rounds + 1, history, usage => do
      let (history, usage) ← scope.openHistory clients history usage
      match reconstructSplitterHistoryBounded scope history.authoritativeTransactions
          requiredCredits history.authoritative usage with
      | .complete (provenance, usage) => .ok ((provenance, history), usage)
      | .needOlderHistory =>
          if history.exhausted then
            scope.fail (requiredCredits.head?.map SplitterFundingCredit.txId)
              "history_exhausted_before_provenance"
          else do
            let (history, usage) ← scope.extendHistory clients history
              (scope.replayUsage history.authoritativeTransactions requiredCredits
                history.authoritative usage)
            replayHistory requiredCredits rounds history usage
      | .malformed error => .error error

end ProvenanceScope

structure SplitterHistoryCache where
  histories : OrderedMap Nat BackwardHistory
  countedSplitters : List Nat
  deriving DecidableEq

/-- The numbers of the splitters that credits came from, in ascending order. -/
def referencedSplitters (credits : List SplitterFundingCredit) : List Nat :=
  (credits.foldl (fun numbers credit => numbers.insert credit.splitterNumber ())
    (.empty : OrderedMap Nat Unit)).keys

def creditsFrom (splitterNumber : Nat) (credits : List SplitterFundingCredit) :
    List SplitterFundingCredit :=
  credits.filter fun credit => credit.splitterNumber == splitterNumber

namespace SplitterHistoryCache

variable (clients : RewardClients) (view : IndexView) (relayId : Principal)
  (credits : List SplitterFundingCredit)

def new : SplitterHistoryCache := ⟨.empty, []⟩

def history (cache : SplitterHistoryCache) (splitterNumber : Nat) : BackwardHistory :=
  (cache.histories.lookup splitterNumber).getD
    (.new (provenanceScope view relayId splitterNumber).splitterAccount)

def expandSplitter (cache : SplitterHistoryCache) (expanded : ExpandedSplitterProvenance)
    (splitterNumber : Nat) (usage : Usage) :
    Except String ((ExpandedSplitterProvenance × SplitterHistoryCache) × Usage) := do
  let usage ← usage.spendWork 1
  let ((one, history), usage) ←
    (provenanceScope view relayId splitterNumber).replayHistory clients
      (creditsFrom splitterNumber credits) (maxCalls + 1)
      (cache.history view relayId splitterNumber) usage
  let scannedTransactions ← addCount expanded.scannedTransactions
    (history.transactions.length -
      (cache.history view relayId splitterNumber).transactions.length)
    "splitter_history_count_overflow"
  let (sources, ineligibleE8s) ← mergeAttribution expanded.sources expanded.ineligibleE8s one
  .ok
    (({ sources
        ineligibleE8s
        scannedTransactions
        splittersScanned := expanded.splittersScanned +
          if splitterNumber ∈ cache.countedSplitters then 0 else 1 },
      { histories := cache.histories.insert splitterNumber history
        countedSplitters := splitterNumber :: cache.countedSplitters }), usage)

def expandAll : SplitterHistoryCache → ExpandedSplitterProvenance → Usage → List Nat →
    Except String ((ExpandedSplitterProvenance × SplitterHistoryCache) × Usage)
  | cache, expanded, usage, [] => .ok ((expanded, cache), usage)
  | cache, expanded, usage, splitterNumber :: rest => do
      let ((expanded, cache), usage) ←
        cache.expandSplitter clients view relayId credits expanded splitterNumber usage
      expandAll cache expanded usage rest

def expand (cache : SplitterHistoryCache) (usage : Usage) :
    Except String ((ExpandedSplitterProvenance × SplitterHistoryCache) × Usage) := do
  let usage ← usage.spendWork credits.length
  if (referencedSplitters credits).any fun number => (splitterPercentage number).isNone then
    .error "splitter_provenance_invalid_splitter"
  else expandAll clients view relayId credits cache {} usage (referencedSplitters credits)

end SplitterHistoryCache

structure EligibleBatch where
  commitmentTxId : Nat
  cutoff : Nat
  eligible : OrderedMap Principal Nat
  ineligibleE8s : Nat
  ownerMismatchCount : Nat
  distinctSources : Nat
  deriving DecidableEq

structure SearchScope where
  view : IndexView
  identifier : Account → AccountIdentifier
  snapshotId : Nat
  relay : Principal
  faucetAccountIdentifier : String
  commitmentMemo : List UInt8
  cutoffs : List Nat

def intrinsicSplitterAccounts (identifier : Account → AccountIdentifier) (relay : Principal) :
    OrderedMap AccountIdentifier Nat :=
  splitterPercentages.foldl
    (fun accounts number => accounts.insert (identifier (splitterAccount relay number)) number)
    .empty

def SearchScope.attribution (scope : SearchScope) : AttributionScope where
  relayAccountIdentifier := scope.view.text (relaySubaccountOneAccount scope.relay)
  faucetAccountIdentifier := scope.faucetAccountIdentifier
  commitmentMemo := scope.commitmentMemo
  intrinsicSplitters := intrinsicSplitterAccounts scope.identifier scope.relay

def nextCutoff (cutoffs : List Nat) (timestampNanos : Nat) : Option Nat :=
  (cutoffs.dropWhile fun cutoff => decide (cutoff ≤ timestampNanos)).head?

structure BatchSearchState where
  history : BackwardHistory
  orphanSearch : Bool
  best : Option EligibleBatch
  examinedCommitments : List Nat
  splitterCache : SplitterHistoryCache
  splitterTransactionsScanned : Nat
  scannedTransactions : Nat
  splittersScanned : Nat
  deriving DecidableEq

namespace BatchSearchState

variable (clients : RewardClients) (scope : SearchScope)

def new : BatchSearchState where
  history := .new scope.attribution.relayAccountIdentifier
  orphanSearch := false
  best := none
  examinedCommitments := []
  splitterCache := .new
  splitterTransactionsScanned := 0
  scannedTransactions := 0
  splittersScanned := 0

/-- The sources of a batch, traced through the splitters and classified by their owners, and how
many sources there are. -/
def classifyBatch (st : BatchSearchState) (batch : ContributionBatch) (usage : Usage) :
    Except String ((BatchSearchState × ClassifiedSources × Nat) × Usage) := do
  let ((expanded, splitterCache), usage) ←
    st.splitterCache.expand clients scope.view scope.relay batch.splitterCredits usage
  let splitterTransactionsScanned ← addCount st.splitterTransactionsScanned
    expanded.scannedTransactions "history_count_overflow"
  let scannedTransactions ← addCount st.scannedTransactions expanded.scannedTransactions
    "history_count_overflow"
  let splittersScanned ← addCount st.splittersScanned expanded.splittersScanned
    "splitter_count_overflow"
  let usage ← usage.spendWork
    ((batch.sources.entries.length + expanded.sources.entries.length) * 8)
  let (sources, ineligibleE8s) ← mergeAttribution batch.sources batch.ineligibleE8s expanded
  let (owners, usage) ← resolveAccountsBounded clients scope.snapshotId sources usage
  let classified ← classifySources scope.identifier sources ineligibleE8s owners
  .ok (({ st with
      splitterCache, splitterTransactionsScanned, scannedTransactions, splittersScanned },
    classified, sources.entries.length), usage)

/-- One turn of the pass over the batches, with the candidate that is returned at once. -/
def examine (firstCutoff : Nat) (st : BatchSearchState) (batch : ContributionBatch)
    (usage : Usage) : Except String ((BatchSearchState × Option EligibleBatch) × Usage) := do
  let usage ← usage.spendWork 1
  if batch.commitmentTxId ∈ st.examinedCommitments then .ok ((st, none), usage)
  else do
    let st :=
      { st with examinedCommitments := batch.commitmentTxId :: st.examinedCommitments }
    let usage ← usage.spendWork (1 + Nat.log2 scope.cutoffs.length)
    match nextCutoff scope.cutoffs batch.timestampNanos with
    | none => .ok ((st, none), usage)
    | some candidateCutoff =>
        if st.best.any fun candidate => decide (candidate.cutoff ≤ candidateCutoff) then
          .ok ((st, none), usage)
        else do
          let ((st, classified, distinctSources), usage) ←
            st.classifyBatch clients scope batch usage
          if classified.eligible.entries.isEmpty then .ok ((st, none), usage)
          else
            let candidate : EligibleBatch :=
              { commitmentTxId := batch.commitmentTxId
                cutoff := candidateCutoff
                eligible := classified.eligible
                ineligibleE8s := classified.ineligibleE8s
                ownerMismatchCount := classified.ownerMismatchCount
                distinctSources }
            if candidateCutoff = firstCutoff then .ok ((st, some candidate), usage)
            else .ok (({ st with best := some candidate }, none), usage)

def examineAll (firstCutoff : Nat) : BatchSearchState → Usage → List ContributionBatch →
    Except String ((BatchSearchState × Option EligibleBatch) × Usage)
  | st, usage, [] => .ok ((st, none), usage)
  | st, usage, batch :: rest => do
      let ((st, found), usage) ← st.examine clients scope firstCutoff batch usage
      match found with
      | some candidate => .ok ((st, some candidate), usage)
      | none => examineAll firstCutoff st usage rest

def openHistory (st : BatchSearchState) (usage : Usage) :
    Except String (BatchSearchState × Usage) :=
  if st.history.transactions.isEmpty && !st.history.exhausted then do
    let (history, usage) ← st.history.extend usage (st.history.request clients usage)
    .ok ({ st with history, scannedTransactions := history.transactions.length }, usage)
  else .ok (st, usage)

def readOlder (st : BatchSearchState) (usage : Usage) :
    Except String (BatchSearchState × Usage) := do
  let (history, usage) ← st.history.extend usage (st.history.request clients usage)
  let scannedTransactions ← addCount history.transactions.length st.splitterTransactionsScanned
    "history_count_overflow"
  .ok ({ st with history, scannedTransactions }, usage)

/-- The loop of the search; what it returns is with the state it ends in. Every round but the last
makes a call or begins the search for orphans. -/
def search (firstCutoff lastCutoff : Nat) : Nat → BatchSearchState → Usage →
    Except String ((Option EligibleBatch × BatchSearchState) × Usage)
  | 0, _, _ => .error rewardWorkBudgetExhausted
  | rounds + 1, st, usage => do
      let usage ← usage.spendWork 1
      let (st, usage) ← st.openHistory clients usage
      match reconstructBatchesBounded scope.attribution st.history.authoritativeTransactions
          st.history.authoritative (if st.orphanSearch then lastCutoff else firstCutoff) usage with
      | .malformed error => .error error
      | .needOlderHistory =>
          if st.history.exhausted then .error "commitment_reconciliation_failed"
          else do
            let usage ← usage.spendWork (sortWork st.history.authoritativeTransactions.length)
            let (st, usage) ← st.readOlder clients usage
            search firstCutoff lastCutoff rounds st usage
      | .complete (batches, usage) => do
          let ((st, found), usage) ←
            st.examineAll clients scope firstCutoff usage batches.reverse
          match found with
          | some candidate => .ok ((some candidate, st), usage)
          | none =>
              if st.history.exhausted then
                if !st.orphanSearch && decide (firstCutoff < lastCutoff) then
                  search firstCutoff lastCutoff rounds { st with orphanSearch := true } usage
                else .ok ((st.best, st), usage)
              else do
                let (st, usage) ← st.readOlder clients usage
                search firstCutoff lastCutoff rounds st usage

end BatchSearchState

def findEligibleBatch (clients : RewardClients) (scope : SearchScope) (usage : Usage) :
    Except String ((Option EligibleBatch × BatchSearchState) × Usage) :=
  match scope.cutoffs.head?, scope.cutoffs.getLast? with
  | some firstCutoff, some lastCutoff =>
      BatchSearchState.search clients scope firstCutoff lastCutoff (maxCalls + 2)
        (.new scope) usage
  | _, _ => .error "reward_history_not_caught_up"

end JupiterSuite.Relay
