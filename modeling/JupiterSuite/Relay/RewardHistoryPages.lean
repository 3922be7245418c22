import JupiterSuite.Relay.EligibleBatches
import JupiterSuite.Relay.RewardBatchesSuffix

/-! Histories that are read from an index that tells the truth, however it cuts them into pages:
what is retained is the newest part of the account's transactions. -/

namespace JupiterSuite.Relay

open Base

/-- A page of an account's transactions: the newest ones before the start, as many as the index
chooses to return, but not none while there are any. -/
structure TruthfulHistoryPage (ledger : List IndexTransactionWithId) (balance : Nat) (start : Option Nat)
    (page : GetAccountIdentifierTransactionsResponse) : Prop where
  newest : page.transactions <+:
    ledger.reverse.filter fun entry => start.all fun before => decide (entry.id < before)
  nonempty : page.transactions = [] →
    (ledger.reverse.filter fun entry => start.all fun before => decide (entry.id < before)) = []
  balance : page.balance = balance
  oldest : ∀ id, page.oldestTxId = some id → (ledger.head?.map IndexTransactionWithId.id) = some id

/-- The transactions of every account, oldest first, and the owners of the accounts. -/
structure RewardWorld where
  ledger : String → List IndexTransactionWithId
  balance : String → Nat
  owner : AccountIdentifier → Option Principal
  truthful : ∀ account, TruthfulHistory (ledger account)
  settled : ∀ account, replayBalance account 0 (ledger account) = some (balance account)

/-- Whatever the clients answer is true of the world; a call may as well fail. -/
structure RewardWorld.Answers (world : RewardWorld) (snapshotId : Nat) (clients : RewardClients) :
    Prop where
  pages : ∀ calls account start page encodedBytes,
    clients.getTransactions calls account start = .page page encodedBytes →
      TruthfulHistoryPage (world.ledger account) (world.balance account) start page
  owners : ∀ calls accounts owners,
    clients.resolve calls snapshotId accounts = .answered (.ok owners) →
      owners.length = accounts.length → owners = accounts.map world.owner

structure ReadFrom (world : RewardWorld) (account : String) (history : BackwardHistory) : Prop where
  identifier : history.accountIdentifier = account
  scanned : Scanned account history
  newest : history.transactions <+: (world.ledger account).reverse
  next : history.exhausted = false →
    history.nextStart = history.transactions.getLast?.map IndexTransactionWithId.id
  current : ∀ live, history.currentBalanceE8s = some live → live = world.balance account
  whole : history.exhausted = true → history.transactions = (world.ledger account).reverse

variable {entries newest : List IndexTransactionWithId}

section Reads

variable {world : RewardWorld} {account : String} {history result : BackwardHistory}
  {usage left : Usage}

theorem readFrom_new : ReadFrom world account (.new account) where
  identifier := rfl
  scanned := .inl rfl
  newest := List.nil_prefix
  next _ := rfl
  current := nofun
  whole := nofun

/-- The fields that a page leaves alone, and the transactions that it adds. -/
structure Retains (requestedStart : Option Nat) (history result : BackwardHistory)
    (page : List IndexTransactionWithId) : Prop where
  account : result.accountIdentifier = history.accountIdentifier
  current : result.currentBalanceE8s = history.currentBalanceE8s
  exhausted : result.exhausted = history.exhausted
  transactions : result.transactions = history.transactions ++ page

theorem retains_retainPage {requestedStart : Option Nat} {page : List IndexTransactionWithId}
    (retained : BackwardHistory.retainPage requestedStart history usage page =
      .ok (result, left)) : Retains requestedStart history result page := by
  induction page generalizing history usage with
  | nil =>
      cases retained
      exact ⟨rfl, rfl, rfl, (List.append_nil _).symm⟩
  | cons entry page ih =>
      simp only [BackwardHistory.retainPage] at retained
      rcases bind_eq_ok.mp retained with ⟨_, _, retained⟩
      split at retained
      · cases retained
      · rcases bind_eq_ok.mp retained with ⟨before, _, retained⟩
        have rest := ih retained
        refine ⟨rest.account, rest.current, rest.exhausted, ?_⟩
        rw [rest.transactions]
        simp only [BackwardHistory.retainTransaction, List.append_assoc, List.singleton_append]

theorem checkBalance_cases {balance : Nat}
    (checked : history.checkBalance balance = .ok result) :
    result = { history with
      currentBalanceE8s := result.currentBalanceE8s
      balanceBeforeOldestE8s := result.balanceBeforeOldestE8s } ∧
      result.currentBalanceE8s = some balance := by
  unfold BackwardHistory.checkBalance at checked
  split at checked
  · rename_i current known
    split at checked
    · rename_i same
      cases checked
      exact ⟨rfl, known.trans (congrArg some same)⟩
    · cases checked
  · cases checked
    exact ⟨rfl, rfl⟩

theorem requireZero_cases (required : history.requireZeroOpeningBalance = .ok result) :
    result = { history with exhausted := true, authoritativeLen := history.transactions.length } := by
  unfold BackwardHistory.requireZeroOpeningBalance at required
  split at required
  · cases required
    rfl
  · cases required

theorem filter_below_last {rest : List IndexTransactionWithId} {last : IndexTransactionWithId}
    (cut : entries = newest ++ rest)
    (descending : entries.Pairwise fun newer older => older.id < newer.id)
    (ends : newest.getLast? = some last) :
    (entries.filter fun entry => decide (entry.id < last.id)) = rest := by
  subst cut
  rcases List.pairwise_append.mp descending with ⟨front, _, apart⟩
  have lastIn : last ∈ newest := List.mem_of_getLast? ends
  rw [List.filter_append]
  have none_newer : (newest.filter fun entry => decide (entry.id < last.id)) = [] := by
    apply List.filter_eq_nil_iff.mpr
    intro entry member
    rw [decide_eq_true_eq, Nat.not_lt]
    rcases List.eq_nil_or_concat newest with rfl | ⟨init, final, rfl⟩
    · cases member
    · rw [List.concat_eq_append] at member ends front
      rw [List.getLast?_append, List.getLast?_singleton, Option.some_or] at ends
      cases ends
      rcases List.mem_append.mp member with old | same
      · exact Nat.le_of_lt ((List.pairwise_append.mp front).2.2 entry old last
          List.mem_cons_self)
      · rw [List.mem_singleton.mp same]
  have all_rest : (rest.filter fun entry => decide (entry.id < last.id)) = rest := by
    apply List.filter_eq_self.mpr
    intro entry member
    exact decide_eq_true (apart last lastIn entry member)
  rw [none_newer, all_rest, List.nil_append]

theorem ReadFrom.rest (read : ReadFrom world account history) (unread : history.exhausted = false) :
    (world.ledger account).reverse = history.transactions ++
      (world.ledger account).reverse.filter fun entry =>
        history.nextStart.all fun before => decide (entry.id < before) := by
  rcases read.newest with ⟨older, cut⟩
  have descending : (world.ledger account).reverse.Pairwise
      fun newer older => older.id < newer.id :=
    List.pairwise_reverse.mpr (world.truthful account).ascending
  cases ends : history.transactions.getLast? with
  | none =>
      rw [read.next unread, ends, List.getLast?_eq_none_iff.mp ends]
      simp
  | some last =>
      rw [read.next unread, ends, Option.map_some]
      simp only [Option.all_some]
      rw [filter_below_last cut.symm descending ends, cut]

theorem prefix_append {page older : List IndexTransactionWithId} (cut : entries = newest ++ older)
    (next : page <+: older) : newest ++ page <+: entries := by
  rw [cut]
  exact (List.prefix_append_right_inj newest).mpr next

theorem whole_of_first {last : IndexTransactionWithId}
    (ascending : entries.Pairwise fun one two => one.id < two.id)
    (part : newest <+: entries.reverse) (ends : newest.getLast? = some last)
    (first : entries.head?.map IndexTransactionWithId.id = some last.id) :
    newest = entries.reverse := by
  rcases part with ⟨older, cut⟩
  cases older with
  | nil => rw [← cut, List.append_nil]
  | cons next older =>
      have lastIn : last ∈ newest := List.mem_of_getLast? ends
      rcases Option.map_eq_some_iff.mp first with ⟨head, headed, same⟩
      have descending : entries.reverse.Pairwise fun newer older => older.id < newer.id :=
        List.pairwise_reverse.mpr ascending
      rw [← cut] at descending
      have above := (List.pairwise_append.mp descending).2.2 last lastIn
      have headIn : head ∈ newest ++ next :: older := by
        rw [cut, List.mem_reverse]
        exact List.mem_of_head? headed
      have final : (newest ++ next :: older).getLast? = some head := by
        rw [cut, List.getLast?_reverse]
        exact headed
      rw [List.getLast?_append, List.getLast?_cons] at final
      have tail : head ∈ next :: older := by
        have found : (next :: older).getLast? = some head := by
          rw [List.getLast?_cons]
          simpa using final
        exact List.mem_of_getLast? found
      have below := above head tail
      omega

theorem ReadFrom.extend {reply : Fetched GetAccountIdentifierTransactionsResponse}
    (read : ReadFrom world account history)
    (honest : ∀ page encodedBytes, reply = .page page encodedBytes →
      TruthfulHistoryPage (world.ledger account) (world.balance account) history.nextStart page)
    (extended : history.extend usage reply = .ok (result, left)) :
    ReadFrom world account result := by
  have scanned := (extend_spec read.scanned extended).1
  have ascending := (world.truthful account).ascending
  unfold BackwardHistory.extend at extended
  split at extended
  · cases extended
    exact read
  · rename_i unread
    rw [Bool.not_eq_true] at unread
    have rest := read.rest unread
    rcases bind_eq_ok.mp extended with ⟨_, _, extended⟩
    cases reply with
    | stale => cases extended
    | failed => cases extended
    | page page encodedBytes =>
        have page_of := honest page encodedBytes rfl
        dsimp only at extended
        split at extended
        · cases extended
        · split at extended
          · cases extended
          · rcases bind_eq_ok.mp extended with ⟨_, _, extended⟩
            simp only [BackwardHistory.extendPage] at extended
            rcases bind_eq_ok.mp extended with ⟨checked, balanced, extended⟩
            rcases checkBalance_cases balanced with ⟨same, current⟩
            have known : ∀ live, checked.currentBalanceE8s = some live →
                live = world.balance account := by
              intro live found
              cases current.symm.trans found
              exact page_of.balance
            split at extended
            · rename_i none_left
              rcases bind_eq_ok.mp extended with ⟨final, required, done⟩
              cases done
              have ended := requireZero_cases required
              have nothing := page_of.nonempty (List.getLast?_eq_none_iff.mp none_left)
              rw [nothing, List.append_nil] at rest
              have transactions : result.transactions = history.transactions := by
                rw [ended, same]
              refine ⟨?_, scanned, ?_, ?_, ?_, ?_⟩
              · rw [ended, same]
                exact read.identifier
              · rw [transactions]
                exact read.newest
              · rw [ended]
                exact fun impossible => by cases impossible
              · rw [ended]
                exact known
              · intro _
                rw [transactions, rest]
            · rename_i oldest last
              rcases bind_eq_ok.mp extended with ⟨⟨retained, _⟩, kept, extended⟩
              rcases bind_eq_ok.mp extended with ⟨final, finished, done⟩
              cases done
              have retains := retains_retainPage kept
              have transactions : retained.transactions =
                  history.transactions ++ page.transactions := by
                rw [retains.transactions, same]
              have newest : retained.transactions <+: (world.ledger account).reverse := by
                rw [transactions]
                exact prefix_append rest page_of.newest
              have ends : retained.transactions.getLast? = some oldest := by
                rw [transactions, List.getLast?_append, last, Option.some_or]
              have owner : retained.accountIdentifier = account := by
                rw [retains.account, same]
                exact read.identifier
              simp only [BackwardHistory.finishPage] at finished
              split at finished
              · cases finished
              · split at finished
                · rename_i first
                  have ended := requireZero_cases finished
                  have whole := whole_of_first ascending newest ends
                    (page_of.oldest oldest.id first)
                  refine ⟨?_, scanned, ?_, ?_, ?_, ?_⟩
                  · rw [ended]
                    exact owner
                  · rw [ended]
                    exact newest
                  · rw [ended]
                    exact fun impossible => by cases impossible
                  · rw [ended]
                    intro live found
                    exact known live (retains.current.symm.trans found)
                  · intro _
                    rw [ended]
                    exact whole
                · split at finished
                  · cases finished
                  · cases finished
                    refine ⟨owner, scanned, newest, ?_, ?_, ?_⟩
                    · intro _
                      dsimp only
                      rw [ends, Option.map_some]
                    · intro live found
                      exact known live (retains.current.symm.trans found)
                    · intro ended
                      have still : retained.exhausted = false := by
                        rw [retains.exhausted, same]
                        exact unread
                      rw [show retained.exhausted = true from ended] at still
                      cases still

theorem ReadFrom.boundary (read : ReadFrom world account history)
    (authoritative : history.authoritative = true) :
    ∃ older, world.ledger account = older ++ history.authoritativeTransactions.reverse ∧
      replayBalance account 0 older = some 0 := by
  rcases read.newest with ⟨unseen, cut⟩
  have parts : world.ledger account = unseen.reverse ++ history.transactions.reverse := by
    rw [← List.reverse_append, cut, List.reverse_reverse]
  simp only [BackwardHistory.authoritative, Bool.or_eq_true, decide_eq_true_eq, Bool.and_eq_true,
    List.isEmpty_iff] at authoritative
  rcases read.scanned with rfl | ⟨owner, live, opening, unwound, ended⟩
  · rcases authoritative with impossible | ⟨impossible, _⟩
    · cases impossible
    · cases impossible
  · rcases authoritative with positive | ⟨exhausted, empty⟩
    · have current := read.current live unwound.current
      have settled := world.settled account
      rcases unwound.boundary positive with ⟨boundary, _⟩
      have replayed := unwound.replayed
      rw [owner] at boundary replayed
      rw [parts, replayBalance_append] at settled
      rcases Option.bind_eq_some_iff.mp settled with ⟨middle, old, recent⟩
      rw [← current] at recent
      cases replayBalance_injective recent replayed
      refine ⟨unseen.reverse ++ (history.transactions.drop history.authoritativeLen).reverse,
        ?_, ?_⟩
      · have halves : history.transactions.reverse =
            (history.transactions.drop history.authoritativeLen).reverse ++
              history.authoritativeTransactions.reverse := by
          rw [← List.reverse_append, BackwardHistory.authoritativeTransactions,
            List.take_append_drop]
        rw [parts, halves, List.append_assoc]
      · rw [replayBalance_append, old]
        exact boundary
    · have none_at_all : world.ledger account = [] := by
        rw [← List.reverse_eq_nil_iff, ← read.whole exhausted, empty]
      refine ⟨[], ?_, rfl⟩
      rw [none_at_all, BackwardHistory.authoritativeTransactions, empty, List.take_nil]
      rfl

theorem ReadFrom.exhausted_whole (read : ReadFrom world account history)
    (exhausted : history.exhausted = true) :
    history.authoritativeTransactions.reverse = world.ledger account := by
  rcases read.scanned with rfl | ⟨_, _, _, _, ended⟩
  · cases exhausted
  · rw [BackwardHistory.authoritativeTransactions, (ended exhausted).2, List.take_length,
      read.whole exhausted, List.reverse_reverse]

theorem ReadFrom.request {snapshotId : Nat} {clients : RewardClients} {charged : Usage}
    (read : ReadFrom world account history) (answers : world.Answers snapshotId clients)
    (extended : history.extend usage (history.request clients charged) = .ok (result, left)) :
    ReadFrom world account result := by
  apply read.extend _ extended
  intro page encodedBytes found
  rw [BackwardHistory.request, read.identifier] at found
  exact answers.pages _ _ _ _ _ found

end Reads

end JupiterSuite.Relay
