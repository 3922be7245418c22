import JupiterSuite.Base.Fifo
import JupiterSuite.Clients.Ledger
import JupiterSuite.Relay.RewardBudget
import Mathlib.Data.List.Sort
import Mathlib.Data.List.Dedup

/-! The cutoffs of the reward pot: the timestamps of the credits that are not spent yet, from a
backwards read of the reward token account that stops at the latest balance of zero. -/

namespace JupiterSuite.Relay

open Base

def rewardHistoryPageSize : Nat := 1000

structure IcrcMint where
  amount : Nat
  toAccount : Account
  fee : Option Nat
  deriving DecidableEq, Repr

structure IcrcTransfer where
  amount : Nat
  fromAccount : Account
  toAccount : Account
  spender : Option Account
  fee : Option Nat
  deriving DecidableEq, Repr

structure IcrcAuthorizedMint where
  amount : Nat
  toAccount : Account
  deriving DecidableEq, Repr

/-- A transaction as the ICRC index reports it; of the kinds that are never accepted, only the
debited account is read. -/
structure IcrcTransaction where
  kind : String
  mint : Option IcrcMint
  burn : Option Account
  transfer : Option IcrcTransfer
  approve : Option Account
  feeCollector : Bool
  authorizedMint : Option IcrcAuthorizedMint
  authorizedBurn : Option Account
  timestamp : Nat
  deriving DecidableEq, Repr

structure IcrcTransactionWithId where
  id : Nat
  transaction : IcrcTransaction
  deriving DecidableEq, Repr

structure GetAccountTransactionsResponse where
  balance : Nat
  transactions : List IcrcTransactionWithId
  oldestTxId : Option Nat
  deriving DecidableEq, Repr

/-- The names that the ledger types give to the kinds of transactions. -/
structure TransactionKinds where
  mint : String
  transfer : String
  authorizedMint : String

def IcrcTransaction.populated (transaction : IcrcTransaction) : Nat :=
  transaction.mint.isSome.toNat + transaction.burn.isSome.toNat +
    transaction.transfer.isSome.toNat + transaction.approve.isSome.toNat +
    transaction.feeCollector.toNat + transaction.authorizedMint.isSome.toNat +
    transaction.authorizedBurn.isSome.toNat

def rewardHistoryMalformed : String := "reward_history_malformed"

def rewardHistoryNotCaughtUp : String := "reward_history_not_caught_up"

variable (kinds : TransactionKinds)

def transactionEffect (transaction : IcrcTransaction) (account : Account) :
    Except String (Movement Nat) :=
  if transaction.populated ≠ 1 then .error rewardHistoryMalformed
  else
    match transaction.mint, transaction.transfer, transaction.authorizedMint with
    | some mint, _, _ =>
        if transaction.kind ≠ kinds.mint ∨ mint.toAccount ≠ account ∨
            mint.amount < mint.fee.getD 0 then
          .error rewardHistoryMalformed
        else .ok (.credit ⟨transaction.timestamp, mint.amount - mint.fee.getD 0⟩)
    | none, some transfer, _ =>
        if transaction.kind ≠ kinds.transfer then .error rewardHistoryMalformed
        else if decide (transfer.fromAccount = account) = decide (transfer.toAccount = account) then
          .error rewardHistoryMalformed
        else if transfer.toAccount = account then
          .ok (.credit ⟨transaction.timestamp, transfer.amount⟩)
        else if transfer.spender.isSome then .error rewardHistoryMalformed
        else
          match transfer.fee with
          | none => .error rewardHistoryMalformed
          | some fee => .ok (.debit (transfer.amount + fee))
    | none, none, some mint =>
        if transaction.kind ≠ kinds.authorizedMint ∨ mint.toAccount ≠ account then
          .error rewardHistoryMalformed
        else .ok (.credit ⟨transaction.timestamp, mint.amount⟩)
    | none, none, none => .error rewardHistoryMalformed

structure BackwardRewardHistory where
  account : Account
  liveBalance : Nat
  balanceAfter : Nat
  nextStart : Option Nat
  seenStarts : List Nat
  previousTxId : Option Nat
  transactions : List IcrcTransactionWithId
  boundaryFound : Bool
  exhausted : Bool
  deriving DecidableEq, Repr

namespace BackwardRewardHistory

def new (account : Account) (liveBalance : Nat) : BackwardRewardHistory where
  account
  liveBalance
  balanceAfter := liveBalance
  nextStart := none
  seenStarts := []
  previousTxId := none
  transactions := []
  boundaryFound := false
  exhausted := false

def checkPage (requestedStart : Option Nat) :
    Option Nat → Usage → List IcrcTransactionWithId → Except String Usage
  | _, usage, [] => .ok usage
  | previous, usage, entry :: rest => do
      let usage ← usage.spendWork 1
      if u64Max < entry.id then .error rewardHistoryMalformed
      else if requestedStart.any (fun start => decide (start ≤ entry.id)) ||
          previous.any (fun previous => decide (previous ≤ entry.id)) then
        .error "reward_history_pagination_non_progressing"
      else checkPage requestedStart (some entry.id) usage rest

def invert (balanceAfter : Nat) : Movement Nat → Except String Nat
  | .credit credit =>
      if balanceAfter < credit.amount then .error rewardHistoryMalformed
      else .ok (balanceAfter - credit.amount)
  | .debit amount => .ok (balanceAfter + amount)

def unwindPage : BackwardRewardHistory → Usage → List IcrcTransactionWithId →
    Except String (BackwardRewardHistory × Usage)
  | history, usage, [] => .ok (history, usage)
  | history, usage, entry :: rest => do
      let usage ← usage.spendWork 1
      let effect ← transactionEffect kinds entry.transaction history.account
      let balanceBefore ← invert history.balanceAfter effect
      let history :=
        { history with
          balanceAfter := balanceBefore
          previousTxId := some entry.id
          transactions := history.transactions ++ [entry] }
      if balanceBefore = 0 then .ok ({ history with boundaryFound := true }, usage)
      else unwindPage history usage rest

def finishPage (history : BackwardRewardHistory) (requestedStart oldestTxId : Option Nat)
    (oldestInPage : Nat) : Except String BackwardRewardHistory :=
  if oldestTxId = some oldestInPage then .error rewardHistoryNotCaughtUp
  else if requestedStart = some oldestInPage ∨ oldestInPage ∈ history.seenStarts then
    .error "reward_history_pagination_non_progressing"
  else .ok
    { history with
      seenStarts := oldestInPage :: history.seenStarts
      nextStart := some oldestInPage }

def extendPage (history : BackwardRewardHistory) (usage : Usage)
    (page : GetAccountTransactionsResponse) : Except String (BackwardRewardHistory × Usage) :=
  if page.balance ≠ history.liveBalance then .error rewardHistoryNotCaughtUp
  else
    match page.transactions.getLast? with
    | none =>
        if history.balanceAfter = 0 then .ok ({ history with exhausted := true }, usage)
        else .error rewardHistoryNotCaughtUp
    | some oldest => do
        let usage ← checkPage history.nextStart history.previousTxId usage page.transactions
        if page.oldestTxId.any (fun id => decide (u64Max < id)) then .error rewardHistoryMalformed
        else if page.oldestTxId.any (fun id => decide (oldest.id < id)) then
          .error "reward_history_pagination_inconsistent_oldest"
        else do
          let (history, usage) ← history.unwindPage kinds usage page.transactions
          if history.boundaryFound then .ok (history, usage)
          else do
            let history ← history.finishPage history.nextStart page.oldestTxId oldest.id
            .ok (history, usage)

def extend (history : BackwardRewardHistory) (usage : Usage)
    (reply : Fetched GetAccountTransactionsResponse) :
    Except String (BackwardRewardHistory × Usage) :=
  if history.boundaryFound || history.exhausted then .ok (history, usage)
  else do
    let usage ← usage.charge 1 0 0 0
    match reply with
    | .stale => .error rewardAttemptExpiredOrStale
    | .failed => .error "reward_index_unavailable"
    | .page page encodedBytes =>
        if rewardHistoryPageSize < page.transactions.length then
          .error "reward_history_oversized_page"
        else
          match encodedBytes with
          | none => .error "reward_history_encoding_failed"
          | some bytes => do
              let usage ← usage.retain page.transactions.length bytes
              history.extendPage kinds usage page

/-- The inner loop of a debit, one unit of work for each credit it looks at. -/
def spendCredits : Usage → Nat → List (Credit Nat) → Except String (List (Credit Nat) × Usage)
  | usage, 0, credits => .ok (credits, usage)
  | usage, _ + 1, [] => do
      let _ ← usage.spendWork 1
      .error rewardHistoryMalformed
  | usage, remaining + 1, front :: credits => do
      let usage ← usage.spendWork 1
      if front.amount ≤ remaining + 1 then
        spendCredits usage (remaining + 1 - front.amount) credits
      else .ok ({ front with amount := front.amount - (remaining + 1) } :: credits, usage)

/-- The forward replay; the transactions are given oldest first. -/
def replayCredits (account : Account) : Usage → List (Credit Nat) →
    List IcrcTransactionWithId → Except String (List (Credit Nat) × Usage)
  | usage, credits, [] => .ok (credits, usage)
  | usage, credits, entry :: rest => do
      let usage ← usage.spendWork 1
      let effect ← transactionEffect kinds entry.transaction account
      match effect with
      | .credit credit =>
          replayCredits account usage
            (if credit.amount = 0 then credits else credits ++ [credit]) rest
      | .debit amount => do
          let (credits, usage) ← spendCredits usage amount credits
          replayCredits account usage credits rest

def sortedCutoffs (credits : List (Credit Nat)) : List Nat :=
  ((credits.map Credit.tag).insertionSort (· ≤ ·)).dedup

def cutoffs (history : BackwardRewardHistory) (usage : Usage) :
    Except String (List Nat × Usage) :=
  if !history.boundaryFound && !history.exhausted then .error rewardHistoryNotCaughtUp
  else do
    let (credits, usage) ← replayCredits kinds history.account usage [] history.transactions.reverse
    if Fifo.total credits ≠ history.liveBalance then .error rewardHistoryNotCaughtUp
    else if credits.isEmpty then .error rewardHistoryNotCaughtUp
    else do
      let usage ← usage.spendWork (credits.length * (1 + Nat.log2 credits.length))
      .ok (sortedCutoffs credits, usage)

/-- The loop of `reward_pot_cutoffs_bounded`, on what the index answers to every start. -/
def scanCutoffs (index : Option Nat → Fetched GetAccountTransactionsResponse) :
    Nat → BackwardRewardHistory → Usage → Option (Except String (List Nat × Usage))
  | 0, _, _ => none
  | fuel + 1, history, usage =>
      if history.boundaryFound || history.exhausted then some (history.cutoffs kinds usage)
      else
        match history.extend kinds usage (index history.nextStart) with
        | .error error => some (.error error)
        | .ok (history, usage) => scanCutoffs index fuel history usage

end BackwardRewardHistory

def rewardPotCutoffsBounded (index : Option Nat → Fetched GetAccountTransactionsResponse)
    (account : Account) (liveBalance fuel : Nat) (usage : Usage) :
    Option (Except String (List Nat × Usage)) :=
  BackwardRewardHistory.scanCutoffs kinds index fuel
    (BackwardRewardHistory.new account liveBalance) usage

end JupiterSuite.Relay
