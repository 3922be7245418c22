import JupiterSuite.Clients.Ledger
import JupiterSuite.Relay.RewardBudget

/-! A backwards read of an account's history: the balance is unwound from the live balance, and a
suffix that opens with a balance of zero is authoritative. -/

namespace JupiterSuite.Relay

open Base

def icpHistoryPageSize : Nat := 1000

inductive HistoricalReconstruction (α : Type*) where
  | complete (value : α)
  | needOlderHistory
  | malformed (error : String)
  deriving DecidableEq, Repr

structure BackwardHistory where
  accountIdentifier : String
  nextStart : Option Nat
  seenStarts : List Nat
  transactions : List IndexTransactionWithId
  previousTxId : Option Nat
  currentBalanceE8s : Option Nat
  balanceBeforeOldestE8s : Option Nat
  authoritativeLen : Nat
  exhausted : Bool
  deriving DecidableEq, Repr

def addE8s (balanceAfter value : Nat) : Except String Nat :=
  if balanceAfter + value ≤ u64Max then .ok (balanceAfter + value)
  else .error "history_balance_overflow"

def subtractE8s (balanceAfter value : Nat) : Except String Nat :=
  if value ≤ balanceAfter then .ok (balanceAfter - value)
  else .error "history_balance_underflow"

def invertAccountTransaction (account : String) (balanceAfter : Nat)
    (entry : IndexTransactionWithId) : Except String Nat :=
  match entry.transaction.operation with
  | .transfer toAccount fee fromAccount amount _ =>
      match decide (fromAccount = account), decide (toAccount = account) with
      | true, true => addE8s balanceAfter fee
      | true, false =>
          if amount + fee ≤ u64Max then addE8s balanceAfter (amount + fee)
          else .error "history_balance_overflow"
      | false, true => subtractE8s balanceAfter amount
      | false, false => .ok balanceAfter
  | .mint toAccount amount =>
      if toAccount = account then subtractE8s balanceAfter amount else .ok balanceAfter
  | .burn fromAccount amount =>
      if fromAccount = account then addE8s balanceAfter amount else .ok balanceAfter
  | .approve fee fromAccount =>
      if fromAccount = account then addE8s balanceAfter fee else .ok balanceAfter

namespace BackwardHistory

def new (accountIdentifier : String) : BackwardHistory where
  accountIdentifier
  nextStart := none
  seenStarts := []
  transactions := []
  previousTxId := none
  currentBalanceE8s := none
  balanceBeforeOldestE8s := none
  authoritativeLen := 0
  exhausted := false

def authoritativeTransactions (history : BackwardHistory) : List IndexTransactionWithId :=
  history.transactions.take history.authoritativeLen

def authoritative (history : BackwardHistory) : Bool :=
  decide (0 < history.authoritativeLen) || (history.exhausted && history.transactions.isEmpty)

def requireZeroOpeningBalance (history : BackwardHistory) : Except String BackwardHistory :=
  if history.balanceBeforeOldestE8s = some 0 then
    .ok { history with exhausted := true, authoritativeLen := history.transactions.length }
  else .error "history_nonzero_opening_balance"

/-- The first page fixes the live balance; the later ones must report the same. -/
def checkBalance (history : BackwardHistory) (balance : Nat) : Except String BackwardHistory :=
  match history.currentBalanceE8s with
  | some current =>
      if current = balance then .ok history
      else .error "history_balance_changed_during_pagination"
  | none => .ok
      { history with currentBalanceE8s := some balance, balanceBeforeOldestE8s := some balance }

def retainTransaction (history : BackwardHistory) (balanceBefore : Nat)
    (entry : IndexTransactionWithId) : BackwardHistory :=
  { history with
    previousTxId := some entry.id
    balanceBeforeOldestE8s := some balanceBefore
    transactions := history.transactions ++ [entry]
    authoritativeLen :=
      if balanceBefore = 0 then history.transactions.length + 1 else history.authoritativeLen }

/-- The transactions of a page, newest first. The balance is set by then. -/
def retainPage (requestedStart : Option Nat) :
    BackwardHistory → Usage → List IndexTransactionWithId →
      Except String (BackwardHistory × Usage)
  | history, usage, [] => .ok (history, usage)
  | history, usage, entry :: rest => do
      let usage ← usage.spendWork 1
      if requestedStart.any (fun start => decide (start ≤ entry.id)) ||
          history.previousTxId.any (fun previous => decide (previous ≤ entry.id)) then
        .error "history_pagination_non_progressing"
      else
        let balanceBefore ← invertAccountTransaction history.accountIdentifier
          (history.balanceBeforeOldestE8s.getD 0) entry
        retainPage requestedStart (history.retainTransaction balanceBefore entry) usage rest

/-- After a page: its oldest transaction is the account's first, or where the next page starts. -/
def finishPage (history : BackwardHistory) (requestedStart oldestTxId : Option Nat)
    (oldestInPage : Nat) : Except String BackwardHistory :=
  if oldestTxId.any (fun oldest => decide (oldestInPage < oldest)) then
    .error "history_pagination_inconsistent_oldest"
  else if oldestTxId = some oldestInPage then history.requireZeroOpeningBalance
  else if requestedStart = some oldestInPage ∨ oldestInPage ∈ history.seenStarts then
    .error "history_pagination_non_progressing"
  else .ok
    { history with
      seenStarts := oldestInPage :: history.seenStarts
      nextStart := some oldestInPage }

def extendPage (history : BackwardHistory) (usage : Usage)
    (page : GetAccountIdentifierTransactionsResponse) :
    Except String (BackwardHistory × Usage) := do
  let history ← history.checkBalance page.balance
  match page.transactions.getLast? with
  | none => do
      let history ← history.requireZeroOpeningBalance
      .ok (history, usage)
  | some oldest => do
      let (history, usage) ← retainPage history.nextStart history usage page.transactions
      let history ← history.finishPage history.nextStart page.oldestTxId oldest.id
      .ok (history, usage)

def extend (history : BackwardHistory) (usage : Usage)
    (reply : Fetched GetAccountIdentifierTransactionsResponse) :
    Except String (BackwardHistory × Usage) :=
  if history.exhausted then .ok (history, usage)
  else do
    let usage ← usage.charge 1 0 0 0
    match reply with
    | .stale => .error rewardAttemptExpiredOrStale
    | .failed => .error "history_read_failed"
    | .page page encodedBytes =>
        if icpHistoryPageSize < page.transactions.length then .error "history_oversized_page"
        else
          match encodedBytes with
          | none => .error "history_encoding_failed"
          | some bytes => do
              let usage ← usage.retain page.transactions.length bytes
              history.extendPage usage page

def extendAll : BackwardHistory → Usage →
    List (Fetched GetAccountIdentifierTransactionsResponse) →
      Except String (BackwardHistory × Usage)
  | history, usage, [] => .ok (history, usage)
  | history, usage, reply :: replies => do
      let (history, usage) ← history.extend usage reply
      history.extendAll usage replies

end BackwardHistory
end JupiterSuite.Relay
