import JupiterSuite.Base.OrderedMap
import JupiterSuite.Relay.RewardHistory
import JupiterSuite.Relay.SplitterPlan
import Mathlib.Data.List.Sort

/-! The accounts that the reward attribution adds amounts for. -/

namespace JupiterSuite.Relay

open Base

/-- Thirty-two bytes, read as one number: the order of the numbers is the order of the bytes. -/
abbrev AccountIdentifier := Fin (2 ^ 256)

abbrev Sources := OrderedMap AccountIdentifier Nat

def hexDigit (c : Char) : Option Nat :=
  if '0' ≤ c ∧ c ≤ '9' then some (c.toNat - '0'.toNat)
  else if 'a' ≤ c ∧ c ≤ 'f' then some (c.toNat - 'a'.toNat + 10)
  else if 'A' ≤ c ∧ c ≤ 'F' then some (c.toNat - 'A'.toNat + 10)
  else none

def decodeAccountIdentifier (text : String) : Option AccountIdentifier :=
  if text.toList.length ≠ 64 then none
  else
    (text.toList.foldlM (fun value c => (hexDigit c).map (value * 16 + ·)) 0).map (Fin.ofNat _)

def addChecked (target amount : Nat) : Except String Nat :=
  if target + amount ≤ u64Max then .ok (target + amount) else .error "contribution_overflow"

def addSource (sources : Sources) (source : AccountIdentifier) (amount : Nat) :
    Except String Sources := do
  let _ ← addChecked (sources.amount source) amount
  .ok (sources.add source amount)

theorem addChecked_eq_ok {target amount sum : Nat} (added : addChecked target amount = .ok sum) :
    sum = target + amount ∧ target + amount ≤ u64Max := by
  unfold addChecked at added
  split at added
  · rename_i fits
    cases added
    exact ⟨rfl, fits⟩
  · cases added

/-! Which credits of the reward account every commitment to the faucet was paid from: the account
is replayed from a balance of zero, and a commitment takes whole credits, the oldest first. -/

structure SplitterFundingCredit where
  splitterNumber : Nat
  txId : Nat
  amountE8s : Nat
  deriving DecidableEq, Repr

inductive FundingOrigin where
  | external (source : AccountIdentifier)
  | splitter (splitterNumber : Nat)
  | mintOrInvalid
  deriving DecidableEq, Repr

structure FundingCredit where
  txId : Nat
  origin : FundingOrigin
  amountE8s : Nat
  deriving DecidableEq, Repr

structure ContributionBatch where
  commitmentTxId : Nat
  timestampNanos : Nat
  sources : Sources
  splitterCredits : List SplitterFundingCredit
  ineligibleE8s : Nat
  deriving DecidableEq, Repr

/-- What `reconstruct_batches` is told about the relay. -/
structure AttributionScope where
  relayAccountIdentifier : String
  faucetAccountIdentifier : String
  commitmentMemo : List UInt8
  intrinsicSplitters : OrderedMap AccountIdentifier Nat

/-- What a transaction is to the reward account. -/
inductive RewardEntry where
  | commitment (grossE8s : Nat)
  | funding (origin : FundingOrigin) (amountE8s : Nat)
  | other
  deriving DecidableEq, Repr

structure Attribution where
  funding : List FundingCredit
  batches : List ContributionBatch
  deriving DecidableEq, Repr

namespace AttributionScope

def fundingOrigin (scope : AttributionScope) (fromAccount : String) : FundingOrigin :=
  match decodeAccountIdentifier fromAccount with
  | none => .mintOrInvalid
  | some source =>
      match scope.intrinsicSplitters.lookup source with
      | some splitterNumber => .splitter splitterNumber
      | none => .external source

def classify (scope : AttributionScope) (transaction : IndexTransaction) :
    Except String RewardEntry :=
  match transaction.operation with
  | .transfer toAccount fee fromAccount amount spender =>
      if fromAccount = scope.relayAccountIdentifier then
        if ¬ (spender.isNone ∧ toAccount = scope.faucetAccountIdentifier ∧
            transaction.icrc1Memo = some scope.commitmentMemo ∧
            minRawIcpRecipientAmountE8s ≤ amount) then
          .error "unexpected_subaccount_debit"
        else if u64Max < amount + fee then .error "commitment_reconciliation_failed"
        else .ok (.commitment (amount + fee))
      else if toAccount = scope.relayAccountIdentifier then
        .ok (.funding (scope.fundingOrigin fromAccount) amount)
      else .ok .other
  | .mint toAccount amount =>
      if toAccount = scope.relayAccountIdentifier then .ok (.funding .mintOrInvalid amount)
      else .ok .other
  | .burn fromAccount _ =>
      if fromAccount = scope.relayAccountIdentifier then .error "unexpected_subaccount_debit"
      else .ok .other
  | .approve fee fromAccount =>
      if fromAccount = scope.relayAccountIdentifier ∧ 0 < fee then
        .error "unexpected_subaccount_debit"
      else .ok .other

end AttributionScope

namespace ContributionBatch

def take (batch : ContributionBatch) (credit : FundingCredit) :
    Except String ContributionBatch :=
  match credit.origin with
  | .external source => do
      let sources ← addSource batch.sources source credit.amountE8s
      .ok { batch with sources }
  | .splitter splitterNumber => .ok
      { batch with
        splitterCredits :=
          batch.splitterCredits ++ [⟨splitterNumber, credit.txId, credit.amountE8s⟩] }
  | .mintOrInvalid => do
      let ineligibleE8s ← addChecked batch.ineligibleE8s credit.amountE8s
      .ok { batch with ineligibleE8s }

end ContributionBatch

def consumeFunding : Usage → Nat → List FundingCredit → ContributionBatch →
    Except String ((List FundingCredit × ContributionBatch) × Usage)
  | usage, 0, funding, batch => .ok ((funding, batch), usage)
  | usage, _ + 1, [], _ => do
      let _ ← usage.spendWork 1
      .error "commitment_reconciliation_failed"
  | usage, remaining + 1, credit :: funding, batch => do
      let usage ← usage.spendWork 1
      if remaining + 1 < credit.amountE8s then .error "commitment_reconciliation_failed"
      else
        let batch ← batch.take credit
        consumeFunding usage (remaining + 1 - credit.amountE8s) funding batch

def attributeEntry (scope : AttributionScope) (cutoffNanos : Nat) (attribution : Attribution)
    (usage : Usage) (entry : IndexTransactionWithId) : Except String (Attribution × Usage) := do
  let usage ← usage.spendWork 1
  match entry.transaction.timestampNanos with
  | none => .error "history_timestamp_missing"
  | some timestamp =>
      if cutoffNanos ≤ timestamp then .ok (attribution, usage)
      else do
        match ← scope.classify entry.transaction with
        | .commitment gross => do
            let ((funding, batch), usage) ← consumeFunding usage gross attribution.funding
              ⟨entry.id, timestamp, .empty, [], 0⟩
            .ok (⟨funding, attribution.batches ++ [batch]⟩, usage)
        | .funding origin amount =>
            .ok ({ attribution with
              funding := attribution.funding ++ [⟨entry.id, origin, amount⟩] }, usage)
        | .other => .ok (attribution, usage)

def attributeEntries (scope : AttributionScope) (cutoffNanos : Nat) :
    Attribution → Usage → List IndexTransactionWithId → Except String (Attribution × Usage)
  | attribution, usage, [] => .ok (attribution, usage)
  | attribution, usage, entry :: rest => do
      let (attribution, usage) ← attributeEntry scope cutoffNanos attribution usage entry
      attributeEntries scope cutoffNanos attribution usage rest

def chronological (transactions : List IndexTransactionWithId) : List IndexTransactionWithId :=
  transactions.insertionSort fun first second => first.id ≤ second.id

def sortWork (count : Nat) : Nat := count * (1 + Nat.log2 (max count 1))

/-- The batches of a complete history, with what is used of the budget by then. -/
def reconstructBatchesBounded (scope : AttributionScope)
    (transactions : List IndexTransactionWithId) (historyAuthoritative : Bool)
    (cutoffNanos : Nat) (usage : Usage) :
    HistoricalReconstruction (List ContributionBatch × Usage) :=
  match usage.spendWork (sortWork transactions.length) with
  | .error error => .malformed error
  | .ok usage =>
      if !historyAuthoritative then .needOlderHistory
      else
        match attributeEntries scope cutoffNanos ⟨[], []⟩ usage (chronological transactions) with
        | .error error => .malformed error
        | .ok (attribution, usage) => .complete (attribution.batches, usage)

end JupiterSuite.Relay
