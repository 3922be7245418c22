import JupiterSuite.Relay.RewardBatches

/-! Whose deposits a splitter's payments to subaccount one were made of: the splitter account is
replayed from a balance of zero, and every pair of legs uses up whole deposits, the oldest first. -/

namespace JupiterSuite.Relay

open Base

structure ExpandedSplitterProvenance where
  sources : Sources := .empty
  ineligibleE8s : Nat := 0
  scannedTransactions : Nat := 0
  splittersScanned : Nat := 0
  deriving DecidableEq, Repr

structure UpstreamCredit where
  txId : Nat
  source : Option AccountIdentifier
  amountE8s : Nat
  deriving DecidableEq, Repr

structure OutgoingLeg where
  txId : Nat
  amountE8s : Nat
  feeE8s : Nat
  fundingCreditsAtPin : Nat
  deriving DecidableEq, Repr

/-- The second pass of `proportional_allocations`: the share of every credit is the step that the
rounded share of the prefix takes. -/
def allocateCredits (balance subaccountOneAmountE8s : Nat) :
    Nat → Nat → List Nat → Except String (List Nat)
  | _, previousFloor, [] =>
      if previousFloor = subaccountOneAmountE8s then .ok []
      else .error "splitter_allocation_not_conserved"
  | priorPrefix, previousFloor, credit :: rest =>
      if u64Max < priorPrefix + credit then .error "splitter_allocation_overflow"
      else
        let floor := (priorPrefix + credit) * subaccountOneAmountE8s / balance
        if u64Max < floor then .error "splitter_allocation_overflow"
        else if floor < previousFloor then .error "splitter_allocation_underflow"
        else if credit < floor - previousFloor then .error "splitter_allocation_exceeds_credit"
        else do
          let allocations ←
            allocateCredits balance subaccountOneAmountE8s (priorPrefix + credit) floor rest
          .ok ((floor - previousFloor) :: allocations)

def proportionalAllocations (credits : List Nat) (subaccountOneAmountE8s : Nat) :
    Except String (List Nat) :=
  if u64Max < credits.sum then .error "splitter_allocation_overflow"
  else if credits.sum = 0 ∨ credits.sum < subaccountOneAmountE8s then
    .error "splitter_allocation_invalid_total"
  else allocateCredits credits.sum subaccountOneAmountE8s 0 0 credits

def provenanceError (splitter : Nat) (txId : Option Nat) (errorClass : String) : String :=
  "splitter_provenance_failed:splitter=" ++ toString splitter ++ ":tx=" ++
    (match txId with
      | some value => toString value
      | none => "null") ++ ":class=" ++ errorClass

def incomingCredit (splitterAccount : String) (entry : IndexTransactionWithId) :
    Option UpstreamCredit :=
  match entry.transaction.operation with
  | .transfer toAccount _ fromAccount amount _ =>
      if toAccount = splitterAccount ∧ fromAccount ≠ splitterAccount then
        some ⟨entry.id, decodeAccountIdentifier fromAccount, amount⟩
      else none
  | .mint toAccount amount =>
      if toAccount = splitterAccount then some ⟨entry.id, none, amount⟩ else none
  | _ => none

/-- Takes whole credits for a balance, at most as many as were there when it was pinned. -/
def takeJobCredits : Usage → Nat → Nat → List UpstreamCredit →
    Except String ((List UpstreamCredit × List UpstreamCredit) × Usage)
  | usage, 0, _, funding => .ok (([], funding), usage)
  | usage, _ + 1, 0, _ => do
      let _ ← usage.spendWork 1
      .error "missing_funding_credit"
  | usage, _ + 1, _ + 1, [] => do
      let _ ← usage.spendWork 1
      .error "missing_funding_credit"
  | usage, remaining + 1, atPin + 1, credit :: funding => do
      let usage ← usage.spendWork 1
      if remaining + 1 < credit.amountE8s then .error "funding_credit_exceeds_pinned_remainder"
      else
        let ((consumed, funding), usage) ←
          takeJobCredits usage (remaining + 1 - credit.amountE8s) atPin funding
        .ok ((credit :: consumed, funding), usage)

def attributeAllocation (result : ExpandedSplitterProvenance) (credit : UpstreamCredit)
    (allocated : Nat) : Except String ExpandedSplitterProvenance :=
  if allocated = 0 then .ok result
  else
    match credit.source with
    | some source => do
        let sources ← addSource result.sources source allocated
        .ok { result with sources }
    | none => do
        let ineligibleE8s ← addChecked result.ineligibleE8s allocated
        .ok { result with ineligibleE8s }

def attributeAllocations : ExpandedSplitterProvenance → List (UpstreamCredit × Nat) →
    Except String ExpandedSplitterProvenance
  | result, [] => .ok result
  | result, (credit, allocated) :: rest => do
      let result ← attributeAllocation result credit allocated
      attributeAllocations result rest

def consumeJobFunding (balanceE8s subaccountOneAmountE8s fundingCreditsAtPin : Nat)
    (funding : List UpstreamCredit) (target : ExpandedSplitterProvenance) (usage : Usage) :
    Except String ((List UpstreamCredit × ExpandedSplitterProvenance) × Usage) := do
  let ((consumed, funding), usage) ← takeJobCredits usage balanceE8s fundingCreditsAtPin funding
  match proportionalAllocations (consumed.map UpstreamCredit.amountE8s) subaccountOneAmountE8s with
  | .error _ => .error "splitter_allocation_failed"
  | .ok allocations => do
      let target ← attributeAllocations target (consumed.zip allocations)
      .ok ((funding, target), usage)

structure ProvenanceScope where
  splitterNumber : Nat
  splitterAccount : String
  defaultAccount : String
  subaccountOne : String

structure ProvenanceReplay where
  funding : List UpstreamCredit
  pendingDefault : Option OutgoingLeg
  required : OrderedMap Nat Nat
  result : ExpandedSplitterProvenance
  deriving DecidableEq, Repr

namespace ProvenanceScope

def fail {α : Type} (scope : ProvenanceScope) (txId : Option Nat) (errorClass : String) :
    Except String α :=
  .error (provenanceError scope.splitterNumber txId errorClass)

def pairBalance (scope : ProvenanceScope) (first leg : OutgoingLeg) : Except String Nat :=
  match checkedAdd u64Max first.amountE8s first.feeE8s with
  | none => scope.fail (some first.txId) "default_gross_overflow"
  | some defaultGross =>
      match checkedAdd u64Max leg.amountE8s leg.feeE8s with
      | none => scope.fail (some leg.txId) "subaccount_one_gross_overflow"
      | some subaccountOneGross =>
          match checkedAdd u64Max defaultGross subaccountOneGross with
          | none => scope.fail (some leg.txId) "pinned_balance_overflow"
          | some balance =>
              let expectedDefault := balance * scope.splitterNumber / 100 % 2 ^ 64
              if defaultGross ≠ expectedDefault ∨
                  subaccountOneGross ≠ balance - expectedDefault then
                scope.fail (some leg.txId) "split_percentage_mismatch"
              else .ok balance

/-- A leg to subaccount one completes the pending leg to the default account. -/
def settlePair (scope : ProvenanceScope) (replay : ProvenanceReplay) (usage : Usage)
    (leg : OutgoingLeg) : Except String (ProvenanceReplay × Usage) :=
  match replay.pendingDefault with
  | none => scope.fail (some leg.txId) "subaccount_one_leg_without_default"
  | some first =>
      if (replay.required.lookup leg.txId).any fun expected => expected ≠ leg.amountE8s then
        scope.fail (some leg.txId) "subaccount_one_anchor_amount_mismatch"
      else if leg.txId ≤ first.txId ∨ first.amountE8s = 0 ∨ leg.amountE8s = 0 then
        scope.fail (some leg.txId) "invalid_splitter_leg_pair"
      else do
        let balance ← scope.pairBalance first leg
        let unselected := (replay.required.lookup leg.txId).isNone
        let target := if unselected then {} else replay.result
        match consumeJobFunding balance leg.amountE8s first.fundingCreditsAtPin replay.funding
            target usage with
        | .error errorClass => scope.fail (some leg.txId) errorClass
        | .ok ((funding, target), usage) =>
            .ok
              (if unselected then { replay with funding, pendingDefault := none }
              else
                { funding
                  pendingDefault := none
                  required := replay.required.erase leg.txId
                  result := target }, usage)

def replayOperation (scope : ProvenanceScope) (replay : ProvenanceReplay) (usage : Usage)
    (entry : IndexTransactionWithId) : Except String (ProvenanceReplay × Usage) :=
  let incoming :=
    { replay with
      funding := replay.funding ++ (incomingCredit scope.splitterAccount entry).toList }
  match entry.transaction.operation with
  | .transfer toAccount fee fromAccount amount spender =>
      if fromAccount = scope.splitterAccount then
        if spender.isSome then scope.fail (some entry.id) "unsupported_delegated_debit"
        else if entry.transaction.memo ≠ 0 ∨ entry.transaction.icrc1Memo.isSome then
          scope.fail (some entry.id) "unsupported_outgoing_memo"
        else
          let leg : OutgoingLeg := ⟨entry.id, amount, fee, replay.funding.length⟩
          if toAccount = scope.defaultAccount then
            if replay.pendingDefault.isSome then
              scope.fail (some entry.id) "default_leg_while_pair_incomplete"
            else .ok ({ replay with pendingDefault := some leg }, usage)
          else if toAccount = scope.subaccountOne then scope.settlePair replay usage leg
          else scope.fail (some entry.id) "unexpected_transfer_destination"
      else .ok (incoming, usage)
  | .burn fromAccount _ =>
      if fromAccount = scope.splitterAccount then
        scope.fail (some entry.id) "unsupported_burn_debit"
      else .ok (incoming, usage)
  | .approve fee fromAccount =>
      if fromAccount = scope.splitterAccount ∧ 0 < fee then
        scope.fail (some entry.id) "unsupported_approve_fee_debit"
      else .ok (incoming, usage)
  | .mint _ _ => .ok (incoming, usage)

def replayEntry (scope : ProvenanceScope) (lastAnchor : Nat) (replay : ProvenanceReplay)
    (usage : Usage) (entry : IndexTransactionWithId) :
    Except String (ProvenanceReplay × Usage) := do
  let usage ← usage.spendWork 1
  if lastAnchor < entry.id then .ok (replay, usage)
  else scope.replayOperation replay usage entry

def replayEntries (scope : ProvenanceScope) (lastAnchor : Nat) :
    ProvenanceReplay → Usage → List IndexTransactionWithId →
      Except String (ProvenanceReplay × Usage)
  | replay, usage, [] => .ok (replay, usage)
  | replay, usage, entry :: rest => do
      let (replay, usage) ← scope.replayEntry lastAnchor replay usage entry
      scope.replayEntries lastAnchor replay usage rest

def requiredAnchors (scope : ProvenanceScope) :
    OrderedMap Nat Nat → Usage → List SplitterFundingCredit →
      Except String (OrderedMap Nat Nat × Usage)
  | required, usage, [] => .ok (required, usage)
  | required, usage, credit :: rest => do
      let usage ← usage.spendWork 1
      if (required.lookup credit.txId).isSome then
        scope.fail (some credit.txId) "duplicate_subaccount_one_anchor"
      else requiredAnchors scope (required.insert credit.txId credit.amountE8s) usage rest

/-- What is left after the replay: no open pair, and no anchor that was not found. -/
def finishReplay (scope : ProvenanceScope) (transactions : List IndexTransactionWithId)
    (replay : ProvenanceReplay) (usage : Usage) :
    HistoricalReconstruction (ExpandedSplitterProvenance × Usage) :=
  match replay.pendingDefault with
  | some first => .malformed
      (provenanceError scope.splitterNumber (some first.txId) "incomplete_splitter_pair")
  | none =>
      match replay.required.entries.head? with
      | none => .complete (replay.result, usage)
      | some (missing, _) =>
          if (transactions.map IndexTransactionWithId.id).min?.any
              (fun oldest => decide (missing < oldest)) then
            .needOlderHistory
          else .malformed
            (provenanceError scope.splitterNumber (some missing) "subaccount_one_anchor_not_found")

end ProvenanceScope

def reconstructSplitterHistoryBounded (scope : ProvenanceScope)
    (transactions : List IndexTransactionWithId) (requiredCredits : List SplitterFundingCredit)
    (historyAuthoritative : Bool) (usage : Usage) :
    HistoricalReconstruction (ExpandedSplitterProvenance × Usage) :=
  match usage.spendWork (sortWork transactions.length + requiredCredits.length) with
  | .error error => .malformed error
  | .ok usage =>
      if !historyAuthoritative then .needOlderHistory
      else if (splitterPercentage scope.splitterNumber).isNone ||
          requiredCredits.any (fun credit => credit.splitterNumber != scope.splitterNumber) then
        .malformed (provenanceError scope.splitterNumber none "invalid_splitter_number")
      else
        match scope.requiredAnchors .empty usage requiredCredits with
        | .error error => .malformed error
        | .ok (required, usage) =>
            match required.entries.getLast? with
            | none => .complete ({}, usage)
            | some (lastAnchor, _) =>
                match scope.replayEntries lastAnchor ⟨[], none, required, {}⟩ usage
                    (chronological transactions) with
                | .error error => .malformed error
                | .ok (replay, usage) => scope.finishReplay transactions replay usage

end JupiterSuite.Relay
