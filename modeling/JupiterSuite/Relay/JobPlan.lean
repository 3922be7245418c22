import JupiterSuite.Base.Shares
import JupiterSuite.Relay.SplitterPlan
import Mathlib.Data.List.Sort

/-! The allocation of the default account's balance to top-ups and surplus transfers. -/

namespace JupiterSuite.Relay

open Base

def topupHeadroomNumerator : Nat := 101

def topupHeadroomDenominator : Nat := 100

def conversionEstimateMaxAgeNanos : Nat := 14 * 24 * 60 * 60 * nanosPerSecond

def bootstrapCyclesPerE8 : Nat := 100000

structure ConversionEstimate where
  cyclesPerE8 : Nat
  timestampNanos : Nat
  deriving DecidableEq, Repr

/-- A map keyed by canister, as far as it is read by key. -/
abbrev CycleMap := Principal → Option Nat

structure BurnPlan where
  canisterId : Principal
  previousCycles : Option Nat
  currentCycles : Nat
  relayMintedCycles : Nat
  burnCycles : Nat
  carriedDeficitCycles : Nat
  targetTopupCycles : Nat
  grossShareE8s : Nat
  amountE8s : Nat
  actualMintedCycles : Nat
  remainingDeficitCycles : Nat
  skippedReason : Option String
  deriving DecidableEq, Repr

structure AllocationPlan where
  topups : List BurnPlan
  topupPhaseFullyFunded : Bool
  skippedSurplusReason : Option String
  deriving DecidableEq, Repr

def ceilDiv (numerator denominator : Nat) : Nat :=
  if numerator = 0 then 0 else satAdd u128Max numerator (denominator - 1) / denominator

def satMul (limit a b : Nat) : Nat := min (a * b) limit

def computeBurn (previous relayMintedCycles current : Nat) : Nat :=
  satAdd u128Max previous relayMintedCycles - current

def targetTopupCycles (burnCycles : Nat) : Nat :=
  ceilDiv (satMul u128Max burnCycles topupHeadroomNumerator) topupHeadroomDenominator

def topupNetE8s (targetCycles : Nat) (estimate : ConversionEstimate) : Nat :=
  if targetCycles = 0 ∨ estimate.cyclesPerE8 = 0 then 0
  else min (ceilDiv targetCycles estimate.cyclesPerE8) u64Max

def conversionEstimateIsUsable (nowNanos : Nat) (estimate : ConversionEstimate) : Bool :=
  decide (0 < estimate.cyclesPerE8) &&
    decide (nowNanos - estimate.timestampNanos ≤ conversionEstimateMaxAgeNanos)

def burnPlan (previous relayMinted recoveryDeficits : CycleMap) (useHeadroomTarget : Bool)
    (current : Principal × Nat) : BurnPlan :=
  let canisterId := current.1
  let currentCycles := current.2
  let previousCycles := previous canisterId
  let relayMintedCycles := (relayMinted canisterId).getD 0
  let burnCycles := (previousCycles.map fun previous =>
    computeBurn previous relayMintedCycles currentCycles).getD 0
  let carriedDeficitCycles := (recoveryDeficits canisterId).getD 0
  let newBurnTargetCycles := if useHeadroomTarget then targetTopupCycles burnCycles else burnCycles
  { canisterId
    previousCycles
    currentCycles
    relayMintedCycles
    burnCycles
    carriedDeficitCycles
    targetTopupCycles := satAdd u128Max carriedDeficitCycles newBurnTargetCycles
    grossShareE8s := 0
    amountE8s := 0
    actualMintedCycles := 0
    remainingDeficitCycles := satAdd u128Max carriedDeficitCycles newBurnTargetCycles
    skippedReason := none }

/-- What the burn plans are read from. -/
structure CycleSamples where
  current : List (Principal × Nat)
  previous : CycleMap
  relayMinted : CycleMap
  recoveryDeficits : CycleMap

def burnPlans (samples : CycleSamples) (useHeadroomTarget : Bool) : List BurnPlan :=
  samples.current.map
    (burnPlan samples.previous samples.relayMinted samples.recoveryDeficits useHeadroomTarget)

def BurnPlan.skip (plan : BurnPlan) (reason : String) : BurnPlan :=
  { plan with skippedReason := some reason }

def BurnPlan.skipIfUnset (plan : BurnPlan) (reason : String) : BurnPlan :=
  if plan.skippedReason = none then plan.skip reason else plan

def BurnPlan.pay (plan : BurnPlan) (grossShareE8s feeE8s : Nat) : BurnPlan :=
  { plan with grossShareE8s, amountE8s := grossShareE8s - feeE8s }

def desiredGross (feeE8s : Nat) (estimate : ConversionEstimate) (plan : BurnPlan) :
    BurnPlan × Nat :=
  let net := topupNetE8s plan.targetTopupCycles estimate
  if net = 0 then
    (if plan.targetTopupCycles = 0 then plan.skip "zero_burn" else plan, 0)
  else
    let gross := satAdd u64Max net feeE8s
    if gross ≤ feeE8s then (plan.skip "gross_share_does_not_exceed_fee", 0) else (plan, gross)

/-- Allocations while the rest of the balance is handed out one e8 at a time. -/
structure Distribution where
  shares : List Nat
  used : Nat
  advanced : Bool
  deriving DecidableEq, Repr

def Distribution.advance (desired : List Nat) (available : Nat) (acc : Distribution)
    (index : Nat) : Distribution :=
  if available ≤ acc.used then acc
  else if acc.shares.getD index 0 < desired.getD index 0 then
    { shares := acc.shares.set index (satAdd u64Max (acc.shares.getD index 0) 1)
      used := satAdd u64Max acc.used 1
      advanced := true }
  else acc

def Distribution.pass (desired : List Nat) (available : Nat) (order : List Nat)
    (acc : Distribution) : Distribution :=
  order.foldl (Distribution.advance desired available) { acc with advanced := false }

/-- The `while` loop; every pass but the last uses up at least one e8. -/
def distribute (desired : List Nat) (available : Nat) (order : List Nat) :
    Nat → Distribution → Distribution
  | 0, acc => acc
  | passes + 1, acc =>
      if acc.used < available then
        let next := acc.pass desired available order
        if next.advanced then distribute desired available order passes next else next
      else acc

def largestRemainderFirst (a b : Nat × Nat) : Prop := b.2 < a.2 ∨ (a.2 = b.2 ∧ a.1 ≤ b.1)

instance : DecidableRel largestRemainderFirst := fun a b =>
  inferInstanceAs (Decidable (b.2 < a.2 ∨ (a.2 = b.2 ∧ a.1 ≤ b.1)))

def floorShare (total available gross : Nat) : Nat :=
  min (satMul u128Max available gross / total) gross

def floorRemainder (total available gross : Nat) : Nat :=
  if gross = 0 then 0 else satMul u128Max available gross % total

def proportionalTopupGrossAllocations (desired : List Nat) (total available : Nat) : List Nat :=
  let shares := desired.map (floorShare total available)
  let used := satSum u64Max shares
  let remainders := desired.map (floorRemainder total available)
  let order := ((List.range desired.length).zip remainders).insertionSort largestRemainderFirst
  (distribute desired available (order.map Prod.fst) (available - used)
    ⟨shares, used, false⟩).shares

def allocateProportionally (feeE8s : Nat) (plan : BurnPlan) (gross : Nat) : BurnPlan :=
  if feeE8s < gross then plan.pay gross feeE8s
  else plan.skipIfUnset "gross_share_does_not_exceed_fee"

def allocateInFull (feeE8s : Nat) (plan : BurnPlan) (gross : Nat) : BurnPlan :=
  if 0 < gross then plan.pay gross feeE8s else plan

def reportUnfunded (plan : BurnPlan) (desired : Nat) : BurnPlan :=
  if 0 < desired ∧ plan.amountE8s = 0 then
    plan.skipIfUnset "insufficient_balance_for_topups"
  else plan

def usableOrBootstrap (estimate : Option ConversionEstimate) (nowNanos : Nat) :
    ConversionEstimate :=
  (estimate.filter (conversionEstimateIsUsable nowNanos)).getD ⟨bootstrapCyclesPerE8, nowNanos⟩

/-- The burn plans with the gross amount each of them asks for. -/
def desiredTopups (samples : CycleSamples) (feeE8s : Nat) (estimate : Option ConversionEstimate)
    (nowNanos : Nat) : List (BurnPlan × Nat) :=
  (burnPlans samples true).map (desiredGross feeE8s (usableOrBootstrap estimate nowNanos))

def buildAllocationPlan (samples : CycleSamples) (availableBalanceE8s feeE8s : Nat)
    (estimate : Option ConversionEstimate) (nowNanos : Nat) : AllocationPlan :=
  let topups := (desiredTopups samples feeE8s estimate nowNanos).map Prod.fst
  let desired := (desiredTopups samples feeE8s estimate nowNanos).map Prod.snd
  let total := satSum u64Max desired
  if total ≤ availableBalanceE8s then
    { topups := topups.zipWith (allocateInFull feeE8s) desired
      topupPhaseFullyFunded := true
      skippedSurplusReason := none }
  else
    let allocated := topups.zipWith (allocateProportionally feeE8s)
      (proportionalTopupGrossAllocations desired total availableBalanceE8s)
    { topups := allocated.zipWith reportUnfunded desired
      topupPhaseFullyFunded := false
      skippedSurplusReason := some "insufficient_balance_for_topups" }

def spendAllShare (availableBalanceE8s totalPositiveNeed feeE8s : Nat) (plan : BurnPlan) :
    BurnPlan :=
  if plan.targetTopupCycles = 0 then plan.skip "zero_burn"
  else
    let gross := min
      (satMul u128Max availableBalanceE8s plan.targetTopupCycles / totalPositiveNeed) u64Max
    if gross < satMul u128Max feeE8s 2 ∨ gross ≤ feeE8s then
      { plan with grossShareE8s := gross }.skip "all_cycles_batch_below_fee_efficient_threshold"
    else plan.pay gross feeE8s

def totalPositiveNeed (plans : List BurnPlan) : Nat :=
  (plans.map BurnPlan.targetTopupCycles).sum % (u128Max + 1)

def buildSpendAllCyclesPlan (samples : CycleSamples) (availableBalanceE8s feeE8s : Nat) :
    AllocationPlan :=
  let topups := burnPlans samples false
  let total := totalPositiveNeed topups
  if total = 0 then
    { topups := topups.map fun plan => plan.skip "no_positive_burn"
      topupPhaseFullyFunded := true
      skippedSurplusReason := some "no_positive_burn" }
  else
    let topups := topups.map (spendAllShare availableBalanceE8s total feeE8s)
    { topups
      topupPhaseFullyFunded := true
      skippedSurplusReason := some
        (if topups.any (fun plan => decide (0 < plan.amountE8s)) then "no_raw_icp_recipients"
          else "all_cycles_batch_below_fee_efficient_threshold") }

inductive SurplusTarget where
  | canister (canisterId : Principal)
  | neuron (neuronId : Nat)
  deriving DecidableEq, Repr

structure SurplusRecipient where
  target : SurplusTarget
  memo : Option (List UInt8)
  deriving DecidableEq, Repr

structure ResolvedSurplusRecipient where
  target : SurplusTarget
  account : Account
  memo : Option (List UInt8)
  deriving DecidableEq, Repr

structure SurplusTransferSample where
  target : SurplusTarget
  account : Account
  grossShareE8s : Nat
  amountE8s : Nat
  memoLen : Option Nat
  skippedReason : Option String
  deriving DecidableEq, Repr

/-- The amount of an equal share and why it is not sent. -/
def surplusAmount (gross feeE8s : Nat) : Nat × Option String :=
  if gross ≤ feeE8s then (0, some "gross_share_does_not_exceed_fee")
  else if gross - feeE8s < minRawIcpRecipientAmountE8s then
    (0, some "raw_icp_share_below_1_icp")
  else (gross - feeE8s, none)

def allocateEqualSurplusShares (recipients : List ResolvedSurplusRecipient)
    (availableBalanceE8s feeE8s : Nat) : List SurplusTransferSample :=
  let gross := availableBalanceE8s / recipients.length
  recipients.map fun recipient =>
    { target := recipient.target
      account := recipient.account
      grossShareE8s := gross
      amountE8s := (surplusAmount gross feeE8s).1
      memoLen := recipient.memo.map List.length
      skippedReason := (surplusAmount gross feeE8s).2 }

structure SurplusPlan where
  transfers : List SurplusTransferSample
  surplusE8sBeforeFees : Nat
  skippedSurplusReason : Option String
  deriving DecidableEq, Repr

def buildSurplusPlan (recipients : List ResolvedSurplusRecipient)
    (availableBalanceE8s feeE8s : Nat) (estimate : Option ConversionEstimate)
    (nowNanos : Nat) : SurplusPlan :=
  if (estimate.filter (conversionEstimateIsUsable nowNanos)).isNone then
    ⟨[], 0, some "missing_conversion_estimate"⟩
  else
    let surplus := allocateEqualSurplusShares recipients availableBalanceE8s feeE8s
    let reason :=
      if recipients.isEmpty then some "no_surplus_recipients"
      else if availableBalanceE8s = 0 then some "no_surplus"
      else if surplus.all fun plan => decide (plan.amountE8s = 0) then
        ((surplus.findSome? SurplusTransferSample.skippedReason).orElse fun _ =>
          some "gross_share_does_not_exceed_fee")
      else none
    ⟨surplus, availableBalanceE8s, reason⟩

def resolveCanisterSurplusRecipient (recipient : SurplusRecipient) :
    Option ResolvedSurplusRecipient :=
  match recipient.target with
  | .canister canisterId => some ⟨recipient.target, ⟨canisterId, none⟩, recipient.memo⟩
  | .neuron _ => none

def rejectDuplicateResolvedDestinations (resolved : List ResolvedSurplusRecipient) : Bool :=
  decide (resolved.map ResolvedSurplusRecipient.account).Nodup

/-- What a planned transfer takes from the account and what of it is sent. -/
structure Share where
  grossShareE8s : Nat
  amountE8s : Nat
  deriving DecidableEq, Repr

def BurnPlan.share (plan : BurnPlan) : Share := ⟨plan.grossShareE8s, plan.amountE8s⟩

def SurplusTransferSample.share (plan : SurplusTransferSample) : Share :=
  ⟨plan.grossShareE8s, plan.amountE8s⟩

/-- What the transfers that will be made take together. -/
def payableGross (shares : List Share) : Nat :=
  ((shares.filter fun share => decide (0 < share.amountE8s)).map Share.grossShareE8s).sum

/-- Every transfer that will be made sends its gross share less the fee. -/
def FeeAbove (feeE8s : Nat) (shares : List Share) : Prop :=
  ∀ share ∈ shares, 0 < share.amountE8s → share.amountE8s + feeE8s = share.grossShareE8s

@[simp]
theorem payableGross_nil : payableGross [] = 0 := rfl

theorem payableGross_cons (share : Share) (shares : List Share) :
    payableGross (share :: shares) =
      (if 0 < share.amountE8s then share.grossShareE8s else 0) + payableGross shares := by
  unfold payableGross
  rw [List.filter_cons]
  split <;> simp_all

theorem payableGross_append (first second : List Share) :
    payableGross (first ++ second) = payableGross first + payableGross second := by
  simp [payableGross]

theorem payableGross_eq_zero {shares : List Share}
    (none_payable : ∀ share ∈ shares, ¬ 0 < share.amountE8s) : payableGross shares = 0 := by
  unfold payableGross
  rw [List.filter_eq_nil_iff.mpr (by simpa using none_payable)]
  rfl

theorem payableGross_le_sum (shares : List Share) :
    payableGross shares ≤ (shares.map Share.grossShareE8s).sum := by
  induction shares with
  | nil => simp
  | cons share shares ih =>
      rw [payableGross_cons, List.map_cons, List.sum_cons]
      split <;> omega

end JupiterSuite.Relay
