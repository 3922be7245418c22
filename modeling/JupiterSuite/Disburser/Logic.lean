import JupiterSuite.Clients.LeaseGuards
import Mathlib.Tactic.Ring

/-! Persisted state of the disburser and the guard of its main lease. -/

namespace JupiterSuite.Disburser

open Base

def mainTickLeaseSeconds : Nat := 15 * 60

structure Config where
  normalRecipient : Account
  ageBonusRecipient1 : Account
  ageBonusRecipient2 : Account
  mainIntervalSeconds : Nat
  deriving DecidableEq, Repr

inductive TransferStatus where
  | pending
  | sent (blockIndex : Nat)
  deriving DecidableEq, Repr

structure PlannedTransfer where
  toAccount : Account
  grossShareE8s : Nat
  amountE8s : Nat
  createdAtTimeNanos : Nat
  memo : List UInt8
  status : TransferStatus
  deriving DecidableEq, Repr

structure PayoutPlan where
  id : Nat
  feeE8s : Nat
  createdAtBaseNanos : Nat
  transfers : List PlannedTransfer
  deriving DecidableEq, Repr

structure State where
  config : Config
  prevAgeSeconds : Nat
  lastSuccessfulTransferTs : Option Nat
  mainLockStateTs : Option Nat
  payoutNonce : Nat
  payoutPlan : Option PayoutPlan
  lastMainRunTs : Nat
  deriving DecidableEq, Repr

def State.new (config : Config) (nowSecs : Nat) : State where
  config := config
  prevAgeSeconds := 0
  lastSuccessfulTransferTs := none
  mainLockStateTs := some 0
  payoutNonce := 1
  payoutPlan := none
  lastMainRunTs := nowSecs - 10 * 365 * 24 * 60 * 60

/-- `MainGuard::is_current`: the lease has not expired and the lock still carries it. -/
def isCurrent (st : State) (lease nowSecs : Nat) : Bool :=
  decide (nowSecs < lease) && decide (st.mainLockStateTs = some lease)

def dropGuard (st : State) (lease : Nat) : State :=
  { st with mainLockStateTs := releaseLease lease st.mainLockStateTs }

/-- `MainGuard::finish` for a tick started at `startedSecs`. -/
def finishGuard (st : State) (lease startedSecs nowSecs : Nat) : State :=
  if isCurrent st lease nowSecs then
    { st with lastMainRunTs := startedSecs, mainLockStateTs := some 0 }
  else dropGuard st lease

@[simp]
theorem finishGuard_payoutPlan (st : State) (lease startedSecs nowSecs : Nat) :
    (finishGuard st lease startedSecs nowSecs).payoutPlan = st.payoutPlan := by
  unfold finishGuard
  split <;> rfl

@[simp]
theorem finishGuard_payoutNonce (st : State) (lease startedSecs nowSecs : Nat) :
    (finishGuard st lease startedSecs nowSecs).payoutNonce = st.payoutNonce := by
  unfold finishGuard
  split <;> rfl

/-! The payout split and the planning of its transfers. -/

def secsPerDay : Nat := 86400

def secsPerYear : Nat := 365 * secsPerDay

def maxAgeForBonusSecs : Nat := 4 * secsPerYear

def bonusRecipient1Pct : Nat := 95

structure GrossSplit where
  baseE8s : Nat
  bonusRecipient1E8s : Nat
  bonusRecipient2E8s : Nat
  deriving DecidableEq, Repr

def ageMultiplierFraction (ageSeconds : Nat) : Nat × Nat :=
  (16 * secsPerYear + min ageSeconds maxAgeForBonusSecs, 16 * secsPerYear)

def computeGrossSplit (totalE8s ageSeconds : Nat) : GrossSplit :=
  if totalE8s = 0 then ⟨0, 0, 0⟩
  else
    let fraction := ageMultiplierFraction ageSeconds
    let base := totalE8s * fraction.2 / fraction.1
    let bonus := totalE8s - base
    let bonus1 := (bonus * bonusRecipient1Pct + 99) / 100
    ⟨base, bonus1, bonus - bonus1⟩

/-- Memo layout: payout id, then transfer index, eight bytes each. -/
def buildMemo (payoutId transferIndex : Nat) : List UInt8 :=
  u64ToBeBytes payoutId ++ u64ToBeBytes transferIndex

def planTransfer (payoutId createdAtBaseNanos feeE8s : Nat) (planned : List PlannedTransfer)
    (recipient : Account) (share : Nat) : List PlannedTransfer :=
  if share ≤ feeE8s then planned
  else
    planned ++
      [{ toAccount := recipient
         grossShareE8s := share
         amountE8s := share - feeE8s
         createdAtTimeNanos := satAdd u64Max createdAtBaseNanos planned.length
         memo := buildMemo payoutId planned.length
         status := .pending }]

def planPayoutTransfers (payoutId createdAtBaseNanos stagingBalanceE8s feeE8s ageSeconds : Nat)
    (normalTo bonus1To bonus2To : Account) : GrossSplit × List PlannedTransfer :=
  let gross := computeGrossSplit stagingBalanceE8s ageSeconds
  let push := planTransfer payoutId createdAtBaseNanos feeE8s
  (gross, push (push (push [] normalTo gross.baseE8s) bonus1To gross.bonusRecipient1E8s)
    bonus2To gross.bonusRecipient2E8s)

def transferArg (plan : PayoutPlan) (transfer : PlannedTransfer) : TransferArg where
  fromSubaccount := none
  toAccount := transfer.toAccount
  fee := some plan.feeE8s
  createdAtTime := some transfer.createdAtTimeNanos
  memo := some transfer.memo
  amount := transfer.amountE8s

def shouldClearPayoutPlanOnTransferError : TransferError → Bool
  | .temporarilyUnavailable => false
  | .duplicate _ => false
  | .badFee _ | .badBurn _ | .insufficientFunds _ | .tooOld | .createdInFuture _
  | .genericError _ _ => true

theorem base_le_total (totalE8s ageSeconds : Nat) :
    (computeGrossSplit totalE8s ageSeconds).baseE8s ≤ totalE8s := by
  unfold computeGrossSplit
  split
  · simp
  · apply Nat.div_le_of_le_mul
    rw [Nat.mul_comm]
    apply Nat.mul_le_mul_right
    simp [ageMultiplierFraction]

theorem bonus1_le (bonus : Nat) : (bonus * bonusRecipient1Pct + 99) / 100 ≤ bonus := by
  simp only [bonusRecipient1Pct]
  omega

/-- The three shares split the staging balance without loss. -/
theorem gross_split_sum (totalE8s ageSeconds : Nat) :
    let split := computeGrossSplit totalE8s ageSeconds
    split.baseE8s + split.bonusRecipient1E8s + split.bonusRecipient2E8s = totalE8s := by
  have base := base_le_total totalE8s ageSeconds
  unfold computeGrossSplit at base ⊢
  by_cases empty : totalE8s = 0
  · simp [empty]
  · simp only [empty, if_false] at base ⊢
    have bonus := bonus1_le (totalE8s - totalE8s * (ageMultiplierFraction ageSeconds).2 /
      (ageMultiplierFraction ageSeconds).1)
    omega

def PayoutPlan.gross (transfers : List PlannedTransfer) : Nat :=
  (transfers.map PlannedTransfer.grossShareE8s).sum

theorem gross_planTransfer (payoutId base feeE8s : Nat) (planned : List PlannedTransfer)
    (recipient : Account) (share : Nat) :
    PayoutPlan.gross (planTransfer payoutId base feeE8s planned recipient share) ≤
      PayoutPlan.gross planned + share := by
  unfold planTransfer PayoutPlan.gross
  split <;> simp

/-- A plan never spends more than the staging balance, fees included. -/
theorem planned_gross_le (payoutId base balance feeE8s ageSeconds : Nat)
    (normalTo bonus1To bonus2To : Account) :
    PayoutPlan.gross (planPayoutTransfers payoutId base balance feeE8s ageSeconds
      normalTo bonus1To bonus2To).2 ≤ balance := by
  have total := gross_split_sum balance ageSeconds
  simp only [planPayoutTransfers]
  refine Nat.le_trans (gross_planTransfer ..) ?_
  refine Nat.le_trans (Nat.add_le_add_right (gross_planTransfer ..) _) ?_
  refine Nat.le_trans (Nat.add_le_add_right (Nat.add_le_add_right (gross_planTransfer ..) _) _) ?_
  simp only [PayoutPlan.gross, List.map_nil, List.sum_nil]
  omega

/-- The transfer at each position, as the plan of `payoutId` writes it. -/
def PlannedAt (payoutId base feeE8s index : Nat) (transfer : PlannedTransfer) : Prop :=
  transfer.memo = buildMemo payoutId index ∧
    transfer.createdAtTimeNanos = satAdd u64Max base index ∧
    feeE8s < transfer.grossShareE8s ∧
    transfer.amountE8s + feeE8s = transfer.grossShareE8s ∧
    transfer.status = .pending

theorem planTransfer_plannedAt {payoutId base feeE8s : Nat} {planned : List PlannedTransfer}
    (recipient : Account) (share : Nat)
    (earlier : ∀ i t, planned[i]? = some t → PlannedAt payoutId base feeE8s i t) :
    ∀ i t, (planTransfer payoutId base feeE8s planned recipient share)[i]? = some t →
      PlannedAt payoutId base feeE8s i t := by
  intro i t found
  unfold planTransfer at found
  split at found
  · exact earlier i t found
  · rename_i above
    rcases Nat.lt_trichotomy i planned.length with old | last | beyond
    · rw [List.getElem?_append_left old] at found
      exact earlier i t found
    · subst last
      simp only [List.getElem?_concat_length, Option.some.injEq] at found
      subst found
      exact ⟨rfl, rfl, Nat.lt_of_not_le above, Nat.sub_add_cancel (Nat.le_of_not_le above), rfl⟩
    · rw [List.getElem?_eq_none (by simp; omega)] at found
      cases found

theorem plannedAt_of_plan (payoutId base balance feeE8s ageSeconds : Nat)
    (normalTo bonus1To bonus2To : Account) :
    ∀ i t, (planPayoutTransfers payoutId base balance feeE8s ageSeconds
      normalTo bonus1To bonus2To).2[i]? = some t → PlannedAt payoutId base feeE8s i t := by
  apply planTransfer_plannedAt
  apply planTransfer_plannedAt
  apply planTransfer_plannedAt
  intro i t found
  simp at found

theorem buildMemo_injective {id id' index index' : Nat} (bound : id ≤ u64Max)
    (bound' : id' ≤ u64Max) (index_bound : index ≤ u64Max) (index_bound' : index' ≤ u64Max)
    (same : buildMemo id index = buildMemo id' index') : id = id' ∧ index = index' := by
  obtain ⟨ids, indices⟩ := List.append_inj same rfl
  exact ⟨u64ToBeBytes_injective bound bound' ids,
    u64ToBeBytes_injective index_bound index_bound' indices⟩

end JupiterSuite.Disburser
