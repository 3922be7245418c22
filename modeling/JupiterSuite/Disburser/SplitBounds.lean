import JupiterSuite.Disburser.Logic

/-! The split over all balances and ages, in the words of the machine, and what a plan spends. -/

namespace JupiterSuite.Disburser

open Base

/-- The split with its `u128` products checked and its casts to `u64` wrapping. -/
def computeGrossSplitWords (totalE8s ageSeconds : Nat) : Option GrossSplit :=
  if totalE8s = 0 then some ⟨0, 0, 0⟩
  else do
    let fraction := ageMultiplierFraction ageSeconds
    let scaled ← checkedMul u128Max totalE8s fraction.2
    let base := scaled / fraction.1 % 2 ^ 64
    let bonus := totalE8s - base
    let scaledBonus ← checkedMul u128Max bonus bonusRecipient1Pct
    let bonus1 := divCeil scaledBonus 100 % 2 ^ 64
    some ⟨base, bonus1, bonus - bonus1⟩

theorem divCeil_hundred (n : Nat) : divCeil n 100 = (n + 99) / 100 := by
  simp only [divCeil]
  split
  · omega
  · omega

theorem computeGrossSplit_of_pos (some_total : totalE8s ≠ 0) (ageSeconds : Nat) :
    computeGrossSplit totalE8s ageSeconds =
      let base := totalE8s * (16 * secsPerYear) /
        (16 * secsPerYear + min ageSeconds maxAgeForBonusSecs)
      let bonus := totalE8s - base
      ⟨base, (bonus * bonusRecipient1Pct + 99) / 100,
        bonus - (bonus * bonusRecipient1Pct + 99) / 100⟩ :=
  if_neg some_total

theorem computeGrossSplitWords_eq (fits : totalE8s ≤ u64Max) (ageSeconds : Nat) :
    computeGrossSplitWords totalE8s ageSeconds = some (computeGrossSplit totalE8s ageSeconds) := by
  by_cases empty : totalE8s = 0
  · rw [computeGrossSplitWords, if_pos empty, computeGrossSplit, if_pos empty]
  · have base := base_le_total totalE8s ageSeconds
    rw [computeGrossSplit_of_pos empty] at base ⊢
    dsimp only at base ⊢
    simp only [computeGrossSplitWords, if_neg empty, ageMultiplierFraction]
    have product : checkedMul u128Max totalE8s (16 * secsPerYear) =
        some (totalE8s * (16 * secsPerYear)) := by
      refine checkedMul_eq_some.mpr ⟨?_, rfl⟩
      simp only [u64Max, u128Max, secsPerYear, secsPerDay] at fits ⊢
      omega
    rw [product, Option.bind_eq_bind, Option.bind_some]
    generalize totalE8s * (16 * secsPerYear) /
      (16 * secsPerYear + min ageSeconds maxAgeForBonusSecs) = share at base ⊢
    have small : share % 2 ^ 64 = share := by
      apply Nat.mod_eq_of_lt
      simp only [u64Max] at fits
      omega
    rw [small]
    have scaled : checkedMul u128Max (totalE8s - share) bonusRecipient1Pct =
        some ((totalE8s - share) * bonusRecipient1Pct) := by
      refine checkedMul_eq_some.mpr ⟨?_, rfl⟩
      simp only [u64Max, u128Max, bonusRecipient1Pct] at fits ⊢
      omega
    have ceil := bonus1_le (totalE8s - share)
    have narrow : ((totalE8s - share) * bonusRecipient1Pct + 99) / 100 % 2 ^ 64 =
        ((totalE8s - share) * bonusRecipient1Pct + 99) / 100 := by
      apply Nat.mod_eq_of_lt
      simp only [u64Max] at fits
      omega
    rw [scaled, Option.bind_some, divCeil_hundred, narrow]

theorem base_antitone (totalE8s : Nat) {ageSeconds older : Nat} (ages : ageSeconds ≤ older) :
    (computeGrossSplit totalE8s older).baseE8s ≤ (computeGrossSplit totalE8s ageSeconds).baseE8s := by
  by_cases empty : totalE8s = 0
  · rw [computeGrossSplit, if_pos empty]
    exact Nat.zero_le _
  · rw [computeGrossSplit_of_pos empty, computeGrossSplit_of_pos empty]
    apply Nat.div_le_div_left
    · omega
    · simp only [secsPerYear, secsPerDay]
      omega

theorem base_monotone {larger : Nat} (ageSeconds : Nat) (totals : totalE8s ≤ larger) :
    (computeGrossSplit totalE8s ageSeconds).baseE8s ≤
      (computeGrossSplit larger ageSeconds).baseE8s := by
  by_cases empty : totalE8s = 0
  · rw [computeGrossSplit, if_pos empty]
    exact Nat.zero_le _
  · have present : larger ≠ 0 := by omega
    rw [computeGrossSplit_of_pos empty, computeGrossSplit_of_pos present]
    exact Nat.div_le_div_right (Nat.mul_le_mul_right _ totals)

structure SplitSound (totalE8s ageSeconds : Nat) : Prop where
  exact : computeGrossSplitWords totalE8s ageSeconds = some (computeGrossSplit totalE8s ageSeconds)
  sum : let split := computeGrossSplit totalE8s ageSeconds
    split.baseE8s + split.bonusRecipient1E8s + split.bonusRecipient2E8s = totalE8s
  older : ∀ older, ageSeconds ≤ older →
    (computeGrossSplit totalE8s older).baseE8s ≤ (computeGrossSplit totalE8s ageSeconds).baseE8s
  larger : ∀ larger, totalE8s ≤ larger →
    (computeGrossSplit totalE8s ageSeconds).baseE8s ≤ (computeGrossSplit larger ageSeconds).baseE8s

/-- What debiting a plan costs: every amount and its fee. -/
def planCost (feeE8s : Nat) (planned : List PlannedTransfer) : Nat :=
  (planned.map fun transfer => transfer.amountE8s + feeE8s).sum

theorem planCost_eq_gross {payoutId base feeE8s : Nat} {planned : List PlannedTransfer}
    (each : ∀ i t, planned[i]? = some t → PlannedAt payoutId base feeE8s i t) :
    planCost feeE8s planned = PayoutPlan.gross planned := by
  refine congrArg List.sum (List.map_congr_left ?_)
  intro transfer member
  rcases List.getElem?_of_mem member with ⟨i, found⟩
  exact (each i transfer found).2.2.2.1

theorem length_planTransfer (payoutId base feeE8s : Nat) (planned : List PlannedTransfer)
    (recipient : Account) (share : Nat) :
    (planTransfer payoutId base feeE8s planned recipient share).length ≤ planned.length + 1 := by
  simp only [planTransfer]
  split
  · exact Nat.le_succ _
  · exact Nat.le_of_eq List.length_append

theorem length_planPayoutTransfers (payoutId base balance feeE8s ageSeconds : Nat)
    (normalTo bonus1To bonus2To : Account) :
    (planPayoutTransfers payoutId base balance feeE8s ageSeconds normalTo bonus1To
      bonus2To).2.length ≤ 3 := by
  simp only [planPayoutTransfers]
  refine (length_planTransfer _ _ _ _ _ _).trans (Nat.succ_le_succ ?_)
  refine (length_planTransfer _ _ _ _ _ _).trans (Nat.succ_le_succ ?_)
  exact length_planTransfer _ _ _ [] _ _

/-- The memo of a planned transfer tells its payout and its index. -/
theorem plannedAt_memo_injective {payoutId payoutId' base base' feeE8s feeE8s' i j : Nat}
    {transfer transfer' : PlannedTransfer} (bound : payoutId ≤ u64Max) (bound' : payoutId' ≤ u64Max)
    (index : i < 3) (index' : j < 3) (planned : PlannedAt payoutId base feeE8s i transfer)
    (planned' : PlannedAt payoutId' base' feeE8s' j transfer')
    (same : transfer.memo = transfer'.memo) : payoutId = payoutId' ∧ i = j := by
  have small : ∀ k, k < 3 → k ≤ u64Max := by
    intro k below
    simp only [u64Max]
    omega
  rw [planned.1, planned'.1] at same
  exact buildMemo_injective bound bound' (small i index) (small j index') same

def recipientShares (split : GrossSplit) (normalTo bonus1To bonus2To : Account) :
    List (Account × Nat) :=
  [(normalTo, split.baseE8s), (bonus1To, split.bonusRecipient1E8s),
    (bonus2To, split.bonusRecipient2E8s)]

theorem planTransfer_shares (payoutId base feeE8s : Nat) (planned : List PlannedTransfer)
    (recipient : Account) (share : Nat) :
    (planTransfer payoutId base feeE8s planned recipient share).map
        (fun transfer => (transfer.toAccount, transfer.grossShareE8s)) =
      planned.map (fun transfer => (transfer.toAccount, transfer.grossShareE8s)) ++
        [(recipient, share)].filter fun share => decide (feeE8s < share.2) := by
  unfold planTransfer
  split
  · rename_i small
    have dropped : ¬ feeE8s < share := Nat.not_lt.mpr small
    simp [dropped]
  · rename_i large
    have kept : feeE8s < share := Nat.lt_of_not_le large
    simp [kept]

theorem planPayoutTransfers_shares (payoutId base balance feeE8s ageSeconds : Nat)
    (normalTo bonus1To bonus2To : Account) :
    (planPayoutTransfers payoutId base balance feeE8s ageSeconds normalTo bonus1To
        bonus2To).2.map (fun transfer => (transfer.toAccount, transfer.grossShareE8s)) =
      (recipientShares (computeGrossSplit balance ageSeconds) normalTo bonus1To bonus2To).filter
        fun share => decide (feeE8s < share.2) := by
  simp only [planPayoutTransfers, planTransfer_shares, List.map_nil, List.nil_append]
  rw [← List.filter_append, ← List.filter_append]
  rfl

/-- Every share above the fee is emitted, in order and to its recipient, and nothing else is. -/
structure PlanSound (payoutId base balance feeE8s : Nat) (shares : List (Account × Nat))
    (planned : List PlannedTransfer) : Prop where
  emitted : planned.map (fun transfer => (transfer.toAccount, transfer.grossShareE8s)) =
    shares.filter fun share => decide (feeE8s < share.2)
  net : ∀ transfer ∈ planned, transfer.amountE8s = transfer.grossShareE8s - feeE8s
  entries : ∀ i transfer, planned[i]? = some transfer → PlannedAt payoutId base feeE8s i transfer
  within : planCost feeE8s planned ≤ balance
  positive : ∀ transfer ∈ planned, 0 < transfer.amountE8s
  memos : ∀ payoutId' ≤ u64Max, ∀ (base' balance' feeE8s' ageSeconds' : Nat)
    (normalTo' bonus1To' bonus2To' : Account) (i j : Nat) (transfer transfer' : PlannedTransfer),
      planned[i]? = some transfer →
      (planPayoutTransfers payoutId' base' balance' feeE8s' ageSeconds' normalTo' bonus1To'
        bonus2To').2[j]? = some transfer' →
      transfer.memo = transfer'.memo → payoutId = payoutId' ∧ i = j

theorem payout_split_sound {balance payoutId : Nat} (balance_bound : balance ≤ u64Max)
    (id_bound : payoutId ≤ u64Max) (createdAtBaseNanos feeE8s ageSeconds : Nat)
    (normalTo bonus1To bonus2To : Account) :
    SplitSound balance ageSeconds ∧
      PlanSound payoutId createdAtBaseNanos balance feeE8s
        (recipientShares (computeGrossSplit balance ageSeconds) normalTo bonus1To bonus2To)
        (planPayoutTransfers payoutId createdAtBaseNanos balance feeE8s ageSeconds normalTo bonus1To
          bonus2To).2 := by
  have each := plannedAt_of_plan payoutId createdAtBaseNanos balance feeE8s ageSeconds normalTo
    bonus1To bonus2To
  have few := length_planPayoutTransfers payoutId createdAtBaseNanos balance feeE8s ageSeconds
    normalTo bonus1To bonus2To
  have below := planned_gross_le payoutId createdAtBaseNanos balance feeE8s ageSeconds normalTo
    bonus1To bonus2To
  have emitted := planPayoutTransfers_shares payoutId createdAtBaseNanos balance feeE8s ageSeconds
    normalTo bonus1To bonus2To
  constructor
  · exact {
      exact := computeGrossSplitWords_eq balance_bound ageSeconds
      sum := gross_split_sum balance ageSeconds
      older := fun _ ages => base_antitone balance ages
      larger := fun _ totals => base_monotone ageSeconds totals }
  · generalize (planPayoutTransfers payoutId createdAtBaseNanos balance feeE8s ageSeconds normalTo
      bonus1To bonus2To).2 = planned at each few below emitted ⊢
    have nets : ∀ transfer ∈ planned, feeE8s < transfer.grossShareE8s ∧
        transfer.amountE8s + feeE8s = transfer.grossShareE8s := by
      intro transfer member
      rcases List.getElem?_of_mem member with ⟨i, found⟩
      have entry := each i transfer found
      exact ⟨entry.2.2.1, entry.2.2.2.1⟩
    constructor
    · exact emitted
    · intro transfer member
      have entry := nets transfer member
      omega
    · exact each
    · rw [planCost_eq_gross each]
      exact below
    · intro transfer member
      have entry := nets transfer member
      omega
    · intro payoutId' bound' base' balance' fee' age' normal' bonus1' bonus2' i j transfer transfer'
        found found' same
      have inside := (List.getElem?_eq_some_iff.mp found).1
      have inside' := (List.getElem?_eq_some_iff.mp found').1
      have few' := length_planPayoutTransfers payoutId' base' balance' fee' age' normal' bonus1'
        bonus2'
      exact plannedAt_memo_injective id_bound bound' (inside.trans_le few) (inside'.trans_le few')
        (each i transfer found) (plannedAt_of_plan _ _ _ _ _ _ _ _ j transfer' found') same

theorem payout_split_sound_whole_u64 :
    SplitSound u64Max u64Max ∧
      PlanSound 7 1000 u64Max 10000
        (recipientShares (computeGrossSplit u64Max u64Max) ⟨⟨[1]⟩, none⟩ ⟨⟨[2]⟩, none⟩ ⟨⟨[3]⟩, none⟩)
        (planPayoutTransfers 7 1000 u64Max 10000 u64Max
          ⟨⟨[1]⟩, none⟩ ⟨⟨[2]⟩, none⟩ ⟨⟨[3]⟩, none⟩).2 :=
  payout_split_sound (Nat.le_refl _) (by decide) 1000 10000 u64Max _ _ _

end JupiterSuite.Disburser
