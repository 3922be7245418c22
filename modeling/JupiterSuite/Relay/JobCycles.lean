import JupiterSuite.Relay.JobDriver

/-! Allocating the balance does not touch the cycle figures of the burn plans. -/

namespace JupiterSuite.Relay

open Base

/-- The plan before an amount is allocated to it. -/
def BurnPlan.cycles (plan : BurnPlan) : BurnPlan :=
  { plan with grossShareE8s := 0, amountE8s := 0, skippedReason := none }

@[simp]
theorem cycles_skipIfUnset (plan : BurnPlan) (reason : String) :
    (plan.skipIfUnset reason).cycles = plan.cycles := by
  unfold BurnPlan.skipIfUnset
  split <;> rfl

theorem cycles_desiredGross (feeE8s : Nat) (estimate : ConversionEstimate) (plan : BurnPlan) :
    (desiredGross feeE8s estimate plan).1.cycles = plan.cycles := by
  simp only [desiredGross]
  split
  · split <;> rfl
  · split <;> rfl

theorem cycles_allocateInFull (feeE8s : Nat) (plan : BurnPlan) (gross : Nat) :
    (allocateInFull feeE8s plan gross).cycles = plan.cycles := by
  unfold allocateInFull
  split <;> rfl

theorem cycles_allocateProportionally (feeE8s : Nat) (plan : BurnPlan) (gross : Nat) :
    (allocateProportionally feeE8s plan gross).cycles = plan.cycles := by
  unfold allocateProportionally
  split
  · rfl
  · exact cycles_skipIfUnset plan _

theorem cycles_reportUnfunded (plan : BurnPlan) (desired : Nat) :
    (reportUnfunded plan desired).cycles = plan.cycles := by
  unfold reportUnfunded
  split
  · exact cycles_skipIfUnset plan _
  · rfl

theorem cycles_spendAllShare (balance total feeE8s : Nat) (plan : BurnPlan) :
    (spendAllShare balance total feeE8s plan).cycles = plan.cycles := by
  simp only [spendAllShare]
  split
  · rfl
  · split <;> rfl

theorem cycles_zipWith {f : BurnPlan → Nat → BurnPlan}
    (kept : ∀ plan gross, (f plan gross).cycles = plan.cycles) (plans : List BurnPlan)
    {grosses : List Nat} (paired : plans.length ≤ grosses.length) :
    (plans.zipWith f grosses).map BurnPlan.cycles = plans.map BurnPlan.cycles := by
  induction plans generalizing grosses with
  | nil => rfl
  | cons plan plans ih =>
      cases grosses with
      | nil => cases paired
      | cons gross grosses =>
          rw [List.zipWith_cons_cons, List.map_cons, List.map_cons, kept,
            ih (Nat.le_of_succ_le_succ paired)]

section Distribution

variable (desired : List Nat) (available : Nat) (order : List Nat)

theorem foldl_advance_length (acc : Distribution) :
    (order.foldl (Distribution.advance desired available) acc).shares.length =
      acc.shares.length := by
  induction order generalizing acc with
  | nil => rfl
  | cons index order ih =>
      rw [List.foldl_cons, ih]
      unfold Distribution.advance
      split
      · rfl
      · split
        · exact List.length_set
        · rfl

theorem distribute_length (passes : Nat) (acc : Distribution) :
    (distribute desired available order passes acc).shares.length = acc.shares.length := by
  induction passes generalizing acc with
  | zero => rfl
  | succ passes ih =>
      have passed := foldl_advance_length desired available order { acc with advanced := false }
      simp only [distribute]
      split
      · split
        · rw [ih]
          exact passed
        · exact passed
      · rfl

end Distribution

theorem proportional_length (desired : List Nat) (total available : Nat) :
    (proportionalTopupGrossAllocations desired total available).length = desired.length := by
  simp only [proportionalTopupGrossAllocations, distribute_length, List.length_map]

theorem cycles_burnPlans (samples : CycleSamples) (headroom : Bool) :
    (burnPlans samples headroom).map BurnPlan.cycles = burnPlans samples headroom := by
  simp only [burnPlans, List.map_map]
  rfl

theorem cycles_desiredTopups (samples : CycleSamples) (feeE8s : Nat)
    (estimate : Option ConversionEstimate) (nowNanos : Nat) :
    ((desiredTopups samples feeE8s estimate nowNanos).map Prod.fst).map BurnPlan.cycles =
      burnPlans samples true := by
  rw [← cycles_burnPlans samples true]
  simp only [desiredTopups, List.map_map]
  apply List.map_congr_left
  intro plan _
  exact cycles_desiredGross _ _ plan

theorem cycles_buildAllocationPlan (samples : CycleSamples) (balance feeE8s : Nat)
    (estimate : Option ConversionEstimate) (nowNanos : Nat) :
    (buildAllocationPlan samples balance feeE8s estimate nowNanos).topups.map BurnPlan.cycles =
      burnPlans samples true := by
  rw [← cycles_desiredTopups samples feeE8s estimate nowNanos]
  simp only [buildAllocationPlan]
  split
  · exact cycles_zipWith (cycles_allocateInFull feeE8s) _ (by simp)
  · rw [cycles_zipWith cycles_reportUnfunded]
    · exact cycles_zipWith (cycles_allocateProportionally feeE8s) _ (by simp [proportional_length])
    · simp [proportional_length]

theorem cycles_buildSpendAllCyclesPlan (samples : CycleSamples) (balance feeE8s : Nat) :
    (buildSpendAllCyclesPlan samples balance feeE8s).topups.map BurnPlan.cycles =
      burnPlans samples false := by
  rw [← cycles_burnPlans samples false]
  simp only [buildSpendAllCyclesPlan]
  split
  · rw [List.map_map]
    rfl
  · rw [List.map_map]
    apply List.map_congr_left
    intro plan _
    exact cycles_spendAllShare _ _ _ plan

theorem cycles_allocationFor (st : RelayState) (current : List (Principal × Nat))
    (balance feeE8s : Nat) (estimate : Option ConversionEstimate) (nowNanos : Nat) :
    (allocationFor st current balance feeE8s estimate nowNanos).topups.map BurnPlan.cycles =
      burnPlans (st.samples current) (hasRawIcpRecipients st) := by
  unfold allocationFor
  split
  · rename_i raw
    rw [raw]
    exact cycles_buildAllocationPlan _ _ _ _ _
  · rename_i direct
    rw [Bool.eq_false_of_not_eq_true direct]
    exact cycles_buildSpendAllCyclesPlan _ _ _

end JupiterSuite.Relay
