import JupiterSuite.Relay.JobPlan

/-! The planned transfers never take more than the balance they were planned from, as long as
the totals the plan divides by do not overflow. -/

namespace JupiterSuite.Relay

open Base

variable {feeE8s total balance : Nat} {plan : BurnPlan} {samples : CycleSamples}
  {acc : Distribution}

def Share.payable (share : Share) : Nat :=
  if 0 < share.amountE8s then share.grossShareE8s else 0

theorem payable_le_gross (share : Share) : share.payable ≤ share.grossShareE8s := by
  unfold Share.payable
  split <;> omega

theorem payableGross_eq_sum (shares : List Share) :
    payableGross shares = (shares.map Share.payable).sum := by
  induction shares with
  | nil => rfl
  | cons share shares ih =>
      rw [payableGross_cons, ih, List.map_cons, List.sum_cons]
      rfl

theorem forall_zipWith {α β γ : Type} {f : α → β → γ} {p : α → Prop} {q : γ → Prop}
    (each : ∀ a b, p a → q (f a b)) {as : List α} (all : ∀ a ∈ as, p a) (bs : List β) :
    ∀ c ∈ as.zipWith f bs, q c := by
  induction as generalizing bs with
  | nil => simp
  | cons a as ih =>
      cases bs with
      | nil => simp
      | cons b bs =>
          intro c member
          rw [List.zipWith_cons_cons, List.mem_cons] at member
          rcases member with rfl | rest
          · exact each a b (all a List.mem_cons_self)
          · exact ih (fun a' later => all a' (List.mem_cons_of_mem a later)) bs c rest

variable {plans : List BurnPlan} {estimate : Option ConversionEstimate} {nowNanos : Nat}

theorem payable_zipWith_le {pay : BurnPlan → Nat → BurnPlan}
    (bounded : ∀ plan gross, plan.amountE8s = 0 → (pay plan gross).share.payable ≤ gross)
    (unpaid : ∀ plan ∈ plans, plan.amountE8s = 0) (grosses : List Nat) :
    payableGross ((plans.zipWith pay grosses).map BurnPlan.share) ≤ grosses.sum := by
  induction plans generalizing grosses with
  | nil => simp
  | cons plan plans ih =>
      cases grosses with
      | nil => simp
      | cons gross grosses =>
          have head := bounded plan gross (unpaid plan List.mem_cons_self)
          have tail := ih (fun other later => unpaid other (List.mem_cons_of_mem plan later)) grosses
          rw [payableGross_eq_sum] at tail ⊢
          simp only [List.zipWith_cons_cons, List.map_cons, List.sum_cons]
          omega

theorem payable_zipWith_keep {keep : BurnPlan → Nat → BurnPlan}
    (kept : ∀ plan gross, (keep plan gross).share = plan.share) (plans : List BurnPlan)
    (grosses : List Nat) :
    payableGross ((plans.zipWith keep grosses).map BurnPlan.share) ≤
      payableGross (plans.map BurnPlan.share) := by
  induction plans generalizing grosses with
  | nil => simp
  | cons plan plans ih =>
      cases grosses with
      | nil => simp
      | cons gross grosses =>
          have tail := ih grosses
          rw [payableGross_eq_sum, payableGross_eq_sum] at tail
          rw [payableGross_eq_sum, payableGross_eq_sum]
          simp only [List.zipWith_cons_cons, List.map_cons, List.sum_cons, kept]
          omega

/-- What the plans are before an amount is allocated. -/
def BurnPlan.Unpaid (plan : BurnPlan) : Prop := plan.amountE8s = 0

/-- A paid plan sends its gross share less the fee. -/
def BurnPlan.FeeAbove (feeE8s : Nat) (plan : BurnPlan) : Prop :=
  0 < plan.amountE8s → plan.amountE8s + feeE8s = plan.grossShareE8s

@[simp]
theorem share_skipIfUnset (plan : BurnPlan) (reason : String) :
    (plan.skipIfUnset reason).share = plan.share := by
  unfold BurnPlan.skipIfUnset
  split <;> rfl

theorem reportUnfunded_share (plan : BurnPlan) (desired : Nat) :
    (reportUnfunded plan desired).share = plan.share := by
  unfold reportUnfunded
  split
  · exact share_skipIfUnset plan _
  · rfl

theorem feeAbove_of_share {other : BurnPlan} (same : other.share = plan.share)
    (above : plan.FeeAbove feeE8s) : other.FeeAbove feeE8s := by
  simp only [BurnPlan.share, Share.mk.injEq] at same
  unfold BurnPlan.FeeAbove
  rw [same.1, same.2]
  exact above

theorem feeAbove_of_unpaid (unpaid : plan.Unpaid) (feeE8s : Nat) : plan.FeeAbove feeE8s := by
  intro paid
  unfold BurnPlan.Unpaid at unpaid
  omega

theorem feeAbove_pay (plan : BurnPlan) (gross feeE8s : Nat) :
    (plan.pay gross feeE8s).FeeAbove feeE8s := by
  intro paid
  simp only [BurnPlan.pay] at paid ⊢
  omega

theorem allocateInFull_feeAbove (plan : BurnPlan) (gross : Nat) (unpaid : plan.Unpaid) :
    (allocateInFull feeE8s plan gross).FeeAbove feeE8s := by
  unfold allocateInFull
  split
  · exact feeAbove_pay plan gross feeE8s
  · exact feeAbove_of_unpaid unpaid feeE8s

theorem allocateInFull_payable (plan : BurnPlan) (gross : Nat) (unpaid : plan.amountE8s = 0) :
    (allocateInFull feeE8s plan gross).share.payable ≤ gross := by
  unfold allocateInFull
  split
  · exact payable_le_gross (plan.pay gross feeE8s).share
  · simp [BurnPlan.share, Share.payable, unpaid]

theorem allocateProportionally_feeAbove (plan : BurnPlan) (gross : Nat) (unpaid : plan.Unpaid) :
    (allocateProportionally feeE8s plan gross).FeeAbove feeE8s := by
  unfold allocateProportionally
  split
  · exact feeAbove_pay plan gross feeE8s
  · exact feeAbove_of_share (share_skipIfUnset plan _) (feeAbove_of_unpaid unpaid feeE8s)

theorem allocateProportionally_payable (plan : BurnPlan) (gross : Nat) (unpaid : plan.amountE8s = 0) :
    (allocateProportionally feeE8s plan gross).share.payable ≤ gross := by
  unfold allocateProportionally
  split
  · exact payable_le_gross (plan.pay gross feeE8s).share
  · rw [share_skipIfUnset]
    simp [BurnPlan.share, Share.payable, unpaid]

theorem desiredTopups_unpaid :
    ∀ plan ∈ (desiredTopups samples feeE8s estimate nowNanos).map Prod.fst, plan.Unpaid := by
  intro plan member
  simp only [desiredTopups, burnPlans, List.map_map, List.mem_map, Function.comp_apply] at member
  rcases member with ⟨current, _, rfl⟩
  simp only [desiredGross]
  split
  · split <;> rfl
  · split <;> rfl

section Distribution

/-- The allocations add up to what was used, which the balance covers. -/
structure Distributed (desired : List Nat) (available : Nat) (acc : Distribution) : Prop where
  length : acc.shares.length = desired.length
  used : acc.used = acc.shares.sum
  bounded : acc.used ≤ available

variable {desired : List Nat} {available : Nat}

theorem sum_set_succ {values : List Nat} {index : Nat} (inside : index < values.length) :
    (values.set index (values.getD index 0 + 1)).sum = values.sum + 1 := by
  induction values generalizing index with
  | nil => cases inside
  | cons value values ih =>
      cases index with
      | zero =>
          simp only [List.set_cons_zero, List.getD_cons_zero, List.sum_cons]
          omega
      | succ index =>
          have rest := ih (Nat.lt_of_succ_lt_succ inside)
          simp only [List.set_cons_succ, List.getD_cons_succ, List.sum_cons]
          omega

theorem getD_le_sum (values : List Nat) (index : Nat) : values.getD index 0 ≤ values.sum := by
  induction values generalizing index with
  | nil => simp
  | cons value values ih =>
      cases index with
      | zero => simp
      | succ index =>
          have rest := ih index
          simp only [List.getD_cons_succ, List.sum_cons]
          omega

theorem advance_distributed (small : available ≤ u64Max)
    (distributed : Distributed desired available acc) (index : Nat) :
    Distributed desired available (acc.advance desired available index) := by
  unfold Distribution.advance
  split
  · exact distributed
  · rename_i room
    split
    · rename_i below
      have inside : index < acc.shares.length := by
        rw [distributed.length]
        by_contra outside
        have beyond : desired.getD index 0 = 0 := by
          rw [List.getD_eq_getElem?_getD, List.getElem?_eq_none (Nat.le_of_not_lt outside)]
          rfl
        omega
      have part := getD_le_sum acc.shares index
      have total := distributed.used
      have one : satAdd u64Max (acc.shares.getD index 0) 1 = acc.shares.getD index 0 + 1 :=
        satAdd_of_le (by omega)
      have more : satAdd u64Max acc.used 1 = acc.used + 1 := satAdd_of_le (by omega)
      rw [one, more]
      refine ⟨?_, ?_, ?_⟩
      · simpa using distributed.length
      · rw [sum_set_succ inside, total]
      · show acc.used + 1 ≤ available
        omega
    · exact distributed

theorem foldl_advance_distributed (small : available ≤ u64Max) (order : List Nat)
    (distributed : Distributed desired available acc) :
    Distributed desired available
      (order.foldl (Distribution.advance desired available) acc) := by
  induction order generalizing acc with
  | nil => exact distributed
  | cons index order ih => exact ih (advance_distributed small distributed index)

theorem distribute_distributed (small : available ≤ u64Max) (order : List Nat) (passes : Nat)
    (distributed : Distributed desired available acc) :
    Distributed desired available (distribute desired available order passes acc) := by
  induction passes generalizing acc with
  | zero => exact distributed
  | succ passes ih =>
      have restarted : Distributed desired available { acc with advanced := false } :=
        ⟨distributed.length, distributed.used, distributed.bounded⟩
      have passed := foldl_advance_distributed small order restarted
      simp only [distribute]
      split
      · split
        · exact ih passed
        · exact passed
      · exact distributed

end Distribution

theorem floorShares_le {desired : List Nat} {available : Nat} (covers : desired.sum ≤ total) :
    (desired.map (floorShare total available)).sum ≤ available := by
  have below : ∀ gross ∈ desired, floorShare total available gross ≤ available * id gross / total := by
    intro gross _
    calc
      floorShare total available gross ≤ satMul u128Max available gross / total :=
        Nat.min_le_left _ _
      _ ≤ available * gross / total := Nat.div_le_div_right (Nat.min_le_left _ _)
  calc
    _ ≤ (desired.map fun gross => available * id gross / total).sum := List.sum_le_sum below
    _ ≤ available := sum_floor_le id available total desired (by simpa using covers)

/-- The rest of the balance is handed out without exceeding it. -/
theorem proportional_le_of_floors {desired : List Nat} {available : Nat}
    (floors : (desired.map (floorShare total available)).sum ≤ available)
    (small : available ≤ u64Max) :
    (proportionalTopupGrossAllocations desired total available).sum ≤ available := by
  have exact_used := satSum_of_le (Nat.le_trans floors small)
  have start : Distributed desired available
      ⟨desired.map (floorShare total available),
        satSum u64Max (desired.map (floorShare total available)), false⟩ :=
    ⟨by simp, exact_used, by rw [exact_used]; exact floors⟩
  have settled := distribute_distributed small
    (((List.range desired.length).zip
      (desired.map (floorRemainder total available))).insertionSort largestRemainderFirst |>.map
        Prod.fst)
    (available - satSum u64Max (desired.map (floorShare total available))) start
  have used := settled.used
  have bounded := settled.bounded
  simp only [proportionalTopupGrossAllocations]
  omega

theorem proportional_le {desired : List Nat} {available : Nat} (covers : desired.sum ≤ total)
    (small : available ≤ u64Max) :
    (proportionalTopupGrossAllocations desired total available).sum ≤ available :=
  proportional_le_of_floors (floorShares_le covers) small

/-- The planned transfers fit into the balance, and each of them pays its fee. -/
structure Funded (balance feeE8s : Nat) (shares : List Share) : Prop where
  bounded : payableGross shares ≤ balance
  feeAbove : FeeAbove feeE8s shares

theorem feeAbove_shares (each : ∀ plan ∈ plans, plan.FeeAbove feeE8s) :
    FeeAbove feeE8s (plans.map BurnPlan.share) := by
  intro share member
  rcases List.mem_map.mp member with ⟨plan, present, rfl⟩
  exact each plan present

theorem buildAllocationPlan_funded
    (fits : ((desiredTopups samples feeE8s estimate nowNanos).map Prod.snd).sum ≤ u64Max)
    (small : balance ≤ u64Max) :
    Funded balance feeE8s
      ((buildAllocationPlan samples balance feeE8s estimate nowNanos).topups.map
        BurnPlan.share) := by
  have total := satSum_of_le fits
  simp only [buildAllocationPlan]
  split
  · rename_i affordable
    constructor
    · calc
        _ ≤ ((desiredTopups samples feeE8s estimate nowNanos).map Prod.snd).sum :=
          payable_zipWith_le allocateInFull_payable desiredTopups_unpaid _
        _ ≤ balance := by omega
    · exact feeAbove_shares (forall_zipWith allocateInFull_feeAbove desiredTopups_unpaid _)
  · constructor
    · calc
        _ ≤ _ := payable_zipWith_keep reportUnfunded_share _ _
        _ ≤ _ := payable_zipWith_le allocateProportionally_payable desiredTopups_unpaid _
        _ ≤ balance := proportional_le (by omega) small
    · apply feeAbove_shares
      have kept : ∀ plan desired, plan.FeeAbove feeE8s →
          (reportUnfunded plan desired).FeeAbove feeE8s := fun plan desired above =>
        feeAbove_of_share (reportUnfunded_share plan desired) above
      exact forall_zipWith kept
        (forall_zipWith allocateProportionally_feeAbove desiredTopups_unpaid _) _

theorem spendAllShare_feeAbove (unpaid : plan.Unpaid) :
    (spendAllShare balance total feeE8s plan).FeeAbove feeE8s := by
  simp only [spendAllShare]
  split
  · exact feeAbove_of_unpaid unpaid feeE8s
  · split
    · intro paid
      exact absurd paid (Nat.not_lt_of_le (Nat.le_of_eq unpaid))
    · exact feeAbove_pay plan _ feeE8s

theorem spendAllShare_payable (unpaid : plan.Unpaid) :
    (spendAllShare balance total feeE8s plan).share.payable ≤
      balance * plan.targetTopupCycles / total := by
  have nothing : plan.amountE8s = 0 := unpaid
  simp only [spendAllShare]
  split
  · simp [BurnPlan.share, BurnPlan.skip, Share.payable, nothing]
  · split
    · simp [BurnPlan.share, BurnPlan.skip, Share.payable, nothing]
    · calc
        _ ≤ _ := payable_le_gross _
        _ ≤ satMul u128Max balance plan.targetTopupCycles / total := Nat.min_le_left _ _
        _ ≤ balance * plan.targetTopupCycles / total :=
          Nat.div_le_div_right (Nat.min_le_left _ _)

theorem burnPlans_unpaid {headroom : Bool} : ∀ plan ∈ burnPlans samples headroom, plan.Unpaid := by
  intro plan member
  rcases List.mem_map.mp member with ⟨current, _, rfl⟩
  rfl

theorem buildSpendAllCyclesPlan_funded
    (fits : ((burnPlans samples false).map BurnPlan.targetTopupCycles).sum ≤ u128Max) :
    Funded balance feeE8s
      ((buildSpendAllCyclesPlan samples balance feeE8s).topups.map BurnPlan.share) := by
  have total : totalPositiveNeed (burnPlans samples false) =
      ((burnPlans samples false).map BurnPlan.targetTopupCycles).sum :=
    Nat.mod_eq_of_lt (Nat.lt_succ_of_le fits)
  simp only [buildSpendAllCyclesPlan]
  split
  · constructor
    · rw [payableGross_eq_zero]
      · exact Nat.zero_le _
      · intro share member
        simp only [List.map_map, List.mem_map, Function.comp_apply] at member
        rcases member with ⟨plan, present, rfl⟩
        have unpaid : plan.amountE8s = 0 := burnPlans_unpaid plan present
        simp [BurnPlan.share, BurnPlan.skip, unpaid]
    · apply feeAbove_shares
      intro plan member
      rcases List.mem_map.mp member with ⟨burn, present, rfl⟩
      exact feeAbove_of_unpaid (burnPlans_unpaid burn present) feeE8s
  · constructor
    · rw [payableGross_eq_sum]
      calc
        _ = ((burnPlans samples false).map fun plan =>
              (spendAllShare balance (totalPositiveNeed (burnPlans samples false)) feeE8s
                plan).share.payable).sum := by
          simp only [List.map_map]
          rfl
        _ ≤ ((burnPlans samples false).map fun plan => balance * plan.targetTopupCycles /
              totalPositiveNeed (burnPlans samples false)).sum :=
          List.sum_le_sum fun plan present => spendAllShare_payable (burnPlans_unpaid plan present)
        _ ≤ balance := sum_floor_le _ _ _ _ (Nat.le_of_eq total.symm)
    · apply feeAbove_shares
      intro plan member
      rcases List.mem_map.mp member with ⟨burn, present, rfl⟩
      exact spendAllShare_feeAbove (burnPlans_unpaid burn present)

theorem surplusAmount_le (gross feeE8s : Nat) (sent : 0 < (surplusAmount gross feeE8s).1) :
    (surplusAmount gross feeE8s).1 + feeE8s = gross := by
  unfold surplusAmount at sent ⊢
  split at sent
  · cases sent
  · split at sent
    · cases sent
    · rename_i above enough
      rw [if_neg above, if_neg enough]
      dsimp only
      omega

theorem allocateEqualSurplusShares_funded (recipients : List ResolvedSurplusRecipient)
    (balance feeE8s : Nat) :
    Funded balance feeE8s
      ((allocateEqualSurplusShares recipients balance feeE8s).map
        SurplusTransferSample.share) := by
  constructor
  · calc
      _ ≤ _ := payableGross_le_sum _
      _ = recipients.length * (balance / recipients.length) := by
        simp [allocateEqualSurplusShares, SurplusTransferSample.share, Function.comp_def]
      _ ≤ balance := Nat.mul_div_le balance recipients.length
  · intro share member sent
    simp only [allocateEqualSurplusShares, List.map_map, List.mem_map,
      Function.comp_apply] at member
    rcases member with ⟨recipient, _, rfl⟩
    exact surplusAmount_le _ feeE8s sent

theorem buildSurplusPlan_funded (recipients : List ResolvedSurplusRecipient)
    (balance feeE8s : Nat) (estimate : Option ConversionEstimate) (nowNanos : Nat) :
    Funded balance feeE8s
      ((buildSurplusPlan recipients balance feeE8s estimate nowNanos).transfers.map
        SurplusTransferSample.share) := by
  simp only [buildSurplusPlan]
  split
  · refine ⟨Nat.zero_le _, ?_⟩
    intro share member
    cases member
  · exact allocateEqualSurplusShares_funded recipients balance feeE8s

end JupiterSuite.Relay
