import JupiterSuite.Relay.JobFunding

/-! The allocation plans at the limits of their number types: the totals they divide by are
sums that saturate or wrap, and the plans are right exactly as long as this does no harm. -/

namespace JupiterSuite.Relay

open Base

/-! ## What a gross amount becomes -/

def paidShare (feeE8s gross : Nat) : Share :=
  if feeE8s < gross then ⟨gross, gross - feeE8s⟩ else ⟨0, 0⟩

def BurnPlan.Fresh (plan : BurnPlan) : Prop := plan.share = ⟨0, 0⟩

theorem paidShare_gross (feeE8s gross : Nat) :
    (paidShare feeE8s gross).grossShareE8s = if feeE8s < gross then gross else 0 := by
  simp only [paidShare]
  split <;> rfl

theorem paidShare_gross_le (feeE8s gross : Nat) :
    (paidShare feeE8s gross).grossShareE8s ≤ gross := by
  rw [paidShare_gross]
  split <;> omega

variable {grosses desired : List Nat} {plans : List BurnPlan} {acc : Distribution}
  {available total : Nat}

theorem share_zipWith {pay : BurnPlan → Nat → BurnPlan} {feeE8s : Nat} {due : Nat → Prop}
    (each : ∀ plan gross, plan.Fresh → due gross →
      (pay plan gross).share = paidShare feeE8s gross) (fresh : ∀ plan ∈ plans, plan.Fresh)
    (all_due : ∀ gross ∈ grosses, due gross) (sameLength : grosses.length = plans.length) :
    (plans.zipWith pay grosses).map BurnPlan.share = grosses.map (paidShare feeE8s) := by
  induction plans generalizing grosses with
  | nil =>
      rw [List.length_nil, List.length_eq_zero_iff] at sameLength
      rw [sameLength]
      rfl
  | cons plan plans ih =>
      cases grosses with
      | nil => cases sameLength
      | cons gross grosses =>
          rw [List.zipWith_cons_cons, List.map_cons, List.map_cons,
            each plan gross (fresh plan List.mem_cons_self) (all_due gross List.mem_cons_self),
            ih (fun other later => fresh other (List.mem_cons_of_mem plan later))
              (fun other later => all_due other (List.mem_cons_of_mem gross later))
              (Nat.succ.inj sameLength)]

theorem share_zipWith_keep {keep : BurnPlan → Nat → BurnPlan}
    (kept : ∀ plan gross, (keep plan gross).share = plan.share)
    (sameLength : grosses.length = plans.length) :
    (plans.zipWith keep grosses).map BurnPlan.share = plans.map BurnPlan.share := by
  induction plans generalizing grosses with
  | nil => simp
  | cons plan plans ih =>
      cases grosses with
      | nil => cases sameLength
      | cons gross grosses =>
          rw [List.zipWith_cons_cons, List.map_cons, List.map_cons, kept,
            ih (Nat.succ.inj sameLength)]

theorem allocateInFull_share {feeE8s : Nat} (plan : BurnPlan) (gross : Nat) (fresh : plan.Fresh)
    (due : gross = 0 ∨ feeE8s < gross) :
    (allocateInFull feeE8s plan gross).share = paidShare feeE8s gross := by
  rcases due with rfl | above
  · rw [allocateInFull, if_neg (lt_irrefl 0), paidShare, if_neg (Nat.not_lt_zero feeE8s)]
    exact fresh
  · rw [allocateInFull, if_pos (by omega), paidShare, if_pos above]
    rfl

theorem allocateProportionally_share {feeE8s : Nat} (plan : BurnPlan) (gross : Nat)
    (fresh : plan.Fresh) :
    (allocateProportionally feeE8s plan gross).share = paidShare feeE8s gross := by
  rw [allocateProportionally, paidShare]
  split
  · rfl
  · rw [share_skipIfUnset]
    exact fresh

section Desired

variable {samples : CycleSamples} {balance feeE8s nowNanos : Nat}
  {estimate : Option ConversionEstimate}

abbrev desiredGrosses (samples : CycleSamples) (feeE8s : Nat)
    (estimate : Option ConversionEstimate) (nowNanos : Nat) : List Nat :=
  (desiredTopups samples feeE8s estimate nowNanos).map Prod.snd

theorem desiredGross_cases (conversion : ConversionEstimate) (plan : BurnPlan) :
    (desiredGross feeE8s conversion plan).1.share = plan.share ∧
      (desiredGross feeE8s conversion plan).2 ≤ u64Max ∧
      ((desiredGross feeE8s conversion plan).2 = 0 ∨
        feeE8s < (desiredGross feeE8s conversion plan).2) := by
  simp only [desiredGross]
  split
  · refine ⟨?_, Nat.zero_le _, .inl rfl⟩
    dsimp only
    split <;> rfl
  · split
    · exact ⟨rfl, Nat.zero_le _, .inl rfl⟩
    · rename_i above
      exact ⟨rfl, satAdd_le_limit _ _ _, .inr (Nat.lt_of_not_le above)⟩

theorem desiredGrosses_due : ∀ gross ∈ desiredGrosses samples feeE8s estimate nowNanos,
    gross = 0 ∨ feeE8s < gross := by
  intro gross member
  simp only [desiredGrosses, desiredTopups, List.map_map, List.mem_map,
    Function.comp_apply] at member
  rcases member with ⟨plan, _, rfl⟩
  exact (desiredGross_cases _ plan).2.2

theorem desiredGrosses_le : ∀ gross ∈ desiredGrosses samples feeE8s estimate nowNanos,
    gross ≤ u64Max := by
  intro gross member
  simp only [desiredGrosses, desiredTopups, List.map_map, List.mem_map,
    Function.comp_apply] at member
  rcases member with ⟨plan, _, rfl⟩
  exact (desiredGross_cases _ plan).2.1

theorem desiredTopups_fresh :
    ∀ plan ∈ (desiredTopups samples feeE8s estimate nowNanos).map Prod.fst, plan.Fresh := by
  intro plan member
  simp only [desiredTopups, burnPlans, List.map_map, List.mem_map, Function.comp_apply] at member
  rcases member with ⟨current, _, rfl⟩
  exact (desiredGross_cases _ _).1

/-! ## The proportional amounts -/

def Capped (desired shares : List Nat) : Prop :=
  List.Forall₂ (fun share gross => share ≤ gross) shares desired

theorem Capped.set_succ {shares : List Nat} (capped : Capped desired shares) {index : Nat}
    (below : shares.getD index 0 < desired.getD index 0) {next : Nat}
    (step : next ≤ shares.getD index 0 + 1) : Capped desired (shares.set index next) := by
  simp only [Capped] at capped ⊢
  induction capped generalizing index with
  | nil => exact .nil
  | cons first rest ih =>
      cases index with
      | zero =>
          simp only [List.getD_cons_zero] at below step
          exact .cons (by omega) rest
      | succ index =>
          simp only [List.getD_cons_succ] at below step
          exact .cons first (ih below step)

theorem advance_capped (capped : Capped desired acc.shares) (index : Nat) :
    Capped desired (acc.advance desired available index).shares := by
  simp only [Distribution.advance]
  split
  · exact capped
  · split
    · rename_i below
      exact capped.set_succ below (satAdd_le_add _ _ _)
    · exact capped

theorem foldl_advance_capped (order : List Nat) (capped : Capped desired acc.shares) :
    Capped desired (order.foldl (Distribution.advance desired available) acc).shares := by
  induction order generalizing acc with
  | nil => exact capped
  | cons index order ih => exact ih (advance_capped capped index)

theorem distribute_capped (order : List Nat) (passes : Nat) (capped : Capped desired acc.shares) :
    Capped desired (distribute desired available order passes acc).shares := by
  induction passes generalizing acc with
  | zero => exact capped
  | succ passes ih =>
      have passed : Capped desired (acc.pass desired available order).shares :=
        foldl_advance_capped order capped
      simp only [distribute]
      split
      · split
        · exact ih passed
        · exact passed
      · exact capped

theorem proportional_capped (desired : List Nat) (total available : Nat) :
    Capped desired (proportionalTopupGrossAllocations desired total available) := by
  apply distribute_capped
  simp only [Capped, List.forall₂_map_left_iff]
  apply List.forall₂_same.mpr
  intro gross _
  exact Nat.min_le_right _ _

theorem proportional_of_used
    (used : available ≤ satSum u64Max (desired.map (floorShare total available))) :
    proportionalTopupGrossAllocations desired total available =
      desired.map (floorShare total available) := by
  simp only [proportionalTopupGrossAllocations]
  generalize available - satSum u64Max (desired.map (floorShare total available)) = passes
  cases passes with
  | zero => rfl
  | succ passes => rw [distribute, if_neg (Nat.not_lt_of_le used)]

end Desired

/-! ## The plan of the top-ups -/

def assignedGrosses (desired : List Nat) (balance : Nat) : List Nat :=
  if satSum u64Max desired ≤ balance then desired
  else proportionalTopupGrossAllocations desired (satSum u64Max desired) balance

section Allocation

variable {samples : CycleSamples} {balance feeE8s nowNanos : Nat}
  {estimate : Option ConversionEstimate}

theorem allocation_shares :
    (buildAllocationPlan samples balance feeE8s estimate nowNanos).topups.map BurnPlan.share =
      (assignedGrosses (desiredGrosses samples feeE8s estimate nowNanos) balance).map
        (paidShare feeE8s) := by
  have sameLength : (desiredGrosses samples feeE8s estimate nowNanos).length =
      ((desiredTopups samples feeE8s estimate nowNanos).map Prod.fst).length := by
    rw [List.length_map, List.length_map]
  simp only [buildAllocationPlan, assignedGrosses]
  split
  · exact share_zipWith allocateInFull_share desiredTopups_fresh desiredGrosses_due sameLength
  · have capped := proportional_capped (desiredGrosses samples feeE8s estimate nowNanos)
      (satSum u64Max (desiredGrosses samples feeE8s estimate nowNanos)) balance
    have assigned_length := capped.length_eq.trans sameLength
    have allocates : ∀ plan gross, plan.Fresh → True →
        (allocateProportionally feeE8s plan gross).share = paidShare feeE8s gross :=
      fun plan gross fresh _ => allocateProportionally_share plan gross fresh
    rw [share_zipWith_keep reportUnfunded_share]
    · exact share_zipWith allocates desiredTopups_fresh (fun _ _ => trivial) assigned_length
    · rw [List.length_zipWith]
      calc
        _ = ((desiredTopups samples feeE8s estimate nowNanos).map Prod.fst).length := sameLength
        _ = _ := (Nat.min_eq_left (le_of_eq assigned_length.symm)).symm

theorem allocationPlan_funded :
    (buildAllocationPlan samples balance feeE8s estimate nowNanos).topupPhaseFullyFunded =
      decide (satSum u64Max (desiredGrosses samples feeE8s estimate nowNanos) ≤ balance) := by
  simp only [buildAllocationPlan]
  split
  · rename_i covered
    exact (decide_eq_true covered).symm
  · rename_i short
    exact (decide_eq_false short).symm

theorem allocationPlan_surplus :
    (buildAllocationPlan samples balance feeE8s estimate nowNanos).skippedSurplusReason = none ↔
      satSum u64Max (desiredGrosses samples feeE8s estimate nowNanos) ≤ balance := by
  simp only [buildAllocationPlan]
  split
  · rename_i covered
    exact ⟨fun _ => covered, fun _ => rfl⟩
  · rename_i short
    exact ⟨fun absent => absurd absent (by simp), fun covered => absurd covered short⟩

def aboveFee (feeE8s : Nat) (grosses : List Nat) : Nat :=
  (grosses.filter fun gross => decide (feeE8s < gross)).sum

theorem aboveFee_le (grosses : List Nat) : aboveFee feeE8s grosses ≤ grosses.sum :=
  List.filter_sublist.sum_le_sum fun gross _ => Nat.zero_le gross

theorem paidShares_sum (grosses : List Nat) :
    ((grosses.map (paidShare feeE8s)).map Share.grossShareE8s).sum =
      aboveFee feeE8s grosses := by
  induction grosses with
  | nil => rfl
  | cons gross grosses ih =>
      rw [List.map_cons, List.map_cons, List.sum_cons, ih, paidShare_gross, aboveFee, aboveFee,
        List.filter_cons]
      by_cases above : feeE8s < gross
      · simp [above]
      · simp [above]

/-- The plan of the top-ups does what it is for: nothing overflows, the shares fit the balance,
what is sent is the share less the fee, nobody gets more than asked for, and the surplus may
follow only if everything asked for is funded. -/
structure AllocationSound (samples : CycleSamples) (balance feeE8s : Nat)
    (estimate : Option ConversionEstimate) (nowNanos : Nat) : Prop where
  feeSubtracts : ∀ topup ∈ (buildAllocationPlan samples balance feeE8s estimate nowNanos).topups,
    topup.grossShareE8s ≠ 0 → feeE8s < topup.grossShareE8s
  totalDivides : ¬ satSum u64Max (desiredGrosses samples feeE8s estimate nowNanos) ≤ balance →
    satSum u64Max (desiredGrosses samples feeE8s estimate nowNanos) ≠ 0
  fits : ((buildAllocationPlan samples balance feeE8s estimate nowNanos).topups.map
    BurnPlan.grossShareE8s).sum ≤ balance
  paid : ∀ topup ∈ (buildAllocationPlan samples balance feeE8s estimate nowNanos).topups,
    topup.amountE8s ≠ 0 →
      feeE8s < topup.grossShareE8s ∧ topup.amountE8s = topup.grossShareE8s - feeE8s
  capped : List.Forall₂ (fun topup gross => topup.grossShareE8s ≤ gross)
    (buildAllocationPlan samples balance feeE8s estimate nowNanos).topups
    (desiredGrosses samples feeE8s estimate nowNanos)
  funded : (buildAllocationPlan samples balance feeE8s estimate nowNanos).topupPhaseFullyFunded =
      true ↔ (desiredGrosses samples feeE8s estimate nowNanos).sum ≤ balance
  surplus : (buildAllocationPlan samples balance feeE8s estimate nowNanos).skippedSurplusReason =
      none ↔ (desiredGrosses samples feeE8s estimate nowNanos).sum ≤ balance

/-- The saturated total does no harm: the true one is a 64 bit number, or the shares it is
taken for are so small that they fit all the same. -/
def TotalFits (samples : CycleSamples) (balance feeE8s : Nat)
    (estimate : Option ConversionEstimate) (nowNanos : Nat) : Prop :=
  (desiredGrosses samples feeE8s estimate nowNanos).sum ≤ u64Max ∨
    balance < u64Max ∧
      aboveFee feeE8s ((desiredGrosses samples feeE8s estimate nowNanos).map fun gross =>
        balance * gross / u64Max) ≤ balance

theorem floorShare_word {balance gross : Nat} (small : balance ≤ u64Max) (word : gross ≤ u64Max) :
    floorShare u64Max balance gross = balance * gross / u64Max := by
  have product : balance * gross ≤ u64Max * u64Max := Nat.mul_le_mul small word
  have limit : u64Max * u64Max ≤ u128Max := by decide
  have positive : 0 < u64Max := by decide
  have share_le : balance * gross / u64Max ≤ gross := by
    apply Nat.div_le_of_le_mul
    exact Nat.mul_le_mul_right gross small
  rw [floorShare, satMul, Nat.min_eq_left (le_trans product limit), Nat.min_eq_left share_le]

/-- When the total saturates, the assigned amounts fit exactly if the floors above the fee do. -/
theorem saturated_fits (small : balance < u64Max) (words : ∀ gross ∈ desired, gross ≤ u64Max) :
    aboveFee feeE8s (proportionalTopupGrossAllocations desired u64Max balance) ≤ balance ↔
      aboveFee feeE8s (desired.map fun gross => balance * gross / u64Max) ≤ balance := by
  have floors : desired.map (floorShare u64Max balance) =
      desired.map fun gross => balance * gross / u64Max :=
    List.map_congr_left fun gross member => floorShare_word (le_of_lt small) (words gross member)
  by_cases room : (desired.map (floorShare u64Max balance)).sum ≤ balance
  · constructor
    · intro _
      rw [← floors]
      exact le_trans (aboveFee_le _) room
    · intro _
      exact le_trans (aboveFee_le _) (proportional_le_of_floors room (le_of_lt small))
  · have used : balance ≤ satSum u64Max (desired.map (floorShare u64Max balance)) := by
      rw [satSum_eq_min]
      omega
    rw [proportional_of_used used, floors]

theorem mem_shares_paid (shares : plans.map BurnPlan.share = grosses.map (paidShare feeE8s))
    {topup : BurnPlan} (member : topup ∈ plans) :
    (topup.grossShareE8s = 0 ∧ topup.amountE8s = 0) ∨
      feeE8s < topup.grossShareE8s ∧ topup.amountE8s = topup.grossShareE8s - feeE8s := by
  have inShares : topup.share ∈ grosses.map (paidShare feeE8s) := by
    rw [← shares]
    exact List.mem_map_of_mem member
  obtain ⟨gross, _, same⟩ := List.mem_map.mp inShares
  simp only [paidShare, BurnPlan.share] at same
  split at same
  · rename_i above
    simp only [Share.mk.injEq] at same
    refine .inr ⟨same.1 ▸ above, ?_⟩
    rw [← same.1, ← same.2]
  · simp only [Share.mk.injEq] at same
    exact .inl ⟨same.1.symm, same.2.symm⟩

theorem assigned_capped (desired : List Nat) (balance : Nat) :
    Capped desired (assignedGrosses desired balance) := by
  simp only [assignedGrosses]
  split
  · exact List.forall₂_same.mpr fun gross _ => le_refl gross
  · exact proportional_capped _ _ _

theorem allocation_capped (shares : plans.map BurnPlan.share = grosses.map (paidShare feeE8s))
    (capped : Capped desired grosses) :
    List.Forall₂ (fun topup gross => topup.grossShareE8s ≤ gross) plans desired := by
  simp only [Capped] at capped
  induction capped generalizing plans with
  | nil =>
      rw [List.map_nil, List.map_eq_nil_iff] at shares
      rw [shares]
      exact .nil
  | cons first _ ih =>
      cases plans with
      | nil => cases shares
      | cons plan plans =>
          rw [List.map_cons, List.map_cons, List.cons.injEq] at shares
          refine .cons ?_ (ih shares.2)
          calc
            plan.grossShareE8s = plan.share.grossShareE8s := rfl
            _ ≤ _ := shares.1 ▸ paidShare_gross_le feeE8s _
            _ ≤ _ := first

theorem allocation_sum :
    ((buildAllocationPlan samples balance feeE8s estimate nowNanos).topups.map
      BurnPlan.grossShareE8s).sum =
    aboveFee feeE8s
      (assignedGrosses (desiredGrosses samples feeE8s estimate nowNanos) balance) := by
  rw [← paidShares_sum, ← allocation_shares, List.map_map]
  rfl

/-- The plan of the top-ups is right exactly if the saturated total does no harm. -/
theorem allocation_sound_iff (small : balance ≤ u64Max) :
    AllocationSound samples balance feeE8s estimate nowNanos ↔
      TotalFits samples balance feeE8s estimate nowNanos := by
  have words : ∀ gross ∈ desiredGrosses samples feeE8s estimate nowNanos, gross ≤ u64Max :=
    desiredGrosses_le
  have total := satSum_eq_min u64Max (desiredGrosses samples feeE8s estimate nowNanos)
  have saturated : ¬ (desiredGrosses samples feeE8s estimate nowNanos).sum ≤ u64Max →
      balance < u64Max →
        (aboveFee feeE8s
          (assignedGrosses (desiredGrosses samples feeE8s estimate nowNanos) balance) ≤ balance ↔
        aboveFee feeE8s ((desiredGrosses samples feeE8s estimate nowNanos).map fun gross =>
          balance * gross / u64Max) ≤ balance) := by
    intro beyond below
    have limit : satSum u64Max (desiredGrosses samples feeE8s estimate nowNanos) = u64Max := by
      omega
    rw [assignedGrosses, limit, if_neg (by omega)]
    exact saturated_fits below words
  constructor
  · intro sound
    by_contra harm
    rw [TotalFits, not_or] at harm
    obtain ⟨beyond, notSmall⟩ := harm
    rcases Nat.lt_or_ge balance u64Max with below | full
    · have fits := sound.fits
      rw [allocation_sum, saturated beyond below] at fits
      exact notSmall ⟨below, fits⟩
    · -- the saturated total looks funded
      have funded := sound.funded
      rw [allocationPlan_funded, decide_eq_true_eq] at funded
      have exceeds := funded.mp (by omega)
      omega
  · intro fits
    have covers : satSum u64Max (desiredGrosses samples feeE8s estimate nowNanos) ≤ balance ↔
        (desiredGrosses samples feeE8s estimate nowNanos).sum ≤ balance := by
      rcases fits with within | ⟨below, _⟩ <;> omega
    refine ⟨?_, ?_, ?_, ?_, allocation_capped allocation_shares (assigned_capped _ _), ?_, ?_⟩
    · intro topup member shared
      rcases mem_shares_paid allocation_shares member with ⟨nothing, _⟩ | ⟨above, _⟩
      · exact absurd nothing shared
      · exact above
    · intro short zero
      omega
    · rw [allocation_sum]
      rcases Nat.lt_or_ge u64Max
        (desiredGrosses samples feeE8s estimate nowNanos).sum with beyond | within
      · rcases fits with impossible | ⟨below, floors⟩
        · omega
        · exact (saturated (Nat.not_le_of_lt beyond) below).mpr floors
      · apply le_trans (aboveFee_le _)
        rw [assignedGrosses]
        split
        · rename_i covered
          exact covers.mp covered
        · exact proportional_le (by omega) small
    · intro topup member sent
      rcases mem_shares_paid allocation_shares member with ⟨_, nothing⟩ | paid
      · exact absurd nothing sent
      · exact paid
    · rw [allocationPlan_funded, decide_eq_true_eq]
      exact covers
    · rw [allocationPlan_surplus]
      exact covers

end Allocation

/-! ## The plan that spends everything on cycles -/

section SpendAll

variable {samples : CycleSamples} {balance feeE8s : Nat}

abbrev spendAllNeeds (samples : CycleSamples) : List Nat :=
  (burnPlans samples false).map BurnPlan.targetTopupCycles

/-- The plan that spends everything does what it is for: the sum of the needs does not
overflow, the shares fit the balance, and what is sent is the share less the fee. -/
structure SpendAllSound (samples : CycleSamples) (balance feeE8s : Nat) : Prop where
  totalExact : totalPositiveNeed (burnPlans samples false) = (spendAllNeeds samples).sum
  fits : ((buildSpendAllCyclesPlan samples balance feeE8s).topups.map
    BurnPlan.grossShareE8s).sum ≤ balance
  paid : ∀ topup ∈ (buildSpendAllCyclesPlan samples balance feeE8s).topups,
    topup.amountE8s ≠ 0 →
      feeE8s < topup.grossShareE8s ∧ topup.amountE8s = topup.grossShareE8s - feeE8s

theorem spendAllShare_gross_le {plan : BurnPlan} (fresh : plan.Fresh) :
    (spendAllShare balance total feeE8s plan).grossShareE8s ≤
      balance * plan.targetTopupCycles / total := by
  have share_le : satMul u128Max balance plan.targetTopupCycles / total ≤
      balance * plan.targetTopupCycles / total := Nat.div_le_div_right (Nat.min_le_left _ _)
  have nothing : plan.grossShareE8s = 0 := congrArg Share.grossShareE8s fresh
  simp only [spendAllShare]
  split
  · exact le_trans (le_of_eq nothing) (Nat.zero_le _)
  · split
    · exact le_trans (Nat.min_le_left _ _) share_le
    · exact le_trans (Nat.min_le_left _ _) share_le

theorem spendAllShare_paid {plan : BurnPlan} (fresh : plan.Fresh)
    (sent : (spendAllShare balance total feeE8s plan).amountE8s ≠ 0) :
    feeE8s < (spendAllShare balance total feeE8s plan).grossShareE8s ∧
      (spendAllShare balance total feeE8s plan).amountE8s =
        (spendAllShare balance total feeE8s plan).grossShareE8s - feeE8s := by
  have nothing : plan.amountE8s = 0 := congrArg Share.amountE8s fresh
  simp only [spendAllShare] at sent ⊢
  split at sent
  · exact absurd nothing sent
  · split at sent
    · exact absurd nothing sent
    · rename_i needed efficient
      rw [not_or] at efficient
      rw [if_neg needed, if_neg (not_or.mpr efficient)]
      exact ⟨Nat.lt_of_not_le efficient.2, rfl⟩

theorem burnPlans_fresh {headroom : Bool} : ∀ plan ∈ burnPlans samples headroom, plan.Fresh := by
  intro plan member
  rcases List.mem_map.mp member with ⟨current, _, rfl⟩
  rfl

theorem spendAll_sound_iff :
    SpendAllSound samples balance feeE8s ↔ (spendAllNeeds samples).sum ≤ u128Max := by
  constructor
  · intro sound
    have total := sound.totalExact
    have below : totalPositiveNeed (burnPlans samples false) < u128Max + 1 :=
      Nat.mod_lt _ (Nat.succ_pos u128Max)
    omega
  · intro fits
    have total : totalPositiveNeed (burnPlans samples false) = (spendAllNeeds samples).sum :=
      Nat.mod_eq_of_lt (Nat.lt_succ_of_le fits)
    refine ⟨total, ?_, ?_⟩
    · simp only [buildSpendAllCyclesPlan]
      split
      · rw [List.map_map, List.sum_eq_zero]
        · exact Nat.zero_le balance
        · intro gross member
          obtain ⟨plan, present, rfl⟩ := List.mem_map.mp member
          exact congrArg Share.grossShareE8s (burnPlans_fresh plan present)
      · rw [List.map_map]
        calc
          _ ≤ ((burnPlans samples false).map fun plan => balance * plan.targetTopupCycles /
                totalPositiveNeed (burnPlans samples false)).sum :=
            List.sum_le_sum fun plan present =>
              spendAllShare_gross_le (burnPlans_fresh plan present)
          _ ≤ balance := sum_floor_le _ _ _ _ (Nat.le_of_eq total.symm)
    · simp only [buildSpendAllCyclesPlan]
      intro topup member sent
      split at member
      · obtain ⟨plan, present, rfl⟩ := List.mem_map.mp member
        exact absurd (congrArg Share.amountE8s (burnPlans_fresh plan present)) sent
      · obtain ⟨plan, present, rfl⟩ := List.mem_map.mp member
        exact spendAllShare_paid (burnPlans_fresh plan present) sent

end SpendAll

/-- Each plan is right exactly as long as the total it divides by is. -/
theorem allocation_plans {samples : CycleSamples} {balance feeE8s nowNanos : Nat}
    {estimate : Option ConversionEstimate} (small : balance ≤ u64Max) :
    (AllocationSound samples balance feeE8s estimate nowNanos ↔
      TotalFits samples balance feeE8s estimate nowNanos) ∧
    (SpendAllSound samples balance feeE8s ↔ (spendAllNeeds samples).sum ≤ u128Max) :=
  ⟨allocation_sound_iff small, spendAll_sound_iff⟩

def deficitSamples (first second : Nat) : CycleSamples where
  current := [(⟨[1]⟩, 0), (⟨[2]⟩, 0)]
  previous := fun _ => none
  relayMinted := fun _ => none
  recoveryDeficits := fun canisterId =>
    if canisterId = ⟨[1]⟩ then some first else if canisterId = ⟨[2]⟩ then some second else none

/-- Two equal deficits with balances that do and that do not fund them. -/
theorem allocation_plans_deficits :
    AllocationSound (deficitSamples 1000000000000 1000000000000) 30000000 10000 none 0 ∧
      AllocationSound (deficitSamples 1000000000000 1000000000000) 15000000 10000 none 0 ∧
      SpendAllSound (deficitSamples 1000000000000 1000000000000) 15000000 10000 := by
  have plans : (AllocationSound (deficitSamples 1000000000000 1000000000000) 15000000 10000
      none 0 ↔ TotalFits (deficitSamples 1000000000000 1000000000000) 15000000 10000 none 0) ∧
      (SpendAllSound (deficitSamples 1000000000000 1000000000000) 15000000 10000 ↔
        (spendAllNeeds (deficitSamples 1000000000000 1000000000000)).sum ≤ u128Max) :=
    allocation_plans (by decide)
  exact ⟨(allocation_plans (by decide)).1.mpr (.inl (by decide +kernel)),
    plans.1.mpr (.inl (by decide +kernel)), plans.2.mpr (by decide +kernel)⟩

/-- With deficits at the limit both totals are too small, and ten ICP are handed out twice. -/
theorem allocation_plans_overflow :
    ¬ AllocationSound (deficitSamples (2 ^ 127) (2 ^ 127 + 1)) 1000000000 10000 none 0 ∧
      ¬ SpendAllSound (deficitSamples (2 ^ 127) (2 ^ 127 + 1)) 1000000000 10000 := by
  constructor
  · intro sound
    have fits := sound.fits
    have handed_out : ((buildAllocationPlan (deficitSamples (2 ^ 127) (2 ^ 127 + 1)) 1000000000
        10000 none 0).topups.map BurnPlan.grossShareE8s).sum = 2000000000 := by decide +kernel
    omega
  · intro sound
    have fits := sound.fits
    have handed_out : ((buildSpendAllCyclesPlan (deficitSamples (2 ^ 127) (2 ^ 127 + 1)) 1000000000
        10000).topups.map BurnPlan.grossShareE8s).sum = u64Max + u64Max := by decide +kernel
    have positive : 1000000000 < u64Max := by decide
    omega

end JupiterSuite.Relay
