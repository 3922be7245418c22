import JupiterSuite.Relay.RewardPayout
import JupiterSuite.Relay.SplitterShares

/-! The two splits by running floors: the reward pot among its contributors, and a splitter's
payment among the credits that it was made of. -/

namespace JupiterSuite.Relay

open Base

def eligibleWeight (eligible : List (Principal × Nat)) : Nat := (eligible.map Prod.snd).sum

/-- What each contributor is entitled to before the fee: a floor of the running weight less the
one before. -/
def grossEntitlements (balance : Nat) (eligible : List (Principal × Nat)) :
    List (Principal × Nat) :=
  (eligible.map Prod.fst).zip
    (floorSteps balance (eligibleWeight eligible) 0 (eligible.map Prod.snd))

/-- An entitlement is paid less the fee, where the fee is at most a tenth of what is paid. -/
def payEntitlement (fee : Nat) (entitlement : Principal × Nat) : Option (Principal × Nat) :=
  if fee < entitlement.2 ∧ fee * 10 ≤ entitlement.2 - fee then
    some (entitlement.1, entitlement.2 - fee)
  else none

theorem sumWeights_eq {limit start : Nat} {eligible : List (Principal × Nat)}
    (begun : start ≤ limit) :
    sumWeights limit eligible start =
      if start + eligibleWeight eligible ≤ limit then .ok (start + eligibleWeight eligible)
      else .error "contribution_overflow" := by
  induction eligible generalizing start with
  | nil => exact (if_pos begun).symm
  | cons entry rest ih =>
      rcases entry with ⟨principal, weight⟩
      have whole : start + eligibleWeight ((principal, weight) :: rest) =
          start + weight + eligibleWeight rest := by
        simp only [eligibleWeight, List.map_cons, List.sum_cons]
        omega
      rw [sumWeights, whole]
      by_cases fits : start + weight ≤ limit
      · rw [checkedAdd, if_pos fits]
        exact ih fits
      · rw [checkedAdd, if_neg fits, if_neg (by omega)]

theorem allocateFloors_eq {balance fee totalWeight running : Nat}
    {eligible : List (Principal × Nat)}
    (fits : running + eligibleWeight eligible ≤ u128Max) :
    allocateFloors balance fee totalWeight eligible running (running * balance / totalWeight) =
      .ok (((eligible.map Prod.fst).zip (floorSteps balance totalWeight running
        (eligible.map Prod.snd))).filterMap (payEntitlement fee)) := by
  induction eligible generalizing running with
  | nil => rfl
  | cons entry rest ih =>
      rcases entry with ⟨principal, weight⟩
      simp only [eligibleWeight, List.map_cons, List.sum_cons] at fits
      have later := @ih (running + weight) (by simp only [eligibleWeight]; omega)
      rw [allocateFloors, checkedAdd, if_pos (by omega)]
      dsimp only
      rw [later, List.map_cons, List.map_cons, floorSteps, List.zip_cons_cons,
        List.filterMap_cons, payEntitlement]
      dsimp only [Except.map]
      split
      · rfl
      · rfl

theorem proportionalRewardAllocations_eq (balance fee : Nat) (eligible : List (Principal × Nat)) :
    proportionalRewardAllocations balance fee eligible =
      if eligible.isEmpty then .error "no_eligible_owner"
      else if u128Max < eligibleWeight eligible then .error "contribution_overflow"
      else if eligibleWeight eligible = 0 then .error "no_eligible_owner"
      else
        let paid := (grossEntitlements balance eligible).filterMap (payEntitlement fee)
        if paid.isEmpty then .error "no_economical_reward_recipient" else .ok paid := by
  rw [proportionalRewardAllocations]
  split
  · rfl
  · have summed := @sumWeights_eq u128Max 0 eligible (Nat.zero_le u128Max)
    rw [Nat.zero_add] at summed
    rw [summed]
    by_cases fits : eligibleWeight eligible ≤ u128Max
    · have allocated := @allocateFloors_eq balance fee (eligibleWeight eligible) 0 eligible
        (by omega)
      rw [Nat.zero_mul, Nat.zero_div] at allocated
      rw [if_pos fits, if_neg (by omega), ok_bind]
      split
      · rfl
      · rw [allocated, ok_bind]
        rfl
    · rw [if_neg fits, if_pos (by omega)]
      rfl

theorem sum_paid_le (fee : Nat) (entitlements : List (Principal × Nat)) :
    ((entitlements.filterMap (payEntitlement fee)).map fun paid => paid.2 + fee).sum ≤
      (entitlements.map Prod.snd).sum := by
  induction entitlements with
  | nil => exact Nat.le_refl _
  | cons entitlement rest ih =>
      rw [List.filterMap_cons, payEntitlement, List.map_cons, List.sum_cons]
      split
      · rename_i none_paid
        exact ih.trans (Nat.le_add_left _ _)
      · rename_i paid found
        split at found
        · rename_i economical
          cases found
          have above := economical.1
          rw [List.map_cons, List.sum_cons]
          dsimp only
          omega
        · cases found

theorem grossEntitlements_snd (balance : Nat) (eligible : List (Principal × Nat)) :
    (grossEntitlements balance eligible).map Prod.snd =
      floorSteps balance (eligibleWeight eligible) 0 (eligible.map Prod.snd) := by
  apply List.map_snd_zip
  rw [length_floorSteps, List.length_map, List.length_map]

theorem sum_grossEntitlements {balance : Nat} {eligible : List (Principal × Nat)}
    (some_weight : 0 < eligibleWeight eligible) :
    ((grossEntitlements balance eligible).map Prod.snd).sum = balance := by
  rw [grossEntitlements_snd]
  exact sum_allocations some_weight balance

theorem entitlements_near {balance total : Nat} (positive : 0 < total) (running : Nat)
    (eligible : List (Principal × Nat)) :
    List.Forall₂ (fun entitlement entry => entitlement.1 = entry.1 ∧
        (entitlement.2 = balance * entry.2 / total ∨
          entitlement.2 = divCeil (balance * entry.2) total))
      ((eligible.map Prod.fst).zip (floorSteps balance total running (eligible.map Prod.snd)))
      eligible := by
  induction eligible generalizing running with
  | nil => exact .nil
  | cons entry rest ih =>
      have near := floorStep_near balance total positive running entry.2
      rw [Nat.mul_comm entry.2 balance] at near
      exact .cons ⟨rfl, near⟩ (ih (running + entry.2))

structure RewardSharesSound (balance fee : Nat) (eligible : List (Principal × Nat)) : Prop where
  near : 0 < eligibleWeight eligible →
    List.Forall₂ (fun entitlement entry => entitlement.1 = entry.1 ∧
        (entitlement.2 = balance * entry.2 / eligibleWeight eligible ∨
          entitlement.2 = divCeil (balance * entry.2) (eligibleWeight eligible)))
      (grossEntitlements balance eligible) eligible
  whole : 0 < eligibleWeight eligible →
    ((grossEntitlements balance eligible).map Prod.snd).sum = balance
  paid : ∀ allocations, proportionalRewardAllocations balance fee eligible = .ok allocations →
    allocations = (grossEntitlements balance eligible).filterMap (payEntitlement fee)
  economical : ∀ allocations, proportionalRewardAllocations balance fee eligible = .ok allocations →
    ∀ paid ∈ allocations, 10 * fee ≤ paid.2
  within : ∀ allocations, proportionalRewardAllocations balance fee eligible = .ok allocations →
    (allocations.map fun paid => paid.2 + fee).sum ≤ balance

theorem paid_of_ok {balance fee : Nat} {eligible allocations : List (Principal × Nat)}
    (allocated : proportionalRewardAllocations balance fee eligible = .ok allocations) :
    0 < eligibleWeight eligible ∧
      allocations = (grossEntitlements balance eligible).filterMap (payEntitlement fee) := by
  rw [proportionalRewardAllocations_eq] at allocated
  split at allocated
  · cases allocated
  · split at allocated
    · cases allocated
    · split at allocated
      · cases allocated
      · rename_i weighted
        dsimp only at allocated
        split at allocated
        · cases allocated
        · cases allocated
          exact ⟨Nat.pos_of_ne_zero weighted, rfl⟩

theorem reward_shares_sound (balance fee : Nat) (eligible : List (Principal × Nat)) :
    RewardSharesSound balance fee eligible := by
  constructor
  · intro weighted
    exact entitlements_near weighted 0 eligible
  · exact sum_grossEntitlements
  · intro allocations allocated
    exact (paid_of_ok allocated).2
  · intro allocations allocated paid member
    rw [(paid_of_ok allocated).2] at member
    rcases List.mem_filterMap.mp member with ⟨entitlement, _, found⟩
    rw [payEntitlement] at found
    split at found
    · rename_i economical
      cases found
      have share := economical.2
      dsimp only
      omega
    · cases found
  · intro allocations allocated
    rcases paid_of_ok allocated with ⟨weighted, same⟩
    rw [same]
    exact (sum_paid_le fee _).trans (Nat.le_of_eq (sum_grossEntitlements weighted))

theorem prefix_floor_splits (balance fee : Nat) (eligible : List (Principal × Nat))
    {credits : List Nat} {amount : Nat} (some_credit : 0 < credits.sum)
    (small : credits.sum ≤ u64Max) (within : amount ≤ credits.sum) :
    RewardSharesSound balance fee eligible ∧
      ∃ allocations, proportionalAllocations credits amount = .ok allocations ∧
        allocations.sum = amount ∧ List.Forall₂ (· ≤ ·) allocations credits :=
  ⟨reward_shares_sound balance fee eligible, _, proportionalAllocations_eq some_credit small within,
    sum_allocations some_credit amount, floorSteps_le some_credit within 0 credits⟩

theorem prefix_floor_splits_three_ways :
    (proportionalRewardAllocations 1000 9 [(⟨[1]⟩, 1), (⟨[2]⟩, 1), (⟨[3]⟩, 1), (⟨[4]⟩, 0)] =
        .ok [(⟨[1]⟩, 324), (⟨[2]⟩, 324), (⟨[3]⟩, 325)] ∧
      proportionalAllocations [5, 1, 4] 7 = .ok [3, 1, 3]) ∧
      RewardSharesSound 1000 9 [(⟨[1]⟩, 1), (⟨[2]⟩, 1), (⟨[3]⟩, 1), (⟨[4]⟩, 0)] ∧
      ∃ allocations, proportionalAllocations [5, 1, 4] 7 = .ok allocations ∧
        allocations.sum = 7 ∧ List.Forall₂ (· ≤ ·) allocations [5, 1, 4] :=
  ⟨⟨by decide +kernel, by decide +kernel⟩,
    prefix_floor_splits 1000 9 _ (by decide) (by decide) (by decide)⟩

end JupiterSuite.Relay
