import Mathlib.Algebra.Order.BigOperators.Group.List
import JupiterSuite.Base.Word

/-! Floor shares of a pot in proportion to weights, each on its own or as the steps that the floor
of the running weight takes. -/

namespace JupiterSuite.Base

variable {α : Type*}

def satSum (limit : Nat) (values : List Nat) : Nat := values.foldl (satAdd limit) 0

theorem foldl_satAdd (limit start : Nat) (values : List Nat) (fits : start ≤ limit) :
    values.foldl (satAdd limit) start = min (start + values.sum) limit := by
  induction values generalizing start with
  | nil => simp [fits]
  | cons value values ih =>
      rw [List.foldl_cons, ih _ (satAdd_le_limit limit start value), List.sum_cons]
      simp only [satAdd]
      omega

theorem satSum_eq_min (limit : Nat) (values : List Nat) :
    satSum limit values = min values.sum limit := by
  rw [satSum, foldl_satAdd limit 0 values (Nat.zero_le limit), Nat.zero_add]

theorem satSum_of_le {limit : Nat} {values : List Nat} (fits : values.sum ≤ limit) :
    satSum limit values = values.sum := by
  rw [satSum_eq_min]
  exact Nat.min_eq_left fits

theorem sum_floor_mul_le (weight : α → Nat) (pot total : Nat) (l : List α) :
    (l.map fun x => pot * weight x / total).sum * total ≤ pot * (l.map weight).sum := by
  induction l with
  | nil => simp
  | cons x l ih =>
      have floor := Nat.div_mul_le_self (pot * weight x) total
      simp only [List.map_cons, List.sum_cons, Nat.add_mul, Nat.mul_add]
      omega

/-- The floor shares of a pot never exceed it, whatever part of the weights takes part. -/
theorem sum_floor_le (weight : α → Nat) (pot total : Nat) (l : List α)
    (covers : (l.map weight).sum ≤ total) :
    (l.map fun x => pot * weight x / total).sum ≤ pot := by
  cases Nat.eq_zero_or_pos total with
  | inl zero =>
      subst zero
      have nothing : (l.map fun x => pot * weight x / 0).sum = 0 := by simp
      omega
  | inr positive =>
      have scaled : (l.map fun x => pot * weight x / total).sum * total ≤ pot * total :=
        calc
          _ ≤ pot * (l.map weight).sum := sum_floor_mul_le weight pot total l
          _ ≤ pot * total := Nat.mul_le_mul_left pot covers
      exact Nat.le_of_mul_le_mul_right scaled positive

section Steps

variable (pot total : Nat)

/-- The steps that the floor share of a running weight takes from weight to weight. -/
def floorSteps : Nat → List Nat → List Nat
  | _, [] => []
  | running, weight :: rest =>
      ((running + weight) * pot / total - running * pot / total) ::
        floorSteps (running + weight) rest

theorem length_floorSteps (running : Nat) (weights : List Nat) :
    (floorSteps pot total running weights).length = weights.length := by
  induction weights generalizing running with
  | nil => rfl
  | cons weight rest ih => exact congrArg Nat.succ (ih (running + weight))

theorem floor_ascending (running weight : Nat) :
    running * pot / total ≤ (running + weight) * pot / total :=
  Nat.div_le_div_right (Nat.mul_le_mul_right pot (Nat.le_add_right _ _))

theorem sum_floorSteps (running : Nat) (weights : List Nat) :
    running * pot / total + (floorSteps pot total running weights).sum =
      (running + weights.sum) * pot / total := by
  induction weights generalizing running with
  | nil => rfl
  | cons weight rest ih =>
      have later := ih (running + weight)
      have ascending := floor_ascending pot total running weight
      rw [floorSteps, List.sum_cons, List.sum_cons, ← Nat.add_assoc running weight]
      omega

theorem floorStep_near (positive : 0 < total) (running weight : Nat) :
    (running + weight) * pot / total - running * pot / total = weight * pot / total ∨
      (running + weight) * pot / total - running * pot / total =
        divCeil (weight * pot) total := by
  have split : (running + weight) * pot / total = running * pot / total + weight * pot / total +
      if total ≤ running * pot % total + weight * pot % total then 1 else 0 := by
    rw [Nat.add_mul]
    exact Nat.add_div positive
  have rounded : running * pot % total < total := Nat.mod_lt _ positive
  by_cases carried : total ≤ running * pot % total + weight * pot % total
  · right
    have rest : weight * pot % total ≠ 0 := by omega
    rw [if_pos carried, Nat.add_assoc] at split
    rw [divCeil, if_neg rest, split, Nat.add_sub_cancel_left]
  · left
    rw [if_neg carried, Nat.add_zero] at split
    rw [split, Nat.add_sub_cancel_left]

theorem floorStep_le {balance : Nat} (positive : 0 < total) (within : balance ≤ total)
    (running weight : Nat) :
    (running + weight) * balance / total - running * balance / total ≤ weight := by
  have scaled : (running + weight) * balance ≤ running * balance + weight * total := by
    rw [Nat.add_mul]
    exact Nat.add_le_add_left (Nat.mul_le_mul_left weight within) _
  have bound : (running + weight) * balance / total ≤ running * balance / total + weight := by
    calc (running + weight) * balance / total
        ≤ (running * balance + weight * total) / total := Nat.div_le_div_right scaled
      _ = running * balance / total + weight := Nat.add_mul_div_right _ _ positive
  omega

/-- Out of a pot that the total covers, no weight gets more than itself. -/
theorem floorSteps_le {pot total : Nat} (positive : 0 < total) (within : pot ≤ total)
    (running : Nat) (weights : List Nat) :
    List.Forall₂ (· ≤ ·) (floorSteps pot total running weights) weights := by
  induction weights generalizing running with
  | nil => exact .nil
  | cons weight rest ih =>
      exact .cons (floorStep_le total positive within running weight) (ih (running + weight))

end Steps

end JupiterSuite.Base
