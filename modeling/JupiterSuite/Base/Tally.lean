import Mathlib.Algebra.Order.BigOperators.Group.List
import Mathlib.Algebra.Order.Ring.Nat
import Mathlib.Data.List.Nodup

/-! Sums of what the members of a list are worth, by the keys they are filed under. -/

namespace JupiterSuite.Base

variable {α κ : Type*}

def tally (key : α → κ) (value : α → Nat) (chosen : κ → Bool) (members : List α) : Nat :=
  ((members.filter fun member => chosen (key member)).map value).sum

section Tallies

variable {key : α → κ} {value : α → Nat} {chosen : κ → Bool} {members : List α} {member : α}
  {keys : List κ}

theorem tally_cons : tally key value chosen (member :: members) =
    (if chosen (key member) then value member else 0) + tally key value chosen members := by
  rw [tally, tally, List.filter_cons]
  split
  · rw [List.map_cons, List.sum_cons]
  · rw [Nat.zero_add]

theorem value_le_tally (present : member ∈ members) (selected : chosen (key member) = true) :
    value member ≤ tally key value chosen members := by
  apply List.single_le_sum fun _ _ => Nat.zero_le _
  exact List.mem_map_of_mem (List.mem_filter.mpr ⟨present, selected⟩)

variable [DecidableEq κ]

theorem sum_tally_cons :
    (keys.map fun one =>
      tally key value (fun other => decide (other = one)) (member :: members)).sum =
      (keys.map fun one => if decide (key member = one) then value member else 0).sum +
        (keys.map fun one => tally key value (fun other => decide (other = one)) members).sum := by
  rw [← List.sum_map_add]
  simp only [tally_cons]

/-- A tally is at most the sum of the tallies of keys that cover it. -/
theorem tally_le_sum (covers : ∀ member ∈ members, chosen (key member) = true → key member ∈ keys) :
    tally key value chosen members ≤
      (keys.map fun one => tally key value (fun other => decide (other = one)) members).sum := by
  induction members with
  | nil => exact Nat.zero_le _
  | cons member members ih =>
      rw [List.forall_mem_cons] at covers
      have rest := ih covers.2
      rw [sum_tally_cons, tally_cons]
      apply Nat.add_le_add _ rest
      by_cases selected : chosen (key member) = true
      · rw [if_pos selected]
        apply List.single_le_sum fun _ _ => Nat.zero_le _
        apply List.mem_map.mpr
        exact ⟨key member, covers.1 selected, by simp⟩
      · rw [if_neg selected]
        exact Nat.zero_le _

theorem matched_absent {wanted : κ} {worth : Nat} (absent : wanted ∉ keys) :
    (keys.map fun one => if decide (wanted = one) then worth else 0).sum = 0 := by
  apply List.sum_eq_zero
  intro part listed
  rcases List.mem_map.mp listed with ⟨one, member, rfl⟩
  have apart : wanted ≠ one := fun same => absent (same ▸ member)
  rw [decide_eq_false apart]
  rfl

theorem matched_le (distinct : keys.Nodup) (wanted : κ) (worth : Nat) :
    (keys.map fun one => if decide (wanted = one) then worth else 0).sum ≤ worth := by
  induction keys with
  | nil => exact Nat.zero_le _
  | cons first keys ih =>
      rw [List.nodup_cons] at distinct
      rw [List.map_cons, List.sum_cons]
      by_cases same : wanted = first
      · rw [matched_absent (same ▸ distinct.1), decide_eq_true same]
        exact Nat.le_refl _
      · rw [decide_eq_false same]
        have rest := ih distinct.2
        simpa using rest

/-- The tallies of distinct chosen keys add up to at most the whole tally. -/
theorem sum_le_tally (distinct : keys.Nodup) (selected : ∀ one ∈ keys, chosen one = true) :
    (keys.map fun one => tally key value (fun other => decide (other = one)) members).sum ≤
      tally key value chosen members := by
  induction members with
  | nil => simp [tally]
  | cons member members ih =>
      rw [sum_tally_cons, tally_cons]
      apply Nat.add_le_add _ ih
      by_cases present : key member ∈ keys
      · rw [if_pos (selected _ present)]
        exact matched_le distinct (key member) (value member)
      · rw [matched_absent present]
        exact Nat.zero_le _

end Tallies
end JupiterSuite.Base
