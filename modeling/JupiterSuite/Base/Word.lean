import Mathlib.Algebra.Order.Ring.Nat

/-! Saturating and checked arithmetic below an inclusive limit. -/

namespace JupiterSuite.Base

def satAdd (limit a b : Nat) : Nat := min (a + b) limit

def checkedAdd (limit a b : Nat) : Option Nat := if a + b ≤ limit then some (a + b) else none

def checkedSub (a b : Nat) : Option Nat := if b ≤ a then some (a - b) else none

def checkedMul (limit a b : Nat) : Option Nat := if a * b ≤ limit then some (a * b) else none

def divCeil (a b : Nat) : Nat := if a % b = 0 then a / b else a / b + 1

theorem satAdd_of_le (fits : a + b ≤ limit) : satAdd limit a b = a + b := by
  simp [satAdd, fits]

theorem satAdd_le_limit (limit a b : Nat) : satAdd limit a b ≤ limit :=
  Nat.min_le_right _ _

theorem satAdd_le_add (limit a b : Nat) : satAdd limit a b ≤ a + b :=
  Nat.min_le_left _ _

theorem le_satAdd (b : Nat) (fits : a ≤ limit) : a ≤ satAdd limit a b :=
  Nat.le_min.mpr ⟨Nat.le_add_right a b, fits⟩

theorem checkedAdd_eq_some : checkedAdd limit a b = some c ↔ a + b ≤ limit ∧ c = a + b := by
  unfold checkedAdd
  split
  · simp_all [eq_comm]
  · simp only [reduceCtorEq, false_iff]
    omega

theorem checkedSub_eq_some : checkedSub a b = some c ↔ b ≤ a ∧ c = a - b := by
  unfold checkedSub
  split
  · simp_all [eq_comm]
  · simp only [reduceCtorEq, false_iff]
    omega

theorem checkedMul_eq_some : checkedMul limit a b = some c ↔ a * b ≤ limit ∧ c = a * b := by
  unfold checkedMul
  split
  · simp_all [eq_comm]
  · simp only [reduceCtorEq, false_iff]
    omega

end JupiterSuite.Base
