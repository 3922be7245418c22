import Mathlib.Algebra.Order.Ring.Nat
import Mathlib.Data.List.Nodup
import Mathlib.Algebra.BigOperators.Group.List.Basic

/-! Finite maps as lists of entries with distinct keys, for keys that have no order. -/

namespace JupiterSuite.Base

structure KeyedMap (κ : Type*) (ν : Type*) where
  entries : List (κ × ν)
  distinct : (entries.map Prod.fst).Nodup
  deriving DecidableEq

namespace KeyedMap

variable {κ ν : Type*} [DecidableEq κ]

def empty : KeyedMap κ ν := ⟨[], List.nodup_nil⟩

instance [Repr κ] [Repr ν] : Repr (KeyedMap κ ν) where
  reprPrec map precedence := reprPrec map.entries precedence

def lookupIn (key : κ) : List (κ × ν) → Option ν
  | [] => none
  | entry :: rest => if entry.1 = key then some entry.2 else lookupIn key rest

def lookup (map : KeyedMap κ ν) (key : κ) : Option ν := lookupIn key map.entries

def updateIn (key : κ) (f : Option ν → ν) : List (κ × ν) → List (κ × ν)
  | [] => [(key, f none)]
  | entry :: rest =>
      if entry.1 = key then (key, f (some entry.2)) :: rest else entry :: updateIn key f rest

theorem mem_keys_updateIn (key other : κ) (f : Option ν → ν) (entries : List (κ × ν)) :
    other ∈ (updateIn key f entries).map Prod.fst ↔
      other = key ∨ other ∈ entries.map Prod.fst := by
  induction entries with
  | nil => simp [updateIn]
  | cons front rest ih =>
      simp only [updateIn]
      split
      · rename_i here
        simp [here]
      · rw [List.map_cons, List.mem_cons, ih, List.map_cons, List.mem_cons, or_left_comm]

theorem updateIn_distinct {key : κ} {f : Option ν → ν} {entries : List (κ × ν)}
    (distinct : (entries.map Prod.fst).Nodup) : ((updateIn key f entries).map Prod.fst).Nodup := by
  induction entries with
  | nil => exact List.nodup_singleton key
  | cons front rest ih =>
      rw [List.map_cons, List.nodup_cons] at distinct
      simp only [updateIn]
      split
      · rename_i here
        rw [List.map_cons, List.nodup_cons, ← here]
        exact distinct
      · rename_i elsewhere
        rw [List.map_cons, List.nodup_cons, mem_keys_updateIn, not_or]
        exact ⟨⟨elsewhere, distinct.1⟩, ih distinct.2⟩

/-- Sets the value of a key from the one it has. -/
def update (map : KeyedMap κ ν) (key : κ) (f : Option ν → ν) : KeyedMap κ ν :=
  ⟨updateIn key f map.entries, updateIn_distinct map.distinct⟩

theorem lookupIn_updateIn (key other : κ) (f : Option ν → ν) (entries : List (κ × ν)) :
    lookupIn other (updateIn key f entries) =
      if other = key then some (f (lookupIn key entries)) else lookupIn other entries := by
  induction entries with
  | nil => simp only [updateIn, lookupIn, eq_comm]
  | cons front rest ih =>
      simp only [updateIn]
      split
      · rename_i here
        by_cases same : other = key
        · rw [lookupIn, if_pos same.symm, if_pos same, lookupIn, if_pos here]
        · have elsewhere : ¬ front.1 = other := fun there => same (there.symm.trans here)
          rw [lookupIn, if_neg (Ne.symm same), if_neg same, lookupIn, if_neg elsewhere]
      · rename_i notHere
        rw [lookupIn, ih]
        by_cases same : other = key
        · rw [same, if_neg notHere, if_pos rfl, if_pos rfl, lookupIn, if_neg notHere]
        · rw [if_neg same, if_neg same, lookupIn]

theorem lookup_update (map : KeyedMap κ ν) (key other : κ) (f : Option ν → ν) :
    (map.update key f).lookup other =
      if other = key then some (f (map.lookup key)) else map.lookup other :=
  lookupIn_updateIn key other f map.entries

section Sums

variable (measure : ν → Nat)

/-- The sum of a measure of the values. -/
def sumOf (map : KeyedMap κ ν) : Nat := (map.entries.map fun entry => measure entry.2).sum

/-- The measure of a key's value; an absent one has none. -/
def measureAt (map : KeyedMap κ ν) (key : κ) : Nat := (map.lookup key).elim 0 measure

theorem sumOf_updateIn (key : κ) (f : Option ν → ν) (entries : List (κ × ν)) :
    ((updateIn key f entries).map fun entry => measure entry.2).sum +
        (lookupIn key entries).elim 0 measure =
      (entries.map fun entry => measure entry.2).sum + measure (f (lookupIn key entries)) := by
  induction entries with
  | nil => simp [updateIn, lookupIn]
  | cons front rest ih =>
      simp only [updateIn]
      split
      · rename_i here
        rw [lookupIn, if_pos here]
        simp only [List.map_cons, List.sum_cons, Option.elim_some]
        omega
      · rename_i notHere
        rw [lookupIn, if_neg notHere]
        simp only [List.map_cons, List.sum_cons]
        omega

theorem sumOf_update (map : KeyedMap κ ν) (key : κ) (f : Option ν → ν) :
    (map.update key f).sumOf measure + map.measureAt measure key =
      map.sumOf measure + measure (f (map.lookup key)) :=
  sumOf_updateIn measure key f map.entries

theorem measureAt_le_sumOf (map : KeyedMap κ ν) (key : κ) :
    map.measureAt measure key ≤ map.sumOf measure := by
  rcases map with ⟨entries, distinct⟩
  simp only [measureAt, lookup, sumOf]
  clear distinct
  induction entries with
  | nil => exact Nat.le_refl 0
  | cons front rest ih =>
      rw [lookupIn, List.map_cons, List.sum_cons]
      split
      · exact Nat.le_add_right _ _
      · omega

end Sums

end KeyedMap

end JupiterSuite.Base
