import Mathlib.Data.List.Sort
import Mathlib.Data.List.Chain
import Mathlib.Data.List.Perm.Basic

/-! Lists sorted by a comparison that may take two different items for equal. -/

namespace JupiterSuite.Base

open Std

section Compared

variable {α : Type*} (compare : α → α → Ordering)

def sortCompared (items : List α) : List α :=
  items.mergeSort fun left right => compare left right != .gt

def StrictlySorted (items : List α) : Prop :=
  items.Pairwise fun left right => compare left right = .lt

def DistinctCompared (items : List α) : Prop :=
  items.Pairwise fun left right => compare left right ≠ .eq

theorem sortCompared_perm (items : List α) : (sortCompared compare items).Perm items :=
  List.mergeSort_perm items _

theorem mem_sortCompared {items : List α} {item : α} :
    item ∈ sortCompared compare items ↔ item ∈ items :=
  (sortCompared_perm compare items).mem_iff

variable {compare} {items left right : List α}

theorem isLE_iff_ne_gt {one another : α} :
    (compare one another != .gt) = true ↔ (compare one another).isLE := by
  cases compare one another <;> decide

theorem lt_of_isLE_of_ne {one another : α} (least : (compare one another).isLE)
    (differ : compare one another ≠ .eq) : compare one another = .lt := by
  cases order : compare one another with
  | lt => rfl
  | eq => exact absurd order differ
  | gt =>
      rw [order] at least
      cases least

theorem StrictlySorted.distinct (sorted : StrictlySorted compare items) :
    DistinctCompared compare items := by
  apply sorted.imp
  intro one another below same
  rw [below] at same
  cases same

theorem StrictlySorted.sortCompared_eq (sorted : StrictlySorted compare items) :
    sortCompared compare items = items := by
  apply List.mergeSort_of_pairwise
  apply sorted.imp
  intro one another below
  rw [below]
  rfl

section Oriented

variable [OrientedCmp compare]

theorem DistinctCompared.perm (distinct : DistinctCompared compare left)
    (permuted : left.Perm right) : DistinctCompared compare right := by
  apply List.Pairwise.perm distinct permuted
  intro one another apart same
  exact apart (OrientedCmp.eq_symm same)

theorem StrictlySorted.nodup (sorted : StrictlySorted compare items) : items.Nodup := by
  apply sorted.imp
  rintro one another below rfl
  have same : compare one one = .eq := ReflCmp.compare_self
  rw [same] at below
  cases below

theorem StrictlySorted.unique (first : StrictlySorted compare left)
    (second : StrictlySorted compare right) (same : ∀ item, item ∈ left ↔ item ∈ right) :
    left = right := by
  have permuted : left.Perm right :=
    (List.perm_ext_iff_of_nodup first.nodup second.nodup).mpr same
  apply permuted.eq_of_pairwise _ first second
  intro one another _ _ below above
  rw [OrientedCmp.gt_of_lt below] at above
  cases above

end Oriented

section Transitive

variable [TransCmp compare]

theorem sortCompared_isLE (items : List α) :
    (sortCompared compare items).Pairwise fun one another => (compare one another).isLE := by
  have sorted : (sortCompared compare items).Pairwise
      fun one another => (compare one another != .gt) = true := by
    apply List.pairwise_mergeSort
    · intro one middle another first second
      rw [isLE_iff_ne_gt] at first second ⊢
      exact TransCmp.isLE_trans first second
    · intro one another
      have swapped : compare another one = (compare one another).swap := OrientedCmp.eq_swap
      rw [swapped]
      cases compare one another <;> decide
  apply sorted.imp
  intro one another below
  exact isLE_iff_ne_gt.mp below

theorem DistinctCompared.sorted (distinct : DistinctCompared compare items) :
    StrictlySorted compare (sortCompared compare items) := by
  have apart := distinct.perm (sortCompared_perm compare items).symm
  apply List.Pairwise.imp₂ _ (sortCompared_isLE items) apart
  intro one another
  exact lt_of_isLE_of_ne

/-- Distinct items have one sorted list, however they are given. -/
theorem DistinctCompared.sortCompared_congr (distinct : DistinctCompared compare left)
    (permuted : left.Perm right) :
    sortCompared compare left = sortCompared compare right := by
  have first := distinct.sorted
  have second := (distinct.perm permuted).sorted
  apply first.unique second
  intro item
  rw [mem_sortCompared, mem_sortCompared]
  exact permuted.mem_iff

/-- In a list sorted by a comparison, items that count as equal stand side by side. -/
theorem strictlySorted_of_chain {sorted : List α}
    (ordered : sorted.Pairwise fun one another => (compare one another).isLE)
    (neighbours : sorted.IsChain fun one another => compare one another ≠ .eq) :
    StrictlySorted compare sorted := by
  induction sorted with
  | nil => exact List.Pairwise.nil
  | cons first rest ih =>
      cases rest with
      | nil => exact List.pairwise_singleton _ _
      | cons second rest =>
          rw [List.isChain_cons_cons] at neighbours
          have later := ih ordered.of_cons neighbours.2
          have below : compare first second = .lt :=
            lt_of_isLE_of_ne (List.rel_of_pairwise_cons ordered List.mem_cons_self) neighbours.1
          apply List.Pairwise.cons _ later
          intro item member
          cases member with
          | head => exact below
          | tail _ member =>
              exact TransCmp.lt_trans below (List.rel_of_pairwise_cons later member)

/-- The neighbours in the sorted list tell whether all items are distinct. -/
theorem distinct_iff_neighbours {items : List α} :
    (sortCompared compare items).IsChain (fun one another => compare one another ≠ .eq) ↔
      DistinctCompared compare items := by
  constructor
  · intro neighbours
    have sorted := strictlySorted_of_chain (sortCompared_isLE items) neighbours
    exact sorted.distinct.perm (sortCompared_perm compare items)
  · intro distinct
    exact (distinct.perm (sortCompared_perm compare items).symm).isChain

end Transitive

end Compared

end JupiterSuite.Base
