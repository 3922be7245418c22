import Mathlib.Data.List.Perm.Basic
import Mathlib.Data.List.Nodup

/-! Pages of an append-only history that is served newest first, behind an exclusive start
cursor. Later entries have greater keys, so what a page says of the older part of a history stays
true when the history grows. -/

namespace JupiterSuite.Base

section Paging

variable {α : Type*} (key : α → Nat)

abbrev NewestFirst (history : List α) : Prop :=
  history.Pairwise fun newer older => key older < key newer

def belowStart (start : Option Nat) (entry : α) : Bool :=
  start.all fun cursor => decide (key entry < cursor)

def pageOf (history : List α) (start : Option Nat) (limit : Nat) : List α :=
  (history.filter (belowStart key start)).take limit

variable {key} {history older : List α} {start : Option Nat} {limit : Nat} {first second : α}

theorem NewestFirst.nodup (newest : NewestFirst key history) : history.Nodup := by
  refine newest.imp ?_
  rintro newer older below rfl
  exact Nat.lt_irrefl _ below

theorem NewestFirst.unique (newest : NewestFirst key history) (left : first ∈ history)
    (right : second ∈ history) (same : key first = key second) : first = second := by
  induction history with
  | nil => cases left
  | cons front rest ih =>
      rcases List.pairwise_cons.mp newest with ⟨above, tail⟩
      rcases List.mem_cons.mp left with rfl | left
      · rcases List.mem_cons.mp right with rfl | right
        · rfl
        · exact absurd (above second right) (by omega)
      · rcases List.mem_cons.mp right with here | right
        · rw [here] at same
          exact absurd (above first left) (by omega)
        · exact ih tail left right

theorem mem_pageOf (member : first ∈ pageOf key history start limit) :
    first ∈ history ∧ belowStart key start first = true :=
  List.mem_filter.mp (List.mem_of_mem_take member)

theorem pageOf_newestFirst (newest : NewestFirst key history) :
    NewestFirst key (pageOf key history start limit) :=
  (newest.filter _).sublist (List.take_sublist _ _)

theorem mem_pageOf_above (newest : NewestFirst key history)
    (served : first ∈ pageOf key history start limit) (member : second ∈ history)
    (below : belowStart key start second = true) (above : key first ≤ key second) :
    second ∈ pageOf key history start limit := by
  have eligible : second ∈ history.filter (belowStart key start) :=
    List.mem_filter.mpr ⟨member, below⟩
  have ordered := newest.filter (belowStart key start)
  rw [← List.take_append_drop limit (history.filter (belowStart key start))] at eligible ordered
  rcases List.mem_append.mp eligible with here | later
  · exact here
  · have crossed := (List.pairwise_append.mp ordered).2.2 first served second later
    omega

/-- A short page holds everything behind its cursor. -/
theorem mem_pageOf_short (short : (pageOf key history start limit).length < limit)
    (member : first ∈ history) (below : belowStart key start first = true) :
    first ∈ pageOf key history start limit := by
  have eligible : first ∈ history.filter (belowStart key start) :=
    List.mem_filter.mpr ⟨member, below⟩
  rw [pageOf, List.length_take] at short
  rw [pageOf, List.take_of_length_le (by omega)]
  exact eligible

/-- The first page shows an entry that nothing in the history is newer than. -/
theorem exists_page_top (newest : NewestFirst key history) (member : second ∈ history)
    (positive : 0 < limit) : ∃ top ∈ pageOf key history none limit, key second ≤ key top := by
  cases history with
  | nil => cases member
  | cons top rest =>
      have whole : (top :: rest).filter (belowStart key none) = top :: rest :=
        List.filter_eq_self.mpr fun _ _ => rfl
      refine ⟨top, ?_, ?_⟩
      · rw [pageOf, whole, List.take_cons positive]
        exact List.mem_cons_self
      · rcases List.mem_cons.mp member with rfl | later
        · exact Nat.le_refl _
        · exact Nat.le_of_lt ((List.pairwise_cons.mp newest).1 second later)

/-- What is not newer than an entry was there when the entry was. -/
theorem mem_of_suffix (newest : NewestFirst key history) (suffix : older <:+ history)
    (known : first ∈ older) (member : second ∈ history) (below : key second ≤ key first) :
    second ∈ older := by
  rcases suffix with ⟨newer, rfl⟩
  rcases List.mem_append.mp member with arrived | there
  · have crossed := (List.pairwise_append.mp newest).2.2 second arrived first known
    omega
  · exact there

/-- The greatest key of a list that has an entry. -/
theorem exists_maxKey (key : α → Nat) (present : history ≠ []) : ∃ greatest ∈ history,
    (history.map key).max? = some (key greatest) ∧ ∀ entry ∈ history, key entry ≤ key greatest := by
  cases found : (history.map key).max? with
  | none =>
      rw [List.max?_eq_none_iff, List.map_eq_nil_iff] at found
      exact absurd found present
  | some value =>
      rcases List.max?_eq_some_iff.mp found with ⟨member, bound⟩
      rcases List.mem_map.mp member with ⟨greatest, here, rfl⟩
      exact ⟨greatest, here, rfl, fun entry also => bound _ (List.mem_map_of_mem also)⟩

theorem exists_minKey (key : α → Nat) (present : history ≠ []) : ∃ least ∈ history,
    (history.map key).min? = some (key least) ∧ ∀ entry ∈ history, key least ≤ key entry := by
  cases found : (history.map key).min? with
  | none =>
      rw [List.min?_eq_none_iff, List.map_eq_nil_iff] at found
      exact absurd found present
  | some value =>
      rcases List.min?_eq_some_iff.mp found with ⟨member, bound⟩
      rcases List.mem_map.mp member with ⟨least, here, rfl⟩
      exact ⟨least, here, rfl, fun entry also => bound _ (List.mem_map_of_mem also)⟩

theorem exists_lastKey (newest : NewestFirst key history) (present : history ≠ []) :
    ∃ last ∈ history, history.getLast? = some last ∧
      ∀ entry ∈ history, key last ≤ key entry := by
  rcases List.eq_nil_or_concat' history with rfl | ⟨front, last, rfl⟩
  · exact absurd rfl present
  · refine ⟨last, by simp, List.getLast?_concat .., ?_⟩
    intro entry member
    rcases List.mem_append.mp member with before | here
    · exact Nat.le_of_lt ((List.pairwise_append.mp newest).2.2 entry before last (by simp))
    · exact Nat.le_of_eq (congrArg key (List.mem_singleton.mp here).symm)

end Paging

end JupiterSuite.Base
