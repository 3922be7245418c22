import Mathlib.Data.List.Basic

/-! Pages behind an exclusive cursor, with a look at one item more to tell whether another page
follows. Following the cursors reads an ordered list item by item. -/

namespace JupiterSuite.Base

section CursorPages

variable {α β κ : Type*}

def fillPage (key : β → κ) (limit : Nat) (visible : α → Option β) :
    List α → List β → List β × Option κ
  | [], items => (items, none)
  | candidate :: rest, items =>
      match visible candidate with
      | none => fillPage key limit visible rest items
      | some item =>
          if limit ≤ items.length then (items, items.getLast?.map key)
          else fillPage key limit visible rest (items ++ [item])

def cutPage (key : β → κ) (limit : Nat) (items : List β) : List β × Option κ :=
  (items.take limit,
    if limit < items.length then (items.take limit).getLast?.map key else none)

theorem fillPage_eq (key : β → κ) {limit : Nat} (visible : α → Option β) (candidates : List α)
    {items : List β} (fits : items.length ≤ limit) :
    fillPage key limit visible candidates items =
      cutPage key limit (items ++ candidates.filterMap visible) := by
  induction candidates generalizing items with
  | nil =>
      rw [fillPage, List.filterMap_nil, List.append_nil, cutPage, List.take_of_length_le fits,
        if_neg (Nat.not_lt_of_le fits)]
  | cons candidate rest ih =>
      rw [fillPage]
      cases shown : visible candidate with
      | none =>
          rw [List.filterMap_cons_none shown]
          exact ih fits
      | some item =>
          rw [List.filterMap_cons_some shown]
          dsimp only
          by_cases full : limit ≤ items.length
          · have exactly : items.length = limit := Nat.le_antisymm fits full
            have longer : limit < (items ++ item :: rest.filterMap visible).length := by
              rw [List.length_append, List.length_cons]
              omega
            have first : (items ++ item :: rest.filterMap visible).take limit = items := by
              rw [← exactly, List.take_left]
            rw [if_pos full, cutPage, if_pos longer, first]
          · have room : (items ++ [item]).length ≤ limit := by
              rw [List.length_append, List.length_singleton]
              omega
            rw [if_neg full, ih room, List.append_assoc]
            rfl

inductive Follows (page : Option κ → List β × Option κ) : Option κ → List β → Prop
  | last {cursor : Option κ} (done : (page cursor).2 = none) : Follows page cursor (page cursor).1
  | more {cursor : Option κ} {next : κ} {rest : List β} (left : (page cursor).2 = some next)
      (later : Follows page (some next) rest) : Follows page cursor ((page cursor).1 ++ rest)

variable (before : κ → κ → Prop) [DecidableRel before] (key : β → κ)

def afterCursor (cursor : Option κ) (item : β) : Bool :=
  cursor.all fun start => decide (before start (key item))

variable {before key} {full : List β} {limit : Nat} {cursor : Option κ}

theorem after_of_after [IsTrans κ before] {last item : β}
    (passed : afterCursor before key cursor last = true) (beyond : before (key last) (key item)) :
    afterCursor before key cursor item = true := by
  cases cursor with
  | none => rfl
  | some start =>
      simp only [afterCursor, Option.all_some, decide_eq_true_iff] at passed ⊢
      exact trans_of before passed beyond

theorem filter_after_last [IsStrictOrder κ before]
    (ordered : full.Pairwise fun first second => before (key first) (key second))
    {front rest : List β} {last : β}
    (split : full.filter (afterCursor before key cursor) = front ++ [last] ++ rest) :
    full.filter (afterCursor before key (some (key last))) = rest := by
  have parts := ordered.filter (afterCursor before key cursor)
  rw [split] at parts
  have ⟨page, tail, across⟩ := List.pairwise_append.mp parts
  have passed : afterCursor before key cursor last = true := by
    have member : last ∈ full.filter (afterCursor before key cursor) := by
      rw [split]
      simp
    exact (List.mem_filter.mp member).2
  have narrower : full.filter (afterCursor before key (some (key last))) =
      (full.filter (afterCursor before key cursor)).filter
        (afterCursor before key (some (key last))) := by
    rw [List.filter_filter]
    apply List.filter_congr
    intro item _
    cases beyond : afterCursor before key (some (key last)) item with
    | false => rfl
    | true =>
        have after := after_of_after passed (of_decide_eq_true beyond)
        rw [after]
        rfl
  have none_before : (front ++ [last]).filter (afterCursor before key (some (key last))) = [] := by
    apply List.filter_eq_nil_iff.mpr
    intro item member beyond
    have beyond : before (key last) (key item) := of_decide_eq_true beyond
    rcases List.mem_append.mp member with earlier | here
    · have behind := (List.pairwise_append.mp page).2.2 item earlier last List.mem_cons_self
      exact irrefl_of before (key last) (trans_of before beyond behind)
    · rw [List.mem_singleton.mp here] at beyond
      exact irrefl_of before (key last) beyond
  have all_behind : rest.filter (afterCursor before key (some (key last))) = rest := by
    apply List.filter_eq_self.mpr
    intro item member
    exact decide_eq_true (across last (by simp) item member)
  rw [narrower, split, List.filter_append, none_before, all_behind, List.nil_append]

/-- Following the cursors of an ordered list comes to an end, and reads each item once. -/
theorem follows_all [IsStrictOrder κ before] {page : Option κ → List β × Option κ}
    (positive : 0 < limit)
    (ordered : full.Pairwise fun first second => before (key first) (key second))
    (pages : ∀ cursor,
      page cursor = cutPage key limit (full.filter (afterCursor before key cursor)))
    (cursor : Option κ) : Follows page cursor (full.filter (afterCursor before key cursor)) := by
  generalize size : (full.filter (afterCursor before key cursor)).length = left
  induction left using Nat.strongRecOn generalizing cursor with
  | ind left ih =>
      have here := pages cursor
      by_cases more : limit < (full.filter (afterCursor before key cursor)).length
      · have filled : ((full.filter (afterCursor before key cursor)).take limit).length = limit := by
          rw [List.length_take]
          omega
        rcases List.eq_nil_or_concat'
          ((full.filter (afterCursor before key cursor)).take limit) with nothing | ⟨front, last, cut⟩
        · rw [nothing] at filled
          simp only [List.length_nil] at filled
          omega
        · have split : full.filter (afterCursor before key cursor) =
              front ++ [last] ++ (full.filter (afterCursor before key cursor)).drop limit := by
            rw [← cut, List.take_append_drop]
          have behind := filter_after_last ordered split
          have next : (page cursor).2 = some (key last) := by
            rw [here, cutPage, if_pos more, cut, List.getLast?_concat, Option.map_some]
          have items : (page cursor).1 = front ++ [last] := by
            rw [here, cutPage, cut]
          have shorter : (full.filter (afterCursor before key (some (key last)))).length < left := by
            rw [behind, List.length_drop]
            omega
          have later := ih _ shorter (some (key last)) rfl
          have whole := Follows.more next later
          rw [items, behind, ← split] at whole
          exact whole
      · have done : (page cursor).2 = none := by
          rw [here, cutPage, if_neg more]
        have items : (page cursor).1 = full.filter (afterCursor before key cursor) := by
          rw [here, cutPage, List.take_of_length_le (Nat.le_of_not_lt more)]
        have whole := Follows.last done
        rw [items] at whole
        exact whole

theorem filter_after_none : full.filter (afterCursor before key none) = full :=
  List.filter_eq_self.mpr fun _ _ => rfl

/-- Following the pages from the start reads the items in their order, each of them once. -/
structure Enumerates (before : κ → κ → Prop) (key : β → κ) (page : Option κ → List β × Option κ)
    (items : List β) : Prop where
  followed : Follows page none items
  ordered : items.Pairwise fun first second => before (key first) (key second)

theorem enumerates_all [IsStrictOrder κ before] {page : Option κ → List β × Option κ}
    (positive : 0 < limit)
    (ordered : full.Pairwise fun first second => before (key first) (key second))
    (pages : ∀ cursor,
      page cursor = cutPage key limit (full.filter (afterCursor before key cursor))) :
    Enumerates before key page full := by
  have followed := follows_all positive ordered pages none
  rw [filter_after_none] at followed
  exact ⟨followed, ordered⟩

theorem filterMap_filter {visible : α → Option β} {of_candidate : α → Bool} {of_item : β → Bool}
    (same : ∀ candidate item, visible candidate = some item →
      of_candidate candidate = of_item item) (candidates : List α) :
    (candidates.filter of_candidate).filterMap visible =
      (candidates.filterMap visible).filter of_item := by
  induction candidates with
  | nil => rfl
  | cons candidate rest ih =>
      cases shown : visible candidate with
      | none =>
          rw [List.filterMap_cons_none shown, ← ih]
          cases passed : of_candidate candidate with
          | false => rw [List.filter_cons_of_neg (by simp [passed])]
          | true => rw [List.filter_cons_of_pos passed, List.filterMap_cons_none shown]
      | some item =>
          rw [List.filterMap_cons_some shown, List.filter_cons, List.filter_cons,
            same candidate item shown, ← ih]
          cases of_item item with
          | false => rfl
          | true => exact List.filterMap_cons_some shown

end CursorPages

end JupiterSuite.Base
