import Mathlib.Data.List.Dedup
import Mathlib.Data.List.Sort

/-! Lists of ids ranked by a key: they hold each id once, a binary search finds where another one
belongs, and their pages joined are the list. -/

namespace JupiterSuite.Base

section Ranking

variable {ι κ : Type*} [LinearOrder κ]

def Ranked (rank : ι → κ) (index : List ι) : Prop :=
  index.Pairwise fun first second => rank first < rank second

/-- The binary search of a slice between two positions; the fuel is their distance at most. -/
def searchBetween (rank : ι → κ) (key : κ) (index : List ι) : Nat → Nat → Nat → Nat
  | 0, left, _ => left
  | fuel + 1, left, right =>
      if left < right then
        let mid := left + (right - left) / 2
        match index[mid]? with
        | none => left
        | some item =>
            if rank item < key then searchBetween rank key index fuel (mid + 1) right
            else if key < rank item then searchBetween rank key index fuel left mid
            else mid
      else left

def binarySearch (rank : ι → κ) (key : κ) (index : List ι) : Nat :=
  searchBetween rank key index index.length 0 index.length

def insertAt (position : Nat) (item : ι) (index : List ι) : List ι :=
  index.take position ++ item :: index.drop position

variable {rank other : ι → κ} {index left right : List ι} {key : κ} {item : ι}

theorem Ranked.nodup (ranked : Ranked rank index) : index.Nodup := by
  refine ranked.imp ?_
  rintro first second below rfl
  exact lt_irrefl _ below

theorem Ranked.sublist (ranked : Ranked rank index) (part : left.Sublist index) :
    Ranked rank left :=
  List.Pairwise.sublist part ranked

theorem Ranked.congr (ranked : Ranked rank index) (same : ∀ id ∈ index, rank id = other id) :
    Ranked other index := by
  refine List.Pairwise.imp_of_mem ?_ ranked
  intro first second here there below
  rw [← same first here, ← same second there]
  exact below

theorem Ranked.unique (first : Ranked rank left) (second : Ranked rank right)
    (same : ∀ id, id ∈ left ↔ id ∈ right) : left = right := by
  have perm : left.Perm right := (List.perm_ext_iff_of_nodup first.nodup second.nodup).mpr same
  refine perm.eq_of_pairwise ?_ first second
  intro one another _ _ below above
  exact absurd below (not_lt_of_gt above)

theorem Ranked.getElem_lt (ranked : Ranked rank index) {i j : Nat} (order : i < j)
    (here : i < index.length) (within : j < index.length) : rank index[i] < rank index[j] :=
  List.pairwise_iff_getElem.mp ranked i j here within order

/-- What the search keeps: all below `left` are smaller, all from `right` on are larger. -/
structure Brackets (rank : ι → κ) (key : κ) (index : List ι) (left right : Nat) : Prop where
  order : left ≤ right
  within : right ≤ index.length
  smaller : ∀ i (here : i < index.length), i < left → rank index[i] < key
  larger : ∀ i (here : i < index.length), right ≤ i → key < rank index[i]

theorem searchBetween_brackets (ranked : Ranked rank index)
    (fresh : ∀ id ∈ index, rank id ≠ key) (fuel : Nat) {low high : Nat}
    (distance : high - low ≤ fuel) (brackets : Brackets rank key index low high) :
    Brackets rank key index (searchBetween rank key index fuel low high)
      (searchBetween rank key index fuel low high) := by
  induction fuel generalizing low high with
  | zero =>
      have met : low = high := by
        have order := brackets.order
        omega
      rw [searchBetween]
      rw [← met] at brackets
      exact brackets
  | succ fuel ih =>
      rw [searchBetween]
      by_cases apart : low < high
      · have inside : low + (high - low) / 2 < index.length := by
          have within := brackets.within
          omega
        simp only [apart, if_true, List.getElem?_eq_getElem inside]
        generalize middle : low + (high - low) / 2 = mid at inside ⊢
        by_cases below : rank index[mid] < key
        · rw [if_pos below]
          refine ih (by omega) ⟨by omega, brackets.within, ?_, brackets.larger⟩
          intro i here before
          rcases Nat.lt_succ_iff_lt_or_eq.mp before with earlier | rfl
          · exact lt_trans (ranked.getElem_lt earlier here inside) below
          · exact below
        · have above : key < rank index[mid] :=
            lt_of_le_of_ne (not_lt.mp below) (Ne.symm (fresh _ (List.getElem_mem inside)))
          rw [if_neg below, if_pos above]
          refine ih (by omega) ⟨by omega, Nat.le_of_lt inside, brackets.smaller, ?_⟩
          intro i here after
          rcases Nat.lt_or_eq_of_le after with later | rfl
          · exact lt_trans above (ranked.getElem_lt later inside here)
          · exact above
      · have met : low = high := by
          have order := brackets.order
          omega
        rw [if_neg apart]
        rw [← met] at brackets
        exact brackets

theorem Ranked.insert (ranked : Ranked rank index) (fresh : ∀ id ∈ index, rank id ≠ rank item) :
    Ranked rank (insertAt (binarySearch rank (rank item) index) item index) := by
  have whole : Brackets rank (rank item) index 0 index.length :=
    ⟨Nat.zero_le _, Nat.le_refl _, fun _ _ impossible => absurd impossible (Nat.not_lt_zero _),
      fun _ here impossible => absurd here (Nat.not_lt_of_le impossible)⟩
  have found := searchBetween_brackets ranked fresh index.length (Nat.le_refl _) whole
  have place : Brackets rank (rank item) index (binarySearch rank (rank item) index)
      (binarySearch rank (rank item) index) := found
  generalize binarySearch rank (rank item) index = position at place ⊢
  have before : ∀ id ∈ index.take position, rank id < rank item := by
    intro id member
    obtain ⟨i, within, rfl⟩ := List.getElem_of_mem member
    rw [List.length_take] at within
    rw [List.getElem_take]
    exact place.smaller i (by omega) (by omega)
  have after : ∀ id ∈ index.drop position, rank item < rank id := by
    intro id member
    obtain ⟨i, within, rfl⟩ := List.getElem_of_mem member
    rw [List.length_drop] at within
    rw [List.getElem_drop]
    exact place.larger (position + i) (by omega) (Nat.le_add_right _ _)
  refine List.pairwise_append.mpr ⟨ranked.sublist (List.take_sublist _ _), ?_, ?_⟩
  · exact List.pairwise_cons.mpr ⟨after, ranked.sublist (List.drop_sublist _ _)⟩
  · intro first early second late
    rcases List.mem_cons.mp late with rfl | later
    · exact before first early
    · exact lt_trans (before first early) (after second later)

theorem mem_insertAt {position : Nat} {id : ι} :
    id ∈ insertAt position item index ↔ id = item ∨ id ∈ index := by
  have whole : id ∈ index ↔ id ∈ index.take position ∨ id ∈ index.drop position := by
    rw [← List.mem_append, List.take_append_drop]
  rw [insertAt, List.mem_append, List.mem_cons, whole, or_left_comm]

end Ranking

theorem pages_flatMap {α : Type*} (items : List α) (size count : Nat) :
    ((List.range count).flatMap fun page => (items.drop (page * size)).take size) =
      items.take (count * size) := by
  induction count with
  | zero => simp
  | succ count ih =>
      rw [List.range_succ, List.flatMap_append, ih, List.flatMap_singleton, Nat.succ_mul,
        List.take_add]

/-! The leading items of what was seen: those with the least ranks, each once and up to a bound. A
list that keeps them item by item is the one that they make up at once. -/

variable {ι κ : Type*} [LinearOrder κ]

/-- The kept items lead what was seen: an item is left out only behind a full list. -/
structure Leading (rank : ι → κ) (bound : Nat) (seen kept : List ι) : Prop where
  ranked : Ranked rank kept
  within : ∀ item ∈ kept, item ∈ seen
  bounded : kept.length ≤ bound
  leads : ∀ item ∈ seen, item ∉ kept →
    kept.length = bound ∧ ∀ other ∈ kept, rank other < rank item

variable {rank : ι → κ} {bound : Nat} {seen kept other full : List ι} {item : ι}

theorem length_lt_of_missing (distinct : kept.Nodup) (included : kept ⊆ full)
    (present : item ∈ full) (missing : item ∉ kept) : kept.length < full.length := by
  have grown : (item :: kept).Nodup := List.nodup_cons.mpr ⟨missing, distinct⟩
  exact (List.subperm_of_subset grown (List.cons_subset.mpr ⟨present, included⟩)).length_le

theorem Leading.subset (first : Leading rank bound seen kept)
    (second : Leading rank bound seen other) : kept ⊆ other := by
  intro item present
  by_contra missing
  have ⟨filled, above⟩ := second.leads item (first.within item present) missing
  have included : other ⊆ kept := by
    intro further there
    by_contra absent
    have below := (first.leads further (second.within further there) absent).2 item present
    exact lt_asymm below (above further there)
  have shorter := length_lt_of_missing second.ranked.nodup included present missing
  have bounded := first.bounded
  omega

theorem Leading.unique (first : Leading rank bound seen kept)
    (second : Leading rank bound seen other) : kept = other :=
  first.ranked.unique second.ranked fun _ =>
    ⟨fun here => first.subset second here, fun here => second.subset first here⟩

theorem Leading.congr (leading : Leading rank bound seen kept)
    (same : ∀ item, item ∈ seen ↔ item ∈ other) : Leading rank bound other kept :=
  ⟨leading.ranked, fun item here => (same item).mp (leading.within item here), leading.bounded,
    fun item there => leading.leads item ((same item).mpr there)⟩

theorem Leading.none (rank : ι → κ) (bound : Nat) : Leading rank bound [] [] :=
  ⟨List.Pairwise.nil, fun _ here => here, Nat.zero_le _,
    fun _ there => absurd there List.not_mem_nil⟩

theorem Leading.self (ranked : Ranked rank kept) (bounded : kept.length ≤ bound) :
    Leading rank bound kept kept :=
  ⟨ranked, fun _ here => here, bounded, fun _ here missing => absurd here missing⟩

theorem Leading.again (leading : Leading rank bound seen kept) (present : item ∈ kept) :
    Leading rank bound (item :: seen) kept := by
  apply leading.congr
  intro other
  constructor
  · exact List.mem_cons_of_mem item
  · intro there
    rcases List.mem_cons.mp there with rfl | before
    · exact leading.within _ present
    · exact before

theorem take_below_drop (ranked : Ranked rank full) {first last : ι}
    (early : first ∈ full.take bound) (late : last ∈ full.drop bound) : rank first < rank last := by
  have parts : Ranked rank (full.take bound ++ full.drop bound) := by
    rw [List.take_append_drop]
    exact ranked
  exact (List.pairwise_append.mp parts).2.2 first early last late

theorem Leading.of_ranked (bound : Nat) (ranked : Ranked rank full)
    (same : ∀ item, item ∈ full ↔ item ∈ seen) : Leading rank bound seen (full.take bound) := by
  refine ⟨ranked.sublist (List.take_sublist _ _), ?_, ?_, ?_⟩
  · intro item here
    exact (same item).mp (List.mem_of_mem_take here)
  · rw [List.length_take]
    exact Nat.min_le_left _ _
  · intro item there missing
    have present := (same item).mpr there
    rw [← List.take_append_drop bound full] at present
    have dropped := (List.mem_append.mp present).resolve_left missing
    have longer := List.length_pos_of_mem dropped
    rw [List.length_drop] at longer
    refine ⟨?_, ?_⟩
    · rw [List.length_take]
      omega
    · intro other here
      exact take_below_drop ranked here dropped

/-- A new item takes its place, and the last one goes when the bound is passed. -/
theorem Leading.push (leading : Leading rank bound seen kept) (fresh : item ∉ kept)
    (grown : full.Perm (item :: kept)) (ranked : Ranked rank full) :
    Leading rank bound (item :: seen) (full.take bound) := by
  have length : full.length = kept.length + 1 := grown.length_eq
  have cut := Leading.of_ranked bound ranked fun other => grown.mem_iff
  refine ⟨cut.ranked, ?_, cut.bounded, ?_⟩
  · intro other here
    rcases List.mem_cons.mp (cut.within other here) with rfl | before
    · exact List.mem_cons_self
    · exact List.mem_cons_of_mem item (leading.within other before)
  · intro other there missing
    by_cases held : other ∈ item :: kept
    · exact cut.leads other held missing
    · have before := (List.mem_cons.mp there).resolve_left fun same =>
        held (same ▸ List.mem_cons_self)
      have ⟨filled, below⟩ := leading.leads other before fun here =>
        held (List.mem_cons_of_mem item here)
      refine ⟨by rw [List.length_take]; omega, ?_⟩
      intro first here
      rcases List.mem_cons.mp (cut.within first here) with rfl | kept_before
      · -- The list was full, so that something kept before fell out behind the new item.
        have present := grown.mem_iff.mpr (List.mem_cons_self (a := first) (l := kept))
        have longer : 0 < (full.drop bound).length := by
          rw [List.length_drop]
          omega
        obtain ⟨last, dropped⟩ := List.exists_mem_of_length_pos longer
        have behind := take_below_drop ranked here dropped
        rcases List.mem_cons.mp (grown.mem_iff.mp (List.mem_of_mem_drop dropped)) with rfl | held
        · exact absurd behind (lt_irrefl _)
        · exact lt_trans behind (below last held)
      · exact below first kept_before

/-- What is pushed item by item leads what was pushed, when each push keeps it so. -/
theorem Leading.foldl {push : List ι → ι → List ι} {samples : List ι}
    (step : ∀ seen kept item, item ∈ samples → (∀ other ∈ seen, other ∈ samples) →
      Leading rank bound seen kept → Leading rank bound (item :: seen) (push kept item)) :
    Leading rank bound samples (samples.foldl push []) := by
  have run : ∀ rest seen kept, (∀ other ∈ rest, other ∈ samples) →
      (∀ other ∈ seen, other ∈ samples) → Leading rank bound seen kept →
        Leading rank bound (rest ++ seen) (rest.foldl push kept) := by
    intro rest
    induction rest with
    | nil => exact fun seen kept _ _ leading => leading
    | cons item rest ih =>
        intro seen kept ahead behind leading
        have here := ahead item List.mem_cons_self
        have behind_too : ∀ other ∈ item :: seen, other ∈ samples := by
          intro other there
          rcases List.mem_cons.mp there with rfl | before
          · exact here
          · exact behind other before
        have later := ih (item :: seen) (push kept item)
          (fun other there => ahead other (List.mem_cons_of_mem item there)) behind_too
          (step seen kept item here behind leading)
        apply later.congr
        intro other
        exact List.perm_middle.mem_iff
  have whole := run samples [] [] (fun _ there => there)
    (fun _ there => absurd there List.not_mem_nil) (Leading.none rank bound)
  rw [List.append_nil] at whole
  exact whole

def leading [DecidableEq ι] (rank : ι → κ) (bound : Nat) (seen : List ι) : List ι :=
  (seen.dedup.insertionSort fun first second => rank first ≤ rank second).take bound

end JupiterSuite.Base
