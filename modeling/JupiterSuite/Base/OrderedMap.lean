import Mathlib.Algebra.Order.Ring.Nat
import Mathlib.Algebra.BigOperators.Group.List.Basic

/-! Finite maps as lists of entries with ascending keys. -/

namespace JupiterSuite.Base

structure OrderedMap (κ : Type*) (ν : Type*) [LT κ] where
  entries : List (κ × ν)
  ascending : entries.Pairwise fun first second => first.1 < second.1
  deriving DecidableEq

namespace OrderedMap

variable {κ ν : Type*} [LinearOrder κ]

def empty : OrderedMap κ ν := ⟨[], List.Pairwise.nil⟩

instance [Repr κ] [Repr ν] : Repr (OrderedMap κ ν) where
  reprPrec map precedence := reprPrec map.entries precedence

def lookupIn (key : κ) : List (κ × ν) → Option ν
  | [] => none
  | entry :: rest => if entry.1 = key then some entry.2 else lookupIn key rest

def lookup (map : OrderedMap κ ν) (key : κ) : Option ν := lookupIn key map.entries

def updateIn (key : κ) (f : Option ν → ν) : List (κ × ν) → List (κ × ν)
  | [] => [(key, f none)]
  | entry :: rest =>
      if key < entry.1 then (key, f none) :: entry :: rest
      else if entry.1 = key then (key, f (some entry.2)) :: rest
      else entry :: updateIn key f rest

theorem mem_updateIn {key : κ} {f : Option ν → ν} {entries : List (κ × ν)} {entry : κ × ν}
    (member : entry ∈ updateIn key f entries) : entry.1 = key ∨ entry ∈ entries := by
  induction entries with
  | nil =>
      rw [updateIn, List.mem_singleton] at member
      exact .inl (congrArg Prod.fst member)
  | cons front rest ih =>
      simp only [updateIn] at member
      split at member
      · rcases List.mem_cons.mp member with same | old
        · exact .inl (congrArg Prod.fst same)
        · exact .inr old
      · split at member
        · rcases List.mem_cons.mp member with same | old
          · exact .inl (congrArg Prod.fst same)
          · exact .inr (List.mem_cons_of_mem front old)
        · rcases List.mem_cons.mp member with same | later
          · exact .inr (same ▸ List.mem_cons_self)
          · exact (ih later).imp_right (List.mem_cons_of_mem front)

theorem updateIn_ascending {key : κ} {f : Option ν → ν} {entries : List (κ × ν)}
    (ascending : entries.Pairwise fun first second => first.1 < second.1) :
    (updateIn key f entries).Pairwise fun first second => first.1 < second.1 := by
  induction entries with
  | nil => exact List.pairwise_singleton _ _
  | cons front rest ih =>
      rcases List.pairwise_cons.mp ascending with ⟨below, tail⟩
      simp only [updateIn]
      split
      · rename_i first
        refine List.pairwise_cons.mpr ⟨?_, ascending⟩
        intro entry member
        rcases List.mem_cons.mp member with rfl | later
        · exact first
        · exact lt_trans first (below entry later)
      · split
        · rename_i same
          refine List.pairwise_cons.mpr ⟨?_, tail⟩
          intro entry member
          exact same ▸ below entry member
        · rename_i notFirst notSame
          refine List.pairwise_cons.mpr ⟨?_, ih tail⟩
          intro entry member
          rcases mem_updateIn member with same | old
          · rw [same]
            exact lt_of_le_of_ne (not_lt.mp notFirst) notSame
          · exact below entry old

/-- Sets the value of a key from the one it has. -/
def update (map : OrderedMap κ ν) (key : κ) (f : Option ν → ν) : OrderedMap κ ν :=
  ⟨updateIn key f map.entries, updateIn_ascending map.ascending⟩

def insert (map : OrderedMap κ ν) (key : κ) (value : ν) : OrderedMap κ ν :=
  map.update key fun _ => value

def erase (map : OrderedMap κ ν) (key : κ) : OrderedMap κ ν :=
  ⟨map.entries.filter fun entry => decide (entry.1 ≠ key), map.ascending.filter _⟩

@[simp]
theorem lookup_empty (key : κ) : (empty : OrderedMap κ ν).lookup key = none := rfl

theorem lookupIn_of_absent {key : κ} {entries : List (κ × ν)}
    (absent : ∀ entry ∈ entries, entry.1 ≠ key) : lookupIn key entries = none := by
  induction entries with
  | nil => rfl
  | cons front rest ih =>
      rw [lookupIn, if_neg (absent front List.mem_cons_self)]
      exact ih fun entry member => absent entry (List.mem_cons_of_mem front member)

theorem lookupIn_of_lt {key : κ} {front : κ × ν} {rest : List (κ × ν)}
    (ascending : (front :: rest).Pairwise fun first second => first.1 < second.1)
    (below : key < front.1) : lookupIn key (front :: rest) = none := by
  apply lookupIn_of_absent
  intro entry member
  rcases List.mem_cons.mp member with rfl | later
  · exact ne_of_gt below
  · exact ne_of_gt (lt_trans below ((List.pairwise_cons.mp ascending).1 entry later))

theorem lookupIn_updateIn (key other : κ) (f : Option ν → ν) (entries : List (κ × ν))
    (ascending : entries.Pairwise fun first second => first.1 < second.1) :
    lookupIn other (updateIn key f entries) =
      if other = key then some (f (lookupIn key entries)) else lookupIn other entries := by
  induction entries with
  | nil =>
      simp only [updateIn, lookupIn, eq_comm]
  | cons front rest ih =>
      rcases List.pairwise_cons.mp ascending with ⟨below, tail⟩
      simp only [updateIn]
      split
      · rename_i first
        have absent := lookupIn_of_lt ascending first
        rw [absent]
        by_cases same : other = key
        · rw [lookupIn, if_pos same.symm, if_pos same]
        · rw [lookupIn, if_neg (Ne.symm same), if_neg same]
      · split
        · rename_i here
          by_cases same : other = key
          · rw [lookupIn, if_pos same.symm, if_pos same, lookupIn, if_pos here]
          · have elsewhere : ¬ front.1 = other := fun there => same (there.symm.trans here)
            rw [lookupIn, if_neg (Ne.symm same), if_neg same, lookupIn, if_neg elsewhere]
        · rename_i notHere
          rw [lookupIn, ih tail]
          by_cases same : other = key
          · rw [same, if_neg notHere, if_pos rfl, if_pos rfl, lookupIn, if_neg notHere]
          · rw [if_neg same, if_neg same, lookupIn]

theorem lookup_update (map : OrderedMap κ ν) (key other : κ) (f : Option ν → ν) :
    (map.update key f).lookup other =
      if other = key then some (f (map.lookup key)) else map.lookup other :=
  lookupIn_updateIn key other f map.entries map.ascending

theorem lookup_erase (map : OrderedMap κ ν) (key other : κ) :
    (map.erase key).lookup other = if other = key then none else map.lookup other := by
  rcases map with ⟨entries, ascending⟩
  simp only [erase, lookup]
  clear ascending
  induction entries with
  | nil => simp [lookupIn]
  | cons front rest ih =>
      by_cases here : front.1 = key
      · rw [List.filter_cons_of_neg (by simp [here]), ih, lookupIn]
        by_cases same : other = key
        · rw [if_pos same, if_pos same]
        · rw [if_neg same, if_neg same, if_neg fun found => same (found.symm.trans here)]
      · rw [List.filter_cons_of_pos (by simp [here]), lookupIn, ih, lookupIn]
        by_cases found : front.1 = other
        · rw [if_pos found, if_pos found, if_neg fun same => here (found.trans same)]
        · rw [if_neg found, if_neg found]

theorem lookup_of_mem (map : OrderedMap κ ν) {key : κ} {value : ν}
    (member : (key, value) ∈ map.entries) : map.lookup key = some value := by
  rcases map with ⟨entries, ascending⟩
  simp only [lookup] at member ⊢
  induction entries with
  | nil => cases member
  | cons front rest ih =>
      rcases List.pairwise_cons.mp ascending with ⟨below, tail⟩
      rcases List.mem_cons.mp member with rfl | later
      · exact if_pos rfl
      · rw [lookupIn, if_neg (ne_of_lt (below _ later))]
        exact ih tail later

theorem mem_of_lookup (map : OrderedMap κ ν) {key : κ} {value : ν}
    (found : map.lookup key = some value) : (key, value) ∈ map.entries := by
  rcases map with ⟨entries, ascending⟩
  simp only [lookup] at found ⊢
  clear ascending
  induction entries with
  | nil => cases found
  | cons front rest ih =>
      rw [lookupIn] at found
      split at found
      · rename_i here
        cases found
        rw [← here]
        exact List.mem_cons_self
      · exact List.mem_cons_of_mem front (ih found)

def keys (map : OrderedMap κ ν) : List κ := map.entries.map Prod.fst

theorem mem_keys (map : OrderedMap κ ν) (key : κ) :
    key ∈ map.keys ↔ (map.lookup key).isSome = true := by
  rw [keys, List.mem_map, Option.isSome_iff_exists]
  constructor
  · rintro ⟨⟨found, value⟩, member, rfl⟩
    exact ⟨value, map.lookup_of_mem member⟩
  · rintro ⟨value, found⟩
    exact ⟨(key, value), map.mem_of_lookup found, rfl⟩

theorem keys_nodup (map : OrderedMap κ ν) : map.keys.Nodup := by
  refine List.pairwise_map.mpr (map.ascending.imp ?_)
  intro first second below
  exact ne_of_lt below

/-- A map is determined by what its keys are looked up as. -/
theorem ext_lookup {left right : OrderedMap κ ν}
    (same : ∀ key, left.lookup key = right.lookup key) : left = right := by
  have members : ∀ entry, entry ∈ left.entries ↔ entry ∈ right.entries := by
    rintro ⟨key, value⟩
    constructor
    · intro member
      exact right.mem_of_lookup ((same key).symm.trans (left.lookup_of_mem member))
    · intro member
      exact left.mem_of_lookup ((same key).trans (right.lookup_of_mem member))
  have distinct : ∀ map : OrderedMap κ ν, map.entries.Nodup := by
    intro map
    refine map.ascending.imp ?_
    rintro first second below rfl
    exact lt_irrefl _ below
  have perm : left.entries.Perm right.entries :=
    (List.perm_ext_iff_of_nodup (distinct left) (distinct right)).mpr members
  have equal : left.entries = right.entries := by
    refine perm.eq_of_pairwise ?_ left.ascending right.ascending
    intro first second _ _ below above
    exact absurd below (not_lt_of_gt above)
  rcases left with ⟨entries, _⟩
  cases equal
  rfl

section Keep

/-- The entries whose value passes a test. -/
def keep (map : OrderedMap κ ν) (test : ν → Bool) : OrderedMap κ ν :=
  ⟨map.entries.filter fun entry => test entry.2, map.ascending.filter _⟩

theorem lookup_keep (map : OrderedMap κ ν) (test : ν → Bool) (key : κ) :
    (map.keep test).lookup key = (map.lookup key).filter test := by
  cases known : map.lookup key with
  | none =>
      rw [Option.filter_none, ← Option.not_isSome_iff_eq_none, ← mem_keys]
      intro member
      rcases List.mem_map.mp member with ⟨⟨found, value⟩, listed, rfl⟩
      have whole := map.lookup_of_mem (List.mem_filter.mp listed).1
      rw [known] at whole
      cases whole
  | some value =>
      rw [Option.filter_some]
      split
      · rename_i passed
        apply lookup_of_mem
        exact List.mem_filter.mpr ⟨map.mem_of_lookup known, passed⟩
      · rename_i failed
        rw [← Option.not_isSome_iff_eq_none, ← mem_keys]
        intro member
        rcases List.mem_map.mp member with ⟨⟨found, other⟩, listed, rfl⟩
        rcases List.mem_filter.mp listed with ⟨whole, passed⟩
        cases known.symm.trans (map.lookup_of_mem whole)
        exact failed passed

end Keep

section Totals

def total (map : OrderedMap κ Nat) : Nat := (map.entries.map Prod.snd).sum

/-- The value of a key; an absent one has none. -/
def amount (map : OrderedMap κ Nat) (key : κ) : Nat := (map.lookup key).getD 0

/-- The entries that are worth something are determined by the amounts. -/
theorem keep_positive_same {left right : OrderedMap κ Nat}
    (same : ∀ key, left.amount key = right.amount key) :
    left.keep (fun value => decide (0 < value)) = right.keep fun value => decide (0 < value) := by
  apply ext_lookup
  intro key
  have amounts := same key
  simp only [amount] at amounts
  rw [lookup_keep, lookup_keep]
  generalize left.lookup key = one at amounts ⊢
  generalize right.lookup key = two at amounts ⊢
  rcases one with _ | value <;> rcases two with _ | other
  · rfl
  · cases (show 0 = other from amounts)
    rfl
  · cases (show value = 0 from amounts)
    rfl
  · cases (show value = other from amounts)
    rfl

theorem total_updateIn (key : κ) (f : Option Nat → Nat) (entries : List (κ × Nat))
    (ascending : entries.Pairwise fun first second => first.1 < second.1) :
    ((updateIn key f entries).map Prod.snd).sum + (lookupIn key entries).getD 0 =
      (entries.map Prod.snd).sum + f (lookupIn key entries) := by
  induction entries with
  | nil => simp [updateIn, lookupIn]
  | cons front rest ih =>
      rcases List.pairwise_cons.mp ascending with ⟨below, tail⟩
      simp only [updateIn]
      split
      · rename_i first
        have absent := lookupIn_of_lt ascending first
        rw [absent]
        simp [Nat.add_comm]
      · split
        · rename_i here
          rw [lookupIn, if_pos here]
          simp only [List.map_cons, List.sum_cons, Option.getD_some]
          omega
        · rename_i notHere
          have rest_total := ih tail
          rw [lookupIn, if_neg notHere]
          simp only [List.map_cons, List.sum_cons]
          omega

theorem total_update (map : OrderedMap κ Nat) (key : κ) (f : Option Nat → Nat) :
    (map.update key f).total + map.amount key = map.total + f (map.lookup key) :=
  total_updateIn key f map.entries map.ascending

/-- Adds to the value of a key. -/
def add (map : OrderedMap κ Nat) (key : κ) (value : Nat) : OrderedMap κ Nat :=
  map.update key fun known => known.getD 0 + value

@[simp]
theorem total_add (map : OrderedMap κ Nat) (key : κ) (value : Nat) :
    (map.add key value).total = map.total + value := by
  have balanced := total_update map key fun known => known.getD 0 + value
  have same : map.amount key = (map.lookup key).getD 0 := rfl
  rw [add]
  omega

theorem amount_add (map : OrderedMap κ Nat) (key other : κ) (value : Nat) :
    (map.add key value).amount other =
      map.amount other + if other = key then value else 0 := by
  rw [amount, add, lookup_update]
  split
  · rename_i same
    subst same
    rfl
  · rfl

end Totals

end OrderedMap
end JupiterSuite.Base
