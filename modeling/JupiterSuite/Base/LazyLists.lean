import JupiterSuite.Base.OrderedMap
import Mathlib.Data.List.Nodup
import Mathlib.Data.Prod.Lex

/-! Lists by key in two stable maps, the ids of each list and an entry for each id, of which some
lists are loaded into memory and written back by key. -/

namespace JupiterSuite.Base

structure StableLists (κ α : Type*) [LinearOrder κ] where
  index : OrderedMap κ (List Nat)
  entries : OrderedMap (κ ×ₗ Nat) α
  deriving DecidableEq

/-- An insertion that leaves a map alone when it holds the value. -/
def OrderedMap.put {κ ν : Type*} [LinearOrder κ] [DecidableEq ν] (map : OrderedMap κ ν) (key : κ)
    (value : ν) : OrderedMap κ ν :=
  if map.lookup key = some value then map else map.insert key value

theorem OrderedMap.lookup_put {κ ν : Type*} [LinearOrder κ] [DecidableEq ν]
    (map : OrderedMap κ ν) (key other : κ) (value : ν) :
    (map.put key value).lookup other =
      if other = key then some value else map.lookup other := by
  simp only [put]
  split
  · rename_i held
    split
    · rename_i same
      rw [same, held]
    · rfl
  · exact map.lookup_update key other fun _ => value

namespace StableLists

variable {κ α : Type*} [LinearOrder κ]

def empty : StableLists κ α := ⟨.empty, .empty⟩

def entry (stable : StableLists κ α) (key : κ) (id : Nat) : Option α :=
  stable.entries.lookup (toLex (key, id))

def load (stable : StableLists κ α) (key : κ) : List α :=
  ((stable.index.lookup key).getD []).filterMap (stable.entry key)

def removeEntries (key : κ) (ids : List Nat) (entries : OrderedMap (κ ×ₗ Nat) α) :
    OrderedMap (κ ×ₗ Nat) α :=
  ids.foldl (fun entries id => entries.erase (toLex (key, id))) entries

def putEntries [DecidableEq α] (entryId : α → Nat) (key : κ) (items : List α)
    (entries : OrderedMap (κ ×ₗ Nat) α) : OrderedMap (κ ×ₗ Nat) α :=
  items.foldl (fun entries item => entries.put (toLex (key, entryId item)) item) entries

/-- Writes one loaded list. A key that is not loaded counts as one whose list is empty. -/
def syncKey [DecidableEq α] (entryId : α → Nat) (loaded : OrderedMap κ (List α))
    (stable : StableLists κ α) (key : κ) : StableLists κ α :=
  let existingIds := (stable.index.lookup key).getD []
  let current := (loaded.lookup key).getD []
  let currentIds := current.map entryId
  let evicted := existingIds.filter fun id => !currentIds.contains id
  { index := if currentIds.isEmpty then stable.index.erase key else stable.index.put key currentIds
    entries := putEntries entryId key current (removeEntries key evicted stable.entries) }

def syncKeys [DecidableEq α] (entryId : α → Nat) (loaded : OrderedMap κ (List α))
    (stable : StableLists κ α) (keys : List κ) : StableLists κ α :=
  keys.foldl (syncKey entryId loaded) stable

def syncAll (entryId : α → Nat) (loaded : OrderedMap κ (List α)) : StableLists κ α :=
  loaded.entries.foldl (fun stable list =>
    if list.2.isEmpty then stable
    else
      { index := stable.index.insert list.1 (list.2.map entryId)
        entries := list.2.foldl (fun entries item =>
          entries.insert (toLex (list.1, entryId item)) item) stable.entries }) empty

/-- What is stored of a key is the list, and nothing else. -/
structure Holds (entryId : α → Nat) (stable : StableLists κ α) (key : κ) (items : List α) :
    Prop where
  index : stable.index.lookup key = if items.isEmpty then none else some (items.map entryId)
  entries : ∀ id, stable.entry key id = items.find? fun item => decide (entryId item = id)

structure SameAt (before after : StableLists κ α) (key : κ) : Prop where
  index : after.index.lookup key = before.index.lookup key
  entries : ∀ id, after.entry key id = before.entry key id

theorem SameAt.refl (stable : StableLists κ α) (key : κ) : SameAt stable stable key :=
  ⟨rfl, fun _ => rfl⟩

theorem SameAt.trans {before middle after : StableLists κ α} {key : κ}
    (first : SameAt before middle key) (second : SameAt middle after key) :
    SameAt before after key where
  index := second.index.trans first.index
  entries := fun id => (second.entries id).trans (first.entries id)

theorem Holds.same {entryId : α → Nat} {before after : StableLists κ α} {key : κ}
    {items : List α} (holds : Holds entryId before key items) (same : SameAt before after key) :
    Holds entryId after key items where
  index := same.index.trans holds.index
  entries := fun id => (same.entries id).trans (holds.entries id)

theorem holds_empty (entryId : α → Nat) (key : κ) :
    Holds entryId (empty : StableLists κ α) key [] where
  index := rfl
  entries := fun _ => rfl

section Distinct

variable {entryId : α → Nat}

theorem find_id {items : List α} (distinct : (items.map entryId).Nodup) {item : α}
    (member : item ∈ items) :
    items.find? (fun other => decide (entryId other = entryId item)) = some item := by
  induction items with
  | nil => cases member
  | cons front rest ih =>
      rw [List.map_cons, List.nodup_cons] at distinct
      rcases List.mem_cons.mp member with rfl | later
      · exact List.find?_cons_of_pos (decide_eq_true rfl)
      · have elsewhere : entryId front ≠ entryId item := by
          intro same
          exact distinct.1 (same ▸ List.mem_map_of_mem later)
        rw [List.find?_cons_of_neg (by simpa using elsewhere)]
        exact ih distinct.2 later

theorem load_of_holds {stable : StableLists κ α} {key : κ} {items : List α}
    (distinct : (items.map entryId).Nodup) (holds : Holds entryId stable key items) :
    stable.load key = items := by
  have ids : (stable.index.lookup key).getD [] = items.map entryId := by
    rw [holds.index]
    cases items with
    | nil => rfl
    | cons => rfl
  rw [load, ids, List.filterMap_map]
  calc items.filterMap (stable.entry key ∘ entryId) = items.filterMap some := by
        apply List.filterMap_congr
        intro item member
        exact (holds.entries (entryId item)).trans (find_id distinct member)
    _ = items := List.filterMap_some

end Distinct

section Writing

theorem lookup_removeEntries (key : κ) (ids : List Nat) (entries : OrderedMap (κ ×ₗ Nat) α)
    (other : κ) (id : Nat) :
    (removeEntries key ids entries).lookup (toLex (other, id)) =
      if other = key ∧ id ∈ ids then none else entries.lookup (toLex (other, id)) := by
  induction ids generalizing entries with
  | nil => simp [removeEntries]
  | cons front rest ih =>
      have step := ih (entries.erase (toLex (key, front)))
      rw [OrderedMap.lookup_erase] at step
      rw [removeEntries, List.foldl_cons]
      refine step.trans ?_
      by_cases here : other = key
      · by_cases first : id = front
        · simp [here, first]
        · simp [here, first]
      · simp [here]

variable [DecidableEq α]

theorem lookup_putEntries_other (entryId : α → Nat) (key : κ) (items : List α)
    (entries : OrderedMap (κ ×ₗ Nat) α) {other : κ} (id : Nat)
    (elsewhere : ∀ item ∈ items, ¬ (other = key ∧ id = entryId item)) :
    (putEntries entryId key items entries).lookup (toLex (other, id)) =
      entries.lookup (toLex (other, id)) := by
  induction items generalizing entries with
  | nil => rfl
  | cons front rest ih =>
      have step := ih (entries.put (toLex (key, entryId front)) front)
        fun item member => elsewhere item (List.mem_cons_of_mem front member)
      have apart : ¬ toLex (other, id) = toLex (key, entryId front) := by
        intro same
        have pair := Prod.mk.inj (toLex.injective same)
        exact elsewhere front List.mem_cons_self pair
      rw [OrderedMap.lookup_put, if_neg apart] at step
      exact step

theorem lookup_putEntries_self {entryId : α → Nat} (key : κ) {items : List α}
    (distinct : (items.map entryId).Nodup) (entries : OrderedMap (κ ×ₗ Nat) α) {item : α}
    (member : item ∈ items) :
    (putEntries entryId key items entries).lookup (toLex (key, entryId item)) = some item := by
  induction items generalizing entries with
  | nil => cases member
  | cons front rest ih =>
      rw [List.map_cons, List.nodup_cons] at distinct
      rcases List.mem_cons.mp member with rfl | later
      · have elsewhere : ∀ other ∈ rest, ¬ (key = key ∧ entryId item = entryId other) := by
          rintro other inside ⟨_, same⟩
          exact distinct.1 (same ▸ List.mem_map_of_mem inside)
        have kept := lookup_putEntries_other entryId key rest
          (entries.put (toLex (key, entryId item)) item) (entryId item) elsewhere
        rw [OrderedMap.lookup_put, if_pos rfl] at kept
        exact kept
      · exact ih distinct.2 _ later

end Writing

section Syncing

variable [DecidableEq α] {entryId : α → Nat} {loaded : OrderedMap κ (List α)}
variable {stable : StableLists κ α} {key : κ}

theorem syncKey_other {other : κ} (elsewhere : other ≠ key) :
    SameAt stable (syncKey entryId loaded stable key) other where
  index := by
    simp only [syncKey]
    split
    · rw [OrderedMap.lookup_erase, if_neg elsewhere]
    · rw [OrderedMap.lookup_put, if_neg elsewhere]
  entries := by
    intro id
    simp only [syncKey, entry]
    rw [lookup_putEntries_other entryId key _ _ id fun _ _ both => elsewhere both.1,
      lookup_removeEntries, if_neg fun both => elsewhere both.1]

/-- Whatever list the key had, the loaded one is stored of it: its entries are put and the ones
that only the old list has are removed. -/
theorem syncKey_holds {old : List α} (holds : Holds entryId stable key old)
    (distinct : (((loaded.lookup key).getD []).map entryId).Nodup) :
    Holds entryId (syncKey entryId loaded stable key) key ((loaded.lookup key).getD []) where
  index := by
    simp only [syncKey]
    generalize (loaded.lookup key).getD [] = current
    cases current with
    | nil => exact (OrderedMap.lookup_erase _ _ _).trans (if_pos rfl)
    | cons front rest => exact (OrderedMap.lookup_put _ _ _ _).trans (if_pos rfl)
  entries := by
    intro id
    simp only [syncKey, entry]
    generalize (loaded.lookup key).getD [] = current at distinct ⊢
    by_cases kept : id ∈ current.map entryId
    · rcases List.mem_map.mp kept with ⟨item, member, rfl⟩
      rw [lookup_putEntries_self key distinct _ member, find_id distinct member]
    · have absent : ∀ item ∈ current, entryId item ≠ id := by
        rintro item member rfl
        exact kept (List.mem_map_of_mem member)
      have none_found : current.find? (fun item => decide (entryId item = id)) = none :=
        List.find?_eq_none.mpr fun item member => by simpa using absent item member
      rw [none_found, lookup_putEntries_other entryId key current _ id
        fun item member both => absent item member both.2.symm, lookup_removeEntries]
      split
      · rfl
      · rename_i notEvicted
        have before := holds.entries id
        rw [entry] at before
        rw [before, List.find?_eq_none]
        intro item member same
        have named : id ∈ old.map entryId :=
          List.mem_map.mpr ⟨item, member, of_decide_eq_true same⟩
        have listed : (stable.index.lookup key).getD [] = old.map entryId := by
          rw [holds.index]
          cases old with
          | nil => rfl
          | cons => rfl
        refine notEvicted ⟨rfl, List.mem_filter.mpr ⟨listed ▸ named, ?_⟩⟩
        simpa using kept

theorem syncKeys_other {keys : List κ} {other : κ} (elsewhere : other ∉ keys) :
    SameAt stable (syncKeys entryId loaded stable keys) other := by
  induction keys generalizing stable with
  | nil => exact SameAt.refl stable other
  | cons front rest ih =>
      rw [List.mem_cons, not_or] at elsewhere
      exact (syncKey_other elsewhere.1).trans (ih elsewhere.2)

theorem syncKeys_holds {keys : List κ} {old : List α} (holds : Holds entryId stable key old)
    (distinct : (((loaded.lookup key).getD []).map entryId).Nodup) (member : key ∈ keys) :
    Holds entryId (syncKeys entryId loaded stable keys) key ((loaded.lookup key).getD []) := by
  induction keys generalizing stable old with
  | nil => cases member
  | cons front rest ih =>
      by_cases again : key ∈ rest
      · by_cases here : key = front
        · subst here
          exact ih (syncKey_holds holds distinct) again
        · exact ih (holds.same (syncKey_other here)) again
      · have here : key = front := (List.mem_cons.mp member).resolve_right again
        rw [← here]
        exact (syncKey_holds holds distinct).same (syncKeys_other again)

end Syncing

end StableLists

/-- The list of a key as it is read: the loaded one, or else the stable one. -/
def readList {κ α : Type*} [LinearOrder κ] (loaded : OrderedMap κ (List α))
    (stable : StableLists κ α) (key : κ) : List α :=
  (loaded.lookup key).getD (stable.load key)

def ensureLoaded {κ α : Type*} [LinearOrder κ] (stable : StableLists κ α)
    (loaded : OrderedMap κ (List α)) (key : κ) : OrderedMap κ (List α) :=
  if (loaded.lookup key).isSome then loaded
  else
    let items := stable.load key
    if items.isEmpty then loaded else loaded.insert key items

theorem lookup_ensureLoaded_other {κ α : Type*} [LinearOrder κ] {loaded : OrderedMap κ (List α)}
    {stable : StableLists κ α} {key other : κ} (elsewhere : other ≠ key) :
    (ensureLoaded stable loaded key).lookup other = loaded.lookup other := by
  simp only [ensureLoaded]
  split
  · rfl
  · split
    · rfl
    · rw [OrderedMap.insert, OrderedMap.lookup_update, if_neg elsewhere]

def listsOf {κ α : Type*} [LinearOrder κ] (map : OrderedMap κ (List α)) (key : κ) : List α :=
  (map.lookup key).getD []

theorem listsOf_insert {κ α : Type*} [LinearOrder κ] (map : OrderedMap κ (List α)) (key : κ)
    (items : List α) :
    listsOf (map.insert key items) = Function.update (listsOf map) key items := by
  funext other
  rw [listsOf, OrderedMap.insert, OrderedMap.lookup_update]
  by_cases here : other = key
  · rw [if_pos here, here, Function.update_self, Option.getD_some]
  · rw [if_neg here, Function.update_of_ne here, listsOf]

/-- What is not loaded after a step was not loaded before, and the same is stored of it. -/
def KeepsUnloaded {κ α : Type*} [LinearOrder κ] (before : OrderedMap κ (List α))
    (stableBefore : StableLists κ α) (after : OrderedMap κ (List α))
    (stableAfter : StableLists κ α) : Prop :=
  ∀ key, after.lookup key = none →
    before.lookup key = none ∧ stableBefore.SameAt stableAfter key

namespace KeepsUnloaded

variable {κ α : Type*} [LinearOrder κ] {before middle after : OrderedMap κ (List α)}
variable {stableBefore stableMiddle stableAfter : StableLists κ α}

theorem refl (loaded : OrderedMap κ (List α)) (stable : StableLists κ α) :
    KeepsUnloaded loaded stable loaded stable :=
  fun key unloaded => ⟨unloaded, StableLists.SameAt.refl stable key⟩

theorem trans (first : KeepsUnloaded before stableBefore middle stableMiddle)
    (second : KeepsUnloaded middle stableMiddle after stableAfter) :
    KeepsUnloaded before stableBefore after stableAfter := by
  intro key unloaded
  rcases second key unloaded with ⟨unloadedMiddle, later⟩
  rcases first key unloadedMiddle with ⟨unloadedBefore, earlier⟩
  exact ⟨unloadedBefore, earlier.trans later⟩

theorem write (key : κ) (items : List α) :
    KeepsUnloaded before stableBefore
      ((ensureLoaded stableBefore before key).insert key items) stableBefore := by
  intro other unloaded
  rw [OrderedMap.insert, OrderedMap.lookup_update] at unloaded
  split at unloaded
  · cases unloaded
  · rename_i elsewhere
    rw [lookup_ensureLoaded_other elsewhere] at unloaded
    exact ⟨unloaded, StableLists.SameAt.refl stableBefore other⟩

end KeepsUnloaded

/-- The loaded lists and the stable ones stand for the lists: a loaded list is the list, a key that
is not dirty stores it, and a dirty one is loaded. -/
structure LazyLists {κ α : Type*} [LinearOrder κ] (entryId : α → Nat)
    (loaded : OrderedMap κ (List α)) (stable : StableLists κ α) (dirty : List κ)
    (lists : κ → List α) : Prop where
  distinct : ∀ key, ((lists key).map entryId).Nodup
  agrees : ∀ key items, loaded.lookup key = some items → items = lists key
  clean : ∀ key, key ∉ dirty → stable.Holds entryId key (lists key)
  dirty : ∀ key ∈ dirty, (loaded.lookup key).isSome = true
  stored : ∀ key, ∃ items, stable.Holds entryId key items

namespace LazyLists

variable {κ α : Type*} [LinearOrder κ] {entryId : α → Nat}
variable {loaded : OrderedMap κ (List α)} {stable : StableLists κ α} {dirty : List κ}
variable {lists : κ → List α}

theorem readList_eq (lazy : LazyLists entryId loaded stable dirty lists) (key : κ) :
    readList loaded stable key = lists key := by
  rw [readList]
  cases found : loaded.lookup key with
  | some items => exact lazy.agrees key items found
  | none =>
      have notDirty : key ∉ dirty := by
        intro member
        have present := lazy.dirty key member
        rw [found] at present
        cases present
      exact StableLists.load_of_holds (lazy.distinct key) (lazy.clean key notDirty)

theorem ensureLoaded_getD (lazy : LazyLists entryId loaded stable dirty lists) (key : κ) :
    ((ensureLoaded stable loaded key).lookup key).getD [] = lists key := by
  have same := lazy.readList_eq key
  rw [readList] at same
  simp only [ensureLoaded]
  cases found : loaded.lookup key with
  | some items =>
      rw [found] at same
      rw [if_pos Option.isSome_some, found]
      exact same
  | none =>
      rw [found, Option.getD_none] at same
      rw [if_neg (by simp), same]
      split
      · rename_i none_listed
        rw [found]
        exact (List.isEmpty_iff.mp none_listed).symm
      · rw [OrderedMap.insert, OrderedMap.lookup_update, if_pos rfl, Option.getD_some]

theorem write (lazy : LazyLists entryId loaded stable dirty lists) {key : κ} {items : List α}
    (distinct : (items.map entryId).Nodup) :
    LazyLists entryId ((ensureLoaded stable loaded key).insert key items) stable
      (dirty.insert key) (Function.update lists key items) where
  distinct := by
    intro other
    by_cases here : other = key
    · rw [here, Function.update_self]
      exact distinct
    · rw [Function.update_of_ne here]
      exact lazy.distinct other
  agrees := by
    intro other found held
    rw [OrderedMap.insert, OrderedMap.lookup_update] at held
    by_cases here : other = key
    · rw [if_pos here] at held
      rw [here, Function.update_self]
      exact (Option.some.inj held).symm
    · rw [if_neg here, lookup_ensureLoaded_other here] at held
      rw [Function.update_of_ne here]
      exact lazy.agrees other found held
  clean := by
    intro other notDirty
    rw [List.mem_insert_iff, not_or] at notDirty
    rw [Function.update_of_ne notDirty.1]
    exact lazy.clean other notDirty.2
  dirty := by
    intro other member
    rw [OrderedMap.insert, OrderedMap.lookup_update]
    by_cases here : other = key
    · rw [if_pos here]
      rfl
    · rw [if_neg here, lookup_ensureLoaded_other here]
      exact lazy.dirty other ((List.mem_insert_iff.mp member).resolve_left here)
  stored := lazy.stored

theorem flush [DecidableEq α] (lazy : LazyLists entryId loaded stable dirty lists) :
    LazyLists entryId loaded (stable.syncKeys entryId loaded dirty) [] lists := by
  have holds : ∀ key, (stable.syncKeys entryId loaded dirty).Holds entryId key (lists key) := by
    intro key
    by_cases member : key ∈ dirty
    · rcases Option.isSome_iff_exists.mp (lazy.dirty key member) with ⟨items, found⟩
      rcases lazy.stored key with ⟨old, before⟩
      have same : (loaded.lookup key).getD [] = lists key := by
        rw [found, Option.getD_some]
        exact lazy.agrees key items found
      have distinct : (((loaded.lookup key).getD []).map entryId).Nodup := by
        rw [same]
        exact lazy.distinct key
      have written := StableLists.syncKeys_holds before distinct member
      rw [same] at written
      exact written
    · exact (lazy.clean key member).same (StableLists.syncKeys_other member)
  exact {
    distinct := lazy.distinct
    agrees := lazy.agrees
    clean := fun key _ => holds key
    dirty := fun _ member => absurd member List.not_mem_nil
    stored := fun key => ⟨lists key, holds key⟩ }

theorem unload (lazy : LazyLists entryId loaded stable [] lists) :
    LazyLists entryId .empty stable [] lists where
  distinct := lazy.distinct
  agrees := fun _ _ held => by cases held
  clean := lazy.clean
  dirty := fun _ member => absurd member List.not_mem_nil
  stored := lazy.stored

theorem initial (entryId : α → Nat) :
    LazyLists (κ := κ) entryId .empty .empty [] fun _ => [] where
  distinct := fun _ => List.nodup_nil
  agrees := fun _ _ held => by cases held
  clean := fun key _ => StableLists.holds_empty entryId key
  dirty := fun _ member => absurd member List.not_mem_nil
  stored := fun key => ⟨[], StableLists.holds_empty entryId key⟩

end LazyLists

end JupiterSuite.Base
