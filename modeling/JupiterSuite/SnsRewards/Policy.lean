import JupiterSuite.Base.OrderedMap
import JupiterSuite.Clients.Ledger
import Mathlib.Data.Finset.Card
import Mathlib.Data.List.Lex

/-! The SNS neurons of one governance page and the owner that is selected for each. -/

namespace JupiterSuite.SnsRewards

open Base

instance linearOrderUInt8 : LinearOrder UInt8 where
  le_refl := UInt8.le_refl
  le_trans _ _ _ := UInt8.le_trans
  lt_iff_le_not_ge _ _ := by
    simp only [UInt8.lt_iff_toNat_lt, UInt8.le_iff_toNat_le]
    omega
  le_antisymm _ _ := UInt8.le_antisymm
  le_total := UInt8.le_total
  toDecidableLE := inferInstance
  toDecidableLT := inferInstance
  toDecidableEq := inferInstance

def snsOwnerScanIntervalSeconds : Nat := 86400

def snsNeuronPageSize : Nat := 100

def snsOwnerScanMaxPages : Nat := 10000

def maxAccountLookupsPerCall : Nat := 128

def scanLeaseSeconds : Nat := 30 * 60

structure NeuronPermission where
  principal : Option Principal
  permissionType : List Int
  deriving DecidableEq, Repr

structure Neuron where
  id : Option (List UInt8)
  permissions : List NeuronPermission
  cachedNeuronStakeE8s : Nat
  neuronFeesE8s : Nat
  deriving DecidableEq, Repr

def effectiveStakeIsPositive (neuron : Neuron) : Bool :=
  decide (0 < neuron.cachedNeuronStakeE8s - neuron.neuronFeesE8s)

abbrev PermissionIndex := OrderedMap (List UInt8) (Principal × Finset Int)

def addPermission (byPrincipal : PermissionIndex) (permission : NeuronPermission) :
    PermissionIndex :=
  match permission.principal with
  | none => byPrincipal
  | some principal => byPrincipal.update principal.bytes fun known =>
      let entry := known.getD (principal, ∅)
      (entry.1, entry.2 ∪ permission.permissionType.toFinset)

/-- The order of `max_by`: more permission types first, then the smaller principal. -/
def comparePermissions (left right : Principal × Finset Int) : Ordering :=
  (compare left.2.card right.2.card).then (compare right.1.bytes left.1.bytes)

/-- `Iterator::max_by`; of equal elements it keeps the last. -/
def maxBy {α : Type} (order : α → α → Ordering) : List α → Option α
  | [] => none
  | first :: rest => some (rest.foldl
      (fun best next => if order best next = .gt then best else next) first)

def selectOwner (permissions : List NeuronPermission) : Option Principal :=
  let byPrincipal := permissions.foldl addPermission .empty
  (maxBy comparePermissions (byPrincipal.entries.map Prod.snd)).map Prod.fst

def ownerForNeuron (neuron : Neuron) : Option Principal :=
  if effectiveStakeIsPositive neuron then selectOwner neuron.permissions else none

example : selectOwner [⟨some ⟨[2]⟩, [1, 1, 2]⟩, ⟨some ⟨[2]⟩, [2, 3]⟩, ⟨some ⟨[3]⟩, [1, 2]⟩] =
    some ⟨[2]⟩ := by decide

example : selectOwner [⟨some ⟨[2]⟩, [1]⟩, ⟨some ⟨[1]⟩, [7]⟩] = some ⟨[1]⟩ := by decide

/-- The two third-party hash functions under an account identifier; the checksum's bytes are
big-endian. -/
structure Hashes where
  sha224 : List UInt8 → List UInt8
  crc32 : List UInt8 → List UInt8

def accountIdDomain : List UInt8 := [10, 97, 99, 99, 111, 117, 110, 116, 45, 105, 100]

def accountIdentifierBytes (hashes : Hashes) (owner : Principal)
    (subaccount : Option (List UInt8)) : List UInt8 :=
  let hash := hashes.sha224
    (accountIdDomain ++ owner.bytes ++ subaccount.getD (List.replicate 32 0))
  hashes.crc32 hash ++ hash

/-- One owner map: account identifiers to the principals they are the default account of. -/
abbrev OwnerMap := OrderedMap (List UInt8) Principal

def OwnerMap.insertOwner (hashes : Hashes) (map : OwnerMap) (owner : Principal) : OwnerMap :=
  map.insert (accountIdentifierBytes hashes owner none) owner

def OwnerMap.insertOwners (hashes : Hashes) (map : OwnerMap) (neurons : List Neuron) : OwnerMap :=
  (neurons.filterMap ownerForNeuron).foldl (OwnerMap.insertOwner hashes) map

section Owners

variable {hashes : Hashes} {map : OwnerMap} {owner : Principal} {key : List UInt8}

theorem lookup_insertOwner (hashes : Hashes) (map : OwnerMap) (owner : Principal)
    (key : List UInt8) : (map.insertOwner hashes owner).lookup key =
      if key = accountIdentifierBytes hashes owner none then some owner else map.lookup key := by
  rw [OwnerMap.insertOwner, OrderedMap.insert, OrderedMap.lookup_update]
  congr

theorem insertOwners_append (hashes : Hashes) (map : OwnerMap) (first second : List Neuron) :
    map.insertOwners hashes (first ++ second) =
      (map.insertOwners hashes first).insertOwners hashes second := by
  simp only [OwnerMap.insertOwners, List.filterMap_append, List.foldl_append]

/-- The owner that was inserted last under an identifier is the one found. -/
def lastOwner (hashes : Hashes) (owners : List Principal) (key : List UInt8) :
    Option Principal :=
  (owners.filter fun owner => decide (accountIdentifierBytes hashes owner none = key)).getLast?

theorem lookup_insertOwners (hashes : Hashes) (owners : List Principal) (key : List UInt8) :
    (owners.foldl (OwnerMap.insertOwner hashes) .empty).lookup key =
      lastOwner hashes owners key := by
  induction owners using List.reverseRecOn with
  | nil => rfl
  | append_singleton earlier owner ih =>
      rw [List.foldl_append, List.foldl_cons, List.foldl_nil, lookup_insertOwner, ih, lastOwner,
        lastOwner, List.filter_append]
      by_cases same : accountIdentifierBytes hashes owner none = key
      · rw [if_pos same.symm, List.filter_cons_of_pos (by simpa using same)]
        simp
      · rw [if_neg (Ne.symm same), List.filter_cons_of_neg (by simpa using same)]
        simp

theorem lastOwner_mem {owners : List Principal}
    (found : lastOwner hashes owners key = some owner) :
    owner ∈ owners ∧ accountIdentifierBytes hashes owner none = key := by
  have member := List.mem_of_getLast? found
  rw [List.mem_filter, decide_eq_true_eq] at member
  exact member

theorem lastOwner_isSome (hashes : Hashes) {owners : List Principal} (member : owner ∈ owners) :
    (lastOwner hashes owners (accountIdentifierBytes hashes owner none)).isSome = true := by
  rw [lastOwner, List.getLast?_isSome]
  apply List.ne_nil_of_mem
  exact List.mem_filter.mpr ⟨member, decide_eq_true rfl⟩

theorem length_insertOwners (owners : List Principal) :
    (owners.foldl (OwnerMap.insertOwner hashes) .empty).entries.length =
      (owners.map fun owner => accountIdentifierBytes hashes owner none).dedup.length := by
  have looked := fun key => lookup_insertOwners hashes owners key
  generalize owners.foldl (OwnerMap.insertOwner hashes) .empty = built at looked
  have keys : built.entries.length = (built.entries.map Prod.fst).length :=
    (List.length_map Prod.fst).symm
  rw [keys]
  apply List.Perm.length_eq
  have distinct : (built.entries.map Prod.fst).Nodup := by
    rw [List.Nodup, List.pairwise_map]
    exact built.ascending.imp fun below => ne_of_lt below
  apply (List.perm_ext_iff_of_nodup distinct (List.nodup_dedup _)).mpr
  intro key
  rw [List.mem_dedup, List.mem_map, List.mem_map]
  constructor
  · rintro ⟨⟨key, owner⟩, member, rfl⟩
    have found := built.lookup_of_mem member
    rw [looked] at found
    exact ⟨owner, lastOwner_mem found⟩
  · rintro ⟨owner, member, rfl⟩
    rcases Option.isSome_iff_exists.mp (lastOwner_isSome hashes member) with
      ⟨found, last⟩
    rw [← looked] at last
    exact ⟨_, built.mem_of_lookup last, rfl⟩

end Owners

end JupiterSuite.SnsRewards
