import JupiterSuite.Relay.SplitterShares

/-! The owners of the accounts that a batch was paid from: the direct sources and the expanded ones
are merged, the owners looked up in chunks, and what has no owner of its own account is
ineligible. -/

namespace JupiterSuite.Relay

open Base

def ownerResolutionChunkSize : Nat := 128

inductive ResolveDefaultIcpAccountsResult where
  | ok (owners : List (Option Principal))
  | snapshotChanged
  | tooManyAccounts
  | invalidAccountIdentifier (index : Nat)
  deriving DecidableEq, Repr

/-- How an owner lookup returned; it is stale as an index read is. -/
inductive OwnerLookup where
  | stale
  | failed
  | answered (result : ResolveDefaultIcpAccountsResult)
  deriving DecidableEq, Repr

/-- What the index and the owner resolver answer, by how many calls were made before. -/
structure RewardClients where
  getTransactions : Nat → String → Option Nat → Fetched GetAccountIdentifierTransactionsResponse
  resolve : Nat → Nat → List AccountIdentifier → OwnerLookup

/-- A list cut into pieces of a size. -/
def chunksOf {α : Type} (size : Nat) : Nat → List α → List (List α)
  | 0, _ => []
  | count + 1, values => values.take size :: chunksOf size count (values.drop size)

def chunks {α : Type} (size : Nat) (values : List α) : List (List α) :=
  chunksOf size ((values.length + size - 1) / size) values

theorem flatten_chunksOf {α : Type} {size count : Nat} {values : List α}
    (enough : values.length ≤ count * size) : (chunksOf size count values).flatten = values := by
  induction count generalizing values with
  | zero =>
      rw [Nat.zero_mul] at enough
      rw [List.eq_nil_of_length_eq_zero (Nat.le_zero.mp enough)]
      rfl
  | succ count ih =>
      rw [Nat.succ_mul] at enough
      have rest : (values.drop size).length ≤ count * size := by
        rw [List.length_drop]
        omega
      rw [chunksOf, List.flatten_cons, ih rest, List.take_append_drop]

theorem flatten_chunks {α : Type} {size : Nat} (positive : 0 < size) (values : List α) :
    (chunks size values).flatten = values := by
  apply flatten_chunksOf
  have rounded := Nat.div_add_mod (values.length + size - 1) size
  have rest := Nat.mod_lt (values.length + size - 1) positive
  rw [Nat.mul_comm] at rounded
  omega

def acceptOwners (chunk : List AccountIdentifier) :
    OwnerLookup → Except String (List (Option Principal))
  | .stale => .error rewardAttemptExpiredOrStale
  | .failed => .error "owner_lookup_failed"
  | .answered (.ok resolved) =>
      if resolved.length ≠ chunk.length then .error "owner_lookup_length_mismatch"
      else .ok resolved
  | .answered .snapshotChanged => .error "reward_context_changed"
  | .answered .tooManyAccounts => .error "owner_lookup_chunk_rejected"
  | .answered (.invalidAccountIdentifier index) =>
      .error ("invalid_source_account_identifier_" ++ toString index)

def resolveChunks (clients : RewardClients) (snapshotId : Nat) :
    Usage → List (List AccountIdentifier) → Except String (List (Option Principal) × Usage)
  | usage, [] => .ok ([], usage)
  | usage, chunk :: rest => do
      let charged ← usage.charge 1 0 0 0
      let resolved ← acceptOwners chunk (clients.resolve usage.calls snapshotId chunk)
      let (owners, left) ← resolveChunks clients snapshotId charged rest
      .ok (resolved ++ owners, left)

def resolveAccountsBounded (clients : RewardClients) (snapshotId : Nat) (accounts : Sources)
    (usage : Usage) : Except String (List (Option Principal) × Usage) := do
  let usage ← usage.spendWork accounts.entries.length
  resolveChunks clients snapshotId usage (chunks ownerResolutionChunkSize accounts.keys)

def addSources : Sources → List (AccountIdentifier × Nat) → Except String Sources
  | sources, [] => .ok sources
  | sources, (source, amount) :: rest => do
      let sources ← addSource sources source amount
      addSources sources rest

def mergeAttribution (directSources : Sources) (ineligibleE8s : Nat)
    (expanded : ExpandedSplitterProvenance) : Except String (Sources × Nat) := do
  let directSources ← addSources directSources expanded.sources.entries
  let ineligibleE8s ← addChecked ineligibleE8s expanded.ineligibleE8s
  .ok (directSources, ineligibleE8s)

structure ClassifiedSources where
  eligible : OrderedMap Principal Nat
  ineligibleE8s : Nat
  ownerMismatchCount : Nat
  deriving DecidableEq

namespace ClassifiedSources

variable (identifier : Account → AccountIdentifier)

def classify (classified : ClassifiedSources) (account : AccountIdentifier) (value : Nat)
    (owner : Option Principal) : Except String ClassifiedSources :=
  if value = 0 then .ok classified
  else
    match owner with
    | some principal =>
        if identifier (defaultAccount principal) = account then do
          let _ ← addChecked (classified.eligible.amount principal) value
          .ok { classified with eligible := classified.eligible.add principal value }
        else do
          let ineligibleE8s ← addChecked classified.ineligibleE8s value
          .ok { classified with
            ineligibleE8s
            ownerMismatchCount := classified.ownerMismatchCount + 1 }
    | none => do
        let ineligibleE8s ← addChecked classified.ineligibleE8s value
        .ok { classified with ineligibleE8s }

def classifyAll :
    ClassifiedSources → List ((AccountIdentifier × Nat) × Option Principal) →
      Except String ClassifiedSources
  | classified, [] => .ok classified
  | classified, ((account, value), owner) :: rest => do
      let classified ← classified.classify identifier account value owner
      classifyAll classified rest

end ClassifiedSources

def classifySources (identifier : Account → AccountIdentifier) (sources : Sources)
    (initialIneligible : Nat) (owners : List (Option Principal)) :
    Except String ClassifiedSources :=
  if owners.length ≠ sources.entries.length then .error "owner_lookup_length_mismatch"
  else ClassifiedSources.classifyAll identifier ⟨.empty, initialIneligible, 0⟩
    (sources.entries.zip owners)

end JupiterSuite.Relay
