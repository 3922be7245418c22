import JupiterSuite.Historian.CommitmentRuns

/-! The retained lists of the latest commitments. They are written where a transaction is
applied, with what its history made of it, and are read only by the status query and by views. -/

namespace JupiterSuite.Historian

open Base Memo

def maxRecentQualifyingCommitments : Nat := 500

def maxRecentUnderThresholdCommitments : Nat := 100

def maxRecentInvalidCommitments : Nat := 100

structure RecentCommitment where
  canisterId : Principal
  rawIcpMemoText : Option Text
  rawIcpDestinationSubaccount : Option (List UInt8)
  txId : Nat
  timestampNanos : Option Nat
  amountE8s : Nat
  countsTowardFaucet : Bool
  deriving DecidableEq, Repr

structure RecentNeuronCommitment where
  neuronId : Nat
  memoText : Option Text
  txId : Nat
  timestampNanos : Option Nat
  amountE8s : Nat
  countsTowardFaucet : Bool
  deriving DecidableEq, Repr

structure InvalidCommitment where
  txId : Nat
  timestampNanos : Option Nat
  amountE8s : Nat
  deriving DecidableEq, Repr

structure RecentLists where
  recentCommitments : List RecentCommitment
  recentUnderThresholdCommitments : List RecentCommitment
  recentNeuronCommitments : List RecentNeuronCommitment
  recentUnderThresholdNeuronCommitments : List RecentNeuronCommitment
  recentInvalidCommitments : List InvalidCommitment
  deriving DecidableEq, Repr

def RecentLists.empty : RecentLists := ⟨[], [], [], [], []⟩

def RecentCommitment.sortKey (item : RecentCommitment) : Nat × Nat :=
  (item.timestampNanos.getD 0, item.txId)

def RecentNeuronCommitment.sortKey (item : RecentNeuronCommitment) : Nat × Nat :=
  (item.timestampNanos.getD 0, item.txId)

def InvalidCommitment.sortKey (item : InvalidCommitment) : Nat × Nat :=
  (item.timestampNanos.getD 0, item.txId)

section Lists

variable {α : Type} (key : α → Nat × Nat)

/-- By time and then by id, the latest first. -/
def sortNewestFirst (items : List α) : List α :=
  items.mergeSort fun first second =>
    decide ((key second).1 < (key first).1 ∨
      (key second).1 = (key first).1 ∧ (key second).2 ≤ (key first).2)

def pushRecent (items : List α) (item : α) (maxEntries : Nat) : List α :=
  if items.any fun existing => decide ((key existing).2 = (key item).2) then items
  else (sortNewestFirst key (items ++ [item])).take maxEntries

def retainFirst : List Nat → List α → List α
  | _, [] => []
  | seen, item :: rest =>
      if (key item).2 ∈ seen then retainFirst seen rest
      else item :: retainFirst ((key item).2 :: seen) rest

def normalizeRecent (keep : α → Bool) (items : List α) (maxEntries : Nat) : List α :=
  (retainFirst key [] (sortNewestFirst key (items.filter keep))).take maxEntries

variable {key} {items : List α} {item other : α} {maxEntries : Nat}

theorem mem_pushRecent (member : other ∈ pushRecent key items item maxEntries) :
    other ∈ items ∨ other = item := by
  rw [pushRecent] at member
  split at member
  · exact .inl member
  · have sorted := List.mem_mergeSort.mp (List.mem_of_mem_take member)
    rcases List.mem_append.mp sorted with old | new
    · exact .inl old
    · exact .inr (List.mem_singleton.mp new)

theorem mem_retainFirst {seen : List Nat} (member : other ∈ retainFirst key seen items) :
    other ∈ items := by
  induction items generalizing seen with
  | nil => exact member
  | cons front rest ih =>
      rw [retainFirst] at member
      split at member
      · exact List.mem_cons_of_mem front (ih member)
      · rcases List.mem_cons.mp member with rfl | later
        · exact List.mem_cons_self
        · exact List.mem_cons_of_mem front (ih later)

theorem mem_normalizeRecent {keep : α → Bool}
    (member : other ∈ normalizeRecent key keep items maxEntries) : other ∈ items := by
  have retained := mem_retainFirst (List.mem_of_mem_take member)
  exact List.mem_of_mem_filter (List.mem_mergeSort.mp retained)

end Lists

def pushRecentCommitment := pushRecent RecentCommitment.sortKey

def pushRecentNeuronCommitment := pushRecent RecentNeuronCommitment.sortKey

def pushRecentInvalidCommitment (items : List InvalidCommitment) (item : InvalidCommitment) :
    List InvalidCommitment :=
  pushRecent InvalidCommitment.sortKey items item maxRecentInvalidCommitments

def normalizeRecentCommitmentBucket (items : List RecentCommitment) (countsTowardFaucet : Bool)
    (maxEntries : Nat) : List RecentCommitment :=
  normalizeRecent RecentCommitment.sortKey
    (fun item => decide (item.countsTowardFaucet = countsTowardFaucet)) items maxEntries

def normalizeRecentInvalidCommitments (items : List InvalidCommitment) : List InvalidCommitment :=
  normalizeRecent InvalidCommitment.sortKey (fun _ => true) items maxRecentInvalidCommitments

/-- The part of `normalize_runtime_state` about the lists, which an upgrade runs. -/
def RecentLists.normalize (recent : RecentLists) : RecentLists :=
  { recent with
    recentCommitments := normalizeRecentCommitmentBucket recent.recentCommitments true
      maxRecentQualifyingCommitments
    recentUnderThresholdCommitments := normalizeRecentCommitmentBucket
      recent.recentUnderThresholdCommitments false maxRecentUnderThresholdCommitments
    recentInvalidCommitments := normalizeRecentInvalidCommitments
      recent.recentInvalidCommitments }

/-- Whether its history takes the sample of a qualifying commitment. -/
def historyInserts (st : CommitmentState) (commitment : IndexedCommitment) : Bool :=
  let maxEntries := st.config.maxCommitmentEntriesPerCanister
  match commitment.target with
  | .cyclesTopUp canisterId => (pushCommitment (st.commitmentHistory canisterId)
      ⟨commitment.txId, commitment.amountE8s, none⟩ maxEntries).2
  | .rawIcp canisterId destinationSubaccount _ =>
      (pushCommitment (st.rawIcpCommitmentHistory canisterId)
        ⟨commitment.txId, commitment.amountE8s, destinationSubaccount⟩ maxEntries).2
  | .neuronStake neuronId _ => (pushCommitment (st.neuronCommitmentHistory neuronId)
      ⟨commitment.txId, commitment.amountE8s, none⟩ maxEntries).2

namespace RecentLists

def pushCanister (recent : RecentLists) (item : RecentCommitment) : RecentLists :=
  if item.countsTowardFaucet then
    { recent with
      recentCommitments := pushRecentCommitment recent.recentCommitments item
        maxRecentQualifyingCommitments }
  else
    { recent with
      recentUnderThresholdCommitments := pushRecentCommitment
        recent.recentUnderThresholdCommitments item maxRecentUnderThresholdCommitments }

def pushNeuron (recent : RecentLists) (item : RecentNeuronCommitment) : RecentLists :=
  if item.countsTowardFaucet then
    { recent with
      recentNeuronCommitments := pushRecentNeuronCommitment
        recent.recentNeuronCommitments item maxRecentQualifyingCommitments }
  else
    { recent with
      recentUnderThresholdNeuronCommitments := pushRecentNeuronCommitment
        recent.recentUnderThresholdNeuronCommitments item maxRecentUnderThresholdCommitments }

/-- A commitment that is listed, below the threshold or with its sample inserted. -/
def pushValid (recent : RecentLists) (commitment : IndexedCommitment)
    (timestampNanos : Option Nat) : RecentLists :=
  match commitment.target with
  | .cyclesTopUp canisterId => recent.pushCanister
      { canisterId
        rawIcpMemoText := none
        rawIcpDestinationSubaccount := none
        txId := commitment.txId
        timestampNanos
        amountE8s := commitment.amountE8s
        countsTowardFaucet := commitment.countsTowardFaucet }
  | .rawIcp canisterId destinationSubaccount memoText => recent.pushCanister
      { canisterId
        rawIcpMemoText := some memoText
        rawIcpDestinationSubaccount := destinationSubaccount
        txId := commitment.txId
        timestampNanos
        amountE8s := commitment.amountE8s
        countsTowardFaucet := commitment.countsTowardFaucet }
  | .neuronStake neuronId memoText => recent.pushNeuron
      { neuronId
        memoText
        txId := commitment.txId
        timestampNanos
        amountE8s := commitment.amountE8s
        countsTowardFaucet := commitment.countsTowardFaucet }

/-- What `apply_indexed_commitment_tx` does to the lists, in the state it starts from. -/
def applyTx (fromText : Text → Option Principal) (stakingId : String) (minTxE8s : Nat)
    (st : CommitmentState) (recent : RecentLists) (tx : Tx) : RecentLists :=
  match indexedCommitmentFromTx fromText stakingId minTxE8s tx with
  | some (.valid commitment) =>
      if !commitment.countsTowardFaucet || historyInserts st commitment then
        recent.pushValid commitment tx.transaction.timestampNanos
      else recent
  | some (.invalid txId amountE8s) =>
      { recent with
        recentInvalidCommitments := pushRecentInvalidCommitment
          recent.recentInvalidCommitments ⟨txId, tx.transaction.timestampNanos, amountE8s⟩ }
  | none => recent

/-- Transactions in the order in which they are applied. -/
def applyTxs (fromText : Text → Option Principal) (stakingId : String) (minTxE8s : Nat) :
    CommitmentState → RecentLists → List Tx → RecentLists
  | _, recent, [] => recent
  | st, recent, tx :: rest =>
      applyTxs fromText stakingId minTxE8s
        (applyIndexedCommitmentTx fromText stakingId minTxE8s st tx)
        (applyTx fromText stakingId minTxE8s st recent tx) rest

end RecentLists

/-! ## What the lists know -/

namespace CommitmentTerms

variable (terms : CommitmentTerms)

/-- The transaction is a commitment below the threshold or one with an invalid memo. -/
def notQualifying (tx : Tx) : Bool :=
  match indexedCommitmentFromTx terms.fromText terms.stakingId terms.minTxE8s tx with
  | some (.valid commitment) => !commitment.countsTowardFaucet
  | some (.invalid _ _) => true
  | none => false

end CommitmentTerms

variable {commitment : IndexedCommitment} {timestampNanos : Option Nat}

namespace RecentLists

def lists (recent : RecentLists) (id : Nat) : Prop :=
  (∃ item ∈ recent.recentCommitments, item.txId = id) ∨
    ∃ item ∈ recent.recentNeuronCommitments, item.txId = id

def listsOther (recent : RecentLists) (id : Nat) : Prop :=
  (∃ item ∈ recent.recentUnderThresholdCommitments, item.txId = id) ∨
    (∃ item ∈ recent.recentUnderThresholdNeuronCommitments, item.txId = id) ∨
    ∃ item ∈ recent.recentInvalidCommitments, item.txId = id

variable {recent : RecentLists} {id : Nat}

theorem lists_pushCanister {item : RecentCommitment}
    (listed : (recent.pushCanister item).lists id) :
    recent.lists id ∨ item.countsTowardFaucet = true ∧ item.txId = id := by
  simp only [pushCanister] at listed
  split at listed
  · rename_i counts
    rcases listed with ⟨other, member, same⟩ | neuron
    · rcases mem_pushRecent member with old | rfl
      · exact .inl (.inl ⟨other, old, same⟩)
      · exact .inr ⟨counts, same⟩
    · exact .inl (.inr neuron)
  · exact .inl listed

theorem lists_pushNeuron {item : RecentNeuronCommitment}
    (listed : (recent.pushNeuron item).lists id) :
    recent.lists id ∨ item.countsTowardFaucet = true ∧ item.txId = id := by
  simp only [pushNeuron] at listed
  split at listed
  · rename_i counts
    rcases listed with canister | ⟨other, member, same⟩
    · exact .inl (.inl canister)
    · rcases mem_pushRecent member with old | rfl
      · exact .inl (.inr ⟨other, old, same⟩)
      · exact .inr ⟨counts, same⟩
  · exact .inl listed

theorem lists_pushValid (listed : (recent.pushValid commitment timestampNanos).lists id) :
    recent.lists id ∨ commitment.countsTowardFaucet = true ∧ commitment.txId = id := by
  simp only [pushValid] at listed
  split at listed
  · exact lists_pushCanister listed
  · exact lists_pushCanister listed
  · exact lists_pushNeuron listed

theorem listsOther_pushCanister {item : RecentCommitment}
    (listed : (recent.pushCanister item).listsOther id) :
    recent.listsOther id ∨ item.countsTowardFaucet = false ∧ item.txId = id := by
  simp only [pushCanister] at listed
  split at listed
  · exact .inl listed
  · rename_i below
    rcases listed with ⟨other, member, same⟩ | rest
    · rcases mem_pushRecent member with old | rfl
      · exact .inl (.inl ⟨other, old, same⟩)
      · exact .inr ⟨Bool.eq_false_iff.mpr below, same⟩
    · exact .inl (.inr rest)

theorem listsOther_pushNeuron {item : RecentNeuronCommitment}
    (listed : (recent.pushNeuron item).listsOther id) :
    recent.listsOther id ∨ item.countsTowardFaucet = false ∧ item.txId = id := by
  simp only [pushNeuron] at listed
  split at listed
  · exact .inl listed
  · rename_i below
    rcases listed with canister | ⟨other, member, same⟩ | invalid
    · exact .inl (.inl canister)
    · rcases mem_pushRecent member with old | rfl
      · exact .inl (.inr (.inl ⟨other, old, same⟩))
      · exact .inr ⟨Bool.eq_false_iff.mpr below, same⟩
    · exact .inl (.inr (.inr invalid))

theorem listsOther_pushValid (listed : (recent.pushValid commitment timestampNanos).listsOther id) :
    recent.listsOther id ∨ commitment.countsTowardFaucet = false ∧ commitment.txId = id := by
  simp only [pushValid] at listed
  split at listed
  · exact listsOther_pushCanister listed
  · exact listsOther_pushCanister listed
  · exact listsOther_pushNeuron listed

theorem lists_normalize (listed : recent.normalize.lists id) : recent.lists id := by
  rcases listed with ⟨item, member, same⟩ | neuron
  · exact .inl ⟨item, mem_normalizeRecent member, same⟩
  · exact .inr neuron

theorem listsOther_normalize (listed : recent.normalize.listsOther id) :
    recent.listsOther id := by
  rcases listed with ⟨item, member, same⟩ | neuron | ⟨item, member, same⟩
  · exact .inl ⟨item, mem_normalizeRecent member, same⟩
  · exact .inr (.inl neuron)
  · exact .inr (.inr ⟨item, mem_normalizeRecent member, same⟩)

end RecentLists

/-- Every listed id is one of an applied transaction of the list's kind. -/
structure RecentSound (terms : CommitmentTerms) (applied : List Tx) (recent : RecentLists) :
    Prop where
  qualifying : ∀ id, recent.lists id →
    ∃ tx ∈ applied, tx.id = id ∧ (terms.qualifying tx).isSome = true
  other : ∀ id, recent.listsOther id →
    ∃ tx ∈ applied, tx.id = id ∧ terms.notQualifying tx = true

section Applying

variable {terms : CommitmentTerms} {st : CommitmentState} {recent : RecentLists} {tx : Tx}
  {applied longer : List Tx}

theorem indexedCommitmentFromTx_id {entry : IndexedCommitmentEntry}
    (found : indexedCommitmentFromTx terms.fromText terms.stakingId terms.minTxE8s tx =
      some entry) :
    match entry with
    | .valid commitment => commitment.txId = tx.id
    | .invalid txId _ => txId = tx.id := by
  simp only [indexedCommitmentFromTx] at found
  split at found
  · rename_i read
    split at found
    · cases found
      exact memoBytesFromIndexTx_id read
    · cases found
      exact memoBytesFromIndexTx_id read
  · cases found

theorem RecentSound.mono (sound : RecentSound terms applied recent)
    (contains : applied ⊆ longer) : RecentSound terms longer recent where
  qualifying := by
    intro id listed
    obtain ⟨tx, member, rest⟩ := sound.qualifying id listed
    exact ⟨tx, contains member, rest⟩
  other := by
    intro id listed
    obtain ⟨tx, member, rest⟩ := sound.other id listed
    exact ⟨tx, contains member, rest⟩

theorem RecentSound.applyTx (sound : RecentSound terms applied recent) (member : tx ∈ applied) :
    RecentSound terms applied
      (recent.applyTx terms.fromText terms.stakingId terms.minTxE8s st tx) := by
  simp only [RecentLists.applyTx]
  split
  · rename_i commitment entry
    have same : commitment.txId = tx.id := indexedCommitmentFromTx_id entry
    split
    · constructor
      · intro id listed
        rcases RecentLists.lists_pushValid listed with old | ⟨counts, rfl⟩
        · exact sound.qualifying id old
        · refine ⟨tx, member, same.symm, ?_⟩
          simp [CommitmentTerms.qualifying, entry, counts]
      · intro id listed
        rcases RecentLists.listsOther_pushValid listed with old | ⟨below, rfl⟩
        · exact sound.other id old
        · refine ⟨tx, member, same.symm, ?_⟩
          simp [CommitmentTerms.notQualifying, entry, below]
    · exact sound
  · rename_i txId amountE8s entry
    have same : txId = tx.id := indexedCommitmentFromTx_id entry
    refine ⟨sound.qualifying, ?_⟩
    rintro id (canister | neuron | ⟨item, listed, rfl⟩)
    · exact sound.other id (.inl canister)
    · exact sound.other id (.inr (.inl neuron))
    · rcases mem_pushRecent listed with old | rfl
      · exact sound.other item.txId (.inr (.inr ⟨item, old, rfl⟩))
      · refine ⟨tx, member, same.symm, ?_⟩
        simp [CommitmentTerms.notQualifying, entry]
  · exact sound

theorem RecentSound.applyTxs {txs : List Tx} (sound : RecentSound terms applied recent)
    (members : ∀ tx ∈ txs, tx ∈ applied) :
    RecentSound terms applied
      (RecentLists.applyTxs terms.fromText terms.stakingId terms.minTxE8s st recent txs) := by
  induction txs generalizing st recent with
  | nil => exact sound
  | cons tx rest ih =>
      exact ih (sound.applyTx (members tx List.mem_cons_self))
        fun other later => members other (List.mem_cons_of_mem tx later)

theorem RecentSound.normalize (sound : RecentSound terms applied recent) :
    RecentSound terms applied recent.normalize :=
  ⟨fun id listed => sound.qualifying id (RecentLists.lists_normalize listed),
    fun id listed => sound.other id (RecentLists.listsOther_normalize listed)⟩

theorem RecentSound.unread {other : CommitmentTerms} (sound : RecentSound terms [] recent) :
    RecentSound other [] recent where
  qualifying := by
    intro id listed
    obtain ⟨_, impossible, _⟩ := sound.qualifying id listed
    cases impossible
  other := by
    intro id listed
    obtain ⟨_, impossible, _⟩ := sound.other id listed
    cases impossible

theorem RecentSound.empty : RecentSound terms applied .empty := by
  constructor
  · rintro id (⟨_, impossible, _⟩ | ⟨_, impossible, _⟩) <;> cases impossible
  · rintro id (⟨_, impossible, _⟩ | ⟨_, impossible, _⟩ | ⟨_, impossible, _⟩) <;> cases impossible

end Applying
end JupiterSuite.Historian
