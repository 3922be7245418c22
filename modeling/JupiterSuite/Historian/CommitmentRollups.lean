import JupiterSuite.Historian.CommitmentRoutes
import JupiterSuite.Historian.CommitmentSystem
import JupiterSuite.Historian.RouteCursors

/-! What the rollups stand for: of every route, the qualifying commitments that were applied. A
history only knows its retained samples, so a transaction is counted once because it is applied
once. -/

namespace JupiterSuite.Historian

open Base Memo

/-- How transactions are read: the account and the threshold. -/
structure CommitmentTerms where
  fromText : Text → Option Principal
  stakingId : String
  minTxE8s : Nat

namespace CommitmentTerms

variable (terms : CommitmentTerms)

def qualifying (tx : Tx) : Option IndexedCommitment :=
  match indexedCommitmentFromTx terms.fromText terms.stakingId terms.minTxE8s tx with
  | some (.valid commitment) => if commitment.countsTowardFaucet then some commitment else none
  | _ => none

def routeAmount (key : CommitmentRouteKey) (tx : Tx) : Option Nat :=
  (terms.qualifying tx).bind fun commitment =>
    if CommitmentRouteKey.fromIndexed commitment.target = some key then some commitment.amountE8s
    else none

def qualifyingCount (txs : List Tx) : Nat := (txs.filterMap terms.qualifying).length

def routeCount (key : CommitmentRouteKey) (txs : List Tx) : Nat :=
  (txs.filterMap (terms.routeAmount key)).length

def routeSum (key : CommitmentRouteKey) (txs : List Tx) : Nat :=
  (txs.filterMap (terms.routeAmount key)).sum

def apply (st : CommitmentState) (tx : Tx) : CommitmentState :=
  applyIndexedCommitmentTx terms.fromText terms.stakingId terms.minTxE8s st tx

def applyAll (st : CommitmentState) (txs : List Tx) : CommitmentState :=
  applyCommitmentTransactionsInChronologicalOrder terms.fromText terms.stakingId terms.minTxE8s
    st txs

end CommitmentTerms

/-- The samples of the histories are of transactions that were applied. -/
structure SamplesApplied (st : CommitmentState) : Prop where
  topUp : ∀ canisterId, ∀ sample ∈ st.commitmentHistory canisterId,
    ∃ tx ∈ st.applied, tx.id = sample.txId
  rawIcp : ∀ canisterId, ∀ sample ∈ st.rawIcpCommitmentHistory canisterId,
    ∃ tx ∈ st.applied, tx.id = sample.txId
  neuron : ∀ neuronId, ∀ sample ∈ st.neuronCommitmentHistory neuronId,
    ∃ tx ∈ st.applied, tx.id = sample.txId

structure RollupsSound (terms : CommitmentTerms) (st : CommitmentState) : Prop where
  count : st.qualifyingCommitmentCount = min (terms.qualifyingCount st.applied) u64Max
  rollup : ∀ key, getCommitmentRouteRollup st key =
    ⟨min (terms.routeCount key st.applied) u64Max, min (terms.routeSum key st.applied) u64Max⟩
  total : terms.qualifyingCount st.applied ≤ u64Max →
    st.commitmentRouteRollups.sumOf CommitmentRouteRollup.qualifyingCommitmentCount =
      terms.qualifyingCount st.applied
  samples : SamplesApplied st

/-- What applying transactions leaves as it is. -/
structure AppliedFrame (before after : CommitmentState) : Prop where
  config : after.config = before.config
  last : after.lastIndexedStakingTxId = before.lastIndexedStakingTxId
  oldest : after.oldestIndexedStakingTxId = before.oldestIndexedStakingTxId
  order : after.stakingIndexDescending = before.stakingIndexDescending
  complete : after.stakingBackfillComplete = before.stakingBackfillComplete
  catchUp : after.activeStakingCatchUp = before.activeStakingCatchUp
  genesis : after.commitmentRouteRollupsCompleteFromGenesis =
    before.commitmentRouteRollupsCompleteFromGenesis
  fault : after.commitmentIndexFault = before.commitmentIndexFault
  lock : after.lock = before.lock

section Pushing

variable {history : List CommitmentSample} {sample : CommitmentSample} {maxEntries : Nat}

theorem pushCommitment_inserted (history : List CommitmentSample) (sample : CommitmentSample)
    (maxEntries : Nat) (fresh : ∀ item ∈ history, item.txId ≠ sample.txId) :
    (pushCommitment history sample maxEntries).2 = true := by
  have absent : (sortByTxId history).any (fun item => decide (item.txId = sample.txId)) =
      false := by
    rw [List.any_eq_false]
    intro item member
    have there := List.mem_mergeSort.mp member
    simpa using fresh item there
  simp only [pushCommitment, absent, Bool.false_eq_true, if_false]

theorem mem_pruneVec {item : CommitmentSample} (member : item ∈ pruneVec history maxEntries) :
    item ∈ history := by
  rw [pruneVec] at member
  split at member
  · cases member
  · exact List.mem_of_mem_drop member

theorem mem_pushCommitment {item : CommitmentSample}
    (member : item ∈ (pushCommitment history sample maxEntries).1) :
    item ∈ history ∨ item = sample := by
  simp only [pushCommitment] at member
  split at member
  · exact .inl (List.mem_mergeSort.mp member)
  · have inside := mem_pruneVec member
    rcases List.mem_append.mp inside with older | later
    · exact .inl (List.mem_mergeSort.mp (List.takeWhile_sublist _ |>.subset older))
    · rcases List.mem_cons.mp later with here | newer
      · exact .inr here
      · exact .inl (List.mem_mergeSort.mp (List.dropWhile_sublist _ |>.subset newer))

end Pushing

section Counting

variable {terms : CommitmentTerms} {st : CommitmentState} {tx : Tx} {key : CommitmentRouteKey}

theorem qualifyingCount_snoc (txs : List Tx) (tx : Tx) :
    terms.qualifyingCount (txs ++ [tx]) =
      terms.qualifyingCount txs + (terms.qualifying tx).elim 0 fun _ => 1 := by
  rw [CommitmentTerms.qualifyingCount, CommitmentTerms.qualifyingCount, List.filterMap_append,
    List.length_append]
  cases found : terms.qualifying tx <;> simp [found]

theorem routeCount_snoc (key : CommitmentRouteKey) (txs : List Tx) (tx : Tx) :
    terms.routeCount key (txs ++ [tx]) =
      terms.routeCount key txs + (terms.routeAmount key tx).elim 0 fun _ => 1 := by
  rw [CommitmentTerms.routeCount, CommitmentTerms.routeCount, List.filterMap_append,
    List.length_append]
  cases found : terms.routeAmount key tx <;> simp [found]

theorem routeSum_snoc (key : CommitmentRouteKey) (txs : List Tx) (tx : Tx) :
    terms.routeSum key (txs ++ [tx]) =
      terms.routeSum key txs + (terms.routeAmount key tx).getD 0 := by
  rw [CommitmentTerms.routeSum, CommitmentTerms.routeSum, List.filterMap_append, List.sum_append]
  cases found : terms.routeAmount key tx <;> simp [found]

theorem qualifying_route (decodes : DecodesPrincipals terms.fromText)
    {commitment : IndexedCommitment} (found : terms.qualifying tx = some commitment) :
    ∃ key, CommitmentRouteKey.fromIndexed commitment.target = some key := by
  simp only [CommitmentTerms.qualifying, indexedCommitmentFromTx] at found
  split at found
  · rename_i valid entry
    split at found
    · cases found
      split at entry
      · split at entry
        · rename_i parsed
          cases entry
          exact Option.isSome_iff_exists.mp (parseMemoDirective_route decodes parsed)
        · cases entry
      · cases entry
    · cases found
  · cases found

theorem memoBytesFromIndexTx_id {stakingId : String} {entry : Nat × Option (List UInt8) × Nat}
    (found : memoBytesFromIndexTx stakingId tx = some entry) : entry.1 = tx.id := by
  rw [memoBytesFromIndexTx] at found
  split at found
  · split at found
    · cases found
      rfl
    · cases found
  · cases found

theorem qualifying_txId {commitment : IndexedCommitment}
    (found : terms.qualifying tx = some commitment) : commitment.txId = tx.id := by
  simp only [CommitmentTerms.qualifying, indexedCommitmentFromTx] at found
  split at found
  · rename_i valid entry
    split at found
    · cases found
      split at entry
      · rename_i read
        split at entry
        · cases entry
          exact memoBytesFromIndexTx_id read
        · cases entry
      · cases entry
    · cases found
  · cases found

end Counting

section Applying

variable {terms : CommitmentTerms} {st : CommitmentState} {tx : Tx}
  {commitment : IndexedCommitment}

theorem AppliedFrame.refl (st : CommitmentState) : AppliedFrame st st :=
  ⟨rfl, rfl, rfl, rfl, rfl, rfl, rfl, rfl, rfl⟩

theorem AppliedFrame.trans {before middle after : CommitmentState}
    (first : AppliedFrame before middle) (second : AppliedFrame middle after) :
    AppliedFrame before after where
  config := second.config.trans first.config
  last := second.last.trans first.last
  oldest := second.oldest.trans first.oldest
  order := second.order.trans first.order
  complete := second.complete.trans first.complete
  catchUp := second.catchUp.trans first.catchUp
  genesis := second.genesis.trans first.genesis
  fault := second.fault.trans first.fault
  lock := second.lock.trans first.lock

theorem countInserted_frame (st : CommitmentState) (commitment : IndexedCommitment)
    (inserted : Bool) : AppliedFrame st (st.countInserted commitment inserted) := by
  cases inserted
  · exact .refl st
  · exact ⟨rfl, rfl, rfl, rfl, rfl, rfl, rfl, rfl, rfl⟩

theorem applyVerified_frame (st : CommitmentState) (commitment : IndexedCommitment) :
    AppliedFrame st (applyVerifiedQualifyingCommitment st commitment) := by
  simp only [applyVerifiedQualifyingCommitment]
  split
  · refine .trans ?_ (countInserted_frame _ commitment _)
    exact ⟨rfl, rfl, rfl, rfl, rfl, rfl, rfl, rfl, rfl⟩
  · exact .refl st

theorem applyRecent_frame (st : CommitmentState) (commitment : IndexedCommitment) :
    AppliedFrame st (applyRecentRawOrNeuronCommitment st commitment) := by
  simp only [applyRecentRawOrNeuronCommitment]
  split
  · split
    · refine .trans ?_ (countInserted_frame _ commitment _)
      exact ⟨rfl, rfl, rfl, rfl, rfl, rfl, rfl, rfl, rfl⟩
    · exact .refl st
  · split
    · refine .trans ?_ (countInserted_frame _ commitment _)
      exact ⟨rfl, rfl, rfl, rfl, rfl, rfl, rfl, rfl, rfl⟩
    · exact .refl st
  · exact .refl st

theorem apply_frame (terms : CommitmentTerms) (st : CommitmentState) (tx : Tx) :
    AppliedFrame st (terms.apply st tx) := by
  have recorded : AppliedFrame st { st with applied := st.applied ++ [tx] } :=
    ⟨rfl, rfl, rfl, rfl, rfl, rfl, rfl, rfl, rfl⟩
  simp only [CommitmentTerms.apply, applyIndexedCommitmentTx]
  split
  · split
    · split
      · exact recorded.trans (applyVerified_frame _ _)
      · exact recorded
    · exact recorded.trans (applyRecent_frame _ _)
  · exact recorded

theorem applyAll_frame (terms : CommitmentTerms) (st : CommitmentState) (items : List Tx) :
    AppliedFrame st (terms.applyAll st items) := by
  simp only [CommitmentTerms.applyAll, applyCommitmentTransactionsInChronologicalOrder]
  generalize items.reverse = oldestFirst
  induction oldestFirst generalizing st with
  | nil => exact .refl st
  | cons tx rest ih => exact (apply_frame terms st tx).trans (ih (terms.apply st tx))

theorem apply_unqualified (unqualified : terms.qualifying tx = none) :
    terms.apply st tx = { st with applied := st.applied ++ [tx] } := by
  simp only [CommitmentTerms.qualifying] at unqualified
  simp only [CommitmentTerms.apply, applyIndexedCommitmentTx]
  split
  · rename_i valid entry
    rw [entry] at unqualified
    dsimp only at unqualified
    split at unqualified
    · cases unqualified
    · rename_i below
      simp only [applyRecentRawOrNeuronCommitment, below, Bool.false_eq_true, if_false]
      cases valid.target <;> rfl
  · rfl

/-- The state in which an inserted commitment is counted. -/
structure Inserted (st next : CommitmentState) (tx : Tx) : Prop where
  applied : next.applied = st.applied ++ [tx]
  rollups : next.commitmentRouteRollups = st.commitmentRouteRollups
  count : next.qualifyingCommitmentCount = st.qualifyingCommitmentCount
  samples : SamplesApplied next

theorem SamplesApplied.record (samples : SamplesApplied st) (tx : Tx) :
    SamplesApplied { st with applied := st.applied ++ [tx] } := by
  have kept : ∀ id, (∃ old ∈ st.applied, old.id = id) →
      ∃ old ∈ st.applied ++ [tx], old.id = id := by
    rintro id ⟨old, member, same⟩
    exact ⟨old, List.mem_append_left _ member, same⟩
  exact ⟨fun canisterId sample member => kept _ (samples.topUp canisterId sample member),
    fun canisterId sample member => kept _ (samples.rawIcp canisterId sample member),
    fun neuronId sample member => kept _ (samples.neuron neuronId sample member)⟩

theorem pushed_applied {ι : Type} [DecidableEq ι] {histories : ι → List CommitmentSample}
    {applied : List Tx}
    (known : ∀ index, ∀ item ∈ histories index, ∃ old ∈ applied, old.id = item.txId)
    (index : ι) (sample : CommitmentSample) (maxEntries : Nat) (same : tx.id = sample.txId) :
    ∀ other, ∀ item ∈ Function.update histories index
        (pushCommitment (histories index) sample maxEntries).1 other,
      ∃ old ∈ applied ++ [tx], old.id = item.txId := by
  intro other item member
  have kept : ∀ index, item ∈ histories index → ∃ old ∈ applied ++ [tx], old.id = item.txId := by
    intro index inside
    rcases known index item inside with ⟨old, there, matched⟩
    exact ⟨old, List.mem_append_left _ there, matched⟩
  by_cases here : other = index
  · rw [here, Function.update_self] at member
    rcases mem_pushCommitment member with before | rfl
    · exact kept index before
    · exact ⟨tx, List.mem_append_right _ (List.mem_singleton_self tx), same⟩
  · rw [Function.update_of_ne here] at member
    exact kept other member

theorem qualifying_entry (found : terms.qualifying tx = some commitment) :
    indexedCommitmentFromTx terms.fromText terms.stakingId terms.minTxE8s tx =
        some (.valid commitment) ∧ commitment.countsTowardFaucet = true := by
  simp only [CommitmentTerms.qualifying] at found
  generalize indexedCommitmentFromTx terms.fromText terms.stakingId terms.minTxE8s tx = entry
    at found ⊢
  rcases entry with _ | ⟨valid⟩ | ⟨txId, amountE8s⟩
  · cases found
  · dsimp only at found
    split at found
    · rename_i counts
      cases found
      exact ⟨rfl, counts⟩
    · cases found
  · cases found

theorem apply_qualified (found : terms.qualifying tx = some commitment)
    (fresh : ∀ old ∈ st.applied, old.id ≠ tx.id) (samples : SamplesApplied st) :
    ∃ next, Inserted st next tx ∧ terms.apply st tx = next.countInserted commitment true := by
  have txId := qualifying_txId found
  have absent : ∀ item : CommitmentSample, (∃ old ∈ st.applied, old.id = item.txId) →
      item.txId ≠ commitment.txId := by
    rintro item ⟨old, member, same⟩ clash
    exact fresh old member (same.trans (clash.trans txId))
  have recorded := samples.record tx
  rcases qualifying_entry found with ⟨entry, counts⟩
  simp only [CommitmentTerms.apply, applyIndexedCommitmentTx, entry]
  cases target : commitment.target with
  | cyclesTopUp canisterId =>
      have inserted := pushCommitment_inserted (st.commitmentHistory canisterId)
        ⟨commitment.txId, commitment.amountE8s, none⟩
        st.config.maxCommitmentEntriesPerCanister
        fun item member => absent item (samples.topUp canisterId item member)
      simp only [counts, if_true, applyVerifiedQualifyingCommitment, target, inserted]
      refine ⟨_, ?_, rfl⟩
      refine ⟨rfl, rfl, rfl, ?_⟩
      exact ⟨pushed_applied samples.topUp canisterId _ _ txId.symm, recorded.rawIcp,
        recorded.neuron⟩
  | rawIcp canisterId destinationSubaccount memoText =>
      have inserted := pushCommitment_inserted (st.rawIcpCommitmentHistory canisterId)
        ⟨commitment.txId, commitment.amountE8s, destinationSubaccount⟩
        st.config.maxCommitmentEntriesPerCanister
        fun item member => absent item (samples.rawIcp canisterId item member)
      simp only [counts, if_true, applyRecentRawOrNeuronCommitment, target, inserted]
      refine ⟨_, ?_, rfl⟩
      refine ⟨rfl, rfl, rfl, ?_⟩
      exact ⟨recorded.topUp, pushed_applied samples.rawIcp canisterId _ _ txId.symm,
        recorded.neuron⟩
  | neuronStake neuronId memoText =>
      have inserted := pushCommitment_inserted (st.neuronCommitmentHistory neuronId)
        ⟨commitment.txId, commitment.amountE8s, none⟩
        st.config.maxCommitmentEntriesPerCanister
        fun item member => absent item (samples.neuron neuronId item member)
      simp only [counts, if_true, applyRecentRawOrNeuronCommitment, target, inserted]
      refine ⟨_, ?_, rfl⟩
      refine ⟨rfl, rfl, rfl, ?_⟩
      exact ⟨recorded.topUp, recorded.rawIcp,
        pushed_applied samples.neuron neuronId _ _ txId.symm⟩

theorem routeAmount_qualified {key : CommitmentRouteKey} (other : CommitmentRouteKey)
    (found : terms.qualifying tx = some commitment)
    (route : CommitmentRouteKey.fromIndexed commitment.target = some key) :
    terms.routeAmount other tx = if other = key then some commitment.amountE8s else none := by
  rw [CommitmentTerms.routeAmount, found]
  simp only [Option.bind_some, route, Option.some.injEq, eq_comm]

theorem rollup_incremented {key : CommitmentRouteKey} (sound : RollupsSound terms st)
    (found : terms.qualifying tx = some commitment)
    (route : CommitmentRouteKey.fromIndexed commitment.target = some key) :
    incrementCommitmentRouteRollup commitment.amountE8s (st.commitmentRouteRollups.lookup key) =
      ⟨min (terms.routeCount key (st.applied ++ [tx])) u64Max,
        min (terms.routeSum key (st.applied ++ [tx])) u64Max⟩ := by
  have before := sound.rollup key
  rw [getCommitmentRouteRollup] at before
  rw [routeCount_snoc, routeSum_snoc, routeAmount_qualified key found route, if_pos rfl]
  simp only [incrementCommitmentRouteRollup, before, satAdd, Option.elim_some,
    Option.getD_some, CommitmentRouteRollup.mk.injEq]
  omega

theorem RollupsSound.counted {next : CommitmentState}
    (decodes : DecodesPrincipals terms.fromText) (sound : RollupsSound terms st)
    (inserted : Inserted st next tx) (found : terms.qualifying tx = some commitment) :
    RollupsSound terms (next.countInserted commitment true) := by
  rcases qualifying_route decodes found with ⟨key, route⟩
  have one : terms.qualifyingCount (st.applied ++ [tx]) = terms.qualifyingCount st.applied + 1 := by
    rw [qualifyingCount_snoc, found]
    rfl
  have rollups : (next.countInserted commitment true).commitmentRouteRollups =
      st.commitmentRouteRollups.update key
        (incrementCommitmentRouteRollup commitment.amountE8s) := by
    simp only [CommitmentState.countInserted, if_true, route, Option.elim_some, inserted.rollups]
  have applied : (next.countInserted commitment true).applied = st.applied ++ [tx] :=
    inserted.applied
  constructor
  · rw [applied, one]
    simp only [CommitmentState.countInserted, if_true, inserted.count, sound.count, satAdd]
    omega
  · intro other
    rw [getCommitmentRouteRollup, rollups, KeyedMap.lookup_update, applied]
    by_cases same : other = key
    · rw [if_pos same, Option.getD_some, rollup_incremented sound found route, same]
    · rw [if_neg same, routeCount_snoc, routeSum_snoc, routeAmount_qualified other found route,
        if_neg same]
      exact sound.rollup other
  · intro fits
    rw [applied, one] at fits ⊢
    rw [rollups]
    have summed := KeyedMap.sumOf_update CommitmentRouteRollup.qualifyingCommitmentCount
      st.commitmentRouteRollups key (incrementCommitmentRouteRollup commitment.amountE8s)
    have before := sound.total (by omega)
    have known : st.commitmentRouteRollups.measureAt
        CommitmentRouteRollup.qualifyingCommitmentCount key =
          ((st.commitmentRouteRollups.lookup key).getD ⟨0, 0⟩).qualifyingCommitmentCount := by
      rw [KeyedMap.measureAt]
      cases st.commitmentRouteRollups.lookup key <;> rfl
    have bound := KeyedMap.measureAt_le_sumOf CommitmentRouteRollup.qualifyingCommitmentCount
      st.commitmentRouteRollups key
    simp only [incrementCommitmentRouteRollup, satAdd, ← known] at summed
    omega
  · exact ⟨inserted.samples.topUp, inserted.samples.rawIcp, inserted.samples.neuron⟩

theorem RollupsSound.apply (decodes : DecodesPrincipals terms.fromText)
    (sound : RollupsSound terms st) (fresh : ∀ old ∈ st.applied, old.id ≠ tx.id) :
    RollupsSound terms (terms.apply st tx) ∧
      (terms.apply st tx).applied = st.applied ++ [tx] := by
  cases found : terms.qualifying tx with
  | none =>
      have unrouted : ∀ key, terms.routeAmount key tx = none := by
        intro key
        rw [CommitmentTerms.routeAmount, found]
        rfl
      rw [apply_unqualified found]
      refine ⟨⟨?_, ?_, ?_, sound.samples.record tx⟩, rfl⟩
      · rw [qualifyingCount_snoc, found]
        exact sound.count
      · intro key
        rw [routeCount_snoc, routeSum_snoc, unrouted key]
        exact sound.rollup key
      · rw [qualifyingCount_snoc, found]
        exact sound.total
  | some commitment =>
      rcases apply_qualified found fresh sound.samples with ⟨next, inserted, same⟩
      rw [same]
      exact ⟨sound.counted decodes inserted found, inserted.applied⟩

theorem RollupsSound.applyAll (decodes : DecodesPrincipals terms.fromText) {items : List Tx}
    (sound : RollupsSound terms st) (distinct : NewestFirst IndexTransactionWithId.id items)
    (fresh : ∀ old ∈ st.applied, ∀ tx ∈ items, old.id ≠ tx.id) :
    RollupsSound terms (terms.applyAll st items) ∧
      (terms.applyAll st items).applied = st.applied ++ items.reverse := by
  have ordered : items.reverse.Pairwise fun older newer => older.id < newer.id :=
    List.pairwise_reverse.mpr distinct
  have unknown : ∀ old ∈ st.applied, ∀ tx ∈ items.reverse, old.id ≠ tx.id := by
    intro old member tx inside
    exact fresh old member tx (List.mem_reverse.mp inside)
  simp only [CommitmentTerms.applyAll, applyCommitmentTransactionsInChronologicalOrder]
  generalize items.reverse = oldestFirst at ordered unknown ⊢
  clear distinct fresh
  induction oldestFirst generalizing st with
  | nil => exact ⟨sound, (List.append_nil _).symm⟩
  | cons tx rest ih =>
      rcases List.pairwise_cons.mp ordered with ⟨above, tail⟩
      rcases sound.apply decodes fun old member => unknown old member tx List.mem_cons_self with
        ⟨next, applied⟩
      have still : ∀ old ∈ (terms.apply st tx).applied, ∀ other ∈ rest, old.id ≠ other.id := by
        intro old member other inside
        rw [applied] at member
        rcases List.mem_append.mp member with before | here
        · exact unknown old before other (List.mem_cons_of_mem _ inside)
        · rw [List.mem_singleton.mp here]
          exact Nat.ne_of_lt (above other inside)
      rcases ih next tail still with ⟨done, whole⟩
      refine ⟨done, ?_⟩
      rw [List.foldl_cons]
      exact whole.trans (by rw [applied, List.append_assoc, List.singleton_append])

end Applying

section Reading

variable {terms : CommitmentTerms} {first second : List Tx}

theorem qualifyingCount_perm (same : first.Perm second) :
    terms.qualifyingCount first = terms.qualifyingCount second :=
  (same.filterMap _).length_eq

theorem routeCount_perm (key : CommitmentRouteKey) (same : first.Perm second) :
    terms.routeCount key first = terms.routeCount key second :=
  (same.filterMap _).length_eq

theorem routeSum_perm (key : CommitmentRouteKey) (same : first.Perm second) :
    terms.routeSum key first = terms.routeSum key second :=
  (same.filterMap _).sum_eq

theorem RollupsSound.new (config : CommitmentConfig) :
    RollupsSound terms (CommitmentState.new config) where
  count := rfl
  rollup := fun _ => rfl
  total := fun _ => rfl
  samples := by
    constructor <;> intro _ _ impossible <;> cases impossible

theorem RollupsSound.unread {terms other : CommitmentTerms} {st : CommitmentState}
    (sound : RollupsSound terms st) (nothing : st.applied = []) : RollupsSound other st where
  count := by
    rw [sound.count, nothing]
    rfl
  rollup := by
    intro key
    rw [sound.rollup key, nothing]
    rfl
  total := by
    have before := sound.total
    rw [nothing] at before ⊢
    exact before
  samples := sound.samples

end Reading

end JupiterSuite.Historian
