import JupiterSuite.Historian.CyclesHistories
import JupiterSuite.Historian.HistoryStore

/-! Over every run, the lazily stored histories are those of the registry in memory: a key is
loaded before it is written, a write reaches stable memory with the scope that names it, and no
flush touches what is not loaded. -/

namespace JupiterSuite.Historian.Registry

open Base Memo

/-! ## A push keeps the ids of a history apart -/

variable {maxEntries : Nat} {commitment : IndexedCommitment} {id : Principal}
  {after before : HistoryStore} {f : StableHistories → HistoryHeap → HistoryHeap}

theorem pushCommitment_distinct {history : List CommitmentSample} {sample : CommitmentSample}
    (distinct : (history.map CommitmentSample.txId).Nodup) :
    ((pushCommitment history sample maxEntries).1.map CommitmentSample.txId).Nodup := by
  have sorted : ((sortByTxId history).map CommitmentSample.txId).Nodup :=
    ((List.perm_insertionSort _ history).map _).nodup_iff.mpr distinct
  simp only [pushCommitment]
  split
  · exact sorted
  · rename_i absent
    generalize sortByTxId history = items at sorted absent
    let older := fun item : CommitmentSample => decide (item.txId < sample.txId)
    have placed : (items.takeWhile older ++ sample :: items.dropWhile older).Perm
        (sample :: items) := by
      refine List.perm_middle.trans (List.Perm.cons sample ?_)
      rw [List.takeWhile_append_dropWhile]
    have fresh : sample.txId ∉ items.map CommitmentSample.txId := by
      intro member
      rcases List.mem_map.mp member with ⟨item, inside, same⟩
      exact absent (List.any_eq_true.mpr ⟨item, inside, decide_eq_true same⟩)
    have grown : ((sample :: items).map CommitmentSample.txId).Nodup :=
      List.nodup_cons.mpr ⟨fresh, sorted⟩
    exact ((placed.map _).nodup_iff.mpr grown).sublist ((pruneVec_suffix _ _).sublist.map _)

def Ascending (history : List CyclesSample) : Prop :=
  history.Pairwise fun first second => first.timestampNanos < second.timestampNanos

variable {history : List CyclesSample} {sample : CyclesSample} {memo : Text}
  {subaccount : Option (List UInt8)}

theorem Ascending.distinct (ascending : Ascending history) :
    (history.map CyclesSample.timestampNanos).Nodup :=
  List.pairwise_map.mpr (ascending.imp Nat.ne_of_lt)

theorem pushCyclesSample_ascending (ascending : Ascending history)
    (past : ∀ earlier ∈ history, earlier.timestampNanos ≤ sample.timestampNanos) :
    Ascending (pushCyclesSample history sample maxEntries).1 := by
  rcases RegistryState.pushCyclesSample_cases maxEntries history sample with kept | ⟨added, fresh⟩
  · rw [kept]
    exact ascending
  · rw [added]
    have grown : Ascending (history ++ [sample]) := by
      refine List.pairwise_append.mpr ⟨ascending, List.pairwise_singleton _ _, ?_⟩
      intro earlier member last final
      rw [List.mem_singleton.mp final]
      exact samples_before ascending past fresh earlier member
    exact grown.sublist (pruneVec_suffix _ _).sublist

/-! ## The histories of the registry in memory -/

namespace RegistryState

variable (st : RegistryState) (canisterId : Principal)

/-- The part of the registry that the store keeps, every history loaded. -/
def histories : HistoryHeap where
  config := st.config
  commitmentHistory := st.commitmentHistory
  cyclesHistory := st.cyclesHistory
  rawIcpCommitmentHistory := st.rawIcpCommitmentHistory
  neuronCommitmentHistory := st.neuronCommitmentHistory

theorem histories_foldl {ι : Type} {write : RegistryState → ι → RegistryState}
    (each : ∀ st item, (write st item).histories = st.histories) (items : List ι)
    (st : RegistryState) : (items.foldl write st).histories = st.histories := by
  induction items generalizing st with
  | nil => rfl
  | cons item rest ih => exact (ih (write st item)).trans (each st item)

@[simp]
theorem histories_updateMeta (change : CanisterMeta → CanisterMeta) :
    (st.updateMeta canisterId change).histories = st.histories := rfl

@[simp]
theorem histories_track (reason : CanisterTrackingReason) :
    (st.track canisterId reason).histories = st.histories := rfl

@[simp]
theorem histories_enqueueInitialCyclesProbe :
    (st.enqueueInitialCyclesProbe canisterId).histories = st.histories := by
  simp only [enqueueInitialCyclesProbe]
  split
  · rfl
  · split
    · rfl
    · rfl

@[simp]
theorem histories_incrementCommitmentRouteRollup (key : Option CommitmentRouteKey)
    (amountE8s : Nat) :
    (st.incrementCommitmentRouteRollup key amountE8s).histories = st.histories := by
  cases key with
  | none => rfl
  | some key => rfl

@[simp]
theorem histories_refresh :
    (st.refreshMemoRegisteredCanisterSummary canisterId).histories = st.histories := by
  simp only [refreshMemoRegisteredCanisterSummary]
  split
  · rfl
  · rfl

theorem histories_rebuild :
    st.rebuildMemoRegisteredCanisterSummariesCache.histories = st.histories :=
  (histories_foldl histories_refresh _ _).trans rfl

theorem histories_repair :
    (repairMemoRegisteredCanisterSummariesIfInvalid st).histories = st.histories := by
  simp only [repairMemoRegisteredCanisterSummariesIfInvalid]
  split
  · rfl
  · exact st.histories_rebuild

theorem histories_countNewCommitment (commitment : IndexedCommitment)
    (timestampNanos : Option Nat) (nowSecs : Nat) :
    (st.countNewCommitment canisterId commitment timestampNanos nowSecs).histories =
      st.histories := by
  simp only [countNewCommitment]
  split
  · simp
  · simp

theorem histories_registerSnsMembership (canisterIds : List Principal) (nowSecs : Nat) :
    (st.registerSnsMembership canisterIds nowSecs).histories = st.histories := by
  refine histories_foldl ?_ canisterIds st
  intro before member
  simp only [registerSnsMember]
  split
  · simp
  · simp

theorem histories_trackRelay (reason : CanisterTrackingReason) (nowSecs : Option Nat) :
    (st.trackRelay canisterId reason nowSecs).histories = st.histories := by
  simp only [trackRelay]
  split
  · simp
  · simp

theorem histories_markActiveRelayTracked (target relayId : Principal) (nowSecs : Option Nat) :
    (st.markActiveRelayTracked target relayId nowSecs).histories = st.histories := by
  simp only [markActiveRelayTracked, histories_refresh, histories_trackRelay]

theorem histories_ensureCanonicalRelayTracking :
    st.ensureCanonicalRelayTracking.histories = st.histories := by
  simp only [ensureCanonicalRelayTracking]
  split
  · rfl
  · exact histories_foldl (fun before target =>
      before.histories_markActiveRelayTracked target _ none) _ _

theorem histories_dropStaleMemoSource (entry : Principal × List CanisterTrackingReason) :
    (st.dropStaleMemoSource entry).histories = st.histories := by
  simp only [dropStaleMemoSource]
  split
  · rfl
  · rfl

theorem histories_normalizeLastCommitment :
    (st.normalizeLastCommitment canisterId).histories = st.histories := by
  simp only [normalizeLastCommitment]
  split
  · rfl
  · rfl

theorem histories_normalizeRuntimeState :
    st.normalizeRuntimeState.histories = { st.histories with config := clampConfig st.config } := by
  simp only [normalizeRuntimeState]
  rw [histories_rebuild]
  refine Eq.trans (b := RegistryState.histories (List.foldl normalizeLastCommitment _ _)) rfl ?_
  rw [histories_foldl fun before id => before.histories_normalizeLastCommitment id,
    histories_foldl histories_dropStaleMemoSource]
  rfl

theorem histories_installed (config : RegistryConfig) :
    (installed config).histories = .new (clampConfig config) := by
  have tracked := (RegistryState.new config).histories_ensureCanonicalRelayTracking
  rw [installed, histories_normalizeRuntimeState, tracked]
  exact congrArg (fun config => HistoryHeap.new (clampConfig config))
    (congrArg HistoryHeap.config tracked)

theorem histories_upgraded (args : RegistryUpgradeArgs) :
    let config := clampConfig (upgradedConfig st.config args)
    (st.upgraded args).map histories =
      if config.scanIntervalSeconds = 0 ∨ config.cyclesIntervalSeconds = 0 then none
      else some { st.histories with config := config } := by
  simp only [upgraded]
  generalize restoredIs : ({ st with
    config := upgradedConfig st.config args
    distinctCanisters := .empty
    cachedCyclesProbeRoutes := .empty
    summariesCache := none
    totalDescIndex := none } : RegistryState) = restored
  have same : (repairMemoRegisteredCanisterSummariesIfInvalid
      restored).normalizeRuntimeState.ensureCanonicalRelayTracking.histories =
        { st.histories with config := clampConfig (upgradedConfig st.config args) } := by
    have repaired := restored.histories_repair
    have settings : (repairMemoRegisteredCanisterSummariesIfInvalid restored).config =
        restored.config := congrArg HistoryHeap.config repaired
    rw [histories_ensureCanonicalRelayTracking, histories_normalizeRuntimeState, repaired,
      settings, ← restoredIs]
    rfl
  have clamped : (repairMemoRegisteredCanisterSummariesIfInvalid
      restored).normalizeRuntimeState.ensureCanonicalRelayTracking.config =
        clampConfig (upgradedConfig st.config args) := congrArg HistoryHeap.config same
  rw [clamped]
  split
  · rfl
  · rw [Option.map_some, same]

theorem histories_applyVerified (target : commitment.target = .cyclesTopUp id)
    (timestampNanos : Option Nat) (nowSecs : Nat) :
    (st.applyVerifiedQualifyingCommitment commitment timestampNanos nowSecs).histories =
      { st.histories with
        commitmentHistory := st.commitmentHistory.insert id
          (pushCommitment (listsOf st.commitmentHistory id)
            (commitmentSample commitment timestampNanos none)
            st.config.maxCommitmentEntriesPerCanister).1 } := by
  simp only [applyVerifiedQualifyingCommitment, target, histories_refresh]
  split
  · exact (histories_countNewCommitment _ id commitment timestampNanos nowSecs).trans rfl
  · rfl

theorem histories_applyRawIcp (target : commitment.target = .rawIcp id subaccount memo)
    (counts : commitment.countsTowardFaucet = true) (timestampNanos : Option Nat) :
    (st.applyRecentRawOrNeuronCommitment commitment timestampNanos).histories =
      { st.histories with
        rawIcpCommitmentHistory := st.rawIcpCommitmentHistory.insert id
          (pushCommitment (listsOf st.rawIcpCommitmentHistory id)
            (commitmentSample commitment timestampNanos subaccount)
            st.config.maxCommitmentEntriesPerCanister).1 } := by
  simp only [applyRecentRawOrNeuronCommitment, target, counts, Bool.not_true,
    Bool.false_eq_true, if_false]
  split
  · exact (histories_incrementCommitmentRouteRollup _ _ _).trans rfl
  · rfl

theorem histories_applyNeuron {id : Nat} {memo : Option Text}
    (target : commitment.target = .neuronStake id memo)
    (counts : commitment.countsTowardFaucet = true) (timestampNanos : Option Nat) :
    (st.applyRecentRawOrNeuronCommitment commitment timestampNanos).histories =
      { st.histories with
        neuronCommitmentHistory := st.neuronCommitmentHistory.insert id
          (pushCommitment (listsOf st.neuronCommitmentHistory id)
            (commitmentSample commitment timestampNanos none)
            st.config.maxCommitmentEntriesPerCanister).1 } := by
  simp only [applyRecentRawOrNeuronCommitment, target, counts, Bool.not_true,
    Bool.false_eq_true, if_false]
  split
  · exact (histories_incrementCommitmentRouteRollup _ _ _).trans rfl
  · rfl

theorem histories_underThreshold (counts : commitment.countsTowardFaucet = false)
    (timestampNanos : Option Nat) (nowSecs : Nat) :
    (st.applyIndexedCommitment commitment timestampNanos nowSecs).histories = st.histories := by
  simp only [applyIndexedCommitment, applyRecentRawOrNeuronCommitment, counts, Bool.not_false,
    Bool.false_eq_true, if_true, if_false]
  split
  · rfl
  · rfl

theorem histories_recordCyclesProbe (timestampNanos nowSecs : Nat) (maxEntries : Nat)
    (cycles : Nat) (route : Option CyclesProbeRoute) :
    (st.recordCyclesProbe timestampNanos nowSecs canisterId maxEntries
        (.ok cycles route)).histories =
      { st.histories with
        cyclesHistory := st.cyclesHistory.insert canisterId
          (pushCyclesSample (listsOf st.cyclesHistory canisterId)
            ⟨timestampNanos, cycles, cyclesSampleSourceForRoute route⟩ maxEntries).1 } := by
  simp only [recordCyclesProbe, histories_refresh, histories_updateMeta]
  rfl

theorem histories_recordCyclesProbe_err (timestampNanos nowSecs : Nat) (maxEntries : Nat)
    (message : String) :
    (st.recordCyclesProbe timestampNanos nowSecs canisterId maxEntries
        (.err message)).histories = st.histories := by
  simp only [recordCyclesProbe, histories_refresh, histories_updateMeta]
  rfl

end RegistryState

/-! ## Marks and flushes -/

theorem markDirty_isEmpty {κ : Type} [DecidableEq κ] (dirty keys : List κ) :
    (markDirty dirty keys).isEmpty = (dirty.isEmpty && keys.isEmpty) := by
  induction keys generalizing dirty with
  | nil => exact (Bool.and_true _).symm
  | cons key rest ih =>
      have present : (dirty.insert key).isEmpty = false :=
        List.isEmpty_eq_false_iff.mpr (List.ne_nil_of_mem List.mem_insert_self)
      exact (ih (dirty.insert key)).trans (by simp [present])

/-- The sections that are marked are those whose keys are named. -/
structure Named (sections : Sections) (scopes : Scopes) : Prop where
  commitments : sections.commitments = !scopes.commitments.isEmpty
  cycles : sections.cycles = !scopes.cycles.isEmpty
  rawIcpCommitments : sections.rawIcpCommitments = !scopes.rawIcpCommitments.isEmpty
  neuronCommitments : sections.neuronCommitments = !scopes.neuronCommitments.isEmpty

theorem Named.none : Named .none .none := ⟨rfl, rfl, rfl, rfl⟩

theorem Named.mark {sections added : Sections} {dirty scopes : Scopes}
    (named : Named sections dirty) (more : Named added scopes) :
    Named (sections.union added) (dirty.mark scopes) where
  commitments := by
    simp only [Sections.union, Scopes.mark, markDirty_isEmpty, named.commitments,
      more.commitments, Bool.not_and]
  cycles := by
    simp only [Sections.union, Scopes.mark, markDirty_isEmpty, named.cycles, more.cycles,
      Bool.not_and]
  rawIcpCommitments := by
    simp only [Sections.union, Scopes.mark, markDirty_isEmpty, named.rawIcpCommitments,
      more.rawIcpCommitments, Bool.not_and]
  neuronCommitments := by
    simp only [Sections.union, Scopes.mark, markDirty_isEmpty, named.neuronCommitments,
      more.neuronCommitments, Bool.not_and]

section Sync

variable {κ α : Type} [LinearOrder κ] [DecidableEq α] {entryId : α → Nat}
variable {loaded : OrderedMap κ (List α)} {stable : StableLists κ α} {dirty : List κ}
variable {lists : κ → List α} {marked : Bool}

theorem syncHistory_eq (named : marked = !dirty.isEmpty) :
    (if marked then syncHistory entryId loaded stable dirty else stable) =
      stable.syncKeys entryId loaded dirty := by
  rw [named]
  cases dirty with
  | nil => rfl
  | cons => rfl

theorem syncHistory_lazy (lazy : LazyLists entryId loaded stable dirty lists)
    (named : marked = !dirty.isEmpty) :
    LazyLists entryId loaded
      (if marked then syncHistory entryId loaded stable dirty else stable) [] lists := by
  rw [syncHistory_eq named]
  exact lazy.flush

theorem syncHistory_keeps (lazy : LazyLists entryId loaded stable dirty lists)
    (named : marked = !dirty.isEmpty) :
    KeepsUnloaded loaded stable loaded
      (if marked then syncHistory entryId loaded stable dirty else stable) := by
  rw [syncHistory_eq named]
  intro key unloaded
  refine ⟨unloaded, StableLists.syncKeys_other ?_⟩
  intro member
  have present := lazy.dirty key member
  rw [unloaded] at present
  cases present

end Sync

/-- The store stands for the histories of a heap that holds them all. -/
structure StoreCore (store : HistoryStore) (plain : HistoryHeap) : Prop where
  commitments : LazyLists CommitmentSample.txId store.heap.commitmentHistory
    store.stable.commitments store.dirtyScopes.commitments (listsOf plain.commitmentHistory)
  cycles : LazyLists CyclesSample.timestampNanos store.heap.cyclesHistory store.stable.cycles
    store.dirtyScopes.cycles (listsOf plain.cyclesHistory)
  rawIcpCommitments : LazyLists CommitmentSample.txId store.heap.rawIcpCommitmentHistory
    store.stable.rawIcpCommitments store.dirtyScopes.rawIcpCommitments
    (listsOf plain.rawIcpCommitmentHistory)
  neuronCommitments : LazyLists CommitmentSample.txId store.heap.neuronCommitmentHistory
    store.stable.neuronCommitments store.dirtyScopes.neuronCommitments
    (listsOf plain.neuronCommitmentHistory)
  named : Named store.dirtySections store.dirtyScopes
  clean : store.dirtySections = .none → store.dirtyScopes = .none
  config : store.heap.config = plain.config
  root : store.stable.root = plain.config
  ascending : ∀ id, Ascending (listsOf plain.cyclesHistory id)

structure StoreRefines (store : HistoryStore) (plain : HistoryHeap) : Prop where
  core : StoreCore store plain
  flushed : store.batchDepth = 0 → store.dirtySections = .none

/-- What is not loaded after the step was not loaded before, and the same is stored of it. -/
structure KeepsStore (before after : HistoryStore) : Prop where
  commitments : KeepsUnloaded before.heap.commitmentHistory before.stable.commitments
    after.heap.commitmentHistory after.stable.commitments
  cycles : KeepsUnloaded before.heap.cyclesHistory before.stable.cycles after.heap.cyclesHistory
    after.stable.cycles
  rawIcpCommitments : KeepsUnloaded before.heap.rawIcpCommitmentHistory
    before.stable.rawIcpCommitments after.heap.rawIcpCommitmentHistory
    after.stable.rawIcpCommitments
  neuronCommitments : KeepsUnloaded before.heap.neuronCommitmentHistory
    before.stable.neuronCommitments after.heap.neuronCommitmentHistory
    after.stable.neuronCommitments

theorem KeepsStore.of_same (heap : after.heap = before.heap) (stable : after.stable = before.stable) :
    KeepsStore before after := by
  rcases before with ⟨_, _, _, _, _⟩
  rcases after with ⟨_, _, _, _, _⟩
  cases heap
  cases stable
  exact ⟨.refl _ _, .refl _ _, .refl _ _, .refl _ _⟩

theorem KeepsStore.trans {middle : HistoryStore} (first : KeepsStore before middle)
    (second : KeepsStore middle after) : KeepsStore before after :=
  ⟨first.commitments.trans second.commitments, first.cycles.trans second.cycles,
    first.rawIcpCommitments.trans second.rawIcpCommitments,
    first.neuronCommitments.trans second.neuronCommitments⟩

section Flush

variable {store : HistoryStore} {plain : HistoryHeap}

theorem persist_dirtySections : store.persistDirtyState.dirtySections = .none := by
  simp only [HistoryStore.persistDirtyState]
  split
  · rename_i clean
    exact clean
  · rfl

theorem persist_core (core : StoreCore store plain) :
    StoreCore store.persistDirtyState plain := by
  simp only [HistoryStore.persistDirtyState]
  split
  · exact core
  · have named := core.named
    exact {
      commitments := syncHistory_lazy core.commitments named.commitments
      cycles := syncHistory_lazy core.cycles named.cycles
      rawIcpCommitments := syncHistory_lazy core.rawIcpCommitments named.rawIcpCommitments
      neuronCommitments := syncHistory_lazy core.neuronCommitments named.neuronCommitments
      named := Named.none
      clean := fun _ => rfl
      config := core.config
      root := by
        simp only [HistoryStore.clearPersistenceDirty, persistSnapshotSectionsScoped]
        split
        · exact core.config
        · exact core.root
      ascending := core.ascending }

theorem persist_keeps (core : StoreCore store plain) : KeepsStore store store.persistDirtyState := by
  simp only [HistoryStore.persistDirtyState]
  split
  · exact .of_same rfl rfl
  · have named := core.named
    exact ⟨syncHistory_keeps core.commitments named.commitments,
      syncHistory_keeps core.cycles named.cycles,
      syncHistory_keeps core.rawIcpCommitments named.rawIcpCommitments,
      syncHistory_keeps core.neuronCommitments named.neuronCommitments⟩

end Flush

section Writes

variable {store : HistoryStore} {plain changed : HistoryHeap} {heap : HistoryHeap}
variable {sections : Sections} {scopes : Scopes}

/-- The store with a changed heap and the marks of the change. -/
def HistoryStore.marked (store : HistoryStore) (sections : Sections) (scopes : Scopes)
    (heap : HistoryHeap) : HistoryStore :=
  { store with
    heap := heap
    dirtySections := store.dirtySections.union sections
    dirtyScopes := store.dirtyScopes.mark scopes }

/-- A write marks what it changes and, outside a batch, flushes it. -/
theorem write_eq (refines : StoreRefines store plain) (rooted : sections.root = true)
    (single : Scopes.none.mark scopes = scopes)
    (f : StableHistories → HistoryHeap → HistoryHeap) :
    store.withStateMutSectionsScoped sections scopes f =
      let marked := store.marked sections scopes (f store.stable store.heap)
      if store.persistenceBatchActive then marked else marked.persistDirtyState := by
  simp only [HistoryStore.withStateMutSectionsScoped]
  split
  · rfl
  · rename_i inactive
    have closed : store.batchDepth = 0 := by
      simpa [HistoryStore.persistenceBatchActive] using inactive
    have clean := refines.flushed closed
    have unmarked := refines.core.clean clean
    have dirty : sections ≠ .none := by
      rintro rfl
      cases rooted
    have union : Sections.none.union sections = sections := by
      simp [Sections.union, Sections.none]
    simp only [HistoryStore.persistDirtyState, HistoryStore.marked, clean, unmarked, union, single,
      if_neg dirty, HistoryStore.clearPersistenceDirty]

theorem Sections.union_root {left right : Sections} (rooted : right.root = true) :
    left.union right ≠ .none := by
  intro empty
  have root : (left.union right).root = false := congrArg Sections.root empty
  simp [Sections.union, rooted] at root

theorem write_refines (refines : StoreRefines store plain) (rooted : sections.root = true)
    (single : Scopes.none.mark scopes = scopes)
    (core : StoreCore (store.marked sections scopes (f store.stable store.heap)) changed) :
    StoreRefines (store.withStateMutSectionsScoped sections scopes f) changed := by
  rw [write_eq refines rooted single]
  dsimp only
  split
  · rename_i active
    refine ⟨core, fun closed => ?_⟩
    have opened : 0 < store.batchDepth := of_decide_eq_true active
    exact absurd closed (Nat.pos_iff_ne_zero.mp opened)
  · exact ⟨persist_core core, fun _ => persist_dirtySections⟩

theorem write_keeps (refines : StoreRefines store plain) (rooted : sections.root = true)
    (single : Scopes.none.mark scopes = scopes)
    (core : StoreCore (store.marked sections scopes (f store.stable store.heap)) changed)
    (keeps : KeepsStore store (store.marked sections scopes (f store.stable store.heap))) :
    KeepsStore store (store.withStateMutSectionsScoped sections scopes f) := by
  rw [write_eq refines rooted single]
  dsimp only
  split
  · exact keeps
  · exact keeps.trans (persist_keeps core)

/-- What a write does: the store stands for the changed histories, and what is not loaded is
kept. -/
structure Wrote (store : HistoryStore) (changed : HistoryHeap) (next : HistoryStore) : Prop where
  refines : StoreRefines next changed
  keeps : KeepsStore store next

theorem wrote (refines : StoreRefines store plain) (rooted : sections.root = true)
    (single : Scopes.none.mark scopes = scopes)
    (core : StoreCore (store.marked sections scopes (f store.stable store.heap)) changed)
    (keeps : KeepsStore store (store.marked sections scopes (f store.stable store.heap))) :
    Wrote store changed (store.withStateMutSectionsScoped sections scopes f) :=
  ⟨write_refines refines rooted single core, write_keeps refines rooted single core keeps⟩

theorem core_unchanged (core : StoreCore store plain) (rooted : sections.root = true)
    (registry : List Principal) (silent : Named sections .none) :
    StoreCore (store.marked sections { Scopes.none with registry := registry } store.heap) plain where
  commitments := core.commitments
  cycles := core.cycles
  rawIcpCommitments := core.rawIcpCommitments
  neuronCommitments := core.neuronCommitments
  named := core.named.mark ⟨silent.commitments, silent.cycles, silent.rawIcpCommitments,
    silent.neuronCommitments⟩
  clean := fun empty => absurd empty (Sections.union_root rooted)
  config := core.config
  root := core.root
  ascending := core.ascending

theorem root_wrote (refines : StoreRefines store plain) :
    Wrote store plain (store.withRootStateMut fun _ heap => heap) :=
  wrote refines rfl rfl (core_unchanged refines.core rfl [] ⟨rfl, rfl, rfl, rfl⟩)
    (.of_same rfl rfl)

theorem registry_wrote (refines : StoreRefines store plain) (canisterId : Principal) :
    Wrote store plain
      (store.withRootAndRegistryCanisterStateMut canisterId fun _ heap => heap) :=
  wrote refines rfl rfl (core_unchanged refines.core rfl [canisterId] ⟨rfl, rfl, rfl, rfl⟩)
    (.of_same rfl rfl)

end Writes

section Pushes

variable {store : HistoryStore} {plain : HistoryHeap}

theorem commitment_items {κ : Type} [LinearOrder κ] {loaded : OrderedMap κ (List CommitmentSample)}
    {stable : StableLists κ CommitmentSample} {dirty : List κ} {lists : κ → List CommitmentSample}
    (lazy : LazyLists CommitmentSample.txId loaded stable dirty lists) (key : κ)
    (sample : CommitmentSample) (maxEntries : Nat) :
    LazyLists CommitmentSample.txId
      ((ensureLoaded stable loaded key).insert key
        (pushCommitment (((ensureLoaded stable loaded key).lookup key).getD []) sample
          maxEntries).1) stable (dirty.insert key)
      (Function.update lists key (pushCommitment (lists key) sample maxEntries).1) := by
  rw [lazy.ensureLoaded_getD key]
  exact lazy.write (pushCommitment_distinct (lazy.distinct key))

theorem topUp_wrote (refines : StoreRefines store plain) (id : Principal)
    (commitment : IndexedCommitment) (timestampNanos : Option Nat) :
    Wrote store
      { plain with
        commitmentHistory := plain.commitmentHistory.insert id
          (pushCommitment (listsOf plain.commitmentHistory id)
            (RegistryState.commitmentSample commitment timestampNanos none)
            plain.config.maxCommitmentEntriesPerCanister).1 }
      (store.withRootRegistryAndCommitmentsCanisterStateMut id fun stable =>
        HistoryHeap.applyVerifiedQualifyingCommitment stable id commitment timestampNanos) := by
  have core := refines.core
  refine wrote refines rfl rfl ?_ ?_
  · have pushed := commitment_items core.commitments id
      (RegistryState.commitmentSample commitment timestampNanos none)
      store.heap.config.maxCommitmentEntriesPerCanister
    rw [core.config, ← listsOf_insert] at pushed
    exact {
      commitments := by
        simp only [HistoryHeap.applyVerifiedQualifyingCommitment, HistoryStore.marked, core.config]
        exact pushed
      cycles := core.cycles
      rawIcpCommitments := core.rawIcpCommitments
      neuronCommitments := core.neuronCommitments
      named := core.named.mark ⟨rfl, rfl, rfl, rfl⟩
      clean := fun empty => absurd empty (Sections.union_root rfl)
      config := core.config
      root := core.root
      ascending := core.ascending }
  · exact ⟨.write id _, .refl _ _, .refl _ _, .refl _ _⟩

theorem rawIcp_wrote (refines : StoreRefines store plain)
    (target : commitment.target = .rawIcp id subaccount memo)
    (counts : commitment.countsTowardFaucet = true) (timestampNanos : Option Nat) :
    Wrote store
      { plain with
        rawIcpCommitmentHistory := plain.rawIcpCommitmentHistory.insert id
          (pushCommitment (listsOf plain.rawIcpCommitmentHistory id)
            (RegistryState.commitmentSample commitment timestampNanos subaccount)
            plain.config.maxCommitmentEntriesPerCanister).1 }
      (store.withRootAndRawIcpCommitmentsStateMut id fun stable =>
        HistoryHeap.applyRecentRawOrNeuronCommitment stable commitment timestampNanos) := by
  have core := refines.core
  have applied : ∀ stable heap,
      HistoryHeap.applyRecentRawOrNeuronCommitment stable commitment timestampNanos heap =
        let loaded := ensureLoaded stable.rawIcpCommitments heap.rawIcpCommitmentHistory id
        { heap with
          rawIcpCommitmentHistory := loaded.insert id
            (pushCommitment ((loaded.lookup id).getD [])
              (RegistryState.commitmentSample commitment timestampNanos subaccount)
              heap.config.maxCommitmentEntriesPerCanister).1 } := by
    intro stable heap
    simp only [HistoryHeap.applyRecentRawOrNeuronCommitment, target, counts, Bool.not_true,
      Bool.false_eq_true, if_false]
  refine wrote refines rfl rfl ?_ ?_
  · have pushed := commitment_items core.rawIcpCommitments id
      (RegistryState.commitmentSample commitment timestampNanos subaccount)
      store.heap.config.maxCommitmentEntriesPerCanister
    rw [core.config, ← listsOf_insert] at pushed
    rw [applied]
    exact {
      commitments := core.commitments
      cycles := core.cycles
      rawIcpCommitments := by
        simp only [HistoryStore.marked, core.config]
        exact pushed
      neuronCommitments := core.neuronCommitments
      named := core.named.mark ⟨rfl, rfl, rfl, rfl⟩
      clean := fun empty => absurd empty (Sections.union_root rfl)
      config := core.config
      root := core.root
      ascending := core.ascending }
  · rw [applied]
    exact ⟨.refl _ _, .refl _ _, .write id _, .refl _ _⟩

theorem neuron_wrote (refines : StoreRefines store plain) {id : Nat} {memo : Option Text}
    (target : commitment.target = .neuronStake id memo)
    (counts : commitment.countsTowardFaucet = true) (timestampNanos : Option Nat) :
    Wrote store
      { plain with
        neuronCommitmentHistory := plain.neuronCommitmentHistory.insert id
          (pushCommitment (listsOf plain.neuronCommitmentHistory id)
            (RegistryState.commitmentSample commitment timestampNanos none)
            plain.config.maxCommitmentEntriesPerCanister).1 }
      (store.withRootAndNeuronCommitmentsStateMut id fun stable =>
        HistoryHeap.applyRecentRawOrNeuronCommitment stable commitment timestampNanos) := by
  have core := refines.core
  have applied : ∀ stable heap,
      HistoryHeap.applyRecentRawOrNeuronCommitment stable commitment timestampNanos heap =
        let loaded := ensureLoaded stable.neuronCommitments heap.neuronCommitmentHistory id
        { heap with
          neuronCommitmentHistory := loaded.insert id
            (pushCommitment ((loaded.lookup id).getD [])
              (RegistryState.commitmentSample commitment timestampNanos none)
              heap.config.maxCommitmentEntriesPerCanister).1 } := by
    intro stable heap
    simp only [HistoryHeap.applyRecentRawOrNeuronCommitment, target, counts, Bool.not_true,
      Bool.false_eq_true, if_false]
  refine wrote refines rfl rfl ?_ ?_
  · have pushed := commitment_items core.neuronCommitments id
      (RegistryState.commitmentSample commitment timestampNanos none)
      store.heap.config.maxCommitmentEntriesPerCanister
    rw [core.config, ← listsOf_insert] at pushed
    rw [applied]
    exact {
      commitments := core.commitments
      cycles := core.cycles
      rawIcpCommitments := core.rawIcpCommitments
      neuronCommitments := by
        simp only [HistoryStore.marked, core.config]
        exact pushed
      named := core.named.mark ⟨rfl, rfl, rfl, rfl⟩
      clean := fun empty => absurd empty (Sections.union_root rfl)
      config := core.config
      root := core.root
      ascending := core.ascending }
  · rw [applied]
    exact ⟨.refl _ _, .refl _ _, .refl _ _, .write id _⟩

theorem cycles_wrote (refines : StoreRefines store plain) (id : Principal)
    (past : ∀ earlier ∈ listsOf plain.cyclesHistory id,
      earlier.timestampNanos ≤ sample.timestampNanos) :
    Wrote store
      { plain with
        cyclesHistory := plain.cyclesHistory.insert id
          (pushCyclesSample (listsOf plain.cyclesHistory id) sample maxEntries).1 }
      (store.withRootRegistryAndCyclesCanisterStateMut id fun stable heap =>
        heap.pushCycles stable id sample maxEntries) := by
  have core := refines.core
  have ascending : Ascending (pushCyclesSample (listsOf plain.cyclesHistory id) sample
      maxEntries).1 := pushCyclesSample_ascending (core.ascending id) past
  refine wrote refines rfl rfl ?_ ?_
  · exact {
      commitments := core.commitments
      cycles := by
        simp only [HistoryHeap.pushCycles, HistoryStore.marked, core.cycles.ensureLoaded_getD id,
          listsOf_insert]
        exact core.cycles.write ascending.distinct
      rawIcpCommitments := core.rawIcpCommitments
      neuronCommitments := core.neuronCommitments
      named := core.named.mark ⟨rfl, rfl, rfl, rfl⟩
      clean := fun empty => absurd empty (Sections.union_root rfl)
      config := core.config
      root := core.root
      ascending := by
        intro other
        rw [listsOf_insert]
        by_cases here : other = id
        · rw [here, Function.update_self]
          exact ascending
        · rw [Function.update_of_ne here]
          exact core.ascending other }
  · exact ⟨.refl _ _, .write id _, .refl _ _, .refl _ _⟩

end Pushes

/-! ## Steps and runs -/

/-- The same is stored, after the step, of whatever is not loaded then. -/
structure SparesUnloaded (before after : HistoryStore) : Prop where
  commitments : ∀ id, after.heap.commitmentHistory.lookup id = none →
    before.stable.commitments.SameAt after.stable.commitments id
  cycles : ∀ id, after.heap.cyclesHistory.lookup id = none →
    before.stable.cycles.SameAt after.stable.cycles id
  rawIcpCommitments : ∀ id, after.heap.rawIcpCommitmentHistory.lookup id = none →
    before.stable.rawIcpCommitments.SameAt after.stable.rawIcpCommitments id
  neuronCommitments : ∀ id, after.heap.neuronCommitmentHistory.lookup id = none →
    before.stable.neuronCommitments.SameAt after.stable.neuronCommitments id

theorem KeepsStore.spares (keeps : KeepsStore before after) :
    SparesUnloaded before after where
  commitments := fun id unloaded => (keeps.commitments id unloaded).2
  cycles := fun id unloaded => (keeps.cycles id unloaded).2
  rawIcpCommitments := fun id unloaded => (keeps.rawIcpCommitments id unloaded).2
  neuronCommitments := fun id unloaded => (keeps.neuronCommitments id unloaded).2

theorem SparesUnloaded.of_root {root : RegistryConfig}
    (stable : after.stable = { before.stable with root := root }) :
    SparesUnloaded before after := by
  rcases after with ⟨_, _, _, _, _⟩
  cases stable
  exact ⟨fun id _ => .refl _ id, fun id _ => .refl _ id, fun id _ => .refl _ id,
    fun id _ => .refl _ id⟩

structure StepSound (store : HistoryStore) (changed : HistoryHeap) (next : HistoryStore) : Prop where
  refines : StoreRefines next changed
  spares : SparesUnloaded store next

theorem Wrote.sound {store next : HistoryStore} {changed : HistoryHeap}
    (wrote : Wrote store changed next) : StepSound store changed next :=
  ⟨wrote.refines, wrote.keeps.spares⟩

section Steps

variable {store next : HistoryStore} {plain : HistoryHeap} {st : RegistryState}

theorem sns_wrote (refines : StoreRefines store plain) (canisterIds : List Principal) :
    Wrote store plain (store.registerSnsMembership canisterIds) := by
  induction canisterIds generalizing store with
  | nil => exact ⟨refines, .of_same rfl rfl⟩
  | cons canisterId rest ih =>
      have first := registry_wrote refines canisterId
      have later := ih first.refines
      exact ⟨later.refines, first.keeps.trans later.keeps⟩

theorem commitment_wrote (refines : StoreRefines store st.histories)
    (commitment : IndexedCommitment) (timestampNanos : Option Nat) (nowSecs : Nat) :
    Wrote store (st.applyIndexedCommitment commitment timestampNanos nowSecs).histories
      (store.applyIndexedCommitment commitment timestampNanos) := by
  cases counts : commitment.countsTowardFaucet with
  | false =>
      rw [st.histories_underThreshold counts]
      have unchanged : ∀ stable,
          HistoryHeap.applyRecentRawOrNeuronCommitment stable commitment timestampNanos =
            fun heap => heap := by
        intro stable
        funext heap
        simp only [HistoryHeap.applyRecentRawOrNeuronCommitment, counts, Bool.not_false, if_true]
      simp only [HistoryStore.applyIndexedCommitment, counts, unchanged, Bool.false_eq_true,
        if_false]
      split
      · exact root_wrote refines
      · exact root_wrote refines
      · exact root_wrote refines
  | true =>
      cases target : commitment.target with
      | cyclesTopUp id =>
          have applied := st.histories_applyVerified target timestampNanos nowSecs
          simp only [HistoryStore.applyIndexedCommitment, RegistryState.applyIndexedCommitment,
            target, counts, if_true]
          rw [applied]
          exact topUp_wrote refines id commitment timestampNanos
      | rawIcp id subaccount memo =>
          have applied := st.histories_applyRawIcp target counts timestampNanos
          simp only [HistoryStore.applyIndexedCommitment, RegistryState.applyIndexedCommitment,
            target, counts, if_true]
          rw [applied]
          exact rawIcp_wrote refines target counts timestampNanos
      | neuronStake id memo =>
          have applied := st.histories_applyNeuron target counts timestampNanos
          simp only [HistoryStore.applyIndexedCommitment, RegistryState.applyIndexedCommitment,
            target, counts, if_true]
          rw [applied]
          exact neuron_wrote refines target counts timestampNanos

theorem probe_wrote (refines : StoreRefines store st.histories) {timestampNanos : Nat}
    {canisterId : Principal}
    (past : ∀ sample ∈ st.cyclesHistorySnapshot canisterId, sample.timestampNanos ≤ timestampNanos)
    (nowSecs maxEntries : Nat) (outcome : RegistryState.CyclesProbeOutcome) :
    Wrote store
      (st.recordCyclesProbe timestampNanos nowSecs canisterId maxEntries outcome).histories
      (store.recordCyclesProbe true timestampNanos canisterId maxEntries outcome) := by
  cases outcome with
  | err message =>
      rw [st.histories_recordCyclesProbe_err]
      exact registry_wrote refines canisterId
  | ok cycles route =>
      rw [st.histories_recordCyclesProbe]
      exact cycles_wrote refines canisterId past

theorem StoreCore.depth (core : StoreCore store plain) (batchDepth : Nat) :
    StoreCore { store with batchDepth := batchDepth } plain :=
  ⟨core.commitments, core.cycles, core.rawIcpCommitments, core.neuronCommitments, core.named,
    core.clean, core.config, core.root, core.ascending⟩

theorem KeepsStore.depth (store : HistoryStore) (batchDepth : Nat) :
    KeepsStore store { store with batchDepth := batchDepth } := .of_same rfl rfl

theorem finish_sound (refines : StoreRefines store plain)
    (finished : store.finishPersistenceBatch = some next) : StepSound store plain next := by
  simp only [HistoryStore.finishPersistenceBatch] at finished
  split at finished
  · cases finished
  · cases finished
    have core := refines.core.depth (store.batchDepth - 1)
    split
    · exact ⟨⟨persist_core core, fun _ => persist_dirtySections⟩,
        ((KeepsStore.depth store _).trans (persist_keeps core)).spares⟩
    · rename_i unflushed
      refine ⟨⟨core, fun closed => ?_⟩, (KeepsStore.depth store _).spares⟩
      by_contra dirty
      exact unflushed ⟨closed, dirty⟩

theorem relay_sound (refines : StoreRefines store plain) {targets : List Principal}
    {relayId : Principal} (activated : store.activateRelay targets relayId = some next) :
    StepSound store plain next := by
  simp only [HistoryStore.activateRelay, HistoryStore.withFactoryTrackingStateMut] at activated
  split at activated
  · cases activated
  · cases activated
    have core := refines.core
    exact ⟨⟨⟨core.commitments, core.cycles, core.rawIcpCommitments, core.neuronCommitments,
      core.named, core.clean, core.config, core.config, core.ascending⟩, refines.flushed⟩,
      .of_root rfl⟩

theorem core_unloaded (core : StoreCore store plain) (clean : store.dirtySections = .none)
    (config : RegistryConfig) (batchDepth : Nat) :
    StoreCore
      { heap := .new config
        stable := { store.stable with root := config }
        batchDepth := batchDepth
        dirtySections := .none
        dirtyScopes := .none } { plain with config := config } := by
  have unmarked := core.clean clean
  have commitments := core.commitments
  have cycles := core.cycles
  have rawIcp := core.rawIcpCommitments
  have neurons := core.neuronCommitments
  rw [unmarked] at commitments cycles rawIcp neurons
  exact {
    commitments := commitments.unload
    cycles := cycles.unload
    rawIcpCommitments := rawIcp.unload
    neuronCommitments := neurons.unload
    named := Named.none
    clean := fun _ => rfl
    config := rfl
    root := rfl
    ascending := core.ascending }

theorem clear_sound (refines : StoreRefines store plain)
    (cleared : store.clearLoadedHistoryCachesAfterFlush = some next) :
    StepSound store plain next := by
  simp only [HistoryStore.clearLoadedHistoryCachesAfterFlush] at cleared
  split at cleared
  · cases cleared
  · rename_i depth
    split at cleared
    · cases cleared
    · rename_i dirty
      cases cleared
      have closed := Decidable.of_not_not depth
      have clean := Decidable.of_not_not dirty
      have core := core_unloaded refines.core clean plain.config 0
      have cleared : (store.withRootStateMut fun _ heap => .new heap.config) =
          { heap := .new plain.config
            stable := { store.stable with root := plain.config }
            batchDepth := 0
            dirtySections := .none
            dirtyScopes := .none } := by
        rcases store with ⟨heap, stable, batchDepth, sections, scopes⟩
        cases closed
        cases clean
        cases refines.core.clean rfl
        rw [← refines.core.config]
        rfl
      rw [cleared]
      exact ⟨⟨core, fun _ => rfl⟩, .of_root rfl⟩

theorem upgrade_sound (refines : StoreRefines store st.histories)
    {args : RegistryState.RegistryUpgradeArgs} {after : RegistryState}
    (closed : store.batchDepth = 0) (upgraded : st.upgraded args = some after)
    (restored : store.postUpgrade args = some next) : StepSound store after.histories next := by
  have root : store.stable.root = st.config := refines.core.root
  have same := st.histories_upgraded args
  simp only [HistoryStore.postUpgrade, root] at restored
  dsimp only at same
  split at restored
  · cases restored
  · rename_i admitted
    rw [if_neg admitted, upgraded, Option.map_some, Option.some.injEq] at same
    cases restored
    rw [same]
    have core := core_unloaded refines.core (refines.flushed closed)
      (clampConfig (RegistryState.upgradedConfig st.config args)) 0
    exact ⟨⟨core, fun _ => rfl⟩, .of_root rfl⟩

theorem register_sound {event : RegistryEvent} (refines : StoreRefines store st.histories)
    (registered : store.register event = some next) :
    StepSound store (st.apply event).histories next := by
  cases event with
  | commitment commitment timestampNanos nowSecs =>
      cases registered
      exact (commitment_wrote refines commitment timestampNanos nowSecs).sound
  | snsMembership canisterIds nowSecs =>
      cases registered
      have unchanged := st.histories_registerSnsMembership canisterIds nowSecs
      simp only [RegistryState.apply, unchanged]
      exact (sns_wrote refines canisterIds).sound
  | relay targets relayId nowSecs =>
      have unchanged := RegistryState.histories_foldl (fun before target =>
        before.histories_markActiveRelayTracked target relayId (some nowSecs)) targets st
      simp only [RegistryState.apply, unchanged]
      exact relay_sound refines registered

theorem maintain_sound {event : StoreEvent} (refines : StoreRefines store plain)
    (taken : store.maintain event = some next) : StepSound store plain next := by
  cases event with
  | root =>
      cases taken
      exact (root_wrote refines).sound
  | beginBatch =>
      cases taken
      refine ⟨⟨refines.core.depth _, fun closed => ?_⟩, (KeepsStore.depth store _).spares⟩
      have opened : satAdd u32Max store.batchDepth 1 = 0 := closed
      simp only [satAdd, u32Max] at opened
      omega
  | finishBatch => exact finish_sound refines taken
  | persistDirty =>
      cases taken
      exact ⟨⟨persist_core refines.core, fun _ => persist_dirtySections⟩,
        (persist_keeps refines.core).spares⟩
  | clearLoaded => exact clear_sound refines taken

end Steps

theorem installed_refines (config : RegistryConfig) :
    StoreRefines (HistoryStore.installed config) (RegistryState.installed config).histories := by
  rw [RegistryState.histories_installed]
  exact {
    core := {
      commitments := LazyLists.initial _
      cycles := LazyLists.initial _
      rawIcpCommitments := LazyLists.initial _
      neuronCommitments := LazyLists.initial _
      named := Named.none
      clean := fun _ => rfl
      config := rfl
      root := rfl
      ascending := fun _ => List.Pairwise.nil }
    flushed := fun _ => rfl }

/-- Exactly the histories are stored. -/
structure StoredExactly (stable : StableHistories) (st : RegistryState) : Prop where
  commitments : ∀ id, stable.commitments.Holds CommitmentSample.txId id
    (listsOf st.commitmentHistory id)
  cycles : ∀ id, stable.cycles.Holds CyclesSample.timestampNanos id (listsOf st.cyclesHistory id)
  rawIcpCommitments : ∀ id, stable.rawIcpCommitments.Holds CommitmentSample.txId id
    (listsOf st.rawIcpCommitmentHistory id)
  neuronCommitments : ∀ id, stable.neuronCommitments.Holds CommitmentSample.txId id
    (listsOf st.neuronCommitmentHistory id)

theorem StoreCore.stored {store : HistoryStore} {st : RegistryState}
    (core : StoreCore store st.histories) (clean : store.dirtySections = .none) :
    StoredExactly store.stable st := by
  have unmarked := core.clean clean
  have notDirty : ∀ {κ : Type} {keys : List κ}, keys = [] → ∀ key, key ∉ keys := by
    rintro κ keys rfl key
    exact List.not_mem_nil
  exact {
    commitments := fun id => core.commitments.clean id (notDirty (by rw [unmarked]; rfl) id)
    cycles := fun id => core.cycles.clean id (notDirty (by rw [unmarked]; rfl) id)
    rawIcpCommitments := fun id =>
      core.rawIcpCommitments.clean id (notDirty (by rw [unmarked]; rfl) id)
    neuronCommitments := fun id =>
      core.neuronCommitments.clean id (notDirty (by rw [unmarked]; rfl) id) }

end JupiterSuite.Historian.Registry
