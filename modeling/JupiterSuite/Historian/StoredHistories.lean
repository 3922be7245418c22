import JupiterSuite.Historian.HistoryStoreRuns
import JupiterSuite.Historian.SummaryRuns

/-! The historian with its store: every message writes the registry in memory and the lazily
stored histories alike. A probe that is recorded is not older than what is stored of its canister,
also after an upgrade, which forgets the probes of no canister that was ever registered. -/

namespace JupiterSuite.Historian.Registry

open Base Memo

structure StoredSystem where
  run : CyclesSystem
  store : HistoryStore

inductive HistoryEvent where
  | run (event : SummaryEvent)
  | store (event : StoreEvent)
  deriving DecidableEq, Repr

/-- What a message writes to the store, apart from writes of the root alone. -/
def HistoryStore.follow (store : HistoryStore) (before : CyclesSystem) :
    SummaryEvent → Option HistoryStore
  | .run (.register event) => store.register event
  | .run (.resume id (.probed outcome) _) =>
      some ((before.tasks id).elim store (store.probed before.state outcome))
  | .run _ => some store
  | .upgrade args _ => if store.batchDepth = 0 then store.postUpgrade args else none

def stepHistories (selfId : Principal) (sys : StoredSystem) : HistoryEvent → Option StoredSystem
  | .run event => (stepSummaries selfId sys.run event).bind fun run =>
      (sys.store.follow sys.run event).map fun store => ⟨run, store⟩
  | .store event => (sys.store.maintain event).map fun store => { sys with store := store }

def historyMachine (selfId : Principal) : Machine StoredSystem HistoryEvent where
  init := fun sys => ∃ config nowSecs nowNanos,
    sys = ⟨⟨CyclesState.new (RegistryState.installed config) nowSecs, Pool.empty, nowNanos⟩,
      HistoryStore.installed config⟩
  step := stepHistories selfId

/-! ## Registered memos -/

section Memos

variable {st before middle after : RegistryState} {canisterId : Principal}

def MemoSource (st : RegistryState) (canisterId : Principal) : Prop :=
  ∃ sources, st.canisterTrackingReasons.lookup canisterId = some sources ∧
    .memoCommitment ∈ sources

/-- Every canister that is tracked for a memo keeps a commitment that counts. -/
structure MemosRegistered (st : RegistryState) : Prop where
  room : 0 < st.config.maxCommitmentEntriesPerCanister
  counting : ∀ id, ∀ sample ∈ listsOf st.commitmentHistory id, sample.countsTowardFaucet = true
  kept : ∀ id, MemoSource st id → listsOf st.commitmentHistory id ≠ []

structure KeepsMemos (before after : RegistryState) : Prop where
  config : after.config = before.config
  history : after.commitmentHistory = before.commitmentHistory
  sources : ∀ id, MemoSource after id → MemoSource before id

theorem KeepsMemos.of_fields (config : after.config = before.config)
    (history : after.commitmentHistory = before.commitmentHistory)
    (reasons : after.canisterTrackingReasons = before.canisterTrackingReasons) :
    KeepsMemos before after :=
  ⟨config, history, fun id source => by rwa [MemoSource, reasons] at source⟩

theorem KeepsMemos.refl (st : RegistryState) : KeepsMemos st st := .of_fields rfl rfl rfl

theorem KeepsMemos.trans (first : KeepsMemos before middle) (second : KeepsMemos middle after) :
    KeepsMemos before after :=
  ⟨second.config.trans first.config, second.history.trans first.history,
    fun id source => first.sources id (second.sources id source)⟩

theorem KeepsMemos.foldl {ι : Type} {write : RegistryState → ι → RegistryState}
    (each : ∀ st item, KeepsMemos st (write st item)) (items : List ι) (st : RegistryState) :
    KeepsMemos st (items.foldl write st) := by
  induction items generalizing st with
  | nil => exact .refl st
  | cons item rest ih => exact (each st item).trans (ih (write st item))

theorem MemosRegistered.keep (registered : MemosRegistered before)
    (keeps : KeepsMemos before after) : MemosRegistered after where
  room := by
    rw [keeps.config]
    exact registered.room
  counting := by
    rw [keeps.history]
    exact registered.counting
  kept := by
    rw [keeps.history]
    exact fun id source => registered.kept id (keeps.sources id source)

namespace RegistryState

variable (st : RegistryState) (canisterId : Principal)

theorem track_keepsMemos (reason : CanisterTrackingReason) (other : reason ≠ .memoCommitment) :
    KeepsMemos st (st.track canisterId reason) where
  config := rfl
  history := rfl
  sources := by
    rintro id ⟨sources, found, memo⟩
    simp only [track, OrderedMap.lookup_update] at found
    split at found
    · rename_i same
      subst same
      cases found
      simp only [mergeTrackingReasons, insertReason, List.mem_filter, decide_eq_true_eq,
        other.symm, false_or] at memo
      cases known : st.canisterTrackingReasons.lookup id with
      | none =>
          rw [known] at memo
          exact absurd memo.2 List.not_mem_nil
      | some old =>
          rw [known] at memo
          exact ⟨old, known, memo.2⟩
    · exact ⟨sources, found, memo⟩

theorem updateMeta_keepsMemos (change : CanisterMeta → CanisterMeta) :
    KeepsMemos st (st.updateMeta canisterId change) := .of_fields rfl rfl rfl

theorem enqueueInitialCyclesProbe_keepsMemos :
    KeepsMemos st (st.enqueueInitialCyclesProbe canisterId) := by
  simp only [enqueueInitialCyclesProbe]
  split
  · exact .refl st
  · split
    · exact .refl st
    · exact .of_fields rfl rfl rfl

theorem refresh_keepsMemos : KeepsMemos st (st.refreshMemoRegisteredCanisterSummary canisterId) := by
  simp only [refreshMemoRegisteredCanisterSummary]
  split
  · exact .of_fields rfl rfl rfl
  · exact .of_fields rfl rfl rfl

theorem rebuild_keepsMemos : KeepsMemos st st.rebuildMemoRegisteredCanisterSummariesCache := by
  have emptied : KeepsMemos st { st with summariesCache := some .empty, totalDescIndex := some [] } :=
    .of_fields rfl rfl rfl
  exact emptied.trans (.foldl refresh_keepsMemos _ _)

theorem repair_keepsMemos : KeepsMemos st (repairMemoRegisteredCanisterSummariesIfInvalid st) := by
  simp only [repairMemoRegisteredCanisterSummariesIfInvalid]
  split
  · exact .refl st
  · exact st.rebuild_keepsMemos

theorem registerSnsMember_keepsMemos (nowSecs : Nat) :
    KeepsMemos st (st.registerSnsMember nowSecs canisterId) := by
  have tracked := (st.track_keepsMemos canisterId .snsDiscovery (by decide)).trans
    (updateMeta_keepsMemos _ canisterId fun known =>
      { known with firstSeenTs := known.firstSeenTs.or (some nowSecs) })
  simp only [registerSnsMember]
  refine KeepsMemos.trans ?_ (refresh_keepsMemos _ _)
  split
  · exact tracked.trans (enqueueInitialCyclesProbe_keepsMemos _ _)
  · exact tracked

theorem trackRelay_keepsMemos (reason : CanisterTrackingReason) (other : reason ≠ .memoCommitment)
    (nowSecs : Option Nat) : KeepsMemos st (st.trackRelay canisterId reason nowSecs) := by
  have tracked := (st.track_keepsMemos canisterId reason other).trans
    (updateMeta_keepsMemos _ canisterId fun known =>
      { known with firstSeenTs := known.firstSeenTs.or nowSecs })
  simp only [trackRelay]
  split
  · exact tracked.trans (enqueueInitialCyclesProbe_keepsMemos _ _)
  · exact tracked

theorem markActiveRelayTracked_keepsMemos (target relayId : Principal) (nowSecs : Option Nat) :
    KeepsMemos st (st.markActiveRelayTracked target relayId nowSecs) := by
  simp only [markActiveRelayTracked]
  have tracked := (st.trackRelay_keepsMemos target .relayTarget (by decide) nowSecs).trans
    (trackRelay_keepsMemos _ relayId .relayInstance (by decide) nowSecs)
  exact (tracked.trans (refresh_keepsMemos _ _)).trans (refresh_keepsMemos _ _)

theorem ensureCanonicalRelayTracking_keepsMemos :
    KeepsMemos st st.ensureCanonicalRelayTracking := by
  simp only [ensureCanonicalRelayTracking]
  split
  · exact .refl st
  · exact .foldl (fun before target => before.markActiveRelayTracked_keepsMemos target _ none) _ _

theorem normalizeLastCommitment_keepsMemos :
    KeepsMemos st (st.normalizeLastCommitment canisterId) := by
  simp only [normalizeLastCommitment]
  split
  · exact .refl st
  · exact .of_fields rfl rfl rfl

theorem recordCyclesProbe_keepsMemos (timestampNanos nowSecs maxEntries : Nat)
    (outcome : CyclesProbeOutcome) :
    KeepsMemos st (st.recordCyclesProbe timestampNanos nowSecs canisterId maxEntries outcome) := by
  cases outcome with
  | ok cycles route =>
      refine KeepsMemos.trans (KeepsMemos.trans ?_ (updateMeta_keepsMemos _ canisterId _))
        (refresh_keepsMemos _ _)
      exact .of_fields rfl rfl rfl
  | err message =>
      refine KeepsMemos.trans (KeepsMemos.trans ?_ (updateMeta_keepsMemos _ canisterId _))
        (refresh_keepsMemos _ _)
      exact .of_fields rfl rfl rfl

theorem countNewCommitment_keepsMemos (commitment : IndexedCommitment)
    (timestampNanos : Option Nat) (nowSecs : Nat) :
    KeepsMemos st (st.countNewCommitment canisterId commitment timestampNanos nowSecs) := by
  have counted : ∀ key amountE8s,
      KeepsMemos st (st.incrementCommitmentRouteRollup key amountE8s) := by
    intro key amountE8s
    cases key with
    | none => exact .refl st
    | some key => exact .of_fields rfl rfl rfl
  have seen := (counted (CommitmentRouteKey.fromIndexed commitment.target)
    commitment.amountE8s).trans (updateMeta_keepsMemos _ canisterId
      fun known => applyCommitmentSeen known timestampNanos nowSecs)
  simp only [countNewCommitment]
  split
  · exact seen.trans (enqueueInitialCyclesProbe_keepsMemos _ _)
  · exact seen

theorem applyRecent_keepsMemos (commitment : IndexedCommitment) (timestampNanos : Option Nat) :
    KeepsMemos st (st.applyRecentRawOrNeuronCommitment commitment timestampNanos) := by
  have counted : ∀ (pushed : RegistryState) (inserted : Bool), KeepsMemos st pushed →
      KeepsMemos st (if inserted then pushed.incrementCommitmentRouteRollup
        (CommitmentRouteKey.fromIndexed commitment.target) commitment.amountE8s
      else pushed) := by
    intro pushed inserted same
    split
    · cases CommitmentRouteKey.fromIndexed commitment.target with
      | none => exact same
      | some key => exact same.trans (.of_fields rfl rfl rfl)
    · exact same
  simp only [applyRecentRawOrNeuronCommitment]
  split
  · exact .refl st
  · split
    · exact .refl st
    · exact counted _ _ (.of_fields rfl rfl rfl)
    · exact counted _ _ (.of_fields rfl rfl rfl)

end RegistryState

theorem pushCommitment_registered {history : List CommitmentSample} {sample : CommitmentSample}
    {maxEntries : Nat} (room : 0 < maxEntries) (counts : sample.countsTowardFaucet = true)
    (counting : ∀ item ∈ history, item.countsTowardFaucet = true) :
    (∀ item ∈ (pushCommitment history sample maxEntries).1, item.countsTowardFaucet = true) ∧
      (pushCommitment history sample maxEntries).1 ≠ [] := by
  have sorted : ∀ item ∈ sortByTxId history, item.countsTowardFaucet = true := fun item member =>
    counting item ((List.perm_insertionSort _ history).subset member)
  simp only [pushCommitment]
  split
  · rename_i known
    refine ⟨sorted, fun empty => ?_⟩
    dsimp only at empty
    rw [empty] at known
    cases known
  · generalize sortByTxId history = items at sorted
    refine ⟨fun item member => ?_, fun empty => ?_⟩
    · rcases List.mem_append.mp ((pruneVec_suffix _ _).subset member) with older | newer
      · exact sorted item ((List.takeWhile_sublist _).subset older)
      · rcases List.mem_cons.mp newer with rfl | newer
        · exact counts
        · exact sorted item ((List.dropWhile_sublist _).subset newer)
    · have few := congrArg List.length empty
      rw [pruneVec, if_neg (Nat.ne_of_gt room), List.length_drop, List.length_append,
        List.length_cons, List.length_nil] at few
      omega

theorem MemosRegistered.applyVerified (registered : MemosRegistered st)
    (commitment : IndexedCommitment) (timestampNanos : Option Nat) (nowSecs : Nat) :
    MemosRegistered
      (st.applyVerifiedQualifyingCommitment commitment timestampNanos nowSecs) := by
  simp only [RegistryState.applyVerifiedQualifyingCommitment]
  split
  · rename_i canisterId _
    generalize sampleIs : RegistryState.commitmentSample commitment timestampNanos none = sample
    have pushed := pushCommitment_registered registered.room
      (show sample.countsTowardFaucet = true by rw [← sampleIs]; rfl)
      (registered.counting canisterId)
    have written : MemosRegistered { st.track canisterId .memoCommitment with
        commitmentHistory := st.commitmentHistory.insert canisterId
          (pushCommitment (listsOf st.commitmentHistory canisterId) sample
            st.config.maxCommitmentEntriesPerCanister).1 } := by
      refine ⟨registered.room, fun id => ?_, fun id source => ?_⟩
      · rw [listsOf_insert]
        by_cases same : id = canisterId
        · rw [same, Function.update_self]
          exact pushed.1
        · rw [Function.update_of_ne same]
          exact registered.counting id
      · rw [listsOf_insert]
        by_cases same : id = canisterId
        · rw [same, Function.update_self]
          exact pushed.2
        · rw [Function.update_of_ne same]
          apply registered.kept id
          rcases source with ⟨sources, found, memo⟩
          simp only [RegistryState.track, OrderedMap.lookup_update, if_neg same] at found
          exact ⟨sources, found, memo⟩
    apply MemosRegistered.keep _ (RegistryState.refresh_keepsMemos _ _)
    split
    · exact written.keep (RegistryState.countNewCommitment_keepsMemos _ _ _ _ _)
    · exact written
  · exact registered

theorem MemosRegistered.apply (registered : MemosRegistered st) (event : RegistryEvent) :
    MemosRegistered (st.apply event) := by
  cases event with
  | commitment commitment timestampNanos nowSecs =>
      simp only [RegistryState.apply, RegistryState.applyIndexedCommitment]
      split
      · split
        · exact registered.applyVerified commitment timestampNanos nowSecs
        · exact registered
      · exact registered.keep (st.applyRecent_keepsMemos commitment timestampNanos)
  | snsMembership canisterIds nowSecs =>
      exact registered.keep (.foldl (fun before id =>
        before.registerSnsMember_keepsMemos id nowSecs) _ _)
  | relay targets relayId nowSecs =>
      exact registered.keep (.foldl (fun before target =>
        before.markActiveRelayTracked_keepsMemos target relayId (some nowSecs)) _ _)

theorem clampEntries_positive (value hardCap : Nat) (some_cap : 0 < hardCap) :
    0 < clampEntries value hardCap := by
  simp only [clampEntries]
  omega

/-- Nothing is stale, so only the last commitments and the known set are normalized. -/
theorem MemosRegistered.normalize
    (counting : ∀ id, ∀ sample ∈ listsOf st.commitmentHistory id, sample.countsTowardFaucet = true)
    (kept : ∀ id, MemoSource st id → listsOf st.commitmentHistory id ≠ []) :
    SameProbes { st with config := clampConfig st.config } st.normalizeRuntimeState ∧
      MemosRegistered st.normalizeRuntimeState := by
  have fresh : st.canisterTrackingReasons.entries.filter (fun entry =>
      entry.2.contains .memoCommitment && !RegistryState.memoSourceIsRegistered
        { st with config := clampConfig st.config } entry.1 entry.2) = [] := by
    rw [List.filter_eq_nil_iff]
    rintro ⟨id, sources⟩ member stale
    simp only [RegistryState.memoSourceIsRegistered, Bool.and_eq_true, Bool.not_eq_true',
      List.contains_iff_mem, Bool.and_eq_false_iff] at stale
    have listed : listsOf st.commitmentHistory id ≠ [] :=
      kept id ⟨sources, st.canisterTrackingReasons.lookup_of_mem member, stale.1⟩
    rcases List.exists_mem_of_ne_nil _ listed with ⟨sample, inside⟩
    have counts := counting id sample inside
    have present : sample ∈ RegistryState.commitmentHistorySnapshot
        { st with config := clampConfig st.config } id :=
      (List.perm_insertionSort _ _).symm.subset inside
    rcases stale.2 with absent | uncounted
    · exact absurd stale.1 (by simpa using absent)
    · exact absurd counts (by simpa using List.any_eq_false.mp uncounted sample present)
  have clamped : MemosRegistered { st with config := clampConfig st.config } :=
    ⟨clampEntries_positive _ _ (by decide), counting, kept⟩
  simp only [RegistryState.normalizeRuntimeState, fresh, List.foldl_nil]
  generalize st.perCanisterMeta.keys = ids
  constructor
  · exact normalized_sameProbes _ ids
  · have kept := clamped.keep (.foldl RegistryState.normalizeLastCommitment_keepsMemos ids _)
    apply MemosRegistered.keep _ (RegistryState.rebuild_keepsMemos _)
    exact kept.keep (.of_fields rfl rfl rfl)

theorem memosRegistered_installed (config : RegistryConfig) :
    MemosRegistered (RegistryState.installed config) := by
  have tracked := (RegistryState.new config).ensureCanonicalRelayTracking_keepsMemos
  refine (MemosRegistered.normalize ?_ ?_).2
  · rw [tracked.history]
    rintro id sample member
    cases member
  · intro id source
    rcases tracked.sources id source with ⟨sources, found, _⟩
    cases found

theorem MemosRegistered.upgrade {args : RegistryState.RegistryUpgradeArgs}
    (registered : MemosRegistered st) (upgraded : st.upgraded args = some after) :
    SameProbes { st with config := after.config } after ∧ MemosRegistered after := by
  simp only [RegistryState.upgraded] at upgraded
  split at upgraded
  · cases upgraded
  · generalize restoredIs : ({ st with
      config := RegistryState.upgradedConfig st.config args
      distinctCanisters := .empty
      cachedCyclesProbeRoutes := .empty
      summariesCache := none
      totalDescIndex := none } : RegistryState) = restored at upgraded
    have repaired := restored.repair_keepsMemos
    have probes := restored.repair_sameProbes
    generalize repairMemoRegisteredCanisterSummariesIfInvalid restored = middle
      at upgraded repaired probes
    cases upgraded
    have normal : SameProbes { middle with config := clampConfig middle.config }
          middle.normalizeRuntimeState ∧ MemosRegistered middle.normalizeRuntimeState := by
      apply MemosRegistered.normalize
      · rw [repaired.history, ← restoredIs]
        exact registered.counting
      · intro id source
        rw [repaired.history, ← restoredIs]
        have kept := repaired.sources id source
        rw [← restoredIs] at kept
        exact registered.kept id kept
    have whole := normal.1.trans (RegistryState.ensureCanonicalRelayTracking_sameProbes _)
    refine ⟨?_, normal.2.keep (RegistryState.ensureCanonicalRelayTracking_keepsMemos _)⟩
    subst restoredIs
    exact ⟨rfl, fun id => (whole.history id).trans (probes.history id),
      fun id => (whole.last id).trans (probes.last id),
      fun id => (whole.result id).trans (probes.result id)⟩

end Memos

/-! ## Runs -/

section Runs

variable {selfId : Principal} {sys next : StoredSystem} {run : CyclesSystem}

structure StoredInvariant (sys : StoredSystem) : Prop where
  cycles : CyclesInvariant False sys.run
  registered : MemosRegistered sys.run.state.registry
  refines : StoreRefines sys.store sys.run.state.registry.histories

/-- The probe of a task that still holds its lease is not older than any sample. -/
theorem probed_sound {outcome : RegistryState.CyclesProbeOutcome} {kont : CyclesKont}
    {id : Nat} {store : HistoryStore} (invariant : CyclesInvariant False run)
    (refines : StoreRefines store run.state.registry.histories)
    (found : run.tasks id = some kont) :
    StepSound store (run.state.recordedBy kont (.probed outcome)).histories
      (store.probed run.state outcome kont) := by
  have unwritten : ∀ fence timestampNanos canisterId maxEntries, fence = false →
      store.recordCyclesProbe fence timestampNanos canisterId maxEntries outcome = store := by
    rintro fence timestampNanos canisterId maxEntries rfl
    rfl
  have same : StepSound store run.state.registry.histories store :=
    ⟨refines, (KeepsStore.of_same rfl rfl).spares⟩
  cases kont with
  | initialProbe probes canisterId rest =>
      simp only [HistoryStore.probed, CyclesState.recordedBy]
      cases current : run.state.isCurrent probes.tick.lease with
      | false => exact same
      | true =>
          have owner : run.state.mainLockStateTs = some probes.tick.lease :=
            of_decide_eq_true current
          have ready := invariant.ready id _ found owner
          exact (probe_wrote refines (ready.past.recorded canisterId).samples _ _ outcome).sound
  | sweepProbe slice targetIndex canisterId =>
      simp only [HistoryStore.probed, CyclesState.recordedBy]
      cases current : run.state.sweepFence slice targetIndex canisterId with
      | false => exact same
      | true =>
          simp only [CyclesState.sweepFence, Bool.and_eq_true] at current
          have owner : run.state.mainLockStateTs = some slice.tick.lease :=
            of_decide_eq_true current.1.1
          have ready := invariant.ready id _ found owner
          have earlier := samples_before_sweep invariant.sound.histories ready.promised.2.2
          exact (probe_wrote refines (fun sample member => (earlier sample member).le) _ _
            outcome).sound
  | before tick => exact same
  | snsDiscovery tick cyclesDue => exact same
  | stakeRefresh tick cyclesDue => exact same

theorem recordedBy_keepsMemos (st : CyclesState) (kont : CyclesKont) (reply : CyclesReply) :
    KeepsMemos st.registry (st.recordedBy kont reply) := by
  unfold CyclesState.recordedBy
  split
  · split
    · exact RegistryState.recordCyclesProbe_keepsMemos _ _ _ _ _ _
    · exact .refl _
  · split
    · exact RegistryState.recordCyclesProbe_keepsMemos _ _ _ _ _ _
    · exact .refl _
  · exact .refl _

/-- What a message of the main tick makes of the registry and of the store. -/
theorem run_sound {event : CyclesEvent} {next : HistoryStore} {after : CyclesSystem}
    {store : HistoryStore} (invariant : StoredInvariant ⟨run, store⟩)
    (taken : stepCycles selfId run event = some after)
    (followed : store.follow run (.run event) = some next) :
    MemosRegistered after.state.registry ∧
      StepSound store after.state.registry.histories next := by
  have refines := invariant.refines
  have registered := invariant.registered
  have same : StepSound store run.state.registry.histories store :=
    ⟨refines, (KeepsStore.of_same rfl rfl).spares⟩
  cases stepCycles_cases taken with
  | tick force forward bounded =>
      cases followed
      rw [settleCycles_registry]
      rcases mainTick_registry run.state force _ with kept | repaired
      · rw [kept]
        exact ⟨registered, same⟩
      · rw [repaired, RegistryState.histories_repair]
        exact ⟨registered.keep (RegistryState.repair_keepsMemos _), same⟩
  | @resume id now kont reply found =>
      rw [settleCycles_registry]
      rcases resumeCycles_registry run.state kont reply with ⟨queue, whole⟩
      have kept := registered.keep (recordedBy_keepsMemos run.state kont reply)
      rw [whole]
      refine ⟨kept.keep (.of_fields rfl rfl rfl), ?_⟩
      cases reply with
      | other =>
          cases followed
          cases kont <;> exact same
      | probed outcome =>
          simp only [HistoryStore.follow, found, Option.elim_some, Option.some.injEq] at followed
          rw [← followed]
          exact probed_sound invariant.cycles refines found
  | abandon cleanup =>
      cases followed
      dsimp only
      cases cleanup with
      | false => exact ⟨registered, same⟩
      | true => exact ⟨registered, same⟩
  | register event => exact ⟨registered.apply event, register_sound refines followed⟩

theorem CyclesInvariant.upgrade {after : RegistryState} {nowNanos : Nat}
    (invariant : CyclesInvariant False run) (forward : run.clock ≤ nowNanos)
    (same : SameProbes { run.state.registry with config := after.config } after) :
    CyclesInvariant False
      ⟨{ run.state with registry := after, mainLockStateTs := some 0 }, Pool.empty, nowNanos⟩ := by
  have histories : HistoriesSound False
      { run.state.registry with config := after.config } := by
    have sound := invariant.sound.histories
    exact ⟨sound.ascending, fun impossible => impossible.elim, sound.seen, sound.result⟩
  have kept : ∀ secs id, ProbedSince run.state.registry secs id → ProbedSince after secs id := by
    rintro secs id ⟨last, known, upper⟩
    exact ⟨last, (same.last id).trans known, upper⟩
  have past := invariant.past.mono forward
  refine ⟨.empty _ _, ⟨histories.same same, ?_⟩, ⟨fun id => ?_, past.started⟩,
    Pool.holds_empty _, Pool.holds_empty _⟩
  · have swept := invariant.sound.sweep.keep kept
    exact ⟨swept.probed, swept.finished, swept.serials, swept.current, swept.once⟩
  · have recorded := past.recorded id
    have before : RecordedBy { run.state.registry with config := after.config } nowNanos id :=
      ⟨recorded.samples, recorded.last⟩
    exact before.same same

theorem stored_step {event : HistoryEvent} (invariant : StoredInvariant sys)
    (taken : stepHistories selfId sys event = some next) :
    StoredInvariant next ∧ SparesUnloaded sys.store next.store := by
  rcases sys with ⟨run, store⟩
  cases event with
  | store event =>
      rcases Option.map_eq_some_iff.mp taken with ⟨after, kept, rfl⟩
      have sound := maintain_sound invariant.refines kept
      exact ⟨⟨invariant.cycles, invariant.registered, sound.refines⟩, sound.spares⟩
  | run event =>
      rcases Option.bind_eq_some_iff.mp taken with ⟨after, stepped, followed⟩
      rcases Option.map_eq_some_iff.mp followed with ⟨written, follows, rfl⟩
      simp only [stepSummaries, Option.filter_eq_some_iff] at stepped
      have stepped := stepped.1
      cases event with
      | run event =>
          rcases run_sound invariant stepped follows with ⟨registered, sound⟩
          exact ⟨⟨invariant_step_cycles invariant.cycles stepped, registered, sound.refines⟩,
            sound.spares⟩
      | upgrade args nowNanos =>
          dsimp only at stepped
          split at stepped
          · rename_i admitted
            simp only [cyclesClockAdmits, Bool.and_eq_true, decide_eq_true_eq] at admitted
            rcases Option.map_eq_some_iff.mp stepped with ⟨registry, upgraded, rfl⟩
            simp only [HistoryStore.follow] at follows
            split at follows
            · rename_i closed
              rcases invariant.registered.upgrade upgraded with ⟨same, registered⟩
              have sound := upgrade_sound invariant.refines closed upgraded follows
              exact ⟨⟨invariant.cycles.upgrade admitted.1 same, registered, sound.refines⟩,
                sound.spares⟩
            · cases follows
          · cases stepped

theorem reachable_storedInvariant (reachable : (historyMachine selfId).Reachable sys) :
    StoredInvariant sys := by
  refine (historyMachine selfId).reachable_invariant StoredInvariant ?_ ?_ reachable
  · rintro start ⟨config, nowSecs, nowNanos, rfl⟩
    exact ⟨invariant_installed_cycles config nowSecs nowNanos, memosRegistered_installed config,
      installed_refines config⟩
  · exact fun _ _ _ invariant taken => (stored_step invariant taken).1

end Runs

/-- The lazily stored histories against the registry that has them all in memory. -/
structure HistoryStoreSound (selfId : Principal) (sys : StoredSystem) : Prop where
  commitments : ∀ id, sys.store.commitmentHistorySnapshot id =
    sys.run.state.registry.commitmentHistorySnapshot id
  cycles : ∀ id, sys.store.cyclesHistorySnapshot id =
    sys.run.state.registry.cyclesHistorySnapshot id
  rawIcpCommitments : ∀ id, sys.store.rawIcpCommitmentHistorySnapshot id =
    sys.run.state.registry.rawIcpCommitmentHistorySnapshot id
  neuronCommitments : ∀ id, sys.store.neuronCommitmentHistorySnapshot id =
    sys.run.state.registry.neuronCommitmentHistorySnapshot id
  flushed : sys.store.batchDepth = 0 → sys.store.dirtySections = .none
  stored : sys.store.dirtySections = .none →
    StoredExactly sys.store.stable sys.run.state.registry
  spares : ∀ event next, stepHistories selfId sys event = some next →
    SparesUnloaded sys.store next.store

theorem lazy_histories_sound {selfId : Principal} {sys : StoredSystem}
    (reachable : (historyMachine selfId).Reachable sys) : HistoryStoreSound selfId sys := by
  have invariant := reachable_storedInvariant reachable
  have core := invariant.refines.core
  constructor
  · intro id
    exact congrArg sortByTxId (core.commitments.readList_eq id)
  · exact core.cycles.readList_eq
  · intro id
    exact congrArg sortByTxId (core.rawIcpCommitments.readList_eq id)
  · intro id
    exact congrArg sortByTxId (core.neuronCommitments.readList_eq id)
  · exact invariant.refines.flushed
  · exact core.stored
  · intro event next taken
    exact (stored_step invariant taken).2

section Sample

def historySampleConfig : RegistryConfig :=
  { sampleRegistryConfig with maxCommitmentEntriesPerCanister := 2 }

def historySampleStart : StoredSystem where
  run := ⟨.new (RegistryState.installed historySampleConfig) 1700000000, Pool.empty,
    1700000000000000000⟩
  store := .installed historySampleConfig

def historySampleTopUp (txId : Nat) : HistoryEvent :=
  .run (.run (.register (.commitment ⟨txId, .cyclesTopUp sampleMember, 100000000, true⟩
    (some 1700000000000000000) 1700000000)))

/-- Two commitments of a nested batch evict one that was stored before it; a tick probes their
canister, the caches are cleared, an upgrade lowers the limit and the next commitment loads what is
stored. -/
def historySampleEvents : List HistoryEvent :=
  [historySampleTopUp 4, historySampleTopUp 7,
    .store .beginBatch, .store .beginBatch, historySampleTopUp 9, .store .finishBatch,
    historySampleTopUp 8, .store .finishBatch, .store .persistDirty,
    .run (.run (.tick 1 true 1700000001000000000)),
    .run (.run (.resume 1 .other 1700000002000000000)),
    .run (.run (.resume 1 .other 1700000003000000000)),
    .run (.run (.resume 1 (.probed (.ok 5000000000000 none)) 1700000004000000000)),
    .store .clearLoaded,
    .run (.run (.register (.snsMembership [sampleMember] 1700000005))),
    .run (.run (.register
      (.commitment ⟨11, .neuronStake 6 none, 100000000, true⟩ none 1700000005))),
    .run (.upgrade ⟨none, some 1, none, none, none, none, none⟩ 1700000006000000000),
    historySampleTopUp 12,
    .run (.run (.register (.relay [sampleMember] sampleHistorian 1700000007))), .store .root]

def historySampleEnd : StoredSystem :=
  ((historyMachine sampleHistorian).run historySampleStart historySampleEvents).getD
    historySampleStart

theorem historySample_reachable : (historyMachine sampleHistorian).Reachable historySampleEnd :=
  (historyMachine sampleHistorian).reachable_getD ⟨_, _, _, rfl⟩ (by decide +kernel)

theorem lazy_histories_sound_upgraded :
    (historySampleEnd.store.stable.commitments.index.lookup sampleMember = some [12] ∧
      historySampleEnd.store.stable.commitments.entries.keys = [toLex (sampleMember, 12)] ∧
      historySampleEnd.store.heap.neuronCommitmentHistory.lookup 6 = none ∧
      (historySampleEnd.store.neuronCommitmentHistorySnapshot 6).map CommitmentSample.txId = [11] ∧
      (historySampleEnd.store.cyclesHistorySnapshot sampleMember).map
        CyclesSample.timestampNanos = [1700000001000000000]) ∧
      HistoryStoreSound sampleHistorian historySampleEnd := by
  refine ⟨⟨?_, ?_, ?_, ?_, ?_⟩, lazy_histories_sound historySample_reachable⟩
  · decide +kernel
  · decide +kernel
  · decide +kernel
  · decide +kernel
  · decide +kernel

end Sample

end JupiterSuite.Historian.Registry
