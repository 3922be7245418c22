import JupiterSuite.Historian.CyclesProbes

/-! The cached summaries through the writes of the registry: a write makes the summaries of the
canisters it touches stale, and a refresh makes one of them right again. -/

namespace JupiterSuite.Historian.Registry

open Base Memo

/-- The cache and the index of the registry are what its stores give, but for some canisters. -/
structure SummarizesBut (stale : Set Principal) (st : RegistryState) (cache : SummaryCache)
    (index : List Principal) : Prop where
  cached : st.summariesCache = some cache
  listed : st.totalDescIndex = some index
  lookup : ∀ id, id ∉ stale → cache.lookup id = st.memoRegisteredCanisterSummaryFor id
  owned : ∀ id summary, cache.lookup id = some summary → summary.canisterId = id
  ranked : Ranked (rankIn cache) index
  members : ∀ id, id ∈ index ↔ (cache.lookup id).isSome = true

def UpToDateBut (stale : Set Principal) (st : RegistryState) : Prop :=
  ∃ cache index, SummarizesBut stale st cache index

theorem UpToDateBut.mono {stale more : Set Principal} {st : RegistryState}
    (held : UpToDateBut stale st) (subset : stale ⊆ more) : UpToDateBut more st := by
  rcases held with ⟨cache, index, held⟩
  exact ⟨cache, index, held.cached, held.listed,
    fun id kept => held.lookup id fun inside => kept (subset inside), held.owned, held.ranked,
    held.members⟩

/-! ## Refreshing -/

variable {id : Principal}
variable {summary : MemoRegisteredCanisterSummary} {other : Principal} {index : List Principal}

section Refresh

variable {stale : Set Principal} {st : RegistryState} {cache : SummaryCache}

theorem summaryFor_canisterId (found : st.memoRegisteredCanisterSummaryFor id = some summary) :
    summary.canisterId = id := by
  simp only [RegistryState.memoRegisteredCanisterSummaryFor] at found
  split at found
  · cases found
  · split at found
    · cases found
    · rcases Option.map_eq_some_iff.mp found with ⟨key, _, rfl⟩
      rfl

/-- The rank of a canister ends with the canister, so no two have one rank. -/
theorem rankIn_snd (owned : ∀ id summary, cache.lookup id = some summary → summary.canisterId = id)
    (id : Principal) : (ofLex (rankIn cache id)).2 = id := by
  simp only [rankIn]
  split
  · rename_i summary found
    exact owned id summary found
  · rfl

theorem rankIn_insert_other (cache : SummaryCache) (summary : MemoRegisteredCanisterSummary)
    (different : other ≠ id) :
    rankIn (cache.insert id summary) other = rankIn cache other := by
  simp only [rankIn, OrderedMap.insert, OrderedMap.lookup_update, if_neg different]

theorem rankIn_erase_other (cache : SummaryCache) (different : other ≠ id) :
    rankIn (cache.erase id) other = rankIn cache other := by
  simp only [rankIn, OrderedMap.lookup_erase, if_neg different]

theorem SummarizesBut.refresh_none (held : SummarizesBut stale st cache index)
    (gone : st.memoRegisteredCanisterSummaryFor id = none) :
    SummarizesBut (stale \ {id}) (st.refreshMemoRegisteredCanisterSummary id) (cache.erase id)
      (removeRegisteredCanisterFromTotalDescIndex index id) := by
  have written : st.refreshMemoRegisteredCanisterSummary id = { st with
      summariesCache := some (cache.erase id)
      totalDescIndex := some (removeRegisteredCanisterFromTotalDescIndex index id) } := by
    simp only [RegistryState.refreshMemoRegisteredCanisterSummary, gone, held.cached, held.listed,
      Option.getD_some]
  rw [written]
  constructor
  · rfl
  · rfl
  · intro other kept
    rw [OrderedMap.lookup_erase]
    split
    · rename_i same
      rw [same]
      exact gone.symm
    · rename_i different
      exact held.lookup other fun inside => kept ⟨inside, different⟩
  · intro other summary found
    rw [OrderedMap.lookup_erase] at found
    split at found
    · cases found
    · exact held.owned other summary found
  · refine (held.ranked.sublist List.filter_sublist).congr ?_
    intro other member
    have different := of_decide_eq_true (List.mem_filter.mp member).2
    exact (rankIn_erase_other cache different).symm
  · intro other
    rw [removeRegisteredCanisterFromTotalDescIndex, List.mem_filter, held.members,
      OrderedMap.lookup_erase, decide_eq_true_eq]
    by_cases same : other = id
    · simp [same]
    · simp [same]

theorem SummarizesBut.refresh_some (held : SummarizesBut stale st cache index)
    (found : st.memoRegisteredCanisterSummaryFor id = some summary) :
    SummarizesBut (stale \ {id}) (st.refreshMemoRegisteredCanisterSummary id)
      (cache.insert id summary)
      (insertRegisteredCanisterIntoTotalDescIndex (cache.insert id summary)
        (removeRegisteredCanisterFromTotalDescIndex index id) id) := by
  have mine := summaryFor_canisterId found
  have here : (cache.insert id summary).lookup id = some summary := by
    rw [OrderedMap.insert, OrderedMap.lookup_update, if_pos rfl]
  have elsewhere : ∀ other, other ≠ id →
      (cache.insert id summary).lookup other = cache.lookup other := by
    intro other different
    rw [OrderedMap.insert, OrderedMap.lookup_update, if_neg different]
  have owned : ∀ other kept, (cache.insert id summary).lookup other = some kept →
      kept.canisterId = other := by
    intro other kept located
    by_cases same : other = id
    · rw [same, here] at located
      cases located
      rw [same, mine]
    · rw [elsewhere other same] at located
      exact held.owned other kept located
  have rank : rankIn (cache.insert id summary) id = summary.totalDescKey := by
    simp only [rankIn, here]
  have written : st.refreshMemoRegisteredCanisterSummary id = { st with
      summariesCache := some (cache.insert id summary)
      totalDescIndex := some (insertRegisteredCanisterIntoTotalDescIndex
        (cache.insert id summary) (removeRegisteredCanisterFromTotalDescIndex index id) id) } := by
    simp only [RegistryState.refreshMemoRegisteredCanisterSummary, found, held.cached, held.listed,
      Option.getD_some]
  rw [written]
  simp only [insertRegisteredCanisterIntoTotalDescIndex, here]
  generalize same : (removeRegisteredCanisterFromTotalDescIndex index id).filter (fun existing =>
    decide (existing ≠ id) && ((cache.insert id summary).lookup existing).isSome) = kept
  have inKept : ∀ other, other ∈ kept ↔ other ≠ id ∧ (cache.lookup other).isSome = true := by
    intro other
    rw [← same, List.mem_filter, removeRegisteredCanisterFromTotalDescIndex, List.mem_filter,
      held.members, Bool.and_eq_true, decide_eq_true_eq]
    constructor
    · rintro ⟨⟨present, different⟩, _⟩
      exact ⟨different, present⟩
    · rintro ⟨different, present⟩
      exact ⟨⟨present, different⟩, different, by rw [elsewhere other different, present]⟩
  have ranked : Ranked (rankIn (cache.insert id summary)) kept := by
    have part : kept.Sublist index := by
      rw [← same]
      exact List.filter_sublist.trans List.filter_sublist
    refine (held.ranked.sublist part).congr ?_
    intro other member
    exact (rankIn_insert_other cache summary ((inKept other).mp member).1).symm
  constructor
  · rfl
  · rfl
  · intro other fresh
    by_cases here' : other = id
    · rw [here', here]
      exact found.symm
    · rw [elsewhere other here']
      exact held.lookup other fun inside => fresh ⟨inside, here'⟩
  · exact owned
  · rw [← rank]
    apply ranked.insert
    intro other member equal
    have ends := congrArg (fun key : TotalDescKey => (ofLex key).2) equal
    rw [rankIn_snd owned, rankIn_snd owned] at ends
    exact ((inKept other).mp member).1 ends
  · intro other
    rw [mem_insertAt, inKept]
    by_cases here' : other = id
    · simp [here', here]
    · simp [here', elsewhere other here']

theorem UpToDateBut.refresh (held : UpToDateBut stale st) (id : Principal) :
    UpToDateBut (stale \ {id}) (st.refreshMemoRegisteredCanisterSummary id) := by
  rcases held with ⟨cache, index, held⟩
  cases found : st.memoRegisteredCanisterSummaryFor id with
  | none => exact ⟨_, _, held.refresh_none found⟩
  | some summary => exact ⟨_, _, held.refresh_some found⟩

theorem summaryFor_refresh (st : RegistryState) (id other : Principal) :
    (st.refreshMemoRegisteredCanisterSummary id).memoRegisteredCanisterSummaryFor other =
      st.memoRegisteredCanisterSummaryFor other := by
  simp only [RegistryState.refreshMemoRegisteredCanisterSummary]
  split
  · rfl
  · rfl

theorem summaryFor_refreshes (ids : List Principal) (st : RegistryState) (other : Principal) :
    (ids.foldl RegistryState.refreshMemoRegisteredCanisterSummary
        st).memoRegisteredCanisterSummaryFor other =
      st.memoRegisteredCanisterSummaryFor other := by
  induction ids generalizing st with
  | nil => rfl
  | cons id rest ih => rw [List.foldl_cons, ih, summaryFor_refresh]

theorem UpToDateBut.refreshes (ids : List Principal) (held : UpToDateBut {id | id ∈ ids} st) :
    UpToDateBut ∅ (ids.foldl RegistryState.refreshMemoRegisteredCanisterSummary st) := by
  induction ids generalizing st with
  | nil => exact held.mono fun id impossible => by cases impossible
  | cons id rest ih =>
      refine ih ((held.refresh id).mono ?_)
      rintro other ⟨member, different⟩
      exact (List.mem_cons.mp member).resolve_left different

theorem upToDate_rebuild (st : RegistryState) :
    UpToDateBut ∅ st.rebuildMemoRegisteredCanisterSummariesCache := by
  apply UpToDateBut.refreshes
  refine ⟨.empty, [], rfl, rfl, ?_, nofun,
    List.Pairwise.nil, ?_⟩
  · intro id untracked
    have unknown : st.canisterTrackingReasons.lookup id = none := by
      rw [Set.mem_ofPred_eq, OrderedMap.mem_keys, Bool.not_eq_true,
        Option.isSome_eq_false_iff, Option.isNone_iff_eq_none] at untracked
      exact untracked
    simp only [RegistryState.memoRegisteredCanisterSummaryFor,
      RegistryState.visibleTrackingReasonsForCanister, unknown, OrderedMap.lookup_empty]
  · intro id
    rw [OrderedMap.lookup_empty]
    constructor
    · exact nofun
    · exact nofun

theorem summaryFor_rebuild (st : RegistryState) (id : Principal) :
    st.rebuildMemoRegisteredCanisterSummariesCache.memoRegisteredCanisterSummaryFor id =
      st.memoRegisteredCanisterSummaryFor id := by
  rw [RegistryState.rebuildMemoRegisteredCanisterSummariesCache, summaryFor_refreshes]
  rfl

/-- What is kept up to date is determined by the stores. -/
theorem upToDate_unique {first second : RegistryState} (left : UpToDateBut ∅ first)
    (right : UpToDateBut ∅ second)
    (same : ∀ id, first.memoRegisteredCanisterSummaryFor id =
      second.memoRegisteredCanisterSummaryFor id) :
    first.summariesCache = second.summariesCache ∧ first.totalDescIndex = second.totalDescIndex := by
  rcases left with ⟨cache, index, left⟩
  rcases right with ⟨other, ranking, right⟩
  have caches : cache = other := by
    apply OrderedMap.ext_lookup
    intro id
    rw [left.lookup id (Set.notMem_empty id), right.lookup id (Set.notMem_empty id), same]
  subst caches
  have indexes : index = ranking := left.ranked.unique right.ranked fun id =>
    (left.members id).trans (right.members id).symm
  subst indexes
  exact ⟨left.cached.trans right.cached.symm, left.listed.trans right.listed.symm⟩

end Refresh

/-! ## Writes -/

/-- A write leaves the cache alone and changes the summaries of some canisters at most. -/
structure Touches (touched : Set Principal) (before after : RegistryState) : Prop where
  cached : after.summariesCache = before.summariesCache
  listed : after.totalDescIndex = before.totalDescIndex
  summary : ∀ id, id ∉ touched → after.memoRegisteredCanisterSummaryFor id =
    before.memoRegisteredCanisterSummaryFor id

namespace Touches

variable {touched more : Set Principal} {before middle after : RegistryState}

theorem refl (touched : Set Principal) (st : RegistryState) : Touches touched st st :=
  ⟨rfl, rfl, fun _ _ => rfl⟩

theorem trans (first : Touches touched before middle) (second : Touches touched middle after) :
    Touches touched before after where
  cached := second.cached.trans first.cached
  listed := second.listed.trans first.listed
  summary := fun id kept => (second.summary id kept).trans (first.summary id kept)

theorem mono (touches : Touches touched before after) (subset : touched ⊆ more) :
    Touches more before after where
  cached := touches.cached
  listed := touches.listed
  summary := fun id kept => touches.summary id fun inside => kept (subset inside)

end Touches

theorem UpToDateBut.touch {stale touched : Set Principal} {before after : RegistryState}
    (held : UpToDateBut stale before) (touches : Touches touched before after) :
    UpToDateBut (stale ∪ touched) after := by
  rcases held with ⟨cache, index, held⟩
  refine ⟨cache, index, touches.cached.trans held.cached, touches.listed.trans held.listed, ?_,
    held.owned, held.ranked, held.members⟩
  intro id fresh
  rw [touches.summary id fun inside => fresh (.inr inside)]
  exact held.lookup id fun inside => fresh (.inl inside)

theorem UpToDateBut.untouched {before after : RegistryState} (held : UpToDateBut ∅ before)
    (touches : Touches ∅ before after) : UpToDateBut ∅ after := by
  refine (held.touch touches).mono ?_
  rintro id (impossible | impossible)
  · exact impossible
  · exact impossible

theorem UpToDateBut.refreshed {before after : RegistryState} (held : UpToDateBut ∅ before)
    (touches : Touches {id} before after) :
    UpToDateBut ∅ (after.refreshMemoRegisteredCanisterSummary id) := by
  refine ((held.touch touches).refresh id).mono ?_
  rintro other ⟨impossible | here, different⟩
  · exact impossible
  · exact (different here).elim

theorem summaryFor_congr {before after : RegistryState}
    (reasons : after.canisterTrackingReasons.lookup id = before.canisterTrackingReasons.lookup id)
    (history : after.commitmentHistory.lookup id = before.commitmentHistory.lookup id)
    (cycles : after.cyclesHistory.lookup id = before.cyclesHistory.lookup id)
    (known : after.perCanisterMeta.lookup id = before.perCanisterMeta.lookup id)
    (rollup : ∀ key, CommitmentRouteKey.fromIndexed (.cyclesTopUp id) = some key →
      after.commitmentRouteRollups.lookup key = before.commitmentRouteRollups.lookup key) :
    after.memoRegisteredCanisterSummaryFor id = before.memoRegisteredCanisterSummaryFor id := by
  have retained : after.commitmentHistorySnapshot id = before.commitmentHistorySnapshot id := by
    simp only [RegistryState.commitmentHistorySnapshot, history]
  have visible : after.visibleTrackingReasonsForCanister id =
      before.visibleTrackingReasonsForCanister id := by
    simp only [RegistryState.visibleTrackingReasonsForCanister,
      RegistryState.memoSourceIsRegistered, reasons, retained]
    rfl
  have counted : ∀ key, CommitmentRouteKey.fromIndexed (.cyclesTopUp id) = some key →
      after.getCommitmentRouteRollup key = before.getCommitmentRouteRollup key := by
    intro key valid
    simp only [RegistryState.getCommitmentRouteRollup, rollup key valid]
  simp only [RegistryState.memoRegisteredCanisterSummaryFor, RegistryState.cyclesHistorySnapshot,
    visible, retained, cycles, known]
  cases before.visibleTrackingReasonsForCanister id with
  | none => rfl
  | some trackingReasons =>
      dsimp only
      split
      · rfl
      · apply Option.map_congr
        intro key valid
        rw [counted key valid]

theorem Touches.of_stores {before after : RegistryState}
    (cached : after.summariesCache = before.summariesCache)
    (listed : after.totalDescIndex = before.totalDescIndex)
    (reasons : after.canisterTrackingReasons = before.canisterTrackingReasons)
    (history : after.commitmentHistory = before.commitmentHistory)
    (cycles : after.cyclesHistory = before.cyclesHistory)
    (known : after.perCanisterMeta = before.perCanisterMeta)
    (rollups : after.commitmentRouteRollups = before.commitmentRouteRollups) :
    Touches ∅ before after where
  cached := cached
  listed := listed
  summary := by
    intro id _
    apply summaryFor_congr
    · rw [reasons]
    · rw [history]
    · rw [cycles]
    · rw [known]
    · intro key _
      rw [rollups]

namespace RegistryState

variable (st : RegistryState) (canisterId : Principal)

theorem enqueueInitialCyclesProbe_touches :
    Touches ∅ st (st.enqueueInitialCyclesProbe canisterId) := by
  simp only [enqueueInitialCyclesProbe]
  split
  · exact .refl ∅ st
  · split
    · exact .refl ∅ st
    · exact .of_stores rfl rfl rfl rfl rfl rfl rfl

theorem track_touches (reason : CanisterTrackingReason) :
    Touches {canisterId} st (st.track canisterId reason) where
  cached := rfl
  listed := rfl
  summary := by
    intro id different
    refine summaryFor_congr ?_ rfl rfl rfl (fun _ _ => rfl)
    simp only [track, OrderedMap.lookup_update]
    exact if_neg different

theorem updateMeta_touches (change : CanisterMeta → CanisterMeta) :
    Touches {canisterId} st (st.updateMeta canisterId change) where
  cached := rfl
  listed := rfl
  summary := by
    intro id different
    refine summaryFor_congr rfl rfl rfl ?_ (fun _ _ => rfl)
    simp only [updateMeta, OrderedMap.lookup_update]
    exact if_neg different

theorem commitmentHistory_touches (history : List CommitmentSample) :
    Touches {canisterId} st
      { st with commitmentHistory := st.commitmentHistory.insert canisterId history } where
  cached := rfl
  listed := rfl
  summary := by
    intro id different
    refine summaryFor_congr rfl ?_ rfl rfl (fun _ _ => rfl)
    simp only [OrderedMap.insert, OrderedMap.lookup_update]
    exact if_neg different

theorem cyclesHistory_touches (history : List CyclesSample)
    (routes : OrderedMap Principal CyclesProbeRoute) :
    Touches {canisterId} st
      { st with
        cachedCyclesProbeRoutes := routes
        cyclesHistory := st.cyclesHistory.insert canisterId history } where
  cached := rfl
  listed := rfl
  summary := by
    intro id different
    refine summaryFor_congr rfl rfl ?_ rfl (fun _ _ => rfl)
    simp only [OrderedMap.insert, OrderedMap.lookup_update]
    exact if_neg different

/-- A rollup belongs to the summary of the canister whose top-ups it counts. -/
theorem incrementCommitmentRouteRollup_touches (key : Option CommitmentRouteKey) (amountE8s : Nat)
    {touched : Set Principal} (others : ∀ id, id ∉ touched → ∀ other,
      CommitmentRouteKey.fromIndexed (.cyclesTopUp id) = some other → key ≠ some other) :
    Touches touched st (st.incrementCommitmentRouteRollup key amountE8s) := by
  cases key with
  | none => exact .refl touched st
  | some key =>
      refine ⟨rfl, rfl, fun id fresh => summaryFor_congr rfl rfl rfl rfl ?_⟩
      intro other valid
      have different : other ≠ key := fun same => others id fresh other valid (congrArg some same).symm
      simp only [incrementCommitmentRouteRollup, KeyedMap.lookup_update]
      exact if_neg different

theorem cyclesTopUp_key {key : CommitmentRouteKey}
    (valid : CommitmentRouteKey.fromIndexed (.cyclesTopUp id) = some key) :
    key = .cyclesTopUp id := by
  simp only [CommitmentRouteKey.fromIndexed] at valid
  split at valid
  · cases valid
    rfl
  · cases valid

theorem rawIcp_key {canisterId : Principal} {subaccount : Option (List UInt8)} {memo : List UInt8} :
    CommitmentRouteKey.ofRawIcp canisterId subaccount memo ≠ some (.cyclesTopUp id) := by
  simp only [CommitmentRouteKey.ofRawIcp]
  split
  · exact nofun
  · split
    · exact nofun
    · split
      · exact nofun
      · exact nofun
      · split
        · exact nofun
        · exact nofun

theorem neuronStake_key {neuronId : Nat} {memo : Option (List UInt8)} :
    CommitmentRouteKey.fromIndexed (.neuronStake neuronId memo) ≠ some (.cyclesTopUp id) := by
  simp only [CommitmentRouteKey.fromIndexed]
  split
  · exact nofun
  · exact nofun

theorem countNewCommitment_touches {commitment : IndexedCommitment}
    (target : commitment.target = .cyclesTopUp canisterId) (timestampNanos : Option Nat)
    (nowSecs : Nat) : Touches {canisterId} st
      (st.countNewCommitment canisterId commitment timestampNanos nowSecs) := by
  have counted : Touches {canisterId} st (st.incrementCommitmentRouteRollup
      (CommitmentRouteKey.fromIndexed commitment.target) commitment.amountE8s) := by
    apply incrementCommitmentRouteRollup_touches
    intro id different other valid mine
    rw [target] at mine
    have same := (cyclesTopUp_key mine).symm.trans (cyclesTopUp_key valid)
    exact different (CommitmentRouteKey.cyclesTopUp.inj same).symm
  have seen : ∀ before : RegistryState, Touches {canisterId} before (before.updateMeta canisterId
      fun known => applyCommitmentSeen known timestampNanos nowSecs) := fun before =>
    before.updateMeta_touches canisterId _
  simp only [countNewCommitment]
  split
  · exact (counted.trans (seen _)).trans
      ((enqueueInitialCyclesProbe_touches _ _).mono (Set.empty_subset _))
  · exact counted.trans (seen _)

theorem recordCyclesProbe_upToDate (held : UpToDateBut ∅ st) (timestampNanos nowSecs : Nat)
    (maxEntries : Nat) (outcome : CyclesProbeOutcome) :
    UpToDateBut ∅ (st.recordCyclesProbe timestampNanos nowSecs canisterId maxEntries outcome) := by
  cases outcome with
  | ok cycles route =>
      simp only [recordCyclesProbe]
      apply held.refreshed
      exact (st.cyclesHistory_touches canisterId _ _).trans (updateMeta_touches _ canisterId _)
  | err message =>
      have erased : Touches ∅ st { st with
          cachedCyclesProbeRoutes := st.cachedCyclesProbeRoutes.erase canisterId } :=
        .of_stores rfl rfl rfl rfl rfl rfl rfl
      simp only [recordCyclesProbe]
      apply held.refreshed
      exact (erased.mono (Set.empty_subset _)).trans (updateMeta_touches _ canisterId _)

theorem applyVerified_upToDate (held : UpToDateBut ∅ st) (commitment : IndexedCommitment)
    (timestampNanos : Option Nat) (nowSecs : Nat) : UpToDateBut ∅
      (st.applyVerifiedQualifyingCommitment commitment timestampNanos nowSecs) := by
  simp only [applyVerifiedQualifyingCommitment]
  split
  · rename_i known target
    have pushed : ∀ history, Touches {known} st { st.track known .memoCommitment with
        commitmentHistory := st.commitmentHistory.insert known history } := fun history =>
      (st.track_touches known .memoCommitment).trans
        ((st.track known .memoCommitment).commitmentHistory_touches known history)
    apply held.refreshed
    split
    · exact (pushed _).trans (countNewCommitment_touches _ known target _ _)
    · exact pushed _
  · exact held

theorem applyRecent_upToDate (held : UpToDateBut ∅ st) (commitment : IndexedCommitment)
    (timestampNanos : Option Nat) :
    UpToDateBut ∅ (st.applyRecentRawOrNeuronCommitment commitment timestampNanos) := by
  have counted : ∀ (pushed : RegistryState) (inserted : Bool), Touches ∅ st pushed →
      (∀ id, CommitmentRouteKey.fromIndexed commitment.target ≠ some (.cyclesTopUp id)) →
      UpToDateBut ∅ (if inserted then pushed.incrementCommitmentRouteRollup
        (CommitmentRouteKey.fromIndexed commitment.target) commitment.amountE8s
      else pushed) := by
    intro pushed inserted touches foreign
    split
    · apply held.untouched
      apply touches.trans
      apply incrementCommitmentRouteRollup_touches
      intro id _ other valid
      rw [cyclesTopUp_key valid]
      exact foreign id
    · exact held.untouched touches
  simp only [applyRecentRawOrNeuronCommitment]
  split
  · exact held
  · split
    · exact held
    · rename_i target
      refine counted _ _ (.of_stores rfl rfl rfl rfl rfl rfl rfl) fun id => ?_
      rw [target]
      exact rawIcp_key
    · rename_i target
      refine counted _ _ (.of_stores rfl rfl rfl rfl rfl rfl rfl) fun id => ?_
      rw [target]
      exact neuronStake_key

theorem applyIndexedCommitment_upToDate (held : UpToDateBut ∅ st) (commitment : IndexedCommitment)
    (timestampNanos : Option Nat) (nowSecs : Nat) :
    UpToDateBut ∅ (st.applyIndexedCommitment commitment timestampNanos nowSecs) := by
  simp only [applyIndexedCommitment]
  split
  · split
    · exact st.applyVerified_upToDate held commitment timestampNanos nowSecs
    · exact held
  · exact st.applyRecent_upToDate held commitment timestampNanos

theorem registerSnsMember_upToDate (held : UpToDateBut ∅ st) (nowSecs : Nat) :
    UpToDateBut ∅ (st.registerSnsMember nowSecs canisterId) := by
  have seen : ∀ change, Touches {canisterId} st
      ((st.track canisterId .snsDiscovery).updateMeta canisterId change) := fun change =>
    (st.track_touches canisterId .snsDiscovery).trans (updateMeta_touches _ canisterId change)
  simp only [registerSnsMember]
  apply held.refreshed
  split
  · exact (seen _).trans ((enqueueInitialCyclesProbe_touches _ _).mono (Set.empty_subset _))
  · exact seen _

theorem trackRelay_touches (reason : CanisterTrackingReason) (nowSecs : Option Nat) :
    Touches {canisterId} st (st.trackRelay canisterId reason nowSecs) := by
  have seen : ∀ change, Touches {canisterId} st
      ((st.track canisterId reason).updateMeta canisterId change) := fun change =>
    (st.track_touches canisterId reason).trans (updateMeta_touches _ canisterId change)
  simp only [trackRelay]
  split
  · exact (seen _).trans ((enqueueInitialCyclesProbe_touches _ _).mono (Set.empty_subset _))
  · exact seen _

/-- Both canisters are written before the first is refreshed. -/
theorem markActiveRelayTracked_upToDate (held : UpToDateBut ∅ st) (target relayId : Principal)
    (nowSecs : Option Nat) :
    UpToDateBut ∅ (st.markActiveRelayTracked target relayId nowSecs) := by
  have first := held.touch (st.trackRelay_touches target .relayTarget nowSecs)
  have second := first.touch (trackRelay_touches _ relayId .relayInstance nowSecs)
  simp only [markActiveRelayTracked]
  refine ((second.refresh target).refresh relayId).mono ?_
  rintro id ⟨⟨(impossible | here) | there, other⟩, different⟩
  · exact impossible
  · exact (other here).elim
  · exact (different there).elim

theorem ensureCanonicalRelayTracking_upToDate (held : UpToDateBut ∅ st) :
    UpToDateBut ∅ st.ensureCanonicalRelayTracking := by
  simp only [ensureCanonicalRelayTracking]
  split
  · exact held
  · exact List.foldlRecOn _ _ held fun before kept target _ =>
      before.markActiveRelayTracked_upToDate kept target _ none

theorem repair_upToDate (held : UpToDateBut ∅ st) :
    UpToDateBut ∅ (repairMemoRegisteredCanisterSummariesIfInvalid st) := by
  simp only [repairMemoRegisteredCanisterSummariesIfInvalid]
  split
  · exact held
  · exact upToDate_rebuild st

theorem apply_upToDate (held : UpToDateBut ∅ st) (event : RegistryEvent) :
    UpToDateBut ∅ (st.apply event) := by
  cases event with
  | commitment commitment timestampNanos nowSecs =>
      exact st.applyIndexedCommitment_upToDate held commitment timestampNanos nowSecs
  | snsMembership canisterIds nowSecs =>
      exact List.foldlRecOn _ _ held fun before kept id _ =>
        before.registerSnsMember_upToDate id kept nowSecs
  | relay targets relayId nowSecs =>
      exact List.foldlRecOn _ _ held fun before kept target _ =>
        before.markActiveRelayTracked_upToDate kept target relayId (some nowSecs)

theorem upgraded_upToDate {args : RegistryUpgradeArgs} {after : RegistryState}
    (upgraded : st.upgraded args = some after) : UpToDateBut ∅ after := by
  simp only [RegistryState.upgraded] at upgraded
  split at upgraded
  · cases upgraded
  · cases upgraded
    exact ensureCanonicalRelayTracking_upToDate _ (upToDate_rebuild _)

end RegistryState

theorem installed_upToDate (config : RegistryConfig) :
    UpToDateBut ∅ (RegistryState.installed config) :=
  upToDate_rebuild _

end JupiterSuite.Historian.Registry
