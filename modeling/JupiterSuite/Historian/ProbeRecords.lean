import JupiterSuite.Historian.CyclesProbes

/-! What the writes of the registry leave of the cycles histories and of the probes' results. -/

namespace JupiterSuite.Historian.Registry

open Base Memo

/-- The cycles histories and what the metadata tells of probes are as they were. -/
structure SameProbes (before after : RegistryState) : Prop where
  config : after.config = before.config
  history : ∀ id, after.cyclesHistorySnapshot id = before.cyclesHistorySnapshot id
  last : ∀ id, after.lastCyclesProbeTs id = before.lastCyclesProbeTs id
  result : ∀ id, (after.metaOf id).lastCyclesProbeResult = (before.metaOf id).lastCyclesProbeResult

namespace SameProbes

variable {before middle after : RegistryState}

theorem of_fields (config : after.config = before.config)
    (history : after.cyclesHistory = before.cyclesHistory)
    (known : after.perCanisterMeta = before.perCanisterMeta) : SameProbes before after where
  config := config
  history := by simp [RegistryState.cyclesHistorySnapshot, history]
  last := by simp [RegistryState.lastCyclesProbeTs, RegistryState.metaOf, known]
  result := by simp [RegistryState.metaOf, known]

theorem refl (st : RegistryState) : SameProbes st st := of_fields rfl rfl rfl

theorem trans (first : SameProbes before middle) (second : SameProbes middle after) :
    SameProbes before after where
  config := second.config.trans first.config
  history := fun id => (second.history id).trans (first.history id)
  last := fun id => (second.last id).trans (first.last id)
  result := fun id => (second.result id).trans (first.result id)

theorem foldl {ι : Type} {write : RegistryState → ι → RegistryState}
    (each : ∀ st item, SameProbes st (write st item)) (items : List ι) (st : RegistryState) :
    SameProbes st (items.foldl write st) := by
  induction items generalizing st with
  | nil => exact refl st
  | cons item rest ih => exact (each st item).trans (ih (write st item))

end SameProbes

namespace RegistryState

variable (st : RegistryState) (canisterId : Principal)

theorem metaOf_updateMeta (change : CanisterMeta → CanisterMeta) (other : Principal) :
    (st.updateMeta canisterId change).metaOf other =
      if other = canisterId then change (st.metaOf canisterId) else st.metaOf other := by
  simp only [metaOf, updateMeta, OrderedMap.lookup_update]
  split
  · rfl
  · rfl

theorem updateMeta_sameProbes {change : CanisterMeta → CanisterMeta}
    (last : ∀ known, (change known).lastCyclesProbeTs = known.lastCyclesProbeTs)
    (result : ∀ known, (change known).lastCyclesProbeResult = known.lastCyclesProbeResult) :
    SameProbes st (st.updateMeta canisterId change) where
  config := rfl
  history := fun _ => rfl
  last := by
    intro other
    simp only [lastCyclesProbeTs, metaOf_updateMeta]
    split
    · rename_i same
      rw [last, same]
    · rfl
  result := by
    intro other
    rw [metaOf_updateMeta]
    split
    · rename_i same
      rw [result, same]
    · rfl

theorem enqueueInitialCyclesProbe_sameProbes :
    SameProbes st (st.enqueueInitialCyclesProbe canisterId) := by
  simp only [enqueueInitialCyclesProbe]
  split
  · exact .refl st
  · split
    · exact .refl st
    · exact .of_fields rfl rfl rfl

theorem track_sameProbes (reason : CanisterTrackingReason) :
    SameProbes st (st.track canisterId reason) :=
  .of_fields rfl rfl rfl

theorem incrementCommitmentRouteRollup_sameProbes (key : Option CommitmentRouteKey)
    (amountE8s : Nat) : SameProbes st (st.incrementCommitmentRouteRollup key amountE8s) := by
  cases key with
  | none => exact .refl st
  | some key => exact .of_fields rfl rfl rfl

theorem refresh_sameProbes :
    SameProbes st (st.refreshMemoRegisteredCanisterSummary canisterId) := by
  simp only [refreshMemoRegisteredCanisterSummary]
  split
  · exact .of_fields rfl rfl rfl
  · exact .of_fields rfl rfl rfl

theorem rebuild_sameProbes : SameProbes st st.rebuildMemoRegisteredCanisterSummariesCache := by
  have emptied : SameProbes st { st with summariesCache := some .empty, totalDescIndex := some [] } :=
    .of_fields rfl rfl rfl
  exact emptied.trans (.foldl refresh_sameProbes _ _)

theorem repair_sameProbes :
    SameProbes st (repairMemoRegisteredCanisterSummariesIfInvalid st) := by
  simp only [repairMemoRegisteredCanisterSummariesIfInvalid]
  split
  · exact .refl st
  · exact st.rebuild_sameProbes

theorem countNewCommitment_sameProbes (commitment : IndexedCommitment)
    (timestampNanos : Option Nat) (nowSecs : Nat) :
    SameProbes st (st.countNewCommitment canisterId commitment timestampNanos nowSecs) := by
  have counted := st.incrementCommitmentRouteRollup_sameProbes
    (CommitmentRouteKey.fromIndexed commitment.target) commitment.amountE8s
  have seen : ∀ before : RegistryState, SameProbes before (before.updateMeta canisterId
      fun known => applyCommitmentSeen known timestampNanos nowSecs) := fun before =>
    before.updateMeta_sameProbes canisterId (fun _ => rfl) (fun _ => rfl)
  simp only [countNewCommitment]
  split
  · exact (counted.trans (seen _)).trans (enqueueInitialCyclesProbe_sameProbes _ _)
  · exact counted.trans (seen _)

theorem applyVerified_sameProbes (commitment : IndexedCommitment)
    (timestampNanos : Option Nat) (nowSecs : Nat) :
    SameProbes st (st.applyVerifiedQualifyingCommitment commitment timestampNanos nowSecs) := by
  simp only [applyVerifiedQualifyingCommitment]
  split
  · rename_i known _
    have pushed : ∀ history, SameProbes st { st.track known .memoCommitment with
        commitmentHistory := history } := fun _ => .of_fields rfl rfl rfl
    refine SameProbes.trans ?_ (refresh_sameProbes _ _)
    split
    · exact (pushed _).trans (countNewCommitment_sameProbes _ _ _ _ _)
    · exact pushed _
  · exact .refl st

theorem applyRecent_sameProbes (commitment : IndexedCommitment) (timestampNanos : Option Nat) :
    SameProbes st (st.applyRecentRawOrNeuronCommitment commitment timestampNanos) := by
  have counted : ∀ (pushed : RegistryState) (inserted : Bool), SameProbes st pushed →
      SameProbes st (if inserted then pushed.incrementCommitmentRouteRollup
        (CommitmentRouteKey.fromIndexed commitment.target) commitment.amountE8s
      else pushed) := by
    intro pushed inserted same
    split
    · exact same.trans (pushed.incrementCommitmentRouteRollup_sameProbes _ _)
    · exact same
  simp only [applyRecentRawOrNeuronCommitment]
  split
  · exact .refl st
  · split
    · exact .refl st
    · exact counted _ _ (.of_fields rfl rfl rfl)
    · exact counted _ _ (.of_fields rfl rfl rfl)

theorem applyIndexedCommitment_sameProbes (commitment : IndexedCommitment)
    (timestampNanos : Option Nat) (nowSecs : Nat) :
    SameProbes st (st.applyIndexedCommitment commitment timestampNanos nowSecs) := by
  simp only [applyIndexedCommitment]
  split
  · split
    · exact st.applyVerified_sameProbes commitment timestampNanos nowSecs
    · exact .refl st
  · exact st.applyRecent_sameProbes commitment timestampNanos

theorem registerSnsMember_sameProbes (nowSecs : Nat) :
    SameProbes st (st.registerSnsMember nowSecs canisterId) := by
  have seen : SameProbes st ((st.track canisterId .snsDiscovery).updateMeta canisterId fun known =>
      { known with firstSeenTs := known.firstSeenTs.or (some nowSecs) }) :=
    (st.track_sameProbes canisterId .snsDiscovery).trans
      (updateMeta_sameProbes _ canisterId (fun _ => rfl) (fun _ => rfl))
  simp only [registerSnsMember]
  refine SameProbes.trans ?_ (refresh_sameProbes _ _)
  split
  · exact seen.trans (enqueueInitialCyclesProbe_sameProbes _ _)
  · exact seen

theorem trackRelay_sameProbes (reason : CanisterTrackingReason) (nowSecs : Option Nat) :
    SameProbes st (st.trackRelay canisterId reason nowSecs) := by
  have seen : SameProbes st ((st.track canisterId reason).updateMeta canisterId fun known =>
      { known with firstSeenTs := known.firstSeenTs.or nowSecs }) :=
    (st.track_sameProbes canisterId reason).trans
      (updateMeta_sameProbes _ canisterId (fun _ => rfl) (fun _ => rfl))
  simp only [trackRelay]
  split
  · exact seen.trans (enqueueInitialCyclesProbe_sameProbes _ _)
  · exact seen

theorem markActiveRelayTracked_sameProbes (target relayId : Principal) (nowSecs : Option Nat) :
    SameProbes st (st.markActiveRelayTracked target relayId nowSecs) := by
  have tracked := (st.trackRelay_sameProbes target .relayTarget nowSecs).trans
    (trackRelay_sameProbes _ relayId .relayInstance nowSecs)
  simp only [markActiveRelayTracked]
  exact (tracked.trans (refresh_sameProbes _ _)).trans (refresh_sameProbes _ _)

theorem ensureCanonicalRelayTracking_sameProbes :
    SameProbes st st.ensureCanonicalRelayTracking := by
  simp only [ensureCanonicalRelayTracking]
  split
  · exact .refl st
  · exact .foldl (fun before target => before.markActiveRelayTracked_sameProbes target _ none) _ _

theorem normalizeLastCommitment_sameProbes :
    SameProbes st (st.normalizeLastCommitment canisterId) := by
  simp only [normalizeLastCommitment]
  split
  · exact .refl st
  · exact st.updateMeta_sameProbes canisterId (fun _ => rfl) (fun _ => rfl)

theorem apply_sameProbes (event : RegistryEvent) : SameProbes st (st.apply event) := by
  cases event with
  | commitment commitment timestampNanos nowSecs =>
      exact st.applyIndexedCommitment_sameProbes commitment timestampNanos nowSecs
  | snsMembership canisterIds nowSecs =>
      exact .foldl (fun before id => before.registerSnsMember_sameProbes id nowSecs) _ _
  | relay targets relayId nowSecs =>
      exact .foldl (fun before target =>
        before.markActiveRelayTracked_sameProbes target relayId (some nowSecs)) _ _

end RegistryState

/-! ## Recording a probe -/

theorem pruneVec_suffix {α : Type} (history : List α) (maxEntries : Nat) :
    pruneVec history maxEntries <:+ history := by
  simp only [pruneVec]
  split
  · exact List.nil_suffix
  · exact List.drop_suffix _ _

theorem pruneVec_length {α : Type} (history : List α) (maxEntries : Nat) :
    (pruneVec history maxEntries).length ≤ maxEntries := by
  simp only [pruneVec]
  split
  · exact Nat.zero_le _
  · rw [List.length_drop]
    omega

/-- What the metadata keeps of an outcome. -/
def RegistryState.CyclesProbeOutcome.result : RegistryState.CyclesProbeOutcome → CyclesProbeResult
  | .ok _ route => .ok (RegistryState.cyclesSampleSourceForRoute route)
  | .err message => .error message

namespace RegistryState

variable (st : RegistryState) (timestampNanos nowSecs : Nat) (canisterId : Principal)
  (maxEntries : Nat) (outcome : CyclesProbeOutcome)

theorem config_recordCyclesProbe :
    (st.recordCyclesProbe timestampNanos nowSecs canisterId maxEntries outcome).config =
      st.config := by
  cases outcome with
  | ok cycles route => exact (refresh_sameProbes _ canisterId).config
  | err message => exact (refresh_sameProbes _ canisterId).config

theorem pushCyclesSample_cases (history : List CyclesSample) (sample : CyclesSample) :
    pushCyclesSample history sample maxEntries = (history, false) ∨
      pushCyclesSample history sample maxEntries =
          (pruneVec (history ++ [sample]) maxEntries, true) ∧
        ∀ last, history.getLast? = some last → last.timestampNanos ≠ sample.timestampNanos := by
  simp only [pushCyclesSample]
  split
  · exact .inl rfl
  · rename_i fresh
    refine .inr ⟨rfl, fun last found same => fresh ?_⟩
    rw [found, Option.any_some]
    exact decide_eq_true same

theorem recordsCyclesProbe_ok (cycles : Nat) (route : Option CyclesProbeRoute) :
    st.recordsCyclesProbe timestampNanos canisterId (.ok cycles route) =
      (pushCyclesSample (st.cyclesHistorySnapshot canisterId)
        ⟨timestampNanos, cycles, cyclesSampleSourceForRoute route⟩ maxEntries).2 := by
  simp only [recordsCyclesProbe, pushCyclesSample]
  split
  · rename_i same
    rw [same, Bool.not_true]
  · rename_i fresh
    rw [Bool.eq_false_iff.mpr fresh, Bool.not_false]

theorem cyclesHistory_recordCyclesProbe (other : Principal) :
    let recorded := st.recordCyclesProbe timestampNanos nowSecs canisterId maxEntries outcome
    recorded.cyclesHistorySnapshot other = st.cyclesHistorySnapshot other ∨
      other = canisterId ∧ st.recordsCyclesProbe timestampNanos canisterId outcome = true ∧
        ∃ sample : CyclesSample, sample.timestampNanos = timestampNanos ∧
          recorded.cyclesHistorySnapshot other =
            pruneVec (st.cyclesHistorySnapshot canisterId ++ [sample]) maxEntries ∧
          ∀ last, (st.cyclesHistorySnapshot canisterId).getLast? = some last →
            last.timestampNanos ≠ timestampNanos := by
  cases outcome with
  | ok cycles route =>
      simp only [recordCyclesProbe]
      rw [(refresh_sameProbes _ canisterId).history other, st.recordsCyclesProbe_ok timestampNanos
        canisterId maxEntries cycles route]
      have pushed := pushCyclesSample_cases maxEntries (st.cyclesHistorySnapshot canisterId)
        ⟨timestampNanos, cycles, cyclesSampleSourceForRoute route⟩
      simp only [updateMeta, cyclesHistorySnapshot, OrderedMap.insert, OrderedMap.lookup_update]
        at pushed ⊢
      by_cases same : other = canisterId
      · subst same
        rw [if_pos rfl, Option.getD_some]
        rcases pushed with kept | ⟨added, fresh⟩
        · rw [kept]
          exact .inl rfl
        · rw [added]
          exact .inr ⟨rfl, rfl, _, rfl, rfl, fresh⟩
      · rw [if_neg same]
        exact .inl rfl
  | err message =>
      simp only [recordCyclesProbe]
      rw [(refresh_sameProbes _ canisterId).history other]
      exact .inl rfl

theorem probe_recordCyclesProbe (other : Principal) :
    let recorded := st.recordCyclesProbe timestampNanos nowSecs canisterId maxEntries outcome
    let here := other = canisterId ∧
      st.recordsCyclesProbe timestampNanos canisterId outcome = true
    recorded.lastCyclesProbeTs other =
        (if here then some (timestampNanos / nanosPerSecond) else st.lastCyclesProbeTs other) ∧
      (recorded.metaOf other).lastCyclesProbeResult =
        (if here then some outcome.result else (st.metaOf other).lastCyclesProbeResult) := by
  cases outcome with
  | ok cycles route =>
      simp only [recordCyclesProbe]
      rw [(refresh_sameProbes _ canisterId).last other,
        (refresh_sameProbes _ canisterId).result other,
        st.recordsCyclesProbe_ok timestampNanos canisterId maxEntries cycles route]
      simp only [lastCyclesProbeTs, metaOf_updateMeta]
      by_cases same : other = canisterId
      · subst same
        rcases pushCyclesSample_cases maxEntries (st.cyclesHistorySnapshot other)
          ⟨timestampNanos, cycles, cyclesSampleSourceForRoute route⟩ with kept | ⟨added, _⟩
        · simp only [kept, if_true, Bool.false_eq_true, and_false, if_false]
          exact ⟨rfl, rfl⟩
        · simp only [added, if_true, and_self]
          exact ⟨rfl, rfl⟩
      · simp only [same, if_false, false_and]
        exact ⟨rfl, rfl⟩
  | err message =>
      simp only [recordCyclesProbe]
      rw [(refresh_sameProbes _ canisterId).last other,
        (refresh_sameProbes _ canisterId).result other]
      simp only [lastCyclesProbeTs, metaOf_updateMeta, recordsCyclesProbe, and_true]
      by_cases same : other = canisterId
      · subst same
        simp only [if_true]
        exact ⟨rfl, rfl⟩
      · simp only [same, if_false]
        exact ⟨rfl, rfl⟩

end RegistryState

/-! ## The histories of a registry -/

/-- The canister's last recorded probe is no older than a second. -/
def ProbedSince (st : RegistryState) (secs : Nat) (canisterId : Principal) : Prop :=
  ∃ last, st.lastCyclesProbeTs canisterId = some last ∧ secs ≤ last

/-- `capped` says that no upgrade has lowered the limit. -/
structure HistoriesSound (capped : Prop) (st : RegistryState) : Prop where
  ascending : ∀ id, (st.cyclesHistorySnapshot id).Pairwise fun first second =>
    first.timestampNanos < second.timestampNanos
  few : capped → ∀ id,
    (st.cyclesHistorySnapshot id).length ≤ st.config.maxCyclesEntriesPerCanister
  seen : ∀ id, ∀ sample ∈ st.cyclesHistorySnapshot id,
    ProbedSince st (sample.timestampNanos / nanosPerSecond) id
  result : ∀ id, (st.lastCyclesProbeTs id).isSome = true →
    (st.metaOf id).lastCyclesProbeResult.isSome = true

/-- Nothing is recorded of a canister that is later than a time. -/
structure RecordedBy (st : RegistryState) (nanos : Nat) (canisterId : Principal) : Prop where
  samples : ∀ sample ∈ st.cyclesHistorySnapshot canisterId, sample.timestampNanos ≤ nanos
  last : ∀ last, st.lastCyclesProbeTs canisterId = some last → last ≤ nanos / nanosPerSecond

variable {nanos : Nat} {capped : Prop}

section Recording

variable {before after : RegistryState} {canisterId : Principal}

theorem ProbedSince.same {secs : Nat} (probed : ProbedSince before secs canisterId)
    (same : SameProbes before after) : ProbedSince after secs canisterId := by
  rcases probed with ⟨last, known, upper⟩
  exact ⟨last, (same.last canisterId).trans known, upper⟩

theorem HistoriesSound.same (sound : HistoriesSound capped before) (same : SameProbes before after) :
    HistoriesSound capped after where
  ascending := by
    intro id
    rw [same.history]
    exact sound.ascending id
  few := by
    intro still id
    rw [same.history, same.config]
    exact sound.few still id
  seen := by
    intro id sample member
    rw [same.history] at member
    exact (sound.seen id sample member).same same
  result := by
    intro id probed
    rw [same.last] at probed
    rw [same.result]
    exact sound.result id probed

theorem RecordedBy.same (recorded : RecordedBy before nanos canisterId)
    (same : SameProbes before after) : RecordedBy after nanos canisterId where
  samples := by
    rw [same.history]
    exact recorded.samples
  last := by
    rw [same.last]
    exact recorded.last

theorem RecordedBy.mono {later : Nat} (recorded : RecordedBy before nanos canisterId)
    (forward : nanos ≤ later) : RecordedBy before later canisterId where
  samples := fun sample member => (recorded.samples sample member).trans forward
  last := fun last known => (recorded.last last known).trans (Nat.div_le_div_right forward)

variable {st : RegistryState} {timestampNanos nowSecs maxEntries : Nat}
  {outcome : RegistryState.CyclesProbeOutcome}

theorem RecordedBy.keeps (recorded : RecordedBy st timestampNanos canisterId) {secs : Nat}
    {id : Principal} (probed : ProbedSince st secs id) :
    ProbedSince (st.recordCyclesProbe timestampNanos nowSecs canisterId maxEntries outcome) secs
      id := by
  rcases probed with ⟨last, known, upper⟩
  have after := (st.probe_recordCyclesProbe timestampNanos nowSecs canisterId maxEntries outcome
    id).1
  rw [ProbedSince, after]
  split
  · rename_i here
    rw [here.1] at known
    exact ⟨_, rfl, upper.trans (recorded.last last known)⟩
  · exact ⟨last, known, upper⟩

theorem recordCyclesProbe_probes
    (records : st.recordsCyclesProbe timestampNanos canisterId outcome = true) :
    (st.recordCyclesProbe timestampNanos nowSecs canisterId maxEntries outcome).lastCyclesProbeTs
      canisterId = some (timestampNanos / nanosPerSecond) := by
  have after := (st.probe_recordCyclesProbe timestampNanos nowSecs canisterId maxEntries outcome
    canisterId).1
  rw [after, if_pos ⟨rfl, records⟩]

theorem recordsCyclesProbe_of_later
    (later : ∀ sample ∈ st.cyclesHistorySnapshot canisterId,
      sample.timestampNanos < timestampNanos) :
    st.recordsCyclesProbe timestampNanos canisterId outcome = true := by
  cases outcome with
  | err message => rfl
  | ok cycles route =>
      simp only [RegistryState.recordsCyclesProbe, Bool.not_eq_true', Option.any_eq_false,
        decide_eq_false_iff_not]
      intro sample found
      exact Nat.ne_of_lt (later sample (List.mem_of_getLast? found))

theorem samples_before {history : List CyclesSample}
    (ascending : history.Pairwise fun first second => first.timestampNanos < second.timestampNanos)
    (past : ∀ sample ∈ history, sample.timestampNanos ≤ timestampNanos)
    (fresh : ∀ last, history.getLast? = some last → last.timestampNanos ≠ timestampNanos) :
    ∀ sample ∈ history, sample.timestampNanos < timestampNanos := by
  intro sample member
  rcases List.eq_nil_or_concat' history with rfl | ⟨front, last, rfl⟩
  · cases member
  · have ended := Nat.lt_of_le_of_ne (past last (List.mem_append_right _ List.mem_cons_self))
      (fresh last List.getLast?_concat)
    rcases List.mem_append.mp member with early | final
    · exact ((List.pairwise_append.mp ascending).2.2 sample early last
        List.mem_cons_self).trans ended
    · rw [List.mem_singleton.mp final]
      exact ended

theorem RecordedBy.record {id : Principal} (recorded : RecordedBy st nanos id)
    (past : timestampNanos ≤ nanos) :
    RecordedBy (st.recordCyclesProbe timestampNanos nowSecs canisterId maxEntries outcome) nanos
      id where
  samples := by
    intro sample member
    rcases st.cyclesHistory_recordCyclesProbe timestampNanos nowSecs canisterId maxEntries outcome
      id with same | ⟨rfl, _, added, time, pushed, _⟩
    · rw [same] at member
      exact recorded.samples sample member
    · rw [pushed] at member
      rcases List.mem_append.mp ((pruneVec_suffix _ _).subset member) with old | new
      · exact recorded.samples sample old
      · rw [List.mem_singleton.mp new, time]
        exact past
  last := by
    intro last known
    rw [(st.probe_recordCyclesProbe timestampNanos nowSecs canisterId maxEntries outcome id).1]
      at known
    split at known
    · cases known
      exact Nat.div_le_div_right past
    · exact recorded.last last known

theorem HistoriesSound.record (sound : HistoriesSound capped st)
    (recorded : RecordedBy st timestampNanos canisterId)
    (entries : maxEntries = st.config.maxCyclesEntriesPerCanister) :
    HistoriesSound capped
      (st.recordCyclesProbe timestampNanos nowSecs canisterId maxEntries outcome) where
  ascending := by
    intro id
    rcases st.cyclesHistory_recordCyclesProbe timestampNanos nowSecs canisterId maxEntries outcome
      id with same | ⟨rfl, _, added, time, pushed, fresh⟩
    · rw [same]
      exact sound.ascending id
    · rw [pushed]
      have grown : (st.cyclesHistorySnapshot id ++ [added]).Pairwise fun first second =>
          first.timestampNanos < second.timestampNanos := by
        rw [List.pairwise_append]
        refine ⟨sound.ascending id, List.pairwise_singleton _ _, fun sample member other last => ?_⟩
        rw [List.mem_singleton.mp last, time]
        exact samples_before (sound.ascending id) recorded.samples fresh sample member
      exact grown.sublist (pruneVec_suffix _ _).sublist
  few := by
    intro still id
    rw [RegistryState.config_recordCyclesProbe]
    rcases st.cyclesHistory_recordCyclesProbe timestampNanos nowSecs canisterId maxEntries outcome
      id with same | ⟨rfl, _, added, _, pushed, _⟩
    · rw [same]
      exact sound.few still id
    · rw [pushed, ← entries]
      exact pruneVec_length _ _
  seen := by
    intro id sample member
    rcases st.cyclesHistory_recordCyclesProbe timestampNanos nowSecs canisterId maxEntries outcome
      id with same | ⟨rfl, records, added, time, pushed, _⟩
    · rw [same] at member
      exact recorded.keeps (sound.seen id sample member)
    · rw [pushed] at member
      rcases List.mem_append.mp ((pruneVec_suffix _ _).subset member) with old | new
      · exact recorded.keeps (sound.seen id sample old)
      · rw [List.mem_singleton.mp new, time]
        exact ⟨_, recordCyclesProbe_probes records, Nat.le_refl _⟩
  result := by
    intro id probed
    have after := st.probe_recordCyclesProbe timestampNanos nowSecs canisterId maxEntries outcome id
    rw [after.1] at probed
    rw [after.2]
    split
    · rfl
    · rename_i elsewhere
      rw [if_neg elsewhere] at probed
      exact sound.result id probed

end Recording

/-! ## A new registry -/

def Unprobed (st : RegistryState) : Prop :=
  ∀ id, st.cyclesHistorySnapshot id = [] ∧ st.lastCyclesProbeTs id = none

theorem Unprobed.same {before after : RegistryState} (unprobed : Unprobed before)
    (same : SameProbes before after) : Unprobed after :=
  fun id => ⟨(same.history id).trans (unprobed id).1, (same.last id).trans (unprobed id).2⟩

theorem Unprobed.sound {st : RegistryState} (unprobed : Unprobed st) :
    HistoriesSound capped st where
  ascending := by
    intro id
    rw [(unprobed id).1]
    exact List.Pairwise.nil
  few := by
    intro still id
    rw [(unprobed id).1]
    exact Nat.zero_le _
  seen := by
    intro id sample member
    rw [(unprobed id).1] at member
    cases member
  result := by
    intro id probed
    rw [(unprobed id).2] at probed
    cases probed

theorem Unprobed.recordedBy {st : RegistryState} (unprobed : Unprobed st) (nanos : Nat)
    (id : Principal) : RecordedBy st nanos id where
  samples := by
    intro sample member
    rw [(unprobed id).1] at member
    cases member
  last := by
    intro last known
    rw [(unprobed id).2] at known
    cases known

theorem Unprobed.dropStale {st : RegistryState} (unprobed : Unprobed st)
    (entry : Principal × List CanisterTrackingReason) : Unprobed (st.dropStaleMemoSource entry) := by
  simp only [RegistryState.dropStaleMemoSource]
  split
  · intro id
    refine ⟨(unprobed id).1, ?_⟩
    simp only [RegistryState.lastCyclesProbeTs, RegistryState.metaOf, OrderedMap.lookup_erase]
    split
    · rfl
    · exact (unprobed id).2
  · exact unprobed.same (.of_fields rfl rfl rfl)

theorem normalized_sameProbes (before : RegistryState) (ids : List Principal) :
    SameProbes before (ids.foldl RegistryState.normalizeLastCommitment
      before).normalizeDistinctCanisters.rebuildMemoRegisteredCanisterSummariesCache := by
  have tailed : SameProbes before
      (ids.foldl RegistryState.normalizeLastCommitment before).normalizeDistinctCanisters :=
    (SameProbes.foldl RegistryState.normalizeLastCommitment_sameProbes ids before).trans
      (.of_fields rfl rfl rfl)
  exact tailed.trans (RegistryState.rebuild_sameProbes _)

theorem Unprobed.normalize {st : RegistryState} (unprobed : Unprobed st) :
    Unprobed st.normalizeRuntimeState := by
  have dropped : ∀ entries : List _, Unprobed (entries.foldl RegistryState.dropStaleMemoSource
      { st with config := clampConfig st.config }) := fun entries =>
    List.foldlRecOn entries _ (motive := Unprobed) unprobed fun _ held entry _ =>
      held.dropStale entry
  exact (dropped _).same (normalized_sameProbes _ _)

theorem unprobed_installed (config : RegistryConfig) :
    Unprobed (RegistryState.installed config) := by
  have fresh : Unprobed (RegistryState.new config) := fun _ => ⟨rfl, rfl⟩
  exact (fresh.same (RegistryState.ensureCanonicalRelayTracking_sameProbes _)).normalize

end JupiterSuite.Historian.Registry
