import JupiterSuite.Historian.SummaryUpkeep
import JupiterSuite.Historian.CyclesHistories

/-! The pages of the ranking: each check of a page passes, and the pages joined are the ranking. -/

namespace JupiterSuite.Historian.Registry

open Base Memo

section Windows

variable {cache : SummaryCache}

/-- The inspection of a ranked window keeps the part between two positions. -/
theorem inspectWindow_ranked
    (owned : ∀ id summary, cache.lookup id = some summary → summary.canisterId = id)
    (first last : Nat) (ids : List Principal) (position : Nat) (previousKey : Option TotalDescKey)
    (known : ∀ id ∈ ids, (cache.lookup id).isSome = true) (ranked : Ranked (rankIn cache) ids)
    (after : ∀ previous, previousKey = some previous → ∀ id ∈ ids, previous < rankIn cache id) :
    inspectWindow cache first last position previousKey ids =
      some (((ids.drop (first - position)).take (last - max position first)).filterMap
        cache.lookup) := by
  induction ids generalizing position previousKey with
  | nil => simp [inspectWindow]
  | cons id rest ih =>
      rcases Option.isSome_iff_exists.mp (known id List.mem_cons_self) with ⟨summary, found⟩
      have rank : rankIn cache id = summary.totalDescKey := by simp only [rankIn, found]
      have inOrder : (previousKey.any fun previous => decide (summary.totalDescKey ≤ previous)) =
          false := by
        rw [Option.any_eq_false]
        intro previous same
        have before := after previous same id List.mem_cons_self
        rw [rank] at before
        exact decide_eq_false (not_le_of_gt before)
      rcases List.pairwise_cons.mp ranked with ⟨below, tail⟩
      have onward := ih (position + 1) (some summary.totalDescKey)
        (fun other member => known other (List.mem_cons_of_mem id member)) tail (by
          rintro _ ⟨⟩ other member
          rw [← rank]
          exact below other member)
      simp only [inspectWindow, found, owned id summary found, ne_eq, not_true_eq_false, if_false,
        inOrder, Bool.false_eq_true, onward, Option.map_some]
      congr 1
      split
      · rename_i inside
        have early : first - position = 0 := by omega
        have early' : first - (position + 1) = 0 := by omega
        have left : last - max position first = last - max (position + 1) first + 1 := by omega
        rw [early, early', List.drop_zero, List.drop_zero, left, List.take_succ_cons,
          List.filterMap_cons_some found]
      · rename_i outside
        by_cases before : position < first
        · have skip : first - position = first - (position + 1) + 1 := by omega
          have same : max position first = max (position + 1) first := by omega
          rw [skip, List.drop_succ_cons, same]
        · have done : last - max position first = 0 := by omega
          have done' : last - max (position + 1) first = 0 := by omega
          rw [done, done', List.take_zero, List.take_zero]

end Windows

section Pages

variable {stale : Set Principal} {st : RegistryState} {cache : SummaryCache}
  {index : List Principal}

theorem SummarizesBut.length (held : SummarizesBut stale st cache index) :
    cache.entries.length = index.length := by
  have same : cache.keys.Perm index := by
    apply (List.perm_ext_iff_of_nodup cache.keys_nodup held.ranked.nodup).mpr
    intro id
    rw [cache.mem_keys, held.members]
  have lengths := same.length_eq
  rwa [OrderedMap.keys, List.length_map] at lengths

theorem SummarizesBut.page (held : SummarizesBut stale st cache index)
    (fits : index.length ≤ u32Max) (page pageSize : Nat) :
    memoRegisteredCanisterSummariesTotalDescPage st page pageSize =
      some ⟨((index.drop (page * pageSize)).take pageSize).filterMap cache.lookup, page, pageSize,
        index.length⟩ := by
  simp only [memoRegisteredCanisterSummariesTotalDescPage, held.cached, held.listed, held.length,
    ne_eq, not_true_eq_false, if_false]
  generalize u32Max = bound at fits ⊢
  split
  · rename_i beyond
    have past : index.length ≤ page * pageSize := by omega
    rw [List.drop_eq_nil_of_le past, List.take_nil, List.filterMap_nil]
  · rename_i within
    have start : min (page * pageSize) bound = page * pageSize := by omega
    rw [start] at within ⊢
    generalize page * pageSize = first at within ⊢
    generalize ends : min (min (first + pageSize) bound) index.length = last
    generalize inspected : min (min (last + 1) bound) index.length = inspectedEnd
    have part : ((index.take inspectedEnd).drop (first - 1)).Sublist index :=
      (List.drop_sublist _ _).trans (List.take_sublist _ _)
    rw [inspectWindow_ranked held.owned first last _ (first - 1) none
      (fun id member => (held.members id).mp (part.subset member)) (held.ranked.sublist part)
      nofun]
    have window : (((index.take inspectedEnd).drop (first - 1)).drop (first - (first - 1))).take
        (last - max (first - 1) first) = (index.drop first).take pageSize := by
      have back : first - 1 + (first - (first - 1)) = first := by omega
      have front : max (first - 1) first = first := by omega
      rw [List.drop_drop, back, front, List.drop_take, List.take_take, List.take_eq_take_iff,
        List.length_drop]
      omega
    rw [window, Option.map_some]

theorem totalDescKey_lt {left right : MemoRegisteredCanisterSummary} :
    left.totalDescKey < right.totalDescKey ↔
      right.totalQualifyingCommittedE8s < left.totalQualifyingCommittedE8s ∨
        left.totalQualifyingCommittedE8s = right.totalQualifyingCommittedE8s ∧
          left.canisterId < right.canisterId := by
  simp only [MemoRegisteredCanisterSummary.totalDescKey, totalDescKey, Prod.Lex.toLex_lt_toLex,
    OrderDual.toDual_lt_toDual, OrderDual.toDual_inj]

theorem SummarizesBut.summaries_ranked (held : SummarizesBut stale st cache index) :
    (index.filterMap cache.lookup).Pairwise fun first second =>
      second.totalQualifyingCommittedE8s < first.totalQualifyingCommittedE8s ∨
        first.totalQualifyingCommittedE8s = second.totalQualifyingCommittedE8s ∧
          first.canisterId < second.canisterId := by
  rw [List.pairwise_filterMap]
  refine held.ranked.imp ?_
  intro id other below summary found following located
  apply totalDescKey_lt.mp
  simpa only [rankIn, found, located] using below

end Pages

/-! The registry over the ticks, the registrations and the upgrades of the historian: its cached
summaries and their ranking are what a rebuild would compute. -/

inductive SummaryEvent where
  | run (event : CyclesEvent)
  | upgrade (args : RegistryState.RegistryUpgradeArgs) (nowNanos : Nat)
  deriving DecidableEq, Repr

/-- The length of a list is a `usize` of 32 bits; a longer one would trap. -/
def rankingFits (st : RegistryState) : Bool :=
  st.totalDescIndex.all fun index => decide (index.length ≤ u32Max)

/-- An upgrade drops the continuations and releases the lease. -/
def stepSummaries (selfId : Principal) (sys : CyclesSystem) (event : SummaryEvent) :
    Option CyclesSystem :=
  let next :=
    match event with
    | .run event => stepCycles selfId sys event
    | .upgrade args nowNanos =>
        if cyclesClockAdmits sys.clock nowNanos then
          (sys.state.registry.upgraded args).map fun registry =>
            { state := { sys.state with registry := registry, mainLockStateTs := some 0 }
              tasks := Pool.empty
              clock := nowNanos }
        else none
  next.filter fun next => rankingFits next.state.registry

def summaryMachine (selfId : Principal) : Machine CyclesSystem SummaryEvent where
  init := fun sys => (cyclesMachine selfId).init sys ∧ rankingFits sys.state.registry = true
  step := stepSummaries selfId

section Segments

variable (st : CyclesState) {selfId : Principal} {tick : CyclesTick}

theorem finished_registry (tick : CyclesTick) :
    (st.finished tick).1.registry = st.registry := by
  simp only [CyclesState.finished, CyclesState.finish]
  split
  · rfl
  · rfl

theorem cyclesSweepLoop_registry (slice : SweepSlice) (targets : List Principal)
    (targetIndex : Nat) :
    (st.cyclesSweepLoop slice targets targetIndex).1.registry = st.registry := by
  induction targets generalizing targetIndex with
  | nil =>
      simp only [CyclesState.cyclesSweepLoop, finished_registry, CyclesState.endCyclesSlice]
      split
      · split
        · rfl
        · rfl
      · rfl
  | cons canisterId rest ih =>
      simp only [CyclesState.cyclesSweepLoop]
      split
      · exact ih (targetIndex + 1)
      · rfl

theorem processCyclesSweep_registry :
    (st.processCyclesSweep selfId tick).1.registry = st.registry := by
  have begun : (st.startCyclesSweep selfId tick).registry = st.registry := by
    simp only [CyclesState.startCyclesSweep]
    split
    · rfl
    · rfl
  simp only [CyclesState.processCyclesSweep]
  split
  · exact finished_registry st tick
  · split
    · rw [finished_registry, begun]
    · rw [cyclesSweepLoop_registry, begun]

theorem afterInitialProbes_registry (cyclesDue : Bool) :
    (st.afterInitialProbes selfId tick cyclesDue).1.registry = st.registry := by
  simp only [CyclesState.afterInitialProbes]
  split
  · exact finished_registry st tick
  · split
    · exact processCyclesSweep_registry st
    · exact finished_registry st tick

theorem initialProbesLoop_registry (probes : InitialProbes) (queue : List Principal) :
    (st.initialProbesLoop selfId probes queue).1.registry = st.registry := by
  cases queue with
  | cons canisterId rest => rfl
  | nil =>
      simp only [CyclesState.initialProbesLoop]
      split
      · rfl
      · exact afterInitialProbes_registry st _

/-- The registry with the probe that a resumed tick records. -/
def CyclesState.recordedBy : CyclesKont → CyclesReply → RegistryState
  | .initialProbe probes canisterId _, .probed outcome =>
      if st.isCurrent probes.tick.lease then
        st.registry.recordCyclesProbe probes.tick.nowNanos probes.tick.nowSecs canisterId
          probes.maxEntries outcome
      else st.registry
  | .sweepProbe slice targetIndex canisterId, .probed outcome =>
      if st.sweepFence slice targetIndex canisterId then
        st.registry.recordCyclesProbe slice.snapshot.startedAtTsNanos slice.tick.nowSecs canisterId
          slice.maxEntries outcome
      else st.registry
  | _, _ => st.registry

theorem resumeCycles_registry (kont : CyclesKont) (reply : CyclesReply) :
    ∃ queue, (resumeCycles selfId st kont reply).1.registry =
      { st.recordedBy kont reply with initialCyclesProbeQueue := queue } := by
  have ended : ∀ tick, ∃ queue, (st.finished tick).1.registry =
      { st.registry with initialCyclesProbeQueue := queue } := fun tick =>
    ⟨_, finished_registry st tick⟩
  cases kont with
  | before tick =>
      simp only [resumeCycles, CyclesState.afterIndexing]
      split
      · exact ended tick
      · exact ⟨_, rfl⟩
  | snsDiscovery tick cyclesDue =>
      simp only [resumeCycles, CyclesState.afterSnsDiscovery]
      split
      · exact ended tick
      · split
        · exact ⟨_, afterInitialProbes_registry st cyclesDue⟩
        · simp only [CyclesState.processInitialCyclesProbeQueue]
          exact ⟨_, initialProbesLoop_registry _ _ _⟩
  | stakeRefresh tick cyclesDue => exact ⟨_, afterInitialProbes_registry st cyclesDue⟩
  | initialProbe probes canisterId rest =>
      cases reply with
      | other => exact ended _
      | probed outcome =>
          simp only [resumeCycles, CyclesState.onInitialProbe, CyclesState.recordedBy]
          cases st.isCurrent probes.tick.lease with
          | false => exact ended _
          | true => exact ⟨_, initialProbesLoop_registry _ _ _⟩
  | sweepProbe slice targetIndex canisterId =>
      cases reply with
      | other => exact ended _
      | probed outcome =>
          simp only [resumeCycles, CyclesState.onSweepProbe, CyclesState.recordedBy]
          have onward : ∀ after : CyclesState, ∃ queue,
              (if after.isCurrent slice.tick.lease &&
                  decide (after.activeCyclesSweep = some slice.snapshot) then
                after.cyclesSweepLoop slice (CyclesState.sliceTargets slice (targetIndex + 1))
                  (targetIndex + 1)
              else after.finished slice.tick).1.registry =
                { after.registry with initialCyclesProbeQueue := queue } := by
            intro after
            split
            · exact ⟨_, cyclesSweepLoop_registry _ _ _ _⟩
            · exact ⟨_, finished_registry _ _⟩
          cases st.sweepFence slice targetIndex canisterId with
          | false => exact onward st
          | true => exact onward (st.recordSweepProbe slice canisterId outcome)

theorem resumeCycles_upToDate (held : UpToDateBut ∅ st.registry) (kont : CyclesKont)
    (reply : CyclesReply) : UpToDateBut ∅ (resumeCycles selfId st kont reply).1.registry := by
  rcases resumeCycles_registry st kont reply with ⟨queue, same⟩
  have recorded : UpToDateBut ∅ (st.recordedBy kont reply) := by
    unfold CyclesState.recordedBy
    split
    · split
      · exact RegistryState.recordCyclesProbe_upToDate _ _ held _ _ _ _
      · exact held
    · split
      · exact RegistryState.recordCyclesProbe_upToDate _ _ held _ _ _ _
      · exact held
    · exact held
  rw [same]
  exact recorded.untouched (.of_stores rfl rfl rfl rfl rfl rfl rfl)

theorem mainTick_registry (force : Bool) (nowNanos : Nat) :
    (st.mainTick force nowNanos).1.registry = st.registry ∨
      (st.mainTick force nowNanos).1.registry =
        repairMemoRegisteredCanisterSummariesIfInvalid st.registry := by
  simp only [CyclesState.mainTick]
  split
  · exact .inl rfl
  · split
    · exact .inl (finished_registry _ _)
    · exact .inr rfl

theorem mainTick_upToDate (held : UpToDateBut ∅ st.registry) (force : Bool) (nowNanos : Nat) :
    UpToDateBut ∅ (st.mainTick force nowNanos).1.registry := by
  rcases mainTick_registry st force nowNanos with same | repaired
  · rw [same]
    exact held
  · rw [repaired]
    exact RegistryState.repair_upToDate _ held

end Segments

section Runs

variable {selfId : Principal} {sys next : CyclesSystem}

theorem settleCycles_registry (sys : CyclesSystem) (id nowNanos : Nat)
    (result : CyclesState × CyclesPause) :
    (settleCycles sys id nowNanos result).state.registry = result.1.registry := by
  rcases result with ⟨after, pause⟩
  cases pause with
  | done => rfl
  | await kont => rfl

theorem stepCycles_upToDate {event : CyclesEvent} (held : UpToDateBut ∅ sys.state.registry)
    (taken : stepCycles selfId sys event = some next) : UpToDateBut ∅ next.state.registry := by
  cases stepCycles_cases taken with
  | tick force =>
      rw [settleCycles_registry]
      exact mainTick_upToDate _ held force _
  | resume reply =>
      rw [settleCycles_registry]
      exact resumeCycles_upToDate _ held _ reply
  | abandon cleanup =>
      dsimp only
      split
      · exact held
      · exact held
  | register event =>
      exact RegistryState.apply_upToDate _ held event

theorem stepSummaries_upToDate {event : SummaryEvent} (held : UpToDateBut ∅ sys.state.registry)
    (taken : stepSummaries selfId sys event = some next) :
    UpToDateBut ∅ next.state.registry ∧ rankingFits next.state.registry = true := by
  simp only [stepSummaries, Option.filter_eq_some_iff] at taken
  rcases taken with ⟨stepped, fits⟩
  refine ⟨?_, fits⟩
  cases event with
  | run event => exact stepCycles_upToDate held stepped
  | upgrade args nowNanos =>
      dsimp only at stepped
      split at stepped
      · rcases Option.map_eq_some_iff.mp stepped with ⟨registry, upgraded, rfl⟩
        exact RegistryState.upgraded_upToDate _ upgraded
      · cases stepped

theorem reachable_summaries (reachable : (summaryMachine selfId).Reachable sys) :
    UpToDateBut ∅ sys.state.registry ∧ rankingFits sys.state.registry = true := by
  refine (summaryMachine selfId).reachable_invariant
    (fun sys => UpToDateBut ∅ sys.state.registry ∧ rankingFits sys.state.registry = true) ?_ ?_
    reachable
  · rintro start ⟨⟨config, nowSecs, nowNanos, rfl⟩, fits⟩
    exact ⟨installed_upToDate config, fits⟩
  · exact fun _ _ _ invariant taken => stepSummaries_upToDate invariant.1 taken

end Runs

/-- The cache and its ranking, against the stores that they summarize. -/
structure SummariesSound (st : RegistryState) : Prop where
  rebuilt : st.rebuildMemoRegisteredCanisterSummariesCache.summariesCache = st.summariesCache ∧
    st.rebuildMemoRegisteredCanisterSummariesCache.totalDescIndex = st.totalDescIndex
  cached : ∃ cache, st.summariesCache = some cache ∧
    ∀ id, cache.lookup id = st.memoRegisteredCanisterSummaryFor id
  ranking : ∃ index, st.totalDescIndex = some index ∧ index.Nodup ∧
    (∀ id, id ∈ index ↔ (st.memoRegisteredCanisterSummaryFor id).isSome = true) ∧
    ((index.filterMap st.memoRegisteredCanisterSummaryFor).Pairwise fun first second =>
      second.totalQualifyingCommittedE8s < first.totalQualifyingCommittedE8s ∨
        first.totalQualifyingCommittedE8s = second.totalQualifyingCommittedE8s ∧
          first.canisterId < second.canisterId) ∧
    ∀ pageSize, 1 ≤ pageSize →
      (∀ page, (memoRegisteredCanisterSummariesTotalDescPage st page pageSize).isSome = true) ∧
      ∀ count, index.length ≤ count * pageSize →
        ((List.range count).flatMap fun page =>
            (memoRegisteredCanisterSummariesTotalDescPage st page pageSize).elim []
              ListMemoRegisteredCanisterSummariesResponse.items) =
          index.filterMap st.memoRegisteredCanisterSummaryFor
  query : ∀ page pageSize, memoRegisteredCanisterSummariesTotalDescPage st (page.getD 0)
      (min (max (pageSize.getD 25) 1) 100) =
    some (listMemoRegisteredCanisterSummaries st page pageSize)

theorem memo_summaries_sound {selfId : Principal} {sys : CyclesSystem}
    (reachable : (summaryMachine selfId).Reachable sys) : SummariesSound sys.state.registry := by
  rcases reachable_summaries reachable with ⟨held, fits⟩
  generalize sys.state.registry = st at held fits
  have rebuilt := upToDate_unique (upToDate_rebuild st) held (summaryFor_rebuild st)
  rcases held with ⟨cache, index, held⟩
  have lookups : cache.lookup = st.memoRegisteredCanisterSummaryFor :=
    funext fun id => held.lookup id (Set.notMem_empty id)
  have bounded : index.length ≤ u32Max := by
    simp only [rankingFits, held.listed, Option.all_some, decide_eq_true_eq] at fits
    exact fits
  have pages := held.page bounded
  rw [lookups] at pages
  constructor
  · exact rebuilt
  · exact ⟨cache, held.cached, congrFun lookups⟩
  · refine ⟨index, held.listed, held.ranked.nodup, ?_, ?_, ?_⟩
    · intro id
      rw [held.members, lookups]
    · rw [← lookups]
      exact held.summaries_ranked
    · intro pageSize _
      refine ⟨fun page => by rw [pages page pageSize, Option.isSome_some], ?_⟩
      intro count enough
      simp only [pages, Option.elim_some]
      rw [← List.filterMap_flatMap, pages_flatMap, List.take_of_length_le enough]
  · intro page pageSize
    rw [listMemoRegisteredCanisterSummaries, pages, Option.getD_some]

section Sample

def sampleTarget : Principal := ⟨[0, 0, 0, 0, 2, 48, 15, 40, 1, 1]⟩

def sampleRelay : Principal := ⟨[0, 0, 0, 0, 2, 48, 15, 41, 1, 1]⟩

def sampleTopUp (txId : Nat) (canisterId : Principal) (amountE8s : Nat) : IndexedCommitment :=
  ⟨txId, .cyclesTopUp canisterId, amountE8s, true⟩

/-- The second commitment of the target puts it before the member; the upgrade keeps that. -/
def summarySampleEvents : List SummaryEvent :=
  [.run (.register (.snsMembership [sampleMember] 1700000000)),
    .run (.register (.commitment (sampleTopUp 4 sampleMember 500000000) none 1700000001)),
    .run (.register (.commitment (sampleTopUp 7 sampleTarget 300000000) none 1700000002)),
    .run (.register (.relay [sampleTarget] sampleRelay 1700000003)),
    .run (.tick 1 true 1700000004000000000),
    .run (.resume 1 .other 1700000005000000000),
    .run (.resume 1 .other 1700000006000000000),
    .run (.resume 1 (.probed (.ok 5000000000000 none)) 1700000007000000000),
    .run (.register (.commitment (sampleTopUp 9 sampleTarget 400000000) none 1700000008)),
    .upgrade ⟨none, none, none, none, some 300, none, none⟩ 1700000009000000000]

def summarySampleEnd : CyclesSystem :=
  ((summaryMachine sampleHistorian).run cyclesSampleStart summarySampleEvents).getD
    cyclesSampleStart

theorem summarySample_reachable : (summaryMachine sampleHistorian).Reachable summarySampleEnd :=
  (summaryMachine sampleHistorian).reachable_getD
    ⟨⟨_, _, _, rfl⟩, by decide +kernel⟩
    (by decide +kernel)

theorem memo_summaries_sound_after_upgrade :
    (summarySampleEnd.state.registry.totalDescIndex = some [sampleTarget, sampleMember] ∧
      (memoRegisteredCanisterSummariesTotalDescPage summarySampleEnd.state.registry 1 1).map
          (fun response => response.items.map
            MemoRegisteredCanisterSummary.totalQualifyingCommittedE8s) =
        some [500000000]) ∧
      SummariesSound summarySampleEnd.state.registry := by
  refine ⟨⟨?_, ?_⟩, memo_summaries_sound summarySample_reachable⟩
  · decide +kernel
  · decide +kernel

end Sample

end JupiterSuite.Historian.Registry
