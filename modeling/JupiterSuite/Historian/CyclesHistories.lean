import JupiterSuite.Historian.ProbeRecords

/-! Cycles histories ascend in time, and a sweep is finished only when each of its canisters has
been probed since it started. A probe is written by the owner of the main lease alone, and whatever
the owner finds was recorded by its tick or by an earlier one. -/

namespace JupiterSuite.Historian.Registry

open Base Memo

variable {capped : Prop} {kont : CyclesKont} {slice : SweepSlice} {targetIndex : Nat}
  {canisterId : Principal}
variable {nanos : Nat} {outcome : RegistryState.CyclesProbeOutcome} {probes : InitialProbes}
  {reply : CyclesReply} {event : CyclesEvent} {next : CyclesSystem}
  {active : Option ActiveCyclesSweep}

section States

structure SweepSound (st : CyclesState) : Prop where
  probed : ∀ active, st.activeCyclesSweep = some active → ∀ (i : Nat) (id : Principal),
    i < active.nextIndex → active.canisters[i]? = some id →
      ProbedSince st.registry active.startedAtSecs id
  finished : ∀ sweep ∈ st.finishedSweeps, ∀ id ∈ sweep.canisters,
    ProbedSince st.registry sweep.startedAtSecs id
  serials : ∀ record ∈ st.sweepRecords, record.1 ≤ st.sweepsBegun
  current : ∀ active, st.activeCyclesSweep = some active → ∀ record ∈ st.sweepRecords,
    record.1 = st.sweepsBegun → ProbedSince st.registry active.startedAtSecs record.2
  once : st.sweepRecords.Nodup

structure CyclesSound (capped : Prop) (st : CyclesState) : Prop where
  histories : HistoriesSound capped st.registry
  sweep : SweepSound st

/-- Nothing was recorded after a time, and the sweep did not start after it. -/
structure CyclesBy (st : CyclesState) (nanos : Nat) : Prop where
  recorded : ∀ id, RecordedBy st.registry nanos id
  started : ∀ active, st.activeCyclesSweep = some active → active.startedAtTsNanos ≤ nanos

/-- The slice works on the active sweep and has come to an index. -/
structure SliceReady (st : CyclesState) (slice : SweepSlice) (targetIndex : Nat) : Prop where
  sweep : st.activeCyclesSweep = some slice.snapshot
  entries : slice.maxEntries = st.registry.config.maxCyclesEntriesPerCanister
  inside : slice.sliceEnd ≤ slice.snapshot.canisters.length
  done : ∀ (i : Nat) (id : Principal), i < targetIndex →
    slice.snapshot.canisters[i]? = some id →
      ProbedSince st.registry slice.snapshot.startedAtSecs id

def Promised (st : CyclesState) : CyclesKont → Prop
  | .initialProbe probes _ _ =>
      probes.maxEntries = st.registry.config.maxCyclesEntriesPerCanister
  | .sweepProbe slice targetIndex canisterId => SliceReady st slice targetIndex ∧
      slice.snapshot.canisters[targetIndex]? = some canisterId ∧
      ¬ ProbedSince st.registry slice.snapshot.startedAtSecs canisterId
  | _ => True

/-- What the owner of the lease relies on across an await. -/
structure CyclesReady (st : CyclesState) (kont : CyclesKont) : Prop where
  past : CyclesBy st kont.tick.nowNanos
  promised : Promised st kont

/-- Where a segment of a tick under its lease stops. -/
structure CyclesResult (capped : Prop) (tick : CyclesTick) (result : CyclesState × CyclesPause) :
    Prop where
  sound : CyclesSound capped result.1
  past : CyclesBy result.1 tick.nowNanos
  pause : (result.2 = .done ∧ result.1.mainLockStateTs = some 0) ∨
    ∃ kont, result.2 = .await kont ∧ kont.tick = tick ∧
      result.1.mainLockStateTs = some tick.lease ∧ Promised result.1 kont

theorem probedSince_iff (st : CyclesState) (secs : Nat) (id : Principal) :
    st.probedSince secs id = true ↔ ProbedSince st.registry secs id := by
  simp only [CyclesState.probedSince, ProbedSince, Option.any_eq_true, decide_eq_true_eq]

theorem SweepSound.keep {st : CyclesState} (sound : SweepSound st) {registry : RegistryState}
    (keeps : ∀ secs id, ProbedSince st.registry secs id → ProbedSince registry secs id) :
    SweepSound { st with registry := registry } where
  probed := fun active found i id before member =>
    keeps _ _ (sound.probed active found i id before member)
  finished := fun sweep member id inside => keeps _ _ (sound.finished sweep member id inside)
  serials := sound.serials
  current := fun active found record member same =>
    keeps _ _ (sound.current active found record member same)
  once := sound.once

theorem CyclesSound.registry {st : CyclesState} (sound : CyclesSound capped st)
    {registry : RegistryState} (same : SameProbes st.registry registry) : CyclesSound capped { st with registry := registry } where
  histories := sound.histories.same same
  sweep := sound.sweep.keep fun _ _ probed => probed.same same

theorem CyclesSound.lock {st : CyclesState} (sound : CyclesSound capped st) (lock : Option Nat)
    (lastMainRunTs : Nat) :
    CyclesSound capped { st with lastMainRunTs := lastMainRunTs, mainLockStateTs := lock } where
  histories := sound.histories
  sweep := ⟨sound.sweep.probed, sound.sweep.finished, sound.sweep.serials, sound.sweep.current,
    sound.sweep.once⟩

theorem CyclesBy.registry {st : CyclesState} (past : CyclesBy st nanos) {registry : RegistryState}
    (same : SameProbes st.registry registry) :
    CyclesBy { st with registry := registry } nanos where
  recorded := fun id => (past.recorded id).same same
  started := past.started

theorem CyclesBy.mono {st : CyclesState} {later : Nat} (past : CyclesBy st nanos)
    (forward : nanos ≤ later) : CyclesBy st later where
  recorded := fun id => (past.recorded id).mono forward
  started := fun active found => (past.started active found).trans forward

theorem Promised.registry {st : CyclesState} (promised : Promised st kont)
    {registry : RegistryState} (same : SameProbes st.registry registry) :
    Promised { st with registry := registry } kont := by
  cases kont with
  | before tick => trivial
  | snsDiscovery tick cyclesDue => trivial
  | stakeRefresh tick cyclesDue => trivial
  | initialProbe probes canisterId rest =>
      simp only [Promised] at promised ⊢
      rw [promised, same.config]
  | sweepProbe slice targetIndex canisterId =>
      rcases promised with ⟨ready, target, unprobed⟩
      refine ⟨⟨ready.sweep, by rw [ready.entries, same.config], ready.inside, ?_⟩, target, ?_⟩
      · intro i id before member
        exact (ready.done i id before member).same same
      · rintro ⟨last, known, upper⟩
        exact unprobed ⟨last, (same.last canisterId).symm.trans known, upper⟩

end States

/-! ## The segments of the owner -/

section Segments

variable {st : CyclesState} {tick : CyclesTick} {selfId : Principal}

theorem isCurrent_of_owner {lease : Nat} (owner : st.mainLockStateTs = some lease) :
    st.isCurrent lease = true :=
  decide_eq_true owner

theorem finished_result (owner : st.mainLockStateTs = some tick.lease) (sound : CyclesSound capped st)
    (past : CyclesBy st tick.nowNanos) : CyclesResult capped tick (st.finished tick) := by
  simp only [CyclesState.finished, CyclesState.finish, if_pos owner]
  exact ⟨sound.lock _ _, ⟨past.recorded, past.started⟩, .inl ⟨rfl, rfl⟩⟩

theorem endCyclesSlice_result (owner : st.mainLockStateTs = some slice.tick.lease)
    (sound : CyclesSound capped st) (past : CyclesBy st slice.tick.nowNanos)
    (ready : SliceReady st slice targetIndex) (through : slice.sliceEnd ≤ targetIndex) :
    CyclesResult capped slice.tick ((st.endCyclesSlice slice).finished slice.tick) := by
  have started := past.started slice.snapshot ready.sweep
  simp only [CyclesState.endCyclesSlice]
  rw [if_pos ⟨isCurrent_of_owner owner, ready.sweep⟩]
  split
  · rename_i whole
    refine finished_result owner ⟨sound.histories, ?_, ?_, sound.sweep.serials, ?_,
      sound.sweep.once⟩ ⟨past.recorded, nofun⟩
    · exact nofun
    · intro sweep member id inside
      rcases List.mem_append.mp member with old | new
      · exact sound.sweep.finished sweep old id inside
      · rw [List.mem_singleton] at new
        subst new
        rcases List.mem_iff_getElem?.mp inside with ⟨i, found⟩
        have bound := (List.getElem?_eq_some_iff.mp found).1
        exact ready.done i id (Nat.lt_of_lt_of_le bound (whole.trans through)) found
    · exact nofun
  · refine finished_result owner ⟨sound.histories, ?_, sound.sweep.finished,
      sound.sweep.serials, ?_, sound.sweep.once⟩ ⟨past.recorded, ?_⟩
    · rintro _ ⟨⟩ i id before found
      exact ready.done i id (Nat.lt_of_lt_of_le before through) found
    · rintro _ ⟨⟩ record member serial
      exact sound.sweep.current slice.snapshot ready.sweep record member serial
    · rintro _ ⟨⟩
      exact started

theorem cyclesSweepLoop_result (targets : List Principal)
    (owner : st.mainLockStateTs = some slice.tick.lease) (sound : CyclesSound capped st)
    (past : CyclesBy st slice.tick.nowNanos) (ready : SliceReady st slice targetIndex)
    (left : targets = CyclesState.sliceTargets slice targetIndex) :
    CyclesResult capped slice.tick (st.cyclesSweepLoop slice targets targetIndex) := by
  induction targets generalizing targetIndex with
  | nil =>
      have through : slice.sliceEnd ≤ targetIndex := by
        have short := List.drop_eq_nil_iff.mp left.symm
        rwa [List.length_take, Nat.min_eq_left ready.inside] at short
      exact endCyclesSlice_result owner sound past ready through
  | cons canisterId rest ih =>
      have target : slice.snapshot.canisters[targetIndex]? = some canisterId := by
        have front : (CyclesState.sliceTargets slice targetIndex)[0]? = some canisterId := by
          rw [← left]
          rfl
        rw [CyclesState.sliceTargets, List.getElem?_drop, List.getElem?_take] at front
        split at front
        · exact front
        · cases front
      have onward : rest = CyclesState.sliceTargets slice (targetIndex + 1) := by
        rw [CyclesState.sliceTargets, ← List.tail_drop, ← CyclesState.sliceTargets, ← left,
          List.tail_cons]
      simp only [CyclesState.cyclesSweepLoop]
      split
      · rename_i probed
        refine ih ⟨ready.sweep, ready.entries, ready.inside, ?_⟩ onward
        intro i id before found
        rcases Nat.lt_succ_iff_lt_or_eq.mp before with earlier | rfl
        · exact ready.done i id earlier found
        · cases target.symm.trans found
          exact (probedSince_iff st _ _).mp probed
      · rename_i unprobed
        refine ⟨sound, past, .inr ⟨_, rfl, rfl, owner, ready, target, ?_⟩⟩
        exact fun probed => unprobed ((probedSince_iff st _ _).mpr probed)

theorem startCyclesSweep_sound (selfId : Principal) (sound : CyclesSound capped st)
    (past : CyclesBy st tick.nowNanos) :
    CyclesSound capped (st.startCyclesSweep selfId tick) ∧
      CyclesBy (st.startCyclesSweep selfId tick) tick.nowNanos := by
  simp only [CyclesState.startCyclesSweep]
  split
  · exact ⟨sound, past⟩
  · refine ⟨⟨sound.histories, ?_, sound.sweep.finished, ?_, ?_, sound.sweep.once⟩, past.recorded, ?_⟩
    · rintro _ ⟨⟩ i id before
      exact absurd before (Nat.not_lt_zero i)
    · exact fun record member => (sound.sweep.serials record member).trans (Nat.le_succ _)
    · intro active _ record member serial
      have older := sound.sweep.serials record member
      dsimp only at serial
      omega
    · rintro _ ⟨⟩
      exact Nat.le_refl _

theorem processCyclesSweep_result (owner : st.mainLockStateTs = some tick.lease)
    (sound : CyclesSound capped st) (past : CyclesBy st tick.nowNanos) :
    CyclesResult capped tick (st.processCyclesSweep selfId tick) := by
  have started := startCyclesSweep_sound selfId sound past
  have held : (st.startCyclesSweep selfId tick).mainLockStateTs = some tick.lease := by
    simp only [CyclesState.startCyclesSweep]
    split
    · exact owner
    · exact owner
  simp only [CyclesState.processCyclesSweep, isCurrent_of_owner owner, Bool.not_true,
    Bool.false_eq_true, if_false]
  cases active : (st.startCyclesSweep selfId tick).activeCyclesSweep with
  | none => exact finished_result held started.1 started.2
  | some snapshot =>
      generalize kept : st.startCyclesSweep selfId tick = begun at active held started
      have ready : SliceReady begun
          { tick := tick
            maxEntries := begun.registry.config.maxCyclesEntriesPerCanister
            snapshot := snapshot
            sliceEnd := min (snapshot.nextIndex +
              max begun.registry.config.maxCanistersPerCyclesTick 1) snapshot.canisters.length }
          snapshot.nextIndex :=
        ⟨active, rfl, Nat.min_le_right _ _, started.1.sweep.probed snapshot active⟩
      exact cyclesSweepLoop_result _ held started.1 started.2 ready rfl

theorem samples_before_sweep {registry : RegistryState} {sweep : ActiveCyclesSweep}
    (histories : HistoriesSound capped registry)
    (unprobed : ¬ ProbedSince registry sweep.startedAtSecs canisterId) :
    ∀ sample ∈ registry.cyclesHistorySnapshot canisterId,
      sample.timestampNanos < sweep.startedAtTsNanos := by
  intro sample member
  rcases histories.seen canisterId sample member with ⟨last, known, upper⟩
  by_contra later
  have same := Nat.div_le_div_right (c := nanosPerSecond) (Nat.le_of_not_lt later)
  exact unprobed ⟨last, known, same.trans upper⟩

theorem recordSweepProbe_sound (outcome : RegistryState.CyclesProbeOutcome)
    (sound : CyclesSound capped st) (past : CyclesBy st slice.tick.nowNanos)
    (ready : SliceReady st slice targetIndex)
    (target : slice.snapshot.canisters[targetIndex]? = some canisterId)
    (unprobed : ¬ ProbedSince st.registry slice.snapshot.startedAtSecs canisterId) :
    CyclesSound capped (st.recordSweepProbe slice canisterId outcome) ∧
      CyclesBy (st.recordSweepProbe slice canisterId outcome) slice.tick.nowNanos ∧
      SliceReady (st.recordSweepProbe slice canisterId outcome) slice (targetIndex + 1) := by
  have started := past.started slice.snapshot ready.sweep
  have earlier := samples_before_sweep sound.histories unprobed
  have recorded : RecordedBy st.registry slice.snapshot.startedAtTsNanos canisterId := by
    refine ⟨fun sample member => (earlier sample member).le, fun last known => ?_⟩
    by_contra later
    exact unprobed ⟨last, known, Nat.le_of_not_le later⟩
  have records : st.registry.recordsCyclesProbe slice.snapshot.startedAtTsNanos canisterId
      outcome = true := recordsCyclesProbe_of_later earlier
  generalize after : st.registry.recordCyclesProbe slice.snapshot.startedAtTsNanos
    slice.tick.nowSecs canisterId slice.maxEntries outcome = registry
  have written : st.recordSweepProbe slice canisterId outcome = { st with
      registry := registry, sweepRecords := st.sweepRecords ++ [(st.sweepsBegun, canisterId)] } := by
    simp only [CyclesState.recordSweepProbe, records, if_true, after]
  have keeps : ∀ secs id, ProbedSince st.registry secs id → ProbedSince registry secs id := by
    subst after
    exact fun _ _ => recorded.keeps
  have probed : ProbedSince registry slice.snapshot.startedAtSecs canisterId := by
    subst after
    exact ⟨_, recordCyclesProbe_probes records, Nat.le_refl _⟩
  have kept := sound.sweep.keep keeps
  rw [written]
  refine ⟨⟨?_, kept.probed, kept.finished, ?_, ?_, ?_⟩, ⟨?_, past.started⟩, ready.sweep, ?_,
    ready.inside, ?_⟩
  · subst after
    exact sound.histories.record recorded ready.entries
  · intro record member
    rcases List.mem_append.mp member with old | new
    · exact sound.sweep.serials record old
    · rw [List.mem_singleton.mp new]
  · intro active found record member serial
    cases ready.sweep.symm.trans found
    rcases List.mem_append.mp member with old | new
    · exact kept.current slice.snapshot ready.sweep record old serial
    · rw [List.mem_singleton.mp new]
      exact probed
  · rw [List.nodup_append]
    refine ⟨sound.sweep.once, List.nodup_singleton _, fun record old other new same => ?_⟩
    rw [List.mem_singleton.mp new] at same
    subst same
    exact unprobed (sound.sweep.current slice.snapshot ready.sweep _ old rfl)
  · intro id
    subst after
    exact (past.recorded id).record started
  · subst after
    rw [ready.entries, RegistryState.config_recordCyclesProbe]
  · intro i id before found
    rcases Nat.lt_succ_iff_lt_or_eq.mp before with lower | rfl
    · exact keeps _ _ (ready.done i id lower found)
    · cases target.symm.trans found
      exact probed

theorem onSweepProbe_result (owner : st.mainLockStateTs = some slice.tick.lease)
    (sound : CyclesSound capped st) (past : CyclesBy st slice.tick.nowNanos)
    (ready : SliceReady st slice targetIndex)
    (target : slice.snapshot.canisters[targetIndex]? = some canisterId)
    (unprobed : ¬ ProbedSince st.registry slice.snapshot.startedAtSecs canisterId) :
    CyclesResult capped slice.tick (st.onSweepProbe slice targetIndex canisterId outcome) := by
  have fence : st.sweepFence slice targetIndex canisterId = true := by
    simp only [CyclesState.sweepFence, isCurrent_of_owner owner, ready.sweep, target, decide_true,
      Bool.and_self]
  have held : (st.recordSweepProbe slice canisterId outcome).mainLockStateTs =
    some slice.tick.lease := owner
  rcases recordSweepProbe_sound outcome sound past ready target unprobed with
    ⟨recorded, later, onward⟩
  simp only [CyclesState.onSweepProbe, fence, if_true, isCurrent_of_owner held, onward.sweep,
    decide_true, Bool.and_self]
  exact cyclesSweepLoop_result _ held recorded later onward rfl

theorem afterInitialProbes_result (owner : st.mainLockStateTs = some tick.lease)
    (sound : CyclesSound capped st) (past : CyclesBy st tick.nowNanos) (cyclesDue : Bool) :
    CyclesResult capped tick (st.afterInitialProbes selfId tick cyclesDue) := by
  simp only [CyclesState.afterInitialProbes, isCurrent_of_owner owner, Bool.not_true,
    Bool.false_eq_true, if_false]
  split
  · exact processCyclesSweep_result owner sound past
  · exact finished_result owner sound past

theorem initialProbesLoop_result (queue : List Principal)
    (owner : st.mainLockStateTs = some probes.tick.lease) (sound : CyclesSound capped st)
    (past : CyclesBy st probes.tick.nowNanos)
    (entries : probes.maxEntries = st.registry.config.maxCyclesEntriesPerCanister) :
    CyclesResult capped probes.tick (st.initialProbesLoop selfId probes queue) := by
  cases queue with
  | cons canisterId rest => exact ⟨sound, past, .inr ⟨_, rfl, rfl, owner, entries⟩⟩
  | nil =>
      simp only [CyclesState.initialProbesLoop]
      split
      · exact ⟨sound, past, .inr ⟨_, rfl, rfl, owner, trivial⟩⟩
      · exact afterInitialProbes_result owner sound past _

theorem processInitialCyclesProbeQueue_result (owner : st.mainLockStateTs = some tick.lease)
    (sound : CyclesSound capped st) (past : CyclesBy st tick.nowNanos) (cyclesDue : Bool) :
    CyclesResult capped tick (st.processInitialCyclesProbeQueue selfId tick cyclesDue) := by
  have filtered : ∀ queue, SameProbes st.registry
      { st.registry with initialCyclesProbeQueue := queue } := fun _ => .of_fields rfl rfl rfl
  simp only [CyclesState.processInitialCyclesProbeQueue]
  generalize probes : InitialProbes.mk tick cyclesDue _ _ = work
  have entries : work.maxEntries = st.registry.config.maxCyclesEntriesPerCanister := by
    rw [← probes]
  have same : work.tick = tick := by rw [← probes]
  rw [← same] at owner past ⊢
  exact initialProbesLoop_result _ owner (sound.registry (filtered _)) (past.registry (filtered _))
    entries

theorem onInitialProbe_result {rest : List Principal}
    (owner : st.mainLockStateTs = some probes.tick.lease) (sound : CyclesSound capped st)
    (past : CyclesBy st probes.tick.nowNanos)
    (entries : probes.maxEntries = st.registry.config.maxCyclesEntriesPerCanister) :
    CyclesResult capped probes.tick (st.onInitialProbe selfId probes canisterId rest outcome) := by
  have recorded := past.recorded canisterId
  have written : ∀ registry queue,
      registry = st.registry.recordCyclesProbe probes.tick.nowNanos probes.tick.nowSecs canisterId
        probes.maxEntries outcome →
      SameProbes registry { registry with initialCyclesProbeQueue := queue } :=
    fun _ _ _ => .of_fields rfl rfl rfl
  simp only [CyclesState.onInitialProbe, isCurrent_of_owner owner, Bool.not_true,
    Bool.false_eq_true, if_false]
  refine initialProbesLoop_result _ owner ⟨?_, ?_⟩ ⟨?_, past.started⟩ ?_
  · exact (sound.histories.record recorded entries).same (written _ _ rfl)
  · exact sound.sweep.keep fun _ _ probed => (recorded.keeps probed).same (written _ _ rfl)
  · exact fun id => ((past.recorded id).record (Nat.le_refl _)).same (written _ _ rfl)
  · rw [entries, RegistryState.config_recordCyclesProbe]

theorem resumeCycles_result (owner : st.mainLockStateTs = some kont.lease)
    (sound : CyclesSound capped st) (ready : CyclesReady st kont) :
    CyclesResult capped kont.tick (resumeCycles selfId st kont reply) := by
  have past := ready.past
  have promised := ready.promised
  have current := isCurrent_of_owner owner
  simp only [CyclesKont.lease] at current owner
  cases kont with
  | before tick =>
      simp only [resumeCycles, CyclesState.afterIndexing, CyclesKont.tick] at current ⊢
      rw [current]
      exact ⟨sound, past, .inr ⟨_, rfl, rfl, owner, trivial⟩⟩
  | snsDiscovery tick cyclesDue =>
      simp only [resumeCycles, CyclesState.afterSnsDiscovery, CyclesKont.tick] at current ⊢
      simp only [current, Bool.not_true, Bool.false_eq_true, if_false]
      split
      · exact afterInitialProbes_result owner sound past cyclesDue
      · exact processInitialCyclesProbeQueue_result owner sound past cyclesDue
  | stakeRefresh tick cyclesDue => exact afterInitialProbes_result owner sound past cyclesDue
  | initialProbe probes canisterId rest =>
      cases reply with
      | other => exact finished_result owner sound past
      | probed outcome => exact onInitialProbe_result owner sound past promised
  | sweepProbe slice targetIndex canisterId =>
      cases reply with
      | other => exact finished_result owner sound past
      | probed outcome =>
          exact onSweepProbe_result owner sound past promised.1 promised.2.1 promised.2.2

theorem resumeCycles_lost (lost : st.mainLockStateTs ≠ some kont.lease) :
    resumeCycles selfId st kont reply = (st, .done) := by
  have stale : st.isCurrent kont.lease = false := decide_eq_false lost
  have ended : st.finished kont.tick = (st, .done) := by
    simp only [CyclesState.finished, CyclesState.finish]
    exact congrArg (·, CyclesPause.done) (if_neg lost)
  simp only [CyclesKont.lease] at stale
  cases kont with
  | before tick =>
      simp only [resumeCycles, CyclesState.afterIndexing]
      rw [show st.isCurrent tick.lease = false from stale]
      exact ended
  | snsDiscovery tick cyclesDue =>
      simp only [resumeCycles, CyclesState.afterSnsDiscovery]
      rw [show st.isCurrent tick.lease = false from stale]
      exact ended
  | stakeRefresh tick cyclesDue =>
      simp only [resumeCycles, CyclesState.afterInitialProbes]
      rw [show st.isCurrent tick.lease = false from stale]
      exact ended
  | initialProbe probes canisterId rest =>
      cases reply with
      | other => exact ended
      | probed outcome =>
          simp only [resumeCycles, CyclesState.onInitialProbe]
          rw [show st.isCurrent probes.tick.lease = false from stale]
          exact ended
  | sweepProbe slice targetIndex canisterId =>
      cases reply with
      | other => exact ended
      | probed outcome =>
          have fence : st.sweepFence slice targetIndex canisterId = false := by
            simp only [CyclesState.sweepFence]
            rw [show st.isCurrent slice.tick.lease = false from stale]
            rfl
          simp only [resumeCycles, CyclesState.onSweepProbe, fence, Bool.false_eq_true, if_false]
          rw [show st.isCurrent slice.tick.lease = false from stale]
          exact ended

theorem mainTick_result {nowNanos : Nat} (sound : CyclesSound capped st) (past : CyclesBy st nowNanos)
    (force : Bool) (bounded : nowNanos ≤ u64Max) :
    st.mainTick force nowNanos = (st, .done) ∨
      ∃ lease, st.mainLockStateTs.getD 0 ≤ nowNanos / nanosPerSecond ∧
        nowNanos / nanosPerSecond < lease ∧
        CyclesResult capped ⟨lease, nowNanos⟩ (st.mainTick force nowNanos) := by
  simp only [CyclesState.mainTick]
  cases acquired : acquireLease (nowNanos / nanosPerSecond) mainTickLeaseSeconds
      st.mainLockStateTs with
  | none => exact .inl rfl
  | some lease =>
      have fits : nowNanos / nanosPerSecond + mainTickLeaseSeconds ≤ u64Max := by
        simp only [nanosPerSecond, mainTickLeaseSeconds, u64Max] at bounded ⊢
        omega
      rcases acquireLease_some (by decide) fits acquired with ⟨free, later⟩
      refine .inr ⟨lease, free, later, ?_⟩
      have held := sound.lock (some lease) st.lastMainRunTs
      have repaired := RegistryState.repair_sameProbes st.registry
      dsimp only
      split
      · exact finished_result rfl held ⟨past.recorded, past.started⟩
      · refine ⟨held.registry repaired, ?_, .inr ⟨_, rfl, rfl, rfl, trivial⟩⟩
        exact ⟨fun id => (past.recorded id).same repaired, past.started⟩

end Segments

/-! ## Runs -/

structure CyclesInvariant (capped : Prop) (sys : CyclesSystem) : Prop where
  leased : Base.Leased CyclesKont.lease sys.state.mainLockStateTs (sys.clock / nanosPerSecond) sys.tasks
  sound : CyclesSound capped sys.state
  past : CyclesBy sys.state sys.clock
  begun : sys.tasks.Holds fun kont => kont.tick.nowNanos ≤ sys.clock
  ready : sys.tasks.Holds
    (Fenced CyclesKont.lease sys.state.mainLockStateTs (CyclesReady sys.state))

section Runs

variable {sys : CyclesSystem} {id nowNanos : Nat} {selfId : Principal}

theorem invariant_of_cyclesTurn {tick : CyclesTick} {result : CyclesState × CyclesPause}
    (turn : Turn CyclesKont.lease sys.tasks id tick.lease (nowNanos / nanosPerSecond))
    (invariant : CyclesInvariant capped sys) (forward : sys.clock ≤ nowNanos)
    (begun : tick.nowNanos ≤ nowNanos) (segment : CyclesResult capped tick result) :
    CyclesInvariant capped (settleCycles sys id nowNanos result) := by
  rcases result with ⟨st, pause⟩
  rcases segment with ⟨sound, past, ⟨rfl, released⟩ | ⟨kont, rfl, rfl, held, promised⟩⟩
  · refine ⟨turn.stop _ (.inr released), sound, past.mono begun, ?_, ?_⟩
    · refine invariant.begun.put (fun _ none => by cases none) ?_
      exact fun _ _ _ _ earlier => earlier.trans forward
    · refine invariant.ready.put (fun _ none => by cases none) ?_
      exact fun other theirs different also _ => turn.others _ (.inr released) other theirs
        different also _
  · have awaits := turn.await kont rfl
    rw [show some kont.tick.lease = st.mainLockStateTs from held.symm] at awaits
    refine ⟨awaits, sound, past.mono begun, ?_, ?_⟩
    · refine invariant.begun.put ?_ fun _ _ _ _ earlier => earlier.trans forward
      rintro _ ⟨⟩
      exact begun
    · refine invariant.ready.put ?_ ?_
      · rintro _ ⟨⟩ _
        exact ⟨past, promised⟩
      · exact fun other theirs different also _ => turn.others _ (.inl held) other theirs
          different also _

theorem invariant_tick_cycles (invariant : CyclesInvariant capped sys) (vacant : sys.tasks id = none)
    (forward : sys.clock ≤ nowNanos) (bounded : nowNanos ≤ u64Max) (force : Bool) :
    CyclesInvariant capped (settleCycles sys id nowNanos (sys.state.mainTick force nowNanos)) := by
  have later : sys.clock / nanosPerSecond ≤ nowNanos / nanosPerSecond :=
    Nat.div_le_div_right forward
  rcases mainTick_result invariant.sound (invariant.past.mono forward) force bounded with
    busy | ⟨lease, free, fresh, segment⟩
  · rw [busy]
    simp only [settleCycles, Pool.put_vacant vacant]
    exact ⟨invariant.leased.tick later, invariant.sound, invariant.past.mono forward,
      invariant.begun.mono fun _ earlier => earlier.trans forward, invariant.ready⟩
  · exact invariant_of_cyclesTurn (invariant.leased.turn_of_acquire vacant later free fresh)
      invariant forward (Nat.le_refl _) segment

theorem invariant_resume_cycles (invariant : CyclesInvariant capped sys)
    (found : sys.tasks id = some kont) (forward : sys.clock ≤ nowNanos) (reply : CyclesReply) :
    CyclesInvariant capped
      (settleCycles sys id nowNanos (resumeCycles selfId sys.state kont reply)) := by
  have leased := invariant.leased.tick (Nat.div_le_div_right (c := nanosPerSecond) forward)
  by_cases owner : sys.state.mainLockStateTs = some kont.lease
  · have ready := invariant.ready id kont found owner
    exact invariant_of_cyclesTurn (leased.turn_of_owner found owner) invariant forward
      ((invariant.begun id kont found).trans forward)
      (resumeCycles_result owner invariant.sound ready)
  · rw [resumeCycles_lost owner]
    refine ⟨leased.stop found (.inl rfl), invariant.sound, invariant.past.mono forward, ?_, ?_⟩
    · refine invariant.begun.put (fun _ none => by cases none) ?_
      exact fun _ _ _ _ earlier => earlier.trans forward
    · exact invariant.ready.put (fun _ none => by cases none) fun _ _ _ _ ready => ready

theorem invariant_abandon_cycles (invariant : CyclesInvariant capped sys)
    (found : sys.tasks id = some kont) (cleanup : Bool) :
    CyclesInvariant capped { sys with
      state :=
        if cleanup then
          { sys.state with
            mainLockStateTs := releaseLease kont.lease sys.state.mainLockStateTs }
        else sys.state
      tasks := sys.tasks.put id none } := by
  have begun : (sys.tasks.put id none).Holds fun kont => kont.tick.nowNanos ≤ sys.clock :=
    invariant.begun.put (fun _ none => by cases none) fun _ _ _ _ earlier => earlier
  by_cases released : cleanup = true ∧ sys.state.mainLockStateTs = some kont.lease
  · rcases released with ⟨rfl, owner⟩
    have turn := invariant.leased.turn_of_owner found owner
    simp only [if_true, owner, releaseLease_held]
    refine ⟨turn.stop _ (.inr rfl), invariant.sound.lock _ _,
      ⟨invariant.past.recorded, invariant.past.started⟩, begun, ?_⟩
    refine invariant.ready.put (fun _ none => by cases none) ?_
    exact fun other theirs different also _ => turn.others _ (.inr rfl) other theirs different
      also _
  · have kept : (if cleanup then { sys.state with
          mainLockStateTs := releaseLease kont.lease sys.state.mainLockStateTs }
        else sys.state) = sys.state := by
      cases cleanup with
      | false => rfl
      | true =>
          have lost : sys.state.mainLockStateTs ≠ some kont.lease := fun owner =>
            released ⟨rfl, owner⟩
          simp only [if_true, releaseLease_lost lost]
    rw [kept]
    exact ⟨invariant.leased.stop found (.inl rfl), invariant.sound, invariant.past, begun,
      invariant.ready.put (fun _ none => by cases none) fun _ _ _ _ ready => ready⟩

theorem invariant_register_cycles (invariant : CyclesInvariant capped sys) (event : RegistryEvent) :
    CyclesInvariant capped { sys with
      state := { sys.state with registry := sys.state.registry.apply event } } := by
  have same := sys.state.registry.apply_sameProbes event
  refine ⟨invariant.leased, invariant.sound.registry same, invariant.past.registry same,
    invariant.begun, invariant.ready.mono fun kont ready owner => ?_⟩
  have before := ready owner
  exact ⟨before.past.registry same, before.promised.registry same⟩

/-- What an event finds and what it leaves. -/
inductive CyclesStep (selfId : Principal) (sys : CyclesSystem) :
    CyclesEvent → CyclesSystem → Prop
  | tick {id now : Nat} (force : Bool) (forward : sys.clock ≤ now) (bounded : now ≤ u64Max)
      (vacant : sys.tasks id = none) :
      CyclesStep selfId sys (.tick id force now)
        (settleCycles sys id now (sys.state.mainTick force now))
  | resume {id now : Nat} {kont : CyclesKont} (reply : CyclesReply)
      (found : sys.tasks id = some kont) (forward : sys.clock ≤ now) :
      CyclesStep selfId sys (.resume id reply now)
        (settleCycles sys id now (resumeCycles selfId sys.state kont reply))
  | abandon {id : Nat} {kont : CyclesKont} (cleanup : Bool) (found : sys.tasks id = some kont) :
      CyclesStep selfId sys (.abandon id cleanup) { sys with
        state :=
          if cleanup then
            { sys.state with
              mainLockStateTs := releaseLease kont.lease sys.state.mainLockStateTs }
          else sys.state
        tasks := sys.tasks.put id none }
  | register (event : RegistryEvent) :
      CyclesStep selfId sys (.register event) { sys with
        state := { sys.state with registry := sys.state.registry.apply event } }

theorem stepCycles_cases (taken : stepCycles selfId sys event = some next) :
    CyclesStep selfId sys event next := by
  cases event with
  | tick id force now =>
      rcases Option.ite_none_right_eq_some.mp taken with ⟨admitted, settled⟩
      simp only [cyclesClockAdmits, Bool.and_eq_true, decide_eq_true_eq,
        Option.isNone_iff_eq_none] at admitted
      cases settled
      exact .tick force admitted.1.1 admitted.1.2 admitted.2
  | resume id reply now =>
      simp only [stepCycles] at taken
      split at taken
      · cases taken
      · rename_i kont found
        rcases Option.ite_none_right_eq_some.mp taken with ⟨admitted, settled⟩
        simp only [cyclesClockAdmits, Bool.and_eq_true, decide_eq_true_eq] at admitted
        cases settled
        exact .resume reply found admitted.1.1
  | abandon id cleanup =>
      simp only [stepCycles] at taken
      split at taken
      · cases taken
      · rename_i kont found
        cases taken
        exact .abandon cleanup found
  | register event =>
      cases taken
      exact .register event

theorem invariant_step_cycles (invariant : CyclesInvariant capped sys)
    (taken : stepCycles selfId sys event = some next) :
    CyclesInvariant capped next := by
  cases stepCycles_cases taken with
  | tick force forward bounded vacant =>
      exact invariant_tick_cycles invariant vacant forward bounded force
  | resume reply found forward => exact invariant_resume_cycles invariant found forward reply
  | abandon cleanup found => exact invariant_abandon_cycles invariant found cleanup
  | register event => exact invariant_register_cycles invariant event

theorem invariant_installed_cycles (config : RegistryConfig) (nowSecs nowNanos : Nat) :
    CyclesInvariant capped
      ⟨CyclesState.new (RegistryState.installed config) nowSecs, Pool.empty, nowNanos⟩ := by
  have unprobed := unprobed_installed config
  refine ⟨.empty _ _, ⟨unprobed.sound, ?_⟩, ⟨unprobed.recordedBy nowNanos, ?_⟩,
    Pool.holds_empty _, Pool.holds_empty _⟩
  · constructor
    · exact nofun
    · exact nofun
    · exact nofun
    · exact nofun
    · exact List.nodup_nil
  · exact nofun

theorem reachable_cyclesInvariant (reachable : (cyclesMachine selfId).Reachable sys) :
    CyclesInvariant True sys := by
  refine (cyclesMachine selfId).reachable_invariant (CyclesInvariant True) ?_ ?_ reachable
  · rintro start ⟨config, nowSecs, nowNanos, rfl⟩
    exact invariant_installed_cycles config nowSecs nowNanos
  · exact fun _ _ _ invariant taken => invariant_step_cycles invariant taken

end Runs

/-! ## The end of a sweep -/

/-- A sweep that was active is still active, or was finished with its list. -/
def SweepOnward (active : Option ActiveCyclesSweep) (after : CyclesState) : Prop :=
  ∀ known, active = some known →
    (∃ nextIndex, after.activeCyclesSweep = some { known with nextIndex := nextIndex }) ∨
      ∃ nextIndex, { known with nextIndex := nextIndex } ∈ after.finishedSweeps

section Onward

variable (st : CyclesState) {tick : CyclesTick} {selfId : Principal}

theorem SweepOnward.of_same {after : CyclesState} (same : after.activeCyclesSweep = active) :
    SweepOnward active after :=
  fun known found => .inl ⟨known.nextIndex, same.trans found⟩

theorem finished_active (tick : CyclesTick) :
    (st.finished tick).1.activeCyclesSweep = st.activeCyclesSweep ∧
      (st.finished tick).1.finishedSweeps = st.finishedSweeps := by
  simp only [CyclesState.finished, CyclesState.finish]
  split
  · exact ⟨rfl, rfl⟩
  · exact ⟨rfl, rfl⟩

theorem finished_onward (tick : CyclesTick) :
    SweepOnward st.activeCyclesSweep (st.finished tick).1 :=
  .of_same (finished_active st tick).1

theorem cyclesSweepLoop_onward (slice : SweepSlice) (targets : List Principal) (targetIndex : Nat) :
    SweepOnward st.activeCyclesSweep (st.cyclesSweepLoop slice targets targetIndex).1 := by
  induction targets generalizing targetIndex with
  | nil =>
      intro known found
      simp only [CyclesState.cyclesSweepLoop]
      rw [(finished_active _ slice.tick).1, (finished_active _ slice.tick).2]
      simp only [CyclesState.endCyclesSlice]
      split
      · rename_i current
        cases current.2.symm.trans found
        split
        · exact .inr ⟨_, List.mem_append_right _ List.mem_cons_self⟩
        · exact .inl ⟨_, rfl⟩
      · exact .inl ⟨known.nextIndex, found⟩
  | cons canisterId rest ih =>
      simp only [CyclesState.cyclesSweepLoop]
      split
      · exact ih (targetIndex + 1)
      · exact .of_same rfl

theorem processCyclesSweep_onward :
    SweepOnward st.activeCyclesSweep (st.processCyclesSweep selfId tick).1 := by
  cases active : st.activeCyclesSweep with
  | none => exact nofun
  | some sweep =>
      have begun : st.startCyclesSweep selfId tick = st := by
        simp only [CyclesState.startCyclesSweep, active]
      rw [← active]
      simp only [CyclesState.processCyclesSweep, begun]
      split
      · exact finished_onward st tick
      · split
        · exact finished_onward st tick
        · exact cyclesSweepLoop_onward st _ _ _

theorem afterInitialProbes_onward (cyclesDue : Bool) :
    SweepOnward st.activeCyclesSweep (st.afterInitialProbes selfId tick cyclesDue).1 := by
  simp only [CyclesState.afterInitialProbes]
  split
  · exact finished_onward st tick
  · split
    · exact processCyclesSweep_onward st
    · exact finished_onward st tick

theorem initialProbesLoop_onward (probes : InitialProbes) (queue : List Principal)
    (same : st.activeCyclesSweep = active) :
    SweepOnward active (st.initialProbesLoop selfId probes queue).1 := by
  subst same
  cases queue with
  | cons canisterId rest => exact .of_same rfl
  | nil =>
      simp only [CyclesState.initialProbesLoop]
      split
      · exact .of_same rfl
      · exact afterInitialProbes_onward st _

theorem resumeCycles_onward (kont : CyclesKont) (reply : CyclesReply) :
    SweepOnward st.activeCyclesSweep (resumeCycles selfId st kont reply).1 := by
  cases kont with
  | before tick =>
      simp only [resumeCycles, CyclesState.afterIndexing]
      split
      · exact finished_onward st tick
      · exact .of_same rfl
  | snsDiscovery tick cyclesDue =>
      simp only [resumeCycles, CyclesState.afterSnsDiscovery]
      split
      · exact finished_onward st tick
      · split
        · exact afterInitialProbes_onward st cyclesDue
        · simp only [CyclesState.processInitialCyclesProbeQueue]
          apply initialProbesLoop_onward
          rfl
  | stakeRefresh tick cyclesDue => exact afterInitialProbes_onward st cyclesDue
  | initialProbe probes canisterId rest =>
      cases reply with
      | other => exact finished_onward st _
      | probed outcome =>
          simp only [resumeCycles, CyclesState.onInitialProbe]
          split
          · exact finished_onward st _
          · apply initialProbesLoop_onward
            rfl
  | sweepProbe slice targetIndex canisterId =>
      cases reply with
      | other => exact finished_onward st _
      | probed outcome =>
          simp only [resumeCycles, CyclesState.onSweepProbe]
          generalize written : (if st.sweepFence slice targetIndex canisterId = true then
            st.recordSweepProbe slice canisterId outcome else st) = after
          have same : after.activeCyclesSweep = st.activeCyclesSweep := by
            subst written
            split
            · rfl
            · rfl
          rw [← same]
          split
          · exact cyclesSweepLoop_onward after _ _ _
          · exact finished_onward after _

theorem mainTick_onward (force : Bool) (nowNanos : Nat) :
    SweepOnward st.activeCyclesSweep (st.mainTick force nowNanos).1 := by
  simp only [CyclesState.mainTick]
  split
  · exact .of_same rfl
  · split
    · exact .of_same (finished_active _ _).1
    · exact .of_same rfl

theorem settleCycles_state (sys : CyclesSystem) (id nowNanos : Nat)
    (result : CyclesState × CyclesPause) :
    (settleCycles sys id nowNanos result).state = result.1 := by
  rcases result with ⟨after, pause⟩
  cases pause with
  | done => rfl
  | await kont => rfl

theorem stepCycles_onward {sys : CyclesSystem} (taken : stepCycles selfId sys event = some next) :
    SweepOnward sys.state.activeCyclesSweep next.state := by
  cases stepCycles_cases taken with
  | tick force =>
      rw [settleCycles_state]
      exact mainTick_onward _ force _
  | resume reply =>
      rw [settleCycles_state]
      exact resumeCycles_onward _ _ reply
  | abandon cleanup =>
      apply SweepOnward.of_same
      split
      · rfl
      · rfl
  | register event => exact .of_same rfl

end Onward

/-- Each canister's history and each sweep, in one state of a run. -/
structure CyclesHistoriesSound (selfId : Principal) (sys : CyclesSystem) : Prop where
  ascending : ∀ id, (sys.state.registry.cyclesHistorySnapshot id).Pairwise fun first second =>
    first.timestampNanos < second.timestampNanos
  few : ∀ id, (sys.state.registry.cyclesHistorySnapshot id).length ≤
    sys.state.registry.config.maxCyclesEntriesPerCanister
  once : sys.state.sweepRecords.Nodup
  complete : ∀ sweep ∈ sys.state.finishedSweeps, ∀ id ∈ sweep.canisters, ∃ last result,
    sys.state.registry.lastCyclesProbeTs id = some last ∧
      (sys.state.registry.metaOf id).lastCyclesProbeResult = some result ∧
      sweep.startedAtSecs ≤ last
  ends : ∀ event next, stepCycles selfId sys event = some next → ∀ sweep,
    sys.state.activeCyclesSweep = some sweep → next.state.activeCyclesSweep = none →
      ∀ id ∈ sweep.canisters, ∃ last result,
        next.state.registry.lastCyclesProbeTs id = some last ∧
          (next.state.registry.metaOf id).lastCyclesProbeResult = some result ∧
          sweep.startedAtSecs ≤ last

theorem HistoriesSound.probe {st : RegistryState} (sound : HistoriesSound capped st) {secs : Nat}
    {id : Principal} (probed : ProbedSince st secs id) : ∃ last result,
      st.lastCyclesProbeTs id = some last ∧
        (st.metaOf id).lastCyclesProbeResult = some result ∧ secs ≤ last := by
  rcases probed with ⟨last, known, upper⟩
  have present : (st.lastCyclesProbeTs id).isSome = true := by
    rw [known]
    rfl
  rcases Option.isSome_iff_exists.mp (sound.result id present) with ⟨result, kept⟩
  exact ⟨last, result, known, kept, upper⟩

theorem cycles_histories_sound {selfId : Principal} {sys : CyclesSystem}
    (reachable : (cyclesMachine selfId).Reachable sys) : CyclesHistoriesSound selfId sys := by
  have invariant := reachable_cyclesInvariant reachable
  have histories := invariant.sound.histories
  constructor
  · exact histories.ascending
  · exact histories.few trivial
  · exact invariant.sound.sweep.once
  · intro sweep member id inside
    exact histories.probe (invariant.sound.sweep.finished sweep member id inside)
  · intro event next taken sweep active gone id inside
    have after := invariant_step_cycles invariant taken
    rcases stepCycles_onward taken sweep active with ⟨_, still⟩ | ⟨nextIndex, ended⟩
    · rw [gone] at still
      cases still
    · exact after.sound.histories.probe (after.sound.sweep.finished _ ended id inside)

section Sample

def sampleHistorian : Principal := ⟨[0, 0, 0, 0, 2, 48, 14, 60, 1, 1]⟩

def sampleMember : Principal := ⟨[0, 0, 0, 0, 2, 48, 15, 36, 1, 1]⟩

def sampleRegistryConfig : RegistryConfig where
  maxCyclesEntriesPerCanister := 2
  maxCommitmentEntriesPerCanister := 100
  maxCanistersPerCyclesTick := 1
  cyclesIntervalSeconds := 3600
  scanIntervalSeconds := 600
  canonicalRelayCanisterId := none
  canonicalRelayTargets := []

def cyclesSampleStart : CyclesSystem where
  state := .new (RegistryState.installed sampleRegistryConfig) 1700000000
  tasks := Pool.empty
  clock := 1700000000000000000

/-- The first tick probes the member from the queue and loses its lease while it sweeps; the second
finishes its sweep. The next sweep takes a tick for each of its two canisters. -/
def cyclesSampleEvents : List CyclesEvent :=
  [.register (.snsMembership [sampleMember] 1700000000),
    .tick 1 true 1700000001000000000,
    .resume 1 .other 1700000002000000000,
    .resume 1 .other 1700000003000000000,
    .resume 1 (.probed (.ok 5000000000000 (some .directCanisterStatus))) 1700000004000000000,
    .tick 2 true 1700003601000000000,
    .resume 2 .other 1700003602000000000,
    .resume 2 .other 1700003603000000000,
    .resume 2 (.probed (.ok 7000000000000 none)) 1700003604000000000,
    .resume 1 (.probed (.ok 6000000000000 none)) 1700003605000000000,
    .tick 3 true 1700007301000000000,
    .resume 3 .other 1700007302000000000,
    .resume 3 .other 1700007303000000000,
    .resume 3 (.probed (.ok 4000000000000 none)) 1700007304000000000,
    .tick 4 true 1700007901000000000,
    .resume 4 .other 1700007902000000000,
    .resume 4 .other 1700007903000000000,
    .resume 4 (.probed (.err "unreachable")) 1700007904000000000]

def cyclesSampleEnd : CyclesSystem :=
  ((cyclesMachine sampleHistorian).run cyclesSampleStart cyclesSampleEvents).getD cyclesSampleStart

theorem cyclesSample_reachable : (cyclesMachine sampleHistorian).Reachable cyclesSampleEnd :=
  (cyclesMachine sampleHistorian).reachable_getD ⟨_, _, _, rfl⟩ (by decide +kernel)

theorem cycles_histories_sound_two_sweeps :
    (cyclesSampleEnd.state.finishedSweeps.map ActiveCyclesSweep.canisters =
        [[sampleHistorian], [sampleHistorian, sampleMember]] ∧
      cyclesSampleEnd.state.sweepRecords =
        [(1, sampleHistorian), (2, sampleHistorian), (2, sampleMember)]) ∧
      CyclesHistoriesSound sampleHistorian cyclesSampleEnd := by
  refine ⟨⟨?_, ?_⟩, cycles_histories_sound cyclesSample_reachable⟩
  · decide +kernel
  · decide +kernel

end Sample

end JupiterSuite.Historian.Registry
