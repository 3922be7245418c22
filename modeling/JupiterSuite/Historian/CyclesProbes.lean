import JupiterSuite.Historian.RegistryUpdates

/-! The historian's main ticks around the cycles probes: the queue of canisters that were never
probed, and the sweep over all of them in slices. -/

namespace JupiterSuite.Historian.Registry

open Base

structure ActiveCyclesSweep where
  startedAtTsNanos : Nat
  canisters : List Principal
  nextIndex : Nat
  deriving DecidableEq, Repr

def ActiveCyclesSweep.startedAtSecs (sweep : ActiveCyclesSweep) : Nat :=
  sweep.startedAtTsNanos / nanosPerSecond

structure CyclesState where
  registry : RegistryState
  activeCyclesSweep : Option ActiveCyclesSweep
  lastCompletedCyclesSweepTs : Nat
  lastMainRunTs : Nat
  mainLockStateTs : Option Nat
  -- no code reads these: how many sweeps began, what each recorded and which were finished
  sweepsBegun : Nat
  sweepRecords : List (Nat × Principal)
  finishedSweeps : List ActiveCyclesSweep
  deriving DecidableEq

def CyclesState.new (registry : RegistryState) (nowSecs : Nat) : CyclesState where
  registry := registry
  activeCyclesSweep := none
  lastCompletedCyclesSweepTs := 0
  lastMainRunTs := nowSecs - 10 * 365 * 24 * 60 * 60
  mainLockStateTs := some 0
  sweepsBegun := 0
  sweepRecords := []
  finishedSweeps := []

structure CyclesTick where
  lease : Nat
  nowNanos : Nat
  deriving DecidableEq, Repr

def CyclesTick.nowSecs (tick : CyclesTick) : Nat := tick.nowNanos / nanosPerSecond

structure InitialProbes where
  tick : CyclesTick
  cyclesDue : Bool
  maxEntries : Nat
  shouldRefreshStake : Bool
  deriving DecidableEq, Repr

/-- A slice of a sweep: the snapshot that it works on, and where it ends. -/
structure SweepSlice where
  tick : CyclesTick
  maxEntries : Nat
  snapshot : ActiveCyclesSweep
  sliceEnd : Nat
  deriving DecidableEq, Repr

inductive CyclesKont where
  -- the rate, the commitments and the routes
  | before (tick : CyclesTick)
  | snsDiscovery (tick : CyclesTick) (cyclesDue : Bool)
  | initialProbe (probes : InitialProbes) (canisterId : Principal) (rest : List Principal)
  | stakeRefresh (tick : CyclesTick) (cyclesDue : Bool)
  | sweepProbe (slice : SweepSlice) (targetIndex : Nat) (canisterId : Principal)
  deriving DecidableEq, Repr

def CyclesKont.tick : CyclesKont → CyclesTick
  | .before tick | .snsDiscovery tick _ | .stakeRefresh tick _ => tick
  | .initialProbe probes _ _ => probes.tick
  | .sweepProbe slice _ _ => slice.tick

def CyclesKont.lease (kont : CyclesKont) : Nat := kont.tick.lease

inductive CyclesPause where
  | done
  | await (kont : CyclesKont)
  deriving DecidableEq, Repr

namespace CyclesState

variable (st : CyclesState)

def isCurrent (lease : Nat) : Bool := decide (st.mainLockStateTs = some lease)

/-- `guard.finish`: the run counts only if it still holds its lease. -/
def finish (tick : CyclesTick) : CyclesState :=
  if st.mainLockStateTs = some tick.lease then
    { st with lastMainRunTs := tick.nowSecs, mainLockStateTs := some 0 }
  else st

def finished (tick : CyclesTick) : CyclesState × CyclesPause := (st.finish tick, .done)

/-! ## The sweep -/

def ordinaryCyclesSweepEligible (nowSecs : Nat) (canisterId : Principal) : Bool :=
  (st.registry.visibleTrackingReasonsForCanister canisterId).isSome &&
    decide (st.registry.lastCyclesProbeTs canisterId ≠ some nowSecs)

/-- The historian itself first; the known set lists a canister once. -/
def buildCyclesSweepCanisters (selfId : Principal) (nowSecs : Nat) : List Principal :=
  selfId :: st.registry.distinctCanisters.keys.filter fun canisterId =>
    st.ordinaryCyclesSweepEligible nowSecs canisterId && decide (canisterId ≠ selfId)

def probedSince (startedAtSecs : Nat) (canisterId : Principal) : Bool :=
  (st.registry.lastCyclesProbeTs canisterId).any fun last => decide (startedAtSecs ≤ last)

/-- The slice is done: the sweep goes on behind it, or is complete. -/
def endCyclesSlice (slice : SweepSlice) : CyclesState :=
  if st.isCurrent slice.tick.lease = true ∧ st.activeCyclesSweep = some slice.snapshot then
    let active := { slice.snapshot with nextIndex := slice.sliceEnd }
    if active.canisters.length ≤ slice.sliceEnd then
      { st with
        activeCyclesSweep := none
        lastCompletedCyclesSweepTs := slice.tick.nowSecs
        finishedSweeps := st.finishedSweeps ++ [active] }
    else { st with activeCyclesSweep := some active }
  else st

/-- The loop over the targets of a slice from an index on: the next one that was not probed since
the sweep started is probed. -/
def cyclesSweepLoop (slice : SweepSlice) : List Principal → Nat → CyclesState × CyclesPause
  | [], _ => (st.endCyclesSlice slice).finished slice.tick
  | canisterId :: rest, targetIndex =>
      if st.probedSince slice.snapshot.startedAtSecs canisterId then
        cyclesSweepLoop slice rest (targetIndex + 1)
      else (st, .await (.sweepProbe slice targetIndex canisterId))

def sliceTargets (slice : SweepSlice) (targetIndex : Nat) : List Principal :=
  (slice.snapshot.canisters.take slice.sliceEnd).drop targetIndex

def startCyclesSweep (selfId : Principal) (tick : CyclesTick) : CyclesState :=
  match st.activeCyclesSweep with
  | some _ => st
  | none => { st with
      activeCyclesSweep := some
        ⟨tick.nowNanos, st.buildCyclesSweepCanisters selfId tick.nowSecs, 0⟩
      sweepsBegun := st.sweepsBegun + 1 }

def processCyclesSweep (selfId : Principal) (tick : CyclesTick) : CyclesState × CyclesPause :=
  if !st.isCurrent tick.lease then st.finished tick
  else
    let st := st.startCyclesSweep selfId tick
    match st.activeCyclesSweep with
    | none => st.finished tick
    | some snapshot =>
        let slice : SweepSlice :=
          { tick := tick
            maxEntries := st.registry.config.maxCyclesEntriesPerCanister
            snapshot := snapshot
            sliceEnd := min (snapshot.nextIndex + max st.registry.config.maxCanistersPerCyclesTick 1)
              snapshot.canisters.length }
        st.cyclesSweepLoop slice (sliceTargets slice snapshot.nextIndex) snapshot.nextIndex

/-- `CyclesProbeFence::Sweep`. -/
def sweepFence (slice : SweepSlice) (targetIndex : Nat) (canisterId : Principal) : Bool :=
  st.isCurrent slice.tick.lease && decide (st.activeCyclesSweep = some slice.snapshot) &&
    decide (slice.snapshot.canisters[targetIndex]? = some canisterId)

def recordSweepProbe (slice : SweepSlice) (canisterId : Principal)
    (outcome : RegistryState.CyclesProbeOutcome) : CyclesState :=
  let startedAt := slice.snapshot.startedAtTsNanos
  { st with
    registry := st.registry.recordCyclesProbe startedAt slice.tick.nowSecs canisterId
      slice.maxEntries outcome
    sweepRecords :=
      if st.registry.recordsCyclesProbe startedAt canisterId outcome then
        st.sweepRecords ++ [(st.sweepsBegun, canisterId)]
      else st.sweepRecords }

def onSweepProbe (slice : SweepSlice) (targetIndex : Nat) (canisterId : Principal)
    (outcome : RegistryState.CyclesProbeOutcome) : CyclesState × CyclesPause :=
  let st :=
    if st.sweepFence slice targetIndex canisterId then
      st.recordSweepProbe slice canisterId outcome
    else st
  if st.isCurrent slice.tick.lease && decide (st.activeCyclesSweep = some slice.snapshot) then
    st.cyclesSweepLoop slice (sliceTargets slice (targetIndex + 1)) (targetIndex + 1)
  else st.finished slice.tick

/-! ## The queue of first probes -/

def shouldProbeTrackedCanister (canisterId : Principal) : Bool :=
  (st.registry.visibleTrackingReasonsForCanister canisterId).isSome

def shouldRefreshStakingNeuronForCanister (canisterId : Principal) : Bool :=
  (st.registry.visibleTrackingReasonsForCanister canisterId).any fun reasons =>
    reasons.contains .memoCommitment

def afterInitialProbes (selfId : Principal) (tick : CyclesTick) (cyclesDue : Bool) :
    CyclesState × CyclesPause :=
  if !st.isCurrent tick.lease then st.finished tick
  else if cyclesDue then st.processCyclesSweep selfId tick
  else st.finished tick

def initialProbesLoop (selfId : Principal) (probes : InitialProbes) :
    List Principal → CyclesState × CyclesPause
  | canisterId :: rest => (st, .await (.initialProbe probes canisterId rest))
  | [] =>
      if probes.shouldRefreshStake && st.isCurrent probes.tick.lease then
        (st, .await (.stakeRefresh probes.tick probes.cyclesDue))
      else st.afterInitialProbes selfId probes.tick probes.cyclesDue

def processInitialCyclesProbeQueue (selfId : Principal) (tick : CyclesTick) (cyclesDue : Bool) :
    CyclesState × CyclesPause :=
  let queue := st.registry.initialCyclesProbeQueue.filter fun canisterId =>
    (st.registry.lastCyclesProbeTs canisterId).isNone && st.shouldProbeTrackedCanister canisterId
  let st := { st with registry := { st.registry with initialCyclesProbeQueue := queue } }
  let selected := queue.take (max st.registry.config.maxCanistersPerCyclesTick 1)
  st.initialProbesLoop selfId
    { tick := tick
      cyclesDue := cyclesDue
      maxEntries := st.registry.config.maxCyclesEntriesPerCanister
      shouldRefreshStake := selected.any st.shouldRefreshStakingNeuronForCanister } selected

def onInitialProbe (selfId : Principal) (probes : InitialProbes) (canisterId : Principal)
    (rest : List Principal) (outcome : RegistryState.CyclesProbeOutcome) :
    CyclesState × CyclesPause :=
  -- the fence, and the checks of the loop after it
  if !st.isCurrent probes.tick.lease then st.finished probes.tick
  else
    let registry := st.registry.recordCyclesProbe probes.tick.nowNanos probes.tick.nowSecs
      canisterId probes.maxEntries outcome
    let st := { st with
      registry := { registry with
        initialCyclesProbeQueue := registry.initialCyclesProbeQueue.erase canisterId } }
    st.initialProbesLoop selfId probes rest

/-! ## The tick -/

def afterSnsDiscovery (selfId : Principal) (tick : CyclesTick) (cyclesDue : Bool) :
    CyclesState × CyclesPause :=
  if !st.isCurrent tick.lease then st.finished tick
  else if st.registry.initialCyclesProbeQueue.isEmpty then
    st.afterInitialProbes selfId tick cyclesDue
  else st.processInitialCyclesProbeQueue selfId tick cyclesDue

/-- Whether the sweep is due is read before the discovery of SNS canisters. -/
def afterIndexing (tick : CyclesTick) : CyclesState × CyclesPause :=
  if !st.isCurrent tick.lease then st.finished tick
  else
    let cyclesDue := st.activeCyclesSweep.isSome ||
      decide (st.registry.config.cyclesIntervalSeconds ≤
        tick.nowSecs - st.lastCompletedCyclesSweepTs)
    (st, .await (.snsDiscovery tick cyclesDue))

def mainTick (force : Bool) (nowNanos : Nat) : CyclesState × CyclesPause :=
  let nowSecs := nowNanos / nanosPerSecond
  match acquireLease nowSecs mainTickLeaseSeconds st.mainLockStateTs with
  | none => (st, .done)
  | some lease =>
      let st := { st with mainLockStateTs := some lease }
      if !force && decide (nowSecs - st.lastMainRunTs <
          st.registry.config.scanIntervalSeconds - 5) then
        st.finished ⟨lease, nowNanos⟩
      else
        ({ st with registry := repairMemoRegisteredCanisterSummariesIfInvalid st.registry },
          .await (.before ⟨lease, nowNanos⟩))

end CyclesState

inductive CyclesReply where
  | other
  | probed (outcome : RegistryState.CyclesProbeOutcome)
  deriving DecidableEq, Repr

def cyclesReplyAdmits : CyclesKont → CyclesReply → Bool
  | .initialProbe _ _ _, .probed _ | .sweepProbe _ _ _, .probed _ => true
  | .before _, .other | .snsDiscovery _ _, .other | .stakeRefresh _ _, .other => true
  | _, _ => false

def resumeCycles (selfId : Principal) (st : CyclesState) : CyclesKont → CyclesReply →
    CyclesState × CyclesPause
  | .before tick, _ => st.afterIndexing tick
  | .snsDiscovery tick cyclesDue, _ => st.afterSnsDiscovery selfId tick cyclesDue
  | .stakeRefresh tick cyclesDue, _ => st.afterInitialProbes selfId tick cyclesDue
  | .initialProbe probes canisterId rest, .probed outcome =>
      st.onInitialProbe selfId probes canisterId rest outcome
  | .sweepProbe slice targetIndex canisterId, .probed outcome =>
      st.onSweepProbe slice targetIndex canisterId outcome
  | kont, .other => st.finished kont.tick

inductive RegistryEvent where
  | commitment (commitment : IndexedCommitment) (timestampNanos : Option Nat) (nowSecs : Nat)
  | snsMembership (canisterIds : List Principal) (nowSecs : Nat)
  | relay (targets : List Principal) (relayId : Principal) (nowSecs : Nat)
  deriving DecidableEq, Repr

def RegistryState.apply (st : RegistryState) : RegistryEvent → RegistryState
  | .commitment commitment timestampNanos nowSecs =>
      st.applyIndexedCommitment commitment timestampNanos nowSecs
  | .snsMembership canisterIds nowSecs => st.registerSnsMembership canisterIds nowSecs
  | .relay targets relayId nowSecs => targets.foldl
      (fun st target => st.markActiveRelayTracked target relayId (some nowSecs)) st

structure CyclesSystem where
  state : CyclesState
  tasks : Pool CyclesKont
  clock : Nat

inductive CyclesEvent where
  | tick (id : Nat) (force : Bool) (nowNanos : Nat)
  | resume (id : Nat) (reply : CyclesReply) (nowNanos : Nat)
  -- The continuation never runs again; after a trap its cleanup still drops the guard.
  | abandon (id : Nat) (cleanup : Bool)
  | register (event : RegistryEvent)
  deriving DecidableEq, Repr

def settleCycles (sys : CyclesSystem) (id nowNanos : Nat) :
    CyclesState × CyclesPause → CyclesSystem
  | (st, .done) => { state := st, tasks := sys.tasks.put id none, clock := nowNanos }
  | (st, .await kont) => { state := st, tasks := sys.tasks.put id (some kont), clock := nowNanos }

def cyclesClockAdmits (clock nowNanos : Nat) : Bool :=
  decide (clock ≤ nowNanos) && decide (nowNanos ≤ u64Max)

def stepCycles (selfId : Principal) (sys : CyclesSystem) : CyclesEvent → Option CyclesSystem
  | .tick id force now =>
      if cyclesClockAdmits sys.clock now && (sys.tasks id).isNone then
        some (settleCycles sys id now (sys.state.mainTick force now))
      else none
  | .resume id reply now =>
      match sys.tasks id with
      | none => none
      | some kont =>
          if cyclesClockAdmits sys.clock now && cyclesReplyAdmits kont reply then
            some (settleCycles sys id now (resumeCycles selfId sys.state kont reply))
          else none
  | .abandon id cleanup =>
      match sys.tasks id with
      | none => none
      | some kont => some { sys with
          state :=
            if cleanup then
              { sys.state with
                mainLockStateTs := releaseLease kont.lease sys.state.mainLockStateTs }
            else sys.state
          tasks := sys.tasks.put id none }
  | .register event =>
      some { sys with
        state := { sys.state with registry := sys.state.registry.apply event } }

/-- The historian is installed with some configuration, at some time. -/
def cyclesMachine (selfId : Principal) : Machine CyclesSystem CyclesEvent where
  init := fun sys => ∃ config nowSecs nowNanos,
    sys = ⟨CyclesState.new (RegistryState.installed config) nowSecs, Pool.empty, nowNanos⟩
  step := stepCycles selfId

end JupiterSuite.Historian.Registry
