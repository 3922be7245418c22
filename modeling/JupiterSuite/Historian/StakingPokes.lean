import JupiterSuite.Historian.CommitmentSystem

/-! Staking pokes of the historian. A poke tries to index at once and leaves one deferred check;
both need the cooldown to be over and the commitment index lease to be free, and a scheduled
run, which needs no cooldown, takes the lease away from a poke. -/

namespace JupiterSuite.Historian

open Base CommitmentEnv

def endowmentPokeIntervalNs : Nat := endowmentPokeMinIntervalSeconds * nanosPerSecond

structure PokeDeferredState where
  dueAtNs : Option Nat
  timerPending : Bool
  deriving DecidableEq, Repr

/-- Whether a deferred timer has to be set. A hint that finds one pending shares its deadline. -/
def recordPokeHint (deferred : PokeDeferredState) (nowNs : Nat) : PokeDeferredState × Bool :=
  if deferred.timerPending then (deferred, false)
  else (⟨some (satAdd u64Max nowNs endowmentPokeIntervalNs), true⟩, true)

inductive DeferredTimerAction where
  | stop
  | reschedule (remaining : Nat)
  | check
  deriving DecidableEq, Repr

def deferredTimerAction (deferred : PokeDeferredState) (nowNs : Nat) :
    PokeDeferredState × DeferredTimerAction :=
  match deferred.dueAtNs with
  | some due =>
      if due > nowNs then (deferred, .reschedule (due - nowNs)) else (⟨none, false⟩, .check)
  | none => ({ deferred with timerPending := false }, .stop)

structure PokeState where
  endowmentRefreshNextAllowedTs : Nat
  lock : CommitmentIndexLock
  deriving DecidableEq, Repr

/-- A run of the commitment index that awaits the ICP index, with the time it began. -/
structure IndexRun where
  owner : CommitmentIndexLeaseOwner
  task : CommitmentIndexTask
  nowSecs : Nat
  deriving DecidableEq, Repr

namespace PokeState

def admission (st : PokeState) (nowSecs : Nat) : PokeAdmission :=
  if nowSecs < st.endowmentRefreshNextAllowedTs then .rateLimited
  else if nowSecs < st.lock.expiresAtTs.getD 0 then .busy
  else .available

def finish (st : PokeState) (running : IndexRun) : PokeState :=
  let guard := running.task.guard
  if running.owner = .endowmentRefresh ∧
      st.lock.isCurrent ⟨guard.leaseExpiresAtTs, guard.generation⟩ = true then
    ⟨satAdd u64Max running.nowSecs endowmentPokeMinIntervalSeconds, st.lock.dropGuard guard⟩
  else { st with lock := st.lock.dropGuard guard }

end PokeState

def IndexRun.renewSecs (running : IndexRun) (clockSecs : Nat) : Nat :=
  match running.owner with
  | .scheduled => clockSecs
  | .endowmentRefresh => running.nowSecs

/-- Why a poke is skipped; the last is a lease whose generation has no successor. -/
inductive PokeRefusal where
  | rateLimited
  | busy
  | exhausted
  deriving DecidableEq, Repr

/-- What happened, oldest first. `refused` is a deferred check that was skipped. -/
inductive HintRecord where
  | hinted (nowNs : Nat)
  | admitted (owner : CommitmentIndexLeaseOwner) (nowNs : Nat)
  | renewed (nowNs : Nat)
  | refused (reason : PokeRefusal) (nowNs : Nat)
  deriving DecidableEq, Repr

/-- `timers` holds for each deferred timer the time it was set for. No code reads `log`. -/
structure StakingPokes where
  state : PokeState
  deferred : PokeDeferredState
  timers : List Nat
  runs : Pool IndexRun
  clock : Nat
  log : List HintRecord

namespace StakingPokes

def nowSecs (sys : StakingPokes) : Nat := sys.clock / nanosPerSecond

def noted (sys : StakingPokes) (record : HintRecord) : StakingPokes :=
  { sys with log := sys.log ++ [record] }

def schedulePokeDeferredCheck (sys : StakingPokes) (delay : Nat) : StakingPokes :=
  { sys with timers := sys.timers ++ [sys.clock + delay] }

def hint (sys : StakingPokes) : StakingPokes :=
  let recorded := recordPokeHint sys.deferred sys.clock
  let kept := { sys with deferred := recorded.1 }
  if recorded.2 then kept.schedulePokeDeferredCheck endowmentPokeIntervalNs else kept

def acquire (sys : StakingPokes) (owner : CommitmentIndexLeaseOwner) (id : Nat) :
    Option StakingPokes :=
  (sys.state.lock.acquire owner sys.nowSecs).map fun acquired =>
    { sys with
      state := { sys.state with lock := acquired.1 }
      runs := sys.runs.put id (some ⟨owner, acquired.2, sys.nowSecs⟩)
      log := sys.log ++ [.admitted owner sys.clock] }

/-- `handle_endowment_poke_with_client` up to its await -/
def handleEndowmentPoke (sys : StakingPokes) (id : Nat) : Except PokeRefusal StakingPokes :=
  match sys.state.admission sys.nowSecs with
  | .rateLimited => .error .rateLimited
  | .busy => .error .busy
  | .available =>
      match sys.acquire .endowmentRefresh id with
      | none => .error .exhausted
      | some begun => .ok begun

def attempt (sys : StakingPokes) (id : Nat) : StakingPokes :=
  match sys.handleEndowmentPoke id with
  | .ok begun => begun
  | .error _ => sys

def deferredCheck (sys : StakingPokes) (id : Nat) : StakingPokes :=
  match sys.handleEndowmentPoke id with
  | .ok begun => begun
  | .error reason => sys.noted (.refused reason sys.clock)

def handleStakingPoke (sys : StakingPokes) (id : Nat) : StakingPokes := sys.hint.attempt id

def fire (sys : StakingPokes) (id : Nat) : StakingPokes :=
  let taken := deferredTimerAction sys.deferred sys.clock
  let kept := { sys with deferred := taken.1 }
  match taken.2 with
  | .stop => kept
  | .reschedule remaining => kept.schedulePokeDeferredCheck remaining
  | .check => kept.deferredCheck id

def schedule (sys : StakingPokes) (id : Nat) : StakingPokes :=
  (sys.acquire .scheduled id).getD sys

def renew (sys : StakingPokes) (id : Nat) (running : IndexRun) : StakingPokes :=
  match sys.state.lock.renew running.task.token (running.renewSecs sys.nowSecs) with
  | none => sys
  | some (lock, token) =>
      { sys with
        state := { sys.state with lock }
        runs := sys.runs.put id (some { running with task := { running.task with token } })
        log := match running.owner with
          | .endowmentRefresh => sys.log
          | .scheduled => sys.log ++ [.renewed sys.clock] }

def finish (sys : StakingPokes) (id : Nat) (running : IndexRun) : StakingPokes :=
  { sys with state := sys.state.finish running, runs := sys.runs.put id none }

def abort (sys : StakingPokes) (id : Nat) (running : IndexRun) : StakingPokes :=
  { sys with
    state := { sys.state with lock := sys.state.lock.dropGuard running.task.guard }
    runs := sys.runs.put id none }

end StakingPokes

inductive StakingPokeEvent where
  | poke (id nowNs : Nat)
  | fire (index id nowNs : Nat)
  | scheduled (id nowNs : Nat)
  | renew (id nowNs : Nat)
  | finish (id nowNs : Nat)
  | abort (id nowNs : Nat)
  deriving DecidableEq, Repr

def StakingPokeEvent.time : StakingPokeEvent → Nat
  | .poke _ nowNs | .fire _ _ nowNs | .scheduled _ nowNs | .renew _ nowNs | .finish _ nowNs
  | .abort _ nowNs => nowNs

/-- The clock never goes back and stays clear of the saturation of its sums. -/
def stepStakingPokes (sys : StakingPokes) (event : StakingPokeEvent) : Option StakingPokes :=
  if sys.clock ≤ event.time ∧ event.time + endowmentPokeIntervalNs ≤ u64Max then
    let timed := { sys with clock := event.time }
    match event with
    | .poke id nowNs =>
        if (sys.runs id).isSome then none
        else some ((timed.noted (.hinted nowNs)).handleStakingPoke id)
    | .fire index id _ =>
        if (sys.runs id).isSome ∨ sys.timers.length ≤ index then none
        else some (StakingPokes.fire { timed with timers := sys.timers.eraseIdx index } id)
    | .scheduled id _ => if (sys.runs id).isSome then none else some (timed.schedule id)
    | .renew id _ => (sys.runs id).map (timed.renew id)
    | .finish id _ => (sys.runs id).map (timed.finish id)
    | .abort id _ => (sys.runs id).map (timed.abort id)
  else none

def stakingPokes (persisted : PokeState) : Machine StakingPokes StakingPokeEvent where
  init := fun sys => ∃ clock, sys = ⟨persisted, ⟨none, false⟩, [], Pool.empty, clock, []⟩
  step := stepStakingPokes

/-! ## What the log tells -/

variable {nowNs : Nat} {st : PokeState} {lock : CommitmentIndexLock}

section Log

variable {persisted : PokeState} {log : List HintRecord} {record : HintRecord}

def HintRecord.isAdmission : HintRecord → Bool
  | .admitted _ _ => true
  | _ => false

def Leased (log : List HintRecord) (nowNs : Nat) : Prop :=
  (∃ owner, .admitted owner nowNs ∈ log) ∨ .renewed nowNs ∈ log

structure PokeTrace (persisted : PokeState) (log : List HintRecord) (st : PokeState) : Prop where
  cooldown : st.endowmentRefreshNextAllowedTs = persisted.endowmentRefreshNextAllowedTs ∨
    ∃ begun, .admitted .endowmentRefresh begun ∈ log ∧
      st.endowmentRefreshNextAllowedTs =
        begun / nanosPerSecond + endowmentPokeMinIntervalSeconds
  lease : st.lock.expiresAtTs.getD 0 = 0 ∨
    st.lock.expiresAtTs.getD 0 = persisted.lock.expiresAtTs.getD 0 ∨
    ∃ taken, Leased log taken ∧
      st.lock.expiresAtTs.getD 0 = taken / nanosPerSecond + commitmentIndexLeaseSeconds
  generation : st.lock.generation =
    persisted.lock.generation + log.countP HintRecord.isAdmission

/-- Why a check at a time is skipped: the cooldown of a poke that began less than ten seconds
before, the lease of a run that took or renewed it less than 75 seconds before, or the last
generation of the lease. -/
def Justified (persisted : PokeState) (before : List HintRecord) (nowNs : Nat) :
    PokeRefusal → Prop
  | .rateLimited => nowNs / nanosPerSecond < persisted.endowmentRefreshNextAllowedTs ∨
      ∃ begun, .admitted .endowmentRefresh begun ∈ before ∧
        nowNs / nanosPerSecond < begun / nanosPerSecond + endowmentPokeMinIntervalSeconds
  | .busy => nowNs / nanosPerSecond < persisted.lock.expiresAtTs.getD 0 ∨
      ∃ taken, Leased before taken ∧
        nowNs / nanosPerSecond < taken / nanosPerSecond + commitmentIndexLeaseSeconds
  | .exhausted => u64Max ≤ persisted.lock.generation + before.countP HintRecord.isAdmission

theorem Leased.snoc (leased : Leased log nowNs) : Leased (log ++ [record]) nowNs := by
  rcases leased with ⟨owner, member⟩ | member
  · exact .inl ⟨owner, List.mem_append_left _ member⟩
  · exact .inr (List.mem_append_left _ member)

theorem PokeTrace.snoc (traced : PokeTrace persisted log st) (other : record.isAdmission = false) :
    PokeTrace persisted (log ++ [record]) st := by
  constructor
  · rcases traced.cooldown with same | ⟨begun, member, value⟩
    · exact .inl same
    · exact .inr ⟨begun, List.mem_append_left _ member, value⟩
  · rcases traced.lease with free | same | ⟨taken, leased, value⟩
    · exact .inl free
    · exact .inr (.inl same)
    · exact .inr (.inr ⟨taken, leased.snoc, value⟩)
  · rw [traced.generation, List.countP_append, List.countP_singleton, other]
    rfl

theorem PokeTrace.admit (traced : PokeTrace persisted log st) {owner : CommitmentIndexLeaseOwner}
    (lease : lock.expiresAtTs.getD 0 = nowNs / nanosPerSecond + commitmentIndexLeaseSeconds)
    (generation : lock.generation = st.lock.generation + 1) :
    PokeTrace persisted (log ++ [.admitted owner nowNs]) { st with lock := lock } := by
  constructor
  · rcases traced.cooldown with same | ⟨begun, member, value⟩
    · exact .inl same
    · exact .inr ⟨begun, List.mem_append_left _ member, value⟩
  · exact .inr (.inr ⟨nowNs, .inl ⟨owner, by simp⟩, lease⟩)
  · rw [List.countP_append, List.countP_singleton]
    simp only [HintRecord.isAdmission, if_true]
    rw [generation, traced.generation, Nat.add_assoc]

theorem PokeTrace.relock (traced : PokeTrace persisted log st)
    (generation : lock.generation = st.lock.generation)
    (lease : lock.expiresAtTs.getD 0 = 0 ∨ lock.expiresAtTs = st.lock.expiresAtTs ∨
      ∃ taken, Leased log taken ∧
        lock.expiresAtTs.getD 0 = taken / nanosPerSecond + commitmentIndexLeaseSeconds) :
    PokeTrace persisted log { st with lock := lock } := by
  constructor
  · exact traced.cooldown
  · rcases lease with free | same | taken
    · exact .inl free
    · dsimp only
      rw [same]
      exact traced.lease
    · exact .inr (.inr taken)
  · dsimp only
    rw [generation, traced.generation]

theorem dropGuard_lease (lock : CommitmentIndexLock) (guard : FencedTimerLeaseGuard) :
    (lock.dropGuard guard).expiresAtTs.getD 0 = 0 ∨
      (lock.dropGuard guard).expiresAtTs = lock.expiresAtTs := by
  simp only [CommitmentIndexLock.dropGuard]
  split
  · exact .inl rfl
  · exact .inr rfl

theorem PokeTrace.drop (traced : PokeTrace persisted log st) (guard : FencedTimerLeaseGuard) :
    PokeTrace persisted log { st with lock := st.lock.dropGuard guard } := by
  apply traced.relock (CommitmentIndexLock.dropGuard_generation _ _)
  rcases dropGuard_lease st.lock guard with free | same
  · exact .inl free
  · exact .inr (.inl same)

def IndexRun.Begun (log : List HintRecord) (running : IndexRun) : Prop :=
  running.nowSecs + commitmentIndexLeaseSeconds ≤ u64Max ∧
    ∃ begun, .admitted running.owner begun ∈ log ∧ running.nowSecs = begun / nanosPerSecond

theorem IndexRun.Begun.mono {running : IndexRun} {longer : List HintRecord}
    (begun : running.Begun log) (contains : log ⊆ longer) : running.Begun longer := by
  obtain ⟨fits, time, member, value⟩ := begun
  exact ⟨fits, time, contains member, value⟩

theorem seconds_fit {extra : Nat} (fits : nowNs + endowmentPokeIntervalNs ≤ u64Max)
    (small : extra ≤ 1000000) : nowNs / nanosPerSecond + extra ≤ u64Max := by
  have quotient : nowNs / nanosPerSecond ≤ nowNs / 2 :=
    Nat.div_le_div_left (by decide) (by decide)
  have interval : 10 * 1000000 ≤ endowmentPokeIntervalNs := by decide
  have limit : 2 * 1000000 ≤ u64Max := by decide
  omega

theorem PokeTrace.renewal (traced : PokeTrace persisted log st)
    {token fresh : CommitmentIndexLeaseToken} {taken : Nat}
    (renewed : st.lock.renew token (taken / nanosPerSecond) = some (lock, fresh))
    (fits : taken / nanosPerSecond + commitmentIndexLeaseSeconds ≤ u64Max)
    (leased : Leased log taken) : PokeTrace persisted log { st with lock := lock } := by
  simp only [CommitmentIndexLock.renew] at renewed
  split at renewed
  · cases renewed
    exact traced.relock rfl (.inr (.inr ⟨taken, leased, satAdd_of_le fits⟩))
  · cases renewed

theorem PokeTrace.finish (traced : PokeTrace persisted log st) {running : IndexRun}
    (begun : running.Begun log) :
    PokeTrace persisted log (st.finish running) := by
  have dropped := traced.drop running.task.guard
  obtain ⟨fits, time, member, value⟩ := begun
  have shorter : endowmentPokeMinIntervalSeconds ≤ commitmentIndexLeaseSeconds := by decide
  simp only [PokeState.finish]
  split
  · rename_i current
    rw [current.1] at member
    refine ⟨.inr ⟨time, member, ?_⟩, dropped.lease, dropped.generation⟩
    dsimp only
    rw [satAdd_of_le (by omega), value]
  · exact dropped

end Log
end JupiterSuite.Historian
