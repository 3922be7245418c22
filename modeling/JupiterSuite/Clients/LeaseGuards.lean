import JupiterSuite.Clients.Ledger
import JupiterSuite.Base.Lease
import JupiterSuite.Base.Machine

/-! The lease guard of the timers. The lock is the expiry of the current lease, zero when it
was released. -/

namespace JupiterSuite

open Base

/-- `TimerLeaseGuard::acquire`; the token of the guard is its expiry. -/
def acquireLease (nowSecs leaseSeconds : Nat) (lock : Option Nat) : Option Nat :=
  if lock.getD 0 > nowSecs then none else some (satAdd u64Max nowSecs leaseSeconds)

def releaseLease (token : Nat) (lock : Option Nat) : Option Nat :=
  if lock = some token then some 0 else lock

theorem acquireLease_some {nowSecs leaseSeconds token : Nat} {lock : Option Nat}
    (lasting : 0 < leaseSeconds) (fits : nowSecs + leaseSeconds ≤ u64Max)
    (acquired : acquireLease nowSecs leaseSeconds lock = some token) :
    lock.getD 0 ≤ nowSecs ∧ nowSecs < token := by
  unfold acquireLease at acquired
  split at acquired
  · cases acquired
  · rename_i free
    cases acquired
    rw [satAdd_of_le fits]
    omega

theorem releaseLease_lost {token : Nat} {lock : Option Nat} (lost : lock ≠ some token) :
    releaseLease token lock = lock := by
  simp [releaseLease, lost]

@[simp]
theorem releaseLease_held (token : Nat) : releaseLease token (some token) = some 0 := by
  simp [releaseLease]

/-! The lease guards of the canisters' timers and the fenced guard of the commitment index, with
any number of owners that acquire, renew, finish and drop them while the clock advances. -/

inductive LeaseFinish where
  | released
  | unchanged
  deriving DecidableEq, Repr

structure TimerLeaseGuard where
  active : Bool
  leaseExpiresAtTs : Nat
  deriving DecidableEq, Repr

namespace TimerLeaseGuard

def acquire (nowSecs leaseSeconds : Nat) (lock : Option Nat) : Option TimerLeaseGuard :=
  (acquireLease nowSecs leaseSeconds lock).map fun token => ⟨true, token⟩

def release (guard : TimerLeaseGuard) (lock : Option Nat) : TimerLeaseGuard × LeaseFinish :=
  if !guard.active then (guard, .unchanged)
  else
    ({ guard with active := false },
      if lock = some guard.leaseExpiresAtTs then .released else .unchanged)

end TimerLeaseGuard

/-- The guards built on `TimerLeaseGuard`. -/
inductive GuardKind where
  | disburserMain
  | faucetMain
  | historianMain
  | relayMain
  | relaySplitter
  | snsRewardsScan
  deriving DecidableEq, Repr

namespace GuardKind

def leaseSeconds : GuardKind → Nat
  | .disburserMain | .faucetMain | .historianMain => 15 * 60
  | .relayMain | .relaySplitter | .snsRewardsScan => 30 * 60

/-- Only the disburser's `is_current` also compares the clock with the expiry. -/
def comparesClock : GuardKind → Bool
  | .disburserMain => true
  | _ => false

/-- The guard has a `finish` that stamps the last run. -/
def finishes : GuardKind → Bool
  | .relaySplitter | .snsRewardsScan => false
  | _ => true

def recordsProgress : GuardKind → Bool
  | .relayMain => true
  | _ => false

end GuardKind

structure LeaseState where
  lock : Option Nat
  lastMainRunTs : Nat
  deriving DecidableEq, Repr

namespace LeaseState

def isCurrent (kind : GuardKind) (st : LeaseState) (guard : TimerLeaseGuard) (nowSecs : Nat) :
    Bool :=
  guard.active && (!kind.comparesClock || decide (nowSecs < guard.leaseExpiresAtTs)) &&
    decide (st.lock = some guard.leaseExpiresAtTs)

/-- The guard is dropped, after its task ended or trapped, or by `release_without_finishing`. -/
def dropGuard (st : LeaseState) (guard : TimerLeaseGuard) : LeaseState :=
  match (guard.release st.lock).2 with
  | .released => { st with lock := some 0 }
  | .unchanged => st

/-- `finish` consumes the guard, so its drop follows. -/
def finish (kind : GuardKind) (st : LeaseState) (guard : TimerLeaseGuard) (nowSecs stamp : Nat) :
    LeaseState :=
  if kind.comparesClock && !st.isCurrent kind guard nowSecs then st.dropGuard guard
  else
    match guard.release st.lock with
    | (released, .released) =>
        { st with lastMainRunTs := stamp, lock := some 0 }.dropGuard released
    | (released, .unchanged) => st.dropGuard released

def recordCoreProgress (st : LeaseState) (guard : TimerLeaseGuard) (stamp : Nat) : LeaseState :=
  if guard.active && decide (st.lock = some guard.leaseExpiresAtTs) then
    { st with lastMainRunTs := stamp }
  else st

end LeaseState

structure LeaseSystem where
  state : LeaseState
  guards : Pool TimerLeaseGuard
  clock : Nat

inductive LeaseEvent where
  | tick (nowSecs : Nat)
  | acquire (id nowSecs : Nat)
  | drop (id nowSecs : Nat)
  | finish (id nowSecs stamp : Nat)
  | record (id nowSecs stamp : Nat)
  deriving DecidableEq, Repr

def LeaseEvent.actor : LeaseEvent → Option Nat
  | .tick _ => none
  | .acquire id _ | .drop id _ | .finish id _ _ | .record id _ _ => some id

def LeaseEvent.time : LeaseEvent → Nat
  | .tick nowSecs | .acquire _ nowSecs | .drop _ nowSecs | .finish _ nowSecs _
  | .record _ nowSecs _ => nowSecs

def stepLease (kind : GuardKind) (sys : LeaseSystem) (event : LeaseEvent) : Option LeaseSystem :=
  if sys.clock ≤ event.time ∧ event.time + kind.leaseSeconds ≤ u64Max then
    match event with
    | .tick nowSecs => some { sys with clock := nowSecs }
    | .acquire id nowSecs =>
        if (sys.guards id).isSome then none
        else
          match TimerLeaseGuard.acquire nowSecs kind.leaseSeconds sys.state.lock with
          | none => some { sys with clock := nowSecs }
          | some guard => some
              { state := { sys.state with lock := some guard.leaseExpiresAtTs }
                guards := sys.guards.put id (some guard)
                clock := nowSecs }
    | .drop id nowSecs => (sys.guards id).map fun guard =>
        { state := sys.state.dropGuard guard
          guards := sys.guards.put id none
          clock := nowSecs }
    | .finish id nowSecs stamp =>
        if kind.finishes then
          (sys.guards id).map fun guard =>
            { state := sys.state.finish kind guard nowSecs stamp
              guards := sys.guards.put id none
              clock := nowSecs }
        else none
    | .record id nowSecs stamp =>
        if kind.recordsProgress then
          (sys.guards id).map fun guard =>
            { sys with state := sys.state.recordCoreProgress guard stamp, clock := nowSecs }
        else none
  else none

def leaseMachine (kind : GuardKind) : Machine LeaseSystem LeaseEvent where
  init := fun sys => ∃ state clock, sys = ⟨state, Pool.empty, clock⟩
  step := stepLease kind

def commitmentIndexLeaseSeconds : Nat := 75

structure FencedTimerLeaseGuard where
  active : Bool
  leaseExpiresAtTs : Nat
  generation : Nat
  deriving DecidableEq, Repr

def FencedTimerLeaseGuard.acquire (nowSecs leaseSeconds : Nat) (lock : Option Nat)
    (generation : Nat) (preemptUnexpired : Bool) : Option FencedTimerLeaseGuard :=
  if !preemptUnexpired && decide (lock.getD 0 > nowSecs) then none
  else (checkedAdd u64Max generation 1).map fun fresh =>
    ⟨true, satAdd u64Max nowSecs leaseSeconds, fresh⟩

inductive CommitmentIndexLeaseOwner where
  | scheduled
  | endowmentRefresh
  deriving DecidableEq, Repr

structure CommitmentIndexLeaseToken where
  expiresAtTs : Nat
  generation : Nat
  deriving DecidableEq, Repr

structure CommitmentIndexLock where
  expiresAtTs : Option Nat
  generation : Nat
  owner : Option CommitmentIndexLeaseOwner
  deriving DecidableEq, Repr

/-- A task with its guard and the token that it renews. -/
structure CommitmentIndexTask where
  guard : FencedTimerLeaseGuard
  token : CommitmentIndexLeaseToken
  deriving DecidableEq, Repr

namespace CommitmentIndexLock

def isCurrent (lock : CommitmentIndexLock) (token : CommitmentIndexLeaseToken) : Bool :=
  decide (lock.expiresAtTs = some token.expiresAtTs ∧ lock.generation = token.generation)

def acquire (lock : CommitmentIndexLock) (owner : CommitmentIndexLeaseOwner) (nowSecs : Nat) :
    Option (CommitmentIndexLock × CommitmentIndexTask) :=
  let timerPreemptsPoke := decide (owner = .scheduled ∧ lock.owner = some .endowmentRefresh)
  (FencedTimerLeaseGuard.acquire nowSecs commitmentIndexLeaseSeconds lock.expiresAtTs
    lock.generation timerPreemptsPoke).map fun guard =>
      (⟨some guard.leaseExpiresAtTs, guard.generation, some owner⟩,
        ⟨guard, ⟨guard.leaseExpiresAtTs, guard.generation⟩⟩)

def renew (lock : CommitmentIndexLock) (token : CommitmentIndexLeaseToken) (nowSecs : Nat) :
    Option (CommitmentIndexLock × CommitmentIndexLeaseToken) :=
  if lock.isCurrent token then
    let renewed : CommitmentIndexLeaseToken :=
      ⟨satAdd u64Max nowSecs commitmentIndexLeaseSeconds, token.generation⟩
    some ({ lock with expiresAtTs := some renewed.expiresAtTs }, renewed)
  else none

def dropGuard (lock : CommitmentIndexLock) (guard : FencedTimerLeaseGuard) :
    CommitmentIndexLock :=
  if lock.generation = guard.generation then
    { lock with expiresAtTs := some 0, owner := none }
  else lock

theorem dropGuard_generation (lock : CommitmentIndexLock) (guard : FencedTimerLeaseGuard) :
    (lock.dropGuard guard).generation = lock.generation := by
  unfold dropGuard
  split <;> rfl

end CommitmentIndexLock

structure CommitmentIndexSystem where
  lock : CommitmentIndexLock
  tasks : Pool CommitmentIndexTask
  clock : Nat

inductive CommitmentIndexEvent where
  | tick (nowSecs : Nat)
  | acquire (id : Nat) (owner : CommitmentIndexLeaseOwner) (nowSecs : Nat)
  | renew (id nowSecs : Nat)
  | drop (id nowSecs : Nat)
  deriving DecidableEq, Repr

def CommitmentIndexEvent.actor : CommitmentIndexEvent → Option Nat
  | .tick _ => none
  | .acquire id _ _ | .renew id _ | .drop id _ => some id

def CommitmentIndexEvent.time : CommitmentIndexEvent → Nat
  | .tick nowSecs | .acquire _ _ nowSecs | .renew _ nowSecs | .drop _ nowSecs => nowSecs

def stepCommitmentIndex (sys : CommitmentIndexSystem) (event : CommitmentIndexEvent) :
    Option CommitmentIndexSystem :=
  if sys.clock ≤ event.time ∧ event.time + commitmentIndexLeaseSeconds ≤ u64Max then
    match event with
    | .tick nowSecs => some { sys with clock := nowSecs }
    | .acquire id owner nowSecs =>
        if (sys.tasks id).isSome then none
        else
          match sys.lock.acquire owner nowSecs with
          | none => some { sys with clock := nowSecs }
          | some (lock, task) => some ⟨lock, sys.tasks.put id (some task), nowSecs⟩
    | .renew id nowSecs => (sys.tasks id).map fun task =>
        match sys.lock.renew task.token nowSecs with
        | none => { sys with clock := nowSecs }
        | some (lock, token) => ⟨lock, sys.tasks.put id (some { task with token }), nowSecs⟩
    | .drop id nowSecs => (sys.tasks id).map fun task =>
        ⟨sys.lock.dropGuard task.guard, sys.tasks.put id none, nowSecs⟩
  else none

def commitmentIndexMachine : Machine CommitmentIndexSystem CommitmentIndexEvent where
  init := fun sys => ∃ lock clock, sys = ⟨lock, Pool.empty, clock⟩
  step := stepCommitmentIndex

end JupiterSuite
