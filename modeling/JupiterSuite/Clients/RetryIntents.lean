import JupiterSuite.Clients.LeaseGuards

/-! Scheduled main ticks of the disburser and the faucet, and the one-shot retries that a busy
or deferred tick reserves. A reservation is the number of the main run it waits for. -/

namespace JupiterSuite

open Base

inductive RetryCanister where
  | disburser
  | faucet
  deriving DecidableEq, Repr

def RetryCanister.mainGuard : RetryCanister → GuardKind
  | .disburser => .disburserMain
  | .faucet => .faucetMain

def scheduledMainRetrySeconds : Nat := 60

/-- `SCHEDULED_MAIN_RETRY_PENDING` and `MAIN_RUN_MARKER` beside the stable lease. -/
structure RetryState where
  lease : LeaseState
  pending : Option Nat
  marker : Nat
  deriving DecidableEq, Repr

/-- `none` is the trap of an exhausted marker, which undoes the message. -/
def advanceMainRunMarker (st : RetryState) : Option RetryState :=
  (checkedAdd u64Max st.marker 1).map fun marker => { st with pending := none, marker := marker }

def reserveScheduledMainRetry (st : RetryState) : RetryState × Option Nat :=
  if st.pending = some st.marker then (st, none)
  else ({ st with pending := some st.marker }, some st.marker)

/-- A main tick up to its first await; one that was admitted ends as `Completed`. -/
inductive MainTickStart where
  | mainGuardBusy
  | deferred (remaining : Nat)
  | admitted (guard : TimerLeaseGuard)
  deriving DecidableEq, Repr

def MainTickStart.retryAfterSeconds : MainTickStart → Option Nat
  | .mainGuardBusy => some scheduledMainRetrySeconds
  | .deferred remaining => some remaining
  | .admitted _ => none

structure MainTickEffects where
  start : Option MainTickStart
  schedule : Option (Nat × Nat)
  deriving DecidableEq, Repr

section Tick

variable (canister : RetryCanister) (mainIntervalSeconds : Nat)

def startMainTick (st : RetryState) (force : Bool) (nowSecs : Nat) :
    Option (RetryState × MainTickStart) :=
  match TimerLeaseGuard.acquire nowSecs canister.mainGuard.leaseSeconds st.lease.lock with
  | none => some (st, .mainGuardBusy)
  | some guard =>
      let held := { st.lease with lock := some guard.leaseExpiresAtTs }
      let remaining := satAdd u64Max held.lastMainRunTs (mainIntervalSeconds - 60) - nowSecs
      if !force && decide (0 < remaining) then
        some ({ st with lease := held.dropGuard guard }, .deferred remaining)
      else
        (advanceMainRunMarker { st with lease := held }).map fun admitted =>
          (admitted, .admitted guard)

/-- A busy or deferred tick never awaits, so the retry is reserved in the same message. -/
def runScheduledMainTick (st : RetryState) (nowSecs : Nat) :
    Option (RetryState × MainTickEffects) :=
  let marker := st.marker
  (startMainTick canister mainIntervalSeconds st false nowSecs).map fun (ran, start) =>
    match start.retryAfterSeconds with
    | none => (ran, ⟨some start, none⟩)
    | some delay =>
        if ran.marker = marker then
          let reserved := reserveScheduledMainRetry ran
          (reserved.1, ⟨some start, reserved.2.map fun reservation => (reservation, delay)⟩)
        else (ran, ⟨some start, none⟩)

def runScheduledMainRetry (st : RetryState) (reservation nowSecs : Nat) :
    Option (RetryState × MainTickEffects) :=
  let owns := decide (st.pending = some reservation)
  let taken := if owns then { st with pending := none } else st
  if owns && decide (taken.marker = reservation) then
    runScheduledMainTick canister mainIntervalSeconds taken nowSecs
  else some (taken, ⟨none, none⟩)

/-- `MainGuard::finish`. A release is a completion: it retires the reservations made during the
run. -/
def finishMainTick (st : RetryState) (guard : TimerLeaseGuard) (nowSecs stamp : Nat) :
    Option RetryState :=
  let finished := st.lease.finish canister.mainGuard guard nowSecs stamp
  if st.lease.isCurrent canister.mainGuard guard nowSecs then
    (advanceMainRunMarker st).map fun advanced => { advanced with lease := finished }
  else some { st with lease := finished }

end Tick

/-- A suspended owner of the main lease: a main tick, or a poke, which never finishes it. -/
structure LeaseTask where
  guard : TimerLeaseGuard
  main : Bool
  deriving DecidableEq, Repr

structure RetryTimer where
  reservation : Nat
  dueSecs : Nat
  deriving DecidableEq, Repr

/-- `ran` is a callback that runs its main tick; `advanced` is the admission or the completion
of the main run with that number. -/
inductive RetryRecord where
  | reserved (reservation : Nat)
  | consumed (reservation : Nat)
  | ran (reservation : Nat)
  | advanced (marker : Nat)
  deriving DecidableEq, Repr

/-- No code reads `log`. -/
structure RetrySystem where
  retry : RetryState
  timers : List RetryTimer
  tasks : Pool LeaseTask
  clock : Nat
  log : List RetryRecord

inductive RetryEvent where
  | scheduled (id nowSecs : Nat)
  | forced (id nowSecs : Nat)
  | poke (id nowSecs : Nat)
  | fire (index id nowSecs : Nat)
  | finish (id nowSecs stamp : Nat)
  -- The task returns early or traps; its guard is dropped.
  | drop (id nowSecs : Nat)
  -- The continuation never runs again.
  | abandon (id nowSecs : Nat)
  deriving DecidableEq, Repr

def RetryEvent.time : RetryEvent → Nat
  | .scheduled _ nowSecs | .forced _ nowSecs | .poke _ nowSecs | .fire _ _ nowSecs
  | .finish _ nowSecs _ | .drop _ nowSecs | .abandon _ nowSecs => nowSecs

def advances (before after : RetryState) : List RetryRecord :=
  if before.marker < after.marker then [.advanced before.marker] else []

def settleRetry (sys : RetrySystem) (id nowSecs : Nat) (after : RetryState)
    (effects : MainTickEffects) : RetrySystem where
  retry := after
  timers := sys.timers ++ effects.schedule.toList.map fun (reservation, delay) =>
    ⟨reservation, nowSecs + delay⟩
  tasks :=
    match effects.start with
    | some (.admitted guard) => sys.tasks.put id (some ⟨guard, true⟩)
    | _ => sys.tasks
  clock := nowSecs
  log := sys.log ++ advances sys.retry after ++
    effects.schedule.toList.map fun (reservation, _) => .reserved reservation

def callbackRecords (st : RetryState) (reservation : Nat) : List RetryRecord :=
  if st.pending = some reservation then
    .consumed reservation :: if st.marker = reservation then [.ran reservation] else []
  else []

section System

variable (canister : RetryCanister) (mainIntervalSeconds : Nat)

def stepRetry (sys : RetrySystem) (event : RetryEvent) : Option RetrySystem :=
  if sys.clock ≤ event.time ∧ event.time ≤ u64Max then
    match event with
    | .scheduled id nowSecs =>
        if (sys.tasks id).isSome then none
        else (runScheduledMainTick canister mainIntervalSeconds sys.retry nowSecs).map
          fun (after, effects) => settleRetry sys id nowSecs after effects
    | .forced id nowSecs =>
        if (sys.tasks id).isSome then none
        else (startMainTick canister mainIntervalSeconds sys.retry true nowSecs).map
          fun (after, start) => settleRetry sys id nowSecs after ⟨some start, none⟩
    | .poke id nowSecs =>
        if (sys.tasks id).isSome then none
        else match TimerLeaseGuard.acquire nowSecs canister.mainGuard.leaseSeconds
            sys.retry.lease.lock with
          | none => some { sys with clock := nowSecs }
          | some guard => some { sys with
              retry := { sys.retry with
                lease := { sys.retry.lease with lock := some guard.leaseExpiresAtTs } }
              tasks := sys.tasks.put id (some ⟨guard, false⟩)
              clock := nowSecs }
    | .fire index id nowSecs =>
        if (sys.tasks id).isSome then none
        else sys.timers[index]?.bind fun timer =>
          (runScheduledMainRetry canister mainIntervalSeconds sys.retry timer.reservation
            nowSecs).map fun (after, effects) =>
              settleRetry { sys with
                timers := sys.timers.eraseIdx index
                log := sys.log ++ callbackRecords sys.retry timer.reservation }
                id nowSecs after effects
    | .finish id nowSecs stamp => (sys.tasks id).bind fun task =>
        if task.main then
          (finishMainTick canister sys.retry task.guard nowSecs stamp).map fun after =>
            settleRetry { sys with tasks := sys.tasks.put id none } id nowSecs after ⟨none, none⟩
        else none
    | .drop id nowSecs => (sys.tasks id).map fun task => { sys with
        retry := { sys.retry with lease := sys.retry.lease.dropGuard task.guard }
        tasks := sys.tasks.put id none
        clock := nowSecs }
    | .abandon id nowSecs => (sys.tasks id).map fun _ => { sys with
        tasks := sys.tasks.put id none
        clock := nowSecs }
  else none

/-- The heap is fresh after an installation or an upgrade; the stable lease may hold anything. -/
def retryMachine : Machine RetrySystem RetryEvent where
  init := fun sys => ∃ lease clock, sys = ⟨⟨lease, none, 0⟩, [], Pool.empty, clock, []⟩
  step := stepRetry canister mainIntervalSeconds

end System

end JupiterSuite
