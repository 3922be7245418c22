import JupiterSuite.Clients.Ledger
import JupiterSuite.Base.Machine

/-! Event Horizon hints of the faucet: a rate gate for payout attempts and at most one deferred
catch-up timer. -/

namespace JupiterSuite.Faucet

open Base

def eventHorizonPokeIntervalSeconds : Nat := 10

def pokeIntervalNs : Nat := eventHorizonPokeIntervalSeconds * nanosPerSecond

structure PokeRuntimeState where
  dueAtNs : Option Nat
  timerPending : Bool
  nextAttemptAllowedAtNs : Nat
  deriving DecidableEq, Repr

def PokeRuntimeState.default : PokeRuntimeState := ⟨none, false, 0⟩

inductive DeferredTimerAction where
  | stop
  | reschedule (remaining : Nat)
  | attempt
  deriving DecidableEq, Repr

/-- Whether a deferred timer has to be set. A hint that finds one pending shares its deadline. -/
def recordHint (runtime : PokeRuntimeState) (nowNs : Nat) : PokeRuntimeState × Bool :=
  if runtime.timerPending then (runtime, false)
  else
    ({ runtime with dueAtNs := some (satAdd u64Max nowNs pokeIntervalNs), timerPending := true },
      true)

def admitAttempt (runtime : PokeRuntimeState) (nowNs : Nat) : PokeRuntimeState × Bool :=
  if runtime.nextAttemptAllowedAtNs > nowNs then (runtime, false)
  else ({ runtime with nextAttemptAllowedAtNs := satAdd u64Max nowNs pokeIntervalNs }, true)

def deferredTimerAction (runtime : PokeRuntimeState) (nowNs : Nat) :
    PokeRuntimeState × DeferredTimerAction :=
  match runtime.dueAtNs with
  | some due =>
      if due > nowNs then (runtime, .reschedule (due - nowNs))
      else ({ runtime with dueAtNs := none, timerPending := false }, .attempt)
  | none => ({ runtime with timerPending := false }, .stop)

/-- What happened, oldest first. `skipped` is a deferred attempt that the rate gate refused. -/
inductive PokeRecord where
  | hinted (nowNs : Nat)
  | admitted (nowNs : Nat)
  | skipped (nowNs : Nat)
  deriving DecidableEq, Repr

/-- `timers` holds for each deferred timer the time it was set for. No code reads `log`. -/
structure PokeSystem where
  runtime : PokeRuntimeState
  timers : List Nat
  clock : Nat
  log : List PokeRecord
  deriving DecidableEq, Repr

/-- A timer may fire at any time from now on; `Reschedule` answers an early one. -/
inductive PokeEvent where
  | poke (nowNs : Nat)
  | hint (nowNs : Nat)
  | attempt (nowNs : Nat)
  | fire (index nowNs : Nat)
  deriving DecidableEq, Repr

def PokeEvent.time : PokeEvent → Nat
  | .poke nowNs | .hint nowNs | .attempt nowNs | .fire _ nowNs => nowNs

namespace PokeSystem

def noted (sys : PokeSystem) (record : PokeRecord) : PokeSystem :=
  { sys with log := sys.log ++ [record] }

def scheduleDeferred (sys : PokeSystem) (delay : Nat) : PokeSystem :=
  { sys with timers := sys.timers ++ [sys.clock + delay] }

def hint (sys : PokeSystem) : PokeSystem :=
  let recorded := recordHint sys.runtime sys.clock
  let kept := { sys with runtime := recorded.1 }
  if recorded.2 then kept.scheduleDeferred pokeIntervalNs else kept

def attempt (sys : PokeSystem) : PokeSystem :=
  let admission := admitAttempt sys.runtime sys.clock
  if admission.2 then { sys with runtime := admission.1 }.noted (.admitted sys.clock) else sys

def deferredAttempt (sys : PokeSystem) : PokeSystem :=
  if (admitAttempt sys.runtime sys.clock).2 then sys.attempt
  else sys.noted (.skipped sys.clock)

/-- The body of the timer that `schedule_deferred` sets; the timer itself is gone. -/
def fire (sys : PokeSystem) : PokeSystem :=
  let taken := deferredTimerAction sys.runtime sys.clock
  let kept := { sys with runtime := taken.1 }
  match taken.2 with
  | .stop => kept
  | .reschedule remaining => kept.scheduleDeferred remaining
  | .attempt => kept.deferredAttempt

def handleEventHorizonPoke (sys : PokeSystem) : PokeSystem := sys.hint.attempt

end PokeSystem

/-- The clock never goes back and stays clear of the saturation of its sums. -/
def stepPoke (sys : PokeSystem) (event : PokeEvent) : Option PokeSystem :=
  if sys.clock ≤ event.time ∧ event.time + pokeIntervalNs ≤ u64Max then
    let timed := { sys with clock := event.time }
    match event with
    | .poke _ => some (timed.noted (.hinted event.time)).handleEventHorizonPoke
    | .hint _ => some (timed.noted (.hinted event.time)).hint
    | .attempt _ => some timed.attempt
    | .fire index _ =>
        if index < sys.timers.length then
          some (PokeSystem.fire { timed with timers := sys.timers.eraseIdx index })
        else none
  else none

def pokes : Machine PokeSystem PokeEvent where
  init := fun sys => sys.runtime = .default ∧ sys.timers = [] ∧ sys.log = []
  step := stepPoke

end JupiterSuite.Faucet
