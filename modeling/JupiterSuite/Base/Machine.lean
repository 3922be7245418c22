import Mathlib.Data.List.Basic

/-! Partial transition machines and their finite runs. An event that is not enabled
has no successor state. -/

namespace JupiterSuite.Base

theorem split_snoc {α : Type*} {log before after : List α} {last found : α}
    (same : log ++ [last] = before ++ found :: after) :
    (after = [] ∧ last = found ∧ log = before) ∨
      ∃ rest, after = rest ++ [last] ∧ log = before ++ found :: rest := by
  rcases List.eq_nil_or_concat' after with rfl | ⟨rest, final, rfl⟩
  · have parts := List.append_inj' same rfl
    exact .inl ⟨rfl, List.singleton_inj.mp parts.2, parts.1⟩
  · have cut : log ++ [last] = (before ++ found :: rest) ++ [final] := by
      rw [same]
      simp
    have parts := List.append_inj' cut rfl
    have ends : last = final := List.singleton_inj.mp parts.2
    subst ends
    exact .inr ⟨rest, rfl, parts.1⟩

structure Machine (σ ε : Type*) where
  init : σ → Prop
  step : σ → ε → Option σ

namespace Machine

variable {σ ε : Type*} (machine : Machine σ ε)

def run : σ → List ε → Option σ
  | state, [] => some state
  | state, event :: events => (machine.step state event).bind fun next => run next events

def Reachable (state : σ) : Prop :=
  ∃ start events, machine.init start ∧ machine.run start events = some state

@[simp]
theorem run_nil (state : σ) : machine.run state [] = some state := rfl

theorem run_cons {state final : σ} {event : ε} {events : List ε} :
    machine.run state (event :: events) = some final ↔
      ∃ next, machine.step state event = some next ∧ machine.run next events = some final := by
  simp [run, Option.bind_eq_some_iff]

theorem run_append {state final : σ} {first second : List ε} :
    machine.run state (first ++ second) = some final ↔
      ∃ middle, machine.run state first = some middle ∧
        machine.run middle second = some final := by
  induction first generalizing state with
  | nil => simp
  | cons event events ih =>
      simp only [List.cons_append, run_cons, ih]
      constructor
      · rintro ⟨next, taken, middle, rest, last⟩
        exact ⟨middle, ⟨next, taken, rest⟩, last⟩
      · rintro ⟨middle, ⟨next, taken, rest⟩, last⟩
        exact ⟨next, taken, middle, rest, last⟩

theorem run_preserves (holds : σ → Prop)
    (preserved : ∀ state event next, holds state → machine.step state event = some next →
      holds next)
    {state final : σ} {events : List ε} (start : holds state)
    (ran : machine.run state events = some final) : holds final := by
  induction events generalizing state with
  | nil =>
      cases ran
      exact start
  | cons event events ih =>
      obtain ⟨next, taken, rest⟩ := (machine.run_cons).mp ran
      exact ih (preserved state event next start taken) rest

theorem reachable_invariant (holds : σ → Prop)
    (initial : ∀ state, machine.init state → holds state)
    (preserved : ∀ state event next, holds state → machine.step state event = some next →
      holds next)
    {state : σ} (reachable : machine.Reachable state) : holds state := by
  obtain ⟨start, events, begun, ran⟩ := reachable
  exact machine.run_preserves holds preserved (initial start begun) ran

/-- Where a run of given events ends, with a start that counts where it has no end. -/
theorem reachable_getD {start : σ} {events : List ε} (begun : machine.init start)
    (succeeds : (machine.run start events).isSome = true) :
    machine.Reachable ((machine.run start events).getD start) := by
  obtain ⟨final, ran⟩ := Option.isSome_iff_exists.mp succeeds
  rw [ran]
  exact ⟨start, events, begun, ran⟩

theorem Reachable.of_step {state next : σ} {event : ε} (reachable : machine.Reachable state)
    (taken : machine.step state event = some next) : machine.Reachable next := by
  obtain ⟨start, events, begun, ran⟩ := reachable
  refine ⟨start, events ++ [event], begun, machine.run_append.mpr ⟨state, ran, ?_⟩⟩
  exact machine.run_cons.mpr ⟨next, taken, rfl⟩

/-- Every event of the run is allowed in the state in which it is taken. -/
def Complies (allowed : σ → ε → Prop) : σ → List ε → Prop
  | _, [] => True
  | state, event :: events =>
      allowed state event ∧
        ∀ next ∈ machine.step state event, Complies allowed next events

theorem complies_of_forall {allowed : σ → ε → Prop} (all : ∀ state event, allowed state event)
    (state : σ) (events : List ε) : machine.Complies allowed state events := by
  induction events generalizing state with
  | nil => trivial
  | cons event events ih => exact ⟨all state event, fun next _ => ih next⟩

theorem complies_preserves (allowed : σ → ε → Prop) (holds : σ → Prop)
    (preserved : ∀ state event next, holds state → allowed state event →
      machine.step state event = some next → holds next)
    {state final : σ} {events : List ε} (start : holds state)
    (complies : machine.Complies allowed state events)
    (ran : machine.run state events = some final) : holds final := by
  induction events generalizing state with
  | nil =>
      cases ran
      exact start
  | cons event events ih =>
      obtain ⟨next, taken, rest⟩ := (machine.run_cons).mp ran
      exact ih (preserved state event next start complies.1 taken) (complies.2 next taken) rest

/-- Checks a run against a condition that can be evaluated. -/
def check (allowed : σ → ε → Bool) : σ → List ε → Bool
  | _, [] => true
  | state, event :: events =>
      allowed state event && (machine.step state event).all fun next => check allowed next events

theorem complies_of_check {allowed : σ → ε → Bool} {state : σ} {events : List ε}
    (checked : machine.check allowed state events = true) :
    machine.Complies (fun state event => allowed state event = true) state events := by
  induction events generalizing state with
  | nil => trivial
  | cons event events ih =>
      simp only [check, Bool.and_eq_true] at checked
      refine ⟨checked.1, ?_⟩
      intro next taken
      have rest := checked.2
      rw [Option.mem_def.mp taken] at rest
      exact ih rest

end Machine
end JupiterSuite.Base
