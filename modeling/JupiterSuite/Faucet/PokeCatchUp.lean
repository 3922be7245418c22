import JupiterSuite.Faucet.Poke

/-! Hints, inline attempts and late timers in any order: what the rate gate spaces, and which
hints it may leave without a catch-up attempt. -/

namespace JupiterSuite.Faucet

open Base

def PokeRecord.admittedAt : PokeRecord → Option Nat
  | .admitted nowNs => some nowNs
  | _ => none

theorem mem_admittedAt {log : List PokeRecord} {nowNs : Nat} :
    nowNs ∈ log.filterMap PokeRecord.admittedAt ↔ .admitted nowNs ∈ log := by
  rw [List.mem_filterMap]
  constructor
  · rintro ⟨record, member, found⟩
    cases record <;> simp only [PokeRecord.admittedAt, reduceCtorEq, Option.some.injEq] at found
    rwa [← found]
  · intro member
    exact ⟨.admitted nowNs, member, rfl⟩

structure Gated (sys : PokeSystem) : Prop where
  past : ∀ admitted, .admitted admitted ∈ sys.log → admitted ≤ sys.clock
  bound : ∀ admitted, .admitted admitted ∈ sys.log →
    admitted + pokeIntervalNs ≤ sys.runtime.nextAttemptAllowedAtNs
  tight : sys.runtime.nextAttemptAllowedAtNs = 0 ∨ ∃ admitted, .admitted admitted ∈ sys.log ∧
    sys.runtime.nextAttemptAllowedAtNs = admitted + pokeIntervalNs
  spaced : (sys.log.filterMap PokeRecord.admittedAt).Pairwise fun earlier later =>
    earlier + pokeIntervalNs ≤ later

/-- The pending window and its one timer, set for an interval after the hint that opened it. -/
def Opened (sys : PokeSystem) (due opened : Nat) : Prop :=
  due = opened + pokeIntervalNs ∧ ∃ before after, sys.log = before ++ .hinted opened :: after ∧
    ∀ admitted, .admitted admitted ∈ before → admitted ≤ opened

def Windowed (sys : PokeSystem) : Prop :=
  (sys.timers = [] ∧ sys.runtime.dueAtNs = none ∧ sys.runtime.timerPending = false) ∨
    ∃ due opened, sys.timers = [due] ∧ sys.runtime.dueAtNs = some due ∧
      sys.runtime.timerPending = true ∧ Opened sys due opened

/-- The one way a hint is left alone: its timer fired and the gate was still closed. -/
def RateLimited (before after : List PokeRecord) : Prop :=
  ∃ skipped admitted, .skipped skipped ∈ after ∧ .admitted admitted ∈ before ∧
    skipped < admitted + pokeIntervalNs

def CaughtUp (sys : PokeSystem) : Prop :=
  ∀ before hinted after, sys.log = before ++ .hinted hinted :: after →
    (∀ admitted, .admitted admitted ∉ after) → sys.timers ≠ [] ∨ RateLimited before after

structure PokeInvariant (sys : PokeSystem) : Prop where
  gated : Gated sys
  windowed : Windowed sys
  caughtUp : CaughtUp sys

variable {next sys : PokeSystem} {record : PokeRecord} {opened : Nat}

theorem Gated.of_log (gated : Gated sys) (quiet : record.admittedAt = none)
    (log : next.log = sys.log ++ [record]) (clock : next.clock = sys.clock)
    (gate : next.runtime.nextAttemptAllowedAtNs = sys.runtime.nextAttemptAllowedAtNs) :
    Gated next := by
  have same : ∀ admitted, PokeRecord.admitted admitted ∈ next.log ↔ .admitted admitted ∈ sys.log := by
    intro admitted
    rw [← mem_admittedAt, ← mem_admittedAt, log, List.filterMap_append]
    simp [quiet]
  constructor
  · intro admitted member
    rw [clock]
    exact gated.past admitted ((same admitted).mp member)
  · intro admitted member
    rw [gate]
    exact gated.bound admitted ((same admitted).mp member)
  · rw [gate]
    rcases gated.tight with zero | ⟨admitted, member, equal⟩
    · exact .inl zero
    · exact .inr ⟨admitted, (same admitted).mpr member, equal⟩
  · rw [log, List.filterMap_append]
    simpa [quiet] using gated.spaced

theorem Gated.admit (gated : Gated sys) (allowed : sys.runtime.nextAttemptAllowedAtNs ≤ sys.clock)
    (log : next.log = sys.log ++ [.admitted sys.clock]) (clock : next.clock = sys.clock)
    (gate : next.runtime.nextAttemptAllowedAtNs = sys.clock + pokeIntervalNs) : Gated next := by
  have split : ∀ admitted, PokeRecord.admitted admitted ∈ next.log →
      .admitted admitted ∈ sys.log ∨ admitted = sys.clock := by
    intro admitted member
    rw [log] at member
    simpa using member
  constructor
  · intro admitted member
    rw [clock]
    rcases split admitted member with old | rfl
    · exact gated.past admitted old
    · exact Nat.le_refl _
  · intro admitted member
    rw [gate]
    rcases split admitted member with old | rfl
    · have past := gated.past admitted old
      omega
    · exact Nat.le_refl _
  · refine .inr ⟨sys.clock, ?_, gate⟩
    rw [log]
    simp
  · rw [log, List.filterMap_append, List.pairwise_append]
    refine ⟨gated.spaced, by simp [PokeRecord.admittedAt], ?_⟩
    intro earlier member later last
    have now : later = sys.clock := by simpa [PokeRecord.admittedAt] using last
    have bound := gated.bound earlier (mem_admittedAt.mp member)
    omega

theorem Opened.snoc {due : Nat} (window : Opened sys due opened)
    (log : next.log = sys.log ++ [record]) :
    Opened next due opened := by
  rcases window with ⟨deadline, before, after, split, past⟩
  refine ⟨deadline, before, after ++ [record], ?_, past⟩
  rw [log, split]
  simp

theorem CaughtUp.snoc (caughtUp : CaughtUp sys) (log : next.log = sys.log ++ [record])
    (fresh : ∀ nowNs, record = .hinted nowNs → next.timers ≠ [])
    (kept : sys.timers ≠ [] → next.timers ≠ [] ∨ (∃ nowNs, record = .admitted nowNs) ∨
      ∃ skipped, record = .skipped skipped ∧ skipped < sys.runtime.nextAttemptAllowedAtNs)
    (gated : Gated sys) : CaughtUp next := by
  intro before hinted after split unserved
  rw [log] at split
  rcases split_snoc split with ⟨_, rfl, _⟩ | ⟨rest, rfl, old⟩
  · exact .inl (fresh hinted rfl)
  · have quiet : ∀ admitted, PokeRecord.admitted admitted ∉ rest := by
      intro admitted member
      exact unserved admitted (List.mem_append_left _ member)
    rcases caughtUp before hinted rest old quiet with pending | limited
    · rcases kept pending with still | ⟨nowNs, rfl⟩ | ⟨skipped, rfl, closed⟩
      · exact .inl still
      · exact absurd (List.mem_append_right rest (List.mem_singleton.mpr rfl)) (unserved nowNs)
      · right
        rcases gated.tight with zero | ⟨admitted, member, equal⟩
        · omega
        · rw [old] at member
          have earlier : PokeRecord.admitted admitted ∈ before := by
            simpa [quiet admitted] using member
          exact ⟨skipped, admitted, List.mem_append_right _ (List.mem_singleton.mpr rfl), earlier,
            by omega⟩
    · rcases limited with ⟨skipped, admitted, member, earlier, closed⟩
      exact .inr ⟨skipped, admitted, List.mem_append_left _ member, earlier, closed⟩

theorem timed_invariant (invariant : PokeInvariant sys) {nowNs : Nat} (forward : sys.clock ≤ nowNs) :
    PokeInvariant { sys with clock := nowNs } where
  gated := {
    past := fun admitted member => Nat.le_trans (invariant.gated.past admitted member) forward
    bound := invariant.gated.bound
    tight := invariant.gated.tight
    spaced := invariant.gated.spaced }
  windowed := invariant.windowed
  caughtUp := invariant.caughtUp

theorem deadline_fits {nowNs : Nat} (fits : nowNs + pokeIntervalNs ≤ u64Max) :
    satAdd u64Max nowNs pokeIntervalNs = nowNs + pokeIntervalNs := satAdd_of_le fits

theorem hint_invariant (invariant : PokeInvariant sys) (fits : sys.clock + pokeIntervalNs ≤ u64Max) :
    PokeInvariant (sys.noted (.hinted sys.clock)).hint := by
  have gated := invariant.gated
  rcases invariant.windowed with ⟨empty, idle, calm⟩ | ⟨due, opened, one, known, pending, window⟩
  · have hinted : (sys.noted (.hinted sys.clock)).hint = { sys with
        runtime := { sys.runtime with
          dueAtNs := some (sys.clock + pokeIntervalNs), timerPending := true }
        timers := [sys.clock + pokeIntervalNs]
        log := sys.log ++ [.hinted sys.clock] } := by
      simp [PokeSystem.noted, PokeSystem.hint, recordHint, calm, PokeSystem.scheduleDeferred,
        empty, deadline_fits fits]
    rw [hinted]
    constructor
    · exact gated.of_log rfl rfl rfl rfl
    · refine .inr ⟨_, sys.clock, rfl, rfl, rfl, rfl, sys.log, [], rfl, ?_⟩
      exact gated.past
    · apply invariant.caughtUp.snoc rfl _ _ gated
      · intro nowNs _
        simp
      · intro _
        exact .inl (by simp)
  · have hinted : (sys.noted (.hinted sys.clock)).hint =
        { sys with log := sys.log ++ [.hinted sys.clock] } := by
      simp [PokeSystem.noted, PokeSystem.hint, recordHint, pending]
    rw [hinted]
    constructor
    · exact gated.of_log rfl rfl rfl rfl
    · exact .inr ⟨due, opened, one, known, pending, window.snoc rfl⟩
    · apply invariant.caughtUp.snoc rfl _ _ gated
      · intro nowNs _
        simp [one]
      · exact .inl

theorem attempt_admitted (fits : sys.clock + pokeIntervalNs ≤ u64Max)
    (allowed : sys.runtime.nextAttemptAllowedAtNs ≤ sys.clock) :
    sys.attempt = { sys with
      runtime := { sys.runtime with nextAttemptAllowedAtNs := sys.clock + pokeIntervalNs }
      log := sys.log ++ [.admitted sys.clock] } := by
  have shut : ¬ sys.runtime.nextAttemptAllowedAtNs > sys.clock := by omega
  simp [PokeSystem.attempt, PokeSystem.noted, admitAttempt, shut, deadline_fits fits]

theorem attempt_refused (refused : sys.clock < sys.runtime.nextAttemptAllowedAtNs) :
    sys.attempt = sys := by
  simp [PokeSystem.attempt, admitAttempt, refused]

theorem attempt_invariant (invariant : PokeInvariant sys)
    (fits : sys.clock + pokeIntervalNs ≤ u64Max) : PokeInvariant sys.attempt := by
  rcases Nat.lt_or_ge sys.clock sys.runtime.nextAttemptAllowedAtNs with refused | allowed
  · rw [attempt_refused refused]
    exact invariant
  · rw [attempt_admitted fits allowed]
    constructor
    · exact invariant.gated.admit allowed rfl rfl rfl
    · rcases invariant.windowed with idle | ⟨due, opened, one, known, pending, window⟩
      · exact .inl idle
      · exact .inr ⟨due, opened, one, known, pending, window.snoc rfl⟩
    · apply invariant.caughtUp.snoc rfl _ _ invariant.gated
      · intro nowNs same
        cases same
      · exact .inl

theorem hint_clock (sys : PokeSystem) : sys.hint.clock = sys.clock := by
  simp only [PokeSystem.hint, PokeSystem.scheduleDeferred]
  split <;> rfl

theorem handleEventHorizonPoke_invariant (invariant : PokeInvariant sys)
    (fits : sys.clock + pokeIntervalNs ≤ u64Max) :
    PokeInvariant (sys.noted (.hinted sys.clock)).handleEventHorizonPoke := by
  apply attempt_invariant (hint_invariant invariant fits)
  rw [hint_clock]
  exact fits

/-- What a firing of the outstanding timer does: before its deadline it is set again, and from
then on it is the deferred attempt. -/
theorem fire_early {due : Nat} (known : sys.runtime.dueAtNs = some due) (early : sys.clock < due) :
    PokeSystem.fire { sys with timers := [] } = { sys with timers := [due] } := by
  have remaining : sys.clock + (due - sys.clock) = due := by omega
  simp [PokeSystem.fire, deferredTimerAction, known, early, PokeSystem.scheduleDeferred, remaining]

def closed (sys : PokeSystem) : PokeSystem :=
  { sys with
    runtime := { sys.runtime with dueAtNs := none, timerPending := false }
    timers := [] }

theorem fire_due {due : Nat} (known : sys.runtime.dueAtNs = some due) (reached : due ≤ sys.clock) :
    PokeSystem.fire { sys with timers := [] } = (closed sys).deferredAttempt := by
  have late : ¬ due > sys.clock := by omega
  simp [PokeSystem.fire, deferredTimerAction, known, late, closed]

theorem deferred_admitted (fits : sys.clock + pokeIntervalNs ≤ u64Max)
    (allowed : sys.runtime.nextAttemptAllowedAtNs ≤ sys.clock) :
    (closed sys).deferredAttempt = { closed sys with
      runtime := { (closed sys).runtime with
        nextAttemptAllowedAtNs := sys.clock + pokeIntervalNs }
      log := sys.log ++ [.admitted sys.clock] } := by
  have shut : ¬ sys.runtime.nextAttemptAllowedAtNs > sys.clock := by omega
  simp [PokeSystem.deferredAttempt, PokeSystem.attempt, PokeSystem.noted, admitAttempt, closed,
    shut, deadline_fits fits]

theorem deferred_skipped (refused : sys.clock < sys.runtime.nextAttemptAllowedAtNs) :
    (closed sys).deferredAttempt = { closed sys with log := sys.log ++ [.skipped sys.clock] } := by
  simp [PokeSystem.deferredAttempt, PokeSystem.noted, admitAttempt, closed, refused]

theorem fire_invariant (invariant : PokeInvariant sys) (fits : sys.clock + pokeIntervalNs ≤ u64Max)
    {index : Nat} (found : index < sys.timers.length) :
    PokeInvariant (PokeSystem.fire { sys with timers := sys.timers.eraseIdx index }) := by
  have gated := invariant.gated
  rcases invariant.windowed with ⟨empty, _, _⟩ | ⟨due, opened, one, known, pending, window⟩
  · simp [empty] at found
  · have gone : sys.timers.eraseIdx index = [] := by
      have first : index = 0 := by
        rw [one] at found
        simpa using found
      rw [one, first]
      rfl
    rw [gone]
    rcases Nat.lt_or_ge sys.clock due with early | reached
    · rw [fire_early known early, ← one]
      exact invariant
    · rw [fire_due known reached]
      rcases Nat.lt_or_ge sys.clock sys.runtime.nextAttemptAllowedAtNs with refused | allowed
      · rw [deferred_skipped refused]
        constructor
        · exact gated.of_log rfl rfl rfl rfl
        · exact .inl ⟨rfl, rfl, rfl⟩
        · apply invariant.caughtUp.snoc rfl _ _ gated
          · intro nowNs same
            cases same
          · intro _
            exact .inr (.inr ⟨sys.clock, rfl, refused⟩)
      · rw [deferred_admitted fits allowed]
        constructor
        · exact gated.admit allowed rfl rfl rfl
        · exact .inl ⟨rfl, rfl, rfl⟩
        · apply invariant.caughtUp.snoc rfl _ _ gated
          · intro nowNs same
            cases same
          · intro _
            exact .inr (.inl ⟨sys.clock, rfl⟩)

theorem stepPoke_some {event : PokeEvent} (taken : stepPoke sys event = some next) :
    sys.clock ≤ event.time ∧ event.time + pokeIntervalNs ≤ u64Max := by
  simp only [stepPoke] at taken
  split at taken
  · assumption
  · cases taken

theorem step_invariant (sys : PokeSystem) (event : PokeEvent) (next : PokeSystem)
    (invariant : PokeInvariant sys) (taken : stepPoke sys event = some next) :
    PokeInvariant next := by
  have bounds := stepPoke_some taken
  have timed := timed_invariant invariant bounds.1
  cases event with
  | poke nowNs =>
      simp only [stepPoke, bounds, and_self, if_true, Option.some.injEq] at taken
      rw [← taken]
      exact handleEventHorizonPoke_invariant timed bounds.2
  | hint nowNs =>
      simp only [stepPoke, bounds, and_self, if_true, Option.some.injEq] at taken
      rw [← taken]
      exact hint_invariant timed bounds.2
  | attempt nowNs =>
      simp only [stepPoke, bounds, and_self, if_true, Option.some.injEq] at taken
      rw [← taken]
      exact attempt_invariant timed bounds.2
  | fire index nowNs =>
      simp only [stepPoke, bounds, and_self, if_true] at taken
      split at taken
      · rename_i found
        simp only [Option.some.injEq] at taken
        rw [← taken]
        exact fire_invariant timed bounds.2 found
      · cases taken

theorem reachable_pokeInvariant (reachable : pokes.Reachable sys) : PokeInvariant sys := by
  apply pokes.reachable_invariant PokeInvariant _ step_invariant reachable
  rintro start ⟨fresh, empty, silent⟩
  constructor
  · constructor <;> simp [silent, fresh, PokeRuntimeState.default]
  · exact .inl ⟨empty, by rw [fresh]; rfl, by rw [fresh]; rfl⟩
  · intro before hinted after split
    simp [silent] at split

/-- No attempt that was admitted after the hint at `opened` keeps the gate shut. -/
def GateOpen (log : List PokeRecord) (opened nowNs : Nat) : Prop :=
  ∀ admitted, .admitted admitted ∈ log → opened < admitted → admitted + pokeIntervalNs ≤ nowNs

theorem gateOpen_iff (gated : Gated sys) {due nowNs : Nat} (window : Opened sys due opened)
    (reached : due ≤ nowNs) :
    GateOpen sys.log opened nowNs ↔ sys.runtime.nextAttemptAllowedAtNs ≤ nowNs := by
  constructor
  · intro passable
    rcases gated.tight with zero | ⟨admitted, member, equal⟩
    · omega
    · rw [equal]
      rcases Nat.lt_or_ge opened admitted with later | earlier
      · exact passable admitted member later
      · have deadline := window.1
        omega
  · intro allowed admitted member _
    have bound := gated.bound admitted member
    omega

theorem firing (invariant : PokeInvariant sys) {due nowNs : Nat} (one : sys.timers = [due])
    (known : sys.runtime.dueAtNs = some due) (window : Opened sys due opened)
    (taken : stepPoke sys (.fire 0 nowNs) = some next) :
    (nowNs < due →
      next.timers = [due] ∧ next.log = sys.log ∧ next.runtime = sys.runtime) ∧
    (due ≤ nowNs → next.timers = [] ∧
      (GateOpen sys.log opened nowNs → next.log = sys.log ++ [.admitted nowNs]) ∧
      (¬ GateOpen sys.log opened nowNs → next.log = sys.log ++ [.skipped nowNs])) := by
  have bounds := stepPoke_some taken
  have fired : PokeSystem.fire { sys with clock := nowNs, timers := [] } = next := by
    simp only [stepPoke, bounds, and_self, if_true, one, List.length_singleton, Nat.zero_lt_one,
      List.eraseIdx_zero, List.tail_cons, Option.some.injEq] at taken
    exact taken
  have clocked : PokeSystem.fire { { sys with clock := nowNs } with timers := [] } = next := fired
  constructor
  · intro early
    rw [@fire_early { sys with clock := nowNs } due known early] at clocked
    rw [← clocked]
    exact ⟨rfl, rfl, rfl⟩
  · intro reached
    rw [@fire_due { sys with clock := nowNs } due known reached] at clocked
    have gate := gateOpen_iff invariant.gated window reached
    rcases Nat.lt_or_ge nowNs sys.runtime.nextAttemptAllowedAtNs with refused | allowed
    · rw [@deferred_skipped { sys with clock := nowNs } refused] at clocked
      rw [← clocked]
      exact ⟨rfl, fun passable => absurd (gate.mp passable) (by omega), fun _ => rfl⟩
    · rw [@deferred_admitted { sys with clock := nowNs } bounds.2 allowed] at clocked
      rw [← clocked]
      exact ⟨rfl, fun _ => rfl, fun shut => absurd (gate.mpr allowed) shut⟩

/-- Admitted attempts are spaced and at most one timer is outstanding. A hint that no admitted
attempt followed has a timer, unless its timer fired within the interval of an attempt that was
admitted before the hint; a timer that fires at its deadline or later is an attempt exactly when
no attempt admitted since the hint that set it is closer than the interval. -/
theorem poke_catch_up {sys : PokeSystem} (reachable : pokes.Reachable sys) :
    (sys.log.filterMap PokeRecord.admittedAt).Pairwise
        (fun earlier later => earlier + pokeIntervalNs ≤ later) ∧
    sys.timers.length ≤ 1 ∧
    (∀ before hinted after, sys.log = before ++ .hinted hinted :: after →
      (∀ admitted, .admitted admitted ∉ after) → sys.timers ≠ [] ∨ RateLimited before after) ∧
    (∀ due ∈ sys.timers, ∃ opened, due = opened + pokeIntervalNs ∧ .hinted opened ∈ sys.log ∧
      ∀ nowNs next, stepPoke sys (.fire 0 nowNs) = some next →
        (nowNs < due →
          next.timers = [due] ∧ next.log = sys.log ∧ next.runtime = sys.runtime) ∧
        (due ≤ nowNs → next.timers = [] ∧
          (GateOpen sys.log opened nowNs → next.log = sys.log ++ [.admitted nowNs]) ∧
          (¬ GateOpen sys.log opened nowNs → next.log = sys.log ++ [.skipped nowNs]))) := by
  have invariant := reachable_pokeInvariant reachable
  refine ⟨invariant.gated.spaced, ?_, invariant.caughtUp, ?_⟩
  · rcases invariant.windowed with ⟨empty, _⟩ | ⟨due, opened, one, _⟩
    · simp [empty]
    · simp [one]
  · intro due member
    rcases invariant.windowed with ⟨empty, _⟩ | ⟨deadline, opened, one, known, _, window⟩
    · simp [empty] at member
    · have same : due = deadline := by simpa [one] using member
      subst same
      refine ⟨opened, window.1, ?_, fun nowNs next => firing invariant one known window⟩
      rcases window.2 with ⟨before, after, split, _⟩
      rw [split]
      simp

def seconds (count : Nat) : Nat := count * nanosPerSecond

def idlePokes : PokeSystem := ⟨.default, [], 0, []⟩

/-- Pokes at 0, 15, 21 and 23 seconds: the third shares the window of the second but is admitted,
and the fourth shares it too. -/
def sharedWindow : List PokeEvent :=
  [.poke 0, .fire 0 (seconds 10), .poke (seconds 15), .poke (seconds 21), .poke (seconds 23)]

def afterSharedWindow : PokeSystem :=
  { runtime := ⟨some (seconds 25), true, seconds 31⟩
    timers := [seconds 25]
    clock := seconds 23
    log := [.hinted 0, .admitted 0, .admitted (seconds 10), .hinted (seconds 15),
      .hinted (seconds 21), .admitted (seconds 21), .hinted (seconds 23)] }

theorem afterSharedWindow_reachable : pokes.Reachable afterSharedWindow := by
  have ran : pokes.run idlePokes sharedWindow = some afterSharedWindow := by decide +kernel
  exact ⟨idlePokes, sharedWindow, ⟨rfl, rfl, rfl⟩, ran⟩

theorem poke_catch_up_of_shared_window :
    afterSharedWindow.timers ≠ [] ∨ RateLimited (afterSharedWindow.log.take 6) [] :=
  (poke_catch_up afterSharedWindow_reachable).2.2.1 _ (seconds 23) [] (by decide +kernel)
    (fun _ => List.not_mem_nil)

/-- The hint at 23 seconds follows the last admitted attempt, but the firing of the timer it
shares is refused two seconds later and leaves no timer. -/
theorem shared_window_skipped :
    ∃ sys next, pokes.Reachable sys ∧
      (∃ before, sys.log = before ++ [.admitted (seconds 21), .hinted (seconds 23)]) ∧
      stepPoke sys (.fire 0 (seconds 25)) = some next ∧
      next.log = sys.log ++ [.skipped (seconds 25)] ∧ next.timers = [] := by
  refine ⟨afterSharedWindow, ?_, afterSharedWindow_reachable, ⟨afterSharedWindow.log.take 5, ?_⟩, ?_⟩
  · exact { afterSharedWindow with
      runtime := ⟨none, false, seconds 31⟩
      timers := []
      clock := seconds 25
      log := afterSharedWindow.log ++ [.skipped (seconds 25)] }
  · decide +kernel
  · decide +kernel

end JupiterSuite.Faucet
