import JupiterSuite.Faucet.PokeCatchUp

/-! Event Horizon hints of the disburser and of the relay. Their poke code is the faucet's but for
the hint, which moves the deadline that it shares with the earlier ones. -/

namespace JupiterSuite.TrailingHints

open Base Faucet

/-- Whether a deferred timer has to be set. The deadline is an interval after the last hint. -/
def recordHint (runtime : PokeRuntimeState) (nowNs : Nat) : PokeRuntimeState × Bool :=
  ({ runtime with dueAtNs := some (satAdd u64Max nowNs pokeIntervalNs), timerPending := true },
    !runtime.timerPending)

def hint (sys : PokeSystem) : PokeSystem :=
  let recorded := recordHint sys.runtime sys.clock
  let kept := { sys with runtime := recorded.1 }
  if recorded.2 then kept.scheduleDeferred pokeIntervalNs else kept

def handleEventHorizonPoke (sys : PokeSystem) : PokeSystem := (hint sys).attempt

inductive HintEvent where
  | poke (nowNs : Nat)
  | fire (index nowNs : Nat)
  deriving DecidableEq, Repr

def HintEvent.time : HintEvent → Nat
  | .poke nowNs => nowNs
  | .fire _ nowNs => nowNs

/-- The clock never goes back and stays clear of the saturation of its sums. -/
def stepHint (sys : PokeSystem) (event : HintEvent) : Option PokeSystem :=
  if sys.clock ≤ event.time ∧ event.time + pokeIntervalNs ≤ u64Max then
    let timed := { sys with clock := event.time }
    match event with
    | .poke nowNs => some (handleEventHorizonPoke (timed.noted (.hinted nowNs)))
    | .fire index _ =>
        if index < sys.timers.length then
          some (PokeSystem.fire { timed with timers := sys.timers.eraseIdx index })
        else none
  else none

def hints : Machine PokeSystem HintEvent where
  init := fun sys => sys.runtime = .default ∧ sys.timers = [] ∧ sys.log = []
  step := stepHint

/-- The deadline of the one outstanding timer is never before the gate opens. -/
def Deadline (sys : PokeSystem) : Prop :=
  (sys.timers = [] ∧ sys.runtime.dueAtNs = none ∧ sys.runtime.timerPending = false) ∨
    ∃ due timer, sys.timers = [timer] ∧ sys.runtime.dueAtNs = some due ∧
      sys.runtime.timerPending = true ∧ sys.runtime.nextAttemptAllowedAtNs ≤ due

def Answered (sys : PokeSystem) : Prop :=
  ∀ before hinted after, sys.log = before ++ .hinted hinted :: after →
    (∀ admitted, .admitted admitted ∉ after) → sys.timers ≠ []

structure HintInvariant (sys : PokeSystem) : Prop where
  gated : Gated sys
  deadline : Deadline sys
  answered : Answered sys
  unskipped : ∀ skipped, .skipped skipped ∉ sys.log

variable {nowNs : Nat}

section Steps

variable {sys next : PokeSystem} {record : PokeRecord} {event : HintEvent}

theorem Answered.snoc (answered : Answered sys) (log : next.log = sys.log ++ [record])
    (fresh : ∀ nowNs, record = .hinted nowNs → next.timers ≠ [])
    (kept : sys.timers ≠ [] → next.timers ≠ [] ∨ ∃ nowNs, record = .admitted nowNs) :
    Answered next := by
  intro before hinted after split unserved
  rw [log] at split
  rcases split_snoc split with ⟨_, rfl, _⟩ | ⟨rest, rfl, old⟩
  · exact fresh hinted rfl
  · have quiet : ∀ admitted, PokeRecord.admitted admitted ∉ rest := by
      intro admitted member
      exact unserved admitted (List.mem_append_left _ member)
    rcases kept (answered before hinted rest old quiet) with still | ⟨nowNs, rfl⟩
    · exact still
    · exact absurd (List.mem_append_right rest (List.mem_singleton_self _)) (unserved nowNs)

theorem Gated.reach (gated : Gated sys) :
    sys.runtime.nextAttemptAllowedAtNs ≤ sys.clock + pokeIntervalNs := by
  rcases gated.tight with zero | ⟨admitted, member, equal⟩
  · rw [zero]
    exact Nat.zero_le _
  · rw [equal]
    exact Nat.add_le_add_right (gated.past admitted member) _

theorem HintInvariant.timed (invariant : HintInvariant sys) (forward : sys.clock ≤ nowNs) :
    HintInvariant { sys with clock := nowNs } where
  gated := {
    past := fun admitted member => Nat.le_trans (invariant.gated.past admitted member) forward
    bound := invariant.gated.bound
    tight := invariant.gated.tight
    spaced := invariant.gated.spaced }
  deadline := invariant.deadline
  answered := invariant.answered
  unskipped := invariant.unskipped

theorem unskipped_snoc (unskipped : ∀ skipped, PokeRecord.skipped skipped ∉ sys.log)
    (log : next.log = sys.log ++ [record]) (other : ∀ skipped, record ≠ .skipped skipped)
    (skipped : Nat) : .skipped skipped ∉ next.log := by
  rw [log]
  intro member
  rcases List.mem_append.mp member with old | new
  · exact unskipped skipped old
  · exact other skipped (List.mem_singleton.mp new).symm

theorem hint_keeps (invariant : HintInvariant sys)
    (fits : sys.clock + pokeIntervalNs ≤ u64Max) :
    HintInvariant (hint (sys.noted (.hinted sys.clock))) := by
  have gated := invariant.gated
  have reach := Gated.reach gated
  rcases invariant.deadline with ⟨empty, idle, calm⟩ | ⟨due, timer, one, known, pending, _⟩
  · have hinted : hint (sys.noted (.hinted sys.clock)) = { sys with
        runtime := { sys.runtime with
          dueAtNs := some (sys.clock + pokeIntervalNs), timerPending := true }
        timers := [sys.clock + pokeIntervalNs]
        log := sys.log ++ [.hinted sys.clock] } := by
      simp [PokeSystem.noted, hint, recordHint, calm, PokeSystem.scheduleDeferred, empty,
        deadline_fits fits]
    rw [hinted]
    constructor
    · exact gated.of_log rfl rfl rfl rfl
    · exact .inr ⟨_, _, rfl, rfl, rfl, reach⟩
    · exact invariant.answered.snoc rfl (fun _ _ => by simp) (fun _ => .inl (by simp))
    · exact unskipped_snoc invariant.unskipped rfl (by simp)
  · have hinted : hint (sys.noted (.hinted sys.clock)) = { sys with
        runtime := { sys.runtime with
          dueAtNs := some (sys.clock + pokeIntervalNs), timerPending := true }
        log := sys.log ++ [.hinted sys.clock] } := by
      simp [PokeSystem.noted, hint, recordHint, pending, deadline_fits fits]
    rw [hinted]
    constructor
    · exact gated.of_log rfl rfl rfl rfl
    · exact .inr ⟨_, timer, one, rfl, rfl, reach⟩
    · exact invariant.answered.snoc rfl (fun _ _ => by simp [one]) .inl
    · exact unskipped_snoc invariant.unskipped rfl (by simp)

/-- A poke is answered inline, or its gate opens before its deadline. -/
theorem handleEventHorizonPoke_keeps (invariant : HintInvariant sys)
    (fits : sys.clock + pokeIntervalNs ≤ u64Max) :
    HintInvariant (handleEventHorizonPoke (sys.noted (.hinted sys.clock))) := by
  have hinted := hint_keeps invariant fits
  have clock : (hint (sys.noted (.hinted sys.clock))).clock = sys.clock := by
    simp only [hint, PokeSystem.scheduleDeferred]
    split <;> rfl
  have due : (hint (sys.noted (.hinted sys.clock))).runtime.dueAtNs =
      some (sys.clock + pokeIntervalNs) := by
    simp only [PokeSystem.noted, hint, recordHint, PokeSystem.scheduleDeferred,
      deadline_fits fits]
    split <;> rfl
  rw [handleEventHorizonPoke]
  generalize hint (sys.noted (.hinted sys.clock)) = after at hinted clock due ⊢
  rcases Nat.lt_or_ge after.clock after.runtime.nextAttemptAllowedAtNs with refused | allowed
  · rw [attempt_refused refused]
    exact hinted
  · rw [attempt_admitted (clock.symm ▸ fits) allowed]
    constructor
    · exact hinted.gated.admit allowed rfl rfl rfl
    · rcases hinted.deadline with ⟨_, idle, _⟩ | ⟨deadline, timer, one, known, pending, _⟩
      · rw [due] at idle
        cases idle
      · refine .inr ⟨_, timer, one, due, pending, ?_⟩
        dsimp only
        rw [clock]
    · exact hinted.answered.snoc rfl (fun _ same => by cases same) .inl
    · exact unskipped_snoc hinted.unskipped rfl (by simp)

theorem erase_outstanding {timer index : Nat} (one : sys.timers = [timer])
    (found : index < sys.timers.length) : sys.timers.eraseIdx index = [] := by
  have first : index = 0 := by
    rw [one] at found
    simpa using found
  rw [one, first]
  rfl

theorem fire_keeps (invariant : HintInvariant sys)
    (fits : sys.clock + pokeIntervalNs ≤ u64Max) {index : Nat}
    (found : index < sys.timers.length) :
    HintInvariant (PokeSystem.fire { sys with timers := sys.timers.eraseIdx index }) := by
  rcases invariant.deadline with ⟨empty, _, _⟩ | ⟨due, timer, one, known, pending, opens⟩
  · simp [empty] at found
  · rw [erase_outstanding one found]
    rcases Nat.lt_or_ge sys.clock due with early | reached
    · rw [fire_early known early]
      constructor
      · exact ⟨invariant.gated.past, invariant.gated.bound, invariant.gated.tight,
          invariant.gated.spaced⟩
      · exact .inr ⟨due, due, rfl, known, pending, opens⟩
      · intro before hinted after _ _
        simp
      · exact invariant.unskipped
    · have allowed : sys.runtime.nextAttemptAllowedAtNs ≤ sys.clock :=
        Nat.le_trans opens reached
      rw [fire_due known reached, deferred_admitted fits allowed]
      constructor
      · exact invariant.gated.admit allowed rfl rfl rfl
      · exact .inl ⟨rfl, rfl, rfl⟩
      · exact invariant.answered.snoc rfl (fun _ same => by cases same)
          (fun _ => .inr ⟨_, rfl⟩)
      · exact unskipped_snoc invariant.unskipped rfl (by simp)

theorem stepHint_fire {timer : Nat} (one : sys.timers = [timer]) (forward : sys.clock ≤ nowNs)
    (fits : nowNs + pokeIntervalNs ≤ u64Max) :
    stepHint sys (.fire 0 nowNs) =
      some (PokeSystem.fire { sys with clock := nowNs, timers := [] }) := by
  simp [stepHint, HintEvent.time, forward, fits, one]

theorem fire_later {due : Nat} (known : sys.runtime.dueAtNs = some due) (reached : due ≤ nowNs) :
    PokeSystem.fire { sys with clock := nowNs, timers := [] } =
      (closed { sys with clock := nowNs }).deferredAttempt := by
  have late : ¬ due > nowNs := by omega
  simp [PokeSystem.fire, deferredTimerAction, known, late, closed]

theorem stepHint_keeps (invariant : HintInvariant sys)
    (taken : stepHint sys event = some next) : HintInvariant next := by
  simp only [stepHint] at taken
  split at taken
  · rename_i admitted
    have timed := invariant.timed admitted.1
    cases event with
    | poke nowNs =>
        cases taken
        exact handleEventHorizonPoke_keeps timed admitted.2
    | fire index nowNs =>
        dsimp only at taken
        split at taken
        · rename_i found
          cases taken
          exact fire_keeps timed admitted.2 found
        · cases taken
  · cases taken

theorem reachable_hints (reachable : hints.Reachable sys) : HintInvariant sys := by
  refine hints.reachable_invariant HintInvariant ?_
    (fun _ _ _ invariant taken => stepHint_keeps invariant taken) reachable
  rintro start ⟨runtime, timers, log⟩
  constructor
  · constructor
    · intro admitted member
      rw [log] at member
      cases member
    · intro admitted member
      rw [log] at member
      cases member
    · left
      rw [runtime]
      rfl
    · rw [log]
      exact List.Pairwise.nil
  · refine .inl ⟨timers, ?_, ?_⟩ <;> rw [runtime] <;> rfl
  · intro before hinted after split
    rw [log] at split
    simp at split
  · intro skipped member
    rw [log] at member
    cases member

end Steps

structure HintsKept (sys : PokeSystem) : Prop where
  spaced : (sys.log.filterMap PokeRecord.admittedAt).Pairwise fun earlier later =>
    earlier + pokeIntervalNs ≤ later
  single : sys.timers.length ≤ 1
  unskipped : ∀ skipped, .skipped skipped ∉ sys.log
  answered : ∀ before hinted after, sys.log = before ++ .hinted hinted :: after →
    (∀ admitted, .admitted admitted ∉ after) →
      ∃ due, sys.runtime.dueAtNs = some due ∧ sys.timers.length = 1 ∧
        ∀ nowNs, sys.clock ≤ nowNs → due ≤ nowNs → nowNs + pokeIntervalNs ≤ u64Max →
          ∃ next, stepHint sys (.fire 0 nowNs) = some next ∧
            next.log = sys.log ++ [.admitted nowNs]

theorem hints_kept {sys : PokeSystem} (reachable : hints.Reachable sys) : HintsKept sys := by
  have invariant := reachable_hints reachable
  constructor
  · exact invariant.gated.spaced
  · rcases invariant.deadline with ⟨empty, _⟩ | ⟨due, timer, one, _⟩
    · rw [empty]
      exact Nat.zero_le _
    · rw [one]
      exact Nat.le_refl _
  · exact invariant.unskipped
  · intro before hinted after split unserved
    have outstanding := invariant.answered before hinted after split unserved
    rcases invariant.deadline with ⟨empty, _⟩ | ⟨due, timer, one, known, pending, opens⟩
    · exact absurd empty outstanding
    · refine ⟨due, known, by rw [one]; rfl, ?_⟩
      intro nowNs forward reached fits
      refine ⟨_, stepHint_fire one forward fits, ?_⟩
      have allowed : PokeSystem.deferredAttempt (closed { sys with clock := nowNs }) = _ :=
        deferred_admitted (by exact fits) (Nat.le_trans opens reached)
      rw [fire_later known reached, allowed]

section Sample

/-- A second hint postpones the timer of the first, which fires before the new deadline. -/
def hintSampleSystem : PokeSystem :=
  (hints.run ⟨.default, [], 0, []⟩
    [.poke 0, .poke 5000000000, .fire 0 10000000000]).getD ⟨.default, [], 0, []⟩

theorem hintSampleSystem_reachable : hints.Reachable hintSampleSystem :=
  hints.reachable_getD ⟨rfl, rfl, rfl⟩ (by decide +kernel)

theorem hints_kept_postponed :
    hintSampleSystem.timers = [15000000000] ∧
      hintSampleSystem.log = [.hinted 0, .admitted 0, .hinted 5000000000] ∧
      HintsKept hintSampleSystem :=
  ⟨by decide +kernel, by decide +kernel, hints_kept hintSampleSystem_reachable⟩

end Sample

end JupiterSuite.TrailingHints
