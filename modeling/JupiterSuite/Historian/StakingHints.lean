import JupiterSuite.Historian.StakingPokes

/-! Which hints of staking pokes are followed by an index attempt, and which ones may be left
without: those whose deferred check is skipped. -/

namespace JupiterSuite.Historian

open Base CommitmentEnv

/-- At most one timer is outstanding, and it is set for an interval after a hint. -/
def HintWindow (sys : StakingPokes) : Prop :=
  (sys.timers = [] ∧ sys.deferred.dueAtNs = none ∧ sys.deferred.timerPending = false) ∨
    ∃ opened, sys.timers = [opened + endowmentPokeIntervalNs] ∧
      sys.deferred.dueAtNs = some (opened + endowmentPokeIntervalNs) ∧
      sys.deferred.timerPending = true ∧ .hinted opened ∈ sys.log

/-- An index run began, or a deferred check was skipped. -/
def HintRecord.settles : HintRecord → Bool
  | .admitted _ _ | .refused _ _ => true
  | _ => false

/-- Every hint after which neither an attempt nor a skipped check came has the timer. -/
def HintsKept (sys : StakingPokes) : Prop :=
  ∀ before hinted after, sys.log = before ++ .hinted hinted :: after →
    (∀ record ∈ after, record.settles = false) → sys.timers ≠ []

/-- What does not depend on the timers. -/
structure LogSound (persisted : PokeState) (sys : StakingPokes) : Prop where
  trace : PokeTrace persisted sys.log sys.state
  reasons : ∀ before reason nowNs after, sys.log = before ++ .refused reason nowNs :: after →
    Justified persisted before nowNs reason
  runs : sys.runs.Holds (IndexRun.Begun sys.log)

structure StakingInvariant (persisted : PokeState) (sys : StakingPokes) : Prop where
  window : HintWindow sys
  kept : HintsKept sys
  sound : LogSound persisted sys

variable {log : List HintRecord} {owner : CommitmentIndexLeaseOwner} {running : IndexRun}

section Steps

variable {persisted : PokeState} {sys next : StakingPokes} {record : HintRecord}

theorem HintsKept.snoc (kept : HintsKept sys) (log : next.log = sys.log ++ [record])
    (fresh : ∀ nowNs, record = .hinted nowNs → next.timers ≠ [])
    (still : sys.timers ≠ [] → record.settles = false → next.timers ≠ []) : HintsKept next := by
  intro before hinted after split unsettled
  rw [log] at split
  rcases split_snoc split with ⟨_, rfl, _⟩ | ⟨rest, rfl, old⟩
  · exact fresh hinted rfl
  · apply still
    · exact kept before hinted rest old fun other member =>
        unsettled other (List.mem_append_left _ member)
    · exact unsettled record (List.mem_append_right rest (List.mem_singleton_self record))

theorem reasons_snoc
    (reasons : ∀ before reason nowNs after, log = before ++ .refused reason nowNs :: after →
      Justified persisted before nowNs reason)
    (justified : ∀ reason nowNs, record = .refused reason nowNs →
      Justified persisted log nowNs reason) :
    ∀ before reason nowNs after, log ++ [record] = before ++ .refused reason nowNs :: after →
      Justified persisted before nowNs reason := by
  intro before reason nowNs after split
  rcases split_snoc split with ⟨_, rfl, rfl⟩ | ⟨rest, _, old⟩
  · exact justified reason nowNs rfl
  · exact reasons before reason nowNs rest old

theorem HintWindow.grow (window : HintWindow sys) (timers : next.timers = sys.timers)
    (deferred : next.deferred = sys.deferred) (log : sys.log ⊆ next.log) : HintWindow next := by
  rcases window with ⟨empty, idle, calm⟩ | ⟨opened, one, known, pending, member⟩
  · exact .inl ⟨timers.trans empty, by rw [deferred]; exact idle, by rw [deferred]; exact calm⟩
  · exact .inr ⟨opened, timers.trans one, by rw [deferred]; exact known,
      by rw [deferred]; exact pending, log member⟩

theorem StakingInvariant.timed (invariant : StakingInvariant persisted sys) (nowNs : Nat) :
    StakingInvariant persisted { sys with clock := nowNs } where
  window := invariant.window
  kept := invariant.kept
  sound := ⟨invariant.sound.trace, invariant.sound.reasons, invariant.sound.runs⟩

theorem hint_clock (sys : StakingPokes) : sys.hint.clock = sys.clock := by
  simp only [StakingPokes.hint, StakingPokes.schedulePokeDeferredCheck]
  split <;> rfl

theorem hint_keeps (invariant : StakingInvariant persisted sys)
    (fits : sys.clock + endowmentPokeIntervalNs ≤ u64Max) :
    StakingInvariant persisted (sys.noted (.hinted sys.clock)).hint := by
  have contains : sys.log ⊆ sys.log ++ [HintRecord.hinted sys.clock] :=
    List.subset_append_left _ _
  have trace : PokeTrace persisted (sys.log ++ [.hinted sys.clock]) sys.state :=
    invariant.sound.trace.snoc rfl
  have runs : sys.runs.Holds (IndexRun.Begun (sys.log ++ [.hinted sys.clock])) :=
    invariant.sound.runs.mono fun _ begun => begun.mono contains
  have reasons := reasons_snoc invariant.sound.reasons
    (fun _ _ (same : HintRecord.hinted sys.clock = _) => by cases same)
  rcases invariant.window with ⟨empty, idle, calm⟩ | ⟨opened, one, known, pending, member⟩
  · have hinted : (sys.noted (.hinted sys.clock)).hint = { sys with
        deferred := ⟨some (sys.clock + endowmentPokeIntervalNs), true⟩
        timers := [sys.clock + endowmentPokeIntervalNs]
        log := sys.log ++ [.hinted sys.clock] } := by
      simp [StakingPokes.noted, StakingPokes.hint, recordPokeHint, calm,
        StakingPokes.schedulePokeDeferredCheck, empty, satAdd_of_le fits]
    rw [hinted]
    refine ⟨.inr ⟨sys.clock, rfl, rfl, rfl, by simp⟩, ?_, ⟨trace, reasons, runs⟩⟩
    exact invariant.kept.snoc rfl (fun _ _ => by simp) (fun _ _ => by simp)
  · have hinted : (sys.noted (.hinted sys.clock)).hint =
        { sys with log := sys.log ++ [.hinted sys.clock] } := by
      simp [StakingPokes.noted, StakingPokes.hint, recordPokeHint, pending]
    rw [hinted]
    refine ⟨invariant.window.grow rfl rfl contains, ?_, ⟨trace, reasons, runs⟩⟩
    exact invariant.kept.snoc rfl (fun _ _ => by simp [one]) (fun timers _ => timers)

theorem acquire_some {id : Nat} (taken : sys.acquire owner id = some next)
    (fits : sys.clock + endowmentPokeIntervalNs ≤ u64Max) :
    ∃ lock task, next = { sys with
        state := { sys.state with lock := lock }
        runs := sys.runs.put id (some ⟨owner, task, sys.nowSecs⟩)
        log := sys.log ++ [.admitted owner sys.clock] } ∧
      lock.generation = sys.state.lock.generation + 1 ∧
      lock.expiresAtTs.getD 0 = sys.clock / nanosPerSecond + commitmentIndexLeaseSeconds := by
  obtain ⟨⟨lock, task⟩, acquired, rfl⟩ := Option.map_eq_some_iff.mp taken
  refine ⟨lock, task, rfl, ?_⟩
  simp only [CommitmentIndexLock.acquire, FencedTimerLeaseGuard.acquire] at acquired
  obtain ⟨guard, guarded, same⟩ := Option.map_eq_some_iff.mp acquired
  split at guarded
  · cases guarded
  · obtain ⟨fresh, counted, rfl⟩ := Option.map_eq_some_iff.mp guarded
    cases same
    refine ⟨(checkedAdd_eq_some.mp counted).2, ?_⟩
    exact satAdd_of_le (seconds_fit fits (by decide))

theorem acquire_sound {id : Nat} (sound : LogSound persisted sys)
    (fits : sys.clock + endowmentPokeIntervalNs ≤ u64Max) (taken : sys.acquire owner id = some next) :
    LogSound persisted next ∧ next.timers = sys.timers ∧ next.deferred = sys.deferred ∧
      next.log = sys.log ++ [.admitted owner sys.clock] := by
  obtain ⟨lock, task, rfl, generation, lease⟩ := acquire_some taken fits
  have contains : sys.log ⊆ sys.log ++ [HintRecord.admitted owner sys.clock] :=
    List.subset_append_left _ _
  refine ⟨⟨?_, ?_, ?_⟩, rfl, rfl, rfl⟩
  · exact sound.trace.admit lease generation
  · exact reasons_snoc sound.reasons (fun _ _ same => by cases same)
  · refine Pool.Holds.put sound.runs ?_ ?_
    · intro running same
      cases same
      exact ⟨seconds_fit fits (by decide), sys.clock, by simp, rfl⟩
    · intro _ running _ _ begun
      exact begun.mono contains

theorem acquire_keeps {id : Nat} (invariant : StakingInvariant persisted sys)
    (fits : sys.clock + endowmentPokeIntervalNs ≤ u64Max) (taken : sys.acquire owner id = some next) :
    StakingInvariant persisted next := by
  obtain ⟨sound, timers, deferred, log⟩ := acquire_sound invariant.sound fits taken
  refine ⟨invariant.window.grow timers deferred ?_, ?_, sound⟩
  · rw [log]
    exact List.subset_append_left _ _
  · exact invariant.kept.snoc log (fun _ same => by cases same)
      (fun outstanding _ => by rwa [timers])

theorem refused_justified {id : Nat} {reason : PokeRefusal}
    (trace : PokeTrace persisted sys.log sys.state)
    (skipped : sys.handleEndowmentPoke id = .error reason) :
    Justified persisted sys.log sys.clock reason := by
  simp only [StakingPokes.handleEndowmentPoke, PokeState.admission] at skipped
  split at skipped
  · rename_i admission
    cases skipped
    split at admission
    · rename_i limited
      rcases trace.cooldown with same | ⟨begun, member, value⟩
      · rw [same] at limited
        exact .inl limited
      · rw [value] at limited
        exact .inr ⟨begun, member, limited⟩
    · split at admission <;> cases admission
  · rename_i admission
    cases skipped
    split at admission
    · cases admission
    · split at admission
      · rename_i held
        rcases trace.lease with free | same | ⟨taken, leased, value⟩
        · omega
        · rw [same] at held
          exact .inl held
        · rw [value] at held
          exact .inr ⟨taken, leased, held⟩
      · cases admission
  · rename_i admission
    split at skipped
    · rename_i full
      cases skipped
      split at admission
      · cases admission
      · split at admission
        · cases admission
        · rename_i free
          simp only [StakingPokes.acquire, CommitmentIndexLock.acquire,
            FencedTimerLeaseGuard.acquire, Option.map_eq_none_iff] at full
          split at full
          · rename_i shut
            simp only [Bool.and_eq_true, decide_eq_true_eq] at shut
            exact absurd shut.2 free
          · simp only [Option.map_eq_none_iff, checkedAdd] at full
            split at full
            · cases full
            · rename_i last
              have generation := trace.generation
              simp only [Justified]
              omega
    · cases skipped

theorem handleEndowmentPoke_ok {id : Nat} (begun : sys.handleEndowmentPoke id = .ok next) :
    sys.acquire .endowmentRefresh id = some next := by
  simp only [StakingPokes.handleEndowmentPoke] at begun
  split at begun
  · cases begun
  · cases begun
  · split at begun
    · cases begun
    · rename_i acquired taken
      cases begun
      exact taken

theorem attempt_keeps {id : Nat} (invariant : StakingInvariant persisted sys)
    (fits : sys.clock + endowmentPokeIntervalNs ≤ u64Max) :
    StakingInvariant persisted (sys.attempt id) := by
  simp only [StakingPokes.attempt]
  split
  · rename_i begun taken
    exact acquire_keeps invariant fits (handleEndowmentPoke_ok taken)
  · exact invariant

theorem deferredCheck_keeps {id : Nat} (kept : HintsKept sys) {checked : StakingPokes}
    (log : checked.log = sys.log) (empty : checked.timers = [])
    (idle : checked.deferred = ⟨none, false⟩) (sound : LogSound persisted checked)
    (fits : checked.clock + endowmentPokeIntervalNs ≤ u64Max) :
    StakingInvariant persisted (checked.deferredCheck id) := by
  simp only [StakingPokes.deferredCheck]
  split
  · rename_i begun taken
    obtain ⟨begun_sound, timers, deferred, begun_log⟩ :=
      acquire_sound sound fits (handleEndowmentPoke_ok taken)
    refine ⟨.inl ⟨timers.trans empty, ?_, ?_⟩, ?_, begun_sound⟩
    · rw [deferred, idle]
    · rw [deferred, idle]
    · exact kept.snoc (begun_log.trans (by rw [log])) (fun _ same => by cases same)
        (fun _ unsettled => by cases unsettled)
  · rename_i reason skipped
    have justified := refused_justified sound.trace skipped
    refine ⟨.inl ⟨empty, ?_, ?_⟩, ?_, ⟨sound.trace.snoc rfl, ?_, ?_⟩⟩
    · rw [StakingPokes.noted, idle]
    · rw [StakingPokes.noted, idle]
    · exact kept.snoc (congrArg (· ++ [HintRecord.refused reason checked.clock]) log)
        (fun _ same => by cases same) (fun _ unsettled => by cases unsettled)
    · apply reasons_snoc sound.reasons
      intro other nowNs same
      cases same
      exact justified
    · exact sound.runs.mono fun _ begun => begun.mono (List.subset_append_left _ _)

theorem erase_single {timer index : Nat} (one : sys.timers = [timer])
    (found : ¬ sys.timers.length ≤ index) : sys.timers.eraseIdx index = [] := by
  have first : index = 0 := by
    rw [one, List.length_singleton] at found
    omega
  rw [one, first]
  rfl

theorem fire_early {id due : Nat} (known : sys.deferred.dueAtNs = some due)
    (early : sys.clock < due) :
    sys.fire id = { sys with timers := sys.timers ++ [due] } := by
  have later : sys.clock + (due - sys.clock) = due := by omega
  simp [StakingPokes.fire, deferredTimerAction, known, early,
    StakingPokes.schedulePokeDeferredCheck, later]

theorem fire_due {id due : Nat} (known : sys.deferred.dueAtNs = some due)
    (reached : due ≤ sys.clock) :
    sys.fire id = StakingPokes.deferredCheck { sys with deferred := ⟨none, false⟩ } id := by
  have late : ¬ due > sys.clock := by omega
  simp [StakingPokes.fire, deferredTimerAction, known, late]

theorem fire_keeps {id index : Nat} (invariant : StakingInvariant persisted sys)
    (fits : sys.clock + endowmentPokeIntervalNs ≤ u64Max)
    (found : ¬ sys.timers.length ≤ index) :
    StakingInvariant persisted
      (StakingPokes.fire { sys with timers := sys.timers.eraseIdx index } id) := by
  rcases invariant.window with ⟨empty, _⟩ | ⟨opened, one, known, pending, member⟩
  · rw [empty] at found
    exact absurd (Nat.zero_le index) found
  · rw [erase_single one found]
    rcases Nat.lt_or_ge sys.clock (opened + endowmentPokeIntervalNs) with early | reached
    · have again := @fire_early { sys with timers := [] } id _ known early
      rw [again]
      refine ⟨.inr ⟨opened, rfl, known, pending, member⟩, ?_, ?_⟩
      · intro before hinted after split unsettled
        simp
      · exact ⟨invariant.sound.trace, invariant.sound.reasons, invariant.sound.runs⟩
    · have used := @fire_due { sys with timers := [] } id _ known reached
      rw [used]
      exact deferredCheck_keeps invariant.kept rfl rfl rfl
        ⟨invariant.sound.trace, invariant.sound.reasons, invariant.sound.runs⟩ fits

theorem quiet_keeps (invariant : StakingInvariant persisted sys) {st : PokeState}
    {runs : Pool IndexRun} (trace : PokeTrace persisted sys.log st)
    (begun : runs.Holds (IndexRun.Begun sys.log)) :
    StakingInvariant persisted { sys with state := st, runs := runs } :=
  ⟨invariant.window.grow rfl rfl (List.Subset.refl _), invariant.kept,
    ⟨trace, invariant.sound.reasons, begun⟩⟩

theorem renew_keeps {id : Nat} (invariant : StakingInvariant persisted sys)
    (fits : sys.clock + endowmentPokeIntervalNs ≤ u64Max) (present : sys.runs id = some running) :
    StakingInvariant persisted (sys.renew id running) := by
  have begun := invariant.sound.runs id running present
  have runs : ∀ token, (sys.runs.put id (some { running with
      task := { running.task with token := token } })).Holds (IndexRun.Begun sys.log) := by
    intro token
    refine Pool.Holds.put invariant.sound.runs ?_ (fun _ _ _ _ theirs => theirs)
    intro renewed same
    cases same
    exact begun
  rcases running with ⟨owner, task, begunSecs⟩
  simp only [StakingPokes.renew]
  split
  · exact invariant
  · rename_i lock token renewed
    cases owner with
    | endowmentRefresh =>
        obtain ⟨early, time, member, value⟩ := begun
        dsimp only at early value
        simp only [IndexRun.renewSecs, value] at renewed
        rw [value] at early
        exact quiet_keeps invariant
          (invariant.sound.trace.renewal renewed early (.inl ⟨_, member⟩)) (runs token)
    | scheduled =>
        simp only [IndexRun.renewSecs, StakingPokes.nowSecs] at renewed
        have contains : sys.log ⊆ sys.log ++ [HintRecord.renewed sys.clock] :=
          List.subset_append_left _ _
        have trace : PokeTrace persisted (sys.log ++ [.renewed sys.clock]) sys.state :=
          invariant.sound.trace.snoc rfl
        refine ⟨invariant.window.grow rfl rfl contains, ?_, ⟨?_, ?_, ?_⟩⟩
        · exact invariant.kept.snoc rfl (fun _ same => by cases same) (fun timers _ => timers)
        · exact trace.renewal renewed (seconds_fit fits (by decide)) (.inr (by simp))
        · exact reasons_snoc invariant.sound.reasons (fun _ _ same => by cases same)
        · exact (runs token).mono fun _ theirs => theirs.mono contains

theorem removed_begun {runs : Pool IndexRun} (id : Nat) (begun : runs.Holds (IndexRun.Begun log)) :
    (runs.put id none).Holds (IndexRun.Begun log) :=
  Pool.Holds.put begun (fun _ same => by cases same) (fun _ _ _ _ theirs => theirs)

theorem finish_keeps {id : Nat} (invariant : StakingInvariant persisted sys)
    (present : sys.runs id = some running) :
    StakingInvariant persisted (sys.finish id running) :=
  quiet_keeps invariant
    (invariant.sound.trace.finish (invariant.sound.runs id running present))
    (removed_begun id invariant.sound.runs)

theorem abort_keeps {id : Nat} (invariant : StakingInvariant persisted sys) :
    StakingInvariant persisted (sys.abort id running) :=
  quiet_keeps invariant (invariant.sound.trace.drop running.task.guard)
    (removed_begun id invariant.sound.runs)

theorem schedule_keeps {id : Nat} (invariant : StakingInvariant persisted sys)
    (fits : sys.clock + endowmentPokeIntervalNs ≤ u64Max) :
    StakingInvariant persisted (sys.schedule id) := by
  rw [StakingPokes.schedule]
  cases acquired : sys.acquire .scheduled id with
  | none => exact invariant
  | some begun => exact acquire_keeps invariant fits acquired

theorem stepStakingPokes_time {event : StakingPokeEvent}
    (taken : stepStakingPokes sys event = some next) :
    sys.clock ≤ event.time ∧ event.time + endowmentPokeIntervalNs ≤ u64Max := by
  simp only [stepStakingPokes] at taken
  split at taken
  · assumption
  · cases taken

theorem stepStakingPokes_keeps {event : StakingPokeEvent}
    (invariant : StakingInvariant persisted sys)
    (taken : stepStakingPokes sys event = some next) : StakingInvariant persisted next := by
  have bounds := stepStakingPokes_time taken
  have timed := invariant.timed event.time
  simp only [stepStakingPokes, if_pos bounds] at taken
  cases event with
  | poke id nowNs =>
      dsimp only at taken
      split at taken
      · cases taken
      · cases taken
        exact attempt_keeps (hint_keeps timed bounds.2) (by rw [hint_clock]; exact bounds.2)
  | fire index id nowNs =>
      dsimp only at taken
      split at taken
      · cases taken
      · rename_i enabled
        cases taken
        exact fire_keeps timed bounds.2 (not_or.mp enabled).2
  | scheduled id nowNs =>
      dsimp only at taken
      split at taken
      · cases taken
      · cases taken
        exact schedule_keeps timed bounds.2
  | renew id nowNs =>
      obtain ⟨running, present, rfl⟩ := Option.map_eq_some_iff.mp taken
      exact renew_keeps timed bounds.2 present
  | finish id nowNs =>
      obtain ⟨running, present, rfl⟩ := Option.map_eq_some_iff.mp taken
      exact finish_keeps timed present
  | abort id nowNs =>
      obtain ⟨running, present, rfl⟩ := Option.map_eq_some_iff.mp taken
      exact abort_keeps timed

theorem reachable_staking (reachable : (stakingPokes persisted).Reachable sys) :
    StakingInvariant persisted sys := by
  refine (stakingPokes persisted).reachable_invariant (StakingInvariant persisted) ?_
    (fun _ _ _ invariant taken => stepStakingPokes_keeps invariant taken) reachable
  rintro start ⟨clock, rfl⟩
  refine ⟨.inl ⟨rfl, rfl, rfl⟩, ?_, ⟨⟨.inl rfl, .inr (.inl rfl), rfl⟩, ?_, Pool.holds_empty _⟩⟩
  · intro before hinted after split
    simp at split
  · intro before reason nowNs after split
    simp at split

def PokeState.Open (st : PokeState) (nowNs : Nat) : Prop :=
  st.endowmentRefreshNextAllowedTs ≤ nowNs / nanosPerSecond ∧
    st.lock.expiresAtTs.getD 0 ≤ nowNs / nanosPerSecond ∧ st.lock.generation < u64Max

theorem handleEndowmentPoke_open {id : Nat} (admits : sys.state.Open sys.clock) :
    ∃ begun, sys.handleEndowmentPoke id = .ok begun := by
  have cooled : ¬ sys.nowSecs < sys.state.endowmentRefreshNextAllowedTs :=
    Nat.not_lt_of_le admits.1
  have free : ¬ sys.nowSecs < sys.state.lock.expiresAtTs.getD 0 := Nat.not_lt_of_le admits.2.1
  have fresh : checkedAdd u64Max sys.state.lock.generation 1 =
      some (sys.state.lock.generation + 1) := if_pos admits.2.2
  simp [StakingPokes.handleEndowmentPoke, PokeState.admission, cooled, free,
    StakingPokes.acquire, CommitmentIndexLock.acquire, FencedTimerLeaseGuard.acquire, fresh]

theorem handleEndowmentPoke_shut {id : Nat} (shut : ¬ sys.state.Open sys.clock) :
    ∃ reason, sys.handleEndowmentPoke id = .error reason := by
  cases outcome : sys.handleEndowmentPoke id with
  | error reason => exact ⟨reason, rfl⟩
  | ok begun =>
      exfalso
      apply shut
      have acquired := handleEndowmentPoke_ok outcome
      simp only [StakingPokes.handleEndowmentPoke, PokeState.admission] at outcome
      split at outcome
      · cases outcome
      · cases outcome
      · rename_i available
        split at available
        · cases available
        · rename_i cooled
          split at available
          · cases available
          · rename_i free
            obtain ⟨pair, taken, _⟩ := Option.map_eq_some_iff.mp acquired
            obtain ⟨guard, guarded, _⟩ := Option.map_eq_some_iff.mp taken
            simp only [FencedTimerLeaseGuard.acquire] at guarded
            split at guarded
            · cases guarded
            · obtain ⟨_, counted, _⟩ := Option.map_eq_some_iff.mp guarded
              exact ⟨Nat.le_of_not_lt cooled, Nat.le_of_not_lt free,
                (checkedAdd_eq_some.mp counted).1⟩

theorem deferredCheck_log {id : Nat} (fits : sys.clock + endowmentPokeIntervalNs ≤ u64Max) :
    (sys.deferredCheck id).timers = sys.timers ∧
      (sys.state.Open sys.clock → (sys.deferredCheck id).log =
        sys.log ++ [.admitted .endowmentRefresh sys.clock]) ∧
      (¬ sys.state.Open sys.clock →
        ∃ reason, (sys.deferredCheck id).log = sys.log ++ [.refused reason sys.clock]) := by
  by_cases admits : sys.state.Open sys.clock
  · obtain ⟨begun, taken⟩ := handleEndowmentPoke_open admits
    obtain ⟨lock, task, rfl, _⟩ := acquire_some (handleEndowmentPoke_ok taken) fits
    rw [StakingPokes.deferredCheck, taken]
    exact ⟨rfl, fun _ => rfl, fun shut => absurd admits shut⟩
  · obtain ⟨reason, skipped⟩ := handleEndowmentPoke_shut admits
    rw [StakingPokes.deferredCheck, skipped]
    exact ⟨rfl, fun opened => absurd opened admits, fun _ => ⟨reason, rfl⟩⟩

def FiringOf (sys : StakingPokes) (due : Nat) : Prop :=
  ∀ id nowNs next, stepStakingPokes sys (.fire 0 id nowNs) = some next →
    (nowNs < due → next.timers = [due] ∧ next.log = sys.log) ∧
    (due ≤ nowNs → next.timers = [] ∧
      (sys.state.Open nowNs → next.log = sys.log ++ [.admitted .endowmentRefresh nowNs]) ∧
      (¬ sys.state.Open nowNs → ∃ reason, next.log = sys.log ++ [.refused reason nowNs]))

theorem firingOf {due : Nat} (one : sys.timers = [due])
    (known : sys.deferred.dueAtNs = some due) : FiringOf sys due := by
  intro id nowNs next taken
  have bounds := stepStakingPokes_time taken
  simp only [stepStakingPokes, if_pos bounds] at taken
  split at taken
  · cases taken
  · simp only [one, List.eraseIdx_zero, List.tail_cons, Option.some.injEq,
      StakingPokeEvent.time] at taken
    rw [← taken]
    constructor
    · intro early
      rw [@fire_early { sys with clock := nowNs, timers := [] } id due known early]
      exact ⟨rfl, rfl⟩
    · intro reached
      rw [@fire_due { sys with clock := nowNs, timers := [] } id due known reached]
      exact @deferredCheck_log
        { sys with clock := nowNs, timers := [], deferred := ⟨none, false⟩ } id bounds.2

end Steps

/-- At most one timer is outstanding. A hint that no index attempt followed has it, unless a
deferred check was skipped since; a skipped check met the cooldown of a poke or the lease of a
run that began before it. An outstanding timer fires as an attempt exactly when neither is in
its way at that time. -/
theorem staking_hints {persisted : PokeState} {sys : StakingPokes}
    (reachable : (stakingPokes persisted).Reachable sys) :
    sys.timers.length ≤ 1 ∧
    (∀ before hinted after, sys.log = before ++ .hinted hinted :: after →
      (∃ owner nowNs, .admitted owner nowNs ∈ after) ∨ sys.timers ≠ [] ∨
        ∃ reason nowNs, .refused reason nowNs ∈ after) ∧
    (∀ before reason nowNs after, sys.log = before ++ .refused reason nowNs :: after →
      Justified persisted before nowNs reason) ∧
    ∀ due ∈ sys.timers, ∃ opened, due = opened + endowmentPokeIntervalNs ∧
      .hinted opened ∈ sys.log ∧ FiringOf sys due := by
  have invariant := reachable_staking reachable
  refine ⟨?_, ?_, invariant.sound.reasons, ?_⟩
  · rcases invariant.window with ⟨empty, _⟩ | ⟨opened, one, _⟩
    · simp [empty]
    · simp [one]
  · intro before hinted after split
    by_cases settled : ∀ record ∈ after, record.settles = false
    · exact .inr (.inl (invariant.kept before hinted after split settled))
    · obtain ⟨record, unsettled⟩ := not_forall.mp settled
      obtain ⟨member, settles⟩ := Classical.not_imp.mp unsettled
      cases record with
      | hinted => exact absurd rfl settles
      | renewed => exact absurd rfl settles
      | admitted owner nowNs => exact .inl ⟨owner, nowNs, member⟩
      | refused reason nowNs => exact .inr (.inr ⟨reason, nowNs, member⟩)
  · intro due member
    rcases invariant.window with ⟨empty, _⟩ | ⟨opened, one, known, _, hinted⟩
    · rw [empty] at member
      cases member
    · rw [one, List.mem_singleton] at member
      subst member
      exact ⟨opened, rfl, hinted, firingOf one known⟩

section Samples

def installedPokes : PokeState := ⟨0, ⟨none, 0, none⟩⟩

def idlePokes : StakingPokes := ⟨installedPokes, ⟨none, false⟩, [], Pool.empty, 0, []⟩

def pokeSeconds (count : Nat) : Nat := count * nanosPerSecond

/-- A scheduled run awaits its page while a hint comes and its deferred check is made. -/
def behindScheduledRun : List StakingPokeEvent :=
  [.scheduled 0 0, .poke 1 (pokeSeconds 1), .fire 0 1 (pokeSeconds 11)]

/-- A scheduled run takes the lease of the first poke, whose cooldown never starts. The second
one is admitted in the window of the first, and the third shares that window too. -/
def insideWindow : List StakingPokeEvent :=
  [.poke 0 0, .scheduled 1 (pokeSeconds 1), .finish 0 (pokeSeconds 2),
    .finish 1 (pokeSeconds 3), .poke 2 (pokeSeconds 4), .finish 2 (pokeSeconds 5),
    .poke 3 (pokeSeconds 6), .fire 0 3 (pokeSeconds 10)]

theorem staking_run {events : List StakingPokeEvent} {timers : List Nat}
    (ran : ((stakingPokes installedPokes).run idlePokes events).map
      (fun sys => (sys.timers, sys.log)) = some (timers, log)) :
    ∃ sys, (stakingPokes installedPokes).Reachable sys ∧ sys.timers = timers ∧ sys.log = log := by
  obtain ⟨sys, reached, same⟩ := Option.map_eq_some_iff.mp ran
  cases same
  exact ⟨sys, ⟨idlePokes, events, ⟨0, rfl⟩, reached⟩, rfl, rfl⟩

theorem staking_hints_behind_scheduled_run :
    ∃ sys, (stakingPokes installedPokes).Reachable sys ∧ sys.timers.length ≤ 1 ∧
      Justified installedPokes [.admitted .scheduled 0, .hinted (pokeSeconds 1)]
        (pokeSeconds 11) .busy := by
  have ran : ((stakingPokes installedPokes).run idlePokes behindScheduledRun).map
      (fun sys => (sys.timers, sys.log)) = some ([], [.admitted .scheduled 0,
        .hinted (pokeSeconds 1), .refused .busy (pokeSeconds 11)]) := by decide +kernel
  obtain ⟨sys, reachable, _, log⟩ := staking_run ran
  have kept := staking_hints reachable
  exact ⟨sys, reachable, kept.1, kept.2.2.1 _ _ _ [] log⟩

/-- Both reasons leave a hint without an attempt after it and without a timer. -/
theorem staking_hints_lost :
    (∃ sys, (stakingPokes installedPokes).Reachable sys ∧ sys.timers = [] ∧
      sys.log = [.admitted .scheduled 0, .hinted (pokeSeconds 1),
        .refused .busy (pokeSeconds 11)]) ∧
    ∃ sys, (stakingPokes installedPokes).Reachable sys ∧ sys.timers = [] ∧
      sys.log = [.hinted 0, .admitted .endowmentRefresh 0, .admitted .scheduled (pokeSeconds 1),
        .hinted (pokeSeconds 4), .admitted .endowmentRefresh (pokeSeconds 4),
        .hinted (pokeSeconds 6), .refused .rateLimited (pokeSeconds 10)] := by
  have busy : ((stakingPokes installedPokes).run idlePokes behindScheduledRun).map
      (fun sys => (sys.timers, sys.log)) = some ([], [.admitted .scheduled 0,
        .hinted (pokeSeconds 1), .refused .busy (pokeSeconds 11)]) := by decide +kernel
  have limited : ((stakingPokes installedPokes).run idlePokes insideWindow).map
      (fun sys => (sys.timers, sys.log)) = some ([], [.hinted 0,
        .admitted .endowmentRefresh 0, .admitted .scheduled (pokeSeconds 1),
        .hinted (pokeSeconds 4), .admitted .endowmentRefresh (pokeSeconds 4),
        .hinted (pokeSeconds 6), .refused .rateLimited (pokeSeconds 10)]) := by decide +kernel
  exact ⟨staking_run busy, staking_run limited⟩

end Samples
end JupiterSuite.Historian
