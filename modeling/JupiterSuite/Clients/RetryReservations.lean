import JupiterSuite.Clients.RetryIntents

/-! The abstract life of a retry intent, and that every run of the timers, callbacks and
completions is one. -/

namespace JupiterSuite

open Base

/-- What a reservation is for: one intent at most, made for the main run that is next. -/
structure RetryIntent where
  live : Option Nat
  marker : Nat
  deriving DecidableEq, Repr

def stepIntent (intent : RetryIntent) : RetryRecord → Option RetryIntent
  | .reserved reservation =>
      if intent.live = none ∧ reservation = intent.marker then
        some { intent with live := some reservation }
      else none
  | .consumed reservation =>
      if intent.live = some reservation then some { intent with live := none } else none
  | .ran reservation =>
      if intent.live = none ∧ reservation = intent.marker then some intent else none
  | .advanced marker => if marker = intent.marker then some ⟨none, marker + 1⟩ else none

def retryIntents : Machine RetryIntent RetryRecord where
  init := fun intent => intent = ⟨none, 0⟩
  step := stepIntent

def RetryState.intent (st : RetryState) : RetryIntent := ⟨st.pending, st.marker⟩

theorem stepIntent_marker {intent next : RetryIntent} {record : RetryRecord}
    (taken : stepIntent intent record = some next) :
    intent.marker ≤ next.marker ∧
      ∀ marker, record = .advanced marker → next.marker = marker + 1 := by
  cases record <;> simp only [stepIntent] at taken <;> split at taken <;> cases taken <;> simp_all

theorem run_marker {intent final : RetryIntent} {records : List RetryRecord}
    (ran : retryIntents.run intent records = some final) : intent.marker ≤ final.marker := by
  refine retryIntents.run_preserves (fun reached => intent.marker ≤ reached.marker) ?_
    (Nat.le_refl _) ran
  intro state record next below taken
  exact Nat.le_trans below (stepIntent_marker taken).1

/-- An intent never outlives the run that it waits for. -/
theorem not_advanced_before_ran {intent final : RetryIntent} {before after : List RetryRecord}
    {reservation : Nat}
    (ran : retryIntents.run intent (before ++ .ran reservation :: after) = some final) :
    .advanced reservation ∉ before := by
  intro member
  rcases List.append_of_mem member with ⟨earlier, between, rfl⟩
  rcases (retryIntents.run_append).mp ran with ⟨middle, first, last⟩
  rcases (retryIntents.run_append).mp first with ⟨passing, _, onward⟩
  rcases (retryIntents.run_cons).mp onward with ⟨passed, taken, rest⟩
  have passes : stepIntent passing (.advanced reservation) = some passed := taken
  have beyond := (stepIntent_marker passes).2 reservation rfl
  have kept := run_marker rest
  rcases (retryIntents.run_cons).mp last with ⟨reached, taken, _⟩
  have callback : stepIntent middle (.ran reservation) = some reached := taken
  simp only [stepIntent] at callback
  split at callback
  · rename_i allowed
    omega
  · cases callback

/-- The timers that may still fire, by the reservation they hold: the one for the current marker
is the live one. -/
structure Armed (intent : RetryIntent) (reservations : List Nat) : Prop where
  nodup : reservations.Nodup
  old : ∀ reservation ∈ reservations, reservation ≤ intent.marker
  current : ∀ reservation, intent.live = some reservation →
    reservation = intent.marker ∧ reservation ∈ reservations
  found : intent.marker ∈ reservations → intent.live = some intent.marker

theorem Armed.live_cases {intent : RetryIntent} {reservations : List Nat}
    (armed : Armed intent reservations) : intent.live = none ∨ intent.live = some intent.marker := by
  cases live : intent.live with
  | none => exact .inl rfl
  | some reservation => exact .inr (by rw [(armed.current reservation live).1])

theorem Armed.advance {intent : RetryIntent} {reservations : List Nat}
    (armed : Armed intent reservations) : Armed ⟨none, intent.marker + 1⟩ reservations where
  nodup := armed.nodup
  old := fun reservation member => Nat.le_succ_of_le (armed.old reservation member)
  current := fun _ live => by cases live
  found := by
    intro member
    have bound := armed.old _ member
    simp only at bound
    omega

theorem Armed.reserve {intent : RetryIntent} {reservations : List Nat}
    (armed : Armed intent reservations) (vacant : intent.live = none) :
    Armed ⟨some intent.marker, intent.marker⟩ (reservations ++ [intent.marker]) := by
  have fresh : intent.marker ∉ reservations := by
    intro member
    rw [armed.found member] at vacant
    cases vacant
  constructor
  · rw [List.nodup_append]
    refine ⟨armed.nodup, List.nodup_singleton _, ?_⟩
    intro held member marker last
    rw [List.mem_singleton] at last
    subst last
    rintro rfl
    exact fresh member
  · intro reservation member
    rcases List.mem_append.mp member with known | last
    · exact armed.old reservation known
    · exact Nat.le_of_eq (List.mem_singleton.mp last)
  · intro reservation live
    cases live
    exact ⟨rfl, List.mem_append_right _ (List.mem_singleton.mpr rfl)⟩
  · intro _
    rfl

theorem nodup_not_mem_eraseIdx {held : List Nat} {index reservation : Nat} (nodup : held.Nodup)
    (located : held[index]? = some reservation) : reservation ∉ held.eraseIdx index := by
  intro member
  rcases List.mem_eraseIdx_iff_getElem?.mp member with ⟨other, different, also⟩
  have bound : index < held.length := (List.getElem?_eq_some_iff.mp located).1
  exact different ((List.getElem?_inj bound nodup).mp (located.trans also.symm)).symm

theorem Armed.consume {intent : RetryIntent} {reservations : List Nat} {index reservation : Nat}
    (armed : Armed intent reservations) (located : reservations[index]? = some reservation)
    (owns : intent.live = some reservation) :
    Armed ⟨none, intent.marker⟩ (reservations.eraseIdx index) where
  nodup := armed.nodup.sublist (List.eraseIdx_sublist _ _)
  old := fun held member => armed.old held (List.mem_of_mem_eraseIdx member)
  current := fun _ live => by cases live
  found := by
    intro member
    rw [← (armed.current reservation owns).1] at member
    exact absurd member (nodup_not_mem_eraseIdx armed.nodup located)

theorem Armed.expire {intent : RetryIntent} {reservations : List Nat} {index reservation : Nat}
    (armed : Armed intent reservations) (located : reservations[index]? = some reservation)
    (lost : intent.live ≠ some reservation) : Armed intent (reservations.eraseIdx index) where
  nodup := armed.nodup.sublist (List.eraseIdx_sublist _ _)
  old := fun held member => armed.old held (List.mem_of_mem_eraseIdx member)
  current := by
    intro held live
    rcases armed.current held live with ⟨same, member⟩
    refine ⟨same, List.mem_eraseIdx_iff_getElem?.mpr ?_⟩
    rcases List.mem_iff_getElem?.mp member with ⟨other, also⟩
    refine ⟨other, ?_, also⟩
    rintro rfl
    rw [located] at also
    exact lost (by rw [live, Option.some.inj also])
  found := fun member => armed.found (List.mem_of_mem_eraseIdx member)

def MainTickEffects.reservations (effects : MainTickEffects) : List Nat :=
  effects.schedule.toList.map Prod.fst

/-- A message takes the intent along its records, and the timers with it. -/
def Follows (before after : RetryState) (effects : MainTickEffects) : Prop :=
  ∀ reservations, Armed before.intent reservations →
    Armed after.intent (reservations ++ effects.reservations) ∧
      retryIntents.run before.intent
        (advances before after ++ effects.reservations.map .reserved) = some after.intent

theorem run_single {intent next : RetryIntent} {record : RetryRecord}
    (taken : stepIntent intent record = some next) :
    retryIntents.run intent [record] = some next := by
  apply (retryIntents.run_cons).mpr
  exact ⟨next, taken, rfl⟩

theorem follows_idle {before after : RetryState} (same : after.intent = before.intent)
    (start : Option MainTickStart) : Follows before after ⟨start, none⟩ := by
  intro reservations armed
  have marker : after.marker = before.marker := congrArg RetryIntent.marker same
  rw [same]
  simp [MainTickEffects.reservations, advances, marker, armed]

theorem follows_advance {before after : RetryState}
    (advanced : after.intent = ⟨none, before.marker + 1⟩) (start : Option MainTickStart) :
    Follows before after ⟨start, none⟩ := by
  intro reservations armed
  have marker : after.marker = before.marker + 1 := congrArg RetryIntent.marker advanced
  have records : advances before after = [.advanced before.marker] := by
    simp [advances, marker]
  rw [advanced]
  constructor
  · simp only [MainTickEffects.reservations, Option.toList_none, List.map_nil, List.append_nil]
    exact armed.advance
  · rw [records]
    apply run_single
    simp [stepIntent, RetryState.intent]

theorem follows_reserve {before after : RetryState} {delay : Nat}
    (reserved : after.intent = ⟨some before.marker, before.marker⟩)
    (vacant : before.pending ≠ some before.marker) (start : Option MainTickStart) :
    Follows before after ⟨start, some (before.marker, delay)⟩ := by
  intro reservations armed
  have marker : after.marker = before.marker := congrArg RetryIntent.marker reserved
  have free : before.pending = none := armed.live_cases.resolve_right vacant
  rw [reserved]
  refine ⟨armed.reserve free, ?_⟩
  have records : advances before after = [] := by simp [advances, marker]
  rw [records]
  apply run_single
  simp [stepIntent, RetryState.intent, free]

theorem advanceMainRunMarker_intent {st advanced : RetryState}
    (taken : advanceMainRunMarker st = some advanced) :
    advanced.intent = ⟨none, st.marker + 1⟩ := by
  rcases Option.map_eq_some_iff.mp taken with ⟨marker, counted, rfl⟩
  rw [(checkedAdd_eq_some.mp counted).2]
  rfl

section Tick

variable {canister : RetryCanister} {interval : Nat} {st after : RetryState}

theorem startMainTick_intent {force : Bool} {nowSecs : Nat} {start : MainTickStart}
    (ran : startMainTick canister interval st force nowSecs = some (after, start)) :
    (start.retryAfterSeconds = none ∧ after.intent = ⟨none, st.marker + 1⟩) ∨
      ((∃ delay, start.retryAfterSeconds = some delay) ∧ after.intent = st.intent) := by
  simp only [startMainTick] at ran
  split at ran
  · cases ran
    exact .inr ⟨⟨_, rfl⟩, rfl⟩
  · split at ran
    · cases ran
      exact .inr ⟨⟨_, rfl⟩, rfl⟩
    · rcases Option.map_eq_some_iff.mp ran with ⟨admitted, taken, same⟩
      have advanced := advanceMainRunMarker_intent taken
      cases same
      exact .inl ⟨rfl, advanced⟩

theorem startMainTick_follows {force : Bool} {nowSecs : Nat} {start : MainTickStart}
    (ran : startMainTick canister interval st force nowSecs = some (after, start)) :
    Follows st after ⟨some start, none⟩ := by
  rcases startMainTick_intent ran with ⟨_, advanced⟩ | ⟨_, same⟩
  · exact follows_advance advanced _
  · exact follows_idle same _

theorem runScheduledMainTick_follows {nowSecs : Nat} {effects : MainTickEffects}
    (ran : runScheduledMainTick canister interval st nowSecs = some (after, effects)) :
    Follows st after effects := by
  simp only [runScheduledMainTick, Option.map_eq_some_iff] at ran
  rcases ran with ⟨⟨started, start⟩, taken, result⟩
  rcases startMainTick_intent taken with ⟨admitted, advanced⟩ | ⟨⟨delay, refused⟩, same⟩
  · simp only [admitted, Prod.mk.injEq] at result
    rcases result with ⟨rfl, rfl⟩
    exact follows_advance advanced _
  · have marker : started.marker = st.marker := congrArg RetryIntent.marker same
    have pending : started.pending = st.pending := congrArg RetryIntent.live same
    simp only [refused, marker, if_true, Prod.mk.injEq, reserveScheduledMainRetry, pending]
      at result
    split at result
    · rcases result with ⟨rfl, rfl⟩
      exact follows_idle same _
    · rename_i vacant
      rcases result with ⟨rfl, rfl⟩
      exact follows_reserve rfl vacant _

theorem finishMainTick_follows {guard : TimerLeaseGuard} {nowSecs stamp : Nat}
    (finished : finishMainTick canister st guard nowSecs stamp = some after) :
    Follows st after ⟨none, none⟩ := by
  simp only [finishMainTick] at finished
  split at finished
  · rcases Option.map_eq_some_iff.mp finished with ⟨advanced, taken, rfl⟩
    exact follows_advance (advanceMainRunMarker_intent taken) none
  · cases finished
    exact follows_idle rfl none

end Tick

def RetrySystem.reservations (sys : RetrySystem) : List Nat :=
  sys.timers.map RetryTimer.reservation

/-- The log replays to the heap's intent, and the timers are those of the intent. -/
structure RetryInvariant (sys : RetrySystem) : Prop where
  replays : retryIntents.run ⟨none, 0⟩ sys.log = some sys.retry.intent
  armed : Armed sys.retry.intent sys.reservations

theorem settleRetry_invariant {sys : RetrySystem} {before after : RetryState}
    {effects : MainTickEffects}
    (replays : retryIntents.run ⟨none, 0⟩ sys.log = some before.intent)
    (armed : Armed before.intent sys.reservations) (same : sys.retry.marker = before.marker)
    (follows : Follows before after effects) (id nowSecs : Nat) :
    RetryInvariant (settleRetry sys id nowSecs after effects) := by
  have segment := follows sys.reservations armed
  constructor
  · have log : (settleRetry sys id nowSecs after effects).log =
        sys.log ++ (advances before after ++ effects.reservations.map .reserved) := by
      simp [settleRetry, advances, same, MainTickEffects.reservations]
    rw [log]
    exact (retryIntents.run_append).mpr ⟨before.intent, replays, segment.2⟩
  · have timers : (settleRetry sys id nowSecs after effects).reservations =
        sys.reservations ++ effects.reservations := by
      simp [settleRetry, RetrySystem.reservations, MainTickEffects.reservations]
    rw [timers]
    exact segment.1

theorem located_reservation {sys : RetrySystem} {index : Nat} {timer : RetryTimer}
    (located : sys.timers[index]? = some timer) :
    sys.reservations[index]? = some timer.reservation := by
  simp [RetrySystem.reservations, located]

theorem eraseIdx_reservations (sys : RetrySystem) (index : Nat) :
    (sys.timers.eraseIdx index).map RetryTimer.reservation = sys.reservations.eraseIdx index := by
  simp [RetrySystem.reservations, List.eraseIdx_map]

section System

variable {canister : RetryCanister} {interval : Nat}

theorem callback_lost {sys next : RetrySystem} {index id nowSecs : Nat} {timer : RetryTimer}
    (located : sys.timers[index]? = some timer)
    (lost : sys.retry.pending ≠ some timer.reservation)
    (taken : stepRetry canister interval sys (.fire index id nowSecs) = some next) :
    next = { sys with timers := sys.timers.eraseIdx index, clock := nowSecs } := by
  simp only [stepRetry, located, Option.bind_some, runScheduledMainRetry, lost, decide_false,
    Bool.false_and, Bool.false_eq_true, if_false, Option.map_some, callbackRecords] at taken
  split at taken
  · split at taken
    · cases taken
    · simp only [Option.some.injEq] at taken
      rw [← taken]
      simp [settleRetry, advances]
  · cases taken

theorem callback_invariant {sys next : RetrySystem} (invariant : RetryInvariant sys)
    {index id nowSecs : Nat}
    (taken : stepRetry canister interval sys (.fire index id nowSecs) = some next) :
    RetryInvariant next := by
  cases located : sys.timers[index]? with
  | none =>
      simp only [stepRetry, located, Option.bind_none] at taken
      split at taken
      · split at taken <;> cases taken
      · cases taken
  | some timer =>
      have found := located_reservation located
      by_cases owns : sys.retry.pending = some timer.reservation
      · have current : timer.reservation = sys.retry.marker :=
          (invariant.armed.current _ owns).1
        simp only [stepRetry, located, Option.bind_some] at taken
        split at taken
        · split at taken
          · cases taken
          · rcases Option.map_eq_some_iff.mp taken with ⟨⟨after, effects⟩, ran, rfl⟩
            simp only [runScheduledMainRetry, owns, current, decide_true, Bool.true_and, if_true]
              at ran
            have follows := runScheduledMainTick_follows ran
            refine settleRetry_invariant ?_ ?_ ?_ follows id nowSecs
            · have records : callbackRecords sys.retry timer.reservation =
                  [.consumed sys.retry.marker, .ran sys.retry.marker] := by
                simp [callbackRecords, owns, current]
              rw [records]
              apply (retryIntents.run_append).mpr
              refine ⟨sys.retry.intent, invariant.replays, ?_⟩
              apply (retryIntents.run_cons).mpr
              refine ⟨⟨none, sys.retry.marker⟩, ?_, run_single ?_⟩
              · have live : sys.retry.intent.live = some sys.retry.marker := by
                  rw [← current]
                  exact owns
                have step : stepIntent sys.retry.intent (.consumed sys.retry.marker) =
                    some ⟨none, sys.retry.marker⟩ := by
                  simp only [stepIntent, live, if_true]
                  rfl
                exact step
              · simp [stepIntent, RetryState.intent]
            · have consumed := invariant.armed.consume found owns
              rw [← eraseIdx_reservations] at consumed
              exact consumed
            · rfl
        · cases taken
      · rw [callback_lost located owns taken]
        constructor
        · exact invariant.replays
        · have expired := invariant.armed.expire found owns
          rw [← eraseIdx_reservations] at expired
          exact expired

theorem retryInvariant_step (sys : RetrySystem) (event : RetryEvent) (next : RetrySystem)
    (invariant : RetryInvariant sys) (taken : stepRetry canister interval sys event = some next) :
    RetryInvariant next := by
  cases event with
  | fire index id nowSecs => exact callback_invariant invariant taken
  | scheduled id nowSecs =>
      simp only [stepRetry] at taken
      split at taken
      · split at taken
        · cases taken
        · rcases Option.map_eq_some_iff.mp taken with ⟨⟨after, effects⟩, ran, rfl⟩
          exact settleRetry_invariant invariant.replays invariant.armed rfl
            (runScheduledMainTick_follows ran) id nowSecs
      · cases taken
  | forced id nowSecs =>
      simp only [stepRetry] at taken
      split at taken
      · split at taken
        · cases taken
        · rcases Option.map_eq_some_iff.mp taken with ⟨⟨after, start⟩, ran, rfl⟩
          exact settleRetry_invariant invariant.replays invariant.armed rfl
            (startMainTick_follows ran) id nowSecs
      · cases taken
  | poke id nowSecs =>
      simp only [stepRetry] at taken
      split at taken
      · split at taken
        · cases taken
        · split at taken <;> cases taken <;> exact ⟨invariant.replays, invariant.armed⟩
      · cases taken
  | finish id nowSecs stamp =>
      simp only [stepRetry] at taken
      split at taken
      · rcases Option.bind_eq_some_iff.mp taken with ⟨task, found, onward⟩
        split at onward
        · rcases Option.map_eq_some_iff.mp onward with ⟨after, finished, rfl⟩
          have follows := finishMainTick_follows finished
          apply @settleRetry_invariant { sys with tasks := sys.tasks.put id none } sys.retry
          · exact invariant.replays
          · exact invariant.armed
          · rfl
          · exact follows
        · cases onward
      · cases taken
  | drop id nowSecs =>
      simp only [stepRetry] at taken
      split at taken
      · rcases Option.map_eq_some_iff.mp taken with ⟨task, found, rfl⟩
        exact ⟨invariant.replays, invariant.armed⟩
      · cases taken
  | abandon id nowSecs =>
      simp only [stepRetry] at taken
      split at taken
      · rcases Option.map_eq_some_iff.mp taken with ⟨task, found, rfl⟩
        exact ⟨invariant.replays, invariant.armed⟩
      · cases taken

theorem reachable_retryInvariant {sys : RetrySystem}
    (reachable : (retryMachine canister interval).Reachable sys) : RetryInvariant sys := by
  apply (retryMachine canister interval).reachable_invariant RetryInvariant _ retryInvariant_step
    reachable
  rintro _ ⟨lease, clock, rfl⟩
  refine ⟨rfl, ?_⟩
  constructor <;> simp [RetryState.intent, RetrySystem.reservations]

/-- The life of the retry reservations in every state: one timer is live, the callback of any
other leaves everything as it is, and a callback runs its tick only while no main run was
admitted or completed since its reservation. The log is a life of one abstract intent. -/
structure RetryReservations (canister : RetryCanister) (interval : Nat) (sys : RetrySystem) :
    Prop where
  refines : retryIntents.run ⟨none, 0⟩ sys.log = some sys.retry.intent
  oneLive : ∀ (i j : Nat) (first second : RetryTimer),
    sys.timers[i]? = some first → sys.timers[j]? = some second →
    sys.retry.pending = some first.reservation → sys.retry.pending = some second.reservation →
      i = j
  superseded : ∀ (index id nowSecs : Nat) (timer : RetryTimer) next, sys.timers[index]? = some timer →
    sys.retry.pending ≠ some timer.reservation →
      stepRetry canister interval sys (.fire index id nowSecs) = some next →
        next = { sys with timers := sys.timers.eraseIdx index, clock := nowSecs }
  passed : ∀ timer ∈ sys.timers, .advanced timer.reservation ∈ sys.log →
    sys.retry.pending ≠ some timer.reservation
  beforeCompletion : ∀ before reservation after, sys.log = before ++ .ran reservation :: after →
    .advanced reservation ∉ before

theorem advanced_past {intent : RetryIntent} {log : List RetryRecord} {marker : Nat}
    (replays : retryIntents.run ⟨none, 0⟩ log = some intent)
    (member : .advanced marker ∈ log) : marker < intent.marker := by
  rcases List.append_of_mem member with ⟨before, after, rfl⟩
  rcases (retryIntents.run_append).mp replays with ⟨reached, _, onward⟩
  rcases (retryIntents.run_cons).mp onward with ⟨passed, taken, rest⟩
  have passes : stepIntent reached (.advanced marker) = some passed := taken
  have beyond := (stepIntent_marker passes).2 marker rfl
  have kept := run_marker rest
  omega

theorem retry_reservations {sys : RetrySystem}
    (reachable : (retryMachine canister interval).Reachable sys) :
    RetryReservations canister interval sys := by
  have invariant := reachable_retryInvariant reachable
  have armed := invariant.armed
  constructor
  · exact invariant.replays
  · intro i j first second left right live also
    have same : first.reservation = second.reservation := Option.some.inj (live.symm.trans also)
    have here := located_reservation left
    have there := located_reservation right
    rw [← same] at there
    have bound : i < sys.reservations.length := (List.getElem?_eq_some_iff.mp here).1
    exact (List.getElem?_inj bound armed.nodup).mp (here.trans there.symm)
  · intro index id nowSecs timer next located lost taken
    exact callback_lost located lost taken
  · intro timer member advanced live
    have past := advanced_past invariant.replays advanced
    have current := (armed.current timer.reservation live).1
    omega
  · intro before reservation after split
    have replays := invariant.replays
    rw [split] at replays
    exact not_advanced_before_ran replays

end System

/-- A busy tick reserves a retry, the run that kept it busy ends, the next tick is deferred and
reserves another one: the first callback may still fire, but it is superseded. -/
def supersededRetry : List RetryEvent :=
  [.forced 0 100000, .scheduled 1 100000, .finish 0 100200 100200, .scheduled 1 100300]

def freshRetries : RetrySystem := ⟨⟨⟨none, 0⟩, none, 0⟩, [], Pool.empty, 0, []⟩

def supersededRetries : RetrySystem :=
  ((retryMachine .disburser 86400).run freshRetries supersededRetry).getD freshRetries

theorem retry_reservations_superseded :
    supersededRetries.timers = [⟨1, 100060⟩, ⟨2, 186540⟩] ∧
      supersededRetries.retry.pending = some 2 ∧
      RetryReservations .disburser 86400 supersededRetries := by
  have ran : (retryMachine .disburser 86400).run freshRetries supersededRetry =
      some supersededRetries := by rfl
  refine ⟨by rfl, by rfl, ?_⟩
  exact retry_reservations ⟨freshRetries, supersededRetry, ⟨_, _, rfl⟩, ran⟩

end JupiterSuite
