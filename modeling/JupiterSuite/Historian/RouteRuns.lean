import JupiterSuite.Historian.RouteSegments
import Mathlib.Algebra.BigOperators.Group.List.Basic

/-! Every run of the main ticks: the owner of the lease finds the route as its locals say, a tick
that lost it writes nothing, and a finished route has added every transfer up to its cursor
once. -/

namespace JupiterSuite.Historian

open Base

variable {identifierText : Account → String}

structure RouteInvariant (identifierText : Account → String) (sys : RouteSystem) : Prop where
  leased : Leased MainKont.lease sys.state.mainLockStateTs (sys.clock / nanosPerSecond) sys.tasks
  sound : RoutesSound identifierText sys.history sys.state
  bounded : ∀ active, sys.state.activeRouteSweep = some active →
    active.nextIndex < indexedRouteKinds.length
  promises : ∀ id kont, sys.tasks id = some (.route kont) →
    Owns MainKont.lease sys.state.mainLockStateTs (.route kont) →
      ∃ past, past <:+ sys.history kont.work.routeId ∧ past.length = sys.asked id ∧
        Ready identifierText past sys.state kont

/-- The routes and the accounts they are read from. -/
structure SameRoutes (before after : RouteState) : Prop where
  source : after.config.outputSourceAccount = before.config.outputSourceAccount
  accounts : ∀ kind, indexedRouteAccount after.config kind = indexedRouteAccount before.config kind
  routes : ∀ kind, after.route kind = before.route kind
  sweep : after.activeRouteSweep = before.activeRouteSweep

/-- What a step leaves of the sweep and of the page that it resumed with. -/
structure RouteAdvances (goal : PageGoal) (before after : RouteState) : Prop where
  source : after.config.outputSourceAccount = before.config.outputSourceAccount
  accounts : ∀ kind, indexedRouteAccount after.config kind = indexedRouteAccount before.config kind
  sweep : ∀ active, before.activeRouteSweep = some active → SweepMove goal.ended active after
  begins : before.activeRouteSweep = none →
    ∀ active, after.activeRouteSweep = some active → active.nextIndex = 0
  seen : ∀ active kind, before.activeRouteSweep = some active →
    indexedRouteKinds[active.nextIndex]? = some kind →
      ∀ tx, goal.seen tx → Covered (after.route kind) tx.id

variable {kont : RouteKont} {goal : PageGoal}
variable {past : List Tx} {lease : Nat} {reply : MainReply} {event : RouteEvent}

section States

variable {before after : RouteState} {history : String → List Tx}

theorem SameRoutes.of_fields (config : after.config = before.config)
    (output : after.output = before.output) (rewards : after.rewards = before.rewards)
    (sweep : after.activeRouteSweep = before.activeRouteSweep) : SameRoutes before after where
  source := by rw [config]
  accounts := fun kind => by rw [config]
  routes := by
    intro kind
    cases kind
    · exact output
    · exact rewards
  sweep := sweep

theorem SameRoutes.refl (st : RouteState) : SameRoutes st st := .of_fields rfl rfl rfl rfl

theorem SameRoutes.sound (same : SameRoutes before after)
    (sound : RoutesSound identifierText history before) :
    RoutesSound identifierText history after := by
  intro kind
  rw [same.source, same.routes kind, routeIdOf, same.accounts kind]
  exact sound kind

theorem SameRoutes.advances (same : SameRoutes before after) : RouteAdvances .nothing before after where
  source := same.source
  accounts := same.accounts
  sweep := fun _ found => .inl (same.sweep.trans found)
  begins := fun none active found => by
    rw [same.sweep, none] at found
    cases found
  seen := fun _ _ _ _ _ impossible => impossible.elim

/-- What a suspended indexer relies on is the routes, the sweep and its lease. -/
theorem Ready.carry (ready : Ready identifierText past before kont) (same : SameRoutes before after)
    (lock : after.mainLockStateTs = before.mainLockStateTs) :
    Ready identifierText past after kont where
  fits :=
    { owner := lock.trans ready.fits.owner
      sweep := same.sweep.trans ready.fits.sweep
      kind := ready.fits.kind
      source := by rw [same.source, ready.fits.source]
      route := by rw [routeIdOf, same.accounts, ready.fits.route, routeIdOf]
      latest := by rw [same.routes, ready.fits.latest]
      oldest := by rw [same.routes, ready.fits.oldest] }
  known := ready.known
  mode := by
    rw [same.routes]
    exact ready.mode

theorem finishMain_same (st : RouteState) (lease nowSecs : Nat) :
    SameRoutes st (finishMain st lease nowSecs) := by
  simp only [finishMain]
  split
  · exact .of_fields rfl rfl rfl rfl
  · exact .of_fields rfl rfl rfl rfl

theorem finishMain_lock (st : RouteState) (lease nowSecs : Nat) :
    (finishMain st lease nowSecs).mainLockStateTs = releaseLease lease st.mainLockStateTs := by
  simp only [finishMain]
  split
  · rename_i owner
    rw [owner, releaseLease_held]
  · rename_i lost
    rw [releaseLease_lost lost]

end States

/-- Where a segment under a lease stops. -/
structure MainResult (identifierText : Account → String) (history : String → List Tx)
    (before : RouteState) (lease : Nat) (goal : PageGoal) (result : RouteState × MainPause) :
    Prop where
  sound : RoutesSound identifierText history result.1
  bounded : ∀ active, result.1.activeRouteSweep = some active →
    active.nextIndex < indexedRouteKinds.length
  advances : RouteAdvances goal before result.1
  pause : (result.2 = .done ∧ result.1.mainLockStateTs = some 0) ∨
    ∃ kont, result.2 = .await kont ∧ kont.lease = lease ∧
      result.1.mainLockStateTs = some lease ∧ ∀ route, kont = .route route →
        Ready identifierText (history route.work.routeId) result.1 route

section Steps

variable {sys : RouteSystem} {id nowNanos : Nat}

theorem bounded_sweep {active : ActiveRouteSweep} {after : RouteState}
    {ended : Prop} (bound : active.nextIndex < indexedRouteKinds.length)
    (move : SweepMove ended active after) :
    ∀ next, after.activeRouteSweep = some next → next.nextIndex < indexedRouteKinds.length := by
  intro next found
  rcases move with same | ⟨_, kind, _, _, _, ⟨more, onward⟩ | ⟨_, none⟩⟩
  · rw [same] at found
    cases found
    exact bound
  · rw [onward] at found
    cases found
    exact more
  · rw [none] at found
    cases found

theorem afterRoutes_result (nowSecs : Nat) {active : ActiveRouteSweep}
    {result : RouteState × RoutePause}
    (segment : SegmentResult identifierText sys.history sys.state.config lease active goal result)
    (bound : active.nextIndex < indexedRouteKinds.length)
    (started : sys.state.activeRouteSweep = some active ∨
      sys.state.activeRouteSweep = none ∧ active.nextIndex = 0 ∧ ¬ goal.ended) :
    MainResult identifierText sys.history sys.state lease goal
      (afterRoutes lease nowSecs result) := by
  rcases result with ⟨st, pause⟩
  have advances : RouteAdvances goal sys.state st := by
    have config := segment.config
    dsimp only at config
    refine ⟨by rw [config], fun kind => by rw [config], ?_, ?_, ?_⟩
    · intro known found
      rcases started with here | ⟨none, _⟩
      · rw [Option.some.inj (found.symm.trans here)]
        exact segment.sweep
      · rw [none] at found
        cases found
    · intro none known found
      rcases started with here | ⟨_, first, unended⟩
      · rw [none] at here
        cases here
      · rcases segment.sweep with same | ⟨ended, _⟩
        · rw [Option.some.inj (found.symm.trans same)]
          exact first
        · exact absurd ended unended
    · intro known kind found located
      rcases started with here | ⟨none, _⟩
      · rw [Option.some.inj (found.symm.trans here)] at located
        exact segment.seen kind located
      · rw [none] at found
        cases found
  cases pause with
  | done =>
      exact ⟨segment.sound, bounded_sweep bound segment.sweep, advances,
        .inr ⟨_, rfl, rfl, segment.owner, nofun⟩⟩
  | await kont =>
      rcases segment.pause kont rfl with ⟨same, ready⟩
      refine ⟨segment.sound, bounded_sweep bound segment.sweep, advances,
        .inr ⟨_, rfl, same, segment.owner, ?_⟩⟩
      rintro _ ⟨⟩
      exact ready

theorem invariant_of_turn_main {result : RouteState × MainPause}
    (turn : Turn MainKont.lease sys.tasks id lease (nowNanos / nanosPerSecond))
    (main : MainResult identifierText sys.history sys.state lease goal result) :
    RouteInvariant identifierText (settleMain sys id nowNanos result) := by
  rcases result with ⟨st, pause⟩
  rcases main with ⟨sound, bounded, _, ⟨rfl, released⟩ | ⟨kont, rfl, same, held, ready⟩⟩
  · refine ⟨turn.stop _ (.inr released), sound, bounded, ?_⟩
    intro other theirs found
    rcases Pool.put_eq_some found with ⟨_, gone⟩ | ⟨different, also⟩
    · cases gone
    · exact turn.others _ (.inr released) other (.route theirs) different also fun _ =>
        ∃ past, past <:+ sys.history theirs.work.routeId ∧ past.length = sys.asked other ∧
          Ready identifierText past st theirs
  · refine ⟨?_, sound, bounded, ?_⟩
    · have awaits := turn.await kont same
      rw [← held] at awaits
      exact awaits
    · intro other theirs found
      rcases Pool.put_eq_some found with ⟨rfl, mine⟩ | ⟨different, also⟩
      · intro _
        cases mine
        refine ⟨_, List.suffix_refl _, ?_, ready theirs rfl⟩
        simp only [settleMain, Function.update_self]
      · intro owned
        have lost := turn.others _ (.inl held) other (.route theirs) different also
          (fun _ => False) owned
        exact lost.elim

theorem invariant_end_main {kont : MainKont} {st : RouteState}
    (invariant : RouteInvariant identifierText sys) (found : sys.tasks id = some kont)
    (forward : sys.clock ≤ nowNanos) (same : SameRoutes sys.state st)
    (lock : st.mainLockStateTs = releaseLease kont.lease sys.state.mainLockStateTs) :
    RouteInvariant identifierText (settleMain sys id nowNanos (st, .done)) := by
  have leased := invariant.leased.tick (Nat.div_le_div_right (c := nanosPerSecond) forward)
  by_cases owner : sys.state.mainLockStateTs = some kont.lease
  · apply invariant_of_turn_main (leased.turn_of_owner found owner)
    refine ⟨same.sound invariant.sound, ?_, same.advances, .inl ⟨rfl, ?_⟩⟩
    · intro active located
      exact invariant.bounded active (same.sweep ▸ located)
    · rw [lock, owner, releaseLease_held]
  · rw [releaseLease_lost owner] at lock
    refine ⟨leased.stop found (.inl lock), same.sound invariant.sound, ?_, ?_⟩
    · intro active located
      exact invariant.bounded active (same.sweep ▸ located)
    · intro other theirs located owned
      rcases Pool.put_eq_some located with ⟨_, gone⟩ | ⟨_, also⟩
      · cases gone
      · dsimp only [settleMain] at owned ⊢
        rw [lock] at owned
        rcases invariant.promises other theirs also owned with ⟨past, suffix, asked, ready⟩
        exact ⟨past, suffix, asked, ready.carry same lock⟩

theorem invariant_goesOn {nowSecs : Nat} (invariant : RouteInvariant identifierText sys)
    (found : sys.tasks id = some (.route kont)) (forward : sys.clock ≤ nowNanos) :
    RouteInvariant identifierText (settleMain sys id nowNanos
      (sys.state, .await (.later kont.work.lease nowSecs))) := by
  have leased := invariant.leased.tick (Nat.div_le_div_right (c := nanosPerSecond) forward)
  refine ⟨leased.keep found rfl, invariant.sound, invariant.bounded, ?_⟩
  intro other theirs located owned
  rcases Pool.put_eq_some located with ⟨_, impossible⟩ | ⟨_, also⟩
  · cases impossible
  · exact invariant.promises other theirs also owned

theorem mainTick_result (invariant : RouteInvariant identifierText sys) (force : Bool)
    (bounded : nowNanos ≤ u64Max) :
    mainTick sys.state force nowNanos = (sys.state, .done) ∨
      ∃ lease, sys.state.mainLockStateTs.getD 0 ≤ nowNanos / nanosPerSecond ∧
        nowNanos / nanosPerSecond < lease ∧
        MainResult identifierText sys.history sys.state lease .nothing
          (mainTick sys.state force nowNanos) := by
  simp only [mainTick]
  cases acquired : acquireLease (nowNanos / nanosPerSecond) mainTickLeaseSeconds
      sys.state.mainLockStateTs with
  | none => exact .inl rfl
  | some lease =>
      have fits : nowNanos / nanosPerSecond + mainTickLeaseSeconds ≤ u64Max := by
        simp only [nanosPerSecond, mainTickLeaseSeconds, u64Max] at bounded ⊢
        omega
      rcases acquireLease_some (by decide) fits acquired with ⟨free, later⟩
      refine .inr ⟨lease, free, later, ?_⟩
      have same : SameRoutes sys.state { sys.state with mainLockStateTs := some lease } :=
        .of_fields rfl rfl rfl rfl
      dsimp only
      split
      · have closed := finishMain_same { sys.state with mainLockStateTs := some lease } lease
          (nowNanos / nanosPerSecond)
        have whole : SameRoutes sys.state _ := ⟨closed.source, closed.accounts,
          (fun kind => (closed.routes kind).trans (same.routes kind)), closed.sweep⟩
        refine ⟨whole.sound invariant.sound, ?_, whole.advances, .inl ⟨rfl, ?_⟩⟩
        · intro active found
          rw [closed.sweep] at found
          exact invariant.bounded active found
        · rw [finishMain_lock, releaseLease_held]
      · exact ⟨same.sound invariant.sound, invariant.bounded, same.advances,
          .inr ⟨_, rfl, rfl, rfl, fun _ impossible => by cases impossible⟩⟩

theorem invariant_tick_main (invariant : RouteInvariant identifierText sys)
    (vacant : sys.tasks id = none) (forward : sys.clock ≤ nowNanos) (bounded : nowNanos ≤ u64Max)
    (force : Bool) :
    RouteInvariant identifierText
        (settleMain sys id nowNanos (mainTick sys.state force nowNanos)) ∧
      RouteAdvances .nothing sys.state (mainTick sys.state force nowNanos).1 := by
  have later : sys.clock / nanosPerSecond ≤ nowNanos / nanosPerSecond :=
    Nat.div_le_div_right forward
  rcases mainTick_result invariant force bounded with busy | ⟨lease, free, fresh, main⟩
  · rw [busy]
    refine ⟨⟨?_, invariant.sound, invariant.bounded, ?_⟩, (SameRoutes.refl sys.state).advances⟩
    · simp only [settleMain, Pool.put_vacant vacant]
      exact invariant.leased.tick later
    · simp only [settleMain, Pool.put_vacant vacant]
      exact invariant.promises
  · have turn := invariant.leased.turn_of_acquire vacant later free fresh
    exact ⟨invariant_of_turn_main turn main, main.advances⟩

/-- The reply to a page comes from a history between the one at its request and the present. -/
theorem routeReply_spec (suffix : past <:+ sys.history kont.work.routeId)
    (asked : past.length = sys.asked id)
    (admitted : mainReplyAdmits sys id (.route kont) reply = true) :
    ∃ current, past <:+ current ∧ current <:+ sys.history kont.work.routeId ∧
      ∀ page, routeReply sys kont reply = some page →
        page = pageOf IndexTransactionWithId.id current kont.start pageSize := by
  cases reply with
  | other => cases admitted
  | failed => exact ⟨past, List.suffix_refl _, suffix, nofun⟩
  | page unseen =>
      simp only [mainReplyAdmits, decide_eq_true_eq] at admitted
      refine ⟨servedHistory sys kont unseen, ?_, List.drop_suffix _ _, ?_⟩
      · exact List.suffix_of_suffix_length_le suffix (List.drop_suffix _ _)
          (by rw [asked]; exact admitted)
      · intro page same
        exact (Option.some.inj same).symm

/-- What the answer to a suspended tick lets its segment leave behind. -/
def MainKont.pageGoal (sys : RouteSystem) (reply : MainReply) : MainKont → PageGoal
  | .route kont =>
      if routeWorkIsCurrent sys.state kont.work.lease kont.work.active then
        kont.pageGoal (sys.history kont.work.routeId) (routeReply sys kont reply)
      else .nothing
  | .before _ _ | .later _ _ => .nothing

def stepGoal (sys : RouteSystem) : RouteEvent → PageGoal
  | .resume id reply _ => (sys.tasks id).elim .nothing (MainKont.pageGoal sys reply)
  | _ => .nothing

theorem invariant_resume_main {kont : MainKont} (invariant : RouteInvariant identifierText sys)
    (found : sys.tasks id = some kont) (forward : sys.clock ≤ nowNanos)
    (admitted : mainReplyAdmits sys id kont reply = true) :
    RouteInvariant identifierText
        (settleMain sys id nowNanos (resumeMain identifierText sys reply kont)) ∧
      RouteAdvances (kont.pageGoal sys reply) sys.state
        (resumeMain identifierText sys reply kont).1 := by
  have leased := invariant.leased.tick (Nat.div_le_div_right (c := nanosPerSecond) forward)
  cases kont with
  | before lease startedNanos =>
      simp only [resumeMain]
      split
      · have same := finishMain_same sys.state lease (startedNanos / nanosPerSecond)
        exact ⟨invariant_end_main invariant found forward same (finishMain_lock ..),
          same.advances⟩
      · rename_i current
        have owner : sys.state.mainLockStateTs = some lease := not_not.mp current
        have segment := processRouteIndexing_result sys.state lease startedNanos
          (startedNanos / nanosPerSecond) owner invariant.sound invariant.bounded
        have bound : (sys.state.activeRouteSweep.getD ⟨startedNanos, 0⟩).nextIndex <
            indexedRouteKinds.length := by
          cases active : sys.state.activeRouteSweep with
          | none => exact Nat.zero_lt_succ 1
          | some known => exact invariant.bounded known active
        have main := afterRoutes_result (startedNanos / nanosPerSecond) segment bound (by
          cases active : sys.state.activeRouteSweep with
          | none => exact .inr ⟨rfl, rfl, not_false⟩
          | some known => exact .inl rfl)
        exact ⟨invariant_of_turn_main (leased.turn_of_owner found owner) main, main.advances⟩
  | route kont =>
      simp only [resumeMain]
      by_cases owner : sys.state.mainLockStateTs = some kont.work.lease
      · rcases invariant.promises id kont found owner with ⟨past, suffix, asked, ready⟩
        rcases routeReply_spec suffix asked admitted with ⟨current, grown, inside, answered⟩
        have segment := resumeRoute_result sys.state kont ready invariant.sound grown inside
          answered
        have main := afterRoutes_result kont.work.nowSecs segment
          (kind_index ready.fits.toWorkOwns) (.inl ready.fits.sweep)
        rw [MainKont.pageGoal, if_pos ready.fits.current]
        exact ⟨invariant_of_turn_main (leased.turn_of_owner found owner) main, main.advances⟩
      · have stale : routeWorkIsCurrent sys.state kont.work.lease kont.work.active = false := by
          simp only [routeWorkIsCurrent, decide_eq_false_iff_not, not_and]
          intro held
          exact absurd held owner
        simp only [resumeRoute, stale, Bool.not_false, if_true, afterRoutes, MainKont.pageGoal,
          Bool.false_eq_true, if_false]
        exact ⟨invariant_goesOn invariant found forward, (SameRoutes.refl sys.state).advances⟩
  | later lease nowSecs =>
      have same := finishMain_same sys.state lease nowSecs
      exact ⟨invariant_end_main invariant found forward same (finishMain_lock ..), same.advances⟩

@[simp]
theorem settleMain_state (sys : RouteSystem) (id nowNanos : Nat)
    (result : RouteState × MainPause) : (settleMain sys id nowNanos result).state = result.1 := by
  rcases result with ⟨st, pause⟩
  cases pause <;> rfl

theorem invariant_abandon_main {kont : MainKont} (invariant : RouteInvariant identifierText sys)
    (found : sys.tasks id = some kont) (cleanup : Bool) :
    RouteInvariant identifierText
        { sys with
          state := if cleanup then releaseMain sys.state kont.lease else sys.state
          tasks := sys.tasks.put id none } ∧
      RouteAdvances .nothing sys.state
        (if cleanup then releaseMain sys.state kont.lease else sys.state) := by
  cases cleanup with
  | true =>
      have same : SameRoutes sys.state (releaseMain sys.state kont.lease) :=
        .of_fields rfl rfl rfl rfl
      exact ⟨invariant_end_main invariant found (Nat.le_refl _) same rfl, same.advances⟩
  | false =>
      refine ⟨⟨invariant.leased.stop found (.inl rfl), invariant.sound, invariant.bounded, ?_⟩,
        (SameRoutes.refl sys.state).advances⟩
      intro other theirs located owned
      rcases Pool.put_eq_some located with ⟨_, gone⟩ | ⟨_, also⟩
      · cases gone
      · exact invariant.promises other theirs also owned

theorem invariant_record {accountIdentifier : String} {tx : Tx}
    (invariant : RouteInvariant identifierText sys)
    (above : ∀ older ∈ sys.history accountIdentifier, older.id < tx.id) :
    RouteInvariant identifierText { sys with
      history := Function.update sys.history accountIdentifier
        (tx :: sys.history accountIdentifier) } where
  leased := invariant.leased
  sound := by
    intro kind
    dsimp only
    by_cases here : routeIdOf identifierText sys.state.config kind = accountIdentifier
    · rw [here, Function.update_self]
      have sound := invariant.sound kind
      rw [here] at sound
      exact sound.grow above
    · rw [Function.update_of_ne here]
      exact invariant.sound kind
  bounded := invariant.bounded
  promises := by
    intro other theirs found owned
    rcases invariant.promises other theirs found owned with ⟨past, suffix, asked, ready⟩
    refine ⟨past, ?_, asked, ready⟩
    dsimp only
    by_cases here : theirs.work.routeId = accountIdentifier
    · rw [here, Function.update_self]
      rw [here] at suffix
      exact suffix.trans (List.suffix_cons _ _)
    · rw [Function.update_of_ne here]
      exact suffix

theorem invariant_step_main {next : RouteSystem} (invariant : RouteInvariant identifierText sys)
    (taken : stepRoutes identifierText sys event = some next) :
    RouteInvariant identifierText next ∧
      RouteAdvances (stepGoal sys event) sys.state next.state := by
  cases event with
  | tick id force now =>
      simp only [stepRoutes] at taken
      split at taken
      · rename_i admitted
        cases taken
        simp only [historianClockAdmits, Bool.and_eq_true, decide_eq_true_eq,
          Option.isNone_iff_eq_none] at admitted
        rw [settleMain_state]
        exact invariant_tick_main invariant admitted.2 admitted.1.1 admitted.1.2 force
      · cases taken
  | resume id reply now =>
      simp only [stepRoutes] at taken
      split at taken
      · cases taken
      · rename_i kont found
        split at taken
        · rename_i admitted
          cases taken
          simp only [historianClockAdmits, Bool.and_eq_true, decide_eq_true_eq] at admitted
          rw [settleMain_state, stepGoal, found]
          exact invariant_resume_main invariant found admitted.1.1 admitted.2
        · cases taken
  | abandon id cleanup =>
      simp only [stepRoutes] at taken
      split at taken
      · cases taken
      · rename_i kont found
        cases taken
        exact invariant_abandon_main invariant found cleanup
  | record accountIdentifier tx =>
      simp only [stepRoutes] at taken
      split at taken
      · rename_i above
        cases taken
        rw [List.all_eq_true] at above
        exact ⟨invariant_record invariant fun older member =>
          of_decide_eq_true (above older member), (SameRoutes.refl sys.state).advances⟩
      · cases taken
  | upgrade scanIntervalSeconds maxIndexPagesPerTick now =>
      simp only [stepRoutes] at taken
      split at taken
      · cases taken
        have same : SameRoutes sys.state { sys.state with
            config := { sys.state.config with
              scanIntervalSeconds := scanIntervalSeconds
              maxIndexPagesPerTick := maxIndexPagesPerTick }
            mainLockStateTs := some 0 } :=
          ⟨rfl, (fun kind => by cases kind <;> rfl), (fun kind => by cases kind <;> rfl), rfl⟩
        exact ⟨⟨.empty _ _, same.sound invariant.sound, invariant.bounded,
          nofun⟩, same.advances⟩
      · cases taken

theorem RouteSound.new (sourceId routeId : String) {txs : List Tx}
    (newest : NewestFirst IndexTransactionWithId.id txs) :
    RouteSound sourceId routeId txs .new where
  newest := newest
  nodup := List.nodup_nil
  added := by
    intro tx
    constructor
    · intro impossible
      cases impossible
    · rintro ⟨_, _, ⟨_, _, impossible, _⟩ | ⟨_, _, impossible, _⟩⟩
      · cases impossible
      · cases impossible
  total := rfl
  cursors := .inl ⟨rfl, rfl⟩
  order := by simp [IndexedRoute.new]
  fresh := fun _ => ⟨rfl, rfl⟩
  bottom := nofun
  catchUp := nofun

theorem reachable_routeInvariant (reachable : (routeMachine identifierText).Reachable sys) :
    RouteInvariant identifierText sys := by
  refine (routeMachine identifierText).reachable_invariant (RouteInvariant identifierText) ?_ ?_
    reachable
  · rintro start ⟨config, nowSecs, nowNanos, history, asked, newest, rfl⟩
    refine ⟨.empty _ _, ?_, nofun,
      nofun⟩
    intro kind
    cases kind <;> exact .new _ _ (newest _)
  · intro state event next invariant taken
    exact (invariant_step_main invariant taken).1

end Steps

section Totals

variable {sourceId routeId : String} {history : List Tx} {route : IndexedRoute}

theorem transferSum_filter (txs : List Tx) :
    transferSum sourceId routeId (txs.filter (isTransfer sourceId routeId)) =
      transferSum sourceId routeId txs := by
  induction txs with
  | nil => rfl
  | cons tx rest ih =>
      simp only [transferSum] at ih ⊢
      cases amount : indexedRouteAmountFromTx sourceId routeId tx with
      | none =>
          have other : isTransfer sourceId routeId tx = false := by simp [isTransfer, amount]
          rw [List.filter_cons_of_neg (by simp [other]), List.filterMap_cons_none amount, ih]
      | some value =>
          have transfer : isTransfer sourceId routeId tx = true := by simp [isTransfer, amount]
          rw [List.filter_cons_of_pos transfer, List.filterMap_cons_some amount,
            List.filterMap_cons_some amount, List.sum_cons, List.sum_cons, ih]

theorem transferSum_complete (sound : RouteSound sourceId routeId history route)
    (complete : route.backfillComplete = some true) (idle : route.activeCatchUp = none) :
    transferSum sourceId routeId route.added = transferSum sourceId routeId
      (history.filter fun tx => route.lastIndexedTxId.any fun latest =>
        decide (tx.id ≤ latest)) := by
  have same : route.added.Perm ((history.filter fun tx => route.lastIndexedTxId.any fun latest =>
      decide (tx.id ≤ latest)).filter (isTransfer sourceId routeId)) := by
    apply (List.perm_ext_iff_of_nodup sound.nodup ((sound.newest.nodup.filter _).filter _)).mpr
    intro tx
    rw [sound.added tx, List.mem_filter, List.mem_filter]
    constructor
    · rintro ⟨member, transfer, covered⟩
      rcases (sound.cursorsSound.covered_complete complete idle member).mp covered with
        ⟨latest, last, upper⟩
      refine ⟨⟨member, ?_⟩, transfer⟩
      rw [last]
      exact decide_eq_true upper
    · rintro ⟨⟨member, below⟩, transfer⟩
      refine ⟨member, transfer, (sound.cursorsSound.covered_complete complete idle member).mpr ?_⟩
      rcases Option.any_eq_true _ _ |>.mp below with ⟨latest, last, upper⟩
      exact ⟨latest, last, of_decide_eq_true upper⟩
  have summed := (same.filterMap (indexedRouteAmountFromTx sourceId routeId)).sum_eq
  calc
    transferSum sourceId routeId route.added = _ := summed
    _ = _ := transferSum_filter _

end Totals

/-- The page that the index shows a suspended indexer. -/
def shownPage (sys : RouteSystem) (kont : RouteKont) (unseen : Nat) : List Tx :=
  pageOf IndexTransactionWithId.id (servedHistory sys kont unseen) kont.start pageSize

def isRouteTransfer (identifierText : Account → String) (config : RouteConfig)
    (kind : IndexedRouteKind) (tx : Tx) : Bool :=
  isTransfer (identifierText config.outputSourceAccount) (routeIdOf identifierText config kind) tx

/-- A route is finished behind its last page: every transfer of the served history is added, or
those up to the head that was seen when the walk began at an earlier page. -/
structure RouteEnds (identifierText : Account → String) (sys next : RouteSystem)
    (active : ActiveRouteSweep) (kont : RouteKont) (unseen : Nat) : Prop where
  located : indexedRouteKinds[active.nextIndex]? = some kont.work.kind
  last : kont.Ends (shownPage sys kont unseen)
  complete : (next.state.route kont.work.kind).backfillComplete = some true
  idle : (next.state.route kont.work.kind).activeCatchUp = none
  read : ∀ tx ∈ servedHistory sys kont unseen,
    isRouteTransfer identifierText sys.state.config kont.work.kind tx = true →
      kont.start = none ∨ (∃ head, kont.head = some head ∧ tx.id ≤ head) →
        tx ∈ (next.state.route kont.work.kind).added
  moves : active.nextIndex + 1 < indexedRouteKinds.length ∧
      next.state.activeRouteSweep = some { active with nextIndex := active.nextIndex + 1 } ∨
    active.nextIndex + 1 = indexedRouteKinds.length ∧ next.state.activeRouteSweep = none

/-- A sweep in progress stays at its route, or the last page of that route is resumed. -/
def SweepAdvances (identifierText : Account → String) (sys : RouteSystem) (event : RouteEvent)
    (next : RouteSystem) : Prop :=
  ∀ active, sys.state.activeRouteSweep = some active →
    next.state.activeRouteSweep = some active ∨
      ∃ id unseen nowNanos kont, event = .resume id (.page unseen) nowNanos ∧
        sys.tasks id = some (.route kont) ∧ RouteEnds identifierText sys next active kont unseen

/-- Each total holds every transfer it was given once, and was given every page that the indexer
took; a finished route was given exactly the transfers up to its latest cursor. -/
structure RouteTotals (identifierText : Account → String) (sys : RouteSystem) : Prop where
  once : ∀ kind, (sys.state.route kind).added.Nodup ∧
    ∀ tx ∈ (sys.state.route kind).added,
      tx ∈ sys.history (routeIdOf identifierText sys.state.config kind) ∧
        isTransfer (identifierText sys.state.config.outputSourceAccount)
          (routeIdOf identifierText sys.state.config kind) tx = true
  total : ∀ kind, (sys.state.route kind).totalE8s =
    min (transferSum (identifierText sys.state.config.outputSourceAccount)
      (routeIdOf identifierText sys.state.config kind) (sys.state.route kind).added) u64Max
  finished : ∀ kind, (sys.state.route kind).backfillComplete = some true →
    (sys.state.route kind).activeCatchUp = none →
      (∀ tx ∈ sys.history (routeIdOf identifierText sys.state.config kind),
        isTransfer (identifierText sys.state.config.outputSourceAccount)
          (routeIdOf identifierText sys.state.config kind) tx = true →
        (tx ∈ (sys.state.route kind).added ↔ ∃ latest,
          (sys.state.route kind).lastIndexedTxId = some latest ∧ tx.id ≤ latest)) ∧
      (sys.state.route kind).totalE8s =
        min (transferSum (identifierText sys.state.config.outputSourceAccount)
          (routeIdOf identifierText sys.state.config kind)
          ((sys.history (routeIdOf identifierText sys.state.config kind)).filter fun tx =>
            (sys.state.route kind).lastIndexedTxId.any fun latest => decide (tx.id ≤ latest)))
          u64Max
  pages : ∀ id unseen nowNanos kont next, sys.tasks id = some (.route kont) →
    routeWorkIsCurrent sys.state kont.work.lease kont.work.active = true →
      stepRoutes identifierText sys (.resume id (.page unseen) nowNanos) = some next →
        ∀ tx ∈ shownPage sys kont unseen,
          isRouteTransfer identifierText sys.state.config kont.work.kind tx = true →
            tx ∈ (next.state.route kont.work.kind).added
  begins : ∀ event next, stepRoutes identifierText sys event = some next →
    sys.state.activeRouteSweep = none →
      ∀ active, next.state.activeRouteSweep = some active → active.nextIndex = 0
  sweep : ∀ event next, stepRoutes identifierText sys event = some next →
    SweepAdvances identifierText sys event next

section Pages

variable {sys next : RouteSystem} {id unseen nowNanos : Nat} {kont : RouteKont}
  {active : ActiveRouteSweep} {tx : Tx}

theorem stepGoal_page (found : sys.tasks id = some (.route kont))
    (current : routeWorkIsCurrent sys.state kont.work.lease kont.work.active = true) :
    stepGoal sys (.resume id (.page unseen) nowNanos) =
      kont.pageGoal (sys.history kont.work.routeId) (some (shownPage sys kont unseen)) := by
  rw [stepGoal, found, Option.elim_some, MainKont.pageGoal, if_pos current]
  rfl

/-- Only the last page of a route lets a step finish it. -/
theorem stepGoal_ended (ended : (stepGoal sys event).ended) :
    ∃ id unseen nowNanos kont, event = .resume id (.page unseen) nowNanos ∧
      sys.tasks id = some (.route kont) ∧
      routeWorkIsCurrent sys.state kont.work.lease kont.work.active = true ∧
      kont.Ends (shownPage sys kont unseen) := by
  cases event with
  | resume id reply nowNanos =>
      rw [stepGoal] at ended
      cases found : sys.tasks id with
      | none =>
          rw [found] at ended
          exact ended.elim
      | some kont =>
          rw [found, Option.elim_some] at ended
          cases kont with
          | before lease nowNanos => exact ended.elim
          | later lease nowSecs => exact ended.elim
          | route kont =>
              rw [MainKont.pageGoal] at ended
              split at ended
              · rename_i current
                cases reply with
                | other => exact ended.elim
                | failed => exact ended.elim
                | page unseen => exact ⟨id, unseen, nowNanos, kont, rfl, found, current, ended⟩
              · exact ended.elim
  | tick id force nowNanos => exact ended.elim
  | abandon id cleanup => exact ended.elim
  | record accountIdentifier tx => exact ended.elim
  | upgrade scanIntervalSeconds maxIndexPagesPerTick nowNanos => exact ended.elim

theorem settleMain_history (sys : RouteSystem) (id nowNanos : Nat)
    (result : RouteState × MainPause) :
    (settleMain sys id nowNanos result).history = sys.history := by
  rcases result with ⟨st, pause⟩
  cases pause <;> rfl

theorem stepRoutes_resume_history
    (taken : stepRoutes identifierText sys (.resume id reply nowNanos) = some next) :
    next.history = sys.history := by
  simp only [stepRoutes] at taken
  split at taken
  · cases taken
  · split at taken
    · cases taken
      exact settleMain_history ..
    · cases taken

/-- A transfer that is covered after a page is added. -/
theorem added_of_covered (invariant : RouteInvariant identifierText sys)
    (taken : stepRoutes identifierText sys (.resume id (.page unseen) nowNanos) = some next)
    (kind : IndexedRouteKind)
    (inside : tx ∈ sys.history (routeIdOf identifierText sys.state.config kind))
    (transfer : isRouteTransfer identifierText sys.state.config kind tx = true)
    (covered : Covered (next.state.route kind) tx.id) :
    tx ∈ (next.state.route kind).added := by
  rcases invariant_step_main invariant taken with ⟨after, advances⟩
  have sound := after.sound kind
  rw [advances.source, routeIdOf, advances.accounts, stepRoutes_resume_history taken] at sound
  exact (sound.added tx).mpr ⟨inside, transfer, covered⟩

theorem current_ready (invariant : RouteInvariant identifierText sys)
    (found : sys.tasks id = some (.route kont))
    (current : routeWorkIsCurrent sys.state kont.work.lease kont.work.active = true) :
    ∃ past, Ready identifierText past sys.state kont := by
  rcases of_decide_eq_true current with ⟨owner, _⟩
  rcases invariant.promises id kont found owner with ⟨past, _, _, ready⟩
  exact ⟨past, ready⟩

/-- The head that a suspended indexer has seen is that of a known transaction. -/
theorem Ready.head_entry (ready : Ready identifierText past sys.state kont)
    (sound : RoutesSound identifierText sys.history sys.state) {head : Nat}
    (seen : kont.head = some head) : ∃ top ∈ sys.history kont.work.routeId, top.id = head := by
  have cursors := (ready.fits.sound sound).cursorsSound
  have latest : kont.work.latestCursor = some head →
      ∃ top ∈ sys.history kont.work.routeId, top.id = head := by
    intro last
    rw [ready.fits.latest] at last
    rcases cursors.cursors with ⟨none, _⟩ | ⟨top, inside, _, _, same, _⟩
    · rw [none] at last
      cases last
    · exact ⟨top, inside, Option.some.inj (same.symm.trans last)⟩
  cases kont with
  | first work => exact latest seen
  | backfill work => exact latest seen
  | catchUp work progress =>
      rcases (cursors.catchingUp ready.mode.1 ready.mode.2).head with ⟨top, inside, same⟩
      exact ⟨top, inside, same.symm.trans (Option.some.inj seen)⟩

theorem page_added (invariant : RouteInvariant identifierText sys)
    (found : sys.tasks id = some (.route kont))
    (current : routeWorkIsCurrent sys.state kont.work.lease kont.work.active = true)
    (taken : stepRoutes identifierText sys (.resume id (.page unseen) nowNanos) = some next)
    (shown : tx ∈ shownPage sys kont unseen) :
    tx ∈ sys.history (routeIdOf identifierText sys.state.config kont.work.kind) ∧
      Covered (next.state.route kont.work.kind) tx.id := by
  rcases current_ready invariant found current with ⟨past, ready⟩
  have fits := ready.fits
  have inside : tx ∈ sys.history kont.work.routeId :=
    List.mem_of_mem_drop (mem_pageOf shown).1
  have seen := (invariant_step_main invariant taken).2.seen kont.work.active kont.work.kind
    fits.sweep fits.kind tx
  rw [stepGoal_page found current] at seen
  refine ⟨fits.route ▸ inside, seen ⟨inside, .inr shown⟩⟩

theorem routeEnds (invariant : RouteInvariant identifierText sys)
    (found : sys.tasks id = some (.route kont))
    (current : routeWorkIsCurrent sys.state kont.work.lease kont.work.active = true)
    (taken : stepRoutes identifierText sys (.resume id (.page unseen) nowNanos) = some next)
    (last : kont.Ends (shownPage sys kont unseen)) {kind : IndexedRouteKind}
    (located : indexedRouteKinds[active.nextIndex]? = some kind)
    (here : sys.state.activeRouteSweep = some active)
    (complete : (next.state.route kind).backfillComplete = some true)
    (idle : (next.state.route kind).activeCatchUp = none)
    (moves : active.nextIndex + 1 < indexedRouteKinds.length ∧
        next.state.activeRouteSweep = some { active with nextIndex := active.nextIndex + 1 } ∨
      active.nextIndex + 1 = indexedRouteKinds.length ∧ next.state.activeRouteSweep = none) :
    RouteEnds identifierText sys next active kont unseen := by
  rcases current_ready invariant found current with ⟨past, ready⟩
  have fits := ready.fits
  have same : active = kont.work.active := Option.some.inj (here.symm.trans fits.sweep)
  have onRoute : kind = kont.work.kind := by
    rw [same] at located
    exact Option.some.inj (located.symm.trans fits.kind)
  subst onRoute
  refine ⟨located, last, complete, idle, ?_, moves⟩
  intro tx served transfer upper
  have inside : tx ∈ sys.history kont.work.routeId := List.mem_of_mem_drop served
  have home : tx ∈ sys.history (routeIdOf identifierText sys.state.config kont.work.kind) :=
    fits.route ▸ inside
  apply added_of_covered invariant taken _ home transfer
  rcases invariant_step_main invariant taken with ⟨after, advances⟩
  have sound := (after.sound kont.work.kind).cursorsSound
  rw [routeIdOf, advances.accounts, stepRoutes_resume_history taken] at sound
  -- The finished route covers whatever is not above an id that it covers.
  have beneath : ∀ top ∈ sys.history kont.work.routeId, tx.id ≤ top.id →
      Covered (next.state.route kont.work.kind) top.id →
        Covered (next.state.route kont.work.kind) tx.id := by
    intro top topInside below covered
    rw [fits.route] at topInside
    rcases (sound.covered_complete complete idle topInside).mp covered with ⟨latest, known, high⟩
    exact (sound.covered_complete complete idle home).mpr ⟨latest, known, by omega⟩
  rcases upper with first | ⟨head, seen, below⟩
  · have newest : NewestFirst IndexTransactionWithId.id (servedHistory sys kont unseen) :=
      ((fits.sound invariant.sound).newest).sublist (List.drop_sublist _ _)
    rcases exists_page_top newest served (Nat.zero_lt_succ 499) with ⟨top, onPage, below⟩
    have shown : top ∈ shownPage sys kont unseen := by
      rw [shownPage, first]
      exact onPage
    exact beneath top (List.mem_of_mem_drop (mem_pageOf shown).1) below
      (page_added invariant found current taken shown).2
  · rcases ready.head_entry invariant.sound seen with ⟨top, topInside, rfl⟩
    refine beneath top topInside below ?_
    have covers := advances.seen kont.work.active kont.work.kind fits.sweep fits.kind top
    rw [stepGoal_page found current] at covers
    exact covers ⟨topInside, .inl seen⟩

end Pages

theorem route_totals {sys : RouteSystem}
    (reachable : (routeMachine identifierText).Reachable sys) : RouteTotals identifierText sys := by
  have invariant := reachable_routeInvariant reachable
  constructor
  · intro kind
    have sound := invariant.sound kind
    refine ⟨sound.nodup, fun tx member => ?_⟩
    rcases (sound.added tx).mp member with ⟨known, transfer, _⟩
    exact ⟨known, transfer⟩
  · intro kind
    exact (invariant.sound kind).total
  · intro kind complete idle
    have sound := invariant.sound kind
    constructor
    · intro tx member transfer
      rw [sound.added tx, ← sound.cursorsSound.covered_complete complete idle member]
      exact ⟨fun known => known.2.2, fun covered => ⟨member, transfer, covered⟩⟩
    · rw [sound.total, transferSum_complete sound complete idle]
  · intro id unseen nowNanos kont next found current taken tx shown transfer
    rcases page_added invariant found current taken shown with ⟨inside, covered⟩
    exact added_of_covered invariant taken _ inside transfer covered
  · intro event next taken
    exact (invariant_step_main invariant taken).2.begins
  · intro event next taken active here
    have advances := (invariant_step_main invariant taken).2
    rcases advances.sweep active here with same | ⟨ended, kind, located, complete, idle, moves⟩
    · exact .inl same
    · rcases stepGoal_ended ended with ⟨id, unseen, nowNanos, kont, rfl, found, current, last⟩
      exact .inr ⟨id, unseen, nowNanos, kont, rfl, found,
        routeEnds invariant found current taken last located here complete idle moves⟩

section Sample

def disburserAccount : Account := ⟨⟨[0, 0, 0, 0, 2, 48, 14, 55, 1, 1]⟩, none⟩

def faucetAccount : Account := ⟨⟨[0, 0, 0, 0, 2, 48, 15, 33, 1, 1]⟩, none⟩

def rewardsAccount : Account := ⟨⟨[0, 0, 0, 0, 2, 48, 15, 34, 1, 1]⟩, none⟩

def sampleIdentifier (account : Account) : String :=
  if account = disburserAccount then
    "e718afcd94d82523a69e4127625c8771a6c139fdccb8dd8995dfbf08d9de1ef8"
  else if account = faucetAccount then
    "ed763a4a5590cb5db2ea5f1da10f545be9b49dd192e7585580fc4d1f15f0687e"
  else if account = rewardsAccount then
    "4d6afc06456fc7d5e5d6c9096a12ca60182a9fdb4ee50c4ff2feb2112c86222f"
  else ""

def samplePayout (id amount : Nat) : Tx where
  id := id
  transaction :=
    { memo := 0
      icrc1Memo := none
      operation := .transfer (sampleIdentifier faucetAccount) 10000
        (sampleIdentifier disburserAccount) amount none
      timestampNanos := none }

def routeSampleStart : RouteSystem where
  state := RouteState.new ⟨disburserAccount, faucetAccount, rewardsAccount, 600, 10⟩ 1700000000
  tasks := Pool.empty
  clock := 1700000000000000000
  history := fun _ => []
  asked := fun _ => 0

/-- The first tick loses its lease; its page comes back after the next tick has read the route.
The next sweep reads the later payout in a catch-up. -/
def routeSampleEvents : List RouteEvent :=
  [.record (sampleIdentifier faucetAccount) (samplePayout 7 250000000),
    .tick 0 true 1700000000000000000, .resume 0 .other 1700000000000000000,
    .tick 1 true 1700000900000000000, .resume 1 .other 1700000900000000000,
    .resume 1 (.page 0) 1700000900000000000,
    .record (sampleIdentifier faucetAccount) (samplePayout 9 100000000),
    .resume 0 (.page 0) 1700000900000000000, .resume 1 .other 1700000900000000000,
    .tick 2 true 1700001000000000000, .resume 2 .other 1700001000000000000,
    .resume 2 (.page 0) 1700001000000000000, .resume 2 .other 1700001000000000000,
    .tick 3 true 1700002000000000000, .resume 3 .other 1700002000000000000,
    .resume 3 (.page 0) 1700002000000000000]

def routeSampleSystem : RouteSystem :=
  ((routeMachine sampleIdentifier).run routeSampleStart routeSampleEvents).getD routeSampleStart

theorem routeSampleSystem_reachable :
    (routeMachine sampleIdentifier).Reachable routeSampleSystem :=
  (routeMachine sampleIdentifier).reachable_getD
    ⟨_, 1700000000, _, _, _, fun _ => List.Pairwise.nil, rfl⟩
    (by decide +kernel)

theorem route_totals_late_page :
    routeSampleSystem.state.output.totalE8s = 350000000 ∧
      routeSampleSystem.state.output.lastIndexedTxId = some 9 ∧
      routeSampleSystem.state.activeRouteSweep = some ⟨1700002000000000000, 1⟩ ∧
      RouteTotals sampleIdentifier routeSampleSystem :=
  ⟨by decide +kernel, by decide +kernel, by decide +kernel,
    route_totals routeSampleSystem_reachable⟩

end Sample

end JupiterSuite.Historian
