import JupiterSuite.Historian.RouteTotals

/-! What a segment of the route indexer leaves behind: sound routes, a continuation whose locals
agree with the state, and a sweep that moves on only behind a finished route. -/

namespace JupiterSuite.Historian

open Base

section State

variable (st : RouteState) (kind other : IndexedRouteKind) (route after : IndexedRoute)

@[simp]
theorem route_setRoute : (st.setRoute kind route).route kind = route := by
  cases kind <;> rfl

theorem route_setRoute_ne (different : other ≠ kind) :
    (st.setRoute kind route).route other = st.route other := by
  cases kind <;> cases other
  · exact absurd rfl different
  · rfl
  · rfl
  · exact absurd rfl different

@[simp]
theorem setRoute_setRoute : (st.setRoute kind route).setRoute kind after =
    st.setRoute kind after := by
  cases kind <;> rfl

@[simp]
theorem setRoute_config : (st.setRoute kind route).config = st.config := by
  cases kind <;> rfl

@[simp]
theorem setRoute_sweep : (st.setRoute kind route).activeRouteSweep = st.activeRouteSweep := by
  cases kind <;> rfl

@[simp]
theorem setRoute_lock : (st.setRoute kind route).mainLockStateTs = st.mainLockStateTs := by
  cases kind <;> rfl

end State

variable {identifierText : Account → String} {history : String → List Tx}

/-- The account identifier of a route. -/
def routeIdOf (identifierText : Account → String) (config : RouteConfig)
    (kind : IndexedRouteKind) : String :=
  identifierText (indexedRouteAccount config kind)

def RoutesSound (identifierText : Account → String) (history : String → List Tx)
    (st : RouteState) : Prop :=
  ∀ kind, RouteSound (identifierText st.config.outputSourceAccount)
    (routeIdOf identifierText st.config kind) (history (routeIdOf identifierText st.config kind))
    (st.route kind)

/-- The work holds the lease and is on the route of the sweep. -/
structure WorkOwns (st : RouteState) (work : RouteWork) : Prop where
  owner : st.mainLockStateTs = some work.lease
  sweep : st.activeRouteSweep = some work.active
  kind : indexedRouteKinds[work.active.nextIndex]? = some work.kind

/-- The locals of the indexer agree with the state. -/
structure WorkFits (identifierText : Account → String) (st : RouteState) (work : RouteWork) : Prop
    extends WorkOwns st work where
  source : work.sourceId = identifierText st.config.outputSourceAccount
  route : work.routeId = routeIdOf identifierText st.config work.kind
  latest : work.latestCursor = (st.route work.kind).lastIndexedTxId
  oldest : work.oldestCursor = (st.route work.kind).oldestIndexedTxId

def Mode (route : IndexedRoute) : RouteKont → Prop
  | .first work => route.lastIndexedTxId = none ∧ work.backfillComplete = false ∧
      route.backfillComplete ≠ some true
  | .backfill work => work.backfillComplete = false ∧ route.backfillComplete ≠ some true
  | .catchUp _ progress => route.backfillComplete = some true ∧
      (route.activeCatchUp = some progress ∨ CatchUpBegins route progress)

/-- A suspended indexer; its cursor was known to the index when it asked. -/
structure Ready (identifierText : Account → String) (past : List Tx) (st : RouteState)
    (kont : RouteKont) : Prop where
  fits : WorkFits identifierText st kont.work
  known : ∀ cursor, kont.start = some cursor → ∃ entry ∈ past, entry.id = cursor
  mode : Mode (st.route kont.work.kind) kont

/-- The page is the last one that the indexer asks for. -/
def RouteKont.Ends (page : List Tx) : RouteKont → Prop
  | .catchUp _ progress =>
      page.length < pageSize ∨ ∃ tx ∈ page, tx.id ≤ progress.boundaryTxId
  | .first _ | .backfill _ => page.length < pageSize

/-- The head that the pages before this one have seen. -/
def RouteKont.head : RouteKont → Option Nat
  | .catchUp _ progress => some progress.observedHeadTxId
  | .first work | .backfill work => work.latestCursor

/-- Whether a segment may finish its route, and what it has to leave behind as read. -/
structure PageGoal where
  ended : Prop
  seen : Tx → Prop

def PageGoal.nothing : PageGoal := ⟨False, fun _ => False⟩

def RouteKont.pageGoal (history : List Tx) (kont : RouteKont) : Option (List Tx) → PageGoal
  | none => .nothing
  | some page =>
      ⟨kont.Ends page, fun tx => tx ∈ history ∧ (kont.head = some tx.id ∨ tx ∈ page)⟩

/-- The sweep stays at its route, or moves on behind a last page when the route is finished. -/
def SweepMove (ended : Prop) (active : ActiveRouteSweep) (after : RouteState) : Prop :=
  after.activeRouteSweep = some active ∨
    ended ∧ ∃ kind, indexedRouteKinds[active.nextIndex]? = some kind ∧
      (after.route kind).backfillComplete = some true ∧
      (after.route kind).activeCatchUp = none ∧
      (active.nextIndex + 1 < indexedRouteKinds.length ∧
          after.activeRouteSweep = some { active with nextIndex := active.nextIndex + 1 } ∨
        active.nextIndex + 1 = indexedRouteKinds.length ∧ after.activeRouteSweep = none)

structure SegmentResult (identifierText : Account → String) (history : String → List Tx)
    (config : RouteConfig) (lease : Nat) (active : ActiveRouteSweep) (goal : PageGoal)
    (result : RouteState × RoutePause) : Prop where
  config : result.1.config = config
  sound : RoutesSound identifierText history result.1
  owner : result.1.mainLockStateTs = some lease
  pause : ∀ kont, result.2 = .await kont → kont.work.lease = lease ∧
    Ready identifierText (history kont.work.routeId) result.1 kont
  sweep : SweepMove goal.ended active result.1
  seen : ∀ kind, indexedRouteKinds[active.nextIndex]? = some kind →
    ∀ tx, goal.seen tx → Covered (result.1.route kind) tx.id

section Segments

variable {st : RouteState} {work : RouteWork} {served page : List Tx} {goal : PageGoal}

theorem RoutesSound.set {kind : IndexedRouteKind} {route : IndexedRoute}
    (sound : RoutesSound identifierText history st)
    (changed : RouteSound (identifierText st.config.outputSourceAccount)
      (routeIdOf identifierText st.config kind)
      (history (routeIdOf identifierText st.config kind)) route) :
    RoutesSound identifierText history (st.setRoute kind route) := by
  intro other
  rw [setRoute_config]
  by_cases same : other = kind
  · subst same
    rw [route_setRoute]
    exact changed
  · rw [route_setRoute_ne st kind other route same]
    exact sound other

theorem WorkOwns.current (fits : WorkOwns st work) :
    routeWorkIsCurrent st work.lease work.active = true := by
  simp only [routeWorkIsCurrent, decide_eq_true_eq]
  exact ⟨fits.owner, fits.sweep⟩

theorem WorkFits.sound (fits : WorkFits identifierText st work)
    (sound : RoutesSound identifierText history st) :
    RouteSound work.sourceId work.routeId (history work.routeId) (st.route work.kind) := by
  rw [fits.source, fits.route]
  exact sound work.kind

theorem WorkFits.setSound (fits : WorkFits identifierText st work)
    (sound : RoutesSound identifierText history st) {route : IndexedRoute}
    (changed : RouteSound work.sourceId work.routeId (history work.routeId) route) :
    RoutesSound identifierText history (st.setRoute work.kind route) := by
  rw [fits.source, fits.route] at changed
  exact sound.set changed

theorem WorkOwns.set (owns : WorkOwns st work) (next : RouteWork) (route : IndexedRoute)
    (lease : next.lease = work.lease) (active : next.active = work.active)
    (kind : next.kind = work.kind) : WorkOwns (st.setRoute work.kind route) next where
  owner := by rw [setRoute_lock, lease, owns.owner]
  sweep := by rw [setRoute_sweep, active, owns.sweep]
  kind := by rw [active, kind, owns.kind]

theorem WorkFits.set (fits : WorkFits identifierText st work) (next : RouteWork)
    (route : IndexedRoute) (lease : next.lease = work.lease) (active : next.active = work.active)
    (kind : next.kind = work.kind) (source : next.sourceId = work.sourceId)
    (routeId : next.routeId = work.routeId) (latest : next.latestCursor = route.lastIndexedTxId)
    (oldest : next.oldestCursor = route.oldestIndexedTxId) :
    WorkFits identifierText (st.setRoute work.kind route) next where
  toWorkOwns := fits.toWorkOwns.set next route lease active kind
  source := by rw [setRoute_config, source, fits.source]
  route := by rw [setRoute_config, routeId, kind, fits.route]
  latest := by rw [kind, route_setRoute, latest]
  oldest := by rw [kind, route_setRoute, oldest]

theorem finishRoute_routes (completedRoute : Bool) (kind : IndexedRouteKind) :
    (finishRoute st work completedRoute).route kind = st.route kind := by
  simp only [finishRoute]
  split
  · split <;> cases kind <;> rfl
  · rfl

theorem finishRoute_config (completedRoute : Bool) :
    (finishRoute st work completedRoute).config = st.config := by
  simp only [finishRoute]
  split
  · split <;> rfl
  · rfl

theorem finishRoute_lock (completedRoute : Bool) :
    (finishRoute st work completedRoute).mainLockStateTs = st.mainLockStateTs := by
  simp only [finishRoute]
  split
  · split <;> rfl
  · rfl

theorem kind_index (fits : WorkOwns st work) :
    work.active.nextIndex < indexedRouteKinds.length :=
  (List.getElem?_eq_some_iff.mp fits.kind).1

theorem finishRoute_sweep {completedRoute : Bool} {ended : Prop} (fits : WorkOwns st work)
    (finished : completedRoute = true → ended ∧
      (st.route work.kind).backfillComplete = some true ∧
      (st.route work.kind).activeCatchUp = none) :
    SweepMove ended work.active (finishRoute st work completedRoute) := by
  cases completedRoute with
  | false => exact .inl fits.sweep
  | true =>
      rcases finished rfl with ⟨last, complete, idle⟩
      have bound := kind_index fits
      have small : work.active.nextIndex + 1 ≤ u64Max := by
        have two : indexedRouteKinds.length = 2 := rfl
        simp only [u64Max]
        omega
      refine .inr ⟨last, work.kind, fits.kind, ?_, ?_, ?_⟩
      · rw [finishRoute_routes, complete]
      · rw [finishRoute_routes, idle]
      · simp only [finishRoute, fits.current, Bool.and_self, if_true]
        rw [satAdd_of_le small]
        split
        · exact .inr ⟨by omega, rfl⟩
        · rename_i more
          exact .inl ⟨not_le.mp more, rfl⟩

theorem finish_result (goal : PageGoal) (completedRoute : Bool) (fits : WorkOwns st work)
    (sound : RoutesSound identifierText history st)
    (finished : completedRoute = true → goal.ended ∧
      (st.route work.kind).backfillComplete = some true ∧
      (st.route work.kind).activeCatchUp = none)
    (seen : ∀ tx, goal.seen tx → Covered (st.route work.kind) tx.id) :
    SegmentResult identifierText history st.config work.lease work.active goal
      (finishRoute st work completedRoute, .done) where
  config := finishRoute_config completedRoute
  sound := by
    intro kind
    dsimp only
    rw [finishRoute_routes, finishRoute_config]
    exact sound kind
  owner := (finishRoute_lock completedRoute).trans fits.owner
  pause := nofun
  sweep := finishRoute_sweep fits finished
  seen := by
    intro kind located tx known
    rw [finishRoute_routes, Option.some.inj (located.symm.trans fits.kind)]
    exact seen tx known

theorem await_result (kont : RouteKont) (ready : Ready identifierText (history kont.work.routeId)
    st kont) (sound : RoutesSound identifierText history st)
    (seen : ∀ tx, goal.seen tx → Covered (st.route kont.work.kind) tx.id) :
    SegmentResult identifierText history st.config kont.work.lease kont.work.active goal
      (st, .await kont) where
  config := rfl
  sound := sound
  owner := ready.fits.owner
  pause := by
    rintro _ ⟨⟩
    exact ⟨rfl, ready⟩
  sweep := .inl ready.fits.sweep
  seen := by
    intro kind located tx known
    rw [Option.some.inj (located.symm.trans ready.fits.kind)]
    exact seen tx known

/-- The answer of a step that starts with a write to the route. -/
theorem SegmentResult.of_set {kind : IndexedRouteKind} {route : IndexedRoute} {lease : Nat}
    {active : ActiveRouteSweep} {result : RouteState × RoutePause}
    (after : SegmentResult identifierText history (st.setRoute kind route).config lease active goal
      result) : SegmentResult identifierText history st.config lease active goal result := by
  rwa [setRoute_config] at after

theorem exitBackfill_result (st : RouteState) (work : RouteWork) (completedRoute : Bool)
    (fits : WorkFits identifierText st work)
    (sound : RoutesSound identifierText history st)
    (incomplete : (st.route work.kind).backfillComplete ≠ some true)
    (bottom : work.backfillComplete = true → ∀ tx ∈ history work.routeId, ∀ oldest,
      (st.route work.kind).oldestIndexedTxId = some oldest → oldest ≤ tx.id)
    (completed : completedRoute = true → goal.ended ∧ work.backfillComplete = true)
    (seen : ∀ tx, goal.seen tx → Covered (st.route work.kind) tx.id) :
    SegmentResult identifierText history st.config work.lease work.active goal
      (exitBackfill st work completedRoute) := by
  have routeSound := fits.sound sound
  have idle := routeSound.cursorsSound.idle incomplete
  have stamped := routeSound.restamp work.backfillComplete bottom (.inl idle)
  have kept : ∀ tx, goal.seen tx → Covered ((st.route work.kind).withProgress
      (st.route work.kind).lastIndexedTxId (st.route work.kind).oldestIndexedTxId
      work.backfillComplete) tx.id := seen
  rw [← fits.latest, ← fits.oldest] at stamped kept
  simp only [exitBackfill, fits.current, if_true, RouteState.setProgress]
  have next := fits.set work ((st.route work.kind).withProgress work.latestCursor
    work.oldestCursor work.backfillComplete) rfl rfl rfl rfl rfl rfl rfl
  refine (finish_result goal completedRoute next.toWorkOwns (fits.setSound sound stamped) ?_
    (by rwa [route_setRoute])).of_set
  intro yes
  rw [route_setRoute]
  exact ⟨(completed yes).1, congrArg some (completed yes).2, idle⟩

theorem backfillLoop_result (st : RouteState) (work : RouteWork)
    (fits : WorkFits identifierText st work)
    (sound : RoutesSound identifierText history st)
    (incomplete : (st.route work.kind).backfillComplete ≠ some true)
    (unfinished : work.backfillComplete = false)
    (seen : ∀ tx, goal.seen tx → Covered (st.route work.kind) tx.id) :
    SegmentResult identifierText history st.config work.lease work.active goal
      (backfillLoop st work) := by
  simp only [backfillLoop]
  split
  · refine await_result (.backfill work) ⟨fits, ?_, unfinished, incomplete⟩ sound seen
    intro cursor start
    have known : (st.route work.kind).oldestIndexedTxId = some cursor :=
      fits.oldest.symm.trans start
    rcases (fits.sound sound).cursors with ⟨_, none⟩ | ⟨_, _, oldest, member, _, same, _⟩
    · rw [none] at known
      cases known
    · rw [same] at known
      exact ⟨oldest, member, Option.some.inj known⟩
  · refine exitBackfill_result st work false fits sound incomplete ?_
      nofun seen
    rw [unfinished]
    intro impossible
    cases impossible

/-- The cursors behind a page that was read, as the code combines them with the old ones. -/
theorem WorkFits.cursors_behind (fits : WorkFits identifierText st work)
    (sound : RoutesSound identifierText history st)
    (here : ServedPage (history work.routeId) served work.oldestCursor page)
    {greatest least : Tx} (greatestHere : greatest ∈ page) (leastHere : least ∈ page) :
    some (work.latestCursor.elim greatest.id (max · greatest.id)) =
        some ((st.route work.kind).lastIndexedTxId.getD greatest.id) ∧
      some (work.oldestCursor.elim least.id (min · least.id)) = some least.id := by
  constructor
  · rw [fits.oldest] at here
    rw [fits.latest]
    rcases (fits.sound sound).cursors with ⟨none, _⟩ | ⟨newest, _, oldest, _, last, first, ordered⟩
    · rw [none]
      rfl
    · have behind := here.below greatestHere first
      rw [last]
      exact congrArg some (Nat.max_eq_left (by omega))
  · cases cursor : work.oldestCursor with
    | none => rfl
    | some start =>
        have behind := here.below leastHere cursor
        exact congrArg some (Nat.min_eq_right (by omega))

theorem onBackfillPage_result (fits : WorkFits identifierText st work)
    (sound : RoutesSound identifierText history st)
    (incomplete : (st.route work.kind).backfillComplete ≠ some true)
    (unfinished : work.backfillComplete = false)
    (here : ServedPage (history work.routeId) served work.oldestCursor page) :
    SegmentResult identifierText history st.config work.lease work.active
      ((RouteKont.backfill work).pageGoal (history work.routeId) (some page))
      (onBackfillPage st work page) := by
  have routeSound := fits.sound sound
  have before : ∀ id, work.latestCursor = some id → Covered (st.route work.kind) id := by
    intro id last
    rw [fits.latest] at last
    exact routeSound.cursorsSound.covered_latest last
  by_cases present : page = []
  · subst present
    simp only [onBackfillPage, List.isEmpty_nil, if_true]
    refine exitBackfill_result st { work with
      remainingPages := work.remainingPages - 1
      backfillComplete := true } true ⟨⟨fits.owner, fits.sweep, fits.kind⟩, fits.source,
        fits.route, fits.latest, fits.oldest⟩ sound incomplete ?_
        (fun _ => ⟨Nat.zero_lt_succ _, rfl⟩) ?_
    · intro _ tx member oldest found
      exact here.bottom_empty (fits.oldest.trans found) tx member
    · rintro tx ⟨_, last | impossible⟩
      · exact before tx.id last
      · cases impossible
  · rcases exists_maxKey IndexTransactionWithId.id present with
      ⟨greatest, greatestHere, maxSeen, upper⟩
    rcases exists_minKey IndexTransactionWithId.id present with
      ⟨least, leastHere, minSeen, lower⟩
    have nonempty : page.isEmpty = false := by simpa using present
    have older := here.older
    have within := here
    rw [fits.oldest] at within
    have extended := routeSound.backfillPage incomplete within leastHere lower greatestHere upper
    have read := routeSound.cursorsSound.backfillPage incomplete within leastHere lower
      greatestHere upper
    have same : SameCursors ((st.route work.kind).withProgress
        (some ((st.route work.kind).lastIndexedTxId.getD greatest.id)) (some least.id) false)
        ((st.route work.kind).addItems work.sourceId work.routeId page |>.withProgress (some ((st.route work.kind).lastIndexedTxId.getD greatest.id))
          (some least.id) false) :=
      ⟨rfl, rfl, rfl, (addItems_frame work.sourceId work.routeId _ page).2.2.2.2⟩
    have seen : ∀ tx, ((RouteKont.backfill work).pageGoal (history work.routeId)
        (some page)).seen tx → Covered _ tx.id := fun tx known =>
      read.seen same known.1 (known.2.imp_left (before tx.id))
    rcases fits.cursors_behind sound here greatestHere leastHere with ⟨latest, oldest⟩
    simp only [onBackfillPage, nonempty, Bool.false_eq_true, if_false]
    rw [older, nonempty, maxSeen, minSeen]
    simp only [Bool.false_eq_true, if_false, Option.elim_some, latest, oldest,
      RouteState.addAmounts, RouteState.setProgress, route_setRoute, setRoute_setRoute,
      unfinished]
    generalize wrote : (((st.route work.kind).addItems work.sourceId work.routeId
      page).withProgress (some ((st.route work.kind).lastIndexedTxId.getD greatest.id))
      (some least.id) false) = route at extended seen ⊢
    have stillIncomplete : ((st.setRoute work.kind route).route work.kind).backfillComplete ≠
        some true := by
      rw [route_setRoute, ← wrote]
      simp [IndexedRoute.withProgress]
    have soundAfter := fits.setSound sound extended
    split
    · rename_i short
      refine (exitBackfill_result (st.setRoute work.kind route) { work with
        remainingPages := work.remainingPages - 1
        latestCursor := some ((st.route work.kind).lastIndexedTxId.getD greatest.id)
        oldestCursor := some least.id
        backfillComplete := true } true
        (fits.set _ _ rfl rfl rfl rfl rfl (by rw [← wrote]; rfl) (by rw [← wrote]; rfl))
        soundAfter stillIncomplete ?_ (fun _ => ⟨short, rfl⟩) (by rwa [route_setRoute])).of_set
      intro _ tx member cursor found
      rw [route_setRoute, ← wrote] at found
      rw [← Option.some.inj found]
      exact here.bottom short leastHere lower tx member
    · exact (backfillLoop_result (st.setRoute work.kind route) { work with
        remainingPages := work.remainingPages - 1
        latestCursor := some ((st.route work.kind).lastIndexedTxId.getD greatest.id)
        oldestCursor := some least.id
        backfillComplete := false }
        (fits.set _ _ rfl rfl rfl rfl rfl (by rw [← wrote]; rfl) (by rw [← wrote]; rfl))
        soundAfter stillIncomplete rfl (by rwa [route_setRoute])).of_set

theorem catchUpLoop_result (goal : PageGoal) (st : RouteState) (work : RouteWork)
    (progress : DescendingIndexCatchUp) (fits : WorkFits identifierText st work)
    (sound : RoutesSound identifierText history st)
    (complete : (st.route work.kind).backfillComplete = some true)
    (under_way : (st.route work.kind).activeCatchUp = some progress ∨
      CatchUpBegins (st.route work.kind) progress)
    (seen : ∀ tx, goal.seen tx → Covered (st.route work.kind) tx.id) :
    SegmentResult identifierText history st.config work.lease work.active goal
      (catchUpLoop st work progress) := by
  simp only [catchUpLoop]
  split
  · refine await_result (.catchUp work progress) ⟨fits, ?_, complete, under_way⟩ sound seen
    intro cursor start
    rcases under_way with active | ⟨_, latest, _, rfl⟩
    · rcases ((fits.sound sound).catchUp progress active).2.2 with
        ⟨entry, member, _, _, next, _⟩
      rw [RouteKont.start, next] at start
      exact ⟨entry, member, Option.some.inj start⟩
    · cases start
  · exact finish_result _ false fits.toWorkOwns sound nofun seen

/-- What a page read behind the progress of a catch-up leaves of the route. -/
theorem onCatchUpPage_result (st : RouteState) (work : RouteWork)
    (progress : DescendingIndexCatchUp) (fits : WorkFits identifierText st work)
    (sound : RoutesSound identifierText history st)
    (complete : (st.route work.kind).backfillComplete = some true)
    (under_way : (st.route work.kind).activeCatchUp = some progress ∨
      CatchUpBegins (st.route work.kind) progress)
    (here : ServedPage (history work.routeId) served progress.nextStartTxId page) :
    SegmentResult identifierText history st.config work.lease work.active
      ((RouteKont.catchUp work progress).pageGoal (history work.routeId) (some page))
      (onCatchUpPage st work progress page) := by
  have routeSound := fits.sound sound
  have known := routeSound.cursorsSound.catchingUp complete under_way
  have spec := newItems_spec progress.boundaryTxId here.pageNewest
  have finished : ∀ (items : List Tx) (reached : Bool) (head : Nat),
      NewItems progress.boundaryTxId page items reached →
      reached = true ∨ page.length < pageSize → SeenHead progress items head →
      SegmentResult identifierText history st.config work.lease work.active
        ((RouteKont.catchUp work progress).pageGoal (history work.routeId) (some page))
        (finishRoute (st.setRoute work.kind
          ((((st.route work.kind).addItems work.sourceId work.routeId items).withCatchUp
            none).withProgress (some head) (st.route work.kind).oldestIndexedTxId true))
          { work with remainingPages := work.remainingPages - 1 } true, .done) := by
    intro items reached head new terminal seen
    have ended := routeSound.catchUpEnds known here new terminal seen
    have read := routeSound.cursorsSound.catchUpEnds known here new terminal seen
    have owns := fits.toWorkOwns.set { work with remainingPages := work.remainingPages - 1 }
      ((((st.route work.kind).addItems work.sourceId work.routeId items).withCatchUp
        none).withProgress (some head) (st.route work.kind).oldestIndexedTxId true) rfl rfl rfl
    refine (finish_result ((RouteKont.catchUp work progress).pageGoal
      (history work.routeId) (some page)) true owns (fits.setSound sound ended) ?_ ?_).of_set
    · intro _
      rw [route_setRoute]
      exact ⟨terminal.symm.imp_right new.crossed, rfl, rfl⟩
    · intro tx here
      rw [route_setRoute]
      exact read.seen ⟨rfl, rfl, rfl, rfl⟩ here.1 (known.seen new here.1 here.2)
  by_cases present : page = []
  · subst present
    have nothing : SeenHead progress [] progress.observedHeadTxId :=
      ⟨Nat.le_refl _, nofun, .inl rfl⟩
    have ended := finished [] false _ spec (.inr (by decide)) nothing
    simp only [onCatchUpPage, List.isEmpty_nil, if_true, RouteState.setCatchUp,
      RouteState.setProgress, route_setRoute, setRoute_setRoute]
    rw [fits.oldest]
    exact ended
  · have nonempty : page.isEmpty = false := by simpa using present
    rcases exists_lastKey here.pageNewest present with ⟨final, finalHere, lastIs, lower⟩
    have seen := seenHead_spec progress (newItems progress.boundaryTxId page).1
    simp only [onCatchUpPage, nonempty, Bool.false_eq_true, if_false, RouteState.addAmounts,
      RouteState.setCatchUp, RouteState.setProgress, route_setRoute, setRoute_setRoute]
    generalize newItems progress.boundaryTxId page = found at spec seen ⊢
    rcases found with ⟨items, reached⟩
    dsimp only at spec seen ⊢
    split
    · rename_i terminal
      rw [fits.oldest]
      exact finished items reached _ spec (by simpa using terminal) seen
    · rename_i goesOn
      simp only [Bool.or_eq_true, decide_eq_true_eq, not_or, Bool.not_eq_true] at goesOn
      have all : items = page := spec.above goesOn.1
      subst all
      have extended := routeSound.catchUpGoesOn complete known here spec seen finalHere lower
      have read := routeSound.cursorsSound.catchUpGoesOn complete known here spec seen finalHere
        lower
      rw [lastIs]
      rcases addItems_frame work.sourceId work.routeId (st.route work.kind) items with
        ⟨last, oldest, _, completeSame, _⟩
      refine (catchUpLoop_result ((RouteKont.catchUp work progress).pageGoal
        (history work.routeId) (some items)) (st.setRoute work.kind
        (((st.route work.kind).addItems work.sourceId work.routeId items).withCatchUp
          (some ⟨progress.boundaryTxId, _, some final.id⟩)))
        { work with remainingPages := work.remainingPages - 1 } _
        (fits.set _ _ rfl rfl rfl rfl rfl (fits.latest.trans last.symm)
          (fits.oldest.trans oldest.symm))
        (fits.setSound sound extended) ?_ (.inl (by rw [route_setRoute]; rfl)) ?_).of_set
      · rw [route_setRoute]
        exact completeSame.trans complete
      · intro tx here
        rw [route_setRoute]
        exact read.seen ⟨last, oldest, completeSame, rfl⟩ here.1 (known.seen spec here.1 here.2)

theorem startLoops_first (st : RouteState) (work : RouteWork)
    (fits : WorkFits identifierText st work) (sound : RoutesSound identifierText history st)
    (mode : Mode (st.route work.kind) (.first work))
    (here : ServedPage (history work.routeId) served none page) :
    SegmentResult identifierText history st.config work.lease work.active
      ((RouteKont.first work).pageGoal (history work.routeId) (some page))
      (startLoops st work (some page)) := by
  rcases mode with ⟨unread, unfinished, incomplete⟩
  have latest : work.latestCursor = none := fits.latest.trans unread
  have oldest : work.oldestCursor = none := by
    rcases (fits.sound sound).cursors with ⟨_, none⟩ | ⟨_, _, _, _, last, _⟩
    · exact fits.oldest.trans none
    · rw [unread] at last
      cases last
  simp only [startLoops, latest, unfinished, Option.isSome_none, Bool.and_self,
    Bool.false_eq_true, if_false]
  rw [← oldest] at here
  exact onBackfillPage_result fits sound incomplete unfinished here

theorem startLoops_none (goal : PageGoal) (st : RouteState) (work : RouteWork)
    (fits : WorkFits identifierText st work) (sound : RoutesSound identifierText history st)
    (complete : work.backfillComplete = true ↔
      (st.route work.kind).backfillComplete = some true)
    (read : work.backfillComplete = true → work.latestCursor.isSome = true)
    (seen : ∀ tx, goal.seen tx → Covered (st.route work.kind) tx.id) :
    SegmentResult identifierText history st.config work.lease work.active goal
      (startLoops st work none) := by
  cases finished : work.backfillComplete with
  | false =>
      have incomplete : (st.route work.kind).backfillComplete ≠ some true := by
        intro yes
        rw [complete.mpr yes] at finished
        cases finished
      simp only [startLoops, finished, Bool.and_false, Bool.false_eq_true, if_false]
      exact backfillLoop_result st work fits sound incomplete finished seen
  | true =>
      have whole := complete.mp finished
      rcases Option.isSome_iff_exists.mp (read finished) with ⟨latest, last⟩
      simp only [startLoops, finished, last, Option.isSome_some, Bool.and_self, if_true,
        Option.map_some]
      cases active : (st.route work.kind).activeCatchUp with
      | none =>
          refine catchUpLoop_result _ st work _ fits sound whole (.inr ⟨active, latest, ?_, rfl⟩)
            seen
          exact fits.latest.symm.trans last
      | some progress =>
          exact catchUpLoop_result _ st work progress fits sound whole (.inl active) seen

theorem resumeRoute_result (st : RouteState) (kont : RouteKont)
    (ready : Ready identifierText served st kont)
    (sound : RoutesSound identifierText history st)
    {reply : Option (List Tx)} {current : List Tx} (grown : served <:+ current)
    (suffix : current <:+ history kont.work.routeId)
    (answered : ∀ page, reply = some page →
      page = pageOf IndexTransactionWithId.id current kont.start pageSize) :
    SegmentResult identifierText history st.config kont.work.lease kont.work.active
      (kont.pageGoal (history kont.work.routeId) reply) (resumeRoute st kont reply) := by
  have here : ∀ page, reply = some page →
      ServedPage (history kont.work.routeId) current kont.start page := by
    intro page same
    refine ⟨(ready.fits.sound sound).newest, suffix, ?_, answered page same⟩
    intro cursor start
    rcases ready.known cursor start with ⟨entry, member, same⟩
    exact ⟨entry, grown.subset member, same⟩
  simp only [resumeRoute, ready.fits.current, Bool.not_true, Bool.false_eq_true, if_false]
  cases reply with
  | none =>
      exact {
        config := rfl
        sound := sound
        owner := ready.fits.owner
        pause := nofun
        sweep := .inl ready.fits.sweep
        seen := fun _ _ _ impossible => impossible.elim }
  | some page =>
      cases kont with
      | first work => exact startLoops_first st work ready.fits sound ready.mode (here page rfl)
      | catchUp work progress =>
          exact onCatchUpPage_result st work progress ready.fits sound ready.mode.1 ready.mode.2
            (here page rfl)
      | backfill work =>
          exact onBackfillPage_result ready.fits sound ready.mode.2 ready.mode.1 (here page rfl)

theorem RouteSound.reopen {sourceId routeId : String} {txs : List Tx} {route : IndexedRoute}
    (sound : RouteSound sourceId routeId txs route) (unread : route.lastIndexedTxId = none) :
    RouteSound sourceId routeId txs (route.withProgress none none false) ∧
      route.oldestIndexedTxId = none := by
  rcases sound.cursorsSound.unread unread with ⟨oldest, idle⟩
  have stamped := sound.restamp false nofun (.inl idle)
  rw [unread, oldest] at stamped
  exact ⟨stamped, oldest⟩

theorem startRoute_result (st : RouteState) (lease nowSecs : Nat) (active : ActiveRouteSweep)
    (kind : IndexedRouteKind) (owner : st.mainLockStateTs = some lease)
    (sweep : st.activeRouteSweep = some active)
    (located : indexedRouteKinds[active.nextIndex]? = some kind)
    (sound : RoutesSound identifierText history st) :
    SegmentResult identifierText history st.config lease active .nothing
      (startRoute identifierText st lease nowSecs active kind) := by
  have current : routeWorkIsCurrent st lease active = true := by
    simp only [routeWorkIsCurrent, decide_eq_true_eq]
    exact ⟨owner, sweep⟩
  have routeSound := sound kind
  have order := routeSound.order
  simp only [startRoute]
  rw [routeSound.cursorsSound.oldestCursor, current, Bool.and_true]
  simp only [order, if_false]
  cases reopened : (st.route kind).backfillComplete.getD false &&
      (st.route kind).lastIndexedTxId.isNone with
  | true =>
      simp only [Bool.and_eq_true, Option.isNone_iff_eq_none] at reopened
      have opened := routeSound.reopen reopened.2
      have seen : (st.route kind).indexDescending.isNone = false := by
        cases unknown : (st.route kind).indexDescending with
        | none =>
            have complete := reopened.1
            rw [(routeSound.fresh unknown).2] at complete
            cases complete
        | some value => rfl
      simp only [if_true, RouteState.setProgress, seen, Bool.false_eq_true, if_false]
      rw [reopened.2, opened.2, setRoute_config]
      have result := startLoops_none .nothing (st.setRoute kind ((st.route kind).withProgress none none
        false)) ⟨lease, nowSecs, active, kind, identifierText st.config.outputSourceAccount,
          identifierText (indexedRouteAccount st.config kind), none, none, false,
          max st.config.maxIndexPagesPerTick 1⟩
        ⟨⟨by rw [setRoute_lock, owner], by rw [setRoute_sweep, sweep], located⟩,
          by rw [setRoute_config], by rw [setRoute_config]; rfl, by rw [route_setRoute]; rfl,
          by rw [route_setRoute]; rfl⟩ (sound.set opened.1)
        (by rw [route_setRoute]; simp [IndexedRoute.withProgress])
        (fun impossible => by cases impossible) (fun _ impossible => impossible.elim)
      rw [setRoute_config] at result
      exact result
  | false =>
      simp only [Bool.false_eq_true, if_false]
      have fits : WorkFits identifierText st ⟨lease, nowSecs, active, kind,
          identifierText st.config.outputSourceAccount,
          identifierText (indexedRouteAccount st.config kind),
          (st.route kind).lastIndexedTxId, (st.route kind).oldestIndexedTxId,
          (st.route kind).backfillComplete.getD false, max st.config.maxIndexPagesPerTick 1⟩ :=
        ⟨⟨owner, sweep, located⟩, rfl, rfl, rfl, rfl⟩
      cases unknown : (st.route kind).indexDescending with
      | none =>
          rcases routeSound.fresh unknown with ⟨unread, incomplete⟩
          simp only [Option.isNone_none, if_true]
          refine await_result (.first _) ⟨fits, fun _ impossible => (by cases impossible),
            unread, ?_, ?_⟩ sound (fun _ impossible => impossible.elim)
          · rw [incomplete]
            rfl
          · intro complete
            have clash := incomplete.symm.trans complete
            cases clash
      | some value =>
          simp only [Option.isNone_some, Bool.false_eq_true, if_false]
          refine startLoops_none _ st _ fits sound ?_ ?_ (fun _ impossible => impossible.elim)
          · cases (st.route kind).backfillComplete <;> simp
          · intro complete
            dsimp only at complete ⊢
            rw [complete, Bool.true_and] at reopened
            rw [← Option.not_isNone, reopened]
            rfl

theorem processRouteIndexing_result (st : RouteState) (lease startedAtTsNanos nowSecs : Nat)
    (owner : st.mainLockStateTs = some lease) (sound : RoutesSound identifierText history st)
    (bounded : ∀ active, st.activeRouteSweep = some active →
      active.nextIndex < indexedRouteKinds.length) :
    SegmentResult identifierText history st.config lease
      (st.activeRouteSweep.getD ⟨startedAtTsNanos, 0⟩) .nothing
      (processRouteIndexing identifierText st lease startedAtTsNanos nowSecs) := by
  have bound : (st.activeRouteSweep.getD ⟨startedAtTsNanos, 0⟩).nextIndex <
      indexedRouteKinds.length := by
    cases active : st.activeRouteSweep with
    | none => exact Nat.zero_lt_succ 1
    | some known => exact bounded known active
  simp only [processRouteIndexing]
  rw [if_neg (not_not.mpr owner)]
  generalize st.activeRouteSweep.getD ⟨startedAtTsNanos, 0⟩ = active at bound ⊢
  split
  · rename_i outside
    have inside := List.getElem?_eq_none_iff.mp outside
    omega
  · rename_i kind located
    refine startRoute_result { st with activeRouteSweep := some active } lease nowSecs active kind
      owner rfl located ?_
    intro other
    have before := sound other
    cases other <;> exact before

end Segments

end JupiterSuite.Historian
