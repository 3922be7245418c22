import JupiterSuite.Clients.LeaseGuards
import JupiterSuite.Base.Paging

/-! The historian's route indexer: how much the output source sent to the output and to the
rewards account, read from the newest-first pages of the ICP index. -/

namespace JupiterSuite.Historian

open Base

def pageSize : Nat := 500

def mainTickLeaseSeconds : Nat := 15 * 60

structure RouteConfig where
  outputSourceAccount : Account
  outputAccount : Account
  rewardsAccount : Account
  scanIntervalSeconds : Nat
  maxIndexPagesPerTick : Nat
  deriving DecidableEq, Repr

inductive IndexedRouteKind where
  | output
  | rewards
  deriving DecidableEq, Repr

structure DescendingIndexCatchUp where
  boundaryTxId : Nat
  observedHeadTxId : Nat
  nextStartTxId : Option Nat
  deriving DecidableEq, Repr

structure ActiveRouteSweep where
  startedAtTsNanos : Nat
  nextIndex : Nat
  deriving DecidableEq, Repr

/-- The fields of one route. No code reads `added`, the transfers whose amounts were added. -/
structure IndexedRoute where
  lastIndexedTxId : Option Nat
  oldestIndexedTxId : Option Nat
  indexDescending : Option Bool
  backfillComplete : Option Bool
  activeCatchUp : Option DescendingIndexCatchUp
  totalE8s : Nat
  added : List IndexTransactionWithId
  deriving DecidableEq, Repr

def IndexedRoute.new : IndexedRoute where
  lastIndexedTxId := none
  oldestIndexedTxId := none
  indexDescending := none
  backfillComplete := some false
  activeCatchUp := none
  totalE8s := 0
  added := []

structure RouteState where
  config : RouteConfig
  output : IndexedRoute
  rewards : IndexedRoute
  activeRouteSweep : Option ActiveRouteSweep
  lastCompletedRouteSweepTs : Option Nat
  lastMainRunTs : Nat
  mainLockStateTs : Option Nat
  deriving DecidableEq, Repr

def indexedRouteKinds : List IndexedRouteKind := [.output, .rewards]

def indexedRouteAccount (config : RouteConfig) : IndexedRouteKind → Account
  | .output => config.outputAccount
  | .rewards => config.rewardsAccount

def RouteState.route (st : RouteState) : IndexedRouteKind → IndexedRoute
  | .output => st.output
  | .rewards => st.rewards

def RouteState.setRoute (st : RouteState) (kind : IndexedRouteKind) (route : IndexedRoute) :
    RouteState :=
  match kind with
  | .output => { st with output := route }
  | .rewards => { st with rewards := route }

/-- `set_indexed_route_descending_progress`. -/
def IndexedRoute.withProgress (route : IndexedRoute) (latest oldest : Option Nat)
    (backfillComplete : Bool) : IndexedRoute :=
  { route with
    lastIndexedTxId := latest
    oldestIndexedTxId := oldest
    indexDescending := some true
    backfillComplete := some backfillComplete }

/-- `set_indexed_route_catch_up`. -/
def IndexedRoute.withCatchUp (route : IndexedRoute) (catchUp : Option DescendingIndexCatchUp) :
    IndexedRoute :=
  { route with activeCatchUp := catchUp }

def RouteState.setCatchUp (st : RouteState) (kind : IndexedRouteKind)
    (catchUp : Option DescendingIndexCatchUp) : RouteState :=
  st.setRoute kind ((st.route kind).withCatchUp catchUp)

def RouteState.setProgress (st : RouteState) (kind : IndexedRouteKind)
    (latest oldest : Option Nat) (backfillComplete : Bool) : RouteState :=
  st.setRoute kind ((st.route kind).withProgress latest oldest backfillComplete)

def indexedRouteAmountFromTx (expectedFrom expectedTo : String) (tx : IndexTransactionWithId) :
    Option Nat :=
  match tx.transaction.operation with
  | .transfer toAccount _ fromAccount amount _ =>
      if fromAccount = expectedFrom ∧ toAccount = expectedTo then some amount else none
  | _ => none

def addIndexedRouteAmount (sourceId routeId : String) (route : IndexedRoute)
    (tx : IndexTransactionWithId) : IndexedRoute :=
  match indexedRouteAmountFromTx sourceId routeId tx with
  | none => route
  | some amountE8s => { route with
      totalE8s := satAdd u64Max route.totalE8s amountE8s
      added := route.added ++ [tx] }

def IndexedRoute.addItems (route : IndexedRoute) (sourceId routeId : String)
    (items : List IndexTransactionWithId) : IndexedRoute :=
  items.reverse.foldl (addIndexedRouteAmount sourceId routeId) route

def RouteState.addAmounts (st : RouteState) (kind : IndexedRouteKind) (sourceId routeId : String)
    (items : List IndexTransactionWithId) : RouteState :=
  st.setRoute kind ((st.route kind).addItems sourceId routeId items)

/-- What `process_route_indexing` keeps across its awaits. -/
structure RouteWork where
  lease : Nat
  nowSecs : Nat
  active : ActiveRouteSweep
  kind : IndexedRouteKind
  sourceId : String
  routeId : String
  latestCursor : Option Nat
  oldestCursor : Option Nat
  backfillComplete : Bool
  remainingPages : Nat
  deriving DecidableEq, Repr

inductive RouteKont where
  | first (work : RouteWork)
  | catchUp (work : RouteWork) (progress : DescendingIndexCatchUp)
  | backfill (work : RouteWork)
  deriving DecidableEq, Repr

inductive RoutePause where
  | done
  | await (kont : RouteKont)
  deriving DecidableEq, Repr

def routeWorkIsCurrent (st : RouteState) (lease : Nat) (expected : ActiveRouteSweep) : Bool :=
  decide (st.mainLockStateTs = some lease ∧ st.activeRouteSweep = some expected)

/-- The end of `process_route_indexing`: a completed route hands the sweep on. -/
def finishRoute (st : RouteState) (work : RouteWork) (completedRoute : Bool) : RouteState :=
  if completedRoute && routeWorkIsCurrent st work.lease work.active then
    let nextIndex := satAdd u64Max work.active.nextIndex 1
    if indexedRouteKinds.length ≤ nextIndex then
      { st with activeRouteSweep := none, lastCompletedRouteSweepTs := some work.nowSecs }
    else { st with activeRouteSweep := some { work.active with nextIndex := nextIndex } }
  else st

def catchUpLoop (st : RouteState) (work : RouteWork) (progress : DescendingIndexCatchUp) :
    RouteState × RoutePause :=
  if 0 < work.remainingPages then (st, .await (.catchUp work progress))
  else (finishRoute st work false, .done)

def newItems (boundaryTxId : Nat) :
    List IndexTransactionWithId → List IndexTransactionWithId × Bool
  | [] => ([], false)
  | tx :: rest =>
      if boundaryTxId < tx.id then
        let (items, reachedBoundary) := newItems boundaryTxId rest
        (tx :: items, reachedBoundary)
      else ([], true)

def onCatchUpPage (st : RouteState) (work : RouteWork) (progress : DescendingIndexCatchUp)
    (page : List IndexTransactionWithId) : RouteState × RoutePause :=
  let work := { work with remainingPages := work.remainingPages - 1 }
  if page.isEmpty then
    let st := (st.setCatchUp work.kind none).setProgress work.kind
      (some progress.observedHeadTxId) work.oldestCursor true
    (finishRoute st work true, .done)
  else
    let (items, reachedBoundary) := newItems progress.boundaryTxId page
    let pageIsTerminal := reachedBoundary || decide (page.length < pageSize)
    let st := st.addAmounts work.kind work.sourceId work.routeId items
    let seenHead := (items.map IndexTransactionWithId.id).max?
    let progress := { progress with
      observedHeadTxId := seenHead.elim progress.observedHeadTxId (max progress.observedHeadTxId)
      nextStartTxId := page.getLast?.map IndexTransactionWithId.id }
    if pageIsTerminal then
      let st := (st.setCatchUp work.kind none).setProgress work.kind
        (some progress.observedHeadTxId) work.oldestCursor true
      (finishRoute st work true, .done)
    else catchUpLoop (st.setCatchUp work.kind (some progress)) work progress

def exitBackfill (st : RouteState) (work : RouteWork) (completedRoute : Bool) :
    RouteState × RoutePause :=
  let st := if routeWorkIsCurrent st work.lease work.active then
      st.setProgress work.kind work.latestCursor work.oldestCursor work.backfillComplete
    else st
  (finishRoute st work completedRoute, .done)

def backfillLoop (st : RouteState) (work : RouteWork) : RouteState × RoutePause :=
  if 0 < work.remainingPages && !work.backfillComplete then (st, .await (.backfill work))
  else exitBackfill st work false

def itemsOlderThan (oldestCursor : Option Nat) (page : List IndexTransactionWithId) :
    List IndexTransactionWithId :=
  match oldestCursor with
  | some oldest => page.filter fun tx => decide (tx.id < oldest)
  | none => page

def onBackfillPage (st : RouteState) (work : RouteWork) (page : List IndexTransactionWithId) :
    RouteState × RoutePause :=
  let work := { work with remainingPages := work.remainingPages - 1 }
  if page.isEmpty then exitBackfill st { work with backfillComplete := true } true
  else
    let olderItems := itemsOlderThan work.oldestCursor page
    if olderItems.isEmpty then exitBackfill st { work with backfillComplete := true } true
    else
      let st := st.addAmounts work.kind work.sourceId work.routeId olderItems
      let maxSeen := (olderItems.map IndexTransactionWithId.id).max?
      let minSeen := (olderItems.map IndexTransactionWithId.id).min?
      let work := { work with
        latestCursor := maxSeen.elim work.latestCursor fun seen =>
          some (work.latestCursor.elim seen (max · seen))
        oldestCursor := minSeen.elim work.oldestCursor fun seen =>
          some (work.oldestCursor.elim seen (min · seen)) }
      let st := st.setProgress work.kind work.latestCursor work.oldestCursor
        work.backfillComplete
      if page.length < pageSize then exitBackfill st { work with backfillComplete := true } true
      else backfillLoop st work

/-- Both loops from their start, with the page that a route of unknown order has read first. -/
def startLoops (st : RouteState) (work : RouteWork)
    (firstPage : Option (List IndexTransactionWithId)) : RouteState × RoutePause :=
  if work.latestCursor.isSome && work.backfillComplete then
    let started := work.latestCursor.map fun latest =>
      (⟨latest, latest, none⟩ : DescendingIndexCatchUp)
    match (st.route work.kind).activeCatchUp.or started with
    | none => (finishRoute st work false, .done)
    | some progress =>
        match firstPage with
        | some page => onCatchUpPage st work progress page
        | none => catchUpLoop st work progress
  else
    match firstPage with
    | some page =>
        if work.backfillComplete then exitBackfill st work false else onBackfillPage st work page
    | none => backfillLoop st work

/-- The route of the sweep: its cursors become locals, and an empty account is opened again. -/
def startRoute (identifierText : Account → String) (st : RouteState) (lease nowSecs : Nat)
    (active : ActiveRouteSweep) (kind : IndexedRouteKind) : RouteState × RoutePause :=
  let route := st.route kind
  let oldestCursor :=
    if route.lastIndexedTxId.isSome && route.oldestIndexedTxId.isNone then route.lastIndexedTxId
    else route.oldestIndexedTxId
  let complete := route.backfillComplete.getD false
  let reopened := complete && route.lastIndexedTxId.isNone
  let st := if reopened && routeWorkIsCurrent st lease active then
      st.setProgress kind none none false
    else st
  -- Ascending pagination is no longer supported; the tick reports an error.
  if route.indexDescending = some false then (st, .done)
  else
    let work : RouteWork :=
      { lease := lease
        nowSecs := nowSecs
        active := active
        kind := kind
        sourceId := identifierText st.config.outputSourceAccount
        routeId := identifierText (indexedRouteAccount st.config kind)
        latestCursor := route.lastIndexedTxId
        oldestCursor := oldestCursor
        backfillComplete := if reopened then false else complete
        remainingPages := max st.config.maxIndexPagesPerTick 1 }
    if route.indexDescending.isNone then (st, .await (.first work))
    else startLoops st work none

def processRouteIndexing (identifierText : Account → String) (st : RouteState)
    (lease startedAtTsNanos nowSecs : Nat) : RouteState × RoutePause :=
  if st.mainLockStateTs ≠ some lease then (st, .done)
  else
    let active := st.activeRouteSweep.getD ⟨startedAtTsNanos, 0⟩
    let st := { st with activeRouteSweep := some active }
    match indexedRouteKinds[active.nextIndex]? with
    | none =>
        (if routeWorkIsCurrent st lease active then
          { st with activeRouteSweep := none, lastCompletedRouteSweepTs := some nowSecs }
        else st, .done)
    | some kind => startRoute identifierText st lease nowSecs active kind

def RouteKont.work : RouteKont → RouteWork
  | .first work | .catchUp work _ | .backfill work => work

def RouteKont.start : RouteKont → Option Nat
  | .first _ => none
  | .catchUp _ progress => progress.nextStartTxId
  | .backfill work => work.oldestCursor

/-- The answer to an awaited page; a failed call ends the indexing of this tick. -/
def resumeRoute (st : RouteState) (kont : RouteKont)
    (reply : Option (List IndexTransactionWithId)) : RouteState × RoutePause :=
  if !routeWorkIsCurrent st kont.work.lease kont.work.active then (st, .done)
  else
    match reply, kont with
    | none, _ => (st, .done)
    | some page, .first work => startLoops st work (some page)
    | some page, .catchUp work progress => onCatchUpPage st work progress page
    | some page, .backfill work => onBackfillPage st work page

/-! The historian's main ticks around the route indexer. The ICP index serves each account's
history as it stands at some moment between the request and the reply. -/

/-- A main tick awaits its other calls before the route indexer and after it. -/
inductive MainKont where
  | before (lease nowNanos : Nat)
  | route (kont : RouteKont)
  | later (lease nowSecs : Nat)
  deriving DecidableEq, Repr

def MainKont.lease : MainKont → Nat
  | .before lease _ | .later lease _ => lease
  | .route kont => kont.work.lease

inductive MainPause where
  | done
  | await (kont : MainKont)
  deriving DecidableEq, Repr

/-- A page is served when `unseen` of the account's present transactions had not arrived. -/
inductive MainReply where
  | other
  | failed
  | page (unseen : Nat)
  deriving DecidableEq, Repr

def finishMain (st : RouteState) (lease nowSecs : Nat) : RouteState :=
  if st.mainLockStateTs = some lease then
    { st with lastMainRunTs := nowSecs, mainLockStateTs := some 0 }
  else st

def releaseMain (st : RouteState) (lease : Nat) : RouteState :=
  { st with mainLockStateTs := releaseLease lease st.mainLockStateTs }

def mainTick (st : RouteState) (force : Bool) (nowNanos : Nat) : RouteState × MainPause :=
  let nowSecs := nowNanos / nanosPerSecond
  match acquireLease nowSecs mainTickLeaseSeconds st.mainLockStateTs with
  | none => (st, .done)
  | some lease =>
      let st := { st with mainLockStateTs := some lease }
      if !force && decide (nowSecs - st.lastMainRunTs < st.config.scanIntervalSeconds - 5) then
        (finishMain st lease nowSecs, .done)
      else (st, .await (.before lease nowNanos))

def afterRoutes (lease nowSecs : Nat) : RouteState × RoutePause → RouteState × MainPause
  | (st, .done) => (st, .await (.later lease nowSecs))
  | (st, .await kont) => (st, .await (.route kont))

structure RouteSystem where
  state : RouteState
  tasks : Pool MainKont
  clock : Nat
  history : String → List IndexTransactionWithId
  asked : Nat → Nat

inductive RouteEvent where
  | tick (id : Nat) (force : Bool) (nowNanos : Nat)
  | resume (id : Nat) (reply : MainReply) (nowNanos : Nat)
  -- The continuation never runs again; after a trap its cleanup still drops the guard.
  | abandon (id : Nat) (cleanup : Bool)
  | record (accountIdentifier : String) (tx : IndexTransactionWithId)
  | upgrade (scanIntervalSeconds maxIndexPagesPerTick nowNanos : Nat)
  deriving DecidableEq, Repr

def servedHistory (sys : RouteSystem) (kont : RouteKont) (unseen : Nat) :
    List IndexTransactionWithId :=
  (sys.history kont.work.routeId).drop unseen

def mainReplyAdmits (sys : RouteSystem) (id : Nat) : MainKont → MainReply → Bool
  | .route kont, .page unseen =>
      decide (sys.asked id ≤ (servedHistory sys kont unseen).length)
  | .route _, .failed => true
  | .before _ _, .other | .later _ _, .other => true
  | _, _ => false

def routeReply (sys : RouteSystem) (kont : RouteKont) :
    MainReply → Option (List IndexTransactionWithId)
  | .page unseen =>
      some (pageOf IndexTransactionWithId.id (servedHistory sys kont unseen) kont.start pageSize)
  | _ => none

def resumeMain (identifierText : Account → String) (sys : RouteSystem) (reply : MainReply) :
    MainKont → RouteState × MainPause
  | .before lease nowNanos =>
      let nowSecs := nowNanos / nanosPerSecond
      if sys.state.mainLockStateTs ≠ some lease then (finishMain sys.state lease nowSecs, .done)
      else afterRoutes lease nowSecs
        (processRouteIndexing identifierText sys.state lease nowNanos nowSecs)
  | .route kont => afterRoutes kont.work.lease kont.work.nowSecs
      (resumeRoute sys.state kont (routeReply sys kont reply))
  | .later lease nowSecs => (finishMain sys.state lease nowSecs, .done)

def settleMain (sys : RouteSystem) (id nowNanos : Nat) : RouteState × MainPause → RouteSystem
  | (st, .done) => { sys with
      state := st, tasks := sys.tasks.put id none, clock := nowNanos }
  | (st, .await kont) => { sys with
      state := st
      tasks := sys.tasks.put id (some kont)
      clock := nowNanos
      asked := match kont with
        | .route kont => Function.update sys.asked id (sys.history kont.work.routeId).length
        | _ => sys.asked }

def historianClockAdmits (clock nowNanos : Nat) : Bool :=
  decide (clock ≤ nowNanos) && decide (nowNanos ≤ u64Max)

def stepRoutes (identifierText : Account → String) (sys : RouteSystem) :
    RouteEvent → Option RouteSystem
  | .tick id force now =>
      if historianClockAdmits sys.clock now && (sys.tasks id).isNone then
        some (settleMain sys id now (mainTick sys.state force now))
      else none
  | .resume id reply now =>
      match sys.tasks id with
      | none => none
      | some kont =>
          if historianClockAdmits sys.clock now && mainReplyAdmits sys id kont reply then
            some (settleMain sys id now (resumeMain identifierText sys reply kont))
          else none
  | .abandon id cleanup =>
      match sys.tasks id with
      | none => none
      | some kont => some { sys with
          state := if cleanup then releaseMain sys.state kont.lease else sys.state
          tasks := sys.tasks.put id none }
  | .record accountIdentifier tx =>
      if (sys.history accountIdentifier).all fun older => decide (older.id < tx.id) then
        some { sys with
          history := Function.update sys.history accountIdentifier
            (tx :: sys.history accountIdentifier) }
      else none
  | .upgrade scanIntervalSeconds maxIndexPagesPerTick now =>
      if historianClockAdmits sys.clock now then
        some { sys with
          state := { sys.state with
            config := { sys.state.config with
              scanIntervalSeconds := scanIntervalSeconds
              maxIndexPagesPerTick := maxIndexPagesPerTick }
            mainLockStateTs := some 0 }
          tasks := Pool.empty
          clock := now }
      else none

def RouteState.new (config : RouteConfig) (nowSecs : Nat) : RouteState where
  config := config
  output := .new
  rewards := .new
  activeRouteSweep := none
  lastCompletedRouteSweepTs := some 0
  lastMainRunTs := nowSecs - 10 * 365 * 24 * 60 * 60
  mainLockStateTs := some 0

def routeMachine (identifierText : Account → String) : Machine RouteSystem RouteEvent where
  init := fun sys => ∃ config nowSecs nowNanos history asked,
    (∀ accountIdentifier, NewestFirst IndexTransactionWithId.id (history accountIdentifier)) ∧
      sys = ⟨RouteState.new config nowSecs, Pool.empty, nowNanos, history, asked⟩
  step := stepRoutes identifierText

end JupiterSuite.Historian
