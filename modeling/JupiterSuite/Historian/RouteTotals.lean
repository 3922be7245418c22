import JupiterSuite.Historian.RouteCursors

/-! What a route's total stands for: the transfers between its cursors, and above them those that
a catch-up has read so far. -/

namespace JupiterSuite.Historian

open Base

def isTransfer (sourceId routeId : String) (tx : Tx) : Bool :=
  (indexedRouteAmountFromTx sourceId routeId tx).isSome

def transferSum (sourceId routeId : String) (txs : List Tx) : Nat :=
  (txs.filterMap (indexedRouteAmountFromTx sourceId routeId)).sum

structure RouteSound (sourceId routeId : String) (history : List Tx) (route : IndexedRoute) :
    Prop where
  newest : NewestFirst IndexTransactionWithId.id history
  nodup : route.added.Nodup
  added : ∀ tx, tx ∈ route.added ↔
    tx ∈ history ∧ isTransfer sourceId routeId tx = true ∧ Covered route tx.id
  total : route.totalE8s = min (transferSum sourceId routeId route.added) u64Max
  cursors : CursorsKnown history route
  order : route.indexDescending ≠ some false
  fresh : route.indexDescending = none →
    route.lastIndexedTxId = none ∧ route.backfillComplete = some false
  bottom : route.backfillComplete = some true → ∀ tx ∈ history, ∀ oldest,
    route.oldestIndexedTxId = some oldest → oldest ≤ tx.id
  catchUp : ∀ progress, route.activeCatchUp = some progress →
    CatchUpKnown history route progress

section Amounts

variable {sourceId routeId : String} {route : IndexedRoute}

theorem transferSum_append (first second : List Tx) :
    transferSum sourceId routeId (first ++ second) =
      transferSum sourceId routeId first + transferSum sourceId routeId second := by
  simp [transferSum, List.filterMap_append]

theorem addIndexedRouteAmount_added (tx : Tx) :
    (addIndexedRouteAmount sourceId routeId route tx).added =
      route.added ++ [tx].filter (isTransfer sourceId routeId) := by
  simp only [addIndexedRouteAmount]
  cases found : indexedRouteAmountFromTx sourceId routeId tx with
  | none => simp [isTransfer, found]
  | some amountE8s => simp [isTransfer, found]

theorem addIndexedRouteAmount_total (tx : Tx)
    (total : route.totalE8s = min (transferSum sourceId routeId route.added) u64Max) :
    (addIndexedRouteAmount sourceId routeId route tx).totalE8s =
      min (transferSum sourceId routeId
        (addIndexedRouteAmount sourceId routeId route tx).added) u64Max := by
  simp only [addIndexedRouteAmount]
  cases found : indexedRouteAmountFromTx sourceId routeId tx with
  | none => exact total
  | some amountE8s =>
      have single : transferSum sourceId routeId [tx] = amountE8s := by
        simp [transferSum, found]
      dsimp only
      rw [transferSum_append, single, satAdd, total]
      omega

theorem addItems_frame (sourceId routeId : String) (route : IndexedRoute) (items : List Tx) :
    (route.addItems sourceId routeId items).lastIndexedTxId = route.lastIndexedTxId ∧
      (route.addItems sourceId routeId items).oldestIndexedTxId = route.oldestIndexedTxId ∧
      (route.addItems sourceId routeId items).indexDescending = route.indexDescending ∧
      (route.addItems sourceId routeId items).backfillComplete = route.backfillComplete ∧
      (route.addItems sourceId routeId items).activeCatchUp = route.activeCatchUp := by
  simp only [IndexedRoute.addItems]
  generalize items.reverse = oldestFirst
  induction oldestFirst generalizing route with
  | nil => exact ⟨rfl, rfl, rfl, rfl, rfl⟩
  | cons tx rest ih =>
      have single : ∀ before : IndexedRoute,
          (addIndexedRouteAmount sourceId routeId before tx).lastIndexedTxId =
              before.lastIndexedTxId ∧
            (addIndexedRouteAmount sourceId routeId before tx).oldestIndexedTxId =
              before.oldestIndexedTxId ∧
            (addIndexedRouteAmount sourceId routeId before tx).indexDescending =
              before.indexDescending ∧
            (addIndexedRouteAmount sourceId routeId before tx).backfillComplete =
              before.backfillComplete ∧
            (addIndexedRouteAmount sourceId routeId before tx).activeCatchUp =
              before.activeCatchUp := by
        intro before
        simp only [addIndexedRouteAmount]
        split <;> exact ⟨rfl, rfl, rfl, rfl, rfl⟩
      rcases single route with ⟨last, oldest, order, complete, catchUp⟩
      rw [List.foldl_cons, ← last, ← oldest, ← order, ← complete, ← catchUp]
      exact ih (addIndexedRouteAmount sourceId routeId route tx)

theorem addItems_added (items : List Tx) :
    (route.addItems sourceId routeId items).added =
      route.added ++ items.reverse.filter (isTransfer sourceId routeId) := by
  simp only [IndexedRoute.addItems]
  generalize items.reverse = oldestFirst
  induction oldestFirst generalizing route with
  | nil => simp
  | cons tx rest ih =>
      rw [List.foldl_cons, ih, addIndexedRouteAmount_added, List.append_assoc,
        ← List.filter_append, List.singleton_append]

theorem addItems_total (items : List Tx)
    (total : route.totalE8s = min (transferSum sourceId routeId route.added) u64Max) :
    (route.addItems sourceId routeId items).totalE8s =
      min (transferSum sourceId routeId (route.addItems sourceId routeId items).added)
        u64Max := by
  simp only [IndexedRoute.addItems]
  generalize items.reverse = oldestFirst
  induction oldestFirst generalizing route with
  | nil => exact total
  | cons tx rest ih =>
      rw [List.foldl_cons]
      exact ih (addIndexedRouteAmount_total tx total)

end Amounts

section Reading

variable {sourceId routeId : String} {history : List Tx} {route : IndexedRoute} {tx : Tx}

theorem RouteSound.cursorsSound (sound : RouteSound sourceId routeId history route) :
    CursorsSound history route :=
  ⟨sound.newest, sound.cursors, sound.bottom, sound.catchUp⟩

theorem RouteSound.grow (sound : RouteSound sourceId routeId history route)
    (above : ∀ older ∈ history, older.id < tx.id) :
    RouteSound sourceId routeId (tx :: history) route := by
  have grown := sound.cursorsSound.grow above
  refine ⟨grown.newest, sound.nodup, ?_, sound.total, grown.cursors, sound.order, sound.fresh,
    grown.bottom, grown.catchUp⟩
  intro other
  rw [sound.added other, List.mem_cons]
  constructor
  · rintro ⟨member, transfer, covered⟩
    exact ⟨.inr member, transfer, covered⟩
  · rintro ⟨rfl | member, transfer, covered⟩
    · exact absurd covered (sound.cursorsSound.grow_uncovered above)
    · exact ⟨member, transfer, covered⟩

theorem RouteSound.read {items : List Tx} {after final : IndexedRoute}
    (sound : RouteSound sourceId routeId history route)
    (read : PageRead history route after items) (same : SameCursors after final)
    (added : final.added = (route.addItems sourceId routeId items).added)
    (total : final.totalE8s = (route.addItems sourceId routeId items).totalE8s)
    (order : final.indexDescending ≠ some false)
    (fresh : final.indexDescending = none →
      final.lastIndexedTxId = none ∧ final.backfillComplete = some false) :
    RouteSound sourceId routeId history final := by
  have cursors := same.sound read.sound
  rw [addItems_added] at added
  refine ⟨cursors.newest, ?_, ?_, ?_, cursors.cursors, order, fresh, cursors.bottom,
    cursors.catchUp⟩
  · rw [added]
    apply List.nodup_append.mpr
    refine ⟨sound.nodup, (List.nodup_reverse.mpr read.distinct.nodup).filter _, ?_⟩
    rintro tx old other new rfl
    have covered := ((sound.added tx).mp old).2.2
    rw [List.mem_filter, List.mem_reverse] at new
    exact (read.fresh tx new.1).2 covered
  · intro tx
    rw [added, List.mem_append, sound.added tx, List.mem_filter, List.mem_reverse, same.covered]
    constructor
    · rintro (⟨member, transfer, covered⟩ | ⟨member, transfer⟩)
      · exact ⟨member, transfer, (read.exactly tx member).mpr (.inl covered)⟩
      · have inside := (read.fresh tx member).1
        exact ⟨inside, transfer, (read.exactly tx inside).mpr (.inr member)⟩
    · rintro ⟨member, transfer, covered⟩
      rcases (read.exactly tx member).mp covered with old | new
      · exact .inl ⟨member, transfer, old⟩
      · exact .inr ⟨new, transfer⟩
  · rw [total, addItems_total items sound.total, added, addItems_added]

theorem RouteSound.restamp (complete : Bool) (sound : RouteSound sourceId routeId history route)
    (bottom : complete = true → ∀ tx ∈ history, ∀ oldest,
      route.oldestIndexedTxId = some oldest → oldest ≤ tx.id)
    (idle : route.activeCatchUp = none ∨ complete = true) :
    RouteSound sourceId routeId history
      (route.withProgress route.lastIndexedTxId route.oldestIndexedTxId complete) where
  nodup := sound.nodup
  added := sound.added
  total := sound.total
  order := by simp [IndexedRoute.withProgress]
  fresh := nofun
  newest := sound.newest
  cursors := sound.cursors
  bottom := fun finished => bottom (Option.some.inj finished)
  catchUp := (sound.cursorsSound.restamp complete bottom idle).catchUp

variable {served page items : List Tx} {least greatest : Tx} {progress : DescendingIndexCatchUp}
  {reached : Bool} {head : Nat}

theorem RouteSound.backfillPage (sound : RouteSound sourceId routeId history route)
    (incomplete : route.backfillComplete ≠ some true)
    (here : ServedPage history served route.oldestIndexedTxId page)
    (leastHere : least ∈ page) (lower : ∀ entry ∈ page, least.id ≤ entry.id)
    (greatestHere : greatest ∈ page) (upper : ∀ entry ∈ page, entry.id ≤ greatest.id) :
    RouteSound sourceId routeId history ((route.addItems sourceId routeId page).withProgress
      (some (route.lastIndexedTxId.getD greatest.id)) (some least.id) false) := by
  have read := sound.cursorsSound.backfillPage incomplete here leastHere lower greatestHere upper
  have frame := addItems_frame sourceId routeId route page
  exact sound.read read ⟨rfl, rfl, rfl, frame.2.2.2.2⟩ rfl rfl
    (by simp [IndexedRoute.withProgress]) nofun

theorem RouteSound.catchUpEnds (sound : RouteSound sourceId routeId history route)
    (known : CatchingUp history route progress)
    (here : ServedPage history served progress.nextStartTxId page)
    (new : NewItems progress.boundaryTxId page items reached)
    (terminal : reached = true ∨ page.length < pageSize)
    (seen : SeenHead progress items head) :
    RouteSound sourceId routeId history
      (((route.addItems sourceId routeId items).withCatchUp none).withProgress (some head)
        route.oldestIndexedTxId true) :=
  sound.read (sound.cursorsSound.catchUpEnds known here new terminal seen) ⟨rfl, rfl, rfl, rfl⟩
    rfl rfl (by simp [IndexedRoute.withProgress]) nofun

theorem RouteSound.catchUpGoesOn (sound : RouteSound sourceId routeId history route)
    (complete : route.backfillComplete = some true)
    (known : CatchingUp history route progress)
    (here : ServedPage history served progress.nextStartTxId page)
    (new : NewItems progress.boundaryTxId page page reached)
    (seen : SeenHead progress page head) {final : Tx} (finalHere : final ∈ page)
    (lower : ∀ tx ∈ page, final.id ≤ tx.id) :
    RouteSound sourceId routeId history ((route.addItems sourceId routeId page).withCatchUp
      (some ⟨progress.boundaryTxId, head, some final.id⟩)) := by
  rcases addItems_frame sourceId routeId route page with ⟨last, oldest, order, completeSame, _⟩
  have read := sound.cursorsSound.catchUpGoesOn complete known here new seen finalHere lower
  refine sound.read read ⟨last, oldest, completeSame, rfl⟩ rfl rfl ?_ ?_
  · rw [IndexedRoute.withCatchUp, order]
    exact sound.order
  · intro unknown
    have none := (sound.fresh (order.symm.trans unknown)).1
    rw [known.last] at none
    cases none

end Reading

end JupiterSuite.Historian
