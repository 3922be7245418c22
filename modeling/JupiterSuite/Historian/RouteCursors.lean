import JupiterSuite.Historian.RouteSystem

/-! What the two cursors of a newest-first walk and its catch-up stand for: the ids that were read.
A page reads ids that were not read before, and leaves none out above its last. -/

namespace JupiterSuite.Historian

open Base

abbrev Tx := IndexTransactionWithId

/-- The ids that were read between the cursors, and by a catch-up above them. -/
def Covered (route : IndexedRoute) (id : Nat) : Prop :=
  (∃ latest oldest, route.lastIndexedTxId = some latest ∧
    route.oldestIndexedTxId = some oldest ∧ oldest ≤ id ∧ id ≤ latest) ∨
  ∃ progress start, route.activeCatchUp = some progress ∧
    progress.nextStartTxId = some start ∧ start ≤ id ∧ id ≤ progress.observedHeadTxId

def CursorsKnown (history : List Tx) (route : IndexedRoute) : Prop :=
  (route.lastIndexedTxId = none ∧ route.oldestIndexedTxId = none) ∨
    ∃ latest ∈ history, ∃ oldest ∈ history, route.lastIndexedTxId = some latest.id ∧
      route.oldestIndexedTxId = some oldest.id ∧ oldest.id ≤ latest.id

/-- A catch-up in progress has read the ids from its next start up to the head it saw. -/
def CatchUpKnown (history : List Tx) (route : IndexedRoute) (progress : DescendingIndexCatchUp) :
    Prop :=
  route.backfillComplete = some true ∧ route.lastIndexedTxId = some progress.boundaryTxId ∧
    ∃ start ∈ history, ∃ head ∈ history, progress.nextStartTxId = some start.id ∧
      progress.observedHeadTxId = head.id ∧ progress.boundaryTxId < start.id ∧
      start.id ≤ head.id

structure CursorsSound (history : List Tx) (route : IndexedRoute) : Prop where
  newest : NewestFirst IndexTransactionWithId.id history
  cursors : CursorsKnown history route
  bottom : route.backfillComplete = some true → ∀ tx ∈ history, ∀ oldest,
    route.oldestIndexedTxId = some oldest → oldest ≤ tx.id
  catchUp : ∀ progress, route.activeCatchUp = some progress →
    CatchUpKnown history route progress

structure SameCursors (before after : IndexedRoute) : Prop where
  last : after.lastIndexedTxId = before.lastIndexedTxId
  oldest : after.oldestIndexedTxId = before.oldestIndexedTxId
  complete : after.backfillComplete = before.backfillComplete
  catchUp : after.activeCatchUp = before.activeCatchUp

/-- The cursors move over a page: just its items are read now that were not. -/
structure PageRead (history : List Tx) (before after : IndexedRoute) (items : List Tx) : Prop where
  sound : CursorsSound history after
  distinct : NewestFirst IndexTransactionWithId.id items
  fresh : ∀ tx ∈ items, tx ∈ history ∧ ¬ Covered before tx.id
  exactly : ∀ tx ∈ history, Covered after tx.id ↔ Covered before tx.id ∨ tx ∈ items

variable {id : Nat}

section Growth

variable {history : List Tx} {route after : IndexedRoute} {tx : Tx}

theorem SameCursors.covered (same : SameCursors route after) (id : Nat) :
    Covered after id ↔ Covered route id := by
  rw [Covered, Covered, same.last, same.oldest, same.catchUp]

theorem SameCursors.sound (same : SameCursors route after)
    (sound : CursorsSound history route) : CursorsSound history after where
  newest := sound.newest
  cursors := by
    rw [CursorsKnown, same.last, same.oldest]
    exact sound.cursors
  bottom := by
    rw [same.complete, same.oldest]
    exact sound.bottom
  catchUp := by
    intro progress active
    rw [same.catchUp] at active
    rw [CatchUpKnown, same.complete, same.last]
    exact sound.catchUp progress active

theorem covered_le (sound : CursorsSound history route) (covered : Covered route id) :
    ∃ known ∈ history, id ≤ known.id := by
  rcases covered with ⟨latest, oldest, last, _, _, upper⟩ | ⟨progress, start, active, _, _, upper⟩
  · rcases sound.cursors with ⟨none, _⟩ | ⟨newest, member, _, _, last', _⟩
    · rw [none] at last
      cases last
    · refine ⟨newest, member, ?_⟩
      rw [last'] at last
      cases last
      exact upper
  · rcases sound.catchUp progress active with ⟨_, _, _, _, head, member, _, same, _⟩
    refine ⟨head, member, ?_⟩
    rw [← same]
    exact upper

theorem CursorsKnown.grow (known : CursorsKnown history route) :
    CursorsKnown (tx :: history) route := by
  rcases known with none | ⟨latest, first, oldest, second, rest⟩
  · exact .inl none
  · exact .inr ⟨latest, List.mem_cons_of_mem _ first, oldest, List.mem_cons_of_mem _ second, rest⟩

theorem CatchUpKnown.grow {progress : DescendingIndexCatchUp}
    (known : CatchUpKnown history route progress) :
    CatchUpKnown (tx :: history) route progress := by
  rcases known with ⟨complete, last, start, first, head, second, rest⟩
  exact ⟨complete, last, start, List.mem_cons_of_mem _ first, head,
    List.mem_cons_of_mem _ second, rest⟩

theorem CursorsSound.grow (sound : CursorsSound history route)
    (above : ∀ older ∈ history, older.id < tx.id) : CursorsSound (tx :: history) route where
  newest := List.pairwise_cons.mpr ⟨above, sound.newest⟩
  cursors := sound.cursors.grow
  bottom := by
    intro complete other member oldest found
    rcases List.mem_cons.mp member with rfl | old
    · rcases sound.cursors with ⟨_, none⟩ | ⟨_, _, least, known, _, same, _⟩
      · rw [none] at found
        cases found
      · rw [same] at found
        cases found
        exact Nat.le_of_lt (above least known)
    · exact sound.bottom complete other old oldest found
  catchUp := fun progress active => (sound.catchUp progress active).grow

theorem CursorsSound.grow_uncovered (sound : CursorsSound history route)
    (above : ∀ older ∈ history, older.id < tx.id) : ¬ Covered route tx.id := by
  intro covered
  rcases covered_le sound covered with ⟨known, member, bound⟩
  have below := above known member
  omega

theorem CursorsSound.covered_latest (sound : CursorsSound history route) {latest : Nat}
    (last : route.lastIndexedTxId = some latest) : Covered route latest := by
  rcases sound.cursors with ⟨none, _⟩ | ⟨newest, _, oldest, _, same, first, ordered⟩
  · rw [none] at last
    cases last
  · rw [same] at last
    cases last
    exact .inl ⟨newest.id, oldest.id, same, first, ordered, Nat.le_refl _⟩

theorem PageRead.seen {items : List Tx} {final : IndexedRoute}
    (read : PageRead history route after items) (same : SameCursors after final)
    (member : tx ∈ history) (known : Covered route tx.id ∨ tx ∈ items) : Covered final tx.id :=
  (same.covered _).mpr ((read.exactly tx member).mpr known)

theorem CursorsSound.idle (sound : CursorsSound history route)
    (incomplete : route.backfillComplete ≠ some true) : route.activeCatchUp = none := by
  cases active : route.activeCatchUp with
  | none => rfl
  | some progress => exact absurd (sound.catchUp progress active).1 incomplete

theorem CursorsSound.restamp (complete : Bool) (sound : CursorsSound history route)
    (bottom : complete = true → ∀ tx ∈ history, ∀ oldest,
      route.oldestIndexedTxId = some oldest → oldest ≤ tx.id)
    (idle : route.activeCatchUp = none ∨ complete = true) :
    CursorsSound history
      (route.withProgress route.lastIndexedTxId route.oldestIndexedTxId complete) where
  newest := sound.newest
  cursors := sound.cursors
  bottom := fun finished => bottom (Option.some.inj finished)
  catchUp := by
    intro progress active
    rcases sound.catchUp progress active with ⟨_, rest⟩
    refine ⟨?_, rest⟩
    rcases idle with none | finished
    · have impossible := none.symm.trans active
      cases impossible
    · rw [finished]
      rfl

theorem CursorsSound.oldestCursor (sound : CursorsSound history route) :
    (if route.lastIndexedTxId.isSome && route.oldestIndexedTxId.isNone then route.lastIndexedTxId
      else route.oldestIndexedTxId) = route.oldestIndexedTxId := by
  rcases sound.cursors with ⟨last, first⟩ | ⟨_, _, _, _, last, first, _⟩
  · rw [last, first]
    rfl
  · rw [last, first]
    rfl

theorem CursorsSound.unread (sound : CursorsSound history route)
    (unread : route.lastIndexedTxId = none) :
    route.oldestIndexedTxId = none ∧ route.activeCatchUp = none := by
  constructor
  · rcases sound.cursors with ⟨_, none⟩ | ⟨_, _, _, _, last, _⟩
    · exact none
    · rw [unread] at last
      cases last
  · cases active : route.activeCatchUp with
    | none => rfl
    | some progress =>
        have last := (sound.catchUp progress active).2.1
        rw [unread] at last
        cases last

end Growth

section Pages

variable {history served : List Tx} {route : IndexedRoute} {start : Option Nat}

/-- The page that is read behind the cursor, and that its cursor is known to the index. -/
structure ServedPage (history served : List Tx) (start : Option Nat) (page : List Tx) : Prop where
  newest : NewestFirst IndexTransactionWithId.id history
  suffix : served <:+ history
  known : ∀ cursor, start = some cursor → ∃ entry ∈ served, entry.id = cursor
  page : page = pageOf IndexTransactionWithId.id served start pageSize

namespace ServedPage

variable {page : List Tx} {tx other : Tx}

theorem servedNewest (here : ServedPage history served start page) :
    NewestFirst IndexTransactionWithId.id served :=
  here.newest.sublist here.suffix.sublist

theorem pageNewest (here : ServedPage history served start page) :
    NewestFirst IndexTransactionWithId.id page := by
  rw [here.page]
  exact pageOf_newestFirst here.servedNewest

theorem mem (here : ServedPage history served start page) (member : tx ∈ page) :
    tx ∈ served ∧ tx ∈ history := by
  rw [here.page] at member
  have inside := (mem_pageOf member).1
  exact ⟨inside, here.suffix.subset inside⟩

theorem below (here : ServedPage history served start page) (member : tx ∈ page) {cursor : Nat}
    (at_start : start = some cursor) : tx.id < cursor := by
  rw [here.page] at member
  have behind := (mem_pageOf member).2
  rw [at_start] at behind
  simpa [belowStart] using behind

theorem eligible (here : ServedPage history served start page) (member : other ∈ history)
    (upper : (∃ cursor, start = some cursor ∧ other.id < cursor) ∨
      start = none ∧ ∃ top ∈ page, other.id ≤ top.id) :
    other ∈ served ∧ belowStart IndexTransactionWithId.id start other = true := by
  rcases upper with ⟨cursor, same, behind⟩ | ⟨same, top, topHere, behind⟩
  · rcases here.known cursor same with ⟨entry, entryServed, entryId⟩
    refine ⟨mem_of_suffix here.newest here.suffix entryServed member (by omega), ?_⟩
    rw [same]
    simpa [belowStart] using behind
  · refine ⟨mem_of_suffix here.newest here.suffix (here.mem topHere).1 member behind, ?_⟩
    rw [same]
    rfl

theorem gapless (here : ServedPage history served start page) (served_here : tx ∈ page)
    (member : other ∈ history) (above : tx.id ≤ other.id)
    (upper : (∃ cursor, start = some cursor ∧ other.id < cursor) ∨
      start = none ∧ ∃ top ∈ page, other.id ≤ top.id) : other ∈ page := by
  have inside := here.eligible member upper
  rw [here.page] at served_here ⊢
  exact mem_pageOf_above here.servedNewest served_here inside.1 inside.2 above

theorem exhausts (here : ServedPage history served start page) (short : page.length < pageSize)
    (member : other ∈ history)
    (upper : (∃ cursor, start = some cursor ∧ other.id < cursor) ∨
      start = none ∧ ∃ top ∈ page, other.id ≤ top.id) : other ∈ page := by
  have inside := here.eligible member upper
  rw [here.page] at short ⊢
  exact mem_pageOf_short short inside.1 inside.2

end ServedPage

section Backfill

variable {page : List Tx} {least greatest : Tx}

theorem covered_backfill (incomplete : route.activeCatchUp = none) :
    Covered route id ↔ ∃ latest oldest, route.lastIndexedTxId = some latest ∧
      route.oldestIndexedTxId = some oldest ∧ oldest ≤ id ∧ id ≤ latest := by
  constructor
  · rintro (cursors | ⟨progress, start, active, _⟩)
    · exact cursors
    · rw [incomplete] at active
      cases active
  · exact .inl

theorem CursorsSound.covered_complete (sound : CursorsSound history route)
    (complete : route.backfillComplete = some true) (idle : route.activeCatchUp = none) {tx : Tx}
    (member : tx ∈ history) :
    Covered route tx.id ↔ ∃ latest, route.lastIndexedTxId = some latest ∧ tx.id ≤ latest := by
  rw [covered_backfill idle]
  constructor
  · rintro ⟨latest, _, last, _, _, upper⟩
    exact ⟨latest, last, upper⟩
  · rintro ⟨latest, last, upper⟩
    rcases sound.cursors with ⟨none, _⟩ | ⟨_, _, oldest, _, _, first, _⟩
    · rw [none] at last
      cases last
    · exact ⟨latest, oldest.id, last, first, sound.bottom complete tx member oldest.id first,
        upper⟩

theorem ServedPage.older (here : ServedPage history served start page) :
    itemsOlderThan start page = page := by
  cases start with
  | none => rfl
  | some oldest =>
      apply List.filter_eq_self.mpr
      intro tx member
      exact decide_eq_true (here.below member rfl)

theorem CursorsSound.backfillPage (sound : CursorsSound history route)
    (incomplete : route.backfillComplete ≠ some true)
    (here : ServedPage history served route.oldestIndexedTxId page)
    (leastHere : least ∈ page) (lower : ∀ entry ∈ page, least.id ≤ entry.id)
    (greatestHere : greatest ∈ page) (upper : ∀ entry ∈ page, entry.id ≤ greatest.id) :
    PageRead history route (route.withProgress
      (some (route.lastIndexedTxId.getD greatest.id)) (some least.id) false) page := by
  have idle := sound.idle incomplete
  have idleAfter : (route.withProgress (some (route.lastIndexedTxId.getD greatest.id))
      (some least.id) false).activeCatchUp = none := idle
  constructor
  · constructor
    · exact sound.newest
    · refine .inr ?_
      rcases sound.cursors with ⟨none, _⟩ | ⟨latest, inside, oldest, _, last, first, ordered⟩
      · refine ⟨greatest, (here.mem greatestHere).2, least, (here.mem leastHere).2, ?_, rfl,
          lower greatest greatestHere⟩
        rw [none]
        rfl
      · have under := here.below leastHere first
        refine ⟨latest, inside, least, (here.mem leastHere).2, ?_, rfl, by omega⟩
        rw [last]
        rfl
    · intro impossible
      cases impossible
    · intro progress active
      have impossible := idleAfter.symm.trans active
      cases impossible
  · exact here.pageNewest
  · intro tx inside
    refine ⟨(here.mem inside).2, ?_⟩
    rw [covered_backfill idle]
    rintro ⟨latest, oldest, _, first, above, _⟩
    have under := here.below inside first
    omega
  · intro tx member
    rw [covered_backfill idleAfter, covered_backfill idle]
    simp only [IndexedRoute.withProgress, Option.some.injEq, exists_eq_left', exists_and_left]
    rcases sound.cursors with ⟨none, nothing⟩ | ⟨latest, _, oldest, _, last, first, _⟩
    · rw [none, nothing]
      simp only [Option.getD_none, reduceCtorEq, false_and, exists_false, false_or]
      constructor
      · rintro ⟨above, beneath⟩
        exact here.gapless leastHere member above (.inr ⟨nothing, greatest, greatestHere, beneath⟩)
      · intro inside
        exact ⟨lower tx inside, upper tx inside⟩
    · rw [last, first]
      simp only [Option.getD_some, Option.some.injEq, exists_eq_left']
      constructor
      · rintro ⟨above, beneath⟩
        rcases Nat.lt_or_ge tx.id oldest.id with behind | covered
        · exact .inr (here.gapless leastHere member above (.inl ⟨oldest.id, first, behind⟩))
        · exact .inl ⟨covered, beneath⟩
      · have behind := here.below leastHere first
        rintro (⟨above, beneath⟩ | inside)
        · exact ⟨by omega, beneath⟩
        · have under := here.below inside first
          exact ⟨lower tx inside, by omega⟩

theorem ServedPage.bottom (here : ServedPage history served start page)
    (short : page.length < pageSize) (leastHere : least ∈ page)
    (lower : ∀ entry ∈ page, least.id ≤ entry.id) : ∀ tx ∈ history, least.id ≤ tx.id := by
  intro tx member
  by_contra under
  have inside : tx ∈ page := by
    apply here.exhausts short member
    cases found : start with
    | none => exact .inr ⟨rfl, least, leastHere, by omega⟩
    | some cursor =>
        have behind := here.below leastHere found
        exact .inl ⟨cursor, rfl, by omega⟩
  exact under (lower tx inside)

theorem ServedPage.bottom_empty (here : ServedPage history served start [])
    {cursor : Nat} (at_start : start = some cursor) : ∀ tx ∈ history, cursor ≤ tx.id := by
  intro tx member
  by_contra under
  have inside : tx ∈ ([] : List Tx) :=
    here.exhausts (by decide) member (.inl ⟨cursor, at_start, by omega⟩)
  cases inside

end Backfill

section CatchUp

variable {page items : List Tx} {progress : DescendingIndexCatchUp} {reached : Bool} {head : Nat}

structure NewItems (boundary : Nat) (page items : List Tx) (reached : Bool) : Prop where
  sublist : items.Sublist page
  mem : ∀ tx, tx ∈ items ↔ tx ∈ page ∧ boundary < tx.id
  crossed : reached = true → ∃ tx ∈ page, tx.id ≤ boundary
  above : reached = false → items = page

theorem newItems_spec (boundary : Nat) (newest : NewestFirst IndexTransactionWithId.id page) :
    NewItems boundary page (newItems boundary page).1 (newItems boundary page).2 := by
  induction page with
  | nil => exact ⟨.refl [], by simp [newItems], by simp [newItems], fun _ => rfl⟩
  | cons tx rest ih =>
      rcases List.pairwise_cons.mp newest with ⟨below, tail⟩
      rcases ih tail with ⟨sublist, mem, crossed, above⟩
      simp only [newItems]
      split
      · rename_i beyond
        refine ⟨sublist.cons_cons tx, ?_, ?_, ?_⟩
        · intro other
          rw [List.mem_cons, List.mem_cons, mem]
          constructor
          · rintro (rfl | ⟨member, exceeds⟩)
            · exact ⟨.inl rfl, beyond⟩
            · exact ⟨.inr member, exceeds⟩
          · rintro ⟨rfl | member, exceeds⟩
            · exact .inl rfl
            · exact .inr ⟨member, exceeds⟩
        · intro yes
          rcases crossed yes with ⟨other, member, under⟩
          exact ⟨other, List.mem_cons_of_mem _ member, under⟩
        · intro no
          rw [above no]
      · rename_i under
        refine ⟨List.nil_sublist _, ?_, fun _ => ⟨tx, List.mem_cons_self, by omega⟩,
          nofun⟩
        intro other
        constructor
        · intro impossible
          cases impossible
        · rintro ⟨member, exceeds⟩
          rcases List.mem_cons.mp member with rfl | later
          · exact absurd exceeds under
          · have less := below other later
            omega

/-- A catch-up begins at the newest page; afterwards its progress is the one that is stored. -/
def CatchUpBegins (route : IndexedRoute) (progress : DescendingIndexCatchUp) : Prop :=
  route.activeCatchUp = none ∧
    ∃ latest, route.lastIndexedTxId = some latest ∧ progress = ⟨latest, latest, none⟩

theorem covered_parts (route : IndexedRoute) {boundary oldest : Nat}
    (last : route.lastIndexedTxId = some boundary) (first : route.oldestIndexedTxId = some oldest)
    (above : oldest ≤ id) :
    Covered route id ↔ id ≤ boundary ∨ ∃ progress start, route.activeCatchUp = some progress ∧
      progress.nextStartTxId = some start ∧ start ≤ id ∧ id ≤ progress.observedHeadTxId := by
  simp only [Covered]
  rw [last, first]
  simp [above]

/-- What is known of a complete route while a catch-up is under way. -/
structure CatchingUp (history : List Tx) (route : IndexedRoute)
    (progress : DescendingIndexCatchUp) : Prop where
  last : route.lastIndexedTxId = some progress.boundaryTxId
  head : ∃ entry ∈ history, progress.observedHeadTxId = entry.id
  ordered : progress.boundaryTxId ≤ progress.observedHeadTxId
  begins : progress.nextStartTxId = none →
    progress.observedHeadTxId = progress.boundaryTxId
  behind : ∀ start, progress.nextStartTxId = some start → start ≤ progress.observedHeadTxId
  oldest : ∃ oldest ∈ history, route.oldestIndexedTxId = some oldest.id ∧
    oldest.id ≤ progress.boundaryTxId ∧ ∀ tx ∈ history, oldest.id ≤ tx.id
  covered : ∀ tx ∈ history, Covered route tx.id ↔
    tx.id ≤ progress.boundaryTxId ∨ ∃ start, progress.nextStartTxId = some start ∧
      start ≤ tx.id ∧ tx.id ≤ progress.observedHeadTxId

/-- Whatever a page shows and the head that was seen before it is covered, or is a new item. -/
theorem CatchingUp.seen (known : CatchingUp history route progress)
    (new : NewItems progress.boundaryTxId page items reached) {tx : Tx} (member : tx ∈ history)
    (seen : some progress.observedHeadTxId = some tx.id ∨ tx ∈ page) :
    Covered route tx.id ∨ tx ∈ items := by
  rw [known.covered tx member]
  rcases seen with head | here
  · have same := Option.some.inj head
    cases next : progress.nextStartTxId with
    | none =>
        have boundary := known.begins next
        exact .inl (.inl (by omega))
    | some start =>
        have behind := known.behind start next
        exact .inl (.inr ⟨start, rfl, by omega, by omega⟩)
  · rcases Nat.lt_or_ge progress.boundaryTxId tx.id with above | below
    · exact .inr ((new.mem tx).mpr ⟨here, above⟩)
    · exact .inl (.inl below)

theorem CursorsSound.catchingUp (sound : CursorsSound history route)
    (complete : route.backfillComplete = some true)
    (under_way : route.activeCatchUp = some progress ∨ CatchUpBegins route progress) :
    CatchingUp history route progress := by
  have last : route.lastIndexedTxId = some progress.boundaryTxId := by
    rcases under_way with active | ⟨_, latest, last, rfl⟩
    · exact (sound.catchUp progress active).2.1
    · exact last
  rcases sound.cursors with ⟨none, _⟩ | ⟨latest, latestHere, oldest, oldestHere, same, first, le⟩
  · rw [none] at last
    cases last
  · have boundary : progress.boundaryTxId = latest.id :=
      Option.some.inj (last.symm.trans same)
    rw [← boundary] at le
    have bottom : ∀ tx ∈ history, oldest.id ≤ tx.id := fun tx member =>
      sound.bottom complete tx member oldest.id first
    have covered : ∀ tx ∈ history, Covered route tx.id ↔
        tx.id ≤ progress.boundaryTxId ∨ ∃ start, progress.nextStartTxId = some start ∧
          start ≤ tx.id ∧ tx.id ≤ progress.observedHeadTxId := by
      intro tx member
      rw [covered_parts route last first (bottom tx member)]
      rcases under_way with active | ⟨idle, newest, _, rfl⟩
      · rw [active]
        simp
      · rw [idle]
        simp
    rcases under_way with active | ⟨idle, newest, last', rfl⟩
    · rcases (sound.catchUp progress active).2.2 with
        ⟨start, _, head, headHere, next, seen, above, below⟩
      refine ⟨last, ⟨head, headHere, seen⟩, by omega, ?_, ?_, ⟨oldest, oldestHere, first, le,
        bottom⟩, covered⟩
      · rw [next]
        intro impossible
        cases impossible
      · intro other found
        rw [next] at found
        cases found
        omega
    · exact ⟨last, ⟨latest, latestHere, boundary⟩, Nat.le_refl _, fun _ => rfl,
        nofun, ⟨oldest, oldestHere, first, le, bottom⟩, covered⟩

/-- The head after a page: the greatest id of its new items, if they have any above the old. -/
structure SeenHead (progress : DescendingIndexCatchUp) (items : List Tx) (head : Nat) : Prop where
  kept : progress.observedHeadTxId ≤ head
  upper : ∀ tx ∈ items, tx.id ≤ head
  origin : head = progress.observedHeadTxId ∨ ∃ tx ∈ items, head = tx.id

theorem seenHead_spec (progress : DescendingIndexCatchUp) (items : List Tx) :
    SeenHead progress items ((items.map IndexTransactionWithId.id).max?.elim
      progress.observedHeadTxId (max progress.observedHeadTxId)) := by
  by_cases present : items = []
  · subst present
    exact ⟨Nat.le_refl _, nofun, .inl rfl⟩
  · rcases exists_maxKey IndexTransactionWithId.id present with ⟨greatest, member, found, upper⟩
    rw [found]
    dsimp only [Option.elim_some]
    refine ⟨Nat.le_max_left _ _, ?_, ?_⟩
    · intro tx inside
      exact le_trans (upper tx inside) (Nat.le_max_right _ _)
    · rcases Nat.le_total greatest.id progress.observedHeadTxId with under | exceeds
      · exact .inl (Nat.max_eq_left under)
      · exact .inr ⟨greatest, member, Nat.max_eq_right exceeds⟩

theorem SeenHead.entry (seen : SeenHead progress items head)
    (known : CatchingUp history route progress) (inside : ∀ tx ∈ items, tx ∈ history) :
    ∃ entry ∈ history, head = entry.id := by
  rcases seen.origin with rfl | ⟨tx, member, same⟩
  · exact known.head
  · exact ⟨tx, inside tx member, same⟩

/-- An entry between the boundary and the new head is covered, or the page may hold it. -/
theorem SeenHead.reach (seen : SeenHead progress items head)
    (known : CatchingUp history route progress)
    (here : ServedPage history served progress.nextStartTxId page)
    (new : NewItems progress.boundaryTxId page items reached)
    {tx : Tx} (member : tx ∈ history) (beneath : tx.id ≤ head) :
    Covered route tx.id ∨ (∃ cursor, progress.nextStartTxId = some cursor ∧ tx.id < cursor) ∨
      progress.nextStartTxId = none ∧ ∃ top ∈ page, tx.id ≤ top.id := by
  rw [known.covered tx member]
  cases next : progress.nextStartTxId with
  | none =>
      have same := known.begins next
      rcases seen.origin with rfl | ⟨top, topItem, rfl⟩
      · exact .inl (.inl (by omega))
      · exact .inr (.inr ⟨rfl, top, new.sublist.subset topItem, beneath⟩)
  | some start =>
      have under : head = progress.observedHeadTxId := by
        rcases seen.origin with same | ⟨top, topItem, rfl⟩
        · exact same
        · have low := here.below (new.sublist.subset topItem) next
          have high := known.behind start next
          have kept := seen.kept
          omega
      rcases Nat.lt_or_ge tx.id start with behind | exceeds
      · exact .inr (.inl ⟨start, rfl, behind⟩)
      · exact .inl (.inr ⟨start, rfl, exceeds, by omega⟩)

theorem items_fresh (known : CatchingUp history route progress)
    (here : ServedPage history served progress.nextStartTxId page)
    (new : NewItems progress.boundaryTxId page items reached) :
    ∀ tx ∈ items, tx ∈ history ∧ ¬ Covered route tx.id := by
  intro tx item
  have inside := (new.mem tx).mp item
  refine ⟨(here.mem inside.1).2, ?_⟩
  rw [known.covered tx (here.mem inside.1).2]
  rintro (under | ⟨start, next, above, _⟩)
  · omega
  · have behind := here.below inside.1 next
    omega

theorem CursorsSound.catchUpEnds (sound : CursorsSound history route)
    (known : CatchingUp history route progress)
    (here : ServedPage history served progress.nextStartTxId page)
    (new : NewItems progress.boundaryTxId page items reached)
    (terminal : reached = true ∨ page.length < pageSize)
    (seen : SeenHead progress items head) :
    PageRead history route ((route.withCatchUp none).withProgress (some head)
      route.oldestIndexedTxId true) items := by
  rcases known.oldest with ⟨oldest, oldestHere, first, le, bottom⟩
  rcases seen.entry known fun tx item => (here.mem (new.sublist.subset item)).2 with
    ⟨entry, entryHere, headIs⟩
  have kept := seen.kept
  have ordered := known.ordered
  constructor
  · exact {
      newest := sound.newest
      cursors := .inr ⟨entry, entryHere, oldest, oldestHere, congrArg some headIs, first, by omega⟩
      bottom := fun _ tx member cursor found => by
        rw [Option.some.inj (found.symm.trans first)]
        exact bottom tx member
      catchUp := nofun }
  · exact here.pageNewest.sublist new.sublist
  · exact items_fresh known here new
  · intro tx member
    have parts := covered_parts ((route.withCatchUp none).withProgress (some head)
      route.oldestIndexedTxId true) rfl first (bottom tx member)
    rw [parts]
    constructor
    · rintro (beneath | ⟨_, _, impossible, _⟩)
      · rcases seen.reach known here new member beneath with covered | upper
        · exact .inl covered
        · by_cases old : tx.id ≤ progress.boundaryTxId
          · exact .inl ((known.covered tx member).mpr (.inl old))
          · refine .inr ((new.mem tx).mpr ⟨?_, not_le.mp old⟩)
            rcases terminal with crossed | short
            · rcases new.crossed crossed with ⟨low, lowHere, under⟩
              exact here.gapless lowHere member (by omega) upper
            · exact here.exhausts short member upper
      · cases impossible
    · intro found
      refine .inl ?_
      rcases found with covered | item
      · rcases (known.covered tx member).mp covered with under | ⟨start, _, _, high⟩ <;> omega
      · exact seen.upper tx item

theorem CursorsSound.catchUpGoesOn (sound : CursorsSound history route)
    (complete : route.backfillComplete = some true)
    (known : CatchingUp history route progress)
    (here : ServedPage history served progress.nextStartTxId page)
    (new : NewItems progress.boundaryTxId page page reached)
    (seen : SeenHead progress page head) {final : Tx} (finalHere : final ∈ page)
    (lower : ∀ tx ∈ page, final.id ≤ tx.id) :
    PageRead history route
      (route.withCatchUp (some ⟨progress.boundaryTxId, head, some final.id⟩)) page := by
  rcases known.oldest with ⟨oldest, oldestHere, first, le, bottom⟩
  rcases seen.entry known fun tx item => (here.mem item).2 with ⟨entry, entryHere, headIs⟩
  have kept := seen.kept
  have ordered := known.ordered
  have finalHigh := seen.upper final finalHere
  have finalNew := ((new.mem final).mp finalHere).2
  constructor
  · exact {
      newest := sound.newest
      cursors := sound.cursors
      bottom := sound.bottom
      catchUp := by
        rintro _ ⟨⟩
        exact ⟨complete, known.last, final, (here.mem finalHere).2, entry, entryHere, rfl, headIs,
          finalNew, by omega⟩ }
  · exact here.pageNewest
  · exact items_fresh known here new
  · intro tx member
    have parts := covered_parts (route.withCatchUp
      (some ⟨progress.boundaryTxId, head, some final.id⟩)) known.last first (bottom tx member)
    rw [parts]
    constructor
    · rintro (under | ⟨_, _, ⟨⟩, ⟨⟩, low, high⟩)
      · exact .inl ((known.covered tx member).mpr (.inl under))
      · rcases seen.reach known here new member high with covered | upper
        · exact .inl covered
        · exact .inr (here.gapless finalHere member low upper)
    · rintro (covered | item)
      · rcases (known.covered tx member).mp covered with under | ⟨start, next, low, high⟩
        · exact .inl under
        · have behind := here.below finalHere next
          exact .inr ⟨_, _, rfl, rfl, by omega, Nat.le_trans high kept⟩
      · exact .inr ⟨_, _, rfl, rfl, lower tx item, seen.upper tx item⟩

end CatchUp

end Pages

end JupiterSuite.Historian
