import JupiterSuite.Faucet.FundingTranches

/-! The scan of an account's history that the denominator of a round is computed from: one page
behind the cursor after another, each validated as a whole. What the records of a page add to the
denominator is left out. -/

namespace JupiterSuite.Faucet

open Base

/-- No code reads `visited`, the records of the accepted pages. -/
structure HistoryScan where
  nextStart : Option Nat
  observedOldestTxId : Option Nat
  observedLatestTxId : Option Nat
  effectiveDenomScanComplete : Bool
  visited : List IndexTx
  deriving DecidableEq, Repr

namespace HistoryScan

def start : HistoryScan := ⟨none, none, none, false, []⟩

/-- The scan after a page, `none` when the page is not accepted. -/
def onPage (pageSize : Nat) (expectedFirst : Option Nat) (scan : HistoryScan) (page : IndexPage) :
    Option HistoryScan :=
  if expectedFirst.any fun id => decide (page.oldestTxId ≠ some id) then none
  else
    match validateHistoryPage pageSize page scan.nextStart
        (scan.observedOldestTxId.or expectedFirst) with
    | none => none
    | some complete =>
        some
          { nextStart :=
              if complete then none
              else (page.transactions.getLast?.map IndexTx.id).or scan.nextStart
            observedOldestTxId := page.oldestTxId
            observedLatestTxId :=
              match page.transactions.head? with
              | none => scan.observedLatestTxId
              | some tx => some (max (scan.observedLatestTxId.getD tx.id) tx.id)
            effectiveDenomScanComplete := complete
            visited := scan.visited ++ page.transactions }

def step (pageSize : Nat) (expectedFirst : Option Nat) (scan : HistoryScan) (page : IndexPage) :
    Option HistoryScan :=
  if scan.effectiveDenomScanComplete then none
  else some ((onPage pageSize expectedFirst scan page).getD scan)

def machine (pageSize : Nat) (expectedFirst : Option Nat) : Machine HistoryScan IndexPage where
  init := (· = start)
  step := step pageSize expectedFirst

def Below (cursor : Option Nat) (id : Nat) : Prop := ∀ last, cursor = some last → id < last

section Pages

variable {pageSize : Nat} {expectedFirst : Option Nat} {scan next : HistoryScan} {page : IndexPage}
  {cursor expected : Option Nat} {complete : Bool}

theorem descending_of (txs : List IndexTx) (sorted : strictlyDescending txs = true) :
    Descending txs := by
  induction txs with
  | nil => exact List.Pairwise.nil
  | cons first rest ih =>
      cases rest with
      | nil => exact List.pairwise_singleton _ _
      | cons second rest =>
          rw [strictlyDescending, Bool.and_eq_true, decide_eq_true_eq] at sorted
          have later := ih sorted.2
          apply List.Pairwise.cons _ later
          intro tx member
          cases member with
          | head => exact sorted.1
          | tail _ member =>
              exact Nat.lt_trans (List.rel_of_pairwise_cons later member) sorted.1

structure PageAccepted (page : IndexPage) (cursor expected : Option Nat) (complete : Bool) :
    Prop where
  pinned : ∀ id, expected = some id → page.oldestTxId = some id
  descending : Descending page.transactions
  below : ∀ tx ∈ page.transactions, Below cursor tx.id
  above : ∀ tx ∈ page.transactions, ∃ oldest, page.oldestTxId = some oldest ∧ oldest ≤ tx.id
  ends : (page.transactions = [] ∧ complete = true ∧ cursor = page.oldestTxId) ∨
    ∃ last, page.transactions.getLast? = some last ∧
      complete = decide (some last.id = page.oldestTxId)

theorem pageAccepted (valid : validateHistoryPage pageSize page cursor expected = some complete) :
    PageAccepted page cursor expected complete := by
  have ends := validateHistoryPage_some valid
  simp only [validateHistoryPage] at valid
  split at valid
  · cases valid
  · rename_i passed
    simp only [Bool.or_eq_true, not_or, Bool.not_eq_true, Bool.not_eq_false'] at passed
    obtain ⟨⟨⟨⟨pinned, _⟩, sorted⟩, under⟩, above⟩ := passed
    have descending := descending_of page.transactions sorted
    refine ⟨?_, descending, ?_, ?_, ends⟩
    · rintro id rfl
      rw [Option.any_some, decide_eq_false_iff_not, not_not] at pinned
      exact pinned
    · rintro tx member last rfl
      cases front : page.transactions with
      | nil =>
          rw [front] at member
          cases member
      | cons first rest =>
          rw [front, List.head?_cons, Option.any_some, Option.any_some,
            decide_eq_false_iff_not] at under
          rw [front] at member descending
          cases member with
          | head => omega
          | tail _ member =>
              have order : tx.id < first.id := List.rel_of_pairwise_cons descending member
              omega
    · intro tx member
      have least := List.any_eq_false.mp above tx member
      cases oldest : page.oldestTxId with
      | none =>
          rw [oldest] at least
          exact absurd rfl least
      | some id =>
          rw [oldest, Option.all_some, decide_eq_true_eq] at least
          exact ⟨id, rfl, Nat.le_of_not_lt least⟩

structure Advanced (pageSize : Nat) (expectedFirst : Option Nat) (scan : HistoryScan)
    (page : IndexPage) (next : HistoryScan) : Prop where
  accepted : PageAccepted page scan.nextStart (scan.observedOldestTxId.or expectedFirst)
    next.effectiveDenomScanComplete
  cursor : next.effectiveDenomScanComplete = false →
    next.nextStart = page.transactions.getLast?.map IndexTx.id ∧ page.transactions ≠ []
  oldest : next.observedOldestTxId = page.oldestTxId
  visited : next.visited = scan.visited ++ page.transactions

theorem onPage_advanced (advanced : onPage pageSize expectedFirst scan page = some next) :
    Advanced pageSize expectedFirst scan page next := by
  rw [onPage] at advanced
  split at advanced
  · cases advanced
  · cases valid : validateHistoryPage pageSize page scan.nextStart
        (scan.observedOldestTxId.or expectedFirst) with
    | none =>
        rw [valid] at advanced
        cases advanced
    | some complete =>
        rw [valid] at advanced
        cases advanced
        have accepted := pageAccepted valid
        refine ⟨accepted, ?_, rfl, rfl⟩
        intro unfinished
        dsimp only at unfinished
        rcases accepted.ends with ⟨_, finished, _⟩ | ⟨last, found, _⟩
        · rw [unfinished] at finished
          cases finished
        · constructor
          · dsimp only
            rw [unfinished, if_neg Bool.false_ne_true, found]
            rfl
          · intro empty
            rw [empty] at found
            cases found

theorem Advanced.lowers (advanced : Advanced pageSize expectedFirst scan page next)
    (unfinished : next.effectiveDenomScanComplete = false) :
    ∃ cursor, next.nextStart = some cursor ∧ Below scan.nextStart cursor := by
  obtain ⟨moved, present⟩ := advanced.cursor unfinished
  obtain ⟨last, found⟩ := Option.ne_none_iff_exists'.mp
    (fun none => present (List.getLast?_eq_none_iff.mp none))
  rw [found] at moved
  exact ⟨last.id, moved, advanced.accepted.below last (List.mem_of_getLast? found)⟩

def Continues (pageSize : Nat) (expectedFirst : Option Nat) (next scan : HistoryScan) : Prop :=
  ∃ page, onPage pageSize expectedFirst scan page = some next ∧
    next.effectiveDenomScanComplete = false

/-- The distance of the cursor from nothing; without a cursor there is no bound yet. -/
def cursorRank (scan : HistoryScan) : WithTop Nat := scan.nextStart

theorem continues_wellFounded (pageSize : Nat) (expectedFirst : Option Nat) :
    WellFounded (Continues pageSize expectedFirst) := by
  have ranked : WellFounded (InvImage (fun one another : WithTop Nat => one < another) cursorRank) :=
    InvImage.wf cursorRank wellFounded_lt
  apply Subrelation.wf _ ranked
  rintro next scan ⟨page, advanced, unfinished⟩
  obtain ⟨cursor, moved, below⟩ := (onPage_advanced advanced).lowers unfinished
  change cursorRank next < cursorRank scan
  rw [cursorRank, cursorRank, moved]
  cases was : scan.nextStart with
  | none => exact WithTop.coe_lt_top cursor
  | some last => exact WithTop.coe_lt_coe.mpr (below last was)

end Pages

section Runs

variable {pageSize : Nat} {expectedFirst : Option Nat} {scan next : HistoryScan} {page : IndexPage}

theorem step_cases (taken : step pageSize expectedFirst scan page = some next) :
    scan.effectiveDenomScanComplete = false ∧
      (next = scan ∨ onPage pageSize expectedFirst scan page = some next) := by
  rw [step] at taken
  split at taken
  · cases taken
  · rename_i unfinished
    refine ⟨Bool.not_eq_true _ ▸ unfinished, ?_⟩
    cases advanced : onPage pageSize expectedFirst scan page with
    | none =>
        rw [advanced] at taken
        cases taken
        exact Or.inl rfl
    | some other =>
        rw [advanced] at taken
        exact Or.inr taken

/-- What was reported as the oldest record is only believed once it was visited. -/
structure ScanInvariant (scan : HistoryScan) : Prop where
  reached : scan.effectiveDenomScanComplete = false →
    scan.nextStart = scan.visited.getLast?.map IndexTx.id
  finished : scan.effectiveDenomScanComplete = true →
    (∃ oldest tx, scan.observedOldestTxId = some oldest ∧ tx ∈ scan.visited ∧ tx.id = oldest) ∨
      (scan.observedOldestTxId = none ∧ scan.visited = [])
  descending : Descending scan.visited

theorem start_invariant : ScanInvariant start where
  reached _ := rfl
  finished impossible := by cases impossible
  descending := List.Pairwise.nil

theorem below_visited (invariant : ScanInvariant scan)
    (unfinished : scan.effectiveDenomScanComplete = false) {id : Nat}
    (below : Below scan.nextStart id) : ∀ tx ∈ scan.visited, id < tx.id := by
  intro tx member
  rcases List.eq_nil_or_concat' scan.visited with empty | ⟨front, last, split⟩
  · rw [empty] at member
    cases member
  · have reached := invariant.reached unfinished
    rw [split, List.getLast?_concat] at reached
    have under := below last.id reached
    have order := invariant.descending
    rw [split] at member order
    rcases List.mem_append.mp member with before | here
    · have above := (List.pairwise_append.mp order).2.2 tx before last (List.mem_singleton_self last)
      omega
    · rw [List.mem_singleton.mp here]
      exact under

theorem Advanced.invariant (advanced : Advanced pageSize expectedFirst scan page next)
    (unfinished : scan.effectiveDenomScanComplete = false) (invariant : ScanInvariant scan) :
    ScanInvariant next where
  reached := by
    intro more
    obtain ⟨moved, present⟩ := advanced.cursor more
    rw [moved, advanced.visited, List.getLast?_append]
    obtain ⟨last, found⟩ := Option.ne_none_iff_exists'.mp
      (fun none => present (List.getLast?_eq_none_iff.mp none))
    rw [found]
    rfl
  finished := by
    intro finished
    rcases advanced.accepted.ends with ⟨empty, _, cursor⟩ | ⟨last, found, complete⟩
    · rw [advanced.visited, empty, List.append_nil, advanced.oldest, ← cursor,
        invariant.reached unfinished]
      cases ends : scan.visited.getLast? with
      | none => exact Or.inr ⟨rfl, List.getLast?_eq_none_iff.mp ends⟩
      | some tx => exact Or.inl ⟨tx.id, tx, rfl, List.mem_of_getLast? ends, rfl⟩
    · rw [finished] at complete
      have oldest := of_decide_eq_true complete.symm
      have member : last ∈ next.visited := by
        rw [advanced.visited]
        exact List.mem_append_right _ (List.mem_of_getLast? found)
      exact Or.inl ⟨last.id, last, by rw [advanced.oldest, ← oldest], member, rfl⟩
  descending := by
    rw [advanced.visited]
    apply List.pairwise_append.mpr
    refine ⟨invariant.descending, advanced.accepted.descending, ?_⟩
    intro older before newer after
    exact below_visited invariant unfinished (advanced.accepted.below newer after) older before

theorem reachable_scan (reachable : (machine pageSize expectedFirst).Reachable scan) :
    ScanInvariant scan := by
  apply (machine pageSize expectedFirst).reachable_invariant ScanInvariant _ _ reachable
  · rintro state rfl
    exact start_invariant
  · intro state page next invariant taken
    obtain ⟨unfinished, rfl | advanced⟩ := step_cases taken
    · exact invariant
    · exact (onPage_advanced advanced).invariant unfinished invariant

end Runs

section Truthful

variable {pageSize : Nat} {expectedFirst : Option Nat} {history : List IndexTx}
  {scan next : HistoryScan} {page : IndexPage}

/-- A page behind the cursor of the account's history, of any length. Records that arrive after
the first page lie above the cursor. -/
def Slice (history : List IndexTx) (scan : HistoryScan) (page : IndexPage) : Prop :=
  ∃ newer count, Descending (newer ++ history) ∧ (scan.nextStart = none → newer = []) ∧
    page = indexPage (newer ++ history) scan.nextStart count

structure TruthfulScan (history : List IndexTx) (scan : HistoryScan) : Prop where
  scanned : ScanInvariant scan
  prefixed : ∃ rest, history = scan.visited ++ rest ∧
    (scan.effectiveDenomScanComplete = true → rest = []) ∧
    (scan.effectiveDenomScanComplete = false → scan.visited ≠ [] → rest ≠ [])
  untouched : scan.effectiveDenomScanComplete = false → scan.visited = [] → scan = start
  pinned : ∀ id, scan.observedOldestTxId = some id → history.getLast?.map IndexTx.id = some id

theorem start_truthful (history : List IndexTx) : TruthfulScan history start where
  scanned := start_invariant
  prefixed := ⟨history, rfl, nofun,
    fun _ present => absurd rfl present⟩
  untouched _ _ := rfl
  pinned id reported := by cases reported

theorem TruthfulScan.slice (truthful : TruthfulScan history scan)
    (unfinished : scan.effectiveDenomScanComplete = false) {newer rest : List IndexTx}
    (count : Nat) (descending : Descending (newer ++ history))
    (fresh : scan.nextStart = none → newer = [])
    (split : history = scan.visited ++ rest) :
    (indexPage (newer ++ history) scan.nextStart count).transactions = rest.take count := by
  have reached := truthful.scanned.reached unfinished
  cases ends : scan.visited.getLast? with
  | none =>
      rw [ends] at reached
      have empty := List.getLast?_eq_none_iff.mp ends
      rw [empty, List.nil_append] at split
      rw [indexPage, reached, fresh reached, split]
      rfl
  | some last =>
      rw [ends] at reached
      have shape : newer ++ history = (newer ++ scan.visited) ++ rest := by
        rw [List.append_assoc, ← split]
      have below : belowCursor (some last.id) (newer ++ history) = rest := by
        rw [shape] at descending ⊢
        apply belowCursor_split descending
        rw [List.getLast?_append, ends]
        rfl
      have cursor : scan.nextStart = some last.id := reached
      rw [indexPage, cursor, below]

theorem TruthfulScan.advance (truthful : TruthfulScan history scan)
    (unfinished : scan.effectiveDenomScanComplete = false) (served : Slice history scan page)
    (advanced : Advanced pageSize expectedFirst scan page next) : TruthfulScan history next := by
  obtain ⟨newer, count, descending, fresh, rfl⟩ := served
  obtain ⟨rest, split, _, _⟩ := truthful.prefixed
  have part := truthful.slice unfinished count descending fresh split
  have scanned := advanced.invariant unfinished truthful.scanned
  have visited := advanced.visited
  rw [part] at visited
  have shape : history = next.visited ++ rest.drop count := by
    rw [visited, List.append_assoc, List.take_append_drop]
    exact split
  have oldest : (newer ++ history).getLast?.map IndexTx.id = next.observedOldestTxId :=
    advanced.oldest.symm
  have order : Descending history := (List.pairwise_append.mp descending).2.1
  rw [List.getLast?_append] at oldest
  refine ⟨scanned, ⟨rest.drop count, shape, ?_, ?_⟩, ?_, ?_⟩
  · intro finished
    cases remaining : (rest.drop count).getLast? with
    | none => exact List.getLast?_eq_none_iff.mp remaining
    | some last =>
        -- the oldest record is still to come, so it was not visited
        have member := List.mem_of_getLast? remaining
        have ends : history.getLast? = some last := by
          rw [shape, List.getLast?_append, remaining]
          rfl
        rw [ends] at oldest
        rw [shape] at order
        rcases scanned.finished finished with ⟨id, tx, reported, present, rfl⟩ | ⟨reported, _⟩
        · have below := (List.pairwise_append.mp order).2.2 tx present last member
          have same : last.id = tx.id := Option.some.inj (oldest.trans reported)
          omega
        · rw [reported] at oldest
          cases oldest
  · intro more _ nothing
    obtain ⟨_, present⟩ := advanced.cursor more
    rcases advanced.accepted.ends with ⟨empty, _⟩ | ⟨last, found, complete⟩
    · exact present empty
    · have ends : history.getLast? = some last := by
        rw [shape, nothing, List.append_nil, advanced.visited, List.getLast?_append, found]
        rfl
      rw [ends] at oldest
      have reported : some last.id = next.observedOldestTxId := oldest
      rw [← advanced.oldest, ← reported, decide_eq_true rfl, more] at complete
      cases complete
  · intro more empty
    obtain ⟨_, present⟩ := advanced.cursor more
    rw [advanced.visited] at empty
    exact absurd (List.append_eq_nil_iff.mp empty).2 present
  · intro id reported
    rw [reported] at oldest
    cases ends : history.getLast? with
    | some last =>
        rw [ends] at oldest
        exact oldest
    | none =>
        have empty := List.getLast?_eq_none_iff.mp ends
        have nothing : scan.visited = [] := (List.append_eq_nil_iff.mp (split.symm.trans empty)).1
        have cursor := truthful.scanned.reached unfinished
        rw [nothing] at cursor
        rw [ends, fresh cursor] at oldest
        cases oldest

theorem truthful_run {events : List IndexPage}
    (slices : (machine pageSize expectedFirst).Complies (Slice history) start events)
    (ran : (machine pageSize expectedFirst).run start events = some scan) :
    TruthfulScan history scan := by
  apply (machine pageSize expectedFirst).complies_preserves (Slice history) (TruthfulScan history)
    _ (start_truthful history) slices ran
  intro state page next truthful served taken
  obtain ⟨unfinished, rfl | advanced⟩ := step_cases taken
  · exact truthful
  · exact truthful.advance unfinished served (onPage_advanced advanced)

theorem TruthfulScan.complete_iff (truthful : TruthfulScan history scan) (moved : scan ≠ start) :
    scan.effectiveDenomScanComplete = true ↔ scan.visited = history := by
  obtain ⟨rest, split, finished, unfinished⟩ := truthful.prefixed
  constructor
  · intro complete
    rw [finished complete, List.append_nil] at split
    exact split.symm
  · intro all
    rw [← Bool.not_eq_false]
    intro more
    have present : scan.visited ≠ [] := fun empty => moved (truthful.untouched more empty)
    apply unfinished more present
    rw [all] at split
    exact List.append_right_eq_self.mp split.symm

theorem TruthfulScan.accepts (truthful : TruthfulScan history scan)
    (unfinished : scan.effectiveDenomScanComplete = false) {newer : List IndexTx} {count : Nat}
    (descending : Descending (newer ++ history)) (fresh : scan.nextStart = none → newer = [])
    (anchored : ∀ id, expectedFirst = some id → history.getLast?.map IndexTx.id = some id)
    (some_asked : 0 < count) (within : count ≤ pageSize) :
    ∃ next, onPage pageSize expectedFirst scan
      (indexPage (newer ++ history) scan.nextStart count) = some next := by
  have older : ∀ id, history.getLast?.map IndexTx.id = some id →
      (newer ++ history).getLast?.map IndexTx.id = some id := by
    intro id ends
    obtain ⟨last, found, same⟩ := Option.map_eq_some_iff.mp ends
    rw [List.getLast?_append, found, ← same]
    rfl
  have reached : belowCursor scan.nextStart (newer ++ history) = [] →
      (newer ++ history).getLast?.map IndexTx.id = scan.nextStart := by
    intro nothing
    obtain ⟨rest, split, _, remaining⟩ := truthful.prefixed
    have part := truthful.slice unfinished rest.length descending fresh split
    rw [indexPage, nothing, List.take_nil, List.take_length] at part
    have empty : scan.visited = [] := by
      by_contra present
      exact remaining unfinished present part.symm
    have cursor := truthful.scanned.reached unfinished
    rw [empty] at cursor split
    rw [split, ← part, fresh cursor, cursor]
    rfl
  have held : ¬ (expectedFirst.any fun id => decide
      ((indexPage (newer ++ history) scan.nextStart count).oldestTxId ≠ some id)) = true := by
    cases expectedFirst with
    | none => exact Bool.false_ne_true
    | some id =>
        have present := older id (anchored id rfl)
        rw [Option.any_some, decide_eq_true_eq, not_not]
        exact present
  have consistent : ∀ id, scan.observedOldestTxId.or expectedFirst = some id →
      (newer ++ history).getLast?.map IndexTx.id = some id := by
    intro id expected
    apply older
    cases observed : scan.observedOldestTxId with
    | none =>
        rw [observed] at expected
        exact anchored id expected
    | some known =>
        rw [observed] at expected
        exact truthful.pinned id (observed.trans expected)
  obtain ⟨exhausted, valid⟩ := slice_valid descending some_asked within reached consistent
  rw [onPage, if_neg held, valid]
  exact ⟨_, rfl⟩

end Truthful

/-- What the validation of pages makes of a scan: over any pages, and over the slices of one
history. -/
structure PagesSound (pageSize : Nat) (expectedFirst : Option Nat) : Prop where
  accepted : ∀ scan page next, onPage pageSize expectedFirst scan page = some next →
    Descending page.transactions ∧ ∀ tx ∈ page.transactions, Below scan.nextStart tx.id
  lowers : ∀ scan page next, onPage pageSize expectedFirst scan page = some next →
    next.effectiveDenomScanComplete = false →
    ∃ cursor, next.nextStart = some cursor ∧ Below scan.nextStart cursor
  terminates : WellFounded (Continues pageSize expectedFirst)
  pinned : ∀ scan page next id, onPage pageSize expectedFirst scan page = some next →
    scan.observedOldestTxId = some id → next.observedOldestTxId = some id
  completes : ∀ scan, (machine pageSize expectedFirst).Reachable scan →
    scan.effectiveDenomScanComplete = true →
    (∃ oldest tx, scan.observedOldestTxId = some oldest ∧ tx ∈ scan.visited ∧ tx.id = oldest) ∨
      (scan.observedOldestTxId = none ∧ scan.visited = [])
  exact : ∀ history scan events,
    (machine pageSize expectedFirst).Complies (Slice history) start events →
    (machine pageSize expectedFirst).run start events = some scan → scan ≠ start →
    (scan.effectiveDenomScanComplete = true ↔ scan.visited = history)
  moves : ∀ history scan events,
    (machine pageSize expectedFirst).Complies (Slice history) start events →
    (machine pageSize expectedFirst).run start events = some scan →
    scan.effectiveDenomScanComplete = false →
    (∀ id, expectedFirst = some id → history.getLast?.map IndexTx.id = some id) →
    ∀ newer count, Descending (newer ++ history) → (scan.nextStart = none → newer = []) →
      0 < count → count ≤ pageSize →
      ∃ next, onPage pageSize expectedFirst scan
        (indexPage (newer ++ history) scan.nextStart count) = some next

theorem history_pages_sound (pageSize : Nat) (expectedFirst : Option Nat) :
    PagesSound pageSize expectedFirst where
  accepted _ _ _ advanced :=
    have page := (onPage_advanced advanced).accepted
    ⟨page.descending, page.below⟩
  lowers _ _ _ advanced unfinished := (onPage_advanced advanced).lowers unfinished
  terminates := continues_wellFounded pageSize expectedFirst
  pinned := by
    intro scan page next id accepted observed
    have advanced := onPage_advanced accepted
    rw [advanced.oldest]
    apply advanced.accepted.pinned
    rw [observed]
    rfl
  completes _ reachable complete := (reachable_scan reachable).finished complete
  exact _ _ _ slices ran moved := (truthful_run slices ran).complete_iff moved
  moves _ _ _ slices ran unfinished anchored _ _ descending fresh some_asked within :=
    (truthful_run slices ran).accepts unfinished descending fresh anchored some_asked within

end HistoryScan

end JupiterSuite.Faucet
