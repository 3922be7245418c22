import JupiterSuite.Frontend.TransferListing
import Mathlib.Data.List.Sort

/-! The loop over the pages: before each page the items are the matches of what was read, and the
history behind the start is what is left to read. -/

namespace JupiterSuite.Frontend

open Base

variable {item : IncomingTransfer} {tx : IndexTransactionWithId} {acc : Collected}
  {found : List IncomingTransfer}

section Loading

variable {toLowerCase : String → String} {accountIdentifier : String} {options : LoadOptions}
  {history transactions : List IndexTransactionWithId}

def matchesOf (toLowerCase : String → String) (accountIdentifier : String) (options : LoadOptions)
    (transactions : List IndexTransactionWithId) : List IncomingTransfer :=
  transactions.filterMap (matchingTransfer toLowerCase accountIdentifier options)

/-! ## Matches -/

/-- Where a listed transfer has its id and time from, and that it lies inside the time window. -/
structure MatchOf (options : LoadOptions) (tx : IndexTransactionWithId) (item : IncomingTransfer) :
    Prop where
  id : tx.id = some item.txId
  inside : ∀ least, options.minTimestampNanos = some least →
    ∃ timestamp, transactionTimestampNanos tx.transaction = some timestamp ∧
      least ≤ (timestamp : Int)

theorem matchingTransfer_of
    (found : matchingTransfer toLowerCase accountIdentifier options tx = some item) :
    MatchOf options tx item := by
  rw [matchingTransfer, Option.filter_eq_some_iff] at found
  obtain ⟨incoming, window⟩ := found
  rw [incomingIcpTransferFromIndexTransaction] at incoming
  split at incoming
  · rename_i identified
    split at incoming
    · cases incoming
    · cases incoming
      refine ⟨identified, ?_⟩
      intro least given
      simp only [isAtOrAfterTimestamp, given, Option.any_eq_true] at window
      obtain ⟨timestamp, known, late⟩ := window
      exact ⟨timestamp, known, of_decide_eq_true late⟩
  · cases incoming

theorem idOf_match (found : matchingTransfer toLowerCase accountIdentifier options tx = some item) :
    idOf tx = item.txId := by
  rw [idOf, (matchingTransfer_of found).id]
  rfl

theorem matchesOf_descending (toLowerCase : String → String) (accountIdentifier : String)
    (options : LoadOptions)
    (descending : transactions.Pairwise fun newer older => idOf older < idOf newer) :
    (matchesOf toLowerCase accountIdentifier options transactions).Pairwise
      fun newer older => older.txId < newer.txId := by
  apply List.Pairwise.filterMap _ _ descending
  intro newer older below first found second listed
  rw [← idOf_match found, ← idOf_match listed]
  exact below

theorem matchesOf_append (front rest : List IndexTransactionWithId) :
    matchesOf toLowerCase accountIdentifier options (front ++ rest) =
      matchesOf toLowerCase accountIdentifier options front ++
        matchesOf toLowerCase accountIdentifier options rest :=
  List.filterMap_append

/-! ## A page -/

/-- What collecting some matches leaves: the items up to the limit, and whether one was left out. -/
structure CollectedFrom (options : LoadOptions) (acc : Collected) (found : List IncomingTransfer)
    (after : Collected) : Prop where
  items : after.items = (acc.items ++ found).take options.limit
  seen : ∀ id ∈ after.seen, id ∈ acc.seen ∨ ∃ item ∈ found, item.txId = id
  more : after.additionalMatches =
    (acc.additionalMatches || decide (options.limit < (acc.items ++ found).length))

theorem CollectedFrom.none (fits : acc.items.length ≤ options.limit) :
    CollectedFrom options acc [] acc where
  items := by rw [List.append_nil, List.take_of_length_le fits]
  seen _ here := .inl here
  more := by rw [List.append_nil, decide_eq_false (Nat.not_lt_of_le fits), Bool.or_false]

theorem seen_either {seen : List Int} {id : Int}
    (either : id ∈ item.txId :: seen ∨ ∃ other ∈ found, other.txId = id) :
    id ∈ seen ∨ ∃ other ∈ item :: found, other.txId = id := by
  rcases either with here | ⟨other, there, same⟩
  · rcases List.mem_cons.mp here with rfl | before
    · exact .inr ⟨item, List.mem_cons_self, rfl⟩
    · exact .inl before
  · exact .inr ⟨other, List.mem_cons_of_mem item there, same⟩

theorem CollectedFrom.place {after : Collected} (later : CollectedFrom options
      { acc with items := acc.items ++ [item], seen := item.txId :: acc.seen } found after) :
    CollectedFrom options acc (item :: found) after where
  items := by rw [later.items, List.append_assoc, List.singleton_append]
  seen id here := seen_either (later.seen id here)
  more := by rw [later.more, List.append_assoc, List.singleton_append]

theorem CollectedFrom.miss {after : Collected} (full : acc.items.length = options.limit)
    (later : CollectedFrom options
      { acc with seen := item.txId :: acc.seen, additionalMatches := true } found after) :
    CollectedFrom options acc (item :: found) after where
  items := by rw [later.items, ← full, List.take_left, List.take_left]
  seen id here := seen_either (later.seen id here)
  more := by
    have longer : options.limit < (acc.items ++ item :: found).length := by
      rw [List.length_append, List.length_cons]
      omega
    rw [later.more, Bool.true_or, decide_eq_true longer, Bool.or_true]

theorem foldl_collect (acc : Collected) (fits : acc.items.length ≤ options.limit)
    (fresh : ∀ item ∈ matchesOf toLowerCase accountIdentifier options transactions,
      item.txId ∉ acc.seen)
    (distinct : ((matchesOf toLowerCase accountIdentifier options transactions).map
      IncomingTransfer.txId).Nodup) :
    CollectedFrom options acc (matchesOf toLowerCase accountIdentifier options transactions)
      (transactions.foldl (collect toLowerCase accountIdentifier options) acc) := by
  induction transactions generalizing acc with
  | nil => exact CollectedFrom.none fits
  | cons tx rest ih =>
      rw [List.foldl_cons]
      cases found : matchingTransfer toLowerCase accountIdentifier options tx with
      | none =>
          have same : matchesOf toLowerCase accountIdentifier options (tx :: rest) =
              matchesOf toLowerCase accountIdentifier options rest :=
            List.filterMap_cons_none found
          have kept : collect toLowerCase accountIdentifier options acc tx = acc := by
            rw [collect, found]
          rw [same] at fresh distinct ⊢
          rw [kept]
          exact ih acc fits fresh distinct
      | some item =>
          have split : matchesOf toLowerCase accountIdentifier options (tx :: rest) =
              item :: matchesOf toLowerCase accountIdentifier options rest :=
            List.filterMap_cons_some found
          rw [split] at fresh distinct ⊢
          rw [List.map_cons, List.nodup_cons] at distinct
          have unseen := fresh item List.mem_cons_self
          have later_fresh : ∀ other ∈ matchesOf toLowerCase accountIdentifier options rest,
              other.txId ∉ item.txId :: acc.seen := by
            intro other there
            apply List.not_mem_cons_of_ne_of_not_mem
            · intro same
              exact distinct.1 (same ▸ List.mem_map_of_mem there)
            · exact fresh other (List.mem_cons_of_mem item there)
          by_cases room : acc.items.length < options.limit
          · have taken : collect toLowerCase accountIdentifier options acc tx =
                { acc with items := acc.items ++ [item], seen := item.txId :: acc.seen } := by
              simp only [collect, found, if_neg unseen, if_pos room]
            have still : (acc.items ++ [item]).length ≤ options.limit := by
              rw [List.length_append, List.length_singleton]
              omega
            rw [taken]
            exact CollectedFrom.place (ih { acc with
              items := acc.items ++ [item], seen := item.txId :: acc.seen } still later_fresh
              distinct.2)
          · have passed : collect toLowerCase accountIdentifier options acc tx =
                { acc with seen := item.txId :: acc.seen, additionalMatches := true } := by
              simp only [collect, found, if_neg unseen, if_neg room]
            rw [passed]
            exact CollectedFrom.miss (by omega) (ih { acc with
              seen := item.txId :: acc.seen, additionalMatches := true } fits later_fresh
              distinct.2)

theorem oldest_mem (first : Nat) (rest : List Nat) :
    rest.foldl (fun oldest timestamp => if timestamp < oldest then timestamp else oldest) first ∈
      first :: rest := by
  induction rest generalizing first with
  | nil => exact List.mem_cons_self
  | cons timestamp rest ih =>
      rw [List.foldl_cons]
      split
      · exact List.mem_cons_of_mem first (ih timestamp)
      · rcases List.mem_cons.mp (ih first) with same | later
        · rw [same]
          exact List.mem_cons_self
        · exact List.mem_cons_of_mem first (List.mem_cons_of_mem timestamp later)

theorem crossed_before (crossed : pageCrossedTimestampCutoff transactions options.minTimestampNanos
    = true) : ∃ least, options.minTimestampNanos = some least ∧ ∃ tx ∈ transactions,
      ∃ timestamp, transactionTimestampNanos tx.transaction = some timestamp ∧
        (timestamp : Int) < least := by
  rw [pageCrossedTimestampCutoff.eq_def] at crossed
  split at crossed
  · cases crossed
  · rename_i least given
    refine ⟨least, given, ?_⟩
    split at crossed
    · cases crossed
    · rename_i first rest dated
      have early := of_decide_eq_true crossed
      have member := oldest_mem first rest
      rw [← dated] at member
      obtain ⟨tx, here, known⟩ := List.mem_filterMap.mp member
      exact ⟨tx, here, _, known, early⟩

theorem matchesOf_beyond {rest : List IndexTransactionWithId}
    (chronological : (transactions ++ rest).Pairwise fun newer older => ∀ before now,
      transactionTimestampNanos older.transaction = some before →
        transactionTimestampNanos newer.transaction = some now → before ≤ now)
    (crossed : pageCrossedTimestampCutoff transactions options.minTimestampNanos = true) :
    matchesOf toLowerCase accountIdentifier options rest = [] := by
  obtain ⟨least, given, tx, here, timestamp, known, early⟩ := crossed_before crossed
  rw [matchesOf, List.filterMap_eq_nil_iff]
  intro older there
  cases found : matchingTransfer toLowerCase accountIdentifier options older with
  | none => rfl
  | some item =>
      obtain ⟨before, dated, late⟩ := (matchingTransfer_of found).inside least given
      have order := (List.pairwise_append.mp chronological).2.2 tx here older there before timestamp
        dated known
      omega

/-! ## The loop -/

/-- The state before a page: what was read, whose matches are the items, and what is left. -/
structure Reading (toLowerCase : String → String) (accountIdentifier : String)
    (options : LoadOptions) (history read : List IndexTransactionWithId) (st : LoadState) :
    Prop where
  split : history = read ++ olderThan st.start history
  items : st.items = matchesOf toLowerCase accountIdentifier options read
  seen : ∀ id ∈ st.seen, ∃ item ∈ st.items, item.txId = id
  room : st.items.length < options.limit

/-- The items when the loading ends: the newest matches, and all of them unless truncated. -/
structure Listed (options : LoadOptions) (all : List IncomingTransfer) (st : LoadState) : Prop where
  newest : st.items <+: all
  bounded : st.items.length ≤ options.limit
  complete : st.truncated = false → st.items = all

variable {read rest : List IndexTransactionWithId} {st : LoadState} {pageSize pageLimit : Nat}
  {response : IndexResponse} {next : Option Nat}

theorem page_collected (account : AccountHistory history)
    (reading : Reading toLowerCase accountIdentifier options history read st)
    (split : olderThan st.start history = transactions ++ rest) :
    CollectedFrom options ⟨st.items, st.seen, false⟩
      (matchesOf toLowerCase accountIdentifier options transactions)
      (transactions.foldl (collect toLowerCase accountIdentifier options)
        ⟨st.items, st.seen, false⟩) := by
  have whole : history = read ++ (transactions ++ rest) := by
    rw [← split]
    exact reading.split
  have descending := account.descending
  rw [whole, ← List.append_assoc] at descending
  have front := (List.pairwise_append.mp descending).1
  have ordered := matchesOf_descending toLowerCase accountIdentifier options front
  rw [matchesOf_append] at ordered
  have ⟨_, page, across⟩ := List.pairwise_append.mp ordered
  apply foldl_collect _ (Nat.le_of_lt reading.room)
  · intro item here known
    obtain ⟨other, there, same⟩ := reading.seen _ known
    rw [reading.items] at there
    have below := across other there item here
    omega
  · apply List.pairwise_map.mpr
    refine page.imp ?_
    intro newer older below same
    omega

theorem olderThan_final (account : AccountHistory history) {front : List IndexTransactionWithId}
    {final : IndexTransactionWithId} {bound : Nat} (same : idOf final = bound)
    (split : history = front ++ [final] ++ rest) : olderThan (some bound) history = rest := by
  have descending := account.descending
  rw [split] at descending ⊢
  have ⟨page, _, across⟩ := List.pairwise_append.mp descending
  have none_before : (front ++ [final]).filter (fun tx => decide (idOf tx < bound)) = [] := by
    apply List.filter_eq_nil_iff.mpr
    intro tx member below
    have below : idOf tx < bound := of_decide_eq_true below
    rcases List.mem_append.mp member with earlier | here
    · have above := (List.pairwise_append.mp page).2.2 tx earlier final List.mem_cons_self
      omega
    · rw [List.mem_singleton.mp here] at below
      omega
  have all_behind : rest.filter (fun tx => decide (idOf tx < bound)) = rest := by
    apply List.filter_eq_self.mpr
    intro tx member
    have below := across final (by simp) tx member
    exact decide_eq_true (by omega)
  simp only [olderThan, Option.all_some]
  rw [List.filter_append, none_before, all_behind, List.nil_append]

structure GoesOn (options : LoadOptions) (pageLimit page : Nat) (next : Option Nat)
    (after : Collected) : Prop where
  older : ∃ bound, next = some bound
  placed : after.additionalMatches = false
  room : after.items.length < options.limit
  pages : page + 1 < pageLimit

theorem goesOn_of_loading (loading : (afterPage toLowerCase accountIdentifier options pageLimit st
    next transactions).2 = true) :
    GoesOn options pageLimit st.page next
      (transactions.foldl (collect toLowerCase accountIdentifier options)
        ⟨st.items, st.seen, false⟩) := by
  simp only [afterPage, Bool.and_eq_true, Bool.not_eq_true', Bool.or_eq_false_iff] at loading
  obtain ⟨⟨older, crossed⟩, placed, stops⟩ := loading
  rw [older, crossed, Bool.not_false, Bool.true_and, Bool.true_and, Bool.or_eq_false_iff,
    decide_eq_false_iff_not, decide_eq_false_iff_not] at stops
  exact ⟨Option.isSome_iff_exists.mp older, placed, by omega, by omega⟩

theorem Reading.advance (account : AccountHistory history)
    (reading : Reading toLowerCase accountIdentifier options history read st)
    (split : olderThan st.start history = transactions ++ rest)
    (accepted : nextIndexPageStart response st.start pageSize = .ok next)
    (listed : response.transactions = some transactions)
    (loading : (afterPage toLowerCase accountIdentifier options pageLimit st next
      transactions).2 = true) :
    Reading toLowerCase accountIdentifier options history (read ++ transactions)
      (afterPage toLowerCase accountIdentifier options pageLimit st next transactions).1 := by
  have collected := page_collected account reading split
  have goes_on := goesOn_of_loading loading
  obtain ⟨bound, older⟩ := goes_on.older
  obtain ⟨others, again, _, _, _, last⟩ := (nextIndexPageStart_advances accepted).listed
  rw [listed] at again
  cases again
  obtain ⟨final, found, identified⟩ := last bound older
  have whole : history = read ++ transactions ++ rest := by
    rw [List.append_assoc, ← split]
    exact reading.split
  have start : (afterPage toLowerCase accountIdentifier options pageLimit st next
      transactions).1.start = some bound := by
    have kept : (afterPage toLowerCase accountIdentifier options pageLimit st next
        transactions).1.start = if (afterPage toLowerCase accountIdentifier options pageLimit st
          next transactions).2 then next else st.start := rfl
    rw [kept, if_pos loading, older]
  have items : (afterPage toLowerCase accountIdentifier options pageLimit st next
      transactions).1.items = matchesOf toLowerCase accountIdentifier options
        (read ++ transactions) := by
    have placed := collected.more
    rw [goes_on.placed, Bool.false_or, eq_comm, decide_eq_false_iff_not] at placed
    dsimp only at placed
    calc (afterPage toLowerCase accountIdentifier options pageLimit st next
          transactions).1.items
        = (st.items ++ matchesOf toLowerCase accountIdentifier options transactions).take
            options.limit := collected.items
      _ = st.items ++ matchesOf toLowerCase accountIdentifier options transactions :=
          List.take_of_length_le (by omega)
      _ = matchesOf toLowerCase accountIdentifier options (read ++ transactions) := by
          rw [reading.items, matchesOf_append]
  refine ⟨?_, items, ?_, goes_on.room⟩
  · obtain ⟨front, rfl⟩ := List.getLast?_eq_some_iff.mp found
    have same : idOf final = bound := by rw [idOf, identified]; rfl
    have split_here : history = read ++ front ++ [final] ++ rest := by
      rw [whole, ← List.append_assoc read]
    rw [start, olderThan_final account same split_here]
    exact whole
  · intro id here
    rw [items, matchesOf_append]
    rcases collected.seen id here with before | ⟨item, there, same⟩
    · obtain ⟨item, there, same⟩ := reading.seen id before
      rw [reading.items] at there
      exact ⟨item, List.mem_append_left _ there, same⟩
    · exact ⟨item, List.mem_append_right _ there, same⟩

theorem listed_after (account : AccountHistory history)
    (reading : Reading toLowerCase accountIdentifier options history read st)
    (split : olderThan st.start history = transactions ++ rest)
    (ended : next = none → rest = [])
    (done : (afterPage toLowerCase accountIdentifier options pageLimit st next
      transactions).2 = false) :
    Listed options (matchesOf toLowerCase accountIdentifier options history)
      (afterPage toLowerCase accountIdentifier options pageLimit st next transactions).1 := by
  have collected := page_collected account reading split
  have whole : history = read ++ transactions ++ rest := by
    rw [List.append_assoc, ← split]
    exact reading.split
  have all : matchesOf toLowerCase accountIdentifier options history =
      st.items ++ matchesOf toLowerCase accountIdentifier options transactions ++
        matchesOf toLowerCase accountIdentifier options rest := by
    rw [reading.items, ← matchesOf_append, ← matchesOf_append, ← whole]
  have items : (afterPage toLowerCase accountIdentifier options pageLimit st next
      transactions).1.items = (st.items ++
        matchesOf toLowerCase accountIdentifier options transactions).take options.limit :=
    collected.items
  refine ⟨?_, ?_, ?_⟩
  · rw [items, all]
    exact (List.take_prefix _ _).trans (List.prefix_append _ _)
  · rw [items, List.length_take]
    exact Nat.min_le_left _ _
  · intro exact_listing
    -- Not truncated and not loading: the history ended, or the page crossed the cutoff.
    have truncated := exact_listing
    simp only [afterPage, Bool.or_eq_false_iff] at truncated done
    have placed := collected.more
    rw [truncated.1, Bool.false_or, eq_comm, decide_eq_false_iff_not] at placed
    dsimp only at placed
    have nothing_left : matchesOf toLowerCase accountIdentifier options rest = [] := by
      rw [truncated.1, truncated.2, Bool.or_false, Bool.not_false, Bool.and_true,
        Bool.and_eq_false_iff] at done
      rcases done with last | crossed
      · rw [ended (Option.not_isSome_iff_eq_none.mp (by rw [last]; exact Bool.false_ne_true))]
        rfl
      · rw [Bool.not_eq_false'] at crossed
        have chronological := account.chronological
        rw [whole, List.append_assoc] at chronological
        exact matchesOf_beyond (List.pairwise_append.mp chronological).2.1 crossed
    rw [items, all, nothing_left, List.append_nil]
    exact List.take_of_length_le (by omega)

end Loading

/-! What the loading of incoming transfers returns, over the history of the account. -/

section Completeness

variable {toLowerCase : String → String} {accountIdentifier : String} {options : LoadOptions}
  {history read transactions rest : List IndexTransactionWithId} {st : LoadState}
  {index : IndexActor} {response : IndexResponse} {next : Option Nat} {pageLimit : Nat}

/-! ## The loop -/

def ServesHistory (history : List IndexTransactionWithId) (pageSize : Nat) (index : IndexActor) :
    Prop :=
  ∀ call start, ∃ transactions response, index call start = .ok response ∧
    ServedPage history pageSize start transactions response

/-- What the loop ends with: the listing, after at most so many pages. -/
structure Loaded (options : LoadOptions) (all : List IncomingTransfer) (pageLimit : Nat)
    (st : LoadState) : Prop where
  listed : Listed options all st
  pages : st.progress.length ≤ pageLimit

theorem afterPage_progress (next : Option Nat) (transactions : List IndexTransactionWithId) :
    (afterPage toLowerCase accountIdentifier options pageLimit st next
      transactions).1.progress.length = st.progress.length + 1 := by
  simp only [afterPage, List.length_append, List.length_singleton]

theorem afterPage_page (next : Option Nat) (transactions : List IndexTransactionWithId) :
    (afterPage toLowerCase accountIdentifier options pageLimit st next transactions).1.page =
      st.page + 1 := rfl

/-- The next page of a state: what is read of it and what is left behind it. -/
structure PageRead (options : LoadOptions) (history : List IndexTransactionWithId)
    (index : IndexActor) (st : LoadState) (transactions rest : List IndexTransactionWithId)
    (response : IndexResponse) (next : Option Nat) : Prop where
  called : getAccountIdentifierTransactions index st.page st.start options.pageSize = .ok response
  listed : response.transactions = some transactions
  accepted : nextIndexPageStart response st.start options.pageSize = .ok next
  split : olderThan st.start history = transactions ++ rest
  ended : next = none → rest = []

theorem page_read (account : AccountHistory history)
    (served : ServesHistory history options.pageSize index)
    (pageSize : 1 ≤ options.pageSize) (safe : options.pageSize ≤ maxSafeInteger) (st : LoadState) :
    ∃ transactions rest response next,
      PageRead options history index st transactions rest response next := by
  obtain ⟨transactions, response, answered, page⟩ := served st.page st.start
  obtain ⟨next, accepted, ended⟩ := nextIndexPageStart_served account page
  obtain ⟨rest, split⟩ := page.newest
  refine ⟨transactions, rest, response, next, ?_, page.listed, accepted, split.symm, ?_⟩
  · rw [getAccountIdentifierTransactions, if_neg (by omega), answered]
  · intro last
    have whole := ended last
    rw [whole] at split
    exact List.append_right_eq_self.mp split

theorem loadPages_last (account : AccountHistory history)
    (page : PageRead options history index st transactions rest response next) (left : Nat)
    (within : st.progress.length + 1 ≤ pageLimit)
    (reading : Reading toLowerCase accountIdentifier options history read st)
    (done : (afterPage toLowerCase accountIdentifier options pageLimit st next
      transactions).2 = false) :
    ∃ after, loadPages toLowerCase accountIdentifier options index pageLimit (left + 1) st =
        .ok after ∧
      Loaded options (matchesOf toLowerCase accountIdentifier options history) pageLimit after := by
  refine ⟨_, ?_, listed_after account reading page.split page.ended done, ?_⟩
  · rw [loadPages, if_pos reading.room, page.called]
    simp only [page.accepted, page.listed, Option.getD_some, done, Bool.false_eq_true, if_false]
  · rw [afterPage_progress]
    exact within

/-- By induction on the pages that are left; one of them is always left when the loop goes on. -/
theorem loadPages_loaded (account : AccountHistory history)
    (served : ServesHistory history options.pageSize index)
    (pageSize : 1 ≤ options.pageSize) (safe : options.pageSize ≤ maxSafeInteger) (left : Nat)
    (allowed : st.page + (left + 1) = pageLimit) (counted : st.progress.length = st.page)
    (reading : Reading toLowerCase accountIdentifier options history read st) :
    ∃ after, loadPages toLowerCase accountIdentifier options index pageLimit (left + 1) st =
        .ok after ∧
      Loaded options (matchesOf toLowerCase accountIdentifier options history) pageLimit after := by
  induction left generalizing st read with
  | zero =>
      obtain ⟨transactions, rest, response, next, page⟩ := page_read account served pageSize safe st
      apply loadPages_last account page 0 (by omega) reading
      by_contra loading
      have pages := (goesOn_of_loading (Bool.eq_true_of_not_eq_false loading)).pages
      omega
  | succ left ih =>
      obtain ⟨transactions, rest, response, next, page⟩ := page_read account served pageSize safe st
      cases loading : (afterPage toLowerCase accountIdentifier options pageLimit st next
          transactions).2 with
      | false => exact loadPages_last account page (left + 1) (by omega) reading loading
      | true =>
          have onwards := reading.advance account page.split page.accepted page.listed loading
          obtain ⟨after, reached, loaded⟩ := ih (by rw [afterPage_page]; omega)
            (by rw [afterPage_progress, afterPage_page, counted]) onwards
          refine ⟨after, ?_, loaded⟩
          rw [loadPages, if_pos reading.room, page.called]
          simp only [page.accepted, page.listed, Option.getD_some, loading, if_true]
          exact reached

theorem olderThan_none (history : List IndexTransactionWithId) :
    olderThan none history = history :=
  List.filter_eq_self.mpr fun _ _ => rfl

theorem Reading.initial (toLowerCase : String → String) (accountIdentifier : String)
    (options : LoadOptions) (history : List IndexTransactionWithId) (limit : 1 ≤ options.limit) :
    Reading toLowerCase accountIdentifier options history [] ⟨0, none, [], [], false, []⟩ where
  split := by rw [olderThan_none, List.nil_append]
  items := rfl
  seen _ here := absurd here List.not_mem_nil
  room := limit

/-! ## The items -/

theorem uniqueTransfers_of_distinct {items : List IncomingTransfer} {seen : List Int}
    (fresh : ∀ item ∈ items, item.txId ∉ seen)
    (distinct : items.Pairwise fun newer older => older.txId < newer.txId) :
    uniqueTransfers seen items = items := by
  induction items generalizing seen with
  | nil => rfl
  | cons item rest ih =>
      have ⟨above, later⟩ := List.pairwise_cons.mp distinct
      rw [uniqueTransfers, if_neg (fresh item List.mem_cons_self)]
      have later_fresh : ∀ other ∈ rest, other.txId ∉ item.txId :: seen := by
        intro other there
        apply List.not_mem_cons_of_ne_of_not_mem
        · have below := above other there
          omega
        · exact fresh other (List.mem_cons_of_mem item there)
      rw [ih later_fresh later]

theorem normalizeRouteTransferItems_of_descending {items : List IncomingTransfer} {limit : Nat}
    (descending : items.Pairwise fun newer older => older.txId < newer.txId)
    (bounded : items.length ≤ limit) : normalizeRouteTransferItems items limit = items := by
  have sorted : items.Pairwise fun first second =>
      decide (second.txId ≤ first.txId) = true := by
    refine descending.imp ?_
    intro first second below
    exact decide_eq_true (by omega)
  calc normalizeRouteTransferItems items limit
      = (items.mergeSort fun first second =>
          decide (second.txId ≤ first.txId)).take limit := by
        rw [normalizeRouteTransferItems, uniqueTransfers_of_distinct
          (fun _ _ here => absurd here List.not_mem_nil) descending]
    _ = items.take limit := by rw [List.mergeSort_of_pairwise sorted]
    _ = items := List.take_of_length_le bounded

structure IsIncoming (toLowerCase : String → String) (accountIdentifier : String)
    (minTimestampNanos : Option Int) (tx : IndexTransactionWithId) : Prop where
  received : ∃ fromAccount toAccount amount,
    tx.transaction.operation = .transfer fromAccount toAccount (some amount) ∧
      toLowerCase toAccount = accountIdentifier
  inside : ∀ least, minTimestampNanos = some least →
    ∃ timestamp, transactionTimestampNanos tx.transaction = some timestamp ∧
      least ≤ (timestamp : Int)

theorem isIncoming_of_match
    (found : matchingTransfer toLowerCase accountIdentifier options tx = some item) :
    IsIncoming toLowerCase accountIdentifier options.minTimestampNanos tx := by
  refine ⟨?_, (matchingTransfer_of found).inside⟩
  rw [matchingTransfer, Option.filter_eq_some_iff, incomingIcpTransferFromIndexTransaction] at found
  have incoming := found.1
  split at incoming
  · rename_i fromAccount toAccount amount txId transfer identified
    split at incoming
    · cases incoming
    · rename_i here
      exact ⟨fromAccount, toAccount, amount, transfer, not_not.mp here⟩
  · cases incoming

theorem match_of_isIncoming {id : Int} (identified : tx.id = some id)
    (incoming : IsIncoming toLowerCase accountIdentifier options.minTimestampNanos tx) :
    ∃ item, matchingTransfer toLowerCase accountIdentifier options tx = some item := by
  obtain ⟨fromAccount, toAccount, amount, transfer, here⟩ := incoming.received
  rw [matchingTransfer, incomingIcpTransferFromIndexTransaction]
  simp only [transfer, identified, here, ne_eq, not_true_eq_false, if_false]
  refine ⟨_, Option.filter_eq_some_iff.mpr ⟨rfl, ?_⟩⟩
  rw [isAtOrAfterTimestamp.eq_def]
  cases given : options.minTimestampNanos with
  | none => rfl
  | some least =>
      obtain ⟨timestamp, known, late⟩ := incoming.inside least given
      simp only [known, Option.any_some]
      exact decide_eq_true late

/-- What is loaded of a history: incoming transfers, the newest first and the newest ones, and all
of them unless it is truncated. -/
structure CompleteListing (toLowerCase : String → String) (accountIdentifier : String)
    (options : LoadOptions) (history : List IndexTransactionWithId) (loaded : LoadedTransfers) :
    Prop where
  listed : ∀ item ∈ loaded.items, ∃ tx ∈ history, tx.id = some item.txId ∧
    IsIncoming toLowerCase accountIdentifier options.minTimestampNanos tx ∧
    matchingTransfer toLowerCase accountIdentifier options tx = some item
  ordered : loaded.items.Pairwise fun newer older => older.txId < newer.txId
  bounded : loaded.items.length ≤ options.limit
  newest : ∀ item ∈ loaded.items, ∀ tx ∈ history,
    IsIncoming toLowerCase accountIdentifier options.minTimestampNanos tx →
      item.txId < idOf tx → ∃ newer ∈ loaded.items, tx.id = some newer.txId
  complete : loaded.truncated = false → ∀ tx ∈ history,
    IsIncoming toLowerCase accountIdentifier options.minTimestampNanos tx →
      ∃ item ∈ loaded.items, tx.id = some item.txId

theorem mem_matchesOf :
    item ∈ matchesOf toLowerCase accountIdentifier options history ↔
      ∃ tx ∈ history, matchingTransfer toLowerCase accountIdentifier options tx = some item :=
  List.mem_filterMap

theorem incoming_listed (account : AccountHistory history) (member : tx ∈ history)
    (incoming : IsIncoming toLowerCase accountIdentifier options.minTimestampNanos tx) :
    ∃ item ∈ matchesOf toLowerCase accountIdentifier options history,
      tx.id = some item.txId := by
  obtain ⟨id, identified, _⟩ := account.ids tx member
  obtain ⟨item, found⟩ := match_of_isIncoming identified incoming
  exact ⟨item, mem_matchesOf.mpr ⟨tx, member, found⟩, (matchingTransfer_of found).id⟩

theorem completeListing_of (account : AccountHistory history) {loaded : LoadedTransfers}
    (newest : loaded.items <+: matchesOf toLowerCase accountIdentifier options history)
    (bounded : loaded.items.length ≤ options.limit)
    (complete : loaded.truncated = false →
      loaded.items = matchesOf toLowerCase accountIdentifier options history) :
    CompleteListing toLowerCase accountIdentifier options history loaded := by
  have descending := matchesOf_descending toLowerCase accountIdentifier options account.descending
  refine ⟨?_, descending.sublist newest.sublist, bounded, ?_, ?_⟩
  · intro item here
    obtain ⟨tx, member, found⟩ := mem_matchesOf.mp (newest.subset here)
    exact ⟨tx, member, (matchingTransfer_of found).id, isIncoming_of_match found, found⟩
  · intro item here tx member incoming below
    obtain ⟨newer, there, identified⟩ := incoming_listed account member incoming
    refine ⟨newer, ?_, identified⟩
    obtain ⟨rest, whole⟩ := newest
    rw [← whole] at there descending
    rcases List.mem_append.mp there with inside | beyond
    · exact inside
    · have above := (List.pairwise_append.mp descending).2.2 item here newer beyond
      rw [idOf, identified, Option.getD_some] at below
      omega
  · intro whole tx member incoming
    rw [complete whole]
    exact incoming_listed account member incoming

def LoadOptions.pageCap (options : LoadOptions) : Int :=
  options.maxPages.getD (defaultMaxPages options.limit options.pageSize)

/-- The listing over a history: what it is, and what nextIndexPageStart makes of a page. -/
structure TransferListing (toLowerCase : String → String) (accountIdentifier : String)
    (options : LoadOptions) (history : List IndexTransactionWithId) (index : IndexActor) :
    Prop where
  loads : options.pageSize ≤ maxSafeInteger → options.pageCap ≤ (maxSafeInteger : Int) →
    ∃ loaded, loadIncomingIcpTransfersFromIndex toLowerCase options (some index)
        (some accountIdentifier) = .ok (some loaded) ∧
      CompleteListing toLowerCase accountIdentifier options history loaded ∧
      (loaded.progress.length : Int) ≤ max 1 options.pageCap
  refuses : maxSafeInteger < options.pageSize ∨ (maxSafeInteger : Int) < options.pageCap →
    ∃ thrown, loadIncomingIcpTransfersFromIndex toLowerCase options (some index)
      (some accountIdentifier) = .error thrown
  rejects : ∀ transactions response tx bound, response.transactions = some transactions →
    tx ∈ transactions → (bound : Nat) ≤ idOf tx →
      ∃ thrown, nextIndexPageStart response (some bound) options.pageSize = .error thrown
  advances : ∀ response start next,
    nextIndexPageStart response start options.pageSize = .ok next →
      Advances response start options.pageSize next
  ends : ∀ transactions response start,
    ServedPage history options.pageSize start transactions response →
      ∃ next, nextIndexPageStart response start options.pageSize = .ok next ∧
        (next = none → transactions = olderThan start history)

theorem indexPageLimit_ok {maxPages : Int} (safe : maxPages ≤ (maxSafeInteger : Int)) :
    indexPageLimit maxPages = .ok (max 1 maxPages).toNat := by
  have within : ¬(maxSafeInteger : Int) < max 1 maxPages := by
    rw [maxSafeInteger] at safe ⊢
    omega
  rw [indexPageLimit]
  simp only [if_neg within]

theorem indexPageLimit_unsafe {maxPages : Int} (large : (maxSafeInteger : Int) < maxPages) :
    ∃ thrown, indexPageLimit maxPages = .error thrown := by
  have beyond : (maxSafeInteger : Int) < max 1 maxPages := by omega
  rw [indexPageLimit]
  simp only [if_pos beyond]
  exact ⟨_, rfl⟩

theorem loads_listing (account : AccountHistory history)
    (served : ServesHistory history options.pageSize index) (limit : 1 ≤ options.limit)
    (pageSize : 1 ≤ options.pageSize) (safe : options.pageSize ≤ maxSafeInteger)
    (cap : options.pageCap ≤ (maxSafeInteger : Int)) :
    ∃ loaded, loadIncomingIcpTransfersFromIndex toLowerCase options (some index)
        (some accountIdentifier) = .ok (some loaded) ∧
      CompleteListing toLowerCase accountIdentifier options history loaded ∧
      (loaded.progress.length : Int) ≤ max 1 options.pageCap := by
  obtain ⟨left, pages⟩ : ∃ left, (max 1 options.pageCap).toNat = left + 1 :=
    Nat.exists_eq_succ_of_ne_zero (by omega)
  obtain ⟨after, reached, loaded⟩ := loadPages_loaded account served pageSize safe left
    (Nat.zero_add (left + 1)) rfl
    (Reading.initial toLowerCase accountIdentifier options history limit)
  have descending := matchesOf_descending toLowerCase accountIdentifier options account.descending
  have shown : normalizeRouteTransferItems after.items options.limit = after.items :=
    normalizeRouteTransferItems_of_descending (descending.sublist loaded.listed.newest.sublist)
      loaded.listed.bounded
  refine ⟨⟨after.items, after.truncated, options.limit, options.pageSize, after.progress⟩, ?_,
    completeListing_of account loaded.listed.newest loaded.listed.bounded loaded.listed.complete,
    ?_⟩
  · have allowed : indexPageLimit (options.maxPages.getD
        (defaultMaxPages options.limit options.pageSize)) = .ok (left + 1) := by
      rw [← pages]
      exact indexPageLimit_ok cap
    rw [loadIncomingIcpTransfersFromIndex]
    simp only [allowed, reached, shown]
  · have counted := loaded.pages
    dsimp only
    omega

theorem load_refuses (limit : 1 ≤ options.limit)
    (large : maxSafeInteger < options.pageSize ∨ (maxSafeInteger : Int) < options.pageCap) :
    ∃ thrown, loadIncomingIcpTransfersFromIndex toLowerCase options (some index)
      (some accountIdentifier) = .error thrown := by
  rw [loadIncomingIcpTransfersFromIndex]
  by_cases cap : options.pageCap ≤ (maxSafeInteger : Int)
  · have pageSize := large.resolve_right (by omega)
    obtain ⟨left, pages⟩ : ∃ left, (max 1 options.pageCap).toNat = left + 1 :=
      Nat.exists_eq_succ_of_ne_zero (by omega)
    have allowed : indexPageLimit (options.maxPages.getD
        (defaultMaxPages options.limit options.pageSize)) = .ok (left + 1) := by
      rw [← pages]
      exact indexPageLimit_ok cap
    have room : ([] : List IncomingTransfer).length < options.limit := limit
    rw [allowed]
    simp only [loadPages, if_pos room, getAccountIdentifierTransactions, if_pos (Or.inl pageSize)]
    exact ⟨_, rfl⟩
  · obtain ⟨thrown, refused⟩ := indexPageLimit_unsafe (Int.not_le.mp cap)
    refine ⟨thrown, ?_⟩
    have refused : indexPageLimit (options.maxPages.getD
        (defaultMaxPages options.limit options.pageSize)) = .error thrown := refused
    rw [refused]

theorem transfer_listing_complete (toLowerCase : String → String) (accountIdentifier : String)
    (options : LoadOptions) (limit : 1 ≤ options.limit) (pageSize : 1 ≤ options.pageSize)
    (history : List IndexTransactionWithId) (account : AccountHistory history)
    (index : IndexActor) (served : ServesHistory history options.pageSize index) :
    TransferListing toLowerCase accountIdentifier options history index where
  loads safe cap := loads_listing account served limit pageSize safe cap
  refuses large := load_refuses limit large
  rejects _ _ _ _ listed member stalled := nextIndexPageStart_rejects listed rfl member stalled
  advances _ _ _ accepted := nextIndexPageStart_advances accepted
  ends _ _ _ page := nextIndexPageStart_served account page

end Completeness

/-! ## An index that serves a history -/

/-- Full pages, with the oldest id whenever there is one. -/
def fullPages (history : List IndexTransactionWithId) (pageSize : Nat) : IndexActor :=
  fun _ start =>
    .ok ⟨some ((olderThan start history).take pageSize), history.getLast?.map fun tx => tx.id⟩

theorem fullPages_serve {history : List IndexTransactionWithId} {pageSize : Nat}
    (account : AccountHistory history) (positive : 1 ≤ pageSize) :
    ServesHistory history pageSize (fullPages history pageSize) := by
  intro call start
  refine ⟨_, _, rfl, rfl, List.take_prefix _ _, List.length_take_le _ _, ?_, ?_, ?_⟩
  · intro more nothing
    rcases List.take_eq_nil_iff.mp nothing with zero | none_left
    · omega
    · exact more none_left
  · intro value given
    obtain ⟨least, last, rfl⟩ := Option.map_eq_some_iff.mp given
    obtain ⟨front, split⟩ := List.getLast?_eq_some_iff.mp last
    refine ⟨least, List.mem_of_getLast? last, rfl, ?_⟩
    intro tx member
    have descending := account.descending
    rw [split] at member descending
    rcases List.mem_append.mp member with earlier | here
    · have below := (List.pairwise_append.mp descending).2.2 tx earlier least List.mem_cons_self
      omega
    · rw [List.mem_singleton.mp here]
  · intro unknown _
    have nothing : history = [] := List.getLast?_eq_none_iff.mp (Option.map_eq_none_iff.mp unknown)
    rw [nothing]
    exact List.take_nil

def sampleTransfer (id timestamp : Nat) : IndexTransactionWithId :=
  ⟨some (id : Int), .transfer "sender" "faucet" (some 1), some timestamp, none, none⟩

def sampleListing : List IndexTransactionWithId :=
  [sampleTransfer 9 30, sampleTransfer 4 20, sampleTransfer 2 20]

def sampleLoad : LoadOptions := ⟨2, 2, none, [], none, some 20⟩

theorem sampleListing_account : AccountHistory sampleListing where
  ids := by
    intro tx member
    simp only [sampleListing, List.mem_cons, List.not_mem_nil, or_false] at member
    rcases member with rfl | rfl | rfl
    · exact ⟨9, rfl, by decide⟩
    · exact ⟨4, rfl, by decide⟩
    · exact ⟨2, rfl, by decide⟩
  descending := by decide
  chronological := by
    simp [sampleListing, sampleTransfer, transactionTimestampNanos]

theorem transfer_listing_complete_of_sample :
    TransferListing id "faucet" sampleLoad sampleListing (fullPages sampleListing 2) :=
  transfer_listing_complete id "faucet" sampleLoad (by decide) (by decide) sampleListing
    sampleListing_account (fullPages sampleListing 2)
    (fullPages_serve sampleListing_account (by decide))

/-- A page cap that is no safe integer is refused, and a page may repeat an id. -/
theorem transfer_listing_refused :
    AccountHistory [] ∧ ServesHistory [] 1 (fullPages [] 1) ∧
      loadIncomingIcpTransfersFromIndex id ⟨1, 1, some 9007199254740992, [], none, none⟩
        (some (fullPages [] 1)) (some "faucet") = .error "ICP index page count must be finite" ∧
      nextIndexPageStart ⟨some [sampleTransfer 5 30, sampleTransfer 5 30], none⟩ none 2 =
        .ok (some 5) := by
  have account : AccountHistory [] :=
    ⟨fun _ here => absurd here List.not_mem_nil, List.Pairwise.nil, List.Pairwise.nil⟩
  exact ⟨account, fullPages_serve account (by decide), by decide, by decide⟩

end JupiterSuite.Frontend
