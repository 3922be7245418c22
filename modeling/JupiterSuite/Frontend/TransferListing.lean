import JupiterSuite.Frontend.IndexTransactions
import Mathlib.Data.List.Pairwise

/-! The listing of incoming transfers holds the newest ones, and all of them unless it says that it
is truncated. -/

namespace JupiterSuite.Frontend

open Base

def idOf (tx : IndexTransactionWithId) : Int := tx.id.getD 0

structure AccountHistory (history : List IndexTransactionWithId) : Prop where
  ids : ∀ tx ∈ history, ∃ id : Nat, tx.id = some (id : Int) ∧ id ≤ u64Max
  descending : history.Pairwise fun newer older => idOf older < idOf newer
  chronological : history.Pairwise fun newer older => ∀ before now,
    transactionTimestampNanos older.transaction = some before →
      transactionTimestampNanos newer.transaction = some now → before ≤ now

def olderThan (start : Option Nat) (history : List IndexTransactionWithId) :
    List IndexTransactionWithId :=
  history.filter fun tx => start.all fun bound : Nat => decide (idOf tx < (bound : Int))

/-- A page behind an exclusive start. It may be cut short of the page size, but then it comes with
the oldest id. -/
structure ServedPage (history : List IndexTransactionWithId) (pageSize : Nat) (start : Option Nat)
    (transactions : List IndexTransactionWithId) (response : IndexResponse) : Prop where
  listed : response.transactions = some transactions
  newest : transactions <+: olderThan start history
  bounded : transactions.length ≤ pageSize
  advances : olderThan start history ≠ [] → transactions ≠ []
  oldest : ∀ value, response.oldestTxId = some value →
    ∃ least ∈ history, value = least.id ∧ ∀ tx ∈ history, idOf least ≤ idOf tx
  short : response.oldestTxId = none → transactions.length < pageSize →
    transactions = olderThan start history

/-! ## The start of the next page -/

variable {id : Nat} {tx : IndexTransactionWithId}
variable {final : IndexTransactionWithId} {front : List IndexTransactionWithId}
  {oldest : Option Nat}

section NextStart

variable {history transactions : List IndexTransactionWithId} {response : IndexResponse}
  {start previous next : Option Nat} {pageSize : Nat} {isFirst : Bool}

theorem blockId_ok {value : Option Int} (valid : blockId value = .ok id) :
    value = some (id : Int) ∧ id ≤ u64Max := by
  cases value with
  | none => cases valid
  | some number =>
      simp only [blockId] at valid
      split at valid
      · cases valid
      · cases valid
        rename_i range
        have back : (number.toNat : Int) = number := Int.toNat_of_nonneg (by omega)
        exact ⟨by rw [back], by omega⟩

theorem blockId_of_nat (small : id ≤ u64Max) : blockId (some (id : Int)) = .ok id := by
  have range : ¬((id : Int) < 0 ∨ (u64Max : Int) < id) := by omega
  simp only [blockId, if_neg range, Int.toNat_natCast]

/-- What the loop over the ids accepts: none increases, and the first stays behind the start. -/
structure Descended (previous : Option Nat) (isFirst : Bool)
    (transactions : List IndexTransactionWithId) (last : Option Nat) : Prop where
  ids : ∀ tx ∈ transactions, ∃ id : Nat, tx.id = some (id : Int) ∧ id ≤ u64Max
  ordered : transactions.Pairwise fun earlier later => idOf later ≤ idOf earlier
  behind : ∀ bound, previous = some bound → ∀ tx ∈ transactions,
    idOf tx ≤ bound ∧ (isFirst = true → idOf tx < bound)
  last : last = (transactions.getLast?.map fun tx => (idOf tx).toNat).or previous

theorem descend_ok {last : Option Nat}
    (descended : descend previous isFirst transactions = .ok last) :
    Descended previous isFirst transactions last := by
  induction transactions generalizing previous isFirst with
  | nil =>
      cases descended
      exact ⟨fun _ here => absurd here List.not_mem_nil, List.Pairwise.nil,
        fun _ _ _ here => absurd here List.not_mem_nil, rfl⟩
  | cons tx rest ih =>
      rw [descend] at descended
      cases valid : blockId tx.id with
      | error thrown =>
          rw [valid] at descended
          cases descended
      | ok id =>
          rw [valid] at descended
          dsimp only at descended
          split at descended
          · cases descended
          · rename_i allowed
            have later := ih descended
            have ⟨shown, small⟩ := blockId_ok valid
            have same : idOf tx = id := by rw [idOf, shown]; rfl
            refine ⟨?_, ?_, ?_, ?_⟩
            · intro other member
              rcases List.mem_cons.mp member with rfl | after
              · exact ⟨id, shown, small⟩
              · exact later.ids other after
            · refine List.pairwise_cons.mpr ⟨?_, later.ordered⟩
              intro other after
              rw [same]
              exact (later.behind id rfl other after).1
            · intro bound started other member
              simp only [started, Option.any_some, Bool.not_eq_true, Bool.or_eq_false_iff,
                decide_eq_false_iff_not, Bool.and_eq_false_iff] at allowed
              have first : idOf tx ≤ bound ∧ (isFirst = true → idOf tx < bound) := by
                rw [same]
                refine ⟨by omega, ?_⟩
                intro leading
                have apart := allowed.2.resolve_left (by simp [leading])
                omega
              rcases List.mem_cons.mp member with rfl | after
              · exact first
              · have below := (later.behind id rfl other after).1
                rw [← same] at below
                refine ⟨by omega, ?_⟩
                intro leading
                have strict := first.2 leading
                omega
            · rw [later.last]
              cases rest with
              | nil => simp [same]
              | cons other rest => simp [List.getLast?_cons]

theorem descend_served (previous : Option Nat) (isFirst : Bool)
    (ids : ∀ tx ∈ transactions, ∃ id : Nat, tx.id = some (id : Int) ∧ id ≤ u64Max)
    (descending : transactions.Pairwise fun newer older => idOf older < idOf newer)
    (behind : ∀ bound, previous = some bound → ∀ tx ∈ transactions, idOf tx < bound) :
    ∃ last, descend previous isFirst transactions = .ok last := by
  induction transactions generalizing previous isFirst with
  | nil => exact ⟨previous, rfl⟩
  | cons tx rest ih =>
      have ⟨above, ordered⟩ := List.pairwise_cons.mp descending
      obtain ⟨id, shown, small⟩ := ids tx List.mem_cons_self
      have same : idOf tx = id := by rw [idOf, shown]; rfl
      have allowed : (previous.any fun bound =>
          decide (bound < id) || (isFirst && decide (id = bound))) = false := by
        cases previous with
        | none => rfl
        | some bound =>
            have strict := behind bound rfl tx List.mem_cons_self
            rw [same] at strict
            simp only [Option.any_some, Bool.or_eq_false_iff, decide_eq_false_iff_not,
              Bool.and_eq_false_iff]
            exact ⟨by omega, .inr (by omega)⟩
      have later := ih (some id) false
        (fun other member => ids other (List.mem_cons_of_mem tx member)) ordered
        (by
          rintro bound ⟨rfl⟩ other member
          rw [← same]
          exact above other member)
      rw [descend, shown, blockId_of_nat small]
      simp only [allowed, Bool.false_eq_true, if_false]
      exact later

/-- What an accepted page is like: its ids do not increase, each is below the start, and the next
start, if any, is the last of them. -/
structure Advances (response : IndexResponse) (start : Option Nat) (pageSize : Nat)
    (next : Option Nat) : Prop where
  listed : ∃ transactions, response.transactions = some transactions ∧
    transactions.length ≤ pageSize ∧
    (transactions.Pairwise fun earlier later => idOf later ≤ idOf earlier) ∧
    (∀ bound, start = some bound → ∀ tx ∈ transactions, idOf tx < bound) ∧
    ∀ bound, next = some bound → ∃ last, transactions.getLast? = some last ∧
      last.id = some (bound : Int)
  below : ∀ from_here bound, start = some from_here → next = some bound → bound < from_here

theorem nextIndexPageStart_advances (accepted : nextIndexPageStart response start pageSize = .ok next) :
    Advances response start pageSize next := by
  rw [nextIndexPageStart] at accepted
  split at accepted
  · cases accepted
  · rename_i transactions listed
    split at accepted
    · cases accepted
    · rename_i fits
      split at accepted
      · cases accepted
      · cases accepted
      · rename_i last oldest descended _
        have order := descend_ok descended
        have behind : ∀ bound, start = some bound → ∀ tx ∈ transactions, idOf tx < bound :=
          fun bound started tx member => (order.behind bound started tx member).2 rfl
        have chosen : ∀ bound, next = some bound → ∃ final, transactions.getLast? = some final ∧
            final.id = some (bound : Int) := by
          intro bound given
          rw [given] at accepted
          split at accepted
          · split at accepted
            · cases accepted
            · cases accepted
          · rename_i present
            split at accepted
            · cases accepted
            · split at accepted
              · cases accepted
              · have reached := Except.ok.inj accepted
                have shown := order.last
                rcases List.eq_nil_or_concat' transactions with rfl | ⟨front, final, rfl⟩
                · simp at present
                · obtain ⟨id, known, _⟩ := order.ids final (by simp)
                  refine ⟨final, List.getLast?_concat, ?_⟩
                  rw [reached, List.getLast?_concat, Option.map_some, Option.some_or, idOf, known,
                    Option.getD_some, Int.toNat_natCast, Option.some.injEq] at shown
                  rw [known, shown]
        refine ⟨⟨transactions, listed, Nat.le_of_not_lt fits, order.ordered, behind, chosen⟩, ?_⟩
        intro from_here bound started given
        obtain ⟨final, found, known⟩ := chosen bound given
        have strict := behind from_here started final (List.mem_of_getLast? found)
        rw [idOf, known] at strict
        exact Int.ofNat_lt.mp strict

theorem nextIndexPageStart_rejects {bound : Nat}
    (listed : response.transactions = some transactions) (started : start = some bound)
    (member : tx ∈ transactions) (stalled : bound ≤ idOf tx) :
    ∃ thrown, nextIndexPageStart response start pageSize = .error thrown := by
  cases outcome : nextIndexPageStart response start pageSize with
  | error thrown => exact ⟨thrown, rfl⟩
  | ok next =>
      obtain ⟨others, same, _, _, behind, _⟩ := (nextIndexPageStart_advances outcome).listed
      rw [listed] at same
      cases same
      have strict := behind bound started tx member
      omega

theorem mem_olderThan (member : tx ∈ olderThan start history) :
    tx ∈ history ∧ ∀ bound, start = some bound → idOf tx < bound := by
  have ⟨here, below⟩ := List.mem_filter.mp member
  refine ⟨here, ?_⟩
  rintro bound rfl
  exact of_decide_eq_true below

structure OldestKnown (history : List IndexTransactionWithId) (response : IndexResponse)
    (oldest : Option Nat) : Prop where
  least : ∀ id, oldest = some id → ∃ tx ∈ history, idOf tx = id ∧
    ∀ other ∈ history, idOf tx ≤ idOf other
  absent : oldest = none → response.oldestTxId = none

theorem oldestId_served (account : AccountHistory history)
    (served : ServedPage history pageSize start transactions response) :
    ∃ oldest, oldestId response.oldestTxId = .ok oldest ∧ OldestKnown history response oldest := by
  cases given : response.oldestTxId with
  | none =>
      refine ⟨none, rfl, ?_, fun _ => given⟩
      intro id impossible
      cases impossible
  | some value =>
      obtain ⟨tx, member, rfl, least⟩ := served.oldest value given
      obtain ⟨id, identified, small⟩ := account.ids tx member
      have same : idOf tx = id := by rw [idOf, identified]; rfl
      refine ⟨some id, ?_, ?_, ?_⟩
      · rw [oldestId, identified, blockId_of_nat small]
        rfl
      · rintro _ ⟨rfl⟩
        exact ⟨tx, member, same, least⟩
      · intro impossible
        cases impossible

theorem rest_older (account : AccountHistory history)
    (served : ServedPage history pageSize start transactions response)
    (split : transactions = front ++ [final]) (member : tx ∈ olderThan start history)
    (outside : tx ∉ transactions) : idOf tx < idOf final := by
  have descending : (olderThan start history).Pairwise fun newer older =>
      idOf older < idOf newer := account.descending.filter _
  obtain ⟨rest, whole⟩ := served.newest
  rw [← whole] at member descending
  have later := (List.mem_append.mp member).resolve_left outside
  have final_here : final ∈ transactions := by
    rw [split]
    simp
  exact (List.pairwise_append.mp descending).2.2 final final_here tx later

theorem served_whole (account : AccountHistory history)
    (served : ServedPage history pageSize start transactions response)
    (covered : ∀ tx ∈ olderThan start history, tx ∈ transactions) :
    transactions = olderThan start history := by
  have descending : (olderThan start history).Pairwise fun newer older =>
      idOf older < idOf newer := account.descending.filter _
  obtain ⟨rest, whole⟩ := served.newest
  cases rest with
  | nil => rw [← whole, List.append_nil]
  | cons tx rest =>
      have member : tx ∈ olderThan start history := by
        rw [← whole]
        simp
      rw [← whole] at descending
      have crossed := (List.pairwise_append.mp descending).2.2 tx (covered tx member) tx
        List.mem_cons_self
      omega

theorem empty_page_complete (known : OldestKnown history response oldest)
    (nothing : olderThan start history = []) :
    (oldest.any fun least => start.all fun bound => decide (least < bound)) = false := by
  cases oldest with
  | none => rfl
  | some id =>
      obtain ⟨tx, member, same, _⟩ := known.least id rfl
      by_contra open_end
      rw [Bool.not_eq_false] at open_end
      have passes : (start.all fun bound : Nat => decide (idOf tx < (bound : Int))) = true := by
        cases start with
        | none => rfl
        | some bound =>
            have below : id < bound := of_decide_eq_true open_end
            exact decide_eq_true (by omega)
      have missed : tx ∈ olderThan start history := List.mem_filter.mpr ⟨member, passes⟩
      rw [nothing] at missed
      cases missed

theorem ended_whole (account : AccountHistory history)
    (served : ServedPage history pageSize start transactions response)
    (known : OldestKnown history response oldest) (split : transactions = front ++ [final])
    (same : idOf final = id) (ended : some id = some 0 ∨ some id = oldest ∨
      (oldest = none ∧ transactions.length < pageSize)) :
    transactions = olderThan start history := by
  rcases ended with zero | at_oldest | ⟨unknown, cut⟩
  · apply served_whole account served
    intro tx member
    by_contra outside
    have below := rest_older account served split member outside
    obtain ⟨number, identified, _⟩ := account.ids tx (mem_olderThan member).1
    have number_same : idOf tx = number := by rw [idOf, identified]; rfl
    cases zero
    omega
  · apply served_whole account served
    intro tx member
    by_contra outside
    have below := rest_older account served split member outside
    obtain ⟨_, _, least_same, minimal⟩ := known.least id at_oldest.symm
    have order := minimal tx (mem_olderThan member).1
    omega
  · exact served.short (known.absent unknown) cut

/-- On a served page the next start is the last id, and none only at the end of the history. -/
theorem nextIndexPageStart_served (account : AccountHistory history)
    (served : ServedPage history pageSize start transactions response) :
    ∃ next, nextIndexPageStart response start pageSize = .ok next ∧
      (next = none → transactions = olderThan start history) := by
  have within : ∀ tx ∈ transactions, tx ∈ olderThan start history :=
    fun tx member => served.newest.subset member
  have ids : ∀ tx ∈ transactions, ∃ id : Nat, tx.id = some (id : Int) ∧ id ≤ u64Max :=
    fun tx member => account.ids tx (mem_olderThan (within tx member)).1
  have descending : transactions.Pairwise fun newer older => idOf older < idOf newer :=
    (account.descending.filter _).sublist served.newest.sublist
  have behind : ∀ bound, start = some bound → ∀ tx ∈ transactions, idOf tx < bound :=
    fun bound started tx member => (mem_olderThan (within tx member)).2 bound started
  obtain ⟨last, descended⟩ := descend_served start true ids descending behind
  obtain ⟨oldest, read, known⟩ := oldestId_served account served
  rw [nextIndexPageStart, served.listed]
  simp only [if_neg (Nat.not_lt_of_le served.bounded), descended, read]
  rcases List.eq_nil_or_concat' transactions with empty | ⟨front, final, split⟩
  · have nothing : olderThan start history = [] := by
      by_contra more
      exact served.advances more empty
    rw [empty]
    simp only [List.isEmpty_nil, if_true, empty_page_complete known nothing, Bool.false_eq_true,
      if_false]
    exact ⟨none, rfl, fun _ => nothing.symm⟩
  · have final_here : final ∈ transactions := by
      rw [split]
      simp
    obtain ⟨id, identified, _⟩ := ids final final_here
    have same : idOf final = id := by rw [idOf, identified]; rfl
    have reached : last = some id := by
      rw [(descend_ok descended).last, split, List.getLast?_concat, Option.map_some, Option.some_or,
        same, Int.toNat_natCast]
    have present : transactions.isEmpty = false := by
      rw [split]
      simp
    have not_before : (oldest.any fun least => last.any fun last => decide (last < least)) =
        false := by
      cases oldest with
      | none => rfl
      | some least_id =>
          obtain ⟨tx, _, least_same, minimal⟩ := known.least least_id rfl
          have order := minimal final (mem_olderThan (within final final_here)).1
          rw [reached]
          simp only [Option.any_some, decide_eq_false_iff_not]
          omega
    simp only [present, not_before, Bool.false_eq_true, if_false]
    split
    · rename_i ended
      rw [reached] at ended
      exact ⟨none, rfl, fun _ => ended_whole account served known split same ended⟩
    · refine ⟨last, rfl, ?_⟩
      rw [reached]
      intro impossible
      cases impossible

end NextStart

end JupiterSuite.Frontend
