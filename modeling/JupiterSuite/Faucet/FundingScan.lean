import JupiterSuite.Faucet.FundingSystem
import Mathlib.Data.List.TakeWhile

/-! What a scan has read of the history of the payout account, and the candidate it keeps. -/

namespace JupiterSuite.Faucet

open Base

abbrev Descending (history : List IndexTx) : Prop :=
  history.Pairwise fun newer older => older.id < newer.id

section Candidates

variable (config : FaucetConfig)

def JudgedTx.amount (judged : JudgedTx) : Option Nat :=
  qualifyingAmount config judged.feeE8s judged.tx

def JudgedTx.IsTranche (judged : JudgedTx) (tranche : FundingTranche) : Prop :=
  judged.tx.id = tranche.txId ∧ judged.amount config = some tranche.amountE8s ∧
    indexTxTimestampNanos judged.tx = some tranche.timestampNanos

/-- The oldest record that qualified at the fee it was read with. -/
def OldestQualifying (judged : List JudgedTx) (tranche : FundingTranche) : Prop :=
  (∃ entry ∈ judged, entry.IsTranche config tranche) ∧
    ∀ entry ∈ judged, entry.amount config ≠ none → tranche.txId ≤ entry.tx.id

def NoneQualifying (judged : List JudgedTx) : Prop :=
  ∀ entry ∈ judged, entry.amount config = none

/-- The candidate of a scan. -/
def Selected (judged : List JudgedTx) : Option FundingTranche → Prop
  | none => NoneQualifying config judged
  | some tranche => OldestQualifying config judged tranche

variable {config} {judged : List JudgedTx} {candidate : Option FundingTranche} {entry : JudgedTx}

theorem selected_skip (selected : Selected config judged candidate)
    (ineligible : entry.amount config = none) :
    Selected config (judged ++ [entry]) candidate := by
  cases candidate with
  | none =>
      intro other member
      rcases List.mem_append.mp member with old | new
      · exact selected other old
      · rw [List.mem_singleton.mp new]
        exact ineligible
  | some tranche =>
      rcases selected with ⟨⟨chosen, member, is⟩, least⟩
      refine ⟨⟨chosen, List.mem_append_left _ member, is⟩, ?_⟩
      intro other found qualifies
      rcases List.mem_append.mp found with old | new
      · exact least other old qualifies
      · rw [List.mem_singleton.mp new] at qualifies
        exact absurd ineligible qualifies

theorem selected_take {tranche : FundingTranche} (selected : Selected config judged candidate)
    (is : entry.IsTranche config tranche) :
    Selected config (judged ++ [entry]) (olderCandidate candidate tranche) := by
  have last : entry ∈ judged ++ [entry] := by simp
  cases candidate with
  | none =>
      refine ⟨⟨entry, last, is⟩, ?_⟩
      intro other found qualifies
      rcases List.mem_append.mp found with old | new
      · exact absurd (selected other old) qualifies
      · rw [List.mem_singleton.mp new, is.1]
  | some older =>
      rcases selected with ⟨⟨chosen, member, was⟩, least⟩
      simp only [olderCandidate]
      split
      · rename_i below
        refine ⟨⟨entry, last, is⟩, ?_⟩
        intro other found qualifies
        rcases List.mem_append.mp found with old | new
        · exact le_trans (le_of_lt below) (least other old qualifies)
        · rw [List.mem_singleton.mp new, is.1]
      · rename_i above
        refine ⟨⟨chosen, List.mem_append_left _ member, was⟩, ?_⟩
        intro other found qualifies
        rcases List.mem_append.mp found with old | new
        · exact least other old qualifies
        · rw [List.mem_singleton.mp new, is.1]
          exact le_of_not_gt above

end Candidates

section Transactions

variable {config : FaucetConfig} {feeE8s : Nat} {lastProcessed : Option Nat}

def isUnprocessed (lastProcessed : Option Nat) (tx : IndexTx) : Bool :=
  !isProcessed lastProcessed tx

def judgeAt (feeE8s : Nat) (txs : List IndexTx) : List JudgedTx := txs.map fun tx => ⟨tx, feeE8s⟩

@[simp]
theorem judgeAt_tx (txs : List IndexTx) : (judgeAt feeE8s txs).map JudgedTx.tx = txs := by
  simp [judgeAt, Function.comp_def]

theorem judgedBy_eq (run : DiscoveryRun) (page : IndexPage) :
    judgedBy run page =
      judgeAt run.feeE8s (page.transactions.takeWhile (isUnprocessed run.lastProcessed)) := rfl

theorem scanTransactions_selected {judged : List JudgedTx} {candidate after : Option FundingTranche}
    {txs : List IndexTx} {reached : Bool} (selected : Selected config judged candidate)
    (scanned : scanTransactions config feeE8s lastProcessed candidate txs = some (after, reached)) :
    Selected config
        (judged ++ judgeAt feeE8s (txs.takeWhile (isUnprocessed lastProcessed))) after ∧
      (reached = false → txs.takeWhile (isUnprocessed lastProcessed) = txs) ∧
      (reached = true → ∃ tx ∈ txs, isProcessed lastProcessed tx = true) := by
  induction txs generalizing judged candidate with
  | nil =>
      cases scanned
      simpa [judgeAt] using selected
  | cons tx rest ih =>
      simp only [scanTransactions] at scanned
      split at scanned
      · rename_i processed
        cases scanned
        simp only [List.takeWhile, isUnprocessed, processed, Bool.not_true]
        refine ⟨by simpa [judgeAt] using selected, ?_, fun _ => ⟨tx, by simp, processed⟩⟩
        intro no
        cases no
      · rename_i fresh
        have unprocessed : isUnprocessed lastProcessed tx = true := by
          simpa [isUnprocessed] using fresh
        have step : ∀ next, Selected config (judged ++ [⟨tx, feeE8s⟩]) next →
            scanTransactions config feeE8s lastProcessed next rest = some (after, reached) →
            Selected config (judged ++
                judgeAt feeE8s ((tx :: rest).takeWhile (isUnprocessed lastProcessed))) after ∧
              (reached = false →
                (tx :: rest).takeWhile (isUnprocessed lastProcessed) = tx :: rest) ∧
              (reached = true → ∃ entry ∈ tx :: rest, isProcessed lastProcessed entry = true) := by
          intro next chosen went
          rcases ih chosen went with ⟨all, unread, stopped⟩
          rw [List.takeWhile_cons_of_pos unprocessed]
          refine ⟨by simpa [judgeAt] using all, ?_, ?_⟩
          · intro no
            rw [unread no]
          · intro yes
            rcases stopped yes with ⟨entry, member, processed⟩
            exact ⟨entry, List.mem_cons_of_mem _ member, processed⟩
        cases amount : qualifyingAmount config feeE8s tx with
        | none =>
            simp only [amount] at scanned
            exact step candidate (selected_skip selected amount) scanned
        | some amountE8s =>
            simp only [amount] at scanned
            cases timestamp : indexTxTimestampNanos tx with
            | none => simp [timestamp] at scanned
            | some timestampNanos =>
                simp only [timestamp] at scanned
                have is : JudgedTx.IsTranche config ⟨tx, feeE8s⟩
                    ⟨tx.id, timestampNanos, amountE8s⟩ := ⟨rfl, amount, timestamp⟩
                exact step _ (selected_take selected is) scanned

end Transactions

section Pages

variable {history begun rest : List IndexTx}

theorem isProcessed_older {lastProcessed : Option Nat} {newer older : IndexTx}
    (below : older.id < newer.id) (processed : isProcessed lastProcessed newer = true) :
    isProcessed lastProcessed older = true := by
  cases lastProcessed with
  | none => cases processed
  | some last =>
      simp only [isProcessed, Option.any_some, decide_eq_true_eq] at processed ⊢
      omega

theorem takeWhile_unprocessed (descending : Descending history) (lastProcessed : Option Nat) :
    history.takeWhile (isUnprocessed lastProcessed) =
      history.filter (isUnprocessed lastProcessed) := by
  induction history with
  | nil => rfl
  | cons tx rest ih =>
      have apart := List.pairwise_cons.mp descending
      by_cases unprocessed : isUnprocessed lastProcessed tx = true
      · rw [List.takeWhile_cons_of_pos unprocessed, List.filter_cons_of_pos unprocessed,
          ih apart.2]
      · have processed : isProcessed lastProcessed tx = true := by
          simpa [isUnprocessed] using unprocessed
        rw [List.takeWhile_cons_of_neg unprocessed, List.filter_cons_of_neg unprocessed]
        symm
        rw [List.filter_eq_nil_iff]
        intro older member
        simp [isUnprocessed, isProcessed_older (apart.1 older member) processed]

theorem belowCursor_split {cursor : Nat} {read : List IndexTx}
    (descending : Descending (read ++ rest))
    (last : read.getLast?.map IndexTx.id = some cursor) :
    belowCursor (some cursor) (read ++ rest) = rest := by
  rcases Option.map_eq_some_iff.mp last with ⟨oldest, found, same⟩
  have ends : oldest ∈ read := List.mem_of_getLast? found
  have parts := List.pairwise_append.mp descending
  simp only [belowCursor, List.filter_append]
  have above : read.filter (fun tx => decide (tx.id < cursor)) = [] := by
    rw [List.filter_eq_nil_iff]
    intro tx member
    have shape : read = read.dropLast ++ [oldest] :=
      (List.dropLast_append_getLast? oldest found).symm
    rw [shape] at member parts
    simp only [decide_eq_true_eq, not_lt]
    rcases List.mem_append.mp member with before | here
    · have below := (List.pairwise_append.mp parts.1).2.2 tx before oldest (by simp)
      omega
    · rw [List.mem_singleton.mp here]
      omega
  have below : rest.filter (fun tx => decide (tx.id < cursor)) = rest := by
    rw [List.filter_eq_self]
    intro tx member
    have under := parts.2.2 oldest ends tx member
    simp only [decide_eq_true_eq]
    omega
  rw [above, below, List.nil_append]

theorem take_eq_all {read : List IndexTx} {count : Nat} {last : IndexTx}
    (descending : Descending (read ++ rest)) (found : (rest.take count).getLast? = some last)
    (oldest : some last.id = (read ++ rest).getLast?.map IndexTx.id) : rest.take count = rest := by
  have member : last ∈ rest.take count := List.mem_of_getLast? found
  have split : rest.take count ++ rest.drop count = rest := List.take_append_drop count rest
  cases remaining : (rest.drop count).getLast? with
  | none =>
      have empty : rest.drop count = [] := List.getLast?_eq_none_iff.mp remaining
      rw [empty, List.append_nil] at split
      exact split
  | some tx =>
      have ordered : Descending rest := (List.pairwise_append.mp descending).2.1
      rw [← split] at ordered
      have under := (List.pairwise_append.mp ordered).2.2 last member tx
        (List.mem_of_getLast? remaining)
      have ends : (read ++ rest).getLast? = some tx := by
        rw [← split, ← List.append_assoc, List.getLast?_append, remaining]
        rfl
      rw [ends] at oldest
      simp only [Option.map_some, Option.some.injEq] at oldest
      omega

theorem takeWhile_take {p : IndexTx → Bool} {count : Nat} {tx : IndexTx}
    (member : tx ∈ history.take count) (stops : p tx = false) :
    (history.take count).takeWhile p = history.takeWhile p := by
  have short : ((history.take count).takeWhile p).length ≠ (history.take count).length := by
    intro same
    have all := (List.takeWhile_sublist p).eq_of_length same
    rw [List.takeWhile_eq_self_iff.mp all tx member] at stops
    cases stops
  have split : (history.take count ++ history.drop count).takeWhile p =
      (history.take count).takeWhile p := by
    rw [List.takeWhile_append, if_neg short]
  rw [List.take_append_drop] at split
  exact split.symm

theorem validateHistoryPage_some {pageSize : Nat} {page : IndexPage}
    {cursor expectedOldest : Option Nat} {exhausted : Bool}
    (valid : validateHistoryPage pageSize page cursor expectedOldest = some exhausted) :
    (page.transactions = [] ∧ exhausted = true ∧ cursor = page.oldestTxId) ∨
      ∃ last, page.transactions.getLast? = some last ∧
        exhausted = decide (some last.id = page.oldestTxId) := by
  simp only [validateHistoryPage] at valid
  split at valid
  · cases valid
  · split at valid
    · rename_i empty
      refine .inl ⟨List.getLast?_eq_none_iff.mp empty, ?_⟩
      cases cursor with
      | none =>
          cases oldest : page.oldestTxId with
          | none => simpa [oldest, eq_comm] using valid
          | some _ => simp [oldest] at valid
      | some _ =>
          cases oldest : page.oldestTxId with
          | none => simp [oldest] at valid
          | some _ =>
              simp only [oldest, Option.ite_none_right_eq_some, Option.some.injEq] at valid
              exact ⟨valid.2.symm, congrArg some valid.1⟩
    · rename_i last found
      cases valid
      exact .inr ⟨last, found, rfl⟩

end Pages

section Scans

variable {config : FaucetConfig} {history begun : List IndexTx} {judged : List JudgedTx}
  {scan : FundingScanState} {run : DiscoveryRun} {observedOldest : Option Nat} {count : Nat}
  {limit : Nat}

/-- What a scan has read is the top of the history of its start, and none of it is processed. -/
structure ScanRecord (config : FaucetConfig) (history begun : List IndexTx)
    (judged : List JudgedTx) (scan : FundingScanState) : Prop where
  arrived : ∃ newer, history = newer ++ begun
  started : scan.cursor = none → begun = history
  prefixed : ∃ rest, begun = judged.map JudgedTx.tx ++ rest
  reached : (judged.map JudgedTx.tx).getLast?.map IndexTx.id = scan.cursor
  fresh : ∀ entry ∈ judged,
    isUnprocessed scan.anchorLastProcessedFundingTxId entry.tx = true
  selected : Selected config judged scan.candidate

theorem scanRecord_fresh (config : FaucetConfig) (history : List IndexTx)
    (lastProcessed : Option Nat) :
    ScanRecord config history history [] (freshFundingScan lastProcessed) where
  arrived := ⟨[], rfl⟩
  started := fun _ => rfl
  prefixed := ⟨history, rfl⟩
  reached := rfl
  fresh := by simp
  selected := by
    intro entry member
    cases member

namespace ScanRecord

theorem unread (record : ScanRecord config history begun judged scan)
    (descending : Descending history) :
    ∃ rest, begun = judged.map JudgedTx.tx ++ rest ∧ belowCursor scan.cursor history = rest := by
  rcases record.arrived with ⟨newer, same⟩
  rcases record.prefixed with ⟨rest, split⟩
  refine ⟨rest, split, ?_⟩
  cases cursor : scan.cursor with
  | none =>
      have nothing : judged.map JudgedTx.tx = [] := by
        have reached := record.reached
        rw [cursor] at reached
        simpa using reached
      rw [nothing, List.nil_append] at split
      have whole := record.started cursor
      rw [belowCursor, ← whole, split]
  | some last =>
      have reached := record.reached
      rw [cursor] at reached
      have shape : history = (newer ++ judged.map JudgedTx.tx) ++ rest := by
        rw [same, split, List.append_assoc]
      rw [shape]
      apply belowCursor_split
      · rw [← shape]
        exact descending
      · rw [List.getLast?_append]
        rcases Option.map_eq_some_iff.mp reached with ⟨tx, found, _⟩
        rw [found] at reached ⊢
        exact reached

theorem exhausted (record : ScanRecord config history begun judged scan)
    (descending : Descending history) {rest : List IndexTx}
    (split : begun = judged.map JudgedTx.tx ++ rest)
    (page : (indexPage history scan.cursor count).transactions = rest.take count)
    (valid : validateHistoryPage limit (indexPage history scan.cursor count) scan.cursor
      observedOldest = some true) : rest.take count = rest := by
  rcases record.arrived with ⟨newer, same⟩
  have shape : history = (newer ++ judged.map JudgedTx.tx) ++ rest := by
    rw [same, split, List.append_assoc]
  rw [shape] at descending
  rcases validateHistoryPage_some valid with ⟨_, _, ends⟩ | ⟨last, found, ends⟩
  · have oldest : scan.cursor = history.getLast?.map IndexTx.id := ends
    cases remaining : rest.getLast? with
    | none => simp [List.getLast?_eq_none_iff.mp remaining]
    | some tx =>
        rw [shape, List.getLast?_append, remaining, ← record.reached] at oldest
        rcases Option.map_eq_some_iff.mp oldest with ⟨read, was, at_cursor⟩
        have below := (List.pairwise_append.mp descending).2.2 read
          (List.mem_append_right _ (List.mem_of_getLast? was)) tx (List.mem_of_getLast? remaining)
        omega
  · rw [page] at found
    apply take_eq_all descending found
    rw [← shape]
    exact of_decide_eq_true ends.symm

theorem arrive (record : ScanRecord config history begun judged scan) (tx : IndexTx)
    (moved : scan.cursor ≠ none) : ScanRecord config (tx :: history) begun judged scan where
  arrived := by
    rcases record.arrived with ⟨newer, same⟩
    exact ⟨tx :: newer, by rw [same, List.cons_append]⟩
  started := fun none => absurd none moved
  prefixed := record.prefixed
  reached := record.reached
  fresh := record.fresh
  selected := record.selected

end ScanRecord

theorem scanPage_cases {page : IndexPage} {outcome : ScanOutcome}
    (scanned : scanPage limit config run scan observedOldest page = outcome) :
    (∃ reason, outcome = .unreadable reason) ∨
      ∃ exhausted candidate reached,
        validateHistoryPage limit page scan.cursor observedOldest = some exhausted ∧
        scanTransactions config run.feeE8s run.lastProcessed scan.candidate page.transactions =
          some (candidate, reached) ∧
        outcome =
          if exhausted || reached then .complete candidate
          else
            .continued
              { scan with
                candidate := candidate
                cursor := (page.transactions.getLast?.map IndexTx.id).or scan.cursor }
              page.oldestTxId := by
  simp only [scanPage] at scanned
  split at scanned
  · exact .inl ⟨_, scanned.symm⟩
  · split at scanned
    · exact .inl ⟨_, scanned.symm⟩
    · rename_i exhausted valid
      split at scanned
      · exact .inl ⟨_, scanned.symm⟩
      · rename_i candidate reached went
        exact .inr ⟨exhausted, candidate, reached, valid, went, scanned.symm⟩

theorem scanPage_continued {next : FundingScanState} {oldest : Option Nat}
    (record : ScanRecord config history begun judged scan) (descending : Descending history)
    (anchored : scan.anchorLastProcessedFundingTxId = run.lastProcessed)
    (scanned : scanPage limit config run scan observedOldest
      (indexPage history scan.cursor count) = .continued next oldest) :
    ScanRecord config history begun
        (judged ++ judgedBy run (indexPage history scan.cursor count)) next ∧
      next.anchorLastProcessedFundingTxId = run.lastProcessed ∧ next.cursor ≠ none ∧
      oldest = history.getLast?.map IndexTx.id ∧
      judged.length <
        (judged ++ judgedBy run (indexPage history scan.cursor count)).length := by
  rcases scanPage_cases scanned with ⟨_, impossible⟩ | ⟨exhausted, candidate, reached, valid, went,
    shape⟩
  · cases impossible
  · rcases record.unread descending with ⟨rest, split, below⟩
    split at shape
    · cases shape
    · rename_i unfinished
      simp only [Bool.or_eq_true, not_or, Bool.not_eq_true] at unfinished
      cases shape
      have all := scanTransactions_selected record.selected went
      have kept := all.2.1 unfinished.2
      have page : (indexPage history scan.cursor count).transactions = rest.take count := by
        rw [indexPage, below]
      rcases validateHistoryPage_some valid with ⟨_, exhausted, _⟩ | ⟨last, found, _⟩
      · rw [unfinished.1] at exhausted
        cases exhausted
      · rw [judgedBy_eq, kept, found]
        rw [kept] at all
        refine ⟨?_, anchored, by simp, rfl, ?_⟩
        · constructor
          · exact record.arrived
          · intro none
            simp at none
          · refine ⟨rest.drop count, ?_⟩
            rw [List.map_append, judgeAt_tx, page, List.append_assoc, List.take_append_drop]
            exact split
          · rw [List.map_append, judgeAt_tx, List.getLast?_append, found]
            rfl
          · intro entry member
            rcases List.mem_append.mp member with old | new
            · exact record.fresh entry old
            · rcases List.mem_map.mp new with ⟨tx, within, rfl⟩
              rw [anchored]
              exact List.takeWhile_eq_self_iff.mp kept tx within
          · exact all.1
        · have some_read : (indexPage history scan.cursor count).transactions ≠ [] := by
            intro empty
            rw [empty] at found
            cases found
          have positive := List.length_pos_iff.mpr some_read
          simp only [List.length_append, judgeAt, List.length_map]
          omega

/-- A completed scan has read every unprocessed record of the history of its start. -/
theorem scanPage_complete {candidate : Option FundingTranche}
    (record : ScanRecord config history begun judged scan) (descending : Descending history)
    (anchored : scan.anchorLastProcessedFundingTxId = run.lastProcessed)
    (scanned : scanPage limit config run scan observedOldest
      (indexPage history scan.cursor count) = .complete candidate) :
    (judged ++ judgedBy run (indexPage history scan.cursor count)).map JudgedTx.tx =
        begun.filter (isUnprocessed run.lastProcessed) ∧
      Selected config (judged ++ judgedBy run (indexPage history scan.cursor count))
        candidate := by
  rcases scanPage_cases scanned with ⟨_, impossible⟩ | ⟨exhausted, found, reached, valid, went,
    shape⟩
  · cases impossible
  · rcases record.unread descending with ⟨rest, split, below⟩
    split at shape
    · rename_i finished
      cases shape
      have all := scanTransactions_selected record.selected went
      refine ⟨?_, all.1⟩
      have page : (indexPage history scan.cursor count).transactions = rest.take count := by
        rw [indexPage, below]
      have ordered : Descending begun := by
        rcases record.arrived with ⟨newer, same⟩
        rw [same] at descending
        exact (List.pairwise_append.mp descending).2.1
      have ordered_rest : Descending rest := by
        rw [split] at ordered
        exact (List.pairwise_append.mp ordered).2.1
      have whole : (rest.take count).takeWhile (isUnprocessed run.lastProcessed) =
          rest.takeWhile (isUnprocessed run.lastProcessed) := by
        rw [page] at all
        cases reached with
        | true =>
            rcases all.2.2 rfl with ⟨tx, member, processed⟩
            exact takeWhile_take member (by simp [isUnprocessed, processed])
        | false =>
            rw [Bool.or_false] at finished
            rw [finished] at valid
            rw [record.exhausted descending split page valid]
      rw [judgedBy_eq, page, whole, List.map_append, judgeAt_tx, split, List.filter_append,
        takeWhile_unprocessed ordered_rest]
      congr 1
      symm
      rw [List.filter_eq_self]
      intro tx member
      rcases List.mem_map.mp member with ⟨entry, present, rfl⟩
      rw [← anchored]
      exact record.fresh entry present
    · cases shape

end Scans
end JupiterSuite.Faucet
