import JupiterSuite.Faucet.FundingSound

/-! Discovery is exact for the history that its scan began with, every page moves it on, and the
jobs follow the tranches in order. -/

namespace JupiterSuite.Faucet

open Base

section Reports

variable {config : FaucetConfig} {report : FundingReport} {tranche : FundingTranche}

/-- A completed discovery tells whether the history of its start has a qualifying transfer above
the last processed one, and which is the oldest; what has arrived since is newer. -/
structure FundingReport.Exact (config : FaucetConfig) (report : FundingReport) : Prop where
  arrived : ∃ newer, report.present = newer ++ report.begun
  judged : report.judged.map JudgedTx.tx =
    report.begun.filter (isUnprocessed report.lastProcessed)
  found_iff : ∀ tranche, report.result = .found tranche ↔
    OldestQualifying config report.judged tranche
  empty_iff : report.result = .empty ↔ NoneQualifying config report.judged
  oldest : ∀ tranche, report.result = .found tranche → ∀ tx ∈ report.present,
    isUnprocessed report.lastProcessed tx = true → tx.id < tranche.txId →
    ∃ entry ∈ report.judged, entry.tx = tx ∧ entry.amount config = none

namespace FundingReport.Sound

theorem same_entry (sound : report.Sound config) {first second : JudgedTx}
    (left : first ∈ report.judged) (right : second ∈ report.judged)
    (same : first.tx.id = second.tx.id) : first = second := by
  rcases sound.arrived with ⟨newer, split⟩
  have descending := sound.descending
  rw [split] at descending
  have ordered : Descending (report.judged.map JudgedTx.tx) := by
    rw [sound.judged]
    exact (List.pairwise_append.mp descending).2.1.filter _
  have nodup : (report.judged.map fun entry => entry.tx.id).Nodup := by
    rw [List.Nodup, List.pairwise_map]
    exact (List.pairwise_map.mp ordered).imp fun below same => by omega
  exact List.inj_on_of_nodup_map nodup left right same

theorem oldest_unique (sound : report.Sound config) {other : FundingTranche}
    (left : OldestQualifying config report.judged tranche)
    (right : OldestQualifying config report.judged other) : tranche = other := by
  rcases left with ⟨⟨first, member, id, amount, timestamp⟩, least⟩
  rcases right with ⟨⟨second, member', id', amount', timestamp'⟩, least'⟩
  have below := least second member' (by rw [amount']; exact Option.some_ne_none _)
  have above := least' first member (by rw [amount]; exact Option.some_ne_none _)
  have same := sound.same_entry member member' (by omega)
  subst same
  have amounts := Option.some.inj (amount.symm.trans amount')
  have timestamps := Option.some.inj (timestamp.symm.trans timestamp')
  cases tranche
  cases other
  simp only [FundingTranche.mk.injEq] at *
  exact ⟨id.symm.trans id', timestamps, amounts⟩

theorem exact (sound : report.Sound config) : report.Exact config where
  arrived := sound.arrived
  judged := sound.judged
  found_iff := by
    intro tranche
    refine ⟨sound.found_iff, ?_⟩
    intro oldest
    rcases sound.result with ⟨candidate, result, selected⟩
    cases candidate with
    | none =>
        rcases oldest.1 with ⟨entry, member, _, amount, _⟩
        rw [selected entry member] at amount
        cases amount
    | some chosen =>
        rw [result, sound.oldest_unique oldest selected]
        rfl
  empty_iff := by
    rcases sound.result with ⟨candidate, result, selected⟩
    constructor
    · intro empty
      rw [discoveryOf_empty (result.symm.trans empty)] at selected
      exact selected
    · intro none
      cases candidate with
      | none => exact result
      | some chosen =>
          rcases selected.1 with ⟨entry, member, _, amount, _⟩
          rw [none entry member] at amount
          cases amount
  oldest := by
    intro tranche found tx member unprocessed below
    have oldest := sound.found_iff found
    rcases oldest.1 with ⟨chosen, chosen_member, same, _⟩
    have chosen_begun : chosen.tx ∈ report.begun := by
      have read : chosen.tx ∈ report.judged.map JudgedTx.tx :=
        List.mem_map.mpr ⟨chosen, chosen_member, rfl⟩
      rw [sound.judged] at read
      exact (List.mem_filter.mp read).1
    have begun : tx ∈ report.begun := by
      rcases sound.arrived with ⟨newer, split⟩
      have descending := sound.descending
      rw [split] at member descending
      rcases List.mem_append.mp member with new | old
      · have above := (List.pairwise_append.mp descending).2.2 tx new chosen.tx chosen_begun
        omega
      · exact old
    have read : tx ∈ report.judged.map JudgedTx.tx := by
      rw [sound.judged]
      exact List.mem_filter.mpr ⟨begun, unprocessed⟩
    rcases List.mem_map.mp read with ⟨entry, present, rfl⟩
    refine ⟨entry, present, rfl, ?_⟩
    by_contra qualifies
    have least := oldest.2 entry present qualifies
    omega

end FundingReport.Sound

end Reports

section Progress

variable {config : FaucetConfig} {history begun rest : List IndexTx} {judged : List JudgedTx}
  {scan : FundingScanState} {run : DiscoveryRun} {observedOldest : Option Nat} {count limit : Nat}

theorem strictlyDescending_of (txs : List IndexTx) (descending : Descending txs) :
    strictlyDescending txs = true := by
  induction txs with
  | nil => rfl
  | cons first rest ih =>
      have apart := List.pairwise_cons.mp descending
      cases rest with
      | nil => rfl
      | cons second others =>
          simp only [strictlyDescending, Bool.and_eq_true, decide_eq_true_eq]
          exact ⟨apart.1 second (by simp), ih apart.2⟩

theorem oldest_le {tx : IndexTx} (descending : Descending history) (member : tx ∈ history)
    {oldest : IndexTx} (last : history.getLast? = some oldest) : oldest.id ≤ tx.id := by
  have shape : history = history.dropLast ++ [oldest] :=
    (List.dropLast_append_getLast? oldest last).symm
  rw [shape] at descending member
  rcases List.mem_append.mp member with before | here
  · exact le_of_lt ((List.pairwise_append.mp descending).2.2 tx before oldest (by simp))
  · rw [List.mem_singleton.mp here]

theorem belowCursor_sublist (cursor : Option Nat) (history : List IndexTx) :
    (belowCursor cursor history).Sublist history := by
  cases cursor with
  | none => exact List.Sublist.refl history
  | some cursor => exact List.filter_sublist

/-- A page of the index is accepted if it holds a record when there is one behind the cursor, and
if the cursor is at the oldest record when there is none. -/
theorem slice_valid {cursor : Option Nat} (descending : Descending history)
    (some_asked : 0 < count) (within : count ≤ limit)
    (reached : belowCursor cursor history = [] → history.getLast?.map IndexTx.id = cursor)
    (consistent : ∀ id, observedOldest = some id → history.getLast?.map IndexTx.id = some id) :
    ∃ exhausted, validateHistoryPage limit (indexPage history cursor count) cursor
      observedOldest = some exhausted := by
  have part : (indexPage history cursor count).transactions.Sublist history :=
    (List.take_sublist _ _).trans (belowCursor_sublist _ _)
  have expected : (observedOldest.any fun id => decide
      ((indexPage history cursor count).oldestTxId ≠ some id)) = false := by
    cases observedOldest with
    | none => rfl
    | some id => simpa [indexPage] using consistent id rfl
  have short : decide (limit < (indexPage history cursor count).transactions.length) =
      false := by
    simp only [indexPage, List.length_take, decide_eq_false_iff_not, not_lt]
    omega
  have under : ((indexPage history cursor count).transactions.head?.any fun tx =>
      cursor.any fun id => decide (id ≤ tx.id)) = false := by
    cases cursor with
    | none => simp
    | some last =>
        cases head : (indexPage history (some last) count).transactions.head? with
        | none => rfl
        | some tx =>
            have member : tx ∈ belowCursor (some last) history :=
              List.mem_of_mem_take (List.mem_of_head? head)
            have below := of_decide_eq_true (List.mem_filter.mp member).2
            simpa using below
  have above : ((indexPage history cursor count).transactions.any fun tx =>
      (indexPage history cursor count).oldestTxId.all fun id => decide (tx.id < id)) =
        false := by
    rw [List.any_eq_false]
    intro tx member
    cases last : history.getLast? with
    | none =>
        have present := part.subset member
        rw [List.getLast?_eq_none_iff.mp last] at present
        cases present
    | some oldest =>
        have least := oldest_le descending (part.subset member) last
        simp only [indexPage, last, Option.map_some, Option.all_some, decide_eq_true_eq, not_lt]
        exact least
  simp only [validateHistoryPage, expected, short, under, above,
    strictlyDescending_of _ (descending.sublist part), Bool.not_true, Bool.or_false,
    Bool.false_eq_true, if_false]
  cases found : (indexPage history cursor count).transactions.getLast? with
  | some last => exact ⟨_, rfl⟩
  | none =>
      have empty := List.getLast?_eq_none_iff.mp found
      rw [indexPage] at empty
      have read : history.getLast?.map IndexTx.id = cursor := by
        rcases List.take_eq_nil_iff.mp empty with zero | nothing
        · omega
        · exact reached nothing
      simp only [indexPage, read]
      cases cursor with
      | none => exact ⟨true, rfl⟩
      | some last => exact ⟨true, by simp⟩

theorem indexPage_valid (record : ScanRecord config history begun judged scan)
    (descending : Descending history) (some_asked : 0 < count) (within : count ≤ limit)
    (consistent : ∀ id, observedOldest = some id → history.getLast?.map IndexTx.id = some id) :
    ∃ exhausted, validateHistoryPage limit (indexPage history scan.cursor count) scan.cursor
      observedOldest = some exhausted := by
  apply slice_valid descending some_asked within _ consistent
  intro nothing
  rcases record.unread descending with ⟨rest, split, unread⟩
  rcases record.arrived with ⟨newer, same⟩
  rw [← unread, nothing, List.append_nil] at split
  rw [same, List.getLast?_append, split, ← record.reached]
  cases ends : (judged.map JudgedTx.tx).getLast? with
  | some _ => rfl
  | none =>
      have cursor : scan.cursor = none := by
        rw [← record.reached, ends]
        rfl
      have whole := record.started cursor
      have begun_nil : begun = [] := by
        rw [split, List.getLast?_eq_none_iff.mp ends]
      rw [begun_nil] at same whole
      rw [← whole, List.append_nil] at same
      rw [← same]
      rfl

theorem scanTransactions_timed {feeE8s : Nat} {lastProcessed : Option Nat}
    {candidate : Option FundingTranche} {txs : List IndexTx}
    (timed : ∀ tx ∈ txs, qualifyingAmount config feeE8s tx ≠ none →
      indexTxTimestampNanos tx ≠ none) :
    ∃ result, scanTransactions config feeE8s lastProcessed candidate txs = some result := by
  induction txs generalizing candidate with
  | nil => exact ⟨_, rfl⟩
  | cons tx rest ih =>
      have others : ∀ other ∈ rest, qualifyingAmount config feeE8s other ≠ none →
          indexTxTimestampNanos other ≠ none :=
        fun other member => timed other (List.mem_cons_of_mem tx member)
      simp only [scanTransactions]
      split
      · exact ⟨_, rfl⟩
      · cases amount : qualifyingAmount config feeE8s tx with
        | none => exact ih others
        | some amountE8s =>
            have stamped := timed tx List.mem_cons_self (by rw [amount]; exact Option.some_ne_none _)
            rcases Option.ne_none_iff_exists'.mp stamped with ⟨timestampNanos, timestamp⟩
            simp only [timestamp]
            exact ih others

theorem ScanRecord.candidate_oldest (record : ScanRecord config history begun judged scan) :
    (scan.candidate.isSome && (history.getLast?.map IndexTx.id).isNone) = false := by
  cases candidate : scan.candidate with
  | none => rfl
  | some tranche =>
      have selected := record.selected
      rw [candidate] at selected
      rcases selected.1 with ⟨entry, member, _⟩
      rcases record.arrived with ⟨newer, same⟩
      rcases record.prefixed with ⟨rest, split⟩
      have present : entry.tx ∈ history := by
        rw [same, split]
        exact List.mem_append_right _
          (List.mem_append_left _ (List.mem_map.mpr ⟨entry, member, rfl⟩))
      cases last : history.getLast? with
      | none =>
          rw [List.getLast?_eq_none_iff.mp last] at present
          cases present
      | some _ => rfl

theorem scanPage_progress (run : DiscoveryRun)
    (record : ScanRecord config history begun judged scan)
    (descending : Descending history) (some_asked : 0 < count) (within : count ≤ limit)
    (consistent : ∀ id, observedOldest = some id → history.getLast?.map IndexTx.id = some id)
    (timed : ∀ tx ∈ history, qualifyingAmount config run.feeE8s tx ≠ none →
      indexTxTimestampNanos tx ≠ none) :
    (∃ candidate, scanPage limit config run scan observedOldest
        (indexPage history scan.cursor count) = .complete candidate) ∨
      ∃ next oldest, scanPage limit config run scan observedOldest
        (indexPage history scan.cursor count) = .continued next oldest := by
  have part : (indexPage history scan.cursor count).transactions.Sublist history :=
    (List.take_sublist _ _).trans (belowCursor_sublist _ _)
  rcases indexPage_valid record descending some_asked within consistent with ⟨exhausted, valid⟩
  have went : ∃ result, scanTransactions config run.feeE8s run.lastProcessed scan.candidate
      (indexPage history scan.cursor count).transactions = some result :=
    scanTransactions_timed fun tx member => timed tx (part.subset member)
  rcases went with ⟨⟨candidate, reached⟩, went⟩
  have held : (scan.candidate.isSome &&
      (indexPage history scan.cursor count).oldestTxId.isNone) = false := record.candidate_oldest
  simp only [scanPage, held, Bool.false_eq_true, if_false, valid, went]
  split
  · exact .inl ⟨_, rfl⟩
  · exact .inr ⟨_, _, rfl⟩

end Progress

section Results

variable {limits : ScanLimits} {sys : FundingSystem}

/-- A page of at least one record that the owner of the scan receives ends the scan or reads on;
no scan reads more than the history of its start. -/
def FundingSystem.Progresses (limits : ScanLimits) (sys : FundingSystem) : Prop :=
  ∀ id run scan observedOldest pagesLeft count,
    sys.tasks id = some (.page run scan observedOldest pagesLeft) →
    sys.state.ownsScan run scan = true → 0 < count → count ≤ limits.pageSize →
    (∀ tx ∈ sys.history, qualifyingAmount sys.state.config run.feeE8s tx ≠ none →
      indexTxTimestampNanos tx ≠ none) →
    let after := sys.observe limits (.page run scan observedOldest pagesLeft) (.page (some count))
    (∃ report, after.reports = report :: sys.reports) ∨
      (sys.scanJudged scan).length < after.judged.length ∧
        after.judged.length ≤ after.begun.length

theorem funding_progresses (invariant : FundingInvariant sys) : sys.Progresses limits := by
  intro id run scan observedOldest pagesLeft count found owner some_asked within timed
  have record := invariant.scan scan (ownsScan_iff.mp owner).2.2.2
  have ok := invariant.konts id _ found
  rcases scanPage_progress run record invariant.descending some_asked within ok.2 timed with
    ⟨candidate, scanned⟩ | ⟨next, oldest, scanned⟩
  · left
    simp only [FundingSystem.observe, pageOutcome, owner, if_true, scanned]
    exact ⟨_, rfl⟩
  · right
    have read := scanPage_continued record invariant.descending ok.1 scanned
    rcases read.1.prefixed with ⟨rest, split⟩
    have lengths := congrArg List.length split
    simp only [List.length_append, List.length_map] at lengths
    simp only [FundingSystem.observe, pageOutcome, owner, if_true, scanned]
    refine ⟨read.2.2.2.2, ?_⟩
    simp only [List.length_append]
    omega

/-- The job is the same, and a scan under way stays under way. -/
def KeepsScan (before after : FaucetState) : Prop :=
  after.activePayoutJob = before.activePayoutJob ∧
    (before.activeFundingScan ≠ none → after.activeFundingScan ≠ none)

/-- A page ends its scan with a report, and the tick goes on with the result reported; without a
report it leaves the job and the scan alone. -/
def FundingSystem.Follows (limits : ScanLimits) (sys : FundingSystem) : Prop :=
  ∀ id run scan observedOldest pagesLeft count nowNanos next,
    sys.tasks id = some (.page run scan observedOldest pagesLeft) →
    stepFunding limits sys (.resume id (.page count) nowNanos) = some next →
    (∃ report, next.reports = report :: sys.reports ∧ report.lastProcessed = run.lastProcessed ∧
      next.state = (onDiscovery (sys.state.setScan none) run report.result).1 ∧
      next.tasks id = (onDiscovery (sys.state.setScan none) run report.result).2.suspended) ∨
    next.reports = sys.reports ∧ KeepsScan sys.state next.state

theorem endProcess_keeps (st : FaucetState) (tick : MainTick) (ok : Bool) :
    KeepsScan st (endProcess st tick ok).1 := by
  simp only [endProcess, FaucetState.finishGuard]
  split
  · exact ⟨rfl, id⟩
  · split
    · exact ⟨rfl, id⟩
    · split <;> exact ⟨rfl, id⟩

theorem latched_end_keeps (st : FaucetState) (tick : MainTick) (reason : ForcedRescueReason) :
    KeepsScan st (endProcess (st.latchForcedRescueReason reason) tick true).1 := by
  rcases endProcess_keeps (st.latchForcedRescueReason reason) tick true with ⟨job, kept⟩
  have latched : KeepsScan st (st.latchForcedRescueReason reason) := by
    simp only [FaucetState.latchForcedRescueReason]
    split <;> exact ⟨rfl, id⟩
  exact ⟨job.trans latched.1, fun under_way => kept (latched.2 under_way)⟩

theorem requestPage_keeps {st : FaucetState} {scan next : FundingScanState} (run : DiscoveryRun)
    (observedOldest : Option Nat) (pagesLeft : Nat) :
    KeepsScan st (requestPage (st.setScan (some next)) run scan observedOldest pagesLeft).1 := by
  cases pagesLeft with
  | zero => exact ⟨rfl, fun _ => Option.some_ne_none _⟩
  | succ pagesLeft =>
      simp only [requestPage]
      split
      · exact ⟨rfl, fun _ => Option.some_ne_none _⟩
      · rcases endProcess_keeps (st.setScan (some next)) run.tick true with ⟨job, kept⟩
        exact ⟨job, fun _ => kept (Option.some_ne_none _)⟩

theorem funding_follows (sys : FundingSystem) : sys.Follows limits := by
  intro id run scan observedOldest pagesLeft count nowNanos next found taken
  simp only [stepFunding, found, Option.ite_none_right_eq_some, Option.map_eq_some_iff] at taken
  rcases taken with ⟨_, result, resumed, rfl⟩
  cases resumed
  have task : ∀ middle : FundingSystem, ∀ result,
      (settleFunding middle id nowNanos result).tasks id = result.2.suspended :=
    fun _ _ => Pool.put_self _ _ _
  rw [task]
  simp only [settleFunding]
  cases owner : sys.state.ownsScan run scan with
  | false =>
      simp only [observe_other (pageOutcome_unowned owner), onFundingPage, owner, Bool.not_false, if_true]
      exact .inr ⟨trivial, endProcess_keeps _ _ _⟩
  | true =>
      simp only [onFundingPage, owner, Bool.not_true, Bool.false_eq_true, if_false]
      cases count with
      | none => exact .inr ⟨rfl, endProcess_keeps _ _ _⟩
      | some count =>
          cases scanned : scanPage limits.pageSize sys.state.config run scan observedOldest
              (indexPage sys.history scan.cursor count) with
          | unreadable reason =>
              simp only [FundingSystem.observe, pageOutcome, owner, if_true, scanned,
                Option.map_some]
              cases reason with
              | indexReadFailed => exact .inr ⟨trivial, endProcess_keeps _ _ _⟩
              | qualifyingFundingTransferMissingTimestamp =>
                  exact .inr ⟨trivial, latched_end_keeps _ _ _⟩
          | complete candidate =>
              simp only [FundingSystem.observe, pageOutcome, owner, if_true, scanned,
                Option.map_some]
              exact .inl ⟨_, rfl, rfl, rfl, rfl⟩
          | continued next oldest =>
              simp only [FundingSystem.observe, pageOutcome, owner, if_true, scanned,
                Option.map_some]
              exact .inr ⟨trivial, requestPage_keeps _ _ _⟩

theorem created_increasing (invariant : FundingInvariant sys) :
    sys.created.Pairwise fun newer older => ∃ last, newer.lastProcessed = some last ∧
      older.tranche.txId ≤ last ∧ last < newer.tranche.txId := by
  have members : sys.created.Pairwise fun newer _ => newer ∈ sys.created :=
    List.pairwise_of_forall_mem_list fun newer member _ _ => member
  have both := invariant.jobs.chain.and members
  refine both.imp ?_
  intro newer older related
  rcases related with ⟨⟨last, processed, below⟩, member⟩
  have found := invariant.jobs.discovered newer member
  exact ⟨last, processed, below, found.above invariant.reports processed⟩

/-- Discovery reports the oldest qualifying transfer above the last processed one; jobs are created
for discovered tranches, each above everything processed before. -/
theorem discovery_selects_oldest (reachable : (fundingMachine limits).Reachable sys) :
    (∀ report ∈ sys.reports, report.Exact sys.state.config) ∧
      sys.Progresses limits ∧ sys.Follows limits ∧
      (∀ job ∈ sys.created, ∃ report ∈ sys.reports, report.result = .found job.tranche ∧
        report.lastProcessed = job.lastProcessed) ∧
      sys.created.Pairwise fun newer older => ∃ last, newer.lastProcessed = some last ∧
        older.tranche.txId ≤ last ∧ last < newer.tranche.txId := by
  have invariant := funding_reachable reachable
  exact ⟨fun report member => (invariant.reports report member).exact,
    funding_progresses invariant, funding_follows sys, invariant.jobs.discovered,
    created_increasing invariant⟩

end Results

section Samples

def sampleFaucetConfig : FaucetConfig where
  policy := ⟨"staking", 100000000, none⟩
  payoutSubaccount := none
  payoutAccountIdentifier := "payout"
  fundingSourceAccountIdentifier := "source"
  cmcCanisterId := ⟨[1]⟩
  governanceCanisterId := ⟨[2]⟩
  canonicalRelayCanisterId := ⟨[3]⟩
  expectedFirstStakingTxId := none
  mainIntervalSeconds := 86400

def sampleFunding (id amountE8s : Nat) : IndexTx :=
  ⟨id, .transfer "source" "payout" amountE8s, none, some id, none⟩

def sampleOther (id : Nat) : IndexTx := ⟨id, .transfer "other" "payout" 5000000, none, some id, none⟩

def sampleNow : Nat := 1700000000000000000

def sampleFundingStart (history : List IndexTx) : FundingSystem :=
  ⟨FaucetState.new sampleFaucetConfig (sampleNow / nanosPerSecond), Pool.empty, history, sampleNow,
    [], [], [], []⟩

def sampleDiscovery (arriving : IndexTx) : List FundingEvent :=
  [.begin 0 sampleNow false false, .resume 0 (.amount (some 10000)) sampleNow,
    .resume 0 (.amount (some 900000000)) sampleNow, .resume 0 (.amount (some 100)) sampleNow,
    .resume 0 (.page (some 1)) sampleNow, .arrive arriving,
    .resume 0 (.page (some 1)) sampleNow]

def sampleRun (history : List IndexTx) : FundingSystem :=
  ((fundingMachine {}).run (sampleFundingStart history)
    (sampleDiscovery (sampleFunding 9 50000000))).getD (sampleFundingStart history)

def sampleDiscovered : FundingSystem :=
  sampleRun [sampleFunding 8 700000000, sampleFunding 5 600000000]

theorem sampleDiscovered_reachable : (fundingMachine {}).Reachable sampleDiscovered := by
  have ran : (fundingMachine {}).run
      (sampleFundingStart [sampleFunding 8 700000000, sampleFunding 5 600000000])
      (sampleDiscovery (sampleFunding 9 50000000)) = some sampleDiscovered := by rfl
  exact ⟨_, _, ⟨sampleFaucetConfig, sampleNow, _, rfl, by decide⟩, ran⟩

theorem discovery_selects_oldest_of_sample :
    sampleDiscovered.created = [⟨none, ⟨5, 5, 600000000⟩⟩] ∧
      ∃ report ∈ sampleDiscovered.reports, report.result = .found ⟨5, 5, 600000000⟩ := by
  have created : sampleDiscovered.created = [⟨none, ⟨5, 5, 600000000⟩⟩] := by rfl
  have holds := discovery_selects_oldest sampleDiscovered_reachable
  have member : ⟨none, ⟨5, 5, 600000000⟩⟩ ∈ sampleDiscovered.created := by
    rw [created]
    exact List.mem_singleton.mpr rfl
  rcases holds.2.2.2.1 _ member with ⟨report, present, found, _⟩
  exact ⟨created, report, present, found⟩

def sampleMissed : FundingSystem := sampleRun [sampleOther 8, sampleOther 5]

/-- A tranche that arrives after the first page is not there for this discovery. -/
theorem arrived_tranche_not_reported :
    (fundingMachine {}).Reachable sampleMissed ∧
      ∃ report ∈ sampleMissed.reports, report.result = .empty ∧
        sampleFunding 9 50000000 ∈ report.present ∧
        isUnprocessed report.lastProcessed (sampleFunding 9 50000000) = true ∧
        qualifyingAmount sampleMissed.state.config 10000 (sampleFunding 9 50000000) =
          some 50000000 := by
  have ran : (fundingMachine {}).run (sampleFundingStart [sampleOther 8, sampleOther 5])
      (sampleDiscovery (sampleFunding 9 50000000)) = some sampleMissed := by rfl
  refine ⟨⟨_, _, ⟨sampleFaucetConfig, sampleNow, _, rfl, by decide⟩, ran⟩, ?_⟩
  have reports : sampleMissed.reports = [⟨none, [sampleOther 8, sampleOther 5],
      [sampleFunding 9 50000000, sampleOther 8, sampleOther 5],
      [⟨sampleOther 8, 10000⟩, ⟨sampleOther 5, 10000⟩], .empty⟩] := by rfl
  rw [reports]
  exact ⟨_, List.mem_singleton.mpr rfl, rfl, by decide, rfl, rfl⟩

end Samples
end JupiterSuite.Faucet
