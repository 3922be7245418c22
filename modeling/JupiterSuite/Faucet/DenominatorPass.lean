import JupiterSuite.Faucet.ScanViews
import JupiterSuite.Faucet.SkipEvidence

/-! The denominator pass over a truthful history: at every cursor it has counted the weights of
the records above it, and its candidate and the cache cover no eligible commitment. -/

namespace JupiterSuite.Faucet

open Base Memo

section Scans

variable (fromText : Text → Option Principal) (policy : CommitmentPolicy)
  (history : List IndexTx)

/-- The denominator counts the weights of the records. -/
def ActivePayoutJob.Counts (job : ActivePayoutJob) (read : List IndexTx) : Prop :=
  job.effectiveDenomStakingBalanceE8s =
      some (read.filterMap (roundWeight fromText policy job)).sum ∧
    (read.filterMap (roundWeight fromText policy job)).sum ≤ u64Max

inductive ScanPhase (job : ActivePayoutJob) : Prop where
  | counting (waits : job.denomScanComplete = false)
      (oldest : ∀ id, job.observedOldestTxId = some id → history.getLast?.map IndexTx.id = some id)
      (counts : job.Counts fromText policy (passed job.nextStart history))
      (learns : Learns (Ineligible fromText policy) job.skipCandidate
        (passed job.nextStart history))
  | counted (done : job.denomScanComplete = true) (counts : job.Counts fromText policy history)

structure JobScan (job : ActivePayoutJob) : Prop where
  ended : job.roundEndTimeNanos.isSome
  pot : job.potStartE8s ≤ u64Max
  phase : ScanPhase fromText policy history job

structure ScanSound (view : StateView) : Prop where
  descending : Descending history
  inWord : ∀ tx ∈ history, tx.id ≤ u64Max
  cache : CacheSound (Ineligible fromText view.config.policy) history view.skipRanges
  job : ∀ job, view.job = some job → JobScan fromText view.config.policy history job

/-- The scans of the owner of the lease. -/
structure OwnScan (tick : MainTick) (view : StateView) : Prop
    extends ScanSound fromText history view where
  lock : view.lock = some tick.lease

end Scans

section Transactions

variable {fromText : Text → Option Principal} {limits : ScanLimits} {st : FaucetState}
  {job : ActivePayoutJob} {nowNanos start : Nat} {tx : IndexTx} {history read txs : List IndexTx}
  {pass next : DenomPass}

/-- The locals of the pass behind the records that it has read. -/
structure PassSound (fromText : Text → Option Principal) (st : FaucetState)
    (history : List IndexTx) (job : ActivePayoutJob) (start : Nat) (read : List IndexTx)
    (pass : DenomPass) : Prop where
  sum : (read.filterMap (roundWeight fromText st.config.policy job)).sum =
    start + pass.denomDeltaE8s
  learns : Learns (Ineligible fromText st.config.policy) pass.skipCandidate read
  spans : ∀ range ∈ pass.pendingSkipRanges,
    BarrenRange (Ineligible fromText st.config.policy) history range

theorem PassSound.skip (sound : PassSound fromText st history job start read pass)
    (unweighted : roundWeight fromText st.config.policy job tx = none)
    {candidate : LocalSkipCandidate}
    (learns : Learns (Ineligible fromText st.config.policy) candidate (read ++ [tx])) :
    PassSound fromText st history job start (read ++ [tx])
      { pass with skipCandidate := candidate } := by
  refine ⟨?_, learns, sound.spans⟩
  simpa [List.filterMap_append, unweighted] using sound.sum

variable (scans : ScanSound fromText history st.view)
include scans

theorem PassSound.record (sound : PassSound fromText st history job start read pass)
    (limits : ScanLimits) (front : read <+: history) :
    PassSound fromText st history job start read (pass.recordCompletedSkipRange limits) := by
  refine ⟨sound.sum, learns_empty read, ?_⟩
  intro range member
  rcases List.mem_append.mp member with old | new
  · exact sound.spans range old
  · rcases front with ⟨left, rfl⟩
    exact sound.learns.finished scans.descending
      (fun tx member => scans.inWord tx (List.mem_append_left _ member)) (Option.mem_toList.mp new)

variable (ended : job.roundEndTimeNanos.isSome)
include ended

theorem denomTransaction_sound (front : read ++ [tx] <+: history)
    (sound : PassSound fromText st history job start read pass)
    (taken : denomTransaction limits fromText st job nowNanos pass tx = .ok next) :
    PassSound fromText st history job start (read ++ [tx]) next := by
  have recorded := sound.record scans limits ((List.prefix_append _ _).trans front)
  rw [denomTransaction] at taken
  split at taken
  · rename_i behind
    rcases (Option.any_eq_true _ _).mp behind with ⟨last, ends, above⟩
    cases taken
    exact recorded.skip (roundWeight_behind ends (of_decide_eq_true above)) (learns_empty _)
  · split at taken
    · cases taken
    · rename_i range cached
      cases taken
      rcases scans.cache.found cached with ⟨low, high, barren⟩
      have ineligible := (barren tx.id ⟨low, high⟩).skipped tx (front.subset (by simp)) rfl
      exact recorded.skip (roundWeight_ineligible ineligible) (learns_empty _)
    · have skipped : Ineligible fromText st.config.policy tx →
          PassSound fromText st history job start (read ++ [tx]) (pass.noteSkippable tx.id) :=
        fun ineligible =>
          sound.skip (roundWeight_ineligible ineligible) (sound.learns.note ineligible)
      split at taken
      · rename_i foreign
        cases taken
        exact skipped (by rw [Ineligible, eligibleCommitment, foreign, Option.bind_none])
      · rename_i commitment found
        have eligible := eligibleCommitment_eq fromText found
        cases valid : classifyCommitment fromText st.config.policy.minTxE8s commitment with
        | ignoreUnderThreshold | ignoreBadMemo =>
            rw [valid] at taken eligible
            cases taken
            exact skipped eligible
        | valid target =>
            rw [valid] at taken eligible
            rw [roundWeight_eligible ended eligible] at taken
            dsimp only at taken
            split at taken
            · cases taken
            · rename_i total added
              cases taken
              rcases checkedAdd_eq_some.mp added with ⟨_, rfl⟩
              refine ⟨?_, learns_empty _, recorded.spans⟩
              have sum := sound.sum
              cases counted : roundWeight fromText st.config.policy job tx <;>
                simp [List.filterMap_append, counted, sum, Nat.add_assoc,
                  DenomPass.recordCompletedSkipRange]

theorem denomTransactions_sound (front : read ++ txs <+: history)
    (sound : PassSound fromText st history job start read pass)
    (taken : denomTransactions limits fromText st job nowNanos pass txs = .ok next) :
    PassSound fromText st history job start (read ++ txs) next := by
  induction txs generalizing read pass with
  | nil =>
      cases taken
      simpa using sound
  | cons tx rest ih =>
      rw [denomTransactions] at taken
      split at taken
      · cases taken
      · rename_i one first
        rw [List.append_cons] at front ⊢
        exact ih front (denomTransaction_sound scans ended ((List.prefix_append _ _).trans front)
          sound first) taken

end Transactions

section Pages

variable {fromText : Text → Option Principal} {policy : CommitmentPolicy} {limits : ScanLimits}
  {history : List IndexTx} {st next : FaucetState} {job after : ActivePayoutJob}
  {tick : MainTick} {nowNanos count : Nat} {complete : Bool} {expected : Option Nat}

theorem ScanSound.active (sound : ScanSound fromText history st.view)
    (active : st.activePayoutJob = some job) :
    JobScan fromText st.config.policy history job.scan := by
  apply sound.job
  rw [FaucetState.view, active]
  rfl

theorem OwnScan.setJob (own : OwnScan fromText history tick st.view)
    (scan : JobScan fromText st.config.policy history after.scan) :
    OwnScan fromText history tick (st.setJob after).view := by
  refine { own with job := ?_ }
  rintro _ ⟨⟩
  exact scan

theorem OwnScan.learn {learned : List SkipRange} {accepted : Bool}
    (own : OwnScan fromText history tick st.view)
    (barren : ∀ range ∈ learned, BarrenRange (Ineligible fromText st.config.policy) history range)
    (taught : st.learn limits learned = (next, accepted)) : ∃ ranges,
      next = { st with skipRanges := ranges } ∧
        OwnScan fromText history tick ({ st with skipRanges := ranges } : FaucetState).view := by
  have cache : CacheSound _ history (st.learn limits learned).1.skipRanges :=
    own.cache.learn barren
  rw [taught] at cache
  rw [FaucetState.learn] at taught
  split at taught <;> cases taught
  · exact ⟨_, rfl, { own with cache := cache }⟩
  · exact ⟨_, rfl, own⟩

theorem JobScan.counts (scan : JobScan fromText policy history job)
    (done : job.denomScanComplete = true) : job.Counts fromText policy history := by
  cases scan.phase with
  | counting waits => exact absurd (waits.symm.trans done) Bool.false_ne_true
  | counted _ counts => exact counts

theorem JobScan.applyDenomPage {candidate : LocalSkipCandidate}
    (scan : JobScan fromText policy history job.scan) (descending : Descending history)
    (waits : job.denomScanComplete = false)
    (valid : validateHistoryPage limits.pageSize (indexPage history job.nextStart count)
      job.nextStart expected = some complete) {read : List IndexTx}
    (shape : read = passed job.nextStart history ++ (belowCursor job.nextStart history).take count)
    (learns : Learns (Ineligible fromText policy) candidate read)
    (fits : (read.filterMap (roundWeight fromText policy job)).sum ≤ u64Max) :
    JobScan fromText policy history (job.applyDenomPage (indexPage history job.nextStart count)
      (read.filterMap (roundWeight fromText policy job)).sum candidate complete).scan := by
  have ends := page_exhausts descending valid
  cases complete with
  | true =>
      rw [ends.1 rfl, passed_append descending] at shape
      subst shape
      exact ⟨scan.ended, scan.pot, .counted rfl ⟨rfl, fits⟩⟩
  | false =>
      rcases ends.2 rfl with ⟨last, found⟩
      have cursor : (((belowCursor job.nextStart history).take count).getLast?.map IndexTx.id).or
          job.nextStart = some last.id := by
        rw [found]
        rfl
      have below := (List.take_append_drop count (belowCursor job.nextStart history)).symm
      rw [← (passed_page descending below found).1, ← cursor] at shape
      subst shape
      exact ⟨scan.ended, scan.pot, .counting waits (fun _ => id) ⟨rfl, fits⟩ learns⟩

theorem applyDenomPage_sound (own : OwnScan fromText history tick st.view)
    (active : st.activePayoutJob = some job) (waits : job.denomScanComplete = false)
    (valid : validateHistoryPage limits.pageSize (indexPage history job.nextStart count)
      job.nextStart expected = some complete) :
    match applyDenomPage limits fromText st job nowNanos (indexPage history job.nextStart count)
      complete with
    | .overflow => True
    | .fault next | .applied next => OwnScan fromText history tick next.view := by
  have scan := own.active active
  have ended : job.roundEndTimeNanos.isSome := scan.ended
  cases scan.phase with
  | counted done => exact absurd (waits.symm.trans done) Bool.false_ne_true
  | counting _ oldest counts learns =>
  have known : job.effectiveDenomStakingBalanceE8s = some (((passed job.nextStart
    history).filterMap (roundWeight fromText st.config.policy job)).sum) := counts.1
  have whole := passed_append own.descending job.nextStart
  rw [← List.take_append_drop count (belowCursor _ _), ← List.append_assoc] at whole
  simp only [applyDenomPage]
  cases taken : denomTransactions limits fromText st job nowNanos ⟨0, job.skipCandidate, []⟩
      (indexPage history job.nextStart count).transactions with
  | error failure =>
      cases failure with
      | overflow => trivial
      | skipRange => exact own
  | ok pass =>
      have read := denomTransactions_sound own.toScanSound ended
        ⟨_, whole⟩ ⟨rfl, learns, List.forall_mem_nil _⟩ taken
      dsimp only
      cases added : checkedAdd u64Max (job.effectiveDenomStakingBalanceE8s.getD 0)
          pass.denomDeltaE8s with
      | none => trivial
      | some denomE8s =>
          rw [known, Option.getD_some, checkedAdd_eq_some] at added
          have recorded := read.record own.toScanSound limits ⟨_, whole⟩
          have closed := @iteInduction _ (complete = true) _ (PassSound fromText st history job _ _)
            _ _ (fun _ => recorded) fun _ => read
          generalize (if complete = true then pass.recordCompletedSkipRange limits
            else pass) = last at closed
          dsimp only
          cases taught : st.learn limits last.pendingSkipRanges with
          | mk middle accepted =>
              rcases own.learn closed.spans taught with ⟨ranges, rfl, learned⟩
              cases accepted with
              | false => exact learned
              | true =>
                  dsimp only
                  rw [active]
                  apply learned.setJob
                  rw [added.2.trans read.sum.symm]
                  exact scan.applyDenomPage own.descending waits valid rfl closed.learns
                    (read.sum.trans_le added.1)

theorem JobScan.jump {low unread oldest : Nat} (scan : JobScan fromText policy history job.scan)
    (descending : Descending history) (known : job.observedOldestTxId = some oldest)
    (cursor : job.nextStart = some (unread + 1)) (under : low ≤ unread)
    (barren : ∀ id, low ≤ id → id ≤ unread → Barren (Ineligible fromText policy) history id) :
    JobScan fromText policy history (job.jump low (decide (low = oldest))).scan := by
  cases scan.phase with
  | counting waits observed counts learns =>
      have same : (passed (some low) history).filterMap (roundWeight fromText policy job) =
          (passed job.nextStart history).filterMap (roundWeight fromText policy job) := by
        rw [cursor]
        apply filterMap_filter_same
        intro tx member differ
        rw [ne_eq, decide_eq_decide] at differ
        have ineligible := (barren tx.id (by omega) (by omega)).skipped tx member rfl
        exact roundWeight_ineligible ineligible
      have counts : job.Counts fromText policy (passed (some low) history) := by
        rw [ActivePayoutJob.Counts, same]
        exact counts
      by_cases last : low = oldest
      · subst last
        rw [passed_oldest descending (observed low known).symm] at counts
        simp only [decide_true, ActivePayoutJob.jump, if_true]
        split
        · rename_i done
          exact absurd (waits.symm.trans done) Bool.false_ne_true
        · exact ⟨scan.ended, scan.pot, .counted rfl counts⟩
      · rw [decide_eq_false last]
        exact ⟨scan.ended, scan.pot, .counting waits observed counts (learns_empty _)⟩
  | counted done counts =>
      generalize decide (low = oldest) = complete
      cases complete with
      | false => exact ⟨scan.ended, scan.pot, .counted done counts⟩
      | true =>
          simp only [ActivePayoutJob.jump, if_true]
          split
          · exact ⟨scan.ended, scan.pot, .counted done counts⟩
          · rename_i waits
            exact absurd done waits

theorem skipCachedHistory_sound (own : OwnScan fromText history tick st.view)
    (active : st.activePayoutJob = some job)
    (jumped : skipCachedHistory limits st job = .ok (some next)) :
    OwnScan fromText history tick next.view := by
  have scan := own.active active
  simp only [skipCachedHistory] at jumped
  repeat' split at jumped
  all_goals cases jumped
  rename_i oldest unread known cursor _ range found _ _ middle taught
  rcases own.cache.found found with ⟨low, high, barren⟩
  have spans : ∀ span ∈ if job.denomScanComplete then []
      else (job.skipCandidate.finishSpan limits.minSkipRangeTxCount).toList,
      BarrenRange (Ineligible fromText st.config.policy) history span := by
    have split := passed_append own.descending job.nextStart
    intro span member
    split at member
    · cases member
    · rename_i waits
      cases scan.phase with
      | counted done => exact absurd done waits
      | counting _ _ _ learns =>
          rw [← split]
          exact learns.finished (split.symm ▸ own.descending)
            (fun tx member => own.inWord tx (split ▸ List.mem_append_left _ member))
            (Option.mem_toList.mp member)
  rcases own.learn spans taught with ⟨ranges, rfl, learned⟩
  apply learned.setJob
  exact scan.jump own.descending known cursor low
    fun id above below => barren id ⟨above, below.trans high⟩

end Pages
end JupiterSuite.Faucet
