import JupiterSuite.Faucet.FundingScan

/-! What a segment of a tick can do: stop or suspend with the funding fields untouched, keep or
end the scan, create a job, rewrite it or complete it. -/

namespace JupiterSuite.Faucet

open Base

/-- Only the lock, the time of the last run and the rescue reason may differ. -/
structure Quiet (before after : FaucetState) : Prop where
  config : after.config = before.config
  lastProcessed : after.lastProcessedFundingTxId = before.lastProcessedFundingTxId
  job : after.activePayoutJob = before.activePayoutJob
  scan : after.activeFundingScan = before.activeFundingScan

theorem Quiet.rfl {st : FaucetState} : Quiet st st := ⟨.refl _, .refl _, .refl _, .refl _⟩

def Discovered (reports : List FundingReport) (lastProcessed : Option Nat)
    (tranche : FundingTranche) : Prop :=
  ∃ report ∈ reports, report.result = .found tranche ∧ report.lastProcessed = lastProcessed

def KontOk (history : List IndexTx) (reports : List FundingReport) : FundingKont → Prop
  | .page run scan observedOldest _ =>
      scan.anchorLastProcessedFundingTxId = run.lastProcessed ∧
        ∀ oldest, observedOldest = some oldest → history.getLast?.map IndexTx.id = some oldest
  | .reread run tranche => Discovered reports run.lastProcessed tranche
  | _ => True

/-- The job that a completion saw is the active one. -/
def Pinned (st : FaucetState) : FundingKont → Prop
  | .finalize _ job => st.activePayoutJob = some job
  | _ => True

section Moves

variable (lease : Nat) (history : List IndexTx) (reports : List FundingReport)

inductive TickMove (st : FaucetState) : FaucetState × FundingPause → Prop where
  | stop {after : FaucetState} (quiet : Quiet st after)
      (lock : after.mainLockStateTs = st.mainLockStateTs ∨
        st.mainLockStateTs = some lease ∧ after.mainLockStateTs = some 0) :
      TickMove st (after, .done)
  | wait {after : FaucetState} {kont : FundingKont} (quiet : Quiet st after)
      (lock : after.mainLockStateTs = st.mainLockStateTs) (keeps : kont.lease = lease)
      (ok : KontOk history reports kont) (pinned : Pinned after kont) :
      TickMove st (after, .await kont)
  | create {run : DiscoveryRun} {tranche : FundingTranche} (keeps : run.tick.lease = lease)
      (found : Discovered reports run.lastProcessed tranche) (awaits : st.awaitsTranche run) :
      TickMove st
        (ensureActiveJob st run.tick.nowNanos run.feeE8s run.denomE8s tranche,
          .await (.payout run.tick))
  | work {tick : MainTick} {job : ActivePayoutJob} (keeps : tick.lease = lease)
      (current : st.mainLockStateTs = some lease)
      (active : st.activePayoutJob.any job.sameTranche) :
      TickMove st (st.setJob job, .await (.payout tick))
  | finish {tick : MainTick} {job : ActivePayoutJob} (keeps : tick.lease = lease)
      (current : st.mainLockStateTs = some lease) (active : st.activePayoutJob = some job) :
      TickMove st (st.finalized job, .await (.probe tick))

end Moves

section Segments

variable {lease : Nat} {history : List IndexTx} {reports : List FundingReport} {st : FaucetState}
  {run : DiscoveryRun} {tick : MainTick}

theorem isCurrent_iff : st.isCurrent lease = true ↔ st.mainLockStateTs = some lease := by
  simp [FaucetState.isCurrent]

theorem dropGuard_move : TickMove lease history reports st (st.dropGuard lease, .done) := by
  have quiet : Quiet st (st.dropGuard lease) := ⟨rfl, rfl, rfl, rfl⟩
  apply TickMove.stop quiet
  simp only [FaucetState.dropGuard, releaseLease]
  by_cases owned : st.mainLockStateTs = some lease
  · exact .inr ⟨owned, if_pos owned⟩
  · exact .inl (if_neg owned)

theorem finishGuard_move (nowSecs : Nat) :
    TickMove lease history reports st (st.finishGuard lease nowSecs, .done) := by
  simp only [FaucetState.finishGuard]
  split
  · rename_i owned
    exact .stop ⟨rfl, rfl, rfl, rfl⟩ (.inr ⟨isCurrent_iff.mp owned, rfl⟩)
  · exact .stop Quiet.rfl (.inl rfl)

theorem endProcess_move (ok : Bool) :
    TickMove tick.lease history reports st (endProcess st tick ok) := by
  simp only [endProcess]
  split
  · exact dropGuard_move
  · split
    · exact .wait Quiet.rfl rfl rfl trivial trivial
    · exact finishGuard_move tick.nowSecs

theorem latch_move {reason : ForcedRescueReason} {result : FaucetState × FundingPause}
    (move : TickMove lease history reports (st.latchForcedRescueReason reason) result)
    (still : ∀ after kont, result = (after, .await kont) → ∃ tick, kont = .rescue tick) :
    TickMove lease history reports st result := by
  have quiet : ∀ {after}, Quiet (st.latchForcedRescueReason reason) after → Quiet st after := by
    intro after same
    cases latched : st.forcedRescueReason <;>
      simp only [FaucetState.latchForcedRescueReason, latched] at same <;>
      exact ⟨same.config, same.lastProcessed, same.job, same.scan⟩
  have lock : (st.latchForcedRescueReason reason).mainLockStateTs = st.mainLockStateTs := by
    cases latched : st.forcedRescueReason <;> simp [FaucetState.latchForcedRescueReason, latched]
  cases move with
  | stop same released =>
      rw [lock] at released
      exact .stop (quiet same) released
  | wait same kept keeps ok pinned => exact .wait (quiet same) (kept.trans lock) keeps ok pinned
  | create keeps found awaits =>
      rcases still _ _ rfl with ⟨tick, impossible⟩
      cases impossible
  | work keeps current active =>
      rcases still _ _ rfl with ⟨tick, impossible⟩
      cases impossible
  | finish keeps current active =>
      rcases still _ _ rfl with ⟨tick, impossible⟩
      cases impossible

theorem endProcess_rescue {ok : Bool} {after : FaucetState} {kont : FundingKont}
    (ended : endProcess st tick ok = (after, .await kont)) : ∃ tick, kont = .rescue tick := by
  simp only [endProcess] at ended
  split at ended
  · cases ended
  · split at ended
    · cases ended
      exact ⟨tick, rfl⟩
    · cases ended

theorem latched_end_move (reason : ForcedRescueReason) :
    TickMove tick.lease history reports st
      (endProcess (st.latchForcedRescueReason reason) tick true) :=
  latch_move (endProcess_move true) fun _ _ ended => endProcess_rescue ended

theorem createJob_move (found : Discovered reports run.lastProcessed tranche) :
    TickMove run.tick.lease history reports st (createJob st run tranche) := by
  simp only [createJob]
  split
  · rename_i awaits
    exact .create rfl found awaits
  · exact endProcess_move true

theorem onReread_move {balance : Option Nat} (found : Discovered reports run.lastProcessed tranche) :
    TickMove run.tick.lease history reports st (onReread st run tranche balance) := by
  simp only [onReread]
  split
  · exact endProcess_move true
  · cases balance with
    | none => exact endProcess_move false
    | some balance =>
        simp only
        split
        · exact latched_end_move .fundingTrancheBalanceMismatch
        · exact createJob_move found

theorem onDiscovery_move {discovery : FundingDiscovery}
    (found : ∀ tranche, discovery = .found tranche →
      Discovered reports run.lastProcessed tranche) :
    TickMove run.tick.lease history reports st (onDiscovery st run discovery) := by
  cases discovery with
  | found tranche =>
      simp only [onDiscovery]
      split
      · exact .wait Quiet.rfl rfl rfl (found tranche rfl) trivial
      · exact createJob_move (found tranche rfl)
  | inProgress => exact .wait Quiet.rfl rfl rfl trivial trivial
  | empty => exact .wait Quiet.rfl rfl rfl trivial trivial
  | unreadable reason =>
      cases reason with
      | indexReadFailed => exact endProcess_move false
      | qualifyingFundingTransferMissingTimestamp =>
          exact latched_end_move .fundingDiscoveryUnreadable

theorem requestPage_move (run : DiscoveryRun)
    (anchored : scan.anchorLastProcessedFundingTxId = run.lastProcessed)
    (oldest : ∀ id, observedOldest = some id → history.getLast?.map IndexTx.id = some id) :
    TickMove run.tick.lease history reports st
      (requestPage st run scan observedOldest pagesLeft) := by
  cases pagesLeft with
  | zero => exact .wait Quiet.rfl rfl rfl trivial trivial
  | succ pagesLeft =>
      simp only [requestPage]
      split
      · exact .wait Quiet.rfl rfl rfl ⟨anchored, oldest⟩ trivial
      · exact endProcess_move true

theorem fundingScan_anchor (st : FaucetState) (lastProcessed : Option Nat) :
    (st.fundingScan lastProcessed).anchorLastProcessedFundingTxId = lastProcessed := by
  simp only [FaucetState.fundingScan]
  split
  · rfl
  · split
    · assumption
    · rfl

end Segments

section Resumptions

variable {limits : ScanLimits} {sys : FundingSystem} {kont : FundingKont} {reply : FundingReply}

/-- What a reply does to the scan before the rest of the segment runs. -/
inductive ScanMove (limits : ScanLimits) (sys : FundingSystem) (kont : FundingKont)
    (reply : FundingReply) : FaucetState → Prop where
  | same (unobserved : sys.observe limits kont reply = sys) :
      ScanMove limits sys kont reply sys.state
  | prepare (unobserved : sys.observe limits kont reply = sys) :
      ScanMove limits sys kont reply
        (sys.state.setScan (some (sys.state.fundingScan sys.state.lastProcessedFundingTxId)))
  | continued {run : DiscoveryRun} {scan next : FundingScanState} {observedOldest : Option Nat}
      {pagesLeft count : Nat} {oldest : Option Nat}
      (suspended : kont = .page run scan observedOldest pagesLeft)
      (answered : reply = .page (some count)) (owner : sys.state.ownsScan run scan = true)
      (scanned : scanPage limits.pageSize sys.state.config run scan observedOldest
        (indexPage sys.history scan.cursor count) = .continued next oldest) :
      ScanMove limits sys kont reply (sys.state.setScan (some next))
  | complete {run : DiscoveryRun} {scan : FundingScanState} {observedOldest : Option Nat}
      {pagesLeft count : Nat} {candidate : Option FundingTranche}
      (suspended : kont = .page run scan observedOldest pagesLeft)
      (answered : reply = .page (some count)) (owner : sys.state.ownsScan run scan = true)
      (scanned : scanPage limits.pageSize sys.state.config run scan observedOldest
        (indexPage sys.history scan.cursor count) = .complete candidate) :
      ScanMove limits sys kont reply (sys.state.setScan none)

theorem observe_other (other : pageOutcome limits sys kont reply = none) :
    sys.observe limits kont reply = sys := by
  simp only [FundingSystem.observe, other]

theorem ownsScan_iff {st : FaucetState} {run : DiscoveryRun} :
    st.ownsScan run scan = true ↔
      st.mainLockStateTs = some run.tick.lease ∧
        st.lastProcessedFundingTxId = run.lastProcessed ∧ st.activePayoutJob = none ∧
        st.activeFundingScan = some scan := by
  simp [FaucetState.ownsScan, FaucetState.isCurrent, and_assoc]

theorem discovered_of_complete {run : DiscoveryRun} {count : Nat}
    (owner : sys.state.ownsScan run scan = true)
    (scanned : scanPage limits.pageSize sys.state.config run scan observedOldest
      (indexPage sys.history scan.cursor count) = .complete (some tranche)) :
    Discovered
      (sys.observe limits (.page run scan observedOldest pagesLeft) (.page (some count))).reports
      run.lastProcessed tranche := by
  simp only [FundingSystem.observe, pageOutcome, owner, if_true, scanned]
  exact ⟨_, List.mem_cons_self, rfl, rfl⟩

theorem pageOutcome_unowned {run : DiscoveryRun} {count : Option Nat}
    (owner : sys.state.ownsScan run scan = false) :
    pageOutcome limits sys (.page run scan observedOldest pagesLeft) (.page count) = none := by
  cases count <;> simp [pageOutcome, owner]

theorem onFundingPage_moves {run : DiscoveryRun} {count : Option Nat}
    (continues : ∀ next oldest page, count = some page →
      sys.state.ownsScan run scan = true →
      scanPage limits.pageSize sys.state.config run scan observedOldest
        (indexPage sys.history scan.cursor page) = .continued next oldest →
      next.anchorLastProcessedFundingTxId = run.lastProcessed ∧
        oldest = sys.history.getLast?.map IndexTx.id) :
    ∃ middle, ScanMove limits sys (.page run scan observedOldest pagesLeft) (.page count) middle ∧
      TickMove run.tick.lease sys.history
        (sys.observe limits (.page run scan observedOldest pagesLeft) (.page count)).reports middle
        (onFundingPage limits sys.state run scan observedOldest pagesLeft
          (count.map (indexPage sys.history scan.cursor))) := by
  cases owner : sys.state.ownsScan run scan with
  | false =>
      refine ⟨sys.state, .same (observe_other (pageOutcome_unowned owner)), ?_⟩
      simp only [onFundingPage, owner, Bool.not_false, if_true]
      exact endProcess_move true
  | true =>
      cases count with
      | none =>
          refine ⟨sys.state, .same (observe_other rfl), ?_⟩
          simp only [onFundingPage, owner, Bool.not_true, Bool.false_eq_true, if_false,
            Option.map_none]
          exact endProcess_move false
      | some count =>
          simp only [onFundingPage, owner, Bool.not_true, Bool.false_eq_true, if_false,
            Option.map_some]
          cases scanned : scanPage limits.pageSize sys.state.config run scan observedOldest
              (indexPage sys.history scan.cursor count) with
          | unreadable reason =>
              have unobserved : sys.observe limits (.page run scan observedOldest pagesLeft)
                  (.page (some count)) = sys := by
                simp only [FundingSystem.observe, pageOutcome, owner, if_true, scanned]
              refine ⟨sys.state, .same unobserved, ?_⟩
              exact onDiscovery_move nofun
          | complete candidate =>
              refine ⟨_, .complete rfl rfl owner scanned, ?_⟩
              apply onDiscovery_move
              intro tranche found
              cases candidate with
              | none => cases found
              | some chosen =>
                  cases found
                  exact discovered_of_complete owner scanned
          | continued next oldest =>
              refine ⟨_, .continued rfl rfl owner scanned, ?_⟩
              rcases continues next oldest count rfl owner scanned with ⟨anchored, same⟩
              apply requestPage_move run anchored
              intro id found
              rw [← same]
              exact found

theorem onDenom_moves {tick : MainTick} {feeE8s balanceE8s : Nat} {denom : Option Nat} :
    ∃ middle, ScanMove limits sys (.denom tick feeE8s balanceE8s) (.amount denom) middle ∧
      TickMove tick.lease sys.history
        (sys.observe limits (.denom tick feeE8s balanceE8s) (.amount denom)).reports middle
        (onDenom limits sys.state tick feeE8s balanceE8s denom) := by
  have unobserved : sys.observe limits (.denom tick feeE8s balanceE8s) (.amount denom) = sys :=
    observe_other rfl
  cases denom with
  | none => exact ⟨sys.state, .same unobserved, endProcess_move false⟩
  | some denomE8s =>
      simp only [onDenom]
      split
      · exact ⟨sys.state, .same unobserved, endProcess_move true⟩
      · split
        · exact ⟨sys.state, .same unobserved, .wait Quiet.rfl rfl rfl trivial trivial⟩
        · simp only [discover]
          split
          · refine ⟨_, .prepare unobserved, ?_⟩
            apply requestPage_move ⟨tick, feeE8s, balanceE8s, denomE8s,
              sys.state.lastProcessedFundingTxId, sys.state.payoutNonce⟩
            · exact fundingScan_anchor sys.state sys.state.lastProcessedFundingTxId
            · intro id impossible
              cases impossible
          · exact ⟨sys.state, .same unobserved, endProcess_move true⟩

theorem startFinalize_move {tick : MainTick} {jobId : Nat} {st : FaucetState}
    {history : List IndexTx} {reports : List FundingReport} :
    TickMove tick.lease history reports st (startFinalize st tick jobId) := by
  simp only [startFinalize]
  split
  · rename_i job active
    split
    · exact .wait Quiet.rfl rfl rfl trivial active
    · exact endProcess_move true
  · exact endProcess_move true

theorem onFinalize_move {tick : MainTick} {job : ActivePayoutJob} {st : FaucetState}
    {history : List IndexTx} {reports : List FundingReport}
    (pinned : st.mainLockStateTs = some tick.lease → st.activePayoutJob = some job) :
    TickMove tick.lease history reports st (onFinalize st tick job) := by
  simp only [onFinalize]
  split
  · rename_i owner
    simp only [Bool.and_eq_true] at owner
    have current := isCurrent_iff.mp owner.1
    exact .finish rfl current (pinned current)
  · exact endProcess_move true

theorem resume_moves {result : FaucetState × FundingPause}
    (ok : KontOk sys.history sys.reports kont)
    (pinned : Fenced FundingKont.lease sys.state.mainLockStateTs (Pinned sys.state) kont)
    (continues : ∀ run scan observedOldest pagesLeft next oldest count,
      kont = .page run scan observedOldest pagesLeft → reply = .page (some count) →
      sys.state.ownsScan run scan = true →
      scanPage limits.pageSize sys.state.config run scan observedOldest
        (indexPage sys.history scan.cursor count) = .continued next oldest →
      next.anchorLastProcessedFundingTxId = run.lastProcessed ∧
        oldest = sys.history.getLast?.map IndexTx.id)
    (resumed : resumeFunding limits sys.history sys.state kont reply = some result) :
    ∃ middle, ScanMove limits sys kont reply middle ∧
      TickMove kont.lease sys.history (sys.observe limits kont reply).reports middle result := by
  cases kont <;> cases reply <;> simp only [resumeFunding, Option.some.injEq, reduceCtorEq] at resumed
  case fee.amount tick fee =>
    subst resumed
    refine ⟨sys.state, .same (observe_other rfl), ?_⟩
    cases fee with
    | none => exact endProcess_move false
    | some feeE8s =>
        simp only [onFee]
        split
        · exact .wait Quiet.rfl rfl rfl trivial trivial
        · exact endProcess_move true
  case balance.amount tick feeE8s balance =>
    subst resumed
    refine ⟨sys.state, .same (observe_other rfl), ?_⟩
    cases balance with
    | none => exact endProcess_move false
    | some balanceE8s =>
        simp only [onBalance]
        split
        · exact .wait Quiet.rfl rfl rfl trivial trivial
        · exact endProcess_move true
  case denom.amount => exact resumed ▸ onDenom_moves
  case page.page run scan observedOldest pagesLeft count =>
    subst resumed
    apply onFundingPage_moves
    intro next oldest page answered owner scanned
    subst answered
    exact continues run scan observedOldest pagesLeft next oldest page rfl rfl owner scanned
  case reread.amount run tranche balance =>
    subst resumed
    refine ⟨sys.state, .same (observe_other rfl), onReread_move ?_⟩
    rw [observe_other rfl]
    exact ok
  case probe.settled => exact resumed ▸ ⟨sys.state, .same (observe_other rfl), endProcess_move true⟩
  case payout.worked tick job =>
    refine ⟨sys.state, .same (observe_other rfl), ?_⟩
    simp only [onWorked, Option.ite_none_right_eq_some, Option.some.injEq, Bool.and_eq_true]
      at resumed
    rcases resumed with ⟨⟨current, active⟩, rfl⟩
    exact .work rfl (isCurrent_iff.mp current) active
  case payout.completed =>
    exact resumed ▸ ⟨sys.state, .same (observe_other rfl), startFinalize_move⟩
  case payout.left ok => exact resumed ▸ ⟨sys.state, .same (observe_other rfl), endProcess_move ok⟩
  case finalize.settled =>
    exact resumed ▸ ⟨sys.state, .same (observe_other rfl), onFinalize_move pinned⟩
  case rescue.settled tick =>
    exact resumed ▸ ⟨sys.state, .same (observe_other rfl), finishGuard_move tick.nowSecs⟩

end Resumptions
end JupiterSuite.Faucet
