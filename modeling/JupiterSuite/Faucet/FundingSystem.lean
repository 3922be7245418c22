import JupiterSuite.Faucet.FundingDriver

/-! The faucet's ticks over the index history of its payout account. Records arrive at any time;
a page holds the newest records below its cursor, as many as the index chooses to return. What the
payout loop does between the creation of a job and its completion is left open. -/

namespace JupiterSuite.Faucet

open Base

structure JudgedTx where
  tx : IndexTx
  feeE8s : Nat
  deriving DecidableEq, Repr

structure FundingReport where
  lastProcessed : Option Nat
  begun : List IndexTx
  present : List IndexTx
  judged : List JudgedTx
  result : FundingDiscovery
  deriving DecidableEq, Repr

structure CreatedJob where
  lastProcessed : Option Nat
  tranche : FundingTranche
  deriving DecidableEq, Repr

structure FundingSystem where
  state : FaucetState
  tasks : Pool FundingKont
  history : List IndexTx
  clock : Nat
  /-- The history when the active scan read its first page; no code reads it. -/
  begun : List IndexTx
  /-- The records that the active scan has read, the latest first; no code reads it. -/
  judged : List JudgedTx
  /-- The discoveries that came to an end, the latest first; no code reads it. -/
  reports : List FundingReport
  /-- The jobs created so far, the latest first; no code reads it. -/
  created : List CreatedJob

inductive FundingReply where
  | amount (result : Option Nat)
  | page (count : Option Nat)
  | settled
  | worked (job : ActivePayoutJob)
  | completed (jobId : Nat)
  | left (ok : Bool)
  deriving DecidableEq, Repr

structure UpgradeArgs where
  clearForcedRescue : Bool
  lastProcessedFundingTxId : Option Nat
  mainIntervalSeconds : Option Nat
  minTxE8s : Option Nat
  stakeRecognitionDelaySeconds : Option Nat
  deriving DecidableEq, Repr

inductive FundingEvent where
  | begin (id nowNanos : Nat) (force poke : Bool)
  | resume (id : Nat) (reply : FundingReply) (nowNanos : Nat)
  -- The continuation never runs again; after a trap its cleanup still drops the guard.
  | abandon (id : Nat) (cleanup : Bool)
  | arrive (tx : IndexTx)
  | upgrade (args : UpgradeArgs)
  deriving DecidableEq, Repr

def FundingKont.lease : FundingKont → Nat
  | .fee tick | .balance tick _ | .denom tick _ _ | .probe tick | .payout tick | .finalize tick _
  | .rescue tick => tick.lease
  | .page run _ _ _ | .reread run _ => run.tick.lease

section Index

def belowCursor : Option Nat → List IndexTx → List IndexTx
  | none, history => history
  | some cursor, history => history.filter fun tx => decide (tx.id < cursor)

def indexPage (history : List IndexTx) (cursor : Option Nat) (count : Nat) : IndexPage where
  transactions := (belowCursor cursor history).take count
  oldestTxId := history.getLast?.map IndexTx.id

def isNewest (history : List IndexTx) (tx : IndexTx) : Bool :=
  history.all fun old => decide (old.id < tx.id)

end Index

/-- What the payout loop leaves alone: the identity of the job, its round and its tranche. -/
def ActivePayoutJob.sameTranche (job other : ActivePayoutJob) : Bool :=
  decide (job.id = other.id) && decide (job.feeE8s = other.feeE8s) &&
    decide (job.potStartE8s = other.potStartE8s) && decide (job.serial = other.serial) &&
    decide (job.roundStartTimeNanos = other.roundStartTimeNanos) &&
    decide (job.roundStartLatestTxId = other.roundStartLatestTxId) &&
    decide (job.roundEndTimeNanos = other.roundEndTimeNanos) &&
    decide (job.roundEndLatestTxId = other.roundEndLatestTxId) &&
    decide (job.fundingTxId = other.fundingTxId) &&
    decide (job.fundingTxTimestampNanos = other.fundingTxTimestampNanos) &&
    decide (job.fundingAmountE8s = other.fundingAmountE8s)

section Resumption

variable (limits : ScanLimits) (history : List IndexTx) (st : FaucetState)

def onWorked (tick : MainTick) (job : ActivePayoutJob) : Option (FaucetState × FundingPause) :=
  if st.isCurrent tick.lease && st.activePayoutJob.any job.sameTranche then
    some (st.setJob job, .await (.payout tick))
  else none

def resumeFunding : FundingKont → FundingReply → Option (FaucetState × FundingPause)
  | .fee tick, .amount fee => some (onFee st tick fee)
  | .balance tick feeE8s, .amount balance => some (onBalance st tick feeE8s balance)
  | .denom tick feeE8s balanceE8s, .amount denom =>
      some (onDenom limits st tick feeE8s balanceE8s denom)
  | .page run scan observedOldest pagesLeft, .page count =>
      some (onFundingPage limits st run scan observedOldest pagesLeft
        (count.map (indexPage history scan.cursor)))
  | .reread run tranche, .amount balance => some (onReread st run tranche balance)
  | .probe tick, .settled => some (endProcess st tick true)
  | .payout tick, .worked job => onWorked st tick job
  | .payout tick, .completed jobId => some (startFinalize st tick jobId)
  | .payout tick, .left ok => some (endProcess st tick ok)
  | .finalize tick job, .settled => some (onFinalize st tick job)
  | .rescue tick, .settled => some (st.finishGuard tick.lease tick.nowSecs, .done)
  | _, _ => none

end Resumption

section Records

variable (limits : ScanLimits)

def pageOutcome (sys : FundingSystem) : FundingKont → FundingReply →
    Option (DiscoveryRun × FundingScanState × IndexPage × ScanOutcome)
  | .page run scan observedOldest _, .page (some count) =>
      let page := indexPage sys.history scan.cursor count
      if sys.state.ownsScan run scan then
        some (run, scan, page, scanPage limits.pageSize sys.state.config run scan observedOldest page)
      else none
  | _, _ => none

def judgedBy (run : DiscoveryRun) (page : IndexPage) : List JudgedTx :=
  (page.transactions.takeWhile fun tx => !isProcessed run.lastProcessed tx).map fun tx =>
    ⟨tx, run.feeE8s⟩

def FundingSystem.scanBegun (sys : FundingSystem) (scan : FundingScanState) : List IndexTx :=
  if scan.cursor.isNone then sys.history else sys.begun

def FundingSystem.scanJudged (sys : FundingSystem) (scan : FundingScanState) : List JudgedTx :=
  if scan.cursor.isNone then [] else sys.judged

def FundingSystem.observe (sys : FundingSystem) (kont : FundingKont) (reply : FundingReply) :
    FundingSystem :=
  match pageOutcome limits sys kont reply with
  | none | some (_, _, _, .unreadable _) => sys
  | some (run, scan, page, .continued _ _) => { sys with
      begun := sys.scanBegun scan
      judged := sys.scanJudged scan ++ judgedBy run page }
  | some (run, scan, page, .complete candidate) => { sys with
      begun := sys.scanBegun scan
      judged := sys.scanJudged scan ++ judgedBy run page
      reports := ⟨run.lastProcessed, sys.scanBegun scan, sys.history,
        sys.scanJudged scan ++ judgedBy run page, discoveryOf candidate⟩ :: sys.reports }

def ActivePayoutJob.tranche (job : ActivePayoutJob) : Option FundingTranche :=
  match job.fundingTxId, job.fundingTxTimestampNanos, job.fundingAmountE8s with
  | some txId, some timestampNanos, some amountE8s => some ⟨txId, timestampNanos, amountE8s⟩
  | _, _, _ => none

def createdBy (before after : FaucetState) : List CreatedJob :=
  match before.activePayoutJob, after.activePayoutJob with
  | none, some job =>
      (job.tranche.map fun tranche => ⟨before.lastProcessedFundingTxId, tranche⟩).toList
  | _, _ => []

end Records

def settleFunding (sys : FundingSystem) (id nowNanos : Nat) (result : FaucetState × FundingPause) :
    FundingSystem :=
  { sys with
    state := result.1
    tasks := sys.tasks.put id result.2.suspended
    clock := nowNanos
    created := createdBy sys.state result.1 ++ sys.created }

section Upgrade

def FaucetState.clearRescue (st : FaucetState) (clear : Bool) : FaucetState :=
  if clear then { st with forcedRescueReason := none, skipRangeInvariantFault := false } else st

def FaucetState.raiseFunding (st : FaucetState) : Option Nat → FaucetState
  | some last =>
      if st.lastProcessedFundingTxId = some last then st
      else { st with lastProcessedFundingTxId := some last, activeFundingScan := none }
  | none => st

def applyUpgradeArgs (st : FaucetState) (args : UpgradeArgs) : FaucetState :=
  let st := (st.clearRescue args.clearForcedRescue).raiseFunding args.lastProcessedFundingTxId
  { st with
    config.mainIntervalSeconds := args.mainIntervalSeconds.getD st.config.mainIntervalSeconds
    config.policy.minTxE8s := args.minTxE8s.getD st.config.policy.minTxE8s
    config.policy.stakeRecognitionDelaySeconds :=
      args.stakeRecognitionDelaySeconds.or st.config.policy.stakeRecognitionDelaySeconds
    skipRanges := []
    mainLockStateTs := some 0 }

def minMinTxE8s : Nat := 10000000

/-- An upgrade whose arguments fail an assertion, or with an active job, does not take place. -/
def upgradeAdmits (st : FaucetState) (args : UpgradeArgs) : Bool :=
  st.activePayoutJob.isNone &&
    (args.lastProcessedFundingTxId.all fun last =>
      st.lastProcessedFundingTxId.all fun old => decide (old ≤ last)) &&
    (args.mainIntervalSeconds.all fun interval => decide (0 < interval)) &&
    (args.minTxE8s.all fun minTx => decide (minMinTxE8s ≤ minTx)) &&
    (args.stakeRecognitionDelaySeconds.all fun delay => decide (0 < delay))

end Upgrade

section Steps

variable (limits : ScanLimits)

def clockAdmits (clock nowNanos : Nat) : Bool :=
  decide (clock ≤ nowNanos) && decide (nowNanos ≤ u64Max)

def stepFunding (sys : FundingSystem) : FundingEvent → Option FundingSystem
  | .begin id now force poke =>
      if clockAdmits sys.clock now && (sys.tasks id).isNone then
        some (settleFunding sys id now (beginTick sys.state now force poke))
      else none
  | .resume id reply now =>
      match sys.tasks id with
      | none => none
      | some kont =>
          if clockAdmits sys.clock now then
            (resumeFunding limits sys.history sys.state kont reply).map
              (settleFunding (sys.observe limits kont reply) id now)
          else none
  | .abandon id cleanup =>
      match sys.tasks id with
      | none => none
      | some kont =>
          some { sys with
            state := if cleanup then sys.state.dropGuard kont.lease else sys.state
            tasks := sys.tasks.put id none }
  | .arrive tx =>
      if isNewest sys.history tx then some { sys with history := tx :: sys.history } else none
  | .upgrade args =>
      if upgradeAdmits sys.state args then
        some { sys with state := applyUpgradeArgs sys.state args, tasks := Pool.empty }
      else none

def fundingMachine : Machine FundingSystem FundingEvent where
  init := fun sys => ∃ config nowNanos history,
    sys = ⟨FaucetState.new config (nowNanos / nanosPerSecond), Pool.empty, history, nowNanos,
      [], [], [], []⟩ ∧ history.Pairwise fun newer older => older.id < newer.id
  step := stepFunding limits

end Steps
end JupiterSuite.Faucet
