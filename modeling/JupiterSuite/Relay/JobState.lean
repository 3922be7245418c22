import JupiterSuite.Relay.JobPlan
import JupiterSuite.Relay.SplitterState

/-! The relay job, its summary, and the transitions of its pending transfer. -/

namespace JupiterSuite.Relay

open Base

def u32Max : Nat := 2 ^ 32 - 1

inductive PendingTransferKind where
  | cmcTopUp (canisterId : Principal)
  | surplusIcp (target : SurplusTarget) (account : Account) (memo : Option (List UInt8))
  deriving DecidableEq, Repr

inductive PendingTransferPhase where
  | awaitingTransfer
  | transferAccepted (blockIndex : Nat)
  deriving DecidableEq, Repr

structure PendingTransfer where
  kind : PendingTransferKind
  grossShareE8s : Nat
  amountE8s : Nat
  createdAtTimeNanos : Nat
  phase : PendingTransferPhase
  deriving DecidableEq, Repr

structure CanisterBurnSample extends BurnPlan where
  sentTopupE8s : Nat
  deriving DecidableEq, Repr

def CanisterBurnSample.ofPlan (plan : BurnPlan) : CanisterBurnSample := ⟨plan, 0⟩

def CanisterBurnSample.share (sample : CanisterBurnSample) : Share := sample.toBurnPlan.share

structure RelaySummary where
  defaultAccountBalanceStartE8s : Nat := 0
  feeE8s : Nat := 0
  transferCount : Nat := 0
  ledgerTransferCount : Nat := 0
  ledgerSentE8s : Nat := 0
  ledgerFeesE8s : Nat := 0
  cmcNotifySuccessCount : Nat := 0
  cmcNotifyFailedCount : Nat := 0
  cmcNotifyAmbiguousCount : Nat := 0
  plannedRetainedE8s : Nat := 0
  knownUnspentE8s : Nat := 0
  ambiguousE8s : Nat := 0
  failedTransfers : Nat := 0
  ambiguousTransfers : Nat := 0
  partialTickCount : Nat := 0
  surplusE8sBeforeFees : Nat := 0
  skippedSurplusReason : Option String := none
  completedAtTsNanos : Option Nat := none
  deriving DecidableEq, Repr

inductive TransferSource where
  | topup (index : Nat)
  | surplus (index : Nat)
  deriving DecidableEq, Repr

/-- Where the gross amount of a staged transfer went. -/
inductive Fate where
  | awaiting
  | accepted
  | completed
  | failed
  | failedAfterAcceptance
  | ambiguous
  | ambiguousAfterAcceptance
  deriving DecidableEq, Repr

structure Staged where
  number : Nat
  source : TransferSource
  tick : Nat
  pending : PendingTransfer
  fate : Fate
  deriving DecidableEq, Repr

structure ActiveRelayJob where
  id : Nat
  feeE8s : Nat
  balanceStartE8s : Nat
  currentCycles : List (Principal × Nat)
  canisters : List CanisterBurnSample
  surplusTransfers : List SurplusTransferSample
  surplusMemos : List (Option (List UInt8))
  surplusPhasePlanned : Bool
  pendingTransfer : Option PendingTransfer
  nextTransferIndex : Nat
  surplusTransferIndex : Nat
  nextCreatedAtTimeNanos : Nat
  summary : RelaySummary
  /-- The number of jobs before this one; no code reads it. -/
  serial : Nat
  /-- Every transfer staged so far, the latest first; no code reads it. -/
  staged : List Staged
  deriving DecidableEq, Repr

structure RelayConfig where
  managedCanisters : List Principal
  cmcCanisterId : Principal
  governanceCanisterId : Principal
  maxTransfersPerTick : Option Nat
  surplusRecipients : List SurplusRecipient
  deriving DecidableEq, Repr

structure PastJob where
  job : ActiveRelayJob
  completed : Bool
  deriving DecidableEq, Repr

structure CycleAccounts where
  lastCompleted : CycleMap
  relayMinted : CycleMap
  recoveryDeficits : CycleMap

inductive AccountUpdate where
  | baseline (fresh : List (Principal × Nat))
  /-- The samples of a finished run, with the amounts minted while it was active. -/
  | run (samples : List BurnPlan) (mints : List (Principal × Nat))

structure AccountRecord where
  update : AccountUpdate
  after : CycleAccounts

structure RelayState where
  config : RelayConfig
  mainLockStateTs : Option Nat
  lastCompletedCycles : CycleMap
  relayMintedCyclesSinceSample : CycleMap
  recoveryDeficitCycles : CycleMap
  conversionEstimate : Option ConversionEstimate
  lastKnownLedgerFeeE8s : Option Nat
  activeJob : Option ActiveRelayJob
  lastSummary : Option RelaySummary
  nextJobId : Nat
  /-- The jobs that left the active slot, the latest first; no code reads it. -/
  past : List PastJob
  /-- The updates of the cycle maps so far, the latest first; no code reads it. -/
  records : List AccountRecord
  /-- The amounts minted for the active job, the latest first; no code reads it. -/
  mints : List (Principal × Nat)

def RelayState.new (config : RelayConfig) : RelayState where
  config
  mainLockStateTs := some 0
  lastCompletedCycles := fun _ => none
  relayMintedCyclesSinceSample := fun _ => none
  recoveryDeficitCycles := fun _ => none
  conversionEstimate := none
  lastKnownLedgerFeeE8s := none
  activeJob := none
  lastSummary := none
  nextJobId := 1
  past := []
  records := []
  mints := []

def CycleMap.insert (map : CycleMap) (canisterId : Principal) (cycles : Nat) : CycleMap :=
  Function.update map canisterId (some cycles)

def CycleMap.remove (map : CycleMap) (canisterId : Principal) : CycleMap :=
  Function.update map canisterId none

def CycleMap.retain (map : CycleMap) (keys : List Principal) : CycleMap := fun canisterId =>
  if canisterId ∈ keys then map canisterId else none

def updateSample (canisterId : Principal) (f : CanisterBurnSample → CanisterBurnSample) :
    List CanisterBurnSample → List CanisterBurnSample
  | [] => []
  | sample :: rest =>
      if sample.canisterId = canisterId then f sample :: rest
      else sample :: updateSample canisterId f rest

/-- The `sum` of the release build wraps. -/
def retainedE8s (balance : Nat) (canisters : List CanisterBurnSample)
    (surplus : List SurplusTransferSample) : Nat :=
  balance - satAdd u64Max
    (payableGross (canisters.map CanisterBurnSample.share) % 2 ^ 64)
    (payableGross (surplus.map SurplusTransferSample.share) % 2 ^ 64)

def settleFate (fate : Fate) : List Staged → List Staged
  | [] => []
  | current :: earlier => { current with fate } :: earlier

namespace ActiveRelayJob

def withFate (job : ActiveRelayJob) (fate : Fate) : ActiveRelayJob :=
  { job with staged := settleFate fate job.staged }

/-- `next_created_at` and the new pending transfer. -/
def stage (job : ActiveRelayJob) (source : TransferSource) (tick : Nat)
    (kind : PendingTransferKind) (share : Share) (nowNanos : Nat) : ActiveRelayJob :=
  let createdAt := max job.nextCreatedAtTimeNanos nowNanos
  let pending : PendingTransfer :=
    ⟨kind, share.grossShareE8s, share.amountE8s, createdAt, .awaitingTransfer⟩
  { job with
    pendingTransfer := some pending
    nextCreatedAtTimeNanos := satAdd u64Max createdAt 1
    staged := ⟨job.staged.length, source, tick, pending, .awaiting⟩ :: job.staged }

def surplusAllowedAfterTopups (job : ActiveRelayJob) : Option String :=
  if job.summary.failedTransfers ≠ 0 then some "topup_transfer_failed"
  else if job.summary.ambiguousTransfers ≠ 0 then some "topup_transfer_ambiguous"
  else if job.summary.cmcNotifyFailedCount ≠ 0 then some "cmc_notify_failed"
  else if job.summary.cmcNotifyAmbiguousCount ≠ 0 then some "cmc_notify_ambiguous"
  else if job.canisters.any fun sample => decide (0 < sample.remainingDeficitCycles) then
    some "unrecovered_cycle_deficit"
  else none

def acceptPending (job : ActiveRelayJob) (pending : PendingTransfer) (blockIndex : Nat) :
    ActiveRelayJob :=
  let canisters := match pending.kind with
    | .cmcTopUp canisterId => updateSample canisterId (fun sample =>
        { sample with sentTopupE8s := satAdd u64Max sample.sentTopupE8s pending.amountE8s })
        job.canisters
    | .surplusIcp _ _ _ => job.canisters
  { job.withFate .accepted with
    pendingTransfer := some { pending with phase := .transferAccepted blockIndex }
    canisters
    summary := { job.summary with
      transferCount := satAdd u32Max job.summary.transferCount 1
      ledgerTransferCount := satAdd u32Max job.summary.ledgerTransferCount 1
      ledgerSentE8s := satAdd u64Max job.summary.ledgerSentE8s pending.amountE8s
      ledgerFeesE8s := satAdd u64Max job.summary.ledgerFeesE8s job.feeE8s } }

def completePending (job : ActiveRelayJob) (minted : Option (Principal × Nat)) :
    ActiveRelayJob :=
  match minted with
  | none => { job.withFate .completed with pendingTransfer := none }
  | some (canisterId, mintedCycles) =>
      { job.withFate .completed with
        pendingTransfer := none
        canisters := updateSample canisterId (fun sample =>
          { sample with
            actualMintedCycles := satAdd u128Max sample.actualMintedCycles mintedCycles
            remainingDeficitCycles := sample.targetTopupCycles -
              satAdd u128Max sample.actualMintedCycles mintedCycles }) job.canisters
        summary := { job.summary with
          cmcNotifySuccessCount := satAdd u32Max job.summary.cmcNotifySuccessCount 1 } }

def failPending (job : ActiveRelayJob) (pending : PendingTransfer) : ActiveRelayJob :=
  { job.withFate .failed with
    pendingTransfer := none
    summary := { job.summary with
      failedTransfers := satAdd u32Max job.summary.failedTransfers 1
      knownUnspentE8s := satAdd u64Max job.summary.knownUnspentE8s pending.grossShareE8s } }

def failPendingAfterAcceptance (job : ActiveRelayJob) : ActiveRelayJob :=
  { job.withFate .failedAfterAcceptance with
    pendingTransfer := none
    summary := { job.summary with
      failedTransfers := satAdd u32Max job.summary.failedTransfers 1
      cmcNotifyFailedCount := satAdd u32Max job.summary.cmcNotifyFailedCount 1 } }

def ambiguousPending (job : ActiveRelayJob) (pending : PendingTransfer) : ActiveRelayJob :=
  { job.withFate .ambiguous with
    pendingTransfer := none
    summary := { job.summary with
      ambiguousTransfers := satAdd u32Max job.summary.ambiguousTransfers 1
      ambiguousE8s := satAdd u64Max job.summary.ambiguousE8s pending.grossShareE8s } }

def ambiguousPendingAfterAcceptance (job : ActiveRelayJob) (pending : PendingTransfer) :
    ActiveRelayJob :=
  { job.withFate .ambiguousAfterAcceptance with
    pendingTransfer := none
    summary := { job.summary with
      ambiguousTransfers := satAdd u32Max job.summary.ambiguousTransfers 1
      cmcNotifyAmbiguousCount := satAdd u32Max job.summary.cmcNotifyAmbiguousCount 1
      ambiguousE8s := satAdd u64Max job.summary.ambiguousE8s pending.grossShareE8s } }

end ActiveRelayJob

/-- The first sample with an amount, counting positions from `index`. -/
def nextPayable {α : Type} (amountE8s : α → Nat) : List α → Nat → Option (Nat × α)
  | [], _ => none
  | sample :: rest, index =>
      if amountE8s sample = 0 then nextPayable amountE8s rest (index + 1)
      else some (index, sample)

namespace ActiveRelayJob

def remainingTopups (job : ActiveRelayJob) : List CanisterBurnSample :=
  job.canisters.drop job.nextTransferIndex

def remainingSurplus (job : ActiveRelayJob) : List SurplusTransferSample :=
  job.surplusTransfers.drop job.surplusTransferIndex

def nextTopupPending (job : ActiveRelayJob) (tick nowNanos : Nat) : ActiveRelayJob × Bool :=
  match nextPayable (fun sample => sample.amountE8s) job.remainingTopups
      job.nextTransferIndex with
  | none =>
      ({ job with nextTransferIndex := max job.nextTransferIndex job.canisters.length }, false)
  | some (index, sample) =>
      ({ job with nextTransferIndex := index + 1 }.stage (.topup index) tick
        (.cmcTopUp sample.canisterId) sample.share nowNanos, true)

def nextSurplusPending (job : ActiveRelayJob) (tick nowNanos : Nat) : ActiveRelayJob × Bool :=
  if job.surplusTransfers.isEmpty then (job, false)
  else
    match job.surplusAllowedAfterTopups with
    | some reason =>
        ({ job with
          surplusTransfers := []
          surplusMemos := []
          surplusTransferIndex := 0
          summary := { job.summary with
            surplusE8sBeforeFees := 0
            skippedSurplusReason := some reason } }, false)
    | none =>
        match nextPayable SurplusTransferSample.amountE8s job.remainingSurplus
            job.surplusTransferIndex with
        | none =>
            ({ job with
              surplusTransferIndex :=
                max job.surplusTransferIndex job.surplusTransfers.length }, false)
        | some (index, plan) =>
            ({ job with surplusTransferIndex := index + 1 }.stage (.surplus index) tick
              (.surplusIcp plan.target plan.account ((job.surplusMemos[index]?).getD none))
              plan.share nowNanos, true)

def topupsRemain (job : ActiveRelayJob) : Bool :=
  job.remainingTopups.any fun sample => decide (0 < sample.amountE8s)

def surplusRemains (job : ActiveRelayJob) : Bool :=
  job.remainingSurplus.any fun plan => decide (0 < plan.amountE8s)

inductive PlanStep where
  | planned
  | paused
  | done
  deriving DecidableEq, Repr

def planNextTransfer (job : ActiveRelayJob) (maxTransfers : Option Nat) (started tick : Nat)
    (nowNanos : Nat) : ActiveRelayJob × PlanStep :=
  if !job.topupsRemain && !job.surplusRemains then
    ({ job with
      nextTransferIndex := job.canisters.length
      surplusTransferIndex := job.surplusTransfers.length }, .done)
  else if maxTransfers.any fun limit => decide (limit ≤ started) then
    ({ job with summary := { job.summary with
        partialTickCount := satAdd u32Max job.summary.partialTickCount 1 } }, .paused)
  else
    let topup := job.nextTopupPending tick nowNanos
    if topup.2 then (topup.1, .planned)
    else
      let surplus := topup.1.nextSurplusPending tick nowNanos
      if surplus.2 then (surplus.1, .planned) else (surplus.1, .done)

def topupPhaseDoneAndSurplusUnplanned (job : ActiveRelayJob) : Bool :=
  decide (job.canisters.length ≤ job.nextTransferIndex) && !job.surplusPhasePlanned

def disableSurplus (job : ActiveRelayJob) (reason : String) : ActiveRelayJob :=
  { job with
    surplusTransfers := []
    surplusMemos := []
    surplusTransferIndex := 0
    surplusPhasePlanned := true
    summary := { job.summary with
      surplusE8sBeforeFees := 0
      skippedSurplusReason := some reason
      plannedRetainedE8s := retainedE8s job.balanceStartE8s job.canisters []
      knownUnspentE8s := retainedE8s job.balanceStartE8s job.canisters [] } }

def installSurplus (job : ActiveRelayJob) (plan : SurplusPlan)
    (memos : List (Option (List UInt8))) : ActiveRelayJob :=
  { job with
    surplusTransfers := plan.transfers
    surplusMemos := memos
    surplusTransferIndex := 0
    surplusPhasePlanned := true
    summary := { job.summary with
      surplusE8sBeforeFees := plan.surplusE8sBeforeFees
      skippedSurplusReason := plan.skippedSurplusReason
      plannedRetainedE8s := retainedE8s job.balanceStartE8s job.canisters plan.transfers
      knownUnspentE8s := retainedE8s job.balanceStartE8s job.canisters plan.transfers } }

/-- The gross amounts of the transfers that a stopped job leaves unsent. -/
def returnUnsent (job : ActiveRelayJob) : ActiveRelayJob :=
  let unsent (shares : List Share) := satSum u64Max
    ((shares.filter fun share => decide (0 < share.amountE8s)).map Share.grossShareE8s)
  { job with summary := { job.summary with
      knownUnspentE8s := satAdd u64Max
        (satAdd u64Max job.summary.knownUnspentE8s
          (unsent (job.remainingTopups.map CanisterBurnSample.share)))
        (unsent (job.remainingSurplus.map SurplusTransferSample.share))
      skippedSurplusReason := some "ledger_fee_changed" } }

def finished (job : ActiveRelayJob) (nowNanos : Nat) : ActiveRelayJob :=
  { job with
    canisters := job.canisters.map fun sample =>
      { sample with
        remainingDeficitCycles := sample.targetTopupCycles - sample.actualMintedCycles }
    summary := { job.summary with completedAtTsNanos := some nowNanos } }

end ActiveRelayJob

def persistRecoveryDeficits (deficits : CycleMap) (samples : List BurnPlan) : CycleMap :=
  samples.foldl (fun map sample =>
    if 0 < sample.remainingDeficitCycles then
      map.insert sample.canisterId sample.remainingDeficitCycles
    else map.remove sample.canisterId) deficits

def insertCycles (map : CycleMap) (cycles : List (Principal × Nat)) : CycleMap :=
  cycles.foldl (fun map entry => map.insert entry.1 entry.2) map

def removeCycles (map : CycleMap) (cycles : List (Principal × Nat)) : CycleMap :=
  cycles.foldl (fun map entry => map.remove entry.1) map

namespace RelayState

def isCurrent (st : RelayState) (lease : Nat) : Bool := decide (st.mainLockStateTs = some lease)

def dropGuard (st : RelayState) (lease : Nat) : RelayState :=
  { st with mainLockStateTs := releaseLease lease st.mainLockStateTs }

def resolveIcpLedgerFeeE8s (st : RelayState) : Option Nat → RelayState × Nat
  | some fee => ({ st with lastKnownLedgerFeeE8s := some fee }, fee)
  | none => (st, st.lastKnownLedgerFeeE8s.getD icpLedgerFeeBootstrapFallbackE8s)

def recordBadFee (st : RelayState) (expectedFee : Nat) : RelayState :=
  if expectedFee ≤ u64Max then { st with lastKnownLedgerFeeE8s := some expectedFee } else st

def setActiveJob (st : RelayState) (job : ActiveRelayJob) : RelayState :=
  { st with activeJob := some job }

def pendingMatches (st : RelayState) (jobId : Nat) (expected : PendingTransfer) : Bool :=
  st.activeJob.any fun job => decide (job.id = jobId ∧ job.pendingTransfer = some expected)

/-- The `mark_pending` family: the job changes only if it still has the expected transfer. -/
def updatePending (st : RelayState) (jobId : Nat) (expected : PendingTransfer)
    (mark : ActiveRelayJob → ActiveRelayJob) : RelayState :=
  match st.activeJob with
  | none => st
  | some job =>
      if job.id = jobId ∧ job.pendingTransfer = some expected then st.setActiveJob (mark job)
      else st

def markPendingLedgerAccepted (st : RelayState) (jobId : Nat) (expected : PendingTransfer)
    (blockIndex : Nat) : RelayState :=
  st.updatePending jobId expected fun job => job.acceptPending expected blockIndex

def addMinted (st : RelayState) (canisterId : Principal) (mintedCycles : Nat) : RelayState :=
  { st with
    relayMintedCyclesSinceSample := st.relayMintedCyclesSinceSample.insert canisterId
      (satAdd u128Max ((st.relayMintedCyclesSinceSample canisterId).getD 0) mintedCycles)
    mints := (canisterId, mintedCycles) :: st.mints }

def markPendingCompleted (st : RelayState) (jobId : Nat) (expected : PendingTransfer)
    (minted : Option (Principal × Nat)) : RelayState :=
  if st.pendingMatches jobId expected then
    match minted with
    | none => st.updatePending jobId expected fun job => job.completePending none
    | some (canisterId, mintedCycles) =>
        (st.updatePending jobId expected fun job =>
          job.completePending (some (canisterId, mintedCycles))).addMinted canisterId mintedCycles
  else st

def markPendingFailed (st : RelayState) (jobId : Nat) (expected : PendingTransfer) :
    RelayState :=
  st.updatePending jobId expected fun job => job.failPending expected

def markPendingFailedAfterAcceptance (st : RelayState) (jobId : Nat)
    (expected : PendingTransfer) : RelayState :=
  st.updatePending jobId expected fun job => job.failPendingAfterAcceptance

def markPendingAmbiguous (st : RelayState) (jobId : Nat) (expected : PendingTransfer) :
    RelayState :=
  st.updatePending jobId expected fun job => job.ambiguousPending expected

def markPendingAmbiguousAfterAcceptance (st : RelayState) (jobId : Nat)
    (expected : PendingTransfer) : RelayState :=
  st.updatePending jobId expected fun job => job.ambiguousPendingAfterAcceptance expected

def retainEffectiveTargets (st : RelayState) (effective : List Principal) : RelayState :=
  { st with
    lastCompletedCycles := st.lastCompletedCycles.retain effective
    relayMintedCyclesSinceSample := st.relayMintedCyclesSinceSample.retain effective
    recoveryDeficitCycles := st.recoveryDeficitCycles.retain effective }

def accounts (st : RelayState) : CycleAccounts :=
  ⟨st.lastCompletedCycles, st.relayMintedCyclesSinceSample, st.recoveryDeficitCycles⟩

def record (st : RelayState) (update : AccountUpdate) : RelayState :=
  { st with records := ⟨update, st.accounts⟩ :: st.records }

def completeJob (st : RelayState) (managed : List Principal) (nowNanos : Nat) : RelayState :=
  match st.activeJob with
  | none => st
  | some job =>
      let job := job.finished nowNanos
      let samples := job.canisters.map CanisterBurnSample.toBurnPlan
      let st := st.retainEffectiveTargets managed
      { st with
        activeJob := none
        lastCompletedCycles := insertCycles st.lastCompletedCycles job.currentCycles
        recoveryDeficitCycles := persistRecoveryDeficits st.recoveryDeficitCycles samples
        lastSummary := some job.summary
        past := ⟨job, true⟩ :: st.past }.record (.run samples st.mints)

def stopActiveJobForLedgerFeeChange (st : RelayState) (managed : List Principal)
    (nowNanos : Nat) : RelayState :=
  match st.activeJob with
  | none => st
  | some job => (st.setActiveJob job.returnUnsent).completeJob managed nowNanos

def updateActiveJob (st : RelayState) (lease jobId : Nat)
    (f : ActiveRelayJob → ActiveRelayJob) : RelayState :=
  match st.activeJob with
  | none => st
  | some job =>
      if st.isCurrent lease && decide (job.id = jobId) && !job.surplusPhasePlanned then
        st.setActiveJob (f job)
      else st

end RelayState
end JupiterSuite.Relay
