import JupiterSuite.Clients.LeaseGuards
import JupiterSuite.Memo.Policy

/-! The faucet's payout job and stable state. Health counters and CMC diagnostics are read by no
function modelled here. -/

namespace JupiterSuite.Faucet

open Base

inductive TransferKind where
  | beneficiary
  | cyclesTopUpRawFallback
  | rawIcp
  | neuronStake
  | remainderToRelay
  deriving DecidableEq, Repr

namespace TransferKind

def isBeneficiaryPayout : TransferKind → Bool
  | .remainderToRelay => false
  | _ => true

def requiresCmcNotify : TransferKind → Bool
  | .beneficiary => true
  | _ => false

end TransferKind

structure PendingNotification where
  kind : TransferKind
  beneficiary : Principal
  grossShareE8s : Nat
  amountE8s : Nat
  blockIndex : Nat
  nextStart : Option Nat
  transferMemo : Option (List UInt8)
  destinationSubaccount : Option (List UInt8)
  neuronId : Option Nat
  deriving DecidableEq, Repr

inductive PendingTransferPhase where
  | awaitingTransfer
  | transferAccepted
  deriving DecidableEq, Repr

structure PendingTransfer where
  notification : PendingNotification
  createdAtTimeNanos : Nat
  phase : PendingTransferPhase
  deriving DecidableEq, Repr

structure DispatchRecord where
  jobId : Nat
  pending : PendingTransfer
  dispatched : Bool
  deriving DecidableEq, Repr

structure SkipRange where
  startTxId : Nat
  endTxId : Nat
  deriving DecidableEq, Repr

inductive ForcedRescueReason where
  | bootstrapNoSuccess
  | indexAnchorMissing
  | indexLatestInvariantBroken
  | indexLatestUnreadable
  | cmcZeroSuccessRuns
  | accountingInvariantBroken
  | fundingTrancheBalanceMismatch
  | fundingDiscoveryUnreadable
  deriving DecidableEq, Repr

structure FundingTranche where
  txId : Nat
  timestampNanos : Nat
  amountE8s : Nat
  deriving DecidableEq, Repr

structure FundingScanState where
  anchorLastProcessedFundingTxId : Option Nat
  cursor : Option Nat
  candidate : Option FundingTranche
  deriving DecidableEq, Repr

inductive Fate where
  | awaiting
  | accepted
  | completed
  | failed
  | replaced
  | ambiguous
  | unusable
  | failedAfterAcceptance
  | ambiguousAfterAcceptance
  | refunded
  | refundedBelowFee
  deriving DecidableEq, Repr

structure Staged where
  number : Nat
  pending : PendingTransfer
  nowNanos : Nat
  nextNanos : Nat
  fate : Fate
  deriving DecidableEq, Repr

structure ActivePayoutJob where
  id : Nat
  feeE8s : Nat
  potStartE8s : Nat
  denomStakingBalanceE8s : Nat
  nextStart : Option Nat
  scanComplete : Bool
  ignoredUnderThreshold : Nat
  ignoredBadMemo : Nat
  grossOutflowE8s : Nat
  toppedUpCount : Nat
  toppedUpSumE8s : Nat
  toppedUpMinE8s : Option Nat
  toppedUpMaxE8s : Option Nat
  failedTopups : Nat
  ambiguousTopups : Nat
  remainderToRelayE8s : Nat
  pendingTransfer : Option PendingTransfer
  skipCandidateStartTxId : Option Nat
  skipCandidateEndTxId : Option Nat
  skipCandidateTxCount : Nat
  nextCreatedAtTimeNanos : Nat
  observedOldestTxId : Option Nat
  observedLatestTxId : Option Nat
  roundStartTimeNanos : Option Nat
  roundStartLatestTxId : Option Nat
  roundEndTimeNanos : Option Nat
  roundEndLatestTxId : Option Nat
  effectiveDenomStakingBalanceE8s : Option Nat
  effectiveDenomScanComplete : Option Bool
  fundingTxId : Option Nat
  fundingTxTimestampNanos : Option Nat
  fundingAmountE8s : Option Nat
  /-- The number of jobs before this one; no code reads it. -/
  serial : Nat
  /-- Every transfer staged so far, the latest first; no code reads it. -/
  staged : List Staged
  /-- The commitments whose neuron account could not be found; no code reads it. -/
  failedLookups : List Nat
  /-- The payout scan found a share that the pot does not hold; no code reads it. -/
  overAllocated : Bool
  deriving DecidableEq, Repr

/-- The part of the configuration that decides what a commitment is worth. -/
structure CommitmentPolicy where
  stakingAccountIdentifier : String
  minTxE8s : Nat
  stakeRecognitionDelaySeconds : Option Nat
  deriving DecidableEq, Repr

structure FaucetConfig where
  policy : CommitmentPolicy
  payoutSubaccount : Option (List UInt8)
  payoutAccountIdentifier : String
  fundingSourceAccountIdentifier : String
  cmcCanisterId : Principal
  governanceCanisterId : Principal
  canonicalRelayCanisterId : Principal
  expectedFirstStakingTxId : Option Nat
  mainIntervalSeconds : Nat
  deriving DecidableEq, Repr

structure Summary where
  potStartE8s : Nat
  potRemainingE8s : Nat
  denomStakingBalanceE8s : Nat
  effectiveDenomStakingBalanceE8s : Option Nat
  fundingTxId : Option Nat
  fundingAmountE8s : Option Nat
  roundEndLatestTxId : Option Nat
  roundEndTimeNanos : Option Nat
  lastProcessedFundingTxId : Option Nat
  toppedUpCount : Nat
  toppedUpSumE8s : Nat
  toppedUpMinE8s : Option Nat
  toppedUpMaxE8s : Option Nat
  failedTopups : Nat
  ambiguousTopups : Nat
  ignoredUnderThreshold : Nat
  ignoredBadMemo : Nat
  remainderToRelayE8s : Nat
  deriving DecidableEq, Repr

structure PastJob where
  job : ActivePayoutJob
  policy : CommitmentPolicy
  summary : Summary
  deriving DecidableEq, Repr

structure FaucetState where
  config : FaucetConfig
  lastSummary : Option Summary
  forcedRescueReason : Option ForcedRescueReason
  skipRangeInvariantFault : Bool
  mainLockStateTs : Option Nat
  payoutNonce : Nat
  activePayoutJob : Option ActivePayoutJob
  lastMainRunTs : Nat
  currentRoundStartTimeNanos : Option Nat
  currentRoundStartLatestTxId : Option Nat
  lastProcessedFundingTxId : Option Nat
  activeFundingScan : Option FundingScanState
  dispatch : Option DispatchRecord
  skipRanges : List SkipRange
  /-- The finished jobs, the latest first; no code reads it. -/
  past : List PastJob

def FaucetState.new (config : FaucetConfig) (nowSecs : Nat) : FaucetState where
  config
  lastSummary := none
  forcedRescueReason := none
  skipRangeInvariantFault := false
  mainLockStateTs := some 0
  payoutNonce := 1
  activePayoutJob := none
  lastMainRunTs := nowSecs - 10 * 365 * 24 * 60 * 60
  currentRoundStartTimeNanos := none
  currentRoundStartLatestTxId := none
  lastProcessedFundingTxId := none
  activeFundingScan := none
  dispatch := none
  skipRanges := []
  past := []

/-- The pages and the cache of the scans. The cache is switched off only in comparisons. -/
structure ScanLimits where
  pageSize : Nat := 500
  maxIndexPagesPerPayoutTick : Nat := 64
  maxFundingScanPagesPerTick : Nat := 128
  minSkipRangeTxCount : Nat := 10000
  cacheEnabled : Bool := true
  deriving DecidableEq, Repr

def ActivePayoutJob.denomScanComplete (job : ActivePayoutJob) : Bool :=
  job.effectiveDenomScanComplete.getD true

def ActivePayoutJob.denomE8s (job : ActivePayoutJob) : Nat :=
  job.effectiveDenomStakingBalanceE8s.getD job.denomStakingBalanceE8s

namespace FaucetState

def isCurrent (st : FaucetState) (lease : Nat) : Bool :=
  decide (st.mainLockStateTs = some lease)

def latchForcedRescueReason (st : FaucetState) (reason : ForcedRescueReason) : FaucetState :=
  match st.forcedRescueReason with
  | none => { st with forcedRescueReason := some reason }
  | some _ => st

def latchSkipRangeInvariantFault (st : FaucetState) : FaucetState :=
  { st with skipRangeInvariantFault := true }

def setJob (st : FaucetState) (job : ActivePayoutJob) : FaucetState :=
  { st with activePayoutJob := some job }

end FaucetState
end JupiterSuite.Faucet
