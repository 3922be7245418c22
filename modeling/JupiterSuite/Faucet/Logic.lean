import JupiterSuite.Faucet.State
import JupiterSuite.Base.Shares

/-! What a commitment is worth in a round, its share of the pot, and the validation of the
index pages it is read from. -/

namespace JupiterSuite.Faucet

open Base Memo

section Records

inductive IndexOperation where
  | approve (sender spender : String)
  | burn (sender : String) (amountE8s : Nat)
  | mint (receiver : String) (amountE8s : Nat)
  | transfer (sender receiver : String) (amountE8s : Nat)
  deriving DecidableEq, Repr

structure IndexTx where
  id : Nat
  operation : IndexOperation
  icrc1Memo : Option (List UInt8)
  timestamp : Option Nat
  createdAtTime : Option Nat
  deriving DecidableEq, Repr

structure IndexPage where
  transactions : List IndexTx
  oldestTxId : Option Nat
  deriving DecidableEq, Repr

structure Commitment where
  amountE8s : Nat
  memoBytes : Option (List UInt8)
  deriving DecidableEq, Repr

inductive PayoutTarget where
  | cyclesTopUp (canisterId : Principal)
  | rawIcp (canisterId : Principal) (destinationSubaccount : Option (List UInt8))
      (memo : List UInt8)
  | neuronStake (neuronId : Nat) (memo : Option (List UInt8))
  deriving DecidableEq, Repr

inductive CommitmentValidity where
  | ignoreUnderThreshold
  | ignoreBadMemo
  | valid (target : PayoutTarget)
  deriving DecidableEq, Repr

def parsePayoutTargetFromMemo (fromText : Text → Option Principal) (memo : List UInt8) :
    Option PayoutTarget :=
  (parseMemoDirective fromText memo).map fun directive =>
    match directive with
    | .topUp canisterId => .cyclesTopUp canisterId
    | .rawIcp canisterId destinationSubaccount memo =>
        .rawIcp canisterId destinationSubaccount memo
    | .neuronStake neuronId memo => .neuronStake neuronId memo

def memoBytesFromIndexTx (tx : IndexTx) (stakingAccountIdentifier : String) :
    Option Commitment :=
  match tx.operation with
  | .transfer _ receiver amountE8s =>
      if receiver = stakingAccountIdentifier then
        some ⟨amountE8s, tx.icrc1Memo.filter fun memo => !memo.isEmpty⟩
      else none
  | _ => none

def classifyCommitment (fromText : Text → Option Principal) (minTxE8s : Nat)
    (commitment : Commitment) : CommitmentValidity :=
  if commitment.amountE8s < minTxE8s then .ignoreUnderThreshold
  else
    match commitment.memoBytes with
    | none => .ignoreBadMemo
    | some memo =>
        if memo.isEmpty then .ignoreBadMemo
        else
          match parsePayoutTargetFromMemo fromText memo with
          | none => .ignoreBadMemo
          | some target => .valid target

def indexTxTimestampNanos (tx : IndexTx) : Option Nat := tx.timestamp.or tx.createdAtTime

end Records

section Weights

def satMulU64 (a b : Nat) : Nat := min (a * b) u64Max

def conservativeEffectiveTimestampNanos (txTimestampNanos delaySeconds : Nat) : Nat :=
  satAdd u64Max txTimestampNanos (satMulU64 delaySeconds nanosPerSecond)

def computeRawShareE8s (amountE8s potStartE8s denomE8s : Nat) : Nat :=
  if potStartE8s = 0 ∨ denomE8s = 0 then 0
  else min (min (amountE8s * potStartE8s) u128Max / denomE8s) u64Max

def computeWeightedAmountE8s (rawAmountE8s roundStartTimeNanos roundEndTimeNanos
    effectiveTimestampNanos : Nat) : Nat :=
  if rawAmountE8s = 0 ∨ roundEndTimeNanos ≤ roundStartTimeNanos then 0
  else if effectiveTimestampNanos ≤ roundStartTimeNanos then rawAmountE8s
  else if roundEndTimeNanos ≤ effectiveTimestampNanos then 0
  else
    min (min (rawAmountE8s * (roundEndTimeNanos - effectiveTimestampNanos)) u128Max /
      (roundEndTimeNanos - roundStartTimeNanos)) u64Max

def effectiveCommitmentTimestampNanos (txTimestampNanos : Option Nat)
    (roundEndTimeNanos delaySeconds : Nat) : Nat :=
  conservativeEffectiveTimestampNanos (txTimestampNanos.getD roundEndTimeNanos) delaySeconds

/-- Commitments recognized by the end of a round without a start count in full. -/
def recognizedAmount (commitment : Commitment) (txTimestampNanos : Option Nat)
    (roundEndTimeNanos delaySeconds : Nat) : Nat :=
  if txTimestampNanos.any fun timestamp =>
      decide (conservativeEffectiveTimestampNanos timestamp delaySeconds ≤ roundEndTimeNanos) then
    commitment.amountE8s
  else 0

def genesisRoundAmountForCommitmentE8s (commitment : Commitment) (txId : Nat)
    (txTimestampNanos roundEndLatestTxId : Option Nat) (roundEndTimeNanos delaySeconds : Nat) :
    Option Nat :=
  if roundEndLatestTxId.any fun last => decide (last < txId) then none
  else some (recognizedAmount commitment txTimestampNanos roundEndTimeNanos delaySeconds)

def commitmentAmountForPayoutE8s (commitment : Commitment) (txId : Nat)
    (txTimestampNanos roundStartTimeNanos roundEndLatestTxId : Option Nat)
    (roundEndTimeNanos delaySeconds : Nat) : Option Nat :=
  if roundEndLatestTxId.any fun last => decide (last < txId) then none
  else
    match roundStartTimeNanos with
    | none => some (recognizedAmount commitment txTimestampNanos roundEndTimeNanos delaySeconds)
    | some roundStart =>
        if roundEndTimeNanos ≤ roundStart then some 0
        else
          some (computeWeightedAmountE8s commitment.amountE8s roundStart roundEndTimeNanos
            (effectiveCommitmentTimestampNanos txTimestampNanos roundEndTimeNanos delaySeconds))

def commitmentAmountForJobPayoutE8s (job : ActivePayoutJob) (commitment : Commitment)
    (txId : Nat) (txTimestampNanos : Option Nat) (nowNanos delaySeconds : Nat) : Option Nat :=
  let roundEndTimeNanos := job.roundEndTimeNanos.getD nowNanos
  if job.roundStartTimeNanos.isNone && job.roundStartLatestTxId.isNone then
    genesisRoundAmountForCommitmentE8s commitment txId txTimestampNanos job.roundEndLatestTxId
      roundEndTimeNanos delaySeconds
  else
    commitmentAmountForPayoutE8s commitment txId txTimestampNanos job.roundStartTimeNanos
      job.roundEndLatestTxId roundEndTimeNanos delaySeconds

def defaultStakeRecognitionDelaySeconds : Nat := 24 * 60 * 60

def CommitmentPolicy.recognitionDelaySeconds (policy : CommitmentPolicy) : Nat :=
  policy.stakeRecognitionDelaySeconds.getD defaultStakeRecognitionDelaySeconds

end Weights

section Pages

def strictlyDescending : List IndexTx → Bool
  | first :: second :: rest =>
      decide (second.id < first.id) && strictlyDescending (second :: rest)
  | _ => true

/-- `some true` proves that the history is exhausted. -/
def validateHistoryPage (pageSize : Nat) (page : IndexPage) (cursor expectedOldest : Option Nat) :
    Option Bool :=
  let txs := page.transactions
  if (expectedOldest.any fun id => decide (page.oldestTxId ≠ some id)) ||
      decide (pageSize < txs.length) || !strictlyDescending txs ||
      (txs.head?.any fun tx => cursor.any fun id => decide (id ≤ tx.id)) ||
      (txs.any fun tx => page.oldestTxId.all fun id => decide (tx.id < id)) then
    none
  else
    match txs.getLast? with
    | none =>
        match cursor, page.oldestTxId with
        | none, none => some true
        | some cursor, some oldest => if cursor = oldest then some true else none
        | _, _ => none
    | some last => some (decide (some last.id = page.oldestTxId))

end Pages

section Summaries

def summaryFromJob (job : ActivePayoutJob) : Summary where
  potStartE8s := job.potStartE8s
  potRemainingE8s := job.potStartE8s - job.grossOutflowE8s
  denomStakingBalanceE8s := job.denomStakingBalanceE8s
  effectiveDenomStakingBalanceE8s := job.effectiveDenomStakingBalanceE8s
  fundingTxId := job.fundingTxId
  fundingAmountE8s := job.fundingAmountE8s
  roundEndLatestTxId := job.roundEndLatestTxId
  roundEndTimeNanos := job.roundEndTimeNanos
  lastProcessedFundingTxId := job.fundingTxId
  toppedUpCount := job.toppedUpCount
  toppedUpSumE8s := job.toppedUpSumE8s
  toppedUpMinE8s := job.toppedUpMinE8s
  toppedUpMaxE8s := job.toppedUpMaxE8s
  failedTopups := job.failedTopups
  ambiguousTopups := job.ambiguousTopups
  ignoredUnderThreshold := job.ignoredUnderThreshold
  ignoredBadMemo := job.ignoredBadMemo
  remainderToRelayE8s := job.remainderToRelayE8s

end Summaries
end JupiterSuite.Faucet
