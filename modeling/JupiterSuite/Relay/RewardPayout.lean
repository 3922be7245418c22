import JupiterSuite.Relay.RewardBudget
import JupiterSuite.Relay.SplitterState

/-! The pinned reward payout: how attribution fills it, the state that stores it, and the updates
of that state. Storing a state asserts its bounds. -/

namespace JupiterSuite.Relay

open Base

def rewardSweepIntervalSeconds : Nat := 7 * 24 * 60 * 60

def rewardMemoMark : List UInt8 := [74, 82, 83, 49]

structure PendingRewardRecipient where
  recipient : Account
  amount : Nat
  memo : List UInt8
  createdAtTimeNanos : Nat
  deriving DecidableEq, Repr

structure PendingRewardPayout where
  snsLedgerCanisterId : Principal
  attributionCommitmentTxId : Nat
  fee : Nat
  recipients : List PendingRewardRecipient
  nextRecipientIndex : Nat
  deriving DecidableEq, Repr

structure RewardState where
  lastSweepAttemptTimestampSeconds : Nat := 0
  pendingPayout : Option PendingRewardPayout := none
  deriving DecidableEq, Repr

inductive SweepDisposition where
  | completed
  | retryNextDailyTick
  deriving DecidableEq, Repr

structure SweepGeneration where
  mainLease : Nat
  lastCompletedSweepSecs : Nat
  deriving DecidableEq, Repr

section Plan

def terminalRewardPotHoldReason (balance fee : Nat) : Option String :=
  if balance = 0 then some "zero_reward_balance"
  else if balance ≤ fee then some "balance_not_above_plan_fees"
  else if balance - fee < fee * 10 then some "plan_fees_over_10_percent"
  else none

/-- The `try_fold` of both sums, from what is summed already. -/
def sumWeights (limit : Nat) (eligible : List (Principal × Nat)) (start : Nat) :
    Except String Nat :=
  match eligible with
  | [] => .ok start
  | (_, weight) :: rest =>
      match checkedAdd limit start weight with
      | none => .error "contribution_overflow"
      | some sum => sumWeights limit rest sum

def sumEligibleWeight (eligible : List (Principal × Nat)) : Except String Nat :=
  sumWeights u64Max eligible 0

def allocateFloors (balance fee totalWeight : Nat) :
    List (Principal × Nat) → Nat → Nat → Except String (List (Principal × Nat))
  | [], _, _ => .ok []
  | (principal, weight) :: rest, running, previousFloor =>
      match checkedAdd u128Max running weight with
      | none => .error "contribution_overflow"
      | some running =>
          let floor := running * balance / totalWeight
          let grossEntitlement := floor - previousFloor
          let transferAmount := grossEntitlement - fee
          (allocateFloors balance fee totalWeight rest running floor).map fun allocations =>
            if fee < grossEntitlement ∧ fee * 10 ≤ transferAmount then
              (principal, transferAmount) :: allocations
            else allocations

def proportionalRewardAllocations (balance fee : Nat) (eligible : List (Principal × Nat)) :
    Except String (List (Principal × Nat)) :=
  if eligible.isEmpty then .error "no_eligible_owner"
  else do
    let totalWeight ← sumWeights u128Max eligible 0
    if totalWeight = 0 then .error "no_eligible_owner"
    else do
      let allocations ← allocateFloors balance fee totalWeight eligible 0 0
      if allocations.isEmpty then .error "no_economical_reward_recipient" else .ok allocations

def u32ToBeBytes (n : Nat) : List UInt8 :=
  [UInt8.ofNat (n / 2 ^ 24), UInt8.ofNat (n / 2 ^ 16), UInt8.ofNat (n / 2 ^ 8), UInt8.ofNat n]

def rewardMemo (commitmentTxId recipientIndex : Nat) : Except String (List UInt8) :=
  if recipientIndex < 2 ^ 32 then
    .ok (rewardMemoMark ++ u64ToBeBytes commitmentTxId ++ u32ToBeBytes recipientIndex)
  else .error "reward_recipient_index_overflow"

def pendingRecipients (commitmentTxId nowNanos : Nat) :
    List (Principal × Nat) → Nat → Except String (List PendingRewardRecipient)
  | [], _ => .ok []
  | (principal, amount) :: rest, index => do
      let memo ← rewardMemo commitmentTxId index
      let recipients ← pendingRecipients commitmentTxId nowNanos rest (index + 1)
      .ok (⟨⟨principal, none⟩, amount, memo, nowNanos⟩ :: recipients)

def buildPendingPayout (snsLedgerCanisterId : Principal) (commitmentTxId fee : Nat)
    (allocations : List (Principal × Nat)) (nowNanos : Nat) :
    Except String PendingRewardPayout := do
  let recipients ← pendingRecipients commitmentTxId nowNanos allocations 0
  if recipients.isEmpty then .error "reward_plan_has_no_transferable_recipient"
  else .ok ⟨snsLedgerCanisterId, commitmentTxId, fee, recipients, 0⟩

end Plan

section Store

/-- What `set` asserts of the payout that it stores. -/
def PendingRewardPayout.inBounds (payout : PendingRewardPayout) : Bool :=
  !payout.recipients.isEmpty && decide (payout.nextRecipientIndex < payout.recipients.length)

def RewardState.storable (reward : RewardState) : Bool :=
  reward.pendingPayout.all PendingRewardPayout.inBounds

structure RewardCanister where
  mainLockStateTs : Option Nat
  reward : RewardState
  /-- The payouts as they were installed, the latest last; no code reads it. -/
  installed : List PendingRewardPayout
  deriving DecidableEq, Repr

/-- A failed assertion or `expect` traps; there is no state after it. -/
abbrev Trapping (α : Type) := Option α

namespace RewardCanister

def isCurrent (st : RewardCanister) (lease : Nat) : Bool := decide (st.mainLockStateTs = some lease)

def dropGuard (st : RewardCanister) (lease : Nat) : RewardCanister :=
  { st with mainLockStateTs := releaseLease lease st.mainLockStateTs }

def set (st : RewardCanister) (reward : RewardState) : Trapping RewardCanister :=
  if reward.storable then some { st with reward } else none

def setPending (st : RewardCanister) (pending : Option PendingRewardPayout) :
    Trapping RewardCanister :=
  st.set { st.reward with pendingPayout := pending }

def recordCadence (st : RewardCanister) (nowSecs : Nat) : Trapping RewardCanister :=
  st.set { st.reward with
    lastSweepAttemptTimestampSeconds := max st.reward.lastSweepAttemptTimestampSeconds nowSecs }

/-- `mutate` stores the state again when its closure has changed nothing. -/
def keep (st : RewardCanister) : Trapping RewardCanister := st.set st.reward

def installPendingIfCurrent (st : RewardCanister) (generation : SweepGeneration)
    (pending : PendingRewardPayout) : Trapping (RewardCanister × Bool) :=
  if !st.isCurrent generation.mainLease then some (st, false)
  else if st.reward.pendingPayout.isSome ∨
      st.reward.lastSweepAttemptTimestampSeconds ≠ generation.lastCompletedSweepSecs then
    st.keep.map fun st => (st, false)
  else
    (st.setPending (some pending)).map fun st =>
      ({ st with installed := st.installed ++ [pending] }, true)

def recordSweepDispositionIfCurrent (st : RewardCanister) (disposition : SweepDisposition)
    (nowSecs : Nat) (generation : SweepGeneration) : Trapping RewardCanister :=
  if disposition = .completed && st.isCurrent generation.mainLease then
    if st.reward.lastSweepAttemptTimestampSeconds = generation.lastCompletedSweepSecs then
      st.recordCadence nowSecs
    else st.keep
  else some st

inductive AdvanceResult where
  | more
  | cleared
  | stale
  deriving DecidableEq, Repr

/-- The index is a `u32`; the conversion of the next one is expected to succeed. -/
def advanceExpectedPayout (st : RewardCanister) (expected : PendingRewardPayout) :
    Trapping (RewardCanister × AdvanceResult) :=
  if st.reward.pendingPayout ≠ some expected then st.keep.map fun st => (st, .stale)
  else
    let next := expected.nextRecipientIndex + 1
    if next = expected.recipients.length then
      (st.setPending none).map fun st => (st, .cleared)
    else if next < 2 ^ 32 then
      (st.setPending (some { expected with nextRecipientIndex := next })).map fun st =>
        (st, .more)
    else none

def clearExpectedPayout (st : RewardCanister) (expected : PendingRewardPayout) :
    Trapping (RewardCanister × Bool) :=
  if st.reward.pendingPayout ≠ some expected then st.keep.map fun st => (st, false)
  else (st.setPending none).map fun st => (st, true)

end RewardCanister

def sweepIsDue (lastCompletedSweepSecs nowSecs : Nat) (force : Bool) : Bool :=
  force || decide (lastCompletedSweepSecs = 0) ||
    decide (rewardSweepIntervalSeconds ≤ nowSecs - lastCompletedSweepSecs)

end Store
end JupiterSuite.Relay
