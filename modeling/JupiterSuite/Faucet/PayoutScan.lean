import JupiterSuite.Faucet.SkipRanges
import JupiterSuite.Faucet.FundingDriver

/-! The denominator pass over one page of the staking history, and the spans without relevant
records that it learns for the cache. -/

namespace JupiterSuite.Faucet

open Base Memo

section Candidates

structure LocalSkipCandidate where
  startTxId : Option Nat
  endTxId : Option Nat
  txCount : Nat
  deriving DecidableEq, Repr

def ActivePayoutJob.skipCandidate (job : ActivePayoutJob) : LocalSkipCandidate :=
  ⟨job.skipCandidateStartTxId, job.skipCandidateEndTxId, job.skipCandidateTxCount⟩

def ActivePayoutJob.setSkipCandidate (job : ActivePayoutJob) (candidate : LocalSkipCandidate) :
    ActivePayoutJob :=
  { job with
    skipCandidateStartTxId := candidate.startTxId
    skipCandidateEndTxId := candidate.endTxId
    skipCandidateTxCount := candidate.txCount }

namespace LocalSkipCandidate

def empty : LocalSkipCandidate := ⟨none, none, 0⟩

variable (candidate : LocalSkipCandidate)

def noteSkippable (txId : Nat) : LocalSkipCandidate :=
  if candidate.txCount = 0 then ⟨some txId, some txId, 1⟩
  else { candidate with
    endTxId := some txId
    txCount := satAdd u64Max candidate.txCount 1 }

/-- The span counts records, never ids; both ends are there once a record was counted. -/
def finishSpan (minSkipRangeTxCount : Nat) : Option SkipRange :=
  if minSkipRangeTxCount ≤ candidate.txCount then
    match candidate.endTxId, candidate.startTxId with
    | some low, some high => some ⟨low, high⟩
    | _, _ => none
  else none

end LocalSkipCandidate

/-- The map, and whether every range was accepted; earlier ranges stay when one is refused. -/
def persistNewSkipRanges : List SkipRange → List SkipRange → List SkipRange × Bool
  | ranges, [] => (ranges, true)
  | ranges, range :: rest =>
      match insertSkipRange ranges range with
      | .error _ => (ranges, false)
      | .ok ranges => persistNewSkipRanges ranges rest

variable (limits : ScanLimits)

def FaucetState.skipRangeContaining (st : FaucetState) (txId : Nat) :
    Except SkipRangeInsertError (Option SkipRange) :=
  if limits.cacheEnabled then Faucet.skipRangeContaining st.skipRanges txId else .ok none

def FaucetState.learn (st : FaucetState) (learned : List SkipRange) : FaucetState × Bool :=
  if limits.cacheEnabled then
    let (ranges, accepted) := persistNewSkipRanges st.skipRanges learned
    ({ st with skipRanges := ranges }, accepted)
  else (st, true)

end Candidates

section Denominator

structure DenomPass where
  denomDeltaE8s : Nat
  skipCandidate : LocalSkipCandidate
  pendingSkipRanges : List SkipRange
  deriving DecidableEq, Repr

inductive DenomFailure where
  | overflow
  | skipRange
  deriving DecidableEq, Repr

variable (limits : ScanLimits) (fromText : Text → Option Principal) (st : FaucetState)
  (job : ActivePayoutJob) (nowNanos : Nat)

def DenomPass.recordCompletedSkipRange (pass : DenomPass) : DenomPass :=
  { pass with
    skipCandidate := .empty
    pendingSkipRanges := pass.pendingSkipRanges ++
      (pass.skipCandidate.finishSpan limits.minSkipRangeTxCount).toList }

def DenomPass.noteSkippable (pass : DenomPass) (txId : Nat) : DenomPass :=
  { pass with skipCandidate := pass.skipCandidate.noteSkippable txId }

def denomTransaction (pass : DenomPass) (tx : IndexTx) : Except DenomFailure DenomPass :=
  if job.roundEndLatestTxId.any fun last => decide (last < tx.id) then
    .ok (pass.recordCompletedSkipRange limits)
  else
    match st.skipRangeContaining limits tx.id with
    | .error _ => .error .skipRange
    | .ok (some _) => .ok (pass.recordCompletedSkipRange limits)
    | .ok none =>
        match memoBytesFromIndexTx tx st.config.policy.stakingAccountIdentifier with
        | none => .ok (pass.noteSkippable tx.id)
        | some commitment =>
            match classifyCommitment fromText st.config.policy.minTxE8s commitment with
            | .ignoreUnderThreshold | .ignoreBadMemo => .ok (pass.noteSkippable tx.id)
            | .valid _ =>
                -- Eligibility ends a span, not the weight of the commitment.
                let pass := pass.recordCompletedSkipRange limits
                let weightedAmountE8s := (commitmentAmountForJobPayoutE8s job commitment tx.id
                  (indexTxTimestampNanos tx) nowNanos
                  st.config.policy.recognitionDelaySeconds).getD 0
                match checkedAdd u64Max pass.denomDeltaE8s weightedAmountE8s with
                | none => .error .overflow
                | some denomDeltaE8s => .ok { pass with denomDeltaE8s := denomDeltaE8s }

def denomTransactions : DenomPass → List IndexTx → Except DenomFailure DenomPass
  | pass, [] => .ok pass
  | pass, tx :: rest =>
      match denomTransaction limits fromText st job nowNanos pass tx with
      | .error failure => .error failure
      | .ok pass => denomTransactions pass rest

/-- The job after a page of the denominator pass; a complete pass starts the payout pass. -/
def ActivePayoutJob.applyDenomPage (active : ActivePayoutJob) (page : IndexPage)
    (denominatorE8s : Nat) (skipCandidate : LocalSkipCandidate) (scanComplete : Bool) :
    ActivePayoutJob :=
  let active := { active.setSkipCandidate skipCandidate with
    effectiveDenomStakingBalanceE8s := some denominatorE8s
    observedOldestTxId := page.oldestTxId
    observedLatestTxId :=
      match page.transactions.head? with
      | some tx => some (max (active.observedLatestTxId.getD tx.id) tx.id)
      | none => active.observedLatestTxId }
  if scanComplete then
    { active.setSkipCandidate .empty with
      effectiveDenomScanComplete := some true
      nextStart := none }
  else { active with nextStart := (page.transactions.getLast?.map IndexTx.id).or active.nextStart }

/-- What a validated page makes of the state: nothing when the denominator does not fit, and the
fault that stops the payout when the cache is broken. -/
inductive DenomResult where
  | overflow
  | fault (st : FaucetState)
  | applied (st : FaucetState)

def applyDenomPage (page : IndexPage) (scanComplete : Bool) : DenomResult :=
  match denomTransactions limits fromText st job nowNanos ⟨0, job.skipCandidate, []⟩
      page.transactions with
  | .error .overflow => .overflow
  | .error .skipRange => .fault st.latchSkipRangeInvariantFault
  | .ok pass =>
      match checkedAdd u64Max (job.effectiveDenomStakingBalanceE8s.getD 0)
          pass.denomDeltaE8s with
      | none => .overflow
      | some denominatorE8s =>
          let pass := if scanComplete then pass.recordCompletedSkipRange limits else pass
          match st.learn limits pass.pendingSkipRanges with
          | (st, false) => .fault st.latchSkipRangeInvariantFault
          | (st, true) =>
              .applied (match st.activePayoutJob with
                | none => st
                | some active => st.setJob (active.applyDenomPage page denominatorE8s
                    pass.skipCandidate scanComplete))

end Denominator

section Jumps

variable (limits : ScanLimits) (st : FaucetState) (job : ActivePayoutJob)

def ActivePayoutJob.jump (active : ActivePayoutJob) (low : Nat) (complete : Bool) :
    ActivePayoutJob :=
  let active := { active.setSkipCandidate .empty with nextStart := some low }
  if complete then
    if active.denomScanComplete then { active with scanComplete := true }
    else { active with effectiveDenomScanComplete := some true, nextStart := none }
  else active

/-- `skip_cached_history` of the active job: no jump, a jump, or a broken cache. Only the next id
that may be unread decides; an unverified gap is never crossed. -/
def skipCachedHistory : Except SkipRangeInsertError (Option FaucetState) :=
  match job.observedOldestTxId, job.nextStart with
  | some oldest, some (unread + 1) =>
      match st.skipRangeContaining limits unread with
      | .error error => .error error
      | .ok none => .ok none
      | .ok (some range) =>
          if range.startTxId < oldest then .error .invalidRange
          else
            let complete := decide (range.startTxId = oldest)
            let learned := if job.denomScanComplete then []
              else (job.skipCandidate.finishSpan limits.minSkipRangeTxCount).toList
            match st.learn limits learned with
            | (_, false) => .error .invalidRange
            | (st, true) => .ok (some (st.setJob (job.jump range.startTxId complete)))
  | _, _ => .ok none

end Jumps
end JupiterSuite.Faucet
