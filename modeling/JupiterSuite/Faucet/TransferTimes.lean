import JupiterSuite.Faucet.PayoutRuns

/-! The transfers of a job have creation times that the ledger takes; the times are pairwise
distinct exactly as long as their counter neither runs ahead of the clock nor is used up. -/

namespace JupiterSuite.Faucet

open Base Memo

/-- The creation times of the transfers that the job staged. -/
structure TransferTimes (job : ActivePayoutJob) : Prop where
  valid : ∀ entry ∈ job.staged,
    createdAtTimeIsValidForLedger entry.createdAt entry.nowNanos = true
  distinct : (job.staged.map Staged.createdAt).Nodup ↔
    (∀ entry ∈ job.staged,
      entry.nextNanos ≤ satAdd u64Max entry.nowNanos ledgerCreatedAtMaxFutureSkewNanos) ∧
    ∀ entry ∈ job.staged.tail, entry.createdAt ≠ u64Max
  few : job.staged.length ≤ ledgerCreatedAtMaxFutureSkewNanos →
    (∀ entry ∈ job.staged, entry.nowNanos + ledgerCreatedAtMaxFutureSkewNanos < u64Max) →
    (job.staged.map Staged.createdAt).Nodup

section Times

variable {nowNanos : Nat} {job : ActivePayoutJob}

theorem steady_iff : ledgerWindow.Steady (job.staged.map Staged.stamp) ↔
    (∀ entry ∈ job.staged,
      entry.nextNanos ≤ satAdd u64Max entry.nowNanos ledgerCreatedAtMaxFutureSkewNanos) ∧
    ∀ entry ∈ job.staged.tail, entry.createdAt ≠ u64Max := by
  constructor
  · intro steady
    refine ⟨fun entry member => steady.near entry.stamp (List.mem_map_of_mem member), ?_⟩
    intro entry member
    have below := steady.below entry.stamp
    rw [← List.map_tail] at below
    exact below (List.mem_map_of_mem member)
  · rintro ⟨near, below⟩
    refine ⟨List.forall_mem_map.mpr near, ?_⟩
    rw [← List.map_tail]
    exact List.forall_mem_map.mpr below

theorem Identified.times (identified : Identified nowNanos job) : TransferTimes job := by
  rcases identified with ⟨start, _, draws, _⟩
  have values : (job.staged.map Staged.stamp).map Stamp.value = job.staged.map Staged.createdAt := by
    rw [List.map_map]
    rfl
  have distinct := draws.nodup_iff
  rw [values] at distinct
  refine ⟨?_, distinct.trans steady_iff, ?_⟩
  · intro entry member
    exact draws.admitted entry.stamp (List.mem_map_of_mem member)
  · intro few early
    apply distinct.mpr
    apply draws.steady_of_few
    · rw [List.length_map]
      exact few
    · exact List.forall_mem_map.mpr early

end Times

section Runs

variable {limits : ScanLimits} {fromText : Text → Option Principal} {sys : PayoutSystem}
  {job : ActivePayoutJob}

theorem transfer_times (reachable : (payoutMachine limits fromText).Reachable sys)
    (has : sys.state.HasJob job) : TransferTimes job := by
  rcases (payout_reachable reachable).sound.of_hasJob has with ⟨clock, sound⟩
  exact sound.identified.times

end Runs

section Samples

def routedCommitment (id : Nat) : IndexTx where
  id
  operation := .transfer "payer" "staking" 100000000
  icrc1Memo := some [69, 46, 97]
  timestamp := some 0
  createdAtTime := none

def routedPage : IndexPage := ⟨[routedCommitment 2, routedCommitment 1], some 1⟩

def routedRound (nowNanos : Nat) : List PayoutEvent :=
  [.begin 0 nowNanos true false,
    .resume 0 (.found 10000 200000000 ⟨9, 1000000000000000, 1000000000⟩) nowNanos,
    .resume 0 (.page (some routedPage)) nowNanos,
    .resume 0 (.page (some routedPage)) nowNanos,
    .ledger 0 (.accepted 7),
    .resume 0 (.transfer (some (.ok 7))) nowNanos]

def routedAfter (nowNanos : Nat) : PayoutSystem :=
  payoutAfter (fun _ => none) nowNanos (routedRound nowNanos)

theorem transfer_times_of_round : ∃ job,
    (routedAfter 1700000000000000000).state.activePayoutJob = some job ∧
      job.staged.length = 2 ∧ TransferTimes job := by
  have ran : (routedAfter 1700000000000000000).state.activePayoutJob.isSome = true := by
    decide +kernel
  rcases Option.isSome_iff_exists.mp ran with ⟨job, active⟩
  have two : (routedAfter 1700000000000000000).state.activePayoutJob.all
      (fun job => decide (job.staged.length = 2)) = true := by decide +kernel
  rw [active, Option.all_some, decide_eq_true_eq] at two
  have reachable : (payoutMachine {} fun _ => none).Reachable (routedAfter 1700000000000000000) :=
    payoutAfter_reachable (by decide +kernel)
  exact ⟨job, active, two, transfer_times reachable (.inl active)⟩

/-- At the end of time the counter stands still, and two transfers are created at once. -/
theorem transfer_times_repeat : ∃ job,
    (payoutMachine {} fun _ => none).Reachable (routedAfter u64Max) ∧
      (routedAfter u64Max).state.activePayoutJob = some job ∧
      ¬ (job.staged.map Staged.createdAt).Nodup := by
  have ran : (routedAfter u64Max).state.activePayoutJob.isSome = true := by decide +kernel
  rcases Option.isSome_iff_exists.mp ran with ⟨job, active⟩
  have times : (routedAfter u64Max).state.activePayoutJob.map
      (fun job => job.staged.map Staged.createdAt) = some [u64Max, u64Max] := by decide +kernel
  rw [active, Option.map_some, Option.some.injEq] at times
  refine ⟨job, payoutAfter_reachable (by decide +kernel), active, ?_⟩
  rw [times]
  decide

end Samples
end JupiterSuite.Faucet
