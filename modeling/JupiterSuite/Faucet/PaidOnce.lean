import JupiterSuite.Faucet.PayoutRuns

/-! A commitment is not paid twice: the fallback of a top-up is staged only when the top-up can no
longer debit the payout account, or was refunded. -/

namespace JupiterSuite.Faucet

open Base Memo

/-- The fallbacks and the failures of a job against the calls that the ledger saw. -/
structure PaidOnce (sys : PayoutSystem) (job : ActivePayoutJob) : Prop where
  fallback : ∀ newer raw older, job.staged = newer ++ raw :: older →
    raw.pending.notification.kind = .cyclesTopUpRawFallback →
    ∃ topUp rest, older = topUp :: rest ∧
      topUp.pending.notification.kind = .beneficiary ∧
      raw.pending.notification.beneficiary = topUp.pending.notification.beneficiary ∧
      (topUp.fate = .replaced ∧ sys.ledger.Refused (job.tagOf topUp) ∨
        topUp.fate = .refunded ∧ ∃ refund ∈ sys.refunds, refund.tag = job.tagOf topUp)
  failed : ∀ entry ∈ job.staged, entry.fate = .failed → sys.ledger.Refused (job.tagOf entry)
  undebited : ∀ entry ∈ job.staged, entry.fate = .failed ∨ entry.fate = .replaced →
    sys.ledger.debits (fun tag => decide (tag = job.tagOf entry)) = 0
  calls : ∀ call ∈ sys.ledger, call.tag.serial = job.serial →
    ∃ entry ∈ job.staged, call.tag = job.tagOf entry ∧ ∃ account,
      call.arg = payoutTransferArg sys.state.config account entry.pending job.feeE8s

section Results

variable {limits : ScanLimits} {fromText : Text → Option Principal} {sys : PayoutSystem}
  {job : ActivePayoutJob}

theorem Fallbacks.tail {entry : Staged} {rest : List Staged}
    (fallbacks : Fallbacks (entry :: rest)) : Fallbacks rest := by
  cases fallbacks with
  | plain _ earlier => exact earlier
  | fallback _ _ _ earlier => exact earlier

theorem Fallbacks.suffix {newer older : List Staged} (fallbacks : Fallbacks (newer ++ older)) :
    Fallbacks older := by
  induction newer with
  | nil => exact fallbacks
  | cons entry newer ih => exact ih fallbacks.tail

/-- The fallback of a top-up never pays for a top-up that was or can be paid. -/
theorem commitment_paid_once (reachable : (payoutMachine limits fromText).Reachable sys)
    (has : sys.state.HasJob job) : PaidOnce sys job := by
  have state := (payout_reachable reachable).sound
  rcases state.of_hasJob has with ⟨clock, sound⟩
  refine ⟨?_, fun entry member lost => sound.refused entry member (.inl lost), ?_, ?_⟩
  · intro newer raw older shape kind
    have fallbacks := (shape ▸ sound.fallbacks).suffix
    cases fallbacks with
    | plain plain _ => exact absurd kind plain
    | @fallback _ topUp rest kind same fate earlier =>
        have member : topUp ∈ job.staged := by simp [shape]
        refine ⟨topUp, rest, rfl, kind, same, ?_⟩
        rcases fate with replaced | refunded
        · exact .inl ⟨replaced, sound.refused topUp member (.inr replaced)⟩
        · exact .inr ⟨refunded, sound.refunds topUp member (.inl refunded)⟩
  · intro entry member lost
    apply CallLog.debits_eq_zero
    intro tag chosen
    rw [of_decide_eq_true chosen]
    exact sound.refused entry member lost
  · intro call present serial
    rcases state.calls call present with ⟨owner, owns, entry, staged, tag, account, _, arg⟩
    have same : owner.serial = job.serial := by
      rw [← serial, tag]
      rfl
    rw [state.serial_injective owns has same] at staged tag arg
    exact ⟨entry, staged, tag, account, arg⟩

end Results

section Samples

def rejectedRound : List PayoutEvent :=
  [.begin 0 topUpNow true false,
    .resume 0 (.found 10000 100000000 ⟨9, 1000000000000000, 1000000000⟩) topUpNow,
    .resume 0 (.page (some topUpPage)) topUpNow,
    .resume 0 (.page (some topUpPage)) topUpNow,
    .ledger 0 (.rejected (.badFee 20000)),
    .resume 0 (.transfer (some (.error (.badFee 20000)))) topUpNow]

def rejectedAfter : PayoutSystem := payoutAfter (fun _ => some ⟨[7]⟩) topUpNow rejectedRound

theorem commitment_paid_once_of_rejection : ∃ job,
    rejectedAfter.state.activePayoutJob = some job ∧
      job.staged.map (fun entry => entry.pending.notification.kind) =
        [.cyclesTopUpRawFallback, .beneficiary] ∧
      PaidOnce rejectedAfter job := by
  have kinds : rejectedAfter.state.activePayoutJob.map (fun job =>
      job.staged.map fun entry => entry.pending.notification.kind) =
      some [.cyclesTopUpRawFallback, .beneficiary] := by decide +kernel
  rcases Option.map_eq_some_iff.mp kinds with ⟨job, active, listed⟩
  have reachable : (payoutMachine {} fun _ => some ⟨[7]⟩).Reachable rejectedAfter :=
    payoutAfter_reachable (by decide +kernel)
  exact ⟨job, active, listed, commitment_paid_once reachable (.inl active)⟩

end Samples
end JupiterSuite.Faucet
