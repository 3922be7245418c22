import JupiterSuite.Faucet.StagedTransfers

/-! The outflow of a job is what its staged transfers are charged, and stays within the pot. -/

namespace JupiterSuite.Faucet

open Base

/-- What a staged transfer is charged. The CMC keeps three fees of a refund and the ledger one. -/
def Staged.charge (feeE8s : Nat) (entry : Staged) : Nat :=
  match entry.fate with
  | .awaiting | .failed | .replaced => 0
  | .refunded | .refundedBelowFee => 4 * feeE8s
  | _ => entry.grossE8s

def ActivePayoutJob.charges (job : ActivePayoutJob) : Nat :=
  (job.staged.map (Staged.charge job.feeE8s)).sum

structure Balanced (job : ActivePayoutJob) : Prop where
  pot : job.potStartE8s ≤ u64Max
  outflow : job.grossOutflowE8s = job.charges
  within : job.grossOutflowE8s ≤ job.potStartE8s
  awaiting : ∀ pending, job.Holds pending .awaitingTransfer →
    job.grossOutflowE8s + pending.notification.grossShareE8s ≤ job.potStartE8s

section Accounts

variable {nowNanos : Nat} {rejected refunded : PayoutTag → Prop} {job after : ActivePayoutJob}
  {dispatch result : Option DispatchRecord} {entry : Staged} {rest : List Staged} {fate : Fate}
  {outflowE8s : Nat}

/-- A settlement moves the outflow as it moves the charge of the transfer. -/
theorem Settles.charge (settles : Settles refunded job dispatch entry fate outflowE8s) :
    outflowE8s + entry.charge job.feeE8s =
      job.grossOutflowE8s + (entry.refate fate).charge job.feeE8s := by
  cases settles with
  | completed accepted => simp [Staged.charge, Staged.refate, Staged.grossE8s, accepted]
  | disproved lost awaiting held known =>
      rcases lost with rfl | rfl <;> simp [Staged.charge, Staged.refate, awaiting]
  | givenUp lost awaiting fits =>
      rcases lost with rfl | rfl <;>
        simp [Staged.charge, Staged.refate, Staged.grossE8s, awaiting]
  | closed lost accepted =>
      rcases lost with rfl | rfl <;>
        simp [Staged.charge, Staged.refate, Staged.grossE8s, accepted]
  | refunded lost accepted known credited covered =>
      rcases lost with rfl | rfl <;> simp only [Staged.charge, Staged.refate, accepted] <;> omega

theorem Settles.within (settles : Settles refunded job dispatch entry fate outflowE8s)
    (within : job.grossOutflowE8s ≤ job.potStartE8s) : outflowE8s ≤ job.potStartE8s := by
  cases settles with
  | completed accepted => exact within
  | disproved lost awaiting held known => exact within
  | givenUp lost awaiting fits => exact fits
  | closed lost accepted => exact within
  | refunded lost accepted known credited covered => exact (Nat.sub_le _ _).trans within

theorem Settles.replaced (settles : Settles refunded job dispatch entry .replaced outflowE8s) :
    outflowE8s = job.grossOutflowE8s ∧ job.Holds entry.pending .awaitingTransfer ∧
      Disproved job entry.pending dispatch := by
  cases settles with
  | disproved lost awaiting held known => exact ⟨rfl, held, known⟩
  | givenUp lost awaiting fits => rcases lost with impossible | impossible <;> cases impossible
  | closed lost accepted => rcases lost with impossible | impossible <;> cases impossible
  | refunded lost accepted known credited covered =>
      rcases lost with impossible | impossible <;> cases impossible

theorem charges_cons (shape : job.staged = entry :: rest) :
    job.charges = entry.charge job.feeE8s + (rest.map (Staged.charge job.feeE8s)).sum := by
  rw [ActivePayoutJob.charges, shape, List.map_cons, List.sum_cons]

theorem JobMove.balanced (move : JobMove nowNanos rejected refunded job dispatch after result)
    (linked : Linked job) (balanced : Balanced job) : Balanced after := by
  rcases move.terms with ⟨_, _, fee, pot⟩
  rcases balanced with ⟨bounded, outflow, within, awaiting⟩
  have kept : after.potStartE8s ≤ u64Max := pot ▸ bounded
  cases move.effect linked with
  | keep pending same next staged record =>
      refine ⟨kept, ?_, ?_, ?_⟩
      · rw [same, outflow, ActivePayoutJob.charges, ActivePayoutJob.charges, staged, fee]
      · rw [same, pot]
        exact within
      · intro other held
        rw [same, pot]
        exact awaiting other ⟨pending ▸ held.1, held.2⟩
  | stage entry idle fresh plain created fits pending same next staged =>
      refine ⟨kept, ?_, ?_, ?_⟩
      · rw [charges_cons staged, fee, same, outflow, ActivePayoutJob.charges, Staged.charge,
          fresh.fate, Nat.zero_add]
      · rw [same, pot]
        exact within
      · intro other held
        rcases held with ⟨held, _⟩
        rw [pending] at held
        cases held
        rw [same, pot]
        exact fits
  | accept entry rest block shape fate held pending same next staged =>
      have fits := awaiting entry.pending
        ⟨held, linked.awaiting entry (shape ▸ List.mem_cons_self)⟩
      have total : after.grossOutflowE8s = job.grossOutflowE8s + entry.grossE8s :=
        same.trans (satAdd_of_le (fits.trans bounded))
      refine ⟨kept, ?_, ?_, ?_⟩
      · have free : entry.charge job.feeE8s = 0 := by rw [Staged.charge, fate]
        have charged : (entry.refate .accepted).charge job.feeE8s = entry.grossE8s := rfl
        rw [charges_cons shape] at outflow
        rw [total, charges_cons staged, fee]
        omega
      · rw [total, pot]
        exact fits
      · intro other impossible
        rcases impossible with ⟨held, phase⟩
        rw [pending] at held
        cases held
        cases phase
  | retire entry rest fate shape settles pending next staged =>
      have moved := settles.charge
      refine ⟨kept, ?_, ?_, ?_⟩
      · rw [charges_cons shape] at outflow
        rw [charges_cons staged, fee]
        omega
      · rw [pot]
        exact settles.within within
      · intro other impossible
        rcases impossible with ⟨held, _⟩
        rw [pending] at held
        cases held
  | restage entry rest fate raw shape topUp same settles covers fresh allocated pending next
      staged =>
      have moved := settles.charge
      refine ⟨kept, ?_, ?_, ?_⟩
      · rw [charges_cons shape] at outflow
        rw [charges_cons staged, fee, List.map_cons, List.sum_cons]
        have free : raw.charge job.feeE8s = 0 := by rw [Staged.charge, fresh.fate]
        omega
      · rw [pot]
        exact settles.within within
      · intro other held
        rcases held with ⟨held, _⟩
        rw [pending] at held
        cases held
        rw [pot]
        have same : raw.pending.notification.grossShareE8s = raw.grossE8s := rfl
        rcases covers with ⟨rfl, gross⟩ | ⟨_, gross⟩
        · rcases settles.replaced with ⟨kept, held, _⟩
          rw [kept, same, gross]
          exact awaiting entry.pending held
        · omega

end Accounts
end JupiterSuite.Faucet
