import JupiterSuite.Faucet.StagedTransfers
import JupiterSuite.Base.Stamps

/-! The creation times of a job's transfers are drawn from one counter in the ledger's window. -/

namespace JupiterSuite.Faucet

open Base

def ledgerWindow : Window where
  limit := u64Max
  age := ledgerCreatedAtMaxAgeNanos
  skew := ledgerCreatedAtMaxFutureSkewNanos

def Staged.stamp (entry : Staged) : Stamp := ⟨entry.createdAt, entry.nowNanos, entry.nextNanos⟩

/-- Every creation time up to the clock was drawn from the counter of the job. -/
def Identified (nowNanos : Nat) (job : ActivePayoutJob) : Prop :=
  ∃ start ≤ nowNanos,
    ledgerWindow.Draws start (job.staged.map Staged.stamp) job.nextCreatedAtTimeNanos ∧
      ∀ entry ∈ job.staged, entry.nowNanos ≤ nowNanos

section Draws

variable {nowNanos : Nat} {rejected refunded : PayoutTag → Prop} {job after : ActivePayoutJob}
  {dispatch result : Option DispatchRecord} {entry : Staged}

theorem candidate_choose :
    job.candidateCreatedAtTime nowNanos = ledgerWindow.choose job.nextCreatedAtTimeNanos nowNanos :=
  rfl

theorem Identified.mono {later : Nat} (identified : Identified nowNanos job)
    (forward : nowNanos ≤ later) : Identified later job := by
  rcases identified with ⟨start, begun, draws, clocks⟩
  exact ⟨start, begun.trans forward, draws, fun entry member => (clocks entry member).trans forward⟩

theorem Identified.congr (identified : Identified nowNanos job)
    (next : after.nextCreatedAtTimeNanos = job.nextCreatedAtTimeNanos)
    (stamps : after.staged.map Staged.stamp = job.staged.map Staged.stamp) :
    Identified nowNanos after := by
  rcases identified with ⟨start, begun, draws, clocks⟩
  refine ⟨start, begun, ?_, ?_⟩
  · rw [stamps, next]
    exact draws
  · intro entry member
    have stamped : entry.stamp ∈ job.staged.map Staged.stamp := stamps ▸ List.mem_map_of_mem member
    rcases List.mem_map.mp stamped with ⟨old, present, same⟩
    have clock : old.nowNanos = entry.nowNanos := congrArg Stamp.clock same
    exact clock ▸ clocks old present

theorem Identified.stage (identified : Identified nowNanos job) (bounded : nowNanos ≤ u64Max)
    {number : Nat} (fresh : Fresh nowNanos job number entry)
    (created : entry.createdAt = job.candidateCreatedAtTime nowNanos)
    (next : after.nextCreatedAtTimeNanos = satAdd u64Max entry.createdAt 1)
    (staged : after.staged.map Staged.stamp = entry.stamp :: job.staged.map Staged.stamp) :
    Identified nowNanos after := by
  rcases identified with ⟨start, begun, draws, clocks⟩
  rw [← fresh.next] at draws
  have clock : entry.stamp.clock = nowNanos := fresh.now
  refine ⟨start, begun, ?_, ?_⟩
  · rw [staged, next]
    apply Window.Draws.draw draws
    · exact clock ▸ begun
    · intro old member
      rcases List.mem_map.mp member with ⟨earlier, present, rfl⟩
      exact clock ▸ clocks earlier present
    · exact clock ▸ bounded
    · show entry.createdAt = ledgerWindow.choose entry.nextNanos entry.nowNanos
      rw [created, candidate_choose, fresh.next, fresh.now]
  · intro other member
    have stamped : other.stamp ∈ entry.stamp :: job.staged.map Staged.stamp :=
      staged ▸ List.mem_map_of_mem member
    rcases List.mem_cons.mp stamped with same | old
    · have now : other.nowNanos = entry.nowNanos := congrArg Stamp.clock same
      rw [now, fresh.now]
    · rcases List.mem_map.mp old with ⟨earlier, present, same⟩
      have now : earlier.nowNanos = other.nowNanos := congrArg Stamp.clock same
      exact now ▸ clocks earlier present

/-- The candidate of a fallback always differs from the time of the transfer it replaces. -/
theorem Identified.fresh_candidate (identified : Identified nowNanos job) {rest : List Staged}
    (shape : job.staged = entry :: rest) {created : Nat} {fresh : ActivePayoutJob}
    (allocated : job.freshTransitionCreatedAtTime nowNanos entry.createdAt = some (created, fresh)) :
    created = job.candidateCreatedAtTime nowNanos := by
  rcases identified with ⟨start, begun, draws, clocks⟩
  rw [shape, List.map_cons] at draws
  have next : job.nextCreatedAtTimeNanos = satAdd u64Max entry.createdAt 1 := draws.head
  rcases freshTransition_some allocated with ⟨chosen, valid, room, apart, _⟩
  rw [chosen]
  apply if_neg
  intro repeated
  rw [if_pos repeated, repeated] at chosen
  rw [candidate_choose] at repeated
  rw [satAdd_of_le (by omega)] at next
  by_cases far : satAdd u64Max nowNanos ledgerCreatedAtMaxFutureSkewNanos <
      job.nextCreatedAtTimeNanos
  · have clock := @Window.choose_far ledgerWindow _ _ far
    have same : nowNanos = entry.createdAt := clock.symm.trans repeated
    have skewed : nowNanos + 1 ≤ satAdd u64Max nowNanos ledgerCreatedAtMaxFutureSkewNanos := by
      apply Nat.le_min.mpr
      refine ⟨Nat.add_le_add_left (by decide) nowNanos, by omega⟩
    omega
  · have ahead := @Window.le_choose ledgerWindow _ _ (not_lt.mp far)
    omega

theorem JobMove.identified (move : JobMove nowNanos rejected refunded job dispatch after result)
    (linked : Linked job) (bounded : nowNanos ≤ u64Max) (identified : Identified nowNanos job) :
    Identified nowNanos after := by
  cases move.effect linked with
  | keep pending outflow next staged record =>
      exact identified.congr next (congrArg (List.map Staged.stamp) staged)
  | stage entry idle fresh plain created fits pending outflow next staged =>
      exact identified.stage bounded fresh created next (congrArg (List.map Staged.stamp) staged)
  | accept entry rest block shape awaiting held pending outflow next staged =>
      apply identified.congr next
      rw [staged, shape]
      rfl
  | retire entry rest fate shape settles pending next staged =>
      apply identified.congr next
      rw [staged, shape]
      rfl
  | restage entry rest fate raw shape topUp same settles covers fresh allocated pending next
      staged =>
      have created := identified.fresh_candidate shape allocated
      apply identified.stage bounded fresh created next
      rw [staged, shape]
      rfl

end Draws
end JupiterSuite.Faucet
