import JupiterSuite.Relay.JobCycles
import JupiterSuite.Relay.JobSpending

/-! Surplus leaves a job only after a clean top-up phase that made every sampled canister whole. -/

namespace JupiterSuite.Relay

open Base

def Fate.marred : Fate → Bool
  | .failed | .failedAfterAcceptance | .ambiguous | .ambiguousAfterAcceptance => true
  | .awaiting | .accepted | .completed => false

def Staged.isSurplus (entry : Staged) : Bool :=
  match entry.source with
  | .topup _ => false
  | .surplus _ => true

/-- The latest entry is in front: no surplus transfer follows a marred entry. -/
def Ordered (staged : List Staged) : Prop :=
  staged.Pairwise fun later earlier => later.isSurplus = true → earlier.fate.marred = false

structure BurnPlan.Consistent (plan : BurnPlan) : Prop where
  remaining : plan.remainingDeficitCycles = plan.targetTopupCycles - plan.actualMintedCycles
  bounded : plan.targetTopupCycles ≤ u128Max

namespace ActiveRelayJob

def unmarred (job : ActiveRelayJob) : Prop := ∀ entry ∈ job.staged, entry.fate.marred = false

def surplusStaged (job : ActiveRelayJob) : Prop := ∃ entry ∈ job.staged, entry.isSurplus = true

def whole (job : ActiveRelayJob) : Prop :=
  ∀ sample ∈ job.canisters, sample.remainingDeficitCycles = 0

def observed (job : ActiveRelayJob) : Prop :=
  job.canisters.map (fun sample => sample.canisterId) = job.currentCycles.map Prod.fst

end ActiveRelayJob

/-- What the gate relies on, and what it has kept so far. -/
structure Gated (job : ActiveRelayJob) : Prop where
  observed : job.observed
  recorded : job.summary.failedTransfers = 0 → job.summary.ambiguousTransfers = 0 → job.unmarred
  ordered : Ordered job.staged
  deficits : ∀ sample ∈ job.canisters, sample.toBurnPlan.Consistent
  whole : job.surplusStaged → job.whole

section Samples

theorem updateSample_forall {canisterId : Principal} {f : CanisterBurnSample → CanisterBurnSample}
    {holds : CanisterBurnSample → Prop} (kept : ∀ sample, holds sample → holds (f sample))
    {samples : List CanisterBurnSample} (all : ∀ sample ∈ samples, holds sample) :
    ∀ sample ∈ updateSample canisterId f samples, holds sample := by
  induction samples with
  | nil => exact all
  | cons sample samples ih =>
      have head := all sample List.mem_cons_self
      have tail : ∀ other ∈ samples, holds other := fun other later =>
        all other (List.mem_cons_of_mem sample later)
      intro other member
      simp only [updateSample] at member
      split at member
      · rcases List.mem_cons.mp member with rfl | later
        · exact kept sample head
        · exact tail other later
      · rcases List.mem_cons.mp member with rfl | later
        · exact head
        · exact ih tail other later

def CanisterBurnSample.mint (mintedCycles : Nat) (sample : CanisterBurnSample) :
    CanisterBurnSample :=
  { sample with
    actualMintedCycles := satAdd u128Max sample.actualMintedCycles mintedCycles
    remainingDeficitCycles := sample.targetTopupCycles -
      satAdd u128Max sample.actualMintedCycles mintedCycles }

theorem mint_consistent (mintedCycles : Nat) (sample : CanisterBurnSample)
    (consistent : sample.toBurnPlan.Consistent) :
    (sample.mint mintedCycles).toBurnPlan.Consistent :=
  ⟨rfl, consistent.bounded⟩

theorem mint_whole (mintedCycles : Nat) (sample : CanisterBurnSample)
    (sound : sample.toBurnPlan.Consistent ∧ sample.remainingDeficitCycles = 0) :
    (sample.mint mintedCycles).toBurnPlan.Consistent ∧
      (sample.mint mintedCycles).remainingDeficitCycles = 0 := by
  refine ⟨mint_consistent mintedCycles sample sound.1, ?_⟩
  have zero := sound.2
  have remaining := sound.1.remaining
  have bounded := sound.1.bounded
  simp only [CanisterBurnSample.mint, satAdd]
  omega

end Samples

section Preservation

theorem burnPlan_consistent (samples : CycleSamples) (headroom : Bool) :
    ∀ plan ∈ burnPlans samples headroom, plan.Consistent := by
  intro plan member
  rcases List.mem_map.mp member with ⟨current, _, rfl⟩
  refine ⟨rfl, ?_⟩
  exact Nat.min_le_right _ _

theorem gated_buildJob (view : RelayState) (start : JobStart) (current : List (Principal × Nat))
    (balance feeE8s : Nat) : Gated (buildJob view start current balance feeE8s) := by
  have cycles := cycles_allocationFor view current balance feeE8s view.conversionEstimate
    start.nowNanos
  refine ⟨?_, ?_, List.Pairwise.nil, ?_, ?_⟩
  · have names := congrArg (List.map BurnPlan.canisterId) cycles
    simp only [burnPlans, List.map_map] at names
    simp only [ActiveRelayJob.observed, buildJob, List.map_map]
    exact names
  · intro _ _ entry member
    cases member
  · intro sample member
    rcases List.mem_map.mp member with ⟨plan, planned, rfl⟩
    have burn : plan.cycles ∈ burnPlans (view.samples current) (hasRawIcpRecipients view) := by
      rw [← cycles]
      exact List.mem_map_of_mem planned
    have consistent := burnPlan_consistent _ _ plan.cycles burn
    exact ⟨consistent.remaining, consistent.bounded⟩
  · rintro ⟨entry, member, _⟩
    cases member

variable {rules : JobRules} {job next : ActiveRelayJob}

theorem ordered_settled (fate : Fate) {staged : List Staged} (ordered : Ordered staged) :
    Ordered (settleFate fate staged) := by
  cases staged with
  | nil => exact ordered
  | cons current earlier =>
      rw [Ordered, List.pairwise_cons] at ordered
      exact List.pairwise_cons.mpr ordered

theorem unmarred_settled {fate : Fate} (clean : fate.marred = false)
    (unmarred : job.unmarred) : (job.withFate fate).unmarred := by
  intro entry member
  simp only [ActiveRelayJob.withFate] at member
  cases entries : job.staged with
  | nil =>
      rw [entries] at member
      cases member
  | cons current earlier =>
      rw [entries] at member
      rcases List.mem_cons.mp member with rfl | old
      · exact clean
      · apply unmarred
        rw [entries]
        exact List.mem_cons_of_mem current old

theorem surplus_settled (fate : Fate) (surplus : (job.withFate fate).surplusStaged) :
    job.surplusStaged := by
  rcases surplus with ⟨entry, member, here⟩
  simp only [ActiveRelayJob.withFate] at member
  cases entries : job.staged with
  | nil =>
      rw [entries] at member
      cases member
  | cons current earlier =>
      rw [entries] at member
      rcases List.mem_cons.mp member with rfl | old
      · refine ⟨current, ?_, here⟩
        rw [entries]
        exact List.mem_cons_self
      · refine ⟨entry, ?_, here⟩
        rw [entries]
        exact List.mem_cons_of_mem current old

theorem raised_ne_zero (count : Nat) : satAdd u32Max count 1 ≠ 0 := by
  simp only [satAdd, u32Max]
  omega

theorem gated_accept (gated : Gated job) (pending : PendingTransfer) (block : Nat) :
    Gated (job.acceptPending pending block) := by
  refine ⟨?_, fun failed ambiguous => unmarred_settled rfl (gated.recorded failed ambiguous),
    ordered_settled .accepted gated.ordered, ?_, ?_⟩
  · refine Eq.trans ?_ gated.observed
    simp only [ActiveRelayJob.acceptPending]
    split
    · apply updateSample_map
      intro sample
      rfl
    · rfl
  · simp only [ActiveRelayJob.acceptPending]
    split
    · apply updateSample_forall _ gated.deficits
      intro sample consistent
      exact consistent
    · exact gated.deficits
  · intro surplus
    have whole := gated.whole (surplus_settled .accepted surplus)
    simp only [ActiveRelayJob.whole, ActiveRelayJob.acceptPending]
    split
    · apply updateSample_forall _ whole
      intro sample zero
      exact zero
    · exact whole

/-- A mark that fails the pending transfer is counted; the others leave no marred entry. -/
theorem gated_mark (gated : Gated job) (marked : Mark rules job next) : Gated next := by
  cases marked with
  | accept block has awaiting => exact gated_accept gated _ block
  | complete minted has accepted =>
      cases minted with
      | none =>
          exact ⟨gated.observed,
            fun failed ambiguous => unmarred_settled rfl (gated.recorded failed ambiguous),
            ordered_settled .completed gated.ordered, gated.deficits,
            fun surplus => gated.whole (surplus_settled .completed surplus)⟩
      | some minted =>
          refine ⟨?_, fun failed ambiguous =>
              unmarred_settled rfl (gated.recorded failed ambiguous),
            ordered_settled .completed gated.ordered, ?_, ?_⟩
          · refine Eq.trans (updateSample_map _ minted.1 ?_ _) gated.observed
            intro sample
            rfl
          · exact updateSample_forall (mint_consistent minted.2) gated.deficits
          · intro surplus sample member
            have whole := gated.whole (surplus_settled .completed surplus)
            have sound : ∀ sample ∈ job.canisters,
                sample.toBurnPlan.Consistent ∧ sample.remainingDeficitCycles = 0 :=
              fun sample inside => ⟨gated.deficits sample inside, whole sample inside⟩
            exact (updateSample_forall (mint_whole minted.2) sound sample member).2
  | fail has awaiting may =>
      exact ⟨gated.observed, fun failed => absurd failed (raised_ne_zero _),
        ordered_settled .failed gated.ordered, gated.deficits,
        fun surplus => gated.whole (surplus_settled .failed surplus)⟩
  | failAfter has accepted =>
      exact ⟨gated.observed, fun failed => absurd failed (raised_ne_zero _),
        ordered_settled .failedAfterAcceptance gated.ordered, gated.deficits,
        fun surplus => gated.whole (surplus_settled .failedAfterAcceptance surplus)⟩
  | ambiguous has awaiting =>
      exact ⟨gated.observed, fun _ ambiguous => absurd ambiguous (raised_ne_zero _),
        ordered_settled .ambiguous gated.ordered, gated.deficits,
        fun surplus => gated.whole (surplus_settled .ambiguous surplus)⟩
  | ambiguousAfter has accepted =>
      exact ⟨gated.observed, fun _ ambiguous => absurd ambiguous (raised_ne_zero _),
        ordered_settled .ambiguousAfterAcceptance gated.ordered, gated.deficits,
        fun surplus => gated.whole (surplus_settled .ambiguousAfterAcceptance surplus)⟩

/-- What the gate reads of a job besides its samples and staged transfers. -/
def ActiveRelayJob.counters (job : ActiveRelayJob) : List (Principal × Nat) × Nat × Nat :=
  (job.currentCycles, job.summary.failedTransfers, job.summary.ambiguousTransfers)

theorem counters_nextTopupPending (job : ActiveRelayJob) (number nowNanos : Nat) :
    (job.nextTopupPending number nowNanos).1.counters = job.counters := by
  unfold ActiveRelayJob.nextTopupPending
  split <;> rfl

theorem counters_nextSurplusPending (job : ActiveRelayJob) (number nowNanos : Nat) :
    (job.nextSurplusPending number nowNanos).1.counters = job.counters := by
  unfold ActiveRelayJob.nextSurplusPending
  split
  · rfl
  · split
    · rfl
    · split <;> rfl

theorem counters_planNextTransfer (job : ActiveRelayJob) (limit : Option Nat)
    (started number nowNanos : Nat) :
    (job.planNextTransfer limit started number nowNanos).1.counters = job.counters := by
  have topup := counters_nextTopupPending job number nowNanos
  have surplus := counters_nextSurplusPending (job.nextTopupPending number nowNanos).1 number
    nowNanos
  simp only [ActiveRelayJob.planNextTransfer]
  split
  · rfl
  · split
    · rfl
    · split
      · exact topup
      · split <;> exact surplus.trans topup

theorem gated_of_same (gated : Gated job) (counters : next.counters = job.counters)
    (canisters : next.canisters = job.canisters) (staged : next.staged = job.staged) :
    Gated next := by
  simp only [ActiveRelayJob.counters, Prod.mk.injEq] at counters
  rcases counters with ⟨cycles, failed, ambiguous⟩
  rcases gated with ⟨observed, recorded, ordered, deficits, whole⟩
  simp only [ActiveRelayJob.observed, ActiveRelayJob.unmarred, ActiveRelayJob.surplusStaged,
    ActiveRelayJob.whole, ← canisters, ← cycles, ← staged, ← failed, ← ambiguous] at *
  exact ⟨observed, recorded, ordered, deficits, whole⟩

theorem gated_planning (gated : Gated job) (planned : Planning rules job next) : Gated next := by
  cases planned with
  | rest limit started number nowNanos may unplanned =>
      have rest := rest_next unplanned
      exact gated_of_same gated (counters_planNextTransfer job _ _ _ _) rest.canisters rest.staged
  | disable reason open_phase topups may => exact gated_of_same gated rfl rfl rfl
  | surplus recipients estimate nowNanos memos open_phase topups clean =>
      exact gated_of_same gated rfl rfl rfl

theorem open_gate (clean : job.surplusAllowedAfterTopups = none) :
    job.summary.failedTransfers = 0 ∧ job.summary.ambiguousTransfers = 0 ∧ job.whole := by
  simp only [ActiveRelayJob.surplusAllowedAfterTopups] at clean
  split at clean
  · cases clean
  · rename_i failed
    split at clean
    · cases clean
    · rename_i ambiguous
      split at clean
      · cases clean
      · split at clean
        · cases clean
        · split at clean
          · cases clean
          · rename_i deficits
            refine ⟨by omega, by omega, ?_⟩
            intro sample member
            simp only [Bool.not_eq_true, List.any_eq_false, decide_eq_true_eq] at deficits
            have recovered := deficits sample member
            omega

theorem gated_staged {limit : Option Nat} {started number nowNanos : Nat} (gated : Gated job)
    (planned : job.planNextTransfer limit started number nowNanos = (next, .planned)) :
    Gated next := by
  have counters := counters_planNextTransfer job limit started number nowNanos
  rw [planned] at counters
  simp only [ActiveRelayJob.counters, Prod.mk.injEq] at counters
  rcases counters with ⟨cycles, failed, ambiguous⟩
  have staging : ∀ {source share}, StagedNext job next number nowNanos source share →
      ((∃ index, source = .surplus index) → job.unmarred ∧ job.whole) → Gated next := by
    intro source share staged gate
    rcases staged.entry with ⟨kind, entry⟩
    refine ⟨?_, ?_, ?_, ?_, ?_⟩
    · simp only [ActiveRelayJob.observed, staged.canisters, cycles]
      exact gated.observed
    · intro unfailed unambiguous
      have unmarred := gated.recorded (by omega) (by omega)
      simp only [ActiveRelayJob.unmarred, entry, List.forall_mem_cons]
      exact ⟨rfl, unmarred⟩
    · rw [entry]
      refine List.pairwise_cons.mpr ⟨?_, gated.ordered⟩
      intro earlier member surplus
      cases source with
      | topup index => cases surplus
      | surplus index => exact (gate ⟨index, rfl⟩).1 earlier member
    · rw [staged.canisters]
      exact gated.deficits
    · rintro ⟨later, member, surplus⟩
      simp only [ActiveRelayJob.whole, staged.canisters]
      rw [entry] at member
      rcases List.mem_cons.mp member with rfl | earlier
      · cases source with
        | topup index => cases surplus
        | surplus index => exact (gate ⟨index, rfl⟩).2
      · exact gated.whole ⟨later, earlier, surplus⟩
  rcases (planNextTransfer_planned planned).2 with
    ⟨index, share, staged, member, later, bound, advanced, same⟩ |
    ⟨index, share, staged, member, later, bound, advanced, topups, forward, ended, clean⟩
  · apply staging staged
    rintro ⟨other, impossible⟩
    cases impossible
  · apply staging staged
    intro _
    have gate := open_gate clean
    exact ⟨gated.recorded gate.1 gate.2.1, gate.2.2⟩

theorem gated_finished (gated : Gated job) (nowNanos : Nat) : Gated (job.finished nowNanos) := by
  have consistent : ∀ sample ∈ (job.finished nowNanos).canisters,
      sample.toBurnPlan.Consistent := by
    intro sample member
    rcases List.mem_map.mp member with ⟨before, present, rfl⟩
    exact ⟨rfl, (gated.deficits before present).bounded⟩
  refine ⟨?_, gated.recorded, gated.ordered, consistent, ?_⟩
  · simp only [ActiveRelayJob.observed, ActiveRelayJob.finished, List.map_map]
    exact gated.observed
  · intro surplus sample member
    rcases List.mem_map.mp member with ⟨before, present, rfl⟩
    have zero := gated.whole surplus before present
    rw [(gated.deficits before present).remaining] at zero
    exact zero

theorem gated_preserved :
    Preserves JobRules.any Gated fun record => Gated record.job where
  install := fun view start current balance feeE8s _ _ =>
    gated_buildJob view start current balance feeE8s
  mark := fun _ _ gated marked => gated_mark gated marked
  plan := fun _ _ gated _ planned => gated_planning gated planned
  stage := fun _ _ _ _ _ _ gated _ _ planned => gated_staged gated planned
  complete := fun _ nowNanos gated _ _ _ => gated_finished gated nowNanos
  stop := by
    intro job next nowNanos gated stopped
    have marked : Mark JobRules.any job next := by
      cases stopped with
      | failed may has awaiting => exact .fail has awaiting may
      | ambiguous has awaiting => exact .ambiguous has awaiting
    have settled : Gated next.returnUnsent := gated_of_same (gated_mark gated marked) rfl rfl rfl
    exact gated_finished settled nowNanos
  lost := fun _ gated => gated

end Preservation

/-- For every job: the transfers staged before a surplus transfer, and the samples once one is
staged. -/
structure SurplusGate (job : ActiveRelayJob) : Prop where
  observed : job.canisters.map (fun sample => sample.canisterId) = job.currentCycles.map Prod.fst
  clean : ∀ later entry earlier, job.staged = later ++ entry :: earlier →
    entry.isSurplus = true → ∀ before ∈ earlier, before.fate.marred = false
  recovered : ∀ entry ∈ job.staged, entry.isSurplus = true → ∀ sample ∈ job.canisters,
    sample.remainingDeficitCycles = 0 ∧ sample.targetTopupCycles ≤ sample.actualMintedCycles

theorem surplus_gate (relayId : Principal) (sys : JobSystem)
    (reachable : (jobMachine relayId).Reachable sys) :
    ∀ job ∈ sys.state.slot.jobs, SurplusGate job := by
  rcases reachable with ⟨start, events, started, ran⟩
  have slots := (slots_run gated_preserved started
    ((jobMachine relayId).complies_of_forall any_allows start events) ran).2
  intro job member
  have gated : Gated job := by
    simp only [Slot.jobs, List.mem_append, Option.mem_toList, List.mem_map] at member
    rcases member with active | ⟨record, earlier, rfl⟩
    · exact slots.1 job active
    · exact slots.2 record earlier
  refine ⟨gated.observed, ?_, ?_⟩
  · intro later entry earlier parts surplus before member
    have ordered := gated.ordered
    rw [parts, Ordered, List.pairwise_append, List.pairwise_cons] at ordered
    exact ordered.2.1.1 before member surplus
  · intro entry member surplus sample inside
    have zero := gated.whole ⟨entry, member, surplus⟩ sample inside
    have consistent := gated.deficits sample inside
    refine ⟨zero, ?_⟩
    rw [consistent.remaining] at zero
    omega

def unlimitedJobStart : JobSystem :=
  { sampleJobStart with
    state := RelayState.new { sampleJobConfig with maxTransfersPerTick := none } }

def wholeAgain (call block : Nat) : List JobEvent :=
  [.resume 0 .resumed sampleJobTime, .resume 0 .resumed sampleJobTime,
    .ledger call (.accepted block), .resume 0 (.transfer (some (.ok block))) sampleJobTime,
    .resume 0 (.notify (.succeeded 2000000000000)) sampleJobTime]

/-- Both canisters are topped up and made whole; the rest is staged for the raw recipient. -/
def surplusRun : List JobEvent :=
  baselineTick 5000000000000 ++
    [.begin 0 sampleJobTime false, .resume 0 (.stages true) sampleJobTime,
      .resume 0 (.probed [(⟨[2]⟩, 4000000000000), (⟨[3]⟩, 4000000000000)] false) sampleJobTime,
      .resume 0 (.amount (some 10000000000)) sampleJobTime,
      .resume 0 (.amount (some 10000)) sampleJobTime,
      .resume 0 (.conversion (some (50000, 1700000000))) sampleJobTime] ++
    wholeAgain 0 7 ++ wholeAgain 1 8 ++
    [.resume 0 .resumed sampleJobTime, .resume 0 .resumed sampleJobTime]

theorem surplus_gate_open :
    ∃ job : ActiveRelayJob, job.sources = [.surplus 0, .topup 1, .topup 0] ∧ SurplusGate job := by
  have ran : (jobMachine sampleRelay).run unlimitedJobStart surplusRun =
      some (((jobMachine sampleRelay).run unlimitedJobStart surplusRun).getD
        unlimitedJobStart) := by
    rfl
  have reachable : (jobMachine sampleRelay).Reachable
      (((jobMachine sampleRelay).run unlimitedJobStart surplusRun).getD unlimitedJobStart) :=
    ⟨unlimitedJobStart, surplusRun, ⟨_, _, rfl⟩, ran⟩
  refine ⟨_, ?_, surplus_gate sampleRelay _ reachable _ List.mem_cons_self⟩
  rfl

end JupiterSuite.Relay
