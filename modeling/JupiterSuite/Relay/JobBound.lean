import JupiterSuite.Relay.JobEffects

/-! The transfers of a relay job never take more than its starting balance, each planned
position is staged once, and the creation times increase. -/

namespace JupiterSuite.Relay

open Base

namespace ActiveRelayJob

def stagedGross (job : ActiveRelayJob) : Nat :=
  (job.staged.map fun entry => entry.pending.grossShareE8s).sum

def sources (job : ActiveRelayJob) : List TransferSource := job.staged.map Staged.source

def createdTimes (job : ActiveRelayJob) : List Nat :=
  job.staged.map fun entry => entry.pending.createdAtTimeNanos

end ActiveRelayJob

theorem stagedGross_identities (job : ActiveRelayJob) :
    job.stagedGross = (job.identities.map fun entry => entry.2.2.2.grossShareE8s).sum := by
  simp only [ActiveRelayJob.stagedGross, ActiveRelayJob.identities, List.map_map]
  rfl

theorem sources_identities (job : ActiveRelayJob) :
    job.sources = job.identities.map fun entry => entry.2.1 := by
  simp only [ActiveRelayJob.sources, ActiveRelayJob.identities, List.map_map]
  rfl

theorem createdTimes_identities (job : ActiveRelayJob) :
    job.createdTimes = job.identities.map fun entry => entry.2.2.2.createdAtTimeNanos := by
  simp only [ActiveRelayJob.createdTimes, ActiveRelayJob.identities, List.map_map]
  rfl

/-- Before the surplus phase is planned, what no top-up takes is still known unspent. -/
structure OpenPhase (job : ActiveRelayJob) : Prop where
  surplus : job.surplusTransfers = []
  sources : ∀ index, .surplus index ∉ job.sources
  topups : job.stagedGross + job.unsentGross = payableGross job.topupShares
  known : job.summary.failedTransfers = 0 →
    job.summary.knownUnspentE8s = job.balanceStartE8s - payableGross job.topupShares

structure Afforded (job : ActiveRelayJob) : Prop where
  funded : job.stagedGross + job.unsentGross ≤ job.balanceStartE8s
  open_phase : job.surplusPhasePlanned = false → OpenPhase job

structure Bounded (job : ActiveRelayJob) : Prop extends Afforded job where
  topups : ∀ index, .topup index ∈ job.sources →
    index < job.nextTransferIndex ∧ index < job.canisters.length
  surplus : ∀ index, .surplus index ∈ job.sources → job.surplusTransfers ≠ [] →
    index < job.surplusTransferIndex ∧ index < job.surplusTransfers.length
  distinct : job.sources.Nodup
  ordered : job.createdTimes.Pairwise (· > ·)
  created : ∀ time ∈ job.createdTimes, time < job.nextCreatedAtTimeNanos

/-- The totals that the plan divides by do not overflow. -/
def allocationFits (st : RelayState) (current : List (Principal × Nat)) (feeE8s nowNanos : Nat) :
    Bool :=
  if hasRawIcpRecipients st then
    decide (((desiredTopups (st.samples current) feeE8s st.conversionEstimate nowNanos).map
      Prod.snd).sum ≤ u64Max)
  else decide (((burnPlans (st.samples current) false).map BurnPlan.targetTopupCycles).sum ≤ u128Max)

def spendingRules : JobRules where
  install := fun view start current _ feeE8s => allocationFits view current feeE8s start.nowNanos
  plan := fun job nowNanos => decide (job.nextCreatedAtTimeNanos < u64Max ∧ nowNanos < u64Max)
  disable := fun _ => true
  fail := fun _ => true

theorem allocation_funded {st : RelayState} (fits : allocationFits st current feeE8s nowNanos)
    (small : balance ≤ u64Max) :
    Funded balance feeE8s
      ((allocationFor st current balance feeE8s st.conversionEstimate nowNanos).topups.map
        BurnPlan.share) := by
  unfold allocationFits at fits
  unfold allocationFor
  split at fits
  · rename_i raw
    rw [if_pos raw]
    exact buildAllocationPlan_funded (of_decide_eq_true fits) small
  · rename_i direct
    rw [if_neg direct]
    exact buildSpendAllCyclesPlan_funded (of_decide_eq_true fits)

theorem buildJob_shares (view : RelayState) (start : JobStart) (current : List (Principal × Nat))
    (balance feeE8s : Nat) :
    (buildJob view start current balance feeE8s).topupShares =
      (allocationFor view current balance feeE8s view.conversionEstimate
        start.nowNanos).topups.map BurnPlan.share := by
  simp only [buildJob, ActiveRelayJob.topupShares, List.map_map]
  rfl

theorem retained_exact {canisters : List CanisterBurnSample} {surplus : List SurplusTransferSample}
    (small : balance ≤ u64Max) (covered : payableGross (canisters.map CanisterBurnSample.share) +
      payableGross (surplus.map SurplusTransferSample.share) ≤ balance) :
    retainedE8s balance canisters surplus =
      balance - (payableGross (canisters.map CanisterBurnSample.share) +
        payableGross (surplus.map SurplusTransferSample.share)) := by
  have limit : u64Max < 2 ^ 64 := by decide
  unfold retainedE8s
  rw [Nat.mod_eq_of_lt (by omega), Nat.mod_eq_of_lt (by omega), satAdd_of_le (by omega)]

section Moves

variable {job next : ActiveRelayJob}

theorem afforded_install {view : RelayState} {start : JobStart} (small : balance ≤ u64Max)
    (fits : allocationFits view current feeE8s start.nowNanos) :
    Afforded (buildJob view start current balance feeE8s) := by
  have funded := (allocation_funded fits small).bounded
  rw [← buildJob_shares view start current balance feeE8s] at funded
  have unsent : (buildJob view start current balance feeE8s).unsentGross =
      payableGross (buildJob view start current balance feeE8s).topupShares := rfl
  constructor
  · show 0 + _ ≤ balance
    rw [unsent]
    omega
  · intro _
    refine ⟨rfl, fun index => List.not_mem_nil, ?_, ?_⟩
    · rw [unsent]
      exact Nat.zero_add _
    · intro _
      have covered : payableGross
            ((buildJob view start current balance feeE8s).canisters.map CanisterBurnSample.share) +
          payableGross (([] : List SurplusTransferSample).map SurplusTransferSample.share) ≤
            balance := funded
      exact retained_exact small covered

theorem bounded_install {view : RelayState} {start : JobStart} (small : balance ≤ u64Max)
    (fits : allocationFits view current feeE8s start.nowNanos) :
    Bounded (buildJob view start current balance feeE8s) := by
  refine ⟨afforded_install small fits, ?_, ?_, List.nodup_nil, List.Pairwise.nil, ?_⟩
  · intro index impossible
    cases impossible
  · intro index impossible
    cases impossible
  · intro time impossible
    cases impossible

theorem topups_length {job next : ActiveRelayJob} (same : next.topupShares = job.topupShares) :
    next.canisters.length = job.canisters.length := by
  have lengths := congrArg List.length same
  simpa [ActiveRelayJob.topupShares] using lengths

theorem afforded_kept (afforded : Afforded job) (kept : Kept job next)
    (known : next.summary.failedTransfers = 0 → job.summary.failedTransfers = 0 ∧
      next.summary.knownUnspentE8s = job.summary.knownUnspentE8s) : Afforded next := by
  have gross : next.stagedGross = job.stagedGross := by
    rw [stagedGross_identities, stagedGross_identities, kept.identities]
  constructor
  · rw [gross, kept.unsentGross, kept.balance]
    exact afforded.funded
  · intro open_phase
    rw [kept.planned] at open_phase
    have before := afforded.open_phase open_phase
    refine ⟨?_, ?_, ?_, ?_⟩
    · rw [kept.surplus]
      exact before.surplus
    · rw [sources_identities, kept.identities, ← sources_identities]
      exact before.sources
    · rw [gross, kept.unsentGross, kept.topups]
      exact before.topups
    · intro unfailed
      rw [(known unfailed).2, kept.balance, kept.topups]
      exact before.known (known unfailed).1

theorem bounded_kept (bounded : Bounded job) (kept : Kept job next)
    (known : next.summary.failedTransfers = 0 → job.summary.failedTransfers = 0 ∧
      next.summary.knownUnspentE8s = job.summary.knownUnspentE8s) : Bounded next := by
  have sources : next.sources = job.sources := by
    rw [sources_identities, sources_identities, kept.identities]
  have times : next.createdTimes = job.createdTimes := by
    rw [createdTimes_identities, createdTimes_identities, kept.identities]
  refine ⟨afforded_kept bounded.toAfforded kept known, ?_, ?_, ?_, ?_, ?_⟩
  · rw [sources, kept.index, topups_length kept.topups]
    exact bounded.topups
  · rw [sources, kept.surplusIndex, kept.surplus]
    exact bounded.surplus
  · rw [sources]
    exact bounded.distinct
  · rw [times]
    exact bounded.ordered
  · rw [times, kept.created]
    exact bounded.created

theorem afforded_rest (afforded : Afforded job) (rest : RestNext job next) : Afforded next := by
  have sources : next.sources = job.sources := by
    simp only [ActiveRelayJob.sources, rest.staged]
  have gross : next.stagedGross = job.stagedGross := by
    simp only [ActiveRelayJob.stagedGross, rest.staged]
  have shares : next.topupShares = job.topupShares := by
    simp only [ActiveRelayJob.topupShares, rest.canisters]
  constructor
  · have funded := afforded.funded
    rw [gross, rest.balance]
    rcases rest.unsent with same | ⟨_, _, _, zero⟩
    · rw [same]
      exact funded
    · omega
  · intro open_phase
    rw [rest.planned] at open_phase
    have before := afforded.open_phase open_phase
    rcases rest.surplus with ⟨same, _⟩ | ⟨filled, _⟩
    · refine ⟨?_, ?_, ?_, ?_⟩
      · rw [same]
        exact before.surplus
      · rw [sources]
        exact before.sources
      · rcases rest.unsent with equal | ⟨_, remains, _⟩
        · rw [gross, equal, shares]
          exact before.topups
        · simp [ActiveRelayJob.surplusRemains, ActiveRelayJob.remainingSurplus,
            before.surplus] at remains
      · rw [rest.failed, rest.known, rest.balance, shares]
        exact before.known
    · exact absurd before.surplus filled

theorem bounded_rest (bounded : Bounded job) (rest : RestNext job next) : Bounded next := by
  have sources : next.sources = job.sources := by
    simp only [ActiveRelayJob.sources, rest.staged]
  have times : next.createdTimes = job.createdTimes := by
    simp only [ActiveRelayJob.createdTimes, rest.staged]
  refine ⟨afforded_rest bounded.toAfforded rest, ?_, ?_, ?_, ?_, ?_⟩
  · intro index member
    rw [sources] at member
    have below := bounded.topups index member
    have forward := rest.index
    rw [rest.canisters]
    omega
  · intro index member nonempty
    rw [sources] at member
    rcases rest.surplus with ⟨same, forward⟩ | ⟨_, empty⟩
    · rw [same] at nonempty ⊢
      have below := bounded.surplus index member nonempty
      omega
    · exact absurd empty nonempty
  · rw [sources]
    exact bounded.distinct
  · rw [times]
    exact bounded.ordered
  · rw [times, rest.created]
    exact bounded.created

theorem unsent_of_open {job : ActiveRelayJob} (topups : job.remainingTopups = [])
    (surplus : job.surplusTransfers = []) : job.unsentGross = 0 := by
  have none_left : job.topupShares.drop job.nextTransferIndex = [] := by
    simp only [ActiveRelayJob.topupShares, ← List.map_drop]
    rw [show job.canisters.drop job.nextTransferIndex = [] from topups]
    rfl
  simp only [ActiveRelayJob.unsentGross, none_left, ActiveRelayJob.surplusShares, surplus]
  simp

theorem unsent_of_topups {job : ActiveRelayJob} (topups : job.remainingTopups = []) :
    payableGross (job.topupShares.drop job.nextTransferIndex) = 0 := by
  simp only [ActiveRelayJob.topupShares, ← List.map_drop]
  rw [show job.canisters.drop job.nextTransferIndex = [] from topups]
  rfl

theorem afforded_disable (afforded : Afforded job) (open_phase : job.surplusPhasePlanned = false)
    (topups : job.remainingTopups = []) (reason : String) :
    Afforded (job.disableSurplus reason) := by
  have before := afforded.open_phase open_phase
  have zero := unsent_of_open topups before.surplus
  have funded := afforded.funded
  constructor
  · have unsent : (job.disableSurplus reason).unsentGross = 0 := unsent_of_open topups rfl
    rw [unsent]
    show job.stagedGross + 0 ≤ job.balanceStartE8s
    omega
  · intro impossible
    cases impossible

theorem bounded_disable (bounded : Bounded job) (open_phase : job.surplusPhasePlanned = false)
    (topups : job.remainingTopups = []) (reason : String) :
    Bounded (job.disableSurplus reason) := by
  have before := bounded.open_phase open_phase
  refine ⟨afforded_disable bounded.toAfforded open_phase topups reason, bounded.topups, ?_,
    bounded.distinct, bounded.ordered, bounded.created⟩
  intro index member
  exact absurd member (before.sources index)

/-- The surplus is taken from what no top-up took. -/
theorem surplus_covered (afforded : Afforded job) (open_phase : job.surplusPhasePlanned = false)
    (clean : job.surplusAllowedAfterTopups = none) (recipients : List ResolvedSurplusRecipient)
    (estimate : Option ConversionEstimate) (nowNanos : Nat) :
    payableGross job.topupShares +
        payableGross ((buildSurplusPlan recipients job.summary.knownUnspentE8s job.feeE8s estimate
          nowNanos).transfers.map SurplusTransferSample.share) ≤ job.balanceStartE8s := by
  have before := afforded.open_phase open_phase
  have funded := afforded.funded
  have spent := before.topups
  have known := before.known (clean_summary clean)
  have planned := (buildSurplusPlan_funded recipients job.summary.knownUnspentE8s job.feeE8s
    estimate nowNanos).bounded
  omega

theorem afforded_surplus (afforded : Afforded job) (open_phase : job.surplusPhasePlanned = false)
    (topups : job.remainingTopups = []) (clean : job.surplusAllowedAfterTopups = none)
    (recipients : List ResolvedSurplusRecipient) (estimate : Option ConversionEstimate)
    (nowNanos : Nat) (memos : List (Option (List UInt8))) :
    Afforded (job.installSurplus
      (buildSurplusPlan recipients job.summary.knownUnspentE8s job.feeE8s estimate nowNanos)
      memos) := by
  have before := afforded.open_phase open_phase
  have zero := unsent_of_open topups before.surplus
  have spent := before.topups
  have covered := surplus_covered afforded open_phase clean recipients estimate nowNanos
  constructor
  · have unsent : (job.installSurplus (buildSurplusPlan recipients job.summary.knownUnspentE8s
          job.feeE8s estimate nowNanos) memos).unsentGross =
        payableGross (job.topupShares.drop job.nextTransferIndex) +
          payableGross ((buildSurplusPlan recipients job.summary.knownUnspentE8s job.feeE8s
            estimate nowNanos).transfers.map SurplusTransferSample.share) := rfl
    rw [unsent, unsent_of_topups topups]
    show job.stagedGross + _ ≤ job.balanceStartE8s
    omega
  · intro impossible
    cases impossible

theorem bounded_surplus (bounded : Bounded job) (open_phase : job.surplusPhasePlanned = false)
    (topups : job.remainingTopups = []) (clean : job.surplusAllowedAfterTopups = none)
    (recipients : List ResolvedSurplusRecipient) (estimate : Option ConversionEstimate)
    (nowNanos : Nat) (memos : List (Option (List UInt8))) :
    Bounded (job.installSurplus
      (buildSurplusPlan recipients job.summary.knownUnspentE8s job.feeE8s estimate nowNanos)
      memos) := by
  have before := bounded.open_phase open_phase
  have afforded := afforded_surplus bounded.toAfforded open_phase topups clean recipients estimate
    nowNanos memos
  refine ⟨afforded, bounded.topups, ?_, bounded.distinct, bounded.ordered, bounded.created⟩
  intro index member
  exact absurd member (before.sources index)

theorem createdAt_below {job : ActiveRelayJob}
    (early : job.nextCreatedAtTimeNanos < u64Max ∧ nowNanos < u64Max) :
    max job.nextCreatedAtTimeNanos nowNanos <
      satAdd u64Max (max job.nextCreatedAtTimeNanos nowNanos) 1 := by
  simp only [satAdd]
  omega

theorem stagedGross_staged (staged : StagedNext job next number nowNanos source share) :
    next.stagedGross = share.grossShareE8s + job.stagedGross := by
  rcases staged.entry with ⟨kind, entries⟩
  simp [ActiveRelayJob.stagedGross, entries]

theorem openPhase_staged (afforded : Afforded job) {index : Nat}
    (staged : StagedNext job next number nowNanos (.topup index) share)
    (open_phase : next.surplusPhasePlanned = false) : OpenPhase next := by
  rcases staged.entry with ⟨kind, entries⟩
  rw [staged.planned] at open_phase
  have before := afforded.open_phase open_phase
  have shares : next.topupShares = job.topupShares := by
    simp only [ActiveRelayJob.topupShares, staged.canisters]
  refine ⟨?_, ?_, ?_, ?_⟩
  · rw [staged.surplus]
    exact before.surplus
  · intro other member
    have sources : next.sources = .topup index :: job.sources := by
      simp [ActiveRelayJob.sources, entries]
    rw [sources] at member
    rcases List.mem_cons.mp member with impossible | old
    · cases impossible
    · exact before.sources other old
  · have gross := stagedGross_staged staged
    have unsent := staged.unsent
    have total := before.topups
    rw [gross, shares]
    omega
  · rw [staged.summary, staged.balance, shares]
    exact before.known

theorem planned_of_surplus (afforded : Afforded job) (member : share ∈ job.surplusShares) :
    job.surplusPhasePlanned = true := by
  by_contra unplanned
  have before := afforded.open_phase (by simpa using unplanned)
  simp [ActiveRelayJob.surplusShares, before.surplus] at member

theorem afforded_stage (afforded : Afforded job) (stages : StagesOne job next number nowNanos) :
    Afforded next := by
  have funded := afforded.funded
  cases stages with
  | topup index share staged member later bound advanced same =>
      refine ⟨?_, openPhase_staged afforded staged⟩
      have unsent := staged.unsent
      rw [stagedGross_staged staged, staged.balance]
      omega
  | surplus index share staged member later bound advanced topups forward ended clean =>
      refine ⟨?_, ?_⟩
      · have unsent := staged.unsent
        rw [stagedGross_staged staged, staged.balance]
        omega
      · intro impossible
        rw [staged.planned, planned_of_surplus afforded member] at impossible
        cases impossible

/-- What staging one transfer keeps, whatever the transfer is for. -/
theorem bounded_stagedNext (bounded : Bounded job)
    (staged : StagedNext job next number nowNanos source share)
    (early : job.nextCreatedAtTimeNanos < u64Max ∧ nowNanos < u64Max) (afforded : Afforded next)
    (fresh : source ∉ job.sources) (topups : ∀ index, .topup index ∈ next.sources →
      index < next.nextTransferIndex ∧ index < next.canisters.length)
    (surplus : ∀ index, .surplus index ∈ next.sources → next.surplusTransfers ≠ [] →
      index < next.surplusTransferIndex ∧ index < next.surplusTransfers.length) :
    Bounded next := by
  rcases staged.entry with ⟨kind, entries⟩
  have below := createdAt_below early
  have times : next.createdTimes =
      max job.nextCreatedAtTimeNanos nowNanos :: job.createdTimes := by
    simp [ActiveRelayJob.createdTimes, entries]
  refine ⟨afforded, topups, surplus, ?_, ?_, ?_⟩
  · have sources : next.sources = source :: job.sources := by
      simp [ActiveRelayJob.sources, entries]
    rw [sources, List.nodup_cons]
    exact ⟨fresh, bounded.distinct⟩
  · rw [times, List.pairwise_cons]
    refine ⟨?_, bounded.ordered⟩
    intro time member
    have earlier := bounded.created time member
    omega
  · rw [times, staged.created]
    intro time member
    rcases List.mem_cons.mp member with rfl | old
    · exact below
    · have earlier := bounded.created time old
      omega

theorem sources_staged (staged : StagedNext job next number nowNanos source share) :
    next.sources = source :: job.sources := by
  rcases staged.entry with ⟨kind, entries⟩
  simp [ActiveRelayJob.sources, entries]

theorem bounded_stage (bounded : Bounded job) (stages : StagesOne job next number nowNanos)
    (early : job.nextCreatedAtTimeNanos < u64Max ∧ nowNanos < u64Max) : Bounded next := by
  have afforded := afforded_stage bounded.toAfforded stages
  cases stages with
  | topup index share staged member later bound advanced same =>
      apply bounded_stagedNext bounded staged early afforded
      · intro old
        have below := bounded.topups index old
        omega
      · intro other source
        rw [sources_staged staged] at source
        rw [advanced, staged.canisters]
        rcases List.mem_cons.mp source with equal | old
        · cases equal
          exact ⟨Nat.lt_succ_self _, bound⟩
        · have below := bounded.topups other old
          omega
      · intro other source nonempty
        rw [sources_staged staged] at source
        rw [same]
        rw [staged.surplus] at nonempty ⊢
        rcases List.mem_cons.mp source with impossible | old
        · cases impossible
        · exact bounded.surplus other old nonempty
  | surplus index share staged member later bound advanced topups forward ended clean =>
      have filled : job.surplusTransfers ≠ [] := by
        intro empty
        rw [empty] at bound
        cases bound
      apply bounded_stagedNext bounded staged early afforded
      · intro old
        have below := bounded.surplus index old filled
        omega
      · intro other source
        rw [sources_staged staged] at source
        rw [staged.canisters]
        rcases List.mem_cons.mp source with impossible | old
        · cases impossible
        · have below := bounded.topups other old
          omega
      · intro other source nonempty
        rw [sources_staged staged] at source
        rw [advanced, staged.surplus]
        rw [staged.surplus] at nonempty
        rcases List.mem_cons.mp source with equal | old
        · cases equal
          exact ⟨Nat.lt_succ_self _, bound⟩
        · have below := bounded.surplus other old nonempty
          omega

end Moves

end JupiterSuite.Relay
