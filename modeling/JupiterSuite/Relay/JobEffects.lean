import JupiterSuite.Relay.JobRuns
import JupiterSuite.Relay.JobFunding

/-! The effect of each move on the plan of a job and on the list of its staged transfers. -/

namespace JupiterSuite.Relay

open Base

def Staged.identity (entry : Staged) : Nat × TransferSource × Nat × PendingTransfer :=
  (entry.number, entry.source, entry.tick, entry.pending)

namespace ActiveRelayJob

def topupShares (job : ActiveRelayJob) : List Share :=
  job.canisters.map CanisterBurnSample.share

def surplusShares (job : ActiveRelayJob) : List Share :=
  job.surplusTransfers.map SurplusTransferSample.share

def identities (job : ActiveRelayJob) : List (Nat × TransferSource × Nat × PendingTransfer) :=
  job.staged.map Staged.identity

def unsentGross (job : ActiveRelayJob) : Nat :=
  payableGross (job.topupShares.drop job.nextTransferIndex) +
    payableGross (job.surplusShares.drop job.surplusTransferIndex)

end ActiveRelayJob

/-- The plan and the staged transfers stay as they are. -/
structure Kept (job next : ActiveRelayJob) : Prop where
  balance : next.balanceStartE8s = job.balanceStartE8s
  fee : next.feeE8s = job.feeE8s
  topups : next.topupShares = job.topupShares
  surplus : next.surplusTransfers = job.surplusTransfers
  planned : next.surplusPhasePlanned = job.surplusPhasePlanned
  index : next.nextTransferIndex = job.nextTransferIndex
  surplusIndex : next.surplusTransferIndex = job.surplusTransferIndex
  created : next.nextCreatedAtTimeNanos = job.nextCreatedAtTimeNanos
  serial : next.serial = job.serial
  identities : next.identities = job.identities

theorem settleFate_identity (fate : Fate) (entries : List Staged) :
    (settleFate fate entries).map Staged.identity = entries.map Staged.identity := by
  cases entries <;> rfl

theorem updateSample_map {β : Type} (view : CanisterBurnSample → β) (canisterId : Principal)
    {f : CanisterBurnSample → CanisterBurnSample}
    (kept : ∀ sample, view (f sample) = view sample) (samples : List CanisterBurnSample) :
    (updateSample canisterId f samples).map view = samples.map view := by
  induction samples with
  | nil => rfl
  | cons sample samples ih =>
      simp only [updateSample]
      split
      · simp only [List.map_cons, kept]
      · simp only [List.map_cons, ih]

theorem kept_of_accept (job : ActiveRelayJob) (pending : PendingTransfer) (block : Nat) :
    Kept job (job.acceptPending pending block) where
  balance := rfl
  fee := rfl
  topups := by
    simp only [ActiveRelayJob.acceptPending, ActiveRelayJob.topupShares]
    split
    · apply updateSample_map CanisterBurnSample.share
      intro sample
      rfl
    · rfl
  surplus := rfl
  planned := rfl
  index := rfl
  surplusIndex := rfl
  created := rfl
  serial := rfl
  identities := settleFate_identity .accepted job.staged

theorem kept_of_complete (job : ActiveRelayJob) (minted : Option (Principal × Nat)) :
    Kept job (job.completePending minted) := by
  cases minted with
  | none =>
      exact ⟨rfl, rfl, rfl, rfl, rfl, rfl, rfl, rfl, rfl, settleFate_identity .completed job.staged⟩
  | some amount =>
      refine ⟨rfl, rfl, ?_, rfl, rfl, rfl, rfl, rfl, rfl, settleFate_identity .completed job.staged⟩
      apply updateSample_map CanisterBurnSample.share
      intro sample
      rfl

variable {job next : ActiveRelayJob} {rules : JobRules} {nowNanos number : Nat}

theorem kept_of_mark (marked : Mark rules job next) : Kept job next := by
  cases marked with
  | accept block has awaiting => exact kept_of_accept job _ block
  | complete minted has accepted => exact kept_of_complete job minted
  | fail has awaiting may =>
      exact ⟨rfl, rfl, rfl, rfl, rfl, rfl, rfl, rfl, rfl, settleFate_identity .failed job.staged⟩
  | failAfter has accepted =>
      exact ⟨rfl, rfl, rfl, rfl, rfl, rfl, rfl, rfl, rfl,
        settleFate_identity .failedAfterAcceptance job.staged⟩
  | ambiguous has awaiting =>
      exact ⟨rfl, rfl, rfl, rfl, rfl, rfl, rfl, rfl, rfl, settleFate_identity .ambiguous job.staged⟩
  | ambiguousAfter has accepted =>
      exact ⟨rfl, rfl, rfl, rfl, rfl, rfl, rfl, rfl, rfl,
        settleFate_identity .ambiguousAfterAcceptance job.staged⟩

theorem kept_of_stop (stopped : Stopping rules job next) : Kept job next := by
  cases stopped with
  | failed may has awaiting =>
      exact ⟨rfl, rfl, rfl, rfl, rfl, rfl, rfl, rfl, rfl, settleFate_identity .failed job.staged⟩
  | ambiguous has awaiting =>
      exact ⟨rfl, rfl, rfl, rfl, rfl, rfl, rfl, rfl, rfl, settleFate_identity .ambiguous job.staged⟩

theorem Kept.surplusShares (kept : Kept job next) : next.surplusShares = job.surplusShares := by
  simp only [ActiveRelayJob.surplusShares, kept.surplus]

theorem Kept.unsentGross (kept : Kept job next) : next.unsentGross = job.unsentGross := by
  simp only [ActiveRelayJob.unsentGross, kept.topups, kept.surplusShares, kept.index,
    kept.surplusIndex]

theorem nextPayable_some {α : Type} {amountE8s : α → Nat} {samples : List α} {index found : Nat}
    {sample : α} (located : nextPayable amountE8s (samples.drop index) index =
      some (found, sample)) :
    index ≤ found ∧ 0 < amountE8s sample ∧ found < samples.length ∧
      ∃ skipped, samples.drop index = skipped ++ sample :: samples.drop (found + 1) ∧
        ∀ other ∈ skipped, amountE8s other = 0 := by
  induction rest : samples.drop index generalizing index with
  | nil =>
      rw [rest] at located
      cases located
  | cons head tail ih =>
      have inside : index < samples.length := by
        by_contra outside
        rw [List.drop_eq_nil_of_le (Nat.le_of_not_lt outside)] at rest
        cases rest
      have next : samples.drop (index + 1) = tail := by
        rw [← List.drop_drop, rest]
        rfl
      rw [rest] at located
      simp only [nextPayable] at located
      split at located
      · rename_i zero
        rw [← next] at located
        rcases ih located next with ⟨later, positive, bound, skipped, parts, zeros⟩
        refine ⟨by omega, positive, bound, head :: skipped, ?_, ?_⟩
        · rw [parts]
          rfl
        · intro other member
          rcases List.mem_cons.mp member with rfl | inner
          · exact zero
          · exact zeros other inner
      · rename_i nonzero
        cases located
        refine ⟨Nat.le_refl _, Nat.pos_of_ne_zero nonzero, inside, [], ?_, by simp⟩
        rw [next]
        rfl

theorem payableGross_split {α : Type} (share : α → Share) {skipped rest : List α} {sample : α}
    (zeros : ∀ other ∈ skipped, (share other).amountE8s = 0)
    (positive : 0 < (share sample).amountE8s) :
    payableGross ((skipped ++ sample :: rest).map share) =
      (share sample).grossShareE8s + payableGross (rest.map share) := by
  have nothing : payableGross (skipped.map share) = 0 := by
    apply payableGross_eq_zero
    intro other member
    rcases List.mem_map.mp member with ⟨entry, present, rfl⟩
    rw [zeros entry present]
    exact Nat.lt_irrefl 0
  rw [List.map_append, payableGross_append, nothing, List.map_cons, payableGross_cons,
    if_pos positive, Nat.zero_add]

/-- The entry that staging puts in front. -/
structure StagedNext (job next : ActiveRelayJob) (number nowNanos : Nat)
    (source : TransferSource) (share : Share) : Prop where
  positive : 0 < share.amountE8s
  entry : ∃ kind, next.staged =
    ⟨job.staged.length, source, number, ⟨kind, share.grossShareE8s, share.amountE8s,
      max job.nextCreatedAtTimeNanos nowNanos, .awaitingTransfer⟩, .awaiting⟩ :: job.staged
  pending : next.pendingTransfer = next.staged.head?.map Staged.pending
  created : next.nextCreatedAtTimeNanos =
    satAdd u64Max (max job.nextCreatedAtTimeNanos nowNanos) 1
  balance : next.balanceStartE8s = job.balanceStartE8s
  fee : next.feeE8s = job.feeE8s
  serial : next.serial = job.serial
  canisters : next.canisters = job.canisters
  surplus : next.surplusTransfers = job.surplusTransfers
  planned : next.surplusPhasePlanned = job.surplusPhasePlanned
  summary : next.summary = job.summary
  unsent : job.unsentGross = share.grossShareE8s + next.unsentGross

/-- A planned step stages the next payable top-up, or the next payable surplus transfer when no
top-up is left. -/
inductive StagesOne (job next : ActiveRelayJob) (number nowNanos : Nat) : Prop where
  | topup (index : Nat) (share : Share)
      (staged : StagedNext job next number nowNanos (.topup index) share)
      (member : share ∈ job.topupShares)
      (later : job.nextTransferIndex ≤ index) (bound : index < job.canisters.length)
      (advanced : next.nextTransferIndex = index + 1)
      (same : next.surplusTransferIndex = job.surplusTransferIndex)
  | surplus (index : Nat) (share : Share)
      (staged : StagedNext job next number nowNanos (.surplus index) share)
      (member : share ∈ job.surplusShares)
      (later : job.surplusTransferIndex ≤ index) (bound : index < job.surplusTransfers.length)
      (advanced : next.surplusTransferIndex = index + 1)
      (topups : job.topupsRemain = false)
      (forward : job.nextTransferIndex ≤ next.nextTransferIndex)
      (ended : next.remainingTopups = [])
      (clean : job.surplusAllowedAfterTopups = none)

theorem topupsRemain_false (nothing : job.topupsRemain = false) :
    payableGross (job.topupShares.drop job.nextTransferIndex) = 0 := by
  apply payableGross_eq_zero
  intro share member
  rw [ActiveRelayJob.topupShares, ← List.map_drop] at member
  rcases List.mem_map.mp member with ⟨sample, present, rfl⟩
  simp only [ActiveRelayJob.topupsRemain, ActiveRelayJob.remainingTopups, List.any_eq_false,
    decide_eq_true_eq] at nothing
  exact nothing sample present

theorem nextTopupPending_some (planned : (job.nextTopupPending number nowNanos).2 = true) :
    StagesOne job (job.nextTopupPending number nowNanos).1 number nowNanos := by
  unfold ActiveRelayJob.nextTopupPending at planned ⊢
  split at planned
  · cases planned
  · rename_i index sample located
    rcases nextPayable_some located with ⟨later, positive, bound, skipped, parts, zeros⟩
    have unsent : job.unsentGross = sample.share.grossShareE8s +
        (payableGross (job.topupShares.drop (index + 1)) +
          payableGross (job.surplusShares.drop job.surplusTransferIndex)) := by
      simp only [ActiveRelayJob.unsentGross, ActiveRelayJob.topupShares, ← List.map_drop]
      rw [parts, payableGross_split CanisterBurnSample.share zeros positive]
      omega
    have member : sample.share ∈ job.topupShares := by
      apply List.mem_map_of_mem
      apply List.mem_of_mem_drop (i := job.nextTransferIndex)
      rw [parts]
      simp
    exact .topup index sample.share
      ⟨positive, ⟨_, rfl⟩, rfl, rfl, rfl, rfl, rfl, rfl, rfl, rfl, rfl, unsent⟩ member later
      bound rfl rfl

theorem nextSurplusPending_some (planned : (job.nextSurplusPending number nowNanos).2 = true) :
    ∃ index share, StagedNext job (job.nextSurplusPending number nowNanos).1 number nowNanos
        (.surplus index) share ∧ share ∈ job.surplusShares ∧ job.surplusTransferIndex ≤ index ∧
      index < job.surplusTransfers.length ∧
      (job.nextSurplusPending number nowNanos).1.surplusTransferIndex = index + 1 ∧
      (job.nextSurplusPending number nowNanos).1.nextTransferIndex = job.nextTransferIndex ∧
      job.surplusAllowedAfterTopups = none := by
  unfold ActiveRelayJob.nextSurplusPending at planned ⊢
  split at planned
  · cases planned
  · rename_i filled
    rw [if_neg filled]
    split at planned
    · cases planned
    · rename_i clean
      split at planned
      · cases planned
      · rename_i index sample located
        rcases nextPayable_some located with ⟨later, positive, bound, skipped, parts, zeros⟩
        have unsent : job.unsentGross = sample.share.grossShareE8s +
            (payableGross (job.topupShares.drop job.nextTransferIndex) +
              payableGross (job.surplusShares.drop (index + 1))) := by
          simp only [ActiveRelayJob.unsentGross, ActiveRelayJob.surplusShares, ← List.map_drop]
          rw [parts, payableGross_split SurplusTransferSample.share zeros positive]
          omega
        have member : sample.share ∈ job.surplusShares := by
          apply List.mem_map_of_mem
          apply List.mem_of_mem_drop (i := job.surplusTransferIndex)
          rw [parts]
          simp
        exact ⟨index, sample.share,
          ⟨positive, ⟨_, rfl⟩, rfl, rfl, rfl, rfl, rfl, rfl, rfl, rfl, rfl, unsent⟩, member, later,
          bound, rfl, rfl, clean⟩

theorem planNextTransfer_planned {limit : Option Nat} {started : Nat}
    (planned : job.planNextTransfer limit started number nowNanos = (next, .planned)) :
    (∀ most, limit = some most → started < most) ∧ StagesOne job next number nowNanos := by
  simp only [ActiveRelayJob.planNextTransfer] at planned
  split at planned
  · cases planned
  · split at planned
    · cases planned
    · rename_i within
      have below : ∀ most, limit = some most → started < most := by
        rintro most rfl
        simpa using within
      refine ⟨below, ?_⟩
      split at planned
      · rename_i topup
        cases planned
        exact nextTopupPending_some topup
      · rename_i no_topup
        have unstaged : (job.nextTopupPending number nowNanos).2 = false := by simpa using no_topup
        have ended := nextTopupPending_none unstaged
        split at planned
        · rename_i surplus
          cases planned
          rcases nextSurplusPending_some surplus with
            ⟨index, share, staged, member, later, bound, advanced, kept, clean⟩
          rw [ended.1] at staged advanced kept later bound clean member ⊢
          have nothing := topupsRemain_false ended.2
          have same : job.unsentGross =
              ({ job with nextTransferIndex := max job.nextTransferIndex job.canisters.length } :
                ActiveRelayJob).unsentGross := by
            have beyond : job.topupShares.drop
                (max job.nextTransferIndex job.canisters.length) = [] := by
              apply List.drop_eq_nil_of_le
              simp [ActiveRelayJob.topupShares]
            simp only [ActiveRelayJob.unsentGross, nothing]
            show _ = payableGross (job.topupShares.drop
              (max job.nextTransferIndex job.canisters.length)) + _
            rw [beyond]
            rfl
          refine .surplus index share ?_ member later bound advanced ended.2 ?_ ?_ clean
          · exact ⟨staged.positive, staged.entry, staged.pending, staged.created, staged.balance,
              staged.fee, staged.serial, staged.canisters, staged.surplus, staged.planned,
              staged.summary, same.trans staged.unsent⟩
          · rw [kept]
            exact Nat.le_max_left _ _
          · unfold ActiveRelayJob.remainingTopups
            rw [kept, staged.canisters]
            exact List.drop_eq_nil_of_le (Nat.le_max_right _ _)
        · cases planned

theorem surplusRemains_false (nothing : job.surplusRemains = false) :
    payableGross (job.surplusShares.drop job.surplusTransferIndex) = 0 := by
  apply payableGross_eq_zero
  intro share member
  rw [ActiveRelayJob.surplusShares, ← List.map_drop] at member
  rcases List.mem_map.mp member with ⟨plan, present, rfl⟩
  simp only [ActiveRelayJob.surplusRemains, ActiveRelayJob.remainingSurplus, List.any_eq_false,
    decide_eq_true_eq] at nothing
  exact nothing plan present

/-- A plan step that stages nothing; only a refused surplus changes what is left to send. -/
structure RestNext (job next : ActiveRelayJob) : Prop where
  start : next.summary.defaultAccountBalanceStartE8s = job.summary.defaultAccountBalanceStartE8s
  balance : next.balanceStartE8s = job.balanceStartE8s
  fee : next.feeE8s = job.feeE8s
  canisters : next.canisters = job.canisters
  planned : next.surplusPhasePlanned = job.surplusPhasePlanned
  pending : next.pendingTransfer = job.pendingTransfer
  created : next.nextCreatedAtTimeNanos = job.nextCreatedAtTimeNanos
  serial : next.serial = job.serial
  staged : next.staged = job.staged
  failed : next.summary.failedTransfers = job.summary.failedTransfers
  sent : next.summary.ledgerSentE8s = job.summary.ledgerSentE8s
  fees : next.summary.ledgerFeesE8s = job.summary.ledgerFeesE8s
  known : next.summary.knownUnspentE8s = job.summary.knownUnspentE8s
  ambiguous : next.summary.ambiguousE8s = job.summary.ambiguousE8s
  index : min job.nextTransferIndex job.canisters.length ≤ next.nextTransferIndex
  surplus : (next.surplusTransfers = job.surplusTransfers ∧
    min job.surplusTransferIndex job.surplusTransfers.length ≤ next.surplusTransferIndex) ∨
      (job.surplusTransfers ≠ [] ∧ next.surplusTransfers = [])
  unsent : next.unsentGross = job.unsentGross ∨
    (job.topupsRemain = false ∧ job.surplusRemains = true ∧
      job.surplusAllowedAfterTopups ≠ none ∧ next.unsentGross = 0)

theorem drop_shares_end (job : ActiveRelayJob) {index : Nat} (beyond : job.canisters.length ≤ index) :
    payableGross (job.topupShares.drop index) = 0 := by
  rw [List.drop_eq_nil_of_le]
  · rfl
  · simpa [ActiveRelayJob.topupShares] using beyond

theorem rest_next {limit : Option Nat} {started : Nat}
    (unplanned : (job.planNextTransfer limit started number nowNanos).2 ≠ .planned) :
    RestNext job (job.planNextTransfer limit started number nowNanos).1 := by
  simp only [ActiveRelayJob.planNextTransfer] at unplanned ⊢
  split
  · rename_i nothing
    simp only [Bool.and_eq_true, Bool.not_eq_true'] at nothing
    refine ⟨rfl, rfl, rfl, rfl, rfl, rfl, rfl, rfl, rfl, rfl, rfl, rfl, rfl, rfl, Nat.min_le_right _ _,
      .inl ⟨rfl, Nat.min_le_right _ _⟩, .inl ?_⟩
    simp only [ActiveRelayJob.unsentGross, topupsRemain_false nothing.1,
      surplusRemains_false nothing.2]
    simp [ActiveRelayJob.topupShares, ActiveRelayJob.surplusShares, ← List.map_drop]
  · rename_i something
    rw [if_neg something] at unplanned
    split
    · exact ⟨rfl, rfl, rfl, rfl, rfl, rfl, rfl, rfl, rfl, rfl, rfl, rfl, rfl, rfl, Nat.min_le_left _ _,
        .inl ⟨rfl, Nat.min_le_left _ _⟩, .inl rfl⟩
    · rename_i within
      rw [if_neg within] at unplanned
      split
      · rename_i planned
        rw [if_pos planned] at unplanned
        exact absurd rfl unplanned
      · rename_i no_topup
        rw [if_neg no_topup] at unplanned
        have unstaged : (job.nextTopupPending number nowNanos).2 = false := by simpa using no_topup
        have ended := nextTopupPending_none unstaged
        have zero := topupsRemain_false ended.2
        have remains : job.surplusRemains = true := by
          simpa [ended.2] using something
        have moved : min job.nextTransferIndex job.canisters.length ≤
            max job.nextTransferIndex job.canisters.length := by omega
        have beyond := drop_shares_end job
          (Nat.le_max_right job.nextTransferIndex job.canisters.length)
        split
        · rename_i planned
          rw [if_pos planned] at unplanned
          exact absurd rfl unplanned
        · rename_i no_surplus
          rw [ended.1] at no_surplus ⊢
          simp only [ActiveRelayJob.nextSurplusPending] at no_surplus ⊢
          split
          · refine ⟨rfl, rfl, rfl, rfl, rfl, rfl, rfl, rfl, rfl, rfl, rfl, rfl, rfl, rfl, moved,
              .inl ⟨rfl, Nat.min_le_left _ _⟩, .inl ?_⟩
            simp only [ActiveRelayJob.unsentGross, zero]
            show payableGross (job.topupShares.drop _) + _ = _
            rw [beyond]
            rfl
          · rename_i filled
            have nonempty : job.surplusTransfers ≠ [] := by
              intro empty
              exact filled (by simp [empty])
            rw [if_neg filled] at no_surplus
            split
            · rename_i reason refused
              refine ⟨rfl, rfl, rfl, rfl, rfl, rfl, rfl, rfl, rfl, rfl, rfl, rfl, rfl, rfl, moved,
                .inr ⟨nonempty, rfl⟩, .inr ⟨ended.2, remains, ?_, ?_⟩⟩
              · have same : job.surplusAllowedAfterTopups = some reason := refused
                rw [same]
                simp
              · show payableGross (job.topupShares.drop _) + 0 = 0
                rw [beyond]
            · rename_i clean
              simp only [clean] at no_surplus
              split
              · rename_i found
                refine ⟨rfl, rfl, rfl, rfl, rfl, rfl, rfl, rfl, rfl, rfl, rfl, rfl, rfl, rfl, moved,
                  .inl ⟨rfl, by dsimp only; omega⟩, .inl ?_⟩
                have zeros := nextPayable_none found
                have none_left : job.surplusRemains = false := by
                  simp only [ActiveRelayJob.surplusRemains, List.any_eq_false, decide_eq_true_eq]
                  intro plan member
                  have nothing := zeros plan member
                  omega
                rw [remains] at none_left
                cases none_left
              · rename_i found
                simp [found] at no_surplus

theorem clean_summary (clean : job.surplusAllowedAfterTopups = none) :
    job.summary.failedTransfers = 0 := by
  unfold ActiveRelayJob.surplusAllowedAfterTopups at clean
  split at clean
  · cases clean
  · rename_i nothing
    simpa using nothing

/-- A mark that leaves the failure counter at zero has not changed what is known unspent. -/
theorem known_of_mark (marked : Mark rules job next) (unfailed : next.summary.failedTransfers = 0) :
    job.summary.failedTransfers = 0 ∧
      next.summary.knownUnspentE8s = job.summary.knownUnspentE8s := by
  have raised : ∀ count, satAdd u32Max count 1 ≠ 0 := by
    intro count
    simp only [satAdd, u32Max]
    omega
  cases marked with
  | accept block has awaiting => exact ⟨unfailed, rfl⟩
  | complete minted has accepted => cases minted <;> exact ⟨unfailed, rfl⟩
  | fail has awaiting may => exact absurd unfailed (raised _)
  | failAfter has accepted => exact absurd unfailed (raised _)
  | ambiguous has awaiting => exact ⟨unfailed, rfl⟩
  | ambiguousAfter has accepted => exact ⟨unfailed, rfl⟩

end JupiterSuite.Relay
