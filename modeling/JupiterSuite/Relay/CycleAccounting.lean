import JupiterSuite.Relay.CycleAccounts
import JupiterSuite.Relay.JobEffects

/-! Every state that the relay reaches keeps its cycle maps by the laws of the accounts. -/

namespace JupiterSuite.Relay

open Base

def ActiveRelayJob.plans (job : ActiveRelayJob) : List BurnPlan :=
  job.canisters.map CanisterBurnSample.toBurnPlan

def targets (plans : List BurnPlan) : List Principal := plans.map BurnPlan.canisterId

def cyclesSeen (plan : BurnPlan) : Principal × Nat := (plan.canisterId, plan.currentCycles)

def BurnPlan.mint (mintedCycles : Nat) (plan : BurnPlan) : BurnPlan :=
  { plan with
    actualMintedCycles := satAdd u128Max plan.actualMintedCycles mintedCycles
    remainingDeficitCycles := plan.targetTopupCycles -
      satAdd u128Max plan.actualMintedCycles mintedCycles }

def BurnPlan.settle (plan : BurnPlan) : BurnPlan :=
  { plan with remainingDeficitCycles := plan.targetTopupCycles - plan.actualMintedCycles }

/-- What a run has made so far of the accounts that it started from. -/
structure RunAccounted (managed : List Principal) (headroom : Bool) (before now : CycleAccounts)
    (plans : List BurnPlan) (mints : List (Principal × Nat)) : Prop where
  distinct : (targets plans).Nodup
  known : ∀ plan ∈ plans, plan.canisterId ∈ managed
  follows : ∀ plan ∈ plans, plan.Follows headroom before
  recorded : ∀ plan ∈ plans, plan.actualMintedCycles = mintedFor mints plan.canisterId
  paid : ∀ entry ∈ mints, entry.1 ∈ targets plans
  lastCompleted : now.lastCompleted = before.lastCompleted
  recoveryDeficits : now.recoveryDeficits = before.recoveryDeficits
  relayMinted : ∀ plan ∈ plans,
    (now.relayMinted plan.canisterId).getD 0 = mintedFor mints plan.canisterId
  unobserved : ∀ canisterId, canisterId ∉ targets plans →
    now.relayMinted canisterId = before.relayMinted canisterId
  within : now.Within managed

/-- A pending top-up is for a canister of the run. -/
def PendingKnown (job : ActiveRelayJob) : Prop :=
  ∀ pending canisterId, job.pendingTransfer = some pending →
    pending.kind = .cmcTopUp canisterId → canisterId ∈ targets job.plans

structure JobAccounted (managed : List Principal) (headroom : Bool) (before now : CycleAccounts)
    (mints : List (Principal × Nat)) (job : ActiveRelayJob) : Prop where
  run : RunAccounted managed headroom before now job.plans mints
  observed : job.currentCycles = job.plans.map cyclesSeen
  pending : PendingKnown job

structure Accounted (relayId : Principal) (st : RelayState) : Prop where
  lawful : LawfulRecords (effectiveManagedCanisters relayId st.config) (hasRawIcpRecipients st)
    st.records
  idle : st.activeJob = none → st.accounts = accountsAfter st.records
  running : ∀ job, st.activeJob = some job →
    JobAccounted (effectiveManagedCanisters relayId st.config) (hasRawIcpRecipients st)
      (accountsAfter st.records) st.accounts st.mints job

variable {canisterId : Principal} {plan : BurnPlan} {mints current : List (Principal × Nat)}
  {plans : List BurnPlan}

section Plans

variable {managed : List Principal} {headroom : Bool} {before now : CycleAccounts}

theorem updateSample_mem {f : CanisterBurnSample → CanisterBurnSample}
    {samples : List CanisterBurnSample} {sample : CanisterBurnSample}
    (distinct : (samples.map fun sample => sample.canisterId).Nodup)
    (member : sample ∈ updateSample canisterId f samples) :
    (∃ old ∈ samples, old.canisterId = canisterId ∧ sample = f old) ∨
      (sample ∈ samples ∧ sample.canisterId ≠ canisterId) := by
  induction samples with
  | nil => cases member
  | cons first rest ih =>
      simp only [List.map_cons, List.nodup_cons] at distinct
      simp only [updateSample] at member
      split at member
      · rename_i here
        rcases List.mem_cons.mp member with rfl | later
        · exact .inl ⟨first, List.mem_cons_self, here, rfl⟩
        · refine .inr ⟨List.mem_cons_of_mem first later, ?_⟩
          intro same
          apply distinct.1
          rw [here, ← same]
          exact List.mem_map_of_mem later
      · rename_i other
        rcases List.mem_cons.mp member with rfl | later
        · exact .inr ⟨List.mem_cons_self, other⟩
        · rcases ih distinct.2 later with ⟨old, present, same, made⟩ | ⟨present, different⟩
          · exact .inl ⟨old, List.mem_cons_of_mem first present, same, made⟩
          · exact .inr ⟨List.mem_cons_of_mem first present, different⟩

theorem follows_cycles (follows : plan.cycles.Follows headroom before) :
    plan.Follows headroom before :=
  ⟨follows.previous, follows.baseline, follows.correction, follows.carried, follows.burn,
    follows.target, follows.bounded⟩

theorem follows_settle (follows : plan.Follows headroom before) :
    plan.settle.Follows headroom before :=
  ⟨follows.previous, follows.baseline, follows.correction, follows.carried, follows.burn,
    follows.target, follows.bounded⟩

theorem follows_mint (mintedCycles : Nat) (follows : plan.Follows headroom before) :
    (plan.mint mintedCycles).Follows headroom before :=
  ⟨follows.previous, follows.baseline, follows.correction, follows.carried, follows.burn,
    follows.target, follows.bounded⟩

theorem mintedFor_self (mints : List (Principal × Nat)) (canisterId : Principal)
    (mintedCycles : Nat) :
    mintedFor ((canisterId, mintedCycles) :: mints) canisterId =
      satAdd u128Max (mintedFor mints canisterId) mintedCycles := by
  simp [mintedFor]

theorem mintedFor_other {other : Principal} (mintedCycles : Nat) (different : canisterId ≠ other) :
    mintedFor ((canisterId, mintedCycles) :: mints) other = mintedFor mints other := by
  simp [mintedFor, different]

theorem settle_targets (plans : List BurnPlan) :
    targets (plans.map BurnPlan.settle) = targets plans := by
  simp only [targets, List.map_map]
  rfl

/-- The accounts of the run once its samples and deficits are written back. -/
def CycleAccounts.finish (now : CycleAccounts) (plans : List BurnPlan) : CycleAccounts where
  lastCompleted := insertCycles now.lastCompleted (plans.map cyclesSeen)
  relayMinted := now.relayMinted
  recoveryDeficits := persistRecoveryDeficits now.recoveryDeficits (plans.map BurnPlan.settle)

theorem cyclesSeen_targets (plans : List BurnPlan) :
    (plans.map cyclesSeen).map Prod.fst = targets plans := by
  rw [List.map_map]
  rfl

theorem RunAccounted.finish (accounted : RunAccounted managed headroom before now plans mints) :
    RunLaw managed headroom before (plans.map BurnPlan.settle) mints (now.finish plans) := by
  have inside : ∀ canisterId ∈ targets plans, canisterId ∈ managed := by
    intro canisterId member
    rcases List.mem_map.mp member with ⟨plan, present, rfl⟩
    exact accounted.known plan present
  have names : (plans.map BurnPlan.settle).map BurnPlan.canisterId = targets plans :=
    settle_targets plans
  have settled : ∀ sample ∈ plans.map BurnPlan.settle, ∃ plan ∈ plans, sample = plan.settle := by
    intro sample member
    rcases List.mem_map.mp member with ⟨plan, present, rfl⟩
    exact ⟨plan, present, rfl⟩
  refine ⟨?_, ?_, ?_, ?_, ?_, ?_, ?_, ?_, ?_⟩
  · rw [names]
    exact accounted.distinct
  · intro sample member
    rcases settled sample member with ⟨plan, present, rfl⟩
    exact accounted.known plan present
  · intro sample member
    rcases settled sample member with ⟨plan, present, rfl⟩
    exact follows_settle (accounted.follows plan present)
  · rw [names]
    exact accounted.paid
  · intro sample member
    rcases settled sample member with ⟨plan, present, rfl⟩
    have seen : cyclesSeen plan ∈ plans.map cyclesSeen := List.mem_map_of_mem present
    apply insertCycles_member _ seen
    rw [cyclesSeen_targets]
    exact accounted.distinct
  · intro sample member
    rcases settled sample member with ⟨plan, present, rfl⟩
    exact accounted.relayMinted plan present
  · intro sample member
    have written : persistRecoveryDeficits now.recoveryDeficits (plans.map BurnPlan.settle)
        sample.canisterId = deficitEntry sample.remainingDeficitCycles :=
      persistRecoveryDeficits_member (names.symm ▸ accounted.distinct) member
    rcases settled sample member with ⟨plan, present, rfl⟩
    have recorded : plan.actualMintedCycles = mintedFor mints plan.settle.canisterId :=
      accounted.recorded plan present
    rw [← recorded]
    exact written
  · rw [names]
    intro canisterId outside
    refine ⟨?_, accounted.unobserved canisterId outside, ?_⟩
    · rw [← accounted.lastCompleted]
      apply insertCycles_other
      rw [cyclesSeen_targets]
      exact outside
    · rw [← accounted.recoveryDeficits]
      apply persistRecoveryDeficits_other
      rw [names]
      exact outside
  · refine ⟨within_insertCycles accounted.within.lastCompleted ?_, accounted.within.relayMinted,
      within_persist accounted.within.recoveryDeficits ?_⟩
    · rw [cyclesSeen_targets]
      exact inside
    · intro sample member
      rcases settled sample member with ⟨plan, present, rfl⟩
      exact accounted.known plan present

theorem RunAccounted.mint {next : List BurnPlan} {mintedCycles : Nat}
    (accounted : RunAccounted managed headroom before now plans mints)
    (target : canisterId ∈ targets plans) (same : targets next = targets plans)
    (minted : ∀ plan ∈ next,
      (∃ old ∈ plans, old.canisterId = canisterId ∧ plan = old.mint mintedCycles) ∨
        (plan ∈ plans ∧ plan.canisterId ≠ canisterId)) :
    RunAccounted managed headroom before
      ⟨now.lastCompleted, now.relayMinted.insert canisterId
        (satAdd u128Max ((now.relayMinted canisterId).getD 0) mintedCycles), now.recoveryDeficits⟩
      next ((canisterId, mintedCycles) :: mints) := by
  refine ⟨?_, ?_, ?_, ?_, ?_, accounted.lastCompleted, accounted.recoveryDeficits, ?_, ?_, ?_⟩
  · rw [same]
    exact accounted.distinct
  · intro plan member
    rcases minted plan member with ⟨old, present, _, rfl⟩ | ⟨present, _⟩
    · exact accounted.known old present
    · exact accounted.known plan present
  · intro plan member
    rcases minted plan member with ⟨old, present, _, rfl⟩ | ⟨present, _⟩
    · exact follows_mint mintedCycles (accounted.follows old present)
    · exact accounted.follows plan present
  · intro plan member
    rcases minted plan member with ⟨old, present, rfl, rfl⟩ | ⟨present, different⟩
    · have recorded := accounted.recorded old present
      show satAdd u128Max old.actualMintedCycles mintedCycles = _
      rw [recorded]
      exact (mintedFor_self mints old.canisterId mintedCycles).symm
    · rw [mintedFor_other mintedCycles (Ne.symm different)]
      exact accounted.recorded plan present
  · rw [same]
    intro entry member
    rcases List.mem_cons.mp member with rfl | earlier
    · exact target
    · exact accounted.paid entry earlier
  · intro plan member
    rcases minted plan member with ⟨old, present, rfl, rfl⟩ | ⟨present, different⟩
    · have before := accounted.relayMinted old present
      show ((now.relayMinted.insert old.canisterId _) old.canisterId).getD 0 = _
      rw [insert_self, Option.getD_some, before]
      exact (mintedFor_self mints old.canisterId mintedCycles).symm
    · show ((now.relayMinted.insert canisterId _) plan.canisterId).getD 0 = _
      rw [insert_other _ different, mintedFor_other mintedCycles (Ne.symm different)]
      exact accounted.relayMinted plan present
  · rw [same]
    intro other outside
    have different : other ≠ canisterId := by
      rintro rfl
      exact outside target
    show (now.relayMinted.insert canisterId _) other = _
    rw [insert_other _ different]
    exact accounted.unobserved other outside
  · refine ⟨accounted.within.lastCompleted, ?_, accounted.within.recoveryDeficits⟩
    intro other outside
    have different : other ≠ canisterId := by
      rintro rfl
      rcases List.mem_map.mp target with ⟨plan, present, rfl⟩
      exact outside (accounted.known plan present)
    show (now.relayMinted.insert canisterId _) other = _
    rw [insert_other _ different]
    exact accounted.within.relayMinted other outside

/-- What a probe has found, for canisters that have a baseline. -/
structure Sampled (managed : List Principal) (baselines : CycleMap)
    (current : List (Principal × Nat)) : Prop where
  distinct : (current.map Prod.fst).Nodup
  known : ∀ entry ∈ current, entry.1 ∈ managed
  bounded : ∀ entry ∈ current, entry.2 ≤ u128Max
  baseline : ∀ entry ∈ current, (baselines entry.1).isSome

theorem Sampled.mono {baselines later : CycleMap} (sampled : Sampled managed baselines current)
    (kept : ∀ canisterId, (baselines canisterId).isSome → (later canisterId).isSome) :
    Sampled managed later current :=
  ⟨sampled.distinct, sampled.known, sampled.bounded,
    fun entry member => kept entry.1 (sampled.baseline entry member)⟩

theorem burnPlan_follows {entry : Principal × Nat} (bounded : entry.2 ≤ u128Max)
    (baseline : (before.lastCompleted entry.1).isSome) :
    (burnPlan before.lastCompleted before.relayMinted before.recoveryDeficits headroom
      entry).Follows headroom before := by
  rcases Option.isSome_iff_exists.mp baseline with ⟨previous, found⟩
  refine ⟨rfl, baseline, rfl, rfl, ?_, rfl, bounded⟩
  simp only [burnPlan, found, Option.map_some, Option.getD_some]

/-- A plan shows the cycles that its samples were made from. -/
theorem cyclesSeen_planned {samples : CycleSamples}
    (planned : plans.map BurnPlan.cycles = burnPlans samples headroom) :
    plans.map cyclesSeen = samples.current := by
  have figures := congrArg (List.map cyclesSeen) planned
  simp only [burnPlans, List.map_map] at figures
  have same : samples.current.map (cyclesSeen ∘ burnPlan samples.previous samples.relayMinted
      samples.recoveryDeficits headroom) = samples.current := List.map_id' _
  rw [same] at figures
  exact figures

theorem RunAccounted.begin (before : CycleAccounts)
    (sampled : Sampled managed before.lastCompleted current) (within : before.Within managed)
    (planned : plans.map BurnPlan.cycles =
      burnPlans ⟨current, before.lastCompleted, before.relayMinted, before.recoveryDeficits⟩
        headroom) :
    RunAccounted managed headroom before
      ⟨before.lastCompleted, removeCycles before.relayMinted current, before.recoveryDeficits⟩
      plans [] ∧ current = plans.map cyclesSeen := by
  have seen : plans.map cyclesSeen = current := cyclesSeen_planned planned
  have names : targets plans = current.map Prod.fst := by
    rw [← seen, cyclesSeen_targets]
  have origin : ∀ plan ∈ plans, ∃ entry ∈ current, plan.cycles =
      burnPlan before.lastCompleted before.relayMinted before.recoveryDeficits headroom entry := by
    intro plan member
    have listed : plan.cycles ∈ plans.map BurnPlan.cycles := List.mem_map_of_mem member
    rw [planned] at listed
    rcases List.mem_map.mp listed with ⟨entry, present, same⟩
    exact ⟨entry, present, same.symm⟩
  have named : ∀ plan ∈ plans, plan.canisterId ∈ current.map Prod.fst := by
    intro plan member
    rw [← names]
    exact List.mem_map_of_mem member
  have gone : ∀ plan ∈ plans, removeCycles before.relayMinted current plan.canisterId = none :=
    fun plan member => removeCycles_member (named plan member)
  refine ⟨⟨?_, ?_, ?_, ?_, ?_, rfl, rfl, ?_, ?_, ?_⟩, seen.symm⟩
  · rw [names]
    exact sampled.distinct
  · intro plan member
    rcases List.mem_map.mp (named plan member) with ⟨entry, present, same⟩
    rw [← same]
    exact sampled.known entry present
  · intro plan member
    rcases origin plan member with ⟨entry, present, same⟩
    apply follows_cycles
    rw [same]
    exact burnPlan_follows (sampled.bounded entry present) (sampled.baseline entry present)
  · intro plan member
    rcases origin plan member with ⟨entry, present, same⟩
    show plan.cycles.actualMintedCycles = 0
    rw [same]
    rfl
  · intro entry impossible
    cases impossible
  · intro plan member
    show (removeCycles before.relayMinted current plan.canisterId).getD 0 = 0
    rw [gone plan member]
    rfl
  · rw [names]
    intro canisterId outside
    exact removeCycles_other outside
  · exact ⟨within.lastCompleted, within_removeCycles within.relayMinted, within.recoveryDeficits⟩

theorem settle_planned {samples : CycleSamples}
    (planned : plans.map BurnPlan.cycles = burnPlans samples headroom) :
    plans.map BurnPlan.settle = plans := by
  have settled : ∀ plan ∈ plans, plan.settle = plan := by
    intro plan member
    have listed : plan.cycles ∈ plans.map BurnPlan.cycles := List.mem_map_of_mem member
    rw [planned] at listed
    rcases List.mem_map.mp listed with ⟨entry, _, same⟩
    have consistent : plan.cycles.remainingDeficitCycles =
        plan.cycles.targetTopupCycles - plan.cycles.actualMintedCycles := by
      rw [← same]
      rfl
    have remaining : plan.targetTopupCycles - plan.actualMintedCycles =
        plan.remainingDeficitCycles := consistent.symm
    simp only [BurnPlan.settle, remaining]
  rw [List.map_congr_left settled]
  exact List.map_id' plans

theorem baseline_law (before : CycleAccounts) (distinct : (current.map Prod.fst).Nodup)
    (known : ∀ entry ∈ current, entry.1 ∈ managed) (within : before.Within managed) :
    let fresh := current.filter fun entry => (before.lastCompleted entry.1).isNone
    BaselineLaw managed before fresh
      ⟨insertCycles before.lastCompleted fresh, removeCycles before.relayMinted fresh,
        before.recoveryDeficits⟩ := by
  intro fresh
  have part : fresh.Sublist current := List.filter_sublist
  have names : (fresh.map Prod.fst).Nodup := distinct.sublist (part.map Prod.fst)
  have inside : ∀ entry ∈ fresh, entry.1 ∈ managed :=
    fun entry member => known entry (part.subset member)
  refine ⟨names, inside, ?_, ?_, ?_, rfl, ?_, ?_, within_removeCycles within.relayMinted,
    within.recoveryDeficits⟩
  · intro entry member
    have missing := (List.mem_filter.mp member).2
    exact Option.isNone_iff_eq_none.mp missing
  · intro entry member
    exact insertCycles_member names member
  · intro entry member
    exact removeCycles_member (List.mem_map_of_mem member)
  · intro canisterId outside
    exact ⟨insertCycles_other outside, removeCycles_other outside, rfl⟩
  · apply within_insertCycles within.lastCompleted
    intro canisterId member
    rcases List.mem_map.mp member with ⟨entry, present, rfl⟩
    exact inside entry present

end Plans

section States

variable {relayId : Principal} {st next : RelayState} {job : ActiveRelayJob}

theorem accountsAfter_within {managed : List Principal} {headroom : Bool}
    {records : List AccountRecord} (lawful : LawfulRecords managed headroom records) :
    (accountsAfter records).Within managed := by
  cases records with
  | nil => exact ⟨fun _ _ => rfl, fun _ _ => rfl, fun _ _ => rfl⟩
  | cons latest earlier =>
      rcases latest with ⟨update, after⟩
      cases update with
      | baseline fresh => exact lawful.1.within
      | run samples mints => exact lawful.1.within

theorem accounts_within (accounted : Accounted relayId st) :
    st.accounts.Within (effectiveManagedCanisters relayId st.config) := by
  cases active : st.activeJob with
  | none =>
      rw [accounted.idle active]
      exact accountsAfter_within accounted.lawful
  | some job => exact (accounted.running job active).run.within

theorem retain_effective (accounted : Accounted relayId st) :
    st.retainEffectiveTargets (effectiveManagedCanisters relayId st.config) = st := by
  have within := accounts_within accounted
  have last : st.lastCompletedCycles.retain _ = st.lastCompletedCycles :=
    retain_within within.lastCompleted
  have minted : st.relayMintedCyclesSinceSample.retain _ = st.relayMintedCyclesSinceSample :=
    retain_within within.relayMinted
  have deficits : st.recoveryDeficitCycles.retain _ = st.recoveryDeficitCycles :=
    retain_within within.recoveryDeficits
  simp only [RelayState.retainEffectiveTargets, last, minted, deficits]

/-- What the accounts are made from stays as it is. -/
structure SameBooks (st next : RelayState) : Prop where
  config : next.config = st.config
  accounts : next.accounts = st.accounts
  records : next.records = st.records
  mints : next.mints = st.mints
  active : next.activeJob = st.activeJob

structure Bookkept (relayId : Principal) (st next : RelayState) : Prop where
  config : next.config = st.config
  accounted : Accounted relayId next
  baselines : ∀ canisterId, (st.lastCompletedCycles canisterId).isSome →
    (next.lastCompletedCycles canisterId).isSome

theorem headroom_of_config (same : next.config = st.config) :
    hasRawIcpRecipients next = hasRawIcpRecipients st := by
  simp only [hasRawIcpRecipients, same]

theorem bookkept_same (accounted : Accounted relayId st) (same : SameBooks st next) :
    Bookkept relayId st next := by
  have last : next.lastCompletedCycles = st.lastCompletedCycles :=
    congrArg CycleAccounts.lastCompleted same.accounts
  refine ⟨same.config, ⟨?_, ?_, ?_⟩, ?_⟩
  · rw [same.config, headroom_of_config same.config, same.records]
    exact accounted.lawful
  · rw [same.active, same.accounts, same.records]
    exact accounted.idle
  · rw [same.active, same.config, headroom_of_config same.config, same.accounts, same.records,
      same.mints]
    exact accounted.running
  · intro canisterId had
    rw [last]
    exact had

/-- The job goes on with the same plans. -/
structure SameRun (job next : ActiveRelayJob) : Prop where
  plans : next.plans = job.plans
  observed : next.currentCycles = job.currentCycles
  pending : PendingKnown job → PendingKnown next

theorem bookkept_job {next : ActiveRelayJob} (accounted : Accounted relayId st)
    (active : st.activeJob = some job) (same : SameRun job next) :
    Bookkept relayId st (st.setActiveJob next) := by
  refine ⟨rfl, ⟨accounted.lawful, nofun, ?_⟩,
    fun _ had => had⟩
  intro other here
  cases here
  have running := accounted.running job active
  refine ⟨?_, ?_, same.pending running.pending⟩
  · rw [same.plans]
    exact running.run
  · rw [same.plans, same.observed]
    exact running.observed

theorem plans_mint (canisterId : Principal) (mintedCycles : Nat)
    (distinct : (targets job.plans).Nodup) :
    let next := job.completePending (some (canisterId, mintedCycles))
    targets next.plans = targets job.plans ∧
      next.plans.map cyclesSeen = job.plans.map cyclesSeen ∧
      ∀ plan ∈ next.plans,
        (∃ old ∈ job.plans, old.canisterId = canisterId ∧ plan = old.mint mintedCycles) ∨
          (plan ∈ job.plans ∧ plan.canisterId ≠ canisterId) := by
  intro next
  have kept {β : Type} (view : BurnPlan → β)
      (same : ∀ plan : BurnPlan, view (plan.mint mintedCycles) = view plan) :
      next.plans.map view = job.plans.map view := by
    simp only [ActiveRelayJob.plans, List.map_map]
    apply updateSample_map (view ∘ CanisterBurnSample.toBurnPlan)
    intro sample
    exact same sample.toBurnPlan
  refine ⟨kept BurnPlan.canisterId fun _ => rfl, kept cyclesSeen fun _ => rfl, ?_⟩
  intro plan member
  rcases List.mem_map.mp member with ⟨sample, present, rfl⟩
  simp only [targets, ActiveRelayJob.plans, List.map_map] at distinct
  rcases updateSample_mem distinct present with ⟨old, was, target, rfl⟩ | ⟨was, other⟩
  · exact .inl ⟨old.toBurnPlan, List.mem_map_of_mem was, target, rfl⟩
  · exact .inr ⟨List.mem_map_of_mem was, other⟩

theorem bookkept_mint {pending : PendingTransfer} (mintedCycles : Nat)
    (accounted : Accounted relayId st) (active : st.activeJob = some job)
    (has : job.pendingTransfer = some pending) (kind : pending.kind = .cmcTopUp canisterId) :
    Bookkept relayId st ((st.setActiveJob (job.completePending
      (some (canisterId, mintedCycles)))).addMinted canisterId mintedCycles) := by
  have running := accounted.running job active
  rcases plans_mint canisterId mintedCycles running.run.distinct with ⟨same, seen, minted⟩
  refine ⟨rfl, ⟨accounted.lawful, nofun, ?_⟩,
    fun _ had => had⟩
  intro other here
  cases here
  refine ⟨running.run.mint (running.pending pending canisterId has kind) same minted, ?_, ?_⟩
  · rw [seen]
    exact running.observed
  · intro other target impossible
    cases impossible

theorem finished_plans (job : ActiveRelayJob) (nowNanos : Nat) :
    (job.finished nowNanos).canisters.map CanisterBurnSample.toBurnPlan =
      job.plans.map BurnPlan.settle := by
  simp only [ActiveRelayJob.finished, ActiveRelayJob.plans, List.map_map]
  rfl

theorem bookkept_complete (nowNanos : Nat) (accounted : Accounted relayId st)
    (active : st.activeJob = some job) :
    Bookkept relayId st
      (st.completeJob (effectiveManagedCanisters relayId st.config) nowNanos) := by
  have running := accounted.running job active
  have finish := running.run.finish
  have completed : st.completeJob (effectiveManagedCanisters relayId st.config) nowNanos =
      { st with
        activeJob := none
        lastCompletedCycles := (st.accounts.finish job.plans).lastCompleted
        recoveryDeficitCycles := (st.accounts.finish job.plans).recoveryDeficits
        lastSummary := some (job.finished nowNanos).summary
        past := ⟨job.finished nowNanos, true⟩ :: st.past
        records := ⟨.run (job.plans.map BurnPlan.settle) st.mints,
          st.accounts.finish job.plans⟩ :: st.records } := by
    have observed : (job.finished nowNanos).currentCycles = job.plans.map cyclesSeen :=
      running.observed
    simp only [RelayState.completeJob, active, retain_effective accounted, finished_plans, observed]
    rfl
  rw [completed]
  refine ⟨rfl, ⟨⟨finish, accounted.lawful⟩, fun _ => rfl, fun job impossible =>
    (by cases impossible)⟩, fun _ had => insertCycles_isSome had⟩

/-- The probe of a start, as the continuations after it carry it. -/
def RelayState.sampled (relayId : Principal) (st : RelayState) (current : List (Principal × Nat)) :
    Prop :=
  Sampled (effectiveManagedCanisters relayId st.config) st.lastCompletedCycles current

theorem begin_allocated (accounted : Accounted relayId st) (idle : st.activeJob = none)
    (sampled : RelayState.sampled relayId st current) (balance feeE8s : Nat)
    (estimate : Option ConversionEstimate) (nowNanos : Nat) :
    let plans := (allocationFor st current balance feeE8s estimate nowNanos).topups
    RunAccounted (effectiveManagedCanisters relayId st.config) (hasRawIcpRecipients st)
        (accountsAfter st.records)
        ⟨st.lastCompletedCycles, removeCycles st.relayMintedCyclesSinceSample current,
          st.recoveryDeficitCycles⟩ plans [] ∧
      current = plans.map cyclesSeen ∧ plans.map BurnPlan.settle = plans := by
  intro plans
  have planned : plans.map BurnPlan.cycles =
      burnPlans (st.samples current) (hasRawIcpRecipients st) :=
    cycles_allocationFor st current balance feeE8s estimate nowNanos
  have begun := RunAccounted.begin st.accounts sampled (accounts_within accounted)
    planned
  rw [accounted.idle idle] at begun
  have same := accounted.idle idle
  refine ⟨?_, begun.2, settle_planned planned⟩
  have run := begun.1
  rw [← same] at run ⊢
  exact run

theorem bookkept_install (start : JobStart) (accounted : Accounted relayId st)
    (idle : st.activeJob = none) (sampled : RelayState.sampled relayId st current)
    (balance feeE8s : Nat) :
    Bookkept relayId st
      { st with
        relayMintedCyclesSinceSample := removeCycles st.relayMintedCyclesSinceSample current
        mints := []
        nextJobId := satAdd u64Max st.nextJobId 1
        activeJob := some (buildJob st start current balance feeE8s) } := by
  rcases begin_allocated accounted idle sampled balance feeE8s st.conversionEstimate
    start.nowNanos with ⟨run, seen, _⟩
  have plans : (buildJob st start current balance feeE8s).plans =
      (allocationFor st current balance feeE8s st.conversionEstimate start.nowNanos).topups := by
    simp only [ActiveRelayJob.plans, buildJob, List.map_map]
    exact List.map_id' _
  refine ⟨rfl, ⟨accounted.lawful, nofun, ?_⟩, fun _ had => had⟩
  intro job here
  cases here
  refine ⟨?_, ?_, fun pending canisterId impossible => (by cases impossible)⟩
  · rw [plans]
    exact run
  · rw [plans]
    exact seen

theorem bookkept_noFunds (accounted : Accounted relayId st) (idle : st.activeJob = none)
    (sampled : RelayState.sampled relayId st current) (feeE8s nowNanos : Nat) :
    Bookkept relayId st (completeNoFundsSample relayId st current feeE8s nowNanos) := by
  rcases begin_allocated accounted idle sampled 0 feeE8s none nowNanos with ⟨run, seen, settled⟩
  have finish := run.finish
  rw [settled] at finish
  have completed : (completeNoFundsSample relayId st current feeE8s nowNanos).records =
      ⟨.run (allocationFor st current 0 feeE8s none nowNanos).topups [],
        (completeNoFundsSample relayId st current feeE8s nowNanos).accounts⟩ :: st.records := rfl
  have accounts : (completeNoFundsSample relayId st current feeE8s nowNanos).accounts =
      (CycleAccounts.finish ⟨st.lastCompletedCycles,
        removeCycles st.relayMintedCyclesSinceSample current, st.recoveryDeficitCycles⟩
        (allocationFor st current 0 feeE8s none nowNanos).topups) := by
    simp only [completeNoFundsSample, retain_effective accounted, CycleAccounts.finish, settled,
      ← seen]
    rfl
  refine ⟨rfl, ⟨?_, fun _ => ?_, ?_⟩, ?_⟩
  · rw [completed, accounts]
    exact ⟨finish, accounted.lawful⟩
  · rw [completed]
    rfl
  · intro job active
    have none : (completeNoFundsSample relayId st current feeE8s nowNanos).activeJob =
        st.activeJob := rfl
    rw [none, idle] at active
    cases active
  · intro canisterId had
    have grown : (completeNoFundsSample relayId st current feeE8s nowNanos).lastCompletedCycles = _ :=
      congrArg CycleAccounts.lastCompleted accounts
    rw [grown]
    exact insertCycles_isSome had

theorem bookkept_baseline (accounted : Accounted relayId st) (idle : st.activeJob = none)
    (distinct : (current.map Prod.fst).Nodup)
    (known : ∀ entry ∈ current, entry.1 ∈ effectiveManagedCanisters relayId st.config)
    (nowNanos : Nat) :
    Bookkept relayId st (completeBaselineSample relayId st current nowNanos) := by
  have law := baseline_law st.accounts distinct known (accounts_within accounted)
  have completed : completeBaselineSample relayId st current nowNanos =
      { st.report "missing_previous_sample" nowNanos with
        lastCompletedCycles := insertCycles st.lastCompletedCycles
          (current.filter fun entry => (st.lastCompletedCycles entry.1).isNone)
        relayMintedCyclesSinceSample := removeCycles st.relayMintedCyclesSinceSample
          (current.filter fun entry => (st.lastCompletedCycles entry.1).isNone) }.record
        (.baseline (current.filter fun entry => (st.lastCompletedCycles entry.1).isNone)) := by
    simp only [completeBaselineSample, retain_effective accounted]
  rw [completed]
  refine ⟨rfl, ⟨⟨?_, accounted.lawful⟩, fun _ => rfl, ?_⟩, fun _ had => insertCycles_isSome had⟩
  · show BaselineLaw _ (accountsAfter st.records) _ _
    rw [← accounted.idle idle]
    exact law
  · intro job active
    have none : st.activeJob = some job := active
    rw [idle] at none
    cases none

end States
end JupiterSuite.Relay
