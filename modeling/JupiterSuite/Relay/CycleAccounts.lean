import JupiterSuite.Relay.JobCycles
import JupiterSuite.Relay.JobSystem

/-! The cycle maps as accounts: what one update makes of them, what a run owes to the records
before it, and what the records of one canister add up to. -/

namespace JupiterSuite.Relay

open Base

def deficitEntry (cycles : Nat) : Option Nat := if 0 < cycles then some cycles else none

variable {keys : List Principal} {samples : List BurnPlan} {sample : BurnPlan}
  {earlier : List AccountRecord} {mints : List (Principal × Nat)}

section Maps

variable {map : CycleMap} {canisterId other : Principal} {cycles : List (Principal × Nat)}

@[simp]
theorem insert_self (map : CycleMap) (canisterId : Principal) (amount : Nat) :
    map.insert canisterId amount canisterId = some amount := by
  simp [CycleMap.insert]

theorem insert_other (amount : Nat) (different : other ≠ canisterId) :
    map.insert canisterId amount other = map other := by
  simp [CycleMap.insert, different]

@[simp]
theorem remove_self (map : CycleMap) (canisterId : Principal) :
    map.remove canisterId canisterId = none := by
  simp [CycleMap.remove]

theorem remove_other (different : other ≠ canisterId) : map.remove canisterId other = map other := by
  simp [CycleMap.remove, different]

def CycleMap.Within (map : CycleMap) (keys : List Principal) : Prop :=
  ∀ canisterId, canisterId ∉ keys → map canisterId = none

theorem retain_within (within : map.Within keys) : map.retain keys = map := by
  funext canisterId
  simp only [CycleMap.retain]
  split
  · rfl
  · rename_i outside
    exact (within canisterId outside).symm

theorem insertCycles_other (outside : canisterId ∉ cycles.map Prod.fst) :
    insertCycles map cycles canisterId = map canisterId := by
  induction cycles generalizing map with
  | nil => rfl
  | cons entry rest ih =>
      simp only [List.map_cons, List.mem_cons, not_or] at outside
      rw [insertCycles, List.foldl_cons, ← insertCycles, ih outside.2, insert_other _ outside.1]

theorem insertCycles_member {amount : Nat} (distinct : (cycles.map Prod.fst).Nodup)
    (member : (canisterId, amount) ∈ cycles) :
    insertCycles map cycles canisterId = some amount := by
  induction cycles generalizing map with
  | nil => cases member
  | cons entry rest ih =>
      rw [insertCycles, List.foldl_cons, ← insertCycles]
      simp only [List.map_cons, List.nodup_cons] at distinct
      rcases List.mem_cons.mp member with same | later
      · rw [← same] at distinct ⊢
        rw [insertCycles_other distinct.1, insert_self]
      · exact ih distinct.2 later

theorem insertCycles_isSome (had : (map canisterId).isSome) :
    (insertCycles map cycles canisterId).isSome := by
  induction cycles generalizing map with
  | nil => exact had
  | cons entry rest ih =>
      rw [insertCycles, List.foldl_cons, ← insertCycles]
      apply ih
      by_cases here : canisterId = entry.1
      · rw [here, insert_self]
        rfl
      · rw [insert_other _ here]
        exact had

theorem removeCycles_other (outside : canisterId ∉ cycles.map Prod.fst) :
    removeCycles map cycles canisterId = map canisterId := by
  induction cycles generalizing map with
  | nil => rfl
  | cons entry rest ih =>
      simp only [List.map_cons, List.mem_cons, not_or] at outside
      rw [removeCycles, List.foldl_cons, ← removeCycles, ih outside.2, remove_other outside.1]

theorem removeCycles_member (member : canisterId ∈ cycles.map Prod.fst) :
    removeCycles map cycles canisterId = none := by
  induction cycles generalizing map with
  | nil => cases member
  | cons entry rest ih =>
      rw [removeCycles, List.foldl_cons, ← removeCycles]
      by_cases later : canisterId ∈ rest.map Prod.fst
      · exact ih later
      · have here : canisterId = entry.1 := by
          simpa [later] using member
        rw [removeCycles_other later, here, remove_self]

theorem persistRecoveryDeficits_other (outside : canisterId ∉ samples.map BurnPlan.canisterId) :
    persistRecoveryDeficits map samples canisterId = map canisterId := by
  induction samples generalizing map with
  | nil => rfl
  | cons sample rest ih =>
      simp only [List.map_cons, List.mem_cons, not_or] at outside
      rw [persistRecoveryDeficits, List.foldl_cons, ← persistRecoveryDeficits, ih outside.2]
      split
      · exact insert_other _ outside.1
      · exact remove_other outside.1

theorem persistRecoveryDeficits_member (distinct : (samples.map BurnPlan.canisterId).Nodup)
    (member : sample ∈ samples) :
    persistRecoveryDeficits map samples sample.canisterId =
      deficitEntry sample.remainingDeficitCycles := by
  induction samples generalizing map with
  | nil => cases member
  | cons first rest ih =>
      rw [persistRecoveryDeficits, List.foldl_cons, ← persistRecoveryDeficits]
      simp only [List.map_cons, List.nodup_cons] at distinct
      rcases List.mem_cons.mp member with rfl | later
      · rw [persistRecoveryDeficits_other distinct.1]
        split
        · rename_i positive
          rw [insert_self, deficitEntry, if_pos positive]
        · rename_i zero
          rw [remove_self, deficitEntry, if_neg zero]
      · exact ih distinct.2 later

theorem within_insertCycles (within : map.Within keys)
    (inside : ∀ key ∈ cycles.map Prod.fst, key ∈ keys) :
    (insertCycles map cycles).Within keys := by
  intro canisterId outside
  rw [insertCycles_other fun member => outside (inside canisterId member)]
  exact within canisterId outside

theorem within_removeCycles (within : map.Within keys) : (removeCycles map cycles).Within keys := by
  intro canisterId outside
  by_cases member : canisterId ∈ cycles.map Prod.fst
  · exact removeCycles_member member
  · rw [removeCycles_other member]
    exact within canisterId outside

theorem within_persist (within : map.Within keys)
    (inside : ∀ sample ∈ samples, sample.canisterId ∈ keys) :
    (persistRecoveryDeficits map samples).Within keys := by
  intro canisterId outside
  rw [persistRecoveryDeficits_other]
  · exact within canisterId outside
  · intro member
    rcases List.mem_map.mp member with ⟨sample, present, rfl⟩
    exact outside (inside sample present)

end Maps

section Laws

def mintedFor (mints : List (Principal × Nat)) (canisterId : Principal) : Nat :=
  mints.foldr (fun entry total =>
    if entry.1 = canisterId then satAdd u128Max total entry.2 else total) 0

def noAccounts : CycleAccounts := ⟨fun _ => none, fun _ => none, fun _ => none⟩

def accountsAfter : List AccountRecord → CycleAccounts
  | [] => noAccounts
  | latest :: _ => latest.after

def CycleAccounts.Agree (before after : CycleAccounts) (canisterId : Principal) : Prop :=
  after.lastCompleted canisterId = before.lastCompleted canisterId ∧
    after.relayMinted canisterId = before.relayMinted canisterId ∧
    after.recoveryDeficits canisterId = before.recoveryDeficits canisterId

structure CycleAccounts.Within (accounts : CycleAccounts) (keys : List Principal) : Prop where
  lastCompleted : accounts.lastCompleted.Within keys
  relayMinted : accounts.relayMinted.Within keys
  recoveryDeficits : accounts.recoveryDeficits.Within keys

def newBurnTarget (headroom : Bool) (burnCycles : Nat) : Nat :=
  if headroom then targetTopupCycles burnCycles else burnCycles

/-- A sample's burn runs from the baseline and the correction that the accounts hold to what was
observed now; its target adds the deficit that they carry. -/
structure BurnPlan.Follows (headroom : Bool) (accounts : CycleAccounts) (plan : BurnPlan) :
    Prop where
  previous : plan.previousCycles = accounts.lastCompleted plan.canisterId
  baseline : (accounts.lastCompleted plan.canisterId).isSome
  correction : plan.relayMintedCycles = (accounts.relayMinted plan.canisterId).getD 0
  carried : plan.carriedDeficitCycles = (accounts.recoveryDeficits plan.canisterId).getD 0
  burn : plan.burnCycles =
    computeBurn (plan.previousCycles.getD 0) plan.relayMintedCycles plan.currentCycles
  target : plan.targetTopupCycles = satAdd u128Max plan.carriedDeficitCycles
    (newBurnTarget headroom plan.burnCycles)
  bounded : plan.currentCycles ≤ u128Max

structure RunLaw (managed : List Principal) (headroom : Bool) (before : CycleAccounts)
    (samples : List BurnPlan) (mints : List (Principal × Nat)) (after : CycleAccounts) : Prop where
  distinct : (samples.map BurnPlan.canisterId).Nodup
  known : ∀ sample ∈ samples, sample.canisterId ∈ managed
  follows : ∀ sample ∈ samples, sample.Follows headroom before
  paid : ∀ entry ∈ mints, entry.1 ∈ samples.map BurnPlan.canisterId
  lastCompleted : ∀ sample ∈ samples,
    after.lastCompleted sample.canisterId = some sample.currentCycles
  relayMinted : ∀ sample ∈ samples,
    (after.relayMinted sample.canisterId).getD 0 = mintedFor mints sample.canisterId
  recoveryDeficits : ∀ sample ∈ samples,
    after.recoveryDeficits sample.canisterId =
      deficitEntry (sample.targetTopupCycles - mintedFor mints sample.canisterId)
  unobserved : ∀ canisterId, canisterId ∉ samples.map BurnPlan.canisterId →
    before.Agree after canisterId
  within : after.Within managed

/-- A baseline run takes the first baseline of some canisters and leaves the others alone. -/
structure BaselineLaw (managed : List Principal) (before : CycleAccounts)
    (fresh : List (Principal × Nat)) (after : CycleAccounts) : Prop where
  distinct : (fresh.map Prod.fst).Nodup
  known : ∀ entry ∈ fresh, entry.1 ∈ managed
  first : ∀ entry ∈ fresh, before.lastCompleted entry.1 = none
  lastCompleted : ∀ entry ∈ fresh, after.lastCompleted entry.1 = some entry.2
  relayMinted : ∀ entry ∈ fresh, after.relayMinted entry.1 = none
  recoveryDeficits : after.recoveryDeficits = before.recoveryDeficits
  unobserved : ∀ canisterId, canisterId ∉ fresh.map Prod.fst → before.Agree after canisterId
  within : after.Within managed

def AccountUpdate.Law (managed : List Principal) (headroom : Bool) (before after : CycleAccounts) :
    AccountUpdate → Prop
  | .baseline fresh => BaselineLaw managed before fresh after
  | .run samples mints => RunLaw managed headroom before samples mints after

/-- Every update starts from the accounts that the one before it left. -/
def LawfulRecords (managed : List Principal) (headroom : Bool) : List AccountRecord → Prop
  | [] => True
  | latest :: earlier =>
      latest.update.Law managed headroom (accountsAfter earlier) latest.after ∧
        LawfulRecords managed headroom earlier

end Laws

section Totals

variable (canisterId : Principal)

def sampleOf (samples : List BurnPlan) : Option BurnPlan :=
  samples.find? fun sample => decide (sample.canisterId = canisterId)

/-- Adds up what the samples of a canister say over all finished runs. -/
def total (amount : BurnPlan → Nat) : List AccountRecord → Nat
  | [] => 0
  | latest :: earlier =>
      match latest.update with
      | .baseline _ => total amount earlier
      | .run samples _ => ((sampleOf canisterId samples).map amount).getD 0 + total amount earlier

def totalMinted : List AccountRecord → Nat
  | [] => 0
  | latest :: earlier =>
      match latest.update with
      | .baseline _ => totalMinted earlier
      | .run _ mints => mintedFor mints canisterId + totalMinted earlier

def firstBaseline : List AccountRecord → Option Nat
  | [] => none
  | latest :: earlier =>
      (firstBaseline earlier).or
        (match latest.update with
          | .baseline fresh =>
              (fresh.find? fun entry => decide (entry.1 = canisterId)).map Prod.snd
          | .run _ _ => none)

/-- Cycles that came neither from the baseline nor from a recorded mint. -/
def BurnPlan.excess (plan : BurnPlan) : Nat :=
  plan.currentCycles - (plan.previousCycles.getD 0 + plan.relayMintedCycles)

/-- What the saturation of the sum of baseline and correction cuts off. -/
def BurnPlan.clipped (plan : BurnPlan) : Nat :=
  plan.previousCycles.getD 0 + plan.relayMintedCycles - u128Max

/-- The intervals of a canister join: what it burnt is what it started with, plus the corrections
and what came from elsewhere, less what is left. Every recorded mint is one correction, and the
last one is still to be consumed. -/
structure Telescopes (records : List AccountRecord) : Prop where
  unobserved : (accountsAfter records).lastCompleted canisterId = none →
    firstBaseline canisterId records = none ∧ totalMinted canisterId records = 0 ∧
      ∀ amount, total canisterId amount records = 0
  burnt : ∀ last, (accountsAfter records).lastCompleted canisterId = some last →
    ∃ first, firstBaseline canisterId records = some first ∧
      total canisterId BurnPlan.burnCycles records + total canisterId BurnPlan.clipped records +
          last =
        first + total canisterId BurnPlan.relayMintedCycles records +
          total canisterId BurnPlan.excess records
  consumed : total canisterId BurnPlan.relayMintedCycles records +
      ((accountsAfter records).relayMinted canisterId).getD 0 = totalMinted canisterId records

end Totals

section Telescoping

variable {managed : List Principal} {headroom : Bool} {before after : CycleAccounts}
  {canisterId : Principal}

@[simp]
theorem total_run (amount : BurnPlan → Nat) (samples : List BurnPlan)
    (mints : List (Principal × Nat)) (earlier : List AccountRecord) :
    total canisterId amount (⟨.run samples mints, after⟩ :: earlier) =
      ((sampleOf canisterId samples).map amount).getD 0 + total canisterId amount earlier := rfl

/-- Stated over a variable amount: the kernel must not look into `clipped`. -/
theorem total_found {amount : BurnPlan → Nat} (found : sampleOf canisterId samples = some sample) :
    total canisterId amount (⟨.run samples mints, after⟩ :: earlier) =
      amount sample + total canisterId amount earlier := by
  rw [total_run, found]
  rfl

@[simp]
theorem total_baseline (amount : BurnPlan → Nat) (fresh : List (Principal × Nat))
    (earlier : List AccountRecord) :
    total canisterId amount (⟨.baseline fresh, after⟩ :: earlier) =
      total canisterId amount earlier := rfl

theorem sampleOf_some (found : sampleOf canisterId samples = some sample) :
    sample ∈ samples ∧ sample.canisterId = canisterId := by
  refine ⟨List.mem_of_find?_eq_some found, ?_⟩
  have same := List.find?_some found
  exact of_decide_eq_true same

theorem sampleOf_none (missing : sampleOf canisterId samples = none) :
    canisterId ∉ samples.map BurnPlan.canisterId := by
  intro member
  rcases List.mem_map.mp member with ⟨sample, present, same⟩
  have no := List.find?_eq_none.mp missing sample present
  exact no (decide_eq_true same)

theorem mintedFor_none (unpaid : ∀ entry ∈ mints, entry.1 ≠ canisterId) :
    mintedFor mints canisterId = 0 := by
  induction mints with
  | nil => rfl
  | cons entry rest ih =>
      have others : ∀ other ∈ rest, other.1 ≠ canisterId :=
        fun other member => unpaid other (List.mem_cons_of_mem entry member)
      rw [mintedFor, List.foldr_cons, if_neg (unpaid entry List.mem_cons_self)]
      exact ih others

theorem clipped_interval {limit held current : Nat} (bounded : current ≤ limit) :
    min held limit - current + (held - limit) + current = held + (current - held) := by
  omega

theorem BurnPlan.Follows.interval {plan : BurnPlan} {previous : Nat}
    (follows : plan.Follows headroom before)
    (baseline : before.lastCompleted plan.canisterId = some previous) :
    plan.burnCycles + plan.clipped + plan.currentCycles =
      previous + plan.relayMintedCycles + plan.excess := by
  have start : plan.previousCycles = some previous := follows.previous.trans baseline
  have burn := follows.burn
  rw [start, Option.getD_some] at burn
  rw [burn, BurnPlan.clipped, BurnPlan.excess, start, Option.getD_some]
  exact clipped_interval follows.bounded

theorem intervals_join {burn clipped current held correction excess : Nat}
    {burnt cut first corrected gained : Nat}
    (interval : burn + clipped + current = held + correction + excess)
    (earlier : burnt + cut + held = first + corrected + gained) :
    burn + burnt + (clipped + cut) + current =
      first + (correction + corrected) + (excess + gained) := by
  omega

theorem telescopes_run (law : RunLaw managed headroom (accountsAfter earlier) samples mints after)
    (telescopes : Telescopes canisterId earlier) :
    Telescopes canisterId (⟨.run samples mints, after⟩ :: earlier) := by
  cases found : sampleOf canisterId samples with
  | none =>
      have outside := sampleOf_none found
      have unpaid : mintedFor mints canisterId = 0 :=
        mintedFor_none fun entry member same => outside (same ▸ law.paid entry member)
      rcases law.unobserved canisterId outside with ⟨lastCompleted, relayMinted, _⟩
      refine ⟨?_, ?_, ?_⟩
      · intro missing
        rcases telescopes.unobserved (lastCompleted.symm.trans missing) with ⟨began, none, zero⟩
        refine ⟨by simp [firstBaseline, began], by simp [totalMinted, unpaid, none], ?_⟩
        intro amount
        simp [found, zero]
      · intro last completed
        rcases telescopes.burnt last (lastCompleted.symm.trans completed) with ⟨first, began, sum⟩
        refine ⟨first, by simp [firstBaseline, began], ?_⟩
        simpa [found] using sum
      · have sum := telescopes.consumed
        rw [← relayMinted] at sum
        simpa [totalMinted, found, unpaid, accountsAfter] using sum
  | some sample =>
      rcases sampleOf_some found with ⟨member, rfl⟩
      have follows := law.follows sample member
      rcases Option.isSome_iff_exists.mp follows.baseline with ⟨previous, baseline⟩
      rcases telescopes.burnt previous baseline with ⟨first, began, sum⟩
      have interval := follows.interval baseline
      refine ⟨?_, ?_, ?_⟩
      · intro missing
        rw [accountsAfter, law.lastCompleted sample member] at missing
        cases missing
      · intro last completed
        have observed := law.lastCompleted sample member
        have same : last = sample.currentCycles :=
          Option.some.inj (completed.symm.trans observed)
        refine ⟨first, by simp [firstBaseline, began], ?_⟩
        rw [total_found found, total_found found, total_found found, total_found found, same]
        exact intervals_join interval sum
      · have sum := telescopes.consumed
        have correction := follows.correction
        have minted := law.relayMinted sample member
        rw [total_found found]
        simp only [totalMinted, accountsAfter]
        omega

theorem telescopes_baseline {fresh : List (Principal × Nat)}
    (law : BaselineLaw managed (accountsAfter earlier) fresh after)
    (telescopes : Telescopes canisterId earlier) :
    Telescopes canisterId (⟨.baseline fresh, after⟩ :: earlier) := by
  cases found : fresh.find? fun entry => decide (entry.1 = canisterId) with
  | none =>
      have outside : canisterId ∉ fresh.map Prod.fst := by
        intro member
        rcases List.mem_map.mp member with ⟨entry, present, same⟩
        exact List.find?_eq_none.mp found entry present (decide_eq_true same)
      rcases law.unobserved canisterId outside with ⟨lastCompleted, relayMinted, _⟩
      refine ⟨?_, ?_, ?_⟩
      · intro missing
        rcases telescopes.unobserved (lastCompleted.symm.trans missing) with ⟨began, none, zero⟩
        exact ⟨by simp [firstBaseline, began, found], none, zero⟩
      · intro last completed
        rcases telescopes.burnt last (lastCompleted.symm.trans completed) with ⟨first, began, sum⟩
        exact ⟨first, by simp [firstBaseline, began], sum⟩
      · have sum := telescopes.consumed
        rw [← relayMinted] at sum
        exact sum
  | some entry =>
      have member := List.mem_of_find?_eq_some found
      have same : entry.1 = canisterId := by simpa using List.find?_some found
      subst same
      rcases telescopes.unobserved (law.first entry member) with ⟨began, none, zero⟩
      have completed := law.lastCompleted entry member
      refine ⟨?_, ?_, ?_⟩
      · intro missing
        rw [accountsAfter, completed] at missing
        cases missing
      · intro last now
        have observed : last = entry.2 := Option.some.inj (now.symm.trans completed)
        refine ⟨entry.2, by simp [firstBaseline, began, found], ?_⟩
        simp only [total_baseline, zero]
        omega
      · simp only [total_baseline, totalMinted, zero, none, accountsAfter, law.relayMinted entry member]
        rfl

theorem lawful_telescopes {records : List AccountRecord}
    (lawful : LawfulRecords managed headroom records) (canisterId : Principal) :
    Telescopes canisterId records := by
  induction records with
  | nil =>
      refine ⟨fun _ => ⟨rfl, rfl, fun _ => rfl⟩, ?_, rfl⟩
      intro last impossible
      cases impossible
  | cons latest earlier ih =>
      rcases lawful with ⟨law, rest⟩
      rcases latest with ⟨update, after⟩
      cases update with
      | baseline fresh => exact telescopes_baseline law (ih rest)
      | run samples mints => exact telescopes_run law (ih rest)

end Telescoping
end JupiterSuite.Relay
