import Mathlib.Data.Nat.Basic
import Mathlib.Tactic.ByContra

/-! The allowance shared by every part of a reward attempt. -/

namespace JupiterSuite.Relay

def maxCalls : Nat := 64

def maxRecords : Nat := 16384

def maxHistoryBytes : Nat := 8 * 1024 * 1024

def maxWork : Nat := 2000000

def rewardWorkBudgetExhausted : String := "reward_work_budget_exhausted"

def rewardAttemptExpiredOrStale : String := "reward_attempt_expired_or_stale"

structure Usage where
  calls : Nat
  records : Nat
  bytes : Nat
  work : Nat
  deriving DecidableEq, Repr

namespace Usage

/-- A budget charged beyond a limit is left as it was. -/
def charge (usage : Usage) (calls records bytes work : Nat) : Except String Usage :=
  let next : Usage :=
    ⟨usage.calls + calls, usage.records + records, usage.bytes + bytes, usage.work + work⟩
  if maxCalls < next.calls ∨ maxRecords < next.records ∨ maxHistoryBytes < next.bytes ∨
      maxWork < next.work then
    .error rewardWorkBudgetExhausted
  else .ok next

def retain (usage : Usage) (records bytes : Nat) : Except String Usage :=
  usage.charge 0 records bytes records

def spendWork (usage : Usage) (units : Nat) : Except String Usage := usage.charge 0 0 0 units

end Usage

/-- How an outgoing call returned. The attempt is stale when its deadline has passed or its lease
is lost; what the index returned is counted in encoded bytes, if it can be encoded. -/
inductive Fetched (α : Type*) where
  | stale
  | failed
  | page (page : α) (encodedBytes : Option Nat)
  deriving DecidableEq, Repr

variable {cost usage left other : Usage} {bytes calls records work : Nat}

namespace Usage

instance : Add Usage where
  add first second := ⟨first.calls + second.calls, first.records + second.records,
    first.bytes + second.bytes, first.work + second.work⟩

theorem add_def (first second : Usage) : first + second = ⟨first.calls + second.calls,
    first.records + second.records, first.bytes + second.bytes, first.work + second.work⟩ := rfl

theorem add_assoc (first second third : Usage) :
    first + second + third = first + (second + third) := by
  simp [add_def, Nat.add_assoc]

/-- Every component is within its limit. -/
structure Fits (usage : Usage) : Prop where
  calls : usage.calls ≤ maxCalls
  records : usage.records ≤ maxRecords
  bytes : usage.bytes ≤ maxHistoryBytes
  work : usage.work ≤ maxWork

theorem Fits.of_add (fits : (usage + cost).Fits) : usage.Fits where
  calls := Nat.le_trans (Nat.le_add_right _ _) fits.calls
  records := Nat.le_trans (Nat.le_add_right _ _) fits.records
  bytes := Nat.le_trans (Nat.le_add_right _ _) fits.bytes
  work := Nat.le_trans (Nat.le_add_right _ _) fits.work

theorem charge_of_fits (fits : (usage + ⟨calls, records, bytes, work⟩).Fits) :
    usage.charge calls records bytes work = .ok (usage + ⟨calls, records, bytes, work⟩) := by
  have within : ¬ (maxCalls < usage.calls + calls ∨ maxRecords < usage.records + records ∨
      maxHistoryBytes < usage.bytes + bytes ∨ maxWork < usage.work + work) := by
    rcases fits with ⟨inCalls, inRecords, inBytes, inWork⟩
    simp only [add_def] at inCalls inRecords inBytes inWork
    omega
  simp only [charge, if_neg within]
  rfl

theorem charge_of_exceeds (exceeds : ¬ (usage + ⟨calls, records, bytes, work⟩).Fits) :
    usage.charge calls records bytes work = .error rewardWorkBudgetExhausted := by
  unfold charge
  dsimp only
  rw [if_pos]
  by_contra within
  apply exceeds
  simp only [not_or, Nat.not_lt] at within
  exact ⟨within.1, within.2.1, within.2.2.1, within.2.2.2⟩

theorem charge_eq_ok :
    usage.charge calls records bytes work = .ok left ↔
      left = usage + ⟨calls, records, bytes, work⟩ ∧ left.Fits := by
  by_cases fits : (usage + ⟨calls, records, bytes, work⟩).Fits
  · rw [charge_of_fits fits]
    constructor
    · intro same
      cases same
      exact ⟨rfl, fits⟩
    · rintro ⟨rfl, _⟩
      rfl
  · rw [charge_of_exceeds fits]
    constructor
    · intro impossible
      cases impossible
    · rintro ⟨rfl, within⟩
      exact absurd within fits

/-- Nothing of the budget is used more. -/
structure Within (usage other : Usage) : Prop where
  calls : usage.calls ≤ other.calls
  records : usage.records ≤ other.records
  bytes : usage.bytes ≤ other.bytes
  work : usage.work ≤ other.work

theorem Within.refl (usage : Usage) : usage.Within usage :=
  ⟨Nat.le_refl _, Nat.le_refl _, Nat.le_refl _, Nat.le_refl _⟩

theorem Within.trans {middle : Usage} (first : usage.Within middle) (second : middle.Within other) :
    usage.Within other :=
  ⟨Nat.le_trans first.calls second.calls, Nat.le_trans first.records second.records,
    Nat.le_trans first.bytes second.bytes, Nat.le_trans first.work second.work⟩

theorem Within.fits (within : usage.Within other) (fits : other.Fits) : usage.Fits :=
  ⟨Nat.le_trans within.calls fits.calls, Nat.le_trans within.records fits.records,
    Nat.le_trans within.bytes fits.bytes, Nat.le_trans within.work fits.work⟩

/-- What another budget could afford is affordable to one that used less. -/
theorem Within.spendWork {units more : Nat} (within : usage.Within other) (fewer : units ≤ more)
    (spent : other.spendWork more = .ok left) :
    ∃ rest, usage.spendWork units = .ok rest ∧ rest.Within left := by
  rcases charge_eq_ok.mp spent with ⟨rfl, fits⟩
  have after : (usage + ⟨0, 0, 0, units⟩).Within (other + ⟨0, 0, 0, more⟩) :=
    ⟨within.calls, within.records, within.bytes, Nat.add_le_add within.work fewer⟩
  exact ⟨_, charge_of_fits (after.fits fits), after⟩

theorem Within.of_spendWork {units : Nat} (spent : usage.spendWork units = .ok left) :
    usage.Within left := by
  rcases charge_eq_ok.mp spent with ⟨rfl, _⟩
  exact ⟨Nat.le_refl _, Nat.le_refl _, Nat.le_refl _, Nat.le_add_right _ _⟩

end Usage

/-- What a metered computation comes to, and what it costs to get there; it fails for its budget
exactly when that does not cover the cost. -/
def Costs {α : Type} (computation : Usage → Except String (α × Usage))
    (outcome : Except String α) (cost : Usage) : Prop :=
  ∀ usage : Usage,
    ((usage + cost).Fits → computation usage = outcome.map fun value => (value, usage + cost)) ∧
      (¬ (usage + cost).Fits → usage.Fits →
        computation usage = .error rewardWorkBudgetExhausted)

theorem costs_outcome {α : Type} (outcome : Except String α) :
    Costs (fun usage => outcome.map fun value => (value, usage)) outcome ⟨0, 0, 0, 0⟩ := by
  intro usage
  have same : usage + ⟨0, 0, 0, 0⟩ = usage := rfl
  rw [same]
  exact ⟨fun _ => rfl, fun exceeds fits => absurd fits exceeds⟩

theorem costs_pure {α : Type} (value : α) :
    Costs (fun usage => .ok (value, usage)) (.ok value) ⟨0, 0, 0, 0⟩ :=
  costs_outcome (.ok value)

theorem costs_charge {α : Type} {next : Usage → Except String (α × Usage)}
    {outcome : Except String α} (continued : Costs next outcome cost)
    (calls records bytes work : Nat) :
    Costs (fun usage => usage.charge calls records bytes work >>= next) outcome
      (⟨calls, records, bytes, work⟩ + cost) := by
  intro usage
  rw [← Usage.add_assoc]
  constructor
  · intro fits
    dsimp only
    rw [Usage.charge_of_fits fits.of_add]
    exact (continued _).1 fits
  · intro exceeds _
    dsimp only
    by_cases charged : (usage + ⟨calls, records, bytes, work⟩).Fits
    · rw [Usage.charge_of_fits charged]
      exact (continued _).2 exceeds charged
    · rw [Usage.charge_of_exceeds charged]
      rfl

theorem costs_bind {α β : Type} {first : Usage → Except String (α × Usage)} {middle : α}
    {outcome : Except String β} {rest : Usage} (next : α → Usage → Except String (β × Usage))
    (begun : Costs first (.ok middle) cost) (continued : Costs (next middle) outcome rest) :
    Costs (fun usage => first usage >>= fun result => next result.1 result.2) outcome
      (cost + rest) := by
  intro usage
  rw [← Usage.add_assoc]
  constructor
  · intro fits
    dsimp only
    rw [(begun usage).1 fits.of_add]
    exact (continued _).1 fits
  · intro exceeds fits
    dsimp only
    by_cases covered : (usage + cost).Fits
    · rw [(begun usage).1 covered]
      exact (continued _).2 exceeds covered
    · rw [(begun usage).2 covered fits]
      rfl

theorem costs_failed {α β : Type} {first : Usage → Except String (α × Usage)} {message : String}
    (next : α × Usage → Except String (β × Usage)) (failed : Costs first (.error message) cost) :
    Costs (fun usage => first usage >>= next) (.error message) cost := by
  intro usage
  constructor
  · intro fits
    dsimp only
    rw [(failed usage).1 fits]
    rfl
  · intro exceeds fits
    dsimp only
    rw [(failed usage).2 exceeds fits]
    rfl

theorem costs_then {α β : Type} {first : Usage → Except String (α × Usage)}
    {middle : Except String α} (next : α → Except String β) (begun : Costs first middle cost) :
    Costs (fun usage => first usage >>= fun result =>
      (next result.1).map fun value => (value, result.2)) (middle >>= next) cost := by
  intro usage
  constructor
  · intro fits
    dsimp only
    rw [(begun usage).1 fits]
    cases middle <;> rfl
  · intro exceeds fits
    dsimp only
    rw [(begun usage).2 exceeds fits]
    rfl

theorem Costs.congr {α : Type} {first second : Usage → Except String (α × Usage)}
    {outcome : Except String α} (costs : Costs second outcome cost)
    (same : ∀ usage, first usage = second usage) : Costs first outcome cost := by
  intro usage
  rw [same]
  exact costs usage

theorem costs_work {α : Type} {next : Usage → Except String (α × Usage)} {outcome : Except String α}
    (continued : Costs next outcome ⟨0, 0, 0, work⟩) (units : Nat) :
    Costs (fun usage => usage.spendWork units >>= next) outcome ⟨0, 0, 0, units + work⟩ :=
  costs_charge continued 0 0 0 units

theorem costs_bind_work {α β : Type} {first : Usage → Except String (α × Usage)} {middle : α}
    {outcome : Except String β} {rest : Nat} (next : α → Usage → Except String (β × Usage))
    (begun : Costs first (.ok middle) ⟨0, 0, 0, work⟩)
    (continued : Costs (next middle) outcome ⟨0, 0, 0, rest⟩) :
    Costs (fun usage => first usage >>= fun result => next result.1 result.2) outcome
      ⟨0, 0, 0, work + rest⟩ :=
  costs_bind next begun continued

theorem ok_bind {ε α β : Type} (value : α) (next : α → Except ε β) :
    ((.ok value : Except ε α) >>= next) = next value := rfl

theorem bind_eq_ok {ε α β : Type} {first : Except ε α} {next : α → Except ε β} {result : β} :
    (first >>= next) = .ok result ↔ ∃ value, first = .ok value ∧ next value = .ok result := by
  cases first with
  | error message =>
      constructor
      · intro impossible
        cases impossible
      · rintro ⟨value, impossible, _⟩
        cases impossible
  | ok value =>
      constructor
      · intro continued
        exact ⟨value, rfl, continued⟩
      · rintro ⟨other, same, continued⟩
        cases same
        exact continued

end JupiterSuite.Relay
