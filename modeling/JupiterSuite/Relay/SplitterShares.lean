import JupiterSuite.Base.Shares
import JupiterSuite.Relay.SplitterProvenance

/-! The whole deposits that pay for a pair of legs, and their shares of the leg to subaccount
one. -/

namespace JupiterSuite.Relay

open Base

def depositTotal (credits : List UpstreamCredit) : Nat :=
  (credits.map UpstreamCredit.amountE8s).sum

@[simp]
theorem depositTotal_nil : depositTotal [] = 0 := rfl

@[simp]
theorem depositTotal_cons (credit : UpstreamCredit) (rest : List UpstreamCredit) :
    depositTotal (credit :: rest) = credit.amountE8s + depositTotal rest := by
  simp [depositTotal]

@[simp]
theorem depositTotal_append (first second : List UpstreamCredit) :
    depositTotal (first ++ second) = depositTotal first + depositTotal second := by
  simp [depositTotal]

variable {credits : List Nat}

section Allocations

theorem allocateCredits_eq {balance amount priorPrefix : Nat} (some_balance : 0 < balance)
    (within : amount ≤ balance) (small : balance ≤ u64Max)
    (whole : priorPrefix + credits.sum = balance) :
    allocateCredits balance amount priorPrefix (priorPrefix * amount / balance) credits =
      .ok (floorSteps amount balance priorPrefix credits) := by
  induction credits generalizing priorPrefix with
  | nil =>
      have final : priorPrefix * amount / balance = amount := by
        rw [List.sum_nil, Nat.add_zero] at whole
        rw [whole]
        exact Nat.mul_div_cancel_left amount some_balance
      rw [allocateCredits, if_pos final, floorSteps]
  | cons credit credits ih =>
      rw [List.sum_cons] at whole
      have allocated := @ih (priorPrefix + credit) (by omega)
      have step := floorStep_le balance some_balance within priorPrefix credit
      have ascending := floor_ascending amount balance priorPrefix credit
      have total : (priorPrefix + credit) * amount / balance ≤ amount := by
        apply Nat.div_le_of_le_mul
        exact Nat.mul_le_mul_right amount (by omega)
      rw [allocateCredits, if_neg (by omega)]
      dsimp only
      rw [if_neg (by omega), if_neg (by omega), if_neg (by omega), allocated, ok_bind, floorSteps]

/-- The shares of the credits are the floor steps, which add up to the whole amount. -/
theorem proportionalAllocations_eq {amount : Nat} (some_credit : 0 < credits.sum)
    (small : credits.sum ≤ u64Max) (within : amount ≤ credits.sum) :
    proportionalAllocations credits amount = .ok (floorSteps amount credits.sum 0 credits) := by
  have allocated := allocateCredits_eq some_credit within small (Nat.zero_add credits.sum)
  rw [Nat.zero_mul, Nat.zero_div] at allocated
  rw [proportionalAllocations, if_neg (by omega), if_neg (by omega)]
  exact allocated

theorem sum_allocations (some_credit : 0 < credits.sum) (amount : Nat) :
    (floorSteps amount credits.sum 0 credits).sum = amount := by
  have whole := sum_floorSteps amount credits.sum 0 credits
  rw [Nat.zero_mul, Nat.zero_div, Nat.zero_add, Nat.zero_add,
    Nat.mul_div_cancel_left amount some_credit] at whole
  exact whole

end Allocations

/-- What the index makes of an account and of the time of a block. -/
structure IndexView where
  text : Account → String
  timestampNanos : Nat → Option Nat

def splitterAccount (relayId : Principal) (number : Nat) : Account :=
  ⟨relayId, some (relayNumberedSubaccount number)⟩

def provenanceScope (view : IndexView) (relayId : Principal) (number : Nat) : ProvenanceScope where
  splitterNumber := number
  splitterAccount := view.text (splitterAccount relayId number)
  defaultAccount := view.text (defaultAccount relayId)
  subaccountOne := view.text (relaySubaccountOneAccount relayId)

end JupiterSuite.Relay
