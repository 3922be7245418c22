import Mathlib.Algebra.Order.Ring.Nat
import Mathlib.Algebra.BigOperators.Group.List.Basic

/-! An account whose debits use up its credits first in, first out. Every credit carries a tag;
what a replay leaves are the credits with an unspent part. -/

namespace JupiterSuite.Base

structure Credit (ι : Type*) where
  tag : ι
  amount : Nat
  deriving DecidableEq, Repr

inductive Movement (ι : Type*) where
  | credit (credit : Credit ι)
  | debit (amount : Nat)
  deriving DecidableEq, Repr

namespace Fifo

variable {ι : Type*}

def total (queue : List (Credit ι)) : Nat := (queue.map Credit.amount).sum

def spend : Nat → List (Credit ι) → Option (List (Credit ι))
  | 0, queue => some queue
  | _ + 1, [] => none
  | amount + 1, front :: rest =>
      if front.amount ≤ amount + 1 then spend (amount + 1 - front.amount) rest
      else some ({ front with amount := front.amount - (amount + 1) } :: rest)

def replay : List (Credit ι) → List (Movement ι) → Option (List (Credit ι))
  | queue, [] => some queue
  | queue, .credit credit :: rest =>
      replay (if credit.amount = 0 then queue else queue ++ [credit]) rest
  | queue, .debit amount :: rest => (spend amount queue).bind fun queue => replay queue rest

/-- The balance after some movements, which must never be overdrawn. -/
def balance : Nat → List (Movement ι) → Option Nat
  | before, [] => some before
  | before, .credit credit :: rest => balance (before + credit.amount) rest
  | before, .debit amount :: rest => if amount ≤ before then balance (before - amount) rest else none

def Positive (queue : List (Credit ι)) : Prop := ∀ credit ∈ queue, 0 < credit.amount

@[simp]
theorem total_nil : total ([] : List (Credit ι)) = 0 := rfl

@[simp]
theorem total_cons (front : Credit ι) (rest : List (Credit ι)) :
    total (front :: rest) = front.amount + total rest := by
  simp [total]

@[simp]
theorem total_append (first second : List (Credit ι)) :
    total (first ++ second) = total first + total second := by
  simp [total]

theorem eq_nil_of_total {queue : List (Credit ι)} (positive : Positive queue)
    (zero : total queue = 0) : queue = [] := by
  cases queue with
  | nil => rfl
  | cons front rest =>
      have unspent := positive front List.mem_cons_self
      rw [total_cons] at zero
      omega

@[simp]
theorem spend_zero (queue : List (Credit ι)) : spend 0 queue = some queue := by
  cases queue <;> rfl

theorem spend_of_le {amount : Nat} {queue : List (Credit ι)} (covered : amount ≤ total queue) :
    ∃ rest, spend amount queue = some rest ∧ total rest + amount = total queue := by
  induction queue generalizing amount with
  | nil =>
      have zero : amount = 0 := Nat.le_zero.mp covered
      subst zero
      exact ⟨[], rfl, rfl⟩
  | cons front rest ih =>
      cases amount with
      | zero => exact ⟨front :: rest, rfl, rfl⟩
      | succ amount =>
          rw [total_cons] at covered ⊢
          simp only [spend]
          split
          · have within : amount + 1 - front.amount ≤ total rest := by omega
            rcases ih within with ⟨left, spent, sum⟩
            exact ⟨left, spent, by omega⟩
          · refine ⟨_, rfl, ?_⟩
            rw [total_cons]
            dsimp only
            omega

theorem spend_positive {amount : Nat} {queue rest : List (Credit ι)} (positive : Positive queue)
    (spent : spend amount queue = some rest) : Positive rest := by
  induction queue generalizing amount with
  | nil =>
      cases amount with
      | zero =>
          cases spent
          exact positive
      | succ amount => cases spent
  | cons front others ih =>
      have tail : Positive others := fun credit member =>
        positive credit (List.mem_cons_of_mem front member)
      cases amount with
      | zero =>
          cases spent
          exact positive
      | succ amount =>
          simp only [spend] at spent
          split at spent
          · exact ih tail spent
          · cases spent
            intro credit member
            rcases List.mem_cons.mp member with rfl | later
            · dsimp only
              omega
            · exact tail credit later

theorem replay_append (queue : List (Credit ι)) (first second : List (Movement ι)) :
    replay queue (first ++ second) = (replay queue first).bind fun left => replay left second := by
  induction first generalizing queue with
  | nil => rfl
  | cons movement first ih =>
      cases movement with
      | credit credit => exact ih _
      | debit amount =>
          simp only [List.cons_append, replay, Option.bind_assoc]
          congr 1
          funext left
          exact ih left

/-- The queue holds what the balance says, for as long as nothing is overdrawn. -/
theorem replay_of_balance {queue : List (Credit ι)} {movements : List (Movement ι)} {after : Nat}
    (settled : balance (total queue) movements = some after) :
    ∃ left, replay queue movements = some left ∧ total left = after := by
  induction movements generalizing queue with
  | nil =>
      cases settled
      exact ⟨queue, rfl, rfl⟩
  | cons movement movements ih =>
      cases movement with
      | credit credit =>
          simp only [balance] at settled
          have pushed : total (if credit.amount = 0 then queue else queue ++ [credit]) =
              total queue + credit.amount := by
            split
            · omega
            · simp
          rw [← pushed] at settled
          exact ih settled
      | debit amount =>
          simp only [balance] at settled
          split at settled
          · rename_i covered
            rcases spend_of_le covered with ⟨rest, spent, sum⟩
            have left : total rest = total queue - amount := by omega
            rw [← left] at settled
            rcases ih settled with ⟨final, replayed, total⟩
            exact ⟨final, by simp only [replay, spent, Option.bind_some, replayed], total⟩
          · cases settled

theorem replay_positive {queue left : List (Credit ι)} {movements : List (Movement ι)}
    (positive : Positive queue) (replayed : replay queue movements = some left) :
    Positive left := by
  induction movements generalizing queue with
  | nil =>
      cases replayed
      exact positive
  | cons movement movements ih =>
      cases movement with
      | credit credit =>
          apply ih _ replayed
          split
          · exact positive
          · rename_i unspent
            intro other member
            rcases List.mem_append.mp member with old | new
            · exact positive other old
            · rw [List.mem_singleton.mp new]
              omega
      | debit amount =>
          rcases Option.bind_eq_some_iff.mp replayed with ⟨rest, spent, after⟩
          exact ih (spend_positive positive spent) after

theorem balance_append (before : Nat) (first second : List (Movement ι)) :
    balance before (first ++ second) =
      (balance before first).bind fun middle => balance middle second := by
  induction first generalizing before with
  | nil => rfl
  | cons movement first ih =>
      cases movement with
      | credit credit => exact ih _
      | debit amount =>
          simp only [List.cons_append, balance]
          split
          · exact ih _
          · rfl

/-- A replay may start anew wherever the balance is zero: no older credit is left. -/
theorem replay_from_zero {older newer : List (Movement ι)} (empty : balance 0 older = some 0) :
    replay ([] : List (Credit ι)) (older ++ newer) = replay [] newer := by
  have none_left : ∀ credit ∈ ([] : List (Credit ι)), 0 < credit.amount := by simp
  have start : balance (total ([] : List (Credit ι))) older = some 0 := empty
  rcases replay_of_balance start with ⟨left, replayed, zero⟩
  have nothing := eq_nil_of_total (replay_positive none_left replayed) zero
  rw [replay_append, replayed, nothing, Option.bind_some]

def credited : List (Movement ι) → List (Credit ι)
  | [] => []
  | .credit credit :: rest => if credit.amount = 0 then credited rest else credit :: credited rest
  | .debit _ :: rest => credited rest

def debited : List (Movement ι) → Nat
  | [] => 0
  | .credit _ :: rest => debited rest
  | .debit amount :: rest => amount + debited rest

theorem spend_add {first : Nat} {queue rest : List (Credit ι)}
    (spent : spend first queue = some rest) (second : Nat) (later : List (Credit ι)) :
    spend (first + second) (queue ++ later) = spend second (rest ++ later) := by
  induction queue generalizing first with
  | nil =>
      cases first with
      | zero =>
          cases spent
          rw [Nat.zero_add]
      | succ first => cases spent
  | cons front others ih =>
      cases first with
      | zero =>
          cases spent
          rw [Nat.zero_add]
      | succ first =>
          simp only [spend] at spent
          split at spent
          · rename_i whole
            have covers : front.amount ≤ first + second + 1 := by omega
            have left : first + second + 1 - front.amount = first + 1 - front.amount + second := by
              omega
            rw [Nat.add_right_comm, List.cons_append, spend, if_pos covers, left]
            exact ih spent
          · rename_i part
            cases spent
            rw [Nat.add_right_comm, List.cons_append, List.cons_append, spend]
            cases second with
            | zero =>
                rw [if_neg (by omega)]
                rfl
            | succ second =>
                simp only [spend]
                split
                · rename_i whole
                  rw [if_pos (by omega)]
                  congr 1
                  omega
                · rename_i still
                  rw [if_neg (by omega)]
                  congr 3
                  omega

/-- It does not matter when the debits happen: they use up the oldest of all credits. -/
theorem replay_eq_spend {queue left : List (Credit ι)} {movements : List (Movement ι)}
    (replayed : replay queue movements = some left) :
    spend (debited movements) (queue ++ credited movements) = some left := by
  induction movements generalizing queue with
  | nil =>
      cases replayed
      rw [credited, List.append_nil]
      exact spend_zero left
  | cons movement movements ih =>
      cases movement with
      | credit credit =>
          have later := ih replayed
          simp only [credited, debited]
          split at later
          · rename_i zero
            rw [if_pos zero]
            exact later
          · rename_i unspent
            rw [if_neg unspent, ← List.singleton_append, ← List.append_assoc]
            exact later
      | debit amount =>
          rcases Option.bind_eq_some_iff.mp replayed with ⟨rest, spent, after⟩
          rw [credited, debited, spend_add spent]
          exact ih after

end Fifo
end JupiterSuite.Base
