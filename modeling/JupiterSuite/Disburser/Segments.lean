import JupiterSuite.Disburser.System

/-! What one segment may do to the payout plan: an entry action on the stored plan, then one
pass of the plan loop. -/

namespace JupiterSuite.Disburser

open Base

def AllSent (plan : PayoutPlan) : Prop :=
  ∀ transfer ∈ plan.transfers, transfer.status ≠ .pending

def Pause.transfers : Pause → Bool
  | .transferring _ _ _ _ => true
  | .await (.transfer _ _ _ _) => true
  | _ => false

theorem nextPending_some {transfers : List PlannedTransfer} {index : Nat}
    {transfer : PlannedTransfer} (found : nextPending transfers = some (index, transfer)) :
    transfers[index]? = some transfer ∧ transfer.status = .pending := by
  induction transfers generalizing index with
  | nil => cases found
  | cons head tail ih =>
      simp only [nextPending] at found
      split at found
      · rename_i open_head
        cases found
        exact ⟨rfl, open_head⟩
      · simp only [Option.map_eq_some_iff, Prod.mk.injEq, Prod.exists] at found
        rcases found with ⟨position, _, tail_found, rfl, rfl⟩
        exact ih tail_found

theorem nextPending_none {transfers : List PlannedTransfer}
    (found : nextPending transfers = none) :
    ∀ transfer ∈ transfers, transfer.status ≠ .pending := by
  induction transfers with
  | nil => simp
  | cons head tail ih =>
      simp only [nextPending] at found
      split at found
      · cases found
      · rename_i sent_head
        intro transfer member
        rcases List.mem_cons.mp member with rfl | later
        · exact sent_head
        · exact ih (Option.map_eq_none_iff.mp found) transfer later

/-- The plan part of a result that neither dispatches a transfer nor touches the plan. -/
def Rests (st : State) (result : State × Pause) : Prop :=
  result.1.payoutPlan = st.payoutPlan ∧ result.1.payoutNonce = st.payoutNonce ∧
    result.2.transfers = false

inductive Drives (st : State) (result : State × Pause) : Prop where
  | rests (rests : Rests st result)
  | completes (plan : PayoutPlan) (stored : st.payoutPlan = some plan) (sent : AllSent plan)
      (cleared : Rests { st with payoutPlan := none } result)
  | dispatches (run : PayoutRun) (plan : PayoutPlan) (index : Nat) (transfer : PlannedTransfer)
      (stored : st.payoutPlan = some plan) (present : plan.transfers[index]? = some transfer)
      (pending : transfer.status = .pending)
      (paused : result = (st, .transferring run plan index (transferArg plan transfer)))

theorem afterPayout_rests (st : State) (run : PayoutRun) (nowSecs : Nat) (ok : Bool) :
    Rests st (afterPayout st run nowSecs ok) := by
  unfold afterPayout
  split
  · exact ⟨rfl, rfl, rfl⟩
  · split
    · exact ⟨by simp, by simp, rfl⟩
    · split <;> exact ⟨rfl, rfl, rfl⟩

theorem driveHead_drives (st : State) (run : PayoutRun) (nowSecs : Nat) :
    Drives st (driveHead st run nowSecs) := by
  unfold driveHead
  split
  · exact .rests (afterPayout_rests ..)
  · split
    · exact .rests (afterPayout_rests ..)
    · rename_i plan stored
      split
      · rename_i none_pending
        exact .completes plan stored (nextPending_none none_pending) (afterPayout_rests ..)
      · rename_i index transfer found
        have next := nextPending_some found
        exact .dispatches run plan index transfer stored next.1 next.2 rfl

/-- What a resumed continuation does to the stored plan before the loop runs. -/
inductive Entry (st : State) (kont : Kont) (reply : Reply) (nowSecs : Nat) :
    List PayoutPlan → State → Prop where
  | keep : Entry st kont reply nowSecs [] st
  | install (run : PayoutRun) (prevAge balance fee : Nat) (vacant : st.payoutPlan = none) :
      Entry st kont reply nowSecs
        [plannedPayout st.config run st.payoutNonce prevAge balance fee]
        (installPlan st (plannedPayout st.config run st.payoutNonce prevAge balance fee))
  | mark (run : PayoutRun) (plan : PayoutPlan) (index call block : Nat)
      (result : TransferReply) (held : kont = .transfer run plan index call)
      (received : reply = .transfer (some result))
      (spent : result = .ok block ∨ result = .error (.duplicate block))
      (stored : st.payoutPlan = some plan) :
      Entry st kont reply nowSecs [] (markSent st plan index block run.tick.nowSecs)
  | reject (run : PayoutRun) (plan : PayoutPlan) (index call : Nat) (error : TransferError)
      (held : kont = .transfer run plan index call)
      (received : reply = .transfer (some (.error error)))
      (clears : shouldClearPayoutPlanOnTransferError error = true)
      (stored : st.payoutPlan = some plan) :
      Entry st kont reply nowSecs [] { st with payoutPlan := none }

theorem planOnFee_some {st : State} {run : PayoutRun}
    {expectedNonce prevAge balance nowSecs : Nat} {reply : Option Nat} {plan : PayoutPlan}
    (planned : planOnFee st run expectedNonce prevAge balance nowSecs reply = some plan) :
    ∃ fee, st.payoutPlan = none ∧
      plan = plannedPayout st.config run st.payoutNonce prevAge balance fee := by
  cases reply with
  | none => cases planned
  | some fee =>
      simp only [planOnFee] at planned
      split at planned
      · cases planned
      · rename_i guarded
        simp only [Bool.or_eq_true, Bool.not_eq_true', not_or, Bool.not_eq_false] at guarded
        have matched := guarded.2
        simp only [payoutGenerationMatches, Bool.and_eq_true, decide_eq_true_eq] at matched
        cases planned
        exact ⟨fee, matched.2, by rw [matched.1]⟩

theorem processPayout_rests (st : State) (run : PayoutRun) (nowSecs : Nat) :
    Rests st (processPayout st run nowSecs) := by
  unfold processPayout
  split
  · exact afterPayout_rests ..
  · exact ⟨rfl, rfl, rfl⟩

theorem onNeuron_rests (st : State) (tick : Tick) (nowSecs : Nat) (neuron : Option Neuron) :
    Rests st (onNeuron st tick nowSecs neuron) := by
  cases neuron with
  | none => exact ⟨by simp [onNeuron], by simp [onNeuron], rfl⟩
  | some neuron =>
      simp only [onNeuron]
      split
      · exact ⟨rfl, rfl, rfl⟩
      · split
        · exact ⟨by simp, by simp, rfl⟩
        · exact processPayout_rests ..

theorem onPokeNeuron_rests (st : State) (tick : Tick) (nowSecs : Nat)
    (neuron : Option Neuron) : Rests st (onPokeNeuron st tick nowSecs neuron) := by
  cases neuron with
  | none => exact ⟨rfl, rfl, rfl⟩
  | some neuron =>
      simp only [onPokeNeuron]
      split
      · exact ⟨rfl, rfl, rfl⟩
      · exact processPayout_rests ..

theorem onBalance_drives (st : State) (run : PayoutRun) (expectedNonce : Nat)
    (expectedPlan : Option PayoutPlan) (prevAge nowSecs : Nat) (balance : Option Nat) :
    Drives st (onBalance st run expectedNonce expectedPlan prevAge nowSecs balance) := by
  cases balance with
  | none => exact .rests (afterPayout_rests ..)
  | some balance =>
      simp only [onBalance]
      split
      · exact .rests (afterPayout_rests ..)
      · split
        · exact .rests (afterPayout_rests ..)
        · split
          · exact .rests ⟨rfl, rfl, rfl⟩
          · exact driveHead_drives ..

/-- Every resumed segment is an entry action followed by one pass of the loop. -/
theorem resume_cases {st : State} {nowSecs : Nat} {kont : Kont} {reply : Reply}
    {result : State × Pause} (resumed : resume st nowSecs kont reply = some result) :
    ∃ entered, Entry st kont reply nowSecs (installs st nowSecs kont reply) entered ∧
      Drives entered result := by
  cases kont with
  | claim tick | refresh tick =>
      cases reply <;> cases resumed
      refine ⟨st, .keep, .rests ?_⟩
      split <;> exact ⟨rfl, rfl, rfl⟩
  | disburse tick =>
      cases reply <;> cases resumed
      exact ⟨st, .keep, .rests ⟨by simp, by simp, rfl⟩⟩
  | mainNeuron tick =>
      cases reply <;> cases resumed
      exact ⟨st, .keep, .rests (onNeuron_rests ..)⟩
  | pokeNeuron tick =>
      cases reply <;> cases resumed
      exact ⟨st, .keep, .rests (onPokeNeuron_rests ..)⟩
  | balance run expectedNonce expectedPlan prevAge =>
      cases reply <;> cases resumed
      exact ⟨st, .keep, onBalance_drives ..⟩
  | fee run expectedNonce prevAge balance =>
      cases reply <;> cases resumed
      rename_i fee
      simp only [installs, onFee]
      cases planned : planOnFee st run expectedNonce prevAge balance nowSecs fee with
      | none => exact ⟨st, .keep, .rests (afterPayout_rests ..)⟩
      | some plan =>
          rcases planOnFee_some planned with ⟨rate, vacant, rfl⟩
          exact ⟨_, .install run prevAge balance rate vacant, driveHead_drives ..⟩
  | transfer run plan index call =>
      cases reply <;> cases resumed
      rename_i answer
      cases answer with
      | none => exact ⟨st, .keep, .rests (afterPayout_rests ..)⟩
      | some answer =>
          simp only [onTransfer]
          by_cases stored : st.payoutPlan = some plan
          · rw [if_neg (not_not.mpr stored)]
            cases answer with
            | ok block =>
                exact ⟨_, .mark run plan index call block _ rfl rfl (.inl rfl) stored,
                  driveHead_drives ..⟩
            | error error =>
                by_cases duplicate : ∃ block, error = .duplicate block
                · rcases duplicate with ⟨block, rfl⟩
                  exact ⟨_, .mark run plan index call block _ rfl rfl (.inr rfl) stored,
                    driveHead_drives ..⟩
                · have typed : onTransfer st run plan index nowSecs (some (.error error)) =
                      if isCurrent st run.tick.lease nowSecs &&
                          shouldClearPayoutPlanOnTransferError error then
                        afterPayout { st with payoutPlan := none } run nowSecs false
                      else afterPayout st run nowSecs false := by
                    simp only [onTransfer, stored]
                    cases error <;> simp_all
                  simp only [onTransfer, stored, ne_eq, not_true_eq_false, if_false] at typed
                  rw [typed]
                  split
                  · rename_i clears
                    simp only [Bool.and_eq_true] at clears
                    exact ⟨_, .reject run plan index call error rfl rfl clears.2 stored,
                      .rests (afterPayout_rests ..)⟩
                  · exact ⟨st, .keep, .rests (afterPayout_rests ..)⟩
          · rw [if_pos stored]
            exact ⟨st, .keep, .rests (afterPayout_rests ..)⟩

theorem runMainTick_rests (st : State) (force : Bool) (nowNanos : Nat) :
    Rests st (runMainTick st force nowNanos) := by
  unfold runMainTick
  dsimp only
  split
  · exact ⟨rfl, rfl, rfl⟩
  · split <;> exact ⟨rfl, rfl, rfl⟩

theorem runPoke_rests (st : State) (nowNanos : Nat) : Rests st (runPoke st nowNanos) := by
  unfold runPoke
  split <;> exact ⟨rfl, rfl, rfl⟩

end JupiterSuite.Disburser
