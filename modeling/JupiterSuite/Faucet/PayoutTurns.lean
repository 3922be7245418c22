import JupiterSuite.Faucet.PayoutCalls

/-! What a resumed task does: without the lease nothing, with the lease a segment of the loop for
which its continuation was promised what it needs. -/

namespace JupiterSuite.Faucet

open Base Memo

def PayoutKont.tick : PayoutKont → MainTick
  | .discovery tick | .page tick _ _ | .lookup tick _ _ _ | .finalize tick _ | .probe tick
  | .rescue tick => tick
  | .transfer _ run _ _ _ | .claim _ run | .notify _ run _ _ => run.tick

def KontHolds : PayoutKont → Prop
  | .lookup _ _ stake _ => stake.feeE8s < stake.grossShareE8s
  | .transfer _ run _ _ _ => run.expected.phase = .awaitingTransfer
  | .claim _ run | .notify _ run _ _ => run.expected.phase = .transferAccepted
  | _ => True

def KontFits (ledger : LedgerLog PayoutTag) (st : FaucetState) : PayoutKont → Prop
  | .page _ _ _ => st.Idle
  | .lookup _ _ stake _ => st.Idle ∧ st.PaysFee stake.feeE8s
  | .transfer _ run _ priorUncertainty call =>
      st.PaysFee run.feeE8s ∧ (ledger[call]?.map Call.tag = some st.stagedTag) ∧
        (priorUncertainty = false → ledger.RefusedExcept st.stagedTag call)
  | .claim _ run => st.PaysFee run.feeE8s
  | .notify _ run _ tag => st.PaysFee run.feeE8s ∧ tag = st.stagedTag
  | .finalize _ job => st.activePayoutJob = some job
  | .discovery _ | .probe _ | .rescue _ => True

variable {kont : PayoutKont} {reply : PayoutReply} {result : FaucetState × PayoutPause}

section Lost

variable {limits : ScanLimits} {fromText : Text → Option Principal} {st : FaucetState}
  {tick : MainTick}

theorem leave_lost (lost : st.isCurrent tick.lease = false) (ok : Bool) :
    leavePayout st tick ok = (st, .done) := by
  have kept : st.dropGuard tick.lease = st := by
    have other : st.mainLockStateTs ≠ some tick.lease := of_decide_eq_false lost
    simp only [FaucetState.dropGuard, releaseLease, if_neg other]
  simp only [leavePayout, leaveWith, endProcess, lost, Bool.and_false, Bool.false_eq_true, if_false,
    FaucetState.finishGuard]
  split
  · rw [kept]
    rfl
  · rfl

theorem drive_lost {caller : DriveCaller} {run : DriveRun}
    (lost : st.isCurrent run.tick.lease = false) :
    resumeDriver limits fromText caller run (st, .finished false) = (st, .done) :=
  leave_lost lost true

theorem page_lost {job : ActivePayoutJob} {pagesLeft : Nat} {page : Option IndexPage}
    (lost : st.isCurrent tick.lease = false) :
    onPage limits fromText st tick job pagesLeft page = (st, .done) := by
  cases page with
  | none => exact leave_lost lost false
  | some page =>
      simp only [onPage, FaucetState.scansPayouts, FaucetState.scansDenominator, lost,
        Bool.false_and, Bool.false_eq_true, if_false, leave_lost lost, ite_self]

/-- A task that lost its lease writes nothing, and stops but for the retry of a lookup. -/
theorem resume_lost (lost : st.isCurrent kont.tick.lease = false)
    (resumed : resumePayout limits fromText st kont reply = some result) :
    result = (st, .done) ∨ ∃ tick frame stake,
      kont = .lookup tick frame stake false ∧
        result = (st, .await (.lookup tick frame stake true)) := by
  simp only [resumePayout] at resumed
  split at resumed
  · cases resumed
    refine .inl ?_
    simp only [PayoutKont.tick] at lost
    simp only [onFound, lost, Bool.false_and, Bool.false_eq_true, if_false]
    exact leave_lost lost true
  · cases resumed
    exact .inl (leave_lost lost _)
  · cases resumed
    exact .inl (page_lost lost)
  · rename_i tick frame stake second result
    cases resumed
    simp only [PayoutKont.tick] at lost
    cases result with
    | some subaccount =>
        refine .inl ?_
        simp only [onSubaccount, FaucetState.scansPage, lost, Bool.false_and, Bool.false_eq_true,
          if_false]
        exact leave_lost lost true
    | none =>
        cases second with
        | false => exact .inr ⟨tick, frame, stake, rfl, rfl⟩
        | true =>
            refine .inl ?_
            simp only [onSubaccount, FaucetState.scansPage, lost, Bool.not_true, Bool.false_and,
              Bool.false_eq_true, if_false]
            exact leave_lost lost true
  · rename_i caller run second priorUncertainty call reply
    cases resumed
    simp only [PayoutKont.tick] at lost
    refine .inl ?_
    simp only [onTransferReply, lost, Bool.false_and, Bool.false_eq_true, if_false]
    exact drive_lost lost
  · cases resumed
    simp only [PayoutKont.tick] at lost
    refine .inl ?_
    simp only [onClaimReply, lost, Bool.false_and, Bool.false_eq_true, if_false]
    exact drive_lost lost
  · cases resumed
    simp only [PayoutKont.tick] at lost
    refine .inl ?_
    simp only [onNotifyReply, lost, Bool.false_and, Bool.not_false, if_true]
    exact drive_lost lost
  · cases resumed
    simp only [PayoutKont.tick] at lost
    refine .inl ?_
    simp only [onFinalize, lost, Bool.false_and, Bool.false_eq_true, if_false]
    exact leave_lost lost true
  · cases resumed
    exact .inl (leave_lost lost true)
  · cases resumed
    simp only [PayoutKont.tick] at lost
    refine .inl ?_
    simp only [FaucetState.finishGuard, lost, Bool.false_eq_true, if_false]
  · cases resumed

end Lost

section Owned

variable {limits : ScanLimits} {fromText : Text → Option Principal} {st : FaucetState}
  {ledger : LedgerLog PayoutTag} {rejected refunded : PayoutTag → Prop}

inductive PayoutTurn (tick : MainTick) (rejected refunded : PayoutTag → Prop) (st : FaucetState) :
    FaucetState × PayoutPause → Prop where
  | plays {result : FaucetState × PayoutPause} (plays : Plays tick rejected refunded st result) :
      PayoutTurn tick rejected refunded st result
  | create {result : FaucetState × PayoutPause} {feeE8s denomE8s : Nat} {tranche : FundingTranche}
      (vacant : st.activePayoutJob = none) (admitted : trancheAdmits feeE8s denomE8s tranche)
      (plays : Plays tick rejected refunded
        (ensureActiveJob st tick.nowNanos feeE8s denomE8s tranche) result) :
      PayoutTurn tick rejected refunded st result
  | finish {job : ActivePayoutJob} (active : st.activePayoutJob = some job) :
      PayoutTurn tick rejected refunded st (st.finalized job, .await (.probe tick))
  | rescued : PayoutTurn tick rejected refunded st (st.finishGuard tick.lease tick.nowSecs, .done)

/-- What the replies establish for the task that awaits them. -/
structure Informs (st : FaucetState) (rejected refunded : PayoutTag → Prop) (kont : PayoutKont)
    (reply : PayoutReply) : Prop where
  found : ∀ tick feeE8s denomE8s tranche, kont = .discovery tick →
    reply = .found feeE8s denomE8s tranche → trancheAdmits feeE8s denomE8s tranche
  rejected : ∀ caller run second call result retryable,
    kont = .transfer caller run second false call → reply = .transfer result →
    classifyTransferReply result = .definiteNoDebit retryable → rejected st.stagedTag
  refunded : ∀ caller run first tag outcome, kont = .notify caller run first tag →
    reply = .notified outcome → outcome.isProvenRefundWithBlock = true → refunded st.stagedTag

theorem resume_owned (holds : KontHolds kont) (fits : KontFits ledger st kont)
    (informs : Informs st rejected refunded kont reply)
    (resumed : resumePayout limits fromText st kont reply = some result) :
    PayoutTurn kont.tick rejected refunded st result := by
  simp only [resumePayout] at resumed
  split at resumed
  · rename_i tick feeE8s denomE8s tranche
    cases resumed
    simp only [onFound]
    split
    · rename_i owned
      rw [Bool.and_eq_true, Option.isNone_iff_eq_none] at owned
      exact .create owned.2 (informs.found _ _ _ _ rfl rfl) (payoutLoop_plays _)
    · exact .plays (leave_plays true)
  · cases resumed
    exact .plays (leave_plays _)
  · cases resumed
    exact .plays (onPage_plays fun _ => fits)
  · cases resumed
    exact .plays (onSubaccount_plays (fun _ => fits.1) (fun _ => fits.2) holds)
  · rename_i caller run second priorUncertainty call reply
    cases resumed
    apply PayoutTurn.plays
    apply resumeDriver_plays
    apply onTransferReply_drives holds fun _ => fits.1
    intro retryable _ certain
    subst certain
    exact informs.rejected _ _ _ _ _ retryable rfl rfl
  · cases resumed
    exact .plays (resumeDriver_plays (onClaimReply_drives holds fun _ => fits))
  · cases resumed
    apply PayoutTurn.plays
    apply resumeDriver_plays
    exact onNotifyReply_drives holds (fun _ => fits.1) fun _ => informs.refunded _ _ _ _ _ rfl rfl
  · rename_i tick job
    cases resumed
    simp only [onFinalize]
    split
    · exact .finish fits
    · exact .plays (leave_plays true)
  · cases resumed
    exact .plays (leave_plays true)
  · cases resumed
    exact .rescued
  · cases resumed

end Owned
end JupiterSuite.Faucet
