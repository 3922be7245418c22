import JupiterSuite.Faucet.PayoutLoop
import JupiterSuite.Faucet.FundingSystem

/-! The faucet's ticks with the ledger and the CMC they call. The index may answer a page with
anything; the records of the staking account are kept for the runs in which it tells the truth. -/

namespace JupiterSuite.Faucet

open Base Memo

structure Refund where
  tag : PayoutTag
  creditE8s : Nat
  deriving DecidableEq, Repr

structure PayoutSystem where
  state : FaucetState
  tasks : Pool PayoutKont
  ledger : LedgerLog PayoutTag
  refunds : List Refund
  history : List IndexTx
  clock : Nat

inductive PayoutReply where
  | found (feeE8s denomE8s : Nat) (tranche : FundingTranche)
  | left (ok : Bool)
  | page (page : Option IndexPage)
  | subaccount (result : Option (List UInt8))
  | transfer (result : Option TransferReply)
  | claimed
  | notified (outcome : NotifyAttemptOutcome)
  | settled
  deriving DecidableEq, Repr

inductive PayoutEvent where
  | begin (id nowNanos : Nat) (force poke : Bool)
  | resume (id : Nat) (reply : PayoutReply) (nowNanos : Nat)
  -- The continuation never runs again; after a trap its cleanup still drops the guard.
  | abandon (id : Nat) (cleanup : Bool)
  | ledger (call : Nat) (outcome : TransferOutcome)
  | refund (refund : Refund)
  | arrive (tx : IndexTx)
  | upgrade (args : UpgradeArgs)
  deriving DecidableEq, Repr

section Resumption

variable (limits : ScanLimits) (fromText : Text → Option Principal) (st : FaucetState)

def DriveCaller.goOn (caller : DriveCaller) (tick : MainTick) (st : FaucetState) (ok : Bool) :
    FaucetState × PayoutPause :=
  if !ok then leavePayout st tick true
  else
    match caller with
    | .loop pagesLeft => payoutLoop limits st tick pagesLeft
    | .page frame =>
        if st.scansPage tick frame then payRecords limits fromText tick frame frame.rest st
        else leavePayout st tick true
    | .remainder jobId => leaveWith (startFinalize st tick jobId)

def resumeDriver (caller : DriveCaller) (run : DriveRun) (result : FaucetState × DriveStop) :
    FaucetState × PayoutPause :=
  afterDrive caller run.tick.lease (caller.goOn limits fromText run.tick) result

def onFound (tick : MainTick) (feeE8s denomE8s : Nat) (tranche : FundingTranche) :
    FaucetState × PayoutPause :=
  if st.isCurrent tick.lease && st.activePayoutJob.isNone then
    payoutLoop limits (ensureActiveJob st tick.nowNanos feeE8s denomE8s tranche) tick
      limits.maxIndexPagesPerPayoutTick
  else leavePayout st tick true

def resumePayout : PayoutKont → PayoutReply → Option (FaucetState × PayoutPause)
  | .discovery tick, .found feeE8s denomE8s tranche =>
      some (onFound limits st tick feeE8s denomE8s tranche)
  | .discovery tick, .left ok => some (leavePayout st tick ok)
  | .page tick job pagesLeft, .page page =>
      some (onPage limits fromText st tick job pagesLeft page)
  | .lookup tick frame stake second, .subaccount result =>
      some (onSubaccount limits fromText st tick frame stake second result)
  | .transfer caller run second priorUncertainty _, .transfer reply =>
      some (resumeDriver limits fromText caller run
        (onTransferReply st run second priorUncertainty reply))
  | .claim caller run, .claimed =>
      some (resumeDriver limits fromText caller run (onClaimReply st run))
  | .notify caller run first _, .notified outcome =>
      some (resumeDriver limits fromText caller run (onNotifyReply st run first outcome))
  | .finalize tick job, .settled => some (leaveWith (onFinalize st tick job))
  | .probe tick, .settled => some (leavePayout st tick true)
  | .rescue tick, .settled => some (st.finishGuard tick.lease tick.nowSecs, .done)
  | _, _ => none

def beginPayout (nowNanos : Nat) (force poke : Bool) : FaucetState × PayoutPause :=
  match beginTick st nowNanos force poke with
  | (st, .await (.payout tick)) => payoutLoop limits st tick limits.maxIndexPagesPerPayoutTick
  | result => leaveWith result

end Resumption

section Steps

variable (limits : ScanLimits) (fromText : Text → Option Principal)

def settlePayout (sys : PayoutSystem) (id nowNanos : Nat) :
    FaucetState × PayoutPause → PayoutSystem
  | (st, .done) => { sys with
      state := st, tasks := sys.tasks.put id none, clock := nowNanos }
  | (st, .await kont) => { sys with
      state := st, tasks := sys.tasks.put id (some kont), clock := nowNanos }
  | (st, .transferring caller run second priorUncertainty arg) => { sys with
      state := st
      tasks := sys.tasks.put id
        (some (.transfer caller run second priorUncertainty sys.ledger.length))
      ledger := sys.ledger.dispatch st.stagedTag arg
      clock := nowNanos }
  | (_, .trapped _ lease) => { sys with
      state := sys.state.dropGuard lease, tasks := sys.tasks.put id none, clock := nowNanos }

/-- A discovered tranche is worth more than the fee; all of its numbers are `u64`. -/
def trancheAdmits (feeE8s denomE8s : Nat) (tranche : FundingTranche) : Bool :=
  decide (feeE8s < tranche.amountE8s) && decide (tranche.amountE8s ≤ u64Max) &&
    decide (denomE8s ≤ u64Max) && decide (tranche.txId ≤ u64Max) &&
    decide (tranche.timestampNanos ≤ u64Max)

/-- The ledger answers a call once; the CMC reports a refund that it made. -/
def payoutRepliesTo (sys : PayoutSystem) : PayoutKont → PayoutReply → Bool
  | .discovery _, .found feeE8s denomE8s tranche => trancheAdmits feeE8s denomE8s tranche
  | .transfer _ _ _ _ call, .transfer reply => delivered sys.ledger call reply
  | .notify _ _ _ tag, .notified (.refunded (some _)) =>
      sys.refunds.any fun refund => decide (refund.tag = tag)
  | _, _ => true

/-- A transfer is refunded once, with at least its amount less three fees. -/
def refundAdmits (sys : PayoutSystem) (refund : Refund) : Bool :=
  (sys.refunds.all fun other => decide (other.tag ≠ refund.tag)) &&
    sys.ledger.any fun call => decide (call.tag = refund.tag) &&
      decide (call.arg.amount ≤ refund.creditE8s + 3 * call.arg.fee.getD 0)

def stepPayout (sys : PayoutSystem) : PayoutEvent → Option PayoutSystem
  | .begin id now force poke =>
      if clockAdmits sys.clock now && (sys.tasks id).isNone then
        some (settlePayout sys id now (beginPayout limits sys.state now force poke))
      else none
  | .resume id reply now =>
      match sys.tasks id with
      | none => none
      | some kont =>
          if clockAdmits sys.clock now && payoutRepliesTo sys kont reply then
            (resumePayout limits fromText sys.state kont reply).map (settlePayout sys id now)
          else none
  | .abandon id cleanup =>
      match sys.tasks id with
      | none => none
      | some kont =>
          some { sys with
            state := if cleanup then sys.state.dropGuard kont.lease else sys.state
            tasks := sys.tasks.put id none }
  | .ledger call outcome =>
      if ledgerAnswer outcome then
        (sys.ledger.answer call outcome).map fun ledger => { sys with ledger := ledger }
      else none
  | .refund refund =>
      if refundAdmits sys refund then some { sys with refunds := refund :: sys.refunds } else none
  | .arrive tx =>
      if isNewest sys.history tx then some { sys with history := tx :: sys.history } else none
  | .upgrade args =>
      if upgradeAdmits sys.state args then
        some { sys with state := applyUpgradeArgs sys.state args, tasks := Pool.empty }
      else none

def payoutMachine : Machine PayoutSystem PayoutEvent where
  init := fun sys => ∃ config nowNanos history,
    sys = ⟨FaucetState.new config (nowNanos / nanosPerSecond), Pool.empty, [], [], history,
      nowNanos⟩ ∧ history.Pairwise fun newer older => older.id < newer.id
  step := stepPayout limits fromText

end Steps
end JupiterSuite.Faucet
