import JupiterSuite.Disburser.Logic

/-! The asynchronous entry points, cut at their awaits. A continuation holds what the
suspended function still reads; a segment runs from one await to the next. -/

namespace JupiterSuite.Disburser

open Base

structure MaturityDisbursement where
  amountE8s : Nat
  deriving DecidableEq, Repr

structure Neuron where
  agingSinceTimestampSeconds : Nat
  maturityDisbursementsInProgress : Option (List MaturityDisbursement)
  deriving DecidableEq, Repr

def Neuron.inFlight (neuron : Neuron) : Bool :=
  neuron.maturityDisbursementsInProgress.any (!·.isEmpty)

structure Tick where
  lease : Nat
  nowNanos : Nat
  deriving DecidableEq, Repr

def Tick.nowSecs (tick : Tick) : Nat := tick.nowNanos / nanosPerSecond

/-- Who awaits `process_payout`: the main tick, with the neuron's aging timestamp, or a poke. -/
inductive Caller where
  | main (agingSince : Nat)
  | poke
  deriving DecidableEq, Repr

structure PayoutRun where
  tick : Tick
  caller : Caller
  deriving DecidableEq, Repr

inductive Kont where
  | claim (tick : Tick)
  | refresh (tick : Tick)
  | mainNeuron (tick : Tick)
  | pokeNeuron (tick : Tick)
  | balance (run : PayoutRun) (expectedNonce : Nat) (expectedPlan : Option PayoutPlan)
      (prevAge : Nat)
  | fee (run : PayoutRun) (expectedNonce prevAge balance : Nat)
  | transfer (run : PayoutRun) (plan : PayoutPlan) (index call : Nat)
  | disburse (tick : Tick)
  deriving DecidableEq, Repr

/-- Where a segment stops. A transfer becomes a `Kont.transfer` once its call is numbered. -/
inductive Pause where
  | done
  | await (kont : Kont)
  | transferring (run : PayoutRun) (plan : PayoutPlan) (index : Nat) (arg : TransferArg)
  deriving DecidableEq, Repr

def payoutGenerationMatches (st : State) (expectedNonce : Nat)
    (expectedPlan : Option PayoutPlan) : Bool :=
  decide (st.payoutNonce = expectedNonce) && decide (st.payoutPlan = expectedPlan)

def nextPending : List PlannedTransfer → Option (Nat × PlannedTransfer)
  | [] => none
  | transfer :: rest =>
      if transfer.status = .pending then some (0, transfer)
      else (nextPending rest).map fun found => (found.1 + 1, found.2)

def PayoutPlan.markSent (plan : PayoutPlan) (index block : Nat) : PayoutPlan :=
  { plan with
    transfers := plan.transfers.modify index fun transfer =>
      { transfer with status := .sent block } }

/-- What the caller does with the result of `process_payout`. -/
def afterPayout (st : State) (run : PayoutRun) (nowSecs : Nat) (ok : Bool) : State × Pause :=
  match run.caller with
  | .poke => (dropGuard st run.tick.lease, .done)
  | .main agingSince =>
      if !ok then (finishGuard st run.tick.lease run.tick.nowSecs nowSecs, .done)
      else if !isCurrent st run.tick.lease nowSecs then (dropGuard st run.tick.lease, .done)
      else ({ st with prevAgeSeconds := run.tick.nowSecs - agingSince },
        .await (.disburse run.tick))

def driveHead (st : State) (run : PayoutRun) (nowSecs : Nat) : State × Pause :=
  if !isCurrent st run.tick.lease nowSecs then afterPayout st run nowSecs false
  else
    match st.payoutPlan with
    | none => afterPayout st run nowSecs true
    | some plan =>
        match nextPending plan.transfers with
        | none => afterPayout { st with payoutPlan := none } run nowSecs true
        | some (index, transfer) => (st, .transferring run plan index (transferArg plan transfer))

def processPayout (st : State) (run : PayoutRun) (nowSecs : Nat) : State × Pause :=
  if !isCurrent st run.tick.lease nowSecs then afterPayout st run nowSecs false
  else (st, .await (.balance run st.payoutNonce st.payoutPlan st.prevAgeSeconds))

def onBalance (st : State) (run : PayoutRun) (expectedNonce : Nat)
    (expectedPlan : Option PayoutPlan) (prevAge nowSecs : Nat) : Option Nat → State × Pause
  | none => afterPayout st run nowSecs false
  | some balance =>
      if !isCurrent st run.tick.lease nowSecs ||
          !payoutGenerationMatches st expectedNonce expectedPlan then
        afterPayout st run nowSecs false
      -- An empty balance cannot confirm a pending transfer whose reply was lost.
      else if balance = 0 ∧ expectedPlan = none then afterPayout st run nowSecs true
      else if expectedPlan = none then (st, .await (.fee run expectedNonce prevAge balance))
      else driveHead st run nowSecs

def plannedPayout (config : Config) (run : PayoutRun) (payoutId prevAge balance fee : Nat) :
    PayoutPlan where
  id := payoutId
  feeE8s := fee
  createdAtBaseNanos := run.tick.nowNanos
  transfers :=
    (planPayoutTransfers payoutId run.tick.nowNanos balance fee prevAge
      config.normalRecipient config.ageBonusRecipient1 config.ageBonusRecipient2).2

def installPlan (st : State) (plan : PayoutPlan) : State :=
  { st with payoutNonce := satAdd u64Max st.payoutNonce 1, payoutPlan := some plan }

/-- The plan that the fee reply installs, when the lease and the generation still match. -/
def planOnFee (st : State) (run : PayoutRun) (expectedNonce prevAge balance nowSecs : Nat) :
    Option Nat → Option PayoutPlan
  | none => none
  | some fee =>
      if !isCurrent st run.tick.lease nowSecs ||
          !payoutGenerationMatches st expectedNonce none then none
      else some (plannedPayout st.config run expectedNonce prevAge balance fee)

def onFee (st : State) (run : PayoutRun) (expectedNonce prevAge balance nowSecs : Nat)
    (fee : Option Nat) : State × Pause :=
  match planOnFee st run expectedNonce prevAge balance nowSecs fee with
  | none => afterPayout st run nowSecs false
  | some plan => driveHead (installPlan st plan) run nowSecs

def markSent (st : State) (plan : PayoutPlan) (index block nowSecs : Nat) : State :=
  { st with
    payoutPlan := some (plan.markSent index block)
    lastSuccessfulTransferTs := some nowSecs }

def onTransfer (st : State) (run : PayoutRun) (plan : PayoutPlan) (index nowSecs : Nat) :
    Option TransferReply → State × Pause
  | none => afterPayout st run nowSecs false
  | some reply =>
      if st.payoutPlan ≠ some plan then afterPayout st run nowSecs false
      else
        match reply with
        | .ok block => driveHead (markSent st plan index block run.tick.nowSecs) run nowSecs
        | .error (.duplicate block) =>
            driveHead (markSent st plan index block run.tick.nowSecs) run nowSecs
        | .error err =>
            if isCurrent st run.tick.lease nowSecs &&
                shouldClearPayoutPlanOnTransferError err then
              afterPayout { st with payoutPlan := none } run nowSecs false
            else afterPayout st run nowSecs false

def runMainTick (st : State) (force : Bool) (nowNanos : Nat) : State × Pause :=
  let nowSecs := nowNanos / nanosPerSecond
  match acquireLease nowSecs mainTickLeaseSeconds st.mainLockStateTs with
  | none => (st, .done)
  | some lease =>
      let st := { st with mainLockStateTs := some lease }
      let due := satAdd u64Max st.lastMainRunTs (st.config.mainIntervalSeconds - 60)
      if !force && decide (nowSecs < due) then (dropGuard st lease, .done)
      else (st, .await (.claim ⟨lease, nowNanos⟩))

def runPoke (st : State) (nowNanos : Nat) : State × Pause :=
  match acquireLease (nowNanos / nanosPerSecond) mainTickLeaseSeconds st.mainLockStateTs with
  | none => (st, .done)
  | some lease =>
      ({ st with mainLockStateTs := some lease }, .await (.pokeNeuron ⟨lease, nowNanos⟩))

def onNeuron (st : State) (tick : Tick) (nowSecs : Nat) : Option Neuron → State × Pause
  | none => (finishGuard st tick.lease tick.nowSecs nowSecs, .done)
  | some neuron =>
      if !isCurrent st tick.lease nowSecs then (dropGuard st tick.lease, .done)
      else if neuron.inFlight then (finishGuard st tick.lease tick.nowSecs nowSecs, .done)
      else processPayout st ⟨tick, .main neuron.agingSinceTimestampSeconds⟩ nowSecs

def onPokeNeuron (st : State) (tick : Tick) (nowSecs : Nat) : Option Neuron → State × Pause
  | none => (dropGuard st tick.lease, .done)
  | some neuron =>
      if !isCurrent st tick.lease nowSecs || neuron.inFlight then
        (dropGuard st tick.lease, .done)
      else processPayout st ⟨tick, .poke⟩ nowSecs

inductive Reply where
  | acknowledged (ok : Bool)
  | neuron (result : Option Neuron)
  | amount (result : Option Nat)
  | transfer (result : Option TransferReply)
  deriving DecidableEq, Repr

def resume (st : State) (nowSecs : Nat) : Kont → Reply → Option (State × Pause)
  | .claim tick, .acknowledged _ =>
      some <| if isCurrent st tick.lease nowSecs then (st, .await (.refresh tick))
        else (dropGuard st tick.lease, .done)
  | .refresh tick, .acknowledged _ =>
      some <| if isCurrent st tick.lease nowSecs then (st, .await (.mainNeuron tick))
        else (dropGuard st tick.lease, .done)
  | .mainNeuron tick, .neuron result => some (onNeuron st tick nowSecs result)
  | .pokeNeuron tick, .neuron result => some (onPokeNeuron st tick nowSecs result)
  | .balance run expectedNonce expectedPlan prevAge, .amount result =>
      some (onBalance st run expectedNonce expectedPlan prevAge nowSecs result)
  | .fee run expectedNonce prevAge balance, .amount result =>
      some (onFee st run expectedNonce prevAge balance nowSecs result)
  | .transfer run plan index _, .transfer result =>
      some (onTransfer st run plan index nowSecs result)
  | .disburse tick, .acknowledged _ =>
      some (finishGuard st tick.lease tick.nowSecs nowSecs, .done)
  | _, _ => none

/-! The disburser with its concurrent tasks and the ledger they call. Every choice of the
environment is an event: which task runs, what it is answered, which continuation is lost,
when the ledger processes a call. -/

/-- The installation and the position on whose behalf a transfer was sent. -/
structure Tag where
  serial : Nat
  planId : Nat
  index : Nat
  deriving DecidableEq, Repr

structure System where
  state : State
  tasks : Pool Kont
  ledger : LedgerLog Tag
  /-- Every plan installed so far, oldest first; no code reads it. -/
  installed : List PayoutPlan
  clock : Nat

inductive Event where
  | mainTick (id : Nat) (force : Bool) (nowNanos : Nat)
  | poke (id nowNanos : Nat)
  | resume (id : Nat) (reply : Reply) (nowNanos : Nat)
  -- The continuation never runs again; after a trap its cleanup still drops the guard.
  | abandon (id : Nat) (cleanup : Bool)
  | ledger (call : Nat) (outcome : TransferOutcome)
  deriving DecidableEq, Repr

def Kont.lease : Kont → Nat
  | .claim tick | .refresh tick | .mainNeuron tick | .pokeNeuron tick | .disburse tick =>
      tick.lease
  | .balance run _ _ _ | .fee run _ _ _ | .transfer run _ _ _ => run.tick.lease

def settle (sys : System) (id nowNanos : Nat) (installed : List PayoutPlan) :
    State × Pause → System
  | (st, .done) => { sys with
      state := st, tasks := sys.tasks.put id none, installed := installed, clock := nowNanos }
  | (st, .await kont) => { sys with
      state := st, tasks := sys.tasks.put id (some kont), installed := installed
      clock := nowNanos }
  | (st, .transferring run plan index arg) => { sys with
      state := st
      tasks := sys.tasks.put id (some (.transfer run plan index sys.ledger.length))
      ledger := sys.ledger.dispatch ⟨installed.length - 1, plan.id, index⟩ arg
      installed := installed
      clock := nowNanos }

def installs (st : State) (nowSecs : Nat) : Kont → Reply → List PayoutPlan
  | .fee run expectedNonce prevAge balance, .amount fee =>
      (planOnFee st run expectedNonce prevAge balance nowSecs fee).toList
  | _, _ => []

/-- A transfer continuation gets what the ledger answered its own call, or a call failure. -/
def repliesTo (sys : System) : Kont → Reply → Bool
  | .transfer _ _ _ call, .transfer reply => delivered sys.ledger call reply
  | _, _ => true

def clockAdmits (clock nowNanos : Nat) : Bool :=
  decide (clock ≤ nowNanos) && decide (nowNanos ≤ u64Max)

def step (sys : System) : Event → Option System
  | .mainTick id force now =>
      if clockAdmits sys.clock now && (sys.tasks id).isNone then
        some (settle sys id now sys.installed (runMainTick sys.state force now))
      else none
  | .poke id now =>
      if clockAdmits sys.clock now && (sys.tasks id).isNone then
        some (settle sys id now sys.installed (runPoke sys.state now))
      else none
  | .resume id reply now =>
      match sys.tasks id with
      | none => none
      | some kont =>
          if clockAdmits sys.clock now && repliesTo sys kont reply then
            (resume sys.state (now / nanosPerSecond) kont reply).map
              (settle sys id now
                (sys.installed ++ installs sys.state (now / nanosPerSecond) kont reply))
          else none
  | .abandon id cleanup =>
      match sys.tasks id with
      | none => none
      | some kont =>
          some { sys with
            state := if cleanup then dropGuard sys.state kont.lease else sys.state
            tasks := sys.tasks.put id none }
  | .ledger call outcome =>
      if ledgerAnswer outcome then
        (sys.ledger.answer call outcome).map fun ledger => { sys with ledger := ledger }
      else none

def machine : Machine System Event where
  init := fun sys => ∃ config nowNanos,
    sys = ⟨State.new config (nowNanos / nanosPerSecond), Pool.empty, [], [], nowNanos⟩
  step := step

end JupiterSuite.Disburser
