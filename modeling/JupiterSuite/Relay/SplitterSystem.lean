import JupiterSuite.Relay.SplitterState

/-! The splitter drivers, cut at their awaits. A pass is one iteration of the drive loop;
`again` continues the loop within the same segment. -/

namespace JupiterSuite.Relay

open Base

inductive DriveResult where
  | completed
  | clearedPreSpend
  | unresolved
  | quarantined
  | stale
  deriving DecidableEq, Repr

/-- What awaits the end of `drive_active_job`: the retry timer, the main stage with the job it
resumed, or the main stage's loop over the splitter numbers. -/
inductive Stage where
  | retry
  | resumed (number : Nat)
  | planned (resumed : Option Nat) (feeE8s : Nat) (remaining : List Nat)
  deriving DecidableEq, Repr

structure Driver where
  lease : Nat
  nowNanos : Nat
  stage : Stage
  deriving DecidableEq, Repr

inductive SplitterKont where
  | waitFunds (driver : Driver) (claimed : ActiveSplitterJob) (leg : SplitterLeg)
  | waitFee (driver : Driver) (claimed : ActiveSplitterJob) (leg : SplitterLeg)
  | transfer (driver : Driver) (claimed : ActiveSplitterJob) (leg : SplitterLeg)
      (hadPrior : Bool) (call : Nat)
  | stageFee (lease nowNanos : Nat) (resumed : Option Nat)
  | stageBalance (lease nowNanos : Nat) (resumed : Option Nat) (feeE8s number : Nat)
      (remaining : List Nat)
  deriving DecidableEq, Repr

inductive SplitterPause where
  | done
  | await (kont : SplitterKont)
  | transferring (driver : Driver) (claimed : ActiveSplitterJob) (leg : SplitterLeg)
      (hadPrior : Bool)
  | trap
  -- The bound on the passes of one segment was reached; `drive_passes` shows it never is.
  | exhausted
  deriving DecidableEq, Repr

inductive Pass where
  | exit (st : SplitterState) (pause : SplitterPause)
  | result (st : SplitterState) (result : DriveResult)
  | again (st : SplitterState)
  deriving DecidableEq, Repr

inductive SplitterOutcome where
  | accepted (blockIndex : Nat)
  | badFee (expectedFee : Nat)
  | insufficientFunds (balance : Nat)
  | definitiveRejection
  | transportUncertain
  deriving DecidableEq, Repr

def splitterOutcome : Option TransferReply → SplitterOutcome
  | some (.ok block) => .accepted block
  | some (.error (.duplicate block)) => .accepted block
  | some (.error (.badFee expectedFee)) => .badFee expectedFee
  | some (.error (.insufficientFunds balance)) => .insufficientFunds balance
  | some (.error _) => .definitiveRejection
  | none => .transportUncertain

def stageNext (st : SplitterState) (lease nowNanos : Nat) (resumed : Option Nat)
    (feeE8s : Nat) : List Nat → SplitterState × SplitterPause
  | [] => (st.dropGuard lease, .done)
  | number :: remaining =>
      if decide (resumed = some number) || st.isQuarantined number then
        stageNext st lease nowNanos resumed feeE8s remaining
      else (st, .await (.stageBalance lease nowNanos resumed feeE8s number remaining))

def finishDrive (st : SplitterState) (driver : Driver) (result : DriveResult) :
    SplitterState × SplitterPause :=
  match driver.stage, result with
  | .resumed number, .completed =>
      (st, .await (.stageFee driver.lease driver.nowNanos (some number)))
  | .planned resumed feeE8s remaining, .completed =>
      stageNext st driver.lease driver.nowNanos resumed feeE8s remaining
  | _, _ => (st.dropGuard driver.lease, .done)

def quarantine (st : SplitterState) (leg : SplitterLeg) (nowNanos : Nat) (reason : String) :
    Pass :=
  .result (st.quarantineActiveJob leg nowNanos reason) .quarantined

def repinAnd (st : SplitterState) (job : ActiveSplitterJob) (leg : SplitterLeg)
    (feeE8s nowNanos : Nat) (next : SplitterState → Pass) : Pass :=
  match repinLeg job leg feeE8s nowNanos with
  | none => quarantine st leg nowNanos "replacement transfer timestamp overflow"
  | some job => next (st.setActiveJob job)

def driveReady (st : SplitterState) (job : ActiveSplitterJob) (leg : SplitterLeg)
    (driver : Driver) : Pass :=
  let progress := job.progress leg
  let hadPrior := progress.attemptStarted || progress.uncertainAttemptSeen
  if !createdAtTimeIsValid (job.plan.leg leg).createdAtTimeNanos driver.nowNanos then
    if hadPrior then
      quarantine st leg driver.nowNanos
        "expired transfer identity after a potentially accepted attempt"
    else if leg = .defaultAccount then .result st.clearActiveJob .clearedPreSpend
    else repinAnd st job leg (job.plan.leg leg).feeE8s driver.nowNanos .again
  else
    match st.claimActiveJob job (some leg) with
    | .stale => .result st .stale
    | .trap => .exit st .trap
    | .claimed st claimed => .exit st (.transferring driver claimed leg hadPrior)

def claimAnd (st : SplitterState) (job : ActiveSplitterJob)
    (next : ActiveSplitterJob → SplitterKont) : Pass :=
  match st.claimActiveJob job none with
  | .stale => .result st .stale
  | .trap => .exit st .trap
  | .claimed st claimed => .exit st (.await (next claimed))

/-- One iteration of the loop of `drive_active_job`, up to its await. -/
def driveStep (st : SplitterState) (driver : Driver) : Pass :=
  match st.activeJob with
  | none => .result st .completed
  | some job =>
      if job.pinnedLedgerCanisterId ≠ st.configLedgerCanisterId then
        quarantine st ((currentLeg job).getD .defaultAccount) driver.nowNanos
          "pinned ledger differs from runtime config"
      else if !activePlanIsValid job then
        quarantine st ((currentLeg job).getD .defaultAccount) driver.nowNanos
          "stable splitter plan invariant failed"
      else
        match currentLeg job with
        | none => .result st.clearActiveJob .completed
        | some leg =>
            match (job.progress leg).status with
            | .accepted _ => .exit st .trap
            | .waitingForFunds _ => claimAnd st job fun claimed => .waitFunds driver claimed leg
            | .waitingForFeasibleFee _ =>
                claimAnd st job fun claimed => .waitFee driver claimed leg
            | .ready => driveReady st job leg driver

def drive : Nat → Driver → Pass → SplitterState × SplitterPause
  | _, _, .exit st pause => (st, pause)
  | _, driver, .result st result => finishDrive st driver result
  | 0, _, .again st => (st, .exhausted)
  | fuel + 1, driver, .again st => drive fuel driver (driveStep st driver)

def drivePasses : Nat := 2

/-- The check after every await: the lease and the claimed job are still the stored ones. -/
def claimHolds (st : SplitterState) (driver : Driver) (claimed : ActiveSplitterJob) : Bool :=
  st.isCurrent driver.lease && decide (st.activeJob = some claimed)

def onWaitFunds (st : SplitterState) (driver : Driver) (claimed : ActiveSplitterJob)
    (leg : SplitterLeg) (balance : Option Nat) : Pass :=
  if !claimHolds st driver claimed then .result st .stale
  else
    match balance with
    | none => .result st .unresolved
    | some balance =>
        if balance < (claimed.plan.leg leg).grossShareE8s then
          .result (st.setActiveJob (claimed.setStatus leg (.waitingForFunds balance))) .unresolved
        else
          repinAnd st claimed leg (claimed.plan.leg leg).feeE8s driver.nowNanos .again

def onWaitFee (st : SplitterState) (driver : Driver) (claimed : ActiveSplitterJob)
    (leg : SplitterLeg) (reply : Option Nat) : Pass :=
  let resolved := resolveIcpLedgerFeeE8s st reply
  let st := resolved.1
  let fee := resolved.2
  if !claimHolds st driver claimed then .result st .stale
  else if (claimed.plan.leg leg).grossShareE8s ≤ fee then
    .result (st.setActiveJob (claimed.setStatus leg (.waitingForFeasibleFee fee))) .unresolved
  else repinAnd st claimed leg fee driver.nowNanos .again

/-- A typed rejection of a leg's only dispatch; `next` treats the second leg. -/
def rejected (st : SplitterState) (claimed : ActiveSplitterJob) (leg : SplitterLeg)
    (hadPrior : Bool) (next : Pass) : Pass :=
  if hadPrior then .result (st.setActiveJob (claimed.markUncertain leg)) .unresolved
  else if leg = .defaultAccount then .result st.clearActiveJob .clearedPreSpend
  else next

def onSplitterTransfer (st : SplitterState) (driver : Driver) (claimed : ActiveSplitterJob)
    (leg : SplitterLeg) (hadPrior : Bool) (reply : Option TransferReply) : Pass :=
  if !claimHolds st driver claimed then .result st .stale
  else
    let plan := claimed.plan.leg leg
    match splitterOutcome reply with
    | .accepted block => .again (st.setActiveJob (claimed.setStatus leg (.accepted block)))
    | .transportUncertain =>
        .result (st.setActiveJob (claimed.markUncertain leg)) .unresolved
    | .badFee expectedFee =>
        let st := recordBadFee st expectedFee
        rejected st claimed leg hadPrior
          (if expectedFee ≤ u64Max ∧ expectedFee < plan.grossShareE8s then
            repinAnd st claimed leg expectedFee driver.nowNanos fun st => .result st .unresolved
          else
            .result (st.setActiveJob
              (claimed.setProgress leg { status := .waitingForFeasibleFee expectedFee }))
              .unresolved)
    | .insufficientFunds balance =>
        rejected st claimed leg hadPrior
          (.result (st.setActiveJob
            (claimed.setProgress leg { status := .waitingForFunds (min balance u64Max) }))
            .unresolved)
    | .definitiveRejection =>
        rejected st claimed leg hadPrior
          (repinAnd st claimed leg plan.feeE8s driver.nowNanos fun st => .result st .unresolved)

def onStageFee (st : SplitterState) (lease nowNanos : Nat) (resumed : Option Nat)
    (reply : Option Nat) : SplitterState × SplitterPause :=
  let resolved := resolveIcpLedgerFeeE8s st reply
  if !resolved.1.isCurrent lease then (resolved.1.dropGuard lease, .done)
  else stageNext resolved.1 lease nowNanos resumed resolved.2 splitterPercentages

/-- The plan that the main stage makes of the balance it read under its lease. -/
def planOnBalance (st : SplitterState) (lease nowNanos feeE8s number : Nat) :
    Option Nat → Option SplitterPlan
  | none => none
  | some balance =>
      if st.isCurrent lease then (buildSplitterPlan number balance feeE8s nowNanos).toOption
      else none

def onStageBalance (st : SplitterState) (lease nowNanos : Nat) (resumed : Option Nat)
    (feeE8s number : Nat) (remaining : List Nat) (balance : Option Nat) :
    SplitterState × SplitterPause :=
  if balance.isSome && !st.isCurrent lease then (st.dropGuard lease, .done)
  else
    match planOnBalance st lease nowNanos feeE8s number balance with
    | none => stageNext st lease nowNanos resumed feeE8s remaining
    | some plan =>
        let job := ActiveSplitterJob.new st.configLedgerCanisterId plan
        drive drivePasses ⟨lease, nowNanos, .planned resumed feeE8s remaining⟩
          (.again (st.setActiveJob job))

def acquireSplitter (st : SplitterState) (nowNanos : Nat) : Option (SplitterState × Nat) :=
  (acquireLease (nowNanos / nanosPerSecond) splitterLeaseSeconds st.splitterLockStateTs).map
    fun lease => ({ st with splitterLockStateTs := some lease }, lease)

def retryActiveSplitter (st : SplitterState) (nowNanos : Nat) : SplitterState × SplitterPause :=
  if st.activeJob = none then (st, .done)
  else
    match acquireSplitter st nowNanos with
    | none => (st, .done)
    | some (st, lease) => drive drivePasses ⟨lease, nowNanos, .retry⟩ (.again st)

def processMainStage (st : SplitterState) (nowNanos : Nat) : SplitterState × SplitterPause :=
  match acquireSplitter st nowNanos with
  | none => (st, .done)
  | some (st, lease) =>
      match st.activeJob with
      | none => (st, .await (.stageFee lease nowNanos none))
      | some job =>
          drive drivePasses ⟨lease, nowNanos, .resumed job.plan.splitterNumber⟩ (.again st)

inductive SplitterReply where
  | amount (result : Option Nat)
  | transfer (result : Option TransferReply)
  deriving DecidableEq, Repr

def resumeSplitter (st : SplitterState) :
    SplitterKont → SplitterReply → Option (SplitterState × SplitterPause)
  | .waitFunds driver claimed leg, .amount balance =>
      some (drive drivePasses driver (onWaitFunds st driver claimed leg balance))
  | .waitFee driver claimed leg, .amount fee =>
      some (drive drivePasses driver (onWaitFee st driver claimed leg fee))
  | .transfer driver claimed leg hadPrior _, .transfer reply =>
      some (drive drivePasses driver (onSplitterTransfer st driver claimed leg hadPrior reply))
  | .stageFee lease nowNanos resumed, .amount fee =>
      some (onStageFee st lease nowNanos resumed fee)
  | .stageBalance lease nowNanos resumed feeE8s number remaining, .amount balance =>
      some (onStageBalance st lease nowNanos resumed feeE8s number remaining balance)
  | _, _ => none

/-! The splitter with its concurrent drivers and the ledger they call. -/

structure SplitterTag where
  job : Nat
  leg : SplitterLeg
  deriving DecidableEq, Repr

structure SplitterSystem where
  state : SplitterState
  tasks : Pool SplitterKont
  ledger : LedgerLog SplitterTag
  /-- The last plan of every job so far, oldest job first; no code reads it. -/
  plans : List SplitterPlan
  clock : Nat

inductive SplitterEvent where
  | mainStage (id nowNanos : Nat)
  | retry (id nowNanos : Nat)
  | resume (id : Nat) (reply : SplitterReply) (nowNanos : Nat)
  -- The continuation never runs again; after a trap its cleanup still drops the guard.
  | abandon (id : Nat) (cleanup : Bool)
  | ledger (call : Nat) (outcome : TransferOutcome)
  -- The splitter state is stable; the heap, its locks and every continuation are not.
  | upgrade (ledgerCanisterId : Principal)
  deriving DecidableEq, Repr

def SplitterKont.lease : SplitterKont → Nat
  | .waitFunds driver _ _ | .waitFee driver _ _ | .transfer driver _ _ _ _ => driver.lease
  | .stageFee lease _ _ | .stageBalance lease _ _ _ _ _ => lease

def plansAfter (plans : List SplitterPlan) (st : SplitterState) : List SplitterPlan :=
  match st.activeJob with
  | none => plans
  | some job => plans.set (plans.length - 1) job.plan

/-- An upgrade may set another ledger when no active job pins the old one. -/
def validateActiveLedger (st : SplitterState) (ledgerCanisterId : Principal) : Bool :=
  st.activeJob.all fun job => decide (job.pinnedLedgerCanisterId = ledgerCanisterId)

variable (relayId : Principal)

def settleSplitter (sys : SplitterSystem) (id nowNanos : Nat) (plans : List SplitterPlan) :
    SplitterState × SplitterPause → SplitterSystem
  | (st, .done) | (st, .exhausted) => { sys with
      state := st, tasks := sys.tasks.put id none, plans := plansAfter plans st
      clock := nowNanos }
  | (st, .await kont) => { sys with
      state := st, tasks := sys.tasks.put id (some kont), plans := plansAfter plans st
      clock := nowNanos }
  | (st, .transferring driver claimed leg hadPrior) => { sys with
      state := st
      tasks := sys.tasks.put id (some (.transfer driver claimed leg hadPrior sys.ledger.length))
      ledger := sys.ledger.dispatch ⟨plans.length - 1, leg⟩
        (splitterTransferArg relayId claimed.plan leg)
      plans := plansAfter plans st
      clock := nowNanos }
  | (_, .trap) => { sys with
      state := match sys.tasks id with
        | none => sys.state
        | some kont => sys.state.dropGuard kont.lease
      tasks := sys.tasks.put id none
      clock := nowNanos }

def installsSplitter (st : SplitterState) : SplitterKont → SplitterReply → List SplitterPlan
  | .stageBalance lease nowNanos _ feeE8s number _, .amount balance =>
      (planOnBalance st lease nowNanos feeE8s number balance).toList
  | _, _ => []

/-- Amounts are decoded as `nat64`; a transfer's reply is what the ledger answered. -/
def splitterRepliesTo (sys : SplitterSystem) : SplitterKont → SplitterReply → Bool
  | .transfer _ _ _ _ call, .transfer reply => delivered sys.ledger call reply
  | _, .amount (some amount) => decide (amount ≤ u64Max)
  | _, _ => true

def clockAdmits (clock nowNanos : Nat) : Bool :=
  decide (clock ≤ nowNanos) && decide (nowNanos ≤ u64Max)

def stepSplitter (sys : SplitterSystem) : SplitterEvent → Option SplitterSystem
  | .mainStage id now =>
      if clockAdmits sys.clock now && (sys.tasks id).isNone then
        some (settleSplitter relayId sys id now sys.plans (processMainStage sys.state now))
      else none
  | .retry id now =>
      if clockAdmits sys.clock now && (sys.tasks id).isNone then
        some (settleSplitter relayId sys id now sys.plans (retryActiveSplitter sys.state now))
      else none
  | .resume id reply now =>
      match sys.tasks id with
      | none => none
      | some kont =>
          if clockAdmits sys.clock now && splitterRepliesTo sys kont reply then
            (resumeSplitter sys.state kont reply).map
              (settleSplitter relayId sys id now
                (sys.plans ++ installsSplitter sys.state kont reply))
          else none
  | .abandon id cleanup =>
      match sys.tasks id with
      | none => none
      | some kont =>
          some { sys with
            state := if cleanup then sys.state.dropGuard kont.lease else sys.state
            tasks := sys.tasks.put id none }
  | .ledger call outcome =>
      if ledgerAnswer outcome then
        (sys.ledger.answer call outcome).map fun ledger => { sys with ledger := ledger }
      else none
  | .upgrade ledgerCanisterId =>
      if validateActiveLedger sys.state ledgerCanisterId then
        some { sys with
          state := { sys.state with
            splitterLockStateTs := some 0
            lastKnownLedgerFeeE8s := none
            configLedgerCanisterId := ledgerCanisterId }
          tasks := Pool.empty }
      else none

def SplitterState.initial (configLedgerCanisterId : Principal) : SplitterState where
  activeJob := none
  quarantinedJobs := []
  nextDriverRevision := 0
  splitterLockStateTs := some 0
  lastKnownLedgerFeeE8s := none
  configLedgerCanisterId

def splitterMachine : Machine SplitterSystem SplitterEvent where
  init := fun sys => ∃ ledgerId nowNanos,
    sys = ⟨SplitterState.initial ledgerId, Pool.empty, [], [], nowNanos⟩
  step := stepSplitter relayId

end JupiterSuite.Relay
