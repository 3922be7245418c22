import JupiterSuite.Relay.JobDriver
import JupiterSuite.Relay.RewardPayout
import JupiterSuite.Relay.SplitterSystem

/-! The reward stage of a main tick, cut at its awaits: adjudication, the drive of the pinned
payout, and the timer that continues it. -/

namespace JupiterSuite.Relay

open Base

def attemptSeconds : Nat := 120

def rewardContextMaxAgeNanos : Nat := 48 * 60 * 60 * nanosPerSecond

structure RewardContext where
  snsLedgerCanisterId : Principal
  scanCompletedAtTimestampNanos : Nat
  deriving DecidableEq, Repr

/-- One attempt at the reward stage: its arguments and the limits of its work budget. -/
structure RewardAttempt where
  lease : Nat
  nowNanos : Nat
  nowSecs : Nat
  deadlineNanos : Nat
  deriving DecidableEq, Repr

def RewardAttempt.new (lease nowNanos : Nat) : RewardAttempt :=
  ⟨lease, nowNanos, nowNanos / nanosPerSecond,
    satAdd u64Max nowNanos (attemptSeconds * nanosPerSecond)⟩

def RewardAttempt.generation (attempt : RewardAttempt) (lastCompletedSweepSecs : Nat) :
    SweepGeneration := ⟨attempt.lease, lastCompletedSweepSecs⟩

inductive AttemptOutcome where
  | accepted
  | retryable
  | recipientRejected (reason : String)
  | planRejected (reason : String)
  | uncertain
  deriving DecidableEq, Repr

inductive PendingDriveResult where
  | completed
  | completedWithAbandonment (reason : String)
  | stale
  | held
  deriving DecidableEq, Repr

def PendingDriveResult.sweepDisposition : PendingDriveResult → SweepDisposition
  | .completed | .completedWithAbandonment _ => .completed
  | .stale | .held => .retryNextDailyTick

inductive DriveCaller where
  | process
  | adjudicate (lastCompletedSweepSecs : Nat)
  | continuation (before : Option Nat)
  deriving DecidableEq, Repr

/-- What a drive is started with; `number` counts the installed payouts and is read by no code. -/
structure PayoutDrive where
  caller : DriveCaller
  attempt : RewardAttempt
  ledger : Principal
  number : Nat
  deriving DecidableEq, Repr

inductive RewardKont where
  | main (lease : Nat)
  | context (attempt : RewardAttempt) (usage : Usage) (lastCompletedSweepSecs : Nat)
  | balance (attempt : RewardAttempt) (usage : Usage) (lastCompletedSweepSecs : Nat)
      (context : RewardContext)
  | fee (attempt : RewardAttempt) (usage : Usage) (lastCompletedSweepSecs : Nat)
      (context : RewardContext) (balance : Nat)
  | search (attempt : RewardAttempt) (lastCompletedSweepSecs : Nat) (context : RewardContext)
      (balance fee : Nat)
  | transfer (drive : PayoutDrive) (usage : Usage) (lastAbandonment : Option String)
      (expected : PendingRewardPayout) (second : Bool) (call : Nat)
  | timer (lease number : Nat)
  deriving DecidableEq

inductive RewardPause where
  | done
  | await (kont : RewardKont)
  | transferring (drive : PayoutDrive) (usage : Usage) (lastAbandonment : Option String)
      (expected : PendingRewardPayout) (second : Bool)
  deriving DecidableEq

inductive BatchSearch where
  | failed
  | none
  | found (commitmentTxId : Nat) (eligible : List (Principal × Nat)) (usage : Usage)
  deriving DecidableEq

inductive RewardReply where
  | ended
  | rewards (force : Bool)
  | context (result : Option RewardContext)
  | amount (result : Option Nat)
  | search (result : BatchSearch)
  | transfer (result : Option TransferReply)
  | resumed
  deriving DecidableEq

def rewardTransferArg (recipient : PendingRewardRecipient) (fee : Nat) : TransferArg where
  fromSubaccount := none
  toAccount := recipient.recipient
  fee := some fee
  createdAtTime := some recipient.createdAtTimeNanos
  memo := some recipient.memo
  amount := recipient.amount

/-- The outcome of `transfer_once`. -/
def attemptOutcome : Option TransferReply → AttemptOutcome
  | some (.ok _) | some (.error (.duplicate _)) => .accepted
  | some (.error (.badFee _)) => .planRejected "bad_fee"
  | some (.error (.insufficientFunds _)) => .planRejected "insufficient_funds"
  | some (.error .temporarilyUnavailable) => .retryable
  | some (.error (.createdInFuture _)) => .retryable
  | some (.error (.genericError _ _)) => .retryable
  | some (.error (.badBurn _)) => .recipientRejected "bad_burn"
  | some (.error .tooOld) => .recipientRejected "identity_expired"
  | none => .uncertain

namespace RewardCanister

/-- The work budget is also fenced by its deadline and by the lease. -/
def checkAt (st : RewardCanister) (attempt : RewardAttempt) (nowNanos : Nat) : Bool :=
  decide (nowNanos < attempt.deadlineNanos) && st.isCurrent attempt.lease

def charge (st : RewardCanister) (attempt : RewardAttempt) (usage : Usage) (nowNanos calls : Nat)
    (work : Nat) : Except String Usage :=
  if st.checkAt attempt nowNanos then usage.charge calls 0 0 work
  else .error rewardAttemptExpiredOrStale

def pendingRecipientCount (st : RewardCanister) : Nat :=
  (st.reward.pendingPayout.map fun payout => payout.recipients.length).getD 0

def nextIndex (st : RewardCanister) : Option Nat :=
  st.reward.pendingPayout.map PendingRewardPayout.nextRecipientIndex

end RewardCanister

inductive DriveStep where
  | returned (result : PendingDriveResult)
  | send (usage : Usage) (lastAbandonment : Option String) (payout : PendingRewardPayout)
  deriving DecidableEq

def completedDrive (lastAbandonment : Option String) : PendingDriveResult :=
  match lastAbandonment with
  | none => .completed
  | some reason => .completedWithAbandonment reason

/-- The loop of `drive_pending_bounded` up to its next transfer. Every round that goes on takes a
recipient off the plan, so the rounds never run out. -/
def driveLoop (drive : PayoutDrive) (nowNanos : Nat) :
    Nat → RewardCanister → Usage → Option String → Trapping (RewardCanister × DriveStep)
  | 0, _, _, _ => none
  | rounds + 1, st, usage, lastAbandonment =>
      match st.charge drive.attempt usage nowNanos 0 (1 + 4 * st.pendingRecipientCount) with
      | .error _ => some (st, .returned .held)
      | .ok usage =>
          match st.reward.pendingPayout with
          | none => some (st, .returned (completedDrive lastAbandonment))
          | some payout =>
              match payout.recipients[payout.nextRecipientIndex]? with
              | none => none
              | some recipient =>
                  if createdAtTimeIsValid recipient.createdAtTimeNanos drive.attempt.nowNanos then
                    match st.charge drive.attempt usage nowNanos 1 0 with
                    | .error _ => some (st, .returned .held)
                    | .ok usage => some (st, .send usage lastAbandonment payout)
                  else
                    match st.advanceExpectedPayout payout with
                    | none => none
                    | some (st, .stale) => some (st, .returned .stale)
                    | some (st, _) =>
                        driveLoop drive nowNanos rounds st usage (some "reward_identity_expired")

def RewardCanister.remaining (st : RewardCanister) : Nat :=
  (st.reward.pendingPayout.map fun payout =>
    payout.recipients.length - payout.nextRecipientIndex).getD 0

section Return

/-- `process` returned to its tick: the guard is kept for a timer, or finished. -/
def returnToTick (st : RewardCanister) (lease : Nat) (continues : Bool) :
    RewardCanister × RewardPause :=
  if continues then (st, .await (.timer lease st.installed.length))
  else (st.dropGuard lease, .done)

def adjudicated (st : RewardCanister) (attempt : RewardAttempt) (lastCompletedSweepSecs : Nat)
    (disposition : SweepDisposition) : Trapping (RewardCanister × RewardPause) :=
  (st.recordSweepDispositionIfCurrent disposition attempt.nowSecs
    (attempt.generation lastCompletedSweepSecs)).map fun st =>
      returnToTick st attempt.lease
        (st.isCurrent attempt.lease && st.reward.pendingPayout.isSome)

def recordPinnedPayoutResult (st : RewardCanister) (result : PendingDriveResult) (nowSecs : Nat) :
    Trapping RewardCanister :=
  if result.sweepDisposition = .completed then st.recordCadence nowSecs else some st

/-- The order of `Option`: nothing is below every index. -/
def indexAdvanced : Option Nat → Option Nat → Bool
  | _, none => false
  | none, some _ => true
  | some before, some after => decide (before < after)

def driveReturned (st : RewardCanister) (drive : PayoutDrive) (result : PendingDriveResult) :
    Trapping (RewardCanister × RewardPause) :=
  (recordPinnedPayoutResult st result drive.attempt.nowSecs).bind fun st =>
    match drive.caller with
    | .process =>
        some (returnToTick st drive.attempt.lease
          (decide (result = .held) && st.isCurrent drive.attempt.lease))
    | .adjudicate lastCompletedSweepSecs =>
        adjudicated st drive.attempt lastCompletedSweepSecs result.sweepDisposition
    | .continuation before =>
        some (returnToTick st drive.attempt.lease
          (decide (result = .held) && indexAdvanced before st.nextIndex &&
            st.isCurrent drive.attempt.lease))

end Return

section Drive

def afterLoop (drive : PayoutDrive) :
    RewardCanister × DriveStep → Trapping (RewardCanister × RewardPause)
  | (st, .returned result) => driveReturned st drive result
  | (st, .send usage lastAbandonment payout) =>
      some (st, .transferring drive usage lastAbandonment payout false)

def driveOn (st : RewardCanister) (drive : PayoutDrive) (nowNanos : Nat) (usage : Usage)
    (lastAbandonment : Option String) : Trapping (RewardCanister × RewardPause) :=
  (driveLoop drive nowNanos (st.remaining + 1) st usage lastAbandonment).bind (afterLoop drive)

def drivePending (st : RewardCanister) (caller : DriveCaller) (attempt : RewardAttempt)
    (nowNanos : Nat) (usage : Usage) : Trapping (RewardCanister × RewardPause) :=
  match st.reward.pendingPayout with
  | none =>
      driveReturned st ⟨caller, attempt, ⟨[]⟩, st.installed.length⟩ .completed
  | some payout =>
      driveOn st ⟨caller, attempt, payout.snsLedgerCanisterId, st.installed.length⟩ nowNanos usage
        none

def settleOutcome (st : RewardCanister) (drive : PayoutDrive) (nowNanos : Nat) (usage : Usage)
    (lastAbandonment : Option String) (expected : PendingRewardPayout) :
    AttemptOutcome → Trapping (RewardCanister × RewardPause)
  | .planRejected reason =>
      (st.clearExpectedPayout expected).bind fun cleared =>
        driveReturned cleared.1 drive
          (if cleared.2 then .completedWithAbandonment reason else .stale)
  | .accepted => advance lastAbandonment
  | .recipientRejected reason => advance (some reason)
  | .retryable | .uncertain => advance (some "reward_transfer_uncertain_after_bounded_retry")
where
  advance (lastAbandonment : Option String) : Trapping (RewardCanister × RewardPause) :=
    (st.advanceExpectedPayout expected).bind fun advanced =>
      match advanced.2 with
      | .stale => driveReturned advanced.1 drive .stale
      | _ => driveOn advanced.1 drive nowNanos usage lastAbandonment

def onTransfer (st : RewardCanister) (drive : PayoutDrive) (nowNanos : Nat) (usage : Usage)
    (lastAbandonment : Option String) (expected : PendingRewardPayout) (second : Bool)
    (reply : Option TransferReply) : Trapping (RewardCanister × RewardPause) :=
  if !st.checkAt drive.attempt nowNanos then driveReturned st drive .held
  else if st.reward.pendingPayout ≠ some expected then driveReturned st drive .stale
  else
    let outcome := attemptOutcome reply
    if !second && (outcome = .retryable || outcome = .uncertain) then
      match st.charge drive.attempt usage nowNanos 1 0 with
      | .error _ => driveReturned st drive .held
      | .ok usage => some (st, .transferring drive usage lastAbandonment expected true)
    else settleOutcome st drive nowNanos usage lastAbandonment expected outcome

end Drive

section Adjudicate

def startSweep (st : RewardCanister) (lease nowNanos : Nat) (force : Bool) :
    Trapping (RewardCanister × RewardPause) :=
  let attempt := RewardAttempt.new lease nowNanos
  let last := st.reward.lastSweepAttemptTimestampSeconds
  if st.reward.pendingPayout.isSome then drivePending st .process attempt nowNanos ⟨0, 0, 0, 0⟩
  else if sweepIsDue last attempt.nowSecs force then
    match st.charge attempt ⟨0, 0, 0, 0⟩ nowNanos 1 0 with
    | .error _ => adjudicated st attempt last .retryNextDailyTick
    | .ok usage => some (st, .await (.context attempt usage last))
  else some (returnToTick st lease false)

def onContext (st : RewardCanister) (attempt : RewardAttempt) (usage : Usage) (last nowNanos : Nat)
    (result : Option RewardContext) : Trapping (RewardCanister × RewardPause) :=
  let failed := adjudicated st attempt last .retryNextDailyTick
  if !st.checkAt attempt nowNanos then failed
  else
    match result with
    | none => failed
    | some context =>
        if rewardContextMaxAgeNanos < attempt.nowNanos - context.scanCompletedAtTimestampNanos then
          failed
        else
          match st.charge attempt usage nowNanos 1 0 with
          | .error _ => failed
          | .ok usage => some (st, .await (.balance attempt usage last context))

def onPotBalance (st : RewardCanister) (attempt : RewardAttempt) (usage : Usage)
    (last nowNanos : Nat) (context : RewardContext) (result : Option Nat) :
    Trapping (RewardCanister × RewardPause) :=
  let failed := adjudicated st attempt last .retryNextDailyTick
  if !st.checkAt attempt nowNanos then failed
  else
    match result with
    | none => failed
    | some balance =>
        match st.charge attempt usage nowNanos 1 0 with
        | .error _ => failed
        | .ok usage => some (st, .await (.fee attempt usage last context balance))

def onPotFee (st : RewardCanister) (attempt : RewardAttempt) (last nowNanos : Nat)
    (context : RewardContext) (balance : Nat) (result : Option Nat) :
    Trapping (RewardCanister × RewardPause) :=
  if !st.checkAt attempt nowNanos then adjudicated st attempt last .retryNextDailyTick
  else
    match result with
    | none => adjudicated st attempt last .retryNextDailyTick
    | some fee =>
        if (terminalRewardPotHoldReason balance fee).isSome then
          adjudicated st attempt last .completed
        else some (st, .await (.search attempt last context balance fee))

def installAndDrive (st : RewardCanister) (attempt : RewardAttempt) (usage : Usage)
    (last nowNanos : Nat) (pending : PendingRewardPayout) :
    Trapping (RewardCanister × RewardPause) :=
  (st.installPendingIfCurrent (attempt.generation last) pending).bind fun installed =>
    if installed.2 then drivePending installed.1 (.adjudicate last) attempt nowNanos usage
    else adjudicated installed.1 attempt last .retryNextDailyTick

def onSearch (st : RewardCanister) (attempt : RewardAttempt) (last nowNanos : Nat)
    (context : RewardContext) (balance fee : Nat) (result : BatchSearch) :
    Trapping (RewardCanister × RewardPause) :=
  let failed := adjudicated st attempt last .retryNextDailyTick
  if !st.checkAt attempt nowNanos then failed
  else
    match result with
    | .failed => failed
    | .none => adjudicated st attempt last .completed
    | .found commitmentTxId eligible usage =>
        match sumEligibleWeight eligible with
        | .error _ => failed
        | .ok _ =>
            match proportionalRewardAllocations balance fee eligible with
            | .error _ => adjudicated st attempt last .completed
            | .ok allocations =>
                match buildPendingPayout context.snsLedgerCanisterId commitmentTxId fee
                    allocations attempt.nowNanos with
                | .error _ => failed
                | .ok pending => installAndDrive st attempt usage last nowNanos pending

def onTimer (st : RewardCanister) (lease nowNanos : Nat) :
    Trapping (RewardCanister × RewardPause) :=
  if !st.isCurrent lease || decide (lease ≤ nowNanos / nanosPerSecond) then
    some (returnToTick st lease false)
  else
    drivePending st (.continuation st.nextIndex) (RewardAttempt.new lease nowNanos) nowNanos
      ⟨0, 0, 0, 0⟩

end Adjudicate

def beginRewardTick (st : RewardCanister) (nowNanos : Nat) : RewardCanister × RewardPause :=
  match acquireLease (nowNanos / nanosPerSecond) mainTickLeaseSeconds st.mainLockStateTs with
  | none => (st, .done)
  | some lease => ({ st with mainLockStateTs := some lease }, .await (.main lease))

def resumeReward (st : RewardCanister) (nowNanos : Nat) :
    RewardKont → RewardReply → Option (Trapping (RewardCanister × RewardPause))
  | .main lease, .ended => some (some (returnToTick st lease false))
  | .main lease, .rewards force => some (startSweep st lease nowNanos force)
  | .context attempt usage last, .context result =>
      some (onContext st attempt usage last nowNanos result)
  | .balance attempt usage last context, .amount result =>
      some (onPotBalance st attempt usage last nowNanos context result)
  | .fee attempt _ last context balance, .amount result =>
      some (onPotFee st attempt last nowNanos context balance result)
  | .search attempt last context balance fee, .search result =>
      some (onSearch st attempt last nowNanos context balance fee result)
  | .transfer drive usage lastAbandonment expected second _, .transfer reply =>
      some (onTransfer st drive nowNanos usage lastAbandonment expected second reply)
  | .timer lease _, .resumed => some (onTimer st lease nowNanos)
  | _, _ => none

/-! The reward stage with its overlapping drivers and the ledgers that they pay from. -/

/-- The installed payout, counted from one, and the recipient that a dispatch was made for. -/
structure RewardTag where
  payout : Nat
  recipient : Nat
  deriving DecidableEq, Repr

abbrev RewardLog := CallLog RewardTag (Principal × TransferArg) TransferError

structure RewardSystem where
  state : RewardCanister
  tasks : Pool RewardKont
  ledger : RewardLog
  traps : Nat
  clock : Nat

inductive RewardEvent where
  | begin (id nowNanos : Nat)
  | resume (id : Nat) (reply : RewardReply) (nowNanos : Nat)
  -- The continuation never runs again; after a trap its cleanup still drops the guard.
  | abandon (id : Nat) (cleanup : Bool)
  | ledger (call : Nat) (outcome : TransferOutcome)
  -- The reward state is stable; the lease and the timers live on the heap.
  | upgrade
  deriving DecidableEq

def RewardKont.lease : RewardKont → Nat
  | .main lease | .timer lease _ => lease
  | .context attempt _ _ | .balance attempt _ _ _ | .fee attempt _ _ _ _
  | .search attempt _ _ _ _ => attempt.lease
  | .transfer drive _ _ _ _ _ => drive.attempt.lease

def rewardCall (ledger : Principal) (payout : PendingRewardPayout) : Principal × TransferArg :=
  (ledger, rewardTransferArg
    ((payout.recipients[payout.nextRecipientIndex]?).getD ⟨⟨⟨[]⟩, none⟩, 0, [], 0⟩) payout.fee)

def settleReward (sys : RewardSystem) (id nowNanos : Nat) :
    Trapping (RewardCanister × RewardPause) → RewardSystem
  | none => { sys with
      tasks := sys.tasks.put id none, traps := sys.traps + 1, clock := nowNanos }
  | some (st, .done) => { sys with
      state := st, tasks := sys.tasks.put id none, clock := nowNanos }
  | some (st, .await kont) => { sys with
      state := st, tasks := sys.tasks.put id (some kont), clock := nowNanos }
  | some (st, .transferring drive usage lastAbandonment expected second) => { sys with
      state := st
      tasks := sys.tasks.put id
        (some (.transfer drive usage lastAbandonment expected second sys.ledger.length))
      ledger := sys.ledger.dispatch ⟨drive.number, expected.nextRecipientIndex⟩
        (rewardCall drive.ledger expected)
      clock := nowNanos }

/-- A transfer's reply is what the ledger answered, unless the call itself failed. -/
def rewardRepliesTo (sys : RewardSystem) : RewardKont → RewardReply → Bool
  | .transfer _ _ _ _ _ call, .transfer (some reply) =>
      ((sys.ledger.outcomeOf call).map transferReply).any fun answer => decide (answer = reply)
  | _, _ => true

def stepReward (sys : RewardSystem) : RewardEvent → Option RewardSystem
  | .begin id now =>
      if clockAdmits sys.clock now && (sys.tasks id).isNone then
        some (settleReward sys id now (some (beginRewardTick sys.state now)))
      else none
  | .resume id reply now =>
      match sys.tasks id with
      | none => none
      | some kont =>
          if clockAdmits sys.clock now && rewardRepliesTo sys kont reply then
            (resumeReward sys.state now kont reply).map (settleReward sys id now)
          else none
  | .abandon id cleanup =>
      match sys.tasks id with
      | none => none
      | some kont =>
          some { sys with
            state := if cleanup then sys.state.dropGuard kont.lease else sys.state
            tasks := sys.tasks.put id none }
  | .ledger call outcome =>
      if ledgerAnswer outcome then
        (sys.ledger.answer call outcome).map fun ledger => { sys with ledger := ledger }
      else none
  | .upgrade =>
      some { sys with
        state := { sys.state with mainLockStateTs := some 0 }, tasks := Pool.empty }

def rewardMachine : Machine RewardSystem RewardEvent where
  init := fun sys => ∃ nowNanos, sys = ⟨⟨some 0, {}, []⟩, Pool.empty, [], 0, nowNanos⟩
  step := stepReward

end JupiterSuite.Relay
