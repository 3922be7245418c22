import JupiterSuite.Historian.CommitmentIndexer

/-! Scheduled runs and pokes of the commitment indexer under its fenced lease, with upgrades and
new transactions at any time. A scheduled run may begin whenever its main tick gets there. -/

namespace JupiterSuite.Historian

open Base Memo

def endowmentPokeMaxPages : Nat := 1

def minMinTxE8s : Nat := 10000000

def maxCommitmentEntriesPerCanisterHardCap : Nat := 250

def maxIndexPagesPerTickHardCap : Nat := 100

/-- The principal library's text decoding and the account identifiers. -/
structure CommitmentEnv where
  fromText : Text → Option Principal
  identifierText : Principal → List UInt8 → String

namespace CommitmentEnv

variable (env : CommitmentEnv)

def accountIdentifierTextForAccount (account : Account) : String :=
  env.identifierText account.owner (account.subaccount.getD (List.replicate 32 0))

def startScheduled (st : CommitmentState) (tickSecs clockSecs : Nat) :
    CommitmentState × CommitmentPause :=
  match st.lock.acquire .scheduled clockSecs with
  | none => (st, .done)
  | some (lock, task) =>
      processCommitmentIndexingBounded env.fromText env.identifierText clockSecs
        { st with lock := lock } task .scheduled tickSecs st.config.maxIndexPagesPerTick

inductive PokeAdmission where
  | available
  | busy
  | rateLimited
  deriving DecidableEq, Repr

def pokeAdmission (st : CommitmentState) (nowSecs : Nat) : PokeAdmission :=
  if nowSecs < st.endowmentRefreshNextAllowedTs then .rateLimited
  else if nowSecs < st.lock.expiresAtTs.getD 0 then .busy
  else .available

def handleEndowmentPoke (st : CommitmentState) (nowSecs : Nat) :
    CommitmentState × CommitmentPause :=
  if pokeAdmission st nowSecs ≠ .available then (st, .done)
  else
    match st.lock.acquire .endowmentRefresh nowSecs with
    | none => (st, .done)
    | some (lock, task) =>
        processCommitmentIndexingBounded env.fromText env.identifierText nowSecs
          { st with lock := lock } task .endowmentRefresh nowSecs endowmentPokeMaxPages

end CommitmentEnv

structure CommitmentUpgradeArgs where
  stakingAccount : Option Account
  minTxE8s : Option Nat
  maxCommitmentEntriesPerCanister : Option Nat
  maxIndexPagesPerTick : Option Nat
  clearCommitmentIndexFault : Bool
  deriving DecidableEq, Repr

def sameAccount (left right : Account) : Bool :=
  decide (left.owner = right.owner) &&
    decide (left.subaccount.getD (List.replicate 32 0) =
      right.subaccount.getD (List.replicate 32 0))

/-- The restored histories are not loaded, so that only the root fields can tell. The routes of
the output and the rewards account have an accounting of their own. -/
def accountingStarted (st : CommitmentState) (routesStarted : Bool) : Bool :=
  decide (0 < st.lastIndexRunTs.getD 0) || st.lastIndexedStakingTxId.isSome ||
    st.oldestIndexedStakingTxId.isSome || st.activeStakingCatchUp.isSome ||
    decide (0 < st.qualifyingCommitmentCount) || decide (0 < st.commitmentIndexRevision) ||
    routesStarted

def applyUpgradeArgs (st : CommitmentState) (args : CommitmentUpgradeArgs)
    (routesStarted : Bool) : Option CommitmentState :=
  let config := { st.config with
    stakingAccount := args.stakingAccount.getD st.config.stakingAccount
    minTxE8s := args.minTxE8s.getD st.config.minTxE8s
    maxCommitmentEntriesPerCanister :=
      (args.maxCommitmentEntriesPerCanister.getD
        st.config.maxCommitmentEntriesPerCanister).max 1 |>.min
          maxCommitmentEntriesPerCanisterHardCap
    maxIndexPagesPerTick :=
      (args.maxIndexPagesPerTick.getD st.config.maxIndexPagesPerTick).max 1 |>.min
        maxIndexPagesPerTickHardCap }
  if accountingStarted st routesStarted &&
      !(args.stakingAccount.all (sameAccount · st.config.stakingAccount) &&
        args.minTxE8s.all (decide <| · = st.config.minTxE8s)) then none
  else if config.stakingAccount.owner = anonymous ∨ config.minTxE8s < minMinTxE8s then none
  else some { st with
    config := config
    stakingBackfillComplete := st.stakingBackfillComplete.or (some false)
    commitmentIndexFault :=
      if args.clearCommitmentIndexFault then none else st.commitmentIndexFault
    lock := ⟨some 0, satAdd u64Max st.lock.generation 1, none⟩ }

structure CommitmentSystem where
  state : CommitmentState
  tasks : Pool CommitmentKont
  clock : Nat
  history : String → List IndexTransactionWithId
  asked : Nat → Nat

/-- A page is served when `unseen` of the account's present transactions had not arrived. -/
inductive CommitmentReply where
  | failed
  | page (unseen : Nat)
  deriving DecidableEq, Repr

inductive CommitmentEvent where
  | scheduled (id tickSecs nowNanos : Nat)
  | poke (id nowNanos : Nat)
  | resume (id : Nat) (reply : CommitmentReply) (nowNanos : Nat)
  -- The continuation never runs again; after a trap its cleanup still drops the guard.
  | abandon (id : Nat) (cleanup : Bool)
  | record (accountIdentifier : String) (tx : IndexTransactionWithId)
  | upgrade (args : CommitmentUpgradeArgs) (routesStarted : Bool) (nowNanos : Nat)
  deriving DecidableEq, Repr

def servedStaking (sys : CommitmentSystem) (kont : CommitmentKont) (unseen : Nat) :
    List IndexTransactionWithId :=
  (sys.history kont.work.stakingId).drop unseen

def commitmentReplyAdmits (sys : CommitmentSystem) (id : Nat) (kont : CommitmentKont) :
    CommitmentReply → Bool
  | .page unseen => decide (sys.asked id ≤ (servedStaking sys kont unseen).length)
  | .failed => true

def commitmentReply (sys : CommitmentSystem) (kont : CommitmentKont) :
    CommitmentReply → Option (List IndexTransactionWithId)
  | .page unseen =>
      some (pageOf IndexTransactionWithId.id (servedStaking sys kont unseen) kont.start pageSize)
  | .failed => none

def settleCommitments (sys : CommitmentSystem) (id nowNanos : Nat) :
    CommitmentState × CommitmentPause → CommitmentSystem
  | (st, .done) => { sys with
      state := st, tasks := sys.tasks.put id none, clock := nowNanos }
  | (st, .await kont) => { sys with
      state := st
      tasks := sys.tasks.put id (some kont)
      clock := nowNanos
      asked := Function.update sys.asked id (sys.history kont.work.stakingId).length }

def commitmentClockAdmits (clock nowNanos : Nat) : Bool :=
  decide (clock ≤ nowNanos) && decide (nowNanos ≤ u64Max)

def stepCommitments (env : CommitmentEnv) (sys : CommitmentSystem) :
    CommitmentEvent → Option CommitmentSystem
  | .scheduled id tickSecs now =>
      if commitmentClockAdmits sys.clock now && (sys.tasks id).isNone then
        some (settleCommitments sys id now
          (env.startScheduled sys.state tickSecs (now / nanosPerSecond)))
      else none
  | .poke id now =>
      if commitmentClockAdmits sys.clock now && (sys.tasks id).isNone then
        some (settleCommitments sys id now
          (env.handleEndowmentPoke sys.state (now / nanosPerSecond)))
      else none
  | .resume id reply now =>
      match sys.tasks id with
      | none => none
      | some kont =>
          if commitmentClockAdmits sys.clock now && commitmentReplyAdmits sys id kont reply then
            some (settleCommitments sys id now (resumeCommitmentIndexing env.fromText
              (now / nanosPerSecond) sys.state kont (commitmentReply sys kont reply)))
          else none
  | .abandon id cleanup =>
      match sys.tasks id with
      | none => none
      | some kont => some { sys with
          state :=
            if cleanup then
              { sys.state with lock := sys.state.lock.dropGuard kont.work.task.guard }
            else sys.state
          tasks := sys.tasks.put id none }
  | .record accountIdentifier tx =>
      if (sys.history accountIdentifier).all fun older => decide (older.id < tx.id) then
        some { sys with
          history := Function.update sys.history accountIdentifier
            (tx :: sys.history accountIdentifier) }
      else none
  | .upgrade args routesStarted now =>
      if commitmentClockAdmits sys.clock now then
        (applyUpgradeArgs sys.state args routesStarted).map fun st =>
          { sys with state := st, tasks := Pool.empty, clock := now }
      else none

/-- An account may have a history before the historian is installed. -/
def commitmentMachine (env : CommitmentEnv) : Machine CommitmentSystem CommitmentEvent where
  init := fun sys => ∃ config nowNanos history asked,
    (∀ accountIdentifier, NewestFirst IndexTransactionWithId.id (history accountIdentifier)) ∧
      sys = ⟨CommitmentState.new config, Pool.empty, nowNanos, history, asked⟩
  step := stepCommitments env

end JupiterSuite.Historian
