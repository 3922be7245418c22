import JupiterSuite.Relay.JobDriver
import JupiterSuite.Relay.SplitterSystem

/-! The relay's funding pipeline with its overlapping drivers and the ledger they call. -/

namespace JupiterSuite.Relay

open Base

structure JobTag where
  job : Nat
  number : Nat
  deriving DecidableEq, Repr

structure JobSystem where
  state : RelayState
  tasks : Pool JobKont
  ledger : LedgerLog JobTag
  /-- The transfer limit of every drive begun so far, in order; no code reads it. -/
  drives : List (Option Nat)
  clock : Nat

inductive JobEvent where
  | begin (id nowNanos : Nat) (poke : Bool)
  | resume (id : Nat) (reply : JobReply) (nowNanos : Nat)
  -- The continuation never runs again; after a trap its cleanup still drops the guard.
  | abandon (id : Nat) (cleanup : Bool)
  | ledger (call : Nat) (outcome : TransferOutcome)
  -- The relay job lives on the heap, which an upgrade starts anew.
  | upgrade (config : RelayConfig)
  deriving DecidableEq, Repr

def JobKont.lease : JobKont → Nat
  | .stages lease _ _ | .rewards lease => lease
  | .probe start | .balance start _ | .fee start _ _ | .conversion start _ _ _ => start.lease
  | .loop tick | .governance tick _ _ _ _ | .transfer tick _ _ _ _ _ | .notify tick _ _ _ _ =>
      tick.lease

variable (relayId : Principal)

def RelayState.currentTag (st : RelayState) : JobTag :=
  match st.activeJob with
  | none => ⟨st.past.length, 0⟩
  | some job => ⟨job.serial, job.staged.length - 1⟩

def settleJob (sys : JobSystem) (id nowNanos : Nat) : RelayState × JobPause → JobSystem
  | (st, .done) => { sys with
      state := st, tasks := sys.tasks.put id none, clock := nowNanos }
  | (st, .await kont) => { sys with
      state := st, tasks := sys.tasks.put id (some kont), clock := nowNanos }
  | (st, .drive lease now poke) => { sys with
      state := st
      tasks := sys.tasks.put id (some
        (.loop ⟨lease, now, poke, sys.drives.length, st.config.maxTransfersPerTick, 0⟩))
      drives := sys.drives ++ [st.config.maxTransfersPerTick]
      clock := nowNanos }
  | (st, .transferring tick jobId feeE8s staged second) => { sys with
      state := st
      tasks := sys.tasks.put id
        (some (.transfer tick jobId feeE8s staged second sys.ledger.length))
      ledger := sys.ledger.dispatch st.currentTag
        (pendingTransferArg st.config.cmcCanisterId feeE8s staged)
      clock := nowNanos }

/-- One snapshot, a `nat128`, for each target that was probed successfully. -/
def isProbe (effective : List Principal) (snapshots : List (Principal × Nat)) : Bool :=
  decide (snapshots.map Prod.fst).Nodup &&
    snapshots.all fun entry => decide (entry.1 ∈ effective) && decide (entry.2 ≤ u128Max)

/-- Amounts are decoded as `nat64`; a transfer's reply is what the ledger answered. -/
def jobRepliesTo (sys : JobSystem) : JobKont → JobReply → Bool
  | .transfer _ _ _ _ _ call, .transfer reply => delivered sys.ledger call reply
  | .probe _, .probed snapshots _ =>
      isProbe (effectiveManagedCanisters relayId sys.state.config) snapshots
  | _, .amount (some amount) => decide (amount ≤ u64Max)
  | _, _ => true

def RelayState.upgraded (st : RelayState) (config : RelayConfig) : RelayState :=
  { RelayState.new config with
    past := (st.activeJob.map fun job => ⟨job, false⟩).toList ++ st.past }

def stepJob (sys : JobSystem) : JobEvent → Option JobSystem
  | .begin id now poke =>
      if clockAdmits sys.clock now && (sys.tasks id).isNone then
        some (settleJob sys id now (beginTick sys.state now poke))
      else none
  | .resume id reply now =>
      match sys.tasks id with
      | none => none
      | some kont =>
          if clockAdmits sys.clock now && jobRepliesTo relayId sys kont reply then
            (resumeJob relayId sys.state now kont reply).map (settleJob sys id now)
          else none
  | .abandon id cleanup =>
      match sys.tasks id with
      | none => none
      | some kont =>
          some { sys with
            state := if cleanup then sys.state.dropGuard kont.lease else sys.state
            tasks := sys.tasks.put id none }
  | .ledger call outcome =>
      if ledgerAnswer outcome then
        (sys.ledger.answer call outcome).map fun ledger => { sys with ledger := ledger }
      else none
  | .upgrade config =>
      some { sys with state := sys.state.upgraded config, tasks := Pool.empty }

def jobMachine : Machine JobSystem JobEvent where
  init := fun sys => ∃ config nowNanos,
    sys = ⟨RelayState.new config, Pool.empty, [], [], nowNanos⟩
  step := stepJob relayId

end JupiterSuite.Relay
