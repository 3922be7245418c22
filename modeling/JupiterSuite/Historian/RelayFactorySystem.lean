import JupiterSuite.Historian.RelayFactory
import JupiterSuite.Base.Machine
import JupiterSuite.Base.Lease

/-! Concurrent notifications of the relay factory, the ledger they pay through and the canisters
they create, with upgrades at any time. -/

namespace JupiterSuite.Historian

open Base Memo

inductive FactoryTransfer where
  | conversion
  | funding
  deriving DecidableEq, Repr

structure FactoryTag where
  key : RelaySetupKey
  transfer : FactoryTransfer
  deriving DecidableEq, Repr

structure FactorySystem where
  state : FactoryState
  tasks : Pool FactoryKont
  ledger : LedgerLog FactoryTag
  /-- The `create_canister` calls that were dispatched; no code reads them. -/
  creates : List RelaySetupKey
  clock : Nat

structure FactoryUpgradeArgs where
  ledgerCanisterId : Option Principal
  indexCanisterId : Option Principal
  cmcCanisterId : Option Principal
  relayFactoryEnabled : Option Bool
  relaySetupMinE8s : Option Nat
  relayInitialCycles : Option Nat
  relayCycleSafetyMarginE8s : Option Nat
  relayMinSubaccountOneSeedE8s : Option Nat
  canonicalRelayCanisterId : Option (Option Principal)
  canonicalRelayTargets : Option (List Principal)
  deriving DecidableEq, Repr

namespace FactoryUpgradeArgs

variable (args : FactoryUpgradeArgs)

def keepsAccounting (config : FactoryConfig) : Bool :=
  args.ledgerCanisterId.all (decide <| · = config.ledgerCanisterId) &&
    args.indexCanisterId.all (decide <| · = config.indexCanisterId)

def keepsPaidCreation (config : FactoryConfig) : Bool :=
  args.ledgerCanisterId.all (decide <| · = config.ledgerCanisterId) &&
    args.cmcCanisterId.all (decide <| some · = config.cmcCanisterId) &&
    args.relayInitialCycles.all (decide <| · = config.relayInitialCycles) &&
    args.relayCycleSafetyMarginE8s.all (decide <| · = config.relayCycleSafetyMarginE8s) &&
    args.relayMinSubaccountOneSeedE8s.all (decide <| · = config.relayMinSubaccountOneSeedE8s)

def apply (config : FactoryConfig) : FactoryConfig where
  ledgerCanisterId := args.ledgerCanisterId.getD config.ledgerCanisterId
  indexCanisterId := args.indexCanisterId.getD config.indexCanisterId
  cmcCanisterId := args.cmcCanisterId.or config.cmcCanisterId
  relayFactoryEnabled := args.relayFactoryEnabled.getD config.relayFactoryEnabled
  relaySetupMinE8s := args.relaySetupMinE8s.getD config.relaySetupMinE8s
  relayInitialCycles := args.relayInitialCycles.getD config.relayInitialCycles
  relayCycleSafetyMarginE8s :=
    args.relayCycleSafetyMarginE8s.getD config.relayCycleSafetyMarginE8s
  relayMinSubaccountOneSeedE8s :=
    args.relayMinSubaccountOneSeedE8s.getD config.relayMinSubaccountOneSeedE8s
  canonicalRelayCanisterId := args.canonicalRelayCanisterId.getD config.canonicalRelayCanisterId
  canonicalRelayTargets := args.canonicalRelayTargets.getD config.canonicalRelayTargets

end FactoryUpgradeArgs

def validateFactoryConfig (config : FactoryConfig) (relayWasm : Option (List UInt8)) : Bool :=
  decide (config.ledgerCanisterId ≠ anonymous) && decide (config.indexCanisterId ≠ anonymous) &&
    config.cmcCanisterId.all (decide <| · ≠ anonymous) &&
    (validateCanonicalRelayConfig config).toBool &&
    (!config.relayFactoryEnabled || relayWasm.isSome)

/-- The new code may embed another Wasm. A failed assertion traps, and the upgrade does not take
place; the accounting has started once an index has read anything. -/
def upgradeFactory (st : FactoryState) (args : FactoryUpgradeArgs) (accountingStarted : Bool)
    (relayWasm : Option (List UInt8)) : Option FactoryState :=
  st.relayCreatingKeys.bind fun creating =>
    let config := args.apply st.config
    if accountingStarted && !args.keepsAccounting st.config then none
    else if !creating.isEmpty && !args.keepsPaidCreation st.config then none
    else if !validateFactoryConfig config relayWasm then none
    else
      let st := { st with
        config := config
        relayWasm := relayWasm
        limiter := .new }
      st.reconcileInterruptedCreatingEntriesAfterUpgrade

inductive FactoryEvent where
  | notify (id : Nat) (args : RelaySetupArgs) (nowNanos : Nat)
  | resume (id : Nat) (reply : FactoryReply) (nowNanos : Nat)
  -- The continuation never runs again; after a trap its cleanup still drops the guard.
  | abandon (id : Nat) (cleanup : Bool)
  | ledger (call : Nat) (outcome : TransferOutcome)
  | upgrade (args : FactoryUpgradeArgs) (accountingStarted : Bool)
      (relayWasm : Option (List UInt8)) (nowNanos : Nat)

/-- Amounts are decoded as `nat64`, cycles as `nat128`; a transfer's reply is what the ledger
answered, unless the call itself failed. -/
def factoryRepliesTo (sys : FactorySystem) : FactoryKont → FactoryReply → Bool
  | .cmcTransfer _ call, .transfer (.ok reply) => delivered sys.ledger call (some reply)
  | .relayFunding _ call, .transfer (.ok reply) => delivered sys.ledger call (some reply)
  | _, .amount (.ok value) => decide (value ≤ u64Max)
  | _, .minted (.ok cycles) => decide (cycles ≤ u128Max)
  | _, _ => true

def settleFactory (sys : FactorySystem) (id nowNanos : Nat) : FactoryStep → Option FactorySystem
  | (st, .done _) => some { sys with
      state := st, tasks := sys.tasks.put id none, clock := nowNanos }
  | (st, .await kont) => some { sys with
      state := st, tasks := sys.tasks.put id (some kont), clock := nowNanos }
  | (st, .convert work arg) => some { sys with
      state := st
      tasks := sys.tasks.put id (some (.cmcTransfer work sys.ledger.length))
      ledger := sys.ledger.dispatch ⟨work.key, .conversion⟩ arg
      clock := nowNanos }
  | (st, .fund work arg) => some { sys with
      state := st
      tasks := sys.tasks.put id (some (.relayFunding work sys.ledger.length))
      ledger := sys.ledger.dispatch ⟨work.key, .funding⟩ arg
      clock := nowNanos }
  | (st, .create work _) => some { sys with
      state := st
      tasks := sys.tasks.put id (some (.createCanister work))
      creates := sys.creates ++ [work.key]
      clock := nowNanos }
  | (_, .trap _) => none

def factoryClockAdmits (clock nowNanos : Nat) : Bool :=
  decide (clock ≤ nowNanos) && decide (nowNanos ≤ u64Max)

variable (env : FactoryEnv)

def stepFactory (sys : FactorySystem) : FactoryEvent → Option FactorySystem
  | .notify id args now =>
      if factoryClockAdmits sys.clock now && (sys.tasks id).isNone then
        settleFactory sys id now (notifyRelayConfiguration env sys.state now args)
      else none
  | .resume id reply now =>
      match sys.tasks id with
      | none => none
      | some kont =>
          if factoryClockAdmits sys.clock now && factoryRepliesTo sys kont reply then
            (resumeFactory env sys.state now kont reply).bind (settleFactory sys id now)
          else none
  | .abandon id cleanup =>
      match sys.tasks id with
      | none => none
      | some kont => some { sys with
          state :=
            if cleanup then { sys.state with
              limiter := sys.state.limiter.dropTicket kont.work.ticket }
            else sys.state
          tasks := sys.tasks.put id none }
  | .ledger call outcome =>
      if ledgerAnswer outcome then
        (sys.ledger.answer call outcome).map fun ledger => { sys with ledger := ledger }
      else none
  | .upgrade args accountingStarted relayWasm now =>
      if factoryClockAdmits sys.clock now then
        (upgradeFactory sys.state args accountingStarted relayWasm).map fun st =>
          { sys with state := st, tasks := Pool.empty, clock := now }
      else none

def factoryMachine : Machine FactorySystem FactoryEvent where
  init := fun sys => ∃ config relayWasm nowNanos,
    validateFactoryConfig config relayWasm = true ∧
      sys = ⟨FactoryState.new config relayWasm, Pool.empty, [], [], nowNanos⟩
  step := stepFactory env

end JupiterSuite.Historian
