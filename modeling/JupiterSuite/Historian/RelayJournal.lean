import JupiterSuite.Historian.RelayAdmission

/-! What the relay factory journals of each paid setup, with the index of the setups in progress.
An access that fails its assertion traps. -/

namespace JupiterSuite.Historian

open Base Memo

def maxConcurrentFundedRelaySetups : Nat := 4

def topUpCanisterMemo : Nat := 1347768404

def relaySubaccountOne : List UInt8 := List.replicate 31 0 ++ [1]

def maxDiagnosticBytes : Nat := 1024

inductive RelayCreationPhase where
  | reserved
  | probingTargets
  | cmcTransferPrepared
  | cmcTransferAccepted
  | cmcNotifySucceeded
  | createDispatched
  | childCreated
  | codeInstalled
  | relayFundingPrepared
  | relayFunded
  | finalizationAttempted
  deriving DecidableEq, Repr

structure RelayTransferRecord where
  amountE8s : Nat
  feeE8s : Nat
  createdAtTimeNanos : Nat
  blockIndex : Option Nat
  deriving DecidableEq, Repr

/-- With the text that the `Debug` formatter produces. -/
inductive NotifyTopUpError where
  | retryable (debug : String)
  | terminal (debug : String)
  | transport (debug : String)
  | decode (debug : String)
  | convert (debug : String)
  deriving DecidableEq, Repr

def NotifyTopUpError.debug : NotifyTopUpError → String
  | .retryable debug | .terminal debug | .transport debug | .decode debug | .convert debug =>
      debug

def NotifyTopUpError.isPending : NotifyTopUpError → Bool
  | .retryable _ | .transport _ => true
  | _ => false

inductive ActivationPrerequisite where
  | relayId
  | cmcTransfer
  | mintedCycles
  | relayFunding
  deriving DecidableEq, Repr

inductive AuditFinding where
  | notRunning
  | moduleHash
  | logsNotPublic
  | statusNotPublic
  | controllers
  deriving DecidableEq, Repr

/-- The texts of `last_error`, by the branch that writes them. -/
inductive FactoryDiagnostic where
  | upgradeInterrupted
  | conversionAmbiguous (error : String)
  | missingAcceptedBlock
  | notificationPending (error : NotifyTopUpError)
  | notificationFailed (error : NotifyTopUpError)
  | mintedBelow (minted initialCycles : Nat)
  | inconsistentPaidCreationEvidence
  | childNotReturned (error : String)
  | moduleNotInstalled (installError : String)
  | moduleNotReconciled (installError statusError : String)
  | balanceUnread (error : String)
  | feeUnread (error : String)
  | fundingPricing (message : String)
  | belowMinimumFunding
  | belowFee
  | fundingRejected (error : TransferError)
  | fundingAmbiguous (error : String)
  | activationIncomplete (missing : ActivationPrerequisite)
  | relayIdChanged
  | moduleHashUnavailable
  | auditUnread (phase : RelayCreationPhase) (error : String)
  | finalAuditUnread (updateError : Option String) (auditError : String)
  | notFinalized (updateError : Option String)
  | auditRejected (updateError : Option String) (finding : AuditFinding)
  deriving DecidableEq, Repr

structure RelayCreationProgress where
  phase : RelayCreationPhase
  cmcTransfer : Option RelayTransferRecord
  cyclesMinted : Option Nat
  createDispatchedAtTs : Option Nat
  relayCanisterId : Option Principal
  relayFundingTransfer : Option RelayTransferRecord
  lastError : Option FactoryDiagnostic
  deriving DecidableEq, Repr

def RelayCreationProgress.new : RelayCreationProgress :=
  ⟨.reserved, none, none, none, none, none, none⟩

inductive RelaySetupEntry where
  | creating (progress : RelayCreationProgress)
  | active (relayCanisterId : Principal)
  | manualRecoveryRequired (progress : RelayCreationProgress)
  deriving DecidableEq, Repr

inductive RelaySetupNotifyResult where
  | belowMinimum (balanceE8s requiredE8s shortfallE8s : Nat)
  | belowCurrentRequirement (balanceE8s requiredE8s shortfallE8s : Nat)
  | busy
  | inProgress (phase : RelayCreationPhase) (relayCanisterId : Option Principal)
  | active (relayCanisterId : Principal)
  | failedPreSpend (message : String)
  | manualRecoveryRequired (phase : RelayCreationPhase) (relayCanisterId : Option Principal)
      (message : String)
  deriving DecidableEq, Repr

section Texts

def takeUtf8 : Nat → List Char → List Char
  | _, [] => []
  | room, char :: rest =>
      if char.utf8Size ≤ room then char :: takeUtf8 (room - char.utf8Size) rest else []

/-- Cut at the last character boundary within the limit. -/
def boundedMessage (message : String) : String :=
  if message.utf8ByteSize ≤ maxDiagnosticBytes then message
  else String.ofList (takeUtf8 maxDiagnosticBytes message.toList)

def ActivationPrerequisite.text : ActivationPrerequisite → String
  | .relayId => "activation prerequisites are incomplete: Relay ID is missing"
  | .cmcTransfer => "activation prerequisites are incomplete: accepted CMC transfer is missing"
  | .mintedCycles => "activation prerequisites are incomplete: minted cycles evidence is missing"
  | .relayFunding =>
      "activation prerequisites are incomplete: accepted Relay-funding transfer is missing"

def AuditFinding.text : AuditFinding → String
  | .notRunning => "Relay is not running during finalization audit"
  | .moduleHash => "Relay module hash does not match the approved module"
  | .logsNotPublic => "Relay logs are not public during finalization audit"
  | .statusNotPublic => "Relay status is not public during finalization audit"
  | .controllers => "Relay controllers are neither exactly [Historian] nor exactly empty"

def updateErrorText (updateError : Option String) : String :=
  updateError.elim "" fun error => s!"update_settings reported {error}; "

def FactoryDiagnostic.text (env : FactoryEnv) : FactoryDiagnostic → String
  | .upgradeInterrupted => "HistorianUpgradeInterrupted"
  | .conversionAmbiguous error => s!"CMC ledger transfer outcome is ambiguous: {error}"
  | .missingAcceptedBlock => "missing accepted CMC block"
  | .notificationPending error => s!"CMC notification pending: {error.debug}"
  | .notificationFailed error => s!"CMC notification failed: {error.debug}"
  | .mintedBelow minted initialCycles =>
      s!"CMC minted {minted} cycles, below the configured {initialCycles} cycles " ++
        "required for child creation"
  | .inconsistentPaidCreationEvidence => "inconsistent paid creation evidence"
  | .childNotReturned error =>
      s!"create_canister was dispatched but did not return a child ID: {error}"
  | .moduleNotInstalled installError =>
      s!"install_code failed and the approved module is not installed: {installError}"
  | .moduleNotReconciled installError statusError =>
      s!"install_code failed ({installError}) and module status could not be reconciled " ++
        s!"({statusError})"
  | .balanceUnread error => s!"cannot read setup balance before Relay funding: {error}"
  | .feeUnread error => s!"cannot read ledger fee before Relay funding: {error}"
  | .fundingPricing message => message
  | .belowMinimumFunding => "post-conversion balance is below the promised minimum Relay funding"
  | .belowFee => "post-conversion balance cannot cover the current ledger fee"
  | .fundingRejected error =>
      s!"Relay funding transfer was rejected: {env.debugTransferError error}"
  | .fundingAmbiguous error => s!"Relay funding transfer outcome is ambiguous: {error}"
  | .activationIncomplete missing => missing.text
  | .relayIdChanged => "activation prerequisites are inconsistent: Relay ID changed"
  | .moduleHashUnavailable =>
      "approved Relay module hash is unavailable; finalization cannot be audited safely"
  | .auditUnread phase error =>
      (if phase = .relayFunded then "pre-finalization" else "finalization reconciliation") ++
        s!" management audit could not be completed: {error}; " ++
        "explicit finalization resumption is safe"
  | .finalAuditUnread updateError auditError => updateErrorText updateError ++
      s!"post-finalization management audit could not be completed: {auditError}; " ++
        "explicit finalization resumption is safe"
  | .notFinalized updateError => updateErrorText updateError ++
      "Relay remains in the exact safe Historian-controlled pre-finalization state; " ++
        "explicit finalization resumption may retry the settings update"
  | .auditRejected updateError finding => updateErrorText updateError ++ finding.text

end Texts

/-- No code reads `attempts`, the reservations that each key has had, nor `notified`, the initial
cycles that were configured when its conversion was notified. -/
structure FactoryState where
  config : FactoryConfig
  relayWasm : Option (List UInt8)
  entries : RelaySetupKey → Option RelaySetupEntry
  creatingKeys : List RelaySetupKey
  limiter : Limiter
  attempts : RelaySetupKey → Nat
  notified : RelaySetupKey → Option Nat

namespace FactoryState

def new (config : FactoryConfig) (relayWasm : Option (List UInt8)) : FactoryState where
  config := config
  relayWasm := relayWasm
  entries := fun _ => none
  creatingKeys := []
  limiter := .new
  attempts := fun _ => 0
  notified := fun _ => none

/-- What both accessors of the Creating-key index assert. The index is initialised, empty, by the
first access, which comes before the first entry. -/
def validCreatingKeys (keys : List RelaySetupKey) : Bool :=
  decide (keys.length ≤ maxConcurrentFundedRelaySetups) && decide keys.Nodup

def relayCreatingKeys (st : FactoryState) : Option (List RelaySetupKey) :=
  if validCreatingKeys st.creatingKeys then some st.creatingKeys else none

def setRelayCreatingKeys (st : FactoryState) (keys : List RelaySetupKey) : Option FactoryState :=
  if validCreatingKeys keys then some { st with creatingKeys := keys } else none

def putEntry (st : FactoryState) (key : RelaySetupKey) (entry : Option RelaySetupEntry) :
    FactoryState :=
  { st with entries := Function.update st.entries key entry }

def insertEntry (st : FactoryState) (key : RelaySetupKey) (entry : RelaySetupEntry) :
    Option FactoryState :=
  match st.relayCreatingKeys with
  | none => none
  | some creating =>
      match entry with
      | .creating _ =>
          if creating.contains key then (st.putEntry key entry).setRelayCreatingKeys creating
          else if creating.length < maxConcurrentFundedRelaySetups then
            (st.putEntry key entry).setRelayCreatingKeys (creating ++ [key])
          else none
      | _ => (st.putEntry key entry).setRelayCreatingKeys
          (creating.filter fun existing => decide (existing ≠ key))

def removeEntry (st : FactoryState) (key : RelaySetupKey) : Option FactoryState :=
  match st.relayCreatingKeys with
  | none => none
  | some creating => (st.putEntry key none).setRelayCreatingKeys
      (creating.filter fun existing => decide (existing ≠ key))

def reconcileInterruptedEntry (st : FactoryState) (key : RelaySetupKey) : Option FactoryState :=
  match st.entries key with
  | some (.creating progress) =>
      match progress.phase with
      | .reserved | .probingTargets => st.removeEntry key
      -- A paid block can be notified again; no child was created in these phases.
      | .cmcTransferAccepted | .cmcNotifySucceeded => some st
      | _ => st.insertEntry key (.manualRecoveryRequired
          { progress with lastError := some .upgradeInterrupted })
  | _ => none

def reconcileInterruptedCreatingEntriesAfterUpgrade (st : FactoryState) : Option FactoryState :=
  st.relayCreatingKeys.bind fun keys =>
    keys.foldlM FactoryState.reconcileInterruptedEntry st

/-- Only the two phases in which the journal is empty are reclaimable. -/
def reclaimable (progress : RelayCreationProgress) : Bool :=
  (decide (progress.phase = .reserved) || decide (progress.phase = .probingTargets)) &&
    progress.cmcTransfer.isNone && progress.cyclesMinted.isNone &&
    progress.createDispatchedAtTs.isNone && progress.relayCanisterId.isNone &&
    progress.relayFundingTransfer.isNone

def reclaimReservation (now : Nat) (st : FactoryState) (key : RelaySetupKey) :
    Option FactoryState :=
  if st.limiter.hasLiveAttempt now key then some st
  else
    match st.entries key with
    | some (.creating progress) =>
        if reclaimable progress then st.removeEntry key else some st
    | _ => some st

def reclaimAbandonedPreSpendReservations (st : FactoryState) (now : Nat) : Option FactoryState :=
  st.relayCreatingKeys.bind fun keys => keys.foldlM (FactoryState.reclaimReservation now) st

def approvedRelayOnchainModuleHash (env : FactoryEnv) (st : FactoryState) : Option (List UInt8) :=
  st.relayWasm.map env.sha256

def factoryBlockedReason (env : FactoryEnv) (st : FactoryState) : Option String :=
  if !st.config.relayFactoryEnabled then some "relay factory is disabled"
  else if st.config.cmcCanisterId.isNone then some "CMC canister is not configured"
  else if st.relayWasm.isNone then some "approved Relay Wasm is not embedded"
  else if (st.approvedRelayOnchainModuleHash env).isNone then
    some "approved Relay module hash is unavailable"
  else if st.config.relayInitialCycles = 0 then some "Relay create cycles must be positive"
  else if st.config.relaySetupMinE8s = 0 then some "Relay singleton minimum must be positive"
  else none

end FactoryState

end JupiterSuite.Historian
