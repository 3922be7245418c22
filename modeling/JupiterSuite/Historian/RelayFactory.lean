import JupiterSuite.Historian.RelayJournal

/-! The relay factory, cut at the awaits of a notification. A segment that traps is rolled back.
The install argument of the Wasm, the tracking of an activated relay and the routes that a probe
caches are left out. -/

namespace JupiterSuite.Historian

open Base Memo

inductive CanisterStatusKind where
  | running
  | stopping
  | stopped
  deriving DecidableEq, Repr

inductive Visibility where
  | controllers
  | everyone
  | allowedViewers (viewers : List Principal)
  deriving DecidableEq, Repr

structure CanisterStatusResult where
  status : CanisterStatusKind
  moduleHash : Option (List UInt8)
  controllers : List Principal
  logVisibility : Visibility
  statusVisibility : Visibility
  deriving DecidableEq, Repr

inductive ObservedRelayFinalizationState where
  | preFinalization
  | finalized
  deriving DecidableEq, Repr

def classifyRelayFinalizationState (status : CanisterStatusResult) (expectedHash : List UInt8)
    (historian : Principal) : Except AuditFinding ObservedRelayFinalizationState :=
  if status.status ≠ .running then .error .notRunning
  else if status.moduleHash ≠ some expectedHash then .error .moduleHash
  else if status.logVisibility ≠ .everyone then .error .logsNotPublic
  else if status.statusVisibility ≠ .everyone then .error .statusNotPublic
  else
    match status.controllers with
    | [controller] => if controller = historian then .ok .preFinalization else .error .controllers
    | [] => .ok .finalized
    | _ => .error .controllers

def relayIdWithCompleteActivationEvidence (progress : RelayCreationProgress) :
    Except ActivationPrerequisite Principal :=
  match progress.relayCanisterId with
  | none => .error .relayId
  | some relayCanisterId =>
      if (progress.cmcTransfer.bind RelayTransferRecord.blockIndex).isNone then
        .error .cmcTransfer
      else if progress.cyclesMinted.isNone then .error .mintedCycles
      else if (progress.relayFundingTransfer.bind RelayTransferRecord.blockIndex).isNone then
        .error .relayFunding
      else .ok relayCanisterId

inductive AcceptedTransfer where
  | block (index : Nat)
  | rejected (error : TransferError)
  | ambiguous (error : String)
  deriving DecidableEq, Repr

def acceptedTransfer : Except String TransferReply → AcceptedTransfer
  | .ok (.ok block) =>
      if block ≤ u64Max then .block block else .ambiguous "ledger block index exceeds u64"
  | .ok (.error (.duplicate duplicateOf)) =>
      if duplicateOf ≤ u64Max then .block duplicateOf
      else .ambiguous "duplicate block index exceeds u64"
  | .ok (.error error) => .rejected error
  | .error error => .ambiguous error

def factoryTransferArg (key : RelaySetupKey) (toAccount : Account) (record : RelayTransferRecord)
    (memo : Option (List UInt8)) : TransferArg where
  fromSubaccount := some key.bytes
  toAccount := toAccount
  fee := some record.feeE8s
  createdAtTime := some record.createdAtTimeNanos
  memo := memo
  amount := record.amountE8s

/-- What a notification keeps across its awaits. No code reads `attempt`, the reservation it
works on. -/
structure FactoryWork where
  setup : CanonicalRelaySetup
  key : RelaySetupKey
  config : FactoryConfig
  ticket : Ticket
  attempt : Option Nat
  deriving DecidableEq, Repr

/-- The fee and the conversion rate that a new setup was priced with. -/
structure SetupQuote where
  feeE8s : Nat
  xdrPermyriadPerIcp : Nat
  deriving DecidableEq, Repr

inductive FactoryKont where
  | balance (work : FactoryWork)
  | fee (work : FactoryWork) (balanceE8s : Nat)
  | rate (work : FactoryWork) (balanceE8s feeE8s : Nat)
  | neuron (work : FactoryWork) (quote : SetupQuote) (neuronId : Nat) (rest : List Nat)
  | probe (work : FactoryWork) (quote : SetupQuote) (target : Principal) (rest : List Principal)
  | cmcTransfer (work : FactoryWork) (call : Nat)
  | notifyTopUp (work : FactoryWork) (cmcBlock : Nat)
  | createCanister (work : FactoryWork)
  | installCode (work : FactoryWork) (relay : Principal) (expectedHash : List UInt8)
  | installStatus (work : FactoryWork) (relay : Principal) (expectedHash : List UInt8)
      (installError : String)
  | remainingBalance (work : FactoryWork) (relay : Principal)
  | fundingFee (work : FactoryWork) (relay : Principal) (balanceE8s : Nat)
  | relayFunding (work : FactoryWork) (call : Nat)
  | firstAudit (work : FactoryWork) (phase : RelayCreationPhase) (relay : Principal)
      (expectedHash : List UInt8)
  | updateSettings (work : FactoryWork) (relay : Principal) (expectedHash : List UInt8)
  | finalAudit (work : FactoryWork) (relay : Principal) (expectedHash : List UInt8)
      (updateError : Option String)
  deriving DecidableEq, Repr

def FactoryKont.work : FactoryKont → FactoryWork
  | .balance work | .fee work _ | .rate work _ _ | .neuron work _ _ _ | .probe work _ _ _
  | .cmcTransfer work _ | .notifyTopUp work _ | .createCanister work | .installCode work _ _
  | .installStatus work _ _ _ | .remainingBalance work _ | .fundingFee work _ _
  | .relayFunding work _ | .firstAudit work _ _ _ | .updateSettings work _ _
  | .finalAudit work _ _ _ => work

/-- The assertions that a message may fail: those of the Creating-key index, and the `expect`s. -/
inductive FactoryTrap where
  | creatingIndex
  | generationExhausted
  | cmcMissing
  | relayHashMissing
  deriving DecidableEq, Repr

/-- How a segment ends. The calls that move value are told apart from the ones that only ask. -/
inductive FactoryPause where
  | done (result : RelaySetupNotifyResult)
  | await (kont : FactoryKont)
  | convert (work : FactoryWork) (arg : TransferArg)
  | create (work : FactoryWork) (cycles : Nat)
  | fund (work : FactoryWork) (arg : TransferArg)
  | trap (cause : FactoryTrap)
  deriving DecidableEq, Repr

abbrev FactoryStep := FactoryState × FactoryPause

section Journal

variable (env : FactoryEnv)

def notifyForEntry : RelaySetupEntry → RelaySetupNotifyResult
  | .creating progress => .inProgress progress.phase progress.relayCanisterId
  | .active relayCanisterId => .active relayCanisterId
  | .manualRecoveryRequired progress =>
      .manualRecoveryRequired progress.phase progress.relayCanisterId
        (progress.lastError.elim "operator investigation is required" fun diagnostic =>
          boundedMessage (diagnostic.text env))

def FactoryWork.stop (work : FactoryWork) (st : FactoryState) (result : RelaySetupNotifyResult) :
    FactoryStep :=
  ({ st with limiter := st.limiter.dropTicket work.ticket }, .done result)

def orTrap (st : FactoryState) (value : Option FactoryState) (next : FactoryState → FactoryStep) :
    FactoryStep :=
  match value with
  | none => (st, .trap .creatingIndex)
  | some st => next st

def requirePhase (st : FactoryState) (work : FactoryWork) (expected : RelayCreationPhase)
    (next : RelayCreationProgress → FactoryStep) : FactoryStep :=
  match st.entries work.key with
  | some (.creating progress) =>
      if progress.phase = expected then next progress
      else work.stop st (notifyForEntry env (.creating progress))
  | some entry => work.stop st (notifyForEntry env entry)
  | none => work.stop st (.failedPreSpend "relay setup reservation no longer exists")

def updateProgress (st : FactoryState) (work : FactoryWork) (expected : RelayCreationPhase)
    (update : RelayCreationProgress → RelayCreationProgress)
    (next : FactoryState → RelayCreationProgress → FactoryStep) : FactoryStep :=
  requirePhase env st work expected fun progress =>
    orTrap st (st.insertEntry work.key (.creating (update progress))) fun st =>
      next st (update progress)

def manualRecovery (st : FactoryState) (work : FactoryWork) (expected : RelayCreationPhase)
    (diagnostic : FactoryDiagnostic) : FactoryStep :=
  requirePhase env st work expected fun progress =>
    let progress := { progress with lastError := some diagnostic }
    orTrap st (st.insertEntry work.key (.manualRecoveryRequired progress)) fun st =>
      work.stop st (.manualRecoveryRequired progress.phase progress.relayCanisterId
        (boundedMessage (diagnostic.text env)))

def keepInProgress (st : FactoryState) (work : FactoryWork) (phase : RelayCreationPhase)
    (diagnostic : FactoryDiagnostic) : FactoryStep :=
  updateProgress env st work phase (fun progress => { progress with lastError := some diagnostic })
    fun st progress => work.stop st (.inProgress progress.phase progress.relayCanisterId)

def removeReservation (st : FactoryState) (key : RelaySetupKey) (expected : RelayCreationPhase) :
    Option FactoryState :=
  match st.entries key with
  | some (.creating progress) =>
      if progress.phase = expected then st.removeEntry key else some st
  | _ => some st

def removeOwnedReservation (st : FactoryState) (key : RelaySetupKey)
    (expected : RelayCreationPhase) (ticket : Ticket) : Option FactoryState :=
  if decide (ticket.key = key) && st.limiter.ownsSlot ticket then
    removeReservation st key expected
  else some st

/-- The reservation of a notification that gives up before it pays. -/
def releaseReservation (st : FactoryState) (work : FactoryWork) (expected : RelayCreationPhase)
    (result : RelaySetupNotifyResult) : FactoryStep :=
  orTrap st (removeOwnedReservation st work.key expected work.ticket) fun st =>
    work.stop st result

/-- A call under the transient admission; the ticket is checked again when it is answered. -/
def admittedCall (st : FactoryState) (now : Nat) (work : FactoryWork) (kont : FactoryKont) :
    FactoryStep :=
  match st.limiter.charge now work.ticket with
  | none => work.stop st .busy
  | some limiter => ({ st with limiter := limiter }, .await kont)

end Journal

section Finalization

variable (env : FactoryEnv)

def activateRelaySetup (st : FactoryState) (work : FactoryWork)
    (expectedPhase : RelayCreationPhase) (expectedRelay : Principal) : FactoryStep :=
  requirePhase env st work expectedPhase fun progress =>
    match relayIdWithCompleteActivationEvidence progress with
    | .error missing => manualRecovery env st work expectedPhase (.activationIncomplete missing)
    | .ok relay =>
        if relay = expectedRelay then
          orTrap st (st.insertEntry work.key (.active relay)) fun st =>
            work.stop st (.active relay)
        else manualRecovery env st work expectedPhase .relayIdChanged

def driveRelayFinalization (st : FactoryState) (now : Nat) (work : FactoryWork) : FactoryStep :=
  match st.entries work.key with
  | some (.creating progress) =>
      if progress.phase = .relayFunded ∨ progress.phase = .finalizationAttempted then
        match relayIdWithCompleteActivationEvidence progress with
        | .error missing =>
            manualRecovery env st work progress.phase (.activationIncomplete missing)
        | .ok relay =>
            match st.approvedRelayOnchainModuleHash env with
            | none => manualRecovery env st work progress.phase .moduleHashUnavailable
            | some expectedHash =>
                admittedCall st now work (.firstAudit work progress.phase relay expectedHash)
      else work.stop st (notifyForEntry env (.creating progress))
  | some entry => work.stop st (notifyForEntry env entry)
  | none => work.stop st (.failedPreSpend "relay setup reservation no longer exists")

def withSameRelay (st : FactoryState) (work : FactoryWork) (phase : RelayCreationPhase)
    (relay : Principal) (next : FactoryStep) : FactoryStep :=
  requirePhase env st work phase fun progress =>
    match relayIdWithCompleteActivationEvidence progress with
    | .error missing => manualRecovery env st work phase (.activationIncomplete missing)
    | .ok current =>
        if current = relay then next else manualRecovery env st work phase .relayIdChanged

def onFirstAudit (st : FactoryState) (now : Nat) (work : FactoryWork) (phase : RelayCreationPhase)
    (relay : Principal) (expectedHash : List UInt8)
    (observed : Except String CanisterStatusResult) : FactoryStep :=
  withSameRelay env st work phase relay <|
    match observed with
    | .error error => keepInProgress env st work phase (.auditUnread phase error)
    | .ok status =>
        match classifyRelayFinalizationState status expectedHash env.historian with
        | .error finding => manualRecovery env st work phase (.auditRejected none finding)
        | .ok .finalized => activateRelaySetup env st work phase relay
        | .ok .preFinalization =>
            updateProgress env st work phase
              (fun progress =>
                { progress with phase := .finalizationAttempted, lastError := none })
              fun st _ => admittedCall st now work (.updateSettings work relay expectedHash)

def onUpdateSettings (st : FactoryState) (now : Nat) (work : FactoryWork) (relay : Principal)
    (expectedHash : List UInt8) (result : Except String Unit) : FactoryStep :=
  requirePhase env st work .finalizationAttempted fun _ =>
    let updateError :=
      match result with
      | .ok _ => none
      | .error error => some error
    admittedCall st now work (.finalAudit work relay expectedHash updateError)

def onFinalAudit (st : FactoryState) (work : FactoryWork) (relay : Principal)
    (expectedHash : List UInt8) (updateError : Option String)
    (observed : Except String CanisterStatusResult) : FactoryStep :=
  withSameRelay env st work .finalizationAttempted relay <|
    match observed with
    | .error error =>
        keepInProgress env st work .finalizationAttempted (.finalAuditUnread updateError error)
    | .ok status =>
        match classifyRelayFinalizationState status expectedHash env.historian with
        | .error finding =>
            manualRecovery env st work .finalizationAttempted (.auditRejected updateError finding)
        | .ok .finalized => activateRelaySetup env st work .finalizationAttempted relay
        | .ok .preFinalization =>
            keepInProgress env st work .finalizationAttempted (.notFinalized updateError)

end Finalization

section Creation

variable (env : FactoryEnv)

def onRelayFunding (st : FactoryState) (now : Nat) (work : FactoryWork)
    (reply : Except String TransferReply) : FactoryStep :=
  requirePhase env st work .relayFundingPrepared fun _ =>
    match acceptedTransfer reply with
    | .rejected error =>
        manualRecovery env st work .relayFundingPrepared (.fundingRejected error)
    | .ambiguous error =>
        manualRecovery env st work .relayFundingPrepared (.fundingAmbiguous error)
    | .block fundingBlock =>
        updateProgress env st work .relayFundingPrepared
          (fun progress => { progress with
            phase := .relayFunded
            relayFundingTransfer := progress.relayFundingTransfer.map fun record =>
              { record with blockIndex := some fundingBlock } })
          fun st _ => driveRelayFinalization env st now work

def onFundingFee (st : FactoryState) (now : Nat) (work : FactoryWork) (relay : Principal)
    (balanceE8s : Nat) (fee : Except String Nat) : FactoryStep :=
  requirePhase env st work .codeInstalled fun _ =>
    match fee with
    | .error error => manualRecovery env st work .codeInstalled (.feeUnread error)
    | .ok feeE8s =>
        match minimumFinalRelayFundingE8s work.config work.setup.targetCount with
        | .error message => manualRecovery env st work .codeInstalled (.fundingPricing message)
        | .ok minimum =>
            match checkedSub balanceE8s feeE8s with
            | none => manualRecovery env st work .codeInstalled .belowFee
            | some amountE8s =>
                if minimum ≤ amountE8s then
                  let record : RelayTransferRecord := ⟨amountE8s, feeE8s, now, none⟩
                  updateProgress env st work .codeInstalled
                    (fun progress => { progress with
                      phase := .relayFundingPrepared
                      relayFundingTransfer := some record })
                    fun st _ => (st, .fund work (factoryTransferArg work.key
                      ⟨relay, some relaySubaccountOne⟩ record none))
                else manualRecovery env st work .codeInstalled .belowMinimumFunding

def onRemainingBalance (st : FactoryState) (work : FactoryWork) (relay : Principal)
    (balance : Except String Nat) : FactoryStep :=
  requirePhase env st work .codeInstalled fun _ =>
    match balance with
    | .error error => manualRecovery env st work .codeInstalled (.balanceUnread error)
    | .ok balanceE8s => (st, .await (.fundingFee work relay balanceE8s))

def codeInstalled (st : FactoryState) (work : FactoryWork) (relay : Principal) : FactoryStep :=
  updateProgress env st work .childCreated
    (fun progress => { progress with phase := .codeInstalled })
    fun st _ => (st, .await (.remainingBalance work relay))

def onInstallStatus (st : FactoryState) (work : FactoryWork) (relay : Principal)
    (expectedHash : List UInt8) (installError : String)
    (observed : Except String CanisterStatusResult) : FactoryStep :=
  requirePhase env st work .childCreated fun _ =>
    match observed with
    | .error statusError =>
        manualRecovery env st work .childCreated (.moduleNotReconciled installError statusError)
    | .ok status =>
        if status.moduleHash = some expectedHash then codeInstalled env st work relay
        else manualRecovery env st work .childCreated (.moduleNotInstalled installError)

def onInstallCode (st : FactoryState) (work : FactoryWork) (relay : Principal)
    (expectedHash : List UInt8) (result : Except String Unit) : FactoryStep :=
  requirePhase env st work .childCreated fun _ =>
    match result with
    | .error installError => (st, .await (.installStatus work relay expectedHash installError))
    | .ok _ => codeInstalled env st work relay

def onCreateCanister (st : FactoryState) (work : FactoryWork)
    (result : Except String Principal) : FactoryStep :=
  requirePhase env st work .createDispatched fun _ =>
    match result with
    | .error error => manualRecovery env st work .createDispatched (.childNotReturned error)
    | .ok relay =>
        updateProgress env st work .createDispatched
          (fun progress => { progress with
            relayCanisterId := some relay
            phase := .childCreated })
          fun st _ =>
            -- The Wasm was embedded when the setup was admitted.
            match st.approvedRelayOnchainModuleHash env with
            | none => (st, .trap .relayHashMissing)
            | some expectedHash => (st, .await (.installCode work relay expectedHash))

def paidEvidenceInconsistent (work : FactoryWork) (progress : RelayCreationProgress) : Bool :=
  !progress.cyclesMinted.any (decide <| work.config.relayInitialCycles ≤ ·) ||
    (progress.cmcTransfer.bind RelayTransferRecord.blockIndex).isNone ||
    progress.createDispatchedAtTs.isSome || progress.relayCanisterId.isSome

def dispatchCreate (st : FactoryState) (now : Nat) (work : FactoryWork) : FactoryStep :=
  requirePhase env st work .cmcNotifySucceeded fun progress =>
    if paidEvidenceInconsistent work progress then
      manualRecovery env st work .cmcNotifySucceeded .inconsistentPaidCreationEvidence
    else
      updateProgress env st work .cmcNotifySucceeded
        (fun progress => { progress with
          phase := .createDispatched
          createDispatchedAtTs := some (now / nanosPerSecond) })
        fun st _ => (st, .create work work.config.relayInitialCycles)

def onNotifyTopUp (st : FactoryState) (now : Nat) (work : FactoryWork)
    (minted : Except NotifyTopUpError Nat) : FactoryStep :=
  requirePhase env st work .cmcTransferAccepted fun _ =>
    match minted with
    | .error error =>
        if error.isPending then
          keepInProgress env st work .cmcTransferAccepted (.notificationPending error)
        else manualRecovery env st work .cmcTransferAccepted (.notificationFailed error)
    | .ok mintedCycles =>
        updateProgress env st work .cmcTransferAccepted
          (fun progress => { progress with cyclesMinted := some mintedCycles })
          fun st _ =>
            if mintedCycles < work.config.relayInitialCycles then
              manualRecovery env st work .cmcTransferAccepted
                (.mintedBelow mintedCycles work.config.relayInitialCycles)
            else
              updateProgress env st work .cmcTransferAccepted
                (fun progress => { progress with
                  phase := .cmcNotifySucceeded
                  cyclesMinted := some mintedCycles })
                fun st _ =>
                  let st := { st with
                    notified :=
                      Function.update st.notified work.key (some st.config.relayInitialCycles) }
                  dispatchCreate env st now work

def continuePaidCreation (st : FactoryState) (now : Nat) (work : FactoryWork) : FactoryStep :=
  match st.entries work.key with
  | some (.creating progress) =>
      if progress.phase = .cmcTransferAccepted then
        match progress.cmcTransfer.bind RelayTransferRecord.blockIndex with
        | none => manualRecovery env st work .cmcTransferAccepted .missingAcceptedBlock
        | some cmcBlock => (st, .await (.notifyTopUp work cmcBlock))
      else dispatchCreate env st now work
  | some entry => work.stop st (notifyForEntry env entry)
  | none => work.stop st (.failedPreSpend "missing paid setup")

end Creation

section Admission

variable (env : FactoryEnv)

/-- A definite rejection means that nothing was paid, and a new attempt may start. -/
def onCmcTransfer (st : FactoryState) (now : Nat) (work : FactoryWork)
    (reply : Except String TransferReply) : FactoryStep :=
  requirePhase env st work .cmcTransferPrepared fun _ =>
    match acceptedTransfer reply with
    | .rejected error =>
        orTrap st (removeReservation st work.key .cmcTransferPrepared) fun st =>
          work.stop st (.failedPreSpend (boundedMessage
            s!"CMC ledger transfer was rejected: {env.debugTransferError error}"))
    | .ambiguous error =>
        manualRecovery env st work .cmcTransferPrepared (.conversionAmbiguous error)
    | .block cmcBlock =>
        updateProgress env st work .cmcTransferPrepared
          (fun progress => { progress with
            phase := .cmcTransferAccepted
            cmcTransfer := progress.cmcTransfer.map fun record =>
              { record with blockIndex := some cmcBlock } })
          fun st _ => continuePaidCreation env st now work

/-- The ticket is checked in the message that prepares and dispatches the conversion. -/
def prepareConversion (st : FactoryState) (now : Nat) (work : FactoryWork) (quote : SetupQuote) :
    FactoryStep :=
  match cmcConversionE8s work.config quote.xdrPermyriadPerIcp with
  | .error message => releaseReservation st work .probingTargets (.failedPreSpend message)
  | .ok conversionE8s =>
      let record : RelayTransferRecord := ⟨conversionE8s, quote.feeE8s, now, none⟩
      if !st.limiter.check (now / nanosPerSecond) work.ticket then
        releaseReservation st work .probingTargets .busy
      else
        updateProgress env st work .probingTargets
          (fun progress => { progress with
            phase := .cmcTransferPrepared
            cmcTransfer := some record })
          fun st _ =>
            match work.config.cmcCanisterId with
            | none => (st, .trap .cmcMissing)
            | some cmcId => (st, .convert work (factoryTransferArg work.key
                ⟨cmcId, some (principalToSubaccount env.historian)⟩ record
                (some (u64ToLeBytes topUpCanisterMemo))))

def probeTargets (st : FactoryState) (now : Nat) (work : FactoryWork) (quote : SetupQuote) :
    List Principal → FactoryStep
  | [] => prepareConversion env st now work quote
  | target :: rest =>
      if !st.limiter.check (now / nanosPerSecond) work.ticket then
        releaseReservation st work .probingTargets .busy
      else (st, .await (.probe work quote target rest))

def onProbed (st : FactoryState) (now : Nat) (work : FactoryWork) (quote : SetupQuote)
    (target : Principal) (rest : List Principal) (result : Except String Unit) : FactoryStep :=
  if !st.limiter.check (now / nanosPerSecond) work.ticket then
    releaseReservation st work .probingTargets .busy
  else
    requirePhase env st work .probingTargets fun _ =>
      match result with
      | .ok _ => probeTargets env st now work quote rest
      | .error message => releaseReservation st work .probingTargets
          (.failedPreSpend (boundedMessage
            (s!"target {env.principalText target} cannot be observed by the Auto cycles " ++
              s!"probe: {message}")))

/-- A probe makes calls of its own, each under the admission. -/
def onProbing (st : FactoryState) (now : Nat) (kont : FactoryKont) (charged : Bool) :
    Option FactoryStep :=
  if charged then
    (st.limiter.charge (now / nanosPerSecond) kont.work.ticket).map fun limiter =>
      ({ st with limiter := limiter }, .await kont)
  else if st.limiter.check (now / nanosPerSecond) kont.work.ticket then some (st, .await kont)
  else none

def validateNeurons (st : FactoryState) (now : Nat) (work : FactoryWork) (quote : SetupQuote) :
    List Nat → FactoryStep
  | [] =>
      updateProgress env st work .reserved
        (fun progress => { progress with phase := .probingTargets })
        fun st _ => probeTargets env st now work quote work.setup.targets.targets
  | neuronId :: rest =>
      match st.limiter.charge (now / nanosPerSecond) work.ticket with
      | none => releaseReservation st work .reserved .busy
      | some limiter =>
          ({ st with limiter := limiter }, .await (.neuron work quote neuronId rest))

def onNeuron (st : FactoryState) (now : Nat) (work : FactoryWork) (quote : SetupQuote)
    (neuronId : Nat) (rest : List Nat) (resolved : Bool) : FactoryStep :=
  if !st.limiter.check (now / nanosPerSecond) work.ticket then
    releaseReservation st work .reserved .busy
  else
    requirePhase env st work .reserved fun _ =>
      if resolved then validateNeurons env st now work quote rest
      else releaseReservation st work .reserved (.failedPreSpend (boundedMessage
        (s!"Could not verify neuron {neuronId} as publicly readable by NNS Governance. " ++
          "Check the neuron ID and try again.")))

def reserve (st : FactoryState) (work : FactoryWork) (next : FactoryState → FactoryWork →
    FactoryStep) : FactoryStep :=
  match st.entries work.key with
  | some entry => work.stop st (notifyForEntry env entry)
  | none =>
      match st.relayCreatingKeys with
      | none => (st, .trap .creatingIndex)
      | some creating =>
          if maxConcurrentFundedRelaySetups ≤ creating.length then work.stop st .busy
          else
            orTrap st (st.insertEntry work.key (.creating .new)) fun st =>
              let attempt := st.attempts work.key + 1
              next
                { st with
                  attempts := Function.update st.attempts work.key attempt
                  notified := Function.update st.notified work.key none }
                { work with attempt := some attempt }

def onRate (st : FactoryState) (now : Nat) (work : FactoryWork) (balanceE8s feeE8s : Nat)
    (rate : Except String Nat) : FactoryStep :=
  if !st.limiter.check (now / nanosPerSecond) work.ticket then work.stop st .busy
  else
    match rate with
    | .error error => work.stop st
        (.failedPreSpend s!"cannot read the current CMC conversion rate: {error}")
    | .ok xdrPermyriadPerIcp =>
        match currentRequirementE8s work.config work.setup.targetCount feeE8s
            xdrPermyriadPerIcp with
        | .error message => work.stop st (.failedPreSpend message)
        | .ok requiredE8s =>
            if balanceE8s < requiredE8s then
              work.stop st (.belowCurrentRequirement balanceE8s requiredE8s
                (requiredE8s - balanceE8s))
            else
              reserve env st work fun st work =>
                validateNeurons env st now work ⟨feeE8s, xdrPermyriadPerIcp⟩
                  work.setup.neuronIds

def onFee (st : FactoryState) (now : Nat) (work : FactoryWork) (balanceE8s : Nat)
    (fee : Except String Nat) : FactoryStep :=
  if !st.limiter.check (now / nanosPerSecond) work.ticket then work.stop st .busy
  else
    match fee with
    | .error error => work.stop st
        (.failedPreSpend s!"cannot read the current ICP ledger fee: {error}")
    | .ok feeE8s =>
        admittedCall st (now / nanosPerSecond) work (.rate work balanceE8s feeE8s)

def onBalance (st : FactoryState) (now : Nat) (work : FactoryWork)
    (balance : Except String Nat) : FactoryStep :=
  if !st.limiter.check (now / nanosPerSecond) work.ticket then work.stop st .busy
  else
    match balance with
    | .error error => work.stop st
        (.failedPreSpend s!"cannot read Relay setup balance: {error}")
    | .ok balanceE8s =>
        match nominalMinimumE8s work.config work.setup.targetCount with
        | .error message => work.stop st (.failedPreSpend message)
        | .ok nominal =>
            if balanceE8s < nominal then
              work.stop st (.belowMinimum balanceE8s nominal (nominal - balanceE8s))
            else admittedCall st (now / nanosPerSecond) work (.fee work balanceE8s)

def resumedWork (st : FactoryState) (setup : CanonicalRelaySetup) (key : RelaySetupKey)
    (ticket : Ticket) : FactoryWork :=
  ⟨setup, key, st.config, ticket, some (st.attempts key)⟩

def withGuard (st : FactoryState) (now : Nat) (key : RelaySetupKey) (lane : Lane)
    (next : FactoryState → Ticket → FactoryStep) : FactoryStep :=
  match st.limiter.acquire (now / nanosPerSecond) key lane with
  | .trapped => (st, .trap .generationExhausted)
  | .refused limiter => ({ st with limiter := limiter }, .done .busy)
  | .granted limiter ticket => next { st with limiter := limiter } ticket

def notifyExisting (st : FactoryState) (now : Nat) (setup : CanonicalRelaySetup)
    (key : RelaySetupKey) (entry : RelaySetupEntry) : FactoryStep :=
  match entry with
  | .creating progress =>
      match progress.phase with
      | .cmcTransferAccepted | .cmcNotifySucceeded =>
          withGuard st now key .completion fun st ticket =>
            continuePaidCreation env st now (resumedWork st setup key ticket)
      | .relayFunded | .finalizationAttempted =>
          withGuard st now key .completion fun st ticket =>
            driveRelayFinalization env st (now / nanosPerSecond)
              (resumedWork st setup key ticket)
      | _ => (st, .done (notifyForEntry env entry))
  | _ => (st, .done (notifyForEntry env entry))

def notifyNew (st : FactoryState) (now : Nat) (setup : CanonicalRelaySetup)
    (key : RelaySetupKey) : FactoryStep :=
  match rejectReservedCanonicalTargetSet st.config setup with
  | .error message => (st, .done (.failedPreSpend message))
  | .ok _ =>
      match setup.targets.validateNewTargetEligibility st.config env.historian with
      | .error message => (st, .done (.failedPreSpend message))
      | .ok _ =>
          match st.factoryBlockedReason env with
          | some message => (st, .done (.failedPreSpend message))
          | none =>
              match st.relayCreatingKeys with
              | none => (st, .trap .creatingIndex)
              | some creating =>
                  if maxConcurrentFundedRelaySetups ≤ creating.length then (st, .done .busy)
                  else
                    withGuard st now key .new fun st ticket =>
                      let work : FactoryWork := ⟨setup, key, st.config, ticket, none⟩
                      admittedCall st (now / nanosPerSecond) work (.balance work)

def notifyRelayConfiguration (st : FactoryState) (now : Nat) (args : RelaySetupArgs) :
    FactoryStep :=
  match CanonicalRelaySetup.canonicalize env args with
  | .error message => (st, .done (.failedPreSpend message))
  | .ok setup =>
      let key := setup.key env
      orTrap st (st.reclaimAbandonedPreSpendReservations (now / nanosPerSecond)) fun st =>
        match st.entries key with
        | some entry => notifyExisting env st now setup key entry
        | none => notifyNew env st now setup key

end Admission

inductive FactoryReply where
  | amount (value : Except String Nat)
  | neuron (resolved : Bool)
  -- The probe makes another call, or is over.
  | probing (charged : Bool)
  | probed (result : Except String Unit)
  | transfer (reply : Except String TransferReply)
  | minted (cycles : Except NotifyTopUpError Nat)
  | created (result : Except String Principal)
  | managed (result : Except String Unit)
  | status (observed : Except String CanisterStatusResult)

/-- The answer to an awaited call. Under the admission it is checked before it is looked at. -/
def resumeFactory (env : FactoryEnv) (st : FactoryState) (now : Nat) :
    FactoryKont → FactoryReply → Option FactoryStep
  | .balance work, .amount balance => some (onBalance st now work balance)
  | .fee work balanceE8s, .amount fee => some (onFee st now work balanceE8s fee)
  | .rate work balanceE8s feeE8s, .amount rate =>
      some (onRate env st now work balanceE8s feeE8s rate)
  | .neuron work quote neuronId rest, .neuron resolved =>
      some (onNeuron env st now work quote neuronId rest resolved)
  | .probe work quote target rest, .probing charged =>
      onProbing st now (.probe work quote target rest) charged
  | .probe work quote target rest, .probed result =>
      some (onProbed env st now work quote target rest result)
  | .cmcTransfer work _, .transfer reply => some (onCmcTransfer env st now work reply)
  | .notifyTopUp work _, .minted cycles => some (onNotifyTopUp env st now work cycles)
  | .createCanister work, .created result => some (onCreateCanister env st work result)
  | .installCode work relay hash, .managed result =>
      some (onInstallCode env st work relay hash result)
  | .installStatus work relay hash installError, .status observed =>
      some (onInstallStatus env st work relay hash installError observed)
  | .remainingBalance work relay, .amount balance =>
      some (onRemainingBalance env st work relay balance)
  | .fundingFee work relay balanceE8s, .amount fee =>
      some (onFundingFee env st now work relay balanceE8s fee)
  | .relayFunding work _, .transfer reply =>
      some (onRelayFunding env st (now / nanosPerSecond) work reply)
  | .firstAudit work phase relay hash, .status observed =>
      if !st.limiter.check (now / nanosPerSecond) work.ticket then some (work.stop st .busy)
      else some (onFirstAudit env st (now / nanosPerSecond) work phase relay hash observed)
  | .updateSettings work relay hash, .managed result =>
      if !st.limiter.check (now / nanosPerSecond) work.ticket then some (work.stop st .busy)
      else some (onUpdateSettings env st (now / nanosPerSecond) work relay hash result)
  | .finalAudit work relay hash updateError, .status observed =>
      if !st.limiter.check (now / nanosPerSecond) work.ticket then some (work.stop st .busy)
      else some (onFinalAudit env st work relay hash updateError observed)
  | _, _ => none

end JupiterSuite.Historian
