import JupiterSuite.Memo.Policy

/-! The configurations a self-service relay may be set up with, the key of a configuration and
what its setup costs. -/

namespace JupiterSuite.Historian

open Base Memo

def maxRelayTargets : Nat := 20

def maxSurplusRecipients : Nat := 5

def maxRelaySurplusMemoBytes : Nat := 32

def extraTargetChargeE8s : Nat := 25000000

def fiduciaryBlackhole : Principal := ⟨[0, 0, 0, 0, 2, 48, 15, 178, 1, 1]⟩

inductive RelaySurplusRecipient where
  | principal (principal : Principal) (memo : List UInt8)
  | neuron (neuronId : Nat) (memo : List UInt8)
  deriving DecidableEq, Repr

structure RelaySetupArgs where
  targetCanisterIds : List Principal
  surplusRecipients : List RelaySurplusRecipient
  deriving DecidableEq, Repr

/-- What the factory reads of the historian's configuration. -/
structure FactoryConfig where
  ledgerCanisterId : Principal
  indexCanisterId : Principal
  cmcCanisterId : Option Principal
  relayFactoryEnabled : Bool
  relaySetupMinE8s : Nat
  relayInitialCycles : Nat
  relayCycleSafetyMarginE8s : Nat
  relayMinSubaccountOneSeedE8s : Nat
  canonicalRelayCanisterId : Option Principal
  canonicalRelayTargets : List Principal
  deriving DecidableEq, Repr

/-- The digest, and the texts that the principal library and the `Debug` formatter produce. -/
structure FactoryEnv where
  historian : Principal
  sha256 : List UInt8 → List UInt8
  principalText : Principal → String
  debugTransferError : TransferError → String

/-- The order of byte slices. -/
def compareBytes : List UInt8 → List UInt8 → Ordering
  | [], [] => .eq
  | [], _ :: _ => .lt
  | _ :: _, [] => .gt
  | left :: lefts, right :: rights =>
      if left.toNat < right.toNat then .lt
      else if right.toNat < left.toNat then .gt
      else compareBytes lefts rights

def comparePrincipals (left right : Principal) : Ordering := compareBytes left.bytes right.bytes

/-- Two neighbours of a sorted list are the same. -/
def hasEqualNeighbours {α : Type} (compare : α → α → Ordering) : List α → Bool
  | first :: second :: rest =>
      compare first second == .eq || hasEqualNeighbours compare (second :: rest)
  | _ => false

structure CanonicalRelayTargetSet where
  targets : List Principal
  nonempty : targets ≠ []
  bounded : targets.length ≤ maxRelayTargets
  deriving DecidableEq, Repr

namespace CanonicalRelayTargetSet

def sortTargets (targets : List Principal) : List Principal :=
  targets.mergeSort fun left right => comparePrincipals left right != .gt

theorem length_sortTargets (targets : List Principal) :
    (sortTargets targets).length = targets.length :=
  List.length_mergeSort targets

def canonicalize (targets : List Principal) : Except String CanonicalRelayTargetSet :=
  if present : targets = [] then .error "at least one target canister is required"
  else if few : maxRelayTargets < targets.length then
    .error s!"at most {maxRelayTargets} target canisters are allowed"
  else
    match targets.find? fun target => decide (target = anonymous ∨ target = managementCanister) with
    | some target =>
        .error (if target = anonymous then "target must not be anonymous"
          else "target must not be the management canister")
    | none =>
        if hasEqualNeighbours comparePrincipals (sortTargets targets) then
          .error "duplicate target canisters are not allowed"
        else
          .ok
            { targets := sortTargets targets
              nonempty := by
                intro empty
                have length := congrArg List.length empty
                rw [length_sortTargets] at length
                exact present (List.eq_nil_of_length_eq_zero length)
              bounded := by
                rw [length_sortTargets]
                exact Nat.le_of_not_lt few }

def validateTarget (target : Principal) (config : FactoryConfig) (historian : Principal) :
    Except String Unit :=
  if target = anonymous then .error "target must not be anonymous"
  else if target = managementCanister then .error "target must not be the management canister"
  else if target = historian then .error "target must not be the historian canister"
  else if target = fiduciaryBlackhole ∨ target = config.ledgerCanisterId ∨
      target = config.indexCanisterId ∨ some target = config.cmcCanisterId then
    .error "target must not be a configured protocol dependency"
  else .ok ()

/-- The first target that may not be set up anew decides. -/
def validateNewTargetEligibility (set : CanonicalRelayTargetSet) (config : FactoryConfig)
    (historian : Principal) : Except String Unit :=
  set.targets.forM fun target => validateTarget target config historian

end CanonicalRelayTargetSet

def destinationCmp : RelaySurplusRecipient → RelaySurplusRecipient → Ordering
  | .principal left _, .principal right _ => comparePrincipals left right
  | .principal _ _, .neuron _ _ => .lt
  | .neuron _ _, .principal _ _ => .gt
  | .neuron left _, .neuron right _ =>
      if left < right then .lt else if right < left then .gt else .eq

structure CanonicalSurplusRecipientSet where
  recipients : List RelaySurplusRecipient
  bounded : recipients.length ≤ maxSurplusRecipients
  deriving DecidableEq, Repr

namespace CanonicalSurplusRecipientSet

def sortRecipients (recipients : List RelaySurplusRecipient) : List RelaySurplusRecipient :=
  recipients.mergeSort fun left right => destinationCmp left right != .gt

def validateRecipient (principalText : Principal → String) :
    RelaySurplusRecipient → Except String Unit
  | .principal principal memo =>
      if principal = anonymous then .error "surplus recipient principal must not be anonymous"
      else if principal = managementCanister then
        .error "surplus recipient principal must not be the management canister"
      else if maxRelaySurplusMemoBytes < memo.length then
        .error (s!"surplus recipient principal {principalText principal} memo is " ++
          s!"{memo.length} bytes; maximum is {maxRelaySurplusMemoBytes}")
      else .ok ()
  | .neuron neuronId memo =>
      if neuronId = 0 then .error "surplus recipient neuron ID must be greater than zero"
      else if maxRelaySurplusMemoBytes < memo.length then
        .error (s!"surplus recipient neuron {neuronId} memo is {memo.length} bytes; " ++
          s!"maximum is {maxRelaySurplusMemoBytes}")
      else .ok ()

def canonicalize (principalText : Principal → String) (recipients : List RelaySurplusRecipient) :
    Except String CanonicalSurplusRecipientSet :=
  if few : maxSurplusRecipients < recipients.length then
    .error s!"at most {maxSurplusRecipients} surplus recipients are allowed"
  else
    match recipients.forM (validateRecipient principalText) with
    | .error message => .error message
    | .ok _ =>
        if hasEqualNeighbours destinationCmp (sortRecipients recipients) then
          .error "duplicate surplus recipient destinations are not allowed"
        else
          .ok
            { recipients := sortRecipients recipients
              bounded := by
                rw [sortRecipients, List.length_mergeSort]
                exact Nat.le_of_not_lt few }

end CanonicalSurplusRecipientSet

structure RelaySetupKey where
  bytes : List UInt8
  deriving DecidableEq, Repr

def relayConfigurationDomain : List UInt8 :=
  [106, 117, 112, 105, 116, 101, 114, 45, 114, 101, 108, 97, 121, 45, 99, 111, 110, 102, 105, 103,
    117, 114, 97, 116, 105, 111, 110, 45, 118, 49, 0]

def withLength (bytes : List UInt8) : List UInt8 := UInt8.ofNat bytes.length :: bytes

def recipientPreimage : RelaySurplusRecipient → List UInt8
  | .principal principal memo => 1 :: withLength principal.bytes ++ withLength memo
  | .neuron neuronId memo => 2 :: u64ToBeBytes neuronId ++ withLength memo

def configurationPreimage (targets : List Principal)
    (surplusRecipients : List RelaySurplusRecipient) : List UInt8 :=
  relayConfigurationDomain ++ [1, UInt8.ofNat targets.length] ++
    targets.flatMap (fun target => withLength target.bytes) ++
    [2, UInt8.ofNat surplusRecipients.length] ++ surplusRecipients.flatMap recipientPreimage

structure CanonicalRelaySetup where
  targets : CanonicalRelayTargetSet
  surplusRecipients : CanonicalSurplusRecipientSet
  deriving DecidableEq, Repr

namespace CanonicalRelaySetup

def canonicalize (env : FactoryEnv) (args : RelaySetupArgs) : Except String CanonicalRelaySetup :=
  match CanonicalRelayTargetSet.canonicalize args.targetCanisterIds with
  | .error message => .error message
  | .ok targets =>
      match CanonicalSurplusRecipientSet.canonicalize env.principalText args.surplusRecipients with
      | .error message => .error message
      | .ok surplusRecipients => .ok ⟨targets, surplusRecipients⟩

def targetCount (setup : CanonicalRelaySetup) : Nat := setup.targets.targets.length

def key (env : FactoryEnv) (setup : CanonicalRelaySetup) : RelaySetupKey :=
  ⟨env.sha256 (configurationPreimage setup.targets.targets setup.surplusRecipients.recipients)⟩

def neuronIds (setup : CanonicalRelaySetup) : List Nat :=
  setup.surplusRecipients.recipients.filterMap fun recipient =>
    match recipient with
    | .neuron neuronId _ => some neuronId
    | .principal _ _ => none

end CanonicalRelaySetup

def validateCanonicalRelayConfig (config : FactoryConfig) : Except String Unit :=
  match config.canonicalRelayCanisterId, config.canonicalRelayTargets with
  | none, [] => .ok ()
  | none, _ =>
      .error "canonical Relay targets require a configured canonical Relay canister"
  | some _, [] => .error "configured canonical Relay requires at least one target"
  | some relay, targets =>
      if relay = anonymous then .error "canonical Relay canister must not be anonymous"
      else if relay = managementCanister then
        .error "canonical Relay canister must not be the management canister"
      else
        match CanonicalRelayTargetSet.canonicalize targets with
        | .error message =>
            .error s!"configured canonical Relay target set is invalid: {message}"
        | .ok _ => .ok ()

def rejectReservedCanonicalTargetSet (config : FactoryConfig) (setup : CanonicalRelaySetup) :
    Except String Unit :=
  if config.canonicalRelayTargets.isEmpty then .ok ()
  else
    match CanonicalRelayTargetSet.canonicalize config.canonicalRelayTargets with
    | .error message => .error s!"configured canonical Relay target set is invalid: {message}"
    | .ok canonical =>
        if canonical.targets = setup.targets.targets then
          .error ("the canonical Jupiter Relay target set is reserved and cannot be created " ++
            "through self-service")
        else .ok ()

section Pricing

def orError {α : Type} (value : Option α) (message : String) : Except String α :=
  match value with
  | some value => .ok value
  | none => .error message

def extraTargetChargeOf (targetCount : Nat) : Except String Nat :=
  match checkedSub targetCount 1 with
  | none => .error "target count must be positive"
  | some extraTargetCount =>
      orError (checkedMul u64Max extraTargetCount extraTargetChargeE8s)
        "target-count pricing overflow"

def nominalMinimumE8s (config : FactoryConfig) (targetCount : Nat) : Except String Nat :=
  match extraTargetChargeOf targetCount with
  | .error message => .error message
  | .ok extra =>
      orError (checkedAdd u64Max config.relaySetupMinE8s extra)
        "nominal relay setup minimum overflow"

def ceilDiv (numerator denominator : Nat) : Option Nat :=
  if denominator = 0 then none
  else (checkedAdd u128Max numerator (denominator - 1)).map (· / denominator)

def cmcConversionE8s (config : FactoryConfig) (xdrPermyriadPerIcp : Nat) : Except String Nat :=
  match (ceilDiv config.relayInitialCycles xdrPermyriadPerIcp).filter (decide <| · ≤ u64Max) with
  | none => .error "CMC returned an invalid ICP/XDR conversion rate"
  | some value =>
      orError (checkedAdd u64Max value config.relayCycleSafetyMarginE8s)
        "CMC conversion including safety margin overflow"

def currentRequirementE8s (config : FactoryConfig) (targetCount feeE8s xdrPermyriadPerIcp : Nat) :
    Except String Nat :=
  match extraTargetChargeOf targetCount with
  | .error message => .error message
  | .ok extra =>
      match cmcConversionE8s config xdrPermyriadPerIcp with
      | .error message => .error message
      | .ok conversion =>
          let liveSingleton := do
            let withMargin ← checkedAdd u64Max conversion config.relayCycleSafetyMarginE8s
            let withSeed ← checkedAdd u64Max withMargin config.relayMinSubaccountOneSeedE8s
            let fees ← checkedMul u64Max feeE8s 2
            checkedAdd u64Max withSeed fees
          match liveSingleton with
          | none => .error "live relay setup requirement overflow"
          | some liveSingleton =>
              orError (checkedAdd u64Max (max config.relaySetupMinE8s liveSingleton) extra)
                "relay setup requirement overflow"

def minimumFinalRelayFundingE8s (config : FactoryConfig) (targetCount : Nat) :
    Except String Nat :=
  match extraTargetChargeOf targetCount with
  | .error message => .error message
  | .ok extra =>
      let minimum := do
        let seed ← checkedAdd u64Max config.relayMinSubaccountOneSeedE8s
          config.relayCycleSafetyMarginE8s
        checkedAdd u64Max seed extra
      orError minimum "minimum final Relay funding overflow"

end Pricing

end JupiterSuite.Historian
