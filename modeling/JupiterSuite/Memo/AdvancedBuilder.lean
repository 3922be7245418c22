import JupiterSuite.Memo.Frontend

/-! The memo builder of the frontend. Its inputs are texts, `none` is an exception that leaves
it. -/

namespace JupiterSuite.Memo.Frontend.AdvancedBuilder

def jupiterMemoMaxBytes : Nat := 32

def jupiterNeuronIdMaxDigits : Nat := 20

/-- The modes that the page offers; every other text is handled like raw ICP without a
subaccount. -/
inductive MemoMode where
  | cycles
  | rawIcp
  | neuron
  | other
  deriving DecidableEq, Repr

structure AdvancedMemoInput where
  mode : MemoMode
  canisterText : JsText
  neuronIdText : JsText
  rawIcpSubaccountText : JsText
  optionalMemoText : JsText
  deriving DecidableEq, Repr

structure AdvancedMemoResult where
  ok : Bool
  output : JsText
  usedBytes : Nat
  maxBytes : Nat
  availableOptionalMemoBytes : Nat
  keptOptionalMemo : JsText
  truncatedOptionalMemo : JsText
  destinationSubaccount : Option (List UInt8)
  destinationSubaccountNumberText : Option JsText
  warnings : List String
  errors : List String
  deriving DecidableEq, Repr

def emptyResult (truncatedOptionalMemo : JsText) (errors : List String) : AdvancedMemoResult where
  ok := false
  output := []
  usedBytes := 0
  maxBytes := jupiterMemoMaxBytes
  availableOptionalMemoBytes := 0
  keptOptionalMemo := []
  truncatedOptionalMemo := truncatedOptionalMemo
  destinationSubaccount := none
  destinationSubaccountNumberText := none
  warnings := []
  errors := errors

def builtResult (output : JsText) (available : Int) (keptOptionalMemo truncatedOptionalMemo : JsText)
    (subaccount : NumberedSubaccount) : AdvancedMemoResult where
  ok := true
  output := output
  usedBytes := output.length
  maxBytes := jupiterMemoMaxBytes
  availableOptionalMemoBytes := (max 0 available).toNat
  keptOptionalMemo := keptOptionalMemo
  truncatedOptionalMemo := truncatedOptionalMemo
  destinationSubaccount := subaccount.destinationSubaccount
  destinationSubaccountNumberText := subaccount.destinationSubaccountNumberText
  warnings := []
  errors := []

def splitOptionalMemo (optionalMemoText : JsText) (available : Int) : JsText × JsText :=
  let safeAvailable := (max 0 available).toNat
  (optionalMemoText.take safeAvailable, optionalMemoText.drop safeAvailable)

/-- `replaceAll('-', '')`. -/
def withoutHyphens (text : JsText) : JsText := text.filter fun unit => decide (unit ≠ 45)

def isValidNeuronId (text : JsText) : Bool :=
  hasOnlyDigits text && decide (text.length ≤ jupiterNeuronIdMaxDigits) &&
    decide (0 < bigInt text ∧ bigInt text ≤ u64Max)

section Building

variable (lib : PrincipalLibrary)

/-- Unlike the parser's function of this name it has no length limit. -/
def parseDeclaredPrincipalText (text : JsText) : Option Principal :=
  let trimmed := jsTrim text
  if trimmed.isEmpty then none
  else
    match lib.fromText (principalTextWithGroupSeparators trimmed) with
    | none => none
    | some principal =>
        let canonical := lib.toText principal
        if canonical = anonymousPrincipalText ∨ canonical = managementPrincipalText then none
        else some principal

def buildNeuronMemo (targetText optional : JsText) : AdvancedMemoResult :=
  let neuronId := jsTrim targetText
  if neuronId.isEmpty then emptyResult optional []
  else if !hasOnlyDigits neuronId then
    emptyResult optional ["Neuron IDs must use ASCII digits only."]
  else if !isValidNeuronId neuronId then
    emptyResult optional ["Neuron ID must be a non-zero u64 value."]
  else if optional.isEmpty then builtResult neuronId 0 [] [] .default
  else
    let stem := neuronId ++ [46]
    let available : Int := jupiterMemoMaxBytes - stem.length
    let parts := splitOptionalMemo optional available
    builtResult (stem ++ parts.1) available parts.1 parts.2 .default

def passesMemoPolicy (parsedOutput : JupiterMemo) (principal : JsText)
    (parsedSubaccount : NumberedSubaccount) (keptOptionalMemo : JsText) : Bool :=
  match parsedOutput with
  | .rawIcpCanister canisterId _ _ destinationSubaccountNumberText outgoingMemoText _ =>
      decide (some (lib.toText canisterId) =
        (parseDeclaredPrincipalText lib principal).map lib.toText) &&
      decide (destinationSubaccountNumberText =
        parsedSubaccount.destinationSubaccountNumberText) &&
      decide (outgoingMemoText = keptOptionalMemo)
  | _ => false

def buildRawIcpMemo (principal optional subaccountInput : JsText) : Option AdvancedMemoResult :=
  match parseNumberedSubaccountText subaccountInput true with
  | .error reason => some (emptyResult optional [reason])
  | .ok parsedSubaccount =>
      let selector := parsedSubaccount.destinationSubaccountNumberText.elim []
        fun number => 58 :: number
      let stem := withoutHyphens principal ++ selector ++ [46]
      let available : Int := jupiterMemoMaxBytes - stem.length
      if available < 0 then
        some (emptyResult optional [("Declared canister ID, destination selector, and dot " ++
          "exceed the 32-byte ICP memo limit.")])
      else
        let parts := splitOptionalMemo optional available
        let output := stem ++ parts.1
        (parseJupiterMemo lib output).map fun parsedOutput =>
          if passesMemoPolicy lib parsedOutput principal parsedSubaccount parts.1 then
            builtResult output available parts.1 parts.2 parsedSubaccount
          else emptyResult optional ["Generated memo did not pass Jupiter Faucet memo policy."]

def buildCanisterMemo (mode : MemoMode) (targetText optional subaccountInput : JsText) :
    Option AdvancedMemoResult :=
  let principal := jsTrim targetText
  if (withoutHyphens principal).isEmpty then some (emptyResult optional [])
  else if principal.contains 46 then
    some (emptyResult optional ["Declared canister ID text cannot contain a dot."])
  else if mode = .cycles ∧ jupiterMemoMaxBytes < principal.length then
    some (emptyResult optional ["Declared canister ID exceeds the 32-byte ICP memo limit."])
  else if (parseDeclaredPrincipalText lib principal).isNone then
    some (emptyResult optional ["Enter a valid declared canister ID."])
  else if mode = .cycles then some (builtResult principal 0 [] [] .default)
  else buildRawIcpMemo lib principal optional subaccountInput

def buildAdvancedMemo (input : AdvancedMemoInput) : Option AdvancedMemoResult :=
  let targetText := if input.mode = .neuron then input.neuronIdText else input.canisterText
  let optional := input.optionalMemoText
  let subaccountInput := if input.mode = .rawIcp then input.rawIcpSubaccountText else []
  if !(hasOnlyAscii targetText && hasOnlyAscii optional && hasOnlyAscii subaccountInput) then
    some (emptyResult optional ["Jupiter Faucet memos must be ASCII only."])
  else if input.mode = .neuron then some (buildNeuronMemo targetText optional)
  else buildCanisterMemo lib input.mode targetText optional subaccountInput

end Building

end JupiterSuite.Memo.Frontend.AdvancedBuilder
