import JupiterSuite.Memo.Policy

/-! The memo parser of the frontend. A JavaScript text is its UTF-16 code units, an `Except` is a
result with its reason, and an exception that leaves the parser is `none`. -/

namespace JupiterSuite.Memo.Frontend

abbrev JsText := List UInt16

/-- The principal library; `fromText` throws where it answers `none`. -/
structure PrincipalLibrary where
  fromText : JsText → Option Principal
  toText : Principal → JsText

def eventHorizonCanisterText : JsText :=
  [101, 111, 54, 101, 105, 45, 103, 97, 97, 97, 97, 45, 97, 97, 97, 97, 114, 45, 113, 99, 104,
    114, 97, 45, 99, 97, 105]

def anonymousPrincipalText : JsText := [50, 118, 120, 115, 120, 45, 102, 97, 101]

def managementPrincipalText : JsText := [97, 97, 97, 97, 97, 45, 97, 97]

/-! ## Strings -/

/-- White space and line terminators, as `trim` and `\s` know them. -/
def isJsWhitespace (unit : UInt16) : Bool :=
  decide (9 ≤ unit ∧ unit ≤ 13) || decide (8192 ≤ unit ∧ unit ≤ 8202) ||
    decide (unit ∈ [32, 160, 5760, 8232, 8233, 8239, 8287, 12288, 65279])

def jsTrim (text : JsText) : JsText :=
  ((text.dropWhile isJsWhitespace).reverse.dropWhile isJsWhitespace).reverse

def isHighSurrogate (unit : UInt16) : Bool := decide (55296 ≤ unit ∧ unit ≤ 56319)

def isLowSurrogate (unit : UInt16) : Bool := decide (56320 ≤ unit ∧ unit ≤ 57343)

/-- `Array.from`: a surrogate pair is one character. -/
def characters : JsText → List JsText
  | [] => []
  | [unit] => [[unit]]
  | high :: low :: rest =>
      if isHighSurrogate high && isLowSurrogate low then [high, low] :: characters rest
      else [high] :: characters (low :: rest)

/-- The UTF-8 bytes of a character; a lone surrogate is encoded as the replacement character. -/
def characterBytes : JsText → Nat
  | [unit] => if unit < 128 then 1 else if unit < 2048 then 2 else 3
  | _ => 4

def byteLength (text : JsText) : Nat := ((characters text).map characterBytes).sum

def isAsciiUnit (unit : UInt16) : Bool := decide (unit < 128)

def hasOnlyAscii (text : JsText) : Bool := text.all isAsciiUnit

def isDigitUnit (unit : UInt16) : Bool := decide (48 ≤ unit ∧ unit ≤ 57)

def hasOnlyDigits (text : JsText) : Bool := !text.isEmpty && text.all isDigitUnit

def bigInt (text : JsText) : Nat := text.foldl (fun value unit => 10 * value + (unit.toNat - 48)) 0

def bigIntText (number : Nat) : JsText :=
  (Nat.toDigits 10 number).map fun digit => UInt16.ofNat digit.toNat

def indexOf (unit : UInt16) (text : JsText) : Option Nat :=
  text.findIdx? fun other => decide (other = unit)

def principalTextWithGroupSeparators (text : JsText) : JsText :=
  if text.contains 45 then text
  else (characters text).zipIdx.flatMap fun entry =>
    if 0 < entry.2 ∧ entry.2 % 5 = 0 then 45 :: entry.1 else entry.1

/-! ## The parser -/

structure DeclaredPrincipal where
  principal : Principal
  canisterText : JsText
  deriving DecidableEq, Repr

structure NumberedSubaccount where
  destinationSubaccount : Option (List UInt8)
  destinationSubaccountNumberText : Option JsText
  deriving DecidableEq, Repr

def NumberedSubaccount.default : NumberedSubaccount := ⟨none, none⟩

inductive JupiterMemo where
  | invalid (reason : String)
  | rawIcpCanister (canisterId : Principal) (canisterText : JsText)
      (destinationSubaccount : Option (List UInt8))
      (destinationSubaccountNumberText : Option JsText)
      (outgoingMemoText normalizedMemoText : JsText)
  | neuronStake (neuronId : Nat) (outgoingMemoText : Option JsText) (normalizedMemoText : JsText)
  | cyclesTopUp (canisterId : Principal) (canisterText normalizedMemoText : JsText)
  deriving DecidableEq, Repr

section Parsing

variable (lib : PrincipalLibrary)

def parseDeclaredPrincipalText (text : JsText) : Except String DeclaredPrincipal :=
  let trimmed := jsTrim text
  if trimmed.isEmpty then .error "Memo target is empty."
  else if maxTargetCanisterMemoBytes < byteLength trimmed then
    .error "Memo target is longer than 32 bytes."
  else
    match lib.fromText (principalTextWithGroupSeparators trimmed) with
    | none => .error "Memo target is not a valid canister principal or neuron ID."
    | some principal =>
        if lib.toText principal = anonymousPrincipalText then
          .error "Anonymous principal cannot be used as a Jupiter Faucet memo target."
        else if lib.toText principal = managementPrincipalText then
          .error ("The management canister principal cannot be used as a Jupiter Faucet memo " ++
            "target.")
        else .ok ⟨principal, lib.toText principal⟩

def parseNeuronIdText (text : JsText) : Option Nat :=
  if text.isEmpty || decide (maxNeuronIdMemoBytes < byteLength text) || !hasOnlyDigits text then
    none
  else
    let neuronId := bigInt text
    if neuronId = 0 ∨ u64Max < neuronId then none else some neuronId

def fillBytes : Nat → Nat → List UInt8 → List UInt8
  | 0, _, filled => filled
  | count + 1, remaining, filled =>
      fillBytes count (remaining / 256) (UInt8.ofNat (remaining % 256) :: filled)

def numberedSubaccountFromBigInt (number : Nat) : Option (List UInt8) :=
  if number = 0 then none else some (List.replicate 24 0 ++ fillBytes 8 number [])

def parseNumberedSubaccountText (input : JsText) (allowEmpty : Bool) :
    Except String NumberedSubaccount :=
  let text := jsTrim input
  if text.isEmpty then
    if allowEmpty then .ok .default else .error "Destination subaccount number is required."
  else if !hasOnlyDigits text then
    .error "Destination subaccount must use ASCII decimal digits only."
  else
    let number := bigInt text
    if u64Max < number then
      .error "Destination subaccount must fit in an unsigned 64-bit integer."
    else .ok
      { destinationSubaccount := numberedSubaccountFromBigInt number
        destinationSubaccountNumberText := if number = 0 then none else some (bigIntText number) }

def parseRawDestinationText (text : JsText) :
    Except String (DeclaredPrincipal × NumberedSubaccount) :=
  let destination := jsTrim text
  match indexOf 58 destination with
  | none => (parseDeclaredPrincipalText lib destination).map fun parsed => (parsed, .default)
  | some colonIndex =>
      if (indexOf 58 (destination.drop (colonIndex + 1))).isSome ||
          destination.any isJsWhitespace then
        .error ("Numbered raw ICP destinations must use owner:number with no internal " ++
          "whitespace.")
      else
        match parseDeclaredPrincipalText lib (destination.take colonIndex) with
        | .error reason => .error reason
        | .ok parsedOwner =>
            match parseNumberedSubaccountText (destination.drop (colonIndex + 1)) false with
            | .error reason => .error reason
            | .ok parsedNumber => .ok (parsedOwner, parsedNumber)

/-- The route of the fixed alias; the library decodes its text on every call. -/
def eventHorizonMemo (memoText suffix : JsText) : Option JupiterMemo :=
  if suffix.isEmpty then some (.invalid "Event Horizon alias suffix is empty.")
  else (lib.fromText eventHorizonCanisterText).map fun canisterId =>
    .rawIcpCanister canisterId eventHorizonCanisterText none none suffix memoText

def parseDottedMemo (left right : JsText) : JupiterMemo :=
  let leftTrimmed := jsTrim left
  match parseNeuronIdText leftTrimmed with
  | some neuronId => .neuronStake neuronId (some right) (leftTrimmed ++ 46 :: right)
  | none =>
      match parseRawDestinationText lib leftTrimmed with
      | .error reason => .invalid reason
      | .ok (parsed, numbered) =>
          let normalizedDestination := parsed.canisterText ++
            numbered.destinationSubaccountNumberText.elim [] fun number => 58 :: number
          .rawIcpCanister parsed.principal parsed.canisterText numbered.destinationSubaccount
            numbered.destinationSubaccountNumberText right (normalizedDestination ++ 46 :: right)

/-- `/^([^:]+):([0-9]+)$/`, with its first group. -/
def selectorMatch (trimmed : JsText) : Option JsText :=
  match indexOf 58 trimmed with
  | some colonIndex =>
      if decide (0 < colonIndex) && hasOnlyDigits (trimmed.drop (colonIndex + 1)) then
        some (trimmed.take colonIndex)
      else none
  | none => none

def isSelectorWithoutStop (trimmed : JsText) : Bool :=
  (selectorMatch trimmed).any fun owner => (parseDeclaredPrincipalText lib owner).isOk

def parsePlainMemo (memoText : JsText) : JupiterMemo :=
  let trimmed := jsTrim memoText
  match parseNeuronIdText trimmed with
  | some neuronId => .neuronStake neuronId none trimmed
  | none =>
      if hasOnlyDigits trimmed then
        .invalid ("Neuron memo must be a non-zero decimal neuron ID no longer than 20 bytes.")
      else if isSelectorWithoutStop lib trimmed then
        .invalid ("Raw ICP subaccount memos require a full stop after the number. Use " ++
          "owner:number. for an empty outgoing memo.")
      else
        match parseDeclaredPrincipalText lib memoText with
        | .error reason => .invalid reason
        | .ok parsed => .cyclesTopUp parsed.principal parsed.canisterText parsed.canisterText

def parseJupiterMemo (memoText : JsText) : Option JupiterMemo :=
  if memoText.isEmpty then some (.invalid "Paste a memo first.")
  else if !hasOnlyAscii memoText then
    some (.invalid "Memo must contain ASCII characters only.")
  else if maxTargetCanisterMemoBytes < byteLength memoText then
    some (.invalid "Memo must be no more than 32 bytes.")
  else if (jsTrim memoText).isEmpty then some (.invalid "Paste a non-empty memo first.")
  else
    match memoText with
    | 69 :: 46 :: suffix => eventHorizonMemo lib memoText suffix
    | _ =>
        match indexOf 46 memoText with
        | some dotIndex => some
            (parseDottedMemo lib (memoText.take dotIndex) (memoText.drop (dotIndex + 1)))
        | none => some (parsePlainMemo lib memoText)

end Parsing

end JupiterSuite.Memo.Frontend
