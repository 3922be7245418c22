import JupiterSuite.Clients.Ledger

/-! The memo directives of commitments. A memo that is parsed is ASCII, so its text is its
bytes. Decoding principal text belongs to the principal library and is a parameter. -/

namespace JupiterSuite.Memo

abbrev Text := List UInt8

def maxTargetCanisterMemoBytes : Nat := 32

def maxNeuronIdMemoBytes : Nat := 20

def eventHorizonCanisterId : Principal := ⟨[0, 0, 0, 0, 2, 48, 17, 226, 1, 1]⟩

def anonymous : Principal := ⟨[4]⟩

def managementCanister : Principal := ⟨[]⟩

inductive MemoDirective where
  | topUp (canisterId : Principal)
  | rawIcp (canisterId : Principal) (destinationSubaccount : Option (List UInt8))
      (memo : List UInt8)
  | neuronStake (neuronId : Nat) (memo : Option (List UInt8))
  deriving DecidableEq, Repr

def isAscii (byte : UInt8) : Bool := decide (byte < 128)

/-- The ASCII part of `char::is_whitespace`. -/
def isWhitespace (byte : UInt8) : Bool := decide (9 ≤ byte ∧ byte ≤ 13) || decide (byte = 32)

/-- `u8::is_ascii_whitespace` leaves the vertical tab out. -/
def isAsciiWhitespace (byte : UInt8) : Bool := isWhitespace byte && decide (byte ≠ 11)

def isAsciiDigit (byte : UInt8) : Bool := decide (48 ≤ byte ∧ byte ≤ 57)

def trim (text : Text) : Text :=
  ((text.dropWhile isWhitespace).reverse.dropWhile isWhitespace).reverse

def splitOnce (separator : UInt8) : Text → Option (Text × Text)
  | [] => none
  | byte :: rest =>
      if byte = separator then some ([], rest)
      else (splitOnce separator rest).map fun parts => (byte :: parts.1, parts.2)

/-- `str::parse::<u64>` of a text of digits. -/
def parseU64 (text : Text) : Option Nat :=
  let value := text.foldl (fun value byte => 10 * value + (byte.toNat - 48)) 0
  if value ≤ u64Max then some value else none

def principalTextWithGroupSeparators (text : Text) : Text :=
  if text.contains 45 then text
  else text.zipIdx.flatMap fun entry =>
    if 0 < entry.2 ∧ entry.2 % 5 = 0 then [45, entry.1] else [entry.1]

def withoutDashes (text : Text) : Text := text.filter fun byte => decide (byte ≠ 45)

def parseDeclaredPrincipalText (fromText : Text → Option Principal) (text : Text) :
    Option Principal :=
  let trimmed := trim text
  if trimmed.isEmpty || decide (maxTargetCanisterMemoBytes < trimmed.length) then none
  else
    (fromText (principalTextWithGroupSeparators trimmed)).filter fun principal =>
      principal ≠ anonymous && principal ≠ managementCanister

def parseNeuronIdText (text : Text) : Option Nat :=
  if text.isEmpty || decide (maxNeuronIdMemoBytes < text.length) then none
  else if !text.all isAsciiDigit then none
  else (parseU64 text).filter fun neuronId => neuronId ≠ 0

def numberedSubaccount (number : Nat) : Option (List UInt8) :=
  if number = 0 then none else some (List.replicate 24 0 ++ u64ToBeBytes number)

def parseNumberedSubaccountText (text : Text) : Option (Option (List UInt8)) :=
  if text.isEmpty || !text.all isAsciiDigit then none
  else (parseU64 text).map numberedSubaccount

def parseRawDestinationText (fromText : Text → Option Principal) (text : Text) :
    Option (Principal × Option (List UInt8)) :=
  let destination := trim text
  match splitOnce 58 destination with
  | some (ownerText, numberText) =>
      if ownerText.isEmpty || numberText.isEmpty || numberText.contains 58 ||
          destination.any isAsciiWhitespace then none
      else
        match parseDeclaredPrincipalText fromText ownerText with
        | none => none
        | some owner => (parseNumberedSubaccountText numberText).map fun sub => (owner, sub)
  | none => (parseDeclaredPrincipalText fromText destination).map fun owner => (owner, none)

/-- A declared target with its own outgoing memo, as in `target.memo`. -/
def parseDeclaredMemo (fromText : Text → Option Principal) (declared rawMemo : Text) :
    Option MemoDirective :=
  match parseNeuronIdText (trim declared) with
  | some neuronId => some (.neuronStake neuronId (some rawMemo))
  | none =>
      (parseRawDestinationText fromText declared).map fun destination =>
        .rawIcp destination.1 destination.2 rawMemo

def parseMemoDirective (fromText : Text → Option Principal) (memo : List UInt8) :
    Option MemoDirective :=
  if memo.isEmpty || decide (maxTargetCanisterMemoBytes < memo.length) || !memo.all isAscii then
    none
  else
    match memo with
    -- the fixed route "E."
    | 69 :: 46 :: suffix =>
        if suffix.isEmpty then none else some (.rawIcp eventHorizonCanisterId none suffix)
    | _ =>
        if (trim memo).isEmpty then none
        else
          match splitOnce 46 memo with
          | some (declared, rawMemo) => parseDeclaredMemo fromText declared rawMemo
          | none =>
              match parseNeuronIdText (trim memo) with
              | some neuronId => some (.neuronStake neuronId none)
              | none => (parseDeclaredPrincipalText fromText memo).map .topUp

end JupiterSuite.Memo
