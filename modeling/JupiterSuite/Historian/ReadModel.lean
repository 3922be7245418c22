import JupiterSuite.Base.CursorPages
import JupiterSuite.Historian.HistoryStore
import Mathlib.Data.String.Basic

/-! The paged queries of the historian. Each of them reads a list in order, behind the cursor of its
caller, and looks one item ahead to tell whether it has another page. -/

namespace JupiterSuite.Historian.Registry

open Base

def maxPublicQueryLimit : Nat := 100

def clampPublicLimit (limit : Option Nat) (default : Nat) : Nat :=
  min (max (limit.getD default) 1) maxPublicQueryLimit

/-! ## Canisters -/

structure ListCanistersArgs where
  startAfter : Option Principal
  limit : Option Nat
  trackingReasonFilter : Option CanisterTrackingReason

structure CanisterListItem where
  canisterId : Principal
  trackingReasons : List CanisterTrackingReason
  deriving DecidableEq, Repr

structure ListCanistersResponse where
  items : List CanisterListItem
  nextStartAfter : Option Principal
  deriving DecidableEq, Repr

/-- The entry of a canister, unless it is invisible or the filter leaves it out. -/
def RegistryState.canisterListItem (st : RegistryState)
    (trackingReasonFilter : Option CanisterTrackingReason) (canisterId : Principal) :
    Option CanisterListItem :=
  match st.visibleTrackingReasonsForCanister canisterId with
  | none => none
  | some trackingReasons =>
      if trackingReasonFilter.all fun filter => decide (filter ∈ trackingReasons) then
        some ⟨canisterId, trackingReasons⟩
      else none

def RegistryState.listCanisters (st : RegistryState) (args : ListCanistersArgs) :
    ListCanistersResponse :=
  let limit := clampPublicLimit args.limit 50
  let range := st.distinctCanisters.keys.filter fun canisterId =>
    args.startAfter.all fun startAfter => decide (startAfter < canisterId)
  let page := fillPage CanisterListItem.canisterId limit
    (st.canisterListItem args.trackingReasonFilter) range []
  ⟨page.1, page.2⟩

/-! ## Histories -/

def inOrder {α : Type} (descending : Bool) (history : List α) : List α :=
  if descending then history.reverse else history

/-- The item lies behind the cursor in the order of the query. -/
def includes (descending : Bool) (cursor : Option Nat) (position : Nat) : Bool :=
  match cursor with
  | some start => if descending then decide (position < start) else decide (start < position)
  | none => true

structure GetCyclesHistoryArgs where
  canisterId : Principal
  startAfterTs : Option Nat
  limit : Option Nat
  descending : Option Bool

structure CyclesHistoryPage where
  items : List CyclesSample
  nextStartAfterTs : Option Nat
  deriving DecidableEq, Repr

def RegistryState.getCyclesHistory (st : RegistryState) (args : GetCyclesHistoryArgs) :
    CyclesHistoryPage :=
  let descending := args.descending.getD false
  let limit := clampPublicLimit args.limit 100
  let page := fillPage CyclesSample.timestampNanos limit
    (fun item =>
      if includes descending args.startAfterTs item.timestampNanos then some item else none)
    (inOrder descending (st.cyclesHistorySnapshot args.canisterId)) []
  ⟨page.1, page.2⟩

structure CommitmentHistoryPage where
  items : List CommitmentSample
  nextStartAfterTxId : Option Nat
  deriving DecidableEq, Repr

def commitmentHistoryPageFromSnapshot (history : List CommitmentSample)
    (startAfterTxId limit : Option Nat) (descending : Option Bool) : CommitmentHistoryPage :=
  let descending := descending.getD false
  let limit := clampPublicLimit limit 100
  let page := fillPage CommitmentSample.txId limit
    (fun item => if includes descending startAfterTxId item.txId then some item else none)
    (inOrder descending history) []
  ⟨page.1, page.2⟩

structure GetCommitmentHistoryArgs where
  canisterId : Principal
  startAfterTxId : Option Nat
  limit : Option Nat
  descending : Option Bool

def RegistryState.getCommitmentHistory (st : RegistryState) (args : GetCommitmentHistoryArgs) :
    CommitmentHistoryPage :=
  commitmentHistoryPageFromSnapshot (st.commitmentHistorySnapshot args.canisterId)
    args.startAfterTxId args.limit args.descending

/-- The outer `none` stands for a subaccount that is not 32 bytes long. -/
def normalizeRawDestination (destinationSubaccount : Option (List UInt8)) :
    Option (Option (List UInt8)) :=
  match destinationSubaccount with
  | none => some none
  | some bytes =>
      if bytes.length ≠ 32 then none
      else some (if bytes.any fun byte => decide (byte ≠ 0) then some bytes else none)

structure GetRawIcpCommitmentHistoryArgs where
  canisterId : Principal
  destinationSubaccount : Option (List UInt8)
  startAfterTxId : Option Nat
  limit : Option Nat
  descending : Option Bool

def forDestination (destinationSubaccount : Option (List UInt8))
    (history : List CommitmentSample) : List CommitmentSample :=
  history.filter fun sample => decide
    (normalizeRawDestination sample.rawIcpDestinationSubaccount = some destinationSubaccount)

def RegistryState.getRawIcpCommitmentHistory (st : RegistryState)
    (args : GetRawIcpCommitmentHistoryArgs) : CommitmentHistoryPage :=
  match normalizeRawDestination args.destinationSubaccount with
  | none => ⟨[], none⟩
  | some destinationSubaccount =>
      commitmentHistoryPageFromSnapshot
        (forDestination destinationSubaccount (st.rawIcpCommitmentHistorySnapshot args.canisterId))
        args.startAfterTxId args.limit args.descending

structure GetNeuronCommitmentHistoryArgs where
  neuronId : Nat
  startAfterTxId : Option Nat
  limit : Option Nat
  descending : Option Bool

def RegistryState.getNeuronCommitmentHistory (st : RegistryState)
    (args : GetNeuronCommitmentHistoryArgs) : CommitmentHistoryPage :=
  commitmentHistoryPageFromSnapshot (st.neuronCommitmentHistorySnapshot args.neuronId)
    args.startAfterTxId args.limit args.descending

/-! ## Aliases -/

def disburserCanisterText : String := "uccpi-cqaaa-aaaar-qby3q-cai"

def eventHorizonText : String := "eo6ei-gaaaa-aaaar-qchra-cai"

/-- `CANISTER_ALIASES`. -/
def reviewedAliases : List (String × String) :=
  [("D", disburserCanisterText), ("E", eventHorizonText)]

structure CanisterAlias where
  aliasText : String
  canisterId : Principal
  deriving DecidableEq, Repr

structure ListCanisterAliasesArgs where
  startAfter : Option String
  limit : Option Nat

structure ListCanisterAliasesResponse where
  revision : List UInt8
  items : List CanisterAlias
  nextStartAfter : Option String
  deriving DecidableEq, Repr

section Aliases

-- The decoder of principal texts and the digest.
variable (fromText : String → Option Principal) (sha256 : List UInt8 → List UInt8)

def textBytes (text : String) : List UInt8 := text.toUTF8.data.toList

/-- Sorted by alias; the decoder panics where it has no principal. -/
def aliasTable (bindings : List (String × String)) : Option (List CanisterAlias) :=
  (bindings.mapM fun binding =>
    (fromText binding.2).map fun canisterId => (⟨binding.1, canisterId⟩ : CanisterAlias)).map
      fun table => table.insertionSort fun first second => first.aliasText ≤ second.aliasText

def aliasEntryBytes (item : CanisterAlias) : List UInt8 :=
  UInt8.ofNat (textBytes item.aliasText).length :: textBytes item.aliasText ++
    UInt8.ofNat item.canisterId.bytes.length :: item.canisterId.bytes

/-- The fingerprint of the whole table. -/
def aliasRevision (table : List CanisterAlias) : List UInt8 :=
  sha256 (textBytes "JUPITER_CANISTER_ALIASES_V1" ++ [0] ++ (u64ToBeBytes table.length).drop 4 ++
    table.flatMap aliasEntryBytes)

def canisterAliasesPage (bindings : List (String × String)) (args : ListCanisterAliasesArgs) :
    Option ListCanisterAliasesResponse :=
  (aliasTable fromText bindings).map fun table =>
    let limit := min (max (args.limit.getD 128) 1) 128
    let remaining := table.filter fun item =>
      args.startAfter.all fun cursor => decide (cursor < item.aliasText)
    let items := remaining.take limit
    { revision := aliasRevision sha256 table
      items := items
      nextStartAfter :=
        (remaining.drop limit).head?.bind fun _ => items.getLast?.map CanisterAlias.aliasText }

def listCanisterAliases (args : ListCanisterAliasesArgs) : Option ListCanisterAliasesResponse :=
  canisterAliasesPage fromText sha256 reviewedAliases args

end Aliases

end JupiterSuite.Historian.Registry
