import JupiterSuite.Clients.Ledger

/-! How the frontend lists the incoming transfers of an account from pages of the ICP index. An
`Except` is a promise that resolves or throws; an id is the integer that a bigint, a safe integer
or a canonical text of digits stands for, and `none` where the value is none of these. -/

namespace JupiterSuite.Frontend

open Base

def maxSafeInteger : Nat := 9007199254740991

inductive IndexOperation where
  | transfer (fromAccount toAccount : String) (amountE8s : Option Nat)
  | other
  deriving DecidableEq, Repr

structure IndexTransaction where
  operation : IndexOperation
  timestamp : Option Nat
  createdAtTime : Option Nat
  icrc1Memo : Option (List UInt8)
  deriving DecidableEq, Repr

structure IndexTransactionWithId where
  id : Option Int
  transaction : IndexTransaction
  deriving DecidableEq, Repr

/-- `transactions` is `none` where the response has no array, the oldest id where it has none. -/
structure IndexResponse where
  transactions : Option (List IndexTransactionWithId)
  oldestTxId : Option (Option Int)
  deriving DecidableEq, Repr

abbrev IndexActor := Nat → Option Nat → Except String IndexResponse

structure IncomingTransfer where
  txId : Int
  timestampNanos : Option Nat
  amountE8s : Nat
  fromAccountIdentifier : String
  toAccountIdentifier : String
  icrc1MemoText : Option String
  isMatchingSource : Bool
  isMatchingMemo : Bool
  deriving DecidableEq, Repr

/-! ## Transactions -/

def transactionTimestampNanos (transaction : IndexTransaction) : Option Nat :=
  transaction.timestamp.or transaction.createdAtTime

def isAtOrAfterTimestamp (item : IncomingTransfer) (minTimestampNanos : Option Int) : Bool :=
  match minTimestampNanos with
  | none => true
  | some least => item.timestampNanos.any fun timestamp : Nat => decide (least ≤ (timestamp : Int))

def pageCrossedTimestampCutoff (transactions : List IndexTransactionWithId)
    (minTimestampNanos : Option Int) : Bool :=
  match minTimestampNanos with
  | none => false
  | some least =>
      match transactions.filterMap fun tx => transactionTimestampNanos tx.transaction with
      | [] => false
      | first :: rest =>
          decide (((rest.foldl (fun oldest timestamp =>
            if timestamp < oldest then timestamp else oldest) first : Nat) : Int) < least)

def decodeMemoText (memo : List UInt8) : Option String :=
  let bytes := if memo.take 3 = [239, 187, 191] then memo.drop 3 else memo
  String.fromUTF8? ⟨bytes.toArray⟩

section Incoming

-- `toLowerCase` of a text.
variable (toLowerCase : String → String)

def incomingIcpTransferFromIndexTransaction (tx : IndexTransactionWithId)
    (expectedToAccountIdentifier : String) (sourceIds : List String) (memoText : Option String) :
    Option IncomingTransfer :=
  match tx.transaction.operation, tx.id with
  | .transfer fromAccount toAccount (some amount), some txId =>
      if toLowerCase toAccount ≠ expectedToAccountIdentifier then none
      else
        let icrc1MemoText := tx.transaction.icrc1Memo.bind decodeMemoText
        some
          { txId
            timestampNanos := transactionTimestampNanos tx.transaction
            amountE8s := amount
            fromAccountIdentifier := fromAccount
            toAccountIdentifier := toAccount
            icrc1MemoText
            isMatchingSource := sourceIds.contains (toLowerCase fromAccount)
            isMatchingMemo := memoText.any fun memo => decide (icrc1MemoText = some memo) }
  | _, _ => none

end Incoming

def uniqueTransfers : List Int → List IncomingTransfer → List IncomingTransfer
  | _, [] => []
  | seen, item :: rest =>
      if item.txId ∈ seen then uniqueTransfers seen rest
      else item :: uniqueTransfers (item.txId :: seen) rest

def normalizeRouteTransferItems (items : List IncomingTransfer) (limit : Nat) :
    List IncomingTransfer :=
  ((uniqueTransfers [] items).mergeSort fun first second =>
    decide (second.txId ≤ first.txId)).take limit

/-! ## Pages -/

def indexPageLimit (maxPages : Int) : Except String Nat :=
  let count := max 1 maxPages
  if (maxSafeInteger : Int) < count then .error "ICP index page count must be finite"
  else .ok count.toNat

def blockId (value : Option Int) : Except String Nat :=
  match value with
  | none => .error "ICP index returned a malformed page ID"
  | some id =>
      if id < 0 ∨ (u64Max : Int) < id then .error "ICP index returned a malformed page ID"
      else .ok id.toNat

def descend (previous : Option Nat) (isFirst : Bool) :
    List IndexTransactionWithId → Except String (Option Nat)
  | [] => .ok previous
  | tx :: rest =>
      match blockId tx.id with
      | .error thrown => .error thrown
      | .ok id =>
          if previous.any fun bound => decide (bound < id) || (isFirst && decide (id = bound)) then
            .error "ICP index page did not advance in descending exclusive order"
          else descend (some id) false rest

def oldestId (oldestTxId : Option (Option Int)) : Except String (Option Nat) :=
  match oldestTxId with
  | none => .ok none
  | some value => (blockId value).map some

def nextIndexPageStart (response : IndexResponse) (start : Option Nat) (pageSize : Nat) :
    Except String (Option Nat) :=
  match response.transactions with
  | none => .error "ICP index returned a malformed page"
  | some transactions =>
      if pageSize < transactions.length then .error "ICP index returned a malformed page"
      else
        match descend start true transactions, oldestId response.oldestTxId with
        | .error thrown, _ => .error thrown
        | _, .error thrown => .error thrown
        | .ok previous, .ok oldest =>
            if transactions.isEmpty then
              if oldest.any fun least => start.all fun bound => decide (least < bound) then
                .error "ICP index returned an incomplete empty page"
              else .ok none
            else if oldest.any fun least => previous.any fun last => decide (last < least) then
              .error "ICP index page precedes its oldest transaction"
            -- The start is exclusive, so that the last id itself is the next one.
            else if previous = some 0 ∨ previous = oldest ∨
                (oldest = none ∧ transactions.length < pageSize) then .ok none
            else .ok previous

def getAccountIdentifierTransactions (index : IndexActor) (call : Nat) (start : Option Nat)
    (maxResults : Nat) : Except String IndexResponse :=
  if maxSafeInteger < maxResults ∨ maxResults = 0 then
    .error "ICP index page size must be positive"
  else index call start

/-! ## Loading -/

structure LoadOptions where
  limit : Nat
  pageSize : Nat
  maxPages : Option Int
  sourceAccountIdentifiers : List String
  memoText : Option String
  minTimestampNanos : Option Int

/-- `Math.ceil(Math.max(1, limit) / Math.max(1, pageSize))`, the default of `maxPages`. -/
def defaultMaxPages (limit pageSize : Nat) : Int := divCeil (max 1 limit) (max 1 pageSize)

structure TransferProgress where
  items : List IncomingTransfer
  truncated : Bool
  loading : Bool
  pagesLoaded : Nat
  deriving DecidableEq, Repr

structure LoadState where
  page : Nat
  start : Option Nat
  items : List IncomingTransfer
  seen : List Int
  truncated : Bool
  progress : List TransferProgress
  deriving DecidableEq, Repr

structure LoadedTransfers where
  items : List IncomingTransfer
  truncated : Bool
  limit : Nat
  pageSize : Nat
  progress : List TransferProgress
  deriving DecidableEq, Repr

/-- What a page adds: the items, the ids seen, and whether a match found no place. -/
structure Collected where
  items : List IncomingTransfer
  seen : List Int
  additionalMatches : Bool
  deriving DecidableEq, Repr

section Loading

variable (toLowerCase : String → String) (accountIdentifier : String) (options : LoadOptions)

def LoadOptions.sourceIds : List String :=
  (options.sourceAccountIdentifiers.map toLowerCase).filter fun id => decide (id ≠ "")

/-- The transaction as a listed transfer: incoming, and inside the time window. -/
def matchingTransfer (tx : IndexTransactionWithId) : Option IncomingTransfer :=
  (incomingIcpTransferFromIndexTransaction toLowerCase tx accountIdentifier
    (options.sourceIds toLowerCase) options.memoText).filter fun item =>
      isAtOrAfterTimestamp item options.minTimestampNanos

def collect (acc : Collected) (tx : IndexTransactionWithId) : Collected :=
  match matchingTransfer toLowerCase accountIdentifier options tx with
  | none => acc
  | some item =>
      if item.txId ∈ acc.seen then acc
      else if acc.items.length < options.limit then
        { acc with items := acc.items ++ [item], seen := item.txId :: acc.seen }
      else { acc with seen := item.txId :: acc.seen, additionalMatches := true }

def afterPage (pageLimit : Nat) (st : LoadState) (nextStart : Option Nat)
    (transactions : List IndexTransactionWithId) : LoadState × Bool :=
  let reachedTimeWindowEnd := pageCrossedTimestampCutoff transactions options.minTimestampNanos
  let collected := transactions.foldl (collect toLowerCase accountIdentifier options)
    ⟨st.items, st.seen, false⟩
  let moreHistory := nextStart.isSome && !reachedTimeWindowEnd
  let truncated := collected.additionalMatches || (moreHistory &&
    (decide (options.limit ≤ collected.items.length) || decide (pageLimit ≤ st.page + 1)))
  let loading := moreHistory && !truncated
  let shown : TransferProgress :=
    ⟨normalizeRouteTransferItems collected.items options.limit, truncated, loading, st.page + 1⟩
  ({ page := st.page + 1
     start := if loading then nextStart else st.start
     items := collected.items
     seen := collected.seen
     truncated := truncated
     progress := st.progress ++ [shown] }, loading)

/-- The loop over the pages; `left` is how many of them the page limit still allows. -/
def loadPages (index : IndexActor) (pageLimit : Nat) : Nat → LoadState → Except String LoadState
  | 0, st => .ok st
  | left + 1, st =>
      if st.items.length < options.limit then
        match getAccountIdentifierTransactions index st.page st.start options.pageSize with
        | .error thrown => .error thrown
        | .ok response =>
            match nextIndexPageStart response st.start options.pageSize with
            | .error thrown => .error thrown
            | .ok nextStart =>
                let after := afterPage toLowerCase accountIdentifier options pageLimit st nextStart
                  (response.transactions.getD [])
                if after.2 then loadPages index pageLimit left after.1 else .ok after.1
      else .ok st

/-- The listing of the account with this identifier; without an account there are no items. -/
def loadIncomingIcpTransfersFromIndex (index : Option IndexActor) (account : Option String) :
    Except String (Option LoadedTransfers) :=
  match index, account with
  | none, _ => .error "ICP index actor is unavailable"
  | some _, none => .ok none
  | some actor, some accountIdentifier =>
      match indexPageLimit
          (options.maxPages.getD (defaultMaxPages options.limit options.pageSize)) with
      | .error thrown => .error thrown
      | .ok pageLimit =>
          match loadPages toLowerCase accountIdentifier options actor pageLimit pageLimit
              ⟨0, none, [], [], false, []⟩ with
          | .error thrown => .error thrown
          | .ok st => .ok (some
              { items := normalizeRouteTransferItems st.items options.limit
                truncated := st.truncated
                limit := options.limit
                pageSize := options.pageSize
                progress := st.progress })

end Loading

end JupiterSuite.Frontend
