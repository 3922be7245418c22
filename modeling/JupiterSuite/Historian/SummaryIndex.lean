import JupiterSuite.Base.Ranking
import JupiterSuite.Historian.Registry
import Mathlib.Data.Prod.Lex

/-! The cached summaries of the registered canisters, and the list that ranks them: the largest
total first, and by principal among equals. -/

namespace JupiterSuite.Historian.Registry

open Base Memo

abbrev SummaryCache := OrderedMap Principal MemoRegisteredCanisterSummary

abbrev TotalDescKey := ℕᵒᵈ ×ₗ Principal

def totalDescKey (totalE8s : Nat) (canisterId : Principal) : TotalDescKey :=
  toLex (OrderDual.toDual totalE8s, canisterId)

def MemoRegisteredCanisterSummary.totalDescKey (item : MemoRegisteredCanisterSummary) :
    TotalDescKey :=
  Registry.totalDescKey item.totalQualifyingCommittedE8s item.canisterId

/-- The key of a ranked canister. The code expects its summary to be cached; without one it would
trap, and here it would rank last of its principal. -/
def rankIn (cache : SummaryCache) (canisterId : Principal) : TotalDescKey :=
  match cache.lookup canisterId with
  | some summary => summary.totalDescKey
  | none => totalDescKey 0 canisterId

def removeRegisteredCanisterFromTotalDescIndex (index : List Principal)
    (canisterId : Principal) : List Principal :=
  index.filter fun existing => decide (existing ≠ canisterId)

def insertRegisteredCanisterIntoTotalDescIndex (cache : SummaryCache) (index : List Principal)
    (canisterId : Principal) : List Principal :=
  match cache.lookup canisterId with
  | none => index
  | some summary =>
      let kept := index.filter fun existing =>
        decide (existing ≠ canisterId) && (cache.lookup existing).isSome
      insertAt (binarySearch (rankIn cache) summary.totalDescKey kept) canisterId kept

namespace RegistryState

def refreshMemoRegisteredCanisterSummary (st : RegistryState) (canisterId : Principal) :
    RegistryState :=
  let cache := st.summariesCache.getD .empty
  let index := removeRegisteredCanisterFromTotalDescIndex (st.totalDescIndex.getD []) canisterId
  match st.memoRegisteredCanisterSummaryFor canisterId with
  | some summary =>
      let cache := cache.insert canisterId summary
      { st with
        summariesCache := some cache
        totalDescIndex :=
          some (insertRegisteredCanisterIntoTotalDescIndex cache index canisterId) }
  | none => { st with
      summariesCache := some (cache.erase canisterId)
      totalDescIndex := some index }

def rebuildMemoRegisteredCanisterSummariesCache (st : RegistryState) : RegistryState :=
  st.canisterTrackingReasons.keys.foldl refreshMemoRegisteredCanisterSummary
    { st with summariesCache := some .empty, totalDescIndex := some [] }

end RegistryState

/-- The loop over the ranked canisters: each summary is cached under its own canister and its key
comes after the one before. -/
def indexIsValidAfter (cache : SummaryCache) : Option TotalDescKey → List Principal → Bool
  | _, [] => true
  | previousKey, canisterId :: rest =>
      match cache.lookup canisterId with
      | none => false
      | some summary =>
          decide (summary.canisterId = canisterId) &&
            previousKey.all (fun previous => decide (previous < summary.totalDescKey)) &&
            indexIsValidAfter cache (some summary.totalDescKey) rest

def memoRegisteredCanisterSummaryIndexIsValid (st : RegistryState) : Bool :=
  match st.summariesCache, st.totalDescIndex with
  | some cache, some index =>
      decide (index.length = cache.entries.length) && indexIsValidAfter cache none index
  | _, _ => false

def repairMemoRegisteredCanisterSummariesIfInvalid (st : RegistryState) : RegistryState :=
  if memoRegisteredCanisterSummaryIndexIsValid st then st
  else st.rebuildMemoRegisteredCanisterSummariesCache

structure ListMemoRegisteredCanisterSummariesResponse where
  items : List MemoRegisteredCanisterSummary
  page : Nat
  pageSize : Nat
  total : Nat
  deriving DecidableEq, Repr

def u32Max : Nat := 2 ^ 32 - 1

/-- The loop over the inspected window, with the items of the page; `none` is a failed check. -/
def inspectWindow (cache : SummaryCache) (first last : Nat) :
    Nat → Option TotalDescKey → List Principal → Option (List MemoRegisteredCanisterSummary)
  | _, _, [] => some []
  | position, previousKey, canisterId :: rest =>
      match cache.lookup canisterId with
      | none => none
      | some summary =>
          if summary.canisterId ≠ canisterId then none
          else if previousKey.any fun previous => decide (summary.totalDescKey ≤ previous) then
            none
          else
            (inspectWindow cache first last (position + 1) (some summary.totalDescKey) rest).map
              fun items =>
                if first ≤ position ∧ position < last then summary :: items else items

def memoRegisteredCanisterSummariesTotalDescPage (st : RegistryState) (page pageSize : Nat) :
    Option ListMemoRegisteredCanisterSummariesResponse :=
  match st.summariesCache, st.totalDescIndex with
  | some cache, some index =>
      if cache.entries.length ≠ index.length then none
      else
        let first := min (page * pageSize) u32Max
        let last := min (min (first + pageSize) u32Max) index.length
        if index.length ≤ first then some ⟨[], page, pageSize, index.length⟩
        else
          let inspectedStart := first - 1
          let inspectedEnd := min (min (last + 1) u32Max) index.length
          (inspectWindow cache first last inspectedStart none
            ((index.take inspectedEnd).drop inspectedStart)).map fun items =>
              ⟨items, page, pageSize, index.length⟩
  | _, _ => none

def listMemoRegisteredCanisterSummaries (st : RegistryState) (page pageSize : Option Nat) :
    ListMemoRegisteredCanisterSummariesResponse :=
  let page := page.getD 0
  let pageSize := min (max (pageSize.getD 25) 1) 100
  (memoRegisteredCanisterSummariesTotalDescPage st page pageSize).getD ⟨[], page, pageSize, 0⟩

end JupiterSuite.Historian.Registry
