import JupiterSuite.Historian.ReadModel
import JupiterSuite.Historian.StoredHistories

/-! Every paged query comes to an end when its cursors are followed, and shows what is visible in
order and once. -/

namespace JupiterSuite.Historian.Registry

open Base

theorem clampPublicLimit_positive (limit : Option Nat) {default : Nat} :
    0 < clampPublicLimit limit default := by
  rw [clampPublicLimit, maxPublicQueryLimit]
  omega

/-! ## The order of a query -/

def inDirection (descending : Bool) (first second : Nat) : Prop :=
  if descending then second < first else first < second

instance (descending : Bool) : DecidableRel (inDirection descending) := fun first second =>
  inferInstanceAs (Decidable (if descending then second < first else first < second))

instance (descending : Bool) : IsStrictOrder Nat (inDirection descending) where
  irrefl position := by
    cases descending <;> simp [inDirection]
  trans first second third := by
    cases descending with
    | false => exact Nat.lt_trans
    | true => exact fun below above => Nat.lt_trans above below

theorem includes_eq {α : Type} (descending : Bool) (key : α → Nat) (cursor : Option Nat)
    (item : α) :
    includes descending cursor (key item) = afterCursor (inDirection descending) key cursor item := by
  cases cursor with
  | none => rfl
  | some start => cases descending <;> simp [includes, afterCursor, inDirection]

theorem inOrder_ordered {α : Type} {key : α → Nat} {history : List α} (descending : Bool)
    (ascending : history.Pairwise fun first second => key first < key second) :
    (inOrder descending history).Pairwise fun first second =>
      inDirection descending (key first) (key second) := by
  cases descending with
  | false => exact ascending
  | true => exact List.pairwise_reverse.mpr ascending

/-- A page of a history is what its cursor leaves of the history, cut at the limit. -/
theorem fillPage_history {α : Type} (key : α → Nat) (history : List α) (cursor : Option Nat)
    (limit : Nat) (descending : Bool) :
    fillPage key limit
      (fun item => if includes descending cursor (key item) then some item else none)
      (inOrder descending history) [] =
        cutPage key limit ((inOrder descending history).filter
          (afterCursor (inDirection descending) key cursor)) := by
  have same : (fun item => if includes descending cursor (key item) then some item else none) =
      Option.guard (afterCursor (inDirection descending) key cursor) := by
    funext item
    rw [includes_eq]
    rfl
  rw [fillPage_eq key _ _ (Nat.zero_le limit), List.nil_append, same, List.filterMap_eq_filter]

theorem history_enumerates {α : Type} {key : α → Nat} {history : List α} {limit : Nat}
    (positive : 0 < limit) (descending : Bool)
    (ascending : history.Pairwise fun first second => key first < key second) :
    Enumerates (inDirection descending) key
      (fun cursor => fillPage key limit
        (fun item => if includes descending cursor (key item) then some item else none)
        (inOrder descending history) [])
      (inOrder descending history) :=
  enumerates_all positive (inOrder_ordered descending ascending) fun cursor =>
    fillPage_history key history cursor limit descending

theorem sortByTxId_strict (distinct : (history.map CommitmentSample.txId).Nodup) :
    (sortByTxId history).Pairwise fun first second => first.txId < second.txId := by
  have total : Std.Total fun first second : CommitmentSample => first.txId ≤ second.txId :=
    ⟨fun first second => Nat.le_total first.txId second.txId⟩
  have trans : IsTrans CommitmentSample fun first second => first.txId ≤ second.txId :=
    ⟨fun _ _ _ => Nat.le_trans⟩
  have sorted := List.pairwise_insertionSort
    (fun first second : CommitmentSample => first.txId ≤ second.txId) history
  have apart : (sortByTxId history).Pairwise fun first second => first.txId ≠ second.txId :=
    List.pairwise_map.mp (((List.perm_insertionSort _ history).map _).nodup_iff.mpr distinct)
  refine (sorted.and apart).imp ?_
  intro first second both
  exact Nat.lt_of_le_of_ne both.1 both.2

/-- A page of commitments as its items and the cursor of the next page. -/
def CommitmentHistoryPage.cut (page : CommitmentHistoryPage) :
    List CommitmentSample × Option Nat :=
  (page.items, page.nextStartAfterTxId)

theorem snapshot_enumerates
    (ascending : history.Pairwise fun first second => first.txId < second.txId) (limit : Option Nat)
    (descending : Option Bool) :
    Enumerates (inDirection (descending.getD false)) CommitmentSample.txId
      (fun cursor => (commitmentHistoryPageFromSnapshot history cursor limit descending).cut)
      (inOrder (descending.getD false) history) :=
  history_enumerates (clampPublicLimit_positive limit) (descending.getD false) ascending

/-! ## Canisters -/

section Canisters

variable (st : RegistryState) (trackingReasonFilter : Option CanisterTrackingReason)

def RegistryState.visibleCanisters : List CanisterListItem :=
  st.distinctCanisters.keys.filterMap (st.canisterListItem trackingReasonFilter)

variable {st trackingReasonFilter}

theorem canisterListItem_id {canisterId : Principal} {item : CanisterListItem}
    (shown : st.canisterListItem trackingReasonFilter canisterId = some item) :
    item.canisterId = canisterId := by
  rw [RegistryState.canisterListItem] at shown
  split at shown
  · cases shown
  · split at shown
    · cases shown
      rfl
    · cases shown

theorem visibleCanisters_ordered : (st.visibleCanisters trackingReasonFilter).Pairwise
    fun first second => first.canisterId < second.canisterId := by
  have ascending : st.distinctCanisters.keys.Pairwise fun first second => first < second :=
    List.pairwise_map.mpr st.distinctCanisters.ascending
  apply List.Pairwise.filterMap _ _ ascending
  intro first second below one shown other listed
  rw [canisterListItem_id shown, canisterListItem_id listed]
  exact below

theorem listCanisters_enumerates (limit : Option Nat) :
    Enumerates (fun first second => first < second) CanisterListItem.canisterId
      (fun cursor =>
        let page := st.listCanisters ⟨cursor, limit, trackingReasonFilter⟩
        (page.items, page.nextStartAfter))
      (st.visibleCanisters trackingReasonFilter) := by
  apply enumerates_all (clampPublicLimit_positive limit) visibleCanisters_ordered
  intro cursor
  simp only [RegistryState.listCanisters]
  rw [fillPage_eq _ _ _ (Nat.zero_le _), List.nil_append, RegistryState.visibleCanisters,
    ← filterMap_filter]
  intro canisterId item shown
  rw [afterCursor, canisterListItem_id shown]

end Canisters

/-! ## Aliases -/

section Aliases

variable {fromText : String → Option Principal} {sha256 : List UInt8 → List UInt8}
  {bindings : List (String × String)} {table : List CanisterAlias}

theorem aliasTable_names (built : aliasTable fromText bindings = some table) :
    (table.map CanisterAlias.aliasText).Perm (bindings.map Prod.fst) := by
  rw [aliasTable, Option.map_eq_some_iff] at built
  obtain ⟨decoded, done, rfl⟩ := built
  apply ((List.perm_insertionSort _ decoded).map _).trans
  have names : decoded.map CanisterAlias.aliasText = bindings.map Prod.fst := by
    induction bindings generalizing decoded with
    | nil =>
        cases done
        rfl
    | cons binding rest ih =>
        simp only [List.mapM_cons, Option.bind_eq_bind, Option.bind_eq_some_iff,
          Option.map_eq_some_iff, Option.pure_def, Option.some.injEq] at done
        obtain ⟨_, ⟨canisterId, _, rfl⟩, later, done, rfl⟩ := done
        rw [List.map_cons, List.map_cons, ih later done]
  rw [names]

theorem aliasTable_ordered (built : aliasTable fromText bindings = some table)
    (distinct : (bindings.map Prod.fst).Nodup) :
    table.Pairwise fun first second => first.aliasText < second.aliasText := by
  have apart : table.Pairwise fun first second => first.aliasText ≠ second.aliasText :=
    List.pairwise_map.mp ((aliasTable_names built).nodup_iff.mpr distinct)
  rw [aliasTable, Option.map_eq_some_iff] at built
  obtain ⟨decoded, _, rfl⟩ := built
  have total : Std.Total fun first second : CanisterAlias => first.aliasText ≤ second.aliasText :=
    ⟨fun first second => le_total first.aliasText second.aliasText⟩
  have trans : IsTrans CanisterAlias fun first second => first.aliasText ≤ second.aliasText :=
    ⟨fun _ _ _ => le_trans⟩
  have sorted := List.pairwise_insertionSort
    (fun first second : CanisterAlias => first.aliasText ≤ second.aliasText) decoded
  refine (sorted.and apart).imp ?_
  intro first second both
  exact lt_of_le_of_ne both.1 both.2

theorem aliasTable_decodes (decoded : ∀ binding ∈ bindings, (fromText binding.2).isSome = true) :
    ∃ table, aliasTable fromText bindings = some table := by
  have whole : ∃ decoded, (bindings.mapM fun binding =>
      (fromText binding.2).map fun canisterId => (⟨binding.1, canisterId⟩ : CanisterAlias)) =
        some decoded := by
    induction bindings with
    | nil => exact ⟨[], rfl⟩
    | cons binding rest ih =>
        obtain ⟨canisterId, here⟩ :=
          Option.isSome_iff_exists.mp (decoded binding List.mem_cons_self)
        obtain ⟨later, there⟩ := ih fun other member =>
          decoded other (List.mem_cons_of_mem binding member)
        refine ⟨⟨binding.1, canisterId⟩ :: later, ?_⟩
        rw [List.mapM_cons, here, there]
        rfl
  obtain ⟨decoded_table, done⟩ := whole
  rw [aliasTable, done]
  exact ⟨_, rfl⟩

/-- What an alias page shows, with the cursor of the next one; nothing where it panics. -/
def aliasCut (response : Option ListCanisterAliasesResponse) : List CanisterAlias × Option String :=
  (response.map fun page => (page.items, page.nextStartAfter)).getD ([], none)

theorem canisterAliasesPage_cut (built : aliasTable fromText bindings = some table)
    (limit : Option Nat) (cursor : Option String) :
    aliasCut (canisterAliasesPage fromText sha256 bindings ⟨cursor, limit⟩) =
      cutPage CanisterAlias.aliasText (min (max (limit.getD 128) 1) 128)
        (table.filter (afterCursor (fun first second => first < second) CanisterAlias.aliasText
          cursor)) := by
  rw [canisterAliasesPage, built]
  simp only [aliasCut, Option.map_some, Option.getD_some, cutPage]
  generalize min (max (limit.getD 128) 1) 128 = most
  have after : (fun item : CanisterAlias => cursor.all fun start =>
      decide (start < item.aliasText)) =
        afterCursor (fun first second => first < second) CanisterAlias.aliasText cursor := rfl
  rw [after]
  generalize table.filter (afterCursor (fun first second => first < second)
    CanisterAlias.aliasText cursor) = remaining
  congr 1
  by_cases more : most < remaining.length
  · have present : remaining.drop most ≠ [] := by
      intro nothing
      have length := congrArg List.length nothing
      rw [List.length_drop, List.length_nil] at length
      omega
    rw [if_pos more, List.head?_eq_some_head present, Option.bind_some]
  · rw [if_neg more, List.drop_eq_nil_of_le (Nat.le_of_not_lt more)]
    rfl

theorem aliases_enumerate (built : aliasTable fromText bindings = some table)
    (distinct : (bindings.map Prod.fst).Nodup) (limit : Option Nat) :
    Enumerates (fun first second => first < second) CanisterAlias.aliasText
      (fun cursor => aliasCut (canisterAliasesPage fromText sha256 bindings ⟨cursor, limit⟩))
      table :=
  enumerates_all (by omega) (aliasTable_ordered built distinct)
    fun cursor => canisterAliasesPage_cut built limit cursor

theorem bindings_enumerate (distinct : (bindings.map Prod.fst).Nodup)
    (decodes : ∀ binding ∈ bindings, (fromText binding.2).isSome = true) (limit : Option Nat) :
    ∃ table, aliasTable fromText bindings = some table ∧
      (table.map CanisterAlias.aliasText).Perm (bindings.map Prod.fst) ∧
      Enumerates (fun first second => first < second) CanisterAlias.aliasText
        (fun cursor => aliasCut (canisterAliasesPage fromText sha256 bindings ⟨cursor, limit⟩))
        table := by
  obtain ⟨table, built⟩ := aliasTable_decodes decodes
  exact ⟨table, built, aliasTable_names built, aliases_enumerate built distinct limit⟩

end Aliases

/-! ## All paged queries -/

structure DistinctHistories (st : RegistryState) : Prop where
  cycles : ∀ canisterId, Ascending (st.cyclesHistorySnapshot canisterId)
  commitments : ∀ canisterId,
    ((st.commitmentHistorySnapshot canisterId).map CommitmentSample.txId).Nodup
  rawIcpCommitments : ∀ canisterId,
    ((st.rawIcpCommitmentHistorySnapshot canisterId).map CommitmentSample.txId).Nodup
  neuronCommitments : ∀ neuronId,
    ((st.neuronCommitmentHistorySnapshot neuronId).map CommitmentSample.txId).Nodup

/-- The samples of a raw destination that are visible under the caller's subaccount. -/
def RegistryState.visibleRawIcpCommitments (st : RegistryState) (canisterId : Principal)
    (destinationSubaccount : Option (List UInt8)) : List CommitmentSample :=
  match normalizeRawDestination destinationSubaccount with
  | none => []
  | some destination => forDestination destination (st.rawIcpCommitmentHistorySnapshot canisterId)

/-- Following the cursors that a query returns shows what is visible, in order and once. -/
structure PaginatesCompletely (st : RegistryState) (limit : Option Nat)
    (fromText : String → Option Principal) (sha256 : List UInt8 → List UInt8) : Prop where
  canisters : ∀ trackingReasonFilter,
    Enumerates (fun first second => first < second) CanisterListItem.canisterId
      (fun cursor =>
        let page := st.listCanisters ⟨cursor, limit, trackingReasonFilter⟩
        (page.items, page.nextStartAfter))
      (st.visibleCanisters trackingReasonFilter)
  cycles : ∀ canisterId descending,
    Enumerates (inDirection (descending.getD false)) CyclesSample.timestampNanos
      (fun cursor =>
        let page := st.getCyclesHistory ⟨canisterId, cursor, limit, descending⟩
        (page.items, page.nextStartAfterTs))
      (inOrder (descending.getD false) (st.cyclesHistorySnapshot canisterId))
  commitments : ∀ canisterId descending,
    Enumerates (inDirection (descending.getD false)) CommitmentSample.txId
      (fun cursor => (st.getCommitmentHistory ⟨canisterId, cursor, limit, descending⟩).cut)
      (inOrder (descending.getD false) (st.commitmentHistorySnapshot canisterId))
  rawIcpCommitments : ∀ canisterId destinationSubaccount descending,
    Enumerates (inDirection (descending.getD false)) CommitmentSample.txId
      (fun cursor => (st.getRawIcpCommitmentHistory
        ⟨canisterId, destinationSubaccount, cursor, limit, descending⟩).cut)
      (inOrder (descending.getD false)
        (st.visibleRawIcpCommitments canisterId destinationSubaccount))
  neuronCommitments : ∀ neuronId descending,
    Enumerates (inDirection (descending.getD false)) CommitmentSample.txId
      (fun cursor => (st.getNeuronCommitmentHistory ⟨neuronId, cursor, limit, descending⟩).cut)
      (inOrder (descending.getD false) (st.neuronCommitmentHistorySnapshot neuronId))
  aliases : ∀ bindings : List (String × String), (bindings.map Prod.fst).Nodup →
    (∀ binding ∈ bindings, (fromText binding.2).isSome = true) →
    ∃ table, aliasTable fromText bindings = some table ∧
      (table.map CanisterAlias.aliasText).Perm (bindings.map Prod.fst) ∧
      Enumerates (fun first second => first < second) CanisterAlias.aliasText
        (fun cursor => aliasCut (canisterAliasesPage fromText sha256 bindings ⟨cursor, limit⟩)) table
  reviewedAliases : ∃ table, aliasTable fromText reviewedAliases = some table ∧
    (table.map CanisterAlias.aliasText).Perm (reviewedAliases.map Prod.fst) ∧
    Enumerates (fun first second => first < second) CanisterAlias.aliasText
      (fun cursor => aliasCut (listCanisterAliases fromText sha256 ⟨cursor, limit⟩)) table

theorem snapshot_ascending (distinct : ((sortByTxId history).map CommitmentSample.txId).Nodup) :
    (sortByTxId history).Pairwise fun first second => first.txId < second.txId :=
  sortByTxId_strict (((List.perm_insertionSort _ history).map _).nodup_iff.mp distinct)

theorem rawIcp_enumerates {st : RegistryState} (distinct : DistinctHistories st)
    (canisterId : Principal) (destinationSubaccount : Option (List UInt8)) (limit : Option Nat)
    (descending : Option Bool) :
    Enumerates (inDirection (descending.getD false)) CommitmentSample.txId
      (fun cursor => (st.getRawIcpCommitmentHistory
        ⟨canisterId, destinationSubaccount, cursor, limit, descending⟩).cut)
      (inOrder (descending.getD false)
        (st.visibleRawIcpCommitments canisterId destinationSubaccount)) := by
  simp only [RegistryState.getRawIcpCommitmentHistory, RegistryState.visibleRawIcpCommitments]
  cases normalizeRawDestination destinationSubaccount with
  | none =>
      -- The malformed subaccount shows nothing, and no cursor is returned.
      have nothing : inOrder (descending.getD false) ([] : List CommitmentSample) = [] := by
        cases descending.getD false <;> rfl
      dsimp only
      rw [nothing]
      exact ⟨Follows.last rfl, List.Pairwise.nil⟩
  | some destination =>
      have ascending := snapshot_ascending (distinct.rawIcpCommitments canisterId)
      exact snapshot_enumerates (ascending.filter _) limit descending

theorem cursor_pagination_complete (st : RegistryState) (distinct : DistinctHistories st)
    (limit : Option Nat) (fromText : String → Option Principal)
    (reviewed : ∀ binding ∈ reviewedAliases, (fromText binding.2).isSome = true)
    (sha256 : List UInt8 → List UInt8) : PaginatesCompletely st limit fromText sha256 where
  canisters _ := listCanisters_enumerates limit
  cycles canisterId descending := history_enumerates (clampPublicLimit_positive limit)
    (descending.getD false) (distinct.cycles canisterId)
  commitments canisterId descending :=
    snapshot_enumerates (snapshot_ascending (distinct.commitments canisterId)) limit descending
  rawIcpCommitments canisterId destinationSubaccount descending :=
    rawIcp_enumerates distinct canisterId destinationSubaccount limit descending
  neuronCommitments neuronId descending :=
    snapshot_enumerates (snapshot_ascending (distinct.neuronCommitments neuronId)) limit descending
  aliases _ names decodes := bindings_enumerate names decodes limit
  reviewedAliases := bindings_enumerate (by decide) reviewed limit

theorem run_distinctHistories {selfId : Principal} {sys : StoredSystem}
    (reachable : (historyMachine selfId).Reachable sys) :
    DistinctHistories sys.run.state.registry := by
  have core := (reachable_storedInvariant reachable).refines.core
  have sorted : ∀ history : List CommitmentSample, (history.map CommitmentSample.txId).Nodup →
      ((sortByTxId history).map CommitmentSample.txId).Nodup := fun history distinct =>
    ((List.perm_insertionSort _ history).map _).nodup_iff.mpr distinct
  constructor
  · exact core.ascending
  · intro canisterId
    exact sorted _ (core.commitments.distinct canisterId)
  · intro canisterId
    exact sorted _ (core.rawIcpCommitments.distinct canisterId)
  · intro neuronId
    exact sorted _ (core.neuronCommitments.distinct neuronId)

section Sample

def sampleFromText (text : String) : Option Principal :=
  if text = disburserCanisterText then some ⟨[0, 0, 0, 0, 2, 48, 14, 55, 1, 1]⟩
  else if text = eventHorizonText then some ⟨[0, 0, 0, 0, 2, 48, 17, 226, 1, 1]⟩
  else none

/-- The commitments 4, 7 and 9, of which the history keeps the last two. -/
def sampleHistories : StoredSystem :=
  ((historyMachine sampleHistorian).run historySampleStart
    [historySampleTopUp 4, historySampleTopUp 7, historySampleTopUp 9]).getD historySampleStart

theorem sampleHistories_reachable :
    (historyMachine sampleHistorian).Reachable sampleHistories :=
  (historyMachine sampleHistorian).reachable_getD ⟨_, _, _, rfl⟩ (by decide +kernel)

theorem cursor_pagination_complete_of_run :
    (sampleHistories.run.state.registry.commitmentHistorySnapshot sampleMember).map
        CommitmentSample.txId = [7, 9] ∧
      PaginatesCompletely sampleHistories.run.state.registry (some 1) sampleFromText
        (fun _ => []) := by
  refine ⟨by decide +kernel, ?_⟩
  exact cursor_pagination_complete _ (run_distinctHistories sampleHistories_reachable) (some 1)
    sampleFromText (by decide) (fun _ => [])

end Sample

end JupiterSuite.Historian.Registry
