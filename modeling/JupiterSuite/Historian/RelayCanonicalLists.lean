import JupiterSuite.Historian.RelaySetup
import JupiterSuite.Base.ComparedLists

/-! The targets and the recipients of a relay are sorted and checked by the same rules: the
order they are given in does not matter. -/

namespace JupiterSuite.Historian

open Base Memo Std

section Orders

theorem compareBytes_eq (left right : List UInt8) :
    compareBytes left right = List.compareLex compare left right := by
  induction left generalizing right with
  | nil => cases right <;> rfl
  | cons first rest ih =>
      cases right with
      | nil => rfl
      | cons other others =>
          rw [compareBytes, List.compareLex_cons_cons, ← ih]
          have bytes : compare first other =
              if first.toNat < other.toNat then .lt
              else if other.toNat < first.toNat then .gt else .eq := by
            simp only [compare, compareOfLessAndEq, UInt8.lt_iff_toNat_lt, ← UInt8.toNat_inj]
            split
            · rfl
            · split <;> split <;> first | rfl | omega
          rw [bytes]
          split
          · rfl
          · split <;> rfl

instance : TransCmp compareBytes where
  eq_swap := by
    intro left right
    rw [compareBytes_eq, compareBytes_eq]
    exact OrientedCmp.eq_swap
  isLE_trans := by
    intro left middle right first second
    rw [compareBytes_eq] at first second ⊢
    exact TransCmp.isLE_trans first second

instance : TransCmp comparePrincipals where
  eq_swap := by
    intro left right
    exact @OrientedCmp.eq_swap _ compareBytes _ _ _
  isLE_trans := by
    intro left middle right
    exact @TransCmp.isLE_trans _ compareBytes _ _ _ _

theorem neuronOrder_eq (left right : Nat) :
    (if left < right then .lt else if right < left then .gt else .eq) = compare left right := by
  rw [Nat.compare_eq_ite_lt]

instance : TransCmp destinationCmp where
  eq_swap := by
    intro left right
    cases left <;> cases right
    · exact @OrientedCmp.eq_swap _ comparePrincipals _ _ _
    · rfl
    · rfl
    · simp only [destinationCmp, neuronOrder_eq]
      exact OrientedCmp.eq_swap
  isLE_trans := by
    intro left middle right first second
    cases left with
    | principal _ _ =>
        cases middle with
        | principal _ _ =>
            cases right with
            | principal _ _ =>
                exact @TransCmp.isLE_trans _ comparePrincipals _ _ _ _ first second
            | neuron _ _ => rfl
        | neuron _ _ =>
            cases right with
            | principal _ _ => cases second
            | neuron _ _ => rfl
    | neuron _ _ =>
        cases middle with
        | principal _ _ => cases first
        | neuron _ _ =>
            cases right with
            | principal _ _ => cases second
            | neuron _ _ =>
                simp only [destinationCmp, neuronOrder_eq] at first second ⊢
                exact TransCmp.isLE_trans first second

theorem hasEqualNeighbours_eq_false {α : Type} (compare : α → α → Ordering) (items : List α) :
    hasEqualNeighbours compare items = false ↔
      items.IsChain fun one another => compare one another ≠ .eq := by
  induction items with
  | nil => simp [hasEqualNeighbours]
  | cons first rest ih =>
      cases rest with
      | nil => simp [hasEqualNeighbours]
      | cons second rest =>
          rw [hasEqualNeighbours, Bool.or_eq_false_iff, ih, List.isChain_cons_cons]
          simp

/-- The search for duplicates answers for the list as it was given. -/
theorem hasEqualNeighbours_sorted {α : Type} {compare : α → α → Ordering} [TransCmp compare]
    (items : List α) :
    hasEqualNeighbours compare (sortCompared compare items) = false ↔
      DistinctCompared compare items := by
  rw [hasEqualNeighbours_eq_false, distinct_iff_neighbours]

end Orders

/-- The same result, or a refusal of both: with one text, or each with the text of an entry that
is refused for itself. -/
def Alike {α : Type} (entryTexts : Set String) : Except String α → Except String α → Prop
  | .ok one, .ok another => one = another
  | .error text, .error other => text = other ∨ (text ∈ entryTexts ∧ other ∈ entryTexts)
  | _, _ => False

theorem Alike.of_map {α β : Type} {view : α → β} (injective : Function.Injective view)
    {one another : Except String α} (alike : Alike texts (one.map view) (another.map view)) :
    Alike texts one another := by
  cases one with
  | error text =>
      cases another with
      | error other => exact alike
      | ok value => exact alike
  | ok value =>
      cases another with
      | error other => exact alike
      | ok other => exact injective alike

theorem Alike.mono {α : Type} {more : Set String} (subset : texts ⊆ more)
    {one another : Except String α} (alike : Alike texts one another) :
    Alike more one another := by
  cases one with
  | error text =>
      cases another with
      | error other =>
          rcases alike with same | both
          · exact Or.inl same
          · exact Or.inr ⟨subset both.1, subset both.2⟩
      | ok value => exact alike
  | ok value =>
      cases another with
      | error other => exact alike
      | ok other => exact alike

theorem Alike.bind {α β : Type} {one another : Except String α} {next next' : α → Except String β}
    (alike : Alike texts one another) (later : ∀ value, Alike texts (next value) (next' value)) :
    Alike texts (one.bind next) (another.bind next') := by
  cases one with
  | error text =>
      cases another with
      | error other => exact alike
      | ok value => exact False.elim alike
  | ok value =>
      cases another with
      | error other => exact False.elim alike
      | ok other =>
          have same : value = other := alike
          subst same
          exact later value

/-- What both kinds of lists are checked for: their size, each entry, and duplicates. -/
structure ListRules (α : Type) where
  sizeText : Nat → Option String
  entryText : α → Option String
  duplicateText : String
  compare : α → α → Ordering

namespace ListRules

variable {α : Type} (rules : ListRules α)

def canonicalList (items : List α) : Except String (List α) :=
  match rules.sizeText items.length with
  | some text => .error text
  | none =>
      match items.findSome? rules.entryText with
      | some text => .error text
      | none =>
          if hasEqualNeighbours rules.compare (sortCompared rules.compare items) then
            .error rules.duplicateText
          else .ok (sortCompared rules.compare items)

def entryTexts (items : List α) : Set String := {text | ∃ item ∈ items, rules.entryText item = text}

structure Admitted (items : List α) : Prop where
  size : rules.sizeText items.length = none
  entries : ∀ item ∈ items, rules.entryText item = none
  distinct : DistinctCompared rules.compare items

variable {rules} {items items' sorted sorted' : List α}

theorem canonicalList_refused {item : α} {text : String} (member : item ∈ items)
    (refused : rules.entryText item = some text) (size : rules.sizeText items.length = none) :
    ∃ text ∈ rules.entryTexts items, rules.canonicalList items = .error text := by
  cases found : items.findSome? rules.entryText with
  | none =>
      have none := List.findSome?_eq_none_iff.mp found item member
      rw [refused] at none
      cases none
  | some first =>
      obtain ⟨culprit, listed, why⟩ := List.exists_of_findSome?_eq_some found
      rw [canonicalList, size, found]
      exact ⟨first, ⟨culprit, listed, why⟩, rfl⟩

variable [TransCmp rules.compare]

theorem Admitted.canonicalList (admitted : rules.Admitted items) :
    rules.canonicalList items = .ok (sortCompared rules.compare items) := by
  have entries : items.findSome? rules.entryText = none :=
    List.findSome?_eq_none_iff.mpr admitted.entries
  have distinct := (hasEqualNeighbours_sorted items).mpr admitted.distinct
  rw [ListRules.canonicalList, admitted.size, entries, distinct]
  rfl

theorem canonicalList_ok :
    rules.canonicalList items = .ok sorted ↔
      rules.Admitted items ∧ sorted = sortCompared rules.compare items := by
  constructor
  · intro ok
    have admitted : rules.Admitted items := by
      rw [canonicalList] at ok
      cases size : rules.sizeText items.length with
      | some text =>
          rw [size] at ok
          cases ok
      | none =>
          cases entries : items.findSome? rules.entryText with
          | some text =>
              rw [size, entries] at ok
              cases ok
          | none =>
              cases equal : hasEqualNeighbours rules.compare (sortCompared rules.compare items) with
              | true =>
                  rw [size, entries, equal] at ok
                  cases ok
              | false =>
                  exact ⟨size, List.findSome?_eq_none_iff.mp entries,
                    (hasEqualNeighbours_sorted items).mp equal⟩
    rw [admitted.canonicalList] at ok
    exact ⟨admitted, (Except.ok.inj ok).symm⟩
  · rintro ⟨admitted, rfl⟩
    exact admitted.canonicalList

theorem Admitted.perm (admitted : rules.Admitted items) (permuted : items.Perm items') :
    rules.Admitted items' where
  size := by
    rw [← permuted.length_eq]
    exact admitted.size
  entries := by
    intro item member
    exact admitted.entries item (permuted.mem_iff.mpr member)
  distinct := admitted.distinct.perm permuted

/-- The order of a list changes at most which of its refused entries is named. -/
theorem canonicalList_alike (permuted : items.Perm items') :
    Alike (rules.entryTexts items) (rules.canonicalList items) (rules.canonicalList items') := by
  have length := permuted.length_eq
  cases size : rules.sizeText items.length with
  | some text =>
      have size' := size
      rw [length] at size'
      rw [canonicalList, size, canonicalList, size']
      exact Or.inl rfl
  | none =>
      have size' := size
      rw [length] at size'
      by_cases entries : ∀ item ∈ items, rules.entryText item = none
      · have entries' : ∀ item ∈ items', rules.entryText item = none := by
          intro item member
          exact entries item (permuted.mem_iff.mpr member)
        by_cases distinct : DistinctCompared rules.compare items
        · have admitted : rules.Admitted items := ⟨size, entries, distinct⟩
          rw [admitted.canonicalList, (admitted.perm permuted).canonicalList]
          exact distinct.sortCompared_congr permuted
        · have equal : ∀ {list : List α}, ¬ DistinctCompared rules.compare list →
              hasEqualNeighbours rules.compare (sortCompared rules.compare list) = true := by
            intro list same
            rw [← Bool.not_eq_false]
            intro none
            exact same ((hasEqualNeighbours_sorted list).mp none)
          have distinct' : ¬ DistinctCompared rules.compare items' := by
            intro apart
            exact distinct (apart.perm permuted.symm)
          rw [canonicalList, size, List.findSome?_eq_none_iff.mpr entries, equal distinct,
            canonicalList, size', List.findSome?_eq_none_iff.mpr entries', equal distinct']
          exact Or.inl rfl
      · push Not at entries
        obtain ⟨item, member, refused⟩ := entries
        obtain ⟨text, refused⟩ := Option.ne_none_iff_exists'.mp refused
        obtain ⟨first, entry, error⟩ := canonicalList_refused member refused size
        obtain ⟨first', entry', error'⟩ :=
          canonicalList_refused (permuted.mem_iff.mp member) refused size'
        have texts : rules.entryTexts items' = rules.entryTexts items := by
          ext text
          simp only [entryTexts, Set.mem_ofPred_eq, permuted.mem_iff]
        rw [texts] at entry'
        rw [error, error']
        exact Or.inr ⟨entry, entry'⟩

theorem canonicalList_idempotent (ok : rules.canonicalList items = .ok sorted) :
    rules.canonicalList sorted = .ok sorted := by
  obtain ⟨admitted, rfl⟩ := canonicalList_ok.mp ok
  rw [(admitted.perm (sortCompared_perm rules.compare items).symm).canonicalList,
    admitted.distinct.sorted.sortCompared_eq]

/-- What is accepted is known by its entries alone. -/
theorem canonicalList_unique (ok : rules.canonicalList items = .ok sorted)
    (ok' : rules.canonicalList items' = .ok sorted') :
    sorted = sorted' ↔ ∀ item, item ∈ items ↔ item ∈ items' := by
  obtain ⟨admitted, rfl⟩ := canonicalList_ok.mp ok
  obtain ⟨admitted', rfl⟩ := canonicalList_ok.mp ok'
  constructor
  · intro same item
    rw [← mem_sortCompared rules.compare, same, mem_sortCompared]
  · intro same
    apply admitted.distinct.sorted.unique admitted'.distinct.sorted
    intro item
    rw [mem_sortCompared, mem_sortCompared]
    exact same item

end ListRules

namespace CanonicalRelayTargetSet

def rules : ListRules Principal where
  sizeText count :=
    if count = 0 then some "at least one target canister is required"
    else if maxRelayTargets < count then
      some s!"at most {maxRelayTargets} target canisters are allowed"
    else none
  entryText target :=
    if target = anonymous then some "target must not be anonymous"
    else if target = managementCanister then some "target must not be the management canister"
    else none
  duplicateText := "duplicate target canisters are not allowed"
  compare := comparePrincipals

instance : TransCmp rules.compare := inferInstanceAs (TransCmp comparePrincipals)

theorem targets_injective : Function.Injective CanonicalRelayTargetSet.targets := by
  rintro ⟨one, _, _⟩ ⟨another, _, _⟩ same
  simp only at same
  subst same
  rfl

theorem find_refused (targets : List Principal) :
    targets.findSome? rules.entryText =
      (targets.find? fun target => decide (target = anonymous ∨ target = managementCanister)).map
        fun target => if target = anonymous then "target must not be anonymous"
          else "target must not be the management canister" := by
  induction targets with
  | nil => rfl
  | cons target rest ih =>
      rw [List.findSome?_cons, List.find?_cons, ih]
      by_cases first : target = anonymous
      · simp [rules, first]
      · by_cases second : target = managementCanister
        · have apart : managementCanister ≠ anonymous := by decide
          simp [rules, second, apart]
        · simp [rules, first, second]

theorem map_canonicalize (targets : List Principal) :
    (canonicalize targets).map CanonicalRelayTargetSet.targets = rules.canonicalList targets := by
  rw [canonicalize, ListRules.canonicalList]
  by_cases present : targets = []
  · rw [dif_pos present, present]
    rfl
  · have positive : targets.length ≠ 0 := fun zero => present (List.eq_nil_of_length_eq_zero zero)
    rw [dif_neg present]
    by_cases few : maxRelayTargets < targets.length
    · rw [dif_pos few]
      simp only [rules, if_neg positive, if_pos few]
      rfl
    · have size : rules.sizeText targets.length = none := by
        simp only [rules, if_neg positive, if_neg few]
      rw [dif_neg few, size, find_refused]
      split
      · rename_i target found
        rw [found]
        rfl
      · rename_i none
        rw [none]
        dsimp only [Option.map_none]
        by_cases equal : hasEqualNeighbours comparePrincipals (sortTargets targets) = true
        · have equal' :
              hasEqualNeighbours rules.compare (sortCompared rules.compare targets) = true := equal
          rw [if_pos equal, if_pos equal']
          rfl
        · have apart :
              ¬ hasEqualNeighbours rules.compare (sortCompared rules.compare targets) = true := equal
          rw [if_neg equal, if_neg apart]
          rfl

end CanonicalRelayTargetSet

namespace CanonicalSurplusRecipientSet

def rules (principalText : Principal → String) : ListRules RelaySurplusRecipient where
  sizeText count :=
    if maxSurplusRecipients < count then
      some s!"at most {maxSurplusRecipients} surplus recipients are allowed"
    else none
  entryText recipient :=
    match validateRecipient principalText recipient with
    | .error text => some text
    | .ok _ => none
  duplicateText := "duplicate surplus recipient destinations are not allowed"
  compare := destinationCmp

variable {principalText : Principal → String}

instance : TransCmp (rules principalText).compare := inferInstanceAs (TransCmp destinationCmp)

theorem recipients_injective : Function.Injective CanonicalSurplusRecipientSet.recipients := by
  rintro ⟨one, _⟩ ⟨another, _⟩ same
  simp only at same
  subst same
  rfl

theorem forM_validate (recipients : List RelaySurplusRecipient) :
    recipients.forM (validateRecipient principalText) =
      match recipients.findSome? (rules principalText).entryText with
      | some text => .error text
      | none => .ok () := by
  induction recipients with
  | nil => rfl
  | cons recipient rest ih =>
      rw [List.findSome?_cons]
      simp only [rules]
      cases checked : validateRecipient principalText recipient with
      | error text =>
          change (validateRecipient principalText recipient).bind _ = _
          rw [checked]
          rfl
      | ok done =>
          change (validateRecipient principalText recipient).bind
            (fun _ => rest.forM (validateRecipient principalText)) = _
          rw [checked]
          exact ih

theorem map_canonicalize (recipients : List RelaySurplusRecipient) :
    (canonicalize principalText recipients).map CanonicalSurplusRecipientSet.recipients =
      (rules principalText).canonicalList recipients := by
  rw [canonicalize, ListRules.canonicalList]
  by_cases few : maxSurplusRecipients < recipients.length
  · rw [dif_pos few]
    simp only [rules, if_pos few]
    rfl
  · have size : (rules principalText).sizeText recipients.length = none := by
      simp only [rules, if_neg few]
    rw [dif_neg few, size, forM_validate]
    cases recipients.findSome? (rules principalText).entryText with
    | some text => rfl
    | none =>
        let compare := (rules principalText).compare
        dsimp only
        by_cases equal : hasEqualNeighbours destinationCmp (sortRecipients recipients) = true
        · have equal' : hasEqualNeighbours compare (sortCompared compare recipients) = true := equal
          rw [if_pos equal, if_pos equal']
          rfl
        · have apart : ¬ hasEqualNeighbours compare (sortCompared compare recipients) = true := equal
          rw [if_neg equal, if_neg apart]
          rfl

end CanonicalSurplusRecipientSet

end JupiterSuite.Historian
