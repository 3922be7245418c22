import JupiterSuite.Relay.RewardBatchesAgree
import JupiterSuite.Relay.RewardHistoryPages
import JupiterSuite.Relay.SplitterProvenanceSuffix

/-! What a batch comes to in a world of ledgers and owners: the splitters are traced from any
balance of zero, and credits of zero do not count. -/

namespace JupiterSuite.Relay

open Base

/-- What the outputs of a splitter were made of, however much of its history is replayed. -/
def SplitterShare (world : RewardWorld) (scope : ProvenanceScope)
    (credits : List SplitterFundingCredit) (provenance : ExpandedSplitterProvenance) : Prop :=
  ∃ older newer usage left, world.ledger scope.splitterAccount = older ++ newer ∧
    replayBalance scope.splitterAccount 0 older = some 0 ∧
    reconstructSplitterHistoryBounded scope newer.reverse credits true usage =
      .complete (provenance, left)

/-- The shares of some splitters, added up. -/
inductive ExpandedFrom (world : RewardWorld) (view : IndexView) (relay : Principal)
    (credits : List SplitterFundingCredit) : Sources × Nat → List Nat → Sources × Nat → Prop
  | done (attributed : Sources × Nat) : ExpandedFrom world view relay credits attributed [] attributed
  | step {attributed next final : Sources × Nat} {number : Nat} {others : List Nat}
      {share : ExpandedSplitterProvenance}
      (traced : SplitterShare world (provenanceScope view relay number)
        (creditsFrom number credits) share)
      (merged : mergeAttribution attributed.1 attributed.2 share = .ok next)
      (rest : ExpandedFrom world view relay credits next others final) :
      ExpandedFrom world view relay credits attributed (number :: others) final

def BatchOutcome (world : RewardWorld) (scope : SearchScope) (batch : ContributionBatch)
    (classified : ClassifiedSources) : Prop :=
  ∃ expanded merged : Sources × Nat,
    ExpandedFrom world scope.view scope.relay batch.splitterCredits (.empty, 0)
      (referencedSplitters batch.splitterCredits) expanded ∧
    mergeAttribution batch.sources batch.ineligibleE8s
      { sources := expanded.1, ineligibleE8s := expanded.2 } = .ok merged ∧
    classifySources scope.identifier merged.1 merged.2 (merged.1.keys.map world.owner) =
      .ok classified

variable {attributed final : Sources × Nat} {others sources : Sources}

section Splitters

variable {world : RewardWorld} {scope : ProvenanceScope} {view : IndexView} {relay : Principal}
  {credits : List SplitterFundingCredit} {share other : ExpandedSplitterProvenance}

theorem SplitterShare.unique (one : SplitterShare world scope credits share)
    (two : SplitterShare world scope credits other) : share = other := by
  rcases one with ⟨older, newer, _, _, split, zero, complete⟩
  rcases two with ⟨longer, suffix, _, _, splitToo, zeroToo, completeToo⟩
  have ascending := (world.truthful scope.splitterAccount).ascending
  rcases Nat.le_total suffix.length newer.length with shorter | shorter
  · rcases zero_between split splitToo zero zeroToo shorter with ⟨middle, rfl, empty⟩
    rw [split] at ascending
    exact provenance_same (List.pairwise_append.mp ascending).2.1 empty (List.reverse_perm _)
      (List.reverse_perm _) complete completeToo
  · rcases zero_between splitToo split zeroToo zero shorter with ⟨middle, rfl, empty⟩
    rw [splitToo] at ascending
    exact (provenance_same (List.pairwise_append.mp ascending).2.1 empty (List.reverse_perm _)
      (List.reverse_perm _) completeToo complete).symm

theorem SplitterShare.positive (traced : SplitterShare world scope credits share) :
    ∀ credit ∈ credits, 0 < credit.amountE8s := by
  rcases traced with ⟨_, _, _, _, _, _, complete⟩
  exact reconstructSplitter_positive complete

theorem ExpandedFrom.unique {result : Sources × Nat} {numbers : List Nat}
    (one : ExpandedFrom world view relay credits attributed numbers final)
    (two : ExpandedFrom world view relay credits attributed numbers result) : final = result := by
  induction one with
  | done attributed =>
      cases two
      rfl
  | step traced merged rest ih =>
      cases two with
      | step tracedToo mergedToo restToo =>
          cases traced.unique tracedToo
          cases merged.symm.trans mergedToo
          exact ih restToo

theorem ExpandedFrom.traced {numbers : List Nat}
    (expanded : ExpandedFrom world view relay credits attributed numbers final) :
    ∀ number ∈ numbers, ∃ share, SplitterShare world (provenanceScope view relay number)
      (creditsFrom number credits) share := by
  induction expanded with
  | done attributed =>
      intro number impossible
      cases impossible
  | step traced merged rest ih =>
      rw [List.forall_mem_cons]
      exact ⟨⟨_, traced⟩, ih⟩

theorem mem_referenced_of (numbers : OrderedMap Nat Unit) (credits : List SplitterFundingCredit)
    (number : Nat) : number ∈ (credits.foldl (fun numbers credit =>
        numbers.insert credit.splitterNumber ()) numbers).keys ↔
      number ∈ numbers.keys ∨ ∃ credit ∈ credits, credit.splitterNumber = number := by
  induction credits generalizing numbers with
  | nil => simp
  | cons credit credits ih =>
      rw [List.foldl_cons, ih, OrderedMap.mem_keys, OrderedMap.mem_keys, OrderedMap.insert,
        OrderedMap.lookup_update]
      by_cases here : number = credit.splitterNumber
      · simp [here]
      · rw [if_neg here]
        simp only [List.mem_cons, exists_eq_or_imp, Ne.symm here, false_or]

theorem mem_referenced {credit : SplitterFundingCredit} (member : credit ∈ credits) :
    credit.splitterNumber ∈ referencedSplitters credits :=
  (mem_referenced_of .empty credits credit.splitterNumber).mpr (.inr ⟨credit, member, rfl⟩)

theorem ExpandedFrom.positive
    (expanded : ExpandedFrom world view relay credits attributed (referencedSplitters credits)
      final) : ∀ credit ∈ credits, 0 < credit.amountE8s := by
  intro credit member
  rcases expanded.traced credit.splitterNumber (mem_referenced member) with ⟨share, traced⟩
  apply traced.positive
  exact List.mem_filter.mpr ⟨member, beq_self_eq_true _⟩

end Splitters

section Sources

variable {identifier : Account → AccountIdentifier}

theorem addSources_same {final result : Sources} {added : List (AccountIdentifier × Nat)}
    (same : ∀ source, sources.amount source = others.amount source)
    (one : addSources sources added = .ok final) (two : addSources others added = .ok result) :
    ∀ source, final.amount source = result.amount source := by
  induction added generalizing sources others with
  | nil =>
      cases one
      cases two
      exact same
  | cons entry added ih =>
      simp only [addSources, addSource] at one two
      rcases bind_eq_ok.mp one with ⟨next, summed, one⟩
      rcases bind_eq_ok.mp two with ⟨other, summedToo, two⟩
      rcases bind_eq_ok.mp summed with ⟨_, _, summed⟩
      rcases bind_eq_ok.mp summedToo with ⟨_, _, summedToo⟩
      cases summed
      cases summedToo
      apply ih _ one two
      intro source
      rw [OrderedMap.amount_add, OrderedMap.amount_add, same]

theorem mergeAttribution_same {ineligible : Nat} {expanded : ExpandedSplitterProvenance}
    {merged result : Sources × Nat} (same : ∀ source, sources.amount source = others.amount source)
    (one : mergeAttribution sources ineligible expanded = .ok merged)
    (two : mergeAttribution others ineligible expanded = .ok result) :
    (∀ source, merged.1.amount source = result.1.amount source) ∧ merged.2 = result.2 := by
  simp only [mergeAttribution] at one two
  rcases bind_eq_ok.mp one with ⟨_, added, one⟩
  rcases bind_eq_ok.mp two with ⟨_, addedToo, two⟩
  rcases bind_eq_ok.mp one with ⟨_, summed, one⟩
  rcases bind_eq_ok.mp two with ⟨_, summedToo, two⟩
  cases summed.symm.trans summedToo
  cases one
  cases two
  exact ⟨addSources_same same added addedToo, rfl⟩

theorem classifyAll_positive (owner : AccountIdentifier → Option Principal)
    (entries : List (AccountIdentifier × Nat)) (classified : ClassifiedSources) :
    ClassifiedSources.classifyAll identifier classified
        (entries.map fun entry => (entry, owner entry.1)) =
      ClassifiedSources.classifyAll identifier classified
        ((entries.filter fun entry => decide (0 < entry.2)).map fun entry =>
          (entry, owner entry.1)) := by
  induction entries generalizing classified with
  | nil => rfl
  | cons entry entries ih =>
      rcases entry with ⟨account, value⟩
      by_cases positive : 0 < value
      · rw [List.filter_cons_of_pos (by simpa using positive), List.map_cons, List.map_cons]
        simp only [ClassifiedSources.classifyAll]
        congr 1
        funext next
        exact ih next
      · rw [List.filter_cons_of_neg (by simpa using positive), List.map_cons]
        have zero : value = 0 := Nat.eq_zero_of_not_pos positive
        subst zero
        simp only [ClassifiedSources.classifyAll, ClassifiedSources.classify, if_true, ok_bind]
        exact ih classified

theorem zip_owners (owner : AccountIdentifier → Option Principal) (sources : Sources) :
    sources.entries.zip (sources.keys.map owner) =
      sources.entries.map fun entry => (entry, owner entry.1) := by
  rw [OrderedMap.keys, List.map_map]
  induction sources.entries with
  | nil => rfl
  | cons entry entries ih =>
      rw [List.map_cons, List.zip_cons_cons, List.map_cons, ih]
      rfl

theorem classifySources_same {owner : AccountIdentifier → Option Principal} {ineligible : Nat}
    (same : ∀ source, sources.amount source = others.amount source) :
    classifySources identifier sources ineligible (sources.keys.map owner) =
      classifySources identifier others ineligible (others.keys.map owner) := by
  have lengths : ∀ sources : Sources,
      ¬ (sources.keys.map owner).length ≠ sources.entries.length := by
    intro sources
    rw [OrderedMap.keys, List.length_map, List.length_map, not_not]
  have positive := congrArg OrderedMap.entries (OrderedMap.keep_positive_same same)
  simp only [OrderedMap.keep] at positive
  rw [classifySources, if_neg (lengths sources), zip_owners, classifyAll_positive, positive,
    ← classifyAll_positive, classifySources, if_neg (lengths others), zip_owners]

end Sources

section Outcomes

variable {world : RewardWorld} {scope : SearchScope} {batch twin : ContributionBatch}
  {classified result : ClassifiedSources}

/-- What a batch comes to does not depend on the credits of zero that it was found with. -/
theorem BatchOutcome.unique (same : SameAmounts batch twin)
    (one : BatchOutcome world scope batch classified)
    (two : BatchOutcome world scope twin result) : classified = result := by
  rcases one with ⟨expanded, merged, traced, added, outcome⟩
  rcases two with ⟨others, total, tracedToo, addedToo, outcomeToo⟩
  have positive : ∀ credits : List SplitterFundingCredit,
      (∀ credit ∈ credits, 0 < credit.amountE8s) →
        (credits.filter fun credit => decide (0 < credit.amountE8s)) = credits := by
    intro credits each
    apply List.filter_eq_self.mpr
    intro credit member
    exact decide_eq_true (each credit member)
  have credits := same.splitters
  rw [positive _ traced.positive, positive _ tracedToo.positive] at credits
  rw [← credits] at tracedToo
  cases traced.unique tracedToo
  rw [← same.ineligible] at addedToo
  rcases mergeAttribution_same same.sources added addedToo with ⟨amounts, ineligible⟩
  rw [classifySources_same amounts, ineligible, outcomeToo] at outcome
  cases outcome
  rfl

end Outcomes

end JupiterSuite.Relay
