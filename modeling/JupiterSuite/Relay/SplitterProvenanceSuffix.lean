import JupiterSuite.Relay.RewardBatchesSuffix
import JupiterSuite.Relay.SplitterShares

/-! What a splitter's outputs were made of does not depend on where the replay begins, as long as
it begins with a balance of zero. -/

namespace JupiterSuite.Relay

open Base

variable {scope : ProvenanceScope} {lastAnchor : Nat} {replay other next after : ProvenanceReplay}
  {usage left spent rest : Usage} {entry : IndexTransactionWithId}

theorem replayEntries_append (replay : ProvenanceReplay) (usage : Usage)
    (first second : List IndexTransactionWithId) :
    scope.replayEntries lastAnchor replay usage (first ++ second) =
      scope.replayEntries lastAnchor replay usage first >>= fun result =>
        scope.replayEntries lastAnchor result.1 result.2 second := by
  induction first generalizing replay usage with
  | nil => rfl
  | cons entry first ih =>
      rw [List.cons_append, ProvenanceScope.replayEntries, ProvenanceScope.replayEntries,
        bind_assoc]
      congr 1
      funext result
      exact ih result.1 result.2

variable {atPin remaining amount balance fee id final : Nat}
  {consumed funding unspent zeros : List UpstreamCredit} {credits : List SplitterFundingCredit}
  {required : OrderedMap Nat Nat} {provenance : ExpandedSplitterProvenance}
  {transactions : List IndexTransactionWithId}
variable {first second : List UpstreamCredit} {allocations : List Nat} {leg : OutgoingLeg}
  {toAccount : String} {authoritative : Bool}

section Steps

theorem takeJobCredits_split
    (taken : takeJobCredits usage remaining atPin funding = .ok ((consumed, unspent), left)) :
    funding = consumed ++ unspent ∧ depositTotal consumed = remaining := by
  induction funding generalizing usage remaining atPin consumed with
  | nil =>
      cases remaining with
      | zero =>
          simp only [takeJobCredits] at taken
          cases taken
          exact ⟨rfl, rfl⟩
      | succ remaining =>
          cases atPin <;> simp only [takeJobCredits] at taken <;>
            rcases bind_eq_ok.mp taken with ⟨_, _, impossible⟩ <;> cases impossible
  | cons credit funding ih =>
      cases remaining with
      | zero =>
          simp only [takeJobCredits] at taken
          cases taken
          exact ⟨rfl, rfl⟩
      | succ remaining =>
          cases atPin with
          | zero =>
              simp only [takeJobCredits] at taken
              rcases bind_eq_ok.mp taken with ⟨_, _, impossible⟩
              cases impossible
          | succ atPin =>
              simp only [takeJobCredits] at taken
              rcases bind_eq_ok.mp taken with ⟨charged, _, taken⟩
              split at taken
              · cases taken
              · rcases bind_eq_ok.mp taken with ⟨⟨⟨others, queue⟩, ended⟩, continued, same⟩
                cases same
                rcases ih continued with ⟨split, total⟩
                refine ⟨by rw [split, List.cons_append], ?_⟩
                rw [depositTotal_cons, total]
                omega

theorem takeJobCredits_same
    (one : takeJobCredits usage remaining atPin funding = .ok ((consumed, unspent), left))
    (two : takeJobCredits spent remaining atPin funding = .ok ((first, second), rest)) :
    consumed = first ∧ unspent = second := by
  induction funding generalizing usage spent remaining atPin consumed first with
  | nil =>
      cases remaining with
      | zero =>
          simp only [takeJobCredits] at one two
          cases one
          cases two
          exact ⟨rfl, rfl⟩
      | succ remaining =>
          cases atPin <;> simp only [takeJobCredits] at one <;>
            rcases bind_eq_ok.mp one with ⟨_, _, impossible⟩ <;> cases impossible
  | cons credit funding ih =>
      cases remaining with
      | zero =>
          simp only [takeJobCredits] at one two
          cases one
          cases two
          exact ⟨rfl, rfl⟩
      | succ remaining =>
          cases atPin with
          | zero =>
              simp only [takeJobCredits] at one
              rcases bind_eq_ok.mp one with ⟨_, _, impossible⟩
              cases impossible
          | succ atPin =>
              simp only [takeJobCredits] at one two
              rcases bind_eq_ok.mp one with ⟨_, _, one⟩
              rcases bind_eq_ok.mp two with ⟨_, _, two⟩
              split at one
              · cases one
              · rename_i covered
                rw [if_neg covered] at two
                rcases bind_eq_ok.mp one with ⟨⟨⟨_, _⟩, _⟩, continued, same⟩
                rcases bind_eq_ok.mp two with ⟨⟨⟨_, _⟩, _⟩, continuedToo, sameToo⟩
                cases same
                cases sameToo
                rcases ih continued continuedToo with ⟨rfl, rfl⟩
                exact ⟨rfl, rfl⟩

theorem takeJobCredits_zeros (nothing : ∀ credit ∈ zeros, credit.amountE8s = 0)
    (positive : 0 < remaining)
    (one : takeJobCredits usage remaining (zeros.length + atPin) (zeros ++ funding) =
      .ok ((consumed, unspent), left))
    (two : takeJobCredits spent remaining atPin funding = .ok ((first, second), rest)) :
    consumed = zeros ++ first ∧ unspent = second := by
  induction zeros generalizing usage consumed with
  | nil =>
      rw [List.length_nil, Nat.zero_add] at one
      exact takeJobCredits_same one two
  | cons zero zeros ih =>
      rcases Nat.exists_eq_succ_of_ne_zero (Nat.ne_of_gt positive) with ⟨less, rfl⟩
      have empty := nothing zero List.mem_cons_self
      rw [List.length_cons, Nat.add_right_comm, List.cons_append, takeJobCredits] at one
      rcases bind_eq_ok.mp one with ⟨_, _, one⟩
      rw [empty, if_neg (Nat.not_lt_zero _)] at one
      rcases bind_eq_ok.mp one with ⟨⟨⟨_, _⟩, _⟩, continued, same⟩
      cases same
      rw [Nat.sub_zero] at continued
      rcases ih (fun credit member => nothing credit (List.mem_cons_of_mem zero member))
        continued with ⟨rfl, rfl⟩
      exact ⟨rfl, rfl⟩

theorem allocateCredits_zeros {count : Nat} {credits : List Nat}
    (allocated : allocateCredits balance amount 0 0 (List.replicate count 0 ++ credits) =
      .ok allocations) :
    ∃ others, allocations = List.replicate count 0 ++ others ∧
      allocateCredits balance amount 0 0 credits = .ok others := by
  induction count generalizing allocations with
  | zero => exact ⟨allocations, rfl, allocated⟩
  | succ count ih =>
      rw [List.replicate_succ, List.cons_append, allocateCredits, Nat.add_zero, Nat.zero_mul,
        Nat.zero_div] at allocated
      simp only [Nat.not_lt_zero, if_false, Nat.sub_self] at allocated
      rcases bind_eq_ok.mp allocated with ⟨others, continued, same⟩
      cases same
      rcases ih continued with ⟨shares, rfl, found⟩
      exact ⟨shares, rfl, found⟩

theorem amounts_of_zeros (nothing : ∀ credit ∈ zeros, credit.amountE8s = 0) :
    zeros.map UpstreamCredit.amountE8s = List.replicate zeros.length 0 := by
  apply List.eq_replicate_iff.mpr
  refine ⟨List.length_map _, ?_⟩
  intro amount member
  rcases List.mem_map.mp member with ⟨credit, present, rfl⟩
  exact nothing credit present

theorem proportionalAllocations_zeros {credits : List UpstreamCredit} {others : List Nat}
    (nothing : ∀ credit ∈ zeros, credit.amountE8s = 0)
    (one : proportionalAllocations ((zeros ++ credits).map UpstreamCredit.amountE8s) amount =
      .ok allocations)
    (two : proportionalAllocations (credits.map UpstreamCredit.amountE8s) amount = .ok others) :
    allocations = List.replicate zeros.length 0 ++ others := by
  have sum : ((zeros ++ credits).map UpstreamCredit.amountE8s).sum =
      (credits.map UpstreamCredit.amountE8s).sum := by
    rw [List.map_append, List.sum_append, amounts_of_zeros nothing]
    simp
  simp only [proportionalAllocations, sum] at one
  rw [proportionalAllocations] at two
  split at one
  · cases one
  · rename_i fits
    rw [if_neg fits] at two
    split at one
    · cases one
    · rename_i valid
      rw [if_neg valid] at two
      rw [List.map_append, amounts_of_zeros nothing] at one
      rcases allocateCredits_zeros one with ⟨shares, rfl, found⟩
      cases found.symm.trans two
      rfl

theorem attributeAllocations_zeros {result : ExpandedSplitterProvenance}
    (zeros : List UpstreamCredit) (shares : List (UpstreamCredit × Nat)) :
    attributeAllocations result (zeros.zip (List.replicate zeros.length 0) ++ shares) =
      attributeAllocations result shares := by
  induction zeros with
  | nil => rfl
  | cons zero zeros ih =>
      rw [List.length_cons, List.replicate_succ, List.zip_cons_cons, List.cons_append,
        attributeAllocations, attributeAllocation, if_pos rfl, ok_bind]
      exact ih

theorem pairBalance_eq {first : OutgoingLeg} (paired : scope.pairBalance first leg = .ok balance) :
    balance = first.amountE8s + first.feeE8s + (leg.amountE8s + leg.feeE8s) := by
  unfold ProvenanceScope.pairBalance at paired
  split at paired
  · cases paired
  · rename_i defaultGross summed
    split at paired
    · cases paired
    · rename_i subaccountOneGross summedToo
      split at paired
      · cases paired
      · rename_i whole added
        dsimp only at paired
        split at paired
        · cases paired
        · cases paired
          rw [(checkedAdd_eq_some.mp added).2, (checkedAdd_eq_some.mp summed).2,
            (checkedAdd_eq_some.mp summedToo).2]

/-- A settled pair, with what it takes and attributes. -/
structure SettledPair (scope : ProvenanceScope) (replay : ProvenanceReplay) (usage : Usage)
    (leg : OutgoingLeg) (next : ProvenanceReplay) (first : OutgoingLeg) (balance : Nat)
    (consumed unspent : List UpstreamCredit) (allocations : List Nat)
    (target : ExpandedSplitterProvenance) : Prop where
  pending : replay.pendingDefault = some first
  matching : ∀ expected, replay.required.lookup leg.txId = some expected →
    expected = leg.amountE8s
  some_amount : 0 < leg.amountE8s
  paired : scope.pairBalance first leg = .ok balance
  taken : ∃ left, takeJobCredits usage balance first.fundingCreditsAtPin replay.funding =
    .ok ((consumed, unspent), left)
  allocated : proportionalAllocations (consumed.map UpstreamCredit.amountE8s) leg.amountE8s =
    .ok allocations
  attributed : attributeAllocations
    (if (replay.required.lookup leg.txId).isNone then {} else replay.result)
    (consumed.zip allocations) = .ok target
  next : next =
    if (replay.required.lookup leg.txId).isNone then
      { replay with funding := unspent, pendingDefault := none }
    else ⟨unspent, none, replay.required.erase leg.txId, target⟩

theorem settlePair_cases (settled : scope.settlePair replay usage leg = .ok (next, left)) :
    ∃ first balance consumed unspent allocations target,
      SettledPair scope replay usage leg next first balance consumed unspent allocations
        target := by
  unfold ProvenanceScope.settlePair at settled
  split at settled
  · cases settled
  · rename_i first pending
    split at settled
    · cases settled
    · rename_i matching
      split at settled
      · cases settled
      · rename_i valid
        rcases bind_eq_ok.mp settled with ⟨balance, paired, settled⟩
        dsimp only at settled
        split at settled
        · cases settled
        · rename_i funding target spent consumed
          cases settled
          simp only [consumeJobFunding] at consumed
          rcases bind_eq_ok.mp consumed with ⟨⟨⟨credits, queue⟩, ended⟩, taken, consumed⟩
          dsimp only at consumed
          split at consumed
          · cases consumed
          · rename_i allocations allocated
            rcases bind_eq_ok.mp consumed with ⟨final, attributed, same⟩
            cases same
            refine ⟨first, balance, credits, funding, allocations, target, pending, ?_, by omega,
              paired, ⟨_, taken⟩, allocated, attributed, rfl⟩
            intro expected known
            simpa [known] using matching

def IsTransferOut (scope : ProvenanceScope) (entry : IndexTransactionWithId) : Prop :=
  ∃ toAccount fee amount spender, entry.transaction.operation =
    .transfer toAccount fee scope.splitterAccount amount spender

theorem transfer_same {operation : IndexOperation} {toOther fromAccount : String}
    {charge worth : Nat} (one : operation = .transfer toAccount fee fromAccount amount none)
    (two : operation = .transfer toOther charge fromAccount worth none) :
    toAccount = toOther ∧ fee = charge ∧ amount = worth := by
  subst one
  simp only [IndexOperation.transfer.injEq, true_and, and_true] at two
  exact two

theorem replayOperation_cases
    (replayed : scope.replayOperation replay usage entry = .ok (next, left)) :
    (next = { replay with
        funding := replay.funding ++ (incomingCredit scope.splitterAccount entry).toList } ∧
      ¬ IsTransferOut scope entry ∧
      ∀ balance, applyAccountTransaction scope.splitterAccount balance entry =
        some (balance + depositTotal (incomingCredit scope.splitterAccount entry).toList)) ∨
    (∃ amount fee, entry.transaction.operation =
        .transfer scope.defaultAccount fee scope.splitterAccount amount none ∧
      replay.pendingDefault = none ∧
      next = { replay with
        pendingDefault := some ⟨entry.id, amount, fee, replay.funding.length⟩ }) ∨
    (∃ amount fee, entry.transaction.operation =
        .transfer scope.subaccountOne fee scope.splitterAccount amount none ∧
      scope.defaultAccount ≠ scope.subaccountOne ∧
      scope.settlePair replay usage ⟨entry.id, amount, fee, replay.funding.length⟩ =
        .ok (next, left)) := by
  cases operation : entry.transaction.operation with
  | transfer toAccount fee fromAccount amount spender =>
      simp only [ProvenanceScope.replayOperation, operation] at replayed
      split at replayed
      · rename_i sender
        split at replayed
        · cases replayed
        · rename_i direct
          split at replayed
          · cases replayed
          · have unspent : spender = none := by simpa using direct
            subst sender unspent
            split at replayed
            · rename_i receiver
              subst receiver
              split at replayed
              · cases replayed
              · rename_i idle
                cases replayed
                exact .inr (.inl ⟨amount, fee, rfl, by simpa using idle, rfl⟩)
            · rename_i elsewhere
              split at replayed
              · rename_i receiver
                subst receiver
                exact .inr (.inr ⟨amount, fee, rfl, Ne.symm elsewhere, replayed⟩)
              · cases replayed
      · rename_i stranger
        cases replayed
        refine .inl ⟨rfl, ?_, ?_⟩
        · rintro ⟨_, _, _, _, same⟩
          cases operation.symm.trans same
          exact stranger rfl
        · intro balance
          by_cases receiver : toAccount = scope.splitterAccount <;>
            simp [applyAccountTransaction, incomingCredit, operation, stranger, receiver]
  | mint toAccount amount =>
      simp only [ProvenanceScope.replayOperation, operation] at replayed
      cases replayed
      refine .inl ⟨rfl, ?_, ?_⟩
      · rintro ⟨_, _, _, _, same⟩
        cases operation.symm.trans same
      · intro balance
        by_cases receiver : toAccount = scope.splitterAccount <;>
          simp [applyAccountTransaction, incomingCredit, operation, receiver]
  | burn fromAccount amount =>
      simp only [ProvenanceScope.replayOperation, operation] at replayed
      split at replayed
      · cases replayed
      · rename_i stranger
        cases replayed
        refine .inl ⟨rfl, ?_, ?_⟩
        · rintro ⟨_, _, _, _, same⟩
          cases operation.symm.trans same
        · intro balance
          simp [applyAccountTransaction, incomingCredit, operation, stranger]
  | approve fee fromAccount =>
      simp only [ProvenanceScope.replayOperation, operation] at replayed
      split at replayed
      · cases replayed
      · rename_i free
        cases replayed
        refine .inl ⟨rfl, ?_, ?_⟩
        · rintro ⟨_, _, _, _, same⟩
          cases operation.symm.trans same
        intro balance
        by_cases sender : fromAccount = scope.splitterAccount
        · have zero : fee = 0 := by
            by_contra some_fee
            exact free ⟨sender, Nat.pos_of_ne_zero some_fee⟩
          simp [applyAccountTransaction, incomingCredit, operation, sender, zero, checkedSub]
        · simp [applyAccountTransaction, incomingCredit, operation, sender]

end Steps

section Suffix

/-- Two replays, the one with credits of zero ahead in its queue. -/
structure Ahead (zeros : List UpstreamCredit) (replay other : ProvenanceReplay) : Prop where
  nothing : ∀ credit ∈ zeros, credit.amountE8s = 0
  funding : replay.funding = zeros ++ other.funding
  pending : replay.pendingDefault = other.pendingDefault.map fun leg =>
    { leg with fundingCreditsAtPin := zeros.length + leg.fundingCreditsAtPin }
  required : replay.required = other.required
  result : replay.result = other.result

theorem Ahead.settle {pin place : Nat} (ahead : Ahead zeros replay other)
    (one : scope.settlePair replay usage ⟨id, amount, fee, pin⟩ = .ok (next, left))
    (two : scope.settlePair other spent ⟨id, amount, fee, place⟩ = .ok (after, rest)) :
    Ahead [] next after := by
  rcases settlePair_cases one with ⟨first, balance, consumed, unspent, allocations, target, pair⟩
  rcases settlePair_cases two with ⟨leg, worth, credits, queue, shares, final, other_pair⟩
  have pinned := ahead.pending
  rw [pair.pending, other_pair.pending, Option.map_some, Option.some.injEq] at pinned
  subst pinned
  have whole := pairBalance_eq pair.paired
  have same : balance = worth := whole.trans (pairBalance_eq other_pair.paired).symm
  subst same
  have some_amount := pair.some_amount
  rcases pair.taken with ⟨_, taken⟩
  rcases other_pair.taken with ⟨_, takenToo⟩
  rw [ahead.funding] at taken
  rcases takeJobCredits_zeros ahead.nothing (by omega) taken takenToo with ⟨rfl, rfl⟩
  have allocated := proportionalAllocations_zeros ahead.nothing pair.allocated
    other_pair.allocated
  subst allocated
  have attributed := pair.attributed
  rw [List.zip_append (List.length_replicate).symm, attributeAllocations_zeros, ahead.required,
    ahead.result, other_pair.attributed] at attributed
  cases attributed
  have result := pair.next
  have resultToo := other_pair.next
  rw [ahead.required, ahead.result] at result
  by_cases unselected : (other.required.lookup id).isNone = true
  · rw [if_pos unselected] at result resultToo
    subst result resultToo
    exact ⟨fun _ member => (by cases member), rfl, rfl, rfl, rfl⟩
  · rw [if_neg unselected] at result resultToo
    subst result resultToo
    exact ⟨fun _ member => (by cases member), rfl, rfl, rfl, rfl⟩

theorem Ahead.operation (ahead : Ahead zeros replay other)
    (one : scope.replayOperation replay usage entry = .ok (next, left))
    (two : scope.replayOperation other spent entry = .ok (after, rest)) :
    ∃ fewer, Ahead fewer next after := by
  rcases replayOperation_cases one with ⟨rfl, inside, _⟩ | ⟨amount, fee, out, idle, rfl⟩ |
    ⟨amount, fee, out, apart, settled⟩
  · rcases replayOperation_cases two with ⟨rfl, _, _⟩ | ⟨amount, fee, out, _⟩ |
      ⟨amount, fee, out, _⟩
    · refine ⟨zeros, ahead.nothing, ?_, ahead.pending, ahead.required, ahead.result⟩
      rw [ahead.funding, List.append_assoc]
    · exact absurd ⟨_, _, _, _, out⟩ inside
    · exact absurd ⟨_, _, _, _, out⟩ inside
  · rcases replayOperation_cases two with ⟨_, inside, _⟩ | ⟨_, _, same, _, rfl⟩ |
      ⟨_, _, same, apart, _⟩
    · exact absurd ⟨_, _, _, _, out⟩ inside
    · rcases transfer_same out same with ⟨_, rfl, rfl⟩
      refine ⟨zeros, ahead.nothing, ahead.funding, ?_, ahead.required, ahead.result⟩
      rw [Option.map_some, ahead.funding, List.length_append]
    · exact absurd (transfer_same out same).1 apart
  · rcases replayOperation_cases two with ⟨_, inside, _⟩ | ⟨_, _, same, _⟩ |
      ⟨_, _, same, _, settledToo⟩
    · exact absurd ⟨_, _, _, _, out⟩ inside
    · exact absurd (transfer_same out same).1.symm apart
    · rcases transfer_same out same with ⟨_, rfl, rfl⟩
      exact ⟨[], ahead.settle settled settledToo⟩

theorem replayEntry_cases
    (replayed : scope.replayEntry lastAnchor replay usage entry = .ok (next, left)) :
    (lastAnchor < entry.id ∧ next = replay) ∨
      (entry.id ≤ lastAnchor ∧
        ∃ charged, scope.replayOperation replay charged entry = .ok (next, left)) := by
  simp only [ProvenanceScope.replayEntry] at replayed
  rcases bind_eq_ok.mp replayed with ⟨charged, _, replayed⟩
  split at replayed
  · rename_i late
    cases replayed
    exact .inl ⟨late, rfl⟩
  · rename_i early
    exact .inr ⟨Nat.not_lt.mp early, charged, replayed⟩

theorem Ahead.entries {entries : List IndexTransactionWithId} (ahead : Ahead zeros replay other)
    (one : scope.replayEntries lastAnchor replay usage entries = .ok (next, left))
    (two : scope.replayEntries lastAnchor other spent entries = .ok (after, rest)) :
    ∃ fewer, Ahead fewer next after := by
  induction entries generalizing zeros replay other usage spent with
  | nil =>
      cases one
      cases two
      exact ⟨zeros, ahead⟩
  | cons entry entries ih =>
      simp only [ProvenanceScope.replayEntries] at one two
      rcases bind_eq_ok.mp one with ⟨⟨middle, _⟩, here, continued⟩
      rcases bind_eq_ok.mp two with ⟨⟨there, _⟩, hereToo, continuedToo⟩
      rcases replayEntry_cases here with ⟨late, rfl⟩ | ⟨early, _, operated⟩
      · rcases replayEntry_cases hereToo with ⟨_, rfl⟩ | ⟨early, _⟩
        · exact ih ahead continued continuedToo
        · omega
      · rcases replayEntry_cases hereToo with ⟨late, _⟩ | ⟨_, _, operatedToo⟩
        · omega
        · rcases ahead.operation operated operatedToo with ⟨fewer, still⟩
          exact ih still continued continuedToo

/-- A pair that is open in one replay only is never closed: a first leg is refused there, and a
second one in the other. -/
theorem unpaired_entries {entries : List IndexTransactionWithId}
    (unclosed : replay.pendingDefault.isSome = true) (idle : other.pendingDefault = none)
    (one : scope.replayEntries lastAnchor replay usage entries = .ok (next, left))
    (two : scope.replayEntries lastAnchor other spent entries = .ok (after, rest)) :
    next.pendingDefault.isSome = true := by
  induction entries generalizing replay other usage spent with
  | nil =>
      cases one
      exact unclosed
  | cons entry entries ih =>
      simp only [ProvenanceScope.replayEntries] at one two
      rcases bind_eq_ok.mp one with ⟨⟨middle, _⟩, here, continued⟩
      rcases bind_eq_ok.mp two with ⟨⟨there, _⟩, hereToo, continuedToo⟩
      rcases replayEntry_cases here with ⟨late, rfl⟩ | ⟨early, _, operated⟩
      · rcases replayEntry_cases hereToo with ⟨_, rfl⟩ | ⟨early, _⟩
        · exact ih unclosed idle continued continuedToo
        · omega
      · rcases replayEntry_cases hereToo with ⟨late, _⟩ | ⟨_, _, operatedToo⟩
        · omega
        · rcases replayOperation_cases operated with ⟨rfl, inside, _⟩ | ⟨_, _, _, closed, _⟩ |
            ⟨_, _, out, apart, _⟩
          · rcases replayOperation_cases operatedToo with ⟨rfl, _⟩ | ⟨_, _, out, _⟩ |
              ⟨_, _, out, _⟩
            · exact @ih { replay with
                funding := replay.funding ++ (incomingCredit scope.splitterAccount entry).toList }
                { other with
                  funding := other.funding ++
                    (incomingCredit scope.splitterAccount entry).toList }
                _ _ unclosed idle continued continuedToo
            · exact absurd ⟨_, _, _, _, out⟩ inside
            · exact absurd ⟨_, _, _, _, out⟩ inside
          · rw [closed] at unclosed
            cases unclosed
          · rcases replayOperation_cases operatedToo with ⟨_, inside, _⟩ | ⟨_, _, same, _⟩ |
              ⟨_, _, _, _, settled⟩
            · exact absurd ⟨_, _, _, _, out⟩ inside
            · exact absurd (transfer_same out same).1.symm apart
            · rcases settlePair_cases settled with ⟨_, _, _, _, _, _, pair⟩
              have closed := pair.pending
              rw [idle] at closed
              cases closed

def pendingGrossE8s (replay : ProvenanceReplay) : Nat :=
  (replay.pendingDefault.map fun leg => leg.amountE8s + leg.feeE8s).getD 0

theorem apply_of_transferOut (out : entry.transaction.operation =
      .transfer toAccount fee scope.splitterAccount amount none)
    (applied : applyAccountTransaction scope.splitterAccount balance entry = some final) :
    balance ≤ final + (amount + fee) := by
  simp only [applyAccountTransaction, out, decide_true] at applied
  split at applied
  · rcases checkedSub_eq_some.mp applied with ⟨_, rfl⟩
    omega
  · rcases checkedSub_eq_some.mp applied with ⟨_, rfl⟩
    omega
  · rename_i impossible _
    cases impossible
  · rename_i impossible _
    cases impossible

/-- The queue holds at most the balance and what the open pair has paid already. -/
theorem replayOperation_balance
    (covered : depositTotal replay.funding ≤ balance + pendingGrossE8s replay)
    (applied : applyAccountTransaction scope.splitterAccount balance entry = some final)
    (replayed : scope.replayOperation replay usage entry = .ok (next, left)) :
    depositTotal next.funding ≤ final + pendingGrossE8s next := by
  rcases replayOperation_cases replayed with ⟨rfl, _, adds⟩ | ⟨amount, fee, out, idle, rfl⟩ |
    ⟨amount, fee, out, _, settled⟩
  · cases (adds balance).symm.trans applied
    rw [depositTotal_append]
    have same : pendingGrossE8s { replay with
        funding := replay.funding ++ (incomingCredit scope.splitterAccount entry).toList } =
      pendingGrossE8s replay := rfl
    omega
  · have paid := apply_of_transferOut out applied
    simp only [pendingGrossE8s, idle, Option.map_none, Option.getD_none] at covered
    simp only [pendingGrossE8s, Option.map_some, Option.getD_some]
    omega
  · have paid := apply_of_transferOut out applied
    rcases settlePair_cases settled with ⟨first, _, consumed, unspent, _, _, pair⟩
    rcases pair.taken with ⟨_, taken⟩
    rcases takeJobCredits_split taken with ⟨queue, total⟩
    have whole := pairBalance_eq pair.paired
    dsimp only at whole
    simp only [pendingGrossE8s, pair.pending, Option.map_some, Option.getD_some] at covered
    rw [queue, depositTotal_append, total] at covered
    have spent : next.funding = unspent := by
      rw [pair.next]
      split <;> rfl
    rw [spent]
    omega

theorem replayOperation_required
    (replayed : scope.replayOperation replay usage entry = .ok (next, left)) :
    (replay.required.lookup entry.id = none →
      next.required = replay.required ∧ next.result = replay.result) ∧
      ∀ id, id ≠ entry.id → next.required.lookup id = replay.required.lookup id := by
  rcases replayOperation_cases replayed with ⟨rfl, _⟩ | ⟨_, _, _, _, rfl⟩ | ⟨_, _, _, _, settled⟩
  · exact ⟨fun _ => ⟨rfl, rfl⟩, fun _ _ => rfl⟩
  · exact ⟨fun _ => ⟨rfl, rfl⟩, fun _ _ => rfl⟩
  · rcases settlePair_cases settled with ⟨_, _, _, _, _, _, pair⟩
    have result := pair.next
    by_cases unselected : (replay.required.lookup entry.id).isNone = true
    · rw [if_pos unselected] at result
      subst result
      exact ⟨fun _ => ⟨rfl, rfl⟩, fun _ _ => rfl⟩
    · rw [if_neg unselected] at result
      subst result
      refine ⟨fun absent => ?_, fun id apart => ?_⟩
      · rw [absent] at unselected
        exact absurd rfl unselected
      · rw [OrderedMap.lookup_erase, if_neg apart]

theorem replayEntries_older {entries : List IndexTransactionWithId}
    (covered : depositTotal replay.funding ≤ balance + pendingGrossE8s replay)
    (unrequired : ∀ one ∈ entries, replay.required.lookup one.id = none)
    (early : ∀ one ∈ entries, one.id ≤ lastAnchor)
    (applied : replayBalance scope.splitterAccount balance entries = some final)
    (replayed : scope.replayEntries lastAnchor replay usage entries = .ok (next, left)) :
    depositTotal next.funding ≤ final + pendingGrossE8s next ∧
      next.required = replay.required ∧ next.result = replay.result := by
  induction entries generalizing replay usage balance with
  | nil =>
      cases applied
      cases replayed
      exact ⟨covered, rfl, rfl⟩
  | cons entry entries ih =>
      rcases Option.bind_eq_some_iff.mp applied with ⟨between, here, applied⟩
      simp only [ProvenanceScope.replayEntries] at replayed
      rcases bind_eq_ok.mp replayed with ⟨⟨middle, _⟩, first, replayed⟩
      rw [List.forall_mem_cons] at early unrequired
      rcases replayEntry_cases first with ⟨late, _⟩ | ⟨_, _, operated⟩
      · omega
      · have held := replayOperation_balance covered here operated
        rcases (replayOperation_required operated).1 unrequired.1 with ⟨required, result⟩
        have absent : ∀ one ∈ entries, middle.required.lookup one.id = none := by
          intro one member
          rw [required]
          exact unrequired.2 one member
        rcases ih held absent early.2 applied replayed with ⟨total, requiredToo, resultToo⟩
        exact ⟨total, requiredToo.trans required, resultToo.trans result⟩

theorem replayEntries_found {entries : List IndexTransactionWithId}
    (replayed : scope.replayEntries lastAnchor replay usage entries = .ok (next, left)) (id : Nat)
    (unseen : id ∉ entries.map IndexTransactionWithId.id) :
    next.required.lookup id = replay.required.lookup id := by
  induction entries generalizing replay usage with
  | nil =>
      cases replayed
      rfl
  | cons entry entries ih =>
      simp only [ProvenanceScope.replayEntries] at replayed
      rcases bind_eq_ok.mp replayed with ⟨⟨middle, _⟩, first, replayed⟩
      rw [List.map_cons, List.mem_cons, not_or] at unseen
      rw [ih replayed unseen.2]
      rcases replayEntry_cases first with ⟨_, rfl⟩ | ⟨_, _, operated⟩
      · rfl
      · exact (replayOperation_required operated).2 id unseen.1

theorem requiredAnchors_same {first second : OrderedMap Nat Nat}
    (one : scope.requiredAnchors required usage credits = .ok (first, left))
    (two : scope.requiredAnchors required spent credits = .ok (second, rest)) :
    first = second := by
  induction credits generalizing required usage spent with
  | nil =>
      cases one
      cases two
      rfl
  | cons credit credits ih =>
      simp only [ProvenanceScope.requiredAnchors] at one two
      rcases bind_eq_ok.mp one with ⟨_, _, one⟩
      rcases bind_eq_ok.mp two with ⟨_, _, two⟩
      split at one
      · cases one
      · rename_i fresh
        rw [if_neg fresh] at two
        exact ih one two

/-- A complete reconstruction: nothing was required, or everything was found. -/
theorem reconstructSplitter_cases
    (complete : reconstructSplitterHistoryBounded scope transactions credits authoritative usage =
      .complete (provenance, left)) :
    ∃ sorted required anchored, scope.requiredAnchors .empty sorted credits =
        .ok (required, anchored) ∧
      ((required.entries = [] ∧ provenance = {}) ∨
        ∃ lastAnchor amount replay, required.entries.getLast? = some (lastAnchor, amount) ∧
          scope.replayEntries lastAnchor ⟨[], none, required, {}⟩ anchored
            (chronological transactions) = .ok (replay, left) ∧
          replay.pendingDefault = none ∧ replay.required.entries = [] ∧
          provenance = replay.result) := by
  unfold reconstructSplitterHistoryBounded at complete
  split at complete
  · cases complete
  · rename_i sorted charged
    split at complete
    · cases complete
    · split at complete
      · cases complete
      · split at complete
        · cases complete
        · rename_i required anchored found
          refine ⟨sorted, required, anchored, found, ?_⟩
          split at complete
          · rename_i none_required
            cases complete
            exact .inl ⟨List.getLast?_eq_none_iff.mp none_required, rfl⟩
          · rename_i lastAnchor amount last
            refine .inr ⟨lastAnchor, amount, ?_⟩
            split at complete
            · cases complete
            · rename_i replay spent replayed
              simp only [ProvenanceScope.finishReplay] at complete
              split at complete
              · cases complete
              · rename_i closed
                split at complete
                · rename_i none_left
                  cases complete
                  exact ⟨replay, last, replayed, closed, List.head?_eq_none_iff.mp none_left, rfl⟩
                · split at complete <;> cases complete

theorem lookup_of_no_entries (none_left : required.entries = []) (id : Nat) :
    required.lookup id = none := by
  rw [OrderedMap.lookup, none_left]
  rfl

theorem replayOperation_positive
    (replayed : scope.replayOperation replay usage entry = .ok (next, left))
    (known : replay.required.lookup entry.id = some amount)
    (found : next.required.lookup entry.id = none) : 0 < amount := by
  rcases replayOperation_cases replayed with ⟨rfl, _⟩ | ⟨_, _, _, _, rfl⟩ | ⟨_, _, _, _, settled⟩
  · cases known.symm.trans found
  · cases known.symm.trans found
  · rcases settlePair_cases settled with ⟨_, _, _, _, _, _, pair⟩
    rw [pair.matching amount known]
    exact pair.some_amount

theorem replayEntries_positive {entries : List IndexTransactionWithId}
    (replayed : scope.replayEntries lastAnchor replay usage entries = .ok (next, left))
    (known : replay.required.lookup id = some amount) (found : next.required.lookup id = none) :
    0 < amount := by
  induction entries generalizing replay usage with
  | nil =>
      cases replayed
      cases known.symm.trans found
  | cons entry entries ih =>
      simp only [ProvenanceScope.replayEntries] at replayed
      rcases bind_eq_ok.mp replayed with ⟨⟨middle, _⟩, first, replayed⟩
      cases still : middle.required.lookup id with
      | some value =>
          have kept : value = amount := by
            rcases replayEntry_cases first with ⟨_, rfl⟩ | ⟨_, _, operated⟩
            · exact Option.some.inj (still.symm.trans known)
            · by_cases here : id = entry.id
              · subst here
                rcases replayOperation_cases operated with ⟨rfl, _⟩ | ⟨_, _, _, _, rfl⟩ |
                  ⟨_, _, _, _, settled⟩
                · exact Option.some.inj (still.symm.trans known)
                · exact Option.some.inj (still.symm.trans known)
                · rcases settlePair_cases settled with ⟨_, _, _, _, _, _, pair⟩
                  have result := pair.next
                  rw [if_neg (by simp [known])] at result
                  rw [result, OrderedMap.lookup_erase, if_pos rfl] at still
                  cases still
              · rw [(replayOperation_required operated).2 id here] at still
                exact Option.some.inj (still.symm.trans known)
          exact ih replayed (still.trans (congrArg some kept))
      | none =>
          rcases replayEntry_cases first with ⟨_, rfl⟩ | ⟨_, _, operated⟩
          · cases known.symm.trans still
          · by_cases here : id = entry.id
            · subst here
              exact replayOperation_positive operated known still
            · rw [(replayOperation_required operated).2 id here, known] at still
              cases still

theorem requiredAnchors_kept {final : OrderedMap Nat Nat}
    (anchors : scope.requiredAnchors required usage credits = .ok (final, left))
    (known : required.lookup id = some amount) : final.lookup id = some amount := by
  induction credits generalizing required usage with
  | nil =>
      cases anchors
      exact known
  | cons credit credits ih =>
      simp only [ProvenanceScope.requiredAnchors] at anchors
      rcases bind_eq_ok.mp anchors with ⟨_, _, anchors⟩
      split at anchors
      · cases anchors
      · rename_i fresh
        apply ih anchors
        rw [OrderedMap.insert, OrderedMap.lookup_update, if_neg]
        · exact known
        · rintro rfl
          rw [known] at fresh
          exact fresh rfl

theorem requiredAnchors_listed {final : OrderedMap Nat Nat}
    (anchors : scope.requiredAnchors required usage credits = .ok (final, left)) :
    ∀ credit ∈ credits, final.lookup credit.txId = some credit.amountE8s := by
  induction credits generalizing required usage with
  | nil =>
      intro credit impossible
      cases impossible
  | cons first credits ih =>
      simp only [ProvenanceScope.requiredAnchors] at anchors
      rcases bind_eq_ok.mp anchors with ⟨_, _, anchors⟩
      split at anchors
      · cases anchors
      · intro credit member
        rcases List.mem_cons.mp member with rfl | later
        · apply requiredAnchors_kept anchors
          rw [OrderedMap.insert, OrderedMap.lookup_update, if_pos rfl]
        · exact ih anchors credit later

theorem reconstructSplitter_positive
    (complete : reconstructSplitterHistoryBounded scope transactions credits authoritative usage =
      .complete (provenance, left)) : ∀ credit ∈ credits, 0 < credit.amountE8s := by
  intro credit member
  rcases reconstructSplitter_cases complete with ⟨_, required, _, anchors, outcome⟩
  have listed := requiredAnchors_listed anchors credit member
  rcases outcome with ⟨nothing, _⟩ | ⟨_, _, replay, _, replayed, _, none_left, _⟩
  · rw [lookup_of_no_entries nothing] at listed
    cases listed
  · exact replayEntries_positive replayed listed (lookup_of_no_entries none_left _)

/-- Two replays of an account from a balance of zero that both find everything agree. -/
theorem provenance_same {older newer suffix : List IndexTransactionWithId} {whole part : Bool}
    {found : ExpandedSplitterProvenance}
    (ascending : (older ++ newer).Pairwise fun one two => one.id < two.id)
    (empty : replayBalance scope.splitterAccount 0 older = some 0)
    (shown : transactions.Perm (older ++ newer)) (shownToo : suffix.Perm newer)
    (complete : reconstructSplitterHistoryBounded scope transactions credits whole usage =
      .complete (provenance, left))
    (completeToo : reconstructSplitterHistoryBounded scope suffix credits part spent =
      .complete (found, rest)) : provenance = found := by
  rcases reconstructSplitter_cases complete with ⟨_, required, _, anchors, outcome⟩
  rcases reconstructSplitter_cases completeToo with ⟨_, same, _, anchorsToo, outcomeToo⟩
  cases requiredAnchors_same anchors anchorsToo
  rcases List.pairwise_append.mp ascending with ⟨_, newerAscending, apart⟩
  rcases outcome with ⟨nothing, rfl⟩ | ⟨lastAnchor, amount, replay, last, replayed, closed, _, rfl⟩
  · rcases outcomeToo with ⟨_, rfl⟩ | ⟨_, _, _, last, _⟩
    · rfl
    · rw [nothing] at last
      cases last
  · rcases outcomeToo with ⟨nothing, _⟩ |
      ⟨_, _, replayToo, lastToo, replayedToo, closedToo, none_left, rfl⟩
    · rw [nothing] at last
      cases last
    · cases last.symm.trans lastToo
      rw [chronological_of_perm ascending shown, replayEntries_append] at replayed
      rw [chronological_of_perm newerAscending shownToo] at replayedToo
      rcases bind_eq_ok.mp replayed with ⟨⟨middle, _⟩, begun, continued⟩
      have seen : ∀ id, (required.lookup id).isSome = true →
          ∃ entry ∈ newer, entry.id = id := by
        intro id known
        by_contra unseen
        have kept := replayEntries_found replayedToo id (by
          intro member
          rcases List.mem_map.mp member with ⟨entry, present, same⟩
          exact unseen ⟨entry, present, same⟩)
        rw [lookup_of_no_entries none_left] at kept
        rw [← kept] at known
        cases known
      have unrequired : ∀ one ∈ older, required.lookup one.id = none := by
        intro one member
        by_contra known
        rcases seen one.id (Option.isSome_iff_ne_none.mpr known) with ⟨entry, present, same⟩
        have below := apart one member entry present
        omega
      have early : ∀ one ∈ older, one.id ≤ lastAnchor := by
        intro one member
        have listed := required.lookup_of_mem (List.mem_of_getLast? last)
        rcases seen lastAnchor (Option.isSome_of_eq_some listed) with ⟨entry, present, same⟩
        have below := apart one member entry present
        omega
      rcases replayEntries_older (by exact Nat.zero_le _) unrequired early empty begun with
        ⟨total, sameRequired, sameResult⟩
      dsimp only at sameRequired sameResult
      cases pending : middle.pendingDefault with
      | some leg =>
          have unclosed := unpaired_entries (Option.isSome_of_eq_some pending) rfl continued
            replayedToo
          rw [closed] at unclosed
          cases unclosed
      | none =>
          simp only [pendingGrossE8s, pending, Option.map_none, Option.getD_none] at total
          have nothing : ∀ credit ∈ middle.funding, credit.amountE8s = 0 := by
            intro credit member
            have part := List.single_le_sum (fun _ _ => Nat.zero_le _) credit.amountE8s
              (List.mem_map_of_mem member)
            exact Nat.le_zero.mp (Nat.le_trans part total)
          have ahead : Ahead middle.funding middle ⟨[], none, required, {}⟩ :=
            ⟨nothing, (List.append_nil _).symm, pending, sameRequired, sameResult⟩
          rcases ahead.entries continued replayedToo with ⟨_, final⟩
          exact final.result

end Suffix

end JupiterSuite.Relay
