import JupiterSuite.Relay.RewardBatchesSound
import JupiterSuite.Relay.RewardHistorySound

/-! The batches of a suffix that opens with a balance of zero do not depend on what came before. -/

namespace JupiterSuite.Relay

open Base

/-- Batches that differ at most in credits of zero, which no later step counts. -/
structure SameAmounts (batch other : ContributionBatch) : Prop where
  commitment : batch.commitmentTxId = other.commitmentTxId
  timestamp : batch.timestampNanos = other.timestampNanos
  sources : ∀ source, batch.sources.amount source = other.sources.amount source
  splitters : batch.splitterCredits.filter (fun credit => decide (0 < credit.amountE8s)) =
    other.splitterCredits.filter fun credit => decide (0 < credit.amountE8s)
  ineligible : batch.ineligibleE8s = other.ineligibleE8s

variable {funding zeros : List FundingCredit} {remaining balance after first second : Nat}
  {batches : List ContributionBatch} {entry : IndexTransactionWithId}
  {entries transactions newer older : List IndexTransactionWithId} {attribution : Attribution}
  {account : String}
variable {credit : FundingCredit} {next : ContributionBatch} {queue : List FundingCredit}
  {amount : Nat} {ledger : List IndexTransactionWithId} {authoritative : Bool}

section Batches

theorem SameAmounts.refl (batch : ContributionBatch) : SameAmounts batch batch :=
  ⟨rfl, rfl, fun _ => rfl, rfl, rfl⟩

theorem SameAmounts.take {batch other : ContributionBatch} (same : SameAmounts batch other)
    (taken : batch.take credit = .ok next) :
    ∃ after, other.take credit = .ok after ∧ SameAmounts next after := by
  cases origin : credit.origin with
  | external source =>
      simp only [ContributionBatch.take, origin, addSource] at taken ⊢
      rcases bind_eq_ok.mp taken with ⟨sources, added, final⟩
      rcases bind_eq_ok.mp added with ⟨sum, checked, summed⟩
      cases summed
      cases final
      rw [same.sources] at checked
      rw [checked]
      refine ⟨_, rfl, same.commitment, same.timestamp, ?_, same.splitters, same.ineligible⟩
      intro key
      simp only [OrderedMap.amount_add, same.sources]
  | splitter splitterNumber =>
      simp only [ContributionBatch.take, origin] at taken ⊢
      cases taken
      refine ⟨_, rfl, same.commitment, same.timestamp, same.sources, ?_, same.ineligible⟩
      rw [List.filter_append, List.filter_append, same.splitters]
  | mintOrInvalid =>
      simp only [ContributionBatch.take, origin] at taken ⊢
      rcases bind_eq_ok.mp taken with ⟨ineligible, added, final⟩
      cases final
      rw [same.ineligible] at added
      rw [added]
      exact ⟨_, rfl, same.commitment, same.timestamp, same.sources, same.splitters, rfl⟩

theorem SameAmounts.takeZero {batch other : ContributionBatch} (same : SameAmounts batch other)
    (zero : credit.amountE8s = 0) (taken : batch.take credit = .ok next) :
    SameAmounts next other := by
  cases origin : credit.origin with
  | external source =>
      simp only [ContributionBatch.take, origin, addSource] at taken
      rcases bind_eq_ok.mp taken with ⟨sources, added, final⟩
      rcases bind_eq_ok.mp added with ⟨sum, checked, summed⟩
      cases summed
      cases final
      refine ⟨same.commitment, same.timestamp, ?_, same.splitters, same.ineligible⟩
      intro key
      simp only [OrderedMap.amount_add, same.sources, zero, ite_self, Nat.add_zero]
  | splitter splitterNumber =>
      simp only [ContributionBatch.take, origin] at taken
      cases taken
      refine ⟨same.commitment, same.timestamp, same.sources, ?_, same.ineligible⟩
      simp [List.filter_append, same.splitters, zero]
  | mintOrInvalid =>
      simp only [ContributionBatch.take, origin] at taken
      rcases bind_eq_ok.mp taken with ⟨ineligible, added, final⟩
      cases final
      rcases addChecked_eq_ok added with ⟨rfl, _⟩
      refine ⟨same.commitment, same.timestamp, same.sources, same.splitters, ?_⟩
      rw [zero, Nat.add_zero]
      exact same.ineligible

variable {usage other left : Usage} {rest : List FundingCredit}
  {batch start final : ContributionBatch}

theorem consumeFunding_same (within : other.Within usage) (same : SameAmounts batch start)
    (consumed : consumeFunding usage remaining funding batch = .ok ((rest, final), left)) :
    ∃ after spent, consumeFunding other remaining funding start = .ok ((rest, after), spent) ∧
      SameAmounts final after ∧ spent.Within left := by
  induction funding generalizing usage other remaining batch start with
  | nil =>
      cases remaining with
      | zero =>
          cases consumed
          exact ⟨start, other, rfl, same, within⟩
      | succ remaining =>
          simp only [consumeFunding] at consumed
          rcases bind_eq_ok.mp consumed with ⟨_, _, impossible⟩
          cases impossible
  | cons credit funding ih =>
      cases remaining with
      | zero =>
          cases consumed
          exact ⟨start, other, rfl, same, within⟩
      | succ remaining =>
          simp only [consumeFunding] at consumed ⊢
          rcases bind_eq_ok.mp consumed with ⟨charged, work, continued⟩
          rcases within.spendWork (Nat.le_refl 1) work with ⟨affordable, paid, less⟩
          split at continued
          · cases continued
          · rename_i covered
            rcases bind_eq_ok.mp continued with ⟨next, taken, continued⟩
            rcases same.take taken with ⟨after, takenToo, sameNext⟩
            rw [paid, ok_bind, if_neg covered, takenToo, ok_bind]
            exact ih less sameNext continued

theorem consumeFunding_zeros (nothing : ∀ credit ∈ zeros, credit.amountE8s = 0)
    (within : other.Within usage) (same : SameAmounts batch start)
    (consumed : consumeFunding usage (remaining + 1) (zeros ++ funding) batch =
      .ok ((rest, final), left)) :
    ∃ after spent,
      consumeFunding other (remaining + 1) funding start = .ok ((rest, after), spent) ∧
        SameAmounts final after ∧ spent.Within left := by
  induction zeros generalizing usage batch with
  | nil => exact consumeFunding_same within same consumed
  | cons zero zeros ih =>
      have empty := nothing zero List.mem_cons_self
      simp only [List.cons_append, consumeFunding] at consumed
      rcases bind_eq_ok.mp consumed with ⟨charged, work, continued⟩
      split at continued
      · cases continued
      · rcases bind_eq_ok.mp continued with ⟨next, taken, continued⟩
        rw [empty, Nat.sub_zero] at continued
        have spent := Usage.Within.of_spendWork work
        exact ih (fun credit member => nothing credit (List.mem_cons_of_mem zero member))
          (within.trans spent) (same.takeZero empty taken) continued

end Batches

section Entries

variable {scope : AttributionScope} {cutoff : Nat}

theorem attributeEntry_same {next : Attribution} {usage other left : Usage}
    (others : List ContributionBatch) (nothing : ∀ credit ∈ zeros, credit.amountE8s = 0)
    (within : other.Within usage)
    (attributed : attributeEntry scope cutoff ⟨zeros ++ queue, batches⟩ usage entry =
      .ok (next, left)) :
    ∃ zeros' queue' new new' spent,
      next = ⟨zeros' ++ queue', batches ++ new⟩ ∧
      attributeEntry scope cutoff ⟨queue, others⟩ other entry =
        .ok (⟨queue', others ++ new'⟩, spent) ∧
      (∀ credit ∈ zeros', credit.amountE8s = 0) ∧ List.Forall₂ SameAmounts new new' ∧
      spent.Within left := by
  rcases attributeEntry_cases attributed with
    ⟨charged, timestamp, work, known, outcome⟩
  rcases within.spendWork (Nat.le_refl 1) work with ⟨affordable, paid, less⟩
  rcases outcome with ⟨late, rfl, rfl⟩ | ⟨before, gross, rest, batch, classified, consumed, rfl⟩ |
    ⟨before, origin, amount, classified, rfl, rfl⟩ | ⟨before, classified, rfl, rfl⟩
  · refine ⟨zeros, queue, [], [], affordable, by rw [List.append_nil], ?_, nothing,
      List.Forall₂.nil, less⟩
    simp only [attributeEntry, paid, ok_bind, known, if_pos late, List.append_nil]
  · have notLate : ¬ cutoff ≤ timestamp := Nat.not_le.mpr before
    rcases classify_commitment classified with ⟨amount, fee, _, sum, positive⟩
    rcases Nat.exists_eq_succ_of_ne_zero (show gross ≠ 0 by omega) with ⟨remaining, rfl⟩
    rcases consumeFunding_zeros nothing less (SameAmounts.refl _) consumed with
      ⟨after, spent, consumedToo, same, within⟩
    refine ⟨[], rest, [batch], [after], spent, rfl, ?_, fun _ member => (by cases member),
      List.Forall₂.cons same List.Forall₂.nil, within⟩
    simp only [attributeEntry, paid, ok_bind, known, if_neg notLate, classified, consumedToo]
  · have notLate : ¬ cutoff ≤ timestamp := Nat.not_le.mpr before
    refine ⟨zeros, queue ++ [⟨entry.id, origin, amount⟩], [], [], affordable,
      by rw [List.append_nil, List.append_assoc], ?_, nothing, List.Forall₂.nil, less⟩
    simp only [attributeEntry, paid, ok_bind, known, if_neg notLate, classified, List.append_nil]
  · have notLate : ¬ cutoff ≤ timestamp := Nat.not_le.mpr before
    refine ⟨zeros, queue, [], [], affordable, by rw [List.append_nil], ?_, nothing,
      List.Forall₂.nil, less⟩
    simp only [attributeEntry, paid, ok_bind, known, if_neg notLate, classified, List.append_nil]

theorem attributeEntries_same {final : Attribution} {usage other left : Usage}
    (others : List ContributionBatch) (nothing : ∀ credit ∈ zeros, credit.amountE8s = 0)
    (within : other.Within usage)
    (attributed : attributeEntries scope cutoff ⟨zeros ++ queue, batches⟩ usage entries =
      .ok (final, left)) :
    ∃ funding new new' spent, final.batches = batches ++ new ∧
      attributeEntries scope cutoff ⟨queue, others⟩ other entries =
        .ok (⟨funding, others ++ new'⟩, spent) ∧
      List.Forall₂ SameAmounts new new' ∧ spent.Within left := by
  induction entries generalizing zeros queue batches usage other others with
  | nil =>
      cases attributed
      exact ⟨queue, [], [], other, by rw [List.append_nil], by rw [List.append_nil]; rfl,
        List.Forall₂.nil, within⟩
  | cons entry entries ih =>
      rcases bind_eq_ok.mp attributed with ⟨⟨next, charged⟩, here, continued⟩
      rcases attributeEntry_same others nothing within here with
        ⟨zeros', queue', new, new', spent, rfl, hereToo, nothing', same, less⟩
      rcases ih (others ++ new') nothing' less continued with
        ⟨funding, later, later', rest, all, laterToo, sameLater, lessLater⟩
      refine ⟨funding, new ++ later, new' ++ later', rest, ?_, ?_,
        List.rel_append same sameLater, lessLater⟩
      · rw [all, List.append_assoc]
      · rw [attributeEntries, hereToo, ok_bind]
        dsimp only
        rw [laterToo, List.append_assoc]

theorem attributeEntries_append (attribution : Attribution) (usage : Usage)
    (first second : List IndexTransactionWithId) :
    attributeEntries scope cutoff attribution usage (first ++ second) =
      attributeEntries scope cutoff attribution usage first >>= fun result =>
        attributeEntries scope cutoff result.1 result.2 second := by
  induction first generalizing attribution usage with
  | nil => rfl
  | cons entry first ih =>
      rw [List.cons_append, attributeEntries, attributeEntries, bind_assoc]
      congr 1
      funext result
      exact ih result.1 result.2

theorem apply_of_other (classified : scope.classify entry.transaction = .ok .other) :
    applyAccountTransaction scope.relayAccountIdentifier balance entry = some balance := by
  cases operation : entry.transaction.operation with
  | transfer toAccount fee fromAccount amount spender =>
      simp only [AttributionScope.classify, operation] at classified
      split at classified
      · split at classified
        · cases classified
        · split at classified <;> cases classified
      · rename_i notSender
        split at classified
        · cases classified
        · rename_i notReceiver
          simp only [applyAccountTransaction, operation, decide_eq_false notSender,
            decide_eq_false notReceiver]
  | mint toAccount amount =>
      simp only [AttributionScope.classify, operation] at classified
      split at classified
      · cases classified
      · rename_i elsewhere
        simp only [applyAccountTransaction, operation, if_neg elsewhere]
  | burn fromAccount amount =>
      simp only [AttributionScope.classify, operation] at classified
      split at classified
      · cases classified
      · rename_i elsewhere
        simp only [applyAccountTransaction, operation, if_neg elsewhere]
  | approve fee fromAccount =>
      simp only [AttributionScope.classify, operation] at classified
      split at classified
      · cases classified
      · rename_i free
        simp only [applyAccountTransaction, operation]
        split
        · rename_i sender
          have zero : fee = 0 := by
            by_contra some_fee
            exact free ⟨sender, Nat.pos_of_ne_zero some_fee⟩
          rw [zero]
          rfl
        · rfl

theorem apply_of_funding {origin : FundingOrigin}
    (classified : scope.classify entry.transaction = .ok (.funding origin amount)) :
    applyAccountTransaction scope.relayAccountIdentifier balance entry =
      some (balance + amount) := by
  cases operation : entry.transaction.operation with
  | transfer toAccount fee fromAccount credit spender =>
      simp only [AttributionScope.classify, operation] at classified
      split at classified
      · split at classified
        · cases classified
        · split at classified <;> cases classified
      · rename_i notSender
        split at classified
        · rename_i receiver
          cases classified
          simp only [applyAccountTransaction, operation, decide_eq_false notSender,
            decide_eq_true receiver]
        · cases classified
  | mint toAccount credit =>
      simp only [AttributionScope.classify, operation] at classified
      split at classified
      · rename_i receiver
        cases classified
        simp only [applyAccountTransaction, operation, if_pos receiver]
      · cases classified
  | burn fromAccount credit =>
      simp only [AttributionScope.classify, operation] at classified
      split at classified <;> cases classified
  | approve fee fromAccount =>
      simp only [AttributionScope.classify, operation] at classified
      split at classified <;> cases classified

theorem apply_of_commitment {gross : Nat}
    (classified : scope.classify entry.transaction = .ok (.commitment gross))
    (applied : applyAccountTransaction scope.relayAccountIdentifier balance entry = some after) :
    balance ≤ after + gross := by
  rcases classify_commitment classified with ⟨amount, fee, operation, rfl, _⟩
  simp only [applyAccountTransaction, operation, decide_true] at applied
  split at applied
  · rcases checkedSub_eq_some.mp applied with ⟨covered, rfl⟩
    omega
  · rcases checkedSub_eq_some.mp applied with ⟨covered, rfl⟩
    omega
  · rename_i impossible _
    cases impossible
  · rename_i impossible _
    cases impossible

/-- The queue never holds more than the balance. -/
theorem attributeEntry_balance {next : Attribution} {usage left : Usage}
    (before : isBefore cutoff entry = true) (covered : creditTotal attribution.funding ≤ balance)
    (applied : applyAccountTransaction scope.relayAccountIdentifier balance entry = some after)
    (attributed : attributeEntry scope cutoff attribution usage entry = .ok (next, left)) :
    creditTotal next.funding ≤ after := by
  rcases attributeEntry_cases attributed with
    ⟨charged, timestamp, _, known, ⟨late, _, _⟩ |
      ⟨_, gross, rest, batch, classified, consumed, rfl⟩ |
      ⟨_, origin, amount, classified, rfl, _⟩ | ⟨_, classified, rfl, _⟩⟩
  · simp only [isBefore, known, Option.any_some, decide_eq_true_eq] at before
    omega
  · rcases consumeFunding_spec attributes_empty consumed with ⟨taken, split, total, _⟩
    have spent := apply_of_commitment classified applied
    rw [split, creditTotal_append] at covered
    dsimp only
    omega
  · rw [apply_of_funding classified] at applied
    cases applied
    rw [creditTotal_append, creditTotal_cons, creditTotal_nil]
    dsimp only
    omega
  · rw [apply_of_other classified] at applied
    cases applied
    exact covered

theorem attributeEntries_balance {final : Attribution} {usage left : Usage}
    (before : ∀ entry ∈ entries, isBefore cutoff entry = true)
    (covered : creditTotal attribution.funding ≤ balance)
    (replayed : replayBalance scope.relayAccountIdentifier balance entries = some after)
    (attributed : attributeEntries scope cutoff attribution usage entries = .ok (final, left)) :
    creditTotal final.funding ≤ after := by
  induction entries generalizing attribution usage balance with
  | nil =>
      cases replayed
      cases attributed
      exact covered
  | cons entry entries ih =>
      rcases Option.bind_eq_some_iff.mp replayed with ⟨middle, applied, replayed⟩
      rcases bind_eq_ok.mp attributed with ⟨⟨next, charged⟩, here, continued⟩
      have held := attributeEntry_balance (before entry List.mem_cons_self) covered applied here
      exact ih (fun later member => before later (List.mem_cons_of_mem entry member)) held
        replayed continued

theorem attributeEntries_late {final : Attribution} {usage left other : Usage} (same : Attribution)
    (late : ∀ entry ∈ entries, isBefore cutoff entry = false) (within : other.Within usage)
    (attributed : attributeEntries scope cutoff attribution usage entries = .ok (final, left)) :
    final = attribution ∧ ∃ spent, attributeEntries scope cutoff same other entries =
      .ok (same, spent) ∧ spent.Within left := by
  induction entries generalizing usage other with
  | nil =>
      cases attributed
      exact ⟨rfl, other, rfl, within⟩
  | cons entry entries ih =>
      rcases bind_eq_ok.mp attributed with ⟨⟨next, charged⟩, here, continued⟩
      rcases attributeEntry_cases here with ⟨spent, timestamp, work, known, outcome⟩
      have skipped := late entry List.mem_cons_self
      simp only [isBefore, known, Option.any_some, decide_eq_false_iff_not, Nat.not_lt] at skipped
      rcases outcome with ⟨_, rfl, rfl⟩ | ⟨early, _⟩ | ⟨early, _⟩ | ⟨early, _⟩
      · rcases within.spendWork (Nat.le_refl 1) work with ⟨affordable, paid, less⟩
        have later : ∀ entry ∈ entries, isBefore cutoff entry = false := fun other member =>
          late other (List.mem_cons_of_mem entry member)
        rcases ih later less continued with ⟨kept, rest, continuedToo, lessToo⟩
        refine ⟨kept, rest, ?_, lessToo⟩
        simp only [attributeEntries, attributeEntry, paid, ok_bind, known, if_pos skipped]
        exact continuedToo
      · omega
      · omega
      · omega

theorem attributeEntries_timestamps {final : Attribution} {usage left : Usage}
    (attributed : attributeEntries scope cutoff attribution usage entries = .ok (final, left)) :
    ∀ entry ∈ entries, ∃ timestamp, entry.transaction.timestampNanos = some timestamp := by
  induction entries generalizing attribution usage with
  | nil =>
      intro entry member
      cases member
  | cons entry entries ih =>
      rcases bind_eq_ok.mp attributed with ⟨⟨next, charged⟩, here, continued⟩
      rcases attributeEntry_cases here with ⟨_, timestamp, _, known, _⟩
      intro other member
      rcases List.mem_cons.mp member with rfl | later
      · exact ⟨timestamp, known⟩
      · exact ih continued other later

theorem consumeFunding_within {usage left : Usage} {batch : ContributionBatch}
    {result : List FundingCredit × ContributionBatch}
    (consumed : consumeFunding usage remaining funding batch = .ok (result, left)) :
    usage.Within left := by
  induction funding generalizing usage remaining batch with
  | nil =>
      cases remaining with
      | zero =>
          cases consumed
          exact Usage.Within.refl _
      | succ remaining =>
          simp only [consumeFunding] at consumed
          rcases bind_eq_ok.mp consumed with ⟨_, _, impossible⟩
          cases impossible
  | cons credit funding ih =>
      cases remaining with
      | zero =>
          cases consumed
          exact Usage.Within.refl _
      | succ remaining =>
          simp only [consumeFunding] at consumed
          rcases bind_eq_ok.mp consumed with ⟨charged, work, continued⟩
          split at continued
          · cases continued
          · rcases bind_eq_ok.mp continued with ⟨next, _, continued⟩
            exact (Usage.Within.of_spendWork work).trans (ih continued)

theorem attributeEntries_within {final : Attribution} {usage left : Usage}
    (attributed : attributeEntries scope cutoff attribution usage entries = .ok (final, left)) :
    usage.Within left := by
  induction entries generalizing attribution usage with
  | nil =>
      cases attributed
      exact Usage.Within.refl _
  | cons entry entries ih =>
      rcases bind_eq_ok.mp attributed with ⟨⟨next, charged⟩, here, continued⟩
      refine Usage.Within.trans ?_ (ih continued)
      rcases attributeEntry_cases here with ⟨spent, timestamp, work, _, ⟨_, _, rfl⟩ |
        ⟨_, _, _, _, _, consumed, _⟩ | ⟨_, _, _, _, _, rfl⟩ | ⟨_, _, _, rfl⟩⟩
      · exact Usage.Within.of_spendWork work
      · exact (Usage.Within.of_spendWork work).trans (consumeFunding_within consumed)
      · exact Usage.Within.of_spendWork work
      · exact Usage.Within.of_spendWork work

end Entries

section Ledger

/-- A history of the reward account: ids ascend, and timestamps never descend. -/
structure TruthfulHistory (ledger : List IndexTransactionWithId) : Prop where
  ascending : ledger.Pairwise fun older newer => older.id < newer.id
  ordered : ledger.Pairwise fun older newer => ∀ first second,
    older.transaction.timestampNanos = some first →
      newer.transaction.timestampNanos = some second → first ≤ second

variable {scope : AttributionScope} {cutoff : Nat}

theorem chronological_of_perm (ascending : ledger.Pairwise fun older newer => older.id < newer.id)
    (same : transactions.Perm ledger) : chronological transactions = ledger := by
  have ids : (ledger.map IndexTransactionWithId.id).Nodup :=
    List.pairwise_map.mpr (ascending.imp Nat.ne_of_lt)
  have total : Std.Total fun first second : IndexTransactionWithId => first.id ≤ second.id :=
    ⟨fun first second => Nat.le_total first.id second.id⟩
  have transitive : IsTrans IndexTransactionWithId fun first second => first.id ≤ second.id :=
    ⟨fun _ _ _ => Nat.le_trans⟩
  have sorted := List.pairwise_insertionSort (fun first second : IndexTransactionWithId =>
    first.id ≤ second.id) transactions
  have reordered := (List.perm_insertionSort (fun first second : IndexTransactionWithId =>
    first.id ≤ second.id) transactions).trans same
  apply List.Perm.eq_of_pairwise _ sorted (ascending.imp Nat.le_of_lt) reordered
  intro first second firstIn secondIn le ge
  exact List.inj_on_of_nodup_map ids (reordered.mem_iff.mp firstIn) secondIn (Nat.le_antisymm le ge)

theorem sortWork_mono {fewer more : Nat} (le : fewer ≤ more) : sortWork fewer ≤ sortWork more := by
  have logs : Nat.log2 (max fewer 1) ≤ Nat.log2 (max more 1) := by
    rw [Nat.le_log2 (by omega)]
    exact Nat.le_trans (Nat.log2_self_le (by omega)) (by omega)
  exact Nat.mul_le_mul le (by omega)

theorem zeros_of_total {credits : List FundingCredit} (zero : creditTotal credits ≤ 0) :
    ∀ credit ∈ credits, credit.amountE8s = 0 := by
  induction credits with
  | nil =>
      intro credit member
      cases member
  | cons front credits ih =>
      rw [creditTotal_cons] at zero
      intro credit member
      rcases List.mem_cons.mp member with rfl | later
      · omega
      · exact ih (by omega) credit later

/-- Either everything in the older part is before the cutoff, or nothing in the newer part is. -/
theorem before_or_late (truthful : TruthfulHistory (older ++ newer))
    (timestamps : ∀ entry ∈ older ++ newer, ∃ timestamp,
      entry.transaction.timestampNanos = some timestamp) :
    (∀ entry ∈ older, isBefore cutoff entry = true) ∨
      ∀ entry ∈ newer, isBefore cutoff entry = false := by
  by_cases early : ∀ entry ∈ older, isBefore cutoff entry = true
  · exact .inl early
  · refine .inr fun entry member => ?_
    simp only [not_forall, Bool.not_eq_true] at early
    rcases early with ⟨skipped, skippedIn, late⟩
    rcases timestamps skipped (List.mem_append_left newer skippedIn) with ⟨first, firstKnown⟩
    rcases timestamps entry (List.mem_append_right older member) with ⟨second, secondKnown⟩
    have ordered := (List.pairwise_append.mp truthful.ordered).2.2 skipped skippedIn entry member
      first second firstKnown secondKnown
    simp only [isBefore, firstKnown, Option.any_some, decide_eq_false_iff_not] at late
    simp only [isBefore, secondKnown, Option.any_some, decide_eq_false_iff_not]
    omega

theorem attributeEntries_suffix {final : Attribution} {usage other left : Usage}
    (truthful : TruthfulHistory (older ++ newer))
    (empty : replayBalance scope.relayAccountIdentifier 0 older = some 0)
    (within : other.Within usage)
    (attributed : attributeEntries scope cutoff ⟨[], []⟩ usage (older ++ newer) =
      .ok (final, left)) :
    ∃ middle spent suffix rest later, attributeEntries scope cutoff ⟨[], []⟩ usage older =
        .ok (middle, spent) ∧
      attributeEntries scope cutoff ⟨[], []⟩ other newer = .ok (suffix, rest) ∧
      rest.Within left ∧ final.batches = middle.batches ++ later ∧
      List.Forall₂ SameAmounts later suffix.batches := by
  have timestamps := attributeEntries_timestamps attributed
  rw [attributeEntries_append] at attributed
  rcases bind_eq_ok.mp attributed with ⟨⟨middle, spent⟩, begun, continued⟩
  have cheaper : other.Within spent := within.trans (attributeEntries_within begun)
  have place : (∀ entry ∈ older, isBefore cutoff entry = true) ∨
      ∀ entry ∈ newer, isBefore cutoff entry = false := before_or_late truthful timestamps
  rcases place with early | late
  · have balanced := attributeEntries_balance early (Nat.le_refl 0) empty begun
    have nothing := zeros_of_total balanced
    rcases middle with ⟨zeros, batches⟩
    rw [← List.append_nil zeros] at continued
    rcases attributeEntries_same [] nothing cheaper continued with
      ⟨funding, new, new', rest, all, suffix, same, less⟩
    exact ⟨_, spent, _, rest, new, begun, suffix, less, all, same⟩
  · rcases attributeEntries_late ⟨[], []⟩ late cheaper continued with ⟨kept, rest, suffix, less⟩
    exact ⟨middle, spent, _, rest, [], begun, suffix, less, by rw [kept, List.append_nil],
      List.Forall₂.nil⟩

theorem checkedSub_injective (one : checkedSub first amount = some after)
    (two : checkedSub second amount = some after) :
    first = second := by
  rcases checkedSub_eq_some.mp one with ⟨_, _⟩
  rcases checkedSub_eq_some.mp two with ⟨_, _⟩
  omega

theorem apply_injective (one : applyAccountTransaction account first entry = some after)
    (two : applyAccountTransaction account second entry = some after) : first = second := by
  cases operation : entry.transaction.operation with
  | transfer toAccount fee fromAccount amount spender =>
      simp only [applyAccountTransaction, operation] at one two
      by_cases sender : fromAccount = account <;> by_cases receiver : toAccount = account <;>
        simp only [decide_eq_true, sender, receiver] at one two
      · exact checkedSub_injective one two
      · exact checkedSub_injective one two
      · exact Nat.add_right_cancel (Option.some.inj (one.trans two.symm))
      · exact Option.some.inj (one.trans two.symm)
  | mint toAccount amount =>
      simp only [applyAccountTransaction, operation, Option.some.injEq] at one two
      by_cases receiver : toAccount = account
      · rw [if_pos receiver] at one two
        omega
      · rw [if_neg receiver] at one two
        omega
  | burn fromAccount amount =>
      simp only [applyAccountTransaction, operation] at one two
      by_cases sender : fromAccount = account
      · rw [if_pos sender] at one two
        exact checkedSub_injective one two
      · rw [if_neg sender] at one two
        exact Option.some.inj (one.trans two.symm)
  | approve fee fromAccount =>
      simp only [applyAccountTransaction, operation] at one two
      by_cases sender : fromAccount = account
      · rw [if_pos sender] at one two
        exact checkedSub_injective one two
      · rw [if_neg sender] at one two
        exact Option.some.inj (one.trans two.symm)

theorem replayBalance_injective (one : replayBalance account first entries = some after)
    (two : replayBalance account second entries = some after) : first = second := by
  induction entries generalizing first second with
  | nil =>
      cases one
      cases two
      rfl
  | cons entry entries ih =>
      rcases Option.bind_eq_some_iff.mp one with ⟨middle, applied, replayed⟩
      rcases Option.bind_eq_some_iff.mp two with ⟨other, appliedToo, replayedToo⟩
      have same := ih replayed replayedToo
      subst same
      exact apply_injective applied appliedToo

/-- What a scan of the account's newest transactions calls authoritative opens with a balance of
zero in the whole ledger. -/
theorem authoritative_boundary {history : BackwardHistory} {usage left : Usage}
    {replies : List (Fetched GetAccountIdentifierTransactionsResponse)} {live : Nat}
    (accepted : (BackwardHistory.new account).extendAll usage replies = .ok (history, left))
    (newest : history.transactions <+: ledger.reverse)
    (settled : replayBalance account 0 ledger = some live)
    (current : history.currentBalanceE8s = some live) (authoritative : history.authoritative) :
    ∃ older, ledger = older ++ history.authoritativeTransactions.reverse ∧
      replayBalance account 0 older = some 0 := by
  have sound := backward_history_sound account usage left replies history accepted
  rcases sound.authoritative authoritative with
    ⟨balance, opening, known, opened, boundary, _⟩
  rcases sound.replayed live current with ⟨before, openedToo, replayed⟩
  rw [opened] at openedToo
  cases openedToo
  rcases newest with ⟨unseen, cut⟩
  have parts : ledger = unseen.reverse ++ history.transactions.reverse := by
    rw [← List.reverse_append, cut, List.reverse_reverse]
  have cutAt : history.transactions.reverse =
      (history.transactions.drop history.authoritativeLen).reverse ++
        history.authoritativeTransactions.reverse := by
    rw [← List.reverse_append, BackwardHistory.authoritativeTransactions, List.take_append_drop]
  rw [parts, replayBalance_append] at settled
  rcases Option.bind_eq_some_iff.mp settled with ⟨middle, old, recent⟩
  have same := replayBalance_injective recent replayed
  subst same
  refine ⟨unseen.reverse ++ (history.transactions.drop history.authoritativeLen).reverse, ?_, ?_⟩
  · rw [parts, cutAt, List.append_assoc]
  · rw [replayBalance_append, old]
    exact boundary

/-- What a complete reconstruction says about the ledger of the reward account. -/
structure AttributionSound (scope : AttributionScope) (cutoff : Nat) (usage : Usage)
    (ledger : List IndexTransactionWithId) (batches : List ContributionBatch) : Prop where
  fifo : ∃ groups unspent, List.Forall₂ (Settled scope cutoff ledger) batches groups ∧
    ledger.filterMap (creditOf scope cutoff) = groups.flatten ++ unspent
  commitments : batches.map ContributionBatch.commitmentTxId =
    (ledger.filter (isCommitment scope cutoff)).map IndexTransactionWithId.id
  conserved : ∀ batch ∈ batches, ∃ entry ∈ ledger, entry.id = batch.commitmentTxId ∧
    ∃ amount fee, entry.transaction.operation =
        .transfer scope.faucetAccountIdentifier fee scope.relayAccountIdentifier amount none ∧
      batch.totalE8s = amount + fee
  suffix : ∀ older newer suffix, ledger = older ++ newer →
    replayBalance scope.relayAccountIdentifier 0 older = some 0 → suffix.Perm newer →
    ∃ found left earlier later,
      reconstructBatchesBounded scope suffix true cutoff usage = .complete (found, left) ∧
      batches = earlier ++ later ∧
      later.map ContributionBatch.commitmentTxId =
        (newer.filter (isCommitment scope cutoff)).map IndexTransactionWithId.id ∧
      List.Forall₂ SameAmounts later found
  scanned : ∀ history spent rest replies live,
    (BackwardHistory.new scope.relayAccountIdentifier).extendAll spent replies =
      .ok (history, rest) →
    history.transactions <+: ledger.reverse →
    replayBalance scope.relayAccountIdentifier 0 ledger = some live →
    history.currentBalanceE8s = some live → history.authoritative →
    ∃ found left earlier later,
      reconstructBatchesBounded scope history.authoritativeTransactions true cutoff usage =
        .complete (found, left) ∧
      batches = earlier ++ later ∧ List.Forall₂ SameAmounts later found

theorem reconstruct_eq_complete {usage left : Usage}
    (complete : reconstructBatchesBounded scope transactions authoritative cutoff usage =
      .complete (batches, left)) :
    authoritative = true ∧ ∃ sorted attribution,
      usage.spendWork (sortWork transactions.length) = .ok sorted ∧
      attributeEntries scope cutoff ⟨[], []⟩ sorted (chronological transactions) =
        .ok (attribution, left) ∧ attribution.batches = batches := by
  unfold reconstructBatchesBounded at complete
  split at complete
  · cases complete
  · rename_i sorted charged
    split at complete
    · cases complete
    · rename_i whole
      split at complete
      · cases complete
      · rename_i attribution spent attributed
        cases complete
        exact ⟨by simpa using whole, sorted, attribution, charged, attributed, rfl⟩

theorem commitments_of_entries {usage left : Usage}
    (ascending : entries.Pairwise fun older newer => older.id < newer.id)
    (attributed : attributeEntries scope cutoff ⟨[], []⟩ usage entries =
      .ok (attribution, left)) :
    attribution.batches.map ContributionBatch.commitmentTxId =
      (entries.filter (isCommitment scope cutoff)).map IndexTransactionWithId.id := by
  rcases attributeEntries_spec ascending (fun _ member => (by cases member)) attributed with
    ⟨batches, groups, all, _, _, ids⟩
  rw [all, List.nil_append]
  exact ids

theorem reconstructed_suffix {suffix : List IndexTransactionWithId} {usage left : Usage}
    (truthful : TruthfulHistory (older ++ newer)) (shown : transactions.Perm (older ++ newer))
    (complete : reconstructBatchesBounded scope transactions authoritative cutoff usage =
      .complete (batches, left))
    (empty : replayBalance scope.relayAccountIdentifier 0 older = some 0) (part : suffix.Perm newer) :
    ∃ found left earlier later,
      reconstructBatchesBounded scope suffix true cutoff usage = .complete (found, left) ∧
      batches = earlier ++ later ∧
      later.map ContributionBatch.commitmentTxId =
        (newer.filter (isCommitment scope cutoff)).map IndexTransactionWithId.id ∧
      List.Forall₂ SameAmounts later found := by
  rcases reconstruct_eq_complete complete with ⟨_, sorted, attribution, charged, attributed, rfl⟩
  rw [chronological_of_perm truthful.ascending shown] at attributed
  have fewer : sortWork suffix.length ≤ sortWork transactions.length := by
    apply sortWork_mono
    rw [part.length_eq, shown.length_eq, List.length_append]
    exact Nat.le_add_left _ _
  rcases (Usage.Within.refl usage).spendWork fewer charged with ⟨other, affordable, within⟩
  rcases attributeEntries_suffix truthful empty within attributed with
    ⟨middle, spent, found, rest, later, begun, suffixed, _, all, same⟩
  have newerAscending := (List.pairwise_append.mp truthful.ascending).2.1
  refine ⟨found.batches, rest, middle.batches, later, ?_, all, ?_, same⟩
  · unfold reconstructBatchesBounded
    rw [affordable, chronological_of_perm newerAscending part]
    simp only [Bool.not_true, Bool.false_eq_true, if_false, suffixed]
  · rw [← commitments_of_entries newerAscending suffixed]
    have ids := List.forall₂_iff_get.mp same
    apply List.ext_getElem
    · rw [List.length_map, List.length_map, ids.1]
    · intro position first second
      rw [List.getElem_map, List.getElem_map]
      rw [List.length_map] at first second
      exact (ids.2 position first second).commitment

theorem reconstructed_batches (scope : AttributionScope) (cutoff : Nat) (usage left : Usage)
    (ledger transactions : List IndexTransactionWithId) (authoritative : Bool)
    (batches : List ContributionBatch) (truthful : TruthfulHistory ledger)
    (shown : transactions.Perm ledger)
    (complete : reconstructBatchesBounded scope transactions authoritative cutoff usage =
      .complete (batches, left)) :
    AttributionSound scope cutoff usage ledger batches := by
  have attributedAll := reconstruct_eq_complete complete
  rcases attributedAll with ⟨_, sorted, attribution, _, attributed, rfl⟩
  rw [chronological_of_perm truthful.ascending shown] at attributed
  rcases attributeEntries_spec truthful.ascending (fun _ member => (by cases member))
    attributed with ⟨found, groups, all, settled, queue, ids⟩
  rw [List.nil_append] at all queue
  subst all
  refine ⟨⟨groups, attribution.funding, settled, queue⟩, ids, ?_, ?_, ?_⟩
  · intro batch member
    rcases List.getElem_of_mem member with ⟨position, bound, rfl⟩
    rcases List.forall₂_iff_get.mp settled with ⟨lengths, each⟩
    have here := each position bound (lengths ▸ bound)
    rcases here.commitment with ⟨entry, entryIn, same, _, amount, fee, operation, total⟩
    exact ⟨entry, entryIn, same, amount, fee, operation, here.attributes.conserved.trans total⟩
  · intro older newer suffix split empty part
    subst split
    exact reconstructed_suffix truthful shown complete empty part
  · intro history spent rest replies live accepted newest replayed current isAuthoritative
    rcases authoritative_boundary accepted newest replayed current isAuthoritative with
      ⟨older, split, empty⟩
    subst split
    rcases reconstructed_suffix truthful shown complete empty
      (List.reverse_perm _).symm with ⟨found, remaining, earlier, later, suffix, all, _, same⟩
    exact ⟨found, remaining, earlier, later, suffix, all, same⟩

end Ledger

section Samples

def sampleScope : AttributionScope := ⟨"relay", "faucet", [7], .empty⟩

def sampleAccount (last : String) : String :=
  "000000000000000000000000000000000000000000000000000000000000000" ++ last

def sampleCommitment (id amount fee : Nat) : IndexTransactionWithId :=
  ⟨id, ⟨0, some [7], .transfer "faucet" fee "relay" amount none, some id⟩⟩

def sampleHistory : List IndexTransactionWithId :=
  [sampleTransfer 1 (sampleAccount "a") "relay" 120000000 1, sampleTransfer 2 "payer" "relay" 5 1,
    sampleCommitment 3 120000000 5, sampleTransfer 4 (sampleAccount "b") "relay" 0 1,
    sampleTransfer 5 (sampleAccount "a") "relay" 200000000 1, sampleCommitment 6 199999990 10]

theorem sampleHistory_truthful : TruthfulHistory sampleHistory where
  ascending := by decide
  ordered := by
    simp only [sampleHistory, sampleTransfer, sampleCommitment, List.pairwise_cons,
      List.mem_cons, List.not_mem_nil, Option.some.injEq]
    grind

def HistoricalReconstruction.getD {α : Type*} (reconstruction : HistoricalReconstruction α)
    (default : α) : α :=
  match reconstruction with
  | .complete value => value
  | _ => default

theorem reconstructed_batches_of_sample : ∃ batches,
    batches.length = 2 ∧
      AttributionSound sampleScope 100 ⟨0, 0, 0, 0⟩ sampleHistory batches := by
  have complete : reconstructBatchesBounded sampleScope sampleHistory.reverse true 100
      ⟨0, 0, 0, 0⟩ = .complete ((reconstructBatchesBounded sampleScope sampleHistory.reverse true
        100 ⟨0, 0, 0, 0⟩).getD ([], ⟨0, 0, 0, 0⟩)) := by
    rfl
  exact ⟨_, rfl, reconstructed_batches sampleScope 100 ⟨0, 0, 0, 0⟩ _ sampleHistory
    sampleHistory.reverse true _ sampleHistory_truthful (List.reverse_perm _) complete⟩

/-- The credit of zero before the suffix is a source of its first batch, when the account is read
from its first transaction on. -/
theorem suffix_misses_zero_source : ∃ batch other left rest,
    replayBalance "relay" 0 (sampleHistory.take 4) = some 0 ∧
      reconstructBatchesBounded sampleScope sampleHistory true 100 ⟨0, 0, 0, 0⟩ =
        .complete (batch, left) ∧
      reconstructBatchesBounded sampleScope (sampleHistory.drop 4) true 100 ⟨0, 0, 0, 0⟩ =
        .complete (other, rest) ∧
      batch.map (fun batch => batch.sources.entries) =
        [[(10, 120000000)], [(10, 200000000), (11, 0)]] ∧
      other.map (fun batch => batch.sources.entries) = [[(10, 200000000)]] := by
  exact ⟨_, _, _, _, by rfl, by rfl, by rfl, by rfl, by rfl⟩

end Samples

end JupiterSuite.Relay
