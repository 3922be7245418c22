import JupiterSuite.Relay.RewardBatches

/-! Every commitment is paid by the oldest credits that are left, and every credit is attributed at
most once. -/

namespace JupiterSuite.Relay

open Base

def creditTotal (credits : List FundingCredit) : Nat := (credits.map FundingCredit.amountE8s).sum

def fromOrigin (origin : FundingOrigin) (credits : List FundingCredit) : Nat :=
  creditTotal (credits.filter fun credit => decide (credit.origin = origin))

def FundingCredit.asSplitter (credit : FundingCredit) : Option SplitterFundingCredit :=
  match credit.origin with
  | .splitter splitterNumber => some ⟨splitterNumber, credit.txId, credit.amountE8s⟩
  | _ => none

def ContributionBatch.totalE8s (batch : ContributionBatch) : Nat :=
  batch.sources.total + (batch.splitterCredits.map SplitterFundingCredit.amountE8s).sum +
    batch.ineligibleE8s

/-- The batch says for every origin what the credits of the group come to. -/
structure Attributes (batch : ContributionBatch) (group : List FundingCredit) : Prop where
  sources : ∀ source, batch.sources.amount source = fromOrigin (.external source) group
  splitters : batch.splitterCredits = group.filterMap FundingCredit.asSplitter
  ineligible : batch.ineligibleE8s = fromOrigin .mintOrInvalid group
  conserved : batch.totalE8s = creditTotal group

@[simp]
theorem creditTotal_nil : creditTotal [] = 0 := rfl

@[simp]
theorem creditTotal_append (first second : List FundingCredit) :
    creditTotal (first ++ second) = creditTotal first + creditTotal second := by
  simp [creditTotal]

@[simp]
theorem creditTotal_cons (credit : FundingCredit) (rest : List FundingCredit) :
    creditTotal (credit :: rest) = credit.amountE8s + creditTotal rest := by
  simp [creditTotal]

theorem fromOrigin_snoc (origin : FundingOrigin) (group : List FundingCredit)
    (credit : FundingCredit) :
    fromOrigin origin (group ++ [credit]) =
      fromOrigin origin group + if credit.origin = origin then credit.amountE8s else 0 := by
  rw [fromOrigin, List.filter_append, creditTotal_append]
  by_cases same : credit.origin = origin <;> simp [fromOrigin, same]

theorem attributes_take {next : ContributionBatch} {credit : FundingCredit}
    (attributes : Attributes batch group) (taken : batch.take credit = .ok next) :
    Attributes next (group ++ [credit]) ∧ next.commitmentTxId = batch.commitmentTxId ∧
      next.timestampNanos = batch.timestampNanos := by
  have conserved := attributes.conserved
  simp only [ContributionBatch.totalE8s] at conserved
  cases origin : credit.origin with
  | external source =>
      simp only [ContributionBatch.take, origin, addSource] at taken
      rcases bind_eq_ok.mp taken with ⟨sources, added, same⟩
      rcases bind_eq_ok.mp added with ⟨_, _, summed⟩
      cases summed
      cases same
      refine ⟨⟨?_, ?_, ?_, ?_⟩, rfl, rfl⟩
      · intro other
        simp only [OrderedMap.amount_add, attributes.sources, fromOrigin_snoc, origin,
          FundingOrigin.external.injEq, eq_comm]
      · simp [attributes.splitters, FundingCredit.asSplitter, origin]
      · simp [attributes.ineligible, fromOrigin_snoc, origin]
      · simp only [ContributionBatch.totalE8s, OrderedMap.total_add, creditTotal_append,
          creditTotal_cons, creditTotal_nil]
        omega
  | splitter splitterNumber =>
      simp only [ContributionBatch.take, origin] at taken
      cases taken
      refine ⟨⟨?_, ?_, ?_, ?_⟩, rfl, rfl⟩
      · intro other
        simp [attributes.sources, fromOrigin_snoc, origin]
      · simp [attributes.splitters, FundingCredit.asSplitter, origin]
      · simp [attributes.ineligible, fromOrigin_snoc, origin]
      · simp only [ContributionBatch.totalE8s, List.map_append, List.sum_append, List.map_cons,
          List.map_nil, List.sum_cons, List.sum_nil, creditTotal_append, creditTotal_cons,
          creditTotal_nil]
        omega
  | mintOrInvalid =>
      simp only [ContributionBatch.take, origin] at taken
      rcases bind_eq_ok.mp taken with ⟨ineligible, added, same⟩
      cases same
      rcases addChecked_eq_ok added with ⟨rfl, _⟩
      refine ⟨⟨?_, ?_, ?_, ?_⟩, rfl, rfl⟩
      · intro other
        simp [attributes.sources, fromOrigin_snoc, origin]
      · simp [attributes.splitters, FundingCredit.asSplitter, origin]
      · simp [attributes.ineligible, fromOrigin_snoc, origin]
      · simp only [ContributionBatch.totalE8s, creditTotal_append, creditTotal_cons,
          creditTotal_nil]
        omega

theorem attributes_empty {id timestamp : Nat} :
    Attributes ⟨id, timestamp, .empty, [], 0⟩ [] where
  sources _ := rfl
  splitters := rfl
  ineligible := rfl
  conserved := rfl

/-- A commitment takes a prefix of the queue that is worth exactly the commitment. -/
theorem consumeFunding_spec {remaining : Nat} {funding rest : List FundingCredit}
    {final : ContributionBatch} (attributes : Attributes batch group)
    (consumed : consumeFunding usage remaining funding batch = .ok ((rest, final), left)) :
    ∃ taken, funding = taken ++ rest ∧ creditTotal taken = remaining ∧
      Attributes final (group ++ taken) ∧ final.commitmentTxId = batch.commitmentTxId ∧
      final.timestampNanos = batch.timestampNanos := by
  induction funding generalizing usage remaining batch group with
  | nil =>
      cases remaining with
      | zero =>
          cases consumed
          exact ⟨[], rfl, rfl, by rwa [List.append_nil], rfl, rfl⟩
      | succ remaining =>
          simp only [consumeFunding] at consumed
          rcases bind_eq_ok.mp consumed with ⟨_, _, impossible⟩
          cases impossible
  | cons credit funding ih =>
      cases remaining with
      | zero =>
          cases consumed
          exact ⟨[], rfl, rfl, by rwa [List.append_nil], rfl, rfl⟩
      | succ remaining =>
          simp only [consumeFunding] at consumed
          rcases bind_eq_ok.mp consumed with ⟨spent, _, consumed⟩
          split at consumed
          · cases consumed
          · rename_i within
            rcases bind_eq_ok.mp consumed with ⟨next, taken, consumed⟩
            rcases attributes_take attributes taken with ⟨attributes, sameId, sameTime⟩
            rcases ih attributes consumed with ⟨others, split, total, attributes, id, time⟩
            refine ⟨credit :: others, by rw [split, List.cons_append], ?_, ?_,
              id.trans sameId, time.trans sameTime⟩
            · rw [creditTotal_cons]
              omega
            · rw [List.append_assoc, List.singleton_append] at attributes
              exact attributes

section Entries

variable {scope : AttributionScope} {cutoff : Nat}

def isBefore (cutoff : Nat) (entry : IndexTransactionWithId) : Bool :=
  entry.transaction.timestampNanos.any fun timestamp => decide (timestamp < cutoff)

def creditOf (scope : AttributionScope) (cutoff : Nat) (entry : IndexTransactionWithId) :
    Option FundingCredit :=
  match scope.classify entry.transaction with
  | .ok (.funding origin amount) =>
      if isBefore cutoff entry then some ⟨entry.id, origin, amount⟩ else none
  | _ => none

def isCommitment (scope : AttributionScope) (cutoff : Nat) (entry : IndexTransactionWithId) :
    Bool :=
  match scope.classify entry.transaction with
  | .ok (.commitment _) => isBefore cutoff entry
  | _ => false

theorem classify_commitment {transaction : IndexTransaction} {gross : Nat}
    (classified : scope.classify transaction = .ok (.commitment gross)) :
    ∃ amount fee, transaction.operation =
        .transfer scope.faucetAccountIdentifier fee scope.relayAccountIdentifier amount none ∧
      gross = amount + fee ∧ 0 < amount := by
  cases operation : transaction.operation with
  | transfer toAccount fee fromAccount amount spender =>
      simp only [AttributionScope.classify, operation] at classified
      split at classified
      · rename_i sender
        split at classified
        · cases classified
        · rename_i expected
          split at classified
          · cases classified
          · cases classified
            rw [not_not] at expected
            rcases expected with ⟨unspent, receiver, _, enough⟩
            refine ⟨amount, fee, ?_, rfl, Nat.lt_of_lt_of_le (by decide) enough⟩
            rw [sender, receiver, Option.isNone_iff_eq_none.mp unspent]
      · split at classified <;> cases classified
  | mint toAccount amount =>
      simp only [AttributionScope.classify, operation] at classified
      split at classified <;> cases classified
  | burn fromAccount amount =>
      simp only [AttributionScope.classify, operation] at classified
      split at classified <;> cases classified
  | approve fee fromAccount =>
      simp only [AttributionScope.classify, operation] at classified
      split at classified <;> cases classified

theorem attributeEntry_cases {attribution next : Attribution} {entry : IndexTransactionWithId}
    (attributed : attributeEntry scope cutoff attribution usage entry = .ok (next, left)) :
    ∃ spent timestamp, usage.spendWork 1 = .ok spent ∧
      entry.transaction.timestampNanos = some timestamp ∧
      ((cutoff ≤ timestamp ∧ next = attribution ∧ left = spent) ∨
        (timestamp < cutoff ∧ ∃ gross rest batch,
          scope.classify entry.transaction = .ok (.commitment gross) ∧
          consumeFunding spent gross attribution.funding ⟨entry.id, timestamp, .empty, [], 0⟩ =
            .ok ((rest, batch), left) ∧
          next = ⟨rest, attribution.batches ++ [batch]⟩) ∨
        (timestamp < cutoff ∧ ∃ origin amount,
          scope.classify entry.transaction = .ok (.funding origin amount) ∧
          next = { attribution with
            funding := attribution.funding ++ [⟨entry.id, origin, amount⟩] } ∧ left = spent) ∨
        (timestamp < cutoff ∧ scope.classify entry.transaction = .ok .other ∧
          next = attribution ∧ left = spent)) := by
  simp only [attributeEntry] at attributed
  rcases bind_eq_ok.mp attributed with ⟨spent, charged, attributed⟩
  refine ⟨spent, ?_⟩
  split at attributed
  · cases attributed
  · rename_i timestamp known
    refine ⟨timestamp, charged, known, ?_⟩
    split at attributed
    · rename_i late
      cases attributed
      exact .inl ⟨late, rfl, rfl⟩
    · rename_i early
      rcases bind_eq_ok.mp attributed with ⟨kind, classified, attributed⟩
      have before : timestamp < cutoff := Nat.lt_of_not_le early
      cases kind with
      | commitment gross =>
          rcases bind_eq_ok.mp attributed with ⟨⟨⟨rest, batch⟩, after⟩, consumed, same⟩
          cases same
          exact .inr (.inl ⟨before, gross, rest, batch, classified, consumed, rfl⟩)
      | funding origin amount =>
          cases attributed
          exact .inr (.inr (.inl ⟨before, origin, amount, classified, rfl, rfl⟩))
      | other =>
          cases attributed
          exact .inr (.inr (.inr ⟨before, classified, rfl, rfl⟩))

/-- The group of credits paid for the batch's commitment. -/
structure Settled (scope : AttributionScope) (cutoff : Nat)
    (entries : List IndexTransactionWithId) (batch : ContributionBatch)
    (group : List FundingCredit) : Prop where
  commitment : ∃ entry ∈ entries, entry.id = batch.commitmentTxId ∧
    entry.transaction.timestampNanos = some batch.timestampNanos ∧
    ∃ amount fee, entry.transaction.operation =
        .transfer scope.faucetAccountIdentifier fee scope.relayAccountIdentifier amount none ∧
      creditTotal group = amount + fee
  before : batch.timestampNanos < cutoff
  earlier : ∀ credit ∈ group, credit.txId < batch.commitmentTxId
  attributes : Attributes batch group

theorem Settled.cons {entries : List IndexTransactionWithId} (entry : IndexTransactionWithId)
    (settled : Settled scope cutoff entries batch group) :
    Settled scope cutoff (entry :: entries) batch group := by
  rcases settled with ⟨⟨known, member, rest⟩, before, earlier, attributes⟩
  exact ⟨⟨known, List.mem_cons_of_mem entry member, rest⟩, before, earlier, attributes⟩

/-- The queue before and the new credits are the groups that were paid, and the queue after. -/
theorem attributeEntries_spec {attribution final : Attribution}
    {entries : List IndexTransactionWithId}
    (ascending : entries.Pairwise fun older newer => older.id < newer.id)
    (queued : ∀ credit ∈ attribution.funding, ∀ entry ∈ entries, credit.txId < entry.id)
    (attributed : attributeEntries scope cutoff attribution usage entries = .ok (final, left)) :
    ∃ batches groups, final.batches = attribution.batches ++ batches ∧
      List.Forall₂ (Settled scope cutoff entries) batches groups ∧
      attribution.funding ++ entries.filterMap (creditOf scope cutoff) =
        groups.flatten ++ final.funding ∧
      batches.map ContributionBatch.commitmentTxId =
        (entries.filter (isCommitment scope cutoff)).map IndexTransactionWithId.id := by
  induction entries generalizing attribution usage with
  | nil =>
      cases attributed
      exact ⟨[], [], (List.append_nil _).symm, List.Forall₂.nil, by simp, rfl⟩
  | cons entry entries ih =>
      rcases List.pairwise_cons.mp ascending with ⟨above, ascending⟩
      rcases bind_eq_ok.mp attributed with ⟨⟨next, spent⟩, here, continued⟩
      have waiting : ∀ credit ∈ attribution.funding, ∀ later ∈ entries,
          credit.txId < later.id := fun credit queuedHere later member =>
        queued credit queuedHere later (List.mem_cons_of_mem entry member)
      rcases attributeEntry_cases here with
        ⟨_, timestamp, _, known, ⟨late, rfl, rfl⟩ |
          ⟨before, gross, rest, batch, classified, consumed, rfl⟩ |
          ⟨before, origin, amount, classified, rfl, rfl⟩ | ⟨before, classified, rfl, rfl⟩⟩
      · have skipped : isBefore cutoff entry = false := by
          simp only [isBefore, known, Option.any_some, decide_eq_false_iff_not]
          omega
        rcases ih ascending waiting continued with ⟨batches, groups, all, settled, queue, ids⟩
        refine ⟨batches, groups, all, settled.imp fun _ _ => Settled.cons entry, ?_, ?_⟩
        · have no_credit : creditOf scope cutoff entry = none := by
            simp only [creditOf, skipped]
            split <;> rfl
          rw [List.filterMap_cons_none no_credit]
          exact queue
        · have no_commitment : isCommitment scope cutoff entry = false := by
            simp only [isCommitment, skipped]
            split <;> rfl
          rw [List.filter_cons_of_neg (by simp [no_commitment])]
          exact ids
      · have counted : isBefore cutoff entry = true := by
          simp only [isBefore, known, Option.any_some, decide_eq_true before]
        rcases consumeFunding_spec attributes_empty consumed with
          ⟨group, split, total, attributes, sameId, sameTime⟩
        rcases ih ascending (fun credit member => waiting credit
          (split ▸ List.mem_append_right group member)) continued with
          ⟨batches, groups, all, settled, queue, ids⟩
        rcases classify_commitment classified with ⟨amount, fee, operation, sum, _⟩
        refine ⟨batch :: batches, group :: groups, ?_, ?_, ?_, ?_⟩
        · rw [all, List.append_assoc, List.singleton_append]
        · refine List.Forall₂.cons ⟨⟨entry, List.mem_cons_self, sameId.symm, ?_, amount, fee,
            operation, by rw [total, sum]⟩, ?_, ?_, attributes⟩
            (settled.imp fun _ _ => Settled.cons entry)
          · rw [known, sameTime]
          · rw [sameTime]
            exact before
          · intro credit member
            rw [sameId]
            exact queued credit (split ▸ List.mem_append_left rest member) entry
              List.mem_cons_self
        · have no_credit : creditOf scope cutoff entry = none := by
            simp only [creditOf, classified]
          rw [List.filterMap_cons_none no_credit, split, List.append_assoc, queue,
            List.flatten_cons, List.append_assoc]
        · have commitment : isCommitment scope cutoff entry = true := by
            simp only [isCommitment, classified, counted]
          rw [List.filter_cons_of_pos commitment, List.map_cons, List.map_cons, ids, sameId]
      · have counted : isBefore cutoff entry = true := by
          simp only [isBefore, known, Option.any_some, decide_eq_true before]
        have queuedNext : ∀ credit ∈ attribution.funding ++ [⟨entry.id, origin, amount⟩],
            ∀ later ∈ entries, credit.txId < later.id := by
          intro credit member later laterIn
          rcases List.mem_append.mp member with old | new
          · exact waiting credit old later laterIn
          · rw [List.mem_singleton.mp new]
            exact above later laterIn
        rcases ih ascending queuedNext continued with ⟨batches, groups, all, settled, queue, ids⟩
        refine ⟨batches, groups, all, settled.imp fun _ _ => Settled.cons entry, ?_, ?_⟩
        · have credit : creditOf scope cutoff entry = some ⟨entry.id, origin, amount⟩ := by
            simp only [creditOf, classified, counted, if_true]
          rw [List.filterMap_cons_some credit, ← List.singleton_append, ← List.append_assoc]
          exact queue
        · have no_commitment : isCommitment scope cutoff entry = false := by
            simp only [isCommitment, classified]
          rw [List.filter_cons_of_neg (by simp [no_commitment])]
          exact ids
      · rcases ih ascending waiting continued with ⟨batches, groups, all, settled, queue, ids⟩
        refine ⟨batches, groups, all, settled.imp fun _ _ => Settled.cons entry, ?_, ?_⟩
        · have no_credit : creditOf scope cutoff entry = none := by
            simp only [creditOf, classified]
          rw [List.filterMap_cons_none no_credit]
          exact queue
        · have no_commitment : isCommitment scope cutoff entry = false := by
            simp only [isCommitment, classified]
          rw [List.filter_cons_of_neg (by simp [no_commitment])]
          exact ids

end Entries

end JupiterSuite.Relay
