import JupiterSuite.Relay.RewardBatchesSuffix
import Mathlib.Data.List.TakeWhile

/-! The batches of an account are facts of its ledger: neither the budget nor the cutoff nor the
balance of zero that the replay begins with has a say in which sources a commitment was paid from. -/

namespace JupiterSuite.Relay

open Base

variable {scope : AttributionScope} {cutoff lesser : Nat} {usage left spent rest : Usage}
variable {attribution next : Attribution}

section Budgets

theorem consumeFunding_unique {remaining : Nat} {funding : List FundingCredit}
    {batch : ContributionBatch} {result other : List FundingCredit × ContributionBatch}
    (one : consumeFunding usage remaining funding batch = .ok (result, left))
    (two : consumeFunding spent remaining funding batch = .ok (other, rest)) : result = other := by
  induction funding generalizing usage spent remaining batch with
  | nil =>
      cases remaining with
      | zero =>
          cases one
          cases two
          rfl
      | succ remaining =>
          simp only [consumeFunding] at one
          rcases bind_eq_ok.mp one with ⟨_, _, impossible⟩
          cases impossible
  | cons credit funding ih =>
      cases remaining with
      | zero =>
          cases one
          cases two
          rfl
      | succ remaining =>
          simp only [consumeFunding] at one two
          rcases bind_eq_ok.mp one with ⟨_, _, one⟩
          rcases bind_eq_ok.mp two with ⟨_, _, two⟩
          split at one
          · cases one
          · rename_i covered
            rw [if_neg covered] at two
            rcases bind_eq_ok.mp one with ⟨next, taken, one⟩
            rcases bind_eq_ok.mp two with ⟨_, takenToo, two⟩
            cases taken.symm.trans takenToo
            exact ih one two

theorem attributeEntry_unique {other : Attribution} {entry : IndexTransactionWithId}
    (one : attributeEntry scope cutoff attribution usage entry = .ok (next, left))
    (two : attributeEntry scope cutoff attribution spent entry = .ok (other, rest)) :
    next = other := by
  simp only [attributeEntry] at one two
  rcases bind_eq_ok.mp one with ⟨_, _, one⟩
  rcases bind_eq_ok.mp two with ⟨_, _, two⟩
  split at one
  · cases one
  · rename_i timestamp known
    split at one
    · rename_i late
      rw [known] at two
      simp only [if_pos late] at two
      cases one
      cases two
      rfl
    · rename_i early
      rw [known] at two
      simp only [if_neg early] at two
      rcases bind_eq_ok.mp one with ⟨kind, classified, one⟩
      rcases bind_eq_ok.mp two with ⟨_, classifiedToo, two⟩
      cases classified.symm.trans classifiedToo
      cases kind with
      | commitment gross =>
          rcases bind_eq_ok.mp one with ⟨⟨⟨_, _⟩, _⟩, consumed, same⟩
          rcases bind_eq_ok.mp two with ⟨⟨⟨_, _⟩, _⟩, consumedToo, sameToo⟩
          cases consumeFunding_unique consumed consumedToo
          cases same
          cases sameToo
          rfl
      | funding origin amount =>
          cases one
          cases two
          rfl
      | other =>
          cases one
          cases two
          rfl

theorem attributeEntries_unique {other : Attribution} {entries : List IndexTransactionWithId}
    (one : attributeEntries scope cutoff attribution usage entries = .ok (next, left))
    (two : attributeEntries scope cutoff attribution spent entries = .ok (other, rest)) :
    next = other := by
  induction entries generalizing attribution usage spent with
  | nil =>
      cases one
      cases two
      rfl
  | cons entry entries ih =>
      rcases bind_eq_ok.mp one with ⟨⟨_, _⟩, here, one⟩
      rcases bind_eq_ok.mp two with ⟨⟨_, _⟩, hereToo, two⟩
      cases attributeEntry_unique here hereToo
      exact ih one two

end Budgets

section Cutoffs

theorem attributeEntry_congr {first second : Nat} {entry : IndexTransactionWithId}
    (same : isBefore first entry = isBefore second entry) :
    attributeEntry scope first attribution usage entry =
      attributeEntry scope second attribution usage entry := by
  unfold attributeEntry
  congr 1
  funext charged
  cases known : entry.transaction.timestampNanos with
  | none => rfl
  | some timestamp =>
      simp only [isBefore, known, Option.any_some, decide_eq_decide] at same
      by_cases late : first ≤ timestamp
      · have lateToo : second ≤ timestamp := by omega
        simp only [if_pos late, if_pos lateToo]
      · have early : ¬ second ≤ timestamp := by omega
        simp only [if_neg late, if_neg early]

theorem attributeEntries_congr {first second : Nat} {entries : List IndexTransactionWithId}
    (same : ∀ entry ∈ entries, isBefore first entry = isBefore second entry) :
    attributeEntries scope first attribution usage entries =
      attributeEntries scope second attribution usage entries := by
  induction entries generalizing attribution usage with
  | nil => rfl
  | cons entry entries ih =>
      rw [List.forall_mem_cons] at same
      rw [attributeEntries, attributeEntries, attributeEntry_congr same.1]
      congr 1
      funext result
      exact ih same.2

theorem attributeEntries_skipped {entries : List IndexTransactionWithId} (kept : Attribution)
    (late : ∀ entry ∈ entries, isBefore lesser entry = false) (within : spent.Within usage)
    (attributed : attributeEntries scope cutoff attribution usage entries = .ok (next, left)) :
    ∃ rest, attributeEntries scope lesser kept spent entries = .ok (kept, rest) := by
  induction entries generalizing attribution usage spent with
  | nil => exact ⟨spent, rfl⟩
  | cons entry entries ih =>
      rw [List.forall_mem_cons] at late
      rcases bind_eq_ok.mp attributed with ⟨⟨middle, charged⟩, here, continued⟩
      rcases attributeEntry_cases here with ⟨_, timestamp, work, known, outcome⟩
      rcases within.spendWork (Nat.le_refl 1) work with ⟨affordable, paid, less⟩
      have cheaper : affordable.Within charged := by
        rcases outcome with ⟨_, _, rfl⟩ | ⟨_, _, _, _, _, consumed, _⟩ | ⟨_, _, _, _, _, rfl⟩ |
          ⟨_, _, _, rfl⟩
        · exact less
        · exact less.trans (consumeFunding_within consumed)
        · exact less
        · exact less
      rcases ih late.2 cheaper continued with ⟨final, skipped⟩
      have after := late.1
      simp only [isBefore, known, Option.any_some, decide_eq_false_iff_not, Nat.not_lt] at after
      refine ⟨final, ?_⟩
      simp only [attributeEntries, attributeEntry, paid, ok_bind, known, if_pos after]
      exact skipped

/-- A batch is a commitment of the entries before the cutoff. -/
structure CommittedIn (cutoff : Nat) (entries : List IndexTransactionWithId)
    (batch : ContributionBatch) : Prop where
  listed : ∃ entry ∈ entries, entry.id = batch.commitmentTxId ∧
    entry.transaction.timestampNanos = some batch.timestampNanos
  before : batch.timestampNanos < cutoff

theorem CommittedIn.mono {entries more : List IndexTransactionWithId} {batch : ContributionBatch}
    (committed : CommittedIn cutoff entries batch) (subset : ∀ entry ∈ entries, entry ∈ more) :
    CommittedIn cutoff more batch := by
  rcases committed.listed with ⟨entry, member, same⟩
  exact ⟨⟨entry, subset entry member, same⟩, committed.before⟩

theorem attributeEntries_committed {entries : List IndexTransactionWithId}
    (attributed : attributeEntries scope cutoff attribution usage entries = .ok (next, left)) :
    ∃ added, next.batches = attribution.batches ++ added ∧
      ∀ batch ∈ added, CommittedIn cutoff entries batch := by
  induction entries generalizing attribution usage with
  | nil =>
      cases attributed
      exact ⟨[], (List.append_nil _).symm, nofun⟩
  | cons entry entries ih =>
      rcases bind_eq_ok.mp attributed with ⟨⟨middle, charged⟩, here, continued⟩
      rcases ih continued with ⟨added, all, committed⟩
      have later : ∀ batch ∈ added, CommittedIn cutoff (entry :: entries) batch :=
        fun batch member => (committed batch member).mono fun _ => List.mem_cons_of_mem entry
      rcases attributeEntry_cases here with ⟨_, timestamp, _, known, outcome⟩
      rcases outcome with ⟨_, rfl, _⟩ | ⟨before, _, _, batch, _, consumed, rfl⟩ |
        ⟨_, _, _, _, rfl, _⟩ | ⟨_, _, rfl, _⟩
      · exact ⟨added, all, later⟩
      · rcases consumeFunding_spec attributes_empty consumed with ⟨_, _, _, _, id, time⟩
        refine ⟨batch :: added, ?_, ?_⟩
        · rw [all, List.append_assoc, List.singleton_append]
        · rw [List.forall_mem_cons]
          refine ⟨⟨⟨entry, List.mem_cons_self, id.symm, ?_⟩, ?_⟩, later⟩
          · rw [known, time]
          · rw [time]
            exact before
      · exact ⟨added, all, later⟩
      · exact ⟨added, all, later⟩

end Cutoffs

section Attributed

/-- The batches of some transactions, oldest first, for a budget that affords them. -/
def Attributed (scope : AttributionScope) (cutoff : Nat) (entries : List IndexTransactionWithId)
    (batches : List ContributionBatch) : Prop :=
  ∃ usage left attribution,
    attributeEntries scope cutoff ⟨[], []⟩ usage entries = .ok (attribution, left) ∧
      attribution.batches = batches

variable {entries older newer : List IndexTransactionWithId}
  {batches others : List ContributionBatch}

theorem Attributed.unique (one : Attributed scope cutoff entries batches)
    (two : Attributed scope cutoff entries others) : batches = others := by
  rcases one with ⟨_, _, _, attributed, rfl⟩
  rcases two with ⟨_, _, _, attributedToo, rfl⟩
  rw [attributeEntries_unique attributed attributedToo]

theorem Attributed.committed (attributed : Attributed scope cutoff entries batches) :
    ∀ batch ∈ batches, CommittedIn cutoff entries batch := by
  rcases attributed with ⟨_, _, _, attributed, rfl⟩
  rcases attributeEntries_committed attributed with ⟨added, all, committed⟩
  rw [all]
  exact committed

theorem Attributed.ids_nodup (ascending : entries.Pairwise fun one two => one.id < two.id)
    (attributed : Attributed scope cutoff entries batches) :
    (batches.map ContributionBatch.commitmentTxId).Pairwise (· < ·) := by
  rcases attributed with ⟨_, _, _, attributed, rfl⟩
  rw [commitments_of_entries ascending attributed]
  exact List.pairwise_map.mpr (ascending.filter _)

theorem dropWhile_late (truthful : TruthfulHistory entries)
    (timestamps : ∀ entry ∈ entries, ∃ timestamp,
      entry.transaction.timestampNanos = some timestamp) :
    ∀ entry ∈ entries.dropWhile (isBefore lesser), isBefore lesser entry = false := by
  cases found : entries.dropWhile (isBefore lesser) with
  | nil =>
      intro entry impossible
      cases impossible
  | cons first others =>
      have late : isBefore lesser first = false := by
        have head := List.head?_dropWhile_not (isBefore lesser) entries
        rw [found] at head
        simpa using head
      have suffix : first :: others <:+ entries := found ▸ List.dropWhile_suffix _
      have ordered := truthful.ordered.sublist suffix.sublist
      intro entry member
      rcases List.mem_cons.mp member with rfl | later
      · exact late
      · rcases timestamps first (suffix.subset List.mem_cons_self) with ⟨begin, beginKnown⟩
        rcases timestamps entry (suffix.subset member) with ⟨time, timeKnown⟩
        have le := (List.pairwise_cons.mp ordered).1 entry later begin time beginKnown timeKnown
        simp only [isBefore, beginKnown, Option.any_some, decide_eq_false_iff_not] at late
        simp only [isBefore, timeKnown, Option.any_some, decide_eq_false_iff_not]
        omega

theorem Attributed.restrict (truthful : TruthfulHistory entries) (lower : lesser ≤ cutoff)
    (attributed : Attributed scope cutoff entries batches) :
    ∃ front back, batches = front ++ back ∧ Attributed scope lesser entries front ∧
      ∀ batch ∈ back, lesser ≤ batch.timestampNanos := by
  rcases attributed with ⟨usage, left, attribution, attributed, rfl⟩
  have timestamps := attributeEntries_timestamps attributed
  have late := @dropWhile_late lesser entries truthful timestamps
  have early : ∀ entry ∈ entries.takeWhile (isBefore lesser),
      isBefore lesser entry = isBefore cutoff entry := by
    intro entry member
    have before := List.mem_takeWhile_imp member
    rw [before]
    rcases timestamps entry (List.takeWhile_subset _ member) with ⟨timestamp, known⟩
    simp only [isBefore, known, Option.any_some, decide_eq_true_eq] at before
    simp only [isBefore, known, Option.any_some]
    exact (decide_eq_true (by omega)).symm
  have split : entries.takeWhile (isBefore lesser) ++ entries.dropWhile (isBefore lesser) =
      entries := List.takeWhile_append_dropWhile
  rw [← split, attributeEntries_append] at attributed
  rcases bind_eq_ok.mp attributed with ⟨⟨middle, spent⟩, begun, continued⟩
  rcases attributeEntries_committed continued with ⟨back, all, committed⟩
  rcases attributeEntries_skipped middle late (Usage.Within.refl spent) continued with
    ⟨final, skipped⟩
  refine ⟨middle.batches, back, all, ⟨usage, final, middle, ?_, rfl⟩, ?_⟩
  · rw [← split, attributeEntries_append, attributeEntries_congr early, begun]
    exact skipped
  · intro batch member
    rcases (committed batch member).listed with ⟨entry, listed, _, known⟩
    have after := late entry listed
    simp only [isBefore, known, Option.any_some, decide_eq_false_iff_not, Nat.not_lt] at after
    exact after

/-- A longer stretch of transactions has the batches of a shorter one that begins with a balance of
zero, and earlier ones. -/
theorem Attributed.suffix (truthful : TruthfulHistory (older ++ newer))
    (empty : replayBalance scope.relayAccountIdentifier 0 older = some 0)
    (one : Attributed scope cutoff (older ++ newer) batches)
    (two : Attributed scope cutoff newer others) :
    ∃ earlier later, batches = earlier ++ later ∧ List.Forall₂ SameAmounts later others ∧
      ∀ batch ∈ earlier, CommittedIn cutoff older batch := by
  rcases one with ⟨_, _, attribution, attributed, rfl⟩
  rcases attributeEntries_suffix truthful empty (Usage.Within.refl _) attributed with
    ⟨middle, _, suffix, _, later, begun, suffixed, _, all, same⟩
  cases Attributed.unique ⟨_, _, _, suffixed, rfl⟩ two
  rcases attributeEntries_committed begun with ⟨earlier, added, committed⟩
  rw [List.nil_append] at added
  exact ⟨middle.batches, later, all, same, added ▸ committed⟩

end Attributed

section Ledger

theorem SameAmounts.symm {batch other : ContributionBatch} (same : SameAmounts batch other) :
    SameAmounts other batch :=
  ⟨same.commitment.symm, same.timestamp.symm, fun source => (same.sources source).symm,
    same.splitters.symm, same.ineligible.symm⟩

/-- The batches of the account's newest transactions, from a balance of zero on. -/
structure BatchesOf (scope : AttributionScope) (ledger : List IndexTransactionWithId)
    (cutoff : Nat) (newer : List IndexTransactionWithId) (batches : List ContributionBatch) :
    Prop where
  older : ∃ older, ledger = older ++ newer ∧
    replayBalance scope.relayAccountIdentifier 0 older = some 0
  attributed : Attributed scope cutoff newer batches

def IsBatch (scope : AttributionScope) (ledger : List IndexTransactionWithId)
    (batch : ContributionBatch) : Prop :=
  ∃ cutoff newer batches, BatchesOf scope ledger cutoff newer batches ∧ batch ∈ batches

variable {ledger newer suffix : List IndexTransactionWithId} {other : Nat}
  {batches others : List ContributionBatch} {batch twin : ContributionBatch}

/-- Two ends of a ledger that begin with a balance of zero: one is the end of the other. -/
theorem zero_between {older longer : List IndexTransactionWithId} {account : String}
    (one : ledger = older ++ newer) (two : ledger = longer ++ suffix)
    (zero : replayBalance account 0 older = some 0) (zeroToo : replayBalance account 0 longer = some 0)
    (shorter : suffix.length ≤ newer.length) :
    ∃ middle, newer = middle ++ suffix ∧ replayBalance account 0 middle = some 0 := by
  rw [one] at two
  rcases List.append_eq_append_iff.mp two with ⟨middle, rfl, rfl⟩ | ⟨middle, rfl, rfl⟩
  · rw [replayBalance_append, zero] at zeroToo
    exact ⟨middle, rfl, zeroToo⟩
  · rw [List.length_append] at shorter
    have nothing : middle = [] := List.eq_nil_of_length_eq_zero (by omega)
    subst nothing
    exact ⟨[], rfl, rfl⟩

theorem TruthfulHistory.ending {older : List IndexTransactionWithId}
    (truthful : TruthfulHistory (older ++ newer)) : TruthfulHistory newer :=
  ⟨(List.pairwise_append.mp truthful.ascending).2.1,
    (List.pairwise_append.mp truthful.ordered).2.1⟩

theorem id_unique {one two : IndexTransactionWithId}
    (ascending : ledger.Pairwise fun older newer => older.id < newer.id) (first : one ∈ ledger)
    (second : two ∈ ledger) (same : one.id = two.id) : one = two := by
  have ids : (ledger.map IndexTransactionWithId.id).Nodup :=
    List.pairwise_map.mpr (ascending.imp Nat.ne_of_lt)
  exact List.inj_on_of_nodup_map ids first second same

theorem BatchesOf.truthful (of : BatchesOf scope ledger cutoff newer batches)
    (truthful : TruthfulHistory ledger) : TruthfulHistory newer := by
  rcases of.older with ⟨older, rfl, _⟩
  exact truthful.ending

theorem BatchesOf.mem_ledger (of : BatchesOf scope ledger cutoff newer batches) :
    ∀ entry ∈ newer, entry ∈ ledger := by
  rcases of.older with ⟨older, rfl, _⟩
  intro entry member
  exact List.mem_append_right older member

theorem BatchesOf.agree (truthful : TruthfulHistory ledger)
    (one : BatchesOf scope ledger cutoff newer batches)
    (two : BatchesOf scope ledger other suffix others) (member : batch ∈ batches)
    (early : batch.timestampNanos < other)
    (present : ∃ entry ∈ suffix, entry.id = batch.commitmentTxId) :
    ∃ twin ∈ others, SameAmounts batch twin := by
  have before := (one.attributed.committed batch member).before
  rcases one.attributed.restrict (one.truthful truthful) (Nat.min_le_left cutoff other) with
    ⟨front, back, rfl, fronts, late⟩
  rcases two.attributed.restrict (two.truthful truthful) (Nat.min_le_right cutoff other) with
    ⟨head, tail, rfl, heads, _⟩
  have inFront : batch ∈ front := by
    rcases List.mem_append.mp member with found | behind
    · exact found
    · have after := late batch behind
      omega
  have found : ∃ twin ∈ head, SameAmounts batch twin := by
    rcases one.older with ⟨older, split, zero⟩
    rcases two.older with ⟨longer, splitToo, zeroToo⟩
    rcases Nat.le_total suffix.length newer.length with shorter | longer_suffix
    · rcases zero_between split splitToo zero zeroToo shorter with ⟨middle, rfl, empty⟩
      have whole := one.truthful truthful
      rcases fronts.suffix whole empty heads with ⟨earlier, later, rfl, same, committed⟩
      rcases List.mem_append.mp inFront with old | recent
      · rcases (committed batch old).listed with ⟨entry, listed, id, _⟩
        rcases present with ⟨here, hereIn, sameId⟩
        have apart := (List.pairwise_append.mp whole.ascending).2.2 entry listed here hereIn
        omega
      · rcases List.getElem_of_mem recent with ⟨position, bound, rfl⟩
        rcases List.forall₂_iff_get.mp same with ⟨lengths, each⟩
        exact ⟨_, List.getElem_mem (lengths ▸ bound), each position bound (lengths ▸ bound)⟩
    · rcases zero_between splitToo split zeroToo zero longer_suffix with ⟨middle, rfl, empty⟩
      rcases heads.suffix (two.truthful truthful) empty fronts with
        ⟨earlier, later, rfl, same, _⟩
      rcases List.getElem_of_mem inFront with ⟨position, bound, rfl⟩
      rcases List.forall₂_iff_get.mp same with ⟨lengths, each⟩
      have within : position < later.length := lengths ▸ bound
      exact ⟨later[position], List.mem_append_right _ (List.getElem_mem within),
        (each position within bound).symm⟩
  rcases found with ⟨twin, twinIn, same⟩
  exact ⟨twin, List.mem_append_left _ twinIn, same⟩

theorem IsBatch.unique (truthful : TruthfulHistory ledger) (one : IsBatch scope ledger batch)
    (two : IsBatch scope ledger twin) (same : batch.commitmentTxId = twin.commitmentTxId) :
    SameAmounts batch twin := by
  rcases one with ⟨cutoff, newer, batches, of, member⟩
  rcases two with ⟨other, suffix, others, ofToo, memberToo⟩
  have committed := of.attributed.committed batch member
  have committedToo := ofToo.attributed.committed twin memberToo
  rcases committed.listed with ⟨entry, listed, id, time⟩
  rcases committedToo.listed with ⟨there, listedToo, idToo, timeToo⟩
  have equal : entry = there := by
    apply id_unique truthful.ascending (of.mem_ledger entry listed)
      (ofToo.mem_ledger there listedToo)
    rw [id, idToo, same]
  subst equal
  have times : batch.timestampNanos = twin.timestampNanos :=
    Option.some.inj (time.symm.trans timeToo)
  rcases of.agree truthful ofToo member (times ▸ committedToo.before) ⟨entry, listedToo, id⟩ with
    ⟨found, foundIn, agrees⟩
  have ids := ofToo.attributed.ids_nodup (ofToo.truthful truthful).ascending
  have nodup : (others.map ContributionBatch.commitmentTxId).Nodup := ids.imp Nat.ne_of_lt
  cases List.inj_on_of_nodup_map nodup foundIn memberToo (agrees.commitment.symm.trans same)
  exact agrees

end Ledger

end JupiterSuite.Relay
