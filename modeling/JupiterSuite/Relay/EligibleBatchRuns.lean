import JupiterSuite.Relay.EligibleBatchSelection

/-! The loop of the search: as long as it runs, every commitment that it examined was rejected. -/

namespace JupiterSuite.Relay

open Base

variable {world : RewardWorld} {scope : SearchScope} {clients : RewardClients}
  {usage left : Usage} {st next : BatchSearchState} {batches : List ContributionBatch}
  {cutoff firstCutoff lastCutoff : Nat}

section Reads

theorem batchesOf_read {history : BackwardHistory}
    (read : ReadFrom world scope.attribution.relayAccountIdentifier history)
    (complete : reconstructBatchesBounded scope.attribution history.authoritativeTransactions
      history.authoritative cutoff usage = .complete (batches, left)) :
    BatchesOf scope.attribution (world.ledger scope.attribution.relayAccountIdentifier) cutoff
      history.authoritativeTransactions.reverse batches := by
  rcases reconstruct_eq_complete complete with ⟨whole, _, attribution, _, attributed, same⟩
  rcases read.boundary whole with ⟨older, split, zero⟩
  have truthful := world.truthful scope.attribution.relayAccountIdentifier
  rw [split] at truthful
  have sorted := chronological_of_perm truthful.ending.ascending
    (List.reverse_perm history.authoritativeTransactions).symm
  rw [sorted] at attributed
  exact ⟨⟨older, split, zero⟩, _, _, attribution, attributed, same⟩

/-- What holds whenever a round begins. -/
structure SearchInvariant (world : RewardWorld) (scope : SearchScope) (st : BatchSearchState) :
    Prop where
  read : ReadFrom world scope.attribution.relayAccountIdentifier st.history
  cache : st.splitterCache.ReadsFrom world scope.view scope.relay
  best : st.best = none
  examined : ∀ id ∈ st.examinedCommitments, Rejected world scope id
  orphans : st.orphanSearch = true → st.history.exhausted = true

theorem SearchInvariant.openHistory (answers : world.Answers scope.snapshotId clients)
    (invariant : SearchInvariant world scope st)
    (opened : st.openHistory clients usage = .ok (next, left)) :
    SearchInvariant world scope next ∧ next.orphanSearch = st.orphanSearch := by
  simp only [BatchSearchState.openHistory] at opened
  split at opened
  · rename_i unread
    rcases bind_eq_ok.mp opened with ⟨⟨history, _⟩, extended, same⟩
    cases same
    refine ⟨⟨invariant.read.request answers extended, invariant.cache, invariant.best,
      invariant.examined, ?_⟩, rfl⟩
    intro orphans
    rw [invariant.orphans orphans, Bool.not_true, Bool.and_false] at unread
    cases unread
  · cases opened
    exact ⟨invariant, rfl⟩

theorem SearchInvariant.readOlder (answers : world.Answers scope.snapshotId clients)
    (invariant : SearchInvariant world scope st) (unread : st.history.exhausted = false)
    (extended : st.readOlder clients usage = .ok (next, left)) :
    SearchInvariant world scope next := by
  simp only [BatchSearchState.readOlder] at extended
  rcases bind_eq_ok.mp extended with ⟨⟨history, _⟩, page, extended⟩
  rcases bind_eq_ok.mp extended with ⟨_, _, same⟩
  cases same
  refine ⟨invariant.read.request answers page, invariant.cache, invariant.best,
    invariant.examined, ?_⟩
  intro orphans
  rw [invariant.orphans orphans] at unread
  cases unread

theorem SearchInvariant.ready (invariant : SearchInvariant world scope st)
    (of : BatchesOf scope.attribution (world.ledger scope.attribution.relayAccountIdentifier)
      cutoff st.history.authoritativeTransactions.reverse batches) :
    PassReady world scope firstCutoff st batches.reverse := by
  refine ⟨invariant.cache, ?_, ?_, fun batch _ => invariant.examined batch.commitmentTxId, ?_⟩
  · intro batch member
    exact ⟨cutoff, _, batches, of, List.mem_reverse.mp member⟩
  · have truthful := world.truthful scope.attribution.relayAccountIdentifier
    exact List.pairwise_reverse.mpr
      (List.pairwise_map.mp (of.attributed.ids_nodup (of.truthful truthful).ascending))
  · intro best known
    rw [invariant.best] at known
    cases known

/-- A pass over batches before the first cutoff that returns nothing rejects all of them. -/
theorem rejects_all (begins : scope.cutoffs.head? = some firstCutoff)
    (invariant : SearchInvariant world scope st)
    (early : ∀ batch ∈ batches, batch.timestampNanos < firstCutoff)
    (turned : Turned world scope firstCutoff st next batches) :
    next.best = none ∧ ∀ id ∈ next.examinedCommitments, Rejected world scope id := by
  have unbeaten : next.best = none := by
    cases known : next.best with
    | none => rfl
    | some best =>
        rcases turned.best best known with old | ⟨batch, member, place, _, apart, _⟩
        · rw [invariant.best] at old
          cases old
        · cases (nextCutoff_of_lt begins (early batch member)).symm.trans place
          exact absurd rfl apart
  refine ⟨unbeaten, ?_⟩
  intro id examined
  rcases turned.examined id examined with old | ⟨batch, member, rfl⟩
  · exact invariant.examined id old
  · rcases turned.settled batch member with rejected | late | ⟨_, _, known, _⟩
    · exact rejected
    · cases (nextCutoff_of_lt begins (early batch member)).symm.trans late
    · rw [unbeaten] at known
      cases known

end Reads

section Answers

variable {newer : List IndexTransactionWithId} {batch : ContributionBatch}
  {classified : ClassifiedSources}

theorem EligibleIn.twin
    (of : BatchesOf scope.attribution (world.ledger scope.attribution.relayAccountIdentifier)
      cutoff newer batches) (eligible : EligibleIn world scope batch classified)
    (early : batch.timestampNanos < cutoff)
    (present : ∃ entry ∈ newer, entry.id = batch.commitmentTxId) :
    ∃ twin ∈ batches, twin.commitmentTxId = batch.commitmentTxId ∧
      twin.timestampNanos = batch.timestampNanos := by
  rcases eligible.1 with ⟨other, suffix, others, ofToo, member⟩
  rcases ofToo.agree (world.truthful _) of member early present with ⟨twin, twinIn, same⟩
  exact ⟨twin, twinIn, same.commitment.symm, same.timestamp.symm⟩

theorem EligibleIn.listed (eligible : EligibleIn world scope batch classified) :
    ∃ entry ∈ world.ledger scope.attribution.relayAccountIdentifier,
      entry.id = batch.commitmentTxId := by
  rcases eligible.1 with ⟨other, suffix, others, of, member⟩
  rcases (of.attributed.committed batch member).listed with ⟨entry, listed, same, _⟩
  exact ⟨entry, of.mem_ledger entry listed, same⟩

theorem first_of_least {answer : Option EligibleBatch}
    (increasing : scope.cutoffs.Pairwise (· < ·))
    (candidate : ∀ found, answer = some found → Candidate world scope found)
    (least : ∀ batch classified cutoff, EligibleIn world scope batch classified →
      nextCutoff scope.cutoffs batch.timestampNanos = some cutoff →
        ∃ found, answer = some found ∧ found.Beats cutoff batch.commitmentTxId)
    (batch : ContributionBatch) (classified : ClassifiedSources) (firstCutoff : Nat)
    (begins : scope.cutoffs.head? = some firstCutoff)
    (eligible : EligibleIn world scope batch classified)
    (early : batch.timestampNanos < firstCutoff) :
    ∃ found, answer = some found ∧ found.cutoff = firstCutoff ∧
      batch.commitmentTxId ≤ found.commitmentTxId := by
  rcases least batch classified firstCutoff eligible (nextCutoff_of_lt begins early) with
    ⟨found, same, beats⟩
  rcases candidate found same with ⟨_, _, _, place, _⟩
  have above := head_le increasing begins (nextCutoff_mem place).1
  rcases beats with less | ⟨equal, newest⟩
  · omega
  · exact ⟨found, same, equal, newest⟩

theorem selected_of_returned {candidate : EligibleBatch}
    (increasing : scope.cutoffs.Pairwise (· < ·)) (begins : scope.cutoffs.head? = some firstCutoff)
    (bound : firstCutoff ≤ cutoff)
    (of : BatchesOf scope.attribution (world.ledger scope.attribution.relayAccountIdentifier)
      cutoff newer batches)
    (returned : Returned world scope firstCutoff batches.reverse candidate) :
    BatchSelected world scope (some candidate) next := by
  have sound : ∀ found, some candidate = some found → Candidate world scope found := by
    intro found same
    cases same
    exact returned.eligible
  have least : ∀ batch classified cutoff, EligibleIn world scope batch classified →
      nextCutoff scope.cutoffs batch.timestampNanos = some cutoff →
        ∃ found, some candidate = some found ∧ found.Beats cutoff batch.commitmentTxId := by
    intro batch classified other eligible place
    refine ⟨candidate, rfl, ?_⟩
    rcases nextCutoff_mem place with ⟨listed, early⟩
    rcases Nat.lt_or_eq_of_le (head_le increasing begins listed) with later | same
    · exact .inl (by rw [returned.first]; exact later)
    · subst same
      refine .inr ⟨returned.first, ?_⟩
      by_contra newer_batch
      rw [Nat.not_le] at newer_batch
      have present : ∃ entry ∈ newer, entry.id = batch.commitmentTxId := by
        rcases eligible.listed with ⟨entry, known, id⟩
        rcases returned.listed with ⟨lesser, lesserIn, lesserId⟩
        rcases (of.attributed.committed lesser (List.mem_reverse.mp lesserIn)).listed with
          ⟨there, thereIn, thereId, _⟩
        rcases of.older with ⟨older, split, _⟩
        have ascending := (world.truthful scope.attribution.relayAccountIdentifier).ascending
        rw [split] at known ascending
        rcases List.mem_append.mp known with old | recent
        · have below := (List.pairwise_append.mp ascending).2.2 entry old there thereIn
          omega
        · exact ⟨entry, recent, id⟩
      rcases eligible.twin of (by omega) present with ⟨twin, twinIn, id, time⟩
      have rejected := returned.newest twin (List.mem_reverse.mpr twinIn) (by omega)
        (by rw [time]; exact place)
      rw [id] at rejected
      exact rejected.not_eligible eligible
  refine ⟨sound, first_of_least increasing sound least, least, ?_⟩
  intro later
  exact absurd (begins.trans (congrArg some returned.first.symm)) (later candidate rfl)

theorem selected_of_whole (increasing : scope.cutoffs.Pairwise (· < ·))
    (ends : scope.cutoffs.getLast? = some lastCutoff) (bound : lastCutoff ≤ cutoff)
    (read : ReadFrom world scope.attribution.relayAccountIdentifier next.history)
    (exhausted : next.history.exhausted = true) (invariant : SearchInvariant world scope st)
    (of : BatchesOf scope.attribution (world.ledger scope.attribution.relayAccountIdentifier)
      cutoff next.history.authoritativeTransactions.reverse batches)
    (turned : Turned world scope firstCutoff st next batches.reverse) :
    BatchSelected world scope next.best next := by
  have sound : ∀ found, next.best = some found → Candidate world scope found := by
    intro found known
    rcases turned.best found known with old | ⟨_, _, _, candidate, _⟩
    · rw [invariant.best] at old
      cases old
    · exact candidate
  have least : ∀ batch classified cutoff, EligibleIn world scope batch classified →
      nextCutoff scope.cutoffs batch.timestampNanos = some cutoff →
        ∃ found, next.best = some found ∧ found.Beats cutoff batch.commitmentTxId := by
    intro batch classified other eligible place
    rcases nextCutoff_mem place with ⟨listed, early⟩
    have below := le_last increasing ends listed
    rw [read.exhausted_whole exhausted] at of
    rcases eligible.twin of (by omega) eligible.listed with ⟨twin, twinIn, id, time⟩
    rcases turned.settled twin (List.mem_reverse.mpr twinIn) with
      rejected | late | ⟨best, placed, known, there, beats⟩
    · rw [id] at rejected
      exact absurd eligible rejected.not_eligible
    · rw [time, place] at late
      cases late
    · rw [time, place] at there
      cases there
      rw [id] at beats
      exact ⟨best, known, beats⟩
  refine ⟨sound, ?_, least, fun _ => ⟨exhausted, read.whole exhausted⟩⟩
  exact first_of_least increasing sound least

theorem search_selects {rounds : Nat} {answer : Option EligibleBatch}
    (answers : world.Answers scope.snapshotId clients)
    (increasing : scope.cutoffs.Pairwise (· < ·)) (begins : scope.cutoffs.head? = some firstCutoff)
    (ends : scope.cutoffs.getLast? = some lastCutoff)
    (invariant : SearchInvariant world scope st)
    (found : BatchSearchState.search clients scope firstCutoff lastCutoff rounds st usage =
      .ok ((answer, next), left)) : BatchSelected world scope answer next := by
  induction rounds generalizing st usage with
  | zero => cases found
  | succ rounds ih =>
      simp only [BatchSearchState.search] at found
      rcases bind_eq_ok.mp found with ⟨_, _, found⟩
      rcases bind_eq_ok.mp found with ⟨⟨opened, spent⟩, reading, found⟩
      rcases invariant.openHistory answers reading with ⟨held, _⟩
      have ordered : firstCutoff ≤ lastCutoff :=
        head_le increasing begins (List.mem_of_getLast? ends)
      generalize reconstructed : reconstructBatchesBounded scope.attribution
        opened.history.authoritativeTransactions opened.history.authoritative
        (if opened.orphanSearch = true then lastCutoff else firstCutoff) spent = outcome at found
      cases outcome with
      | malformed error => cases found
      | needOlderHistory =>
          dsimp only at found
          split at found
          · cases found
          · rename_i unread
            rcases bind_eq_ok.mp found with ⟨_, _, found⟩
            rcases bind_eq_ok.mp found with ⟨⟨more, _⟩, extended, found⟩
            exact ih (held.readOlder answers (by simpa using unread) extended) found
      | complete value =>
          rcases value with ⟨batches, charged⟩
          have of := batchesOf_read held.read reconstructed
          have bound : firstCutoff ≤
              if opened.orphanSearch = true then lastCutoff else firstCutoff := by
            split <;> omega
          rcases bind_eq_ok.mp found with ⟨⟨⟨passed, early⟩, _⟩, examined, found⟩
          rcases examineAll_spec answers increasing begins (held.ready of) examined with
            ⟨continues, nothing, returned⟩
          cases early with
          | some candidate =>
              cases found
              exact selected_of_returned increasing begins bound of (returned candidate rfl)
          | none =>
              have turned := nothing rfl
              have read : ReadFrom world scope.attribution.relayAccountIdentifier
                  passed.history := continues.history ▸ held.read
              have phase : opened.orphanSearch = false →
                  passed.best = none ∧
                    ∀ id ∈ passed.examinedCommitments, Rejected world scope id := by
                intro first
                apply rejects_all begins held _ turned
                intro batch member
                have before := (of.attributed.committed batch (List.mem_reverse.mp member)).before
                rw [if_neg (by simp [first])] at before
                exact before
              dsimp only at found
              split at found
              · rename_i exhausted
                split at found
                · rename_i again
                  simp only [Bool.and_eq_true, Bool.not_eq_true', decide_eq_true_eq] at again
                  rcases phase (continues.orphanSearch.symm.trans again.1) with ⟨best, rejected⟩
                  have restarted : SearchInvariant world scope { passed with
                      orphanSearch := true } :=
                    ⟨read, continues.cache, best, rejected, fun _ => exhausted⟩
                  exact ih restarted found
                · rename_i last
                  cases found
                  rw [← continues.history] at of
                  refine selected_of_whole increasing ends ?_ read exhausted held of turned
                  rw [Bool.and_eq_true, Bool.not_eq_true', decide_eq_true_eq, not_and,
                    continues.orphanSearch] at last
                  split
                  · exact Nat.le_refl _
                  · rename_i first
                    have equal := last (by simpa using first)
                    omega
              · rename_i unread
                rcases bind_eq_ok.mp found with ⟨⟨more, _⟩, extended, found⟩
                have first : opened.orphanSearch = false := by
                  rw [← Bool.not_eq_true]
                  intro orphans
                  apply unread
                  rw [continues.history]
                  exact held.orphans orphans
                rcases phase first with ⟨best, rejected⟩
                have going : SearchInvariant world scope passed := by
                  refine ⟨read, continues.cache, best, rejected, ?_⟩
                  intro orphans
                  rw [continues.orphanSearch, first] at orphans
                  cases orphans
                exact ih (going.readOlder answers (by simpa using unread) extended) found

end Answers

end JupiterSuite.Relay
