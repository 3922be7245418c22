import JupiterSuite.Faucet.RoundShares

/-! What the faucet learns for its cache: every record with a cached id may be skipped, and no later
record can get one. -/

namespace JupiterSuite.Faucet

open Base Memo

section Evidence

variable (skips : IndexTx → Prop) (history : List IndexTx)

/-- The records of the id may be skipped, and new records lie above it. -/
structure Barren (id : Nat) : Prop where
  skipped : ∀ tx ∈ history, tx.id = id → skips tx
  known : ∃ tx ∈ history, id ≤ tx.id

structure BarrenRange (range : SkipRange) : Prop where
  inWord : range.InWord
  barren : ∀ id ∈ range.ids, Barren skips history id

structure CacheSound (ranges : List SkipRange) : Prop where
  map : SkipMapSound ranges
  barren : ∀ id ∈ coveredIds ranges, Barren skips history id

/-- The candidate is the span of skipped records at the end of what was read. -/
def Learns (candidate : LocalSkipCandidate) (read : List IndexTx) : Prop :=
  ∃ before span, read = before ++ span ∧
    (∀ tx ∈ span, skips tx) ∧
    candidate.startTxId = span.head?.map IndexTx.id ∧
    candidate.endTxId = span.getLast?.map IndexTx.id ∧ (candidate.txCount = 0 ↔ span = [])

end Evidence

section Cache

variable {skips : IndexTx → Prop} {history : List IndexTx} {ranges : List SkipRange}
  {range : SkipRange} {tx : IndexTx} {limits : ScanLimits} {st : FaucetState} {id : Nat}

theorem CacheSound.none : CacheSound skips history [] :=
  ⟨.nil, fun id covered => by simp [coveredIds] at covered⟩

theorem Barren.arrive (barren : Barren skips history id)
    (newest : isNewest history tx = true) : Barren skips (tx :: history) id := by
  rcases barren with ⟨skipped, other, member, above⟩
  refine ⟨?_, other, List.mem_cons_of_mem tx member, above⟩
  intro found present same
  rcases List.mem_cons.mp present with rfl | old
  · have order := of_decide_eq_true (List.all_eq_true.mp newest other member)
    omega
  · exact skipped found old same

theorem CacheSound.arrive (cache : CacheSound skips history ranges)
    (newest : isNewest history tx = true) : CacheSound skips (tx :: history) ranges :=
  ⟨cache.map, fun id covered => (cache.barren id covered).arrive newest⟩

theorem CacheSound.insert {result : List SkipRange} (cache : CacheSound skips history ranges)
    (learned : BarrenRange skips history range)
    (inserted : insertSkipRange ranges range = .ok result) :
    CacheSound skips history result := by
  have effect := insertSkipRange_inserted cache.map learned.inWord inserted
  refine ⟨effect.sound, ?_⟩
  intro id covered
  rcases effect.covers with grown | ⟨rfl, _⟩
  · rw [grown] at covered
    exact covered.elim (cache.barren id) (learned.barren id)
  · exact cache.barren id covered

theorem CacheSound.learn {learned : List SkipRange}
    (cache : CacheSound skips history st.skipRanges)
    (barren : ∀ range ∈ learned, BarrenRange skips history range) :
    CacheSound skips history (st.learn limits learned).1.skipRanges := by
  rw [FaucetState.learn]
  split
  · show CacheSound skips history (persistNewSkipRanges st.skipRanges learned).1
    generalize st.skipRanges = ranges at cache
    induction learned generalizing ranges with
    | nil => exact cache
    | cons range rest ih =>
        rw [persistNewSkipRanges]
        split
        · exact cache
        · rename_i inserted
          exact ih (fun other member => barren other (List.mem_cons_of_mem range member)) _
            (cache.insert (barren range List.mem_cons_self) inserted)
  · exact cache

theorem CacheSound.found (cache : CacheSound skips history st.skipRanges)
    (found : st.skipRangeContaining limits id = .ok (some range)) :
    range.startTxId ≤ id ∧ id ≤ range.endTxId ∧
      ∀ other ∈ range.ids, Barren skips history other := by
  rw [FaucetState.skipRangeContaining] at found
  split at found
  · rcases (skipRangeContaining_some cache.map.separated).mp found with ⟨member, low, high⟩
    exact ⟨low, high, fun other inside => cache.barren other ⟨range, member, inside⟩⟩
  · cases found

theorem CacheSound.answers (cache : CacheSound skips history st.skipRanges) (id : Nat) :
    ∃ found, st.skipRangeContaining limits id = .ok found := by
  rw [FaucetState.skipRangeContaining]
  split
  · exact skipRangeContaining_ok cache.map.separated id
  · exact ⟨_, rfl⟩

end Cache

section Candidates

variable {skips : IndexTx → Prop} {read rest : List IndexTx} {candidate : LocalSkipCandidate}
  {tx : IndexTx}

theorem learns_empty (read : List IndexTx) : Learns skips .empty read :=
  ⟨read, [], by simp, by simp, rfl, rfl, by simp [LocalSkipCandidate.empty]⟩

theorem Learns.arrive (learns : Learns skips candidate read) (tx : IndexTx) :
    Learns skips candidate (tx :: read) := by
  rcases learns with ⟨before, span, rfl, described⟩
  exact ⟨tx :: before, span, rfl, described⟩

theorem Learns.note (learns : Learns skips candidate read) (skipped : skips tx) :
    Learns skips (candidate.noteSkippable tx.id) (read ++ [tx]) := by
  rcases learns with ⟨before, span, rfl, barren, start, last, counted⟩
  refine ⟨before, span ++ [tx], by simp, ?_, ?_⟩
  · intro other member
    rcases List.mem_append.mp member with old | new
    · exact barren other old
    · rwa [List.mem_singleton.mp new]
  · rw [LocalSkipCandidate.noteSkippable]
    by_cases fresh : candidate.txCount = 0
    · simp [fresh, counted.mp fresh]
    · have present : span ≠ [] := mt counted.mpr fresh
      have more : satAdd u64Max candidate.txCount 1 ≠ 0 := by
        have positive := Nat.pos_of_ne_zero fresh
        simp only [satAdd, u64Max]
        omega
      rw [if_neg fresh]
      refine ⟨?_, by simp, by simp [more]⟩
      rw [start, List.head?_append_of_ne_nil _ present]

/-- A finished span holds every record between its ends. -/
theorem Learns.finished {limit : Nat} {range : SkipRange}
    (learns : Learns skips candidate read) (descending : Descending (read ++ rest))
    (inWord : ∀ tx ∈ read, tx.id ≤ u64Max) (finished : candidate.finishSpan limit = some range) :
    BarrenRange skips (read ++ rest) range := by
  rcases learns with ⟨before, span, rfl, barren, start, last, _⟩
  rw [LocalSkipCandidate.finishSpan] at finished
  split at finished
  · split at finished
    · rename_i low high lowest highest
      cases finished
      rw [lowest] at last
      rw [highest] at start
      rcases Option.map_eq_some_iff.mp last.symm with ⟨bottom, ends, rfl⟩
      rcases Option.map_eq_some_iff.mp start.symm with ⟨top, begins, rfl⟩
      have inBottom := List.mem_of_getLast? ends
      have inTop := List.mem_of_head? begins
      refine ⟨⟨inWord _ (by simp [inBottom]), inWord _ (by simp [inTop])⟩, ?_⟩
      rintro id ⟨above, below⟩
      refine ⟨?_, top, by simp [inTop], below⟩
      rintro tx member rfl
      have low : bottom.id ≤ tx.id := above
      have high : tx.id ≤ top.id := below
      have parts := List.pairwise_append.mp descending
      have inner := List.pairwise_append.mp parts.1
      rcases List.mem_append.mp member with here | older
      · rcases List.mem_append.mp here with newer | inside
        · have order := inner.2.2 tx newer top inTop
          omega
        · exact barren tx inside
      · have order := parts.2.2 bottom (by simp [inBottom]) tx older
        omega
    · cases finished
  · cases finished

end Candidates
end JupiterSuite.Faucet
