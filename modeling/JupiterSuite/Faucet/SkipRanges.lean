import JupiterSuite.Base.Intervals
import JupiterSuite.Faucet.State

/-! The cache of the history spans without relevant transfers: a stable map from the low end
of a range to its high end, here the ranges in the order of their low ends. -/

namespace JupiterSuite.Faucet

open JupiterSuite.Base
open JupiterSuite.Base.Intervals

inductive SkipRangeInsertError where
  | invalidRange
  deriving DecidableEq, Repr

def lastUpTo (ranges : List SkipRange) (bound : Nat) : Option SkipRange :=
  (ranges.filter fun entry => decide (entry.startTxId ≤ bound)).getLast?

def entriesAfter (ranges : List SkipRange) (bound : Nat) : List SkipRange :=
  ranges.filter fun entry => decide (bound < entry.startTxId)

def removeStarts (ranges : List SkipRange) (starts : List Nat) : List SkipRange :=
  ranges.filter fun entry => decide (entry.startTxId ∉ starts)

def putRange (range : SkipRange) : List SkipRange → List SkipRange
  | [] => [range]
  | entry :: rest =>
      if range.startTxId < entry.startTxId then range :: entry :: rest
      else if range.startTxId = entry.startTxId then range :: rest
      else entry :: putRange range rest

def skipRangeContaining (ranges : List SkipRange) (id : Nat) :
    Except SkipRangeInsertError (Option SkipRange) :=
  match lastUpTo ranges id with
  | none => .ok none
  | some entry =>
      if entry.endTxId < entry.startTxId then .error .invalidRange
      else .ok (if id ≤ entry.endTxId then some entry else none)

/-- The following entries join the range while they overlap or touch it. It is given up when
a third entry would have to go. -/
def absorbFollowing : List SkipRange → SkipRange → List Nat →
    Except SkipRangeInsertError (Option (SkipRange × List Nat))
  | [], range, remove => .ok (some (range, remove))
  | entry :: rest, range, remove =>
      if entry.endTxId < entry.startTxId then .error .invalidRange
      else if satAdd u64Max range.endTxId 1 < entry.startTxId then .ok (some (range, remove))
      else if remove.length = 2 then .ok none
      else absorbFollowing rest { range with endTxId := max range.endTxId entry.endTxId }
        (remove ++ [entry.startTxId])

/-- Joins the following entries and writes the result, or leaves the map as it is. -/
def insertAfter (ranges : List SkipRange) (range : SkipRange) (remove : List Nat) :
    Except SkipRangeInsertError (List SkipRange) :=
  match absorbFollowing ((entriesAfter ranges range.startTxId).take 3) range remove with
  | .error error => .error error
  | .ok none => .ok ranges
  | .ok (some (merged, starts)) => .ok (putRange merged (removeStarts ranges starts))

def insertSkipRange (ranges : List SkipRange) (range : SkipRange) :
    Except SkipRangeInsertError (List SkipRange) :=
  if range.endTxId < range.startTxId then .error .invalidRange
  else match lastUpTo ranges range.startTxId with
    | none => insertAfter ranges range []
    | some entry =>
        if entry.endTxId < entry.startTxId then .error .invalidRange
        else if range.endTxId ≤ entry.endTxId then .ok ranges
        else if range.startTxId ≤ satAdd u64Max entry.endTxId 1 then
          insertAfter ranges
            ⟨entry.startTxId, max range.endTxId entry.endTxId⟩ [entry.startTxId]
        else insertAfter ranges range []

inductive SkipRangeEvent where
  | insert (range : SkipRange)
  | clear
  deriving DecidableEq, Repr

def SkipRange.InWord (range : SkipRange) : Prop :=
  range.startTxId ≤ u64Max ∧ range.endTxId ≤ u64Max

instance (range : SkipRange) : Decidable range.InWord :=
  inferInstanceAs (Decidable (_ ∧ _))

def skipRangeStep (ranges : List SkipRange) : SkipRangeEvent → Option (List SkipRange)
  | .clear => some []
  | .insert range =>
      if range.InWord then some ((insertSkipRange ranges range).toOption.getD ranges) else none

def skipRangeMachine : Machine (List SkipRange) SkipRangeEvent where
  init ranges := ranges = []
  step := skipRangeStep

/-! ## The neighbours -/

abbrev SkipSeparated (ranges : List SkipRange) : Prop :=
  Separated SkipRange.startTxId SkipRange.endTxId ranges

abbrev coveredIds (ranges : List SkipRange) : Set Nat :=
  covered SkipRange.startTxId SkipRange.endTxId ranges

structure SkipMapSound (ranges : List SkipRange) : Prop where
  separated : SkipSeparated ranges
  inWord : ∀ range ∈ ranges, range.InWord

variable {bound : Nat}

section Neighbours

variable {ranges before after : List SkipRange} {entry range : SkipRange}

theorem split_at_bound (separated : SkipSeparated ranges) (bound : Nat) :
    ranges = ranges.filter (fun entry => decide (entry.startTxId ≤ bound)) ++
      entriesAfter ranges bound := by
  have ascending := separated.ascending
  clear separated
  induction ranges with
  | nil => rfl
  | cons front rest ih =>
      obtain ⟨first, tail⟩ := List.pairwise_cons.mp ascending
      by_cases low : front.startTxId ≤ bound
      · rw [entriesAfter, List.filter_cons_of_pos (by simpa using low),
          List.filter_cons_of_neg (by simpa using low), List.cons_append]
        exact congrArg (front :: ·) (ih tail)
      · have above : ∀ entry ∈ front :: rest, bound < entry.startTxId := by
          intro entry member
          rcases List.mem_cons.mp member with rfl | later
          · exact not_le.mp low
          · exact lt_trans (not_le.mp low) (first entry later)
        have none_below : (front :: rest).filter
            (fun entry => decide (entry.startTxId ≤ bound)) = [] := by
          apply List.filter_eq_nil_iff.mpr
          intro entry member
          simpa using above entry member
        rw [none_below, List.nil_append, entriesAfter]
        refine (List.filter_eq_self.mpr ?_).symm
        intro entry member
        simpa using above entry member

theorem lastUpTo_none (separated : SkipSeparated ranges) (absent : lastUpTo ranges bound = none) :
    ranges = entriesAfter ranges bound := by
  have split := split_at_bound separated bound
  rw [lastUpTo, List.getLast?_eq_none_iff] at absent
  rwa [absent, List.nil_append] at split

theorem lastUpTo_some (separated : SkipSeparated ranges)
    (found : lastUpTo ranges bound = some entry) :
    entry.startTxId ≤ bound ∧
      ∃ before, ranges = before ++ entry :: entriesAfter ranges bound := by
  have split := split_at_bound separated bound
  obtain ⟨before, shape⟩ := List.getLast?_eq_some_iff.mp found
  have member : entry ∈ ranges.filter fun entry => decide (entry.startTxId ≤ bound) := by
    rw [shape]
    exact List.mem_append_right before List.mem_cons_self
  refine ⟨by simpa using (List.mem_filter.mp member).2, before, ?_⟩
  rw [shape, List.append_assoc, List.singleton_append] at split
  exact split

theorem entriesAfter_entry (separated : SkipSeparated (before ++ entry :: after)) :
    entriesAfter (before ++ entry :: after) entry.startTxId = after := by
  obtain ⟨_, upper, across⟩ := List.pairwise_append.mp separated.ascending
  have above := (List.pairwise_cons.mp upper).1
  have dropped : entriesAfter before entry.startTxId = [] := by
    apply List.filter_eq_nil_iff.mpr
    intro earlier member
    have := across earlier member entry List.mem_cons_self
    simp only [decide_eq_true_eq]
    omega
  have kept : entriesAfter after entry.startTxId = after := by
    apply List.filter_eq_self.mpr
    intro later member
    simpa using above later member
  rw [entriesAfter, List.filter_append, ← entriesAfter, dropped,
    List.filter_cons_of_neg (by simp), ← entriesAfter, kept, List.nil_append]

end Neighbours

/-! ## Joining the following entries -/

section Absorbing

variable {entries : List SkipRange} {first range merged : SkipRange} {remove starts : List Nat}

/-- What joining the entries after a range has found: they begin with the ones it takes up, and
the next one leaves a gap. -/
structure Absorbed (entries : List SkipRange) (range : SkipRange) (remove : List Nat)
    (others : List SkipRange) (first merged : SkipRange) (starts : List Nat) : Prop where
  sameStart : merged.startTxId = range.startTxId
  inWord : merged.InWord
  found : ∃ touched rest, entries = touched ++ rest ∧
    starts = remove ++ touched.map SkipRange.startTxId ∧ starts.length ≤ 2 ∧
    Merges SkipRange.startTxId SkipRange.endTxId first (others ++ touched) merged ∧
    ∀ next ∈ rest.head?, merged.endTxId + 1 < next.startTxId

theorem absorbFollowing_absorbed {others : List SkipRange} (inWord : range.InWord)
    (all_inWord : ∀ entry ∈ entries, entry.InWord)
    (above : ∀ entry ∈ entries, range.startTxId < entry.startTxId)
    (merges : Merges SkipRange.startTxId SkipRange.endTxId first others range)
    (room : remove.length ≤ 2)
    (ran : absorbFollowing entries range remove = .ok (some (merged, starts))) :
    Absorbed entries range remove others first merged starts := by
  induction entries generalizing range remove others with
  | nil =>
      cases ran
      refine ⟨rfl, inWord, [], [], rfl, (List.append_nil _).symm, room, ?_, by simp⟩
      rwa [List.append_nil]
  | cons entry rest ih =>
      simp only [absorbFollowing] at ran
      have entry_inWord := all_inWord entry List.mem_cons_self
      have entry_above := above entry List.mem_cons_self
      split at ran
      · cases ran
      · split at ran
        · rename_i gap
          cases ran
          have begins := entry_inWord.1
          refine ⟨rfl, inWord, [], entry :: rest, rfl, (List.append_nil _).symm, room, ?_, ?_⟩
          · rwa [List.append_nil]
          · intro next member
            cases member
            simp only [satAdd] at gap
            omega
        · rename_i touching
          split at ran
          · cases ran
          · rename_i more
            have touches : entry.startTxId ≤ range.endTxId + 1 :=
              le_trans (not_lt.mp touching) (satAdd_le_add _ _ _)
            have joined_inWord : ({ range with
                endTxId := max range.endTxId entry.endTxId } : SkipRange).InWord :=
              ⟨inWord.1, max_le inWord.2 entry_inWord.2⟩
            have shorter : (remove ++ [entry.startTxId]).length ≤ 2 := by
              rw [List.length_append, List.length_singleton]
              omega
            have joined := ih joined_inWord
              (fun later member => all_inWord later (List.mem_cons_of_mem entry member))
              (fun later member => above later (List.mem_cons_of_mem entry member))
              (merges.extend rfl rfl (le_of_lt entry_above) touches) shorter ran
            obtain ⟨touched, after, shape, collected, few, covers, gap⟩ := joined.found
            refine ⟨joined.sameStart, joined.inWord, entry :: touched, after, ?_, ?_, few, ?_, gap⟩
            · rw [shape, List.cons_append]
            · rw [collected, List.append_assoc, List.map_cons, List.singleton_append]
            · rwa [List.append_assoc, List.singleton_append] at covers

theorem absorbFollowing_ok (ordered : ∀ entry ∈ entries, entry.startTxId ≤ entry.endTxId) :
    ∃ outcome, absorbFollowing entries range remove = .ok outcome := by
  induction entries generalizing range remove with
  | nil => exact ⟨_, rfl⟩
  | cons entry rest ih =>
      have valid := ordered entry List.mem_cons_self
      simp only [absorbFollowing, if_neg (not_lt.mpr valid)]
      split
      · exact ⟨_, rfl⟩
      · split
        · exact ⟨_, rfl⟩
        · exact ih fun later member => ordered later (List.mem_cons_of_mem entry member)

theorem absorbFollowing_none (separated : SkipSeparated entries)
    (near : ∀ entry ∈ entries, entry.startTxId ≤ range.endTxId + 1 →
      entry.startTxId ≤ bound + 1) (room : remove.length ≤ 2)
    (ran : absorbFollowing entries range remove = .ok none) :
    3 ≤ remove.length +
      entries.countP fun entry => decide (entry.startTxId ≤ bound + 1) := by
  induction entries generalizing range remove with
  | nil => cases ran
  | cons entry rest ih =>
      obtain ⟨apart, tail⟩ := List.pairwise_cons.mp separated.apart
      have rest_separated := separated.sublist (List.sublist_cons_self entry rest)
      simp only [absorbFollowing] at ran
      split at ran
      · cases ran
      · split at ran
        · cases ran
        · rename_i touching
          have touches : entry.startTxId ≤ bound + 1 :=
            near entry List.mem_cons_self
              (le_trans (not_lt.mp touching) (satAdd_le_add _ _ _))
          rw [List.countP_cons_of_pos (by simpa using touches)]
          split at ran
          · omega
          · have later_near : ∀ later ∈ rest,
                later.startTxId ≤ max range.endTxId entry.endTxId + 1 →
                  later.startTxId ≤ bound + 1 := by
              intro later member reached
              apply near later (List.mem_cons_of_mem entry member)
              have gap : entry.endTxId + 1 < later.startTxId := apart later member
              omega
            have counted := ih rest_separated later_near
              (by rw [List.length_append, List.length_singleton]; omega) ran
            rw [List.length_append, List.length_singleton] at counted
            omega

end Absorbing

/-! ## Writing the result -/

theorem putRange_between {before after : List SkipRange} {range : SkipRange}
    (below : ∀ entry ∈ before, entry.startTxId < range.startTxId)
    (above : ∀ entry ∈ after, range.startTxId < entry.startTxId) :
    putRange range (before ++ after) = before ++ range :: after := by
  induction before with
  | nil =>
      cases after with
      | nil => rfl
      | cons entry rest =>
          rw [List.nil_append, putRange, if_pos (above entry List.mem_cons_self),
            List.nil_append]
  | cons entry rest ih =>
      have first := below entry List.mem_cons_self
      rw [List.cons_append, putRange, if_neg (not_lt.mpr (le_of_lt first)),
        if_neg (Nat.ne_of_gt first), ih fun later member =>
          below later (List.mem_cons_of_mem entry member), List.cons_append]

theorem removeStarts_stretch {before touched after : List SkipRange}
    (ascending : (before ++ touched ++ after).Pairwise
      fun first second => first.startTxId < second.startTxId) :
    removeStarts (before ++ touched ++ after) (touched.map SkipRange.startTxId) =
      before ++ after := by
  obtain ⟨front, _, across⟩ := List.pairwise_append.mp ascending
  obtain ⟨_, _, first_part⟩ := List.pairwise_append.mp front
  have keeps : ∀ part : List SkipRange,
      (∀ entry ∈ part, ∀ gone ∈ touched, gone.startTxId ≠ entry.startTxId) →
        removeStarts part (touched.map SkipRange.startTxId) = part := by
    intro part other
    apply List.filter_eq_self.mpr
    intro entry member
    simp only [List.mem_map, decide_eq_true_eq, not_exists, not_and]
    exact other entry member
  have dropped : removeStarts touched (touched.map SkipRange.startTxId) = [] := by
    apply List.filter_eq_nil_iff.mpr
    intro entry member
    simpa using ⟨entry, member, rfl⟩
  have kept_before := keeps before fun entry member gone inTouched =>
    Nat.ne_of_gt (first_part entry member gone inTouched)
  have kept_after := keeps after fun entry member gone inTouched =>
    Nat.ne_of_lt (across gone (List.mem_append_right before inTouched) entry member)
  rw [removeStarts, List.filter_append, List.filter_append]
  simp only [removeStarts] at kept_before kept_after dropped
  rw [kept_before, dropped, kept_after, List.append_nil]

/-! ## One insertion -/

def SkipRange.touches (range entry : SkipRange) : Bool :=
  decide (entry.startTxId ≤ range.endTxId + 1) && decide (range.startTxId ≤ entry.endTxId + 1)

abbrev SkipRange.ids (range : SkipRange) : Set Nat := Set.Icc range.startTxId range.endTxId

/-- The map covers the inserted ids as well, or it is unchanged; it is unchanged only if it
covered them already or they touch more than two ranges. -/
structure Inserted (ranges : List SkipRange) (range : SkipRange) (result : List SkipRange) :
    Prop where
  sound : SkipMapSound result
  covers : coveredIds result = coveredIds ranges ∪ range.ids ∨
    result = ranges ∧ 3 ≤ ranges.countP range.touches

section Insertion

variable {ranges result : List SkipRange} {first range : SkipRange}

/-- The entries beyond the ones examined begin beyond the next one left in place. -/
theorem gap_of_head {entries touched rest : List SkipRange} (separated : SkipSeparated entries)
    (shape : entries.take 3 = touched ++ rest) (few : touched.length ≤ 2)
    (head : ∀ next ∈ rest.head?, bound < next.startTxId) :
    ∀ next ∈ rest ++ entries.drop 3, bound < next.startTxId := by
  have whole : entries = touched ++ (rest ++ entries.drop 3) := by
    rw [← List.append_assoc, ← shape, List.take_append_drop]
  cases rest with
  | nil =>
      have short : entries.length ≤ 2 := by
        have counted := congrArg List.length shape
        rw [List.length_take, List.append_nil] at counted
        omega
      rw [List.nil_append, List.drop_eq_nil_of_le (by omega)]
      intro next member
      cases member
  | cons front rest =>
      have ascending := separated.ascending
      rw [whole, List.cons_append] at ascending
      have later := (List.pairwise_cons.mp (List.pairwise_append.mp ascending).2.1).1
      intro next member
      rcases List.mem_cons.mp member with rfl | beyond
      · exact head next rfl
      · exact lt_trans (head front rfl) (later next beyond)

/-- The insertion after the preceding entry has been dealt with: `old` is that entry when the
range has been joined to it. -/
theorem insertAfter_inserted {before old : List SkipRange} (sound : SkipMapSound ranges)
    (shape : ranges = before ++ old ++ entriesAfter ranges range.startTxId)
    (valid : first.startTxId ≤ first.endTxId) (inWord : range.InWord)
    (merges : Merges SkipRange.startTxId SkipRange.endTxId first old range)
    (below : ∀ entry ∈ before, entry.endTxId + 1 < range.startTxId)
    (room : old.length ≤ 1)
    (touched_old : ∀ entry ∈ old, first.touches entry = true)
    (near : ∀ entry ∈ entriesAfter ranges range.startTxId,
      entry.startTxId ≤ range.endTxId + 1 → entry.startTxId ≤ first.endTxId + 1)
    (reach : ∀ entry ∈ entriesAfter ranges range.startTxId,
      first.startTxId ≤ entry.endTxId + 1)
    (ran : insertAfter ranges range (old.map SkipRange.startTxId) = .ok result) :
    Inserted ranges first result := by
  have suffix_separated : SkipSeparated (entriesAfter ranges range.startTxId) :=
    sound.separated.sublist List.filter_sublist
  have take_separated := suffix_separated.sublist (List.take_sublist 3 _)
  have above : ∀ entry ∈ entriesAfter ranges range.startTxId,
      range.startTxId < entry.startTxId := by
    intro entry member
    simpa using (List.mem_filter.mp member).2
  have word_above : ∀ entry ∈ entriesAfter ranges range.startTxId, entry.InWord :=
    fun entry member => sound.inWord entry (List.mem_of_mem_filter member)
  simp only [insertAfter] at ran
  generalize following : entriesAfter ranges range.startTxId = entries at *
  split at ran
  · cases ran
  · rename_i none_ran
    cases ran
    refine ⟨sound, .inr ⟨rfl, ?_⟩⟩
    have near_taken : ∀ entry ∈ entries.take 3, entry.startTxId ≤ range.endTxId + 1 →
        entry.startTxId ≤ first.endTxId + 1 :=
      fun entry member => near entry (List.mem_of_mem_take member)
    have many := absorbFollowing_none take_separated near_taken
      (by rw [List.length_map]; omega) none_ran
    have old_count : old.countP first.touches = old.length := List.countP_eq_length.mpr touched_old
    have taken_count : (entries.take 3).countP
        (fun entry => decide (entry.startTxId ≤ first.endTxId + 1)) =
          (entries.take 3).countP first.touches := by
      apply List.countP_congr
      intro entry member
      have reached := reach entry (List.mem_of_mem_take member)
      simp [SkipRange.touches, reached]
    have part : (entries.take 3).countP first.touches ≤ entries.countP first.touches :=
      (List.take_sublist 3 entries).countP_le
    rw [List.length_map] at many
    rw [shape, List.countP_append, List.countP_append]
    omega
  · rename_i merged starts some_ran
    cases ran
    have absorbed := absorbFollowing_absorbed inWord
      (fun entry member => word_above entry (List.mem_of_mem_take member))
      (fun entry member => above entry (List.mem_of_mem_take member)) merges
      (by rw [List.length_map]; omega) some_ran
    obtain ⟨touched, rest, taken, collected, few, covers, head⟩ := absorbed.found
    have few_touched : touched.length ≤ 2 := by
      rw [collected, List.length_append, List.length_map, List.length_map] at few
      omega
    have whole : ranges = before ++ (old ++ touched) ++ (rest ++ entries.drop 3) := by
      calc
        ranges = before ++ old ++ entries := shape
        _ = before ++ old ++ (entries.take 3 ++ entries.drop 3) := by rw [List.take_append_drop]
        _ = before ++ (old ++ touched) ++ (rest ++ entries.drop 3) := by
          rw [taken]
          simp only [List.append_assoc]
    have gap := gap_of_head suffix_separated taken few_touched head
    have ordered : merged.startTxId ≤ merged.endTxId :=
      le_trans covers.low_le (le_trans valid covers.high_le)
    have start_eq := absorbed.sameStart
    have removed : removeStarts ranges starts = before ++ (rest ++ entries.drop 3) := by
      rw [collected, ← List.map_append, whole]
      exact removeStarts_stretch (whole ▸ sound.separated.ascending)
    have written : putRange merged (removeStarts ranges starts) =
        before ++ merged :: (rest ++ entries.drop 3) := by
      rw [removed]
      apply putRange_between
      · intro entry member
        have inMap : entry ∈ ranges := by
          rw [whole, List.append_assoc]
          exact List.mem_append_left _ member
        have entry_ordered := sound.separated.ordered entry inMap
        have far := below entry member
        omega
      · intro entry member
        have far := gap entry member
        omega
    rw [written]
    refine ⟨⟨?_, ?_⟩, .inl ?_⟩
    · apply Separated.splice (whole ▸ sound.separated) ordered
      · intro entry member
        have far := below entry member
        simp only [Apart]
        omega
      · exact gap
    · intro entry member
      rcases List.mem_append.mp member with inBefore | tail
      · apply sound.inWord
        rw [whole, List.append_assoc]
        exact List.mem_append_left _ inBefore
      · rcases List.mem_cons.mp tail with rfl | later
        · exact absorbed.inWord
        · apply sound.inWord
          rw [whole]
          exact List.mem_append_right _ later
    · calc
        coveredIds (before ++ merged :: (rest ++ entries.drop 3)) =
            coveredIds (before ++ (old ++ touched) ++ (rest ++ entries.drop 3)) ∪
              Set.Icc first.startTxId first.endTxId := covered_splice covers
        _ = coveredIds ranges ∪ first.ids := by rw [← whole]

theorem merges_entry {entry : SkipRange} (begins : entry.startTxId ≤ range.startTxId)
    (adjoins : range.startTxId ≤ entry.endTxId + 1) :
    Merges SkipRange.startTxId SkipRange.endTxId range [entry]
      ⟨entry.startTxId, max range.endTxId entry.endTxId⟩ := by
  refine ⟨begins, Nat.le_max_left _ _, ?_⟩
  rw [covered_cons, covered_nil, Set.union_empty]
  ext id
  simp only [Set.mem_union, Set.mem_Icc]
  omega

theorem covered_of_contained {entry : SkipRange} (member : entry ∈ ranges)
    (begins : entry.startTxId ≤ range.startTxId) (ends : range.endTxId ≤ entry.endTxId) :
    coveredIds ranges = coveredIds ranges ∪ range.ids := by
  apply (Set.union_eq_left.mpr _).symm
  intro id inside
  exact ⟨entry, member, le_trans begins inside.1, le_trans inside.2 ends⟩

theorem insertSkipRange_inserted (sound : SkipMapSound ranges) (inWord : range.InWord)
    (ran : insertSkipRange ranges range = .ok result) : Inserted ranges range result := by
  simp only [insertSkipRange] at ran
  split at ran
  · cases ran
  · rename_i notReversed
    have valid := not_lt.mp notReversed
    split at ran
    · rename_i absent
      have shape : ranges = [] ++ [] ++ entriesAfter ranges range.startTxId :=
        lastUpTo_none sound.separated absent
      refine insertAfter_inserted sound shape valid inWord (Merges.self range) ?_ (by simp) ?_
        (fun _ _ touching => touching) ?_ ran
      · intro entry member
        cases member
      · intro entry member
        cases member
      · intro entry member
        have inMap := List.mem_of_mem_filter member
        have after : range.startTxId < entry.startTxId := by
          simpa using (List.mem_filter.mp member).2
        have ordered := sound.separated.ordered entry inMap
        omega
    · rename_i entry found
      obtain ⟨begins, before, shape⟩ := lastUpTo_some sound.separated found
      have inMap : entry ∈ ranges := by
        rw [shape]
        exact List.mem_append_right before List.mem_cons_self
      have separated := sound.separated
      rw [shape] at separated
      have suffix := entriesAfter_entry separated
      rw [← shape] at suffix
      obtain ⟨_, upper, across⟩ := List.pairwise_append.mp separated.apart
      have earlier : ∀ other ∈ before, other.endTxId + 1 < entry.startTxId :=
        fun other member => across other member entry List.mem_cons_self
      have later : ∀ other ∈ entriesAfter ranges range.startTxId,
          entry.endTxId + 1 < other.startTxId := (List.pairwise_cons.mp upper).1
      have others_ordered : ∀ other ∈ entriesAfter ranges range.startTxId,
          other.startTxId ≤ other.endTxId := fun other member =>
        sound.separated.ordered other (List.mem_of_mem_filter member)
      split at ran
      · cases ran
      · rename_i entryValid
        split at ran
        · rename_i contained
          cases ran
          exact ⟨sound, .inl (covered_of_contained inMap begins contained)⟩
        · rename_i longer
          split at ran
          · rename_i reaches
            have adjoins : range.startTxId ≤ entry.endTxId + 1 :=
              le_trans reaches (satAdd_le_add _ _ _)
            have joined_shape : ranges =
                before ++ [entry] ++ entriesAfter ranges (⟨entry.startTxId,
                  max range.endTxId entry.endTxId⟩ : SkipRange).startTxId := by
              rw [suffix, List.append_assoc, List.singleton_append]
              exact shape
            refine insertAfter_inserted sound joined_shape valid
              ⟨le_trans begins inWord.1, max_le inWord.2 (sound.inWord entry inMap).2⟩
              (merges_entry begins adjoins) earlier (le_refl _) ?_ ?_ ?_ ran
            · intro other member
              rw [List.mem_singleton.mp member]
              simp only [SkipRange.touches, Bool.and_eq_true, decide_eq_true_eq]
              omega
            · intro other _ near
              dsimp only at near
              omega
            · intro other member
              rw [suffix] at member
              have far := later other member
              have ordered := others_ordered other member
              omega
          · rename_i gap
            have far : entry.endTxId + 1 < range.startTxId := by
              have start_word := inWord.1
              simp only [satAdd] at gap
              omega
            have plain_shape : ranges =
                (before ++ [entry]) ++ [] ++ entriesAfter ranges range.startTxId := by
              rw [List.append_nil, List.append_assoc, List.singleton_append]
              exact shape
            refine insertAfter_inserted sound plain_shape valid inWord (Merges.self range) ?_
              (by simp) ?_ (fun _ _ touching => touching) ?_ ran
            · intro other member
              rcases List.mem_append.mp member with inBefore | last
              · have before_entry := earlier other inBefore
                omega
              · rw [List.mem_singleton.mp last]
                exact far
            · intro other member
              cases member
            · intro other member
              have after : range.startTxId < other.startTxId := by
                simpa using (List.mem_filter.mp member).2
              have ordered := others_ordered other member
              omega

theorem insertSkipRange_error (sound : SkipMapSound ranges) {error : SkipRangeInsertError}
    (ran : insertSkipRange ranges range = .error error) : range.endTxId < range.startTxId := by
  have no_error : ∀ (other : SkipRange) (remove : List Nat),
      insertAfter ranges other remove ≠ .error error := by
    intro other remove failed
    have ordered : ∀ entry ∈ (entriesAfter ranges other.startTxId).take 3,
        entry.startTxId ≤ entry.endTxId := fun entry member =>
      sound.separated.ordered entry (List.mem_of_mem_filter (List.mem_of_mem_take member))
    have succeeds : ∃ outcome, absorbFollowing ((entriesAfter ranges other.startTxId).take 3)
        other remove = .ok outcome := absorbFollowing_ok ordered
    obtain ⟨outcome, absorbed⟩ := succeeds
    simp only [insertAfter, absorbed] at failed
    rcases outcome with _ | ⟨merged, starts⟩ <;> cases failed
  simp only [insertSkipRange] at ran
  split at ran
  · assumption
  · split at ran
    · exact absurd ran (no_error _ _)
    · rename_i entry found
      obtain ⟨_, before, shape⟩ := lastUpTo_some sound.separated found
      have inMap : entry ∈ ranges := by
        rw [shape]
        exact List.mem_append_right before List.mem_cons_self
      rw [if_neg (not_lt.mpr (sound.separated.ordered entry inMap))] at ran
      split at ran
      · cases ran
      · split at ran
        · exact absurd ran (no_error _ _)
        · exact absurd ran (no_error _ _)

end Insertion

/-! ## Looking an id up -/

theorem lastUpTo_of_contained {ranges : List SkipRange} {range : SkipRange} {id : Nat}
    (separated : SkipSeparated ranges) (member : range ∈ ranges)
    (begins : range.startTxId ≤ id) (ends : id ≤ range.endTxId) :
    lastUpTo ranges id = some range := by
  obtain ⟨before, after, shape⟩ := List.append_of_mem member
  subst shape
  have later := (List.pairwise_cons.mp (List.pairwise_append.mp separated.apart).2.1).1
  have dropped : after.filter (fun entry => decide (entry.startTxId ≤ id)) = [] := by
    apply List.filter_eq_nil_iff.mpr
    intro entry inAfter
    have far : range.endTxId + 1 < entry.startTxId := later entry inAfter
    simp only [decide_eq_true_eq]
    omega
  rw [lastUpTo, List.filter_append, List.filter_cons_of_pos (by simpa using begins), dropped,
    List.getLast?_append]
  rfl

section Lookup

variable {ranges : List SkipRange} {range : SkipRange} {id : Nat}

theorem skipRangeContaining_some (separated : SkipSeparated ranges) :
    skipRangeContaining ranges id = .ok (some range) ↔
      range ∈ ranges ∧ range.startTxId ≤ id ∧ id ≤ range.endTxId := by
  constructor
  · intro found
    simp only [skipRangeContaining] at found
    split at found
    · cases found
    · rename_i entry last
      obtain ⟨begins, before, shape⟩ := lastUpTo_some separated last
      split at found
      · cases found
      · split at found
        · rename_i ends
          cases found
          refine ⟨?_, begins, ends⟩
          rw [shape]
          exact List.mem_append_right before List.mem_cons_self
        · cases found
  · rintro ⟨member, begins, ends⟩
    have ordered := separated.ordered range member
    simp only [skipRangeContaining, lastUpTo_of_contained separated member begins ends,
      if_neg (not_lt.mpr ordered), if_pos ends]

theorem skipRangeContaining_ok (separated : SkipSeparated ranges) (id : Nat) :
    ∃ found, skipRangeContaining ranges id = .ok found := by
  simp only [skipRangeContaining]
  split
  · exact ⟨_, rfl⟩
  · rename_i entry last
    obtain ⟨_, before, shape⟩ := lastUpTo_some separated last
    have inMap : entry ∈ ranges := by
      rw [shape]
      exact List.mem_append_right before List.mem_cons_self
    rw [if_neg (not_lt.mpr (separated.ordered entry inMap))]
    exact ⟨_, rfl⟩

theorem skipRangeContaining_none (separated : SkipSeparated ranges) :
    skipRangeContaining ranges id = .ok none ↔ id ∉ coveredIds ranges := by
  constructor
  · rintro absent ⟨range, member, begins, ends⟩
    have found := (skipRangeContaining_some separated).mpr ⟨member, begins, ends⟩
    rw [absent] at found
    cases found
  · intro outside
    obtain ⟨found, ran⟩ := skipRangeContaining_ok separated id
    cases found with
    | none => exact ran
    | some range =>
        obtain ⟨member, begins, ends⟩ := (skipRangeContaining_some separated).mp ran
        exact absurd ⟨range, member, begins, ends⟩ outside

end Lookup

/-! ## Every reachable map -/

theorem SkipMapSound.nil : SkipMapSound [] :=
  ⟨Separated.nil, fun _ member => absurd member List.not_mem_nil⟩

theorem skipRangeStep_sound {ranges result : List SkipRange} {event : SkipRangeEvent}
    (sound : SkipMapSound ranges) (taken : skipRangeStep ranges event = some result) :
    SkipMapSound result := by
  cases event with
  | clear =>
      cases taken
      exact SkipMapSound.nil
  | insert range =>
      simp only [skipRangeStep] at taken
      split at taken
      · rename_i inWord
        cases taken
        cases ran : insertSkipRange ranges range with
        | error _ => exact sound
        | ok result => exact (insertSkipRange_inserted sound inWord ran).sound
      · cases taken

theorem reachable_skipMap {ranges : List SkipRange}
    (reachable : skipRangeMachine.Reachable ranges) : SkipMapSound ranges := by
  apply skipRangeMachine.reachable_invariant SkipMapSound _ _ reachable
  · rintro start rfl
    exact SkipMapSound.nil
  · intro state event next sound taken
    exact skipRangeStep_sound sound taken

def InsertAnswer (ranges : List SkipRange) (range : SkipRange) :
    Except SkipRangeInsertError (List SkipRange) → Prop
  | .error _ => range.endTxId < range.startTxId
  | .ok result => range.startTxId ≤ range.endTxId ∧ SkipSeparated result ∧
      (coveredIds result = coveredIds ranges ∪ range.ids ∨
        result = ranges ∧ 3 ≤ ranges.countP range.touches)

/-- Every map that insertions produce is a list of separate ranges, an insertion adds exactly
its ids or, when it touches too many ranges, nothing, and a lookup finds the range of an id. -/
theorem skip_range_map {ranges : List SkipRange} (reachable : skipRangeMachine.Reachable ranges) :
    SkipSeparated ranges ∧
    (∀ range : SkipRange, range.InWord →
      InsertAnswer ranges range (insertSkipRange ranges range)) ∧
    ∀ id, (∃ found, skipRangeContaining ranges id = .ok found) ∧
      (skipRangeContaining ranges id = .ok none ↔ id ∉ coveredIds ranges) ∧
      ∀ range, skipRangeContaining ranges id = .ok (some range) ↔
        range ∈ ranges ∧ range.startTxId ≤ id ∧ id ≤ range.endTxId := by
  have sound := reachable_skipMap reachable
  have separated := sound.separated
  refine ⟨separated, ?_, ?_⟩
  · intro range inWord
    cases ran : insertSkipRange ranges range with
    | error error => exact insertSkipRange_error sound ran
    | ok result =>
        have inserted := insertSkipRange_inserted sound inWord ran
        refine ⟨?_, inserted.sound.separated, inserted.covers⟩
        by_contra reversed
        rw [insertSkipRange, if_pos (not_le.mp reversed)] at ran
        cases ran
  · intro id
    exact ⟨skipRangeContaining_ok separated id, skipRangeContaining_none separated,
      fun range => skipRangeContaining_some separated⟩

/-- The gap between two ranges is filled, up to the last id of all. -/
theorem skip_range_map_filled :
    insertSkipRange [⟨5, 9⟩, ⟨12, u64Max⟩] ⟨10, 11⟩ = .ok [⟨5, u64Max⟩] ∧
      InsertAnswer [⟨5, 9⟩, ⟨12, u64Max⟩] ⟨10, 11⟩
        (insertSkipRange [⟨5, 9⟩, ⟨12, u64Max⟩] ⟨10, 11⟩) ∧
      SkipSeparated [⟨5, u64Max⟩] := by
  have two : skipRangeMachine.Reachable [⟨5, 9⟩, ⟨12, u64Max⟩] :=
    ⟨[], [.insert ⟨12, u64Max⟩, .insert ⟨5, 9⟩], rfl, by decide +kernel⟩
  have taken : skipRangeMachine.step [⟨5, 9⟩, ⟨12, u64Max⟩] (.insert ⟨10, 11⟩) =
      some [⟨5, u64Max⟩] := by decide +kernel
  have joined := two.of_step skipRangeMachine taken
  exact ⟨by decide +kernel, (skip_range_map two).2.1 _ (by decide),
    (skip_range_map joined).1⟩

end JupiterSuite.Faucet
