import Mathlib.Data.Set.Basic
import Mathlib.Order.Interval.Set.Defs
import Mathlib.Data.List.Basic

/-! Ascending lists of closed intervals of natural numbers that neither overlap nor touch.
The intervals are the values of any type with a low and a high end. -/

namespace JupiterSuite.Base.Intervals

variable {ρ : Type*} (low high : ρ → Nat)

def Apart (first second : ρ) : Prop := high first + 1 < low second

structure Separated (ranges : List ρ) : Prop where
  apart : ranges.Pairwise (Apart low high)
  ordered : ∀ range ∈ ranges, low range ≤ high range

def covered (ranges : List ρ) : Set Nat :=
  { id | ∃ range ∈ ranges, low range ≤ id ∧ id ≤ high range }

/-- The ends of an interval that covers a first one and a list of others. -/
structure Merges (first : ρ) (others : List ρ) (merged : ρ) : Prop where
  low_le : low merged ≤ low first
  high_le : high first ≤ high merged
  covers : Set.Icc (low merged) (high merged) =
    covered low high others ∪ Set.Icc (low first) (high first)

variable {low high}

@[simp]
theorem covered_nil : covered low high ([] : List ρ) = ∅ := by
  ext id
  simp [covered]

theorem covered_cons (range : ρ) (ranges : List ρ) :
    covered low high (range :: ranges) =
      Set.Icc (low range) (high range) ∪ covered low high ranges := by
  ext id
  simp [covered]

theorem covered_append (front back : List ρ) :
    covered low high (front ++ back) = covered low high front ∪ covered low high back := by
  induction front with
  | nil => simp
  | cons range ranges ih => rw [List.cons_append, covered_cons, covered_cons, ih, Set.union_assoc]

theorem Separated.nil : Separated low high ([] : List ρ) :=
  ⟨List.Pairwise.nil, fun _ member => absurd member List.not_mem_nil⟩

theorem Separated.sublist {shorter longer : List ρ} (separated : Separated low high longer)
    (sub : shorter.Sublist longer) : Separated low high shorter :=
  ⟨separated.apart.sublist sub, fun range member => separated.ordered range (sub.subset member)⟩

theorem Separated.ascending {ranges : List ρ} (separated : Separated low high ranges) :
    ranges.Pairwise fun first second => low first < low second := by
  apply separated.apart.imp_of_mem
  intro first second member _ apart
  have ordered := separated.ordered first member
  simp only [Apart] at apart
  omega

variable {merged : ρ}

/-- An interval may replace a stretch of the list if it stays apart from the rest. -/
theorem Separated.splice {before touched after : List ρ}
    (separated : Separated low high (before ++ touched ++ after))
    (ordered : low merged ≤ high merged) (below : ∀ range ∈ before, Apart low high range merged)
    (above : ∀ range ∈ after, Apart low high merged range) :
    Separated low high (before ++ merged :: after) := by
  have outer : Separated low high (before ++ after) := by
    apply separated.sublist
    rw [List.append_assoc]
    exact (List.Sublist.refl before).append (List.sublist_append_right touched after)
  obtain ⟨lower, upper, across⟩ := List.pairwise_append.mp outer.apart
  constructor
  · refine List.pairwise_append.mpr ⟨lower, List.pairwise_cons.mpr ⟨above, upper⟩, ?_⟩
    intro first inBefore second member
    rcases List.mem_cons.mp member with rfl | later
    · exact below first inBefore
    · exact across first inBefore second later
  · intro range member
    rcases List.mem_append.mp member with inBefore | rest
    · exact outer.ordered range (List.mem_append_left after inBefore)
    · rcases List.mem_cons.mp rest with rfl | later
      · exact ordered
      · exact outer.ordered range (List.mem_append_right before later)

theorem covered_splice {before touched after : List ρ} {inserted : ρ}
    (merges : Merges low high inserted touched merged) :
    covered low high (before ++ merged :: after) =
      covered low high (before ++ touched ++ after) ∪
        Set.Icc (low inserted) (high inserted) := by
  rw [covered_append, covered_cons, merges.covers, covered_append, covered_append]
  ext id
  simp only [Set.mem_union]
  tauto

/-- An interval joined to an overlapping or adjacent one that does not begin before it. -/
theorem Merges.extend {first next joined : ρ} {others : List ρ}
    (merges : Merges low high first others merged) (sameLow : low joined = low merged)
    (joinedHigh : high joined = max (high merged) (high next)) (begins : low merged ≤ low next)
    (touches : low next ≤ high merged + 1) :
    Merges low high first (others ++ [next]) joined := by
  refine ⟨by rw [sameLow]; exact merges.low_le, ?_, ?_⟩
  · exact le_trans merges.high_le (joinedHigh ▸ Nat.le_max_left _ _)
  · rw [covered_append, covered_cons, covered_nil, Set.union_empty, Set.union_right_comm,
      ← merges.covers]
    ext id
    simp only [Set.mem_union, Set.mem_Icc]
    omega

theorem Merges.self (first : ρ) : Merges low high first [] first := by
  refine ⟨le_refl _, le_refl _, ?_⟩
  rw [covered_nil, Set.empty_union]

end JupiterSuite.Base.Intervals
