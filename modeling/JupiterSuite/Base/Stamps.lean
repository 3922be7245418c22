import JupiterSuite.Base.Word
import Mathlib.Data.List.Nodup

/-! Stamps drawn from a counter inside a window around the clock. A stamp is the counter, or the
clock when the window does not admit the counter; the counter then follows the stamp. -/

namespace JupiterSuite.Base

structure Window where
  limit : Nat
  age : Nat
  skew : Nat

namespace Window

variable (window : Window)

def admits (value clock : Nat) : Bool :=
  decide (clock - value ≤ window.age) && decide (value ≤ satAdd window.limit clock window.skew)

def choose (counter clock : Nat) : Nat := if window.admits counter clock then counter else clock

end Window

structure Stamp where
  value : Nat
  clock : Nat
  counter : Nat
  deriving DecidableEq, Repr

/-- The stamps drawn since the counter stood at `start`, the latest first, and the counter. -/
inductive Window.Draws (window : Window) (start : Nat) : List Stamp → Nat → Prop where
  | start : Draws window start [] start
  | draw {stamp : Stamp} {rest : List Stamp} (earlier : Draws window start rest stamp.counter)
      (begun : start ≤ stamp.clock) (forward : ∀ old ∈ rest, old.clock ≤ stamp.clock)
      (clock : stamp.clock ≤ window.limit)
      (chosen : stamp.value = window.choose stamp.counter stamp.clock) :
      Draws window start (stamp :: rest) (satAdd window.limit stamp.value 1)

/-- No draw found the counter ahead of its window, and none followed the last number. -/
structure Window.Steady (window : Window) (stamps : List Stamp) : Prop where
  near : ∀ stamp ∈ stamps, stamp.counter ≤ satAdd window.limit stamp.clock window.skew
  below : ∀ stamp ∈ stamps.tail, stamp.value ≠ window.limit

namespace Window

variable {window : Window} {start counter : Nat} {stamp : Stamp} {rest stamps : List Stamp}

theorem admits_iff {value clock : Nat} : window.admits value clock = true ↔
    clock - value ≤ window.age ∧ value ≤ satAdd window.limit clock window.skew := by
  rw [admits, Bool.and_eq_true, decide_eq_true_eq, decide_eq_true_eq]

theorem choose_admits {clock : Nat} (fits : clock ≤ window.limit) :
    window.admits (window.choose counter clock) clock = true := by
  rw [choose]
  split
  · assumption
  · apply admits_iff.mpr
    exact ⟨by omega, le_satAdd _ fits⟩

/-- A counter that is not ahead of the window is never undercut. -/
theorem le_choose {clock : Nat} (near : counter ≤ satAdd window.limit clock window.skew) :
    counter ≤ window.choose counter clock := by
  rw [choose]
  split
  · exact Nat.le_refl counter
  · rename_i refused
    rw [admits_iff, not_and] at refused
    have old : ¬ clock - counter ≤ window.age := fun young => refused young near
    omega

theorem choose_far {clock : Nat} (far : satAdd window.limit clock window.skew < counter) :
    window.choose counter clock = clock := by
  rw [choose, if_neg]
  rw [admits_iff]
  omega

theorem choose_cases (counter clock : Nat) :
    window.choose counter clock = counter ∨ window.choose counter clock = clock := by
  rw [choose]
  split
  · exact .inl rfl
  · exact .inr rfl

namespace Draws

theorem head (draws : window.Draws start (stamp :: rest) counter) :
    counter = satAdd window.limit stamp.value 1 := by
  cases draws
  rfl

theorem admitted (draws : window.Draws start stamps counter) :
    ∀ stamp ∈ stamps, window.admits stamp.value stamp.clock = true := by
  induction draws with
  | start =>
      intro stamp impossible
      cases impossible
  | draw earlier begun forward clock chosen ih =>
      rw [List.forall_mem_cons]
      refine ⟨?_, ih⟩
      rw [chosen]
      exact choose_admits clock

theorem bounded (draws : window.Draws start stamps counter) :
    ∀ stamp ∈ stamps, stamp.value ≤ window.limit := by
  intro stamp member
  have admitted := admits_iff.mp (draws.admitted stamp member)
  exact Nat.le_trans admitted.2 (satAdd_le_limit _ _ _)

end Draws

theorem Steady.tail (steady : window.Steady (stamp :: rest)) : window.Steady rest where
  near := fun other member => steady.near other (List.mem_cons_of_mem stamp member)
  below := fun other member => steady.below other (List.mem_of_mem_tail member)

theorem Draws.descending (draws : window.Draws start stamps counter)
    (steady : window.Steady stamps) :
    (stamps.map Stamp.value).Pairwise fun newer older => older < newer := by
  induction draws with
  | start => exact .nil
  | @draw stamp rest earlier begun forward clock chosen ih =>
      have order := ih steady.tail
      rw [List.map_cons, List.pairwise_cons]
      refine ⟨?_, order⟩
      have ahead : stamp.counter ≤ stamp.value := by
        rw [chosen]
        exact le_choose (steady.near stamp List.mem_cons_self)
      cases rest with
      | nil =>
          intro value impossible
          cases impossible
      | cons latest older =>
          -- The latest stamp is the largest so far, and the counter is behind it.
          have small := earlier.bounded latest List.mem_cons_self
          have apart := steady.below latest List.mem_cons_self
          have next : stamp.counter = latest.value + 1 := by
            rw [earlier.head]
            exact satAdd_of_le (by omega)
          rw [List.map_cons, List.pairwise_cons] at order
          intro value member
          rcases List.mem_cons.mp member with rfl | old
          · omega
          · have below := order.1 value old
            omega

theorem value_mem {value : Nat} (low : stamp.value ≤ value) (high : value ≤ stamp.value) :
    value ∈ (stamp :: rest).map Stamp.value := by
  rw [Nat.le_antisymm high low]
  exact List.mem_cons_self

theorem Draws.covers (draws : window.Draws start (stamp :: rest) counter)
    (steady : window.Steady (stamp :: rest)) :
    ∃ base, (∀ clock, start ≤ clock → (∀ old ∈ stamp :: rest, old.clock ≤ clock) → base ≤ clock) ∧
      ∀ value, base ≤ value → value ≤ stamp.value →
        value ∈ (stamp :: rest).map Stamp.value := by
  induction rest generalizing stamp counter with
  | nil =>
      rcases draws with _ | ⟨earlier, begun, forward, clock, chosen⟩
      cases earlier
      refine ⟨stamp.value, ?_, fun _ => value_mem⟩
      intro bound above clocks
      have here := clocks stamp List.mem_cons_self
      rcases @choose_cases window stamp.counter stamp.clock with same | same <;> omega
  | cons latest older ih =>
      rcases draws with _ | ⟨earlier, begun, forward, clock, chosen⟩
      rcases @choose_cases window stamp.counter stamp.clock with same | same
      · -- The counter follows the latest stamp.
        have next : stamp.value = latest.value + 1 := by
          have small := earlier.bounded latest List.mem_cons_self
          have apart := steady.below latest List.mem_cons_self
          rw [chosen, same, earlier.head]
          exact satAdd_of_le (by omega)
        rcases ih earlier steady.tail with ⟨base, low, covered⟩
        refine ⟨base, ?_, ?_⟩
        · intro bound above clocks
          exact low bound above fun old member => clocks old (List.mem_cons_of_mem stamp member)
        · intro value atLeast atMost
          by_cases last : stamp.value ≤ value
          · exact value_mem last atMost
          · exact List.mem_cons_of_mem _ (covered value atLeast (by omega))
      · refine ⟨stamp.value, ?_, fun _ => value_mem⟩
        intro bound above clocks
        have here := clocks stamp List.mem_cons_self
        omega

theorem Draws.nodup_iff (draws : window.Draws start stamps counter) :
    (stamps.map Stamp.value).Nodup ↔ window.Steady stamps := by
  constructor
  · intro distinct
    induction draws with
    | start => exact ⟨List.forall_mem_nil _, List.forall_mem_nil _⟩
    | @draw stamp rest earlier begun forward clock chosen ih =>
        rw [List.map_cons, List.nodup_cons] at distinct
        have steady := ih distinct.2
        cases rest with
        | nil =>
            cases earlier
            refine ⟨?_, List.forall_mem_nil _⟩
            rw [List.forall_mem_singleton]
            exact Nat.le_trans begun (le_satAdd _ clock)
        | cons latest older =>
            rcases earlier.covers steady with ⟨base, low, covered⟩
            have next := earlier.head
            have small := earlier.bounded latest List.mem_cons_self
            have under := low stamp.clock begun forward
            -- A clock up to the latest stamp was drawn before.
            have drawn : stamp.clock ≤ latest.value → stamp.value ≠ stamp.clock := by
              intro reached same
              exact distinct.1 (same ▸ covered stamp.clock under reached)
            refine ⟨List.forall_mem_cons.mpr ⟨?_, steady.near⟩,
              List.forall_mem_cons.mpr ⟨?_, steady.below⟩⟩
            · by_contra far
              rw [not_le] at far
              have reached := le_satAdd window.skew clock
              have step := satAdd_le_add window.limit latest.value 1
              exact drawn (by omega) (chosen.trans (choose_far far))
            · intro last
              have kept : stamp.counter = latest.value := by
                rw [next, last]
                exact Nat.min_eq_right (Nat.le_add_right _ _)
              rcases @choose_cases window stamp.counter stamp.clock with same | same
              · apply distinct.1
                rw [chosen, same, kept]
                exact List.mem_cons_self
              · exact drawn (by omega) (chosen.trans same)
  · intro steady
    exact (draws.descending steady).imp fun below same => by omega

theorem Draws.counter_le (draws : window.Draws start stamps counter) {clock : Nat}
    (begun : start ≤ clock) (clocks : ∀ stamp ∈ stamps, stamp.clock ≤ clock) :
    counter ≤ clock + stamps.length := by
  induction draws with
  | start => exact begun
  | @draw stamp rest earlier _ forward _ chosen ih =>
      rw [List.forall_mem_cons] at clocks
      have behind := ih clocks.2
      have step := satAdd_le_add window.limit stamp.value 1
      rw [List.length_cons]
      rcases @choose_cases window stamp.counter stamp.clock with same | same <;> omega

/-- Fewer draws than the window is wide are steady away from the last number. -/
theorem Draws.steady_of_few (draws : window.Draws start stamps counter)
    (few : stamps.length ≤ window.skew)
    (early : ∀ stamp ∈ stamps, stamp.clock + window.skew < window.limit) :
    window.Steady stamps := by
  induction draws with
  | start => exact ⟨List.forall_mem_nil _, List.forall_mem_nil _⟩
  | @draw stamp rest earlier begun forward clock chosen ih =>
      rw [List.length_cons] at few
      rw [List.forall_mem_cons] at early
      have steady := ih (by omega) early.2
      have behind := earlier.counter_le begun forward
      refine ⟨List.forall_mem_cons.mpr ⟨?_, steady.near⟩, ?_⟩
      · rw [satAdd_of_le (by omega)]
        omega
      · cases rest with
        | nil => exact List.forall_mem_nil _
        | cons latest older =>
            refine List.forall_mem_cons.mpr ⟨?_, steady.below⟩
            intro last
            rw [earlier.head, last] at behind
            have kept := le_satAdd 1 (Nat.le_refl window.limit)
            omega

end Window
end JupiterSuite.Base
