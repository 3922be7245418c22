import Mathlib.Data.List.Basic
import Mathlib.Data.List.TakeDrop

/-! Encodings that say where they end, so that what is written after one another can be told
apart again. -/

namespace JupiterSuite.Base

section Framing

variable {α β γ σ : Type*}

/-- Whatever follows, the encoding of a valid value is found at the front in one way only. -/
def Framed (valid : α → Prop) (encode : α → List σ) : Prop :=
  ∀ ⦃one another : α⦄, valid one → valid another → ∀ ⦃rest other : List σ⦄,
    encode one ++ rest = encode another ++ other → one = another ∧ rest = other

variable {valid : α → Prop} {encode : α → List σ}

theorem Framed.injective (framed : Framed valid encode) {one another : α} (first : valid one)
    (second : valid another) (same : encode one = encode another) : one = another := by
  have extended : encode one ++ [] = encode another ++ [] := by rw [same]
  exact (framed first second extended).1

theorem framed_fixed (size : Nat) (length : ∀ value, valid value → (encode value).length = size)
    (injective : ∀ one another, valid one → valid another → encode one = encode another →
      one = another) :
    Framed valid encode := by
  intro one another first second rest other same
  have sizes : (encode one).length = (encode another).length := by
    rw [length one first, length another second]
  have parts := List.append_inj same sizes
  exact ⟨injective one another first second parts.1, parts.2⟩

theorem Framed.mono {narrow : α → Prop} (framed : Framed valid encode)
    (implies : ∀ value, narrow value → valid value) : Framed narrow encode := by
  intro one another first second rest other same
  exact framed (implies one first) (implies another second) same

theorem Framed.comap (framed : Framed valid encode) (view : γ → α)
    (injective : Function.Injective view) :
    Framed (fun value => valid (view value)) (fun value => encode (view value)) := by
  intro one another first second rest other same
  have parts := framed first second same
  exact ⟨injective parts.1, parts.2⟩

theorem Framed.both {valid' : β → Prop} {encode' : β → List σ} (framed : Framed valid encode)
    (framed' : Framed valid' encode') {one another : α} {one' another' : β}
    (first : valid one ∧ valid' one') (second : valid another ∧ valid' another')
    {rest other : List σ}
    (same : encode one ++ encode' one' ++ rest = encode another ++ encode' another' ++ other) :
    one = another ∧ one' = another' ∧ rest = other := by
  simp only [List.append_assoc] at same
  have front := framed first.1 second.1 same
  have back := framed' first.2 second.2 front.2
  exact ⟨front.1, back⟩

section Counted

variable {count : Nat → List σ} {small : Nat → Prop}

theorem Framed.sized (counted : Framed small count) :
    Framed (fun cells : List σ => small cells.length) fun cells => count cells.length ++ cells := by
  intro one another first second rest other same
  simp only [List.append_assoc] at same
  have header := counted first second same
  exact List.append_inj header.2 header.1

theorem Framed.items (framed : Framed valid encode) {one another : List α}
    (first : ∀ value ∈ one, valid value) (second : ∀ value ∈ another, valid value)
    (length : one.length = another.length) {rest other : List σ}
    (same : one.flatMap encode ++ rest = another.flatMap encode ++ other) :
    one = another ∧ rest = other := by
  induction one generalizing another with
  | nil =>
      rw [List.eq_nil_of_length_eq_zero length.symm] at same ⊢
      exact ⟨rfl, same⟩
  | cons head tail ih =>
      cases another with
      | nil => cases length
      | cons head' tail' =>
          simp only [List.flatMap_cons, List.append_assoc] at same
          have front := framed (first head List.mem_cons_self) (second head' List.mem_cons_self) same
          have back := ih (fun value member => first value (List.mem_cons_of_mem _ member))
            (fun value member => second value (List.mem_cons_of_mem _ member))
            (Nat.succ.inj length) front.2
          rw [front.1, back.1]
          exact ⟨rfl, back.2⟩

theorem Framed.list (counted : Framed small count) (framed : Framed valid encode) :
    Framed (fun values : List α => small values.length ∧ ∀ value ∈ values, valid value)
      fun values => count values.length ++ values.flatMap encode := by
  intro one another first second rest other same
  simp only [List.append_assoc] at same
  have header := counted first.1 second.1 same
  exact framed.items first.2 second.2 header.1 header.2

end Counted

end Framing

/-! Reading a list of cells by position, as decoders do that assert where they read. -/

section Layout

variable {α : Type*}

/-- An assertion that panics gives nothing. -/
def assertion (holds : Prop) [Decidable holds] : Option Unit := if holds then some () else none

@[simp] theorem assertion_eq_some {holds : Prop} [Decidable holds] {done : Unit} :
    assertion holds = some done ↔ holds := by
  by_cases true : holds
  · simp [assertion, true]
  · simp [assertion, true]

theorem assertion_true {holds : Prop} [Decidable holds] (true : holds) :
    assertion holds = some () := if_pos true

/-- The cells from one position up to another. -/
def slice (cells : List α) (start stop : Nat) : List α := (cells.take stop).drop start

variable {cells front part rest : List α} {cell : α} {start stop : Nat}

theorem slice_append (at_start : front.length = start) (at_stop : start + part.length = stop) :
    slice (front ++ (part ++ rest)) start stop = part := by
  subst at_start at_stop
  rw [slice, ← List.append_assoc, List.take_append_of_le_length (by simp), List.take_of_length_le
    (by simp), List.drop_left]

theorem length_slice (within : stop ≤ cells.length) :
    (slice cells start stop).length = stop - start := by
  rw [slice, List.length_drop, List.length_take, Nat.min_eq_left within]

theorem slice_split (order : start ≤ stop) :
    cells.take start ++ (slice cells start stop ++ cells.drop stop) = cells := by
  have prefixed : (cells.take stop).take start = cells.take start := by
    rw [List.take_take, Nat.min_eq_left order]
  calc
    _ = ((cells.take stop).take start ++ (cells.take stop).drop start) ++ cells.drop stop := by
      rw [prefixed, List.append_assoc, slice]
    _ = cells.take stop ++ cells.drop stop := by rw [List.take_append_drop]
    _ = cells := List.take_append_drop stop cells

theorem getElem?_behind (at_start : front.length = start) :
    (front ++ cell :: rest)[start]? = some cell := by
  subst at_start
  rw [List.getElem?_append_right (Nat.le_refl _), Nat.sub_self, List.getElem?_cons_zero]

theorem drop_eq_cons (found : cells[start]? = some cell) :
    cells.drop start = cell :: cells.drop (start + 1) := by
  obtain ⟨within, here⟩ := List.getElem?_eq_some_iff.mp found
  rw [List.drop_eq_getElem_cons within, here]

end Layout

end JupiterSuite.Base
