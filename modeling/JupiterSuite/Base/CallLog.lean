import Mathlib.Algebra.Order.Ring.Nat
import Mathlib.Data.List.Nodup
import Mathlib.Data.List.Perm.Basic

/-! The calls sent to a deduplicating ledger, in the order of their dispatch. A call is
answered at most once and at any later time, also after its caller gave up on it. Tags say
on whose behalf a call was made; the ledger never reads them. -/

namespace JupiterSuite.Base

inductive Outcome (ε : Type*) where
  | accepted (block : Nat)
  | duplicate (block : Nat)
  | rejected (error : ε)
  deriving DecidableEq, Repr

structure Call (τ α ε : Type*) where
  tag : τ
  arg : α
  outcome : Option (Outcome ε)
  deriving DecidableEq, Repr

abbrev CallLog (τ α ε : Type*) := List (Call τ α ε)

variable {τ α ε : Type*}
variable {call : Call τ α ε} {log next : CallLog τ α ε} {tag : τ} {index : Nat} {arg : α}
  {outcome : Outcome ε} {chosen : τ → Bool}

namespace Call

def accepted (call : Call τ α ε) : Bool :=
  match call.outcome with
  | some (.accepted _) => true
  | _ => false

def refused (call : Call τ α ε) : Bool :=
  match call.outcome with
  | some (.rejected _) => true
  | _ => false

def acceptedAt (call : Call τ α ε) (block : Nat) : Bool :=
  match call.outcome with
  | some (.accepted index) => index == block
  | _ => false

theorem not_accepted_of_refused (refused : call.refused = true) : call.accepted = false := by
  unfold Call.refused at refused
  unfold Call.accepted
  split at refused <;> simp_all

theorem answered_of_refused (refused : call.refused = true) : call.outcome.isSome = true := by
  unfold Call.refused at refused
  split at refused <;> simp_all

end Call

namespace CallLog

def dispatch (log : CallLog τ α ε) (tag : τ) (arg : α) : CallLog τ α ε :=
  log ++ [⟨tag, arg, none⟩]

def outcomeOf (log : CallLog τ α ε) (index : Nat) : Option (Outcome ε) :=
  log[index]?.bind Call.outcome

def acceptedArgs (log : CallLog τ α ε) : List α :=
  (log.filter Call.accepted).map Call.arg

def Deduplicated (log : CallLog τ α ε) : Prop := log.acceptedArgs.Nodup

def debits (log : CallLog τ α ε) (chosen : τ → Bool) : Nat :=
  log.countP fun call => chosen call.tag && call.accepted

/-- How many calls were made under the tag, whatever became of them. -/
def dispatches [DecidableEq τ] (log : CallLog τ α ε) (tag : τ) : Nat :=
  (log.map Call.tag).count tag

/-- What the accepted calls of the chosen tags cost together. -/
def spend (log : CallLog τ α ε) (chosen : τ → Bool) (cost : α → Nat) : Nat :=
  ((log.filter fun call => chosen call.tag && call.accepted).map fun call => cost call.arg).sum

/-- No call made under the tag was, or can still be, accepted. -/
def Refused (log : CallLog τ α ε) (tag : τ) : Prop :=
  ∀ call ∈ log, call.tag = tag → call.refused = true

/-- As `Refused`, for every call of the tag but the one at `index`. -/
def RefusedExcept (log : CallLog τ α ε) (tag : τ) (index : Nat) : Prop :=
  ∀ i call, log[i]? = some call → call.tag = tag → i ≠ index → call.refused = true

/-- The check behind `Refused`. -/
def allRefused [DecidableEq τ] (log : CallLog τ α ε) (tag : τ) : Bool :=
  log.all fun call => call.tag ≠ tag || call.refused

/-- The check behind `RefusedExcept`. -/
def refusedElsewhere [DecidableEq τ] (log : CallLog τ α ε) (tag : τ) (index : Nat) : Bool :=
  log.zipIdx.all fun entry => entry.1.tag ≠ tag || decide (entry.2 = index) || entry.1.refused

theorem allRefused_iff [DecidableEq τ] : log.allRefused tag = true ↔ log.Refused tag := by
  simp only [allRefused, List.all_eq_true, Bool.or_eq_true, decide_eq_true_eq, Refused]
  constructor
  · intro each call member same
    rcases each call member with different | refused
    · exact absurd same different
    · exact refused
  · intro refused call member
    by_cases same : call.tag = tag
    · exact .inr (refused call member same)
    · exact .inl same

theorem refusedElsewhere_iff [DecidableEq τ] :
    log.refusedElsewhere tag index = true ↔ log.RefusedExcept tag index := by
  simp only [refusedElsewhere, List.all_eq_true, Bool.or_eq_true, decide_eq_true_eq,
    RefusedExcept]
  constructor
  · intro each i call found same apart
    rcases each (call, i) (List.mem_zipIdx_iff_getElem?.mpr found) with (different | here) | refused
    · exact absurd same different
    · exact absurd here apart
    · exact refused
  · intro refused entry member
    have found := List.mem_zipIdx_iff_getElem?.mp member
    by_cases same : entry.1.tag = tag
    · by_cases here : entry.2 = index
      · exact .inl (.inr here)
      · exact .inr (refused entry.2 entry.1 found same here)
    · exact .inl (.inl same)

@[simp]
theorem length_dispatch (log : CallLog τ α ε) (tag : τ) (arg : α) :
    (log.dispatch tag arg).length = log.length + 1 := by
  simp [dispatch]

theorem mem_dispatch : call ∈ log.dispatch tag arg ↔ call ∈ log ∨ call = ⟨tag, arg, none⟩ := by
  simp [dispatch]

theorem getElem?_dispatch_old (old : index < log.length) :
    (log.dispatch tag arg)[index]? = log[index]? := by
  simp [dispatch, List.getElem?_append_left old]

@[simp]
theorem getElem?_dispatch_new (log : CallLog τ α ε) (tag : τ) (arg : α) :
    (log.dispatch tag arg)[log.length]? = some ⟨tag, arg, none⟩ := by
  simp [dispatch]

theorem getElem?_dispatch (found : (log.dispatch tag arg)[index]? = some call) :
    log[index]? = some call ∨ (index = log.length ∧ call = ⟨tag, arg, none⟩) := by
  by_cases old : index < log.length
  · exact .inl (by rwa [getElem?_dispatch_old old] at found)
  · have bound : index < (log.dispatch tag arg).length :=
      (List.getElem?_eq_some_iff.mp found).1
    have last : index = log.length := by
      rw [length_dispatch] at bound
      omega
    subst last
    rw [getElem?_dispatch_new] at found
    exact .inr ⟨rfl, (Option.some.inj found).symm⟩

@[simp]
theorem acceptedArgs_dispatch (log : CallLog τ α ε) (tag : τ) (arg : α) :
    (log.dispatch tag arg).acceptedArgs = log.acceptedArgs := by
  simp [acceptedArgs, dispatch, List.filter_append, Call.accepted]

theorem deduplicated_dispatch (fresh : log.Deduplicated) (tag : τ) (arg : α) :
    (log.dispatch tag arg).Deduplicated := by
  simpa [Deduplicated] using fresh

theorem refused_dispatch {other : τ} (refused : log.Refused tag) (arg : α) (different : other ≠ tag) :
    (log.dispatch other arg).Refused tag := by
  intro call member same
  rcases mem_dispatch.mp member with old | rfl
  · exact refused call old same
  · exact absurd same different

theorem refusedExcept_dispatch (refused : log.Refused tag) (arg : α) :
    (log.dispatch tag arg).RefusedExcept tag log.length := by
  intro i call found same other
  rcases getElem?_dispatch found with old | ⟨last, _⟩
  · exact refused call (List.mem_of_getElem? old) same
  · exact absurd last other

theorem refusedExcept_dispatch_other {other : τ} (refused : log.RefusedExcept tag index) (arg : α)
    (different : other ≠ tag) :
    (log.dispatch other arg).RefusedExcept tag index := by
  intro i call found same apart
  rcases getElem?_dispatch found with old | ⟨_, rfl⟩
  · exact refused i call old same apart
  · exact absurd same different

theorem refused_of_except {error : ε} (refused : log.RefusedExcept tag index)
    (answered : log.outcomeOf index = some (.rejected error)) : log.Refused tag := by
  intro call member same
  obtain ⟨i, found⟩ := List.mem_iff_getElem?.mp member
  by_cases here : i = index
  · subst here
    simp only [outcomeOf, found, Option.bind_some] at answered
    simp [Call.refused, answered]
  · exact refused i call found same here

@[simp]
theorem dispatches_dispatch [DecidableEq τ] (log : CallLog τ α ε) (tag other : τ) (arg : α) :
    (log.dispatch other arg).dispatches tag =
      log.dispatches tag + if other = tag then 1 else 0 := by
  simp [dispatches, dispatch, List.count_append, List.count_singleton]

theorem debits_le_one_of_except [DecidableEq τ] (refused : log.RefusedExcept tag index) :
    log.debits (fun other => decide (other = tag)) ≤ 1 := by
  induction log generalizing index with
  | nil => exact Nat.zero_le _
  | cons call rest ih =>
      have counted : debits (call :: rest) (fun other => decide (other = tag)) =
          debits rest (fun other => decide (other = tag)) +
            if decide (call.tag = tag) && call.accepted then 1 else 0 := by
        simp [debits, List.countP_cons]
      rw [counted]
      cases index with
      | zero =>
          have quiet : debits rest (fun other => decide (other = tag)) = 0 := by
            simp only [debits, List.countP_eq_zero, Bool.and_eq_true, decide_eq_true_eq, not_and,
              Bool.not_eq_true]
            intro other member same
            rcases List.mem_iff_getElem?.mp member with ⟨i, found⟩
            exact Call.not_accepted_of_refused
              (refused (i + 1) other found same (Nat.succ_ne_zero i))
          rw [quiet]
          split <;> omega
      | succ index =>
          have later : debits rest (fun other => decide (other = tag)) ≤ 1 := by
            apply ih
            intro i other found same apart
            exact refused (i + 1) other found same (fun shifted => apart (Nat.succ.inj shifted))
          have quiet : (decide (call.tag = tag) && call.accepted) = false := by
            rw [Bool.and_eq_false_imp, decide_eq_true_eq]
            intro same
            exact Call.not_accepted_of_refused
              (refused 0 call rfl same (Nat.succ_ne_zero index).symm)
          rw [quiet]
          simpa using later

theorem split_at (found : log[index]? = some call) (replacement : Call τ α ε) :
    ∃ before after, log = before ++ call :: after ∧
      log.set index replacement = before ++ replacement :: after := by
  obtain ⟨bound, at_index⟩ := List.getElem?_eq_some_iff.mp found
  refine ⟨log.take index, log.drop (index + 1), ?_, List.set_eq_take_append_cons_drop ▸ ?_⟩
  · calc
      log = log.take index ++ log.drop index := (List.take_append_drop index log).symm
      _ = log.take index ++ call :: log.drop (index + 1) := by
        rw [List.drop_eq_getElem_cons bound, at_index]
  · simp [bound]

section Answering

variable [DecidableEq α]

def spent (log : CallLog τ α ε) (arg : α) : Bool :=
  log.any fun call => decide (call.arg = arg) && call.accepted

/-- Equal arguments are accepted once; a duplicate names the block that spent them. -/
def legal (log : CallLog τ α ε) (arg : α) : Outcome ε → Bool
  | .accepted _ => !log.spent arg
  | .duplicate block => log.any fun call => decide (call.arg = arg) && call.acceptedAt block
  | .rejected _ => true

def answer (log : CallLog τ α ε) (index : Nat) (outcome : Outcome ε) :
    Option (CallLog τ α ε) :=
  match log[index]? with
  | some call =>
      if call.outcome.isNone && log.legal call.arg outcome then
        some (log.set index { call with outcome := some outcome })
      else none
  | none => none

theorem answer_eq_some :
    log.answer index outcome = some next ↔
      ∃ call, log[index]? = some call ∧ call.outcome = none ∧
        log.legal call.arg outcome = true ∧
        next = log.set index { call with outcome := some outcome } := by
  unfold answer
  cases found : log[index]? with
  | none => simp
  | some call =>
      simp only [Option.some.injEq, exists_eq_left', Bool.and_eq_true, Option.isNone_iff_eq_none]
      split <;> rename_i condition
      · simp [condition, eq_comm]
      · simp only [reduceCtorEq, false_iff]
        rintro ⟨open_call, allowed, _⟩
        exact condition ⟨open_call, allowed⟩

theorem mem_acceptedArgs : arg ∈ log.acceptedArgs ↔ log.spent arg = true := by
  simp only [acceptedArgs, spent, List.mem_map, List.mem_filter, List.any_eq_true,
    Bool.and_eq_true, decide_eq_true_eq]
  constructor
  · rintro ⟨call, ⟨member, accepted⟩, same⟩
    exact ⟨call, member, same, accepted⟩
  · rintro ⟨call, member, same, accepted⟩
    exact ⟨call, ⟨member, accepted⟩, same⟩

theorem deduplicated_answer (fresh : log.Deduplicated)
    (answered : log.answer index outcome = some next) :
    next.Deduplicated := by
  obtain ⟨call, found, open_call, allowed, rfl⟩ := answer_eq_some.mp answered
  obtain ⟨before, after, whole, replaced⟩ :=
    split_at found { call with outcome := some outcome }
  rw [replaced]
  have quiet : call.accepted = false := by simp [Call.accepted, open_call]
  have old : log.acceptedArgs = acceptedArgs before ++ acceptedArgs after := by
    simp [whole, acceptedArgs, quiet]
  cases outcome with
  | accepted block =>
      have unspent : call.arg ∉ log.acceptedArgs := by
        rw [mem_acceptedArgs]
        simpa [legal] using allowed
      have new : acceptedArgs (before ++ { call with outcome := some (.accepted block) } :: after) =
          acceptedArgs before ++ call.arg :: acceptedArgs after := by
        simp [acceptedArgs, List.filter_cons, Call.accepted]
      unfold Deduplicated at fresh ⊢
      rw [new, List.nodup_middle, List.nodup_cons, ← old]
      exact ⟨unspent, fresh⟩
  | duplicate block =>
      unfold Deduplicated at fresh ⊢
      rw [old] at fresh
      simpa [acceptedArgs, List.filter_cons, Call.accepted] using fresh
  | rejected error =>
      unfold Deduplicated at fresh ⊢
      rw [old] at fresh
      simpa [acceptedArgs, List.filter_cons, Call.accepted] using fresh

/-- An answer changes the outcome of one open call and nothing else. -/
theorem getElem?_answer (answered : log.answer index outcome = some next) (i : Nat) :
    next[i]? = if i = index then
      log[i]?.map fun call => { call with outcome := some outcome } else log[i]? := by
  obtain ⟨call, found, _, _, rfl⟩ := answer_eq_some.mp answered
  by_cases same : i = index
  · subst same
    have bound := (List.getElem?_eq_some_iff.mp found).1
    rw [List.getElem?_set_self bound, if_pos rfl, found, Option.map_some]
  · simp [same, List.getElem?_set_ne (Ne.symm same)]

theorem answer_keeps_answered {i : Nat} (answered : log.answer index outcome = some next)
    (found : log[i]? = some call) (closed : call.outcome.isSome = true) :
    next[i]? = some call := by
  have frame := getElem?_answer answered i
  obtain ⟨target, at_index, open_call, _, _⟩ := answer_eq_some.mp answered
  have other : i ≠ index := by
    rintro rfl
    rw [at_index] at found
    cases found
    simp [open_call] at closed
  rw [frame, if_neg other, found]

theorem mem_answer (answered : log.answer index outcome = some next) (member : call ∈ next) :
    ∃ old ∈ log, old.tag = call.tag ∧ old.arg = call.arg ∧
      (call = old ∨ old.outcome = none ∧ call.outcome = some outcome) := by
  obtain ⟨target, found, open_call, _, rfl⟩ := answer_eq_some.mp answered
  rcases List.mem_or_eq_of_mem_set member with old | rfl
  · exact ⟨call, old, rfl, rfl, .inl rfl⟩
  · exact ⟨target, List.mem_of_getElem? found, rfl, rfl, .inr ⟨open_call, rfl⟩⟩

theorem dispatches_answer [DecidableEq τ] (answered : log.answer index outcome = some next)
    (tag : τ) :
    next.dispatches tag = log.dispatches tag := by
  have tags : next.map Call.tag = log.map Call.tag := by
    apply List.ext_getElem?
    intro i
    rw [List.getElem?_map, List.getElem?_map, getElem?_answer answered i]
    split
    · cases log[i]? <;> rfl
    · rfl
  rw [dispatches, dispatches, tags]

theorem refused_answer (refused : log.Refused tag) (answered : log.answer index outcome = some next) :
    next.Refused tag := by
  intro call member same
  obtain ⟨old, present, tags, _, rfl | ⟨open_call, _⟩⟩ := mem_answer answered member
  · exact refused _ present same
  · have closed := Call.answered_of_refused (refused old present (tags.trans same))
    simp [open_call] at closed

theorem refusedExcept_answer {target : Nat} (refused : log.RefusedExcept tag index)
    (answered : log.answer target outcome = some next) : next.RefusedExcept tag index := by
  intro i call found same apart
  have frame := getElem?_answer answered i
  obtain ⟨open_call, at_target, unanswered, _, _⟩ := answer_eq_some.mp answered
  rw [found] at frame
  by_cases here : i = target
  · subst here
    rw [if_pos rfl, at_target] at frame
    cases frame
    have closed := Call.answered_of_refused (refused i open_call at_target same apart)
    simp [unanswered] at closed
  · rw [if_neg here] at frame
    exact refused i call frame.symm same apart

end Answering

theorem debits_eq_zero (refused : ∀ tag, chosen tag = true → log.Refused tag) :
    log.debits chosen = 0 := by
  simp only [debits, List.countP_eq_zero, Bool.and_eq_true, not_and, Bool.not_eq_true]
  intro call member selected
  exact Call.not_accepted_of_refused (refused call.tag selected call member rfl)

theorem debits_le_one [DecidableEq α] (fresh : log.Deduplicated)
    (fixed : ∀ call ∈ log, chosen call.tag = true → call.accepted = true → call.arg = arg) :
    log.debits chosen ≤ 1 := by
  have counted : log.debits chosen ≤ log.acceptedArgs.count arg := by
    simp only [debits, acceptedArgs, List.count, List.countP_map, List.countP_filter]
    apply List.countP_mono_left
    intro call member selected
    simp only [Bool.and_eq_true] at selected
    simp [fixed call member selected.1 selected.2, selected.2]
  exact Nat.le_trans counted (List.nodup_iff_count_le_one.mp fresh arg)

theorem spend_cons (call : Call τ α ε) (log : CallLog τ α ε) (chosen : τ → Bool)
    (cost : α → Nat) :
    spend (call :: log) chosen cost =
      (if chosen call.tag && call.accepted then cost call.arg else 0) + log.spend chosen cost := by
  unfold spend
  rw [List.filter_cons]
  split <;> simp

/-- Accepted calls with one argument cost its price times their number. -/
theorem spend_eq_debits_mul (cost : α → Nat)
    (fixed : ∀ call ∈ log, chosen call.tag = true → call.accepted = true → call.arg = arg) :
    log.spend chosen cost = log.debits chosen * cost arg := by
  induction log with
  | nil => simp [spend, debits]
  | cons call log ih =>
      have rest := ih fun other member => fixed other (List.mem_cons_of_mem _ member)
      have count : debits (call :: log) chosen =
          debits log chosen + if chosen call.tag && call.accepted then 1 else 0 := by
        simp [debits, List.countP_cons]
      rw [spend_cons, rest, count, Nat.add_mul]
      split
      · rename_i selected
        simp only [Bool.and_eq_true] at selected
        rw [fixed call List.mem_cons_self selected.1 selected.2]
        omega
      · omega

theorem spend_le_cost [DecidableEq α] (cost : α → Nat) (fresh : log.Deduplicated)
    (fixed : ∀ call ∈ log, chosen call.tag = true → call.accepted = true → call.arg = arg) :
    log.spend chosen cost ≤ cost arg := by
  have once := debits_le_one fresh fixed
  calc
    log.spend chosen cost = log.debits chosen * cost arg := spend_eq_debits_mul cost fixed
    _ ≤ 1 * cost arg := Nat.mul_le_mul_right _ once
    _ = cost arg := Nat.one_mul _

theorem spend_le_add (log : CallLog τ α ε) {first second : τ → Bool} (cost : α → Nat)
    (cover : ∀ tag, chosen tag = true → first tag = true ∨ second tag = true) :
    log.spend chosen cost ≤ log.spend first cost + log.spend second cost := by
  induction log with
  | nil => simp [spend]
  | cons call log ih =>
      simp only [spend_cons]
      by_cases selected : chosen call.tag = true
      · rcases cover call.tag selected with left | right
        · rw [selected, left]
          split <;> omega
        · rw [selected, right]
          split <;> omega
      · simp only [selected, Bool.false_and, Bool.false_eq_true, if_false]
        omega

theorem spend_eq_zero (cost : α → Nat) (refused : ∀ tag, chosen tag = true → log.Refused tag) :
    log.spend chosen cost = 0 := by
  induction log with
  | nil => rfl
  | cons call log ih =>
      have rest := ih fun tag selected other member =>
        refused tag selected other (List.mem_cons_of_mem _ member)
      rw [spend_cons, rest]
      by_cases selected : chosen call.tag = true
      · have quiet := Call.not_accepted_of_refused
          (refused call.tag selected call List.mem_cons_self rfl)
        simp [quiet]
      · simp [selected]

end CallLog
end JupiterSuite.Base
