import JupiterSuite.Relay.RewardHistory

/-! The transactions that a backwards read retains, replayed forwards: they lead from the opening
balance to the live one, and a boundary is authoritative only where the balance is zero. -/

namespace JupiterSuite.Relay

open Base

/-- The effect of a transaction on the account's balance; none if it would be overdrawn. -/
def applyAccountTransaction (account : String) (before : Nat) (entry : IndexTransactionWithId) :
    Option Nat :=
  match entry.transaction.operation with
  | .transfer toAccount fee fromAccount amount _ =>
      match decide (fromAccount = account), decide (toAccount = account) with
      | true, true => checkedSub before fee
      | true, false => checkedSub before (amount + fee)
      | false, true => some (before + amount)
      | false, false => some before
  | .mint toAccount amount => some (if toAccount = account then before + amount else before)
  | .burn fromAccount amount =>
      if fromAccount = account then checkedSub before amount else some before
  | .approve fee fromAccount =>
      if fromAccount = account then checkedSub before fee else some before

def replayBalance (account : String) : Nat → List IndexTransactionWithId → Option Nat
  | before, [] => some before
  | before, entry :: rest =>
      (applyAccountTransaction account before entry).bind fun after =>
        replayBalance account after rest

theorem replayBalance_append (account : String) (before : Nat)
    (first second : List IndexTransactionWithId) :
    replayBalance account before (first ++ second) =
      (replayBalance account before first).bind fun middle =>
        replayBalance account middle second := by
  induction first generalizing before with
  | nil => rfl
  | cons entry first ih =>
      simp only [List.cons_append, replayBalance, Option.bind_assoc, ih]

variable {balanceAfter before live opening : Nat} {account : String}
  {history result : BackwardHistory} {left usage : Usage}
variable {value : Nat} {entry : IndexTransactionWithId}
  {replies : List (Fetched GetAccountIdentifierTransactionsResponse)}

theorem addE8s_spec (added : addE8s balanceAfter value = .ok before) :
    before = balanceAfter + value ∧ checkedSub before value = some balanceAfter := by
  unfold addE8s at added
  split at added
  · cases added
    refine ⟨rfl, ?_⟩
    rw [checkedSub_eq_some]
    omega
  · cases added

theorem subtractE8s_spec (subtracted : subtractE8s balanceAfter value = .ok before) :
    before + value = balanceAfter := by
  unfold subtractE8s at subtracted
  split at subtracted
  · cases subtracted
    omega
  · cases subtracted

theorem apply_of_invert
    (inverted : invertAccountTransaction account balanceAfter entry = .ok before) :
    applyAccountTransaction account before entry = some balanceAfter := by
  cases operation : entry.transaction.operation with
  | transfer toAccount fee fromAccount amount spender =>
      simp only [invertAccountTransaction, applyAccountTransaction, operation] at inverted ⊢
      cases sender : decide (fromAccount = account) <;>
        cases receiver : decide (toAccount = account) <;>
        simp only [sender, receiver] at inverted ⊢
      · cases inverted
        rfl
      · exact congrArg some (subtractE8s_spec inverted)
      · split at inverted
        · exact (addE8s_spec inverted).2
        · cases inverted
      · exact (addE8s_spec inverted).2
  | mint toAccount amount =>
      simp only [invertAccountTransaction, applyAccountTransaction, operation] at inverted ⊢
      split at inverted
      · rename_i receiver
        rw [if_pos receiver]
        exact congrArg some (subtractE8s_spec inverted)
      · rename_i receiver
        rw [if_neg receiver]
        cases inverted
        rfl
  | burn fromAccount amount =>
      simp only [invertAccountTransaction, applyAccountTransaction, operation] at inverted ⊢
      split at inverted
      · rename_i sender
        rw [if_pos sender]
        exact (addE8s_spec inverted).2
      · rename_i sender
        rw [if_neg sender]
        cases inverted
        rfl
  | approve fee fromAccount =>
      simp only [invertAccountTransaction, applyAccountTransaction, operation] at inverted ⊢
      split at inverted
      · rename_i sender
        rw [if_pos sender]
        exact (addE8s_spec inverted).2
      · rename_i sender
        rw [if_neg sender]
        cases inverted
        rfl

/-- A balance read, the transactions retained from it and the balance before the oldest. -/
structure Unwound (history : BackwardHistory) (live opening : Nat) : Prop where
  current : history.currentBalanceE8s = some live
  before : history.balanceBeforeOldestE8s = some opening
  replayed : replayBalance history.accountIdentifier opening history.transactions.reverse =
    some live
  descending : history.transactions.Pairwise fun newer older => older.id < newer.id
  previous : ∀ entry ∈ history.transactions,
    ∃ previous, history.previousTxId = some previous ∧ previous ≤ entry.id
  bounded : history.authoritativeLen ≤ history.transactions.length
  boundary : 0 < history.authoritativeLen →
    replayBalance history.accountIdentifier opening
        (history.transactions.drop history.authoritativeLen).reverse = some 0 ∧
      replayBalance history.accountIdentifier 0 history.authoritativeTransactions.reverse =
        some live

theorem unwound_retain (unwound : Unwound history live opening)
    (older : ∀ previous, history.previousTxId = some previous → entry.id < previous)
    (inverted : invertAccountTransaction history.accountIdentifier opening entry = .ok before) :
    Unwound (history.retainTransaction before entry) live before := by
  have applied := apply_of_invert inverted
  have extended : ∀ newer balance,
      replayBalance history.accountIdentifier opening newer.reverse = some balance →
      replayBalance history.accountIdentifier before (newer ++ [entry]).reverse =
        some balance := by
    intro newer balance replayed
    simp only [List.reverse_append, List.reverse_cons, List.reverse_nil, List.nil_append,
      List.singleton_append, replayBalance, applied, Option.bind_some]
    exact replayed
  refine ⟨unwound.current, rfl, extended _ _ unwound.replayed, ?_, ?_, ?_, ?_⟩
  · show (history.transactions ++ [entry]).Pairwise _
    rw [List.pairwise_append]
    refine ⟨unwound.descending, List.pairwise_singleton _ _, ?_⟩
    intro newer member last lastly
    rw [List.mem_singleton.mp lastly]
    rcases unwound.previous newer member with ⟨previous, known, above⟩
    exact Nat.lt_of_lt_of_le (older previous known) above
  · intro newer member
    refine ⟨entry.id, rfl, ?_⟩
    rcases List.mem_append.mp member with old | new
    · rcases unwound.previous newer old with ⟨previous, known, above⟩
      have below := older previous known
      omega
    · rw [List.mem_singleton.mp new]
  · have bounded := unwound.bounded
    simp only [BackwardHistory.retainTransaction, List.length_append, List.length_singleton]
    split <;> omega
  · intro positive
    simp only [BackwardHistory.retainTransaction, BackwardHistory.authoritativeTransactions]
      at positive ⊢
    split
    · rename_i zero
      subst zero
      have whole : (history.transactions ++ [entry]).length = history.transactions.length + 1 := by
        simp
      rw [← whole, List.drop_length, List.take_length]
      exact ⟨rfl, extended _ _ unwound.replayed⟩
    · rename_i nonzero
      rw [if_neg nonzero] at positive
      have boundary := unwound.boundary positive
      rw [List.drop_append_of_le_length unwound.bounded,
        List.take_append_of_le_length unwound.bounded]
      exact ⟨extended _ _ boundary.1, boundary.2⟩

theorem unwound_retainPage {requestedStart : Option Nat} {page : List IndexTransactionWithId}
    (unwound : Unwound history live opening)
    (retained : BackwardHistory.retainPage requestedStart history usage page =
      .ok (result, left)) :
    (∃ before, Unwound result live before) ∧
      result.accountIdentifier = history.accountIdentifier ∧
      result.exhausted = history.exhausted ∧
      result.transactions.length = history.transactions.length + page.length := by
  induction page generalizing history usage opening with
  | nil =>
      cases retained
      exact ⟨⟨opening, unwound⟩, rfl, rfl, rfl⟩
  | cons entry page ih =>
      simp only [BackwardHistory.retainPage] at retained
      rcases bind_eq_ok.mp retained with ⟨worked, _, retained⟩
      split at retained
      · cases retained
      · rename_i progressing
        rcases bind_eq_ok.mp retained with ⟨before, inverted, rest⟩
        rw [unwound.before, Option.getD_some] at inverted
        have older : ∀ previous, history.previousTxId = some previous → entry.id < previous := by
          intro previous known
          simp only [known, Option.any_some, Bool.or_eq_true, decide_eq_true_eq, not_or,
            Nat.not_le] at progressing
          exact progressing.2
        rcases ih (unwound_retain unwound older inverted) rest with
          ⟨final, account, exhausted, length⟩
        refine ⟨final, account, exhausted, ?_⟩
        simp only [BackwardHistory.retainTransaction, List.length_append,
          List.length_singleton] at length
        simp only [List.length_cons]
        omega

theorem unwound_exhaust (unwound : Unwound history live opening)
    (required : history.requireZeroOpeningBalance = .ok result) :
    Unwound result live 0 ∧ result.exhausted = true ∧
      result.authoritativeLen = result.transactions.length ∧
      result.accountIdentifier = history.accountIdentifier := by
  unfold BackwardHistory.requireZeroOpeningBalance at required
  split at required
  · rename_i zero
    have empty : opening = 0 := Option.some.inj (unwound.before.symm.trans zero)
    subst empty
    cases required
    refine ⟨⟨unwound.current, unwound.before, unwound.replayed, unwound.descending,
      unwound.previous, Nat.le_refl _, ?_⟩, rfl, rfl, rfl⟩
    intro _
    simp only [BackwardHistory.authoritativeTransactions, List.drop_length, List.take_length]
    exact ⟨rfl, unwound.replayed⟩
  · cases required

/-- What a scan may rely on: nothing was read yet, or the retained transactions are unwound. -/
def Scanned (account : String) (history : BackwardHistory) : Prop :=
  history = BackwardHistory.new account ∨
    history.accountIdentifier = account ∧ ∃ live opening, Unwound history live opening ∧
      (history.exhausted = true →
        opening = 0 ∧ history.authoritativeLen = history.transactions.length)

theorem checkBalance_unwound {balance : Nat} (scanned : Scanned account history)
    (checked : history.checkBalance balance = .ok result) :
    ∃ live opening, Unwound result live opening ∧ result.accountIdentifier = account ∧
      result.exhausted = history.exhausted ∧
      result.transactions.length = history.transactions.length := by
  rcases scanned with rfl | ⟨same, live, opening, unwound, _⟩
  · cases checked
    refine ⟨balance, balance, ⟨rfl, rfl, rfl, List.Pairwise.nil, ?_, Nat.le_refl _, ?_⟩, rfl, rfl,
      rfl⟩
    · intro entry member
      cases member
    · intro positive
      cases positive
  · simp only [BackwardHistory.checkBalance, unwound.current] at checked
    split at checked
    · cases checked
      exact ⟨live, opening, unwound, same, rfl, rfl⟩
    · cases checked

theorem extendPage_spec {page : GetAccountIdentifierTransactionsResponse}
    (scanned : Scanned account history) (open_history : history.exhausted = false)
    (extended : history.extendPage usage page = .ok (result, left)) :
    Scanned account result ∧ (result.exhausted = true ∨
      history.transactions.length < result.transactions.length) := by
  simp only [BackwardHistory.extendPage] at extended
  rcases bind_eq_ok.mp extended with ⟨checked, balanced, extended⟩
  rcases checkBalance_unwound scanned balanced with
    ⟨live, opening, unwound, same, exhausted, length⟩
  split at extended
  · rcases bind_eq_ok.mp extended with ⟨final, required, done⟩
    cases done
    rcases unwound_exhaust unwound required with ⟨settled, ended, whole, also⟩
    exact ⟨.inr ⟨also.trans same, live, 0, settled, fun _ => ⟨rfl, whole⟩⟩, .inl ended⟩
  · rename_i oldest last
    rcases bind_eq_ok.mp extended with ⟨⟨retained, spent⟩, kept, extended⟩
    rcases bind_eq_ok.mp extended with ⟨final, finished, done⟩
    cases done
    rcases unwound_retainPage unwound kept with ⟨⟨before, after⟩, account_kept, open_kept, more⟩
    have grown : history.transactions.length < retained.transactions.length := by
      have nonempty : 0 < page.transactions.length := by
        apply List.length_pos_of_ne_nil
        intro empty
        rw [empty] at last
        cases last
      omega
    simp only [BackwardHistory.finishPage] at finished
    split at finished
    · cases finished
    · split at finished
      · rcases unwound_exhaust after finished with ⟨settled, ended, whole, also⟩
        exact ⟨.inr ⟨also.trans (account_kept.trans same), live, 0, settled,
          fun _ => ⟨rfl, whole⟩⟩, .inl ended⟩
      · split at finished
        · cases finished
        · cases finished
          refine ⟨.inr ⟨account_kept.trans same, live, before,
            ⟨after.current, after.before, after.replayed, after.descending, after.previous,
              after.bounded, after.boundary⟩, ?_⟩, .inr grown⟩
          intro ended
          have still : retained.exhausted = false := (open_kept.trans exhausted).trans open_history
          rw [show retained.exhausted = true from ended] at still
          cases still

theorem extend_spec {reply : Fetched GetAccountIdentifierTransactionsResponse}
    (scanned : Scanned account history) (extended : history.extend usage reply = .ok (result, left)) :
    Scanned account result ∧ (result.exhausted = true ∨
      history.transactions.length < result.transactions.length) := by
  unfold BackwardHistory.extend at extended
  split at extended
  · rename_i exhausted
    cases extended
    exact ⟨scanned, .inl exhausted⟩
  · rename_i open_history
    rcases bind_eq_ok.mp extended with ⟨charged, _, extended⟩
    split at extended
    · cases extended
    · cases extended
    · split at extended
      · cases extended
      · split at extended
        · cases extended
        · rcases bind_eq_ok.mp extended with ⟨kept, _, extended⟩
          exact extendPage_spec scanned (by simpa using open_history) extended

theorem exhausted_stays (exhausted : history.exhausted = true)
    (extended : history.extendAll usage replies = .ok (result, left)) : result = history := by
  induction replies generalizing usage with
  | nil =>
      cases extended
      rfl
  | cons reply replies ih =>
      simp only [BackwardHistory.extendAll, BackwardHistory.extend, exhausted, if_true] at extended
      exact ih extended

theorem extendAll_spec (scanned : Scanned account history)
    (extended : history.extendAll usage replies = .ok (result, left)) :
    Scanned account result ∧ (result.exhausted = true ∨
      history.transactions.length + replies.length ≤ result.transactions.length) := by
  induction replies generalizing history usage with
  | nil =>
      cases extended
      exact ⟨scanned, .inr (Nat.le_refl _)⟩
  | cons reply replies ih =>
      simp only [BackwardHistory.extendAll] at extended
      rcases bind_eq_ok.mp extended with ⟨⟨middle, spent⟩, first, rest⟩
      rcases extend_spec scanned first with ⟨after, exhausted | grown⟩
      · have same := exhausted_stays exhausted rest
        subst same
        exact ⟨after, .inl exhausted⟩
      · rcases ih after rest with ⟨final, exhausted | more⟩
        · exact ⟨final, .inl exhausted⟩
        · refine ⟨final, .inr ?_⟩
          rw [List.length_cons]
          omega

theorem descending_length {transactions : List IndexTransactionWithId}
    (descending : transactions.Pairwise fun newer older => older.id < newer.id) :
    ∀ newest ∈ transactions.head?, transactions.length ≤ newest.id + 1 := by
  induction transactions with
  | nil =>
      intro newest impossible
      cases impossible
  | cons newest older ih =>
      intro head same
      cases same
      rw [List.pairwise_cons] at descending
      cases older with
      | nil => simp
      | cons next rest =>
          have below := descending.1 next List.mem_cons_self
          have length := ih descending.2 next rfl
          simp only [List.length_cons] at length ⊢
          omega

/-- What the index pages that a scan accepted prove about the account. -/
structure BackwardSoundness (account : String) (history : BackwardHistory) (pages : Nat) :
    Prop where
  descending : history.transactions.Pairwise fun newer older => older.id < newer.id
  replayed : ∀ live, history.currentBalanceE8s = some live →
    ∃ opening, history.balanceBeforeOldestE8s = some opening ∧
      replayBalance account opening history.transactions.reverse = some live
  exhausted : history.exhausted = true → history.balanceBeforeOldestE8s = some 0
  authoritative : history.authoritative = true →
    ∃ live opening, history.currentBalanceE8s = some live ∧
      history.balanceBeforeOldestE8s = some opening ∧
      replayBalance account opening
        (history.transactions.drop history.authoritativeLen).reverse = some 0 ∧
      replayBalance account 0 history.authoritativeTransactions.reverse = some live
  read : 0 < pages → ∃ live, history.currentBalanceE8s = some live
  progress : history.exhausted = true ∨ pages ≤ history.transactions.length
  terminates : ∀ newest ∈ history.transactions.head?,
    history.transactions.length ≤ newest.id + 1

theorem backward_history_sound (account : String) (usage left : Usage)
    (replies : List (Fetched GetAccountIdentifierTransactionsResponse))
    (history : BackwardHistory)
    (accepted : (BackwardHistory.new account).extendAll usage replies = .ok (history, left)) :
    BackwardSoundness account history replies.length := by
  rcases extendAll_spec (.inl rfl) accepted with ⟨scanned, progress⟩
  have pages : history.exhausted = true ∨ replies.length ≤ history.transactions.length := by
    rcases progress with exhausted | more
    · exact .inl exhausted
    · refine .inr ?_
      have none_before : (BackwardHistory.new account).transactions.length = 0 := rfl
      omega
  rcases scanned with rfl | ⟨rfl, live, opening, unwound, exhausted⟩
  · refine ⟨List.Pairwise.nil, nofun,
      nofun, nofun, ?_, pages,
      nofun⟩
    intro positive
    rcases pages with impossible | most
    · cases impossible
    · have none_left : (BackwardHistory.new account).transactions.length = 0 := rfl
      omega
  · refine ⟨unwound.descending, ?_, ?_, ?_, fun _ => ⟨live, unwound.current⟩, pages,
      descending_length unwound.descending⟩
    · intro balance current
      rw [unwound.current] at current
      cases current
      exact ⟨opening, unwound.before, unwound.replayed⟩
    · intro ended
      rw [unwound.before, (exhausted ended).1]
    · intro reported
      refine ⟨live, opening, unwound.current, unwound.before, ?_⟩
      simp only [BackwardHistory.authoritative, Bool.or_eq_true, decide_eq_true_eq,
        Bool.and_eq_true, List.isEmpty_iff] at reported
      rcases reported with positive | ⟨ended, empty⟩
      · exact unwound.boundary positive
      · rcases exhausted ended with ⟨rfl, whole⟩
        have replayed := unwound.replayed
        rw [BackwardHistory.authoritativeTransactions, whole, empty] at *
        exact ⟨rfl, replayed⟩

def sampleTransfer (id : Nat) (fromAccount toAccount : String) (amount fee : Nat) :
    IndexTransactionWithId :=
  ⟨id, ⟨0, none, .transfer toAccount fee fromAccount amount none, some id⟩⟩

/-- Two pages: the balance is zero below transaction 8, and again at the account's first. -/
def samplePages : List (Fetched GetAccountIdentifierTransactionsResponse) :=
  [.page ⟨30, [sampleTransfer 12 "payer" "relay" 20 1, sampleTransfer 9 "relay" "relay" 0 5,
      sampleTransfer 8 "payer" "relay" 15 1], none⟩ (some 300),
    .page ⟨30, [sampleTransfer 5 "relay" "payer" 6 1, sampleTransfer 3 "payer" "relay" 7 1],
      some 3⟩ (some 200)]

theorem backward_history_sound_pages : ∃ history : BackwardHistory,
    history.exhausted = true ∧ history.transactions.length = 5 ∧
      BackwardSoundness "relay" history 2 := by
  have accepted : (BackwardHistory.new "relay").extendAll ⟨0, 0, 0, 0⟩ samplePages =
      .ok (((BackwardHistory.new "relay").extendAll ⟨0, 0, 0, 0⟩ samplePages).toOption.getD
        (BackwardHistory.new "relay", ⟨0, 0, 0, 0⟩)) := by
    rfl
  exact ⟨_, rfl, rfl, backward_history_sound "relay" ⟨0, 0, 0, 0⟩ _ samplePages _ accepted⟩

end JupiterSuite.Relay
