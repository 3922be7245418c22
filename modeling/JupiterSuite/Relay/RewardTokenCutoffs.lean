import JupiterSuite.Relay.RewardTokenHistory

/-! The truncated replay of the reward token account gives the cutoffs of a replay from genesis. -/

namespace JupiterSuite.Relay

open Base

variable {kinds : TransactionKinds} {account : Account}
  {effect : IcrcTransactionWithId → Movement Nat}

def Supported (kinds : TransactionKinds) (account : Account) (entry : IcrcTransactionWithId) :
    Prop :=
  ∃ movement, transactionEffect kinds entry.transaction account = .ok movement

/-- The account's history from its first transaction on, oldest first. What a transaction did to
the account is what the reader makes of it, where the reader supports it. -/
structure TruthfulLedger (kinds : TransactionKinds) (account : Account)
    (effect : IcrcTransactionWithId → Movement Nat) (ledger : List IcrcTransactionWithId)
    (live : Nat) : Prop where
  faithful : ∀ entry ∈ ledger, ∀ movement,
    transactionEffect kinds entry.transaction account = .ok movement → effect entry = movement
  ascending : ledger.Pairwise fun older newer => older.id < newer.id
  small : ∀ entry ∈ ledger, entry.id ≤ u64Max
  settled : Fifo.balance 0 (ledger.map effect) = some live

/-- The last transaction that began with a balance of zero is the first one of `recent`. -/
structure LatestZero (effect : IcrcTransactionWithId → Movement Nat)
    (ledger older recent : List IcrcTransactionWithId) : Prop where
  split : ledger = older ++ recent
  empty : Fifo.balance 0 (older.map effect) = some 0
  begun : recent = [] → ledger = []
  later : ∀ first last, recent = first ++ last → first ≠ [] → last ≠ [] →
    Fifo.balance 0 ((older ++ first).map effect) ≠ some 0

theorem LatestZero.unique {ledger older older' recent recent' : List IcrcTransactionWithId}
    (zero : LatestZero effect ledger older recent) (zero' : LatestZero effect ledger older' recent') :
    older = older' ∧ recent = recent' := by
  have apart : ∀ {older older' recent recent' first : List IcrcTransactionWithId},
      LatestZero effect ledger older recent → LatestZero effect ledger older' recent' →
        older' = older ++ first → recent = first ++ recent' → first = [] := by
    intro older older' recent recent' first zero zero' longer shorter
    by_contra some_first
    by_cases begun : recent' = []
    · have none_ledger := zero'.split.symm.trans (zero'.begun begun)
      rw [longer, List.append_assoc] at none_ledger
      have := (List.append_eq_nil_iff.mp none_ledger).2
      exact some_first (List.append_eq_nil_iff.mp this).1
    · exact zero.later first recent' shorter some_first begun (longer ▸ zero'.empty)
  rcases List.append_eq_append_iff.mp (zero.split.symm.trans zero'.split) with
    ⟨first, longer, shorter⟩ | ⟨first, longer, shorter⟩
  · have empty := apart zero zero' longer shorter
    subst empty
    exact ⟨by rw [longer, List.append_nil], shorter⟩
  · have empty := apart zero' zero longer shorter
    subst empty
    exact ⟨by rw [longer, List.append_nil], shorter.symm⟩

def visible (ledger : List IcrcTransactionWithId) (start : Option Nat) :
    List IcrcTransactionWithId :=
  ledger.reverse.filter fun entry => start.all fun start => decide (entry.id < start)

/-- The index answers every start with a page of any size of what is before it. -/
structure TruthfulPage (ledger : List IcrcTransactionWithId) (live pageBytes : Nat)
    (start : Option Nat) (page : GetAccountTransactionsResponse) (bytes : Nat) : Prop where
  balance : page.balance = live
  size : page.transactions.length ≤ rewardHistoryPageSize
  bytes : bytes ≤ pageBytes
  newest : page.transactions <+: visible ledger start
  nonempty : page.transactions = [] → visible ledger start = []
  oldest : ∀ oldest, page.oldestTxId = some oldest →
    ledger.head?.map IcrcTransactionWithId.id = some oldest

def TruthfulIndex (ledger : List IcrcTransactionWithId) (live pageBytes : Nat)
    (index : Option Nat → Fetched GetAccountTransactionsResponse) : Prop :=
  ∀ start, ∃ page bytes, index start = .page page (some bytes) ∧
    TruthfulPage ledger live pageBytes start page bytes

variable {entry last : IcrcTransactionWithId} {history : BackwardRewardHistory}
  {outcome : Except String BackwardRewardHistory} {rest unread : List IcrcTransactionWithId}
  {bytes : Nat} {page : GetAccountTransactionsResponse}
  {index : Option Nat → Fetched GetAccountTransactionsResponse}

theorem unsupported_malformed (unsupported : ¬ Supported kinds account entry) :
    transactionEffect kinds entry.transaction account = .error rewardHistoryMalformed := by
  cases read : transactionEffect kinds entry.transaction account with
  | ok movement => exact absurd ⟨movement, read⟩ unsupported
  | error message =>
      unfold transactionEffect at read
      repeat' split at read
      all_goals cases read
      all_goals rfl

theorem TruthfulLedger.reads {ledger : List IcrcTransactionWithId} {live : Nat}
    (truthful : TruthfulLedger kinds account effect ledger live) (member : entry ∈ ledger)
    (supported : Supported kinds account entry) :
    transactionEffect kinds entry.transaction account = .ok (effect entry) := by
  rcases supported with ⟨movement, read⟩
  rw [read, truthful.faithful entry member movement read]

theorem latestZero_exists {ledger : List IcrcTransactionWithId} {live : Nat}
    (settled : Fifo.balance 0 (ledger.map effect) = some live) :
    ∃ older recent, LatestZero effect ledger older recent := by
  induction ledger using List.reverseRecOn generalizing live with
  | nil => exact ⟨[], [], rfl, rfl, fun _ => rfl, fun first last split some_first =>
      absurd (List.append_eq_nil_iff.mp split.symm).1 some_first⟩
  | append_singleton ledger entry ih =>
      have parts := settled
      rw [List.map_append, Fifo.balance_append] at parts
      rcases Option.bind_eq_some_iff.mp parts with ⟨before, known, _⟩
      by_cases zero : before = 0
      · subst zero
        refine ⟨ledger, [entry], rfl, known, nofun, ?_⟩
        intro first last split some_first some_last
        have lengths := congrArg List.length split
        rw [List.length_append, List.length_singleton] at lengths
        have := List.length_pos_of_ne_nil some_first
        have := List.length_pos_of_ne_nil some_last
        omega
      · rcases ih known with ⟨older, recent, zeroAt⟩
        refine ⟨older, recent ++ [entry], ?_, zeroAt.empty, by simp, ?_⟩
        · rw [zeroAt.split, List.append_assoc]
        · intro first last split some_first some_last
          rcases List.eq_nil_or_concat last with rfl | ⟨front, final, rfl⟩
          · exact absurd rfl some_last
          · rw [List.concat_eq_append, ← List.append_assoc] at split
            have whole := (List.append_inj' split rfl).1
            by_cases done : front = []
            · rw [done, List.append_nil] at whole
              rw [← whole, ← zeroAt.split, known]
              exact fun same => zero (Option.some.inj same)
            · exact zeroAt.later first front whole some_first done

section Replay

theorem spendCredits_costs {amount : Nat} {credits rest : List (Credit Nat)}
    (spent : Fifo.spend amount credits = some rest) :
    ∃ work, Costs (fun usage => BackwardRewardHistory.spendCredits usage amount credits) (.ok rest)
        ⟨0, 0, 0, work⟩ ∧ work + rest.length ≤ credits.length + 1 := by
  induction credits generalizing amount with
  | nil =>
      cases amount with
      | zero =>
          cases spent
          exact ⟨0, costs_pure _, Nat.zero_le _⟩
      | succ amount => cases spent
  | cons front credits ih =>
      cases amount with
      | zero =>
          cases spent
          exact ⟨0, costs_pure _, by simp⟩
      | succ amount =>
          simp only [Fifo.spend] at spent
          split at spent
          · rename_i whole
            rcases ih spent with ⟨work, costs, bound⟩
            refine ⟨1 + work, ?_, by rw [List.length_cons]; omega⟩
            apply (costs_work costs 1).congr
            intro usage
            simp only [BackwardRewardHistory.spendCredits, if_pos whole]
          · rename_i part
            cases spent
            refine ⟨1, ?_, by simp [Nat.add_comm]⟩
            have left := costs_pure
              ({ front with amount := front.amount - (amount + 1) } :: credits)
            apply (costs_work left 1).congr
            intro usage
            simp only [BackwardRewardHistory.spendCredits, if_neg part]

theorem replayCredits_costs {credits rest : List (Credit Nat)}
    {transactions : List IcrcTransactionWithId}
    (supported : ∀ entry ∈ transactions,
      transactionEffect kinds entry.transaction account = .ok (effect entry))
    (replayed : Fifo.replay credits (transactions.map (effect)) = some rest) :
    ∃ work, Costs
        (fun usage => BackwardRewardHistory.replayCredits kinds account usage credits transactions)
        (.ok rest) ⟨0, 0, 0, work⟩ ∧
      work + rest.length ≤ credits.length + 2 * transactions.length := by
  induction transactions generalizing credits with
  | nil =>
      cases replayed
      exact ⟨0, costs_pure _, by simp⟩
  | cons entry transactions ih =>
      have here := supported entry List.mem_cons_self
      have later : ∀ other ∈ transactions, transactionEffect kinds other.transaction account =
          .ok (effect other) := fun other member =>
        supported other (List.mem_cons_of_mem entry member)
      rw [List.map_cons] at replayed
      cases effect : effect entry with
      | credit credit =>
          rw [effect] at replayed here
          rcases ih later replayed with ⟨work, costs, bound⟩
          refine ⟨1 + work, ?_, ?_⟩
          · apply (costs_work costs 1).congr
            intro usage
            simp only [BackwardRewardHistory.replayCredits, here]
            rfl
          · have pushed : (if credit.amount = 0 then credits else credits ++ [credit]).length ≤
                credits.length + 1 := by
              split <;> simp
            rw [List.length_cons]
            omega
      | debit amount =>
          rw [effect] at replayed here
          rcases Option.bind_eq_some_iff.mp replayed with ⟨left, spent, after⟩
          rcases spendCredits_costs spent with ⟨first, firstCosts, firstBound⟩
          rcases ih later after with ⟨second, secondCosts, secondBound⟩
          refine ⟨1 + (first + second), ?_, ?_⟩
          · have both := costs_bind_work (fun credits usage =>
              BackwardRewardHistory.replayCredits kinds account usage credits transactions)
              firstCosts secondCosts
            apply (costs_work both 1).congr
            intro usage
            simp only [BackwardRewardHistory.replayCredits, here]
            rfl
          · rw [List.length_cons]
            omega

end Replay

section Unwinding

open BackwardRewardHistory (invert)

theorem invert_balance {older : List (Movement Nat)} {movement : Movement Nat} {after : Nat}
    (settled : Fifo.balance 0 (older ++ [movement]) = some after) :
    ∃ before, Fifo.balance 0 older = some before ∧ invert after movement = .ok before := by
  rw [Fifo.balance_append] at settled
  rcases Option.bind_eq_some_iff.mp settled with ⟨before, known, moved⟩
  refine ⟨before, known, ?_⟩
  cases movement with
  | credit credit =>
      cases moved
      have covers : ¬ before + credit.amount < credit.amount := by omega
      simp only [invert, if_neg covers, Nat.add_sub_cancel]
  | debit amount =>
      simp only [Fifo.balance] at moved
      split at moved
      · cases moved
        simp only [invert]
        congr
        omega
      · cases moved

def BackwardRewardHistory.consume (history : BackwardRewardHistory)
    (taken : List IcrcTransactionWithId) (balance : Nat) (found : Bool) : BackwardRewardHistory :=
  { history with
    balanceAfter := balance
    previousTxId := (taken.getLast?.map IcrcTransactionWithId.id).or history.previousTxId
    transactions := history.transactions ++ taken
    boundaryFound := found }

theorem consume_consume (history : BackwardRewardHistory)
    (first second : List IcrcTransactionWithId) (middle after : Nat) (found again : Bool) :
    (history.consume first middle found).consume second after again =
      history.consume (first ++ second) after again := by
  simp only [BackwardRewardHistory.consume, List.append_assoc, List.getLast?_append,
    BackwardRewardHistory.mk.injEq, true_and, and_true]
  cases second.getLast? <;> rfl

theorem unwind_entry {page : List IcrcTransactionWithId} {before : Nat}
    (read : transactionEffect kinds entry.transaction history.account = .ok (effect entry))
    (inverted : invert history.balanceAfter (effect entry) = .ok before)
    (open_history : history.boundaryFound = false) (usage : Usage) :
    history.unwindPage kinds usage (entry :: page) =
      usage.spendWork 1 >>= fun usage =>
        if before = 0 then .ok (history.consume [entry] 0 true, usage)
        else (history.consume [entry] before false).unwindPage kinds usage page := by
  simp only [BackwardRewardHistory.unwindPage, read]
  congr 1
  funext usage
  simp only [ok_bind, inverted]
  split
  · rename_i zero
    subst zero
    rfl
  · simp only [BackwardRewardHistory.consume, open_history]
    rfl

/-- How the unwinding of a page ends, when `unread` is what was not read of the newest epoch. -/
inductive PageUnwound (kinds : TransactionKinds) (account : Account)
    (effect : IcrcTransactionWithId → Movement Nat) (older unread : List IcrcTransactionWithId)
    (history : BackwardRewardHistory) (page : List IcrcTransactionWithId) :
    Except String BackwardRewardHistory → Prop where
  | refused (entry : IcrcTransactionWithId) (member : entry ∈ unread)
      (unsupported : ¬ Supported kinds account entry) :
      PageUnwound kinds account effect older unread history page (.error rewardHistoryMalformed)
  | boundary (supported : ∀ entry ∈ unread, Supported kinds account entry) :
      PageUnwound kinds account effect older unread history page
        (.ok (history.consume unread.reverse 0 true))
  | whole (left : List IcrcTransactionWithId) (balance : Nat) (split : unread = left ++ page.reverse)
      (pending : left ≠ []) (supported : ∀ entry ∈ page, Supported kinds account entry)
      (settled : Fifo.balance 0 ((older ++ left).map effect) = some balance) :
      PageUnwound kinds account effect older unread history page
        (.ok (history.consume page balance false))

theorem PageUnwound.cons {older front page : List IcrcTransactionWithId} {before : Nat}
    (unwound : PageUnwound kinds account effect older front (history.consume [entry] before false) page
      outcome) (supported : Supported kinds account entry) :
    PageUnwound kinds account effect older (front ++ [entry]) history (entry :: page) outcome := by
  cases unwound with
  | refused other member unsupported =>
      exact .refused other (List.mem_append_left _ member) unsupported
  | boundary others =>
      rw [consume_consume, List.singleton_append, ← List.reverse_concat]
      refine .boundary ?_
      intro other member
      rcases List.mem_append.mp member with earlier | last
      · exact others other earlier
      · exact List.mem_singleton.mp last ▸ supported
  | whole left balance split pending others settled =>
      rw [consume_consume, List.singleton_append]
      refine .whole left balance ?_ pending (List.forall_mem_cons.mpr ⟨supported, others⟩) settled
      rw [split, List.reverse_cons, List.append_assoc]

/-- By induction on the page: an entry of the epoch is unwound to a balance of zero exactly when
it is the first of the epoch. -/
theorem unwindPage_costs {older page : List IcrcTransactionWithId}
    (faithful : ∀ entry ∈ page, ∀ movement, transactionEffect kinds entry.transaction account =
      .ok movement → effect entry = movement) (owner : history.account = account)
    (cut : page ++ rest = (older ++ unread).reverse)
    (empty : Fifo.balance 0 (older.map effect) = some 0) (pending : unread ≠ [])
    (later : ∀ first last, unread = first ++ last → first ≠ [] → last ≠ [] →
      Fifo.balance 0 ((older ++ first).map effect) ≠ some 0)
    (settled : Fifo.balance 0 ((older ++ unread).map effect) = some history.balanceAfter)
    (open_history : history.boundaryFound = false) :
    ∃ outcome work, Costs (fun usage => history.unwindPage kinds usage page) outcome
        ⟨0, 0, 0, work⟩ ∧ work ≤ page.length ∧
      PageUnwound kinds account effect older unread history page outcome := by
  induction page generalizing history unread with
  | nil =>
      have same : history.consume [] history.balanceAfter false = history := by
        cases history
        simp_all [BackwardRewardHistory.consume]
      have unwound : PageUnwound kinds account effect older unread history []
          (.ok (history.consume [] history.balanceAfter false)) :=
        .whole unread _ (List.append_nil unread).symm pending (fun _ none => nomatch none) settled
      rw [same] at unwound
      exact ⟨_, 0, costs_pure history, Nat.le_refl _, unwound⟩
  | cons entry page ih =>
      rcases List.eq_nil_or_concat unread with rfl | ⟨front, last, rfl⟩
      · exact absurd rfl pending
      rw [List.concat_eq_append] at *
      rw [← List.append_assoc, List.reverse_append, List.reverse_singleton, List.cons_append,
        List.singleton_append, List.cons.injEq] at cut
      rcases cut with ⟨rfl, cut⟩
      by_cases supported : Supported kinds account entry
      · have read : transactionEffect kinds entry.transaction history.account =
            .ok (effect entry) := by
          rcases supported with ⟨movement, read⟩
          rw [owner, read, faithful entry List.mem_cons_self movement read]
        rw [← List.append_assoc, List.map_append, List.map_singleton] at settled
        rcases invert_balance settled with ⟨before, known, inverted⟩
        have step : ∀ usage, history.unwindPage kinds usage (entry :: page) = _ :=
          unwind_entry read inverted open_history
        by_cases first : front = []
        · subst first
          rw [List.append_nil, empty, Option.some.injEq] at known
          subst known
          refine ⟨_, 1, (costs_work (costs_pure (history.consume [entry] 0 true)) 1).congr ?_,
            by simp, ?_⟩
          · intro usage
            rw [step]
            rfl
          · exact .boundary (List.forall_mem_singleton.mpr supported)
        · have zero : before ≠ 0 := by
            intro none_left
            subst none_left
            exact later front [entry] rfl first (List.cons_ne_nil _ _) known
          have nested : ∀ earlier last, front = earlier ++ last → earlier ≠ [] → last ≠ [] →
              Fifo.balance 0 ((older ++ earlier).map effect) ≠ some 0 := by
            intro earlier last split some_earlier _
            refine later earlier (last ++ [entry]) ?_ some_earlier (by simp)
            rw [split, List.append_assoc]
          rcases @ih (history.consume [entry] before false) front
            (fun other member => faithful other (List.mem_cons_of_mem entry member)) owner cut first
            nested known rfl with ⟨outcome, work, costs, bound, unwound⟩
          refine ⟨outcome, 1 + work, (costs_work costs 1).congr ?_,
            by rw [List.length_cons]; omega, unwound.cons supported⟩
          intro usage
          rw [step]
          simp only [if_neg zero]
      · have refused : transactionEffect kinds entry.transaction history.account =
            .error rewardHistoryMalformed := by
          rw [owner]
          exact unsupported_malformed supported
        refine ⟨.error rewardHistoryMalformed, 1,
          (costs_work (costs_outcome (.error rewardHistoryMalformed)) 1).congr ?_, by simp,
          .refused entry (by simp) supported⟩
        intro usage
        simp only [BackwardRewardHistory.unwindPage, refused]
        rfl

theorem checkPage_costs {α : Type} {start previous : Option Nat}
    {page : List IcrcTransactionWithId} {next : Usage → Except String (α × Usage)}
    {outcome : Except String α} {cost : Usage} (small : ∀ entry ∈ page, entry.id ≤ u64Max)
    (before : ∀ entry ∈ page, start.any (fun start => decide (start ≤ entry.id)) = false)
    (after : ∀ entry ∈ page, previous.any (fun previous => decide (previous ≤ entry.id)) = false)
    (descending : page.Pairwise fun newer older => older.id < newer.id)
    (continued : Costs next outcome cost) :
    Costs (fun usage => BackwardRewardHistory.checkPage start previous usage page >>= next) outcome
      (⟨0, 0, 0, page.length⟩ + cost) := by
  induction page generalizing previous with
  | nil =>
      have same : (⟨0, 0, 0, 0⟩ : Usage) + cost = cost := by simp [Usage.add_def]
      rw [List.length_nil, same]
      exact continued
  | cons entry page ih =>
      rcases List.pairwise_cons.mp descending with ⟨below, descending⟩
      have rest := @ih (some entry.id)
        (fun other member => small other (List.mem_cons_of_mem entry member))
        (fun other member => before other (List.mem_cons_of_mem entry member))
        (fun other member => by
          have lower := below other member
          simp only [Option.any_some, decide_eq_false_iff_not]
          omega) descending
      have units : (⟨0, 0, 0, (entry :: page).length⟩ : Usage) + cost =
          ⟨0, 0, 0, 1⟩ + (⟨0, 0, 0, page.length⟩ + cost) := by
        rw [← Usage.add_assoc, List.length_cons, Nat.add_comm]
        rfl
      rw [units]
      apply (costs_charge rest 0 0 0 1).congr
      intro usage
      have inRange : ¬ u64Max < entry.id := Nat.not_lt.mpr (small entry List.mem_cons_self)
      simp only [BackwardRewardHistory.checkPage, if_neg inRange, before entry List.mem_cons_self,
        after entry List.mem_cons_self, Bool.or_self, bind_assoc]
      rfl

end Unwinding

section Reading

variable {ledger older recent : List IcrcTransactionWithId} {live pageBytes : Nat}

/-- A history that is still being read: the transactions it has not seen leave the balance that
it has unwound to. -/
structure Reading (kinds : TransactionKinds) (account : Account)
    (effect : IcrcTransactionWithId → Movement Nat) (older recent : List IcrcTransactionWithId)
    (live : Nat) (unread : List IcrcTransactionWithId) (history : BackwardRewardHistory) : Prop where
  owner : history.account = account
  balance : history.liveBalance = live
  split : recent = unread ++ history.transactions.reverse
  settled : Fifo.balance 0 ((older ++ unread).map effect) = some history.balanceAfter
  pending : unread ≠ []
  supported : ∀ entry ∈ history.transactions, Supported kinds account entry
  previous : history.previousTxId = history.transactions.getLast?.map IcrcTransactionWithId.id
  start : history.nextStart = history.previousTxId
  seen : ∀ id ∈ history.seenStarts, ∃ start, history.nextStart = some start ∧ start ≤ id
  searching : history.boundaryFound = false
  more : history.exhausted = false

theorem Reading.whole (zero : LatestZero effect ledger older recent)
    (reading : Reading kinds account effect older recent live unread history) :
    ledger = older ++ unread ++ history.transactions.reverse := by
  rw [zero.split, reading.split, List.append_assoc]

theorem visible_older {older newer : List IcrcTransactionWithId}
    (ascending : (older ++ newer.reverse).Pairwise fun first second => first.id < second.id) :
    visible (older ++ newer.reverse) (newer.getLast?.map IcrcTransactionWithId.id) =
      older.reverse := by
  rcases List.eq_nil_or_concat newer with rfl | ⟨front, last, rfl⟩
  · simp [visible]
  · rcases List.pairwise_append.mp ascending with ⟨_, within, apart⟩
    have below : ∀ entry ∈ older, entry.id < last.id := fun entry member =>
      apart entry member last (by simp)
    have above : ∀ entry ∈ front, ¬ entry.id < last.id := by
      intro entry member
      rw [List.concat_eq_append, List.reverse_append, List.reverse_singleton,
        List.singleton_append, List.pairwise_cons] at within
      exact Nat.not_lt.mpr (Nat.le_of_lt (within.1 entry (by simpa using member)))
    have dropped : front.filter (fun entry => decide (entry.id < last.id)) = [] := by
      rw [List.filter_eq_nil_iff]
      intro entry member
      simpa using above entry member
    have kept : older.reverse.filter (fun entry => decide (entry.id < last.id)) =
        older.reverse := by
      rw [List.filter_eq_self]
      intro entry member
      simpa using below entry (List.mem_reverse.mp member)
    simp [visible, List.filter_append, dropped, kept]

theorem visible_eq (truthful : TruthfulLedger kinds account effect ledger live)
    (zero : LatestZero effect ledger older recent)
    (reading : Reading kinds account effect older recent live unread history) :
    visible ledger history.nextStart = (older ++ unread).reverse := by
  have ascending := truthful.ascending
  rw [reading.whole zero] at ascending ⊢
  rw [reading.start, reading.previous]
  exact visible_older ascending

/-- A history that holds the newest epoch. -/
structure Reached (kinds : TransactionKinds) (account : Account)
    (recent : List IcrcTransactionWithId) (live : Nat) (history : BackwardRewardHistory) : Prop where
  owner : history.account = account
  balance : history.liveBalance = live
  whole : recent = history.transactions.reverse
  supported : ∀ entry ∈ history.transactions, Supported kinds account entry
  found : history.boundaryFound = true

theorem oldest_before {older page : List IcrcTransactionWithId} {first : IcrcTransactionWithId}
    (ascending : older.Pairwise fun first second => first.id < second.id)
    (cut : page ++ rest = older.reverse) (head : older.head? = some first)
    (lastly : page.getLast? = some last) :
    first.id ≤ last.id ∧ (rest ≠ [] → first.id < last.id) := by
  have parts : older = rest.reverse ++ page.reverse := by
    rw [← List.reverse_append, cut, List.reverse_reverse]
  have member : last ∈ page.reverse := List.mem_reverse.mpr (List.mem_of_getLast? lastly)
  subst parts
  cases deep : rest.reverse with
  | nil =>
      rw [deep, List.nil_append, List.head?_reverse, lastly] at head
      cases head
      have empty : rest = [] := List.reverse_eq_nil_iff.mp deep
      exact ⟨Nat.le_refl _, fun some_rest => absurd empty some_rest⟩
  | cons deepest others =>
      rw [deep] at head ascending
      cases head
      have lower := (List.pairwise_append.mp ascending).2.2 first List.mem_cons_self last member
      exact ⟨Nat.le_of_lt lower, fun _ => lower⟩

structure TokensContinue (history : BackwardRewardHistory) (older rest : List IcrcTransactionWithId)
    (page : GetAccountTransactionsResponse) (last : IcrcTransactionWithId) : Prop where
  cut : page.transactions ++ rest = older.reverse
  lastly : page.transactions.getLast? = some last
  descending : page.transactions.Pairwise fun newer older => older.id < newer.id
  small : ∀ entry ∈ page.transactions, entry.id ≤ u64Max
  below : ∀ start, history.previousTxId = some start →
    ∀ entry ∈ page.transactions, entry.id < start
  documented : ∀ id, page.oldestTxId = some id →
    id ≤ u64Max ∧ id ≤ last.id ∧ (rest ≠ [] → id < last.id)

theorem continues_of_truthful (truthful : TruthfulLedger kinds account effect ledger live)
    (zero : LatestZero effect ledger older recent)
    (reading : Reading kinds account effect older recent live unread history)
    (answer : TruthfulPage ledger live pageBytes history.nextStart page bytes) :
    ∃ rest last, TokensContinue history (older ++ unread) rest page last := by
  have shown := visible_eq truthful zero reading
  have whole := reading.whole zero
  have newest := answer.newest
  have nonempty := answer.nonempty
  rw [shown] at newest nonempty
  rcases newest with ⟨rest, cut⟩
  have some_older : older ++ unread ≠ [] := by
    intro empty
    exact reading.pending (List.append_eq_nil_iff.mp empty).2
  generalize older ++ unread = older at *
  have some_page : page.transactions ≠ [] := by
    intro empty
    exact some_older (List.reverse_eq_nil_iff.mp (nonempty empty))
  have lastly := List.getLast?_eq_some_getLast some_page
  generalize page.transactions.getLast some_page = last at lastly
  have ascending := truthful.ascending
  rw [whole] at ascending
  rcases List.pairwise_append.mp ascending with ⟨olderAscending, _, apart⟩
  have inOlder : ∀ entry ∈ page.transactions, entry ∈ older := fun entry member =>
    List.mem_reverse.mp (cut ▸ List.mem_append_left rest member)
  have inLedger : ∀ entry ∈ older, entry ∈ ledger := fun entry member =>
    whole ▸ List.mem_append_left _ member
  have descending : page.transactions.Pairwise fun newer older => older.id < newer.id := by
    have whole := List.pairwise_reverse.mpr olderAscending
    rw [← cut] at whole
    exact (List.pairwise_append.mp whole).1
  have below : ∀ start, history.previousTxId = some start →
      ∀ entry ∈ page.transactions, entry.id < start := by
    intro start known entry entryIn
    rw [reading.previous] at known
    rcases Option.map_eq_some_iff.mp known with ⟨newer, newestSeen, rfl⟩
    exact apart entry (inOlder entry entryIn) newer
      (List.mem_reverse.mpr (List.mem_of_getLast? newestSeen))
  refine ⟨rest, last, cut, lastly, descending, fun entry entryIn =>
    truthful.small entry (inLedger entry (inOlder entry entryIn)), below, ?_⟩
  · intro id known
    rcases Option.map_eq_some_iff.mp (answer.oldest id known) with ⟨first, head, rfl⟩
    have headOlder : older.head? = some first := by
      rw [whole, List.head?_append] at head
      cases front : older.head? with
      | none => exact absurd (List.head?_eq_none_iff.mp front) some_older
      | some entry =>
          rw [front, Option.some_or] at head
          exact head
    have small := truthful.small first (inLedger first (List.mem_of_mem_head? headOlder))
    exact ⟨small, oldest_before olderAscending cut headOlder lastly⟩

theorem TokensContinue.notReached {older : List IcrcTransactionWithId}
    (next : TokensContinue history older rest page last) :
    ∀ entry ∈ page.transactions,
      history.previousTxId.any (fun previous => decide (previous ≤ entry.id)) = false := by
  intro entry member
  cases known : history.previousTxId with
  | none => rfl
  | some start =>
      have lower := next.below start known entry member
      simp only [Option.any_some, decide_eq_false_iff_not]
      omega

theorem finishPage_reading {left : List IcrcTransactionWithId} {balance : Nat}
    (reading : Reading kinds account effect older recent live unread history)
    (next : TokensContinue history (older ++ unread) rest page last)
    (split : unread = left ++ page.transactions.reverse) (pending : left ≠ [])
    (supported : ∀ entry ∈ page.transactions, Supported kinds account entry)
    (settled : Fifo.balance 0 ((older ++ left).map effect) = some balance) :
    ∃ final, (history.consume page.transactions balance false).finishPage history.nextStart
        page.oldestTxId last.id = .ok final ∧
      Reading kinds account effect older recent live left final := by
  have some_rest : rest ≠ [] := by
    intro empty
    have cut := congrArg List.length next.cut
    rw [empty, split] at cut
    simp only [List.append_nil, List.length_append, List.length_reverse] at cut
    have := List.length_pos_of_ne_nil pending
    omega
  have member : last ∈ page.transactions := List.mem_of_getLast? next.lastly
  have more_left : ¬ page.oldestTxId = some last.id := by
    intro known
    exact Nat.lt_irrefl _ ((next.documented last.id known).2.2 some_rest)
  have progressing : ¬ (history.nextStart = some last.id ∨ last.id ∈ history.seenStarts) := by
    rintro (same | again)
    · exact Nat.lt_irrefl _ (next.below last.id (reading.start ▸ same) last member)
    · rcases reading.seen last.id again with ⟨start, known, above⟩
      have below := next.below start (reading.start ▸ known) last member
      omega
  have taken : (history.transactions ++ page.transactions).getLast? = some last := by
    rw [List.getLast?_append, next.lastly, Option.some_or]
  refine ⟨{ history.consume page.transactions balance false with
      seenStarts := last.id :: history.seenStarts
      nextStart := some last.id }, ?_, ?_⟩
  · simp only [BackwardRewardHistory.finishPage, if_neg more_left]
    exact if_neg progressing
  · constructor
    · exact reading.owner
    · exact reading.balance
    · rw [reading.split, split, List.append_assoc, ← List.reverse_append]
      rfl
    · exact settled
    · exact pending
    · exact List.forall_mem_append.mpr ⟨reading.supported, supported⟩
    · simp only [BackwardRewardHistory.consume, next.lastly, taken, Option.map_some,
        Option.some_or]
    · simp only [BackwardRewardHistory.consume, next.lastly, Option.map_some, Option.some_or]
    · intro id seen
      refine ⟨last.id, rfl, ?_⟩
      rcases List.mem_cons.mp seen with rfl | earlier
      · exact Nat.le_refl _
      · rcases reading.seen id earlier with ⟨start, known, above⟩
        have below := next.below start (reading.start ▸ known) last member
        omega
    · rfl
    · exact reading.more

/-- What a truthful page makes of a history that is still being read. -/
inductive Replayed (kinds : TransactionKinds) (account : Account)
    (effect : IcrcTransactionWithId → Movement Nat) (older recent : List IcrcTransactionWithId)
    (live : Nat) (unread : List IcrcTransactionWithId) (shown : Nat) :
    Except String BackwardRewardHistory → Prop where
  | refused (unsupported : ∃ entry ∈ recent, ¬ Supported kinds account entry) :
      Replayed kinds account effect older recent live unread shown (.error rewardHistoryMalformed)
  | reached {next : BackwardRewardHistory} (reached : Reached kinds account recent live next) :
      Replayed kinds account effect older recent live unread shown (.ok next)
  | reading {next : BackwardRewardHistory} {left : List IcrcTransactionWithId}
      (reading : Reading kinds account effect older recent live left next)
      (fewer : left.length + shown = unread.length) :
      Replayed kinds account effect older recent live unread shown (.ok next)

/-- What is left of a page's processing once it is unwound. -/
theorem unwound_turned (reading : Reading kinds account effect older recent live unread history)
    (next : TokensContinue history (older ++ unread) rest page last)
    (unwound : PageUnwound kinds account effect older unread history page.transactions outcome) :
    ∃ final, Replayed kinds account effect older recent live unread page.transactions.length final ∧
      (outcome >>= fun history' =>
        if history'.boundaryFound then .ok history'
        else history'.finishPage history'.nextStart page.oldestTxId last.id) = final := by
  cases unwound with
  | refused entry member unsupported =>
      exact ⟨_, .refused ⟨entry, reading.split ▸ List.mem_append_left _ member, unsupported⟩, rfl⟩
  | boundary supported =>
      refine ⟨_, .reached ?_, rfl⟩
      constructor
      · exact reading.owner
      · exact reading.balance
      · rw [reading.split]
        simp [BackwardRewardHistory.consume]
      · refine List.forall_mem_append.mpr ⟨reading.supported, ?_⟩
        intro entry member
        exact supported entry (List.mem_reverse.mp member)
      · rfl
  | whole left balance split pending supported settled =>
      rcases finishPage_reading reading next split pending supported settled with
        ⟨final, finished, stillReading⟩
      refine ⟨.ok final, .reading stillReading ?_, finished⟩
      rw [split, List.length_append, List.length_reverse]

theorem extendPage_costs (truthful : TruthfulLedger kinds account effect ledger live)
    (zero : LatestZero effect ledger older recent)
    (reading : Reading kinds account effect older recent live unread history)
    (answer : TruthfulPage ledger live pageBytes history.nextStart page bytes) :
    ∃ outcome work, Costs (fun usage => history.extendPage kinds usage page) outcome
        ⟨0, 0, 0, work⟩ ∧ work ≤ 2 * page.transactions.length ∧
      0 < page.transactions.length ∧
      page.transactions.length ≤ (older ++ unread).length ∧
      Replayed kinds account effect older recent live unread page.transactions.length outcome := by
  rcases continues_of_truthful truthful zero reading answer with ⟨rest, last, next⟩
  have lengths : page.transactions.length + rest.length = (older ++ unread).length := by
    rw [← List.length_append, next.cut, List.length_reverse]
  have shown : 0 < page.transactions.length :=
    List.length_pos_of_mem (List.mem_of_getLast? next.lastly)
  have faithful : ∀ entry ∈ page.transactions, ∀ movement,
      transactionEffect kinds entry.transaction account = .ok movement →
        effect entry = movement := by
    intro entry member
    have known : entry ∈ older ++ unread :=
      List.mem_reverse.mp (next.cut ▸ List.mem_append_left rest member)
    exact truthful.faithful entry (reading.whole zero ▸ List.mem_append_left _ known)
  have later : ∀ first last, unread = first ++ last → first ≠ [] → last ≠ [] →
      Fifo.balance 0 ((older ++ first).map effect) ≠ some 0 := by
    intro first last split some_first some_last
    refine zero.later first (last ++ history.transactions.reverse) ?_ some_first (by simp [some_last])
    rw [reading.split, split, List.append_assoc]
  rcases unwindPage_costs faithful reading.owner next.cut zero.empty reading.pending later
    reading.settled reading.searching with ⟨middle, work, costs, bound, unwound⟩
  rcases unwound_turned reading next unwound with ⟨final, turned, finished⟩
  have documentedSmall : page.oldestTxId.any (fun id => decide (u64Max < id)) = false := by
    cases known : page.oldestTxId with
    | none => rfl
    | some id => simpa using (next.documented id known).1
  have documentedOlder : page.oldestTxId.any (fun id => decide (last.id < id)) = false := by
    cases known : page.oldestTxId with
    | none => rfl
    | some id => simpa using (next.documented id known).2.1
  have after := costs_then (fun history' : BackwardRewardHistory =>
    if history'.boundaryFound then .ok history'
    else history'.finishPage history'.nextStart page.oldestTxId last.id) costs
  rw [finished] at after
  have whole := checkPage_costs next.small next.notReached next.notReached next.descending after
  refine ⟨final, page.transactions.length + work, whole.congr ?_, by omega, shown, by omega,
    turned⟩
  intro usage
  have balanced : ¬ page.balance ≠ history.liveBalance := by
    rw [answer.balance, reading.balance]
    exact not_not.mpr rfl
  simp only [BackwardRewardHistory.extendPage, if_neg balanced, next.lastly, reading.start,
    documentedSmall, documentedOlder, if_false, Bool.false_eq_true]
  congr 1
  funext usage
  congr 1
  funext result
  rcases result with ⟨history', usage⟩
  dsimp only
  split
  · rfl
  · cases history'.finishPage history'.nextStart page.oldestTxId last.id <;> rfl

theorem extend_costs (truthful : TruthfulLedger kinds account effect ledger live)
    (zero : LatestZero effect ledger older recent)
    (reading : Reading kinds account effect older recent live unread history)
    (answer : TruthfulPage ledger live pageBytes history.nextStart page bytes) :
    ∃ outcome work, Costs (fun usage => history.extend kinds usage (.page page (some bytes)))
        outcome ⟨1, page.transactions.length, bytes, work⟩ ∧
      work ≤ 3 * page.transactions.length ∧
      0 < page.transactions.length ∧ page.transactions.length ≤ (older ++ unread).length ∧
      Replayed kinds account effect older recent live unread page.transactions.length outcome := by
  rcases extendPage_costs truthful zero reading answer with
    ⟨outcome, work, costs, bound, shown, within, turned⟩
  have retained := costs_charge (costs_charge costs 0 page.transactions.length bytes
    page.transactions.length) 1 0 0 0
  simp only [Usage.add_def, Nat.zero_add, Nat.add_zero] at retained
  refine ⟨outcome, page.transactions.length + work, retained.congr ?_, by omega, shown, within,
    turned⟩
  intro usage
  have fitting : ¬ rewardHistoryPageSize < page.transactions.length := Nat.not_lt.mpr answer.size
  simp only [BackwardRewardHistory.extend, reading.searching, reading.more, if_neg fitting,
    Bool.or_self, Bool.false_eq_true, if_false]
  rfl

theorem ledger_credits (truthful : TruthfulLedger kinds account effect ledger live) :
    ∃ credits, Fifo.replay [] (ledger.map effect) = some credits ∧ Fifo.total credits = live ∧
      Fifo.Positive credits := by
  have nothing : Fifo.Positive ([] : List (Credit Nat)) := by
    intro credit member
    cases member
  have start : Fifo.balance (Fifo.total ([] : List (Credit Nat))) (ledger.map effect) =
      some live := truthful.settled
  rcases Fifo.replay_of_balance start with ⟨credits, replayed, total⟩
  exact ⟨credits, replayed, total, Fifo.replay_positive nothing replayed⟩

/-- What a scan comes to, given what a replay of the whole ledger leaves. -/
inductive Verdict (kinds : TransactionKinds) (account : Account)
    (recent : List IcrcTransactionWithId) (credits : List (Credit Nat)) :
    Except String (List Nat) → Prop where
  | malformed (unsupported : ∃ entry ∈ recent, ¬ Supported kinds account entry) :
      Verdict kinds account recent credits (.error rewardHistoryMalformed)
  | nothingLeft (supported : ∀ entry ∈ recent, Supported kinds account entry)
      (empty : credits = []) :
      Verdict kinds account recent credits (.error rewardHistoryNotCaughtUp)
  | cutoffs (supported : ∀ entry ∈ recent, Supported kinds account entry)
      (unspent : credits ≠ []) :
      Verdict kinds account recent credits (.ok (BackwardRewardHistory.sortedCutoffs credits))

variable {credits : List (Credit Nat)}

theorem judged_costs (supported : ∀ entry ∈ recent, Supported kinds account entry)
    (total : Fifo.total credits = history.liveBalance) :
    ∃ outcome work, Verdict kinds account recent credits outcome ∧
      Costs (fun usage =>
        if Fifo.total credits ≠ history.liveBalance then .error rewardHistoryNotCaughtUp
        else if credits.isEmpty then .error rewardHistoryNotCaughtUp
        else usage.spendWork (credits.length * (1 + Nat.log2 credits.length)) >>= fun usage =>
          .ok (BackwardRewardHistory.sortedCutoffs credits, usage)) outcome ⟨0, 0, 0, work⟩ ∧
      work ≤ credits.length * (1 + Nat.log2 credits.length) := by
  have same : ¬ Fifo.total credits ≠ history.liveBalance := not_not.mpr total
  by_cases empty : credits = []
  · subst empty
    refine ⟨_, 0, .nothingLeft supported rfl,
      (costs_outcome (.error rewardHistoryNotCaughtUp)).congr ?_, Nat.zero_le _⟩
    intro usage
    rw [if_neg same]
    rfl
  · have some_credits : credits.isEmpty = false := List.isEmpty_eq_false_iff.mpr empty
    have sorted := costs_work (costs_pure (BackwardRewardHistory.sortedCutoffs credits))
      (credits.length * (1 + Nat.log2 credits.length))
    refine ⟨_, _, .cutoffs supported empty, sorted.congr ?_, Nat.le_refl _⟩
    intro usage
    rw [if_neg same, some_credits]
    rfl

/-- From the boundary on, the forward replay leaves the same credits as from the first
transaction. -/
theorem cutoffs_costs (truthful : TruthfulLedger kinds account effect ledger live)
    (zero : LatestZero effect ledger older recent)
    (replayed : Fifo.replay [] (ledger.map effect) = some credits)
    (total : Fifo.total credits = live) (reached : Reached kinds account recent live history) :
    ∃ outcome work, Verdict kinds account recent credits outcome ∧
      Costs (history.cutoffs kinds) outcome ⟨0, 0, 0, work⟩ ∧
      work ≤ 2 * ledger.length + credits.length * (1 + Nat.log2 credits.length) := by
  have supported : ∀ entry ∈ recent, Supported kinds account entry := by
    intro entry member
    rw [reached.whole] at member
    exact reached.supported entry (List.mem_reverse.mp member)
  have reads : ∀ entry ∈ recent,
      transactionEffect kinds entry.transaction account = .ok (effect entry) := by
    intro entry member
    have known : entry ∈ ledger := zero.split ▸ List.mem_append_right _ member
    exact truthful.reads known (supported entry member)
  rw [zero.split, List.map_append, Fifo.replay_from_zero zero.empty] at replayed
  rcases replayCredits_costs reads replayed with ⟨replaying, costs, bound⟩
  rcases judged_costs supported (total.trans reached.balance.symm) with
    ⟨outcome, judging, verdict, judged, few⟩
  have recentBound : recent.length ≤ ledger.length := by
    rw [zero.split, List.length_append]
    exact Nat.le_add_left _ _
  have both := costs_bind_work (fun (credits : List (Credit Nat)) usage =>
    if Fifo.total credits ≠ history.liveBalance then .error rewardHistoryNotCaughtUp
    else if credits.isEmpty then .error rewardHistoryNotCaughtUp
    else usage.spendWork (credits.length * (1 + Nat.log2 credits.length)) >>= fun usage =>
      .ok (BackwardRewardHistory.sortedCutoffs credits, usage)) costs judged
  refine ⟨outcome, _, verdict, both.congr ?_, ?_⟩
  · intro usage
    have searched : (!history.boundaryFound && !history.exhausted) = false := by
      rw [reached.found]
      rfl
    simp only [BackwardRewardHistory.cutoffs, searched, reached.owner, ← reached.whole]
    rfl
  · rw [List.length_nil] at bound
    omega

theorem scanCutoffs_step {cost : Usage} {fuel : Nat}
    {rest : Usage → Except String (List Nat × Usage)}
    (searching : (history.boundaryFound || history.exhausted) = false)
    (costs : Costs (fun usage => history.extend kinds usage (index history.nextStart)) outcome cost)
    (continued : ∀ next, outcome = .ok next → ∀ usage, usage.Fits →
      BackwardRewardHistory.scanCutoffs kinds index fuel next usage = some (rest usage))
    (usage : Usage) (fits : usage.Fits) :
    BackwardRewardHistory.scanCutoffs kinds index (fuel + 1) history usage =
      some (history.extend kinds usage (index history.nextStart) >>= fun result =>
        rest result.2) := by
  simp only [BackwardRewardHistory.scanCutoffs, searching, Bool.false_eq_true, if_false]
  by_cases covered : (usage + cost).Fits
  · have extended := (costs usage).1 covered
    dsimp only at extended
    rw [extended]
    cases outcome with
    | error message => rfl
    | ok next => exact continued next rfl _ covered
  · have refused := (costs usage).2 covered fits
    dsimp only at refused
    rw [refused]
    rfl

/-- The scan reads the account back to the boundary, or to the first transaction that it does not
support; the induction is on what is not read yet. -/
theorem scanCutoffs_costs (truthful : TruthfulLedger kinds account effect ledger live)
    (zero : LatestZero effect ledger older recent)
    (replayed : Fifo.replay [] (ledger.map effect) = some credits)
    (total : Fifo.total credits = live) (answers : TruthfulIndex ledger live pageBytes index)
    (reading : Reading kinds account effect older recent live unread history) :
    ∃ outcome computation cost, Verdict kinds account recent credits outcome ∧
      Costs computation outcome cost ∧
      cost.calls ≤ (older ++ unread).length ∧ cost.records ≤ (older ++ unread).length ∧
      cost.bytes ≤ cost.calls * pageBytes ∧
      cost.work ≤ 3 * (older ++ unread).length + 2 * ledger.length +
        credits.length * (1 + Nat.log2 credits.length) ∧
      ∀ fuel usage, (older ++ unread).length + 1 < fuel → usage.Fits →
        BackwardRewardHistory.scanCutoffs kinds index fuel history usage =
          some (computation usage) := by
  generalize remaining : unread.length = count
  induction count using Nat.strongRecOn generalizing unread history with
  | ind count ih =>
      rcases answers history.nextStart with ⟨page, bytes, answered, answer⟩
      rcases extend_costs truthful zero reading answer with
        ⟨extended, work, costs, bound, shown, within, turned⟩
      have searching : (history.boundaryFound || history.exhausted) = false := by
        rw [reading.searching, reading.more]
        rfl
      have pageBound := answer.bytes
      rw [← answered] at costs
      cases turned with
      | refused unsupported =>
          refine ⟨_, _, _, .malformed unsupported,
            costs_failed (fun _ => .error rewardHistoryMalformed) costs, ?_, within, ?_, ?_, ?_⟩
          · dsimp only
            omega
          · simpa using pageBound
          · dsimp only
            omega
          · intro fuel usage enough fits
            rcases fuel with _ | fuel
            · omega
            · exact @scanCutoffs_step kinds history _ index _ fuel
                (fun _ => .error rewardHistoryMalformed) searching costs
                (fun _ read => nomatch read) usage fits
      | @reached next reached =>
          rcases cutoffs_costs truthful zero replayed total reached with
            ⟨outcome, sorting, verdict, sorted, sortBound⟩
          have both := costs_bind
            (fun (_ : BackwardRewardHistory) usage => next.cutoffs kinds usage) costs sorted
          refine ⟨outcome, _, _, verdict, both, ?_, ?_, ?_, ?_, ?_⟩
          · simp only [Usage.add_def]
            omega
          · simp only [Usage.add_def]
            omega
          · simp only [Usage.add_def]
            omega
          · simp only [Usage.add_def]
            omega
          · intro fuel usage enough fits
            rcases fuel with _ | _ | fuel
            · omega
            · omega
            · apply scanCutoffs_step searching costs _ usage fits
              intro _ read usage _
              cases read
              simp only [BackwardRewardHistory.scanCutoffs, reached.found, Bool.true_or, if_true]
      | @reading next left stillReading fewer =>
          rcases ih left.length (by omega) stillReading rfl with
            ⟨outcome, scan, cost, verdict, scanned, calls, records, read, worked, continued⟩
          have both := costs_bind (fun (_ : BackwardRewardHistory) usage => scan usage) costs scanned
          rw [List.length_append] at *
          refine ⟨outcome, _, _, verdict, both, ?_, ?_, ?_, ?_, ?_⟩
          · simp only [Usage.add_def]
            omega
          · simp only [Usage.add_def]
            omega
          · simp only [Usage.add_def, Nat.add_mul, Nat.one_mul]
            omega
          · simp only [Usage.add_def]
            omega
          · intro fuel usage enough fits
            rcases fuel with _ | fuel
            · omega
            · apply scanCutoffs_step searching costs _ usage fits
              intro _ known usage fits
              cases known
              exact continued fuel usage (by omega) fits

/-- An account without transactions is read in one call. -/
theorem scan_nothing (truthful : TruthfulLedger kinds account effect [] live)
    (answers : TruthfulIndex [] live pageBytes index) :
    ∃ computation cost,
      Costs computation (.error rewardHistoryNotCaughtUp) cost ∧
      cost.calls = 1 ∧ cost.records = 0 ∧ cost.bytes ≤ pageBytes ∧ cost.work = 0 ∧
      ∀ fuel usage, 1 < fuel → usage.Fits →
        BackwardRewardHistory.scanCutoffs kinds index fuel
          (BackwardRewardHistory.new account live) usage = some (computation usage) := by
  have settled := truthful.settled
  cases settled
  rcases answers none with ⟨page, bytes, answered, answer⟩
  have nothing : page.transactions = [] := List.prefix_nil.mp answer.newest
  have read : Costs (fun usage => (BackwardRewardHistory.new account 0).extend kinds usage
      (index none)) (.ok { BackwardRewardHistory.new account 0 with exhausted := true })
      ⟨1, 0, bytes, 0⟩ := by
    have charged := costs_charge (costs_charge (costs_pure
      { BackwardRewardHistory.new account 0 with exhausted := true }) 0 0 bytes 0) 1 0 0 0
    simp only [Usage.add_def, Nat.zero_add, Nat.add_zero] at charged
    apply charged.congr
    intro usage
    rw [answered]
    simp only [BackwardRewardHistory.extend, BackwardRewardHistory.extendPage,
      BackwardRewardHistory.new, answer.balance, nothing]
    rfl
  refine ⟨_, ⟨1, 0, bytes, 0⟩, costs_bind (fun (_ : BackwardRewardHistory) usage =>
    { BackwardRewardHistory.new account 0 with exhausted := true }.cutoffs kinds usage) read
    (costs_outcome (.error rewardHistoryNotCaughtUp)), rfl, rfl, answer.bytes, rfl, ?_⟩
  intro fuel usage enough fits
  rcases fuel with _ | _ | fuel
  · omega
  · omega
  · apply scanCutoffs_step rfl read _ usage fits
    intro _ known usage _
    cases known
    rfl

theorem sortedCutoffs_strict (credits : List (Credit Nat)) :
    (BackwardRewardHistory.sortedCutoffs credits).Pairwise (· < ·) := by
  have sorted := List.pairwise_insertionSort (· ≤ ·) (credits.map Credit.tag)
  have kept := sorted.sublist (List.dedup_sublist _)
  have distinct := List.nodup_dedup ((credits.map Credit.tag).insertionSort (· ≤ ·))
  exact (kept.and distinct).imp fun both => Nat.lt_of_le_of_ne both.1 both.2

theorem mem_sortedCutoffs {timestamp : Nat} :
    timestamp ∈ BackwardRewardHistory.sortedCutoffs credits ↔
      ∃ credit ∈ credits, credit.tag = timestamp := by
  simp only [BackwardRewardHistory.sortedCutoffs, List.mem_dedup, List.mem_insertionSort,
    List.mem_map]

/-- The outcome against a replay of the whole ledger, whose unspent parts are what is left of all
credits when all debits have used up the oldest. Only the transactions of the newest epoch,
`recent`, have to be supported. -/
structure CutoffsSound (kinds : TransactionKinds) (account : Account)
    (effect : IcrcTransactionWithId → Movement Nat) (ledger recent : List IcrcTransactionWithId)
    (live : Nat) (credits : List (Credit Nat)) (outcome : Except String (List Nat)) : Prop where
  replayed : Fifo.replay [] (ledger.map effect) = some credits
  oldestSpent : Fifo.spend (Fifo.debited (ledger.map effect))
    (Fifo.credited (ledger.map effect)) = some credits
  positive : Fifo.Positive credits
  total : Fifo.total credits = live
  sorted : (BackwardRewardHistory.sortedCutoffs credits).Pairwise (· < ·)
  timestamps : ∀ timestamp, timestamp ∈ BackwardRewardHistory.sortedCutoffs credits ↔
    ∃ credit ∈ credits, credit.tag = timestamp
  cutoffs : (∀ entry ∈ recent, Supported kinds account entry) → live ≠ 0 →
    outcome = .ok (BackwardRewardHistory.sortedCutoffs credits)
  nothingLeft : (∀ entry ∈ recent, Supported kinds account entry) → live = 0 →
    outcome = .error rewardHistoryNotCaughtUp
  malformed : (∃ entry ∈ recent, ¬ Supported kinds account entry) →
    outcome = .error rewardHistoryMalformed

theorem cutoffs_sound {outcome : Except String (List Nat)}
    (replayed : Fifo.replay [] (ledger.map effect) = some credits)
    (total : Fifo.total credits = live) (positive : Fifo.Positive credits)
    (verdict : Verdict kinds account recent credits outcome) :
    CutoffsSound kinds account effect ledger recent live credits outcome := by
  have unspent : credits = [] ↔ live = 0 := by
    constructor
    · rintro rfl
      exact total.symm
    · intro zero
      exact Fifo.eq_nil_of_total positive (total.trans zero)
  constructor
  · exact replayed
  · have spent := Fifo.replay_eq_spend replayed
    rw [List.nil_append] at spent
    exact spent
  · exact positive
  · exact total
  · exact sortedCutoffs_strict credits
  · exact fun _ => mem_sortedCutoffs
  · intro supported some_live
    cases verdict with
    | malformed unsupported =>
        rcases unsupported with ⟨entry, member, unsupported⟩
        exact absurd (supported entry member) unsupported
    | nothingLeft _ empty => exact absurd (unspent.mp empty) some_live
    | cutoffs _ _ => rfl
  · intro supported none_live
    cases verdict with
    | malformed unsupported =>
        rcases unsupported with ⟨entry, member, unsupported⟩
        exact absurd (supported entry member) unsupported
    | nothingLeft _ _ => rfl
    | cutoffs _ some_credits => exact absurd (unspent.mpr none_live) some_credits
  · rintro ⟨entry, member, unsupported⟩
    cases verdict with
    | malformed _ => rfl
    | nothingLeft supported _ => exact absurd (supported entry member) unsupported
    | cutoffs supported _ => exact absurd (supported entry member) unsupported

def indexPages (ledger : List IcrcTransactionWithId) (live size bytes : Nat)
    (start : Option Nat) : Fetched GetAccountTransactionsResponse :=
  .page
    { balance := live
      transactions := (visible ledger start).take size
      oldestTxId := ledger.head?.map IcrcTransactionWithId.id }
    (some bytes)

theorem indexPages_truthful {size : Nat} (some_size : 0 < size)
    (allowed : size ≤ rewardHistoryPageSize) :
    TruthfulIndex ledger live bytes (indexPages ledger live size bytes) := by
  intro start
  refine ⟨_, bytes, rfl, ⟨rfl, ?_, Nat.le_refl _, List.take_prefix _ _, ?_, fun _ known => known⟩⟩
  · exact Nat.le_trans (List.length_take_le _ _) allowed
  · intro empty
    rcases List.take_eq_nil_iff.mp empty with none_asked | nothing
    · omega
    · exact nothing

/-- Whatever the size of the pages, the scan that stops at the latest balance of zero comes to what
a replay of the whole ledger says, within the budget or with the budget's error. -/
theorem cutoffs_of_whole_ledger
    {index : Option Nat → Fetched GetAccountTransactionsResponse}
    (truthful : TruthfulLedger kinds account effect ledger live)
    (answers : TruthfulIndex ledger live pageBytes index) :
    ∃ older recent credits outcome cost,
      LatestZero effect ledger older recent ∧
      CutoffsSound kinds account effect ledger recent live credits outcome ∧
      cost.calls ≤ max 1 ledger.length ∧ cost.records ≤ ledger.length ∧
      cost.bytes ≤ cost.calls * pageBytes ∧
      cost.work ≤ 5 * ledger.length + credits.length * (1 + Nat.log2 credits.length) ∧
      ∀ fuel usage, ledger.length + 1 < fuel → usage.Fits →
        ((usage + cost).Fits →
          rewardPotCutoffsBounded kinds index account live fuel usage =
            some (outcome.map fun cutoffs => (cutoffs, usage + cost))) ∧
        (¬ (usage + cost).Fits →
          rewardPotCutoffsBounded kinds index account live fuel usage =
            some (.error rewardWorkBudgetExhausted)) := by
  rcases latestZero_exists truthful.settled with ⟨older, recent, zero⟩
  rcases ledger_credits truthful with ⟨credits, replayed, total, positive⟩
  have scanned : ∃ outcome computation cost, Verdict kinds account recent credits outcome ∧
      Costs computation outcome cost ∧ cost.calls ≤ max 1 ledger.length ∧
      cost.records ≤ ledger.length ∧ cost.bytes ≤ cost.calls * pageBytes ∧
      cost.work ≤ 5 * ledger.length + credits.length * (1 + Nat.log2 credits.length) ∧
      ∀ fuel usage, ledger.length + 1 < fuel → usage.Fits →
        rewardPotCutoffsBounded kinds index account live fuel usage =
          some (computation usage) := by
    by_cases begun : recent = []
    · have none_ledger := zero.begun begun
      subst begun none_ledger
      cases replayed
      rcases scan_nothing truthful answers with
        ⟨computation, cost, costs, calls, records, bytes, worked, scanned⟩
      refine ⟨_, computation, cost, .nothingLeft (fun _ none => nomatch none) rfl, costs, ?_, ?_, ?_,
        ?_, fun fuel usage enough fits => scanned fuel usage enough fits⟩
      · omega
      · omega
      · rw [calls, Nat.one_mul]
        exact bytes
      · omega
    · have reading : Reading kinds account effect older recent live recent
          (BackwardRewardHistory.new account live) := by
        constructor
        · rfl
        · rfl
        · exact (List.append_nil recent).symm
        · rw [← zero.split]
          exact truthful.settled
        · exact begun
        · intro entry member
          cases member
        · rfl
        · rfl
        · intro id seen
          cases seen
        · rfl
        · rfl
      rcases scanCutoffs_costs truthful zero replayed total answers reading with
        ⟨outcome, computation, cost, verdict, costs, calls, records, bytes, worked, scanned⟩
      rw [← zero.split] at calls records worked scanned
      exact ⟨outcome, computation, cost, verdict, costs, by omega, records, bytes, by omega,
        scanned⟩
  rcases scanned with
    ⟨outcome, computation, cost, verdict, costs, calls, records, bytes, worked, scanned⟩
  refine ⟨older, recent, credits, outcome, cost, zero, cutoffs_sound replayed total positive verdict,
    calls, records, bytes, worked, ?_⟩
  intro fuel usage enough fits
  rw [scanned fuel usage enough fits]
  constructor
  · intro covered
    rw [(costs usage).1 covered]
  · intro exceeds
    rw [(costs usage).2 exceeds fits]

end Reading

section Samples

def sampleKinds : TransactionKinds := ⟨"mint", "transfer", "authorized_mint"⟩

def samplePot : Account := ⟨⟨[1]⟩, none⟩

def sampleMint (id amount timestamp : Nat) : IcrcTransactionWithId :=
  ⟨id, ⟨"mint", some ⟨amount, samplePot, none⟩, none, none, none, false, none, none, timestamp⟩⟩

def samplePayment (toAccount : Account) (id amount timestamp : Nat) : IcrcTransactionWithId :=
  ⟨id, ⟨"transfer", none, none, some ⟨amount, samplePot, toAccount, none, some 1⟩, none, false,
    none, none, timestamp⟩⟩

/-- A transfer of the pot to itself only costs it the fee. -/
def sampleEffect (entry : IcrcTransactionWithId) : Movement Nat :=
  ((transactionEffect sampleKinds entry.transaction samplePot).toOption).getD (.debit 1)

/-- A pot that paid itself before it was empty. -/
def sampleLedger : List IcrcTransactionWithId :=
  [sampleMint 1 6 100, samplePayment samplePot 2 3 105, samplePayment ⟨⟨[2]⟩, none⟩ 3 4 110,
    sampleMint 4 7 120, sampleMint 5 4 120, samplePayment ⟨⟨[2]⟩, none⟩ 6 3 130]

theorem sampleLedger_truthful {ledger : List IcrcTransactionWithId} {live : Nat}
    (ascending : ledger.Pairwise fun older newer => older.id < newer.id)
    (small : ∀ entry ∈ ledger, entry.id ≤ u64Max)
    (settled : Fifo.balance 0 (ledger.map sampleEffect) = some live) :
    TruthfulLedger sampleKinds samplePot sampleEffect ledger live where
  faithful := by
    intro entry _ movement read
    simp only [sampleEffect, read, Except.toOption, Option.getD_some]
  ascending := ascending
  small := small
  settled := settled

theorem sampleLedger_latestZero :
    LatestZero sampleEffect sampleLedger (sampleLedger.take 3) (sampleLedger.drop 3) where
  split := rfl
  empty := rfl
  begun := fun none => nomatch none
  later := by
    intro first last split some_first some_last
    rcases first with _ | ⟨_, _ | ⟨_, _ | ⟨_, first⟩⟩⟩
    · exact absurd rfl some_first
    · cases split
      decide
    · cases split
      decide
    · cases List.append_eq_nil_iff.mp (congrArg (List.drop 3) split).symm with
      | intro _ none_last => exact absurd none_last some_last

theorem cutoffs_of_sampleLedger : ∃ usage,
    rewardPotCutoffsBounded sampleKinds (indexPages sampleLedger 7 2 100) samplePot 7 8
      ⟨0, 0, 0, 0⟩ = some (.ok ([120], usage)) := by
  have answers : TruthfulIndex sampleLedger 7 100 (indexPages sampleLedger 7 2 100) :=
    indexPages_truthful (by decide) (by decide)
  rcases cutoffs_of_whole_ledger (sampleLedger_truthful (by decide) (by decide) rfl) answers with
    ⟨older, recent, credits, outcome, cost, zero, sound, calls, records, read, worked, scanned⟩
  rcases zero.unique sampleLedger_latestZero with ⟨rfl, rfl⟩
  have unspent : Fifo.replay [] (sampleLedger.map sampleEffect) =
      some [⟨120, 3⟩, ⟨120, 4⟩] := by rfl
  cases unspent.symm.trans sound.replayed
  have supported : ∀ entry ∈ sampleLedger.drop 3, Supported sampleKinds samplePot entry := by
    intro entry member
    simp only [sampleLedger, List.drop, List.mem_cons, List.not_mem_nil, or_false] at member
    rcases member with rfl | rfl | rfl
    all_goals exact ⟨_, rfl⟩
  cases sound.cutoffs supported (by decide)
  have sorting : 5 * sampleLedger.length + [(⟨120, 3⟩ : Credit Nat), ⟨120, 4⟩].length *
      (1 + Nat.log2 [(⟨120, 3⟩ : Credit Nat), ⟨120, 4⟩].length) = 34 := by decide
  have six : sampleLedger.length = 6 := by rfl
  have fits : (⟨0, 0, 0, 0⟩ + cost : Usage).Fits := by
    constructor <;> simp only [Usage.add_def, maxCalls, maxRecords, maxHistoryBytes, maxWork] <;>
      omega
  exact ⟨_, (scanned 8 ⟨0, 0, 0, 0⟩ (by decide) ⟨by decide, by decide, by decide, by decide⟩).1
    fits⟩

/-- What the scan refuses: an account with nothing left, for which a replay leaves no credit, and
a transfer of the account to itself, which only costs it the fee. -/
theorem cutoffs_refused :
    (∃ ledger, TruthfulLedger sampleKinds samplePot sampleEffect ledger 0 ∧
      TruthfulIndex ledger 0 100 (indexPages ledger 0 2 100) ∧
      Fifo.replay [] (ledger.map sampleEffect) = some [] ∧
      rewardPotCutoffsBounded sampleKinds (indexPages ledger 0 2 100) samplePot 0 7
        ⟨0, 0, 0, 0⟩ = some (.error rewardHistoryNotCaughtUp)) ∧
    (∃ ledger, TruthfulLedger sampleKinds samplePot sampleEffect ledger 4 ∧
      TruthfulIndex ledger 4 100 (indexPages ledger 4 2 100) ∧
      Fifo.replay [] (ledger.map sampleEffect) = some [⟨100, 4⟩] ∧
      rewardPotCutoffsBounded sampleKinds (indexPages ledger 4 2 100) samplePot 4 7
        ⟨0, 0, 0, 0⟩ = some (.error rewardHistoryMalformed)) := by
  constructor
  · exact ⟨[sampleMint 1 5 100, samplePayment ⟨⟨[2]⟩, none⟩ 2 4 110],
      sampleLedger_truthful (by decide) (by decide) rfl,
      indexPages_truthful (by decide) (by decide), rfl, rfl⟩
  · exact ⟨[sampleMint 1 5 100, samplePayment samplePot 2 3 110],
      sampleLedger_truthful (by decide) (by decide) rfl,
      indexPages_truthful (by decide) (by decide), rfl, rfl⟩

end Samples

end JupiterSuite.Relay
