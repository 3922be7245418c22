import JupiterSuite.Faucet.PayoutRuns
import JupiterSuite.Base.Tally

/-! A job never pays more than its pot: what the ledger debited for its transfers, less what the CMC
refunded, is covered by the outflow and the transfer that awaits its reply. -/

namespace JupiterSuite.Faucet

open Base Memo

section Debits

def transferCost (arg : TransferArg) : Nat := arg.amount + arg.fee.getD 0

def ofJob (job : ActivePayoutJob) (tag : PayoutTag) : Bool := decide (tag.serial = job.serial)

def PayoutSystem.debited (sys : PayoutSystem) (job : ActivePayoutJob) : Nat :=
  sys.ledger.spend (ofJob job) transferCost

def PayoutSystem.credited (sys : PayoutSystem) (job : ActivePayoutJob) : Nat :=
  tally Refund.tag Refund.creditE8s (ofJob job) sys.refunds

/-- The gross share of the pending transfer that awaits its reply. -/
def ActivePayoutJob.awaitingGrossE8s (job : ActivePayoutJob) : Nat :=
  match job.pendingTransfer with
  | some pending =>
      if pending.phase = .awaitingTransfer then pending.notification.grossShareE8s else 0
  | none => 0

/-- A transfer of the ledger was made for the job and its pot holds it. -/
structure PotConserved (sys : PayoutSystem) (job : ActivePayoutJob) : Prop where
  within : job.grossOutflowE8s ≤ job.potStartE8s
  awaiting : job.grossOutflowE8s + job.awaitingGrossE8s ≤ job.potStartE8s
  covered : sys.debited job ≤ job.grossOutflowE8s + job.awaitingGrossE8s + sys.credited job
  exact : satAdd u64Max job.grossOutflowE8s job.awaitingGrossE8s =
    job.grossOutflowE8s + job.awaitingGrossE8s
  remainder : checkedSub job.potStartE8s job.grossOutflowE8s =
    some (job.potStartE8s - job.grossOutflowE8s)

def Staged.awaitingE8s (entry : Staged) : Nat :=
  if entry.fate = .awaiting then entry.grossE8s else 0

end Debits

section Tags

variable {ledger : LedgerLog PayoutTag} {refunds : List Refund} {nowNanos clock : Nat}
  {st : FaucetState} {job : ActivePayoutJob} {entry : Staged}

theorem StateSound.arg_of_tag (sound : StateSound ledger refunds nowNanos st)
    (has : st.HasJob job) (linked : Linked job) (member : entry ∈ job.staged)
    {call : Call PayoutTag TransferArg TransferError} (present : call ∈ ledger)
    (tag : call.tag = job.tagOf entry) : ∃ account,
      depositAccountForPending st.config.cmcCanisterId entry.pending.notification = some account ∧
        call.arg = payoutTransferArg st.config account entry.pending job.feeE8s := by
  rcases sound.calls call present with ⟨owner, owns, made, staged, other, account, destination, arg⟩
  rw [tag, ActivePayoutJob.tagOf, ActivePayoutJob.tagOf, PayoutTag.mk.injEq] at other
  have same := sound.serial_injective has owns other.1
  subst same
  rw [linked.number_injective member staged other.2]
  exact ⟨account, destination, arg⟩

theorem cost_of_made (linked : Linked job) (member : entry ∈ job.staged) {account : Account}
    {config : FaucetConfig} :
    transferCost (payoutTransferArg config account entry.pending job.feeE8s) = entry.grossE8s :=
  linked.priced entry member

theorem StateSound.spent_le (sound : StateSound ledger refunds nowNanos st)
    (has : st.HasJob job) (linked : Linked job) (fresh : ledger.Deduplicated)
    (member : entry ∈ job.staged) :
    ledger.spend (fun tag => decide (tag = job.tagOf entry)) transferCost ≤ entry.grossE8s := by
  by_cases called : ∃ call ∈ ledger, call.tag = job.tagOf entry
  · rcases called with ⟨call, present, tag⟩
    rcases sound.arg_of_tag has linked member present tag with ⟨account, destination, arg⟩
    have cost : transferCost (payoutTransferArg st.config account entry.pending job.feeE8s) =
        entry.grossE8s := cost_of_made linked member
    rw [← cost]
    apply CallLog.spend_le_cost transferCost fresh
    intro other also chosen _
    rcases sound.arg_of_tag has linked member also (of_decide_eq_true chosen) with
      ⟨another, found, same⟩
    rw [destination] at found
    cases found
    exact same
  · have unspent : ledger.Refused (job.tagOf entry) :=
      fun call present tag => absurd ⟨call, present, tag⟩ called
    rw [CallLog.spend_eq_zero]
    · exact Nat.zero_le _
    · intro tag chosen
      rw [of_decide_eq_true chosen]
      exact unspent

end Tags

section Books

/-- The ledger deduplicates, and a refund covers the amount of its transfer but for three fees. -/
structure BooksSound (ledger : LedgerLog PayoutTag) (refunds : List Refund) : Prop where
  deduplicated : ledger.Deduplicated
  refunds : ∀ refund ∈ refunds, ∃ call ∈ ledger, call.tag = refund.tag ∧
    call.arg.amount ≤ refund.creditE8s + 3 * call.arg.fee.getD 0

variable {limits : ScanLimits} {fromText : Text → Option Principal} {sys next : PayoutSystem}

theorem BooksSound.dispatch {ledger : LedgerLog PayoutTag} {refunds : List Refund}
    (books : BooksSound ledger refunds) (tag : PayoutTag) (arg : TransferArg) :
    BooksSound (ledger.dispatch tag arg) refunds := by
  refine ⟨CallLog.deduplicated_dispatch books.deduplicated tag arg, ?_⟩
  intro refund member
  rcases books.refunds refund member with ⟨call, present, same, covered⟩
  exact ⟨call, CallLog.mem_dispatch.mpr (.inl present), same, covered⟩

theorem settle_books {id now : Nat} (books : BooksSound sys.ledger sys.refunds)
    (result : FaucetState × PayoutPause) : BooksSound (settlePayout sys id now result).ledger
      (settlePayout sys id now result).refunds := by
  rcases result with ⟨st, pause⟩
  cases pause with
  | transferring caller run second priorUncertainty arg => exact books.dispatch st.stagedTag arg
  | _ => exact books

theorem BooksSound.answer {ledger after : LedgerLog PayoutTag} {refunds : List Refund}
    {index : Nat} {outcome : TransferOutcome} (books : BooksSound ledger refunds)
    (answered : ledger.answer index outcome = some after) : BooksSound after refunds := by
  refine ⟨CallLog.deduplicated_answer books.deduplicated answered, ?_⟩
  intro refund member
  rcases books.refunds refund member with ⟨call, present, same, covered⟩
  rcases List.mem_iff_getElem?.mp present with ⟨i, found⟩
  have kept := CallLog.getElem?_answer answered i
  rw [found] at kept
  split at kept
  · exact ⟨_, List.mem_of_getElem? kept, same, covered⟩
  · exact ⟨call, List.mem_of_getElem? kept, same, covered⟩

theorem books_step {event : PayoutEvent} (books : BooksSound sys.ledger sys.refunds)
    (taken : stepPayout limits fromText sys event = some next) :
    BooksSound next.ledger next.refunds := by
  cases event with
  | begin id now force poke =>
      simp only [stepPayout, Option.ite_none_right_eq_some, Option.some.injEq] at taken
      rcases taken with ⟨_, rfl⟩
      exact settle_books books _
  | resume id reply now =>
      simp only [stepPayout] at taken
      split at taken
      · cases taken
      · simp only [Option.ite_none_right_eq_some, Option.map_eq_some_iff] at taken
        rcases taken with ⟨_, result, _, rfl⟩
        exact settle_books books result
  | abandon id cleanup =>
      simp only [stepPayout] at taken
      split at taken
      · cases taken
      · cases taken
        exact books
  | ledger call outcome =>
      simp only [stepPayout, Option.ite_none_right_eq_some, Option.map_eq_some_iff] at taken
      rcases taken with ⟨_, ledger, answered, rfl⟩
      exact books.answer answered
  | refund refund =>
      simp only [stepPayout, Option.ite_none_right_eq_some, Option.some.injEq] at taken
      rcases taken with ⟨admitted, rfl⟩
      simp only [refundAdmits, Bool.and_eq_true, List.any_eq_true, decide_eq_true_eq] at admitted
      rcases admitted with ⟨_, call, present, same, covered⟩
      refine ⟨books.deduplicated, ?_⟩
      intro other member
      rcases List.mem_cons.mp member with rfl | old
      · exact ⟨call, present, same, covered⟩
      · exact books.refunds other old
  | arrive tx =>
      simp only [stepPayout, Option.ite_none_right_eq_some, Option.some.injEq] at taken
      rcases taken with ⟨_, rfl⟩
      exact books
  | upgrade args =>
      simp only [stepPayout, Option.ite_none_right_eq_some, Option.some.injEq] at taken
      rcases taken with ⟨_, rfl⟩
      exact books

theorem books_reachable (reachable : (payoutMachine limits fromText).Reachable sys) :
    BooksSound sys.ledger sys.refunds := by
  apply (payoutMachine limits fromText).reachable_invariant
    (fun sys => BooksSound sys.ledger sys.refunds) _ _ reachable
  · rintro start ⟨config, nowNanos, history, rfl, _⟩
    exact ⟨List.nodup_nil, List.forall_mem_nil _⟩
  · intro state event next books taken
    exact books_step books taken

end Books

section Conservation

variable {ledger : LedgerLog PayoutTag} {refunds : List Refund} {nowNanos clock : Nat}
  {st : FaucetState} {job : ActivePayoutJob} {entry : Staged}

def creditOf (refunds : List Refund) (tag : PayoutTag) : Nat :=
  tally Refund.tag Refund.creditE8s (fun other => decide (other = tag)) refunds

theorem refunded_le (state : StateSound ledger refunds nowNanos st)
    (has : st.HasJob job) (sound : JobSound ledger refunds clock job)
    (books : BooksSound ledger refunds) (member : entry ∈ job.staged)
    (fate : entry.fate = .refunded ∨ entry.fate = .refundedBelowFee) :
    entry.grossE8s ≤ 4 * job.feeE8s + creditOf refunds (job.tagOf entry) := by
  rcases sound.refunds entry member fate with ⟨refund, listed, tag⟩
  rcases books.refunds refund listed with ⟨call, present, same, covered⟩
  rcases state.arg_of_tag has sound.linked member present (same.trans tag) with ⟨account, _, arg⟩
  have amount : call.arg.amount = entry.pending.notification.amountE8s := by rw [arg]; rfl
  have fee : call.arg.fee.getD 0 = job.feeE8s := by rw [arg]; rfl
  have priced := sound.linked.priced entry member
  have credit : refund.creditE8s ≤ creditOf refunds (job.tagOf entry) :=
    value_le_tally listed (decide_eq_true tag)
  rw [amount, fee] at covered
  omega

theorem covered_of_entry (state : StateSound ledger refunds nowNanos st)
    (has : st.HasJob job) (sound : JobSound ledger refunds clock job)
    (books : BooksSound ledger refunds) (member : entry ∈ job.staged) :
    ledger.spend (fun tag => decide (tag = job.tagOf entry)) transferCost ≤
      entry.charge job.feeE8s + entry.awaitingE8s + creditOf refunds (job.tagOf entry) := by
  have spent := state.spent_le has sound.linked books.deduplicated member
  have free : entry.fate = .failed ∨ entry.fate = .replaced →
      ledger.spend (fun tag => decide (tag = job.tagOf entry)) transferCost = 0 := by
    intro lost
    apply CallLog.spend_eq_zero
    intro tag chosen
    rw [of_decide_eq_true chosen]
    exact sound.refused entry member lost
  have repaid := refunded_le state has sound books member
  cases fate : entry.fate with
  | failed => rw [free (.inl fate)]; exact Nat.zero_le _
  | replaced => rw [free (.inr fate)]; exact Nat.zero_le _
  | refunded =>
      have covered := repaid (.inl fate)
      simp only [Staged.charge, Staged.awaitingE8s, fate]
      omega
  | refundedBelowFee =>
      have covered := repaid (.inr fate)
      simp only [Staged.charge, Staged.awaitingE8s, fate]
      omega
  | awaiting => simp only [Staged.charge, Staged.awaitingE8s, fate, if_true]; omega
  | _ => simp only [Staged.charge, Staged.awaitingE8s, fate]; omega

theorem awaiting_le (linked : Linked job) :
    (job.staged.map Staged.awaitingE8s).sum ≤ job.awaitingGrossE8s := by
  have quiet : ∀ entries : List Staged, (∀ entry ∈ entries, entry.fate.settled = true) →
      (entries.map Staged.awaitingE8s).sum = 0 := by
    intro entries settled
    apply List.sum_eq_zero
    intro part listed
    rcases List.mem_map.mp listed with ⟨entry, member, rfl⟩
    have finished := settled entry member
    apply if_neg
    intro awaiting
    rw [awaiting] at finished
    cases finished
  cases held : job.pendingTransfer with
  | none => rw [quiet job.staged (linked.idle held)]; exact Nat.zero_le _
  | some pending =>
      rcases linked.latest pending held with ⟨entry, rest, shape, found⟩
      have settled := linked.settled
      rw [shape] at settled
      rw [shape, List.map_cons, List.sum_cons, quiet rest settled, ActivePayoutJob.awaitingGrossE8s,
        held]
      cases found with
      | awaiting fate same =>
          have phase := linked.awaiting entry (shape ▸ List.mem_cons_self)
          subst same
          simp only [Staged.awaitingE8s, fate, phase, if_true]
          exact Nat.le_refl _
      | accepted block fate same =>
          have zero : entry.awaitingE8s = 0 := by simp [Staged.awaitingE8s, fate]
          rw [zero]
          exact Nat.zero_le _

theorem spend_eq_tally (ledger : LedgerLog PayoutTag) (chosen : PayoutTag → Bool) :
    ledger.spend chosen transferCost =
      tally Call.tag (fun call => transferCost call.arg) chosen (ledger.filter Call.accepted) := by
  rw [tally, List.filter_filter]
  rfl

theorem tags_nodup (linked : Linked job) : (job.staged.map job.tagOf).Nodup := by
  apply List.Nodup.of_map PayoutTag.number
  rw [List.map_map]
  show (job.staged.map Staged.number).Nodup
  rw [linked.numbered]
  exact List.nodup_reverse.mpr List.nodup_range

theorem covered_of_job (state : StateSound ledger refunds nowNanos st)
    (has : st.HasJob job) (sound : JobSound ledger refunds clock job)
    (books : BooksSound ledger refunds) :
    ledger.spend (ofJob job) transferCost ≤ job.grossOutflowE8s + job.awaitingGrossE8s +
      tally Refund.tag Refund.creditE8s (ofJob job) refunds := by
  have listed : ∀ call ∈ ledger.filter Call.accepted, ofJob job call.tag = true →
      call.tag ∈ job.staged.map job.tagOf := by
    intro call member chosen
    rcases state.calls call (List.mem_filter.mp member).1 with ⟨owner, owns, entry, staged, tag, _⟩
    have serial : owner.serial = job.serial := by
      have same : call.tag.serial = job.serial := of_decide_eq_true chosen
      rw [← same, tag]
      rfl
    rw [state.serial_injective owns has serial] at tag staged
    exact List.mem_map.mpr ⟨entry, staged, tag.symm⟩
  have ours : ∀ tag ∈ job.staged.map job.tagOf, ofJob job tag = true := by
    intro tag member
    rcases List.mem_map.mp member with ⟨entry, _, rfl⟩
    exact decide_eq_true rfl
  have credits : ((job.staged.map job.tagOf).map fun one =>
      tally Refund.tag Refund.creditE8s (fun other => decide (other = one)) refunds).sum ≤
      tally Refund.tag Refund.creditE8s (ofJob job) refunds :=
    sum_le_tally (tags_nodup sound.linked) ours
  calc
    ledger.spend (ofJob job) transferCost
      = tally Call.tag (fun call => transferCost call.arg) (ofJob job)
          (ledger.filter Call.accepted) := spend_eq_tally ledger (ofJob job)
    _ ≤ ((job.staged.map job.tagOf).map fun one =>
          tally Call.tag (fun call => transferCost call.arg) (fun other => decide (other = one))
            (ledger.filter Call.accepted)).sum := tally_le_sum listed
    _ = (job.staged.map fun entry =>
          ledger.spend (fun tag => decide (tag = job.tagOf entry)) transferCost).sum := by
        simp only [List.map_map, Function.comp_def, spend_eq_tally]
    _ ≤ (job.staged.map fun entry => entry.charge job.feeE8s + entry.awaitingE8s +
          creditOf refunds (job.tagOf entry)).sum :=
        List.sum_le_sum fun entry member => covered_of_entry state has sound books member
    _ = job.charges + (job.staged.map Staged.awaitingE8s).sum +
          (job.staged.map fun entry => creditOf refunds (job.tagOf entry)).sum := by
        rw [List.sum_map_add, List.sum_map_add]
        rfl
    _ ≤ job.grossOutflowE8s + job.awaitingGrossE8s +
          tally Refund.tag Refund.creditE8s (ofJob job) refunds := by
        rw [sound.balanced.outflow]
        rw [List.map_map] at credits
        exact Nat.add_le_add (Nat.add_le_add_left (awaiting_le sound.linked) _) credits

end Conservation

section Expectation

variable {limits : ScanLimits} {fromText : Text → Option Principal} {sys : PayoutSystem}
  {tick : MainTick} {st : FaucetState}

/-- The expectation of the completion that the outflow is within the pot. -/
def AccountingFailed (pause : PayoutPause) : Prop :=
  ∃ lease, pause = .trapped .validatedPayoutAccounting lease

theorem outside_accounted (pause : FundingPause) : ¬ AccountingFailed pause.outside := by
  rintro ⟨lease, failed⟩
  cases pause with
  | done => cases failed
  | await kont => cases kont <;> cases failed

theorem plays_accounted {ledger : LedgerLog PayoutTag} {refunds : List Refund}
    {result : FaucetState × PayoutPause} (bounded : tick.nowNanos ≤ u64Max)
    (sound : StateSound ledger refunds tick.nowNanos st)
    (plays : Plays tick ledger.Refused (RefundedTag refunds) st result) :
    ¬ AccountingFailed result.2 := by
  rcases plays with ⟨middle, advances, ends⟩
  cases ends with
  | leave ok => exact outside_accounted _
  | finalize jobId => exact outside_accounted _
  | page pagesLeft active idle => exact nofun
  | lookup second idle fee worth => exact nofun
  | drive caller ends unfinished =>
      cases ends with
      | gaveUp => exact absurd rfl (unfinished false)
      | finished idle => exact absurd rfl (unfinished true)
      | trap failed other =>
          rintro ⟨lease, same⟩
          cases same
          exact other rfl
      | _ => exact nofun
  | trap failed other =>
      rintro ⟨lease, same⟩
      cases same
      exact other rfl
  | overdrawn active exceeds =>
      have within := ((advances.sound bounded sound).active _ active).balanced.within
      omega

structure PayoutSystem.KeepsAccounts (limits : ScanLimits) (fromText : Text → Option Principal)
    (sys : PayoutSystem) : Prop where
  begins : ∀ now force poke, clockAdmits sys.clock now = true →
    ¬ AccountingFailed (beginPayout limits sys.state now force poke).2
  resumes : ∀ id kont reply result, sys.tasks id = some kont →
    payoutRepliesTo sys kont reply = true →
    resumePayout limits fromText sys.state kont reply = some result → ¬ AccountingFailed result.2

theorem begins_accounted (invariant : PayoutInvariant sys) {now : Nat} (force poke : Bool)
    (admitted : clockAdmits sys.clock now = true) :
    ¬ AccountingFailed (beginPayout limits sys.state now force poke).2 := by
  simp only [clockAdmits, Bool.and_eq_true, decide_eq_true_eq] at admitted
  rcases beginPayout_cases limits sys.state now force poke with same | ⟨lease, _, taken⟩
  · rw [same]
    rintro ⟨_, ⟨⟩⟩
  · rcases taken with same | same | same
    · rw [same]
      rintro ⟨_, ⟨⟩⟩
    · rw [same]
      rintro ⟨_, ⟨⟩⟩
    · rw [same]
      have held : StateSound sys.ledger sys.refunds now { sys.state with
          mainLockStateTs := some lease } :=
        (invariant.sound.later admitted.1).congr ⟨rfl, rfl, rfl, rfl, rfl⟩
      exact @plays_accounted ⟨lease, now, poke⟩ _ _ _ _ admitted.2 held (payoutLoop_plays _)

theorem resumes_accounted (invariant : PayoutInvariant sys) {id : Nat} {kont : PayoutKont}
    {reply : PayoutReply} {result : FaucetState × PayoutPause} (found : sys.tasks id = some kont)
    (replies : payoutRepliesTo sys kont reply = true)
    (resumed : resumePayout limits fromText sys.state kont reply = some result) :
    ¬ AccountingFailed result.2 := by
  by_cases owner : Owns PayoutKont.lease sys.state.mainLockStateTs kont
  · rcases invariant.fits id kont found owner with ⟨fits, timely⟩
    have bounded := (invariant.ticks id kont found).2
    have sound := invariant.sound.retime timely
    cases resume_owned (invariant.konts id kont found) fits (informed fits replies) resumed with
    | plays plays => exact plays_accounted bounded sound plays
    | create vacant admitted plays =>
        simp only [trancheAdmits, Bool.and_eq_true, decide_eq_true_eq] at admitted
        exact plays_accounted bounded (sound.create vacant _ _ admitted.1.1.1.2) plays
    | finish active => rintro ⟨_, ⟨⟩⟩
    | rescued => rintro ⟨_, ⟨⟩⟩
  · have lost : sys.state.isCurrent kont.tick.lease = false := by
      rw [← lease_eq]
      exact decide_eq_false owner
    rcases resume_lost lost resumed with rfl | ⟨tick, frame, stake, _, rfl⟩
    · rintro ⟨_, ⟨⟩⟩
    · rintro ⟨_, ⟨⟩⟩

end Expectation

section Results

variable {limits : ScanLimits} {fromText : Text → Option Principal} {sys : PayoutSystem}
  {job : ActivePayoutJob}

theorem Balanced.fits (balanced : Balanced job) :
    job.grossOutflowE8s + job.awaitingGrossE8s ≤ job.potStartE8s := by
  rw [ActivePayoutJob.awaitingGrossE8s]
  split
  · rename_i pending held
    split
    · rename_i awaiting
      exact balanced.awaiting pending ⟨held, awaiting⟩
    · exact balanced.within
  · exact balanced.within

/-- The pot of every job is conserved in every reachable state, and no completion finds it
overdrawn. -/
theorem pot_conserved (reachable : (payoutMachine limits fromText).Reachable sys) :
    (∀ job, sys.state.HasJob job → PotConserved sys job) ∧ sys.KeepsAccounts limits fromText := by
  have invariant := payout_reachable reachable
  refine ⟨?_, fun _ force poke => begins_accounted invariant force poke,
    fun _ _ _ _ => resumes_accounted invariant⟩
  intro job has
  rcases invariant.sound.of_hasJob has with ⟨clock, sound⟩
  have fits := sound.balanced.fits
  refine ⟨sound.balanced.within, fits, ?_, ?_, ?_⟩
  · exact covered_of_job invariant.sound has sound (books_reachable reachable)
  · exact satAdd_of_le (fits.trans sound.balanced.pot)
  · exact checkedSub_eq_some.mpr ⟨sound.balanced.within, rfl⟩

end Results

section Samples

/-- A round of one top-up that the CMC refunds; its fallback is dispatched. -/
def refundedRound : List PayoutEvent :=
  [.begin 0 topUpNow true false,
    .resume 0 (.found 10000 100000000 ⟨9, 1000000000000000, 1000000000⟩) topUpNow,
    .resume 0 (.page (some topUpPage)) topUpNow,
    .resume 0 (.page (some topUpPage)) topUpNow,
    .ledger 0 (.accepted 7),
    .resume 0 (.transfer (some (.ok 7))) topUpNow,
    .refund ⟨⟨0, 0⟩, 999960000⟩,
    .resume 0 (.notified (.refunded (some 8))) topUpNow]

def refundedAfter : PayoutSystem := payoutAfter (fun _ => some ⟨[7]⟩) topUpNow refundedRound

theorem pot_conserved_of_refund : ∃ job, refundedAfter.state.activePayoutJob = some job ∧
    job.grossOutflowE8s = 40000 ∧ PotConserved refundedAfter job := by
  have outflow : refundedAfter.state.activePayoutJob.map ActivePayoutJob.grossOutflowE8s =
      some 40000 := by decide +kernel
  rcases Option.map_eq_some_iff.mp outflow with ⟨job, active, fees⟩
  have reachable : (payoutMachine {} fun _ => some ⟨[7]⟩).Reachable refundedAfter :=
    payoutAfter_reachable (by decide +kernel)
  exact ⟨job, active, fees, (pot_conserved reachable).1 job (.inl active)⟩

end Samples
end JupiterSuite.Faucet
