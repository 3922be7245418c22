import JupiterSuite.Relay.JobSpending

/-! Where the summary of a relay job reports every unit of its starting balance. -/

namespace JupiterSuite.Relay

open Base

def Fate.isSpent : Fate → Bool
  | .accepted | .completed | .failedAfterAcceptance | .ambiguousAfterAcceptance => true
  | _ => false

def Fate.isFailed : Fate → Bool
  | .failed => true
  | _ => false

def Fate.isAmbiguous : Fate → Bool
  | .ambiguous | .ambiguousAfterAcceptance => true
  | _ => false

def Fate.isAmbiguousAfterAcceptance : Fate → Bool
  | .ambiguousAfterAcceptance => true
  | _ => false

def Fate.isAwaiting : Fate → Bool
  | .awaiting => true
  | _ => false

def grossOf (chosen : Fate → Bool) (entries : List Staged) : Nat :=
  ((entries.filter fun entry => chosen entry.fate).map fun entry =>
    entry.pending.grossShareE8s).sum

theorem grossOf_cons (chosen : Fate → Bool) (entry : Staged) (earlier : List Staged) :
    grossOf chosen (entry :: earlier) =
      (if chosen entry.fate then entry.pending.grossShareE8s else 0) + grossOf chosen earlier := by
  unfold grossOf
  rw [List.filter_cons]
  split <;> simp

theorem grossOf_le (chosen : Fate → Bool) (job : ActiveRelayJob) :
    grossOf chosen job.staged ≤ job.stagedGross := by
  unfold grossOf ActiveRelayJob.stagedGross
  exact (List.filter_sublist.map _).sum_le_sum fun _ _ => Nat.zero_le _

theorem grossOf_eq_zero {chosen : Fate → Bool} {entries : List Staged}
    (nothing : ∀ entry ∈ entries, chosen entry.fate = false) : grossOf chosen entries = 0 := by
  unfold grossOf
  rw [List.filter_eq_nil_iff.mpr (by simpa using nothing)]
  rfl

/-- Every staged transfer is spent, failed, ambiguous or still awaited; only one that became
ambiguous after its acceptance is both spent and ambiguous. -/
theorem gross_parts (job : ActiveRelayJob) :
    job.stagedGross + grossOf Fate.isAmbiguousAfterAcceptance job.staged =
      grossOf Fate.isSpent job.staged + grossOf Fate.isFailed job.staged +
        grossOf Fate.isAmbiguous job.staged + grossOf Fate.isAwaiting job.staged := by
  unfold ActiveRelayJob.stagedGross
  induction job.staged with
  | nil => rfl
  | cons entry earlier ih =>
      simp only [List.map_cons, List.sum_cons, grossOf_cons]
      cases entry.fate <;>
        simp only [Fate.isSpent, Fate.isFailed, Fate.isAmbiguous, Fate.isAwaiting,
          Fate.isAmbiguousAfterAcceptance, if_true, Bool.false_eq_true, if_false] <;>
        omega

/-- The job's latest entry is the one that its pending transfer was staged as. -/
structure PendingEntry (job : ActiveRelayJob) (pending : PendingTransfer) (entry : Staged)
    (earlier : List Staged) : Prop where
  staged : job.staged = entry :: earlier
  gross : entry.pending.grossShareE8s = pending.grossShareE8s
  amount : pending.amountE8s + job.feeE8s = pending.grossShareE8s
  awaiting : pending.phase = .awaitingTransfer → entry.fate = .awaiting
  accepted : pending.phase ≠ .awaitingTransfer → entry.fate = .accepted

structure Settling (job : ActiveRelayJob) : Prop where
  vacant : job.pendingTransfer = none → grossOf Fate.isAwaiting job.staged = 0
  pending : ∀ pending, job.pendingTransfer = some pending →
    ∃ entry earlier, PendingEntry job pending entry earlier ∧
      grossOf Fate.isAwaiting earlier = 0

structure Buckets (job : ActiveRelayJob) : Prop where
  start : job.summary.defaultAccountBalanceStartE8s = job.balanceStartE8s
  sent : job.summary.ledgerSentE8s + job.summary.ledgerFeesE8s = grossOf Fate.isSpent job.staged
  known : job.summary.knownUnspentE8s + job.stagedGross + job.unsentGross =
    job.balanceStartE8s + grossOf Fate.isFailed job.staged
  ambiguous : job.summary.ambiguousE8s = grossOf Fate.isAmbiguous job.staged
  clean : job.summary.failedTransfers = 0 → grossOf Fate.isFailed job.staged = 0

structure Conserved (job : ActiveRelayJob) : Prop extends Afforded job where
  small : job.balanceStartE8s ≤ u64Max
  fees : FeeAbove job.feeE8s (job.topupShares ++ job.surplusShares)
  settling : Settling job
  buckets : Buckets job

def ActiveRelayJob.surplusStands (job : ActiveRelayJob) : Bool :=
  job.topupsRemain || !job.surplusRemains || job.surplusAllowedAfterTopups.isNone

/-- Rules out runs in which the total that the job's plan divides by overflows, in which a
transfer has failed before the surplus is disabled, and in which a planned surplus is refused. -/
def summaryRules (serial : Nat) : JobRules where
  install := fun view start current _ feeE8s =>
    decide (view.past.length ≠ serial) || allocationFits view current feeE8s start.nowNanos
  plan := fun job _ => decide (job.serial ≠ serial) || job.surplusStands
  disable := fun job =>
    decide (job.serial ≠ serial) || job.staged.all fun entry => !entry.fate.isFailed
  fail := fun _ => true

variable {earlier : List Staged} {entry : Staged} {pending : PendingTransfer} {rules : JobRules}

section Moves

variable {job next : ActiveRelayJob}

theorem conserved_install {view : RelayState} {start : JobStart}
    {current : List (Principal × Nat)} {balance feeE8s : Nat} (small : balance ≤ u64Max)
    (fits : allocationFits view current feeE8s start.nowNanos) :
    Conserved (buildJob view start current balance feeE8s) := by
  have afforded : Afforded (buildJob view start current balance feeE8s) :=
    afforded_install small fits
  have funded := allocation_funded fits small
  rw [← buildJob_shares view start current balance feeE8s] at funded
  have unsent : (buildJob view start current balance feeE8s).unsentGross =
      payableGross (buildJob view start current balance feeE8s).topupShares := rfl
  refine ⟨afforded, small, ?_, ⟨fun _ => rfl, nofun⟩, ?_⟩
  · have shares : (buildJob view start current balance feeE8s).surplusShares = [] := rfl
    rw [shares, List.append_nil]
    exact funded.feeAbove
  · refine ⟨rfl, rfl, ?_, rfl, fun _ => rfl⟩
    have covered : payableGross
          ((buildJob view start current balance feeE8s).canisters.map CanisterBurnSample.share) +
        payableGross (([] : List SurplusTransferSample).map SurplusTransferSample.share) ≤
          balance := funded.bounded
    have retained := retained_exact small covered
    rw [unsent]
    show retainedE8s balance (buildJob view start current balance feeE8s).canisters [] + 0 +
      payableGross ((buildJob view start current balance feeE8s).canisters.map
        CanisterBurnSample.share) = balance + 0
    simp only [List.map_nil, payableGross_nil] at retained covered
    omega

theorem grossOf_pending (here : PendingEntry job pending entry earlier) (chosen : Fate → Bool) :
    grossOf chosen job.staged =
      (if chosen entry.fate then pending.grossShareE8s else 0) + grossOf chosen earlier := by
  rw [here.staged, grossOf_cons, here.gross]

theorem grossOf_settled (here : PendingEntry job pending entry earlier) (chosen : Fate → Bool)
    (fate : Fate) :
    grossOf chosen (settleFate fate job.staged) =
      (if chosen fate then pending.grossShareE8s else 0) + grossOf chosen earlier := by
  rw [here.staged, settleFate, grossOf_cons]
  show (if chosen fate then entry.pending.grossShareE8s else 0) + _ = _
  rw [here.gross]

theorem settled_room (conserved : Conserved job) (here : PendingEntry job pending entry earlier)
    (chosen : Fate → Bool) (fate : Fate) (counts : chosen fate = true) :
    pending.grossShareE8s + grossOf chosen earlier ≤ job.stagedGross ∧
      job.stagedGross ≤ u64Max := by
  have part := grossOf_le chosen (job.withFate fate)
  have same : (job.withFate fate).stagedGross = job.stagedGross := by
    rw [stagedGross_identities, stagedGross_identities]
    exact congrArg _ (congrArg _ (settleFate_identity fate job.staged))
  have split : grossOf chosen (job.withFate fate).staged = _ := grossOf_settled here chosen fate
  rw [split, if_pos counts, same] at part
  have funded := conserved.funded
  have small := conserved.small
  exact ⟨part, by omega⟩

theorem conserved_kept (conserved : Conserved job) (kept : Kept job next)
    (known : next.summary.failedTransfers = 0 → job.summary.failedTransfers = 0 ∧
      next.summary.knownUnspentE8s = job.summary.knownUnspentE8s)
    (settling : Settling next) (buckets : Buckets next) : Conserved next := by
  refine ⟨afforded_kept conserved.toAfforded kept known, ?_, ?_, settling, buckets⟩
  · rw [kept.balance]
    exact conserved.small
  · rw [kept.fee, kept.topups, kept.surplusShares]
    exact conserved.fees

theorem settling_of_vacant (vacant : next.pendingTransfer = none)
    (settled : grossOf Fate.isAwaiting next.staged = 0) : Settling next := by
  refine ⟨fun _ => settled, ?_⟩
  intro pending has
  rw [vacant] at has
  cases has

theorem settling_settled (here : PendingEntry job pending entry earlier)
    (others : grossOf Fate.isAwaiting earlier = 0) {fate : Fate} (settles : fate.isAwaiting = false)
    (staged : next.staged = settleFate fate job.staged) (vacant : next.pendingTransfer = none) :
    Settling next := by
  apply settling_of_vacant vacant
  rw [staged, grossOf_settled here, settles, others]
  rfl

theorem settling_accepted (here : PendingEntry job pending entry earlier)
    (others : grossOf Fate.isAwaiting earlier = 0) (block : Nat) :
    Settling (job.acceptPending pending block) := by
  refine ⟨nofun, ?_⟩
  intro other has
  cases has
  have staged : (job.acceptPending pending block).staged =
      { entry with fate := .accepted } :: earlier := by
    show settleFate .accepted job.staged = _
    rw [here.staged]
    rfl
  refine ⟨_, _, ⟨staged, here.gross, here.amount, ?_, fun _ => rfl⟩, others⟩
  intro impossible
  cases impossible

/-- Settling the pending transfer moves its gross amount between the buckets as its fate says. -/
theorem buckets_settled (conserved : Conserved job) (here : PendingEntry job pending entry earlier)
    (kept : Kept job next) {fate : Fate} (staged : next.staged = settleFate fate job.staged)
    (undecided : entry.fate.isFailed = false ∧ entry.fate.isAmbiguous = false)
    (start : next.summary.defaultAccountBalanceStartE8s =
      job.summary.defaultAccountBalanceStartE8s)
    (sent : next.summary.ledgerSentE8s + next.summary.ledgerFeesE8s +
        (if entry.fate.isSpent then pending.grossShareE8s else 0) =
      job.summary.ledgerSentE8s + job.summary.ledgerFeesE8s +
        (if fate.isSpent then pending.grossShareE8s else 0)) (known : next.summary.knownUnspentE8s =
      job.summary.knownUnspentE8s + (if fate.isFailed then pending.grossShareE8s else 0))
    (ambiguous : next.summary.ambiguousE8s =
      job.summary.ambiguousE8s + (if fate.isAmbiguous then pending.grossShareE8s else 0))
    (clean : next.summary.failedTransfers = 0 →
      job.summary.failedTransfers = 0 ∧ fate.isFailed = false) : Buckets next := by
  have before := conserved.buckets
  have gross : next.stagedGross = job.stagedGross := by
    rw [stagedGross_identities, stagedGross_identities, kept.identities]
  have spent_before := before.sent
  have known_before := before.known
  have ambiguous_before := before.ambiguous
  have clean_before := before.clean
  rw [grossOf_pending here] at spent_before known_before ambiguous_before clean_before
  rw [undecided.1] at known_before clean_before
  rw [undecided.2] at ambiguous_before
  simp only [Bool.false_eq_true, if_false, Nat.zero_add] at known_before ambiguous_before clean_before
  constructor
  · rw [start, kept.balance]
    exact before.start
  · rw [staged, grossOf_settled here]
    omega
  · rw [staged, grossOf_settled here, gross, kept.unsentGross, kept.balance]
    omega
  · rw [staged, grossOf_settled here]
    omega
  · intro unfailed
    rcases clean unfailed with ⟨none_before, other⟩
    rw [staged, grossOf_settled here, other]
    simpa using clean_before none_before

theorem raised_count (count : Nat) : satAdd u32Max count 1 ≠ 0 := by
  simp only [satAdd, u32Max]
  omega

theorem buckets_accept (conserved : Conserved job) (block : Nat)
    (has : job.pendingTransfer = some pending) (awaiting : pending.phase = .awaitingTransfer) :
    Buckets (job.acceptPending pending block) := by
  rcases conserved.settling.pending pending has with ⟨entry, earlier, here, _⟩
  have fate := here.awaiting awaiting
  have room := settled_room conserved here Fate.isSpent .accepted rfl
  have amount := here.amount
  have spent := conserved.buckets.sent
  rw [grossOf_pending here, fate] at spent
  simp only [Fate.isSpent, Bool.false_eq_true, if_false, Nat.zero_add] at spent
  refine buckets_settled conserved here (kept_of_accept job pending block) rfl ?_ rfl ?_ rfl rfl ?_
  · rw [fate]
    exact ⟨rfl, rfl⟩
  · rw [fate]
    show satAdd u64Max job.summary.ledgerSentE8s pending.amountE8s +
        satAdd u64Max job.summary.ledgerFeesE8s job.feeE8s + 0 =
      job.summary.ledgerSentE8s + job.summary.ledgerFeesE8s + pending.grossShareE8s
    rw [satAdd_of_le (by omega), satAdd_of_le (by omega)]
    omega
  · intro unfailed
    exact ⟨unfailed, rfl⟩

theorem buckets_complete (conserved : Conserved job) (minted : Option (Principal × Nat))
    (has : job.pendingTransfer = some pending) (accepted : pending.phase ≠ .awaitingTransfer) :
    Buckets (job.completePending minted) := by
  rcases conserved.settling.pending pending has with ⟨entry, earlier, here, _⟩
  have fate := here.accepted accepted
  have kept := kept_of_complete job minted
  cases minted <;>
    exact buckets_settled conserved here kept rfl (by rw [fate]; exact ⟨rfl, rfl⟩) rfl
      (by rw [fate]; rfl) rfl rfl fun unfailed => ⟨unfailed, rfl⟩

theorem buckets_fail (conserved : Conserved job) (has : job.pendingTransfer = some pending)
    (awaiting : pending.phase = .awaitingTransfer) :
    Buckets (job.failPending pending) := by
  rcases conserved.settling.pending pending has with ⟨entry, earlier, here, _⟩
  have fate := here.awaiting awaiting
  have room := settled_room conserved here Fate.isFailed .failed rfl
  have known := conserved.buckets.known
  have small := conserved.small
  rw [grossOf_pending here, fate] at known
  simp only [Fate.isFailed, Bool.false_eq_true, if_false, Nat.zero_add] at known
  have marked : Mark JobRules.any job (job.failPending pending) := .fail has awaiting rfl
  have kept := kept_of_mark marked
  refine buckets_settled conserved here kept rfl ?_ rfl ?_ ?_ rfl ?_
  · rw [fate]
    exact ⟨rfl, rfl⟩
  · rw [fate]
    rfl
  · show satAdd u64Max job.summary.knownUnspentE8s pending.grossShareE8s =
      job.summary.knownUnspentE8s + pending.grossShareE8s
    exact satAdd_of_le (by omega)
  · intro unfailed
    exact absurd unfailed (raised_count _)

theorem buckets_ambiguous (conserved : Conserved job) (has : job.pendingTransfer = some pending)
    (fate : Fate) (raised : fate.isAmbiguous = true) (unfailed : fate.isFailed = false)
    (undecided : ∀ entry earlier, PendingEntry job pending entry earlier →
      entry.fate.isSpent = fate.isSpent ∧ entry.fate.isFailed = false ∧
        entry.fate.isAmbiguous = false) (kept : Kept job next)
    (staged : next.staged = settleFate fate job.staged)
    (start : next.summary.defaultAccountBalanceStartE8s =
      job.summary.defaultAccountBalanceStartE8s)
    (sent : next.summary.ledgerSentE8s = job.summary.ledgerSentE8s)
    (fees : next.summary.ledgerFeesE8s = job.summary.ledgerFeesE8s)
    (known : next.summary.knownUnspentE8s = job.summary.knownUnspentE8s)
    (failed : next.summary.failedTransfers = job.summary.failedTransfers)
    (ambiguous : next.summary.ambiguousE8s =
      satAdd u64Max job.summary.ambiguousE8s pending.grossShareE8s) : Buckets next := by
  rcases conserved.settling.pending pending has with ⟨entry, earlier, here, _⟩
  rcases undecided entry earlier here with ⟨spent, unlost, uncounted⟩
  have room := settled_room conserved here Fate.isAmbiguous fate raised
  have before := conserved.buckets.ambiguous
  rw [grossOf_pending here, uncounted] at before
  simp only [Bool.false_eq_true, if_false, Nat.zero_add] at before
  refine buckets_settled conserved here kept staged ⟨unlost, uncounted⟩ start ?_ ?_ ?_ ?_
  · rw [sent, fees, spent]
  · rw [known, unfailed]
    rfl
  · rw [ambiguous, raised, if_pos rfl]
    exact satAdd_of_le (by omega)
  · intro none_failed
    rw [failed] at none_failed
    exact ⟨none_failed, unfailed⟩

theorem buckets_mark (conserved : Conserved job) (marked : Mark rules job next) : Buckets next := by
  have kept := kept_of_mark marked
  cases marked with
  | accept block has awaiting => exact buckets_accept conserved block has awaiting
  | complete minted has accepted => exact buckets_complete conserved minted has accepted
  | fail has awaiting may => exact buckets_fail conserved has awaiting
  | failAfter has accepted =>
      rcases conserved.settling.pending _ has with ⟨entry, earlier, here, _⟩
      have fate := here.accepted accepted
      refine buckets_settled conserved here kept rfl ?_ rfl ?_ rfl rfl ?_
      · rw [fate]
        exact ⟨rfl, rfl⟩
      · rw [fate]
        rfl
      · intro unfailed
        exact absurd unfailed (raised_count _)
  | ambiguous has awaiting =>
      refine buckets_ambiguous conserved has .ambiguous rfl rfl ?_ kept rfl rfl rfl rfl rfl rfl rfl
      intro entry earlier here
      rw [here.awaiting awaiting]
      exact ⟨rfl, rfl, rfl⟩
  | ambiguousAfter has accepted =>
      refine buckets_ambiguous conserved has .ambiguousAfterAcceptance rfl rfl ?_ kept rfl rfl rfl
        rfl rfl rfl rfl
      intro entry earlier here
      rw [here.accepted accepted]
      exact ⟨rfl, rfl, rfl⟩

theorem settling_mark (conserved : Conserved job) (marked : Mark rules job next) :
    Settling next := by
  have settled : ∀ pending fate, job.pendingTransfer = some pending → fate.isAwaiting = false →
      next.staged = settleFate fate job.staged → next.pendingTransfer = none →
        Settling next := by
    intro pending fate has settles staged vacant
    rcases conserved.settling.pending pending has with ⟨entry, earlier, here, others⟩
    exact settling_settled here others settles staged vacant
  cases marked with
  | accept block has awaiting =>
      rcases conserved.settling.pending _ has with ⟨entry, earlier, here, others⟩
      exact settling_accepted here others block
  | complete minted has accepted =>
      cases minted <;> exact settled _ .completed has rfl rfl rfl
  | fail has awaiting may => exact settled _ .failed has rfl rfl rfl
  | failAfter has accepted => exact settled _ .failedAfterAcceptance has rfl rfl rfl
  | ambiguous has awaiting => exact settled _ .ambiguous has rfl rfl rfl
  | ambiguousAfter has accepted => exact settled _ .ambiguousAfterAcceptance has rfl rfl rfl

theorem conserved_mark (conserved : Conserved job) (marked : Mark rules job next) :
    Conserved next :=
  conserved_kept conserved (kept_of_mark marked) (known_of_mark marked)
    (settling_mark conserved marked) (buckets_mark conserved marked)

theorem conserved_rest (conserved : Conserved job) (rest : RestNext job next)
    (vacant : job.pendingTransfer = none) (unrefused : next.unsentGross = job.unsentGross) :
    Conserved next := by
  have before := conserved.buckets
  have shares : next.topupShares = job.topupShares := by
    simp only [ActiveRelayJob.topupShares, rest.canisters]
  have gross : next.stagedGross = job.stagedGross := by
    simp only [ActiveRelayJob.stagedGross, rest.staged]
  refine ⟨afforded_rest conserved.toAfforded rest, ?_, ?_, ?_, ⟨?_, ?_, ?_, ?_, ?_⟩⟩
  · rw [rest.balance]
    exact conserved.small
  · rw [rest.fee, shares]
    intro share member
    apply conserved.fees
    rcases List.mem_append.mp member with topup | surplus
    · exact List.mem_append_left _ topup
    · rcases rest.surplus with ⟨same, _⟩ | ⟨_, empty⟩
      · rw [ActiveRelayJob.surplusShares, same] at surplus
        exact List.mem_append_right _ surplus
      · rw [ActiveRelayJob.surplusShares, empty] at surplus
        cases surplus
  · apply settling_of_vacant (rest.pending.trans vacant)
    rw [rest.staged]
    exact conserved.settling.vacant vacant
  · rw [rest.start, rest.balance]
    exact before.start
  · rw [rest.sent, rest.fees, rest.staged]
    exact before.sent
  · rw [rest.known, gross, unrefused, rest.balance, rest.staged]
    exact before.known
  · rw [rest.ambiguous, rest.staged]
    exact before.ambiguous
  · rw [rest.failed, rest.staged]
    exact before.clean

theorem unrefused_rest (rest : RestNext job next) (stands : job.surplusStands = true) :
    next.unsentGross = job.unsentGross := by
  rcases rest.unsent with same | ⟨topups, surplus, refused, _⟩
  · exact same
  · simp [ActiveRelayJob.surplusStands, topups, surplus, refused] at stands

theorem conserved_stagedNext (conserved : Conserved job) {number nowNanos : Nat}
    {source : TransferSource} {share : Share}
    (staged : StagedNext job next number nowNanos source share)
    (vacant : job.pendingTransfer = none) (member : share ∈ job.topupShares ++ job.surplusShares)
    (afforded : Afforded next) : Conserved next := by
  rcases staged.entry with ⟨kind, entries⟩
  have before := conserved.buckets
  have others := conserved.settling.vacant vacant
  have shares : next.topupShares ++ next.surplusShares = job.topupShares ++ job.surplusShares := by
    simp only [ActiveRelayJob.topupShares, ActiveRelayJob.surplusShares, staged.canisters,
      staged.surplus]
  have undecided : ∀ chosen : Fate → Bool, chosen .awaiting = false →
      grossOf chosen next.staged = grossOf chosen job.staged := by
    intro chosen no
    rw [entries, grossOf_cons, no]
    simp
  refine ⟨afforded, ?_, ?_, ⟨?_, ?_⟩, ⟨?_, ?_, ?_, ?_, ?_⟩⟩
  · rw [staged.balance]
    exact conserved.small
  · rw [staged.fee, shares]
    exact conserved.fees
  · intro impossible
    rw [staged.pending, entries] at impossible
    cases impossible
  · intro pending has
    rw [staged.pending, entries] at has
    cases has
    refine ⟨_, _, ⟨entries, rfl, ?_, fun _ => rfl, fun impossible => absurd rfl impossible⟩, others⟩
    rw [staged.fee]
    exact conserved.fees share member staged.positive
  · rw [staged.summary, staged.balance]
    exact before.start
  · rw [staged.summary, undecided _ rfl]
    exact before.sent
  · have known := before.known
    have unsent := staged.unsent
    rw [staged.summary, stagedGross_staged staged, staged.balance, undecided _ rfl]
    omega
  · rw [staged.summary, undecided _ rfl]
    exact before.ambiguous
  · rw [staged.summary, undecided _ rfl]
    exact before.clean

theorem conserved_stage (conserved : Conserved job) {number nowNanos : Nat}
    (stages : StagesOne job next number nowNanos) (vacant : job.pendingTransfer = none) :
    Conserved next := by
  have afforded := afforded_stage conserved.toAfforded stages
  cases stages with
  | topup index share staged member later bound advanced same =>
      exact conserved_stagedNext conserved staged vacant (List.mem_append_left _ member) afforded
  | surplus index share staged member later bound advanced topups forward ended clean =>
      exact conserved_stagedNext conserved staged vacant (List.mem_append_right _ member) afforded

/-- Planning the surplus phase counts anew what is unspent; nothing failed may be forgotten. -/
theorem buckets_planned (conserved : Conserved job) {surplus : List SurplusTransferSample}
    (open_phase : job.surplusPhasePlanned = false) (topups : job.remainingTopups = [])
    (unfailed : grossOf Fate.isFailed job.staged = 0)
    (covered : payableGross job.topupShares +
      payableGross (surplus.map SurplusTransferSample.share) ≤ job.balanceStartE8s) :
    retainedE8s job.balanceStartE8s job.canisters surplus + job.stagedGross +
        payableGross (surplus.map SurplusTransferSample.share) =
      job.balanceStartE8s + grossOf Fate.isFailed job.staged := by
  have before := conserved.open_phase open_phase
  have zero := unsent_of_open topups before.surplus
  have spent := before.topups
  have retained := retained_exact conserved.small covered
  change retainedE8s _ _ _ = job.balanceStartE8s - (payableGross job.topupShares + _) at retained
  rw [retained, unfailed]
  omega

theorem conserved_disable (conserved : Conserved job) (vacant : job.pendingTransfer = none)
    (open_phase : job.surplusPhasePlanned = false)
    (topups : job.remainingTopups = []) (unfailed : grossOf Fate.isFailed job.staged = 0)
    (reason : String) : Conserved (job.disableSurplus reason) := by
  have before := conserved.buckets
  have afforded := afforded_disable conserved.toAfforded open_phase topups reason
  have opened := conserved.open_phase open_phase
  refine ⟨afforded, conserved.small, ?_,
    settling_of_vacant vacant (conserved.settling.vacant vacant),
    ⟨before.start, before.sent, ?_, before.ambiguous, before.clean⟩⟩
  · intro share member
    rcases List.mem_append.mp member with topup | impossible
    · exact conserved.fees share (List.mem_append_left _ topup)
    · cases impossible
  · have unsent : (job.disableSurplus reason).unsentGross = 0 := unsent_of_open topups rfl
    have covered : payableGross job.topupShares +
        payableGross (([] : List SurplusTransferSample).map SurplusTransferSample.share) ≤
          job.balanceStartE8s := by
      have spent := opened.topups
      have funded := conserved.funded
      simp only [List.map_nil, payableGross_nil]
      omega
    have planned := buckets_planned conserved open_phase topups unfailed covered
    rw [unsent]
    exact planned

theorem conserved_surplus (conserved : Conserved job) (vacant : job.pendingTransfer = none)
    (open_phase : job.surplusPhasePlanned = false)
    (topups : job.remainingTopups = []) (clean : job.surplusAllowedAfterTopups = none)
    (recipients : List ResolvedSurplusRecipient) (estimate : Option ConversionEstimate)
    (nowNanos : Nat) (memos : List (Option (List UInt8))) :
    Conserved (job.installSurplus
      (buildSurplusPlan recipients job.summary.knownUnspentE8s job.feeE8s estimate nowNanos)
      memos) := by
  have before := conserved.buckets
  have afforded := afforded_surplus conserved.toAfforded open_phase topups clean recipients
    estimate nowNanos memos
  have funded := buildSurplusPlan_funded recipients job.summary.knownUnspentE8s job.feeE8s
    estimate nowNanos
  have covered := surplus_covered conserved.toAfforded open_phase clean recipients estimate nowNanos
  have planned := buckets_planned conserved open_phase topups
    (before.clean (clean_summary clean)) covered
  refine ⟨afforded, conserved.small, ?_,
    settling_of_vacant vacant (conserved.settling.vacant vacant),
    ⟨before.start, before.sent, ?_, before.ambiguous, before.clean⟩⟩
  · intro share member
    rcases List.mem_append.mp member with topup | surplus
    · exact conserved.fees share (List.mem_append_left _ topup)
    · exact funded.feeAbove share surplus
  · have unsent : (job.installSurplus (buildSurplusPlan recipients job.summary.knownUnspentE8s
          job.feeE8s estimate nowNanos) memos).unsentGross =
        payableGross (job.topupShares.drop job.nextTransferIndex) +
          payableGross ((buildSurplusPlan recipients job.summary.knownUnspentE8s job.feeE8s
            estimate nowNanos).transfers.map SurplusTransferSample.share) := rfl
    rw [unsent, unsent_of_topups topups, Nat.zero_add]
    exact planned

end Moves

/-- What the summary of a completed job reports of its starting balance. -/
structure SummaryConserved (job : ActiveRelayJob) : Prop where
  spent : job.summary.ledgerSentE8s + job.summary.ledgerFeesE8s = grossOf Fate.isSpent job.staged
  ambiguous : job.summary.ambiguousE8s = grossOf Fate.isAmbiguous job.staged
  unspent : job.summary.knownUnspentE8s + job.stagedGross =
    job.summary.defaultAccountBalanceStartE8s + grossOf Fate.isFailed job.staged
  conserved : job.summary.defaultAccountBalanceStartE8s +
      grossOf Fate.isAmbiguousAfterAcceptance job.staged =
    job.summary.ledgerSentE8s + job.summary.ledgerFeesE8s + job.summary.knownUnspentE8s +
      job.summary.ambiguousE8s

theorem summary_conserved {job : ActiveRelayJob} (buckets : Buckets job)
    (settled : grossOf Fate.isAwaiting job.staged = 0) (nothing : job.unsentGross = 0) :
    SummaryConserved job := by
  have start := buckets.start
  have sent := buckets.sent
  have known := buckets.known
  have ambiguous := buckets.ambiguous
  have parts := gross_parts job
  refine ⟨sent, ambiguous, ?_, ?_⟩ <;> omega

theorem returnUnsent_known {job : ActiveRelayJob}
    (fits : job.summary.knownUnspentE8s + job.unsentGross ≤ u64Max) :
    job.returnUnsent.summary.knownUnspentE8s = job.summary.knownUnspentE8s + job.unsentGross := by
  have parts : job.unsentGross =
      payableGross (job.remainingTopups.map CanisterBurnSample.share) +
        payableGross (job.remainingSurplus.map SurplusTransferSample.share) := by
    simp only [ActiveRelayJob.unsentGross, ActiveRelayJob.topupShares,
      ActiveRelayJob.surplusShares, ← List.map_drop]
    rfl
  have summed : ∀ shares, payableGross shares ≤ u64Max →
      satSum u64Max ((shares.filter fun share => decide (0 < share.amountE8s)).map
        Share.grossShareE8s) = payableGross shares := fun shares small => satSum_of_le small
  have topups := satAdd_of_le (show job.summary.knownUnspentE8s +
    payableGross (job.remainingTopups.map CanisterBurnSample.share) ≤ u64Max by omega)
  simp only [ActiveRelayJob.returnUnsent]
  rw [summed _ (by omega), summed _ (by omega), topups, satAdd_of_le (by omega), parts]
  omega

theorem stopped_conserved {job : ActiveRelayJob} (conserved : Conserved job)
    (vacant : job.pendingTransfer = none) (nowNanos : Nat) :
    SummaryConserved (job.returnUnsent.finished nowNanos) := by
  have start := conserved.buckets.start
  have sent := conserved.buckets.sent
  have known := conserved.buckets.known
  have ambiguous := conserved.buckets.ambiguous
  have parts := gross_parts job
  have settled := conserved.settling.vacant vacant
  have failed := grossOf_le Fate.isFailed job
  have small := conserved.small
  have room : job.summary.knownUnspentE8s + job.unsentGross ≤ u64Max := by omega
  have returned := returnUnsent_known room
  have kept : (job.returnUnsent.finished nowNanos).summary.knownUnspentE8s =
      job.summary.knownUnspentE8s + job.unsentGross := returned
  refine ⟨sent, ambiguous, ?_, ?_⟩
  · rw [kept]
    show _ + job.stagedGross = job.summary.defaultAccountBalanceStartE8s +
      grossOf Fate.isFailed job.staged
    omega
  · rw [kept]
    show job.summary.defaultAccountBalanceStartE8s +
        grossOf Fate.isAmbiguousAfterAcceptance job.staged =
      job.summary.ledgerSentE8s + job.summary.ledgerFeesE8s + _ + job.summary.ambiguousE8s
    omega

theorem rule_of_serial {serial own : Nat} {rule : Bool} (same : own = serial)
    (may : (decide (own ≠ serial) || rule) = true) : rule = true := by
  simpa [same] using may

theorem conserved_preserved (serial : Nat) :
    Preserves (summaryRules serial) (fun job => job.serial = serial → Conserved job)
      fun record => record.job.serial = serial → record.completed = true →
        SummaryConserved record.job where
  install := by
    intro view start current balance feeE8s small may same
    exact conserved_install small (rule_of_serial same may)
  mark := by
    intro job next conserved marked same
    exact conserved_mark (conserved ((kept_of_mark marked).serial.symm.trans same)) marked
  plan := by
    intro job next conserved vacant planned same
    cases planned with
    | rest limit started number nowNanos may unplanned =>
        have rest := rest_next unplanned
        have own := rest.serial.symm.trans same
        exact conserved_rest (conserved own) rest vacant
          (unrefused_rest rest (rule_of_serial own may))
    | disable reason open_phase topups may =>
        have before := conserved same
        apply conserved_disable before vacant open_phase topups
        rcases may with clean | may
        · exact before.buckets.clean (clean_summary clean)
        · have unfailed := rule_of_serial same may
          apply grossOf_eq_zero
          simpa using unfailed
    | surplus recipients estimate nowNanos memos open_phase topups clean =>
        exact conserved_surplus (conserved same) vacant open_phase topups clean recipients estimate
          nowNanos memos
  stage := by
    intro job next limit started number nowNanos conserved vacant may planned same
    have stages := (planNextTransfer_planned planned).2
    have own : next.serial = job.serial := by
      cases stages with
      | topup index share staged => exact staged.serial
      | surplus index share staged => exact staged.serial
    exact conserved_stage (conserved (own.symm.trans same)) stages vacant
  complete := by
    intro job nowNanos conserved vacant topups surplus same _
    have before := conserved same
    have nothing : job.unsentGross = 0 := by
      have surplus_sent : job.surplusShares.drop job.surplusTransferIndex = [] := by
        simp only [ActiveRelayJob.surplusShares, ← List.map_drop]
        rw [show job.surplusTransfers.drop job.surplusTransferIndex = [] from surplus]
        rfl
      rw [ActiveRelayJob.unsentGross, unsent_of_topups topups, surplus_sent]
      rfl
    have reported := summary_conserved before.buckets (before.settling.vacant vacant) nothing
    exact ⟨reported.spent, reported.ambiguous, reported.unspent, reported.conserved⟩
  stop := by
    intro job next nowNanos conserved stopped same _
    have before := conserved ((kept_of_stop stopped).serial.symm.trans same)
    cases stopped with
    | failed may has awaiting =>
        exact stopped_conserved (conserved_mark before (.fail has awaiting may)) rfl nowNanos
    | ambiguous has awaiting =>
        have marked : Mark JobRules.any _ _ := .ambiguous has awaiting
        exact stopped_conserved (conserved_mark before marked) rfl nowNanos
  lost := fun job _ _ impossible => (by cases impossible)

/-- Every unit of a completed job's starting balance is reported spent, unspent or ambiguous; a
transfer that became ambiguous after its acceptance is reported both spent and ambiguous. -/
theorem relay_summary_conserved (relayId : Principal) (start sys : JobSystem) (serial : Nat)
    (events : List JobEvent) (started : (jobMachine relayId).init start)
    (complies : (jobMachine relayId).Complies
      (fun sys event => (summaryRules serial).allows sys event = true) start events)
    (ran : (jobMachine relayId).run start events = some sys) :
    ∀ record ∈ sys.state.past, record.job.serial = serial → record.completed = true →
      SummaryConserved record.job :=
  (slots_run (conserved_preserved serial) started complies ran).2.2

def uncertainRun : List JobEvent :=
  limitedRun.dropLast ++ [.resume 0 (.notify .retryable) sampleJobTime,
    .resume 0 (.notify .retryable) sampleJobTime, .resume 0 .resumed sampleJobTime,
    .resume 0 .resumed sampleJobTime]

theorem relay_summary_conserved_uncertain :
    ∃ sys : JobSystem, (sys.state.past.map fun record =>
        (record.job.serial, record.completed, record.job.staged.map Staged.fate)) =
          [(0, true, [.ambiguousAfterAcceptance, .completed])] ∧
      ∀ record ∈ sys.state.past, record.job.serial = 0 → record.completed = true →
        SummaryConserved record.job := by
  have ran : (jobMachine sampleRelay).run sampleJobStart uncertainRun =
      some (((jobMachine sampleRelay).run sampleJobStart uncertainRun).getD sampleJobStart) := by
    rfl
  have checked : (jobMachine sampleRelay).check (summaryRules 0).allows sampleJobStart
      uncertainRun = true := by
    rfl
  exact ⟨_, rfl, relay_summary_conserved sampleRelay sampleJobStart _ 0 uncertainRun ⟨_, _, rfl⟩
    ((jobMachine sampleRelay).complies_of_check checked) ran⟩

/-- The accepted amount is counted again as ambiguous. -/
theorem relay_summary_double_counted :
    ∃ sys, (jobMachine sampleRelay).Reachable sys ∧ ∃ record ∈ sys.state.past,
      record.completed = true ∧
        record.job.summary.defaultAccountBalanceStartE8s ≠
          record.job.summary.ledgerSentE8s + record.job.summary.ledgerFeesE8s +
            record.job.summary.knownUnspentE8s + record.job.summary.ambiguousE8s := by
  have ran : (jobMachine sampleRelay).run sampleJobStart uncertainRun =
      some (((jobMachine sampleRelay).run sampleJobStart uncertainRun).getD sampleJobStart) := by
    rfl
  have reachable : (jobMachine sampleRelay).Reachable
      (((jobMachine sampleRelay).run sampleJobStart uncertainRun).getD sampleJobStart) :=
    ⟨sampleJobStart, uncertainRun, ⟨_, _, rfl⟩, ran⟩
  exact ⟨_, reachable, _, List.mem_cons_self, rfl, by decide +kernel⟩

end JupiterSuite.Relay
