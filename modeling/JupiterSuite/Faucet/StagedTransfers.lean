import JupiterSuite.Faucet.PayoutSegments

/-! The record of the staged transfers follows the job: the pending transfer is the latest staged
one, and every other one is settled. What a move makes of the record is said once. -/

namespace JupiterSuite.Faucet

open Base

def Fate.settled : Fate → Bool
  | .awaiting | .accepted => false
  | _ => true

namespace Staged

def grossE8s (entry : Staged) : Nat := entry.pending.notification.grossShareE8s

def createdAt (entry : Staged) : Nat := entry.pending.createdAtTimeNanos

def refate (entry : Staged) (fate : Fate) : Staged := { entry with fate }

end Staged

/-- The pending transfer of the job is the staged one. -/
inductive PendingEntry (pending : PendingTransfer) (entry : Staged) : Prop where
  | awaiting (fate : entry.fate = .awaiting) (same : pending = entry.pending)
  | accepted (blockIndex : Nat) (fate : entry.fate = .accepted)
      (same : pending = entry.pending.acceptAt blockIndex)

structure Linked (job : ActivePayoutJob) : Prop where
  numbered : job.staged.map Staged.number = (List.range job.staged.length).reverse
  awaiting : ∀ entry ∈ job.staged, entry.pending.phase = .awaitingTransfer
  priced : ∀ entry ∈ job.staged,
    entry.pending.notification.amountE8s + job.feeE8s = entry.grossE8s
  settled : ∀ entry ∈ job.staged.tail, entry.fate.settled = true
  idle : job.pendingTransfer = none → ∀ entry ∈ job.staged, entry.fate.settled = true
  latest : ∀ pending, job.pendingTransfer = some pending →
    ∃ entry rest, job.staged = entry :: rest ∧ PendingEntry pending entry

/-- What the moves of a job never change. -/
structure SameTerms (job after : ActivePayoutJob) : Prop where
  id : after.id = job.id
  serial : after.serial = job.serial
  fee : after.feeE8s = job.feeE8s
  pot : after.potStartE8s = job.potStartE8s

section Effects

variable (nowNanos : Nat) (rejected refunded : PayoutTag → Prop) (job : ActivePayoutJob)
  (dispatch : Option DispatchRecord)

/-- How the latest staged transfer is settled, and the outflow that is left then. -/
inductive Settles (entry : Staged) : Fate → Nat → Prop where
  | completed (accepted : entry.fate = .accepted) : Settles entry .completed job.grossOutflowE8s
  | disproved {fate : Fate} (lost : fate = .failed ∨ fate = .replaced)
      (awaiting : entry.fate = .awaiting) (held : job.Holds entry.pending .awaitingTransfer)
      (known : Disproved job entry.pending dispatch) : Settles entry fate job.grossOutflowE8s
  | givenUp {fate : Fate} (lost : fate = .ambiguous ∨ fate = .unusable)
      (awaiting : entry.fate = .awaiting)
      (fits : job.grossOutflowE8s + entry.grossE8s ≤ job.potStartE8s) :
      Settles entry fate (job.grossOutflowE8s + entry.grossE8s)
  | closed {fate : Fate} (lost : fate = .failedAfterAcceptance ∨ fate = .ambiguousAfterAcceptance)
      (accepted : entry.fate = .accepted) : Settles entry fate job.grossOutflowE8s
  | refunded {fate : Fate} {creditE8s : Nat} (lost : fate = .refunded ∨ fate = .refundedBelowFee)
      (accepted : entry.fate = .accepted) (known : refunded job.latestTag)
      (credited : creditE8s + 4 * job.feeE8s = entry.grossE8s)
      (covered : creditE8s ≤ job.grossOutflowE8s) :
      Settles entry fate (job.grossOutflowE8s - creditE8s)

/-- A transfer that was just staged behind `number` others. -/
structure Fresh (number : Nat) (entry : Staged) : Prop where
  number : entry.number = number
  now : entry.nowNanos = nowNanos
  next : entry.nextNanos = job.nextCreatedAtTimeNanos
  fate : entry.fate = .awaiting
  phase : entry.pending.phase = .awaitingTransfer
  priced : entry.pending.notification.amountE8s + job.feeE8s = entry.grossE8s

/-- A move, by what becomes of the pending transfer. -/
inductive Effect (after : ActivePayoutJob) (result : Option DispatchRecord) : Prop where
  | keep (pending : after.pendingTransfer = job.pendingTransfer)
      (outflow : after.grossOutflowE8s = job.grossOutflowE8s)
      (next : after.nextCreatedAtTimeNanos = job.nextCreatedAtTimeNanos)
      (staged : after.staged = job.staged) (record : result = dispatch ∨ rejected job.latestTag)
  | stage (entry : Staged) (idle : job.pendingTransfer = none)
      (fresh : Fresh nowNanos job job.staged.length entry)
      (plain : entry.pending.notification.kind ≠ .cyclesTopUpRawFallback)
      (created : entry.createdAt = job.candidateCreatedAtTime nowNanos)
      (fits : job.grossOutflowE8s + entry.grossE8s ≤ job.potStartE8s)
      (pending : after.pendingTransfer = some entry.pending)
      (outflow : after.grossOutflowE8s = job.grossOutflowE8s)
      (next : after.nextCreatedAtTimeNanos = satAdd u64Max entry.createdAt 1)
      (staged : after.staged = entry :: job.staged)
  | accept (entry : Staged) (rest : List Staged) (blockIndex : Nat)
      (shape : job.staged = entry :: rest) (awaiting : entry.fate = .awaiting)
      (held : job.pendingTransfer = some entry.pending)
      (pending : after.pendingTransfer = some (entry.pending.acceptAt blockIndex))
      (outflow : after.grossOutflowE8s = satAdd u64Max job.grossOutflowE8s entry.grossE8s)
      (next : after.nextCreatedAtTimeNanos = job.nextCreatedAtTimeNanos)
      (staged : after.staged = entry.refate .accepted :: rest)
  | retire (entry : Staged) (rest : List Staged) (fate : Fate)
      (shape : job.staged = entry :: rest)
      (settles : Settles refunded job dispatch entry fate after.grossOutflowE8s)
      (pending : after.pendingTransfer = none)
      (next : after.nextCreatedAtTimeNanos = job.nextCreatedAtTimeNanos)
      (staged : after.staged = entry.refate fate :: rest)
  | restage (entry : Staged) (rest : List Staged) (fate : Fate) (raw : Staged)
      (shape : job.staged = entry :: rest)
      (topUp : entry.pending.notification.kind = .beneficiary)
      (same : raw.pending.notification.beneficiary = entry.pending.notification.beneficiary)
      (settles : Settles refunded job dispatch entry fate after.grossOutflowE8s)
      (covers : fate = .replaced ∧ raw.grossE8s = entry.grossE8s ∨
        fate = .refunded ∧ after.grossOutflowE8s + raw.grossE8s = job.grossOutflowE8s)
      (fresh : Fresh nowNanos job job.staged.length raw)
      (allocated : job.freshTransitionCreatedAtTime nowNanos entry.createdAt =
        some (raw.createdAt, { job with nextCreatedAtTimeNanos := raw.createdAt + 1 }))
      (pending : after.pendingTransfer = some raw.pending)
      (next : after.nextCreatedAtTimeNanos = satAdd u64Max raw.createdAt 1)
      (staged : after.staged = raw :: entry.refate fate :: rest)

end Effects

section Entries

variable {job after : ActivePayoutJob} {pending : PendingTransfer} {entry : Staged}

theorem PendingEntry.of_awaiting (found : PendingEntry pending entry)
    (phase : pending.phase = .awaitingTransfer) : entry.fate = .awaiting ∧ pending = entry.pending := by
  cases found with
  | awaiting fate same => exact ⟨fate, same⟩
  | accepted blockIndex fate same =>
      rw [same] at phase
      cases phase

theorem PendingEntry.of_accepted (found : PendingEntry pending entry)
    (awaited : entry.pending.phase = .awaitingTransfer)
    (phase : pending.phase = .transferAccepted) :
    entry.fate = .accepted ∧ ∃ blockIndex, pending = entry.pending.acceptAt blockIndex := by
  cases found with
  | awaiting fate same =>
      rw [same, awaited] at phase
      cases phase
  | accepted blockIndex fate same => exact ⟨fate, blockIndex, same⟩

namespace Linked

theorem held_awaiting (linked : Linked job) (held : job.Holds pending .awaitingTransfer) :
    ∃ entry rest, job.staged = entry :: rest ∧ entry.fate = .awaiting ∧
      pending = entry.pending := by
  rcases linked.latest pending held.1 with ⟨entry, rest, shape, found⟩
  exact ⟨entry, rest, shape, found.of_awaiting held.2⟩

theorem held_accepted (linked : Linked job) (held : job.Holds pending .transferAccepted) :
    ∃ entry rest blockIndex, job.staged = entry :: rest ∧ entry.fate = .accepted ∧
      pending = entry.pending.acceptAt blockIndex := by
  rcases linked.latest pending held.1 with ⟨entry, rest, shape, found⟩
  have awaited := linked.awaiting entry (shape ▸ List.mem_cons_self)
  rcases found.of_accepted awaited held.2 with ⟨fate, blockIndex, same⟩
  exact ⟨entry, rest, blockIndex, shape, fate, same⟩

theorem congr (linked : Linked job) (fee : after.feeE8s = job.feeE8s)
    (pending : after.pendingTransfer = job.pendingTransfer)
    (staged : after.staged = job.staged) : Linked after where
  numbered := staged ▸ linked.numbered
  awaiting := staged ▸ linked.awaiting
  priced := by
    rw [staged, fee]
    exact linked.priced
  settled := staged ▸ linked.settled
  idle := fun vacant => staged ▸ linked.idle (pending ▸ vacant)
  latest := fun other found => staged ▸ linked.latest other (pending ▸ found)

theorem refate (linked : Linked job) {rest : List Staged} {fate : Fate}
    (fee : after.feeE8s = job.feeE8s) (shape : job.staged = entry :: rest)
    (staged : after.staged = entry.refate fate :: rest)
    (idle : after.pendingTransfer = none → fate.settled = true)
    (latest : ∀ pending, after.pendingTransfer = some pending →
      PendingEntry pending (entry.refate fate)) : Linked after := by
  rcases linked with ⟨numbered, awaiting, priced, settled, _, _⟩
  rw [shape] at numbered awaiting priced settled
  rw [List.forall_mem_cons] at awaiting priced
  refine ⟨?_, ?_, ?_, ?_, ?_, fun pending found => ⟨_, rest, staged, latest pending found⟩⟩
  · rw [staged]
    exact numbered
  · rw [staged]
    exact List.forall_mem_cons.mpr awaiting
  · rw [staged, fee]
    exact List.forall_mem_cons.mpr priced
  · rw [staged]
    exact settled
  · intro vacant
    rw [staged]
    exact List.forall_mem_cons.mpr ⟨idle vacant, settled⟩

theorem stage (linked : Linked job) {nowNanos : Nat} {before : ActivePayoutJob}
    (settled : ∀ other ∈ job.staged, other.fate.settled = true)
    (fresh : Fresh nowNanos before job.staged.length entry) (fee : before.feeE8s = job.feeE8s)
    (kept : after.feeE8s = job.feeE8s) (pending : after.pendingTransfer = some entry.pending)
    (staged : after.staged = entry :: job.staged) : Linked after where
  numbered := by
    rw [staged, List.map_cons, linked.numbered, fresh.number, List.length_cons, List.range_succ,
      List.reverse_append]
    rfl
  awaiting := by
    rw [staged]
    exact List.forall_mem_cons.mpr ⟨fresh.phase, linked.awaiting⟩
  priced := by
    rw [staged, kept]
    exact List.forall_mem_cons.mpr ⟨fee ▸ fresh.priced, linked.priced⟩
  settled := by
    rw [staged]
    exact settled
  idle := by
    intro impossible
    rw [pending] at impossible
    cases impossible
  latest := by
    intro other same
    rw [pending] at same
    cases same
    exact ⟨entry, job.staged, staged, .awaiting fresh.fate rfl⟩

end Linked
end Entries

section Moves

variable {nowNanos : Nat} {rejected refunded : PayoutTag → Prop} {job after : ActivePayoutJob}
  {dispatch result : Option DispatchRecord} {pending : PendingTransfer}

theorem settle_staged {entry : Staged} {rest : List Staged} {fate : Fate → Fate}
    (shape : job.staged = entry :: rest) :
    (job.settle fate).staged = entry.refate (fate entry.fate) :: rest := by
  rw [ActivePayoutJob.settle, shape]
  rfl

theorem chargedOutflow_some {notification : PendingNotification} {total : Nat} :
    FaucetState.chargedOutflow job notification = some total ↔
      job.grossOutflowE8s + notification.grossShareE8s ≤ u64Max ∧
        total = job.grossOutflowE8s + notification.grossShareE8s ∧ total ≤ job.potStartE8s := by
  simp only [FaucetState.chargedOutflow, Option.filter_eq_some_iff, checkedAdd_eq_some,
    decide_eq_true_eq, and_assoc]

theorem refundCredit_some {notification : PendingNotification} {feeE8s credit : Nat}
    (credited : refundCreditE8s notification feeE8s = some credit) :
    credit + 4 * feeE8s = notification.grossShareE8s := by
  simp only [refundCreditE8s, Option.bind_eq_bind, Option.bind_eq_some_iff, checkedSub_eq_some,
    Option.ite_none_left_eq_some, checkedMul_eq_some] at credited
  rcases credited with ⟨original, ⟨paid, rfl⟩, _, attempt, ⟨_, rfl⟩, value, ⟨kept, rfl⟩, rest, rfl⟩
  omega

theorem countTerminal_fields (job : ActivePayoutJob) (kind : TransferKind)
    (status : PendingTransferTerminalStatus) :
    SameTransfers job (job.countTerminal kind status) := by
  cases status <;> simp only [ActivePayoutJob.countTerminal] <;> split <;>
    exact ⟨rfl, rfl, rfl, rfl, rfl, rfl, rfl, rfl⟩

theorem applyNotified_fields (job : ActivePayoutJob) (notification : PendingNotification) :
    SameTransfers job (job.applyNotifiedTransfer notification) := by
  simp only [ActivePayoutJob.applyNotifiedTransfer]
  split <;> exact ⟨rfl, rfl, rfl, rfl, rfl, rfl, rfl, rfl⟩

theorem Settles.retire {entry : Staged} {rest : List Staged} {fate : Fate} {outflowE8s : Nat}
    (settles : Settles refunded job dispatch entry fate outflowE8s)
    (shape : job.staged = entry :: rest) (outflow : after.grossOutflowE8s = outflowE8s)
    (pending : after.pendingTransfer = none)
    (next : after.nextCreatedAtTimeNanos = job.nextCreatedAtTimeNanos)
    (staged : after.staged = entry.refate fate :: rest) :
    Effect nowNanos rejected refunded job dispatch after result :=
  .retire entry rest fate shape (outflow ▸ settles) pending next staged

theorem Settles.close {entry first : Staged} {rest : List Staged} {fate : Fate} {outflowE8s : Nat}
    {base : ActivePayoutJob} {status : PendingTransferTerminalStatus}
    (settles : Settles refunded job dispatch entry fate outflowE8s)
    (shape : job.staged = entry :: rest) (kept : base.staged = first :: rest)
    (closed : first.refate (status.close first.fate) = entry.refate fate)
    (outflow : base.grossOutflowE8s = outflowE8s)
    (next : base.nextCreatedAtTimeNanos = job.nextCreatedAtTimeNanos) :
    Effect nowNanos rejected refunded job dispatch (base.close pending status) result := by
  have same := countTerminal_fields base pending.notification.kind status
  have staged := @settle_staged _ first rest status.close (same.staged.trans kept)
  rw [closed] at staged
  exact settles.retire shape (same.outflow.trans outflow) rfl (same.nextCreatedAt.trans next) staged

theorem restaged_staged {base : ActivePayoutJob} {entry settled : Staged} {rest : List Staged}
    {nextNanos : Nat} (shape : job.staged = entry :: rest) (kept : base.staged = settled :: rest) :
    (base.stage pending nowNanos nextNanos).staged =
      ⟨job.staged.length, pending, nowNanos, nextNanos, .awaiting⟩ :: settled :: rest := by
  rw [ActivePayoutJob.stage, kept, shape]
  rfl

theorem close_terms (job : ActivePayoutJob) (pending : PendingTransfer)
    (status : PendingTransferTerminalStatus) : SameTerms job (job.close pending status) := by
  have same := countTerminal_fields job pending.notification.kind status
  exact ⟨same.id, same.serial, same.fee, same.pot⟩

theorem JobMove.terms (move : JobMove nowNanos rejected refunded job dispatch after result) :
    SameTerms job after := by
  cases move with
  | scan same => exact ⟨same.id, same.serial, same.fee, same.pot⟩
  | stage => exact ⟨rfl, rfl, rfl, rfl⟩
  | disprove => exact ⟨rfl, rfl, rfl, rfl⟩
  | accept => exact ⟨rfl, rfl, rfl, rfl⟩
  | @complete pending held =>
      have same := applyNotified_fields job pending.notification
      exact ⟨same.id, same.serial, same.fee, same.pot⟩
  | fail held disproved => exact close_terms _ _ _
  | @giveUp pending total held charged =>
      have same := close_terms { job with grossOutflowE8s := total } pending .ambiguous
      exact ⟨same.id, same.serial, same.fee, same.pot⟩
  | @unusable pending total held charged =>
      have same := countTerminal_fields job pending.notification.kind .ambiguous
      exact ⟨same.id, same.serial, same.fee, same.pot⟩
  | close status held => exact close_terms _ _ _
  | replace held topUp disproved allocated staged =>
      rcases freshTransition_some allocated with ⟨_, _, _, _, rfl⟩
      exact ⟨rfl, rfl, rfl, rfl⟩
  | refund held topUp known credited covered above allocated staged =>
      rcases freshTransition_some allocated with ⟨_, _, _, _, rfl⟩
      exact ⟨rfl, rfl, rfl, rfl⟩
  | @refundBelowFee pending credit released held topUp known credited covered =>
      have same := close_terms ({ job with grossOutflowE8s := released }.settle
        fun _ => .refundedBelowFee) pending .failed
      exact ⟨same.id, same.serial, same.fee, same.pot⟩

theorem JobMove.effect (move : JobMove nowNanos rejected refunded job dispatch after result)
    (linked : Linked job) : Effect nowNanos rejected refunded job dispatch after result := by
  cases move with
  | scan same => exact .keep same.pending same.outflow same.nextCreatedAt same.staged (.inl rfl)
  | @stage notification idle fits plain pending staged =>
      subst staged
      rw [Option.isSome_iff_exists] at fits
      rcases fits with ⟨total, charged⟩
      rcases chargedOutflow_some.mp charged with ⟨_, rfl, within⟩
      let entry : Staged := ⟨job.staged.length, ⟨notification, job.candidateCreatedAtTime nowNanos,
        .awaitingTransfer⟩, nowNanos, job.nextCreatedAtTimeNanos, .awaiting⟩
      exact .stage entry idle ⟨rfl, rfl, rfl, rfl, rfl, plain.priced⟩ plain.kind rfl within rfl rfl
        rfl rfl
  | disprove held known => exact .keep rfl rfl rfl rfl (.inr known)
  | @accept pending block held =>
      rcases linked.held_awaiting held with ⟨entry, rest, shape, fate, rfl⟩
      exact .accept entry rest block shape fate held.1 rfl rfl rfl (settle_staged shape)
  | @complete pending held =>
      rcases linked.held_accepted held with ⟨entry, rest, block, shape, fate, rfl⟩
      have same := applyNotified_fields job (entry.pending.acceptAt block).notification
      have staged := @settle_staged _ entry rest (fun _ => .completed) (same.staged.trans shape)
      exact (Settles.completed fate).retire shape same.outflow rfl same.nextCreatedAt staged
  | @fail pending held disproved =>
      rcases linked.held_awaiting held with ⟨entry, rest, shape, fate, rfl⟩
      exact (Settles.disproved (.inl rfl) fate held disproved).close shape shape (by rw [fate]; rfl)
        rfl rfl
  | @giveUp pending total held charged =>
      rcases linked.held_awaiting held with ⟨entry, rest, shape, fate, rfl⟩
      rcases chargedOutflow_some.mp charged with ⟨_, rfl, within⟩
      have settles : Settles refunded job dispatch entry .ambiguous _ :=
        .givenUp (.inl rfl) fate within
      exact settles.close shape shape (by rw [fate]; rfl) rfl rfl
  | @unusable pending total held charged =>
      rcases linked.held_awaiting held with ⟨entry, rest, shape, fate, rfl⟩
      rcases chargedOutflow_some.mp charged with ⟨_, rfl, within⟩
      have same := countTerminal_fields job entry.pending.notification.kind .ambiguous
      have staged := @settle_staged _ entry rest (fun _ => .unusable) (same.staged.trans shape)
      exact (Settles.givenUp (.inr rfl) fate within).retire shape rfl rfl same.nextCreatedAt staged
  | @close pending status held =>
      rcases linked.held_accepted held with ⟨entry, rest, block, shape, fate, rfl⟩
      cases status with
      | failed => exact (Settles.closed (.inl rfl) fate).close shape shape (by rw [fate]; rfl) rfl rfl
      | ambiguous =>
          exact (Settles.closed (.inr rfl) fate).close shape shape (by rw [fate]; rfl) rfl rfl
  | @replace pending raw created fresh held topUp disproved allocated staged =>
      rcases linked.held_awaiting held with ⟨entry, rest, shape, fate, rfl⟩
      rcases freshTransition_some allocated with ⟨_, _, room, _, rfl⟩
      have priced := linked.priced entry (shape ▸ List.mem_cons_self)
      subst staged
      let next : Staged := ⟨job.staged.length, ⟨rawFallback entry.pending.notification
        entry.grossE8s entry.pending.notification.amountE8s, created, .awaitingTransfer⟩, nowNanos,
        job.nextCreatedAtTimeNanos, .awaiting⟩
      have staged := @settle_staged { job with nextCreatedAtTimeNanos := created + 1 } entry rest
        (fun _ => .replaced) shape
      exact .restage entry rest .replaced next shape topUp rfl
        (.disproved (.inr rfl) fate held disproved) (.inl ⟨rfl, rfl⟩)
        ⟨rfl, rfl, rfl, rfl, rfl, priced⟩ allocated rfl (satAdd_of_le room).symm
        (restaged_staged shape staged)
  | @refund pending raw created credit released fresh held topUp known credited covered above
      allocated staged =>
      rcases linked.held_accepted held with ⟨entry, rest, block, shape, fate, rfl⟩
      rcases freshTransition_some allocated with ⟨_, _, room, _, rfl⟩
      rcases checkedSub_eq_some.mp covered with ⟨enough, rfl⟩
      subst staged
      let next : Staged := ⟨job.staged.length, ⟨rawFallback (entry.pending.acceptAt block).notification
        credit (credit - job.feeE8s), created, .awaitingTransfer⟩, nowNanos,
        job.nextCreatedAtTimeNanos, .awaiting⟩
      have staged := @settle_staged { job with
        nextCreatedAtTimeNanos := created + 1
        grossOutflowE8s := job.grossOutflowE8s - credit } entry rest (fun _ => .refunded) shape
      exact .restage entry rest .refunded next shape topUp rfl
        (.refunded (.inl rfl) fate known (refundCredit_some credited) enough)
        (.inr ⟨rfl, Nat.sub_add_cancel enough⟩)
        ⟨rfl, rfl, rfl, rfl, rfl, Nat.sub_add_cancel above.le⟩ allocated rfl (satAdd_of_le room).symm
        (restaged_staged shape staged)
  | @refundBelowFee pending credit released held topUp known credited covered =>
      rcases linked.held_accepted held with ⟨entry, rest, block, shape, fate, rfl⟩
      rcases checkedSub_eq_some.mp covered with ⟨enough, rfl⟩
      have settles : Settles refunded job dispatch entry .refundedBelowFee _ :=
        .refunded (.inr rfl) fate known (refundCredit_some credited) enough
      have staged := @settle_staged { job with grossOutflowE8s := job.grossOutflowE8s - credit } entry
        rest (fun _ => .refundedBelowFee) shape
      exact settles.close shape staged rfl rfl rfl

theorem Settles.settled {entry : Staged} {fate : Fate} {outflowE8s : Nat}
    (settles : Settles refunded job dispatch entry fate outflowE8s) : fate.settled = true := by
  cases settles with
  | completed accepted => rfl
  | disproved lost awaiting held known => rcases lost with rfl | rfl <;> rfl
  | givenUp lost awaiting fits => rcases lost with rfl | rfl <;> rfl
  | closed lost accepted => rcases lost with rfl | rfl <;> rfl
  | refunded lost accepted known credited covered => rcases lost with rfl | rfl <;> rfl

theorem JobMove.linked (move : JobMove nowNanos rejected refunded job dispatch after result)
    (linked : Linked job) : Linked after := by
  have fee := move.terms.fee
  cases move.effect linked with
  | keep pending outflow next staged record => exact linked.congr fee pending staged
  | stage entry idle fresh plain created fits pending outflow next staged =>
      exact linked.stage (linked.idle idle) fresh rfl fee pending staged
  | accept entry rest block shape awaiting held pending outflow next staged =>
      apply linked.refate fee shape staged
      · intro impossible
        rw [pending] at impossible
        cases impossible
      · intro other found
        rw [pending] at found
        cases found
        exact .accepted block rfl rfl
  | retire entry rest fate shape settles pending next staged =>
      apply linked.refate fee shape staged fun _ => settles.settled
      intro other impossible
      rw [pending] at impossible
      cases impossible
  | restage entry rest fate raw shape topUp same settles covers fresh allocated pending next
      staged =>
      -- The settled transfer first, then the fallback behind it.
      let settled := { job with pendingTransfer := none, staged := entry.refate fate :: rest }
      have same : settled.feeE8s = job.feeE8s := rfl
      have retired : Linked settled := by
        apply linked.refate same shape rfl fun _ => settles.settled
        intro other impossible
        cases impossible
      rw [shape] at fresh
      exact retired.stage (retired.idle rfl) fresh rfl fee pending staged

end Moves
end JupiterSuite.Faucet
