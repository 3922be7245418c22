import JupiterSuite.Faucet.TransferIdentities
import JupiterSuite.Faucet.PotAccounts

/-! The jobs of a state against the calls that the ledger saw and the refunds of the CMC. -/

namespace JupiterSuite.Faucet

open Base

/-- A fallback stands right behind the top-up that was replaced or refunded. -/
inductive Fallbacks : List Staged → Prop where
  | nil : Fallbacks []
  | plain {entry : Staged} {rest : List Staged}
      (plain : entry.pending.notification.kind ≠ .cyclesTopUpRawFallback)
      (earlier : Fallbacks rest) : Fallbacks (entry :: rest)
  | fallback {raw entry : Staged} {rest : List Staged}
      (topUp : entry.pending.notification.kind = .beneficiary)
      (same : raw.pending.notification.beneficiary = entry.pending.notification.beneficiary)
      (fate : entry.fate = .replaced ∨ entry.fate = .refunded)
      (earlier : Fallbacks (entry :: rest)) : Fallbacks (raw :: entry :: rest)

def ActivePayoutJob.tagOf (job : ActivePayoutJob) (entry : Staged) : PayoutTag :=
  ⟨job.serial, entry.number⟩

/-- The call was made for a staged transfer of the job. -/
def ActivePayoutJob.Made (config : FaucetConfig) (job : ActivePayoutJob)
    (call : Call PayoutTag TransferArg TransferError) : Prop :=
  ∃ entry ∈ job.staged, call.tag = job.tagOf entry ∧ ∃ account,
    depositAccountForPending config.cmcCanisterId entry.pending.notification = some account ∧
      call.arg = payoutTransferArg config account entry.pending job.feeE8s

def RefundedTag (refunds : List Refund) (tag : PayoutTag) : Prop :=
  ∃ refund ∈ refunds, refund.tag = tag

/-- What holds of a job and its transfers at the clock. -/
structure JobSound (ledger : LedgerLog PayoutTag) (refunds : List Refund) (nowNanos : Nat)
    (job : ActivePayoutJob) : Prop where
  linked : Linked job
  identified : Identified nowNanos job
  balanced : Balanced job
  fallbacks : Fallbacks job.staged
  refused : ∀ entry ∈ job.staged, entry.fate = .failed ∨ entry.fate = .replaced →
    ledger.Refused (job.tagOf entry)
  refunds : ∀ entry ∈ job.staged, entry.fate = .refunded ∨ entry.fate = .refundedBelowFee →
    RefundedTag refunds (job.tagOf entry)

def FaucetState.HasJob (st : FaucetState) (job : ActivePayoutJob) : Prop :=
  st.activePayoutJob = some job ∨ ∃ past ∈ st.past, past.job = job

structure StateSound (ledger : LedgerLog PayoutTag) (refunds : List Refund) (nowNanos : Nat)
    (st : FaucetState) : Prop where
  active : ∀ job, st.activePayoutJob = some job → JobSound ledger refunds nowNanos job
  serial : ∀ job, st.activePayoutJob = some job → job.serial = st.past.length
  unsent : ∀ job pending, st.activePayoutJob = some job → job.Holds pending .awaitingTransfer →
    Disproved job pending st.dispatch → ledger.Refused job.latestTag
  past : ∀ past ∈ st.past, ∃ clock, JobSound ledger refunds clock past.job
  serials : st.past.map (fun past => past.job.serial) = (List.range st.past.length).reverse
  calls : ∀ call ∈ ledger, ∃ job, st.HasJob job ∧ job.Made st.config call

section Numbers

variable {job : ActivePayoutJob} {entry other : Staged} {rest : List Staged}

theorem Linked.number_lt (linked : Linked job) (member : entry ∈ job.staged) :
    entry.number < job.staged.length := by
  have listed : entry.number ∈ job.staged.map Staged.number := List.mem_map_of_mem member
  rw [linked.numbered, List.mem_reverse, List.mem_range] at listed
  exact listed

theorem Linked.number_injective (linked : Linked job) (member : entry ∈ job.staged)
    (also : other ∈ job.staged) (same : entry.number = other.number) : entry = other := by
  have distinct : (job.staged.map Staged.number).Nodup := by
    rw [linked.numbered]
    exact List.nodup_reverse.mpr List.nodup_range
  exact List.inj_on_of_nodup_map distinct member also same

theorem Linked.latest_number (linked : Linked job) (shape : job.staged = entry :: rest) :
    entry.number = rest.length := by
  have numbered := linked.numbered
  rw [shape, List.map_cons, List.length_cons, List.range_succ, List.reverse_append] at numbered
  exact (List.cons.inj numbered).1

theorem Linked.latestTag (linked : Linked job) (shape : job.staged = entry :: rest) :
    job.latestTag = job.tagOf entry := by
  rw [ActivePayoutJob.latestTag, ActivePayoutJob.tagOf, shape, linked.latest_number shape]
  rfl

end Numbers

section Moves

variable {nowNanos : Nat} {rejected refunded : PayoutTag → Prop} {job after : ActivePayoutJob}
  {dispatch result : Option DispatchRecord} {entry : Staged} {rest : List Staged} {fate : Fate}
  {outflowE8s : Nat}

theorem Settles.disproves (settles : Settles refunded job dispatch entry fate outflowE8s)
    (lost : fate = .failed ∨ fate = .replaced) :
    job.Holds entry.pending .awaitingTransfer ∧ Disproved job entry.pending dispatch := by
  cases settles with
  | completed accepted => rcases lost with impossible | impossible <;> cases impossible
  | disproved also awaiting held known => exact ⟨held, known⟩
  | givenUp also awaiting fits => rcases also with rfl | rfl <;> simp at lost
  | closed also accepted => rcases also with rfl | rfl <;> simp at lost
  | refunded also accepted known credited covered => rcases also with rfl | rfl <;> simp at lost

theorem Settles.refunds (settles : Settles refunded job dispatch entry fate outflowE8s)
    (lost : fate = .refunded ∨ fate = .refundedBelowFee) : refunded job.latestTag := by
  cases settles with
  | completed accepted => rcases lost with impossible | impossible <;> cases impossible
  | disproved also awaiting held known => rcases also with rfl | rfl <;> simp at lost
  | givenUp also awaiting fits => rcases also with rfl | rfl <;> simp at lost
  | closed also accepted => rcases also with rfl | rfl <;> simp at lost
  | refunded also accepted known credited covered => exact known

theorem Fallbacks.refate (fallbacks : Fallbacks (entry :: rest)) (fate : Fate) :
    Fallbacks (entry.refate fate :: rest) := by
  cases fallbacks with
  | plain plain earlier => exact .plain plain earlier
  | fallback topUp same fate earlier => exact .fallback topUp same fate earlier

theorem JobMove.retains (move : JobMove nowNanos rejected refunded job dispatch after result)
    (linked : Linked job) : ∀ entry ∈ job.staged,
      ∃ kept ∈ after.staged, kept.number = entry.number ∧ kept.pending = entry.pending := by
  intro entry member
  have refated : ∀ {latest : Staged} {rest : List Staged} {fate : Fate},
      job.staged = latest :: rest →
      ∃ kept ∈ latest.refate fate :: rest, kept.number = entry.number ∧
        kept.pending = entry.pending := by
    intro latest rest fate shape
    rw [shape] at member
    rcases List.mem_cons.mp member with rfl | old
    · exact ⟨entry.refate fate, List.mem_cons_self, rfl, rfl⟩
    · exact ⟨entry, List.mem_cons_of_mem _ old, rfl, rfl⟩
  cases move.effect linked with
  | keep pending outflow next staged record => exact ⟨entry, staged ▸ member, rfl, rfl⟩
  | stage latest idle fresh plain created fits pending outflow next staged =>
      exact ⟨entry, staged ▸ List.mem_cons_of_mem latest member, rfl, rfl⟩
  | accept latest rest block shape awaiting held pending outflow next staged =>
      rw [staged]
      exact refated shape
  | retire latest rest fate shape settles pending next staged =>
      rw [staged]
      exact refated shape
  | restage latest rest fate raw shape topUp same settles covers fresh allocated pending next
      staged =>
      rcases @refated latest rest fate shape with ⟨kept, present, number, pending⟩
      exact ⟨kept, staged ▸ List.mem_cons_of_mem raw present, number, pending⟩

theorem JobMove.entries (move : JobMove nowNanos rejected refunded job dispatch after result)
    (linked : Linked job) : ∀ entry ∈ after.staged, entry ∈ job.staged ∨
      (∃ latest rest, job.staged = latest :: rest ∧ ∃ fate, entry = latest.refate fate ∧
        (fate = .accepted ∨ ∃ outflowE8s, Settles refunded job dispatch latest fate outflowE8s)) ∨
      entry.fate = .awaiting := by
  intro entry member
  cases move.effect linked with
  | keep pending outflow next staged record => exact .inl (staged ▸ member)
  | stage latest idle fresh plain created fits pending outflow next staged =>
      rw [staged] at member
      rcases List.mem_cons.mp member with rfl | old
      · exact .inr (.inr fresh.fate)
      · exact .inl old
  | accept latest rest block shape awaiting held pending outflow next staged =>
      rw [staged] at member
      rcases List.mem_cons.mp member with rfl | old
      · exact .inr (.inl ⟨latest, rest, shape, .accepted, rfl, .inl rfl⟩)
      · exact .inl (shape ▸ List.mem_cons_of_mem latest old)
  | retire latest rest fate shape settles pending next staged =>
      rw [staged] at member
      rcases List.mem_cons.mp member with rfl | old
      · exact .inr (.inl ⟨latest, rest, shape, fate, rfl, .inr ⟨_, settles⟩⟩)
      · exact .inl (shape ▸ List.mem_cons_of_mem latest old)
  | restage latest rest fate raw shape topUp same settles covers fresh allocated pending next
      staged =>
      rw [staged] at member
      rcases List.mem_cons.mp member with rfl | earlier
      · exact .inr (.inr fresh.fate)
      · rcases List.mem_cons.mp earlier with rfl | old
        · exact .inr (.inl ⟨latest, rest, shape, fate, rfl, .inr ⟨_, settles⟩⟩)
        · exact .inl (shape ▸ List.mem_cons_of_mem latest old)

theorem JobMove.fallbacks (move : JobMove nowNanos rejected refunded job dispatch after result)
    (linked : Linked job) (fallbacks : Fallbacks job.staged) : Fallbacks after.staged := by
  cases move.effect linked with
  | keep pending outflow next staged record => exact staged ▸ fallbacks
  | stage latest idle fresh plain created fits pending outflow next staged =>
      rw [staged]
      exact .plain plain fallbacks
  | accept latest rest block shape awaiting held pending outflow next staged =>
      rw [shape] at fallbacks
      rw [staged]
      exact fallbacks.refate .accepted
  | retire latest rest fate shape settles pending next staged =>
      rw [shape] at fallbacks
      rw [staged]
      exact fallbacks.refate fate
  | restage latest rest fate raw shape topUp same settles covers fresh allocated pending next
      staged =>
      rw [shape] at fallbacks
      rw [staged]
      have replaced : fate = .replaced ∨ fate = .refunded := covers.imp And.left And.left
      exact .fallback topUp same replaced (fallbacks.refate fate)

end Moves

variable {call : Call PayoutTag TransferArg TransferError} {config : FaucetConfig} {clock : Nat}

section Soundness

variable {nowNanos : Nat} {ledger : LedgerLog PayoutTag} {refunds : List Refund}
  {job after : ActivePayoutJob} {dispatch result : Option DispatchRecord} {st next : FaucetState}

theorem JobMove.sound
    (move : JobMove nowNanos ledger.Refused (RefundedTag refunds) job dispatch after result)
    (bounded : nowNanos ≤ u64Max)
    (unsent : ∀ pending, job.Holds pending .awaitingTransfer → Disproved job pending dispatch →
      ledger.Refused job.latestTag)
    (sound : JobSound ledger refunds nowNanos job) : JobSound ledger refunds nowNanos after := by
  have linked := sound.linked
  have tags : ∀ entry : Staged, after.tagOf entry = job.tagOf entry := by
    intro entry
    rw [ActivePayoutJob.tagOf, move.terms.serial]
    rfl
  refine ⟨move.linked linked, move.identified linked bounded sound.identified,
    move.balanced linked sound.balanced, move.fallbacks linked sound.fallbacks, ?_, ?_⟩
  · intro entry member lost
    rw [tags]
    rcases move.entries linked entry member with old | ⟨latest, rest, shape, fate, rfl, settled⟩ |
      awaiting
    · exact sound.refused entry old lost
    · rcases settled with rfl | ⟨outflowE8s, settles⟩
      · rcases lost with impossible | impossible <;> cases impossible
      · rcases settles.disproves lost with ⟨held, known⟩
        have refused := unsent latest.pending held known
        rw [linked.latestTag shape] at refused
        exact refused
    · rw [awaiting] at lost
      rcases lost with impossible | impossible <;> cases impossible
  · intro entry member lost
    rw [tags]
    rcases move.entries linked entry member with old | ⟨latest, rest, shape, fate, rfl, settled⟩ |
      awaiting
    · exact sound.refunds entry old lost
    · rcases settled with rfl | ⟨outflowE8s, settles⟩
      · rcases lost with impossible | impossible <;> cases impossible
      · have refunded := settles.refunds lost
        rw [linked.latestTag shape] at refunded
        exact refunded
    · rw [awaiting] at lost
      rcases lost with impossible | impossible <;> cases impossible

/-- A record that the pending transfer was not dispatched stays true. -/
theorem JobMove.unsent {refunded : PayoutTag → Prop}
    (move : JobMove nowNanos ledger.Refused refunded job dispatch after result)
    (linked : Linked job)
    (unsent : ∀ pending, job.Holds pending .awaitingTransfer → Disproved job pending dispatch →
      ledger.Refused job.latestTag)
    (unused : ∀ number, job.staged.length ≤ number → ledger.Refused ⟨job.serial, number⟩) :
    ∀ pending, after.Holds pending .awaitingTransfer → Disproved after pending result →
      ledger.Refused after.latestTag := by
  intro held ⟨holds, phase⟩ disproved
  rcases move.terms with ⟨id, serial, _, _⟩
  cases move.effect linked with
  | keep pending outflow next staged record =>
      rw [ActivePayoutJob.latestTag, serial, staged]
      rcases record with rfl | rejected
      · rw [Disproved, id] at disproved
        exact unsent held ⟨pending ▸ holds, phase⟩ disproved
      · exact rejected
  | stage entry idle fresh plain created fits pending outflow next staged =>
      rw [ActivePayoutJob.latestTag, serial, staged]
      exact unused _ (Nat.le_refl _)
  | accept entry rest block shape awaiting before pending outflow next staged =>
      rw [pending] at holds
      cases holds
      cases phase
  | retire entry rest fate shape settles pending next staged =>
      rw [pending] at holds
      cases holds
  | restage entry rest fate raw shape topUp same settles covers fresh allocated pending next
      staged =>
      rw [ActivePayoutJob.latestTag, serial, staged]
      apply unused
      rw [shape]
      exact Nat.le_refl _

theorem JobMove.made {rejected refunded : PayoutTag → Prop}
    (move : JobMove nowNanos rejected refunded job dispatch after result) (linked : Linked job)
    (made : job.Made config call) : after.Made config call := by
  rcases made with ⟨entry, member, tag, account, destination, arg⟩
  rcases move.retains linked entry member with ⟨kept, present, number, pending⟩
  refine ⟨kept, present, ?_, account, pending ▸ destination, ?_⟩
  · rw [tag, ActivePayoutJob.tagOf, ActivePayoutJob.tagOf, number, move.terms.serial]
  · rw [arg, pending, move.terms.fee]

/-- A tag that no staged transfer bears was never used. -/
theorem StateSound.unused (sound : StateSound ledger refunds nowNanos st)
    (active : st.activePayoutJob = some job) {number : Nat} (beyond : job.staged.length ≤ number) :
    ledger.Refused ⟨job.serial, number⟩ := by
  intro call member same
  rcases sound.calls call member with ⟨owner, owns, entry, present, tag, _⟩
  rw [same, ActivePayoutJob.tagOf, PayoutTag.mk.injEq] at tag
  rcases owns with current | ⟨past, finished, rfl⟩
  · rw [active] at current
    cases current
    have below := (sound.active job active).linked.number_lt present
    omega
  · have listed : past.job.serial ∈ st.past.map fun past => past.job.serial :=
      List.mem_map_of_mem finished
    rw [sound.serials, List.mem_reverse, List.mem_range, ← tag.1, sound.serial job active] at listed
    omega

theorem Advance.sound (bounded : nowNanos ≤ u64Max)
    (advance : Advance nowNanos ledger.Refused (RefundedTag refunds) st next)
    (sound : StateSound ledger refunds nowNanos st) : StateSound ledger refunds nowNanos next := by
  cases advance with
  | quiet => exact ⟨sound.active, sound.serial, sound.unsent, sound.past, sound.serials, sound.calls⟩
  | @move job after dispatch active move =>
      have linked := (sound.active job active).linked
      have serial := move.terms.serial
      have unsent := fun pending => sound.unsent job pending active
      refine ⟨?_, ?_, ?_, sound.past, sound.serials, ?_⟩
      · intro other current
        cases current
        exact move.sound bounded unsent (sound.active job active)
      · intro other current
        cases current
        exact serial.trans (sound.serial job active)
      · intro other pending current held disproved
        cases current
        exact move.unsent linked unsent (fun _ => sound.unused active) pending held disproved
      · intro call member
        rcases sound.calls call member with ⟨owner, owns, made⟩
        rcases owns with current | past
        · rw [active] at current
          cases current
          exact ⟨after, .inl rfl, move.made linked made⟩
        · exact ⟨owner, .inr past, made⟩

theorem Advances.sound (bounded : nowNanos ≤ u64Max)
    (advances : Advances nowNanos ledger.Refused (RefundedTag refunds) st next)
    (sound : StateSound ledger refunds nowNanos st) : StateSound ledger refunds nowNanos next := by
  induction advances with
  | refl => exact sound
  | tail _ advance ih => exact advance.sound bounded ih

end Soundness

section Changes

variable {nowNanos : Nat} {ledger : LedgerLog PayoutTag} {refunds : List Refund}
  {job other : ActivePayoutJob} {st after : FaucetState}

/-- The jobs and the accounts of two states are the same. -/
structure SameJobs (st after : FaucetState) : Prop where
  active : after.activePayoutJob = st.activePayoutJob
  dispatch : after.dispatch = st.dispatch
  past : after.past = st.past
  cmc : after.config.cmcCanisterId = st.config.cmcCanisterId
  subaccount : after.config.payoutSubaccount = st.config.payoutSubaccount

theorem ActivePayoutJob.Made.congr {other : FaucetConfig} (made : job.Made config call)
    (cmc : other.cmcCanisterId = config.cmcCanisterId)
    (subaccount : other.payoutSubaccount = config.payoutSubaccount) : job.Made other call := by
  rcases made with ⟨entry, member, tag, account, destination, arg⟩
  refine ⟨entry, member, tag, account, cmc ▸ destination, ?_⟩
  rw [arg, payoutTransferArg, payoutTransferArg, subaccount]

theorem StateSound.congr (sound : StateSound ledger refunds nowNanos st)
    (same : SameJobs st after) : StateSound ledger refunds nowNanos after := by
  rcases same with ⟨active, dispatch, past, cmc, subaccount⟩
  refine ⟨?_, ?_, ?_, ?_, ?_, ?_⟩
  · rw [active]
    exact sound.active
  · rw [active, past]
    exact sound.serial
  · rw [active, dispatch]
    exact sound.unsent
  · rw [past]
    exact sound.past
  · rw [past]
    exact sound.serials
  · intro call member
    rcases sound.calls call member with ⟨owner, owns, made⟩
    refine ⟨owner, ?_, made.congr cmc subaccount⟩
    rw [FaucetState.HasJob, active, past]
    exact owns

/-- The owner's clock is not behind the transfers of the active job. -/
def Timely (nowNanos : Nat) (st : FaucetState) : Prop :=
  ∀ job, st.activePayoutJob = some job → Identified nowNanos job

theorem JobSound.retime (sound : JobSound ledger refunds clock job)
    (identified : Identified nowNanos job) : JobSound ledger refunds nowNanos job :=
  ⟨sound.linked, identified, sound.balanced, sound.fallbacks, sound.refused, sound.refunds⟩

theorem StateSound.retime (sound : StateSound ledger refunds clock st) (timely : Timely nowNanos st) :
    StateSound ledger refunds nowNanos st :=
  ⟨fun job active => (sound.active job active).retime (timely job active), sound.serial,
    sound.unsent, sound.past, sound.serials, sound.calls⟩

theorem StateSound.of_hasJob (sound : StateSound ledger refunds nowNanos st)
    (has : st.HasJob job) : ∃ clock, JobSound ledger refunds clock job := by
  rcases has with active | ⟨past, finished, rfl⟩
  · exact ⟨nowNanos, sound.active job active⟩
  · exact sound.past past finished

theorem StateSound.serial_injective (sound : StateSound ledger refunds nowNanos st)
    (has : st.HasJob job) (also : st.HasJob other) (same : job.serial = other.serial) :
    job = other := by
  have distinct : (st.past.map fun past => past.job.serial).Nodup := by
    rw [sound.serials]
    exact List.nodup_reverse.mpr List.nodup_range
  have earlier : ∀ past ∈ st.past, past.job.serial < st.past.length := by
    intro past finished
    have listed : past.job.serial ∈ st.past.map fun past => past.job.serial :=
      List.mem_map_of_mem finished
    rw [sound.serials, List.mem_reverse, List.mem_range] at listed
    exact listed
  rcases has with active | ⟨past, finished, rfl⟩
  · rcases also with current | ⟨past, finished, rfl⟩
    · rw [active] at current
      exact Option.some.inj current
    · have below := earlier past finished
      rw [← same, sound.serial job active] at below
      exact absurd below (Nat.lt_irrefl _)
  · rcases also with current | ⟨another, present, rfl⟩
    · have below := earlier past finished
      rw [same, sound.serial other current] at below
      exact absurd below (Nat.lt_irrefl _)
    · rw [List.inj_on_of_nodup_map distinct finished present same]

theorem StateSound.timely (sound : StateSound ledger refunds nowNanos st) {later : Nat}
    (forward : nowNanos ≤ later) : Timely later st :=
  fun job active => (sound.active job active).identified.mono forward

theorem StateSound.later (sound : StateSound ledger refunds nowNanos st) {later : Nat}
    (forward : nowNanos ≤ later) : StateSound ledger refunds later st :=
  sound.retime (sound.timely forward)

end Changes

section Ledger

variable {nowNanos : Nat} {ledger next : LedgerLog PayoutTag} {refunds : List Refund}
  {job : ActivePayoutJob} {st : FaucetState} {tag : PayoutTag} {arg : TransferArg}

theorem JobSound.relog (sound : JobSound ledger refunds nowNanos job)
    (kept : ∀ entry ∈ job.staged, entry.fate = .failed ∨ entry.fate = .replaced →
      ledger.Refused (job.tagOf entry) → next.Refused (job.tagOf entry)) :
    JobSound next refunds nowNanos job :=
  ⟨sound.linked, sound.identified, sound.balanced, sound.fallbacks,
    fun entry member lost => kept entry member lost (sound.refused entry member lost),
    sound.refunds⟩

theorem StateSound.answer {index : Nat} {outcome : TransferOutcome}
    (sound : StateSound ledger refunds nowNanos st)
    (answered : ledger.answer index outcome = some next) :
    StateSound next refunds nowNanos st := by
  have kept : ∀ {tag}, ledger.Refused tag → next.Refused tag :=
    fun refused => CallLog.refused_answer refused answered
  refine ⟨?_, sound.serial, ?_, ?_, sound.serials, ?_⟩
  · intro job active
    exact (sound.active job active).relog fun _ _ _ => kept
  · intro job pending active held disproved
    exact kept (sound.unsent job pending active held disproved)
  · intro past finished
    rcases sound.past past finished with ⟨clock, fine⟩
    exact ⟨clock, fine.relog fun _ _ _ => kept⟩
  · intro call member
    rcases CallLog.mem_answer answered member with ⟨old, present, tags, args, _⟩
    rcases sound.calls old present with ⟨owner, owns, entry, staged, tag, account, destination, arg⟩
    exact ⟨owner, owns, entry, staged, tags.symm.trans tag, account, destination,
      args.symm.trans arg⟩

theorem JobSound.refund (sound : JobSound ledger refunds nowNanos job) (refund : Refund) :
    JobSound ledger (refund :: refunds) nowNanos job := by
  refine ⟨sound.linked, sound.identified, sound.balanced, sound.fallbacks, sound.refused, ?_⟩
  intro entry member lost
  rcases sound.refunds entry member lost with ⟨old, present, tag⟩
  exact ⟨old, List.mem_cons_of_mem refund present, tag⟩

theorem StateSound.refund (sound : StateSound ledger refunds nowNanos st) (refund : Refund) :
    StateSound ledger (refund :: refunds) nowNanos st := by
  refine ⟨fun job active => (sound.active job active).refund refund, sound.serial, sound.unsent, ?_,
    sound.serials, sound.calls⟩
  intro past finished
  rcases sound.past past finished with ⟨clock, fine⟩
  exact ⟨clock, fine.refund refund⟩

theorem StateSound.send (sound : StateSound ledger refunds nowNanos st)
    (active : st.activePayoutJob = some job) {pending : PendingTransfer} {account : Account}
    (held : job.Holds pending .awaitingTransfer)
    (destination : depositAccountForPending st.config.cmcCanisterId pending.notification =
      some account) :
    StateSound (ledger.dispatch job.latestTag (payoutTransferArg st.config account pending
        job.feeE8s)) refunds nowNanos
      (st.setPendingTransferDispatch job.id pending true) := by
  have linked := (sound.active job active).linked
  rcases linked.held_awaiting held with ⟨latest, rest, shape, fate, rfl⟩
  have listed : latest ∈ job.staged := shape ▸ List.mem_cons_self
  rw [linked.latestTag shape]
  refine ⟨?_, sound.serial, ?_, ?_, sound.serials, ?_⟩
  · intro other also
    rw [show (st.setPendingTransferDispatch job.id latest.pending true).activePayoutJob =
      st.activePayoutJob from rfl, active] at also
    cases also
    apply (sound.active job active).relog
    intro entry member lost refused
    apply CallLog.refused_dispatch refused
    intro same
    have number : latest.number = entry.number := congrArg PayoutTag.number same
    rw [← linked.number_injective listed member number, fate] at lost
    rcases lost with impossible | impossible <;> cases impossible
  · intro other pending _ _ disproved
    simp [Disproved, FaucetState.setPendingTransferDispatch] at disproved
  · intro past finished
    rcases sound.past past finished with ⟨clock, fine⟩
    refine ⟨clock, fine.relog fun entry member _ refused => ?_⟩
    apply CallLog.refused_dispatch refused
    intro same
    have serial : job.serial = past.job.serial := congrArg PayoutTag.serial same
    have listed : past.job.serial ∈ st.past.map fun past => past.job.serial :=
      List.mem_map_of_mem finished
    rw [sound.serials, List.mem_reverse, List.mem_range, ← serial, sound.serial job active] at listed
    exact Nat.lt_irrefl _ listed
  · intro call member
    rcases CallLog.mem_dispatch.mp member with old | rfl
    · exact sound.calls call old
    · exact ⟨job, .inl active, latest, listed, rfl, account, destination, rfl⟩

end Ledger

section Jobs

variable {nowNanos : Nat} {ledger : LedgerLog PayoutTag} {refunds : List Refund}
  {job : ActivePayoutJob} {st : FaucetState}

theorem JobSound.start (staged : job.staged = []) (idle : job.pendingTransfer = none)
    (outflow : job.grossOutflowE8s = 0) (pot : job.potStartE8s ≤ u64Max)
    (next : job.nextCreatedAtTimeNanos = nowNanos) : JobSound ledger refunds nowNanos job where
  linked := by
    refine ⟨?_, ?_, ?_, ?_, ?_, ?_⟩
    · rw [staged]
      rfl
    · simp [staged]
    · simp [staged]
    · simp [staged]
    · simp [staged]
    · intro pending held
      rw [idle] at held
      cases held
  identified := by
    refine ⟨nowNanos, Nat.le_refl nowNanos, ?_, ?_⟩
    · rw [staged, next]
      exact .start
    · simp [staged]
  balanced := by
    refine ⟨pot, ?_, ?_, ?_⟩
    · rw [outflow, ActivePayoutJob.charges, staged]
      rfl
    · omega
    · intro pending held
      rcases held with ⟨held, _⟩
      rw [idle] at held
      cases held
  fallbacks := by
    rw [staged]
    exact .nil
  refused := by simp [staged]
  refunds := by simp [staged]

theorem ensureActiveJob_creates (vacant : st.activePayoutJob = none)
    (nowNanos feeE8s denomE8s : Nat) (tranche : FundingTranche) : ∃ job nonce,
      ensureActiveJob st nowNanos feeE8s denomE8s tranche =
        { st with payoutNonce := nonce, activePayoutJob := some job } ∧
      job.staged = [] ∧ job.pendingTransfer = none ∧ job.grossOutflowE8s = 0 ∧
      job.potStartE8s = tranche.amountE8s ∧ job.nextCreatedAtTimeNanos = nowNanos ∧
      job.serial = st.past.length := by
  simp only [ensureActiveJob, vacant, Option.isSome_none, Bool.false_eq_true, if_false]
  cases st.currentRoundStartTimeNanos <;> exact ⟨_, _, rfl, rfl, rfl, rfl, rfl, rfl, rfl⟩

theorem StateSound.create (sound : StateSound ledger refunds nowNanos st)
    (vacant : st.activePayoutJob = none) (feeE8s denomE8s : Nat) {tranche : FundingTranche}
    (pot : tranche.amountE8s ≤ u64Max) :
    StateSound ledger refunds nowNanos (ensureActiveJob st nowNanos feeE8s denomE8s tranche) := by
  rcases ensureActiveJob_creates vacant nowNanos feeE8s denomE8s tranche with
    ⟨job, nonce, same, staged, idle, outflow, amount, next, serial⟩
  rw [same]
  refine ⟨?_, ?_, ?_, sound.past, sound.serials, ?_⟩
  · intro other active
    cases active
    exact .start staged idle outflow (amount ▸ pot) next
  · intro other active
    cases active
    exact serial
  · intro other pending active held
    cases active
    rcases held with ⟨held, _⟩
    rw [idle] at held
    cases held
  · intro call member
    rcases sound.calls call member with ⟨owner, owns, made⟩
    refine ⟨owner, .inr ?_, made⟩
    rcases owns with current | past
    · rw [vacant] at current
      cases current
    · exact past

theorem StateSound.finish (sound : StateSound ledger refunds nowNanos st)
    (active : st.activePayoutJob = some job) :
    StateSound ledger refunds nowNanos (st.finalized job) := by
  refine ⟨?_, ?_, ?_, ?_, ?_, ?_⟩
  · intro other impossible
    cases impossible
  · intro other impossible
    cases impossible
  · intro other pending impossible
    cases impossible
  · intro past finished
    rcases List.mem_cons.mp finished with rfl | old
    · exact ⟨nowNanos, sound.active job active⟩
    · exact sound.past past old
  · show job.serial :: st.past.map _ = (List.range (st.past.length + 1)).reverse
    rw [sound.serials, sound.serial job active, List.range_succ, List.reverse_append]
    rfl
  · intro call member
    rcases sound.calls call member with ⟨owner, owns, made⟩
    refine ⟨owner, .inr ?_, made⟩
    rcases owns with current | ⟨past, finished, same⟩
    · rw [active] at current
      cases current
      exact ⟨_, List.mem_cons_self, rfl⟩
    · exact ⟨past, List.mem_cons_of_mem _ finished, same⟩

end Jobs
end JupiterSuite.Faucet
