import JupiterSuite.Relay.JobSpending

/-! A transfer marked failed was never debited, provided its rejected dispatch is the only one
of its identity that the ledger could have accepted. -/

namespace JupiterSuite.Relay

open Base

def Numbered : List Staged → Prop
  | [] => True
  | entry :: earlier => entry.number = earlier.length ∧ Numbered earlier

def FailedRefused (ledger : LedgerLog JobTag) (serial : Nat) (entries : List Staged) : Prop :=
  ∀ entry ∈ entries, entry.fate = .failed → ledger.Refused ⟨serial, entry.number⟩

def Awaiting (job : ActiveRelayJob) : Prop :=
  ∃ entry earlier, job.staged = entry :: earlier ∧ entry.fate = .awaiting

structure Unspent (ledger : LedgerLog JobTag) (job : ActiveRelayJob) : Prop where
  numbered : Numbered job.staged
  failed : FailedRefused ledger job.serial job.staged
  awaiting : ∀ pending, job.pendingTransfer = some pending → pending.phase = .awaitingTransfer →
    Awaiting job

def PastUnspent (ledger : LedgerLog JobTag) (record : PastJob) : Prop :=
  FailedRefused ledger record.job.serial record.job.staged

def ActiveRelayJob.tag (job : ActiveRelayJob) : JobTag := ⟨job.serial, job.staged.length - 1⟩

/-- Every dispatch of the identity that a definite error rejects, other than the rejected one,
was itself answered with an error. -/
def unspentRules (sys : JobSystem) : JobEvent → JobRules
  | .resume id _ _ =>
      match sys.tasks id with
      | some (.transfer _ _ _ _ _ call) =>
          { JobRules.any with fail := fun job => sys.ledger.refusedElsewhere job.tag call }
      | _ => JobRules.any
  | _ => JobRules.any

/-- What the rejection then amounts to: no dispatch of the identity is left. -/
def refusedRules (ledger : LedgerLog JobTag) : JobRules :=
  { JobRules.any with fail := fun job => ledger.allRefused job.tag }

variable {entries : List Staged}
variable {fate : Fate} {past : List PastJob} {after before : Slot} {owner : Prop} {rules : JobRules}
  {reply : Option TransferReply} {call : Nat} {sys : JobSystem}

section Moves

variable {ledger : LedgerLog JobTag} {job next : ActiveRelayJob}

theorem numbered_below (numbered : Numbered entries) :
    ∀ entry ∈ entries, entry.number < entries.length := by
  induction entries with
  | nil => simp
  | cons head earlier ih =>
      intro entry member
      rcases List.mem_cons.mp member with rfl | old
      · rw [numbered.1]
        exact Nat.lt_succ_self _
      · exact Nat.lt_succ_of_lt (ih numbered.2 entry old)

theorem numbered_settled (numbered : Numbered entries) (fate : Fate) :
    Numbered (settleFate fate entries) := by
  cases entries with
  | nil => trivial
  | cons head earlier => exact numbered

/-- Only a `failed` fate adds to what must be refused. -/
theorem failedRefused_settled {serial : Nat} (failed : FailedRefused ledger serial entries)
    (numbered : Numbered entries)
    (here : fate = .failed → ledger.Refused ⟨serial, entries.length - 1⟩) :
    FailedRefused ledger serial (settleFate fate entries) := by
  cases entries with
  | nil => exact failed
  | cons head earlier =>
      intro entry member settled
      rcases List.mem_cons.mp member with rfl | old
      · have refused := here settled
        rw [List.length_cons, Nat.add_sub_cancel, ← numbered.1] at refused
        exact refused
      · exact failed entry (List.mem_cons_of_mem _ old) settled

theorem unspent_settled (unspent : Unspent ledger job)
    (staged : next.staged = settleFate fate job.staged) (serial : next.serial = job.serial)
    (pending : ∀ transfer, next.pendingTransfer = some transfer →
      transfer.phase ≠ .awaitingTransfer) (here : fate = .failed → ledger.Refused job.tag) :
    Unspent ledger next := by
  constructor
  · rw [staged]
    exact numbered_settled unspent.numbered fate
  · rw [staged, serial]
    exact failedRefused_settled unspent.failed unspent.numbered here
  · intro transfer has awaiting
    exact absurd awaiting (pending transfer has)

theorem unspent_mark (unspent : Unspent ledger job) (marked : Mark (refusedRules ledger) job next) :
    Unspent ledger next := by
  cases marked with
  | accept block has awaiting =>
      refine unspent_settled unspent rfl rfl ?_ (fun impossible => by cases impossible)
      rintro transfer same impossible
      cases same
      cases impossible
  | complete minted has accepted =>
      cases minted <;>
        exact unspent_settled unspent rfl rfl (fun _ impossible => by cases impossible)
          (fun impossible => by cases impossible)
  | fail has awaiting may =>
      refine unspent_settled unspent rfl rfl (fun _ impossible => by cases impossible) ?_
      intro _
      exact CallLog.allRefused_iff.mp may
  | failAfter has accepted =>
      exact unspent_settled unspent rfl rfl (fun _ impossible => by cases impossible)
        (fun impossible => by cases impossible)
  | ambiguous has awaiting =>
      exact unspent_settled unspent rfl rfl (fun _ impossible => by cases impossible)
        (fun impossible => by cases impossible)
  | ambiguousAfter has accepted =>
      exact unspent_settled unspent rfl rfl (fun _ impossible => by cases impossible)
        (fun impossible => by cases impossible)

theorem unspent_same (unspent : Unspent ledger job) (staged : next.staged = job.staged)
    (serial : next.serial = job.serial)
    (pending : next.pendingTransfer = job.pendingTransfer) : Unspent ledger next := by
  constructor
  · rw [staged]
    exact unspent.numbered
  · rw [staged, serial]
    exact unspent.failed
  · rw [pending]
    intro transfer has awaiting
    rcases unspent.awaiting transfer has awaiting with ⟨entry, earlier, entries, fate⟩
    exact ⟨entry, earlier, staged.trans entries, fate⟩

theorem unspent_stagedNext (unspent : Unspent ledger job) {number nowNanos : Nat}
    {source : TransferSource} {share : Share}
    (staged : StagedNext job next number nowNanos source share) : Unspent ledger next := by
  rcases staged.entry with ⟨kind, entries⟩
  constructor
  · rw [entries]
    exact ⟨rfl, unspent.numbered⟩
  · rw [entries, staged.serial]
    intro entry member settled
    rcases List.mem_cons.mp member with rfl | old
    · cases settled
    · exact unspent.failed entry old settled
  · intro _ _ _
    exact ⟨_, _, entries, rfl⟩

theorem unspent_preserved (ledger : LedgerLog JobTag) :
    Preserves (refusedRules ledger) (Unspent ledger) (PastUnspent ledger) where
  install := by
    intro view start current balance feeE8s _ _
    refine ⟨trivial, ?_, ?_⟩
    · intro entry impossible
      cases impossible
    · intro pending impossible
      cases impossible
  mark := fun job next unspent marked => unspent_mark unspent marked
  plan := by
    intro job next unspent vacant planned
    cases planned with
    | rest limit started number nowNanos may unplanned =>
        have rest := rest_next unplanned
        exact unspent_same unspent rest.staged rest.serial rest.pending
    | disable reason open_phase topups may => exact unspent_same unspent rfl rfl rfl
    | surplus recipients estimate nowNanos memos open_phase topups clean =>
        exact unspent_same unspent rfl rfl rfl
  stage := by
    intro job next limit started number nowNanos unspent vacant may planned
    cases (planNextTransfer_planned planned).2 with
    | topup index share staged => exact unspent_stagedNext unspent staged
    | surplus index share staged => exact unspent_stagedNext unspent staged
  complete := fun job nowNanos unspent _ _ _ => unspent.failed
  stop := by
    intro job next nowNanos unspent stopped
    cases stopped with
    | failed may has awaiting => exact (unspent_mark unspent (.fail has awaiting may)).failed
    | ambiguous has awaiting => exact (unspent_mark unspent (.ambiguous has awaiting)).failed
  lost := fun job unspent => unspent.failed

end Moves

section Serials

def Serials (slot : Slot) : Prop :=
  (∀ job, slot.1 = some job → job.serial = slot.2.length) ∧
    ∀ record ∈ slot.2, record.job.serial < slot.2.length

theorem serials_ended {job next : ActiveRelayJob} (serials : Serials (some job, past))
    (same : next.serial = job.serial) (completed : Bool) :
    Serials (none, ⟨next, completed⟩ :: past) := by
  refine ⟨fun _ impossible => (by cases impossible), ?_⟩
  intro record member
  rcases List.mem_cons.mp member with rfl | earlier
  · have active : job.serial = past.length := serials.1 job rfl
    show next.serial < past.length + 1
    omega
  · exact Nat.lt_succ_of_lt (serials.2 record earlier)

theorem serials_replaced {job next : ActiveRelayJob} (serials : Serials (some job, past))
    (same : next.serial = job.serial) :
    Serials (some next, past) := by
  refine ⟨?_, serials.2⟩
  intro other equal
  cases equal
  rw [same]
  exact serials.1 job rfl

theorem serials_move (serials : Serials before) (moved : Move rules owner before after) :
    Serials after := by
  cases moved with
  | install view start current balance feeE8s past owns may small serial =>
      refine ⟨?_, serials.2⟩
      intro other equal
      cases equal
      exact serial
  | mark past marked => exact serials_replaced serials (kept_of_mark marked).serial
  | plan past owns vacant planned =>
      cases planned with
      | rest limit started number nowNanos may unplanned =>
          exact serials_replaced serials (rest_next unplanned).serial
      | disable reason open_phase topups may => exact serials_replaced serials rfl
      | surplus recipients estimate nowNanos memos open_phase topups clean =>
          exact serials_replaced serials rfl
  | complete past owns vacant topups surplus nowNanos =>
      rename_i job
      have same : (job.finished nowNanos).serial = job.serial := rfl
      exact serials_ended serials same true
  | stop past stopped nowNanos =>
      rename_i job next
      have same : (next.returnUnsent.finished nowNanos).serial = job.serial :=
        (kept_of_stop stopped).serial
      exact serials_ended serials same true

theorem serials_moves (serials : Serials before) (moves : Moves rules owner before after) :
    Serials after := by
  induction moves with
  | refl => exact serials
  | tail _ moved ih => exact serials_move ih moved

end Serials

variable {relayId : Principal}

structure UnspentInvariant (sys : JobSystem) : Prop where
  frame : JobFrame sys
  typed : TypedLog sys.ledger
  serials : Serials sys.state.slot
  slot : SlotHolds (Unspent sys.ledger) (PastUnspent sys.ledger) sys.state.slot

theorem definite_rejection (definite : (transferOnce reply).definite = true) :
    ∃ error, reply = some (.error error) ∧ error.isDuplicate = false := by
  have accepted : ∀ block, (acceptedBlock block).definite = false := by
    intro block
    unfold acceptedBlock
    split <;> rfl
  cases reply with
  | none => cases definite
  | some reply =>
      cases reply with
      | ok block =>
          simp only [transferOnce, accepted] at definite
          cases definite
      | error error =>
          refine ⟨error, rfl, ?_⟩
          cases error <;> first | rfl | (simp only [transferOnce, accepted] at definite; cases definite)

theorem rejected_refused {ledger : LedgerLog JobTag} {tag : JobTag}
    (heard : delivered ledger call reply = true) (definite : (transferOnce reply).definite = true)
    (elsewhere : ledger.refusedElsewhere tag call = true) : ledger.allRefused tag = true := by
  rcases definite_rejection definite with ⟨error, rfl, fresh⟩
  rcases delivered_some.mp heard with ⟨outcome, answered, same⟩
  have rejected : outcome = .rejected error := by
    cases outcome with
    | accepted block => cases same
    | duplicate block =>
        cases same
        cases fresh
    | rejected other =>
        cases same
        rfl
  rw [rejected] at answered
  exact CallLog.allRefused_iff.mpr
    (CallLog.refused_of_except (CallLog.refusedElsewhere_iff.mp elsewhere) answered)

theorem refused_allows {id now : Nat} {reply : JobReply} {kont : JobKont}
    (found : sys.tasks id = some kont) (heard : jobRepliesTo relayId sys kont reply = true)
    (allowed : (unspentRules sys (.resume id reply now)).allows sys (.resume id reply now) = true) :
    (refusedRules sys.ledger).allows sys (.resume id reply now) = true := by
  simp only [JobRules.allows, found, Option.all_some, unspentRules] at allowed ⊢
  unfold JobRules.allowsResume
  split
  · exact Bool.or_true _
  · rfl
  · simp only [JobRules.allowsPass, refusedRules, JobRules.any, Bool.or_true, ite_self]
    cases sys.state.activeJob <;> rfl
  · rename_i tick jobId feeE8s staged call result
    simp only [JobRules.allowsResume, JobRules.allowsOutcome] at allowed ⊢
    cases active : sys.state.activeJob with
    | none => rfl
    | some job =>
        simp only [active, Option.all_some, Bool.or_eq_true, Bool.not_eq_true',
          refusedRules] at allowed ⊢
        rcases allowed with other | elsewhere
        · exact .inl other
        · by_cases definite : (transferOnce result).definite = true
          · exact .inr (rejected_refused heard definite elsewhere)
          · left
            simp [definite]
  · rfl

theorem dispatched_kept {ledger : LedgerLog JobTag} {st : RelayState} {job : ActiveRelayJob}
    {pending : PendingTransfer} {arg : TransferArg}
    (slot : SlotHolds (Unspent ledger) (PastUnspent ledger) st.slot) (serials : Serials st.slot)
    (active : st.activeJob = some job) (has : job.pendingTransfer = some pending)
    (phase : pending.phase = .awaitingTransfer) :
    SlotHolds (Unspent (ledger.dispatch job.tag arg)) (PastUnspent (ledger.dispatch job.tag arg))
      st.slot := by
  have unspent := slot.1 job active
  have own : job.serial = st.past.length := serials.1 job active
  refine ⟨?_, ?_⟩
  · intro other same
    have equal : job = other := Option.some.inj (active.symm.trans same)
    subst equal
    refine ⟨unspent.numbered, ?_, unspent.awaiting⟩
    rcases unspent.awaiting pending has phase with ⟨head, earlier, entries, awaiting⟩
    intro entry member settled
    apply CallLog.refused_dispatch (unspent.failed entry member settled)
    rw [entries] at member
    rcases List.mem_cons.mp member with rfl | old
    · rw [awaiting] at settled
      cases settled
    · have numbered := unspent.numbered
      rw [entries] at numbered
      have below := numbered_below numbered.2 entry old
      intro impossible
      have numbers := congrArg JobTag.number impossible
      simp only [ActiveRelayJob.tag, entries, List.length_cons, Nat.add_sub_cancel] at numbers
      omega
  · intro record member entry present settled
    apply CallLog.refused_dispatch (slot.2 record member entry present settled)
    have older : record.job.serial < st.past.length := serials.2 record member
    intro impossible
    have numbers := congrArg JobTag.job impossible
    simp only [ActiveRelayJob.tag] at numbers
    omega

theorem answered_kept {ledger after : LedgerLog JobTag} {outcome : TransferOutcome} {slot : Slot}
    (held : SlotHolds (Unspent ledger) (PastUnspent ledger) slot)
    (answered : ledger.answer call outcome = some after) :
    SlotHolds (Unspent after) (PastUnspent after) slot := by
  refine ⟨?_, ?_⟩
  · intro job active
    have unspent := held.1 job active
    refine ⟨unspent.numbered, ?_, unspent.awaiting⟩
    intro entry member settled
    exact CallLog.refused_answer (unspent.failed entry member settled) answered
  · intro record member entry present settled
    exact CallLog.refused_answer (held.2 record member entry present settled) answered

theorem unspent_step {next : JobSystem} {event : JobEvent} (invariant : UnspentInvariant sys)
    (allowed : (unspentRules sys event).allows sys event = true)
    (taken : stepJob relayId sys event = some next) : UnspentInvariant next := by
  have frame := frame_step invariant.frame taken
  cases stepJob_cases taken with
  | @begin id now poke =>
      have may : (refusedRules sys.ledger).allows sys (.begin id now poke) = true := rfl
      have slot := slots_step (unspent_preserved sys.ledger) invariant.frame invariant.slot may taken
      rcases beginTick_cases sys.state now poke with same | ⟨lease, _, same⟩
      · rw [same] at slot frame ⊢
        exact ⟨frame, invariant.typed, invariant.serials, slot⟩
      · rw [same] at slot frame ⊢
        exact ⟨frame, invariant.typed, invariant.serials, slot⟩
  | @resume _ _ kont _ result found forward bounded replies resumed =>
      have may := refused_allows found replies allowed
      have slot := slots_step (unspent_preserved sys.ledger) invariant.frame invariant.slot may taken
      rcases resumed_segment invariant.frame found replies resumed may with
        quiet | ⟨tick, job, staged, _, stages⟩
      · have serials := serials_moves invariant.serials quiet.moves
        have paused := quiet.pause
        rcases result with ⟨st, pause⟩
        cases pause with
        | done => exact ⟨frame, invariant.typed, serials, slot⟩
        | await kont => exact ⟨frame, invariant.typed, serials, slot⟩
        | drive lease nowNanos poke => exact ⟨frame, invariant.typed, serials, slot⟩
        | transferring tick jobId feeE8s staged second =>
            rcases paused with ⟨_, _, _, awaiting, matched⟩
            rcases matched_job matched with ⟨job, active, _, has⟩
            have tag : st.currentTag = job.tag := by
              simp only [RelayState.currentTag, active]
              rfl
            refine ⟨frame, typedLog_dispatch invariant.typed _ _, serials, ?_⟩
            show SlotHolds (Unspent (sys.ledger.dispatch st.currentTag _))
              (PastUnspent (sys.ledger.dispatch st.currentTag _)) st.slot
            rw [tag]
            exact dispatched_kept slot serials active has awaiting
      · have entries := (planNextTransfer_planned stages.planned).2
        have serial : staged.serial = job.serial := by
          cases entries with
          | topup index share one => exact one.serial
          | surplus index share one => exact one.serial
        have before := invariant.serials
        rw [slot_of_active stages.active] at before
        rw [stages.result] at slot frame ⊢
        exact ⟨frame, invariant.typed, serials_replaced before serial, slot⟩
  | @abandon id kont cleanup =>
      have may : (refusedRules sys.ledger).allows sys (.abandon id cleanup) = true := rfl
      have slot := slots_step (unspent_preserved sys.ledger) invariant.frame invariant.slot may taken
      refine ⟨frame, invariant.typed, ?_, slot⟩
      cases cleanup <;> exact invariant.serials
  | ledger legal answered =>
      exact ⟨frame, typedLog_answer invariant.typed legal answered, invariant.serials,
        answered_kept invariant.slot answered⟩
  | upgrade config =>
      have may : (refusedRules sys.ledger).allows sys (.upgrade config) = true := rfl
      have slot := slots_step (unspent_preserved sys.ledger) invariant.frame invariant.slot may taken
      refine ⟨frame, invariant.typed, ?_, slot⟩
      have before := invariant.serials
      simp only [RelayState.upgraded, RelayState.slot] at before ⊢
      cases active : sys.state.activeJob with
      | none =>
          rw [active] at before
          exact before
      | some job =>
          rw [active] at before
          exact serials_ended before rfl false

structure UnspentSound (sys : JobSystem) : Prop where
  refused : ∀ job ∈ sys.state.slot.jobs, ∀ entry ∈ job.staged, entry.fate = .failed →
    sys.ledger.Refused ⟨job.serial, entry.number⟩
  never_debited : ∀ job ∈ sys.state.slot.jobs, ∀ entry ∈ job.staged, entry.fate = .failed →
    sys.ledger.debits (fun tag => decide (tag = ⟨job.serial, entry.number⟩)) = 0

theorem known_unspent_sound (relayId : Principal) (start sys : JobSystem)
    (events : List JobEvent) (started : (jobMachine relayId).init start)
    (complies : (jobMachine relayId).Complies
      (fun sys event => (unspentRules sys event).allows sys event = true) start events)
    (ran : (jobMachine relayId).run start events = some sys) : UnspentSound sys := by
  have initial : UnspentInvariant start := by
    refine ⟨frame_init started, ?_, ?_, ?_⟩
    all_goals rcases started with ⟨config, nowNanos, rfl⟩
    · intro call impossible
      cases impossible
    · exact ⟨fun _ impossible => (by cases impossible), fun _ impossible => (by cases impossible)⟩
    · exact ⟨fun _ impossible => (by cases impossible), fun _ impossible => (by cases impossible)⟩
  have invariant : UnspentInvariant sys := (jobMachine relayId).complies_preserves _ _
    (fun _ _ _ before allowed taken => unspent_step before allowed taken) initial complies ran
  have refused : ∀ job ∈ sys.state.slot.jobs, ∀ entry ∈ job.staged, entry.fate = .failed →
      sys.ledger.Refused ⟨job.serial, entry.number⟩ := by
    intro job member
    simp only [Slot.jobs, List.mem_append, Option.mem_toList, List.mem_map] at member
    rcases member with active | ⟨record, earlier, rfl⟩
    · exact (invariant.slot.1 job active).failed
    · exact invariant.slot.2 record earlier
  refine ⟨refused, ?_⟩
  intro job member entry present settled
  apply CallLog.debits_eq_zero
  intro tag chosen
  rw [of_decide_eq_true chosen]
  exact refused job member entry present settled

def retryJobTime : Nat := sampleJobTime + 3600000000000

/-- The first dispatch is answered and its continuation lost; a later tick dispatches the same
transfer again. -/
def retriedRun (first second : TransferOutcome) : List JobEvent :=
  baselineTick 5000000000000 ++ fundedTick 4000000000000 10000000000 ++
    [.resume 0 .resumed sampleJobTime, .resume 0 .resumed sampleJobTime, .ledger 0 first,
      .abandon 0 false, .begin 1 retryJobTime false, .resume 1 (.stages true) retryJobTime,
      .resume 1 .resumed retryJobTime, .ledger 1 second,
      .resume 1 (.transfer (some (transferReply second))) retryJobTime]

/-- Both dispatches were rejected. -/
theorem known_unspent_sound_retried :
    ∃ sys, (sys.state.activeJob.map fun job => job.staged.map Staged.fate) = some [.failed] ∧
      sys.ledger.length = 2 ∧ UnspentSound sys := by
  have ran : (jobMachine sampleRelay).run sampleJobStart
      (retriedRun (.rejected .temporarilyUnavailable) (.rejected .tooOld)) =
        some (((jobMachine sampleRelay).run sampleJobStart
          (retriedRun (.rejected .temporarilyUnavailable) (.rejected .tooOld))).getD
            sampleJobStart) := by
    rfl
  have checked : (jobMachine sampleRelay).check
      (fun sys event => (unspentRules sys event).allows sys event) sampleJobStart
      (retriedRun (.rejected .temporarilyUnavailable) (.rejected .tooOld)) = true := by
    rfl
  exact ⟨_, rfl, rfl, known_unspent_sound sampleRelay sampleJobStart _ _ ⟨_, _, rfl⟩
    ((jobMachine sampleRelay).complies_of_check checked) ran⟩

/-- The reply that reported the acceptance was lost; the retry is refused for its fee, and the
debited amount is counted as unspent. -/
theorem known_unspent_debited :
    ∃ sys, (jobMachine sampleRelay).Reachable sys ∧ ∃ record ∈ sys.state.past,
      record.completed = true ∧ record.job.summary.knownUnspentE8s = 10000000000 ∧
        ∃ entry ∈ record.job.staged, entry.fate = .failed ∧
          sys.ledger.debits
            (fun tag => decide (tag = ⟨record.job.serial, entry.number⟩)) = 1 := by
  have ran : (jobMachine sampleRelay).run sampleJobStart
      (retriedRun (.accepted 7) (.rejected (.badFee 20000))) =
        some (((jobMachine sampleRelay).run sampleJobStart
          (retriedRun (.accepted 7) (.rejected (.badFee 20000)))).getD sampleJobStart) := by
    rfl
  have reachable : (jobMachine sampleRelay).Reachable
      (((jobMachine sampleRelay).run sampleJobStart
        (retriedRun (.accepted 7) (.rejected (.badFee 20000)))).getD sampleJobStart) :=
    ⟨sampleJobStart, _, ⟨_, _, rfl⟩, ran⟩
  exact ⟨_, reachable, _, List.mem_cons_self, rfl, rfl, _, List.mem_cons_self, rfl, rfl⟩

end JupiterSuite.Relay
