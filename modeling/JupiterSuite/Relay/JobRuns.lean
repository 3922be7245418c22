import JupiterSuite.Relay.JobMoves
import JupiterSuite.Relay.SplitterSafety

/-! From the moves of one segment to whole runs: what the moves preserve of every job, each
event preserves. -/

namespace JupiterSuite.Relay

open Base

/-- A property of jobs, and of jobs that left the slot, that the moves preserve. -/
structure Preserves (rules : JobRules) (holds : ActiveRelayJob → Prop) (ended : PastJob → Prop) :
    Prop where
  install : ∀ view start current balance feeE8s, balance ≤ u64Max →
    rules.install view start current balance feeE8s →
      holds (buildJob view start current balance feeE8s)
  mark : ∀ job next, holds job → Mark rules job next → holds next
  plan : ∀ job next, holds job → job.pendingTransfer = none → Planning rules job next → holds next
  stage : ∀ job next limit started number nowNanos, holds job → job.pendingTransfer = none →
    rules.plan job nowNanos →
      job.planNextTransfer limit started number nowNanos = (next, .planned) → holds next
  complete : ∀ job nowNanos, holds job → job.pendingTransfer = none → job.remainingTopups = [] →
    job.remainingSurplus = [] → ended ⟨job.finished nowNanos, true⟩
  stop : ∀ job next nowNanos, holds job → Stopping rules job next →
    ended ⟨next.returnUnsent.finished nowNanos, true⟩
  lost : ∀ job, holds job → ended ⟨job, false⟩

def SlotHolds (holds : ActiveRelayJob → Prop) (ended : PastJob → Prop) (slot : Slot) : Prop :=
  (∀ job, slot.1 = some job → holds job) ∧ ∀ record ∈ slot.2, ended record

variable {rules : JobRules} {holds : ActiveRelayJob → Prop} {ended : PastJob → Prop}
variable {job : ActiveRelayJob} {past : List PastJob} {after : Slot} {owner : Prop}
  {st next : RelayState} {kont : JobKont} {id now : Nat} {sys : JobSystem}

theorem slotHolds_active (here : holds job) (records : ∀ record ∈ past, ended record) :
    SlotHolds holds ended (some job, past) := by
  refine ⟨?_, records⟩
  intro other same
  cases same
  exact here

theorem slotHolds_ended {record : PastJob} (here : ended record)
    (records : ∀ record ∈ past, ended record) :
    SlotHolds holds ended (none, record :: past) := by
  refine ⟨fun _ impossible => (by cases impossible), ?_⟩
  intro other member
  rcases List.mem_cons.mp member with rfl | earlier
  · exact here
  · exact records other earlier

variable {before : Slot} {lease : Nat} {result : RelayState × JobPause} {event : JobEvent}

theorem move_preserves (preserves : Preserves rules holds ended)
    (slot : SlotHolds holds ended before) (moved : Move rules owner before after) :
    SlotHolds holds ended after := by
  cases moved with
  | install view start current balance feeE8s past owns may small serial =>
      exact slotHolds_active
        (preserves.install view start current balance feeE8s small may) slot.2
  | mark past marked =>
      exact slotHolds_active (preserves.mark _ _ (slot.1 _ rfl) marked) slot.2
  | plan past owns vacant planned =>
      exact slotHolds_active (preserves.plan _ _ (slot.1 _ rfl) vacant planned) slot.2
  | complete past owns vacant topups surplus nowNanos =>
      exact slotHolds_ended
        (preserves.complete _ nowNanos (slot.1 _ rfl) vacant topups surplus) slot.2
  | stop past stopped nowNanos =>
      exact slotHolds_ended (preserves.stop _ _ nowNanos (slot.1 _ rfl) stopped) slot.2

theorem moves_preserve (preserves : Preserves rules holds ended)
    (slot : SlotHolds holds ended before) (moves : Moves rules owner before after) :
    SlotHolds holds ended after := by
  induction moves with
  | refl => exact slot
  | tail _ moved ih => exact move_preserves preserves ih moved

theorem moves_vacant (lost : ¬ owner) (vacant : job.pendingTransfer = none)
    (moves : Moves rules owner (some job, past) after) : after = (some job, past) := by
  induction moves with
  | refl => rfl
  | tail _ moved ih =>
      subst ih
      cases moved with
      | mark past marked => cases marked <;> simp_all
      | plan past owns vacant planned => exact absurd owns lost
      | complete past owns vacant topups surplus nowNanos => exact absurd owns lost
      | stop past stopped nowNanos => cases stopped <;> simp_all

def JobRules.any : JobRules where
  install := fun _ _ _ _ _ => true
  plan := fun _ _ => true
  disable := fun _ => true
  fail := fun _ => true

/-- The conditions of the rules on one event. -/
def JobRules.allows (rules : JobRules) (sys : JobSystem) : JobEvent → Bool
  | .resume id reply nowNanos =>
      (sys.tasks id).all fun kont => rules.allowsResume sys.state nowNanos kont reply
  | _ => true

theorem any_allows (sys : JobSystem) (event : JobEvent) : JobRules.any.allows sys event = true := by
  cases event with
  | resume id reply nowNanos =>
      simp only [JobRules.allows]
      cases sys.tasks id with
      | none => rfl
      | some kont =>
          simp only [Option.all_some]
          unfold JobRules.allowsResume
          split
          · exact Bool.or_true _
          · rfl
          · simp only [JobRules.allowsPass, JobRules.any, Bool.or_true, ite_self]
            cases sys.state.activeJob <;> rfl
          · simp only [JobRules.allowsOutcome, JobRules.any, Bool.or_true]
            cases sys.state.activeJob <;> rfl
          · rfl
  | _ => rfl

structure JobFrame (sys : JobSystem) : Prop where
  leased : Leased JobKont.lease sys.state.mainLockStateTs (sys.clock / nanosPerSecond) sys.tasks
  konts : sys.tasks.Holds (JobKontOk sys.state)

variable {relayId : Principal}

theorem isCurrent_iff : st.isCurrent lease = true ↔ st.mainLockStateTs = some lease := by
  simp [RelayState.isCurrent]

/-- A continuation keeps what it relies on when it does not hold the lease afterwards. -/
theorem kontOk_of_lost {before after : RelayState} (kontOk : JobKontOk before kont)
    (lost : ¬ Owns JobKont.lease after.mainLockStateTs kont) : JobKontOk after kont := by
  cases kont with
  | governance tick phase recipient remaining resolved =>
      intro current
      exact absurd (isCurrent_iff.mp current) lost
  | _ => exact kontOk

theorem surveyed_kept {phase : SurplusPhase} (lost : ¬ owner)
    (moves : Moves rules owner st.slot next.slot) (surveyed : Surveyed st.activeJob phase) :
    Surveyed next.activeJob phase := by
  rcases surveyed with ⟨job, active, vacant, rest⟩
  rw [slot_of_active active] at moves
  have same := moves_vacant lost vacant moves
  have now : next.activeJob = some job := congrArg Prod.fst same
  exact ⟨job, now, vacant, rest⟩

theorem others_kept (frame : JobFrame sys) {other : Nat} {theirs : JobKont}
    (found : sys.tasks id = some kont)
    (moves : Moves rules (sys.state.isCurrent kont.lease = true) sys.state.slot next.slot)
    (lock : next.mainLockStateTs = sys.state.mainLockStateTs ∨
      next.mainLockStateTs = releaseLease kont.lease sys.state.mainLockStateTs)
    (also : sys.tasks other = some theirs) (different : other ≠ id) : JobKontOk next theirs := by
  have before := frame.konts other theirs also
  by_cases owner : sys.state.mainLockStateTs = some kont.lease
  · apply kontOk_of_lost before
    have kept : next.mainLockStateTs = sys.state.mainLockStateTs ∨
        next.mainLockStateTs = some 0 := by
      rcases lock with same | released
      · exact .inl same
      · right
        rw [released, owner, releaseLease_held]
    have fenced : Fenced JobKont.lease next.mainLockStateTs (fun _ => False) theirs :=
      fenced_of_owner frame.leased found owner kept also different
    exact fun owned => fenced owned
  · have unowned : ¬ sys.state.isCurrent kont.lease = true := by
      rw [isCurrent_iff]
      exact owner
    have same : next.mainLockStateTs = sys.state.mainLockStateTs := by
      rcases lock with same | released
      · exact same
      · rw [released, releaseLease_lost owner]
    cases theirs with
    | governance tick phase recipient remaining resolved =>
        intro current
        rw [isCurrent_of_lock same] at current
        exact surveyed_kept unowned moves (before current)
    | _ => exact before

theorem frame_of_quiet (frame : JobFrame sys) (found : sys.tasks id = some kont)
    (forward : sys.clock ≤ now) (quiet : Quiet rules sys.state kont.lease kont.tick result) :
    JobFrame (settleJob sys id now result) := by
  have ticked := frame.leased.tick (Nat.div_le_div_right (c := nanosPerSecond) forward)
  rcases result with ⟨next, pause⟩
  have moves := quiet.moves
  have paused := quiet.pause
  have others : ∀ other theirs, other ≠ id → sys.tasks other = some theirs →
      JobKontOk sys.state theirs → JobKontOk next theirs := by
    intro other theirs different also _
    refine others_kept frame found moves ?_ also different
    cases pause with
    | done => exact .inr paused
    | await kont => exact .inl paused.1
    | drive lease nowNanos poke => exact .inl paused.1
    | transferring tick jobId feeE8s staged second => exact .inl paused.1
  cases pause with
  | done =>
      refine ⟨?_, frame.konts.put (fun _ impossible => by cases impossible) others⟩
      apply ticked.stop found
      by_cases owner : sys.state.mainLockStateTs = some kont.lease
      · exact .inr owner
      · left
        show next.mainLockStateTs = _
        rw [paused, releaseLease_lost owner]
  | await after =>
      rcases paused with ⟨lock, lease, _, kontOk⟩
      refine ⟨?_, frame.konts.put ?_ others⟩
      · show Leased _ next.mainLockStateTs _ _
        rw [lock]
        exact ticked.keep found lease
      · intro own same
        cases same
        exact kontOk
  | drive lease nowNanos poke =>
      rcases paused with ⟨lock, same, _⟩
      refine ⟨?_, frame.konts.put ?_ others⟩
      · show Leased _ next.mainLockStateTs _ _
        rw [lock]
        exact ticked.keep found same
      · intro own here
        cases here
        trivial
  | transferring tick jobId feeE8s staged second =>
      rcases paused with ⟨lock, lease, _, awaiting, _⟩
      refine ⟨?_, frame.konts.put ?_ others⟩
      · show Leased _ next.mainLockStateTs _ _
        rw [lock]
        exact ticked.keep found lease
      · intro own here
        cases here
        exact awaiting

theorem frame_of_stages (frame : JobFrame sys) {tick : Tick} {next : ActiveRelayJob}
    (found : sys.tasks id = some (.loop tick)) (forward : sys.clock ≤ now)
    (stages : Stages rules sys.state now tick job next result) :
    JobFrame (settleJob sys id now result) := by
  have ticked := frame.leased.tick (Nat.div_le_div_right (c := nanosPerSecond) forward)
  have owner := isCurrent_iff.mp stages.owner
  rw [stages.result]
  refine ⟨ticked.keep found rfl, frame.konts.put ?_ ?_⟩
  · intro own same
    cases same
    trivial
  · intro other theirs different also kontOk
    apply kontOk_of_lost kontOk
    exact frame.leased.others_lost found owner also different

theorem acquireMain_some {nowNanos : Nat} (bound : nowNanos ≤ u64Max)
    (acquired : acquireMain st nowNanos = some (next, lease)) :
    next = { st with mainLockStateTs := some lease } ∧
      st.mainLockStateTs.getD 0 ≤ nowNanos / nanosPerSecond ∧
      nowNanos / nanosPerSecond < lease := by
  simp only [acquireMain, Option.map_eq_some_iff, Prod.mk.injEq] at acquired
  rcases acquired with ⟨token, acquired, rfl, rfl⟩
  have seconds : nowNanos / nanosPerSecond + mainTickLeaseSeconds ≤ u64Max := by
    simp only [nanosPerSecond, mainTickLeaseSeconds, u64Max] at bound ⊢
    omega
  exact ⟨rfl, acquireLease_some (by simp [mainTickLeaseSeconds]) seconds acquired⟩

theorem beginTick_cases (st : RelayState) (nowNanos : Nat) (poke : Bool) :
    beginTick st nowNanos poke = (st, .done) ∨
      ∃ lease, acquireMain st nowNanos = some ({ st with mainLockStateTs := some lease }, lease) ∧
        beginTick st nowNanos poke =
          ({ st with mainLockStateTs := some lease }, .await (.stages lease nowNanos poke)) := by
  unfold beginTick
  cases acquired : acquireMain st nowNanos with
  | none => exact .inl rfl
  | some begun =>
      right
      have split := acquired
      simp only [acquireMain, Option.map_eq_some_iff] at split
      rcases split with ⟨lease, _, rfl⟩
      exact ⟨lease, rfl, rfl⟩

theorem frame_of_begin (frame : JobFrame sys) {poke : Bool} (vacant : sys.tasks id = none)
    (forward : sys.clock ≤ now) (bound : now ≤ u64Max) :
    JobFrame (settleJob sys id now (beginTick sys.state now poke)) := by
  have seconds : sys.clock / nanosPerSecond ≤ now / nanosPerSecond := Nat.div_le_div_right forward
  rcases beginTick_cases sys.state now poke with same | ⟨lease, acquired, same⟩
  · rw [same]
    refine ⟨?_, ?_⟩
    · show Leased _ _ _ (sys.tasks.put id none)
      rw [Pool.put_vacant vacant]
      exact frame.leased.tick seconds
    · show (sys.tasks.put id none).Holds _
      rw [Pool.put_vacant vacant]
      exact frame.konts
  · rw [same]
    rcases acquireMain_some bound acquired with ⟨_, free, later⟩
    have turn := frame.leased.turn_of_acquire vacant seconds free later
    refine ⟨turn.await _ rfl, frame.konts.put ?_ ?_⟩
    · intro own same
      cases same
      trivial
    · intro other theirs different also kontOk
      apply kontOk_of_lost kontOk
      exact turn.others _ (.inl rfl) other theirs different also (fun _ => False)

/-- What an event finds and what it leaves. -/
inductive JobStep (relayId : Principal) (sys : JobSystem) : JobEvent → JobSystem → Prop
  | begin {id now : Nat} (poke : Bool) (forward : sys.clock ≤ now) (bounded : now ≤ u64Max)
      (vacant : sys.tasks id = none) :
      JobStep relayId sys (.begin id now poke)
        (settleJob sys id now (beginTick sys.state now poke))
  | resume {id now : Nat} {kont : JobKont} {reply : JobReply} {result : RelayState × JobPause}
      (found : sys.tasks id = some kont) (forward : sys.clock ≤ now) (bounded : now ≤ u64Max)
      (replies : jobRepliesTo relayId sys kont reply = true)
      (resumed : resumeJob relayId sys.state now kont reply = some result) :
      JobStep relayId sys (.resume id reply now) (settleJob sys id now result)
  | abandon {id : Nat} {kont : JobKont} (cleanup : Bool) (found : sys.tasks id = some kont) :
      JobStep relayId sys (.abandon id cleanup) { sys with
        state := if cleanup then sys.state.dropGuard kont.lease else sys.state
        tasks := sys.tasks.put id none }
  | ledger {call : Nat} {outcome : Outcome TransferError} {ledger : LedgerLog JobTag}
      (legal : ledgerAnswer outcome = true) (answered : sys.ledger.answer call outcome = some ledger) :
      JobStep relayId sys (.ledger call outcome) { sys with ledger := ledger }
  | upgrade (config : RelayConfig) :
      JobStep relayId sys (.upgrade config)
        { sys with state := sys.state.upgraded config, tasks := Pool.empty }

theorem stepJob_cases {next : JobSystem} (taken : stepJob relayId sys event = some next) :
    JobStep relayId sys event next := by
  cases event with
  | begin id now poke =>
      rcases Option.ite_none_right_eq_some.mp taken with ⟨enabled, settled⟩
      simp only [Bool.and_eq_true, Option.isNone_iff_eq_none] at enabled
      have clock := clock_admits enabled.1
      cases settled
      exact .begin poke clock.1 clock.2 enabled.2
  | resume id reply now =>
      simp only [stepJob] at taken
      split at taken
      · cases taken
      · rename_i kont found
        rcases Option.ite_none_right_eq_some.mp taken with ⟨enabled, settled⟩
        simp only [Bool.and_eq_true] at enabled
        have clock := clock_admits enabled.1
        rcases Option.map_eq_some_iff.mp settled with ⟨result, resumed, rfl⟩
        exact .resume found clock.1 clock.2 enabled.2 resumed
  | abandon id cleanup =>
      simp only [stepJob] at taken
      split at taken
      · cases taken
      · rename_i kont found
        cases taken
        exact .abandon cleanup found
  | ledger call outcome =>
      rcases Option.ite_none_right_eq_some.mp taken with ⟨legal, known⟩
      rcases Option.map_eq_some_iff.mp known with ⟨ledger, answered, rfl⟩
      exact .ledger legal answered
  | upgrade config =>
      cases taken
      exact .upgrade config

theorem resumed_segment {kont : JobKont} {reply : JobReply} (frame : JobFrame sys)
    (found : sys.tasks id = some kont) (replies : jobRepliesTo relayId sys kont reply = true)
    (resumed : resumeJob relayId sys.state now kont reply = some result)
    (allowed : rules.allows sys (.resume id reply now) = true) :
    Quiet rules sys.state kont.lease kont.tick result ∨
      ∃ tick job staged, kont = .loop tick ∧ Stages rules sys.state now tick job staged result := by
  have may : rules.allowsResume sys.state now kont reply = true := by
    simpa [JobRules.allows, found] using allowed
  apply resumeJob_segment (frame.konts id kont found) _ may resumed
  cases reply with
  | amount result =>
      cases result with
      | none => trivial
      | some value => cases kont <;> simpa [JobReply.small, jobRepliesTo] using replies
  | _ => trivial

theorem frame_step {next : JobSystem} (frame : JobFrame sys)
    (taken : stepJob relayId sys event = some next) : JobFrame next := by
  cases stepJob_cases taken with
  | begin poke forward bounded vacant => exact frame_of_begin frame vacant forward bounded
  | resume found forward bounded replies resumed =>
      rcases resumed_segment frame found replies resumed (any_allows sys _) with
        quiet | ⟨tick, job, staged, rfl, stages⟩
      · exact frame_of_quiet frame found forward quiet
      · exact frame_of_stages frame found forward stages
  | @abandon id kont cleanup found =>
      have kept : ∀ other theirs, other ≠ id → sys.tasks other = some theirs →
          JobKontOk sys.state theirs →
            JobKontOk (if cleanup then sys.state.dropGuard kont.lease else sys.state) theirs := by
        intro other theirs different also kontOk
        cases cleanup with
        | false => exact kontOk
        | true =>
            have idle : Moves JobRules.any (sys.state.isCurrent kont.lease = true)
                sys.state.slot (sys.state.dropGuard kont.lease).slot := .refl
            exact others_kept frame found idle (.inr rfl) also different
      refine ⟨?_, frame.konts.put (fun _ impossible => by cases impossible) kept⟩
      apply frame.leased.stop found
      cases cleanup with
      | false => exact .inl rfl
      | true =>
          by_cases owner : sys.state.mainLockStateTs = some kont.lease
          · exact .inr owner
          · exact .inl (releaseLease_lost owner)
  | ledger => exact ⟨frame.leased, frame.konts⟩
  | upgrade config => exact ⟨Leased.empty _ _, Pool.holds_empty _⟩

theorem slots_step (preserves : Preserves rules holds ended) {next : JobSystem}
    (frame : JobFrame sys) (slot : SlotHolds holds ended sys.state.slot)
    (allowed : rules.allows sys event = true) (taken : stepJob relayId sys event = some next) :
    SlotHolds holds ended next.state.slot := by
  cases stepJob_cases taken with
  | @begin id now poke =>
      rcases beginTick_cases sys.state now poke with same | ⟨lease, _, same⟩ <;>
        rw [same] <;> exact slot
  | @resume _ _ kont _ result found forward bounded replies resumed =>
      rcases resumed_segment frame found replies resumed allowed with
        quiet | ⟨tick, job, staged, rfl, stages⟩
      · have after := moves_preserve preserves slot quiet.moves
        rcases result with ⟨st, pause⟩
        cases pause <;> exact after
      · rw [stages.result]
        have before := slot.1 job stages.active
        exact slotHolds_active
          (preserves.stage _ _ _ _ _ _ before stages.vacant stages.may stages.planned) slot.2
  | abandon cleanup => cases cleanup <;> exact slot
  | ledger => exact slot
  | upgrade config =>
      refine ⟨fun _ impossible => (by cases impossible), ?_⟩
      intro record member
      simp only [RelayState.slot, RelayState.upgraded, List.mem_append, Option.mem_toList,
        Option.map_eq_some_iff] at member
      rcases member with ⟨job, active, rfl⟩ | earlier
      · exact preserves.lost job (slot.1 job active)
      · exact slot.2 record earlier

theorem frame_init (started : (jobMachine relayId).init sys) : JobFrame sys := by
  rcases started with ⟨config, nowNanos, rfl⟩
  exact ⟨Leased.empty _ _, Pool.holds_empty _⟩

/-- What the moves preserve holds in every state of a run whose events the rules allow. -/
theorem slots_run (preserves : Preserves rules holds ended) {start : JobSystem}
    {events : List JobEvent} (started : (jobMachine relayId).init start)
    (complies : (jobMachine relayId).Complies (fun sys event => rules.allows sys event = true)
      start events) (ran : (jobMachine relayId).run start events = some sys) :
    JobFrame sys ∧ SlotHolds holds ended sys.state.slot := by
  have initial : JobFrame start ∧ SlotHolds holds ended start.state.slot := by
    refine ⟨frame_init started, ?_⟩
    rcases started with ⟨config, nowNanos, rfl⟩
    exact ⟨fun _ impossible => (by cases impossible), fun _ impossible => (by cases impossible)⟩
  apply (jobMachine relayId).complies_preserves _ _ _ initial complies ran
  intro state event next before allowed taken
  exact ⟨frame_step before.1 taken, slots_step preserves before.1 before.2 allowed taken⟩

end JupiterSuite.Relay
