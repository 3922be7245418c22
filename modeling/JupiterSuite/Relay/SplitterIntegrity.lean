import JupiterSuite.Relay.SplitterSound

/-! The stored splitter plan stays valid, quarantined splitters stay quarantined, and a claim
that was superseded writes nothing. -/

namespace JupiterSuite.Relay

open Base

variable {kont : SplitterKont} {st : SplitterState} {result : SplitterState × SplitterPause}
  {lease now id : Nat} {next : SplitterSystem} {plans : List SplitterPlan} {pause : SplitterPause}

section Systems

variable {relayId : Principal} {sys : SplitterSystem}

structure Integrity (sys : SplitterSystem) : Prop where
  sound : Sound sys.state
  claims : ∀ id kont claimed, sys.tasks id = some kont → kont.claim = some claimed →
    claimed.driverRevision ≤ sys.state.nextDriverRevision
  distinct : ∀ i j first second claimed other, sys.tasks i = some first →
    sys.tasks j = some second → first.claim = some claimed → second.claim = some other →
      claimed.driverRevision = other.driverRevision → i = j
  owners : sys.tasks.Holds (Fenced SplitterKont.lease sys.state.splitterLockStateTs
    (KontSound sys.state))

theorem kontSound_frame {next : SplitterState} (sound : KontSound st kont)
    (quarantined : next.quarantinedJobs = st.quarantinedJobs) :
    KontSound next kont := by
  cases kont with
  | stageBalance lease nowNanos resumed feeE8s number remaining =>
      simp only [KontSound, SplitterState.isQuarantined, quarantined]
      exact sound
  | _ => exact sound

theorem resume_sound {reply : SplitterReply} (sound : Sound sys.state)
    (own : sys.state.splitterLockStateTs = some kont.lease → KontSound sys.state kont)
    (ready : ∀ driver claimed leg hadPrior call, kont = .transfer driver claimed leg hadPrior call →
      sys.state.splitterLockStateTs = some driver.lease → (claimed.progress leg).status = .ready)
    (replies : splitterRepliesTo sys kont reply = true)
    (resumed : resumeSplitter sys.state kont reply = some result) :
    SegmentSound sys.state result := by
  have held : ∀ {lease : Nat}, sys.state.isCurrent lease = true →
      sys.state.splitterLockStateTs = some lease := by
    intro lease current
    simpa [SplitterState.isCurrent] using current
  cases kont with
  | waitFunds driver claimed leg =>
      cases reply <;> cases resumed
      exact drive_sound _ (onWaitFunds_sound sound _ fun current => own (held current))
  | waitFee driver claimed leg =>
      cases reply <;> cases resumed
      exact drive_sound _ (onWaitFee_sound sound _ fun current => own (held current))
  | transfer driver claimed leg hadPrior call =>
      cases reply <;> cases resumed
      exact drive_sound _ (onSplitterTransfer_sound sound _ _
        fun current => ready _ _ _ _ _ rfl (held current))
  | stageFee lease nowNanos resumedJob =>
      cases reply <;> cases resumed
      exact onStageFee_sound sound ..
  | stageBalance lease nowNanos resumedJob feeE8s number remaining =>
      cases reply <;> cases resumed
      refine onStageBalance_sound sound nowNanos resumedJob remaining ?_
        fun current => own (held current)
      rintro amount rfl
      simpa [splitterRepliesTo] using replies

theorem start_sound (sound : Sound sys.state)
    (acquired : acquireSplitter sys.state now = some (st, lease)) (stage : Stage) :
    SegmentSound sys.state (drive drivePasses ⟨lease, now, stage⟩ (.again st)) := by
  simp only [acquireSplitter, Option.map_eq_some_iff, Prod.mk.injEq] at acquired
  rcases acquired with ⟨token, _, rfl, rfl⟩
  exact drive_sound _ ⟨sound_frame sound rfl rfl rfl, later_frame (later_refl _) rfl rfl⟩

theorem retry_sound (sound : Sound sys.state) (now : Nat) :
    SegmentSound sys.state (retryActiveSplitter sys.state now) := by
  unfold retryActiveSplitter
  split
  · exact ⟨sound, later_refl _⟩
  · split
    · exact ⟨sound, later_refl _⟩
    · rename_i acquired
      exact start_sound sound acquired .retry

theorem mainStage_sound (sound : Sound sys.state) (now : Nat) :
    SegmentSound sys.state (processMainStage sys.state now) := by
  unfold processMainStage
  split
  · exact ⟨sound, later_refl _⟩
  · rename_i st lease acquired
    have segment := fun stage => start_sound sound acquired stage
    split
    · simp only [acquireSplitter, Option.map_eq_some_iff, Prod.mk.injEq] at acquired
      rcases acquired with ⟨token, _, rfl, rfl⟩
      exact ⟨sound_frame sound rfl rfl rfl, later_frame (later_refl _) rfl rfl, trivial,
        fun _ impossible => by cases impossible⟩
    · exact segment _

/-- What one step leaves behind. -/
structure Advances (sys next : SplitterSystem) : Prop where
  evidence : ∀ entry ∈ sys.state.quarantinedJobs, entry ∈ next.state.quarantinedJobs
  revision : sys.state.nextDriverRevision ≤ next.state.nextDriverRevision
  claims : ∀ id kont claimed, next.tasks id = some kont → kont.claim = some claimed →
    sys.tasks id = some kont ∨
      (sys.state.nextDriverRevision < claimed.driverRevision ∧
        claimed.driverRevision = next.state.nextDriverRevision)

theorem integrity_of_tasks {suspended : Option SplitterKont} (integrity : Integrity sys)
    (sound : Sound next.state) (later : Later sys.state next.state)
    (tasks : next.tasks = sys.tasks.put id suspended)
    (own : ∀ kont, suspended = some kont → KontSound next.state kont ∧
      ∀ claimed, kont.claim = some claimed → Fresh sys.state next.state claimed)
    (others : ∀ other theirs, other ≠ id → sys.tasks other = some theirs →
      Fenced SplitterKont.lease next.state.splitterLockStateTs (KontSound next.state) theirs) :
    Integrity next ∧ Advances sys next := by
  have claims : ∀ other kont claimed, next.tasks other = some kont → kont.claim = some claimed →
      (other ≠ id ∧ sys.tasks other = some kont) ∨
        (other = id ∧ Fresh sys.state next.state claimed) := by
    intro other kont claimed found claim
    rw [tasks] at found
    rcases Pool.put_eq_some found with ⟨same, mine⟩ | ⟨different, theirs⟩
    · exact .inr ⟨same, (own kont mine).2 claimed claim⟩
    · exact .inl ⟨different, theirs⟩
  have bound := later.revision
  refine ⟨⟨sound, ?_, ?_, ?_⟩, later.evidence, later.revision, ?_⟩
  · intro other kont claimed found claim
    rcases claims other kont claimed found claim with ⟨_, old⟩ | ⟨_, fresh⟩
    · exact Nat.le_trans (integrity.claims other kont claimed old claim) bound
    · exact Nat.le_of_eq fresh.2
  · intro i j first second claimed other left right mine theirs same
    rcases claims i first claimed left mine with ⟨_, old⟩ | ⟨here, fresh⟩
    · rcases claims j second other right theirs with ⟨_, also⟩ | ⟨_, newer⟩
      · exact integrity.distinct i j first second claimed other old also mine theirs same
      · have older := integrity.claims i first claimed old mine
        have after := newer.1
        omega
    · rcases claims j second other right theirs with ⟨_, also⟩ | ⟨there, _⟩
      · have older := integrity.claims j second other also theirs
        have after := fresh.1
        omega
      · exact here.trans there.symm
  · rw [tasks]
    exact integrity.owners.put (fun kont mine _ => (own kont mine).1)
      fun other theirs different also _ => others other theirs different also
  · intro other kont claimed found claim
    rcases claims other kont claimed found claim with ⟨_, old⟩ | ⟨_, fresh⟩
    · exact .inl old
    · exact .inr fresh

/-- A segment that is sound keeps the integrity, when the other tasks are promised nothing
or find the quarantine as it was. -/
theorem integrity_of_segment (integrity : Integrity sys) (segment : SegmentSound sys.state result)
    (others : ∀ other theirs, other ≠ id → sys.tasks other = some theirs →
      Fenced SplitterKont.lease
        (settleSplitter relayId sys id now plans result).state.splitterLockStateTs
        (KontSound (settleSplitter relayId sys id now plans result).state) theirs) :
    Integrity (settleSplitter relayId sys id now plans result) ∧
      Advances sys (settleSplitter relayId sys id now plans result) := by
  rcases result with ⟨st, pause⟩
  cases pause with
  | done =>
      exact integrity_of_tasks integrity segment.1 segment.2 rfl
        (fun _ impossible => by cases impossible) others
  | exhausted =>
      exact integrity_of_tasks integrity segment.1 segment.2 rfl
        (fun _ impossible => by cases impossible) others
  | await kont =>
      refine integrity_of_tasks integrity segment.1 segment.2.1 rfl ?_ others
      rintro own same
      cases same
      exact segment.2.2
  | transferring driver claimed leg hadPrior =>
      refine integrity_of_tasks integrity segment.1 segment.2.1 rfl ?_ others
      rintro own same
      cases same
      refine ⟨trivial, fun other claim => ?_⟩
      cases claim
      exact segment.2.2
  | trap =>
      have kept : Sound (settleSplitter relayId sys id now plans (st, .trap)).state ∧
          Later sys.state (settleSplitter relayId sys id now plans (st, .trap)).state := by
        simp only [settleSplitter]
        split
        · exact ⟨integrity.sound, later_refl _⟩
        · exact ⟨sound_frame integrity.sound rfl rfl rfl, later_frame (later_refl _) rfl rfl⟩
      exact integrity_of_tasks integrity kept.1 kept.2 rfl
        (fun _ impossible => by cases impossible) others

theorem others_of_frame {next : SplitterState} (integrity : Integrity sys)
    (invariant : SplitterInvariant relayId sys)
    (quarantined : next.quarantinedJobs = sys.state.quarantinedJobs)
    (locked : next.splitterLockStateTs = sys.state.splitterLockStateTs ∨
      next.splitterLockStateTs = some 0) {other : Nat} {theirs : SplitterKont}
    (also : sys.tasks other = some theirs) :
    Fenced SplitterKont.lease next.splitterLockStateTs (KontSound next) theirs := by
  intro owner
  rcases locked with same | zero
  · rw [same] at owner
    exact kontSound_frame (integrity.owners other theirs also owner) quarantined
  · have positive := invariant.leased.positive other theirs also
    have tokens : 0 = theirs.lease := Option.some.inj (zero.symm.trans owner)
    omega

theorem segment_lock {slot : Option ActiveSplitterJob → List (Nat × QuarantinedSplitterJob) → Prop}
    {sendable : ActiveSplitterJob → SplitterLeg → Bool → Prop}
    (segment : SegmentOk slot sendable lease (some lease) (st, pause)) (runs : pause ≠ .trap) :
    st.splitterLockStateTs = some lease ∨ st.splitterLockStateTs = some 0 := by
  cases pause with
  | done =>
      right
      rw [segment.2, releaseLease_held]
  | await kont => exact .inl segment.2.1
  | transferring driver claimed leg hadPrior => exact .inl segment.2.1
  | trap => exact absurd rfl runs
  | exhausted => exact .inl segment.2

theorem owned_lock {more : List SplitterPlan}
    (owned : OwnedSegment relayId sys lease more (st, pause)) (runs : pause ≠ .trap) :
    st.splitterLockStateTs = some lease ∨ st.splitterLockStateTs = some 0 := by
  cases owned with
  | drives job stored segment => exact segment_lock segment runs
  | rests vacant segment => exact segment_lock segment runs
  | starts plan vacant exact segment => exact segment_lock segment runs

theorem settled_state (runs : pause ≠ .trap) :
    (settleSplitter relayId sys id now plans (st, pause)).state = st := by
  cases pause with
  | trap => exact absurd rfl runs
  | _ => rfl

theorem integrity_of_trap (integrity : Integrity sys) (invariant : SplitterInvariant relayId sys) :
    Integrity (settleSplitter relayId sys id now plans (st, .trap)) ∧
      Advances sys (settleSplitter relayId sys id now plans (st, .trap)) := by
  refine integrity_of_segment integrity trivial fun other theirs _ also => ?_
  refine others_of_frame integrity invariant ?_ ?_ also
  · simp only [settleSplitter]
    split <;> rfl
  · simp only [settleSplitter]
    split
    · exact .inl rfl
    · rename_i kont found
      by_cases owner : sys.state.splitterLockStateTs = some kont.lease
      · right
        simp only [SplitterState.dropGuard, owner, releaseLease_held]
      · exact .inl (releaseLease_lost owner)

theorem integrity_of_owned {more : List SplitterPlan} (integrity : Integrity sys)
    (invariant : SplitterInvariant relayId sys)
    (turn : Turn SplitterKont.lease sys.tasks id lease (now / nanosPerSecond))
    (segment : SegmentSound sys.state result) (owned : OwnedSegment relayId sys lease more result) :
    Integrity (settleSplitter relayId sys id now (sys.plans ++ more) result) ∧
      Advances sys (settleSplitter relayId sys id now (sys.plans ++ more) result) := by
  rcases result with ⟨st, pause⟩
  by_cases runs : pause = .trap
  · subst runs
    exact integrity_of_trap integrity invariant
  · refine integrity_of_segment integrity segment fun other theirs different also => ?_
    rw [settled_state runs]
    exact turn.others _ (owned_lock owned runs) other theirs different also _

theorem integrity_of_start (integrity : Integrity sys) (invariant : SplitterInvariant relayId sys)
    (vacant : sys.tasks id = none) (forward : sys.clock ≤ now)
    (segment : SegmentSound sys.state result) (started : Started relayId sys now result) :
    Integrity (settleSplitter relayId sys id now sys.plans result) ∧
      Advances sys (settleSplitter relayId sys id now sys.plans result) := by
  cases started with
  | refused same =>
      subst same
      exact integrity_of_segment integrity segment fun other theirs _ also =>
        others_of_frame integrity invariant rfl (.inl rfl) also
  | acquired lease free later owned =>
      have turn :=
        invariant.leased.turn_of_acquire vacant (Nat.div_le_div_right forward) free later
      simpa using integrity_of_owned integrity invariant turn segment owned

theorem integrity_step {event : SplitterEvent} (integrity : Integrity sys)
    (invariant : SplitterInvariant relayId sys) (taken : stepSplitter relayId sys event = some next) :
    Integrity next ∧ Advances sys next := by
  cases event with
  | mainStage id now =>
      rcases step_start taken with ⟨vacant, forward, bound, rfl⟩
      exact integrity_of_start integrity invariant vacant forward
        (mainStage_sound integrity.sound now) (mainStage_started invariant bound)
  | retry id now =>
      rcases step_start taken with ⟨vacant, forward, bound, rfl⟩
      exact integrity_of_start integrity invariant vacant forward
        (retry_sound integrity.sound now) (retry_started invariant bound)
  | resume id reply now =>
      simp only [stepSplitter] at taken
      split at taken
      · cases taken
      · rename_i kont found
        split at taken
        · rename_i enabled
          simp only [Bool.and_eq_true] at enabled
          have forward := (clock_admits enabled.1).1
          have ticked : Leased SplitterKont.lease sys.state.splitterLockStateTs
              (now / nanosPerSecond) sys.tasks :=
            invariant.leased.tick (Nat.div_le_div_right forward)
          rcases Option.map_eq_some_iff.mp taken with ⟨result, resumed, rfl⟩
          have segment : SegmentSound sys.state result := by
            refine resume_sound integrity.sound (integrity.owners id kont found) ?_ enabled.2 resumed
            rintro driver claimed leg hadPrior call rfl owner
            exact (invariant.owners id _ found owner).2.1
          by_cases owner : sys.state.splitterLockStateTs = some kont.lease
          · have owned := resume_owned invariant found owner enabled.2 resumed
            exact integrity_of_owned integrity invariant (ticked.turn_of_owner found owner)
              segment owned
          · have lost := (resume_lost owner resumed).1
            rcases result with ⟨st, pause⟩
            have runs : pause ≠ .trap := by
              rcases lost.paused with same | ⟨after, same, _⟩ <;>
              · simp only at same
                rw [same]
                simp
            refine integrity_of_segment integrity segment fun other theirs _ also => ?_
            rw [settled_state runs]
            exact others_of_frame integrity invariant lost.quarantined (.inl lost.locked) also
        · cases taken
  | abandon id cleanup =>
      simp only [stepSplitter] at taken
      split at taken <;> cases taken
      rename_i kont found
      cases cleanup with
      | false =>
          exact integrity_of_tasks integrity integrity.sound (later_refl _) rfl
            (fun _ impossible => by cases impossible) fun other theirs _ also =>
              integrity.owners other theirs also
      | true =>
          have trapped : Integrity (settleSplitter relayId sys id sys.clock [] (sys.state, .trap)) ∧
              Advances sys (settleSplitter relayId sys id sys.clock [] (sys.state, .trap)) :=
            integrity_of_trap integrity invariant
          simpa [settleSplitter, found] using trapped
  | ledger call outcome =>
      simp only [stepSplitter] at taken
      split at taken
      · rcases Option.map_eq_some_iff.mp taken with ⟨ledger, answered, rfl⟩
        exact ⟨⟨integrity.sound, integrity.claims, integrity.distinct, integrity.owners⟩,
          fun _ member => member, Nat.le_refl _, fun _ _ _ found _ => .inl found⟩
      · cases taken
  | upgrade ledgerCanisterId =>
      rcases Option.ite_none_right_eq_some.mp taken with ⟨_, same⟩
      cases same
      refine ⟨⟨sound_frame integrity.sound rfl rfl rfl, ?_, ?_, Pool.holds_empty _⟩,
        fun _ member => member, Nat.le_refl _, ?_⟩
      · intro id kont claimed impossible
        cases impossible
      · intro i j first second claimed other impossible
        cases impossible
      · intro id kont claimed impossible
        cases impossible

theorem integrity_init (begun : (splitterMachine relayId).init sys) : Integrity sys := by
  rcases begun with ⟨ledgerId, nowNanos, rfl⟩
  refine ⟨⟨?_, ?_, ?_, ?_⟩, ?_, ?_, Pool.holds_empty _⟩
  · intro job impossible
    cases impossible
  · intro job impossible
    cases impossible
  · intro job impossible
    cases impossible
  · intro entry impossible
    cases impossible
  · intro id kont claimed impossible
    cases impossible
  · intro i j first second claimed other impossible
    cases impossible

theorem splitter_integrity_reachable (reachable : (splitterMachine relayId).Reachable sys) :
    Integrity sys := by
  have both : Integrity sys ∧ SplitterInvariant relayId sys := by
    apply (splitterMachine relayId).reachable_invariant
      (fun sys => Integrity sys ∧ SplitterInvariant relayId sys) _ _ reachable
    · intro start begun
      exact ⟨integrity_init begun, invariant_init begun⟩
    · intro state event next before taken
      exact ⟨(integrity_step before.1 before.2 taken).1, invariant_step before.2 taken⟩
  exact both.1

theorem stale_claim {claimed : ActiveSplitterJob} {reply : SplitterReply}
    (found : sys.tasks id = some kont) (claim : kont.claim = some claimed)
    (stale : sys.state.activeJob ≠ some claimed)
    (taken : stepSplitter relayId sys (.resume id reply now) = some next) :
    next.state.activeJob = sys.state.activeJob ∧
      next.state.quarantinedJobs = sys.state.quarantinedJobs ∧
      next.state.nextDriverRevision = sys.state.nextDriverRevision ∧ next.ledger = sys.ledger := by
  have lost : ∀ (st : SplitterState) (driver : Driver), st.activeJob = sys.state.activeJob →
      claimHolds st driver claimed = false := by
    intro st driver same
    simp [claimHolds, same, stale]
  have finished : ∀ (st : SplitterState) (driver : Driver),
      drive drivePasses driver (.result st .stale) = (st.dropGuard driver.lease, .done) := by
    rintro st ⟨lease, nowNanos, stage⟩
    cases stage <;> rfl
  simp only [stepSplitter, found] at taken
  split at taken
  · rcases Option.map_eq_some_iff.mp taken with ⟨result, resumed, rfl⟩
    cases kont with
    | waitFunds driver other leg =>
        cases claim
        cases reply <;> cases resumed
        simp only [onWaitFunds, lost _ driver rfl, Bool.not_false, if_true, finished]
        exact ⟨rfl, rfl, rfl, rfl⟩
    | waitFee driver other leg =>
        cases claim
        cases reply <;> cases resumed
        rename_i fee _
        simp only [onWaitFee, lost _ driver (resolve_frame sys.state fee).1, Bool.not_false,
          if_true, finished]
        cases fee <;> exact ⟨rfl, rfl, rfl, rfl⟩
    | transfer driver other leg hadPrior call =>
        cases claim
        cases reply <;> cases resumed
        simp only [onSplitterTransfer, lost _ driver rfl, Bool.not_false, if_true, finished]
        exact ⟨rfl, rfl, rfl, rfl⟩
    | stageFee => cases claim
    | stageBalance => cases claim
  · cases taken

end Systems

structure SplitterIntegrity (relayId : Principal) (sys : SplitterSystem) : Prop where
  valid : ∀ job, sys.state.activeJob = some job → activePlanIsValid job = true
  feasible : ∀ job, sys.state.activeJob = some job → ∀ leg,
    (job.plan.leg leg).feeE8s < (job.plan.leg leg).grossShareE8s ∧
      (job.plan.leg leg).amountE8s + (job.plan.leg leg).feeE8s = (job.plan.leg leg).grossShareE8s
  apart : ∀ job, sys.state.activeJob = some job →
    job.plan.defaultLeg.createdAtTimeNanos ≠ job.plan.subaccountOneLeg.createdAtTimeNanos
  quarantined : ∀ entry ∈ sys.state.quarantinedJobs,
    activePlanIsValid entry.2.job = true ∧ entry.2.reason ≠ planInvariantFailed
  admitted : ∀ job, sys.state.activeJob = some job →
    sys.state.isQuarantined job.plan.splitterNumber = false
  claims : ∀ i j first second claimed other, sys.tasks i = some first →
    sys.tasks j = some second → first.claim = some claimed → second.claim = some other →
      claimed.driverRevision = other.driverRevision → i = j
  advances : ∀ event next, stepSplitter relayId sys event = some next → Advances sys next
  slot : ∀ job, sys.state.activeJob = some job → ∀ event next,
    stepSplitter relayId sys event = some next →
      SlotOk relayId sys.ledger (sys.plans.length - 1) job.plan next.state.activeJob
        next.state.quarantinedJobs
  stale : ∀ id kont claimed reply now next, sys.tasks id = some kont →
    kont.claim = some claimed → sys.state.activeJob ≠ some claimed →
      stepSplitter relayId sys (.resume id reply now) = some next →
        next.state.activeJob = sys.state.activeJob ∧
          next.state.quarantinedJobs = sys.state.quarantinedJobs ∧
          next.state.nextDriverRevision = sys.state.nextDriverRevision ∧ next.ledger = sys.ledger

theorem splitter_integrity (relayId : Principal) (sys : SplitterSystem)
    (reachable : (splitterMachine relayId).Reachable sys) : SplitterIntegrity relayId sys := by
  have invariant := splitter_invariant reachable
  have integrity := splitter_integrity_reachable reachable
  have sound := integrity.sound
  refine ⟨?_, ?_, ?_, ?_, sound.admitted, integrity.distinct, ?_, ?_, ?_⟩
  · intro job stored
    exact activePlanIsValid_of (sound.plan job stored).valid
  · intro job stored leg
    have valid := (sound.plan job stored).valid
    exact ⟨valid.fees leg, valid.amounts leg⟩
  · intro job stored
    exact (sound.plan job stored).valid.apart
  · intro entry member
    have evidence := sound.evidence entry member
    exact ⟨activePlanIsValid_of evidence.plan.valid, evidence.reason⟩
  · intro event next taken
    exact (integrity_step integrity invariant taken).2
  · intro job stored event next taken
    exact slot_step invariant stored taken
  · intro id kont claimed reply now next found claim stale taken
    exact stale_claim found claim stale taken

theorem splitter_integrity_repinned :
    ∃ sys, (splitterMachine sampleRelay).Reachable sys ∧
      (sys.state.activeJob.map fun job => job.plan.subaccountOneLeg.feeE8s) = some 20000 ∧
      SplitterIntegrity sampleRelay sys := by
  exact ⟨_, repinned_reachable, rfl, splitter_integrity sampleRelay _ repinned_reachable⟩

end JupiterSuite.Relay
