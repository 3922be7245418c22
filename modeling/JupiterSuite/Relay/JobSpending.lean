import JupiterSuite.Relay.JobBound
import JupiterSuite.Relay.SplitterExactlyOnce

/-! The spending bound of relay jobs over whole runs. -/

namespace JupiterSuite.Relay

open Base

def Slot.jobs (slot : Slot) : List ActiveRelayJob := slot.1.toList ++ slot.2.map PastJob.job

def Slot.ticks (slot : Slot) : List Nat :=
  slot.jobs.flatMap fun job => job.staged.map Staged.tick

structure Spent (job : ActiveRelayJob) : Prop where
  bounded : job.stagedGross ≤ job.balanceStartE8s
  once : job.sources.Nodup
  increasing : job.createdTimes.Pairwise (· > ·)

variable {job next : ActiveRelayJob} {rules : JobRules} {id : Nat} {sys : JobSystem}

theorem Bounded.spent (bounded : Bounded job) : Spent job where
  bounded := by
    have funded := bounded.funded
    omega
  once := bounded.distinct
  increasing := bounded.ordered

theorem spent_kept (spent : Spent job) (identities : next.identities = job.identities)
    (balance : next.balanceStartE8s = job.balanceStartE8s) : Spent next := by
  constructor
  · rw [stagedGross_identities, identities, ← stagedGross_identities, balance]
    exact spent.bounded
  · rw [sources_identities, identities, ← sources_identities]
    exact spent.once
  · rw [createdTimes_identities, identities, ← createdTimes_identities]
    exact spent.increasing

theorem bounded_preserved :
    Preserves spendingRules Bounded fun record => Spent record.job where
  install := fun view start current balance feeE8s small fits => bounded_install small fits
  mark := fun job next bounded marked =>
    bounded_kept bounded (kept_of_mark marked) (known_of_mark marked)
  plan := by
    intro job next bounded vacant planned
    cases planned with
    | rest limit started number nowNanos may unplanned =>
        exact bounded_rest bounded (rest_next unplanned)
    | disable reason open_phase topups may =>
        exact bounded_disable bounded open_phase topups reason
    | surplus recipients estimate nowNanos memos open_phase topups clean =>
        exact bounded_surplus bounded open_phase topups clean recipients estimate nowNanos memos
  stage := by
    intro job next limit started number nowNanos bounded vacant may planned
    exact bounded_stage bounded (planNextTransfer_planned planned).2
      (of_decide_eq_true may)
  complete := fun job nowNanos bounded _ _ _ => spent_kept bounded.spent rfl rfl
  stop := by
    intro job next nowNanos bounded stopped
    have kept := kept_of_stop stopped
    exact spent_kept bounded.spent kept.identities kept.balance
  lost := fun job bounded => bounded.spent

variable {after before : Slot} {owner : Prop} {now : Nat} {result : RelayState × JobPause}

section Drives

theorem ticks_identities (job : ActiveRelayJob) :
    job.staged.map Staged.tick = job.identities.map fun entry => entry.2.2.1 := by
  simp only [ActiveRelayJob.identities, List.map_map]
  rfl

theorem ticks_replaced (past : List PastJob) (identities : next.identities = job.identities) :
    Slot.ticks (some next, past) = Slot.ticks (some job, past) := by
  simp only [Slot.ticks, Slot.jobs, Option.toList_some, List.cons_append, List.flatMap_cons,
    ticks_identities, identities]

theorem ticks_ended (past : List PastJob) (completed : Bool)
    (identities : next.identities = job.identities) :
    Slot.ticks (none, ⟨next, completed⟩ :: past) = Slot.ticks (some job, past) := by
  simp only [Slot.ticks, Slot.jobs, Option.toList_some, Option.toList_none, List.nil_append,
    List.map_cons, List.cons_append, List.flatMap_cons, ticks_identities, identities]

theorem ticks_of_move (moved : Move rules owner before after) : after.ticks = before.ticks := by
  cases moved with
  | install view start current balance feeE8s past owns may small serial => rfl
  | mark past marked => exact ticks_replaced past (kept_of_mark marked).identities
  | plan past owns vacant planned =>
      cases planned with
      | rest limit started number nowNanos may unplanned =>
          apply ticks_replaced past
          simp only [ActiveRelayJob.identities, (rest_next unplanned).staged]
      | disable reason open_phase topups may => rfl
      | surplus recipients estimate nowNanos memos open_phase topups clean => rfl
  | complete past owns vacant topups surplus nowNanos => exact ticks_ended past true rfl
  | stop past stopped nowNanos => exact ticks_ended past true (kept_of_stop stopped).identities

theorem ticks_of_moves (moves : Moves rules owner before after) : after.ticks = before.ticks := by
  induction moves with
  | refl => rfl
  | tail _ moved ih => rw [ticks_of_move moved, ih]

/-- A drive has staged at most what its counter says, and no more than its limit. -/
structure DriveLimits (sys : JobSystem) : Prop where
  own : ∀ id kont tick, sys.tasks id = some kont → kont.tick = some tick →
    sys.drives[tick.number]? = some tick.limit ∧
      sys.state.slot.ticks.count tick.number ≤ tick.started
  distinct : ∀ i j first second tick other, sys.tasks i = some first → sys.tasks j = some second →
    first.tick = some tick → second.tick = some other → tick.number = other.number → i = j
  limited : ∀ number limit, sys.drives[number]? = some (some limit) →
    sys.state.slot.ticks.count number ≤ limit
  known : ∀ number ∈ sys.state.slot.ticks, number < sys.drives.length

theorem drives_of_pool (limits : DriveLimits sys) {kont : Option JobKont} {st : RelayState}
    {ledger : LedgerLog JobTag} {clock : Nat} (same : st.slot.ticks = sys.state.slot.ticks)
    (kept : ∀ after tick, kont = some after → after.tick = some tick →
      ∃ before, sys.tasks id = some before ∧ before.tick = some tick) :
    DriveLimits ⟨st, sys.tasks.put id kont, ledger, sys.drives, clock⟩ := by
  have traced : ∀ other after tick, sys.tasks.put id kont other = some after →
      after.tick = some tick → ∃ before, sys.tasks other = some before ∧
        before.tick = some tick := by
    intro other after tick located ticks
    rcases Pool.put_eq_some located with ⟨rfl, mine⟩ | ⟨_, theirs⟩
    · exact kept after tick mine ticks
    · exact ⟨after, theirs, ticks⟩
  refine ⟨?_, ?_, ?_, ?_⟩
  · intro other after tick located ticks
    rcases traced other after tick located ticks with ⟨before, present, held⟩
    rw [same]
    exact limits.own other before tick present held
  · intro i j first second tick other left right one two equal
    rcases traced i first tick left one with ⟨before, present, held⟩
    rcases traced j second other right two with ⟨earlier, there, kept_tick⟩
    exact limits.distinct i j before earlier tick other present there held kept_tick equal
  · rw [same]
    exact limits.limited
  · rw [same]
    exact limits.known

theorem drives_of_quiet (limits : DriveLimits sys) {kont : JobKont}
    (found : sys.tasks id = some kont) (quiet : Quiet rules sys.state kont.lease kont.tick result) :
    DriveLimits (settleJob sys id now result) := by
  rcases result with ⟨st, pause⟩
  have same := ticks_of_moves quiet.moves
  have paused := quiet.pause
  cases pause with
  | done => exact drives_of_pool limits same fun _ _ impossible => by cases impossible
  | await after =>
      apply drives_of_pool limits same
      rintro own tick mine ticks
      cases mine
      rcases paused.2.2.1 with none_left | kept
      · rw [none_left] at ticks
        cases ticks
      · exact ⟨kont, found, by rw [← kept, ticks]⟩
  | transferring tick jobId feeE8s staged second =>
      apply drives_of_pool limits same
      rintro own other mine ticks
      cases mine
      cases ticks
      exact ⟨kont, found, paused.2.2.1⟩
  | drive lease nowNanos poke =>
      have older : ∀ other after tick, sys.tasks other = some after → after.tick = some tick →
          tick.number < sys.drives.length := by
        intro other after tick located ticks
        have listed := (limits.own other after tick located ticks).1
        exact (List.getElem?_eq_some_iff.mp listed).1
      refine ⟨?_, ?_, ?_, ?_⟩
      · intro other after tick located ticks
        rcases Pool.put_eq_some located with ⟨rfl, mine⟩ | ⟨_, theirs⟩
        · cases mine
          cases ticks
          have last : (sys.drives ++ [st.config.maxTransfersPerTick])[sys.drives.length]? =
              some st.config.maxTransfersPerTick := by simp
          refine ⟨last, ?_⟩
          show st.slot.ticks.count sys.drives.length ≤ 0
          rw [same, Nat.le_zero, List.count_eq_zero]
          intro member
          exact absurd (limits.known _ member) (Nat.lt_irrefl _)
        · have before := limits.own other after tick theirs ticks
          refine ⟨?_, ?_⟩
          · show (sys.drives ++ _)[tick.number]? = _
            rw [List.getElem?_append_left (older other after tick theirs ticks)]
            exact before.1
          · show st.slot.ticks.count tick.number ≤ _
            rw [same]
            exact before.2
      · intro i j first second tick other left right one two equal
        rcases Pool.put_eq_some left with ⟨rfl, mine⟩ | ⟨_, theirs⟩
        · rcases Pool.put_eq_some right with ⟨rfl, _⟩ | ⟨_, also⟩
          · rfl
          · cases mine
            cases one
            have below := older j second other also two
            exact absurd equal (Nat.ne_of_gt below)
        · rcases Pool.put_eq_some right with ⟨rfl, mine⟩ | ⟨_, also⟩
          · cases mine
            cases two
            have below := older i first tick theirs one
            exact absurd equal (Nat.ne_of_lt below)
          · exact limits.distinct i j first second tick other theirs also one two equal
      · intro number limit listed
        show st.slot.ticks.count number ≤ limit
        rw [same]
        by_cases old : number < sys.drives.length
        · apply limits.limited number limit
          have kept : (sys.drives ++ [st.config.maxTransfersPerTick])[number]? =
              some (some limit) := listed
          rwa [List.getElem?_append_left old] at kept
        · have none_yet : sys.state.slot.ticks.count number = 0 := by
            rw [List.count_eq_zero]
            intro member
            exact old (limits.known number member)
          omega
      · intro number member
        have listed : number ∈ st.slot.ticks := member
        rw [same] at listed
        have below := limits.known number listed
        show number < (sys.drives ++ [st.config.maxTransfersPerTick]).length
        rw [List.length_append]
        omega

theorem drives_of_stages (limits : DriveLimits sys) {tick : Tick}
    (found : sys.tasks id = some (.loop tick))
    (stages : Stages rules sys.state now tick job next result) :
    DriveLimits (settleJob sys id now result) := by
  have own := limits.own id _ tick found rfl
  have planned := planNextTransfer_planned stages.planned
  have entries : ∃ entry, next.staged = entry :: job.staged ∧ entry.tick = tick.number := by
    cases planned.2 with
    | topup index share staged =>
        rcases staged.entry with ⟨kind, entries⟩
        exact ⟨_, entries, rfl⟩
    | surplus index share staged =>
        rcases staged.entry with ⟨kind, entries⟩
        exact ⟨_, entries, rfl⟩
  rcases entries with ⟨entry, entries, number⟩
  have ticks : (sys.state.setActiveJob next).slot.ticks =
      tick.number :: sys.state.slot.ticks := by
    simp [RelayState.slot, RelayState.setActiveJob, stages.active, Slot.ticks, Slot.jobs, entries,
      number]
  rw [stages.result]
  refine ⟨?_, ?_, ?_, ?_⟩
  · intro other after held located holds
    show _ ∧ (sys.state.setActiveJob next).slot.ticks.count held.number ≤ held.started
    rw [ticks]
    rcases Pool.put_eq_some located with ⟨rfl, mine⟩ | ⟨different, theirs⟩
    · cases mine
      cases holds
      refine ⟨own.1, ?_⟩
      rw [List.count_cons_self]
      exact Nat.succ_le_succ own.2
    · have before := limits.own other after held theirs holds
      refine ⟨before.1, ?_⟩
      have apart : tick.number ≠ held.number := by
        intro equal
        exact different (limits.distinct other id after _ held tick theirs found holds rfl
          equal.symm)
      rw [List.count_cons_of_ne apart]
      exact before.2
  · intro i j first second one two left right holds also equal
    rcases Pool.put_eq_some left with ⟨rfl, mine⟩ | ⟨_, theirs⟩
    · cases mine
      cases holds
      rcases Pool.put_eq_some right with ⟨rfl, _⟩ | ⟨_, other⟩
      · rfl
      · exact limits.distinct _ j _ second tick two found other rfl also equal
    · rcases Pool.put_eq_some right with ⟨rfl, mine⟩ | ⟨_, other⟩
      · cases mine
        cases also
        exact limits.distinct i _ first _ one tick theirs found holds rfl equal
      · exact limits.distinct i j first second one two theirs other holds also equal
  · intro number limit listed
    show (sys.state.setActiveJob next).slot.ticks.count number ≤ limit
    rw [ticks]
    by_cases same : tick.number = number
    · subst same
      have limits_agree : tick.limit = some limit := by
        have listed_own := own.1.symm.trans listed
        exact Option.some.inj listed_own
      have below := planned.1 limit limits_agree
      rw [List.count_cons_self]
      omega
    · rw [List.count_cons_of_ne same]
      exact limits.limited number limit listed
  · intro number member
    have listed : number ∈ (sys.state.setActiveJob next).slot.ticks := member
    rw [ticks] at listed
    rcases List.mem_cons.mp listed with rfl | earlier
    · exact (List.getElem?_eq_some_iff.mp own.1).1
    · exact limits.known number earlier

variable {relayId : Principal}

theorem drives_step {next : JobSystem} {event : JobEvent} (frame : JobFrame sys)
    (limits : DriveLimits sys) (taken : stepJob relayId sys event = some next) :
    DriveLimits next := by
  cases stepJob_cases taken with
  | @begin id now poke =>
      rcases beginTick_cases sys.state now poke with same | ⟨lease, _, same⟩
      · rw [same]
        exact drives_of_pool limits rfl fun _ _ impossible => by cases impossible
      · rw [same]
        refine drives_of_pool limits rfl ?_
        rintro after tick mine ticks
        cases mine
        cases ticks
  | resume found forward bounded replies resumed =>
      rcases resumed_segment frame found replies resumed (any_allows sys _) with
        quiet | ⟨tick, job, staged, rfl, stages⟩
      · exact drives_of_quiet limits found quiet
      · exact drives_of_stages limits found stages
  | abandon cleanup =>
      cases cleanup <;>
        exact drives_of_pool limits rfl fun _ _ impossible => by cases impossible
  | ledger => exact ⟨limits.own, limits.distinct, limits.limited, limits.known⟩
  | upgrade config =>
      have same : (sys.state.upgraded config).slot.ticks = sys.state.slot.ticks := by
        simp only [RelayState.upgraded, RelayState.slot]
        cases sys.state.activeJob with
        | none => rfl
        | some job => exact ticks_ended sys.state.past false rfl
      refine ⟨?_, ?_, ?_, ?_⟩
      · intro id kont tick impossible
        cases impossible
      · intro i j first second tick other impossible
        cases impossible
      · show ∀ number limit, _ → (sys.state.upgraded config).slot.ticks.count number ≤ limit
        rw [same]
        exact limits.limited
      · show ∀ number ∈ (sys.state.upgraded config).slot.ticks, _
        rw [same]
        exact limits.known

theorem drives_reachable (reachable : (jobMachine relayId).Reachable sys) :
    JobFrame sys ∧ DriveLimits sys := by
  apply (jobMachine relayId).reachable_invariant (fun sys => JobFrame sys ∧ DriveLimits sys) _ _
    reachable
  · intro state started
    refine ⟨frame_init started, ?_⟩
    rcases started with ⟨config, nowNanos, rfl⟩
    refine ⟨?_, ?_, ?_, ?_⟩
    · intro id kont tick impossible
      cases impossible
    · intro i j first second tick other impossible
      cases impossible
    · intro number limit impossible
      cases impossible
    · intro number impossible
      cases impossible
  · intro state event next before taken
    exact ⟨frame_step before.1 taken, drives_step before.1 before.2 taken⟩

end Drives

structure SpendingBound (sys : JobSystem) : Prop where
  bounded : ∀ job ∈ sys.state.slot.jobs, job.stagedGross ≤ job.balanceStartE8s
  once : ∀ job ∈ sys.state.slot.jobs, job.sources.Nodup
  increasing : ∀ job ∈ sys.state.slot.jobs, job.createdTimes.Pairwise (· > ·)
  limited : ∀ number limit, sys.drives[number]? = some (some limit) →
    sys.state.slot.ticks.count number ≤ limit

theorem job_spending_bound (relayId : Principal) (start sys : JobSystem) (events : List JobEvent)
    (started : (jobMachine relayId).init start)
    (complies : (jobMachine relayId).Complies (fun sys event => spendingRules.allows sys event = true)
      start events)
    (ran : (jobMachine relayId).run start events = some sys) : SpendingBound sys := by
  have slots := (slots_run bounded_preserved started complies ran).2
  have drives := (drives_reachable ⟨start, events, started, ran⟩).2
  have spent : ∀ job ∈ sys.state.slot.jobs, Spent job := by
    intro job member
    simp only [Slot.jobs, List.mem_append, Option.mem_toList, List.mem_map] at member
    rcases member with active | ⟨record, earlier, rfl⟩
    · exact (slots.1 job active).spent
    · exact slots.2 record earlier
  exact ⟨fun job member => (spent job member).bounded, fun job member => (spent job member).once,
    fun job member => (spent job member).increasing, drives.limited⟩

/-- Two managed canisters, one raw recipient and one transfer a tick. -/
def sampleJobConfig : RelayConfig where
  managedCanisters := [⟨[2]⟩, ⟨[3]⟩]
  cmcCanisterId := ⟨[4]⟩
  governanceCanisterId := ⟨[5]⟩
  maxTransfersPerTick := some 1
  surplusRecipients := [⟨.canister ⟨[6]⟩, none⟩]

def sampleJobTime : Nat := 1700000000000000000

def sampleJobStart : JobSystem :=
  ⟨RelayState.new sampleJobConfig, Pool.empty, [], [], sampleJobTime⟩

def baselineTick (cycles : Nat) : List JobEvent :=
  [.begin 0 sampleJobTime false, .resume 0 (.stages true) sampleJobTime,
    .resume 0 (.probed [(⟨[2]⟩, cycles), (⟨[3]⟩, cycles)] false) sampleJobTime,
    .resume 0 .resumed sampleJobTime, .resume 0 .resumed sampleJobTime]

/-- The start of a tick whose job finds both canisters at the given cycles. -/
def fundedTick (cycles balance : Nat) : List JobEvent :=
  [.begin 0 sampleJobTime false, .resume 0 (.stages true) sampleJobTime,
    .resume 0 (.probed [(⟨[2]⟩, cycles), (⟨[3]⟩, cycles)] false) sampleJobTime,
    .resume 0 (.amount (some balance)) sampleJobTime,
    .resume 0 (.amount (some 10000)) sampleJobTime, .resume 0 (.conversion none) sampleJobTime]

def toppedUp (call block : Nat) : List JobEvent :=
  [.resume 0 .resumed sampleJobTime, .resume 0 .resumed sampleJobTime,
    .ledger call (.accepted block), .resume 0 (.transfer (some (.ok block))) sampleJobTime,
    .resume 0 (.notify (.succeeded 1000)) sampleJobTime]

/-- The first top-up uses up the tick's limit; the next tick resumes with the second. -/
def limitedRun : List JobEvent :=
  baselineTick 5000000000000 ++ fundedTick 4000000000000 10000000000 ++ toppedUp 0 7 ++
    [.resume 0 .resumed sampleJobTime, .resume 0 .resumed sampleJobTime,
      .begin 0 sampleJobTime false, .resume 0 (.stages true) sampleJobTime] ++ toppedUp 1 8

theorem job_spending_bound_limited :
    ∃ sys, (sys.state.activeJob.map fun job => job.sources) = some [.topup 1, .topup 0] ∧
      sys.drives = [some 1, some 1, some 1] ∧ SpendingBound sys := by
  have ran : (jobMachine sampleRelay).run sampleJobStart limitedRun =
      some (((jobMachine sampleRelay).run sampleJobStart limitedRun).getD sampleJobStart) := by rfl
  have checked : (jobMachine sampleRelay).check spendingRules.allows sampleJobStart limitedRun =
      true := by rfl
  exact ⟨_, rfl, rfl, job_spending_bound sampleRelay sampleJobStart _ limitedRun ⟨_, _, rfl⟩
    ((jobMachine sampleRelay).complies_of_check checked) ran⟩

/-- Both canisters ask for more than a `nat64` holds; their shares are divided by the saturated
total, and each is given the whole balance. -/
def saturatedRun : List JobEvent :=
  baselineTick 4000000000000000000000000 ++ fundedTick 0 1000000000 ++ toppedUp 0 7 ++
    [.resume 0 .resumed sampleJobTime, .resume 0 .resumed sampleJobTime,
      .begin 0 sampleJobTime false, .resume 0 (.stages true) sampleJobTime,
      .resume 0 .resumed sampleJobTime]

theorem job_spending_bound_saturated :
    ∃ sys, (jobMachine sampleRelay).Reachable sys ∧ ∃ job, sys.state.activeJob = some job ∧
      job.balanceStartE8s = 1000000000 ∧ job.stagedGross = 2000000000 := by
  have ran : (jobMachine sampleRelay).run sampleJobStart saturatedRun =
      some (((jobMachine sampleRelay).run sampleJobStart saturatedRun).getD sampleJobStart) := by
    rfl
  have reachable : (jobMachine sampleRelay).Reachable
      (((jobMachine sampleRelay).run sampleJobStart saturatedRun).getD sampleJobStart) :=
    ⟨sampleJobStart, saturatedRun, ⟨_, _, rfl⟩, ran⟩
  exact ⟨_, reachable, _, rfl, rfl, rfl⟩

end JupiterSuite.Relay
