import JupiterSuite.Faucet.FundingMoves

/-! Every discovery reports the oldest qualifying transfer of the history it began with, and jobs
are created for tranches in increasing order. -/

namespace JupiterSuite.Faucet

open Base

structure FundingReport.Sound (config : FaucetConfig) (report : FundingReport) : Prop where
  arrived : ∃ newer, report.present = newer ++ report.begun
  descending : Descending report.present
  judged : report.judged.map JudgedTx.tx =
    report.begun.filter (isUnprocessed report.lastProcessed)
  result : ∃ candidate, report.result = discoveryOf candidate ∧
    Selected config report.judged candidate

/-- The jobs created so far are in order; the latest one is active or was completed. -/
structure JobsInOrder (st : FaucetState) (reports : List FundingReport) (created : List CreatedJob) :
    Prop where
  discovered : ∀ job ∈ created, Discovered reports job.lastProcessed job.tranche
  chain : created.Pairwise fun newer older =>
    ∃ last, newer.lastProcessed = some last ∧ older.tranche.txId ≤ last
  idle : st.activePayoutJob = none → ∀ job ∈ created,
    ∃ last, st.lastProcessedFundingTxId = some last ∧ job.tranche.txId ≤ last
  active : ∀ job, st.activePayoutJob = some job → ∃ latest older, created = latest :: older ∧
    job.tranche = some latest.tranche ∧ latest.lastProcessed = st.lastProcessedFundingTxId

structure FundingInvariant (sys : FundingSystem) : Prop where
  descending : Descending sys.history
  leased : Leased FundingKont.lease sys.state.mainLockStateTs (sys.clock / nanosPerSecond)
    sys.tasks
  konts : sys.tasks.Holds (KontOk sys.history sys.reports)
  pinned : sys.tasks.Holds
    (Fenced FundingKont.lease sys.state.mainLockStateTs (Pinned sys.state))
  scan : ∀ scan, sys.state.activeFundingScan = some scan →
    ScanRecord sys.state.config sys.history (sys.scanBegun scan) (sys.scanJudged scan) scan
  reports : ∀ report ∈ sys.reports, report.Sound sys.state.config
  jobs : JobsInOrder sys.state sys.reports sys.created

variable {candidate : Option FundingTranche} {reports : List FundingReport}
  {created : List CreatedJob} {st : FaucetState} {job : ActivePayoutJob}
variable {last : Nat} {lastProcessed : Option Nat} {result : FaucetState × FundingPause}

section Reports

variable {config : FaucetConfig} {report : FundingReport} {tranche : FundingTranche}

theorem discoveryOf_found (found : discoveryOf candidate = .found tranche) :
    candidate = some tranche := by
  cases candidate with
  | none => cases found
  | some chosen =>
      cases found
      rfl

theorem discoveryOf_empty (empty : discoveryOf candidate = .empty) : candidate = none := by
  cases candidate with
  | none => rfl
  | some chosen => cases empty

namespace FundingReport.Sound

theorem found_iff (sound : report.Sound config) :
    report.result = .found tranche → OldestQualifying config report.judged tranche := by
  intro found
  rcases sound.result with ⟨candidate, same, selected⟩
  rw [discoveryOf_found (same.symm.trans found)] at selected
  exact selected

theorem above (sound : report.Sound config) (found : report.result = .found tranche)
    (processed : report.lastProcessed = some last) : last < tranche.txId := by
  rcases (sound.found_iff found).1 with ⟨entry, member, same, _⟩
  have present : entry.tx ∈ report.begun.filter (isUnprocessed report.lastProcessed) := by
    rw [← sound.judged]
    exact List.mem_map.mpr ⟨entry, member, rfl⟩
  have unprocessed := (List.mem_filter.mp present).2
  rw [processed] at unprocessed
  simp only [isUnprocessed, isProcessed, Option.any_some, Bool.not_eq_true', decide_eq_false_iff_not,
    not_le] at unprocessed
  omega

end FundingReport.Sound

theorem Discovered.above (sound : ∀ report ∈ reports, FundingReport.Sound config report)
    (found : Discovered reports lastProcessed tranche) (processed : lastProcessed = some last) :
    last < tranche.txId := by
  rcases found with ⟨report, member, result, same⟩
  exact (sound report member).above result (same.trans processed)

theorem Discovered.mono {later : List FundingReport}
    (found : Discovered reports lastProcessed tranche) (kept : ∀ report ∈ reports, report ∈ later) :
    Discovered later lastProcessed tranche := by
  rcases found with ⟨report, member, rest⟩
  exact ⟨report, kept report member, rest⟩

end Reports

section Records

variable {limits : ScanLimits} {sys : FundingSystem} {kont : FundingKont} {reply : FundingReply}
  {middle : FaucetState}

theorem FundingInvariant.scanned (invariant : FundingInvariant sys) {later : FundingSystem}
    {scan : Option FundingScanState} {added : List FundingReport}
    (state : later.state = sys.state.setScan scan) (tasks : later.tasks = sys.tasks)
    (history : later.history = sys.history) (clock : later.clock = sys.clock)
    (created : later.created = sys.created) (reports : later.reports = added ++ sys.reports)
    (sound : ∀ report ∈ added, report.Sound sys.state.config)
    (record : ∀ next, scan = some next → ScanRecord sys.state.config sys.history
      (later.scanBegun next) (later.scanJudged next) next) : FundingInvariant later where
  descending := by
    rw [history]
    exact invariant.descending
  leased := by
    rw [state, clock, tasks]
    exact invariant.leased
  konts := by
    rw [history, tasks, reports]
    refine invariant.konts.mono ?_
    intro kont ok
    cases kont with
    | reread run tranche =>
        exact Discovered.mono ok fun report member => List.mem_append_right _ member
    | _ => exact ok
  pinned := by
    rw [state, tasks]
    refine invariant.pinned.mono ?_
    intro kont fenced owner
    have pinned := fenced owner
    cases kont <;> exact pinned
  scan := by
    intro next active
    rw [state] at active ⊢
    rw [history]
    exact record next active
  reports := by
    intro report member
    rw [reports] at member
    rw [state]
    rcases List.mem_append.mp member with new | old
    · exact sound report new
    · exact invariant.reports report old
  jobs := by
    rw [state, created, reports]
    constructor
    · intro job member
      exact (invariant.jobs.discovered job member).mono
        fun report member => List.mem_append_right _ member
    · exact invariant.jobs.chain
    · exact invariant.jobs.idle
    · exact invariant.jobs.active

theorem scanBegun_moved {scan : FundingScanState} (moved : scan.cursor ≠ none) :
    sys.scanBegun scan = sys.begun ∧ sys.scanJudged scan = sys.judged := by
  cases cursor : scan.cursor with
  | none => exact absurd cursor moved
  | some _ => simp [FundingSystem.scanBegun, FundingSystem.scanJudged, cursor]

/-- Reading a page keeps the record of the scan and adds only sound reports. -/
theorem scanMove_sound (invariant : FundingInvariant sys)
    (ok : KontOk sys.history sys.reports kont) (moved : ScanMove limits sys kont reply middle) :
    FundingInvariant { sys.observe limits kont reply with state := middle } := by
  have nothing : ∀ report ∈ ([] : List FundingReport), report.Sound sys.state.config := by
    intro report member
    cases member
  cases moved with
  | same unobserved =>
      rw [unobserved]
      exact invariant
  | prepare unobserved =>
      rw [unobserved]
      refine invariant.scanned rfl rfl rfl rfl rfl rfl nothing ?_
      intro next same
      cases same
      simp only [FaucetState.fundingScan]
      split
      · exact scanRecord_fresh _ _ _
      · rename_i scan active
        split
        · exact invariant.scan scan active
        · exact scanRecord_fresh _ _ _
  | @continued run scan next observedOldest pagesLeft count oldest suspended answered owner
      scanned =>
      subst suspended answered
      have active := (ownsScan_iff.mp owner).2.2.2
      have record := invariant.scan scan active
      rcases scanPage_continued record invariant.descending ok.1 scanned with
        ⟨read, _, cursor, _, _⟩
      have observed : sys.observe limits (.page run scan observedOldest pagesLeft)
          (.page (some count)) = { sys with
            begun := sys.scanBegun scan
            judged := sys.scanJudged scan ++
              judgedBy run (indexPage sys.history scan.cursor count) } := by
        simp only [FundingSystem.observe, pageOutcome, owner, if_true, scanned]
      rw [observed]
      refine invariant.scanned rfl rfl rfl rfl rfl rfl nothing ?_
      intro other same
      cases same
      rw [(scanBegun_moved cursor).1, (scanBegun_moved cursor).2]
      exact read
  | @complete run scan observedOldest pagesLeft count candidate suspended answered owner scanned =>
      subst suspended answered
      have active := (ownsScan_iff.mp owner).2.2.2
      have record := invariant.scan scan active
      rcases scanPage_complete record invariant.descending ok.1 scanned with ⟨all, selected⟩
      have observed : sys.observe limits (.page run scan observedOldest pagesLeft)
          (.page (some count)) = { sys with
            begun := sys.scanBegun scan
            judged := sys.scanJudged scan ++
              judgedBy run (indexPage sys.history scan.cursor count)
            reports := ⟨run.lastProcessed, sys.scanBegun scan, sys.history,
              sys.scanJudged scan ++ judgedBy run (indexPage sys.history scan.cursor count),
              discoveryOf candidate⟩ :: sys.reports } := by
        simp only [FundingSystem.observe, pageOutcome, owner, if_true, scanned]
      rw [observed]
      refine invariant.scanned rfl rfl rfl rfl rfl (List.singleton_append).symm ?_ ?_
      · intro report member
        rw [List.mem_singleton.mp member]
        exact ⟨record.arrived, invariant.descending, all, candidate, rfl, selected⟩
      · intro next same
        cases same

end Records

section Moves

variable {sys : FundingSystem} {id now : Nat} {kont : FundingKont} {after : FaucetState}
  {pause : FundingPause}

theorem FundingInvariant.settled (invariant : FundingInvariant sys)
    (config : after.config = sys.state.config)
    (scan : after.activeFundingScan = sys.state.activeFundingScan)
    (leased : Leased FundingKont.lease after.mainLockStateTs (now / nanosPerSecond)
      (sys.tasks.put id pause.suspended))
    (own : ∀ next, pause.suspended = some next →
      KontOk sys.history sys.reports next ∧ Pinned after next)
    (others : ∀ other theirs, other ≠ id → sys.tasks other = some theirs →
      Fenced FundingKont.lease sys.state.mainLockStateTs (Pinned sys.state) theirs →
      Fenced FundingKont.lease after.mainLockStateTs (Pinned after) theirs)
    (jobs : JobsInOrder after sys.reports (createdBy sys.state after ++ sys.created)) :
    FundingInvariant (settleFunding sys id now (after, pause)) where
  descending := invariant.descending
  leased := leased
  konts := invariant.konts.put (fun next suspended => (own next suspended).1)
    fun _ _ _ _ ok => ok
  pinned := invariant.pinned.put (fun next suspended _ => (own next suspended).2) others
  scan := by
    intro next active
    have same := invariant.scan next (scan ▸ active)
    rw [← config] at same
    exact same
  reports := by
    intro report member
    have sound := invariant.reports report member
    rw [← config] at sound
    exact sound
  jobs := jobs

theorem pinned_same (job : after.activePayoutJob = sys.state.activePayoutJob)
    (lock : after.mainLockStateTs = sys.state.mainLockStateTs) {theirs : FundingKont}
    (fenced : Fenced FundingKont.lease sys.state.mainLockStateTs (Pinned sys.state) theirs) :
    Fenced FundingKont.lease after.mainLockStateTs (Pinned after) theirs := by
  intro owner
  rw [lock] at owner
  have pinned := fenced owner
  cases theirs with
  | finalize tick seen => exact job.trans pinned
  | _ => trivial

theorem createdBy_same (job : after.activePayoutJob = sys.state.activePayoutJob) :
    createdBy sys.state after = [] := by
  simp only [createdBy, job]
  cases sys.state.activePayoutJob <;> rfl

theorem JobsInOrder.same (jobs : JobsInOrder st reports created)
    (job : after.activePayoutJob = st.activePayoutJob)
    (last : after.lastProcessedFundingTxId = st.lastProcessedFundingTxId) :
    JobsInOrder after reports created where
  discovered := jobs.discovered
  chain := jobs.chain
  idle := by
    rw [job, last]
    exact jobs.idle
  active := by
    rw [job, last]
    exact jobs.active

theorem sameTranche_tranche {other : ActivePayoutJob} (same : job.sameTranche other = true) :
    job.tranche = other.tranche := by
  simp only [ActivePayoutJob.sameTranche, Bool.and_eq_true, decide_eq_true_eq] at same
  simp only [ActivePayoutJob.tranche, same]

theorem ensureActiveJob_created {nowNanos feeE8s denomE8s : Nat} {tranche : FundingTranche}
    (idle : st.activePayoutJob = none) :
    ∃ job, (ensureActiveJob st nowNanos feeE8s denomE8s tranche).activePayoutJob = some job ∧
      job.tranche = some tranche := by
  simp only [ensureActiveJob, idle, Option.isSome_none, Bool.false_eq_true, if_false]
  refine ⟨_, rfl, ?_⟩
  cases st.currentRoundStartTimeNanos <;> rfl

theorem ensureActiveJob_fields (st : FaucetState) (nowNanos feeE8s denomE8s : Nat)
    (tranche : FundingTranche) :
    (ensureActiveJob st nowNanos feeE8s denomE8s tranche).config = st.config ∧
      (ensureActiveJob st nowNanos feeE8s denomE8s tranche).activeFundingScan =
        st.activeFundingScan ∧
      (ensureActiveJob st nowNanos feeE8s denomE8s tranche).mainLockStateTs =
        st.mainLockStateTs ∧
      (ensureActiveJob st nowNanos feeE8s denomE8s tranche).lastProcessedFundingTxId =
        st.lastProcessedFundingTxId := by
  simp only [ensureActiveJob]
  split <;> exact ⟨rfl, rfl, rfl, rfl⟩

theorem awaitsTranche_iff {run : DiscoveryRun} :
    st.awaitsTranche run = true ↔
      st.mainLockStateTs = some run.tick.lease ∧
        st.lastProcessedFundingTxId = run.lastProcessed ∧ st.payoutNonce = run.payoutNonce ∧
        st.activePayoutJob = none := by
  simp [FaucetState.awaitsTranche, FaucetState.isCurrent, and_assoc]

theorem JobsInOrder.create {tranche : FundingTranche} (jobs : JobsInOrder st reports created)
    (idle : st.activePayoutJob = none)
    (found : Discovered reports st.lastProcessedFundingTxId tranche)
    (active : after.activePayoutJob = some job) (is : job.tranche = some tranche)
    (last : after.lastProcessedFundingTxId = st.lastProcessedFundingTxId) :
    JobsInOrder after reports (⟨st.lastProcessedFundingTxId, tranche⟩ :: created) where
  discovered := by
    intro other member
    rcases List.mem_cons.mp member with new | old
    · rw [new]
      exact found
    · exact jobs.discovered other old
  chain := List.pairwise_cons.mpr ⟨fun older member => jobs.idle idle older member, jobs.chain⟩
  idle := by
    intro none
    rw [active] at none
    cases none
  active := by
    intro other same
    rw [active] at same
    cases same
    exact ⟨_, created, rfl, is, last.symm⟩

theorem JobsInOrder.finish {config : FaucetConfig} (jobs : JobsInOrder st reports created)
    (sound : ∀ report ∈ reports, FundingReport.Sound config report)
    (active : st.activePayoutJob = some job) :
    JobsInOrder (st.finalized job) reports created where
  discovered := jobs.discovered
  chain := jobs.chain
  idle := by
    intro _ other member
    rcases jobs.active job active with ⟨latest, older, rfl, is, last⟩
    have funding : job.fundingTxId = some latest.tranche.txId := by
      simp only [ActivePayoutJob.tranche] at is
      split at is
      · rename_i funding _ _
        rw [funding]
        exact congrArg (Option.map FundingTranche.txId) is
      · cases is
    refine ⟨latest.tranche.txId, by simp [FaucetState.finalized, funding], ?_⟩
    rcases List.mem_cons.mp member with same | old
    · rw [same]
    · rcases (List.pairwise_cons.mp jobs.chain).1 other old with ⟨before, processed, below⟩
      have above := (jobs.discovered latest List.mem_cons_self).above sound processed
      omega
  active := by
    intro other impossible
    cases impossible

theorem tickMove_sound (invariant : FundingInvariant sys) (found : sys.tasks id = some kont)
    (forward : sys.clock ≤ now)
    (move : TickMove kont.lease sys.history sys.reports sys.state result) :
    FundingInvariant (settleFunding sys id now result) := by
  have later := invariant.leased.tick (Nat.div_le_div_right (c := nanosPerSecond) forward)
  cases move with
  | stop quiet lock =>
      refine invariant.settled quiet.config quiet.scan ?_ ?_ ?_ ?_
      · exact later.stop found (lock.imp_right And.left)
      · intro next impossible
        cases impossible
      · intro other theirs different also fenced
        rcases lock with same | ⟨owner, released⟩
        · exact pinned_same quiet.job same fenced
        · exact fenced_of_owner invariant.leased found owner (.inr released) also different
      · rw [createdBy_same quiet.job]
        exact invariant.jobs.same quiet.job quiet.lastProcessed
  | wait quiet lock keeps ok pinned =>
      refine invariant.settled quiet.config quiet.scan ?_ ?_ ?_ ?_
      · rw [lock]
        exact later.keep found keeps
      · intro next same
        cases same
        exact ⟨ok, pinned⟩
      · exact fun _ _ _ _ fenced => pinned_same quiet.job lock fenced
      · rw [createdBy_same quiet.job]
        exact invariant.jobs.same quiet.job quiet.lastProcessed
  | @create run tranche keeps discovered awaits =>
      rcases awaitsTranche_iff.mp awaits with ⟨owner, last, _, idle⟩
      rcases ensureActiveJob_fields sys.state run.tick.nowNanos run.feeE8s run.denomE8s tranche with
        ⟨config, scan, lock, processed⟩
      rcases @ensureActiveJob_created sys.state run.tick.nowNanos run.feeE8s run.denomE8s tranche
        idle with ⟨job, active, is⟩
      have current : sys.state.mainLockStateTs = some kont.lease := by
        rw [owner, keeps]
      refine invariant.settled config scan ?_ ?_ ?_ ?_
      · rw [lock]
        exact later.keep found keeps
      · intro next same
        cases same
        exact ⟨trivial, trivial⟩
      · intro other theirs different also _
        rw [lock]
        exact fenced_of_owner invariant.leased found current (.inl rfl) also different
      · have created : createdBy sys.state
            (ensureActiveJob sys.state run.tick.nowNanos run.feeE8s run.denomE8s tranche) =
              [⟨sys.state.lastProcessedFundingTxId, tranche⟩] := by
          simp only [createdBy, idle, active, is]
          rfl
        rw [created]
        rw [← last] at discovered
        exact invariant.jobs.create idle discovered active is processed
  | @work tick job keeps current active =>
      refine invariant.settled rfl rfl ?_ ?_ ?_ ?_
      · exact later.keep found keeps
      · intro next same
        cases same
        exact ⟨trivial, trivial⟩
      · intro other theirs different also _
        exact fenced_of_owner invariant.leased found current (.inl rfl) also different
      · rcases (Option.any_eq_true _ _).mp active with ⟨before, was, same⟩
        have created : createdBy sys.state (sys.state.setJob job) = [] := by
          simp only [createdBy, was]
        rw [created]
        refine ⟨invariant.jobs.discovered, invariant.jobs.chain, ?_, ?_⟩
        · intro impossible
          cases impossible
        · intro next now
          cases now
          rcases invariant.jobs.active before was with ⟨latest, older, split, is, last⟩
          exact ⟨latest, older, split, (sameTranche_tranche same).trans is, last⟩
  | @finish tick job keeps current active =>
      refine invariant.settled rfl rfl ?_ ?_ ?_ ?_
      · exact later.keep found keeps
      · intro next same
        cases same
        exact ⟨trivial, trivial⟩
      · intro other theirs different also _
        exact fenced_of_owner invariant.leased found current (.inl rfl) also different
      · have created : createdBy sys.state (sys.state.finalized job) = [] := by
          simp only [createdBy, active]
        rw [created]
        exact invariant.jobs.finish invariant.reports active

end Moves

section Steps

variable {limits : ScanLimits} {sys next : FundingSystem}

theorem observe_frame (limits : ScanLimits) (sys : FundingSystem) (kont : FundingKont)
    (reply : FundingReply) :
    (sys.observe limits kont reply).state = sys.state ∧
      (sys.observe limits kont reply).tasks = sys.tasks ∧
      (sys.observe limits kont reply).history = sys.history ∧
      (sys.observe limits kont reply).clock = sys.clock := by
  simp only [FundingSystem.observe]
  split <;> exact ⟨rfl, rfl, rfl, rfl⟩

theorem scanMove_frame {kont : FundingKont} {reply : FundingReply} {middle : FaucetState}
    (moved : ScanMove limits sys kont reply middle) :
    ∃ scan, middle = sys.state.setScan scan := by
  cases moved with
  | same => exact ⟨sys.state.activeFundingScan, rfl⟩
  | prepare => exact ⟨_, rfl⟩
  | continued => exact ⟨_, rfl⟩
  | complete => exact ⟨_, rfl⟩

theorem resume_sound {id now : Nat} {kont : FundingKont} {reply : FundingReply}
    (invariant : FundingInvariant sys) (found : sys.tasks id = some kont)
    (forward : sys.clock ≤ now)
    (resumed : resumeFunding limits sys.history sys.state kont reply = some result) :
    FundingInvariant (settleFunding (sys.observe limits kont reply) id now result) := by
  have ok := invariant.konts id kont found
  have continues : ∀ run scan observedOldest pagesLeft after oldest count,
      kont = .page run scan observedOldest pagesLeft → reply = .page (some count) →
      sys.state.ownsScan run scan = true →
      scanPage limits.pageSize sys.state.config run scan observedOldest
        (indexPage sys.history scan.cursor count) = .continued after oldest →
      after.anchorLastProcessedFundingTxId = run.lastProcessed ∧
        oldest = sys.history.getLast?.map IndexTx.id := by
    intro run scan observedOldest pagesLeft after oldest count suspended _ owner scanned
    subst suspended
    have record := invariant.scan scan (ownsScan_iff.mp owner).2.2.2
    have read := scanPage_continued record invariant.descending ok.1 scanned
    exact ⟨read.2.1, read.2.2.2.1⟩
  rcases resume_moves ok (invariant.pinned id kont found) continues resumed with
    ⟨middle, scanned, move⟩
  have before := scanMove_sound invariant ok scanned
  rcases observe_frame limits sys kont reply with ⟨state, tasks, history, clock⟩
  rcases scanMove_frame scanned with ⟨scan, rfl⟩
  have settled : settleFunding (sys.observe limits kont reply) id now result =
      settleFunding { sys.observe limits kont reply with state := sys.state.setScan scan }
        id now result := by
    simp only [settleFunding, createdBy, state, FaucetState.setScan]
  rw [settled]
  apply tickMove_sound before
  · rw [tasks]
    exact found
  · rw [clock]
    exact forward
  · rw [history]
    exact move

theorem beginTick_cases (st : FaucetState) (nowNanos : Nat) (force poke : Bool) :
    beginTick st nowNanos force poke = (st, .done) ∨
      ∃ lease, acquireLease (nowNanos / nanosPerSecond) mainTickLeaseSeconds st.mainLockStateTs =
          some lease ∧
        (beginTick st nowNanos force poke = ({ st with mainLockStateTs := some 0 }, .done) ∨
          ∃ kont, kont.lease = lease ∧ Pinned st kont ∧
            (∀ history reports, KontOk history reports kont) ∧
            beginTick st nowNanos force poke =
              ({ st with mainLockStateTs := some lease }, .await kont)) := by
  simp only [beginTick]
  cases acquired : acquireLease (nowNanos / nanosPerSecond) mainTickLeaseSeconds
      st.mainLockStateTs with
  | none => exact .inl rfl
  | some lease =>
      refine .inr ⟨lease, rfl, ?_⟩
      dsimp only
      split
      · exact .inl (by simp [FaucetState.dropGuard])
      · have current : FaucetState.isCurrent { st with mainLockStateTs := some lease } lease :=
          decide_eq_true rfl
        simp only [processPayout, current, Bool.not_true, Bool.false_eq_true, if_false]
        split
        · exact .inr ⟨.fee ⟨lease, nowNanos, poke⟩, rfl, trivial, fun _ _ => trivial, rfl⟩
        · exact .inr ⟨.payout ⟨lease, nowNanos, poke⟩, rfl, trivial, fun _ _ => trivial, rfl⟩

theorem begin_sound {id now : Nat} {force poke : Bool} (invariant : FundingInvariant sys)
    (vacant : sys.tasks id = none) (forward : sys.clock ≤ now) (bounded : now ≤ u64Max) :
    FundingInvariant (settleFunding sys id now (beginTick sys.state now force poke)) := by
  have later := invariant.leased.tick (Nat.div_le_div_right (c := nanosPerSecond) forward)
  have nobody : ∀ next, FundingPause.done.suspended = some next →
      KontOk sys.history sys.reports next ∧ Pinned sys.state next := by
    intro next impossible
    cases impossible
  rcases beginTick_cases sys.state now force poke with same | ⟨lease, acquired, ended | ⟨kont, keeps,
    pinned, ok, same⟩⟩
  · rw [same]
    refine invariant.settled rfl rfl ?_ nobody ?_ ?_
    · rw [show FundingPause.done.suspended = none from rfl, Pool.put_vacant vacant]
      exact later
    · exact fun _ _ _ _ fenced => fenced
    · rw [createdBy_same rfl]
      exact invariant.jobs
  all_goals
    have fits : now / nanosPerSecond + mainTickLeaseSeconds ≤ u64Max := by
      simp only [nanosPerSecond, mainTickLeaseSeconds, u64Max] at bounded ⊢
      omega
    have spec := acquireLease_some (by decide) fits acquired
  · rw [ended]
    refine invariant.settled rfl rfl ?_ nobody ?_ ?_
    · rw [show FundingPause.done.suspended = none from rfl, Pool.put_vacant vacant]
      exact later.expired (Nat.le_refl _) spec.1 _
    · exact fun _ _ _ also _ => fenced_of_released later also
    · rw [createdBy_same (by rfl)]
      exact invariant.jobs.same rfl rfl
  · rw [same]
    refine invariant.settled rfl rfl ?_ ?_ ?_ ?_
    · rw [← keeps]
      apply later.acquire (Nat.le_refl _) spec.1
      rw [keeps]
      exact spec.2
    · intro next here
      cases here
      refine ⟨ok _ _, ?_⟩
      cases kont <;> exact pinned
    · intro other theirs different also _
      exact fenced_of_acquire later (Nat.le_refl _) spec.1 spec.2 also
    · rw [createdBy_same (by rfl)]
      exact invariant.jobs.same rfl rfl

theorem abandon_sound {id : Nat} {kont : FundingKont} (cleanup : Bool)
    (invariant : FundingInvariant sys) (found : sys.tasks id = some kont) :
    FundingInvariant { sys with
      state := if cleanup then sys.state.dropGuard kont.lease else sys.state
      tasks := sys.tasks.put id none } := by
  have move : TickMove kont.lease sys.history sys.reports sys.state
      (if cleanup then sys.state.dropGuard kont.lease else sys.state, .done) := by
    cases cleanup with
    | true => exact dropGuard_move
    | false => exact .stop Quiet.rfl (.inl rfl)
  have sound := tickMove_sound invariant found (Nat.le_refl sys.clock) move
  have job : (if cleanup then sys.state.dropGuard kont.lease else sys.state).activePayoutJob =
      sys.state.activePayoutJob := by
    cases cleanup <;> rfl
  simp only [settleFunding, createdBy_same job, List.nil_append] at sound
  exact sound

theorem getLast_arrive {history : List IndexTx} {oldest : Nat} (tx : IndexTx)
    (found : history.getLast?.map IndexTx.id = some oldest) :
    (tx :: history).getLast?.map IndexTx.id = some oldest := by
  cases history with
  | nil => cases found
  | cons head rest =>
      rw [List.getLast?_cons_cons]
      exact found

theorem arrive_sound {tx : IndexTx} (invariant : FundingInvariant sys)
    (newest : isNewest sys.history tx = true) :
    FundingInvariant { sys with history := tx :: sys.history } where
  descending := by
    apply List.pairwise_cons.mpr
    refine ⟨?_, invariant.descending⟩
    intro older member
    exact of_decide_eq_true (List.all_eq_true.mp newest older member)
  leased := invariant.leased
  konts := by
    refine invariant.konts.mono ?_
    intro kont ok
    cases kont with
    | page run scan observedOldest pagesLeft =>
        exact ⟨ok.1, fun oldest observed => getLast_arrive tx (ok.2 oldest observed)⟩
    | _ => exact ok
  pinned := invariant.pinned
  scan := by
    intro scan active
    have record := invariant.scan scan active
    cases cursor : scan.cursor with
    | none =>
        simp only [FundingSystem.scanBegun, FundingSystem.scanJudged, cursor, Option.isNone_none,
          if_true] at record ⊢
        exact ⟨⟨[], rfl⟩, fun _ => rfl, ⟨_, rfl⟩, record.reached, record.fresh, record.selected⟩
    | some last =>
        have moved : scan.cursor ≠ none := by
          rw [cursor]
          exact Option.some_ne_none last
        rw [(scanBegun_moved moved).1, (scanBegun_moved moved).2] at record ⊢
        exact record.arrive tx moved
  reports := invariant.reports
  jobs := invariant.jobs

theorem clearRescue_fields (st : FaucetState) (clear : Bool) :
    (st.clearRescue clear).config = st.config ∧
      (st.clearRescue clear).activePayoutJob = st.activePayoutJob ∧
      (st.clearRescue clear).lastProcessedFundingTxId = st.lastProcessedFundingTxId ∧
      (st.clearRescue clear).activeFundingScan = st.activeFundingScan := by
  cases clear <;> exact ⟨rfl, rfl, rfl, rfl⟩

theorem raiseFunding_cases (st : FaucetState) (raised : Option Nat) :
    (st.raiseFunding raised).config = st.config ∧
      (st.raiseFunding raised).activePayoutJob = st.activePayoutJob ∧
      (((st.raiseFunding raised).lastProcessedFundingTxId = st.lastProcessedFundingTxId ∧
          (st.raiseFunding raised).activeFundingScan = st.activeFundingScan) ∨
        ∃ last, raised = some last ∧
          (st.raiseFunding raised).lastProcessedFundingTxId = some last ∧
          (st.raiseFunding raised).activeFundingScan = none) := by
  cases raised with
  | none => exact ⟨rfl, rfl, .inl ⟨rfl, rfl⟩⟩
  | some last =>
      simp only [FaucetState.raiseFunding]
      split
      · exact ⟨rfl, rfl, .inl ⟨rfl, rfl⟩⟩
      · exact ⟨rfl, rfl, .inr ⟨last, rfl, rfl, rfl⟩⟩

theorem qualifyingAmount_upgraded (st : FaucetState) (args : UpgradeArgs) :
    qualifyingAmount (applyUpgradeArgs st args).config = qualifyingAmount st.config := by
  have config : ((st.clearRescue args.clearForcedRescue).raiseFunding
      args.lastProcessedFundingTxId).config = st.config :=
    (raiseFunding_cases _ _).1.trans (clearRescue_fields st _).1
  funext feeE8s tx
  simp only [qualifyingAmount, applyUpgradeArgs, config]

theorem selected_congr {before after : FaucetConfig} {judged : List JudgedTx}
    (same : qualifyingAmount after = qualifyingAmount before)
    (selected : Selected before judged candidate) : Selected after judged candidate := by
  cases candidate <;>
    simpa only [Selected, NoneQualifying, OldestQualifying, JudgedTx.IsTranche, JudgedTx.amount,
      same] using selected

/-- An upgrade keeps or drops the scan, and never lowers the funding cursor. -/
theorem applyUpgradeArgs_cases (st : FaucetState) (args : UpgradeArgs) :
    (applyUpgradeArgs st args).activePayoutJob = st.activePayoutJob ∧
      (((applyUpgradeArgs st args).lastProcessedFundingTxId = st.lastProcessedFundingTxId ∧
          (applyUpgradeArgs st args).activeFundingScan = st.activeFundingScan) ∨
        ∃ last, args.lastProcessedFundingTxId = some last ∧
          (applyUpgradeArgs st args).lastProcessedFundingTxId = some last ∧
          (applyUpgradeArgs st args).activeFundingScan = none) := by
  rcases clearRescue_fields st args.clearForcedRescue with ⟨_, job, last, scan⟩
  rcases raiseFunding_cases (st.clearRescue args.clearForcedRescue)
    args.lastProcessedFundingTxId with ⟨_, job', ⟨last', scan'⟩ | raised⟩
  · exact ⟨job'.trans job, .inl ⟨last'.trans last, scan'.trans scan⟩⟩
  · exact ⟨job'.trans job, .inr raised⟩

theorem upgrade_sound {args : UpgradeArgs} (invariant : FundingInvariant sys)
    (admitted : upgradeAdmits sys.state args = true) :
    FundingInvariant { sys with
      state := applyUpgradeArgs sys.state args, tasks := Pool.empty } := by
  simp only [upgradeAdmits, Bool.and_eq_true, Option.isNone_iff_eq_none] at admitted
  have idle := admitted.1.1.1.1
  have forward := admitted.1.1.1.2
  have amounts := qualifyingAmount_upgraded sys.state args
  rcases applyUpgradeArgs_cases sys.state args with ⟨job, funding⟩
  refine ⟨invariant.descending, Leased.empty _ _, Pool.holds_empty _, Pool.holds_empty _, ?_, ?_,
    invariant.jobs.discovered, invariant.jobs.chain, ?_, ?_⟩
  · intro scan active
    rcases funding with ⟨_, same⟩ | ⟨_, _, _, dropped⟩
    · have record := invariant.scan scan (same ▸ active)
      exact ⟨record.arrived, record.started, record.prefixed, record.reached, record.fresh,
        selected_congr amounts record.selected⟩
    · rw [dropped] at active
      cases active
  · intro report member
    have sound := invariant.reports report member
    rcases sound.result with ⟨candidate, result, selected⟩
    exact ⟨sound.arrived, sound.descending, sound.judged, candidate, result,
      selected_congr amounts selected⟩
  · intro _ created member
    rcases invariant.jobs.idle idle created member with ⟨old, before, below⟩
    rcases funding with ⟨same, _⟩ | ⟨last, given, after, _⟩
    · exact ⟨old, same.trans before, below⟩
    · rw [given, before] at forward
      have raised : old ≤ last := by simpa using forward
      exact ⟨last, after, by omega⟩
  · intro active impossible
    rw [job, idle] at impossible
    cases impossible

theorem funding_init {sys : FundingSystem} (start : (fundingMachine limits).init sys) :
    FundingInvariant sys := by
  rcases start with ⟨config, nowNanos, history, rfl, descending⟩
  refine ⟨descending, Leased.empty _ _, Pool.holds_empty _, Pool.holds_empty _, ?_, ?_, ?_, ?_, ?_,
    ?_⟩
  · intro scan impossible
    cases impossible
  · intro report impossible
    cases impossible
  · intro job impossible
    cases impossible
  · exact List.Pairwise.nil
  · intro _ job impossible
    cases impossible
  · intro job impossible
    cases impossible

theorem clockAdmits_iff {clock now : Nat} :
    clockAdmits clock now = true ↔ clock ≤ now ∧ now ≤ u64Max := by
  simp [clockAdmits]

theorem funding_step {event : FundingEvent} (invariant : FundingInvariant sys)
    (taken : stepFunding limits sys event = some next) : FundingInvariant next := by
  cases event with
  | begin id now force poke =>
      simp only [stepFunding, Option.ite_none_right_eq_some, Bool.and_eq_true,
        Option.some.injEq] at taken
      rcases taken with ⟨⟨admitted, vacant⟩, rfl⟩
      rcases clockAdmits_iff.mp admitted with ⟨forward, bounded⟩
      exact begin_sound invariant (by simpa using vacant) forward bounded
  | resume id reply now =>
      simp only [stepFunding] at taken
      split at taken
      · cases taken
      · rename_i kont found
        simp only [Option.ite_none_right_eq_some, Option.map_eq_some_iff] at taken
        rcases taken with ⟨admitted, result, resumed, rfl⟩
        exact resume_sound invariant found (clockAdmits_iff.mp admitted).1 resumed
  | abandon id cleanup =>
      simp only [stepFunding] at taken
      split at taken
      · cases taken
      · rename_i kont found
        cases taken
        exact abandon_sound cleanup invariant found
  | arrive tx =>
      simp only [stepFunding, Option.ite_none_right_eq_some, Option.some.injEq] at taken
      rcases taken with ⟨newest, rfl⟩
      exact arrive_sound invariant newest
  | upgrade args =>
      simp only [stepFunding, Option.ite_none_right_eq_some, Option.some.injEq] at taken
      rcases taken with ⟨admitted, rfl⟩
      exact upgrade_sound invariant admitted

theorem funding_reachable (reachable : (fundingMachine limits).Reachable sys) :
    FundingInvariant sys :=
  (fundingMachine limits).reachable_invariant FundingInvariant (fun _ start => funding_init start)
    (fun _ _ _ invariant taken => funding_step invariant taken) reachable

end Steps
end JupiterSuite.Faucet
