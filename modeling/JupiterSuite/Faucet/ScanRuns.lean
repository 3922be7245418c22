import JupiterSuite.Faucet.PayoutPass

/-! Runs in which the index tells the truth about the history. Both passes of a job then agree
with it in every state, whatever the cache skips. -/

namespace JupiterSuite.Faucet

open Base Memo

/-- The index answers with the records of the history, where new ones lie behind a round. -/
def PayoutSystem.truthful (sys : PayoutSystem) : PayoutEvent → Bool
  | .resume id (.page (some page)) _ =>
      match sys.tasks id with
      | some (.page _ job _) =>
          decide (page = indexPage sys.history job.nextStart page.transactions.length)
      | _ => true
  | .arrive tx => decide (tx.id ≤ u64Max) && sys.state.activePayoutJob.all fun job =>
      job.roundEndLatestTxId.any fun last => decide (last < tx.id)
  | _ => true

def TruthfulRun (limits : ScanLimits) (fromText : Text → Option Principal) (sys : PayoutSystem) :
    Prop :=
  ∃ start events, (payoutMachine limits fromText).init start ∧
    (∀ tx ∈ start.history, tx.id ≤ u64Max) ∧
    (payoutMachine limits fromText).Complies (fun sys event => sys.truthful event = true) start
      events ∧ (payoutMachine limits fromText).run start events = some sys

structure ScanInvariant (fromText : Text → Option Principal) (sys : PayoutSystem) : Prop where
  sound : ScanSound fromText sys.history sys.state.view
  konts : sys.tasks.Holds (Fenced PayoutKont.lease sys.state.mainLockStateTs (KontScan sys.state))

section Turns

variable {fromText : Text → Option Principal} {limits : ScanLimits} {sys : PayoutSystem}
  {st : FaucetState} {tick : MainTick} {history : List IndexTx} {job : ActivePayoutJob}

theorem resumeDriver_lands {caller : DriveCaller} {run : DriveRun}
    {result : FaucetState × DriveStop} (own : OwnScan fromText history run.tick st.view)
    (calls : CallerScan st.view caller) (view : result.1.view = st.view) :
    Lands fromText history run.tick (resumeDriver limits fromText caller run result) := by
  refine afterDrive_lands own view calls ?_
  intro next ok same kept
  rw [← same] at calls
  simp only [DriveCaller.goOn]
  repeat' split
  · exact leave_lands kept true
  · exact payoutLoop_lands kept _
  · exact payRecords_lands { kept with counted := calls } _ _
  · exact leave_lands kept true
  · exact finalize_lands kept _

theorem OwnScan.create {nowNanos feeE8s denomE8s : Nat} {tranche : FundingTranche}
    (own : OwnScan fromText history tick st.view) (vacant : st.activePayoutJob = none)
    (pot : tranche.amountE8s ≤ u64Max) : OwnScan fromText history tick
      (ensureActiveJob st nowNanos feeE8s denomE8s tranche).view := by
  simp only [ensureActiveJob, vacant, Option.isSome_none, Bool.false_eq_true, if_false]
  refine { own with job := ?_ }
  rintro _ ⟨⟩
  cases st.currentRoundStartTimeNanos <;>
    exact ⟨rfl, pot, .counting rfl (fun _ impossible => by cases impossible)
      ⟨rfl, Nat.zero_le _⟩ (learns_empty _)⟩

theorem resume_lands {kont : PayoutKont} {reply : PayoutReply} {id now : Nat}
    {result : FaucetState × PayoutPause}
    (own : OwnScan fromText sys.history kont.tick sys.state.view) (holds : KontScan sys.state kont)
    (found : sys.tasks id = some kont) (replies : payoutRepliesTo sys kont reply = true)
    (truthful : sys.truthful (.resume id reply now) = true)
    (resumed : resumePayout limits fromText sys.state kont reply = some result) :
    Lands fromText sys.history kont.tick result := by
  simp only [resumePayout] at resumed
  split at resumed
  all_goals cases resumed
  all_goals simp only [PayoutKont.tick] at own ⊢
  · simp only [onFound]
    split
    · rename_i vacant
      rw [Bool.and_eq_true, Option.isNone_iff_eq_none] at vacant
      simp only [payoutRepliesTo, trancheAdmits, Bool.and_eq_true, decide_eq_true_eq] at replies
      exact payoutLoop_lands (own.create vacant.2 replies.1.1.1.2) _
    · exact leave_lands own true
  · exact leave_lands own _
  · refine onPage_lands own holds ?_
    rintro page rfl
    rw [PayoutSystem.truthful, found] at truthful
    exact ⟨_, of_decide_eq_true truthful⟩
  · exact onSubaccount_lands { own with counted := holds } _
  · exact resumeDriver_lands own holds (view_onTransfer ..)
  · exact resumeDriver_lands own holds (view_onClaim ..)
  · exact resumeDriver_lands own holds (view_onNotify ..)
  · simp only [onFinalize]
    split
    · refine ⟨.inl own.lock, { own.toScanSound with job := ?_ }, trivial⟩
      rintro _ ⟨⟩
    · exact leave_lands own true
  · exact leave_lands own true
  · simp only [FaucetState.finishGuard, own.current, if_true]
    exact ⟨.inr rfl, { own.toScanSound with }, trivial⟩

theorem JobScan.arrive {policy : CommitmentPolicy} {tx : IndexTx}
    (scan : JobScan fromText policy history job)
    (behind : roundWeight fromText policy job tx = none) :
    JobScan fromText policy (tx :: history) job := by
  have counts : ∀ {read}, job.Counts fromText policy read →
      job.Counts fromText policy (tx :: read) := by
    intro read counts
    rwa [ActivePayoutJob.Counts, List.filterMap_cons_none behind]
  refine ⟨scan.ended, scan.pot, ?_⟩
  cases scan.phase with
  | counted done all => exact .counted done (counts all)
  | counting waits oldest all learns =>
      have ends : ∀ id, job.observedOldestTxId = some id →
          (tx :: history).getLast?.map IndexTx.id = some id := by
        intro id same
        rcases Option.map_eq_some_iff.mp (oldest id same) with ⟨last, found, rfl⟩
        rw [List.getLast?_cons, found, Option.getD_some, Option.map_some]
      have grown : passed job.nextStart (tx :: history) = passed job.nextStart history ∨
          passed job.nextStart (tx :: history) = tx :: passed job.nextStart history := by
        cases job.nextStart with
        | none => exact .inl rfl
        | some id =>
            rw [passed, List.filter_cons]
            split
            · exact .inr rfl
            · exact .inl rfl
      rcases grown with same | same
      · exact .counting waits ends (same ▸ all) (same ▸ learns)
      · exact .counting waits ends (same ▸ counts all) (same ▸ learns.arrive tx)

end Turns

section Steps

variable {fromText : Text → Option Principal} {limits : ScanLimits} {sys next : PayoutSystem}
  {tick : MainTick} {id now secs : Nat} {result : FaucetState × PayoutPause}
  (scans : ScanInvariant fromText sys)
include scans

section Settled

variable (leased : Leased PayoutKont.lease sys.state.mainLockStateTs secs sys.tasks)
include leased

theorem ScanInvariant.drop (id lease now : Nat) (cleanup : Bool) :
    ScanInvariant fromText { sys with
      state := if cleanup then sys.state.dropGuard lease else sys.state
      tasks := sys.tasks.put id none
      clock := now } := by
  by_cases held : cleanup = true ∧ sys.state.mainLockStateTs = some lease
  · rw [if_pos held.1]
    refine ⟨{ scans.sound with }, scans.konts.put (fun _ impossible => by cases impossible) ?_⟩
    intro other theirs _ also _
    simp only [FaucetState.dropGuard, releaseLease, held.2, if_true]
    exact fenced_of_released leased also
  · have kept : (if cleanup = true then sys.state.dropGuard lease else sys.state) = sys.state := by
      split
      · rename_i cleans
        simp only [FaucetState.dropGuard, releaseLease, if_neg fun owns => held ⟨cleans, owns⟩]
      · rfl
    rw [kept]
    exact ⟨scans.sound, scans.konts.put (fun _ impossible => by cases impossible)
      fun _ _ _ _ holds => holds⟩

theorem Lands.settle (lands : Lands fromText sys.history tick result) {clock : Nat}
    (turn : Turn PayoutKont.lease sys.tasks id tick.lease clock) (now : Nat) :
    ScanInvariant fromText (settlePayout sys id now result) := by
  rcases result with ⟨st, pause⟩
  cases pause with
  | trapped failed lease => exact scans.drop leased id lease now true
  | done | await | transferring =>
      refine ⟨lands.sound, scans.konts.put ?_ ?_⟩
      · intro own same _
        cases same <;> exact lands.pause
      · intro other theirs different also _
        exact turn.others _ lands.lock other theirs different also _

end Settled

variable (invariant : PayoutInvariant sys)
include invariant

theorem resume_scans {kont : PayoutKont} {reply : PayoutReply} (found : sys.tasks id = some kont)
    (replies : payoutRepliesTo sys kont reply = true)
    (truthful : sys.truthful (.resume id reply now) = true)
    (resumed : resumePayout limits fromText sys.state kont reply = some result) :
    ScanInvariant fromText (settlePayout sys id now result) := by
  by_cases owner : Owns PayoutKont.lease sys.state.mainLockStateTs kont
  · have turn := invariant.leased.turn_of_owner found owner
    rw [lease_eq] at turn
    have own : OwnScan fromText sys.history kont.tick sys.state.view :=
      { scans.sound with lock := owner.trans (congrArg some (lease_eq kont)) }
    have lands := resume_lands own (scans.konts id kont found owner) found replies truthful resumed
    exact lands.settle scans invariant.leased turn now
  · have current : sys.state.isCurrent kont.tick.lease = false := by
      rw [← lease_eq]
      exact decide_eq_false owner
    rcases resume_lost current resumed with rfl | ⟨tick, frame, stake, rfl, rfl⟩
    · exact scans.drop invariant.leased id 0 now false
    · refine ⟨scans.sound, scans.konts.put ?_ fun _ _ _ _ holds => holds⟩
      rintro own ⟨⟩ owns
      exact absurd owns owner

theorem begin_scans {force poke : Bool} (vacant : sys.tasks id = none) (forward : sys.clock ≤ now)
    (bounded : now ≤ u64Max) : ScanInvariant fromText
      (settlePayout sys id now (beginPayout limits sys.state now force poke)) := by
  rcases beginPayout_cases limits sys.state now force poke with same | ⟨lease, acquired, taken⟩
  · rw [same]
    exact scans.drop invariant.leased id 0 now false
  · have later := invariant.leased.tick (Nat.div_le_div_right (c := nanosPerSecond) forward)
    have fits : now / nanosPerSecond + mainTickLeaseSeconds ≤ u64Max := by
      simp only [nanosPerSecond, mainTickLeaseSeconds, u64Max] at bounded ⊢
      omega
    have spec := acquireLease_some (by decide) fits acquired
    have turn := later.turn_of_acquire vacant (Nat.le_refl _) spec.1 spec.2
    have own : OwnScan fromText sys.history ⟨lease, now, poke⟩
        ({ sys.state with mainLockStateTs := some lease } : FaucetState).view :=
      { scans.sound with lock := rfl }
    have lands : Lands fromText sys.history ⟨lease, now, poke⟩
        (beginPayout limits sys.state now force poke) := by
      rcases taken with same | same | same <;> rw [same]
      · exact ⟨.inr rfl, { scans.sound with }, trivial⟩
      · exact own.lands trivial
      · exact payoutLoop_lands own _
    exact lands.settle scans invariant.leased turn now

theorem truthful_step {event : PayoutEvent} (truthful : sys.truthful event = true)
    (taken : stepPayout limits fromText sys event = some next) : ScanInvariant fromText next := by
  simp only [stepPayout] at taken
  split at taken
  case h_2 | h_3 =>
    split at taken
    · cases taken
    · simp only [Option.ite_none_right_eq_some, Option.map_eq_some_iff, Bool.and_eq_true,
        Option.some.injEq] at taken
      first
      | rcases taken with ⟨⟨_, replies⟩, result, resumed, rfl⟩
        exact resume_scans scans invariant ‹_› replies truthful resumed
      | rcases taken with rfl
        exact scans.drop invariant.leased _ _ sys.clock _
  all_goals simp only [Option.ite_none_right_eq_some, Option.map_eq_some_iff, Bool.and_eq_true,
    Option.some.injEq] at taken
  · simp only [clockAdmits, Bool.and_eq_true, decide_eq_true_eq, Option.isNone_iff_eq_none] at taken
    rcases taken with ⟨⟨⟨forward, bounded⟩, vacant⟩, rfl⟩
    exact begin_scans scans invariant vacant forward bounded
  · rcases taken with ⟨_, _, _, rfl⟩
    exact ⟨scans.sound, scans.konts⟩
  · rcases taken with ⟨_, rfl⟩
    exact ⟨scans.sound, scans.konts⟩
  · rcases taken with ⟨newest, rfl⟩
    simp only [PayoutSystem.truthful, Bool.and_eq_true, decide_eq_true_eq] at truthful
    refine ⟨⟨?_, ?_, scans.sound.cache.arrive newest, ?_⟩, scans.konts⟩
    · exact List.pairwise_cons.mpr ⟨fun old member =>
        of_decide_eq_true (List.all_eq_true.mp newest old member), scans.sound.descending⟩
    · exact List.forall_mem_cons.mpr ⟨truthful.1, scans.sound.inWord⟩
    · intro job same
      rcases Option.map_eq_some_iff.mp same with ⟨whole, active, rfl⟩
      rw [active, Option.all_some, Option.any_eq_true] at truthful
      rcases truthful.2 with ⟨last, ends, behind⟩
      exact (scans.sound.job _ same).arrive (roundWeight_behind ends (of_decide_eq_true behind))
  · rename_i args
    simp only [upgradeAdmits, Bool.and_eq_true, Option.isNone_iff_eq_none] at taken
    rcases taken with ⟨⟨⟨⟨⟨idle, _⟩, _⟩, _⟩, _⟩, rfl⟩
    refine ⟨⟨scans.sound.descending, scans.sound.inWord, .none, ?_⟩, Pool.holds_empty _⟩
    intro job same
    rw [FaucetState.view, (upgrade_same _ args).active, idle] at same
    cases same

end Steps

section Results

variable {fromText : Text → Option Principal} {limits : ScanLimits} {sys : PayoutSystem}
  {job : ActivePayoutJob}

theorem truthful_scans (run : TruthfulRun limits fromText sys) : ScanInvariant fromText sys := by
  rcases run with ⟨start, events, started, inWord, complies, ran⟩
  have begun : ScanInvariant fromText start := by
    rcases started with ⟨config, nowNanos, history, rfl, descending⟩
    refine ⟨⟨descending, inWord, .none, ?_⟩, Pool.holds_empty _⟩
    rintro job ⟨⟩
  apply And.right
  refine Machine.complies_preserves _ _
    (fun sys => PayoutInvariant sys ∧ ScanInvariant fromText sys) ?_ ⟨payout_init started, begun⟩
    complies ran
  intro sys event next holds truthful taken
  exact ⟨payout_step holds.1 taken, truthful_step holds.2 holds.1 truthful taken⟩

/-- The denominator is the weight of the records that the pass has left behind. -/
theorem denominator_exact (run : TruthfulRun limits fromText sys)
    (active : sys.state.activePayoutJob = some job) :
    job.effectiveDenomStakingBalanceE8s = some (((if job.denomScanComplete then sys.history
      else passed job.nextStart sys.history).filterMap
        (roundWeight fromText sys.state.config.policy job)).sum) := by
  cases ((truthful_scans run).sound.active active).phase with
  | counting waits _ counts =>
      have waits : job.denomScanComplete = false := waits
      rw [if_neg (Bool.eq_false_iff.mp waits)]
      exact counts.1
  | counted done counts =>
      have done : job.denomScanComplete = true := done
      rw [if_pos done]
      exact counts.1

def PayoutRecord.Due (job : ActivePayoutJob) (due : Option (Nat × PayoutTarget)) :
    PayoutRecord → Prop
  | .irrelevant | .underThreshold | .badMemo | .dust => due = none
  | .share grossShareE8s feeE8s target => due = some (grossShareE8s, target) ∧ feeE8s = job.feeE8s
  | .overAllocated =>
      ∃ share ∈ due, job.potStartE8s < satAdd u64Max job.grossOutflowE8s share.1
  | .brokenCache | .noJob => False

theorem readRecord_due {st : FaucetState} {history : List IndexTx} {tx : IndexTx}
    (sound : ScanSound fromText history st.view) (active : st.activePayoutJob = some job)
    (done : job.denomScanComplete = true) (member : tx ∈ history) (nowNanos : Nat) :
    (readRecord limits fromText st nowNanos tx).Due job
      (roundShare fromText st.config.policy job tx) := by
  have scan := sound.active active
  have ended : job.roundEndTimeNanos.isSome := scan.ended
  have pot : job.potStartE8s ≤ u64Max := scan.pot
  have counts : job.Counts fromText st.config.policy history := scan.counts done
  have barren : Ineligible fromText st.config.policy tx →
      roundShare fromText st.config.policy job tx = none := by
    intro ineligible
    rw [roundShare, ineligible, Option.bind_none]
  rw [readRecord]
  rcases sound.cache.answers tx.id with ⟨found, answer⟩
  rw [answer]
  cases found with
  | some range =>
      rcases sound.cache.found answer with ⟨low, high, all⟩
      exact barren ((all tx.id ⟨low, high⟩).skipped tx member rfl)
  | none =>
      dsimp only
      split
      · rename_i foreign
        exact barren (by rw [Ineligible, eligibleCommitment, foreign, Option.bind_none])
      · rename_i commitment memo
        have eligible := eligibleCommitment_eq fromText memo
        rw [active]
        cases valid : classifyCommitment fromText st.config.policy.minTxE8s commitment with
        | ignoreUnderThreshold | ignoreBadMemo => exact barren (eligible.trans (by rw [valid]))
        | valid target =>
            rw [valid] at eligible
            simp only [readShare, roundWeight_eligible ended eligible, roundShare, eligible,
              Option.bind_some]
            cases weighted : roundWeight fromText st.config.policy job tx with
            | none =>
                have worthless : computeRawShareE8s 0 job.potStartE8s job.denomE8s = 0 := by
                  rw [computeRawShareE8s]
                  split <;> simp
                rw [Option.getD_none, worthless, if_pos (Nat.zero_le _)]
                rfl
            | some weightE8s =>
                have denominator : job.denomE8s =
                    (history.filterMap (roundWeight fromText st.config.policy job)).sum := by
                  rw [ActivePayoutJob.denomE8s, counts.1, Option.getD_some]
                have counted : weightE8s ≤ job.denomE8s := denominator ▸
                  List.le_sum_of_mem (List.mem_filterMap.mpr ⟨tx, member, weighted⟩)
                rw [Option.getD_some, rawShare_eq counted pot (denominator ▸ counts.2),
                  Option.bind_some]
                split
                · rfl
                · split
                  · exact ⟨_, rfl, ‹_›⟩
                  · exact ⟨rfl, rfl⟩

/-- The two passes agree on every record, and the shares of all records fit the pot. -/
theorem passes_agree (run : TruthfulRun limits fromText sys)
    (active : sys.state.activePayoutJob = some job) (done : job.denomScanComplete = true) :
    (∀ tx ∈ sys.history, ∀ nowNanos, (readRecord limits fromText sys.state nowNanos tx).Due job
      (roundShare fromText sys.state.config.policy job tx)) ∧
    ((sys.history.filterMap (roundShare fromText sys.state.config.policy job)).map Prod.fst).sum ≤
      job.potStartE8s := by
  have sound := (truthful_scans run).sound
  refine ⟨fun tx member => readRecord_due sound active done member, sum_share_le ?_⟩
  have counts : job.Counts fromText sys.state.config.policy sys.history :=
    (sound.active active).counts done
  rw [ActivePayoutJob.denomE8s, counts.1, Option.getD_some]

/-- No cached id is that of an eligible commitment, and no later record gets it. -/
theorem cached_barren (run : TruthfulRun limits fromText sys) :
    ∀ id ∈ coveredIds sys.state.skipRanges,
      Barren (Ineligible fromText sys.state.config.policy) sys.history id :=
  (truthful_scans run).sound.cache.barren

def ActivePayoutJob.terms (job : ActivePayoutJob) : List (Option Nat) :=
  [job.roundStartTimeNanos, job.roundStartLatestTxId, job.roundEndTimeNanos, job.roundEndLatestTxId,
    some job.potStartE8s, some job.feeE8s]

/-- A round pays the same shares with a cache as without one, page by page as in one page. -/
theorem cache_transparent {plain : ScanLimits} {other : PayoutSystem} {plainJob : ActivePayoutJob}
    (run : TruthfulRun limits fromText sys) (plainRun : TruthfulRun plain fromText other)
    (active : sys.state.activePayoutJob = some job)
    (plainActive : other.state.activePayoutJob = some plainJob)
    (done : job.denomScanComplete = true) (plainDone : plainJob.denomScanComplete = true)
    (history : other.history = sys.history)
    (policy : other.state.config.policy = sys.state.config.policy)
    (terms : plainJob.terms = job.terms) :
    plainJob.effectiveDenomStakingBalanceE8s = job.effectiveDenomStakingBalanceE8s ∧
    ∃ due : IndexTx → Option (Nat × PayoutTarget), ∀ tx ∈ sys.history, ∀ nowNanos,
      (readRecord limits fromText sys.state nowNanos tx).Due job (due tx) ∧
      (readRecord plain fromText other.state nowNanos tx).Due plainJob (due tx) := by
  have sound := (truthful_scans run).sound
  have plainSound := (truthful_scans plainRun).sound
  rw [history] at plainSound
  simp only [ActivePayoutJob.terms, List.cons.injEq, Option.some.injEq] at terms
  rcases terms with ⟨start, startId, ends, endId, pot, fee, -⟩
  have weight : roundWeight fromText sys.state.config.policy plainJob =
      roundWeight fromText sys.state.config.policy job := by
    funext tx
    simp only [roundWeight, commitmentAmountForJobPayoutE8s, start, startId, ends, endId]
  have counts : plainJob.Counts fromText other.state.config.policy sys.history :=
    (plainSound.active plainActive).counts plainDone
  rw [ActivePayoutJob.Counts, policy, weight] at counts
  have sum : job.Counts fromText sys.state.config.policy sys.history :=
    (sound.active active).counts done
  refine ⟨counts.1.trans sum.1.symm, roundShare fromText sys.state.config.policy job, ?_⟩
  intro tx member nowNanos
  have share : roundShare fromText sys.state.config.policy job tx =
      roundShare fromText other.state.config.policy plainJob tx := by
    simp only [roundShare, policy, weight, pot, fee, ActivePayoutJob.denomE8s, counts.1, sum.1,
      Option.getD_some]
  refine ⟨readRecord_due sound active done member nowNanos, ?_⟩
  rw [share]
  exact readRecord_due plainSound plainActive plainDone member nowNanos

end Results

section Samples

def scanLimits : ScanLimits := { minSkipRangeTxCount := 1 }

def anyTarget : Text → Option Principal := fun _ => some ⟨[7]⟩

def foreignTransfer : IndexTx :=
  { topUpCommitment 1 with operation := .transfer "payer" "other" 5 }

/-- A round over one commitment and a foreign transfer; the foreign one gets into the cache. -/
def scannedRound : List PayoutEvent :=
  [.arrive foreignTransfer, .arrive (topUpCommitment 2), .begin 0 topUpNow true false,
    .resume 0 (.found 10000 100000000 ⟨9, 1000000000000000, 1000000000⟩) topUpNow,
    .resume 0 (.page (some ⟨[topUpCommitment 2, foreignTransfer], some 1⟩)) topUpNow]

def scannedAfter : PayoutSystem :=
  ((payoutMachine scanLimits anyTarget).run (payoutStart topUpNow) scannedRound).getD
    (payoutStart topUpNow)

theorem scanned_truthful {limits : ScanLimits}
    (truthful : (payoutMachine limits anyTarget).check PayoutSystem.truthful (payoutStart topUpNow)
      scannedRound = true)
    (enabled : ((payoutMachine limits anyTarget).run (payoutStart topUpNow)
      scannedRound).isSome = true) :
    TruthfulRun limits anyTarget (((payoutMachine limits anyTarget).run (payoutStart topUpNow)
      scannedRound).getD (payoutStart topUpNow)) := by
  refine ⟨payoutStart topUpNow, scannedRound, ⟨payoutConfig, topUpNow, [], rfl, .nil⟩,
    List.forall_mem_nil _, Machine.complies_of_check _ truthful, ?_⟩
  rcases Option.isSome_iff_exists.mp enabled with ⟨sys, ran⟩
  rw [ran, Option.getD_some]

theorem scannedAfter_truthful : TruthfulRun scanLimits anyTarget scannedAfter :=
  scanned_truthful (by decide +kernel) (by decide +kernel)

theorem denominator_exact_of_page : ∃ job, scannedAfter.state.activePayoutJob = some job ∧
    job.effectiveDenomStakingBalanceE8s = some 100000000 ∧
    job.effectiveDenomStakingBalanceE8s = some (((if job.denomScanComplete then
      scannedAfter.history else passed job.nextStart scannedAfter.history).filterMap
        (roundWeight anyTarget scannedAfter.state.config.policy job)).sum) := by
  have weight : scannedAfter.state.activePayoutJob.map
      ActivePayoutJob.effectiveDenomStakingBalanceE8s = some (some 100000000) := by decide +kernel
  rcases Option.map_eq_some_iff.mp weight with ⟨job, active, sum⟩
  exact ⟨job, active, sum, denominator_exact scannedAfter_truthful active⟩

theorem passes_agree_of_page : ∃ job, scannedAfter.state.activePayoutJob = some job ∧
    (∀ tx ∈ scannedAfter.history, ∀ nowNanos,
      (readRecord scanLimits anyTarget scannedAfter.state nowNanos tx).Due job
        (roundShare anyTarget scannedAfter.state.config.policy job tx)) ∧
    ((scannedAfter.history.filterMap (roundShare anyTarget
      scannedAfter.state.config.policy job)).map Prod.fst).sum ≤ job.potStartE8s := by
  have finished : scannedAfter.state.activePayoutJob.map ActivePayoutJob.denomScanComplete =
      some true := by decide +kernel
  rcases Option.map_eq_some_iff.mp finished with ⟨job, active, done⟩
  exact ⟨job, active, passes_agree scannedAfter_truthful active done⟩

theorem cached_barren_of_page : 1 ∈ coveredIds scannedAfter.state.skipRanges ∧
    Barren (Ineligible anyTarget scannedAfter.state.config.policy)
      scannedAfter.history 1 := by
  have learned : scannedAfter.state.skipRanges = [⟨1, 1⟩] := by decide +kernel
  have covered : 1 ∈ coveredIds scannedAfter.state.skipRanges := by
    rw [learned]
    exact ⟨⟨1, 1⟩, by simp, Nat.le_refl 1, Nat.le_refl 1⟩
  exact ⟨covered, cached_barren scannedAfter_truthful 1 covered⟩

def plainAfter : PayoutSystem :=
  ((payoutMachine { cacheEnabled := false } anyTarget).run (payoutStart topUpNow)
    scannedRound).getD (payoutStart topUpNow)

theorem cache_transparent_of_page : scannedAfter.state.skipRanges ≠ plainAfter.state.skipRanges ∧
    ∃ job plainJob, scannedAfter.state.activePayoutJob = some job ∧
      plainAfter.state.activePayoutJob = some plainJob ∧
      plainJob.effectiveDenomStakingBalanceE8s = job.effectiveDenomStakingBalanceE8s ∧
      ∃ due : IndexTx → Option (Nat × PayoutTarget), ∀ tx ∈ scannedAfter.history, ∀ nowNanos,
        (readRecord scanLimits anyTarget scannedAfter.state nowNanos tx).Due job (due tx) ∧
        (readRecord { cacheEnabled := false } anyTarget plainAfter.state nowNanos tx).Due plainJob
          (due tx) := by
  have cached : scannedAfter.state.activePayoutJob.any fun job => plainAfter.state.activePayoutJob.any
      fun plainJob => job.denomScanComplete && plainJob.denomScanComplete &&
        decide (plainJob.terms = job.terms) := by decide +kernel
  simp only [Option.any_eq_true, Bool.and_eq_true, decide_eq_true_eq] at cached
  rcases cached with ⟨job, active, plainJob, plainActive, ⟨done, plainDone⟩, terms⟩
  exact ⟨by decide +kernel, job, plainJob, active, plainActive,
    cache_transparent scannedAfter_truthful
      (scanned_truthful (by decide +kernel) (by decide +kernel)) active plainActive done plainDone
      (by decide +kernel) (by decide +kernel) terms⟩

end Samples
end JupiterSuite.Faucet
