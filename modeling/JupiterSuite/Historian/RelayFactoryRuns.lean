import JupiterSuite.Historian.RelayFactoryInvariant

/-! One message on a setup keeps the invariant of the relay factory, whatever the other
notifications await, and so does every run. -/

namespace JupiterSuite.Historian

open Base

def FactoryRules.quiet (initialCycles : Nat) : FactoryRules :=
  ⟨False, False, False, initialCycles, fun _ => False⟩

section Carrying

variable {env : FactoryEnv} {rules : FactoryRules} {st next : FactoryState} {kont : FactoryKont}
  {key : RelaySetupKey} {work : FactoryWork}

theorem Converting.rank (converting : Converting st work) : (st.journal work.key).rank = 3 := by
  rcases converting with ⟨_, progress, found, phase⟩
  rw [rank_of_creating found, phase]
  rfl

theorem KontReady.converting (ready : KontReady env st kont)
    (conversion : kont.isConversion = true) : Converting st kont.work := by
  cases kont with
  | cmcTransfer work call => exact ready
  | _ => cases conversion

theorem pending_of_other {ledger : LedgerLog FactoryTag} (other : kont.isConversion = false) :
    Pending ledger kont := by
  cases kont with
  | cmcTransfer work call => cases other
  | _ => trivial

/-- A continuation whose setup is moved by another message still fits. Before the payment it may
have lost its reservation, and then its ticket too. -/
theorem KontReady.carry (ready : KontReady env st kont)
    (moves : JournalMoves rules (st.journal kont.work.key) (next.journal kont.work.key))
    (wasm : next.relayWasm = st.relayWasm)
    (owned : kont.work.ticket ∈ next.limiter.tickets →
      kont.work.ticket ∈ st.limiter.tickets ∧ ¬ rules.owns)
    (converts : kont.isConversion = true → ¬ rules.converts) : KontReady env next kont := by
  have paid : ∀ rank, 4 ≤ rank → PaidFor st kont.work rank → PaidFor next kont.work rank := by
    intro rank bound paid
    have kept := JournalMoves.paid moves (Nat.le_trans bound paid.2)
    exact ⟨paid.1.trans (congrArg some kept.2.symm), Nat.le_trans paid.2 kept.1⟩
  have audit : ∀ relay hash, Auditing env st kont.work relay hash →
      Auditing env next kont.work relay hash := by
    intro relay hash auditing
    rcases auditing with ⟨funded, names, approved⟩
    refine ⟨paid 10 (by decide) funded,
      JournalMoves.names moves (Nat.le_trans (by decide) funded.2) names, ?_⟩
    rw [← approved]
    simp only [FactoryState.approvedRelayOnchainModuleHash, wasm]
  have reserved : (kont.work.ticket ∈ st.limiter.tickets →
      kont.work.attempt = some (st.attempts kont.work.key)) →
        kont.work.ticket ∈ next.limiter.tickets →
          kont.work.attempt = some (next.attempts kont.work.key) := by
    intro ready held
    rcases owned held with ⟨before, stranger⟩
    rcases JournalMoves.attempt moves with same | owns
    · exact (ready before).trans (congrArg some same.symm)
    · exact absurd owns stranger
  cases kont with
  | balance work | fee work _ | rate work _ _ => exact ready
  | neuron work _ _ _ | probe work _ _ _ => exact reserved ready
  | cmcTransfer work call =>
      rcases ready with ⟨attempt, progress, found, phase⟩
      have same := JournalMoves.prepared moves (converts rfl) found phase
      refine ⟨attempt.trans (congrArg some ?_), progress, ?_, phase⟩
      · exact (congrArg Journal.attempt same).symm
      · exact (entries_of_journal same).trans found
  | notifyTopUp work _ | createCanister work | installCode work _ _ | installStatus work _ _ _
  | remainingBalance work _ | fundingFee work _ _ | relayFunding work _ =>
      exact paid 4 (Nat.le_refl _) ready
  | firstAudit work phase relay hash => exact ⟨audit _ _ ready.1, ready.2⟩
  | updateSettings work relay hash | finalAudit work relay hash _ => exact audit _ _ ready

theorem JournalMove.unlost {before after : Journal} (move : JournalMove rules before after)
    (unlost : Unlost before.entry) : Unlost after.entry := by
  intro progress diagnostic manual recorded
  cases move with
  | reserve | release | refuse | advance | activate => cases manual
  | recover _ _ _ _ _ reachable =>
      cases manual
      cases recorded
      exact reachable

theorem JournalMoves.unlost {before after : Journal} (moves : JournalMoves rules before after)
    (unlost : Unlost before.entry) : Unlost after.entry := by
  induction moves with
  | refl => exact unlost
  | tail _ move ih => exact move.unlost ih

/-- What a message on a setup leaves of the whole state, its ticket perhaps dropped. -/
structure Arrived (rules : FactoryRules) (key : RelaySetupKey) (st next : FactoryState) :
    Prop where
  config : next.config = st.config
  wasm : next.relayWasm = st.relayWasm
  others : ∀ other, other ≠ key → next.journal other = st.journal other
  moves : JournalMoves rules (st.journal key) (next.journal key)
  resting : Resting next key
  fewer : ∀ ticket ∈ next.limiter.tickets, ticket ∈ st.limiter.tickets
  issued : next.limiter.nextToken = st.limiter.nextToken
  sound : LimiterSound st.limiter → LimiterSound next.limiter
  index : next.IndexSound

theorem LimiterSound.congr {limiter other : Limiter} (sound : LimiterSound limiter)
    (tickets : other.tickets = limiter.tickets) (issued : other.nextToken = limiter.nextToken) :
    LimiterSound other := by
  constructor
  · rw [tickets]
    exact sound.distinct
  · rw [tickets, issued]
    exact sound.issued

theorem Reached.arrived (reached : Reached rules key st next) (resting : Resting next key) :
    Arrived rules key st next where
  config := reached.config
  wasm := reached.wasm
  others := reached.others
  moves := reached.moves
  resting := resting
  fewer := by
    rw [reached.tickets]
    exact fun _ held => held
  issued := reached.issued
  sound := fun sound => sound.congr reached.tickets reached.issued
  index := reached.index

theorem Arrived.drop (arrived : Arrived rules key st next) (ticket : Ticket) :
    Arrived rules key st { next with limiter := next.limiter.dropTicket ticket } where
  config := arrived.config
  wasm := arrived.wasm
  others := arrived.others
  moves := arrived.moves
  resting := arrived.resting
  fewer := fun other held => arrived.fewer other (mem_dropTicket.mp held).1
  issued := arrived.issued
  sound := fun sound => (arrived.sound sound).dropTicket ticket
  index := arrived.index

end Carrying

/-- The notification whose message is taken, among those that are suspended. -/
structure Mover (sys : FactorySystem) (id : Nat) (work : FactoryWork) (rules : FactoryRules) :
    Prop where
  fits : Fits sys.state work
  apart : ∀ other kont, other ≠ id → sys.tasks other = some kont →
    kont.work.ticket ≠ work.ticket
  owns : rules.owns → work.ticket ∈ sys.state.limiter.tickets
  converts : rules.converts → ∀ other kont, other ≠ id → sys.tasks other = some kont →
    kont.isConversion = true → kont.work.key ≠ work.key
  refused : rules.converts → rules.refused → sys.ledger.Refused ⟨work.key, .conversion⟩

section Turning

variable {env : FactoryEnv} {rules : FactoryRules} {sys next : FactorySystem}
  {after : FactoryState} {work : FactoryWork} {id : Nat}

theorem Mover.carry (mover : Mover sys id work rules)
    (arrived : Arrived rules work.key sys.state after) (sound : LimiterSound sys.state.limiter)
    {other : Nat} {kont : FactoryKont} (different : other ≠ id)
    (found : sys.tasks other = some kont)
    (task : TaskReady env sys.state sys.ledger kont) : KontReady env after kont := by
  by_cases same : kont.work.key = work.key
  · have moves : JournalMoves rules (sys.state.journal kont.work.key)
        (after.journal kont.work.key) := by
      rw [same]
      exact arrived.moves
    apply task.ready.carry moves arrived.wasm
    · intro held
      refine ⟨arrived.fewer _ held, fun owns => mover.apart other kont different found ?_⟩
      exact sound.unique (arrived.fewer _ held) (mover.owns owns)
        (task.fits.key.trans (same.trans mover.fits.key.symm))
    · intro conversion converts
      exact mover.converts converts other kont different found conversion same
  · have kept : after.journal kont.work.key = sys.state.journal kont.work.key :=
      arrived.others _ same
    have moves : JournalMoves (.quiet 0) (sys.state.journal kont.work.key)
        (after.journal kont.work.key) := by
      rw [kept]
    exact task.ready.carry moves arrived.wasm
      (fun held => ⟨arrived.fewer _ held, fun impossible => impossible⟩)
      (fun _ impossible => impossible)

theorem Fits.carry (fits : Fits sys.state work) (config : after.config = sys.state.config)
    (issued : sys.state.limiter.nextToken ≤ after.limiter.nextToken) : Fits after work :=
  ⟨fits.config.trans config.symm, fits.key, Nat.le_trans fits.issued issued⟩

theorem Mover.spent (mover : Mover sys id work rules)
    (arrived : Arrived rules work.key sys.state after)
    (spent : ∀ key, Spent sys.ledger sys.creates key (sys.state.journal key).rank)
    (key : RelaySetupKey) : Spent sys.ledger sys.creates key (after.journal key).rank := by
  by_cases same : key = work.key
  · subst same
    exact (spent work.key).moves mover.refused arrived.moves
  · rw [arrived.others key same]
    exact spent key

theorem FactoryInvariant.turn (invariant : FactoryInvariant env sys)
    (mover : Mover sys id work rules) (arrived : Arrived rules work.key sys.state after)
    {suspended : Option FactoryKont} {ledger : LedgerLog FactoryTag}
    {creates : List RelaySetupKey} {clock : Nat}
    (own : ∀ kont, suspended = some kont → SameWork work kont.work ∧ KontReady env after kont ∧
      Pending ledger kont ∧
        (kont.isConversion = true → (sys.state.journal work.key).rank ≤ 2))
    (pending : ∀ other kont, other ≠ id → sys.tasks other = some kont →
      Pending sys.ledger kont → Pending ledger kont)
    (spent : ∀ key, Spent ledger creates key (after.journal key).rank) :
    FactoryInvariant env ⟨after, sys.tasks.put id suspended, ledger, creates, clock⟩ where
  limiter := arrived.sound invariant.limiter
  index := arrived.index
  tasks := by
    have issued := Nat.le_of_eq arrived.issued.symm
    refine Pool.Holds.put invariant.tasks ?_ ?_
    · intro kont mine
      rcases own kont mine with ⟨same, ready, awaited, _⟩
      refine ⟨?_, ready, awaited⟩
      have fits := mover.fits.carry arrived.config issued
      exact ⟨same.config.trans fits.config, by rw [same.ticket, same.key, fits.key],
        by rw [same.ticket]; exact fits.issued⟩
    · intro other kont different found task
      exact ⟨task.fits.carry arrived.config issued,
        mover.carry arrived invariant.limiter different found task,
        pending other kont different found task.pending⟩
  apart := by
    refine Pool.Pairs.put ?_ invariant.apart ?_
    · intro kont other apart
      exact ⟨apart.1.symm, fun first second => (apart.2 second first).symm⟩
    · intro kont other theirs mine different found
      rcases own kont mine with ⟨same, _, _, unpaid⟩
      rw [Apart, same.ticket, same.key]
      refine ⟨(mover.apart other theirs different found).symm, ?_⟩
      intro conversion another clash
      have rank := ((invariant.tasks other theirs found).ready.converting another).rank
      rw [← clash] at rank
      have early := unpaid conversion
      omega
  spent := spent
  evidence := by
    intro key
    by_cases same : key = work.key
    · subst same
      exact arrived.moves.evidence (invariant.evidence work.key)
    · rw [arrived.others key same]
      exact invariant.evidence key
  resting := by
    intro key
    by_cases same : key = work.key
    · subst same
      exact arrived.resting
    · exact (invariant.resting key).congr (arrived.others key same)
  unlost := by
    intro key
    by_cases same : key = work.key
    · subst same
      exact arrived.moves.unlost (invariant.unlost work.key)
    · rw [entries_of_journal (arrived.others key same)]
      exact invariant.unlost key

theorem settleFactory_invariant {step : FactoryStep} {now : Nat}
    (invariant : FactoryInvariant env sys) (mover : Mover sys id work rules)
    (segment : Segment env rules sys.state work step)
    (settled : settleFactory sys id now step = some next) : FactoryInvariant env next := by
  rcases step with ⟨after, pause⟩
  cases pause with
  | trap cause => cases settled
  | done result =>
      cases settled
      rcases segment with ⟨last, reached, resting, rfl⟩
      have arrived := (reached.arrived resting).drop work.ticket
      exact invariant.turn mover arrived (fun _ impossible => by cases impossible)
        (fun _ _ _ _ held => held) (mover.spent arrived invariant.spent)
  | await kont =>
      cases settled
      rcases segment with ⟨reached, resting, same, ready, other⟩
      have arrived := reached.arrived resting
      apply invariant.turn mover arrived _ (fun _ _ _ _ held => held)
        (mover.spent arrived invariant.spent)
      intro _ mine
      cases mine
      refine ⟨same, ready, pending_of_other other, ?_⟩
      rw [other]
      exact fun impossible => by cases impossible
  | convert converter arg =>
      cases settled
      rcases segment with ⟨reached, resting, same, converting, unpaid⟩
      have arrived := reached.arrived resting
      have rank := converting.rank
      rw [same.key] at rank ⊢
      apply invariant.turn mover arrived
      · intro _ mine
        cases mine
        refine ⟨same, converting, ?_, fun _ => unpaid⟩
        rw [Pending, same.key]
        exact CallLog.refusedExcept_dispatch
          ((invariant.spent work.key).unconverted unpaid) arg
      · intro other kont different found awaited
        cases kont with
        | cmcTransfer theirs call =>
            have theirRank : (sys.state.journal theirs.key).rank = 3 :=
              ((invariant.tasks other _ found).ready.converting rfl).rank
            apply CallLog.refusedExcept_dispatch_other awaited
            intro clash
            have keys : work.key = theirs.key := congrArg FactoryTag.key clash
            rw [← keys] at theirRank
            omega
        | _ => trivial
      · intro key
        by_cases mine : key = work.key
        · subst mine
          exact (invariant.spent work.key).convert unpaid (Nat.le_of_eq rank.symm) arg
        · exact (mover.spent arrived invariant.spent key).dispatch_other (Ne.symm mine) _ arg
  | create creator cycles =>
      cases settled
      rcases segment with ⟨reached, resting, same, paid, early⟩
      have arrived := reached.arrived resting
      have late := paid.2
      rw [same.key] at late ⊢
      apply invariant.turn mover arrived _ (fun _ _ _ _ held => held)
      · intro key
        by_cases mine : key = work.key
        · subst mine
          exact (invariant.spent work.key).create early late
        · exact (mover.spent arrived invariant.spent key).create_other (Ne.symm mine)
      · intro _ mine
        cases mine
        exact ⟨same, ⟨paid.1, Nat.le_trans (by decide) paid.2⟩, trivial,
          fun impossible => by cases impossible⟩
  | fund funder arg =>
      cases settled
      rcases segment with ⟨reached, resting, same, paid, early⟩
      have arrived := reached.arrived resting
      have late := paid.2
      rw [same.key] at late ⊢
      apply invariant.turn mover arrived
      · intro _ mine
        cases mine
        exact ⟨same, ⟨paid.1, Nat.le_trans (by decide) paid.2⟩, trivial,
          fun impossible => by cases impossible⟩
      · intro other kont different found awaited
        cases kont with
        | cmcTransfer theirs call =>
            exact CallLog.refusedExcept_dispatch_other awaited arg
              (fun clash => by cases congrArg FactoryTag.transfer clash)
        | _ => trivial
      · intro key
        by_cases mine : key = work.key
        · subst mine
          exact (invariant.spent work.key).fund early late arg
        · exact (mover.spent arrived invariant.spent key).dispatch_other (Ne.symm mine) _ arg

end Turning

end JupiterSuite.Historian
