import JupiterSuite.Historian.RelayFactoryRuns

/-! Every event keeps the invariant of the relay factory, and moves each journal by the rules. -/

namespace JupiterSuite.Historian

open Base

variable {step : FactoryStep} {key : RelaySetupKey}

section Events

variable {env : FactoryEnv} {rules : FactoryRules} {sys next : FactorySystem}
  {swept : FactoryState} {limiter : Limiter} {work : FactoryWork} {id now : Nat}
  {kont : FactoryKont} {reply : FactoryReply} {event : FactoryEvent}

/-- The reservations of all setups are swept, and tickets are dropped or handed out. -/
theorem FactoryInvariant.sweep (invariant : FactoryInvariant env sys)
    (sweeps : Swept rules sys.state swept) (owns : ¬ rules.owns) (converts : ¬ rules.converts)
    (sound : LimiterSound limiter)
    (held : ∀ id kont, sys.tasks id = some kont → kont.work.ticket ∈ limiter.tickets →
      kont.work.ticket ∈ sys.state.limiter.tickets)
    (issued : sys.state.limiter.nextToken ≤ limiter.nextToken) :
    FactoryInvariant env { sys with state := { swept with limiter := limiter } } where
  limiter := sound
  index := sweeps.index invariant.index
  tasks := by
    intro other kont found
    have task := invariant.tasks other kont found
    refine ⟨task.fits.carry sweeps.config issued, ?_, task.pending⟩
    exact task.ready.carry (sweeps.moves kont.work.key) sweeps.wasm
      (fun kept => ⟨held other kont found kept, owns⟩) (fun _ => converts)
  apart := invariant.apart
  spent := fun key => (invariant.spent key).moves (fun impossible => absurd impossible converts)
    (sweeps.moves key)
  evidence := fun key => (sweeps.moves key).evidence (invariant.evidence key)
  resting := fun key => sweeps.resting (invariant.resting key)
  unlost := fun key => (sweeps.moves key).unlost (invariant.unlost key)

theorem FactoryInvariant.finish (invariant : FactoryInvariant env sys) (id : Nat)
    (clock : Nat) :
    FactoryInvariant env { sys with tasks := sys.tasks.put id none, clock := clock } where
  limiter := invariant.limiter
  index := invariant.index
  tasks := Pool.Holds.put invariant.tasks (fun _ impossible => by cases impossible)
    (fun _ _ _ _ task => task)
  apart := Pool.Pairs.put
    (fun _ _ apart => ⟨apart.1.symm, fun first second => (apart.2 second first).symm⟩)
    invariant.apart (fun _ _ _ impossible => by cases impossible)
  spent := invariant.spent
  evidence := invariant.evidence
  resting := invariant.resting
  unlost := invariant.unlost

theorem conversion_refused (invariant : FactoryInvariant env sys)
    (found : sys.tasks id = some kont) (admitted : factoryRepliesTo sys kont reply = true)
    (conversion : kont.isConversion = true)
    (refused : (resumeRules env sys.state kont reply).refused) :
    sys.ledger.Refused ⟨kont.work.key, .conversion⟩ := by
  cases kont with
  | cmcTransfer work call =>
      rcases refused with ⟨transferred, error, rfl, rejected⟩
      have pending := (invariant.tasks id _ found).pending
      cases transferred with
      | error message => cases rejected
      | ok reply =>
          rcases delivered_some.mp admitted with ⟨outcome, answered, same⟩
          cases outcome with
          | accepted block =>
              subst same
              simp only [transferReply, acceptedTransfer] at rejected
              split at rejected <;> cases rejected
          | duplicate block =>
              subst same
              simp only [transferReply, acceptedTransfer] at rejected
              split at rejected <;> cases rejected
          | rejected error => exact CallLog.refused_of_except pending answered
  | _ => cases conversion

theorem resume_mover (invariant : FactoryInvariant env sys) (found : sys.tasks id = some kont)
    (admitted : factoryRepliesTo sys kont reply = true) :
    Mover sys id kont.work (resumeRules env sys.state kont reply) where
  fits := (invariant.tasks id kont found).fits
  apart := fun other theirs different present =>
    (invariant.apart other id theirs kont different present found).1
  owns := fun held => held
  converts := fun conversion other theirs different present another =>
    (invariant.apart other id theirs kont different present found).2 another conversion
  refused := fun conversion refused =>
    conversion_refused invariant found admitted conversion refused

theorem resume_segment (invariant : FactoryInvariant env sys) (found : sys.tasks id = some kont)
    (resumed : resumeFactory env sys.state now kont reply = some step) :
    Segment env (resumeRules env sys.state kont reply) sys.state kont.work step :=
  resumeFactory_segment (invariant.evidence _) invariant.index (invariant.resting _)
    (invariant.tasks id kont found).ready (invariant.tasks id kont found).fits.config resumed

/-- A ticket that was handed out just now is not one that a notification holds. -/
theorem granted_mover {initialCycles : Nat} (invariant : FactoryInvariant env sys)
    (config : swept.config = sys.state.config) (same : work.config = sys.state.config)
    (granted : Granted sys.state.limiter limiter work.ticket work.key) :
    Mover { sys with state := { swept with limiter := limiter } } id work
      (.quiet initialCycles) where
  fits := ⟨same.trans config.symm, granted.forKey, by
    have fresh := granted.fresh
    have issued := granted.issued
    dsimp only
    omega⟩
  apart := by
    intro other kont _ found clash
    have issued := (invariant.tasks other kont found).fits.issued
    have fresh := granted.fresh
    rw [clash] at issued
    omega
  owns := fun impossible => impossible.elim
  converts := fun impossible => impossible.elim
  refused := fun impossible => impossible.elim

theorem granted_held {ticket : Ticket} (invariant : FactoryInvariant env sys)
    (granted : Granted sys.state.limiter limiter ticket key) (found : sys.tasks id = some kont)
    (kept : kont.work.ticket ∈ limiter.tickets) :
    kont.work.ticket ∈ sys.state.limiter.tickets := by
  rcases granted.tickets _ kept with clash | ⟨old, _⟩
  · have issued := (invariant.tasks id kont found).fits.issued
    have fresh := granted.fresh
    rw [clash] at issued
    omega
  · exact old

theorem settleFactory_arrived {before : FactoryState} (segment : Segment env rules before work step)
    (settled : settleFactory sys id now step = some next) :
    Arrived rules work.key before next.state := by
  rcases step with ⟨after, pause⟩
  cases pause with
  | trap cause => cases settled
  | done result =>
      cases settled
      rcases segment with ⟨last, reached, resting, rfl⟩
      exact (reached.arrived resting).drop work.ticket
  | await kont | convert other arg | create other cycles | fund other arg =>
      cases settled
      exact segment.1.arrived segment.2.1

theorem settleFactory_state (st : FactoryState) (step : FactoryStep) :
    settleFactory { sys with state := st } id now step = settleFactory sys id now step := by
  rcases step with ⟨after, pause⟩
  cases pause <;> rfl

theorem Arrived.journal {st after : FactoryState} (arrived : Arrived rules key st after)
    (other : RelaySetupKey) :
    JournalMoves rules (st.journal other) (after.journal other) := by
  by_cases same : other = key
  · rw [same]
    exact arrived.moves
  · rw [arrived.others other same]

theorem notify_keeps {initialCycles : Nat} (invariant : FactoryInvariant env sys)
    (notified : Notified env (.quiet initialCycles) sys.state step)
    (settled : settleFactory sys id now step = some next) :
    FactoryInvariant env next ∧
      ∀ key, JournalMoves (.quiet initialCycles) (sys.state.journal key)
        (next.state.journal key) := by
  cases notified with
  | trapped after cause other => cases settled
  | refused result sweeps sound fewer issued =>
      cases settled
      have swept := invariant.sweep sweeps (fun impossible => impossible)
        (fun impossible => impossible) sound (fun _ _ _ kept => fewer _ kept)
        (Nat.le_of_eq issued.symm)
      exact ⟨swept.finish id now, sweeps.moves⟩
  | admitted work sweeps granted config segment =>
      have swept := invariant.sweep sweeps (fun impossible => impossible)
        (fun impossible => impossible) granted.sound
        (fun _ _ found kept => granted_held invariant granted found kept)
        (by rw [granted.issued]; exact Nat.le_succ _)
      constructor
      · rw [← settleFactory_state] at settled
        exact settleFactory_invariant swept
          (granted_mover invariant sweeps.config config granted) segment settled
      · intro key
        have late := (settleFactory_arrived segment settled).journal key
        exact (sweeps.moves key).trans late

theorem upgrade_keeps {args : FactoryUpgradeArgs} {accountingStarted : Bool}
    {relayWasm : Option (List UInt8)} {st : FactoryState}
    (invariant : FactoryInvariant env sys) (clock : Nat)
    (upgraded : upgradeFactory sys.state args accountingStarted relayWasm = some st) :
    FactoryInvariant env { sys with state := st, tasks := Pool.empty, clock := clock } ∧
      ∀ key, JournalMoves ⟨False, True, False, 0, fun _ => False⟩ (sys.state.journal key)
        (st.journal key) := by
  rcases Option.bind_eq_some_iff.mp upgraded with ⟨creating, _, reconciled⟩
  dsimp only at reconciled
  split at reconciled
  · cases reconciled
  · split at reconciled
    · cases reconciled
    · split at reconciled
      · cases reconciled
      · have sweeps : Swept ⟨False, True, False, 0, fun _ => False⟩ _ st :=
          reconcile_swept trivial reconciled
        refine ⟨?_, sweeps.moves⟩
        constructor
        · dsimp only
          rw [sweeps.limiter]
          exact .new
        · exact sweeps.index invariant.index
        · exact Pool.holds_empty _
        · intro first second kont other different found
          cases found
        · intro key
          exact (invariant.spent key).moves (fun _ (impossible : False) => impossible.elim)
            (sweeps.moves key)
        · exact fun key => (sweeps.moves key).evidence (invariant.evidence key)
        · exact fun key => sweeps.resting (invariant.resting key)
        · exact fun key => (sweeps.moves key).unlost (invariant.unlost key)

theorem abandon_keeps (invariant : FactoryInvariant env sys) (ticket : Ticket) :
    FactoryInvariant env { sys with state := { sys.state with
      limiter := sys.state.limiter.dropTicket ticket } } := by
  have sweeps : Swept (.quiet 0) sys.state sys.state := .refl sys.state
  exact invariant.sweep sweeps (fun impossible => impossible) (fun impossible => impossible)
    (invariant.limiter.dropTicket ticket) (fun _ _ _ kept => (mem_dropTicket.mp kept).1)
    (Nat.le_refl _)

/-- The moves that an event makes of one journal, with what a rejection and an audit stand for. -/
structure EventMoves (env : FactoryEnv) (sys next : FactorySystem) (event : FactoryEvent)
    (key : RelaySetupKey) (rules : FactoryRules) : Prop where
  moves : JournalMoves rules (sys.state.journal key) (next.state.journal key)
  refused : rules.converts → rules.refused → sys.ledger.Refused ⟨key, .conversion⟩
  audited : ∀ relay, rules.audited relay → ∃ id reply now kont,
    event = .resume id reply now ∧ sys.tasks id = some kont ∧ kont.work.key = key ∧
      (resumeRules env sys.state kont reply).audited relay

theorem EventMoves.still (same : next.state.journal key = sys.state.journal key) :
    EventMoves env sys next event key (.quiet 0) where
  moves := by rw [same]
  refused := fun impossible => impossible.elim
  audited := fun _ impossible => impossible.elim

theorem stepFactory_keeps (invariant : FactoryInvariant env sys)
    (taken : stepFactory env sys event = some next) :
    FactoryInvariant env next ∧ ∀ key, ∃ rules, EventMoves env sys next event key rules := by
  cases event with
  | notify id args now =>
      simp only [stepFactory] at taken
      split at taken
      · have notified : Notified env (.quiet sys.state.config.relayInitialCycles) sys.state
            (notifyRelayConfiguration env sys.state now args) :=
          notifyRelayConfiguration_notified invariant.evidence invariant.index invariant.resting
            invariant.limiter
        rcases notify_keeps invariant notified taken with ⟨kept, moves⟩
        exact ⟨kept, fun key => ⟨_, moves key, fun impossible => impossible.elim,
          fun _ impossible => impossible.elim⟩⟩
      · cases taken
  | resume id reply now =>
      simp only [stepFactory] at taken
      split at taken
      · cases taken
      · rename_i kont found
        split at taken
        · rename_i admitted
          rw [Bool.and_eq_true] at admitted
          rcases Option.bind_eq_some_iff.mp taken with ⟨step, resumed, settled⟩
          have segment := resume_segment invariant found resumed
          have mover := resume_mover invariant found admitted.2
          refine ⟨settleFactory_invariant invariant mover segment settled, ?_⟩
          have arrived := settleFactory_arrived segment settled
          intro key
          by_cases same : key = kont.work.key
          · subst same
            exact ⟨_, arrived.moves, mover.refused, fun relay audited =>
              ⟨id, reply, now, kont, rfl, found, rfl, audited⟩⟩
          · exact ⟨_, .still (arrived.others key same)⟩
        · cases taken
  | abandon id cleanup =>
      simp only [stepFactory] at taken
      split at taken
      · cases taken
      · rename_i kont found
        cases taken
        cases cleanup with
        | false => exact ⟨invariant.finish id sys.clock, fun key => ⟨_, .still rfl⟩⟩
        | true =>
            exact ⟨(abandon_keeps invariant kont.work.ticket).finish id sys.clock,
              fun key => ⟨_, .still rfl⟩⟩
  | ledger call outcome =>
      simp only [stepFactory] at taken
      split at taken
      · rcases Option.map_eq_some_iff.mp taken with ⟨ledger, answered, rfl⟩
        refine ⟨?_, fun key => ⟨_, .still rfl⟩⟩
        constructor
        · exact invariant.limiter
        · exact invariant.index
        · intro id kont found
          have task := invariant.tasks id kont found
          refine ⟨task.fits, task.ready, ?_⟩
          cases kont with
          | cmcTransfer work index => exact CallLog.refusedExcept_answer task.pending answered
          | _ => trivial
        · exact invariant.apart
        · exact fun key => (invariant.spent key).answer answered
        · exact invariant.evidence
        · exact invariant.resting
        · exact invariant.unlost
      · cases taken
  | upgrade args accountingStarted relayWasm now =>
      simp only [stepFactory] at taken
      split at taken
      · rcases Option.map_eq_some_iff.mp taken with ⟨st, upgraded, rfl⟩
        rcases upgrade_keeps invariant now upgraded with ⟨kept, moves⟩
        exact ⟨kept, fun key => ⟨_, moves key, fun _ impossible => impossible.elim,
          fun _ impossible => impossible.elim⟩⟩
      · cases taken

theorem reachable_factory (reachable : (factoryMachine env).Reachable sys) :
    FactoryInvariant env sys := by
  refine (factoryMachine env).reachable_invariant (FactoryInvariant env) ?_
    (fun _ _ _ invariant taken => (stepFactory_keeps invariant taken).1) reachable
  rintro _ ⟨config, relayWasm, now, valid, rfl⟩
  constructor
  · exact .new
  · exact .empty
  · exact Pool.holds_empty _
  · intro first second kont other different found
    cases found
  · intro key
    refine ⟨fun _ _ impossible => ?_, ⟨0, fun _ _ impossible => ?_⟩, fun _ => rfl,
      Nat.zero_le _, fun _ => rfl, Nat.zero_le _⟩
    · cases impossible
    · cases impossible
  · exact fun _ => trivial
  · exact fun _ => .of_vacant rfl
  · intro key progress diagnostic impossible
    cases impossible

end Events

end JupiterSuite.Historian
