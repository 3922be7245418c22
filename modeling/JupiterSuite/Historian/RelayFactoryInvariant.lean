import JupiterSuite.Historian.RelayFactorySweeps

/-! What holds of the relay factory in every reachable state: the calls that moved value for a setup
are bounded by how far its journal has come, and every suspended continuation fits its setup. -/

namespace JupiterSuite.Historian

open Base

/-- The calls that may have been made for a setup whose journal has the rank. -/
structure Spent (ledger : LedgerLog FactoryTag) (creates : List RelaySetupKey)
    (key : RelaySetupKey) (rank : Nat) : Prop where
  unconverted : rank ≤ 2 → ledger.Refused ⟨key, .conversion⟩
  converted : ∃ index, ledger.RefusedExcept ⟨key, .conversion⟩ index
  uncreated : rank ≤ 5 → creates.count key = 0
  created : creates.count key ≤ 1
  unfunded : rank ≤ 8 → ledger.dispatches ⟨key, .funding⟩ = 0
  funded : ledger.dispatches ⟨key, .funding⟩ ≤ 1

section Spending

variable {rules : FactoryRules} {ledger next : LedgerLog FactoryTag}
  {creates : List RelaySetupKey} {key other : RelaySetupKey} {rank later : Nat}
  {before after : Journal}

theorem Spent.raise (spent : Spent ledger creates key rank) (forward : rank ≤ later) :
    Spent ledger creates key later :=
  ⟨fun bound => spent.unconverted (Nat.le_trans forward bound), spent.converted,
    fun bound => spent.uncreated (Nat.le_trans forward bound), spent.created,
    fun bound => spent.unfunded (Nat.le_trans forward bound), spent.funded⟩

theorem Spent.reset (spent : Spent ledger creates key rank) (early : rank ≤ 3)
    (refused : ledger.Refused ⟨key, .conversion⟩) : Spent ledger creates key 0 :=
  ⟨fun _ => refused, spent.converted, fun _ => spent.uncreated (by omega), spent.created,
    fun _ => spent.unfunded (by omega), spent.funded⟩

theorem Spent.move (spent : Spent ledger creates key before.rank)
    (refused : rules.converts → rules.refused → ledger.Refused ⟨key, .conversion⟩)
    (move : JournalMove rules before after) : Spent ledger creates key after.rank := by
  cases move with
  | reserve => exact spent.raise (Nat.zero_le _)
  | release _ _ unpaid =>
      exact spent.reset (Nat.le_trans unpaid (by decide)) (spent.unconverted unpaid)
  | refuse _ _ phase converts rejected =>
      apply spent.reset _ (refused converts rejected)
      simp only [Journal.rank, entryRank, phase]
      decide
  | advance _ advanced => exact spent.raise advanced.forward.1
  | recover => exact spent
  | activate => exact spent.raise (Nat.le_succ_of_le (rank_le _))

theorem Spent.moves (spent : Spent ledger creates key before.rank)
    (refused : rules.converts → rules.refused → ledger.Refused ⟨key, .conversion⟩)
    (moves : JournalMoves rules before after) : Spent ledger creates key after.rank := by
  induction moves with
  | refl => exact spent
  | tail _ move ih => exact ih.move refused move

theorem Spent.convert (spent : Spent ledger creates key rank) (unpaid : rank ≤ 2)
    (prepared : 3 ≤ later) (arg : TransferArg) :
    Spent (ledger.dispatch ⟨key, .conversion⟩ arg) creates key later where
  unconverted bound := by omega
  converted := ⟨_, CallLog.refusedExcept_dispatch (spent.unconverted unpaid) arg⟩
  uncreated _ := spent.uncreated (by omega)
  created := spent.created
  unfunded _ := by
    rw [CallLog.dispatches_dispatch, spent.unfunded (by omega)]
    simp
  funded := by
    rw [CallLog.dispatches_dispatch, spent.unfunded (by omega)]
    simp

theorem Spent.create (spent : Spent ledger creates key rank) (early : rank ≤ 5)
    (dispatched : 6 ≤ later) : Spent ledger (creates ++ [key]) key later where
  unconverted bound := by omega
  converted := spent.converted
  uncreated bound := by omega
  created := by
    rw [List.count_append, spent.uncreated early]
    simp
  unfunded _ := spent.unfunded (by omega)
  funded := spent.funded

theorem Spent.fund (spent : Spent ledger creates key rank) (early : rank ≤ 8)
    (prepared : 9 ≤ later) (arg : TransferArg) :
    Spent (ledger.dispatch ⟨key, .funding⟩ arg) creates key later where
  unconverted bound := by omega
  converted := by
    rcases spent.converted with ⟨index, refused⟩
    exact ⟨index, CallLog.refusedExcept_dispatch_other refused arg (by simp)⟩
  uncreated bound := by omega
  created := spent.created
  unfunded bound := by omega
  funded := by
    rw [CallLog.dispatches_dispatch, spent.unfunded early]
    simp

theorem Spent.dispatch_other (spent : Spent ledger creates key rank) (different : other ≠ key)
    (transfer : FactoryTransfer) (arg : TransferArg) :
    Spent (ledger.dispatch ⟨other, transfer⟩ arg) creates key rank where
  unconverted bound :=
    CallLog.refused_dispatch (spent.unconverted bound) arg (by simp [different])
  converted := by
    rcases spent.converted with ⟨index, refused⟩
    exact ⟨index, CallLog.refusedExcept_dispatch_other refused arg (by simp [different])⟩
  uncreated := spent.uncreated
  created := spent.created
  unfunded bound := by
    rw [CallLog.dispatches_dispatch, spent.unfunded bound]
    simp [different]
  funded := by
    rw [CallLog.dispatches_dispatch]
    simpa [different] using spent.funded

theorem Spent.create_other (spent : Spent ledger creates key rank) (different : other ≠ key) :
    Spent ledger (creates ++ [other]) key rank := by
  have counted : (creates ++ [other]).count key = creates.count key := by
    rw [List.count_append, List.count_singleton]
    simp [different]
  refine ⟨spent.unconverted, spent.converted, ?_, ?_, spent.unfunded, spent.funded⟩
  · intro bound
    rw [counted]
    exact spent.uncreated bound
  · rw [counted]
    exact spent.created

theorem Spent.answer {call : Nat} {outcome : TransferOutcome}
    (spent : Spent ledger creates key rank)
    (answered : ledger.answer call outcome = some next) : Spent next creates key rank where
  unconverted bound := CallLog.refused_answer (spent.unconverted bound) answered
  converted := by
    rcases spent.converted with ⟨index, refused⟩
    exact ⟨index, CallLog.refusedExcept_answer refused answered⟩
  uncreated := spent.uncreated
  created := spent.created
  unfunded bound := by
    rw [CallLog.dispatches_answer answered]
    exact spent.unfunded bound
  funded := by
    rw [CallLog.dispatches_answer answered]
    exact spent.funded

end Spending

/-- The configuration and the ticket of a suspended notification. -/
structure Fits (st : FactoryState) (work : FactoryWork) : Prop where
  config : work.config = st.config
  key : work.ticket.key = work.key
  issued : work.ticket.token ≤ st.limiter.nextToken

def Pending (ledger : LedgerLog FactoryTag) : FactoryKont → Prop
  | .cmcTransfer work call => ledger.RefusedExcept ⟨work.key, .conversion⟩ call
  | _ => True

structure TaskReady (env : FactoryEnv) (st : FactoryState) (ledger : LedgerLog FactoryTag)
    (kont : FactoryKont) : Prop where
  fits : Fits st kont.work
  ready : KontReady env st kont
  pending : Pending ledger kont

/-- Two notifications hold different tickets, and one of a setup's at most awaits a conversion. -/
def Apart (kont other : FactoryKont) : Prop :=
  kont.work.ticket ≠ other.work.ticket ∧
    (kont.isConversion = true → other.isConversion = true → kont.work.key ≠ other.work.key)

def Unlost (entry : Option RelaySetupEntry) : Prop :=
  ∀ progress diagnostic, entry = some (.manualRecoveryRequired progress) →
    progress.lastError = some diagnostic → diagnostic.needsLostEvidence = false

structure FactoryInvariant (env : FactoryEnv) (sys : FactorySystem) : Prop where
  limiter : LimiterSound sys.state.limiter
  index : sys.state.IndexSound
  tasks : sys.tasks.Holds (TaskReady env sys.state sys.ledger)
  apart : sys.tasks.Pairs Apart
  spent : ∀ key, Spent sys.ledger sys.creates key (sys.state.journal key).rank
  evidence : ∀ key, (sys.state.journal key).Evidence
  resting : ∀ key, Resting sys.state key
  unlost : ∀ key, Unlost (sys.state.entries key)

end JupiterSuite.Historian
