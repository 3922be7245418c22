import JupiterSuite.Historian.RelayFactoryReachable

/-! A relay setup pays once, whatever is notified, lost or upgraded meanwhile. -/

namespace JupiterSuite.Historian

open Base Memo

/-- No call that moves value for the setup was, or can still be, accepted. -/
structure NothingPaid (sys : FactorySystem) (key : RelaySetupKey) : Prop where
  conversion : sys.ledger.Refused ⟨key, .conversion⟩
  creation : sys.creates.count key = 0
  funding : sys.ledger.dispatches ⟨key, .funding⟩ = 0

/-- The entry of the setup is not of the attempt that the work is on. -/
def Stale (st : FactoryState) (work : FactoryWork) : Prop :=
  st.entries work.key ≠ none ∧ work.attempt ≠ some (st.attempts work.key)

/-- What a relay factory promises of its payments. An attempt begins with a reservation. -/
structure FactoryExactlyOnce (env : FactoryEnv) (sys : FactorySystem) : Prop where
  converted : ∀ key, sys.ledger.debits (fun tag => decide (tag = ⟨key, .conversion⟩)) ≤ 1
  created : ∀ key, sys.creates.count key ≤ 1
  funded : ∀ key, sys.ledger.dispatches ⟨key, .funding⟩ ≤ 1
  removed : ∀ key event next, stepFactory env sys event = some next →
    sys.state.entries key ≠ none → next.state.entries key = none → NothingPaid next key
  restarted : ∀ key event next, stepFactory env sys event = some next →
    next.state.attempts key ≠ sys.state.attempts key → NothingPaid sys key
  stale : ∀ id kont reply now next, sys.tasks id = some kont →
    stepFactory env sys (.resume id reply now) = some next → Stale sys.state kont.work →
      next.state.entries kont.work.key = sys.state.entries kont.work.key ∧
        next.ledger = sys.ledger ∧ next.creates = sys.creates

section Stale

variable {env : FactoryEnv} {st : FactoryState} {work : FactoryWork} {now : Nat}

/-- A message that leaves the entry of its setup and moves no value. -/
def Idle (st : FactoryState) (key : RelaySetupKey) : FactoryStep → Prop
  | (after, .done _) | (after, .await _) => after.entries key = st.entries key
  | (_, .trap _) => True
  | _ => False

theorem admittedCall_idle (kont : FactoryKont) :
    Idle st work.key (admittedCall st now work kont) := by
  simp only [admittedCall]
  split <;> rfl

theorem onBalance_idle (balance : Except String Nat) :
    Idle st work.key (onBalance st now work balance) := by
  simp only [onBalance]
  split
  · rfl
  · cases balance with
    | error error => rfl
    | ok balanceE8s =>
        dsimp only
        split
        · rfl
        · split
          · rfl
          · exact admittedCall_idle _

theorem onFee_idle (balanceE8s : Nat) (fee : Except String Nat) :
    Idle st work.key (onFee st now work balanceE8s fee) := by
  simp only [onFee]
  split
  · rfl
  · cases fee with
    | error error => rfl
    | ok feeE8s => exact admittedCall_idle _

theorem onRate_idle (present : st.entries work.key ≠ none) (balanceE8s feeE8s : Nat)
    (rate : Except String Nat) :
    Idle st work.key (onRate env st now work balanceE8s feeE8s rate) := by
  simp only [onRate]
  split
  · rfl
  · cases rate with
    | error error => rfl
    | ok xdrPermyriadPerIcp =>
        dsimp only
        split
        · rfl
        · split
          · rfl
          · simp only [reserve]
            split
            · rfl
            · rename_i vacant
              exact absurd vacant present

theorem releaseReservation_idle (lost : work.ticket ∉ st.limiter.tickets)
    (expected : RelayCreationPhase) (result : RelaySetupNotifyResult) :
    Idle st work.key (releaseReservation st work expected result) := by
  have unowned : st.limiter.ownsSlot work.ticket = false := by
    rw [Bool.eq_false_iff, ne_eq, ownsSlot_iff]
    exact lost
  simp only [releaseReservation, removeOwnedReservation, unowned, Bool.and_false,
    Bool.false_eq_true, if_false]
  rfl

theorem check_of_lost (now : Nat) (lost : work.ticket ∉ st.limiter.tickets) :
    st.limiter.check now work.ticket = false := by
  rw [Bool.eq_false_iff]
  exact fun live => lost (owns_of_check live)

theorem onProbing_of_lost {quote : SetupQuote} {target : Principal} {rest : List Principal}
    (lost : work.ticket ∉ st.limiter.tickets) (charged : Bool) :
    onProbing st now (.probe work quote target rest) charged = none := by
  have expired := check_of_lost (now / nanosPerSecond) lost
  cases charged with
  | true =>
      cases paid : st.limiter.charge (now / nanosPerSecond) work.ticket with
      | none => simp only [onProbing, FactoryKont.work, paid, if_true, Option.map_none]
      | some limiter =>
          have live := check_of_charge paid
          rw [expired] at live
          cases live
  | false =>
      simp only [onProbing, FactoryKont.work, expired, Bool.false_eq_true, if_false]

theorem resumeFactory_idle {kont : FactoryKont} {reply : FactoryReply} {step : FactoryStep}
    (ready : KontReady env st kont) (stale : Stale st kont.work)
    (resumed : resumeFactory env st now kont reply = some step) :
    Idle st kont.work.key step := by
  have current : ∀ rank, ¬ PaidFor st kont.work rank := fun rank paid => stale.2 paid.1
  have lost : (kont.work.ticket ∈ st.limiter.tickets →
      kont.work.attempt = some (st.attempts kont.work.key)) →
        kont.work.ticket ∉ st.limiter.tickets := fun ready held => stale.2 (ready held)
  cases kont with
  | balance work =>
      cases reply with
      | amount balance =>
          cases resumed
          exact onBalance_idle balance
      | _ => cases resumed
  | fee work balanceE8s =>
      cases reply with
      | amount fee =>
          cases resumed
          exact onFee_idle balanceE8s fee
      | _ => cases resumed
  | rate work balanceE8s feeE8s =>
      cases reply with
      | amount rate =>
          cases resumed
          exact onRate_idle stale.1 balanceE8s feeE8s rate
      | _ => cases resumed
  | neuron work quote neuronId rest =>
      cases reply with
      | neuron resolved =>
          cases resumed
          have gone : work.ticket ∉ st.limiter.tickets := lost ready
          simp only [onNeuron, check_of_lost _ gone, Bool.not_false, if_true]
          exact releaseReservation_idle gone _ _
      | _ => cases resumed
  | probe work quote target rest =>
      cases reply with
      | probing charged =>
          have gone : work.ticket ∉ st.limiter.tickets := lost ready
          rw [resumeFactory, onProbing_of_lost gone] at resumed
          cases resumed
      | probed result =>
          cases resumed
          have gone : work.ticket ∉ st.limiter.tickets := lost ready
          simp only [onProbed, check_of_lost _ gone, Bool.not_false, if_true]
          exact releaseReservation_idle gone _ _
      | _ => cases resumed
  | cmcTransfer work call => exact absurd ready.1 stale.2
  | notifyTopUp work cmcBlock => exact absurd ready (current 4)
  | createCanister work => exact absurd ready (current 4)
  | installCode work relay hash => exact absurd ready (current 4)
  | installStatus work relay hash installError => exact absurd ready (current 4)
  | remainingBalance work relay => exact absurd ready (current 4)
  | fundingFee work relay balanceE8s => exact absurd ready (current 4)
  | relayFunding work call => exact absurd ready (current 4)
  | firstAudit work phase relay hash => exact absurd ready.1.1 (current 10)
  | updateSettings work relay hash => exact absurd ready.1 (current 10)
  | finalAudit work relay hash updateError => exact absurd ready.1 (current 10)

theorem settleFactory_idle {sys next : FactorySystem} {key : RelaySetupKey} {id : Nat}
    {step : FactoryStep} (idle : Idle sys.state key step)
    (settled : settleFactory sys id now step = some next) :
    next.state.entries key = sys.state.entries key ∧ next.ledger = sys.ledger ∧
      next.creates = sys.creates := by
  rcases step with ⟨after, pause⟩
  cases pause with
  | done result | await kont =>
      cases settled
      exact ⟨idle, rfl, rfl⟩
  | trap cause => cases settled
  | convert work arg | create work cycles | fund work arg => exact idle.elim

end Stale

section Payments

variable {env : FactoryEnv} {sys next : FactorySystem} {rules : FactoryRules}
  {key : RelaySetupKey}

theorem Spent.nothingPaid (spent : Spent sys.ledger sys.creates key 0) : NothingPaid sys key :=
  ⟨spent.unconverted (by decide), spent.uncreated (by decide), spent.unfunded (by decide)⟩

theorem nothingPaid_of_vacant (invariant : FactoryInvariant env sys)
    (vacant : sys.state.entries key = none) : NothingPaid sys key := by
  have spent := invariant.spent key
  have rank : (sys.state.journal key).rank = 0 := by
    simp only [Journal.rank, FactoryState.journal, vacant, entryRank]
  rw [rank] at spent
  exact spent.nothingPaid

theorem Spent.restart {before after : Journal} {ledger : LedgerLog FactoryTag}
    {creates : List RelaySetupKey} (spent : Spent ledger creates key before.rank)
    (refused : rules.converts → rules.refused → ledger.Refused ⟨key, .conversion⟩)
    (moves : JournalMoves rules before after) :
    after.attempt = before.attempt ∨ Spent ledger creates key 0 := by
  induction moves with
  | refl => exact .inl rfl
  | tail first move ih =>
      have middle := spent.moves refused first
      cases move with
      | reserve => exact .inr middle
      | release | refuse | advance | recover | activate => exact ih

end Payments

theorem relay_factory_exactly_once {env : FactoryEnv} {sys : FactorySystem}
    (reachable : (factoryMachine env).Reachable sys) : FactoryExactlyOnce env sys := by
  have invariant := reachable_factory reachable
  constructor
  · intro key
    rcases (invariant.spent key).converted with ⟨index, refused⟩
    exact CallLog.debits_le_one_of_except refused
  · exact fun key => (invariant.spent key).created
  · exact fun key => (invariant.spent key).funded
  · intro key event next taken _ vacant
    exact nothingPaid_of_vacant (stepFactory_keeps invariant taken).1 vacant
  · intro key event next taken again
    rcases (stepFactory_keeps invariant taken).2 key with ⟨rules, moved⟩
    rcases (invariant.spent key).restart moved.refused moved.moves with same | spent
    · exact absurd same again
    · exact spent.nothingPaid
  · intro id kont reply now next found taken stale
    simp only [stepFactory, found] at taken
    split at taken
    · rcases Option.bind_eq_some_iff.mp taken with ⟨step, resumed, settled⟩
      have idle := resumeFactory_idle (invariant.tasks id kont found).ready stale resumed
      exact settleFactory_idle idle settled
    · cases taken

section Sample

def factorySampleTarget : Principal := ⟨[0, 0, 0, 0, 2, 80, 47, 169, 1, 1]⟩

def factorySampleRecipient : Principal := ⟨[0, 0, 0, 0, 2, 80, 47, 170, 1, 1]⟩

def factorySampleRelay : Principal := ⟨[0, 0, 0, 0, 2, 80, 47, 171, 1, 1]⟩

def factorySampleWasm : List UInt8 := [0, 97, 115, 109, 1, 0, 0, 0]

def factorySampleKey : RelaySetupKey :=
  ⟨[226, 41, 53, 170, 139, 91, 171, 209, 8, 169, 17, 177, 96, 107, 69, 214, 9, 120, 48, 181, 137,
    18, 70, 84, 16, 32, 122, 224, 167, 157, 216, 122]⟩

def factorySampleHash : List UInt8 :=
  [147, 164, 75, 187, 150, 199, 81, 33, 142, 76, 0, 212, 121, 228, 193, 67, 88, 18, 42, 56, 154,
    204, 161, 98, 5, 177, 228, 208, 220, 95, 148, 118]

def factorySampleEnv : FactoryEnv where
  historian := ⟨[0, 0, 0, 0, 2, 80, 47, 160, 1, 1]⟩
  sha256 bytes := if bytes = factorySampleWasm then factorySampleHash else factorySampleKey.bytes
  principalText _ := "aaaaa-aa"
  debugTransferError _ := "InsufficientFunds"

def factorySampleConfig : FactoryConfig where
  ledgerCanisterId := ⟨[0, 0, 0, 0, 0, 0, 0, 2, 1, 1]⟩
  indexCanisterId := ⟨[0, 0, 0, 0, 0, 0, 0, 11, 1, 1]⟩
  cmcCanisterId := some ⟨[0, 0, 0, 0, 0, 0, 0, 4, 1, 1]⟩
  relayFactoryEnabled := true
  relaySetupMinE8s := 300000000
  relayInitialCycles := 2000000000000
  relayCycleSafetyMarginE8s := 10000000
  relayMinSubaccountOneSeedE8s := 20000000
  canonicalRelayCanisterId := none
  canonicalRelayTargets := []

def factorySampleStart : FactorySystem where
  state := .new factorySampleConfig (some factorySampleWasm)
  tasks := Pool.empty
  ledger := []
  creates := []
  clock := 1700000000000000000

def factorySampleArgs : RelaySetupArgs :=
  ⟨[factorySampleTarget], [.principal factorySampleRecipient []]⟩

/-- A notification up to its conversion, at the time and by the task given. -/
def factorySamplePayment (id now : Nat) : List FactoryEvent :=
  [.notify id factorySampleArgs now, .resume id (.amount (.ok 400000000)) now,
    .resume id (.amount (.ok 10000)) now, .resume id (.amount (.ok 50000)) now,
    .resume id (.probed (.ok ())) now]

def factorySampleStatus (controllers : List Principal) : CanisterStatusResult where
  status := .running
  moduleHash := some factorySampleHash
  controllers := controllers
  logVisibility := .everyone
  statusVisibility := .everyone

/-- The first conversion is rejected; a second attempt creates, funds and hands over the relay,
while a slow notification of the same setup still waits for its first balance. -/
def factorySampleEvents : List FactoryEvent :=
  factorySamplePayment 0 1700000000000000000 ++
    [.ledger 0 (.rejected (.insufficientFunds 0)),
      .resume 0 (.transfer (.ok (.error (.insufficientFunds 0)))) 1700000001000000000,
      .notify 7 factorySampleArgs 1700000002000000000] ++
    factorySamplePayment 1 1700000400000000000 ++
    [.ledger 1 (.accepted 77), .resume 1 (.transfer (.ok (.ok 77))) 1700000401000000000,
      .resume 1 (.minted (.ok 2100000000000)) 1700000402000000000,
      .resume 1 (.created (.ok factorySampleRelay)) 1700000403000000000,
      .resume 1 (.managed (.ok ())) 1700000404000000000,
      .resume 1 (.amount (.ok 350000000)) 1700000405000000000,
      .resume 1 (.amount (.ok 10000)) 1700000405000000000,
      .ledger 2 (.accepted 78), .resume 1 (.transfer (.ok (.ok 78))) 1700000406000000000,
      .resume 1 (.status (.ok (factorySampleStatus [factorySampleEnv.historian])))
        1700000407000000000,
      .resume 1 (.managed (.ok ())) 1700000408000000000,
      .resume 7 (.amount (.ok 350000000)) 1700000408000000000,
      .resume 1 (.status (.ok (factorySampleStatus []))) 1700000409000000000]

def factorySampleSystem : FactorySystem :=
  ((factoryMachine factorySampleEnv).run factorySampleStart factorySampleEvents).getD
    factorySampleStart

theorem factorySampleSystem_reachable :
    (factoryMachine factorySampleEnv).Reachable factorySampleSystem :=
  (factoryMachine factorySampleEnv).reachable_getD
    ⟨factorySampleConfig, _, _, by decide +kernel, rfl⟩
    (by decide +kernel)

theorem relay_factory_exactly_once_rejected_conversion :
    factorySampleSystem.state.entries factorySampleKey = some (.active factorySampleRelay) ∧
      factorySampleSystem.state.attempts factorySampleKey = 2 ∧
      factorySampleSystem.ledger.length = 3 ∧
      FactoryExactlyOnce factorySampleEnv factorySampleSystem :=
  ⟨by decide +kernel, by decide +kernel, by decide +kernel,
    relay_factory_exactly_once factorySampleSystem_reachable⟩

end Sample

end JupiterSuite.Historian
