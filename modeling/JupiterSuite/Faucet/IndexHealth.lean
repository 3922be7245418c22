import JupiterSuite.Faucet.Logic

/-! Observations of the index's health, and the forced rescue that sustained failures latch. The
times of the last counted failures live in the heap, the counters in the stable state. -/

namespace JupiterSuite.Faucet

open Base

def u8Max : Nat := 255

/-- The three failures that are observed of the index: one by the check of its oldest row, two
by the check of its newest rows. -/
inductive IndexFailure where
  | anchorMissing
  | latestInvariantBroken
  | latestUnreadable
  deriving DecidableEq, Repr

inductive IndexCheck where
  | anchor
  | latest
  deriving DecidableEq, Repr

namespace IndexFailure

def check : IndexFailure → IndexCheck
  | .anchorMissing => .anchor
  | _ => .latest

def reason : IndexFailure → ForcedRescueReason
  | .anchorMissing => .indexAnchorMissing
  | .latestInvariantBroken => .indexLatestInvariantBroken
  | .latestUnreadable => .indexLatestUnreadable

end IndexFailure

def ForcedRescueReason.ofIndex : ForcedRescueReason → Bool
  | .indexAnchorMissing | .indexLatestInvariantBroken | .indexLatestUnreadable => true
  | _ => false

/-- The fields of the state and of its configuration that the observations read. -/
structure IndexHealthState where
  mainIntervalSeconds : Nat
  expectedFirstStakingTxId : Option Nat
  forcedRescueReason : Option ForcedRescueReason
  lastObservedStakingBalanceE8s : Option Nat
  lastObservedLatestTxId : Option Nat
  consecutiveIndexAnchorFailures : Option Nat
  consecutiveIndexLatestInvariantFailures : Option Nat
  consecutiveIndexLatestUnreadableFailures : Option Nat
  lastAnchorFailure : Option Nat
  lastLatestFailure : Option Nat
  deriving DecidableEq, Repr

inductive LatestScan where
  | read (balanceE8s : Nat) (latestTxId : Option Nat)
  | unreadable
  | invariantBroken
  deriving DecidableEq, Repr

/-- The balance and the page that answer the read, `none` when the call failed. -/
def scanLatestObservation (pageSize : Nat) (start : Option Nat)
    (reply : Option (Nat × IndexPage)) : LatestScan :=
  match reply with
  | none => .unreadable
  | some (balance, page) =>
      let valid :=
        if page.transactions.isEmpty then
          page.oldestTxId.isNone ||
            (start.any fun cursor => page.oldestTxId.any fun oldest => decide (cursor ≤ oldest))
        else (validateHistoryPage pageSize page start none).isSome
      if valid then .read balance (page.transactions.head?.map IndexTx.id) else .invariantBroken

/-- The order of `Option<u64>`. -/
def tipBehind : Option Nat → Option Nat → Bool
  | some latest, some previous => decide (latest < previous)
  | none, some _ => true
  | _, none => false

def countSustainedFailure (last : Option Nat) (failures nowSecs minGapSeconds : Nat) :
    Option Nat × Bool :=
  if failures = 0 then (some nowSecs, true)
  else
    match last with
    | some previous =>
        if minGapSeconds ≤ nowSecs - previous then (some nowSecs, true) else (last, false)
    -- After an upgrade a counted failure starts a fresh window.
    | none => (some nowSecs, false)

namespace IndexHealthState

def new (mainIntervalSeconds : Nat) (expectedFirst : Option Nat) : IndexHealthState where
  mainIntervalSeconds
  expectedFirstStakingTxId := expectedFirst
  forcedRescueReason := none
  lastObservedStakingBalanceE8s := none
  lastObservedLatestTxId := none
  consecutiveIndexAnchorFailures := some 0
  consecutiveIndexLatestInvariantFailures := some 0
  consecutiveIndexLatestUnreadableFailures := some 0
  lastAnchorFailure := none
  lastLatestFailure := none

def minGapSeconds (st : IndexHealthState) : Nat := max st.mainIntervalSeconds 60

def latch (st : IndexHealthState) (reason : ForcedRescueReason) : IndexHealthState :=
  match st.forcedRescueReason with
  | none => { st with forcedRescueReason := some reason }
  | some _ => st

def count (st : IndexHealthState) : IndexFailure → Nat
  | .anchorMissing => st.consecutiveIndexAnchorFailures.getD 0
  | .latestInvariantBroken => st.consecutiveIndexLatestInvariantFailures.getD 0
  | .latestUnreadable => st.consecutiveIndexLatestUnreadableFailures.getD 0

def episodeFailures (st : IndexHealthState) : IndexCheck → Nat
  | .anchor => st.count .anchorMissing
  | .latest => max (st.count .latestInvariantBroken) (st.count .latestUnreadable)

def lastFailure (st : IndexHealthState) : IndexCheck → Option Nat
  | .anchor => st.lastAnchorFailure
  | .latest => st.lastLatestFailure

def setLastFailure (st : IndexHealthState) (last : Option Nat) : IndexCheck → IndexHealthState
  | .anchor => { st with lastAnchorFailure := last }
  | .latest => { st with lastLatestFailure := last }

def setCount (st : IndexHealthState) (failures : Nat) : IndexFailure → IndexHealthState
  | .anchorMissing => { st with consecutiveIndexAnchorFailures := some failures }
  | .latestInvariantBroken =>
      { st with
        consecutiveIndexLatestUnreadableFailures := some 0
        consecutiveIndexLatestInvariantFailures := some failures }
  | .latestUnreadable =>
      { st with
        consecutiveIndexLatestInvariantFailures := some 0
        consecutiveIndexLatestUnreadableFailures := some failures }

def recordFailure (st : IndexHealthState) (failure : IndexFailure) (nowSecs : Nat) :
    IndexHealthState :=
  let (last, counts) := countSustainedFailure (st.lastFailure failure.check)
    (st.episodeFailures failure.check) nowSecs st.minGapSeconds
  let timed := st.setLastFailure last failure.check
  if !counts then timed
  else
    let failures := satAdd u8Max (st.count failure) 1
    let recorded := timed.setCount failures failure
    if 2 ≤ failures then recorded.latch failure.reason else recorded

def recordLatestUnreadableFailure (st : IndexHealthState) (nowSecs : Nat) : IndexHealthState :=
  st.recordFailure .latestUnreadable nowSecs

def recordLatestInvariantFailure (st : IndexHealthState) (nowSecs : Nat) : IndexHealthState :=
  st.recordFailure .latestInvariantBroken nowSecs

def applyAnchorObservation (st : IndexHealthState) (observedOldest : Option Nat) (nowSecs : Nat) :
    IndexHealthState :=
  match st.expectedFirstStakingTxId with
  | none => st
  | some expectedFirst =>
      if observedOldest = some expectedFirst then
        { st with consecutiveIndexAnchorFailures := some 0, lastAnchorFailure := none }
      else st.recordFailure .anchorMissing nowSecs

def applyLatestObservation (st : IndexHealthState) (scan : LatestScan) (nowSecs : Nat) :
    IndexHealthState :=
  match scan with
  | .unreadable => st.recordLatestUnreadableFailure nowSecs
  | .invariantBroken => st.recordLatestInvariantFailure nowSecs
  | .read balanceE8s latestTxId =>
      let previousTip := st.lastObservedLatestTxId
      -- A lagging replica is no proof that the history is corrupt.
      if st.lastObservedStakingBalanceE8s.isSome && tipBehind latestTxId previousTip then st
      else if (st.lastObservedStakingBalanceE8s.any fun balance => balance != balanceE8s) &&
          decide (latestTxId = previousTip) then
        st.recordLatestInvariantFailure nowSecs
      else
        { st with
          lastObservedStakingBalanceE8s := some balanceE8s
          lastObservedLatestTxId := latestTxId
          consecutiveIndexLatestInvariantFailures := some 0
          consecutiveIndexLatestUnreadableFailures := some 0
          lastLatestFailure := none }

/-- An upgrade loses the heap; its arguments may clear the latch and change the interval. -/
def upgrade (st : IndexHealthState) (clear : Bool) (interval : Option Nat) : IndexHealthState :=
  let restored := { st with
    lastAnchorFailure := none
    lastLatestFailure := none
    mainIntervalSeconds := interval.getD st.mainIntervalSeconds }
  if clear then
    { restored with
      forcedRescueReason := none
      consecutiveIndexAnchorFailures := some 0
      consecutiveIndexLatestInvariantFailures := some 0
      consecutiveIndexLatestUnreadableFailures := some 0 }
  else restored

end IndexHealthState

/-- The first page's oldest row or its failure, the newest page that is read on its own, and a page
of the payout pass. -/
inductive Observation where
  | anchor (observedOldest : Option Nat)
  | unreadable
  | latestPage (reply : Option (Nat × IndexPage))
  | payoutPage (page : IndexPage) (cursor expectedOldest : Option Nat)
  deriving DecidableEq, Repr

def Observation.apply (pageSize : Nat) (st : IndexHealthState) (nowSecs : Nat) :
    Observation → IndexHealthState
  | .anchor observedOldest => st.applyAnchorObservation observedOldest nowSecs
  | .unreadable => st.applyLatestObservation .unreadable nowSecs
  | .latestPage reply =>
      st.applyLatestObservation (scanLatestObservation pageSize none reply) nowSecs
  | .payoutPage page cursor expectedOldest =>
      match validateHistoryPage pageSize page cursor expectedOldest with
      | none => st.recordLatestInvariantFailure nowSecs
      | some _ => st

/-! What an observation says of the index, whatever the code makes of it. -/

/-- A page of a history, newest first, behind the cursor and no older than the oldest row. -/
def WellFormedPage (pageSize : Nat) (page : IndexPage) (cursor expectedOldest : Option Nat) : Prop :=
  (∀ id ∈ expectedOldest, page.oldestTxId = some id) ∧
    page.transactions.length ≤ pageSize ∧
    page.transactions.Pairwise (fun newer older => older.id < newer.id) ∧
    (∀ tx ∈ page.transactions, ∀ id ∈ cursor, tx.id < id) ∧
    (∀ tx ∈ page.transactions, ∃ oldest ∈ page.oldestTxId, oldest ≤ tx.id) ∧
    (page.transactions = [] → cursor = page.oldestTxId)

instance (pageSize : Nat) (page : IndexPage) (cursor expectedOldest : Option Nat) :
    Decidable (WellFormedPage pageSize page cursor expectedOldest) :=
  inferInstanceAs (Decidable (_ ∧ _ ∧ _ ∧ _ ∧ _ ∧ _))

inductive IndexEvidence where
  | healthy (check : IndexCheck)
  | failing (failure : IndexFailure)
  | neither
  deriving DecidableEq, Repr

/-- The newest row and the balance against those of the last healthy page: a tip that went back
proves nothing, and a balance does not change without a new row. -/
def tipEvidence (previous : Option (Nat × Option Nat)) (balanceE8s : Nat) (tip : Option Nat) :
    IndexEvidence :=
  match previous with
  | none => .healthy .latest
  | some (balance, last) =>
      if ∃ id ∈ last, ∀ newest ∈ tip, newest < id then .neither
      else if tip = last ∧ balance ≠ balanceE8s then .failing .latestInvariantBroken
      else .healthy .latest

namespace Observation

def evidence (pageSize : Nat) (expectedFirst : Option Nat) (previous : Option (Nat × Option Nat)) :
    Observation → IndexEvidence
  | .anchor observedOldest =>
      if expectedFirst = none then .neither
      else if observedOldest = expectedFirst then .healthy .anchor
      else .failing .anchorMissing
  | .unreadable | .latestPage none => .failing .latestUnreadable
  | .latestPage (some (balanceE8s, page)) =>
      if WellFormedPage pageSize page none none then
        tipEvidence previous balanceE8s (page.transactions.head?.map IndexTx.id)
      else .failing .latestInvariantBroken
  | .payoutPage page cursor expectedOldest =>
      if WellFormedPage pageSize page cursor expectedOldest then .neither
      else .failing .latestInvariantBroken

/-- The balance and the newest row of the last healthy newest page. -/
def lastRead (evidence : IndexEvidence) (previous : Option (Nat × Option Nat)) :
    Observation → Option (Nat × Option Nat)
  | .latestPage (some (balanceE8s, page)) =>
      if evidence = .healthy .latest then
        some (balanceE8s, page.transactions.head?.map IndexTx.id)
      else previous
  | _ => previous

end Observation

/-- An observation counts when it raises the counter of its failure. -/
structure HealthRecord where
  evidence : IndexEvidence
  counted : Bool
  nowSecs : Nat
  deriving DecidableEq, Repr

def raises (before after : IndexHealthState) : IndexEvidence → Bool
  | .failing failure => decide (before.count failure < after.count failure)
  | _ => false

/-- No code reads `lastRead` and `log`, the records of what was observed, oldest first. -/
structure HealthSystem where
  state : IndexHealthState
  clock : Nat
  lastRead : Option (Nat × Option Nat)
  log : List HealthRecord
  deriving DecidableEq, Repr

inductive HealthEvent where
  | observe (observation : Observation) (nowSecs : Nat)
  | latchOther (reason : ForcedRescueReason)
  | upgrade (clear : Bool) (interval : Option Nat)
  deriving DecidableEq, Repr

def HealthSystem.observe (pageSize : Nat) (sys : HealthSystem) (observation : Observation)
    (nowSecs : Nat) : HealthSystem :=
  let state := observation.apply pageSize sys.state nowSecs
  let evidence := observation.evidence pageSize sys.state.expectedFirstStakingTxId sys.lastRead
  { state
    clock := nowSecs
    lastRead := observation.lastRead evidence sys.lastRead
    log := sys.log ++ [⟨evidence, raises sys.state state evidence, nowSecs⟩] }

def stepHealth (pageSize : Nat) (sys : HealthSystem) : HealthEvent → Option HealthSystem
  | .observe observation nowSecs =>
      if sys.clock ≤ nowSecs then some (sys.observe pageSize observation nowSecs) else none
  | .latchOther reason =>
      if reason.ofIndex then none else some { sys with state := sys.state.latch reason }
  | .upgrade clear interval => some { sys with state := sys.state.upgrade clear interval }

def indexHealth (pageSize : Nat) : Machine HealthSystem HealthEvent where
  init := fun sys => ∃ interval expectedFirst clock,
    sys = ⟨.new interval expectedFirst, clock, none, []⟩
  step := stepHealth pageSize

end JupiterSuite.Faucet
