import JupiterSuite.Clients.LeaseGuards

/-! The split plan of a numbered relay subaccount. -/

namespace JupiterSuite.Relay

open Base

def minRawIcpRecipientAmountE8s : Nat := 100000000

def splitterPercentages : List Nat := [10, 20, 30, 40, 50, 60, 70, 80, 90]

inductive SplitterLeg where
  | defaultAccount
  | subaccountOne
  deriving DecidableEq, Repr

inductive SplitterDestination where
  | defaultAccount
  | subaccountOne
  deriving DecidableEq, Repr

structure SplitterLegPlan where
  destination : SplitterDestination
  grossShareE8s : Nat
  amountE8s : Nat
  feeE8s : Nat
  createdAtTimeNanos : Nat
  deriving DecidableEq, Repr

structure SplitterPlan where
  splitterNumber : Nat
  percentageToDefault : Nat
  sourceSubaccount : List UInt8
  balanceStartE8s : Nat
  defaultLeg : SplitterLegPlan
  subaccountOneLeg : SplitterLegPlan
  deriving DecidableEq, Repr

def relayNumberedSubaccount (number : Nat) : List UInt8 :=
  List.replicate 31 0 ++ [UInt8.ofNat number]

def defaultAccount (selfId : Principal) : Account := ⟨selfId, none⟩

def relaySubaccountOneAccount (selfId : Principal) : Account :=
  ⟨selfId, some (relayNumberedSubaccount 1)⟩

def splitterDestinationAccount (relayId : Principal) : SplitterDestination → Account
  | .defaultAccount => defaultAccount relayId
  | .subaccountOne => relaySubaccountOneAccount relayId

def splitterPercentage (number : Nat) : Option Nat := splitterPercentages.find? (· == number)

def buildSplitterPlan (splitterNumber balanceStartE8s feeE8s nowNanos : Nat) :
    Except String SplitterPlan :=
  match splitterPercentage splitterNumber with
  | none => .error "splitter_not_protocol_defined"
  | some percentageToDefault =>
      if balanceStartE8s = 0 then .error "splitter_no_funds"
      else if balanceStartE8s ≤ feeE8s ∨
          balanceStartE8s - feeE8s < minRawIcpRecipientAmountE8s then
        .error "splitter_below_1_icp_net"
      else
        let defaultGrossE8s := balanceStartE8s * percentageToDefault / 100
        if u64Max < defaultGrossE8s then .error "splitter_share_overflow"
        else
          match checkedSub balanceStartE8s defaultGrossE8s with
          | none => .error "splitter_share_underflow"
          | some subaccountOneGrossE8s =>
              if defaultGrossE8s ≤ feeE8s ∨ subaccountOneGrossE8s ≤ feeE8s then
                .error "splitter_share_does_not_exceed_fee"
              else
                match checkedAdd u64Max nowNanos 1 with
                | none => .error "splitter_created_at_overflow"
                | some subaccountOneCreatedAt =>
                    .ok
                      { splitterNumber
                        percentageToDefault
                        sourceSubaccount := relayNumberedSubaccount splitterNumber
                        balanceStartE8s
                        defaultLeg :=
                          { destination := .defaultAccount
                            grossShareE8s := defaultGrossE8s
                            amountE8s := defaultGrossE8s - feeE8s
                            feeE8s
                            createdAtTimeNanos := nowNanos }
                        subaccountOneLeg :=
                          { destination := .subaccountOne
                            grossShareE8s := subaccountOneGrossE8s
                            amountE8s := subaccountOneGrossE8s - feeE8s
                            feeE8s
                            createdAtTimeNanos := subaccountOneCreatedAt } }

def SplitterPlan.leg (plan : SplitterPlan) : SplitterLeg → SplitterLegPlan
  | .defaultAccount => plan.defaultLeg
  | .subaccountOne => plan.subaccountOneLeg

def SplitterPlan.setLeg (plan : SplitterPlan) (leg : SplitterLeg) (value : SplitterLegPlan) :
    SplitterPlan :=
  match leg with
  | .defaultAccount => { plan with defaultLeg := value }
  | .subaccountOne => { plan with subaccountOneLeg := value }

def splitterTransferArg (relayId : Principal) (plan : SplitterPlan) (leg : SplitterLeg) :
    TransferArg where
  fromSubaccount := some plan.sourceSubaccount
  toAccount := splitterDestinationAccount relayId (plan.leg leg).destination
  fee := some (plan.leg leg).feeE8s
  createdAtTime := some (plan.leg leg).createdAtTimeNanos
  memo := none
  amount := (plan.leg leg).amountE8s

@[simp]
theorem leg_setLeg (plan : SplitterPlan) (leg : SplitterLeg) (value : SplitterLegPlan) :
    (plan.setLeg leg value).leg leg = value := by
  cases leg <;> rfl

theorem leg_setLeg_other (plan : SplitterPlan) {leg other : SplitterLeg}
    (value : SplitterLegPlan) (different : other ≠ leg) :
    (plan.setLeg leg value).leg other = plan.leg other := by
  cases leg <;> cases other <;> first | rfl | exact absurd rfl different

@[simp]
theorem balanceStartE8s_setLeg (plan : SplitterPlan) (leg : SplitterLeg)
    (value : SplitterLegPlan) :
    (plan.setLeg leg value).balanceStartE8s = plan.balanceStartE8s := by
  cases leg <;> rfl

@[simp]
theorem sourceSubaccount_setLeg (plan : SplitterPlan) (leg : SplitterLeg)
    (value : SplitterLegPlan) :
    (plan.setLeg leg value).sourceSubaccount = plan.sourceSubaccount := by
  cases leg <;> rfl

theorem splitterTransferArg_setLeg_other (relayId : Principal) (plan : SplitterPlan)
    {leg other : SplitterLeg} (value : SplitterLegPlan) (different : other ≠ leg) :
    splitterTransferArg relayId (plan.setLeg leg value) other =
      splitterTransferArg relayId plan other := by
  simp [splitterTransferArg, leg_setLeg_other plan value different]

/-- The two legs split the pinned balance, each into an amount and its fee. -/
structure ExactSplit (plan : SplitterPlan) : Prop where
  total : plan.defaultLeg.grossShareE8s + plan.subaccountOneLeg.grossShareE8s =
    plan.balanceStartE8s
  each : ∀ leg, (plan.leg leg).amountE8s + (plan.leg leg).feeE8s = (plan.leg leg).grossShareE8s

theorem buildSplitterPlan_split {number balance fee now : Nat} {plan : SplitterPlan}
    (built : buildSplitterPlan number balance fee now = .ok plan) :
    ExactSplit plan ∧ plan.balanceStartE8s = balance := by
  simp only [buildSplitterPlan] at built
  repeat' split at built
  all_goals cases built
  rename_i share above _ created _
  have parts := checkedSub_eq_some.mp share
  refine ⟨⟨?_, ?_⟩, rfl⟩
  · dsimp only
    omega
  · intro leg
    cases leg <;> simp only [SplitterPlan.leg] <;> omega

end JupiterSuite.Relay
