import JupiterSuite.Memo.Frontend
import Mathlib.Tactic.Linarith

/-! The projection simulator of the frontend. A `bigint` is an `Int`, its division rounds toward
zero, and what a function throws is its `error`. -/

namespace JupiterSuite.Frontend

open Memo.Frontend

def e8sPerIcp : Int := 100000000

def cyclesPerPriceUnit : Int := 1000000000000

def trillionCycles : Nat := 1000000000000

def projectionWeeks : Nat := 52

def defaultAnnualApyBasisPoints : Int := 700

/-! ## Decimal texts -/

def cleanDecimalInput (value : JsText) : JsText :=
  ((jsTrim value).filter fun unit => decide (unit ≠ 95)).filter fun unit => decide (unit ≠ 44)

/-- The whole part and the fraction of a text that `/^\d+(?:\.\d+)?$/` matches. -/
def decimalParts (text : JsText) : Option (JsText × JsText) :=
  match indexOf 46 text with
  | none => if hasOnlyDigits text then some (text, []) else none
  | some stop =>
      if hasOnlyDigits (text.take stop) && hasOnlyDigits (text.drop (stop + 1)) then
        some (text.take stop, text.drop (stop + 1))
      else none

structure DecimalOptions where
  allowZero : Bool
  maxFractionDigits : Option Nat
  fieldName : String

def DecimalOptions.exceeded (options : DecimalOptions) (fraction : JsText) : Option Nat :=
  options.maxFractionDigits.filter fun most => decide (most < fraction.length)

/-- The digits that follow the point in a text of the scale. -/
def scaledFraction (scaleDigits : Nat) (fraction : JsText) : JsText :=
  (fraction ++ List.replicate (scaleDigits - fraction.length) 48).take scaleDigits

def parseDecimalToScaledBigInt (value : JsText) (scale : Nat) (options : DecimalOptions) :
    Except String Int :=
  let text := cleanDecimalInput value
  if text.isEmpty then .error (options.fieldName ++ " is required.")
  else
    match decimalParts text with
    | none => .error (options.fieldName ++ " must be a non-negative decimal number.")
    | some (wholePart, rawFraction) =>
        match options.exceeded rawFraction with
        | some most =>
            .error (options.fieldName ++ " supports at most " ++ toString most ++
              " decimal place" ++ (if most = 1 then "" else "s") ++ ".")
        | none =>
            let scaleDigits := (Nat.toDigits 10 scale).length - 1
            if scale ≠ 10 ^ scaleDigits then .error "scale must be a power of ten"
            else
              let parsed := bigInt wholePart * scale +
                bigInt (scaledFraction scaleDigits rawFraction)
              if options.allowZero = false ∧ parsed = 0 then
                .error (options.fieldName ++ " must be greater than zero.")
              else .ok parsed

/-! ## Integers -/

def ceilDiv (numerator denominator : Int) : Except String Int :=
  if denominator ≤ 0 then .error "denominator must be positive"
  else if numerator ≤ 0 then .ok 0
  else .ok ((numerator + denominator - 1).tdiv denominator)

def nonNegativeBigInt (value : Int) (fieldName : String) : Except String Int :=
  if value < 0 then .error (fieldName ++ " must be non-negative.") else .ok value

def calculateAgeBonusMaturityShareBasisPoints (ageBonusBasisPoints : Int) : Except String Int :=
  match nonNegativeBigInt ageBonusBasisPoints "Age bonus" with
  | .error thrown => .error thrown
  | .ok ageBonus =>
      if ageBonus = 0 then .ok 0 else .ok ((ageBonus * 10000).tdiv (10000 + ageBonus))

def calculateEffectiveApyBasisPoints (annualApyBasisPoints ageBonusBasisPoints : Int) :
    Except String Int :=
  match nonNegativeBigInt annualApyBasisPoints "APY" with
  | .error thrown => .error thrown
  | .ok apy =>
      match nonNegativeBigInt ageBonusBasisPoints "Age bonus" with
      | .error thrown => .error thrown
      | .ok ageBonus =>
          if apy = 0 ∨ ageBonus = 0 then .ok apy
          else .ok ((apy * 10000).tdiv (10000 + ageBonus))

/-! ## The inputs -/

/-- The raw inputs: a decimal is its `String`, an integer what `BigInt` makes of it or the message
that it throws, and `none` stands for `undefined`. -/
structure SimulatorRaw where
  assumedIcpPrice : JsText
  dailyBurnTrillionCycles : Option JsText
  dailyBurnCycles : Option JsText
  icpCommitment : JsText
  annualApyPercent : Option JsText
  annualBaseMaturityBasisPoints : Option (Except String Int)
  ageBonusBasisPoints : Option (Except String Int)

structure SimulatorInputs where
  assumedIcpPriceUnits : Int
  dailyBurnCycles : Int
  icpCommitmentE8s : Int
  annualApyBasisPoints : Int
  ageBonusBasisPoints : Int
  ageBonusMaturityShareBasisPoints : Int
  effectiveApyBasisPoints : Int
  deriving DecidableEq, Repr

def parsePrice (raw : SimulatorRaw) : Except String Int :=
  parseDecimalToScaledBigInt raw.assumedIcpPrice 10000 ⟨false, some 1, "Assumed ICP/XDR price"⟩

def parseDailyBurn (raw : SimulatorRaw) : Except String Int :=
  parseDecimalToScaledBigInt ((raw.dailyBurnTrillionCycles.or raw.dailyBurnCycles).getD [])
    trillionCycles ⟨true, some 4, "Daily burn in T cycles"⟩

def parseCommitment (icpCommitment : JsText) : Except String Int :=
  parseDecimalToScaledBigInt icpCommitment 100000000 ⟨false, some 1, "ICP endowment"⟩

def parseApyBasisPoints (raw : SimulatorRaw) : Except String Int :=
  match raw.annualApyPercent with
  | some percent =>
      match parseDecimalToScaledBigInt percent 10 ⟨true, some 1, "APY"⟩ with
      | .error thrown => .error thrown
      | .ok tenthsOfPercent => .ok (tenthsOfPercent * 10)
  | none => raw.annualBaseMaturityBasisPoints.getD (.ok defaultAnnualApyBasisPoints)

def parseAgeBonus (raw : SimulatorRaw) : Except String Int := raw.ageBonusBasisPoints.getD (.ok 0)

/-- A `try` block: the value it assigns, and what it pushes to the errors. -/
structure Attempt where
  value : Int
  errors : List String

def attempt (default : Int) (result : Except String Int) (complaints : Int → List String) :
    Attempt :=
  match result with
  | .error thrown => ⟨default, [thrown]⟩
  | .ok value => ⟨value, complaints value⟩

def complainBelow (least : Int) (message : String) (value : Int) : List String :=
  if value < least then [message] else []

def normaliseSimulatorInputs (raw : SimulatorRaw) :
    Except String (Except (List String) SimulatorInputs) :=
  let price := attempt 0 (parsePrice raw) fun _ => []
  let burn := attempt 0 (parseDailyBurn raw) fun _ => []
  let commitment := attempt 0 (parseCommitment raw.icpCommitment)
    (complainBelow e8sPerIcp "ICP endowment must be at least 1 ICP.")
  let apy := attempt defaultAnnualApyBasisPoints (parseApyBasisPoints raw)
    (complainBelow 0 "APY must be non-negative.")
  let ageBonus := attempt 0 (parseAgeBonus raw) (complainBelow 0 "Age bonus must be non-negative.")
  let errors := price.errors ++ burn.errors ++ commitment.errors ++ apy.errors ++ ageBonus.errors
  if errors ≠ [] then .ok (.error errors)
  else
    match calculateAgeBonusMaturityShareBasisPoints ageBonus.value,
      calculateEffectiveApyBasisPoints apy.value ageBonus.value with
    | .error thrown, _ => .error thrown
    | _, .error thrown => .error thrown
    | .ok share, .ok effective =>
        .ok (.ok ⟨price.value, burn.value, commitment.value, apy.value, ageBonus.value, share,
          effective⟩)

/-! ## The projection -/

structure ProjectionBucket where
  key : String
  label : String
  startMs : Nat
  projectedTopupCycles : Int
  projectedTopupE8s : Int
  projectedBurnCycles : Int
  projectedBalanceCycles : Int
  deriving DecidableEq, Repr

structure ProjectionSummary where
  cyclesPerIcp : Int
  annualApyBasisPoints : Int
  ageBonusBasisPoints : Int
  ageBonusMaturityShareBasisPoints : Int
  effectiveApyBasisPoints : Int
  annualTopupE8s : Int
  annualTopupCycles : Int
  annualBurnCycles : Int
  weeklyTopupE8s : Int
  weeklyTopupCycles : Int
  weeklyBurnCycles : Int
  initialPayoutCycles : Int
  yearEndBalanceCycles : Int
  requiredCommitmentE8s : Option Int
  isSustainableAtCurrentBurn : Bool
  deriving DecidableEq, Repr

structure SimulatorProjection where
  inputs : SimulatorInputs
  buckets : List ProjectionBucket
  summary : ProjectionSummary
  deriving DecidableEq, Repr

def requiredCommitmentE8s (annualBurnCycles cyclesPerIcp effectiveApyBasisPoints : Int) :
    Except String (Option Int) :=
  if annualBurnCycles = 0 then .ok (some e8sPerIcp)
  else if cyclesPerIcp ≤ 0 ∨ effectiveApyBasisPoints ≤ 0 then .ok none
  else
    match ceilDiv (annualBurnCycles * e8sPerIcp) cyclesPerIcp with
    | .error thrown => .error thrown
    | .ok requiredTopupE8s =>
        match ceilDiv (requiredTopupE8s * 10000) effectiveApyBasisPoints with
        | .error thrown => .error thrown
        | .ok requiredCommitment =>
            .ok (some (if requiredCommitment < e8sPerIcp then e8sPerIcp else requiredCommitment))

/-- The part of an annual amount that falls into the first weeks. -/
def cumulative (annual : Int) (weekNumber : Nat) : Int :=
  (annual * weekNumber).tdiv projectionWeeks

def projectionBucket (annualTopupCycles annualTopupE8s annualBurnCycles initialPayoutCycles : Int)
    (index : Nat) : ProjectionBucket where
  key := "week-" ++ toString (index + 1)
  label := "W" ++ toString (index + 1)
  startMs := index
  projectedTopupCycles :=
    cumulative annualTopupCycles (index + 1) - cumulative annualTopupCycles index
  projectedTopupE8s := cumulative annualTopupE8s (index + 1) - cumulative annualTopupE8s index
  projectedBurnCycles :=
    cumulative annualBurnCycles (index + 1) - cumulative annualBurnCycles index
  projectedBalanceCycles := initialPayoutCycles + cumulative annualTopupCycles (index + 1) -
    cumulative annualBurnCycles (index + 1)

def projectInputs (inputs : SimulatorInputs) : Except String SimulatorProjection :=
  let cyclesPerIcp := (cyclesPerPriceUnit * inputs.assumedIcpPriceUnits).tdiv 10000
  let annualTopupE8s := (inputs.icpCommitmentE8s * inputs.effectiveApyBasisPoints).tdiv 10000
  let annualTopupCycles := (annualTopupE8s * cyclesPerIcp).tdiv e8sPerIcp
  let annualBurnCycles := inputs.dailyBurnCycles * 365
  match requiredCommitmentE8s annualBurnCycles cyclesPerIcp inputs.effectiveApyBasisPoints with
  | .error thrown => .error thrown
  | .ok required =>
      let weeklyTopupCycles := annualTopupCycles.tdiv projectionWeeks
      let initialPayoutCycles := weeklyTopupCycles
      .ok
        { inputs
          buckets := (List.range projectionWeeks).map
            (projectionBucket annualTopupCycles annualTopupE8s annualBurnCycles
              initialPayoutCycles)
          summary :=
            { cyclesPerIcp
              annualApyBasisPoints := inputs.annualApyBasisPoints
              ageBonusBasisPoints := inputs.ageBonusBasisPoints
              ageBonusMaturityShareBasisPoints := inputs.ageBonusMaturityShareBasisPoints
              effectiveApyBasisPoints := inputs.effectiveApyBasisPoints
              annualTopupE8s
              annualTopupCycles
              annualBurnCycles
              weeklyTopupE8s := annualTopupE8s.tdiv projectionWeeks
              weeklyTopupCycles
              weeklyBurnCycles := annualBurnCycles.tdiv projectionWeeks
              initialPayoutCycles
              yearEndBalanceCycles := initialPayoutCycles + annualTopupCycles - annualBurnCycles
              requiredCommitmentE8s := required
              isSustainableAtCurrentBurn := decide (annualBurnCycles ≤ annualTopupCycles) } }

def buildSimulatorProjection (raw : SimulatorRaw) :
    Except String (Except (List String) SimulatorProjection) :=
  match normaliseSimulatorInputs raw with
  | .error thrown => .error thrown
  | .ok (.error errors) => .ok (.error errors)
  | .ok (.ok inputs) =>
      match projectInputs inputs with
      | .error thrown => .error thrown
      | .ok projection => .ok (.ok projection)

end JupiterSuite.Frontend
