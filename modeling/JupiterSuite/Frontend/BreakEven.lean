import JupiterSuite.Frontend.ProjectionSimulator
import Mathlib.Algebra.BigOperators.Group.List.Basic

/-! The endowment that the simulator requires is the break-even of its own projection, and its
weeks add up to the year. -/

namespace JupiterSuite.Frontend

open Memo.Frontend

/-! ## Ceilings and floors -/

theorem ceilDiv_le_iff {numerator denominator ceiling amount : Int}
    (divided : ceilDiv numerator denominator = .ok ceiling) (nonneg : 0 ≤ amount) :
    ceiling ≤ amount ↔ numerator ≤ amount * denominator := by
  rw [ceilDiv] at divided
  split at divided
  · cases divided
  · rename_i positive
    have product : 0 ≤ amount * denominator := Int.mul_nonneg nonneg (by omega)
    split at divided
    · rename_i nothing
      cases divided
      constructor
      · intro _
        omega
      · intro _
        exact nonneg
    · cases divided
      rw [Int.tdiv_eq_ediv_of_nonneg (by omega), ← Int.lt_add_one_iff, Int.ediv_lt_iff_lt_mul (by omega),
        Int.add_mul, Int.one_mul]
      omega

theorem ceilDiv_ok (numerator : Int) {denominator : Int} (positive : 0 < denominator) :
    ∃ ceiling, ceilDiv numerator denominator = .ok ceiling := by
  rw [ceilDiv, if_neg (by omega)]
  split
  · exact ⟨_, rfl⟩
  · exact ⟨_, rfl⟩

/-! ## Accepted inputs -/

/-- The parts of the inputs that the simulator accepts, and where each comes from. -/
structure AcceptedInputs (raw : SimulatorRaw) (inputs : SimulatorInputs) : Prop where
  price : parsePrice raw = .ok inputs.assumedIcpPriceUnits
  burn : parseDailyBurn raw = .ok inputs.dailyBurnCycles
  commitment : parseCommitment raw.icpCommitment = .ok inputs.icpCommitmentE8s
  atLeastOneIcp : e8sPerIcp ≤ inputs.icpCommitmentE8s
  apy : parseApyBasisPoints raw = .ok inputs.annualApyBasisPoints
  apy_nonneg : 0 ≤ inputs.annualApyBasisPoints
  ageBonus : parseAgeBonus raw = .ok inputs.ageBonusBasisPoints
  ageBonus_nonneg : 0 ≤ inputs.ageBonusBasisPoints
  share : calculateAgeBonusMaturityShareBasisPoints inputs.ageBonusBasisPoints =
    .ok inputs.ageBonusMaturityShareBasisPoints
  effective : calculateEffectiveApyBasisPoints inputs.annualApyBasisPoints
    inputs.ageBonusBasisPoints = .ok inputs.effectiveApyBasisPoints

theorem attempt_clean {default : Int} {result : Except String Int}
    {complaints : Int → List String} (clean : (attempt default result complaints).errors = []) :
    result = .ok (attempt default result complaints).value ∧
      complaints (attempt default result complaints).value = [] := by
  cases result with
  | error thrown => cases clean
  | ok value => exact ⟨rfl, clean⟩

theorem complainBelow_clean {least value : Int} {message : String}
    (clean : complainBelow least message value = []) : least ≤ value := by
  rw [complainBelow] at clean
  split at clean
  · cases clean
  · omega

theorem normalise_accepted (accepted : normaliseSimulatorInputs raw = .ok (.ok inputs)) :
    AcceptedInputs raw inputs := by
  simp only [normaliseSimulatorInputs] at accepted
  split at accepted
  · cases accepted
  · rename_i clean
    simp only [ne_eq, not_not, List.append_eq_nil_iff] at clean
    obtain ⟨⟨⟨⟨price, burn⟩, commitment⟩, apy⟩, ageBonus⟩ := clean
    have ⟨commitment, atLeastOneIcp⟩ := attempt_clean commitment
    have ⟨apy, apy_nonneg⟩ := attempt_clean apy
    have ⟨ageBonus, ageBonus_nonneg⟩ := attempt_clean ageBonus
    split at accepted
    · cases accepted
    · cases accepted
    · rename_i share effective
      cases accepted
      exact ⟨(attempt_clean price).1, (attempt_clean burn).1, commitment,
        complainBelow_clean atLeastOneIcp, apy, complainBelow_clean apy_nonneg, ageBonus,
        complainBelow_clean ageBonus_nonneg, share, effective⟩

theorem parseDecimal_nonneg {value : JsText} {scale : Nat} {options : DecimalOptions}
    {parsed : Int} (done : parseDecimalToScaledBigInt value scale options = .ok parsed) :
    0 ≤ parsed ∧ (options.allowZero = false → 0 < parsed) := by
  simp only [parseDecimalToScaledBigInt] at done
  split at done
  · cases done
  · split at done
    · cases done
    · split at done
      · cases done
      · split at done
        · cases done
        · split at done
          · cases done
          · rename_i allowed
            cases done
            refine ⟨Int.natCast_nonneg _, ?_⟩
            intro refused
            have different := not_and.mp allowed refused
            exact Int.natCast_pos.mpr (Nat.pos_of_ne_zero different)

theorem nonNegativeBigInt_ok {value : Int} (nonneg : 0 ≤ value) (fieldName : String) :
    nonNegativeBigInt value fieldName = .ok value :=
  if_neg (by omega)

theorem effectiveApy_eq {apy ageBonus : Int} (apy_nonneg : 0 ≤ apy)
    (ageBonus_nonneg : 0 ≤ ageBonus) : calculateEffectiveApyBasisPoints apy ageBonus =
      .ok (if apy = 0 ∨ ageBonus = 0 then apy else (apy * 10000).tdiv (10000 + ageBonus)) := by
  simp only [calculateEffectiveApyBasisPoints, nonNegativeBigInt_ok apy_nonneg,
    nonNegativeBigInt_ok ageBonus_nonneg]
  split
  · rfl
  · rfl

theorem AcceptedInputs.effective_nonneg (accepted : AcceptedInputs raw inputs) :
    0 ≤ inputs.effectiveApyBasisPoints := by
  have effective := accepted.effective
  have apy := accepted.apy_nonneg
  have ageBonus := accepted.ageBonus_nonneg
  rw [effectiveApy_eq apy ageBonus] at effective
  have value := Except.ok.inj effective
  split at value
  · omega
  · rw [← value, Int.tdiv_eq_ediv_of_nonneg (by omega)]
    exact Int.ediv_nonneg (by omega) (by omega)

theorem AcceptedInputs.same {other : SimulatorInputs} {icpCommitment : JsText}
    (accepted : AcceptedInputs raw inputs) (again : AcceptedInputs { raw with icpCommitment } other) :
    other = { inputs with icpCommitmentE8s := other.icpCommitmentE8s } := by
  have price := Except.ok.inj (accepted.price.symm.trans again.price)
  have burn := Except.ok.inj (accepted.burn.symm.trans again.burn)
  have apy := Except.ok.inj (accepted.apy.symm.trans again.apy)
  have ageBonus := Except.ok.inj (accepted.ageBonus.symm.trans again.ageBonus)
  have share := accepted.share
  have effective := accepted.effective
  rw [ageBonus, again.share] at share
  rw [apy, ageBonus, again.effective] at effective
  rw [price, burn, apy, ageBonus, ← Except.ok.inj share, ← Except.ok.inj effective]

/-! ## The break-even -/

section BreakEven

variable {commitment apy cyclesPerIcp burn : Int}

/-- What the endowment earns covers the burn exactly from the required endowment on: each floor of
the projection is undone by the ceiling that mirrors it. -/
theorem required_break_even {requiredTopup required : Int} (commitment_nonneg : 0 ≤ commitment)
    (apy_nonneg : 0 ≤ apy) (cycles_nonneg : 0 ≤ cyclesPerIcp)
    (topup : ceilDiv (burn * e8sPerIcp) cyclesPerIcp = .ok requiredTopup)
    (endowment : ceilDiv (requiredTopup * 10000) apy = .ok required) :
    burn ≤ ((commitment * apy).tdiv 10000 * cyclesPerIcp).tdiv e8sPerIcp ↔
      required ≤ commitment := by
  have earned : 0 ≤ commitment * apy := Int.mul_nonneg commitment_nonneg apy_nonneg
  have topup_nonneg : 0 ≤ commitment * apy / 10000 := Int.ediv_nonneg earned (by decide)
  have cycles : 0 ≤ commitment * apy / 10000 * cyclesPerIcp :=
    Int.mul_nonneg topup_nonneg cycles_nonneg
  rw [Int.tdiv_eq_ediv_of_nonneg earned, Int.tdiv_eq_ediv_of_nonneg cycles]
  calc burn ≤ commitment * apy / 10000 * cyclesPerIcp / e8sPerIcp
      ↔ burn * e8sPerIcp ≤ commitment * apy / 10000 * cyclesPerIcp :=
        Int.le_ediv_iff_mul_le (by decide)
    _ ↔ requiredTopup ≤ commitment * apy / 10000 := (ceilDiv_le_iff topup topup_nonneg).symm
    _ ↔ requiredTopup * 10000 ≤ commitment * apy := Int.le_ediv_iff_mul_le (by decide)
    _ ↔ required ≤ commitment := (ceilDiv_le_iff endowment commitment_nonneg).symm

/-- The required endowment is the threshold of sustainability, and there is none when no endowment
would do. -/
theorem required_threshold {answer : Option Int} (least : e8sPerIcp ≤ commitment)
    (apy_nonneg : 0 ≤ apy) (cycles_positive : 0 < cyclesPerIcp) (burn_nonneg : 0 ≤ burn)
    (done : requiredCommitmentE8s burn cyclesPerIcp apy = .ok answer) :
    burn ≤ ((commitment * apy).tdiv 10000 * cyclesPerIcp).tdiv e8sPerIcp ↔
      ∃ required, answer = some required ∧ required ≤ commitment := by
  have commitment_nonneg : 0 ≤ commitment := Int.le_trans (by decide) least
  simp only [requiredCommitmentE8s] at done
  split at done
  · rename_i idle
    cases done
    have earned : 0 ≤ commitment * apy := Int.mul_nonneg commitment_nonneg apy_nonneg
    have topup : 0 ≤ (commitment * apy).tdiv 10000 := Int.tdiv_nonneg earned (by decide)
    have cycles : 0 ≤ ((commitment * apy).tdiv 10000 * cyclesPerIcp).tdiv e8sPerIcp :=
      Int.tdiv_nonneg (Int.mul_nonneg topup (by omega)) (by decide)
    constructor
    · intro _
      exact ⟨_, rfl, least⟩
    · intro _
      rw [idle]
      exact cycles
  · rename_i burning
    split at done
    · rename_i unpaid
      cases done
      have nothing : apy = 0 := by omega
      constructor
      · intro covered
        rw [nothing, Int.mul_zero, Int.zero_tdiv, Int.zero_mul, Int.zero_tdiv] at covered
        omega
      · rintro ⟨required, absent, _⟩
        cases absent
    · split at done
      · cases done
      · rename_i requiredTopup topup
        split at done
        · cases done
        · rename_i required endowment
          cases done
          have even := required_break_even commitment_nonneg apy_nonneg
            (Int.le_of_lt cycles_positive) topup endowment
          rw [even]
          constructor
          · intro reached
            refine ⟨_, rfl, ?_⟩
            split
            · exact least
            · exact reached
          · rintro ⟨clamped, same, reached⟩
            have same := Option.some.inj same
            split at same
            · omega
            · omega

theorem requiredCommitment_ok (burn cyclesPerIcp apy : Int) :
    ∃ answer, requiredCommitmentE8s burn cyclesPerIcp apy = .ok answer := by
  rw [requiredCommitmentE8s]
  split
  · exact ⟨_, rfl⟩
  · split
    · exact ⟨_, rfl⟩
    · rename_i paid
      have priced : 0 < cyclesPerIcp := by omega
      have earning : 0 < apy := by omega
      obtain ⟨topup, topup_done⟩ := ceilDiv_ok (burn * e8sPerIcp) priced
      obtain ⟨required, required_done⟩ := ceilDiv_ok (topup * 10000) earning
      rw [topup_done]
      dsimp only
      rw [required_done]
      exact ⟨_, rfl⟩

end BreakEven

/-! ## The weeks -/

theorem cumulative_year (annual : Int) : cumulative annual projectionWeeks = annual :=
  Int.mul_tdiv_cancel annual (by decide)

theorem sum_steps (amount : Nat → Int) (weeks : Nat) :
    ((List.range weeks).map fun index => amount (index + 1) - amount index).sum =
      amount weeks - amount 0 := by
  induction weeks with
  | zero => simp
  | succ weeks ih =>
      rw [List.range_succ, List.map_append, List.sum_append, ih, List.map_singleton,
        List.sum_singleton]
      omega

theorem sum_year (annual : Int) :
    ((List.range projectionWeeks).map fun index =>
      cumulative annual (index + 1) - cumulative annual index).sum = annual := by
  have start : cumulative annual 0 = 0 := by
    rw [cumulative, Int.natCast_zero, Int.mul_zero, Int.zero_tdiv]
  rw [sum_steps, cumulative_year, start, Int.sub_zero]

/-- What a projection promises about the inputs that it was built from. -/
structure ExactProjection (raw : SimulatorRaw) (projection : SimulatorProjection) : Prop where
  entered : parseCommitment raw.icpCommitment = .ok projection.inputs.icpCommitmentE8s
  threshold : projection.summary.isSustainableAtCurrentBurn = true ↔
    ∃ required, projection.summary.requiredCommitmentE8s = some required ∧
      required ≤ projection.inputs.icpCommitmentE8s
  independent : ∀ icpCommitment other,
    buildSimulatorProjection { raw with icpCommitment } = .ok (.ok other) →
      other.summary.requiredCommitmentE8s = projection.summary.requiredCommitmentE8s
  topupCycles : (projection.buckets.map ProjectionBucket.projectedTopupCycles).sum =
    projection.summary.annualTopupCycles
  topupE8s : (projection.buckets.map ProjectionBucket.projectedTopupE8s).sum =
    projection.summary.annualTopupE8s
  burnCycles : (projection.buckets.map ProjectionBucket.projectedBurnCycles).sum =
    projection.summary.annualBurnCycles
  yearEnd : projection.buckets.getLast?.map ProjectionBucket.projectedBalanceCycles =
    some projection.summary.yearEndBalanceCycles

theorem build_accepted (built : buildSimulatorProjection raw = .ok (.ok projection)) :
    ∃ inputs, AcceptedInputs raw inputs ∧ projectInputs inputs = .ok projection := by
  rw [buildSimulatorProjection] at built
  split at built
  · cases built
  · cases built
  · rename_i inputs accepted
    split at built
    · cases built
    · rename_i projected
      cases built
      exact ⟨inputs, normalise_accepted accepted, projected⟩

theorem projectInputs_required (projected : projectInputs inputs = .ok projection) :
    requiredCommitmentE8s (inputs.dailyBurnCycles * 365)
      ((cyclesPerPriceUnit * inputs.assumedIcpPriceUnits).tdiv 10000)
      inputs.effectiveApyBasisPoints = .ok projection.summary.requiredCommitmentE8s := by
  simp only [projectInputs] at projected
  split at projected
  · cases projected
  · rename_i required done
    cases projected
    exact done

theorem projectInputs_exact (accepted : AcceptedInputs raw inputs)
    (projected : projectInputs inputs = .ok projection) : ExactProjection raw projection := by
  have price := (parseDecimal_nonneg accepted.price).2 rfl
  have burn := (parseDecimal_nonneg accepted.burn).1
  have cycles : (cyclesPerPriceUnit * inputs.assumedIcpPriceUnits).tdiv 10000 =
      100000000 * inputs.assumedIcpPriceUnits := by
    rw [cyclesPerPriceUnit, Int.tdiv_eq_ediv_of_nonneg (by omega)]
    omega
  have required := projectInputs_required projected
  have threshold := required_threshold accepted.atLeastOneIcp accepted.effective_nonneg
    (by omega) (by omega) required
  have independent : ∀ icpCommitment other,
      buildSimulatorProjection { raw with icpCommitment } = .ok (.ok other) →
        other.summary.requiredCommitmentE8s = projection.summary.requiredCommitmentE8s := by
    intro icpCommitment other built
    obtain ⟨inputs_again, again, projected_again⟩ := build_accepted built
    have required_again := projectInputs_required projected_again
    rw [accepted.same again, required] at required_again
    exact (Except.ok.inj required_again).symm
  have kept : projection.inputs = inputs := by
    simp only [projectInputs] at projected
    split at projected
    · cases projected
    · cases projected
      rfl
  simp only [projectInputs] at projected
  split at projected
  · cases projected
  · cases projected
    refine ⟨accepted.commitment, ?_, independent, ?_, ?_, ?_, ?_⟩
    · rw [decide_eq_true_iff]
      exact threshold
    · rw [List.map_map]
      exact sum_year _
    · rw [List.map_map]
      exact sum_year _
    · rw [List.map_map]
      exact sum_year _
    · rw [projectionWeeks, List.range_succ, List.map_append, List.map_singleton,
        List.getLast?_concat, Option.map_some]
      have last : ∀ annual, cumulative annual (51 + 1) = annual := cumulative_year
      simp only [projectionBucket, last]

theorem projectInputs_ok (inputs : SimulatorInputs) :
    ∃ projection, projectInputs inputs = .ok projection := by
  obtain ⟨answer, done⟩ := requiredCommitment_ok (inputs.dailyBurnCycles * 365)
    ((cyclesPerPriceUnit * inputs.assumedIcpPriceUnits).tdiv 10000) inputs.effectiveApyBasisPoints
  simp only [projectInputs, done]
  exact ⟨_, rfl⟩

theorem simulator_break_even (raw : SimulatorRaw) (projection : SimulatorProjection)
    (built : buildSimulatorProjection raw = .ok (.ok projection)) :
    ExactProjection raw projection := by
  obtain ⟨inputs, accepted, projected⟩ := build_accepted built
  exact projectInputs_exact accepted projected

/-- A price of 7.2, a burn of 0.5 T cycles a day, 1000 ICP at 7.0 percent, an age bonus of 25. -/
def sampleSimulation : SimulatorRaw where
  assumedIcpPrice := [55, 46, 50]
  dailyBurnTrillionCycles := some [48, 46, 53]
  dailyBurnCycles := none
  icpCommitment := [49, 44, 48, 48, 48]
  annualApyPercent := some [55, 46, 48]
  annualBaseMaturityBasisPoints := none
  ageBonusBasisPoints := some (.ok 2500)

def sampleSimulationInputs : SimulatorInputs :=
  ⟨72000, 500000000000, 100000000000, 700, 2500, 2000, 560⟩

theorem simulator_break_even_of_sample : ∃ projection,
    buildSimulatorProjection sampleSimulation = .ok (.ok projection) ∧
      projection.summary.requiredCommitmentE8s = some 45262896840 ∧
      ExactProjection sampleSimulation projection := by
  have accepted : normaliseSimulatorInputs sampleSimulation = .ok (.ok sampleSimulationInputs) := by
    decide +kernel
  obtain ⟨projection, projected⟩ := projectInputs_ok sampleSimulationInputs
  have built : buildSimulatorProjection sampleSimulation = .ok (.ok projection) := by
    simp only [buildSimulatorProjection, accepted, projected]
  have required := projectInputs_required projected
  have least : requiredCommitmentE8s (sampleSimulationInputs.dailyBurnCycles * 365)
      ((cyclesPerPriceUnit * sampleSimulationInputs.assumedIcpPriceUnits).tdiv 10000)
      sampleSimulationInputs.effectiveApyBasisPoints = .ok (some 45262896840) := by decide +kernel
  rw [least] at required
  exact ⟨projection, built, (Except.ok.inj required).symm,
    simulator_break_even sampleSimulation projection built⟩

end JupiterSuite.Frontend
