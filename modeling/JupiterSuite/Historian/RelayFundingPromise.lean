import JupiterSuite.Historian.RelayFactory

/-! What a relay setup is priced with covers what is asked for after the conversion. -/

namespace JupiterSuite.Historian

open Base

variable {required conversion : Nat}

section Prices

variable {config : FactoryConfig} {targetCount feeE8s rate : Nat}

theorem orError_ok {α : Type} {value : Option α} {message : String} {result : α} :
    orError value message = .ok result ↔ value = some result := by
  cases value with
  | none =>
      constructor
      · intro ok
        cases ok
      · intro present
        cases present
  | some other =>
      constructor
      · intro ok
        rw [Except.ok.inj ok]
      · intro present
        rw [Option.some.inj present]
        rfl

/-- What the requirement adds up, none of which overflows. -/
structure RequirementParts (config : FactoryConfig) (targetCount feeE8s rate required : Nat)
    (extra conversion : Nat) : Prop where
  charged : extraTargetChargeOf targetCount = .ok extra
  converts : cmcConversionE8s config rate = .ok conversion
  live : conversion + config.relayCycleSafetyMarginE8s + config.relayMinSubaccountOneSeedE8s +
    feeE8s * 2 ≤ u64Max
  sum : max config.relaySetupMinE8s (conversion + config.relayCycleSafetyMarginE8s +
    config.relayMinSubaccountOneSeedE8s + feeE8s * 2) + extra = required
  fits : required ≤ u64Max

theorem requirement_parts
    (accepted : currentRequirementE8s config targetCount feeE8s rate = .ok required) :
    ∃ extra conversion,
      RequirementParts config targetCount feeE8s rate required extra conversion := by
  rw [currentRequirementE8s] at accepted
  cases extra : extraTargetChargeOf targetCount with
  | error message =>
      rw [extra] at accepted
      cases accepted
  | ok charge =>
      cases converted : cmcConversionE8s config rate with
      | error message =>
          rw [extra, converted] at accepted
          cases accepted
      | ok conversion =>
          rw [extra, converted] at accepted
          dsimp only at accepted
          split at accepted
          · cases accepted
          · rename_i live computed
            have total := checkedAdd_eq_some.mp (orError_ok.mp accepted)
            simp only [Option.bind_eq_bind, Option.bind_eq_some_iff, checkedAdd_eq_some,
              checkedMul_eq_some] at computed
            obtain ⟨withMargin, ⟨_, rfl⟩, withSeed, ⟨_, rfl⟩, fees, ⟨_, rfl⟩, bound, rfl⟩ := computed
            exact ⟨charge, conversion, extra, converted, bound, total.2.symm, total.2 ▸ total.1⟩

theorem RequirementParts.minimum {extra : Nat}
    (parts : RequirementParts config targetCount feeE8s rate required extra conversion) :
    minimumFinalRelayFundingE8s config targetCount =
      .ok (config.relayMinSubaccountOneSeedE8s + config.relayCycleSafetyMarginE8s + extra) := by
  have live := parts.live
  have sum := parts.sum
  have fits := parts.fits
  have seed : checkedAdd u64Max config.relayMinSubaccountOneSeedE8s
      config.relayCycleSafetyMarginE8s =
      some (config.relayMinSubaccountOneSeedE8s + config.relayCycleSafetyMarginE8s) :=
    checkedAdd_eq_some.mpr ⟨by omega, rfl⟩
  have whole : checkedAdd u64Max
      (config.relayMinSubaccountOneSeedE8s + config.relayCycleSafetyMarginE8s) extra =
      some (config.relayMinSubaccountOneSeedE8s + config.relayCycleSafetyMarginE8s + extra) :=
    checkedAdd_eq_some.mpr ⟨by omega, rfl⟩
  rw [minimumFinalRelayFundingE8s, parts.charged]
  simp only [Option.bind_eq_bind, seed, Option.bind_some, whole]
  rfl

theorem RequirementParts.covers {extra balance : Nat}
    (parts : RequirementParts config targetCount feeE8s rate required extra conversion)
    (enough : required ≤ balance) :
    conversion + feeE8s + (feeE8s +
      (config.relayMinSubaccountOneSeedE8s + config.relayCycleSafetyMarginE8s + extra)) ≤
      balance := by
  have sum := parts.sum
  omega

end Prices

/-- The promise of setups priced at `required` with this fee and this rate: below the price they
are refused; at the price, what the conversion and its fee leave pays for the funding of the
relay. -/
structure FundingPromise (env : FactoryEnv) (config : FactoryConfig)
    (targetCount feeE8s rate required conversion minimum : Nat) : Prop where
  converts : cmcConversionE8s config rate = .ok conversion
  promises : minimumFinalRelayFundingE8s config targetCount = .ok minimum
  covered : ∀ balance, required ≤ balance →
    conversion + feeE8s ≤ balance ∧ feeE8s + minimum ≤ balance - (conversion + feeE8s)
  refuses : ∀ st now work balance, work.config = config →
    work.setup.targetCount = targetCount → balance < required →
    ∃ result, onRate env st now work balance feeE8s (.ok rate) = work.stop st result
  spends : ∀ st now work next arg, work.config = config →
    (prepareConversion env st now work ⟨feeE8s, rate⟩).2 = .convert next arg →
    arg.amount = conversion ∧ arg.fee = some feeE8s
  funds : ∀ st now work relay balance left, work.config = config →
    work.setup.targetCount = targetCount → required ≤ balance →
    balance ≤ left + (conversion + feeE8s) →
    onFundingFee env st now work relay left (.ok feeE8s) =
      requirePhase env st work .codeInstalled fun _ =>
        updateProgress env st work .codeInstalled
          (fun progress => { progress with
            phase := .relayFundingPrepared
            relayFundingTransfer := some ⟨left - feeE8s, feeE8s, now, none⟩ })
          fun st _ => (st, .fund work (factoryTransferArg work.key
            ⟨relay, some relaySubaccountOne⟩ ⟨left - feeE8s, feeE8s, now, none⟩ none))

theorem onRate_refuses (env : FactoryEnv) (st : FactoryState) (now : Nat) (work : FactoryWork)
    {balance feeE8s rate : Nat}
    (priced : currentRequirementE8s work.config work.setup.targetCount feeE8s rate = .ok required)
    (short : balance < required) :
    ∃ result, onRate env st now work balance feeE8s (.ok rate) = work.stop st result := by
  rw [onRate]
  split
  · exact ⟨_, rfl⟩
  · rw [priced]
    dsimp only
    rw [if_pos short]
    exact ⟨_, rfl⟩

section Pauses

variable (env : FactoryEnv) {st : FactoryState} {work : FactoryWork} {pause : FactoryPause}

theorem requirePhase_pause {expected : RelayCreationPhase}
    {next : RelayCreationProgress → FactoryStep}
    (ended : (requirePhase env st work expected next).2 = pause) :
    (∃ result, pause = .done result) ∨ ∃ progress, (next progress).2 = pause := by
  rw [requirePhase] at ended
  split at ended
  · split at ended
    · exact Or.inr ⟨_, ended⟩
    · exact Or.inl ⟨_, ended.symm⟩
  · exact Or.inl ⟨_, ended.symm⟩
  · exact Or.inl ⟨_, ended.symm⟩

theorem orTrap_pause {value : Option FactoryState} {next : FactoryState → FactoryStep}
    (ended : (orTrap st value next).2 = pause) :
    pause = .trap .creatingIndex ∨ ∃ st', (next st').2 = pause := by
  cases value with
  | none => exact Or.inl ended.symm
  | some st' => exact Or.inr ⟨st', ended⟩

theorem releaseReservation_pause {expected : RelayCreationPhase}
    {result : RelaySetupNotifyResult}
    (ended : (releaseReservation st work expected result).2 = pause) :
    pause = .trap .creatingIndex ∨ pause = .done result := by
  rcases orTrap_pause ended with trapped | ⟨st', done⟩
  · exact Or.inl trapped
  · exact Or.inr done.symm

end Pauses

theorem prepareConversion_spends (env : FactoryEnv) (st : FactoryState) (now : Nat)
    (work : FactoryWork) {feeE8s rate : Nat} {next : FactoryWork} {arg : TransferArg}
    (converts : cmcConversionE8s work.config rate = .ok conversion)
    (dispatched : (prepareConversion env st now work ⟨feeE8s, rate⟩).2 = .convert next arg) :
    arg.amount = conversion ∧ arg.fee = some feeE8s := by
  simp only [prepareConversion, converts] at dispatched
  split at dispatched
  · rcases releaseReservation_pause dispatched with trapped | done
    · cases trapped
    · cases done
  · rcases requirePhase_pause env dispatched with ⟨result, done⟩ | ⟨progress, inserted⟩
    · cases done
    · rcases orTrap_pause inserted with trapped | ⟨st', converted⟩
      · cases trapped
      · dsimp only at converted
        split at converted
        · cases converted
        · cases converted
          exact ⟨rfl, rfl⟩

theorem onFundingFee_funds (env : FactoryEnv) (st : FactoryState) (now : Nat)
    (work : FactoryWork) (relay : Principal) {left feeE8s minimum : Nat}
    (promises : minimumFinalRelayFundingE8s work.config work.setup.targetCount = .ok minimum)
    (enough : feeE8s + minimum ≤ left) :
    onFundingFee env st now work relay left (.ok feeE8s) =
      requirePhase env st work .codeInstalled fun _ =>
        updateProgress env st work .codeInstalled
          (fun progress => { progress with
            phase := .relayFundingPrepared
            relayFundingTransfer := some ⟨left - feeE8s, feeE8s, now, none⟩ })
          fun st _ => (st, .fund work (factoryTransferArg work.key
            ⟨relay, some relaySubaccountOne⟩ ⟨left - feeE8s, feeE8s, now, none⟩ none)) := by
  have affordable : checkedSub left feeE8s = some (left - feeE8s) :=
    checkedSub_eq_some.mpr ⟨by omega, rfl⟩
  have sufficient : minimum ≤ left - feeE8s := by omega
  simp only [onFundingFee, promises, affordable, if_pos sufficient]

theorem relay_funding_promise (env : FactoryEnv) (config : FactoryConfig)
    (targetCount feeE8s rate required : Nat)
    (priced : currentRequirementE8s config targetCount feeE8s rate = .ok required) :
    ∃ conversion minimum,
      FundingPromise env config targetCount feeE8s rate required conversion minimum := by
  obtain ⟨extra, conversion, parts⟩ := requirement_parts priced
  refine ⟨conversion, _,
    { converts := parts.converts
      promises := parts.minimum
      covered := ?_
      refuses := ?_
      spends := ?_
      funds := ?_ }⟩
  · intro balance enough
    have covers := parts.covers enough
    omega
  · rintro st now work balance rfl rfl short
    exact onRate_refuses env st now work priced short
  · rintro st now work next arg rfl dispatched
    exact prepareConversion_spends env st now work parts.converts dispatched
  · rintro st now work relay balance left rfl rfl enough remains
    have covers := parts.covers enough
    apply onFundingFee_funds env st now work relay parts.minimum
    omega

section Sample

def pricedConfig : FactoryConfig where
  ledgerCanisterId := ⟨[40]⟩
  indexCanisterId := ⟨[41]⟩
  cmcCanisterId := some ⟨[42]⟩
  relayFactoryEnabled := true
  relaySetupMinE8s := 300000000
  relayInitialCycles := 2000000000000
  relayCycleSafetyMarginE8s := 5000000
  relayMinSubaccountOneSeedE8s := 100020000
  canonicalRelayCanisterId := none
  canonicalRelayTargets := []

def pricedEnv : FactoryEnv where
  historian := ⟨[50]⟩
  sha256 _ := []
  principalText _ := ""
  debugTransferError _ := ""

/-- At one XDR for an ICP the live price decides, for a fee of 10000. -/
theorem relay_funding_promise_live :
    currentRequirementE8s pricedConfig 2 10000 10000 = .ok 335040000 ∧
      ∃ conversion minimum,
        FundingPromise pricedEnv pricedConfig 2 10000 10000 335040000 conversion minimum :=
  ⟨by decide +kernel, relay_funding_promise pricedEnv pricedConfig 2 10000 10000 335040000
    (by decide +kernel)⟩

end Sample

end JupiterSuite.Historian
