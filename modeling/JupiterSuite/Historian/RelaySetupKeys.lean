import JupiterSuite.Historian.RelayCanonicalLists
import JupiterSuite.Base.ByteLayout

/-! The key of a relay configuration stands for the sets of targets and recipients it was asked
with, because no two configurations are written the same. -/

namespace JupiterSuite.Historian

open Base Memo

def maxPrincipalBytes : Nat := 29

variable {recipients : List RelaySurplusRecipient} {targets : List Principal}

section Preimage

/-- A checked conversion to a byte. -/
def u8TryFrom (count : Nat) : Option UInt8 :=
  if count ≤ 255 then some (UInt8.ofNat count) else none

def checkedWithLength (bytes : List UInt8) : Option (List UInt8) :=
  (u8TryFrom bytes.length).map (· :: bytes)

def checkedRecipientPreimage : RelaySurplusRecipient → Option (List UInt8)
  | .principal principal memo => do
      let owner ← checkedWithLength principal.bytes
      let memo ← checkedWithLength memo
      some (1 :: owner ++ memo)
  | .neuron neuronId memo => do
      let memo ← checkedWithLength memo
      some (2 :: u64ToBeBytes neuronId ++ memo)

/-- The preimage with the conversions of every length to a byte, each of which may panic. -/
def checkedConfigurationPreimage (targets : List Principal)
    (surplusRecipients : List RelaySurplusRecipient) : Option (List UInt8) := do
  let targetCount ← u8TryFrom targets.length
  let recipientCount ← u8TryFrom surplusRecipients.length
  let targetSection ← targets.mapM fun target => checkedWithLength target.bytes
  let recipientSection ← surplusRecipients.mapM checkedRecipientPreimage
  some (relayConfigurationDomain ++ [1, targetCount] ++ targetSection.flatten ++
    [2, recipientCount] ++ recipientSection.flatten)

/-- A principal of at most 29 bytes and a neuron id of 64 bits. -/
def TypedRecipient : RelaySurplusRecipient → Prop
  | .principal principal _ => principal.bytes.length ≤ maxPrincipalBytes
  | .neuron neuronId _ => neuronId ≤ u64Max

structure TypedSetupArgs (args : RelaySetupArgs) : Prop where
  targets : ∀ target ∈ args.targetCanisterIds, target.bytes.length ≤ maxPrincipalBytes
  recipients : ∀ recipient ∈ args.surplusRecipients, TypedRecipient recipient

def ShortMemo : RelaySurplusRecipient → Prop
  | .principal _ memo => memo.length ≤ maxRelaySurplusMemoBytes
  | .neuron _ memo => memo.length ≤ maxRelaySurplusMemoBytes

theorem u8TryFrom_small {count : Nat} (small : count ≤ 255) :
    u8TryFrom count = some (UInt8.ofNat count) := if_pos small

theorem checkedWithLength_small {bytes : List UInt8} (small : bytes.length ≤ 255) :
    checkedWithLength bytes = some (withLength bytes) := by
  rw [checkedWithLength, u8TryFrom_small small]
  rfl

theorem checkedRecipientPreimage_typed {recipient : RelaySurplusRecipient}
    (typed : TypedRecipient recipient) (short : ShortMemo recipient) :
    checkedRecipientPreimage recipient = some (recipientPreimage recipient) := by
  cases recipient with
  | principal principal memo =>
      have owner : principal.bytes.length ≤ 255 := Nat.le_trans typed (by decide)
      have within : memo.length ≤ 255 := Nat.le_trans short (by decide)
      rw [checkedRecipientPreimage, checkedWithLength_small owner, checkedWithLength_small within]
      rfl
  | neuron neuronId memo =>
      have within : memo.length ≤ 255 := Nat.le_trans short (by decide)
      rw [checkedRecipientPreimage, checkedWithLength_small within]
      rfl

theorem mapM_some {α β : Type} {partially : α → Option β} {total : α → β} {items : List α}
    (defined : ∀ item ∈ items, partially item = some (total item)) :
    items.mapM partially = some (items.map total) := by
  induction items with
  | nil => rfl
  | cons item rest ih =>
      rw [List.mapM_cons, defined item List.mem_cons_self,
        ih fun later member => defined later (List.mem_cons_of_mem _ member)]
      rfl

theorem framed_byte : Framed (fun count => count ≤ 255) fun count => [UInt8.ofNat count] := by
  apply framed_fixed 1
  · intro count _
    rfl
  · intro one another first second same
    have bytes := ofNat_inj (List.head_eq_of_cons_eq same)
    omega

theorem framed_u64 : Framed (fun value => value ≤ u64Max) u64ToBeBytes := by
  apply framed_fixed 8
  · intro value _
    rfl
  · intro one another first second same
    exact u64ToBeBytes_injective first second same

theorem framed_withLength : Framed (fun bytes => bytes.length ≤ 255) withLength :=
  framed_byte.sized

theorem framed_principal :
    Framed (fun principal : Principal => principal.bytes.length ≤ maxPrincipalBytes)
      fun principal => withLength principal.bytes := by
  have short : Framed (fun bytes : List UInt8 => bytes.length ≤ maxPrincipalBytes) withLength :=
    framed_withLength.mono fun bytes short => Nat.le_trans short (by decide)
  apply short.comap
  rintro ⟨bytes⟩ ⟨others⟩ same
  exact congrArg Principal.mk same

theorem framed_recipient :
    Framed (fun recipient => TypedRecipient recipient ∧ ShortMemo recipient) recipientPreimage := by
  have memos : Framed (fun memo : List UInt8 => memo.length ≤ maxRelaySurplusMemoBytes)
      withLength := framed_withLength.mono fun memo short => Nat.le_trans short (by decide)
  intro one another first second rest other same
  cases one with
  | principal owner memo =>
      cases another with
      | principal owner' memo' =>
          have body := List.tail_eq_of_cons_eq same
          obtain ⟨rfl, rfl, behind⟩ := framed_principal.both memos first second body
          exact ⟨rfl, behind⟩
      | neuron _ _ => cases List.head_eq_of_cons_eq same
  | neuron neuronId memo =>
      cases another with
      | principal _ _ => cases List.head_eq_of_cons_eq same
      | neuron neuronId' memo' =>
          have body := List.tail_eq_of_cons_eq same
          obtain ⟨rfl, rfl, behind⟩ := framed_u64.both memos first second body
          exact ⟨rfl, behind⟩

def ValidTargets (targets : List Principal) : Prop :=
  targets.length ≤ 255 ∧ ∀ target ∈ targets, target.bytes.length ≤ maxPrincipalBytes

def ValidRecipients (recipients : List RelaySurplusRecipient) : Prop :=
  recipients.length ≤ 255 ∧
    ∀ recipient ∈ recipients, TypedRecipient recipient ∧ ShortMemo recipient

theorem configurationPreimage_eq (targets : List Principal)
    (recipients : List RelaySurplusRecipient) :
    configurationPreimage targets recipients = relayConfigurationDomain ++ (1 ::
      (([UInt8.ofNat targets.length] ++ targets.flatMap fun target => withLength target.bytes) ++
        (2 :: ([UInt8.ofNat recipients.length] ++ recipients.flatMap recipientPreimage)))) := by
  simp only [configurationPreimage, List.append_assoc, List.cons_append, List.nil_append]

theorem configurationPreimage_injective {targets' : List Principal}
    {recipients' : List RelaySurplusRecipient} (valid : ValidTargets targets)
    (valid' : ValidTargets targets') (wellFormed : ValidRecipients recipients)
    (wellFormed' : ValidRecipients recipients')
    (same : configurationPreimage targets recipients = configurationPreimage targets' recipients') :
    targets = targets' ∧ recipients = recipients' := by
  rw [configurationPreimage_eq, configurationPreimage_eq] at same
  have body := List.tail_eq_of_cons_eq (List.append_cancel_left same)
  have front := (framed_byte.list framed_principal) valid valid' body
  have back := List.tail_eq_of_cons_eq front.2
  exact ⟨front.1, (framed_byte.list framed_recipient).injective wellFormed wellFormed' back⟩

theorem checkedConfigurationPreimage_valid (valid : ValidTargets targets)
    (wellFormed : ValidRecipients recipients) :
    checkedConfigurationPreimage targets recipients =
      some (configurationPreimage targets recipients) := by
  have owners : ∀ target ∈ targets,
      checkedWithLength target.bytes = some (withLength target.bytes) := by
    intro target member
    exact checkedWithLength_small (Nat.le_trans (valid.2 target member) (by decide))
  have entries : ∀ recipient ∈ recipients,
      checkedRecipientPreimage recipient = some (recipientPreimage recipient) := by
    intro recipient member
    have typed := wellFormed.2 recipient member
    exact checkedRecipientPreimage_typed typed.1 typed.2
  rw [checkedConfigurationPreimage, u8TryFrom_small valid.1, u8TryFrom_small wellFormed.1,
    mapM_some owners, mapM_some entries]
  simp only [configurationPreimage, List.flatMap_def]
  rfl

end Preimage

theorem ok_map_iff {α β : Type} {view : α → β} (injective : Function.Injective view)
    {result : Except String α} {value : α} :
    result = .ok value ↔ result.map view = .ok (view value) := by
  cases result with
  | error text =>
      constructor
      · intro ok
        cases ok
      · intro ok
        cases ok
  | ok other =>
      constructor
      · intro ok
        rw [Except.ok.inj ok]
        rfl
      · intro ok
        exact congrArg Except.ok (injective (Except.ok.inj ok))

namespace CanonicalRelayTargetSet

theorem canonicalize_list {set : CanonicalRelayTargetSet} :
    canonicalize targets = .ok set ↔ rules.canonicalList targets = .ok set.targets := by
  rw [← map_canonicalize]
  exact ok_map_iff targets_injective

end CanonicalRelayTargetSet

namespace CanonicalSurplusRecipientSet

variable {principalText : Principal → String}

theorem canonicalize_list {set : CanonicalSurplusRecipientSet} :
    canonicalize principalText recipients = .ok set ↔
      (rules principalText).canonicalList recipients = .ok set.recipients := by
  rw [← map_canonicalize]
  exact ok_map_iff recipients_injective

theorem shortMemo_of_admitted {recipient : RelaySurplusRecipient}
    (admitted : (rules principalText).entryText recipient = none) : ShortMemo recipient := by
  cases recipient with
  | principal owner memo =>
      apply Nat.le_of_not_lt
      intro long
      simp only [rules, validateRecipient] at admitted
      by_cases first : owner = anonymous
      · rw [if_pos first] at admitted
        cases admitted
      · by_cases second : owner = managementCanister
        · rw [if_neg first, if_pos second] at admitted
          cases admitted
        · rw [if_neg first, if_neg second, if_pos long] at admitted
          cases admitted
  | neuron neuronId memo =>
      apply Nat.le_of_not_lt
      intro long
      simp only [rules, validateRecipient] at admitted
      by_cases zero : neuronId = 0
      · rw [if_pos zero] at admitted
        cases admitted
      · rw [if_neg zero, if_pos long] at admitted
        cases admitted

end CanonicalSurplusRecipientSet

namespace CanonicalRelaySetup

/-- The configuration, asked for again. -/
def args (setup : CanonicalRelaySetup) : RelaySetupArgs where
  targetCanisterIds := setup.targets.targets
  surplusRecipients := setup.surplusRecipients.recipients

def preimage (setup : CanonicalRelaySetup) : List UInt8 :=
  configurationPreimage setup.targets.targets setup.surplusRecipients.recipients

/-- The texts with which an entry of the request is refused for itself. -/
def entryTexts (env : FactoryEnv) (args : RelaySetupArgs) : Set String :=
  CanonicalRelayTargetSet.rules.entryTexts args.targetCanisterIds ∪
    (CanonicalSurplusRecipientSet.rules env.principalText).entryTexts args.surplusRecipients

variable {env : FactoryEnv} {args args' : RelaySetupArgs} {setup setup' : CanonicalRelaySetup}

theorem canonicalize_eq_bind (env : FactoryEnv) (args : RelaySetupArgs) :
    canonicalize env args =
      (CanonicalRelayTargetSet.canonicalize args.targetCanisterIds).bind fun targets =>
        (CanonicalSurplusRecipientSet.canonicalize env.principalText args.surplusRecipients).bind
          fun recipients => .ok ⟨targets, recipients⟩ := by
  rw [canonicalize]
  cases CanonicalRelayTargetSet.canonicalize args.targetCanisterIds with
  | error text => rfl
  | ok targets =>
      cases CanonicalSurplusRecipientSet.canonicalize env.principalText args.surplusRecipients with
      | error text => rfl
      | ok recipients => rfl

theorem canonicalize_parts :
    canonicalize env args = .ok setup ↔
      CanonicalRelayTargetSet.rules.canonicalList args.targetCanisterIds =
        .ok setup.targets.targets ∧
      (CanonicalSurplusRecipientSet.rules env.principalText).canonicalList args.surplusRecipients =
        .ok setup.surplusRecipients.recipients := by
  rw [← CanonicalRelayTargetSet.canonicalize_list, ← CanonicalSurplusRecipientSet.canonicalize_list,
    canonicalize]
  cases CanonicalRelayTargetSet.canonicalize args.targetCanisterIds with
  | error text =>
      constructor
      · intro ok
        cases ok
      · rintro ⟨first, _⟩
        cases first
  | ok targets =>
      cases CanonicalSurplusRecipientSet.canonicalize env.principalText args.surplusRecipients with
      | error text =>
          constructor
          · intro ok
            cases ok
          · rintro ⟨_, second⟩
            cases second
      | ok recipients =>
          constructor
          · intro ok
            rw [← Except.ok.inj ok]
            exact ⟨rfl, rfl⟩
          · rintro ⟨first, second⟩
            rw [Except.ok.inj first, Except.ok.inj second]

theorem canonicalize_alike (targets : args.targetCanisterIds.Perm args'.targetCanisterIds)
    (recipients : args.surplusRecipients.Perm args'.surplusRecipients) :
    Alike (entryTexts env args) (canonicalize env args) (canonicalize env args') := by
  have first : Alike (CanonicalRelayTargetSet.rules.entryTexts args.targetCanisterIds)
      (CanonicalRelayTargetSet.canonicalize args.targetCanisterIds)
      (CanonicalRelayTargetSet.canonicalize args'.targetCanisterIds) := by
    apply Alike.of_map CanonicalRelayTargetSet.targets_injective
    rw [CanonicalRelayTargetSet.map_canonicalize, CanonicalRelayTargetSet.map_canonicalize]
    exact ListRules.canonicalList_alike targets
  have second : Alike
      ((CanonicalSurplusRecipientSet.rules env.principalText).entryTexts args.surplusRecipients)
      (CanonicalSurplusRecipientSet.canonicalize env.principalText args.surplusRecipients)
      (CanonicalSurplusRecipientSet.canonicalize env.principalText args'.surplusRecipients) := by
    apply Alike.of_map CanonicalSurplusRecipientSet.recipients_injective
    rw [CanonicalSurplusRecipientSet.map_canonicalize,
      CanonicalSurplusRecipientSet.map_canonicalize]
    exact ListRules.canonicalList_alike recipients
  replace first : Alike (entryTexts env args) _ _ := first.mono Set.subset_union_left
  replace second : Alike (entryTexts env args) _ _ := second.mono Set.subset_union_right
  rw [canonicalize_eq_bind, canonicalize_eq_bind]
  apply first.bind
  intro set
  apply second.bind
  intro recipients
  exact rfl

theorem canonicalize_idempotent (ok : canonicalize env args = .ok setup) :
    canonicalize env setup.args = .ok setup := by
  rw [canonicalize_parts] at ok ⊢
  exact ⟨ListRules.canonicalList_idempotent ok.1, ListRules.canonicalList_idempotent ok.2⟩

theorem valid_of_canonicalize (typed : TypedSetupArgs args)
    (ok : canonicalize env args = .ok setup) :
    ValidTargets setup.targets.targets ∧ ValidRecipients setup.surplusRecipients.recipients := by
  have parts := canonicalize_parts.mp ok
  obtain ⟨_, sorted⟩ := ListRules.canonicalList_ok.mp parts.1
  obtain ⟨admitted, sorted'⟩ := ListRules.canonicalList_ok.mp parts.2
  constructor
  · constructor
    · exact Nat.le_trans setup.targets.bounded (by decide)
    · intro target member
      rw [sorted, mem_sortCompared] at member
      exact typed.targets target member
  · constructor
    · exact Nat.le_trans setup.surplusRecipients.bounded (by decide)
    · intro recipient member
      rw [sorted', mem_sortCompared] at member
      exact ⟨typed.recipients recipient member,
        CanonicalSurplusRecipientSet.shortMemo_of_admitted (admitted.entries recipient member)⟩

theorem preimage_injective (typed : TypedSetupArgs args) (typed' : TypedSetupArgs args')
    (ok : canonicalize env args = .ok setup) (ok' : canonicalize env args' = .ok setup')
    (same : setup.preimage = setup'.preimage) : setup = setup' := by
  have valid := valid_of_canonicalize typed ok
  have valid' := valid_of_canonicalize typed' ok'
  have parts := configurationPreimage_injective valid.1 valid'.1 valid.2 valid'.2 same
  have targets := CanonicalRelayTargetSet.targets_injective parts.1
  have recipients := CanonicalSurplusRecipientSet.recipients_injective parts.2
  rcases setup with ⟨set, list⟩
  rcases setup' with ⟨set', list'⟩
  exact congrArg₂ CanonicalRelaySetup.mk targets recipients

end CanonicalRelaySetup

/-- What the key of a configuration stands for; that two digests agree only where what is hashed
does is asked of the two configurations at hand. -/
structure KeySound (env : FactoryEnv) (args args' : RelaySetupArgs) : Prop where
  permuted : args.targetCanisterIds.Perm args'.targetCanisterIds →
    args.surplusRecipients.Perm args'.surplusRecipients →
    Alike (CanonicalRelaySetup.entryTexts env args) (CanonicalRelaySetup.canonicalize env args)
      (CanonicalRelaySetup.canonicalize env args')
  idempotent : ∀ setup, CanonicalRelaySetup.canonicalize env args = .ok setup →
    CanonicalRelaySetup.canonicalize env setup.args = .ok setup
  converts : ∀ setup, CanonicalRelaySetup.canonicalize env args = .ok setup →
    checkedConfigurationPreimage setup.targets.targets setup.surplusRecipients.recipients =
      some setup.preimage
  injective : ∀ setup setup', CanonicalRelaySetup.canonicalize env args = .ok setup →
    CanonicalRelaySetup.canonicalize env args' = .ok setup' →
    setup.preimage = setup'.preimage → setup = setup'
  sameKey : ∀ setup setup', CanonicalRelaySetup.canonicalize env args = .ok setup →
    CanonicalRelaySetup.canonicalize env args' = .ok setup' →
    (env.sha256 setup.preimage = env.sha256 setup'.preimage →
      setup.preimage = setup'.preimage) →
    (setup.key env = setup'.key env ↔
      (∀ target, target ∈ args.targetCanisterIds ↔ target ∈ args'.targetCanisterIds) ∧
        ∀ recipient, recipient ∈ args.surplusRecipients ↔ recipient ∈ args'.surplusRecipients)

theorem relay_key_sound (env : FactoryEnv) (args args' : RelaySetupArgs)
    (typed : TypedSetupArgs args) (typed' : TypedSetupArgs args') : KeySound env args args' where
  permuted := CanonicalRelaySetup.canonicalize_alike
  idempotent _ := CanonicalRelaySetup.canonicalize_idempotent
  converts := by
    intro setup ok
    have valid := CanonicalRelaySetup.valid_of_canonicalize typed ok
    exact checkedConfigurationPreimage_valid valid.1 valid.2
  injective _ _ := CanonicalRelaySetup.preimage_injective typed typed'
  sameKey := by
    intro setup setup' ok ok' collisionFree
    have parts := CanonicalRelaySetup.canonicalize_parts.mp ok
    have parts' := CanonicalRelaySetup.canonicalize_parts.mp ok'
    rw [← ListRules.canonicalList_unique parts.1 parts'.1,
      ← ListRules.canonicalList_unique parts.2 parts'.2]
    constructor
    · intro same
      have digests : env.sha256 setup.preimage = env.sha256 setup'.preimage :=
        RelaySetupKey.mk.inj same
      rw [CanonicalRelaySetup.preimage_injective typed typed' ok ok' (collisionFree digests)]
      exact ⟨rfl, rfl⟩
    · rintro ⟨targets, recipients⟩
      rw [CanonicalRelaySetup.key, CanonicalRelaySetup.key, targets, recipients]

section Golden

def goldenArgs : RelaySetupArgs where
  targetCanisterIds := [⟨[1]⟩, ⟨[2]⟩]
  surplusRecipients := [.principal ⟨[3]⟩ [16], .neuron 7 [32, 33]]

def shuffledArgs : RelaySetupArgs where
  targetCanisterIds := [⟨[2]⟩, ⟨[1]⟩]
  surplusRecipients := [.neuron 7 [32, 33], .principal ⟨[3]⟩ [16]]

def goldenPreimage : List UInt8 :=
  [106, 117, 112, 105, 116, 101, 114, 45, 114, 101, 108, 97, 121, 45, 99, 111, 110, 102, 105,
    103, 117, 114, 97, 116, 105, 111, 110, 45, 118, 49, 0, 1, 2, 1, 1, 1, 2, 2, 2, 1, 1, 3, 1,
    16, 2, 0, 0, 0, 0, 0, 0, 0, 7, 2, 32, 33]

def goldenDigest : List UInt8 :=
  [24, 79, 133, 134, 246, 56, 90, 22, 73, 177, 152, 0, 23, 226, 83, 124, 209, 148, 132, 136, 244,
    42, 38, 14, 146, 171, 197, 127, 128, 60, 93, 202]

/-- The digest of the one preimage that is hashed here. -/
def goldenEnv : FactoryEnv where
  historian := ⟨[50]⟩
  sha256 preimage := if preimage = goldenPreimage then goldenDigest else []
  principalText _ := ""
  debugTransferError _ := ""

def goldenSetup : CanonicalRelaySetup where
  targets := ⟨goldenArgs.targetCanisterIds, by decide, by decide⟩
  surplusRecipients := ⟨goldenArgs.surplusRecipients, by decide⟩

example : goldenSetup.preimage = goldenPreimage := by decide +kernel

theorem golden_targets :
    CanonicalRelayTargetSet.rules.canonicalList goldenArgs.targetCanisterIds =
      .ok goldenSetup.targets.targets := by
  have sorted : StrictlySorted comparePrincipals goldenArgs.targetCanisterIds := by
    simp only [StrictlySorted]
    decide
  have admitted : CanonicalRelayTargetSet.rules.Admitted goldenArgs.targetCanisterIds :=
    ⟨by decide, by decide, sorted.distinct⟩
  exact ListRules.canonicalList_ok.mpr ⟨admitted, sorted.sortCompared_eq.symm⟩

theorem golden_recipients :
    (CanonicalSurplusRecipientSet.rules goldenEnv.principalText).canonicalList
      goldenArgs.surplusRecipients = .ok goldenSetup.surplusRecipients.recipients := by
  have sorted : StrictlySorted destinationCmp goldenArgs.surplusRecipients := by
    simp only [StrictlySorted]
    decide
  have admitted : (CanonicalSurplusRecipientSet.rules goldenEnv.principalText).Admitted
      goldenArgs.surplusRecipients := ⟨by decide, by decide, sorted.distinct⟩
  exact ListRules.canonicalList_ok.mpr ⟨admitted, sorted.sortCompared_eq.symm⟩

theorem golden_typed : TypedSetupArgs goldenArgs where
  targets := by decide
  recipients := by
    intro recipient member
    simp only [goldenArgs, List.mem_cons, List.not_mem_nil, or_false] at member
    rcases member with rfl | rfl
    · simp only [TypedRecipient]
      decide
    · simp only [TypedRecipient]
      decide

theorem shuffled_typed : TypedSetupArgs shuffledArgs where
  targets := by decide
  recipients := by
    intro recipient member
    simp only [shuffledArgs, List.mem_cons, List.not_mem_nil, or_false] at member
    rcases member with rfl | rfl
    · simp only [TypedRecipient]
      decide
    · simp only [TypedRecipient]
      decide

/-- Shuffled, the configuration is the same and has the same key. -/
theorem relay_key_sound_golden :
    KeySound goldenEnv goldenArgs shuffledArgs ∧
      CanonicalRelaySetup.canonicalize goldenEnv shuffledArgs = .ok goldenSetup ∧
      (goldenSetup.key goldenEnv).bytes = goldenDigest := by
  have sound := relay_key_sound goldenEnv goldenArgs shuffledArgs golden_typed shuffled_typed
  have alike := sound.permuted (List.Perm.swap _ _ _) (List.Perm.swap _ _ _)
  have golden : CanonicalRelaySetup.canonicalize goldenEnv goldenArgs = .ok goldenSetup :=
    CanonicalRelaySetup.canonicalize_parts.mpr ⟨golden_targets, golden_recipients⟩
  rw [golden] at alike
  refine ⟨sound, ?_, by decide +kernel⟩
  cases shuffled : CanonicalRelaySetup.canonicalize goldenEnv shuffledArgs with
  | error text =>
      rw [shuffled] at alike
      exact False.elim alike
  | ok setup =>
      rw [shuffled] at alike
      exact congrArg Except.ok alike.symm

end Golden

end JupiterSuite.Historian
