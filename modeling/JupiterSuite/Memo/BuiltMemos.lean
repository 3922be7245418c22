import JupiterSuite.Memo.BuilderParity

/-! What the canister reads in the memos of each mode of the builder. -/

namespace JupiterSuite.Memo

open Memo.Frontend

variable {fromText : Text → Option Principal} {lib : PrincipalLibrary}

/-! ## Neuron mode -/

section Neuron

variable {id : Text} {neuronId : Nat}

structure NeuronText (id : Text) : Prop where
  filled : id ≠ []
  digits : id.all isAsciiDigit = true
  short : id.length ≤ maxNeuronIdMemoBytes

theorem neuronText_of (read : Memo.parseNeuronIdText id = some neuronId) : NeuronText id := by
  rw [Memo.parseNeuronIdText] at read
  split at read
  · cases read
  · rename_i shaped
    split at read
    · cases read
    · rename_i digits
      simp only [Bool.or_eq_true, List.isEmpty_iff, decide_eq_true_eq, not_or] at shaped
      rw [Bool.not_eq_true', Bool.not_eq_false] at digits
      exact ⟨shaped.1, digits, Nat.le_of_not_lt shaped.2⟩

theorem NeuronText.trimmed (text : NeuronText id) : trim id = id :=
  trim_solid (digits_solid text.digits).2

theorem NeuronText.unlike (text : NeuronText id) (after : Text) :
    ∀ rest, id ++ after ≠ 69 :: 46 :: rest := by
  intro rest same
  have digits := text.digits
  cases id with
  | nil => exact text.filled rfl
  | cons first later =>
      have head : first = 69 := (List.cons.inj same).1
      rw [head] at digits
      cases digits

theorem NeuronText.readable (text : NeuronText id) {after : Text}
    (ascii : after.all isAscii = true)
    (short : (id ++ after).length ≤ maxTargetCanisterMemoBytes) : Readable (id ++ after) where
  ascii := by
    rw [List.all_append, ascii_of_digits text.digits, ascii]
    rfl
  short := short
  filled := by
    obtain ⟨first, member⟩ := List.exists_mem_of_ne_nil id text.filled
    have solid := List.any_eq_false.mp (digits_solid text.digits).2 first member
    exact trim_filled (List.mem_append_left after member) (Bool.eq_false_iff.mpr solid)

theorem parseMemoDirective_id (read : Memo.parseNeuronIdText id = some neuronId) :
    parseMemoDirective fromText id = some (.neuronStake neuronId none) := by
  have text := neuronText_of read
  have within : (id ++ []).length ≤ maxTargetCanisterMemoBytes := by
    rw [List.append_nil]
    exact Nat.le_trans text.short (by decide)
  have readable := text.readable rfl within
  have unlike := text.unlike []
  rw [List.append_nil] at readable unlike
  rw [parseMemoDirective_plain readable unlike,
    splitOnce_absent (not_mem_digits text.digits (by decide))]
  simp only [text.trimmed, read]

theorem parseMemoDirective_id_memo (read : Memo.parseNeuronIdText id = some neuronId)
    {kept : Text} (ascii : kept.all isAscii = true)
    (short : (id ++ 46 :: kept).length ≤ maxTargetCanisterMemoBytes) :
    parseMemoDirective fromText (id ++ 46 :: kept) = some (.neuronStake neuronId (some kept)) := by
  have text := neuronText_of read
  have dotted : (46 :: kept).all isAscii = true := by
    rw [List.all_cons, ascii]
    rfl
  rw [parseMemoDirective_plain (text.readable dotted short) (text.unlike _),
    splitOnce_append (not_mem_digits text.digits (by decide))]
  simp only [parseDeclaredMemo, text.trimmed, read]

theorem neuronId_of_valid (valid : AdvancedBuilder.isValidNeuronId (units id) = true) :
    Memo.parseNeuronIdText id = some (bigInt (units id)) := by
  simp only [AdvancedBuilder.isValidNeuronId, Bool.and_eq_true, decide_eq_true_eq,
    units_length] at valid
  obtain ⟨⟨digits, short⟩, positive, fits⟩ := valid
  have shape := digits
  rw [units_hasOnlyDigits, Bool.and_eq_true, Bool.not_eq_true'] at shape
  have ascii := ascii_of_digits shape.2
  have long : decide (maxNeuronIdMemoBytes < id.length) = false :=
    decide_eq_false (Nat.not_lt_of_le short)
  rw [← parseNeuronIdText_units ascii, Frontend.parseNeuronIdText, units_isEmpty, shape.1,
    byteLength_units ascii, long, digits]
  simp only [Bool.not_true, Bool.or_self, Bool.false_eq_true, if_false]
  rw [if_neg (by omega)]

/-- What a built memo is, for its mode: its bytes, what the canister reads, and the parts of the
optional memo. -/
structure BuiltMemo (result : AdvancedBuilder.AdvancedMemoResult) (memo : List UInt8) : Prop where
  output : result.output = units memo
  ascii : memo.all isAscii = true
  short : memo.length ≤ maxTargetCanisterMemoBytes

/-- A memo of neuron mode: the entered id, and the kept memo where one was entered. -/
structure NeuronMemo (fromText : Text → Option Principal) (neuronIdText optional : JsText)
    (result : AdvancedBuilder.AdvancedMemoResult) (memo : List UInt8) : Prop where
  built : BuiltMemo result memo
  digits : hasOnlyDigits (jsTrim neuronIdText) = true
  read : ∃ kept, result.keptOptionalMemo = units kept ∧
    parseMemoDirective fromText memo = some (.neuronStake (bigInt (jsTrim neuronIdText))
      (if optional = [] then none else some kept))
  optional : result.keptOptionalMemo ++ result.truncatedOptionalMemo = optional

theorem splitOptionalMemo_append (text : JsText) (available : Int) :
    (AdvancedBuilder.splitOptionalMemo text available).1 ++
      (AdvancedBuilder.splitOptionalMemo text available).2 = text :=
  List.take_append_drop _ _

theorem splitOptionalMemo_kept {optional : Text} (ascii : optional.all isAscii = true)
    {available : Int} (room : 0 ≤ available) :
    ∃ kept : Text, (AdvancedBuilder.splitOptionalMemo (units optional) available).1 = units kept ∧
      kept.all isAscii = true ∧ (kept.length : Int) ≤ available := by
  refine ⟨optional.take (max 0 available).toNat, List.map_take.symm, ?_, ?_⟩
  · rw [List.all_eq_true] at ascii ⊢
    exact fun byte member => ascii byte (List.mem_of_mem_take member)
  · rw [List.length_take]
    omega

theorem units_dotted (stem kept : Text) :
    units stem ++ [46] ++ units kept = units (stem ++ 46 :: kept) := by
  rw [units_append, List.append_assoc]
  rfl

/-- What the builder makes of a neuron id and an optional memo that is not empty. -/
def dottedNeuronMemo (neuronId optional : JsText) : AdvancedBuilder.AdvancedMemoResult :=
  let stem := neuronId ++ [46]
  let available : Int := AdvancedBuilder.jupiterMemoMaxBytes - stem.length
  let parts := AdvancedBuilder.splitOptionalMemo optional available
  AdvancedBuilder.builtResult (stem ++ parts.1) available parts.1 parts.2 .default

theorem buildNeuronMemo_ok {targetText optional : JsText}
    (ok : (AdvancedBuilder.buildNeuronMemo targetText optional).ok = true) :
    AdvancedBuilder.isValidNeuronId (jsTrim targetText) = true ∧
      AdvancedBuilder.buildNeuronMemo targetText optional =
        if optional.isEmpty then AdvancedBuilder.builtResult (jsTrim targetText) 0 [] [] .default
        else dottedNeuronMemo (jsTrim targetText) optional := by
  rw [AdvancedBuilder.buildNeuronMemo] at ok ⊢
  dsimp only at ok ⊢
  split at ok
  · cases ok
  · rename_i filled
    split at ok
    · cases ok
    · rename_i digits
      split at ok
      · cases ok
      · rename_i valid
        rw [if_neg filled, if_neg digits, if_neg valid]
        rw [Bool.not_eq_true', Bool.not_eq_false] at valid
        exact ⟨valid, rfl⟩

theorem neuron_memo_alone {target : Text} (trimmed : jsTrim (units target) = units id)
    (read : Memo.parseNeuronIdText id = some (bigInt (units id)))
    (digits : hasOnlyDigits (units id) = true) :
    NeuronMemo fromText (units target) []
      (AdvancedBuilder.builtResult (units id) 0 [] [] .default) id where
  built :=
    { output := rfl
      ascii := ascii_of_digits (neuronText_of read).digits
      short := Nat.le_trans (neuronText_of read).short (by decide) }
  digits := by rw [trimmed, digits]
  read := by
    refine ⟨[], rfl, ?_⟩
    rw [trimmed, if_pos rfl]
    exact parseMemoDirective_id read
  optional := rfl

theorem neuron_memo_dotted {target optional : Text} (trimmed : jsTrim (units target) = units id)
    (read : Memo.parseNeuronIdText id = some (bigInt (units id)))
    (digits : hasOnlyDigits (units id) = true) (plain : optional.all isAscii = true)
    (entered : units optional ≠ []) :
    ∃ memo, NeuronMemo fromText (units target) (units optional)
      (dottedNeuronMemo (units id) (units optional)) memo := by
  have text := neuronText_of read
  have short := text.short
  have stem : (units id ++ [46]).length = id.length + 1 := by
    rw [List.length_append, units_length, List.length_singleton]
  simp only [maxNeuronIdMemoBytes] at short
  have room : 0 ≤ (AdvancedBuilder.jupiterMemoMaxBytes : Int) - (units id ++ [46]).length := by
    rw [stem, AdvancedBuilder.jupiterMemoMaxBytes]
    omega
  obtain ⟨kept, shown, ascii, bounded⟩ := splitOptionalMemo_kept plain room
  have within : (id ++ 46 :: kept).length ≤ maxTargetCanisterMemoBytes := by
    rw [stem, AdvancedBuilder.jupiterMemoMaxBytes] at bounded
    rw [List.length_append, List.length_cons, maxTargetCanisterMemoBytes]
    omega
  refine ⟨id ++ 46 :: kept, ⟨⟨?_, ?_, within⟩, ?_, ⟨kept, shown, ?_⟩,
    splitOptionalMemo_append _ _⟩⟩
  · rw [← units_dotted, ← shown]
    rfl
  · rw [List.all_append, List.all_cons, ascii_of_digits text.digits, ascii]
    rfl
  · rw [trimmed, digits]
  · rw [trimmed, if_neg entered]
    exact parseMemoDirective_id_memo read ascii within

theorem neuron_memo {target optional : Text} (ascii : target.all isAscii = true)
    (plain : optional.all isAscii = true)
    (ok : (AdvancedBuilder.buildNeuronMemo (units target) (units optional)).ok = true) :
    ∃ memo, NeuronMemo fromText (units target) (units optional)
      (AdvancedBuilder.buildNeuronMemo (units target) (units optional)) memo := by
  have trimmed := jsTrim_units ascii
  obtain ⟨valid, built⟩ := buildNeuronMemo_ok ok
  rw [built]
  rw [trimmed] at valid ⊢
  have read := neuronId_of_valid valid
  have digits : hasOnlyDigits (units (trim target)) = true := by
    simp only [AdvancedBuilder.isValidNeuronId, Bool.and_eq_true] at valid
    exact valid.1.1
  split
  · rename_i blank
    rw [List.isEmpty_iff.mp blank]
    exact ⟨trim target, neuron_memo_alone trimmed read digits⟩
  · rename_i entered
    rw [List.isEmpty_iff] at entered
    exact neuron_memo_dotted trimmed read digits plain entered

end Neuron

/-! ## The modes with a declared canister -/

variable {text : Text}
variable {mode : AdvancedBuilder.MemoMode} {numbered : NumberedSubaccount}
  {anyText : Text → Option Principal}

section Canister

variable {target : Text} {entered : Principal}

structure DeclaredCanister (lib : PrincipalLibrary) (principal : Text) (entered : Principal) :
    Prop where
  ascii : principal.all isAscii = true
  trimmed : trim principal = principal
  filled : principal ≠ []
  undotted : 46 ∉ principal
  decoded : lib.fromText (units (Memo.principalTextWithGroupSeparators principal)) = some entered
  named : lib.toText entered ≠ anonymousPrincipalText ∧
    lib.toText entered ≠ managementPrincipalText

theorem DeclaredCanister.entered_eq (declared : DeclaredCanister lib (trim target) entered)
    (ascii : target.all isAscii = true) :
    enteredPrincipal lib (units target) = some entered := by
  rw [enteredPrincipal, jsTrim_units ascii,
    principalTextWithGroupSeparators_units declared.ascii, declared.decoded]

theorem parseDeclaredPrincipalText_builder {principal : Text} (ascii : principal.all isAscii = true)
    (trimmed : trim principal = principal)
    (parsed : AdvancedBuilder.parseDeclaredPrincipalText lib (units principal) = some entered) :
    principal ≠ [] ∧
      lib.fromText (units (Memo.principalTextWithGroupSeparators principal)) = some entered ∧
      lib.toText entered ≠ anonymousPrincipalText ∧
      lib.toText entered ≠ managementPrincipalText := by
  simp only [AdvancedBuilder.parseDeclaredPrincipalText, jsTrim_units ascii, trimmed,
    principalTextWithGroupSeparators_units ascii] at parsed
  split at parsed
  · cases parsed
  · rename_i filled
    split at parsed
    · cases parsed
    · rename_i principal_known decoded
      split at parsed
      · cases parsed
      · rename_i unreserved
        cases parsed
        refine ⟨?_, decoded, not_or.mp unreserved⟩
        rintro rfl
        exact filled rfl

theorem buildCanisterMemo_ok {optional subaccountInput : JsText}
    {result : AdvancedBuilder.AdvancedMemoResult} (ascii : target.all isAscii = true)
    (built : AdvancedBuilder.buildCanisterMemo lib mode (units target) optional subaccountInput =
      some result) (ok : result.ok = true) :
    (∃ entered, DeclaredCanister lib (trim target) entered) ∧
      if mode = .cycles then (trim target).length ≤ maxTargetCanisterMemoBytes ∧
        result = AdvancedBuilder.builtResult (units (trim target)) 0 [] [] .default
      else AdvancedBuilder.buildRawIcpMemo lib (units (trim target)) optional subaccountInput =
        some result := by
  have plain := trim_ascii ascii
  have trimmed := trim_trim target
  simp only [AdvancedBuilder.buildCanisterMemo, jsTrim_units ascii] at built
  split at built
  · cases built
    cases ok
  · split at built
    · cases built
      cases ok
    · rename_i undotted
      split at built
      · cases built
        cases ok
      · rename_i short
        split at built
        · cases built
          cases ok
        · rename_i known
          obtain ⟨entered, parsed⟩ : ∃ entered,
              AdvancedBuilder.parseDeclaredPrincipalText lib (units (trim target)) =
                some entered := by
            rw [Option.isNone_iff_eq_none] at known
            exact Option.ne_none_iff_exists'.mp known
          obtain ⟨filled, decoded, named⟩ := parseDeclaredPrincipalText_builder plain trimmed parsed
          have dotless : 46 ∉ trim target := by
            intro member
            apply undotted
            have found : (units (trim target)).contains ((46 : UInt8).toUInt16) = true := by
              rw [contains_units]
              exact List.contains_iff_mem.mpr member
            exact found
          refine ⟨⟨entered, plain, trimmed, filled, dotless, decoded, named⟩, ?_⟩
          split
          · rename_i cycles
            rw [if_pos cycles] at built
            cases built
            refine ⟨?_, rfl⟩
            rw [units_length, AdvancedBuilder.jupiterMemoMaxBytes] at short
            rw [maxTargetCanisterMemoBytes]
            by_contra long
            exact short ⟨cycles, by omega⟩
          · rename_i other
            rw [if_neg other] at built
            exact built

/-! ### Cycles mode -/

theorem DeclaredCanister.parse (reads : ReadsPrincipals fromText lib) {principal : Text}
    (declared : DeclaredCanister lib principal entered)
    (short : principal.length ≤ maxTargetCanisterMemoBytes) :
    Memo.parseDeclaredPrincipalText fromText principal = some entered := by
  have decoded := reads.decodes _ entered (separators_ascii declared.ascii) declared.decoded
  have present : principal.isEmpty = false := List.isEmpty_eq_false_iff.mpr declared.filled
  have unreserved : entered ≠ Memo.anonymous ∧ entered ≠ managementCanister := by
    constructor
    · rintro rfl
      exact declared.named.1 reads.anonymous
    · rintro rfl
      exact declared.named.2 reads.management
  simp only [Memo.parseDeclaredPrincipalText, declared.trimmed, present,
    decide_eq_false (Nat.not_lt_of_le short), Bool.or_self, Bool.false_eq_true, if_false, decoded,
    filter_reserved, Option.bind_some, if_neg unreserved.1, if_neg unreserved.2]

theorem DeclaredCanister.readable {principal : Text}
    (declared : DeclaredCanister lib principal entered)
    (short : principal.length ≤ maxTargetCanisterMemoBytes) : Readable principal where
  ascii := declared.ascii
  short := short
  filled := by
    rw [declared.trimmed]
    exact List.isEmpty_eq_false_iff.mpr declared.filled

theorem parseMemoDirective_principal (reads : ReadsPrincipals fromText lib) {principal : Text}
    (declared : DeclaredCanister lib principal entered)
    (short : principal.length ≤ maxTargetCanisterMemoBytes) :
    parseMemoDirective fromText principal =
      match Memo.parseNeuronIdText principal with
      | some neuronId => some (.neuronStake neuronId none)
      | none => some (.topUp entered) := by
  have unlike : ∀ rest, principal ≠ 69 :: 46 :: rest := by
    rintro rest rfl
    exact declared.undotted (by simp)
  rw [parseMemoDirective_plain (declared.readable short) unlike,
    splitOnce_absent declared.undotted]
  cases neuron : Memo.parseNeuronIdText principal with
  | none => simp only [declared.trimmed, declared.parse reads short, Option.map_some, neuron]
  | some neuronId => simp only [declared.trimmed, neuron]

/-! ### Raw ICP mode -/

/-- A memo of raw ICP mode, in bytes: the compact principal, the selector, a full stop and the kept
memo. -/
structure RawIcpShape (principal selector kept memo : Text) : Prop where
  bytes : memo = withoutDashes principal ++ selector ++ 46 :: kept
  selected : ∀ byte ∈ selector, byte = 58 ∨ isAsciiDigit byte = true
  ascii : kept.all isAscii = true
  short : memo.length ≤ maxTargetCanisterMemoBytes

theorem units_withoutDashes (text : Text) :
    AdvancedBuilder.withoutHyphens (units text) = units (withoutDashes text) := by
  have same : (fun byte : UInt8 => decide (byte.toUInt16 ≠ 45)) = fun byte => decide (byte ≠ 45) := by
    funext byte
    have known : byte.toUInt16 = 45 ↔ byte = 45 := UInt8.toUInt16_inj (b := 45)
    simp only [ne_eq, known]
  rw [AdvancedBuilder.withoutHyphens, units, List.filter_map, withoutDashes, ← same]
  rfl

theorem withoutDashes_subset {byte : UInt8} (member : byte ∈ withoutDashes text) : byte ∈ text :=
  (List.mem_filter.mp member).1

theorem selector_units {subaccountInput : JsText} (known : Numbered subaccountInput numbered) :
    ∃ selector : Text, numbered.destinationSubaccountNumberText.elim []
        (fun number => (58 : UInt16) :: number) = units selector ∧
      ∀ byte ∈ selector, byte = 58 ∨ isAsciiDigit byte = true := by
  cases given : numbered.destinationSubaccountNumberText with
  | none => exact ⟨[], rfl, fun _ here => absurd here List.not_mem_nil⟩
  | some number =>
      obtain ⟨digits, rfl, all_digits⟩ := known.digits number given
      refine ⟨58 :: digits, rfl, ?_⟩
      intro byte member
      rcases List.mem_cons.mp member with rfl | later
      · exact .inl rfl
      · exact .inr (List.all_eq_true.mp all_digits byte later)

structure RawIcpBuilt (lib : PrincipalLibrary) (principal : Text) (optional subaccountInput : JsText)
    (result : AdvancedBuilder.AdvancedMemoResult) (numbered : NumberedSubaccount)
    (selector kept memo : Text) (parsedOutput : JupiterMemo) : Prop where
  number : Numbered subaccountInput numbered
  shape : RawIcpShape principal selector kept memo
  parsed : parseJupiterMemo lib (units memo) = some parsedOutput
  passed : AdvancedBuilder.passesMemoPolicy lib parsedOutput (units principal) numbered
    (units kept) = true
  output : result.output = units memo
  keeps : result.keptOptionalMemo = units kept
  whole : result.keptOptionalMemo ++ result.truncatedOptionalMemo = optional

theorem buildRawIcpMemo_ok {principal optional : Text} {subaccountInput : JsText}
    {result : AdvancedBuilder.AdvancedMemoResult} (plain : optional.all isAscii = true)
    (built : AdvancedBuilder.buildRawIcpMemo lib (units principal) (units optional)
      subaccountInput = some result) (ok : result.ok = true) :
    ∃ numbered selector kept memo parsedOutput, RawIcpBuilt lib principal (units optional)
      subaccountInput result numbered selector kept memo parsedOutput := by
  simp only [AdvancedBuilder.buildRawIcpMemo, units_withoutDashes] at built
  split at built
  · cases built
    cases ok
  · rename_i numbered number_read
    have known := numbered_of_text number_read
    obtain ⟨selector, selector_shown, selector_bytes⟩ := selector_units known
    rw [selector_shown, ← units_append] at built
    split at built
    · cases built
      cases ok
    · rename_i room
      obtain ⟨kept, shown, ascii, bounded⟩ := splitOptionalMemo_kept plain (Int.not_lt.mp room)
      obtain ⟨parsedOutput, parsed, same⟩ := Option.map_eq_some_iff.mp built
      rw [shown, units_dotted] at parsed same
      split at same
      · rename_i passed
        cases same
        refine ⟨numbered, selector, kept, _, parsedOutput, known, ⟨rfl, selector_bytes, ascii, ?_⟩,
          parsed, passed, rfl, rfl, ?_⟩
        · rw [List.length_append, units_length, List.length_singleton,
            AdvancedBuilder.jupiterMemoMaxBytes] at bounded
          rw [List.length_append, List.length_cons, maxTargetCanisterMemoBytes]
          omega
        · rw [← shown]
          exact splitOptionalMemo_append _ _
      · cases same
        cases ok

variable {principal selector kept : Text} {memo : List UInt8}

theorem RawIcpShape.memo_ascii (shape : RawIcpShape principal selector kept memo)
    (ascii : principal.all isAscii = true) : memo.all isAscii = true := by
  rw [List.all_eq_true] at ascii ⊢
  have plain := List.all_eq_true.mp shape.ascii
  intro byte member
  rw [shape.bytes] at member
  rcases List.mem_append.mp member with front | back
  · rcases List.mem_append.mp front with owner | number
    · exact ascii byte (withoutDashes_subset owner)
    · rcases shape.selected byte number with rfl | digit
      · rfl
      · have alone : [byte].all isAsciiDigit = true := by
          rw [List.all_cons, digit]
          rfl
        exact List.all_eq_true.mp (ascii_of_digits alone) byte List.mem_cons_self
  · rcases List.mem_cons.mp back with rfl | later
    · rfl
    · exact plain byte later

theorem units_injective {first second : Text} (same : units first = units second) :
    first = second := by
  have bytewise : Function.Injective UInt8.toUInt16 := fun _ _ => UInt8.toUInt16_inj.mp
  exact List.map_injective_iff.mpr bytewise same

theorem RawIcpShape.split (shape : RawIcpShape principal selector kept memo)
    (undotted : 46 ∉ principal) :
    splitOnce 46 memo = some (withoutDashes principal ++ selector, kept) := by
  rw [shape.bytes]
  apply splitOnce_append
  intro member
  rcases List.mem_append.mp member with owner | number
  · exact undotted (withoutDashes_subset owner)
  · rcases shape.selected 46 number with colon | digit
    · cases colon
    · cases digit

theorem RawIcpShape.untabbed (reads : ReadsPrincipals fromText lib)
    (declared : DeclaredCanister lib principal entered)
    (shape : RawIcpShape principal selector kept memo) : ¬ VerticalTabMemo anyText memo := by
  rintro ⟨_, _, front, rawMemo, split, ownerText, numberText, colon, tab, _⟩
  cases (shape.split declared.undotted).symm.trans split
  have inside : 11 ∈ withoutDashes principal ++ selector := by
    obtain ⟨_, _, _, _, joined, _⟩ := indexOf_some colon
    apply trim_subset
    rw [joined]
    exact List.mem_append_left _ tab
  rcases List.mem_append.mp inside with owner | number
  · have known := reads.alphabet _ entered (separators_ascii declared.ascii) declared.decoded
    have listed := List.all_eq_true.mp known 11
      (separators_subset (withoutDashes_subset owner))
    cases listed
  · rcases shape.selected 11 number with colon | digit
    · cases colon
    · cases digit

theorem RawIcpShape.undigited (shape : RawIcpShape principal selector kept memo) :
    ¬ DigitPrincipalMemo anyText memo := by
  rintro ⟨_, _, digits, _⟩
  apply digits_undotted digits
  rw [shape.bytes]
  exact List.mem_append_right _ List.mem_cons_self

theorem raw_memo_read (reads : ReadsPrincipals fromText lib)
    (declared : DeclaredCanister lib principal entered) {optional subaccountInput : JsText}
    {result : AdvancedBuilder.AdvancedMemoResult} {parsedOutput : JupiterMemo}
    (built : RawIcpBuilt lib principal optional subaccountInput result numbered selector kept memo
      parsedOutput) :
    parseMemoDirective fromText memo =
      some (.rawIcp entered (numberedSubaccount (bigInt (jsTrim subaccountInput))) kept) := by
  have ascii := built.shape.memo_ascii declared.ascii
  obtain ⟨parsed, found, agree⟩ := parsers_agree_iff reads.alike (sameCharacters_units ascii)
  cases found.symm.trans built.parsed
  have same := agree.mpr ⟨built.shape.untabbed reads declared, built.shape.undigited⟩
  have passed := built.passed
  cases shown : parsedOutput with
  | invalid reason =>
      rw [shown] at passed
      cases passed
  | neuronStake neuronId outgoing normalized =>
      rw [shown] at passed
      cases passed
  | cyclesTopUp canisterId canisterText normalized =>
      rw [shown] at passed
      cases passed
  | rawIcpCanister canisterId canisterText destination numberText outgoing normalized =>
      rw [shown] at passed same
      have from_number := parseJupiterMemo_numbered (shown ▸ built.parsed)
      have own : AdvancedBuilder.parseDeclaredPrincipalText lib (units principal) =
          some entered := by
        have present : principal.isEmpty = false :=
          List.isEmpty_eq_false_iff.mpr declared.filled
        simp only [AdvancedBuilder.parseDeclaredPrincipalText, jsTrim_units declared.ascii,
          declared.trimmed, units_isEmpty, present, Bool.false_eq_true, if_false,
          principalTextWithGroupSeparators_units declared.ascii, declared.decoded,
          if_neg (not_or.mpr declared.named)]
      simp only [AdvancedBuilder.passesMemoPolicy, own, Option.map_some, Bool.and_eq_true,
        decide_eq_true_eq, Option.some.injEq] at passed
      obtain ⟨⟨named, number⟩, outgoing_kept⟩ := passed
      have canister : canisterId = entered := reads.injective _ _ named
      have subaccount : destination = numberedSubaccount (bigInt (jsTrim subaccountInput)) := by
        rw [from_number, number, ← built.number.written, built.number.entered]
      cases read : parseMemoDirective (shownFromText lib) memo with
      | none =>
          rw [read] at same
          cases same
      | some directive =>
          rw [read] at same
          cases directive with
          | topUp other => cases same
          | neuronStake neuronId other => cases same
          | rawIcp other otherSubaccount otherMemo =>
              obtain ⟨sameId, sameSubaccount, sameMemo⟩ := same
              have memo_kept : otherMemo = kept := by
                rw [outgoing_kept] at sameMemo
                exact (units_injective sameMemo).symm
              rw [parseMemoDirective_mono reads.shown read, sameId, canister, sameSubaccount,
                subaccount, memo_kept]

end Canister

/-! ## Every mode -/

/-- A memo of cycles mode. A text that is a neuron id is left out, and the optional memo is not
used. -/
structure CyclesMemo (fromText : Text → Option Principal) (lib : PrincipalLibrary)
    (canisterText : JsText) (result : AdvancedBuilder.AdvancedMemoResult) (memo : List UInt8) :
    Prop where
  built : BuiltMemo result memo
  read : ∃ target, enteredPrincipal lib canisterText = some target ∧
    (Memo.parseNeuronIdText memo = none → parseMemoDirective fromText memo = some (.topUp target))
  unused : result.keptOptionalMemo = [] ∧ result.truncatedOptionalMemo = []

/-- A memo of raw ICP mode: the entered principal, the subaccount of the entered number (none for
zero) and the kept memo. -/
structure RawIcpMemo (fromText : Text → Option Principal) (lib : PrincipalLibrary)
    (canisterText subaccountText optional : JsText) (result : AdvancedBuilder.AdvancedMemoResult)
    (memo : List UInt8) : Prop where
  built : BuiltMemo result memo
  read : ∃ target kept, enteredPrincipal lib canisterText = some target ∧
    result.keptOptionalMemo = units kept ∧ parseMemoDirective fromText memo =
      some (.rawIcp target (numberedSubaccount (bigInt (jsTrim subaccountText))) kept)
  optional : result.keptOptionalMemo ++ result.truncatedOptionalMemo = optional

structure ReadAsEntered (fromText : Text → Option Principal) (lib : PrincipalLibrary)
    (input : AdvancedBuilder.AdvancedMemoInput) (result : AdvancedBuilder.AdvancedMemoResult) :
    Prop where
  cycles : input.mode = .cycles → ∃ memo, CyclesMemo fromText lib input.canisterText result memo
  rawIcp : input.mode = .rawIcp → ∃ memo, RawIcpMemo fromText lib input.canisterText
    input.rawIcpSubaccountText input.optionalMemoText result memo
  other : input.mode = .other → ∃ memo, RawIcpMemo fromText lib input.canisterText []
    input.optionalMemoText result memo
  neuron : input.mode = .neuron → ∃ memo, NeuronMemo fromText input.neuronIdText
    input.optionalMemoText result memo

section Modes

variable {input : AdvancedBuilder.AdvancedMemoInput} {result : AdvancedBuilder.AdvancedMemoResult}
  {target optional : Text} {subaccountInput : JsText}

theorem cycles_memo (reads : ReadsPrincipals fromText lib) (ascii : target.all isAscii = true)
    (built : AdvancedBuilder.buildCanisterMemo lib .cycles (units target) (units optional)
      subaccountInput = some result) (ok : result.ok = true) :
    ∃ memo, CyclesMemo fromText lib (units target) result memo := by
  obtain ⟨⟨entered, declared⟩, outcome⟩ := buildCanisterMemo_ok ascii built ok
  rw [if_pos rfl] at outcome
  obtain ⟨short, rfl⟩ := outcome
  refine ⟨trim target, ⟨rfl, declared.ascii, short⟩,
    ⟨entered, declared.entered_eq ascii, ?_⟩, rfl, rfl⟩
  intro plain
  rw [parseMemoDirective_principal reads declared short, plain]

theorem rawIcp_memo (reads : ReadsPrincipals fromText lib) (ascii : target.all isAscii = true)
    (plain : optional.all isAscii = true) (raw : mode ≠ .cycles)
    (built : AdvancedBuilder.buildCanisterMemo lib mode (units target) (units optional)
      subaccountInput = some result) (ok : result.ok = true) :
    ∃ memo, RawIcpMemo fromText lib (units target) subaccountInput (units optional) result memo := by
  obtain ⟨⟨entered, declared⟩, outcome⟩ := buildCanisterMemo_ok ascii built ok
  rw [if_neg raw] at outcome
  obtain ⟨numbered, selector, kept, memo, parsedOutput, passed⟩ :=
    buildRawIcpMemo_ok plain outcome ok
  exact ⟨memo, ⟨passed.output, passed.shape.memo_ascii declared.ascii, passed.shape.short⟩,
    ⟨entered, kept, declared.entered_eq ascii, passed.keeps, raw_memo_read reads declared passed⟩,
    passed.whole⟩

theorem buildAdvancedMemo_ok (built : AdvancedBuilder.buildAdvancedMemo lib input = some result)
    (ok : result.ok = true) :
    hasOnlyAscii (if input.mode = .neuron then input.neuronIdText else input.canisterText) = true ∧
      hasOnlyAscii input.optionalMemoText = true ∧
      if input.mode = .neuron then
        result = AdvancedBuilder.buildNeuronMemo input.neuronIdText input.optionalMemoText
      else AdvancedBuilder.buildCanisterMemo lib input.mode input.canisterText
        input.optionalMemoText (if input.mode = .rawIcp then input.rawIcpSubaccountText else []) =
          some result := by
  by_cases neuron : input.mode = .neuron
  · simp only [AdvancedBuilder.buildAdvancedMemo, if_pos neuron] at built ⊢
    generalize (if input.mode = .rawIcp then input.rawIcpSubaccountText else []) = given at built
    split at built
    · cases built
      cases ok
    · rename_i ascii
      rw [Bool.not_eq_true', Bool.not_eq_false, Bool.and_eq_true, Bool.and_eq_true] at ascii
      exact ⟨ascii.1.1, ascii.1.2, (Option.some.inj built).symm⟩
  · simp only [AdvancedBuilder.buildAdvancedMemo, if_neg neuron] at built ⊢
    generalize (if input.mode = .rawIcp then input.rawIcpSubaccountText else []) = given at built ⊢
    split at built
    · cases built
      cases ok
    · rename_i ascii
      rw [Bool.not_eq_true', Bool.not_eq_false, Bool.and_eq_true, Bool.and_eq_true] at ascii
      exact ⟨ascii.1.1, ascii.1.2, built⟩

theorem built_memos_read (reads : ReadsPrincipals fromText lib)
    (built : AdvancedBuilder.buildAdvancedMemo lib input = some result) (ok : result.ok = true) :
    ReadAsEntered fromText lib input result := by
  obtain ⟨ascii, plain, outcome⟩ := buildAdvancedMemo_ok built ok
  obtain ⟨target, shown, target_ascii⟩ := exists_units ascii
  obtain ⟨optional, entered, optional_ascii⟩ := exists_units plain
  rw [entered] at outcome
  refine ⟨?_, ?_, ?_, ?_⟩
  · intro mode
    simp only [mode, reduceCtorEq, if_false] at outcome shown
    rw [shown] at outcome ⊢
    exact cycles_memo reads target_ascii outcome ok
  · intro mode
    simp only [mode, reduceCtorEq, if_false, if_true] at outcome shown
    rw [shown] at outcome
    rw [shown, entered]
    exact rawIcp_memo reads target_ascii optional_ascii (by decide) outcome ok
  · intro mode
    simp only [mode, reduceCtorEq, if_false] at outcome shown
    rw [shown] at outcome
    rw [shown, entered]
    exact rawIcp_memo reads target_ascii optional_ascii (by decide) outcome ok
  · intro mode
    simp only [mode, if_true] at outcome shown
    rw [shown] at outcome
    rw [outcome] at ok
    rw [shown, entered, outcome]
    exact neuron_memo target_ascii optional_ascii ok

end Modes

/-! ## Sample libraries -/

section Tables

variable {table : List (Text × Principal)}

def tableFromText (table : List (Text × Principal)) (text : Text) : Option Principal :=
  (table.find? fun entry => decide (entry.1 = text)).map Prod.snd

/-- The texts of principals outside the table are some others, one for each. -/
def tableLibrary (table : List (Text × Principal)) : PrincipalLibrary where
  fromText text :=
    if hasOnlyAscii text then tableFromText table (text.map UInt16.toUInt8) else none
  toText principal :=
    match table.find? fun entry => decide (entry.2 = principal) with
    | some entry => units entry.1
    | none => 65535 :: units principal.bytes

theorem tableLibrary_units (ascii : text.all isAscii = true) :
    (tableLibrary table).fromText (units text) = tableFromText table text := by
  have back : (units text).map UInt16.toUInt8 = text := by
    rw [units, List.map_map]
    conv_rhs => rw [← List.map_id text]
    apply List.map_congr_left
    intro byte _
    exact UInt8.toUInt8_toUInt16 byte
  simp only [tableLibrary, units_all_ascii, ascii, if_true, back]

theorem tableFromText_mem {principal : Principal}
    (decoded : tableFromText table text = some principal) : (text, principal) ∈ table := by
  obtain ⟨entry, found, rfl⟩ := Option.map_eq_some_iff.mp decoded
  have judged := List.find?_some found
  have same : entry.1 = text := of_decide_eq_true judged
  rw [← same]
  exact List.mem_of_find?_eq_some found

theorem outside_text (text : Text) (bytes : List UInt8) : units text ≠ 65535 :: units bytes := by
  intro same
  cases text with
  | nil => cases same
  | cons byte rest =>
      have head : byte.toUInt16 = 65535 := (List.cons.inj same).1
      have size : byte.toUInt16.toNat = 65535 := by
        rw [head]
        rfl
      rw [toNat_toUInt16] at size
      have range := byte.toNat_lt
      omega

theorem tableLibrary_injective
    (apart : ∀ entry ∈ table, ∀ other ∈ table, entry.1 = other.1 → entry.2 = other.2)
    {principal other : Principal}
    (same : (tableLibrary table).toText principal = (tableLibrary table).toText other) :
    principal = other := by
  simp only [tableLibrary] at same
  split at same
  · rename_i entry found
    have judged := List.find?_some found
    have own : entry.2 = principal := of_decide_eq_true judged
    split at same
    · rename_i second there
      have judged := List.find?_some there
      have others : second.2 = other := of_decide_eq_true judged
      rw [← own, ← others]
      exact apart entry (List.mem_of_find?_eq_some found) second
        (List.mem_of_find?_eq_some there) (units_injective same)
    · exact absurd same (outside_text _ _)
  · split at same
    · exact absurd same.symm (outside_text _ _)
    · have bytes := units_injective (List.cons.inj same).2
      cases principal
      cases other
      exact congrArg _ bytes

theorem tableLibrary_reads
    (apart : ∀ entry ∈ table, ∀ other ∈ table, entry.1 = other.1 → entry.2 = other.2)
    (alphabet : ∀ entry ∈ table, entry.1.all isPrincipalByte = true)
    (anonymous : (tableLibrary table).toText anonymous = anonymousPrincipalText)
    (management : (tableLibrary table).toText managementCanister = managementPrincipalText)
    (eventHorizon : (tableLibrary table).fromText eventHorizonCanisterText =
      some eventHorizonCanisterId) : ReadsPrincipals (tableFromText table) (tableLibrary table) where
  decodes text principal ascii decoded := by
    rw [← decoded, tableLibrary_units ascii]
  alphabet text principal ascii decoded := by
    rw [tableLibrary_units ascii] at decoded
    exact alphabet _ (tableFromText_mem decoded)
  injective _ _ same := tableLibrary_injective apart same
  anonymous := anonymous
  management := management
  eventHorizon := eventHorizon

/-- A principal of six bytes, whose text 27667-24257-47322-2 has only digits. -/
def neuronLikeTarget : Principal := ⟨[154, 239, 249, 253, 235, 90]⟩

def neuronLikeText : Text :=
  [50, 55, 54, 54, 55, 45, 50, 52, 50, 53, 55, 45, 52, 55, 51, 50, 50, 45, 50]

def builderTable : List (Text × Principal) := (neuronLikeText, neuronLikeTarget) :: parityTable

theorem builderTable_reads :
    ReadsPrincipals (tableFromText builderTable) (tableLibrary builderTable) :=
  tableLibrary_reads (by decide +kernel) (by decide +kernel) (by decide +kernel)
    (by decide +kernel) (by decide +kernel)

/-- Subaccount 7 of the canister, with an optional memo of 15 characters. -/
def rawIcpSample : AdvancedBuilder.AdvancedMemoInput where
  mode := .rawIcp
  canisterText := 32 :: units paritySampleText
  neuronIdText := []
  rawIcpSubaccountText := [48, 48, 55]
  optionalMemoText := List.replicate 15 97

def rawIcpSampleMemo : AdvancedBuilder.AdvancedMemoResult :=
  AdvancedBuilder.builtResult (units (withoutDashes paritySampleText) ++ [58, 55, 46] ++
    List.replicate 6 97) 6 (List.replicate 6 97) (List.replicate 9 97)
      ⟨some (List.replicate 31 0 ++ [7]), some [55]⟩

theorem built_memos_read_of_sample :
    ReadAsEntered (tableFromText builderTable) (tableLibrary builderTable) rawIcpSample
      rawIcpSampleMemo :=
  built_memos_read builderTable_reads (by decide +kernel) (by decide)

def cyclesSample (canisterText : Text) (optional : JsText) : AdvancedBuilder.AdvancedMemoInput :=
  ⟨.cycles, units canisterText, [], [], optional⟩

/-- In cycles mode an optional memo is neither kept nor shown as truncated, and the compact text of a
principal in digits makes a memo that stakes a neuron. -/
theorem cycles_memo_misread :
    ReadsPrincipals (tableFromText builderTable) (tableLibrary builderTable) ∧
      AdvancedBuilder.buildAdvancedMemo (tableLibrary builderTable)
          (cyclesSample paritySampleText [97]) =
        some (AdvancedBuilder.builtResult (units paritySampleText) 0 [] [] .default) ∧
      AdvancedBuilder.buildAdvancedMemo (tableLibrary builderTable)
          (cyclesSample (withoutDashes neuronLikeText) []) =
        some (AdvancedBuilder.builtResult (units (withoutDashes neuronLikeText)) 0 [] [] .default) ∧
      enteredPrincipal (tableLibrary builderTable) (units (withoutDashes neuronLikeText)) =
        some neuronLikeTarget ∧
      parseMemoDirective (tableFromText builderTable) (withoutDashes neuronLikeText) =
        some (.neuronStake 2766724257473222 none) :=
  ⟨builderTable_reads, by decide +kernel, by decide +kernel, by decide +kernel, by decide +kernel⟩

end Tables

end JupiterSuite.Memo
