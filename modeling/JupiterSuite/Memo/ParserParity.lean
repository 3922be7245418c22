import JupiterSuite.Memo.FrontendText

/-! The canister's and the frontend's memo parsers side by side. They agree on every memo but two
kinds: a numbered destination whose owner is followed by a vertical tab, and a principal whose
compact text is only digits. -/

namespace JupiterSuite.Memo

open Memo.Frontend

/-- Bytes and a text of the same characters. Bytes that are not ASCII are some character that is
not, whether they are read as UTF-8 or one by one. -/
structure SameCharacters (memo : List UInt8) (text : JsText) : Prop where
  ascii : memo.all isAscii = true → text = units memo
  other : memo.all isAscii = false → hasOnlyAscii text = false

def SameDirective : Option MemoDirective → JupiterMemo → Prop
  | none, .invalid _ => True
  | some (.topUp canisterId), .cyclesTopUp shownId _ _ => canisterId = shownId
  | some (.rawIcp canisterId destinationSubaccount memo),
      .rawIcpCanister shownId _ shownSubaccount _ outgoingMemoText _ =>
        canisterId = shownId ∧ destinationSubaccount = shownSubaccount ∧
          outgoingMemoText = units memo
  | some (.neuronStake neuronId memo), .neuronStake shownId outgoingMemoText _ =>
      neuronId = shownId ∧ outgoingMemoText = memo.map units
  | _, _ => False

/-- The letters, digits and dashes of principal texts. -/
def isPrincipalByte (byte : UInt8) : Bool :=
  decide (65 ≤ byte ∧ byte ≤ 90) || decide (97 ≤ byte ∧ byte ≤ 122) ||
    decide (50 ≤ byte ∧ byte ≤ 55) || decide (byte = 45)

/-- Both principal libraries decode alike, and only base32 with dashes; the frontend's writes the
reserved principals as their known texts. -/
structure DecodesAlike (fromText : Text → Option Principal) (lib : PrincipalLibrary) : Prop where
  same : ∀ text, text.all isAscii = true → lib.fromText (units text) = fromText text
  alphabet : ∀ text principal, fromText text = some principal → text.all isPrincipalByte = true
  anonymous : ∀ principal, lib.toText principal = anonymousPrincipalText ↔ principal = anonymous
  management : ∀ principal,
    lib.toText principal = managementPrincipalText ↔ principal = managementCanister
  eventHorizon : lib.fromText eventHorizonCanisterText = some eventHorizonCanisterId

/-- A numbered raw destination whose owner carries a vertical tab and no other white space. -/
def TabDestination (fromText : Text → Option Principal) (declared : Text) : Prop :=
  ∃ ownerText numberText, splitOnce 58 (trim declared) = some (ownerText, numberText) ∧
    11 ∈ ownerText ∧ ownerText.any isAsciiWhitespace = false ∧
    (Memo.parseDeclaredPrincipalText fromText ownerText).isSome = true ∧
    (Memo.parseNumberedSubaccountText numberText).isSome = true

def VerticalTabMemo (fromText : Text → Option Principal) (memo : List UInt8) : Prop :=
  memo.length ≤ maxTargetCanisterMemoBytes ∧ memo.all isAscii = true ∧
    ∃ declared rawMemo, splitOnce 46 memo = some (declared, rawMemo) ∧
      TabDestination fromText declared

/-- The compact text of a principal that is only digits, and no neuron id. -/
def DigitPrincipalMemo (fromText : Text → Option Principal) (memo : List UInt8) : Prop :=
  memo.length ≤ maxTargetCanisterMemoBytes ∧ memo.all isAscii = true ∧
    (trim memo).all isAsciiDigit = true ∧ Memo.parseNeuronIdText (trim memo) = none ∧
    (Memo.parseDeclaredPrincipalText fromText memo).isSome = true

section Numbers

variable {text : Text}

theorem bigInt_units (text : Text) : bigInt (units text) =
    text.foldl (fun value byte => 10 * value + (byte.toNat - 48)) 0 := by
  simp only [bigInt, units, List.foldl_map, toNat_toUInt16]

theorem parseU64_eq (text : Text) : parseU64 text =
    if u64Max < bigInt (units text) then none else some (bigInt (units text)) := by
  simp only [parseU64, bigInt_units]
  by_cases fits : text.foldl (fun value byte => 10 * value + (byte.toNat - 48)) 0 ≤ u64Max
  · rw [if_pos fits, if_neg (Nat.not_lt.mpr fits)]
  · rw [if_neg fits, if_pos (Nat.lt_of_not_le fits)]

theorem parseNeuronIdText_units (ascii : text.all isAscii = true) :
    Frontend.parseNeuronIdText (units text) = Memo.parseNeuronIdText text := by
  simp only [Frontend.parseNeuronIdText, Memo.parseNeuronIdText, units_isEmpty,
    byteLength_units ascii, units_hasOnlyDigits, parseU64_eq]
  generalize bigInt (units text) = neuronId
  cases text.isEmpty with
  | true => simp only [Bool.true_or, if_true]
  | false =>
      cases decide (maxNeuronIdMemoBytes < text.length) with
      | true => simp only [Bool.false_or, Bool.true_or, if_true]
      | false =>
          cases text.all isAsciiDigit with
          | false => simp
          | true =>
              by_cases large : u64Max < neuronId
              · simp [large]
              · by_cases zero : neuronId = 0
                · subst zero
                  rfl
                · simp [zero, large, Option.filter_some]

theorem ofNat_mod_byte (number : Nat) : UInt8.ofNat (number % 256) = UInt8.ofNat number := by
  apply UInt8.toNat_inj.mp
  simp

/-- The loop fills in the bytes of the number, the highest first. -/
theorem fillBytes_eq (number : Nat) : fillBytes 8 number [] = u64ToBeBytes number := by
  have shifts : ∀ count, number / 256 ^ count / 256 = number / 256 ^ (count + 1) := by
    intro count
    rw [Nat.div_div_eq_div_mul, Nat.pow_succ]
  have bytes : fillBytes 8 number [] = [UInt8.ofNat (number / 256 ^ 7),
      UInt8.ofNat (number / 256 ^ 6), UInt8.ofNat (number / 256 ^ 5),
      UInt8.ofNat (number / 256 ^ 4), UInt8.ofNat (number / 256 ^ 3),
      UInt8.ofNat (number / 256 ^ 2), UInt8.ofNat (number / 256), UInt8.ofNat number] := by
    have second : number / 256 / 256 = number / 256 ^ 2 := shifts 1
    simp only [fillBytes, ofNat_mod_byte]
    rw [second, shifts, shifts, shifts, shifts, shifts]
  exact bytes

theorem numberedSubaccountFromBigInt_eq (number : Nat) :
    numberedSubaccountFromBigInt number = numberedSubaccount number := by
  rw [numberedSubaccountFromBigInt, numberedSubaccount, fillBytes_eq]

theorem dropWhile_solid {text : Text} (solid : text.any isWhitespace = false) :
    text.dropWhile isWhitespace = text := by
  cases text with
  | nil => rfl
  | cons byte rest =>
      simp only [List.any_cons, Bool.or_eq_false_iff] at solid
      rw [List.dropWhile_cons, if_neg (Bool.eq_false_iff.mp solid.1)]

theorem trim_solid (solid : text.any isWhitespace = false) : trim text = text := by
  have reversed : text.reverse.any isWhitespace = false := by
    rw [List.any_reverse]
    exact solid
  rw [trim, dropWhile_solid solid, dropWhile_solid reversed, List.reverse_reverse]

/-- Without white space the number of a destination is read alike. -/
theorem parseNumberedSubaccountText_units (ascii : text.all isAscii = true)
    (solid : text.any isWhitespace = false) :
    (Frontend.parseNumberedSubaccountText (units text) false).toOption.map
        NumberedSubaccount.destinationSubaccount = Memo.parseNumberedSubaccountText text := by
  simp only [Frontend.parseNumberedSubaccountText, Memo.parseNumberedSubaccountText,
    jsTrim_units ascii, trim_solid solid, units_isEmpty, units_hasOnlyDigits, parseU64_eq]
  generalize bigInt (units text) = number
  cases text.isEmpty with
  | true => rfl
  | false =>
      cases text.all isAsciiDigit with
      | false => rfl
      | true =>
          by_cases large : u64Max < number
          · simp [large, Except.toOption]
          · simp [large, Except.toOption, numberedSubaccountFromBigInt_eq]

end Numbers

variable {byte : UInt8} {rest : List UInt8}

section Principals

variable {fromText : Text → Option Principal} {lib : PrincipalLibrary} {text : Text}

theorem separators_subset : text ⊆ Memo.principalTextWithGroupSeparators text := by
  intro byte member
  rw [Memo.principalTextWithGroupSeparators]
  split
  · exact member
  · obtain ⟨index, within, rfl⟩ := List.getElem_of_mem member
    apply List.mem_flatMap.mpr
    refine ⟨(text[index], index), ?_, ?_⟩
    · rw [List.mk_mem_zipIdx_iff_getElem?]
      exact List.getElem?_eq_getElem within
    · dsimp only
      split <;> simp

theorem separators_ascii (ascii : text.all isAscii = true) :
    (Memo.principalTextWithGroupSeparators text).all isAscii = true := by
  rw [List.all_eq_true] at ascii ⊢
  intro byte member
  rw [Memo.principalTextWithGroupSeparators] at member
  split at member
  · exact ascii byte member
  · rcases List.mem_flatMap.mp member with ⟨entry, listed, here⟩
    have known := ascii entry.1 (List.fst_mem_of_mem_zipIdx listed)
    split at here
    · rcases List.mem_cons.mp here with rfl | last
      · rfl
      · rwa [List.mem_singleton.mp last]
    · rwa [List.mem_singleton.mp here]

theorem filter_reserved (decoded : Option Principal) :
    (decoded.filter fun principal => principal ≠ anonymous && principal ≠ managementCanister) =
      decoded.bind fun principal =>
        if principal = anonymous then none
        else if principal = managementCanister then none else some principal := by
  cases decoded with
  | none => rfl
  | some principal =>
      rw [Option.filter_some, Option.bind_some]
      by_cases isAnonymous : principal = anonymous
      · simp only [isAnonymous, ne_eq, not_true_eq_false, decide_false, Bool.false_and,
          Bool.false_eq_true, if_false, if_true]
      · by_cases isManagement : principal = managementCanister
        · simp only [isManagement, ne_eq, not_true_eq_false, decide_false, Bool.and_false,
            Bool.false_eq_true, if_false, if_true, ite_self]
        · simp only [isAnonymous, isManagement, ne_eq, not_false_eq_true, decide_true,
            Bool.and_self, if_true, if_false]

theorem parseDeclaredPrincipalText_units (alike : DecodesAlike fromText lib)
    (ascii : text.all isAscii = true) :
    (Frontend.parseDeclaredPrincipalText lib (units text)).toOption.map
        DeclaredPrincipal.principal = Memo.parseDeclaredPrincipalText fromText text := by
  have trimmed := trim_ascii ascii
  simp only [Frontend.parseDeclaredPrincipalText, Memo.parseDeclaredPrincipalText,
    jsTrim_units ascii, units_isEmpty, byteLength_units trimmed,
    principalTextWithGroupSeparators_units trimmed, alike.same _ (separators_ascii trimmed),
    filter_reserved]
  cases (trim text).isEmpty with
  | true => rfl
  | false =>
      by_cases long : maxTargetCanisterMemoBytes < (trim text).length
      · simp only [long, decide_true, Bool.or_true, if_true, Bool.false_eq_true, if_false]
        rfl
      · simp only [long, decide_false, Bool.or_self, Bool.false_eq_true, if_false]
        cases fromText (Memo.principalTextWithGroupSeparators (trim text)) with
        | none => rfl
        | some principal =>
            simp only [alike.anonymous, alike.management, Option.bind_some]
            split
            · rfl
            · split <;> rfl

theorem parseDeclaredPrincipalText_none (alike : DecodesAlike fromText lib)
    (member : byte ∈ trim text) (foreign : isPrincipalByte byte = false) :
    Memo.parseDeclaredPrincipalText fromText text = none := by
  simp only [Memo.parseDeclaredPrincipalText]
  split
  · rfl
  · cases decoded : fromText (Memo.principalTextWithGroupSeparators (trim text)) with
    | none => rfl
    | some principal =>
        have known := List.all_eq_true.mp (alike.alphabet _ principal decoded) byte
          (separators_subset member)
        rw [foreign] at known
        cases known

end Principals

section Destinations

variable {fromText : Text → Option Principal} {lib : PrincipalLibrary} {text : Text}

theorem indexOf_isSome (separator : UInt8) (text : Text) :
    (indexOf separator.toUInt16 (units text)).isSome = text.contains separator := by
  rw [indexOf_units, List.findIdx?_isSome, Bool.eq_iff_iff, List.any_eq_true,
    List.contains_iff_mem]
  constructor
  · rintro ⟨byte, member, same⟩
    rwa [← of_decide_eq_true same]
  · intro member
    exact ⟨separator, member, decide_eq_true rfl⟩

theorem any_isJsWhitespace (ascii : text.all isAscii = true) :
    (units text).any isJsWhitespace = text.any isWhitespace := by
  induction text with
  | nil => rfl
  | cons byte rest ih =>
      simp only [List.all_cons, Bool.and_eq_true] at ascii
      have later := ih ascii.2
      simp only [units, List.map_cons, List.any_cons, isJsWhitespace_toUInt16 ascii.1] at later ⊢
      rw [later]

theorem any_isWhitespace (text : Text) :
    text.any isWhitespace = (text.any isAsciiWhitespace || text.contains 11) := by
  induction text with
  | nil => rfl
  | cons byte rest ih =>
      have flip : (11 == byte) = decide (byte = 11) := by
        rw [Bool.eq_iff_iff, beq_iff_eq, decide_eq_true_eq]
        exact eq_comm
      rw [List.any_cons, List.any_cons, List.contains_cons, ih, isWhitespace_eq, flip]
      cases isAsciiWhitespace byte <;> cases decide (byte = 11) <;> simp

/-- What a numbered destination declares, once its form is checked. -/
def numberedDestination (fromText : Text → Option Principal) (ownerText numberText : Text) :
    Option (Principal × Option (List UInt8)) :=
  match Memo.parseDeclaredPrincipalText fromText ownerText with
  | none => none
  | some owner => (Memo.parseNumberedSubaccountText numberText).map fun sub => (owner, sub)

theorem parseRawDestinationText_some {ownerText numberText : Text}
    (split : splitOnce 58 (trim text) = some (ownerText, numberText)) :
    Memo.parseRawDestinationText fromText text =
      if numberText.contains 58 || (trim text).any isAsciiWhitespace then none
      else numberedDestination fromText ownerText numberText := by
  simp only [Memo.parseRawDestinationText, split]
  cases ownerText with
  | nil =>
      have nothing : Memo.parseDeclaredPrincipalText fromText [] = none := rfl
      simp only [numberedDestination, nothing, List.isEmpty_nil, Bool.true_or, ite_self]
  | cons first others =>
      cases numberText with
      | nil =>
          have nothing : Memo.parseNumberedSubaccountText [] = none := rfl
          simp only [numberedDestination, nothing, List.isEmpty_nil, Bool.or_true, Bool.true_or,
            if_true, Option.map_none]
          cases Memo.parseDeclaredPrincipalText fromText (first :: others) <;> simp
      | cons digit digits => rfl

def shownDestination (parsed : DeclaredPrincipal × NumberedSubaccount) :
    Principal × Option (List UInt8) :=
  (parsed.1.principal, parsed.2.destinationSubaccount)

theorem parseRawDestinationText_units (alike : DecodesAlike fromText lib)
    (ascii : text.all isAscii = true) :
    (Frontend.parseRawDestinationText lib (units text)).toOption.map shownDestination =
      if (splitOnce 58 (trim text)).isSome && (trim text).contains 11 then none
      else Memo.parseRawDestinationText fromText text := by
  have trimmed := trim_ascii ascii
  simp only [Frontend.parseRawDestinationText, jsTrim_units ascii]
  cases split : splitOnce 58 (trim text) with
  | none =>
      have whole : indexOf 58 (units (trim text)) = none := indexOf_none split
      have declared := parseDeclaredPrincipalText_units alike trimmed
      simp only [whole, Option.isSome_none, Bool.false_and, Bool.false_eq_true, if_false,
        Memo.parseRawDestinationText, split, ← declared]
      cases Frontend.parseDeclaredPrincipalText lib (units (trim text)) <;> rfl
  | some parts =>
      rcases parts with ⟨ownerText, numberText⟩
      rcases indexOf_some split with ⟨index, found, before, after, joined, _⟩
      have found' : indexOf 58 (units (trim text)) = some index := found
      have colon : (indexOf 58 (units numberText)).isSome = numberText.contains 58 :=
        indexOf_isSome 58 numberText
      have owned : ownerText.all isAscii = true ∧ numberText.all isAscii = true := by
        rw [joined, List.all_append, List.all_cons] at trimmed
        simp only [Bool.and_eq_true] at trimmed
        exact ⟨trimmed.1, trimmed.2.2⟩
      simp only [found', before, after, colon, any_isJsWhitespace trimmed, any_isWhitespace,
        parseRawDestinationText_some split, Option.isSome_some, Bool.true_and]
      cases tab : (trim text).contains 11 with
      | true =>
          simp only [Bool.or_true, if_true]
          rfl
      | false =>
          simp only [Bool.or_false, Bool.false_eq_true, if_false]
          cases shape : (numberText.contains 58 || (trim text).any isAsciiWhitespace) with
          | true => rfl
          | false =>
              have solid : numberText.any isWhitespace = false := by
                have all : (trim text).any isWhitespace = false := by
                  rw [any_isWhitespace, tab, (Bool.or_eq_false_iff.mp shape).2, Bool.or_false]
                rw [joined, List.any_append, List.any_cons] at all
                simp only [Bool.or_eq_false_iff] at all
                exact all.2.2
              have declared := parseDeclaredPrincipalText_units alike owned.1
              have numbered := parseNumberedSubaccountText_units owned.2 solid
              simp only [Bool.false_eq_true, if_false, numberedDestination, ← declared,
                ← numbered]
              cases Frontend.parseDeclaredPrincipalText lib (units ownerText) with
              | error reason => rfl
              | ok parsedOwner =>
                  cases Frontend.parseNumberedSubaccountText (units numberText) false <;> rfl

end Destinations

section Directives

variable {fromText : Text → Option Principal} {lib : PrincipalLibrary} {memo declared : Text}

theorem digit_solid (digit : isAsciiDigit byte = true) : byte ≠ 58 ∧ isWhitespace byte = false := by
  revert digit
  apply of_byte_range _ byte
  decide +kernel

theorem digits_solid {text : Text} (digits : text.all isAsciiDigit = true) :
    58 ∉ text ∧ text.any isWhitespace = false := by
  rw [List.all_eq_true] at digits
  constructor
  · intro colon
    exact (digit_solid (digits 58 colon)).1 rfl
  · rw [List.any_eq_false]
    intro byte member
    exact Bool.eq_false_iff.mp (digit_solid (digits byte member)).2

theorem parseNumberedSubaccountText_digits {text : Text}
    (read : (Memo.parseNumberedSubaccountText text).isSome = true) :
    text.all isAsciiDigit = true := by
  simp only [Memo.parseNumberedSubaccountText] at read
  split at read
  · cases read
  · rename_i shape
    simp only [Bool.or_eq_true, not_or, Bool.not_eq_true, Bool.not_eq_false'] at shape
    exact shape.2

theorem tabDestination_iff : TabDestination fromText declared ↔
    ((splitOnce 58 (trim declared)).isSome && (trim declared).contains 11) = true ∧
      (Memo.parseRawDestinationText fromText declared).isSome = true := by
  constructor
  · rintro ⟨ownerText, numberText, split, tab, clean, owner, number⟩
    rcases indexOf_some split with ⟨_, _, _, _, joined, _⟩
    rcases digits_solid (parseNumberedSubaccountText_digits number) with ⟨colon, solid⟩
    have colonless : numberText.contains 58 = false := by
      rw [Bool.eq_false_iff]
      exact fun found => colon (List.contains_iff_mem.mp found)
    have blank : (trim declared).any isAsciiWhitespace = false := by
      rw [any_isWhitespace, Bool.or_eq_false_iff] at solid
      rw [joined, List.any_append, List.any_cons, clean, solid.1]
      rfl
    refine ⟨?_, ?_⟩
    · rw [split, joined]
      simp [tab]
    · rw [parseRawDestinationText_some split, colonless, blank]
      rcases Option.isSome_iff_exists.mp owner with ⟨principal, decoded⟩
      rw [Bool.or_self, if_neg Bool.false_ne_true, numberedDestination, decoded]
      dsimp only
      rwa [Option.isSome_map]
  · rintro ⟨tabbed, accepted⟩
    rw [Bool.and_eq_true] at tabbed
    rcases Option.isSome_iff_exists.mp tabbed.1 with ⟨⟨ownerText, numberText⟩, split⟩
    rcases indexOf_some split with ⟨_, _, _, _, joined, _⟩
    rw [parseRawDestinationText_some split] at accepted
    split at accepted
    · cases accepted
    · rename_i shape
      simp only [Bool.or_eq_true, not_or, Bool.not_eq_true] at shape
      simp only [numberedDestination] at accepted
      cases decoded : Memo.parseDeclaredPrincipalText fromText ownerText with
      | none =>
          rw [decoded] at accepted
          cases accepted
      | some principal =>
          rw [decoded] at accepted
          dsimp only at accepted
          rw [Option.isSome_map] at accepted
          have clean := shape.2
          rw [joined, List.any_append, Bool.or_eq_false_iff] at clean
          have tab : 11 ∈ ownerText := by
            have found := List.contains_iff_mem.mp tabbed.2
            rw [joined, List.mem_append, List.mem_cons] at found
            rcases found with mine | impossible | later
            · exact mine
            · cases impossible
            · have digit := List.all_eq_true.mp (parseNumberedSubaccountText_digits accepted)
                11 later
              cases digit
          exact ⟨ownerText, numberText, split, tab, clean.1, by rw [decoded]; rfl, accepted⟩

theorem parseDottedMemo_same (alike : DecodesAlike fromText lib)
    (ascii : declared.all isAscii = true) (rawMemo : Text) :
    SameDirective (parseDeclaredMemo fromText declared rawMemo)
        (parseDottedMemo lib (units declared) (units rawMemo)) ↔
      ¬ TabDestination fromText declared := by
  have trimmed := trim_ascii ascii
  have raw := parseRawDestinationText_units alike trimmed
  have again : Memo.parseRawDestinationText fromText (trim declared) =
      Memo.parseRawDestinationText fromText declared := by
    simp only [Memo.parseRawDestinationText, trim_trim]
  rw [trim_trim, again] at raw
  simp only [parseDottedMemo, parseDeclaredMemo, jsTrim_units ascii,
    parseNeuronIdText_units trimmed]
  cases neuron : Memo.parseNeuronIdText (trim declared) with
  | some neuronId =>
      have digits : (trim declared).all isAsciiDigit = true := by
        simp only [Memo.parseNeuronIdText] at neuron
        split at neuron
        · cases neuron
        · split at neuron
          · cases neuron
          · rename_i digits
            simpa using digits
      refine iff_of_true ⟨rfl, rfl⟩ ?_
      rintro ⟨ownerText, numberText, split, _⟩
      rcases indexOf_some split with ⟨_, _, _, _, joined, _⟩
      exact (digits_solid digits).1 (by rw [joined]; simp)
  | none =>
      dsimp only
      rw [tabDestination_iff]
      cases tab : ((splitOnce 58 (trim declared)).isSome && (trim declared).contains 11) with
      | true =>
          rw [tab] at raw
          cases shown : Frontend.parseRawDestinationText lib (units (trim declared)) with
          | ok parsed =>
              rw [shown] at raw
              cases raw
          | error reason =>
              cases Memo.parseRawDestinationText fromText declared with
              | none => simp [SameDirective]
              | some destination => simp [SameDirective]
      | false =>
          rw [tab, if_neg Bool.false_ne_true] at raw
          rw [← raw]
          refine iff_of_true ?_ (fun impossible => Bool.false_ne_true impossible.1)
          cases Frontend.parseRawDestinationText lib (units (trim declared)) with
          | error reason => trivial
          | ok parsed => exact ⟨rfl, rfl, rfl⟩

theorem selector_none (alike : DecodesAlike fromText lib)
    (selector : isSelectorWithoutStop lib (units (trim memo)) = true) :
    Memo.parseDeclaredPrincipalText fromText memo = none := by
  have found : (indexOf 58 (units (trim memo))).isSome = true := by
    simp only [isSelectorWithoutStop, selectorMatch] at selector
    cases place : indexOf 58 (units (trim memo)) with
    | none =>
        rw [place] at selector
        cases selector
    | some index => rfl
  have colon : (trim memo).contains 58 = true := (indexOf_isSome 58 (trim memo)).symm.trans found
  exact parseDeclaredPrincipalText_none alike (List.contains_iff_mem.mp colon) rfl

theorem parsePlainMemo_same (alike : DecodesAlike fromText lib) (ascii : memo.all isAscii = true) :
    SameDirective
        (match Memo.parseNeuronIdText (trim memo) with
          | some neuronId => some (.neuronStake neuronId none)
          | none => (Memo.parseDeclaredPrincipalText fromText memo).map .topUp)
        (parsePlainMemo lib (units memo)) ↔
      ¬ ((trim memo).all isAsciiDigit = true ∧ Memo.parseNeuronIdText (trim memo) = none ∧
        (Memo.parseDeclaredPrincipalText fromText memo).isSome = true) := by
  have declared := parseDeclaredPrincipalText_units alike ascii
  simp only [parsePlainMemo, jsTrim_units ascii, parseNeuronIdText_units (trim_ascii ascii),
    units_hasOnlyDigits]
  cases neuron : Memo.parseNeuronIdText (trim memo) with
  | some neuronId => simp [SameDirective]
  | none =>
      dsimp only
      cases digits : (!(trim memo).isEmpty && (trim memo).all isAsciiDigit) with
      | true =>
          rw [Bool.and_eq_true] at digits
          rw [if_pos rfl, digits.2]
          cases Memo.parseDeclaredPrincipalText fromText memo with
          | none => simp [SameDirective]
          | some principal => simp [SameDirective]
      | false =>
          rw [if_neg Bool.false_ne_true]
          refine iff_of_true ?_ ?_
          · split
            · rename_i selector
              rw [selector_none alike selector]
              trivial
            · rw [← declared]
              cases Frontend.parseDeclaredPrincipalText lib (units memo) with
              | error reason => trivial
              | ok parsed => rfl
          · rintro ⟨all, _, accepted⟩
            rw [all, Bool.and_true, Bool.not_eq_false'] at digits
            rw [Memo.parseDeclaredPrincipalText, digits] at accepted
            cases accepted

end Directives

section Memos

variable {fromText : Text → Option Principal} {lib : PrincipalLibrary} {memo : List UInt8}

theorem units_alias {suffix : JsText} (shown : units memo = 69 :: 46 :: suffix) :
    ∃ rest, memo = 69 :: 46 :: rest := by
  rcases memo with _ | ⟨first, _ | ⟨second, rest⟩⟩
  · exact absurd shown (by simp [units])
  · exact absurd shown (by simp [units])
  · simp only [units, List.map_cons, List.cons.injEq] at shown
    have same : first = 69 := UInt8.toUInt16_inj.mp shown.1
    have stop : second = 46 := UInt8.toUInt16_inj.mp shown.2.1
    exact ⟨rest, by rw [same, stop]⟩

theorem mem_dropWhile_or {text : Text} (member : byte ∈ text) :
    byte ∈ text.dropWhile isWhitespace ∨ isWhitespace byte = true := by
  induction text with
  | nil => cases member
  | cons front rest ih =>
      rw [List.dropWhile_cons]
      split
      · rename_i blank
        rcases List.mem_cons.mp member with rfl | later
        · exact .inr blank
        · exact ih later
      · exact .inl member

theorem mem_trim_or {text : Text} (member : byte ∈ text) :
    byte ∈ trim text ∨ isWhitespace byte = true := by
  rcases mem_dropWhile_or member with front | blank
  · rcases mem_dropWhile_or (List.mem_reverse.mpr front) with back | blank
    · exact .inl (List.mem_reverse.mpr back)
    · exact .inr blank
  · exact .inr blank

theorem digits_undotted (digits : (trim memo).all isAsciiDigit = true) : 46 ∉ memo := by
  intro stop
  rcases mem_trim_or stop with inside | blank
  · cases List.all_eq_true.mp digits 46 inside
  · cases blank

theorem mem_of_splitOnce {text before after : Text} {separator : UInt8}
    (split : splitOnce separator text = some (before, after)) : separator ∈ text := by
  rcases indexOf_some split with ⟨_, _, _, _, joined, _⟩
  rw [joined]
  simp

/-- The checks that a memo gets past before it is read. -/
structure Readable (memo : List UInt8) : Prop where
  ascii : memo.all isAscii = true
  short : memo.length ≤ maxTargetCanisterMemoBytes
  filled : (trim memo).isEmpty = false

theorem Readable.present (readable : Readable memo) : memo.isEmpty = false := by
  cases memo with
  | nil => cases readable.filled
  | cons first rest => rfl

theorem Readable.checked (readable : Readable memo) :
    (memo.isEmpty || decide (maxTargetCanisterMemoBytes < memo.length) || !memo.all isAscii) =
      false := by
  rw [readable.present, readable.ascii, decide_eq_false (Nat.not_lt.mpr readable.short)]
  rfl

theorem parseMemoDirective_plain (readable : Readable memo)
    (unlike : ∀ rest, memo ≠ 69 :: 46 :: rest) : parseMemoDirective fromText memo =
      match splitOnce 46 memo with
      | some (declared, rawMemo) => parseDeclaredMemo fromText declared rawMemo
      | none =>
          match Memo.parseNeuronIdText (trim memo) with
          | some neuronId => some (.neuronStake neuronId none)
          | none => (Memo.parseDeclaredPrincipalText fromText memo).map .topUp := by
  rw [parseMemoDirective.eq_def, readable.checked, if_neg Bool.false_ne_true]
  split
  · rename_i suffix
    exact absurd rfl (unlike suffix)
  · have filled := Bool.eq_false_iff.mp readable.filled
    exact (if_neg filled).trans rfl

theorem parseMemoDirective_alias (readable : Readable (69 :: 46 :: rest)) :
    parseMemoDirective fromText (69 :: 46 :: rest) =
      if rest.isEmpty then none else some (.rawIcp eventHorizonCanisterId none rest) := by
  rw [parseMemoDirective.eq_def, readable.checked, if_neg Bool.false_ne_true]
  rfl

theorem parseJupiterMemo_plain (readable : Readable memo)
    (unlike : ∀ rest, memo ≠ 69 :: 46 :: rest) : Frontend.parseJupiterMemo lib (units memo) =
      match indexOf 46 (units memo) with
      | some dotIndex => some (parseDottedMemo lib ((units memo).take dotIndex)
          ((units memo).drop (dotIndex + 1)))
      | none => some (parsePlainMemo lib (units memo)) := by
  rw [Frontend.parseJupiterMemo.eq_def, units_isEmpty, readable.present, units_all_ascii, readable.ascii,
    byteLength_units readable.ascii, jsTrim_units readable.ascii, units_isEmpty, readable.filled,
    if_neg Bool.false_ne_true, Bool.not_true, if_neg Bool.false_ne_true,
    if_neg (Nat.not_lt.mpr readable.short), if_neg Bool.false_ne_true]
  split
  · rename_i suffix shown
    obtain ⟨rest, same⟩ := units_alias shown
    exact absurd same (unlike rest)
  · rfl

theorem parseJupiterMemo_alias (readable : Readable (69 :: 46 :: rest)) :
    Frontend.parseJupiterMemo lib (units (69 :: 46 :: rest)) =
      eventHorizonMemo lib (units (69 :: 46 :: rest)) (units rest) := by
  rw [Frontend.parseJupiterMemo.eq_def, units_isEmpty, readable.present, units_all_ascii, readable.ascii,
    byteLength_units readable.ascii, jsTrim_units readable.ascii, units_isEmpty, readable.filled,
    if_neg Bool.false_ne_true, Bool.not_true, if_neg Bool.false_ne_true,
    if_neg (Nat.not_lt.mpr readable.short), if_neg Bool.false_ne_true]
  rfl

theorem parse_alias (alike : DecodesAlike fromText lib) (readable : Readable (69 :: 46 :: rest)) :
    ∃ parsed, Frontend.parseJupiterMemo lib (units (69 :: 46 :: rest)) = some parsed ∧
      (SameDirective (parseMemoDirective fromText (69 :: 46 :: rest)) parsed ↔
        ¬ VerticalTabMemo fromText (69 :: 46 :: rest) ∧
          ¬ DigitPrincipalMemo fromText (69 :: 46 :: rest)) := by
  have untabbed : ¬ VerticalTabMemo fromText (69 :: 46 :: rest) := by
    rintro ⟨_, _, declared, rawMemo, split, ownerText, numberText, colon, _⟩
    cases split
    cases colon
  have undotted : ¬ DigitPrincipalMemo fromText (69 :: 46 :: rest) := by
    rintro ⟨_, _, digits, _⟩
    exact digits_undotted digits (by simp)
  rw [parseJupiterMemo_alias readable, parseMemoDirective_alias readable, eventHorizonMemo,
    units_isEmpty, alike.eventHorizon]
  cases rest with
  | nil => exact ⟨_, rfl, iff_of_true trivial ⟨untabbed, undotted⟩⟩
  | cons first later => exact ⟨_, rfl, iff_of_true ⟨rfl, rfl, rfl⟩ ⟨untabbed, undotted⟩⟩

theorem parse_plain (alike : DecodesAlike fromText lib) (readable : Readable memo)
    (unlike : ∀ rest, memo ≠ 69 :: 46 :: rest) :
    ∃ parsed, Frontend.parseJupiterMemo lib (units memo) = some parsed ∧
      (SameDirective (parseMemoDirective fromText memo) parsed ↔
        ¬ VerticalTabMemo fromText memo ∧ ¬ DigitPrincipalMemo fromText memo) := by
  rw [parseJupiterMemo_plain readable unlike, parseMemoDirective_plain readable unlike]
  cases split : splitOnce 46 memo with
  | none =>
      have whole : indexOf 46 (units memo) = none := indexOf_none split
      rw [whole]
      refine ⟨_, rfl, (parsePlainMemo_same alike readable.ascii).trans ?_⟩
      constructor
      · intro apart
        refine ⟨?_, fun digits => apart digits.2.2⟩
        rintro ⟨_, _, declared, rawMemo, found, _⟩
        cases split.symm.trans found
      · intro apart digits
        exact apart.2 ⟨readable.short, readable.ascii, digits⟩
  | some parts =>
      rcases parts with ⟨declared, rawMemo⟩
      rcases indexOf_some split with ⟨index, found, before, after, joined, _⟩
      have dotted : indexOf 46 (units memo) = some index := found
      have left : declared.all isAscii = true := by
        have ascii := readable.ascii
        rw [joined, List.all_append, Bool.and_eq_true] at ascii
        exact ascii.1
      rw [dotted]
      dsimp only
      rw [before, after]
      refine ⟨_, rfl, (parseDottedMemo_same alike left rawMemo).trans ?_⟩
      constructor
      · intro apart
        refine ⟨?_, fun digits => digits_undotted digits.2.2.1 (mem_of_splitOnce split)⟩
        rintro ⟨_, _, other, raw, also, tab⟩
        cases split.symm.trans also
        exact apart tab
      · intro apart tab
        exact apart.1 ⟨readable.short, readable.ascii, declared, rawMemo, split, tab⟩

theorem parse_unread {text : JsText} (same : SameCharacters memo text)
    (unread : ¬ Readable memo) :
    ∃ reason, Frontend.parseJupiterMemo lib text = some (.invalid reason) := by
  rw [Frontend.parseJupiterMemo.eq_def]
  split
  · exact ⟨_, rfl⟩
  · split
    · exact ⟨_, rfl⟩
    · rename_i shown
      cases ascii : memo.all isAscii with
      | false => exact absurd (by rw [same.other ascii]; rfl) shown
      | true =>
          cases same.ascii ascii
          rw [byteLength_units ascii, jsTrim_units ascii, units_isEmpty]
          split
          · exact ⟨_, rfl⟩
          · split
            · exact ⟨_, rfl⟩
            · rename_i short filled
              exact absurd ⟨ascii, Nat.le_of_not_lt short, Bool.eq_false_iff.mpr filled⟩ unread

theorem trim_filled (member : byte ∈ memo) (solid : isWhitespace byte = false) :
    (trim memo).isEmpty = false := by
  rcases mem_trim_or member with inside | blank
  · exact List.isEmpty_eq_false_iff_exists_mem.mpr ⟨byte, inside⟩
  · cases solid.symm.trans blank

theorem readable_of_directive {directive : MemoDirective}
    (read : parseMemoDirective fromText memo = some directive) : Readable memo := by
  rw [parseMemoDirective.eq_def] at read
  split at read
  · cases read
  · rename_i checked
    simp only [Bool.or_eq_true, not_or, Bool.not_eq_true, Bool.not_eq_false',
      decide_eq_true_eq] at checked
    have short := Nat.le_of_not_lt checked.1.2
    split at read
    · exact ⟨checked.2, short, trim_filled List.mem_cons_self rfl⟩
    · split at read
      · cases read
      · rename_i filled
        exact ⟨checked.2, short, Bool.eq_false_iff.mpr filled⟩

theorem readable_of_tab (tab : VerticalTabMemo fromText memo) : Readable memo := by
  rcases tab with ⟨short, ascii, declared, rawMemo, split, _⟩
  exact ⟨ascii, short, trim_filled (mem_of_splitOnce split) rfl⟩

theorem readable_of_digits (digits : DigitPrincipalMemo fromText memo) : Readable memo := by
  rcases digits with ⟨short, ascii, _, _, accepted⟩
  refine ⟨ascii, short, ?_⟩
  rw [Memo.parseDeclaredPrincipalText] at accepted
  cases blank : (trim memo).isEmpty with
  | false => rfl
  | true =>
      rw [blank] at accepted
      cases accepted

end Memos

theorem parsers_agree_iff {fromText : Text → Option Principal} {lib : PrincipalLibrary}
    (alike : DecodesAlike fromText lib) {memo : List UInt8} {text : JsText}
    (same : SameCharacters memo text) :
    ∃ parsed, Frontend.parseJupiterMemo lib text = some parsed ∧
      (SameDirective (parseMemoDirective fromText memo) parsed ↔
        ¬ VerticalTabMemo fromText memo ∧ ¬ DigitPrincipalMemo fromText memo) := by
  by_cases readable : Readable memo
  · cases same.ascii readable.ascii
    by_cases aliased : ∃ rest, memo = 69 :: 46 :: rest
    · obtain ⟨rest, rfl⟩ := aliased
      exact parse_alias alike readable
    · exact parse_plain alike readable (not_exists.mp aliased)
  · obtain ⟨reason, invalid⟩ := @parse_unread lib memo text same readable
    have rejected : parseMemoDirective fromText memo = none := by
      by_contra read
      obtain ⟨directive, parsed⟩ := Option.ne_none_iff_exists'.mp read
      exact readable (readable_of_directive parsed)
    refine ⟨_, invalid, ?_⟩
    rw [rejected]
    exact iff_of_true trivial
      ⟨fun tab => readable (readable_of_tab tab), fun digits => readable (readable_of_digits digits)⟩

section Sample

def paritySampleTarget : Principal := ⟨[0, 0, 0, 0, 2, 80, 47, 169, 1, 1]⟩

def paritySampleText : Text :=
  [50, 50, 50, 53, 53, 45, 122, 113, 97, 97, 97, 45, 97, 97, 97, 97, 115, 45, 113, 102, 54, 117,
    113, 45, 99, 97, 105]

def digitSampleTarget : Principal := ⟨[91, 255, 57, 190, 123, 95, 231, 247, 239]⟩

def digitSampleText : Text :=
  [54, 55, 51, 53, 55, 45, 54, 50, 51, 55, 52, 45, 52, 51, 52, 54, 50, 45, 55, 52, 55, 51, 54, 45,
    54]

def parityTable : List (Text × Principal) :=
  [(paritySampleText, paritySampleTarget), (digitSampleText, digitSampleTarget),
    ([50, 118, 120, 115, 120, 45, 102, 97, 101], anonymous),
    ([97, 97, 97, 97, 97, 45, 97, 97], managementCanister),
    ([101, 111, 54, 101, 105, 45, 103, 97, 97, 97, 97, 45, 97, 97, 97, 97, 114, 45, 113, 99, 104,
      114, 97, 45, 99, 97, 105], eventHorizonCanisterId)]

def paritySampleFromText (text : Text) : Option Principal :=
  (parityTable.find? fun entry => decide (entry.1 = text)).map Prod.snd

def paritySampleLibrary : PrincipalLibrary where
  fromText text :=
    if hasOnlyAscii text then paritySampleFromText (text.map UInt16.toUInt8) else none
  toText principal :=
    (parityTable.find? fun entry => decide (entry.2 = principal)).elim [] fun entry =>
      units entry.1

/-- A text of the table is written for its own principal alone. -/
theorem parityTable_toText {reserved : Principal} {text : JsText} (filled : text ≠ [])
    (listed : ∃ entry ∈ parityTable, entry.2 = reserved)
    (own : ∀ entry ∈ parityTable, units entry.1 = text ↔ entry.2 = reserved)
    (principal : Principal) :
    paritySampleLibrary.toText principal = text ↔ principal = reserved := by
  simp only [paritySampleLibrary]
  cases found : parityTable.find? fun entry => decide (entry.2 = principal) with
  | none =>
      refine iff_of_false (Ne.symm filled) ?_
      rintro rfl
      obtain ⟨entry, member, same⟩ := listed
      exact absurd (decide_eq_true same) (List.find?_eq_none.mp found entry member)
  | some entry =>
      have judged := List.find?_some found
      have same : entry.2 = principal := of_decide_eq_true judged
      rw [Option.elim_some, ← same]
      exact own entry (List.mem_of_find?_eq_some found)

theorem paritySample_alike : DecodesAlike paritySampleFromText paritySampleLibrary where
  same := by
    intro text ascii
    have back : (units text).map UInt16.toUInt8 = text := by
      rw [units, List.map_map]
      conv_rhs => rw [← List.map_id text]
      apply List.map_congr_left
      intro byte _
      exact UInt8.toUInt8_toUInt16 byte
    simp only [paritySampleLibrary, units_all_ascii, ascii, if_true, back]
  alphabet := by
    intro text principal decoded
    obtain ⟨entry, found, _⟩ := Option.map_eq_some_iff.mp decoded
    have known : ∀ entry ∈ parityTable, entry.1.all isPrincipalByte = true := by decide
    have judged := List.find?_some found
    have same : entry.1 = text := of_decide_eq_true judged
    rw [← same]
    exact known entry (List.mem_of_find?_eq_some found)
  anonymous := parityTable_toText (by decide) (by decide) (by decide)
  management := parityTable_toText (by decide) (by decide) (by decide)
  eventHorizon := by decide +kernel

def compactSample : List UInt8 := withoutDashes paritySampleText

/-- The canister target with a vertical tab before its numbered subaccount. -/
def verticalTabSample : List UInt8 := paritySampleText ++ [11, 58, 53, 46]

def digitSample : List UInt8 := withoutDashes digitSampleText

theorem sameCharacters_units {memo : List UInt8} (ascii : memo.all isAscii = true) :
    SameCharacters memo (units memo) :=
  ⟨fun _ => rfl, fun foreign => by cases ascii.symm.trans foreign⟩

theorem parsers_agree_iff_compact_target :
    ∃ parsed, Frontend.parseJupiterMemo paritySampleLibrary (units compactSample) = some parsed ∧
      (SameDirective (parseMemoDirective paritySampleFromText compactSample) parsed ↔
        ¬ VerticalTabMemo paritySampleFromText compactSample ∧
          ¬ DigitPrincipalMemo paritySampleFromText compactSample) :=
  parsers_agree_iff paritySample_alike (sameCharacters_units (by decide))

/-- On both kinds of memo the canister accepts what the frontend rejects. -/
theorem parsers_disagree :
    parseMemoDirective paritySampleFromText verticalTabSample =
        some (.rawIcp paritySampleTarget (some (List.replicate 31 0 ++ [5])) []) ∧
      Frontend.parseJupiterMemo paritySampleLibrary (units verticalTabSample) = some (.invalid
        ("Numbered raw ICP destinations must use owner:number with no internal whitespace.")) ∧
      parseMemoDirective paritySampleFromText digitSample = some (.topUp digitSampleTarget) ∧
      Frontend.parseJupiterMemo paritySampleLibrary (units digitSample) = some (.invalid
        "Neuron memo must be a non-zero decimal neuron ID no longer than 20 bytes.") ∧
      ¬ ∀ (fromText : Text → Option Principal) (lib : PrincipalLibrary),
        DecodesAlike fromText lib → ∀ (memo : List UInt8) (text : JsText),
          SameCharacters memo text → ∃ parsed, Frontend.parseJupiterMemo lib text = some parsed ∧
            SameDirective (parseMemoDirective fromText memo) parsed := by
  have accepted : parseMemoDirective paritySampleFromText verticalTabSample =
      some (.rawIcp paritySampleTarget (some (List.replicate 31 0 ++ [5])) []) := by
    decide +kernel
  have rejected : Frontend.parseJupiterMemo paritySampleLibrary (units verticalTabSample) =
      some (.invalid
        ("Numbered raw ICP destinations must use owner:number with no internal whitespace.")) := by
    decide +kernel
  refine ⟨accepted, rejected, by decide +kernel, by decide +kernel, ?_⟩
  intro agree
  obtain ⟨parsed, read, same⟩ := agree _ _ paritySample_alike verticalTabSample _
    (sameCharacters_units (by decide))
  rw [rejected] at read
  cases read
  rw [accepted] at same
  exact same

end Sample

end JupiterSuite.Memo
