import JupiterSuite.Memo.AdvancedBuilder
import JupiterSuite.Memo.ParserParity

/-! The canister reads a built memo as what was entered. In raw ICP mode the builder has the
frontend's parser read its memo, and that parser agrees with the canister's; in neuron mode the memo
is plain enough; in cycles mode a text of digits is a neuron id first. -/

namespace JupiterSuite.Memo

open Memo.Frontend

/-- The texts of principals: what the frontend's library decodes, the canister's does too, and it is
base32 with dashes; a text is written for one principal only. -/
structure ReadsPrincipals (fromText : Text → Option Principal) (lib : PrincipalLibrary) : Prop where
  decodes : ∀ text principal, text.all isAscii = true →
    lib.fromText (units text) = some principal → fromText text = some principal
  alphabet : ∀ text principal, text.all isAscii = true →
    lib.fromText (units text) = some principal → text.all isPrincipalByte = true
  injective : ∀ principal other, lib.toText principal = lib.toText other → principal = other
  anonymous : lib.toText anonymous = anonymousPrincipalText
  management : lib.toText managementCanister = managementPrincipalText
  eventHorizon : lib.fromText eventHorizonCanisterText = some eventHorizonCanisterId

/-- The principal that a text of the canister field stands for. -/
def enteredPrincipal (lib : PrincipalLibrary) (canisterText : JsText) : Option Principal :=
  lib.fromText (Frontend.principalTextWithGroupSeparators (jsTrim canisterText))

/-! ## A library that decodes more -/

variable {text : Text}

section Monotone

variable {fromText wider : Text → Option Principal}

theorem parseDeclaredPrincipalText_mono {principal : Principal}
    (decodes : ∀ text principal, fromText text = some principal → wider text = some principal)
    (read : Memo.parseDeclaredPrincipalText fromText text = some principal) :
    Memo.parseDeclaredPrincipalText wider text = some principal := by
  simp only [Memo.parseDeclaredPrincipalText] at read ⊢
  split at read
  · cases read
  · rename_i fits
    obtain ⟨decoded, named⟩ := Option.filter_eq_some_iff.mp read
    rw [if_neg fits]
    exact Option.filter_eq_some_iff.mpr ⟨decodes _ _ decoded, named⟩

theorem parseRawDestinationText_mono {destination : Principal × Option (List UInt8)}
    (decodes : ∀ text principal, fromText text = some principal → wider text = some principal)
    (read : Memo.parseRawDestinationText fromText text = some destination) :
    Memo.parseRawDestinationText wider text = some destination := by
  simp only [Memo.parseRawDestinationText] at read ⊢
  split at read
  · split at read
    · cases read
    · rename_i shaped
      rw [if_neg shaped]
      split at read
      · cases read
      · rename_i owner declared
        rw [parseDeclaredPrincipalText_mono decodes declared]
        exact read
  · obtain ⟨owner, declared, same⟩ := Option.map_eq_some_iff.mp read
    rw [parseDeclaredPrincipalText_mono decodes declared]
    exact congrArg some same

theorem parseMemoDirective_mono {memo : List UInt8} {directive : MemoDirective}
    (decodes : ∀ text principal, fromText text = some principal → wider text = some principal)
    (read : parseMemoDirective fromText memo = some directive) :
    parseMemoDirective wider memo = some directive := by
  have readable := readable_of_directive read
  by_cases aliased : ∃ rest, memo = 69 :: 46 :: rest
  · obtain ⟨rest, rfl⟩ := aliased
    rw [parseMemoDirective_alias readable] at read ⊢
    exact read
  · rw [parseMemoDirective_plain readable (not_exists.mp aliased)] at read ⊢
    split at read
    · rename_i declared rawMemo _
      rw [parseDeclaredMemo] at read ⊢
      split at read
      · exact read
      · obtain ⟨destination, found, same⟩ := Option.map_eq_some_iff.mp read
        rw [parseRawDestinationText_mono decodes found]
        exact congrArg some same
    · split at read
      · exact read
      · obtain ⟨canisterId, found, same⟩ := Option.map_eq_some_iff.mp read
        rw [parseDeclaredPrincipalText_mono decodes found]
        exact congrArg some same

end Monotone

/-! ## Texts -/

section Texts

def shownFromText (lib : PrincipalLibrary) (text : Text) : Option Principal :=
  if text.all isAscii then lib.fromText (units text) else none

variable {fromText : Text → Option Principal} {lib : PrincipalLibrary}

theorem ReadsPrincipals.shown (reads : ReadsPrincipals fromText lib) (text : Text)
    (principal : Principal) (decoded : shownFromText lib text = some principal) :
    fromText text = some principal := by
  rw [shownFromText] at decoded
  split at decoded
  · rename_i ascii
    exact reads.decodes text principal ascii decoded
  · cases decoded

theorem ReadsPrincipals.alike (reads : ReadsPrincipals fromText lib) :
    DecodesAlike (shownFromText lib) lib where
  same text ascii := by rw [shownFromText, if_pos ascii]
  alphabet := by
    intro text principal decoded
    rw [shownFromText] at decoded
    split at decoded
    · rename_i ascii
      exact reads.alphabet text principal ascii decoded
    · cases decoded
  anonymous principal := by
    rw [← reads.anonymous]
    exact ⟨reads.injective principal Memo.anonymous, congrArg lib.toText⟩
  management principal := by
    rw [← reads.management]
    exact ⟨reads.injective principal managementCanister, congrArg lib.toText⟩
  eventHorizon := reads.eventHorizon

theorem exists_units {text : JsText} (ascii : hasOnlyAscii text = true) :
    ∃ bytes : Text, text = units bytes ∧ bytes.all isAscii = true := by
  have back : units (text.map UInt16.toUInt8) = text := by
    rw [units, List.map_map]
    conv_rhs => rw [← List.map_id text]
    apply List.map_congr_left
    intro unit member
    have small : unit < 128 := of_decide_eq_true (List.all_eq_true.mp ascii unit member)
    apply UInt16.toNat_inj.mp
    have range : unit.toNat < 128 := UInt16.lt_iff_toNat_lt.mp small
    simp only [Function.comp_apply, id_eq, UInt8.toNat_toUInt16, UInt16.toNat_toUInt8]
    omega
  refine ⟨text.map UInt16.toUInt8, back.symm, ?_⟩
  rw [← units_all_ascii, back]
  exact ascii

theorem ascii_of_digits (digits : text.all isAsciiDigit = true) : text.all isAscii = true := by
  rw [List.all_eq_true] at digits ⊢
  intro byte member
  have digit : 48 ≤ byte ∧ byte ≤ 57 := of_decide_eq_true (digits byte member)
  have below : (57 : UInt8) < 128 := by decide
  exact decide_eq_true (UInt8.lt_of_le_of_lt digit.2 below)

theorem not_mem_digits {byte : UInt8} (digits : text.all isAsciiDigit = true)
    (other : isAsciiDigit byte = false) : byte ∉ text := by
  intro member
  rw [List.all_eq_true.mp digits byte member] at other
  cases other

end Texts

/-! ## Numbers -/

section Numbers

theorem toDigits_unit {number : Nat} {digit : Char} (member : digit ∈ Nat.toDigits 10 number) :
    (UInt16.ofNat digit.toNat).toNat = digit.toNat ∧ 48 ≤ digit.toNat ∧ digit.toNat ≤ 57 := by
  have known := Nat.isDigit_of_mem_toDigits (by decide) (by decide) member
  simp only [Char.isDigit, Bool.and_eq_true, decide_eq_true_eq] at known
  have lower : 48 ≤ digit.toNat := UInt32.le_iff_toNat_le.mp known.1
  have upper : digit.toNat ≤ 57 := UInt32.le_iff_toNat_le.mp known.2
  refine ⟨?_, lower, upper⟩
  rw [UInt16.toNat_ofNat']
  omega

theorem bigInt_bigIntText (number : Nat) : bigInt (bigIntText number) = number := by
  have steps : ∀ (digits : List Char) (value : Nat),
      (∀ digit ∈ digits, (UInt16.ofNat digit.toNat).toNat = digit.toNat) →
      (digits.map fun digit => UInt16.ofNat digit.toNat).foldl
        (fun value unit => 10 * value + (unit.toNat - 48)) value =
          Nat.ofDigitChars 10 digits value := by
    intro digits
    induction digits with
    | nil =>
        intro value _
        rw [Nat.ofDigitChars_nil]
        rfl
    | cons digit rest ih =>
        intro value small
        have same := small digit List.mem_cons_self
        rw [List.map_cons, List.foldl_cons, Nat.ofDigitChars_cons, same]
        exact ih _ fun other member => small other (List.mem_cons_of_mem digit member)
  calc bigInt (bigIntText number)
      = Nat.ofDigitChars 10 (Nat.toDigits 10 number) 0 :=
        steps _ 0 fun _ member => (toDigits_unit member).1
    _ = number := Nat.ofDigitChars_toDigits (by decide) (by decide)

theorem bigIntText_digits (number : Nat) :
    ∃ digits : Text, bigIntText number = units digits ∧ digits.all isAsciiDigit = true := by
  have all_digits : (bigIntText number).all isDigitUnit = true := by
    rw [bigIntText, List.all_map, List.all_eq_true]
    intro digit member
    obtain ⟨same, lower, upper⟩ := toDigits_unit member
    refine decide_eq_true ⟨UInt16.le_iff_toNat_le.mpr ?_, UInt16.le_iff_toNat_le.mpr ?_⟩
    · rw [same]
      exact lower
    · rw [same]
      exact upper
  have ascii : hasOnlyAscii (bigIntText number) = true := by
    rw [hasOnlyAscii, List.all_eq_true]
    intro unit member
    have digit : 48 ≤ unit ∧ unit ≤ 57 :=
      of_decide_eq_true (List.all_eq_true.mp all_digits unit member)
    have below : (57 : UInt16) < 128 := by decide
    exact decide_eq_true (UInt16.lt_of_le_of_lt digit.2 below)
  obtain ⟨digits, shown, _⟩ := exists_units ascii
  refine ⟨digits, shown, ?_⟩
  have same : isDigitUnit ∘ UInt8.toUInt16 = isAsciiDigit := funext isDigitUnit_toUInt16
  rw [shown, units, List.all_map, same] at all_digits
  exact all_digits

/-- The subaccount of a number as the text after the colon gives it. -/
def subaccountOf (numberText : Option JsText) : Option (List UInt8) :=
  numberText.bind fun text => numberedSubaccount (bigInt text)

/-- A read number has its subaccount, of what was entered and of what is written again. -/
structure Numbered (entered : JsText) (numbered : NumberedSubaccount) : Prop where
  entered : numbered.destinationSubaccount = numberedSubaccount (bigInt (jsTrim entered))
  written : numbered.destinationSubaccount = subaccountOf numbered.destinationSubaccountNumberText
  digits : ∀ text, numbered.destinationSubaccountNumberText = some text →
    ∃ digits : Text, text = units digits ∧ digits.all isAsciiDigit = true

theorem numbered_of_text {input : JsText} {allowEmpty : Bool} {numbered : NumberedSubaccount}
    (read : Frontend.parseNumberedSubaccountText input allowEmpty = .ok numbered) :
    Numbered input numbered := by
  simp only [Frontend.parseNumberedSubaccountText] at read
  split at read
  · rename_i blank
    split at read
    · cases read
      rw [List.isEmpty_iff] at blank
      refine ⟨?_, rfl, ?_⟩
      · rw [blank]
        rfl
      · rintro text ⟨⟩
    · cases read
  · split at read
    · cases read
    · split at read
      · cases read
      · cases read
        refine ⟨numberedSubaccountFromBigInt_eq _, ?_, ?_⟩
        · by_cases zero : bigInt (jsTrim input) = 0
          · rw [zero]
            rfl
          · simp only [subaccountOf, if_neg zero, Option.bind_some, bigInt_bigIntText,
              numberedSubaccountFromBigInt_eq]
        · intro text given
          split at given
          · cases given
          · cases given
            exact bigIntText_digits _

theorem parseRawDestinationText_numbered {lib : PrincipalLibrary} {text : JsText}
    {parsed : DeclaredPrincipal × NumberedSubaccount}
    (read : Frontend.parseRawDestinationText lib text = .ok parsed) :
    parsed.2.destinationSubaccount = subaccountOf parsed.2.destinationSubaccountNumberText := by
  simp only [Frontend.parseRawDestinationText] at read
  split at read
  · cases declared : Frontend.parseDeclaredPrincipalText lib (jsTrim text) with
    | error reason =>
        rw [declared] at read
        cases read
    | ok owner =>
        rw [declared] at read
        cases read
        rfl
  · split at read
    · cases read
    · split at read
      · cases read
      · split at read
        · cases read
        · rename_i numbered number_read
          cases read
          exact (numbered_of_text number_read).written

theorem parseJupiterMemo_numbered {lib : PrincipalLibrary} {text : JsText}
    {canisterId : Principal} {canisterText outgoing normalized : JsText}
    {destination : Option (List UInt8)} {numberText : Option JsText}
    (read : Frontend.parseJupiterMemo lib text = some (.rawIcpCanister canisterId canisterText
      destination numberText outgoing normalized)) :
    destination = subaccountOf numberText := by
  rw [Frontend.parseJupiterMemo.eq_def] at read
  split at read
  · cases read
  · split at read
    · cases read
    · split at read
      · cases read
      · split at read
        · cases read
        · split at read
          · rw [eventHorizonMemo] at read
            split at read
            · cases read
            · obtain ⟨_, _, same⟩ := Option.map_eq_some_iff.mp read
              cases same
              rfl
          · split at read
            · simp only [parseDottedMemo, Option.some.injEq] at read
              split at read
              · cases read
              · split at read
                · cases read
                · rename_i parsed numbered raw
                  cases read
                  exact parseRawDestinationText_numbered raw
            · simp only [parsePlainMemo, Option.some.injEq] at read
              split at read
              · cases read
              · split at read
                · cases read
                · split at read
                  · cases read
                  · split at read
                    · cases read
                    · cases read

end Numbers

end JupiterSuite.Memo
