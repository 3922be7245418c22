import JupiterSuite.Memo.Frontend

/-! On ASCII the text operations of the frontend are those of the canister, character by
character. -/

namespace JupiterSuite.Memo

open Memo.Frontend

/-- The characters of ASCII bytes, as code units. -/
def units (text : Text) : JsText := text.map UInt8.toUInt16

section Bytes

theorem of_byte_range {holds : UInt8 → Prop} (all : ∀ n < 256, holds (UInt8.ofNat n))
    (byte : UInt8) : holds byte := by
  have range : byte.toNat < 256 := byte.toNat_lt
  have known := all byte.toNat range
  rwa [UInt8.ofNat_toNat] at known

theorem isJsWhitespace_toUInt16 {byte : UInt8} (ascii : isAscii byte = true) :
    isJsWhitespace byte.toUInt16 = isWhitespace byte := by
  revert ascii
  apply of_byte_range _ byte
  decide +kernel

theorem isDigitUnit_toUInt16 (byte : UInt8) : isDigitUnit byte.toUInt16 = isAsciiDigit byte := by
  apply of_byte_range _ byte
  decide +kernel

theorem isAsciiUnit_toUInt16 (byte : UInt8) : isAsciiUnit byte.toUInt16 = isAscii byte := by
  apply of_byte_range _ byte
  decide +kernel

theorem toNat_toUInt16 (byte : UInt8) : byte.toUInt16.toNat = byte.toNat :=
  UInt8.toNat_toUInt16 byte

/-- The vertical tab is the white space that `u8::is_ascii_whitespace` does not know. -/
theorem isWhitespace_eq (byte : UInt8) :
    isWhitespace byte = (isAsciiWhitespace byte || decide (byte = 11)) := by
  apply of_byte_range _ byte
  decide +kernel

theorem not_surrogate {unit : UInt16} (ascii : isAsciiUnit unit = true) :
    isHighSurrogate unit = false := by
  simp only [isAsciiUnit, decide_eq_true_eq, UInt16.lt_iff_toNat_lt] at ascii
  have small : unit.toNat < 128 := ascii
  simp only [isHighSurrogate, decide_eq_false_iff_not, UInt16.le_iff_toNat_le, not_and]
  intro high
  have large : 55296 ≤ unit.toNat := high
  omega

end Bytes

variable {separator : UInt8}

section Texts

variable {text : Text} {byte : UInt8}

theorem units_append (first second : Text) : units (first ++ second) = units first ++ units second :=
  List.map_append

theorem units_isEmpty (text : Text) : (units text).isEmpty = text.isEmpty := by
  cases text <;> rfl

theorem units_length (text : Text) : (units text).length = text.length :=
  List.length_map _

theorem units_all_ascii (text : Text) : hasOnlyAscii (units text) = text.all isAscii := by
  have same : isAsciiUnit ∘ UInt8.toUInt16 = isAscii := funext isAsciiUnit_toUInt16
  rw [hasOnlyAscii, units, List.all_map, same]

theorem units_hasOnlyDigits (text : Text) :
    hasOnlyDigits (units text) = (!text.isEmpty && text.all isAsciiDigit) := by
  have same : isDigitUnit ∘ UInt8.toUInt16 = isAsciiDigit := funext isDigitUnit_toUInt16
  rw [hasOnlyDigits, units_isEmpty, units, List.all_map, same]

theorem dropWhile_units (ascii : text.all isAscii = true) :
    (units text).dropWhile isJsWhitespace = units (text.dropWhile isWhitespace) := by
  induction text with
  | nil => rfl
  | cons byte rest ih =>
      simp only [List.all_cons, Bool.and_eq_true] at ascii
      have first := isJsWhitespace_toUInt16 ascii.1
      have later := ih ascii.2
      simp only [units, List.map_cons, List.dropWhile_cons, first] at later ⊢
      split
      · exact later
      · rfl

theorem dropWhile_ascii (ascii : text.all isAscii = true) :
    (text.dropWhile isWhitespace).all isAscii = true := by
  rw [List.all_eq_true] at ascii ⊢
  intro byte member
  exact ascii byte ((List.dropWhile_sublist _).subset member)

theorem trim_subset : trim text ⊆ text := by
  intro byte member
  have back := (List.dropWhile_sublist _).subset (List.mem_reverse.mp member)
  exact (List.dropWhile_sublist _).subset (List.mem_reverse.mp back)

theorem trim_ascii (ascii : text.all isAscii = true) : (trim text).all isAscii = true := by
  rw [List.all_eq_true] at ascii ⊢
  intro byte member
  exact ascii byte (trim_subset member)

theorem jsTrim_units (ascii : text.all isAscii = true) :
    jsTrim (units text) = units (trim text) := by
  have inner := dropWhile_ascii ascii
  have reversed : (text.dropWhile isWhitespace).reverse.all isAscii = true := by
    rw [List.all_reverse]
    exact inner
  have flip : ∀ other : Text, (units other).reverse = units other.reverse :=
    fun other => List.map_reverse.symm
  rw [jsTrim, dropWhile_units ascii, flip, dropWhile_units reversed, flip, trim]

theorem dropWhile_idem (text : Text) :
    (text.dropWhile isWhitespace).dropWhile isWhitespace = text.dropWhile isWhitespace := by
  induction text with
  | nil => rfl
  | cons byte rest ih =>
      rw [List.dropWhile_cons]
      split
      · exact ih
      · rename_i solid
        rw [List.dropWhile_cons_of_neg solid]

/-- What begins as a trimmed text does, does not begin with white space. -/
theorem dropWhile_of_prefix {first whole : Text} (trimmed : whole.dropWhile isWhitespace = whole)
    (begins : first <+: whole) : first.dropWhile isWhitespace = first := by
  cases first with
  | nil => rfl
  | cons byte rest =>
      obtain ⟨later, rfl⟩ := begins
      rw [List.cons_append, List.dropWhile_cons] at trimmed
      rw [List.dropWhile_cons]
      split at trimmed
      · have shorter := (List.dropWhile_sublist (l := rest ++ later) isWhitespace).length_le
        rw [trimmed, List.length_cons] at shorter
        omega
      · rename_i solid
        rw [if_neg solid]

theorem trim_trim (text : Text) : trim (trim text) = trim text := by
  have reversed : (trim text).reverse.dropWhile isWhitespace = (trim text).reverse := by
    rw [trim, List.reverse_reverse]
    exact dropWhile_idem _
  have begins : trim text <+: text.dropWhile isWhitespace := by
    rw [trim, ← List.reverse_suffix, List.reverse_reverse]
    exact List.dropWhile_suffix _
  have front := dropWhile_of_prefix (dropWhile_idem text) begins
  calc
    trim (trim text) = (((trim text).dropWhile isWhitespace).reverse.dropWhile
        isWhitespace).reverse := rfl
    _ = trim text := by rw [front, reversed, List.reverse_reverse]

theorem characters_ascii {text : JsText} (ascii : hasOnlyAscii text = true) :
    characters text = text.map fun unit => [unit] := by
  induction text with
  | nil => rfl
  | cons high rest ih =>
      simp only [hasOnlyAscii, List.all_cons, Bool.and_eq_true] at ascii
      cases rest with
      | nil => rfl
      | cons low later =>
          have alone := not_surrogate ascii.1
          simp only [characters, alone, Bool.false_and, Bool.false_eq_true, if_false,
            List.map_cons]
          congr 1
          exact ih ascii.2

theorem byteLength_units (ascii : text.all isAscii = true) :
    byteLength (units text) = text.length := by
  have plain : hasOnlyAscii (units text) = true := (units_all_ascii text).trans ascii
  rw [byteLength, characters_ascii plain]
  clear plain
  induction text with
  | nil => rfl
  | cons byte rest ih =>
      simp only [List.all_cons, Bool.and_eq_true] at ascii
      have small : byte.toUInt16 < 128 := by
        have known := (isAsciiUnit_toUInt16 byte).trans ascii.1
        exact of_decide_eq_true known
      have later := ih ascii.2
      simp only [units, List.map_map] at later
      simp only [units, List.map_cons, characterBytes, small, if_true, List.map_map,
        List.sum_cons, later, List.length_cons]
      omega

theorem contains_units (text : Text) : (units text).contains byte.toUInt16 = text.contains byte := by
  induction text with
  | nil => rfl
  | cons front rest ih =>
      have same : (byte.toUInt16 == front.toUInt16) = (byte == front) := by
        rw [Bool.eq_iff_iff, beq_iff_eq, beq_iff_eq]
        exact ⟨fun equal => UInt8.toUInt16_inj.mp equal, fun equal => by rw [equal]⟩
      simp only [units, List.map_cons, List.contains_cons, same] at ih ⊢
      rw [ih]

theorem principalTextWithGroupSeparators_units (ascii : text.all isAscii = true) :
    Frontend.principalTextWithGroupSeparators (units text) =
      units (Memo.principalTextWithGroupSeparators text) := by
  have plain : hasOnlyAscii (units text) = true := (units_all_ascii text).trans ascii
  have dashes : (units text).contains 45 = text.contains 45 := @contains_units 45 text
  rw [Frontend.principalTextWithGroupSeparators, Memo.principalTextWithGroupSeparators, dashes,
    characters_ascii plain]
  split
  · rfl
  · simp only [units, List.map_map, List.zipIdx_map, List.flatMap_map, List.map_flatMap]
    congr 1
    funext entry
    simp only [Function.comp_apply, Prod.map_fst, Prod.map_snd, id_eq]
    split <;> rfl

/-! ## Where a text is split -/

theorem splitOnce_append {before : Text} (absent : separator ∉ before) (after : Text) :
    splitOnce separator (before ++ separator :: after) = some (before, after) := by
  induction before with
  | nil => exact if_pos rfl
  | cons byte rest ih =>
      rw [List.mem_cons, not_or] at absent
      rw [List.cons_append, splitOnce, if_neg (Ne.symm absent.1), ih absent.2]
      rfl

theorem splitOnce_absent {text : Text} (absent : separator ∉ text) :
    splitOnce separator text = none := by
  induction text with
  | nil => rfl
  | cons byte rest ih =>
      rw [List.mem_cons, not_or] at absent
      rw [splitOnce, if_neg (Ne.symm absent.1), ih absent.2]
      rfl

theorem splitOnce_eq (separator : UInt8) (text : Text) : splitOnce separator text =
    (text.findIdx? fun other => decide (other = separator)).map fun index =>
      (text.take index, text.drop (index + 1)) := by
  induction text with
  | nil => rfl
  | cons front rest ih =>
      rw [splitOnce, List.findIdx?_cons]
      by_cases here : front = separator
      · simp only [here, if_true, decide_true, Option.map_some, List.take_zero]
        rfl
      · simp only [here, if_false, decide_false, Bool.false_eq_true, ih, Option.map_map]
        rfl

theorem indexOf_units (separator : UInt8) (text : Text) :
    indexOf separator.toUInt16 (units text) =
      text.findIdx? fun other => decide (other = separator) := by
  rw [indexOf, units, List.findIdx?_map]
  congr 1
  funext other
  simp only [Function.comp_apply, UInt8.toUInt16_inj]

theorem indexOf_none (whole : splitOnce separator text = none) :
    indexOf separator.toUInt16 (units text) = none := by
  rw [splitOnce_eq, Option.map_eq_none_iff] at whole
  rw [indexOf_units]
  exact whole

theorem indexOf_some {before after : Text} (split : splitOnce separator text = some (before, after)) :
    ∃ index, indexOf separator.toUInt16 (units text) = some index ∧
      (units text).take index = units before ∧ (units text).drop (index + 1) = units after ∧
      text = before ++ separator :: after ∧ index = before.length := by
  rw [splitOnce_eq] at split
  rcases Option.map_eq_some_iff.mp split with ⟨index, found, parts⟩
  cases parts
  rcases List.findIdx?_eq_some_iff_getElem.mp found with ⟨within, here, _⟩
  have equal : text[index] = separator := of_decide_eq_true here
  refine ⟨index, (indexOf_units separator text).trans found, List.map_take.symm,
    List.map_drop.symm, ?_, ?_⟩
  · have joined := (List.take_append_drop index text).symm
    rwa [List.drop_eq_getElem_cons within, equal] at joined
  · rw [List.length_take, Nat.min_eq_left (Nat.le_of_lt within)]

end Texts

end JupiterSuite.Memo
