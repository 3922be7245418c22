import JupiterSuite.Memo.ParserParity

/-! The memo of the relay's commitments to the faucet: its own principal without dashes and a
suffix. The faucet reads it back, for it puts the dashes where they were. -/

namespace JupiterSuite.Relay

open Memo

def relayMemoSuffix : Text := [82, 101, 108, 97, 121]

def relayFaucetCommitmentMemo (toText : Principal → Text) (selfId : Principal) :
    Except String (List UInt8) :=
  let memo := withoutDashes (toText selfId) ++ 46 :: relayMemoSuffix
  if !memo.all isAscii then .error "relay faucet commitment memo must be ASCII"
  else if 32 < memo.length then
    .error s!"relay faucet commitment memo is {memo.length} bytes; maximum is 32"
  else .ok memo

/-! ## The text of a principal -/

/-- The lower-case letters and the digits of base32. -/
def isBase32 (byte : UInt8) : Bool :=
  decide (97 ≤ byte ∧ byte ≤ 122) || decide (50 ≤ byte ∧ byte ≤ 55)

def inGroups : Text → Text
  | a :: b :: c :: d :: e :: f :: rest => a :: b :: c :: d :: e :: 45 :: inGroups (f :: rest)
  | text => text

/-- How the principal library writes a principal, a checksum of four bytes before its own, and
that it reads what it wrote. -/
structure TextCoding (toText : Principal → Text) (fromText : Text → Option Principal)
    (principal : Principal) : Prop where
  grouped : ∃ compact, compact.all isBase32 = true ∧
    compact.length = (8 * (principal.bytes.length + 4) + 4) / 5 ∧
    toText principal = inGroups compact
  accepts : fromText (toText principal) = some principal

theorem isBase32_solid {byte : UInt8} (base32 : isBase32 byte = true) :
    byte ≠ 45 ∧ byte ≠ 46 ∧ byte ≠ 58 ∧ byte ≠ 69 ∧ isWhitespace byte = false ∧
      isAscii byte = true := by
  revert base32
  apply of_byte_range _ byte
  decide +kernel

section Grouping

variable {compact : Text}

theorem withoutDashes_inGroups (dashless : 45 ∉ compact) :
    withoutDashes (inGroups compact) = compact := by
  induction compact using inGroups.induct with
  | case1 a b c d e f rest ih =>
      have later : 45 ∉ f :: rest := by
        intro member
        exact dashless (by simp only [List.mem_cons] at member ⊢; tauto)
      have kept := ih later
      simp only [withoutDashes] at kept
      simp only [List.mem_cons, not_or] at dashless
      rcases dashless with ⟨na, nb, nc, nd, ne, _⟩
      simp only [inGroups, withoutDashes, List.filter_cons, kept]
      simp [Ne.symm na, Ne.symm nb, Ne.symm nc, Ne.symm nd, Ne.symm ne]
  | case2 text short =>
      have same : inGroups text = text := by
        rw [inGroups.eq_def]
        split
        · rename_i a b c d e f rest
          exact absurd rfl (short a b c d e f rest)
        · rfl
      rw [same]
      refine List.filter_eq_self.mpr fun byte member => ?_
      exact decide_eq_true fun dash => dashless (dash ▸ member)

/-- What the parser inserts before a byte, by its position. -/
def withSeparator (entry : UInt8 × Nat) : Text :=
  if 0 < entry.2 ∧ entry.2 % 5 = 0 then [45, entry.1] else [entry.1]

theorem withSeparator_first (group : Nat) (byte : UInt8) :
    withSeparator (byte, 5 * group) = (if group = 0 then [] else [45]) ++ [byte] := by
  by_cases start : group = 0
  · rw [withSeparator, if_neg (by omega), if_pos start, List.nil_append]
  · rw [withSeparator, if_pos (by omega), if_neg start, List.singleton_append]

theorem withSeparator_inside {group k : Nat} (text : Text) (lower : 0 < k)
    (upper : k + text.length ≤ 5) :
    (text.zipIdx (5 * group + k)).flatMap withSeparator = text := by
  induction text generalizing k with
  | nil => rfl
  | cons byte rest ih =>
      rw [List.length_cons] at upper
      have plain : withSeparator (byte, 5 * group + k) = [byte] := by
        rw [withSeparator, if_neg (by omega)]
      have later := @ih (k + 1) (by omega) (by omega)
      rw [List.zipIdx_cons, List.flatMap_cons, plain, Nat.add_assoc, later, List.singleton_append]

/-- From a position that starts a group, the separators are the dashes of the groups. -/
theorem zipIdx_inGroups (group : Nat) {text : Text} (filled : text ≠ []) :
    (text.zipIdx (5 * group)).flatMap withSeparator =
      (if group = 0 then [] else [45]) ++ inGroups text := by
  induction text using inGroups.induct generalizing group with
  | case1 a b c d e f rest ih =>
      have later := ih (group + 1) (List.cons_ne_nil f rest)
      have tail := @withSeparator_inside group 1 [b, c, d, e] Nat.one_pos (Nat.le_refl _)
      have cut : a :: b :: c :: d :: e :: f :: rest = a :: ([b, c, d, e] ++ f :: rest) := rfl
      have next : 5 * group + 1 + [b, c, d, e].length = 5 * (group + 1) := by
        rw [Nat.mul_add, Nat.add_assoc]
        rfl
      rw [cut, List.zipIdx_cons, List.flatMap_cons, List.zipIdx_append, List.flatMap_append, tail,
        next, later, withSeparator_first, if_neg (Nat.succ_ne_zero group), List.append_assoc]
      rfl
  | case2 text short =>
      cases text with
      | nil => exact absurd rfl filled
      | cons a tail =>
          have few : tail.length ≤ 4 := by
            rcases tail with _ | ⟨b, _ | ⟨c, _ | ⟨d, _ | ⟨e, _ | ⟨f, rest⟩⟩⟩⟩⟩
            · exact Nat.zero_le _
            · exact Nat.le_add_left _ _
            · exact Nat.le_add_left _ _
            · exact Nat.le_add_left _ _
            · exact Nat.le_refl _
            · exact absurd rfl (short a b c d e f rest)
          have rest := @withSeparator_inside group 1 tail Nat.one_pos (by omega)
          have same : inGroups (a :: tail) = a :: tail := by
            rw [inGroups.eq_def]
            split
            · rename_i matched
              exact absurd matched (short _ _ _ _ _ _ _)
            · rfl
          rw [List.zipIdx_cons, List.flatMap_cons, rest, withSeparator_first, same, List.append_assoc,
            List.singleton_append]

theorem principalTextWithGroupSeparators_compact (dashless : 45 ∉ compact) :
    principalTextWithGroupSeparators compact = inGroups compact := by
  have absent : compact.contains 45 = false := by
    simpa using dashless
  rw [principalTextWithGroupSeparators, absent, if_neg Bool.false_ne_true]
  by_cases filled : compact = []
  · rw [filled]
    rfl
  · exact zipIdx_inGroups 0 filled

end Grouping

/-! ## The round trip -/

section RoundTrip

variable {toText : Principal → Text} {fromText : Text → Option Principal} {principal : Principal}

theorem base32_dashless {compact : Text} (base32 : compact.all isBase32 = true) : 45 ∉ compact :=
  fun member => (isBase32_solid (List.all_eq_true.mp base32 45 member)).1 rfl

theorem TextCoding.compact (coding : TextCoding toText fromText principal) :
    (withoutDashes (toText principal)).all isBase32 = true ∧
      (withoutDashes (toText principal)).length = (8 * (principal.bytes.length + 4) + 4) / 5 ∧
      principalTextWithGroupSeparators (withoutDashes (toText principal)) = toText principal := by
  rcases coding.grouped with ⟨compact, base32, length, text⟩
  have dashless := base32_dashless base32
  rw [text, withoutDashes_inGroups dashless]
  exact ⟨base32, length, principalTextWithGroupSeparators_compact dashless⟩

theorem parseRawDestinationText_compact (coding : TextCoding toText fromText principal)
    (unreserved : principal ≠ anonymous ∧ principal ≠ managementCanister)
    (filled : withoutDashes (toText principal) ≠ [])
    (short : (withoutDashes (toText principal)).length ≤ maxTargetCanisterMemoBytes) :
    parseRawDestinationText fromText (withoutDashes (toText principal)) =
      some (principal, none) := by
  rcases coding.compact with ⟨base32, _, regrouped⟩
  rw [List.all_eq_true] at base32
  generalize compactIs : withoutDashes (toText principal) = compact at *
  have solid : compact.any isWhitespace = false := by
    rw [List.any_eq_false]
    intro byte member
    exact Bool.eq_false_iff.mp (isBase32_solid (base32 byte member)).2.2.2.2.1
  have colonless : 58 ∉ compact := fun member => (isBase32_solid (base32 58 member)).2.2.1 rfl
  have declared : parseDeclaredPrincipalText fromText compact = some principal := by
    have present : compact.isEmpty = false := by
      simpa using filled
    rw [parseDeclaredPrincipalText, trim_solid solid, present,
      decide_eq_false (Nat.not_lt.mpr short), Bool.false_or, if_neg Bool.false_ne_true, regrouped,
      coding.accepts]
    simp [unreserved]
  simp only [parseRawDestinationText, trim_solid solid, splitOnce_absent colonless, declared,
    Option.map_some]

theorem parseMemoDirective_relayMemo {memo : List UInt8}
    (coding : TextCoding toText fromText principal)
    (unreserved : principal ≠ anonymous ∧ principal ≠ managementCanister)
    (long : maxNeuronIdMemoBytes < (withoutDashes (toText principal)).length)
    (produced : relayFaucetCommitmentMemo toText principal = .ok memo) :
    parseMemoDirective fromText memo = some (.rawIcp principal none relayMemoSuffix) := by
  have base32 := coding.compact.1
  have destination := parseRawDestinationText_compact coding unreserved
  simp only [relayFaucetCommitmentMemo] at produced
  generalize withoutDashes (toText principal) = compact at *
  split at produced
  · cases produced
  · rename_i foreign
    split at produced
    · cases produced
    · rename_i tooLong
      cases produced
      rw [List.all_eq_true] at base32
      have ascii : (compact ++ 46 :: relayMemoSuffix).all isAscii = true := by
        simpa using foreign
      have short : compact.length ≤ maxTargetCanisterMemoBytes := by
        rw [List.length_append] at tooLong
        simp only [maxTargetCanisterMemoBytes]
        omega
      have filled : compact ≠ [] := by
        rintro rfl
        cases long
      have solid : compact.any isWhitespace = false := by
        rw [List.any_eq_false]
        intro byte member
        exact Bool.eq_false_iff.mp (isBase32_solid (base32 byte member)).2.2.2.2.1
      have dot : (46 : UInt8) ∈ compact ++ 46 :: relayMemoSuffix :=
        List.mem_append_right _ List.mem_cons_self
      have readable : Readable (compact ++ 46 :: relayMemoSuffix) :=
        ⟨ascii, Nat.le_of_not_lt tooLong, trim_filled dot (by decide)⟩
      have unlike : ∀ rest, compact ++ 46 :: relayMemoSuffix ≠ 69 :: 46 :: rest := by
        intro rest same
        cases compact with
        | nil => exact filled rfl
        | cons first later =>
            have head : first = 69 := (List.cons.inj same).1
            exact (isBase32_solid (base32 first List.mem_cons_self)).2.2.2.1 head
      have dotless : 46 ∉ compact := fun member => (isBase32_solid (base32 46 member)).2.1 rfl
      have unnumbered : parseNeuronIdText compact = none := by
        rw [parseNeuronIdText, decide_eq_true long, Bool.or_true, if_pos rfl]
      rw [parseMemoDirective_plain readable unlike, splitOnce_append dotless]
      simp only [parseDeclaredMemo, trim_solid solid, unnumbered, destination filled short,
        Option.map_some]

theorem canister_memo (coding : TextCoding toText fromText principal)
    (canister : principal.bytes.length = 10) :
    maxNeuronIdMemoBytes < (withoutDashes (toText principal)).length ∧
      ∃ memo, relayFaucetCommitmentMemo toText principal = .ok memo := by
  rcases coding.compact with ⟨base32, length, _⟩
  rw [canister] at length
  rw [List.all_eq_true] at base32
  have ascii : (withoutDashes (toText principal) ++ 46 :: relayMemoSuffix).all isAscii = true := by
    rw [List.all_append, Bool.and_eq_true]
    constructor
    · rw [List.all_eq_true]
      exact fun byte member => (isBase32_solid (base32 byte member)).2.2.2.2.2
    · decide
  have short : ¬ 32 < (withoutDashes (toText principal) ++ 46 :: relayMemoSuffix).length := by
    rw [List.length_append, length]
    decide
  refine ⟨?_, withoutDashes (toText principal) ++ 46 :: relayMemoSuffix, ?_⟩
  · rw [length]
    decide
  · simp only [relayFaucetCommitmentMemo, ascii, Bool.not_true, Bool.false_eq_true, if_false,
      if_neg short]

structure RelayMemoSound (toText : Principal → Text) (fromText : Text → Option Principal)
    (principal : Principal) : Prop where
  regrouped : principalTextWithGroupSeparators (withoutDashes (toText principal)) =
    toText principal
  parsed : ∀ memo, principal ≠ anonymous → principal ≠ managementCanister →
    maxNeuronIdMemoBytes < (withoutDashes (toText principal)).length →
    relayFaucetCommitmentMemo toText principal = .ok memo →
    parseMemoDirective fromText memo = some (.rawIcp principal none relayMemoSuffix)
  canister : principal.bytes.length = 10 →
    ∃ memo, relayFaucetCommitmentMemo toText principal = .ok memo ∧
      parseMemoDirective fromText memo = some (.rawIcp principal none relayMemoSuffix)

theorem relay_memo_round_trip (coding : TextCoding toText fromText principal) :
    RelayMemoSound toText fromText principal where
  regrouped := coding.compact.2.2
  parsed := fun _ named owned long produced =>
    parseMemoDirective_relayMemo coding ⟨named, owned⟩ long produced
  canister := by
    intro canister
    rcases canister_memo coding canister with ⟨long, memo, produced⟩
    have unreserved : principal ≠ anonymous ∧ principal ≠ managementCanister := by
      constructor
      · rintro rfl
        cases canister
      · rintro rfl
        cases canister
    exact ⟨memo, produced, parseMemoDirective_relayMemo coding unreserved long produced⟩

end RoundTrip

theorem relay_memo_round_trip_canister :
    parseMemoDirective paritySampleFromText (compactSample ++ 46 :: relayMemoSuffix) =
        some (.rawIcp paritySampleTarget none relayMemoSuffix) ∧
      RelayMemoSound (fun _ => paritySampleText) paritySampleFromText paritySampleTarget :=
  ⟨by decide +kernel, relay_memo_round_trip ⟨⟨compactSample, by decide +kernel, by decide +kernel,
    by decide +kernel⟩, by decide +kernel⟩⟩

end JupiterSuite.Relay
