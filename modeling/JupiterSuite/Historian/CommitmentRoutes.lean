import JupiterSuite.Historian.CommitmentIndexer

/-! Every directive that the memo policy accepts has a route key: the policy's bounds on a memo
are within the bounds on a stored key. -/

namespace JupiterSuite.Historian

open Base Memo

/-- The text of a principal is the base-32 of its bytes behind a checksum of four. -/
def DecodesPrincipals (fromText : Text → Option Principal) : Prop :=
  ∀ text principal, fromText text = some principal →
    principal.bytes.length ≤ 29 ∧ 8 * (principal.bytes.length + 4) ≤ 5 * text.length

variable {subaccount : Option (List UInt8)} {outgoing : Text} {directive : MemoDirective}

section Memos

variable {fromText : Text → Option Principal} {text declared memo : Text} {principal : Principal}

theorem length_trim (text : Text) : (trim text).length ≤ text.length := by
  rw [trim, List.length_reverse]
  calc
    _ ≤ (text.dropWhile isWhitespace).reverse.length := (List.dropWhile_sublist _).length_le
    _ = (text.dropWhile isWhitespace).length := List.length_reverse
    _ ≤ text.length := (List.dropWhile_sublist _).length_le

theorem splitOnce_spec {separator : UInt8} {front rest : Text}
    (found : splitOnce separator text = some (front, rest)) :
    text = front ++ separator :: rest := by
  induction text generalizing front with
  | nil => cases found
  | cons byte bytes ih =>
      rw [splitOnce] at found
      split at found
      · rename_i here
        cases found
        rw [here]
        rfl
      · rcases Option.map_eq_some_iff.mp found with ⟨⟨before, after⟩, inner, same⟩
        cases same
        rw [ih inner]
        rfl

theorem length_groupSeparators (text : Text) :
    (principalTextWithGroupSeparators text).length ≤ 2 * text.length := by
  have bounded : ∀ entries : List (UInt8 × Nat), (entries.flatMap fun entry =>
      if 0 < entry.2 ∧ entry.2 % 5 = 0 then [45, entry.1] else [entry.1]).length ≤
        2 * entries.length := by
    intro entries
    induction entries with
    | nil => exact Nat.le_refl 0
    | cons entry rest ih =>
        rw [List.flatMap_cons, List.length_append, List.length_cons]
        have one : (if 0 < entry.2 ∧ entry.2 % 5 = 0 then [45, entry.1]
            else [entry.1] : Text).length ≤ 2 := by
          split <;> simp
        omega
  rw [principalTextWithGroupSeparators]
  split
  · omega
  · have counted := bounded text.zipIdx
    rw [List.length_zipIdx] at counted
    exact counted

/-- A declared principal is a route principal, and shorter than its text. -/
structure Declared (text : Text) (principal : Principal) : Prop where
  valid : validRoutePrincipal principal = true
  text : 8 * (principal.bytes.length + 4) ≤ 10 * text.length

theorem parseDeclaredPrincipalText_spec (decodes : DecodesPrincipals fromText)
    (parsed : parseDeclaredPrincipalText fromText text = some principal) :
    Declared text principal := by
  simp only [parseDeclaredPrincipalText] at parsed
  split at parsed
  · cases parsed
  · rw [Option.filter_eq_some_iff] at parsed
    have distinct := parsed.2
    simp only [ne_eq, decide_not, Bool.and_eq_true, Bool.not_eq_true',
      decide_eq_false_iff_not] at distinct
    rcases decodes _ _ parsed.1 with ⟨short, length⟩
    have grouped := length_groupSeparators (trim text)
    have trimmed := length_trim text
    constructor
    · simp only [validRoutePrincipal, Bool.and_eq_true, decide_eq_true_eq]
      exact ⟨distinct, short⟩
    · omega

theorem numberedSubaccount_number {number : Nat} {bytes : List UInt8}
    (padded : numberedSubaccount number = some bytes) :
    ∃ known, numberedSubaccountNumber bytes = some known := by
  rw [numberedSubaccount] at padded
  split at padded
  · cases padded
  · cases padded
    have front : (List.replicate 24 0 ++ u64ToBeBytes number : List UInt8).take 24 =
        List.replicate 24 0 := rfl
    have zeros : (List.replicate 24 0 : List UInt8).any (fun byte => decide (byte ≠ 0)) =
        false := by decide
    simp only [numberedSubaccountNumber, front, zeros, Bool.false_eq_true, if_false]
    exact ⟨_, rfl⟩

/-- A declared destination leaves room for the number of its subaccount. -/
structure DeclaredDestination (text : Text) (principal : Principal)
    (subaccount : Option (List UInt8)) : Prop where
  valid : validRoutePrincipal principal = true
  numbered : ∀ bytes, subaccount = some bytes →
    (∃ known, numberedSubaccountNumber bytes = some known) ∧
      8 * (principal.bytes.length + 4) + 20 ≤ 10 * text.length

theorem parseRawDestinationText_spec (decodes : DecodesPrincipals fromText)
    (parsed : parseRawDestinationText fromText text = some (principal, subaccount)) :
    DeclaredDestination text principal subaccount := by
  simp only [parseRawDestinationText] at parsed
  split at parsed
  · rename_i owner number found
    split at parsed
    · cases parsed
    · rename_i shape
      split at parsed
      · cases parsed
      · rename_i decoded there
        rcases Option.map_eq_some_iff.mp parsed with ⟨numbered, known, same⟩
        cases same
        have declared := parseDeclaredPrincipalText_spec decodes there
        refine ⟨declared.valid, ?_⟩
        rintro bytes rfl
        have lengths := congrArg List.length (splitOnce_spec found)
        rw [List.length_append, List.length_cons] at lengths
        have trimmed := length_trim text
        have present : 0 < number.length := by
          cases number with
          | nil => simp at shape
          | cons byte rest => exact Nat.succ_pos _
        have owned := declared.text
        constructor
        · rw [parseNumberedSubaccountText] at known
          split at known
          · cases known
          · rcases Option.map_eq_some_iff.mp known with ⟨value, _, padded⟩
            exact numberedSubaccount_number padded
        · omega
  · rcases Option.map_eq_some_iff.mp parsed with ⟨owner, there, same⟩
    cases same
    have declared := parseDeclaredPrincipalText_spec decodes there
    exact ⟨declared.valid, nofun⟩

theorem parseNeuronIdText_pos {neuronId : Nat}
    (parsed : parseNeuronIdText text = some neuronId) : neuronId ≠ 0 := by
  rw [parseNeuronIdText] at parsed
  split at parsed
  · cases parsed
  · split at parsed
    · cases parsed
    · rw [Option.filter_eq_some_iff] at parsed
      simpa using parsed.2

theorem ofRawIcp_isSome (destination : DeclaredDestination declared principal subaccount)
    (length : declared.length + outgoing.length ≤ 31) :
    (CommitmentRouteKey.ofRawIcp principal subaccount outgoing).isSome = true := by
  have fits : ¬ maxTargetCanisterMemoBytes < outgoing.length := by
    rw [maxTargetCanisterMemoBytes]
    omega
  simp only [CommitmentRouteKey.ofRawIcp, destination.valid, Bool.not_true, Bool.false_or,
    decide_eq_true_eq, fits, if_false]
  cases subaccount with
  | none => rfl
  | some bytes =>
      rcases destination.numbered bytes rfl with ⟨⟨known, decoded⟩, room⟩
      dsimp only
      rw [decoded]
      cases known with
      | none => rfl
      | some number =>
          dsimp only
          rw [if_pos (by omega)]
          rfl

theorem parseDeclaredMemo_route (decodes : DecodesPrincipals fromText)
    (length : declared.length + outgoing.length ≤ 31)
    (parsed : parseDeclaredMemo fromText declared outgoing = some directive) :
    (CommitmentRouteKey.fromIndexed (.ofDirective directive)).isSome = true := by
  rw [parseDeclaredMemo] at parsed
  split at parsed
  · rename_i neuronId found
    cases parsed
    have positive := parseNeuronIdText_pos found
    have fits : outgoing.length ≤ maxTargetCanisterMemoBytes := by
      rw [maxTargetCanisterMemoBytes]
      omega
    simp [IndexedCommitmentTarget.ofDirective, CommitmentRouteKey.fromIndexed, positive, fits]
  · rcases Option.map_eq_some_iff.mp parsed with ⟨⟨owner, subaccount⟩, found, same⟩
    cases same
    exact ofRawIcp_isSome (parseRawDestinationText_spec decodes found) length

theorem parseMemoDirective_route (decodes : DecodesPrincipals fromText)
    (parsed : parseMemoDirective fromText memo = some directive) :
    (CommitmentRouteKey.fromIndexed (.ofDirective directive)).isSome = true := by
  simp only [parseMemoDirective] at parsed
  split at parsed
  · cases parsed
  · rename_i shape
    have length : memo.length ≤ 32 := by
      by_contra long
      exact shape (by simp [maxTargetCanisterMemoBytes, not_le.mp long])
    split at parsed
    · rename_i suffix
      split at parsed
      · cases parsed
      · cases parsed
        rw [List.length_cons, List.length_cons] at length
        have fits : ¬ maxTargetCanisterMemoBytes < suffix.length := by
          rw [maxTargetCanisterMemoBytes]
          omega
        have valid : validRoutePrincipal eventHorizonCanisterId = true := by decide
        simp [IndexedCommitmentTarget.ofDirective, CommitmentRouteKey.fromIndexed,
          CommitmentRouteKey.ofRawIcp, valid, fits]
    · split at parsed
      · cases parsed
      · split at parsed
        · rename_i declared rawMemo found
          have lengths := congrArg List.length (splitOnce_spec found)
          rw [List.length_append, List.length_cons] at lengths
          exact parseDeclaredMemo_route decodes (by omega) parsed
        · split at parsed
          · rename_i neuronId found
            cases parsed
            have positive := parseNeuronIdText_pos found
            simp [IndexedCommitmentTarget.ofDirective, CommitmentRouteKey.fromIndexed, positive]
          · rcases Option.map_eq_some_iff.mp parsed with ⟨canisterId, found, same⟩
            cases same
            have declared := parseDeclaredPrincipalText_spec decodes found
            simp [IndexedCommitmentTarget.ofDirective, CommitmentRouteKey.fromIndexed,
              declared.valid]

end Memos

end JupiterSuite.Historian
