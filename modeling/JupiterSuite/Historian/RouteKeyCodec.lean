import JupiterSuite.Historian.CommitmentRoutes
import JupiterSuite.Base.ByteLayout

/-! How the key of a commitment route is stored, and the key that a public route has. -/

namespace JupiterSuite.Historian

open Base Memo

inductive CommitmentRoute where
  | cyclesTopUp (canisterId : Principal)
  | rawIcp (destinationCanisterId : Principal) (destinationSubaccount : Option (List UInt8))
      (memo : List UInt8)
  | neuronStake (neuronId : Nat) (memo : Option (List UInt8))
  deriving DecidableEq, Repr

namespace CommitmentRouteKey

def fromPublic : CommitmentRoute → Option CommitmentRouteKey
  | .cyclesTopUp canisterId =>
      if validRoutePrincipal canisterId then some (.cyclesTopUp canisterId) else none
  | .rawIcp destination none memo => ofRawIcp destination none memo
  | .rawIcp destination (some bytes) memo =>
      if bytes.length = 32 then ofRawIcp destination (some bytes) memo else none
  | .neuronStake neuronId memo =>
      if neuronId ≠ 0 ∧ (memo.elim 0 List.length) ≤ maxTargetCanisterMemoBytes then
        some (.neuronStake neuronId memo)
      else none

def sized (bytes : List UInt8) : List UInt8 := UInt8.ofNat bytes.length :: bytes

def intoBytes : CommitmentRouteKey → Option (List UInt8)
  | .cyclesTopUp canister => do
      assertion (canister.bytes.length ≤ 29)
      some (0 :: sized canister.bytes)
  | .rawIcp destination memo => do
      assertion (destination.bytes.length ≤ 29)
      assertion (memo.length ≤ maxTargetCanisterMemoBytes)
      some (1 :: sized destination.bytes ++ sized memo)
  | .neuronStake neuronId memo => do
      assertion (neuronId ≠ 0)
      match memo with
      | none => some (2 :: u64ToBeBytes neuronId ++ [0])
      | some memo =>
          assertion (memo.length ≤ maxTargetCanisterMemoBytes)
          some (2 :: u64ToBeBytes neuronId ++ 1 :: sized memo)
  | .rawIcpSubaccount destination subaccountNumber memo => do
      assertion (destination.bytes.length ≤ 29)
      assertion (subaccountNumber ≠ 0)
      assertion (memo.length ≤ maxTargetCanisterMemoBytes)
      assertion (11 + destination.bytes.length + memo.length ≤ 64)
      some (3 :: sized destination.bytes ++ u64ToBeBytes subaccountNumber ++ sized memo)

/-- The principal behind its length, and where it ends. -/
def principalAt (bytes : List UInt8) : Option (Principal × Nat) := do
  let principalLen ← bytes[1]?
  assertion (principalLen.toNat ≤ 29)
  let principalEnd := 2 + principalLen.toNat
  assertion (principalEnd ≤ bytes.length)
  let principal : Principal := ⟨slice bytes 2 principalEnd⟩
  assertion (validRoutePrincipal principal)
  some (principal, principalEnd)

def memoAt (bytes : List UInt8) (start : Nat) : Option (List UInt8) := do
  let memoLen ← bytes[start]?
  assertion (memoLen.toNat ≤ maxTargetCanisterMemoBytes)
  assertion (bytes.length = start + 1 + memoLen.toNat)
  some (bytes.drop (start + 1))

def fromBytes (bytes : List UInt8) : Option CommitmentRouteKey := do
  let tag : UInt8 ← bytes[0]?
  match tag with
  | 0 =>
      let (principal, principalEnd) ← principalAt bytes
      assertion (bytes.length = principalEnd)
      some (.cyclesTopUp principal)
  | 1 =>
      let (principal, principalEnd) ← principalAt bytes
      let memo ← memoAt bytes principalEnd
      some (.rawIcp principal memo)
  | 2 =>
      assertion (10 ≤ bytes.length)
      let neuronId := u64FromBeBytes (slice bytes 1 9)
      assertion (neuronId ≠ 0)
      let presence : UInt8 ← bytes[9]?
      match presence with
      | 0 =>
          assertion (bytes.length = 10)
          some (.neuronStake neuronId none)
      | 1 =>
          let memo ← memoAt bytes 10
          some (.neuronStake neuronId (some memo))
      | _ => none
  | 3 =>
      let (principal, principalEnd) ← principalAt bytes
      let numberEnd := principalEnd + 8
      assertion (numberEnd < bytes.length)
      let subaccountNumber := u64FromBeBytes (slice bytes principalEnd numberEnd)
      assertion (subaccountNumber ≠ 0)
      let memo ← memoAt bytes numberEnd
      some (.rawIcpSubaccount principal subaccountNumber memo)
  | _ => none

end CommitmentRouteKey

variable {number : Nat} {byte : UInt8}

section Numbers

theorem u64FromBeBytes_toBeBytes (typed : number ≤ u64Max) :
    u64FromBeBytes (u64ToBeBytes number) = number := by
  simp only [u64Max] at typed
  simp only [u64FromBeBytes, u64ToBeBytes, List.foldl_cons, List.foldl_nil, UInt8.toNat_ofNat']
  omega

theorem eight_cells {bytes : List UInt8} (length : bytes.length = 8) :
    ∃ a b c d e f g h, bytes = [a, b, c, d, e, f, g, h] := by
  match bytes, length with
  | [a, b, c, d, e, f, g, h], _ => exact ⟨a, b, c, d, e, f, g, h, rfl⟩

theorem ofNat_eq (same : number % 256 = byte.toNat) : UInt8.ofNat number = byte := by
  apply UInt8.toNat_inj.mp
  rw [UInt8.toNat_ofNat']
  exact same

theorem u64FromBeBytes_le {bytes : List UInt8} (length : bytes.length = 8) :
    u64FromBeBytes bytes ≤ u64Max := by
  obtain ⟨a, b, c, d, e, f, g, h, rfl⟩ := eight_cells length
  have bounds := And.intro a.toNat_lt (And.intro b.toNat_lt (And.intro c.toNat_lt
    (And.intro d.toNat_lt (And.intro e.toNat_lt (And.intro f.toNat_lt
    (And.intro g.toNat_lt h.toNat_lt))))))
  simp only [u64FromBeBytes, List.foldl_cons, List.foldl_nil, u64Max]
  omega

theorem u64ToBeBytes_fromBeBytes {bytes : List UInt8} (length : bytes.length = 8) :
    u64ToBeBytes (u64FromBeBytes bytes) = bytes := by
  obtain ⟨a, b, c, d, e, f, g, h, rfl⟩ := eight_cells length
  have bounds := And.intro a.toNat_lt (And.intro b.toNat_lt (And.intro c.toNat_lt
    (And.intro d.toNat_lt (And.intro e.toNat_lt (And.intro f.toNat_lt
    (And.intro g.toNat_lt h.toNat_lt))))))
  simp only [u64FromBeBytes, List.foldl_cons, List.foldl_nil, u64ToBeBytes, List.cons.injEq,
    and_true]
  refine ⟨?_, ?_, ?_, ?_, ?_, ?_, ?_, ?_⟩
  all_goals
    apply ofNat_eq
    omega

end Numbers

variable {neuronId : Nat} {destination : Principal} {subaccount : Option (List UInt8)}

namespace CommitmentRouteKey

variable {bytes front rest memo : List UInt8} {principal : Principal} {tag : UInt8}
  {start stop : Nat}

theorem length_sized (cells : List UInt8) : (sized cells).length = cells.length + 1 := rfl

theorem sizeByte (short : memo.length ≤ 255) : (UInt8.ofNat memo.length).toNat = memo.length := by
  rw [UInt8.toNat_ofNat', Nat.mod_eq_of_lt (Nat.lt_of_le_of_lt short (by decide))]

theorem validRoutePrincipal_short (valid : validRoutePrincipal principal = true) :
    principal.bytes.length ≤ 29 := by
  simp only [validRoutePrincipal, Bool.and_eq_true, decide_eq_true_eq] at valid
  exact valid.2

theorem principalAt_sized (valid : validRoutePrincipal principal = true) :
    principalAt (tag :: sized principal.bytes ++ rest) =
      some (principal, 2 + principal.bytes.length) := by
  have short := validRoutePrincipal_short valid
  have byte := sizeByte (Nat.le_trans short (by decide))
  have shape : tag :: sized principal.bytes ++ rest =
      [tag, UInt8.ofNat principal.bytes.length] ++ (principal.bytes ++ rest) := rfl
  have first : (tag :: sized principal.bytes ++ rest)[1]? =
      some (UInt8.ofNat principal.bytes.length) := rfl
  have part : slice (tag :: sized principal.bytes ++ rest) 2 (2 + principal.bytes.length) =
      principal.bytes := by
    rw [shape]
    exact slice_append rfl rfl
  have within : 2 + principal.bytes.length ≤ (tag :: sized principal.bytes ++ rest).length := by
    rw [shape, List.length_append, List.length_append]
    exact Nat.add_le_add_left (Nat.le_add_right _ _) 2
  rw [principalAt]
  simp only [first, Option.bind_eq_bind, Option.bind_some, byte, assertion_true short,
    assertion_true within, part, assertion_true valid]

theorem memoAt_sized (at_start : front.length = start)
    (short : memo.length ≤ maxTargetCanisterMemoBytes) :
    memoAt (front ++ sized memo) start = some memo := by
  have byte := sizeByte (Nat.le_trans short (by decide))
  have first : (front ++ sized memo)[start]? = some (UInt8.ofNat memo.length) :=
    getElem?_behind at_start
  have whole : (front ++ sized memo).length = start + 1 + memo.length := by
    rw [List.length_append, at_start, length_sized]
    omega
  have behind : (front ++ sized memo).drop (start + 1) = memo := by
    rw [← at_start, List.drop_append, List.drop_of_length_le (Nat.le_succ _),
      Nat.add_sub_cancel_left]
    rfl
  rw [memoAt]
  simp only [first, Option.bind_eq_bind, Option.bind_some, byte, assertion_true short,
    assertion_true whole, behind]

theorem principalAt_spec (found : principalAt bytes = some (principal, stop))
    (tagged : bytes[0]? = some tag) :
    validRoutePrincipal principal = true ∧ stop = 2 + principal.bytes.length ∧
      bytes = tag :: sized principal.bytes ++ bytes.drop stop := by
  simp only [principalAt, Option.bind_eq_bind, Option.bind_eq_some_iff, assertion_eq_some,
    Option.some.injEq, Prod.mk.injEq] at found
  obtain ⟨size, second, _, _, _, within, _, valid, rfl, rfl⟩ := found
  have length : (slice bytes 2 (2 + size.toNat)).length = 2 + size.toNat - 2 :=
    length_slice within
  rw [Nat.add_sub_cancel_left] at length
  have whole : bytes.take 2 ++ (slice bytes 2 (2 + size.toNat) ++ bytes.drop (2 + size.toNat)) =
      bytes := slice_split (Nat.le_add_right 2 size.toNat)
  have opening : bytes.take 2 = [tag, size] := by
    have one := drop_eq_cons tagged
    have two := drop_eq_cons second
    rw [List.drop_zero] at one
    rw [one, two]
    rfl
  refine ⟨valid, ?_, ?_⟩
  · dsimp only
    rw [length]
  · rw [opening] at whole
    simp only [sized, length, ofNat_eq (Nat.mod_eq_of_lt size.toNat_lt)]
    exact whole.symm

theorem memoAt_spec (found : memoAt bytes start = some memo) :
    memo.length ≤ maxTargetCanisterMemoBytes ∧ bytes = bytes.take start ++ sized memo := by
  simp only [memoAt, Option.bind_eq_bind, Option.bind_eq_some_iff, assertion_eq_some,
    Option.some.injEq] at found
  obtain ⟨size, first, _, short, _, length, rfl⟩ := found
  have counted : (bytes.drop (start + 1)).length = size.toNat := by
    rw [List.length_drop, length, Nat.add_sub_cancel_left]
  constructor
  · rw [counted]
    exact short
  · rw [sized, counted, ofNat_eq (Nat.mod_eq_of_lt size.toNat_lt), ← drop_eq_cons first,
      List.take_append_drop]

/-- The keys that are built: their parts are within the bounds of the encoding. -/
def Storable : CommitmentRouteKey → Prop
  | .cyclesTopUp canister => validRoutePrincipal canister = true
  | .rawIcp destination memo =>
      validRoutePrincipal destination = true ∧ memo.length ≤ maxTargetCanisterMemoBytes
  | .neuronStake neuronId memo =>
      neuronId ≠ 0 ∧ neuronId ≤ u64Max ∧ memo.elim 0 List.length ≤ maxTargetCanisterMemoBytes
  | .rawIcpSubaccount destination subaccountNumber memo =>
      validRoutePrincipal destination = true ∧ subaccountNumber ≠ 0 ∧ subaccountNumber ≤ u64Max ∧
        memo.length ≤ maxTargetCanisterMemoBytes ∧
        11 + destination.bytes.length + memo.length ≤ 64

def RoundTrips (key : CommitmentRouteKey) : Prop :=
  ∃ bytes, key.intoBytes = some bytes ∧ bytes.length ≤ 64 ∧ fromBytes bytes = some key

theorem cyclesTopUp_roundTrips {canister : Principal}
    (valid : validRoutePrincipal canister = true) : RoundTrips (.cyclesTopUp canister) := by
  have short := validRoutePrincipal_short valid
  refine ⟨0 :: sized canister.bytes, ?_, ?_, ?_⟩
  · simp only [intoBytes, Option.bind_eq_bind, assertion_true short, Option.bind_some]
  · rw [List.length_cons, length_sized]
    omega
  · have owner : principalAt (0 :: sized canister.bytes) =
        some (canister, 2 + canister.bytes.length) := by
      have read : principalAt (0 :: sized canister.bytes ++ []) =
          some (canister, 2 + canister.bytes.length) := principalAt_sized valid
      rwa [List.append_nil] at read
    have whole : (0 :: sized canister.bytes).length = 2 + canister.bytes.length := by
      rw [List.length_cons, length_sized]
      omega
    simp only [fromBytes, List.getElem?_cons_zero, Option.bind_eq_bind, Option.bind_some, owner,
      assertion_true whole]

theorem rawIcp_roundTrips (valid : validRoutePrincipal principal = true)
    (fits : memo.length ≤ maxTargetCanisterMemoBytes) : RoundTrips (.rawIcp principal memo) := by
  have short := validRoutePrincipal_short valid
  have bound : memo.length ≤ 32 := fits
  have front : (1 :: sized principal.bytes).length = 2 + principal.bytes.length := by
    rw [List.length_cons, length_sized]
    omega
  refine ⟨1 :: sized principal.bytes ++ sized memo, ?_, ?_, ?_⟩
  · simp only [intoBytes, Option.bind_eq_bind, assertion_true short, assertion_true fits,
      Option.bind_some]
  · rw [List.length_append, front, length_sized]
    omega
  · have first : (1 :: sized principal.bytes ++ sized memo)[0]? = some 1 := rfl
    simp only [fromBytes, first, Option.bind_eq_bind, Option.bind_some, principalAt_sized valid,
      memoAt_sized front fits]

theorem neuronStake_roundTrips {memo : Option (List UInt8)} (positive : neuronId ≠ 0)
    (typed : neuronId ≤ u64Max) (fits : memo.elim 0 List.length ≤ maxTargetCanisterMemoBytes) :
    RoundTrips (.neuronStake neuronId memo) := by
  have number : ∀ rest, slice (2 :: u64ToBeBytes neuronId ++ rest) 1 9 = u64ToBeBytes neuronId :=
    fun rest => rfl
  have decoded := u64FromBeBytes_toBeBytes typed
  cases memo with
  | none =>
      refine ⟨2 :: u64ToBeBytes neuronId ++ [0], ?_, ?_, ?_⟩
      · simp only [intoBytes, Option.bind_eq_bind, assertion_true positive, Option.bind_some]
      · change 10 ≤ 64
        decide
      · have first : (2 :: u64ToBeBytes neuronId ++ [0])[0]? = some 2 := rfl
        have presence : (2 :: u64ToBeBytes neuronId ++ [0])[9]? = some 0 := rfl
        have long : 10 ≤ (2 :: u64ToBeBytes neuronId ++ [0]).length := Nat.le_refl 10
        have whole : (2 :: u64ToBeBytes neuronId ++ [0]).length = 10 := rfl
        simp only [fromBytes, first, Option.bind_eq_bind, Option.bind_some, assertion_true long,
          number, decoded, assertion_true positive, presence, assertion_true whole]
  | some memo =>
      have bound : memo.length ≤ 32 := fits
      have shape : 2 :: u64ToBeBytes neuronId ++ 1 :: sized memo =
          (2 :: u64ToBeBytes neuronId ++ [1]) ++ sized memo := by
        rw [List.append_assoc]
        rfl
      have length : (2 :: u64ToBeBytes neuronId ++ 1 :: sized memo).length =
          11 + memo.length := by
        rw [shape, List.length_append, length_sized]
        change 10 + (memo.length + 1) = _
        omega
      refine ⟨2 :: u64ToBeBytes neuronId ++ 1 :: sized memo, ?_, ?_, ?_⟩
      · have short : memo.length ≤ maxTargetCanisterMemoBytes := fits
        simp only [intoBytes, Option.bind_eq_bind, assertion_true positive, assertion_true short,
          Option.bind_some]
      · omega
      · have first : (2 :: u64ToBeBytes neuronId ++ 1 :: sized memo)[0]? = some 2 := rfl
        have presence : (2 :: u64ToBeBytes neuronId ++ 1 :: sized memo)[9]? = some 1 := rfl
        have long : 10 ≤ (2 :: u64ToBeBytes neuronId ++ 1 :: sized memo).length := by omega
        have outgoing : memoAt (2 :: u64ToBeBytes neuronId ++ 1 :: sized memo) 10 = some memo := by
          rw [shape]
          exact memoAt_sized rfl fits
        simp only [fromBytes, first, Option.bind_eq_bind, Option.bind_some, assertion_true long,
          number, decoded, assertion_true positive, presence, outgoing]

theorem rawIcpSubaccount_roundTrips (valid : validRoutePrincipal principal = true)
    (positive : number ≠ 0) (typed : number ≤ u64Max)
    (fits : memo.length ≤ maxTargetCanisterMemoBytes)
    (bounded : 11 + principal.bytes.length + memo.length ≤ 64) :
    RoundTrips (.rawIcpSubaccount principal number memo) := by
  have short := validRoutePrincipal_short valid
  have eight : (u64ToBeBytes number).length = 8 := rfl
  have owner : (3 :: sized principal.bytes).length = 2 + principal.bytes.length := by
    rw [List.length_cons, length_sized]
    omega
  have front : (3 :: sized principal.bytes ++ u64ToBeBytes number).length =
      2 + principal.bytes.length + 8 := by
    rw [List.length_append, owner, eight]
  have length : (3 :: sized principal.bytes ++ u64ToBeBytes number ++ sized memo).length =
      11 + principal.bytes.length + memo.length := by
    rw [List.length_append, front, length_sized]
    omega
  refine ⟨3 :: sized principal.bytes ++ u64ToBeBytes number ++ sized memo, ?_, ?_, ?_⟩
  · simp only [intoBytes, Option.bind_eq_bind, assertion_true short, assertion_true positive,
      assertion_true fits, assertion_true bounded, Option.bind_some]
  · rw [length]
    exact bounded
  · have first : (3 :: sized principal.bytes ++ u64ToBeBytes number ++ sized memo)[0]? =
        some 3 := rfl
    have read : principalAt (3 :: sized principal.bytes ++ u64ToBeBytes number ++ sized memo) =
        some (principal, 2 + principal.bytes.length) := by
      rw [List.append_assoc]
      exact principalAt_sized valid
    have long : 2 + principal.bytes.length + 8 <
        (3 :: sized principal.bytes ++ u64ToBeBytes number ++ sized memo).length := by omega
    have digits : slice (3 :: sized principal.bytes ++ u64ToBeBytes number ++ sized memo)
        (2 + principal.bytes.length) (2 + principal.bytes.length + 8) = u64ToBeBytes number := by
      rw [List.append_assoc]
      exact slice_append owner rfl
    simp only [fromBytes, first, Option.bind_eq_bind, Option.bind_some, read, assertion_true long,
      digits, u64FromBeBytes_toBeBytes typed, assertion_true positive, memoAt_sized front fits]

theorem Storable.roundTrips {key : CommitmentRouteKey} (storable : key.Storable) :
    RoundTrips key := by
  cases key with
  | cyclesTopUp canister => exact cyclesTopUp_roundTrips storable
  | rawIcp destination memo => exact rawIcp_roundTrips storable.1 storable.2
  | neuronStake neuronId memo =>
      exact neuronStake_roundTrips storable.1 storable.2.1 storable.2.2
  | rawIcpSubaccount destination number memo =>
      obtain ⟨valid, positive, typed, fits, bounded⟩ := storable
      exact rawIcpSubaccount_roundTrips valid positive typed fits bounded

theorem bytes_front (long : 10 ≤ bytes.length) (tagged : bytes[0]? = some tag)
    (present : bytes[9]? = some byte) :
    bytes = tag :: u64ToBeBytes (u64FromBeBytes (slice bytes 1 9)) ++ byte :: bytes.drop 10 := by
  have length : (slice bytes 1 9).length = 9 - 1 := length_slice (Nat.le_of_succ_le long)
  have whole : bytes.take 1 ++ (slice bytes 1 9 ++ bytes.drop 9) = bytes :=
    slice_split (by decide)
  have opening : bytes.take 1 = [tag] := by
    have one := drop_eq_cons tagged
    rw [List.drop_zero] at one
    rw [one]
    rfl
  rw [opening, drop_eq_cons present] at whole
  rw [u64ToBeBytes_fromBeBytes length]
  exact whole.symm

theorem memo_behind (read : memoAt bytes start = some memo) : bytes.drop start = sized memo := by
  have shape : bytes.take start ++ bytes.drop start = bytes.take start ++ sized memo := by
    rw [List.take_append_drop]
    exact (memoAt_spec read).2
  exact List.append_cancel_left shape

theorem cyclesTopUp_canonical (tagged : bytes[0]? = some 0)
    (found : principalAt bytes = some (principal, stop)) (whole : bytes.length = stop) :
    (cyclesTopUp principal).Storable ∧ (cyclesTopUp principal).intoBytes = some bytes := by
  obtain ⟨valid, _, shape⟩ := principalAt_spec found tagged
  have short := validRoutePrincipal_short valid
  rw [← whole, List.drop_length, List.append_nil] at shape
  refine ⟨valid, ?_⟩
  simp only [intoBytes, Option.bind_eq_bind, assertion_true short, Option.bind_some]
  rw [← shape]

theorem rawIcp_canonical (tagged : bytes[0]? = some 1)
    (found : principalAt bytes = some (principal, stop)) (read : memoAt bytes stop = some memo) :
    (rawIcp principal memo).Storable ∧ (rawIcp principal memo).intoBytes = some bytes := by
  obtain ⟨valid, _, shape⟩ := principalAt_spec found tagged
  have fits := (memoAt_spec read).1
  have short := validRoutePrincipal_short valid
  rw [memo_behind read] at shape
  refine ⟨⟨valid, fits⟩, ?_⟩
  simp only [intoBytes, Option.bind_eq_bind, assertion_true short, assertion_true fits,
    Option.bind_some]
  rw [← shape]

theorem neuronStake_canonical {memo : Option (List UInt8)} (long : 10 ≤ bytes.length)
    (tagged : bytes[0]? = some 2) (present : bytes[9]? = some byte)
    (positive : u64FromBeBytes (slice bytes 1 9) ≠ 0)
    (fits : memo.elim 0 List.length ≤ maxTargetCanisterMemoBytes)
    (outgoing : byte :: bytes.drop 10 = memo.elim [0] fun memo => 1 :: sized memo) :
    (neuronStake (u64FromBeBytes (slice bytes 1 9)) memo).Storable ∧
      (neuronStake (u64FromBeBytes (slice bytes 1 9)) memo).intoBytes = some bytes := by
  have length : (slice bytes 1 9).length = 9 - 1 := length_slice (Nat.le_of_succ_le long)
  have shape := bytes_front long tagged present
  rw [outgoing] at shape
  refine ⟨⟨positive, u64FromBeBytes_le length, fits⟩, ?_⟩
  cases memo with
  | none =>
      simp only [intoBytes, Option.bind_eq_bind, assertion_true positive, Option.bind_some]
      exact congrArg some shape.symm
  | some memo =>
      have short : memo.length ≤ maxTargetCanisterMemoBytes := fits
      simp only [intoBytes, Option.bind_eq_bind, assertion_true positive, assertion_true short,
        Option.bind_some]
      exact congrArg some shape.symm

theorem rawIcpSubaccount_canonical (bounded : bytes.length ≤ 64) (tagged : bytes[0]? = some 3)
    (found : principalAt bytes = some (principal, stop)) (long : stop + 8 < bytes.length)
    (positive : u64FromBeBytes (slice bytes stop (stop + 8)) ≠ 0)
    (read : memoAt bytes (stop + 8) = some memo) :
    (rawIcpSubaccount principal (u64FromBeBytes (slice bytes stop (stop + 8))) memo).Storable ∧
      (rawIcpSubaccount principal (u64FromBeBytes (slice bytes stop (stop + 8)))
        memo).intoBytes = some bytes := by
  obtain ⟨valid, ends, shape⟩ := principalAt_spec found tagged
  have fits := (memoAt_spec read).1
  have short := validRoutePrincipal_short valid
  have length : (slice bytes stop (stop + 8)).length = stop + 8 - stop :=
    length_slice (Nat.le_of_lt long)
  rw [Nat.add_sub_cancel_left] at length
  have number := u64ToBeBytes_fromBeBytes length
  have split : bytes.drop stop = slice bytes stop (stop + 8) ++ sized memo := by
    have whole : bytes.take stop ++ (slice bytes stop (stop + 8) ++ bytes.drop (stop + 8)) =
        bytes.take stop ++ bytes.drop stop := by
      rw [List.take_append_drop]
      exact slice_split (Nat.le_add_right stop 8)
    rw [memo_behind read] at whole
    exact (List.append_cancel_left whole).symm
  rw [split, ← number, ← List.append_assoc] at shape
  have counted : 11 + principal.bytes.length + memo.length ≤ 64 := by
    have total := congrArg List.length split
    rw [List.length_drop, List.length_append, length, length_sized] at total
    omega
  refine ⟨⟨valid, positive, u64FromBeBytes_le length, fits, counted⟩, ?_⟩
  simp only [intoBytes, Option.bind_eq_bind, assertion_true short, assertion_true positive,
    assertion_true fits, assertion_true counted, Option.bind_some]
  rw [number]
  rw [number] at shape
  exact congrArg some shape.symm

/-- What is read back was written so; the bytes of a key are the only ones it is read from. -/
theorem fromBytes_spec {key : CommitmentRouteKey} (bounded : bytes.length ≤ 64)
    (accepted : fromBytes bytes = some key) : key.Storable ∧ key.intoBytes = some bytes := by
  rw [fromBytes, Option.bind_eq_bind, Option.bind_eq_some_iff] at accepted
  obtain ⟨tag, tagged, accepted⟩ := accepted
  dsimp only at accepted
  split at accepted
  · simp only [Option.bind_eq_bind, Option.bind_eq_some_iff, assertion_eq_some,
      Option.some.injEq] at accepted
    obtain ⟨⟨principal, stop⟩, found, _, whole, rfl⟩ := accepted
    exact cyclesTopUp_canonical tagged found whole
  · simp only [Option.bind_eq_bind, Option.bind_eq_some_iff, Option.some.injEq] at accepted
    obtain ⟨⟨principal, stop⟩, found, memo, read, rfl⟩ := accepted
    exact rawIcp_canonical tagged found read
  · simp only [Option.bind_eq_bind, Option.bind_eq_some_iff, assertion_eq_some] at accepted
    obtain ⟨_, long, _, positive, byte, present, accepted⟩ := accepted
    split at accepted
    · simp only [Option.bind_eq_some_iff, assertion_eq_some, Option.some.injEq] at accepted
      obtain ⟨_, whole, rfl⟩ := accepted
      have nothing : bytes.drop 10 = [] := List.drop_of_length_le (Nat.le_of_eq whole)
      apply neuronStake_canonical long tagged present positive (Nat.zero_le _)
      rw [nothing]
      rfl
    · simp only [Option.bind_eq_some_iff, Option.some.injEq] at accepted
      obtain ⟨memo, read, rfl⟩ := accepted
      have fits : (some memo).elim 0 List.length ≤ maxTargetCanisterMemoBytes :=
        (memoAt_spec read).1
      apply neuronStake_canonical long tagged present positive fits
      rw [memo_behind read]
      rfl
    · cases accepted
  · simp only [Option.bind_eq_bind, Option.bind_eq_some_iff, assertion_eq_some,
      Option.some.injEq] at accepted
    obtain ⟨⟨principal, stop⟩, found, _, long, _, positive, memo, read, rfl⟩ := accepted
    exact rawIcpSubaccount_canonical bounded tagged found long positive read
  · cases accepted

theorem ofRawIcp_storable {key : CommitmentRouteKey}
    (typed : ∀ bytes, subaccount = some bytes → bytes.length = 32)
    (built : ofRawIcp destination subaccount memo = some key) : key.Storable := by
  rw [ofRawIcp.eq_def] at built
  split at built
  · cases built
  · rename_i checked
    rw [Bool.not_eq_true, Bool.or_eq_false_iff, Bool.not_eq_false', decide_eq_false_iff_not,
      Nat.not_lt] at checked
    obtain ⟨valid, fits⟩ := checked
    cases subaccount with
    | none =>
        cases built
        exact ⟨valid, fits⟩
    | some bytes =>
        have length := typed bytes rfl
        dsimp only at built
        cases decoded : numberedSubaccountNumber bytes with
        | none =>
            rw [decoded] at built
            cases built
        | some known =>
            rw [decoded] at built
            cases known with
            | none =>
                cases built
                exact ⟨valid, fits⟩
            | some number =>
                dsimp only at built
                split at built
                · rename_i bounded
                  cases built
                  simp only [numberedSubaccountNumber] at decoded
                  split at decoded
                  · cases decoded
                  · have eight : (bytes.drop 24).length = 8 := by
                      rw [List.length_drop, length]
                    split at decoded
                    · rename_i positive
                      cases decoded
                      exact ⟨valid, positive, u64FromBeBytes_le eight, fits, bounded⟩
                    · cases decoded
                · cases built

end CommitmentRouteKey

section Routes

/-- Neuron ids have 64 bits, and the subaccounts that are indexed 32 bytes. -/
def TypedRoute : CommitmentRoute → Prop
  | .neuronStake neuronId _ => neuronId ≤ u64Max
  | _ => True

def TypedTarget : IndexedCommitmentTarget → Prop
  | .cyclesTopUp _ => True
  | .rawIcp _ subaccount _ => ∀ bytes, subaccount = some bytes → bytes.length = 32
  | .neuronStake neuronId _ => neuronId ≤ u64Max

/-- A destination without a subaccount is the one with the subaccount of zeros. -/
def SameSubaccount (one another : Option (List UInt8)) : Prop :=
  one.getD (List.replicate 32 0) = another.getD (List.replicate 32 0)

def SameRoute : IndexedCommitmentTarget → CommitmentRoute → Prop
  | .cyclesTopUp canisterId, .cyclesTopUp canisterId' => canisterId = canisterId'
  | .rawIcp destination subaccount memo, .rawIcp destination' subaccount' memo' =>
      destination = destination' ∧ SameSubaccount subaccount subaccount' ∧ memo = memo'
  | .neuronStake neuronId memo, .neuronStake neuronId' memo' => neuronId = neuronId' ∧ memo = memo'
  | _, _ => False

variable {route : CommitmentRoute} {target : IndexedCommitmentTarget} {key : CommitmentRouteKey}

theorem fromPublic_storable (typed : TypedRoute route)
    (built : CommitmentRouteKey.fromPublic route = some key) : key.Storable := by
  cases route with
  | cyclesTopUp canisterId =>
      rw [CommitmentRouteKey.fromPublic] at built
      split at built
      · rename_i valid
        cases built
        exact valid
      · cases built
  | rawIcp destination subaccount memo =>
      cases subaccount with
      | none =>
          rw [CommitmentRouteKey.fromPublic] at built
          exact CommitmentRouteKey.ofRawIcp_storable (fun _ absent => by cases absent) built
      | some bytes =>
          rw [CommitmentRouteKey.fromPublic] at built
          split at built
          · rename_i length
            apply CommitmentRouteKey.ofRawIcp_storable _ built
            rintro _ ⟨⟩
            exact length
          · cases built
  | neuronStake neuronId memo =>
      rw [CommitmentRouteKey.fromPublic] at built
      split at built
      · rename_i checked
        cases built
        exact ⟨checked.1, typed, checked.2⟩
      · cases built

theorem fromIndexed_storable (typed : TypedTarget target)
    (built : CommitmentRouteKey.fromIndexed target = some key) : key.Storable := by
  cases target with
  | cyclesTopUp canisterId =>
      rw [CommitmentRouteKey.fromIndexed] at built
      split at built
      · rename_i valid
        cases built
        exact valid
      · cases built
  | rawIcp destination subaccount memo => exact CommitmentRouteKey.ofRawIcp_storable typed built
  | neuronStake neuronId memo =>
      rw [CommitmentRouteKey.fromIndexed] at built
      split at built
      · rename_i checked
        cases built
        exact ⟨checked.1, typed, checked.2⟩
      · cases built

theorem numberedSubaccountNumber_zeros :
    numberedSubaccountNumber (List.replicate 32 0) = some none := by decide

theorem ofRawIcp_default (destination : Principal) (memo : List UInt8) :
    CommitmentRouteKey.ofRawIcp destination (some (List.replicate 32 0)) memo =
      CommitmentRouteKey.ofRawIcp destination none memo := by
  simp only [CommitmentRouteKey.ofRawIcp, numberedSubaccountNumber_zeros]

theorem ofRawIcp_sameSubaccount {memo : List UInt8} {one another : Option (List UInt8)}
    (same : SameSubaccount one another) :
    CommitmentRouteKey.ofRawIcp destination one memo =
      CommitmentRouteKey.ofRawIcp destination another memo := by
  have padded : ∀ subaccount : Option (List UInt8),
      CommitmentRouteKey.ofRawIcp destination subaccount memo =
        CommitmentRouteKey.ofRawIcp destination (some (subaccount.getD (List.replicate 32 0)))
          memo := by
    intro subaccount
    cases subaccount with
    | none => exact (ofRawIcp_default destination memo).symm
    | some bytes => rfl
  rw [padded one, padded another, same]

/-- A public route has the key that its commitments are counted under. -/
theorem fromPublic_eq_fromIndexed (typed : TypedTarget target) (same : SameRoute target route) :
    CommitmentRouteKey.fromPublic route = CommitmentRouteKey.fromIndexed target := by
  cases target with
  | cyclesTopUp canisterId =>
      cases route with
      | cyclesTopUp canisterId' =>
          cases same
          rfl
      | rawIcp _ _ _ => exact False.elim same
      | neuronStake _ _ => exact False.elim same
  | rawIcp destination subaccount memo =>
      cases route with
      | cyclesTopUp _ => exact False.elim same
      | rawIcp destination' subaccount' memo' =>
          obtain ⟨rfl, alike, rfl⟩ := same
          rw [CommitmentRouteKey.fromIndexed, ofRawIcp_sameSubaccount alike]
          cases subaccount' with
          | none => rfl
          | some bytes =>
              have length : bytes.length = 32 := by
                cases subaccount with
                | none =>
                    have zeros : List.replicate 32 0 = bytes := alike
                    rw [← zeros]
                    rfl
                | some indexed =>
                    have equal : indexed = bytes := alike
                    rw [← equal]
                    exact typed indexed rfl
              rw [CommitmentRouteKey.fromPublic, if_pos length]
      | neuronStake _ _ => exact False.elim same
  | neuronStake neuronId memo =>
      cases route with
      | cyclesTopUp _ => exact False.elim same
      | rawIcp _ _ _ => exact False.elim same
      | neuronStake neuronId' memo' =>
          obtain ⟨rfl, rfl⟩ := same
          rfl

end Routes

section Parsed

variable {fromText : Text → Option Principal} {text memo : Text} {directive : MemoDirective}

theorem parseU64_typed (parsed : parseU64 text = some number) : number ≤ u64Max := by
  simp only [parseU64] at parsed
  split at parsed
  · rename_i small
    cases parsed
    exact small
  · cases parsed

theorem parseNeuronIdText_typed (parsed : parseNeuronIdText text = some neuronId) :
    neuronId ≤ u64Max := by
  rw [parseNeuronIdText] at parsed
  split at parsed
  · cases parsed
  · split at parsed
    · cases parsed
    · rw [Option.filter_eq_some_iff] at parsed
      exact parseU64_typed parsed.1

theorem parseRawDestinationText_typed {owner : Principal}
    (parsed : parseRawDestinationText fromText text = some (owner, subaccount)) :
    ∀ bytes, subaccount = some bytes → bytes.length = 32 := by
  rintro bytes rfl
  simp only [parseRawDestinationText] at parsed
  split at parsed
  · split at parsed
    · cases parsed
    · split at parsed
      · cases parsed
      · obtain ⟨numbered, known, same⟩ := Option.map_eq_some_iff.mp parsed
        cases same
        rw [parseNumberedSubaccountText] at known
        split at known
        · cases known
        · obtain ⟨number, _, padded⟩ := Option.map_eq_some_iff.mp known
          rw [numberedSubaccount] at padded
          split at padded
          · cases padded
          · cases padded
            rfl
  · obtain ⟨there, _, same⟩ := Option.map_eq_some_iff.mp parsed
    cases same

theorem parseDeclaredMemo_typed {declared : Text}
    (parsed : parseDeclaredMemo fromText declared memo = some directive) :
    TypedTarget (.ofDirective directive) := by
  rw [parseDeclaredMemo] at parsed
  split at parsed
  · rename_i neuronId found
    cases parsed
    exact parseNeuronIdText_typed found
  · obtain ⟨⟨owner, subaccount⟩, found, same⟩ := Option.map_eq_some_iff.mp parsed
    cases same
    exact parseRawDestinationText_typed found

theorem parseMemoDirective_typed (parsed : parseMemoDirective fromText memo = some directive) :
    TypedTarget (.ofDirective directive) := by
  simp only [parseMemoDirective] at parsed
  split at parsed
  · cases parsed
  · split at parsed
    · split at parsed
      · cases parsed
      · cases parsed
        intro bytes absent
        cases absent
    · split at parsed
      · cases parsed
      · split at parsed
        · exact parseDeclaredMemo_typed parsed
        · split at parsed
          · rename_i neuronId found
            cases parsed
            exact parseNeuronIdText_typed found
          · obtain ⟨canisterId, _, same⟩ := Option.map_eq_some_iff.mp parsed
            cases same
            exact trivial

end Parsed

/-- The stored keys of commitment routes, and the routes that the commitments are looked up by. -/
structure RouteKeySound (fromText : Text → Option Principal) : Prop where
  publicStored : ∀ route key, TypedRoute route →
    CommitmentRouteKey.fromPublic route = some key → key.RoundTrips
  indexedStored : ∀ target key, TypedTarget target →
    CommitmentRouteKey.fromIndexed target = some key → key.RoundTrips
  canonical : ∀ bytes key, bytes.length ≤ 64 → CommitmentRouteKey.fromBytes bytes = some key →
    key.intoBytes = some bytes
  injective : ∀ key key' : CommitmentRouteKey, key.RoundTrips → key'.RoundTrips →
    key.intoBytes = key'.intoBytes → key = key'
  keyed : ∀ memo directive, parseMemoDirective fromText memo = some directive →
    ∃ key, CommitmentRouteKey.fromIndexed (.ofDirective directive) = some key ∧ key.RoundTrips
  published : ∀ memo directive route, parseMemoDirective fromText memo = some directive →
    SameRoute (.ofDirective directive) route →
    CommitmentRouteKey.fromPublic route =
      CommitmentRouteKey.fromIndexed (.ofDirective directive)

theorem route_key_sound (fromText : Text → Option Principal)
    (decodes : DecodesPrincipals fromText) : RouteKeySound fromText where
  publicStored _ _ typed built := (fromPublic_storable typed built).roundTrips
  indexedStored _ _ typed built := (fromIndexed_storable typed built).roundTrips
  canonical _ _ bounded accepted := (CommitmentRouteKey.fromBytes_spec bounded accepted).2
  injective := by
    rintro key key' ⟨bytes, written, _, read⟩ ⟨bytes', written', _, read'⟩ same
    rw [written, written'] at same
    cases same
    exact Option.some.inj (read.symm.trans read')
  keyed := by
    intro memo directive parsed
    have present := parseMemoDirective_route decodes parsed
    obtain ⟨key, built⟩ := Option.isSome_iff_exists.mp present
    have typed := parseMemoDirective_typed parsed
    exact ⟨key, built, (fromIndexed_storable typed built).roundTrips⟩
  published _ _ _ parsed same := fromPublic_eq_fromIndexed (parseMemoDirective_typed parsed) same

section Sample

/-- The text uuc56-gyb is the principal of the byte 1. -/
def routeSampleText : Text := [117, 117, 99, 53, 54, 45, 103, 121, 98]

def routeSampleFromText (text : Text) : Option Principal :=
  if text = routeSampleText then some ⟨[1]⟩ else none

theorem routeSample_decodes : DecodesPrincipals routeSampleFromText := by
  intro text principal decoded
  rw [routeSampleFromText] at decoded
  split at decoded
  · rename_i same
    cases decoded
    rw [same]
    decide
  · cases decoded

/-- The memo uuc56-gyb:7.hi names a numbered route. -/
theorem route_key_sound_numbered :
    RouteKeySound routeSampleFromText ∧
      (parseMemoDirective routeSampleFromText (routeSampleText ++ [58, 55, 46, 104, 105])).bind
          (fun directive => CommitmentRouteKey.fromIndexed (.ofDirective directive)) =
        some (.rawIcpSubaccount ⟨[1]⟩ 7 [104, 105]) ∧
      (CommitmentRouteKey.rawIcpSubaccount ⟨[1]⟩ 7 [104, 105]).intoBytes =
        some [3, 1, 1, 0, 0, 0, 0, 0, 0, 0, 7, 2, 104, 105] :=
  ⟨route_key_sound routeSampleFromText routeSample_decodes, by decide +kernel, by decide +kernel⟩

end Sample

end JupiterSuite.Historian
