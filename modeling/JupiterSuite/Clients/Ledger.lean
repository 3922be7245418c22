import JupiterSuite.Base.Word
import JupiterSuite.Base.CallLog
import Mathlib.Data.List.Induction

/-! The ledger's Candid types and the reply a client sees of each answer. -/

namespace JupiterSuite

open Base

def u64Max : Nat := 2 ^ 64 - 1

def u128Max : Nat := 2 ^ 128 - 1

def nanosPerSecond : Nat := 1000000000

structure Principal where
  bytes : List UInt8
  deriving DecidableEq, Repr

structure Account where
  owner : Principal
  subaccount : Option (List UInt8)
  deriving DecidableEq, Repr

structure TransferArg where
  fromSubaccount : Option (List UInt8)
  toAccount : Account
  fee : Option Nat
  createdAtTime : Option Nat
  memo : Option (List UInt8)
  amount : Nat
  deriving DecidableEq, Repr

inductive TransferError where
  | badFee (expectedFee : Nat)
  | badBurn (minBurnAmount : Nat)
  | insufficientFunds (balance : Nat)
  | tooOld
  | createdInFuture (ledgerTime : Nat)
  | temporarilyUnavailable
  | duplicate (duplicateOf : Nat)
  | genericError (errorCode : Nat) (message : String)
  deriving DecidableEq, Repr

abbrev TransferReply := Except TransferError Nat

abbrev TransferOutcome := Outcome TransferError

abbrev LedgerLog (τ : Type) := CallLog τ TransferArg TransferError

def transferReply : TransferOutcome → TransferReply
  | .accepted block => .ok block
  | .duplicate block => .error (.duplicate block)
  | .rejected error => .error error

def TransferError.isDuplicate : TransferError → Bool
  | .duplicate _ => true
  | _ => false

/-- The ledger reports a duplicate only as `Outcome.duplicate`. -/
def ledgerAnswer : TransferOutcome → Bool
  | .rejected error => !error.isDuplicate
  | _ => true

/-- What an answered call delivers to its caller; a failed call delivers nothing and leaves
open whether the ledger saw it. -/
def delivered {τ : Type} (log : LedgerLog τ) (index : Nat) : Option TransferReply → Bool
  | none => true
  | some reply => ((log.outcomeOf index).map transferReply).any (decide <| · = reply)

variable {index a b : Nat} {reply : TransferReply} {outcome : TransferOutcome}

theorem delivered_some {τ : Type} {log : LedgerLog τ} :
    delivered log index (some reply) = true ↔
      ∃ outcome, log.outcomeOf index = some outcome ∧ transferReply outcome = reply := by
  cases found : log.outcomeOf index <;> simp [delivered, found]

def TypedLog {τ : Type} (log : LedgerLog τ) : Prop :=
  ∀ call ∈ log, ∀ outcome, call.outcome = some outcome → ledgerAnswer outcome = true

theorem typedLog_dispatch {τ : Type} {log : LedgerLog τ} (typed : TypedLog log) (tag : τ)
    (arg : TransferArg) : TypedLog (log.dispatch tag arg) := by
  intro call member outcome answered
  rcases CallLog.mem_dispatch.mp member with old | rfl
  · exact typed call old outcome answered
  · cases answered

theorem typedLog_answer {τ : Type} {log next : LedgerLog τ} (typed : TypedLog log)
    (legal : ledgerAnswer outcome = true) (answered : log.answer index outcome = some next) :
    TypedLog next := by
  intro call member other reply
  rcases CallLog.mem_answer answered member with ⟨old, present, _, _, rfl | ⟨_, new⟩⟩
  · exact typed call present other reply
  · rw [new] at reply
    cases reply
    exact legal

/-- A reply that reports a block comes from a call whose arguments the ledger spent at it. -/
theorem outcome_of_spent_reply {block : Nat} (legal : ledgerAnswer outcome = true)
    (same : transferReply outcome = reply)
    (spent : reply = .ok block ∨ reply = .error (.duplicate block)) :
    outcome = .accepted block ∨ outcome = .duplicate block := by
  subst same
  cases outcome with
  | accepted index => rcases spent with spent | spent <;> simp_all [transferReply]
  | duplicate index => rcases spent with spent | spent <;> simp_all [transferReply]
  | rejected error =>
      rcases spent with spent | spent <;> simp_all [transferReply, ledgerAnswer,
        TransferError.isDuplicate]

def u64ToBeBytes (n : Nat) : List UInt8 :=
  [UInt8.ofNat (n / 2 ^ 56), UInt8.ofNat (n / 2 ^ 48), UInt8.ofNat (n / 2 ^ 40),
    UInt8.ofNat (n / 2 ^ 32), UInt8.ofNat (n / 2 ^ 24), UInt8.ofNat (n / 2 ^ 16),
    UInt8.ofNat (n / 2 ^ 8), UInt8.ofNat n]

theorem ofNat_inj (same : UInt8.ofNat a = UInt8.ofNat b) : a % 256 = b % 256 := by
  have bytes := congrArg UInt8.toNat same
  simpa using bytes

theorem u64ToBeBytes_injective (first : a ≤ u64Max) (second : b ≤ u64Max)
    (same : u64ToBeBytes a = u64ToBeBytes b) : a = b := by
  simp only [u64ToBeBytes, List.cons.injEq, and_true] at same
  obtain ⟨h7, h6, h5, h4, h3, h2, h1, h0⟩ := same
  have g7 := ofNat_inj h7
  have g6 := ofNat_inj h6
  have g5 := ofNat_inj h5
  have g4 := ofNat_inj h4
  have g3 := ofNat_inj h3
  have g2 := ofNat_inj h2
  have g1 := ofNat_inj h1
  have g0 := ofNat_inj h0
  simp only [u64Max] at first second
  omega

def u64ToLeBytes (n : Nat) : List UInt8 := (u64ToBeBytes n).reverse

/-- The length byte and the bytes, padded with zeros. -/
def principalToSubaccount (principal : Principal) : List UInt8 :=
  (UInt8.ofNat principal.bytes.length :: principal.bytes.take 31 ++ List.replicate 32 0).take 32

/-! The order of principals: the shorter first, and by their bytes among those of one length. -/

/-- The place of the bytes among all byte strings, counted with digits from 1 to 256. -/
def bytesPlace (bytes : List UInt8) : Nat :=
  bytes.foldl (fun place byte => 256 * place + (byte.toNat + 1)) 0

theorem bytesPlace_append (front : List UInt8) (byte : UInt8) :
    bytesPlace (front ++ [byte]) = 256 * bytesPlace front + (byte.toNat + 1) := by
  simp only [bytesPlace, List.foldl_append, List.foldl_cons, List.foldl_nil]

theorem bytesPlace_injective {left right : List UInt8}
    (same : bytesPlace left = bytesPlace right) : left = right := by
  induction left using List.reverseRecOn generalizing right with
  | nil =>
      rcases List.eq_nil_or_concat' right with rfl | ⟨front, byte, rfl⟩
      · rfl
      · rw [bytesPlace_append] at same
        simp only [bytesPlace, List.foldl_nil] at same
        omega
  | append_singleton front byte ih =>
      rcases List.eq_nil_or_concat' right with rfl | ⟨rest, other, rfl⟩
      · rw [bytesPlace_append] at same
        simp only [bytesPlace, List.foldl_nil] at same
        omega
      · rw [bytesPlace_append, bytesPlace_append] at same
        have small : byte.toNat < 256 := byte.toNat_lt
        have small' : other.toNat < 256 := other.toNat_lt
        have last : byte = other := UInt8.toNat_inj.mp (by omega)
        have first : bytesPlace front = bytesPlace rest := by omega
        rw [ih first, last]

def Principal.place (principal : Principal) : Nat := bytesPlace principal.bytes

theorem Principal.place_injective : Function.Injective Principal.place := by
  intro left right same
  rcases left with ⟨bytes⟩
  rcases right with ⟨others⟩
  exact congrArg Principal.mk (bytesPlace_injective same)

instance : LinearOrder Principal where
  le left right := left.place ≤ right.place
  lt left right := left.place < right.place
  le_refl _ := Nat.le_refl _
  le_trans _ _ _ := Nat.le_trans
  lt_iff_le_not_ge _ _ := Nat.lt_iff_le_and_not_ge
  le_antisymm _ _ below above := Principal.place_injective (Nat.le_antisymm below above)
  le_total left right := Nat.le_total left.place right.place
  toDecidableLE left right := inferInstanceAs (Decidable (left.place ≤ right.place))
  toDecidableLT left right := inferInstanceAs (Decidable (left.place < right.place))
  toDecidableEq := inferInstance

example : (⟨[4]⟩ : Principal) < ⟨[0, 1]⟩ := by decide

/-! What the ICP index reports of an account: account identifiers are texts, ids and amounts are
`nat64`. -/

inductive IndexOperation where
  | approve (fee : Nat) (fromAccount : String)
  | burn (fromAccount : String) (amount : Nat)
  | mint (toAccount : String) (amount : Nat)
  | transfer (toAccount : String) (fee : Nat) (fromAccount : String) (amount : Nat)
      (spender : Option String)
  deriving DecidableEq, Repr

structure IndexTransaction where
  memo : Nat
  icrc1Memo : Option (List UInt8)
  operation : IndexOperation
  timestampNanos : Option Nat
  deriving DecidableEq, Repr

structure IndexTransactionWithId where
  id : Nat
  transaction : IndexTransaction
  deriving DecidableEq, Repr

structure GetAccountIdentifierTransactionsResponse where
  balance : Nat
  transactions : List IndexTransactionWithId
  oldestTxId : Option Nat
  deriving DecidableEq, Repr

end JupiterSuite
