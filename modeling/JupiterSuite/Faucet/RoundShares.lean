import JupiterSuite.Faucet.HistoryScan
import JupiterSuite.Faucet.PayoutLoop

/-! What the records of the staking history are worth in the round of a job: their weights in the
denominator, and their shares of the pot. -/

namespace JupiterSuite.Faucet

open Base Memo

section Shares

variable (fromText : Text → Option Principal) (policy : CommitmentPolicy)
  (job : ActivePayoutJob) (tx : IndexTx)

/-- The commitment of a record that takes part in the rounds, and its target. -/
def eligibleCommitment : Option (Commitment × PayoutTarget) :=
  (memoBytesFromIndexTx tx policy.stakingAccountIdentifier).bind fun commitment =>
    match classifyCommitment fromText policy.minTxE8s commitment with
    | .valid target => some (commitment, target)
    | _ => none

def Ineligible : Prop :=
  eligibleCommitment fromText policy tx = none

def roundWeight : Option Nat :=
  (eligibleCommitment fromText policy tx).bind fun (commitment, _) =>
    commitmentAmountForJobPayoutE8s job commitment tx.id (indexTxTimestampNanos tx) 0
      policy.recognitionDelaySeconds

/-- The part of the pot that a record is due, rounded down; nothing that is not worth the fee. -/
def roundShare : Option (Nat × PayoutTarget) :=
  (eligibleCommitment fromText policy tx).bind fun (_, target) =>
    (roundWeight fromText policy job tx).bind fun weightE8s =>
      if weightE8s * job.potStartE8s / job.denomE8s ≤ job.feeE8s then none
      else some (weightE8s * job.potStartE8s / job.denomE8s, target)

end Shares

section Worth

variable {fromText : Text → Option Principal} {policy : CommitmentPolicy}
  {job : ActivePayoutJob} {tx : IndexTx} {history : List IndexTx}

theorem eligibleCommitment_eq (fromText : Text → Option Principal) {commitment : Commitment}
    (found : memoBytesFromIndexTx tx policy.stakingAccountIdentifier = some commitment) :
    eligibleCommitment fromText policy tx =
      match classifyCommitment fromText policy.minTxE8s commitment with
      | .valid target => some (commitment, target)
      | _ => none := by
  rw [eligibleCommitment, found, Option.bind_some]

theorem roundWeight_eligible (ended : job.roundEndTimeNanos.isSome) {commitment : Commitment}
    {target : PayoutTarget}
    (eligible : eligibleCommitment fromText policy tx = some (commitment, target)) (nowNanos : Nat) :
    commitmentAmountForJobPayoutE8s job commitment tx.id (indexTxTimestampNanos tx) nowNanos
      policy.recognitionDelaySeconds = roundWeight fromText policy job tx := by
  rcases Option.isSome_iff_exists.mp ended with ⟨roundEnd, same⟩
  rw [roundWeight, eligible]
  simp only [Option.bind_some, commitmentAmountForJobPayoutE8s, same, Option.getD_some]

theorem roundWeight_behind {last : Nat} (ends : job.roundEndLatestTxId = some last)
    (behind : last < tx.id) : roundWeight fromText policy job tx = none := by
  rw [roundWeight, Option.bind_eq_none_iff]
  intro found _
  have outside : (job.roundEndLatestTxId.any fun last => decide (last < tx.id)) = true := by
    rw [ends]
    exact decide_eq_true behind
  simp only [commitmentAmountForJobPayoutE8s, genesisRoundAmountForCommitmentE8s,
    commitmentAmountForPayoutE8s, outside, if_true, ite_self]

theorem roundWeight_ineligible (ineligible : Ineligible fromText policy tx) :
    roundWeight fromText policy job tx = none := by
  rw [roundWeight, ineligible, Option.bind_none]

/-- No saturation takes part in the share of a weight that the denominator counts. -/
theorem rawShare_eq {weightE8s potE8s denomE8s : Nat} (counted : weightE8s ≤ denomE8s)
    (pot : potE8s ≤ u64Max) (fits : denomE8s ≤ u64Max) :
    computeRawShareE8s weightE8s potE8s denomE8s = weightE8s * potE8s / denomE8s := by
  rw [computeRawShareE8s]
  split
  · rename_i nothing
    rcases nothing with empty | empty <;> rw [empty] <;> simp
  · have product : weightE8s * potE8s ≤ u128Max :=
      (Nat.mul_le_mul (counted.trans fits) pot).trans (by decide)
    have share : weightE8s * potE8s / denomE8s ≤ potE8s :=
      Nat.div_le_of_le_mul (Nat.mul_le_mul_right _ counted)
    rw [Nat.min_eq_left product, Nat.min_eq_left (share.trans pot)]

theorem sum_share_le
    (counted : (history.filterMap (roundWeight fromText policy job)).sum = job.denomE8s) :
    ((history.filterMap (roundShare fromText policy job)).map Prod.fst).sum ≤ job.potStartE8s := by
  refine le_trans ?_ (sum_floor_le id job.potStartE8s job.denomE8s
    (history.filterMap (roundWeight fromText policy job)) (by rw [List.map_id, counted]))
  clear counted
  induction history with
  | nil => exact le_refl _
  | cons tx rest ih =>
      cases weighted : roundWeight fromText policy job tx with
      | none =>
          have unpaid : roundShare fromText policy job tx = none := by
            rw [roundShare, weighted, Option.bind_eq_none_iff]
            exact fun _ _ => rfl
          rwa [List.filterMap_cons_none unpaid, List.filterMap_cons_none weighted]
      | some weightE8s =>
          rw [List.filterMap_cons_some weighted, List.map_cons, List.sum_cons]
          cases due : roundShare fromText policy job tx with
          | none => rw [List.filterMap_cons_none due]; exact Nat.le_add_left_of_le ih
          | some share =>
              rw [List.filterMap_cons_some due, List.map_cons, List.sum_cons]
              simp only [roundShare, weighted, Option.bind_some, Option.bind_eq_some_iff,
                Option.ite_none_left_eq_some] at due
              rcases due with ⟨_, _, _, ⟨⟩⟩
              rw [Nat.mul_comm job.potStartE8s]
              exact Nat.add_le_add (le_refl _) ih

end Worth

section Cursors

variable {history left : List IndexTx} {cursor : Option Nat} {tx : IndexTx}

def passed (cursor : Option Nat) (history : List IndexTx) : List IndexTx :=
  match cursor with
  | none => []
  | some id => history.filter fun tx => decide (id ≤ tx.id)

theorem passed_append (descending : Descending history) (cursor : Option Nat) :
    passed cursor history ++ belowCursor cursor history = history := by
  cases cursor with
  | none => rfl
  | some id =>
      induction history with
      | nil => rfl
      | cons tx rest ih =>
          have apart := List.pairwise_cons.mp descending
          by_cases above : id ≤ tx.id
          · simpa [passed, belowCursor, above] using ih apart.2
          · have under : ∀ older ∈ rest, older.id < id := by
              intro older member
              have order := apart.1 older member
              omega
            have none_passed : passed (some id) (tx :: rest) = [] := by
              simpa [passed, above] using under
            rw [none_passed, List.nil_append, belowCursor, List.filter_eq_self]
            simpa [not_le.mp above] using under

theorem passed_page {page : List IndexTx} (descending : Descending history)
    (below : belowCursor cursor history = page ++ left) (last : page.getLast? = some tx) :
    passed (some tx.id) history = passed cursor history ++ page ∧
      belowCursor (some tx.id) history = left := by
  have whole := passed_append descending cursor
  rw [below, ← List.append_assoc] at whole
  have rest : belowCursor (some tx.id) history = left := by
    have ordered := descending
    rw [← whole] at ordered ⊢
    exact belowCursor_split ordered (by simp [last])
  refine ⟨?_, rest⟩
  have same := passed_append descending (some tx.id)
  rw [rest] at same
  exact List.append_cancel_right (same.trans whole.symm)

theorem passed_oldest (descending : Descending history)
    (oldest : cursor = history.getLast?.map IndexTx.id) : passed cursor history = history := by
  subst oldest
  rcases List.eq_nil_or_concat' history with rfl | ⟨front, last, rfl⟩
  · rfl
  · rw [List.getLast?_concat, Option.map_some, passed, List.filter_eq_self]
    intro tx member
    rcases List.mem_append.mp member with newer | same
    · have order := (List.pairwise_append.mp descending).2.2 tx newer last (by simp)
      exact decide_eq_true order.le
    · simp [List.mem_singleton.mp same]

theorem page_exhausts {pageSize count : Nat} {expected : Option Nat} {complete : Bool}
    (descending : Descending history)
    (valid : validateHistoryPage pageSize (indexPage history cursor count) cursor expected =
      some complete) :
    (complete = true → (belowCursor cursor history).take count = belowCursor cursor history) ∧
      (complete = false → ∃ last, ((belowCursor cursor history).take count).getLast? = some last) := by
  have split := passed_append descending cursor
  rcases validateHistoryPage_some valid with ⟨empty, rfl, ends⟩ | ⟨last, found, rfl⟩
  · refine ⟨fun _ => ?_, nofun⟩
    rw [passed_oldest descending ends, List.append_right_eq_self] at split
    rw [split, List.take_nil]
  · refine ⟨fun ends => ?_, fun _ => ⟨last, found⟩⟩
    have oldest : some last.id = history.getLast?.map IndexTx.id := of_decide_eq_true ends
    exact take_eq_all (split.symm ▸ descending) found (split.symm ▸ oldest)

theorem filterMap_filter_same {β : Type*} {value : IndexTx → Option β} {one other : IndexTx → Bool}
    (same : ∀ tx ∈ history, one tx ≠ other tx → value tx = none) :
    (history.filter one).filterMap value = (history.filter other).filterMap value := by
  induction history with
  | nil => rfl
  | cons tx rest ih =>
      have tail := ih fun older member => same older (List.mem_cons_of_mem tx member)
      by_cases agree : one tx = other tx
      · simp only [List.filter_cons, agree]
        split
        · simp only [List.filterMap_cons, tail]
        · exact tail
      · have worthless := same tx List.mem_cons_self agree
        simp only [List.filter_cons]
        split <;> split <;> simp only [List.filterMap_cons, worthless, tail]

end Cursors
end JupiterSuite.Faucet
