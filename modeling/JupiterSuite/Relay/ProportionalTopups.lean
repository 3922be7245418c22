import JupiterSuite.Relay.AllocationLimits

/-! The proportional top-up loop. The floors leave less than one e8 for each target with a
remainder, so that the targets with the largest remainders take the whole rest in one pass. -/

namespace JupiterSuite.Relay

open Base

def remainderOrder (desired : List Nat) (total available : Nat) : List Nat :=
  (((List.range desired.length).zip
    (desired.map (floorRemainder total available))).insertionSort largestRemainderFirst).map
      Prod.fst

def floorAllocations (desired : List Nat) (total available : Nat) : Distribution :=
  ⟨desired.map (floorShare total available),
    satSum u64Max (desired.map (floorShare total available)), false⟩

/-- The runs of the `while` loop that come to an end, whatever the number of their passes. -/
inductive Distribution.Ends (desired : List Nat) (available : Nat) (order : List Nat) :
    Distribution → Distribution → Prop
  | covered {acc : Distribution} (used : available ≤ acc.used) :
      Ends desired available order acc acc
  | stalled {acc : Distribution} (short : acc.used < available)
      (idle : (acc.pass desired available order).advanced = false) :
      Ends desired available order acc (acc.pass desired available order)
  | again {acc final : Distribution} (short : acc.used < available)
      (advanced : (acc.pass desired available order).advanced = true)
      (later : Ends desired available order (acc.pass desired available order) final) :
      Ends desired available order acc final

/-! ## The end of the loop -/

section Loop

variable {desired : List Nat} {available : Nat} {order : List Nat} {acc : Distribution}

theorem advance_used (desired : List Nat) (acc : Distribution) (small : available ≤ u64Max)
    (index : Nat) :
    acc.advance desired available index = acc ∨
      acc.used < (acc.advance desired available index).used := by
  rw [Distribution.advance]
  split
  · exact .inl rfl
  · rename_i room
    split
    · right
      have one : satAdd u64Max acc.used 1 = acc.used + 1 := satAdd_of_le (by omega)
      dsimp only
      omega
    · exact .inl rfl

theorem foldl_advance_used (desired : List Nat) (acc : Distribution) (small : available ≤ u64Max)
    (order : List Nat) :
    order.foldl (Distribution.advance desired available) acc = acc ∨
      acc.used < (order.foldl (Distribution.advance desired available) acc).used := by
  induction order generalizing acc with
  | nil => exact .inl rfl
  | cons index order ih =>
      rw [List.foldl_cons]
      have first := advance_used desired acc small index
      have later := ih (acc.advance desired available index)
      rcases first with same | more
      · rw [same] at later ⊢
        exact later
      · rcases later with same | again
        · rw [same]
          exact .inr more
        · exact .inr (lt_trans more again)

theorem foldl_advance_covered (desired : List Nat) (spent : available ≤ acc.used)
    (order : List Nat) :
    order.foldl (Distribution.advance desired available) acc = acc := by
  induction order with
  | nil => rfl
  | cons index order ih =>
      rw [List.foldl_cons, Distribution.advance, if_pos spent]
      exact ih

theorem pass_used (small : available ≤ u64Max)
    (advanced : (acc.pass desired available order).advanced = true) :
    acc.used < (acc.pass desired available order).used := by
  have moved := foldl_advance_used desired { acc with advanced := false } small order
  rcases moved with same | more
  · rw [Distribution.pass, same] at advanced
    cases advanced
  · exact more

theorem distribute_ends (small : available ≤ u64Max) {passes : Nat}
    (enough : available - acc.used ≤ passes) :
    Distribution.Ends desired available order acc
      (distribute desired available order passes acc) := by
  induction passes generalizing acc with
  | zero => exact .covered (by omega)
  | succ passes ih =>
      rw [distribute]
      by_cases short : acc.used < available
      · rw [if_pos short]
        dsimp only
        by_cases advanced : (acc.pass desired available order).advanced = true
        · have more := pass_used small advanced
          rw [if_pos advanced]
          exact .again short advanced (ih (by omega))
        · rw [if_neg advanced]
          exact .stalled short (eq_false_of_ne_true advanced)
      · rw [if_neg short]
        exact .covered (Nat.le_of_not_lt short)

end Loop

/-! ## One pass -/

variable {index : Nat} {left : List Nat}

section Pass

variable {desired : List Nat} {total available : Nat} {acc : Distribution}

def remainderAt (desired : List Nat) (total available index : Nat) : Nat :=
  available * desired.getD index 0 % total

/-- The loop inside a pass; `left` are the targets that it did not visit yet. -/
structure Handing (desired : List Nat) (total available : Nat) (left : List Nat)
    (acc : Distribution) : Prop where
  distributed : Distributed desired available acc
  floors : ∀ index ∈ left,
    acc.shares.getD index 0 * total + remainderAt desired total available index =
      available * desired.getD index 0
  notAbove : ∀ index, acc.shares.getD index 0 * total < available * desired.getD index 0 + total
  notBelow : ∀ index, available * desired.getD index 0 < acc.shares.getD index 0 * total + total
  settled : acc.used < available → ∀ index < desired.length, index ∉ left →
    available * desired.getD index 0 ≤ acc.shares.getD index 0 * total

theorem sum_scaled {shares desired : List Nat}
    (each : List.Forall₂ (fun share gross => available * gross ≤ share * total) shares desired) :
    available * desired.sum ≤ shares.sum * total := by
  induction each with
  | nil => simp
  | cons first rest ih =>
      rw [List.sum_cons, List.sum_cons, Nat.mul_add, Nat.add_mul]
      exact Nat.add_le_add first ih

theorem forall₂_of_getD {related : Nat → Nat → Prop} {first second : List Nat}
    (length : first.length = second.length)
    (each : ∀ index < second.length, related (first.getD index 0) (second.getD index 0)) :
    List.Forall₂ related first second := by
  induction first generalizing second with
  | nil =>
      rw [List.eq_nil_of_length_eq_zero length.symm]
      exact .nil
  | cons one first ih =>
      cases second with
      | nil => cases length
      | cons other second =>
          have head := each 0 (Nat.zero_lt_succ _)
          have tail : ∀ index < second.length,
              related (first.getD index 0) (second.getD index 0) := by
            intro index inside
            exact each (index + 1) (Nat.succ_lt_succ inside)
          exact .cons head (ih (Nat.succ.inj length) tail)

theorem Distributed.covers (distributed : Distributed desired available acc)
    (positive : 0 < desired.sum)
    (each : ∀ index < desired.length,
      available * desired.getD index 0 ≤ acc.shares.getD index 0 * desired.sum) :
    available ≤ acc.used := by
  have scaled := sum_scaled (forall₂_of_getD distributed.length each)
  rw [distributed.used]
  exact Nat.le_of_mul_le_mul_right scaled positive

theorem getD_set_self {values : List Nat} {value : Nat} (inside : index < values.length) :
    (values.set index value).getD index 0 = value := by
  rw [List.getD_eq_getElem?_getD, List.getElem?_set_self inside]
  rfl

theorem getD_set_ne {values : List Nat} {other value : Nat} (different : other ≠ index) :
    (values.set index value).getD other 0 = values.getD other 0 := by
  rw [List.getD_eq_getElem?_getD, List.getElem?_set_ne (Ne.symm different),
    List.getD_eq_getElem?_getD]

/-- While units are left, the target visited next has a remainder: else none behind it has one. -/
theorem Handing.unsettled (handing : Handing desired desired.sum available (index :: left) acc)
    (positive : 0 < desired.sum) (short : acc.used < available)
    (largest : ∀ later ∈ left, remainderAt desired desired.sum available later ≤
      remainderAt desired desired.sum available index) :
    acc.shares.getD index 0 * desired.sum < available * desired.getD index 0 := by
  have here := handing.floors index List.mem_cons_self
  by_contra exhausted
  have none_here : remainderAt desired desired.sum available index = 0 := by omega
  have covered : available ≤ acc.used := by
    apply handing.distributed.covers positive
    intro other inside
    by_cases ahead : other ∈ index :: left
    · have floor := handing.floors other ahead
      rcases List.mem_cons.mp ahead with rfl | later
      · omega
      · have none_there := largest other later
        omega
    · exact handing.settled short other inside ahead
  omega

theorem Handing.advance (handing : Handing desired desired.sum available (index :: left) acc)
    (positive : 0 < desired.sum) (short : available ≤ desired.sum) (small : available ≤ u64Max)
    (fresh : index ∉ left)
    (largest : ∀ later ∈ left, remainderAt desired desired.sum available later ≤
      remainderAt desired desired.sum available index) :
    Handing desired desired.sum available left (acc.advance desired available index) := by
  have distributed := advance_distributed small handing.distributed index
  have behind : ∀ other ∈ left, other ≠ index := by
    rintro other member rfl
    exact fresh member
  rw [Distribution.advance] at distributed ⊢
  by_cases covered : available ≤ acc.used
  · rw [if_pos covered]
    refine ⟨handing.distributed, ?_, handing.notAbove, handing.notBelow, ?_⟩
    · intro other member
      exact handing.floors other (List.mem_cons_of_mem index member)
    · intro room
      exact absurd covered (Nat.not_le_of_lt room)
  · rw [if_neg covered] at distributed ⊢
    by_cases below : acc.shares.getD index 0 < desired.getD index 0
    · rw [if_pos below] at distributed ⊢
      have room := handing.unsettled positive (Nat.lt_of_not_le covered) largest
      have under := handing.notBelow index
      have inside : index < acc.shares.length := by
        rw [handing.distributed.length]
        by_contra outside
        have nothing : desired.getD index 0 = 0 := by
          rw [List.getD_eq_getElem?_getD, List.getElem?_eq_none (Nat.le_of_not_lt outside)]
          rfl
        omega
      have one : satAdd u64Max (acc.shares.getD index 0) 1 = acc.shares.getD index 0 + 1 := by
        have part := getD_le_sum acc.shares index
        have total := handing.distributed.used
        exact satAdd_of_le (by omega)
      have raised : (acc.shares.getD index 0 + 1) * desired.sum =
          acc.shares.getD index 0 * desired.sum + desired.sum := Nat.succ_mul _ _
      rw [one] at distributed ⊢
      refine ⟨distributed, ?_, ?_, ?_, ?_⟩
      · intro other member
        dsimp only
        rw [getD_set_ne (behind other member)]
        exact handing.floors other (List.mem_cons_of_mem index member)
      · intro other
        dsimp only
        by_cases here : other = index
        · rw [here, getD_set_self inside, raised]
          omega
        · rw [getD_set_ne here]
          exact handing.notAbove other
      · intro other
        dsimp only
        by_cases here : other = index
        · rw [here, getD_set_self inside, raised]
          omega
        · rw [getD_set_ne here]
          exact handing.notBelow other
      · intro _ other within passed
        dsimp only
        by_cases here : other = index
        · rw [here, getD_set_self inside, raised]
          omega
        · rw [getD_set_ne here]
          apply handing.settled (Nat.lt_of_not_le covered) other within
          exact List.not_mem_cons_of_ne_of_not_mem here passed
    · rw [if_neg below]
      refine ⟨handing.distributed, ?_, handing.notAbove, handing.notBelow, ?_⟩
      · intro other member
        exact handing.floors other (List.mem_cons_of_mem index member)
      · intro room other within passed
        by_cases here : other = index
        · rw [here]
          calc available * desired.getD index 0
              ≤ desired.sum * acc.shares.getD index 0 :=
                Nat.mul_le_mul short (Nat.le_of_not_lt below)
            _ = acc.shares.getD index 0 * desired.sum := Nat.mul_comm _ _
        · apply handing.settled room other within
          exact List.not_mem_cons_of_ne_of_not_mem here passed

theorem Handing.pass (handing : Handing desired desired.sum available left acc)
    (positive : 0 < desired.sum) (short : available ≤ desired.sum) (small : available ≤ u64Max)
    (distinct : left.Nodup)
    (sorted : left.Pairwise fun first later => remainderAt desired desired.sum available later ≤
      remainderAt desired desired.sum available first) :
    Handing desired desired.sum available []
      (left.foldl (Distribution.advance desired available) acc) := by
  induction left generalizing acc with
  | nil => exact handing
  | cons index left ih =>
      have ⟨fresh, distinct⟩ := List.nodup_cons.mp distinct
      have ⟨largest, sorted⟩ := List.pairwise_cons.mp sorted
      exact ih (handing.advance positive short small fresh largest) distinct sorted

theorem Handing.covers (handing : Handing desired desired.sum available [] acc)
    (positive : 0 < desired.sum) : acc.used = available := by
  have bounded := handing.distributed.bounded
  by_contra different
  have short : acc.used < available := by omega
  have covered := handing.distributed.covers positive
    (fun index inside => handing.settled short index inside List.not_mem_nil)
  omega

end Pass

/-! ## The order of the pass -/

section Order

variable {desired : List Nat} {total available : Nat}

instance : IsTrans (Nat × Nat) largestRemainderFirst :=
  ⟨fun first second third earlier later => by
    simp only [largestRemainderFirst] at earlier later ⊢
    omega⟩

instance : Std.Total largestRemainderFirst :=
  ⟨fun first second => by
    simp only [largestRemainderFirst]
    omega⟩

theorem remainderOrder_perm (desired : List Nat) (total available : Nat) :
    (remainderOrder desired total available).Perm (List.range desired.length) := by
  have sorted := (List.perm_insertionSort largestRemainderFirst
    ((List.range desired.length).zip (desired.map (floorRemainder total available)))).map Prod.fst
  rw [List.map_fst_zip (by simp)] at sorted
  exact sorted

theorem floorRemainder_eq {gross : Nat} (small : available ≤ u64Max) (fits : gross ≤ u64Max) :
    floorRemainder total available gross = available * gross % total := by
  have product : available * gross ≤ u128Max :=
    calc available * gross ≤ u64Max * u64Max := Nat.mul_le_mul small fits
      _ ≤ u128Max := by decide
  rw [floorRemainder, satMul, Nat.min_eq_left product]
  split
  · rename_i zero
    rw [zero, Nat.mul_zero, Nat.zero_mod]
  · rfl

theorem floorShare_eq {gross : Nat} (small : available ≤ u64Max) (fits : gross ≤ u64Max)
    (short : available ≤ total) (positive : 0 < total) :
    floorShare total available gross = available * gross / total := by
  have product : available * gross ≤ u128Max :=
    calc available * gross ≤ u64Max * u64Max := Nat.mul_le_mul small fits
      _ ≤ u128Max := by decide
  have capped : available * gross / total ≤ gross := by
    calc available * gross / total ≤ total * gross / total :=
          Nat.div_le_div_right (Nat.mul_le_mul_right gross short)
      _ = gross := Nat.mul_div_cancel_left gross positive
  rw [floorShare, satMul, Nat.min_eq_left product, Nat.min_eq_left capped]

theorem remainderOrder_sorted (total : Nat) (small : available ≤ u64Max)
    (fits : ∀ gross ∈ desired, gross ≤ u64Max) :
    (remainderOrder desired total available).Pairwise fun first later =>
      remainderAt desired total available later ≤ remainderAt desired total available first := by
  rw [remainderOrder, List.pairwise_map]
  refine List.Pairwise.imp_of_mem ?_ (List.pairwise_insertionSort largestRemainderFirst _)
  have paired : ∀ pair ∈ ((List.range desired.length).zip
      (desired.map (floorRemainder total available))).insertionSort largestRemainderFirst,
      pair.2 = remainderAt desired total available pair.1 := by
    intro pair member
    rw [List.mem_insertionSort] at member
    obtain ⟨place, inside, rfl⟩ := List.getElem_of_mem member
    have within : place < desired.length := by simpa using inside
    rw [List.getElem_zip, List.getElem_range, List.getElem_map,
      floorRemainder_eq small (fits _ (List.getElem_mem within)), remainderAt,
      List.getD_eq_getElem?_getD, List.getElem?_eq_getElem within, Option.getD_some]
  intro first later here there ordered
  rw [← paired first here, ← paired later there]
  rcases ordered with larger | ⟨same, _⟩
  · exact Nat.le_of_lt larger
  · exact Nat.le_of_eq same.symm

theorem floorAllocations_handing (fits : desired.sum ≤ u64Max) (short : available < desired.sum) :
    Handing desired desired.sum available (remainderOrder desired desired.sum available)
      (floorAllocations desired desired.sum available) := by
  have small : available ≤ u64Max := by omega
  have each : ∀ gross ∈ desired, gross ≤ u64Max := fun gross member =>
    Nat.le_trans (List.single_le_sum (fun _ _ => Nat.zero_le _) gross member) fits
  have floor : ∀ index, (floorAllocations desired desired.sum available).shares.getD index 0 =
      available * desired.getD index 0 / desired.sum := by
    intro index
    rw [floorAllocations, List.getD_eq_getElem?_getD, List.getD_eq_getElem?_getD,
      List.getElem?_map]
    cases found : desired[index]? with
    | none => simp
    | some gross =>
        exact floorShare_eq small (each gross (List.mem_of_getElem? found)) (Nat.le_of_lt short)
          (by omega)
  have exact_share : ∀ index, (floorAllocations desired desired.sum available).shares.getD index 0 *
      desired.sum + remainderAt desired desired.sum available index =
        available * desired.getD index 0 := by
    intro index
    rw [floor, remainderAt, Nat.mul_comm _ desired.sum]
    exact Nat.div_add_mod _ _
  have left_over : ∀ index, remainderAt desired desired.sum available index < desired.sum :=
    fun index => Nat.mod_lt _ (by omega)
  have floors : (desired.map (floorShare desired.sum available)).sum ≤ available :=
    floorShares_le (Nat.le_refl desired.sum)
  have used := satSum_of_le (Nat.le_trans floors small)
  refine ⟨⟨by simp [floorAllocations], used, ?_⟩, fun index _ => exact_share index, ?_, ?_, ?_⟩
  · rw [floorAllocations, used]
    exact floors
  · intro index
    have here := exact_share index
    omega
  · intro index
    have here := exact_share index
    have less := left_over index
    omega
  · intro _ index inside passed
    have visited := (remainderOrder_perm desired desired.sum available).mem_iff.mpr
      (List.mem_range.mpr inside)
    exact absurd visited passed

end Order

/-! ## What the loop hands out -/

/-- The loop ends; the grosses that it leaves add up to the balance, none exceeds what its target
asks for and each is less than one e8 away from its exact share. -/
structure ProportionalTopups (desired : List Nat) (total available : Nat) : Prop where
  ends : ∃ final, Distribution.Ends desired available (remainderOrder desired total available)
    (floorAllocations desired total available) final ∧
      final.shares = proportionalTopupGrossAllocations desired total available
  complete : (proportionalTopupGrossAllocations desired total available).sum = available
  capped : List.Forall₂ (fun share gross => share ≤ gross)
    (proportionalTopupGrossAllocations desired total available) desired
  near : List.Forall₂ (fun share gross => share * total < available * gross + total ∧
    available * gross < share * total + total)
      (proportionalTopupGrossAllocations desired total available) desired

theorem distribute_pass {desired order : List Nat} {available : Nat} {acc : Distribution}
    (short : acc.used < available)
    (covered : (acc.pass desired available order).used = available) (passes : Nat) :
    distribute desired available order (passes + 1) acc = acc.pass desired available order := by
  rw [distribute, if_pos short]
  dsimp only
  split
  · cases passes with
    | zero => rfl
    | succ passes => rw [distribute, if_neg (by omega)]
  · rfl

theorem distribute_settles {desired : List Nat} {available : Nat} (fits : desired.sum ≤ u64Max)
    (short : available < desired.sum) :
    ∃ final, Handing desired desired.sum available [] final ∧
      final.shares = proportionalTopupGrossAllocations desired desired.sum available ∧
      final.used = available := by
  have start := floorAllocations_handing fits short
  have small : available ≤ u64Max := by omega
  have each : ∀ gross ∈ desired, gross ≤ u64Max := fun gross member =>
    Nat.le_trans (List.single_le_sum (fun _ _ => Nat.zero_le _) gross member) fits
  have order := remainderOrder_perm desired desired.sum available
  have distinct := order.nodup_iff.mpr List.nodup_range
  have sorted := remainderOrder_sorted desired.sum small each
  have restarted : Handing desired desired.sum available
      (remainderOrder desired desired.sum available)
      { floorAllocations desired desired.sum available with advanced := false } :=
    ⟨⟨start.distributed.length, start.distributed.used, start.distributed.bounded⟩,
      start.floors, start.notAbove, start.notBelow, start.settled⟩
  have passed := restarted.pass (by omega) (Nat.le_of_lt short) small distinct sorted
  have covered := passed.covers (by omega)
  refine ⟨_, passed, ?_, covered⟩
  have result : proportionalTopupGrossAllocations desired desired.sum available =
      (distribute desired available (remainderOrder desired desired.sum available)
        (available - (floorAllocations desired desired.sum available).used)
        (floorAllocations desired desired.sum available)).shares := rfl
  rw [result]
  by_cases room : (floorAllocations desired desired.sum available).used < available
  · obtain ⟨passes, more⟩ : ∃ passes,
        available - (floorAllocations desired desired.sum available).used = passes + 1 :=
      ⟨_, (Nat.succ_pred_eq_of_pos (by omega)).symm⟩
    rw [more, distribute_pass room covered]
    rfl
  · have spent := Nat.le_of_not_lt room
    have idle : (floorAllocations desired desired.sum available).pass desired available
        (remainderOrder desired desired.sum available) =
          { floorAllocations desired desired.sum available with advanced := false } :=
      foldl_advance_covered desired spent _
    rw [Distribution.pass] at idle
    rw [idle, Nat.sub_eq_zero_of_le spent]
    rfl

theorem proportional_topups_exact (desired : List Nat) (available : Nat)
    (fits : desired.sum ≤ u64Max) (short : available < desired.sum) :
    ProportionalTopups desired desired.sum available := by
  obtain ⟨final, handing, shares, used⟩ := distribute_settles fits short
  have small : available ≤ u64Max := by omega
  refine ⟨⟨_, distribute_ends small (Nat.le_refl _), rfl⟩, ?_, proportional_capped _ _ _, ?_⟩
  · calc (proportionalTopupGrossAllocations desired desired.sum available).sum
        = final.shares.sum := by rw [shares]
      _ = final.used := handing.distributed.used.symm
      _ = available := used
  · rw [← shares]
    apply forall₂_of_getD handing.distributed.length
    intro index _
    exact ⟨handing.notAbove index, handing.notBelow index⟩

/-- Two units are left after the floors; the two largest remainders take them. -/
theorem proportional_topups_of_three :
    ([5, 1, 4].sum ≤ u64Max ∧ 7 < [5, 1, 4].sum) ∧ ProportionalTopups [5, 1, 4] [5, 1, 4].sum 7 :=
  ⟨by decide, proportional_topups_exact [5, 1, 4] 7 (by decide) (by decide)⟩

end JupiterSuite.Relay
