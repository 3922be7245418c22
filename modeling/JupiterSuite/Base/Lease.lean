import Mathlib.Logic.Function.Basic

/-! Suspended continuations of concurrent tasks. An assertion about a continuation holds of
the pool when it holds of every suspended task; a step of one task may rely on it and must
leave the assertions of the others true. -/

namespace JupiterSuite.Base

abbrev Pool (κ : Type*) := Nat → Option κ

variable {id other now : Nat}

namespace Pool

variable {κ : Type*}

def empty : Pool κ := fun _ => none

def put (pool : Pool κ) (id : Nat) (suspended : Option κ) : Pool κ :=
  Function.update pool id suspended

def Holds (assertion : κ → Prop) (pool : Pool κ) : Prop :=
  ∀ id kont, pool id = some kont → assertion kont

@[simp]
theorem put_self (pool : Pool κ) (id : Nat) (suspended : Option κ) :
    pool.put id suspended id = suspended := by
  simp [put]

theorem put_other (pool : Pool κ) (suspended : Option κ) (different : other ≠ id) :
    pool.put id suspended other = pool other := by
  simp [put, different]

theorem put_eq_some {pool : Pool κ} {suspended : Option κ} {kont : κ}
    (found : pool.put id suspended other = some kont) :
    (other = id ∧ suspended = some kont) ∨ (other ≠ id ∧ pool other = some kont) := by
  by_cases same : other = id
  · subst same
    exact .inl ⟨rfl, by simpa using found⟩
  · exact .inr ⟨same, by rwa [put_other pool suspended same] at found⟩

theorem put_vacant {pool : Pool κ} (vacant : pool id = none) : pool.put id none = pool := by
  funext other
  by_cases same : other = id
  · subst same
    rw [put_self, vacant]
  · rw [put_other pool none same]

theorem holds_empty (assertion : κ → Prop) : Holds assertion empty := by
  intro id kont found
  simp [empty] at found

theorem Holds.mono {assertion weaker : κ → Prop} {pool : Pool κ} (holds : pool.Holds assertion)
    (weaken : ∀ kont, assertion kont → weaker kont) : pool.Holds weaker :=
  fun id kont found => weaken kont (holds id kont found)

/-- The rule for one task's step: its own new continuation is shown, every other one is
carried over. -/
theorem Holds.put {before after : κ → Prop} {pool : Pool κ} {suspended : Option κ}
    (holds : pool.Holds before) (own : ∀ kont, suspended = some kont → after kont)
    (others : ∀ other kont, other ≠ id → pool other = some kont → before kont → after kont) :
    (pool.put id suspended).Holds after := by
  intro other kont found
  rcases put_eq_some found with ⟨_, mine⟩ | ⟨different, theirs⟩
  · exact own kont mine
  · exact others other kont different theirs (holds other kont theirs)

def Pairs (apart : κ → κ → Prop) (pool : Pool κ) : Prop :=
  ∀ first second kont other, first ≠ second → pool first = some kont →
    pool second = some other → apart kont other

theorem Pairs.put {apart : κ → κ → Prop} {pool : Pool κ} {suspended : Option κ}
    (symmetric : ∀ kont other, apart kont other → apart other kont) (pairs : pool.Pairs apart)
    (own : ∀ kont other theirs, suspended = some kont → other ≠ id →
      pool other = some theirs → apart kont theirs) : (pool.put id suspended).Pairs apart := by
  intro first second kont other different found theirs
  rcases put_eq_some found with ⟨here, mine⟩ | ⟨elsewhere, kept⟩
  · rcases put_eq_some theirs with ⟨same, _⟩ | ⟨away, present⟩
    · exact absurd (here.trans same.symm) different
    · exact own kont second other mine away present
  · rcases put_eq_some theirs with ⟨_, mine⟩ | ⟨_, present⟩
    · exact symmetric other kont (own other first kont mine elsewhere kept)
    · exact pairs first second kont other different kept present

end Pool
/-! Tasks fenced by an expiring lease. The lock holds the token of the last acquired lease, or
zero; a token is the time its lease expires. A task that lost its lease is not stopped: it
finds out when it next compares its token with the lock. -/

variable {κ : Type*}

def Owns (token : κ → Nat) (lock : Option Nat) (kont : κ) : Prop := lock = some (token kont)

structure Leased (token : κ → Nat) (lock : Option Nat) (clock : Nat) (pool : Pool κ) : Prop where
  distinct : ∀ i j first second, pool i = some first → pool j = some second →
    token first = token second → i = j
  positive : ∀ i kont, pool i = some kont → 0 < token kont
  held : ∀ i kont, pool i = some kont → clock < token kont → Owns token lock kont

variable {theirs : κ}

namespace Leased

variable {token : κ → Nat} {lock : Option Nat} {clock : Nat} {pool : Pool κ}

theorem empty (lock : Option Nat) (clock : Nat) : Leased token lock clock Pool.empty where
  distinct := fun _ _ _ _ found _ _ => by cases found
  positive := fun _ _ found => by cases found
  held := fun _ _ found _ => by cases found

theorem tick (leased : Leased token lock clock pool) {later : Nat} (forward : clock ≤ later) :
    Leased token lock later pool where
  distinct := leased.distinct
  positive := leased.positive
  held := fun i kont found live => leased.held i kont found (Nat.lt_of_le_of_lt forward live)

theorem others_lost (leased : Leased token lock clock pool) {kont : κ} (found : pool id = some kont)
    (owner : Owns token lock kont) (also : pool other = some theirs) (different : other ≠ id) :
    ¬ Owns token lock theirs := by
  intro both
  have same : token theirs = token kont := by
    have tokens := both.symm.trans owner
    exact Option.some.inj tokens
  exact different (leased.distinct other id theirs kont also found same)

theorem acquire_fresh (leased : Leased token lock clock pool) {fresh : Nat} (forward : clock ≤ now)
    (free : lock.getD 0 ≤ now) (later : now < fresh) :
    ∀ i kont, pool i = some kont → token kont ≠ fresh := by
  intro i kont found same
  have owner := leased.held i kont found (by omega)
  rw [owner] at free
  simp only [Option.getD_some] at free
  omega

/-- Once the lock is free every suspended lease has expired, whatever the lock then becomes. -/
theorem expired (leased : Leased token lock clock pool) (forward : clock ≤ now)
    (free : lock.getD 0 ≤ now) (after : Option Nat) : Leased token after now pool where
  distinct := leased.distinct
  positive := leased.positive
  held := by
    intro i kont found live
    have owner := leased.held i kont found (by omega)
    rw [owner] at free
    simp only [Option.getD_some] at free
    omega

theorem acquire (leased : Leased token lock clock pool) {kont : κ} (forward : clock ≤ now)
    (free : lock.getD 0 ≤ now) (later : now < token kont) :
    Leased token (some (token kont)) now (pool.put id (some kont)) where
  distinct := by
    intro i j first second left right same
    have fresh := leased.acquire_fresh forward free later
    rcases Pool.put_eq_some left with ⟨rfl, mine⟩ | ⟨_, old⟩
    · cases mine
      rcases Pool.put_eq_some right with ⟨rfl, _⟩ | ⟨_, theirs⟩
      · rfl
      · exact absurd same.symm (fresh j second theirs)
    · rcases Pool.put_eq_some right with ⟨rfl, mine⟩ | ⟨_, theirs⟩
      · cases mine
        exact absurd same (fresh i first old)
      · exact leased.distinct i j first second old theirs same
  positive := by
    intro i other found
    rcases Pool.put_eq_some found with ⟨_, mine⟩ | ⟨_, old⟩
    · cases mine
      omega
    · exact leased.positive i other old
  held := by
    intro i other found live
    rcases Pool.put_eq_some found with ⟨_, mine⟩ | ⟨_, old⟩
    · cases mine
      rfl
    · have owner := leased.held i other old (by omega)
      rw [owner] at free
      simp only [Option.getD_some] at free
      omega

theorem keep (leased : Leased token lock clock pool) {kont next : κ} (found : pool id = some kont)
    (same : token next = token kont) :
    Leased token lock clock (pool.put id (some next)) where
  distinct := by
    intro i j first second left right tokens
    rcases Pool.put_eq_some left with ⟨rfl, mine⟩ | ⟨_, old⟩
    · cases mine
      rcases Pool.put_eq_some right with ⟨rfl, _⟩ | ⟨_, theirs⟩
      · rfl
      · exact leased.distinct _ _ kont second found theirs (same.symm.trans tokens)
    · rcases Pool.put_eq_some right with ⟨rfl, mine⟩ | ⟨_, theirs⟩
      · cases mine
        exact leased.distinct _ _ first kont old found (tokens.trans same)
      · exact leased.distinct i j first second old theirs tokens
  positive := by
    intro i other located
    rcases Pool.put_eq_some located with ⟨_, mine⟩ | ⟨_, old⟩
    · cases mine
      rw [same]
      exact leased.positive id kont found
    · exact leased.positive i other old
  held := by
    intro i other located live
    rcases Pool.put_eq_some located with ⟨_, mine⟩ | ⟨_, old⟩
    · cases mine
      have owner := leased.held id kont found (by omega)
      unfold Owns at owner ⊢
      rw [owner, same]
    · exact leased.held i other old live

theorem stop (leased : Leased token lock clock pool) {kont : κ} (found : pool id = some kont)
    {after : Option Nat} (released : after = lock ∨ Owns token lock kont) :
    Leased token after clock (pool.put id none) where
  distinct := by
    intro i j first second left right tokens
    rcases Pool.put_eq_some left with ⟨_, gone⟩ | ⟨_, old⟩
    · cases gone
    · rcases Pool.put_eq_some right with ⟨_, gone⟩ | ⟨_, theirs⟩
      · cases gone
      · exact leased.distinct i j first second old theirs tokens
  positive := by
    intro i other located
    rcases Pool.put_eq_some located with ⟨_, gone⟩ | ⟨_, old⟩
    · cases gone
    · exact leased.positive i other old
  held := by
    intro i other located live
    rcases Pool.put_eq_some located with ⟨_, gone⟩ | ⟨different, old⟩
    · cases gone
    · have owner := leased.held i other old live
      rcases released with rfl | mine
      · exact owner
      · exact absurd owner (leased.others_lost found mine old different)

end Leased

/-- What the owner of the lock may rely on; a task that lost its lease is promised nothing. -/
def Fenced (token : κ → Nat) (lock : Option Nat) (assertion : κ → Prop) (kont : κ) : Prop :=
  Owns token lock kont → assertion kont

theorem fenced_of_released {token : κ → Nat} {lock : Option Nat} {clock : Nat} {pool : Pool κ}
    {assertion : κ → Prop} (leased : Leased token lock clock pool) (also : pool other = some theirs) :
    Fenced token (some 0) assertion theirs := by
  intro owned
  have positive := leased.positive other theirs also
  have zero : 0 = token theirs := Option.some.inj owned
  omega

/-- Single writer: what the owner changes while it keeps or releases the lock cannot disturb
the other tasks, for none of them owns it. -/
theorem fenced_of_owner {token : κ → Nat} {lock after : Option Nat} {clock : Nat} {pool : Pool κ}
    {assertion : κ → Prop} (leased : Leased token lock clock pool) {kont : κ}
    (found : pool id = some kont) (owner : Owns token lock kont)
    (kept : after = lock ∨ after = some 0) (also : pool other = some theirs)
    (different : other ≠ id) :
    Fenced token after assertion theirs := by
  intro owned
  rcases kept with rfl | rfl
  · exact absurd owned (leased.others_lost found owner also different)
  · exact fenced_of_released leased also owned

theorem fenced_of_acquire {token : κ → Nat} {lock : Option Nat} {clock fresh : Nat} {pool : Pool κ}
    {assertion : κ → Prop} (leased : Leased token lock clock pool) (forward : clock ≤ now)
    (free : lock.getD 0 ≤ now) (later : now < fresh) (also : pool other = some theirs) :
    Fenced token (some fresh) assertion theirs := by
  intro owned
  have same : fresh = token theirs := Option.some.inj owned
  exact absurd same.symm (leased.acquire_fresh forward free later other theirs also)

/-- The turn of a task that runs under the current lease: how the pool stays leased wherever
its segment stops, and that no other task is promised anything. -/
structure Turn (token : κ → Nat) (pool : Pool κ) (id lease clock : Nat) : Prop where
  await : ∀ kont, token kont = lease → Leased token (some lease) clock (pool.put id (some kont))
  stop : ∀ after, after = some lease ∨ after = some 0 → Leased token after clock (pool.put id none)
  others : ∀ after, after = some lease ∨ after = some 0 → ∀ other theirs, other ≠ id →
    pool other = some theirs → ∀ assertion, Fenced token after assertion theirs

namespace Leased

variable {token : κ → Nat} {lock : Option Nat} {clock : Nat} {pool : Pool κ}

theorem turn_of_owner (leased : Leased token lock clock pool) {kont : κ}
    (found : pool id = some kont) (owner : Owns token lock kont) :
    Turn token pool id (token kont) clock where
  await := by
    intro next same
    rw [← owner]
    exact leased.keep found same
  stop := fun _ _ => leased.stop found (.inr owner)
  others := by
    intro after kept other theirs different also assertion
    rw [← owner] at kept
    exact fenced_of_owner leased found owner kept also different

theorem turn_of_acquire (leased : Leased token lock clock pool) {lease : Nat}
    (vacant : pool id = none) (forward : clock ≤ now) (free : lock.getD 0 ≤ now)
    (later : now < lease) : Turn token pool id lease now where
  await := by
    rintro kont rfl
    exact leased.acquire forward free later
  stop := by
    intro after _
    rw [Pool.put_vacant vacant]
    refine ⟨leased.distinct, leased.positive, fun i kont found live => ?_⟩
    have owner := leased.held i kont found (by omega)
    rw [owner] at free
    simp only [Option.getD_some] at free
    omega
  others := by
    intro after kept other theirs different also assertion
    rcases kept with rfl | rfl
    · exact fenced_of_acquire leased forward free later also
    · intro owned
      have positive := leased.positive other theirs also
      have zero : 0 = token theirs := Option.some.inj owned
      omega

end Leased

end JupiterSuite.Base
