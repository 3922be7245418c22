import JupiterSuite.Clients.LeaseGuards

/-! At most one owner is current, and an owner whose lease was acquired again cannot touch the
lease of its successor. -/

namespace JupiterSuite

open Base

variable {sys : LeaseSystem} {lock : CommitmentIndexLock}

section Timer

variable {kind : GuardKind} {st : LeaseState} {guard : TimerLeaseGuard}

theorem leaseSeconds_pos (kind : GuardKind) : 0 < kind.leaseSeconds := by
  cases kind <;> decide

theorem dropGuard_active (active : guard.active = true) :
    st.dropGuard guard = { st with lock := releaseLease guard.leaseExpiresAtTs st.lock } := by
  simp only [LeaseState.dropGuard, TimerLeaseGuard.release, active, releaseLease]
  by_cases owned : st.lock = some guard.leaseExpiresAtTs <;> simp [owned]

theorem dropGuard_inactive (inactive : guard.active = false) : st.dropGuard guard = st := by
  simp [LeaseState.dropGuard, TimerLeaseGuard.release, inactive]

theorem dropGuard_lost (lost : st.lock ≠ some guard.leaseExpiresAtTs) :
    st.dropGuard guard = st := by
  cases active : guard.active with
  | false => exact dropGuard_inactive active
  | true => rw [dropGuard_active active, releaseLease_lost lost]

theorem finish_lost (lost : st.lock ≠ some guard.leaseExpiresAtTs) (nowSecs stamp : Nat) :
    st.finish kind guard nowSecs stamp = st := by
  unfold LeaseState.finish
  split
  · exact dropGuard_lost lost
  · cases active : guard.active with
    | false => simp [TimerLeaseGuard.release, active, dropGuard_inactive]
    | true => simp [TimerLeaseGuard.release, active, lost, dropGuard_inactive]

theorem record_lost (lost : st.lock ≠ some guard.leaseExpiresAtTs) (stamp : Nat) :
    st.recordCoreProgress guard stamp = st := by
  simp [LeaseState.recordCoreProgress, lost]

theorem finish_lock (active : guard.active = true) (nowSecs stamp : Nat) :
    (st.finish kind guard nowSecs stamp).lock = releaseLease guard.leaseExpiresAtTs st.lock := by
  unfold LeaseState.finish
  split
  · rw [dropGuard_active active]
  · by_cases owned : st.lock = some guard.leaseExpiresAtTs
    · simp [TimerLeaseGuard.release, active, owned, dropGuard_inactive]
    · simp [TimerLeaseGuard.release, active, owned, dropGuard_inactive, releaseLease]

/-- The tokens of the guards are distinct and a lease that has not expired is in the lock. -/
structure Guarded (sys : LeaseSystem) : Prop where
  leased : Leased TimerLeaseGuard.leaseExpiresAtTs sys.state.lock sys.clock sys.guards
  active : sys.guards.Holds fun guard => guard.active = true

inductive LeaseStep (kind : GuardKind) (sys : LeaseSystem) : LeaseEvent → LeaseSystem → Prop where
  | tick (nowSecs : Nat) : LeaseStep kind sys (.tick nowSecs) { sys with clock := nowSecs }
  | busy (id nowSecs : Nat) (vacant : sys.guards id = none) :
      LeaseStep kind sys (.acquire id nowSecs) { sys with clock := nowSecs }
  | acquire (id nowSecs token : Nat) (vacant : sys.guards id = none)
      (free : sys.state.lock.getD 0 ≤ nowSecs) (later : nowSecs < token) :
      LeaseStep kind sys (.acquire id nowSecs)
        ⟨{ sys.state with lock := some token }, sys.guards.put id (some ⟨true, token⟩), nowSecs⟩
  | drop (id nowSecs : Nat) (guard : TimerLeaseGuard) (found : sys.guards id = some guard) :
      LeaseStep kind sys (.drop id nowSecs)
        ⟨sys.state.dropGuard guard, sys.guards.put id none, nowSecs⟩
  | finish (id nowSecs stamp : Nat) (guard : TimerLeaseGuard)
      (found : sys.guards id = some guard) :
      LeaseStep kind sys (.finish id nowSecs stamp)
        ⟨sys.state.finish kind guard nowSecs stamp, sys.guards.put id none, nowSecs⟩
  | record (id nowSecs stamp : Nat) (guard : TimerLeaseGuard)
      (found : sys.guards id = some guard) :
      LeaseStep kind sys (.record id nowSecs stamp)
        ⟨sys.state.recordCoreProgress guard stamp, sys.guards, nowSecs⟩

theorem leaseStep_of_step {next : LeaseSystem} {event : LeaseEvent}
    (taken : stepLease kind sys event = some next) :
    sys.clock ≤ event.time ∧ LeaseStep kind sys event next := by
  simp only [stepLease] at taken
  split at taken
  · rename_i admitted
    refine ⟨admitted.1, ?_⟩
    cases event with
    | tick nowSecs =>
        cases taken
        exact .tick nowSecs
    | acquire id nowSecs =>
        dsimp only at taken
        split at taken
        · cases taken
        · rename_i vacant
          have nobody : sys.guards id = none := by simpa using vacant
          split at taken
          · cases taken
            exact .busy id nowSecs nobody
          · rename_i guard acquired
            simp only [TimerLeaseGuard.acquire, Option.map_eq_some_iff] at acquired
            rcases acquired with ⟨token, acquired, rfl⟩
            have spec := acquireLease_some (leaseSeconds_pos kind) admitted.2 acquired
            cases taken
            exact .acquire id nowSecs token nobody spec.1 spec.2
    | drop id nowSecs =>
        rcases Option.map_eq_some_iff.mp taken with ⟨guard, found, rfl⟩
        exact .drop id nowSecs guard found
    | finish id nowSecs stamp =>
        dsimp only at taken
        split at taken
        · rcases Option.map_eq_some_iff.mp taken with ⟨guard, found, rfl⟩
          exact .finish id nowSecs stamp guard found
        · cases taken
    | record id nowSecs stamp =>
        dsimp only at taken
        split at taken
        · rcases Option.map_eq_some_iff.mp taken with ⟨guard, found, rfl⟩
          exact .record id nowSecs stamp guard found
        · cases taken
  · cases taken

theorem record_lock (st : LeaseState) (guard : TimerLeaseGuard) (stamp : Nat) :
    (st.recordCoreProgress guard stamp).lock = st.lock := by
  unfold LeaseState.recordCoreProgress
  split <;> rfl

theorem released_or_owned (token : Nat) (lock : Option Nat) :
    releaseLease token lock = lock ∨ lock = some token := by
  unfold releaseLease
  split
  · rename_i owned
    exact .inr owned
  · exact .inl rfl

theorem releaseLease_cases (token : Nat) (lock : Option Nat) :
    releaseLease token lock = lock ∨ releaseLease token lock = some 0 := by
  unfold releaseLease
  split
  · exact .inr rfl
  · exact .inl rfl

theorem guarded_step {next : LeaseSystem} {event : LeaseEvent} (guarded : Guarded sys)
    (taken : stepLease kind sys event = some next) : Guarded next := by
  rcases leaseStep_of_step taken with ⟨forward, step⟩
  have ticked := guarded.leased.tick forward
  have dropped : ∀ id, (sys.guards.put id none).Holds fun guard => guard.active = true :=
    fun id => guarded.active.put nofun fun _ _ _ _ here => here
  cases step with
  | tick nowSecs => exact ⟨ticked, guarded.active⟩
  | busy id nowSecs vacant => exact ⟨ticked, guarded.active⟩
  | acquire id nowSecs token vacant free later =>
      have expires : nowSecs < TimerLeaseGuard.leaseExpiresAtTs ⟨true, token⟩ := later
      refine ⟨guarded.leased.acquire forward free expires, ?_⟩
      refine Pool.Holds.put guarded.active ?_ fun _ _ _ _ here => here
      intro guard same
      cases same
      rfl
  | drop id nowSecs guard found =>
      refine ⟨ticked.stop found ?_, dropped id⟩
      rw [dropGuard_active (guarded.active id guard found)]
      exact released_or_owned _ _
  | finish id nowSecs stamp guard found =>
      refine ⟨ticked.stop found ?_, dropped id⟩
      rw [finish_lock (guarded.active id guard found)]
      exact released_or_owned _ _
  | record id nowSecs stamp guard found =>
      refine ⟨?_, guarded.active⟩
      rw [record_lock]
      exact ticked

theorem guarded_reachable (reachable : (leaseMachine kind).Reachable sys) : Guarded sys := by
  apply (leaseMachine kind).reachable_invariant Guarded _ _ reachable
  · rintro _ ⟨state, clock, rfl⟩
    exact ⟨Leased.empty _ _, Pool.holds_empty _⟩
  · intro state event next guarded taken
    exact guarded_step guarded taken

/-- One owner at a time; an owner keeps its lease undisturbed until it expires and another one
acquires it, and then it has lost it for good. -/
structure LeaseExclusion (kind : GuardKind) (sys : LeaseSystem) : Prop where
  exclusive : ∀ i j first second nowSecs, sys.guards i = some first →
    sys.guards j = some second → sys.state.isCurrent kind first nowSecs = true →
      sys.state.isCurrent kind second nowSecs = true → i = j
  undisturbed : ∀ id guard event next, sys.guards id = some guard →
    sys.state.lock = some guard.leaseExpiresAtTs → event.actor ≠ some id →
      stepLease kind sys event = some next → next.guards id = some guard ∧
        (next.state = sys.state ∨ guard.leaseExpiresAtTs ≤ event.time ∧
          ∃ other, event = .acquire other event.time)
  reacquired : ∀ id guard other fresh nowSecs next, sys.guards id = some guard →
    stepLease kind sys (.acquire other nowSecs) = some next → next.guards other = some fresh →
      next.state.lock = some fresh.leaseExpiresAtTs ∧
        next.state.lock ≠ some guard.leaseExpiresAtTs
  lost : ∀ id guard event next, sys.guards id = some guard →
    sys.state.lock ≠ some guard.leaseExpiresAtTs → stepLease kind sys event = some next →
      (event.actor = some id → next.state = sys.state) ∧
        next.state.lock ≠ some guard.leaseExpiresAtTs

theorem isCurrent_lock {nowSecs : Nat} (current : st.isCurrent kind guard nowSecs = true) :
    st.lock = some guard.leaseExpiresAtTs := by
  simp only [LeaseState.isCurrent, Bool.and_eq_true, decide_eq_true_eq] at current
  exact current.2

theorem leaseExclusion_of_guarded (guarded : Guarded sys) : LeaseExclusion kind sys := by
  have other_lost : ∀ {id other : Nat} {guard theirs : TimerLeaseGuard},
      sys.guards id = some guard → sys.state.lock = some guard.leaseExpiresAtTs →
        sys.guards other = some theirs → other ≠ id →
          sys.state.lock ≠ some theirs.leaseExpiresAtTs := by
    intro id other guard theirs found owner also different
    exact guarded.leased.others_lost found owner also different
  refine ⟨?_, ?_, ?_, ?_⟩
  · intro i j first second nowSecs left right owner also
    by_contra different
    exact other_lost left (isCurrent_lock owner) right (Ne.symm different) (isCurrent_lock also)
  · intro id guard event next found owner foreign taken
    rcases leaseStep_of_step taken with ⟨forward, step⟩
    cases step with
    | tick nowSecs => exact ⟨found, .inl rfl⟩
    | busy other nowSecs vacant => exact ⟨found, .inl rfl⟩
    | acquire other nowSecs token vacant free later =>
        have different : id ≠ other := fun same => foreign (congrArg some same.symm)
        rw [owner] at free
        exact ⟨(Pool.put_other _ _ different).trans found, .inr ⟨free, other, rfl⟩⟩
    | drop other nowSecs theirs also =>
        have different : other ≠ id := fun same => foreign (congrArg some same)
        refine ⟨(Pool.put_other _ _ different.symm).trans found, .inl ?_⟩
        exact dropGuard_lost (other_lost found owner also different)
    | finish other nowSecs stamp theirs also =>
        have different : other ≠ id := fun same => foreign (congrArg some same)
        refine ⟨(Pool.put_other _ _ different.symm).trans found, .inl ?_⟩
        exact finish_lost (other_lost found owner also different) nowSecs stamp
    | record other nowSecs stamp theirs also =>
        have different : other ≠ id := fun same => foreign (congrArg some same)
        exact ⟨found, .inl (record_lost (other_lost found owner also different) stamp)⟩
  · intro id guard other fresh nowSecs next found taken acquired
    rcases leaseStep_of_step taken with ⟨forward, step⟩
    cases step with
    | busy _ _ vacant =>
        rw [vacant] at acquired
        cases acquired
    | acquire _ _ token vacant free later =>
        simp only [Pool.put_self, Option.some.injEq] at acquired
        subst acquired
        refine ⟨rfl, ?_⟩
        intro same
        have clash := guarded.leased.acquire_fresh forward free later id guard found
        exact clash (Option.some.inj same).symm
  · intro id guard event next found gone taken
    have after : ∀ lock, lock = sys.state.lock ∨ lock = some 0 →
        lock ≠ some guard.leaseExpiresAtTs := by
      rintro lock (rfl | rfl) same
      · exact gone same
      · have positive := guarded.leased.positive id guard found
        have zero := Option.some.inj same
        omega
    rcases leaseStep_of_step taken with ⟨forward, step⟩
    cases step with
    | tick nowSecs => exact ⟨fun _ => rfl, gone⟩
    | busy other nowSecs vacant => exact ⟨fun _ => rfl, gone⟩
    | acquire other nowSecs token vacant free later =>
        refine ⟨?_, ?_⟩
        · intro mine
          cases mine
          rw [found] at vacant
          cases vacant
        · intro same
          have clash := guarded.leased.acquire_fresh forward free later id guard found
          exact clash (Option.some.inj same).symm
    | drop other nowSecs theirs also =>
        refine ⟨?_, after _ ?_⟩
        · intro mine
          cases mine
          rw [found] at also
          cases also
          exact dropGuard_lost gone
        · rw [dropGuard_active (guarded.active other theirs also)]
          exact releaseLease_cases _ _
    | finish other nowSecs stamp theirs also =>
        refine ⟨?_, after _ ?_⟩
        · intro mine
          cases mine
          rw [found] at also
          cases also
          exact finish_lost gone nowSecs stamp
        · rw [finish_lock (guarded.active other theirs also)]
          exact releaseLease_cases _ _
    | record other nowSecs stamp theirs also =>
        refine ⟨?_, after _ (.inl (record_lock _ _ _))⟩
        intro mine
        cases mine
        rw [found] at also
        cases also
        exact record_lost gone stamp

end Timer

section Fenced

/-- Every task was given a generation of its own, and the lock holds the latest. -/
structure Numbered (sys : CommitmentIndexSystem) : Prop where
  same : sys.tasks.Holds fun task => task.guard.generation = task.token.generation
  known : sys.tasks.Holds fun task => task.token.generation ≤ sys.lock.generation
  distinct : ∀ i j first second, sys.tasks i = some first → sys.tasks j = some second →
    first.token.generation = second.token.generation → i = j

/-- The lease that `acquire` takes over was free or preempted. -/
def Admitted (lock : CommitmentIndexLock) (owner : CommitmentIndexLeaseOwner) (nowSecs : Nat) :
    Prop :=
  lock.expiresAtTs.getD 0 ≤ nowSecs ∨
    owner = .scheduled ∧ lock.owner = some .endowmentRefresh

inductive CommitmentIndexStep (sys : CommitmentIndexSystem) :
    CommitmentIndexEvent → CommitmentIndexSystem → Prop where
  | tick (nowSecs : Nat) : CommitmentIndexStep sys (.tick nowSecs) { sys with clock := nowSecs }
  | busy (id : Nat) (owner : CommitmentIndexLeaseOwner) (nowSecs : Nat)
      (vacant : sys.tasks id = none) :
      CommitmentIndexStep sys (.acquire id owner nowSecs) { sys with clock := nowSecs }
  | acquire (id : Nat) (owner : CommitmentIndexLeaseOwner) (nowSecs token : Nat)
      (vacant : sys.tasks id = none) (admitted : Admitted sys.lock owner nowSecs) :
      CommitmentIndexStep sys (.acquire id owner nowSecs)
        ⟨⟨some token, sys.lock.generation + 1, some owner⟩,
          sys.tasks.put id (some ⟨⟨true, token, sys.lock.generation + 1⟩,
            ⟨token, sys.lock.generation + 1⟩⟩), nowSecs⟩
  | refused (id nowSecs : Nat) :
      CommitmentIndexStep sys (.renew id nowSecs) { sys with clock := nowSecs }
  | renew (id nowSecs token : Nat) (task : CommitmentIndexTask)
      (found : sys.tasks id = some task) (current : sys.lock.isCurrent task.token = true) :
      CommitmentIndexStep sys (.renew id nowSecs)
        ⟨{ sys.lock with expiresAtTs := some token },
          sys.tasks.put id (some { task with token := ⟨token, task.token.generation⟩ }), nowSecs⟩
  | drop (id nowSecs : Nat) (task : CommitmentIndexTask) (found : sys.tasks id = some task) :
      CommitmentIndexStep sys (.drop id nowSecs)
        ⟨sys.lock.dropGuard task.guard, sys.tasks.put id none, nowSecs⟩

theorem acquire_spec {next : CommitmentIndexLock} {task : CommitmentIndexTask}
    {owner : CommitmentIndexLeaseOwner} {nowSecs : Nat}
    (acquired : lock.acquire owner nowSecs = some (next, task)) :
    Admitted lock owner nowSecs ∧ ∃ token,
      next = ⟨some token, lock.generation + 1, some owner⟩ ∧
        task = ⟨⟨true, token, lock.generation + 1⟩, ⟨token, lock.generation + 1⟩⟩ := by
  simp only [CommitmentIndexLock.acquire, FencedTimerLeaseGuard.acquire,
    Option.map_eq_some_iff, Prod.mk.injEq] at acquired
  rcases acquired with ⟨guard, granted, rfl, rfl⟩
  split at granted
  · cases granted
  · rename_i open_lock
    rcases Option.map_eq_some_iff.mp granted with ⟨fresh, counted, rfl⟩
    rw [checkedAdd_eq_some] at counted
    rw [counted.2]
    refine ⟨?_, _, rfl, rfl⟩
    simp only [Bool.and_eq_true, Bool.not_eq_true', decide_eq_false_iff_not, decide_eq_true_eq,
      not_and, Nat.not_lt] at open_lock
    by_cases preempts : owner = .scheduled ∧ lock.owner = some .endowmentRefresh
    · exact .inr preempts
    · left
      apply open_lock
      intro scheduled poked
      exact preempts ⟨scheduled, poked⟩

theorem commitmentIndexStep_of_step {sys next : CommitmentIndexSystem}
    {event : CommitmentIndexEvent} (taken : stepCommitmentIndex sys event = some next) :
    CommitmentIndexStep sys event next := by
  simp only [stepCommitmentIndex] at taken
  split at taken
  · cases event with
    | tick nowSecs =>
        cases taken
        exact .tick nowSecs
    | acquire id owner nowSecs =>
        dsimp only at taken
        split at taken
        · cases taken
        · rename_i vacant
          have nobody : sys.tasks id = none := by simpa using vacant
          split at taken
          · cases taken
            exact .busy id owner nowSecs nobody
          · rename_i lock task acquired
            rcases acquire_spec acquired with ⟨admitted, token, rfl, rfl⟩
            cases taken
            exact .acquire id owner nowSecs token nobody admitted
    | renew id nowSecs =>
        rcases Option.map_eq_some_iff.mp taken with ⟨task, found, result⟩
        simp only [CommitmentIndexLock.renew] at result
        split at result
        · subst result
          exact .refused id nowSecs
        · rename_i renewed
          split at renewed
          · rename_i current
            cases renewed
            subst result
            exact .renew id nowSecs _ task found current
          · cases renewed
    | drop id nowSecs =>
        rcases Option.map_eq_some_iff.mp taken with ⟨task, found, rfl⟩
        exact .drop id nowSecs task found
  · cases taken

theorem numbered_step {sys next : CommitmentIndexSystem} {event : CommitmentIndexEvent}
    (numbered : Numbered sys) (taken : stepCommitmentIndex sys event = some next) :
    Numbered next := by
  cases commitmentIndexStep_of_step taken with
  | tick nowSecs => exact ⟨numbered.same, numbered.known, numbered.distinct⟩
  | busy id owner nowSecs vacant => exact ⟨numbered.same, numbered.known, numbered.distinct⟩
  | refused id nowSecs => exact ⟨numbered.same, numbered.known, numbered.distinct⟩
  | acquire id owner nowSecs token vacant admitted =>
      refine ⟨?_, ?_, ?_⟩
      · refine Pool.Holds.put numbered.same ?_ fun _ _ _ _ here => here
        intro task fresh
        cases fresh
        rfl
      · refine Pool.Holds.put numbered.known ?_ fun _ _ _ _ older => Nat.le_succ_of_le older
        intro task fresh
        cases fresh
        exact Nat.le_refl _
      · intro i j first second left right generations
        rcases Pool.put_eq_some left with ⟨rfl, mine⟩ | ⟨_, old⟩
        · cases mine
          rcases Pool.put_eq_some right with ⟨rfl, _⟩ | ⟨_, theirs⟩
          · rfl
          · have older := numbered.known j second theirs
            dsimp only at generations
            omega
        · rcases Pool.put_eq_some right with ⟨rfl, mine⟩ | ⟨_, theirs⟩
          · cases mine
            have older := numbered.known i first old
            dsimp only at generations
            omega
          · exact numbered.distinct i j first second old theirs generations
  | renew id nowSecs token task found current =>
      refine ⟨?_, ?_, ?_⟩
      · refine Pool.Holds.put numbered.same ?_ fun _ _ _ _ here => here
        intro renewed fresh
        cases fresh
        exact numbered.same id task found
      · refine Pool.Holds.put numbered.known ?_ fun _ _ _ _ here => here
        intro renewed fresh
        cases fresh
        exact numbered.known id task found
      · have was : ∀ i renewed, sys.tasks.put id
            (some { task with token := ⟨token, task.token.generation⟩ }) i = some renewed →
            ∃ old, sys.tasks i = some old ∧ old.token.generation = renewed.token.generation := by
          intro i renewed located
          rcases Pool.put_eq_some located with ⟨rfl, mine⟩ | ⟨_, old⟩
          · cases mine
            exact ⟨task, found, rfl⟩
          · exact ⟨renewed, old, rfl⟩
        intro i j first second left right generations
        rcases was i first left with ⟨before, located, here⟩
        rcases was j second right with ⟨other, also, there⟩
        exact numbered.distinct i j before other located also (by omega)
  | drop id nowSecs task found =>
      refine ⟨?_, ?_, ?_⟩
      · exact Pool.Holds.put numbered.same (fun _ gone => by cases gone) fun _ _ _ _ here => here
      · refine Pool.Holds.put numbered.known (fun _ gone => by cases gone) ?_
        intro other theirs _ _ older
        rw [CommitmentIndexLock.dropGuard_generation]
        exact older
      · intro i j first second left right generations
        rcases Pool.put_eq_some left with ⟨_, gone⟩ | ⟨_, old⟩
        · cases gone
        · rcases Pool.put_eq_some right with ⟨_, gone⟩ | ⟨_, theirs⟩
          · cases gone
          · exact numbered.distinct i j first second old theirs generations

theorem numbered_reachable {sys : CommitmentIndexSystem}
    (reachable : commitmentIndexMachine.Reachable sys) : Numbered sys := by
  apply commitmentIndexMachine.reachable_invariant Numbered _ _ reachable
  · rintro _ ⟨lock, clock, rfl⟩
    refine ⟨Pool.holds_empty _, Pool.holds_empty _, ?_⟩
    intro i j first second impossible
    cases impossible
  · intro state event next numbered taken
    exact numbered_step numbered taken

/-- The same for the fenced lease, whose owner is known by its generation. -/
structure FencedExclusion (sys : CommitmentIndexSystem) : Prop where
  exclusive : ∀ i j first second, sys.tasks i = some first → sys.tasks j = some second →
    sys.lock.isCurrent first.token = true → sys.lock.isCurrent second.token = true → i = j
  undisturbed : ∀ id task event next, sys.tasks id = some task →
    sys.lock.generation = task.token.generation → event.actor ≠ some id →
      stepCommitmentIndex sys event = some next → next.tasks id = some task ∧
        (next.lock = sys.lock ∨ ∃ other owner, event = .acquire other owner event.time ∧
          Admitted sys.lock owner event.time)
  reacquired : ∀ id task other owner fresh nowSecs next, sys.tasks id = some task →
    stepCommitmentIndex sys (.acquire other owner nowSecs) = some next →
      next.tasks other = some fresh → next.lock.isCurrent fresh.token = true ∧
        next.lock.generation ≠ task.token.generation
  lost : ∀ id task event next, sys.tasks id = some task →
    sys.lock.generation ≠ task.token.generation → stepCommitmentIndex sys event = some next →
      (event.actor = some id → next.lock = sys.lock) ∧
        next.lock.generation ≠ task.token.generation

theorem isCurrent_generation {token : CommitmentIndexLeaseToken}
    (current : lock.isCurrent token = true) : lock.generation = token.generation := by
  simp only [CommitmentIndexLock.isCurrent, decide_eq_true_eq] at current
  exact current.2

theorem dropGuard_superseded {guard : FencedTimerLeaseGuard}
    (superseded : lock.generation ≠ guard.generation) : lock.dropGuard guard = lock := by
  simp [CommitmentIndexLock.dropGuard, superseded]

theorem fencedExclusion_of_numbered {sys : CommitmentIndexSystem} (numbered : Numbered sys) :
    FencedExclusion sys := by
  have foreign_generation : ∀ {id other : Nat} {task theirs : CommitmentIndexTask},
      sys.tasks id = some task → sys.lock.generation = task.token.generation →
        sys.tasks other = some theirs → other ≠ id →
          sys.lock.generation ≠ theirs.token.generation := by
    intro id other task theirs found owner also different both
    exact different (numbered.distinct other id theirs task also found (by omega))
  refine ⟨?_, ?_, ?_, ?_⟩
  · intro i j first second left right owner also
    by_contra different
    exact foreign_generation left (isCurrent_generation owner) right (Ne.symm different)
      (isCurrent_generation also)
  · intro id task event next found owner foreign taken
    cases commitmentIndexStep_of_step taken with
    | tick nowSecs => exact ⟨found, .inl rfl⟩
    | busy other kind nowSecs vacant => exact ⟨found, .inl rfl⟩
    | refused other nowSecs => exact ⟨found, .inl rfl⟩
    | acquire other kind nowSecs token vacant admitted =>
        have different : id ≠ other := fun same => foreign (congrArg some same.symm)
        exact ⟨(Pool.put_other _ _ different).trans found, .inr ⟨other, kind, rfl, admitted⟩⟩
    | renew other nowSecs token theirs also current =>
        have different : other ≠ id := fun same => foreign (congrArg some same)
        have clash := foreign_generation found owner also different
        exact absurd (isCurrent_generation current) clash
    | drop other nowSecs theirs also =>
        have different : other ≠ id := fun same => foreign (congrArg some same)
        refine ⟨(Pool.put_other _ _ different.symm).trans found, .inl ?_⟩
        apply dropGuard_superseded
        rw [numbered.same other theirs also]
        exact foreign_generation found owner also different
  · intro id task other owner fresh nowSecs next found taken acquired
    cases commitmentIndexStep_of_step taken with
    | busy _ _ _ vacant =>
        rw [vacant] at acquired
        cases acquired
    | acquire _ _ _ token vacant admitted =>
        simp only [Pool.put_self, Option.some.injEq] at acquired
        subst acquired
        have older := numbered.known id task found
        refine ⟨by simp [CommitmentIndexLock.isCurrent], ?_⟩
        show sys.lock.generation + 1 ≠ _
        omega
  · intro id task event next found superseded taken
    cases commitmentIndexStep_of_step taken with
    | tick nowSecs => exact ⟨fun _ => rfl, superseded⟩
    | busy other kind nowSecs vacant => exact ⟨fun _ => rfl, superseded⟩
    | refused other nowSecs => exact ⟨fun _ => rfl, superseded⟩
    | acquire other kind nowSecs token vacant admitted =>
        have older := numbered.known id task found
        refine ⟨?_, ?_⟩
        · intro mine
          cases mine
          rw [found] at vacant
          cases vacant
        · show sys.lock.generation + 1 ≠ _
          omega
    | renew other nowSecs token theirs also current =>
        refine ⟨?_, superseded⟩
        intro mine
        cases mine
        rw [found] at also
        cases also
        exact absurd (isCurrent_generation current) superseded
    | drop other nowSecs theirs also =>
        refine ⟨?_, ?_⟩
        · intro mine
          cases mine
          rw [found] at also
          cases also
          apply dropGuard_superseded
          rw [numbered.same id task found]
          exact superseded
        · rw [CommitmentIndexLock.dropGuard_generation]
          exact superseded

end Fenced

theorem lease_mutual_exclusion :
    (∀ kind sys, (leaseMachine kind).Reachable sys → LeaseExclusion kind sys) ∧
      ∀ sys, commitmentIndexMachine.Reachable sys → FencedExclusion sys :=
  ⟨fun _ _ reachable => leaseExclusion_of_guarded (guarded_reachable reachable),
    fun _ reachable => fencedExclusion_of_numbered (numbered_reachable reachable)⟩

/-- The relay's first owner loses its lease after half an hour, and drops its guard only when a
second one holds the lease. -/
def overtakenRun : List LeaseEvent :=
  [.acquire 0 100, .acquire 1 1000, .acquire 1 1900, .drop 0 2000]

/-- The commitment index is taken over from an endowment refresh that then tries to renew. -/
def preemptedRun : List CommitmentIndexEvent :=
  [.acquire 0 .endowmentRefresh 100, .acquire 1 .scheduled 110, .renew 0 120, .renew 1 130]

theorem lease_mutual_exclusion_overtaken :
    (∃ sys : LeaseSystem, sys.state.lock = some 3700 ∧ LeaseExclusion .relayMain sys) ∧
      ∃ sys : CommitmentIndexSystem, sys.lock.expiresAtTs = some 205 ∧ FencedExclusion sys := by
  have overtaken : (leaseMachine .relayMain).run ⟨⟨some 0, 0⟩, Pool.empty, 0⟩ overtakenRun =
      some (((leaseMachine .relayMain).run ⟨⟨some 0, 0⟩, Pool.empty, 0⟩ overtakenRun).getD
        ⟨⟨some 0, 0⟩, Pool.empty, 0⟩) := by
    rfl
  have preempted : commitmentIndexMachine.run ⟨⟨none, 0, none⟩, Pool.empty, 0⟩ preemptedRun =
      some ((commitmentIndexMachine.run ⟨⟨none, 0, none⟩, Pool.empty, 0⟩ preemptedRun).getD
        ⟨⟨none, 0, none⟩, Pool.empty, 0⟩) := by
    rfl
  exact ⟨⟨_, rfl, lease_mutual_exclusion.1 .relayMain _ ⟨_, _, ⟨_, _, rfl⟩, overtaken⟩⟩,
    ⟨_, rfl, lease_mutual_exclusion.2 _ ⟨_, _, ⟨_, _, rfl⟩, preempted⟩⟩⟩

end JupiterSuite
