import JupiterSuite.Historian.RelayAdmission
import JupiterSuite.Base.Machine

/-! The bounds of the factory admission, for guards that are acquired, used and dropped in any
order, or lost, under a clock that may step back. -/

namespace JupiterSuite.Historian

open Base

structure Grant where
  ticket : Ticket
  lane : Lane
  time : Nat
  deriving DecidableEq, Repr

/-- No code reads the grants, the calls that were started, nor the time of the last access. -/
structure AdmissionSystem where
  limiter : Limiter
  grants : List Grant
  calls : List Ticket
  clock : Nat
  deriving Repr

/-- Only tickets that were handed out are used; a lost guard is never dropped. -/
inductive AdmissionEvent where
  | acquire (key : RelaySetupKey) (lane : Lane) (now : Nat)
  | call (ticket : Ticket) (now : Nat)
  | check (ticket : Ticket) (now : Nat)
  | drop (ticket : Ticket)

def AdmissionSystem.granted (sys : AdmissionSystem) (ticket : Ticket) : Bool :=
  sys.grants.any fun grant => decide (grant.ticket = ticket)

def stepAdmission (sys : AdmissionSystem) : AdmissionEvent → Option AdmissionSystem
  | .acquire key lane now =>
      match sys.limiter.acquire now key lane with
      | .refused limiter => some { sys with limiter := limiter, clock := now }
      | .granted limiter ticket => some { sys with
          limiter := limiter
          grants := sys.grants ++ [⟨ticket, lane, now⟩]
          clock := now }
      -- The message is rolled back.
      | .trapped => some { sys with clock := now }
  | .call ticket now =>
      if sys.granted ticket then
        match sys.limiter.charge now ticket with
        | none => some { sys with clock := now }
        | some limiter => some { sys with
            limiter := limiter
            calls := sys.calls ++ [ticket]
            clock := now }
      else none
  | .check ticket now => if sys.granted ticket then some { sys with clock := now } else none
  | .drop ticket =>
      if sys.granted ticket then
        some { sys with limiter := sys.limiter.dropTicket ticket }
      else none

def admissionMachine : Machine AdmissionSystem AdmissionEvent where
  init := fun sys => ∃ now, sys = ⟨.new, [], [], now⟩
  step := stepAdmission

def Advances (sys : AdmissionSystem) : AdmissionEvent → Prop
  | .acquire _ _ now | .call _ now | .check _ now => sys.clock ≤ now
  | .drop _ => True

def Grant.expires (grant : Grant) : Nat := satAdd u64Max grant.time leaseSeconds

def Grant.isIn (lane : Lane) (number : Nat) (grant : Grant) : Bool :=
  decide (grant.lane = lane) && decide (grant.time / windowSeconds = number)

section Acquiring

variable {limiter next : Limiter} {ticket other : Ticket} {now : Nat} {key : RelaySetupKey}
  {lane : Lane} {window entered : Window}

/-- The window of the present time is the last one or a later one, not used yet. -/
def Entered (window : Window) (now : Nat) (entered : Window) : Prop :=
  entered.number = now / windowSeconds ∧
    (entered = window ∨ window.number < entered.number ∧ entered.used = 0)

def Limiter.liveSlots (limiter : Limiter) (now : Nat) : List AdmissionSlot :=
  limiter.slots.filter fun slot => decide (now < slot.expires)

theorem enterWindow_entered (found : Limiter.enterWindow window now = some entered) :
    Entered window now entered := by
  simp only [Limiter.enterWindow] at found
  split at found
  · cases found
  · rename_i current
    split at found
    · rename_i later
      cases found
      exact ⟨rfl, .inr ⟨later, rfl⟩⟩
    · rename_i same
      cases found
      exact ⟨by omega, .inl rfl⟩

theorem window_setWindow (limiter : Limiter) (lane other : Lane) (window : Window) :
    (limiter.setWindow lane window).window other =
      if other = lane then window else limiter.window other := by
  cases lane <;> cases other <;> rfl

/-- What a refusal changes: expired slots are purged, and the window may be entered. -/
structure Refused (limiter next : Limiter) (now : Nat) : Prop where
  slots : next.slots = limiter.liveSlots now
  issued : next.nextToken = limiter.nextToken
  windows : ∀ lane, next.window lane = limiter.window lane ∨
    Entered (limiter.window lane) now (next.window lane)

structure Acquired (limiter next : Limiter) (now : Nat) (ticket : Ticket) (lane : Lane) :
    Prop where
  slots : next.slots = limiter.liveSlots now ++
    [⟨ticket.key, ticket.token, lane, satAdd u64Max now leaseSeconds, 0⟩]
  token : ticket.token = limiter.nextToken + 1
  issued : next.nextToken = ticket.token
  vacant : ∀ slot ∈ limiter.liveSlots now, slot.key ≠ ticket.key
  room : ((limiter.liveSlots now).countP fun slot => decide (slot.lane = lane)) < lane.cap
  window : ∃ entered, Entered (limiter.window lane) now entered ∧
    entered.used < attemptsPerWindow ∧ next.window lane = ⟨entered.number, entered.used + 1⟩
  windows : ∀ other, other ≠ lane → next.window other = limiter.window other

theorem acquire_refused_slots (refused : limiter.acquire now key lane = .refused next) :
    Refused limiter next now := by
  simp only [Limiter.acquire] at refused
  split at refused
  · cases refused
    exact ⟨rfl, rfl, fun other => .inl (by cases other <;> rfl)⟩
  · split at refused
    · cases refused
      exact ⟨rfl, rfl, fun other => .inl (by cases other <;> rfl)⟩
    · rename_i entered found
      split at refused
      · cases refused
        refine ⟨(setWindow_slots _).1, (setWindow_slots _).2, ?_⟩
        intro other
        rw [window_setWindow]
        split
        · rename_i same
          subst same
          have current : Limiter.enterWindow (limiter.window other) now = some entered := by
            cases other <;> exact found
          exact .inr (enterWindow_entered current)
        · exact .inl (by cases other <;> rfl)
      · split at refused <;> cases refused

theorem acquire_granted_slots (granted : limiter.acquire now key lane = .granted next ticket) :
    Acquired limiter next now ticket lane ∧ ticket.key = key := by
  simp only [Limiter.acquire] at granted
  split at granted
  · cases granted
  · rename_i free
    simp only [Bool.or_eq_true, not_or, Bool.not_eq_true, List.any_eq_false,
      decide_eq_true_eq, Nat.not_le] at free
    rcases free with ⟨vacant, room⟩
    split at granted
    · cases granted
    · rename_i entered found
      have current : Limiter.enterWindow (limiter.window lane) now = some entered := by
        cases lane <;> exact found
      split at granted
      · cases granted
      · rename_i spare
        split at granted
        · cases granted
        · rename_i token added
          cases granted
          have counted := (checkedAdd_eq_some.mp added).2
          rw [(setWindow_slots _).2] at counted
          refine ⟨⟨?_, counted, rfl, vacant, room, ⟨entered, enterWindow_entered current,
            Nat.lt_of_not_le spare, ?_⟩, ?_⟩, rfl⟩
          · dsimp only
            rw [(setWindow_slots _).1]
            rfl
          · cases lane <;> rfl
          · intro other different
            cases lane <;> cases other <;> first | rfl | exact absurd rfl different

end Acquiring

section Windows

variable {grants : List Grant} {grant : Grant} {lane : Lane} {window entered : Window} {now : Nat}

/-- The acquisitions of a lane in its windows. -/
structure WindowSound (grants : List Grant) (lane : Lane) (window : Window) : Prop where
  used : grants.countP (Grant.isIn lane window.number) ≤ window.used
  bounded : window.used ≤ attemptsPerWindow
  future : ∀ number, window.number < number → grants.countP (Grant.isIn lane number) = 0
  past : ∀ number, grants.countP (Grant.isIn lane number) ≤ attemptsPerWindow

theorem WindowSound.enter (sound : WindowSound grants lane window)
    (entering : Entered window now entered) : WindowSound grants lane entered := by
  rcases entering.2 with same | ⟨later, fresh⟩
  · rw [same]
    exact sound
  · refine ⟨?_, ?_, ?_, sound.past⟩
    · rw [sound.future entered.number later]
      exact Nat.zero_le _
    · rw [fresh]
      exact Nat.zero_le _
    · exact fun number beyond => sound.future number (Nat.lt_trans later beyond)

theorem countP_snoc (number : Nat) : (grants ++ [grant]).countP (Grant.isIn lane number) =
    grants.countP (Grant.isIn lane number) + if grant.isIn lane number then 1 else 0 := by
  rw [List.countP_append, List.countP_singleton]

theorem WindowSound.spend (sound : WindowSound grants grant.lane entered)
    (here : entered.number = grant.time / windowSeconds)
    (spare : entered.used < attemptsPerWindow) :
    WindowSound (grants ++ [grant]) grant.lane ⟨entered.number, entered.used + 1⟩ where
  used := by
    have used := sound.used
    rw [countP_snoc]
    dsimp only
    split <;> omega
  bounded := spare
  future := by
    intro number beyond
    dsimp only at beyond
    have outside : grant.isIn grant.lane number = false := by
      simp only [Grant.isIn, decide_true, Bool.true_and, decide_eq_false_iff_not]
      omega
    rw [countP_snoc, sound.future number beyond, outside]
    rfl
  past := by
    intro number
    rw [countP_snoc]
    by_cases same : number = entered.number
    · subst same
      have used := sound.used
      split <;> omega
    · have outside : grant.isIn grant.lane number = false := by
        simp only [Grant.isIn, decide_true, Bool.true_and, decide_eq_false_iff_not]
        omega
      rw [outside]
      simpa using sound.past number

theorem WindowSound.other (sound : WindowSound grants lane window) (different : lane ≠ grant.lane) :
    WindowSound (grants ++ [grant]) lane window := by
  have same : ∀ number, (grants ++ [grant]).countP (Grant.isIn lane number) =
      grants.countP (Grant.isIn lane number) := by
    intro number
    have outside : grant.isIn lane number = false := by
      simp only [Grant.isIn, Bool.and_eq_false_imp, decide_eq_true_eq]
      exact fun clash => absurd clash.symm different
    rw [countP_snoc, outside]
    rfl
  constructor
  · rw [same]
    exact sound.used
  · exact sound.bounded
  · intro number beyond
    rw [same]
    exact sound.future number beyond
  · intro number
    rw [same]
    exact sound.past number

end Windows

structure SlotRecorded (grants : List Grant) (calls : List Ticket) (slot : AdmissionSlot) :
    Prop where
  grant : ∃ grant ∈ grants, grant.ticket = slot.ticket ∧ slot.expires = grant.expires
  newest : ∀ grant ∈ grants, grant.ticket.key = slot.key → grant.ticket.token ≤ slot.token
  calls : slot.calls = calls.count slot.ticket

structure AdmissionInvariant (sys : AdmissionSystem) : Prop where
  distinct : (sys.limiter.slots.map AdmissionSlot.key).Nodup
  capped : ∀ lane, (sys.limiter.slots.countP fun slot => decide (slot.lane = lane)) ≤ lane.cap
  recorded : ∀ slot ∈ sys.limiter.slots, SlotRecorded sys.grants sys.calls slot
  tokens : sys.grants.Pairwise fun earlier later => earlier.ticket.token < later.ticket.token
  issued : ∀ grant ∈ sys.grants, grant.ticket.token ≤ sys.limiter.nextToken
  windows : ∀ lane, WindowSound sys.grants lane (sys.limiter.window lane)
  budgets : ∀ ticket, sys.calls.count ticket ≤ callsPerAttempt
  started : ∀ ticket ∈ sys.calls, ticket.token ≤ sys.limiter.nextToken

section Steps

variable {sys next : AdmissionSystem} {limiter : Limiter} {ticket : Ticket} {now : Nat}
  {key : RelaySetupKey} {lane : Lane} {event : AdmissionEvent}

theorem AdmissionInvariant.purge (invariant : AdmissionInvariant sys)
    (fewer : limiter.slots.Sublist sys.limiter.slots)
    (issued : limiter.nextToken = sys.limiter.nextToken)
    (windows : ∀ lane, WindowSound sys.grants lane (limiter.window lane)) (clock : Nat) :
    AdmissionInvariant { sys with limiter := limiter, clock := clock } where
  distinct := invariant.distinct.sublist (fewer.map _)
  capped := fun lane => Nat.le_trans fewer.countP_le (invariant.capped lane)
  recorded := fun slot member => invariant.recorded slot (fewer.subset member)
  tokens := invariant.tokens
  issued := by
    dsimp only
    rw [issued]
    exact invariant.issued
  windows := windows
  budgets := invariant.budgets
  started := by
    dsimp only
    rw [issued]
    exact invariant.started

theorem AdmissionInvariant.acquire (invariant : AdmissionInvariant sys)
    (acquired : Acquired sys.limiter limiter now ticket lane) :
    AdmissionInvariant { sys with
      limiter := limiter, grants := sys.grants ++ [⟨ticket, lane, now⟩], clock := now } := by
  have fewer : (sys.limiter.liveSlots now).Sublist sys.limiter.slots := List.filter_sublist
  have fresh : ∀ grant ∈ sys.grants, grant.ticket.token < ticket.token := by
    intro grant member
    rw [acquired.token]
    exact Nat.lt_succ_of_le (invariant.issued grant member)
  constructor
  · dsimp only
    rw [acquired.slots, List.map_append]
    apply List.nodup_append.mpr
    refine ⟨invariant.distinct.sublist (fewer.map _), List.nodup_singleton _, ?_⟩
    rintro first member second last rfl
    rcases List.mem_map.mp member with ⟨slot, live, same⟩
    have clash : slot.key = ticket.key := same.trans (List.mem_singleton.mp last)
    exact acquired.vacant slot live clash
  · intro other
    dsimp only
    rw [acquired.slots, List.countP_append, List.countP_singleton]
    by_cases same : other = lane
    · subst same
      have room := acquired.room
      rw [if_pos (decide_eq_true rfl)]
      omega
    · rw [if_neg (by simpa using Ne.symm same)]
      exact Nat.le_trans fewer.countP_le (invariant.capped other)
  · intro slot member
    dsimp only at member
    rw [acquired.slots, List.mem_append] at member
    rcases member with old | new
    · have recorded := invariant.recorded slot (fewer.subset old)
      rcases recorded.grant with ⟨grant, present, known⟩
      refine ⟨⟨grant, List.mem_append_left _ present, known⟩, ?_, recorded.calls⟩
      intro other inside same
      rcases List.mem_append.mp inside with before | last
      · exact recorded.newest other before same
      · rw [List.mem_singleton.mp last] at same
        exact absurd same.symm (acquired.vacant slot old)
    · rw [List.mem_singleton.mp new]
      refine ⟨⟨_, List.mem_append_right _ (List.mem_singleton_self _), rfl, rfl⟩, ?_, ?_⟩
      · intro other inside _
        rcases List.mem_append.mp inside with before | last
        · exact Nat.le_of_lt (fresh other before)
        · rw [List.mem_singleton.mp last]
      · apply Eq.symm
        apply List.count_eq_zero.mpr
        intro called
        have bound := invariant.started _ called
        have token := acquired.token
        simp only [AdmissionSlot.ticket] at bound
        omega
  · apply List.pairwise_append.mpr
    refine ⟨invariant.tokens, List.pairwise_singleton _ _, ?_⟩
    intro grant member last inside
    rw [List.mem_singleton.mp inside]
    exact fresh grant member
  · intro grant inside
    dsimp only
    rw [acquired.issued]
    rcases List.mem_append.mp inside with before | last
    · exact Nat.le_of_lt (fresh grant before)
    · rw [List.mem_singleton.mp last]
  · intro other
    dsimp only
    rcases acquired.window with ⟨entered, entering, spare, window⟩
    by_cases same : other = lane
    · subst same
      rw [window]
      have inWindow : WindowSound sys.grants (Grant.mk ticket other now).lane entered :=
        (invariant.windows other).enter entering
      exact inWindow.spend entering.1 spare
    · rw [acquired.windows other same]
      exact (invariant.windows other).other same
  · exact invariant.budgets
  · intro called member
    dsimp only
    rw [acquired.issued, acquired.token]
    exact Nat.le_succ_of_le (invariant.started called member)

theorem count_called (calls : List Ticket) (ticket other : Ticket) :
    (calls ++ [ticket]).count other = calls.count other + if other = ticket then 1 else 0 := by
  rw [List.count_append, List.count_singleton]
  by_cases same : other = ticket
  · subst same
    simp
  · simp [same, Ne.symm same]

theorem mem_chargeIn {slots : List AdmissionSlot} {slot : AdmissionSlot}
    (distinct : (slots.map AdmissionSlot.key).Nodup)
    (member : slot ∈ Limiter.chargeIn ticket slots) :
    ∃ old ∈ slots, slot = { old with
      calls := old.calls + if old.ticket = ticket then 1 else 0 } := by
  induction slots with
  | nil => cases member
  | cons head rest ih =>
      rw [List.map_cons, List.nodup_cons] at distinct
      simp only [Limiter.chargeIn] at member
      split at member
      · rename_i mine
        rcases List.mem_cons.mp member with rfl | inside
        · exact ⟨head, List.mem_cons_self, by rw [if_pos (isOf_iff.mp mine)]⟩
        · refine ⟨slot, List.mem_cons_of_mem _ inside, ?_⟩
          have other : slot.ticket ≠ ticket := by
            intro same
            apply distinct.1
            have clash : slot.key = head.key :=
              congrArg Ticket.key (same.trans (isOf_iff.mp mine).symm)
            rw [← clash]
            exact List.mem_map_of_mem inside
          rw [if_neg other]
          rfl
      · rename_i theirs
        rcases List.mem_cons.mp member with rfl | inside
        · refine ⟨slot, List.mem_cons_self, ?_⟩
          rw [if_neg (fun same => theirs (isOf_iff.mpr same))]
          rfl
        · rcases ih distinct.2 inside with ⟨old, present, same⟩
          exact ⟨old, List.mem_cons_of_mem _ present, same⟩

theorem map_chargeIn {α : Type} (f : AdmissionSlot → α) (slots : List AdmissionSlot)
    (blind : ∀ slot : AdmissionSlot, f { slot with calls := slot.calls + 1 } = f slot) :
    (Limiter.chargeIn ticket slots).map f = slots.map f := by
  induction slots with
  | nil => rfl
  | cons slot rest ih =>
      simp only [Limiter.chargeIn]
      split
      · rw [List.map_cons, List.map_cons, blind]
      · rw [List.map_cons, List.map_cons, ih]

theorem charge_eq_some (charged : sys.limiter.charge now ticket = some limiter) :
    (∃ slot ∈ sys.limiter.slots, slot.ticket = ticket ∧ slot.calls < callsPerAttempt) ∧
      limiter = { sys.limiter with
        slots := Limiter.chargeIn ticket sys.limiter.slots } := by
  rcases Option.bind_eq_some_iff.mp charged with ⟨slot, found, taken⟩
  split at taken
  · cases taken
  · rename_i spare
    cases taken
    rcases Option.filter_eq_some_iff.mp found with ⟨first, _⟩
    exact ⟨⟨slot, List.mem_of_find?_eq_some first, isOf_iff.mp (List.find?_some first),
      Nat.lt_of_not_le spare⟩, rfl⟩

theorem AdmissionInvariant.call (invariant : AdmissionInvariant sys)
    (charged : sys.limiter.charge now ticket = some limiter) :
    AdmissionInvariant { sys with
      limiter := limiter, calls := sys.calls ++ [ticket], clock := now } := by
  rcases charge_eq_some charged with ⟨⟨slot, present, mine, spare⟩, rfl⟩
  have recorded := invariant.recorded slot present
  constructor
  · dsimp only
    rw [map_chargeIn AdmissionSlot.key _ (fun _ => rfl)]
    exact invariant.distinct
  · intro lane
    have lanes : ∀ slots : List AdmissionSlot,
        (slots.countP fun slot => decide (slot.lane = lane)) =
          ((slots.map AdmissionSlot.lane).countP fun other => decide (other = lane)) := by
      intro slots
      rw [List.countP_map]
      rfl
    dsimp only
    rw [lanes, map_chargeIn AdmissionSlot.lane _ (fun _ => rfl), ← lanes]
    exact invariant.capped lane
  · intro other member
    rcases mem_chargeIn invariant.distinct member with ⟨old, inside, rfl⟩
    have known := invariant.recorded old inside
    refine ⟨known.grant, known.newest, ?_⟩
    have count := known.calls
    dsimp only [AdmissionSlot.ticket] at count ⊢
    rw [count_called, count]
    rfl
  · exact invariant.tokens
  · exact invariant.issued
  · exact invariant.windows
  · intro other
    dsimp only
    rw [count_called]
    by_cases same : other = ticket
    · subst same
      have count := recorded.calls
      rw [mine] at count
      rw [if_pos rfl]
      omega
    · rw [if_neg same]
      exact invariant.budgets other
  · intro other member
    rcases List.mem_append.mp member with before | last
    · exact invariant.started other before
    · rw [List.mem_singleton.mp last, ← mine]
      rcases recorded.grant with ⟨grant, inside, same, _⟩
      rw [← same]
      exact invariant.issued grant inside

theorem stepAdmission_keeps (invariant : AdmissionInvariant sys)
    (taken : stepAdmission sys event = some next) : AdmissionInvariant next := by
  have rested : ∀ clock, AdmissionInvariant { sys with clock := clock } := fun clock =>
    invariant.purge (List.Sublist.refl _) rfl invariant.windows clock
  cases event with
  | acquire key lane now =>
      simp only [stepAdmission] at taken
      split at taken
      · rename_i limiter refused
        cases taken
        have purged := acquire_refused_slots refused
        apply invariant.purge _ purged.issued
        · intro other
          rcases purged.windows other with same | entering
          · rw [same]
            exact invariant.windows other
          · exact (invariant.windows other).enter entering
        · rw [purged.slots]
          exact List.filter_sublist
      · rename_i limiter ticket granted
        cases taken
        exact invariant.acquire (acquire_granted_slots granted).1
      · cases taken
        exact rested now
  | call ticket now =>
      simp only [stepAdmission] at taken
      split at taken
      · split at taken
        · cases taken
          exact rested now
        · rename_i limiter charged
          cases taken
          exact invariant.call charged
      · cases taken
  | check ticket now =>
      simp only [stepAdmission] at taken
      split at taken
      · cases taken
        exact rested now
      · cases taken
  | drop ticket =>
      simp only [stepAdmission] at taken
      split at taken
      · cases taken
        have fewer : (sys.limiter.dropTicket ticket).slots.Sublist sys.limiter.slots :=
          List.filter_sublist
        exact invariant.purge fewer rfl invariant.windows sys.clock
      · cases taken

theorem reachable_admission (reachable : admissionMachine.Reachable sys) :
    AdmissionInvariant sys := by
  refine admissionMachine.reachable_invariant AdmissionInvariant ?_
    (fun _ _ _ invariant taken => stepAdmission_keeps invariant taken) reachable
  rintro _ ⟨now, rfl⟩
  constructor
  · exact List.nodup_nil
  · exact fun _ => Nat.zero_le _
  · intro slot impossible
    cases impossible
  · exact List.Pairwise.nil
  · intro grant impossible
    cases impossible
  · exact fun _ => ⟨Nat.zero_le _, by cases ‹Lane› <;> exact Nat.zero_le _, fun _ _ => rfl,
      fun _ => Nat.zero_le _⟩
  · exact fun _ => Nat.zero_le _
  · intro ticket impossible
    cases impossible

end Steps

/-- The ticket passes neither a check nor a call at the time. -/
structure Excluded (limiter : Limiter) (now : Nat) (ticket : Ticket) : Prop where
  check : limiter.check now ticket = false
  call : limiter.charge now ticket = none

def Limiter.slotsOf (limiter : Limiter) (ticket : Ticket) : List AdmissionSlot :=
  limiter.slots.filter (AdmissionSlot.isOf ticket)

/-- The first acquisition's slot was taken over by the second one's. -/
structure TakenOver (grants : List Grant) (grant successor : Grant) : Prop where
  member : grant ∈ grants
  later : successor ∈ grants
  key : successor.ticket.key = grant.ticket.key
  token : grant.ticket.token < successor.ticket.token

/-- What the admission promises under any clock, and what a clock that does not step back adds. -/
structure AdmissionBounded (sys : AdmissionSystem) : Prop where
  slots : ∀ lane, (sys.limiter.slots.countP fun slot => decide (slot.lane = lane)) ≤ lane.cap
  keys : (sys.limiter.slots.map AdmissionSlot.key).Nodup
  windows : ∀ lane number, sys.grants.countP (Grant.isIn lane number) ≤ attemptsPerWindow
  calls : ∀ ticket, sys.calls.count ticket ≤ callsPerAttempt
  tickets : (sys.grants.map Grant.ticket).Nodup
  owned : ∀ grant successor, TakenOver sys.grants grant successor →
    sys.limiter.ownsSlot grant.ticket = false
  expired : ∀ grant ∈ sys.grants, ∀ now, grant.expires ≤ now →
    Excluded sys.limiter now grant.ticket
  excluded : ∀ grant ∈ sys.grants, ∀ events next, admissionMachine.run sys events = some next →
    admissionMachine.Complies Advances sys events → ∀ now, next.clock ≤ now →
      grant.expires ≤ sys.clock ∨ (∃ successor, TakenOver sys.grants grant successor) →
        Excluded next.limiter now grant.ticket
  untouched : ∀ grant ∈ sys.grants, ∀ successor ∈ sys.grants, grant.ticket ≠ successor.ticket →
    (sys.limiter.dropTicket grant.ticket).slotsOf successor.ticket =
        sys.limiter.slotsOf successor.ticket ∧
      ∀ now limiter, sys.limiter.charge now grant.ticket = some limiter →
        limiter.slotsOf successor.ticket = sys.limiter.slotsOf successor.ticket

section Bounds

variable {sys next : AdmissionSystem} {limiter : Limiter} {ticket other : Ticket} {now : Nat}
  {grant successor : Grant}

theorem excluded_of_dead
    (dead : ∀ slot ∈ limiter.slots, slot.ticket = ticket → slot.expires ≤ now) :
    Excluded limiter now ticket := by
  have gone : limiter.liveSlot now ticket = none := by
    rw [Limiter.liveSlot, Option.filter_eq_none_iff]
    intro slot found
    have mine := isOf_iff.mp (List.find?_some found)
    simpa using dead slot (List.mem_of_find?_eq_some found) mine
  constructor
  · rw [Limiter.check, gone]
    rfl
  · rw [Limiter.charge, gone]
    rfl

theorem AdmissionInvariant.tickets_nodup (invariant : AdmissionInvariant sys) :
    (sys.grants.map Grant.ticket).Nodup := by
  apply List.pairwise_map.mpr
  apply invariant.tokens.imp
  intro earlier later ordered same
  exact absurd (congrArg Ticket.token same) (Nat.ne_of_lt ordered)

theorem AdmissionInvariant.same_grant (invariant : AdmissionInvariant sys)
    (first : grant ∈ sys.grants) (second : successor ∈ sys.grants)
    (same : grant.ticket = successor.ticket) : grant = successor :=
  List.inj_on_of_nodup_map invariant.tickets_nodup first second same

theorem AdmissionInvariant.dead_of_expired (invariant : AdmissionInvariant sys)
    (member : grant ∈ sys.grants) (expired : grant.expires ≤ now) :
    Excluded sys.limiter now grant.ticket := by
  apply excluded_of_dead
  intro slot present mine
  rcases (invariant.recorded slot present).grant with ⟨holder, inside, same, expires⟩
  rw [expires, invariant.same_grant inside member (same.trans mine)]
  exact expired

theorem AdmissionInvariant.lost_of_takenOver (invariant : AdmissionInvariant sys)
    (taken : TakenOver sys.grants grant successor) :
    ∀ slot ∈ sys.limiter.slots, slot.ticket ≠ grant.ticket := by
  intro slot present mine
  have newest := (invariant.recorded slot present).newest successor taken.later
    (taken.key.trans (congrArg Ticket.key mine).symm)
  have token : slot.token = grant.ticket.token := congrArg Ticket.token mine
  have later := taken.token
  omega

theorem stepAdmission_grants {event : AdmissionEvent}
    (taken : stepAdmission sys event = some next) (member : grant ∈ sys.grants) :
    grant ∈ next.grants := by
  cases event with
  | acquire key lane now =>
      simp only [stepAdmission] at taken
      split at taken
      · cases taken
        exact member
      · cases taken
        exact List.mem_append_left _ member
      · cases taken
        exact member
  | call ticket now =>
      simp only [stepAdmission] at taken
      split at taken
      · split at taken <;> cases taken <;> exact member
      · cases taken
  | check ticket now | drop ticket =>
      simp only [stepAdmission] at taken
      split at taken
      · cases taken
        exact member
      · cases taken

theorem stepAdmission_clock {event : AdmissionEvent} (advances : Advances sys event)
    (taken : stepAdmission sys event = some next) : sys.clock ≤ next.clock := by
  cases event with
  | acquire key lane now =>
      simp only [stepAdmission] at taken
      split at taken <;> cases taken <;> exact advances
  | call ticket now =>
      simp only [stepAdmission] at taken
      split at taken
      · split at taken <;> cases taken <;> exact advances
      · cases taken
  | check ticket now =>
      simp only [stepAdmission] at taken
      split at taken
      · cases taken
        exact advances
      · cases taken
  | drop ticket =>
      simp only [stepAdmission] at taken
      split at taken
      · cases taken
        exact Nat.le_refl _
      · cases taken

theorem run_advances {events : List AdmissionEvent}
    (complies : admissionMachine.Complies Advances sys events)
    (ran : admissionMachine.run sys events = some next) :
    sys.clock ≤ next.clock ∧ ∀ grant ∈ sys.grants, grant ∈ next.grants := by
  refine admissionMachine.complies_preserves Advances
    (fun later => sys.clock ≤ later.clock ∧ ∀ grant ∈ sys.grants, grant ∈ later.grants) ?_
    ⟨Nat.le_refl _, fun _ member => member⟩ complies ran
  intro state event after held advances taken
  exact ⟨Nat.le_trans held.1 (stepAdmission_clock advances taken),
    fun grant member => stepAdmission_grants taken (held.2 grant member)⟩

theorem slotsOf_dropTicket (different : ticket ≠ other) :
    (limiter.dropTicket ticket).slotsOf other = limiter.slotsOf other := by
  simp only [Limiter.slotsOf, Limiter.dropTicket, List.filter_filter]
  apply List.filter_congr
  intro slot _
  cases mine : slot.isOf other with
  | false => rfl
  | true =>
      have theirs : slot.isOf ticket = false := by
        rw [Bool.eq_false_iff]
        intro clash
        exact different ((isOf_iff.mp clash).symm.trans (isOf_iff.mp mine))
      rw [theirs]
      rfl

theorem slotsOf_chargeIn (different : ticket ≠ other) (slots : List AdmissionSlot) :
    (Limiter.chargeIn ticket slots).filter (AdmissionSlot.isOf other) =
      slots.filter (AdmissionSlot.isOf other) := by
  induction slots with
  | nil => rfl
  | cons slot rest ih =>
      simp only [Limiter.chargeIn]
      split
      · rename_i mine
        have theirs : slot.isOf other = false := by
          rw [Bool.eq_false_iff]
          intro clash
          exact different ((isOf_iff.mp mine).symm.trans (isOf_iff.mp clash))
        have charged : AdmissionSlot.isOf other { slot with calls := slot.calls + 1 } = false :=
          theirs
        rw [List.filter_cons_of_neg (by simp [charged]), List.filter_cons_of_neg (by simp [theirs])]
      · rw [List.filter_cons, List.filter_cons, ih]

end Bounds

theorem admission_bounded {sys : AdmissionSystem} (reachable : admissionMachine.Reachable sys) :
    AdmissionBounded sys := by
  have invariant := reachable_admission reachable
  constructor
  · exact invariant.capped
  · exact invariant.distinct
  · exact fun lane number => (invariant.windows lane).past number
  · exact invariant.budgets
  · exact invariant.tickets_nodup
  · intro grant successor taken
    rw [Bool.eq_false_iff, ne_eq, ownsSlot_iff]
    intro held
    rcases List.mem_map.mp held with ⟨slot, present, mine⟩
    exact invariant.lost_of_takenOver taken slot present mine
  · exact fun grant member now expired => invariant.dead_of_expired member expired
  · intro grant member events next ran complies now later reason
    rcases run_advances complies ran with ⟨clock, kept⟩
    have last : AdmissionInvariant next := admissionMachine.run_preserves AdmissionInvariant
      (fun _ _ _ invariant taken => stepAdmission_keeps invariant taken) invariant ran
    rcases reason with expired | ⟨successor, taken⟩
    · exact last.dead_of_expired (kept grant member)
        (Nat.le_trans expired (Nat.le_trans clock later))
    · apply excluded_of_dead
      intro slot present mine
      have still : TakenOver next.grants grant successor :=
        ⟨kept grant taken.member, kept successor taken.later, taken.key, taken.token⟩
      exact absurd mine (last.lost_of_takenOver still slot present)
  · intro grant _ successor _ different
    refine ⟨slotsOf_dropTicket different, ?_⟩
    intro now limiter charged
    rcases charge_eq_some charged with ⟨_, rfl⟩
    exact slotsOf_chargeIn different sys.limiter.slots

section Sample

def admissionSampleKey : RelaySetupKey := ⟨List.replicate 32 1⟩

/-- The first lease runs out during a call; its late drop comes after a successor's admission. -/
def admissionSampleEvents : List AdmissionEvent :=
  [.acquire admissionSampleKey .new 0, .call ⟨admissionSampleKey, 1⟩ 10,
    .acquire admissionSampleKey .completion 59, .acquire admissionSampleKey .new 300,
    .check ⟨admissionSampleKey, 1⟩ 301, .drop ⟨admissionSampleKey, 1⟩,
    .call ⟨admissionSampleKey, 2⟩ 302]

def admissionSampleSystem : AdmissionSystem :=
  (admissionMachine.run ⟨.new, [], [], 0⟩ admissionSampleEvents).getD ⟨.new, [], [], 0⟩

theorem admissionSampleSystem_reachable :
    admissionMachine.Reachable admissionSampleSystem :=
  admissionMachine.reachable_getD ⟨0, rfl⟩ (by decide +kernel)

theorem admission_bounded_successor :
    admissionSampleSystem.limiter.tickets = [⟨admissionSampleKey, 2⟩] ∧
      admissionSampleSystem.grants.length = 2 ∧ AdmissionBounded admissionSampleSystem :=
  ⟨by decide +kernel, by decide +kernel, admission_bounded admissionSampleSystem_reachable⟩

end Sample

end JupiterSuite.Historian
