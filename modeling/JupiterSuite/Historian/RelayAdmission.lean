import JupiterSuite.Historian.RelaySetup

/-! Transient permission to do factory work: a slot for each key that is worked on, held by a
ticket until it is dropped or expires. An upgrade forgets the slots. -/

namespace JupiterSuite.Historian

open Base

def newSlots : Nat := 4

def completionSlots : Nat := 2

def windowSeconds : Nat := 60

def attemptsPerWindow : Nat := 8

def leaseSeconds : Nat := 300

def callsPerAttempt : Nat := 512

inductive Lane where
  | new
  | completion
  deriving DecidableEq, Repr

def Lane.cap : Lane → Nat
  | .new => newSlots
  | .completion => completionSlots

structure Window where
  number : Nat
  used : Nat
  deriving DecidableEq, Repr

structure AdmissionSlot where
  key : RelaySetupKey
  token : Nat
  lane : Lane
  expires : Nat
  calls : Nat
  deriving DecidableEq, Repr

structure Limiter where
  nextToken : Nat
  slots : List AdmissionSlot
  newWindow : Window
  completionWindow : Window
  deriving DecidableEq, Repr

structure Ticket where
  key : RelaySetupKey
  token : Nat
  deriving DecidableEq, Repr

def AdmissionSlot.isOf (ticket : Ticket) (slot : AdmissionSlot) : Bool :=
  decide (slot.key = ticket.key) && decide (slot.token = ticket.token)

namespace Limiter

def new : Limiter := ⟨0, [], ⟨0, 0⟩, ⟨0, 0⟩⟩

def hasLiveAttempt (limiter : Limiter) (now : Nat) (key : RelaySetupKey) : Bool :=
  limiter.slots.any fun slot => decide (slot.key = key) && decide (now < slot.expires)

def window (limiter : Limiter) : Lane → Window
  | .new => limiter.newWindow
  | .completion => limiter.completionWindow

def setWindow (limiter : Limiter) (lane : Lane) (window : Window) : Limiter :=
  match lane with
  | .new => { limiter with newWindow := window }
  | .completion => { limiter with completionWindow := window }

inductive Admission where
  | refused (limiter : Limiter)
  | granted (limiter : Limiter) (ticket : Ticket)
  | trapped
  deriving DecidableEq, Repr

/-- The window of the present time; earlier windows do not come back. -/
def enterWindow (window : Window) (now : Nat) : Option Window :=
  let number := now / windowSeconds
  if number < window.number then none
  else if window.number < number then some ⟨number, 0⟩
  else some window

def acquire (limiter : Limiter) (now : Nat) (key : RelaySetupKey) (lane : Lane) : Admission :=
  let limiter := { limiter with
    slots := limiter.slots.filter fun slot => decide (now < slot.expires) }
  if limiter.slots.any (fun slot => decide (slot.key = key)) ||
      decide (lane.cap ≤ limiter.slots.countP fun slot => decide (slot.lane = lane)) then
    .refused limiter
  else
    match enterWindow (limiter.window lane) now with
    | none => .refused limiter
    | some window =>
        if attemptsPerWindow ≤ window.used then .refused (limiter.setWindow lane window)
        else
          -- An attempt that fails is not refunded.
          let limiter := limiter.setWindow lane { window with used := window.used + 1 }
          match checkedAdd u64Max limiter.nextToken 1 with
          | none => .trapped
          | some token => .granted
              { limiter with
                nextToken := token
                slots := limiter.slots ++
                  [⟨key, token, lane, satAdd u64Max now leaseSeconds, 0⟩] }
              ⟨key, token⟩

def ownsSlot (limiter : Limiter) (ticket : Ticket) : Bool :=
  limiter.slots.any (AdmissionSlot.isOf ticket)

def dropTicket (limiter : Limiter) (ticket : Ticket) : Limiter :=
  { limiter with slots := limiter.slots.filter fun slot => !slot.isOf ticket }

/-- The ticket's slot, if it has not expired. -/
def liveSlot (limiter : Limiter) (now : Nat) (ticket : Ticket) : Option AdmissionSlot :=
  (limiter.slots.find? (AdmissionSlot.isOf ticket)).filter fun slot => decide (now < slot.expires)

def check (limiter : Limiter) (now : Nat) (ticket : Ticket) : Bool :=
  (limiter.liveSlot now ticket).isSome

/-- The first slot of the ticket is charged for a call. -/
def chargeIn (ticket : Ticket) : List AdmissionSlot → List AdmissionSlot
  | [] => []
  | slot :: rest =>
      if slot.isOf ticket then { slot with calls := slot.calls + 1 } :: rest
      else slot :: chargeIn ticket rest

def charge (limiter : Limiter) (now : Nat) (ticket : Ticket) : Option Limiter :=
  (limiter.liveSlot now ticket).bind fun slot =>
    if callsPerAttempt ≤ slot.calls then none
    else some { limiter with slots := chargeIn ticket limiter.slots }

end Limiter

/-- The keys and tokens of the slots. -/
def AdmissionSlot.ticket (slot : AdmissionSlot) : Ticket := ⟨slot.key, slot.token⟩

def Limiter.tickets (limiter : Limiter) : List Ticket :=
  limiter.slots.map AdmissionSlot.ticket

/-- Every key has one slot at most, and the tokens were handed out. -/
structure LimiterSound (limiter : Limiter) : Prop where
  distinct : (limiter.tickets.map Ticket.key).Nodup
  issued : ∀ ticket ∈ limiter.tickets, ticket.token ≤ limiter.nextToken

section Slots

variable {limiter next : Limiter} {ticket other : Ticket} {now : Nat} {key : RelaySetupKey}
  {lane : Lane}

theorem isOf_iff {slot : AdmissionSlot} : slot.isOf ticket = true ↔ slot.ticket = ticket := by
  cases ticket
  simp [AdmissionSlot.isOf, AdmissionSlot.ticket]

theorem ownsSlot_iff : limiter.ownsSlot ticket = true ↔ ticket ∈ limiter.tickets := by
  simp only [Limiter.ownsSlot, List.any_eq_true, Limiter.tickets, List.mem_map, isOf_iff]

theorem owns_of_check (live : limiter.check now ticket = true) : ticket ∈ limiter.tickets := by
  simp only [Limiter.check, Limiter.liveSlot, Option.isSome_filter, Option.any_eq_true] at live
  rcases live with ⟨slot, found, _⟩
  have mine := List.find?_some found
  have member := List.mem_of_find?_eq_some found
  exact List.mem_map.mpr ⟨slot, member, isOf_iff.mp mine⟩

theorem LimiterSound.unique (sound : LimiterSound limiter) (mine : ticket ∈ limiter.tickets)
    (theirs : other ∈ limiter.tickets) (same : ticket.key = other.key) : ticket = other :=
  List.inj_on_of_nodup_map sound.distinct mine theirs same

theorem LimiterSound.new : LimiterSound .new :=
  ⟨List.nodup_nil, nofun⟩

theorem tickets_chargeIn (slots : List AdmissionSlot) :
    (Limiter.chargeIn ticket slots).map AdmissionSlot.ticket =
      slots.map AdmissionSlot.ticket := by
  induction slots with
  | nil => rfl
  | cons slot rest ih =>
      simp only [Limiter.chargeIn]
      split
      · rfl
      · rw [List.map_cons, List.map_cons, ih]

theorem charge_tickets (charged : limiter.charge now ticket = some next) :
    next.tickets = limiter.tickets ∧ next.nextToken = limiter.nextToken := by
  rcases Option.bind_eq_some_iff.mp charged with ⟨slot, _, taken⟩
  split at taken
  · cases taken
  · cases taken
    exact ⟨tickets_chargeIn _, rfl⟩

theorem check_of_charge (charged : limiter.charge now ticket = some next) :
    limiter.check now ticket = true := by
  rcases Option.bind_eq_some_iff.mp charged with ⟨slot, found, _⟩
  rw [Limiter.check, found]
  rfl

theorem mem_dropTicket : other ∈ (limiter.dropTicket ticket).tickets ↔
    other ∈ limiter.tickets ∧ other ≠ ticket := by
  simp only [Limiter.tickets, Limiter.dropTicket, List.mem_map, List.mem_filter,
    Bool.not_eq_true', Bool.eq_false_iff, ne_eq, isOf_iff]
  constructor
  · rintro ⟨slot, ⟨member, different⟩, rfl⟩
    exact ⟨⟨slot, member, rfl⟩, different⟩
  · rintro ⟨⟨slot, member, rfl⟩, different⟩
    exact ⟨slot, ⟨member, different⟩, rfl⟩

theorem LimiterSound.shrink {slots : List AdmissionSlot} (sound : LimiterSound limiter)
    (fewer : slots.Sublist limiter.slots) (forms : next.slots = slots)
    (issued : limiter.nextToken ≤ next.nextToken) : LimiterSound next := by
  have sub : next.tickets.Sublist limiter.tickets := by
    rw [Limiter.tickets, forms]
    exact fewer.map _
  constructor
  · exact sound.distinct.sublist (sub.map _)
  · intro ticket member
    exact Nat.le_trans (sound.issued ticket (sub.subset member)) issued

theorem LimiterSound.dropTicket (sound : LimiterSound limiter) (ticket : Ticket) :
    LimiterSound (limiter.dropTicket ticket) :=
  sound.shrink List.filter_sublist rfl (Nat.le_refl _)

theorem setWindow_slots (window : Window) : (limiter.setWindow lane window).slots = limiter.slots ∧
    (limiter.setWindow lane window).nextToken = limiter.nextToken := by
  cases lane <;> exact ⟨rfl, rfl⟩

/-- What an admission leaves of the slots, and the ticket that it hands out. -/
structure Granted (limiter next : Limiter) (ticket : Ticket) (key : RelaySetupKey) : Prop where
  sound : LimiterSound next
  forKey : ticket.key = key
  fresh : ticket.token = limiter.nextToken + 1
  issued : next.nextToken = limiter.nextToken + 1
  tickets : ∀ other ∈ next.tickets, other = ticket ∨ other ∈ limiter.tickets ∧ other.key ≠ key
  mine : ticket ∈ next.tickets

theorem acquire_refused (sound : LimiterSound limiter)
    (refused : limiter.acquire now key lane = .refused next) :
    LimiterSound next ∧ (∀ other ∈ next.tickets, other ∈ limiter.tickets) ∧
      next.nextToken = limiter.nextToken := by
  have shrunk : ∀ result : Limiter,
      result.slots = limiter.slots.filter (fun slot => decide (now < slot.expires)) →
      result.nextToken = limiter.nextToken → LimiterSound result ∧
        (∀ other ∈ result.tickets, other ∈ limiter.tickets) ∧
          result.nextToken = limiter.nextToken := by
    intro result slots issued
    have fewer : result.slots.Sublist limiter.slots := by
      rw [slots]
      exact List.filter_sublist
    exact ⟨sound.shrink fewer rfl (Nat.le_of_eq issued.symm),
      fun other member => (fewer.map AdmissionSlot.ticket).subset member, issued⟩
  simp only [Limiter.acquire] at refused
  split at refused
  · cases refused
    exact shrunk _ rfl rfl
  · split at refused
    · cases refused
      exact shrunk _ rfl rfl
    · split at refused
      · cases refused
        exact shrunk _ (setWindow_slots _).1 (setWindow_slots _).2
      · split at refused
        · cases refused
        · cases refused

theorem acquire_granted (sound : LimiterSound limiter)
    (granted : limiter.acquire now key lane = .granted next ticket) :
    Granted limiter next ticket key := by
  simp only [Limiter.acquire] at granted
  split at granted
  · cases granted
  · rename_i vacant
    split at granted
    · cases granted
    · rename_i window entered
      split at granted
      · cases granted
      · split at granted
        · cases granted
        · rename_i token added
          cases granted
          have counted := (checkedAdd_eq_some.mp added).2
          rw [(setWindow_slots _).2] at counted
          dsimp only at counted
          simp only [Bool.or_eq_true, not_or, Bool.not_eq_true, List.any_eq_false,
            decide_eq_true_eq, List.mem_filter, and_imp] at vacant
          have unclaimed : ∀ slot ∈ limiter.slots, now < slot.expires → slot.key ≠ key :=
            vacant.1
          have tickets : ∀ other : Ticket, other ∈ ((limiter.slots.filter fun slot =>
              decide (now < slot.expires)).map AdmissionSlot.ticket) →
                other ∈ limiter.tickets ∧ other.key ≠ key := by
            intro other member
            rcases List.mem_map.mp member with ⟨slot, inside, rfl⟩
            rcases List.mem_filter.mp inside with ⟨present, live⟩
            exact ⟨List.mem_map.mpr ⟨slot, present, rfl⟩,
              unclaimed slot present (of_decide_eq_true live)⟩
          constructor
          · constructor
            · simp only [Limiter.tickets, (setWindow_slots _).1, List.map_append, List.map_cons,
                List.map_nil]
              apply List.nodup_append.mpr
              refine ⟨?_, List.nodup_singleton _, ?_⟩
              · exact sound.distinct.sublist ((List.filter_sublist.map _).map _)
              · rintro first member second same rfl
                rcases List.mem_map.mp member with ⟨other, inside, rfl⟩
                exact (tickets other inside).2 (List.mem_singleton.mp same)
            · intro other member
              simp only [Limiter.tickets, (setWindow_slots _).1, List.map_append,
                List.mem_append] at member
              rcases member with old | new
              · have bound := sound.issued other (tickets other old).1
                dsimp only
                omega
              · rcases List.mem_map.mp new with ⟨slot, inside, rfl⟩
                rw [List.mem_singleton.mp inside]
                exact Nat.le_refl _
          · rfl
          · exact counted
          · exact counted
          · intro other member
            simp only [Limiter.tickets, (setWindow_slots _).1, List.map_append,
              List.mem_append] at member
            rcases member with old | new
            · exact .inr (tickets other old)
            · rcases List.mem_map.mp new with ⟨slot, inside, rfl⟩
              rw [List.mem_singleton.mp inside]
              exact .inl rfl
          · simp only [Limiter.tickets, List.map_append, List.mem_append]
            exact .inr (List.mem_singleton_self _)

end Slots

end JupiterSuite.Historian
