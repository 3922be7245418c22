import JupiterSuite.SnsRewards.ScanMoves

/-! Every run of the owner scan: which task may write, what was published, and what the queries
answer. -/

namespace JupiterSuite.SnsRewards

open Base

structure ScanInvariant (hashes : Hashes) (sys : ScanSystem) : Prop where
  leased : Leased ScanKont.lease sys.canister.st.scanLockStateTs (sys.clock / nanosPerSecond)
    sys.tasks
  sound : SoundCanister hashes sys.scans sys.pages sys.published sys.canister
  asked : ∀ id kont, sys.tasks id = some kont →
    Owns ScanKont.lease sys.canister.st.scanLockStateTs kont → sys.asked id = sys.scans

def Kept (before after : Canister) : Prop :=
  ∀ snapshot, before.st.activeSnapshot = some snapshot → after.st.activeSnapshot = some snapshot →
    after.owners snapshot.activeSlot = before.owners snapshot.activeSlot

theorem Kept.of_owners {before after : Canister} (same : after.owners = before.owners) :
    Kept before after := by
  intro snapshot _ _
  rw [same]

variable {lease : Nat}

section Resume

variable {hashes : Hashes} {sys : ScanSystem} {id nowNanos : Nat} {kont : ScanKont}
  {reply : ScanReply} {result : Canister × ScanPause}

/-- A segment that resumes only gives its lease back, or it owns the lease and leaves a sound
index behind. -/
inductive ResumeSpec (hashes : Hashes) (sys observed : ScanSystem) (kont : ScanKont)
    (result : Canister × ScanPause) : Prop where
  | ends (same : observed = sys) (drops : result = (dropGuard sys.canister kont.lease, .done))
  | owns (owner : Owns ScanKont.lease sys.canister.st.scanLockStateTs kont)
      (pauses : Pauses kont.lease result)
      (sound : SoundCanister hashes observed.scans observed.pages observed.published result.1)
      (kept : Kept sys.canister result.1)

theorem resume_root {root : Principal} {response : Option ListSnsCanistersResponse}
    (sound : SoundCanister hashes sys.scans sys.pages sys.published sys.canister)
    (resumed : resumeScan hashes sys.canister nowNanos (.root lease root)
      (.canisters response) = some result) :
    ResumeSpec hashes sys
      (observeScan hashes sys id nowNanos (.root lease root) (.canisters response))
      (.root lease root) result := by
  have move := finishStartScan_move sys.canister lease nowNanos root response
  simp only [resumeScan] at resumed
  simp only [observeScan]
  generalize finishStartScan sys.canister lease root response nowNanos = finished
    at move resumed ⊢
  cases move with
  | keeps outcome other =>
      cases outcome with
      | started startedAt => exact absurd rfl (other startedAt)
      | notConfigured | stale | failed =>
          cases resumed
          exact .ends rfl rfl
  | starts scan owner idle staging pagesZero neuronsZero cursor =>
      cases resumed
      simp only [SoundCanister] at sound
      rw [idle] at sound
      have started := sound.start staging pagesZero neuronsZero cursor
      have index := processOnePage_index
        { st := { sys.canister.st with
            lastScanStartedAtTimestampNanos := nowNanos
            scan := some scan }
          owners := clearSlot sys.canister.owners scan.stagingSlot } lease nowNanos
      refine .owns owner (processOnePage_pauses owner) (index.sound started) ?_
      intro snapshot active _
      rw [index.owners]
      dsimp only
      have elsewhere : snapshot.activeSlot ≠ scan.stagingSlot := by
        rw [staging, active]
        exact (OwnerIndexSlot.other_ne snapshot.activeSlot).symm
      rw [clearSlot, Function.update_of_ne elsewhere]

/-- The staging slot of the scan is not the active one, so no page touches the active map. -/
theorem kept_staging {scan : OwnerScan} {after : Canister} {map : OwnerMap}
    (sound : SoundCanister hashes sys.scans sys.pages sys.published sys.canister)
    (current : sys.canister.st.scan = some scan)
    (owners : after.owners = Function.update sys.canister.owners scan.stagingSlot map) :
    Kept sys.canister after := by
  intro snapshot active _
  rw [owners, Function.update_of_ne (Ne.symm (sound.apart scan snapshot current active))]

theorem resume_page {requestedNanos : Nat} {scan : OwnerScan}
    {response : Option ListNeuronsResponse}
    (sound : SoundCanister hashes sys.scans sys.pages sys.published sys.canister)
    (asked : sys.canister.st.scanLockStateTs = some lease → sys.asked id = sys.scans)
    (resumed : resumeScan hashes sys.canister nowNanos (.page lease scan requestedNanos)
      (.neurons response) = some result) :
    ResumeSpec hashes sys
      (observeScan hashes sys id nowNanos (.page lease scan requestedNanos) (.neurons response))
      (.page lease scan requestedNanos) result := by
  have move := finishPage_move hashes sys.canister lease requestedNanos scan response
  simp only [resumeScan] at resumed
  have whole := sound
  simp only [SoundCanister] at sound
  generalize finished : finishPage hashes sys.canister lease scan response requestedNanos = page
    at move resumed
  cases move with
  | stale =>
      cases resumed
      cases response with
      | none => exact .ends rfl rfl
      | some response => exact .ends (by simp only [observeScan, finished]) rfl
  | fails _ owner current map =>
      cases resumed
      rw [current] at sound
      have same : observeScan hashes sys id nowNanos (.page lease scan requestedNanos)
          (.neurons response) = sys := by
        cases response with
        | none => rfl
        | some response => simp only [observeScan, finished]
      rw [same]
      exact .owns owner (pauses_drop owner) (sound.fail map) (kept_staging whole current rfl)
  | advances response owner current valid full below =>
      cases resumed
      rw [current] at sound
      simp only [observeScan, finished]
      have answers : Answers sys.scans scan
          ⟨sys.asked id, scan.snsGovernanceCanisterId, scan.startPageAt, response⟩ :=
        ⟨asked owner, rfl, rfl, valid⟩
      exact .owns owner (pauses_drop owner) (sound.advance answers full below)
        (kept_staging whole current rfl)
  | completes response snapshot owner current valid short number slot governance neurons count =>
      cases resumed
      rw [current] at sound
      simp only [observeScan, finished, Option.map_some, Option.toList_some]
      have answers : Answers sys.scans scan
          ⟨sys.asked id, scan.snsGovernanceCanisterId, scan.startPageAt, response⟩ :=
        ⟨asked owner, rfl, rfl, valid⟩
      rw [slot, Function.update_self]
      exact .owns owner (pauses_drop owner)
        (sound.publish answers short rfl number slot governance neurons count)
        (kept_staging whole current rfl)

theorem resume_spec (sound : SoundCanister hashes sys.scans sys.pages sys.published sys.canister)
    (asked : Owns ScanKont.lease sys.canister.st.scanLockStateTs kont → sys.asked id = sys.scans)
    (resumed : resumeScan hashes sys.canister nowNanos kont reply = some result) :
    ResumeSpec hashes sys (observeScan hashes sys id nowNanos kont reply) kont result := by
  cases kont with
  | root lease root =>
      cases reply with
      | canisters response => exact resume_root sound resumed
      | neurons => cases resumed
  | page lease scan requestedNanos =>
      cases reply with
      | canisters => cases resumed
      | neurons response => exact resume_page sound asked resumed

end Resume

section Steps

variable {hashes : Hashes} {sys observed : ScanSystem} {id nowNanos : Nat}

@[simp]
theorem settleScan_canister (sys : ScanSystem) (id nowNanos : Nat)
    (result : Canister × ScanPause) :
    (settleScan sys id nowNanos result).canister = result.1 := by
  rcases result with ⟨canister, pause⟩
  cases pause <;> rfl

theorem observeScan_tasks (hashes : Hashes) (sys : ScanSystem) (id nowNanos : Nat)
    (kont : ScanKont) (reply : ScanReply) :
    (observeScan hashes sys id nowNanos kont reply).tasks = sys.tasks := by
  cases kont <;> cases reply
  · simp only [observeScan]
    split <;> rfl
  · rfl
  · rfl
  · rename_i response
    cases response with
    | none => rfl
    | some response =>
        simp only [observeScan]
        split <;> rfl

theorem invariant_of_turn_scan {result : Canister × ScanPause}
    (turn : Turn ScanKont.lease observed.tasks id lease (nowNanos / nanosPerSecond))
    (pauses : Pauses lease result)
    (sound : SoundCanister hashes observed.scans observed.pages observed.published result.1) :
    ScanInvariant hashes (settleScan observed id nowNanos result) := by
  rcases result with ⟨canister, pause⟩
  rcases pauses with ⟨rfl, released⟩ | ⟨kont, rfl, same, held⟩
  · refine ⟨?_, sound, ?_⟩
    · exact turn.stop _ (.inr released)
    · intro other theirs found
      rcases Pool.put_eq_some found with ⟨_, gone⟩ | ⟨different, also⟩
      · cases gone
      · exact turn.others _ (.inr released) other theirs different also fun _ =>
          observed.asked other = observed.scans
  · refine ⟨?_, sound, ?_⟩
    · have awaits := turn.await kont same
      rw [← held] at awaits
      exact awaits
    · intro other theirs found owned
      simp only [settleScan]
      rcases Pool.put_eq_some found with ⟨rfl, _⟩ | ⟨different, also⟩
      · rw [Function.update_self]
      · rw [Function.update_of_ne different]
        exact turn.others _ (.inl held) other theirs different also
          (fun _ => observed.asked other = observed.scans) owned

theorem invariant_tick_scan (invariant : ScanInvariant hashes sys)
    (vacant : sys.tasks id = none) (forward : sys.clock ≤ nowNanos) (bounded : nowNanos ≤ u64Max)
    (force : Bool) :
    ScanInvariant hashes (settleScan sys id nowNanos (scanTick sys.canister force nowNanos)) ∧
      Kept sys.canister (scanTick sys.canister force nowNanos).1 := by
  have later : sys.clock / nanosPerSecond ≤ nowNanos / nanosPerSecond :=
    Nat.div_le_div_right forward
  rcases scanTick_spec sys.canister force bounded with busy |
    ⟨lease, free, fresh, pauses, index⟩
  · rw [busy]
    refine ⟨⟨?_, invariant.sound, ?_⟩, .of_owners rfl⟩
    · simp only [settleScan, Pool.put_vacant vacant]
      exact invariant.leased.tick later
    · simp only [settleScan, Pool.put_vacant vacant]
      exact invariant.asked
  · have turn := invariant.leased.turn_of_acquire vacant later free fresh
    exact ⟨invariant_of_turn_scan turn pauses (index.sound invariant.sound),
      .of_owners index.owners⟩

theorem invariant_end_scan {kont : ScanKont} (invariant : ScanInvariant hashes sys)
    (found : sys.tasks id = some kont) (forward : sys.clock ≤ nowNanos) :
    ScanInvariant hashes (settleScan sys id nowNanos
      (dropGuard sys.canister kont.lease, .done)) := by
  have leased := invariant.leased.tick (Nat.div_le_div_right (c := nanosPerSecond) forward)
  by_cases owner : sys.canister.st.scanLockStateTs = some kont.lease
  · exact invariant_of_turn_scan (leased.turn_of_owner found owner) (pauses_drop owner)
      invariant.sound
  · refine ⟨?_, invariant.sound, ?_⟩
    · exact leased.stop found (.inl (releaseLease_lost owner))
    · intro other theirs located owned
      rcases Pool.put_eq_some located with ⟨_, gone⟩ | ⟨_, also⟩
      · cases gone
      · apply invariant.asked other theirs also
        rw [← releaseLease_lost owner]
        exact owned

theorem invariant_resume_scan {kont : ScanKont} {reply : ScanReply}
    {result : Canister × ScanPause} (invariant : ScanInvariant hashes sys)
    (found : sys.tasks id = some kont) (forward : sys.clock ≤ nowNanos)
    (resumed : resumeScan hashes sys.canister nowNanos kont reply = some result) :
    ScanInvariant hashes (settleScan (observeScan hashes sys id nowNanos kont reply) id nowNanos
      result) ∧ Kept sys.canister result.1 := by
  have leased := invariant.leased.tick (Nat.div_le_div_right (c := nanosPerSecond) forward)
  have tasks := observeScan_tasks hashes sys id nowNanos kont reply
  have spec := resume_spec invariant.sound (invariant.asked id kont found) resumed
  cases spec with
  | ends same drops =>
      rw [same, drops]
      exact ⟨invariant_end_scan invariant found forward, .of_owners rfl⟩
  | owns owner pauses sound kept =>
      refine ⟨invariant_of_turn_scan ?_ pauses sound, kept⟩
      rw [tasks]
      exact leased.turn_of_owner found owner

theorem invariant_abandon_scan {kont : ScanKont} (invariant : ScanInvariant hashes sys)
    (found : sys.tasks id = some kont) (cleanup : Bool) :
    ScanInvariant hashes { sys with
      canister := if cleanup then dropGuard sys.canister kont.lease else sys.canister
      tasks := sys.tasks.put id none } := by
  cases cleanup with
  | true => exact invariant_end_scan invariant found (Nat.le_refl _)
  | false =>
      refine ⟨invariant.leased.stop found (.inl rfl), invariant.sound, ?_⟩
      intro other theirs located owned
      rcases Pool.put_eq_some located with ⟨_, gone⟩ | ⟨_, also⟩
      · cases gone
      · exact invariant.asked other theirs also owned

theorem postUpgrade_spec (canister : Canister) (args : Option UpgradeArgs)
    {scans : Nat} {pages : List Page} {published : List Publication}
    (sound : SoundCanister hashes scans pages published canister) :
    SoundCanister hashes scans pages published (postUpgrade canister args) ∧
      Kept canister (postUpgrade canister args) := by
  simp only [postUpgrade]
  split
  · exact ⟨sound, .of_owners rfl⟩
  · split
    · exact ⟨sound.invalidate _, nofun⟩
    · exact ⟨sound, .of_owners rfl⟩

theorem invariant_step_scan {event : ScanEvent} {next : ScanSystem}
    (invariant : ScanInvariant hashes sys) (taken : stepScan hashes sys event = some next) :
    ScanInvariant hashes next ∧ Kept sys.canister next.canister := by
  cases event with
  | tick id force now =>
      simp only [stepScan] at taken
      split at taken
      · rename_i admitted
        cases taken
        simp only [scanClockAdmits, Bool.and_eq_true, decide_eq_true_eq, Option.isNone_iff_eq_none]
          at admitted
        have moved := invariant_tick_scan invariant admitted.2 admitted.1.1 admitted.1.2 force
        rw [settleScan_canister]
        exact moved
      · cases taken
  | resume id reply now =>
      simp only [stepScan] at taken
      split at taken
      · cases taken
      · rename_i kont found
        split at taken
        · rename_i admitted
          rcases Option.map_eq_some_iff.mp taken with ⟨result, resumed, rfl⟩
          simp only [scanClockAdmits, Bool.and_eq_true, decide_eq_true_eq] at admitted
          rw [settleScan_canister]
          exact invariant_resume_scan invariant found admitted.1 resumed
        · cases taken
  | abandon id cleanup =>
      simp only [stepScan] at taken
      split at taken
      · cases taken
      · rename_i kont found
        cases taken
        refine ⟨invariant_abandon_scan invariant found cleanup, .of_owners ?_⟩
        cases cleanup <;> rfl
  | upgrade args now =>
      simp only [stepScan] at taken
      split at taken
      · cases taken
        rcases postUpgrade_spec sys.canister args invariant.sound with ⟨sound, kept⟩
        exact ⟨⟨.empty _ _, sound, nofun⟩, kept⟩
      · cases taken

theorem reachable_scanInvariant (reachable : (scanMachine hashes).Reachable sys) :
    ScanInvariant hashes sys := by
  refine (scanMachine hashes).reachable_invariant (ScanInvariant hashes) ?_ ?_ reachable
  · rintro start ⟨config, nowNanos, asked, rfl⟩
    exact ⟨.empty _ _, .init hashes _, nofun⟩
  · intro state event next invariant taken
    exact (invariant_step_scan invariant taken).1

end Steps

/-- The two maps are never confused, and a published snapshot is what its scan saw. -/
structure OwnerSnapshots (hashes : Hashes) (sys : ScanSystem) : Prop where
  apart : ∀ scan snapshot, sys.canister.st.scan = some scan →
    sys.canister.st.activeSnapshot = some snapshot → scan.stagingSlot ≠ snapshot.activeSlot
  unmodified : ∀ event next snapshot, stepScan hashes sys event = some next →
    sys.canister.st.activeSnapshot = some snapshot →
    next.canister.st.activeSnapshot = some snapshot →
    next.canister.owners snapshot.activeSlot = sys.canister.owners snapshot.activeSlot
  active : ∀ snapshot, sys.canister.st.activeSnapshot = some snapshot →
    ∃ publication ∈ sys.published, publication.snapshot = snapshot ∧
      sys.canister.owners snapshot.activeSlot = publication.owners
  fromOneScan : ∀ publication ∈ sys.published, FromOneScan hashes publication
  numbered : sys.published.Pairwise fun first second => first.scanNumber < second.scanNumber
  increasing : sys.published.Pairwise fun first second =>
    first.snapshot.snapshotId < second.snapshot.snapshotId ∨
      first.snapshot.snapshotId = u64Max
  resolved : ∀ args found, resolveDefaultIcpAccounts sys.canister args = .ok found →
    ∃ publication ∈ sys.published, publication.snapshot.snapshotId = args.snapshotId ∧
      found = args.accountIdentifiers.map publication.owners.lookup ∧
      (args.snapshotId < u64Max → ∀ other ∈ sys.published,
        other.snapshot.snapshotId = args.snapshotId → other = publication)

theorem resolve_ok {canister : Canister} {args : ResolveDefaultIcpAccountsArgs}
    {found : List (Option Principal)} (resolved : resolveDefaultIcpAccounts canister args = .ok found) :
    ∃ snapshot, canister.st.activeSnapshot = some snapshot ∧
      snapshot.snapshotId = args.snapshotId ∧
      found = args.accountIdentifiers.map (canister.owners snapshot.activeSlot).lookup := by
  simp only [resolveDefaultIcpAccounts] at resolved
  split at resolved
  · cases resolved
  · split at resolved
    · cases resolved
    · split at resolved
      · cases resolved
      · rename_i snapshot active
        split at resolved
        · cases resolved
        · rename_i same
          cases resolved
          exact ⟨snapshot, active, not_not.mp same, rfl⟩

theorem owner_snapshots {hashes : Hashes} {sys : ScanSystem}
    (reachable : (scanMachine hashes).Reachable sys) : OwnerSnapshots hashes sys := by
  have invariant := reachable_scanInvariant reachable
  have sound := invariant.sound
  constructor
  · exact sound.apart
  · intro event next snapshot taken before after
    exact (invariant_step_scan invariant taken).2 snapshot before after
  · intro snapshot active
    rcases sound.active snapshot active with ⟨publication, last, same, kept⟩
    exact ⟨publication, List.mem_of_getLast? last, same, kept⟩
  · exact sound.whole
  · exact sound.numbered
  · exact sound.increasing
  · intro args found resolved
    rcases resolve_ok resolved with ⟨snapshot, active, id, rfl⟩
    rcases sound.active snapshot active with ⟨publication, last, rfl, kept⟩
    refine ⟨publication, List.mem_of_getLast? last, id, by rw [kept], ?_⟩
    intro below other member same
    rcases List.getLast?_eq_some_iff.mp last with ⟨earlier, split⟩
    rw [split] at member
    rcases List.mem_append.mp member with before | here
    · have ordered := sound.increasing
      rw [split] at ordered
      rcases (List.pairwise_append.mp ordered).2.2 other before publication
        List.mem_cons_self with lower | full
      · omega
      · omega
    · exact List.mem_singleton.mp here

section Sample

def sampleOwner : Principal := ⟨[0, 0, 0, 0, 0, 0, 0, 10, 1, 1]⟩

def sampleDigest : List UInt8 :=
  [27, 193, 40, 171, 138, 69, 93, 215, 188, 224, 162, 155, 10, 32, 244, 0, 98, 93, 26, 70, 135,
    31, 191, 232, 46, 254, 211, 141]

/-- The two hash functions at the only arguments the sample gives them. -/
def sampleHashes : Hashes where
  sha224 := fun bytes =>
    if bytes = accountIdDomain ++ sampleOwner.bytes ++ List.replicate 32 0 then sampleDigest
    else []
  crc32 := fun bytes => if bytes = sampleDigest then [243, 165, 142, 161] else []

def samplePage (id : UInt8) : ListNeuronsResponse where
  neurons := [⟨some (List.replicate 32 id), [⟨some sampleOwner, [1]⟩], 2, 1⟩]
  fits := (by decide : 1 ≤ usizeMax)

def sampleStart : ScanSystem where
  canister := ⟨State.new ⟨some ⟨[1]⟩⟩, fun _ => .empty⟩
  tasks := Pool.empty
  clock := 1700000000000000000
  scans := 0
  asked := fun _ => 0
  pages := []
  published := []

/-- The first tick loses its lease; its page comes back after the next tick has published. -/
def sampleEvents : List ScanEvent :=
  [.tick 0 false 1700000000000000000,
    .resume 0 (.canisters (some ⟨some ⟨[1]⟩, some ⟨[2]⟩, some ⟨[3]⟩⟩)) 1700000000000000000,
    .tick 1 false 1700001800000000000,
    .resume 1 (.neurons (some (samplePage 1))) 1700001800000000000,
    .resume 0 (.neurons (some (samplePage 2))) 1700001800000000000]

def sampleSystem : ScanSystem :=
  ((scanMachine sampleHashes).run sampleStart sampleEvents).getD sampleStart

theorem sampleSystem_reachable : (scanMachine sampleHashes).Reachable sampleSystem :=
  (scanMachine sampleHashes).reachable_getD
    ⟨⟨some ⟨[1]⟩⟩, 1700000000000000000, _, rfl⟩
    (by decide +kernel)

theorem owner_snapshots_late_page :
    sampleSystem.published.map (fun publication => publication.snapshot.ownerCount) = [1] ∧
      resolveDefaultIcpAccounts sampleSystem.canister
        ⟨1, [accountIdentifierBytes sampleHashes sampleOwner none]⟩ = .ok [some sampleOwner] ∧
      OwnerSnapshots sampleHashes sampleSystem :=
  ⟨by decide +kernel, by decide +kernel, owner_snapshots sampleSystem_reachable⟩

end Sample

end JupiterSuite.SnsRewards
