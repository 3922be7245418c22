import JupiterSuite.SnsRewards.OwnerSnapshots

/-! What one segment of a scan tick can do, and the invariant that every event preserves. -/

namespace JupiterSuite.SnsRewards

open Base

/-- `finish_start_scan` leaves everything as it is or starts a scan beside the active slot. -/
inductive StartMove (canister : Canister) (lease nowNanos : Nat) :
    Canister × StartScanResult → Prop where
  | keeps (result : StartScanResult) (other : ∀ startedAt, result ≠ .started startedAt) :
      StartMove canister lease nowNanos (canister, result)
  | starts (scan : OwnerScan) (owner : canister.st.scanLockStateTs = some lease)
      (idle : canister.st.scan = none)
      (staging : scan.stagingSlot = (canister.st.activeSnapshot.map fun snapshot =>
        snapshot.activeSlot.other).getD .a)
      (pagesZero : scan.pagesProcessed = 0) (neuronsZero : scan.neuronsProcessed = 0)
      (cursor : scan.startPageAt = none) :
      StartMove canister lease nowNanos
        ({ st := { canister.st with
            lastScanStartedAtTimestampNanos := nowNanos
            scan := some scan }
           owners := clearSlot canister.owners scan.stagingSlot }, .started nowNanos)

def stagedMap (hashes : Hashes) (canister : Canister) (scan : OwnerScan)
    (response : ListNeuronsResponse) : OwnerMap :=
  (canister.owners scan.stagingSlot).insertOwners hashes response.neurons

inductive PageMove (hashes : Hashes) (canister : Canister) (lease : Nat) (scan : OwnerScan) :
    Option ListNeuronsResponse → Canister × PageResult → Prop where
  | stale (response : Option ListNeuronsResponse) :
      PageMove hashes canister lease scan response (canister, .stale)
  | fails (response : Option ListNeuronsResponse)
      (owner : canister.st.scanLockStateTs = some lease)
      (current : canister.st.scan = some scan) (map : OwnerMap) :
      PageMove hashes canister lease scan response
        ({ st := { canister.st with scan := none }
           owners := Function.update canister.owners scan.stagingSlot map }, .failed)
  | advances (response : ListNeuronsResponse)
      (owner : canister.st.scanLockStateTs = some lease)
      (current : canister.st.scan = some scan)
      (valid : validateIds scan.startPageAt response.neurons = .ok ())
      (full : snsNeuronPageSize ≤ response.neurons.length)
      (below : scan.pagesProcessed + 1 < snsOwnerScanMaxPages) :
      PageMove hashes canister lease scan (some response)
        ({ st := { canister.st with scan := some (scan.after response.neurons) }
           owners := Function.update canister.owners scan.stagingSlot
            (stagedMap hashes canister scan response) }, .inProgress)
  | completes (response : ListNeuronsResponse) (snapshot : OwnerSnapshot)
      (owner : canister.st.scanLockStateTs = some lease)
      (current : canister.st.scan = some scan)
      (valid : validateIds scan.startPageAt response.neurons = .ok ())
      (short : response.neurons.length < snsNeuronPageSize)
      (id : snapshot.snapshotId = canister.st.nextSnapshotId)
      (slot : snapshot.activeSlot = scan.stagingSlot)
      (governance : snapshot.snsGovernanceCanisterId = scan.snsGovernanceCanisterId)
      (neurons : snapshot.neuronCount = (scan.after response.neurons).neuronsProcessed)
      (count : snapshot.ownerCount = (stagedMap hashes canister scan response).entries.length) :
      PageMove hashes canister lease scan (some response)
        ({ st := { canister.st with
            activeSnapshot := some snapshot
            scan := none
            nextSnapshotId := satAdd u64Max canister.st.nextSnapshotId 1 }
           owners := Function.update canister.owners scan.stagingSlot
            (stagedMap hashes canister scan response) }, .completed)

section Segments

variable {hashes : Hashes} {canister : Canister} {lease nowNanos : Nat} {scan : OwnerScan}

theorem ownsScan_spec {st : State} {root : Principal} {expected : Option OwnerScan}
    (owns : ownsScan st lease root expected = true) :
    st.scanLockStateTs = some lease ∧ st.scan = expected := by
  simp only [ownsScan, decide_eq_true_eq] at owns
  exact ⟨owns.1, owns.2.2⟩

theorem finishStartScan_move (canister : Canister) (lease nowNanos : Nat) (root : Principal)
    (response : Option ListSnsCanistersResponse) :
    StartMove canister lease nowNanos
      (finishStartScan canister lease root response nowNanos) := by
  simp only [finishStartScan]
  split
  · exact .keeps .stale (by simp)
  · rename_i owns
    rcases ownsScan_spec (by simpa using owns) with ⟨owner, idle⟩
    split
    · exact .keeps .failed (by simp)
    · split
      · exact .keeps .failed (by simp)
      · exact .starts _ owner idle rfl rfl rfl rfl

theorem validatePage_ok {neurons : List Neuron} {cursor : Option (List UInt8)}
    (valid : validatePage scan neurons = .ok cursor) :
    validateIds scan.startPageAt neurons = .ok () ∧ cursor = lastNeuronId neurons := by
  simp only [validatePage] at valid
  cases checked : validateIds scan.startPageAt neurons with
  | error reason =>
      rw [checked] at valid
      cases valid
  | ok =>
      rw [checked] at valid
      cases valid
      exact ⟨rfl, rfl⟩

theorem finishPage_move (hashes : Hashes) (canister : Canister) (lease nowNanos : Nat)
    (scan : OwnerScan) (response : Option ListNeuronsResponse) :
    PageMove hashes canister lease scan response
      (finishPage hashes canister lease scan response nowNanos) := by
  simp only [finishPage]
  split
  · exact .stale response
  · rename_i owns
    rcases ownsScan_spec (by simpa using owns) with ⟨owner, current⟩
    have kept : Function.update canister.owners scan.stagingSlot
        (canister.owners scan.stagingSlot) = canister.owners := Function.update_eq_self ..
    cases response with
    | none =>
        have failed : PageMove hashes canister lease scan none _ :=
          .fails none owner current (canister.owners scan.stagingSlot)
        rw [kept] at failed
        exact failed
    | some response =>
        dsimp only
        split
        · have failed : PageMove hashes canister lease scan (some response) _ :=
            .fails _ owner current (canister.owners scan.stagingSlot)
          rw [kept] at failed
          exact failed
        · rename_i cursor valid
          rcases validatePage_ok valid with ⟨checked, rfl⟩
          simp only [advanceScan]
          split
          · rename_i short
            refine .completes response _ owner current checked short rfl rfl rfl rfl ?_
            simp only [completedSnapshot, Function.update_self, stagedMap]
          · rename_i full
            split
            · exact .fails _ owner current _
            · rename_i below
              exact .advances response owner current checked (not_lt.mp full) (not_le.mp below)

/-- A segment under a lease ends with the lock released or awaits under the same lease. -/
def Pauses (lease : Nat) (result : Canister × ScanPause) : Prop :=
  (result.2 = .done ∧ result.1.st.scanLockStateTs = some 0) ∨
    ∃ kont, result.2 = .await kont ∧ kont.lease = lease ∧
      result.1.st.scanLockStateTs = some lease

theorem pauses_drop (owner : canister.st.scanLockStateTs = some lease) :
    Pauses lease (dropGuard canister lease, .done) := by
  refine .inl ⟨rfl, ?_⟩
  simp only [dropGuard]
  rw [owner, releaseLease_held]

theorem processOnePage_pauses (owner : canister.st.scanLockStateTs = some lease) :
    Pauses lease (processOnePage canister lease nowNanos) := by
  simp only [processOnePage]
  split
  · exact pauses_drop owner
  · split
    · exact pauses_drop owner
    · exact .inr ⟨_, rfl, rfl, owner⟩

/-- The index that the queries see, without the lock and the schedule. -/
structure SameIndex (before after : Canister) : Prop where
  active : after.st.activeSnapshot = before.st.activeSnapshot
  scan : after.st.scan = before.st.scan ∨ after.st.scan = none
  next : after.st.nextSnapshotId = before.st.nextSnapshotId
  owners : after.owners = before.owners

theorem SameIndex.refl (canister : Canister) : SameIndex canister canister :=
  ⟨rfl, .inl rfl, rfl, rfl⟩

theorem processOnePage_index (canister : Canister) (lease nowNanos : Nat) :
    SameIndex canister (processOnePage canister lease nowNanos).1 := by
  simp only [processOnePage]
  split
  · exact ⟨rfl, .inl rfl, rfl, rfl⟩
  · split
    · exact ⟨rfl, .inr rfl, rfl, rfl⟩
    · exact .refl canister

theorem SameIndex.sound {scans : Nat} {pages : List Page} {published : List Publication}
    {after : Canister} (same : SameIndex canister after)
    (sound : SoundCanister hashes scans pages published canister) :
    SoundCanister hashes scans pages published after := by
  simp only [SoundCanister] at sound ⊢
  rw [same.active, same.next, same.owners]
  rcases same.scan with kept | failed
  · rw [kept]
    exact sound
  · rw [failed]
    cases current : canister.st.scan with
    | none =>
        rw [current] at sound
        exact sound
    | some scan =>
        rw [current] at sound
        have failed := sound.fail (canister.owners scan.stagingSlot)
        rwa [Function.update_eq_self] at failed

theorem scanTick_spec (canister : Canister) (force : Bool) (bounded : nowNanos ≤ u64Max) :
    scanTick canister force nowNanos = (canister, .done) ∨
      ∃ lease, canister.st.scanLockStateTs.getD 0 ≤ nowNanos / nanosPerSecond ∧
        nowNanos / nanosPerSecond < lease ∧
        Pauses lease (scanTick canister force nowNanos) ∧
        SameIndex canister (scanTick canister force nowNanos).1 := by
  simp only [scanTick]
  cases acquired : acquireLease (nowNanos / nanosPerSecond) scanLeaseSeconds
      canister.st.scanLockStateTs with
  | none => exact .inl rfl
  | some lease =>
      have fits : nowNanos / nanosPerSecond + scanLeaseSeconds ≤ u64Max := by
        simp only [nanosPerSecond, scanLeaseSeconds, u64Max] at bounded ⊢
        omega
      rcases acquireLease_some (by decide) fits acquired with ⟨free, later⟩
      refine .inr ⟨lease, free, later, ?_⟩
      dsimp only
      split
      · refine ⟨processOnePage_pauses rfl, ?_⟩
        rcases processOnePage_index _ _ _ with ⟨active, scan, next, owners⟩
        exact ⟨active, scan, next, owners⟩
      · split
        · exact ⟨pauses_drop rfl, ⟨rfl, .inl rfl, rfl, rfl⟩⟩
        · split
          · exact ⟨pauses_drop rfl, ⟨rfl, .inl rfl, rfl, rfl⟩⟩
          · exact ⟨.inr ⟨_, rfl, rfl, rfl⟩, ⟨rfl, .inl rfl, rfl, rfl⟩⟩

end Segments

end JupiterSuite.SnsRewards
