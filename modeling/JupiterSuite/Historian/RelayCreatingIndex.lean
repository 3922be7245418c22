import JupiterSuite.Historian.RelayJournal

/-! The index of the setups in progress is a second copy of what the registry says. Each operation
that writes an entry writes the index with it. -/

namespace JupiterSuite.Historian

open Base

structure CreatingKeysSound (keys : List RelaySetupKey)
    (entries : RelaySetupKey → Option RelaySetupEntry) : Prop where
  nodup : keys.Nodup
  bounded : keys.length ≤ maxConcurrentFundedRelaySetups
  exact : ∀ key, key ∈ keys ↔ ∃ progress, entries key = some (.creating progress)

/-- The index of a state names exactly its setups in progress. -/
abbrev FactoryState.IndexSound (st : FactoryState) : Prop :=
  CreatingKeysSound st.creatingKeys st.entries

section Index

variable {keys : List RelaySetupKey} {entries : RelaySetupKey → Option RelaySetupEntry}
  {key : RelaySetupKey} {entry : RelaySetupEntry} {st next : FactoryState}

theorem CreatingKeysSound.empty : CreatingKeysSound [] fun _ => none where
  nodup := List.nodup_nil
  bounded := Nat.zero_le _
  exact := by simp

theorem CreatingKeysSound.valid (sound : CreatingKeysSound keys entries) :
    FactoryState.validCreatingKeys keys = true := by
  simp only [FactoryState.validCreatingKeys, sound.bounded, sound.nodup, decide_true,
    Bool.and_self]

theorem CreatingKeysSound.update (sound : CreatingKeysSound keys entries)
    (progress : RelayCreationProgress) (present : key ∈ keys) :
    CreatingKeysSound keys (Function.update entries key (some (.creating progress))) where
  nodup := sound.nodup
  bounded := sound.bounded
  exact := by
    intro other
    by_cases same : other = key
    · subst same
      simp [present]
    · rw [Function.update_of_ne same]
      exact sound.exact other

theorem CreatingKeysSound.append (sound : CreatingKeysSound keys entries)
    (progress : RelayCreationProgress) (absent : key ∉ keys)
    (room : keys.length < maxConcurrentFundedRelaySetups) :
    CreatingKeysSound (keys ++ [key]) (Function.update entries key (some (.creating progress))) where
  nodup := by
    apply List.nodup_append.mpr
    refine ⟨sound.nodup, List.nodup_singleton key, ?_⟩
    rintro first member second last rfl
    rw [List.mem_singleton.mp last] at member
    exact absent member
  bounded := by
    rw [List.length_append]
    exact room
  exact := by
    intro other
    by_cases same : other = key
    · subst same
      simp
    · rw [Function.update_of_ne same, ← sound.exact other]
      simp [same]

theorem CreatingKeysSound.remove (sound : CreatingKeysSound keys entries) (key : RelaySetupKey)
    (value : Option RelaySetupEntry)
    (settled : ∀ progress, value ≠ some (.creating progress)) :
    CreatingKeysSound (keys.filter fun existing => decide (existing ≠ key))
      (Function.update entries key value) where
  nodup := sound.nodup.filter _
  bounded := Nat.le_trans (List.length_filter_le _ _) sound.bounded
  exact := by
    intro other
    by_cases same : other = key
    · subst same
      simp [settled]
    · rw [Function.update_of_ne same, ← sound.exact other]
      simp [same]

theorem relayCreatingKeys_of_sound (sound : st.IndexSound) :
    st.relayCreatingKeys = some st.creatingKeys := by
  rw [FactoryState.relayCreatingKeys, sound.valid, if_pos rfl]

theorem setRelayCreatingKeys_of_sound
    (sound : CreatingKeysSound keys (Function.update st.entries key (some entry))) :
    (st.putEntry key (some entry)).setRelayCreatingKeys keys =
      some { st.putEntry key (some entry) with creatingKeys := keys } := by
  rw [FactoryState.setRelayCreatingKeys, sound.valid, if_pos rfl]

theorem insertEntry_of_sound (sound : st.IndexSound)
    (room : ∀ progress, entry = .creating progress →
      key ∈ st.creatingKeys ∨ st.creatingKeys.length < maxConcurrentFundedRelaySetups) :
    ∃ next, st.insertEntry key entry = some next ∧ next.IndexSound := by
  simp only [FactoryState.insertEntry, relayCreatingKeys_of_sound sound, List.contains_iff_mem]
  cases entry with
  | creating progress =>
      dsimp only
      split
      · rename_i present
        have kept := sound.update progress present
        exact ⟨_, setRelayCreatingKeys_of_sound kept, kept⟩
      · rename_i absent
        have vacancy := (room progress rfl).resolve_left absent
        rw [if_pos vacancy]
        have kept := sound.append progress absent vacancy
        exact ⟨_, setRelayCreatingKeys_of_sound kept, kept⟩
  | active relay =>
      have kept := sound.remove key (some (.active relay)) (by simp)
      exact ⟨_, setRelayCreatingKeys_of_sound kept, kept⟩
  | manualRecoveryRequired progress =>
      have kept := sound.remove key (some (.manualRecoveryRequired progress)) (by simp)
      exact ⟨_, setRelayCreatingKeys_of_sound kept, kept⟩

theorem insertEntry_index (sound : st.IndexSound)
    (inserted : st.insertEntry key entry = some next) : next.IndexSound := by
  by_cases room : ∀ progress, entry = .creating progress →
      key ∈ st.creatingKeys ∨ st.creatingKeys.length < maxConcurrentFundedRelaySetups
  · rcases insertEntry_of_sound sound room with ⟨other, same, kept⟩
    rw [inserted] at same
    cases same
    exact kept
  · push Not at room
    rcases room with ⟨progress, rfl, absent, full⟩
    simp only [FactoryState.insertEntry, relayCreatingKeys_of_sound sound,
      List.contains_iff_mem, absent, Nat.not_lt.mpr full, if_false] at inserted
    cases inserted

theorem insertEntry_creating (sound : st.IndexSound) {progress : RelayCreationProgress}
    (found : st.entries key = some (.creating progress)) (updated : RelayCreationProgress) :
    (st.insertEntry key (.creating updated)).isSome = true := by
  have present : key ∈ st.creatingKeys := (sound.exact key).mpr ⟨progress, found⟩
  have written : ∃ next, st.insertEntry key (.creating updated) = some next ∧ next.IndexSound :=
    insertEntry_of_sound sound (fun _ _ => .inl present)
  rcases written with ⟨next, inserted, _⟩
  rw [inserted]
  rfl

theorem insertEntry_vacancy (sound : st.IndexSound)
    (room : st.creatingKeys.length < maxConcurrentFundedRelaySetups)
    (progress : RelayCreationProgress) :
    (st.insertEntry key (.creating progress)).isSome = true := by
  have written : ∃ next, st.insertEntry key (.creating progress) = some next ∧
      next.IndexSound := insertEntry_of_sound sound (fun _ _ => .inr room)
  rcases written with ⟨next, inserted, _⟩
  rw [inserted]
  rfl

theorem insertEntry_settled (sound : st.IndexSound)
    (settled : ∀ progress, entry ≠ .creating progress) :
    (st.insertEntry key entry).isSome = true := by
  rcases insertEntry_of_sound sound (fun progress same => absurd same (settled progress)) with
    ⟨next, inserted, _⟩
  rw [inserted]
  rfl

theorem removeEntry_of_sound (sound : st.IndexSound) (key : RelaySetupKey) :
    ∃ next, st.removeEntry key = some next ∧ next.IndexSound := by
  have kept := sound.remove key none (by simp)
  simp only [FactoryState.removeEntry, relayCreatingKeys_of_sound sound,
    FactoryState.setRelayCreatingKeys, kept.valid, if_true]
  exact ⟨_, rfl, kept⟩

theorem removeEntry_index (sound : st.IndexSound) (removed : st.removeEntry key = some next) :
    next.IndexSound := by
  rcases removeEntry_of_sound sound key with ⟨other, same, kept⟩
  rw [removed] at same
  cases same
  exact kept

theorem removeEntry_isSome (sound : st.IndexSound) (key : RelaySetupKey) :
    (st.removeEntry key).isSome = true := by
  rcases removeEntry_of_sound sound key with ⟨next, removed, _⟩
  rw [removed]
  rfl

end Index

end JupiterSuite.Historian
