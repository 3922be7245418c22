import JupiterSuite.SnsRewards.ScanSystem

/-! The owner snapshots: what a scan has staged so far, what a published snapshot holds, and that
the map of the active snapshot is the one that was published. -/

namespace JupiterSuite.SnsRewards

open Base

def scannedNeurons (pages : List Page) : List Neuron :=
  pages.flatMap fun page => page.response.neurons

def selectedOwners (pages : List Page) : List Principal :=
  (scannedNeurons pages).filterMap ownerForNeuron

/-- Every neuron has an id of 32 bytes, and the ids strictly increase. -/
structure Ascending (neurons : List Neuron) : Prop where
  identified : ∀ neuron ∈ neurons, ∃ id, neuron.id = some id ∧ id.length = 32
  increasing : neurons.Pairwise fun first second =>
    ∀ i j, first.id = some i → second.id = some j → i < j

/-- The first page was requested from the start, every other one behind the page before it. -/
def Chained (pages : List Page) : Prop :=
  ∀ earlier page rest, pages = earlier ++ page :: rest →
    page.startPageAt = lastNeuronId (scannedNeurons earlier)

structure Scanned (hashes : Hashes) (pages : List Page) (number : Nat) (scan : OwnerScan)
    (map : OwnerMap) : Prop where
  counted : scan.pagesProcessed = pages.length
  total : scan.neuronsProcessed = (scannedNeurons pages).length
  chained : Chained pages
  ascending : Ascending (scannedNeurons pages)
  same : ∀ page ∈ pages, page.scanNumber = number ∧
    page.snsGovernanceCanisterId = scan.snsGovernanceCanisterId
  owners : map = OwnerMap.insertOwners hashes .empty (scannedNeurons pages)

/-- A scan in progress has seen no short page and may request another one. -/
structure Staged (hashes : Hashes) (pages : List Page) (number : Nat) (scan : OwnerScan)
    (map : OwnerMap) : Prop extends Scanned hashes pages number scan map where
  below : scan.pagesProcessed < snsOwnerScanMaxPages
  cursor : scan.startPageAt = lastNeuronId (scannedNeurons pages)
  full : ∀ page ∈ pages, snsNeuronPageSize ≤ page.response.neurons.length

/-- A published snapshot holds exactly the owners selected from the pages of its scan. Where the
identifiers of two of them collide, the one selected last is found. -/
structure FromOneScan (hashes : Hashes) (publication : Publication) : Prop where
  same : ∀ page ∈ publication.pages, page.scanNumber = publication.scanNumber ∧
    page.snsGovernanceCanisterId = publication.snapshot.snsGovernanceCanisterId
  chained : Chained publication.pages
  ended : ∃ earlier last, publication.pages = earlier ++ [last] ∧
    (∀ page ∈ earlier, snsNeuronPageSize ≤ page.response.neurons.length) ∧
    last.response.neurons.length < snsNeuronPageSize
  ascending : Ascending (scannedNeurons publication.pages)
  neuronCount : publication.snapshot.neuronCount = (scannedNeurons publication.pages).length
  found : ∀ key, publication.owners.lookup key =
    lastOwner hashes (selectedOwners publication.pages) key
  only : ∀ key owner, publication.owners.lookup key = some owner →
    owner ∈ selectedOwners publication.pages ∧ accountIdentifierBytes hashes owner none = key
  every : ∀ owner ∈ selectedOwners publication.pages, ∃ kept,
    publication.owners.lookup (accountIdentifierBytes hashes owner none) = some kept ∧
      accountIdentifierBytes hashes kept none = accountIdentifierBytes hashes owner none
  ownerCount : publication.snapshot.ownerCount = ((selectedOwners publication.pages).map
    fun owner => accountIdentifierBytes hashes owner none).dedup.length

structure Sound (hashes : Hashes) (scans : Nat) (pages : List Page)
    (published : List Publication) (active : Option OwnerSnapshot) (scan : Option OwnerScan)
    (nextSnapshotId : Nat) (owners : OwnerIndexSlot → OwnerMap) : Prop where
  staged : ∀ current, scan = some current →
    Staged hashes pages scans current (owners current.stagingSlot)
  apart : ∀ current snapshot, scan = some current → active = some snapshot →
    current.stagingSlot ≠ snapshot.activeSlot
  active : ∀ snapshot, active = some snapshot → ∃ publication,
    published.getLast? = some publication ∧ publication.snapshot = snapshot ∧
      owners snapshot.activeSlot = publication.owners
  whole : ∀ publication ∈ published, FromOneScan hashes publication
  increasing : published.Pairwise fun first second =>
    first.snapshot.snapshotId < second.snapshot.snapshotId ∨
      first.snapshot.snapshotId = u64Max
  upcoming : ∀ publication ∈ published, publication.snapshot.snapshotId < nextSnapshotId ∨
    publication.snapshot.snapshotId = u64Max
  bounded : nextSnapshotId ≤ u64Max
  numbered : published.Pairwise fun first second => first.scanNumber < second.scanNumber
  recent : ∀ publication ∈ published, publication.scanNumber ≤ scans ∧
    (scan.isSome = true → publication.scanNumber < scans)

abbrev SoundCanister (hashes : Hashes) (scans : Nat) (pages : List Page)
    (published : List Publication) (canister : Canister) : Prop :=
  Sound hashes scans pages published canister.st.activeSnapshot canister.st.scan
    canister.st.nextSnapshotId canister.owners

section Pages

variable {pages : List Page} {page : Page} {neurons : List Neuron} {previous : Option (List UInt8)}

theorem scannedNeurons_snoc (pages : List Page) (page : Page) :
    scannedNeurons (pages ++ [page]) = scannedNeurons pages ++ page.response.neurons := by
  simp [scannedNeurons]

theorem validateIds_ok (valid : validateIds previous neurons = .ok ()) :
    Ascending neurons ∧ ∀ cursor neuron id, previous = some cursor → neuron ∈ neurons →
      neuron.id = some id → cursor < id := by
  induction neurons generalizing previous with
  | nil => exact ⟨⟨by simp, List.Pairwise.nil⟩, by simp⟩
  | cons neuron rest ih =>
      rw [validateIds] at valid
      split at valid
      · cases valid
      · rename_i id identified
        split at valid
        · cases valid
        · rename_i long
          split at valid
          · cases valid
          · rename_i progress
            rcases ih valid with ⟨ascending, above⟩
            have beyond : ∀ cursor, previous = some cursor → cursor < id := by
              rintro cursor rfl
              simpa using progress
            refine ⟨⟨?_, ?_⟩, ?_⟩
            · intro other member
              rcases List.mem_cons.mp member with rfl | later
              · exact ⟨id, identified, by simpa using long⟩
              · exact ascending.identified other later
            · refine List.pairwise_cons.mpr ⟨?_, ascending.increasing⟩
              intro other member i j first second
              have here : id = i := Option.some.inj (identified.symm.trans first)
              rw [← here]
              exact above id other j rfl member second
            · intro cursor other found same member located
              rcases List.mem_cons.mp member with rfl | later
              · have here : id = found := Option.some.inj (identified.symm.trans located)
                rw [← here]
                exact beyond cursor same
              · exact lt_trans (beyond cursor same) (above id other found rfl later located)

theorem le_lastNeuronId (ascending : Ascending neurons) {neuron : Neuron} {id last : List UInt8}
    (member : neuron ∈ neurons) (located : neuron.id = some id)
    (cursor : lastNeuronId neurons = some last) : id ≤ last := by
  rcases List.eq_nil_or_concat' neurons with rfl | ⟨earlier, final, rfl⟩
  · cases member
  · rw [lastNeuronId, List.getLast?_concat, Option.bind_some] at cursor
    rcases List.mem_append.mp member with before | here
    · have ordered := (List.pairwise_append.mp ascending.increasing).2.2
      exact le_of_lt (ordered neuron before final List.mem_cons_self id last located cursor)
    · have same := List.mem_singleton.mp here
      rw [same, cursor] at located
      exact le_of_eq (Option.some.inj located).symm

theorem lastNeuronId_isSome (ascending : Ascending neurons) (present : neurons ≠ []) :
    ∃ last, lastNeuronId neurons = some last := by
  rcases List.eq_nil_or_concat' neurons with rfl | ⟨earlier, final, rfl⟩
  · exact absurd rfl present
  · rcases ascending.identified final (by simp) with ⟨id, located, _⟩
    exact ⟨id, by rw [lastNeuronId, List.getLast?_concat, Option.bind_some, located]⟩

theorem ascending_append {earlier : List Neuron} (ascending : Ascending earlier)
    (valid : validateIds (lastNeuronId earlier) neurons = .ok ()) :
    Ascending (earlier ++ neurons) := by
  rcases validateIds_ok valid with ⟨later, above⟩
  constructor
  · intro neuron member
    rcases List.mem_append.mp member with before | here
    · exact ascending.identified neuron before
    · exact later.identified neuron here
  · refine List.pairwise_append.mpr ⟨ascending.increasing, later.increasing, ?_⟩
    intro first before second here i j left right
    rcases lastNeuronId_isSome ascending (List.ne_nil_of_mem before) with ⟨last, cursor⟩
    calc
      i ≤ last := le_lastNeuronId ascending before left cursor
      _ < j := above last second j cursor here right

theorem Chained.snoc (chained : Chained pages)
    (behind : page.startPageAt = lastNeuronId (scannedNeurons pages)) :
    Chained (pages ++ [page]) := by
  intro earlier other rest split
  rcases List.eq_nil_or_concat' rest with rfl | ⟨front, final, rfl⟩
  · rcases List.append_inj' split rfl with ⟨rfl, same⟩
    cases same
    exact behind
  · have regrouped : pages ++ [page] = (earlier ++ other :: front) ++ [final] := by simpa using split
    have tail : pages = earlier ++ other :: front := (List.append_inj' regrouped rfl).1
    exact chained earlier other front tail

theorem scanned_le (pages : List Page) :
    (scannedNeurons pages).length ≤ pages.length * usizeMax := by
  induction pages with
  | nil => exact Nat.le_refl _
  | cons page rest ih =>
      have fits := page.response.fits
      calc
        (scannedNeurons (page :: rest)).length =
            page.response.neurons.length + (scannedNeurons rest).length := by simp [scannedNeurons]
        _ ≤ usizeMax + rest.length * usizeMax := by omega
        _ = (page :: rest).length * usizeMax := by rw [List.length_cons, Nat.succ_mul, Nat.add_comm]

/-- A full scan's neurons fit the counter, so it never saturates. -/
theorem scanned_fits (short : pages.length ≤ snsOwnerScanMaxPages) :
    (scannedNeurons pages).length ≤ u64Max := by
  calc
    (scannedNeurons pages).length ≤ pages.length * usizeMax := scanned_le pages
    _ ≤ snsOwnerScanMaxPages * usizeMax := Nat.mul_le_mul_right _ short
    _ ≤ u64Max := by decide

end Pages

variable {map : OwnerMap}

section Soundness

variable {hashes : Hashes} {scans next : Nat} {pages : List Page} {published : List Publication}
  {active : Option OwnerSnapshot} {scan : OwnerScan} {owners : OwnerIndexSlot → OwnerMap}

def OwnerScan.after (scan : OwnerScan) (neurons : List Neuron) : OwnerScan :=
  { scan with
    pagesProcessed := scan.pagesProcessed + 1
    neuronsProcessed := satAdd u64Max scan.neuronsProcessed neurons.length
    startPageAt := lastNeuronId neurons }

structure Answers (scans : Nat) (scan : OwnerScan) (page : Page) : Prop where
  number : page.scanNumber = scans
  governance : page.snsGovernanceCanisterId = scan.snsGovernanceCanisterId
  behind : page.startPageAt = scan.startPageAt
  valid : validateIds scan.startPageAt page.response.neurons = .ok ()

theorem lastNeuronId_append (first : List Neuron) {second : List Neuron} (present : second ≠ []) :
    lastNeuronId (first ++ second) = lastNeuronId second := by
  rcases List.eq_nil_or_concat' second with rfl | ⟨front, last, rfl⟩
  · exact absurd rfl present
  · rw [lastNeuronId, lastNeuronId, ← List.append_assoc, List.getLast?_concat,
      List.getLast?_concat]

theorem Staged.extend {page : Page} (staged : Staged hashes pages scans scan map)
    (answers : Answers scans scan page) :
    Scanned hashes (pages ++ [page]) scans (scan.after page.response.neurons)
      (map.insertOwners hashes page.response.neurons) where
  counted := by
    rw [List.length_append, List.length_singleton, ← staged.counted]
    rfl
  total := by
    have short : (pages ++ [page]).length ≤ snsOwnerScanMaxPages := by
      rw [List.length_append, List.length_singleton, ← staged.counted]
      exact staged.below
    have fits := scanned_fits short
    rw [scannedNeurons_snoc, List.length_append] at fits ⊢
    simp only [OwnerScan.after]
    rw [staged.total, satAdd_of_le fits]
  chained := by
    apply staged.chained.snoc
    rw [answers.behind, staged.cursor]
  ascending := by
    rw [scannedNeurons_snoc]
    apply ascending_append staged.ascending
    rw [← staged.cursor]
    exact answers.valid
  same := by
    intro other member
    rcases List.mem_append.mp member with old | new
    · exact staged.same other old
    · rw [List.mem_singleton.mp new]
      exact ⟨answers.number, answers.governance⟩
  owners := by
    rw [scannedNeurons_snoc, insertOwners_append, ← staged.owners]

theorem Staged.extend_full {page : Page} (staged : Staged hashes pages scans scan map)
    (answers : Answers scans scan page) (full : snsNeuronPageSize ≤ page.response.neurons.length)
    (below : scan.pagesProcessed + 1 < snsOwnerScanMaxPages) :
    Staged hashes (pages ++ [page]) scans (scan.after page.response.neurons)
      (map.insertOwners hashes page.response.neurons) where
  toScanned := staged.extend answers
  below := below
  cursor := by
    have present : page.response.neurons ≠ [] := by
      intro none
      rw [none] at full
      exact absurd full (by decide)
    rw [scannedNeurons_snoc, lastNeuronId_append _ present]
    rfl
  full := by
    intro other member
    rcases List.mem_append.mp member with old | new
    · exact staged.full other old
    · rw [List.mem_singleton.mp new]
      exact full

theorem Scanned.fromOneScan {page : Page} {snapshot : OwnerSnapshot}
    (scanned : Scanned hashes (pages ++ [page]) scans scan map)
    (full : ∀ page ∈ pages, snsNeuronPageSize ≤ page.response.neurons.length)
    (short : page.response.neurons.length < snsNeuronPageSize)
    (governance : snapshot.snsGovernanceCanisterId = scan.snsGovernanceCanisterId)
    (neurons : snapshot.neuronCount = scan.neuronsProcessed)
    (count : snapshot.ownerCount = map.entries.length) :
    FromOneScan hashes ⟨scans, snapshot, pages ++ [page], map⟩ where
  same := by
    intro other member
    dsimp only
    rw [governance]
    exact scanned.same other member
  chained := scanned.chained
  ended := ⟨pages, page, rfl, full, short⟩
  ascending := scanned.ascending
  neuronCount := neurons.trans scanned.total
  found := by
    intro key
    rw [scanned.owners]
    exact lookup_insertOwners hashes _ key
  only := by
    intro key owner located
    rw [scanned.owners] at located
    exact lastOwner_mem ((lookup_insertOwners hashes _ key).symm.trans located)
  every := by
    intro owner member
    rcases Option.isSome_iff_exists.mp (lastOwner_isSome hashes member) with
      ⟨kept, last⟩
    refine ⟨kept, ?_, (lastOwner_mem last).2⟩
    rw [scanned.owners]
    exact (lookup_insertOwners hashes _ _).trans last
  ownerCount := by
    rw [count, scanned.owners]
    exact length_insertOwners _

theorem Sound.init (hashes : Hashes) (owners : OwnerIndexSlot → OwnerMap) :
    Sound hashes 0 [] [] none none 1 owners where
  staged := nofun
  apart := nofun
  active := nofun
  whole := nofun
  increasing := List.Pairwise.nil
  upcoming := nofun
  bounded := by decide
  numbered := List.Pairwise.nil
  recent := nofun

theorem Sound.fail (sound : Sound hashes scans pages published active (some scan) next owners)
    (map : OwnerMap) : Sound hashes scans pages published active none next
      (Function.update owners scan.stagingSlot map) where
  staged := nofun
  apart := nofun
  active := by
    intro snapshot found
    rcases sound.active snapshot found with ⟨publication, last, same, kept⟩
    refine ⟨publication, last, same, ?_⟩
    rw [Function.update_of_ne (Ne.symm (sound.apart scan snapshot rfl found)), kept]
  whole := sound.whole
  increasing := sound.increasing
  upcoming := sound.upcoming
  bounded := sound.bounded
  numbered := sound.numbered
  recent := fun publication member =>
    ⟨(sound.recent publication member).1, nofun⟩

theorem Sound.invalidate {before : Option OwnerScan}
    (sound : Sound hashes scans pages published active before next owners)
    (cleared : OwnerIndexSlot → OwnerMap) :
    Sound hashes scans pages published none none next cleared where
  staged := nofun
  apart := nofun
  active := nofun
  whole := sound.whole
  increasing := sound.increasing
  upcoming := sound.upcoming
  bounded := sound.bounded
  numbered := sound.numbered
  recent := fun publication member =>
    ⟨(sound.recent publication member).1, nofun⟩

theorem OwnerIndexSlot.other_ne (slot : OwnerIndexSlot) : slot.other ≠ slot := by
  cases slot <;> decide

theorem Sound.start (sound : Sound hashes scans pages published active none next owners)
    (staging : scan.stagingSlot = (active.map fun snapshot => snapshot.activeSlot.other).getD .a)
    (pagesZero : scan.pagesProcessed = 0) (neuronsZero : scan.neuronsProcessed = 0)
    (cursor : scan.startPageAt = none) :
    Sound hashes (scans + 1) [] published active (some scan) next
      (clearSlot owners scan.stagingSlot) where
  staged := by
    rintro current ⟨⟩
    rw [clearSlot, Function.update_self]
    exact {
      counted := pagesZero
      total := neuronsZero
      chained := fun earlier page rest split => by simp at split
      ascending := ⟨by simp [scannedNeurons], List.Pairwise.nil⟩
      same := fun _ member => by cases member
      owners := rfl
      below := by rw [pagesZero]; decide
      cursor := cursor
      full := fun _ member => by cases member }
  apart := by
    rintro current snapshot ⟨⟩ found
    rw [staging, found]
    exact OwnerIndexSlot.other_ne snapshot.activeSlot
  active := by
    intro snapshot found
    rcases sound.active snapshot found with ⟨publication, last, same, kept⟩
    refine ⟨publication, last, same, ?_⟩
    have elsewhere : snapshot.activeSlot ≠ scan.stagingSlot := by
      rw [staging, found]
      exact (OwnerIndexSlot.other_ne snapshot.activeSlot).symm
    rw [clearSlot, Function.update_of_ne elsewhere, kept]
  whole := sound.whole
  increasing := sound.increasing
  upcoming := sound.upcoming
  bounded := sound.bounded
  numbered := sound.numbered
  recent := by
    intro publication member
    have before := (sound.recent publication member).1
    exact ⟨by omega, fun _ => by omega⟩

theorem Sound.advance {page : Page}
    (sound : Sound hashes scans pages published active (some scan) next owners)
    (answers : Answers scans scan page)
    (full : snsNeuronPageSize ≤ page.response.neurons.length)
    (below : scan.pagesProcessed + 1 < snsOwnerScanMaxPages) :
    Sound hashes scans (pages ++ [page]) published active
      (some (scan.after page.response.neurons)) next
      (Function.update owners scan.stagingSlot
        ((owners scan.stagingSlot).insertOwners hashes page.response.neurons)) where
  staged := by
    rintro current ⟨⟩
    have same : (scan.after page.response.neurons).stagingSlot = scan.stagingSlot := rfl
    rw [same, Function.update_self]
    exact (sound.staged scan rfl).extend_full answers full below
  apart := by
    rintro current snapshot ⟨⟩ found
    exact sound.apart scan snapshot rfl found
  active := (sound.fail _).active
  whole := sound.whole
  increasing := sound.increasing
  upcoming := sound.upcoming
  bounded := sound.bounded
  numbered := sound.numbered
  recent := fun publication member =>
    ⟨(sound.recent publication member).1, fun _ => (sound.recent publication member).2 rfl⟩

theorem Sound.publish {page : Page} {snapshot : OwnerSnapshot}
    (sound : Sound hashes scans pages published active (some scan) next owners)
    (answers : Answers scans scan page) (short : page.response.neurons.length < snsNeuronPageSize)
    (filled : map = (owners scan.stagingSlot).insertOwners hashes page.response.neurons)
    (id : snapshot.snapshotId = next) (slot : snapshot.activeSlot = scan.stagingSlot)
    (governance : snapshot.snsGovernanceCanisterId = scan.snsGovernanceCanisterId)
    (neurons : snapshot.neuronCount = (scan.after page.response.neurons).neuronsProcessed)
    (count : snapshot.ownerCount = map.entries.length) :
    Sound hashes scans (pages ++ [page])
      (published ++ [⟨scans, snapshot, pages ++ [page], map⟩]) (some snapshot) none
      (satAdd u64Max next 1) (Function.update owners scan.stagingSlot map) where
  staged := nofun
  apart := nofun
  active := by
    rintro found ⟨⟩
    refine ⟨_, List.getLast?_concat .., rfl, ?_⟩
    rw [slot, Function.update_self]
  whole := by
    intro publication member
    rcases List.mem_append.mp member with old | new
    · exact sound.whole publication old
    · rw [List.mem_singleton.mp new]
      have staged := sound.staged scan rfl
      have scanned := staged.extend answers
      rw [← filled] at scanned
      exact scanned.fromOneScan staged.full short governance neurons count
  increasing := by
    refine List.pairwise_append.mpr ⟨sound.increasing, List.pairwise_singleton _ _, ?_⟩
    intro publication old last member
    rw [List.mem_singleton.mp member, id]
    exact sound.upcoming publication old
  upcoming := by
    intro publication member
    have bounded := sound.bounded
    have later : next < satAdd u64Max next 1 ∨ next = u64Max := by
      rcases Nat.lt_or_eq_of_le bounded with below | last
      · rw [satAdd_of_le below]
        exact .inl (Nat.lt_succ_self next)
      · exact .inr last
    rcases List.mem_append.mp member with old | new
    · rcases sound.upcoming publication old with before | last
      · exact .inl (Nat.lt_of_lt_of_le before (le_satAdd 1 bounded))
      · exact .inr last
    · rw [List.mem_singleton.mp new, id]
      exact later
  bounded := satAdd_le_limit ..
  numbered := by
    refine List.pairwise_append.mpr ⟨sound.numbered, List.pairwise_singleton _ _, ?_⟩
    intro publication old last member
    rw [List.mem_singleton.mp member]
    exact (sound.recent publication old).2 rfl
  recent := by
    intro publication member
    refine ⟨?_, nofun⟩
    rcases List.mem_append.mp member with old | new
    · exact (sound.recent publication old).1
    · rw [List.mem_singleton.mp new]

end Soundness

end JupiterSuite.SnsRewards
