import Fat32Image.Builder

/-!
# Cluster allocation

`add_file_to_directory` allocates a file's clusters one `allocate_cluster` at a time and links
each to the one before it. What the whole allocation does is said once, as `linkChain`: the
chain of `n` clusters from `next_free_cluster` on, each pointing to the next and the last one
holding the end-of-chain mark. `allocateFileClusters_eq_ok` is the inversion lemma every later
proof cites instead of unfolding the loop.
-/

namespace Fat32Image

namespace Fat32DiskBuilder

theorem clusterToSector_eq (c : Nat) : clusterToSector c = 528 + 8 * c := by
  simp only [clusterToSector, dataStartSector, fatStartSector, reservedSectors, fatCount,
    sectorsPerFat, sectorsPerCluster]
  omega

/-- Entry `i` of the FAT, previously `e`, once a chain of `n` clusters from `first` is linked:
each cluster of the chain points to the next, and the last holds the end-of-chain mark. -/
def chainEntry (first n i e : Nat) : Nat :=
  if first ≤ i ∧ i + 1 < first + n then i + 1
  else if first ≤ i ∧ i + 1 = first + n then eoc else e

theorem chainEntry_of_lt {first n i : Nat} (e : Nat) (h : i < first) :
    chainEntry first n i e = e := by
  simp only [chainEntry]
  rw [if_neg (by omega), if_neg (by omega)]

theorem chainEntry_of_ge {first n i : Nat} (e : Nat) (h : first + n ≤ i) :
    chainEntry first n i e = e := by
  simp only [chainEntry]
  rw [if_neg (by omega), if_neg (by omega)]

/-- The FAT once a chain of `n` clusters from `first` is linked. -/
def linkChain (fat : List Nat) (first n : Nat) : List Nat := fat.mapIdx (chainEntry first n)

@[simp] theorem length_linkChain (fat : List Nat) (first n : Nat) :
    (linkChain fat first n).length = fat.length := List.length_mapIdx

@[simp] theorem getElem?_linkChain (fat : List Nat) (first n i : Nat) :
    (linkChain fat first n)[i]? = fat[i]?.map (chainEntry first n i) := List.getElem?_mapIdx

theorem linkChain_zero (fat : List Nat) (first : Nat) : linkChain fat first 0 = fat := by
  apply List.ext_getElem?
  intro i
  rw [getElem?_linkChain]
  cases fat[i]? with
  | none => rfl
  | some e =>
    simp only [Option.map_some', chainEntry]
    split_ifs <;> first | rfl | omega

/-- The first allocation starts a chain of one cluster. -/
theorem set_eq_linkChain_one (fat : List Nat) (first : Nat) :
    fat.set first eoc = linkChain fat first 1 := by
  apply List.ext_getElem?
  intro i
  rw [getElem?_linkChain, List.getElem?_set]
  rcases Nat.lt_or_ge i fat.length with hi | hi
  · rw [List.getElem?_eq_getElem hi, Option.map_some', chainEntry]
    split_ifs <;> first | rfl | omega
  · rw [List.getElem?_eq_none hi]
    split_ifs <;> first | rfl | omega

/-- One pass of the linking loop lengthens the chain by one cluster. -/
theorem linkChain_succ {fat : List Nat} {first j : Nat} (hj : 0 < j) :
    ((linkChain fat first j).set (first + j) eoc).set (first + j - 1) (first + j) =
      linkChain fat first (j + 1) := by
  apply List.ext_getElem?
  intro i
  simp only [List.getElem?_set, List.length_set, length_linkChain, getElem?_linkChain]
  rcases Nat.lt_or_ge i fat.length with hi | hi
  · simp only [List.getElem?_eq_getElem hi, Option.map_some', chainEntry]
    split_ifs <;> first | rfl | omega | (simp only [Option.some.injEq]; omega)
  · simp only [List.getElem?_eq_none hi, Option.map_none']
    split_ifs <;> first | rfl | omega

theorem allocateCluster_eq_ok {s s' : Fat32DiskBuilder} {c : Nat} :
    s.allocateCluster = .ok (c, s') ↔ s.nextFreeCluster < s.fatTable.length ∧
      c = s.nextFreeCluster ∧
      s' = { s with fatTable := s.fatTable.set c eoc, nextFreeCluster := c + 1 } := by
  simp only [allocateCluster, setItem]
  split
  · simp only [ok_bind, pure_eq_ok, Except.ok.injEq, Prod.mk.injEq]
    constructor
    · rintro ⟨rfl, rfl⟩
      exact ⟨‹_›, rfl, rfl⟩
    · rintro ⟨-, rfl, rfl⟩
      exact ⟨rfl, rfl⟩
  · simp only [error_bind]
    exact ⟨nofun, fun h => absurd h.1 ‹_›⟩

theorem allocateCluster_eq_error {s : Fat32DiskBuilder} {e : PyError} :
    s.allocateCluster = .error e ↔ s.fatTable.length ≤ s.nextFreeCluster ∧ e = .indexError := by
  simp only [allocateCluster, setItem]
  split
  · exact ⟨nofun, fun h => absurd h.1 (by omega)⟩
  · simp only [error_bind, Except.error.injEq]
    exact ⟨fun h => ⟨by omega, h.symm⟩, fun h => h.2.symm⟩

/-- The linking loop, from a chain of `j ≥ 1` clusters from `first` ending at `current`: it
succeeds exactly when the FAT has room for `k` more clusters, and lengthens the chain by them. -/
theorem linkClusters_eq_ok {s s' : Fat32DiskBuilder} {fat : List Nat} {first j k : Nat}
    (hj : 0 < j) (hlen : first + j ≤ fat.length) (hfat : s.fatTable = linkChain fat first j)
    (hnext : s.nextFreeCluster = first + j) :
    s.linkClusters (first + j - 1) k = .ok s' ↔ first + j + k ≤ fat.length ∧
      s' = { s with fatTable := linkChain fat first (j + k), nextFreeCluster := first + j + k } := by
  induction k generalizing s j with
  | zero =>
    rw [linkClusters, Except.ok.injEq]
    rcases s with ⟨_, _, _, _⟩
    simp only at hfat hnext
    subst hfat hnext
    simp [hlen, eq_comm]
  | succ k ih =>
    rw [linkClusters]
    cases h : s.allocateCluster with
    | error e =>
      obtain ⟨hfull, -⟩ := allocateCluster_eq_error.mp h
      simp only [error_bind]
      rw [hfat, hnext, length_linkChain] at hfull
      exact ⟨nofun, fun h' => absurd h'.1 (by omega)⟩
    | ok p =>
      obtain ⟨c, s1⟩ := p
      obtain ⟨hroom, rfl, rfl⟩ := allocateCluster_eq_ok.mp h
      rw [hfat, hnext, length_linkChain] at hroom
      rw [hnext, hfat] at *
      simp only [ok_bind, setItem, List.length_set, length_linkChain, if_pos (by omega : first + j - 1 < fat.length)]
      have key := @ih ⟨s.sizeMb, s.diskImage, linkChain fat first (j + 1), first + j + 1⟩ (j + 1)
        (Nat.succ_pos j) (by omega) rfl (by simp only; omega)
      rw [show first + (j + 1) - 1 = first + j by omega] at key
      rw [linkChain_succ hj, key]
      simp only [Nat.add_assoc, Nat.add_comm 1 k]

/-- What the allocation of `add_file_to_directory` does: nothing for an empty file, otherwise
the chain of `n` clusters from `next_free_cluster`, when the FAT has room for it. -/
theorem allocateFileClusters_eq_ok {s s' : Fat32DiskBuilder} {size n first : Nat}
    (hn : 0 < size → 0 < n) :
    s.allocateFileClusters size n = .ok (first, s') ↔
      (size = 0 ∧ first = 0 ∧ s' = s) ∨
      (0 < size ∧ s.nextFreeCluster + n ≤ s.fatTable.length ∧ first = s.nextFreeCluster ∧
        s' = { s with fatTable := linkChain s.fatTable first n, nextFreeCluster := first + n }) := by
  unfold allocateFileClusters
  split
  · rename_i hsize
    have hn := hn hsize
    cases h : s.allocateCluster with
    | error e =>
      obtain ⟨hfull, -⟩ := allocateCluster_eq_error.mp h
      simp only [error_bind]
      exact ⟨nofun, fun h' => by omega⟩
    | ok p =>
      obtain ⟨c, s1⟩ := p
      obtain ⟨hroom, rfl, rfl⟩ := allocateCluster_eq_ok.mp h
      have key : ∀ s'', linkClusters ⟨s.sizeMb, s.diskImage, s.fatTable.set s.nextFreeCluster eoc,
          s.nextFreeCluster + 1⟩ s.nextFreeCluster (n - 1) = .ok s'' ↔
          s.nextFreeCluster + n ≤ s.fatTable.length ∧ s'' = { s with
            fatTable := linkChain s.fatTable s.nextFreeCluster n,
            nextFreeCluster := s.nextFreeCluster + n } := by
        intro s''
        have := @linkClusters_eq_ok ⟨s.sizeMb, s.diskImage, s.fatTable.set s.nextFreeCluster eoc,
          s.nextFreeCluster + 1⟩ s'' s.fatTable s.nextFreeCluster 1 (n - 1) Nat.one_pos
          (by omega) (set_eq_linkChain_one _ _) rfl
        rwa [Nat.add_sub_cancel, show 1 + (n - 1) = n by omega,
          show s.nextFreeCluster + 1 + (n - 1) = s.nextFreeCluster + n by omega] at this
      simp only [ok_bind]
      cases hl : linkClusters ⟨s.sizeMb, s.diskImage, s.fatTable.set s.nextFreeCluster eoc,
          s.nextFreeCluster + 1⟩ s.nextFreeCluster (n - 1) with
      | error e =>
        simp only [error_bind]
        refine ⟨nofun, ?_⟩
        rintro (⟨h0, -⟩ | ⟨-, hfit, -, -⟩)
        · omega
        · have := (key _).mpr ⟨hfit, rfl⟩
          rw [hl] at this
          cases this
      | ok s2 =>
        obtain ⟨hfit, rfl⟩ := (key s2).mp hl
        simp only [pure_eq_ok, Except.ok.injEq, Prod.mk.injEq]
        constructor
        · rintro ⟨rfl, rfl⟩
          exact .inr ⟨hsize, hfit, rfl, rfl⟩
        · rintro (⟨h0, -⟩ | ⟨-, -, rfl, rfl⟩)
          · omega
          · simp
  · rename_i hsize
    simp only [pure_eq_ok, Except.ok.injEq, Prod.mk.injEq]
    constructor
    · rintro ⟨rfl, rfl⟩
      exact .inl ⟨by omega, rfl, rfl⟩
    · rintro (⟨-, rfl, rfl⟩ | ⟨h, -⟩)
      · exact ⟨rfl, rfl⟩
      · omega

/-- `IndexError` is the only exception the allocation raises: the FAT has no entry left. -/
theorem allocateFileClusters_eq_error {s : Fat32DiskBuilder} {size n : Nat} {e : PyError}
    (h : s.allocateFileClusters size n = .error e) : e = .indexError := by
  have link : ∀ (s : Fat32DiskBuilder) current k, s.linkClusters current k = .error e →
      e = .indexError := by
    intro s current k hk
    induction k generalizing s current with
    | zero => cases hk
    | succ k ih =>
      rw [linkClusters] at hk
      cases ha : s.allocateCluster with
      | error e' => rw [ha] at hk; cases hk; exact (allocateCluster_eq_error.mp ha).2
      | ok p =>
        obtain ⟨c, s1⟩ := p
        rw [ha, ok_bind] at hk
        dsimp only at hk
        cases hs : setItem s1.fatTable current c with
        | error e' => rw [hs] at hk; cases hk; exact setItem_eq_error hs
        | ok fat => rw [hs, ok_bind] at hk; exact ih _ _ hk
  unfold allocateFileClusters at h
  split at h
  · cases ha : s.allocateCluster with
    | error e' => rw [ha] at h; cases h; exact (allocateCluster_eq_error.mp ha).2
    | ok p =>
      obtain ⟨c, s1⟩ := p
      rw [ha, ok_bind] at h
      dsimp only at h
      cases hl : s1.linkClusters c (n - 1) with
      | error e' => rw [hl] at h; cases h; exact link _ _ _ hl
      | ok s2 => rw [hl] at h; cases h
  · cases h

/-- Inversion of `add_file_to_directory`: a call that returns normally encoded the name,
allocated the file's chain, wrote its data, and inserted its entry into the directory cluster,
in that order. -/
theorem addFileToDirectory_eq_ok {s s' : Fat32DiskBuilder} {filename : String}
    {fileData : List UInt8} {now : DateTime} {dc : Option Nat}
    (h : s.addFileToDirectory filename fileData now dc = .ok s') :
    ∃ name first s1 dirData, fatFilename filename = .ok name ∧
      s.allocateFileClusters fileData.length (clustersNeeded fileData.length) = .ok (first, s1) ∧
      insertEntry (slice (writeFileData s1.diskImage fileData first (clustersNeeded fileData.length))
          (clusterToSector (dc.getD rootCluster) * sectorSize)
          (clusterToSector (dc.getD rootCluster) * sectorSize + bytesPerCluster)) filename
        (entryWrites name first fileData.length now) = .ok dirData ∧
      s' = { s1 with
        diskImage := setSlice
          (writeFileData s1.diskImage fileData first (clustersNeeded fileData.length))
          (clusterToSector (dc.getD rootCluster) * sectorSize)
          (clusterToSector (dc.getD rootCluster) * sectorSize + bytesPerCluster) dirData } := by
  unfold addFileToDirectory at h
  dsimp only at h
  cases h1 : fatFilename filename with
  | error e => rw [h1] at h; cases h
  | ok name =>
    rw [h1, ok_bind] at h
    cases h2 : s.allocateFileClusters fileData.length (clustersNeeded fileData.length) with
    | error e => rw [h2] at h; cases h
    | ok p =>
      rw [h2, ok_bind] at h
      cases h3 : insertEntry (slice (writeFileData p.2.diskImage fileData p.1
          (clustersNeeded fileData.length)) (clusterToSector (dc.getD rootCluster) * sectorSize)
          (clusterToSector (dc.getD rootCluster) * sectorSize + bytesPerCluster)) filename
          (entryWrites name p.1 fileData.length now) with
      | error e => rw [h3] at h; cases h
      | ok dirData =>
        rw [h3, ok_bind, pure_eq_ok, Except.ok.injEq] at h
        exact ⟨name, p.1, p.2, dirData, rfl, rfl, h3, h.symm⟩

theorem clustersNeeded_pos_iff {size : Nat} : 0 < clustersNeeded size ↔ 0 < size := by
  simp only [clustersNeeded, bytesPerCluster, sectorSize, sectorsPerCluster]
  omega

/-- The FAT and the allocator after a call that returns normally: the file's chain is linked
from `next_free_cluster` on (nothing for an empty file). -/
theorem fat_addFileToDirectory {s s' : Fat32DiskBuilder} {filename : String}
    {fileData : List UInt8} {now : DateTime} {dc : Option Nat}
    (h : s.addFileToDirectory filename fileData now dc = .ok s') :
    s'.fatTable = linkChain s.fatTable s.nextFreeCluster (clustersNeeded fileData.length) ∧
    s'.nextFreeCluster = s.nextFreeCluster + clustersNeeded fileData.length ∧
    s'.sizeMb = s.sizeMb := by
  obtain ⟨name, first, s1, dirData, -, h2, -, rfl⟩ := addFileToDirectory_eq_ok h
  rcases (allocateFileClusters_eq_ok clustersNeeded_pos_iff.mpr).mp h2 with
    ⟨h0, rfl, rfl⟩ | ⟨-, -, rfl, rfl⟩
  · have : clustersNeeded fileData.length = 0 := by
      simp only [clustersNeeded, h0, bytesPerCluster, sectorSize, sectorsPerCluster]
    simp [this, linkChain_zero]
  · exact ⟨rfl, rfl, rfl⟩

end Fat32DiskBuilder

/-! ## Runs of calls -/

open Fat32DiskBuilder

/-- The clusters a call allocates. -/
def FileArg.clusters (f : FileArg) : Nat := clustersNeeded f.fileData.length

/-- The clusters a run of calls allocates. -/
def totalClusters (files : List FileArg) : Nat := (files.map FileArg.clusters).sum

/-- The first cluster of call `j`'s chain in a run started with `next` as the next free
cluster. -/
def chainStart (next : Nat) (files : List FileArg) (j : Nat) : Nat :=
  next + totalClusters (files.take j)

/-- The FAT a run of calls leaves, from `fat` with `next` as the next free cluster: each call's
chain is linked right after the previous one. -/
def fatAfter (fat : List Nat) (next : Nat) : List FileArg → List Nat
  | [] => fat
  | f :: fs => fatAfter (linkChain fat next f.clusters) (next + f.clusters) fs

@[simp] theorem totalClusters_nil : totalClusters [] = 0 := rfl

@[simp] theorem totalClusters_cons (f : FileArg) (fs : List FileArg) :
    totalClusters (f :: fs) = f.clusters + totalClusters fs := List.sum_cons

@[simp] theorem chainStart_zero (next : Nat) (files : List FileArg) :
    chainStart next files 0 = next := by simp [chainStart]

theorem chainStart_cons_succ (next : Nat) (f : FileArg) (fs : List FileArg) (j : Nat) :
    chainStart next (f :: fs) (j + 1) = chainStart (next + f.clusters) fs j := by
  simp only [chainStart, List.take_succ_cons, totalClusters_cons]
  omega

theorem addFiles_cons (f : FileArg) (fs : List FileArg) (s : Fat32DiskBuilder) :
    addFiles (f :: fs) s = (s.addFileToDirectory f.filename f.fileData f.now none >>= addFiles fs) :=
  rfl

theorem addFiles_cons_eq_ok {f : FileArg} {fs : List FileArg} {s s' : Fat32DiskBuilder}
    (h : addFiles (f :: fs) s = .ok s') :
    ∃ s1, s.addFileToDirectory f.filename f.fileData f.now none = .ok s1 ∧ addFiles fs s1 = .ok s' := by
  rw [addFiles_cons] at h
  cases h1 : s.addFileToDirectory f.filename f.fileData f.now none with
  | error e => rw [h1] at h; cases h
  | ok s1 => rw [h1, ok_bind] at h; exact ⟨s1, rfl, h⟩

/-- The FAT and the allocator after a run of calls that return normally. -/
theorem addFiles_fat {files : List FileArg} {s s' : Fat32DiskBuilder}
    (h : addFiles files s = .ok s') :
    s'.fatTable = fatAfter s.fatTable s.nextFreeCluster files ∧
    s'.nextFreeCluster = s.nextFreeCluster + totalClusters files ∧ s'.sizeMb = s.sizeMb := by
  induction files generalizing s with
  | nil => cases h; exact ⟨rfl, rfl, rfl⟩
  | cons f fs ih =>
    obtain ⟨s1, h1, h2⟩ := addFiles_cons_eq_ok h
    obtain ⟨hfat, hnext, hsize⟩ := fat_addFileToDirectory h1
    obtain ⟨ifat, inext, isize⟩ := ih h2
    refine ⟨by rw [ifat, hfat, hnext]; rfl,
      by rw [inext, hnext, totalClusters_cons, FileArg.clusters, Nat.add_assoc], isize.trans hsize⟩

@[simp] theorem length_fatAfter (fat : List Nat) (next : Nat) (files : List FileArg) :
    (fatAfter fat next files).length = fat.length := by
  induction files generalizing fat next <;> simp [fatAfter, *]

/-- A run leaves the entries below its first cluster alone. -/
theorem getElem?_fatAfter_of_lt {fat : List Nat} {next c : Nat} (files : List FileArg)
    (hc : c < next) : (fatAfter fat next files)[c]? = fat[c]? := by
  induction files generalizing fat next with
  | nil => rfl
  | cons f fs ih =>
    rw [fatAfter, ih (by omega), getElem?_linkChain]
    cases fat[c]? <;> simp [chainEntry_of_lt _ hc]

/-- ... and the entries from its last allocated cluster on. -/
theorem getElem?_fatAfter_of_ge {fat : List Nat} {next c : Nat} (files : List FileArg)
    (hc : next + totalClusters files ≤ c) : (fatAfter fat next files)[c]? = fat[c]? := by
  induction files generalizing fat next with
  | nil => rfl
  | cons f fs ih =>
    rw [totalClusters_cons] at hc
    rw [fatAfter, ih (by omega), getElem?_linkChain]
    cases fat[c]? <;> simp [chainEntry_of_ge _ (by omega : next + f.clusters ≤ c)]

theorem chainStart_cons_zero_succ (next : Nat) (f : FileArg) (fs : List FileArg) :
    chainStart next (f :: fs) 1 = next + f.clusters := by
  simp [chainStart]

theorem chainStart_le_succ (next : Nat) (files : List FileArg) (j : Nat) :
    chainStart next files j ≤ chainStart next files (j + 1) := by
  induction files generalizing next j with
  | nil => simp [chainStart]
  | cons f fs ih =>
    cases j with
    | zero => rw [chainStart_zero, chainStart_cons_zero_succ]; omega
    | succ j => rw [chainStart_cons_succ, chainStart_cons_succ]; exact ih _ _

theorem chainStart_mono (next : Nat) (files : List FileArg) {j k : Nat} (h : j ≤ k) :
    chainStart next files j ≤ chainStart next files k := by
  induction h with
  | refl => exact le_refl _
  | step _ ih => exact ih.trans (chainStart_le_succ _ _ _)

theorem chainStart_length (next : Nat) (files : List FileArg) :
    chainStart next files files.length = next + totalClusters files := by
  simp [chainStart]

/-- Call `j`'s chain in the FAT a run leaves: every cluster of it points to the next one, and
the last holds the end-of-chain mark. -/
theorem getElem?_fatAfter_of_mem {fat : List Nat} {next j c : Nat} {files : List FileArg}
    (hj : j < files.length) (h1 : chainStart next files j ≤ c)
    (h2 : c < chainStart next files (j + 1)) :
    (fatAfter fat next files)[c]? =
      fat[c]?.map fun _ => if c + 1 < chainStart next files (j + 1) then c + 1 else eoc := by
  induction files generalizing fat next j with
  | nil => cases hj
  | cons f fs ih =>
    cases j with
    | zero =>
      rw [chainStart_zero] at h1
      rw [chainStart_cons_zero_succ] at h2 ⊢
      rw [fatAfter, getElem?_fatAfter_of_lt _ h2, getElem?_linkChain]
      cases fat[c]? with
      | none => rfl
      | some e =>
        simp only [Option.map_some', chainEntry]
        split_ifs <;> first | rfl | omega
    | succ j =>
      rw [chainStart_cons_succ] at h1 h2 ⊢
      have hge : next + f.clusters ≤ c := by
        have := chainStart_mono (next + f.clusters) fs (Nat.zero_le j)
        rw [chainStart_zero] at this
        omega
      rw [fatAfter, ih (Nat.lt_of_succ_lt_succ hj) h1 h2, getElem?_linkChain]
      cases fat[c]? <;> simp [chainEntry_of_ge _ hge]

theorem chainStart_succ_of_lt {next j : Nat} {files : List FileArg} (hj : j < files.length) :
    chainStart next files (j + 1) = chainStart next files j + files[j].clusters := by
  induction files generalizing next j with
  | nil => cases hj
  | cons f fs ih =>
    cases j with
    | zero => rw [chainStart_cons_zero_succ, chainStart_zero]; rfl
    | succ j =>
      rw [chainStart_cons_succ, chainStart_cons_succ, ih (Nat.lt_of_succ_lt_succ hj)]
      rfl

/-- Along call `j`'s chain, each entry of the FAT a run leaves names the next cluster, and the
last holds the end-of-chain mark. -/
theorem fatAfter_chain {fat : List Nat} {next j k : Nat} {files : List FileArg}
    (hj : j < files.length) (hlen : chainStart next files (j + 1) ≤ fat.length)
    (hk : k < files[j].clusters) :
    (fatAfter fat next files)[chainStart next files j + k]? =
      some (if k + 1 < files[j].clusters then chainStart next files j + k + 1 else eoc) := by
  rw [chainStart_succ_of_lt hj] at hlen
  rw [getElem?_fatAfter_of_mem hj (Nat.le_add_right _ _) (by rw [chainStart_succ_of_lt hj]; omega),
    List.getElem?_eq_getElem (by omega), Option.map_some', chainStart_succ_of_lt hj]
  simp only [Nat.add_assoc, Nat.add_lt_add_iff_left]

/-- Two calls that allocate clusters start their chains at different clusters. -/
theorem chainStart_injective {next i j : Nat} {files : List FileArg} (hi : i < files.length)
    (hj : j < files.length) (hci : 0 < files[i].clusters) (hcj : 0 < files[j].clusters)
    (h : chainStart next files i = chainStart next files j) : i = j := by
  by_contra hne
  rcases Nat.lt_or_gt_of_ne hne with hlt | hlt
  · have := chainStart_mono next files (show i + 1 ≤ j by omega)
    rw [chainStart_succ_of_lt hi] at this
    omega
  · have := chainStart_mono next files (show j + 1 ≤ i by omega)
    rw [chainStart_succ_of_lt hj] at this
    omega

/-- A call that returns normally allocated only clusters the FAT has. -/
theorem next_le_addFileToDirectory {s s' : Fat32DiskBuilder} {filename : String}
    {fileData : List UInt8} {now : DateTime} {dc : Option Nat}
    (h : s.addFileToDirectory filename fileData now dc = .ok s')
    (hs : s.nextFreeCluster ≤ s.fatTable.length) : s'.nextFreeCluster ≤ s'.fatTable.length := by
  obtain ⟨name, first, s1, dirData, -, h2, -, rfl⟩ := addFileToDirectory_eq_ok h
  rcases (allocateFileClusters_eq_ok clustersNeeded_pos_iff.mpr).mp h2 with
    ⟨-, -, rfl⟩ | ⟨-, hfit, rfl, rfl⟩
  · exact hs
  · simpa using hfit

theorem addFiles_next_le {files : List FileArg} {s s' : Fat32DiskBuilder}
    (h : addFiles files s = .ok s') (hs : s.nextFreeCluster ≤ s.fatTable.length) :
    s'.nextFreeCluster ≤ s'.fatTable.length := by
  induction files generalizing s with
  | nil => cases h; exact hs
  | cons f fs ih =>
    obtain ⟨s1, h1, h2⟩ := addFiles_cons_eq_ok h
    exact ih h2 (next_le_addFileToDirectory h1 hs)

/-- Every entry of a linked FAT fits `<L`, when the table's entries did and its indices do. -/
theorem fatAfter_lt {fat : List Nat} {next : Nat} (files : List FileArg)
    (hfat : ∀ e ∈ fat, e < 2 ^ 32) (hlen : fat.length < 2 ^ 32) :
    ∀ e ∈ fatAfter fat next files, e < 2 ^ 32 := by
  induction files generalizing fat next with
  | nil => exact hfat
  | cons f fs ih =>
    refine ih (fun x hx => ?_) (by rw [length_linkChain]; exact hlen)
    obtain ⟨i, hi⟩ := List.mem_iff_getElem?.mp hx
    rw [getElem?_linkChain] at hi
    cases hfi : fat[i]? with
    | none => rw [hfi] at hi; cases hi
    | some e =>
      rw [hfi, Option.map_some', Option.some.injEq] at hi
      subst hi
      have hil : i < fat.length := (List.getElem?_eq_some_iff.mp hfi).1
      unfold chainEntry
      split_ifs
      · omega
      · decide
      · exact hfat e (List.getElem?_mem hfi)

/-- The chains of a run cover the clusters it allocated, and no two of them share one. -/
theorem existsUnique_chain {next c : Nat} {files : List FileArg} (h1 : next ≤ c)
    (h2 : c < next + totalClusters files) :
    ∃! j, j < files.length ∧ chainStart next files j ≤ c ∧ c < chainStart next files (j + 1) := by
  refine exists_unique_of_exists_of_unique ?_ ?_
  · induction files generalizing next with
    | nil => simp at h2; omega
    | cons f fs ih =>
      by_cases hc : c < next + f.clusters
      · exact ⟨0, by simp, by simpa using h1, by rw [chainStart_cons_zero_succ]; exact hc⟩
      · obtain ⟨j, hj, hj1, hj2⟩ := @ih (next + f.clusters) (by omega)
          (by rw [totalClusters_cons] at h2; omega)
        exact ⟨j + 1, by simp; omega, by rw [chainStart_cons_succ]; exact hj1,
          by rw [chainStart_cons_succ]; exact hj2⟩
  · rintro j k ⟨-, hj1, hj2⟩ ⟨-, hk1, hk2⟩
    by_contra hne
    rcases Nat.lt_or_gt_of_ne hne with h | h
    · have := chainStart_mono next files (show j + 1 ≤ k by omega); omega
    · have := chainStart_mono next files (show k + 1 ≤ j by omega); omega

end Fat32Image
