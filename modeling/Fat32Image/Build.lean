import Fat32Image.Session

/-!
# Whole builds of `build_disk.py`

A build is `main`'s initialisation sequence, a run of `add_file_to_directory` calls,
`write_fat_tables` and `save` (`buildDisk`). This module follows the image through it. While
every cluster a call writes lies inside the image, a call keeps the image's length, leaves the
header sectors and every earlier cluster alone, and fills its own clusters with its chunks
(`image_addFileToDirectory`); over a run, each file's clusters hold its chunks
(`image_addFiles`). `write_fat_tables` then overwrites sectors 32 to 543 only.

The round trip (`build_round_trip`) reads the finished image the way a FAT32 driver does,
taking every offset from the image's own boot sector, and gets back each file's bytes followed
by the zero padding of its last cluster.
-/

namespace Fat32Image

open Fat32DiskBuilder

/-! ## The image during the calls -/

/-- The bytes of cluster `c` in the builder's image: the slice the data loop writes. -/
def clusterData (img : List UInt8) (c : Nat) : List UInt8 :=
  slice img (clusterToSector c * sectorSize) (clusterToSector c * sectorSize + bytesPerCluster)

/-- Whatever the file's size, a call never shrinks the image and leaves the sectors before the
root cluster alone: its clusters come after the root cluster, and a write past the end of the
image appends to it. -/
theorem take_addFileToDirectory {s s' : Fat32DiskBuilder} {f : FileArg}
    (hnext : 3 ≤ s.nextFreeCluster) (hroot : rootOffset + bytesPerCluster ≤ s.diskImage.length)
    (h : s.addFileToDirectory f.filename f.fileData f.now none = .ok s') :
    s.diskImage.length ≤ s'.diskImage.length ∧
      s'.diskImage.take rootOffset = s.diskImage.take rootOffset := by
  obtain ⟨name, first, s1, dirData, h1, h2, h3, rfl⟩ := addFileToDirectory_root_eq_ok h
  obtain ⟨himg, -, hcases⟩ := allocateFileClusters_first h2
  rw [himg] at h3 ⊢
  have hlen1 := length_le_writeFileData s.diskImage f.fileData first f.clusters
  have hroot1 := hroot.trans hlen1
  have hdir : dirData.length = bytesPerCluster := by
    rw [length_insertEntry (by rw [rootDir, length_slice _ _ hroot1]; rfl)
      (fun e he => (entry_fields (length_of_shortName_eq_ok h1) he).1) h3, rootDir,
      length_slice _ _ hroot1]
  refine ⟨hlen1.trans (length_le_setSlice (by rw [hdir]; omega)), ?_⟩
  rw [take_setSlice (le_refl _) (by omega)]
  rcases hcases with hn | hfirst
  · rw [hn]
    rfl
  · exact take_writeFileData (by rw [rootOffset_eq, clusterToSector_mul]; omega) (by omega)

theorem take_addFiles {files : List FileArg} {s s' : Fat32DiskBuilder}
    (hnext : 3 ≤ s.nextFreeCluster) (hroot : rootOffset + bytesPerCluster ≤ s.diskImage.length)
    (h : addFiles files s = .ok s') :
    s.diskImage.length ≤ s'.diskImage.length ∧
      s'.diskImage.take rootOffset = s.diskImage.take rootOffset := by
  induction files generalizing s with
  | nil => cases h; exact ⟨le_refl _, rfl⟩
  | cons f fs ih =>
    obtain ⟨s1, h1, h2⟩ := addFiles_cons_eq_ok h
    obtain ⟨hl1, ht1⟩ := take_addFileToDirectory hnext hroot h1
    obtain ⟨hl, ht⟩ := ih (by rw [(fat_addFileToDirectory h1).2.1]; omega) (hroot.trans hl1) h2
    exact ⟨hl1.trans hl, ht.trans ht1⟩

/-- Whatever the file's size, a call leaves the image as long as the longer of the two: the
image, or the end of the last cluster allocated so far. -/
theorem length_addFileToDirectory {s s' : Fat32DiskBuilder} {f : FileArg}
    (hroot : rootOffset + bytesPerCluster ≤ s.diskImage.length)
    (hin : 512 * (528 + 8 * s.nextFreeCluster) ≤ s.diskImage.length)
    (h : s.addFileToDirectory f.filename f.fileData f.now none = .ok s') :
    s'.diskImage.length = max s.diskImage.length (512 * (528 + 8 * s'.nextFreeCluster)) := by
  rw [(fat_addFileToDirectory h).2.1]
  obtain ⟨name, first, s1, dirData, h1, h2, h3, rfl⟩ := addFileToDirectory_root_eq_ok h
  obtain ⟨himg, hfirst, -⟩ := allocateFileClusters_first h2
  rw [himg] at h3 ⊢
  have hlen1 : (writeFileData s.diskImage f.fileData first f.clusters).length =
      max s.diskImage.length (512 * (528 + 8 * (s.nextFreeCluster + f.clusters))) := by
    by_cases hn : f.clusters = 0
    · rw [hn]
      show s.diskImage.length = _
      omega
    · rw [hfirst, FileArg.firstCluster, if_pos (clustersNeeded_pos_iff.mp (Nat.pos_of_ne_zero hn))]
      exact length_writeFileData_max hin
  have hroot1 : rootOffset + bytesPerCluster ≤
      (writeFileData s.diskImage f.fileData first f.clusters).length := by rw [hlen1]; omega
  have hdir : dirData.length = bytesPerCluster := by
    rw [length_insertEntry (by rw [rootDir, length_slice _ _ hroot1]; rfl)
      (fun e he => (entry_fields (length_of_shortName_eq_ok h1) he).1) h3, rootDir,
      length_slice _ _ hroot1]
  exact (length_setSlice (by rw [hdir]) hroot1).trans hlen1

/-- Over any run of calls, the image ends at the end of the volume or at the end of the last
cluster allocated, whichever comes later. -/
theorem length_addFiles {files : List FileArg} {s s' : Fat32DiskBuilder}
    (hroot : rootOffset + bytesPerCluster ≤ s.diskImage.length)
    (hin : 512 * (528 + 8 * s.nextFreeCluster) ≤ s.diskImage.length)
    (h : addFiles files s = .ok s') :
    s'.diskImage.length =
      max s.diskImage.length (512 * (528 + 8 * (s.nextFreeCluster + totalClusters files))) := by
  induction files generalizing s with
  | nil =>
    cases h
    rw [totalClusters_nil, Nat.add_zero]
    omega
  | cons f fs ih =>
    obtain ⟨s1, h1, h2⟩ := addFiles_cons_eq_ok h
    have hl1 := length_addFileToDirectory hroot hin h1
    rw [ih (by omega) (by omega) h2, hl1, (fat_addFileToDirectory h1).2.1, totalClusters_cons,
      FileArg.clusters]
    omega

/-- A call whose clusters lie inside the image keeps its length, leaves every cluster below
`next_free_cluster` alone, and fills its own clusters with the file's chunks. -/
theorem image_addFileToDirectory {s s' : Fat32DiskBuilder} {f : FileArg}
    (hnext : 3 ≤ s.nextFreeCluster) (hfit : Fits s.diskImage s.nextFreeCluster f.clusters)
    (h : s.addFileToDirectory f.filename f.fileData f.now none = .ok s') :
    s'.diskImage.length = s.diskImage.length ∧
    (∀ c, 3 ≤ c → c < s.nextFreeCluster → clusterData s'.diskImage c = clusterData s.diskImage c) ∧
    ∀ i < f.clusters, clusterData s'.diskImage (s.nextFreeCluster + i) = chunk f.fileData i := by
  obtain ⟨name, first, s1, dirData, h1, h2, h3, rfl⟩ := addFileToDirectory_root_eq_ok h
  obtain ⟨himg, -, -⟩ := allocateFileClusters_first h2
  rw [himg] at h3 ⊢
  have hroot : rootOffset + bytesPerCluster ≤ s.diskImage.length := by
    unfold Fits at hfit
    rw [rootOffset_eq, bytesPerCluster, sectorSize, sectorsPerCluster]
    omega
  -- the data loop, and what it leaves in place
  obtain ⟨hlen1, hold1, hnew1⟩ :
      (writeFileData s.diskImage f.fileData first f.clusters).length = s.diskImage.length ∧
      (∀ c, 3 ≤ c → c < s.nextFreeCluster →
        clusterData (writeFileData s.diskImage f.fileData first f.clusters) c =
          clusterData s.diskImage c) ∧
      ∀ i < f.clusters, clusterData (writeFileData s.diskImage f.fileData first f.clusters)
        (s.nextFreeCluster + i) = chunk f.fileData i := by
    rcases (allocateFileClusters_eq_ok clustersNeeded_pos_iff.mpr).mp h2 with
      ⟨h0, rfl, -⟩ | ⟨-, -, rfl, -⟩
    · have hn : f.clusters = 0 := by
        simp only [FileArg.clusters, clustersNeeded, h0, bytesPerCluster, sectorSize,
          sectorsPerCluster]
      rw [hn]
      exact ⟨rfl, fun _ _ _ => rfl, fun i hi => absurd hi (Nat.not_lt_zero i)⟩
    · refine ⟨length_writeFileData hfit, fun c hc3 hc => ?_, fun i hi => ?_⟩
      · rw [clusterData, clusterToSector_mul, slice_writeFileData_of_disjoint hfit (.inl (by
          rw [bytesPerCluster, sectorSize, sectorsPerCluster]; omega)), ← clusterToSector_mul]
        rfl
      · rw [clusterData, clusterToSector_mul]
        exact slice_writeFileData_self hfit hi
  -- the directory write
  have hroot1 : rootOffset + bytesPerCluster ≤
      (writeFileData s.diskImage f.fileData first f.clusters).length := hlen1 ▸ hroot
  have hdir : dirData.length = bytesPerCluster := by
    rw [length_insertEntry (by rw [rootDir, length_slice _ _ hroot1]; rfl)
      (fun e he => (entry_fields (length_of_shortName_eq_ok h1) he).1) h3, rootDir,
      length_slice _ _ hroot1]
  have hcl : ∀ c, 3 ≤ c → clusterData (setSlice (writeFileData s.diskImage f.fileData first
      f.clusters) rootOffset (rootOffset + bytesPerCluster) dirData) c =
      clusterData (writeFileData s.diskImage f.fileData first f.clusters) c := by
    intro c hc
    rw [clusterData, clusterData, slice_setSlice_of_ge (by rw [hdir]) hroot1 (by
      rw [rootOffset_eq, clusterToSector_mul, bytesPerCluster, sectorSize, sectorsPerCluster]; omega)]
  refine ⟨(length_setSlice (by rw [hdir]) hroot1).trans hlen1, fun c hc3 hc => ?_, fun i hi => ?_⟩
  · rw [hcl c hc3, hold1 c hc3 hc]
  · rw [hcl _ (by omega), hnew1 i hi]

/-- Over a run whose clusters all lie inside the image, each file's clusters hold its chunks,
and the clusters allocated before the run are as they were. -/
theorem image_addFiles {files : List FileArg} {s s' : Fat32DiskBuilder}
    (hnext : 3 ≤ s.nextFreeCluster)
    (hfit : Fits s.diskImage s.nextFreeCluster (totalClusters files))
    (h : addFiles files s = .ok s') :
    s'.diskImage.length = s.diskImage.length ∧
    (∀ c, 3 ≤ c → c < s.nextFreeCluster → clusterData s'.diskImage c = clusterData s.diskImage c) ∧
    ∀ j (hj : j < files.length), ∀ i < files[j].clusters,
      clusterData s'.diskImage (chainStart s.nextFreeCluster files j + i) =
        chunk files[j].fileData i := by
  induction files generalizing s with
  | nil => cases h; exact ⟨rfl, fun _ _ _ => rfl, fun j hj => absurd hj (Nat.not_lt_zero j)⟩
  | cons f fs ih =>
    obtain ⟨s1, h1, h2⟩ := addFiles_cons_eq_ok h
    have hnext1 : s1.nextFreeCluster = s.nextFreeCluster + f.clusters := (fat_addFileToDirectory h1).2.1
    unfold Fits at hfit
    rw [totalClusters_cons] at hfit
    obtain ⟨hl1, hold1, hnew1⟩ := image_addFileToDirectory hnext (by unfold Fits; omega) h1
    obtain ⟨hl, hold, hnew⟩ := ih (by omega) (by unfold Fits; rw [hl1, hnext1]; omega) h2
    refine ⟨hl.trans hl1, fun c hc3 hc => ?_, fun j hj i hi => ?_⟩
    · rw [hold c hc3 (by omega), hold1 c hc3 hc]
    · cases j with
      | zero =>
        rw [chainStart_zero, hold _ (by omega) (by rw [hnext1]; exact Nat.add_lt_add_left hi _)]
        exact hnew1 i hi
      | succ j =>
        rw [chainStart_cons_succ, ← hnext1]
        exact hnew j (Nat.lt_of_succ_lt_succ hj) i hi

/-! ## The finished image -/

/-- `fat_data` of the FAT a run leaves: its 32768 entries packed, with no padding. -/
theorem fatData_fatAfter (files : List FileArg) :
    fatData (fatAfter initialFat 3 files) = .ok ((fatAfter initialFat 3 files).flatMap (leBytes 4)) ∧
    ((fatAfter initialFat 3 files).flatMap (leBytes 4)).length = 131072 := by
  have hlen : (fatAfter initialFat 3 files).length = 32768 := by rw [length_fatAfter, length_initialFat]
  have hlt : ∀ e ∈ fatAfter initialFat 3 files, e < 2 ^ 32 :=
    fatAfter_lt files (fun e he => initialFat_lt he) (by rw [length_initialFat]; decide)
  rw [fatData_eq hlt, hlen, length_flatMap_leBytes, hlen]
  exact ⟨congrArg Except.ok (List.append_nil _), rfl⟩

/-- A build that returns normally: the initialisation sequence in closed form, the run of calls,
and `write_fat_tables` writing two copies of the packed FAT the run leaves. -/
theorem buildDisk_eq_ok {sizeMb : Nat} {files : List FileArg} {img : List UInt8}
    (h : buildDisk sizeMb files = .ok img) :
    sizeMb < 2 ^ 21 ∧ ∃ s, addFiles files ⟨sizeMb, initialImage sizeMb, initialFat, 3⟩ = .ok s ∧
      img = writeFatCopies s.diskImage ((fatAfter initialFat 3 files).flatMap (leBytes 4)) := by
  obtain ⟨s0, h0, h⟩ := bind_eq_ok.mp h
  have hsize := initialState_eq_ok h0
  rw [initialState_eq hsize, Except.ok.injEq] at h0
  subst h0
  obtain ⟨s, hs, h⟩ := bind_eq_ok.mp h
  obtain ⟨s', hs', h⟩ := bind_eq_ok.mp h
  obtain ⟨data, hd, hs'⟩ := bind_eq_ok.mp hs'
  cases hs'
  cases h
  rw [(addFiles_fat hs).1, (fatData_fatAfter files).1, Except.ok.injEq] at hd
  exact ⟨hsize, s, hs, by rw [← hd]; rfl⟩

/-- The converse: a run of calls from the initial state that returns normally makes a build that
returns normally, for sizes whose total sector count fits the boot sector. -/
theorem buildDisk_eq {sizeMb : Nat} {files : List FileArg} {s : Fat32DiskBuilder}
    (hsize : sizeMb < 2 ^ 21) (h : addFiles files ⟨sizeMb, initialImage sizeMb, initialFat, 3⟩ = .ok s) :
    buildDisk sizeMb files =
      .ok (writeFatCopies s.diskImage ((fatAfter initialFat 3 files).flatMap (leBytes 4))) := by
  have hfat : s.fatTable = fatAfter initialFat 3 files := (addFiles_fat h).1
  rw [buildDisk, initialState_eq hsize, ok_bind, h, ok_bind]
  show (do let data ← fatData s.fatTable; _) >>= _ = _
  rw [hfat, (fatData_fatAfter files).1]
  rfl

/-- A build with valid arguments returns normally when its size fits the boot sector, the root
cluster has a slot for every call after the volume label, and the FAT has room for all the
clusters. -/
theorem buildDisk_ok {sizeMb : Nat} {files : List FileArg} (h1 : 1 ≤ sizeMb)
    (hsize : sizeMb < 2 ^ 21) (hk : files.length ≤ 127) (hfiles : ∀ f ∈ files, f.Valid)
    (hroom : 3 + totalClusters files ≤ 32768) :
    ∃ img, buildDisk sizeMb files = .ok img := by
  obtain ⟨s, hs⟩ := @addFiles_ok [volumeEntry] files ⟨sizeMb, initialImage sizeMb, initialFat, 3⟩
    (rootLayout_initialImage h1 hsize) (le_refl 3) (by rw [List.length_singleton]; omega) hfiles
    (by show 3 + _ ≤ initialFat.length; rw [length_initialFat]; exact hroom)
    (by show initialFat.length < _; rw [length_initialFat]; decide)
  exact ⟨_, buildDisk_eq hsize hs⟩

/-- Whatever the files, a finished image of at least 1 MB ends at the end of the volume or at the
end of the last cluster allocated, whichever comes later. -/
theorem length_buildDisk {sizeMb : Nat} {files : List FileArg} {img : List UInt8}
    (h1 : 1 ≤ sizeMb) (h : buildDisk sizeMb files = .ok img) :
    img.length = max (sizeBytes sizeMb) (512 * (528 + 8 * (3 + totalClusters files))) := by
  obtain ⟨hsize, s, hrun, rfl⟩ := buildDisk_eq_ok h
  have hlen0 := length_initialImage h1 hsize
  have hr := root_end_le_sizeBytes h1
  rw [rootOffset_eq, bytesPerCluster, sectorSize, sectorsPerCluster, sizeBytes] at hr
  have hl := @length_addFiles files ⟨sizeMb, initialImage sizeMb, initialFat, 3⟩ s
    (by rw [hlen0]; exact root_end_le_sizeBytes h1) (by show 512 * (528 + 8 * 3) ≤ (initialImage sizeMb).length; rw [hlen0, sizeBytes]; omega) hrun
  simp only [hlen0] at hl
  have hX : 278528 ≤ s.diskImage.length := by rw [hl, sizeBytes]; omega
  rw [(writeFatCopies_slices hX (fatData_fatAfter files).2).1, hl]

/-- A build allocates only clusters its FAT has. -/
theorem totalClusters_le_of_buildDisk {sizeMb : Nat} {files : List FileArg} {img : List UInt8}
    (h : buildDisk sizeMb files = .ok img) : 3 + totalClusters files ≤ 32768 := by
  obtain ⟨-, s, hs, -⟩ := buildDisk_eq_ok h
  have hle := addFiles_next_le hs (by simp)
  rw [(addFiles_fat hs).1, (addFiles_fat hs).2.1] at hle
  simpa using hle

/-- The sectors before the data area of a finished image: the boot sector, the FSInfo sector,
zeros up to the first FAT copy, and two copies of the FAT `fat`, packed. -/
structure Headers (sizeMb : Nat) (fat : List Nat) (img : List UInt8) : Prop where
  boot : slice img 0 512 = bootSectorBytes (totalSectors sizeMb)
  fsinfo : slice img 512 1024 = fsinfoBytes
  reserved : slice img 1024 16384 = zeros 15360
  fat1 : slice img 16384 147456 = fat.flatMap (leBytes 4)
  fat2 : slice img 147456 278528 = fat.flatMap (leBytes 4)

/-- Whatever the files, a build of at least 1 MB that returns normally is at least as long as
the volume, and its header sectors hold what the initialisation sequence wrote and two copies
of the final FAT: no call writes below the root cluster. -/
theorem headers_buildDisk {sizeMb : Nat} {files : List FileArg} {img : List UInt8}
    (h1 : 1 ≤ sizeMb) (h : buildDisk sizeMb files = .ok img) :
    sizeBytes sizeMb ≤ img.length ∧ Headers sizeMb (fatAfter initialFat 3 files) img := by
  obtain ⟨hsize, s, hrun, rfl⟩ := buildDisk_eq_ok h
  have hlen0 := length_initialImage h1 hsize
  obtain ⟨hl, ht⟩ := @take_addFiles files ⟨sizeMb, initialImage sizeMb, initialFat, 3⟩ s
    (le_refl 3) (by rw [hlen0]; exact root_end_le_sizeBytes h1) hrun
  have hX : 278528 ≤ s.diskImage.length := by
    have := root_end_le_sizeBytes h1
    rw [rootOffset_eq] at this
    simp only at hl
    omega
  obtain ⟨hwl, hlow, hf1, hf2, -⟩ := writeFatCopies_slices hX (fatData_fatAfter files).2
  obtain ⟨hb, hfs, hz⟩ := initialImage_headers h1 hsize
  have low : ∀ o o', o' ≤ 16384 → slice (writeFatCopies s.diskImage
      ((fatAfter initialFat 3 files).flatMap (leBytes 4))) o o' = slice (initialImage sizeMb) o o' := by
    intro o o' ho
    have hr : o' ≤ rootOffset := by rw [rootOffset_eq]; omega
    rw [hlow o o' ho, ← slice_take hr, ht, slice_take hr]
  exact ⟨by rw [hwl]; simp only at hl; omega,
    ⟨by rw [low 0 512 (by omega), hb], by rw [low 512 1024 (by omega), hfs],
      by rw [low 1024 16384 (le_refl _), hz], hf1, hf2⟩⟩

/-- The FAT a reader finds in the first copy of a finished image, entry by entry. -/
theorem Headers.fatEntry {sizeMb : Nat} {fat : List Nat} {img : List UInt8}
    (hH : Headers sizeMb fat img) (hfat : ∀ e ∈ fat, e < 2 ^ 32) {c : Nat} (hc : c < fat.length)
    (hlen : fat.length = 32768) : some (Fat32Image.fatEntry img builderBpb c) = fat[c]? :=
  unpackFrom_of_slice_flatMap (by rw [hlen]; exact hH.fat1) hfat hc

/-- The reader's root cluster, with the builder's geometry, is the slice the calls write. -/
theorem readCluster_root (img : List UInt8) :
    readCluster img builderBpb builderBpb.rootCluster = rootDir img := by
  rw [readCluster, builderBpb_clusterOffset (by decide), builderBpb_clusterBytes]
  rfl

theorem readCluster_builderBpb (img : List UInt8) {c : Nat} (hc : 2 ≤ c) :
    readCluster img builderBpb c = clusterData img c := by
  rw [readCluster, builderBpb_clusterOffset hc, builderBpb_clusterBytes]
  rfl

/-- The root cluster of a finished image of at least 1 MB holds the volume label, then the
entries of the calls. -/
theorem root_buildDisk {sizeMb : Nat} {files : List FileArg} {img : List UInt8}
    (h1 : 1 ≤ sizeMb) (hnul : ∀ f ∈ files, f.filename.toList.head? ≠ some '\x00')
    (h : buildDisk sizeMb files = .ok img) :
    ∃ es, runEntries 3 files = .ok es ∧ RootLayout (volumeEntry :: es) img := by
  obtain ⟨hsize, s, hrun, rfl⟩ := buildDisk_eq_ok h
  obtain ⟨es, hes, hL⟩ := @rootLayout_addFiles _ files ⟨sizeMb, initialImage sizeMb, initialFat, 3⟩ s
    (rootLayout_initialImage h1 hsize) (le_refl 3) hnul hrun
  have hX : 278528 ≤ s.diskImage.length := by
    have := hL.fits
    rw [rootOffset_eq] at this
    omega
  obtain ⟨hwl, -, -, -, hhigh⟩ := writeFatCopies_slices hX (fatData_fatAfter files).2
  refine ⟨es, hes, hL.live, hL.length_le, by rw [hwl]; exact hL.fits, ?_⟩
  rw [rootDir, hhigh _ _ (by rw [rootOffset_eq]), ← rootDir, hL.root]
  rfl

/-- When the clusters of the calls fit in the volume (`3 + Σ n_j ≤ 2 + D`), they fit in the
image after the initialisation sequence. -/
theorem fits_initialImage {sizeMb : Nat} {files : List FileArg} (h1 : 1 ≤ sizeMb)
    (hsize : sizeMb < 2 ^ 21) (hcap : 3 + totalClusters files ≤ 2 + dataClusters sizeMb) :
    Fits (initialImage sizeMb) 3 (totalClusters files) := by
  unfold Fits
  rw [length_initialImage h1 hsize, sizeBytes]
  rw [dataClusters_eq] at hcap
  omega

/-- A finished image whose clusters fit in the volume is exactly as long as the volume, and each
file's clusters hold its chunks. -/
theorem data_buildDisk {sizeMb : Nat} {files : List FileArg} {img : List UInt8}
    (h1 : 1 ≤ sizeMb) (hcap : 3 + totalClusters files ≤ 2 + dataClusters sizeMb)
    (h : buildDisk sizeMb files = .ok img) :
    img.length = sizeBytes sizeMb ∧ ∀ j (hj : j < files.length), ∀ i < files[j].clusters,
      clusterData img (chainStart 3 files j + i) = chunk files[j].fileData i := by
  obtain ⟨hsize, s, hrun, rfl⟩ := buildDisk_eq_ok h
  have hlen0 := length_initialImage h1 hsize
  obtain ⟨hl, -, hnew⟩ := @image_addFiles files ⟨sizeMb, initialImage sizeMb, initialFat, 3⟩ s
    (le_refl 3) (fits_initialImage h1 hsize hcap) hrun
  simp only at hl hnew
  have hX : 278528 ≤ s.diskImage.length := by
    have := root_end_le_sizeBytes h1
    rw [rootOffset_eq] at this
    omega
  obtain ⟨hwl, -, -, -, hhigh⟩ := writeFatCopies_slices hX (fatData_fatAfter files).2
  refine ⟨by rw [hwl, hl, hlen0], fun j hj i hi => ?_⟩
  have h3 : 3 ≤ chainStart 3 files j := chainStart_zero 3 files ▸ chainStart_mono 3 files (Nat.zero_le j)
  rw [clusterData, hhigh _ _ (by rw [clusterToSector_mul]; omega), ← clusterData, hnew j hj i hi]

end Fat32Image
