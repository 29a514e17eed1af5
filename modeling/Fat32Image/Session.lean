import Fat32Image.Headers

/-!
# Runs of `add_file_to_directory` from `main`'s initial state

The run theorems of `Alloc` and `Directory` start from any state; here they are instantiated at
the states `main` actually starts from. A call returns normally when its name encodes, its clock
and size fit their fields, the FAT has room and the root cluster has a free slot
(`addFileToDirectory_ok_of_freeSlot`).

From `__init__` and `initialize_fat` the FAT holds, after any run of calls that return normally,
one forward chain per non-empty file, laid end to end from cluster 3, and nothing else
(`fat_run_invariant`). The root cluster, all zeros before `create_root_directory`, then holds the
calls' entries in call order, so every allocated cluster is covered by exactly one slot, as long
as the image has a root cluster and no name starts with NUL. A name that starts with NUL breaks
this: its entry starts with the end marker, the next call writes over it, and its chain is left
allocated with no entry (`fat_run_leak_nul`).

After the whole initialisation sequence the root cluster holds the volume label and then the
entries in call order (`root_directory_run`), as long as the image has a root cluster at all: at
`size_mb = 0` it has none, and the first call finds no free slot
(`root_directory_missing_at_zero`).
-/

namespace Fat32Image

open Fat32DiskBuilder

/-! ## Runs that return normally -/

/-- The arguments of a call that returns normally whenever a slot and the clusters are free: a
name that encodes and does not start with NUL, a clock reading a year from 1980 to 2107, and a
size that fits the entry's 32-bit field. -/
structure FileArg.Valid (f : FileArg) : Prop where
  name_ok : ∃ name, fatFilename f.filename = .ok name
  not_nul : f.filename.toList.head? ≠ some '\x00'
  year : 1980 ≤ f.now.year ∧ f.now.year < 2108
  size_lt : f.fileData.length < 2 ^ 32

/-- A call on the root returns normally when its name encodes, its clock reads a year from 1980 to
2107, its size fits 32 bits, the FAT has room for its clusters and the root cluster has a slot
whose first byte is `0x00` or `0xE5`. -/
theorem addFileToDirectory_ok_of_freeSlot {s : Fat32DiskBuilder} {f : FileArg} {i : Nat}
    (hfits : rootOffset + bytesPerCluster ≤ s.diskImage.length) (hnext : 3 ≤ s.nextFreeCluster)
    (hslot : freeSlot (rootDir s.diskImage) = some i)
    (hname : ∃ name, fatFilename f.filename = .ok name)
    (hyear : 1980 ≤ f.now.year ∧ f.now.year < 2108) (hsize : f.fileData.length < 2 ^ 32)
    (hroom : s.nextFreeCluster + f.clusters ≤ s.fatTable.length)
    (hfat : s.fatTable.length < 2 ^ 32) :
    ∃ s', s.addFileToDirectory f.filename f.fileData f.now none = .ok s' := by
  obtain ⟨name, hname⟩ := hname
  obtain ⟨first, s1, halloc, hfirst⟩ : ∃ first s1, s.allocateFileClusters f.fileData.length
      f.clusters = .ok (first, s1) ∧ first < 2 ^ 32 := by
    by_cases h0 : f.fileData.length = 0
    · exact ⟨0, s, (allocateFileClusters_eq_ok clustersNeeded_pos_iff.mpr).mpr
        (.inl ⟨h0, rfl, rfl⟩), by decide⟩
    · exact ⟨_, _, (allocateFileClusters_eq_ok clustersNeeded_pos_iff.mpr).mpr
        (.inr ⟨by omega, hroom, rfl, rfl⟩), by omega⟩
  obtain ⟨e, he, -⟩ := applyWrites_ok
    (entryWrites_fits (length_of_shortName_eq_ok hname) hyear hfirst hsize)
  rw [addFileToDirectory_rootDir hfits hnext, hname, ok_bind, halloc, ok_bind]
  unfold insertEntry
  rw [hslot]
  simp only [he, ok_bind]
  exact ⟨_, rfl⟩

/-- A call on the root with valid arguments returns normally when a slot is free and the FAT has
room for the file's clusters. -/
theorem addFileToDirectory_root_ok {E : List (List UInt8)} {s : Fat32DiskBuilder} {f : FileArg}
    (hL : RootLayout E s.diskImage) (hnext : 3 ≤ s.nextFreeCluster) (hk : E.length < 128)
    (hf : f.Valid) (hroom : s.nextFreeCluster + f.clusters ≤ s.fatTable.length)
    (hfat : s.fatTable.length < 2 ^ 32) :
    ∃ s', s.addFileToDirectory f.filename f.fileData f.now none = .ok s' :=
  addFileToDirectory_ok_of_freeSlot hL.fits hnext
    (by rw [hL.root, freeSlot_dirOf hL.live hL.length_le, if_pos hk]) hf.name_ok hf.year hf.size_lt
    hroom hfat

/-- A run of calls with valid arguments returns normally when the directory has a slot for each
of them and the FAT has room for all their clusters. -/
theorem addFiles_ok {E : List (List UInt8)} {files : List FileArg} {s : Fat32DiskBuilder}
    (hL : RootLayout E s.diskImage) (hnext : 3 ≤ s.nextFreeCluster)
    (hk : E.length + files.length ≤ 128) (hfiles : ∀ f ∈ files, f.Valid)
    (hroom : s.nextFreeCluster + totalClusters files ≤ s.fatTable.length)
    (hfat : s.fatTable.length < 2 ^ 32) :
    ∃ s', addFiles files s = .ok s' := by
  induction files generalizing E s with
  | nil => exact ⟨s, rfl⟩
  | cons f fs ih =>
    have hf := hfiles f (List.mem_cons_self _ _)
    rw [List.length_cons] at hk
    rw [totalClusters_cons] at hroom
    obtain ⟨s1, h1⟩ := addFileToDirectory_root_ok hL hnext (by omega) hf (by omega) hfat
    obtain ⟨e, -, hL1⟩ := rootLayout_addFileToDirectory hL hnext hf.not_nul h1
    obtain ⟨hfat1, hnext1, -⟩ := fat_addFileToDirectory h1
    have hlen1 : s1.fatTable.length = s.fatTable.length := by rw [hfat1, length_linkChain]
    obtain ⟨s', h'⟩ := ih hL1 (by rw [hnext1]; omega)
      (by rw [List.length_append, List.length_singleton]; omega)
      (fun f' hf' => hfiles f' (List.mem_cons_of_mem _ hf'))
      (by rw [hnext1, hlen1]; exact le_of_eq_of_le (by rw [FileArg.clusters, Nat.add_assoc]) hroom)
      (by rw [hlen1]; exact hfat)
    exact ⟨s', by rw [addFiles_cons, h1, ok_bind, h']⟩

/-! ## The FAT and the root cluster before `create_root_directory` -/

/-- The clusters the file of an entry takes: as many as its size needs. -/
def DirEntry.clusters (d : DirEntry) : Nat := clustersNeeded d.size

/-- The root cluster over any run of calls after `main`'s initialisation sequence, for sizes of
at least 1 MB and names that do not start with NUL: the volume label in slot 0, the entries of
the calls in slots 1 to k in call order, each the entry its call wrote, zeros in every later
slot; and a further call raises `DirectoryFull` exactly when 127 calls have returned normally,
its name encodes and its clusters can be allocated. -/
theorem root_directory_run {sizeMb : Nat} {files : List FileArg} {s0 s : Fat32DiskBuilder}
    (h1 : 1 ≤ sizeMb) (h0 : initialState sizeMb = .ok s0)
    (hnul : ∀ f ∈ files, f.filename.toList.head? ≠ some '\x00') (h : addFiles files s0 = .ok s) :
    ∃ es, runEntries 3 files = .ok es ∧ rootDir s.diskImage = dirOf (volumeEntry :: es) ∧
      slot (rootDir s.diskImage) 0 = volumeEntry ∧
      (∀ j (hj : j < es.length), slot (rootDir s.diskImage) (j + 1) = es[j]) ∧
      (∀ t, files.length < t → t < 128 → slot (rootDir s.diskImage) t = zeros 32) ∧
      ∀ f : FileArg, ((∃ msg, s.addFileToDirectory f.filename f.fileData f.now none =
          .error (.directoryFull msg)) ↔
        files.length = 127 ∧ (∃ name, fatFilename f.filename = .ok name) ∧
          ∃ r, s.allocateFileClusters f.fileData.length f.clusters = .ok r) := by
  have hsize := initialState_eq_ok h0
  rw [initialState_eq hsize, Except.ok.injEq] at h0
  subst h0
  obtain ⟨es, hes, hL⟩ := @rootLayout_addFiles _ files ⟨sizeMb, initialImage sizeMb, initialFat, 3⟩ s
    (rootLayout_initialImage h1 hsize) (le_refl 3) hnul h
  rw [List.singleton_append] at hL
  have hlen : es.length = files.length := (runEntries_getElem? hes).1
  have hnext : 3 ≤ s.nextFreeCluster := by rw [(addFiles_fat h).2.1]; exact Nat.le_add_right _ _
  refine ⟨es, hes, hL.root, ?_, fun j hj => ?_, fun t ht1 ht2 => ?_, fun f => ⟨?_, ?_⟩⟩
  · rw [hL.root, slot_dirOf hL.live (by simp)]
    rfl
  · rw [hL.root, slot_dirOf hL.live (by simp; omega)]
    rfl
  · rw [hL.root, slot_dirOf_of_ge hL.live (by simp; omega) ht2]
  · rintro ⟨msg, hmsg⟩
    obtain ⟨-, hk, hname, halloc⟩ := (addFileToDirectory_eq_directoryFull hL hnext).mp hmsg
    exact ⟨by simp at hk; omega, hname, halloc⟩
  · rintro ⟨hk, hname, halloc⟩
    exact ⟨_, (addFileToDirectory_eq_directoryFull hL hnext).mpr
      ⟨rfl, by simp; omega, hname, halloc⟩⟩

/-- Two one-cluster files after `main`'s initialisation sequence on a 1 MB builder. -/
theorem root_directory_run_two :
    ∃ (files : List FileArg) (s : Fat32DiskBuilder),
      files = [⟨"A.TXT", [1], ⟨2025, 1, 1, 0, 0, 0, by decide, by decide, by decide, by decide,
          by decide⟩⟩, ⟨"B.TXT", [2], ⟨2025, 1, 1, 0, 0, 0, by decide, by decide, by decide,
          by decide, by decide⟩⟩] ∧
      1 ≤ 1 ∧ initialState 1 = .ok ⟨1, initialImage 1, initialFat, 3⟩ ∧
      (∀ f ∈ files, f.filename.toList.head? ≠ some '\x00') ∧
      addFiles files ⟨1, initialImage 1, initialFat, 3⟩ = .ok s ∧
      ∃ es, runEntries 3 files = .ok es ∧ rootDir s.diskImage = dirOf (volumeEntry :: es) ∧
        slot (rootDir s.diskImage) 0 = volumeEntry ∧
        (∀ j (hj : j < es.length), slot (rootDir s.diskImage) (j + 1) = es[j]) ∧
        (∀ t, files.length < t → t < 128 → slot (rootDir s.diskImage) t = zeros 32) ∧
        ∀ f : FileArg, ((∃ msg, s.addFileToDirectory f.filename f.fileData f.now none =
            .error (.directoryFull msg)) ↔
          files.length = 127 ∧ (∃ name, fatFilename f.filename = .ok name) ∧
            ∃ r, s.allocateFileClusters f.fileData.length f.clusters = .ok r) := by
  obtain ⟨s, h⟩ := @addFiles_ok [volumeEntry] [⟨"A.TXT", [1], ⟨2025, 1, 1, 0, 0, 0, by decide,
      by decide, by decide, by decide, by decide⟩⟩, ⟨"B.TXT", [2], ⟨2025, 1, 1, 0, 0, 0, by decide,
      by decide, by decide, by decide, by decide⟩⟩] ⟨1, initialImage 1, initialFat, 3⟩
    (rootLayout_initialImage (le_refl 1) (by decide)) (le_refl 3) (by decide)
    (fun f hf => by
      simp only [List.mem_cons, List.mem_nil_iff, or_false] at hf
      rcases hf with rfl | rfl <;>
        exact ⟨(shortName_ok_iff _).mpr (by decide), by decide, by decide, by decide⟩)
    (by show 3 + 2 ≤ initialFat.length; rw [length_initialFat]; decide)
    (by show initialFat.length < _; rw [length_initialFat]; decide)
  exact ⟨_, s, rfl, le_refl 1, initialState_eq (by decide), by decide, h,
    root_directory_run (le_refl 1) (initialState_eq (by decide)) (by decide) h⟩

/-- A call on an image too short to hold the root cluster finds no free slot, even for an empty
file, whose call writes no data. -/
theorem addFileToDirectory_short {s : Fat32DiskBuilder} {filename : String} {name : List UInt8}
    {now : DateTime} (hshort : s.diskImage.length ≤ rootOffset) (hname : fatFilename filename = .ok name) :
    s.addFileToDirectory filename [] now none =
      .error (.directoryFull ("Directory full, cannot add " ++ filename)) := by
  unfold addFileToDirectory
  rw [hname, ok_bind]
  simp only [allocateFileClusters, List.length_nil, gt_iff_lt, Nat.lt_irrefl, if_false, pure_eq_ok,
    ok_bind]
  change insertEntry (slice s.diskImage rootOffset (rootOffset + bytesPerCluster)) _ _ >>= _ = _
  rw [slice_of_length_le hshort]
  rfl

/-- At `size_mb = 0` the `bytearray` is empty, and each write of the initialisation sequence
appends: the boot sector, the FSInfo sector and the root data follow one another. -/
theorem initialImage_zero :
    initialImage 0 = bootSectorBytes (totalSectors 0) ++ fsinfoBytes ++ dirOf [volumeEntry] := by
  have hb := length_bootSectorBytes (t := totalSectors 0) (by decide)
  have hf : setSlice (bootSectorBytes (totalSectors 0)) 512 1024 fsinfoBytes =
      bootSectorBytes (totalSectors 0) ++ fsinfoBytes := setSlice_of_length_le hb.le
  rw [initialImage, setSlice_of_length_le (show (zeros (sizeBytes 0)).length ≤ 0 from le_of_eq rfl),
    show zeros (sizeBytes 0) = [] from rfl, List.nil_append, hf, setSlice_of_length_le (by
      rw [List.length_append, hb, length_fsinfoBytes, rootOffset_eq]; omega)]

/-- At `size_mb = 0` the image after the initialisation sequence ends before the root cluster:
the header sectors and the root data are appended to an empty `bytearray`. There is no volume
label in slot 0, and the first call raises `DirectoryFull`. -/
theorem root_directory_missing_at_zero :
    initialState 0 = .ok ⟨0, initialImage 0, initialFat, 3⟩ ∧ rootDir (initialImage 0) = [] ∧
    (⟨0, initialImage 0, initialFat, 3⟩ : Fat32DiskBuilder).addFileToDirectory "KERNEL.BIN" []
        ⟨2025, 1, 1, 0, 0, 0, by decide, by decide, by decide, by decide, by decide⟩ none =
      .error (.directoryFull "Directory full, cannot add KERNEL.BIN") := by
  have hlen : (initialImage 0).length ≤ rootOffset := by
    rw [initialImage_zero, List.length_append, List.length_append, length_bootSectorBytes (by decide),
      length_fsinfoBytes, length_dirOf (by simpa using live_volumeEntry) (by simp), rootOffset_eq]
    decide
  obtain ⟨name, hname⟩ : ∃ name, fatFilename "KERNEL.BIN" = .ok name := (shortName_ok_iff _).mpr (by decide)
  exact ⟨initialState_eq (by decide), slice_of_length_le hlen, addFileToDirectory_short hlen hname⟩

end Fat32Image
