import Fat32Image.RootLog

/-!
# The files of the root directory under any order of calls

`rootLog_runCalls` says which entries the root directory lists after a run of the builder's
methods in any order; this module says what a reader gets back through them. A file that a call
adds to the root (`Call.rootFile`: `add_file_to_directory` on the root cluster, or `add_file`)
stays listed, and a reader that follows its chain through the FAT copies of a final
`write_fat_tables` reads back its bytes followed by the zero padding of its last cluster
(`readFile_runCalls`), whatever calls came before it. Two conditions are needed of the calls
after it (`Call.Keeps`): none creates the root directory again, which drops the entry, and none
writes an entry into one of the file's clusters, which overwrites its data. Every allocated
cluster has to lie inside the volume.

The proof rests on one frame per call (`Call.frame`): a call never moves `next_free_cluster`
back, keeps the FAT entries of the allocated clusters past the reserved ones, and, on an image
of whole clusters that holds every cluster allocated, keeps the image's length and the bytes of
every allocated cluster but the directory cluster it writes into. Frames compose
(`Frame.trans`), so a run keeps what each of its calls keeps (`runCalls_frame`).
-/

namespace Fat32Image

open Fat32DiskBuilder

/-! ## What a call adds and where it writes -/

namespace Call

/-- The file a call adds to the root directory: `add_file_to_directory` on the root cluster, or
`add_file` of a file that exists. -/
def rootFile : Call → Option FileArg
  | .addFileToDirectory filename fileData now directoryCluster =>
    if directoryCluster.getD rootCluster = rootCluster then some ⟨filename, fileData, now⟩ else none
  | .addFile localPath (some fileData) diskFilename now =>
    some ⟨diskFilename.getD (basename localPath), fileData, now⟩
  | _ => none

/-- The directory cluster a call writes an entry into. -/
def dirCluster : Call → Option Nat
  | .addFileToDirectory _ _ _ directoryCluster => some (directoryCluster.getD rootCluster)
  | .addFile _ (some _) _ _ => some rootCluster
  | _ => none

/-- A call that keeps a root file whose clusters run from `lo` to `hi - 1`: it does not create
the root directory again, and writes no entry into one of the file's clusters. -/
def Keeps (lo hi : Nat) (c : Call) : Prop :=
  c ≠ .createRootDirectory ∧ ∀ x, lo ≤ x → x < hi → c.dirCluster ≠ some x

theorem run_of_rootFile {c : Call} {f : FileArg} (hf : c.rootFile = some f) (s : Fat32DiskBuilder) :
    c.run s = s.addFileToDirectory f.filename f.fileData f.now none := by
  cases c with
  | addFileToDirectory filename fileData now dc =>
    rw [rootFile] at hf
    split at hf
    · cases hf
      exact addFileToDirectory_getD ‹_›
    · cases hf
  | addFile localPath localData diskFilename now =>
    cases localData with
    | none => cases hf
    | some fileData =>
      cases hf
      rfl
  | _ => cases hf

theorem log_of_rootFile {c : Call} {f : FileArg} (hf : c.rootFile = some f) (l : RootLog) :
    c.log l = l.add f true := by
  cases c with
  | addFileToDirectory filename fileData now dc =>
    rw [rootFile] at hf
    split at hf
    · cases hf
      rw [log, decide_eq_true ‹_›]
    · cases hf
  | addFile localPath localData diskFilename now =>
    cases localData with
    | none => cases hf
    | some fileData =>
      cases hf
      rfl
  | _ => cases hf

end Call

/-! ## The log only grows between two `create_root_directory` calls -/

theorem RootLog.prefix_add {l l' : RootLog} {f : FileArg} {onRoot : Bool}
    (h : l.add f onRoot = .ok l') : l.entries <+: l'.entries := by
  unfold RootLog.add at h
  split at h
  · obtain ⟨e, -, h⟩ := bind_eq_ok.mp h
    cases h
    exact List.prefix_append _ _
  · cases h
    exact List.prefix_refl _

theorem Call.prefix_log {c : Call} {l l' : RootLog} (hc : c ≠ .createRootDirectory)
    (h : c.log l = .ok l') : l.entries <+: l'.entries := by
  cases c with
  | createRootDirectory => exact absurd rfl hc
  | addFileToDirectory => exact RootLog.prefix_add h
  | addFile localPath localData =>
    cases localData with
    | none =>
      cases h
      exact List.prefix_refl _
    | some => exact RootLog.prefix_add h
  | _ =>
    cases h
    exact List.prefix_refl _

theorem prefix_runLog {cs : List Call} {l l' : RootLog} (hc : ∀ c ∈ cs, c ≠ .createRootDirectory)
    (h : runLog cs l = .ok l') : l.entries <+: l'.entries := by
  induction cs generalizing l with
  | nil =>
    cases h
    exact List.prefix_refl _
  | cons c cs ih =>
    obtain ⟨l1, h1, h⟩ := bind_eq_ok.mp h
    exact (Call.prefix_log (hc c (List.mem_cons_self c cs)) h1).trans
      (ih (fun c' h' => hc c' (List.mem_cons_of_mem _ h')) h)

/-! ## Frames -/

/-- What a step from `s` to `s'` keeps, the clusters `written` aside: `next_free_cluster` does
not go back, the FAT entries of the allocated clusters past the reserved ones stay, and on an
image of whole clusters that holds every cluster allocated in `s'`, the image keeps its length
and the bytes of every allocated cluster outside `written`. -/
structure Frame (written : Nat → Prop) (s s' : Fat32DiskBuilder) : Prop where
  next_le : s.nextFreeCluster ≤ s'.nextFreeCluster
  fat : ∀ x, 3 ≤ x → x < s.nextFreeCluster → s'.fatTable[x]? = s.fatTable[x]?
  image : s.diskImage.length % 4096 = 0 →
    512 * (528 + 8 * s'.nextFreeCluster) ≤ s.diskImage.length →
    s'.diskImage.length = s.diskImage.length ∧
      ∀ x, 3 ≤ x → x < s.nextFreeCluster → ¬ written x →
        clusterData s'.diskImage x = clusterData s.diskImage x

theorem Frame.refl (written : Nat → Prop) (s : Fat32DiskBuilder) : Frame written s s :=
  ⟨le_refl _, fun _ _ _ => rfl, fun _ _ => ⟨rfl, fun _ _ _ _ => rfl⟩⟩

theorem Frame.mono {W W' : Nat → Prop} {s s' : Fat32DiskBuilder} (h : Frame W s s')
    (hW : ∀ x, W x → W' x) : Frame W' s s' :=
  ⟨h.next_le, h.fat, fun hal hfit =>
    ⟨(h.image hal hfit).1, fun x h3 hx hw => (h.image hal hfit).2 x h3 hx (hw ∘ hW x)⟩⟩

theorem Frame.trans {W W' : Nat → Prop} {s s1 s' : Fat32DiskBuilder} (h1 : Frame W s s1)
    (h2 : Frame W' s1 s') : Frame (fun x => W x ∨ W' x) s s' where
  next_le := h1.next_le.trans h2.next_le
  fat x h3 hx := (h2.fat x h3 (Nat.lt_of_lt_of_le hx h1.next_le)).trans (h1.fat x h3 hx)
  image hal hfit := by
    obtain ⟨hl1, hd1⟩ := h1.image hal (by have := h2.next_le; omega)
    obtain ⟨hl2, hd2⟩ := h2.image (hl1 ▸ hal) (hl1 ▸ hfit)
    exact ⟨hl2.trans hl1, fun x h3 hx hw => (hd2 x h3 (Nat.lt_of_lt_of_le hx h1.next_le)
      (hw ∘ .inr)).trans (hd1 x h3 hx (hw ∘ .inl))⟩

/-- A write that ends with the root cluster: the boot sector, the FSInfo sector, the root
directory. -/
theorem frame_setSlice_header {W : Nat → Prop} {s : Fat32DiskBuilder} {start stop : Nat}
    {src : List UInt8} (hs : 3 ≤ s.nextFreeCluster) (hsrc : start + src.length = stop)
    (hstop : stop ≤ 282624) : Frame W s { s with diskImage := setSlice s.diskImage start stop src } := by
  refine ⟨le_refl _, fun _ _ _ => rfl, fun _ hfit => ?_⟩
  have hlen : stop ≤ s.diskImage.length := by
    have : 512 * (528 + 8 * s.nextFreeCluster) ≤ s.diskImage.length := hfit
    omega
  refine ⟨length_setSlice hsrc hlen, fun x h3 _ _ => ?_⟩
  rw [clusterData, clusterData, slice_setSlice_of_ge hsrc hlen (by rw [clusterToSector_mul]; omega)]

theorem frame_writeFatCopies {W : Nat → Prop} {s : Fat32DiskBuilder} {d : List UInt8}
    (hs : 3 ≤ s.nextFreeCluster) (hd : d.length = 131072) :
    Frame W s { s with diskImage := writeFatCopies s.diskImage d } := by
  refine ⟨le_refl _, fun _ _ _ => rfl, fun _ hfit => ?_⟩
  have hlen : 278528 ≤ s.diskImage.length := by
    have : 512 * (528 + 8 * s.nextFreeCluster) ≤ s.diskImage.length := hfit
    omega
  obtain ⟨hl, -, -, -, hhigh⟩ := writeFatCopies_slices hlen hd
  exact ⟨hl, fun x _ _ _ => hhigh _ _ (by rw [clusterToSector_mul]; omega)⟩

theorem insertEntry_nil (filename : String) (ws : List Write) :
    insertEntry [] filename ws = .error (.directoryFull ("Directory full, cannot add " ++ filename)) :=
  rfl

/-- `add_file_to_directory` writes its own clusters, past every allocated one, and its directory
cluster. A directory cluster past the end of an image of whole clusters reads as empty, so the
call raises `DirectoryFull` there. -/
theorem frame_addFileToDirectory {s s' : Fat32DiskBuilder} {filename : String}
    {fileData : List UInt8} {now : DateTime} {dc : Option Nat}
    (h : s.addFileToDirectory filename fileData now dc = .ok s') :
    Frame (fun x => dc.getD rootCluster = x) s s' := by
  obtain ⟨hfat, hnext, -⟩ := fat_addFileToDirectory h
  refine ⟨by rw [hnext]; omega, fun x _ hx => by rw [hfat, getElem?_linkChain_of_lt hx],
    fun hal hfit => ?_⟩
  rw [hnext] at hfit
  obtain ⟨name, first, s1, dirData, h1, h2, h3, rfl⟩ := addFileToDirectory_eq_ok h
  obtain ⟨himg, hfirst, hcases⟩ := allocateFileClusters_first (f := ⟨filename, fileData, now⟩) h2
  have hfirst' : first ≤ s.nextFreeCluster := by
    rw [hfirst, FileArg.firstCluster]
    split <;> omega
  have hbpc : bytesPerCluster = 4096 := rfl
  -- the data loop writes past every allocated cluster
  obtain ⟨hlenW, hdataW⟩ : (writeFileData s.diskImage fileData first
      (clustersNeeded fileData.length)).length = s.diskImage.length ∧
      ∀ x, x < s.nextFreeCluster → clusterData (writeFileData s.diskImage fileData first
        (clustersNeeded fileData.length)) x = clusterData s.diskImage x := by
    rcases hcases with hn | hle
    · rw [show clustersNeeded fileData.length = 0 from hn]
      exact ⟨rfl, fun _ _ => rfl⟩
    · have hfits : Fits s.diskImage first (clustersNeeded fileData.length) := by
        unfold Fits
        omega
      refine ⟨length_writeFileData hfits, fun x hx => ?_⟩
      rw [clusterData, clusterData, clusterToSector_mul, hbpc]
      exact slice_writeFileData_of_disjoint hfits (.inl (by omega))
  rw [himg] at h3 ⊢
  -- the directory write: inside the image, or past its end where the slot loop finds no slot
  have hoff := clusterToSector_mul (dc.getD rootCluster)
  by_cases hin : clusterToSector (dc.getD rootCluster) * sectorSize + bytesPerCluster ≤
    s.diskImage.length
  · have hd : (slice (writeFileData s.diskImage fileData first (clustersNeeded fileData.length))
        (clusterToSector (dc.getD rootCluster) * sectorSize)
        (clusterToSector (dc.getD rootCluster) * sectorSize + bytesPerCluster)).length = 4096 :=
      length_slice _ _ (by rw [hlenW]; exact hin)
    have hsrc := length_insertEntry (by rw [hd]) (fun e he =>
      (entry_fields (length_of_shortName_eq_ok h1) he).1) h3
    rw [hd] at hsrc
    refine ⟨(length_setSlice (by rw [hsrc]; rfl) (by rw [hlenW]; exact hin)).trans hlenW,
      fun x _ hx hw => ?_⟩
    show slice (setSlice _ _ _ dirData) _ _ = _
    rw [← hdataW x hx, clusterData, clusterToSector_mul x, hoff, hbpc]
    rcases Nat.lt_or_gt_of_ne (Ne.symm hw) with hlt | hgt
    · exact slice_setSlice_of_le (by omega) (by rw [hlenW]; omega)
    · exact slice_setSlice_of_ge (by rw [hsrc]) (by rw [hlenW]; omega) (by omega)
  · rw [slice_of_length_le (by rw [hlenW]; omega), insertEntry_nil] at h3
    cases h3

/-- What a call keeps, whichever method it calls. -/
theorem Call.frame {c : Call} {s s' : Fat32DiskBuilder} (hs : FatShape s.fatTable s.nextFreeCluster)
    (h : c.run s = .ok s') : Frame (fun x => c.dirCluster = some x) s s' := by
  cases c with
  | createBootSector =>
    obtain ⟨b, hb, h⟩ := bind_eq_ok.mp h
    cases h
    exact frame_setSlice_header hs.three_le (by rw [length_of_bootSector_eq_ok hb]) (by decide)
  | createFsinfo =>
    cases (createFsinfo_eq s).symm.trans h
    exact frame_setSlice_header hs.three_le (by rw [length_fsinfoBytes]) (by decide)
  | initializeFat =>
    obtain ⟨a, b, d, l, hl, h'⟩ := initializeFat_shape hs
    cases h'.symm.trans h
    refine ⟨le_refl _, fun x h3 _ => ?_, fun _ _ => ⟨rfl, fun _ _ _ _ => rfl⟩⟩
    obtain ⟨k, rfl⟩ : ∃ k, x = k + 3 := ⟨x - 3, by omega⟩
    show ((0x0FFFFF00 ||| 0xF8) :: eoc :: eoc :: l)[k + 3]? = s.fatTable[k + 3]?
    rw [hl]
    simp only [List.getElem?_cons_succ]
  | writeFatTables =>
    cases (writeFatTables_eq hs).symm.trans h
    exact frame_writeFatCopies hs.three_le (by rw [length_flatMap_leBytes, hs.length])
  | allocateCluster =>
    obtain ⟨⟨_, s1⟩, h1, h⟩ := bind_eq_ok.mp h
    cases h
    obtain ⟨-, rfl, rfl⟩ := allocateCluster_eq_ok.mp h1
    exact ⟨Nat.le_succ _, fun x _ hx => List.getElem?_set_ne (by omega),
      fun _ _ => ⟨rfl, fun _ _ _ _ => rfl⟩⟩
  | createRootDirectory =>
    cases (createRootDirectory_eq s).symm.trans h
    exact frame_setSlice_header hs.three_le
      (by rw [length_dirOf (by simpa using live_volumeEntry) (by simp)])
      (by rw [rootOffset_eq]; decide)
  | addFileToDirectory => exact (frame_addFileToDirectory h).mono fun _ hx => congrArg some hx
  | addFile localPath localData =>
    cases localData with
    | none =>
      cases h
      exact Frame.refl _ _
    | some => exact (frame_addFileToDirectory h).mono fun _ hx => congrArg some hx

theorem runCalls_frame {cs : List Call} {s s' : Fat32DiskBuilder}
    (hs : FatShape s.fatTable s.nextFreeCluster) (h : runCalls cs s = .ok s') :
    Frame (fun x => ∃ c ∈ cs, c.dirCluster = some x) s s' := by
  induction cs generalizing s with
  | nil =>
    cases h
    exact Frame.refl _ _
  | cons c cs ih =>
    obtain ⟨s1, h1, h⟩ := bind_eq_ok.mp h
    refine ((Call.frame hs h1).trans (ih (hs.run h1) h)).mono fun x hx => ?_
    rcases hx with hx | ⟨c', hc', hx⟩
    · exact ⟨c, List.mem_cons_self c cs, hx⟩
    · exact ⟨c', List.mem_cons_of_mem c hc', hx⟩

/-! ## Reading a root file back -/

/-- A reader gets a non-empty file back from an image whose first FAT copy links the file's
clusters from its entry's first cluster on, and whose clusters hold the file's chunks. -/
theorem readFile_of_chunks {img : List UInt8} {e : DirEntry} {f : FileArg} {first fuel : Nat}
    (hne : 0 < f.fileData.length) (hcl : e.cluster = first) (h3 : 3 ≤ first)
    (hfat : ∀ i < f.clusters, fatEntry img builderBpb (first + i) =
      if first + i + 1 < first + f.clusters then first + i + 1 else eoc)
    (hbound : first + f.clusters ≤ 32768)
    (hdata : ∀ i < f.clusters, clusterData img (first + i) = chunk f.fileData i)
    (hfuel : f.clusters ≤ fuel) :
    readFile img builderBpb fuel e =
      some (f.fileData ++ zeros (f.clusters * bytesPerCluster - f.fileData.length)) := by
  have hn : 0 < f.clusters := clustersNeeded_pos_iff.mpr hne
  have hlinks : ∀ k, k + 1 < f.clusters →
      fatEntry img builderBpb (e.cluster + k) = e.cluster + k + 1 ∧ e.cluster + k + 1 < 0x0FFFFFF8 := by
    intro k hk
    rw [hcl, hfat k (by omega), if_pos (by omega)]
    exact ⟨rfl, by omega⟩
  have hlast : 0x0FFFFFF8 ≤ fatEntry img builderBpb (e.cluster + (f.clusters - 1)) := by
    rw [hcl, hfat _ (by omega), if_neg (by omega)]
    decide
  rw [readFile_of_links (by omega) hn hfuel hlinks hlast, hcl]
  congr 1
  rw [List.map_congr_left fun i hi => by
    rw [readCluster_builderBpb img (by omega), hdata i (List.mem_range.mp hi)]]
  exact flatten_chunks _

/-- Over a run from `Fat32DiskBuilder(size_mb)` whose allocated clusters all lie inside the
volume, the image keeps the volume's size. -/
theorem length_runCalls {sizeMb : Nat} {cs : List Call} {s : Fat32DiskBuilder}
    (h : runCalls cs (init sizeMb) = .ok s)
    (hfit : 512 * (528 + 8 * s.nextFreeCluster) ≤ sizeBytes sizeMb) :
    s.diskImage.length = sizeBytes sizeMb := by
  have hlen0 : (init sizeMb).diskImage.length = sizeBytes sizeMb := length_zeros _
  exact ((runCalls_frame (fatShape_init sizeMb) h).image (by rw [hlen0]; unfold sizeBytes; omega)
    (by rw [hlen0]; exact hfit)).1.trans hlen0

/-- A file that a call adds to the root keeps its clusters allocated, its chain in the FAT table
and its chunks in its clusters over every later run of calls that write no entry into its
clusters, on an image of whole clusters that holds every cluster allocated. -/
theorem chain_runCalls {t s1 s : Fat32DiskBuilder} {f : FileArg} {post : List Call}
    (ht : FatShape t.fatTable t.nextFreeCluster) (hal : t.diskImage.length % 4096 = 0)
    (hfit : 512 * (528 + 8 * s.nextFreeCluster) ≤ t.diskImage.length)
    (hc : t.addFileToDirectory f.filename f.fileData f.now none = .ok s1)
    (hkeep : ∀ c' ∈ post, ∀ x, t.nextFreeCluster ≤ x → x < t.nextFreeCluster + f.clusters →
      c'.dirCluster ≠ some x)
    (h : runCalls post s1 = .ok s) :
    t.nextFreeCluster + f.clusters ≤ s.nextFreeCluster ∧ ∀ i < f.clusters,
      s.fatTable[t.nextFreeCluster + i]? = some (if t.nextFreeCluster + i + 1 <
        t.nextFreeCluster + f.clusters then t.nextFreeCluster + i + 1 else eoc) ∧
      clusterData s.diskImage (t.nextFreeCluster + i) = chunk f.fileData i := by
  obtain ⟨hfat1, hnext1, -⟩ := fat_addFileToDirectory hc
  have hfat1' : s1.fatTable = linkChain t.fatTable t.nextFreeCluster f.clusters := hfat1
  have hnext1' : s1.nextFreeCluster = t.nextFreeCluster + f.clusters := hnext1
  have hs1 := ht.addFileToDirectory hc
  have fPost := runCalls_frame hs1 h
  have hle := fPost.next_le
  obtain ⟨hlen1, -, hnew⟩ := image_addFileToDirectory ht.three_le (by unfold Fits; omega) hc
  obtain ⟨-, hdata⟩ := fPost.image (by rw [hlen1]; exact hal) (by rw [hlen1]; exact hfit)
  have h3 := ht.three_le
  have h32 := hs1.le_length
  refine ⟨by omega, fun i hi => ⟨?_, ?_⟩⟩
  · rw [fPost.fat _ (by omega) (by omega), hfat1',
      getElem?_linkChain_of_mem (by omega) (by omega) (by rw [ht.length]; omega)]
  · rw [hdata _ (by omega) (by omega) fun ⟨c', hc', hd⟩ => hkeep c' hc' _ (by omega) (by omega) hd]
    exact hnew i hi

/-- Over every run from `Fat32DiskBuilder(size_mb)` (at least 1 MB) that returns normally and ends
with `write_fat_tables`, with no file on the root named with a leading NUL and every allocated
cluster inside the volume: the entry of a file that a call adds to the root is listed in the root
cluster, and a reader that follows it gets the file back, followed by the zero padding of its last
cluster, as long as every later call keeps the file. -/
theorem readFile_runCalls {sizeMb : Nat} {pre post : List Call} {c : Call} {f : FileArg}
    {t s : Fat32DiskBuilder} (h1 : 1 ≤ sizeMb) (hf : c.rootFile = some f)
    (hname : ∀ c' ∈ pre ++ c :: post, c'.NameOk)
    (hkeep : ∀ c' ∈ post, c'.Keeps t.nextFreeCluster (t.nextFreeCluster + f.clusters))
    (hcap : s.nextFreeCluster ≤ 2 + dataClusters sizeMb)
    (ht : runCalls pre (init sizeMb) = .ok t)
    (h : runCalls (pre ++ c :: post ++ [.writeFatTables]) (init sizeMb) = .ok s) :
    ∃ e, f.entry (f.firstCluster t.nextFreeCluster) = .ok e ∧
      e ∈ listing (readCluster s.diskImage builderBpb builderBpb.rootCluster) ∧
      ∀ fuel, f.clusters ≤ fuel → readFile s.diskImage builderBpb fuel (decodeEntry e) =
        some (f.fileData ++ zeros (f.clusters * bytesPerCluster - f.fileData.length)) := by
  -- the run: `pre` to `t`, the call to `s1`, `post` to `s2`, then `write_fat_tables`
  obtain ⟨s2, h12, hw⟩ := runCalls_append_eq_ok h
  obtain ⟨t', ht', h2⟩ := runCalls_append_eq_ok h12
  cases ht.symm.trans ht'
  obtain ⟨s1, hc, hpost⟩ := bind_eq_ok.mp h2
  obtain ⟨s3, hw, hs3⟩ := bind_eq_ok.mp hw
  cases hs3
  have hs0 := fatShape_init sizeMb
  have hsT := hs0.runCalls ht
  have hs1 := hsT.run hc
  have hs2 := hs1.runCalls hpost
  -- the root cluster lists the file's entry
  obtain ⟨lT, hlT, hLT, hnT⟩ := runLog_runCalls (l := ⟨[], 3⟩) hs0 (rootLayout_init h1) rfl
    (fun c' h' => hname c' (List.mem_append_left _ h')) ht
  obtain ⟨l1, hl1, hL1, hn1⟩ := Call.log_run hsT hLT hnT
    (hname c (List.mem_append_right _ (List.mem_cons_self c post))) hc
  rw [Call.log_of_rootFile hf, RootLog.add, if_pos rfl, ← hnT] at hl1
  obtain ⟨e, he, hl1⟩ := bind_eq_ok.mp hl1
  cases hl1
  obtain ⟨l2, hl2, hL2, -⟩ := runLog_runCalls hs1 hL1 hn1
    (fun c' h' => hname c' (List.mem_append_right _ (List.mem_cons_of_mem c h'))) hpost
  cases (writeFatTables_eq hs2).symm.trans hw
  refine ⟨e, he, ?_, fun fuel hfuel => ?_⟩
  · have hL := hL2.writeFatCopies (by rw [length_flatMap_leBytes, hs2.length])
    rw [readCluster_root, hL.root, listing_dirOf hL.live hL.length_le]
    exact (prefix_runLog (fun c' h' => (hkeep c' h').1) hl2).subset
      (List.mem_append_right _ (List.mem_singleton_self e))
  -- the file's clusters, and the FAT copy the reader follows
  have hcap2 : 512 * (528 + 8 * s2.nextFreeCluster) ≤ sizeBytes sizeMb := by
    have : s2.nextFreeCluster ≤ 2 + dataClusters sizeMb := hcap
    rw [dataClusters_eq] at this
    unfold sizeBytes
    omega
  have hlenT := length_runCalls ht (le_trans (by have := (runCalls_frame hsT h2).next_le; omega) hcap2)
  rw [Call.run_of_rootFile hf] at hc
  obtain ⟨hle, hchain⟩ := chain_runCalls hsT (by rw [hlenT]; unfold sizeBytes; omega)
    (by rw [hlenT]; exact hcap2) hc (fun c' h' => (hkeep c' h').2) hpost
  obtain ⟨-, -, hcopy, -, hhigh⟩ := writeFatCopies_slices
    (by rw [length_runCalls h12 hcap2]; unfold sizeBytes; omega)
    (by rw [length_flatMap_leBytes, hs2.length])
  obtain ⟨-, -, hcl, -, -⟩ := FileArg.entry_fields he
  by_cases hne : 0 < f.fileData.length
  · rw [FileArg.firstCluster, if_pos hne] at hcl
    have h3 := hsT.three_le
    have h32 := hs2.le_length
    refine readFile_of_chunks hne hcl h3 (fun i hi => ?_) (by omega) (fun i hi => ?_) hfuel
    · have hx := fatEntry_of_copy hcopy hs2 (c := t.nextFreeCluster + i) (by omega)
      rw [(hchain i hi).1] at hx
      exact Option.some.inj hx
    · exact (hhigh _ _ (by rw [clusterToSector_mul]; omega)).trans (hchain i hi).2
  · have hc0 : (decodeEntry e).cluster = 0 := by rw [hcl, FileArg.firstCluster, if_neg hne]
    rw [readFile, if_pos hc0, FileArg.clusters,
      List.eq_nil_of_length_eq_zero (Nat.eq_zero_of_not_pos hne)]
    rfl

/-- The root directory created, one file added to it, and the FAT tables written, on a 1 MB
builder: the file is listed and reads back. -/
theorem readFile_runCalls_one :
    ∃ (f : FileArg) (t s : Fat32DiskBuilder), f = ⟨"A.TXT", [1],
        ⟨2025, 1, 1, 0, 0, 0, by decide, by decide, by decide, by decide, by decide⟩⟩ ∧ 1 ≤ 1 ∧
      (Call.addFileToDirectory f.filename f.fileData f.now none).rootFile = some f ∧
      (∀ c' ∈ [Call.createRootDirectory] ++ Call.addFileToDirectory f.filename f.fileData f.now none
        :: [], c'.NameOk) ∧
      (∀ c' ∈ ([] : List Call), c'.Keeps t.nextFreeCluster (t.nextFreeCluster + f.clusters)) ∧
      s.nextFreeCluster ≤ 2 + dataClusters 1 ∧ runCalls [.createRootDirectory] (init 1) = .ok t ∧
      runCalls ([.createRootDirectory] ++ Call.addFileToDirectory f.filename f.fileData f.now none
        :: [] ++ [.writeFatTables]) (init 1) = .ok s ∧
      ∃ e, f.entry (f.firstCluster t.nextFreeCluster) = .ok e ∧
        e ∈ listing (readCluster s.diskImage builderBpb builderBpb.rootCluster) ∧
        ∀ fuel, f.clusters ≤ fuel → readFile s.diskImage builderBpb fuel (decodeEntry e) =
          some (f.fileData ++ zeros (f.clusters * bytesPerCluster - f.fileData.length)) := by
  let f : FileArg := ⟨"A.TXT", [1],
    ⟨2025, 1, 1, 0, 0, 0, by decide, by decide, by decide, by decide, by decide⟩⟩
  have hf : f.Valid := ⟨(shortName_ok_iff _).mpr (by decide), by decide, by decide, by decide⟩
  have h0 := createRootDirectory_eq (init 1)
  have hfits : rootOffset + bytesPerCluster ≤ (init 1).diskImage.length := by
    rw [show (init 1).diskImage = zeros (sizeBytes 1) from rfl, length_zeros]
    exact root_end_le_sizeBytes (le_refl 1)
  have hL : RootLayout [volumeEntry] (setSlice (init 1).diskImage rootOffset
      (rootOffset + bytesPerCluster) (dirOf [volumeEntry])) :=
    rootLayout_setSlice hfits (by simpa using live_volumeEntry) (by simp)
  obtain ⟨s1, h1⟩ := addFileToDirectory_root_ok (f := f) (s := ⟨(init 1).sizeMb, setSlice
      (init 1).diskImage rootOffset (rootOffset + bytesPerCluster) (dirOf [volumeEntry]),
      (init 1).fatTable, (init 1).nextFreeCluster⟩) hL (le_refl 3) (by decide) hf
    (by show 3 + clustersNeeded 1 ≤ (List.replicate 32768 0).length; rw [List.length_replicate]; decide)
    (by show (List.replicate 32768 0).length < 2 ^ 32; rw [List.length_replicate]; decide)
  have hs1 := ((fatShape_init 1).run (c := .createRootDirectory) h0).run
    (c := .addFileToDirectory f.filename f.fileData f.now none) h1
  have ht : runCalls [.createRootDirectory] (init 1) = _ := runCalls_cons_of_ok h0 rfl
  have h : runCalls ([.createRootDirectory] ++ Call.addFileToDirectory f.filename f.fileData f.now
      none :: [] ++ [.writeFatTables]) (init 1) = _ :=
    runCalls_cons_of_ok h0 (runCalls_cons_of_ok h1 (runCalls_cons_of_ok (writeFatTables_eq hs1) rfl))
  have hcap : s1.nextFreeCluster ≤ 2 + dataClusters 1 := by
    rw [(fat_addFileToDirectory h1).2.1, dataClusters_eq]
    decide
  have hname : ∀ c' ∈ [Call.createRootDirectory] ++ Call.addFileToDirectory f.filename f.fileData
      f.now none :: [], c'.NameOk := by
    intro c hc
    simp only [List.singleton_append, List.mem_cons, List.not_mem_nil, or_false] at hc
    rcases hc with rfl | rfl
    · trivial
    · exact fun _ => by decide
  have hkeep : ∀ lo hi, ∀ c' ∈ ([] : List Call), c'.Keeps lo hi :=
    fun _ _ _ h => absurd h (List.not_mem_nil _)
  have hroot : (Call.addFileToDirectory f.filename f.fileData f.now none).rootFile = some f := rfl
  refine ⟨f, _, _, rfl, le_refl 1, hroot, hname, hkeep _ _, ?_, ht, h,
    readFile_runCalls (le_refl 1) hroot hname (hkeep _ _) ?_ ht h⟩ <;> exact hcap

end Fat32Image
