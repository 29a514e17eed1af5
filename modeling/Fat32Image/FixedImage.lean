import Fat32Image.Fixed
import Fat32Image.Directory

/-!
# The image of `create_disk_fixed.py`

Every sector and cluster the tool writes is built by a run of writes over zeros, so each is
given here in closed form, with the fields a reader decodes from it: the boot sector and its
geometry (`readBpb_bootBytes`), the FAT entry by entry (`fixedFat`), and the directory
clusters slot by slot. `main` writes them front to back; `main_eq` gives its output as the
fixed head of 196608 bytes (sectors 0 to 383), the ELF file padded to whole clusters, and the
zero fill. The round trip `fixed_round_trip` then reads the image the way a FAT32 driver does.

The FAT has `160 * 512 / 4 = 20480` entries, so `create_fat` raises `struct.error` for an ELF
file of more than 20474 clusters; the volume has 8148 data clusters, so an ELF file of more
than 8144 clusters (clusters 6 and up) runs past the end of the volume, and the file grows.
-/

namespace Fat32Image

namespace CreateDiskFixed

/-! ## Sectors 0 and 1 -/

theorem bootSectorWrites_fits : ∀ w ∈ bootSectorWrites, w.Fits (zeros 512).length := by
  rw [length_zeros]
  decide

theorem bootSectorWrites_disjoint : bootSectorWrites.Pairwise Write.Disjoint := by
  decide

/-- The boot sector `create_boot_sector` builds. -/
def bootBytes : List UInt8 := writeAll (zeros 512) bootSectorWrites

theorem createBootSector_eq : createBootSector = .ok bootBytes :=
  (applyWrites_eq_writeAll bootSectorWrites_fits).1

theorem length_bootBytes : bootBytes.length = 512 :=
  (applyWrites_eq_writeAll bootSectorWrites_fits).2.trans (length_zeros 512)

theorem bootBytes_field {size offset value : Nat}
    (hw : Write.pack size offset value ∈ bootSectorWrites) :
    unpackFrom size bootBytes offset = value :=
  unpackFrom_writeAll bootSectorWrites_fits bootSectorWrites_disjoint hw

/-- The geometry `create_boot_sector` records: 512-byte sectors, 8 sectors a cluster, 32
reserved sectors, two FATs of 160 sectors, the root at cluster 2. -/
def fixedBpb : Bpb := ⟨512, 8, 32, 2, 160, 2⟩

theorem readBpb_bootBytes : readBpb bootBytes = fixedBpb := by
  simp only [readBpb,
    bootBytes_field (by simp [bootSectorWrites] : Write.pack 2 11 bytesPerSector ∈ _),
    bootBytes_field (by simp [bootSectorWrites] : Write.pack 1 13 sectorsPerCluster ∈ _),
    bootBytes_field (by simp [bootSectorWrites] : Write.pack 2 14 reservedSectors ∈ _),
    bootBytes_field (by simp [bootSectorWrites] : Write.pack 1 16 numFats ∈ _),
    bootBytes_field (by simp [bootSectorWrites] : Write.pack 4 36 160 ∈ _),
    bootBytes_field (by simp [bootSectorWrites] : Write.pack 4 44 2 ∈ _)]
  rfl

/-- The boot sector starts with the jump instruction, and its backup-boot-sector field names
sector 6. -/
theorem bootBytes_jump_backup :
    slice bootBytes 0 3 = [0xEB, 0x58, 0x90] ∧ unpackFrom 2 bootBytes 50 = 6 := by
  have hw : Write.put 0 3 [0xEB, 0x58, 0x90] ∈ bootSectorWrites := List.mem_cons_self _ _
  have := slice_applyWrites bootSectorWrites_fits
    (applyWrites_eq_writeAll bootSectorWrites_fits).1 bootSectorWrites_disjoint hw
  exact ⟨this, bootBytes_field (by simp [bootSectorWrites] : Write.pack 2 50 6 ∈ _)⟩

theorem fsinfoWrites_fits : ∀ w ∈ fsinfoWrites, w.Fits (zeros 512).length := by
  rw [length_zeros]
  decide

/-- The FSInfo sector `create_fsinfo` builds. -/
def fsinfoBytes : List UInt8 := writeAll (zeros 512) fsinfoWrites

theorem createFsinfo_eq : createFsinfo = .ok fsinfoBytes :=
  (applyWrites_eq_writeAll fsinfoWrites_fits).1

theorem length_fsinfoBytes : fsinfoBytes.length = 512 :=
  (applyWrites_eq_writeAll fsinfoWrites_fits).2.trans (length_zeros 512)

/-- The next-free-cluster hint of the FSInfo sector is the constant 2. -/
theorem fsinfoBytes_hint : unpackFrom 4 fsinfoBytes 492 = 2 :=
  unpackFrom_writeAll fsinfoWrites_fits (by decide) (by simp [fsinfoWrites] : Write.pack 4 492 2 ∈ _)

/-! ## The reserved sectors -/

/-- `List.mapM` in `Except` returns normally when every call does. -/
theorem mapM_eq_ok {α β : Type} {f : α → Except PyError β} {g : α → β} :
    ∀ {l : List α}, (∀ x ∈ l, f x = .ok (g x)) → l.mapM f = .ok (l.map g)
  | [], _ => rfl
  | x :: l, h => by
    rw [List.mapM_cons, h x (List.mem_cons_self _ _), ok_bind,
      mapM_eq_ok fun y hy => h y (List.mem_cons_of_mem _ hy), ok_bind]
    rfl

/-- Sectors 2 to 31 as the loop of `main` writes them. -/
def reservedBlocks : List (List UInt8) :=
  (List.range' 2 (reservedSectors - 2)).map fun i => if i = 6 then bootBytes else zeros bytesPerSector

theorem reservedBlocks_eq :
    ((List.range' 2 (reservedSectors - 2)).mapM fun i =>
      if i = 6 then createBootSector else pure (zeros bytesPerSector)) = .ok reservedBlocks :=
  mapM_eq_ok fun i _ => by split <;> simp only [createBootSector_eq, pure_eq_ok]

theorem length_of_mem_reservedBlocks : ∀ e ∈ reservedBlocks, e.length = 512 := by
  simp only [reservedBlocks, List.mem_map]
  rintro e ⟨i, -, rfl⟩
  split
  · exact length_bootBytes
  · exact length_zeros 512

theorem length_reservedBlocks_flatten : reservedBlocks.flatten.length = 15360 := by
  rw [List.length_flatten, List.map_congr_left length_of_mem_reservedBlocks, List.map_const',
    List.sum_replicate, smul_eq_mul, reservedBlocks, List.length_map, List.length_range']
  rfl

/-- Sector `s` of the reserved area: the boot sector again at sector 6, zeros elsewhere. -/
theorem slice_reservedBlocks {s : Nat} (h2 : 2 ≤ s) (h32 : s < 32) :
    slice reservedBlocks.flatten (512 * (s - 2)) (512 * (s - 2) + 512) =
      if s = 6 then bootBytes else zeros bytesPerSector := by
  rw [slice_flatten length_of_mem_reservedBlocks (by simp [reservedBlocks, reservedSectors]; omega)]
  simp [reservedBlocks, Nat.add_sub_cancel' h2]

/-! ## The FAT -/

/-- Entry `c` of the FAT `create_fat` builds for an ELF file of `n` clusters: the media entry,
end-of-chain marks for clusters 1 to 5, the chain from cluster 6, and zeros after it. -/
def fixedFat (n c : Nat) : Nat :=
  if c = 0 then 0x0FFFFFF8
  else if c < 6 then 0x0FFFFFFF
  else if c < 6 + n then (if c + 1 < 6 + n then c + 1 else 0x0FFFFFFF)
  else 0

/-- The writes of `create_fat`, one `<I` entry per cluster from 0 to the last of the chain. -/
theorem fatWrites_eq (fileSize : Nat) :
    fatWrites fileSize = (List.range (6 + clustersNeeded fileSize)).map fun c =>
      Write.pack 4 (c * 4) (fixedFat (clustersNeeded fileSize) c) := by
  rw [List.range_add, List.map_append, List.map_map, fatWrites]
  congr 1
  split
  · rw [chainWrites]
    refine List.map_congr_left fun i hi => ?_
    have hi := List.mem_range.mp hi
    simp only [Function.comp, fixedFat]
    split_ifs <;> first | omega | rfl
  · have : clustersNeeded fileSize = 0 := by
      simp only [clustersNeeded, bytesPerCluster, sectorsPerCluster, bytesPerSector]
      omega
    rw [this]
    rfl

theorem fixedFat_lt (n c : Nat) (hc : c < 6 + n) (hn : 6 + n ≤ 20480) : fixedFat n c < 2 ^ 32 := by
  unfold fixedFat
  split_ifs <;> omega

theorem fatWrites_fits {fileSize : Nat} (h : 6 + clustersNeeded fileSize ≤ 20480) :
    ∀ w ∈ fatWrites fileSize, w.Fits (zeros (fatSize * bytesPerSector)).length := by
  rw [fatWrites_eq]
  simp only [List.mem_map, List.mem_range, length_zeros, fatSize, bytesPerSector]
  rintro w ⟨c, hc, rfl⟩
  have := fixedFat_lt _ c hc h
  simp only [Write.Fits]
  omega

theorem fatWrites_disjoint (fileSize : Nat) : (fatWrites fileSize).Pairwise Write.Disjoint := by
  rw [fatWrites_eq, List.pairwise_map]
  exact (List.pairwise_lt_range _).imp fun h => .inl (by simp only [Write.stop, Write.start]; omega)

/-- The FAT `create_fat` builds. -/
def fatBytes (fileSize : Nat) : List UInt8 := writeAll (zeros (fatSize * bytesPerSector)) (fatWrites fileSize)

theorem createFat_eq {totalSectors fileSize : Nat} (h : 6 + clustersNeeded fileSize ≤ 20480) :
    createFat totalSectors fatSize fileSize = .ok (fatBytes fileSize) :=
  (applyWrites_eq_writeAll (fatWrites_fits h)).1

theorem length_fatBytes {fileSize : Nat} (h : 6 + clustersNeeded fileSize ≤ 20480) :
    (fatBytes fileSize).length = 81920 :=
  (applyWrites_eq_writeAll (fatWrites_fits h)).2.trans (length_zeros _)

/-- A chain that does not fit the 20480 entries raises `struct.error`. -/
theorem createFat_eq_error {totalSectors fileSize : Nat} (h : 20480 < 6 + clustersNeeded fileSize) :
    createFat totalSectors fatSize fileSize = .error .structError := by
  cases hf : createFat totalSectors fatSize fileSize with
  | error e => exact congrArg _ (applyWrites_eq_error hf)
  | ok out =>
    have hfits := fits_of_applyWrites_ok hf (by simp [fatWrites_eq])
    have hw : Write.pack 4 ((6 + clustersNeeded fileSize - 1) * 4)
        (fixedFat (clustersNeeded fileSize) (6 + clustersNeeded fileSize - 1)) ∈ fatWrites fileSize := by
      rw [fatWrites_eq]
      exact List.mem_map.mpr ⟨_, List.mem_range.mpr (by omega), rfl⟩
    have := hfits _ hw
    simp only [Write.Fits, length_zeros, fatSize, bytesPerSector] at this
    omega

/-- A reader decodes entry `c` of `fat_data` as `fixedFat`. -/
theorem unpackFrom_fatBytes {fileSize c : Nat} (h : 6 + clustersNeeded fileSize ≤ 20480)
    (hc : c < 20480) : unpackFrom 4 (fatBytes fileSize) (4 * c) = fixedFat (clustersNeeded fileSize) c := by
  by_cases hlt : c < 6 + clustersNeeded fileSize
  · rw [Nat.mul_comm]
    exact unpackFrom_writeAll (fatWrites_fits h) (fatWrites_disjoint fileSize)
      (by rw [fatWrites_eq]; exact List.mem_map.mpr ⟨c, List.mem_range.mpr hlt, rfl⟩)
  · have hz : slice (fatBytes fileSize) (4 * c) (4 * c + 4) = zeros 4 := by
      rw [fatBytes, slice_applyWrites_of_disjoint (fatWrites_fits h)
        (applyWrites_eq_writeAll (fatWrites_fits h)).1 (by simp [fatSize, bytesPerSector]; omega)
        (fun w hw => ?_), slice_zeros]
      · rw [show min (4 * c + 4 - 4 * c) (fatSize * bytesPerSector - 4 * c) = 4 by
          simp only [fatSize, bytesPerSector]; omega]
      · rw [fatWrites_eq] at hw
        obtain ⟨c', hc', rfl⟩ := List.mem_map.mp hw
        have := List.mem_range.mp hc'
        exact .inr (by simp only [Write.stop]; omega)
    rw [unpackFrom, hz, fixedFat, if_neg (by omega), if_neg (by omega), if_neg hlt]
    rfl

/-! ## Directory entries and clusters -/

/-- The entry `create_directory_entry` builds for an 11-character ASCII name. -/
def entryBytes (name : String) (attr : UInt8) (cluster size : Nat) : List UInt8 :=
  writeAll (zeros 32) (directoryEntryWrites (asciiBytes name) attr cluster size)

theorem directoryEntryWrites_fits {name : List UInt8} {attr : UInt8} {cluster size : Nat}
    (hname : name.length = 11) (hsize : size < 2 ^ 32) :
    ∀ w ∈ directoryEntryWrites name attr cluster size, w.Fits (zeros 32).length := by
  have hhi : (cluster >>> 16) &&& 0xFFFF < 2 ^ 16 := Nat.and_lt_two_pow _ (by decide)
  have hlo : cluster &&& 0xFFFF < 2 ^ 16 := Nat.and_lt_two_pow _ (by decide)
  simp only [directoryEntryWrites, List.mem_cons, List.not_mem_nil, or_false, length_zeros]
  rintro w (rfl | rfl | rfl | rfl | rfl | rfl | rfl | rfl | rfl | rfl | rfl | rfl) <;>
    simp only [Write.Fits, List.length_take, hname, List.length_cons, List.length_nil,
      Nat.reducePow, Int.reducePow, true_and] <;>
    omega

theorem directoryEntryWrites_disjoint (name : List UInt8) (attr : UInt8) (cluster size : Nat) :
    (directoryEntryWrites name attr cluster size).Pairwise Write.Disjoint := by
  rw [pairwise_disjoint_iff_spans, show (directoryEntryWrites name attr cluster size).map
    (fun w => (w.start, w.stop)) = (directoryEntryWrites [] 0 0 0).map (fun w => (w.start, w.stop))
    from rfl]
  decide

theorem length_asciiBytes (s : String) : (asciiBytes s).length = s.toList.length :=
  List.length_map _ _

theorem createDirectoryEntry_eq {name : String} {attr : UInt8} {cluster size : Nat}
    (hname : name.toList.length = 11) (hascii : ∀ c ∈ name.toList, c.toNat < 128)
    (hsize : size < 2 ^ 32) :
    createDirectoryEntry name attr cluster size = .ok (entryBytes name attr cluster size) := by
  have hl : ljust name.toList 11 = name.toList := by
    rw [ljust, hname, Nat.sub_self, List.replicate_zero, List.append_nil]
  rw [createDirectoryEntry, hl, encodeAscii_ok_iff.mpr ⟨hascii, rfl⟩, ok_bind]
  exact (applyWrites_eq_writeAll
    (directoryEntryWrites_fits ((length_asciiBytes name).trans hname) hsize)).1

/-- The two halves of a 32-bit cluster number make it up again. -/
theorem halves_of_lt {cluster : Nat} (h : cluster < 2 ^ 32) :
    ((cluster >>> 16) &&& 0xFFFF) * 65536 + (cluster &&& 0xFFFF) = cluster := by
  rw [Nat.shiftRight_eq_div_pow, show (0xFFFF : Nat) = 2 ^ 16 - 1 by rfl,
    Nat.and_pow_two_sub_one_eq_mod, Nat.and_pow_two_sub_one_eq_mod]
  omega

/-- What a reader decodes from an entry of the tool. -/
theorem decodeEntry_entryBytes {name : String} {attr : UInt8} {cluster size : Nat}
    (hname : name.toList.length = 11) (hc : cluster < 2 ^ 32) (hsize : size < 2 ^ 32) :
    decodeEntry (entryBytes name attr cluster size) = ⟨asciiBytes name, attr.toNat, cluster, size⟩ := by
  have hlen := (length_asciiBytes name).trans hname
  have := decodeEntry_writeAll (directoryEntryWrites_fits hlen hsize)
    (directoryEntryWrites_disjoint _ attr cluster size)
    (by simp [directoryEntryWrites] : Write.put 0 11 ((asciiBytes name).take 11) ∈ _)
    (by simp [directoryEntryWrites] : Write.put 11 12 [attr] ∈ _)
    (by simp [directoryEntryWrites] : Write.pack 2 20 ((cluster >>> 16) &&& 0xFFFF : Nat) ∈ _)
    (by simp [directoryEntryWrites] : Write.pack 2 26 (cluster &&& 0xFFFF : Nat) ∈ _)
    (by simp [directoryEntryWrites] : Write.pack 4 28 size ∈ _)
  rw [halves_of_lt hc, List.take_of_length_le (le_of_eq hlen)] at this
  exact this

theorem length_entryBytes (name : String) (attr : UInt8) (cluster size : Nat)
    (hname : name.toList.length = 11) (hsize : size < 2 ^ 32) :
    (entryBytes name attr cluster size).length = 32 :=
  (applyWrites_eq_writeAll
    (directoryEntryWrites_fits ((length_asciiBytes name).trans hname) hsize)).2.trans (length_zeros 32)

/-- An entry whose name starts with neither NUL nor 0xE5 is live. -/
theorem live_entryBytes {name : String} {attr : UInt8} {cluster size : Nat}
    (hname : name.toList.length = 11) (hc : cluster < 2 ^ 32) (hsize : size < 2 ^ 32)
    (hhead : (asciiBytes name).head? ≠ some 0 ∧ (asciiBytes name).head? ≠ some 0xE5) :
    Live (entryBytes name attr cluster size) := by
  have htake : (entryBytes name attr cluster size).take 11 = asciiBytes name :=
    (decodeEntry_name _).symm.trans (congrArg DirEntry.name (decodeEntry_entryBytes hname hc hsize))
  have hhead' : (entryBytes name attr cluster size).head? = (asciiBytes name).head? := by
    rw [← htake, List.head?_take, if_neg (by decide)]
  rw [Live, hhead']
  exact ⟨length_entryBytes name attr cluster size hname hsize, hhead⟩

theorem take_entryBytes {name : String} {attr : UInt8} {cluster size : Nat}
    (hname : name.toList.length = 11) (hc : cluster < 2 ^ 32) (hsize : size < 2 ^ 32) :
    (entryBytes name attr cluster size).take 11 = asciiBytes name :=
  (decodeEntry_name _).symm.trans (congrArg DirEntry.name (decodeEntry_entryBytes hname hc hsize))

/-- The slice assignments `cluster[32 * t:32 * t + 32] = entry` of the directory functions, for
consecutive slots from `t`. -/
def slotWrites (t : Nat) : List (List UInt8) → List Write
  | [] => []
  | e :: F => .put (32 * t) (32 * t + 32) e :: slotWrites (t + 1) F

/-- Entries assigned to the slots after the entries of a directory cluster follow them. -/
theorem writeAll_slotWrites {E F : List (List UInt8)} (hE : ∀ e ∈ E, Live e)
    (hF : ∀ e ∈ F, Live e) :
    writeAll (dirOf E) (slotWrites E.length F) = dirOf (E ++ F) := by
  induction F generalizing E with
  | nil => rw [List.append_nil]; rfl
  | cons e F ih =>
    have he := hF e (List.mem_cons_self _ _)
    have hE' : ∀ e' ∈ E ++ [e], Live e' := by
      intro e' h
      rcases List.mem_append.mp h with h | h
      · exact hE e' h
      · rw [List.mem_singleton.mp h]; exact he
    have := ih hE' fun e' h => hF e' (List.mem_cons_of_mem _ h)
    rw [List.length_append, List.length_singleton, List.append_assoc, List.singleton_append] at this
    rw [slotWrites, writeAll]
    simp only [Write.start, Write.stop, Write.bytes]
    rw [setSlice_dirOf hE he.1, this]

theorem writeAll_zeros_slotWrites {F : List (List UInt8)} (hF : ∀ e ∈ F, Live e) :
    writeAll (zeros bytesPerCluster) (slotWrites 0 F) = dirOf F :=
  writeAll_slotWrites (E := []) (by simp) hF

/-- The entries of the root cluster: `.`, `..`, `INIT`, `BIN` and `RUN`. -/
def rootEntries : List (List UInt8) :=
  [entryBytes ".          " dirAttr 2 0, entryBytes "..         " dirAttr 0 0,
   entryBytes "INIT       " dirAttr 3 0, entryBytes "BIN        " dirAttr 4 0,
   entryBytes "RUN        " dirAttr 5 0]

/-- The entries of `/init`: `.`, `..`, and `SHELL` when the ELF file is not empty. -/
def initEntries (elfSize : Nat) : List (List UInt8) :=
  [entryBytes ".          " dirAttr 3 0, entryBytes "..         " dirAttr 2 0] ++
    if elfSize > 0 then [entryBytes "SHELL      " fileAttr 6 elfSize] else []

/-- The entries of an empty directory at cluster `clusterNum`: `.` and `..`. -/
def emptyEntries (clusterNum : Nat) : List (List UInt8) :=
  [entryBytes ".          " dirAttr clusterNum 0, entryBytes "..         " dirAttr 2 0]

theorem live_rootEntries : ∀ e ∈ rootEntries, Live e := by
  simp only [rootEntries, List.mem_cons, List.not_mem_nil, or_false]
  rintro e (rfl | rfl | rfl | rfl | rfl) <;>
    exact live_entryBytes (by decide) (by decide) (by decide) ⟨by decide, by decide⟩

theorem live_initEntries {elfSize : Nat} (h : elfSize < 2 ^ 32) : ∀ e ∈ initEntries elfSize, Live e := by
  simp only [initEntries, List.mem_append, List.mem_cons, List.not_mem_nil, or_false]
  rintro e ((rfl | rfl) | he)
  · exact live_entryBytes (by decide) (by decide) (by decide) ⟨by decide, by decide⟩
  · exact live_entryBytes (by decide) (by decide) (by decide) ⟨by decide, by decide⟩
  · split at he
    · rw [List.mem_singleton.mp he]
      exact live_entryBytes (by decide) (by decide) h ⟨by decide, by decide⟩
    · cases he

theorem live_emptyEntries {clusterNum : Nat} (h : clusterNum < 2 ^ 32) :
    ∀ e ∈ emptyEntries clusterNum, Live e := by
  simp only [emptyEntries, List.mem_cons, List.not_mem_nil, or_false]
  rintro e (rfl | rfl)
  · exact live_entryBytes (by decide) h (by decide) ⟨by decide, by decide⟩
  · exact live_entryBytes (by decide) (by decide) (by decide) ⟨by decide, by decide⟩

theorem createRootDirectory_eq : createRootDirectory = .ok (dirOf rootEntries) := by
  rw [createRootDirectory,
    @createDirectoryEntry_eq ".          " dirAttr 2 0 (by decide) (by decide) (by decide), ok_bind,
    @createDirectoryEntry_eq "..         " dirAttr 0 0 (by decide) (by decide) (by decide), ok_bind,
    @createDirectoryEntry_eq "INIT       " dirAttr 3 0 (by decide) (by decide) (by decide), ok_bind,
    @createDirectoryEntry_eq "BIN        " dirAttr 4 0 (by decide) (by decide) (by decide), ok_bind,
    @createDirectoryEntry_eq "RUN        " dirAttr 5 0 (by decide) (by decide) (by decide), ok_bind,
    pure_eq_ok]
  show Except.ok (writeAll (zeros bytesPerCluster) (slotWrites 0 rootEntries)) = _
  rw [writeAll_zeros_slotWrites live_rootEntries]

theorem createInitDirectory_eq {elfSize : Nat} (h : elfSize < 2 ^ 32) :
    createInitDirectory elfSize = .ok (dirOf (initEntries elfSize)) := by
  have hbase : writeAll (zeros bytesPerCluster) (slotWrites 0 [entryBytes ".          " dirAttr 3 0,
      entryBytes "..         " dirAttr 2 0]) =
      dirOf [entryBytes ".          " dirAttr 3 0, entryBytes "..         " dirAttr 2 0] :=
    writeAll_zeros_slotWrites fun e he => live_initEntries h e (List.mem_append_left _ he)
  rw [createInitDirectory,
    @createDirectoryEntry_eq ".          " dirAttr 3 0 (by decide) (by decide) (by decide), ok_bind,
    @createDirectoryEntry_eq "..         " dirAttr 2 0 (by decide) (by decide) (by decide), ok_bind]
  dsimp only
  rw [show [Write.put 0 32 (entryBytes ".          " dirAttr 3 0),
    .put 32 64 (entryBytes "..         " dirAttr 2 0)] = slotWrites 0 [entryBytes ".          " dirAttr 3 0,
      entryBytes "..         " dirAttr 2 0] from rfl, hbase, initEntries]
  split
  · rw [@createDirectoryEntry_eq "SHELL      " fileAttr 6 elfSize (by decide) (by decide) h, ok_bind,
      pure_eq_ok]
    exact congrArg _ (setSlice_dirOf (fun e he => live_initEntries h e (List.mem_append_left _ he))
      (length_entryBytes _ _ _ _ (by decide) h))
  · rw [List.append_nil, pure_eq_ok]

theorem createEmptyDirectory_eq {clusterNum : Nat} (h : clusterNum < 2 ^ 32) :
    createEmptyDirectory clusterNum = .ok (dirOf (emptyEntries clusterNum)) := by
  rw [createEmptyDirectory,
    @createDirectoryEntry_eq ".          " dirAttr clusterNum 0 (by decide) (by decide) (by decide),
    ok_bind,
    @createDirectoryEntry_eq "..         " dirAttr 2 0 (by decide) (by decide) (by decide), ok_bind,
    pure_eq_ok]
  show Except.ok (writeAll (zeros bytesPerCluster) (slotWrites 0 (emptyEntries clusterNum))) = _
  rw [writeAll_zeros_slotWrites (live_emptyEntries h)]

theorem toNat_dirAttr : dirAttr.toNat = 0x10 := by decide

theorem toNat_fileAttr : fileAttr.toNat = 0x20 := by decide

/-- A reader finds `INIT` in the root cluster: a directory at cluster 3. -/
theorem lookup_root_init :
    lookup (dirOf rootEntries) (asciiBytes "INIT       ") =
      some ⟨asciiBytes "INIT       ", 0x10, 3, 0⟩ := by
  rw [lookup_dirOf live_rootEntries (by decide)]
  simp (disch := decide) only [rootEntries, List.find?_cons, take_entryBytes, decide_eq_false,
    decide_eq_true, Option.map_some', decodeEntry_entryBytes, toNat_dirAttr]

/-- A reader finds `SHELL` in `/init` exactly when the ELF file is not empty: a file at cluster 6
with the ELF file's size. -/
theorem lookup_init_shell {elfSize : Nat} (h : elfSize < 2 ^ 32) :
    lookup (dirOf (initEntries elfSize)) (asciiBytes "SHELL      ") =
      if elfSize > 0 then some ⟨asciiBytes "SHELL      ", 0x20, 6, elfSize⟩ else none := by
  have hk : (initEntries elfSize).length ≤ 128 := by
    unfold initEntries
    split <;> simp
  rw [lookup_dirOf (live_initEntries h) hk, initEntries]
  split
  · simp (disch := decide) only [List.cons_append, List.nil_append, List.find?_cons,
      take_entryBytes, @take_entryBytes "SHELL      " fileAttr 6 elfSize (by decide) (by decide) h,
      decide_eq_false, decide_eq_true, Option.map_some',
      @decodeEntry_entryBytes "SHELL      " fileAttr 6 elfSize (by decide) (by decide) h,
      toNat_fileAttr]
  · simp (disch := decide) only [List.append_nil, List.find?_cons, List.find?_nil, take_entryBytes,
      decide_eq_false, Option.map_none']

/-! ## The output of `main` -/

/-- The ELF file padded with zeros to whole clusters, as `main` writes it from cluster 6. -/
def elfPadded (elfData : List UInt8) : List UInt8 :=
  elfData ++ zeros (clustersNeeded elfData.length * bytesPerCluster - elfData.length)

/-- Sectors 0 to 383 as `main` writes them: the boot sector, the FSInfo sector, the reserved
sectors, the two FAT copies and the directory clusters 2 to 5. -/
def headBlocks (elfSize : Nat) : List (List UInt8) :=
  [bootBytes, fsinfoBytes, reservedBlocks.flatten, fatBytes elfSize, fatBytes elfSize,
   dirOf rootEntries, dirOf (initEntries elfSize), dirOf (emptyEntries 4), dirOf (emptyEntries 5)]

/-- The output of `main` for an ELF file, in closed form: the head, the padded ELF file, and the
zero fill up to the end of the volume. -/
def image (elfData : List UInt8) : List UInt8 :=
  (headBlocks elfData.length).flatten ++ elfPadded elfData ++
    zeroFill ((totalSectors * bytesPerSector : Nat) -
      (((headBlocks elfData.length).flatten ++ elfPadded elfData).length : Int))

theorem elfSize_lt {elfData : List UInt8} (h : 6 + clustersNeeded elfData.length ≤ 20480) :
    elfData.length < 2 ^ 32 := by
  simp only [clustersNeeded, bytesPerCluster, sectorsPerCluster, bytesPerSector] at h
  omega

/-- `main` for an ELF file whose chain fits the FAT writes `image`. -/
theorem main_eq {elfData : List UInt8} (h : 6 + clustersNeeded elfData.length ≤ 20480) :
    main (some elfData) = .ok (image elfData) := by
  have hs := elfSize_lt h
  have hpad : (if elfData ≠ [] then elfData ++ zeros (clustersNeeded elfData.length * bytesPerCluster -
      elfData.length) else []) = elfPadded elfData := by
    split
    · rfl
    · rename_i he
      rw [not_not.mp he]
      rfl
  simp only [main, reservedBlocks_eq]
  simp only [Option.map_some', Option.getD_some, createBootSector_eq, createFsinfo_eq, createFat_eq h, createRootDirectory_eq, createInitDirectory_eq hs,
    createEmptyDirectory_eq (by decide : 4 < 2 ^ 32), createEmptyDirectory_eq (by decide : 5 < 2 ^ 32),
    ok_bind, pure_eq_ok, hpad]
  simp only [image, headBlocks, List.flatten_cons, List.flatten_nil, List.append_nil,
    List.append_assoc]

/-- Without an ELF file `main` writes what it writes for an empty one. -/
theorem main_none : main none = main (some []) := rfl

/-- A chain past the FAT's 20480 entries makes `create_fat` raise `struct.error`. -/
theorem main_eq_error {elfData : List UInt8} (h : 20480 < 6 + clustersNeeded elfData.length) :
    main (some elfData) = .error .structError := by
  simp only [main, reservedBlocks_eq]
  simp only [Option.map_some', Option.getD_some, createBootSector_eq, createFsinfo_eq,
    createFat_eq_error h, ok_bind, error_bind]

/-- `main` returns normally exactly when the ELF file's chain fits the FAT. -/
theorem main_eq_ok {elfData img : List UInt8} (h : main (some elfData) = .ok img) :
    6 + clustersNeeded elfData.length ≤ 20480 ∧ img = image elfData := by
  by_cases hle : 6 + clustersNeeded elfData.length ≤ 20480
  · rw [main_eq hle, Except.ok.injEq] at h
    exact ⟨hle, h.symm⟩
  · rw [main_eq_error (by omega)] at h
    cases h

theorem length_zeroFill (remaining : Int) : (zeroFill remaining).length = remaining.toNat := by
  unfold zeroFill
  split
  · have := Nat.div_add_mod remaining.toNat (1024 * 1024)
    simp only [List.length_append, List.length_flatten, List.map_replicate, length_zeros,
      List.sum_replicate, smul_eq_mul]
    split <;> simp only [length_zeros, List.length_nil] <;> omega
  · simp only [List.length_nil]
    omega

/-- The sizes of the blocks of the head, 196608 bytes in all. -/
def headSizes : List Nat := [512, 512, 15360, 81920, 81920, 4096, 4096, 4096, 4096]

theorem length_headBlocks {elfSize : Nat} (h : 6 + clustersNeeded elfSize ≤ 20480) :
    (headBlocks elfSize).map List.length = headSizes := by
  have hs : elfSize < 2 ^ 32 := by
    simp only [clustersNeeded, bytesPerCluster, sectorsPerCluster, bytesPerSector] at h
    omega
  have hk : (initEntries elfSize).length ≤ 128 := by
    unfold initEntries
    split <;> simp
  simp only [headBlocks, List.map_cons, List.map_nil, length_bootBytes, length_fsinfoBytes,
    length_reservedBlocks_flatten, length_fatBytes h, length_dirOf live_rootEntries (by decide),
    length_dirOf (live_initEntries hs) hk,
    length_dirOf (live_emptyEntries (by decide : 4 < 2 ^ 32)) (by decide),
    length_dirOf (live_emptyEntries (by decide : 5 < 2 ^ 32)) (by decide)]
  rfl

theorem length_headBlocks_flatten {elfSize : Nat} (h : 6 + clustersNeeded elfSize ≤ 20480) :
    (headBlocks elfSize).flatten.length = 196608 := by
  rw [List.length_flatten, length_headBlocks h]
  rfl

theorem length_elfPadded (elfData : List UInt8) :
    (elfPadded elfData).length = clustersNeeded elfData.length * bytesPerCluster := by
  simp only [elfPadded, List.length_append, length_zeros, clustersNeeded, bytesPerCluster,
    sectorsPerCluster, bytesPerSector]
  omega

/-- The output of `main` ends at the end of the volume or at the end of the ELF file's last
cluster, whichever comes later. -/
theorem length_image {elfData : List UInt8} (h : 6 + clustersNeeded elfData.length ≤ 20480) :
    (image elfData).length =
      max (totalSectors * bytesPerSector) (196608 + clustersNeeded elfData.length * bytesPerCluster) := by
  rw [image, List.length_append, length_zeroFill, List.length_append, length_headBlocks_flatten h,
    length_elfPadded]
  omega

/-- Block `i` of the head, read from the output of `main`. -/
theorem slice_image_head {elfData : List UInt8} (h : 6 + clustersNeeded elfData.length ≤ 20480)
    {i : Nat} (hi : i < (headBlocks elfData.length).length) :
    slice (image elfData) (headSizes.take i).sum ((headSizes.take i).sum + headSizes.getD i 0) =
      (headBlocks elfData.length)[i] := by
  have hsz := length_headBlocks h
  have hlen : (headBlocks elfData.length)[i].length = headSizes.getD i 0 := by
    rw [← hsz, List.getD_eq_getElem?_getD, List.getElem?_map, List.getElem?_eq_getElem hi]
    rfl
  have hle : (headSizes.take i).sum + headSizes.getD i 0 ≤ (headBlocks elfData.length).flatten.length := by
    rw [length_headBlocks_flatten h]
    simp only [headBlocks, List.length_cons, List.length_nil] at hi
    interval_cases i <;> decide
  rw [image, List.append_assoc, slice_append_left _ _ hle, ← hlen, ← hsz]
  exact slice_flatten_block hi

/-- Cluster `6 + i` of the output of `main` is cluster `i` of the padded ELF file. -/
theorem slice_image_data {elfData : List UInt8} (h : 6 + clustersNeeded elfData.length ≤ 20480)
    {i : Nat} (hi : i < clustersNeeded elfData.length) :
    slice (image elfData) (196608 + i * 4096) (196608 + i * 4096 + 4096) =
      slice (elfPadded elfData) (i * 4096) (i * 4096 + 4096) := by
  have hp := length_elfPadded elfData
  simp only [bytesPerCluster, sectorsPerCluster, bytesPerSector] at hp
  rw [image, List.append_assoc, slice_append_of_le _ _ (by rw [length_headBlocks_flatten h]; omega),
    length_headBlocks_flatten h, Nat.add_sub_cancel_left, Nat.add_assoc, Nat.add_sub_cancel_left,
    slice_append_left _ _ (by rw [hp]; nlinarith)]

end CreateDiskFixed

end Fat32Image
