import Fat32Image.FixedImage

/-!
# Reading back an image of `create_disk_fixed.py`

`main` writes `image`: the nine blocks of the head, the padded ELF file and the zero fill
(`FixedImage`). Each fact a reader needs is one block of it. The boot sector at offset 0 gives the
geometry `fixedBpb`; the first FAT copy, at sector 32, gives the entries of `fixedFat`; the data
area, from sector 352, gives the directory clusters 2 and 3 and, from cluster 6 on, the ELF
file's clusters.

`fixed_round_trip` reads the image as `build_round_trip` reads one of `build_disk.py`: the
geometry from the image's own boot sector, `INIT` in the root cluster, `SHELL` in cluster 3, the
chain from cluster 6 in the first FAT copy, and the ELF file's bytes along it.
-/

namespace Fat32Image

namespace CreateDiskFixed

/-! ## The blocks of the output -/

theorem image_boot {elfData : List UInt8} (h : 6 + clustersNeeded elfData.length ≤ 20480) :
    slice (image elfData) 0 512 = bootBytes :=
  slice_image_head h (i := 0) (by simp [headBlocks])

theorem image_fsinfo {elfData : List UInt8} (h : 6 + clustersNeeded elfData.length ≤ 20480) :
    slice (image elfData) 512 1024 = fsinfoBytes :=
  slice_image_head h (i := 1) (by simp [headBlocks])

theorem image_reserved {elfData : List UInt8} (h : 6 + clustersNeeded elfData.length ≤ 20480) :
    slice (image elfData) 1024 16384 = reservedBlocks.flatten :=
  slice_image_head h (i := 2) (by simp [headBlocks])

/-- Sectors 2 to 31 as the loop of `main` writes them: zeros, but for the backup boot sector at
sector 6. -/
theorem readSector_image_reserved {elfData : List UInt8} (h : 6 + clustersNeeded elfData.length ≤ 20480)
    {s : Nat} (h2 : 2 ≤ s) (h32 : s < 32) :
    readSector (image elfData) fixedBpb s = if s = 6 then bootBytes else zeros bytesPerSector := by
  have := slice_of_slice_eq (n := 15360) (p := 512 * (s - 2)) (m := 512) (image_reserved h) (by omega)
  rw [slice_reservedBlocks h2 h32, show 1024 + 512 * (s - 2) = s * 512 by omega] at this
  exact this

/-- Sector 6 is the backup boot sector. -/
theorem image_backup {elfData : List UInt8} (h : 6 + clustersNeeded elfData.length ≤ 20480) :
    slice (image elfData) 3072 3584 = bootBytes :=
  readSector_image_reserved h (s := 6) (by decide) (by decide)

/-- Both FAT copies, at sectors `reserved_sectors + i * fat_size`, are `fat_data`. -/
theorem image_fat {elfData : List UInt8} (h : 6 + clustersNeeded elfData.length ≤ 20480)
    {i : Nat} (hi : i < numFats) :
    slice (image elfData) ((reservedSectors + i * fatSize) * bytesPerSector)
      ((reservedSectors + i * fatSize) * bytesPerSector + fatSize * bytesPerSector) =
      fatBytes elfData.length := by
  obtain rfl | rfl : i = 0 ∨ i = 1 := by simp only [numFats] at hi; omega
  · exact slice_image_head h (i := 3) (by simp [headBlocks])
  · exact slice_image_head h (i := 4) (by simp [headBlocks])

/-- Entry `c` of FAT copy `i`, decoded as a little-endian 32-bit value. -/
theorem unpackFrom_image_fat {elfData : List UInt8} (h : 6 + clustersNeeded elfData.length ≤ 20480)
    {i c : Nat} (hi : i < numFats) (hc : c < 20480) :
    unpackFrom 4 (image elfData) ((reservedSectors + i * fatSize) * bytesPerSector + 4 * c) =
      fixedFat (clustersNeeded elfData.length) c := by
  rw [unpackFrom, slice_of_slice_eq (n := 81920) (image_fat h hi) (by omega), ← unpackFrom,
    unpackFrom_fatBytes h hc]

theorem readBpb_image {elfData : List UInt8} (h : 6 + clustersNeeded elfData.length ≤ 20480) :
    readBpb (image elfData) = fixedBpb :=
  (readBpb_of_slice (image_boot h)).trans readBpb_bootBytes

/-- The backup-boot-sector field of the boot sector names sector 6. -/
theorem image_backup_field {elfData : List UInt8} (h : 6 + clustersNeeded elfData.length ≤ 20480) :
    unpackFrom 2 (image elfData) 50 = 6 :=
  (unpackFrom_of_slice (image_boot h) 50 2 (by decide)).trans bootBytes_jump_backup.2

/-- Entry `c` of the first FAT copy, as a reader with the recorded geometry decodes it. -/
theorem fatEntry_image {elfData : List UInt8} (h : 6 + clustersNeeded elfData.length ≤ 20480)
    {c : Nat} (hc : c < 20480) :
    fatEntry (image elfData) fixedBpb c = fixedFat (clustersNeeded elfData.length) c :=
  unpackFrom_image_fat h (i := 0) (by decide) hc

theorem clusterOffset_fixedBpb (c : Nat) :
    fixedBpb.clusterOffset c = 180224 + (c - 2) * 4096 := by
  simp only [Bpb.clusterOffset, Bpb.dataStart, fixedBpb]
  omega

theorem readCluster_image_root {elfData : List UInt8} (h : 6 + clustersNeeded elfData.length ≤ 20480) :
    readCluster (image elfData) fixedBpb 2 = dirOf rootEntries :=
  slice_image_head h (i := 5) (by simp [headBlocks])

theorem readCluster_image_init {elfData : List UInt8} (h : 6 + clustersNeeded elfData.length ≤ 20480) :
    readCluster (image elfData) fixedBpb 3 = dirOf (initEntries elfData.length) :=
  slice_image_head h (i := 6) (by simp [headBlocks])

/-- Cluster `6 + i` is cluster `i` of the padded ELF file. -/
theorem readCluster_image_data {elfData : List UInt8} (h : 6 + clustersNeeded elfData.length ≤ 20480)
    {i : Nat} (hi : i < clustersNeeded elfData.length) :
    readCluster (image elfData) fixedBpb (6 + i) = slice (elfPadded elfData) (i * 4096) (i * 4096 + 4096) := by
  rw [readCluster, clusterOffset_fixedBpb, show 180224 + (6 + i - 2) * 4096 = 196608 + i * 4096 by
    omega]
  exact slice_image_data h hi

/-! ## The ELF file's chain -/

/-- The chain `create_fat` lays down, as a reader finds it: clusters `6` to `4 + n` name the next
cluster, and cluster `5 + n` holds the end-of-chain mark. -/
theorem fatEntry_image_links {elfData : List UInt8} (h : 6 + clustersNeeded elfData.length ≤ 20480) :
    (∀ k, k + 1 < clustersNeeded elfData.length →
      fatEntry (image elfData) fixedBpb (6 + k) = 6 + k + 1 ∧ 6 + k + 1 < 0x0FFFFFF8) ∧
    (0 < clustersNeeded elfData.length →
      0x0FFFFFF8 ≤ fatEntry (image elfData) fixedBpb (6 + (clustersNeeded elfData.length - 1))) := by
  refine ⟨fun k hk => ?_, fun hn => ?_⟩
  · rw [fatEntry_image h (by omega), fixedFat, if_neg (by omega), if_neg (by omega), if_pos (by omega),
      if_pos (by omega)]
    exact ⟨rfl, by omega⟩
  · rw [fatEntry_image h (by omega), fixedFat, if_neg (by omega), if_neg (by omega), if_pos (by omega),
      if_neg (by omega)]
    decide

/-- The bytes a reader gets from the `SHELL` entry: the ELF file and the padding of its last
cluster. -/
theorem readFile_image_shell {elfData : List UInt8} (h : 6 + clustersNeeded elfData.length ≤ 20480)
    (hn : 0 < clustersNeeded elfData.length) {fuel : Nat} (hfuel : clustersNeeded elfData.length ≤ fuel) :
    readFile (image elfData) fixedBpb fuel ⟨asciiBytes "SHELL      ", 0x20, 6, elfData.length⟩ =
      some (elfPadded elfData) := by
  obtain ⟨hlinks, hend⟩ := fatEntry_image_links h
  rw [readFile_of_links (e := ⟨asciiBytes "SHELL      ", 0x20, 6, elfData.length⟩) (Nat.succ_ne_zero 5)
      hn hfuel hlinks (hend hn),
    List.map_congr_left fun i hi => readCluster_image_data h (List.mem_range.mp hi), flatten_blocks,
    List.take_of_length_le (by rw [length_elfPadded]; rfl)]

/-! ## The round trip -/

/-- The round trip of `create_disk_fixed.py`: for an ELF file whose clusters fit in the volume
after the four directory clusters, `main` writes exactly the volume, and a reader that takes the
geometry from the image's boot sector finds `INIT` in the root cluster; in cluster 3 it finds
`SHELL` exactly when the ELF file is not empty, follows its chain from cluster 6 through the
file's clusters, and reads back the file followed by zeros. No FAT entry past the chain is in
use. -/
theorem fixed_round_trip (elfData : List UInt8)
    (hcap : clustersNeeded elfData.length ≤ (totalSectors - dataStartSector) / sectorsPerCluster - 4) :
    ∃ img, main (some elfData) = .ok img ∧ img.length = totalSectors * bytesPerSector ∧
      readBpb img = fixedBpb ∧
      lookup (readCluster img (readBpb img) (readBpb img).rootCluster) (asciiBytes "INIT       ") =
        some ⟨asciiBytes "INIT       ", 0x10, 3, 0⟩ ∧
      (elfData ≠ [] →
        lookup (readCluster img (readBpb img) 3) (asciiBytes "SHELL      ") =
          some ⟨asciiBytes "SHELL      ", 0x20, 6, elfData.length⟩ ∧
        ∀ fuel, clustersNeeded elfData.length ≤ fuel →
          chainFrom img (readBpb img) fuel 6 = some (List.range' 6 (clustersNeeded elfData.length)) ∧
          readFile img (readBpb img) fuel ⟨asciiBytes "SHELL      ", 0x20, 6, elfData.length⟩ =
            some (elfData ++ zeros (clustersNeeded elfData.length * bytesPerCluster - elfData.length))) ∧
      (elfData = [] → lookup (readCluster img (readBpb img) 3) (asciiBytes "SHELL      ") = none) ∧
      ∀ c, 6 + clustersNeeded elfData.length ≤ c → c < fatSize * bytesPerSector / 4 →
        fatEntry img (readBpb img) c = 0 := by
  have hcap' : clustersNeeded elfData.length ≤ 8144 := hcap
  have h : 6 + clustersNeeded elfData.length ≤ 20480 := by omega
  have hbpb := readBpb_image h
  obtain ⟨hlinks, hend⟩ := fatEntry_image_links h
  refine ⟨image elfData, main_eq h, ?_, hbpb, ?_, fun hne => ?_, fun he => ?_, fun c hc hc' => ?_⟩
  · rw [length_image h]
    simp only [totalSectors, diskSizeMb, bytesPerSector, bytesPerCluster, sectorsPerCluster]
    omega
  · rw [hbpb]
    show lookup (readCluster (image elfData) fixedBpb 2) _ = _
    rw [readCluster_image_root h, lookup_root_init]
  · have hn : 0 < clustersNeeded elfData.length := by
      have := List.length_pos.mpr hne
      simp only [clustersNeeded, bytesPerCluster, sectorsPerCluster, bytesPerSector]
      omega
    rw [hbpb, readCluster_image_init h, lookup_init_shell (elfSize_lt h), if_pos (List.length_pos.mpr hne)]
    exact ⟨rfl, fun fuel hfuel => ⟨chainFrom_of_links hn hfuel hlinks (hend hn),
      readFile_image_shell h hn hfuel⟩⟩
  · subst he
    rw [hbpb, readCluster_image_init h, lookup_init_shell (elfSize_lt h), if_neg (by decide)]
  · rw [hbpb, fatEntry_image h hc', fixedFat, if_neg (by omega), if_neg (by omega), if_neg (by omega)]

/-- An ELF file of four bytes, its magic number, reads back from cluster 6 with the rest of the
cluster zero. -/
theorem fixed_round_trip_magic :
    clustersNeeded [0x7F, 0x45, 0x4C, 0x46].length ≤
      (totalSectors - dataStartSector) / sectorsPerCluster - 4 ∧
    ∃ img, main (some [0x7F, 0x45, 0x4C, 0x46]) = .ok img ∧ img.length = totalSectors * bytesPerSector ∧
      readBpb img = fixedBpb ∧
      lookup (readCluster img (readBpb img) (readBpb img).rootCluster) (asciiBytes "INIT       ") =
        some ⟨asciiBytes "INIT       ", 0x10, 3, 0⟩ ∧
      (([0x7F, 0x45, 0x4C, 0x46] : List UInt8) ≠ [] →
        lookup (readCluster img (readBpb img) 3) (asciiBytes "SHELL      ") =
          some ⟨asciiBytes "SHELL      ", 0x20, 6, 4⟩ ∧
        ∀ fuel, clustersNeeded 4 ≤ fuel →
          chainFrom img (readBpb img) fuel 6 = some (List.range' 6 (clustersNeeded 4)) ∧
          readFile img (readBpb img) fuel ⟨asciiBytes "SHELL      ", 0x20, 6, 4⟩ =
            some ([0x7F, 0x45, 0x4C, 0x46] ++ zeros (clustersNeeded 4 * bytesPerCluster - 4))) ∧
      (([0x7F, 0x45, 0x4C, 0x46] : List UInt8) = [] →
        lookup (readCluster img (readBpb img) 3) (asciiBytes "SHELL      ") = none) ∧
      ∀ c, 6 + clustersNeeded 4 ≤ c → c < fatSize * bytesPerSector / 4 →
        fatEntry img (readBpb img) c = 0 :=
  ⟨by decide, fixed_round_trip [0x7F, 0x45, 0x4C, 0x46] (by decide)⟩

end CreateDiskFixed

end Fat32Image
