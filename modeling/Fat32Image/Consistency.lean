import Fat32Image.RoundTrip
import Fat32Image.FixedRoundTrip

/-!
# Is an image consistent with its own boot sector?

Three properties relate the parts of every image either tool writes. The first compares the
image's length with the volume its boot sector declares (`capacity_unchecked`). The second
compares the sectors below the data area with what the boot sector says of them
(`header_regions`). The third compares the FSInfo next-free-cluster hint with the FAT
(`fsinfo_hint_stale`).

Neither tool checks that the files fit the volume. Past its capacity, `build_disk.py`'s slice
assignments append to the `bytearray`, and `create_disk_fixed.py`'s zero fill has nothing left
to write: the image outgrows its volume, and the FAT links clusters past the volume's end. The
header sectors hold what the boot sector says for every size from 1 MB. At `size_mb = 0` the
`bytearray` is empty, every header write appends, and the FAT copies land after the root
cluster's data. `build_disk.py` writes its FSInfo sector before any allocation, with the hint of
an empty volume, and never updates it.
-/

namespace Fat32Image

open Fat32DiskBuilder

/-! ## Capacity -/

/-- The first FAT copy of a finished image has no cluster in use past the last one allocated. -/
theorem fatEntry_buildDisk_of_ge {sizeMb : Nat} {files : List FileArg} {img : List UInt8}
    (h1 : 1 ≤ sizeMb) (h : buildDisk sizeMb files = .ok img) {c : Nat}
    (hc : 3 + totalClusters files ≤ c) (hc' : c < 32768) : fatEntry img builderBpb c = 0 := by
  have := fatEntry_run (headers_buildDisk h1 h).2 hc'
  rw [getElem?_fatAfter_of_ge _ hc, getElem?_initialFat_of_ge (by omega) hc'] at this
  exact Option.some.inj this

/-- Neither tool checks that the files fit the volume. A build of `build_disk.py` of at least
1 MB that returns normally ends at the end of the volume or at the first cluster left free,
whichever is later: it is exactly the volume when the clusters fit (`3 + Σ n_j ≤ 2 + D`), and
then every cluster in use in its first FAT copy lies in the data area. `create_disk_fixed.py`
raises `struct.error` only for a chain past the FAT's 20480 entries. Otherwise its output ends at
the end of the volume or at the end of the ELF file's last cluster, after the 196608 bytes of
the head, whichever is later: it is exactly the volume when the ELF file's clusters fit after
the four directory clusters, and then every cluster in use lies in the data area. -/
theorem capacity_unchecked :
    (∀ sizeMb files img, 1 ≤ sizeMb → buildDisk sizeMb files = .ok img →
      img.length = max (sizeBytes sizeMb) (clusterToSector (3 + totalClusters files) * sectorSize) ∧
      (img.length = totalSectors sizeMb * sectorSize ↔
        3 + totalClusters files ≤ 2 + dataClusters sizeMb) ∧
      (3 + totalClusters files ≤ 2 + dataClusters sizeMb →
        ∀ c, 2 ≤ c → c < sectorsPerFat * sectorSize / 4 → fatEntry img (readBpb img) c ≠ 0 →
          dataStartSector + (c - 2) * sectorsPerCluster + sectorsPerCluster ≤ totalSectors sizeMb)) ∧
    ∀ elfData : List UInt8,
      (CreateDiskFixed.main (some elfData) = .error .structError ↔
        20480 < 6 + CreateDiskFixed.clustersNeeded elfData.length) ∧
      ∀ img, CreateDiskFixed.main (some elfData) = .ok img →
        img.length = max (CreateDiskFixed.totalSectors * CreateDiskFixed.bytesPerSector)
          (196608 + CreateDiskFixed.clustersNeeded elfData.length * CreateDiskFixed.bytesPerCluster) ∧
        (img.length = CreateDiskFixed.totalSectors * CreateDiskFixed.bytesPerSector ↔
          CreateDiskFixed.clustersNeeded elfData.length ≤ (CreateDiskFixed.totalSectors -
            CreateDiskFixed.dataStartSector) / CreateDiskFixed.sectorsPerCluster - 4) ∧
        (CreateDiskFixed.clustersNeeded elfData.length ≤ (CreateDiskFixed.totalSectors -
            CreateDiskFixed.dataStartSector) / CreateDiskFixed.sectorsPerCluster - 4 →
          ∀ c, 2 ≤ c → c < CreateDiskFixed.fatSize * CreateDiskFixed.bytesPerSector / 4 →
            fatEntry img (readBpb img) c ≠ 0 →
            CreateDiskFixed.dataStartSector + (c - 2) * CreateDiskFixed.sectorsPerCluster +
              CreateDiskFixed.sectorsPerCluster ≤ CreateDiskFixed.totalSectors) := by
  refine ⟨fun sizeMb files img h1 h => ?_, fun elfData =>
    ⟨⟨fun he => ?_, CreateDiskFixed.main_eq_error⟩, fun img h => ?_⟩⟩
  · have hlen := length_buildDisk h1 h
    have hD := dataClusters_eq sizeMb
    refine ⟨by rw [clusterToSector_mul]; exact hlen, ?_, fun hcap c hc2 hc hne => ?_⟩
    · rw [hlen, hD]
      simp only [totalSectors, sizeBytes, sectorSize]
      omega
    · have hlt : c < 3 + totalClusters files := by
        by_contra hge
        rw [readBpb_buildDisk h1 h] at hne
        exact hne (fatEntry_buildDisk_of_ge h1 h (by omega) hc)
      rw [hD] at hcap
      simp only [dataStartSector, fatStartSector, reservedSectors, fatCount, sectorsPerFat,
        sectorsPerCluster, totalSectors, sizeBytes, sectorSize]
      omega
  · by_contra hle
    rw [CreateDiskFixed.main_eq (by omega)] at he
    cases he
  · obtain ⟨hle, rfl⟩ := CreateDiskFixed.main_eq_ok h
    have hlen := CreateDiskFixed.length_image hle
    have hcap : (CreateDiskFixed.totalSectors - CreateDiskFixed.dataStartSector) /
        CreateDiskFixed.sectorsPerCluster - 4 = 8144 := rfl
    refine ⟨hlen, ?_, fun hn c hc2 hc hne => ?_⟩
    · rw [hlen, hcap]
      simp only [CreateDiskFixed.totalSectors, CreateDiskFixed.diskSizeMb,
        CreateDiskFixed.bytesPerSector, CreateDiskFixed.bytesPerCluster, CreateDiskFixed.sectorsPerCluster]
      omega
    · rw [CreateDiskFixed.readBpb_image hle, CreateDiskFixed.fatEntry_image hle hc,
        CreateDiskFixed.fixedFat] at hne
      have hlt : c < 6 + CreateDiskFixed.clustersNeeded elfData.length := by
        split_ifs at hne <;> omega
      rw [hcap] at hn
      show 352 + (c - 2) * 8 + 8 ≤ 65536
      omega

set_option maxRecDepth 8000 in
/-- `main` of `build_disk.py` with no kernel binary, and `create_disk_fixed.py` with a four-byte
ELF file: each writes exactly its volume. -/
theorem capacity_unchecked_main :
    ∃ (now : DateTime) (files : List FileArg) (img img' : List UInt8),
      now = ⟨2025, 1, 1, 0, 0, 0, by decide, by decide, by decide, by decide, by decide⟩ ∧
      files = mainFiles ⟨"build/kernel.bin", none, now⟩ [] now now ∧
      1 ≤ 32 ∧ buildDisk 32 files = .ok img ∧
      img.length = max (sizeBytes 32) (clusterToSector (3 + totalClusters files) * sectorSize) ∧
      (img.length = totalSectors 32 * sectorSize ↔ 3 + totalClusters files ≤ 2 + dataClusters 32) ∧
      (3 + totalClusters files ≤ 2 + dataClusters 32 →
        ∀ c, 2 ≤ c → c < sectorsPerFat * sectorSize / 4 → fatEntry img (readBpb img) c ≠ 0 →
          dataStartSector + (c - 2) * sectorsPerCluster + sectorsPerCluster ≤ totalSectors 32) ∧
      (CreateDiskFixed.main (some [0x7F, 0x45, 0x4C, 0x46]) = .error .structError ↔
        20480 < 6 + CreateDiskFixed.clustersNeeded 4) ∧
      CreateDiskFixed.main (some [0x7F, 0x45, 0x4C, 0x46]) = .ok img' ∧
      img'.length = max (CreateDiskFixed.totalSectors * CreateDiskFixed.bytesPerSector)
        (196608 + CreateDiskFixed.clustersNeeded 4 * CreateDiskFixed.bytesPerCluster) ∧
      (img'.length = CreateDiskFixed.totalSectors * CreateDiskFixed.bytesPerSector ↔
        CreateDiskFixed.clustersNeeded 4 ≤ (CreateDiskFixed.totalSectors -
          CreateDiskFixed.dataStartSector) / CreateDiskFixed.sectorsPerCluster - 4) ∧
      (CreateDiskFixed.clustersNeeded 4 ≤ (CreateDiskFixed.totalSectors -
          CreateDiskFixed.dataStartSector) / CreateDiskFixed.sectorsPerCluster - 4 →
        ∀ c, 2 ≤ c → c < CreateDiskFixed.fatSize * CreateDiskFixed.bytesPerSector / 4 →
          fatEntry img' (readBpb img') c ≠ 0 →
          CreateDiskFixed.dataStartSector + (c - 2) * CreateDiskFixed.sectorsPerCluster +
            CreateDiskFixed.sectorsPerCluster ≤ CreateDiskFixed.totalSectors) := by
  let now : DateTime := ⟨2025, 1, 1, 0, 0, 0, by decide, by decide, by decide, by decide, by decide⟩
  obtain ⟨img, h⟩ := buildDisk_mainFiles_ok "build/kernel.bin" now now now (by decide) (by decide)
  obtain ⟨img', h'⟩ : ∃ img', CreateDiskFixed.main (some [0x7F, 0x45, 0x4C, 0x46]) = .ok img' :=
    ⟨_, @CreateDiskFixed.main_eq [0x7F, 0x45, 0x4C, 0x46] (by decide)⟩
  obtain ⟨hlen, hiff, hdata⟩ :=
    capacity_unchecked.1 32 (mainFiles ⟨"build/kernel.bin", none, now⟩ [] now now) img (by decide) h
  obtain ⟨herr, hok⟩ := capacity_unchecked.2 [0x7F, 0x45, 0x4C, 0x46]
  obtain ⟨hlen', hiff', hdata'⟩ := hok img' h'
  exact ⟨now, _, img, img', rfl, rfl, by decide, h, hlen, hiff, hdata, herr, h', hlen', hiff', hdata'⟩

/-! ## Header regions -/

/-- A sector of the reserved area of an image whose sectors 2 to 31 are zero. -/
theorem readSector_of_reserved_zeros {X : List UInt8} (hX : slice X 1024 16384 = zeros 15360) {s : Nat}
    (h2 : 2 ≤ s) (h32 : s < 32) : readSector X builderBpb s = zeros 512 := by
  have := slice_of_slice_eq (n := 15360) (p := 512 * (s - 2)) (m := 512) hX (by omega)
  rw [slice_zeros, show 1024 + 512 * (s - 2) = s * 512 by omega,
    show min (512 * (s - 2) + 512 - 512 * (s - 2)) (15360 - 512 * (s - 2)) = 512 by omega] at this
  exact this

/-- The header regions of every image. In a build of `build_disk.py` of at least 1 MB that
returns normally, a reader that takes the geometry from the boot sector finds in sector 0 the
boot sector `create_boot_sector` built, in sector 1 the FSInfo sector, in sectors 2 to 31 what
the initialisation sequence left there, and in each FAT copy the final FAT, packed as
little-endian 32-bit entries: no call writes below the data area. In every output of
`create_disk_fixed.py`, the sector the boot sector names as its backup is sector 0 again,
sectors 0 to 31 are what `main` wrote there, and each FAT copy is the FAT `create_fat` built. -/
theorem header_regions :
    (∀ sizeMb files img, 1 ≤ sizeMb → buildDisk sizeMb files = .ok img →
      bootSector (totalSectors sizeMb) = .ok (readSector img (readBpb img) 0) ∧
      readSector img (readBpb img) 1 = fsinfoBytes ∧
      (∀ s, 2 ≤ s → s < (readBpb img).reservedSectors →
        readSector img (readBpb img) s = readSector (initialImage sizeMb) (readBpb img) s) ∧
      ∀ i < (readBpb img).fatCount,
        readFatCopy img (readBpb img) i = (fatAfter initialFat 3 files).flatMap (leBytes 4) ∧
        ∀ c (hc : c < (fatAfter initialFat 3 files).length),
          unpackFrom 4 (readFatCopy img (readBpb img) i) (4 * c) = (fatAfter initialFat 3 files)[c]) ∧
    ∀ elfData img, CreateDiskFixed.main (some elfData) = .ok img →
      unpackFrom 2 img 50 = 6 ∧
      readSector img (readBpb img) (unpackFrom 2 img 50) = readSector img (readBpb img) 0 ∧
      CreateDiskFixed.createBootSector = .ok (readSector img (readBpb img) 0) ∧
      CreateDiskFixed.createFsinfo = .ok (readSector img (readBpb img) 1) ∧
      (∀ s, 2 ≤ s → s < (readBpb img).reservedSectors →
        (if s = 6 then CreateDiskFixed.createBootSector
          else pure (zeros CreateDiskFixed.bytesPerSector)) = .ok (readSector img (readBpb img) s)) ∧
      ∀ i < (readBpb img).fatCount,
        CreateDiskFixed.createFat CreateDiskFixed.totalSectors CreateDiskFixed.fatSize elfData.length =
          .ok (readFatCopy img (readBpb img) i) ∧
        ∀ c < CreateDiskFixed.fatSize * CreateDiskFixed.bytesPerSector / 4,
          unpackFrom 4 (readFatCopy img (readBpb img) i) (4 * c) =
            CreateDiskFixed.fixedFat (CreateDiskFixed.clustersNeeded elfData.length) c := by
  refine ⟨fun sizeMb files img h1 h => ?_, fun elfData img h => ?_⟩
  · obtain ⟨-, hH⟩ := headers_buildDisk h1 h
    have hsize := (buildDisk_eq_ok h).1
    have hfat : ∀ e ∈ fatAfter initialFat 3 files, e < 2 ^ 32 :=
      fatAfter_lt files (fun e he => initialFat_lt he) (by rw [length_initialFat]; decide)
    have hcopy : ∀ i < builderBpb.fatCount,
        readFatCopy img builderBpb i = (fatAfter initialFat 3 files).flatMap (leBytes 4) := by
      intro i hi
      obtain rfl | rfl : i = 0 ∨ i = 1 := by simp only [builderBpb, fatCount] at hi; omega
      · exact hH.fat1
      · exact hH.fat2
    rw [readBpb_buildDisk h1 h]
    refine ⟨(bootSector_eq (totalSectors_lt_iff.mpr hsize)).trans (congrArg _ hH.boot.symm), hH.fsinfo,
      fun s h2 h32 => ?_, fun i hi => ⟨hcopy i hi, fun c hc => ?_⟩⟩
    · rw [readSector_of_reserved_zeros hH.reserved h2 h32,
        readSector_of_reserved_zeros (initialImage_headers h1 hsize).2.2 h2 h32]
    · rw [hcopy i hi]
      exact unpackFrom_flatMap_leBytes hfat hc
  · obtain ⟨hle, rfl⟩ := CreateDiskFixed.main_eq_ok h
    rw [CreateDiskFixed.readBpb_image hle, CreateDiskFixed.image_backup_field hle]
    refine ⟨rfl, (CreateDiskFixed.image_backup hle).trans (CreateDiskFixed.image_boot hle).symm,
      CreateDiskFixed.createBootSector_eq.trans (congrArg _ (CreateDiskFixed.image_boot hle).symm),
      CreateDiskFixed.createFsinfo_eq.trans (congrArg _ (CreateDiskFixed.image_fsinfo hle).symm),
      fun s h2 h32 => ?_, fun i hi => ⟨(CreateDiskFixed.createFat_eq hle).trans
        (congrArg _ (CreateDiskFixed.image_fat hle hi).symm), fun c hc => ?_⟩⟩
    · rw [CreateDiskFixed.readSector_image_reserved hle h2 h32]
      split_ifs
      · exact CreateDiskFixed.createBootSector_eq
      · rfl
    · rw [show readFatCopy _ CreateDiskFixed.fixedBpb i = _ from CreateDiskFixed.image_fat hle hi]
      exact CreateDiskFixed.unpackFrom_fatBytes hle hc

set_option maxRecDepth 8000 in
/-- `main` of `build_disk.py` with no kernel binary, and `create_disk_fixed.py` with a four-byte
ELF file. -/
theorem header_regions_main :
    ∃ (now : DateTime) (files : List FileArg) (img img' : List UInt8),
      now = ⟨2025, 1, 1, 0, 0, 0, by decide, by decide, by decide, by decide, by decide⟩ ∧
      files = mainFiles ⟨"build/kernel.bin", none, now⟩ [] now now ∧
      1 ≤ 32 ∧ buildDisk 32 files = .ok img ∧
      bootSector (totalSectors 32) = .ok (readSector img (readBpb img) 0) ∧
      readSector img (readBpb img) 1 = fsinfoBytes ∧
      (∀ s, 2 ≤ s → s < (readBpb img).reservedSectors →
        readSector img (readBpb img) s = readSector (initialImage 32) (readBpb img) s) ∧
      (∀ i < (readBpb img).fatCount,
        readFatCopy img (readBpb img) i = (fatAfter initialFat 3 files).flatMap (leBytes 4) ∧
        ∀ c (hc : c < (fatAfter initialFat 3 files).length),
          unpackFrom 4 (readFatCopy img (readBpb img) i) (4 * c) = (fatAfter initialFat 3 files)[c]) ∧
      CreateDiskFixed.main (some [0x7F, 0x45, 0x4C, 0x46]) = .ok img' ∧
      unpackFrom 2 img' 50 = 6 ∧
      readSector img' (readBpb img') (unpackFrom 2 img' 50) = readSector img' (readBpb img') 0 ∧
      CreateDiskFixed.createBootSector = .ok (readSector img' (readBpb img') 0) ∧
      CreateDiskFixed.createFsinfo = .ok (readSector img' (readBpb img') 1) ∧
      (∀ s, 2 ≤ s → s < (readBpb img').reservedSectors →
        (if s = 6 then CreateDiskFixed.createBootSector
          else pure (zeros CreateDiskFixed.bytesPerSector)) = .ok (readSector img' (readBpb img') s)) ∧
      ∀ i < (readBpb img').fatCount,
        CreateDiskFixed.createFat CreateDiskFixed.totalSectors CreateDiskFixed.fatSize 4 =
          .ok (readFatCopy img' (readBpb img') i) ∧
        ∀ c < CreateDiskFixed.fatSize * CreateDiskFixed.bytesPerSector / 4,
          unpackFrom 4 (readFatCopy img' (readBpb img') i) (4 * c) =
            CreateDiskFixed.fixedFat (CreateDiskFixed.clustersNeeded 4) c := by
  let now : DateTime := ⟨2025, 1, 1, 0, 0, 0, by decide, by decide, by decide, by decide, by decide⟩
  obtain ⟨img, h⟩ := buildDisk_mainFiles_ok "build/kernel.bin" now now now (by decide) (by decide)
  obtain ⟨img', h'⟩ : ∃ img', CreateDiskFixed.main (some [0x7F, 0x45, 0x4C, 0x46]) = .ok img' :=
    ⟨_, @CreateDiskFixed.main_eq [0x7F, 0x45, 0x4C, 0x46] (by decide)⟩
  obtain ⟨hboot, hfsinfo, hres, hfat⟩ :=
    header_regions.1 32 (mainFiles ⟨"build/kernel.bin", none, now⟩ [] now now) img (by decide) h
  obtain ⟨hfield, hbackup, hboot', hfsinfo', hres', hfat'⟩ :=
    header_regions.2 [0x7F, 0x45, 0x4C, 0x46] img' h'
  exact ⟨now, _, img, img', rfl, rfl, by decide, h, hboot, hfsinfo, hres, hfat, h', hfield, hbackup,
    hboot', hfsinfo', hres', hfat'⟩

/-! ## The FSInfo hint -/

/-- Cluster 3 is in use in every finished image with a cluster allocated: it starts the first
non-empty file's chain. -/
theorem fatEntry_buildDisk_three {sizeMb : Nat} {files : List FileArg} {img : List UInt8}
    (h1 : 1 ≤ sizeMb) (h : buildDisk sizeMb files = .ok img) (hT : 0 < totalClusters files) :
    fatEntry img builderBpb 3 ≠ 0 := by
  obtain ⟨j, ⟨hj, hj1, hj2⟩, -⟩ := @existsUnique_chain 3 3 files le_rfl (by omega)
  have := fatEntry_run (headers_buildDisk h1 h).2 (c := 3) (by decide)
  rw [getElem?_fatAfter_of_mem hj hj1 hj2, getElem?_initialFat_of_ge le_rfl (by decide),
    Option.map_some', Option.some.injEq] at this
  rw [this]
  split <;> decide

/-- The FSInfo sector of `build_disk.py` is written before any allocation, with the hint of an
empty volume, and never again. In every build of at least 1 MB that returns normally, the hint
at offset 492 of sector 1 is cluster 3. It is the final `next_free_cluster` exactly when no call
allocated a cluster; otherwise the cluster it names is in use. -/
theorem fsinfo_hint_stale {sizeMb : Nat} {files : List FileArg} {img : List UInt8}
    (h1 : 1 ≤ sizeMb) (h : buildDisk sizeMb files = .ok img) :
    unpackFrom 4 (readSector img (readBpb img) 1) 492 = 3 ∧
    (unpackFrom 4 (readSector img (readBpb img) 1) 492 = 3 + totalClusters files ↔
      totalClusters files = 0) ∧
    (0 < totalClusters files →
      fatEntry img (readBpb img) (unpackFrom 4 (readSector img (readBpb img) 1) 492) ≠ 0) := by
  have hhint : unpackFrom 4 (readSector img (readBpb img) 1) 492 = 3 := by
    rw [readBpb_buildDisk h1 h]
    exact (congrArg (unpackFrom 4 · 492) (headers_buildDisk h1 h).2.fsinfo).trans fsinfoBytes_hint
  rw [hhint, readBpb_buildDisk h1 h]
  exact ⟨rfl, by omega, fatEntry_buildDisk_three h1 h⟩

set_option maxRecDepth 8000 in
/-- `main` with no kernel binary. -/
theorem fsinfo_hint_stale_main :
    ∃ (now : DateTime) (files : List FileArg) (img : List UInt8),
      now = ⟨2025, 1, 1, 0, 0, 0, by decide, by decide, by decide, by decide, by decide⟩ ∧
      files = mainFiles ⟨"build/kernel.bin", none, now⟩ [] now now ∧
      1 ≤ 32 ∧ buildDisk 32 files = .ok img ∧
      unpackFrom 4 (readSector img (readBpb img) 1) 492 = 3 ∧
      (unpackFrom 4 (readSector img (readBpb img) 1) 492 = 3 + totalClusters files ↔
        totalClusters files = 0) ∧
      (0 < totalClusters files →
        fatEntry img (readBpb img) (unpackFrom 4 (readSector img (readBpb img) 1) 492) ≠ 0) := by
  let now : DateTime := ⟨2025, 1, 1, 0, 0, 0, by decide, by decide, by decide, by decide, by decide⟩
  obtain ⟨img, h⟩ := buildDisk_mainFiles_ok "build/kernel.bin" now now now (by decide) (by decide)
  exact ⟨now, _, img, rfl, rfl, by decide, h, fsinfo_hint_stale (by decide) h⟩

end Fat32Image
