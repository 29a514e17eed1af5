import Fat32Image.Main

/-!
# Reading back an image of `build_disk.py`

The round trip `build_round_trip` reads a finished image the way a FAT32 driver does: the
geometry from the image's own boot sector, the entries of the root cluster it names, the chain
of each entry in the first FAT copy, and the clusters of the chain. It gets back every file the
calls added, followed by the zero padding of its last cluster.

The proof puts together three facts about the finished image, each proved once in `Build`: the
header sectors and the FAT copies (`headers_buildDisk`), the root cluster (`root_buildDisk`),
and the data clusters (`data_buildDisk`). What is left here is the reader's side: the chain it
follows is the chain `Alloc` laid down (`readFile_chain`).
-/

namespace Fat32Image

open Fat32DiskBuilder

/-- Entry `c` of the first FAT copy of a finished image is entry `c` of the FAT the run left. -/
theorem fatEntry_run {sizeMb : Nat} {files : List FileArg} {img : List UInt8}
    (hH : Headers sizeMb (fatAfter initialFat 3 files) img) {c : Nat} (hc : c < 32768) :
    some (fatEntry img builderBpb c) = (fatAfter initialFat 3 files)[c]? :=
  hH.fatEntry (fatAfter_lt files (fun e he => initialFat_lt he) (by rw [length_initialFat]; decide))
    (by rw [length_fatAfter, length_initialFat]; exact hc) (by rw [length_fatAfter, length_initialFat])

/-- A reader takes the builder's geometry from the boot sector of a finished image. -/
theorem readBpb_buildDisk {sizeMb : Nat} {files : List FileArg} {img : List UInt8}
    (h1 : 1 ≤ sizeMb) (h : buildDisk sizeMb files = .ok img) : readBpb img = builderBpb :=
  (readBpb_of_slice (headers_buildDisk h1 h).2.boot).trans
    (readBpb_bootSectorBytes (totalSectors_lt_iff.mpr (buildDisk_eq_ok h).1))

/-- The chain of a non-empty file in a finished image: a reader follows it from the chain's first
cluster through the file's clusters, and gets the file back padded with zeros to whole
clusters. -/
theorem readFile_chain {sizeMb : Nat} {files : List FileArg} {img : List UInt8} {e : DirEntry}
    (hH : Headers sizeMb (fatAfter initialFat 3 files) img) (htot : 3 + totalClusters files ≤ 32768)
    (hdata : ∀ j (hj : j < files.length), ∀ i < files[j].clusters,
      clusterData img (chainStart 3 files j + i) = chunk files[j].fileData i)
    {j : Nat} (hj : j < files.length) (hne : 0 < files[j].fileData.length)
    (he : e.cluster = chainStart 3 files j) {fuel : Nat} (hfuel : files[j].clusters ≤ fuel) :
    readFile img builderBpb fuel e = some (files[j].fileData ++
      zeros (files[j].clusters * bytesPerCluster - files[j].fileData.length)) := by
  have hn : 0 < files[j].clusters := clustersNeeded_pos_iff.mpr hne
  have h3 : 3 ≤ chainStart 3 files j := chainStart_zero 3 files ▸ chainStart_mono 3 files (Nat.zero_le j)
  have hend : chainStart 3 files (j + 1) ≤ initialFat.length := by
    have := chainStart_mono 3 files (show j + 1 ≤ files.length by omega)
    rw [chainStart_length] at this
    rw [length_initialFat]
    omega
  have hfat : chainStart 3 files j + files[j].clusters ≤ 32768 := by
    rw [chainStart_succ_of_lt hj, length_initialFat] at hend
    exact hend
  -- the entries along the chain, read from the first FAT copy
  have hlink : ∀ k < files[j].clusters, fatEntry img builderBpb (chainStart 3 files j + k) =
      if k + 1 < files[j].clusters then chainStart 3 files j + k + 1 else eoc := by
    intro k hk
    have := fatEntry_run hH (c := chainStart 3 files j + k) (by omega)
    rw [fatAfter_chain hj hend hk] at this
    exact Option.some.inj this
  have hlinks : ∀ k, k + 1 < files[j].clusters →
      fatEntry img builderBpb (e.cluster + k) = e.cluster + k + 1 ∧ e.cluster + k + 1 < 0x0FFFFFF8 := by
    intro k hk
    rw [he, hlink k (by omega), if_pos hk]
    exact ⟨rfl, by omega⟩
  have hlast : 0x0FFFFFF8 ≤ fatEntry img builderBpb (e.cluster + (files[j].clusters - 1)) := by
    rw [he, hlink _ (by omega), if_neg (by omega)]
    decide
  rw [readFile_of_links (by omega) hn hfuel hlinks hlast, he]
  congr 1
  rw [List.map_congr_left fun i hi => by
    rw [readCluster_builderBpb img (by omega), hdata j hj i (List.mem_range.mp hi)]]
  exact flatten_chunks _

/-- The round trip of `build_disk.py`: for a size of at least 1 MB, names that do not start with
NUL and clusters that fit in the volume, a reader that takes the geometry from the finished
image's boot sector finds, in slot `j + 1` of the root cluster, the entry of call `j`, with its
encoded name, the archive attribute and the file's size, and reads back the file followed by
the zero padding of its last cluster, for every fuel that covers its chain. -/
theorem build_round_trip {sizeMb : Nat} {files : List FileArg} {img : List UInt8}
    (h1 : 1 ≤ sizeMb) (hnul : ∀ f ∈ files, f.filename.toList.head? ≠ some '\x00')
    (hcap : 3 + totalClusters files ≤ 2 + dataClusters sizeMb)
    (h : buildDisk sizeMb files = .ok img) :
    readBpb img = builderBpb ∧
    ∀ j (hj : j < files.length),
      fatFilename files[j].filename = .ok (rootEntry img (j + 1)).name ∧
      (rootEntry img (j + 1)).attr = 0x20 ∧
      (rootEntry img (j + 1)).size = files[j].fileData.length ∧
      ∀ fuel, files[j].clusters ≤ fuel →
        readRootFile img fuel (j + 1) = some (files[j].fileData ++
          zeros (files[j].clusters * bytesPerCluster - files[j].fileData.length)) := by
  obtain ⟨-, hH⟩ := headers_buildDisk h1 h
  obtain ⟨es, hes, hL⟩ := root_buildDisk h1 hnul h
  have hbpb := readBpb_buildDisk h1 h
  refine ⟨hbpb, fun j hj => ?_⟩
  obtain ⟨e, he, hentry⟩ := (runEntries_getElem? hes).2 j hj
  obtain ⟨hjl, rfl⟩ := List.getElem?_eq_some_iff.mp he
  have hslot : rootEntry img (j + 1) = decodeEntry es[j] := by
    rw [rootEntry, hbpb, readCluster_root, hL.root,
      slot_dirOf hL.live (by rw [List.length_cons]; omega)]
    rfl
  obtain ⟨-, hattr, hcl, hsz, name, hname, htake⟩ := FileArg.entry_fields hentry
  refine ⟨by rw [hslot, hname, ← htake]; rfl, hslot ▸ hattr, hslot ▸ hsz, fun fuel hfuel => ?_⟩
  rw [readRootFile, hslot, hbpb]
  by_cases hne : 0 < files[j].fileData.length
  · exact readFile_chain hH (totalClusters_le_of_buildDisk h) (data_buildDisk h1 hcap h).2 hj hne
      (by rw [hcl, FileArg.firstCluster, if_pos hne]) hfuel
  · have hc : (decodeEntry es[j]).cluster = 0 := by rw [hcl, FileArg.firstCluster, if_neg hne]
    rw [readFile, if_pos hc, FileArg.clusters,
      List.eq_nil_of_length_eq_zero (Nat.eq_zero_of_not_pos hne)]
    rfl

set_option maxRecDepth 4000 in
/-- `main` with no kernel binary and no further files makes a build that returns normally, for
clock readings from 1980 to 2107. -/
theorem buildDisk_mainFiles_ok (path : String) (now configNow readmeNow : DateTime)
    (hc : 1980 ≤ configNow.year ∧ configNow.year < 2108)
    (hr : 1980 ≤ readmeNow.year ∧ readmeNow.year < 2108) :
    ∃ img, buildDisk 32 (mainFiles ⟨path, none, now⟩ [] configNow readmeNow) = .ok img := by
  have hfiles : mainFiles ⟨path, none, now⟩ [] configNow readmeNow =
      [⟨"CONFIG.TXT", configData, configNow⟩, ⟨"README.TXT", readmeData, readmeNow⟩] := rfl
  have hconfig : (∃ name, fatFilename "CONFIG.TXT" = .ok name) ∧
      "CONFIG.TXT".toList.head? ≠ some '\x00' ∧ configData.length < 2 ^ 32 :=
    ⟨(shortName_ok_iff _).mpr (by decide), by decide, by decide⟩
  have hreadme : (∃ name, fatFilename "README.TXT" = .ok name) ∧
      "README.TXT".toList.head? ≠ some '\x00' ∧ readmeData.length < 2 ^ 32 :=
    ⟨(shortName_ok_iff _).mpr (by decide), by decide, by decide⟩
  refine buildDisk_ok (by decide) (by decide) (by rw [hfiles]; exact Nat.le_of_ble_eq_true rfl)
    (fun f hf => ?_) (by rw [totalClusters_mainFiles]; decide)
  rw [hfiles, List.mem_pair] at hf
  rcases hf with rfl | rfl
  · exact ⟨hconfig.1, hconfig.2.1, hc, hconfig.2.2⟩
  · exact ⟨hreadme.1, hreadme.2.1, hr, hreadme.2.2⟩

set_option maxRecDepth 8000 in
/-- `main` with no kernel binary and no further files adds the two literal files to a 32 MB
image, and both read back. -/
theorem build_round_trip_main :
    ∃ (now : DateTime) (files : List FileArg) (img : List UInt8),
      now = ⟨2025, 1, 1, 0, 0, 0, by decide, by decide, by decide, by decide, by decide⟩ ∧
      files = mainFiles ⟨"build/kernel.bin", none, now⟩ [] now now ∧
      1 ≤ 32 ∧ (∀ f ∈ files, f.filename.toList.head? ≠ some '\x00') ∧
      3 + totalClusters files ≤ 2 + dataClusters 32 ∧ buildDisk 32 files = .ok img ∧
      readBpb img = builderBpb ∧
      ∀ j (hj : j < files.length),
        fatFilename files[j].filename = .ok (rootEntry img (j + 1)).name ∧
        (rootEntry img (j + 1)).attr = 0x20 ∧
        (rootEntry img (j + 1)).size = files[j].fileData.length ∧
        ∀ fuel, files[j].clusters ≤ fuel →
          readRootFile img fuel (j + 1) = some (files[j].fileData ++
            zeros (files[j].clusters * bytesPerCluster - files[j].fileData.length)) := by
  let now : DateTime := ⟨2025, 1, 1, 0, 0, 0, by decide, by decide, by decide, by decide, by decide⟩
  have hnul : ∀ f ∈ mainFiles ⟨"build/kernel.bin", none, now⟩ [] now now,
      f.filename.toList.head? ≠ some '\x00' := by decide
  have hcap : 3 + totalClusters (mainFiles ⟨"build/kernel.bin", none, now⟩ [] now now) ≤
      2 + dataClusters 32 := by decide
  obtain ⟨img, h⟩ := buildDisk_mainFiles_ok "build/kernel.bin" now now now (by decide) (by decide)
  exact ⟨now, _, img, rfl, rfl, by decide, hnul, hcap, h, build_round_trip (by decide) hnul hcap h⟩

end Fat32Image
