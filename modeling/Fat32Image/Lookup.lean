import Fat32Image.Listing
import Fat32Image.RoundTrip

/-!
# Files by name

`add_file_to_directory` takes an optional `directory_cluster`. On any cluster allocated before
the call, the data loop leaves it alone, so the call's effect on what a reader sees there is the
slot loop's (`listing_addFileToDirectory`), and it raises `DirectoryFull` exactly when none of
the cluster's 128 slots is free (`addFileToDirectory_eq_directoryFull_iff`).

In a finished image of `build_disk.py` a reader looking a file up by name in the root cluster
finds the entry of the first call whose 8.3 name it is, and reads back that call's data
(`lookup_root_buildDisk`). The builder never checks for a name already in the directory: two
calls whose names agree once cut to 8.3 (`readme.txt` and `README.TXT`, or two names that agree
in their first eight characters) both get an entry, and the later one is never found by name.
No name the encoding produces is the volume label's, which has lower-case letters
(`fatFilename_ne_label`).
-/

namespace Fat32Image

open Fat32DiskBuilder

/-! ## A call on any directory cluster -/

section AnyCluster

variable {s s' : Fat32DiskBuilder} {f : FileArg} {c : Nat}

/-- The data loop of a call leaves alone a cluster allocated before it. -/
theorem clusterData_writeFileData {img fileData : List UInt8} {first n next : Nat} (hc : c < next)
    (himg : clusterToSector c * sectorSize + bytesPerCluster ≤ img.length)
    (hcases : n = 0 ∨ next ≤ first) :
    clusterData (writeFileData img fileData first n) c = clusterData img c := by
  rcases hcases with rfl | hle
  · rfl
  · have hK : clusterToSector c * sectorSize + bytesPerCluster ≤ clusterToSector first * sectorSize := by
      rw [clusterToSector_mul, clusterToSector_mul, bytesPerCluster, sectorSize, sectorsPerCluster]
      omega
    rw [clusterData, ← slice_take (le_refl _), take_writeFileData hK himg, slice_take (le_refl _)]
    rfl

/-- A call that returns normally on a directory cluster `c` allocated before it and inside the
image, with a name that does not start with NUL: its entry went into the first free slot `t`
of the cluster, and a reader then sees there the entries before slot `t`, the new entry, and
the old entries from slot `t + 2` on only if slot `t + 1` was a deleted entry. A lookup of the
new name finds the first entry before slot `t` with that name, or the new entry. -/
theorem listing_addFileToDirectory (hc : c < s.nextFreeCluster)
    (himg : clusterToSector c * sectorSize + bytesPerCluster ≤ s.diskImage.length)
    (hnul : f.filename.toList.head? ≠ some '\x00')
    (h : s.addFileToDirectory f.filename f.fileData f.now (some c) = .ok s') :
    ∃ e, f.entry (f.firstCluster s.nextFreeCluster) = .ok e ∧ ∃ t < 128,
      (∀ u < t, ¬ Free (slot (clusterData s.diskImage c) u)) ∧
      Free (slot (clusterData s.diskImage c) t) ∧
      listing (clusterData s'.diskImage c) = insertedListing (clusterData s.diskImage c) e 128 t ∧
      lookup (clusterData s'.diskImage c) (e.take 11) = some (decodeEntry
        ((((List.range t).map (slot (clusterData s.diskImage c))).find? fun x =>
          x.take 11 = e.take 11).getD e)) := by
  obtain ⟨name, first, s1, dirData, h1, h2, h3, rfl⟩ := addFileToDirectory_eq_ok h
  obtain ⟨himg1, hfirst, hcases⟩ := allocateFileClusters_first (f := f) h2
  change insertEntry (clusterData (writeFileData s1.diskImage f.fileData first f.clusters) c) _ _ =
    _ at h3
  rw [himg1, clusterData_writeFileData hc himg hcases] at h3
  obtain ⟨e, he⟩ := insertEntry_eq_ok h3
  have hlen : (clusterData s.diskImage c).length = 32 * 128 := length_slice _ _ himg
  have hout : clusterData (setSlice (writeFileData s1.diskImage f.fileData first f.clusters)
      (clusterToSector c * sectorSize) (clusterToSector c * sectorSize + bytesPerCluster) dirData) c =
      dirData := by
    have hl := length_insertEntry (by rw [hlen])
      (fun e' he' => (entry_fields (length_of_shortName_eq_ok h1) he').1) h3
    have := length_le_writeFileData s.diskImage f.fileData first f.clusters
    rw [himg1]
    exact slice_setSlice_self (by rw [hl, hlen]; rfl) (by omega)
  obtain ⟨t, ht, hbefore, hfree, hlisting, hlookup⟩ :=
    listing_insertEntry hlen he (live_of_entry h1 hnul he) h3
  refine ⟨e, by rw [FileArg.entry, h1, ok_bind, ← hfirst, he], t, ht, hbefore, hfree, ?_, ?_⟩
  · exact (congrArg listing hout).trans hlisting
  · exact (congrArg (lookup · _) hout).trans hlookup

/-- The call on the root cluster, given as `directory_cluster = 2`, from the state `main` reaches
after its initialisation sequence on a 1 MB image. -/
theorem listing_addFileToDirectory_root :
    ∃ s', (⟨1, initialImage 1, initialFat, 3⟩ : Fat32DiskBuilder).addFileToDirectory "HELLO.TXT"
      [1, 2, 3] ⟨2025, 1, 1, 0, 0, 0, by decide, by decide, by decide, by decide, by decide⟩
      (some 2) = .ok s' ∧
    2 < 3 ∧ clusterToSector 2 * sectorSize + bytesPerCluster ≤ (initialImage 1).length ∧
    "HELLO.TXT".toList.head? ≠ some '\x00' ∧
    ∃ e, (⟨"HELLO.TXT", [1, 2, 3], ⟨2025, 1, 1, 0, 0, 0, by decide, by decide, by decide, by decide,
        by decide⟩⟩ : FileArg).entry 3 = .ok e ∧ ∃ t < 128,
      (∀ u < t, ¬ Free (slot (clusterData (initialImage 1) 2) u)) ∧
      Free (slot (clusterData (initialImage 1) 2) t) ∧
      listing (clusterData s'.diskImage 2) = insertedListing (clusterData (initialImage 1) 2) e 128 t ∧
      lookup (clusterData s'.diskImage 2) (e.take 11) = some (decodeEntry
        ((((List.range t).map (slot (clusterData (initialImage 1) 2))).find? fun x =>
          x.take 11 = e.take 11).getD e)) := by
  let f : FileArg := ⟨"HELLO.TXT", [1, 2, 3],
    ⟨2025, 1, 1, 0, 0, 0, by decide, by decide, by decide, by decide, by decide⟩⟩
  have hf : f.Valid := ⟨(shortName_ok_iff _).mpr (by decide), by decide, by decide, by decide⟩
  obtain ⟨s', h⟩ := @addFileToDirectory_root_ok [volumeEntry] ⟨1, initialImage 1, initialFat, 3⟩ f
    (rootLayout_initialImage (by decide) (by decide)) (le_refl 3) (by decide) hf
    (by rw [length_initialFat]; decide) (by rw [length_initialFat]; decide)
  have himg : clusterToSector 2 * sectorSize + bytesPerCluster ≤ (initialImage 1).length := by
    rw [length_initialImage (by decide) (by decide), clusterToSector_mul]
    decide
  exact ⟨s', h, by decide, himg, by decide,
    listing_addFileToDirectory (s := ⟨1, initialImage 1, initialFat, 3⟩) (by decide) himg (by decide) h⟩

/-- A call on a directory cluster `c` allocated before it and inside the image raises
`DirectoryFull`, naming the file, exactly when its name encodes, its clusters can be allocated,
and none of the cluster's 128 slots is an end marker or a deleted entry. -/
theorem addFileToDirectory_eq_directoryFull_iff {msg : String} (hc : c < s.nextFreeCluster)
    (himg : clusterToSector c * sectorSize + bytesPerCluster ≤ s.diskImage.length) :
    s.addFileToDirectory f.filename f.fileData f.now (some c) = .error (.directoryFull msg) ↔
      msg = "Directory full, cannot add " ++ f.filename ∧
        (∀ u < 128, ¬ Free (slot (clusterData s.diskImage c) u)) ∧
        (∃ name, fatFilename f.filename = .ok name) ∧
        ∃ r, s.allocateFileClusters f.fileData.length f.clusters = .ok r := by
  have hlen : (clusterData s.diskImage c).length = 32 * 128 := length_slice _ _ himg
  unfold addFileToDirectory
  dsimp only [Option.getD_some]
  rw [bind_eq_error]
  constructor
  · rintro (h1 | ⟨name, h1, h⟩)
    · cases fatFilename_eq_error h1
    rcases bind_eq_error.mp h with h2 | ⟨⟨first, s1⟩, h2, h⟩
    · cases allocateFileClusters_eq_error h2
    obtain ⟨himg1, -, hcases⟩ := allocateFileClusters_first (f := f) h2
    dsimp only at h
    rcases bind_eq_error.mp h with h3 | ⟨_, -, h3⟩
    · change insertEntry (clusterData (writeFileData s1.diskImage f.fileData first f.clusters) c)
        _ _ = _ at h3
      rw [himg1, clusterData_writeFileData hc himg hcases] at h3
      obtain ⟨rfl⟩ : msg = "Directory full, cannot add " ++ f.filename := by
        unfold insertEntry at h3
        split at h3
        · cases h3
          rfl
        · rcases bind_eq_error.mp h3 with h3 | ⟨_, -, h3⟩
          · cases applyWrites_eq_error h3
          · cases h3
      exact ⟨rfl, (insertEntry_eq_directoryFull_iff hlen).mp h3, ⟨name, h1⟩, ⟨_, h2⟩⟩
    · cases h3
  · rintro ⟨rfl, hfull, ⟨name, h1⟩, ⟨⟨first, s1⟩, h2⟩⟩
    obtain ⟨himg1, -, hcases⟩ := allocateFileClusters_first (f := f) h2
    refine .inr ⟨name, h1, bind_eq_error.mpr (.inr ⟨(first, s1), h2, ?_⟩)⟩
    dsimp only
    change insertEntry (clusterData (writeFileData s1.diskImage f.fileData first f.clusters) c)
      _ _ >>= _ = _
    rw [himg1, clusterData_writeFileData hc himg hcases,
      (insertEntry_eq_directoryFull_iff hlen).mpr hfull]
    rfl

theorem addFileToDirectory_eq_directoryFull_iff_root :
    2 < 3 ∧ clusterToSector 2 * sectorSize + bytesPerCluster ≤ (initialImage 1).length ∧
    ((⟨1, initialImage 1, initialFat, 3⟩ : Fat32DiskBuilder).addFileToDirectory "HELLO.TXT"
      [1, 2, 3] ⟨2025, 1, 1, 0, 0, 0, by decide, by decide, by decide, by decide, by decide⟩
      (some 2) = .error (.directoryFull "Directory full, cannot add HELLO.TXT") ↔
      "Directory full, cannot add HELLO.TXT" = "Directory full, cannot add " ++ "HELLO.TXT" ∧
        (∀ u < 128, ¬ Free (slot (clusterData (initialImage 1) 2) u)) ∧
        (∃ name, fatFilename "HELLO.TXT" = .ok name) ∧
        ∃ r, (⟨1, initialImage 1, initialFat, 3⟩ : Fat32DiskBuilder).allocateFileClusters 3
          (clustersNeeded 3) = .ok r) := by
  have himg : clusterToSector 2 * sectorSize + bytesPerCluster ≤ (initialImage 1).length := by
    rw [length_initialImage (by decide) (by decide), clusterToSector_mul]
    decide
  exact ⟨by decide, himg, addFileToDirectory_eq_directoryFull_iff
    (f := ⟨"HELLO.TXT", [1, 2, 3], ⟨2025, 1, 1, 0, 0, 0, by decide, by decide, by decide, by decide,
      by decide⟩⟩) (by decide) himg⟩

end AnyCluster

/-! ## The volume label is never a file's name -/

theorem mem_of_mem_splitext_fst {p : List Char} {c : Char} (h : c ∈ (splitext p).1) : c ∈ p := by
  unfold splitext at h
  dsimp only at h
  split at h
  · exact List.mem_of_mem_take h
  · exact h

theorem mem_of_mem_splitext_snd {p : List Char} {c : Char} (h : c ∈ (splitext p).2) : c ∈ p := by
  unfold splitext at h
  dsimp only at h
  split at h
  · exact List.mem_of_mem_drop h
  · cases h

theorem not_lower_toUpper (c : Char) : ¬ (97 ≤ c.toUpper.toNat ∧ c.toUpper.toNat ≤ 122) := by
  rw [toNat_toUpper]
  split <;> omega

theorem upperChar_not_lower (c : Char) : ∀ d ∈ upperChar c, ¬ (97 ≤ d.toNat ∧ d.toNat ≤ 122) := by
  unfold upperChar
  split <;> first | decide | (rintro d hd; rw [List.mem_singleton.mp hd]; exact not_lower_toUpper _)

/-- No byte of an encoded name is a lower-case letter: the name is upper-cased first, and the
padding is spaces. -/
theorem not_lower_of_fatFilename {filename : String} {b : List UInt8}
    (h : fatFilename filename = .ok b) {x : UInt8} (hx : x ∈ b) : ¬ (97 ≤ x.toNat ∧ x.toNat ≤ 122) := by
  rw [fatFilename, shortName_eq, encodeAscii_ok_iff] at h
  obtain ⟨hascii, rfl⟩ := h
  obtain ⟨c, hc, rfl⟩ := List.mem_map.mp hx
  have hval : (asciiByte c).toNat = c.toNat :=
    UInt8.toNat_ofNat_of_lt (by have := hascii c hc; unfold UInt8.size; omega)
  rw [hval]
  simp only [ljust, List.mem_append, List.mem_replicate, keptStem, keptExt] at hc
  rcases hc with (hc | ⟨-, rfl⟩) | (hc | ⟨-, rfl⟩)
  · obtain ⟨c0, -, hc0⟩ := List.mem_flatMap.mp (mem_of_mem_splitext_fst (List.mem_of_mem_take hc))
    exact upperChar_not_lower c0 c hc0
  · decide
  · obtain ⟨c0, -, hc0⟩ :=
      List.mem_flatMap.mp (mem_of_mem_splitext_snd (List.mem_of_mem_drop (List.mem_of_mem_take hc)))
    exact upperChar_not_lower c0 c hc0
  · decide

/-- The root cluster's first entry, the volume label, is named `NumOS FAT32`, which no call's
encoded name is. -/
theorem fatFilename_ne_label {filename : String} {b : List UInt8} (h : fatFilename filename = .ok b) :
    b ≠ asciiBytes "NumOS FAT32" := by
  rintro rfl
  exact not_lower_of_fatFilename h (x := 0x75) (by decide) (by decide)

theorem take_volumeEntry : volumeEntry.take 11 = asciiBytes "NumOS FAT32" := by decide

/-! ## Looking a file up in a finished image -/

/-- In a list of entries whose names are the calls' encoded names, the first entry with a name
some call has is the entry of the first such call. -/
theorem find?_runEntries {files : List FileArg} {es : List (List UInt8)} {name : List UInt8}
    (hes : runEntries 3 files = .ok es) {j : Nat} (hj : j < files.length)
    (hname : fatFilename files[j].filename = .ok name) :
    ∃ i, ∃ hi : i < files.length, fatFilename files[i].filename = .ok name ∧
      (∀ i' (hi' : i' < files.length), fatFilename files[i'].filename = .ok name → i ≤ i') ∧
      ∃ hie : i < es.length, (es.find? fun e => e.take 11 = name) = some es[i] := by
  obtain ⟨hlen, hget⟩ := runEntries_getElem? hes
  -- the name of entry `i` is call `i`'s encoded name
  have hnames : ∀ i (hi : i < files.length) (hie : i < es.length),
      fatFilename files[i].filename = .ok (es[i].take 11) := by
    intro i hi hie
    obtain ⟨e, he, hentry⟩ := hget i hi
    obtain ⟨-, -, -, -, n, hn, htake⟩ := FileArg.entry_fields hentry
    rw [List.getElem?_eq_getElem hie, Option.some.injEq] at he
    rw [he, htake, hn]
  obtain ⟨b, hb⟩ : ∃ b, (es.find? fun e => e.take 11 = name) = some b := by
    refine Option.ne_none_iff_exists'.mp fun hnone => ?_
    exact List.find?_eq_none.mp hnone es[j] (List.getElem_mem _)
      (decide_eq_true (Except.ok.inj ((hnames j hj (by omega)).symm.trans hname)))
  obtain ⟨hpb, i, hie, rfl, hmin⟩ := List.find?_eq_some_iff_getElem.mp hb
  have hi : i < files.length := by omega
  have hnamei : fatFilename files[i].filename = .ok name := by
    rw [hnames i hi hie, of_decide_eq_true hpb]
  refine ⟨i, hi, hnamei, fun i' hi' h' => ?_, hie, hb⟩
  by_contra hlt
  have := hmin i' (by omega)
  rw [hnames i' hi' (by omega), Except.ok.injEq] at h'
  simp [h'] at this

/-- Looking a file up by name in the root cluster of a finished image, with the geometry of its
own boot sector: for the encoded name of some call, the reader finds the entry of the first call
with that name, and reads back that call's data with the zero padding of its last cluster; for a
name no call has, it finds nothing, unless it is the volume label's. -/
theorem lookup_root_buildDisk {sizeMb : Nat} {files : List FileArg} {img : List UInt8}
    (h1 : 1 ≤ sizeMb) (hnul : ∀ f ∈ files, f.filename.toList.head? ≠ some '\x00')
    (hcap : 3 + totalClusters files ≤ 2 + dataClusters sizeMb)
    (h : buildDisk sizeMb files = .ok img) (name : List UInt8) :
    ((∀ j (hj : j < files.length), fatFilename files[j].filename ≠ .ok name) →
      name ≠ asciiBytes "NumOS FAT32" →
      lookup (readCluster img (readBpb img) (readBpb img).rootCluster) name = none) ∧
    ∀ j (hj : j < files.length), fatFilename files[j].filename = .ok name →
      ∃ i, ∃ hi : i < files.length, fatFilename files[i].filename = .ok name ∧
        (∀ i' (hi' : i' < files.length), fatFilename files[i'].filename = .ok name → i ≤ i') ∧
        lookup (readCluster img (readBpb img) (readBpb img).rootCluster) name =
          some (rootEntry img (i + 1)) ∧
        ∀ fuel, files[i].clusters ≤ fuel →
          readFile img (readBpb img) fuel (rootEntry img (i + 1)) = some (files[i].fileData ++
            zeros (files[i].clusters * bytesPerCluster - files[i].fileData.length)) := by
  obtain ⟨-, hH⟩ := headers_buildDisk h1 h
  obtain ⟨es, hes, hL⟩ := root_buildDisk h1 hnul h
  have hbpb := readBpb_buildDisk h1 h
  have hroot : readCluster img (readBpb img) (readBpb img).rootCluster = dirOf (volumeEntry :: es) := by
    rw [hbpb, readCluster_root, hL.root]
  have hlookup : ∀ name', name' ≠ asciiBytes "NumOS FAT32" →
      lookup (readCluster img (readBpb img) (readBpb img).rootCluster) name' =
        (es.find? fun e => e.take 11 = name').map decodeEntry := by
    intro name' hne
    rw [hroot, lookup_dirOf hL.live hL.length_le, List.find?_cons_of_neg _ (by
      simpa [take_volumeEntry] using hne.symm)]
  obtain ⟨hlen, hget⟩ := runEntries_getElem? hes
  refine ⟨fun hnone hne => ?_, fun j hj hname => ?_⟩
  · rw [hlookup name hne, Option.map_eq_none', List.find?_eq_none]
    intro e he hp
    obtain ⟨i, hie, rfl⟩ := List.getElem_of_mem he
    obtain ⟨e', he', hentry⟩ := hget i (by omega)
    obtain ⟨-, -, -, -, n, hn, htake⟩ := FileArg.entry_fields hentry
    rw [List.getElem?_eq_getElem hie, Option.some.injEq] at he'
    have hn' : n = name := by rw [← htake, ← he', of_decide_eq_true hp]
    exact hnone i (by omega) (hn' ▸ hn)
  obtain ⟨i, hi, hnamei, hfirst, hie, hfind⟩ := find?_runEntries hes hj hname
  have hslot : rootEntry img (i + 1) = decodeEntry es[i] := by
    rw [rootEntry, hroot, slot_dirOf hL.live (by rw [List.length_cons]; omega)]
    rfl
  refine ⟨i, hi, hnamei, hfirst, by rw [hlookup name (fatFilename_ne_label hname), hfind, hslot]; rfl,
    fun fuel hfuel => ?_⟩
  obtain ⟨e, he, hentry⟩ := hget i hi
  rw [List.getElem?_eq_getElem hie, Option.some.injEq] at he
  obtain ⟨-, -, hcl, -⟩ := FileArg.entry_fields hentry
  rw [hbpb, hslot, he]
  by_cases hne : 0 < files[i].fileData.length
  · exact readFile_chain hH (totalClusters_le_of_buildDisk h) (data_buildDisk h1 hcap h).2 hi hne
      (by rw [hcl, FileArg.firstCluster, if_pos hne]) hfuel
  · have hc : (decodeEntry e).cluster = 0 := by rw [hcl, FileArg.firstCluster, if_neg hne]
    rw [readFile, if_pos hc, FileArg.clusters,
      List.eq_nil_of_length_eq_zero (Nat.eq_zero_of_not_pos hne)]
    rfl

/-- Two calls whose names agree once cut to 8.3: a lookup finds the first. -/
theorem lookup_root_buildDisk_collision :
    ∃ (files : List FileArg) (img : List UInt8),
      files = [⟨"readme.txt", [1], ⟨2025, 1, 1, 0, 0, 0, by decide, by decide, by decide, by decide,
          by decide⟩⟩,
        ⟨"README.TXT", [2], ⟨2025, 1, 1, 0, 0, 0, by decide, by decide, by decide, by decide,
          by decide⟩⟩] ∧
      fatFilename "readme.txt" = .ok (asciiBytes "README  TXT") ∧
      fatFilename "README.TXT" = .ok (asciiBytes "README  TXT") ∧
      1 ≤ 1 ∧ (∀ f ∈ files, f.filename.toList.head? ≠ some '\x00') ∧
      3 + totalClusters files ≤ 2 + dataClusters 1 ∧ buildDisk 1 files = .ok img ∧
      ((∀ j (hj : j < files.length), fatFilename files[j].filename ≠ .ok (asciiBytes "README  TXT")) →
        asciiBytes "README  TXT" ≠ asciiBytes "NumOS FAT32" →
        lookup (readCluster img (readBpb img) (readBpb img).rootCluster) (asciiBytes "README  TXT") =
          none) ∧
      ∀ j (hj : j < files.length), fatFilename files[j].filename = .ok (asciiBytes "README  TXT") →
        ∃ i, ∃ hi : i < files.length, fatFilename files[i].filename = .ok (asciiBytes "README  TXT") ∧
          (∀ i' (hi' : i' < files.length),
            fatFilename files[i'].filename = .ok (asciiBytes "README  TXT") → i ≤ i') ∧
          lookup (readCluster img (readBpb img) (readBpb img).rootCluster) (asciiBytes "README  TXT") =
            some (rootEntry img (i + 1)) ∧
          ∀ fuel, files[i].clusters ≤ fuel →
            readFile img (readBpb img) fuel (rootEntry img (i + 1)) = some (files[i].fileData ++
              zeros (files[i].clusters * bytesPerCluster - files[i].fileData.length)) := by
  let now : DateTime := ⟨2025, 1, 1, 0, 0, 0, by decide, by decide, by decide, by decide, by decide⟩
  let files : List FileArg := [⟨"readme.txt", [1], now⟩, ⟨"README.TXT", [2], now⟩]
  have hnul : ∀ f ∈ files, f.filename.toList.head? ≠ some '\x00' := by decide
  have hcap : 3 + totalClusters files ≤ 2 + dataClusters 1 := by decide
  obtain ⟨img, h⟩ := @buildDisk_ok 1 files (by decide) (by decide) (by decide)
    (fun f hf => by
      rw [List.mem_pair] at hf
      rcases hf with rfl | rfl <;>
        exact ⟨(shortName_ok_iff _).mpr (by decide), by decide, by decide, by decide⟩)
    (by decide)
  exact ⟨files, img, rfl, rfl, rfl, le_refl 1, hnul, hcap, h,
    lookup_root_buildDisk (le_refl 1) hnul hcap h (asciiBytes "README  TXT")⟩

end Fat32Image
