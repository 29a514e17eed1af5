import Fat32Image.Directory

/-!
# Header sectors and the initial state

`main` calls `create_boot_sector`, `create_fsinfo`, `initialize_fat` and
`create_root_directory` before adding any file. Each of the first two builds a fresh sector by
a run of writes and copies it into the image; this module says what the runs produce
(`bootSectorBytes`, `fsinfoBytes`), reads back the fields a reader needs, and gives the state
after the whole sequence in closed form (`initialState_eq`). The boot sector's `<L` total
sector count is the only field that can overflow: the sequence returns normally exactly for
sizes below 2 ^ 21 MB.

`write_fat_tables` runs last. Its `fat_data` is the table packed entry by entry; the two copies
are written at sectors 32 and 288 and, with the table's 32768 entries, end exactly at the data
area, leaving every other byte alone (`writeFatCopies_slices`). Up to 128 MB the table has an
entry for every data cluster (`geometry_consistent`); from 129 MB on it falls short.
-/

namespace Fat32Image

namespace Fat32DiskBuilder

/-! ## The boot sector -/

theorem bootSectorWrites_fits {t : Nat} (h : t < 2 ^ 32) :
    ∀ w ∈ bootSectorWrites t, w.Fits (zeros 512).length := by
  simp only [bootSectorWrites, List.mem_cons, List.not_mem_nil, or_false, length_zeros]
  rintro w (rfl | rfl | rfl | rfl | rfl | rfl | rfl | rfl | rfl | rfl | rfl | rfl | rfl | rfl |
    rfl | rfl | rfl | rfl | rfl | rfl | rfl | rfl | rfl | rfl | rfl | rfl | rfl | rfl)
  all_goals first | decide | (simp only [Write.Fits]; omega)

theorem bootSectorWrites_disjoint (t : Nat) : (bootSectorWrites t).Pairwise Write.Disjoint := by
  rw [pairwise_disjoint_iff_spans, show (bootSectorWrites t).map (fun w => (w.start, w.stop)) =
    (bootSectorWrites 0).map (fun w => (w.start, w.stop)) from rfl]
  decide

/-- The boot sector `create_boot_sector` builds, for a total sector count that fits its field. -/
def bootSectorBytes (t : Nat) : List UInt8 := writeAll (zeros 512) (bootSectorWrites t)

theorem bootSector_eq {t : Nat} (h : t < 2 ^ 32) : bootSector t = .ok (bootSectorBytes t) := by
  unfold bootSector bootSectorBytes
  exact (applyWrites_eq_writeAll (bootSectorWrites_fits h)).1

theorem length_bootSectorBytes {t : Nat} (h : t < 2 ^ 32) : (bootSectorBytes t).length = 512 := by
  unfold bootSectorBytes
  exact (applyWrites_eq_writeAll (bootSectorWrites_fits h)).2.trans (length_zeros 512)

/-- The only field of the boot sector that can overflow is the total sector count. -/
theorem bootSector_eq_ok {t : Nat} {b : List UInt8} (h : bootSector t = .ok b) : t < 2 ^ 32 := by
  have hput : ∀ start stop src, Write.put start stop src ∈ bootSectorWrites t →
      start + src.length = stop ∧ stop ≤ (zeros 512).length := by
    simp only [bootSectorWrites, List.mem_cons, Write.put.injEq, reduceCtorEq, List.mem_nil_iff,
      or_false, false_or, length_zeros]
    rintro a b c (⟨rfl, rfl, rfl⟩ | ⟨rfl, rfl, rfl⟩ | ⟨rfl, rfl, rfl⟩ | ⟨rfl, rfl, rfl⟩ |
      ⟨rfl, rfl, rfl⟩) <;> decide
  have := fits_of_applyWrites_ok h hput (.pack 4 32 t) (by simp [bootSectorWrites])
  exact_mod_cast this.2.1

theorem bootSector_field {t size offset value : Nat} (h : t < 2 ^ 32)
    (hw : Write.pack size offset value ∈ bootSectorWrites t) :
    unpackFrom size (bootSectorBytes t) offset = value :=
  unpackFrom_writeAll (bootSectorWrites_fits h) (bootSectorWrites_disjoint t) hw

/-- The geometry `__init__` fixes, as a BIOS parameter block. -/
def builderBpb : Bpb :=
  ⟨sectorSize, sectorsPerCluster, reservedSectors, fatCount, sectorsPerFat, rootCluster⟩

/-- A reader finds the builder's geometry in the boot sector. -/
theorem readBpb_bootSectorBytes {t : Nat} (h : t < 2 ^ 32) : readBpb (bootSectorBytes t) = builderBpb := by
  simp only [readBpb, builderBpb, bootSector_field h (by simp [bootSectorWrites] :
      Write.pack 2 11 sectorSize ∈ _), bootSector_field h (by simp [bootSectorWrites] :
      Write.pack 1 13 sectorsPerCluster ∈ _), bootSector_field h (by simp [bootSectorWrites] :
      Write.pack 2 14 reservedSectors ∈ _), bootSector_field h (by simp [bootSectorWrites] :
      Write.pack 1 16 fatCount ∈ _), bootSector_field h (by simp [bootSectorWrites] :
      Write.pack 4 36 sectorsPerFat ∈ _), bootSector_field h (by simp [bootSectorWrites] :
      Write.pack 4 44 rootCluster ∈ _)]

/-- The reader's cluster offsets are `cluster_to_sector`'s. -/
theorem builderBpb_clusterOffset {c : Nat} (hc : 2 ≤ c) :
    builderBpb.clusterOffset c = clusterToSector c * sectorSize := by
  rw [clusterToSector_mul, Bpb.clusterOffset, Bpb.dataStart]
  simp only [builderBpb, sectorSize, sectorsPerCluster, reservedSectors, fatCount, sectorsPerFat]
  omega

@[simp] theorem builderBpb_clusterBytes : builderBpb.clusterBytes = bytesPerCluster := rfl

/-! ## FSInfo -/

theorem fsinfoWrites_fits : ∀ w ∈ fsinfoWrites, w.Fits (zeros 512).length := by
  simp only [length_zeros]
  decide

/-- The FSInfo sector `create_fsinfo` builds. -/
def fsinfoBytes : List UInt8 := writeAll (zeros 512) fsinfoWrites

theorem createFsinfo_eq (s : Fat32DiskBuilder) :
    s.createFsinfo = .ok { s with diskImage := setSlice s.diskImage 512 1024 fsinfoBytes } := by
  rw [createFsinfo, (applyWrites_eq_writeAll fsinfoWrites_fits).1]
  rfl

theorem length_fsinfoBytes : fsinfoBytes.length = 512 :=
  (applyWrites_eq_writeAll fsinfoWrites_fits).2.trans (length_zeros 512)

/-- The next-free-cluster hint of the FSInfo sector is the constant 3. -/
theorem fsinfoBytes_hint : unpackFrom 4 fsinfoBytes 492 = 3 :=
  unpackFrom_writeAll fsinfoWrites_fits (by decide) (by simp [fsinfoWrites] : Write.pack 4 492 3 ∈ _)

/-! ## The FAT and the root directory -/

/-- `initialize_fat` on a table of at least three entries. -/
theorem initializeFat_eq {s : Fat32DiskBuilder} {a b c : Nat} {l : List Nat}
    (h : s.fatTable = a :: b :: c :: l) :
    s.initializeFat = .ok { s with fatTable := (0x0FFFFF00 ||| 0xF8) :: eoc :: eoc :: l } := by
  rw [initializeFat, h, setItem_of_lt (by simp only [List.length_cons]; omega), ok_bind,
    List.set_cons_zero, setItem_of_lt (by simp only [List.length_cons]; omega), ok_bind,
    List.set_cons_succ, List.set_cons_zero, setItem_of_lt (by simp only [List.length_cons]; omega),
    ok_bind, List.set_cons_succ, List.set_cons_succ, List.set_cons_zero]
  rfl

/-- The FAT after `initialize_fat`: the media entry, two end-of-chain marks, then zeros. -/
def initialFat : List Nat := (0x0FFFFF00 ||| 0xF8) :: eoc :: eoc :: List.replicate 32765 0

@[simp] theorem length_initialFat : initialFat.length = 32768 := by
  rw [initialFat, List.length_cons, List.length_cons, List.length_cons, List.length_replicate]

theorem getElem?_initialFat_of_ge {c : Nat} (h3 : 3 ≤ c) (hc : c < 32768) :
    initialFat[c]? = some 0 := by
  obtain ⟨d, rfl⟩ : ∃ d, c = d + 3 := ⟨c - 3, by omega⟩
  rw [initialFat, List.getElem?_cons_succ, List.getElem?_cons_succ, List.getElem?_cons_succ,
    List.getElem?_replicate, if_pos (by omega)]

theorem initialFat_lt {e : Nat} (h : e ∈ initialFat) : e < 2 ^ 32 := by
  simp only [initialFat, List.mem_cons, List.mem_replicate] at h
  rcases h with rfl | rfl | rfl | ⟨-, rfl⟩ <;> decide

theorem initializeFat_init (sizeMb : Nat) :
    (init sizeMb).initializeFat = .ok ⟨sizeMb, zeros (sizeBytes sizeMb), initialFat, 3⟩ :=
  initializeFat_eq (rfl : (init sizeMb).fatTable = 0 :: 0 :: 0 :: List.replicate 32765 0)

/-- The volume label entry of `create_root_directory`. -/
def volumeEntry : List UInt8 := writeAll (zeros 32) volumeEntryWrites

theorem live_volumeEntry : Live volumeEntry := by
  unfold Live
  decide

theorem createRootDirectory_eq (s : Fat32DiskBuilder) :
    s.createRootDirectory = .ok { s with
      diskImage := setSlice s.diskImage rootOffset (rootOffset + bytesPerCluster) (dirOf [volumeEntry]) } := by
  have hfits : ∀ w ∈ volumeEntryWrites, w.Fits (zeros 32).length := by
    simp only [length_zeros]
    decide
  obtain ⟨hv, hlen⟩ := applyWrites_eq_writeAll hfits
  have hroot : setSlice (zeros bytesPerCluster) 0 32 volumeEntry = dirOf [volumeEntry] := by
    rw [setSlice, dirOf, List.flatten_singleton, List.length_singleton]
    simp only [volumeEntry, hlen, length_zeros, zeros, List.take_zero, List.nil_append,
      List.drop_replicate, Nat.max_def]
    rfl
  rw [createRootDirectory, hv]
  simp only [ok_bind, pure_eq_ok, hroot]
  rfl

/-! ## The state after the initialisation sequence -/

/-- The image after `main`'s initialisation sequence. -/
def initialImage (sizeMb : Nat) : List UInt8 :=
  setSlice (setSlice (setSlice (zeros (sizeBytes sizeMb)) 0 512
    (bootSectorBytes (totalSectors sizeMb))) 512 1024 fsinfoBytes)
    rootOffset (rootOffset + bytesPerCluster) (dirOf [volumeEntry])

theorem totalSectors_lt_iff {sizeMb : Nat} : totalSectors sizeMb < 2 ^ 32 ↔ sizeMb < 2 ^ 21 := by
  simp only [totalSectors, sizeBytes, sectorSize]
  omega

/-- The initialisation sequence in closed form, for sizes whose total sector count fits the
boot sector's 32-bit field. -/
theorem initialState_eq {sizeMb : Nat} (h : sizeMb < 2 ^ 21) :
    initialState sizeMb = .ok ⟨sizeMb, initialImage sizeMb, initialFat, 3⟩ := by
  rw [initialState, createBootSector, show (init sizeMb).sizeMb = sizeMb from rfl,
    bootSector_eq (totalSectors_lt_iff.mpr h), ok_bind, pure_eq_ok,
    ok_bind, createFsinfo_eq, ok_bind,
    @initializeFat_eq _ 0 0 0 (List.replicate 32765 0) rfl, ok_bind, createRootDirectory_eq]
  rfl

theorem initialState_eq_ok {sizeMb : Nat} {s : Fat32DiskBuilder} (h : initialState sizeMb = .ok s) :
    sizeMb < 2 ^ 21 := by
  obtain ⟨s1, h1, -⟩ := bind_eq_ok.mp h
  obtain ⟨b, hb, -⟩ := bind_eq_ok.mp h1
  exact totalSectors_lt_iff.mp (bootSector_eq_ok hb)

theorem root_end_le_sizeBytes {sizeMb : Nat} (h1 : 1 ≤ sizeMb) : rootOffset + bytesPerCluster ≤ sizeBytes sizeMb := by
  rw [rootOffset_eq, bytesPerCluster, sectorSize, sectorsPerCluster, sizeBytes]
  omega

/-- The three images of the sequence, each as long as the blank one. -/
theorem length_initialImage_steps {sizeMb : Nat} (h1 : 1 ≤ sizeMb) (h : sizeMb < 2 ^ 21) :
    (setSlice (zeros (sizeBytes sizeMb)) 0 512 (bootSectorBytes (totalSectors sizeMb))).length =
      sizeBytes sizeMb ∧
    (setSlice (setSlice (zeros (sizeBytes sizeMb)) 0 512 (bootSectorBytes (totalSectors sizeMb)))
      512 1024 fsinfoBytes).length = sizeBytes sizeMb := by
  have hr := root_end_le_sizeBytes h1
  rw [rootOffset_eq, bytesPerCluster, sectorSize, sectorsPerCluster] at hr
  have hb := length_setSlice (by rw [length_bootSectorBytes (totalSectors_lt_iff.mpr h)])
    (by rw [length_zeros]; omega : 512 ≤ (zeros (sizeBytes sizeMb)).length)
  rw [length_zeros] at hb
  exact ⟨hb, (length_setSlice (by rw [length_fsinfoBytes]) (by rw [hb]; omega)).trans hb⟩

theorem length_initialImage {sizeMb : Nat} (h1 : 1 ≤ sizeMb) (h : sizeMb < 2 ^ 21) :
    (initialImage sizeMb).length = sizeBytes sizeMb := by
  have hr := root_end_le_sizeBytes h1
  have hs := length_initialImage_steps h1 h
  rw [initialImage, length_setSlice (by rw [length_dirOf (by simpa using live_volumeEntry) (by simp)])
    (by rw [hs.2]; exact hr), hs.2]

theorem rootLayout_initialImage {sizeMb : Nat} (h1 : 1 ≤ sizeMb) (h : sizeMb < 2 ^ 21) :
    RootLayout [volumeEntry] (initialImage sizeMb) := by
  have hs := length_initialImage_steps h1 h
  have hr := root_end_le_sizeBytes h1
  exact rootLayout_setSlice (by rw [hs.2]; exact hr) (by simpa using live_volumeEntry) (by simp)

/-- The sectors before the first FAT copy after the sequence: the boot sector, the FSInfo sector
and zeros. -/
theorem initialImage_headers {sizeMb : Nat} (h1 : 1 ≤ sizeMb) (h : sizeMb < 2 ^ 21) :
    slice (initialImage sizeMb) 0 512 = bootSectorBytes (totalSectors sizeMb) ∧
    slice (initialImage sizeMb) 512 1024 = fsinfoBytes ∧
    slice (initialImage sizeMb) 1024 16384 = zeros 15360 := by
  obtain ⟨hs1, hs2⟩ := length_initialImage_steps h1 h
  have hr := root_end_le_sizeBytes h1
  rw [rootOffset_eq, bytesPerCluster, sectorSize, sectorsPerCluster] at hr
  have hz : 512 ≤ (zeros (sizeBytes sizeMb)).length := by rw [length_zeros]; omega
  have below : ∀ o o', o' ≤ 16384 → slice (initialImage sizeMb) o o' =
      slice (setSlice (setSlice (zeros (sizeBytes sizeMb)) 0 512
        (bootSectorBytes (totalSectors sizeMb))) 512 1024 fsinfoBytes) o o' := fun o o' ho =>
    slice_setSlice_of_le (by rw [rootOffset_eq]; omega) (by rw [hs2]; omega)
  have hb := length_bootSectorBytes (totalSectors_lt_iff.mpr h)
  refine ⟨?_, ?_, ?_⟩
  · rw [below 0 512 (by omega), slice_setSlice_of_le (le_refl _) (by rw [hs1]; omega),
      slice_setSlice_self (by rw [hb]) (Nat.zero_le _)]
  · rw [below 512 1024 (by omega), slice_setSlice_self (by rw [length_fsinfoBytes]) (by omega)]
  · rw [below 1024 16384 (le_refl _), slice_setSlice_of_ge (by rw [length_fsinfoBytes])
      (by omega) (le_refl _), slice_setSlice_of_ge (by rw [hb]) hz (by omega), slice_zeros,
      show min (16384 - 1024) (sizeBytes sizeMb - 1024) = 15360 by omega]

/-! ## `write_fat_tables` -/

theorem length_flatMap_leBytes (fat : List Nat) : (fat.flatMap (leBytes 4)).length = 4 * fat.length := by
  induction fat with
  | nil => rfl
  | cons e es ih =>
    rw [List.flatMap_cons, List.length_append, length_leBytes, ih, List.length_cons]
    omega

/-- Entry `c` of the packed table is the `<L` encoding of `fat[c]`. -/
theorem slice_flatMap_leBytes {fat : List Nat} {c : Nat} (hc : c < fat.length) :
    slice (fat.flatMap (leBytes 4)) (4 * c) (4 * c + 4) = leBytes 4 fat[c] := by
  induction fat generalizing c with
  | nil => cases hc
  | cons e es ih =>
    rw [List.flatMap_cons]
    cases c with
    | zero => simp [slice]
    | succ c =>
      have := slice_append_right (leBytes 4 e) (es.flatMap (leBytes 4)) (4 * c) (4 * c + 4)
      rw [length_leBytes] at this
      rw [show 4 * (c + 1) = 4 + 4 * c by omega, show 4 + 4 * c + 4 = 4 + (4 * c + 4) by omega, this,
        ih (by simpa using hc), List.getElem_cons_succ]

/-- A reader decodes entry `c` of the packed table as `fat[c]`. -/
theorem unpackFrom_flatMap_leBytes {fat : List Nat} (h : ∀ e ∈ fat, e < 2 ^ 32) {c : Nat}
    (hc : c < fat.length) : unpackFrom 4 (fat.flatMap (leBytes 4)) (4 * c) = fat[c] := by
  rw [unpackFrom, slice_flatMap_leBytes hc, leValue_leBytes_of_lt (h _ (List.getElem_mem _))]

/-- Entry `c` of a packed table, read at its offset in an image that holds the table from
`off`. -/
theorem unpackFrom_of_slice_flatMap {img : List UInt8} {fat : List Nat} {off c : Nat}
    (hs : slice img off (off + 4 * fat.length) = fat.flatMap (leBytes 4)) (hfat : ∀ e ∈ fat, e < 2 ^ 32)
    (hc : c < fat.length) : some (unpackFrom 4 img (off + 4 * c)) = fat[c]? := by
  rw [unpackFrom, slice_of_slice_eq hs (by omega), slice_flatMap_leBytes hc,
    leValue_leBytes_of_lt (hfat _ (List.getElem_mem _)), List.getElem?_eq_getElem hc]

theorem packEntries_eq {fat : List Nat} (h : ∀ e ∈ fat, e < 2 ^ 32) :
    packEntries fat = .ok (fat.flatMap (leBytes 4)) := by
  induction fat with
  | nil => rfl
  | cons e es ih =>
    have he : e < 256 ^ 4 := h e (List.mem_cons_self _ _)
    rw [packEntries, pack_of_lt he, ok_bind, ih (fun e' h' => h e' (List.mem_cons_of_mem _ h')), ok_bind,
      List.flatMap_cons]
    rfl

/-- `fat_data` of a table whose entries all fit `<L`: the packed entries, padded to a sector. -/
theorem fatData_eq {fat : List Nat} (h : ∀ e ∈ fat, e < 2 ^ 32) :
    fatData fat = .ok (fat.flatMap (leBytes 4) ++
      zeros ((sectorSize - 4 * fat.length % sectorSize) % sectorSize)) := by
  rw [fatData, packEntries_eq h, ok_bind, length_flatMap_leBytes]
  rfl

theorem writeFatCopies_eq (img data : List UInt8) :
    writeFatCopies img data = setSlice (setSlice img 16384 (16384 + data.length) data)
      147456 (147456 + data.length) data := rfl

/-- The two FAT copies cover bytes 16384 to 278528 of an image that holds them; the bytes below
and above are left alone. -/
theorem writeFatCopies_slices {X d : List UInt8} (hX : 278528 ≤ X.length) (hd : d.length = 131072) :
    (writeFatCopies X d).length = X.length ∧
    (∀ o o', o' ≤ 16384 → slice (writeFatCopies X d) o o' = slice X o o') ∧
    slice (writeFatCopies X d) 16384 147456 = d ∧
    slice (writeFatCopies X d) 147456 278528 = d ∧
    ∀ o o', 278528 ≤ o → slice (writeFatCopies X d) o o' = slice X o o' := by
  have h1 : (setSlice X 16384 (16384 + d.length) d).length = X.length :=
    length_setSlice rfl (by omega)
  have h2 : (setSlice (setSlice X 16384 (16384 + d.length) d) 147456 (147456 + d.length) d).length =
      X.length := (length_setSlice rfl (by omega)).trans h1
  rw [writeFatCopies_eq]
  refine ⟨h2, fun o o' ho => ?_, ?_, ?_, fun o o' ho => ?_⟩
  · rw [slice_setSlice_of_le (by omega) (by omega), slice_setSlice_of_le (by omega) (by omega)]
  · rw [slice_setSlice_of_le (le_refl _) (by omega), show (147456 : Nat) = 16384 + d.length by omega]
    exact slice_setSlice_self rfl (by omega)
  · rw [show (278528 : Nat) = 147456 + d.length by omega]
    exact slice_setSlice_self rfl (by omega)
  · rw [slice_setSlice_of_ge rfl (by omega) (by omega), slice_setSlice_of_ge rfl (by omega) (by omega)]

/-! ## Geometry -/

/-- `(total_sectors - data_start_sector) // sectors_per_cluster`: the clusters of the data area. -/
def dataClusters (sizeMb : Nat) : Nat := (totalSectors sizeMb - dataStartSector) / sectorsPerCluster

theorem dataClusters_eq (sizeMb : Nat) : dataClusters sizeMb = (sizeMb * 2048 - 544) / 8 := by
  simp only [dataClusters, totalSectors, sizeBytes, sectorSize, dataStartSector, fatStartSector,
    reservedSectors, fatCount, sectorsPerFat, sectorsPerCluster]
  omega

end Fat32DiskBuilder

end Fat32Image
