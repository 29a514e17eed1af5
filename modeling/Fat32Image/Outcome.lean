import Fat32Image.Lookup

/-!
# When a build returns normally, and what its entries record

`buildDisk_ok_iff` says exactly when a build of files whose names do not start with NUL
returns normally: the total sector count fits the boot sector, the root cluster has a slot for
every call after the volume label, the FAT has an entry for every cluster, every name encodes as
ASCII, and every clock reading is from 1980 to 2107. Each other case raises: `UnicodeEncodeError`,
`IndexError` from `allocate_cluster`, `DirectoryFull`, or `struct.error` from packing a date
before 1980 or after 2107 into its two bytes (`year_of_entry`).

The entry of a call records the clock reading it took: its date fields decode to the day, its
time fields to the time, to the two seconds the format keeps (`entry_stamped`, `timestamps_buildDisk`).

A name that starts with NUL encodes, and its entry starts with the end marker: the call returns
normally and allocates and writes the file's clusters, but no reader sees the entry, and the next
call writes its own entry into the same slot (`addFileToDirectory_nul`).
-/

namespace Fat32Image

open Fat32DiskBuilder

/-! ## What a call needs to build its entry -/

/-- Every write of an entry that was built fits its 32 bytes: the name is 11 bytes, and a packed
field that did not raise was in range. -/
theorem entryWrites_fits_of_ok {name e : List UInt8} {first size : Nat} {now : DateTime}
    (hname : name.length = 11) (h : applyWrites (zeros 32) (entryWrites name first size now) = .ok e) :
    ∀ w ∈ entryWrites name first size now, w.Fits (zeros 32).length :=
  fits_of_applyWrites_ok h (by
    simp only [entryWrites, List.mem_cons, Write.put.injEq, List.mem_nil_iff, or_false, reduceCtorEq]
    rintro a b c (⟨rfl, rfl, rfl⟩ | ⟨rfl, rfl, rfl⟩) <;> simp [hname])

/-- A call builds its entry only for a clock reading from 1980 to 2107: for any other year
`struct.pack_into("<H", entry, 16, date_val)` raises. -/
theorem year_of_entry {name e : List UInt8} {first size : Nat} {now : DateTime}
    (hname : name.length = 11) (h : applyWrites (zeros 32) (entryWrites name first size now) = .ok e) :
    1980 ≤ now.year ∧ now.year < 2108 := by
  have hw := entryWrites_fits_of_ok hname h (.pack 2 16 now.dateVal) (by simp [entryWrites])
  exact now.dateVal_fits_iff.mp ⟨hw.1, by simpa using hw.2.1⟩

theorem FileArg.valid_of_entry {f : FileArg} {first : Nat} {e : List UInt8}
    (h : f.entry first = .ok e) :
    (∃ name, fatFilename f.filename = .ok name) ∧ 1980 ≤ f.now.year ∧ f.now.year < 2108 := by
  obtain ⟨name, h1, he⟩ := bind_eq_ok.mp h
  exact ⟨⟨name, h1⟩, year_of_entry (length_of_shortName_eq_ok h1) he⟩

/-- A call's clusters are among the run's. -/
theorem clusters_le_totalClusters {f : FileArg} {files : List FileArg} (hf : f ∈ files) :
    f.clusters ≤ totalClusters files :=
  List.le_sum_of_mem (List.mem_map_of_mem _ hf)

/-- A build of files whose names do not start with NUL, on at least 1 MB, returns normally
exactly when the total sector count fits the boot sector, there are at most 127 calls, the FAT
has an entry for each cluster they allocate, and each call's name encodes and its clock reads a
year from 1980 to 2107. -/
theorem buildDisk_ok_iff {sizeMb : Nat} {files : List FileArg} (h1 : 1 ≤ sizeMb)
    (hnul : ∀ f ∈ files, f.filename.toList.head? ≠ some '\x00') :
    (∃ img, buildDisk sizeMb files = .ok img) ↔
      sizeMb < 2 ^ 21 ∧ files.length ≤ 127 ∧ 3 + totalClusters files ≤ 32768 ∧
        ∀ f ∈ files, (∃ name, fatFilename f.filename = .ok name) ∧
          1980 ≤ f.now.year ∧ f.now.year < 2108 := by
  constructor
  · rintro ⟨img, h⟩
    obtain ⟨es, hes, hL⟩ := root_buildDisk h1 hnul h
    obtain ⟨hlen, hget⟩ := runEntries_getElem? hes
    refine ⟨(buildDisk_eq_ok h).1, ?_, totalClusters_le_of_buildDisk h, fun f hf => ?_⟩
    · have := hL.length_le
      rw [List.length_cons] at this
      omega
    · obtain ⟨j, hj, rfl⟩ := List.getElem_of_mem hf
      obtain ⟨e, -, hentry⟩ := hget j hj
      exact FileArg.valid_of_entry hentry
  · rintro ⟨hsize, hk, hroom, hfiles⟩
    refine buildDisk_ok h1 hsize hk (fun f hf => ?_) hroom
    obtain ⟨hname, hyear⟩ := hfiles f hf
    -- the size fits its 32-bit field, since the FAT has an entry for each of the file's clusters
    have hle := clusters_le_totalClusters hf
    have hsz := length_le_clustersNeeded f.fileData.length
    rw [FileArg.clusters] at hle
    rw [bytesPerCluster, sectorSize, sectorsPerCluster] at hsz
    exact ⟨hname, hnul f hf, hyear, by omega⟩

theorem buildDisk_ok_iff_one :
    1 ≤ 1 ∧ (∀ f ∈ [(⟨"A.TXT", [1], ⟨2025, 1, 1, 0, 0, 0, by decide, by decide, by decide, by decide,
      by decide⟩⟩ : FileArg)], f.filename.toList.head? ≠ some '\x00') ∧
    ((∃ img, buildDisk 1 [⟨"A.TXT", [1], ⟨2025, 1, 1, 0, 0, 0, by decide, by decide, by decide,
        by decide, by decide⟩⟩] = .ok img) ↔
      1 < 2 ^ 21 ∧ [(⟨"A.TXT", [1], ⟨2025, 1, 1, 0, 0, 0, by decide, by decide, by decide, by decide,
          by decide⟩⟩ : FileArg)].length ≤ 127 ∧
        3 + totalClusters [⟨"A.TXT", [1], ⟨2025, 1, 1, 0, 0, 0, by decide, by decide, by decide,
          by decide, by decide⟩⟩] ≤ 32768 ∧
        ∀ f ∈ [(⟨"A.TXT", [1], ⟨2025, 1, 1, 0, 0, 0, by decide, by decide, by decide, by decide,
            by decide⟩⟩ : FileArg)],
          (∃ name, fatFilename f.filename = .ok name) ∧ 1980 ≤ f.now.year ∧ f.now.year < 2108) :=
  ⟨le_refl 1, by decide, buildDisk_ok_iff (le_refl 1) (by decide)⟩

/-! ## The timestamps an entry records -/

/-- The date a 16-bit FAT date field stands for: the year from 1980 in bits 9 to 15, the month in
bits 5 to 8 and the day in bits 0 to 4. -/
def decodeDate (v : Nat) : Nat × Nat × Nat := (1980 + v / 512, v / 32 % 16, v % 32)

/-- The time a 16-bit FAT time field stands for: the hour in bits 11 to 15, the minute in bits 5
to 10 and the second, in two-second steps, in bits 0 to 4. -/
def decodeTime (v : Nat) : Nat × Nat × Nat := (v / 2048, v / 32 % 64, v % 32 * 2)

/-- An `|` of a multiple of `2 ^ i` and a number below `2 ^ i` is their sum. -/
theorem or_eq_add {a b i : Nat} (ha : a % 2 ^ i = 0) (hb : b < 2 ^ i) : a ||| b = a + b := by
  obtain ⟨q, rfl⟩ := Nat.dvd_of_mod_eq_zero ha
  exact (Nat.mul_add_lt_is_or hb q).symm

theorem DateTime.timeVal_eq (now : DateTime) :
    now.timeVal = 2048 * now.hour + 32 * now.minute + now.second / 2 := by
  have := now.minute_lt
  have := now.second_lt
  have h1 : now.hour * 2 ^ 11 ||| now.minute * 2 ^ 5 = now.hour * 2 ^ 11 + now.minute * 2 ^ 5 :=
    or_eq_add (Nat.mul_mod_left _ _) (by simp only [Nat.reducePow]; omega)
  have h2 : now.hour * 2 ^ 11 + now.minute * 2 ^ 5 ||| now.second / 2 =
      now.hour * 2 ^ 11 + now.minute * 2 ^ 5 + now.second / 2 :=
    or_eq_add (i := 5) (by simp only [Nat.reducePow]; omega) (by simp only [Nat.reducePow]; omega)
  rw [DateTime.timeVal, Nat.shiftLeft_eq, Nat.shiftLeft_eq, h1, h2]
  simp only [Nat.reducePow]
  omega

theorem DateTime.dateVal_eq (now : DateTime) :
    now.dateVal = ((now.year : Int) - 1980) * 512 + (32 * now.month + now.day : Nat) := by
  have := now.day_le
  rw [DateTime.dateVal, Nat.shiftLeft_eq, or_eq_add (i := 5) (by simp) (by omega)]
  push_cast
  ring

theorem decodeTime_timeVal (now : DateTime) :
    decodeTime now.timeVal = (now.hour, now.minute, now.second / 2 * 2) := by
  have := now.minute_lt
  have := now.second_lt
  rw [decodeTime, DateTime.timeVal_eq, Prod.mk.injEq, Prod.mk.injEq]
  omega

theorem decodeDate_dateVal {now : DateTime} (h : 1980 ≤ now.year) :
    decodeDate now.dateVal.toNat = (now.year, now.month, now.day) := by
  have := now.month_le
  have := now.day_le
  have hv : now.dateVal.toNat = 512 * (now.year - 1980) + 32 * now.month + now.day := by
    rw [DateTime.dateVal_eq]
    omega
  rw [decodeDate, hv, Prod.mk.injEq, Prod.mk.injEq]
  omega

/-- The five date and time fields of an entry record the clock reading `now`: the creation, last
access and last write dates decode to its day, the creation and last write times to its time,
to the two seconds the format keeps. -/
def Stamped (e : List UInt8) (now : DateTime) : Prop :=
  decodeDate (unpackFrom 2 e 16) = (now.year, now.month, now.day) ∧
  unpackFrom 2 e 18 = unpackFrom 2 e 16 ∧ unpackFrom 2 e 24 = unpackFrom 2 e 16 ∧
  decodeTime (unpackFrom 2 e 14) = (now.hour, now.minute, now.second / 2 * 2) ∧
  unpackFrom 2 e 22 = unpackFrom 2 e 14

/-- The entry of a call records its clock reading. -/
theorem entry_stamped {f : FileArg} {first : Nat} {e : List UInt8} (h : f.entry first = .ok e) :
    Stamped e f.now := by
  obtain ⟨name, h1, he⟩ := bind_eq_ok.mp h
  have hname := length_of_shortName_eq_ok h1
  have hfits := entryWrites_fits_of_ok hname he
  have hyear := year_of_entry hname he
  obtain ⟨hw, -⟩ := applyWrites_eq_writeAll hfits
  rw [hw, Except.ok.injEq] at he
  subst he
  have hdis := entryWrites_disjoint name first f.fileData.length f.now
  have field : ∀ {o : Nat} {v : Int}, Write.pack 2 o v ∈ entryWrites name first f.fileData.length f.now →
      unpackFrom 2 (writeAll (zeros 32) (entryWrites name first f.fileData.length f.now)) o = v.toNat :=
    fun hw => unpackFrom_writeAll hfits hdis hw
  rw [Stamped, field (o := 16) (v := f.now.dateVal) (by simp [entryWrites]),
    field (o := 18) (v := f.now.dateVal) (by simp [entryWrites]),
    field (o := 24) (v := f.now.dateVal) (by simp [entryWrites]),
    field (o := 14) (v := (f.now.timeVal : Int)) (by simp [entryWrites]),
    field (o := 22) (v := (f.now.timeVal : Int)) (by simp [entryWrites]), Int.toNat_ofNat]
  exact ⟨decodeDate_dateVal hyear.1, rfl, rfl, decodeTime_timeVal f.now, rfl⟩

/-- In a finished image of at least 1 MB, the entry of call `j`, read from slot `j + 1` of the
root cluster the boot sector names, records the clock reading the call took. -/
theorem timestamps_buildDisk {sizeMb : Nat} {files : List FileArg} {img : List UInt8}
    (h1 : 1 ≤ sizeMb) (hnul : ∀ f ∈ files, f.filename.toList.head? ≠ some '\x00')
    (h : buildDisk sizeMb files = .ok img) :
    ∀ j (hj : j < files.length),
      Stamped (slot (readCluster img (readBpb img) (readBpb img).rootCluster) (j + 1)) files[j].now := by
  obtain ⟨es, hes, hL⟩ := root_buildDisk h1 hnul h
  obtain ⟨hlen, hget⟩ := runEntries_getElem? hes
  intro j hj
  obtain ⟨e, he, hentry⟩ := hget j hj
  obtain ⟨hje, rfl⟩ := List.getElem?_eq_some_iff.mp he
  rw [readBpb_buildDisk h1 h, readCluster_root, hL.root,
    slot_dirOf hL.live (by rw [List.length_cons]; omega)]
  exact entry_stamped hentry

theorem timestamps_buildDisk_one :
    ∃ img, buildDisk 1 [⟨"A.TXT", [1], ⟨2025, 6, 30, 23, 59, 59, by decide, by decide, by decide,
        by decide, by decide⟩⟩] = .ok img ∧
      1 ≤ 1 ∧ (∀ f ∈ [(⟨"A.TXT", [1], ⟨2025, 6, 30, 23, 59, 59, by decide, by decide, by decide,
        by decide, by decide⟩⟩ : FileArg)], f.filename.toList.head? ≠ some '\x00') ∧
      ∀ j (hj : j < 1),
        Stamped (slot (readCluster img (readBpb img) (readBpb img).rootCluster) (j + 1))
          ([(⟨"A.TXT", [1], ⟨2025, 6, 30, 23, 59, 59, by decide, by decide, by decide, by decide,
            by decide⟩⟩ : FileArg)].get ⟨j, hj⟩).now := by
  let f : FileArg := ⟨"A.TXT", [1], ⟨2025, 6, 30, 23, 59, 59, by decide, by decide, by decide,
    by decide, by decide⟩⟩
  obtain ⟨img, h⟩ := @buildDisk_ok 1 [f] (by decide) (by decide) (by decide)
    (fun f' hf => by
      rw [List.mem_singleton.mp hf]
      exact ⟨(shortName_ok_iff _).mpr (by decide), by decide, by decide, by decide⟩)
    (by decide)
  exact ⟨img, h, le_refl 1, by decide, timestamps_buildDisk (le_refl 1) (by decide) h⟩

/-! ## A name that starts with NUL -/

/-- A root cluster of live entries followed by an entry that starts with the end marker: the
reader lists the live entries only, and the slot scan stops at the last entry. -/
theorem dirOf_append_end {E : List (List UInt8)} {e : List UInt8} (hE : ∀ x ∈ E, Live x)
    (hk : E.length < 128) (he : e.length = 32) (h0 : e.head? = some 0) :
    (dirOf (E ++ [e])).length = bytesPerCluster ∧ slot (dirOf (E ++ [e])) E.length = e ∧
      listing (dirOf (E ++ [e])) = E ∧ freeSlot (dirOf (E ++ [e])) = some (32 * E.length) := by
  have hlenE := length_flatten_live hE
  have hform : dirOf (E ++ [e]) =
      [] ++ E.flatten ++ (e ++ zeros (bytesPerCluster - 32 * (E ++ [e]).length)) := by
    rw [dirOf, List.flatten_append, List.flatten_singleton, List.nil_append, List.append_assoc]
  have hlen := length_dirOf_end hE hk he
  -- the slots: the live entries, then `e`
  have hslot : ∀ t (ht : t < E.length), slot (dirOf (E ++ [e])) t = E[t] := by
    intro t ht
    rw [hform, List.nil_append, slot, ← List.append_assoc, slice_append_left _ _ (by
      rw [List.length_append, hlenE, he]; omega), slice_append_left _ _ (by omega)]
    exact slice_flatten (fun x hx => (hE x hx).1) ht
  have hslotE : slot (dirOf (E ++ [e])) E.length = e := by
    rw [hform, List.nil_append, slot, ← List.append_assoc, slice_append_left _ _ (by
      rw [List.length_append, hlenE, he]), show 32 * E.length = E.flatten.length + 0 by omega,
      show E.flatten.length + 0 + 32 = E.flatten.length + 32 by omega, slice_append_right, slice,
      List.drop_zero, List.take_of_length_le (by omega)]
  refine ⟨hlen, hslotE, ?_, ?_⟩
  · have hmap : (List.range' 0 E.length).map (slot (dirOf (E ++ [e]))) = E := by
      refine List.ext_getElem (by simp) fun u h1 h2 => ?_
      rw [List.getElem_map, List.getElem_range', Nat.zero_add, Nat.one_mul, hslot u h2]
    obtain ⟨m, hm⟩ : ∃ m, 128 - E.length = m + 1 := ⟨127 - E.length, by omega⟩
    rw [listing, hlen, show bytesPerCluster / 32 = E.length + (128 - E.length) by
      rw [bytesPerCluster, sectorSize, sectorsPerCluster]; omega,
      listingFrom_not_free _ fun u _ hu => by
        rw [hslot u (by omega)]; exact not_free_of_live (hE _ (List.getElem_mem _)),
      hmap, hm, Nat.zero_add, listingFrom, hslotE, if_pos h0, List.append_nil]
  · exact freeSlot_dirOf_end hE hk he h0

/-- A call on the root whose filename starts with NUL and that returns normally: its entry, which
starts with the byte 0, went into the slot after the last entry, but the reader's listing stops
there and does not show it, and the next call's scan finds the same slot; its clusters are
allocated all the same. -/
theorem addFileToDirectory_nul {E : List (List UInt8)} {s s' : Fat32DiskBuilder} {f : FileArg}
    (hL : RootLayout E s.diskImage) (hnext : 3 ≤ s.nextFreeCluster)
    (hnul : f.filename.toList.head? = some '\x00')
    (h : s.addFileToDirectory f.filename f.fileData f.now none = .ok s') :
    ∃ e, f.entry (f.firstCluster s.nextFreeCluster) = .ok e ∧ e.head? = some 0 ∧
      slot (rootDir s'.diskImage) E.length = e ∧ listing (rootDir s'.diskImage) = E ∧
      freeSlot (rootDir s'.diskImage) = some (32 * E.length) ∧
      s'.nextFreeCluster = s.nextFreeCluster + f.clusters := by
  obtain ⟨e, he, hlen, h0, hk, -, hroot⟩ := rootDir_addFileToDirectory_nul hL hnext hnul h
  obtain ⟨-, hs, hl, hf⟩ := dirOf_append_end hL.live hk hlen h0
  rw [hroot]
  exact ⟨e, he, h0, hs, hl, hf, (fat_addFileToDirectory h).2.1⟩

/-- A call named `\x00A` on the state `main` reaches after its initialisation sequence. -/
theorem addFileToDirectory_nul_initial :
    ∃ s', (⟨1, initialImage 1, initialFat, 3⟩ : Fat32DiskBuilder).addFileToDirectory "\x00A" [1]
      ⟨2025, 1, 1, 0, 0, 0, by decide, by decide, by decide, by decide, by decide⟩ none = .ok s' ∧
    RootLayout [volumeEntry] (initialImage 1) ∧ 3 ≤ 3 ∧ "\x00A".toList.head? = some '\x00' ∧
    ∃ e, (⟨"\x00A", [1], ⟨2025, 1, 1, 0, 0, 0, by decide, by decide, by decide, by decide,
        by decide⟩⟩ : FileArg).entry 3 = .ok e ∧ e.head? = some 0 ∧
      slot (rootDir s'.diskImage) 1 = e ∧ listing (rootDir s'.diskImage) = [volumeEntry] ∧
      freeSlot (rootDir s'.diskImage) = some 32 ∧ s'.nextFreeCluster = 4 := by
  let f : FileArg := ⟨"\x00A", [1], ⟨2025, 1, 1, 0, 0, 0, by decide, by decide, by decide,
    by decide, by decide⟩⟩
  let s : Fat32DiskBuilder := ⟨1, initialImage 1, initialFat, 3⟩
  have hL := rootLayout_initialImage (by decide) (by decide : 1 < 2 ^ 21)
  obtain ⟨name, hname⟩ : ∃ name, fatFilename f.filename = .ok name :=
    (shortName_ok_iff _).mpr (by decide)
  have hroom : s.nextFreeCluster + f.clusters ≤ s.fatTable.length := by
    show 3 + clustersNeeded 1 ≤ initialFat.length
    rw [length_initialFat]
    decide
  obtain ⟨s1, halloc⟩ : ∃ s1, s.allocateFileClusters f.fileData.length f.clusters = .ok (3, s1) :=
    ⟨_, (allocateFileClusters_eq_ok clustersNeeded_pos_iff.mpr).mpr
      (.inr ⟨by decide, hroom, rfl, rfl⟩)⟩
  have hfits : ∀ w ∈ entryWrites name 3 f.fileData.length f.now, w.Fits (zeros 32).length :=
    entryWrites_fits (length_of_shortName_eq_ok hname) (by decide) (by decide) (by decide)
  obtain ⟨e, he, -⟩ := applyWrites_ok hfits
  obtain ⟨s', h⟩ : ∃ s', s.addFileToDirectory f.filename f.fileData f.now none = .ok s' := by
    have hnext : 3 ≤ s.nextFreeCluster := le_refl 3
    have hL' : RootLayout [volumeEntry] s.diskImage := hL
    clear_value f s
    rw [addFileToDirectory_root hL' hnext, hname, ok_bind, halloc, ok_bind]
    dsimp only
    rw [if_pos (by decide), he, ok_bind]
    exact ⟨_, rfl⟩
  have key := addFileToDirectory_nul (f := f) hL (le_refl 3) rfl h
  obtain ⟨e, h1, h2, h3, h4, h5, h6⟩ := key
  exact ⟨s', h, hL, le_refl 3, rfl, e, h1, h2, h3, h4, h5, h6.trans (by decide)⟩

end Fat32Image
