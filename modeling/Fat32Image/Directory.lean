import Fat32Image.DataArea
import Fat32Image.Reader

/-!
# The root directory

`add_file_to_directory` reads the directory cluster, writes its entry into the first slot
whose first byte is `0x00` or `0xE5`, zeroes the next slot unless it is a deleted entry, and
writes the cluster back. On the root directory the builder only ever adds entries, so the
cluster is always a run of live entries followed by zeros (`RootLayout`). From that layout,
the scan always finds the slot right after the last entry; the end marker it writes falls on a
byte that is already zero; and the data writes of the same call land past the root cluster.

The run theorem `rootLayout_addFiles` says what the root cluster holds after any run of calls
that return normally: the entries it held before, then the entry of each call, in order. The
entry of a call is a function of its arguments and of its first cluster (`runEntries`), so
entries are never overwritten, also when two names collide once cut to 8.3.
-/

namespace Fat32Image

open Fat32DiskBuilder

/-! ## The slot scan -/

/-- A slot in use: 32 bytes whose first byte marks neither the end of the directory nor a
deleted entry. -/
def Live (e : List UInt8) : Prop := e.length = 32 ∧ e.head? ≠ some 0 ∧ e.head? ≠ some 0xE5

theorem getElem?_append_length {A R e : List UInt8} (he : 0 < e.length) :
    (A ++ (e ++ R))[A.length]? = e.head? := by
  obtain ⟨x, xs, rfl⟩ := List.exists_cons_of_length_pos he
  rw [List.getElem?_append_right (le_refl _), Nat.sub_self]
  simp

/-- The scan walks past live entries. -/
theorem findFreeSlot_live {A R : List UInt8} {E : List (List UInt8)} {n : Nat}
    (hE : ∀ e ∈ E, Live e) (hn : E.length ≤ n) :
    findFreeSlot (A ++ E.flatten ++ R) A.length n =
      findFreeSlot (A ++ E.flatten ++ R) (A.length + 32 * E.length) (n - E.length) := by
  induction E generalizing A n with
  | nil => simp
  | cons e E ih =>
    have he := hE e (List.mem_cons_self _ _)
    have hn' : E.length + 1 ≤ n := hn
    obtain ⟨n, rfl⟩ : ∃ m, n = m + 1 := ⟨n - 1, by omega⟩
    have key := @ih (A ++ e) n (fun e' h => hE e' (List.mem_cons_of_mem _ h)) (by omega)
    simp only [List.append_assoc, List.length_append, he.1, List.flatten_cons] at key ⊢
    rw [findFreeSlot, List.getD_eq_getElem?_getD, getElem?_append_length (by rw [he.1]; omega), if_neg]
    · rw [key, List.length_cons]
      congr 1 <;> omega
    · obtain ⟨x, xs, rfl⟩ := List.exists_cons_of_length_pos (by rw [he.1]; omega : 0 < e.length)
      simpa using he.2

/-- The root cluster's shape: live entries, then zeros. -/
def dirOf (E : List (List UInt8)) : List UInt8 := E.flatten ++ zeros (bytesPerCluster - 32 * E.length)

theorem length_flatten_live {E : List (List UInt8)} (hE : ∀ e ∈ E, Live e) :
    E.flatten.length = 32 * E.length := by
  induction E with
  | nil => rfl
  | cons e E ih =>
    simp only [List.flatten_cons, List.length_append, List.length_cons,
      (hE e (List.mem_cons_self _ _)).1, ih (fun e' h => hE e' (List.mem_cons_of_mem _ h))]
    omega

theorem length_dirOf {E : List (List UInt8)} (hE : ∀ e ∈ E, Live e) (hk : E.length ≤ 128) :
    (dirOf E).length = bytesPerCluster := by
  simp only [dirOf, List.length_append, length_flatten_live hE, length_zeros, bytesPerCluster,
    sectorSize, sectorsPerCluster]
  omega

/-- The scan finds the slot after the last entry, and nothing once all 128 slots are taken. -/
theorem freeSlot_dirOf {E : List (List UInt8)} (hE : ∀ e ∈ E, Live e) (hk : E.length ≤ 128) :
    freeSlot (dirOf E) = if E.length < 128 then some (32 * E.length) else none := by
  have hlen := length_dirOf hE hk
  have key := @findFreeSlot_live [] (zeros (bytesPerCluster - 32 * E.length)) E 128 hE hk
  simp only [List.nil_append, List.length_nil, Nat.zero_add] at key
  rw [freeSlot, hlen, show (bytesPerCluster + 31) / 32 = 128 by rfl, dirOf, key]
  split
  · obtain ⟨m, hm⟩ : ∃ m, 128 - E.length = m + 1 := ⟨127 - E.length, by omega⟩
    rw [hm, findFreeSlot, if_pos]
    left
    rw [List.getD_eq_getElem?_getD, List.getElem?_append_right (by rw [length_flatten_live hE]),
      length_flatten_live hE, Nat.sub_self, zeros, List.getElem?_replicate]
    simp only [bytesPerCluster, sectorSize, sectorsPerCluster]
    rw [if_pos (by omega)]
    rfl
  · rw [show 128 - E.length = 0 by omega]
    rfl

/-- Slot `t` of the root cluster: entry `t`, or zeros past the last entry. -/
theorem slot_dirOf {E : List (List UInt8)} (hE : ∀ e ∈ E, Live e) {t : Nat} (ht : t < E.length) :
    slot (dirOf E) t = E[t] := by
  rw [slot, dirOf, slice_append_left _ _ (by rw [length_flatten_live hE]; omega)]
  exact slice_flatten (fun e he => (hE e he).1) ht

theorem slot_dirOf_of_ge {E : List (List UInt8)} (hE : ∀ e ∈ E, Live e) {t : Nat}
    (ht : E.length ≤ t) (ht' : t < 128) : slot (dirOf E) t = zeros 32 := by
  have := slice_append_right E.flatten (zeros (bytesPerCluster - 32 * E.length))
    (32 * (t - E.length)) (32 * (t - E.length) + 32)
  rw [length_flatten_live hE, show 32 * E.length + 32 * (t - E.length) = 32 * t by omega,
    show 32 * E.length + (32 * (t - E.length) + 32) = 32 * t + 32 by omega] at this
  rw [slot, dirOf, this, slice_zeros]
  simp only [bytesPerCluster, sectorSize, sectorsPerCluster]
  congr 1
  omega

/-- A 32-byte entry written into the slot after the entries of a directory cluster. -/
theorem setSlice_dirOf {E : List (List UInt8)} {e : List UInt8} (hE : ∀ e ∈ E, Live e)
    (he : e.length = 32) :
    setSlice (dirOf E) (32 * E.length) (32 * E.length + 32) e = dirOf (E ++ [e]) := by
  have := setSlice_append_length E.flatten (zeros (bytesPerCluster - 32 * E.length)) e
  rw [length_flatten_live hE, he] at this
  rw [dirOf, this, dirOf, zeros, List.drop_replicate, List.flatten_append,
    List.flatten_singleton, List.length_append, List.length_singleton, Nat.sub_sub,
    Nat.mul_add, Nat.mul_one]
  rfl

/-- A reader's lookup by name in a directory cluster of live entries finds the first entry with
that name: the scan never meets a deleted entry, and stops at the zeros after the last one. -/
theorem lookup_dirOf {E : List (List UInt8)} (hE : ∀ e ∈ E, Live e) (hk : E.length ≤ 128)
    (name : List UInt8) :
    lookup (dirOf E) name = (E.find? fun e => e.take 11 = name).map decodeEntry := by
  have key : ∀ k t, t + k = 128 → lookupFrom (dirOf E) name k t =
      ((E.drop t).find? fun e => e.take 11 = name).map decodeEntry := by
    intro k
    induction k with
    | zero =>
      intro t ht
      rw [List.drop_of_length_le (by omega)]
      rfl
    | succ k ih =>
      intro t ht
      by_cases hlt : t < E.length
      · have hl := hE _ (List.getElem_mem hlt)
        rw [lookupFrom, List.drop_eq_getElem_cons hlt, List.find?_cons, slot_dirOf hE hlt,
          if_neg hl.2.1]
        by_cases hn : E[t].take 11 = name
        · rw [if_pos ⟨hl.2.2, hn⟩, decide_eq_true hn]
          rfl
        · rw [if_neg (fun h => hn h.2), decide_eq_false hn, ih (t + 1) (by omega)]
      · have h0 : (zeros 32).head? = some 0 := rfl
        rw [lookupFrom, List.drop_of_length_le (by omega),
          slot_dirOf_of_ge hE (by omega) (by omega), if_pos h0]
        rfl
  rw [lookup, length_dirOf hE hk]
  exact key 128 0 rfl

/-! ## The entry of a call -/

theorem DateTime.timeVal_lt (now : DateTime) : now.timeVal < 2 ^ 16 := by
  have := now.hour_lt
  have := now.minute_lt
  have := now.second_lt
  unfold DateTime.timeVal
  refine Nat.or_lt_two_pow (Nat.or_lt_two_pow ?_ ?_) ?_ <;>
    first | (rw [Nat.shiftLeft_eq]; omega) | omega

/-- `date_val` fits its two bytes exactly for the years 1980 to 2107. -/
theorem DateTime.dateVal_fits_iff (now : DateTime) :
    (0 ≤ now.dateVal ∧ now.dateVal < 2 ^ 16) ↔ 1980 ≤ now.year ∧ now.year < 2108 := by
  have := now.month_le
  have := now.day_le
  have hlow : (now.month <<< 5) ||| now.day < 2 ^ 9 :=
    Nat.or_lt_two_pow (by rw [Nat.shiftLeft_eq]; omega) (by omega)
  unfold DateTime.dateVal
  omega

/-- The two halves the entry stores make up the first cluster again. -/
theorem cluster_halves (first : Nat) : (first >>> 16) * 65536 + (first &&& 0xFFFF) = first := by
  rw [Nat.shiftRight_eq_div_pow, show (0xFFFF : Nat) = 2 ^ 16 - 1 by rfl,
    Nat.and_pow_two_sub_one_eq_mod]
  omega

/-- Every statement of the entry fits its 32 bytes, for an 11-byte name, a year from 1980 to
2107, and a cluster and size of 32 bits. -/
theorem entryWrites_fits {name : List UInt8} {first size : Nat} {now : DateTime}
    (hname : name.length = 11) (hyear : 1980 ≤ now.year ∧ now.year < 2108)
    (hfirst : first < 2 ^ 32) (hsize : size < 2 ^ 32) :
    ∀ w ∈ entryWrites name first size now, w.Fits (zeros 32).length := by
  have ht := now.timeVal_lt
  have hd := now.dateVal_fits_iff.mpr hyear
  have hhi : first >>> 16 < 2 ^ 16 := by rw [Nat.shiftRight_eq_div_pow]; omega
  have hlo : first &&& 0xFFFF < 2 ^ 16 := Nat.and_lt_two_pow _ (by decide)
  simp only [entryWrites, List.mem_cons, List.not_mem_nil, or_false, length_zeros]
  rintro w (rfl | rfl | rfl | rfl | rfl | rfl | rfl | rfl | rfl | rfl) <;>
    simp only [Write.Fits, hname, List.length_singleton, Nat.reducePow, Int.reducePow, true_and] <;>
    omega

theorem entryWrites_disjoint (name : List UInt8) (first size : Nat) (now : DateTime) :
    (entryWrites name first size now).Pairwise Write.Disjoint := by
  simp [entryWrites, Write.Disjoint, Write.start, Write.stop]

/-- What the entry of a call holds: its name, the archive attribute, the two halves of its
first cluster, and its size. A run that returns normally had every field in range, so nothing
needs to be assumed of the clock, the cluster or the size. -/
theorem entry_fields {name e : List UInt8} {first size : Nat} {now : DateTime}
    (hname : name.length = 11) (h : applyWrites (zeros 32) (entryWrites name first size now) = .ok e) :
    e.length = 32 ∧ e.take 11 = name ∧ (decodeEntry e).attr = 0x20 ∧
      (decodeEntry e).cluster = first ∧ (decodeEntry e).size = size := by
  have hfits := fits_of_applyWrites_ok h (by
    simp only [entryWrites, List.mem_cons, Write.put.injEq, List.mem_nil_iff, or_false,
      reduceCtorEq]
    rintro a b c (⟨rfl, rfl, rfl⟩ | ⟨rfl, rfl, rfl⟩) <;> simp [hname])
  obtain ⟨he, hlen⟩ := applyWrites_eq_writeAll hfits
  rw [he, Except.ok.injEq] at h
  subst h
  have hd := decodeEntry_writeAll hfits (entryWrites_disjoint name first size now)
    (by simp [entryWrites] : Write.put 0 11 name ∈ _)
    (by simp [entryWrites] : Write.put 11 12 [0x20] ∈ _)
    (by simp [entryWrites] : Write.pack 2 20 (first >>> 16 : Nat) ∈ _)
    (by simp [entryWrites] : Write.pack 2 26 (first &&& 0xFFFF : Nat) ∈ _)
    (by simp [entryWrites] : Write.pack 4 28 size ∈ _)
  rw [cluster_halves] at hd
  exact ⟨hlen.trans (length_zeros 32), (decodeEntry_name _).symm.trans (congrArg DirEntry.name hd),
    by rw [hd]; rfl, by rw [hd], by rw [hd]⟩

/-- The entry of a call whose filename does not start with NUL is live. -/
theorem live_of_entry {filename : String} {name e : List UInt8} {first size : Nat} {now : DateTime}
    (hname : fatFilename filename = .ok name) (hnul : filename.toList.head? ≠ some '\x00')
    (h : applyWrites (zeros 32) (entryWrites name first size now) = .ok e) : Live e := by
  obtain ⟨hlen, htake, -⟩ := entry_fields (length_of_shortName_eq_ok hname) h
  have hhead : e.head? = name.head? := by rw [← htake, List.head?_take, if_neg (by decide)]
  rw [Live, hhead]
  exact ⟨hlen, head?_fatFilename hname hnul⟩

/-! ## Inserting into the root cluster -/

/-- The slot loop on a root cluster of live entries: the entry goes right after them, and the
end marker after it falls on a byte that is already zero; with all 128 slots taken the
directory is full. -/
theorem insertEntry_dirOf {E : List (List UInt8)} {filename : String} {ws : List Write}
    (hE : ∀ e ∈ E, Live e) (hk : E.length ≤ 128)
    (hws : ∀ e, applyWrites (zeros 32) ws = .ok e → e.length = 32) :
    insertEntry (dirOf E) filename ws =
      if E.length < 128 then (applyWrites (zeros 32) ws).map fun e => dirOf (E ++ [e])
      else .error (.directoryFull ("Directory full, cannot add " ++ filename)) := by
  unfold insertEntry
  rw [freeSlot_dirOf hE hk]
  by_cases hlt : E.length < 128
  · rw [if_pos hlt, if_pos hlt]
    cases h : applyWrites (zeros 32) ws with
    | error e => rfl
    | ok e =>
      have hset := setSlice_dirOf hE (hws e h)
      have hlen : (E ++ [e]).flatten.length = 32 * E.length + 32 := by
        rw [List.flatten_append, List.length_append, length_flatten_live hE, List.flatten_singleton,
          hws e h]
      simp only [ok_bind, pure_eq_ok, Except.map, hset]
      split
      · rw [dirOf, ← hlen, List.set_append_right _ _ (le_refl _), Nat.sub_self, zeros,
          List.set_replicate_self]
      · rfl
  · rw [if_neg hlt, if_neg hlt]

theorem length_dirOf_end {E : List (List UInt8)} {e : List UInt8} (hE : ∀ x ∈ E, Live x)
    (hk : E.length < 128) (he : e.length = 32) : (dirOf (E ++ [e])).length = bytesPerCluster := by
  simp only [dirOf, List.flatten_append, List.flatten_singleton, List.length_append,
    length_flatten_live hE, he, length_zeros, List.length_singleton, bytesPerCluster, sectorSize,
    sectorsPerCluster]
  omega

/-- The scan on live entries followed by an entry that starts with the end marker stops at that
entry. -/
theorem freeSlot_dirOf_end {E : List (List UInt8)} {e : List UInt8} (hE : ∀ x ∈ E, Live x)
    (hk : E.length < 128) (he : e.length = 32) (h0 : e.head? = some 0) :
    freeSlot (dirOf (E ++ [e])) = some (32 * E.length) := by
  have hl := length_flatten_live hE
  have hform : dirOf (E ++ [e]) =
      [] ++ E.flatten ++ (e ++ zeros (bytesPerCluster - 32 * (E ++ [e]).length)) := by
    rw [dirOf, List.flatten_append, List.flatten_singleton, List.nil_append, List.append_assoc]
  have hget : (dirOf (E ++ [e])).getD (32 * E.length) 0 = 0 := by
    rw [hform, List.nil_append, List.getD_eq_getElem?_getD, ← hl,
      getElem?_append_length (by rw [he]; omega), h0]
    rfl
  have key := @findFreeSlot_live [] (e ++ zeros (bytesPerCluster - 32 * (E ++ [e]).length)) E 128
    hE (by omega)
  rw [← hform, List.length_nil, Nat.zero_add] at key
  rw [freeSlot, length_dirOf_end hE hk he, show (bytesPerCluster + 31) / 32 = 128 from rfl, key,
    show 128 - E.length = (127 - E.length) + 1 by omega, findFreeSlot, if_pos (.inl hget)]

theorem findFreeSlot_eq_some {d : List UInt8} {i n j : Nat} (h : findFreeSlot d i n = some j) :
    ∃ k < n, j = i + 32 * k := by
  induction n generalizing i with
  | zero => cases h
  | succ n ih =>
    rw [findFreeSlot] at h
    split at h
    · cases h
      exact ⟨0, by omega, by omega⟩
    · obtain ⟨k, hk, rfl⟩ := ih h
      exact ⟨k + 1, by omega, by omega⟩

/-- On a directory buffer of whole slots, the slot loop keeps the buffer's length when the entry
is 32 bytes. -/
theorem length_insertEntry {d out : List UInt8} {filename : String} {ws : List Write}
    (hd : d.length % 32 = 0) (hws : ∀ e, applyWrites (zeros 32) ws = .ok e → e.length = 32)
    (h : insertEntry d filename ws = .ok out) : out.length = d.length := by
  unfold insertEntry at h
  split at h
  · cases h
  · rename_i i hi
    obtain ⟨k, hk, rfl⟩ := findFreeSlot_eq_some hi
    obtain ⟨e, he, h⟩ := bind_eq_ok.mp h
    cases h
    have hl : (setSlice d (0 + 32 * k) (0 + 32 * k + 32) e).length = d.length :=
      length_setSlice (by rw [hws e he]) (by omega)
    split <;> simp only [List.length_set, hl]

/-- The 8.3 encoding: when the characters it keeps are ASCII, the name is 11 bytes, so the entry
is 32 bytes and a directory cluster keeps its length; on a valid 8.3 name, the reader's decoding
gives back the upper-cased name. -/
theorem fatFilename_spec (filename : String) :
    ((∀ c ∈ keptStem (upper filename.toList) ++ keptExt (upper filename.toList), c.toNat < 128) →
      ∃ name, fatFilename filename = .ok name ∧ name.length = 11 ∧
        ∀ first size now,
          (∀ e, applyWrites (zeros 32) (entryWrites name first size now) = .ok e → e.length = 32) ∧
          ∀ dirData out, dirData.length = bytesPerCluster →
            insertEntry dirData filename (entryWrites name first size now) = .ok out →
            out.length = bytesPerCluster) ∧
    (Valid83 filename.toList →
      ∃ b, fatFilename filename = .ok b ∧ decodeShortName b = upper filename.toList) := by
  refine ⟨fun hascii => ?_, decodeShortName_fatFilename⟩
  obtain ⟨name, hname⟩ := (shortName_ok_iff _).mpr hascii
  have hlen := length_of_shortName_eq_ok hname
  have hentry : ∀ first size now e,
      applyWrites (zeros 32) (entryWrites name first size now) = .ok e → e.length = 32 :=
    fun _ _ _ _ he => (entry_fields hlen he).1
  refine ⟨name, hname, hlen, fun first size now => ⟨hentry first size now, ?_⟩⟩
  intro dirData out hd h
  rw [length_insertEntry (by rw [hd]; rfl) (hentry first size now) h, hd]

theorem fatFilename_spec_strasse_kernel :
    (∃ name, fatFilename "straße.txt" = .ok name ∧ name.length = 11 ∧
      ∀ first size now,
        (∀ e, applyWrites (zeros 32) (entryWrites name first size now) = .ok e → e.length = 32) ∧
        ∀ dirData out, dirData.length = bytesPerCluster →
          insertEntry dirData "straße.txt" (entryWrites name first size now) = .ok out →
          out.length = bytesPerCluster) ∧
    ∃ b, fatFilename "KERNEL.BIN" = .ok b ∧ decodeShortName b = upper "KERNEL.BIN".toList :=
  ⟨(fatFilename_spec "straße.txt").1 (by decide),
    (fatFilename_spec "KERNEL.BIN").2
      ⟨"KERNEL".toList, "BIN".toList, by decide, by decide, by decide, by decide, by decide⟩⟩

/-! ## The root cluster over a run of calls -/

/-- Byte offset of the root cluster, where `add_file_to_directory` reads and writes it. -/
def rootOffset : Nat := clusterToSector rootCluster * sectorSize

theorem rootOffset_eq : rootOffset = 278528 := by rw [rootOffset, clusterToSector_mul]; rfl

/-- The root cluster of an image, as `add_file_to_directory` reads it. -/
def rootDir (img : List UInt8) : List UInt8 := slice img rootOffset (rootOffset + bytesPerCluster)

/-- The root cluster of an image holds the live entries `E`, then zeros. -/
structure RootLayout (E : List (List UInt8)) (img : List UInt8) : Prop where
  live : ∀ e ∈ E, Live e
  length_le : E.length ≤ 128
  fits : rootOffset + bytesPerCluster ≤ img.length
  root : rootDir img = dirOf E

/-- The data loop of a call leaves the root cluster alone: its clusters come after it. -/
theorem rootDir_writeFileData {img : List UInt8} (hfits : rootOffset + bytesPerCluster ≤ img.length)
    (fileData : List UInt8) {first n : Nat} (h : n = 0 ∨ 3 ≤ first) :
    rootDir (writeFileData img fileData first n) = rootDir img := by
  rcases h with rfl | h
  · rfl
  have hK : rootOffset + bytesPerCluster ≤ clusterToSector first * sectorSize := by
    rw [rootOffset_eq, clusterToSector_mul, bytesPerCluster, sectorSize, sectorsPerCluster]
    omega
  rw [rootDir, ← slice_take (le_refl _), take_writeFileData hK hfits, slice_take (le_refl _), rootDir]

theorem RootLayout.writeFileData {E : List (List UInt8)} {img : List UInt8} (hL : RootLayout E img)
    (fileData : List UInt8) {first n : Nat} (h : n = 0 ∨ 3 ≤ first) :
    RootLayout E (writeFileData img fileData first n) :=
  ⟨hL.live, hL.length_le, hL.fits.trans (length_le_writeFileData _ _ _ _),
    (rootDir_writeFileData hL.fits fileData h).trans hL.root⟩

/-- Writing a root cluster of live entries into an image that holds the root cluster. -/
theorem rootLayout_setSlice {E : List (List UInt8)} {img : List UInt8}
    (hfits : rootOffset + bytesPerCluster ≤ img.length) (hE : ∀ e ∈ E, Live e) (hk : E.length ≤ 128) :
    RootLayout E (setSlice img rootOffset (rootOffset + bytesPerCluster) (dirOf E)) := by
  have hlen := length_dirOf hE hk
  refine ⟨hE, hk, ?_, slice_setSlice_self (by rw [hlen]) (by omega)⟩
  rw [length_setSlice (by rw [hlen]) hfits]
  exact hfits

/-- The first cluster a call records: the next free cluster, or 0 for an empty file. -/
def FileArg.firstCluster (f : FileArg) (next : Nat) : Nat := if 0 < f.fileData.length then next else 0

/-- The 32 bytes of a call's entry, given its first cluster. -/
def FileArg.entry (f : FileArg) (firstCluster : Nat) : Except PyError (List UInt8) := do
  let name ← fatFilename f.filename
  applyWrites (zeros 32) (entryWrites name firstCluster f.fileData.length f.now)

/-- The entries a run of calls writes, in order, with `next` as the next free cluster. -/
def runEntries (next : Nat) : List FileArg → Except PyError (List (List UInt8))
  | [] => .ok []
  | f :: fs => do
    let e ← f.entry (f.firstCluster next)
    let es ← runEntries (next + f.clusters) fs
    pure (e :: es)

/-- What a call's entry holds. -/
theorem FileArg.entry_fields {f : FileArg} {first : Nat} {e : List UInt8}
    (h : f.entry first = .ok e) :
    e.length = 32 ∧ (decodeEntry e).attr = 0x20 ∧ (decodeEntry e).cluster = first ∧
      (decodeEntry e).size = f.fileData.length ∧
      ∃ name, fatFilename f.filename = .ok name ∧ e.take 11 = name := by
  obtain ⟨name, h1, he⟩ := bind_eq_ok.mp h
  obtain ⟨hlen, htake, hattr, hcl, hsize⟩ :=
    Fat32Image.entry_fields (length_of_shortName_eq_ok h1) he
  exact ⟨hlen, hattr, hcl, hsize, name, h1, htake⟩

/-- Entry `j` of a run is call `j`'s entry, with the first cluster of call `j`'s chain. -/
theorem runEntries_getElem? {next : Nat} {files : List FileArg} {es : List (List UInt8)}
    (h : runEntries next files = .ok es) :
    es.length = files.length ∧ ∀ j (hj : j < files.length), ∃ e, es[j]? = some e ∧
      files[j].entry (files[j].firstCluster (chainStart next files j)) = .ok e := by
  induction files generalizing next es with
  | nil => cases h; exact ⟨rfl, fun j hj => absurd hj (Nat.not_lt_zero j)⟩
  | cons f fs ih =>
    obtain ⟨e, he, h⟩ := bind_eq_ok.mp h
    obtain ⟨es', hes', h⟩ := bind_eq_ok.mp h
    cases h
    obtain ⟨hlen, hget⟩ := ih hes'
    refine ⟨by simp [hlen], fun j hj => ?_⟩
    cases j with
    | zero => exact ⟨e, by simp, by simpa using he⟩
    | succ j =>
      obtain ⟨e', h1, h2⟩ := hget j (Nat.lt_of_succ_lt_succ hj)
      exact ⟨e', by simpa using h1, by rw [chainStart_cons_succ]; simpa using h2⟩

theorem insertEntry_eq_ok {d out : List UInt8} {filename : String} {ws : List Write}
    (h : insertEntry d filename ws = .ok out) : ∃ e, applyWrites (zeros 32) ws = .ok e := by
  unfold insertEntry at h
  split at h
  · cases h
  · obtain ⟨e, he, -⟩ := bind_eq_ok.mp h
    exact ⟨e, he⟩

/-- Inversion of a call on the root directory, in the terms of `FileArg` and `rootDir`. -/
theorem addFileToDirectory_root_eq_ok {s s' : Fat32DiskBuilder} {f : FileArg}
    (h : s.addFileToDirectory f.filename f.fileData f.now none = .ok s') :
    ∃ name first s1 dirData, fatFilename f.filename = .ok name ∧
      s.allocateFileClusters f.fileData.length f.clusters = .ok (first, s1) ∧
      insertEntry (rootDir (writeFileData s1.diskImage f.fileData first f.clusters)) f.filename
        (entryWrites name first f.fileData.length f.now) = .ok dirData ∧
      s' = { s1 with
        diskImage := setSlice (writeFileData s1.diskImage f.fileData first f.clusters)
          rootOffset (rootOffset + bytesPerCluster) dirData } := by
  obtain ⟨name, first, s1, dirData, h1, h2, h3, rfl⟩ := addFileToDirectory_eq_ok h
  refine ⟨name, first, s1, dirData, h1, h2, ?_, ?_⟩ <;>
    simp only [rootDir, rootOffset, Option.getD_none, FileArg.clusters]
  exact h3

/-- What the allocation tells the rest of a call: the image is unchanged, the first cluster is
the next free one (0 for an empty file), and no cluster below it is written. -/
theorem allocateFileClusters_first {s s1 : Fat32DiskBuilder} {f : FileArg} {first : Nat}
    (h : s.allocateFileClusters f.fileData.length f.clusters = .ok (first, s1)) :
    s1.diskImage = s.diskImage ∧ first = f.firstCluster s.nextFreeCluster ∧
      (f.clusters = 0 ∨ s.nextFreeCluster ≤ first) := by
  rcases (allocateFileClusters_eq_ok clustersNeeded_pos_iff.mpr).mp h with
    ⟨h0, rfl, rfl⟩ | ⟨hpos, -, rfl, rfl⟩
  · refine ⟨rfl, by simp [FileArg.firstCluster, h0], .inl ?_⟩
    simp only [FileArg.clusters, clustersNeeded, h0, bytesPerCluster, sectorSize, sectorsPerCluster]
  · exact ⟨rfl, by simp [FileArg.firstCluster, hpos], .inr (le_refl _)⟩

/-- A call on the root of an image that holds the root cluster, with a next free cluster past
it: the data writes leave the root cluster as it was, so the slot loop runs on the root cluster
as the call found it. -/
theorem addFileToDirectory_rootDir {s : Fat32DiskBuilder} {f : FileArg}
    (hfits : rootOffset + bytesPerCluster ≤ s.diskImage.length) (hnext : 3 ≤ s.nextFreeCluster) :
    s.addFileToDirectory f.filename f.fileData f.now none = (do
      let name ← fatFilename f.filename
      let (first, s1) ← s.allocateFileClusters f.fileData.length f.clusters
      let dirData ← insertEntry (rootDir s.diskImage) f.filename
        (entryWrites name first f.fileData.length f.now)
      pure { s1 with
        diskImage := setSlice (writeFileData s1.diskImage f.fileData first f.clusters)
          rootOffset (rootOffset + bytesPerCluster) dirData }) := by
  unfold addFileToDirectory FileArg.clusters
  dsimp only
  cases fatFilename f.filename with
  | error e => simp only [error_bind]
  | ok name =>
    simp only [ok_bind]
    cases h2 : s.allocateFileClusters f.fileData.length (clustersNeeded f.fileData.length) with
    | error e => simp only [error_bind]
    | ok p =>
      obtain ⟨first, s1⟩ := p
      obtain ⟨himg, -, hcases⟩ := allocateFileClusters_first h2
      simp only [ok_bind, Option.getD_none,
        show clusterToSector rootCluster * sectorSize = rootOffset from rfl]
      change (insertEntry (rootDir _) _ _ >>= _) = _
      rw [rootDir_writeFileData (n := clustersNeeded f.fileData.length) (himg ▸ hfits) _
        (hcases.imp_right hnext.trans), himg]

/-- A call on the root, from a root cluster of live entries `E` and a next free cluster past the
root: it encodes the name, allocates and writes the file's clusters, then adds its entry after
the others, or raises `DirectoryFull` when all 128 slots are taken. The end marker and the data
writes leave no other trace in the root cluster. -/
theorem addFileToDirectory_root {E : List (List UInt8)} {s : Fat32DiskBuilder} {f : FileArg}
    (hL : RootLayout E s.diskImage) (hnext : 3 ≤ s.nextFreeCluster) :
    s.addFileToDirectory f.filename f.fileData f.now none = (do
      let name ← fatFilename f.filename
      let (first, s1) ← s.allocateFileClusters f.fileData.length f.clusters
      if E.length < 128 then do
        let e ← applyWrites (zeros 32) (entryWrites name first f.fileData.length f.now)
        pure { s1 with
          diskImage := setSlice (writeFileData s1.diskImage f.fileData first f.clusters)
            rootOffset (rootOffset + bytesPerCluster) (dirOf (E ++ [e])) }
      else .error (.directoryFull ("Directory full, cannot add " ++ f.filename))) := by
  rw [addFileToDirectory_rootDir hL.fits hnext, hL.root]
  cases h1 : fatFilename f.filename with
  | error e => rfl
  | ok name =>
    have hins : ∀ first, insertEntry (dirOf E) f.filename (entryWrites name first f.fileData.length
        f.now) = if E.length < 128 then (applyWrites (zeros 32) (entryWrites name first
          f.fileData.length f.now)).map fun e => dirOf (E ++ [e])
        else .error (.directoryFull ("Directory full, cannot add " ++ f.filename)) := fun _ =>
      insertEntry_dirOf hL.live hL.length_le fun _ he => (entry_fields (length_of_shortName_eq_ok h1) he).1
    simp only [ok_bind, hins]
    cases s.allocateFileClusters f.fileData.length f.clusters with
    | error e => rfl
    | ok p =>
      simp only [ok_bind]
      split
      · cases applyWrites (zeros 32) (entryWrites name p.1 f.fileData.length f.now) <;> rfl
      · rfl

/-- A call on a root cluster on which the slot loop runs as on the live entries `E`, that returns
normally: the call's entry follows them. -/
theorem rootLayout_of_insertEntry {E : List (List UInt8)} {s s' : Fat32DiskBuilder} {f : FileArg}
    (hE : ∀ x ∈ E, Live x) (hk : E.length ≤ 128)
    (hfits : rootOffset + bytesPerCluster ≤ s.diskImage.length) (hnext : 3 ≤ s.nextFreeCluster)
    (hins : ∀ ws, insertEntry (rootDir s.diskImage) f.filename ws = insertEntry (dirOf E) f.filename ws)
    (hnul : f.filename.toList.head? ≠ some '\x00')
    (h : s.addFileToDirectory f.filename f.fileData f.now none = .ok s') :
    ∃ e, f.entry (f.firstCluster s.nextFreeCluster) = .ok e ∧ RootLayout (E ++ [e]) s'.diskImage := by
  rw [addFileToDirectory_rootDir hfits hnext] at h
  obtain ⟨name, h1, h⟩ := bind_eq_ok.mp h
  obtain ⟨⟨first, s1⟩, h2, h⟩ := bind_eq_ok.mp h
  obtain ⟨himg, hfirst, -⟩ := allocateFileClusters_first h2
  obtain ⟨dirData, h3, h⟩ := bind_eq_ok.mp h
  cases h
  rw [hins, insertEntry_dirOf hE hk fun _ he => (entry_fields (length_of_shortName_eq_ok h1) he).1] at h3
  split at h3
  · obtain ⟨e, he, rfl⟩ : ∃ e, applyWrites (zeros 32) (entryWrites name first f.fileData.length f.now) =
        .ok e ∧ dirOf (E ++ [e]) = dirData := by
      cases hw : applyWrites (zeros 32) (entryWrites name first f.fileData.length f.now) <;>
        rw [hw] at h3 <;> cases h3
      exact ⟨_, rfl, rfl⟩
    have hlive : ∀ x ∈ E ++ [e], Live x := by
      intro x hx
      rcases List.mem_append.mp hx with hx | hx
      · exact hE x hx
      · rw [List.mem_singleton.mp hx]
        exact live_of_entry h1 hnul he
    refine ⟨e, by rw [FileArg.entry, h1, ok_bind, ← hfirst, he], ?_⟩
    exact rootLayout_setSlice ((himg ▸ hfits).trans (length_le_writeFileData _ _ _ _)) hlive
      (by simp only [List.length_append, List.length_singleton]; omega)
  · cases h3

/-- A call on the root that returns normally adds its entry after the others. -/
theorem rootLayout_addFileToDirectory {E : List (List UInt8)} {s s' : Fat32DiskBuilder}
    {f : FileArg} (hL : RootLayout E s.diskImage) (hnext : 3 ≤ s.nextFreeCluster)
    (hnul : f.filename.toList.head? ≠ some '\x00')
    (h : s.addFileToDirectory f.filename f.fileData f.now none = .ok s') :
    ∃ e, f.entry (f.firstCluster s.nextFreeCluster) = .ok e ∧ RootLayout (E ++ [e]) s'.diskImage :=
  rootLayout_of_insertEntry hL.live hL.length_le hL.fits hnext (fun _ => by rw [hL.root]) hnul h

/-- A call on the root whose filename starts with NUL and that returns normally: its entry starts
with the byte 0, and follows the others in the root cluster. -/
theorem rootDir_addFileToDirectory_nul {E : List (List UInt8)} {s s' : Fat32DiskBuilder}
    {f : FileArg} (hL : RootLayout E s.diskImage) (hnext : 3 ≤ s.nextFreeCluster)
    (hnul : f.filename.toList.head? = some '\x00')
    (h : s.addFileToDirectory f.filename f.fileData f.now none = .ok s') :
    ∃ e, f.entry (f.firstCluster s.nextFreeCluster) = .ok e ∧ e.length = 32 ∧ e.head? = some 0 ∧
      E.length < 128 ∧ rootOffset + bytesPerCluster ≤ s'.diskImage.length ∧
      rootDir s'.diskImage = dirOf (E ++ [e]) := by
  rw [addFileToDirectory_root hL hnext] at h
  obtain ⟨name, h1, h⟩ := bind_eq_ok.mp h
  obtain ⟨⟨first, s1⟩, h2, h⟩ := bind_eq_ok.mp h
  obtain ⟨himg, hfirst, hcases⟩ := allocateFileClusters_first h2
  have hL1 := (himg ▸ hL).writeFileData f.fileData (hcases.imp_right hnext.trans)
  dsimp only at h
  split at h
  · obtain ⟨e, he, h⟩ := bind_eq_ok.mp h
    cases h
    obtain ⟨hlen, htake, -⟩ := entry_fields (length_of_shortName_eq_ok h1) he
    have hd := length_dirOf_end hL1.live ‹_› hlen
    refine ⟨e, by rw [FileArg.entry, h1, ok_bind, ← hfirst, he], hlen, ?_, ‹_›, ?_,
      slice_setSlice_self (by rw [hd]) (by have := hL1.fits; omega)⟩
    · rw [← head?_fatFilename_nul h1 hnul, ← htake, List.head?_take, if_neg (by decide)]
    · rw [length_setSlice (by rw [hd]) hL1.fits]
      exact hL1.fits
  · cases h

/-- A call on the root raises `DirectoryFull` exactly when all 128 slots are taken, its name
encodes and its clusters can be allocated: the steps before the slot scan raise exceptions of
other kinds, and with a slot free the scan finds it. -/
theorem addFileToDirectory_eq_directoryFull {E : List (List UInt8)} {s : Fat32DiskBuilder}
    {f : FileArg} {msg : String} (hL : RootLayout E s.diskImage) (hnext : 3 ≤ s.nextFreeCluster) :
    s.addFileToDirectory f.filename f.fileData f.now none = .error (.directoryFull msg) ↔
      msg = "Directory full, cannot add " ++ f.filename ∧ E.length = 128 ∧
        (∃ name, fatFilename f.filename = .ok name) ∧
        ∃ r, s.allocateFileClusters f.fileData.length f.clusters = .ok r := by
  rw [addFileToDirectory_root hL hnext, bind_eq_error]
  constructor
  · rintro (h1 | ⟨name, h1, h⟩)
    · cases fatFilename_eq_error h1
    rcases bind_eq_error.mp h with h2 | ⟨⟨first, s1⟩, h2, h⟩
    · cases allocateFileClusters_eq_error h2
    dsimp only at h
    split at h
    · rcases bind_eq_error.mp h with h3 | ⟨e, -, h3⟩
      · cases applyWrites_eq_error h3
      · cases h3
    · cases h
      exact ⟨rfl, by have := hL.length_le; omega, ⟨name, h1⟩, ⟨_, h2⟩⟩
  · rintro ⟨rfl, hk, ⟨name, h1⟩, ⟨⟨first, s1⟩, h2⟩⟩
    refine .inr ⟨name, h1, bind_eq_error.mpr (.inr ⟨(first, s1), h2, ?_⟩)⟩
    dsimp only
    rw [if_neg (by omega)]

/-- The run theorem for the root cluster: after any run of calls that return normally, it holds
the entries it held before, then the entry of each call, in call order. -/
theorem rootLayout_addFiles {E : List (List UInt8)} {files : List FileArg} {s s' : Fat32DiskBuilder}
    (hL : RootLayout E s.diskImage) (hnext : 3 ≤ s.nextFreeCluster)
    (hnul : ∀ f ∈ files, f.filename.toList.head? ≠ some '\x00') (h : addFiles files s = .ok s') :
    ∃ es, runEntries s.nextFreeCluster files = .ok es ∧ RootLayout (E ++ es) s'.diskImage := by
  induction files generalizing E s with
  | nil =>
    cases h
    exact ⟨[], rfl, by simpa using hL⟩
  | cons f fs ih =>
    obtain ⟨s1, h1, h2⟩ := addFiles_cons_eq_ok h
    obtain ⟨e, he, hL1⟩ := rootLayout_addFileToDirectory hL hnext (hnul f (List.mem_cons_self _ _)) h1
    have hnext1 := (fat_addFileToDirectory h1).2.1
    obtain ⟨es, hes, hL'⟩ := ih hL1 (by rw [hnext1]; omega)
      (fun f' hf' => hnul f' (List.mem_cons_of_mem _ hf')) h2
    refine ⟨e :: es, ?_, by simpa using hL'⟩
    rw [runEntries, he, ok_bind, show s.nextFreeCluster + f.clusters = s1.nextFreeCluster from hnext1.symm,
      hes]
    rfl

/-- A call that returns normally wrote its entry, whatever the directory held. -/
theorem entry_of_addFileToDirectory {s s' : Fat32DiskBuilder} {f : FileArg}
    (h : s.addFileToDirectory f.filename f.fileData f.now none = .ok s') :
    ∃ e, f.entry (f.firstCluster s.nextFreeCluster) = .ok e := by
  obtain ⟨name, first, s1, dirData, h1, h2, h3, -⟩ := addFileToDirectory_eq_ok h
  obtain ⟨-, hfirst, -⟩ := allocateFileClusters_first h2
  obtain ⟨e, he⟩ := insertEntry_eq_ok h3
  exact ⟨e, by rw [FileArg.entry, h1, ok_bind, ← hfirst, he]⟩

/-- Every call of a run that returns normally wrote its entry. -/
theorem runEntries_of_addFiles {files : List FileArg} {s s' : Fat32DiskBuilder}
    (h : addFiles files s = .ok s') : ∃ es, runEntries s.nextFreeCluster files = .ok es := by
  induction files generalizing s with
  | nil => exact ⟨[], rfl⟩
  | cons f fs ih =>
    obtain ⟨s1, h1, h2⟩ := addFiles_cons_eq_ok h
    obtain ⟨e, he⟩ := entry_of_addFileToDirectory h1
    obtain ⟨es, hes⟩ := ih h2
    refine ⟨e :: es, ?_⟩
    rw [runEntries, he, ok_bind, show s.nextFreeCluster + f.clusters = s1.nextFreeCluster from
      (fat_addFileToDirectory h1).2.1.symm, hes]
    rfl

end Fat32Image
