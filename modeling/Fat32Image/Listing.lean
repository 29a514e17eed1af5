import Fat32Image.Directory

/-!
# What a reader sees in a directory cluster

A directory cluster is a run of 32-byte slots. What it holds, for a reader, is its `listing`:
the slots before the first end marker (first byte `0x00`), without the deleted ones (first
byte `0xE5`). The reader's lookup by name is `find?` over the listing (`lookup_eq_find`), and
the listing of a root cluster of live entries followed by zeros is those entries
(`listing_dirOf`).

`add_file_to_directory` takes any directory cluster, not only the root that the builder fills
in order. Its slot loop writes the entry into the first slot that is an end marker or a
deleted entry, then zeroes the first byte of the next slot unless that slot is a deleted entry
or past the end. `listing_insertEntry` says what this does to the listing of any cluster: the
live entries before the slot, the new entry, and then nothing, unless the next slot is a
deleted entry, in which case the scan goes on through the old slots after it. So reusing a
deleted slot hides every live entry after it, and writing at an end marker that is followed by
a deleted slot brings back the old entries past the end marker. The scan raises
`DirectoryFull` exactly when no slot is free (`insertEntry_eq_directoryFull_iff`).
-/

namespace Fat32Image

open Fat32DiskBuilder

/-! ## The listing -/

/-- A slot the scan of `add_file_to_directory` may write to: an end marker or a deleted entry. -/
def Free (e : List UInt8) : Prop := e.head? = some 0 ∨ e.head? = some 0xE5

instance (e : List UInt8) : Decidable (Free e) := inferInstanceAs (Decidable (_ ∨ _))

/-- The entries a reader sees from slot `t`, with `n` slots left: the scan stops at an end
marker and skips deleted entries, as `lookupFrom` does. -/
def listingFrom (dir : List UInt8) : Nat → Nat → List (List UInt8)
  | 0, _ => []
  | n + 1, t =>
    if (slot dir t).head? = some 0 then []
    else if (slot dir t).head? = some 0xE5 then listingFrom dir n (t + 1)
    else slot dir t :: listingFrom dir n (t + 1)

/-- The entries of a directory cluster, in slot order. -/
def listing (dir : List UInt8) : List (List UInt8) := listingFrom dir (dir.length / 32) 0

/-- The reader's lookup is the first entry of the listing with the name. -/
theorem lookupFrom_eq_find (dir name : List UInt8) (n t : Nat) :
    lookupFrom dir name n t =
      ((listingFrom dir n t).find? fun e => e.take 11 = name).map decodeEntry := by
  induction n generalizing t with
  | zero => rfl
  | succ n ih =>
    rw [lookupFrom, listingFrom]
    by_cases h0 : (slot dir t).head? = some 0
    · simp only [h0, if_true]
      rfl
    by_cases h5 : (slot dir t).head? = some 0xE5
    · simp [h0, h5, ih]
    by_cases hn : (slot dir t).take 11 = name
    · simp [h0, h5, hn]
    · simp [h0, h5, hn, ih]

theorem lookup_eq_find (dir name : List UInt8) :
    lookup dir name = ((listing dir).find? fun e => e.take 11 = name).map decodeEntry :=
  lookupFrom_eq_find dir name _ 0

/-- The listing depends on the slots it scans only. -/
theorem listingFrom_congr {A B : List UInt8} {n s : Nat}
    (h : ∀ u, s ≤ u → u < s + n → slot A u = slot B u) : listingFrom A n s = listingFrom B n s := by
  induction n generalizing s with
  | zero => rfl
  | succ n ih =>
    rw [listingFrom, listingFrom, h s (le_refl s) (by omega),
      ih fun u hu hu' => h u (by omega) (by omega)]

/-- A run of slots that are not free is listed as it is. -/
theorem listingFrom_not_free {A : List UInt8} {s a : Nat} (b : Nat)
    (h : ∀ u, s ≤ u → u < s + a → ¬ Free (slot A u)) :
    listingFrom A (a + b) s = (List.range' s a).map (slot A) ++ listingFrom A b (s + a) := by
  induction a generalizing s with
  | zero => rw [Nat.zero_add, Nat.add_zero]; rfl
  | succ a ih =>
    have hs := h s (le_refl s) (by omega)
    rw [Free, not_or] at hs
    rw [Nat.add_right_comm, listingFrom, if_neg hs.1, if_neg hs.2,
      ih fun u hu hu' => h u (by omega) (by omega), List.range'_succ, List.map_cons,
      List.cons_append, Nat.add_right_comm s 1 a, Nat.add_assoc s a 1]

theorem not_free_of_live {e : List UInt8} (h : Live e) : ¬ Free e := by
  rw [Free, not_or]
  exact h.2

/-- The listing of a root cluster of live entries is those entries. -/
theorem listing_dirOf {E : List (List UInt8)} (hE : ∀ e ∈ E, Live e) (hk : E.length ≤ 128) :
    listing (dirOf E) = E := by
  have hlive : ∀ u, 0 ≤ u → u < 0 + E.length → ¬ Free (slot (dirOf E) u) := fun u _ hu => by
    rw [slot_dirOf hE (by omega)]
    exact not_free_of_live (hE _ (List.getElem_mem _))
  have hmap : (List.range' 0 E.length).map (slot (dirOf E)) = E := by
    refine List.ext_getElem (by simp) fun u h1 h2 => ?_
    rw [List.getElem_map, List.getElem_range', Nat.zero_add, Nat.one_mul, slot_dirOf hE h2]
  have hend : listingFrom (dirOf E) (128 - E.length) E.length = [] := by
    by_cases hlt : E.length < 128
    · obtain ⟨m, hm⟩ : ∃ m, 128 - E.length = m + 1 := ⟨127 - E.length, by omega⟩
      have h0 : (zeros 32).head? = some 0 := rfl
      rw [hm, listingFrom, slot_dirOf_of_ge hE (le_refl _) hlt, if_pos h0]
    · rw [show 128 - E.length = 0 by omega]
      rfl
  rw [listing, length_dirOf hE hk, show bytesPerCluster / 32 = E.length + (128 - E.length) by
    rw [bytesPerCluster, sectorSize, sectorsPerCluster]; omega, listingFrom_not_free _ hlive, hmap,
    Nat.zero_add, hend, List.append_nil]

/-! ## The slot scan on any buffer -/

theorem head?_slot (dir : List UInt8) (t : Nat) : (slot dir t).head? = dir[32 * t]? := by
  rw [slot, slice, List.head?_take, if_neg (by omega), List.head?_drop]

/-- The byte the scan tests at slot `t` is the first byte of the slot. -/
theorem getD_eq_head?_slot (dir : List UInt8) (t : Nat) :
    dir.getD (32 * t) 0 = ((slot dir t).head?).getD 0 := by
  rw [List.getD_eq_getElem?_getD, head?_slot]

theorem free_iff_getD {dir : List UInt8} {t : Nat} (ht : 32 * t < dir.length) :
    Free (slot dir t) ↔ dir.getD (32 * t) 0 = 0x00 ∨ dir.getD (32 * t) 0 = 0xE5 := by
  rw [Free, getD_eq_head?_slot, head?_slot, List.getElem?_eq_getElem ht]
  simp only [Option.getD_some, Option.some.injEq]

/-- The scan from slot `s`, with `n` slots left, stops at the first free slot. -/
theorem findFreeSlot_eq_some_slot {d : List UInt8} {n s i : Nat} (hd : 32 * (s + n) ≤ d.length)
    (h : findFreeSlot d (32 * s) n = some i) :
    ∃ t, i = 32 * t ∧ s ≤ t ∧ t < s + n ∧ (∀ u, s ≤ u → u < t → ¬ Free (slot d u)) ∧
      Free (slot d t) := by
  induction n generalizing s with
  | zero => cases h
  | succ n ih =>
    rw [findFreeSlot] at h
    split at h
    · cases h
      exact ⟨s, rfl, le_refl s, by omega, fun u hu hu' => absurd hu' (by omega),
        (free_iff_getD (by omega)).mpr ‹_›⟩
    · rw [show 32 * s + 32 = 32 * (s + 1) by omega] at h
      obtain ⟨t, rfl, hst, htn, hbefore, hfree⟩ := ih (by omega) h
      refine ⟨t, rfl, by omega, by omega, fun u hu hu' => ?_, hfree⟩
      rcases Nat.eq_or_lt_of_le hu with rfl | hu
      · exact fun hf => ‹¬ _› ((free_iff_getD (by omega)).mp hf)
      · exact hbefore u hu hu'

/-- The scan from slot `s` finds nothing exactly when none of its `n` slots is free. -/
theorem findFreeSlot_eq_none_iff {d : List UInt8} {n s : Nat} (hd : 32 * (s + n) ≤ d.length) :
    findFreeSlot d (32 * s) n = none ↔ ∀ u, s ≤ u → u < s + n → ¬ Free (slot d u) := by
  induction n generalizing s with
  | zero => exact ⟨fun _ u hu hu' => absurd hu' (by omega), fun _ => rfl⟩
  | succ n ih =>
    rw [findFreeSlot, show 32 * s + 32 = 32 * (s + 1) by omega]
    have ih' := @ih (s + 1) (by omega)
    split
    · refine ⟨nofun, fun h => absurd ((free_iff_getD (by omega)).mpr ‹_›) (h s (le_refl s) (by omega))⟩
    · rw [ih']
      constructor
      · intro h u hu hu'
        rcases Nat.eq_or_lt_of_le hu with rfl | hu
        · exact fun hf => ‹¬ _› ((free_iff_getD (by omega)).mp hf)
        · exact h u hu (by omega)
      · exact fun h u hu hu' => h u (by omega) (by omega)

/-! ## Slots of a buffer after the writes of the slot loop -/

section Writes

variable {d e : List UInt8} {t u : Nat}

/-- A 32-byte write into slot `t` leaves every other slot alone. -/
theorem slot_setSlice_of_ne (he : e.length = 32) (hd : 32 * t + 32 ≤ d.length) (hu : u ≠ t) :
    slot (setSlice d (32 * t) (32 * t + 32) e) u = slot d u := by
  rcases Nat.lt_or_gt_of_ne hu with h | h
  · exact slice_setSlice_of_le (by omega) (by omega)
  · exact slice_setSlice_of_ge (by omega) hd (by omega)

theorem slot_setSlice_self (he : e.length = 32) (hd : 32 * t + 32 ≤ d.length) :
    slot (setSlice d (32 * t) (32 * t + 32) e) t = e :=
  slice_setSlice_self (by omega) (by omega)

/-- Zeroing the byte after slot `t`, the end marker of the slot loop, leaves every slot but
slot `t + 1` alone. -/
theorem slot_set_of_ne (hd : 32 * t + 32 < d.length) (hu : u ≠ t + 1) :
    slot (d.set (32 * t + 32) 0) u = slot d u := by
  have hset : d.set (32 * t + 32) 0 = setSlice d (32 * t + 32) (32 * t + 32 + 1) [0] := by
    rw [List.set_eq_take_append_cons_drop, if_pos hd, setSlice, max_eq_right (by omega),
      List.append_assoc]
    rfl
  rw [hset]
  rcases Nat.lt_or_gt_of_ne hu with h | h
  · exact slice_setSlice_of_le (by omega) (by omega)
  · exact slice_setSlice_of_ge rfl (by omega) (by omega)

theorem head?_slot_set_next (hd : 32 * t + 32 < d.length) :
    (slot (d.set (32 * t + 32) 0) (t + 1)).head? = some 0 := by
  rw [head?_slot, show 32 * (t + 1) = 32 * t + 32 by omega, List.getElem?_set_self hd]

end Writes

/-! ## The slot loop -/

/-- The listing the slot loop leaves when it writes `e` into the free slot `t` of a buffer `d`
of `k` slots: the entries before slot `t`, then `e`, then the old slots from `t + 2` on if
slot `t + 1` is a deleted entry. -/
def insertedListing (d e : List UInt8) (k t : Nat) : List (List UInt8) :=
  (List.range t).map (slot d) ++ e ::
    if t + 1 < k ∧ (slot d (t + 1)).head? = some 0xE5 then listingFrom d (k - (t + 2)) (t + 2)
    else []

/-- The slot loop of `add_file_to_directory` on any buffer of `k` whole slots, when it returns
normally with a live entry `e`: it wrote into the first free slot `t`, and afterwards the
reader sees the entries before slot `t`, then `e`, then the old entries from slot `t + 2` on
if slot `t + 1` is a deleted entry, and nothing more otherwise. A lookup of the new entry's
name finds the first entry before slot `t` with that name, or the new entry. -/
theorem listing_insertEntry {d out e : List UInt8} {filename : String} {ws : List Write} {k : Nat}
    (hd : d.length = 32 * k) (he : applyWrites (zeros 32) ws = .ok e) (hlive : Live e)
    (h : insertEntry d filename ws = .ok out) :
    ∃ t < k, (∀ u < t, ¬ Free (slot d u)) ∧ Free (slot d t) ∧ listing out = insertedListing d e k t ∧
      lookup out (e.take 11) = some (decodeEntry
        ((((List.range t).map (slot d)).find? fun x => x.take 11 = e.take 11).getD e)) := by
  have hlen := length_insertEntry (by omega)
    (fun e' he' => by rw [he, Except.ok.injEq] at he'; exact he' ▸ hlive.1) h
  unfold insertEntry at h
  split at h
  · cases h
  rename_i i hi
  rw [freeSlot, hd, show (32 * k + 31) / 32 = k by omega] at hi
  obtain ⟨t, rfl, -, htk, hbefore, hfree⟩ := findFreeSlot_eq_some_slot (s := 0) (by omega) hi
  rw [Nat.zero_add] at htk
  replace hbefore : ∀ u < t, ¬ Free (slot d u) := fun u hu => hbefore u (Nat.zero_le u) hu
  rw [he, ok_bind, pure_eq_ok, Except.ok.injEq] at h
  have hD : 32 * t + 32 ≤ d.length := by omega
  have hl : (setSlice d (32 * t) (32 * t + 32) e).length = d.length :=
    length_setSlice (by rw [hlive.1]) hD
  -- the byte the loop tests after the entry is the first byte of the old slot `t + 1`
  have hget := getD_eq_head?_slot (setSlice d (32 * t) (32 * t + 32) e) (t + 1)
  rw [show 32 * (t + 1) = 32 * t + 32 by omega, slot_setSlice_of_ne hlive.1 hD (by omega)] at hget
  rw [hget] at h
  -- the slots of `out`: those of `d`, the entry at `t`, and slot `t + 1` zeroed or left alone
  have hslot : ∀ u, u ≠ t + 1 → slot out u = slot (setSlice d (32 * t) (32 * t + 32) e) u := by
    intro u hu
    rw [← h]
    split_ifs with hc
    · exact slot_set_of_ne hc.1 hu
    · rfl
  have hself : slot out t = e := by rw [hslot t (by omega), slot_setSlice_self hlive.1 hD]
  have hprefix : (List.range' 0 t).map (slot out) = (List.range t).map (slot d) := by
    rw [List.range_eq_range']
    exact List.map_congr_left fun u hu => by
      rw [hslot u (by simp at hu; omega), slot_setSlice_of_ne hlive.1 hD (by simp at hu; omega)]
  have hrest : listingFrom out (k - (t + 1)) (t + 1) =
      if t + 1 < k ∧ (slot d (t + 1)).head? = some 0xE5 then listingFrom d (k - (t + 2)) (t + 2)
      else [] := by
    by_cases hk : t + 1 < k
    · obtain ⟨m, hm⟩ : ∃ m, k - (t + 1) = m + 1 := ⟨k - (t + 2), by omega⟩
      rw [hm, listingFrom, show k - (t + 2) = m by omega]
      by_cases h5 : (slot d (t + 1)).head? = some 0xE5
      · -- a deleted slot after the entry is left alone, and the scan goes on past it
        have hout : out = setSlice d (32 * t) (32 * t + 32) e := by
          rw [← h, if_neg (by rw [h5]; simp)]
        rw [if_pos (And.intro hk h5), hout, slot_setSlice_of_ne hlive.1 hD (by omega),
          if_neg (by rw [h5]; simp), if_pos h5]
        exact listingFrom_congr fun u hu _ => slot_setSlice_of_ne hlive.1 hD (by omega)
      · -- any other slot after the entry becomes the end marker
        have hne : ((slot d (t + 1)).head?).getD 0 ≠ 0xE5 := by
          rcases hs : (slot d (t + 1)).head? with _ | x
          · decide
          · rw [hs] at h5
            exact fun hx => h5 (congrArg some hx)
        have hout : out = (setSlice d (32 * t) (32 * t + 32) e).set (32 * t + 32) 0 := by
          rw [← h, if_pos ⟨by omega, hne⟩]
        rw [if_neg (show ¬(t + 1 < k ∧ _) from fun h' => h5 h'.2), hout,
          head?_slot_set_next (by omega), if_pos rfl]
    · rw [show k - (t + 1) = 0 by omega, if_neg (fun h' => hk h'.1)]
      rfl
  have hlisting : listing out = insertedListing d e k t := by
    obtain ⟨m, hm⟩ : ∃ m, k - t = m + 1 := ⟨k - (t + 1), by omega⟩
    rw [listing, hlen, hd, show 32 * k / 32 = t + (k - t) by omega,
      listingFrom_not_free _ fun u _ hu => by
        rw [hslot u (by omega), slot_setSlice_of_ne hlive.1 hD (by omega)]; exact hbefore u (by omega),
      hprefix, Nat.zero_add, hm, listingFrom, hself, if_neg hlive.2.1, if_neg hlive.2.2,
      show m = k - (t + 1) by omega, hrest]
    rfl
  refine ⟨t, htk, hbefore, hfree, hlisting, ?_⟩
  rw [lookup_eq_find, hlisting, insertedListing, List.find?_append, List.find?_cons_of_pos _ (by simp)]
  cases (((List.range t).map (slot d)).find? fun x => x.take 11 = e.take 11) <;> rfl

/-- The slot loop raises `DirectoryFull`, naming the file, exactly when no slot of the buffer is
an end marker or a deleted entry. -/
theorem insertEntry_eq_directoryFull_iff {d : List UInt8} {filename : String} {ws : List Write}
    {k : Nat} (hd : d.length = 32 * k) :
    insertEntry d filename ws = .error (.directoryFull ("Directory full, cannot add " ++ filename)) ↔
      ∀ u < k, ¬ Free (slot d u) := by
  have hscan := @findFreeSlot_eq_none_iff d k 0 (by omega)
  rw [show 32 * 0 = 0 from rfl] at hscan
  rw [insertEntry, freeSlot, hd, show (32 * k + 31) / 32 = k by omega]
  split
  · rename_i hnone
    simp only [true_iff]
    exact fun u hu => hscan.mp hnone u (Nat.zero_le u) (by omega)
  · rename_i i hi
    constructor
    · intro h
      rcases bind_eq_error.mp h with h' | ⟨_, -, h'⟩
      · cases applyWrites_eq_error h'
      · cases h'
    · intro h
      have := hscan.mpr fun u _ hu => h u (by omega)
      rw [hi] at this
      cases this

end Fat32Image
