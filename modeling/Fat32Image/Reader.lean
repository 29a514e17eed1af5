import Fat32Image.Bytes

/-!
# Reading an image

What a FAT32 reader makes of an image, whatever built it: the geometry fields of the boot
sector, the 32-byte directory entries of a cluster, the entries of the first FAT copy, and a
file's bytes along its cluster chain. This is the abstract side of the round-trip theorems:
nothing here is taken from the builders, and the reader takes every offset from the image's
own boot sector.

Following a chain needs fuel, since an arbitrary FAT may hold a cycle; the round-trip
theorems give the result for every fuel at least the chain's length.
-/

namespace Fat32Image

/-- The geometry fields of a BIOS parameter block. -/
structure Bpb where
  bytesPerSector : Nat
  sectorsPerCluster : Nat
  reservedSectors : Nat
  fatCount : Nat
  sectorsPerFat : Nat
  rootCluster : Nat
  deriving DecidableEq, Repr

/-- The BPB fields of sector 0: offsets 11, 13, 14, 16, 36 and 44. -/
def readBpb (img : List UInt8) : Bpb where
  bytesPerSector := unpackFrom 2 img 11
  sectorsPerCluster := unpackFrom 1 img 13
  reservedSectors := unpackFrom 2 img 14
  fatCount := unpackFrom 1 img 16
  sectorsPerFat := unpackFrom 4 img 36
  rootCluster := unpackFrom 4 img 44

namespace Bpb

/-- First sector of the data area. -/
def dataStart (b : Bpb) : Nat := b.reservedSectors + b.fatCount * b.sectorsPerFat

/-- Bytes of a cluster. -/
def clusterBytes (b : Bpb) : Nat := b.sectorsPerCluster * b.bytesPerSector

/-- Byte offset of cluster `c`, for `c ≥ 2`. -/
def clusterOffset (b : Bpb) (c : Nat) : Nat :=
  (b.dataStart + (c - 2) * b.sectorsPerCluster) * b.bytesPerSector

/-- Byte offset of entry `c` of the first FAT copy. -/
def fatOffset (b : Bpb) (c : Nat) : Nat := b.reservedSectors * b.bytesPerSector + 4 * c

end Bpb

/-- The bytes of cluster `c`. -/
def readCluster (img : List UInt8) (b : Bpb) (c : Nat) : List UInt8 :=
  slice img (b.clusterOffset c) (b.clusterOffset c + b.clusterBytes)

/-- Entry `c` of the first FAT copy. -/
def fatEntry (img : List UInt8) (b : Bpb) (c : Nat) : Nat := unpackFrom 4 img (b.fatOffset c)

/-- Sector `s`. -/
def readSector (img : List UInt8) (b : Bpb) (s : Nat) : List UInt8 :=
  slice img (s * b.bytesPerSector) (s * b.bytesPerSector + b.bytesPerSector)

/-- FAT copy `i`: `sectors_per_fat` sectors from sector `reserved_sectors + i * sectors_per_fat`. -/
def readFatCopy (img : List UInt8) (b : Bpb) (i : Nat) : List UInt8 :=
  slice img ((b.reservedSectors + i * b.sectorsPerFat) * b.bytesPerSector)
    ((b.reservedSectors + i * b.sectorsPerFat) * b.bytesPerSector + b.sectorsPerFat * b.bytesPerSector)

/-- The chain from cluster `c` through the first FAT copy, up to and including the first
cluster whose entry is an end-of-chain mark (`≥ 0x0FFFFFF8`); `none` when `fuel` clusters go
by without one. -/
def chainFrom (img : List UInt8) (b : Bpb) : Nat → Nat → Option (List Nat)
  | 0, _ => none
  | fuel + 1, c =>
    if 0x0FFFFFF8 ≤ fatEntry img b c then some [c]
    else (chainFrom img b fuel (fatEntry img b c)).map (c :: ·)

/-- A directory entry as a reader decodes its 32 bytes. -/
structure DirEntry where
  name : List UInt8
  attr : Nat
  cluster : Nat
  size : Nat
  deriving DecidableEq, Repr

/-- The fields of a 32-byte entry: name, attribute, first cluster from its high and low
halves (offsets 20 and 26), size. -/
def decodeEntry (e : List UInt8) : DirEntry where
  name := e.take 11
  attr := unpackFrom 1 e 11
  cluster := unpackFrom 2 e 20 * 65536 + unpackFrom 2 e 26
  size := unpackFrom 4 e 28

theorem decodeEntry_name (e : List UInt8) : (decodeEntry e).name = e.take 11 := rfl

/-- Slot `t` of a directory cluster. -/
def slot (dir : List UInt8) (t : Nat) : List UInt8 := slice dir (32 * t) (32 * t + 32)

/-- The content of the file an entry names: nothing when its first cluster is 0, otherwise the
bytes of the clusters of its chain, in order. -/
def readFile (img : List UInt8) (b : Bpb) (fuel : Nat) (e : DirEntry) : Option (List UInt8) :=
  if e.cluster = 0 then some []
  else (chainFrom img b fuel e.cluster).map fun cs => (cs.map (readCluster img b)).flatten

/-- Entry `t` of the root directory, the cluster the boot sector names. -/
def rootEntry (img : List UInt8) (t : Nat) : DirEntry :=
  decodeEntry (slot (readCluster img (readBpb img) (readBpb img).rootCluster) t)

/-- The content of the file root entry `t` names, read with the image's own geometry. -/
def readRootFile (img : List UInt8) (fuel t : Nat) : Option (List UInt8) :=
  readFile img (readBpb img) fuel (rootEntry img t)

/-- Lookup by name in a directory cluster, from slot `t` with `n` slots left: the scan stops at
an end marker (first byte 0) and skips deleted entries (first byte 0xE5). -/
def lookupFrom (dir name : List UInt8) : Nat → Nat → Option DirEntry
  | 0, _ => none
  | n + 1, t =>
    let e := slot dir t
    if e.head? = some 0 then none
    else if e.head? ≠ some 0xE5 ∧ e.take 11 = name then some (decodeEntry e)
    else lookupFrom dir name n (t + 1)

/-- The entry named `name` (11 bytes, space padded) in a directory cluster. -/
def lookup (dir name : List UInt8) : Option DirEntry := lookupFrom dir name (dir.length / 32) 0

/-! ## What the reader makes of well-formed parts -/

/-- A field of the first sector reads the same in an image as in its first sector alone. -/
theorem unpackFrom_of_slice {img B : List UInt8} (h : slice img 0 512 = B) (off w : Nat)
    (hw : off + w ≤ 512) : unpackFrom w img off = unpackFrom w B off := by
  have := slice_of_slice_eq (show slice img 0 (0 + 512) = B from h) hw
  simp only [Nat.zero_add] at this
  rw [unpackFrom, unpackFrom, this]

/-- The reader's geometry depends on the first sector only. -/
theorem readBpb_of_slice {img B : List UInt8} (h : slice img 0 512 = B) : readBpb img = readBpb B := by
  simp only [readBpb, unpackFrom_of_slice h 11 2 (by omega),
    unpackFrom_of_slice h 13 1 (by omega), unpackFrom_of_slice h 14 2 (by omega),
    unpackFrom_of_slice h 16 1 (by omega), unpackFrom_of_slice h 36 4 (by omega),
    unpackFrom_of_slice h 44 4 (by omega)]

/-- The fields a reader decodes from an entry that fitting, disjoint writes build over 32 zero
bytes, when they write the name, the attribute, the two halves of the first cluster and the
size. -/
theorem decodeEntry_writeAll {ws : List Write} {name : List UInt8} {attr : UInt8} {hi lo size : Nat}
    (hfits : ∀ w ∈ ws, w.Fits (zeros 32).length) (hdis : ws.Pairwise Write.Disjoint)
    (hname : Write.put 0 11 name ∈ ws) (hattr : Write.put 11 12 [attr] ∈ ws)
    (hhi : Write.pack 2 20 hi ∈ ws) (hlo : Write.pack 2 26 lo ∈ ws)
    (hsize : Write.pack 4 28 size ∈ ws) :
    decodeEntry (writeAll (zeros 32) ws) = ⟨name, attr.toNat, hi * 65536 + lo, size⟩ := by
  have field := fun w (hw : w ∈ ws) =>
    slice_applyWrites hfits (applyWrites_eq_writeAll hfits).1 hdis hw
  have hn := field _ hname
  have ha := field _ hattr
  simp only [Write.start, Write.stop, Write.bytes] at hn ha
  simp only [decodeEntry, unpackFrom_writeAll hfits hdis hhi, unpackFrom_writeAll hfits hdis hlo,
    unpackFrom_writeAll hfits hdis hsize, Int.toNat_ofNat, DirEntry.mk.injEq, and_true]
  refine ⟨by simpa [slice] using hn, ?_⟩
  rw [unpackFrom, ha]
  simp [leValue]

/-- A chain of `n` consecutive clusters from `a`, each entry naming the next cluster and the last
an end-of-chain mark, is followed to the end with any fuel of at least `n`. -/
theorem chainFrom_of_links {img : List UInt8} {b : Bpb} {a n fuel : Nat} (hn : 0 < n)
    (hfuel : n ≤ fuel)
    (hlink : ∀ k, k + 1 < n → fatEntry img b (a + k) = a + k + 1 ∧ a + k + 1 < 0x0FFFFFF8)
    (hend : 0x0FFFFFF8 ≤ fatEntry img b (a + (n - 1))) :
    chainFrom img b fuel a = some (List.range' a n) := by
  induction n generalizing a fuel with
  | zero => cases hn
  | succ n ih =>
    obtain ⟨fuel, rfl⟩ : ∃ f, fuel = f + 1 := ⟨fuel - 1, by omega⟩
    rw [chainFrom]
    cases n with
    | zero => rw [if_pos (by simpa using hend)]; rfl
    | succ n =>
      obtain ⟨h1, h2⟩ := hlink 0 (by omega)
      rw [Nat.add_zero] at h1 h2
      have hlink' : ∀ k, k + 1 < n + 1 →
          fatEntry img b (a + 1 + k) = a + 1 + k + 1 ∧ a + 1 + k + 1 < 0x0FFFFFF8 := by
        intro k hk
        have := hlink (k + 1) (by omega)
        rwa [show a + (k + 1) = a + 1 + k by omega] at this
      have hend' : 0x0FFFFFF8 ≤ fatEntry img b (a + 1 + (n + 1 - 1)) := by
        rwa [show a + 1 + (n + 1 - 1) = a + (n + 1 + 1 - 1) by omega]
      rw [if_neg (by omega), h1, ih (by omega) (by omega) hlink' hend', List.range'_succ]
      rfl

/-- The bytes of the file an entry names, when its chain is `n` consecutive clusters from its
first cluster. -/
theorem readFile_of_links {img : List UInt8} {b : Bpb} {e : DirEntry} {n fuel : Nat}
    (hc : e.cluster ≠ 0) (hn : 0 < n) (hfuel : n ≤ fuel)
    (hlink : ∀ k, k + 1 < n →
      fatEntry img b (e.cluster + k) = e.cluster + k + 1 ∧ e.cluster + k + 1 < 0x0FFFFFF8)
    (hend : 0x0FFFFFF8 ≤ fatEntry img b (e.cluster + (n - 1))) :
    readFile img b fuel e =
      some ((List.range n).map fun i => readCluster img b (e.cluster + i)).flatten := by
  rw [readFile, if_neg hc, chainFrom_of_links hn hfuel hlink hend, Option.map_some',
    List.range'_eq_map_range, List.map_map]
  rfl

end Fat32Image
