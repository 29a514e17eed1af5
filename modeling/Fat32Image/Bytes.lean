import Mathlib

/-!
# Python byte buffers

Both tools build their image out of a few Python primitives on `bytes` and `bytearray`:
slicing, slice assignment, `bytes(n)`, and the little-endian `struct` formats `<B`, `<H`,
`<L`/`<I`. They are modelled here on `List UInt8`, together with the exceptions they raise,
so that later modules reason about the image through the lemmas of this file and never
unfold a write.

Slice assignment keeps Python's clamping: a write that starts past the end of a `bytearray`
appends instead of failing, and a source longer than the slice grows the buffer. The
in-bounds lemmas (`length_setSlice`, `slice_setSlice_self` and the two frame lemmas) are what
the layout proofs use; `take_setSlice` and `length_le_setSlice` cover writes that may land
past the end.
-/

namespace Fat32Image

/-- The Python exceptions the tools can raise while building an image. -/
inductive PyError where
  /-- `struct.error`: a value out of range for its format, or a field past the buffer. -/
  | structError
  /-- `IndexError`: a list assignment past the end. -/
  | indexError
  /-- `UnicodeEncodeError` from `str.encode('ascii')`. -/
  | unicodeEncodeError
  /-- The `Exception` raised by `add_file_to_directory` when no slot is free. -/
  | directoryFull (message : String)
  deriving DecidableEq, Repr

@[simp] theorem ok_bind {α β : Type} (a : α) (f : α → Except PyError β) :
    (Except.ok a >>= f) = f a := rfl

@[simp] theorem pure_eq_ok {α : Type} (a : α) : (pure a : Except PyError α) = .ok a := rfl

@[simp] theorem error_bind {α β : Type} (e : PyError) (f : α → Except PyError β) :
    (Except.error e >>= f) = Except.error e := rfl

theorem bind_eq_ok {α β : Type} {x : Except PyError α} {f : α → Except PyError β} {b : β} :
    x >>= f = .ok b ↔ ∃ a, x = .ok a ∧ f a = .ok b := by
  cases x with
  | error e => exact ⟨nofun, fun ⟨_, h, _⟩ => nomatch h⟩
  | ok a => exact ⟨fun h => ⟨a, rfl, h⟩, fun ⟨_, h, h'⟩ => by cases h; exact h'⟩

theorem bind_eq_error {α β : Type} {x : Except PyError α} {f : α → Except PyError β} {e : PyError} :
    x >>= f = .error e ↔ x = .error e ∨ ∃ a, x = .ok a ∧ f a = .error e := by
  cases x with
  | error e' =>
    simp only [error_bind, Except.error.injEq, reduceCtorEq, false_and, exists_false, or_false]
  | ok a =>
    exact ⟨fun h => .inr ⟨a, rfl, h⟩, fun h => h.elim (fun h => nomatch h) fun ⟨_, h, h'⟩ => by
      cases h; exact h'⟩

/-! ## Slices -/

section Slices

variable {α : Type} (b : List α)

/-- `b[start:stop]` for non-negative bounds. -/
def slice (start stop : Nat) : List α := (b.drop start).take (stop - start)

/-- `b[start:stop] = src` for non-negative bounds: the bounds are clamped to the buffer, and
the selected elements are replaced by `src` whatever its length. -/
def setSlice (start stop : Nat) (src : List α) : List α :=
  b.take start ++ src ++ b.drop (max start stop)

variable {b} {start stop : Nat} {src : List α}

theorem length_slice (o n : Nat) (h : o + n ≤ b.length) : (slice b o (o + n)).length = n := by
  simp only [slice, List.length_take, List.length_drop]
  omega

/-- An in-bounds write of a source as long as its slice keeps the length. -/
theorem length_setSlice (h : start + src.length = stop) (hb : stop ≤ b.length) :
    (setSlice b start stop src).length = b.length := by
  simp only [setSlice, List.length_append, List.length_take, List.length_drop]
  omega

/-- No write shrinks the buffer when its source covers the slice. -/
theorem length_le_setSlice (h : stop - start ≤ src.length) :
    b.length ≤ (setSlice b start stop src).length := by
  simp only [setSlice, List.length_append, List.length_take, List.length_drop]
  omega

/-- A write that starts inside the buffer, or right at its end, leaves it as long as the
longer of the two: the buffer, or the end of the write. -/
theorem length_setSlice_max (h : start + src.length = stop) (hb : start ≤ b.length) :
    (setSlice b start stop src).length = max b.length stop := by
  simp only [setSlice, List.length_append, List.length_take, List.length_drop]
  omega

theorem slice_setSlice_self (h : start + src.length = stop) (hb : start ≤ b.length) :
    slice (setSlice b start stop src) start stop = src := by
  have hl : (b.take start).length = start := by simp only [List.length_take]; omega
  simp only [slice, setSlice, List.append_assoc]
  rw [List.drop_append_of_le_length (le_of_eq hl.symm), List.drop_of_length_le (le_of_eq hl),
    List.nil_append, List.take_append_of_le_length (by omega), List.take_of_length_le (by omega)]

/-- A write leaves every byte before its start alone, as long as it starts inside the buffer
or the prefix is inside it. -/
theorem take_setSlice {n : Nat} (hn : n ≤ start) (hb : n ≤ b.length) :
    (setSlice b start stop src).take n = b.take n := by
  simp only [setSlice, List.append_assoc]
  rw [List.take_append_of_le_length (by simp only [List.length_take]; omega), List.take_take,
    min_eq_left hn]

theorem slice_take {n o o' : Nat} (h : o' ≤ n) : slice (b.take n) o o' = slice b o o' := by
  simp only [slice, List.drop_take, List.take_take]
  congr 1
  omega

theorem slice_setSlice_of_le {o o' : Nat} (hle : o' ≤ start) (hb : o' ≤ b.length) :
    slice (setSlice b start stop src) o o' = slice b o o' := by
  rw [← slice_take (le_refl o'), take_setSlice hle hb, slice_take (le_refl o')]

theorem slice_setSlice_of_ge {o o' : Nat} (h : start + src.length = stop) (hb : stop ≤ b.length)
    (hge : stop ≤ o) : slice (setSlice b start stop src) o o' = slice b o o' := by
  have hl : (b.take start ++ src).length = stop := by
    simp only [List.length_append, List.length_take]; omega
  simp only [slice, setSlice]
  rw [List.drop_append_eq_append_drop, List.drop_of_length_le (by omega), List.nil_append,
    hl, List.drop_drop, max_eq_right (by omega), Nat.add_sub_cancel' hge]

/-- A window read inside a window that is known reads that window's bytes. -/
theorem slice_of_slice_eq {o n p m : Nat} {X : List α} (h : slice b o (o + n) = X)
    (hpm : p + m ≤ n) : slice b (o + p) (o + p + m) = slice X p (p + m) := by
  subst h
  simp only [slice, List.drop_take, List.take_take, List.drop_drop]
  congr 1
  omega

theorem slice_append_left (A B : List α) {o o' : Nat} (h : o' ≤ A.length) :
    slice (A ++ B) o o' = slice A o o' := by
  rw [← slice_take (le_refl o'), List.take_append_of_le_length h, slice_take (le_refl o')]

theorem slice_append_right (A B : List α) (o o' : Nat) :
    slice (A ++ B) (A.length + o) (A.length + o') = slice B o o' := by
  simp only [slice, List.drop_append_eq_append_drop, List.drop_of_length_le (Nat.le_add_right _ _),
    List.nil_append, Nat.add_sub_cancel_left, Nat.add_sub_add_left]

/-- Block `t` of a list of blocks of `k` elements each. -/
theorem slice_flatten {k t : Nat} {E : List (List α)} (hE : ∀ e ∈ E, e.length = k)
    (ht : t < E.length) : slice E.flatten (k * t) (k * t + k) = E[t] := by
  induction E generalizing t with
  | nil => cases ht
  | cons e E ih =>
    have he := hE e (List.mem_cons_self _ _)
    rw [List.flatten_cons]
    cases t with
    | zero =>
      rw [Nat.mul_zero, Nat.zero_add, slice_append_left _ _ he.ge, slice, List.drop_zero, Nat.sub_zero,
        List.take_of_length_le he.le]
      rfl
    | succ t =>
      have := slice_append_right e E.flatten (k * t) (k * t + k)
      rw [he] at this
      rw [Nat.mul_succ, Nat.add_comm (k * t) k, Nat.add_assoc, this,
        ih (fun e' h => hE e' (List.mem_cons_of_mem _ h)) (Nat.lt_of_succ_lt_succ ht)]
      rfl

theorem slice_append_of_le (A B : List α) {o o' : Nat} (h : A.length ≤ o) :
    slice (A ++ B) o o' = slice B (o - A.length) (o' - A.length) := by
  simp only [slice, List.drop_append_eq_append_drop, List.drop_of_length_le h, List.nil_append]
  congr 1
  omega

/-- Block `i` of blocks written one after the other starts after the blocks before it. -/
theorem slice_flatten_block {B : List (List α)} {i : Nat} (hi : i < B.length) :
    slice B.flatten ((B.map List.length).take i).sum
      (((B.map List.length).take i).sum + B[i].length) = B[i] := by
  induction B generalizing i with
  | nil => cases hi
  | cons b B ih =>
    rw [List.flatten_cons]
    cases i with
    | zero =>
      rw [List.take_zero, List.sum_nil, Nat.zero_add, List.getElem_cons_zero,
        slice_append_left _ _ (le_refl _), slice, List.drop_zero, Nat.sub_zero,
        List.take_of_length_le (le_refl _)]
    | succ i =>
      rw [List.map_cons, List.take_succ_cons, List.sum_cons, Nat.add_assoc,
        slice_append_right, List.getElem_cons_succ]
      exact ih (Nat.lt_of_succ_lt_succ hi)

/-- A write that starts past the end appends its source. -/
theorem setSlice_of_length_le (h : b.length ≤ start) : setSlice b start stop src = b ++ src := by
  rw [setSlice, List.take_of_length_le h, List.drop_of_length_le (by omega), List.append_nil]

theorem slice_of_length_le (h : b.length ≤ start) : slice b start stop = [] := by
  rw [slice, List.drop_of_length_le h, List.take_nil]

/-- The consecutive `k`-element blocks of `P`, joined, give back its prefix. -/
theorem flatten_blocks (P : List α) (k n : Nat) :
    ((List.range n).map fun i => slice P (i * k) (i * k + k)).flatten = P.take (n * k) := by
  induction n with
  | zero => simp
  | succ n ih =>
    rw [List.range_succ, List.map_append, List.flatten_append, ih, List.map_singleton,
      List.flatten_singleton, Nat.succ_mul, List.take_add, slice, Nat.add_sub_cancel_left]

/-- A write of `src` right after a prefix `P` replaces the first `src.length` elements after it. -/
theorem setSlice_append_length (P Q : List α) (src : List α) :
    setSlice (P ++ Q) P.length (P.length + src.length) src = P ++ src ++ Q.drop src.length := by
  simp only [setSlice, List.take_left' rfl, max_eq_right (Nat.le_add_right _ _),
    List.drop_append_eq_append_drop, List.drop_of_length_le (Nat.le_add_right _ _), List.nil_append,
    Nat.add_sub_cancel_left]

end Slices

/-- `bytes(n)`, and `b'\x00' * n`. -/
def zeros (n : Nat) : List UInt8 := List.replicate n 0

@[simp] theorem length_zeros (n : Nat) : (zeros n).length = n := List.length_replicate n 0

theorem slice_zeros (n o o' : Nat) : slice (zeros n) o o' = zeros (min (o' - o) (n - o)) := by
  simp only [slice, zeros, List.drop_replicate, List.take_replicate]

/-! ## Little-endian integers -/

/-- The `w` bytes of `n`, least significant first: what `struct.pack` emits for a `<` format of
size `w` once the value is known to fit. -/
def leBytes : Nat → Nat → List UInt8
  | 0, _ => []
  | w + 1, n => UInt8.ofNat (n % 256) :: leBytes w (n / 256)

/-- The number a little-endian byte string stands for: `struct.unpack` of a `<` format. -/
def leValue : List UInt8 → Nat
  | [] => 0
  | x :: xs => x.toNat + 256 * leValue xs

@[simp] theorem length_leBytes (w n : Nat) : (leBytes w n).length = w := by
  induction w generalizing n <;> simp [leBytes, *]

theorem leValue_leBytes (w n : Nat) : leValue (leBytes w n) = n % 256 ^ w := by
  induction w generalizing n with
  | zero => simp [leBytes, leValue, Nat.mod_one]
  | succ w ih =>
    have hb : (UInt8.ofNat (n % 256)).toNat = n % 256 :=
      UInt8.toNat_ofNat_of_lt (Nat.mod_lt _ (by decide))
    rw [leBytes, leValue, ih, hb, Nat.pow_succ', Nat.mod_mul]

theorem leValue_leBytes_of_lt {w n : Nat} (h : n < 256 ^ w) : leValue (leBytes w n) = n := by
  rw [leValue_leBytes, Nat.mod_eq_of_lt h]

/-! ## `struct` -/

/-- `struct.pack(fmt, v)` for a little-endian unsigned format of size `w` (`<B`, `<H`, `<L`,
`<I`): `struct.error` unless `0 ≤ v < 256 ^ w`. -/
def pack (w : Nat) (v : Int) : Except PyError (List UInt8) :=
  if 0 ≤ v ∧ v < 256 ^ w then .ok (leBytes w v.toNat) else .error .structError

/-- `struct.pack_into(fmt, buf, off, v)`: the packed bytes replace `buf[off:off+w]`, and a
field that runs past the buffer raises `struct.error`. -/
def packInto (w : Nat) (buf : List UInt8) (off : Nat) (v : Int) : Except PyError (List UInt8) := do
  let bytes ← pack w v
  if off + w ≤ buf.length then pure (setSlice buf off (off + w) bytes) else throw .structError

/-- `struct.unpack_from(fmt, buf, off)[0]` for a `<` format of size `w`. -/
def unpackFrom (w : Nat) (buf : List UInt8) (off : Nat) : Nat := leValue (slice buf off (off + w))

theorem pack_of_lt {w v : Nat} (h : v < 256 ^ w) : pack w v = .ok (leBytes w v) := by
  simp only [pack, Int.toNat_ofNat]
  rw [if_pos ⟨Int.ofNat_nonneg v, by exact_mod_cast h⟩]

theorem packInto_of_lt {w v off : Nat} {buf : List UInt8} (h : v < 256 ^ w)
    (hb : off + w ≤ buf.length) :
    packInto w buf off v = .ok (setSlice buf off (off + w) (leBytes w v)) := by
  simp only [packInto, pack_of_lt h, ok_bind, if_pos hb]
  rfl

theorem length_packInto {w off : Nat} {v : Int} {buf out : List UInt8}
    (h : packInto w buf off v = .ok out) : out.length = buf.length := by
  simp only [packInto, pack] at h
  split at h
  · split at h
    · cases h; exact length_setSlice (by simp) (by omega)
    · cases h
  · cases h

/-- A `pack_into` that returns normally had its value in range and its field in the buffer. -/
theorem packInto_eq_ok {w off : Nat} {v : Int} {buf out : List UInt8}
    (h : packInto w buf off v = .ok out) : 0 ≤ v ∧ v < 256 ^ w ∧ off + w ≤ buf.length := by
  simp only [packInto, pack] at h
  split at h
  · split at h
    · exact ⟨‹0 ≤ v ∧ v < 256 ^ w›.1, ‹0 ≤ v ∧ v < 256 ^ w›.2, ‹_›⟩
    · cases h
  · cases h

theorem packInto_eq_error {w off : Nat} {v : Int} {buf : List UInt8} {e : PyError}
    (h : packInto w buf off v = .error e) : e = .structError := by
  simp only [packInto, pack] at h
  split at h
  · split at h
    · cases h
    · cases h; rfl
  · cases h; rfl

/-- The field a `pack_into` wrote reads back as its value. -/
theorem unpackFrom_setSlice {w v off : Nat} {buf : List UInt8} (h : v < 256 ^ w)
    (hb : off ≤ buf.length) : unpackFrom w (setSlice buf off (off + w) (leBytes w v)) off = v := by
  rw [unpackFrom, slice_setSlice_self (by simp) hb, leValue_leBytes_of_lt h]

/-! ## Lists of integers -/

/-- `l[i] = v` on a Python list, for a non-negative index: `IndexError` past the end. -/
def setItem (l : List Nat) (i v : Nat) : Except PyError (List Nat) :=
  if i < l.length then .ok (l.set i v) else .error .indexError

theorem setItem_of_lt {l : List Nat} {i v : Nat} (h : i < l.length) :
    setItem l i v = .ok (l.set i v) := if_pos h

theorem setItem_of_le {l : List Nat} {i v : Nat} (h : l.length ≤ i) :
    setItem l i v = .error .indexError := if_neg (by omega)

theorem setItem_eq_error {l : List Nat} {i v : Nat} {e : PyError}
    (h : setItem l i v = .error e) : e = .indexError := by
  unfold setItem at h
  split at h <;> cases h
  rfl

/-! ## Runs of writes into a fresh buffer

The header sectors and directory entries are each built as a fresh `bytearray` followed by a
run of slice assignments and `struct.pack_into` calls. A run is modelled as a list of
`Write`s, so that the source's statements can be read off it one by one, and its result is
read back through `slice_applyWrites` (a write's bytes, when no other write of the run overlaps
it) and `slice_applyWrites_of_disjoint` (bytes no write touches). -/

/-- One statement of a header-building run. -/
inductive Write where
  /-- `buf[start:stop] = src`. -/
  | put (start stop : Nat) (src : List UInt8)
  /-- `struct.pack_into(fmt, buf, offset, value)` with a `size`-byte little-endian format. -/
  | pack (size offset : Nat) (value : Int)

namespace Write

def start : Write → Nat
  | put start _ _ => start
  | pack _ offset _ => offset

def stop : Write → Nat
  | put _ stop _ => stop
  | pack size offset _ => offset + size

/-- The bytes the write puts at `[start, stop)` when it fits. -/
def bytes : Write → List UInt8
  | put _ _ src => src
  | pack size _ value => leBytes size value.toNat

/-- The write fits a buffer of length `n`: a slice as long as its source, a packed value in its
format's range, and nothing past the end. -/
def Fits (n : Nat) : Write → Prop
  | put start stop src => start + src.length = stop ∧ stop ≤ n
  | pack size offset value => 0 ≤ value ∧ value < 256 ^ size ∧ offset + size ≤ n

instance (n : Nat) (w : Write) : Decidable (w.Fits n) := by
  cases w <;> unfold Fits <;> infer_instance

/-- The two writes touch disjoint bytes. -/
def Disjoint (w w' : Write) : Prop := w.stop ≤ w'.start ∨ w'.stop ≤ w.start

instance (w w' : Write) : Decidable (w.Disjoint w') := by unfold Disjoint; infer_instance

def apply (buf : List UInt8) : Write → Except PyError (List UInt8)
  | put start stop src => .ok (setSlice buf start stop src)
  | pack size offset value => packInto size buf offset value

theorem start_add_length {w : Write} {n : Nat} (h : w.Fits n) :
    w.start + w.bytes.length = w.stop := by
  cases w with
  | put => exact h.1
  | pack => simp [start, stop, bytes]

theorem stop_le {w : Write} {n : Nat} (h : w.Fits n) : w.stop ≤ n := by
  cases w with
  | put => exact h.2
  | pack => exact h.2.2

theorem apply_of_fits {w : Write} {buf : List UInt8} (h : w.Fits buf.length) :
    w.apply buf = .ok (setSlice buf w.start w.stop w.bytes) := by
  cases w with
  | put => rfl
  | pack size offset value =>
    obtain ⟨h0, hv, hb⟩ := h
    have hv' : value.toNat < 256 ^ size := by
      have : (value.toNat : Int) < ((256 ^ size : Nat) : Int) := by
        rw [Int.toNat_of_nonneg h0]; push_cast; exact hv
      exact_mod_cast this
    rw [apply, ← Int.toNat_of_nonneg h0, packInto_of_lt hv' hb, Int.toNat_of_nonneg h0]
    rfl

end Write

/-- Disjointness of a run's writes depends on their spans only. -/
theorem pairwise_disjoint_iff_spans {ws : List Write} :
    ws.Pairwise Write.Disjoint ↔
      (ws.map fun w => (w.start, w.stop)).Pairwise fun a b => a.2 ≤ b.1 ∨ b.2 ≤ a.1 := by
  rw [List.pairwise_map]
  rfl

/-- The run of writes, in order; the first exception ends it. -/
def applyWrites (buf : List UInt8) : List Write → Except PyError (List UInt8)
  | [] => .ok buf
  | w :: ws => do
    let buf ← w.apply buf
    applyWrites buf ws

/-- The buffer a run of writes leaves when every write fits: each write's bytes replace its
slice. -/
def writeAll (buf : List UInt8) : List Write → List UInt8
  | [] => buf
  | w :: ws => writeAll (setSlice buf w.start w.stop w.bytes) ws

section Writes

variable {buf out : List UInt8} {ws : List Write}

/-- A run of fitting writes returns normally, with `writeAll`'s buffer, which keeps the length. -/
theorem applyWrites_eq_writeAll (h : ∀ w ∈ ws, w.Fits buf.length) :
    applyWrites buf ws = .ok (writeAll buf ws) ∧ (writeAll buf ws).length = buf.length := by
  induction ws generalizing buf with
  | nil => exact ⟨rfl, rfl⟩
  | cons w ws ih =>
    have hw := h w (List.mem_cons_self _ _)
    have hl := length_setSlice (Write.start_add_length hw) (Write.stop_le hw)
    obtain ⟨hout, hlen⟩ := @ih (setSlice buf w.start w.stop w.bytes)
      (fun w' hw' => hl ▸ h w' (List.mem_cons_of_mem _ hw'))
    exact ⟨by rw [applyWrites, Write.apply_of_fits hw, ok_bind, hout, writeAll], hlen.trans hl⟩

/-- A run of fitting writes succeeds and keeps the buffer's length. -/
theorem applyWrites_ok (h : ∀ w ∈ ws, w.Fits buf.length) :
    ∃ out, applyWrites buf ws = .ok out ∧ out.length = buf.length := by
  induction ws generalizing buf with
  | nil => exact ⟨buf, rfl, rfl⟩
  | cons w ws ih =>
    have hw := h w (List.mem_cons_self _ _)
    have hl := length_setSlice (Write.start_add_length hw) (Write.stop_le hw)
    obtain ⟨out, hout, hlen⟩ := @ih (setSlice buf w.start w.stop w.bytes)
      (fun w' hw' => hl ▸ h w' (List.mem_cons_of_mem _ hw'))
    exact ⟨out, by rw [applyWrites, Write.apply_of_fits hw, ok_bind, hout], hlen.trans hl⟩

/-- A run that returns normally had every `pack_into` in range; with slices as long as their
sources, every write of it fits. -/
theorem fits_of_applyWrites_ok (hout : applyWrites buf ws = .ok out)
    (hput : ∀ start stop src, Write.put start stop src ∈ ws →
      start + src.length = stop ∧ stop ≤ buf.length) :
    ∀ w ∈ ws, w.Fits buf.length := by
  induction ws generalizing buf with
  | nil => intro w hw; cases hw
  | cons w ws ih =>
    have hw : w.Fits buf.length := by
      cases w with
      | put start stop src => exact hput start stop src (List.mem_cons_self _ _)
      | pack size offset value =>
        rw [applyWrites] at hout
        cases h : packInto size buf offset value with
        | error e => rw [Write.apply, h] at hout; cases hout
        | ok b => exact packInto_eq_ok h
    have hl := length_setSlice (Write.start_add_length hw) (Write.stop_le hw)
    rw [applyWrites, Write.apply_of_fits hw, ok_bind] at hout
    intro w' hw'
    rcases List.mem_cons.mp hw' with rfl | hw'
    · exact hw
    · exact hl ▸ ih hout (fun a b c h => hl ▸ hput a b c (List.mem_cons_of_mem _ h)) w' hw'

/-- `struct.error` is the only exception a run of writes raises. -/
theorem applyWrites_eq_error {e : PyError} (h : applyWrites buf ws = .error e) :
    e = .structError := by
  induction ws generalizing buf with
  | nil => cases h
  | cons w ws ih =>
    rw [applyWrites] at h
    cases hw : w.apply buf with
    | error e' =>
      rw [hw] at h
      cases h
      cases w with
      | put => cases hw
      | pack => exact packInto_eq_error hw
    | ok b => rw [hw, ok_bind] at h; exact ih h

/-- Bytes that no write of the run touches keep their value. -/
theorem slice_applyWrites_of_disjoint {o o' : Nat} (h : ∀ w ∈ ws, w.Fits buf.length)
    (hout : applyWrites buf ws = .ok out) (ho : o' ≤ buf.length)
    (hdis : ∀ w ∈ ws, o' ≤ w.start ∨ w.stop ≤ o) : slice out o o' = slice buf o o' := by
  induction ws generalizing buf with
  | nil => cases hout; rfl
  | cons w ws ih =>
    have hw := h w (List.mem_cons_self _ _)
    have hl := length_setSlice (Write.start_add_length hw) (Write.stop_le hw)
    rw [applyWrites, Write.apply_of_fits hw, ok_bind] at hout
    rw [ih (fun w' hw' => hl ▸ h w' (List.mem_cons_of_mem _ hw')) hout (hl ▸ ho)
      (fun w' hw' => hdis w' (List.mem_cons_of_mem _ hw'))]
    rcases hdis w (List.mem_cons_self _ _) with hd | hd
    · exact slice_setSlice_of_le hd ho
    · exact slice_setSlice_of_ge (Write.start_add_length hw) (Write.stop_le hw) hd

/-- A write that no other write of the run overlaps can be read back. -/
theorem slice_applyWrites {w : Write} (h : ∀ w ∈ ws, w.Fits buf.length)
    (hout : applyWrites buf ws = .ok out) (hdis : ws.Pairwise Write.Disjoint) (hw : w ∈ ws) :
    slice out w.start w.stop = w.bytes := by
  induction ws generalizing buf with
  | nil => cases hw
  | cons v ws ih =>
    have hv := h v (List.mem_cons_self _ _)
    have hl := length_setSlice (Write.start_add_length hv) (Write.stop_le hv)
    have h' : ∀ w ∈ ws, w.Fits (setSlice buf v.start v.stop v.bytes).length :=
      fun w' hw' => hl ▸ h w' (List.mem_cons_of_mem _ hw')
    rw [applyWrites, Write.apply_of_fits hv, ok_bind] at hout
    rcases List.mem_cons.mp hw with rfl | hw
    · rw [slice_applyWrites_of_disjoint h' hout (hl ▸ Write.stop_le hv)
        (fun w' hw' => (List.pairwise_cons.mp hdis).1 w' hw')]
      have := Write.stop_le hv
      have := Write.start_add_length hv
      exact slice_setSlice_self (Write.start_add_length hv) (by omega)
    · exact ih h' hout (List.pairwise_cons.mp hdis).2 hw

/-- A packed field that no other write of the run overlaps reads back as its value. -/
theorem unpackFrom_writeAll {size offset : Nat} {value : Int} (h : ∀ w ∈ ws, w.Fits buf.length)
    (hdis : ws.Pairwise Write.Disjoint) (hw : Write.pack size offset value ∈ ws) :
    unpackFrom size (writeAll buf ws) offset = value.toNat := by
  have hfit := h _ hw
  have : slice (writeAll buf ws) offset (offset + size) = leBytes size value.toNat :=
    slice_applyWrites h (applyWrites_eq_writeAll h).1 hdis hw
  rw [unpackFrom, this, leValue_leBytes_of_lt]
  obtain ⟨h0, hv, -⟩ := hfit
  have hc : ((256 ^ size : Nat) : Int) = 256 ^ size := by push_cast; rfl
  omega

end Writes

end Fat32Image
