import Fat32Image.Bytes

/-!
# Short (8.3) names

`add_file_to_directory` turns a file name into the 11 name bytes of a directory entry:
`os.path.splitext` of `filename.upper()`, the stem cut to 8 characters and the extension,
without its dot, to 3, each padded with spaces, then `encode('ascii')`.

Names are lists of characters. `upper` is Python's `str.upper`, one character at a time:
`a`-`z` become `A`-`Z`, and the seventeen non-ASCII characters whose upper case holds an ASCII
character (`ß`, `ı`, `ŉ`, `ſ`, `ǰ`, U+1E96 to U+1E9A and the ligatures U+FB00 to U+FB06) become
that upper case, so that `straße.txt` encodes as `STRASSE TXT`. Every other non-ASCII character
is kept: Python's upper case of it is made of non-ASCII characters only, and the 8.3 cut keeps
its first character exactly when it keeps the character itself, so `encode('ascii')` raises on
the same names.
`splitext` is `posixpath.splitext`, with its rule that leading dots of the last path component
never start an extension.

Two facts are proved. Whatever the upper-cased name, an encoding that succeeds is exactly 11
bytes, and it succeeds exactly when the characters it keeps are ASCII (`shortName_ok_iff`).
For a valid 8.3 name, trimming the padding and joining stem and extension again gives back
the upper-cased name (`decodeShortName_fatFilename`).
-/

namespace Fat32Image

/-! ## Python string operations -/

/-- `c.upper()` (Unicode 14.0, as in Python 3.11): `a`-`z` become `A`-`Z`; the characters whose
upper case holds an ASCII character become that upper case (`SpecialCasing.txt` for `ß`, `ŉ`,
`ǰ`, U+1E96 to U+1E9A and the ligatures, `UnicodeData.txt` for `ı` and `ſ`); every other character
is kept. -/
def upperChar : Char → List Char
  | 'ß' => ['S', 'S']
  | 'ı' => ['I']
  | 'ŉ' => [Char.ofNat 0x2BC, 'N']
  | 'ſ' => ['S']
  | 'ǰ' => ['J', Char.ofNat 0x30C]
  | 'ẖ' => ['H', Char.ofNat 0x331]
  | 'ẗ' => ['T', Char.ofNat 0x308]
  | 'ẘ' => ['W', Char.ofNat 0x30A]
  | 'ẙ' => ['Y', Char.ofNat 0x30A]
  | 'ẚ' => ['A', Char.ofNat 0x2BE]
  | 'ﬀ' => ['F', 'F']
  | 'ﬁ' => ['F', 'I']
  | 'ﬂ' => ['F', 'L']
  | 'ﬃ' => ['F', 'F', 'I']
  | 'ﬄ' => ['F', 'F', 'L']
  | 'ﬅ' => ['S', 'T']
  | 'ﬆ' => ['S', 'T']
  | c => [c.toUpper]

/-- `str.upper()`: the upper case of each character in turn. -/
def upper (s : List Char) : List Char := s.flatMap upperChar

@[simp] theorem upper_nil : upper [] = [] := rfl

@[simp] theorem upper_cons (c : Char) (s : List Char) : upper (c :: s) = upperChar c ++ upper s :=
  rfl

@[simp] theorem upper_append (s t : List Char) : upper (s ++ t) = upper s ++ upper t :=
  List.flatMap_append s t upperChar

theorem toNat_ofNat_of_lt {m : Nat} (h : m < 55296) : (Char.ofNat m).toNat = m := by
  simp [Char.ofNat, Nat.isValidChar, h, Char.ofNatAux, Char.toNat, UInt32.toNat]

theorem toNat_toUpper (c : Char) :
    c.toUpper.toNat = if 97 ≤ c.toNat ∧ c.toNat ≤ 122 then c.toNat - 32 else c.toNat := by
  unfold Char.toUpper
  split
  · rw [if_pos ‹_›, toNat_ofNat_of_lt (by omega)]
  · rw [if_neg ‹_›]

theorem toUpper_eq_nul {c : Char} : c.toUpper = '\x00' ↔ c = '\x00' := by
  refine ⟨fun h => ?_, by rintro rfl; rfl⟩
  have h0 := congrArg Char.toNat h
  rw [toNat_toUpper] at h0
  rw [← Char.ofNat_toNat c]
  split at h0
  · change _ = 0 at h0
    omega
  · change _ = 0 at h0
    rw [h0]

/-- On ASCII, `upper` is `Char.toUpper`: no entry of the special-casing table is ASCII. -/
theorem upperChar_of_lt {c : Char} (h : c.toNat < 128) : upperChar c = [c.toUpper] := by
  unfold upperChar
  split <;> first | rfl | exact absurd h (by decide)

theorem upper_eq_map {s : List Char} (h : ∀ c ∈ s, c.toNat < 128) :
    upper s = s.map Char.toUpper := by
  induction s with
  | nil => rfl
  | cons c s ih =>
    rw [upper_cons, upperChar_of_lt (h c (List.mem_cons_self _ _)),
      ih fun d hd => h d (List.mem_cons_of_mem _ hd)]
    rfl

/-- Every character's upper case is non-empty, and starts with NUL only for NUL. -/
theorem upperChar_eq_cons (c : Char) : ∃ d ds, upperChar c = d :: ds ∧ (d = '\x00' ↔ c = '\x00') := by
  unfold upperChar
  split <;> first | exact ⟨_, _, rfl, by decide⟩ | exact ⟨_, [], rfl, toUpper_eq_nul⟩

theorem head?_upper_eq_nul {s : List Char} : (upper s).head? = some '\x00' ↔ s.head? = some '\x00' := by
  cases s with
  | nil => simp
  | cons c s =>
    obtain ⟨d, ds, hd, hiff⟩ := upperChar_eq_cons c
    simp [hd, hiff]

/-- `s.rfind(c)`: the index of the last `c` in `s`, or `-1`. -/
def rfind : List Char → Char → Int
  | [], _ => -1
  | x :: xs, c => if 0 ≤ rfind xs c then rfind xs c + 1 else if x = c then 0 else -1

/-- `os.path.splitext` (`posixpath`): the extension starts at the last `.` after the last `/`,
unless only dots stand between that `/` and that `.`. -/
def splitext (p : List Char) : List Char × List Char :=
  let sepIndex := rfind p '/'
  let dotIndex := rfind p '.'
  if sepIndex < dotIndex ∧ (slice p (sepIndex + 1).toNat dotIndex.toNat).any (· != '.') then
    (p.take dotIndex.toNat, p.drop dotIndex.toNat)
  else (p, [])

/-- `s.ljust(n)`. -/
def ljust (s : List Char) (n : Nat) : List Char := s ++ List.replicate (n - s.length) ' '

/-- The byte `encode('ascii')` gives an ASCII character. -/
def asciiByte (c : Char) : UInt8 := UInt8.ofNat c.toNat

/-- `s.encode('ascii')`. -/
def encodeAscii (s : List Char) : Except PyError (List UInt8) :=
  if s.all (·.toNat < 128) then .ok (s.map asciiByte) else .error .unicodeEncodeError

/-! ## The 8.3 encoding -/

/-- Lines 167-170 of `add_file_to_directory`, on the upper-cased name `u`. -/
def shortName (u : List Char) : Except PyError (List UInt8) :=
  let name := ljust ((splitext u).1.take 8) 8
  let ext := if (splitext u).2.isEmpty then "   ".toList
    else ljust (((splitext u).2.drop 1).take 3) 3
  encodeAscii (name ++ ext)

/-- `fat_filename` in `add_file_to_directory`. -/
def fatFilename (filename : String) : Except PyError (List UInt8) :=
  shortName (upper filename.toList)

example : fatFilename "straße.txt" = .ok ("STRASSE TXT".toList.map asciiByte) := rfl

/-- The characters of the stem the encoding keeps: `name[:8]`. -/
def keptStem (u : List Char) : List Char := (splitext u).1.take 8

/-- The characters of the extension the encoding keeps: `ext[1:4]`. -/
def keptExt (u : List Char) : List Char := ((splitext u).2.drop 1).take 3

theorem length_ljust {s : List Char} {n : Nat} (h : s.length ≤ n) : (ljust s n).length = n := by
  simp only [ljust, List.length_append, List.length_replicate]
  omega

theorem shortName_eq (u : List Char) :
    shortName u = encodeAscii (ljust (keptStem u) 8 ++ ljust (keptExt u) 3) := by
  simp only [shortName, keptStem, keptExt]
  split
  · rename_i h
    rw [List.isEmpty_iff.mp h]
    rfl
  · rfl

theorem encodeAscii_ok_iff {s : List Char} {b : List UInt8} :
    encodeAscii s = .ok b ↔ (∀ c ∈ s, c.toNat < 128) ∧ b = s.map asciiByte := by
  simp only [encodeAscii]
  split
  · rename_i h
    simp only [List.all_eq_true, decide_eq_true_eq] at h
    exact ⟨fun h' => ⟨h, (Except.ok.inj h').symm⟩, fun ⟨_, hb⟩ => hb ▸ rfl⟩
  · rename_i h
    simp only [List.all_eq_true, decide_eq_true_eq] at h
    exact ⟨fun h' => (nomatch h'), fun ⟨h', _⟩ => absurd h' h⟩

/-- The encoding succeeds exactly when the kept characters are ASCII: the padding always is. -/
theorem shortName_ok_iff (u : List Char) :
    (∃ b, shortName u = .ok b) ↔ ∀ c ∈ keptStem u ++ keptExt u, c.toNat < 128 := by
  rw [shortName_eq]
  constructor
  · rintro ⟨b, hb⟩ c hc
    refine (encodeAscii_ok_iff.mp hb).1 c ?_
    simp only [ljust, List.mem_append] at hc ⊢
    tauto
  · intro h
    refine ⟨_, encodeAscii_ok_iff.mpr ⟨fun c hc => ?_, rfl⟩⟩
    simp only [ljust, List.mem_append, List.mem_replicate] at hc
    rcases hc with (hc | ⟨-, rfl⟩) | (hc | ⟨-, rfl⟩)
    · exact h c (List.mem_append_left _ hc)
    · decide
    · exact h c (List.mem_append_right _ hc)
    · decide

theorem length_of_shortName_eq_ok {u : List Char} {b : List UInt8} (h : shortName u = .ok b) :
    b.length = 11 := by
  rw [shortName_eq, encodeAscii_ok_iff] at h
  rw [h.2, List.length_map, List.length_append, length_ljust, length_ljust]
  · simp only [keptExt, List.length_take]; omega
  · simp only [keptStem, List.length_take]; omega

theorem fatFilename_eq_error {filename : String} {e : PyError}
    (h : fatFilename filename = .error e) : e = .unicodeEncodeError := by
  rw [fatFilename, shortName_eq, encodeAscii] at h
  split at h
  · cases h
  · cases h; rfl

theorem head?_splitext_fst (p : List Char) : (splitext p).1.head? = p.head? := by
  unfold splitext
  dsimp only
  split
  · rename_i h
    rw [List.head?_take, if_neg]
    intro h0
    simp [h0, slice] at h
  · rfl

/-- The first byte of an encoded name is never `0x00` (end of directory) or `0xE5` (deleted
entry), unless the filename starts with NUL: it is the byte of the upper-cased first character,
or a space for an empty stem. -/
theorem head?_fatFilename {filename : String} {b : List UInt8} (h : fatFilename filename = .ok b)
    (hnul : filename.toList.head? ≠ some '\x00') : b.head? ≠ some 0 ∧ b.head? ≠ some 0xE5 := by
  rw [fatFilename, shortName_eq, encodeAscii_ok_iff] at h
  obtain ⟨hascii, rfl⟩ := h
  have hhead : (keptStem (upper filename.toList)).head? = (upper filename.toList).head? := by
    rw [keptStem, List.head?_take, if_neg (by decide), head?_splitext_fst]
  obtain ⟨c, cs, hcs, hc⟩ : ∃ c cs, ljust (keptStem (upper filename.toList)) 8 ++
      ljust (keptExt (upper filename.toList)) 3 = c :: cs ∧ c.toNat ≠ 0 := by
    cases hS : keptStem (upper filename.toList) with
    | nil => exact ⟨' ', _, rfl, by decide⟩
    | cons x xs =>
      refine ⟨x, _, rfl, fun h0 => hnul (head?_upper_eq_nul.mp ?_)⟩
      rw [← hhead, hS, List.head?_cons, ← Char.ofNat_toNat x, h0]
  have h128 := hascii c (by rw [hcs]; exact List.mem_cons_self _ _)
  have hval : (asciiByte c).toNat = c.toNat :=
    UInt8.toNat_ofNat_of_lt (by unfold UInt8.size; omega)
  rw [hcs, List.map_cons, List.head?_cons]
  constructor <;> intro h' <;> have := hval ▸ congrArg UInt8.toNat (Option.some.inj h')
  · exact hc this
  · change c.toNat = 229 at this
    omega

/-- An encoded name starts with the byte 0 exactly when the filename starts with NUL: the stem
keeps the first character, upper-cased. -/
theorem head?_fatFilename_nul {filename : String} {b : List UInt8} (h : fatFilename filename = .ok b)
    (hnul : filename.toList.head? = some '\x00') : b.head? = some 0 := by
  rw [fatFilename, shortName_eq, encodeAscii_ok_iff] at h
  obtain ⟨-, rfl⟩ := h
  have hhead : (keptStem (upper filename.toList)).head? = some '\x00' := by
    rw [keptStem, List.head?_take, if_neg (by decide), head?_splitext_fst, head?_upper_eq_nul.mpr hnul]
  obtain ⟨cs, hcs⟩ : ∃ cs, keptStem (upper filename.toList) = '\x00' :: cs := by
    cases hS : keptStem (upper filename.toList) with
    | nil => rw [hS] at hhead; cases hhead
    | cons x xs => rw [hS, List.head?_cons, Option.some.injEq] at hhead; exact ⟨xs, by rw [hhead]⟩
  rw [hcs, ljust, List.cons_append, List.cons_append, List.map_cons, List.head?_cons]
  rfl

/-! ## Reading a short name back -/

/-- `l` without its trailing space bytes. -/
def trimSpaces (l : List UInt8) : List UInt8 := (l.reverse.dropWhile (· == 32)).reverse

/-- The character an ASCII byte stands for. -/
def asciiChar (x : UInt8) : Char := Char.ofNat x.toNat

/-- A reader's view of 11 name bytes: stem and extension with their trailing spaces trimmed,
joined by a dot when the extension is not empty. -/
def decodeShortName (b : List UInt8) : List Char :=
  let stem := trimSpaces (b.take 8)
  let ext := trimSpaces ((b.drop 8).take 3)
  stem.map asciiChar ++ (if ext.isEmpty then [] else '.' :: ext.map asciiChar)

/-- The characters of an 8.3 name besides its padding: letters of either case (the name is
upper-cased first), digits, and `! # $ % & ' ( ) - @ ^ _`, backquote, braces and tilde. -/
def legalChar (c : Char) : Bool :=
  let n := c.toNat
  (48 ≤ n && n ≤ 57) || (65 ≤ n && n ≤ 90) || (97 ≤ n && n ≤ 122) ||
    [33, 35, 36, 37, 38, 39, 40, 41, 45, 64, 94, 95, 96, 123, 125, 126].contains n

/-- A valid 8.3 name: `stem` or `stem.ext`, with a stem of 1 to 8 and an extension of at most 3
legal characters. -/
def Valid83 (f : List Char) : Prop :=
  ∃ stem ext : List Char, 0 < stem.length ∧ stem.length ≤ 8 ∧ ext.length ≤ 3 ∧
    (∀ c ∈ stem ++ ext, legalChar c) ∧ f = stem ++ (if ext = [] then [] else '.' :: ext)

/-- A character the encoding keeps as it is and never takes for a separator or for padding. -/
def Plain (c : Char) : Prop := c.toNat < 128 ∧ c.toNat ≠ 32 ∧ c.toNat ≠ 46 ∧ c.toNat ≠ 47

theorem lt_of_legalChar {c : Char} (h : legalChar c) : c.toNat < 128 := by
  simp [legalChar] at h
  omega

theorem plain_toUpper {c : Char} (h : legalChar c) : Plain c.toUpper := by
  simp [legalChar] at h
  unfold Plain
  rw [toNat_toUpper]
  split <;> omega

theorem Plain.ne_dot {c : Char} (h : Plain c) : c ≠ '.' := by
  rintro rfl
  exact h.2.2.1 rfl

theorem Plain.ne_slash {c : Char} (h : Plain c) : c ≠ '/' := by
  rintro rfl
  exact h.2.2.2 rfl

theorem neg_one_le_rfind (s : List Char) (c : Char) : -1 ≤ rfind s c := by
  induction s with
  | nil => simp [rfind]
  | cons x xs ih => simp only [rfind]; split_ifs <;> omega

theorem rfind_of_not_mem {s : List Char} {c : Char} (h : c ∉ s) : rfind s c = -1 := by
  induction s with
  | nil => rfl
  | cons x xs ih =>
    simp only [List.mem_cons, not_or] at h
    simp [rfind, ih h.2, Ne.symm h.1]

theorem rfind_append_cons {s t : List Char} {c : Char} (h : c ∉ t) :
    rfind (s ++ c :: t) c = s.length := by
  induction s with
  | nil => simp [rfind, rfind_of_not_mem h]
  | cons x xs ih =>
    rw [List.cons_append, rfind, ih, if_pos (by omega), List.length_cons]
    omega

theorem splitext_of_not_mem {p : List Char} (h : '.' ∉ p) : splitext p = (p, []) := by
  have := neg_one_le_rfind p '/'
  simp only [splitext, rfind_of_not_mem h]
  rw [if_neg (by omega)]

theorem splitext_stem_ext {stem ext : List Char} (hs : stem ≠ []) (hstem : ∀ c ∈ stem, Plain c)
    (hext : ∀ c ∈ ext, Plain c) : splitext (stem ++ '.' :: ext) = (stem, '.' :: ext) := by
  have hslash : '/' ∉ stem ++ '.' :: ext := by
    simp only [List.mem_append, List.mem_cons, not_or]
    exact ⟨fun h => (hstem _ h).ne_slash rfl, by decide, fun h => (hext _ h).ne_slash rfl⟩
  have hany : stem.any (· != '.') = true := by
    obtain ⟨x, xs, rfl⟩ := List.exists_cons_of_ne_nil hs
    simp [(hstem x (List.mem_cons_self _ _)).ne_dot]
  simp only [splitext, rfind_of_not_mem hslash, rfind_append_cons (fun h => (hext _ h).ne_dot rfl)]
  rw [if_pos ⟨by omega, by simp [slice, hany]⟩]
  simp

theorem asciiChar_asciiByte {c : Char} (h : c.toNat < 128) : asciiChar (asciiByte c) = c := by
  rw [asciiChar, asciiByte, UInt8.toNat_ofNat_of_lt (by unfold UInt8.size; omega),
    Char.ofNat_toNat]

theorem asciiByte_ne_space {c : Char} (h : Plain c) : asciiByte c ≠ 32 := by
  intro h'
  have := congrArg UInt8.toNat h'
  rw [asciiByte, UInt8.toNat_ofNat_of_lt (by unfold UInt8.size; have := h.1; omega)] at this
  exact h.2.1 this

theorem trimSpaces_append_spaces {l : List UInt8} (h : ∀ x ∈ l, x ≠ 32) (k : Nat) :
    trimSpaces (l ++ List.replicate k 32) = l := by
  have hk : ∀ a ∈ List.replicate k (32 : UInt8), (a == 32) = true := by
    simp [List.mem_replicate]
  rw [trimSpaces, List.reverse_append, List.reverse_replicate, List.dropWhile_append_of_pos hk]
  cases hr : l.reverse with
  | nil =>
    obtain rfl := List.reverse_eq_nil_iff.mp hr
    rfl
  | cons y ys =>
    have hy : y ≠ 32 := h y (List.mem_reverse.mp (hr ▸ List.mem_cons_self y ys))
    rw [List.dropWhile_cons_of_neg (by simpa using hy), ← hr, List.reverse_reverse]

/-- Decoding the padded encoding of a plain stem and extension gives them back. -/
theorem decodeShortName_encode {S E : List Char} (hS : ∀ c ∈ S, Plain c)
    (hE : ∀ c ∈ E, Plain c) (hs : S.length ≤ 8) (he : E.length ≤ 3) :
    decodeShortName ((ljust S 8 ++ ljust E 3).map asciiByte) =
      S ++ (if E = [] then [] else '.' :: E) := by
  have hsp : asciiByte ' ' = 32 := rfl
  have hne : ∀ L : List Char, (∀ c ∈ L, Plain c) → ∀ x ∈ L.map asciiByte, x ≠ 32 := by
    intro L hL x hx
    obtain ⟨c, hc, rfl⟩ := List.mem_map.mp hx
    exact asciiByte_ne_space (hL c hc)
  have hid : ∀ L : List Char, (∀ c ∈ L, Plain c) → (L.map asciiByte).map asciiChar = L := by
    intro L hL
    rw [List.map_map]
    conv_rhs => rw [← List.map_id L]
    exact List.map_congr_left (fun c hc => asciiChar_asciiByte (hL c hc).1)
  have h8 : ((ljust S 8).map asciiByte).length = 8 := by rw [List.length_map, length_ljust hs]
  have h3 : ((ljust E 3).map asciiByte).length ≤ 3 := by rw [List.length_map, length_ljust he]
  rw [List.map_append]
  simp only [decodeShortName, List.take_left' h8, List.drop_left' h8, List.take_of_length_le h3]
  simp only [ljust, List.map_append, List.map_replicate, hsp, trimSpaces_append_spaces (hne S hS),
    trimSpaces_append_spaces (hne E hE), hid S hS, hid E hE, List.isEmpty_iff,
    List.map_eq_nil_iff]

theorem shortName_of_splitext {u S E : List Char}
    (h : splitext u = (S, if E = [] then [] else '.' :: E)) (hs : S.length ≤ 8)
    (he : E.length ≤ 3) : shortName u = encodeAscii (ljust S 8 ++ ljust E 3) := by
  have hS : keptStem u = S := by rw [keptStem, h, List.take_of_length_le hs]
  have hE : keptExt u = E := by
    rw [keptExt, h]
    split
    · subst E; rfl
    · rw [List.drop_one, List.tail_cons, List.take_of_length_le he]
  rw [shortName_eq, hS, hE]

/-- On a valid 8.3 name the encoding succeeds, and reading the 11 bytes back gives the
upper-cased name. -/
theorem decodeShortName_fatFilename {filename : String} (h : Valid83 filename.toList) :
    ∃ b, fatFilename filename = .ok b ∧ decodeShortName b = upper filename.toList := by
  obtain ⟨stem, ext, hpos, hs, he, hlegal, hf⟩ := h
  have hS : ∀ c ∈ stem.map Char.toUpper, Plain c := by
    simp only [List.mem_map]
    rintro _ ⟨d, hd, rfl⟩
    exact plain_toUpper (hlegal d (List.mem_append_left _ hd))
  have hE : ∀ c ∈ ext.map Char.toUpper, Plain c := by
    simp only [List.mem_map]
    rintro _ ⟨d, hd, rfl⟩
    exact plain_toUpper (hlegal d (List.mem_append_right _ hd))
  have hu : upper filename.toList = stem.map Char.toUpper ++
      (if ext.map Char.toUpper = [] then [] else '.' :: ext.map Char.toUpper) := by
    have hstem : upper stem = stem.map Char.toUpper :=
      upper_eq_map fun c hc => lt_of_legalChar (hlegal c (List.mem_append_left _ hc))
    have hext : upper ext = ext.map Char.toUpper :=
      upper_eq_map fun c hc => lt_of_legalChar (hlegal c (List.mem_append_right _ hc))
    rw [hf, upper_append, hstem]
    by_cases h : ext = [] <;> simp [h, hext, show upperChar '.' = ['.'] from rfl]
  have hsplit : splitext (upper filename.toList) = (stem.map Char.toUpper,
      if ext.map Char.toUpper = [] then [] else '.' :: ext.map Char.toUpper) := by
    rw [hu]
    split
    · rw [List.append_nil]
      exact splitext_of_not_mem (fun h => (hS _ h).ne_dot rfl)
    · exact splitext_stem_ext (by simpa [← List.length_pos] using hpos) hS hE
  have hlS : (stem.map Char.toUpper).length ≤ 8 := by simpa using hs
  have hlE : (ext.map Char.toUpper).length ≤ 3 := by simpa using he
  refine ⟨_, ?_, by rw [decodeShortName_encode hS hE hlS hlE, hu]⟩
  rw [fatFilename, shortName_of_splitext hsplit hlS hlE, encodeAscii_ok_iff]
  refine ⟨fun c hc => ?_, rfl⟩
  simp only [ljust, List.mem_append, List.mem_replicate] at hc
  rcases hc with (hc | ⟨-, rfl⟩) | (hc | ⟨-, rfl⟩)
  · exact (hS c hc).1
  · decide
  · exact (hE c hc).1
  · decide

end Fat32Image
