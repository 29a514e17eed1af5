import Fat32Image.FixedRoundTrip
import Fat32Image.Listing

/-!
# The directory tree of `create_disk_fixed.py`

`fixed_round_trip` follows one path, `/init/SHELL`. Here a reader lists every directory of the
image (`fixed_directory_tree`): the root holds `.`, `..`, `INIT`, `BIN` and `RUN`; each of the
three directories lists `.` naming its own cluster and `..` naming cluster 2, the root, and only
`/init` holds anything else, the file `SHELL` when the ELF file is not empty. The FAT marks each
of the four directory clusters as a chain of one cluster.

Two fields do not follow the FAT convention, and the statement records them as they are: the
`..` entries name cluster 2 where the convention writes 0 for the root, and the FSInfo sector's
next-free hint names cluster 2, which the root directory holds.
-/

namespace Fat32Image

namespace CreateDiskFixed

/-- The entry a reader decodes from a directory entry `create_directory_entry` builds. -/
def dirEntry (name : String) (attr cluster size : Nat) : DirEntry := ⟨asciiBytes name, attr, cluster, size⟩

/-- A reader's view of an empty directory at cluster `c`: `.` naming it, `..` naming the root
cluster. -/
theorem listing_emptyEntries {c : Nat} (hc : c < 2 ^ 32) :
    (listing (dirOf (emptyEntries c))).map decodeEntry =
      [dirEntry ".          " 0x10 c 0, dirEntry "..         " 0x10 2 0] := by
  rw [listing_dirOf (live_emptyEntries hc) (by simp [emptyEntries]), emptyEntries, List.map_cons, List.map_cons,
    List.map_nil, decodeEntry_entryBytes (by decide) hc (by decide),
    decodeEntry_entryBytes (by decide) (by decide) (by decide), toNat_dirAttr]
  rfl

theorem readCluster_image_empty {elfData : List UInt8} (h : 6 + clustersNeeded elfData.length ≤ 20480)
    {c : Nat} (hc : c = 4 ∨ c = 5) : readCluster (image elfData) fixedBpb c = dirOf (emptyEntries c) := by
  rcases hc with rfl | rfl
  · exact slice_image_head h (i := 7) (by simp [headBlocks])
  · exact slice_image_head h (i := 8) (by simp [headBlocks])

/-- The directory tree of every image `main` writes, as a reader with the image's own geometry
lists it, with the FAT entries of the directory clusters and the FSInfo sector's next-free hint. -/
theorem fixed_directory_tree {elfData img : List UInt8} (h : main (some elfData) = .ok img) :
    (listing (readCluster img (readBpb img) (readBpb img).rootCluster)).map decodeEntry =
      [dirEntry ".          " 0x10 2 0, dirEntry "..         " 0x10 0 0,
       dirEntry "INIT       " 0x10 3 0, dirEntry "BIN        " 0x10 4 0,
       dirEntry "RUN        " 0x10 5 0] ∧
    (listing (readCluster img (readBpb img) 3)).map decodeEntry =
      [dirEntry ".          " 0x10 3 0, dirEntry "..         " 0x10 2 0] ++
        (if elfData = [] then [] else [dirEntry "SHELL      " 0x20 6 elfData.length]) ∧
    (∀ c, c = 4 ∨ c = 5 → (listing (readCluster img (readBpb img) c)).map decodeEntry =
      [dirEntry ".          " 0x10 c 0, dirEntry "..         " 0x10 2 0]) ∧
    (∀ c, 2 ≤ c → c ≤ 5 → fatEntry img (readBpb img) c = 0x0FFFFFFF) ∧
    unpackFrom 4 (readSector img (readBpb img) 1) 492 = 2 := by
  obtain ⟨hcap, rfl⟩ := main_eq_ok h
  have hs := elfSize_lt hcap
  rw [readBpb_image hcap]
  refine ⟨?_, ?_, fun c hc => ?_, fun c h2 h5 => ?_, ?_⟩
  · show (listing (readCluster (image elfData) fixedBpb 2)).map decodeEntry = _
    rw [readCluster_image_root hcap, listing_dirOf live_rootEntries (by decide)]
    simp (disch := decide) only [rootEntries, List.map_cons, List.map_nil, toNat_dirAttr,
      decodeEntry_entryBytes]
    rfl
  · have hk : (initEntries elfData.length).length ≤ 128 := by
      unfold initEntries
      split <;> simp
    have hinit : initEntries elfData.length =
        [entryBytes ".          " dirAttr 3 0, entryBytes "..         " dirAttr 2 0] ++
          (if elfData = [] then [] else [entryBytes "SHELL      " fileAttr 6 elfData.length]) := by
      rw [initEntries]
      by_cases he : elfData = []
      · subst he
        rfl
      · rw [if_pos (List.length_pos.mpr he), if_neg he]
    rw [readCluster_image_init hcap, listing_dirOf (live_initEntries hs) hk, hinit, List.map_append,
      apply_ite (List.map decodeEntry), List.map_nil, List.map_singleton,
      decodeEntry_entryBytes (by decide) (by decide) hs, toNat_fileAttr]
    simp (disch := decide) only [List.map_cons, List.map_nil, toNat_dirAttr, decodeEntry_entryBytes]
    rfl
  · rw [readCluster_image_empty hcap hc, listing_emptyEntries (by omega)]
  · rw [fatEntry_image hcap (by omega), fixedFat, if_neg (by omega), if_pos (by omega)]
  · rw [readSector, show fixedBpb.bytesPerSector = 512 from rfl, image_fsinfo hcap]
    exact fsinfoBytes_hint

/-- The tree of the image of a four-byte ELF file, its magic number. -/
theorem fixed_directory_tree_magic :
    ∃ img, main (some [0x7F, 0x45, 0x4C, 0x46]) = .ok img ∧
      (listing (readCluster img (readBpb img) (readBpb img).rootCluster)).map decodeEntry =
        [dirEntry ".          " 0x10 2 0, dirEntry "..         " 0x10 0 0,
         dirEntry "INIT       " 0x10 3 0, dirEntry "BIN        " 0x10 4 0,
         dirEntry "RUN        " 0x10 5 0] ∧
      (listing (readCluster img (readBpb img) 3)).map decodeEntry =
        [dirEntry ".          " 0x10 3 0, dirEntry "..         " 0x10 2 0] ++
          (if ([0x7F, 0x45, 0x4C, 0x46] : List UInt8) = [] then []
            else [dirEntry "SHELL      " 0x20 6 4]) ∧
      (∀ c, c = 4 ∨ c = 5 → (listing (readCluster img (readBpb img) c)).map decodeEntry =
        [dirEntry ".          " 0x10 c 0, dirEntry "..         " 0x10 2 0]) ∧
      (∀ c, 2 ≤ c → c ≤ 5 → fatEntry img (readBpb img) c = 0x0FFFFFFF) ∧
      unpackFrom 4 (readSector img (readBpb img) 1) 492 = 2 :=
  have h : main (some [0x7F, 0x45, 0x4C, 0x46]) = .ok (image [0x7F, 0x45, 0x4C, 0x46]) :=
    main_eq (by decide)
  ⟨_, h, fixed_directory_tree h⟩

end CreateDiskFixed

end Fat32Image
