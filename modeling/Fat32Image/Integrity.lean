import Fat32Image.RootFiles

/-!
# What a file-system check finds in the root directory

A check such as `fsck` walks the files of a directory and checks three things of each chain in
the FAT: the chain ends with an end-of-chain mark after exactly the clusters the file's size
needs, it stays inside the allocated clusters, and no cluster belongs to two files. Over every
run of the builder's methods in any order that ends with `write_fat_tables`, the root directory
passes all three (`rootChains_runCalls`): a reader that follows the chain of an entry the root
lists gets the clusters its size needs, consecutive from its first cluster and below
`next_free_cluster`, and the chain of each entry ends before the chain of any later entry starts.

The invariant that carries it (`ChainsOk`) is stated on the root's log, the FAT table and the
allocator. A call that leaves the log's entries alone keeps it, since it keeps the table below
`next_free_cluster` (`Call.frame`); `create_root_directory` resets the entries to the volume
label, which names no cluster; the call that appends an entry links its chain at
`next_free_cluster`, past every earlier chain (`ChainsOk.append`).
-/

namespace Fat32Image

open Fat32DiskBuilder

/-- The chain of `n` clusters from `c` in `fat`: each entry names the cluster after it, the last
holds the end-of-chain mark. -/
def Linked (fat : List Nat) (c n : Nat) : Prop :=
  ∀ i < n, fat[c + i]? = some (if c + i + 1 < c + n then c + i + 1 else eoc)

/-- The chains of the root's entries `E` in the table `fat`, with `next` as `next_free_cluster`:
every entry that names a first cluster names a chain of the clusters its size needs, linked and
allocated, and the chain of each entry ends before the chain of any later entry starts. -/
structure ChainsOk (E : List (List UInt8)) (fat : List Nat) (next : Nat) : Prop where
  chain : ∀ e ∈ E, (decodeEntry e).cluster ≠ 0 →
    3 ≤ (decodeEntry e).cluster ∧ 0 < (decodeEntry e).clusters ∧
      (decodeEntry e).cluster + (decodeEntry e).clusters ≤ next ∧
      Linked fat (decodeEntry e).cluster (decodeEntry e).clusters
  ordered : E.Pairwise fun e e' => (decodeEntry e).cluster ≠ 0 → (decodeEntry e').cluster ≠ 0 →
    (decodeEntry e).cluster + (decodeEntry e).clusters ≤ (decodeEntry e').cluster

/-! ## One call -/

/-- A table that agrees below `next` and a counter that has not gone back keep the chains. -/
theorem ChainsOk.mono {E : List (List UInt8)} {fat fat' : List Nat} {next next' : Nat}
    (hok : ChainsOk E fat next) (hfat : ∀ x, 3 ≤ x → x < next → fat'[x]? = fat[x]?)
    (hle : next ≤ next') : ChainsOk E fat' next' := by
  refine ⟨fun e he hc => ?_, hok.ordered⟩
  obtain ⟨h3, hpos, hb, hl⟩ := hok.chain e he hc
  exact ⟨h3, hpos, hb.trans hle, fun i hi => by rw [hfat _ (by omega) (by omega)]; exact hl i hi⟩

theorem decodeEntry_volumeEntry_cluster : (decodeEntry volumeEntry).cluster = 0 := by decide

theorem chainsOk_volumeEntry (fat : List Nat) (next : Nat) : ChainsOk [volumeEntry] fat next :=
  ⟨fun _ he hc => absurd (List.mem_singleton.mp he ▸ decodeEntry_volumeEntry_cluster) hc,
    List.pairwise_singleton _ _⟩

/-- Appending the entry of a file whose chain is linked at `next`. -/
theorem ChainsOk.append {E : List (List UInt8)} {fat : List Nat} {next : Nat} {f : FileArg}
    {e : List UInt8} (hok : ChainsOk E fat next) (h3 : 3 ≤ next)
    (hlen : next + f.clusters ≤ fat.length) (he : f.entry (f.firstCluster next) = .ok e) :
    ChainsOk (E ++ [e]) (linkChain fat next f.clusters) (next + f.clusters) := by
  have hold : ChainsOk E (linkChain fat next f.clusters) (next + f.clusters) :=
    hok.mono (fun x _ hx => getElem?_linkChain_of_lt hx) (Nat.le_add_right _ f.clusters)
  obtain ⟨-, -, hcl, hsz, -⟩ := FileArg.entry_fields he
  have hn : (decodeEntry e).clusters = f.clusters := by rw [DirEntry.clusters, hsz]; rfl
  -- the new entry names `next` unless the file is empty
  have hnew : (decodeEntry e).cluster ≠ 0 → (decodeEntry e).cluster = next ∧ 0 < f.clusters := by
    intro hc
    rw [hcl, FileArg.firstCluster] at hc ⊢
    split at hc
    · exact ⟨if_pos ‹_›, clustersNeeded_pos_iff.mpr ‹_›⟩
    · exact absurd rfl hc
  refine ⟨fun e' he' hc => ?_, List.pairwise_append.mpr ⟨hold.ordered, List.pairwise_singleton _ _,
    fun a ha b hb hca hcb => ?_⟩⟩
  · rcases List.mem_append.mp he' with h | h
    · exact hold.chain e' h hc
    · obtain rfl := List.mem_singleton.mp h
      obtain ⟨hc', hpos⟩ := hnew hc
      rw [hc', hn]
      exact ⟨h3, hpos, le_refl _, fun i hi =>
        getElem?_linkChain_of_mem (by omega) (by omega) (by omega)⟩
  · obtain rfl := List.mem_singleton.mp hb
    rw [(hnew hcb).1]
    exact (hok.chain a ha hca).2.2.1

/-- A call that is not `create_root_directory` and adds no file to the root leaves the log's
entries alone. -/
theorem Call.entries_log {c : Call} {l l' : RootLog} (hf : c.rootFile = none)
    (hc : c ≠ .createRootDirectory) (h : c.log l = .ok l') : l'.entries = l.entries := by
  cases c with
  | createRootDirectory => exact absurd rfl hc
  | addFileToDirectory filename fileData now dc =>
    rw [Call.rootFile] at hf
    split at hf
    · cases hf
    · rw [Call.log, decide_eq_false ‹_›, RootLog.add, if_neg Bool.false_ne_true] at h
      cases h
      rfl
  | addFile localPath localData =>
    cases localData with
    | none =>
      cases h
      rfl
    | some => cases hf
  | _ =>
    cases h
    rfl

/-- One call keeps the chains of the root's entries, whichever method it calls. -/
theorem ChainsOk.run {c : Call} {s s' : Fat32DiskBuilder} {l l' : RootLog}
    (hs : FatShape s.fatTable s.nextFreeCluster) (hnext : s.nextFreeCluster = l.next)
    (hok : ChainsOk l.entries s.fatTable s.nextFreeCluster) (h : c.run s = .ok s')
    (hl : c.log l = .ok l') : ChainsOk l'.entries s'.fatTable s'.nextFreeCluster := by
  cases hf : c.rootFile with
  | some f =>
    rw [Call.run_of_rootFile hf] at h
    rw [Call.log_of_rootFile hf, RootLog.add, if_pos rfl, ← hnext] at hl
    obtain ⟨e, he, hl⟩ := bind_eq_ok.mp hl
    cases hl
    obtain ⟨hfat, hnext', -⟩ := fat_addFileToDirectory h
    have hle := (hs.addFileToDirectory h).le_length
    rw [hnext'] at hle
    rw [hfat, hnext']
    exact hok.append hs.three_le (by rw [hs.length]; exact hle) he
  | none =>
    by_cases hr : c = .createRootDirectory
    · subst hr
      cases hl
      exact chainsOk_volumeEntry _ _
    · rw [Call.entries_log hf hr hl]
      exact hok.mono (Call.frame hs h).fat (Call.frame hs h).next_le

/-! ## Runs -/

theorem ChainsOk.runCalls {cs : List Call} {s s' : Fat32DiskBuilder} {l l' : RootLog}
    (hs : FatShape s.fatTable s.nextFreeCluster) (hL : RootLayout l.entries s.diskImage)
    (hnext : s.nextFreeCluster = l.next) (hname : ∀ c ∈ cs, c.NameOk)
    (hok : ChainsOk l.entries s.fatTable s.nextFreeCluster) (h : runCalls cs s = .ok s')
    (hl : runLog cs l = .ok l') : ChainsOk l'.entries s'.fatTable s'.nextFreeCluster := by
  induction cs generalizing s l with
  | nil =>
    cases h
    cases hl
    exact hok
  | cons c cs ih =>
    obtain ⟨s1, h1, h⟩ := bind_eq_ok.mp h
    obtain ⟨l1, hl1, hl⟩ := bind_eq_ok.mp hl
    obtain ⟨l2, hl2, hL1, hn1⟩ := Call.log_run hs hL hnext (hname c (List.mem_cons_self c cs)) h1
    cases hl1.symm.trans hl2
    exact ih (hs.run h1) hL1 hn1 (fun c' h' => hname c' (List.mem_cons_of_mem _ h'))
      (hok.run hs hnext h1 hl1) h hl

/-- Over every run from `Fat32DiskBuilder(size_mb)` (at least 1 MB) that returns normally, in any
order of calls, ends with `write_fat_tables`, and names no file on the root with a leading NUL:
for every entry the root cluster lists with a first cluster, a reader that follows its chain
through the first FAT copy gets the clusters its size needs, consecutive from the first one and
all allocated; and the chain of each entry ends before the chain of any later entry starts, so
no cluster belongs to two files. -/
theorem rootChains_runCalls {sizeMb : Nat} {cs : List Call} {s : Fat32DiskBuilder}
    (h1 : 1 ≤ sizeMb) (hname : ∀ c ∈ cs, c.NameOk)
    (h : runCalls (cs ++ [.writeFatTables]) (init sizeMb) = .ok s) :
    (∀ e ∈ listing (readCluster s.diskImage builderBpb builderBpb.rootCluster),
      (decodeEntry e).cluster ≠ 0 →
        (decodeEntry e).cluster + (decodeEntry e).clusters ≤ s.nextFreeCluster ∧
        ∀ fuel, (decodeEntry e).clusters ≤ fuel →
          chainFrom s.diskImage builderBpb fuel (decodeEntry e).cluster =
            some (List.range' (decodeEntry e).cluster (decodeEntry e).clusters)) ∧
    (listing (readCluster s.diskImage builderBpb builderBpb.rootCluster)).Pairwise fun e e' =>
      (decodeEntry e).cluster ≠ 0 → (decodeEntry e').cluster ≠ 0 →
        (decodeEntry e).cluster + (decodeEntry e).clusters ≤ (decodeEntry e').cluster := by
  obtain ⟨t, ht, hw⟩ := runCalls_append_eq_ok h
  obtain ⟨s3, hw, hs3⟩ := bind_eq_ok.mp hw
  cases hs3
  have hs0 := fatShape_init sizeMb
  have hsT := hs0.runCalls ht
  have hL0 := rootLayout_init h1
  obtain ⟨l, hl, hL, -⟩ := runLog_runCalls (l := ⟨[], 3⟩) hs0 hL0 rfl hname ht
  have hok := ChainsOk.runCalls hs0 hL0 rfl hname ⟨fun _ h => absurd h (List.not_mem_nil _), List.Pairwise.nil⟩ ht hl
  have hlenT : 278528 ≤ t.diskImage.length := runCalls_keep
    (I := fun u => 278528 ≤ u.diskImage.length) (fun _ _ _ _ hu hI h => hI.trans (Call.length_le_run hu h))
    hs0 (by have := hL0.fits; rw [rootOffset_eq] at this; exact le_of_add_le_left this) ht
  cases (writeFatTables_eq hsT).symm.trans hw
  obtain ⟨-, -, hcopy, -, -⟩ :=
    writeFatCopies_slices hlenT (by rw [length_flatMap_leBytes, hsT.length])
  have hL' := hL.writeFatCopies (by rw [length_flatMap_leBytes, hsT.length])
  rw [readCluster_root, hL'.root, listing_dirOf hL'.live hL'.length_le]
  refine ⟨fun e he hc => ?_, hok.ordered⟩
  obtain ⟨h3, hpos, hb, hlink⟩ := hok.chain e he hc
  have h32 := hsT.le_length
  have hentry : ∀ i < (decodeEntry e).clusters, fatEntry (writeFatCopies t.diskImage
      (t.fatTable.flatMap (leBytes 4))) builderBpb ((decodeEntry e).cluster + i) =
      if (decodeEntry e).cluster + i + 1 < (decodeEntry e).cluster + (decodeEntry e).clusters
      then (decodeEntry e).cluster + i + 1 else eoc := fun i hi => by
    have hx := fatEntry_of_copy hcopy hsT (c := (decodeEntry e).cluster + i) (by omega)
    rw [hlink i hi] at hx
    exact Option.some.inj hx
  refine ⟨hb, fun fuel hfuel => chainFrom_of_links hpos hfuel (fun k hk => ?_) ?_⟩
  · rw [hentry k (by omega), if_pos (by omega)]
    exact ⟨rfl, by omega⟩
  · rw [hentry _ (by omega), if_neg (by omega)]
    decide

/-- The root directory created and two one-cluster files added to it, then the FAT tables
written, on a 1 MB builder. -/
theorem rootChains_runCalls_two :
    ∃ (cs : List Call) (s : Fat32DiskBuilder),
      cs = [.createRootDirectory, .addFileToDirectory "A.TXT" [1]
        ⟨2025, 1, 1, 0, 0, 0, by decide, by decide, by decide, by decide, by decide⟩ none,
        .addFileToDirectory "B.TXT" [2]
        ⟨2025, 1, 1, 0, 0, 0, by decide, by decide, by decide, by decide, by decide⟩ none] ∧
      1 ≤ 1 ∧ (∀ c ∈ cs, c.NameOk) ∧ runCalls (cs ++ [.writeFatTables]) (init 1) = .ok s ∧
      (∀ e ∈ listing (readCluster s.diskImage builderBpb builderBpb.rootCluster),
        (decodeEntry e).cluster ≠ 0 →
          (decodeEntry e).cluster + (decodeEntry e).clusters ≤ s.nextFreeCluster ∧
          ∀ fuel, (decodeEntry e).clusters ≤ fuel →
            chainFrom s.diskImage builderBpb fuel (decodeEntry e).cluster =
              some (List.range' (decodeEntry e).cluster (decodeEntry e).clusters)) ∧
      (listing (readCluster s.diskImage builderBpb builderBpb.rootCluster)).Pairwise fun e e' =>
        (decodeEntry e).cluster ≠ 0 → (decodeEntry e').cluster ≠ 0 →
          (decodeEntry e).cluster + (decodeEntry e).clusters ≤ (decodeEntry e').cluster := by
  let now : DateTime := ⟨2025, 1, 1, 0, 0, 0, by decide, by decide, by decide, by decide, by decide⟩
  let f : FileArg := ⟨"A.TXT", [1], now⟩
  let g : FileArg := ⟨"B.TXT", [2], now⟩
  have hvalid : ∀ x ∈ [f, g], x.Valid := by
    intro x hx
    simp only [List.mem_cons, List.mem_nil_iff, or_false] at hx
    rcases hx with rfl | rfl <;>
      exact ⟨(shortName_ok_iff _).mpr (by decide), by decide, by decide, by decide⟩
  have h0 := createRootDirectory_eq (init 1)
  have hfits : rootOffset + bytesPerCluster ≤ (init 1).diskImage.length := by
    rw [show (init 1).diskImage = zeros (sizeBytes 1) from rfl, length_zeros]
    exact root_end_le_sizeBytes (le_refl 1)
  have hL : RootLayout [volumeEntry] (setSlice (init 1).diskImage rootOffset
      (rootOffset + bytesPerCluster) (dirOf [volumeEntry])) :=
    rootLayout_setSlice hfits (by simpa using live_volumeEntry) (by simp)
  have hlen0 : (init 1).fatTable.length = 32768 := List.length_replicate _ _
  obtain ⟨s1, h1⟩ := addFileToDirectory_root_ok (f := f) (s := ⟨(init 1).sizeMb, setSlice
      (init 1).diskImage rootOffset (rootOffset + bytesPerCluster) (dirOf [volumeEntry]),
      (init 1).fatTable, (init 1).nextFreeCluster⟩) hL (le_refl 3) (by decide)
    (hvalid f (by simp)) (by show 3 + _ ≤ (init 1).fatTable.length; rw [hlen0]; decide)
    (by show (init 1).fatTable.length < _; rw [hlen0]; decide)
  obtain ⟨e1, -, hL1⟩ := rootLayout_addFileToDirectory hL (le_refl 3) (hvalid f (by simp)).not_nul h1
  obtain ⟨hfat1, hn1, -⟩ := fat_addFileToDirectory h1
  have hlen1 : s1.fatTable.length = 32768 := by rw [hfat1, length_linkChain]; exact hlen0
  obtain ⟨s2, h2⟩ := addFileToDirectory_root_ok (f := g) hL1 (by rw [hn1]; decide) (by simp)
    (hvalid g (by simp)) (by rw [hn1, hlen1]; decide) (by rw [hlen1]; decide)
  have hs2 := (((fatShape_init 1).run (c := .createRootDirectory) h0).run
    (c := .addFileToDirectory f.filename f.fileData f.now none) h1).run
    (c := .addFileToDirectory g.filename g.fileData g.now none) h2
  have h : runCalls ([.createRootDirectory, .addFileToDirectory f.filename f.fileData f.now none,
      .addFileToDirectory g.filename g.fileData g.now none] ++ [.writeFatTables]) (init 1) = _ :=
    runCalls_cons_of_ok h0 (runCalls_cons_of_ok h1 (runCalls_cons_of_ok h2
      (runCalls_cons_of_ok (writeFatTables_eq hs2) rfl)))
  have hname : ∀ c ∈ [Call.createRootDirectory, .addFileToDirectory f.filename f.fileData f.now
      none, .addFileToDirectory g.filename g.fileData g.now none], c.NameOk := by
    intro c hc
    simp only [List.mem_cons, List.not_mem_nil, or_false] at hc
    rcases hc with rfl | rfl | rfl
    · trivial
    · exact fun _ => by decide
    · exact fun _ => by decide
  exact ⟨_, _, rfl, le_refl 1, hname, h, rootChains_runCalls (le_refl 1) hname h⟩

end Fat32Image
