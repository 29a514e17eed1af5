import Fat32Image.Build

/-!
# `main` of `build_disk.py`

`main` builds a 32 MB image: the kernel under the name `KERNEL.BIN`, each further file named on
the command line under its base name, then two text files whose contents are literals of the
script. A file that does not exist is skipped with a warning. Every call reads the clock, so
every call comes with a clock reading.

`main_eq` turns `main` into a 32 MB `buildDisk` over the calls it makes, so every theorem about
builds applies to it.
-/

namespace Fat32Image

open Fat32DiskBuilder

/-- A file named on the command line: its path, its content (`none` when it does not exist), and
the clock reading of the call that adds it. -/
structure LocalFile where
  path : String
  data : Option (List UInt8)
  now : DateTime

/-- The calls `add_file(local_path, disk_filename)` makes: one, or none for a missing file. -/
def LocalFile.calls (f : LocalFile) (diskFilename : Option String) : List FileArg :=
  match f.data with
  | none => []
  | some fileData => [⟨diskFilename.getD (basename f.path), fileData, f.now⟩]

/-- `config_data` -/
def configData : List UInt8 :=
  asciiBytes "# NumOS Configuration File\nkernel_debug=1\nheap_size=16777216\ntimer_freq=100\nvga_mode=text\n\n# Boot options\nauto_mount_fat32=1\nshow_boot_info=1\n"

/-- `readme_data` -/
def readmeData : List UInt8 :=
  asciiBytes "NumOS - 64-bit Operating System\n\nThis is a demonstration FAT32 filesystem containing:\n- KERNEL.BIN: The NumOS kernel binary\n- CONFIG.TXT: System configuration file\n- README.TXT: This file\n\nCommands to try:\n- ls: List files\n- cat filename: Display file contents\n- help: Show all available commands\n\nEnjoy exploring NumOS!\n"

/-- `main`, from the initialisation sequence to `save`, given the kernel file, the further files,
and the clock readings of the two literal files. -/
def main (kernel : LocalFile) (additionalFiles : List LocalFile) (configNow readmeNow : DateTime) :
    Except PyError (List UInt8) := do
  let s ← initialState 32
  let s ← s.addFile kernel.path kernel.data (some "KERNEL.BIN") kernel.now
  let s ← additionalFiles.foldlM (fun s f => s.addFile f.path f.data none f.now) s
  let s ← s.addFileToDirectory "CONFIG.TXT" configData configNow none
  let s ← s.addFileToDirectory "README.TXT" readmeData readmeNow none
  let s ← s.writeFatTables
  pure s.save

/-- The calls `main` makes, in order. -/
def mainFiles (kernel : LocalFile) (additionalFiles : List LocalFile)
    (configNow readmeNow : DateTime) : List FileArg :=
  kernel.calls (some "KERNEL.BIN") ++ (additionalFiles.map (·.calls none)).flatten ++
    [⟨"CONFIG.TXT", configData, configNow⟩, ⟨"README.TXT", readmeData, readmeNow⟩]

theorem addFiles_append (xs ys : List FileArg) (s : Fat32DiskBuilder) :
    addFiles (xs ++ ys) s = addFiles xs s >>= addFiles ys := by
  induction xs generalizing s with
  | nil => rfl
  | cons x xs ih =>
    rw [List.cons_append, addFiles_cons, addFiles_cons, bind_assoc]
    exact congrArg _ (funext ih)

theorem addFiles_singleton (f : FileArg) (s : Fat32DiskBuilder) :
    addFiles [f] s = s.addFileToDirectory f.filename f.fileData f.now none := by
  rw [addFiles_cons]
  cases s.addFileToDirectory f.filename f.fileData f.now none <;> rfl

/-- `add_file` makes the calls of `LocalFile.calls`. -/
theorem addFile_eq (f : LocalFile) (diskFilename : Option String) (s : Fat32DiskBuilder) :
    s.addFile f.path f.data diskFilename f.now = addFiles (f.calls diskFilename) s := by
  rcases f with ⟨path, _ | fileData, now⟩
  · rfl
  · exact (addFiles_singleton ⟨diskFilename.getD (basename path), fileData, now⟩ s).symm

theorem foldlM_addFile (files : List LocalFile) (s : Fat32DiskBuilder) :
    files.foldlM (fun s f => s.addFile f.path f.data none f.now) s =
      addFiles (files.map (·.calls none)).flatten s := by
  induction files generalizing s with
  | nil => rfl
  | cons f fs ih =>
    rw [List.foldlM_cons, addFile_eq, List.map_cons, List.flatten_cons, addFiles_append]
    exact congrArg _ (funext ih)

set_option maxRecDepth 4000 in
/-- Each literal file fits in one cluster. -/
theorem clustersNeeded_literals :
    clustersNeeded configData.length = 1 ∧ clustersNeeded readmeData.length = 1 := by decide

/-- With no kernel binary and no further files, `main` allocates one cluster for each literal
file. -/
theorem totalClusters_mainFiles (path : String) (now configNow readmeNow : DateTime) :
    totalClusters (mainFiles ⟨path, none, now⟩ [] configNow readmeNow) = 2 := by
  simp only [mainFiles, LocalFile.calls, List.map_nil, List.flatten_nil, List.nil_append, totalClusters,
    List.map_cons, FileArg.clusters, clustersNeeded_literals.1, clustersNeeded_literals.2]
  rfl

/-- `main` is the 32 MB build over the calls it makes. -/
theorem main_eq (kernel : LocalFile) (additionalFiles : List LocalFile)
    (configNow readmeNow : DateTime) :
    main kernel additionalFiles configNow readmeNow =
      buildDisk 32 (mainFiles kernel additionalFiles configNow readmeNow) := by
  simp only [main, foldlM_addFile]
  simp only [buildDisk, mainFiles, addFiles_append, addFile_eq, bind_assoc, addFiles, ok_bind, save]

end Fat32Image
