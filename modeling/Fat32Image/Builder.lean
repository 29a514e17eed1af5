import Fat32Image.Name83

/-!
# `build_disk.py`: the FAT32 disk builder

A model of `Fat32DiskBuilder` and `main`. The attributes that `__init__` sets and no method
changes are the constants of the first section; only `size_bytes` and `total_sectors` depend on
`size_mb`. The attributes the methods mutate (`disk_image`, `fat_table`, `next_free_cluster`)
make up the `Fat32DiskBuilder` state, and each method is a function from the state to
`Except PyError` of the new state. An exception ends the build, as in `main`, which catches
none, so the partial state a failing method leaves is never observed.

The clock reading of `add_file_to_directory` (`datetime.now()`) is an argument, and so are the
bytes `add_file` reads from the local file system. Console output is left out.
-/

namespace Fat32Image

/-! ## Constants of `__init__` -/

/-- `sector_size` -/
def sectorSize : Nat := 512

/-- `sectors_per_cluster` -/
def sectorsPerCluster : Nat := 8

/-- `reserved_sectors` -/
def reservedSectors : Nat := 32

/-- `fat_count` -/
def fatCount : Nat := 2

/-- `root_cluster` -/
def rootCluster : Nat := 2

/-- `sectors_per_fat`, hard-coded whatever the size: "Sufficient for 32MB". -/
def sectorsPerFat : Nat := 256

/-- `fat_start_sector` -/
def fatStartSector : Nat := reservedSectors

/-- `data_start_sector` -/
def dataStartSector : Nat := fatStartSector + fatCount * sectorsPerFat

/-- `bytes_per_cluster` -/
def bytesPerCluster : Nat := sectorSize * sectorsPerCluster

/-- `size_bytes` -/
def sizeBytes (sizeMb : Nat) : Nat := sizeMb * 1024 * 1024

/-- `total_sectors` -/
def totalSectors (sizeMb : Nat) : Nat := sizeBytes sizeMb / sectorSize

/-- The end-of-chain value the builder writes into the FAT. -/
def eoc : Nat := 0x0FFFFFFF

/-- `b"..."` for an ASCII literal. -/
def asciiBytes (s : String) : List UInt8 := s.toList.map asciiByte

/-! ## State -/

/-- The attributes of a `Fat32DiskBuilder` that its methods change, with `size_mb`. A negative
`size_mb` makes `bytearray` raise in `__init__`, so sizes are natural numbers. -/
structure Fat32DiskBuilder where
  sizeMb : Nat
  diskImage : List UInt8
  fatTable : List Nat
  nextFreeCluster : Nat

/-- A reading of `datetime.now()`, with the ranges `datetime` guarantees for its fields. -/
structure DateTime where
  year : Nat
  month : Nat
  day : Nat
  hour : Nat
  minute : Nat
  second : Nat
  month_le : month ≤ 12
  day_le : day ≤ 31
  hour_lt : hour < 24
  minute_lt : minute < 60
  second_lt : second < 60

/-- `time_val` -/
def DateTime.timeVal (now : DateTime) : Nat :=
  (now.hour <<< 11) ||| (now.minute <<< 5) ||| (now.second / 2)

/-- `date_val`. Python's year field is negative before 1980; month and day fill the low nine
bits, so `(y << 9) | low` is `y * 2 ^ 9 + low`. -/
def DateTime.dateVal (now : DateTime) : Int :=
  ((now.year : Int) - 1980) * 2 ^ 9 + (((now.month <<< 5) ||| now.day : Nat) : Int)

namespace Fat32DiskBuilder

/-- `Fat32DiskBuilder(size_mb)`. -/
def init (sizeMb : Nat) : Fat32DiskBuilder :=
  ⟨sizeMb, zeros (sizeBytes sizeMb), List.replicate (sectorsPerFat * sectorSize / 4) 0, 3⟩

/-! ## Header sectors -/

/-- The statements of `create_boot_sector` after `boot_sector = bytearray(512)`; the loop that
zeroes bytes 52 to 63 is one write of twelve zeros. -/
def bootSectorWrites (totalSectors : Nat) : List Write :=
  [.put 0 3 [0xEB, 0x58, 0x90], .put 3 11 (asciiBytes "NumOS   "),
   .pack 2 11 sectorSize, .pack 1 13 sectorsPerCluster, .pack 2 14 reservedSectors,
   .pack 1 16 fatCount, .pack 2 17 0, .pack 2 19 0, .pack 1 21 0xF8, .pack 2 22 0,
   .pack 2 24 63, .pack 2 26 255, .pack 4 28 0, .pack 4 32 totalSectors,
   .pack 4 36 sectorsPerFat, .pack 2 40 0, .pack 2 42 0, .pack 4 44 rootCluster,
   .pack 2 48 1, .pack 2 50 6, .put 52 64 (zeros 12),
   .pack 1 64 0x80, .pack 1 65 0, .pack 1 66 0x29, .pack 4 67 0x12345678,
   .put 71 82 (asciiBytes "NumOS FAT32"), .put 82 90 (asciiBytes "FAT32   "),
   .pack 2 510 0xAA55]

/-- `boot_sector` as `create_boot_sector` builds it. -/
def bootSector (totalSectors : Nat) : Except PyError (List UInt8) :=
  applyWrites (zeros 512) (bootSectorWrites totalSectors)

/-- `create_boot_sector` -/
def createBootSector (s : Fat32DiskBuilder) : Except PyError Fat32DiskBuilder := do
  let bootSector ← bootSector (totalSectors s.sizeMb)
  pure { s with diskImage := setSlice s.diskImage 0 512 bootSector }

/-- The statements of `create_fsinfo` after `fsinfo = bytearray(512)`. -/
def fsinfoWrites : List Write :=
  [.pack 4 0 0x41615252, .pack 4 484 0x61417272, .pack 4 488 0xFFFFFFFF, .pack 4 492 3,
   .pack 2 510 0xAA55]

/-- `create_fsinfo` -/
def createFsinfo (s : Fat32DiskBuilder) : Except PyError Fat32DiskBuilder := do
  let fsinfo ← applyWrites (zeros 512) fsinfoWrites
  pure { s with diskImage := setSlice s.diskImage 512 1024 fsinfo }

/-! ## The FAT -/

/-- `initialize_fat` -/
def initializeFat (s : Fat32DiskBuilder) : Except PyError Fat32DiskBuilder := do
  let fat ← setItem s.fatTable 0 (0x0FFFFF00 ||| 0xF8)
  let fat ← setItem fat 1 0x0FFFFFFF
  let fat ← setItem fat 2 0x0FFFFFFF
  pure { s with fatTable := fat }

/-- The loop of `write_fat_tables` that packs every entry with `<L`. -/
def packEntries : List Nat → Except PyError (List UInt8)
  | [] => .ok []
  | e :: es => do
    let bytes ← pack 4 e
    let rest ← packEntries es
    pure (bytes ++ rest)

/-- `fat_data`: the packed entries, then the `while` loop that pads them with zeros to a whole
sector. -/
def fatData (fatTable : List Nat) : Except PyError (List UInt8) := do
  let data ← packEntries fatTable
  pure (data ++ zeros ((sectorSize - data.length % sectorSize) % sectorSize))

/-- The loop of `write_fat_tables` writing the copies of `fat_data`. -/
def writeFatCopies (img fatData : List UInt8) : List UInt8 :=
  (List.range fatCount).foldl (fun img i =>
    let startOffset := (fatStartSector + i * sectorsPerFat) * sectorSize
    setSlice img startOffset (startOffset + fatData.length) fatData) img

/-- `write_fat_tables` -/
def writeFatTables (s : Fat32DiskBuilder) : Except PyError Fat32DiskBuilder := do
  let fatData ← fatData s.fatTable
  pure { s with diskImage := writeFatCopies s.diskImage fatData }

/-! ## Clusters -/

/-- `cluster_to_sector`. Python computes `cluster - 2` in the integers; the result is never
negative, since `data_start_sector ≥ 2 * sectors_per_cluster`. -/
def clusterToSector (cluster : Nat) : Nat :=
  ((dataStartSector : Int) + ((cluster : Int) - 2) * sectorsPerCluster).toNat

/-- `allocate_cluster` -/
def allocateCluster (s : Fat32DiskBuilder) : Except PyError (Nat × Fat32DiskBuilder) := do
  let cluster := s.nextFreeCluster
  let fat ← setItem s.fatTable cluster 0x0FFFFFFF
  pure (cluster, { s with fatTable := fat, nextFreeCluster := s.nextFreeCluster + 1 })

/-- `create_root_directory`: the volume label entry and `root_data`. -/
def volumeEntryWrites : List Write := [.put 0 11 (asciiBytes "NumOS FAT32"), .put 11 12 [0x08]]

/-- `create_root_directory` -/
def createRootDirectory (s : Fat32DiskBuilder) : Except PyError Fat32DiskBuilder := do
  let volumeEntry ← applyWrites (zeros 32) volumeEntryWrites
  let rootData := setSlice (zeros bytesPerCluster) 0 32 volumeEntry
  let startOffset := clusterToSector rootCluster * sectorSize
  pure { s with diskImage := setSlice s.diskImage startOffset (startOffset + bytesPerCluster) rootData }

/-! ## `add_file_to_directory` -/

/-- `clusters_needed` for a file of `fileSize` bytes. -/
def clustersNeeded (fileSize : Nat) : Nat := (fileSize + bytesPerCluster - 1) / bytesPerCluster

/-- The loop `for i in range(1, clusters_needed)`: `n` more clusters, each linked from the one
before it. -/
def linkClusters (s : Fat32DiskBuilder) (current : Nat) : Nat → Except PyError Fat32DiskBuilder
  | 0 => .ok s
  | n + 1 => do
    let (nextCluster, s) ← s.allocateCluster
    let fat ← setItem s.fatTable current nextCluster
    linkClusters { s with fatTable := fat } nextCluster n

/-- The allocation part of `add_file_to_directory`: `first_cluster` and the new state. -/
def allocateFileClusters (s : Fat32DiskBuilder) (fileSize clustersNeeded : Nat) :
    Except PyError (Nat × Fat32DiskBuilder) :=
  if fileSize > 0 then do
    let (firstCluster, s) ← s.allocateCluster
    let s ← s.linkClusters firstCluster (clustersNeeded - 1)
    pure (firstCluster, s)
  else pure (0, s)

/-- `chunk_data` for cluster `i` of a file, padded to the cluster size. -/
def chunk (fileData : List UInt8) (i : Nat) : List UInt8 :=
  let chunkData := slice fileData (i * bytesPerCluster) (min ((i + 1) * bytesPerCluster) fileData.length)
  chunkData ++ zeros (bytesPerCluster - chunkData.length)

/-- One pass of the loop `for i in range(clusters_needed)`: cluster `first_cluster + i`. -/
def writeChunk (fileData : List UInt8) (firstCluster : Nat) (img : List UInt8) (i : Nat) :
    List UInt8 :=
  let startOffset := clusterToSector (firstCluster + i) * sectorSize
  setSlice img startOffset (startOffset + bytesPerCluster) (chunk fileData i)

/-- The data loop of `add_file_to_directory`. -/
def writeFileData (img fileData : List UInt8) (firstCluster clustersNeeded : Nat) : List UInt8 :=
  (List.range clustersNeeded).foldl (writeChunk fileData firstCluster) img

/-- The scan `for i in range(0, len(dir_data), 32)` from offset `i`, with `n` slots left: the
first slot whose first byte is empty (`0x00`) or deleted (`0xE5`). -/
def findFreeSlot (dirData : List UInt8) (i : Nat) : Nat → Option Nat
  | 0 => none
  | n + 1 =>
    if dirData.getD i 0 = 0x00 ∨ dirData.getD i 0 = 0xE5 then some i
    else findFreeSlot dirData (i + 32) n

/-- The slot `add_file_to_directory` writes to, if any. -/
def freeSlot (dirData : List UInt8) : Option Nat :=
  findFreeSlot dirData 0 ((dirData.length + 31) / 32)

/-- The statements building `entry` after `entry = bytearray(32)`. -/
def entryWrites (fatFilename : List UInt8) (firstCluster fileSize : Nat) (now : DateTime) :
    List Write :=
  [.put 0 11 fatFilename, .put 11 12 [0x20],
   .pack 2 14 now.timeVal, .pack 2 16 now.dateVal, .pack 2 18 now.dateVal,
   .pack 2 20 (firstCluster >>> 16 : Nat), .pack 2 22 now.timeVal, .pack 2 24 now.dateVal,
   .pack 2 26 (firstCluster &&& 0xFFFF : Nat), .pack 4 28 fileSize]

/-- The slot loop of `add_file_to_directory`: the entry goes to the first free slot, and the
slot after it is zeroed unless it is a deleted entry. -/
def insertEntry (dirData : List UInt8) (filename : String) (entry : List Write) :
    Except PyError (List UInt8) :=
  match freeSlot dirData with
  | none => .error (.directoryFull ("Directory full, cannot add " ++ filename))
  | some i => do
    let entry ← applyWrites (zeros 32) entry
    let dirData := setSlice dirData i (i + 32) entry
    pure (if i + 32 < dirData.length ∧ dirData.getD (i + 32) 0 ≠ 0xE5 then dirData.set (i + 32) 0
      else dirData)

/-- `add_file_to_directory(filename, file_data, directory_cluster)`, with the clock reading. -/
def addFileToDirectory (s : Fat32DiskBuilder) (filename : String) (fileData : List UInt8)
    (now : DateTime) (directoryCluster : Option Nat) : Except PyError Fat32DiskBuilder := do
  let directoryCluster := directoryCluster.getD rootCluster
  let fatFilename ← fatFilename filename
  let fileSize := fileData.length
  let (firstCluster, s) ← s.allocateFileClusters fileSize (clustersNeeded fileSize)
  let s := { s with
    diskImage := writeFileData s.diskImage fileData firstCluster (clustersNeeded fileSize) }
  let dirOffset := clusterToSector directoryCluster * sectorSize
  let dirData := slice s.diskImage dirOffset (dirOffset + bytesPerCluster)
  let dirData ← insertEntry dirData filename (entryWrites fatFilename firstCluster fileSize now)
  pure { s with diskImage := setSlice s.diskImage dirOffset (dirOffset + bytesPerCluster) dirData }

/-- `os.path.basename` -/
def basename (p : String) : String := String.mk (p.toList.drop (rfind p.toList '/' + 1).toNat)

/-- `add_file(local_path, disk_filename)`; `localData` is the content of `local_path`, `none`
when it does not exist, and the file is then skipped. -/
def addFile (s : Fat32DiskBuilder) (localPath : String) (localData : Option (List UInt8))
    (diskFilename : Option String) (now : DateTime) : Except PyError Fat32DiskBuilder :=
  match localData with
  | none => .ok s
  | some fileData => s.addFileToDirectory (diskFilename.getD (basename localPath)) fileData now none

/-- `save`: the bytes written to the output file. -/
def save (s : Fat32DiskBuilder) : List UInt8 := s.diskImage

end Fat32DiskBuilder

/-! ## Builds -/

/-- One `add_file_to_directory` call on the root directory, with the clock reading it takes. -/
structure FileArg where
  filename : String
  fileData : List UInt8
  now : DateTime

/-- A sequence of calls on the root directory; the first exception ends it. -/
def addFiles : List FileArg → Fat32DiskBuilder → Except PyError Fat32DiskBuilder
  | [], s => .ok s
  | f :: fs, s => do
    let s ← s.addFileToDirectory f.filename f.fileData f.now none
    addFiles fs s

/-- The state after `main`'s initialisation sequence on a `size_mb` builder. -/
def initialState (sizeMb : Nat) : Except PyError Fat32DiskBuilder := do
  let s ← (Fat32DiskBuilder.init sizeMb).createBootSector
  let s ← s.createFsinfo
  let s ← s.initializeFat
  s.createRootDirectory

/-- A whole build as `main` runs it, for any size and any calls: the initialisation sequence,
the calls, `write_fat_tables` and `save`. -/
def buildDisk (sizeMb : Nat) (files : List FileArg) : Except PyError (List UInt8) := do
  let s ← initialState sizeMb
  let s ← addFiles files s
  let s ← s.writeFatTables
  pure s.save

end Fat32Image
