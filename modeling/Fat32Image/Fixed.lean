import Fat32Image.Builder

/-!
# `create_disk_fixed.py`

The second image tool writes a fixed 32 MB layout front to back: the boot sector, the FSInfo
sector, the reserved sectors (zeros, with the boot sector again at sector 6), two copies of a
160-sector FAT, the directory clusters 2 to 5 (the root, `/init`, `/bin`, `/run`), the ELF file
padded to whole clusters from cluster 6, and zeros up to the end of the volume. Each `create_*`
function builds its sector or cluster by a run of writes over a zero buffer, as `build_disk.py`
does, and `main` is the concatenation of what it writes.

`main`'s argument is the content of the ELF file named on the command line, `none` when it names
none. The usage and missing-file exits happen before the output file is opened and are left
out, as is console output. The only exception the functions can raise is `struct.error`, from a
chain or a size that does not fit the FAT or its entry field.
-/

namespace Fat32Image

namespace CreateDiskFixed

/-! ## Disk parameters -/

/-- `DISK_SIZE_MB` -/
def diskSizeMb : Nat := 32

/-- `BYTES_PER_SECTOR` -/
def bytesPerSector : Nat := 512

/-- `SECTORS_PER_CLUSTER` -/
def sectorsPerCluster : Nat := 8

/-- `RESERVED_SECTORS` -/
def reservedSectors : Nat := 32

/-- `NUM_FATS` -/
def numFats : Nat := 2

/-- `BYTES_PER_CLUSTER` -/
def bytesPerCluster : Nat := sectorsPerCluster * bytesPerSector

/-! ## Sectors -/

/-- The statements of `create_boot_sector` after `boot = bytearray(512)`, with its local
`total_sectors` and `fat_size = 160`. -/
def bootSectorWrites : List Write :=
  [.put 0 3 [0xEB, 0x58, 0x90], .put 3 11 (asciiBytes "NUMOS1.0"),
   .pack 2 11 bytesPerSector, .pack 1 13 sectorsPerCluster, .pack 2 14 reservedSectors,
   .pack 1 16 numFats, .pack 2 17 0, .pack 2 19 0, .pack 1 21 0xF8, .pack 2 22 0,
   .pack 2 24 63, .pack 2 26 16, .pack 4 28 0,
   .pack 4 32 (diskSizeMb * 1024 * 1024 / bytesPerSector),
   .pack 4 36 160, .pack 2 40 0, .pack 2 42 0, .pack 4 44 2, .pack 2 48 1, .pack 2 50 6,
   .put 52 64 (zeros 12), .pack 1 64 0x80, .pack 1 65 0, .pack 1 66 0x29,
   .pack 4 67 0x12345678, .put 71 82 (asciiBytes "NUMOS DISK "),
   .put 82 90 (asciiBytes "FAT32   "), .put 510 512 [0x55, 0xAA]]

/-- `create_boot_sector` -/
def createBootSector : Except PyError (List UInt8) := applyWrites (zeros 512) bootSectorWrites

/-- The statements of `create_fsinfo` after `fsinfo = bytearray(512)`. -/
def fsinfoWrites : List Write :=
  [.pack 4 0 0x41615252, .pack 4 484 0x61417272, .pack 4 488 0xFFFFFFFF, .pack 4 492 2,
   .pack 4 508 0xAA550000]

/-- `create_fsinfo` -/
def createFsinfo : Except PyError (List UInt8) := applyWrites (zeros 512) fsinfoWrites

/-! ## The FAT -/

/-- `clusters_needed` of `create_fat` and `main`. -/
def clustersNeeded (fileSize : Nat) : Nat := (fileSize + bytesPerCluster - 1) / bytesPerCluster

/-- The loop of `create_fat` over the ELF file's clusters: cluster `6 + i` points to the next, the
last holds the end-of-chain mark. -/
def chainWrites (clustersNeeded : Nat) : List Write :=
  (List.range clustersNeeded).map fun i =>
    if i = clustersNeeded - 1 then .pack 4 ((6 + i) * 4) 0x0FFFFFFF
    else .pack 4 ((6 + i) * 4) (6 + i + 1)

/-- The statements of `create_fat` after `fat = bytearray(fat_size * BYTES_PER_SECTOR)`: the media
entry, the end-of-chain marks of cluster 1 and of the directory clusters 2 to 5, then the chain
of the ELF file. -/
def fatWrites (fileSize : Nat) : List Write :=
  [.pack 4 0 0x0FFFFFF8, .pack 4 4 0x0FFFFFFF, .pack 4 8 0x0FFFFFFF, .pack 4 12 0x0FFFFFFF,
   .pack 4 16 0x0FFFFFFF, .pack 4 20 0x0FFFFFFF] ++
  if fileSize > 0 then chainWrites (clustersNeeded fileSize) else []

/-- `create_fat(total_sectors, fat_size, file_size)`; `total_sectors` is not used. -/
def createFat (_totalSectors fatSize fileSize : Nat) : Except PyError (List UInt8) :=
  applyWrites (zeros (fatSize * bytesPerSector)) (fatWrites fileSize)

/-! ## Directory clusters -/

/-- The statements of `create_directory_entry` after `entry = bytearray(32)`, given the encoded
name: the timestamps are fixed, with the date 1980-01-01. -/
def directoryEntryWrites (name : List UInt8) (attr : UInt8) (cluster size : Nat) : List Write :=
  [.put 0 11 (name.take 11), .put 11 12 [attr], .put 12 13 [0], .put 13 14 [0],
   .put 14 16 [0x00, 0x00], .put 16 18 [0x21, 0x00], .put 18 20 [0x21, 0x00],
   .pack 2 20 ((cluster >>> 16) &&& 0xFFFF : Nat), .put 22 24 [0x00, 0x00],
   .put 24 26 [0x21, 0x00], .pack 2 26 (cluster &&& 0xFFFF : Nat), .pack 4 28 size]

/-- `create_directory_entry(name, attr, cluster, size)` -/
def createDirectoryEntry (name : String) (attr : UInt8) (cluster size : Nat) :
    Except PyError (List UInt8) := do
  let name ← encodeAscii (ljust name.toList 11)
  applyWrites (zeros 32) (directoryEntryWrites name attr cluster size)

/-- `DIR_ATTR` -/
def dirAttr : UInt8 := 0x10

/-- `FILE_ATTR` -/
def fileAttr : UInt8 := 0x20

/-- `create_root_directory` -/
def createRootDirectory : Except PyError (List UInt8) := do
  let dot ← createDirectoryEntry ".          " dirAttr 2 0
  let dotdot ← createDirectoryEntry "..         " dirAttr 0 0
  let init ← createDirectoryEntry "INIT       " dirAttr 3 0
  let bin ← createDirectoryEntry "BIN        " dirAttr 4 0
  let run ← createDirectoryEntry "RUN        " dirAttr 5 0
  pure (writeAll (zeros bytesPerCluster)
    [.put 0 32 dot, .put 32 64 dotdot, .put 64 96 init, .put 96 128 bin, .put 128 160 run])

/-- `create_init_directory(elf_size)` -/
def createInitDirectory (elfSize : Nat) : Except PyError (List UInt8) := do
  let dot ← createDirectoryEntry ".          " dirAttr 3 0
  let dotdot ← createDirectoryEntry "..         " dirAttr 2 0
  let cluster := writeAll (zeros bytesPerCluster) [.put 0 32 dot, .put 32 64 dotdot]
  if elfSize > 0 then
    let shell ← createDirectoryEntry "SHELL      " fileAttr 6 elfSize
    pure (setSlice cluster 64 96 shell)
  else pure cluster

/-- `create_empty_directory(cluster_num)` -/
def createEmptyDirectory (clusterNum : Nat) : Except PyError (List UInt8) := do
  let dot ← createDirectoryEntry ".          " dirAttr clusterNum 0
  let dotdot ← createDirectoryEntry "..         " dirAttr 2 0
  pure (writeAll (zeros bytesPerCluster) [.put 0 32 dot, .put 32 64 dotdot])

/-! ## `main` -/

/-- `fat_size` of `main` -/
def fatSize : Nat := 160

/-- `total_sectors` of `main` -/
def totalSectors : Nat := diskSizeMb * 1024 * 1024 / bytesPerSector

/-- `data_start_sector` of `main` -/
def dataStartSector : Nat := reservedSectors + numFats * fatSize

/-- The zero fill at the end of `main`: `remaining // chunk_size` chunks of 1 MB, then the rest. -/
def zeroFill (remaining : Int) : List UInt8 :=
  if remaining > 0 then
    (List.replicate (remaining.toNat / (1024 * 1024)) (zeros (1024 * 1024))).flatten ++
      if remaining.toNat % (1024 * 1024) > 0 then zeros (remaining.toNat % (1024 * 1024)) else []
  else []

/-- The bytes `main` writes to the output file, given the content of the ELF file. -/
def main (elfData : Option (List UInt8)) : Except PyError (List UInt8) := do
  let elfSize := (elfData.map List.length).getD 0
  let boot ← createBootSector
  let fsinfo ← createFsinfo
  let reserved ← (List.range' 2 (reservedSectors - 2)).mapM fun i =>
    if i = 6 then createBootSector else pure (zeros bytesPerSector)
  let fatData ← createFat totalSectors fatSize elfSize
  let root ← createRootDirectory
  let init ← createInitDirectory elfSize
  let bin ← createEmptyDirectory 4
  let run ← createEmptyDirectory 5
  let elfPadded := match elfData with
    | some elfData =>
      if elfData ≠ [] then
        elfData ++ zeros (clustersNeeded elfSize * bytesPerCluster - elfSize)
      else []
    | none => []
  let written := boot ++ fsinfo ++ reserved.flatten ++ fatData ++ fatData ++ root ++ init ++ bin ++
    run ++ elfPadded
  pure (written ++ zeroFill ((totalSectors * bytesPerSector : Nat) - (written.length : Int)))

end CreateDiskFixed

end Fat32Image
