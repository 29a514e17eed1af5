import Fat32Image.Alloc

/-!
# The data area

`add_file_to_directory` copies a file into the clusters `first_cluster + i`, one padded chunk of
`bytes_per_cluster` bytes per cluster. The loop computes the cluster as `first_cluster + i`
rather than by following the chain it has just linked; the two agree because the allocator
hands out consecutive clusters (`Alloc`).

Two kinds of facts are proved about the loop. When every cluster it writes lies inside the
image, it keeps the image's length, leaves every byte outside those clusters alone, and
cluster `first_cluster + i` holds chunk `i` afterwards. Whatever the image's length, it
never shrinks the image and never touches a byte before the first cluster it writes, since a
slice assignment past the end appends; that is what keeps the root directory and the headers
intact when a file does not fit.
-/

namespace Fat32Image

namespace Fat32DiskBuilder

/-- The byte offset of cluster `c` in the builder's image. -/
theorem clusterToSector_mul (c : Nat) : clusterToSector c * sectorSize = 512 * (528 + 8 * c) := by
  rw [clusterToSector_eq, sectorSize]
  omega

@[simp] theorem length_chunk (fileData : List UInt8) (i : Nat) :
    (chunk fileData i).length = bytesPerCluster := by
  simp only [chunk, slice, List.length_append, List.length_take, List.length_drop, length_zeros,
    bytesPerCluster, sectorSize, sectorsPerCluster]
  omega

theorem writeFileData_succ (img fileData : List UInt8) (first n : Nat) :
    writeFileData img fileData first (n + 1) =
      writeChunk fileData first (writeFileData img fileData first n) n := by
  simp only [writeFileData, List.range_succ, List.foldl_append, List.foldl_cons, List.foldl_nil]

/-- The data loop never shrinks the image. -/
theorem length_le_writeFileData (img fileData : List UInt8) (first n : Nat) :
    img.length ≤ (writeFileData img fileData first n).length := by
  induction n with
  | zero => exact le_refl _
  | succ n ih =>
    rw [writeFileData_succ]
    exact ih.trans (length_le_setSlice (by rw [length_chunk]; omega))

/-- The data loop leaves every byte before its first cluster alone, as long as they are inside
the image. -/
theorem take_writeFileData {img fileData : List UInt8} {first n K : Nat}
    (hK : K ≤ clusterToSector first * sectorSize) (hKl : K ≤ img.length) :
    (writeFileData img fileData first n).take K = img.take K := by
  induction n with
  | zero => rfl
  | succ n ih =>
    rw [writeFileData_succ, writeChunk,
      take_setSlice _ ((length_le_writeFileData img fileData first n).trans' hKl), ih]
    rw [clusterToSector_mul] at hK ⊢
    omega

/-- Every cluster of the loop lies inside the image. -/
def Fits (img : List UInt8) (first n : Nat) : Prop := 512 * (528 + 8 * (first + n)) ≤ img.length

theorem length_writeFileData {img fileData : List UInt8} {first n : Nat} (h : Fits img first n) :
    (writeFileData img fileData first n).length = img.length := by
  induction n with
  | zero => rfl
  | succ n ih =>
    have ih := ih (by unfold Fits at h ⊢; omega)
    rw [writeFileData_succ, writeChunk, length_setSlice (by rw [length_chunk]) (by
      rw [ih, clusterToSector_mul, bytesPerCluster, sectorSize, sectorsPerCluster]
      unfold Fits at h
      omega)]
    exact ih

/-- Whatever the file's size, a loop whose first cluster starts inside the image, or right at
its end, leaves the image as long as the longer of the two: the image, or the end of its last
cluster. Clusters past the end are appended one after the other. -/
theorem length_writeFileData_max {img fileData : List UInt8} {first n : Nat}
    (h : 512 * (528 + 8 * first) ≤ img.length) :
    (writeFileData img fileData first n).length = max img.length (512 * (528 + 8 * (first + n))) := by
  induction n with
  | zero =>
    show img.length = _
    omega
  | succ n ih =>
    rw [writeFileData_succ, writeChunk, length_setSlice_max (by rw [length_chunk]) (by
      rw [ih, clusterToSector_mul]; omega), ih, clusterToSector_mul, bytesPerCluster, sectorSize,
      sectorsPerCluster]
    omega

/-- Bytes of the image before the first cluster or after the last are left alone. -/
theorem slice_writeFileData_of_disjoint {img fileData : List UInt8} {first n o o' : Nat}
    (h : Fits img first n)
    (hd : o' ≤ 512 * (528 + 8 * first) ∨ 512 * (528 + 8 * (first + n)) ≤ o) :
    slice (writeFileData img fileData first n) o o' = slice img o o' := by
  induction n with
  | zero => rfl
  | succ n ih =>
    have hfit : Fits img first n := by unfold Fits at h ⊢; omega
    have hlen := @length_writeFileData img fileData first n hfit
    rw [writeFileData_succ, writeChunk, clusterToSector_mul]
    unfold Fits at h
    rcases hd with hd | hd
    · rw [slice_setSlice_of_le (by omega) (by rw [hlen]; omega), ih hfit (.inl hd)]
    · rw [slice_setSlice_of_ge (by rw [length_chunk])
        (by rw [hlen, bytesPerCluster, sectorSize, sectorsPerCluster]; omega)
        (by rw [bytesPerCluster, sectorSize, sectorsPerCluster]; omega), ih hfit (.inr (by omega))]

/-- After the loop, cluster `first_cluster + i` holds chunk `i`. -/
theorem slice_writeFileData_self {img fileData : List UInt8} {first n i : Nat}
    (h : Fits img first n) (hi : i < n) :
    slice (writeFileData img fileData first n) (512 * (528 + 8 * (first + i)))
      (512 * (528 + 8 * (first + i)) + bytesPerCluster) = chunk fileData i := by
  induction n with
  | zero => cases hi
  | succ n ih =>
    have hfit : Fits img first n := by unfold Fits at h ⊢; omega
    have hlen := @length_writeFileData img fileData first n hfit
    rw [writeFileData_succ, writeChunk, clusterToSector_mul]
    unfold Fits at h
    rcases Nat.lt_succ_iff_lt_or_eq.mp hi with hi | rfl
    · rw [slice_setSlice_of_le (by rw [bytesPerCluster, sectorSize, sectorsPerCluster]; omega)
        (by rw [hlen, bytesPerCluster, sectorSize, sectorsPerCluster]; omega), ih hfit hi]
    · exact slice_setSlice_self (by rw [length_chunk]) (by rw [hlen]; omega)

/-! ## A file's clusters, joined -/

theorem length_le_clustersNeeded (size : Nat) : size ≤ clustersNeeded size * bytesPerCluster := by
  simp only [clustersNeeded, bytesPerCluster, sectorSize, sectorsPerCluster]
  omega

/-- Chunk `i` is cluster `i` of the file padded with zeros to whole clusters. -/
theorem chunk_eq_slice {fileData : List UInt8} {n i : Nat}
    (hn : fileData.length ≤ n * bytesPerCluster) (hi : i < n) :
    chunk fileData i = slice (fileData ++ zeros (n * bytesPerCluster - fileData.length))
      (i * bytesPerCluster) (i * bytesPerCluster + bytesPerCluster) := by
  have hi' : (i + 1) * bytesPerCluster ≤ n * bytesPerCluster := Nat.mul_le_mul_right _ hi
  rw [Nat.succ_mul] at hi'
  simp only [chunk, slice, zeros, List.drop_append_eq_append_drop, List.take_append_eq_append_take,
    List.length_drop, List.drop_replicate, List.take_replicate, List.length_take, Nat.add_sub_cancel_left]
  rw [Nat.succ_mul]
  congr 1
  · exact List.take_eq_take.mpr (by rw [List.length_drop]; omega)
  · congr 1
    omega

/-- The chunks of a file, joined, are the file padded with zeros to whole clusters. -/
theorem flatten_chunks (fileData : List UInt8) :
    ((List.range (clustersNeeded fileData.length)).map (chunk fileData)).flatten =
      fileData ++ zeros (clustersNeeded fileData.length * bytesPerCluster - fileData.length) := by
  have hn := length_le_clustersNeeded fileData.length
  rw [List.map_congr_left (fun i hi => chunk_eq_slice hn (List.mem_range.mp hi)), flatten_blocks,
    List.take_of_length_le (by simp; omega)]

end Fat32DiskBuilder

end Fat32Image
