import SlottedFile.Buffer
import Std.Data.TreeMap

/-!
# The contents of a file

An image is a length and the blocks that were ever written; any other block is
zero. Only the part of the blocks before the length belongs to the file. What
lies behind it is zero (`Image.zero_behind`), so that a file that grows again
grows by zeros, and every operation has to leave it so.
-/

namespace SlottedFile

/-- Whether blocks are zero from a byte of the file on. A block that is not
there counts as zero. -/
def ZeroFrom (blocks : Std.TreeMap Nat Block) (size : Nat) : Prop :=
  ∀ k i (h : i < blockSize), size ≤ k * blockSize + i →
    (blocks.getD k (Buffer.zero blockSize))[i] = 0

/-- **The contents of a file on disk.** -/
structure Image where
  /-- The length in bytes. -/
  size : Nat
  blocks : Std.TreeMap Nat Block
  /-- Nothing but zeros lies behind the end. -/
  zero_behind : ZeroFrom blocks size

namespace Image

/-- A block of zeros is zero at every byte. -/
@[simp] theorem getElem_zero {n i : Nat} (h : i < n) : (Buffer.zero n)[i] = 0 :=
  Vector.getElem_replicate h

/-- The empty file. -/
def empty : Image where
  size := 0
  blocks := ∅
  zero_behind := fun k i h _ => by
    rw [Std.TreeMap.getD_emptyc, getElem_zero]

/-- A block of the file; past the end it is zero. -/
def block (img : Image) (k : Nat) : Block := img.blocks.getD k (Buffer.zero blockSize)

/-- The number of blocks the file reaches into. -/
def blockCount (img : Image) : Nat := (img.size + blockSize - 1) / blockSize

/-- A byte of the file; past the end it is zero. -/
def byte (img : Image) (i : Nat) : UInt8 :=
  (img.block (i / blockSize)).get ⟨i % blockSize, Nat.mod_lt _ (by decide)⟩

/-! ## Giving a file a length -/

/-- A block whose bytes from `off` on are cleared. -/
def clearFrom (b : Block) (off : Nat) : Block :=
  Vector.ofFn fun i => if i.val < off then b[i] else 0

/-- The blocks that remain of a file that is cut. The block in which the cut
falls loses the bytes behind it. -/
def cutBlocks (blocks : Std.TreeMap Nat Block) (size : Nat) : Std.TreeMap Nat Block :=
  blocks.filterMap fun k b =>
    if size ≤ k * blockSize then none
    else if (k + 1) * blockSize ≤ size then some b
    else some (clearFrom b (size - k * blockSize))

/-- **What a cut leaves of a byte**: itself before the cut, zero behind it. -/
theorem getElem_cutBlocks (blocks : Std.TreeMap Nat Block) (size k i : Nat) (h : i < blockSize) :
    ((cutBlocks blocks size).getD k (Buffer.zero blockSize))[i] =
      if k * blockSize + i < size then (blocks.getD k (Buffer.zero blockSize))[i] else 0 := by
  have hsucc : (k + 1) * blockSize = k * blockSize + blockSize := Nat.succ_mul k blockSize
  rw [cutBlocks, Std.TreeMap.getD_eq_getD_getElem?, Std.TreeMap.getElem?_filterMap',
    Std.TreeMap.getD_eq_getD_getElem?]
  rcases blocks[k]? with _ | b
  · simp
  · rw [Option.bind_some]
    by_cases hout : size ≤ k * blockSize
    · rw [if_pos hout, if_neg (by omega), Option.getD_none, getElem_zero]
    · by_cases hin : (k + 1) * blockSize ≤ size
      · rw [if_neg hout, if_pos hin, if_pos (by omega)]
      · rw [if_neg hout, if_neg hin, Option.getD_some, Option.getD_some, clearFrom,
          Vector.getElem_ofFn]
        simp only [Fin.getElem_fin, Nat.lt_sub_iff_add_lt']

/-- Give the file a length. What is cut off is gone; what is added is zero. -/
def setSize (img : Image) (size : Nat) : Image :=
  if h : size < img.size then
    { size
      blocks := cutBlocks img.blocks size
      zero_behind := fun k i hi hle => by
        rw [getElem_cutBlocks, if_neg (Nat.not_lt.2 hle)] }
  else
    { size
      blocks := img.blocks
      zero_behind := fun k i hi hle =>
        img.zero_behind k i hi (Nat.le_trans (Nat.not_lt.1 h) hle) }

/-! ## Writing -/

/-- Replace a whole block, growing the file to hold it. -/
def setBlock (img : Image) (k : Nat) (b : Block) : Image where
  size := max img.size ((k + 1) * blockSize)
  blocks := img.blocks.insert k b
  zero_behind := fun j i hi hle => by
    have hne : ¬compare k j = .eq := by
      rw [Std.compare_eq_iff_eq]
      rintro rfl
      rw [Nat.add_mul, Nat.one_mul] at hle
      omega
    rw [Std.TreeMap.getD_insert, if_neg hne]
    exact img.zero_behind j i hi (by omega)

/-- Replace one block by the part of a byte string that falls into it, if the
byte string starts at byte `off` of the file. -/
def patchBlock (off : Nat) (bytes : List UInt8) (blocks : Std.TreeMap Nat Block) (k : Nat) :
    Std.TreeMap Nat Block :=
  let start := off - k * blockSize
  let old := blocks.getD k (Buffer.zero blockSize)
  if h : start ≤ blockSize then
    let part := (bytes.drop (k * blockSize - off)).take (blockSize - start)
    blocks.insert k (old.put start part (by
      have : part.length ≤ blockSize - start := by simp only [part, List.length_take]; omega
      omega))
  else blocks

/-- A byte string that ends before a byte leaves the zeros from there on. -/
theorem zeroFrom_patchBlock {off size : Nat} {bytes : List UInt8}
    {blocks : Std.TreeMap Nat Block} (hblocks : ZeroFrom blocks size)
    (hfit : off + bytes.length ≤ size) (k : Nat) :
    ZeroFrom (patchBlock off bytes blocks k) size := by
  simp only [patchBlock]
  split
  · intro j i hi hle
    by_cases hjk : k = j
    · subst hjk
      rw [Std.TreeMap.getD_insert_self, Buffer.getElem_put, if_neg]
      · exact hblocks k i hi hle
      · simp only [List.length_take, List.length_drop]
        omega
    · rw [Std.TreeMap.getD_insert, if_neg (by rwa [Std.compare_eq_iff_eq])]
      exact hblocks j i hi hle
  · exact hblocks

/-- Replace the bytes from `off` on, growing the file to hold them. Nothing is
written if there is nothing to write. -/
def writeAt (img : Image) (off : Nat) (bytes : List UInt8) : Image :=
  if bytes.isEmpty then img
  else
    let first := off / blockSize
    let last := (off + bytes.length - 1) / blockSize
    { size := max img.size (off + bytes.length)
      blocks := (List.range' first (last + 1 - first)).foldl (patchBlock off bytes) img.blocks
      zero_behind := by
        have hstart : ZeroFrom img.blocks (max img.size (off + bytes.length)) :=
          fun k i hi hle => img.zero_behind k i hi (by omega)
        generalize List.range' first (last + 1 - first) = ks
        generalize img.blocks = blocks at hstart
        induction ks generalizing blocks with
        | nil => exact hstart
        | cons k ks ih => exact ih _ (zeroFrom_patchBlock hstart (Nat.le_max_right _ _) k) }

/-- The file that holds a byte string. -/
def ofBytes (bytes : List UInt8) : Image := empty.writeAt 0 bytes

/-- The bytes of the file. -/
def toBytes (img : Image) : List UInt8 :=
  ((List.range img.blockCount).flatMap fun k => (img.block k).toList).take img.size

/-! ## What the operations do to a block -/

/-- A block that begins behind the end is zero. -/
theorem block_of_size_le {img : Image} {k : Nat} (h : img.size ≤ k * blockSize) :
    img.block k = Buffer.zero blockSize := by
  ext i hi : 1
  rw [getElem_zero]
  exact img.zero_behind k i hi (by omega)

theorem block_setBlock (img : Image) (k j : Nat) (b : Block) :
    (img.setBlock k b).block j = if j = k then b else img.block j := by
  unfold setBlock block
  by_cases h : j = k
  · subst h
    rw [Std.TreeMap.getD_insert_self, if_pos rfl]
  · rw [Std.TreeMap.getD_insert, if_neg (by rwa [Std.compare_eq_iff_eq, eq_comm]), if_neg h]

/-- A file that grows keeps its blocks. -/
theorem block_setSize_of_le {img : Image} {size : Nat} (h : img.size ≤ size) (k : Nat) :
    (img.setSize size).block k = img.block k := by
  rw [setSize, dif_neg (Nat.not_lt.2 h)]
  rfl

/-- A file that is cut keeps the blocks in front of the cut. -/
theorem block_setSize_of_block_le {img : Image} {size k : Nat} (h : (k + 1) * blockSize ≤ size) :
    (img.setSize size).block k = img.block k := by
  by_cases hs : size < img.size
  · rw [setSize, dif_pos hs]
    ext i hi : 1
    refine (getElem_cutBlocks img.blocks size k i hi).trans (if_pos ?_)
    rw [Nat.add_mul, Nat.one_mul] at h
    omega
  · exact block_setSize_of_le (Nat.not_lt.1 hs) k

@[simp] theorem size_setSize (img : Image) (size : Nat) : (img.setSize size).size = size := by
  unfold setSize
  split <;> rfl

@[simp] theorem size_setBlock (img : Image) (k : Nat) (b : Block) :
    (img.setBlock k b).size = max img.size ((k + 1) * blockSize) := rfl

end Image

end SlottedFile
