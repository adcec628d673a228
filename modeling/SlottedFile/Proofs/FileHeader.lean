import SlottedFile.FileHeader
import SlottedFile.Proofs.Page.Data

/-!
# Headers without a flaw

A header in which nothing is wrong (`FileHeader.flaw`) describes pages whose
parts fit, and is read back from what is written of it as long as its page count
has room in four bytes. Every header that `create` makes is of this kind.
-/

namespace SlottedFile

/-- A buffer that holds a byte string, and zeros behind it. -/
theorem Buffer.toList_ofList {n : Nat} {l : List UInt8} (h : l.length ≤ n) :
    (ofList n l).toList = l ++ List.replicate (n - l.length) 0 := by
  have htake : l.take n = l := List.take_of_length_le h
  refine List.ext_getElem (by simp; omega) fun i hi hi' => ?_
  have hin : i < n := by simpa using hi
  have hbyte : (ofList n l)[i] = if i < l.length then l.getD i 0 else (zero n)[i] := by
    unfold ofList
    rw [getElem_put]
    simp only [htake, Nat.zero_le, Nat.zero_add, true_and, Nat.sub_zero]
  rw [Vector.getElem_toList, hbyte, List.getElem_append]
  by_cases hil : i < l.length
  · rw [if_pos hil, dif_pos hil, List.getD_eq_getElem?_getD, List.getElem?_eq_getElem hil,
      Option.getD_some]
  · rw [if_neg hil, dif_neg hil, List.getElem_replicate, zero, Vector.getElem_replicate]

namespace FileHeader

variable {h : FileHeader}

/-! ## What a header without a flaw says -/

/-- **A header without a flaw**: the slots fit in a page, the bitmap is the one
they need, and the free list starts inside the file. -/
theorem flaw_eq_none_iff : h.flaw = none ↔
    0 < h.recordsPerPage ∧ h.recordsPerPage ≤ maxRecordsPerPage h.recordSize ∧
      h.bitmapSize = Bitmap.bytesFor h.recordsPerPage ∧ ∀ p ∈ h.freeHead, p < h.pages := by
  unfold flaw
  split
  · rename_i hslots
    refine iff_of_false nofun fun hok => ?_
    omega
  · rename_i hslots
    split
    · rename_i hbitmap
      exact iff_of_false nofun fun hok => hbitmap hok.2.2.1
    · rename_i hbitmap
      have hbitmap := not_not.mp hbitmap
      cases hhead : h.freeHead with
      | none => exact iff_of_true rfl ⟨by omega, by omega, hbitmap, nofun⟩
      | some p =>
        show (if p ≥ h.pages then some _ else none) = none ↔ _
        by_cases hp : p ≥ h.pages
        · rw [if_pos hp]
          exact iff_of_false nofun fun hok => absurd (hok.2.2.2 p rfl) (Nat.not_lt.2 hp)
        · rw [if_neg hp]
          refine iff_of_true rfl ⟨by omega, by omega, hbitmap, fun q hq => ?_⟩
          cases hq
          omega

/-- **A header that says nothing wrong**, in full. -/
structure Valid (h : FileHeader) : Prop where
  positive : 0 < h.recordsPerPage
  most : h.recordsPerPage ≤ maxRecordsPerPage h.recordSize
  bitmap : h.bitmapSize = Bitmap.bytesFor h.recordsPerPage
  head_lt : ∀ page ∈ h.freeHead, page < h.pages

theorem valid_iff : h.Valid ↔ h.flaw = none :=
  ⟨fun hvalid => flaw_eq_none_iff.mpr ⟨hvalid.positive, hvalid.most, hvalid.bitmap, hvalid.head_lt⟩,
    fun hflaw =>
      have hvalid := flaw_eq_none_iff.mp hflaw
      ⟨hvalid.1, hvalid.2.1, hvalid.2.2.1, hvalid.2.2.2⟩⟩

/-- **A header whose numbers have room in four bytes**, and whose free list does not
start at the number that stands for no page. -/
structure Storable (h : FileHeader) : Prop where
  recordSize_lt : h.recordSize < widthLimit 4
  recordsPerPage_lt : h.recordsPerPage < widthLimit 4
  pages_lt : h.pages < widthLimit 4
  bitmapSize_lt : h.bitmapSize < widthLimit 4
  head_lt : ∀ page ∈ h.freeHead, page < noPage

/-- **Slots that fit in a page do so with their bitmap.** A slot costs its bytes
and one bit. -/
theorem room_of_le_max {recordSize n : Nat} (h : n ≤ maxRecordsPerPage recordSize) :
    PageHeader.size + Bitmap.bytesFor n + n * recordSize ≤ blockSize := by
  unfold maxRecordsPerPage at h
  unfold Bitmap.bytesFor
  have hsize : PageHeader.size = 8 := rfl
  have hblock : blockSize = 8192 := rfl
  split at h
  · have hzero : n = 0 := Nat.le_zero.mp h
    subst hzero
    omega
  · have hmul : n * (1 + recordSize * 8) ≤ (blockSize - PageHeader.size) * 8 :=
      (Nat.le_div_iff_mul_le (by omega)).mp h
    rw [Nat.mul_add, Nat.mul_one, ← Nat.mul_assoc] at hmul
    omega

theorem fits_of_flaw (hflaw : h.flaw = none) : h.layout.Fits := by
  obtain ⟨hpos, hmax, hbitmap, -⟩ := flaw_eq_none_iff.mp hflaw
  refine ⟨hpos, hbitmap, ?_⟩
  show PageHeader.size + h.bitmapSize + h.recordsPerPage * h.recordSize ≤ blockSize
  rw [hbitmap]
  exact room_of_le_max hmax

/-- **A header that is made from options has no flaw**, and describes an empty
file. -/
theorem flaw_of_create {options : FileOptions} (hcreate : create options = .ok h) :
    h.flaw = none ∧ h.pages = 0 ∧ h.freeHead = none := by
  unfold create at hcreate
  dsimp only at hcreate
  split at hcreate
  · cases hcreate
  · rename_i hmax
    split at hcreate
    · cases hcreate
      refine ⟨flaw_eq_none_iff.mpr ⟨Nat.pos_of_ne_zero hmax, Nat.le_refl _, rfl, nofun⟩, rfl, rfl⟩
    · cases hcreate
    · split at hcreate
      · cases hcreate
      · rename_i n hfew
        cases hcreate
        exact ⟨flaw_eq_none_iff.mpr ⟨Nat.succ_pos _, Nat.not_lt.1 hfew, rfl, nofun⟩, rfl, rfl⟩

/-! ## Reading a header back -/

theorem word_append {l : List UInt8} {n : Nat} (hlen : l.length = n) (rest : List UInt8) (k : Nat) :
    word (l ++ rest) (n + k) = word rest k := by
  subst hlen
  rw [word, word, List.drop_length_add_append]

theorem word_toLE (n : Nat) (rest : List UInt8) :
    word (toLE 4 n ++ rest) 0 = n % widthLimit 4 := by
  rw [word, List.drop_zero, List.take_left' (length_toLE 4 n), ofLE_toLE]

/-- A header is made of six words. -/
theorem encode_append (h : FileHeader) (rest : List UInt8) : h.encode ++ rest =
    toLE 4 magic ++ (toLE 4 h.recordSize ++ (toLE 4 h.recordsPerPage ++ (toLE 4 h.pages ++
      (toLE 4 h.bitmapSize ++ (toLE 4 (h.freeHead.getD noPage) ++ rest))))) := by
  simp only [encode, linkBytes, List.append_assoc]

theorem ofWords_encode (h : FileHeader) (rest : List UInt8) : ofWords (h.encode ++ rest) =
    { recordSize := h.recordSize % widthLimit 4
      recordsPerPage := h.recordsPerPage % widthLimit 4
      pages := h.pages % widthLimit 4
      bitmapSize := h.bitmapSize % widthLimit 4
      freeHead := linkOfWord (h.freeHead.getD noPage % widthLimit 4) } := by
  have hskip : ∀ (n : Nat) (rest : List UInt8) (k : Nat),
      word (toLE 4 n ++ rest) (4 + k) = word rest k := fun n rest k =>
    word_append (length_toLE 4 n) rest k
  rw [encode_append, ofWords]
  congr 1
  · exact (hskip _ _ 0).trans (word_toLE _ _)
  · exact (hskip _ _ 4).trans ((hskip _ _ 0).trans (word_toLE _ _))
  · exact (hskip _ _ 8).trans ((hskip _ _ 4).trans ((hskip _ _ 0).trans (word_toLE _ _)))
  · exact (hskip _ _ 12).trans ((hskip _ _ 8).trans ((hskip _ _ 4).trans ((hskip _ _ 0).trans
      (word_toLE _ _))))
  · refine congrArg linkOfWord ?_
    exact (hskip _ _ 16).trans ((hskip _ _ 12).trans ((hskip _ _ 8).trans ((hskip _ _ 4).trans
      ((hskip _ _ 0).trans (word_toLE _ _)))))

/-- **A header without a flaw has room in four bytes** as long as its page count
does. -/
theorem storable_of_flaw (hflaw : h.flaw = none) (hpages : h.pages ≤ noPage) : h.Storable := by
  obtain ⟨hpos, hmax, hbitmap, hhead⟩ := flaw_eq_none_iff.mp hflaw
  have hlimit : widthLimit 4 = noPage + 1 := by decide
  have hblock : blockSize = 8192 := rfl
  have hword : noPage = 4294967295 := rfl
  have hsize : h.recordSize ≤ blockSize := by
    unfold maxRecordsPerPage at hmax
    split at hmax <;> omega
  have hfits := (fits_of_flaw hflaw).recordsPerPage_lt
  have hbits : h.bitmapSize ≤ blockSize := by
    have hle := (fits_of_flaw hflaw).bitmap_le
    exact Nat.le_trans (Nat.le_add_left _ _) hle
  exact ⟨by omega, Nat.lt_of_succ_lt hfits, by omega, by omega, fun page hpage =>
    Nat.lt_of_lt_of_le (hhead page hpage) hpages⟩

/-- **A header without a flaw reads back** as long as its page count has room in
four bytes. -/
theorem decode_encode (hflaw : h.flaw = none) (hpages : h.pages ≤ noPage) (rest : List UInt8) :
    decode (h.encode ++ rest) = .ok h := by
  have hstorable := storable_of_flaw hflaw hpages
  have hself : ofWords (h.encode ++ rest) = h := by
    rw [ofWords_encode, Nat.mod_eq_of_lt hstorable.recordSize_lt,
      Nat.mod_eq_of_lt hstorable.recordsPerPage_lt, Nat.mod_eq_of_lt hstorable.pages_lt,
      Nat.mod_eq_of_lt hstorable.bitmapSize_lt]
    have hlink : linkOfWord (h.freeHead.getD noPage % widthLimit 4) = h.freeHead := by
      rw [← ofLE_toLE]
      exact linkOfWord_ofLE_linkBytes hstorable.head_lt
    rw [hlink]
  have hmagic : word (h.encode ++ rest) 0 = magic := by
    rw [encode_append, word_toLE]
    decide
  rw [decode, if_neg (by rw [List.length_append, length_encode]; omega), if_neg (not_not_intro hmagic),
    hself, hflaw]

/-- A header block reads back as the header. -/
theorem decode_block (hflaw : h.flaw = none) (hpages : h.pages ≤ noPage) :
    decode (Buffer.ofList blockSize h.encode).toList = .ok h := by
  rw [Buffer.toList_ofList h.length_encode_le]
  exact decode_encode hflaw hpages _

/-- **What is decoded** begins with the magic word and says nothing wrong. -/
theorem decode_eq_ok_iff {data : List UInt8} : decode data = .ok h ↔
    size ≤ data.length ∧ word data 0 = magic ∧ (ofWords data).flaw = none ∧ h = ofWords data := by
  unfold decode
  split
  · rename_i hshort
    exact iff_of_false nofun fun hok => absurd hok.1 (Nat.not_le.2 hshort)
  · rename_i hlong
    split
    · rename_i hmagic
      exact iff_of_false nofun fun hok => hmagic hok.2.1
    · rename_i hmagic
      cases hflaw : (ofWords data).flaw with
      | some flaw => exact iff_of_false nofun nofun
      | none =>
        refine ⟨fun hok => ⟨Nat.not_lt.1 hlong, not_not.mp hmagic, rfl, ?_⟩, fun hok => ?_⟩
        · exact (Except.ok.inj hok).symm
        · rw [hok.2.2.2]

/-- Numbers are written modulo the width. -/
theorem toLE_mod (width n : Nat) : toLE width (n % widthLimit width) = toLE width n := by
  have hback := toLE_ofLE (toLE width n)
  rwa [length_toLE, ofLE_toLE] at hback

/-- **What is read back is written in the same way**, whether its numbers had room or
not. -/
theorem encode_of_decode {h' : FileHeader}
    (hdecode : decode (Buffer.ofList blockSize h.encode).toList = .ok h') :
    h'.encode = h.encode := by
  rw [Buffer.toList_ofList h.length_encode_le] at hdecode
  rw [(decode_eq_ok_iff.mp hdecode).2.2.2, ofWords_encode]
  unfold encode linkBytes
  simp only [toLE_mod, getD_linkOfWord]

/-- A word of a byte string is written with the bytes it was read from. -/
theorem toLE_word {data : List UInt8} {off : Nat} (h : off + 4 ≤ data.length) :
    toLE 4 (word data off) = (data.drop off).take 4 := by
  have hfour : ((data.drop off).take 4).length = 4 := by
    rw [List.length_take, List.length_drop]
    omega
  have hback := toLE_ofLE ((data.drop off).take 4)
  rwa [hfour] at hback

/-- The words that a byte string begins with, one behind the other. -/
theorem take_eq_words {data : List UInt8} (hlen : size ≤ data.length) :
    data.take size = toLE 4 (word data 0) ++ toLE 4 (word data 4) ++ toLE 4 (word data 8)
      ++ toLE 4 (word data 12) ++ toLE 4 (word data 16) ++ toLE 4 (word data 20) := by
  have hsize : size = 24 := rfl
  have hword : ∀ off, off + 4 ≤ size → toLE 4 (word data off) = (data.drop off).take 4 :=
    fun off hoff => toLE_word (Nat.le_trans hoff hlen)
  rw [hword 0 (by omega), hword 4 (by omega), hword 8 (by omega), hword 12 (by omega),
    hword 16 (by omega), hword 20 (by omega), List.drop_zero]
  have hnext : ∀ n, data.take n ++ (data.drop n).take 4 = data.take (n + 4) := fun n =>
    List.take_add.symm
  rw [hnext 4, hnext 8, hnext 12, hnext 16, hnext 20]
  rfl

/-- The magic word is read where its four bytes stand. -/
theorem word_eq_magic_iff {data : List UInt8} (hlen : size ≤ data.length) :
    word data 0 = magic ↔ data.take 4 = toLE 4 magic := by
  have hword : toLE 4 (word data 0) = data.take 4 :=
    toLE_word (Nat.le_trans (show 0 + 4 ≤ size by decide) hlen)
  refine ⟨fun h => ?_, fun h => ?_⟩
  · rw [← hword, h]
  · rw [word, List.drop_zero, h, ofLE_toLE]
    decide

/-- **What is decoded is written as it was read.** -/
theorem encode_eq_take {data : List UInt8} (hdecode : decode data = .ok h) :
    h.encode = data.take size := by
  obtain ⟨hlen, hmagic, -, rfl⟩ := decode_eq_ok_iff.mp hdecode
  rw [take_eq_words hlen, hmagic]
  unfold encode linkBytes ofWords
  rw [getD_linkOfWord]

/-- What is decoded has no flaw. -/
theorem flaw_of_decode {data : List UInt8} (hdecode : decode data = .ok h) : h.flaw = none := by
  obtain ⟨-, -, hflaw, rfl⟩ := decode_eq_ok_iff.mp hdecode
  exact hflaw

theorem widthLimit_mono {n m : Nat} (h : n ≤ m) : widthLimit n ≤ widthLimit m := by
  induction h with
  | refl => exact Nat.le_refl _
  | step _ ih => exact Nat.le_trans ih (Nat.le_mul_of_pos_left _ (by decide))

/-- What is decoded counts as many pages as a word can say. -/
theorem pages_lt_of_decode {data : List UInt8} (hdecode : decode data = .ok h) :
    h.pages < widthLimit 4 := by
  have hword : ∀ off, word data off < widthLimit 4 := fun off =>
    Nat.lt_of_lt_of_le (ofLE_lt _) (widthLimit_mono (List.length_take_le _ _))
  rw [(decode_eq_ok_iff.mp hdecode).2.2.2]
  exact hword 12

end FileHeader

end SlottedFile
