import Mathlib.Tactic.Set
import SlottedFile.Proofs.Ends
import SlottedFile.Proofs.Page.Bits
import SlottedFile.RecordFile.Records

/-!
# What a page says

The bytes of a page say four things (`PageData`): how many records it counts,
which page follows it on the free list, which of its slots are occupied, and
what is in them. In a layout whose parts fit in a page (`PageLayout.Fits`) they
say so in three ranges that do not overlap, so that every edit changes what it is
meant to change and nothing else, and no edit overruns.

The numbers of a page header have four bytes each. What was written is read back
as `storedCount` and `storedLink`, which are the number itself as long as it
fits.
-/

namespace SlottedFile

/-! ## Ranges of bytes -/

namespace Buffer

variable {n : Nat}

/-- The bytes of a range; there are none if it does not lie in the buffer. -/
def bytes (b : Buffer n) (off len : Nat) : List UInt8 := (b.slice off len).toOption.getD []

theorem slice_eq (b : Buffer n) {off len : Nat} (h : off + len ≤ n) :
    b.slice off len = .ok (b.bytes off len) := by
  obtain ⟨l, hl⟩ := slice_eq_ok_iff.mpr h
  rw [bytes, hl]
  rfl

theorem length_bytes (b : Buffer n) {off len : Nat} (h : off + len ≤ n) :
    (b.bytes off len).length = len :=
  length_slice (b.slice_eq h)

theorem getElem_bytes (b : Buffer n) {off len i : Nat} (h : off + len ≤ n)
    (hi : i < (b.bytes off len).length) (hin : off + i < n) :
    (b.bytes off len)[i] = b[off + i] := by
  have hslice : b.bytes off len =
      List.ofFn fun i : Fin len => b.get ⟨off + i.val, by omega⟩ := by
    rw [bytes, slice, dif_pos h]
    rfl
  simp only [hslice, List.getElem_ofFn]
  rfl

theorem bytes_put_self (b : Buffer n) {off : Nat} {l : List UInt8} (h : off + l.length ≤ n) :
    (b.put off l h).bytes off l.length = l := by
  refine List.ext_getElem (length_bytes _ h) fun i hi hi' => ?_
  rw [getElem_bytes _ h hi (by omega), getElem_put, if_pos (by omega), Nat.add_sub_cancel_left,
    List.getD_eq_getElem?_getD, List.getElem?_eq_getElem hi', Option.getD_some]

theorem bytes_put_of_disjoint (b : Buffer n) {off off' len : Nat} {l : List UInt8}
    (h : off + l.length ≤ n) (h' : off' + len ≤ n)
    (hdisjoint : off' + len ≤ off ∨ off + l.length ≤ off') :
    (b.put off l h).bytes off' len = b.bytes off' len := by
  refine List.ext_getElem (by rw [length_bytes _ h', length_bytes _ h']) fun i hi hi' => ?_
  have hlen : i < len := by rwa [length_bytes _ h'] at hi
  rw [getElem_bytes _ h' hi (by omega), getElem_bytes _ h' hi' (by omega), getElem_put,
    if_neg (by omega)]

end Buffer

section Edits

open Buffer (Edit)

variable {n : Nat} {α : Type} {b : Buffer n}

theorem ends_editView {f : Buffer n → Except Overrun α} {a : α} (h : f b = .ok a)
    {good : α → Buffer n → Prop} {bad : Overrun → Buffer n → Prop} :
    Ends (Edit.view f) b good bad ↔ good a b := by
  unfold Ends Edit.view
  rw [h]

theorem ends_editWrite {off : Nat} {l : List UInt8} (h : off + l.length ≤ n)
    {good : Unit → Buffer n → Prop} {bad : Overrun → Buffer n → Prop} :
    Ends (Edit.write off l) b good bad ↔ good () (b.put off l h) := by
  unfold Ends Edit.write Buffer.write
  rw [dif_pos h]

theorem ends_editReplace {off len : Nat} {l : List UInt8} (hlen : l.length = len)
    (h : off + l.length ≤ n) {good : Unit → Buffer n → Prop} {bad : Overrun → Buffer n → Prop} :
    Ends (Edit.replace off len l) b good bad ↔ good () (b.put off l h) := by
  subst hlen
  unfold Edit.replace
  rw [ends_bind, ends_editView (b.slice_eq h), if_pos (b.length_bytes h).symm, ends_editWrite h]

end Edits

/-! ## The three ranges of a page -/

/-- **A layout that fits in a page**, with a bitmap that has a bit for every
slot. -/
structure PageLayout.Fits (l : PageLayout) : Prop where
  positive : 0 < l.recordsPerPage
  bitmap : l.bitmapSize = Bitmap.bytesFor l.recordsPerPage
  room : PageHeader.size + l.bitmapSize + l.recordsPerPage * l.recordSize ≤ blockSize

/-- **What a page says.** -/
@[ext] structure PageData where
  records : Nat
  next : Option Nat
  occupied : Nat → Bool
  slot : Nat → List UInt8

/-- The bits of the slots that there are. -/
def PageLayout.bits (l : PageLayout) (bits : Bitmap) (i : Nat) : Bool :=
  decide (i < l.recordsPerPage) && bits.bit i

/-- What a page says. -/
def PageLayout.data (l : PageLayout) (b : Block) : PageData where
  records := (PageHeader.ofBytes (b.bytes 0 PageHeader.size)).records
  next := (PageHeader.ofBytes (b.bytes 0 PageHeader.size)).next
  occupied := l.bits (b.bytes PageHeader.size l.bitmapSize)
  slot := fun i => if i < l.recordsPerPage then b.bytes (l.slotOffset i) l.recordSize else []

/-- A count as it is read back. -/
def storedCount (records : Nat) : Nat := records % widthLimit 4

/-- A link as it is read back. -/
def storedLink (next : Option Nat) : Option Nat := linkOfWord (ofLE (linkBytes next))

theorem storedCount_of_lt {records : Nat} (h : records < widthLimit 4) :
    storedCount records = records :=
  Nat.mod_eq_of_lt h

theorem storedLink_of_lt {next : Option Nat} (h : ∀ p ∈ next, p < noPage) :
    storedLink next = next :=
  linkOfWord_ofLE_linkBytes h

theorem PageHeader.ofBytes_encode_eq (h : PageHeader) :
    ofBytes h.encode = ⟨storedCount h.records, storedLink h.next⟩ := by
  have htake : h.encode.take 4 = toLE 4 h.records := List.take_left' (length_toLE _ _)
  have hdrop : h.encode.drop 4 = linkBytes h.next := List.drop_left' (length_toLE _ _)
  rw [ofBytes, htake, hdrop, ofLE_toLE]
  rfl

namespace PageLayout

variable {l : PageLayout} {b : Block}

/-! ## Where the ranges lie -/

/-- Two slots do not overlap. -/
theorem slot_disjoint (l : PageLayout) {i j : Nat} (hij : i ≠ j) :
    l.slotOffset j + l.recordSize ≤ l.slotOffset i ∨
      l.slotOffset i + l.recordSize ≤ l.slotOffset j := by
  unfold slotOffset
  rcases Nat.lt_or_gt_of_ne hij with h | h
  · have hmul : (i + 1) * l.recordSize ≤ j * l.recordSize := Nat.mul_le_mul_right _ h
    rw [Nat.succ_mul] at hmul
    omega
  · have hmul : (j + 1) * l.recordSize ≤ i * l.recordSize := Nat.mul_le_mul_right _ h
    rw [Nat.succ_mul] at hmul
    omega

namespace Fits

variable (hl : l.Fits)

include hl

theorem bitmap_le : PageHeader.size + l.bitmapSize ≤ blockSize :=
  Nat.le_trans (Nat.le_add_right _ _) hl.room

theorem slot_le {i : Nat} (hi : i < l.recordsPerPage) :
    l.slotOffset i + l.recordSize ≤ blockSize := by
  have hroom := hl.room
  have hmul : (i + 1) * l.recordSize ≤ l.recordsPerPage * l.recordSize :=
    Nat.mul_le_mul_right _ hi
  rw [Nat.succ_mul] at hmul
  unfold slotOffset
  omega

theorem le_bits : l.recordsPerPage ≤ 8 * l.bitmapSize := by
  rw [hl.bitmap, Bitmap.bytesFor]
  omega

theorem le_bits_bytes (b : Block) :
    l.recordsPerPage ≤ 8 * (b.bytes PageHeader.size l.bitmapSize).length := by
  rw [b.length_bytes hl.bitmap_le]
  exact hl.le_bits

/-- A page has fewer slots than four bytes can count. -/
theorem recordsPerPage_lt : l.recordsPerPage + 1 < widthLimit 4 := by
  have hbits := hl.le_bits
  have hroom := hl.bitmap_le
  have hlimit : 8 * blockSize + 1 < widthLimit 4 := by decide
  omega

end Fits

/-! ## Reading -/

theorem occupied_data {i : Nat} (hi : i < l.recordsPerPage) :
    (l.data b).occupied i = Bitmap.bit (b.bytes PageHeader.size l.bitmapSize) i := by
  show (decide (i < l.recordsPerPage) && _) = _
  rw [decide_eq_true hi, Bool.true_and]

theorem slot_data {i : Nat} (hi : i < l.recordsPerPage) :
    (l.data b).slot i = b.bytes (l.slotOffset i) l.recordSize :=
  if_pos hi

theorem decode_eq (b : Block) (l : PageLayout) :
    PageHeader.decode b = .ok ⟨(l.data b).records, (l.data b).next⟩ := by
  rw [PageHeader.decode, b.slice_eq (by decide)]
  rfl

theorem records_lt (b : Block) (l : PageLayout) : (l.data b).records < widthLimit 4 := by
  have hlen : ((b.bytes 0 PageHeader.size).take 4).length = 4 := by
    rw [List.length_take, b.length_bytes (by decide)]
    rfl
  have hlt := ofLE_lt ((b.bytes 0 PageHeader.size).take 4)
  rw [hlen] at hlt
  exact hlt

theorem next_lt (b : Block) (l : PageLayout) : ∀ p ∈ (l.data b).next, p < noPage := by
  have hlen : ((b.bytes 0 PageHeader.size).drop 4).length = 4 := by
    rw [List.length_drop, b.length_bytes (by decide)]
    rfl
  have hlt := ofLE_lt ((b.bytes 0 PageHeader.size).drop 4)
  rw [hlen] at hlt
  intro p hp
  have hlink : linkOfWord (ofLE ((b.bytes 0 PageHeader.size).drop 4)) = some p := hp
  unfold linkOfWord at hlink
  split at hlink
  · cases hlink
  · rename_i hne
    cases hlink
    have hlimit : widthLimit 4 = noPage + 1 := by decide
    omega

variable (hl : l.Fits)

include hl

theorem bitmap_eq (b : Block) :
    l.bitmap b = .ok (b.bytes PageHeader.size l.bitmapSize) :=
  b.slice_eq hl.bitmap_le

theorem isOccupied_eq {i : Nat} (hi : i < l.recordsPerPage) :
    l.isOccupied b i = .ok ((l.data b).occupied i) := by
  rw [isOccupied, bitmap_eq hl]
  show Bitmap.isSet _ i = _
  rw [Bitmap.isSet_eq (Nat.lt_of_lt_of_le hi (hl.le_bits_bytes b)), occupied_data hi]

theorem firstFreeSlot_eq (b : Block) : l.firstFreeSlot b =
    .ok ((List.range l.recordsPerPage).find? fun i => !(l.data b).occupied i) := by
  rw [firstFreeSlot, bitmap_eq hl]
  show Except.ok (Bitmap.firstBit false _ l.recordsPerPage) = _
  rw [Bitmap.firstBit_eq_find?, Nat.min_eq_left (hl.le_bits_bytes b)]
  refine congrArg Except.ok (List.find?_congr fun i hi => ?_)
  rw [occupied_data (List.mem_range.mp hi)]
  cases Bitmap.bit (b.bytes PageHeader.size l.bitmapSize) i <;> rfl

/-- The first occupied slot from a slot on. -/
theorem nextOccupied_eq (b : Block) (slot : Nat) : l.nextOccupied b slot =
    .ok ((List.range' slot (l.recordsPerPage - slot)).find? (l.data b).occupied) := by
  unfold nextOccupied
  by_cases hslot : slot < l.recordsPerPage
  · rw [if_pos hslot, bitmap_eq hl]
    show Bitmap.findSet _ _ _ = _
    have hle := hl.le_bits_bytes b
    rw [Bitmap.findSet_eq (by omega)]
    refine congrArg Except.ok (List.find?_congr fun i hi => ?_)
    have hi := List.mem_range'_1.mp hi
    rw [occupied_data (by omega)]
  · rw [if_neg hslot, Nat.sub_eq_zero_of_le (Nat.not_lt.1 hslot)]
    rfl

theorem occupiedCount_eq (b : Block) : l.occupiedCount b =
    .ok ((List.range l.recordsPerPage).countP (l.data b).occupied) := by
  rw [occupiedCount, bitmap_eq hl]
  show Bitmap.countOnes _ _ = _
  rw [Bitmap.countOnes_eq (hl.le_bits_bytes b)]
  refine congrArg Except.ok (List.countP_congr fun i hi => ?_)
  rw [occupied_data (List.mem_range.mp hi)]

omit hl in
theorem isFull_eq (b : Block) :
    l.isFull b = .ok (decide ((l.data b).records ≥ l.recordsPerPage)) := by
  rw [isFull, decode_eq b l]
  rfl

theorem slot_eq {i : Nat} (hi : i < l.recordsPerPage) :
    PageLayout.slot l b i = .ok ((l.data b).slot i) := by
  rw [slot, b.slice_eq (hl.slot_le hi), slot_data hi]

/-! ## Writing to one range -/

/-- The slots are as they were if nothing was written behind the bitmap. -/
theorem slot_data_put (b : Block) {off : Nat} {bytes : List UInt8}
    (hle : off + bytes.length ≤ blockSize)
    (hend : off + bytes.length ≤ PageHeader.size + l.bitmapSize) :
    (l.data (b.put off bytes hle)).slot = (l.data b).slot := by
  funext i
  by_cases hi : i < l.recordsPerPage
  · rw [slot_data hi, slot_data hi, b.bytes_put_of_disjoint hle (hl.slot_le hi) (.inr ?_)]
    rw [slotOffset]
    omega
  · exact (if_neg hi).trans (if_neg hi).symm

/-- **A header that is written** leaves the slots as they are. -/
theorem data_put_header (b : Block) {h : PageHeader} {bytes : List UInt8}
    (hbytes : PageHeader.ofBytes bytes = h) (hsize : bytes.length = PageHeader.size)
    (hle : 0 + bytes.length ≤ blockSize) :
    l.data (b.put 0 bytes hle) = { l.data b with records := h.records, next := h.next } := by
  have hself : (b.put 0 bytes hle).bytes 0 PageHeader.size = bytes := by
    rw [← hsize]
    exact b.bytes_put_self hle
  ext1
  case records =>
    show (PageHeader.ofBytes _).records = h.records
    rw [hself, hbytes]
  case next =>
    show (PageHeader.ofBytes _).next = h.next
    rw [hself, hbytes]
  case occupied =>
    show l.bits _ = l.bits _
    rw [b.bytes_put_of_disjoint hle hl.bitmap_le (.inr (by rw [hsize, Nat.zero_add]))]
  case slot => exact slot_data_put hl b hle (by omega)

/-- **A bitmap that is written** leaves the header and the slots as they are. -/
theorem data_put_bitmap (b : Block) {bits : Bitmap} (hsize : bits.length = l.bitmapSize)
    (hle : PageHeader.size + bits.length ≤ blockSize) :
    l.data (b.put PageHeader.size bits hle) = { l.data b with occupied := l.bits bits } := by
  have hself : (b.put PageHeader.size bits hle).bytes PageHeader.size l.bitmapSize = bits := by
    rw [← hsize]
    exact b.bytes_put_self hle
  have hhead : (b.put PageHeader.size bits hle).bytes 0 PageHeader.size =
      b.bytes 0 PageHeader.size :=
    b.bytes_put_of_disjoint hle (by decide) (.inl (Nat.le_of_eq (Nat.zero_add _)))
  ext1
  case records => exact congrArg (fun bytes => (PageHeader.ofBytes bytes).records) hhead
  case next => exact congrArg (fun bytes => (PageHeader.ofBytes bytes).next) hhead
  case occupied =>
    show l.bits _ = l.bits bits
    rw [hself]
  case slot => exact slot_data_put hl b hle (by omega)

/-- **A slot that is written** leaves everything else as it is. -/
theorem data_put_slot (b : Block) {i : Nat} (hi : i < l.recordsPerPage) {record : List UInt8}
    (hsize : record.length = l.recordSize) (hle : l.slotOffset i + record.length ≤ blockSize) :
    l.data (b.put (l.slotOffset i) record hle) =
      { l.data b with slot := Function.update (l.data b).slot i record } := by
  have hself : (b.put (l.slotOffset i) record hle).bytes (l.slotOffset i) l.recordSize = record := by
    rw [← hsize]
    exact b.bytes_put_self hle
  have hbefore : ∀ {off len}, off + len ≤ PageHeader.size + l.bitmapSize →
      (b.put (l.slotOffset i) record hle).bytes off len = b.bytes off len := by
    intro off len hlen
    have hbitmap := hl.bitmap_le
    refine b.bytes_put_of_disjoint hle (by omega) (.inl ?_)
    rw [slotOffset]
    omega
  have hhead : (b.put (l.slotOffset i) record hle).bytes 0 PageHeader.size =
      b.bytes 0 PageHeader.size := hbefore (by omega)
  have hbits : (b.put (l.slotOffset i) record hle).bytes PageHeader.size l.bitmapSize =
      b.bytes PageHeader.size l.bitmapSize := hbefore (Nat.le_refl _)
  ext1
  case records => exact congrArg (fun bytes => (PageHeader.ofBytes bytes).records) hhead
  case next => exact congrArg (fun bytes => (PageHeader.ofBytes bytes).next) hhead
  case occupied =>
    show l.bits _ = l.bits _
    rw [hbits]
  case slot =>
    funext j
    show _ = Function.update (l.data b).slot i record j
    rw [Function.update_apply]
    by_cases hj : j = i
    · subst hj
      rw [slot_data hi, hself, if_pos rfl]
    · rw [if_neg hj]
      by_cases hjlt : j < l.recordsPerPage
      · rw [slot_data hjlt, slot_data hjlt]
        refine b.bytes_put_of_disjoint hle (hl.slot_le hjlt) ?_
        rw [hsize]
        exact l.slot_disjoint (Ne.symm hj)
      · exact (if_neg hjlt).trans (if_neg hjlt).symm

/-! ## The edits of a page -/

omit hl in
theorem ends_setHeader (hl : l.Fits) (h : PageHeader) :
    Ends (setHeader h) b
      (fun _ b' => l.data b' =
        { l.data b with records := storedCount h.records, next := storedLink h.next })
      (fun _ _ => False) := by
  have hle : 0 + h.encode.length ≤ blockSize := by
    rw [h.length_encode]
    decide
  rw [setHeader, ends_editReplace h.length_encode hle]
  exact data_put_header hl b h.ofBytes_encode_eq h.length_encode hle

omit hl in
theorem ends_updateHeader (hl : l.Fits) (f : PageHeader → PageHeader) :
    Ends (updateHeader f) b
      (fun _ b' => l.data b' =
        { l.data b with
          records := storedCount (f ⟨(l.data b).records, (l.data b).next⟩).records
          next := storedLink (f ⟨(l.data b).records, (l.data b).next⟩).next })
      (fun _ _ => False) := by
  rw [updateHeader, ends_bind, ends_editView (decode_eq b l)]
  exact ends_setHeader hl _

omit hl in
/-- A count is changed, and the link stays. -/
theorem ends_setRecords (hl : l.Fits) (records : Nat) :
    Ends (setRecords records) b
      (fun _ b' => l.data b' = { l.data b with records := storedCount records })
      (fun _ _ => False) := by
  refine (ends_updateHeader hl _).imp (fun _ b' h => h.trans ?_) fun _ _ h => h
  rw [storedLink_of_lt (next_lt b l)]

omit hl in
/-- A link is changed, and the count stays. -/
theorem ends_setNext (hl : l.Fits) (next : Option Nat) :
    Ends (setNext next) b
      (fun _ b' => l.data b' = { l.data b with next := storedLink next })
      (fun _ _ => False) := by
  refine (ends_updateHeader hl _).imp (fun _ b' h => h.trans ?_) fun _ _ h => h
  rw [storedCount_of_lt (records_lt b l)]

/-- A bitmap is changed, and everything else stays. -/
theorem ends_updateBitmap {f : Bitmap → Except Overrun Bitmap} {bits : Bitmap}
    (hf : f (b.bytes PageHeader.size l.bitmapSize) = .ok bits) (hsize : bits.length = l.bitmapSize) :
    Ends (l.updateBitmap f) b
      (fun _ b' => l.data b' = { l.data b with occupied := l.bits bits }) (fun _ _ => False) := by
  have hview : (l.bitmap b).bind f = .ok bits := by
    rw [bitmap_eq hl]
    exact hf
  have hle : PageHeader.size + bits.length ≤ blockSize := by
    rw [hsize]
    exact hl.bitmap_le
  rw [updateBitmap, ends_bind, ends_editView hview, ends_editWrite hle]
  exact data_put_bitmap hl b hsize hle

theorem ends_setOccupied {i : Nat} (hi : i < l.recordsPerPage) :
    Ends (l.setOccupied i) b
      (fun _ b' => l.data b' =
        { l.data b with occupied := Function.update (l.data b).occupied i true })
      (fun _ _ => False) := by
  obtain ⟨bits, hset, hlen, hbit⟩ := Bitmap.set_eq (Nat.lt_of_lt_of_le hi (hl.le_bits_bytes b))
  rw [b.length_bytes hl.bitmap_le] at hlen
  refine (ends_updateBitmap hl hset hlen).imp (fun _ b' h => h.trans ?_) fun _ _ h => h
  ext1
  case occupied =>
    funext j
    show (decide (j < l.recordsPerPage) && bits.bit j) = Function.update (l.data b).occupied i true j
    rw [hbit, Function.update_apply]
    by_cases hj : j = i
    · subst hj
      rw [if_pos rfl, decide_eq_true hi, decide_eq_true rfl]
      rfl
    · rw [if_neg hj, decide_eq_false hj]
      rfl
  all_goals rfl

theorem ends_clearOccupied {i : Nat} (hi : i < l.recordsPerPage) :
    Ends (l.clearOccupied i) b
      (fun _ b' => l.data b' =
        { l.data b with occupied := Function.update (l.data b).occupied i false })
      (fun _ _ => False) := by
  obtain ⟨bits, hreset, hlen, hbit⟩ := Bitmap.reset_eq (Nat.lt_of_lt_of_le hi (hl.le_bits_bytes b))
  rw [b.length_bytes hl.bitmap_le] at hlen
  refine (ends_updateBitmap hl hreset hlen).imp (fun _ b' h => h.trans ?_) fun _ _ h => h
  ext1
  case occupied =>
    funext j
    show (decide (j < l.recordsPerPage) && bits.bit j) = Function.update (l.data b).occupied i false j
    rw [hbit, Function.update_apply]
    by_cases hj : j = i
    · subst hj
      rw [if_pos rfl, decide_eq_false fun h : j ≠ j => h rfl, Bool.false_and, Bool.and_false]
    · rw [if_neg hj, decide_eq_true hj, Bool.true_and]
      rfl
  all_goals rfl

theorem ends_setSlot {i : Nat} (hi : i < l.recordsPerPage) {record : List UInt8}
    (hsize : record.length = l.recordSize) :
    Ends (l.setSlot i record) b
      (fun _ b' => l.data b' =
        { l.data b with slot := Function.update (l.data b).slot i record })
      (fun _ _ => False) := by
  have hle : l.slotOffset i + record.length ≤ blockSize := by
    rw [hsize]
    exact hl.slot_le hi
  rw [setSlot, ends_editReplace hsize hle]
  exact data_put_slot hl b hi hsize hle

/-- **An empty page** with a link. -/
theorem ends_init (next : Option Nat) :
    Ends (l.init next) b
      (fun _ b' => l.data b' = { l.data b with
        records := 0, next := storedLink next, occupied := fun _ => false })
      (fun _ _ => False) := by
  rw [init, ends_bind]
  refine (ends_setHeader hl _).imp (fun _ b₁ h₁ => ?_) fun _ _ h => h
  set zeros : Bitmap := List.replicate (b₁.bytes PageHeader.size l.bitmapSize).length 0
  have hlen : zeros.length = l.bitmapSize := by
    rw [List.length_replicate, b₁.length_bytes hl.bitmap_le]
  have hzeros : (fun bits : Bitmap => (.ok (List.replicate bits.length 0) : Except Overrun Bitmap))
      (b₁.bytes PageHeader.size l.bitmapSize) = .ok zeros := rfl
  refine (ends_updateBitmap hl hzeros hlen).imp (fun _ b' h => h.trans ?_) fun _ _ h => h
  rw [h₁]
  ext1
  case occupied =>
    funext j
    show (decide (j < l.recordsPerPage) && _) = false
    rw [Bitmap.bit_replicate_zero, Bool.and_false]
  all_goals rfl

end PageLayout

/-! ## Filling and vacating a slot -/

namespace PageData

/-- What a page of `n` slots says after a record is put into one of them. -/
def fill (d : PageData) (n slot : Nat) (record : List UInt8) : PageData where
  records := storedCount (d.records + 1)
  next := if d.records + 1 ≥ n then none else d.next
  occupied := Function.update d.occupied slot true
  slot := Function.update d.slot slot record

/-- What a page says after a slot is vacated. -/
def vacate (d : PageData) (slot : Nat) : PageData :=
  { d with records := d.records - 1, occupied := Function.update d.occupied slot false }

end PageData

namespace PageLayout

variable {l : PageLayout} {b : Block} (hl : l.Fits)

include hl

/-- **Filling a slot** tells whether the page is full now and which link it
had. -/
theorem ends_fillSlot {i : Nat} (hi : i < l.recordsPerPage) {record : List UInt8}
    (hsize : record.length = l.recordSize) :
    Ends (l.fillSlot i record) b
      (fun r b' => r = (decide ((l.data b).records + 1 ≥ l.recordsPerPage), (l.data b).next) ∧
        l.data b' = (l.data b).fill l.recordsPerPage i record)
      (fun _ _ => False) := by
  unfold fillSlot
  rw [ends_bind]
  refine (ends_setSlot hl hi hsize).imp (fun _ b₁ h₁ => ?_) fun _ _ h => h
  rw [ends_bind]
  refine (ends_setOccupied hl hi).imp (fun _ b₂ h₂ => ?_) fun _ _ h => h
  have hrecords : (l.data b₂).records = (l.data b).records := by rw [h₂, h₁]
  rw [ends_bind, ends_editView (decode_eq b₂ l), hrecords]
  dsimp only
  rw [ends_bind]
  refine (ends_setRecords hl _).imp (fun _ b₃ h₃ => ?_) fun _ _ h => h
  have hnext : (l.data b₃).next = (l.data b).next := by rw [h₃, h₂, h₁]
  rw [ends_bind, ends_editView (decode_eq b₃ l), hnext]
  dsimp only
  rw [ends_ite]
  refine ⟨fun hfull => ?_, fun hfree => ?_⟩
  · rw [ends_bind]
    refine (ends_setNext hl _).imp (fun _ b₄ h₄ => ?_) fun _ _ h => h
    refine ends_pure.mpr ⟨rfl, ?_⟩
    rw [h₄, h₃, h₂, h₁, PageData.fill, if_pos hfull]
    rfl
  · refine ends_pure.mpr ⟨rfl, ?_⟩
    rw [h₃, h₂, h₁, PageData.fill, if_neg hfree]

theorem ends_vacateSlot {i : Nat} (hi : i < l.recordsPerPage) :
    Ends (l.vacateSlot i) b (fun _ b' => l.data b' = (l.data b).vacate i)
      (fun _ _ => False) := by
  unfold vacateSlot
  rw [ends_bind]
  refine (ends_clearOccupied hl hi).imp (fun _ b₁ h₁ => ?_) fun _ _ h => h
  have hrecords : (l.data b₁).records = (l.data b).records := by rw [h₁]
  rw [ends_bind, ends_editView (decode_eq b₁ l), hrecords]
  refine (ends_setRecords hl _).imp (fun _ b₂ h₂ => ?_) fun _ _ h => h
  have hlt : (l.data b).records - 1 < widthLimit 4 :=
    Nat.lt_of_le_of_lt (Nat.sub_le _ _) (records_lt b l)
  rw [h₂, h₁, storedCount_of_lt hlt]
  rfl

end PageLayout

end SlottedFile
