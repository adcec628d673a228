import SlottedFile.Proofs.Page.Data

/-!
# What nobody reads in a page

A page has more bytes than what it says takes up. There are bits behind the one that belongs
to the last slot, and bytes behind that slot itself (`PageLayout.margin`). Nobody looks at
them, and they hold whatever they held when the page came to the file.

What is done with records leaves them alone (`PageLayout.Spares`). That is why a page can be
told byte for byte from what it says (`PageLayout.Fits.eq_of_data_eq`), as long as it is
known from which page it came.
-/

namespace SlottedFile

theorem Buffer.getElem_eq_of_bytes {n : Nat} {b b' : Buffer n} {off len i : Nat}
    (h : b.bytes off len = b'.bytes off len) (hle : off + len ≤ n) (hoff : off ≤ i)
    (hlt : i < off + len) (hi : i < n) : b[i] = b'[i] := by
  obtain ⟨j, rfl⟩ := Nat.exists_eq_add_of_le hoff
  have hj : j < (b.bytes off len).length := by
    rw [b.length_bytes hle]
    omega
  have hj' : j < (b'.bytes off len).length := h ▸ hj
  rw [← b.getElem_bytes hle hj hi, ← b'.getElem_bytes hle hj' hi]
  exact List.getElem_of_eq h hj

/-- **What a page header says is written as it was read.** -/
theorem PageHeader.encode_ofBytes {bytes : List UInt8} (h : bytes.length = size) :
    (ofBytes bytes).encode = bytes := by
  have htake : (bytes.take 4).length = 4 := by
    rw [List.length_take, h]
    rfl
  have hdrop : (bytes.drop 4).length = 4 := by
    rw [List.length_drop, h]
    rfl
  have hrecords := toLE_ofLE (bytes.take 4)
  have hnext := toLE_ofLE (bytes.drop 4)
  rw [htake] at hrecords
  rw [hdrop] at hnext
  unfold encode ofBytes linkBytes
  dsimp only
  rw [getD_linkOfWord, hrecords, hnext, List.take_append_drop]

/-- **What a page has beside what it says.** -/
@[ext] structure PageMargin where
  /-- The bits that belong to no slot. -/
  bits : Nat → Bool
  /-- The bytes behind the last slot. -/
  tail : List UInt8

namespace PageLayout

/-- What a page has beside what it says. -/
def margin (l : PageLayout) (b : Block) : PageMargin where
  bits := fun i => decide (l.recordsPerPage ≤ i) && Bitmap.bit (b.bytes PageHeader.size l.bitmapSize) i
  tail := b.bytes (l.slotOffset l.recordsPerPage) (blockSize - l.slotOffset l.recordsPerPage)

/-- **An edit that spares the margin** of every page. -/
def Spares {α : Type} (l : PageLayout) (e : Buffer.Edit blockSize α) : Prop :=
  ∀ b, Ends e b (fun _ b' => l.margin b' = l.margin b) (fun _ _ => True)

variable {α β : Type} {l : PageLayout} {b b' : Block}

theorem Spares.of_ok {e : Buffer.Edit blockSize α} {a : α} (h : l.Spares e) (he : e b = .ok a b') :
    l.margin b' = l.margin b :=
  (h b).of_ok he

/-! ## Pages with the same margin -/

namespace Fits

variable (hl : l.Fits)

include hl

theorem margin_le : l.slotOffset l.recordsPerPage ≤ blockSize := hl.room

/-- **A page is what it says and its margin.** -/
theorem eq_of_data_eq (hdata : l.data b = l.data b') (hmargin : l.margin b = l.margin b') :
    b = b' := by
  have hhead : b.bytes 0 PageHeader.size = b'.bytes 0 PageHeader.size := by
    have hsame : PageHeader.ofBytes (b.bytes 0 PageHeader.size) =
        PageHeader.ofBytes (b'.bytes 0 PageHeader.size) :=
      congrArg (fun d : PageData => (⟨d.records, d.next⟩ : PageHeader)) hdata
    rw [← PageHeader.encode_ofBytes (b.length_bytes (by decide)), hsame,
      PageHeader.encode_ofBytes (b'.length_bytes (by decide))]
  have hbits : b.bytes PageHeader.size l.bitmapSize = b'.bytes PageHeader.size l.bitmapSize := by
    refine Bitmap.eq_of_bit_eq ?_ fun i => ?_
    · rw [b.length_bytes hl.bitmap_le, b'.length_bytes hl.bitmap_le]
    · by_cases hi : i < l.recordsPerPage
      · rw [← occupied_data hi, ← occupied_data hi, hdata]
      · have hbit : (decide (l.recordsPerPage ≤ i) && _) = (decide (l.recordsPerPage ≤ i) && _) :=
          congrArg (fun m : PageMargin => m.bits i) hmargin
        rwa [decide_eq_true (Nat.not_lt.1 hi), Bool.true_and, Bool.true_and] at hbit
  have hslot : ∀ i, i < l.recordsPerPage →
      b.bytes (l.slotOffset i) l.recordSize = b'.bytes (l.slotOffset i) l.recordSize := by
    intro i hi
    rw [← slot_data hi, ← slot_data hi, hdata]
  have htail := congrArg PageMargin.tail hmargin
  have hend : l.slotOffset l.recordsPerPage =
      PageHeader.size + l.bitmapSize + l.recordsPerPage * l.recordSize := rfl
  refine Vector.ext fun i hi => ?_
  rcases Nat.lt_or_ge i PageHeader.size with h | h
  · exact Buffer.getElem_eq_of_bytes hhead (by decide) (Nat.zero_le i) (by omega) hi
  rcases Nat.lt_or_ge i (PageHeader.size + l.bitmapSize) with h' | h'
  · exact Buffer.getElem_eq_of_bytes hbits hl.bitmap_le h h' hi
  rcases Nat.lt_or_ge i (l.slotOffset l.recordsPerPage) with h'' | h''
  · -- the byte lies in the slot that its distance from the first one tells
    obtain ⟨d, rfl⟩ := Nat.exists_eq_add_of_le h'
    have hd : d < l.recordsPerPage * l.recordSize := by omega
    have hpos : 0 < l.recordSize := by
      rcases Nat.eq_zero_or_pos l.recordSize with hzero | hpos
      · rw [hzero] at hd
        exact absurd hd (Nat.not_lt_zero d)
      · exact hpos
    have hnumber : d / l.recordSize < l.recordsPerPage := Nat.div_lt_of_lt_mul (by
      rwa [Nat.mul_comm])
    have hsum := Nat.div_add_mod d l.recordSize
    have hmod := Nat.mod_lt d hpos
    rw [Nat.mul_comm] at hsum
    have hoffset : l.slotOffset (d / l.recordSize) =
      PageHeader.size + l.bitmapSize + d / l.recordSize * l.recordSize := rfl
    exact Buffer.getElem_eq_of_bytes (hslot _ hnumber) (hl.slot_le hnumber) (by omega) (by omega) hi
  · have hle := hl.margin_le
    exact Buffer.getElem_eq_of_bytes htail (by omega) h'' (by omega) hi

/-! ## Writing to one range -/

theorem margin_put_header (b : Block) {bytes : List UInt8} (hsize : bytes.length = PageHeader.size)
    (hle : 0 + bytes.length ≤ blockSize) : l.margin (b.put 0 bytes hle) = l.margin b := by
  have hmargin := hl.margin_le
  ext1
  case bits =>
    funext i
    unfold margin
    dsimp only
    rw [b.bytes_put_of_disjoint hle hl.bitmap_le (.inr (by rw [hsize, Nat.zero_add]))]
  case tail =>
    refine b.bytes_put_of_disjoint hle (by omega) (.inr ?_)
    rw [hsize, slotOffset]
    omega

theorem margin_put_bitmap (b : Block) {bits : Bitmap} (hsize : bits.length = l.bitmapSize)
    (hle : PageHeader.size + bits.length ≤ blockSize)
    (hbits : ∀ i, l.recordsPerPage ≤ i →
      bits.bit i = Bitmap.bit (b.bytes PageHeader.size l.bitmapSize) i) :
    l.margin (b.put PageHeader.size bits hle) = l.margin b := by
  have hmargin := hl.margin_le
  have hself : (b.put PageHeader.size bits hle).bytes PageHeader.size l.bitmapSize = bits := by
    rw [← hsize]
    exact b.bytes_put_self hle
  ext1
  case bits =>
    funext i
    unfold margin
    dsimp only
    rw [hself]
    by_cases hi : l.recordsPerPage ≤ i
    · rw [hbits i hi]
    · rw [decide_eq_false hi, Bool.false_and, Bool.false_and]
  case tail =>
    refine b.bytes_put_of_disjoint hle (by omega) (.inr ?_)
    rw [hsize, slotOffset]
    omega

theorem margin_put_slot (b : Block) {i : Nat} (hi : i < l.recordsPerPage) {record : List UInt8}
    (hsize : record.length = l.recordSize) (hle : l.slotOffset i + record.length ≤ blockSize) :
    l.margin (b.put (l.slotOffset i) record hle) = l.margin b := by
  have hmargin := hl.margin_le
  have hbehind : l.slotOffset i + l.recordSize ≤ l.slotOffset l.recordsPerPage := by
    have hmul : (i + 1) * l.recordSize ≤ l.recordsPerPage * l.recordSize :=
      Nat.mul_le_mul_right _ hi
    rw [Nat.succ_mul] at hmul
    unfold slotOffset
    omega
  ext1
  case bits =>
    funext j
    unfold margin
    dsimp only
    rw [b.bytes_put_of_disjoint hle hl.bitmap_le (.inl (by rw [slotOffset]; omega))]
  case tail =>
    refine b.bytes_put_of_disjoint hle (by omega) (.inr ?_)
    rw [hsize]
    exact hbehind

end Fits

/-! ## The edits of a page -/

theorem Spares.bind {e : Buffer.Edit blockSize β} {f : β → Buffer.Edit blockSize α}
    (he : l.Spares e) (hf : ∀ a, l.Spares (f a)) : l.Spares (e >>= f) := by
  intro b
  refine Ends.bind (he b) fun a b₁ h => ?_
  exact (hf a b₁).imp (fun _ _ h' => h'.trans h) fun _ _ h => h

theorem spares_pure (a : α) : l.Spares (pure a) := fun _ => rfl

/-- What is looked at is left alone. -/
theorem ends_view (f : Block → Except Overrun α) (b : Block) :
    Ends (Buffer.Edit.view f) b (fun a b' => b' = b ∧ f b = .ok a) (fun _ _ => True) := by
  unfold Ends Buffer.Edit.view
  cases f b with
  | ok a => exact ⟨rfl, rfl⟩
  | error o => trivial

theorem spares_view (f : Block → Except Overrun α) : l.Spares (Buffer.Edit.view f) :=
  fun b => (ends_view f b).imp (fun _ _ h => congrArg l.margin h.1) fun _ _ h => h

theorem spares_replace {off len : Nat} {bytes : List UInt8}
    (h : ∀ (b : Block) (hle : off + bytes.length ≤ blockSize), bytes.length = len →
      l.margin (b.put off bytes hle) = l.margin b) :
    l.Spares (Buffer.Edit.replace off len bytes) := by
  refine fun b => (ends_view _ b).bind ?_
  rintro old b' ⟨heq, hslice⟩
  rw [← heq] at hslice ⊢
  refine ends_ite.mpr ⟨fun hlen => ?_, fun _ => trivial⟩
  have hlen' : bytes.length = len := hlen.trans (Buffer.length_slice hslice)
  have hle : off + bytes.length ≤ blockSize := by
    rw [hlen']
    exact Buffer.slice_eq_ok_iff.mp ⟨old, hslice⟩
  exact (ends_editWrite hle).mpr (h b' hle hlen')

variable (hl : l.Fits)

include hl

theorem spares_updateHeader (f : PageHeader → PageHeader) : l.Spares (updateHeader f) :=
  (spares_view _).bind fun _ => spares_replace fun b hle hsize => hl.margin_put_header b hsize hle

theorem spares_setNext (next : Option Nat) : l.Spares (setNext next) := spares_updateHeader hl _

theorem spares_setRecords (records : Nat) : l.Spares (setRecords records) := spares_updateHeader hl _

/-- **A bitmap that is changed** in the bits of the slots only. -/
theorem spares_updateBitmap {f : Bitmap → Except Overrun Bitmap}
    (hf : ∀ bits : Bitmap, l.recordsPerPage ≤ 8 * bits.length → ∃ bits', f bits = .ok bits' ∧
      bits'.length = bits.length ∧ ∀ i, l.recordsPerPage ≤ i → bits'.bit i = bits.bit i) :
    l.Spares (l.updateBitmap f) := by
  intro b
  obtain ⟨bits, hbits, hlen, hbit⟩ := hf _ (hl.le_bits_bytes b)
  rw [b.length_bytes hl.bitmap_le] at hlen
  have hview : (l.bitmap b).bind f = .ok bits := by
    rw [bitmap_eq hl]
    exact hbits
  have hle : PageHeader.size + bits.length ≤ blockSize := by
    rw [hlen]
    exact hl.bitmap_le
  rw [updateBitmap, ends_bind, ends_editView hview, ends_editWrite hle]
  exact hl.margin_put_bitmap b hlen hle hbit

theorem spares_setOccupied {i : Nat} (hi : i < l.recordsPerPage) : l.Spares (l.setOccupied i) := by
  refine spares_updateBitmap hl fun bits hbits => ?_
  obtain ⟨bits', hset, hlen, hbit⟩ := Bitmap.set_eq (Nat.lt_of_lt_of_le hi hbits)
  refine ⟨bits', hset, hlen, fun j hj => ?_⟩
  have hne : j ≠ i := by omega
  rw [hbit, decide_eq_false hne, Bool.false_or]

theorem spares_clearOccupied {i : Nat} (hi : i < l.recordsPerPage) :
    l.Spares (l.clearOccupied i) := by
  refine spares_updateBitmap hl fun bits hbits => ?_
  obtain ⟨bits', hreset, hlen, hbit⟩ := Bitmap.reset_eq (Nat.lt_of_lt_of_le hi hbits)
  refine ⟨bits', hreset, hlen, fun j hj => ?_⟩
  have hne : j ≠ i := by omega
  rw [hbit, decide_eq_true hne, Bool.true_and]

theorem spares_setSlot {i : Nat} (hi : i < l.recordsPerPage) (record : List UInt8) :
    l.Spares (l.setSlot i record) :=
  spares_replace fun b hle hsize => hl.margin_put_slot b hi hsize hle

/-- **Filling a slot** spares the margin, -/
theorem spares_fillSlot {i : Nat} (hi : i < l.recordsPerPage) (record : List UInt8) :
    l.Spares (l.fillSlot i record) := by
  refine (spares_setSlot hl hi record).bind fun _ => (spares_setOccupied hl hi).bind fun _ =>
    (spares_view _).bind fun _ => (spares_setRecords hl _).bind fun _ => (spares_view _).bind
    fun _ => ?_
  dsimp only
  split
  · exact (spares_setNext hl none).bind fun _ => spares_pure _
  · exact spares_pure _

/-- and so does vacating one. -/
theorem spares_vacateSlot {i : Nat} (hi : i < l.recordsPerPage) : l.Spares (l.vacateSlot i) :=
  (spares_clearOccupied hl hi).bind fun _ => (spares_view _).bind fun _ => spares_setRecords hl _

end PageLayout

end SlottedFile
