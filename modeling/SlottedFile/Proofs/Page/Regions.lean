import Mathlib.Data.Set.Pairwise.Lattice
import Mathlib.Order.CompletePartialOrder
import Mathlib.Order.Interval.Set.LinearOrder
import SlottedFile.Proofs.FileHeader
import SlottedFile.Proofs.Page.Margin

/-!
# The regions of a page

A page is cut into its header, its bitmap and its slots (`PageLayout.Region`). In the pages
of every file that can be created or opened these are apart from each other and inside the
page, and a file cannot be created with more slots than there are: one slot more than
`FileHeader.maxRecordsPerPage` would stand out of the page, with its own bit and all.

From the first half follow the laws of reading and writing. What a page says is what the
questions about it are answered with (`PageLayout.Shows`), and every edit turns it into what
it was with one thing changed (`PageLayout.Turns`), whatever the bytes of the page are. The
bits are the part that needs care, since eight slots share a byte of the bitmap.
-/

namespace SlottedFile

/-! ## How tightly the slots are packed -/

/-- **One slot more than the most there are does not fit**, if its bit is counted as well.
The maximum is a quotient of bits, and the bitmap is rounded up to bytes, which only makes
the page fuller. -/
theorem FileHeader.no_room_beyond_max {recordSize : Nat} (hpos : 1 ≤ recordSize)
    (hle : recordSize ≤ blockSize) :
    blockSize < PageHeader.size + Bitmap.bytesFor (maxRecordsPerPage recordSize + 1) +
      (maxRecordsPerPage recordSize + 1) * recordSize := by
  have hmax : maxRecordsPerPage recordSize =
      (blockSize - PageHeader.size) * 8 / (1 + recordSize * 8) := by
    unfold maxRecordsPerPage
    rw [if_neg (by omega)]
  set slots := maxRecordsPerPage recordSize + 1
  have hmore : (blockSize - PageHeader.size) * 8 < slots * (1 + recordSize * 8) := by
    rw [← Nat.div_lt_iff_lt_mul (by omega), ← hmax]
    exact Nat.lt_succ_self _
  rw [Nat.mul_add, Nat.mul_one, ← Nat.mul_assoc] at hmore
  have hsize : PageHeader.size = 8 := rfl
  have hblock : blockSize = 8192 := rfl
  unfold Bitmap.bytesFor
  omega

/-- **A header that a file can have**: made from options, or read from bytes. -/
inductive FileHeader.Accepted : FileHeader → Prop where
  | created {options : FileOptions} {h : FileHeader} : create options = .ok h → Accepted h
  | decoded {data : List UInt8} {h : FileHeader} : decode data = .ok h → Accepted h

theorem FileHeader.Accepted.fits {h : FileHeader} (haccepted : h.Accepted) : h.layout.Fits :=
  match haccepted with
  | .created hcreate => fits_of_flaw (flaw_of_create hcreate).1
  | .decoded hdecode => fits_of_flaw (flaw_of_decode hdecode)

namespace PageLayout

/-! ## Three kinds of regions -/

/-- **The regions of a page.** -/
inductive Region (l : PageLayout) where
  | header
  | bitmap
  | slot (i : Fin l.recordsPerPage)

namespace Region

variable {l : PageLayout}

/-- Where a region begins. -/
def start : l.Region → Nat
  | header => 0
  | bitmap => PageHeader.size
  | slot i => l.slotOffset i

/-- How many bytes a region has. -/
def length : l.Region → Nat
  | header => PageHeader.size
  | bitmap => l.bitmapSize
  | slot _ => l.recordSize

/-- The positions of the bytes of a region. -/
def range (r : l.Region) : Set Nat := Set.Ico r.start (r.start + r.length)

/-- Of two regions one lies behind the other. -/
theorem apart {r r' : l.Region} (hne : r ≠ r') :
    r.start + r.length ≤ r'.start ∨ r'.start + r'.length ≤ r.start := by
  have hheader : ∀ r'' : l.Region, r'' ≠ header → PageHeader.size ≤ r''.start := by
    rintro (_ | _ | i) h
    · exact absurd rfl h
    · exact Nat.le_refl _
    · exact Nat.le_trans (Nat.le_add_right _ _) (Nat.le_add_right _ _)
  have hslot : ∀ i, PageHeader.size + l.bitmapSize ≤ (slot i : l.Region).start := fun i =>
    Nat.le_add_right _ _
  cases r with
  | header => exact .inl ((Nat.zero_add _).le.trans (hheader r' hne.symm))
  | bitmap =>
    cases r' with
    | header => exact .inr ((Nat.zero_add _).le.trans (hheader bitmap hne))
    | bitmap => exact absurd rfl hne
    | slot j => exact .inl (hslot j)
  | slot i =>
    cases r' with
    | header => exact .inr ((Nat.zero_add _).le.trans (hheader (slot i) hne))
    | bitmap => exact .inr (hslot i)
    | slot j =>
      have hij : j.val ≠ i.val := fun h => hne (congrArg slot (Fin.ext h.symm))
      exact l.slot_disjoint hij

theorem pairwise_disjoint : Pairwise (Function.onFun Disjoint (range (l := l))) := by
  intro r r' hne
  refine Set.disjoint_left.mpr fun k hk hk' => ?_
  have hk := Set.mem_Ico.mp hk
  have hk' := Set.mem_Ico.mp hk'
  rcases apart hne with h | h <;> omega

end Region

theorem Fits.range_subset {l : PageLayout} (hl : l.Fits) (r : l.Region) :
    r.range ⊆ Set.Iio blockSize := by
  intro k hk
  have hk := (Set.mem_Ico.mp hk).2
  refine Set.mem_Iio.mpr (Nat.lt_of_lt_of_le hk ?_)
  cases r with
  | header => exact (show PageHeader.size ≤ blockSize by decide)
  | bitmap => exact hl.bitmap_le
  | slot i => exact hl.slot_le i.isLt

/-! ## Edits that stay in their regions -/

/-- **An edit that stays in a set of positions**: what it does to a page leaves the bytes
everywhere else. -/
def Stays {α : Type} (e : Buffer.Edit blockSize α) (within : Set Nat) : Prop :=
  ∀ b : Block, Ends e b
    (fun _ b' => ∀ k (hk : k < blockSize), k ∉ within → b'[k] = b[k]) (fun _ _ => True)

section Stays

variable {α β : Type} {within : Set Nat}

theorem Stays.mono {within' : Set Nat} {e : Buffer.Edit blockSize α} (he : Stays e within)
    (h : within ⊆ within') : Stays e within' :=
  fun b => (he b).imp (fun _ _ hsame k hk hout => hsame k hk fun hin => hout (h hin)) fun _ _ h => h

theorem Stays.bind {e : Buffer.Edit blockSize β} {f : β → Buffer.Edit blockSize α}
    (he : Stays e within) (hf : ∀ a, Stays (f a) within) : Stays (e >>= f) within := by
  intro b
  refine Ends.bind (he b) fun a b₁ h => ?_
  exact (hf a b₁).imp (fun _ _ h' k hk hout => (h' k hk hout).trans (h k hk hout)) fun _ _ h => h

theorem stays_view (f : Block → Except Overrun α) : Stays (Buffer.Edit.view f) within := by
  refine fun b => (ends_view f b).imp (fun _ b' h k hk _ => ?_) fun _ _ h => h
  rw [h.1]

theorem stays_write (off : Nat) (bytes : List UInt8) :
    Stays (Buffer.Edit.write off bytes) (Set.Ico off (off + bytes.length)) := by
  intro b
  by_cases hle : off + bytes.length ≤ blockSize
  · refine (ends_editWrite hle).mpr fun k hk hout => ?_
    rw [Buffer.getElem_put, if_neg fun hin => hout (Set.mem_Ico.mpr hin)]
  · unfold Ends Buffer.Edit.write Buffer.write
    rw [dif_neg hle]
    trivial

theorem stays_replace (off len : Nat) (bytes : List UInt8) :
    Stays (Buffer.Edit.replace off len bytes) (Set.Ico off (off + len)) := by
  refine fun b => (ends_view _ b).bind ?_
  rintro old b' ⟨heq, hslice⟩
  rw [← heq]
  refine ends_ite.mpr ⟨fun hlen => ?_, fun _ => trivial⟩
  rw [← Buffer.length_slice hslice, ← hlen]
  exact stays_write off bytes b'

variable {l : PageLayout}

theorem stays_updateHeader (f : PageHeader → PageHeader) :
    Stays (updateHeader f) (Region.header : l.Region).range :=
  (stays_view _).bind fun _ => stays_replace 0 PageHeader.size _

/-- A bitmap that keeps its length is written back to where it was read from. -/
theorem Fits.stays_updateBitmap (hl : l.Fits) {f : Bitmap → Except Overrun Bitmap}
    (hf : ∀ bits bits', f bits = .ok bits' → bits'.length = bits.length) :
    Stays (l.updateBitmap f) (Region.bitmap : l.Region).range := by
  refine fun b => (ends_view _ b).bind ?_
  rintro bits b' ⟨rfl, hbits⟩
  rw [bitmap_eq hl] at hbits
  have hlen := hf _ _ hbits
  rw [b'.length_bytes hl.bitmap_le] at hlen
  have hstays := stays_write PageHeader.size bits b'
  rwa [hlen] at hstays

end Stays

/-! ## What the questions about a page are answered with -/

/-- **What a page shows**: the answers to everything that can be asked of it. The searches and
the count are told by the bits. -/
structure Shows (l : PageLayout) (b : Block) (d : PageData) : Prop where
  header : PageHeader.decode b = .ok ⟨d.records, d.next⟩
  isOccupied : ∀ j < l.recordsPerPage, l.isOccupied b j = .ok (d.occupied j)
  slot : ∀ j < l.recordsPerPage, PageLayout.slot l b j = .ok (d.slot j)
  firstFree : l.firstFreeSlot b =
    .ok ((List.range l.recordsPerPage).find? fun j => !d.occupied j)
  nextOccupied : ∀ j, l.nextOccupied b j =
    .ok ((List.range' j (l.recordsPerPage - j)).find? d.occupied)
  count : l.occupiedCount b = .ok ((List.range l.recordsPerPage).countP d.occupied)
  full : l.isFull b = .ok (decide (d.records ≥ l.recordsPerPage))

/-- **An edit that turns a page into one that shows something else**, and touches nothing but
the positions it is given. -/
def Turns (l : PageLayout) (e : Buffer.Edit blockSize Unit) (b : Block) (within : Set Nat)
    (d : PageData) : Prop :=
  ∃ b', e b = .ok () b' ∧ l.Shows b' d ∧ ∀ k (hk : k < blockSize), k ∉ within → b'[k] = b[k]

/-- **The laws of reading and writing** a page that shows something: every edit changes its own
part of that, and its own region. -/
structure Laws (l : PageLayout) (b : Block) (d : PageData) : Prop where
  setSlot : ∀ (i : Fin l.recordsPerPage) (record : List UInt8), record.length = l.recordSize →
    l.Turns (l.setSlot i record) b (Region.slot i).range
      { d with slot := Function.update d.slot i record }
  setOccupied : ∀ i : Fin l.recordsPerPage,
    l.Turns (l.setOccupied i) b (Region.bitmap : l.Region).range
      { d with occupied := Function.update d.occupied i true }
  clearOccupied : ∀ i : Fin l.recordsPerPage,
    l.Turns (l.clearOccupied i) b (Region.bitmap : l.Region).range
      { d with occupied := Function.update d.occupied i false }
  setRecords : ∀ n < 0x100000000,
    l.Turns (PageLayout.setRecords n) b (Region.header : l.Region).range { d with records := n }
  setNext : ∀ next : Option Nat, (∀ p ∈ next, p < 0xFFFFFFFF) →
    l.Turns (PageLayout.setNext next) b (Region.header : l.Region).range { d with next }
  init : ∀ next : Option Nat, (∀ p ∈ next, p < 0xFFFFFFFF) →
    l.Turns (l.init next) b ((Region.header : l.Region).range ∪ (Region.bitmap : l.Region).range)
      { d with records := 0, next, occupied := fun _ => false }
  countUp : ∀ i < l.recordsPerPage, l.isOccupied b i = .ok false →
    ∃ b' n, l.setOccupied i b = .ok () b' ∧ l.occupiedCount b = .ok n ∧
      l.occupiedCount b' = .ok (n + 1)
  countDown : ∀ i < l.recordsPerPage, l.isOccupied b i = .ok true →
    ∃ b' n, l.clearOccupied i b = .ok () b' ∧ l.occupiedCount b = .ok (n + 1) ∧
      l.occupiedCount b' = .ok n

/-- Setting the bit of a free slot makes one more. -/
theorem countP_update {occupied : Nat → Bool} {i n : Nat} (hi : i < n)
    (hfree : occupied i = false) :
    (List.range n).countP (Function.update occupied i true) =
      (List.range n).countP occupied + 1 := by
  obtain ⟨before, behind, hsplit⟩ := List.append_of_mem (List.mem_range.mpr hi)
  have hnodup : (before ++ i :: behind).Nodup := hsplit ▸ List.nodup_range
  have hnotmem : i ∉ before ++ behind := (List.nodup_cons.mp (List.perm_middle.nodup_iff.mp hnodup)).1
  have helse : ∀ j ∈ before ++ behind, Function.update occupied i true j = occupied j :=
    fun j hj => Function.update_of_ne (ne_of_mem_of_not_mem hj hnotmem) _ _
  have hbefore : before.countP (Function.update occupied i true) = before.countP occupied :=
    List.countP_congr fun j hj => by rw [helse j (List.mem_append_left _ hj)]
  have hbehind : behind.countP (Function.update occupied i true) = behind.countP occupied :=
    List.countP_congr fun j hj => by rw [helse j (List.mem_append_right _ hj)]
  rw [hsplit, List.countP_append, List.countP_append, List.countP_cons_of_pos,
    List.countP_cons_of_neg, hbefore, hbehind, Nat.add_assoc]
  · rw [hfree]
    exact Bool.false_ne_true
  · exact Function.update_self i true occupied

namespace Fits

variable {l : PageLayout} (hl : l.Fits) (b : Block)

include hl

theorem shows_data : l.Shows b (l.data b) where
  header := decode_eq b l
  isOccupied _ hj := isOccupied_eq hl hj
  slot _ hj := slot_eq hl hj
  firstFree := firstFreeSlot_eq hl b
  nextOccupied := nextOccupied_eq hl b
  count := occupiedCount_eq hl b
  full := isFull_eq b

variable {b}

/-- An edit is told by what the page says after it and by where it stays. -/
theorem turns {e : Buffer.Edit blockSize Unit} {within : Set Nat} {d : PageData}
    (hdata : Ends e b (fun _ b' => l.data b' = d) fun _ _ => False) (hstays : Stays e within) :
    l.Turns e b within d := by
  obtain ⟨_, b', hok, rfl⟩ := hdata.exists_ok
  exact ⟨b', hok, hl.shows_data b', (hstays b).of_ok hok⟩

variable (b)

theorem stays_setOccupied (i : Nat) :
    Stays (l.setOccupied i) (Region.bitmap : l.Region).range := by
  refine hl.stays_updateBitmap fun bits bits' h => ?_
  unfold Bitmap.set at h
  split at h
  · cases h
    exact List.length_set
  · cases h

theorem stays_clearOccupied (i : Nat) :
    Stays (l.clearOccupied i) (Region.bitmap : l.Region).range := by
  refine hl.stays_updateBitmap fun bits bits' h => ?_
  unfold Bitmap.reset at h
  split at h
  · cases h
    exact List.length_set
  · cases h

theorem stays_init (next : Option Nat) :
    Stays (l.init next) ((Region.header : l.Region).range ∪ (Region.bitmap : l.Region).range) := by
  refine Stays.bind ((stays_replace 0 PageHeader.size _).mono Set.subset_union_left) fun _ => ?_
  refine (hl.stays_updateBitmap fun bits bits' h => ?_).mono Set.subset_union_right
  cases h
  exact List.length_replicate

/-- **Every edit of a page keeps to its part.** -/
theorem laws : l.Laws b (l.data b) where
  setSlot i record hsize := hl.turns (ends_setSlot hl i.isLt hsize) (stays_replace _ _ _)
  setOccupied i := hl.turns (ends_setOccupied hl i.isLt) (hl.stays_setOccupied i)
  clearOccupied i := hl.turns (ends_clearOccupied hl i.isLt) (hl.stays_clearOccupied i)
  setRecords n hn := by
    refine hl.turns ((ends_setRecords hl n).imp (fun _ b' h => ?_) fun _ _ h => h)
      (stays_updateHeader _)
    rw [h, storedCount_of_lt hn]
  setNext next hnext := by
    refine hl.turns ((ends_setNext hl next).imp (fun _ b' h => ?_) fun _ _ h => h)
      (stays_updateHeader _)
    rw [h, storedLink_of_lt hnext]
  init next hnext := by
    refine hl.turns ((ends_init hl next).imp (fun _ b' h => ?_) fun _ _ h => h)
      (hl.stays_init next)
    rw [h, storedLink_of_lt hnext]
  countUp i hi hfree := by
    have hfree : (l.data b).occupied i = false :=
      Except.ok.inj ((isOccupied_eq hl hi).symm.trans hfree)
    obtain ⟨_, b', hok, hdata⟩ := (ends_setOccupied hl (b := b) hi).exists_ok
    refine ⟨b', _, hok, occupiedCount_eq hl b, ?_⟩
    rw [occupiedCount_eq hl b', hdata, countP_update hi hfree]
  countDown i hi hset := by
    have hset : (l.data b).occupied i = true :=
      Except.ok.inj ((isOccupied_eq hl hi).symm.trans hset)
    obtain ⟨_, b', hok, hdata⟩ := (ends_clearOccupied hl (b := b) hi).exists_ok
    have hfree : (l.data b').occupied i = false := by
      rw [hdata]
      show Function.update (l.data b).occupied i false i = false
      rw [Function.update_self]
    -- the bits before are those after with this one set again
    have hback : (l.data b).occupied = Function.update (l.data b').occupied i true := by
      rw [hdata, Function.update_idem, ← hset, Function.update_eq_self]
    refine ⟨b', _, hok, ?_, occupiedCount_eq hl b'⟩
    rw [occupiedCount_eq hl b, hback, countP_update hi hfree]

end Fits

end PageLayout

/-- **The layout of a page is tight, and its regions are independent.** No page has room for
one slot more than the most there are. In the pages of every file the regions are apart and
inside the page, and every page, whatever its bytes are, shows something that every edit
changes in its own part only. -/
theorem FileHeader.layout_tight_and_independent :
    (∀ recordSize, 1 ≤ recordSize → recordSize ≤ 8192 →
      8192 < PageHeader.size + Bitmap.bytesFor (maxRecordsPerPage recordSize + 1) +
        (maxRecordsPerPage recordSize + 1) * recordSize) ∧
    ∀ h : FileHeader, h.Accepted →
      Pairwise (Function.onFun Disjoint (PageLayout.Region.range (l := h.layout))) ∧
      (∀ r : h.layout.Region, r.range ⊆ Set.Iio 8192) ∧
      ∀ b : Block, ∃ d : PageData, h.layout.Shows b d ∧ h.layout.Laws b d :=
  ⟨fun _ hpos hle => no_room_beyond_max hpos hle, fun _ haccepted =>
    ⟨PageLayout.Region.pairwise_disjoint, haccepted.fits.range_subset, fun b =>
      ⟨_, haccepted.fits.shows_data b, haccepted.fits.laws b⟩⟩⟩

/-- In a file with records of eleven bytes the most slots a page can have are 735. -/
theorem FileHeader.layout_tight_and_independent_eleven :
    ∃ h : FileHeader, create ⟨11, none⟩ = .ok h ∧ h.recordsPerPage = 735 ∧
      8192 < PageHeader.size + Bitmap.bytesFor 736 + 736 * 11 ∧
      (∀ r : h.layout.Region, r.range ⊆ Set.Iio 8192) ∧
      ∀ b : Block, ∃ d : PageData, h.layout.Shows b d ∧ h.layout.Laws b d := by
  obtain ⟨htight, hapart⟩ := layout_tight_and_independent
  obtain ⟨-, hinside, hlaws⟩ := hapart ⟨11, 735, 0, 92, none⟩
    (.created (show create ⟨11, none⟩ = .ok _ from rfl))
  exact ⟨_, rfl, rfl, htight 11 (by decide) (by decide), hinside, hlaws⟩

end SlottedFile
