import SlottedFile.Proofs.FileHeader
import SlottedFile.Proofs.Keyed.Store
import SlottedFile.Proofs.Plain.FreeList

/-!
# The keyed store that a file represents

A plain file represents a keyed store (`Represents`) if its pages hold the records
of the store and nothing else, every page counts them right, and the free list
leads through the pages of the store's list in their order. The first half
(`Shows`) says nothing of links and the second nothing of records, so that what
an operation does to the slots of a page and what it does to the free list can be
accounted for one after the other.

Below, each change of the store is matched by the change of the file that makes
it.
-/

namespace SlottedFile

namespace PlainFile

variable {p : PlainFile}

/-- The record at a place, if there is one. -/
def record? (p : PlainFile) (id : RecordId) : Option (List UInt8) :=
  if id.page < p.header.pages ∧ (p.data id.page).occupied id.slot = true then
    some ((p.data id.page).slot id.slot)
  else none

/-- There is a record at the occupied places. -/
theorem isSome_record? {id : RecordId} (hpage : id.page < p.header.pages) :
    (p.record? id).isSome = (p.data id.page).occupied id.slot := by
  unfold record?
  cases (p.data id.page).occupied id.slot with
  | true => rw [if_pos ⟨hpage, rfl⟩]; rfl
  | false => rw [if_neg fun hboth => Bool.false_ne_true hboth.2]; rfl

/-- Only the slots that there are can be occupied. -/
theorem slot_lt_of_occupied {page slot : Nat} (h : (p.data page).occupied slot = true) :
    slot < p.header.recordsPerPage := by
  have hbits : (decide (slot < p.layout.recordsPerPage) && _) = true := h
  rw [Bool.and_eq_true] at hbits
  exact of_decide_eq_true hbits.1

end PlainFile

/-! ## The records -/

/-- **The pages of a file show the records of a store**, and count them right. -/
structure Shows (p : PlainFile) (k : KeyedStore) : Prop where
  whole : p.Whole
  most : p.header.recordsPerPage ≤ FileHeader.maxRecordsPerPage p.header.recordSize
  recordSize_eq : k.recordSize = p.header.recordSize
  perPage_eq : k.perPage = p.header.recordsPerPage
  pages_eq : k.pages = p.header.pages
  records_eq : ∀ id, k.records id = p.record? id
  counted : ∀ page < k.pages, (p.data page).records = k.count page

namespace Shows

variable {p p' : PlainFile} {k : KeyedStore} {id : RecordId} {b : Block}

theorem isLive_eq (h : Shows p k) (hpage : id.page < k.pages) :
    k.isLive id = (p.data id.page).occupied id.slot := by
  unfold KeyedStore.isLive
  rw [h.records_eq, PlainFile.isSome_record? (Nat.lt_of_lt_of_eq hpage h.pages_eq)]

theorem page_lt (h : Shows p k) (hlive : k.isLive id = true) : id.page < k.pages := by
  unfold KeyedStore.isLive at hlive
  rw [h.records_eq, PlainFile.record?] at hlive
  rw [h.pages_eq]
  split at hlive
  · rename_i hboth
    exact hboth.1
  · cases hlive

theorem slot_lt (h : Shows p k) (hlive : k.isLive id = true) : id.slot < k.perPage := by
  rw [h.isLive_eq (h.page_lt hlive)] at hlive
  rw [h.perPage_eq]
  exact PlainFile.slot_lt_of_occupied hlive

/-- There is no record behind the last page. -/
theorem count_pages (h : Shows p k) : k.count k.pages = 0 :=
  List.countP_eq_zero.mpr fun _ _ hlive => Nat.lt_irrefl _ (h.page_lt hlive)

/-- The bytes of a record are in its slot. -/
theorem slot_eq (h : Shows p k) (hlive : k.isLive id = true) :
    k.records id = some ((p.data id.page).slot id.slot) := by
  have hpage := h.page_lt hlive
  rw [h.isLive_eq hpage] at hlive
  rw [h.records_eq]
  exact if_pos ⟨Nat.lt_of_lt_of_eq hpage h.pages_eq, hlive⟩

/-- Records have the length of a slot. -/
theorem length_eq (h : Shows p k) {record : List UInt8} (hrecord : k.records id = some record) :
    record.length = k.recordSize := by
  have hlive : k.isLive id = true := by
    unfold KeyedStore.isLive
    rw [hrecord]
    rfl
  have hslot : id.slot < p.layout.recordsPerPage :=
    Nat.lt_of_lt_of_eq (h.slot_lt hlive) h.perPage_eq
  obtain rfl := Option.some.inj (hrecord.symm.trans (h.slot_eq hlive))
  unfold PlainFile.data
  rw [PageLayout.slot_data hslot, Buffer.length_bytes _ (h.whole.fits.slot_le hslot),
    h.recordSize_eq]
  rfl

/-- The records do not depend on the list of pages. -/
theorem withFree (h : Shows p k) (l : List Nat) : Shows p { k with free := l } where
  whole := h.whole
  most := h.most
  recordSize_eq := h.recordSize_eq
  perPage_eq := h.perPage_eq
  pages_eq := h.pages_eq
  records_eq := h.records_eq
  counted := h.counted

/-- Nor do they depend on the head of the free list. -/
theorem withFreeHead (h : Shows p k) (head : Option Nat) :
    Shows (p.withHeader { p.header with freeHead := head }) k where
  whole := ⟨⟨h.whole.fits, h.whole.count⟩, rfl⟩
  most := h.most
  recordSize_eq := h.recordSize_eq
  perPage_eq := h.perPage_eq
  pages_eq := h.pages_eq
  records_eq := h.records_eq
  counted := h.counted

/-- **A page with other contents**, of which one slot may have changed. -/
theorem put (h : Shows p k) (hpage : id.page < k.pages) {record : Option (List UInt8)}
    (hoccupied : (p.layout.data b).occupied =
      Function.update (p.data id.page).occupied id.slot record.isSome)
    (hslot : ∀ slot, (p.layout.data b).occupied slot = true → some ((p.layout.data b).slot slot) =
      if slot = id.slot then record else some ((p.data id.page).slot slot))
    (hcount : (p.layout.data b).records = (k.put id record).count id.page) :
    Shows (p.withPage id.page b) (k.put id record) where
  whole := ⟨⟨h.whole.fits, h.whole.count⟩, h.whole.written⟩
  most := h.most
  recordSize_eq := h.recordSize_eq
  perPage_eq := h.perPage_eq
  pages_eq := h.pages_eq
  records_eq := by
    intro id'
    rw [KeyedStore.records_put, PlainFile.record?, PlainFile.data_withPage]
    by_cases hsame : id'.page = id.page
    · have hpage' : id'.page < (p.withPage id.page b).header.pages := by
        rw [hsame]
        exact Nat.lt_of_lt_of_eq hpage h.pages_eq
      rw [if_pos hsame, hoccupied, Function.update_apply]
      by_cases hid : id' = id
      · subst hid
        rw [if_pos rfl, if_pos rfl]
        cases record with
        | none => exact (if_neg fun hboth => Bool.false_ne_true hboth.2).symm
        | some r =>
          rw [if_pos ⟨hpage', rfl⟩, hslot id'.slot, if_pos rfl]
          rw [hoccupied, Function.update_self]
          rfl
      · have hslotNe : id'.slot ≠ id.slot := fun heq => hid (by
          cases id'
          cases id
          exact congr (congrArg RecordId.mk hsame) heq)
        rw [if_neg hid, if_neg hslotNe, h.records_eq, PlainFile.record?, hsame]
        rw [hsame] at hpage'
        cases hocc : (p.data id.page).occupied id'.slot with
        | false =>
          rw [if_neg fun hboth => Bool.false_ne_true hboth.2,
            if_neg fun hboth => Bool.false_ne_true hboth.2]
        | true =>
          have hocc' : (p.layout.data b).occupied id'.slot = true := by
            rw [hoccupied, Function.update_of_ne hslotNe, hocc]
          rw [if_pos ⟨hpage', rfl⟩, if_pos ⟨hpage', rfl⟩, hslot _ hocc', if_neg hslotNe]
    · rw [if_neg hsame, if_neg (fun heq => hsame (congrArg RecordId.page heq)), h.records_eq,
        PlainFile.record?]
      rfl
  counted := by
    intro page hlt
    rw [PlainFile.data_withPage]
    split
    · rename_i heq
      rw [heq, hcount]
    · rename_i hne
      rw [KeyedStore.count_put_of_ne hne]
      exact h.counted page hlt

/-- **A link that changes** leaves the records as they are. -/
theorem relink (h : Shows p k) {page : Nat} {next : Option Nat}
    (hdata : p.layout.data b = { p.data page with next }) : Shows (p.withPage page b) k where
  whole := ⟨⟨h.whole.fits, h.whole.count⟩, h.whole.written⟩
  most := h.most
  recordSize_eq := h.recordSize_eq
  perPage_eq := h.perPage_eq
  pages_eq := h.pages_eq
  records_eq := by
    intro id
    rw [h.records_eq, PlainFile.record?, PlainFile.record?, PlainFile.data_withPage]
    by_cases hsame : id.page = page
    · rw [if_pos hsame, hdata, hsame]
      rfl
    · rw [if_neg hsame]
      rfl
  counted := by
    intro q hlt
    rw [PlainFile.data_withPage]
    split
    · rename_i heq
      rw [hdata, heq]
      exact h.counted page (heq ▸ hlt)
    · exact h.counted q hlt

/-- **A record is put into a free slot.** -/
theorem fill (h : Shows p k) (hpage : id.page < k.pages) (hslot : id.slot < k.perPage)
    (hfree : k.isLive id = false) {n : Nat} {record : List UInt8}
    (hdata : p.layout.data b = (p.data id.page).fill n id.slot record) :
    Shows (p.withPage id.page b) (k.put id (some record)) := by
  refine h.put hpage ?_ ?_ ?_
  · rw [hdata]
    rfl
  · intro slot _
    rw [hdata]
    show some (Function.update _ _ _ _) = _
    rw [Function.update_apply]
    split <;> rfl
  · have hcount := KeyedStore.count_put_of_free hslot hfree record
    have hle := (k.put id (some record)).count_le id.page
    have hlt := h.whole.fits.recordsPerPage_lt
    have hperPage : (k.put id (some record)).perPage = p.layout.recordsPerPage := h.perPage_eq
    rw [hdata]
    show storedCount ((p.data id.page).records + 1) = _
    rw [h.counted _ hpage, ← hcount, storedCount_of_lt (by omega)]

/-- **A record is taken out of its slot.** -/
theorem vacate (h : Shows p k) (hlive : k.isLive id = true)
    (hdata : p.layout.data b = (p.data id.page).vacate id.slot) :
    Shows (p.withPage id.page b) (k.put id none) := by
  have hpage := h.page_lt hlive
  refine h.put hpage ?_ ?_ ?_
  · rw [hdata]
    rfl
  · intro slot hocc
    rw [hdata] at hocc ⊢
    have hne : slot ≠ id.slot := by
      rintro rfl
      have hself : Function.update (p.data id.page).occupied id.slot false id.slot = true := hocc
      rw [Function.update_self] at hself
      cases hself
    rw [if_neg hne]
    rfl
  · rw [hdata]
    show (p.data id.page).records - 1 = _
    rw [h.counted _ hpage, ← KeyedStore.count_put_none (h.slot_lt hlive) hlive]
    rfl

/-- **A record is replaced.** -/
theorem replace (h : Shows p k) (hlive : k.isLive id = true) {record : List UInt8}
    (hdata : p.layout.data b =
      { p.data id.page with slot := Function.update (p.data id.page).slot id.slot record }) :
    Shows (p.withPage id.page b) (k.put id (some record)) := by
  have hpage := h.page_lt hlive
  refine h.put hpage ?_ ?_ ?_
  · rw [hdata]
    have hocc : (p.data id.page).occupied id.slot = true := by
      rw [← h.isLive_eq hpage, hlive]
    exact (Function.update_eq_self_iff.mpr hocc.symm).symm
  · intro slot _
    rw [hdata]
    show some (Function.update _ _ _ _) = _
    rw [Function.update_apply]
    split <;> rfl
  · rw [hdata, KeyedStore.count_put_of_live hlive]
    exact h.counted _ hpage

/-- **An empty page is added.** -/
theorem added (h : Shows p k) {d : PageData} {next : Option Nat}
    (hdata : p.layout.data b = { d with records := 0, next, occupied := fun _ => false }) :
    Shows (p.added b) k.addPage := by
  have hcount : k.pages = p.count := h.pages_eq.trans h.whole.count.symm
  have hdata' : ∀ q, (p.added b).data q = if q = k.pages then p.layout.data b else p.data q := by
    intro q
    rw [hcount]
    exact PlainFile.data_withPage { p with count := p.count + 1 } p.count b q
  have hnone : ∀ slot, k.records ⟨k.pages, slot⟩ = none := by
    intro slot
    rw [h.records_eq, PlainFile.record?, h.pages_eq]
    exact if_neg fun hboth => Nat.lt_irrefl _ hboth.1
  constructor
  case whole => exact ⟨⟨h.whole.fits, congrArg Nat.succ h.whole.count⟩, rfl⟩
  case most => exact h.most
  case recordSize_eq => exact h.recordSize_eq
  case perPage_eq => exact h.perPage_eq
  case pages_eq => exact congrArg Nat.succ h.pages_eq
  case records_eq =>
    intro id
    show k.records id = _
    rw [PlainFile.record?, hdata']
    by_cases hnew : id.page = k.pages
    · obtain ⟨page, slot⟩ := id
      dsimp only at hnew
      subst hnew
      rw [hnone, if_pos rfl, hdata]
      exact (if_neg fun hboth => Bool.false_ne_true hboth.2).symm
    · rw [if_neg hnew, h.records_eq, PlainFile.record?]
      refine if_congr (and_congr_left' ?_) rfl rfl
      show id.page < p.header.pages ↔ id.page < p.header.pages + 1
      rw [h.pages_eq] at hnew
      omega
  case counted =>
    intro page hlt
    have hcount' : k.addPage.count page = k.count page := KeyedStore.count_congr rfl fun _ => rfl
    rw [hdata', hcount']
    split
    · rename_i heq
      rw [hdata, heq]
      exact h.count_pages.symm
    · rename_i hne
      refine h.counted page ?_
      have hlt' : page < k.pages + 1 := hlt
      omega

end Shows

/-! ## The free list -/

/-- **A file represents a store.** -/
structure Represents (p : PlainFile) (k : KeyedStore) : Prop extends Shows p k where
  chain : FreeChain p.next p.header.freeHead k.free
  nodup : k.free.Nodup
  /-- The pages on the list are those that have a free slot. -/
  mem_free : ∀ page, page ∈ k.free ↔ page < k.pages ∧ k.isFull page = false

/-- **Only the pages of a list have a link.** -/
def PlainFile.LinksOnly (p : PlainFile) (l : List Nat) : Prop :=
  ∀ page < p.header.pages, page ∉ l → p.next page = none

/-- **A change that a file and a store go through together.** The file represents the store
again, and its full pages still have no link if they had none before. -/
structure Follows (p : PlainFile) (k : KeyedStore) (p' : PlainFile) (k' : KeyedStore) : Prop where
  represents : Represents p' k'
  linksOnly : p.LinksOnly k.free → p'.LinksOnly k'.free

namespace Follows

variable {p p' p'' : PlainFile} {k k' k'' : KeyedStore}

theorem refl (h : Represents p k) : Follows p k p k := ⟨h, id⟩

theorem trans (h : Follows p k p' k') (h' : Follows p' k' p'' k'') : Follows p k p'' k'' :=
  ⟨h'.represents, fun hlinks => h'.linksOnly (h.linksOnly hlinks)⟩

end Follows

namespace Represents

variable {p p' : PlainFile} {k : KeyedStore} {id : RecordId} {b : Block}

theorem lt_of_mem_free (h : Represents p k) {page : Nat} (hmem : page ∈ k.free) :
    page < p.header.pages := by
  rw [← h.pages_eq]
  exact ((h.mem_free page).mp hmem).1

theorem head_mem (h : Represents p k) {page : Nat} (hhead : p.header.freeHead = some page) :
    page ∈ k.free := by
  have hchain := h.chain
  cases hfree : k.free with
  | nil =>
    rw [hfree, hhead] at hchain
    cases hchain
  | cons q rest =>
    rw [hfree, hhead] at hchain
    obtain rfl : page = q := Option.some.inj hchain.1
    exact List.mem_cons_self

/-- **The header of the file has no flaw.** -/
theorem flaw_eq_none (h : Represents p k) : p.header.flaw = none :=
  FileHeader.flaw_eq_none_iff.mpr ⟨h.whole.fits.positive, h.most, h.whole.fits.bitmap,
    fun _ hhead => h.lt_of_mem_free (h.head_mem hhead)⟩

/-- A head of the list as it is read back. -/
theorem storedLink_head (h : Represents p k) (hpages : p.header.pages < noPage) :
    storedLink p.header.freeHead = p.header.freeHead :=
  storedLink_of_lt fun _ hhead => Nat.lt_trans (h.lt_of_mem_free (h.head_mem hhead)) hpages

/-- **An empty file represents an empty store.** -/
theorem empty (hwhole : p.Whole) (hflaw : p.header.flaw = none) (hpages : p.header.pages = 0)
    (hhead : p.header.freeHead = none) :
    Represents p (.empty p.header.recordSize p.header.recordsPerPage) where
  whole := hwhole
  most := (FileHeader.flaw_eq_none_iff.mp hflaw).2.1
  recordSize_eq := rfl
  perPage_eq := rfl
  pages_eq := hpages.symm
  records_eq := fun id => by
    rw [PlainFile.record?, hpages, if_neg fun hboth => Nat.not_lt_zero _ hboth.1]
    rfl
  counted := fun page hpage => absurd hpage (Nat.not_lt_zero page)
  chain := by
    rw [hhead]
    exact rfl
  nodup := List.nodup_nil
  mem_free := fun page =>
    iff_of_false List.not_mem_nil fun hboth => Nat.not_lt_zero page hboth.1

theorem storedLink_next (p : PlainFile) (page : Nat) : storedLink (p.next page) = p.next page :=
  storedLink_of_lt (PageLayout.next_lt (p.page page) p.layout)

/-- A place that is free is on a page of the list. -/
theorem page_mem_free (h : Represents p k) (hpage : id.page < k.pages) (hslot : id.slot < k.perPage)
    (hfree : k.isLive id = false) : id.page ∈ k.free := by
  refine (h.mem_free _).mpr ⟨hpage, ?_⟩
  rw [← Bool.not_eq_true, KeyedStore.isFull_iff_isLive]
  intro hall
  rw [hall id.slot hslot] at hfree
  cases hfree

/-- **A page of the list has a free slot.** -/
theorem lowestFree_eq_some (h : Represents p k) {page : Nat} (hmem : page ∈ k.free) :
    ∃ slot, k.lowestFree page = some slot ∧ slot < k.perPage ∧ k.isLive ⟨page, slot⟩ = false := by
  cases hfind : k.lowestFree page with
  | some slot =>
    refine ⟨slot, rfl, List.mem_range.mp (List.mem_of_find?_eq_some hfind), ?_⟩
    have hfree := List.find?_some hfind
    rwa [Bool.not_eq_true'] at hfree
  | none =>
    have hfull : k.isFull page = true := KeyedStore.isFull_iff_isLive.mpr fun slot hslot => by
      have hlive := List.find?_eq_none.mp hfind slot (List.mem_range.mpr hslot)
      rwa [Bool.not_eq_true', Bool.not_eq_false] at hlive
    rw [((h.mem_free page).mp hmem).2] at hfull
    cases hfull

/-- **The list ends at once if every page is full.** -/
theorem free_eq_nil_iff (h : Represents p k) :
    k.free = [] ↔ ∀ page < k.pages, k.isFull page = true := by
  rw [List.eq_nil_iff_forall_not_mem]
  refine forall_congr' fun page => ?_
  rw [h.mem_free, not_and, Bool.not_eq_false]

/-! ## Filling a slot -/

/-- **A page that has still a free slot stays where it is.** -/
theorem occupy_of_room (h : Represents p k) (hpage : id.page < k.pages)
    (hslot : id.slot < k.perPage) (hfree : k.isLive id = false) {record : List UInt8}
    (hdata : p.layout.data b = (p.data id.page).fill p.layout.recordsPerPage id.slot record)
    (hroom : k.count id.page + 1 < k.perPage) :
    Follows p k (p.withPage id.page b) (k.occupy id record) := by
  have hcount := KeyedStore.count_put_of_free hslot hfree record
  have hnot : (k.put id (some record)).isFull id.page = false := by
    rw [← Bool.not_eq_true, KeyedStore.isFull_iff, hcount]
    exact Nat.not_le.2 hroom
  have hoccupy : k.occupy id record = k.put id (some record) :=
    if_neg (by rw [hnot]; exact Bool.false_ne_true)
  have hnext := PlainFile.next_withPage_of_eq p id.page b (by
    rw [hdata]
    refine if_neg (Nat.not_le.2 ?_)
    rw [h.counted _ hpage]
    exact Nat.lt_of_lt_of_eq hroom h.perPage_eq)
  rw [hoccupy]
  refine ⟨{ toShows := h.fill hpage hslot hfree hdata, chain := h.chain.congr fun q _ => hnext q,
            nodup := h.nodup, mem_free := ?_ },
    fun hlinks q hq hnot => (hnext q).trans (hlinks q hq hnot)⟩
  · intro q
    refine (h.mem_free q).trans (and_congr_right fun _ => ?_)
    by_cases hq : q = id.page
    · subst hq
      have hbefore : k.isFull id.page = false := by
        rw [← Bool.not_eq_true, KeyedStore.isFull_iff]
        omega
      exact iff_of_true hbefore hnot
    · rw [KeyedStore.isFull_put_of_ne hq]

/-- A page that becomes full loses its link. -/
theorem next_eq_none_of_full (h : Represents p k) (hpage : id.page < k.pages) {record : List UInt8}
    (hdata : p.layout.data b = (p.data id.page).fill p.layout.recordsPerPage id.slot record)
    (hfull : k.perPage ≤ k.count id.page + 1) : (p.layout.data b).next = none := by
  rw [hdata]
  refine if_pos ?_
  rw [h.counted _ hpage]
  exact Nat.le_trans (Nat.le_of_eq h.perPage_eq.symm) hfull

/-- **A page that becomes full leaves the list**, wherever it stood. -/
theorem occupy_of_full (h : Represents p k) {record : List UInt8} (hslot : id.slot < k.perPage)
    (hfree : k.isLive id = false) (hshows : Shows p' (k.put id (some record)))
    (hfull : k.perPage ≤ k.count id.page + 1)
    (hchain : FreeChain p'.next p'.header.freeHead (k.free.erase id.page))
    (hlinks : p.LinksOnly k.free → p'.LinksOnly (k.free.erase id.page)) :
    Follows p k p' (k.occupy id record) := by
  have hcount := KeyedStore.count_put_of_free hslot hfree record
  have hnow : (k.put id (some record)).isFull id.page = true := by
    rw [KeyedStore.isFull_iff, hcount]
    exact hfull
  have hoccupy : k.occupy id record =
      { k.put id (some record) with free := k.free.erase id.page } := if_pos hnow
  rw [hoccupy]
  refine ⟨{ toShows := hshows.withFree _, chain := hchain, nodup := h.nodup.erase _,
            mem_free := fun q => ?_ }, hlinks⟩
  show q ∈ k.free.erase id.page ↔ q < k.pages ∧ (k.put id (some record)).isFull q = false
  rw [h.nodup.mem_erase_iff, h.mem_free]
  by_cases hq : q = id.page
  · subst hq
    rw [hnow]
    exact iff_of_false (fun hboth => hboth.1 rfl) fun hboth => Bool.noConfusion hboth.2
  · rw [KeyedStore.isFull_put_of_ne hq, and_iff_right hq]

/-- **The head of the list becomes full**: the list starts at the page behind
it. -/
theorem occupy_head (h : Represents p k) {rest : List Nat} (hlist : k.free = id.page :: rest)
    (hslot : id.slot < k.perPage) (hfree : k.isLive id = false) {record : List UInt8}
    (hdata : p.layout.data b = (p.data id.page).fill p.layout.recordsPerPage id.slot record)
    (hfull : k.perPage ≤ k.count id.page + 1) :
    Follows p k ((p.withPage id.page b).withHeader
      { p.header with freeHead := p.next id.page }) (k.occupy id record) := by
  have hpage : id.page < k.pages := ((h.mem_free _).mp (hlist ▸ List.mem_cons_self)).1
  have hnodup := h.nodup
  have hchain := h.chain
  rw [hlist] at hnodup hchain
  have hnext : ∀ q, PlainFile.next ((p.withPage id.page b).withHeader
      { p.header with freeHead := p.next id.page }) q =
        if q = id.page then none else p.next q := by
    intro q
    rw [← h.next_eq_none_of_full hpage hdata hfull]
    exact PlainFile.next_withPage id.page b q
  refine h.occupy_of_full hslot hfree ((h.fill hpage hslot hfree hdata).withFreeHead _) hfull ?_
    fun hlinks q hq hnot => ?_
  · rw [hlist, List.erase_cons_head]
    refine hchain.2.congr fun q hq => ?_
    rw [hnext, if_neg]
    rintro rfl
    exact (List.nodup_cons.mp hnodup).1 hq
  · rw [hnext]
    split
    · rfl
    · rename_i hne
      exact hlinks q hq fun hmem => hnot ((List.mem_erase_of_ne hne).mpr hmem)

/-- **A page in the middle of the list becomes full**: the page before it takes
over its link. -/
theorem occupy_after (h : Represents p k) {before rest : List Nat} {prev : Nat}
    (hlist : k.free = before ++ prev :: id.page :: rest) (hslot : id.slot < k.perPage)
    (hfree : k.isLive id = false) {record : List UInt8}
    (hdata : p.layout.data b = (p.data id.page).fill p.layout.recordsPerPage id.slot record)
    {b' : Block}
    (hlink : p.layout.data b' =
      { (p.withPage id.page b).data prev with next := p.next id.page })
    (hfull : k.perPage ≤ k.count id.page + 1) :
    Follows p k ((p.withPage id.page b).withPage prev b') (k.occupy id record) := by
  have hmem : id.page ∈ k.free := by
    rw [hlist]
    simp
  have hpage : id.page < k.pages := ((h.mem_free _).mp hmem).1
  have hnodup := h.nodup
  have hchain := h.chain
  rw [hlist] at hnodup hchain
  -- the two pages stand in the list once each
  have hbefore : id.page ∉ before ∧ prev ∉ before := by
    have hdisjoint := (List.nodup_append.mp hnodup).2.2
    exact ⟨fun hq => hdisjoint _ hq id.page (by simp) rfl,
      fun hq => hdisjoint _ hq prev (by simp) rfl⟩
  have hafter := (List.nodup_append.mp hnodup).2.1
  rw [List.nodup_cons, List.nodup_cons, List.mem_cons, not_or] at hafter
  obtain ⟨⟨hne, hprevRest⟩, hpageRest, -⟩ := hafter
  have hnext : ∀ q, PlainFile.next ((p.withPage id.page b).withPage prev b') q =
      if q = prev then p.next id.page else if q = id.page then none else p.next q := by
    intro q
    rw [PlainFile.next_withPage, PlainFile.next_withPage,
      h.next_eq_none_of_full hpage hdata hfull]
    show (if q = prev then (p.layout.data b').next else _) = _
    rw [hlink]
  refine h.occupy_of_full hslot hfree ((h.fill hpage hslot hfree hdata).relink hlink) hfull ?_
    fun hlinks q hq hnot => ?_
  · rw [hlist, List.erase_append_right _ hbefore.1, List.erase_cons_tail (by simpa using hne),
      List.erase_cons_head]
    refine hchain.unlink (fun q hq => ?_) ?_
    · have hq' : q ≠ prev ∧ q ≠ id.page := by
        rcases List.mem_append.mp hq with hq | hq
        · exact ⟨fun heq => hbefore.2 (heq ▸ hq), fun heq => hbefore.1 (heq ▸ hq)⟩
        · exact ⟨fun heq => hprevRest (heq ▸ hq), fun heq => hpageRest (heq ▸ hq)⟩
      rw [hnext, if_neg hq'.1, if_neg hq'.2]
    · rw [hnext, if_pos rfl]
  · -- the page before it stays on the list
    have hq' : q ≠ prev := by
      rintro rfl
      exact hnot ((List.mem_erase_of_ne hne).mpr (by rw [hlist]; simp))
    rw [hnext, if_neg hq']
    split
    · rfl
    · rename_i hpageNe
      exact hlinks q hq fun hmem => hnot ((List.mem_erase_of_ne hpageNe).mpr hmem)

/-! ## Vacating a slot -/

/-- A page that is not full stays where it is. -/
theorem vacate_of_room (h : Represents p k) (hlive : k.isLive id = true)
    (hroom : k.isFull id.page = false)
    (hdata : p.layout.data b = (p.data id.page).vacate id.slot) :
    Follows p k (p.withPage id.page b) (k.vacate id) := by
  have hcount := KeyedStore.count_put_none (h.slot_lt hlive) hlive
  have hvacate : k.vacate id = k.put id none := if_neg (by rw [hroom]; exact Bool.false_ne_true)
  have hnext := PlainFile.next_withPage_of_eq p id.page b (by
    rw [hdata]
    rfl)
  rw [hvacate]
  refine ⟨{ toShows := h.vacate hlive hdata, chain := h.chain.congr fun q _ => hnext q,
            nodup := h.nodup, mem_free := ?_ },
    fun hlinks q hq hnot => (hnext q).trans (hlinks q hq hnot)⟩
  · intro q
    refine (h.mem_free q).trans (and_congr_right fun _ => ?_)
    by_cases hq : q = id.page
    · subst hq
      refine iff_of_true hroom ?_
      rw [← Bool.not_eq_true, KeyedStore.isFull_iff] at hroom ⊢
      have hperPage : (k.put id none).perPage = k.perPage := rfl
      omega
    · rw [KeyedStore.isFull_put_of_ne hq]

/-- **A page that was full is put at the front of the list.** -/
theorem vacate_of_full (h : Represents p k) (hlive : k.isLive id = true)
    (hfull : k.isFull id.page = true)
    (hdata : p.layout.data b = (p.data id.page).vacate id.slot) {b' : Block}
    (hlink : p.layout.data b' = { p.layout.data b with next := p.header.freeHead }) :
    Follows p k (((p.withPage id.page b).withPage id.page b').withHeader
      { p.header with freeHead := some id.page }) (k.vacate id) := by
  have hcount := KeyedStore.count_put_none (h.slot_lt hlive) hlive
  have hle := k.count_le id.page
  have hvacate : k.vacate id = { k.put id none with free := id.page :: k.free } := if_pos hfull
  have hnotMem : id.page ∉ k.free := by
    rw [h.mem_free, hfull]
    exact fun hboth => Bool.noConfusion hboth.2
  have hself : (p.withPage id.page b).data id.page = p.layout.data b := by
    rw [PlainFile.data_withPage, if_pos rfl]
  have hlink' : (p.withPage id.page b).layout.data b' =
      { (p.withPage id.page b).data id.page with next := p.header.freeHead } := by
    rw [hself]
    exact hlink
  have hshows := (((h.vacate hlive hdata).relink hlink').withFreeHead (some id.page)).withFree
    (id.page :: k.free)
  have hnext : ∀ q, PlainFile.next (((p.withPage id.page b).withPage id.page b').withHeader
      { p.header with freeHead := some id.page }) q =
        if q = id.page then p.header.freeHead else p.next q := by
    intro q
    show PlainFile.next ((p.withPage id.page b).withPage id.page b') q = _
    rw [PlainFile.next_withPage]
    show (if q = id.page then (p.layout.data b').next else _) = _
    rw [hlink]
    split
    · rfl
    · rename_i hne
      rw [PlainFile.next_withPage, if_neg hne]
  rw [hvacate]
  refine ⟨{ toShows := hshows, chain := h.chain.push hnotMem hnext,
            nodup := List.nodup_cons.mpr ⟨hnotMem, h.nodup⟩, mem_free := ?_ },
    fun hlinks q hq hnot => ?_⟩
  · intro q
    show q ∈ id.page :: k.free ↔ q < k.pages ∧ (k.put id none).isFull q = false
    rw [List.mem_cons, h.mem_free]
    by_cases hq : q = id.page
    · subst hq
      refine iff_of_true (.inl rfl) ⟨h.page_lt hlive, ?_⟩
      rw [← Bool.not_eq_true, KeyedStore.isFull_iff]
      have hperPage : (k.put id none).perPage = k.perPage := rfl
      omega
    · rw [or_iff_right hq, KeyedStore.isFull_put_of_ne hq]
  · obtain ⟨hne, hnot⟩ := not_or.mp (List.mem_cons.not.mp hnot)
    rw [hnext, if_neg hne]
    exact hlinks q hq hnot

/-! ## Replacing a record and adding a page -/

theorem put_of_live (h : Represents p k) (hlive : k.isLive id = true) {record : List UInt8}
    (hdata : p.layout.data b =
      { p.data id.page with slot := Function.update (p.data id.page).slot id.slot record }) :
    Follows p k (p.withPage id.page b) (k.put id (some record)) := by
  have hnext := PlainFile.next_withPage_of_eq p id.page b (by
    rw [hdata]
    rfl)
  refine ⟨{ toShows := h.replace hlive hdata, chain := h.chain.congr fun q _ => hnext q,
            nodup := h.nodup, mem_free := ?_ },
    fun hlinks q hq hnot => (hnext q).trans (hlinks q hq hnot)⟩
  · intro q
    have hfull : (k.put id (some record)).isFull q = k.isFull q := by
      unfold KeyedStore.isFull
      rw [KeyedStore.count_put_of_live hlive]
      rfl
    rw [hfull]
    exact h.mem_free q

/-- **A page that is added** heads the list. -/
theorem addPage (h : Represents p k) {d : PageData}
    (hdata : p.layout.data b =
      { d with records := 0, next := p.header.freeHead, occupied := fun _ => false }) :
    Follows p k (p.added b) k.addPage := by
  have hpages : k.pages = p.count := h.pages_eq.trans h.whole.count.symm
  have hshows := h.added hdata
  have hnotMem : k.pages ∉ k.free := fun hmem =>
    Nat.lt_irrefl _ ((h.mem_free _).mp hmem).1
  have hnext : ∀ q, PlainFile.next (p.added b) q =
      if q = k.pages then p.header.freeHead else p.next q := by
    intro q
    have hlinks := PlainFile.next_withPage (p := { p with count := p.count + 1 }) p.count b q
    have hfirst : (p.layout.data b).next = p.header.freeHead := by rw [hdata]
    rw [hpages, ← hfirst]
    exact hlinks
  have hempty : k.addPage.isFull k.pages = false := by
    have hcounted := hshows.counted k.pages (Nat.lt_succ_self _)
    rw [← Bool.not_eq_true, KeyedStore.isFull_iff, ← hcounted]
    have hzero : ((p.added b).data k.pages).records = 0 := by
      show (PlainFile.data (PlainFile.withPage { p with count := p.count + 1 } p.count b) _).records = _
      rw [PlainFile.data_withPage, if_pos hpages]
      show (p.layout.data b).records = 0
      rw [hdata]
    rw [hzero, Nat.not_le]
    exact Nat.lt_of_lt_of_eq h.whole.fits.positive h.perPage_eq.symm
  have hhead : (p.added b).header.freeHead = some k.pages := congrArg some hpages.symm
  refine ⟨{ toShows := hshows, chain := hhead ▸ h.chain.push hnotMem hnext,
            nodup := List.nodup_cons.mpr ⟨hnotMem, h.nodup⟩, mem_free := ?_ },
    fun hlinks q hq hnot => ?_⟩
  · intro q
    show q ∈ k.pages :: k.free ↔ q < k.pages + 1 ∧ k.addPage.isFull q = false
    rw [List.mem_cons, h.mem_free]
    by_cases hq : q = k.pages
    · subst hq
      exact iff_of_true (.inl rfl) ⟨Nat.lt_succ_self _, hempty⟩
    · have hsame : k.addPage.isFull q = k.isFull q := rfl
      rw [or_iff_right hq, hsame]
      refine and_congr_left' ?_
      omega
  · obtain ⟨hne, hnot⟩ := not_or.mp (List.mem_cons.not.mp hnot)
    rw [hnext, if_neg hne]
    refine hlinks q ?_ hnot
    have hlt : q < p.header.pages + 1 := hq
    rw [← h.pages_eq] at hlt ⊢
    omega

end Represents

end SlottedFile
