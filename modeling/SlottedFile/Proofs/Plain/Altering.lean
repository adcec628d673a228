import SlottedFile.Proofs.Page.Margin
import SlottedFile.Proofs.Plain.FreeList
import SlottedFile.Proofs.Plain.Growth
import SlottedFile.Proofs.Plain.Looking

/-!
# What a change leaves alone

A change of a record file is about one record at most, but it writes to several
places: to the slot of the record, to its bit, which shares a byte with seven
others, to the header of its page, to the header of the page before it on the free
list, and sometimes to a whole page that is new. Every other record keeps its bit and
its bytes (`PlainFile.Altered`), and so does what nobody reads. That is so whatever is in the
pages: they may count their records wrongly, and their links may lead anywhere, even in a
circle.

The links themselves are only moved about. If none of them led out of the file, none
does so afterwards (`PlainFile.Linked`).
-/

namespace SlottedFile

/-- A link that is read back is no greater than the one that was stored. -/
theorem le_of_mem_storedLink {link : Option Nat} {q : Nat} (h : q ∈ storedLink link) :
    ∃ page ∈ link, q ≤ page := by
  have hword : q ∈ linkOfWord (link.getD noPage % widthLimit 4) := by
    rw [← ofLE_toLE]
    exact h
  unfold linkOfWord at hword
  split at hword
  · cases hword
  · rename_i hne
    cases hword
    cases link with
    | none => exact absurd rfl hne
    | some page => exact ⟨page, rfl, Nat.mod_le _ _⟩

namespace PlainFile

variable {α β : Type} {own : RecordId → Prop} {p p' p'' : PlainFile}

/-- **A file whose links lead into it**, the head of the free list among them. -/
structure Linked (p : PlainFile) : Prop where
  head_lt : ∀ page ∈ p.header.freeHead, page < p.header.pages
  next_lt : ∀ page < p.header.pages, ∀ q ∈ p.next page, q < p.header.pages

/-- What a page has beside what it says. -/
def margin (p : PlainFile) (page : Nat) : PageMargin := p.layout.margin (p.page page)

/-- **A file after a change of some records of its own.** Every other place that it
had is occupied if it was so before, and holds the bytes that it held. -/
structure Altered (own : RecordId → Prop) (p p' : PlainFile) : Prop where
  grown : p.Grown p'
  occupied_eq : ∀ id : RecordId, id.page < p.header.pages → ¬own id →
    (p'.data id.page).occupied id.slot = (p.data id.page).occupied id.slot
  slot_eq : ∀ id : RecordId, id.page < p.header.pages → ¬own id →
    (p'.data id.page).slot id.slot = (p.data id.page).slot id.slot
  margin_eq : ∀ page < p.header.pages, p'.margin page = p.margin page
  linked : p.Linked → p'.Linked

namespace Altered

theorem refl (hsized : p.Sized) : Altered own p p :=
  ⟨.refl hsized, fun _ _ _ => rfl, fun _ _ _ => rfl, fun _ _ => rfl, id⟩

theorem trans (h : Altered own p p') (h' : Altered own p' p'') : Altered own p p'' where
  grown := h.grown.trans h'.grown
  occupied_eq := fun id hpage hown =>
    (h'.occupied_eq id (Nat.lt_of_lt_of_le hpage h.grown.pages_le) hown).trans
      (h.occupied_eq id hpage hown)
  slot_eq := fun id hpage hown =>
    (h'.slot_eq id (Nat.lt_of_lt_of_le hpage h.grown.pages_le) hown).trans
      (h.slot_eq id hpage hown)
  margin_eq := fun page hpage =>
    (h'.margin_eq page (Nat.lt_of_lt_of_le hpage h.grown.pages_le)).trans (h.margin_eq page hpage)
  linked := fun hlinked => h'.linked (h.linked hlinked)

theorem mono (h : Altered own p p') {own' : RecordId → Prop} (hown : ∀ id, own id → own' id) :
    Altered own' p p' :=
  ⟨h.grown, fun id hpage hnot => h.occupied_eq id hpage fun h => hnot (hown id h),
    fun id hpage hnot => h.slot_eq id hpage fun h => hnot (hown id h), h.margin_eq, h.linked⟩

/-- **Then a page is edited**, in the slots of its own records only. -/
theorem withPage (h : Altered own p p') {page : Nat} {b : Block}
    (hoccupied : ∀ slot, ¬own ⟨page, slot⟩ →
      (p'.layout.data b).occupied slot = (p'.data page).occupied slot)
    (hslot : ∀ slot, ¬own ⟨page, slot⟩ →
      (p'.layout.data b).slot slot = (p'.data page).slot slot)
    (hmargin : p'.layout.margin b = p'.margin page)
    (hnext : p.Linked → ∀ q ∈ (p'.layout.data b).next, q < p'.header.pages) :
    Altered own p (p'.withPage page b) where
  grown := h.grown.trans (.withPage h.grown.sized page b)
  occupied_eq := fun id hpage hown => by
    rw [← h.occupied_eq id hpage hown, data_withPage]
    split
    · rename_i heq
      subst heq
      exact hoccupied id.slot hown
    · rfl
  slot_eq := fun id hpage hown => by
    rw [← h.slot_eq id hpage hown, data_withPage]
    split
    · rename_i heq
      subst heq
      exact hslot id.slot hown
    · rfl
  margin_eq := fun q hq => by
    rw [← h.margin_eq q hq]
    show p'.layout.margin (Function.update p'.page page b q) = _
    rw [Function.update_apply]
    split
    · rename_i heq
      rw [heq]
      exact hmargin
    · rfl
  linked := fun hlinked => by
    refine ⟨(h.linked hlinked).head_lt, fun q hq => ?_⟩
    unfold next
    rw [data_withPage]
    split
    · exact hnext hlinked
    · exact (h.linked hlinked).next_lt q hq

/-- **Then a link is written** to a page. -/
theorem withNext (h : Altered own p p') {page : Nat} {b : Block} {link : Option Nat}
    (hset : PageLayout.setNext link (p'.page page) = .ok () b)
    (hlink : p.Linked → ∀ q ∈ link, q < p'.header.pages) :
    Altered own p (p'.withPage page b) := by
  have hfits := h.grown.sized.fits
  have hdata : p'.layout.data b = { p'.data page with next := storedLink link } :=
    (PageLayout.ends_setNext hfits link).of_ok hset
  refine h.withPage (fun _ _ => ?_) (fun _ _ => ?_)
    ((PageLayout.spares_setNext hfits link).of_ok hset) fun hlinked q hq => ?_
  · rw [hdata]
  · rw [hdata]
  · rw [hdata] at hq
    obtain ⟨q₀, hq₀, hle⟩ := le_of_mem_storedLink hq
    exact Nat.lt_of_le_of_lt hle (hlink hlinked q₀ hq₀)

/-- **Then the free list gets another head.** -/
theorem withFreeHead (h : Altered own p p') {head : Option Nat}
    (hhead : p.Linked → ∀ page ∈ head, page < p'.header.pages) :
    Altered own p (p'.withHeader { p'.header with freeHead := head }) where
  grown := h.grown.trans (.withFreeHead h.grown.sized head)
  occupied_eq := h.occupied_eq
  slot_eq := h.slot_eq
  margin_eq := h.margin_eq
  linked := fun hlinked => ⟨hhead hlinked, (h.linked hlinked).next_lt⟩

/-- **A page is added**, with the old head of the free list as its link. -/
theorem added (hsized : p.Sized) {b : Block}
    (hnext : (p.layout.data b).next = storedLink p.header.freeHead) :
    Altered own p (p.added b) := by
  have hdata : ∀ page, (p.added b).data page =
      if page = p.count then p.layout.data b else p.data page :=
    data_withPage { p with count := p.count + 1 } p.count b
  have hne : ∀ {page}, page < p.header.pages → page ≠ p.count := fun hpage =>
    Nat.ne_of_lt (Nat.lt_of_lt_of_eq hpage hsized.count.symm)
  have hold : ∀ {page}, page < p.header.pages → (p.added b).data page = p.data page := by
    intro page hpage
    rw [hdata, if_neg (hne hpage)]
  refine ⟨.added hsized b, fun id hpage _ => ?_, fun id hpage _ => ?_, fun page hpage => ?_,
    fun hlinked => ⟨?_, fun page hpage q hq => Nat.lt_succ_of_lt ?_⟩⟩
  · rw [hold hpage]
  · rw [hold hpage]
  · exact congrArg p.layout.margin (Function.update_of_ne (hne hpage) _ _)
  · rintro page ⟨⟩
    exact Nat.lt_succ_of_le (Nat.le_of_eq hsized.count)
  · unfold next at hq
    rw [hdata] at hq
    split at hq
    · rw [hnext] at hq
      obtain ⟨head, hhead, hle⟩ := le_of_mem_storedLink hq
      exact Nat.lt_of_le_of_lt hle (hlinked.head_lt head hhead)
    · rename_i hne
      rw [hsized.count] at hne
      exact hlinked.next_lt page (Nat.lt_of_le_of_ne (Nat.lt_succ_iff.mp hpage) hne) q hq

end Altered

/-! ## The free list -/

/-- **A page is put on the free list** after a change. -/
theorem altered_link (h : Altered own p p') {page : Nat} (hpage : page < p'.header.pages) :
    Ends (link page) p' (fun _ p'' => Altered own p p'') fun e _ => e.IsError := by
  obtain ⟨_, b, hset, -⟩ := (PageLayout.ends_setNext (b := p'.page page) h.grown.sized.fits
    p'.header.freeHead).exists_ok
  have hlinked : Altered own p (p'.withPage page b) :=
    h.withNext hset fun hlinked => (h.linked hlinked).head_lt
  unfold link
  rw [SlottedFile.ends_bind]
  refine ends_get.mpr ?_
  rw [SlottedFile.ends_bind, ends_edit hset]
  refine hlinked.withFreeHead fun _ => ?_
  rintro _ ⟨⟩
  exact hpage

/-- **The file is extended**, which is about no record. -/
theorem altered_newPage (hsized : p.Sized) :
    Ends newPage p (fun page p' => (∀ own, Altered own p p') ∧ page < p'.header.pages)
      fun e _ => e.IsError := by
  refine (ends_newPage hsized).imp ?_ fun _ _ h => h.elim
  rintro _ _ ⟨rfl, b, rfl, hdata⟩
  refine ⟨fun _ => .added hsized (by rw [hdata]), ?_⟩
  exact Nat.lt_succ_of_le (Nat.le_of_eq hsized.count)

/-- **A page with a free slot is found**, or the file is extended. -/
theorem altered_freePage (hsized : p.Sized) :
    Ends freePage p (fun page p' => (∀ own, Altered own p p') ∧ page < p'.header.pages)
      fun e _ => e.IsError := by
  unfold freePage
  rw [SlottedFile.ends_bind]
  refine ends_get.mpr ?_
  cases p.header.freeHead with
  | none => exact altered_newPage hsized
  | some page =>
    dsimp only
    rw [SlottedFile.ends_bind, ends_checkPage]
    exact ⟨fun hpage => ⟨fun _ => .refl hsized, hpage⟩, fun _ => trivial⟩

/-- **A page is put on the free list** unless it is there. -/
theorem altered_releasePage (hsized : p.Sized) {page : Nat} (hpage : page < p.header.pages) :
    Ends (releasePage page) p (fun _ p' => ∀ own, Altered own p p') fun e _ => e.IsError := by
  refine (looks_canLink page).ends_bind fun relink _ => ends_ite.mpr
    ⟨fun _ => ?_, fun _ _ => .refl hsized⟩
  have hlink : ∀ own, Ends (link page) p (fun _ p' => Altered own p p') fun e _ => e.IsError :=
    fun _ => altered_link (.refl hsized) hpage
  rw [ends_iff]
  exact ⟨fun _ _ hok own => (hlink own).of_ok hok,
    fun _ _ herror => (hlink fun _ => True).of_error herror⟩

/-! ## Records -/

/-- **A slot is filled**, and the page leaves the free list if it is full. -/
theorem altered_fillAndUnlink (hsized : p.Sized) (id : RecordId) (hpage : id.page < p.header.pages)
    (hslot : id.slot < p.layout.recordsPerPage) {data : List UInt8}
    (hsize : data.length = p.layout.recordSize) (position : FreePosition) :
    Ends (fillAndUnlink id data position) p (fun _ p' => Altered (· = id) p p')
      fun e _ => e.IsError := by
  obtain ⟨_, b, hfill, rfl, hdata⟩ :=
    (PageLayout.ends_fillSlot (b := p.page id.page) hsized.fits hslot hsize).exists_ok
  -- the link that the page had leads into the file, wherever it is put now
  have hnext : p.Linked → ∀ q ∈ p.next id.page, q < p.header.pages :=
    fun hlinked => hlinked.next_lt id.page hpage
  have hfilled : Altered (· = id) p (p.withPage id.page b) := by
    refine (Altered.refl hsized).withPage (fun slot hown => ?_) (fun slot hown => ?_)
      ((PageLayout.spares_fillSlot hsized.fits hslot data).of_ok hfill) fun hlinked q hq => ?_
    · rw [hdata]
      exact Function.update_of_ne (fun heq => hown (by rw [heq])) _ _
    · rw [hdata]
      exact Function.update_of_ne (fun heq => hown (by rw [heq])) _ _
    · rw [hdata, PageData.fill] at hq
      dsimp only at hq
      split at hq
      · cases hq
      · exact hnext hlinked q hq
  unfold fillAndUnlink
  rw [SlottedFile.ends_bind, ends_edit hfill]
  refine ends_ite.mpr ⟨fun _ => ?_, fun _ => hfilled⟩
  cases position with
  | absent => exact hfilled
  | head => exact hfilled.withFreeHead hnext
  | after prev =>
    obtain ⟨_, b', hset, -⟩ := (PageLayout.ends_setNext
      (b := (p.withPage id.page b).page prev) hfilled.grown.sized.fits (p.next id.page)).exists_ok
    exact (ends_edit hset).mpr (hfilled.withNext hset hnext)

/-- **A record is inserted** where there was none. -/
theorem altered_insert (hsized : p.Sized) (data : List UInt8) :
    Ends (insert data) p
      (fun id p' => Altered (· = id) p p' ∧ id.slot < p.layout.recordsPerPage ∧
        (id.page < p.header.pages → (p.data id.page).occupied id.slot = false))
      fun e _ => e.IsError := by
  refine (looks_checkSize data).ends_bind fun _ hchecked => ?_
  rw [SlottedFile.ends_bind]
  refine (altered_freePage hsized).imp ?_ fun _ _ h => h
  rintro page p₁ ⟨hopened, hpage⟩
  have hgrown := (hopened fun _ => True).grown
  rw [SlottedFile.ends_bind, ends_look (f := fun l => l.firstFreeSlot)
    (PageLayout.firstFreeSlot_eq hgrown.sized.fits (p₁.page page))]
  cases hfind : (List.range p₁.layout.recordsPerPage).find?
      (fun i => !(p₁.layout.data (p₁.page page)).occupied i) with
  | none => trivial
  | some slot =>
    have hslot := List.mem_range.mp (List.mem_of_find?_eq_some hfind)
    have hempty : (p₁.data page).occupied slot = false := by
      have hclear := List.find?_some hfind
      rw [Bool.not_eq_true'] at hclear
      exact hclear
    dsimp only
    rw [SlottedFile.ends_bind]
    refine (altered_fillAndUnlink hgrown.sized ⟨page, slot⟩ hpage hslot ?_ .head).imp ?_
      fun _ _ h => h
    · rw [hgrown.layout_eq]
      exact length_of_checkSize hchecked
    · intro _ p₂ hfilled
      refine ⟨(hopened _).trans hfilled, Nat.lt_of_lt_of_eq hslot (by rw [hgrown.layout_eq]), ?_⟩
      intro hold
      rw [← hempty]
      exact ((hopened fun _ => False).occupied_eq ⟨page, slot⟩ hold not_false).symm

/-- **A record is inserted at a place** that is free. -/
theorem altered_insertAt (hsized : p.Sized) (id : RecordId) (data : List UInt8) :
    Ends (insertAt id data) p
      (fun _ p' => Altered (· = id) p p' ∧ id.page < p.header.pages ∧
        id.slot < p.layout.recordsPerPage ∧ (p.data id.page).occupied id.slot = false)
      fun e _ => e.IsError := by
  refine (looks_checkSize data).ends_bind fun _ hchecked => ?_
  have hsize : data.length = p.layout.recordSize := length_of_checkSize hchecked
  rw [SlottedFile.ends_bind, ends_checkPage]
  refine ⟨fun hpage => ?_, fun _ => trivial⟩
  rw [SlottedFile.ends_bind]
  refine ends_get.mpr (ends_ite.mpr ⟨fun hhas => ?_, fun _ => trivial⟩)
  have hslot : id.slot < p.layout.recordsPerPage := of_decide_eq_true hhas
  rw [SlottedFile.ends_bind, ends_look (f := fun l b => l.isOccupied b id.slot)
    (PageLayout.isOccupied_eq hsized.fits hslot)]
  refine ends_ite.mpr ⟨fun _ => trivial, fun hfree => ?_⟩
  have hempty : (p.data id.page).occupied id.slot = false := eq_false_of_ne_true hfree
  have hfill : ∀ position, Ends (fillAndUnlink id data position) p
      (fun _ p' => Altered (· = id) p p' ∧ id.page < p.header.pages ∧
        id.slot < p.layout.recordsPerPage ∧ (p.data id.page).occupied id.slot = false)
      fun e _ => e.IsError := fun position =>
    (altered_fillAndUnlink hsized id hpage hslot hsize position).imp
      (fun _ _ h => ⟨h, hpage, hslot, hempty⟩) fun _ _ h => h
  refine (looks_decode id.page).ends_bind fun header _ => ?_
  rw [SlottedFile.ends_bind]
  refine ends_get.mpr (ends_ite.mpr ⟨fun _ => ?_, fun _ => hfill .absent⟩)
  refine (looks_locate _).ends_bind fun position _ => ?_
  cases position with
  | head => exact hfill .head
  | absent => exact hfill .absent
  | after prev => exact (looks_checkPage prev).ends_bind fun _ _ => hfill (.after prev)

/-- **A record is deleted.** -/
theorem altered_delete (hsized : p.Sized) (id : RecordId) :
    Ends (delete id) p (fun _ p' => Altered (· = id) p p') fun e _ => e.IsError := by
  unfold delete
  rw [SlottedFile.ends_bind, ends_checkPage]
  refine ⟨fun hpage => ?_, fun _ => trivial⟩
  refine (looks_isLive hsized id).ends_bind fun live hlive => ends_ite.mpr
    ⟨fun htrue => ?_, fun _ => trivial⟩
  rw [htrue] at hlive
  have hslot := slot_lt_of_isLive hlive
  obtain ⟨_, b, hvacate, hdata⟩ :=
    (PageLayout.ends_vacateSlot (b := p.page id.page) hsized.fits hslot).exists_ok
  have hvacated : Altered (· = id) p (p.withPage id.page b) := by
    refine (Altered.refl hsized).withPage (fun slot hown => ?_) (fun slot _ => ?_)
      ((PageLayout.spares_vacateSlot hsized.fits hslot).of_ok hvacate) fun hlinked q hq => ?_
    · rw [hdata]
      exact Function.update_of_ne (fun heq => hown (by rw [heq])) _ _
    · rw [hdata]
      rfl
    · rw [hdata] at hq
      exact hlinked.next_lt id.page hpage q hq
  have hrest : ∀ relink : Bool, Ends (do
      edit id.page (·.vacateSlot id.slot)
      if relink then link id.page) p (fun _ p' => Altered (· = id) p p') fun e _ => e.IsError := by
    intro relink
    rw [SlottedFile.ends_bind, ends_edit hvacate]
    exact ends_ite.mpr ⟨fun _ => altered_link hvacated hpage, fun _ => hvacated⟩
  refine (looks_isFull id.page).ends_bind fun wasFull _ => ends_ite.mpr ⟨fun _ => ?_, fun _ => ?_⟩
  · exact (looks_canLink _).ends_bind fun relink _ => hrest relink
  · exact (looks_pure _).ends_bind fun relink _ => hrest relink

/-- **A record is replaced.** -/
theorem altered_update (hsized : p.Sized) (id : RecordId) (data : List UInt8) :
    Ends (update id data) p (fun _ p' => Altered (· = id) p p') fun e _ => e.IsError := by
  refine (looks_checkSize data).ends_bind fun _ hchecked => ?_
  rw [SlottedFile.ends_bind, ends_checkPage]
  refine ⟨fun hpage => ?_, fun _ => trivial⟩
  refine (looks_isLive hsized id).ends_bind fun live hlive => ends_ite.mpr
    ⟨fun htrue => ?_, fun _ => trivial⟩
  rw [htrue] at hlive
  have hslot := slot_lt_of_isLive hlive
  obtain ⟨_, b, hset, hdata⟩ := (PageLayout.ends_setSlot (b := p.page id.page) hsized.fits hslot
    (length_of_checkSize hchecked)).exists_ok
  refine (ends_edit hset).mpr ((Altered.refl hsized).withPage (fun slot _ => ?_) (fun slot hown => ?_)
    ((PageLayout.spares_setSlot hsized.fits hslot data).of_ok hset) fun hlinked q hq => ?_)
  · rw [hdata]
    rfl
  · rw [hdata]
    exact Function.update_of_ne (fun heq => hown (by rw [heq])) _ _
  · rw [hdata] at hq
    exact hlinked.next_lt id.page hpage q hq

end PlainFile

end SlottedFile
