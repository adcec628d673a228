import SlottedFile.Proofs.Keyed.Represents
import SlottedFile.Proofs.Plain.Altering

/-!
# What a store tells of the bytes of a file

Many files represent one keyed store. The slots that are free may hold anything in them, a full
page may have a link that nobody follows, and there is the margin of each page. These are
all. Where one file came of the other by changes of some records, the margins are the same and
so are the slots of all other records, so that the two files have the same bytes as long as no
full page has a link (`Represents.same`).
-/

namespace SlottedFile

/-- **Files with the same bytes**: the header in memory and the one that is written down, and
every page. -/
structure PlainFile.Same (p p' : PlainFile) : Prop where
  header_eq : p'.header = p.header
  stored_eq : p'.stored = p.stored
  count_eq : p'.count = p.count
  page_eq : ∀ page < p.header.pages, p'.page page = p.page page

namespace Represents

variable {p p' : PlainFile} {k : KeyedStore} {own : RecordId → Prop}

/-- Two files that represent a store link the same pages, if no others have links. -/
theorem next_eq (h : Represents p k) (h' : Represents p' k) (hlinks : p.LinksOnly k.free)
    (hlinks' : p'.LinksOnly k.free) {page : Nat} (hpage : page < k.pages) :
    p'.next page = p.next page := by
  by_cases hmem : page ∈ k.free
  · exact h.chain.next_eq h'.chain page hmem
  · rw [hlinks page (Nat.lt_of_lt_of_eq hpage h.pages_eq) hmem,
      hlinks' page (Nat.lt_of_lt_of_eq hpage h'.pages_eq) hmem]

/-- **A page says the same in both files**, apart from what is in slots that are free. -/
theorem data_eq (h : Represents p k) (h' : Represents p' k) (hlinks : p.LinksOnly k.free)
    (hlinks' : p'.LinksOnly k.free) (haltered : p.Altered own p')
    (hown : ∀ id, own id → k.isLive id = true) {page : Nat} (hpage : page < k.pages) :
    p'.data page = p.data page := by
  ext1
  case records => rw [h.counted page hpage, h'.counted page hpage]
  case next => exact h.next_eq h' hlinks hlinks' hpage
  case occupied =>
    funext slot
    have hlive : k.isLive ⟨page, slot⟩ = _ := h.isLive_eq hpage
    have hlive' : k.isLive ⟨page, slot⟩ = _ := h'.isLive_eq hpage
    exact hlive'.symm.trans hlive
  case slot =>
    funext slot
    by_cases hmine : own ⟨page, slot⟩
    · have hlive := hown _ hmine
      exact Option.some.inj ((h'.slot_eq hlive).symm.trans (h.slot_eq hlive))
    · exact haltered.slot_eq ⟨page, slot⟩ (Nat.lt_of_lt_of_eq hpage h.pages_eq) hmine

/-- **A file that came of another one has the same bytes** if it represents the same store and
only records of the store were changed in the meantime. -/
theorem same (h : Represents p k) (h' : Represents p' k) (hlinks : p.LinksOnly k.free)
    (hlinks' : p'.LinksOnly k.free) (haltered : p.Altered own p')
    (hown : ∀ id, own id → k.isLive id = true) : p.Same p' := by
  have hlayout : p'.layout = p.layout := haltered.grown.layout_eq
  have hpages : p'.header.pages = p.header.pages := h'.pages_eq.symm.trans h.pages_eq
  have hheader : p'.header = p.header := by
    have hsize : p'.header.recordSize = p.header.recordSize := congrArg PageLayout.recordSize hlayout
    have hslots : p'.header.recordsPerPage = p.header.recordsPerPage :=
      congrArg PageLayout.recordsPerPage hlayout
    have hbitmap : p'.header.bitmapSize = p.header.bitmapSize :=
      congrArg PageLayout.bitmapSize hlayout
    have hhead : p'.header.freeHead = p.header.freeHead :=
      h'.chain.head_eq.trans h.chain.head_eq.symm
    cases hp : p.header
    cases hp' : p'.header
    rw [hp, hp'] at hsize hslots hpages hbitmap hhead
    dsimp only at hsize hslots hpages hbitmap hhead
    rw [hsize, hslots, hpages, hbitmap, hhead]
  refine ⟨hheader, ?_, ?_, fun page hpage => ?_⟩
  · rw [h'.whole.written, h.whole.written, hheader]
  · rw [h'.whole.count, h.whole.count, hpages]
  · have hdata := h.data_eq h' hlinks hlinks' haltered hown
      (Nat.lt_of_lt_of_eq hpage h.pages_eq.symm)
    have hmargin := haltered.margin_eq page hpage
    unfold PlainFile.data at hdata
    unfold PlainFile.margin at hmargin
    rw [hlayout] at hdata hmargin
    exact h.whole.fits.eq_of_data_eq hdata hmargin

end Represents

end SlottedFile
