import SlottedFile.Proofs.Page.Data
import SlottedFile.Proofs.Plain.Basic

/-!
# The steps of plain operations

What a plain operation does is read off its steps: the checks decide between
going on and failing, a look shows what a page says, and an edit that does not
overrun replaces a page. An operation that only looks leaves the file as it is,
whether it fails or not (`PlainFile.Reads`).
-/

namespace SlottedFile

namespace PlainFile

variable {α β : Type} {p : PlainFile}

/-- **A file of the size that its header tells**: its pages are as many as the
header counts, in a layout that fits. -/
structure Sized (p : PlainFile) : Prop where
  fits : p.layout.Fits
  count : p.count = p.header.pages

/-- **A file that is all there**: it has the size that its header tells, and the
header is written down. -/
structure Whole (p : PlainFile) : Prop extends Sized p where
  written : p.stored = Buffer.ofList blockSize p.header.encode

/-! ## The steps of plain operations -/

section Steps

variable {good : Unit → PlainFile → Prop} {bad : Fault RecordError → PlainFile → Prop}

theorem ends_checkPage {page : Nat} :
    Ends (checkPage page) p good bad ↔
      (page < p.header.pages → good () p) ∧
        (p.header.pages ≤ page → bad (.error (.pageNotExist page)) p) := by
  unfold checkPage
  rw [ends_bind]
  refine ends_ite.trans ?_
  rw [and_comm, not_le]
  rfl

/-- A page that was found is the one that was named, and is in the file. -/
theorem lt_of_checkPage {page a : Nat} {p' : PlainFile}
    (h : (do checkPage page; return page : PlainM Nat) p = .ok a p') :
    page < p.header.pages ∧ a = page ∧ p' = p := by
  have hends : Ends (do checkPage page; return page : PlainM Nat) p
      (fun a p' => page < p.header.pages ∧ a = page ∧ p' = p) (fun _ _ => True) := by
    rw [ends_bind, ends_checkPage]
    exact ⟨fun hlt => ⟨hlt, rfl, rfl⟩, fun _ => trivial⟩
  exact hends.of_ok h

theorem ends_checkSize {data : List UInt8} :
    Ends (checkSize data) p good bad ↔
      (data.length = p.header.recordSize → good () p) ∧
        (data.length ≠ p.header.recordSize →
          bad (.error (.invalidRecordSize p.header.recordSize data.length)) p) := by
  unfold checkSize
  rw [ends_bind]
  refine ends_ite.trans ?_
  rw [and_comm, ne_eq, not_not]
  rfl

theorem length_of_checkSize {data : List UInt8} {p' : PlainFile}
    (h : checkSize data p = .ok () p') : data.length = p.header.recordSize := by
  have hends : Ends (checkSize data) p (fun _ _ => data.length = p.header.recordSize)
      (fun _ _ => True) := ends_checkSize.mpr ⟨fun hlen => hlen, fun _ => trivial⟩
  exact hends.of_ok h

theorem ends_look {page : Nat} {f : PageLayout → Block → Except Overrun α} {a : α}
    (h : f p.layout (p.page page) = .ok a) {good : α → PlainFile → Prop} :
    Ends (look page f) p good bad ↔ good a p := by
  unfold look
  rw [ends_bind]
  show Ends (liftOverrun (f p.layout (p.page page))) p good bad ↔ _
  rw [h]
  rfl

theorem ends_edit {page : Nat} {e : PageLayout → Buffer.Edit blockSize α} {a : α} {b : Block}
    (h : e p.layout (p.page page) = .ok a b) {good : α → PlainFile → Prop} :
    Ends (edit page e) p good bad ↔ good a (p.withPage page b) := by
  have hrun : edit page e p = .ok a (p.withPage page b) := by
    unfold edit
    rw [h]
  unfold Ends
  rw [hrun]

theorem header_of_edit {page : Nat} {e : PageLayout → Buffer.Edit blockSize α} {a : α}
    {p' : PlainFile} (h : edit page e p = .ok a p') : p'.header = p.header := by
  unfold edit at h
  cases he : e p.layout (p.page page) with
  | ok a b =>
    rw [he] at h
    cases h
    rfl
  | error o b =>
    rw [he] at h
    cases h

theorem ends_putHeader {f : FileHeader → FileHeader} :
    Ends (putHeader f) p good bad ↔ good () (p.withHeader (f p.header)) := Iff.rfl

/-- The page behind the last one is made an empty one. -/
theorem addPage_eq {page : Nat} (h : page = p.header.pages) : addPage page p =
    (do
      edit page (·.init p.header.freeHead)
      putHeader fun h => { h with pages := h.pages + 1, freeHead := some page }) p := by
  unfold addPage
  show (if page ≠ p.header.pages then _ else _ : PlainM Unit) p = _
  rw [if_neg (not_not_intro h)]

end Steps

/-! ## New pages -/

/-- **The file with another page** at the front of the free list. -/
def added (p : PlainFile) (b : Block) : PlainFile :=
  (({ p with count := p.count + 1 } : PlainFile).withPage p.count b).withHeader
    { p.header with pages := p.header.pages + 1, freeHead := some p.count }

@[simp] theorem page_added (p : PlainFile) (b : Block) : (p.added b).page p.count = b :=
  Function.update_self _ _ _

/-- **A new page is an empty one** behind the last. -/
theorem ends_newPage (hsized : p.Sized) :
    Ends newPage p
      (fun page p' => page = p.count ∧ ∃ b, p' = p.added b ∧
        p.layout.data b = { p.layout.data (p.page p.count) with
          records := 0, next := storedLink p.header.freeHead, occupied := fun _ => false })
      (fun _ _ => False) := by
  obtain ⟨_, b, hinit, hdata⟩ := (PageLayout.ends_init (b := p.page p.count) hsized.fits
    p.header.freeHead).exists_ok
  set p₁ : PlainFile := { p with count := p.count + 1 } with hp₁
  have hadd : addPage p.count p₁ = .ok () (p.added b) := by
    have hedit : Ends (do
        edit p.count (·.init p₁.header.freeHead)
        putHeader fun h => { h with pages := h.pages + 1, freeHead := some p.count } : PlainM Unit) p₁
        (fun _ p' => p' = p.added b) (fun _ _ => False) := by
      rw [ends_bind, ends_edit hinit, ends_putHeader]
      rfl
    obtain ⟨_, _, hok, rfl⟩ := hedit.exists_ok
    exact (addPage_eq (p := p₁) hsized.count).trans hok
  unfold newPage
  rw [ends_bind]
  show Ends (do addPage p.count; return p.count : PlainM Nat) p₁ _ _
  rw [ends_bind]
  unfold Ends
  rw [hadd]
  exact ⟨rfl, b, rfl, hdata⟩

/-- **A page with a free slot** is the head of the free list as it was, or a new
page. -/
theorem ends_freePage (hsized : p.Sized) :
    Ends freePage p
      (fun page p' => p' = p ∧ p.header.freeHead = some page ∧ page < p.header.pages ∨
        p.header.freeHead = none ∧ page = p.count ∧ ∃ b, p' = p.added b ∧
          p.layout.data b = { p.layout.data (p.page p.count) with
            records := 0, next := storedLink none, occupied := fun _ => false })
      (fun e p' => p' = p ∧ ∃ page ∈ p.header.freeHead, p.header.pages ≤ page ∧
        e = .error (.pageNotExist page)) := by
  unfold freePage
  rw [ends_bind]
  refine ends_get.mpr ?_
  cases hhead : p.header.freeHead with
  | none =>
    refine (ends_newPage hsized).imp ?_ fun _ _ h => h.elim
    rintro page p' ⟨hpage, b, hp', hdata⟩
    rw [hhead] at hdata
    exact .inr ⟨rfl, hpage, b, hp', hdata⟩
  | some page =>
    show Ends (do checkPage page; return page : PlainM Nat) p _ _
    rw [ends_bind, ends_checkPage]
    exact ⟨fun hlt => .inl ⟨rfl, rfl, hlt⟩, fun hle => ⟨rfl, page, rfl, hle, rfl⟩⟩

theorem layout_of_freePage (hsized : p.Sized) {page : Nat} {p' : PlainFile}
    (h : freePage p = .ok page p') : p'.layout = p.layout := by
  obtain ⟨rfl, -, -⟩ | ⟨-, -, b, rfl, -⟩ := (ends_freePage hsized).of_ok h <;> rfl

/-- **A new page has a free slot**, so that one without was on the free list. -/
theorem listed_of_freePage (hsized : p.Sized) {page : Nat} {p' : PlainFile}
    (h : freePage p = .ok page p')
    (hfull : (List.range p'.layout.recordsPerPage).find?
      (fun i => !(p'.layout.data (p'.page page)).occupied i) = none) :
    p' = p ∧ p.header.freeHead = some page := by
  obtain ⟨rfl, hhead, -⟩ | ⟨-, rfl, b, rfl, hdata⟩ := (ends_freePage hsized).of_ok h
  · exact ⟨rfl, hhead⟩
  · have hnone := List.find?_eq_none.mp hfull 0 (List.mem_range.mpr hsized.fits.positive)
    rw [page_added, show (p.added b).layout = p.layout from rfl, hdata] at hnone
    exact absurd rfl hnone

/-! ## Plain operations that only look -/

/-- **A plain operation that changes nothing.** -/
def Reads (m : PlainM α) : Prop := ∀ p, Ends m p (fun _ p' => p' = p) (fun _ p' => p' = p)

theorem Reads.eq {m : PlainM α} (h : Reads m) {a : α} {p' : PlainFile} (hm : m p = .ok a p') :
    p' = p :=
  (h p).of_ok hm

theorem reads_pure (a : α) : Reads (pure a) := fun _ => rfl

theorem reads_fail (e : RecordError) : Reads (fail e : PlainM α) := fun _ => rfl

theorem Reads.bind {m : PlainM β} {k : β → PlainM α} (hm : Reads m) (hk : ∀ b, Reads (k b)) :
    Reads (m >>= k) := by
  intro p
  rw [ends_bind]
  refine (hm p).imp ?_ fun _ _ h => h
  rintro b _ rfl
  exact hk b _

theorem reads_get_bind {k : PlainFile → PlainM α} (hk : ∀ p, Reads (k p)) :
    Reads (EStateM.get >>= k) :=
  fun p => hk p p

theorem reads_ite {c : Prop} [Decidable c] {m n : PlainM α} (hm : Reads m) (hn : Reads n) :
    Reads (if c then m else n) := by
  split
  · exact hm
  · exact hn

theorem reads_look (page : Nat) (f : PageLayout → Block → Except Overrun α) :
    Reads (look page f) :=
  reads_get_bind fun _ _ => ends_liftOverrun.mpr ⟨fun _ _ => rfl, fun _ _ => rfl⟩

theorem reads_checkPage (page : Nat) : Reads (checkPage page) :=
  reads_get_bind fun _ => reads_ite (reads_fail _) (reads_pure _)

theorem reads_checkSize (data : List UInt8) : Reads (checkSize data) :=
  reads_get_bind fun _ => reads_ite (reads_fail _) (reads_pure _)

theorem reads_nextFree (page : Nat) : Reads (nextFree page) :=
  (reads_checkPage page).bind fun _ => (reads_look _ _).bind fun _ => reads_pure _

/-- **Induction along the walk** of a plain file, as along that of a record
file. -/
theorem locateFrom_induction {motive : PlainM FreePosition → Prop} {page : Nat}
    (found : ∀ position, motive (pure position))
    (endless : motive do fail (.internal (.endlessFreeList (← EStateM.get).header.pages)))
    (follow : ∀ {rest : Option Nat → PlainM FreePosition} (listed : Nat),
      (∀ next, motive (rest next)) → motive (nextFree listed >>= rest))
    (left : Nat) (prev current : Option Nat) : motive (locateFrom page left prev current) := by
  induction left generalizing prev current with
  | zero =>
    cases current with
    | none => exact found _
    | some listed =>
      unfold locateFrom
      split
      · exact found _
      · exact endless
  | succ left ih =>
    cases current with
    | none => exact found _
    | some listed =>
      unfold locateFrom
      split
      · exact found _
      · exact follow listed fun next => ih (some listed) next

theorem reads_locateFrom (page left : Nat) (prev current : Option Nat) :
    Reads (locateFrom page left prev current) :=
  locateFrom_induction (fun _ => reads_pure _) (reads_get_bind fun _ => reads_fail _)
    (fun listed hrest => (reads_nextFree listed).bind hrest) _ _ _

theorem reads_locate (page : Nat) : Reads (locate page) :=
  reads_get_bind fun _ => reads_locateFrom _ _ _ _

theorem reads_canLink (page : Nat) : Reads (canLink page) :=
  (reads_locate page).bind fun _ => reads_pure _

theorem reads_isLive (id : RecordId) : Reads (isLive id) :=
  reads_get_bind fun _ => reads_ite (reads_look _ _) (reads_pure _)

theorem reads_get (id : RecordId) : Reads (get id) :=
  (reads_checkPage id.page).bind fun _ => (reads_isLive id).bind fun _ =>
    reads_ite (reads_look _ _) ((reads_fail _).bind fun _ => reads_look _ _)

theorem reads_inspectPage (page : Nat) : Reads (inspectPage page) :=
  (reads_checkPage page).bind fun _ => (reads_look _ _).bind fun _ => (reads_look _ _).bind fun _ =>
    reads_get_bind fun _ => reads_pure _

theorem reads_inspectPages (pages : List Nat) : Reads (pages.mapM inspectPage) := by
  induction pages with
  | nil => exact reads_pure _
  | cons page pages ih =>
    rw [List.mapM_cons]
    exact (reads_inspectPage page).bind fun _ => ih.bind fun _ => reads_pure _

theorem reads_inspect : Reads inspect :=
  reads_get_bind fun _ => (reads_inspectPages _).bind fun _ => reads_pure _

theorem reads_check : Reads check :=
  reads_inspect.bind fun _ => reads_ite (reads_pure _) (reads_fail _)

theorem isLive_of_hasSlot {id : RecordId} (h : p.hasSlot id.slot = true) :
    isLive id p = look id.page (·.isOccupied · id.slot) p := by
  show (if p.hasSlot id.slot = true then _ else pure false : PlainM Bool) p = _
  rw [if_pos h]

theorem isLive_of_not_hasSlot {id : RecordId} (h : ¬p.hasSlot id.slot = true) :
    isLive id p = .ok false p := by
  show (if p.hasSlot id.slot = true then _ else pure false : PlainM Bool) p = _
  rw [if_neg h]
  rfl

/-- There is a record only in a slot that there is. -/
theorem slot_lt_of_isLive {id : RecordId} {p' : PlainFile} (h : isLive id p = .ok true p') :
    id.slot < p.layout.recordsPerPage := by
  by_cases hslot : p.hasSlot id.slot = true
  · exact of_decide_eq_true hslot
  · rw [isLive_of_not_hasSlot hslot] at h
    cases h

end PlainFile

end SlottedFile
