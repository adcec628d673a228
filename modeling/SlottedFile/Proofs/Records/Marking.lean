import SlottedFile.Proofs.Records.Locating

/-!
# What a change writes to

A change of a record file begins with steps that may fail and only look, and ends with steps
that write and cannot fail (`Sure`): a place is filled or vacated, a link is set, the header is
written down. As nothing fails once something was written, what fails has stained nothing, and
what succeeds has stained no page but those that it was to write to (`StainsOnly`).

Where the two parts meet, pages are held. To find a page and pin it stains nothing, and
a page is given back with the mark of what was done to it in between (`stainsOnly_withPin`). The one
page that is stained when it is pinned is a new one, and it is the page that the record goes
to (`stainsOnly_insert`).
-/

namespace SlottedFile

open Store

/-! ## Steps that cannot fail -/

/-- **A session that was written to**, in no page but those in `V`. Its file is open as before,
with the same layout, and the same pins are held. -/
structure Session.Wrote (imageOf : Nat → ImageId) (raw : List Hold) (V : Set PageKey)
    (s s' : Session) : Prop where
  good : s'.Good imageOf raw
  handle_eq : s'.file.handle = s.file.handle
  layout_eq : s'.file.layout = s.file.layout
  holds : ∀ q, s.store.Holds q → s'.store.Holds q
  stains : Stains V s.store s'.store

theorem Session.Wrote.trans {imageOf : Nat → ImageId} {raw : List Hold} {V : Set PageKey}
    {s s' s'' : Session} (h : s.Wrote imageOf raw V s') (h' : s'.Wrote imageOf raw V s'') :
    s.Wrote imageOf raw V s'' where
  good := h'.good
  handle_eq := h'.handle_eq.trans h.handle_eq
  layout_eq := h'.layout_eq.trans h.layout_eq
  holds := fun q hq => h'.holds q (h.holds q hq)
  stains := h.stains.trans h'.stains

/-- The file stays as it is open, and the store is another. -/
theorem Session.Wrote.of_store {imageOf : Nat → ImageId} {raw : List Hold} {V : Set PageKey}
    {ids : List Nat} {s : Session} (hs : s.Good imageOf raw) {t : Store}
    (hsound : t.Sound imageOf raw) (htable : t.files.table = s.store.files.table)
    (hheld : SameHeld ids s.store.held t.held) (hstains : Stains V s.store t) :
    s.Wrote imageOf raw V { s with store := t } :=
  ⟨hs.of_table hsound htable, rfl, rfl, fun _ hq => hq.of_sameHeld hheld, hstains⟩

/-- **A step that cannot fail** and writes to no page but those in `V`. -/
def Sure {α : Type} (imageOf : Nat → ImageId) (raw : List Hold) (V : Set PageKey) (x : RecordM α)
    (s : Session) : Prop :=
  Ends x s (fun _ s' => s.Wrote imageOf raw V s') fun _ _ => False

section Steps

variable {imageOf : Nat → ImageId} {raw : List Hold} {V : Set PageKey} {p₀ : PlainFile}
  {s : Session} {pin : Pin} {α β : Type}

theorem sure_pure (hs : s.Good imageOf raw) (a : α) : Sure imageOf raw V (pure a) s :=
  ends_pure.mpr ⟨hs, rfl, rfl, fun _ h => h, .refl _⟩

/-- **One sure step after another.** -/
theorem Sure.bind {x : RecordM β} {f : β → RecordM α} (hx : Sure imageOf raw V x s)
    (hf : ∀ b s', s.Wrote imageOf raw V s' → Sure imageOf raw V (f b) s') :
    Sure imageOf raw V (x >>= f) s :=
  ends_bind.mpr (Ends.imp hx
    (fun b s' h => Ends.imp (hf b s' h) (fun _ _ h' => h.trans h') fun _ _ h' => h')
    fun _ _ h => h)

/-- The operation looks at the session. -/
theorem sure_get {f : Session → RecordM α} (h : Sure imageOf raw V (f s) s) :
    Sure imageOf raw V (get >>= f) s := h

theorem sure_report (hs : s.Good imageOf raw) (e : Event) :
    Sure imageOf raw V (Session.report e) s := by
  have hcoherent := (Settled.report hs.sound.coherent e).coherent
  refine ends_onStore.mpr (ends_report.mpr (.of_store hs ?_ rfl (.refl _ : SameHeld [] _ _) ?_))
  · exact ⟨hcoherent, hs.sound.ids_nodup, hs.sound.id_lt⟩
  · exact ⟨.refl _, fun h hmem => ⟨h, hmem, rfl⟩, Nat.le_refl _, fun _ h => .inl h⟩

/-- The holders of a pin with one number hold one page. -/
theorem Session.Good.key_eq (hs : s.Good imageOf raw) (hpin : s.store.Holds pin) :
    ∀ h ∈ s.store.held, h.pin.id = pin.id → h.pin.key = pin.key :=
  fun _ hmem hid => congrArg Pin.key (hs.sound.pin_eq hpin hmem hid)

/-- **An edit that never overruns** is written to a page that is held. -/
theorem sure_edit (hs : s.Good imageOf raw) (hpin : s.store.Holds pin) (hV : pin.key ∈ V)
    {e : PageLayout → Buffer.Edit blockSize α} {good : Block → α → Block → Prop}
    (hnever : ∀ b, Ends (e s.file.layout) b (good b) fun _ _ => False) :
    Sure imageOf raw V (Session.edit pin e) s := by
  obtain ⟨a, b, he, -⟩ := (hnever (s.store.content imageOf pin.key)).exists_ok
  refine ends_onStore.mpr ((Ends.and (Store.ends_edit hs.sound hpin he)
    (ends_edit_stains (hs.key_eq hpin) _)).imp ?_ fun _ _ h => h.1)
  rintro _ t ⟨⟨-, hsound, hheld, hpic⟩, hstains⟩
  exact .of_store hs hsound (congrArg Picture.table hpic) hheld
    (hstains.mono (Set.singleton_subset_iff.mpr hV))

/-- A holder notes that it wrote. -/
theorem sure_noteWrite (hs : s.Good imageOf raw) (hpin : s.store.Holds pin) (hV : pin.key ∈ V) :
    Sure imageOf raw V (Session.onStore fun _ => noteWrite pin) s := by
  refine ends_onStore.mpr ((Ends.and (Store.ends_noteWrite hs.sound hpin)
    (ends_noteWrite_stains (hs.key_eq hpin))).imp ?_ fun _ _ h => h.1)
  rintro _ t ⟨⟨hsound, hheld, hpic⟩, hstains⟩
  exact .of_store hs hsound (congrArg Picture.table hpic) hheld
    (hstains.mono (Set.singleton_subset_iff.mpr hV))

/-- **The header is written down** past the pool. -/
theorem sure_persistHeader (hs : s.Good imageOf raw) :
    Sure imageOf raw V Session.persistHeader s := by
  have hfiles : Ends Session.persistHeader s (fun _ s' => Stains V s.store s'.store)
      fun _ _ => True := by
    unfold Session.persistHeader RecordFile.persistHeader RecordFile.passing
    rw [ends_onStore, ends_widenError, ends_onFiles]
    refine (Files.ends_writeHeader hs.sound.coherent.files s.file.handle _).imp ?_
      fun _ _ _ => trivial
    rintro _ _ ⟨o, ho, rfl⟩
    exact .of_files (.putBlock (hs.sound.coherent.files.lt_images ho) _ _)
  refine (Ends.and (ends_persistHeader hs) hfiles).imp ?_ fun _ _ h => h.1
  rintro _ s' ⟨⟨hbecame, hheld⟩, hstains⟩
  refine ⟨hbecame.good, hbecame.handle_eq, ?_, ?_, hstains⟩
  swap
  · exact fun _ hq => hq.of_sameHeld (.of_eq hheld : SameHeld [] _ _)
  rw [hbecame.file]
  rfl

/-- A header with the same layout takes the place of the other. -/
theorem sure_putHeader (hs : s.Good imageOf raw) {f : FileHeader → FileHeader}
    (hlayout : (f s.file.header).layout = s.file.header.layout) :
    Sure imageOf raw V (do Session.modifyHeader f; Session.persistHeader) s := by
  set s₁ : Session := { s with file := { s.file with header := f s.file.header } } with hs₁
  have hpersist : Sure imageOf raw V Session.persistHeader s₁ :=
    sure_persistHeader ⟨hs.sound, hs.opened⟩
  refine ends_bind.mpr (ends_modify.mpr (Ends.imp hpersist ?_ fun _ _ h => h))
  intro _ s' h
  exact ⟨h.good, h.handle_eq, h.layout_eq.trans hlayout, h.holds, h.stains⟩

theorem sure_setFreeHead (hs : s.Good imageOf raw) (head : Option Nat) :
    Sure imageOf raw V (Session.setFreeHead head) s :=
  sure_putHeader hs rfl

/-- **To put a page on the free list** is to write to it. -/
theorem sure_link (hs : s.Good imageOf raw) (hfits : s.file.layout.Fits) (hpin : s.store.Holds pin)
    (hV : pin.key ∈ V) : Sure imageOf raw V (Session.link pin) s := by
  unfold Session.link
  refine sure_get ?_
  refine (sure_edit hs hpin hV fun _ => PageLayout.ends_setNext hfits _).bind fun _ _ h₁ => ?_
  exact (sure_setFreeHead h₁.good _).bind fun _ _ h₂ => sure_report h₂.good _

/-- **To fill a place** is to write to its page, and to the one before it on the free list if that
page is full then. -/
theorem sure_fillAndUnlink (hs : s.Good imageOf raw) (hfits : s.file.layout.Fits)
    (hpin : s.store.Holds pin) (hV : pin.key ∈ V) {id : RecordId} {data : List UInt8}
    (hslot : id.slot < s.file.layout.recordsPerPage)
    (hsize : data.length = s.file.layout.recordSize) {position : FreePosition}
    {before : Option Pin} (hbefore : ∀ q ∈ before, s.store.Holds q ∧ q.key ∈ V) :
    Sure imageOf raw V (Session.fillAndUnlink pin id data position before) s := by
  unfold Session.fillAndUnlink
  refine (sure_edit hs hpin hV fun _ => PageLayout.ends_fillSlot hfits hslot hsize).bind ?_
  rintro ⟨full, next⟩ s₁ h₁
  have hunlisted : Sure imageOf raw V (do
      Session.report (.fullPageUnlisted id.page)
      Session.report (.pageUnlisted id.page)) s₁ :=
    (sure_report h₁.good _).bind fun _ _ h₂ => sure_report h₂.good _
  cases full with
  | false => exact sure_pure h₁.good _
  | true =>
    cases position with
    | head => exact (sure_setFreeHead h₁.good _).bind fun _ _ h₂ => sure_report h₂.good _
    | absent => exact hunlisted
    | after prev =>
      cases before with
      | none => exact hunlisted
      | some q =>
        obtain ⟨hq, hqV⟩ := hbefore q rfl
        refine (sure_edit h₁.good (h₁.holds q hq) hqV fun _ =>
          PageLayout.ends_setNext (h₁.layout_eq ▸ hfits) next).bind fun _ _ h₂ => ?_
        exact sure_report h₂.good _

/-- **To vacate a place** is to write to its page, also if it joins the free list. -/
theorem sure_vacateAndLink (hs : s.Good imageOf raw) (hfits : s.file.layout.Fits)
    (hpin : s.store.Holds pin) (hV : pin.key ∈ V) {slot : Nat}
    (hslot : slot < s.file.layout.recordsPerPage) (relink : Bool) :
    Sure imageOf raw V (do
      Session.edit pin (·.vacateSlot slot)
      if relink then Session.link pin) s := by
  refine (sure_edit hs hpin hV fun _ => PageLayout.ends_vacateSlot hfits hslot).bind fun _ _ h₁ => ?_
  cases relink with
  | false => exact sure_pure h₁.good _
  | true => exact sure_link h₁.good (h₁.layout_eq ▸ hfits) (h₁.holds pin hpin) hV

end Steps

/-! ## Looking before writing -/

/-- **An operation that writes to no page but those in `W`**, which may depend on what it comes
to, and to none if it fails. -/
def StainsOnly {α : Type} (W : α → Set PageKey) (x : RecordM α) (s : Session) : Prop :=
  Ends x s (fun a s' => Stains (W a) s.store s'.store) fun _ s' => s.store.Intact s'.store

section Rules

variable {imageOf : Nat → ImageId} {raw : List Hold} {V : Set PageKey} {p₀ : PlainFile}
  {s : Session} {α β : Type} {W : α → Set PageKey}

theorem stainsOnly_fail (e : RecordError) : StainsOnly W (fail e : RecordM α) s := Intact.refl s.store

/-- The operation looks at the session. -/
theorem stainsOnly_get {f : Session → RecordM α} (h : StainsOnly W (f s) s) :
    StainsOnly W (get >>= f) s := h

theorem Sure.stainsOnly {x : RecordM α} (h : Sure imageOf raw V x s) : StainsOnly (fun _ => V) x s :=
  Ends.imp h (fun _ _ h => h.stains) fun _ _ h => h.elim

/-- **First a look at the file**, which tells what the plain file tells, and then the rest. -/
theorem StainsOnly.bind_read {x : RecordFile → StoreM RecordError β} {m : PlainM β}
    {f : β → RecordM α} (hs : s.Good imageOf raw) (hp : s.plain imageOf = p₀)
    (hx : Does imageOf raw [] p₀ (Session.onStore x) m s) (hread : PlainFile.Reads m)
    (hspotless : Spotless (x s.file))
    (hf : ∀ b s', m p₀ = .ok b p₀ → Session.Became imageOf raw s p₀ s' →
      SameHeld [] s.store.held s'.store.held → StainsOnly W (f b) s') :
    StainsOnly W (Session.onStore x >>= f) s := by
  have hlook : Ends (Session.onStore x) s (fun _ s' => s.store.Intact s'.store)
      fun _ s' => s.store.Intact s'.store := ends_onStore.mpr (hspotless s.store hs.numbered)
  refine ends_bind.mpr (Ends.imp (Ends.and hx hlook) ?_ fun _ _ h => h.2)
  rintro b s₁ ⟨⟨p₁, hm, hbecame, hheld⟩, hintact⟩
  rw [hp] at hm
  obtain rfl := hread.eq hm
  exact Ends.imp (hf b s₁ hm hbecame hheld)
    (fun _ _ h => hintact.toStains.of_none.trans h) fun _ _ h => hintact.trans h

/-- **What is done while a page is held.** -/
theorem stainsOnly_withPin {take : RecordM Pin} {body : Pin → RecordM α}
    {taken : Pin → Session → Prop} (hs : s.store.Numbered)
    (htake : Ends take s taken fun _ s' => s.store.Intact s'.store)
    (hbody : ∀ pin s', taken pin s' →
      Ends (body pin) s' (fun a s'' => Lent (W a) pin s.store s''.store)
        fun _ s'' => Lent ∅ pin s.store s''.store ∧ s.store.Keeps s''.store) :
    StainsOnly W (Session.withPin take body) s := by
  unfold StainsOnly Session.withPin Session.release
  rw [ends_bind]
  refine Ends.imp htake (fun pin s₁ h => ?_) fun _ _ h => h
  rw [ends_tryFinally]
  refine Ends.imp (hbody pin s₁ h) ?_ ?_
  · intro a s₂ hlent
    exact ends_onStore.mpr ((hlent.ends_release hs).imp (fun _ _ h => h.1) fun _ _ h => h.elim)
  · rintro e s₂ ⟨hlent, hkeeps⟩
    exact ends_onStore.mpr ((hlent.ends_release hs).imp (fun _ _ h => ⟨h.1, hkeeps.trans h.2⟩)
      fun _ _ h => h.elim)

/-- **A page of the file is pinned**, and nothing is stained. -/
theorem ends_pinPage_unstained (hs : s.Good imageOf raw) (hp : s.plain imageOf = p₀)
    (hsized : p₀.Sized) (page : Nat) :
    Ends (Session.pinPage page) s
      (fun pin s' => page < p₀.header.pages ∧ Session.Became imageOf raw s p₀ s' ∧
        pin.key = ⟨s.file.handle, page⟩ ∧ s'.store.Holds pin ∧
        (∀ q, s.store.Holds q → s'.store.Holds q) ∧
        Lent ∅ pin s.store s'.store ∧ s.store.Keeps s'.store)
      fun _ s' => s.store.Intact s'.store := by
  have hlent : Ends (Session.pinPage page) s
      (fun pin s' => Lent ∅ pin s.store s'.store ∧ s.store.Keeps s'.store)
      fun _ s' => s.store.Intact s'.store :=
    ends_onStore.mpr ((s.file.ends_pinPage_lent page hs.sound.coherent.files).imp
      (fun _ _ h => ⟨h.2.1, h.2.2.2⟩) fun _ _ h => h.intact)
  have htakes : Takes imageOf raw [] p₀ _ _ s :=
    takes_pinPage hs hp (Nat.le_of_eq hsized.count.symm) page
  refine (Ends.and htakes hlent).imp ?_ fun _ _ h => h.2
  rintro pin s' ⟨⟨page', p', dirty, hm, hbecame, hkey, -, hheld⟩, hkept⟩
  rw [hp] at hm
  obtain ⟨hlt, rfl, rfl⟩ := PlainFile.lt_of_checkPage hm
  obtain ⟨hholds, hold⟩ := Holds.of_cons hheld
  exact ⟨hlt, hbecame, hkey, hholds, hold, hkept⟩

/-- **What is done while a page of the file is pinned.** -/
theorem stainsOnly_pinned (hs : s.Good imageOf raw) (hp : s.plain imageOf = p₀) (hsized : p₀.Sized)
    {page : Nat} {body : Pin → RecordM α}
    (hbody : page < p₀.header.pages → ∀ pin s', Session.Became imageOf raw s p₀ s' →
      pin.key = ⟨s.file.handle, page⟩ → s'.store.Holds pin →
      (∀ q, s.store.Holds q → s'.store.Holds q) → StainsOnly W (body pin) s') :
    StainsOnly W (Session.withPin (Session.pinPage page) body) s := by
  refine stainsOnly_withPin hs.numbered (ends_pinPage_unstained hs hp hsized page) ?_
  rintro pin s₁ ⟨hlt, hbecame, hkey, hholds, hold, hlent, hkeeps⟩
  exact Ends.imp (hbody hlt pin s₁ hbecame hkey hholds hold)
    (fun _ _ h => (hlent.mono (Set.empty_subset _)).trans h)
    fun _ _ h => ⟨hlent.trans h.toStains, hkeeps.trans h.toKeeps⟩

end Rules

/-! ## Changes of records -/

section Records

variable {imageOf : Nat → ImageId} {raw : List Hold} {V : Set PageKey} {p₀ : PlainFile}
  {s : Session} {pin : Pin}

theorem spotless_checkSize {f : RecordFile} (data : List UInt8) : Spotless (f.checkSize data) :=
  spotless_ite (spotless_fail _) (spotless_pure _)

theorem spotless_live {f : RecordFile} (pin : Pin) (id : RecordId) :
    Spotless (if f.hasSlot id.slot then view pin (f.layout.isOccupied · id.slot) else pure false :
      StoreM RecordError Bool) :=
  spotless_ite (spotless_view pin _) (spotless_pure _)

/-- **To replace a record** is to write to its page. -/
theorem stainsOnly_update (hs : s.Good imageOf raw) (hp : s.plain imageOf = p₀) (hsized : p₀.Sized)
    (id : RecordId) (data : List UInt8) :
    StainsOnly (fun _ => {⟨s.file.handle, id.page⟩}) (Session.update id data) s := by
  unfold Session.update
  refine .bind_read hs hp (does_checkSize hs hp data) (PlainFile.reads_checkSize data)
    (spotless_checkSize data) fun _ s₁ hm hbecame _ => ?_
  have hsize : data.length = p₀.layout.recordSize := PlainFile.length_of_checkSize hm
  rw [← hbecame.handle_eq]
  refine stainsOnly_pinned hbecame.good hbecame.plain_eq hsized
    fun _ pin s₂ hbecame₂ hkey hholds _ => ?_
  have hp₂ := hbecame₂.plain_eq
  refine .bind_read hbecame₂.good hp₂
    (does_isLive hbecame₂.good hp₂ hholds (by rw [hkey, hbecame₂.handle_eq]))
    (PlainFile.reads_isLive id) (spotless_live pin id) ?_
  rintro (_ | _) s₃ hm hbecame₃ hheld₃
  · exact stainsOnly_fail _
  · have hlayout : s₃.file.layout = p₀.layout := congrArg PlainFile.layout hbecame₃.plain_eq
    exact (sure_edit (e := (·.setSlot id.slot data)) hbecame₃.good (hholds.of_sameHeld hheld₃) hkey
      fun _ => PageLayout.ends_setSlot (hlayout ▸ hsized.fits)
        (hlayout ▸ PlainFile.slot_lt_of_isLive hm) (hlayout ▸ hsize)).stainsOnly

/-- **To delete a record** is to write to its page. -/
theorem stainsOnly_delete (hs : s.Good imageOf raw) (hp : s.plain imageOf = p₀) (hsized : p₀.Sized)
    (id : RecordId) :
    StainsOnly (fun _ => {⟨s.file.handle, id.page⟩}) (Session.delete id) s := by
  unfold Session.delete
  refine stainsOnly_pinned hs hp hsized fun _ pin s₁ hbecame hkey hholds _ => ?_
  have hp₁ := hbecame.plain_eq
  have hkey₁ : pin.key = ⟨s₁.file.handle, id.page⟩ := by rw [hkey, hbecame.handle_eq]
  refine .bind_read hbecame.good hp₁ (does_isLive hbecame.good hp₁ hholds hkey₁)
    (PlainFile.reads_isLive id) (spotless_live pin id) ?_
  rintro (_ | _) s₂ hm hbecame₂ hheld₂
  · exact stainsOnly_fail _
  have hslot := PlainFile.slot_lt_of_isLive hm
  have hp₂ := hbecame₂.plain_eq
  have hholds₂ := hholds.of_sameHeld hheld₂
  refine .bind_read hbecame₂.good hp₂ (does_view (f := fun l => l.isFull) hbecame₂.good hholds₂
    (by rw [hkey₁, hbecame₂.handle_eq]) (.inl hp₂)) (PlainFile.reads_look _ _)
    (spotless_view pin _) ?_
  intro wasFull s₃ _ hbecame₃ hheld₃
  have hp₃ := hbecame₃.plain_eq
  have hholds₃ := hholds₂.of_sameHeld hheld₃
  -- by now all is known that the change depends on, but for the place in the free list
  have hchange : ∀ (s' : Session) (relink : Bool), s'.Good imageOf raw → s'.plain imageOf = p₀ →
      s'.store.Holds pin → StainsOnly (fun _ => {⟨s.file.handle, id.page⟩}) (do
        Session.edit pin (·.vacateSlot id.slot)
        if relink then Session.link pin) s' := by
    intro s' relink hs' hp' hholds'
    have hlayout : s'.file.layout = p₀.layout := congrArg PlainFile.layout hp'
    exact (sure_vacateAndLink hs' (hlayout ▸ hsized.fits) hholds' hkey (hlayout ▸ hslot)
      relink).stainsOnly
  cases wasFull with
  | false => exact hchange s₃ false hbecame₃.good hp₃ hholds₃
  | true =>
    refine .bind_read hbecame₃.good hp₃ (does_canLink hbecame₃.good hp₃ hsized id.page)
      (PlainFile.reads_canLink id.page) (spotless_canLink id.page) ?_
    intro relink s₄ _ hbecame₄ hheld₄
    exact hchange s₄ relink hbecame₄.good hbecame₄.plain_eq (hholds₃.of_sameHeld hheld₄)

/-- **To fill a place of a page that is held.** -/
theorem stainsOnly_fillAndUnlink (hs : s.Good imageOf raw) (hp : s.plain imageOf = p₀)
    (hsized : p₀.Sized) (hpin : s.store.Holds pin) (hV : pin.key ∈ V) {id : RecordId}
    {data : List UInt8} (hslot : id.slot < p₀.layout.recordsPerPage)
    (hsize : data.length = p₀.layout.recordSize) {position : FreePosition} {before : Option Pin}
    (hbefore : ∀ q ∈ before, s.store.Holds q ∧ q.key ∈ V) :
    StainsOnly (fun _ => V) (Session.fillAndUnlink pin id data position before) s := by
  have hlayout : s.file.layout = p₀.layout := congrArg PlainFile.layout hp
  exact (sure_fillAndUnlink hs (hlayout ▸ hsized.fits) hpin hV (hlayout ▸ hslot)
    (hlayout ▸ hsize) hbefore).stainsOnly

/-- **To find a page on the free list, fill one of its places and unlink it** is to write to it, and
to the page before it. -/
theorem stainsOnly_unlinkAndFill (hs : s.Good imageOf raw) (hp : s.plain imageOf = p₀)
    (hsized : p₀.Sized) (hpin : s.store.Holds pin) (hV : pin.key ∈ V) {id : RecordId}
    {data : List UInt8} (hslot : id.slot < p₀.layout.recordsPerPage)
    (hsize : data.length = p₀.layout.recordSize)
    (hbehind : ∀ prev, PlainFile.locate id.page p₀ = .ok (.after prev) p₀ →
      ⟨s.file.handle, prev⟩ ∈ V) :
    StainsOnly (fun _ => V) (do
      match ← Session.onStore (·.locate id.page) with
      | .after prev =>
        Session.withPin (Session.pinPage prev) fun before =>
          Session.fillAndUnlink pin id data (.after prev) (some before)
      | position => Session.fillAndUnlink pin id data position none) s := by
  refine .bind_read hs hp (does_locate hs hp hsized id.page) (PlainFile.reads_locate id.page)
    (spotless_locate id.page) fun position s₁ hm hbecame hheld => ?_
  have hp₁ := hbecame.plain_eq
  have hholds := hpin.of_sameHeld hheld
  cases position with
  | head => exact stainsOnly_fillAndUnlink hbecame.good hp₁ hsized hholds hV hslot hsize nofun
  | absent => exact stainsOnly_fillAndUnlink hbecame.good hp₁ hsized hholds hV hslot hsize nofun
  | after prev =>
    refine stainsOnly_pinned hbecame.good hp₁ hsized fun _ before s₂ hbecame₂ hkey hbefore hold => ?_
    refine stainsOnly_fillAndUnlink hbecame₂.good hbecame₂.plain_eq hsized (hold pin hholds) hV hslot
      hsize ?_
    rintro _ ⟨⟩
    rw [hkey, hbecame.handle_eq]
    exact ⟨hbefore, hbehind prev hm⟩

/-- **A page that links to the place of a record** that is about to be filled: the place is the last
one of its page, and that page comes next on the free list. -/
def PlainFile.LinksTo (p : PlainFile) (page : Nat) (id : RecordId) : Prop :=
  p.header.recordsPerPage ≤ (p.data id.page).records + 1 ∧
    ∃ before rest, p.report.freeList = before ++ page :: id.page :: rest

/-- **To insert a record at a given place** is to write to its page, and to the one before it on the
free list if the place was the last one. -/
theorem stainsOnly_insertAt (hs : s.Good imageOf raw) (hp : s.plain imageOf = p₀)
    (hsized : p₀.Sized) (id : RecordId) (data : List UInt8) :
    StainsOnly (fun _ => {k | k.file = s.file.handle ∧ (k.page = id.page ∨ p₀.LinksTo k.page id)})
      (Session.insertAt id data) s := by
  unfold Session.insertAt
  refine .bind_read hs hp (does_checkSize hs hp data) (PlainFile.reads_checkSize data)
    (spotless_checkSize data) fun _ s₁ hm hbecame _ => ?_
  have hsize : data.length = p₀.layout.recordSize := PlainFile.length_of_checkSize hm
  rw [← hbecame.handle_eq]
  set V : Set PageKey :=
    {k | k.file = s₁.file.handle ∧ (k.page = id.page ∨ p₀.LinksTo k.page id)} with hV
  refine stainsOnly_pinned hbecame.good hbecame.plain_eq hsized
    fun hpage pin s₂ hbecame₂ hkey hholds _ => ?_
  have hp₂ := hbecame₂.plain_eq
  have hpinV : pin.key ∈ V := by
    rw [hkey]
    exact ⟨rfl, .inl rfl⟩
  rw [← hbecame₂.handle_eq] at hkey hV
  refine stainsOnly_get ?_
  by_cases hslot : s₂.file.hasSlot id.slot = true
  · have hlt : id.slot < p₀.layout.recordsPerPage := by
      have hslot' : (s₂.plain imageOf).hasSlot id.slot = true := hslot
      rw [hp₂] at hslot'
      exact of_decide_eq_true hslot'
    simp only [hslot, if_true]
    refine .bind_read hbecame₂.good hp₂ (does_view (f := fun l b => l.isOccupied b id.slot)
      hbecame₂.good hholds hkey (.inl hp₂)) (PlainFile.reads_look _ _) (spotless_view pin _) ?_
    rintro (_ | _) s₃ _ hbecame₃ hheld₃
    · have hp₃ := hbecame₃.plain_eq
      have hholds₃ := hholds.of_sameHeld hheld₃
      rw [← hbecame₃.handle_eq] at hkey hV
      refine .bind_read hbecame₃.good hp₃ (does_view (f := fun _ => PageHeader.decode)
        hbecame₃.good hholds₃ hkey (.inl hp₃)) (PlainFile.reads_look _ _) (spotless_view pin _) ?_
      intro header s₄ hm₄ hbecame₄ hheld₄
      have hp₄ := hbecame₄.plain_eq
      have hholds₄ := hholds₃.of_sameHeld hheld₄
      rw [← hbecame₄.handle_eq] at hV
      by_cases hlast : header.records + 1 ≥ s₂.file.header.recordsPerPage
      · simp only [hlast, if_true]
        refine stainsOnly_unlinkAndFill hbecame₄.good hp₄ hsized hholds₄ hpinV hlt hsize
          fun prev hlocate => ?_
        have hlook : Ends (PlainFile.look id.page fun _ => PageHeader.decode) p₀
            (fun h _ => h.records = (p₀.data id.page).records) fun _ _ => True :=
          (PlainFile.ends_look (PageLayout.decode_eq _ p₀.layout)).mpr rfl
        have hperPage : s₂.file.header.recordsPerPage = p₀.header.recordsPerPage := by
          rw [← hp₂]
          rfl
        rw [hlook.of_ok hm₄, hperPage] at hlast
        rw [hV]
        exact ⟨rfl, .inr ⟨hlast, ((p₀.ends_locate_report hpage).of_ok hlocate).1⟩⟩
      · simp only [hlast, if_false]
        exact stainsOnly_fillAndUnlink hbecame₄.good hp₄ hsized hholds₄ hpinV hlt hsize nofun
    · exact stainsOnly_fail _
  · simp only [hslot]
    exact stainsOnly_fail _

/-- **A new page** is pinned, and is the only one that is stained. If there is none, nothing is
stained. -/
theorem ends_newPage_stained (hs : s.Good imageOf raw) (hp : s.plain imageOf = p₀)
    (hsized : p₀.Sized) :
    Ends Session.newPage s (fun pin s' => Lent {pin.key} pin s.store s'.store)
      fun _ s' => s.store.Intact s'.store := by
  have hgrow : Takes imageOf raw [] p₀ (Session.onStore fun f =>
      widenError (fun e => .internal (.allocate e)) (pinNewPage f.handle)) PlainFile.grow s :=
    takes_grow hs hp
  have hlent : Ends (Session.onStore fun f =>
      widenError (fun e => RecordError.internal (.allocate e)) (pinNewPage f.handle)) s
      (fun pin s' => Lent {pin.key} pin s.store s'.store) fun _ s' => s.store.Intact s'.store :=
    ends_onStore.mpr (ends_widenError.mpr ((ends_pinNewPage_lent hs.sound.coherent.files
      s.file.handle).imp (fun _ _ h => h) fun _ _ h => h.intact))
  unfold Session.newPage
  refine ends_bind.mpr ((Ends.and hgrow hlent).imp ?_ fun _ _ h => h.2)
  rintro pin s₁ ⟨⟨page, p₁, dirty, hm, hbecame, hkey, -, hheld⟩, hlent⟩
  obtain ⟨rfl, rfl⟩ : page = p₀.count ∧ p₁ = { p₀ with count := p₀.count + 1 } := by
    rw [hp] at hm
    cases hm
    exact ⟨rfl, rfl⟩
  have hp₁ := hbecame.plain_eq
  have hholds := (Holds.of_cons hheld).1
  have hlayout : s₁.file.layout = p₀.layout := congrArg PlainFile.layout hp₁
  have hlast : ¬pin.key.page ≠ s₁.file.header.pages := by
    have hpages : s₁.file.header.pages = p₀.header.pages :=
      congrArg (fun p => p.header.pages) hp₁
    rw [hkey, hpages]
    exact not_not_intro hsized.count
  have hstained : pin.key ∈ ({pin.key} : Set PageKey) := rfl
  -- nothing fails any more, so that the pin is not given back
  refine ends_onFailure.mpr (Ends.imp ?_
    (fun q s' (h : q = pin ∧ s₁.Wrote imageOf raw {pin.key} s') => ?_) fun _ _ (h : False) => h.elim)
  · refine ends_bind.mpr (ends_get.mpr ?_)
    dsimp only
    rw [if_neg hlast]
    refine Ends.bind (sure_edit hbecame.good hholds hstained fun _ =>
      PageLayout.ends_init (hlayout ▸ hsized.fits) _) fun _ s₂ h₂ => ?_
    rw [← bind_assoc]
    refine Ends.bind (sure_putHeader (V := {pin.key}) h₂.good rfl) fun _ s₃ h₃ => ?_
    refine Ends.bind (sure_noteWrite h₃.good (h₃.holds pin (h₂.holds pin hholds)) hstained)
      fun _ s₄ h₄ => ?_
    refine Ends.bind (sure_report (V := {pin.key}) h₄.good _) fun _ s₅ h₅ => ?_
    exact ⟨rfl, ((h₂.trans h₃).trans h₄).trans h₅⟩
  · rw [h.1]
    exact hlent.trans h.2.stains

/-- **A page with a free place** is pinned, and stained only if it is new. -/
theorem ends_freePage_stained (hs : s.Good imageOf raw) (hp : s.plain imageOf = p₀)
    (hsized : p₀.Sized) :
    Ends Session.freePage s
      (fun pin s' => Lent {pin.key} pin s.store s'.store ∧
        (p₀.header.freeHead ≠ none → Lent ∅ pin s.store s'.store ∧ s.store.Keeps s'.store))
      fun _ s' => s.store.Intact s'.store := by
  have hhead : s.file.header.freeHead = p₀.header.freeHead :=
    congrArg (fun p => p.header.freeHead) hp
  unfold Session.freePage
  refine ends_bind.mpr (ends_get.mpr ?_)
  rw [hhead]
  cases p₀.header.freeHead with
  | none =>
    exact (ends_newPage_stained hs hp hsized).imp (fun _ _ h => ⟨h, absurd rfl⟩) fun _ _ h => h
  | some page =>
    refine (ends_pinPage_unstained hs hp hsized page).imp ?_ fun _ _ h => h
    rintro pin s' ⟨-, -, -, -, -, hlent, hkeeps⟩
    exact ⟨hlent.mono (Set.empty_subset _), fun _ => ⟨hlent, hkeeps⟩⟩

/-- **To insert a record** is to write to the page that it goes to. -/
theorem stainsOnly_insert (hs : s.Good imageOf raw) (hp : s.plain imageOf = p₀) (hsized : p₀.Sized)
    (data : List UInt8) :
    StainsOnly (fun id => {⟨s.file.handle, id.page⟩}) (Session.insert data) s := by
  unfold Session.insert
  refine .bind_read hs hp (does_checkSize hs hp data) (PlainFile.reads_checkSize data)
    (spotless_checkSize data) fun _ s₁ hm hbecame _ => ?_
  have hsize : data.length = p₀.layout.recordSize := PlainFile.length_of_checkSize hm
  rw [← hbecame.handle_eq]
  have hp₁ := hbecame.plain_eq
  have htakes : Takes imageOf raw [] p₀ _ _ s₁ := takes_freePage hbecame.good hp₁ hsized
  refine stainsOnly_withPin hbecame.good.numbered
    ((Ends.and htakes (ends_freePage_stained hbecame.good hp₁ hsized)).imp (fun _ _ h => h)
      fun _ _ h => h.2) ?_
  rintro pin s₂ ⟨⟨page, p₂, dirty, hm₂, hbecame₂, hkey, -, hheld⟩, hlent, hlisted⟩
  rw [hp₁] at hm₂
  have hp₂ := hbecame₂.plain_eq
  have hholds := (Holds.of_cons hheld).1
  have hlayout₂ : s₂.file.layout = p₂.layout := congrArg PlainFile.layout hp₂
  have hlayout := hlayout₂.trans (PlainFile.layout_of_freePage hsized hm₂)
  have hfits : s₂.file.layout.Fits := hlayout ▸ hsized.fits
  have hcontent : s₂.store.content imageOf pin.key = p₂.page page := by
    rw [hkey, ← hp₂, ← hbecame₂.handle_eq]
    rfl
  refine ends_bind.mpr (ends_onStore.mpr ((ends_view hbecame₂.good.sound hholds).mpr ?_))
  rw [hcontent, PageLayout.firstFreeSlot_eq hfits]
  refine ⟨fun slot? hslot? => ?_, nofun⟩
  cases slot? with
  | none =>
    rw [hlayout₂] at hslot?
    have hhead := (PlainFile.listed_of_freePage hsized hm₂ (Except.ok.inj hslot?)).2
    exact hlisted (by rw [hhead]; exact nofun)
  | some slot =>
    have hslot := List.mem_range.mp (List.mem_of_find?_eq_some (Except.ok.inj hslot?))
    have hsame : (⟨s₁.file.handle, pin.key.page⟩ : PageKey) = pin.key := by rw [hkey]
    have hstained : pin.key ∈ ({pin.key} : Set PageKey) := rfl
    refine Ends.imp ?_ (fun id s' (h : id.page = pin.key.page ∧
      s₂.Wrote imageOf raw {pin.key} s') => ?_) fun _ _ (h : False) => h.elim
    · refine Ends.bind (sure_edit hbecame₂.good hholds hstained fun _ =>
        PageLayout.ends_fillSlot hfits hslot (hlayout ▸ hsize)) ?_
      rintro ⟨full, next⟩ s₃ h₃
      cases full with
      | false => exact ⟨rfl, h₃⟩
      | true =>
        refine Ends.bind (sure_setFreeHead (V := {pin.key}) h₃.good next) fun _ s₄ h₄ => ?_
        refine Ends.bind (sure_report (V := {pin.key}) h₄.good _) fun _ s₅ h₅ => ?_
        exact ⟨rfl, (h₃.trans h₄).trans h₅⟩
    · rw [h.1, hsame]
      exact hlent.trans h.2.stains

end Records

end SlottedFile
