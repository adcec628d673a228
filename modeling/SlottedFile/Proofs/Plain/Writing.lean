import SlottedFile.Proofs.Plain.Reading

/-!
# Changing a record file, pool and all

An operation that changes a record file does what its plain counterpart does, or
fails for want of a page and leaves the file as it was.

The order of the steps carries it: what can fail – finding pages and pinning
them – comes before the first byte is written, and what comes after cannot.
-/

namespace SlottedFile

section Rules

variable {imageOf : Nat → ImageId} {raw : List Hold} {ids : List Nat} {p₀ : PlainFile} {α β : Type}
  {s s' : Session}

/-- An event is reported at the end. -/
theorem Does.then_report {x : RecordM Unit} {m : PlainM Unit} (hx : Does imageOf raw ids p₀ x m s)
    (e : Event) : Does imageOf raw ids p₀ (do x; Session.report e) m s := by
  rw [← bind_pure_unit (x := m)]
  exact hx.bind fun _ _ _ _ hbecame _ => does_report hbecame.good e

/-- **A page that is taken is worked on before it is handed out.** If that fails
the pin is given back. -/
theorem Takes.worked {take : RecordM Pin} {m : PlainM Nat} (htake : Takes imageOf raw ids p₀ take m s)
    {body : Pin → RecordM Pin} {k : Nat → PlainM Unit}
    (hbody : ∀ pin page p' s', m (s.plain imageOf) = .ok page p' →
      Session.Became imageOf raw s p' s' → pin.key = ⟨s'.file.handle, page⟩ →
      s'.store.Holds pin →
      Does imageOf raw (pin.id :: ids) p₀ (body pin) (do k page; return pin) s') :
    Takes imageOf raw ids p₀ (do let pin ← take; onFailure (Session.release pin) (body pin))
      (do let page ← m; k page; return page) s := by
  unfold Takes
  rw [ends_bind]
  refine Ends.imp htake ?_ ?_
  · rintro pin s₁ ⟨page, p₁, dirty, hm, hbecame, hkey, hfresh, hheld⟩
    have hholds : s₁.store.Holds pin := (Store.Holds.of_cons hheld).1
    have hbind : (do let page ← m; k page; return page : PlainM Nat) (s.plain imageOf) =
        (do k page; return page : PlainM Nat) p₁ := bind_of_ok hm
    have hdone := hbody pin page p₁ s₁ hm hbecame (by rw [hkey, hbecame.handle_eq]) hholds
    unfold Does at hdone
    rw [hbecame.plain_eq] at hdone
    rw [ends_onFailure]
    refine hdone.imp ?_ ?_
    · rintro a s₂ ⟨p₂, hk, hbecame₂, hheld₂⟩
      -- both the value and the file are those of the plain operation
      have hvalue : Ends (do k page; return pin : PlainM Pin) p₁
          (fun a p' => a = pin ∧ k page p₁ = .ok () p') (fun _ _ => True) := by
        rw [ends_bind, ends_iff]
        exact ⟨fun _ p' hp' => ⟨rfl, hp'⟩, fun _ _ _ => trivial⟩
      obtain ⟨rfl, hk'⟩ := hvalue.of_ok hk
      refine ⟨page, p₂, dirty, ?_, hbecame.trans hbecame₂, hkey, hfresh, hheld.trans hheld₂⟩
      exact hbind.trans (bind_of_ok hk')
    · rintro e s₂ hfailed
      refine (hfailed.ends_giveBack hbecame hholds hfresh hheld ?_).imp (fun _ _ h => h)
        fun _ _ h => h.elim
      rintro ⟨p₂, hk⟩
      have hfails : Ends (do k page; return pin : PlainM Pin) p₁ (fun _ _ => True)
          (fun e p' => k page p₁ = .error e p') := by
        rw [ends_bind, ends_iff]
        exact ⟨fun _ _ _ => trivial, fun _ _ hp' => hp'⟩
      exact ⟨p₂, hbind.trans (bind_of_error (hfails.of_error hk))⟩
  · rintro e s₁ hfailed
    refine ⟨hfailed.became, hfailed.held, hfailed.reason.imp_right ?_⟩
    rintro ⟨p₁, hm⟩
    exact ⟨p₁, bind_of_error hm⟩

end Rules

/-! ## The free list -/

section FreeList

variable {imageOf : Nat → ImageId} {raw : List Hold} {ids : List Nat} {p₀ : PlainFile}
  {s s' : Session}

theorem does_setFreeHead (hs : s.Good imageOf raw) (head : Option Nat) :
    Does imageOf raw ids p₀ (Session.setFreeHead head) (PlainFile.setFreeHead head) s :=
  does_putHeader hs _

/-- **Putting a pinned page on the free list** cannot fail. -/
theorem does_link (hs : s.Good imageOf raw) (hfits : (s.plain imageOf).layout.Fits) {pin : Pin}
    (hpin : s.store.Holds pin) (hid : pin.id ∈ ids) {page : Nat}
    (hkey : pin.key = ⟨s.file.handle, page⟩) :
    Does imageOf raw ids p₀ (Session.link pin) (PlainFile.link page) s := by
  have hpage : pin.key.page = page := by rw [hkey]
  unfold Session.link PlainFile.link
  rw [hpage]
  refine does_get_session (does_get ?_)
  obtain ⟨a, b, hset, -⟩ := (PageLayout.ends_setNext (b := (s.plain imageOf).page page) hfits
    (s.plain imageOf).header.freeHead).exists_ok
  refine (does_edit hs hpin hid hkey ⟨a, b, hset⟩).bind fun _ _ s₁ _ hbecame _ => ?_
  exact (does_setFreeHead hbecame.good _).then_report _

/-- **A file may be extended by a page**, which is pinned. -/
theorem takes_grow (hs : s.Good imageOf raw) (hp : s.plain imageOf = p₀) :
    Takes imageOf raw ids p₀
      (Session.onStore fun f => widenError (fun e => .internal (.allocate e))
        (Store.pinNewPage f.handle)) PlainFile.grow s := by
  unfold Takes
  rw [ends_onStore, ends_widenError]
  refine (Store.ends_pinNewPage hs.sound s.file.handle).imp ?_ ?_
  · rintro pin store ⟨htaken, -, hpic⟩
    refine ⟨_, _, true, rfl, ⟨hs.of_table htaken.sound (congrArg Picture.table hpic), rfl,
      hpic.trans ?_⟩, htaken.key_eq, htaken.fresh, .of_eq htaken.held⟩
    ext1
    case header => exact (Function.update_eq_self _ _).symm
    case content => exact s.content_merge.symm
    all_goals rfl
  · rintro e store ⟨hstill, hfar⟩
    refine .of_still hs hp hstill ?_
    cases e with
    | error fe => trivial
    | overrun w =>
      rw [← hp]
      exact hfar w rfl

/-- **A new page** is handed out with its pin. -/
theorem takes_newPage (hs : s.Good imageOf raw) (hp : s.plain imageOf = p₀) (hsized : p₀.Sized) :
    Takes imageOf raw ids p₀ Session.newPage PlainFile.newPage s := by
  unfold Session.newPage PlainFile.newPage
  refine (takes_grow hs hp).worked ?_
  intro pin page p₁ s₁ hm hbecame hkey hholds
  obtain ⟨rfl, rfl⟩ : page = p₀.count ∧ p₁ = { p₀ with count := p₀.count + 1 } := by
    rw [hp] at hm
    cases hm
    exact ⟨rfl, rfl⟩
  have hp₁ := hbecame.plain_eq
  have hpage : pin.key.page = p₀.count := by rw [hkey]
  have hnew : ¬p₀.count ≠ (s₁.plain imageOf).header.pages := by
    rw [hp₁]
    exact not_not_intro hsized.count
  have hnew' : ¬p₀.count ≠ s₁.file.header.pages := hnew
  have hfits : (s₁.plain imageOf).layout.Fits := by
    rw [hp₁]
    exact hsized.fits
  obtain ⟨a, b, hinit, -⟩ := (PageLayout.ends_init (b := (s₁.plain imageOf).page p₀.count) hfits
    (s₁.plain imageOf).header.freeHead).exists_ok
  refine does_get_session ?_
  dsimp only
  rw [hpage, if_neg hnew']
  refine Does.congr (n := do
    PlainFile.edit p₀.count (·.init (s₁.plain imageOf).header.freeHead)
    PlainFile.putHeader fun h => { h with pages := h.pages + 1, freeHead := some p₀.count }
    return pin) ?_ ?_
  · rw [← bind_assoc]
    show EStateM.bind _ _ _ = EStateM.bind _ _ _
    unfold EStateM.bind
    rw [PlainFile.addPage_eq (not_not.mp hnew)]
  refine (does_edit hbecame.good hholds List.mem_cons_self hkey ⟨a, b, hinit⟩).bind ?_
  intro _ _ s₂ _ hbecame₂ hheld₂
  rw [← bind_assoc]
  refine (does_putHeader hbecame₂.good _).bind fun _ _ s₃ _ hbecame₃ hheld₃ => ?_
  have hholds₃ := (hholds.of_sameHeld hheld₂).of_sameHeld hheld₃
  -- the note and the event leave no trace
  refine (does_noteWrite hbecame₃.good hholds₃ List.mem_cons_self).skip
    fun s₄ hbecame₄ _ => ?_
  exact does_reported hbecame₄.good _ fun _ hbecame₅ _ => does_pure hbecame₅.good _

/-- **A page with a free slot** is handed out with its pin. -/
theorem takes_freePage (hs : s.Good imageOf raw) (hp : s.plain imageOf = p₀) (hsized : p₀.Sized) :
    Takes imageOf raw ids p₀ Session.freePage PlainFile.freePage s := by
  unfold Session.freePage PlainFile.freePage
  refine takes_get ?_
  have hhead : (s.plain imageOf).header.freeHead = s.file.header.freeHead := rfl
  rw [hhead]
  cases s.file.header.freeHead with
  | none => exact takes_newPage hs hp hsized
  | some page => exact takes_pinPage hs hp (Nat.le_of_eq hsized.count.symm) page

/-- **Putting a pinned page on the free list** unless it is there. -/
theorem does_releasePage (hs : s.Good imageOf raw) (hp : s.plain imageOf = p₀) (hsized : p₀.Sized)
    {pin : Pin} (hpin : s.store.Holds pin) (hid : pin.id ∈ ids) {page : Nat}
    (hkey : pin.key = ⟨s.file.handle, page⟩) :
    Does imageOf raw ids p₀ (Session.releasePage pin) (PlainFile.releasePage page) s := by
  have hpage : pin.key.page = page := by rw [hkey]
  unfold Session.releasePage PlainFile.releasePage
  rw [hpage]
  refine (does_canLink hs hp hsized page).bind_read hp
    (fun _ _ => (PlainFile.reads_canLink page).eq) ?_
  rintro (_ | _) s₁ _ hbecame hheld
  · exact does_pure hbecame.good _
  · refine does_link hbecame.good ?_ (hpin.of_sameHeld hheld) hid (by rw [hkey, hbecame.handle_eq])
    rw [hbecame.plain_eq]
    exact hsized.fits

end FreeList

/-! ## Records -/

section Records

variable {imageOf : Nat → ImageId} {raw : List Hold} {ids : List Nat} {p₀ : PlainFile}
  {s s' : Session}

/-- **Inserting a record.** -/
theorem does_insert (hs : s.Good imageOf raw) (hp : s.plain imageOf = p₀) (hsized : p₀.Sized)
    (data : List UInt8) :
    Does imageOf raw ids p₀ (Session.insert data) (PlainFile.insert data) s := by
  unfold Session.insert PlainFile.insert
  refine (does_checkSize hs hp data).bind_read hp (fun _ _ => (PlainFile.reads_checkSize data).eq) ?_
  intro _ s₁ hm hbecame _
  have hsize : data.length = p₀.layout.recordSize := PlainFile.length_of_checkSize hm
  refine (takes_freePage hbecame.good hbecame.plain_eq hsized).does_withPin ?_
  intro pin page p₂ s₂ hm hbecame₂ hkey hholds _
  rw [hbecame.plain_eq] at hm
  have hp₂ := hbecame₂.plain_eq
  have hpage : pin.key.page = page := by rw [hkey]
  have hfreePage := hm
  have hlayout : p₂.layout = p₀.layout := PlainFile.layout_of_freePage hsized hm
  have hfits : p₂.layout.Fits := hlayout ▸ hsized.fits
  have hfirst := PageLayout.firstFreeSlot_eq hfits (p₂.page page)
  dsimp only
  rw [hpage]
  refine (does_view (f := fun l => l.firstFreeSlot) hbecame₂.good hholds hkey
    (.inr ⟨_, by rw [hp₂]; exact hfirst⟩)).bind ?_
  intro slot? p₃ s₃ hm hbecame₃ hheld₃
  have hp₃ := hbecame₃.plain_eq
  rw [hp₂] at hm
  obtain ⟨rfl, rfl⟩ : slot? = (List.range p₂.layout.recordsPerPage).find?
      (fun i => !(p₂.layout.data (p₂.page page)).occupied i) ∧ p₃ = p₂ :=
    (show Ends _ _ (fun found p' => found = _ ∧ p' = p₂) (fun _ _ => True) from
      (PlainFile.ends_look hfirst).mpr ⟨rfl, rfl⟩).of_ok hm
  cases hfind : (List.range p₃.layout.recordsPerPage).find?
      (fun i => !(p₃.layout.data (p₃.page page)).occupied i) with
  | none =>
    -- the page was listed, so that nothing has changed
    exact does_fail hbecame₃.good
      (hp₃.trans (PlainFile.listed_of_freePage hsized hfreePage hfind).1) _
  | some slot =>
    have hslot := List.mem_range.mp (List.mem_of_find?_eq_some hfind)
    have hsize' : data.length = p₃.layout.recordSize := by
      rw [hlayout]
      exact hsize
    obtain ⟨r, b, hfill, -⟩ :=
      (PageLayout.ends_fillSlot (b := p₃.page page) hfits hslot hsize').exists_ok
    rw [← hbecame₃.handle_eq] at hkey
    unfold PlainFile.fillAndUnlink
    dsimp only
    rw [bind_assoc]
    refine (does_edit hbecame₃.good (hholds.of_sameHeld hheld₃) List.mem_cons_self hkey
      ⟨r, b, by rw [hp₃]; exact hfill⟩).bind ?_
    rintro ⟨full, next⟩ p₄ s₄ _ hbecame₄ _
    cases full with
    | false => exact does_pure hbecame₄.good _
    | true =>
      refine (does_setFreeHead hbecame₄.good next).bind fun _ _ s₅ _ hbecame₅ _ => ?_
      exact does_reported hbecame₅.good _ fun _ hbecame₆ _ => does_pure hbecame₆.good _

/-- **Filling a slot and unlinking the page** cannot fail once the page before it
is pinned. -/
theorem does_fillAndUnlink (hs : s.Good imageOf raw) (hp : s.plain imageOf = p₀)
    (hsized : p₀.Sized) {pin : Pin} (hpin : s.store.Holds pin) (hid : pin.id ∈ ids) {id : RecordId}
    (hkey : pin.key = ⟨s.file.handle, id.page⟩) (hslot : id.slot < p₀.layout.recordsPerPage)
    {data : List UInt8} (hsize : data.length = p₀.layout.recordSize) {position : FreePosition}
    {before : Option Pin} (hbefore : ∀ prev, position = .after prev → ∃ q, before = some q ∧
      s.store.Holds q ∧ q.id ∈ ids ∧ q.key = ⟨s.file.handle, prev⟩) :
    Does imageOf raw ids p₀ (Session.fillAndUnlink pin id data position before)
      (PlainFile.fillAndUnlink id data position) s := by
  obtain ⟨r, b, hfill, -⟩ := (PageLayout.ends_fillSlot (b := p₀.page id.page) hsized.fits
    hslot hsize).exists_ok
  unfold Session.fillAndUnlink PlainFile.fillAndUnlink
  refine (does_edit hs hpin hid hkey ⟨r, b, by rw [hp]; exact hfill⟩).bind ?_
  rintro ⟨full, next⟩ p₁ s₁ hm hbecame hheld
  have hfits₁ : (s₁.plain imageOf).layout.Fits := by
    rw [hbecame.plain_eq, PlainFile.layout, PlainFile.header_of_edit hm, hp]
    exact hsized.fits
  cases full with
  | false => exact does_pure hbecame.good _
  | true =>
    cases position with
    | head => exact (does_setFreeHead hbecame.good next).then_report _
    | absent =>
      exact does_reported hbecame.good _ fun _ hbecame₂ _ => does_report hbecame₂.good _
    | after prev =>
      obtain ⟨q, rfl, hq, hqid, hqkey⟩ := hbefore prev rfl
      obtain ⟨a, b', hset, -⟩ := (PageLayout.ends_setNext (b := (s₁.plain imageOf).page prev) hfits₁
        next).exists_ok
      exact (does_edit hbecame.good (hq.of_sameHeld hheld) hqid (by rw [hqkey, hbecame.handle_eq])
        ⟨a, b', hset⟩).then_report _

/-- **Finding a page on the free list, filling one of its slots and unlinking it.**
Where the page stands is found, and the page before it pinned, before anything
is written. -/
theorem does_unlinkAndFill (hs : s.Good imageOf raw) (hp : s.plain imageOf = p₀)
    (hsized : p₀.Sized) {pin : Pin} (hpin : s.store.Holds pin) (hid : pin.id ∈ ids) {id : RecordId}
    (hkey : pin.key = ⟨s.file.handle, id.page⟩) (hslot : id.slot < p₀.layout.recordsPerPage)
    {data : List UInt8} (hsize : data.length = p₀.layout.recordSize) :
    Does imageOf raw ids p₀
      (do
        match ← Session.onStore (·.locate id.page) with
        | .after prev =>
          Session.withPin (Session.pinPage prev) fun before =>
            Session.fillAndUnlink pin id data (.after prev) (some before)
        | position => Session.fillAndUnlink pin id data position none)
      (do
        match ← PlainFile.locate id.page with
        | .after prev => do
          PlainFile.checkPage prev
          PlainFile.fillAndUnlink id data (.after prev)
        | position => PlainFile.fillAndUnlink id data position) s := by
  refine (does_locate hs hp hsized id.page).bind_read hp
    (fun _ _ => (PlainFile.reads_locate id.page).eq) ?_
  intro position s₁ _ hbecame hheld
  rw [← hbecame.handle_eq] at hkey
  have hholds := hpin.of_sameHeld hheld
  have hp₁ := hbecame.plain_eq
  cases position with
  | head => exact does_fillAndUnlink hbecame.good hp₁ hsized hholds hid hkey hslot hsize (by rintro _ ⟨⟩)
  | absent => exact does_fillAndUnlink hbecame.good hp₁ hsized hholds hid hkey hslot hsize (by rintro _ ⟨⟩)
  | after prev =>
    refine does_pinned hbecame.good hp₁ hsized fun _ before s₂ hbecame₂ hkeyBefore hbefore hold => ?_
    rw [← hbecame₂.handle_eq] at hkey
    refine does_fillAndUnlink hbecame₂.good hbecame₂.plain_eq hsized (hold _ hholds)
      (List.mem_cons_of_mem _ hid) hkey hslot hsize ?_
    rintro _ ⟨⟩
    exact ⟨before, rfl, hbefore, List.mem_cons_self, hkeyBefore⟩

/-- **Inserting a record at a given place.** -/
theorem does_insertAt (hs : s.Good imageOf raw) (hp : s.plain imageOf = p₀) (hsized : p₀.Sized)
    (id : RecordId) (data : List UInt8) :
    Does imageOf raw ids p₀ (Session.insertAt id data) (PlainFile.insertAt id data) s := by
  unfold Session.insertAt PlainFile.insertAt
  refine (does_checkSize hs hp data).bind_read hp (fun _ _ => (PlainFile.reads_checkSize data).eq) ?_
  intro _ s₁ hm hbecame _
  have hsize : data.length = p₀.layout.recordSize := PlainFile.length_of_checkSize hm
  refine does_pinned hbecame.good hbecame.plain_eq hsized fun _ pin s₂ hbecame₂ hkey hholds _ => ?_
  have hp₂ := hbecame₂.plain_eq
  refine does_get_session (does_get ?_)
  by_cases hslot : s₂.file.hasSlot id.slot = true
  · have hslot' : (s₂.plain imageOf).hasSlot id.slot = true := hslot
    have hlt : id.slot < p₀.layout.recordsPerPage := by
      rw [hp₂] at hslot'
      exact of_decide_eq_true hslot'
    simp only [hslot, hslot', if_true]
    refine (does_view (f := fun l b => l.isOccupied b id.slot) hbecame₂.good hholds hkey
      (.inl hp₂)).bind_read hp₂ (fun _ _ => (PlainFile.reads_look _ _).eq) ?_
    rintro (_ | _) s₃ _ hbecame₃ hheld₃
    · rw [← hbecame₃.handle_eq] at hkey
      have hholds₃ := hholds.of_sameHeld hheld₃
      refine (does_view (f := fun _ => PageHeader.decode) hbecame₃.good hholds₃ hkey
        (.inl hbecame₃.plain_eq)).bind_read hbecame₃.plain_eq
        (fun _ _ => (PlainFile.reads_look _ _).eq) ?_
      intro header s₄ _ hbecame₄ hheld₄
      rw [← hbecame₄.handle_eq] at hkey
      have hholds₄ := hholds₃.of_sameHeld hheld₄
      have hperPage : s₂.file.header.recordsPerPage = p₀.header.recordsPerPage := by
        rw [← hp₂]
        rfl
      refine does_get (does_ite ?_ (fun _ => ?_) fun _ => ?_)
      · rw [hbecame₄.plain_eq, hperPage]
      · exact does_unlinkAndFill hbecame₄.good hbecame₄.plain_eq hsized hholds₄ List.mem_cons_self
          hkey hlt hsize
      · exact does_fillAndUnlink hbecame₄.good hbecame₄.plain_eq hsized hholds₄
          List.mem_cons_self hkey hlt hsize (by rintro _ ⟨⟩)
    · exact does_fail hbecame₃.good hbecame₃.plain_eq _
  · have hslot' : ¬(s₂.plain imageOf).hasSlot id.slot = true := hslot
    simp only [hslot, hslot']
    exact does_fail hbecame₂.good hp₂ _

/-- **Vacating a slot and putting the page on the free list**, if it has to go
there, cannot fail. -/
theorem does_vacateAndLink (hs : s.Good imageOf raw) (hp : s.plain imageOf = p₀)
    (hsized : p₀.Sized) {pin : Pin} (hpin : s.store.Holds pin) (hid : pin.id ∈ ids) {id : RecordId}
    (hkey : pin.key = ⟨s.file.handle, id.page⟩) (hslot : id.slot < p₀.layout.recordsPerPage)
    (relink : Bool) :
    Does imageOf raw ids p₀
      (do
        Session.edit pin (·.vacateSlot id.slot)
        if relink then Session.link pin)
      (do
        PlainFile.edit id.page (·.vacateSlot id.slot)
        if relink then PlainFile.link id.page) s := by
  obtain ⟨_, b, hvacate, -⟩ := (PageLayout.ends_vacateSlot (b := p₀.page id.page) hsized.fits
    hslot).exists_ok
  refine (does_edit hs hpin hid hkey ⟨_, b, by rw [hp]; exact hvacate⟩).bind ?_
  intro _ p₁ s₁ hm hbecame hheld
  cases relink with
  | false => exact does_pure hbecame.good _
  | true =>
    refine does_link hbecame.good ?_ (hpin.of_sameHeld hheld) hid (by rw [hkey, hbecame.handle_eq])
    rw [hbecame.plain_eq, PlainFile.layout, PlainFile.header_of_edit hm, hp]
    exact hsized.fits

/-- **Deleting a record.** Whether the page rejoins the free list is found out before
anything is written. -/
theorem does_delete (hs : s.Good imageOf raw) (hp : s.plain imageOf = p₀) (hsized : p₀.Sized)
    (id : RecordId) :
    Does imageOf raw ids p₀ (Session.delete id) (PlainFile.delete id) s := by
  unfold Session.delete PlainFile.delete
  refine does_pinned hs hp hsized fun _ pin s₁ hbecame hkey hholds _ => ?_
  have hp₁ := hbecame.plain_eq
  refine (does_isLive hbecame.good hp₁ hholds hkey).bind_read hp₁
    (fun _ _ => (PlainFile.reads_isLive id).eq) ?_
  rintro (_ | _) s₂ hm hbecame₂ hheld₂
  · exact does_fail hbecame₂.good hbecame₂.plain_eq _
  have hslot := PlainFile.slot_lt_of_isLive hm
  have hp₂ := hbecame₂.plain_eq
  rw [← hbecame₂.handle_eq] at hkey
  have hholds₂ := hholds.of_sameHeld hheld₂
  refine (does_view (f := fun l => l.isFull) hbecame₂.good hholds₂ hkey (.inl hp₂)).bind_read hp₂
    (fun _ _ => (PlainFile.reads_look _ _).eq) ?_
  intro wasFull s₃ _ hbecame₃ hheld₃
  have hp₃ := hbecame₃.plain_eq
  rw [← hbecame₃.handle_eq] at hkey
  have hholds₃ := hholds₂.of_sameHeld hheld₃
  cases wasFull with
  | false =>
    exact does_vacateAndLink hbecame₃.good hp₃ hsized hholds₃ List.mem_cons_self hkey hslot false
  | true =>
    refine (does_canLink hbecame₃.good hp₃ hsized id.page).bind_read hp₃
      (fun _ _ => (PlainFile.reads_canLink id.page).eq) ?_
    intro relink s₄ _ hbecame₄ hheld₄
    exact does_vacateAndLink hbecame₄.good hbecame₄.plain_eq hsized (hholds₃.of_sameHeld hheld₄)
      List.mem_cons_self (by rw [hkey, hbecame₄.handle_eq]) hslot relink

/-- **Replacing a record.** -/
theorem does_update (hs : s.Good imageOf raw) (hp : s.plain imageOf = p₀) (hsized : p₀.Sized)
    (id : RecordId) (data : List UInt8) :
    Does imageOf raw ids p₀ (Session.update id data) (PlainFile.update id data) s := by
  unfold Session.update PlainFile.update
  refine (does_checkSize hs hp data).bind_read hp (fun _ _ => (PlainFile.reads_checkSize data).eq) ?_
  intro _ s₁ hm hbecame _
  have hsize : data.length = p₀.layout.recordSize := PlainFile.length_of_checkSize hm
  refine does_pinned hbecame.good hbecame.plain_eq hsized fun _ pin s₂ hbecame₂ hkey hholds _ => ?_
  have hp₂ := hbecame₂.plain_eq
  refine (does_isLive hbecame₂.good hp₂ hholds hkey).bind_read hp₂
    (fun _ _ => (PlainFile.reads_isLive id).eq) ?_
  rintro (_ | _) s₃ hm hbecame₃ hheld₃
  · exact does_fail hbecame₃.good hbecame₃.plain_eq _
  obtain ⟨_, b, hset, -⟩ := (PageLayout.ends_setSlot (b := p₀.page id.page) hsized.fits
    (PlainFile.slot_lt_of_isLive hm) hsize).exists_ok
  rw [← hbecame₃.handle_eq] at hkey
  exact does_edit (e := (·.setSlot id.slot data)) hbecame₃.good (hholds.of_sameHeld hheld₃)
    List.mem_cons_self hkey ⟨_, b, by rw [hbecame₃.plain_eq]; exact hset⟩

end Records

/-! ## Writing everything back -/

section Flush

variable {imageOf : Nat → ImageId} {raw : List Hold} {ids : List Nat} {p₀ : PlainFile}
  {s s' : Session}

/-- The header is written down again. -/
theorem PlainFile.withHeader_self (hwhole : p₀.Whole) : p₀.withHeader p₀.header = p₀ := by
  unfold withHeader
  rw [← hwhole.written]

/-- **Writing everything back** writes the header down and changes nothing else, whether
it fails or not. It fails only if the file is too long. -/
theorem does_flush_of_good (hs : s.Good imageOf raw) (hp : s.plain imageOf = p₀) :
    Does imageOf raw ids (p₀.withHeader p₀.header) (Session.onStore (·.flush)) PlainFile.flush s := by
  set p₁ : PlainFile := p₀.withHeader p₀.header with hp₁
  have hpersist : Does imageOf raw ids p₁ Session.persistHeader PlainFile.flush s := by
    refine (ends_persistHeader hs).imp ?_ fun _ _ h => h.elim
    rintro _ s' ⟨hbecame, hheld⟩
    exact ⟨_, rfl, hbecame, .of_eq hheld⟩
  unfold RecordFile.flush
  rw [Session.onStore_bind, ← bind_pure_unit (x := PlainFile.flush)]
  refine hpersist.bind ?_
  rintro _ q s₁ hm hbecame -
  rw [hp] at hm
  obtain rfl : p₁ = q := by
    cases hm
    rfl
  have hcoherent := hbecame.good.sound.coherent
  have hq := hbecame.plain_eq
  obtain ⟨o, ho⟩ := Option.isSome_iff_exists.mp hbecame.good.opened
  unfold Does RecordFile.passing
  rw [ends_onStore, ends_widenError]
  refine (Store.ends_flushFile hcoherent s₁.file.handle).imp ?_ ?_
  · rintro _ store ⟨hset, -⟩
    have hstill := Store.Still.of_settled hbecame.good.sound hset
    exact ⟨_, rfl, .of_store hbecame.good hstill.sound hstill.picture, .of_eq hstill.held⟩
  · rintro e store ⟨hset, ⟨fe, rfl⟩, hwhy⟩
    have hstill := Store.Still.of_settled hbecame.good.sound hset
    refine .of_still hbecame.good hq hstill ?_
    rcases hwhy with hnone | ⟨k, f, hk, hfile, hnone | hfar⟩
    · cases ho.symm.trans hnone
    · rw [hfile] at hnone
      cases ho.symm.trans hnone
    · have hin := hcoherent.inside hk
      rw [hfile] at hin
      have hcount : k.page < p₁.count := by
        rw [← hq]
        exact hin
      exact Nat.lt_of_lt_of_le hfar (Nat.mul_le_mul_right _ (by omega))

/-- A file whose header is written down stays as it is. -/
theorem does_flush (hs : s.Good imageOf raw) (hp : s.plain imageOf = p₀) (hwhole : p₀.Whole) :
    Does imageOf raw ids p₀ (Session.onStore (·.flush)) PlainFile.flush s := by
  have hdoes : Does imageOf raw ids (p₀.withHeader p₀.header) _ _ s := does_flush_of_good hs hp
  rwa [PlainFile.withHeader_self hwhole] at hdoes

end Flush

end SlottedFile
