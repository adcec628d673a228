import SlottedFile.Proofs.Records.Destroying
import SlottedFile.Proofs.Records.Shadow

/-!
# Headers that could not be written

Whoever changes a record file looks for the pages that the change needs, writes to them, and
at last writes the header. If the file was closed beneath its handle, its pages may still be
buffered, and so the first two may go well and the last may not. A call that fails then has
changed nothing, or all that it was to change but the header block
(`failed_call_does_nothing_or_all`). A record that could not be deleted, as it seems, is gone
(`failed_delete_loses_record`).

A page that is added is never added in part: it is the file that is extended first.
-/

namespace SlottedFile

section Buffered

variable {imageOf : Nat → ImageId} {raw : List Hold} {α : Type}

/-! ## Pages that are buffered, and pages that are not -/

theorem Store.Sound.tidy {s : Store} (hs : s.Sound imageOf raw) : s.Tidy :=
  ⟨hs.coherent.files, hs.coherent.distinct, hs.id_lt⟩

/-- **A page that is not buffered cannot be read** without its file. -/
theorem Store.ends_load_closed {s : Store} (hs : s.Tidy) {k : PageKey}
    (hclosed : s.files.table.byHandle? k.file = none) :
    Ends (load k) s (fun _ _ => False) (fun _ _ => True) := by
  unfold load
  rw [ends_bind]
  refine (hs.ends_makeRoom (P := fun _ => False)).imp ?_ fun _ _ _ => trivial
  rintro _ s₁ ⟨honward, -⟩
  rw [ends_bind, ends_onFiles]
  refine (Files.ends_readPage s₁.files k.file k.page).imp ?_ fun _ _ _ => trivial
  rintro _ _ ⟨-, -, o, ho, -⟩
  rw [honward.files.table_eq, hclosed] at ho
  cases ho

theorem Store.ends_pinPage_closed {s : Store} (hs : s.Tidy) {file page : Nat}
    (hclosed : s.files.table.byHandle? file = none) (hnone : s.pool.find? ⟨file, page⟩ = none) :
    Ends (pinPage file page) s (fun _ _ => False) (fun _ _ => True) := by
  have hcontains : s.pool.contains ⟨file, page⟩ = false := by rw [Pool.contains, hnone]; rfl
  unfold pinPage fetch
  rw [ends_bind, ends_bind, ends_get, hcontains]
  exact ends_bind.mpr ((ends_load_closed hs hclosed).imp (fun _ _ h => h.elim) fun _ _ h => h)

/-- **No page is added to a file that is not open.** -/
theorem Store.ends_pinNewPage_closed {s : Store} (hs : s.Tidy) {file : Nat}
    (hclosed : s.files.table.byHandle? file = none) :
    Ends (pinNewPage file) s (fun _ _ => False) (fun _ _ => True) := by
  unfold pinNewPage newPage
  rw [ends_bind, ends_bind]
  refine (hs.ends_makeRoom (P := fun _ => False)).imp ?_ fun _ _ _ => trivial
  rintro _ s₁ ⟨honward, -⟩
  rw [ends_bind, ends_onFiles]
  refine (Files.ends_allocatePage s₁.files file).imp ?_ fun _ _ _ => trivial
  rintro _ _ ⟨o, ho, -⟩
  rw [honward.files.table_eq, hclosed] at ho
  cases ho

/-- **A page that is buffered is pinned** whatever files are behind the pool. -/
theorem Session.pinPage_of_find? {s : Session} {page : Nat} {e : PoolEntry}
    (hpage : ¬page ≥ s.file.header.pages)
    (hfind : s.store.pool.find? ⟨s.file.handle, page⟩ = some e) :
    pinPage page s = .ok ⟨s.store.nextPin, ⟨s.file.handle, page⟩, e.frame⟩
      { s with store := { s.store with
          pool := s.store.pool.use { e with pins := e.pins + 1 }
          held := ⟨⟨s.store.nextPin, ⟨s.file.handle, page⟩, e.frame⟩, false⟩ :: s.store.held
          nextPin := s.store.nextPin + 1 } } := by
  have hcontains : s.store.pool.contains ⟨s.file.handle, page⟩ = true := by
    rw [Pool.contains, hfind]
    rfl
  refine Ends.eq_ok ?_
  unfold pinPage RecordFile.pinPage
  rw [ends_onStore]
  refine ends_ite.mpr ⟨fun hfar => absurd hfar hpage, fun _ => ?_⟩
  unfold Store.pinPage Store.fetch
  rw [ends_widenError, ends_bind, ends_bind, ends_get, hcontains]
  refine ends_bind.mpr (ends_get.mpr ?_)
  rw [hfind]
  exact ⟨rfl, rfl⟩

/-- **A page is pinned if it is buffered**, and nothing has changed if it is not. -/
theorem takesBuffered_pinPage (page : Nat) : TakesBuffered imageOf raw (Session.pinPage page) := by
  intro t fs events hlost hs
  by_cases hpage : page ≥ t.file.header.pages
  · have hfails : ∀ s : Session, s.file = t.file →
        Session.pinPage page s = .error (.error (.pageNotExist page)) s := by
      intro s hfile
      refine Ends.eq_error ?_
      unfold Session.pinPage RecordFile.pinPage
      rw [ends_onStore, hfile]
      exact ends_ite.mpr ⟨fun _ => ⟨rfl, by rw [← hfile]⟩, fun hnot => absurd hpage hnot⟩
    rw [ends_of_error (hfails t rfl)]
    exact .inl ⟨fs, events, hfails (t.shade fs events) rfl, hlost⟩
  -- no page has to lie inside a file that is not open
  have hinside : ∀ o, t.store.files.table.byHandle? t.file.handle = some o →
      page < (t.store.files.disk.image o.image).pages := fun o ho =>
    absurd (ho.symm.trans hlost.closed) nofun
  have hpin : Ends (Session.pinPage page) t
      (fun pin t' => Store.Taken imageOf raw t.store ⟨t.file.handle, page⟩ pin false t'.store ∧
        t'.store.picture imageOf = t.store.picture imageOf)
      (fun _ t' => t'.sight imageOf = t.sight imageOf) := by
    unfold Session.pinPage RecordFile.pinPage
    rw [ends_onStore]
    refine ends_ite.mpr ⟨fun hfar => absurd hfar hpage, fun _ => ends_widenError.mpr ?_⟩
    refine (Store.ends_pinPage hs hinside).imp (fun _ _ h => h) ?_
    rintro _ _ ⟨hstill, -⟩
    exact Session.sight_of_picture hstill.picture
  cases hfind : t.store.pool.find? ⟨t.file.handle, page⟩ with
  | some e =>
    have hok := Session.pinPage_of_find? hpage hfind
    obtain ⟨htaken, hpicture⟩ := hpin.of_ok hok
    rw [ends_of_ok hok]
    refine ⟨⟨events, ?_⟩, rfl, rfl, htaken.sound, rfl, htaken.fresh,
      Session.sight_of_picture hpicture⟩
    exact Session.pinPage_of_find? (s := t.shade fs events) hpage hfind
  | none =>
    have hnot : Ends (Session.pinPage page) t (fun _ _ => False) (fun _ _ => True) := by
      unfold Session.pinPage RecordFile.pinPage
      rw [ends_onStore]
      refine ends_ite.mpr ⟨fun hfar => absurd hfar hpage, fun _ => ends_widenError.mpr ?_⟩
      exact Store.ends_pinPage_closed hs.tidy hlost.closed hfind
    exact (hpin.and hnot).imp (fun _ _ h => h.2.elim) fun _ _ h => .inr h.1

/-- **No page is added**, and nothing has changed. -/
theorem ends_newPage_closed {t : Session} (hs : t.store.Sound imageOf raw)
    (hclosed : t.store.files.table.byHandle? t.file.handle = none) :
    Ends Session.newPage t (fun _ _ => False) fun _ t' => t'.sight imageOf = t.sight imageOf := by
  unfold Session.newPage
  rw [ends_bind, ends_onStore, ends_widenError]
  refine ((Store.ends_pinNewPage hs t.file.handle).and
    (Store.ends_pinNewPage_closed hs.tidy hclosed)).imp (fun _ _ h => h.2.elim) ?_
  rintro _ _ ⟨⟨hstill, -⟩, -⟩
  exact Session.sight_of_picture hstill.picture

theorem takesBuffered_newPage : TakesBuffered imageOf raw Session.newPage :=
  fun _ _ _ hlost hs => (ends_newPage_closed hs hlost.closed).imp (fun _ _ h => h.elim)
    fun _ _ h => .inr h

theorem takesBuffered_freePage : TakesBuffered imageOf raw Session.freePage := by
  refine takesBuffered_get_bind (fun s => ?_) fun _ _ _ => rfl
  cases s.file.header.freeHead with
  | none => exact takesBuffered_newPage
  | some page => exact takesBuffered_pinPage page

/-! ## Looking -/

theorem looks_onStore_of {γ : Type} {a : RecordFile → γ}
    {y : γ → RecordFile → StoreM RecordError α}
    (hy : ∀ c, Looks imageOf raw (Session.onStore (y c))) :
    Looks imageOf raw (Session.onStore fun f => y (a f) f) :=
  fun t fs events hlost hs => hy (a t.file) t fs events hlost hs

theorem looks_checkSize (data : List UInt8) :
    Looks imageOf raw (Session.onStore (·.checkSize data)) :=
  looks_onStore fun f => by
    unfold RecordFile.checkSize
    split
    · exact looks_fail _
    · exact looks_pure _

theorem looks_nextFree (page : Nat) : Looks imageOf raw (Session.onStore (·.nextFree page)) := by
  unfold RecordFile.nextFree
  rw [Session.onStore_withPage]
  refine (takesBuffered_pinPage page).looks_withPin fun pin => ?_
  rw [Session.onStore_bind]
  exact (looks_view pin fun _ => PageHeader.decode).bind fun _ => looks_pure _

theorem looks_locateFrom (page left : Nat) (prev current : Option Nat) :
    Looks imageOf raw (Session.onStore (·.locateFrom page left prev current)) := by
  refine RecordFile.locateFrom_induction (motive := fun x => Looks imageOf raw (Session.onStore x))
    (fun _ => looks_pure _) (looks_onStore fun f => looks_fail _) (fun listed hrest => ?_) _ _ _
  rw [Session.onStore_bind]
  exact (looks_nextFree listed).bind hrest

theorem looks_locate (page : Nat) : Looks imageOf raw (Session.onStore (·.locate page)) :=
  looks_onStore_of (a := fun f => f.header)
    (y := fun h f => f.locateFrom page h.pages none h.freeHead) fun h =>
      looks_locateFrom page h.pages none h.freeHead

theorem looks_canLink (page : Nat) : Looks imageOf raw (Session.onStore (·.canLink page)) := by
  unfold RecordFile.canLink
  rw [Session.onStore_bind]
  refine (looks_locate page).bind fun position => ?_
  by_cases habsent : position = .absent
  · simp only [if_pos habsent]
    exact looks_pure _
  · simp only [if_neg habsent]
    rw [Session.onStore_bind]
    exact (looks_report _).bind fun _ => looks_pure _

theorem looks_isLive (pin : Pin) (id : RecordId) : Looks imageOf raw (Session.isLive pin id) :=
  looks_onStore fun f => by
    split
    · exact looks_view pin fun _ b => f.layout.isOccupied b id.slot
    · exact looks_pure _

/-! ## Writing -/

theorem writes_link (pin : Pin) : Writes imageOf True (Session.link pin) :=
  writes_get_bind (fun _ => (writes_edit pin _).bind fun _ =>
    (writes_setFreeHead _).then_reports fun _ => reports_report _) fun _ _ _ => rfl

theorem writes_fillAndUnlink (pin : Pin) (id : RecordId) (data : List UInt8)
    (position : FreePosition) (before : Option Pin) :
    Writes imageOf True (Session.fillAndUnlink pin id data position before) := by
  refine (writes_edit pin fun l => l.fillSlot id.slot data).bind ?_
  rintro ⟨full, next⟩
  have hreports : Reports (do
      Session.report (.fullPageUnlisted id.page)
      Session.report (.pageUnlisted id.page)) :=
    (reports_report _).bind fun _ => reports_report _
  refine writes_ite ?_ (writes_pure _)
  cases position with
  | head => exact (writes_setFreeHead next).then_reports fun _ => reports_report _
  | absent => exact hreports.writes
  | after page =>
    cases before with
    | none => exact hreports.writes
    | some prev => exact (writes_edit prev _).bind fun _ => (reports_report _).writes

/-! ## Looking and then writing -/

/-- **A page is put on the free list** after the walk that shows that it is not there. -/
theorem trails_releasePage (pin : Pin) : Trails imageOf raw (Session.releasePage pin) :=
  (looks_canLink pin.key.page).bind_trails fun _ =>
    trails_ite (writes_link pin).trails (looks_pure _).trails

theorem trails_insert (data : List UInt8) : Trails imageOf raw (Session.insert data) := by
  refine (looks_checkSize data).bind_trails fun _ =>
    takesBuffered_freePage.trails_withPin fun pin => ?_
  refine (looks_view pin fun f => f.layout.firstFreeSlot).bind_trails ?_
  rintro (_ | slot)
  · exact (looks_fail _).trails
  · refine Writes.trails (?_ : Writes imageOf True _)
    refine (writes_edit pin fun l => l.fillSlot slot data).bind ?_
    rintro ⟨full, next⟩
    refine writes_ite ?_ (writes_pure _)
    exact (writes_setFreeHead next).then_reports fun _ =>
      (reports_report _).bind fun _ => reports_pure _

theorem trails_insertAt (id : RecordId) (data : List UInt8) :
    Trails imageOf raw (Session.insertAt id data) := by
  refine (looks_checkSize data).bind_trails fun _ =>
    (takesBuffered_pinPage id.page).trails_withPin fun pin => ?_
  have hfill : ∀ position before,
      Trails imageOf raw (Session.fillAndUnlink pin id data position before) :=
    fun position before => (writes_fillAndUnlink pin id data position before).trails
  refine trails_get_bind (fun s => trails_unless ?_) fun _ _ _ => rfl
  refine (looks_view pin fun f b => f.layout.isOccupied b id.slot).bind_trails fun occupied =>
    trails_refuse ?_
  refine (looks_view pin fun _ => PageHeader.decode).bind_trails fun header => ?_
  refine trails_ite ((looks_locate id.page).bind_trails ?_) (hfill _ _)
  rintro (_ | prev | _)
  · exact hfill _ _
  · exact (takesBuffered_pinPage prev).trails_withPin fun before => hfill _ _
  · exact hfill _ _

/-- **A record is deleted** after the walk that shows that its page can be put on the free
list. -/
theorem trails_delete (id : RecordId) : Trails imageOf raw (Session.delete id) := by
  refine (takesBuffered_pinPage id.page).trails_withPin fun pin => ?_
  have hrest : ∀ relink, Trails imageOf raw (do
      Session.edit pin (·.vacateSlot id.slot)
      if relink = true then Session.link pin else pure ()) := fun relink =>
    ((writes_edit pin fun l => l.vacateSlot id.slot).bind fun _ =>
      writes_ite (writes_link pin) (writes_pure _)).trails
  refine (looks_isLive pin id).bind_trails fun live => trails_unless ?_
  refine (looks_view pin fun f b => f.layout.isFull b).bind_trails fun full => ?_
  exact trails_ite ((looks_canLink id.page).bind_trails hrest)
    ((looks_pure false).bind_trails hrest)

/-- A page is added by a call. -/
theorem ends_run_newPage_closed {t : Session} (hs : t.store.Sound imageOf raw)
    (hclosed : t.store.files.table.byHandle? t.file.handle = none) :
    Ends RecordCall.newPage.run t (fun _ _ => False)
      fun _ t' => t'.sight imageOf = t.sight imageOf :=
  ends_bind.mpr ((ends_newPage_closed hs hclosed).imp (fun _ _ h => h.elim) fun _ _ h => h)

/-- **The calls that write the header**, if there is something to write. -/
def RecordCall.Persists : RecordCall → Prop
  | insert _ | insertAt _ _ | delete _ | newPage | releasePage _ => True
  | _ => False

/-- **Every call that writes the header looks and then writes.** -/
theorem RecordCall.trails_run {call : RecordCall} (hcall : call.Persists) :
    Trails imageOf raw call.run := by
  cases call with
  | insert record => exact (trails_insert record).map _
  | insertAt id record => exact (trails_insertAt id record).map _
  | delete id => exact (trails_delete id).map _
  | newPage =>
    exact fun t _ _ hlost hs => (ends_run_newPage_closed hs hlost.closed).imp
      (fun _ _ h => h.elim) fun _ _ h => .inr (.inl h)
  | releasePage pin => exact (trails_releasePage pin).map _
  | _ => exact hcall.elim

end Buffered

/-! ## Files that are closed beneath their handle -/

/-- **A handle is lost**: somebody closes it, or destroys the file. -/
inductive Store.Loses (path : Path) (handle : Nat) (s s' : Store) : Prop
  | closed (hclose : Store.onFiles (Files.closeFile handle) s = .ok () s')
  | destroyed (hdestroy : RecordFile.destroy path s = .ok () s')

section Losing

variable {other : Nat → ImageId} {image : ImageId} {path : Path} {options : FileOptions}
  {history : List RecordEvent} {raw : List Hold} {s s' : Session} {c : Client} {store : Store}

/-- **A file at work whose handle is lost.** The pool and the pins are those that they were. -/
theorem AtWork.loses (h : AtWork other image path raw s)
    (hloses : s.store.Loses path s.file.handle store) :
    s.store.Aside store ∧ store.Sound (standFor other image s.file.handle) raw ∧
      (⟨store, s.file⟩ : Session).Lost (standFor other image s.file.handle) s.store.files := by
  have hsound := h.good.sound
  have hfiles := hsound.coherent.files
  cases hloses with
  | closed hclose =>
    have hends : Ends (Store.onFiles (Files.closeFile s.file.handle)) s.store
        (fun _ s' => s' = s.store.withTable (s.store.files.table.erase s.file.handle))
        (fun _ _ => True) := Store.ends_closeFile.mpr ⟨fun _ => rfl, fun _ => trivial⟩
    obtain rfl := hends.of_ok hclose
    have haside : s.store.Aside (s.store.withTable (s.store.files.table.erase s.file.handle)) :=
      ⟨hfiles.erase _, rfl, rfl, rfl, rfl, fun _ _ h => h⟩
    refine ⟨haside, haside.sound hsound (hsound.coherent.closeFile _), hfiles, h.good.opened, ?_,
      fun _ => rfl⟩
    exact FileTable.byHandle?_erase.trans (if_pos rfl)
  | destroyed hdestroy =>
    obtain ⟨o, ho, hplace⟩ := h.place
    have hgone := (ends_destroy hfiles hplace).of_ok hdestroy
    refine ⟨hgone.aside, hgone.aside.sound hsound (hgone.coherent hsound.coherent), hfiles, h.good.opened, ?_, ?_⟩
    · refine Option.eq_none_iff_forall_ne_some.mpr fun o' ho' => ?_
      obtain ⟨ho'', hne⟩ := (hgone.byHandle?_iff hfiles).mp ho'
      exact hne (congrArg OpenFile.place (Option.some.inj (ho''.symm.trans ho)))
    · exact fun page => by rw [hgone.image_eq]

/-- The session that lost its handle has it again behind its old files. -/
theorem Session.shade_of_aside (haside : s.store.Aside store) :
    (⟨store, s.file⟩ : Session).shade s.store.files s.store.events = s := by
  obtain ⟨-, hpool, hframes, hheld, hnextPin, -⟩ := haside
  show Session.mk ⟨s.store.files, store.pool, store.frames, store.held, store.nextPin,
    s.store.events⟩ s.file = s
  rw [hpool, hframes, hheld, hnextPin]

/-- What is seen of a file is part of it. -/
theorem Session.sight_of_own (hfile : s'.file = s.file)
    (hown : s'.own other image = s.own other image) :
    s'.sight (standFor other image s.file.handle) =
      s.sight (standFor other image s.file.handle) := by
  unfold own at hown
  rw [hfile] at hown
  ext1
  · exact congrArg PlainFile.header hown
  · exact congrArg PlainFile.page hown

/-- **A call that fails because its file was closed beneath it has done nothing, or all that
it does with the file open.** In the first case every page and the header in memory are what
they were; in the second they are what the call makes of them, and only the header block could
not be written. A page is never added so. A call that succeeds has done what it does with the
file open. -/
theorem failed_call_does_nothing_or_all
    (h : RecordRun other image path options .any history s c)
    (hloses : s.store.Loses path s.file.handle store) {call : RecordCall}
    (hcall : call.Persists) (hallowed : call.Allowed s) :
    Ends call.run ⟨store, s.file⟩
      (fun r t' => ∃ s', call.run s = .ok r s' ∧
        t'.sight (standFor other image s.file.handle) =
          s'.sight (standFor other image s.file.handle))
      (fun e t' =>
        t'.sight (standFor other image s.file.handle) =
            s.sight (standFor other image s.file.handle) ∨
          (call ≠ .newPage ∧ e = .error (.file (.invalidHandle s.file.handle)) ∧
            ∃ r s', call.run s = .ok r s' ∧ t'.sight (standFor other image s.file.handle) =
              s'.sight (standFor other image s.file.handle))) := by
  obtain ⟨haside, hsound, hlost⟩ := h.atWork.loses hloses
  have hshade := Session.shade_of_aside haside
  have hsame : (⟨store, s.file⟩ : Session).sight (standFor other image s.file.handle) =
      s.sight (standFor other image s.file.handle) := by
    rw [← hlost.sight_shade s.store.events, hshade]
  by_cases hnew : call = .newPage
  · subst hnew
    exact (ends_run_newPage_closed hsound hlost.closed).imp (fun _ _ h => h.elim)
      fun _ _ hsight => .inl (hsight.trans hsame)
  have htrails := call.trails_run hcall _ s.store.files s.store.events hlost hsound
  rw [hshade] at htrails
  refine htrails.imp ?_ ?_
  · rintro r t' ⟨fs, events, hok, hlost'⟩
    exact ⟨_, hok, (hlost'.sight_shade events).symm⟩
  · rintro e t' (⟨fs, events, herror, hlost'⟩ | hsight | ⟨he, r, fs, events, hok, hlost'⟩)
    · -- the call fails with the file open, too, and then it leaves the file as it was
      obtain ⟨-, hfile, hown⟩ := (h.atWork.ends_run hallowed).of_error herror
      have hleft := Session.sight_of_own hfile hown
      exact .inl ((hlost'.sight_shade events).symm.trans hleft)
    · exact .inl (hsight.trans hsame)
    · exact .inr ⟨hnew, he, r, _, hok, (hlost'.sight_shade events).symm⟩

/-- The file with one record, after its handle was closed beneath it. -/
def tinyLost : Store := stateAfter (Store.onFiles (Files.closeFile 1)) tinyKept.store

/-- The file after its record could not be deleted. -/
def tinyVacated : Session :=
  stateAfter (Session.delete ⟨0, 0⟩) ⟨tinyLost, tinyKept.file⟩

/-- The record cannot be deleted, but what is seen of its file is what there would be to see if
it had been. -/
theorem failed_call_does_nothing_or_all_delete :
    (RecordCall.delete ⟨0, 0⟩).run ⟨tinyLost, tinyKept.file⟩ =
        .error (.error (.file (.invalidHandle 1))) tinyVacated ∧
      ∃ r s', (RecordCall.delete ⟨0, 0⟩).run tinyKept = .ok r s' ∧
        tinyVacated.sight (standFor (· + 1) 0 tinyKept.file.handle) =
          s'.sight (standFor (· + 1) 0 tinyKept.file.handle) := by
  have hclose : Store.onFiles (Files.closeFile 1) tinyKept.store = .ok () tinyLost :=
    eq_of_answer (by decide +kernel)
  have hhandle : tinyKept.file.handle = 1 := by decide +kernel
  have hfails : (RecordCall.delete ⟨0, 0⟩).run ⟨tinyLost, tinyKept.file⟩ =
      .error (.error (.file (.invalidHandle 1))) tinyVacated :=
    bind_of_error (eq_error_of_answer (by decide +kernel))
  -- the page was full, and is in the free list now
  have hheader : tinyVacated.file.header ≠ tinyKept.file.header := by decide +kernel
  have hall : ∀ {history s c store e t'},
      RecordRun (· + 1) 0 ⟨["f"]⟩ ⟨1, some 1⟩ .any history s c →
      s.store.Loses ⟨["f"]⟩ s.file.handle store →
      (RecordCall.delete ⟨0, 0⟩).run ⟨store, s.file⟩ = .error e t' →
      t'.file.header ≠ s.file.header →
      ∃ r s', (RecordCall.delete ⟨0, 0⟩).run s = .ok r s' ∧
        t'.sight (standFor (· + 1) 0 s.file.handle) =
          s'.sight (standFor (· + 1) 0 s.file.handle) := by
    intro history s c store e t' hrun hloses hfails hheader
    have hends := failed_call_does_nothing_or_all hrun hloses
      (show (RecordCall.delete ⟨0, 0⟩).Persists from trivial) trivial
    rcases hends.of_error hfails with hnothing | ⟨-, -, hall⟩
    · exact absurd (congrArg Sight.header hnothing) hheader
    · exact hall
  exact ⟨hfails, hall (tinyKept_run .any trivial trivial) (hhandle ▸ .closed hclose) hfails hheader⟩

/-- **A record is gone that could not be deleted**, as it seems. Its page was full; it has
joined the free list in memory, and the record is not found any more. -/
theorem failed_delete_loses_record :
    answer (Store.onFiles (Files.closeFile 1)) tinyKept.store = .ok () ∧
      answer (tinyKept.file.get ⟨0, 0⟩) tinyLost = .ok [7] ∧
      answer (Session.delete ⟨0, 0⟩) ⟨tinyLost, tinyKept.file⟩ =
        .error (.error (.file (.invalidHandle 1))) ∧
      tinyKept.file.header.freeHead = none ∧ tinyVacated.file.header.freeHead = some 0 ∧
      answer (tinyVacated.file.get ⟨0, 0⟩) tinyVacated.store =
        .error (.error (.recordNotFound ⟨0, 0⟩)) := by
  refine ⟨?_, ?_, ?_, ?_, ?_, ?_⟩
  all_goals decide +kernel

end Losing

end SlottedFile
