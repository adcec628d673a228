import SlottedFile.Proofs.Plain.Scanning
import SlottedFile.Proofs.Pool.Taken
import SlottedFile.RecordFile.FreeList
import SlottedFile.RecordFile.Lifecycle

/-!
# Operations that give back their pins

An operation of a record file is balanced (`Balanced`) if it gives back every pin that
it takes, whether it succeeds or fails, and so leaves the pins of the store as they
were. The rules below take an operation apart step by step, and count on the way how
many pages it ever pins at a time: if that many frames are left and every dirty page
can be written back, it does not fail because of the pool (`FromPool`), unless its
file is closed or cannot grow any more.

Of the file it is only asked that it holds the pages that its header counts, if it is
open at all (`Session.Fit`), not that the pages are in order.
-/

namespace SlottedFile

/-- **A failure that comes from the pool or from the files behind it.** -/
inductive FromPool : Fault RecordError → Prop
  | fetch (page : Nat) (e : FileError) : FromPool (.error (.internal (.fetch page e)))
  | allocate (e : FileError) : FromPool (.error (.internal (.allocate e)))
  | file (e : FileError) : FromPool (.error (.file e))

/-- A page of an open file, if the file can be that long. -/
def PageOf (handle : Nat) (k : PageKey) : Prop :=
  k.file = handle ∧ (k.page + 2) * blockSize ≤ Files.maxOffset

/-- **A file that gets no shorter** as long as its handle is open, and no other file gets
its handle. -/
def Store.Retains (s : Store) (handle : Nat) (s' : Store) : Prop :=
  ∀ o, s'.files.table.byHandle? handle = some o → s.files.table.byHandle? handle = some o ∧
    (s.files.disk.image o.image).pages ≤ (s'.files.disk.image o.image).pages

theorem Store.Onward.retains {s s' : Store} {P : PageKey → Prop} {keys : List PageKey}
    {pins : List Pin} (h : s.Onward P keys pins s') (handle : Nat) : s.Retains handle s' := by
  intro o ho
  rw [h.files.table_eq] at ho
  exact ⟨ho, h.files.pages_le o.image⟩

namespace Session

/-- **A session whose file can be worked on**: as long as it is open, it holds the pages
that its header counts, and every page of it with a pin lies before its end. -/
structure Fit (s : Session) : Prop where
  tidy : s.store.Tidy
  counted : ∀ o, s.store.files.table.byHandle? s.file.handle = some o →
    s.file.header.pages ≤ (s.store.files.disk.image o.image).pages
  reach : (s.file.header.pages + 1) * blockSize ≤ Files.maxOffset
  inside : ∀ o, s.store.files.table.byHandle? s.file.handle = some o → ∀ page,
    s.store.pool.pinCount ⟨s.file.handle, page⟩ ≠ 0 → page < (s.store.files.disk.image o.image).pages

/-- **A session that went on** with the pins that it had. -/
structure Steady (s s' : Session) : Prop where
  handle_eq : s'.file.handle = s.file.handle
  fit : s'.Fit
  onward : s.store.Onward (PageOf s.file.handle) [] [] s'.store

/-- **A session that took a pin** of a page of its file. -/
structure Took (s : Session) (pin : Pin) (s' : Session) : Prop where
  handle_eq : s'.file.handle = s.file.handle
  fit : s'.Fit
  took : Store.Took (PageOf s.file.handle) pin s.store s'.store
  pageOf : PageOf s.file.handle pin.key

variable {s s' s'' : Session} {pin : Pin}

/-- **Whether the file of a session is open.** -/
def Open (s : Session) : Prop := (s.store.files.table.byHandle? s.file.handle).isSome

/-- **Room for some more pins**, if the file is open. -/
def Roomy (n : Nat) (s : Session) : Prop := s.Open → s.store.Roomy n

/-- A page of an open file can be written back. -/
theorem Open.writable (h : s.Open) {k : PageKey} (hk : PageOf s.file.handle k) :
    ¬s.store.Unwritable k := by
  rintro (hnone | hfar)
  · rw [Open, ← hk.1, hnone] at h
    cases h
  · exact Nat.not_lt.2 hk.2 hfar

/-- The file stays fit whatever happens beside it, as long as the store retains it and
no page of it has a pin that had none. -/
theorem Fit.beside (hs : s.Fit) {store : Store} (htidy : store.Tidy)
    (hretains : s.store.Retains s.file.handle store)
    (hpins : ∀ page, store.pool.pinCount ⟨s.file.handle, page⟩ ≠ 0 →
      s.store.pool.pinCount ⟨s.file.handle, page⟩ ≠ 0) : Fit ⟨store, s.file⟩ := by
  refine ⟨htidy, fun o ho => ?_, hs.reach, fun o ho page hpin => ?_⟩
  · obtain ⟨ho', hle⟩ := hretains o ho
    exact Nat.le_trans (hs.counted o ho') hle
  · obtain ⟨ho', hle⟩ := hretains o ho
    exact Nat.lt_of_lt_of_le (hs.inside o ho' page (hpins page hpin)) hle

/-- The file stays fit as long as its header counts no more pages. -/
theorem Fit.onward (hs : s.Fit) (hhandle : s'.file.handle = s.file.handle)
    (hpages : s'.file.header.pages ≤ s.file.header.pages)
    (honward : s.store.Onward (PageOf s.file.handle) [] [] s'.store) : s.Steady s' := by
  have htable := honward.files.table_eq
  refine ⟨hhandle, ⟨honward.tidy hs.tidy, fun o ho => ?_, ?_, fun o ho page hpin => ?_⟩, honward⟩
  · rw [htable, hhandle] at ho
    exact Nat.le_trans hpages (Nat.le_trans (hs.counted o ho) (honward.files.pages_le _))
  · exact Nat.le_trans (Nat.mul_le_mul_right _ (Nat.succ_le_succ hpages)) hs.reach
  · rw [htable, hhandle] at ho
    rw [hhandle, honward.pinCount_eq, List.count_nil, Nat.add_zero] at hpin
    exact Nat.lt_of_lt_of_le (hs.inside o ho page hpin) (honward.files.pages_le _)

theorem Steady.refl (hs : s.Fit) : s.Steady s := ⟨rfl, hs, .refl hs.tidy⟩

theorem Steady.trans (h : s.Steady s') (h' : s'.Steady s'') : s.Steady s'' where
  handle_eq := h'.handle_eq.trans h.handle_eq
  fit := h'.fit
  onward := by
    have honward := h'.onward
    rw [h.handle_eq] at honward
    exact h.onward.trans honward

/-- A file stays open. -/
theorem Steady.open_iff (h : s.Steady s') : s'.Open ↔ s.Open := by
  unfold Open
  rw [h.onward.files.table_eq, h.handle_eq]

theorem Steady.roomy {n : Nat} (h : s.Steady s') (hs : s.Fit) (hroomy : s.Roomy n) :
    s'.Roomy n := by
  intro hopen
  have hopen := h.open_iff.mp hopen
  have hroomy := hroomy hopen
  exact Store.Roomy.onward (by rwa [List.length_nil, Nat.zero_add]) hs.tidy h.onward
    fun _ => hopen.writable

theorem Took.trans (h : s.Took pin s') (h' : s'.Steady s'') : s.Took pin s'' where
  handle_eq := h'.handle_eq.trans h.handle_eq
  fit := h'.fit
  took := by
    have honward := h'.onward
    rw [h.handle_eq] at honward
    exact h.took.onward_trans honward
  pageOf := h.pageOf

/-- A pin takes the room of one page. -/
theorem Took.roomy {n : Nat} (h : s.Took pin s') (hs : s.Fit) (hroomy : s.Roomy (n + 1)) :
    s'.Roomy n := by
  intro hopen
  have hopen : s.Open := by
    unfold Open at hopen ⊢
    rwa [h.took.onward.files.table_eq, h.handle_eq] at hopen
  have hroomy := hroomy hopen
  exact Store.Roomy.onward (by rwa [List.length_singleton, Nat.add_comm]) hs.tidy
    h.took.onward fun _ => hopen.writable

/-- Whether the file of a session cannot be extended. -/
def Full (s : Session) : Prop := s.store.Full s.file.handle

/-- A file that is closed cannot. -/
theorem full_of_not_open (h : ¬s.Open) : s.Full := by
  intro o ho
  rw [Open, ho] at h
  exact absurd rfl h

theorem Steady.full (h : s.Steady s') (hfull : s.Full) : s'.Full := by
  unfold Full
  rw [h.handle_eq]
  exact hfull.onward h.onward

end Session

/-! ## Balanced operations -/

section Balanced

variable {ample : Prop} {n : Nat} {α β : Type}

/-- **How an operation fails**: no pin is lost by it, and if there was `ample` room it is
not because of the pool. -/
structure Fails (ample : Prop) (s : Session) (e : Fault RecordError) (s' : Session) : Prop where
  steady : s.Steady s'
  full : ample → FromPool e → s'.Full

/-- **An operation gives back every pin that it takes**, of which there are at most `n`
at a time. -/
def Balanced (ample : Prop) (n : Nat) (x : RecordM α) : Prop :=
  ∀ s : Session, s.Fit → (ample → s.Roomy n) →
    Ends x s (fun _ s' => s.Steady s') (Fails ample s)

/-- **An operation takes a pin**, and no more than `n` others beside it. -/
def Taking (ample : Prop) (n : Nat) (x : RecordM Pin) : Prop :=
  ∀ s : Session, s.Fit → (ample → s.Roomy (n + 1)) →
    Ends x s (fun pin s' => s.Took pin s') (Fails ample s)

variable {s s' : Session} {x : RecordM α}

theorem Fails.of_steady {s₁ : Session} {e : Fault RecordError} (h : s.Steady s₁)
    (hfails : Fails ample s₁ e s') : Fails ample s e s' :=
  ⟨h.trans hfails.steady, hfails.full⟩

/-- What fails for another reason. -/
theorem Fails.of_not {e : Fault RecordError} (hsteady : s.Steady s') (he : ¬FromPool e) :
    Fails ample s e s' :=
  ⟨hsteady, fun _ hpool => absurd hpool he⟩

/-- What fails because the file is closed. -/
theorem Fails.of_closed {e : Fault RecordError} (hsteady : s.Steady s') (hclosed : ¬s.Open) :
    Fails ample s e s' :=
  ⟨hsteady, fun _ _ => Session.full_of_not_open (mt hsteady.open_iff.mp hclosed)⟩

theorem not_fromPool_overrun (o : Overrun) : ¬FromPool (.overrun o) := nofun

theorem balanced_pure (a : α) : Balanced ample n (pure a) := fun _ hs _ => .refl hs

theorem balanced_fail {e : RecordError} (he : ¬FromPool (.error e)) :
    Balanced ample n (fail e : RecordM α) :=
  fun _ hs _ => .of_not (.refl hs) he

theorem Balanced.bind {y : RecordM β} {f : β → RecordM α} (hy : Balanced ample n y)
    (hf : ∀ b, Balanced ample n (f b)) : Balanced ample n (y >>= f) := by
  intro s hs hroomy
  rw [ends_bind]
  refine (hy s hs hroomy).imp ?_ fun _ _ h => h
  intro b s₁ hsteady
  refine (hf b s₁ hsteady.fit fun ha => hsteady.roomy hs (hroomy ha)).imp ?_ ?_
  · exact fun _ _ hsteady' => hsteady.trans hsteady'
  · exact fun _ _ hfails => hfails.of_steady hsteady

theorem Balanced.mono {m : Nat} (h : Balanced ample n x) (hle : n ≤ m) : Balanced ample m x :=
  fun s hs hroomy => h s hs fun ha hopen => (hroomy ha hopen).mono hle

theorem balanced_get_bind {f : Session → RecordM α} (hf : ∀ s, Balanced ample n (f s)) :
    Balanced ample n (get >>= f) :=
  fun s hs hroomy => hf s s hs hroomy

theorem balanced_ite {c : Prop} [Decidable c] {y : RecordM α} (hx : Balanced ample n x)
    (hy : Balanced ample n y) : Balanced ample n (if c then x else y) := by
  split
  · exact hx
  · exact hy

/-- What is refused under a condition goes on otherwise. -/
theorem balanced_unless {c : Prop} [Decidable c] {e : RecordError} (he : ¬FromPool (.error e))
    (hx : Balanced ample n x) :
    Balanced ample n (if c then x else do (fail e : RecordM PUnit); x) :=
  balanced_ite hx ((balanced_fail he).bind fun _ => hx)

theorem balanced_refuse {c : Prop} [Decidable c] {e : RecordError} (he : ¬FromPool (.error e))
    (hx : Balanced ample n x) :
    Balanced ample n (if c then do (fail e : RecordM PUnit); x else x) :=
  balanced_ite ((balanced_fail he).bind fun _ => hx) hx

/-! ## Operations of the store -/

/-- An operation of the store is looked at for one open file at a time. -/
theorem balanced_onStore {y : RecordFile → StoreM RecordError α}
    (h : ∀ f, Balanced ample n (Session.onStore fun _ => y f)) :
    Balanced ample n (Session.onStore y) :=
  fun s hs hroomy => h s.file s hs hroomy

theorem balanced_onStore_bind {y : StoreM RecordError β} {f : β → StoreM RecordError α}
    (hy : Balanced ample n (Session.onStore fun _ => y))
    (hf : ∀ b, Balanced ample n (Session.onStore fun _ => f b)) :
    Balanced ample n (Session.onStore fun _ => y >>= f) := by
  have hbind := Session.onStore_bind (fun _ => y) fun _ => f
  rw [hbind]
  exact hy.bind hf

theorem balanced_onStore_ite {c : Prop} [Decidable c] {y z : StoreM RecordError α}
    (hy : Balanced ample n (Session.onStore fun _ => y))
    (hz : Balanced ample n (Session.onStore fun _ => z)) :
    Balanced ample n (Session.onStore fun _ => if c then y else z) := by
  split
  · exact hy
  · exact hz

/-- The store goes on, and the header stays as it is. -/
theorem Session.Fit.onStore (hs : s.Fit) {store : Store}
    (h : s.store.Onward (PageOf s.file.handle) [] [] store) : s.Steady { s with store } :=
  hs.onward rfl (Nat.le_refl _) h

theorem balanced_view (pin : Pin) (f : RecordFile → Block → Except Overrun α) :
    Balanced ample n (Session.onStore fun r => Store.view pin (f r)) := by
  intro s hs _
  rw [ends_onStore]
  unfold Store.view Store.viewFrame
  rw [ends_bind, ends_get, ends_liftOverrun]
  exact ⟨fun _ _ => .refl hs, fun _ _ => .of_not (.refl hs) (not_fromPool_overrun _)⟩

theorem balanced_edit (pin : Pin) (e : PageLayout → Buffer.Edit blockSize α) :
    Balanced ample n (Session.edit pin e) := by
  intro s hs _
  unfold Session.edit
  rw [ends_onStore]
  refine (hs.tidy.ends_edit pin (e s.file.layout)).imp (fun _ _ h => hs.onStore h) ?_
  rintro _ store ⟨h, o, rfl⟩
  exact .of_not (hs.onStore h) (not_fromPool_overrun _)

theorem balanced_noteWrite (pin : Pin) :
    Balanced ample n (Session.onStore fun _ => Store.noteWrite pin) :=
  fun _ hs _ => hs.onStore (hs.tidy.noteWrite pin)

theorem balanced_report {event : Event} (hevent : ∀ page e, event ≠ .unpinFailed page e) :
    Balanced ample n (Session.onStore fun _ => Store.report event) :=
  fun _ hs _ => hs.onStore (.report hs.tidy event hevent)

/-- **The header is written down** as long as the file is open. -/
theorem Session.ends_persistHeader (hs : s.Fit) :
    Ends Session.persistHeader s (fun _ s' => s.Steady s' ∧ s'.file = s.file)
      (fun _ s' => s.Steady s' ∧ ¬s.Open) := by
  unfold Session.persistHeader RecordFile.persistHeader RecordFile.passing
  rw [ends_onStore, ends_widenError, Store.ends_onFiles]
  refine (Files.ends_writeHeader hs.tidy.files s.file.handle _).imp ?_ ?_
  · rintro _ fs ⟨o', ho', rfl⟩
    exact ⟨hs.onStore (.of_files hs.tidy (.putBlock (hs.tidy.files.lt_images ho') _ _)), rfl⟩
  · rintro e fs ⟨rfl, hnone | hlong⟩
    · refine ⟨.refl hs, fun hopen => ?_⟩
      rw [Session.Open, hnone] at hopen
      cases hopen
    · exact absurd hlong (Nat.not_lt.2 (FileHeader.length_encode_le _))

theorem balanced_persistHeader : Balanced ample n Session.persistHeader :=
  fun _ hs _ => (Session.ends_persistHeader hs).imp (fun _ _ h => h.1) fun _ _ h =>
    .of_closed h.1 h.2

theorem balanced_setFreeHead (head : Option Nat) :
    Balanced ample n (Session.setFreeHead head) := by
  refine Balanced.bind (fun s hs _ => ?_) fun _ => balanced_persistHeader
  exact hs.onward rfl (Nat.le_refl _) (.refl hs.tidy)

/-- **The header and the dirty pages are written to the file.** -/
theorem balanced_flush : Balanced ample n (Session.onStore (·.flush)) := by
  unfold RecordFile.flush
  rw [Session.onStore_bind]
  refine Balanced.bind balanced_persistHeader fun _ s hs hroomy => ?_
  unfold RecordFile.passing
  rw [ends_onStore, ends_widenError]
  refine (hs.tidy.ends_flushFile s.file.handle).imp (fun _ _ h => hs.onStore h) ?_
  rintro e store ⟨honward, hwhy⟩
  have hsteady := hs.onStore honward
  by_cases hopen : s.Open
  · refine ⟨hsteady, fun ha _ => ?_⟩
    rcases hwhy with hnone | ⟨k, -, hdirty, hfar⟩
    · rw [Session.Open, hnone] at hopen
      cases hopen
    · exact absurd hfar ((hroomy ha hopen).writable k hdirty)
  · exact .of_closed hsteady hopen

/-- The pages of a file are let go and its handle is closed, if it was open. -/
theorem Session.Fit.ends_letGo (hs : s.Fit)
    (hpins : ∀ k, k.file = s.file.handle → s.store.pool.pinCount k = 0) {s₁ : Store}
    (honward₁ : s.store.Onward (PageOf s.file.handle) [] [] s₁) {last : StoreM RecordError Unit}
    {good : Unit → Store → Prop}
    (hlast : s.Open → ∀ s₂, s.store.Onward (PageOf s.file.handle) [] [] s₂ →
      Ends last (s₂.withTable (s.store.files.table.erase s.file.handle)) good
        (fun _ t => s.store.Onward (PageOf s.file.handle) [] [] t)) :
    Ends (do
        RecordFile.passing (Store.discardFile s.file.handle)
        RecordFile.passing (Store.onFiles (Files.closeFile s.file.handle))
        last) s₁ good (fun _ t => s.store.Onward (PageOf s.file.handle) [] [] t) := by
  unfold RecordFile.passing
  rw [ends_bind, ends_widenError]
  refine ((honward₁.tidy hs.tidy).ends_discardFile (P := PageOf s.file.handle)
    fun k hk => ?_).imp ?_ fun _ _ h => honward₁.trans h
  · rw [honward₁.pinCount_eq, hpins k hk]
    rfl
  · intro _ s₂ honward₂
    have honward := honward₁.trans honward₂
    rw [ends_bind, ends_widenError, Store.ends_closeFile, honward.files.table_eq]
    exact ⟨fun hopen => hlast hopen s₂ honward, fun _ => honward⟩

/-- **A file is closed without touching a pin** of another one. If a page cannot be
written back, it stays open. -/
theorem Session.Fit.ends_close (hs : s.Fit)
    (hpins : ∀ k, k.file = s.file.handle → s.store.pool.pinCount k = 0) :
    Ends s.file.close s.store
      (fun _ t => ∃ s₁, s.store.Onward (PageOf s.file.handle) [] [] s₁ ∧
        t = s₁.withTable (s.store.files.table.erase s.file.handle))
      (fun _ t => s.store.Onward (PageOf s.file.handle) [] [] t) := by
  unfold RecordFile.close
  rw [ends_bind, ends_attempt]
  refine (ends_onStore.mp (Session.ends_persistHeader hs)).imp ?_ ?_
  · rintro _ s₁ ⟨hsteady, -⟩
    refine hs.ends_letGo hpins hsteady.onward fun _ s₂ honward => ?_
    exact ⟨_, honward.trans
      (.report (honward.tidy hs.tidy) (.fileClosed s.file.handle) nofun), rfl⟩
  · rintro (e | o) s₁ ⟨hsteady, hclosed⟩
    · -- the header was not written because the file was closed already
      exact hs.ends_letGo hpins hsteady.onward fun hopen => absurd hopen hclosed
    · exact hsteady.onward

/-! ## Pins -/

/-- **A pin that was taken is given back.** -/
theorem Session.Took.ends_release {s₁ : Session} {pin : Pin} (h : s.Took pin s₁) (hs : s.Fit)
    (hsteady : s₁.Steady s') :
    Ends (Session.release pin) s'
      (fun _ s'' => s.Steady s'' ∧ (s'.Full → s''.Full)) (fun _ _ => False) := by
  have honward := hsteady.onward
  rw [h.handle_eq] at honward
  obtain ⟨hpins, hreleased⟩ := h.took.released hs.tidy honward h.pageOf
  have hhandle := hsteady.handle_eq.trans h.handle_eq
  unfold Session.release
  rw [ends_onStore]
  refine (Store.ends_release_of_pinCount hpins).imp ?_ fun _ _ h => h
  rintro _ _ rfl
  refine ⟨⟨hhandle, ⟨hreleased.tidy hs.tidy, hsteady.fit.counted, hsteady.fit.reach, ?_⟩,
    hreleased⟩, fun hfull => hfull⟩
  intro o ho page hpin
  refine hsteady.fit.inside o ho page fun hzero => hpin ?_
  show (s'.store.released pin).pool.pinCount _ = 0
  rw [Store.pinCount_released hpins, hzero, Nat.zero_sub]

/-- **What is done while a pin is held** takes one page more. -/
theorem Taking.balanced_withPin {take : RecordM Pin} {body : Pin → RecordM α}
    (htake : Taking ample n take) (hbody : ∀ pin, Balanced ample n (body pin)) :
    Balanced ample (n + 1) (Session.withPin take body) := by
  intro s hs hroomy
  unfold Session.withPin
  rw [ends_bind]
  refine (htake s hs hroomy).imp ?_ fun _ _ h => h
  intro pin s₁ htook
  rw [ends_tryFinally]
  refine (hbody pin s₁ htook.fit fun ha => htook.roomy hs (hroomy ha)).imp ?_ ?_
  · intro a s₂ hsteady
    exact (htook.ends_release hs hsteady).imp (fun _ _ h => h.1) fun _ _ h => h.elim
  · intro e s₂ hfails
    refine (htook.ends_release hs hfails.steady).imp ?_ fun _ _ h => h.elim
    rintro _ s₃ ⟨hsteady, hfull⟩
    exact ⟨hsteady, fun ha hpool => hfull (hfails.full ha hpool)⟩

/-- The file after a pin of one of its pages was taken. -/
theorem Session.Fit.took (hs : s.Fit) {store : Store} {pin : Pin}
    (htook : Store.Took (PageOf s.file.handle) pin s.store store)
    (hpageOf : PageOf s.file.handle pin.key)
    (hpage : ∀ o, s.store.files.table.byHandle? s.file.handle = some o →
      pin.key.page < (store.files.disk.image o.image).pages) : s.Took pin { s with store } := by
  have hfiles := htook.onward.files
  have htable := hfiles.table_eq
  refine ⟨rfl, ⟨htook.tidy hs.tidy, fun o ho => ?_, hs.reach, ?_⟩, htook, hpageOf⟩
  · have ho : store.files.table.byHandle? s.file.handle = some o := ho
    rw [htable] at ho
    exact Nat.le_trans (hs.counted o ho) (hfiles.pages_le _)
  · intro o' ho' page hpin
    have ho' : store.files.table.byHandle? s.file.handle = some o' := ho'
    rw [htable] at ho'
    have hpin : store.pool.pinCount ⟨s.file.handle, page⟩ ≠ 0 := hpin
    rw [htook.onward.pinCount_eq] at hpin
    by_cases hkey : pin.key = ⟨s.file.handle, page⟩
    · have hlt := hpage o' ho'
      rw [hkey] at hlt
      exact hlt
    · rw [List.count_eq_zero_of_not_mem fun hmem => hkey (List.mem_singleton.mp hmem).symm] at hpin
      exact Nat.lt_of_lt_of_le (hs.inside o' ho' page hpin) (hfiles.pages_le _)

/-- **A page that the header counts can be pinned** as long as there is room. -/
theorem taking_pinPage (page : Nat) : Taking ample n (Session.pinPage page) := by
  intro s hs hroomy
  unfold Session.pinPage RecordFile.pinPage
  rw [ends_onStore]
  refine ends_ite.mpr ⟨fun _ => .of_not (.refl hs) nofun, fun hpage => ?_⟩
  have hlt : page < s.file.header.pages := Nat.not_le.1 hpage
  have hpageOf : PageOf s.file.handle ⟨s.file.handle, page⟩ :=
    ⟨rfl, Nat.le_trans (Nat.mul_le_mul_right _ (Nat.succ_le_succ hlt)) hs.reach⟩
  rw [ends_widenError]
  refine (hs.tidy.ends_pinPage (P := PageOf s.file.handle) s.file.handle page).imp ?_ ?_
  · rintro pin store ⟨hkey, htook⟩
    refine hs.took htook (hkey ▸ hpageOf) fun o ho => ?_
    rw [hkey]
    exact Nat.lt_of_lt_of_le hlt (Nat.le_trans (hs.counted o ho) (htook.onward.files.pages_le _))
  · rintro e store ⟨honward, hwhy⟩
    by_cases hopen : s.Open
    · refine ⟨hs.onStore honward, fun ha _ => absurd hwhy (not_or.mpr ⟨not_not.mpr ?_, ?_⟩)⟩
      · exact (hroomy ha hopen).mono (Nat.succ_le_succ n.zero_le)
      · exact hopen.writable hpageOf
    · exact .of_closed (hs.onStore honward) hopen

/-! ## New pages -/

/-- The header counts a page that has a pin and lies behind the others. -/
theorem Session.Fit.addPage (hs : s.Fit) {pin : Pin} (hpageOf : PageOf s.file.handle pin.key)
    (hpins : s.store.pool.pinCount pin.key ≠ 0) (hpage : pin.key.page = s.file.header.pages)
    (head : Option Nat) :
    s.Steady { s with file := { s.file with header := { s.file.header with
      pages := s.file.header.pages + 1, freeHead := head } } } := by
  have hkey : pin.key = ⟨s.file.handle, pin.key.page⟩ := by
    rw [← hpageOf.1]
  refine ⟨rfl, ⟨hs.tidy, fun o ho => ?_, ?_, hs.inside⟩, .refl hs.tidy⟩
  · show s.file.header.pages + 1 ≤ _
    rw [← hpage]
    rw [hkey] at hpins
    exact hs.inside o ho _ hpins
  · show (s.file.header.pages + 1 + 1) * blockSize ≤ _
    rw [← hpage]
    exact hpageOf.2

/-- **A page that was added is made an empty one** and counted. -/
theorem Session.ends_initPage (hs : s.Fit) {pin : Pin} (hpageOf : PageOf s.file.handle pin.key)
    (hpins : s.store.pool.pinCount pin.key ≠ 0) (hroomy : ample → s.Roomy 0) :
    Ends (do
        let header := (← get).file.header
        let page := pin.key.page
        if page ≠ header.pages then fail (.internal (.unexpectedPage page header.pages))
        edit pin (·.init header.freeHead)
        modifyHeader fun h => { h with pages := h.pages + 1, freeHead := some page }
        persistHeader
        onStore fun _ => Store.noteWrite pin
        report (.pageCreated page pin.key.file)
        return pin : RecordM Pin) s
      (fun pin' s' => pin' = pin ∧ s.Steady s') (Fails ample s) := by
  rw [ends_bind]
  refine ends_get.mpr (ends_ite.mpr ⟨fun _ => .of_not (.refl hs) nofun, fun hpage => ?_⟩)
  rw [ends_bind, edit, ends_onStore]
  refine (hs.tidy.ends_edit (P := PageOf s.file.handle) pin
    (s.file.layout.init s.file.header.freeHead)).imp ?_ ?_
  · intro _ store honward
    have hsteady := hs.onStore honward
    have hpins' : store.pool.pinCount pin.key ≠ 0 := by
      rw [honward.pinCount_eq]
      exact hpins
    have hadded := hsteady.trans
      (hsteady.fit.addPage hpageOf hpins' (not_not.mp hpage) (some pin.key.page))
    rw [ends_bind]
    refine ends_modify.mpr ?_
    have hno : ∀ {s'}, s.Steady s' → ample → s'.Roomy 0 :=
      fun h ha => h.roomy hs (hroomy ha)
    -- what is left to do is balanced, step by step
    rw [ends_bind]
    refine (balanced_persistHeader _ hadded.fit (hno hadded)).imp ?_ fun _ _ h => h.of_steady hadded
    intro _ s₁ h₁
    have h₁ := hadded.trans h₁
    rw [ends_bind]
    refine (balanced_noteWrite pin _ h₁.fit (hno h₁)).imp ?_ fun _ _ h => h.of_steady h₁
    intro _ s₂ h₂
    have h₂ := h₁.trans h₂
    rw [ends_bind]
    have hreport : Balanced ample 0 (report (.pageCreated pin.key.page pin.key.file)) :=
      balanced_report nofun
    refine (hreport _ h₂.fit (hno h₂)).imp ?_ fun _ _ h => h.of_steady h₂
    exact fun _ s₃ h₃ => ⟨rfl, h₂.trans h₃⟩
  · rintro _ store ⟨honward, o, rfl⟩
    exact .of_not (hs.onStore honward) (not_fromPool_overrun _)

/-- **The file is extended by a page** as long as there is room and it is not too
long. -/
theorem taking_newPage : Taking ample n Session.newPage := by
  intro s hs hroomy
  unfold Session.newPage
  rw [ends_bind, ends_onStore, ends_widenError]
  refine (hs.tidy.ends_pinNewPage (P := PageOf s.file.handle) hs.inside
    fun _ hnear => ⟨rfl, hnear⟩).imp ?_ ?_
  · rintro pin store ⟨o, ho, hfile, hpages, hnear, htook⟩
    have hpageOf : PageOf s.file.handle pin.key := ⟨hfile, hnear⟩
    have htook₁ : s.Took pin { s with store } := by
      refine hs.took htook hpageOf fun o' ho' => ?_
      obtain rfl : o = o' := Option.some.inj (ho.symm.trans ho')
      rw [hpages]
      exact Nat.lt_succ_self _
    rw [ends_onFailure]
    refine (Session.ends_initPage htook₁.fit hpageOf htook.pinCount_ne_zero fun ha =>
      htook₁.roomy hs fun hopen => (hroomy ha hopen).mono (Nat.succ_le_succ n.zero_le)).imp ?_ ?_
    · rintro _ s₂ ⟨rfl, hsteady⟩
      exact htook₁.trans hsteady
    · intro e s₂ hfails
      refine (htook₁.ends_release hs hfails.steady).imp ?_ fun _ _ h => h.elim
      rintro _ s₃ ⟨hsteady, hfull⟩
      exact ⟨hsteady, fun ha hpool => hfull (hfails.full ha hpool)⟩
  · rintro e store ⟨honward, hfull⟩
    by_cases hopen : s.Open
    · exact ⟨hs.onStore honward, fun ha _ =>
        hfull ((hroomy ha hopen).mono (Nat.succ_le_succ n.zero_le))⟩
    · exact .of_closed (hs.onStore honward) hopen

/-- **A page with a free slot can be pinned**, or a new one. -/
theorem taking_freePage : Taking ample n Session.freePage := by
  intro s hs hroomy
  unfold Session.freePage
  rw [ends_bind]
  refine ends_get.mpr ?_
  cases s.file.header.freeHead with
  | none => exact taking_newPage s hs hroomy
  | some page => exact taking_pinPage page s hs hroomy

end Balanced

end SlottedFile
