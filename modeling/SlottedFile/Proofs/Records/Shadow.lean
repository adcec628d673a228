import SlottedFile.Proofs.Records.Undisturbed

/-!
# Sessions that have lost their file

The handle of a record file can be closed beneath whoever has it open. Its pages stay
buffered, and so the session goes on for a while: it does what the same session does with the
file open (`Session.shade`), until it needs the file. That is when a page is not buffered, and
when the header is to be written.

An operation is taken apart into what it looks at and what it writes. As long as it looks
(`Looks`), a page that is not buffered makes it fail and nothing has changed. From the first
byte that it writes (`Writes`) it needs no other page, and all that is left to fail is the
header, which is the last thing that it writes. So it does what it would have done, or
nothing, or all of it but the header block (`Trails`).
-/

namespace SlottedFile

/-- **What is seen of a file through its handle**: the header in memory, and the bytes of its
pages. -/
@[ext] structure Sight where
  header : FileHeader
  page : Nat → Block

namespace Session

/-- What is seen of the file of a session. -/
def sight (imageOf : Nat → ImageId) (t : Session) : Sight where
  header := t.file.header
  page := fun page => t.store.content imageOf ⟨t.file.handle, page⟩

/-- **The session with other files behind it.** -/
def shade (t : Session) (fs : Files) (events : List Event) : Session where
  store := { t.store with files := fs, events }
  file := t.file

/-- **A session whose handle is closed**, and files in which it is open. The pages of the file
have the same bytes there. -/
structure Lost (imageOf : Nat → ImageId) (t : Session) (fs : Files) : Prop where
  files : fs.Sound
  opened : (fs.table.byHandle? t.file.handle).isSome
  closed : t.store.files.table.byHandle? t.file.handle = none
  block_eq : ∀ page, (fs.disk.image (imageOf t.file.handle)).block (page + 1) =
    (t.store.files.disk.image (imageOf t.file.handle)).block (page + 1)

variable {imageOf : Nat → ImageId} {raw : List Hold} {t t' t'' : Session} {fs : Files}

/-- The session depends on its files and its handle only for being lost. -/
theorem Lost.congr (h : t.Lost imageOf fs) (hhandle : t'.file.handle = t.file.handle)
    (hfiles : t'.store.files = t.store.files) : t'.Lost imageOf fs := by
  constructor
  case files => exact h.files
  case opened => rw [hhandle]; exact h.opened
  case closed => rw [hhandle, hfiles]; exact h.closed
  case block_eq => rw [hhandle, hfiles]; exact h.block_eq

/-- **A page is seen alike with and without the file.** -/
theorem Lost.sight_shade (h : t.Lost imageOf fs) (events : List Event) :
    (t.shade fs events).sight imageOf = t.sight imageOf := by
  ext1
  · rfl
  · funext page
    show (t.shade fs events).store.content imageOf ⟨t.file.handle, page⟩ =
      t.store.content imageOf ⟨t.file.handle, page⟩
    have hpool : (t.shade fs events).store.pool = t.store.pool := rfl
    unfold Store.content
    rw [hpool]
    cases t.store.pool.frame? ⟨t.file.handle, page⟩ with
    | some f => rfl
    | none => exact h.block_eq page

/-- **Nothing was changed that is seen**, and the pins are those that they were. -/
structure Looked (imageOf : Nat → ImageId) (raw : List Hold) (t t' : Session) : Prop where
  file_eq : t'.file = t.file
  files_eq : t'.store.files = t.store.files
  sound : t'.store.Sound imageOf raw
  held_eq : t'.store.held = t.store.held
  sight_eq : t'.sight imageOf = t.sight imageOf

theorem Looked.refl (hs : t.store.Sound imageOf raw) : Looked imageOf raw t t :=
  ⟨rfl, rfl, hs, rfl, rfl⟩

theorem Looked.trans (h : Looked imageOf raw t t') (h' : Looked imageOf raw t' t'') :
    Looked imageOf raw t t'' :=
  ⟨h'.file_eq.trans h.file_eq, h'.files_eq.trans h.files_eq, h'.sound, h'.held_eq.trans h.held_eq,
    h'.sight_eq.trans h.sight_eq⟩

/-- What is seen depends on the open file and the picture of the store. -/
theorem sight_of_picture {store : Store}
    (h : store.picture imageOf = t.store.picture imageOf) :
    ({ t with store } : Session).sight imageOf = t.sight imageOf := by
  ext1
  · rfl
  · funext page
    exact congrFun (congrArg Picture.content h) _

end Session

/-! ## With and without the file -/

section Following

variable (imageOf : Nat → ImageId) (raw : List Hold) {α β : Type}

/-- **What an operation comes to with the file open**: a session of which the one that was
left without the file is the lost one. -/
def Matches (x : RecordM α) (s : Session)
    (r : Session → EStateM.Result (Fault RecordError) Session α) (t' : Session) : Prop :=
  ∃ fs events, x s = r (t'.shade fs events) ∧ t'.Lost imageOf fs

/-- **An operation that only looks** at the file does what it does with the file open, or sees
a page that is not buffered and fails. -/
def Looks (x : RecordM α) : Prop :=
  ∀ t fs events, t.Lost imageOf fs → t.store.Sound imageOf raw → Ends x t
    (fun a t' => Matches imageOf x (t.shade fs events) (.ok a) t' ∧ t.Looked imageOf raw t')
    (fun e t' => Matches imageOf x (t.shade fs events) (.error e) t' ∨
      t'.sight imageOf = t.sight imageOf)

/-- The failure of an operation that wrote everything but the header block. -/
def Unwritten (x : RecordM α) (s t : Session) (e : Fault RecordError) (t' : Session) : Prop :=
  e = .error (.file (.invalidHandle t.file.handle)) ∧ ∃ a, Matches imageOf x s (.ok a) t'

/-- **An operation that writes** does what it does with the file open, but for the header
block, which only the `last` thing that it does may need. -/
def Writes (last : Prop) (x : RecordM α) : Prop :=
  ∀ t fs events, t.Lost imageOf fs → Ends x t
    (fun a t' => Matches imageOf x (t.shade fs events) (.ok a) t' ∧ t'.file.handle = t.file.handle)
    (fun e t' => Matches imageOf x (t.shade fs events) (.error e) t' ∨
      (last ∧ Unwritten imageOf x (t.shade fs events) t e t'))

/-- **An operation that looks and then writes** does what it does with the file open, or
nothing, or all but the header block. -/
def Trails (x : RecordM α) : Prop :=
  ∀ t fs events, t.Lost imageOf fs → t.store.Sound imageOf raw → Ends x t
    (fun a t' => Matches imageOf x (t.shade fs events) (.ok a) t')
    (fun e t' => Matches imageOf x (t.shade fs events) (.error e) t' ∨
      t'.sight imageOf = t.sight imageOf ∨ Unwritten imageOf x (t.shade fs events) t e t')

variable {imageOf raw}

section Rules

variable {x : RecordM α} {y : RecordM β} {last : Prop}

theorem Matches.bind {f : β → RecordM α} {s t₁ t₂ : Session} {b : β} {fs : Files}
    {events : List Event} {r : Session → EStateM.Result (Fault RecordError) Session α}
    (h : Matches imageOf (f b) (t₁.shade fs events) r t₂)
    (hok : y s = .ok b (t₁.shade fs events)) : Matches imageOf (y >>= f) s r t₂ := by
  obtain ⟨fs', events', heq, hlost⟩ := h
  exact ⟨fs', events', (bind_of_ok hok).trans heq, hlost⟩

theorem Matches.bind_error {f : β → RecordM α} {s t₁ : Session} {e : Fault RecordError}
    (hy : Matches imageOf y s (.error e) t₁) : Matches imageOf (y >>= f) s (.error e) t₁ := by
  obtain ⟨fs, events, herror, hlost⟩ := hy
  exact ⟨fs, events, bind_of_error herror, hlost⟩

/-- What is left to be done after the header block could not be written changes nothing. -/
theorem Unwritten.imp {s s' t t' t₁ t₂ : Session} {e : Fault RecordError}
    (h : Unwritten imageOf y s t e t₁) (hhandle : t.file.handle = t'.file.handle)
    (hall : ∀ b, Matches imageOf y s (.ok b) t₁ → ∃ a, Matches imageOf x s' (.ok a) t₂) :
    Unwritten imageOf x s' t' e t₂ := by
  obtain ⟨rfl, b, hmatches⟩ := h
  exact ⟨by rw [hhandle], hall b hmatches⟩

/-! ### Looking -/

theorem looks_pure (a : α) : Looks imageOf raw (pure a) := fun _ fs events hlost hs =>
  ⟨⟨fs, events, rfl, hlost⟩, .refl hs⟩

theorem looks_fail (e : RecordError) : Looks imageOf raw (fail e : RecordM α) :=
  fun _ fs events hlost _ => .inl ⟨fs, events, rfl, hlost⟩

theorem Looks.bind {f : β → RecordM α} (hy : Looks imageOf raw y)
    (hf : ∀ b, Looks imageOf raw (f b)) : Looks imageOf raw (y >>= f) := by
  intro t fs events hlost hs
  rw [ends_bind]
  refine (hy t fs events hlost hs).imp ?_ fun _ _ h => h.imp_left (·.bind_error)
  rintro b t₁ ⟨⟨fs₁, events₁, hok, hlost₁⟩, hlooked⟩
  refine (hf b t₁ fs₁ events₁ hlost₁ hlooked.sound).imp ?_ ?_
  · exact fun a t₂ h => ⟨h.1.bind hok, hlooked.trans h.2⟩
  · exact fun e t₂ h => h.imp (·.bind hok) (·.trans hlooked.sight_eq)

/-! ### Writing -/

theorem writes_pure (a : α) : Writes imageOf last (pure a) := fun _ fs events hlost =>
  ⟨⟨fs, events, rfl, hlost⟩, rfl⟩

theorem Writes.bind {f : β → RecordM α} (hy : Writes imageOf False y)
    (hf : ∀ b, Writes imageOf last (f b)) : Writes imageOf last (y >>= f) := by
  intro t fs events hlost
  rw [ends_bind]
  refine (hy t fs events hlost).imp ?_ fun _ _ h => .inl (h.resolve_right (·.1)).bind_error
  rintro b t₁ ⟨⟨fs₁, events₁, hok, hlost₁⟩, hhandle⟩
  refine (hf b t₁ fs₁ events₁ hlost₁).imp ?_ ?_
  · exact fun a t₂ h => ⟨h.1.bind hok, h.2.trans hhandle⟩
  · rintro e t₂ (herror | ⟨hlast, hunwritten⟩)
    · exact .inl (herror.bind hok)
    · exact .inr ⟨hlast, hunwritten.imp hhandle fun a h => ⟨a, h.bind hok⟩⟩

theorem writes_ite {c : Prop} [Decidable c] {x' : RecordM α} (hx : Writes imageOf last x)
    (hx' : Writes imageOf last x') : Writes imageOf last (if c then x else x') := by
  split
  · exact hx
  · exact hx'

/-- **An operation that only reports** leaves everything else alone, and does not fail. -/
def Reports (x : RecordM α) : Prop :=
  ∃ a, ∀ s, ∃ events, x s = .ok a { s with store := { s.store with events } }

theorem reports_pure (a : α) : Reports (pure a : RecordM α) := ⟨a, fun s => ⟨s.store.events, rfl⟩⟩

theorem reports_report (event : Event) : Reports (Session.report event) :=
  ⟨(), fun s => ⟨event :: s.store.events, rfl⟩⟩

theorem Reports.bind {f : β → RecordM α} (hy : Reports y) (hf : ∀ b, Reports (f b)) :
    Reports (y >>= f) := by
  obtain ⟨b, hy⟩ := hy
  obtain ⟨a, hf⟩ := hf b
  refine ⟨a, fun s => ?_⟩
  obtain ⟨events, hok⟩ := hy s
  obtain ⟨events', hok'⟩ := hf { s with store := { s.store with events } }
  exact ⟨events', (bind_of_ok hok).trans hok'⟩

theorem Reports.writes (hx : Reports x) : Writes imageOf last x := by
  obtain ⟨a, hx⟩ := hx
  intro t fs events hlost
  obtain ⟨events', hok⟩ := hx t
  obtain ⟨events'', hok'⟩ := hx (t.shade fs events)
  rw [ends_of_ok hok]
  exact ⟨⟨fs, events'', hok', hlost.congr rfl rfl⟩, rfl⟩

/-- **The header may be written before something is reported**: what is left to do with the
file open does not change it. -/
theorem Writes.then_reports {f : β → RecordM α} (hy : Writes imageOf last y)
    (hf : ∀ b, Reports (f b)) : Writes imageOf last (y >>= f) := by
  intro t fs events hlost
  rw [ends_bind]
  refine (hy t fs events hlost).imp ?_ ?_
  · rintro b t₁ ⟨⟨fs₁, events₁, hok, hlost₁⟩, hhandle⟩
    have hwrites : Writes imageOf False (f b) := (hf b).writes
    refine (hwrites t₁ fs₁ events₁ hlost₁).imp ?_ ?_
    · exact fun a t₂ h => ⟨h.1.bind hok, h.2.trans hhandle⟩
    · exact fun e t₂ h => .inl ((h.resolve_right (·.1)).bind hok)
  · rintro e t₁ (herror | ⟨hlast, hunwritten⟩)
    · exact .inl herror.bind_error
    · refine .inr ⟨hlast, hunwritten.imp rfl ?_⟩
      rintro b ⟨fs₁, events₁, hok, hlost₁⟩
      obtain ⟨a, hfb⟩ := hf b
      obtain ⟨events₂, hok₂⟩ := hfb (t₁.shade fs₁ events₁)
      exact ⟨a, fs₁, events₂, (bind_of_ok hok).trans hok₂, hlost₁⟩

/-! ### Looking and then writing -/

theorem Writes.trails (hx : Writes imageOf last x) : Trails imageOf raw x :=
  fun t fs events hlost _ => (hx t fs events hlost).imp (fun _ _ h => h.1) fun _ _ h =>
    h.imp_right fun h => .inr h.2

theorem Looks.bind_trails {f : β → RecordM α} (hy : Looks imageOf raw y)
    (hf : ∀ b, Trails imageOf raw (f b)) : Trails imageOf raw (y >>= f) := by
  intro t fs events hlost hs
  rw [ends_bind]
  refine (hy t fs events hlost hs).imp ?_ fun _ _ h => h.imp (·.bind_error) .inl
  rintro b t₁ ⟨⟨fs₁, events₁, hok, hlost₁⟩, hlooked⟩
  refine (hf b t₁ fs₁ events₁ hlost₁ hlooked.sound).imp (fun _ _ h => h.bind hok) ?_
  rintro e t₂ (herror | hsight | hunwritten)
  · exact .inl (herror.bind hok)
  · exact .inr (.inl (hsight.trans hlooked.sight_eq))
  · have hhandle := congrArg RecordFile.handle hlooked.file_eq
    exact .inr (.inr (hunwritten.imp hhandle fun a h => ⟨a, h.bind hok⟩))

theorem Looks.trails (hx : Looks imageOf raw x) : Trails imageOf raw x :=
  fun t fs events hlost hs => (hx t fs events hlost hs).imp (fun _ _ h => h.1) fun _ _ h =>
    h.imp_right .inl

/-- What is given back may be read off in another way. -/
theorem Trails.map {y : RecordM β} (hy : Trails imageOf raw y) (g : β → α) :
    Trails imageOf raw (do return g (← y)) := by
  intro t fs events hlost hs
  rw [ends_bind]
  have hmap : ∀ b t₁, Matches imageOf y (t.shade fs events) (.ok b) t₁ →
      Matches imageOf (do return g (← y)) (t.shade fs events) (.ok (g b)) t₁ := by
    rintro b t₁ ⟨fs₁, events₁, hok, hlost₁⟩
    exact ⟨fs₁, events₁, bind_of_ok hok, hlost₁⟩
  refine (hy t fs events hlost hs).imp hmap ?_
  rintro e t₁ (herror | hsight | hunwritten)
  · exact .inl herror.bind_error
  · exact .inr (.inl hsight)
  · exact .inr (.inr (hunwritten.imp rfl fun b h => ⟨g b, hmap b t₁ h⟩))

theorem trails_ite {c : Prop} [Decidable c] {x' : RecordM α} (hx : Trails imageOf raw x)
    (hx' : Trails imageOf raw x') : Trails imageOf raw (if c then x else x') := by
  split
  · exact hx
  · exact hx'

/-- What is refused under a condition goes on otherwise. -/
theorem trails_unless {c : Prop} [Decidable c] {e : RecordError} (hx : Trails imageOf raw x) :
    Trails imageOf raw (if c then x else do (fail e : RecordM PUnit); x) :=
  trails_ite hx ((looks_fail e).bind_trails fun _ => hx)

theorem trails_refuse {c : Prop} [Decidable c] {e : RecordError} (hx : Trails imageOf raw x) :
    Trails imageOf raw (if c then do (fail e : RecordM PUnit); x else x) :=
  trails_ite ((looks_fail e).bind_trails fun _ => hx) hx

/-! ### The open file and the store -/

/-- What is asked of a session but its files. -/
theorem Matches.get_bind {f : Session → RecordM α} {t t' : Session} {fs : Files}
    {events : List Event} {r : Session → EStateM.Result (Fault RecordError) Session α}
    (hshade : f (t.shade fs events) = f t) (h : Matches imageOf (f t) (t.shade fs events) r t') :
    Matches imageOf (get >>= f) (t.shade fs events) r t' := by
  obtain ⟨fs', events', heq, hlost⟩ := h
  exact ⟨fs', events', (congrFun hshade _).trans heq, hlost⟩

theorem writes_get_bind {f : Session → RecordM α} (hf : ∀ s, Writes imageOf last (f s))
    (hshade : ∀ s fs events, f (Session.shade s fs events) = f s) :
    Writes imageOf last (get >>= f) := by
  intro t fs events hlost
  have heq := hshade t fs events
  refine Ends.imp (hf t t fs events hlost) (fun _ _ h => h.imp_left (·.get_bind heq)) ?_
  rintro e t' (herror | ⟨hlast, hunwritten⟩)
  · exact .inl (herror.get_bind heq)
  · exact .inr ⟨hlast, hunwritten.imp rfl fun a h => ⟨a, h.get_bind heq⟩⟩

theorem trails_get_bind {f : Session → RecordM α} (hf : ∀ s, Trails imageOf raw (f s))
    (hshade : ∀ s fs events, f (Session.shade s fs events) = f s) :
    Trails imageOf raw (get >>= f) := by
  intro t fs events hlost hs
  have heq := hshade t fs events
  refine Ends.imp (hf t t fs events hlost hs) (fun _ _ h => h.get_bind heq) ?_
  rintro e t' (herror | hsight | hunwritten)
  · exact .inl (herror.get_bind heq)
  · exact .inr (.inl hsight)
  · exact .inr (.inr (hunwritten.imp rfl fun a h => ⟨a, h.get_bind heq⟩))

/-- An operation looks at the open file, which is the same. -/
theorem looks_onStore {y : RecordFile → StoreM RecordError α}
    (hy : ∀ f, Looks imageOf raw (Session.onStore fun _ => y f)) :
    Looks imageOf raw (Session.onStore y) :=
  fun t fs events hlost hs => hy t.file t fs events hlost hs

/-- What is looked at in a pinned page. -/
theorem Session.onStore_view_of_ok {pin : Pin} {f : RecordFile → Block → Except Overrun α}
    {s : Session} {a : α} (h : f s.file (s.store.frame pin.frame) = .ok a) :
    onStore (fun r => Store.view pin (f r)) s = .ok a s := by
  refine Ends.eq_ok ?_
  unfold Store.view Store.viewFrame
  rw [ends_onStore, ends_bind, ends_get, h]
  exact ⟨rfl, rfl⟩

theorem Session.onStore_view_of_error {pin : Pin} {f : RecordFile → Block → Except Overrun α}
    {s : Session} {o : Overrun} (h : f s.file (s.store.frame pin.frame) = .error o) :
    onStore (fun r => Store.view pin (f r)) s = .error (.overrun o) s := by
  refine Ends.eq_error ?_
  unfold Store.view Store.viewFrame
  rw [ends_onStore, ends_bind, ends_get, h]
  exact ⟨rfl, rfl⟩

theorem looks_view (pin : Pin) (f : RecordFile → Block → Except Overrun α) :
    Looks imageOf raw (Session.onStore fun r => Store.view pin (f r)) := by
  intro t fs events hlost hs
  cases hview : f t.file (t.store.frame pin.frame) with
  | ok a =>
    rw [ends_of_ok (Session.onStore_view_of_ok hview)]
    exact ⟨⟨fs, events, Session.onStore_view_of_ok hview, hlost⟩, .refl hs⟩
  | error o =>
    rw [ends_of_error (Session.onStore_view_of_error hview)]
    exact .inl ⟨fs, events, Session.onStore_view_of_error hview, hlost⟩

theorem looks_report (event : Event) :
    Looks imageOf raw (Session.onStore fun _ => Store.report event) := by
  intro t fs events hlost hs
  have hreport := Store.Settled.report hs.coherent event
  refine ⟨⟨fs, event :: events, rfl, hlost.congr rfl rfl⟩, rfl, rfl, ?_, rfl, ?_⟩
  · exact ⟨hreport.coherent, hs.ids_nodup, hs.id_lt⟩
  · exact Session.sight_of_picture hreport.quiet.picture

/-! ### Writing to pages -/

/-- **The session after a pinned page was written.** -/
def Session.written (s : Session) (pin : Pin) (b : Block) : Session :=
  { s with store := { s.store with
      held := s.store.held.map fun h => if h.pin.id = pin.id then { h with dirty := true } else h
      frames := s.store.frames.setIfInBounds pin.frame b } }

theorem Session.edit_of_ok {pin : Pin} {e : PageLayout → Buffer.Edit blockSize α} {s : Session}
    {a : α} {b : Block} (h : e s.file.layout (s.store.frame pin.frame) = .ok a b) :
    edit pin e s = .ok a (s.written pin b) := by
  have hnoted : e s.file.layout (Store.frame { s.store with
      held := s.store.held.map fun h => if h.pin.id = pin.id then { h with dirty := true } else h }
      pin.frame) = .ok a b := h
  refine Ends.eq_ok ?_
  unfold edit Store.edit Store.noteWrite
  rw [ends_onStore, ends_bind, ends_modify, Ends, Store.editFrame, hnoted]
  exact ⟨rfl, rfl⟩

theorem Session.edit_of_error {pin : Pin} {e : PageLayout → Buffer.Edit blockSize α} {s : Session}
    {o : Overrun} {b : Block} (h : e s.file.layout (s.store.frame pin.frame) = .error o b) :
    edit pin e s = .error (.overrun o) (s.written pin b) := by
  have hnoted : e s.file.layout (Store.frame { s.store with
      held := s.store.held.map fun h => if h.pin.id = pin.id then { h with dirty := true } else h }
      pin.frame) = .error o b := h
  refine Ends.eq_error ?_
  unfold edit Store.edit Store.noteWrite
  rw [ends_onStore, ends_bind, ends_modify, Ends, Store.editFrame, hnoted]
  exact ⟨rfl, rfl⟩

/-- **A page is written whether or not its file is open.** -/
theorem writes_edit (pin : Pin) (e : PageLayout → Buffer.Edit blockSize α) :
    Writes imageOf last (Session.edit pin e) := by
  intro t fs events hlost
  cases hedit : e t.file.layout (t.store.frame pin.frame) with
  | ok a b =>
    rw [ends_of_ok (Session.edit_of_ok hedit)]
    exact ⟨⟨fs, events, Session.edit_of_ok hedit, hlost.congr rfl rfl⟩, rfl⟩
  | error o b =>
    rw [ends_of_error (Session.edit_of_error hedit)]
    exact .inl ⟨fs, events, Session.edit_of_error hedit, hlost.congr rfl rfl⟩

/-! ### Writing the header -/

/-- The header block is not a page. -/
theorem Session.Lost.putHeader {t : Session} {fs : Files} (h : t.Lost imageOf fs) {o : OpenFile}
    (ho : fs.table.byHandle? t.file.handle = some o) (b : Block) :
    t.Lost imageOf (fs.putBlock o.image 0 b) where
  files := h.files.putImage _ _
  opened := h.opened
  closed := h.closed
  block_eq := fun page => by
    rw [Files.image_putBlock (h.files.lt_images ho)]
    split
    · rename_i hsame
      rw [Image.block_setBlock, if_neg (Nat.succ_ne_zero page), ← hsame]
      exact h.block_eq page
    · exact h.block_eq page

/-- **The header cannot be written without the file**, and could be with it. -/
theorem writes_persistHeader : Writes imageOf True Session.persistHeader := by
  intro t fs events hlost
  obtain ⟨o, ho⟩ := Option.isSome_iff_exists.mp hlost.opened
  have hlength : ¬blockSize < t.file.header.encode.length := Nat.not_lt.2 t.file.header.length_encode_le
  have hopen : Ends Session.persistHeader (t.shade fs events)
      (fun _ s' => s' = t.shade
        (fs.putBlock o.image 0 (Buffer.ofList blockSize t.file.header.encode)) events)
      (fun _ _ => False) := by
    unfold Session.persistHeader RecordFile.persistHeader RecordFile.passing
    rw [ends_onStore, ends_widenError, Store.ends_onFiles]
    refine (Files.ends_writeHeader hlost.files t.file.handle _).imp ?_ ?_
    · rintro _ _ ⟨o', ho', rfl⟩
      obtain rfl : o = o' := Option.some.inj (ho.symm.trans ho')
      rfl
    · rintro _ _ ⟨-, hnone | hlong⟩
      · exact absurd (ho.symm.trans hnone) nofun
      · exact hlength hlong
  obtain ⟨_, _, hok, rfl⟩ := hopen.exists_ok
  unfold Session.persistHeader
  rw [ends_onStore]
  refine (ends_persistHeader_of_closed t.file hlost.closed).imp (fun _ _ h => h.elim) ?_
  rintro _ _ ⟨rfl, rfl⟩
  exact .inr ⟨trivial, rfl, (), _, _, hok, hlost.putHeader ho _⟩

theorem writes_setFreeHead (head : Option Nat) :
    Writes imageOf True (Session.setFreeHead head) := by
  have hheader : Writes imageOf False
      (Session.modifyHeader fun h => { h with freeHead := head }) :=
    fun t fs events hlost => ⟨⟨fs, events, rfl, hlost.congr rfl rfl⟩, rfl⟩
  exact hheader.bind fun _ => writes_persistHeader

/-! ### Pins -/

/-- The pool takes back a pin whatever files are behind it, or never does. -/
theorem Store.unpin_cases (k : PageKey) (dirty : Bool) (p : Pool) :
    (∃ e, ∀ s : Store, s.pool = p → unpin k dirty s = .error (.error e) s) ∨
      ∀ s : Store, s.pool = p → unpin k dirty s = .ok () { s with
        pool := p.update k fun e => { e with pins := e.pins - 1, dirty := e.dirty || dirty } } := by
  cases hfind : p.find? k with
  | none =>
    refine .inl ⟨.pageNotFound k.page, ?_⟩
    rintro s rfl
    refine Ends.eq_error ?_
    unfold unpin
    rw [ends_bind, ends_get, hfind]
    exact ⟨rfl, rfl⟩
  | some e =>
    by_cases hpins : e.pins = 0
    · refine .inl ⟨.pageNotPinned k.page, ?_⟩
      rintro s rfl
      refine Ends.eq_error ?_
      unfold unpin
      rw [ends_bind, ends_get, hfind]
      exact ends_ite.mpr ⟨fun _ => ⟨rfl, rfl⟩, fun hpos => absurd hpins hpos⟩
    · refine .inr ?_
      rintro s rfl
      have hcount : s.pool.pinCount k ≠ 0 := by rwa [Pool.pinCount_of_find? hfind]
      obtain ⟨_, _, hok, rfl⟩ := (ends_unpin_of_pinned hcount dirty).exists_ok
      exact hok

/-- A store without a pin that the pool has still to take back. -/
def Store.unheld (s : Store) (pin : Pin) : Store :=
  { s with held := s.held.filter (·.pin.id != pin.id) }

theorem Session.release_of_ok {s : Session} {pin : Pin} {store : Store}
    (h : Store.unpin pin.key (s.store.wrote pin) (s.store.unheld pin) = .ok () store) :
    release pin s = .ok () { s with store } := by
  refine Ends.eq_ok ?_
  unfold release
  rw [ends_onStore, Store.ends_release_iff]
  exact (ends_of_ok h).mpr ⟨rfl, rfl⟩

theorem Session.release_of_error {s : Session} {pin : Pin} {store : Store} {e : FileError}
    (h : Store.unpin pin.key (s.store.wrote pin) (s.store.unheld pin) = .error (.error e) store) :
    release pin s = .ok () { s with store := { store with
      events := .unpinFailed pin.key.page e :: store.events } } := by
  refine Ends.eq_ok ?_
  unfold release
  rw [ends_onStore, Store.ends_release_iff]
  refine (ends_of_error h).mpr ⟨?_, nofun⟩
  rintro _ ⟨⟩
  exact ⟨rfl, rfl⟩

/-- **A pin is given back alike with and without the file**, and nothing that is seen
changes. -/
theorem ends_release_shade (imageOf : Nat → ImageId) (pin : Pin) (t : Session) :
    Ends (Session.release pin) t
      (fun _ t' => (∀ fs events, ∃ events',
          Session.release pin (t.shade fs events) = .ok () (t'.shade fs events')) ∧
        t'.file = t.file ∧ t'.store.files = t.store.files ∧ t'.sight imageOf = t.sight imageOf)
      (fun _ _ => False) := by
  rcases Store.unpin_cases pin.key (t.store.wrote pin) t.store.pool with ⟨e, hfails⟩ | htakes
  · rw [ends_of_ok (Session.release_of_error (hfails (t.store.unheld pin) rfl))]
    refine ⟨fun fs events => ⟨.unpinFailed pin.key.page e :: events, ?_⟩, rfl, rfl, rfl⟩
    exact Session.release_of_error (hfails ((t.shade fs events).store.unheld pin) rfl)
  · rw [ends_of_ok (Session.release_of_ok (htakes (t.store.unheld pin) rfl))]
    refine ⟨fun fs events => ⟨events, ?_⟩, rfl, rfl, ?_⟩
    · exact Session.release_of_ok (htakes ((t.shade fs events).store.unheld pin) rfl)
    · refine Session.sight_of_picture (Store.picture_eq_of_note rfl rfl fun j => ?_)
      exact Pool.frame?_update (f := fun e : PoolEntry =>
        { e with pins := e.pins - 1, dirty := e.dirty || t.store.wrote pin })
          (fun _ => rfl) fun _ => rfl

/-- **An operation takes a pin** of a page that is buffered, or changes nothing that is
seen. -/
def TakesBuffered (imageOf : Nat → ImageId) (raw : List Hold) (take : RecordM Pin) : Prop :=
  ∀ t fs events, t.Lost imageOf fs → t.store.Sound imageOf raw → Ends take t
    (fun pin t' => (∃ events', take (t.shade fs events) = .ok pin (t'.shade fs events')) ∧
      t'.file = t.file ∧ t'.store.files = t.store.files ∧ t'.store.Sound imageOf raw ∧
      t'.store.held = ⟨pin, false⟩ :: t.store.held ∧ (∀ h ∈ t.store.held, h.pin.id ≠ pin.id) ∧
      t'.sight imageOf = t.sight imageOf)
    (fun e t' => Matches imageOf take (t.shade fs events) (.error e) t' ∨
      t'.sight imageOf = t.sight imageOf)

theorem takesBuffered_get_bind {f : Session → RecordM Pin}
    (hf : ∀ s, TakesBuffered imageOf raw (f s))
    (hshade : ∀ s fs events, f (Session.shade s fs events) = f s) :
    TakesBuffered imageOf raw (get >>= f) := by
  intro t fs events hlost hs
  have heq := hshade t fs events
  refine Ends.imp (hf t t fs events hlost hs) ?_ fun _ _ h => h.imp_left (·.get_bind heq)
  rintro pin t' ⟨⟨events', hok⟩, hrest⟩
  exact ⟨⟨events', (congrFun heq _).trans hok⟩, hrest⟩

/-- What is done with a pin and what it is given back after. -/
theorem Matches.withPin {take : RecordM Pin} {body : Pin → RecordM α} {s t₁ t₂ t₃ : Session}
    {pin : Pin} {fs : Files} {events : List Event} (htake : take s = .ok pin (t₁.shade fs events))
    (hrelease : (∀ fs events, ∃ events',
        Session.release pin (t₂.shade fs events) = .ok () (t₃.shade fs events')) ∧
      t₃.file = t₂.file ∧ t₃.store.files = t₂.store.files ∧ t₃.sight imageOf = t₂.sight imageOf) :
    (∀ a, Matches imageOf (body pin) (t₁.shade fs events) (.ok a) t₂ →
      Matches imageOf (Session.withPin take body) s (.ok a) t₃) ∧
    ∀ e, Matches imageOf (body pin) (t₁.shade fs events) (.error e) t₂ →
      Matches imageOf (Session.withPin take body) s (.error e) t₃ := by
  obtain ⟨hrelease, hfile, hfiles, -⟩ := hrelease
  constructor
  · rintro a ⟨fs₂, events₂, hok, hlost⟩
    obtain ⟨events₃, hgiven⟩ := hrelease fs₂ events₂
    refine ⟨fs₂, events₃, ?_, hlost.congr (congrArg _ hfile) hfiles⟩
    refine Ends.eq_ok ?_
    unfold Session.withPin
    rw [ends_bind, ends_of_ok htake, ends_tryFinally, ends_of_ok hok, ends_of_ok hgiven]
    exact ⟨rfl, rfl⟩
  · rintro e ⟨fs₂, events₂, herror, hlost⟩
    obtain ⟨events₃, hgiven⟩ := hrelease fs₂ events₂
    refine ⟨fs₂, events₃, ?_, hlost.congr (congrArg _ hfile) hfiles⟩
    refine Ends.eq_error ?_
    unfold Session.withPin
    rw [ends_bind, ends_of_ok htake, ends_tryFinally, ends_of_error herror, ends_of_ok hgiven]
    exact ⟨rfl, rfl⟩

theorem Matches.withPin_error {take : RecordM Pin} {body : Pin → RecordM α} {s t₁ : Session}
    {e : Fault RecordError} (htake : Matches imageOf take s (.error e) t₁) :
    Matches imageOf (Session.withPin take body) s (.error e) t₁ :=
  htake.bind_error

/-- **What is looked at while a page is pinned.** -/
theorem TakesBuffered.looks_withPin {take : RecordM Pin} {body : Pin → RecordM α}
    (htake : TakesBuffered imageOf raw take) (hbody : ∀ pin, Looks imageOf raw (body pin)) :
    Looks imageOf raw (Session.withPin take body) := by
  intro t fs events hlost hs
  show Ends (take >>= fun pin => tryFinally (body pin) (Session.release pin)) t _ _
  rw [ends_bind]
  refine (htake t fs events hlost hs).imp ?_ fun _ _ h => h.imp_left (·.withPin_error)
  rintro pin t₁ ⟨⟨events₁, hok⟩, hfile, hfiles, hsound, hheld, hfresh, hsight⟩
  rw [ends_tryFinally]
  have hlost₁ : t₁.Lost imageOf fs := hlost.congr (congrArg _ hfile) hfiles
  refine (hbody pin t₁ fs events₁ hlost₁ hsound).imp ?_ ?_
  · rintro a t₂ ⟨hmatches, hlooked⟩
    have hholds : t₂.store.Holds pin := by
      refine ⟨false, ?_⟩
      rw [hlooked.held_eq, hheld]
      exact List.mem_cons_self
    have hgiven : Ends (Session.release pin) t₂
        (fun _ t₃ => t₃.store.Sound imageOf raw ∧
          t₃.store.held = t₂.store.held.filter (·.pin.id != pin.id)) (fun _ _ => False) :=
      ends_onStore.mpr ((Store.ends_release hlooked.sound hholds).imp
        (fun _ _ h => ⟨h.1, h.2.1⟩) fun _ _ h => h)
    refine ((ends_release_shade imageOf pin t₂).and hgiven).imp ?_ fun _ _ h => h.1.elim
    rintro _ t₃ ⟨hshade, hsound₃, hheld₃⟩
    refine ⟨(Matches.withPin hok hshade).1 a hmatches, ?_⟩
    obtain ⟨-, hfile₃, hfiles₃, hsight₃⟩ := hshade
    refine ⟨hfile₃.trans (hlooked.file_eq.trans hfile),
      hfiles₃.trans (hlooked.files_eq.trans hfiles), hsound₃, ?_,
      hsight₃.trans (hlooked.sight_eq.trans hsight)⟩
    rw [hheld₃, hlooked.held_eq, hheld, List.filter_cons_of_neg (by simp), List.filter_eq_self]
    exact fun h hmem => bne_iff_ne.mpr (hfresh h hmem)
  · rintro e t₂ hfailed
    refine (ends_release_shade imageOf pin t₂).imp ?_ fun _ _ h => h.elim
    rintro _ t₃ hshade
    refine hfailed.imp ((Matches.withPin hok hshade).2 e) fun hsight₂ => ?_
    exact hshade.2.2.2.trans (hsight₂.trans hsight)

/-- **What is done while a page is pinned.** -/
theorem TakesBuffered.trails_withPin {take : RecordM Pin} {body : Pin → RecordM α}
    (htake : TakesBuffered imageOf raw take) (hbody : ∀ pin, Trails imageOf raw (body pin)) :
    Trails imageOf raw (Session.withPin take body) := by
  intro t fs events hlost hs
  show Ends (take >>= fun pin => tryFinally (body pin) (Session.release pin)) t _ _
  rw [ends_bind]
  refine (htake t fs events hlost hs).imp ?_ fun _ _ h => h.imp (·.withPin_error) .inl
  rintro pin t₁ ⟨⟨events₁, hok⟩, hfile, hfiles, hsound, -, -, hsight⟩
  rw [ends_tryFinally]
  have hlost₁ : t₁.Lost imageOf fs := hlost.congr (congrArg _ hfile) hfiles
  refine (hbody pin t₁ fs events₁ hlost₁ hsound).imp ?_ ?_
  · rintro a t₂ hmatches
    refine (ends_release_shade imageOf pin t₂).imp ?_ fun _ _ h => h.elim
    exact fun _ t₃ hshade => (Matches.withPin hok hshade).1 a hmatches
  · rintro e t₂ hfailed
    refine (ends_release_shade imageOf pin t₂).imp ?_ fun _ _ h => h.elim
    rintro _ t₃ hshade
    refine hfailed.imp ((Matches.withPin hok hshade).2 e) (.imp (fun hsight₂ => ?_) ?_)
    · exact hshade.2.2.2.trans (hsight₂.trans hsight)
    · intro hunwritten
      refine hunwritten.imp (congrArg _ hfile) fun a h => ⟨a, (Matches.withPin hok hshade).1 a h⟩

end Rules

end Following

end SlottedFile
