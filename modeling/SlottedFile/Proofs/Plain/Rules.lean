import SlottedFile.Proofs.Pins
import SlottedFile.Proofs.Plain.Basic
import SlottedFile.Proofs.Pool.Handles

/-!
# Operations with and without a pool

`Does` says that an operation of a record file does what an operation on the
plain file does, or fails for want of a page. What it says of failures is what
makes it useful: whatever the failure, the file is what it was at a given
moment, which for a whole operation is its beginning. The rules below take both
operations apart side by side, one step of the one against one step of the
other, and pins have no counterpart.

Everything a store holds apart from the one file stays as it is.
-/

namespace SlottedFile

/-! ## The file in a session -/

/-- What a store holds, with one of its files replaced. -/
def Picture.withFile (P : Picture) (i : ImageId) (handle : Nat) (p : PlainFile) : Picture :=
  { P with
    header := Function.update P.header i p.stored
    pages := Function.update P.pages i p.count
    content := fun k => if k.file = handle then p.page k.page else P.content k }

theorem Picture.withFile_withFile (P : Picture) (i : ImageId) (handle : Nat) (p p' : PlainFile) :
    (P.withFile i handle p).withFile i handle p' = P.withFile i handle p' := by
  ext1
  case header => exact Function.update_idem _ _ _
  case pages => exact Function.update_idem _ _ _
  case content =>
    funext k
    show (if k.file = handle then _ else if k.file = handle then _ else _) = ite _ _ _
    split <;> rfl
  all_goals rfl

namespace Session

variable (imageOf : Nat → ImageId) (raw : List Hold)

/-- **The record file of a session**, wherever its pages are. -/
def plain (s : Session) : PlainFile where
  header := s.file.header
  stored := (s.store.picture imageOf).header (imageOf s.file.handle)
  count := (s.store.picture imageOf).pages (imageOf s.file.handle)
  page := fun p => s.store.content imageOf ⟨s.file.handle, p⟩

/-- **A session at work**: its store is sound and its file is open. -/
structure Good (s : Session) : Prop where
  sound : s.store.Sound imageOf raw
  opened : (s.store.files.table.byHandle? s.file.handle).isSome

/-- **The session after its file became another one**, and nothing else
changed. -/
structure Became (s : Session) (p : PlainFile) (s' : Session) : Prop where
  good : s'.Good imageOf raw
  file : s'.file = ⟨s.file.handle, p.header⟩
  picture : s'.store.picture imageOf =
    (s.store.picture imageOf).withFile (imageOf s.file.handle) s.file.handle p

variable {imageOf raw} {s s' s'' : Session} {p p' : PlainFile}

/-- The pages of the file are among those of the store. -/
theorem content_merge (s : Session) :
    (fun k : PageKey => if k.file = s.file.handle then s.store.content imageOf ⟨s.file.handle, k.page⟩
      else s.store.content imageOf k) = s.store.content imageOf := by
  funext k
  split
  · rw [← ‹k.file = s.file.handle›]
  · rfl

theorem withFile_plain (s : Session) :
    (s.store.picture imageOf).withFile (imageOf s.file.handle) s.file.handle (s.plain imageOf) =
      s.store.picture imageOf := by
  ext1
  case header => exact Function.update_eq_self _ _
  case pages => exact Function.update_eq_self _ _
  case content => exact s.content_merge
  all_goals rfl

namespace Became

theorem plain_eq (h : Became imageOf raw s p s') : s'.plain imageOf = p := by
  have hheader := congrArg Picture.header h.picture
  have hpages := congrArg Picture.pages h.picture
  have hcontent := congrArg Picture.content h.picture
  have hhandle : s'.file.handle = s.file.handle := by rw [h.file]
  unfold plain
  rw [hhandle, hheader, hpages]
  cases p with
  | mk header stored count page =>
    congr 1
    · rw [h.file]
    · exact Function.update_self _ _ _
    · exact Function.update_self _ _ _
    · funext j
      exact (congrFun hcontent _).trans (if_pos rfl)

theorem handle_eq (h : Became imageOf raw s p s') : s'.file.handle = s.file.handle := by
  rw [h.file]

/-- A file that has not changed is open as it was. -/
theorem file_eq (h : Became imageOf raw s p s') (hp : s.plain imageOf = p) : s'.file = s.file := by
  rw [h.file, ← hp]
  rfl

theorem of_picture (hs : s'.Good imageOf raw) (hfile : s'.file = s.file)
    (hpicture : s'.store.picture imageOf = s.store.picture imageOf) :
    Became imageOf raw s (s.plain imageOf) s' where
  good := hs
  file := hfile
  picture := by rw [hpicture, withFile_plain]

theorem refl (hs : s.Good imageOf raw) : Became imageOf raw s (s.plain imageOf) s :=
  of_picture hs rfl rfl

theorem trans (h : Became imageOf raw s p s') (h' : Became imageOf raw s' p' s'') :
    Became imageOf raw s p' s'' where
  good := h'.good
  file := by rw [h'.file, h.handle_eq]
  picture := by rw [h'.picture, h.picture, h.handle_eq, Picture.withFile_withFile]

theorem table_eq (h : Became imageOf raw s p s') :
    s'.store.files.table = s.store.files.table :=
  congrArg Picture.table h.picture

end Became

/-- A store that goes on from a good session is part of one. -/
theorem Good.of_table (hs : s.Good imageOf raw) {store : Store} (hsound : store.Sound imageOf raw)
    (htable : store.files.table = s.store.files.table) : Good imageOf raw { s with store } where
  sound := hsound
  opened := by
    rw [htable]
    exact hs.opened

/-- **The file stays as it is when the store shows what it showed.** -/
theorem Became.of_store (hs : s.Good imageOf raw) {store : Store} (hsound : store.Sound imageOf raw)
    (hpicture : store.picture imageOf = s.store.picture imageOf) :
    Became imageOf raw s (s.plain imageOf) { s with store } :=
  .of_picture (hs.of_table hsound (congrArg Picture.table hpicture)) rfl hpicture

end Session

/-! ## Doing what a plain operation does -/

/-- **A failure of the pool**: a page could not be pinned or added. Anything else
is one only if the file is too long for its pages to be addressed. -/
def PoolFailure (p : PlainFile) : Fault RecordError → Prop
  | .error (.internal (.fetch _ _)) => True
  | .error (.internal (.allocate _)) => True
  | .error (.file _) => Files.maxOffset < (p.count + 1) * blockSize
  | .error _ => False
  | .overrun _ => wordLimit ≤ (p.count + 2) * blockSize

section Does

variable (imageOf : Nat → ImageId) (raw : List Hold) (ids : List Nat) (p₀ : PlainFile) {α β : Type}

/-- What a failure may leave behind: the file is what it was at first. -/
structure Failed (s : Session) (m : Fault RecordError → Prop) (e : Fault RecordError)
    (s' : Session) : Prop where
  became : Session.Became imageOf raw s p₀ s'
  held : SameHeld ids s.store.held s'.store.held
  reason : PoolFailure p₀ e ∨ m e

/-- **An operation of a record file does what an operation on the plain file
does**, or fails for want of a page. The pins in `ids` may be noted, and if
anything fails the file is `p₀`. -/
def Does (x : RecordM α) (m : PlainM α) (s : Session) : Prop :=
  Ends x s
    (fun a s' => ∃ p', m (s.plain imageOf) = .ok a p' ∧ Session.Became imageOf raw s p' s' ∧
      SameHeld ids s.store.held s'.store.held)
    (Failed imageOf raw ids p₀ s fun e => ∃ p', m (s.plain imageOf) = .error e p')

/-- **An operation takes a pin of the page that a plain operation names**, or
fails for want of a page. -/
def Takes (x : RecordM Pin) (m : PlainM Nat) (s : Session) : Prop :=
  Ends x s
    (fun pin s' => ∃ page p' dirty, m (s.plain imageOf) = .ok page p' ∧
      Session.Became imageOf raw s p' s' ∧ pin.key = ⟨s.file.handle, page⟩ ∧
      (∀ h ∈ s.store.held, h.pin.id ≠ pin.id) ∧
      SameHeld (pin.id :: ids) (⟨pin, dirty⟩ :: s.store.held) s'.store.held)
    (Failed imageOf raw ids p₀ s fun e => ∃ p', m (s.plain imageOf) = .error e p')

variable {imageOf raw ids p₀} {s s' : Session}

theorem Failed.of_became {p : PlainFile} {m m' : Fault RecordError → Prop} {e : Fault RecordError}
    {s'' : Session} (hbecame : Session.Became imageOf raw s p s')
    (hheld : SameHeld ids s.store.held s'.store.held) (h : Failed imageOf raw ids p₀ s' m e s'')
    (hm : m e → m' e) : Failed imageOf raw ids p₀ s m' e s'' where
  became := hbecame.trans h.became
  held := hheld.trans h.held
  reason := h.reason.imp_right hm

/-- A failure that leaves what the store shows leaves the file. -/
theorem Failed.of_still (hs : s.Good imageOf raw) (hp : s.plain imageOf = p₀) {store : Store}
    (hstill : Store.Still imageOf raw s.store store) {m : Fault RecordError → Prop}
    {e : Fault RecordError} (hreason : PoolFailure p₀ e) :
    Failed imageOf raw ids p₀ s m e { s with store } where
  became := hp ▸ .of_store hs hstill.sound hstill.picture
  held := .of_eq hstill.held
  reason := .inl hreason

theorem does_pure (hs : s.Good imageOf raw) (a : α) :
    Does imageOf raw ids p₀ (pure a) (pure a) s :=
  ⟨_, rfl, .refl hs, .refl _⟩

theorem does_fail (hs : s.Good imageOf raw) (hp : s.plain imageOf = p₀) (e : RecordError) :
    Does imageOf raw ids p₀ (fail e : RecordM α) (fail e) s :=
  ⟨hp ▸ .refl hs, .refl _, .inr ⟨_, rfl⟩⟩

/-- **Side by side**: first one step of each, then what follows them. -/
theorem Does.bind {x : RecordM β} {m : PlainM β} {f : β → RecordM α} {k : β → PlainM α}
    (hx : Does imageOf raw ids p₀ x m s)
    (hf : ∀ b p' s', m (s.plain imageOf) = .ok b p' → Session.Became imageOf raw s p' s' →
      SameHeld ids s.store.held s'.store.held → Does imageOf raw ids p₀ (f b) (k b) s') :
    Does imageOf raw ids p₀ (x >>= f) (m >>= k) s := by
  have hbind : ∀ b p', m (s.plain imageOf) = .ok b p' →
      (m >>= k) (s.plain imageOf) = k b p' := by
    intro b p' hm
    exact bind_of_ok hm
  unfold Does
  rw [ends_bind]
  refine Ends.imp hx ?_ ?_
  · rintro b s₁ ⟨p₁, hm, hbecame, hheld⟩
    refine Ends.imp (hf b p₁ s₁ hm hbecame hheld) ?_ ?_
    · rintro a s₂ ⟨p₂, hk, hbecame₂, hheld₂⟩
      refine ⟨p₂, ?_, hbecame.trans hbecame₂, hheld.trans hheld₂⟩
      rw [hbind b p₁ hm, ← hbecame.plain_eq, hk]
    · intro e s₂ hfailed
      refine hfailed.of_became hbecame hheld ?_
      rintro ⟨p₂, hk⟩
      exact ⟨p₂, by rw [hbind b p₁ hm, ← hbecame.plain_eq, hk]⟩
  · intro e s₁ hfailed
    refine ⟨hfailed.became, hfailed.held, hfailed.reason.imp_right ?_⟩
    rintro ⟨p₁, hm⟩
    exact ⟨p₁, bind_of_error hm⟩

/-- A step that reads leaves the file as it was at first, if it was so before. -/
theorem Does.bind_read {x : RecordM β} {m : PlainM β} {f : β → RecordM α} {k : β → PlainM α}
    (hp : s.plain imageOf = p₀) (hx : Does imageOf raw ids p₀ x m s)
    (hread : ∀ b p', m p₀ = .ok b p' → p' = p₀)
    (hf : ∀ b s', m p₀ = .ok b p₀ → Session.Became imageOf raw s p₀ s' →
      SameHeld ids s.store.held s'.store.held → Does imageOf raw ids p₀ (f b) (k b) s') :
    Does imageOf raw ids p₀ (x >>= f) (m >>= k) s := by
  refine hx.bind fun b p' s' hm hbecame hheld => ?_
  rw [hp] at hm
  obtain rfl := hread b p' hm
  exact hf b s' hm hbecame hheld

/-- The plain operation looks at the file. -/
theorem does_get {x : RecordM α} {k : PlainFile → PlainM α}
    (h : Does imageOf raw ids p₀ x (k (s.plain imageOf)) s) :
    Does imageOf raw ids p₀ x (EStateM.get >>= k) s := h

/-- The operation looks at the session. -/
theorem does_get_session {f : Session → RecordM α} {m : PlainM α}
    (h : Does imageOf raw ids p₀ (f s) m s) : Does imageOf raw ids p₀ (get >>= f) m s := h

/-- An operation that takes a pin looks at the session, the plain one at the file. -/
theorem takes_get {f : Session → RecordM Pin} {k : PlainFile → PlainM Nat}
    (h : Takes imageOf raw ids p₀ (f s) (k (s.plain imageOf)) s) :
    Takes imageOf raw ids p₀ (get >>= f) (EStateM.get >>= k) s := h

theorem does_ite {c c' : Prop} [Decidable c] [Decidable c'] {x y : RecordM α} {m n : PlainM α}
    (hc : c ↔ c') (hx : c → Does imageOf raw ids p₀ x m s)
    (hy : ¬c → Does imageOf raw ids p₀ y n s) :
    Does imageOf raw ids p₀ (if c then x else y) (if c' then m else n) s := by
  by_cases h : c
  · rw [if_pos h, if_pos (hc.mp h)]
    exact hx h
  · rw [if_neg h, if_neg fun h' => h (hc.mpr h')]
    exact hy h

/-- An event leaves no trace in the file. -/
theorem does_report (hs : s.Good imageOf raw) (e : Event) :
    Does imageOf raw ids p₀ (Session.report e) (pure ()) s := by
  have hcoherent := Store.Settled.report hs.sound.coherent e
  exact ⟨_, rfl, .of_picture ⟨⟨hcoherent.coherent, hs.sound.ids_nodup, hs.sound.id_lt⟩, hs.opened⟩ rfl
    hcoherent.quiet.picture, .refl _⟩

/-! ## Looking at pages and editing them -/

theorem ends_onStore {x : RecordFile → StoreM RecordError α} {good : α → Session → Prop}
    {bad : Fault RecordError → Session → Prop} :
    Ends (Session.onStore x) s good bad ↔
      Ends (x s.file) s.store (fun a store => good a { s with store })
        (fun e store => bad e { s with store }) := by
  unfold Ends Session.onStore
  cases x s.file s.store <;> rfl

/-- **A pinned page shows the bytes of the plain file.** -/
theorem does_view (hs : s.Good imageOf raw) {pin : Pin} (hpin : s.store.Holds pin) {page : Nat}
    (hkey : pin.key = ⟨s.file.handle, page⟩) {f : PageLayout → Block → Except Overrun α}
    (hp : s.plain imageOf = p₀ ∨
      ∃ a, f (s.plain imageOf).layout ((s.plain imageOf).page page) = .ok a) :
    Does imageOf raw ids p₀ (Session.onStore fun r => Store.view pin (f r.layout))
      (PlainFile.look page f) s := by
  have hcontent : s.store.content imageOf pin.key = (s.plain imageOf).page page := by
    rw [hkey]
    rfl
  have hlook : ∀ r, f (s.plain imageOf).layout ((s.plain imageOf).page page) = r →
      PlainFile.look page f (s.plain imageOf) = liftOverrun r (s.plain imageOf) := by
    rintro _ rfl
    rfl
  unfold Does
  rw [ends_onStore, Store.ends_view hs.sound hpin, hcontent]
  refine ⟨fun a ha => ⟨_, hlook _ ha, .refl hs, .refl _⟩, fun o ho => ?_⟩
  rcases hp with hp | ⟨a, ha⟩
  · exact ⟨hp ▸ .refl hs, .refl _, .inr ⟨_, hlook _ ho⟩⟩
  · cases ha.symm.trans ho

/-- **What is written to a pinned page is written to the plain file.** -/
theorem does_edit (hs : s.Good imageOf raw) {pin : Pin} (hpin : s.store.Holds pin)
    (hid : pin.id ∈ ids) {page : Nat} (hkey : pin.key = ⟨s.file.handle, page⟩)
    {e : PageLayout → Buffer.Edit blockSize α}
    (htotal : ∃ a b, e (s.plain imageOf).layout ((s.plain imageOf).page page) = .ok a b) :
    Does imageOf raw ids p₀ (Session.edit pin e) (PlainFile.edit page e) s := by
  obtain ⟨a, b, he⟩ := htotal
  have hcontent : s.store.content imageOf pin.key = (s.plain imageOf).page page := by
    rw [hkey]
    rfl
  have hedit : PlainFile.edit page e (s.plain imageOf) =
      .ok a ((s.plain imageOf).withPage page b) := by
    unfold PlainFile.edit
    rw [he]
  have hrun : Ends (Store.edit pin (e s.file.layout) : StoreM RecordError α) s.store _ _ :=
    Store.ends_edit hs.sound hpin (by rw [hcontent]; exact he)
  unfold Does Session.edit
  rw [ends_onStore]
  refine hrun.imp ?_ fun _ _ h => h.elim
  rintro _ store ⟨rfl, hsound, hheld, hpic⟩
  have htable := congrArg Picture.table hpic
  refine ⟨_, hedit, ⟨hs.of_table hsound htable, rfl, hpic.trans ?_⟩, hheld.mono ?_⟩
  · rw [hkey]
    ext1
    case header => exact (Function.update_eq_self _ _).symm
    case pages => exact (Function.update_eq_self _ _).symm
    case content =>
      funext k
      show Function.update (s.store.content imageOf) _ b k =
        if k.file = s.file.handle then Function.update (s.plain imageOf).page page b k.page
        else s.store.content imageOf k
      rw [Function.update_apply, Function.update_apply]
      obtain ⟨file, j⟩ := k
      by_cases hfile : file = s.file.handle
      · subst hfile
        rw [if_pos rfl]
        by_cases hj : j = page
        · rw [hj, if_pos rfl, if_pos rfl]
        · rw [if_neg hj, if_neg (by simpa using hj)]
          rfl
      · rw [if_neg hfile, if_neg (by simp [hfile])]
    all_goals rfl
  · intro id hmem
    rw [List.mem_singleton.mp hmem]
    exact hid

/-- A holder notes that it wrote. -/
theorem does_noteWrite (hs : s.Good imageOf raw) {pin : Pin} (hpin : s.store.Holds pin)
    (hid : pin.id ∈ ids) :
    Does imageOf raw ids p₀ (Session.onStore fun _ => Store.noteWrite pin) (pure ()) s := by
  unfold Does
  rw [ends_onStore]
  refine (Store.ends_noteWrite hs.sound hpin).imp ?_ fun _ _ h => h.elim
  rintro _ store ⟨hsound, hheld, hpic⟩
  refine ⟨_, rfl, .of_store hs hsound hpic, hheld.mono fun id hmem => ?_⟩
  rw [List.mem_singleton.mp hmem]
  exact hid

/-! ## The header -/

/-- **A header is written down** as long as the file is open. -/
theorem ends_persistHeader (hs : s.Good imageOf raw) :
    Ends Session.persistHeader s
      (fun _ s' => Session.Became imageOf raw s
        ((s.plain imageOf).withHeader s.file.header) s' ∧ s'.store.held = s.store.held)
      (fun _ _ => False) := by
  obtain ⟨o, ho⟩ := Option.isSome_iff_exists.mp hs.opened
  have hlen : ¬blockSize < s.file.header.encode.length := Nat.not_lt.2 s.file.header.length_encode_le
  unfold Session.persistHeader RecordFile.persistHeader RecordFile.passing
  rw [ends_onStore, ends_widenError, Store.ends_onFiles]
  refine (Files.ends_writeHeader hs.sound.coherent.files s.file.handle _).imp ?_ ?_
  · rintro _ fs ⟨o', ho', rfl⟩
    set t : Store := { s.store with
      files := s.store.files.putBlock o'.image 0 (Buffer.ofList blockSize s.file.header.encode) }
      with ht
    obtain ⟨hcoherent, hpic⟩ := hs.sound.coherent.putHeader ho'
      (show t.files = _ from rfl) rfl rfl
    refine ⟨⟨hs.of_table ⟨hcoherent, hs.sound.ids_nodup, hs.sound.id_lt⟩ rfl, rfl,
      hpic.trans ?_⟩, rfl⟩
    ext1
    case pages => exact (Function.update_eq_self _ _).symm
    case content => exact s.content_merge.symm
    all_goals rfl
  · rintro e fs ⟨-, hnone | hlong⟩
    · cases ho.symm.trans hnone
    · exact hlen hlong

/-- **A header that is changed and written down** is so in the plain file. -/
theorem does_putHeader (hs : s.Good imageOf raw) (f : FileHeader → FileHeader) :
    Does imageOf raw ids p₀ (do Session.modifyHeader f; Session.persistHeader)
      (PlainFile.putHeader f) s := by
  unfold Does Session.modifyHeader
  rw [ends_bind, ends_modify]
  set s₁ : Session := { s with file := { s.file with header := f s.file.header } } with hs₁
  have hgood : s₁.Good imageOf raw := ⟨hs.sound, hs.opened⟩
  refine (ends_persistHeader hgood).imp ?_ fun _ _ h => h.elim
  rintro _ s' ⟨hbecame, hheld⟩
  exact ⟨_, rfl, ⟨hbecame.good, hbecame.file, hbecame.picture⟩, .of_eq hheld⟩

/-! ## Pins -/

/-- **A page of the file may be pinned** if the header counts it. -/
theorem takes_pinPage (hs : s.Good imageOf raw) (hp : s.plain imageOf = p₀)
    (hcount : p₀.header.pages ≤ p₀.count) (page : Nat) :
    Takes imageOf raw ids p₀ (Session.pinPage page)
      (do PlainFile.checkPage page; return page) s := by
  obtain ⟨o, ho⟩ := Option.isSome_iff_exists.mp hs.opened
  have himg := hs.sound.coherent.stands_of_byHandle? ho
  have hcheck : ∀ r, (if page ≥ s.file.header.pages then
        (fail (.pageNotExist page) : PlainM Unit) else pure ()) = r →
      (do PlainFile.checkPage page; return page : PlainM Nat) (s.plain imageOf) =
        (do r; return page : PlainM Nat) (s.plain imageOf) := by
    rintro _ rfl
    rfl
  unfold Takes Session.pinPage RecordFile.pinPage
  rw [ends_onStore]
  by_cases hpage : page ≥ s.file.header.pages
  · rw [if_pos hpage] at hcheck
    rw [if_pos hpage]
    exact ⟨hp ▸ .refl hs, .refl _, .inr ⟨_, hcheck _ rfl⟩⟩
  · rw [if_neg hpage] at hcheck
    rw [if_neg hpage]
    have hlt : page < p₀.count := by
      rw [← hp] at hcount ⊢
      exact Nat.lt_of_lt_of_le (Nat.not_le.1 hpage) hcount
    have hinside : ∀ o, s.store.files.table.byHandle? s.file.handle = some o →
        page < (s.store.files.disk.image o.image).pages := by
      intro o' ho'
      rw [hs.sound.coherent.stands_of_byHandle? ho']
      rw [← hp] at hlt
      exact hlt
    refine ends_widenError.mpr ((Store.ends_pinPage hs.sound hinside).imp ?_ ?_)
    · rintro pin store ⟨htaken, hpic⟩
      exact ⟨page, _, false, hcheck _ rfl,
        .of_store hs htaken.sound hpic, htaken.key_eq, htaken.fresh, .of_eq htaken.held⟩
    · rintro e store ⟨hstill, hfar⟩
      refine .of_still hs hp hstill ?_
      cases e with
      | error fe => trivial
      | overrun w =>
        refine Nat.le_trans (hfar w rfl) (Nat.mul_le_mul_right _ ?_)
        omega

/-- **A pin is given back** and leaves no trace. -/
theorem ends_giveBack (hs : s.Good imageOf raw) {pin : Pin} (hpin : s.store.Holds pin)
    {dirty : Bool} {held : List HeldPin} (hfresh : ∀ h ∈ held, h.pin.id ≠ pin.id)
    (hheld : SameHeld (pin.id :: ids) (⟨pin, dirty⟩ :: held) s.store.held) :
    Ends (Session.release pin) s
      (fun _ s' => Session.Became imageOf raw s (s.plain imageOf) s' ∧
        SameHeld ids held s'.store.held) (fun _ _ => False) := by
  unfold Session.release
  rw [ends_onStore]
  refine (Store.ends_release hs.sound hpin).imp ?_ fun _ _ h => h.elim
  rintro _ store ⟨hsound, hfilter, hpic⟩
  refine ⟨.of_store hs hsound hpic, ?_⟩
  show SameHeld ids held store.held
  rw [hfilter]
  exact SameHeld.filter (h := ⟨pin, dirty⟩) hheld hfresh

/-- **A pin is given back after a failure**, and the file is what it was. -/
theorem Failed.ends_giveBack {pin : Pin} {dirty : Bool} {p₁ : PlainFile} {s₁ s₂ : Session}
    {m m' : Fault RecordError → Prop} {e : Fault RecordError}
    (h : Failed imageOf raw (pin.id :: ids) p₀ s₁ m e s₂)
    (hbecame : Session.Became imageOf raw s p₁ s₁) (hholds : s₁.store.Holds pin)
    (hfresh : ∀ h ∈ s.store.held, h.pin.id ≠ pin.id)
    (hheld : SameHeld (pin.id :: ids) (⟨pin, dirty⟩ :: s.store.held) s₁.store.held)
    (hm : m e → m' e) :
    Ends (Session.release pin) s₂ (fun _ s₃ => Failed imageOf raw ids p₀ s m' e s₃)
      (fun _ _ => False) := by
  refine (SlottedFile.ends_giveBack h.became.good (hholds.of_sameHeld h.held) hfresh
    (hheld.trans h.held)).imp ?_ fun _ _ h => h
  rintro _ s₃ ⟨hbecame₃, hheld₃⟩
  refine ⟨(hbecame.trans h.became).trans ?_, hheld₃, h.reason.imp_right hm⟩
  rw [← h.became.plain_eq]
  exact hbecame₃

/-- **What is done while a page is pinned.** The pin is given back whatever
happens, and leaves no trace. -/
theorem Takes.does_withPin {take : RecordM Pin} {m : PlainM Nat} {body : Pin → RecordM α}
    {k : Nat → PlainM α} (htake : Takes imageOf raw ids p₀ take m s)
    (hbody : ∀ pin page p' s', m (s.plain imageOf) = .ok page p' →
      Session.Became imageOf raw s p' s' → pin.key = ⟨s'.file.handle, page⟩ →
      s'.store.Holds pin → (∀ q, s.store.Holds q → s'.store.Holds q) →
      Does imageOf raw (pin.id :: ids) p₀ (body pin) (k page) s') :
    Does imageOf raw ids p₀ (Session.withPin take body) (m >>= k) s := by
  unfold Does Session.withPin
  rw [ends_bind]
  refine Ends.imp htake ?_ ?_
  · rintro pin s₁ ⟨page, p₁, dirty, hm, hbecame, hkey, hfresh, hheld⟩
    obtain ⟨hholds, hold⟩ := Store.Holds.of_cons hheld
    rw [← hbecame.handle_eq] at hkey
    have hbind : (m >>= k) (s.plain imageOf) = k page p₁ := bind_of_ok hm
    rw [ends_tryFinally]
    refine Ends.imp (hbody pin page p₁ s₁ hm hbecame hkey hholds hold) ?_ ?_
    · rintro a s₂ ⟨p₂, hk, hbecame₂, hheld₂⟩
      refine (ends_giveBack hbecame₂.good (hholds.of_sameHeld hheld₂) hfresh (hheld.trans hheld₂)).imp
        ?_ fun _ _ h => h.elim
      rintro _ s₃ ⟨hbecame₃, hheld₃⟩
      refine ⟨p₂, ?_, (hbecame.trans hbecame₂).trans ?_, hheld₃⟩
      · rw [hbind, ← hbecame.plain_eq, hk]
      · rw [← hbecame₂.plain_eq]
        exact hbecame₃
    · rintro e s₂ hfailed
      refine (hfailed.ends_giveBack hbecame hholds hfresh hheld ?_).imp (fun _ _ h => h)
        fun _ _ h => h.elim
      rintro ⟨p₂, hk⟩
      exact ⟨p₂, by rw [hbind, ← hbecame.plain_eq, hk]⟩
  · rintro e s₁ hfailed
    refine ⟨hfailed.became, hfailed.held, hfailed.reason.imp_right ?_⟩
    rintro ⟨p₁, hm⟩
    exact ⟨p₁, bind_of_error hm⟩

end Does

end SlottedFile
