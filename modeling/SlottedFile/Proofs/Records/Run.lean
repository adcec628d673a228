import SlottedFile.Proofs.Pool.Run
import SlottedFile.Proofs.Records.Opening
import SlottedFile.Proofs.Records.Replay

/-!
# A record file over whole runs

A record file is created, opened, called, closed and opened again, while other
clients of the same store work on files of their own and pin whatever pages they
like (`RecordRun`). The file is open at every point of a run, under the handle it
was given last.

Whatever the calls, the file is all there at every point (`RecordRun.atWork`): its
pages are as many as its header counts, and its header is written down. That is all
a call relies on to leave the file as it was if it fails.
-/

namespace SlottedFile

/-- **How a file is used**: by which calls, and up to which number of pages. -/
structure RecordUse where
  calls : RecordCall → Prop
  pages : Nat → Prop

namespace RecordUse

/-- Any use. -/
def any : RecordUse where
  calls := fun _ => True
  pages := fun _ => True

/-- The use of a file to which its pages are left, and whose pages links can
name. -/
def orderly : RecordUse where
  calls := RecordCall.ReadOnly
  pages := fun n => n < noPage

end RecordUse

/-- **A run of a record file**, with the history of its calls and the other client of
its store. The file starts out as it is created in a store where clients have been
at work. No handle but its own stands for it, and it is closed only when none of its
pages is pinned. -/
inductive RecordRun (other : Nat → ImageId) (image : ImageId) (path : Path)
    (options : FileOptions) (use : RecordUse) : List RecordEvent → Session → Client → Prop
  | opened {s₀ s₁ s₂ : Store} {c : Client} {file : RecordFile}
      (hpool : PoolReachable other s₀ c) (hother : ∀ h, other h ≠ image)
      (hcreate : RecordFile.create path options s₀ = .ok () s₁)
      (hleads : s₁.files.disk.Leads path image)
      (hopen : RecordFile.openFile path s₁ = .ok file s₂) :
      RecordRun other image path options use [] ⟨s₂, file⟩ c
  | returned {history : List RecordEvent} {s s' : Session} {c : Client} {call : RecordCall}
      {r : RecordReply} (h : RecordRun other image path options use history s c)
      (hcall : use.calls call) (hallowed : call.Allowed s) (hrun : call.run s = .ok r s')
      (hpages : use.pages s'.file.header.pages) :
      RecordRun other image path options use (history ++ [⟨call, .ok r⟩]) s' c
  | failed {history : List RecordEvent} {s s' : Session} {c : Client} {call : RecordCall}
      {e : Fault RecordError} (h : RecordRun other image path options use history s c)
      (hcall : use.calls call) (hallowed : call.Allowed s) (hrun : call.run s = .error e s') :
      RecordRun other image path options use (history ++ [⟨call, .error e⟩]) s' c
  | beside {history : List RecordEvent} {s : Session} {store : Store} {c c' : Client}
      (h : RecordRun other image path options use history s c)
      (hstep : PoolStep (standFor other image s.file.handle) (· ≠ s.file.handle)
        (s.store, c) (store, c')) :
      RecordRun other image path options use history { s with store } c'
  | reopened {history : List RecordEvent} {s : Session} {s₁ s₂ : Store} {c : Client}
      {file : RecordFile} (h : RecordRun other image path options use history s c)
      (hpins : ∀ k, k.file = s.file.handle → s.store.pool.pinCount k = 0)
      (hclose : s.file.close s.store = .ok () s₁)
      (hopen : RecordFile.openFile path s₁ = .ok file s₂) :
      RecordRun other image path options use history ⟨s₂, file⟩ c

/-- **The record file of a session**, if no other handle stands for it. -/
def Session.own (other : Nat → ImageId) (image : ImageId) (s : Session) : PlainFile :=
  s.plain (standFor other image s.file.handle)

/-! ## What every point of a run has in common -/

/-- **A record file in hand**: no handle but its own stands for it, its store is sound, and
its pages are as many as its header counts. -/
structure InHand (other : Nat → ImageId) (image : ImageId) (raw : List Hold) (s : Session) :
    Prop where
  injective : Function.Injective other
  other_ne : ∀ h, other h ≠ image
  good : s.Good (standFor other image s.file.handle) raw
  sized : (s.own other image).Sized

namespace InHand

variable {other : Nat → ImageId} {image : ImageId} {path : Path} {raw : List Hold}
  {s s' : Session} {p : PlainFile}

/-- What a call does keeps a file in hand. -/
theorem became (h : InHand other image raw s)
    (hbecame : Session.Became (standFor other image s.file.handle) raw s p s') (hsized : p.Sized) :
    InHand other image raw s' ∧ s'.own other image = p := by
  have hown : s'.own other image = p := by
    unfold Session.own
    rw [hbecame.handle_eq]
    exact hbecame.plain_eq
  refine ⟨⟨h.injective, h.other_ne, ?_, ?_⟩, hown⟩
  · rw [hbecame.handle_eq]
    exact hbecame.good
  · rw [hown]
    exact hsized

/-- What other clients do keeps a file in hand, and leaves it alone. -/
theorem beside {c c' : Client} {store : Store} (h : InHand other image c.holds s)
    (hstep : PoolStep (standFor other image s.file.handle) (· ≠ s.file.handle)
      (s.store, c) (store, c')) :
    InHand other image c'.holds { s with store } ∧
      ({ s with store } : Session).own other image = s.own other image := by
  obtain ⟨hcoherent, hspared, -⟩ := hstep.preserves h.good.sound.coherent
  have hnot : ¬s.file.handle ≠ s.file.handle := fun hne => hne rfl
  have hown : ({ s with store } : Session).own other image = s.own other image := by
    unfold Session.own Session.plain
    congr 1
    · exact congrFun hspared.header _
    · exact hspared.pages hnot
    · funext page
      exact hspared.content (k := ⟨s.file.handle, page⟩) hnot
  obtain ⟨o, ho⟩ := Option.isSome_iff_exists.mp h.good.opened
  refine ⟨⟨h.injective, h.other_ne, ⟨⟨?_, ?_, ?_⟩, ?_⟩, ?_⟩, hown⟩
  · rw [hspared.held]
    exact hcoherent
  · rw [hspared.held]
    exact h.good.sound.ids_nodup
  · rw [hspared.held, hspared.nextPin]
    exact h.good.sound.id_lt
  · rw [hspared.opened hnot ho]
    rfl
  · rw [hown]
    exact h.sized

/-- A file that was opened is in hand, whatever is in its pages. -/
theorem of_opened {store : Store} (hinj : Function.Injective other)
    (hother : ∀ h, other h ≠ image) (h : Session.Opened other image raw path store s') :
    InHand other image raw s' :=
  ⟨hinj, hother, h.good, FileHeader.fits_of_flaw (FileHeader.flaw_of_decode h.decoded), h.count_eq⟩

end InHand

/-- **A record file at work**: its header is written down, and its path leads to it. -/
structure AtWork (other : Nat → ImageId) (image : ImageId) (path : Path) (raw : List Hold)
    (s : Session) : Prop extends InHand other image raw s where
  written : (s.own other image).stored = Buffer.ofList blockSize s.file.header.encode
  place : ∃ o, s.store.files.table.byHandle? s.file.handle = some o ∧
    s.store.files.disk.canonical path = .ok o.place

namespace AtWork

variable {other : Nat → ImageId} {image : ImageId} {path : Path} {raw : List Hold}
  {s s' : Session} {p : PlainFile}

theorem whole (h : AtWork other image path raw s) : (s.own other image).Whole :=
  ⟨h.sized, h.written⟩

/-- What a call does keeps a file at work. -/
theorem became (h : AtWork other image path raw s)
    (hbecame : Session.Became (standFor other image s.file.handle) raw s p s') (hwhole : p.Whole) :
    AtWork other image path raw s' ∧ s'.own other image = p := by
  obtain ⟨hhand, hown⟩ := h.toInHand.became hbecame hwhole.toSized
  obtain ⟨o, ho, hplace⟩ := h.place
  refine ⟨⟨hhand, ?_, o, ?_, ?_⟩, hown⟩
  · rw [hown, hwhole.written, hbecame.file]
  · rw [hbecame.table_eq, hbecame.handle_eq]
    exact ho
  · have hentries : s'.store.files.disk.entries = s.store.files.disk.entries :=
      congrArg Picture.entries hbecame.picture
    rw [Disk.canonical_congr hentries]
    exact hplace

/-- What other clients do keeps a file at work, and leaves it alone. -/
theorem beside {c c' : Client} {store : Store} (h : AtWork other image path c.holds s)
    (hstep : PoolStep (standFor other image s.file.handle) (· ≠ s.file.handle)
      (s.store, c) (store, c')) :
    AtWork other image path c'.holds { s with store } ∧
      ({ s with store } : Session).own other image = s.own other image := by
  obtain ⟨hhand, hown⟩ := h.toInHand.beside hstep
  obtain ⟨-, hspared, -⟩ := hstep.preserves h.good.sound.coherent
  obtain ⟨o, ho, hplace⟩ := h.place
  refine ⟨⟨hhand, ?_, o, hspared.opened (fun hne => hne rfl) ho, ?_⟩, hown⟩
  · rw [hown]
    exact h.written
  · rw [Disk.canonical_congr hspared.entries]
    exact hplace

/-- A file that was opened is at work if its header block was written by it. -/
theorem of_opened {store : Store} (hinj : Function.Injective other)
    (hother : ∀ h, other h ≠ image) {header : FileHeader}
    (hblock : (store.files.disk.image image).block 0 = Buffer.ofList blockSize header.encode)
    (h : Session.Opened other image raw path store s') : AtWork other image path raw s' := by
  have hdecoded := h.decoded
  rw [hblock] at hdecoded
  refine ⟨.of_opened hinj hother h, h.stored_eq.trans ?_, h.place⟩
  rw [hblock, ← FileHeader.encode_of_decode hdecoded]

/-- The path of a file leads to it. -/
theorem leads (h : AtWork other image path raw s) : s.store.files.disk.Leads path image := by
  obtain ⟨o, ho, hplace⟩ := h.place
  have hcoherent := h.good.sound.coherent
  have hnode := hcoherent.files.placed o (FileTable.mem_of_byHandle? ho).1
  rw [hcoherent.stands_of_byHandle? ho, standFor_self] at hnode
  exact ⟨o.place, hplace, hnode⟩

/-- **The file that was closed** is where its path leads, in its blocks, and no handle
stands for it. -/
theorem closed {s₁ : Store} (h : AtWork other image path raw s)
    (hclosed : s.Closed (standFor other image s.file.handle) raw s₁) :
    s₁.Sound other raw ∧ s₁.files.disk.Leads path image ∧
      s₁.files.disk.Keeps image (s.own other image) := by
  have htable : s₁.files.table = s.store.files.table.erase s.file.handle :=
    congrArg Picture.table hclosed.picture
  have hentries : s₁.files.disk.entries = s.store.files.disk.entries :=
    congrArg Picture.entries hclosed.picture
  have hkeeps := hclosed.keeps
  rw [standFor_self] at hkeeps
  refine ⟨⟨?_, hclosed.sound.ids_nodup, hclosed.sound.id_lt⟩, h.leads.congr hentries, hkeeps⟩
  refine hclosed.sound.coherent.rename h.injective (fun o ho => ?_) fun {k f} hframe => ?_
  · rw [htable] at ho
    exact (standFor_of_ne (FileTable.mem_opened_erase.mp ho).2).symm
  · refine (standFor_of_ne fun hk => ?_).symm
    rw [hclosed.out k hk] at hframe
    cases hframe

/-- **A file that is opened is the one that the disk keeps**, if its header reads
back. -/
theorem own_of_opened {store : Store} (h : Session.Opened other image raw path store s')
    (hkeeps : store.files.disk.Keeps image p) (hwhole : p.Whole)
    (hdecode : FileHeader.decode p.stored.toList = .ok p.header) : s'.own other image = p := by
  have hdecoded := h.decoded
  rw [hkeeps.stored_eq, hdecode] at hdecoded
  have hheader : p.header = s'.file.header := Except.ok.inj hdecoded
  have hcount : p.count = s'.file.header.pages := by
    rw [← hheader]
    exact hwhole.count
  cases p with
  | mk header stored count page =>
    unfold Session.own Session.plain
    congr 1
    · exact hheader.symm
    · exact h.stored_eq.trans hkeeps.stored_eq
    · exact h.count_eq.trans hcount.symm
    · funext page
      exact (h.page_eq (hkeeps.count_eq.trans hcount) page).trans (hkeeps.page_eq page)

/-- **A file that was closed and opened again** is at work, and is the same file if
its header reads back. -/
theorem reopened {s₁ s₂ : Store} {file : RecordFile} (h : AtWork other image path raw s)
    (hpins : ∀ k, k.file = s.file.handle → s.store.pool.pinCount k = 0)
    (hclose : s.file.close s.store = .ok () s₁)
    (hopen : RecordFile.openFile path s₁ = .ok file s₂) :
    AtWork other image path raw ⟨s₂, file⟩ ∧
      (FileHeader.decode (s.own other image).stored.toList = .ok s.file.header →
        (⟨s₂, file⟩ : Session).own other image = s.own other image) := by
  have hclosed := (ends_close h.good rfl h.whole hpins).of_ok hclose
  obtain ⟨hsound, hleads, hkeeps⟩ := h.closed hclosed
  have hopened := (ends_openRecordFile hsound h.other_ne hleads).of_ok hopen
  refine ⟨?_, own_of_opened hopened hkeeps h.whole⟩
  exact of_opened h.injective h.other_ne (hkeeps.stored_eq.trans h.whole.written) hopened

/-- **A file that the disk keeps can be opened** as long as there is a handle left. -/
theorem exists_opened {store : Store} (hs : store.Sound other raw) (hother : ∀ h, other h ≠ image)
    (hleads : store.files.disk.Leads path image) (hkeeps : store.files.disk.Keeps image p)
    (hwhole : p.Whole) (hdecode : FileHeader.decode p.stored.toList = .ok p.header)
    (hroom : store.files.table.opened.length < store.files.table.limit) :
    ∃ file store', RecordFile.openFile path store = .ok file store' ∧
      Session.Opened other image raw path store ⟨store', file⟩ ∧
      AtWork other image path raw ⟨store', file⟩ ∧ (⟨store', file⟩ : Session).own other image = p := by
  have hopen : Ends (RecordFile.openFile path) store
      (fun file s' => Session.Opened other image raw path store ⟨s', file⟩) (fun _ _ => False) := by
    refine (ends_openRecordFile hs hother hleads).imp (fun _ _ h => h) fun _ _ hcause => ?_
    refine hcause hroom p.header ?_ (hkeeps.count_eq.trans hwhole.count)
    rw [hkeeps.stored_eq]
    exact hdecode
  obtain ⟨file, store', hok, hopened⟩ := hopen.exists_ok
  refine ⟨file, store', hok, hopened, ?_, own_of_opened hopened hkeeps hwhole hdecode⟩
  exact of_opened hs.coherent.injective hother (hkeeps.stored_eq.trans hwhole.written) hopened

end AtWork

/-! ## What a run preserves -/

section Run

variable {other : Nat → ImageId} {image : ImageId} {path : Path} {options : FileOptions}
  {use : RecordUse} {history : List RecordEvent} {raw : List Hold} {s s' : Session} {c : Client}

/-- **The step lemma of calls.** A call that fails leaves the file as it was. -/
theorem AtWork.ends_run (h : AtWork other image path raw s) {call : RecordCall}
    (hallowed : call.Allowed s) :
    Ends call.run s (fun _ s' => AtWork other image path raw s')
      (fun _ s' => AtWork other image path raw s' ∧ s'.file = s.file ∧
        s'.own other image = s.own other image) := by
  refine Ends.imp (call.ends_run h.good rfl h.whole hallowed) ?_ ?_
  · rintro r s' ⟨full, p', hplain, hbecame, -⟩
    exact (h.became hbecame ((call.grows_plain.of_ok h.whole.toSized hplain).whole h.whole)).1
  · rintro e s' ⟨hbecame, -⟩
    obtain ⟨hwork, hown⟩ := h.became hbecame h.whole
    exact ⟨hwork, hbecame.file_eq rfl, hown⟩

/-- The store in which a run begins. -/
theorem PoolReachable.sound {s : Store} (h : PoolReachable other s c) : s.Sound other c.holds := by
  obtain ⟨hinj, disk, capacity, limit, hrun⟩ := h
  have hstart : Coherent other ([] ++ []) (Store.ofDisk disk capacity limit) :=
    .ofDisk hinj disk capacity limit
  obtain ⟨hs, hspared, -⟩ := PoolStep.preserves_run hstart hrun
  have hheld : s.held = [] := hspared.held
  refine ⟨?_, ?_, ?_⟩
  · rw [hheld]
    exact hs
  · rw [hheld]
    exact List.nodup_nil
  · rw [hheld]
    exact nofun

/-- **The run lemma**: a record file is at work at every point of a run. -/
theorem RecordRun.atWork (h : RecordRun other image path options use history s c) :
    AtWork other image path c.holds s := by
  induction h with
  | opened hpool hother hcreate hleads hopen =>
    obtain ⟨header, -, hcreated⟩ :=
      (ends_createRecordFile hpool.sound hother path options).of_ok hcreate hleads
    have hopened := (ends_openRecordFile hcreated.sound hother hleads).of_ok hopen
    exact .of_opened hcreated.sound.coherent.injective hother hcreated.made.stored_eq hopened
  | returned _ _ hallowed hrun _ ih => exact (ih.ends_run hallowed).of_ok hrun
  | failed _ _ hallowed hrun ih => exact ((ih.ends_run hallowed).of_error hrun).1
  | beside _ hstep ih => exact (ih.beside hstep).1
  | reopened _ hpins hclose hopen ih => exact (ih.reopened hpins hclose hopen).1

/-- **A call that fails leaves the file as it was**, whatever has been done with it
before: the header in memory, the header block, the page count and the bytes of every
page. -/
theorem failed_call_keeps_file (h : RecordRun other image path options .any history s c)
    {call : RecordCall} (hallowed : call.Allowed s) {e : Fault RecordError}
    (hfailed : call.run s = .error e s') :
    s'.file = s.file ∧
      (s'.store.files.disk.image image).block 0 = (s.store.files.disk.image image).block 0 ∧
      (s'.store.files.disk.image image).pages = (s.store.files.disk.image image).pages ∧
      ∀ page, s'.store.content (standFor other image s.file.handle) ⟨s.file.handle, page⟩ =
        s.store.content (standFor other image s.file.handle) ⟨s.file.handle, page⟩ := by
  obtain ⟨-, hfile, hown⟩ := (h.atWork.ends_run hallowed).of_error hfailed
  have hself : ∀ s : Session, standFor other image s.file.handle s.file.handle = image :=
    fun s => standFor_self
  have hstored := congrArg PlainFile.stored hown
  have hcount := congrArg PlainFile.count hown
  have hpage := congrArg PlainFile.page hown
  unfold Session.own Session.plain at hstored hcount hpage
  rw [hfile] at hpage
  dsimp only at hstored hcount hpage
  rw [hself s', hself s] at hstored hcount
  exact ⟨hfile, hstored, hcount, fun page => congrFun hpage page⟩

/-! ## A run -/

/-- A store with a single frame, on an empty disk. -/
def oneFrame : Store := .ofDisk .empty 1 1

/-- That store after a file was created, with one slot of one byte in every page. -/
def tinyCreated : Store := stateAfter (RecordFile.create ⟨["f"]⟩ ⟨1, some 1⟩) oneFrame

/-- The file after it was opened, -/
def tinyOpened : Session where
  store := stateAfter (RecordFile.openFile ⟨["f"]⟩) tinyCreated
  file := ⟨1, ⟨1, 1, 0, 1, none⟩⟩

/-- after a page was added to it and pinned, -/
def tinyPinned : Session := stateAfter RecordCall.newPage.run tinyOpened

/-- and after that page was filled. -/
def tinyFilled : Session := stateAfter (RecordCall.insert [7]).run tinyPinned

/-- The file after a record was put into it, which is still in the frame. -/
def tinyKept : Session := stateAfter (RecordCall.insert [7]).run tinyOpened

/-- A client that holds no pin. -/
def idle : Client where
  holds := []
  last := oneFrame.diskBlock (· + 1)

/-- What was called. -/
def tinyHistory : List RecordEvent :=
  [⟨.newPage, .ok (.page 0)⟩, ⟨.insert [7], .ok (.inserted ⟨0, 0⟩)⟩]

set_option maxRecDepth 100000 in
theorem tinyOpened_run (use : RecordUse) :
    RecordRun (· + 1) 0 ⟨["f"]⟩ ⟨1, some 1⟩ use [] tinyOpened idle := by
  have hpool : PoolReachable (· + 1) oneFrame idle :=
    .run (fun _ _ h => Nat.succ.inj h) .empty 1 1 .refl
  have hcreate : RecordFile.create ⟨["f"]⟩ ⟨1, some 1⟩ oneFrame = .ok () tinyCreated := rfl
  have hopen : RecordFile.openFile ⟨["f"]⟩ tinyCreated = .ok tinyOpened.file tinyOpened.store := rfl
  exact .opened hpool Nat.succ_ne_zero hcreate ⟨_, rfl, rfl⟩ hopen

set_option maxRecDepth 100000 in
theorem tinyKept_run (use : RecordUse) (hcall : use.calls (.insert [7])) (hpages : use.pages 1) :
    RecordRun (· + 1) 0 ⟨["f"]⟩ ⟨1, some 1⟩ use [⟨.insert [7], .ok (.inserted ⟨0, 0⟩)⟩] tinyKept
      idle := by
  have hinsert : (RecordCall.insert [7]).run tinyOpened = .ok (.inserted ⟨0, 0⟩) tinyKept := rfl
  exact (tinyOpened_run use).returned hcall trivial hinsert hpages

set_option maxRecDepth 100000 in
theorem tinyFilled_run (use : RecordUse) (hcalls : ∀ call : RecordCall, call.ReadOnly → use.calls call)
    (hpages : use.pages 1) :
    RecordRun (· + 1) 0 ⟨["f"]⟩ ⟨1, some 1⟩ use tinyHistory tinyFilled idle := by
  have hpin : RecordCall.newPage.run tinyOpened = .ok (.page 0) tinyPinned := rfl
  have hfill : (RecordCall.insert [7]).run tinyPinned = .ok (.inserted ⟨0, 0⟩) tinyFilled := rfl
  have hpinned := (tinyOpened_run use).returned (hcalls .newPage trivial) trivial hpin hpages
  exact hpinned.returned (hcalls (.insert [7]) trivial) trivial hfill hpages

set_option maxRecDepth 100000 in
/-- The page is full and the frame is pinned, so that no page can be added for
another record: the file stays as it was. -/
theorem failed_call_keeps_file_noFrame :
    ∃ e s', (RecordCall.insert [8]).run tinyFilled = .error (.error (.internal (.allocate e))) s' ∧
      s'.file = tinyFilled.file := by
  have hrun := tinyFilled_run .any (fun _ _ => trivial) trivial
  have hallowed : (RecordCall.insert [8]).Allowed tinyFilled := trivial
  refine ⟨_, _, rfl, ?_⟩
  exact (failed_call_keeps_file hrun hallowed rfl).1

end Run

end SlottedFile
