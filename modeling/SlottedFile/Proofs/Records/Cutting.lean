import SlottedFile.Proofs.Records.Undisturbed

/-!
# The tail that is cut off

Pages behind the last one that the header counts were added, but never became part of the
file: the header was not written down any more. Whoever opens the file cuts them off
(`Image.cut`), and nothing else. What is left has the header that the header block held,
reads as it did, and can be opened again (`opening_cuts_uncommitted_tail`).

A page that is added is the one behind the last. It is the one that the header expects as
long as the file has the pages that its header counts, and no page that is written back
makes it longer (`Session.InStep`). That is so when a file was opened (`Store.Cut.inStep`).
-/

namespace SlottedFile

/-! ## Files that are cut -/

namespace Image

variable {img : Image} {n k : Nat}

/-- **A file without the pages behind a number of them.** -/
def cut (img : Image) (n : Nat) : Image :=
  if n < img.pages then img.setSize ((n + 1) * blockSize) else img

theorem cut_of_le (h : img.pages ≤ n) : img.cut n = img := if_neg (Nat.not_lt.2 h)

theorem pages_cut (h : n ≤ img.pages) : (img.cut n).pages = n := by
  rcases Nat.lt_or_eq_of_le h with hlt | rfl
  · rw [cut, if_pos hlt, pages_setSize]
  · rw [cut_of_le (Nat.le_refl _)]

/-- The header block and the pages that are left read as before. -/
theorem block_cut (h : k ≤ n) : (img.cut n).block k = img.block k := by
  unfold cut
  split
  · exact block_setSize_of_block_le (Nat.mul_le_mul_right _ (Nat.succ_le_succ h))
  · rfl

/-- **A file that was cut where its header says** can be opened with that header. -/
theorem Commits.cut {header : FileHeader} (h : img.Commits header) :
    (img.cut header.pages).Commits header := by
  refine ⟨?_, Nat.le_of_eq (pages_cut h.2).symm⟩
  rw [block_cut (Nat.zero_le _)]
  exact h.1

end Image

namespace Store

variable {s : Store} {i : ImageId} {n : Nat}

@[simp] theorem table_cut : (s.cut i n).files.table = s.files.table := by
  unfold cut
  split <;> rfl

@[simp] theorem entries_cut : (s.cut i n).files.disk.entries = s.files.disk.entries := by
  unfold cut
  split <;> rfl

@[simp] theorem pool_cut : (s.cut i n).pool = s.pool := by
  unfold cut
  split <;> rfl

theorem image_cut (hi : i < s.files.disk.images.size) :
    (s.cut i n).files.disk.image i = (s.files.disk.image i).cut n := by
  unfold cut Image.cut
  split
  · exact (Disk.image_setImage _ hi i).trans (if_pos rfl)
  · rfl

theorem sound_cut (hs : s.files.Sound) : (s.cut i n).files.Sound := by
  unfold cut
  split
  · exact hs.putImage _ _
  · exact hs

end Store

/-! ## Opening -/

section Opening

variable {s s' : Store} {path : Path} {i : ImageId} {file : RecordFile} {header : FileHeader}

/-- **A file that was opened** under the next handle, and cut. -/
structure Store.Cut (s : Store) (path : Path) (i : ImageId) (file : RecordFile) (s' : Store) :
    Prop where
  room : s.files.table.opened.length < s.files.table.limit
  commits : (s.files.disk.image i).Commits file.header
  handle_eq : file.handle = s.files.table.next
  sound : s'.files.Sound
  pool_eq : s'.pool = s.pool
  table_eq : ∃ place, s'.files.table = s.files.table.add place i ∧
    s'.files.disk.canonical path = .ok place
  leads : s'.files.disk.Leads path i
  image_eq : s'.files.disk.image i = (s.files.disk.image i).cut file.header.pages

/-- **A file that is not open is opened** if there is a handle left, its header can be read
and its pages are there. -/
theorem ends_openFile_cut (hs : s.files.Sound) (hleads : s.files.disk.Leads path i)
    (hclosed : ∀ o ∈ s.files.table.opened, o.image ≠ i) :
    Ends (RecordFile.openFile path) s (fun file s' => s.Cut path i file s')
      (fun _ _ => s.files.table.opened.length < s.files.table.limit →
        ∀ header, ¬(s.files.disk.image i).Commits header) := by
  unfold RecordFile.openFile RecordFile.passing
  rw [ends_bind, ends_widenError]
  refine (Store.ends_openFile s path).imp ?_ ?_
  swap
  · rintro _ _ ⟨-, -, hfull⟩ hroom
    obtain ⟨place, hplace, hnode⟩ := hleads
    exact absurd hroom (Nat.not_lt.2 ((hfull place hplace).2 i hnode))
  rintro h _ ⟨place, hplace, ⟨ho, -⟩ | ⟨j, hunopened, hnode, hroom, rfl, rfl⟩⟩
  · exact absurd (ho.symm.trans (hleads.handleAt?_eq_none hs hclosed hplace)) nofun
  obtain rfl := hleads.eq_of_node? hplace hnode
  have hopen : (s.files.table.add place j).byHandle? s.files.table.next = some ⟨_, place, j⟩ :=
    FileTable.byHandle?_add.trans (if_pos rfl)
  have hs₁ : (s.withTable (s.files.table.add place j)).files.Sound := hs.add hunopened hnode
  rw [ends_bind, ends_attempt]
  refine (ends_loadHeader_cut (s := s.withTable (s.files.table.add place j)) hopen).imp ?_ ?_
  · rintro header _ ⟨hcommits, rfl⟩
    rw [ends_bind, Store.ends_report]
    constructor
    case room => exact hroom
    case commits => exact hcommits
    case handle_eq => rfl
    case sound => exact Store.sound_cut hs₁
    case pool_eq => exact Store.pool_cut
    case table_eq =>
      exact ⟨place, Store.table_cut, (Disk.canonical_congr Store.entries_cut path).trans hplace⟩
    case leads => exact Disk.Leads.congr hleads Store.entries_cut
    case image_eq => exact Store.image_cut (hs₁.lt_images hopen)
  · rintro _ _ ⟨rfl, ⟨e, rfl⟩, hnone⟩
    show Ends _ _ _ _
    rw [ends_bind, ends_widenError, Store.ends_closeFile]
    exact ⟨fun _ _ => hnone, fun _ _ => hnone⟩

/-- **A file can be opened** exactly if there is a handle left, its header can be read and
its pages are there. -/
theorem opens_iff (hs : s.files.Sound) (hleads : s.files.disk.Leads path i)
    (hclosed : ∀ o ∈ s.files.table.opened, o.image ≠ i) :
    (∃ file s', RecordFile.openFile path s = .ok file s') ↔
      s.files.table.opened.length < s.files.table.limit ∧
        ∃ header, (s.files.disk.image i).Commits header := by
  have hends := ends_openFile_cut hs hleads hclosed
  constructor
  · rintro ⟨file, s', hok⟩
    have hcut := hends.of_ok hok
    exact ⟨hcut.room, file.header, hcut.commits⟩
  · rintro ⟨hroom, header, hcommits⟩
    obtain ⟨file, s', hok, -⟩ := Ends.exists_ok
      (hends.imp (fun _ _ h => h) fun _ _ hnone => hnone hroom header hcommits)
    exact ⟨file, s', hok⟩

/-- **No file is opened without a handle.** -/
theorem openFile_of_full (hs : s.files.Sound) (hleads : s.files.disk.Leads path i)
    (hclosed : ∀ o ∈ s.files.table.opened, o.image ≠ i)
    (hfull : s.files.table.limit ≤ s.files.table.opened.length) :
    RecordFile.openFile path s = .error (.error (.file .tooManyOpenFiles)) s := by
  obtain ⟨place, hplace, -⟩ := id hleads
  refine Ends.eq_error ?_
  unfold RecordFile.openFile RecordFile.passing Files.openFile
  rw [ends_bind, ends_widenError, Store.ends_onFiles, ends_bind, ends_get, hplace]
  dsimp only
  rw [ends_bind, ends_get, hleads.handleAt?_eq_none hs hclosed hplace]
  exact ends_ite.mpr ⟨fun _ => ⟨rfl, rfl⟩, fun hroom => absurd hfull hroom⟩

namespace Store.Cut

/-- The handle is open, and the path leads to it. -/
theorem place (h : s.Cut path i file s') : ∃ o, s'.files.table.byHandle? file.handle = some o ∧
    o.image = i ∧ s'.files.disk.canonical path = .ok o.place := by
  obtain ⟨place, htable, hplace⟩ := h.table_eq
  refine ⟨⟨s.files.table.next, place, i⟩, ?_, rfl, hplace⟩
  rw [htable, h.handle_eq]
  exact FileTable.byHandle?_add.trans (if_pos rfl)

theorem pages_eq (h : s.Cut path i file s') :
    (s'.files.disk.image i).pages = file.header.pages := by
  rw [h.image_eq]
  exact Image.pages_cut h.commits.2

theorem commits_left (h : s.Cut path i file s') :
    (s'.files.disk.image i).Commits file.header := by
  rw [h.image_eq]
  exact h.commits.cut

/-- The pages that the header counts can be addressed. -/
theorem near (h : s.Cut path i file s') : (file.header.pages + 1) * blockSize ≤ Files.maxOffset :=
  FileHeader.reach_of_pages_lt (FileHeader.pages_lt_of_decode h.commits.1)

theorem pageCount_eq (h : s.Cut path i file s') :
    Files.pageCount file.handle s'.files = .ok file.header.pages s'.files := by
  obtain ⟨o, ho, rfl, -⟩ := h.place
  refine Ends.eq_ok (Files.ends_pageCount.mpr
    ⟨fun o' ho' => ?_, fun hnone => absurd (ho.symm.trans hnone) nofun⟩)
  obtain rfl : o = o' := Option.some.inj (ho.symm.trans ho')
  exact ⟨h.pages_eq, rfl⟩

/-- **Every block that the header accounts for reads as before.** -/
theorem readBlock_eq (h : s.Cut path i file s') {k : Nat} (hk : k ≤ file.header.pages) :
    Files.readBlock file.handle k blockSize s'.files =
      .ok ((s.files.disk.image i).block k) s'.files := by
  obtain ⟨o, ho, rfl, -⟩ := h.place
  refine Ends.eq_ok ((Files.ends_readBlock s'.files file.handle k).imp ?_ ?_)
  · rintro _ _ ⟨rfl, -, o', ho', rfl⟩
    obtain rfl : o = o' := Option.some.inj (ho.symm.trans ho')
    rw [h.image_eq]
    exact ⟨Image.block_cut hk, rfl⟩
  · have hnear : (k + 1) * blockSize ≤ Files.maxOffset :=
      Nat.le_trans (Nat.mul_le_mul_right _ (Nat.succ_le_succ hk)) h.near
    rintro (e | w) _ ⟨-, hfar⟩
    · rcases hfar with hnone | hfar
      · exact absurd (ho.symm.trans hnone) nofun
      · exact Nat.not_lt.2 hnear hfar
    · exact Nat.not_lt.2 (Nat.le_trans hfar hnear) (by decide)

theorem readPage_eq (h : s.Cut path i file s') {p : Nat} (hp : p < file.header.pages) :
    Files.readPage file.handle p blockSize s'.files =
      .ok ((s.files.disk.image i).block (p + 1)) s'.files := by
  have hword : Files.pageBlock p s'.files = .ok (p + 1) s'.files := by
    have hlt : p + 1 < wordLimit := by
      have hnear := h.near
      rw [show blockSize = 8192 from rfl, show Files.maxOffset = 9223372036854775807 from rfl] at hnear
      rw [show wordLimit = 18446744073709551616 from rfl]
      omega
    rw [Files.pageBlock, checkWord, if_pos hlt]
    rfl
  exact (bind_of_ok hword).trans (h.readBlock_eq hp)

/-! ### Opening the file again -/

/-- **Whoever opens the file while it is open** gets the same handle and the same header. -/
theorem again (h : s.Cut path i file s') : ∃ t, RecordFile.openFile path s' = .ok file t := by
  obtain ⟨o, ho, rfl, hplace⟩ := h.place
  obtain ⟨file', t, hok, rfl, -⟩ :=
    (ends_openFile_again h.sound ho hplace h.commits_left.1 h.pages_eq).exists_ok
  exact ⟨t, hok⟩

/-- **Whoever opens the file after its handle was closed** gets the same header. -/
theorem reopens (h : s.Cut path i file s') (hs : s.files.Sound)
    (hclosed : ∀ o ∈ s.files.table.opened, o.image ≠ i) {t : Store} (ht : t.files.Sound)
    (htable : t.files.table = s'.files.table.erase file.handle)
    (hentries : t.files.disk.entries = s'.files.disk.entries)
    (hcommits : (t.files.disk.image i).Commits file.header) :
    ∃ handle t', RecordFile.openFile path t = .ok ⟨handle, file.header⟩ t' := by
  obtain ⟨place, htable', -⟩ := h.table_eq
  have hopened : t.files.table.opened = s.files.table.opened := by
    rw [htable, htable', h.handle_eq]
    exact FileTable.opened_erase_add hs.handle_lt place i
  have hlimit : t.files.table.limit = s.files.table.limit := by
    rw [htable, htable']
    rfl
  have hclosed' : ∀ o ∈ t.files.table.opened, o.image ≠ i := hopened ▸ hclosed
  have hleads := h.leads.congr hentries
  have hroom : t.files.table.opened.length < t.files.table.limit := by
    rw [hopened, hlimit]
    exact h.room
  obtain ⟨⟨handle, header⟩, t', hok⟩ :=
    (opens_iff ht hleads hclosed').mpr ⟨hroom, _, hcommits⟩
  have hcut := (ends_openFile_cut ht hleads hclosed').of_ok hok
  obtain rfl : file.header = header := hcommits.unique hcut.commits.1
  exact ⟨handle, t', hok⟩

/-- **The file is closed** before anything was buffered of it: only its header is written
down again. -/
theorem ends_close (h : s.Cut path i file s')
    (hout : ∀ e ∈ s.pool.entries, e.key.file ≠ file.handle) :
    Ends file.close s'
      (fun _ t => t.files.Sound ∧ t.files.table = s'.files.table.erase file.handle ∧
        t.files.disk.entries = s'.files.disk.entries ∧
        (t.files.disk.image i).Commits file.header)
      (fun _ _ => False) := by
  obtain ⟨o, ho, rfl, -⟩ := h.place
  have hlength : ¬blockSize < file.header.encode.length := Nat.not_lt.2 file.header.length_encode_le
  have hdecode : FileHeader.decode (Buffer.ofList blockSize file.header.encode).toList =
      .ok file.header := by
    have hlt := FileHeader.pages_lt_of_decode h.commits.1
    refine FileHeader.decode_block (FileHeader.flaw_of_decode h.commits.1) ?_
    exact Nat.le_of_lt_succ hlt
  unfold RecordFile.close RecordFile.persistHeader RecordFile.passing
  rw [ends_bind, ends_attempt, ends_widenError, Store.ends_onFiles]
  refine (Files.ends_writeHeader h.sound file.handle _).imp ?_ ?_
  swap
  · rintro _ _ ⟨-, hnone | hlong⟩
    · exact absurd (ho.symm.trans hnone) nofun
    · exact absurd hlong hlength
  rintro _ _ ⟨o', ho', rfl⟩
  obtain rfl : o = o' := Option.some.inj (ho.symm.trans ho')
  rw [ends_bind, ends_widenError, Store.ends_discardFile_of_out (by rw [h.pool_eq]; exact hout),
    Store.ends_onFiles, Files.ends_syncFile]
  refine ⟨fun _ => ?_, fun hnone => absurd (ho.symm.trans hnone) nofun⟩
  rw [ends_bind, ends_widenError, Store.ends_closeFile]
  refine ⟨fun _ => ?_, fun hnone => absurd (ho.symm.trans hnone) nofun⟩
  have hi := h.sound.lt_images ho
  refine ⟨(h.sound.putImage _ _).erase file.handle, rfl, rfl, ?_, ?_⟩
  · refine (congrArg (fun b : Block => FileHeader.decode b.toList) ?_).trans hdecode
    refine (congrArg (Image.block · 0) ((Files.image_putBlock hi 0 _ _).trans (if_pos rfl))).trans ?_
    exact (Image.block_setBlock _ _ _ _).trans (if_pos rfl)
  · exact Nat.le_of_eq ((Files.pages_putBlock hi (Nat.zero_le _) _ _).trans h.pages_eq).symm

end Store.Cut

end Opening

/-! ## Pages that are added -/

section Adding

variable {σ α β : Type}

/-- **A failure because a page was added in another place** than the header expects. -/
inductive Misplaced : Fault RecordError → Prop
  | page (page pages : Nat) : Misplaced (.error (.internal (.unexpectedPage page pages)))

/-- **An operation adds no page in another place** than the header expects. -/
def Places (x : EStateM (Fault RecordError) σ α) : Prop :=
  ∀ s, Ends x s (fun _ _ => True) fun e _ => ¬Misplaced e

theorem places_pure (a : α) : Places (pure a : EStateM (Fault RecordError) σ α) :=
  fun _ => trivial

theorem places_fail {e : RecordError} (he : ¬Misplaced (.error e)) :
    Places (fail e : EStateM (Fault RecordError) σ α) :=
  fun _ => he

theorem Places.bind {x : EStateM (Fault RecordError) σ β} {f : β → EStateM (Fault RecordError) σ α}
    (hx : Places x) (hf : ∀ b, Places (f b)) : Places (x >>= f) := fun s =>
  ends_bind.mpr ((hx s).imp (fun b s' _ => hf b s') fun _ _ h => h)

theorem places_ite {c : Prop} [Decidable c] {x y : EStateM (Fault RecordError) σ α}
    (hx : Places x) (hy : Places y) : Places (if c then x else y) := by
  split
  · exact hx
  · exact hy

/-- An operation whose errors are of another kind. -/
theorem places_widenError {ε : Type} {widen : ε → RecordError} {x : EStateM (Fault ε) σ α}
    (hwiden : ∀ e, ¬Misplaced (.error (widen e))) : Places (widenError widen x) := by
  refine fun s => ends_widenError.mpr (ends_iff.mpr ⟨fun _ _ _ => trivial, ?_⟩)
  rintro (e | o) _ -
  · exact hwiden e
  · exact nofun

theorem Places.onStore {x : RecordFile → StoreM RecordError α} (hx : ∀ f, Places (x f)) :
    Places (Session.onStore x) := fun s => ends_onStore.mpr (hx s.file s.store)

theorem places_view (pin : Pin) (f : Block → Except Overrun α) :
    Places (Store.view pin f : StoreM RecordError α) := by
  intro s
  unfold Store.view Store.viewFrame
  rw [ends_bind, ends_get, ends_liftOverrun]
  exact ⟨fun _ _ => trivial, fun _ _ => nofun⟩

theorem places_edit (pin : Pin) (e : PageLayout → Buffer.Edit blockSize α) :
    Places (Session.edit pin e) := by
  refine .onStore fun f s => ?_
  unfold Store.edit Store.noteWrite
  rw [ends_bind, ends_modify]
  exact Store.ends_editFrame.mpr ⟨fun _ _ _ => trivial, fun _ _ _ => nofun⟩

theorem places_release (pin : Pin) : Places (Session.release pin) := by
  refine .onStore fun f s => ?_
  exact Store.ends_release_iff.mpr (ends_iff.mpr
    ⟨fun _ _ _ => trivial, fun _ _ _ => ⟨fun _ _ => trivial, fun _ _ => nofun⟩⟩)

theorem places_report (event : Event) : Places (Session.report event) :=
  .onStore fun _ _ => trivial

theorem places_persistHeader : Places Session.persistHeader :=
  .onStore fun _ => places_widenError fun _ => nofun

theorem places_setFreeHead (head : Option Nat) : Places (Session.setFreeHead head) :=
  Places.bind (fun _ => trivial) fun _ => places_persistHeader

theorem places_pinPage (page : Nat) : Places (Session.pinPage page) :=
  .onStore fun f => by
    have hpin : Places (widenError (fun e => .internal (.fetch page e))
        (Store.pinPage f.handle page) : StoreM RecordError Pin) := places_widenError fun _ => nofun
    exact places_ite ((places_fail (e := .pageNotExist page) nofun).bind fun _ => hpin) hpin

/-- **What is done while a page is pinned.** -/
theorem Places.withPin {s : Session} {take : RecordM Pin} {body : Pin → RecordM α}
    (htake : Ends take s (fun _ _ => True) fun e _ => ¬Misplaced e)
    (hbody : ∀ pin, Places (body pin)) :
    Ends (Session.withPin take body) s (fun _ _ => True) fun e _ => ¬Misplaced e := by
  unfold Session.withPin
  rw [ends_bind]
  refine htake.imp (fun pin s₁ _ => ends_tryFinally.mpr ?_) fun _ _ h => h
  refine (hbody pin s₁).imp (fun _ s₂ _ => places_release pin s₂) fun _ s₂ he => ?_
  exact (places_release pin s₂).imp (fun _ _ _ => he) fun _ _ h => h

end Adding

/-! ### The page behind the last -/

namespace Store

variable {s : Store} {i : ImageId} {k : PageKey}

/-- **A page that is written back makes its file no longer**, if it lies before the end. -/
theorem ends_flushPage_pages (hs : s.files.Sound)
    (hinside : ∀ e ∈ s.pool.entries, ∀ o, s.files.table.byHandle? e.key.file = some o →
      o.image = i → e.key.page < (s.files.disk.image i).pages) (k : PageKey) :
    Ends (flushPage k) s
      (fun _ s' => s'.files.table = s.files.table ∧
        (s'.files.disk.image i).pages = (s.files.disk.image i).pages)
      (fun _ _ => True) := by
  unfold flushPage
  rw [ends_bind, ends_get]
  cases hfind : s.pool.find? k with
  | none => exact ⟨rfl, rfl⟩
  | some e =>
    obtain ⟨hmem, rfl⟩ := Pool.mem_of_find? hfind
    refine ends_ite.mpr ⟨fun _ => ?_, fun _ => ⟨rfl, rfl⟩⟩
    rw [ends_bind, ends_get, ends_bind, ends_onFiles]
    refine (Files.ends_writePage hs e.key.file e.key.page (s.frame e.frame)).imp ?_ fun _ _ _ => trivial
    rintro _ _ ⟨o, ho, rfl⟩
    rw [ends_modifyPool]
    refine ⟨rfl, ?_⟩
    have hi := hs.lt_images ho
    by_cases hsame : o.image = i
    · subst hsame
      exact Files.pages_putBlock hi (hinside e hmem o ho rfl) _ _
    · exact congrArg Image.pages ((Files.image_putBlock hi _ _ i).trans (if_neg (Ne.symm hsame)))

theorem ends_makeRoom_pages (hs : s.files.Sound)
    (hinside : ∀ e ∈ s.pool.entries, ∀ o, s.files.table.byHandle? e.key.file = some o →
      o.image = i → e.key.page < (s.files.disk.image i).pages) :
    Ends makeRoom s
      (fun _ s' => s'.files.table = s.files.table ∧
        (s'.files.disk.image i).pages = (s.files.disk.image i).pages)
      (fun _ _ => True) := by
  unfold makeRoom
  rw [ends_bind, ends_get, ends_ite]
  refine ⟨fun _ => ?_, fun _ => ⟨rfl, rfl⟩⟩
  unfold evictOldest
  rw [ends_bind, ends_get]
  cases s.pool.victim? with
  | none => trivial
  | some k =>
    rw [ends_bind]
    exact (ends_flushPage_pages hs hinside k).imp (fun _ _ h => h) fun _ _ h => h

/-- **The page that is added is the one behind the last.** -/
theorem ends_pinNewPage_pages (hs : s.files.Sound) {file : Nat} {o : OpenFile}
    (ho : s.files.table.byHandle? file = some o)
    (hinside : ∀ e ∈ s.pool.entries, ∀ o', s.files.table.byHandle? e.key.file = some o' →
      o'.image = o.image → e.key.page < (s.files.disk.image o.image).pages) :
    Ends (pinNewPage file) s (fun pin _ => pin.key.page = (s.files.disk.image o.image).pages)
      (fun _ _ => True) := by
  unfold pinNewPage newPage
  rw [ends_bind, ends_bind]
  refine (ends_makeRoom_pages hs hinside).imp ?_ fun _ _ h => h
  rintro _ s₁ ⟨htable, hpages⟩
  rw [ends_bind, ends_onFiles]
  refine (Files.ends_allocatePage s₁.files file).imp ?_ fun _ _ _ => trivial
  rintro _ _ ⟨o', ho', rfl, -, rfl⟩
  rw [htable] at ho'
  obtain rfl : o = o' := Option.some.inj (ho.symm.trans ho')
  exact hpages

end Store

namespace Session

variable {s : Session}

/-- **A file in step with its header**: it has the pages that the header counts, and what
is buffered of it lies before its end. -/
structure InStep (s : Session) : Prop where
  files : s.store.files.Sound
  opened : ∃ o, s.store.files.table.byHandle? s.file.handle = some o ∧
    (s.store.files.disk.image o.image).pages = s.file.header.pages ∧
    ∀ e ∈ s.store.pool.entries, ∀ o', s.store.files.table.byHandle? e.key.file = some o' →
      o'.image = o.image → e.key.page < (s.store.files.disk.image o.image).pages

/-- **A page is added where the header expects it.** -/
theorem InStep.places_newPage (h : s.InStep) :
    Ends newPage s (fun _ _ => True) fun e _ => ¬Misplaced e := by
  obtain ⟨o, ho, hcounted, hinside⟩ := h.opened
  unfold newPage
  rw [ends_bind, ends_onStore, ends_widenError]
  refine (Store.ends_pinNewPage_pages h.files ho hinside).imp ?_ ?_
  swap
  · rintro (e | w) _ - <;> exact nofun
  rintro pin t hpage
  rw [ends_onFailure]
  have hrest : Places (do
      edit pin (·.init s.file.header.freeHead)
      modifyHeader fun h => { h with pages := h.pages + 1, freeHead := some pin.key.page }
      persistHeader
      onStore fun _ => Store.noteWrite pin
      report (.pageCreated pin.key.page pin.key.file)
      return pin) :=
    (places_edit pin _).bind fun _ => Places.bind (fun _ => trivial) fun _ =>
      places_persistHeader.bind fun _ => Places.bind (.onStore fun _ _ => trivial) fun _ =>
        (places_report _).bind fun _ => places_pure _
  rw [ends_bind, ends_get]
  refine ends_ite.mpr ⟨fun hne => absurd (hpage.trans hcounted) hne, fun _ => ?_⟩
  refine (hrest _).imp (fun _ _ h => h) fun _ s₁ he => ?_
  exact (places_release pin s₁).imp (fun _ _ _ => he) fun _ _ h => h

/-- **A record is inserted** without a page being added in another place. -/
theorem InStep.places_insert (h : s.InStep) (data : List UInt8) :
    Ends (insert data) s (fun _ _ => True) fun e _ => ¬Misplaced e := by
  have hfree : Ends freePage s (fun _ _ => True) fun e _ => ¬Misplaced e := by
    unfold freePage
    rw [ends_bind, ends_get]
    cases s.file.header.freeHead with
    | none => exact h.places_newPage
    | some page => exact places_pinPage page s
  unfold insert RecordFile.checkSize
  rw [ends_bind, ends_onStore]
  refine ends_ite.mpr ⟨fun _ => nofun, fun _ => ?_⟩
  refine Places.withPin hfree fun pin => ?_
  refine (Places.onStore fun f => places_view pin f.layout.firstFreeSlot).bind ?_
  rintro (_ | slot)
  · exact places_fail nofun
  · refine (places_edit pin fun l => l.fillSlot slot data).bind ?_
    rintro ⟨full, next⟩
    refine places_ite ?_ (places_pure _)
    exact (places_setFreeHead next).bind fun _ => (places_report _).bind fun _ => places_pure _

end Session

/-! ## What opening comes to -/

section Recovery

variable {s s' : Store} {path : Path} {i : ImageId} {file : RecordFile}

/-- **What whoever opened a file has of it**: the header that the header block held, and the
pages that it counts, as they were. -/
structure Store.Recovered (s : Store) (path : Path) (i : ImageId) (file : RecordFile) (s' : Store) :
    Prop where
  decoded : FileHeader.decode ((s.files.disk.image i).block 0).toList = .ok file.header
  /-- Only the pages are gone that the header does not count. -/
  image_eq : s'.files.disk.image i = (s.files.disk.image i).cut file.header.pages
  pageCount_eq : Files.pageCount file.handle s'.files = .ok file.header.pages s'.files
  readHeader_eq : Files.readHeader file.handle s'.files =
    .ok ((s.files.disk.image i).block 0) s'.files
  readPage_eq : ∀ p < file.header.pages, Files.readPage file.handle p blockSize s'.files =
    .ok ((s.files.disk.image i).block (p + 1)) s'.files
  again : ∃ t, RecordFile.openFile path s' = .ok file t
  /-- The file can be opened again after it was closed, -/
  afterClose : ∃ t, file.close s' = .ok () t ∧
    ∃ handle t', RecordFile.openFile path t = .ok ⟨handle, file.header⟩ t'
  /-- and after its handle was closed without it. -/
  afterCloseFile : ∃ t, Store.onFiles (Files.closeFile file.handle) s' = .ok () t ∧
    ∃ handle t', RecordFile.openFile path t = .ok ⟨handle, file.header⟩ t'
  insert : ∀ data, Ends (Session.insert data) ⟨s', file⟩ (fun _ _ => True) fun e _ =>
    ∀ page pages, e ≠ .error (.internal (.unexpectedPage page pages))

/-- A file that was opened and cut is in step with its header. -/
theorem Store.Cut.inStep (h : s.Cut path i file s')
    (hout : ∀ e ∈ s.pool.entries, e.key.file ≠ file.handle)
    (hclosed : ∀ o ∈ s.files.table.opened, o.image ≠ i) : Session.InStep ⟨s', file⟩ := by
  obtain ⟨o, ho, rfl, -⟩ := h.place
  refine ⟨h.sound, o, ho, h.pages_eq, fun e he o' ho' hsame => ?_⟩
  -- nothing is buffered of the file, which no other handle was given out for
  rw [show (⟨s', file⟩ : Session).store.pool = s.pool from h.pool_eq] at he
  obtain ⟨place, htable, -⟩ := h.table_eq
  obtain ⟨hmem, hhandle⟩ := FileTable.mem_of_byHandle? ho'
  rw [show (⟨s', file⟩ : Session).store.files.table = _ from htable] at hmem
  rcases List.mem_cons.mp hmem with rfl | hmem
  · exact absurd (hhandle.symm.trans h.handle_eq.symm) (hout e he)
  · exact absurd hsame (hclosed o' hmem)

/-- **Opening cuts off exactly the tail that was not committed.** A file that is not open,
whatever it holds, can be opened if and only if there is a handle left, its header block is a
header, and it has the pages that the header counts. Whoever opened it has that header and
those pages, as they were, and so has everybody who opens it again. No record that is put
into it fails because a page is added in another place than the header expects. -/
theorem opening_cuts_uncommitted_tail (hs : s.files.Sound)
    (hissued : ∀ e ∈ s.pool.entries, e.key.file < s.files.table.next)
    (hleads : s.files.disk.Leads path i) (hclosed : ∀ o ∈ s.files.table.opened, o.image ≠ i) :
    ((∃ file s', RecordFile.openFile path s = .ok file s') ↔
      s.files.table.opened.length < s.files.table.limit ∧
        ∃ header, FileHeader.decode ((s.files.disk.image i).block 0).toList = .ok header ∧
          header.pages ≤ (s.files.disk.image i).pages) ∧
    (s.files.table.limit ≤ s.files.table.opened.length →
      RecordFile.openFile path s = .error (.error (.file .tooManyOpenFiles)) s) ∧
    ∀ file s', RecordFile.openFile path s = .ok file s' → s.Recovered path i file s' := by
  refine ⟨opens_iff hs hleads hclosed, openFile_of_full hs hleads hclosed, fun file s' hopen => ?_⟩
  have hcut := (ends_openFile_cut hs hleads hclosed).of_ok hopen
  have hout : ∀ e ∈ s.pool.entries, e.key.file ≠ file.handle := fun e he =>
    Nat.ne_of_lt (hcut.handle_eq ▸ hissued e he)
  obtain ⟨o, ho, -⟩ := hcut.place
  constructor
  case decoded => exact hcut.commits.1
  case image_eq => exact hcut.image_eq
  case pageCount_eq => exact hcut.pageCount_eq
  case readHeader_eq => exact hcut.readBlock_eq (Nat.zero_le _)
  case readPage_eq => exact fun p hp => hcut.readPage_eq hp
  case again => exact hcut.again
  case afterClose =>
    obtain ⟨_, t, hok, ht, htable, hentries, hcommits⟩ := (hcut.ends_close hout).exists_ok
    exact ⟨t, hok, hcut.reopens hs hclosed ht htable hentries hcommits⟩
  case afterCloseFile =>
    have hclose : Ends (Store.onFiles (Files.closeFile file.handle)) s'
        (fun _ t => t = s'.withTable (s'.files.table.erase file.handle)) (fun _ _ => False) :=
      Store.ends_closeFile.mpr ⟨fun _ => rfl, fun hnone => absurd (ho.symm.trans hnone) nofun⟩
    obtain ⟨_, _, hok, rfl⟩ := hclose.exists_ok
    exact ⟨_, hok, hcut.reopens hs hclosed (hcut.sound.erase _) rfl rfl hcut.commits_left⟩
  case insert =>
    intro data
    refine ((hcut.inStep hout hclosed).places_insert data).imp (fun _ _ h => h) ?_
    rintro _ _ hplaces page pages rfl
    exact hplaces (.page page pages)

/-! ### Files with a tail -/

/-- A disk with a record file that counts one page, behind which a second begins. -/
def begunDisk : Disk :=
  (Disk.empty.addFile (Disk.home ++ ["f"])).setImage 0
    (((Image.empty.setBlock 0
      (Buffer.ofList blockSize (FileHeader.encode ⟨1, 1, 1, 1, none⟩))).setBlock 1 sevens).setSize
        (2 * blockSize + 100))

set_option maxRecDepth 100000 in
/-- The second page is cut off, and the first is left. -/
theorem opening_cuts_uncommitted_tail_begun :
    ∃ file s', RecordFile.openFile ⟨["f"]⟩ (.ofDisk begunDisk 1 1) = .ok file s' ∧
      (begunDisk.image 0).size = 2 * blockSize + 100 ∧ (begunDisk.image 0).pages = 2 ∧
      Files.pageCount file.handle s'.files = .ok 1 s'.files ∧
      Files.readPage file.handle 0 blockSize s'.files = .ok sevens s'.files := by
  have hinj : Function.Injective fun h : Nat => h := fun _ _ h => h
  have hs := (Store.sound_ofDisk hinj begunDisk 1 1).coherent.files
  have hissued : ∀ e ∈ (Store.ofDisk begunDisk 1 1).pool.entries,
      e.key.file < (Store.ofDisk begunDisk 1 1).files.table.next := by decide
  have hleads : (Store.ofDisk begunDisk 1 1).files.disk.Leads ⟨["f"]⟩ 0 := ⟨_, rfl, rfl⟩
  have hclosed : ∀ o ∈ (Store.ofDisk begunDisk 1 1).files.table.opened, o.image ≠ 0 := by decide
  obtain ⟨-, -, hrecovered⟩ := opening_cuts_uncommitted_tail hs hissued hleads hclosed
  have hfile := hrecovered _ _ rfl
  exact ⟨_, _, rfl, rfl, rfl, hfile.pageCount_eq, hfile.readPage_eq 0 Nat.one_pos⟩

/-- The header block of a record file without pages. -/
def bareHeader : Block := Buffer.ofList blockSize (FileHeader.encode ⟨1, 1, 0, 1, none⟩)

/-- A disk with two such files. The first has a page all the same. -/
def tailDisk : Disk :=
  (((Disk.empty.addFile (Disk.home ++ ["f"])).addFile (Disk.home ++ ["g"])).setImage 0
    ((Image.empty.setBlock 0 bareHeader).setBlock 1 bareHeader)).setImage 1
      (Image.empty.setBlock 0 bareHeader)

/-- The store in which the second file is open, which is the only one that may be. -/
def tailCrowded : Store := stateAfter (RecordFile.openFile ⟨["g"]⟩) (.ofDisk tailDisk 1 1)

set_option maxRecDepth 100000 in
/-- **A file in order is not opened if too many are open.** -/
theorem full_table_opens_no_file :
    tailCrowded.files.disk.Leads ⟨["f"]⟩ 0 ∧ (∀ o ∈ tailCrowded.files.table.opened, o.image ≠ 0) ∧
      (tailCrowded.files.disk.image 0).Commits ⟨1, 1, 0, 1, none⟩ ∧
      RecordFile.openFile ⟨["f"]⟩ tailCrowded =
        .error (.error (.file .tooManyOpenFiles)) tailCrowded :=
  ⟨⟨_, rfl, rfl⟩, by decide, ⟨rfl, by decide⟩, rfl⟩

end Recovery

end SlottedFile
