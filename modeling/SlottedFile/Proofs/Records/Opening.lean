import SlottedFile.Proofs.Records.Closing
import SlottedFile.Proofs.Records.Creating

/-!
# Opening a record file

Whoever opens a file under another handle finds the pages and the header that the disk
keeps of it (`ends_openRecordFile`). A handle stands for the file as long as it is the
one that was given out last, and no other handle ever does (`standFor`).
-/

namespace SlottedFile

/-- **What handles stand for** if one of them stands for a file of its own. -/
def standFor (other : Nat → ImageId) (image : ImageId) (handle : Nat) : Nat → ImageId :=
  Function.update other handle image

section StandFor

variable {other : Nat → ImageId} {image : ImageId} {handle : Nat}

@[simp] theorem standFor_self : standFor other image handle handle = image :=
  Function.update_self _ _ _

theorem standFor_of_ne {h : Nat} (hne : h ≠ handle) : standFor other image handle h = other h :=
  Function.update_of_ne hne _ _

theorem injective_standFor (hinj : Function.Injective other) (hother : ∀ h, other h ≠ image) :
    Function.Injective (standFor other image handle) := by
  intro h h' heq
  by_cases hh : h = handle <;> by_cases hh' : h' = handle
  · rw [hh, hh']
  · rw [hh, standFor_self, standFor_of_ne hh'] at heq
    exact absurd heq.symm (hother h')
  · rw [hh', standFor_self, standFor_of_ne hh] at heq
    exact absurd heq (hother h)
  · rw [standFor_of_ne hh, standFor_of_ne hh'] at heq
    exact hinj heq

/-- A handle that has not been given out can be told to stand for the file. -/
theorem Coherent.standFor {holds : List Hold} {s : Store} (hs : Coherent other holds s)
    (hother : ∀ h, other h ≠ image) (hnext : s.files.table.next ≤ handle) :
    Coherent (SlottedFile.standFor other image handle) holds s := by
  refine hs.rename (injective_standFor hs.injective hother) (fun o ho => ?_) fun hbuffered => ?_
  · exact standFor_of_ne (Nat.ne_of_lt (Nat.lt_of_lt_of_le (hs.files.handle_lt o ho) hnext))
  · exact standFor_of_ne (Nat.ne_of_lt (Nat.lt_of_lt_of_le (hs.issued hbuffered) hnext))

end StandFor

/-! ## Opening -/

section Opening

variable {s s' : Store} {path : Path}


/-- A file is cut to a number of pages that a word can say. -/
theorem Files.ends_truncatePages {fs : Files} {h : Nat} {o : OpenFile}
    (ho : fs.table.byHandle? h = some o) {pages : Nat} (hpages : pages < widthLimit 4) :
    Ends (truncatePages h pages) fs
      (fun _ fs' => fs' = fs.putImage o.image
        ((fs.disk.image o.image).setSize ((pages + 1) * blockSize))) (fun _ _ => False) := by
  have hlimit : widthLimit 4 = 4294967296 := rfl
  have hblock : blockSize = 8192 := rfl
  have hoffset : maxOffset = 9223372036854775807 := rfl
  have hword : wordLimit = 18446744073709551616 := rfl
  unfold truncatePages
  rw [ends_bind, ends_opened]
  refine ⟨fun o' ho' => ?_, fun hnone => absurd (ho.symm.trans hnone) nofun⟩
  obtain rfl : o = o' := Option.some.inj (ho.symm.trans ho')
  rw [ends_bind, ends_checkWord]
  refine ⟨fun _ => ?_, fun hlong => by omega⟩
  rw [ends_bind, ends_checkWord]
  refine ⟨fun _ => ?_, fun hlong => by rw [hblock] at hlong; omega⟩
  rw [ends_setSize]
  exact ⟨fun _ => rfl, fun hlong => by rw [hblock] at hlong; omega⟩

/-- **A file whose header was read**, and of which the pages are left that the header
counts. -/
structure Store.Loaded (s : Store) (i : ImageId) (header : FileHeader) (s' : Store) : Prop where
  aside : s.Aside s'
  table_eq : s'.files.table = s.files.table
  entries_eq : s'.files.disk.entries = s.files.disk.entries
  decoded : FileHeader.decode ((s.files.disk.image i).block 0).toList = .ok header
  other_eq : ∀ j, j ≠ i → s'.files.disk.image j = s.files.disk.image j
  stored_eq : (s'.files.disk.image i).block 0 = (s.files.disk.image i).block 0
  pages_eq : (s'.files.disk.image i).pages = header.pages
  image_eq : (s.files.disk.image i).pages = header.pages →
    s'.files.disk.image i = s.files.disk.image i

/-- A file is cut to the pages that its header counts. -/
theorem Store.Loaded.truncated (hs : s.files.Sound) {h : Nat} {o : OpenFile}
    (ho : s.files.table.byHandle? h = some o) {header : FileHeader}
    (hdecode : FileHeader.decode ((s.files.disk.image o.image).block 0).toList = .ok header)
    (hmore : header.pages < (s.files.disk.image o.image).pages) {event : Event}
    (hevent : ∀ page e, event ≠ .unpinFailed page e) :
    s.Loaded o.image header
      { s with
        files := s.files.putImage o.image
          ((s.files.disk.image o.image).setSize ((header.pages + 1) * blockSize))
        events := event :: s.events } := by
  set img := (s.files.disk.image o.image).setSize ((header.pages + 1) * blockSize) with himg
  have himage : ∀ j, (s.files.putImage o.image img).disk.image j =
      if j = o.image then img else s.files.disk.image j :=
    Disk.image_setImage img (hs.lt_images ho)
  constructor
  case aside =>
    have haside : s.Aside { s with files := s.files.putImage o.image img } :=
      { Store.Aside.refl hs with files := hs.putImage _ _ }
    exact haside.report event hevent
  case table_eq => rfl
  case entries_eq => rfl
  case decoded => exact hdecode
  case other_eq => exact fun j hj => (himage j).trans (if_neg hj)
  case stored_eq =>
    refine (congrArg (Image.block · 0) ((himage o.image).trans (if_pos rfl))).trans ?_
    exact Image.block_setSize_of_block_le (Nat.mul_le_mul_right _ (by omega))
  case pages_eq =>
    refine (congrArg Image.pages ((himage o.image).trans (if_pos rfl))).trans ?_
    exact Image.pages_setSize _ _
  case image_eq => exact fun heq => absurd heq.symm (Nat.ne_of_lt hmore)

/-- **A file that can be opened**: its header block is a header, and the pages are there
that the header counts. There may be more. -/
def Image.Commits (img : Image) (header : FileHeader) : Prop :=
  FileHeader.decode (img.block 0).toList = .ok header ∧ header.pages ≤ img.pages

/-- There is no other header in the header block. -/
theorem Image.Commits.unique {img : Image} {header header' : FileHeader} (h : img.Commits header)
    (hdecode : FileHeader.decode (img.block 0).toList = .ok header') : header = header' :=
  Except.ok.inj (h.1.symm.trans hdecode)

/-- **A store in which a file was cut** to some pages, if it had more. -/
def Store.cut (s : Store) (i : ImageId) (pages : Nat) : Store :=
  if pages < (s.files.disk.image i).pages then
    { s with
      files := s.files.putImage i ((s.files.disk.image i).setSize ((pages + 1) * blockSize))
      events := .pagesDropped ((s.files.disk.image i).pages - pages) pages :: s.events }
  else s

/-- **What becomes of a header that is loaded**: the pages that it does not count are cut
off. It is loaded if the file can be opened, and otherwise nothing has changed. -/
theorem ends_loadHeader_cut {h : Nat} {o : OpenFile} (ho : s.files.table.byHandle? h = some o) :
    Ends (RecordFile.loadHeader h) s
      (fun header s' => (s.files.disk.image o.image).Commits header ∧
        s' = s.cut o.image header.pages)
      (fun e s' => s' = s ∧ (∃ fe, e = .error fe) ∧
        ∀ header, ¬(s.files.disk.image o.image).Commits header) := by
  unfold RecordFile.loadHeader RecordFile.passing Files.readHeader
  rw [ends_bind, ends_widenError, Store.ends_onFiles]
  refine (Files.ends_readBlock s.files h 0).imp ?_ ?_
  swap
  · rintro e _ ⟨rfl, hfar⟩
    exact absurd (ho.symm.trans (Files.byHandle?_of_unreachable hfar)) nofun
  rintro block _ ⟨rfl, -, o', ho', rfl⟩
  obtain rfl : o = o' := Option.some.inj (ho.symm.trans ho')
  cases hdecode : FileHeader.decode ((s.files.disk.image o.image).block 0).toList with
  | error e => exact ⟨rfl, ⟨_, rfl⟩, fun _ hcommits => absurd (hdecode.symm.trans hcommits.1) nofun⟩
  | ok header =>
    dsimp only
    rw [ends_bind, ends_widenError, Store.ends_onFiles, Files.ends_pageCount]
    refine ⟨fun o' ho' => ?_, fun hnone => absurd (ho.symm.trans hnone) nofun⟩
    obtain rfl : o = o' := Option.some.inj (ho.symm.trans ho')
    refine ends_ite.mpr ⟨fun hless => ⟨rfl, ⟨_, rfl⟩, fun header' hcommits => ?_⟩, fun hless => ?_⟩
    · obtain rfl := hcommits.unique hdecode
      exact Nat.not_lt.2 hcommits.2 hless
    have hcommits : (s.files.disk.image o.image).Commits header := ⟨hdecode, Nat.not_lt.1 hless⟩
    refine ends_ite.mpr ⟨fun hmore => ?_, fun hmore => ⟨hcommits, (if_neg hmore).symm⟩⟩
    rw [ends_bind, Store.ends_report, ends_bind, ends_widenError, Store.ends_onFiles]
    refine (Files.ends_truncatePages ho (FileHeader.pages_lt_of_decode hdecode)).imp ?_
      fun _ _ h => h.elim
    rintro _ _ rfl
    exact ⟨hcommits, (if_pos hmore).symm⟩

/-- **The header of a file is loaded** if it can be read and counts the pages that the
file has. -/
theorem ends_loadHeader (hs : s.files.Sound) {h : Nat} {o : OpenFile}
    (ho : s.files.table.byHandle? h = some o) :
    Ends (RecordFile.loadHeader h) s (fun header s' => s.Loaded o.image header s')
      (fun e s' => s' = s ∧ (∃ fe, e = .error fe) ∧ ∀ header,
        FileHeader.decode ((s.files.disk.image o.image).block 0).toList = .ok header →
          (s.files.disk.image o.image).pages ≠ header.pages) := by
  refine (ends_loadHeader_cut ho).imp ?_ ?_
  · rintro header _ ⟨hcommits, rfl⟩
    unfold Store.cut
    split
    · exact .truncated hs ho hcommits.1 ‹_› nofun
    · have heq : (s.files.disk.image o.image).pages = header.pages :=
        Nat.le_antisymm (Nat.not_lt.1 ‹_›) hcommits.2
      exact ⟨.refl hs, rfl, rfl, hcommits.1, fun _ _ => rfl, rfl, heq, fun _ => rfl⟩
  · rintro e _ ⟨rfl, herror, hnone⟩
    exact ⟨rfl, herror, fun header hdecode heq => hnone header ⟨hdecode, Nat.le_of_eq heq.symm⟩⟩

/-- **A handle was found for a file**: its header is loaded, or the handle is closed
again. The second happens only if the header cannot be read or does not count the
pages. -/
theorem ends_loadOpened (hs : s.files.Sound) {h : Nat} {o : OpenFile}
    (ho : s.files.table.byHandle? h = some o) (path : Path) :
    Ends (do
        match ← attempt (RecordFile.loadHeader h) with
        | .ok header =>
          Store.report (.fileOpened path header.pages)
          return { handle := h, header }
        | .error e =>
          RecordFile.passing (Store.onFiles (Files.closeFile h))
          fail e : StoreM RecordError RecordFile) s
      (fun file s' => file.handle = h ∧ ∃ s₂, s.Loaded o.image file.header s₂ ∧
        s' = { s₂ with events := .fileOpened path file.header.pages :: s₂.events })
      (fun e s' => e.IsError ∧ s' = s.withTable (s.files.table.erase h) ∧ ∀ header,
        FileHeader.decode ((s.files.disk.image o.image).block 0).toList = .ok header →
          (s.files.disk.image o.image).pages ≠ header.pages) := by
  rw [ends_bind, ends_attempt]
  refine (ends_loadHeader hs ho).imp ?_ ?_
  · intro header s₂ hloaded
    exact ⟨rfl, s₂, hloaded, rfl⟩
  · rintro e s₂ ⟨rfl, ⟨fe, rfl⟩, hcause⟩
    show Ends _ _ _ _
    unfold RecordFile.passing
    rw [ends_bind, ends_widenError, Store.ends_closeFile]
    exact ⟨fun _ => ⟨trivial, rfl, hcause⟩, fun hnone => absurd (ho.symm.trans hnone) nofun⟩

/-- **A file that is not open is opened** under the next handle, or everything is left as
it was. The second happens only if too many files are open, or if the header cannot be
read or does not count the pages. -/
theorem ends_open (hs : s.files.Sound)
    (hclosed : ∀ place, s.files.disk.canonical path = .ok place →
      s.files.table.handleAt? place = none) :
    Ends (RecordFile.openFile path) s
      (fun file s' => ∃ (place : Place) (i : ImageId) (s₂ : Store),
        s.files.disk.canonical path = .ok place ∧ s.files.disk.node? place = some (.file i) ∧
        s.files.table.opened.length < s.files.table.limit ∧
        file.handle = s.files.table.next ∧
        (s.withTable (s.files.table.add place i)).Loaded i file.header s₂ ∧
        s' = { s₂ with events := .fileOpened path file.header.pages :: s₂.events })
      (fun _ s' => (∃ t, s' = s.withTable t ∧ t.opened = s.files.table.opened ∧
          s.files.table.next ≤ t.next ∧ t.limit = s.files.table.limit) ∧
        ∀ i, s.files.disk.Leads path i → s.files.table.opened.length < s.files.table.limit →
          ∀ header, FileHeader.decode ((s.files.disk.image i).block 0).toList = .ok header →
            (s.files.disk.image i).pages ≠ header.pages) := by
  have hkept : ∃ t, s = s.withTable t ∧ t.opened = s.files.table.opened ∧
      s.files.table.next ≤ t.next ∧ t.limit = s.files.table.limit :=
    ⟨s.files.table, rfl, rfl, Nat.le_refl _, rfl⟩
  unfold RecordFile.openFile
  rw [ends_bind]
  refine ends_widenError.mpr ((Store.ends_openFile s path).imp ?_ ?_)
  swap
  · rintro _ s' ⟨hsame, -, hfull⟩
    refine ⟨hsame ▸ hkept, ?_⟩
    rintro i ⟨place, hplace, hnode⟩ hroom
    exact absurd hroom (Nat.not_lt.2 ((hfull place hplace).2 i hnode))
  rintro h s₁ ⟨place, hplace, ⟨hopen, -⟩ | ⟨i, -, hnode, hroom, rfl, rfl⟩⟩
  · exact absurd (hopen.symm.trans (hclosed place hplace)) nofun
  have hopen : (s.files.table.add place i).byHandle? s.files.table.next = some ⟨_, place, i⟩ :=
    FileTable.byHandle?_add.trans (if_pos rfl)
  refine (ends_loadOpened (hs.add (hclosed place hplace) hnode) hopen path).imp ?_ ?_
  · rintro file _ ⟨hhandle, s₂, hloaded, rfl⟩
    exact ⟨place, i, s₂, hplace, hnode, hroom, hhandle, hloaded, rfl⟩
  · rintro _ _ ⟨-, rfl, hcause⟩
    refine ⟨⟨_, rfl, FileTable.opened_erase_add hs.handle_lt place i, Nat.le_succ _, rfl⟩, ?_⟩
    intro j hleads _ header hdecode
    obtain rfl : i = j := hleads.eq_of_node? hplace hnode
    exact hcause header hdecode

/-- **A store after a path was opened in it**, or was not: the pool is as it was, and so
is every open file that the path does not lead to. A handle that was not open before is a new
one. -/
structure Store.Passed (path : Path) (s s' : Store) : Prop where
  aside : s.Aside s'
  entries_eq : s'.files.disk.entries = s.files.disk.entries
  next_le : s.files.table.next ≤ s'.files.table.next
  was_open : ∀ h o, s'.files.table.byHandle? h = some o →
    s.files.table.byHandle? h = some o ∨ s.files.table.next ≤ h
  stays : ∀ h o, s.files.table.byHandle? h = some o → ¬s.files.disk.Leads path o.image →
    s'.files.table.byHandle? h = some o ∧
      s'.files.disk.image o.image = s.files.disk.image o.image

/-- **Whatever a path leads to**, open or not, opening it leaves the pool and the other
files alone, and does not overrun. -/
theorem ends_open_passed (hs : s.files.Sound) (path : Path) :
    Ends (RecordFile.openFile path) s
      (fun file s' => s.Passed path s' ∧ ∃ o, s'.files.table.byHandle? file.handle = some o ∧
        s.files.disk.Leads path o.image ∧
        file.header.pages = (s'.files.disk.image o.image).pages ∧
        file.header.pages < widthLimit 4)
      (fun e s' => e.IsError ∧ s.Passed path s') := by
  unfold RecordFile.openFile
  rw [ends_bind]
  refine ends_widenError.mpr ((Store.ends_openFile s path).imp ?_ ?_)
  swap
  · rintro _ _ ⟨rfl, ⟨fe, rfl⟩, -⟩
    exact ⟨trivial, .refl hs, rfl, Nat.le_refl _, fun _ _ ho => .inl ho,
      fun _ _ ho _ => ⟨ho, rfl⟩⟩
  intro h s₁ hfound
  obtain ⟨t, o, rfl, hs₁, ho, hleads, hkept, hnext, hwas⟩ : ∃ t o, s₁ = s.withTable t ∧
      (s.withTable t).files.Sound ∧ t.byHandle? h = some o ∧ s.files.disk.Leads path o.image ∧
      (∀ h' o', s.files.table.byHandle? h' = some o' → t.byHandle? h' = some o') ∧
      s.files.table.next ≤ t.next ∧
      ∀ h' o', t.byHandle? h' = some o' → s.files.table.byHandle? h' = some o' ∨
        s.files.table.next ≤ h' := by
    obtain ⟨place, hplace, ⟨hopen, rfl⟩ | ⟨i, hclosed, hnode, -, rfl, rfl⟩⟩ := hfound
    · obtain ⟨o, hmem, rfl, rfl⟩ := hs.handleAt?_eq_some_iff.mp hopen
      exact ⟨s₁.files.table, o, rfl, hs, hs.byHandle?_of_mem hmem,
        ⟨o.place, hplace, hs.placed o hmem⟩, fun _ _ h => h, Nat.le_refl _, fun _ _ => .inl⟩
    · refine ⟨_, ⟨s.files.table.next, place, i⟩, rfl, hs.add hclosed hnode,
        FileTable.byHandle?_add.trans (if_pos rfl), ⟨place, hplace, hnode⟩, fun h' o' ho' => ?_,
        Nat.le_succ _, fun h' o' ho' => ?_⟩
      · rw [FileTable.byHandle?_add, if_neg (Nat.ne_of_lt (hs.lt_next ho'))]
        exact ho'
      · rw [FileTable.byHandle?_add] at ho'
        split at ho'
        · exact .inr (Nat.le_of_eq (Eq.symm ‹_›))
        · exact .inl ho'
  have hne : ∀ {o' : OpenFile}, ¬s.files.disk.Leads path o'.image → o'.image ≠ o.image := by
    intro o' hother heq
    rw [heq] at hother
    exact hother hleads
  refine (ends_loadOpened hs₁ ho path).imp ?_ ?_
  · rintro file _ ⟨rfl, s₂, hloaded, rfl⟩
    refine ⟨⟨?_, hloaded.entries_eq, ?_, fun h' o' ho' => hwas h' o' ?_, fun h' o' ho' hother =>
      ⟨?_, hloaded.other_eq _ (hne hother)⟩⟩, o, ?_, hleads,
      hloaded.pages_eq.symm, FileHeader.pages_lt_of_decode hloaded.decoded⟩
    · exact hloaded.aside.of_withTable.report _ fun _ _ => nofun
    · exact hloaded.table_eq ▸ hnext
    · exact (congrArg (FileTable.byHandle? · h') hloaded.table_eq).symm.trans ho'
    · exact (congrArg (FileTable.byHandle? · h') hloaded.table_eq).trans (hkept h' o' ho')
    · exact (congrArg (FileTable.byHandle? · file.handle) hloaded.table_eq).trans ho
  · rintro _ _ ⟨herror, rfl, -⟩
    refine ⟨herror, ⟨hs₁.erase h, rfl, rfl, rfl, rfl, fun _ _ h => h⟩, rfl, hnext, fun h' o' ho' => ?_,
      fun h' o' ho' hother => ⟨?_, rfl⟩⟩
    · have ho' : (t.erase h).byHandle? h' = some o' := ho'
      rw [FileTable.byHandle?_erase] at ho'
      split at ho'
      · cases ho'
      · exact hwas h' o' ho'
    -- the handle that is closed is one of the file that the path leads to
    refine FileTable.byHandle?_erase.trans ((if_neg ?_).trans (hkept h' o' ho'))
    rintro rfl
    exact hne hother (congrArg OpenFile.image (Option.some.inj ((hkept h' o' ho').symm.trans ho)))

variable {other : Nat → ImageId} {image : ImageId} {raw : List Hold}

/-- **A record file that was opened**, under a handle that now stands for it. -/
structure Session.Opened (other : Nat → ImageId) (image : ImageId) (raw : List Hold) (path : Path)
    (s : Store) (s' : Session) : Prop where
  handle_eq : s'.file.handle = s.files.table.next
  good : s'.Good (standFor other image s'.file.handle) raw
  room : s.files.table.opened.length < s.files.table.limit
  aside : s.Aside s'.store
  entries_eq : s'.store.files.disk.entries = s.files.disk.entries
  other_eq : ∀ j, j ≠ image → s'.store.files.disk.image j = s.files.disk.image j
  table_eq : ∃ place, s'.store.files.table = s.files.table.add place image ∧
    s'.store.files.disk.canonical path = .ok place
  decoded : FileHeader.decode ((s.files.disk.image image).block 0).toList = .ok s'.file.header
  stored_eq : (s'.plain (standFor other image s'.file.handle)).stored =
    (s.files.disk.image image).block 0
  count_eq : (s'.plain (standFor other image s'.file.handle)).count = s'.file.header.pages
  image_eq : (s.files.disk.image image).pages = s'.file.header.pages →
    s'.store.files.disk.image image = s.files.disk.image image
  page_eq : (s.files.disk.image image).pages = s'.file.header.pages → ∀ page,
    (s'.plain (standFor other image s'.file.handle)).page page =
      (s.files.disk.image image).block (page + 1)

/-- The path leads to the file that was opened. -/
theorem Session.Opened.place {s' : Session} (h : Session.Opened other image raw path s s') :
    ∃ o, s'.store.files.table.byHandle? s'.file.handle = some o ∧
      s'.store.files.disk.canonical path = .ok o.place := by
  obtain ⟨place, htable, hplace⟩ := h.table_eq
  refine ⟨⟨s.files.table.next, place, image⟩, ?_, hplace⟩
  rw [htable, h.handle_eq]
  exact FileTable.byHandle?_add.trans (if_pos rfl)

/-- A file is only opened if there is a handle left. -/
theorem Session.Opened.within {s' : Session} (h : Session.Opened other image raw path s s') :
    s'.store.files.table.Within := by
  obtain ⟨place, htable, -⟩ := h.table_eq
  rw [htable]
  exact h.room

/-- A store is sound as long as only the file has changed that was opened in it. -/
theorem Store.Loaded.sound (hs : s.Sound other raw) (hother : ∀ h, other h ≠ image) {place : Place}
    (hclosed : s.files.table.handleAt? place = none)
    (hnode : s.files.disk.node? place = some (.file image)) {header : FileHeader}
    (h : (s.withTable (s.files.table.add place image)).Loaded image header s') :
    s'.Sound (standFor other image s.files.table.next) raw := by
  -- the file changes while no handle stands for it, and then it is opened
  have hchanged : Coherent other (raw ++ s.held.map HeldPin.hold) (s'.withTable s.files.table) :=
    hs.coherent.elsewhere h.aside.pool_eq h.aside.frames_eq
      (hs.coherent.files.of_stands rfl fun p n hn => (Disk.node?_congr h.entries_eq p).trans hn)
      (fun _ ho => ho) (Nat.le_refl _) fun handle => h.other_eq _ (hother handle)
  have hopened := (hchanged.standFor hother (Nat.le_refl _)).openFile hclosed
    ((Disk.node?_congr h.entries_eq place).trans hnode) standFor_self.symm
  have hself : (s'.withTable s.files.table).withTable (s.files.table.add place image) = s' := by
    rw [show s.files.table.add place image = s'.files.table from h.table_eq.symm]
    rfl
  have hopened : Coherent (standFor other image s.files.table.next)
      (raw ++ s.held.map HeldPin.hold) s' := hself ▸ hopened
  exact h.aside.of_withTable.sound hs hopened

/-- **A record file is opened** under the next handle, as its blocks have it. That
fails only if too many files are open, or if its header cannot be read or does not
count its pages. -/
theorem ends_openRecordFile (hs : s.Sound other raw) (hother : ∀ h, other h ≠ image)
    (hleads : s.files.disk.Leads path image) :
    Ends (RecordFile.openFile path) s
      (fun file s' => Session.Opened other image raw path s ⟨s', file⟩)
      (fun _ _ => s.files.table.opened.length < s.files.table.limit → ∀ header,
        FileHeader.decode ((s.files.disk.image image).block 0).toList = .ok header →
          (s.files.disk.image image).pages ≠ header.pages) := by
  have hclosed : ∀ place, s.files.disk.canonical path = .ok place →
      s.files.table.handleAt? place = none := fun place hplace =>
    hleads.handleAt?_eq_none hs.coherent.files
      (fun o hmem => hs.coherent.stands o hmem ▸ hother o.handle) hplace
  refine (ends_open hs.coherent.files hclosed).imp ?_ fun _ _ h => h.2 image hleads
  rintro ⟨_, header⟩ _ ⟨place, i, s₂, hplace, hnode, hroom, rfl, hloaded, rfl⟩
  obtain rfl : i = image := hleads.eq_of_node? hplace hnode
  have hsound := hloaded.sound hs hother (hclosed place hplace) hnode
  have hreport := Store.Settled.report hsound.coherent (.fileOpened path header.pages)
  have hout : ∀ k : PageKey, k.file = s.files.table.next → s₂.pool.frame? k = none := by
    intro k hk
    rw [show s₂.pool = s.pool from hloaded.aside.pool_eq]
    cases hframe : s.pool.frame? k with
    | none => rfl
    | some f => exact absurd hk (Nat.ne_of_lt (hs.coherent.issued hframe))
  constructor
  case handle_eq => rfl
  case good =>
    refine ⟨⟨hreport.coherent, hsound.ids_nodup, hsound.id_lt⟩, ?_⟩
    show (s₂.files.table.byHandle? s.files.table.next).isSome = true
    rw [show s₂.files.table = s.files.table.add place i from hloaded.table_eq,
      FileTable.byHandle?_add, if_pos rfl]
    rfl
  case room => exact hroom
  case aside =>
    exact hloaded.aside.of_withTable.report (.fileOpened path header.pages) fun _ _ => nofun
  case entries_eq => exact hloaded.entries_eq
  case other_eq => exact hloaded.other_eq
  case table_eq =>
    refine ⟨place, hloaded.table_eq, ?_⟩
    show s₂.files.disk.canonical path = .ok place
    rw [Disk.canonical_congr hloaded.entries_eq]
    exact hplace
  case decoded => exact hloaded.decoded
  case stored_eq =>
    refine (congrArg (s₂.files.disk.image · |>.block 0) standFor_self).trans ?_
    exact hloaded.stored_eq
  case count_eq =>
    refine (congrArg (s₂.files.disk.image · |>.pages) standFor_self).trans ?_
    exact hloaded.pages_eq
  case image_eq => exact hloaded.image_eq
  case page_eq =>
    intro hsame page
    refine (congrFun (congrArg Picture.content hreport.quiet.picture) _).trans ?_
    show s₂.content (standFor other i s.files.table.next) ⟨s.files.table.next, page⟩ = _
    rw [Store.content_of_frame?_none _ (hout _ rfl), Store.diskBlock, standFor_self,
      hloaded.image_eq hsame]
    rfl

end Opening

end SlottedFile