import SlottedFile.Proofs.Disk
import SlottedFile.Proofs.FileHeader
import SlottedFile.Proofs.Pins
import SlottedFile.Proofs.Pool.Handles
import SlottedFile.RecordFile.Lifecycle

/-!
# Creating a record file

A record file is made on the disk, opened, given its header and closed again
(`ends_create`). Nothing is buffered on the way, so that the store is what it was apart
from its files (`Store.Aside`). If no handle stands for the file, the store is as sound
as it was, and the same files are open (`ends_createRecordFile`).
-/

namespace SlottedFile

section Creating

variable {other imageOf : Nat → ImageId} {image : ImageId} {raw : List Hold} {path : Path}
  {s s' : Store}

/-- **Whether a path leads to a file.** -/
def Disk.Leads (d : Disk) (path : Path) (i : ImageId) : Prop :=
  ∃ place, d.canonical path = .ok place ∧ d.node? place = some (.file i)

theorem Disk.Leads.eq_of_node? {d : Disk} {i j : ImageId} {place : Place} (h : d.Leads path i)
    (hplace : d.canonical path = .ok place) (hnode : d.node? place = some (.file j)) : j = i := by
  obtain ⟨place', hplace', hnode'⟩ := h
  obtain rfl : place = place' := Except.ok.inj (hplace.symm.trans hplace')
  rw [hnode] at hnode'
  cases hnode'
  rfl

/-- A path leads to one file only. -/
theorem Disk.Leads.eq {d : Disk} {i j : ImageId} (h : d.Leads path i) (h' : d.Leads path j) :
    j = i := by
  obtain ⟨place, hplace, hnode⟩ := h'
  exact h.eq_of_node? hplace hnode

theorem Disk.Leads.congr {d d' : Disk} {i : ImageId} (h : d.Leads path i)
    (hentries : d'.entries = d.entries) : d'.Leads path i := by
  obtain ⟨place, hplace, hnode⟩ := h
  exact ⟨place, (Disk.canonical_congr hentries path).trans hplace,
    (Disk.node?_congr hentries place).trans hnode⟩

/-- A file that a path leads to is not open if no handle is given out for it. -/
theorem Disk.Leads.handleAt?_eq_none {fs : Files} (hleads : fs.disk.Leads path image)
    (hs : fs.Sound) (hclosed : ∀ o ∈ fs.table.opened, o.image ≠ image) {place : Place}
    (hplace : fs.disk.canonical path = .ok place) : fs.table.handleAt? place = none := by
  rw [hs.handleAt?_eq_none_iff]
  rintro o hmem rfl
  exact hclosed o hmem (hleads.eq_of_node? hplace (hs.placed o hmem))

/-- **The files may change as long as no handle stands for one that does.** -/
theorem Coherent.elsewhere {holds : List Hold} (hs : Coherent other holds s)
    (hpool : s'.pool = s.pool) (hframes : s'.frames = s.frames) (hfiles : s'.files.Sound)
    (hopened : ∀ o ∈ s'.files.table.opened, o ∈ s.files.table.opened)
    (hnext : s.files.table.next ≤ s'.files.table.next)
    (himage : ∀ h, s'.files.disk.image (other h) = s.files.disk.image (other h)) :
    Coherent other holds s' := by
  refine hs.refile hpool hframes hfiles (fun o ho => hs.stands o (hopened o ho)) hnext ?_ ?_
  · intro h
    rw [himage]
  · intro j f _
    refine .inl ?_
    unfold Store.diskBlock
    rw [himage]

/-- A header is written to a file that is open, and the file is closed. -/
theorem ends_writeAndClose (hs : s.files.Sound) {h : Nat} {o : OpenFile}
    (ho : s.files.table.byHandle? h = some o) {bytes : List UInt8} (hlength : bytes.length ≤ blockSize) :
    Ends (do
        let written ← attempt (Store.onFiles (Files.writeHeader h bytes))
        Store.onFiles (Files.closeFile h)
        match written with
        | .ok _ => pure ()
        | .error e => fail e : StoreM FileError Unit) s
      (fun _ s' => s' = { s with
        files := { s.files.putBlock o.image 0 (Buffer.ofList blockSize bytes) with
          table := s.files.table.erase h } })
      (fun _ _ => False) := by
  rw [ends_bind, ends_attempt, Store.ends_onFiles]
  refine (Files.ends_writeHeader hs h bytes).imp ?_ ?_
  · rintro _ fs ⟨o', ho', rfl⟩
    obtain rfl : o = o' := Option.some.inj (ho.symm.trans ho')
    rw [ends_bind, Store.ends_closeFile]
    refine ⟨fun _ => rfl, fun hnone => ?_⟩
    exact absurd (ho.symm.trans hnone) nofun
  · rintro e fs ⟨-, hnone | hlong⟩
    · exact absurd (ho.symm.trans hnone) nofun
    · exact absurd hlength (Nat.not_le.2 hlong)

/-! ## Stores that are left alone -/

/-- **A store of which only the files have changed.** -/
structure Store.Aside (s s' : Store) : Prop where
  files : s'.files.Sound
  pool_eq : s'.pool = s.pool
  frames_eq : s'.frames = s.frames
  held_eq : s'.held = s.held
  nextPin_eq : s'.nextPin = s.nextPin
  unpinFailed : ∀ page e, Event.unpinFailed page e ∈ s'.events →
    Event.unpinFailed page e ∈ s.events

theorem Store.Aside.refl (hs : s.files.Sound) : s.Aside s := ⟨hs, rfl, rfl, rfl, rfl, fun _ _ h => h⟩

/-- A change of the table is one of the files. -/
theorem Store.Aside.of_withTable {t : FileTable} (h : (s.withTable t).Aside s') : s.Aside s' :=
  { h with }

/-- A store is sound as long as its pool agrees with the files. -/
theorem Store.Aside.sound (h : s.Aside s') (hs : s.Sound other raw)
    (hcoherent : Coherent imageOf (raw ++ s.held.map HeldPin.hold) s') : s'.Sound imageOf raw where
  coherent := by
    rw [show s'.held = s.held from h.held_eq]
    exact hcoherent
  ids_nodup := by
    rw [show s'.held = s.held from h.held_eq]
    exact hs.ids_nodup
  id_lt := by
    rw [show s'.held = s.held from h.held_eq, show s'.nextPin = s.nextPin from h.nextPin_eq]
    exact hs.id_lt

/-- Something else was reported. -/
theorem Store.Aside.report (h : s.Aside s') (event : Event)
    (hevent : ∀ page e, event ≠ .unpinFailed page e) :
    s.Aside { s' with events := event :: s'.events } :=
  { h with
    unpinFailed := fun page e he => h.unpinFailed page e
      ((List.mem_cons.mp he).resolve_left fun heq => hevent page e heq.symm) }

/-! ## Creating -/

/-- **What is spared when a file is created** on a disk on which no file stands at two
places: none does afterwards, and every file that is still open is what it was, unless the
path leads nowhere. -/
structure Store.SparesOpen (s : Store) (path : Path) (s' : Store) : Prop where
  unshared : s'.files.disk.Unshared
  image_eq : ∀ {place : Place}, s'.files.disk.canonical path = .ok place →
    ∀ o ∈ s'.files.table.opened, s'.files.disk.image o.image = s.files.disk.image o.image

/-- **A file that was made in a store**, with a header and no pages. It is not open, and
was closed if it was. -/
structure Store.Made (s : Store) (path : Path) (i : ImageId) (header : FileHeader) (s' : Store) :
    Prop where
  aside : s.Aside s'
  leads : s'.files.disk.Leads path i
  stands : s.files.disk.Stands s'.files.disk
  image_eq : s'.files.disk.image i = Image.empty.setBlock 0 (Buffer.ofList blockSize header.encode)
  other_eq : ∀ j, j ≠ i → s'.files.disk.image j = s.files.disk.image j
  limit_eq : s'.files.table.limit = s.files.table.limit
  next_le : s.files.table.next ≤ s'.files.table.next
  opened_eq : s'.files.table.opened = s.files.table.opened ∨
    ∃ o ∈ s.files.table.opened, o.image = i ∧ s'.files.table = s.files.table.erase o.handle
  spares : s.files.disk.Unshared → s.SparesOpen path s'

namespace Store.Made

variable {i : ImageId} {header : FileHeader}

theorem stored_eq (h : s.Made path i header s') :
    (s'.files.disk.image i).block 0 = Buffer.ofList blockSize header.encode := by
  rw [h.image_eq, Image.block_setBlock, if_pos rfl]

theorem pages_eq (h : s.Made path i header s') : (s'.files.disk.image i).pages = 0 := by
  rw [h.image_eq]
  exact (Image.pages_setBlock _ (Nat.zero_le _)).trans (by decide)

/-- A file was made on the disk, and its header was written to it. -/
theorem of_made {fs : Files} (hmade : s.files.disk.Made fs.disk path i) {place : Place}
    (hplace : fs.disk.canonical path = .ok place) (hnode : fs.disk.node? place = some (.file i))
    {t : FileTable} (hfiles : Files.Sound { fs with table := t })
    (hlimit : t.limit = s.files.table.limit) (hnext : s.files.table.next ≤ t.next)
    (hopened : t.opened = s.files.table.opened ∨
      ∃ o ∈ s.files.table.opened, o.image = i ∧ t = s.files.table.erase o.handle)
    (hclosed : ∀ o ∈ t.opened, o.place ≠ place) (header : FileHeader) {event : Event}
    (hevent : ∀ page e, event ≠ .unpinFailed page e) :
    s.Made path i header
      { s with
        files := { fs.putBlock i 0 (Buffer.ofList blockSize header.encode) with table := t }
        events := event :: s.events } := by
  have hlt := Disk.lt_of_node? hnode
  have himage : ∀ j, (fs.putBlock i 0 (Buffer.ofList blockSize header.encode)).disk.image j =
      if j = i then Image.empty.setBlock 0 (Buffer.ofList blockSize header.encode)
      else s.files.disk.image j := by
    intro j
    refine (Disk.image_setImage _ hlt j).trans ?_
    rw [hmade.image_self]
    split
    · rfl
    · exact hmade.image j ‹_›
  constructor
  case aside =>
    have haside : s.Aside { s with files :=
        { fs.putBlock i 0 (Buffer.ofList blockSize header.encode) with table := t } } :=
      ⟨hfiles.putImage _ _, rfl, rfl, rfl, rfl, fun _ _ h => h⟩
    exact haside.report event hevent
  case leads => exact Disk.Leads.congr (d := fs.disk) ⟨place, hplace, hnode⟩ rfl
  case stands => exact hmade.stands
  case image_eq => exact (himage i).trans (if_pos rfl)
  case other_eq => exact fun j hj => (himage j).trans (if_neg hj)
  case limit_eq => exact hlimit
  case next_le => exact hnext
  case opened_eq => exact hopened
  case spares =>
    intro hdisk
    have hunshared := hmade.unshared hdisk
    refine ⟨hunshared.congr rfl, fun _ o ho => (himage o.image).trans (if_neg fun heq => ?_)⟩
    exact hclosed o ho (hunshared _ _ i (heq ▸ hfiles.placed o ho) hnode)

end Store.Made

/-- **A record file is made on the disk**, opened, given its header and closed again. If
it was open already, by another path, the handle that it had is closed. If there is no
header for it or it cannot be made or opened, no file is opened or closed. -/
theorem ends_create (hs : s.files.Sound) (path : Path) (options : FileOptions) :
    Ends (RecordFile.create path options) s
      (fun _ s' => ∃ header i, FileHeader.create options = .ok header ∧ s.Made path i header s')
      (fun _ s' => s.Aside s' ∧ s'.files.table = s.files.table ∧
        (s.files.disk.Unshared → s.SparesOpen path s')) := by
  unfold RecordFile.create RecordFile.passing
  cases hcreate : FileHeader.create options with
  | error e => exact ⟨.refl hs, rfl, fun hdisk => ⟨hdisk, fun _ _ _ => rfl⟩⟩
  | ok header =>
    have hlength := header.length_encode_le
    have haside : ∀ {fs : Files}, fs.Sound → s.Aside { s with files := fs } := fun hfs =>
      ⟨hfs, rfl, rfl, rfl, rfl, fun _ _ h => h⟩
    dsimp only
    rw [ends_bind, ends_widenError, ends_bind, Store.ends_onFiles]
    refine (Files.ends_createFile s.files path).imp ?_ ?_
    swap
    · rintro _ fs ⟨htable, hext⟩
      exact ⟨haside (hs.of_stands htable hext.stands), htable, fun hdisk =>
        ⟨hext.unshared hdisk, fun _ o _ => hext.image o.image⟩⟩
    rintro _ fs ⟨htable, i, hmade⟩
    have hfs := hs.of_stands htable hmade.stands
    have hfound : ∀ {place j}, fs.disk.canonical path = .ok place →
        fs.disk.node? place = some (.file j) → i = j := by
      intro place j hplace hnode
      have hfound := hmade.found place hplace
      rw [hnode] at hfound
      cases hfound
      rfl
    rw [ends_bind, Store.ends_onFiles]
    refine (Files.ends_openFile fs path).imp ?_ ?_
    swap
    · rintro _ fs' ⟨rfl, -, hcause⟩
      refine ⟨haside hfs, htable, fun hdisk => ?_⟩
      have hunshared := hmade.unshared hdisk
      refine ⟨hunshared, fun {place} hplace o ho => hmade.image _ fun himage => ?_⟩
      -- if the file were open, its handle would have been found
      refine hfs.handleAt?_eq_none_iff.mp (hcause place hplace).1 o ho ?_
      exact hunshared _ _ i (himage ▸ hfs.placed o ho) (hmade.found place hplace)
    rintro h fs' ⟨place, hplace, ⟨hopen, hsame⟩ | ⟨j, hclosed, hnode, -, rfl, rfl⟩⟩
    · rw [hsame]
      obtain ⟨o, hmem, rfl, rfl⟩ := hfs.handleAt?_eq_some_iff.mp hopen
      have hnode := hfs.placed o hmem
      obtain rfl : i = o.image := hfound hplace hnode
      refine (ends_writeAndClose hfs (hfs.byHandle?_of_mem hmem) hlength).imp ?_ fun _ _ h => h.elim
      rintro _ _ rfl
      have ht : fs.table.erase o.handle = s.files.table.erase o.handle := by rw [htable]
      refine ⟨header, _, rfl, .of_made hmade hplace hnode (hfs.erase o.handle) ?_ ?_
        (.inr ⟨o, htable ▸ hmem, rfl, ht⟩) ?_ header ?_⟩
      · show fs.table.limit = _
        rw [htable]
      · show _ ≤ fs.table.next
        rw [htable]
      · intro o' ho' hplace
        obtain ⟨hmem', hne⟩ := FileTable.mem_opened_erase.mp ho'
        exact hne (congrArg _ (hfs.place_inj hmem' hmem hplace))
      · exact fun _ _ => nofun
    · obtain rfl : i = j := hfound hplace hnode
      have hopen : (fs.table.add place i).byHandle? fs.table.next = some ⟨_, place, i⟩ :=
        FileTable.byHandle?_add.trans (if_pos rfl)
      refine (ends_writeAndClose (hfs.add hclosed hnode) hopen hlength).imp ?_ fun _ _ h => h.elim
      rintro _ _ rfl
      have hopened := FileTable.opened_erase_add hfs.handle_lt place i
      refine ⟨header, i, rfl, .of_made hmade hplace hnode ((hfs.add hclosed hnode).erase _) ?_ ?_
        (.inl (hopened.trans (congrArg FileTable.opened htable))) ?_ header fun _ _ => nofun⟩
      · show fs.table.limit = _
        rw [htable]
      · show _ ≤ fs.table.next + 1
        rw [htable]
        exact Nat.le_succ _
      · rw [hopened]
        exact hfs.handleAt?_eq_none_iff.mp hclosed

/-- **A store in which a file was to be created**: nothing was opened in it. -/
structure Store.Tried (s : Store) (path : Path) (s' : Store) : Prop where
  aside : s.Aside s'
  next_le : s.files.table.next ≤ s'.files.table.next
  opened_subset : s'.files.table.opened ⊆ s.files.table.opened
  spares : s.files.disk.Unshared → s.SparesOpen path s'

/-- Whether the file was created or not. -/
theorem Store.tried_create (hs : s.files.Sound) (path : Path) (options : FileOptions) :
    s.Tried path (stateAfter (RecordFile.create path options) s) := by
  refine Ends.stateAfter ((ends_create hs path options).imp ?_ ?_)
  · rintro _ s' ⟨header, i, -, hmade⟩
    refine ⟨hmade.aside, hmade.next_le, fun o ho => ?_, hmade.spares⟩
    obtain hsame | ⟨o', -, -, herased⟩ := hmade.opened_eq
    · exact hsame ▸ ho
    · exact (FileTable.mem_opened_erase.mp (herased ▸ ho)).1
  · rintro _ s' ⟨haside, htable, hspares⟩
    exact ⟨haside, Nat.le_of_eq (htable ▸ rfl), htable ▸ List.Subset.refl _, hspares⟩

/-- **A record file that was created**: it consists of its header block, and no file was
opened or closed. -/
structure Store.Created (other : Nat → ImageId) (image : ImageId) (raw : List Hold) (path : Path)
    (header : FileHeader) (s s' : Store) : Prop where
  sound : s'.Sound other raw
  made : s.Made path image header s'
  opened_eq : s'.files.table.opened = s.files.table.opened

/-- **A record file is created empty.** -/
theorem ends_createRecordFile (hs : s.Sound other raw) (hother : ∀ h, other h ≠ image)
    (path : Path) (options : FileOptions) :
    Ends (RecordFile.create path options) s
      (fun _ s' => s'.files.disk.Leads path image →
        ∃ header, FileHeader.create options = .ok header ∧ s.Created other image raw path header s')
      (fun _ _ => True) := by
  refine (ends_create hs.coherent.files path options).imp ?_ fun _ _ _ => trivial
  rintro _ s' ⟨header, i, hheader, hmade⟩ hleads
  obtain rfl : i = image := hleads.eq hmade.leads
  -- a file that was open would be one that a handle stands for
  have hopened : s'.files.table.opened = s.files.table.opened := by
    refine hmade.opened_eq.resolve_right ?_
    rintro ⟨o, hmem, himage, -⟩
    exact hother o.handle ((hs.coherent.stands o hmem).symm.trans himage)
  have hcoherent := hs.coherent.elsewhere hmade.aside.pool_eq hmade.aside.frames_eq
    hmade.aside.files (fun o ho => hopened ▸ ho) hmade.next_le fun h => hmade.other_eq _ (hother h)
  exact ⟨header, hheader, hmade.aside.sound hs hcoherent, hmade, hopened⟩

end Creating

end SlottedFile
