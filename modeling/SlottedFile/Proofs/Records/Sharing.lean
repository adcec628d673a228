import Mathlib.Data.Finset.Lattice.Fold
import Mathlib.Data.Finset.Range
import SlottedFile.Proofs.Records.Durability
import SlottedFile.Proofs.Records.Tasks

/-!
# Record files that share a store

A store is at rest (`Store.AtRest`) between the tasks of the record files that share it:
no page has a pin, whatever is buffered belongs to a file that is open and can be
written back, and there are two frames at least. Pages of some handles that are gone may
be buffered as well, as long as they are not dirty. Then a task does to its file exactly
what it does to the plain file (`Session.Shows.ends_run`), a file can be closed
(`Session.Shows.ends_close`) and one that the disk keeps can be opened
(`Store.AtRest.ends_open`). After each of these the store is at rest again, and what
the sessions of the other files show is what they showed (`Session.Shows.beside`).
-/

namespace SlottedFile

/-! ## The bytes of a record file -/

/-- **The bytes of a plain file**: its header block and its pages, one after the other. -/
def PlainFile.bytes (p : PlainFile) : List UInt8 :=
  p.stored.toList ++ (List.range p.count).flatMap fun page => (p.page page).toList

/-- **Whether a path leads to a file with these bytes.** -/
def Disk.BytesAt (d : Disk) (path : Path) (bytes : List UInt8) : Prop :=
  ∃ i, d.Leads path i ∧ (d.image i).toBytes = bytes

/-- **What the disk keeps of a file is all of it**, if the file consists of whole blocks. -/
theorem Disk.Keeps.toBytes_eq {d : Disk} {i : ImageId} {p : PlainFile} (h : d.Keeps i p)
    (hpaged : (d.image i).Paged) : (d.image i).toBytes = p.bytes := by
  have hsize := hpaged.size_eq
  rw [h.count_eq] at hsize
  have hblocks : (d.image i).blockCount = p.count + 1 := by
    unfold Image.blockCount
    rw [hsize, show blockSize = 8192 from rfl]
    omega
  have hlength : p.bytes.length = (p.count + 1) * blockSize := by
    unfold PlainFile.bytes
    simp [Nat.add_mul, Nat.add_comm]
  have hall : (List.range (p.count + 1)).flatMap (fun k => ((d.image i).block k).toList) =
      p.bytes := by
    unfold PlainFile.bytes
    rw [List.range_succ_eq_map, List.flatMap_cons, List.flatMap_map, h.stored_eq]
    simp only [Nat.succ_eq_add_one, h.page_eq]
  unfold Image.toBytes
  rw [hblocks, hall, hsize, ← hlength, List.take_length]

/-! ## Proper files -/

/-- **A proper file**: it represents a keyed store, and links can name its pages. -/
structure PlainFile.Proper (p : PlainFile) : Prop where
  represents : ∃ k, Represents p k
  pages_lt : p.header.pages < noPage

/-- **A file that was just created** consists of its header block. -/
def PlainFile.created (header : FileHeader) : PlainFile where
  header := header
  stored := Buffer.ofList blockSize header.encode
  count := 0
  page := fun _ => Buffer.zero blockSize

/-- **It holds a keyed store with nothing in it.** -/
theorem Represents.created {options : FileOptions} {header : FileHeader}
    (hcreate : FileHeader.create options = .ok header) :
    Represents (.created header) (.empty header.recordSize header.recordsPerPage) := by
  obtain ⟨hflaw, hpages, hhead⟩ := FileHeader.flaw_of_create hcreate
  have hwhole : (PlainFile.created header).Whole :=
    ⟨⟨FileHeader.fits_of_flaw hflaw, hpages.symm⟩, rfl⟩
  exact .empty hwhole hflaw hpages hhead

namespace PlainFile.Proper

variable {p p' : PlainFile}

theorem whole (h : p.Proper) : p.Whole := by
  obtain ⟨k, hrep⟩ := h.represents
  exact hrep.whole

theorem written (h : p.Proper) : FileHeader.decode p.stored.toList = .ok p.header := by
  obtain ⟨k, hrep⟩ := h.represents
  exact (hrep.inOrder h.pages_lt).written

theorem created {options : FileOptions} {header : FileHeader}
    (hcreate : FileHeader.create options = .ok header) : (PlainFile.created header).Proper := by
  refine ⟨⟨_, .created hcreate⟩, ?_⟩
  show header.pages < noPage
  rw [(FileHeader.flaw_of_create hcreate).2.1]
  decide

/-- A proper file stays one as long as links can name its pages. -/
theorem task (h : p.Proper) {task : RecordTask} (hfree : task.PinFree) {r : TaskReply}
    (hplain : task.plain p = .ok r p') (hpages : p'.header.pages < noPage) : p'.Proper := by
  obtain ⟨k, hrep⟩ := h.represents
  exact ⟨RecordTask.represents hfree hrep h.pages_lt hplain, hpages⟩

end PlainFile.Proper

/-! ## A store at rest -/

/-- **A store at rest**, in which pages of some handles that are gone may be buffered. -/
structure Store.AtRest (imageOf : Nat → ImageId) (gone : Set Nat) (s : Store) : Prop where
  sound : s.Sound imageOf []
  held_eq : s.held = []
  two_le : 2 ≤ s.pool.capacity
  attached : s.Attached gone
  writable : ∀ k, s.pool.isDirty k = true → ¬s.Unwritable k
  within : s.files.table.Within

/-- **No page of a handle is dirty.** -/
def Store.CleanOf (s : Store) (handle : Nat) : Prop :=
  ∀ k, k.file = handle → s.pool.isDirty k = false

/-- **A session that shows a proper file**, to which a path leads. -/
structure Session.Shows (imageOf : Nat → ImageId) (path : Path) (p : PlainFile) (s : Session) :
    Prop where
  place : ∃ o, s.store.files.table.byHandle? s.file.handle = some o ∧
    s.store.files.disk.canonical path = .ok o.place
  plain_eq : s.plain imageOf = p
  proper : p.Proper
  paged : (s.store.files.disk.image (imageOf s.file.handle)).Paged

/-- **Every file is shown as it was**, but for the one of a handle. -/
def Store.SparesOthers (imageOf imageOf' : Nat → ImageId) (handle : Nat) (s s' : Store) : Prop :=
  ∀ f path p, f.handle ≠ handle → (⟨s, f⟩ : Session).Shows imageOf path p →
    (⟨s', f⟩ : Session).Shows imageOf' path p

/-- **The record file of a session**, in the pages and blocks of the file that its handle
is open for. -/
def Session.contents (s : Session) : PlainFile :=
  s.plain fun handle => ((s.store.files.table.byHandle? handle).map (·.image)).getD 0

/-- **Whether a file can be closed, and then has these bytes** where the path leads. -/
def Session.ClosesAs (s : Session) (path : Path) (bytes : List UInt8) : Prop :=
  ∃ t, s.file.close s.store = .ok () t ∧ t.files.disk.BytesAt path bytes

section Rest

variable {imageOf : Nat → ImageId} {gone : Set Nat} {path : Path} {p p' : PlainFile}
  {s s' : Session} {store store' : Store}

theorem Store.AtRest.tidy (h : store.AtRest imageOf gone) : store.Tidy :=
  ⟨h.sound.coherent.files, h.sound.coherent.distinct, h.sound.id_lt⟩

theorem Store.AtRest.pinCount_eq (h : store.AtRest imageOf gone) (k : PageKey) :
    store.pool.pinCount k = 0 := by
  rw [h.sound.coherent.pins_eq, h.held_eq]
  rfl

theorem Store.AtRest.roomy (h : store.AtRest imageOf gone) : store.Roomy 2 := by
  refine ⟨?_, h.writable⟩
  rw [Pool.pinnedCount_eq_zero h.tidy.distinct h.pinCount_eq, Nat.zero_add]
  exact h.two_le

theorem Session.Shows.opened (h : s.Shows imageOf path p) :
    (s.store.files.table.byHandle? s.file.handle).isSome := by
  obtain ⟨o, ho, -⟩ := h.place
  exact Option.isSome_of_eq_some ho

theorem Session.Shows.ready (h : s.Shows imageOf path p) (hrest : s.store.AtRest imageOf gone) :
    s.Ready imageOf [] p :=
  ⟨⟨hrest.sound, h.opened⟩, h.plain_eq, h.proper.whole, h.proper.pages_lt, hrest.roomy⟩

theorem Session.Shows.leads (h : s.Shows imageOf path p) (hrest : s.store.AtRest imageOf gone) :
    s.store.files.disk.Leads path (imageOf s.file.handle) := by
  obtain ⟨o, ho, hplace⟩ := h.place
  refine ⟨o.place, hplace, ?_⟩
  rw [hrest.sound.coherent.files.placed o (FileTable.mem_of_byHandle? ho).1,
    hrest.sound.coherent.stands_of_byHandle? ho]

/-- What a session shows is what its file contains. -/
theorem Session.Shows.contents_eq (h : s.Shows imageOf path p) (hrest : s.store.AtRest imageOf gone) :
    s.contents = p := by
  obtain ⟨o, ho, -⟩ := h.place
  have himage : ((s.store.files.table.byHandle? s.file.handle).map (·.image)).getD 0 =
      imageOf s.file.handle := by
    rw [ho]
    exact hrest.sound.coherent.stands_of_byHandle? ho
  refine Eq.trans ?_ h.plain_eq
  unfold contents plain Store.picture Store.content Store.diskBlock
  dsimp only
  rw [himage]

/-- **A file that nothing happened to** is shown as it was. -/
theorem Session.Shows.beside {imageOf' : Nat → ImageId} {f : RecordFile}
    (h : (⟨store, f⟩ : Session).Shows imageOf path p)
    (hopened : ∀ o, store.files.table.byHandle? f.handle = some o →
      store'.files.table.byHandle? f.handle = some o)
    (hcanonical : ∀ place, store.files.disk.canonical path = .ok place →
      store'.files.disk.canonical path = .ok place)
    (hplain : (⟨store', f⟩ : Session).plain imageOf' = (⟨store, f⟩ : Session).plain imageOf)
    (hpaged : (store.files.disk.image (imageOf f.handle)).Paged →
      (store'.files.disk.image (imageOf' f.handle)).Paged) :
    (⟨store', f⟩ : Session).Shows imageOf' path p := by
  obtain ⟨o, ho, hplace⟩ := h.place
  exact ⟨⟨o, hopened o ho, hcanonical _ hplace⟩, hplain.trans h.plain_eq, h.proper,
    hpaged h.paged⟩

/-! ## Tasks -/

/-- A store is at rest after a task. -/
theorem Store.AtRest.became (hrest : s.store.AtRest imageOf gone) (hfit : s.Fit)
    (hbecame : Session.Became imageOf [] s p' s') (hsteady : s.Steady s') :
    s'.store.AtRest imageOf gone where
  sound := hbecame.good.sound
  held_eq := by
    have hpins := hsteady.onward.pins_eq
    rw [hrest.held_eq] at hpins
    exact List.map_eq_nil_iff.mp hpins
  two_le := by
    rw [hsteady.onward.capacity_eq]
    exact hrest.two_le
  attached := hsteady.onward.attached hrest.attached
  writable := (hsteady.roomy hfit (fun _ => hrest.roomy) hbecame.good.opened).writable
  within := by
    rw [hbecame.table_eq]
    exact hrest.within

/-- The file of the task is shown as it became. -/
theorem Session.Shows.became (h : s.Shows imageOf path p)
    (hbecame : Session.Became imageOf [] s p' s') (hsteady : s.Steady s') (hproper : p'.Proper) :
    s'.Shows imageOf path p' where
  place := by
    obtain ⟨o, ho, hplace⟩ := h.place
    refine ⟨o, ?_, ?_⟩
    · rw [hbecame.table_eq, hbecame.handle_eq]
      exact ho
    · rw [Disk.canonical_congr hsteady.onward.files.entries_eq]
      exact hplace
  plain_eq := hbecame.plain_eq
  proper := hproper
  paged := by
    rw [hbecame.handle_eq]
    exact hsteady.onward.files.paged _ h.paged

/-- Any other file is shown as it was. -/
theorem Session.Became.sparesOthers (hbecame : Session.Became imageOf [] s p' s')
    (hsteady : s.Steady s') : s.store.SparesOthers imageOf imageOf s.file.handle s'.store := by
  intro f path' q hne h
  have himage : imageOf f.handle ≠ imageOf s.file.handle := fun heq =>
    hne (hbecame.good.sound.coherent.injective heq)
  refine h.beside (fun o ho => ?_) (fun place hplace => ?_) ?_ (hsteady.onward.files.paged _)
  · rw [hbecame.table_eq]
    exact ho
  · rw [Disk.canonical_congr hsteady.onward.files.entries_eq]
    exact hplace
  · unfold plain
    dsimp only
    rw [hbecame.picture]
    congr 1
    · exact Function.update_of_ne himage _ _
    · exact Function.update_of_ne himage _ _
    · funext page
      exact (congrFun (congrArg Picture.content hbecame.picture) _).trans (if_neg hne)

/-- **What a task leaves alone** in a store at rest. -/
structure Session.Rested (imageOf : Nat → ImageId) (gone : Set Nat) (s s' : Session) : Prop where
  rest : s'.store.AtRest imageOf gone
  table_eq : s'.store.files.table = s.store.files.table
  images_eq : s'.store.files.disk.images.size = s.store.files.disk.images.size
  spares : s.store.SparesOthers imageOf imageOf s.file.handle s'.store

theorem Session.Became.rested (hrest : s.store.AtRest imageOf gone) (hfit : s.Fit)
    (hbecame : Session.Became imageOf [] s p' s') (hsteady : s.Steady s') :
    s.Rested imageOf gone s' :=
  ⟨hrest.became hfit hbecame hsteady, hbecame.table_eq, congrArg Picture.images hbecame.picture,
    hbecame.sparesOthers hsteady⟩

/-- **What a task does to the files of a store at rest**: its own file becomes what the
plain file becomes, and everything else is left alone. A task fails only if the plain
one does. -/
theorem Session.Shows.ends_run (h : s.Shows imageOf path p) (hrest : s.store.AtRest imageOf gone)
    {task : RecordTask} (hfree : task.PinFree) :
    Ends task.run s
      (fun r s' => ∃ p', task.plain p = .ok r p' ∧ s'.file = ⟨s.file.handle, p'.header⟩ ∧
        s.Rested imageOf gone s' ∧ (p'.header.pages < noPage → s'.Shows imageOf path p'))
      (fun e s' => (∃ p', task.plain p = .error e p') ∧ s'.file = s.file ∧
        s.Rested imageOf gone s' ∧ s'.Shows imageOf path p) := by
  have hready := h.ready hrest
  refine Ends.imp (task.exact_run hready hfree) ?_ ?_
  · rintro r s' ⟨p', hplain, hbecame, hsteady⟩
    exact ⟨p', hplain, hbecame.file, hbecame.rested hrest hready.fit hsteady,
      fun hpages => h.became hbecame hsteady (h.proper.task hfree hplain hpages)⟩
  · rintro e s' ⟨-, p', hplain, hbecame, hsteady⟩
    exact ⟨⟨p', hplain⟩, hbecame.file_eq h.plain_eq,
      hbecame.rested hrest hready.fit hsteady, h.became hbecame hsteady h.proper⟩

/-! ## Closing -/

/-- **A file that was closed** in a store at rest, and that the disk keeps. -/
structure Session.ClosedAtRest (imageOf : Nat → ImageId) (gone : Set Nat) (path : Path)
    (p : PlainFile) (s : Session) (t : Store) : Prop where
  rest : t.AtRest imageOf gone
  table_eq : t.files.table = s.store.files.table.erase s.file.handle
  images_eq : t.files.disk.images.size = s.store.files.disk.images.size
  leads : t.files.disk.Leads path (imageOf s.file.handle)
  keeps : t.files.disk.Keeps (imageOf s.file.handle) p
  paged : (t.files.disk.image (imageOf s.file.handle)).Paged
  spares : s.store.SparesOthers imageOf imageOf s.file.handle t

/-- The bytes of a file that was closed are those of the plain file. -/
theorem Session.ClosedAtRest.bytesAt {t : Store} (h : s.ClosedAtRest imageOf gone path p t) :
    t.files.disk.BytesAt path p.bytes :=
  ⟨_, h.leads, h.keeps.toBytes_eq h.paged⟩

/-- What the closing of a file keeps of a store at rest. -/
theorem Store.AtRest.closed (hrest : s.store.AtRest imageOf gone) {t : Store}
    (hclosed : s.Closed imageOf [] t)
    (honward : s.store.Onward (PageOf s.file.handle) [] [] store)
    (ht : t = store.withTable (s.store.files.table.erase s.file.handle)) :
    t.AtRest imageOf gone := by
  have hne : ∀ {k f}, t.pool.frame? k = some f → k.file ≠ s.file.handle := by
    intro k f hframe hk
    rw [hclosed.out k hk] at hframe
    cases hframe
  have hopen : ∀ {k : PageKey}, k.file ≠ s.file.handle →
      t.files.table.byHandle? k.file = s.store.files.table.byHandle? k.file := by
    intro k hk
    rw [ht]
    exact FileTable.byHandle?_erase.trans (if_neg hk)
  constructor
  case sound => exact hclosed.sound
  case held_eq =>
    rw [ht]
    have hpins := honward.pins_eq
    rw [hrest.held_eq] at hpins
    exact List.map_eq_nil_iff.mp hpins
  case two_le =>
    rw [ht]
    exact honward.capacity_eq.symm ▸ hrest.two_le
  case attached =>
    intro k f hframe
    rw [hopen (hne hframe)]
    have hattached := honward.attached hrest.attached k f (by rwa [ht] at hframe)
    rwa [honward.files.table_eq] at hattached
  case writable =>
    intro k hdirty
    have hk : k.file ≠ s.file.handle := by
      cases hframe : t.pool.frame? k with
      | none =>
        rw [Pool.isDirty_of_frame?_none hframe] at hdirty
        cases hdirty
      | some f => exact hne hframe
    have hbefore := (honward.dirty k (by rwa [ht] at hdirty)).resolve_right fun hpage => hk hpage.1
    have hwritable := hrest.writable k hbefore
    unfold Unwritable at hwritable ⊢
    rwa [hopen hk]
  case within =>
    rw [ht]
    exact hrest.within.erase _

/-- **A file of a store at rest can be closed.** -/
theorem Session.Shows.ends_close (h : s.Shows imageOf path p) (hrest : s.store.AtRest imageOf gone) :
    Ends s.file.close s.store (fun _ t => s.ClosedAtRest imageOf gone path p t)
      (fun _ _ => False) := by
  have hready := h.ready hrest
  have hpins : ∀ k, k.file = s.file.handle → s.store.pool.pinCount k = 0 := fun k _ =>
    hrest.pinCount_eq k
  refine ((SlottedFile.ends_close hready.good h.plain_eq h.proper.whole hpins).and
    (hready.fit.ends_close hpins)).imp ?_ ?_
  · rintro _ t ⟨hclosed, s₁, honward, ht⟩
    have htable : t.files.table = s.store.files.table.erase s.file.handle := by
      rw [ht]
      rfl
    have hentries : t.files.disk.entries = s.store.files.disk.entries := by
      rw [ht]
      exact honward.files.entries_eq
    have hpaged : ∀ i, (s.store.files.disk.image i).Paged → (t.files.disk.image i).Paged := by
      rw [ht]
      exact honward.files.paged
    have himages : t.files.disk.images.size = s.store.files.disk.images.size :=
      congrArg Picture.images hclosed.picture
    refine ⟨hrest.closed hclosed honward ht, htable, himages, (h.leads hrest).congr hentries,
      h.plain_eq ▸ hclosed.keeps, hpaged _ h.paged, ?_⟩
    intro f path' q hne hf
    refine hf.beside (fun o ho => ?_) (fun place hplace => ?_) ?_ (hpaged _)
    · rw [htable, FileTable.byHandle?_erase, if_neg hne]
      exact ho
    · rw [Disk.canonical_congr hentries]
      exact hplace
    · exact Session.plain_congr (s := ⟨s.store, f⟩) hclosed.picture
  · -- it fails only if the file is too long, and links can name its pages
    rintro e t ⟨hfar, -⟩
    exact hready.entire.not_too_long hfar

theorem Session.Shows.closesAs (h : s.Shows imageOf path p) (hrest : s.store.AtRest imageOf gone) :
    s.ClosesAs path p.bytes := by
  obtain ⟨_, t, hclose, hclosed⟩ := (h.ends_close hrest).exists_ok
  exact ⟨t, hclose, hclosed.bytesAt⟩

/-! ## Opening -/

/-- **A handle that is open has been given out**, and stands for no file that is closed. -/
theorem Store.AtRest.of_open (hrest : store.AtRest imageOf gone) {image : ImageId}
    (hclosed : ∀ o ∈ store.files.table.opened, o.image ≠ image) {h : Nat}
    (hopen : (store.files.table.byHandle? h).isSome) :
    h < store.files.table.next ∧ imageOf h ≠ image := by
  obtain ⟨o, ho⟩ := Option.isSome_iff_exists.mp hopen
  refine ⟨hrest.tidy.files.lt_next ho, ?_⟩
  rw [← hrest.sound.coherent.stands_of_byHandle? ho]
  exact hclosed o (FileTable.mem_of_byHandle? ho).1

/-- **What handles stand for can be told anew**, so that none stands for a file that is
neither open nor gone. -/
theorem Store.AtRest.apart (hrest : store.AtRest imageOf gone) {image : ImageId}
    (hclosed : ∀ o ∈ store.files.table.opened, o.image ≠ image)
    (hgone : ∀ h ∈ gone, imageOf h ≠ image) :
    ∃ other, store.Sound other [] ∧ (∀ h, other h ≠ image) ∧
      ∀ h, h < store.files.table.next → imageOf h ≠ image → other h = imageOf h := by
  have hcoherent := hrest.sound.coherent
  obtain ⟨bound, himage, hbound⟩ :
      ∃ bound, image < bound ∧ ∀ h, h < store.files.table.next → imageOf h < bound := by
    refine ⟨max image ((Finset.range store.files.table.next).sup imageOf) + 1,
      Nat.lt_succ_of_le (Nat.le_max_left _ _), fun h hlt => Nat.lt_succ_of_le ?_⟩
    exact Nat.le_trans (Finset.le_sup (Finset.mem_range.mpr hlt)) (Nat.le_max_right _ _)
  -- a handle that stands for the file or was not given out is told to stand for something else
  let other : Nat → ImageId := fun h =>
    if h < store.files.table.next ∧ imageOf h ≠ image then imageOf h else bound + h
  have hsame : ∀ h, h < store.files.table.next ∧ imageOf h ≠ image → other h = imageOf h :=
    fun h hkept => if_pos hkept
  have hfar : ∀ h, ¬(h < store.files.table.next ∧ imageOf h ≠ image) → other h = bound + h :=
    fun h hkept => if_neg hkept
  have hnear : ∀ h h', h < store.files.table.next → imageOf h ≠ bound + h' := fun h h' hlt =>
    Nat.ne_of_lt (Nat.lt_of_lt_of_le (hbound h hlt) (Nat.le_add_right _ _))
  have hinj : Function.Injective other := by
    intro h h' heq
    by_cases hkept : h < store.files.table.next ∧ imageOf h ≠ image <;>
      by_cases hkept' : h' < store.files.table.next ∧ imageOf h' ≠ image
    · rw [hsame h hkept, hsame h' hkept'] at heq
      exact hcoherent.injective heq
    · rw [hsame h hkept, hfar h' hkept'] at heq
      exact absurd heq (hnear h h' hkept.1)
    · rw [hfar h hkept, hsame h' hkept'] at heq
      exact absurd heq.symm (hnear h' h hkept'.1)
    · rw [hfar h hkept, hfar h' hkept'] at heq
      exact Nat.add_left_cancel heq
  refine ⟨other, ⟨?_, hrest.sound.ids_nodup, hrest.sound.id_lt⟩, fun h => ?_,
    fun h hlt hne => hsame h ⟨hlt, hne⟩⟩
  · refine hcoherent.rename hinj (fun o ho => hsame _ ?_) fun hframe => hsame _ ?_
    · exact hrest.of_open hclosed
        (Option.isSome_of_eq_some (hcoherent.files.byHandle?_of_mem ho))
    · rcases hrest.attached _ _ hframe with hopen | hmem
      · exact hrest.of_open hclosed hopen
      · exact ⟨hcoherent.issued hframe, hgone _ hmem⟩
  · by_cases hkept : h < store.files.table.next ∧ imageOf h ≠ image
    · rw [hsame h hkept]
      exact hkept.2
    · rw [hfar h hkept]
      exact Nat.ne_of_gt (Nat.lt_of_lt_of_le himage (Nat.le_add_right _ _))

/-- A store is at rest as long as only its files change, and those stay open of which a page
is dirty. What is no longer open is gone. -/
theorem Store.AtRest.aside {imageOf' : Nat → ImageId} {gone' : Set Nat}
    (hrest : store.AtRest imageOf gone) (haside : store.Aside store')
    (hsound : store'.Sound imageOf' []) (hgone : gone ⊆ gone')
    (hopened : ∀ h o, store.files.table.byHandle? h = some o →
      store'.files.table.byHandle? h = some o ∨ h ∈ gone' ∧ store.CleanOf h)
    (hwithin : store'.files.table.Within) : store'.AtRest imageOf' gone' where
  sound := hsound
  held_eq := haside.held_eq.trans hrest.held_eq
  two_le := by
    rw [haside.pool_eq]
    exact hrest.two_le
  attached := by
    intro k f hframe
    rw [haside.pool_eq] at hframe
    rcases hrest.attached k f hframe with hopen | hmem
    · obtain ⟨o, ho⟩ := Option.isSome_iff_exists.mp hopen
      exact (hopened _ o ho).imp Option.isSome_of_eq_some And.left
    · exact .inr (hgone hmem)
  writable := by
    intro k hdirty hfar
    rw [haside.pool_eq] at hdirty
    refine hrest.writable k hdirty (hfar.imp_left fun hnone => ?_)
    refine Option.eq_none_iff_forall_ne_some.mpr fun o ho => ?_
    rcases hopened _ o ho with hsome | ⟨-, hclean⟩
    · rw [hsome] at hnone
      cases hnone
    · rw [hclean k rfl] at hdirty
      cases hdirty
  within := hwithin

/-- What a file shows does not change as long as its blocks do not. -/
theorem Store.Aside.plain_eq {imageOf' : Nat → ImageId} (haside : store.Aside store')
    {f : RecordFile}
    (himage : store'.files.disk.image (imageOf' f.handle) =
      store.files.disk.image (imageOf f.handle)) :
    (⟨store', f⟩ : Session).plain imageOf' = (⟨store, f⟩ : Session).plain imageOf := by
  have hcontent : ∀ page, store'.content imageOf' ⟨f.handle, page⟩ =
      store.content imageOf ⟨f.handle, page⟩ := by
    intro page
    unfold content diskBlock frame
    rw [haside.pool_eq, haside.frames_eq, himage]
  unfold Session.plain picture
  dsimp only
  rw [himage]
  congr 1
  exact funext hcontent

/-- What an open file shows does not change with other files. -/
theorem Store.Aside.sparesOthers {imageOf' : Nat → ImageId} {handle : Nat}
    (haside : store.Aside store')
    (hopened : ∀ h o, store.files.table.byHandle? h = some o →
      store'.files.table.byHandle? h = some o)
    (hcanonical : ∀ path place, store.files.disk.canonical path = .ok place →
      store'.files.disk.canonical path = .ok place)
    (hsame : ∀ h, (store.files.table.byHandle? h).isSome → imageOf' h = imageOf h)
    (himage : ∀ h, (store.files.table.byHandle? h).isSome →
      store'.files.disk.image (imageOf h) = store.files.disk.image (imageOf h)) :
    store.SparesOthers imageOf imageOf' handle store' := by
  intro f path' q _ h
  have himage' : store'.files.disk.image (imageOf' f.handle) =
      store.files.disk.image (imageOf f.handle) := by
    rw [hsame _ h.opened, himage _ h.opened]
  exact h.beside (hopened _) (hcanonical _) (haside.plain_eq himage') fun hpaged =>
    himage' ▸ hpaged

/-- **A proper file that the disk keeps is opened** under the next handle, unless too many
files are open. -/
theorem Store.AtRest.ends_open (hrest : store.AtRest imageOf gone) {image : ImageId}
    (hclosed : ∀ o ∈ store.files.table.opened, o.image ≠ image)
    (hgone : ∀ h ∈ gone, imageOf h ≠ image)
    (hleads : store.files.disk.Leads path image) (hkeeps : store.files.disk.Keeps image p)
    (hpaged : (store.files.disk.image image).Paged) (hproper : p.Proper) :
    Ends (RecordFile.openFile path) store
      (fun file store' => file.handle = store.files.table.next ∧
        ∃ imageOf', store'.AtRest imageOf' gone ∧ imageOf' file.handle = image ∧
          (∀ h, h < store.files.table.next → imageOf h ≠ image → imageOf' h = imageOf h) ∧
          (⟨store', file⟩ : Session).Shows imageOf' path p ∧
          store.SparesOthers imageOf imageOf' file.handle store')
      (fun _ _ => store.files.table.limit ≤ store.files.table.opened.length) := by
  obtain ⟨other, hsound, hother, hsame⟩ := hrest.apart hclosed hgone
  refine (ends_openRecordFile hsound hother hleads).imp ?_ ?_
  · intro file store' hopened
    have hown : (⟨store', file⟩ : Session).own other image = p :=
      AtWork.own_of_opened hopened hkeeps hproper.whole hproper.written
    have himage : store'.files.disk.image image = store.files.disk.image image := by
      refine hopened.image_eq ?_
      rw [hkeeps.count_eq, hproper.whole.count, ← hown]
      rfl
    obtain ⟨place, htable, -⟩ := hopened.table_eq
    have htable : store'.files.table = store.files.table.add place image := htable
    have hhandle : file.handle = store.files.table.next := hopened.handle_eq
    have hstands : ∀ h, h < store.files.table.next → imageOf h ≠ image →
        standFor other image file.handle h = imageOf h := by
      intro h hlt hne
      rw [standFor_of_ne (hhandle ▸ Nat.ne_of_lt hlt), hsame h hlt hne]
    have hfile : ∀ h o, store.files.table.byHandle? h = some o →
        store'.files.table.byHandle? h = some o := by
      intro h o ho
      rw [htable, FileTable.byHandle?_add, if_neg (Nat.ne_of_lt (hrest.tidy.files.lt_next ho)), ho]
    refine ⟨hhandle, standFor other image file.handle, ?_, standFor_self, hstands, ?_, ?_⟩
    · refine hrest.aside hopened.aside hopened.good.sound .rfl (fun h o ho => .inl (hfile h o ho)) ?_
      unfold FileTable.Within
      rw [htable]
      exact hopened.room
    · refine ⟨hopened.place, hown, hproper, ?_⟩
      show (store'.files.disk.image (standFor other image file.handle file.handle)).Paged
      rw [standFor_self, himage]
      exact hpaged
    · refine hopened.aside.sparesOthers hfile (fun path' place' hplace => ?_) (fun h ho => ?_)
        fun h ho => ?_
      · rw [Disk.canonical_congr hopened.entries_eq]
        exact hplace
      · obtain ⟨hlt, hne⟩ := hrest.of_open hclosed ho
        exact hstands h hlt hne
      · exact hopened.other_eq _ (hrest.of_open hclosed ho).2
  · intro _ _ hcause
    by_contra hroom
    refine hcause (Nat.not_le.1 hroom) p.header ?_ (hkeeps.count_eq.trans hproper.whole.count)
    rw [hkeeps.stored_eq]
    exact hproper.written

/-! ## Creating -/

/-- What was made in a store is kept by the disk as a file that was just created. -/
theorem Store.Made.keeps {i : ImageId} {header : FileHeader} (h : store.Made path i header store') :
    store'.files.disk.Keeps i (.created header) := by
  refine ⟨h.stored_eq, h.pages_eq, fun page => ?_⟩
  rw [h.image_eq, Image.block_setBlock, if_neg (Nat.succ_ne_zero page)]
  exact Image.block_of_size_le (Nat.zero_le _)

theorem Store.Made.paged {i : ImageId} {header : FileHeader} (h : store.Made path i header store') :
    (store'.files.disk.image i).Paged := by
  rw [h.image_eq]
  exact ⟨0, rfl⟩

/-- **A file is created and opened** in a store at rest, if it is neither one that is open
nor one that is gone. -/
theorem Store.AtRest.created (hrest : store.AtRest imageOf gone) {options : FileOptions}
    {store₁ : Store} {file : RecordFile}
    (hcreate : RecordFile.create path options store = .ok () store₁)
    (hclosed : ∀ i, store₁.files.disk.Leads path i → ∀ o ∈ store.files.table.opened, o.image ≠ i)
    (hgone : ∀ i, store₁.files.disk.Leads path i → ∀ h ∈ gone, imageOf h ≠ i)
    (hopen : RecordFile.openFile path store₁ = .ok file store') :
    ∃ header imageOf', FileHeader.create options = .ok header ∧
      store.files.table.next ≤ file.handle ∧ store'.AtRest imageOf' gone ∧
      store₁.files.disk.Leads path (imageOf' file.handle) ∧
      (∀ h ∈ gone, h < store.files.table.next → imageOf' h = imageOf h) ∧
      (⟨store', file⟩ : Session).Shows imageOf' path (.created header) ∧
      store.SparesOthers imageOf imageOf' file.handle store' := by
  obtain ⟨_, i, -, hmade⟩ := (ends_create hrest.tidy.files path options).of_ok hcreate
  have hclosed := hclosed i hmade.leads
  have hgone := hgone i hmade.leads
  obtain ⟨other, hsound, hother, hsame⟩ := hrest.apart hclosed hgone
  obtain ⟨header, hheader, hcreated⟩ :=
    (ends_createRecordFile hsound hother path options).of_ok hcreate hmade.leads
  have hopened : ∀ h, store₁.files.table.byHandle? h = store.files.table.byHandle? h := by
    intro h
    unfold FileTable.byHandle?
    rw [hcreated.opened_eq]
  have haside := hcreated.made.aside
  have hrest₁ : store₁.AtRest other gone := by
    refine hrest.aside haside hcreated.sound .rfl (fun h o ho => .inl ((hopened h).trans ho)) ?_
    unfold FileTable.Within
    rw [hcreated.opened_eq, hcreated.made.limit_eq]
    exact hrest.within
  have hspares : store.SparesOthers imageOf other file.handle store₁ := by
    refine haside.sparesOthers (fun h o ho => (hopened h).trans ho)
      (fun _ _ hplace => Disk.canonical_of_stands hmade.stands hplace) (fun h ho => ?_)
      fun h ho => ?_
    · obtain ⟨hlt, hne⟩ := hrest.of_open hclosed ho
      exact hsame h hlt hne
    · exact hcreated.made.other_eq _ (hrest.of_open hclosed ho).2
  obtain ⟨hhandle, imageOf', hrest', hself, hstands, hshows, hspares'⟩ :=
    (hrest₁.ends_open (hcreated.opened_eq ▸ hclosed) (fun h _ => hother h) hmade.leads
      hcreated.made.keeps hcreated.made.paged (.created hheader)).of_ok hopen
  refine ⟨header, imageOf', hheader, ?_, hrest', ?_, fun h hmem hlt => ?_, hshows,
    fun f path' q hne h => ?_⟩
  · rw [hhandle]
    exact hmade.next_le
  · rw [hself]
    exact hmade.leads
  · rw [hstands h (Nat.lt_of_lt_of_le hlt hmade.next_le) (hother h)]
    exact hsame h hlt (hgone h hmem)
  · exact hspares' f path' q hne (hspares f path' q hne h)

/-- A store on a disk is at rest as long as it has two frames. -/
theorem Store.atRest_ofDisk (disk : Disk) {capacity limit : Nat} (hcapacity : 2 ≤ capacity) :
    (Store.ofDisk disk capacity limit).AtRest id ∅ where
  sound := Store.sound_ofDisk (fun _ _ h => h) disk capacity limit
  held_eq := rfl
  two_le := Nat.le_trans hcapacity (Nat.le_max_left _ _)
  attached := nofun
  writable := nofun
  within := Nat.zero_le _

end Rest

end SlottedFile
