import SlottedFile.Proofs.Records.Sharing

/-!
# Two frames suffice

A pool needs two frames for a record file, whatever the length of its free list and
wherever a page stands in it: the page that is worked on is pinned, and one page of the
list at a time. With so many frames left, no task fails because of the pool.

So it makes no difference to a file that is alone in its store how many frames there
are (`two_frames_suffice`). What has been done with it and what came of that is the same
(`SoloRun`), because it is what the plain file makes of it (`PlainRun`).
-/

namespace SlottedFile

/-! ## Runs of a single file -/

/-- **What happens to a record file**: a task is done, with an answer or an error, or the
file is closed and opened again. -/
inductive SoloEvent where
  | done (task : RecordTask) (outcome : Except (Fault RecordError) TaskReply)
  | reopened

/-- **A session whose file was just created**, in a store on some disk in which nothing
else is open. -/
def Session.Fresh (path : Path) (options : FileOptions) (capacity : Nat) (s : Session) : Prop :=
  ∃ disk limit store, RecordFile.create path options (.ofDisk disk capacity limit) = .ok () store ∧
    RecordFile.openFile path store = .ok s.file s.store

/-- **A run of a record file that is alone in its store**, whose pages links can name.
Nobody holds a pin between two tasks. -/
inductive SoloRun (path : Path) (s₀ : Session) : List SoloEvent → Session → Prop
  | start : SoloRun path s₀ [] s₀
  | returned {log : List SoloEvent} {s s' : Session} {task : RecordTask} {r : TaskReply}
      (h : SoloRun path s₀ log s) (hfree : task.PinFree) (hrun : task.run s = .ok r s')
      (hpages : s'.file.header.pages < noPage) :
      SoloRun path s₀ (log ++ [.done task (.ok r)]) s'
  | failed {log : List SoloEvent} {s s' : Session} {task : RecordTask} {e : Fault RecordError}
      (h : SoloRun path s₀ log s) (hfree : task.PinFree) (hrun : task.run s = .error e s') :
      SoloRun path s₀ (log ++ [.done task (.error e)]) s'
  | reopened {log : List SoloEvent} {s : Session} {store store' : Store} {file : RecordFile}
      (h : SoloRun path s₀ log s) (hclose : s.file.close s.store = .ok () store)
      (hopen : RecordFile.openFile path store = .ok file store') :
      SoloRun path s₀ (log ++ [.reopened]) ⟨store', file⟩

/-- **What the same events make of a plain file.** -/
inductive PlainRun (p₀ : PlainFile) : List SoloEvent → PlainFile → Prop
  | start : PlainRun p₀ [] p₀
  | returned {log : List SoloEvent} {p p' : PlainFile} {task : RecordTask} {r : TaskReply}
      (h : PlainRun p₀ log p) (hfree : task.PinFree) (hrun : task.plain p = .ok r p')
      (hpages : p'.header.pages < noPage) :
      PlainRun p₀ (log ++ [.done task (.ok r)]) p'
  | failed {log : List SoloEvent} {p p' : PlainFile} {task : RecordTask} {e : Fault RecordError}
      (h : PlainRun p₀ log p) (hfree : task.PinFree) (hrun : task.plain p = .error e p') :
      PlainRun p₀ (log ++ [.done task (.error e)]) p
  | reopened {log : List SoloEvent} {p : PlainFile} (h : PlainRun p₀ log p) :
      PlainRun p₀ (log ++ [.reopened]) p

/-- **A file that is open in a store at rest.** -/
def Session.Alone (path : Path) (p : PlainFile) (s : Session) : Prop :=
  ∃ imageOf, s.store.AtRest imageOf ∅ ∧ s.Shows imageOf path p

section Solo

variable {path path' : Path} {options : FileOptions} {p p₀ : PlainFile} {s s₀ s₀' : Session}
  {log : List SoloEvent}

namespace Session.Alone

/-- **The step lemma**: a task does to the file what it does to the plain file, whatever
the number of frames. -/
theorem ends_run (h : s.Alone path p) {task : RecordTask} (hfree : task.PinFree) :
    Ends task.run s
      (fun r s' => ∃ p', task.plain p = .ok r p' ∧ s'.file.header = p'.header ∧
        (p'.header.pages < noPage → s'.Alone path p'))
      (fun e s' => (∃ p', task.plain p = .error e p') ∧ s'.Alone path p) := by
  obtain ⟨imageOf, hrest, hshows⟩ := h
  refine (hshows.ends_run hrest hfree).imp ?_ ?_
  · rintro r s' ⟨p', hplain, hfile, hrested, hshows'⟩
    exact ⟨p', hplain, congrArg RecordFile.header hfile,
      fun hpages => ⟨imageOf, hrested.rest, hshows' hpages⟩⟩
  · rintro e s' ⟨hplain, -, hrested, hshows'⟩
    exact ⟨hplain, imageOf, hrested.rest, hshows'⟩

/-- **The file can be closed**, and is then on the disk with all its bytes. -/
theorem ends_close (h : s.Alone path p) :
    Ends s.file.close s.store
      (fun _ t => t.files.disk.BytesAt path p.bytes ∧
        Ends (RecordFile.openFile path) t (fun file t' => (⟨t', file⟩ : Session).Alone path p)
          (fun _ _ => False))
      (fun _ _ => False) := by
  obtain ⟨imageOf, hrest, hshows⟩ := h
  refine (hshows.ends_close hrest).imp ?_ fun _ _ h => h
  intro _ t hclosed
  have hstands := hrest.sound.coherent.stands
  refine ⟨hclosed.bytesAt, ?_⟩
  refine (hclosed.rest.ends_open (fun o ho himage => ?_) (fun _ h => h.elim) hclosed.leads
    hclosed.keeps hclosed.paged hshows.proper).imp ?_ ?_
  · -- no handle but the one that was closed stands for the file
    rw [hclosed.table_eq] at ho
    obtain ⟨hmem, hne⟩ := FileTable.mem_opened_erase.mp ho
    rw [hstands o hmem] at himage
    exact hne (hrest.sound.coherent.injective himage)
  · rintro file t' ⟨-, imageOf', hrest', -, -, hshows', -⟩
    exact ⟨imageOf', hrest', hshows'⟩
  · intro _ _ hfull
    obtain ⟨o, ho, -⟩ := hshows.place
    rw [hclosed.table_eq] at hfull
    exact absurd (hrest.within.erase_lt ho) (Nat.not_lt.2 hfull)

theorem contents_eq (h : s.Alone path p) : s.contents = p := by
  obtain ⟨imageOf, hrest, hshows⟩ := h
  exact hshows.contents_eq hrest

theorem closesAs (h : s.Alone path p) : s.ClosesAs path p.bytes := by
  obtain ⟨imageOf, hrest, hshows⟩ := h
  exact hshows.closesAs hrest

end Session.Alone

/-- A file that was just created is alone. -/
theorem Session.Fresh.alone {capacity : Nat} (h : s.Fresh path options capacity)
    (hcapacity : 2 ≤ capacity) :
    ∃ header, FileHeader.create options = .ok header ∧ s.Alone path (.created header) := by
  obtain ⟨disk, limit, store, hcreate, hopen⟩ := h
  obtain ⟨header, imageOf, hheader, -, hrest, -, -, hshows, -⟩ :=
    (Store.atRest_ofDisk disk hcapacity).created hcreate (fun _ _ => nofun)
      (fun _ _ _ h => h.elim) hopen
  exact ⟨header, hheader, imageOf, hrest, hshows⟩

/-- **What a run makes of a file, its events make of the plain file.** -/
theorem SoloRun.plain (h : SoloRun path s₀ log s) (halone : s₀.Alone path p₀) :
    ∃ p, PlainRun p₀ log p ∧ s.Alone path p := by
  induction h with
  | start => exact ⟨p₀, .start, halone⟩
  | returned _ hfree hrun hpages ih =>
    obtain ⟨p, hplain, ih⟩ := ih
    obtain ⟨p', htask, hheader, halone'⟩ := (ih.ends_run hfree).of_ok hrun
    rw [hheader] at hpages
    exact ⟨p', hplain.returned hfree htask hpages, halone' hpages⟩
  | failed _ hfree hrun ih =>
    obtain ⟨p, hplain, ih⟩ := ih
    obtain ⟨⟨p', htask⟩, halone'⟩ := (ih.ends_run hfree).of_error hrun
    exact ⟨p, hplain.failed hfree htask, halone'⟩
  | reopened _ hclose hopen ih =>
    obtain ⟨p, hplain, ih⟩ := ih
    exact ⟨p, hplain.reopened, (ih.ends_close.of_ok hclose).2.of_ok hopen⟩

/-- **And what events make of the plain file, they make of any file.** -/
theorem PlainRun.solo (h : PlainRun p₀ log p) (halone : s₀.Alone path p₀) :
    ∃ s, SoloRun path s₀ log s ∧ s.Alone path p := by
  induction h with
  | start => exact ⟨s₀, .start, halone⟩
  | @returned log p p' task r _ hfree htask hpages ih =>
    obtain ⟨s, hsolo, ih⟩ := ih
    have hends := ih.ends_run hfree
    cases hrun : task.run s with
    | ok r' s' =>
      obtain ⟨p'', htask', hheader, halone'⟩ := hends.of_ok hrun
      rw [htask] at htask'
      cases htask'
      exact ⟨s', hsolo.returned hfree hrun (hheader ▸ hpages), halone' hpages⟩
    | error e s' =>
      -- the plain task would have failed as well
      obtain ⟨⟨p'', htask'⟩, -⟩ := hends.of_error hrun
      rw [htask] at htask'
      cases htask'
  | @failed log p p' task e _ hfree htask ih =>
    obtain ⟨s, hsolo, ih⟩ := ih
    have hends := ih.ends_run hfree
    cases hrun : task.run s with
    | ok r' s' =>
      obtain ⟨p'', htask', -⟩ := hends.of_ok hrun
      rw [htask] at htask'
      cases htask'
    | error e' s' =>
      obtain ⟨⟨p'', htask'⟩, halone'⟩ := hends.of_error hrun
      rw [htask] at htask'
      cases htask'
      exact ⟨s', hsolo.failed hfree hrun, halone'⟩
  | reopened _ ih =>
    obtain ⟨s, hsolo, ih⟩ := ih
    obtain ⟨_, t, hclose, -, hopens⟩ := ih.ends_close.exists_ok
    obtain ⟨file, t', hopen, halone'⟩ := hopens.exists_ok
    exact ⟨⟨t', file⟩, hsolo.reopened hclose hopen, halone'⟩

/-- **Two frames are always enough.** If two more pages may be pinned and every dirty page
can be written back, a task answers or fails as the plain file does, and never because
of the pool. So the runs of a file that is alone in its store are the same whatever the
number of frames: each answer and each error, what the file contains, and its bytes
after it is closed. -/
theorem two_frames_suffice :
    (∀ {other : Nat → ImageId} {image : ImageId} {path : Path} {options : FileOptions}
      {history : List RecordEvent} {s : Session} {c : Client} {task : RecordTask},
      RecordRun other image path options .orderly history s c →
      s.store.pool.pinnedCount + 2 ≤ s.store.pool.capacity →
      (∀ k, s.store.pool.isDirty k = true → (s.store.files.table.byHandle? k.file).isSome) →
      s.store.files.disk.Bounded → task.PinFree →
      Ends task.run s
        (fun r s' => r.Unbroken ∧
          ∃ p', task.plain (s.own other image) = .ok r p' ∧ s'.own other image = p')
        (fun e _ => ¬FromPool e ∧ ∃ p', task.plain (s.own other image) = .error e p')) ∧
    ∀ {path path' : Path} {options : FileOptions} {capacity capacity' : Nat}
      {s₀ s₀' s : Session} {log : List SoloEvent},
      s₀.Fresh path options capacity → s₀'.Fresh path' options capacity' →
      2 ≤ capacity → 2 ≤ capacity' → SoloRun path s₀ log s →
      ∃ s', SoloRun path' s₀' log s' ∧ s'.contents = s.contents ∧
        ∃ bytes, s.ClosesAs path bytes ∧ s'.ClosesAs path' bytes := by
  constructor
  · intro other image path options history s c task h hroom hopen hbounded hfree
    obtain ⟨hpages, -, k, -, -, hrep⟩ := h.represents
    have hgood := h.atWork.good
    have hready : s.Ready (standFor other image s.file.handle) c.holds (s.own other image) :=
      ⟨hgood, rfl, hrep.whole, hpages, hroom, fun k hdirty =>
        hgood.sound.coherent.writable hbounded hdirty (hopen k hdirty)⟩
    refine Ends.imp (task.exact_run hready hfree) ?_ ?_
    · rintro r s' ⟨p', hplain, hbecame, -⟩
      refine ⟨RecordTask.unbroken_of_plain hplain, p', hplain, ?_⟩
      unfold Session.own
      rw [hbecame.handle_eq]
      exact hbecame.plain_eq
    · rintro e s' ⟨hpool, p', hplain, -⟩
      exact ⟨hpool, p', hplain⟩
  · intro path path' options capacity capacity' s₀ s₀' s log hfresh hfresh' hcapacity hcapacity' h
    obtain ⟨header, hheader, halone⟩ := hfresh.alone hcapacity
    obtain ⟨header', hheader', halone'⟩ := hfresh'.alone hcapacity'
    obtain rfl : header' = header := Except.ok.inj (hheader'.symm.trans hheader)
    obtain ⟨p, hplain, hs⟩ := h.plain halone
    obtain ⟨s', hsolo, hs'⟩ := hplain.solo halone'
    exact ⟨s', hsolo, hs'.contents_eq.trans hs.contents_eq.symm, p.bytes, hs.closesAs, hs'.closesAs⟩

/-! ## Two pools -/

/-- A store with some frames, in which a file was created with one slot of one byte in
every page. -/
def tinyMade (capacity : Nat) : Store :=
  stateAfter (RecordFile.create ⟨["f"]⟩ ⟨1, some 1⟩) (.ofDisk .empty capacity 2)

/-- That file after it was opened. -/
def tinyFresh (capacity : Nat) : Session where
  store := stateAfter (RecordFile.openFile ⟨["f"]⟩) (tinyMade capacity)
  file := ⟨1, ⟨1, 1, 0, 1, none⟩⟩

/-- To put a record into the file. -/
def tinyTask : RecordTask := .call (.insert [7])

set_option maxRecDepth 100000 in
theorem tinyFresh_two :
    RecordFile.create ⟨["f"]⟩ ⟨1, some 1⟩ (.ofDisk .empty 2 2) = .ok () (tinyMade 2) ∧
      RecordFile.openFile ⟨["f"]⟩ (tinyMade 2) = .ok (tinyFresh 2).file (tinyFresh 2).store :=
  ⟨rfl, rfl⟩

set_option maxRecDepth 100000 in
theorem tinyFresh_three :
    RecordFile.create ⟨["f"]⟩ ⟨1, some 1⟩ (.ofDisk .empty 3 2) = .ok () (tinyMade 3) ∧
      RecordFile.openFile ⟨["f"]⟩ (tinyMade 3) = .ok (tinyFresh 3).file (tinyFresh 3).store :=
  ⟨rfl, rfl⟩

set_option maxRecDepth 100000 in
theorem tinyFresh_two_run :
    RecordRun (· + 1) 0 ⟨["f"]⟩ ⟨1, some 1⟩ .orderly [] (tinyFresh 2) idle := by
  have hpool : PoolReachable (· + 1) (.ofDisk .empty 2 2) idle :=
    .run (fun _ _ h => Nat.succ.inj h) .empty 2 2 .refl
  exact .opened hpool Nat.succ_ne_zero tinyFresh_two.1 ⟨_, rfl, rfl⟩ tinyFresh_two.2

set_option maxRecDepth 100000 in
theorem tinyFresh_two_solo :
    SoloRun ⟨["f"]⟩ (tinyFresh 2) [.done tinyTask (.ok (.reply (.inserted ⟨0, 0⟩)))]
      (stateAfter tinyTask.run (tinyFresh 2)) := by
  have hrun : tinyTask.run (tinyFresh 2) =
      .ok (.reply (.inserted ⟨0, 0⟩)) (stateAfter tinyTask.run (tinyFresh 2)) := rfl
  exact SoloRun.start.returned trivial hrun (show 1 < noPage by decide)

set_option maxRecDepth 100000 in
/-- A record is put into an empty file with two frames, and the same is done with
three. -/
theorem two_frames_suffice_tiny :
    Ends tinyTask.run (tinyFresh 2) (fun r _ => r.Unbroken) (fun e _ => ¬FromPool e) ∧
      ∃ s', SoloRun ⟨["f"]⟩ (tinyFresh 3) [.done tinyTask (.ok (.reply (.inserted ⟨0, 0⟩)))] s' ∧
        ∃ bytes, s'.ClosesAs ⟨["f"]⟩ bytes := by
  constructor
  · have hclean : ∀ k, (tinyFresh 2).store.pool.isDirty k = true →
        ((tinyFresh 2).store.files.table.byHandle? k.file).isSome := nofun
    have hcount : ((tinyFresh 2).store.files.disk.image 0).blockCount = 1 := rfl
    have hbounded : (tinyFresh 2).store.files.disk.Bounded :=
      Disk.bounded_of_single rfl (by rw [hcount]; decide)
    have hroom : (tinyFresh 2).store.pool.pinnedCount + 2 ≤ (tinyFresh 2).store.pool.capacity :=
      Nat.le_refl 2
    have hfree : tinyTask.PinFree := trivial
    exact (two_frames_suffice.1 tinyFresh_two_run hroom hclean hbounded hfree).imp
      (fun _ _ h => h.1) fun _ _ h => h.1
  · obtain ⟨s', hsolo, -, bytes, -, hcloses⟩ := two_frames_suffice.2
      ⟨_, _, _, tinyFresh_two⟩ ⟨_, _, _, tinyFresh_three⟩ (Nat.le_refl 2) (Nat.le_succ 2)
      tinyFresh_two_solo
    exact ⟨s', hsolo, bytes, hcloses⟩

end Solo

end SlottedFile
