import SlottedFile.Proofs.Disk
import SlottedFile.Proofs.Pool.AnyRun

/-!
# What reaches the disk when everything is written back

When all dirty pages are written back, and when a store ends, the pages are taken in the order
of their last use. The first page that cannot be written – its file was closed, or it lies too
far out – ends it. Every page in front of that one is on the disk then; those behind it are
not, even if their files are open (`closed_file_keeps_others_from_disk`). The end of a store reports
nothing, so that nobody learns which pages they are.

If every dirty page can be written, nothing is lost (`dirty_pages_reach_disk`).
-/

namespace SlottedFile

/-- Where no file stands at two places, none is open under two handles. -/
theorem Files.Sound.unshared {fs : Files} (hs : fs.Sound) (hdisk : fs.disk.Unshared) :
    fs.Unshared := by
  intro h h' o o' ho ho' himage
  obtain ⟨hmem, rfl⟩ := FileTable.mem_of_byHandle? ho
  obtain ⟨hmem', rfl⟩ := FileTable.mem_of_byHandle? ho'
  have hplace := hdisk _ _ _ (hs.placed o hmem) (himage ▸ hs.placed o' hmem')
  exact congrArg _ (hs.place_inj hmem hmem' hplace)

theorem Pool.mem_dirty_iff {p : Pool} {k : PageKey} (hp : p.Distinct) :
    k ∈ p.keysWhere (·.dirty) ↔ p.isDirty k = true := by
  rw [mem_keysWhere hp]
  constructor
  · rintro ⟨e, hfind, hdirty⟩
    exact (isDirty_of_find? hfind).trans hdirty
  · intro hdirty
    cases hfind : p.find? k with
    | none =>
      rw [isDirty, hfind, Option.any_none] at hdirty
      cases hdirty
    | some e => exact ⟨e, rfl, (isDirty_of_find? hfind).symm.trans hdirty⟩

namespace Store

variable {s s' : Store} {keys : List PageKey}

/-- The disk that is left of a store is the disk behind the last attempt to write everything
back. -/
theorem shutdown_eq (s : Store) : s.shutdown = (stateAfter flushAll s).files.disk := by
  unfold shutdown stateAfter
  cases flushAll s <;> rfl

/-- **The pages of a list are on a disk, and nothing else was written to it**, as far as open
files go. -/
structure Reached (s : Store) (keys : List PageKey) (d : Disk) : Prop where
  written : ∀ k ∈ keys, ∃ o f, s.files.table.byHandle? k.file = some o ∧
    s.pool.frame? k = some f ∧ (d.image o.image).block (k.page + 1) = s.frame f
  kept : ∀ k o, k ∉ keys → s.files.table.byHandle? k.file = some o →
    (d.image o.image).block (k.page + 1) = (s.files.disk.image o.image).block (k.page + 1)

theorem WroteBack.reached (h : WroteBack keys s s') (hs : s.files.Unshared)
    (hdirty : ∀ k ∈ keys, s.pool.isDirty k = true) : s.Reached keys s'.files.disk where
  written := fun k hk => h.written hs k hk (hdirty k hk)
  kept := fun k o hk ho => h.kept hs k o (fun hmem => absurd hmem hk) ho

end Store

section Runs

variable {may : Store → PoolCall → Prop} {log : List (PoolCall × PoolReply)} {s : Store}

/-- **Of the dirty pages, those reach the disk that stand in front of the first that cannot be
written**, in the order of their last use: whether writing back fails there, or the store ends
there without a word. If there is no such page, every dirty page reaches the disk. -/
theorem dirty_pages_reach_disk (h : PoolRun may log s) (hdisk : s.files.disk.Unshared) :
    ∃ front behind, s.pool.keysWhere (·.dirty) = front ++ behind ∧
      s.Reached front s.shutdown ∧ s.Reached front (stateAfter Store.flushAll s).files.disk ∧
      Ends Store.flushAll s (fun _ _ => behind = [])
        (fun _ _ => ∃ k rest, behind = k :: rest ∧ s.Unwritable k) ∧
      ((∀ k, s.pool.isDirty k = true → ¬s.Unwritable k) →
        ∀ k, s.pool.isDirty k = true ↔ k ∈ front) := by
  have hs := h.tidy
  have hunshared := hs.files.unshared hdisk
  rw [s.shutdown_eq]
  have hends := hs.ends_flushAll_exactly
  unfold Ends stateAfter at *
  cases hrun : Store.flushAll s with
  | ok _ s' =>
    rw [hrun] at hends
    have hreached := hends.reached hunshared fun k => (Pool.mem_dirty_iff hs.distinct).mp
    exact ⟨_, [], (List.append_nil _).symm, hreached, hreached, rfl,
      fun _ k => (Pool.mem_dirty_iff hs.distinct).symm⟩
  | error _ s' =>
    rw [hrun] at hends
    obtain ⟨front, k, behind, hkeys, hfar, hwrote⟩ := hends
    have hdirty : ∀ j ∈ front ++ k :: behind, s.pool.isDirty j = true := fun j hj =>
      (Pool.mem_dirty_iff hs.distinct).mp (hkeys ▸ hj)
    have hreached := hwrote.reached hunshared fun j hj =>
      hdirty j (List.mem_append_left _ hj)
    refine ⟨front, k :: behind, hkeys, hreached, hreached, ⟨k, behind, rfl, hfar⟩, fun hall => ?_⟩
    exact absurd hfar (hall k (hdirty k (List.mem_append_right _ List.mem_cons_self)))

/-! ## Two files, of which one is closed -/

/-- A disk with two files, of one page of zeros each. -/
def twoFiles : Disk :=
  (oneFile.addFile (Disk.home ++ ["g"])).setImage 1 (Image.empty.setSize (2 * blockSize))

theorem twoFiles_unshared : twoFiles.Unshared := by
  have hplace : ∀ {p : Place} {i}, twoFiles.node? p = some (.file i) →
      p = Disk.home ++ ["g"] ∧ i = 1 ∨ p = Disk.home ++ ["f"] ∧ i = 0 := by
    intro p i hp
    unfold Disk.node? at hp
    split at hp
    · cases hp
    · obtain ⟨l, l', hl, -⟩ := List.lookup_eq_some_iff.mp hp
      have hmem : (p, Node.file i) ∈ twoFiles.entries := by
        rw [hl]
        exact List.mem_append_right _ List.mem_cons_self
      rcases List.mem_cons.mp hmem with heq | hmem
      · cases heq
        exact .inl ⟨rfl, rfl⟩
      · cases List.mem_singleton.mp hmem
        exact .inr ⟨rfl, rfl⟩
  intro p q i hp hq
  rcases hplace hp with ⟨rfl, rfl⟩ | ⟨rfl, rfl⟩ <;> rcases hplace hq with ⟨rfl, h⟩ | ⟨rfl, h⟩
  · rfl
  · cases h
  · cases h
  · rfl

/-- A store with two frames in which the first file is open, -/
def firstOpened : Store :=
  stateAfter (Store.onFiles (Files.openFile ⟨["f"]⟩)) (.ofDisk twoFiles 2 2)

/-- after the second was opened as well, -/
def bothOpened : Store := stateAfter (Store.onFiles (Files.openFile ⟨["g"]⟩)) firstOpened

/-- after the page of the first was fetched, -/
def firstFetched : Store := stateAfter (PoolCall.fetch ⟨0, 0⟩).run bothOpened

/-- after a byte was written to its frame, -/
def firstWritten : Store :=
  { firstFetched with
    frames := firstFetched.frames.setIfInBounds 0 ((Buffer.zero blockSize).set 0 7) }

/-- after it was reported dirty, -/
def firstDirty : Store := stateAfter (PoolCall.markDirty ⟨0, 0⟩).run firstWritten

/-- and after the page of the second was fetched and reported dirty as well. -/
def bothDirty : Store :=
  stateAfter (PoolCall.markDirty ⟨1, 0⟩).run (stateAfter (PoolCall.fetch ⟨1, 0⟩).run firstDirty)

/-- What was called before the page of the second file was fetched. -/
def firstCalls : List (PoolCall × PoolReply) :=
  [(.markDirty ⟨0, 0⟩, .done), (.fetch ⟨0, 0⟩, .pinned ⟨0, 0⟩ 0)]

theorem firstDirty_run : PoolRun (fun _ _ => True) firstCalls firstDirty := by
  have hopen : Store.onFiles (Files.openFile ⟨["f"]⟩) (Store.ofDisk twoFiles 2 2) =
      .ok 0 firstOpened := rfl
  have hopen' : Store.onFiles (Files.openFile ⟨["g"]⟩) firstOpened = .ok 1 bothOpened := rfl
  have hfetch : (PoolCall.fetch ⟨0, 0⟩).run bothOpened = .ok (.pinned ⟨0, 0⟩ 0) firstFetched :=
    rfl
  have hmark : (PoolCall.markDirty ⟨0, 0⟩).run firstWritten = .ok .done firstDirty := rfl
  have hopened : PoolRun (fun _ _ => True) [] bothOpened :=
    ((PoolRun.start twoFiles 2 2).opened hopen).opened hopen'
  have hwritten := (hopened.returned trivial hfetch).wrote 0 ((Buffer.zero blockSize).set 0 7)
  exact hwritten.returned trivial hmark

theorem bothDirty_run : PoolRun (fun _ _ => True)
    ((.markDirty ⟨1, 0⟩, .done) :: (.fetch ⟨1, 0⟩, .pinned ⟨1, 0⟩ 1) :: firstCalls) bothDirty := by
  have hfetch : (PoolCall.fetch ⟨1, 0⟩).run firstDirty =
      .ok (.pinned ⟨1, 0⟩ 1) (stateAfter (PoolCall.fetch ⟨1, 0⟩).run firstDirty) := rfl
  have hmark : (PoolCall.markDirty ⟨1, 0⟩).run (stateAfter (PoolCall.fetch ⟨1, 0⟩).run firstDirty) =
      .ok .done bothDirty := rfl
  exact (firstDirty_run.returned trivial hfetch).returned trivial hmark

/-- The byte that was written to the first file reaches the disk when the store ends. -/
theorem dirty_pages_reach_disk_firstDirty : ((firstDirty.shutdown.image 0).block 1)[0] = 7 := by
  obtain ⟨front, behind, -, hreached, -, -, hall⟩ :=
    dirty_pages_reach_disk firstDirty_run twoFiles_unshared
  have hkeys : firstDirty.pool.keysWhere (·.dirty) = [⟨0, 0⟩] := rfl
  have hdirty : firstDirty.pool.isDirty ⟨0, 0⟩ = true := rfl
  have hwritable : ∀ k, firstDirty.pool.isDirty k = true → ¬firstDirty.Unwritable k := by
    intro k hk
    rw [← Pool.mem_dirty_iff firstDirty_run.tidy.distinct, hkeys] at hk
    obtain rfl := List.mem_singleton.mp hk
    exact not_or.mpr ⟨nofun, by decide⟩
  obtain ⟨o, f, ho, hf, hblock⟩ := hreached.written ⟨0, 0⟩ ((hall hwritable _).mp hdirty)
  cases ho
  cases hf
  have hbyte : (firstDirty.frame 0)[0] = 7 := Vector.getElem_set_self _
  exact (congrArg (·[0]) hblock).trans hbyte

/-- **A page whose file was closed keeps the pages behind it from the disk.** The second file
is closed while its page is dirty; the byte that was written to the first file, which is open,
is not on the disk after everything was to be written back, nor after the store has ended. -/
theorem closed_file_keeps_others_from_disk :
    ∃ log s f o, PoolRun (fun _ _ => True) log s ∧ s.files.disk.Unshared ∧
      s.files.table.byHandle? 0 = some o ∧ s.pool.frame? ⟨0, 0⟩ = some f ∧
      s.pool.isDirty ⟨0, 0⟩ = true ∧ (s.frame f)[0] = 7 ∧
      (((stateAfter Store.flushAll s).files.disk.image o.image).block 1)[0] = 0 ∧
      ((s.shutdown.image o.image).block 1)[0] = 0 := by
  have hclose : Store.onFiles (Files.closeFile 1) bothDirty =
      .ok () (stateAfter (Store.onFiles (Files.closeFile 1)) bothDirty) := rfl
  have hflushed : ((stateAfter Store.flushAll
      (stateAfter (Store.onFiles (Files.closeFile 1)) bothDirty)).files.disk.image 0).block 1 =
      Buffer.zero blockSize := rfl
  have hshut : ((stateAfter (Store.onFiles (Files.closeFile 1)) bothDirty).shutdown.image 0).block 1
      = Buffer.zero blockSize := rfl
  refine ⟨_, _, 0, ⟨0, Disk.home ++ ["f"], 0⟩, bothDirty_run.closed hclose, twoFiles_unshared,
    rfl, rfl, rfl, ?_, ?_, ?_⟩
  · exact Vector.getElem_set_self _
  · exact (congrArg (·[0]) hflushed).trans (Image.getElem_zero _)
  · exact (congrArg (·[0]) hshut).trans (Image.getElem_zero _)

end Runs

end SlottedFile
