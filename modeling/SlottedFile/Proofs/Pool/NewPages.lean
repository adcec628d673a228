import SlottedFile.Proofs.Pool.AnyRun

/-!
# New pages and what is buffered behind the end of a file

A new page is the one behind the last page of its file. A fetch is not refused a page that
lies there or farther out: it shows zeros and is buffered like any other. If such a page is
buffered when it is made, the new page takes its place in the pool; the pins that were taken
of it are forgotten, and what was written to it is lost (`new_page_forgets_fetched`).

It does not happen to a page that is fetched only while it lies in its file. The pins that the
pool counts of it are those that were taken and not given back since its file was last
discarded, and it is not buffered when it is made (`new_page_replaces_nothing`).
-/

namespace SlottedFile

open PoolCall

/-- **What callers have to mind for a page**: it is fetched only where it lies in its file, and
only files that are open are discarded. -/
def PoolCall.Minds (k : PageKey) (s : Store) : PoolCall → Prop
  | fetch j => j = k → ∀ o, s.files.table.byHandle? k.file = some o →
      k.page < (s.files.disk.image o.image).pages
  | discardFile file => (s.files.table.byHandle? file).isSome
  | _ => True

/-- The calls since the file of a page was last discarded. -/
def sinceDiscard (k : PageKey) (log : List (PoolCall × PoolReply)) : List (PoolCall × PoolReply) :=
  log.takeWhile fun call => !discards k call

/-- **The pins of a page add up**: those that it has and those that were given back are all that
were taken. -/
def PinsAddUp (k : PageKey) (log : List (PoolCall × PoolReply)) (s : Store) : Prop :=
  s.pool.pinCount k + (sinceDiscard k log).countP (gives k) =
    (sinceDiscard k log).countP (takes k)

/-- **A page that is buffered lies in its file.** -/
def Store.Inside (k : PageKey) (s : Store) : Prop :=
  s.pool.frame? k ≠ none → k.file < s.files.table.next ∧
    ∀ o, s.files.table.byHandle? k.file = some o → k.page < (s.files.disk.image o.image).pages

section Steps

variable {k : PageKey} {s s' : Store} {call : PoolCall} {r : PoolReply}
  {log : List (PoolCall × PoolReply)}

theorem Store.Inside.goes (h : s.Inside k) (hgoes : s.Goes s')
    (hbuffered : s'.pool.frame? k ≠ none → s.pool.frame? k ≠ none) : s'.Inside k := by
  intro hframe
  obtain ⟨hissued, hinside⟩ := h (hbuffered hframe)
  rw [hgoes.files.table_eq]
  exact ⟨hissued, fun o ho => Nat.lt_of_lt_of_le (hinside o ho) (hgoes.files.pages_le _)⟩

theorem Store.Inside.passed (h : s.Inside k) (hpassed : s.PassedBy k s') : s'.Inside k :=
  h.goes hpassed.goes (mt hpassed.out)

/-- **A page that is made was not buffered.** -/
theorem PageStep.not_buffered {file : Nat} {f : FrameId} (h : s.Inside k)
    (hstep : PageStep k s s' (.newPage file) (.pinned k f)) : s.pool.frame? k = none := by
  cases hstep with
  | passed htakes =>
    rw [takes_pinned_self] at htakes
    cases htakes
  | made ho hbehind hinside hpins =>
    by_contra hframe
    exact Nat.not_lt.2 hbehind ((h hframe).2 _ ho)

/-- Every call leaves the page in its file. -/
theorem PageStep.inside (h : s.Inside k) (hs : s.Tidy) (hgoes : s.Goes s')
    (hminds : call.Minds k s) (hstep : PageStep k s s' call r) : s'.Inside k := by
  cases hstep with
  | passed _ _ _ hpassed => exact h.passed hpassed
  | fetched hpins hopen =>
    intro _
    rw [hgoes.files.table_eq]
    refine ⟨?_, fun o ho => Nat.lt_of_lt_of_le (hminds rfl o ho) (hgoes.files.pages_le _)⟩
    by_cases hframe : s.pool.frame? k = none
    · obtain ⟨o, ho⟩ := Option.isSome_iff_exists.mp (hopen hframe)
      exact hs.files.lt_next ho
    · exact (h hframe).1
  | @made o _ ho hbehind hinside hpins =>
    intro _
    rw [hgoes.files.table_eq]
    refine ⟨hs.files.lt_next ho, fun o' ho' => ?_⟩
    obtain rfl : o = o' := Option.some.inj (ho.symm.trans ho')
    rw [hinside]
    exact Nat.lt_succ_self _
  | unpinned hkey hpins hframe => exact h.goes hgoes fun hbuffered => hframe ▸ hbuffered
  | discarded hout => exact fun hframe => absurd hout hframe

/-- Every call keeps the account of the page. -/
theorem PageStep.pinsAddUp (hsum : PinsAddUp k log s) (h : s.Inside k)
    (hstep : PageStep k s s' call r) : PinsAddUp k ((call, r) :: log) s' := by
  have hcons : ∀ c, discards k c = false → sinceDiscard k (c :: log) = c :: sinceDiscard k log :=
    fun c hc => List.takeWhile_cons_of_pos (by rw [hc]; rfl)
  unfold PinsAddUp at hsum ⊢
  cases hstep with
  | passed htakes hgives hdiscards hpassed =>
    rw [hcons _ hdiscards, List.countP_cons_of_neg (by rw [hgives]; exact Bool.false_ne_true),
      List.countP_cons_of_neg (by rw [htakes]; exact Bool.false_ne_true), hpassed.pinCount_eq]
    exact hsum
  | fetched hpins hopen =>
    rw [hcons _ rfl, List.countP_cons_of_neg Bool.false_ne_true,
      List.countP_cons_of_pos (takes_pinned_self _ _ _), hpins]
    omega
  | made ho hbehind hinside hpins =>
    have hzero := Pool.pinCount_of_frame?_none
      (PageStep.not_buffered h (.made (f := 0) ho hbehind hinside hpins))
    rw [hcons _ rfl, List.countP_cons_of_neg Bool.false_ne_true,
      List.countP_cons_of_pos (takes_pinned_self _ _ _), hpins]
    omega
  | unpinned hkey hpins hframe =>
    rw [hcons _ rfl, List.countP_cons_of_pos (gives_unpin hkey _ _),
      List.countP_cons_of_neg Bool.false_ne_true]
    omega
  | discarded hout =>
    have hnil : sinceDiscard k ((.discardFile k.file, .done) :: log) = [] :=
      List.takeWhile_cons_of_neg (by rw [discards, beq_self_eq_true]; exact Bool.false_ne_true)
    rw [hnil, Pool.pinCount_of_frame?_none hout]
    rfl

end Steps

section Runs

variable {k : PageKey} {s : Store} {log : List (PoolCall × PoolReply)}

/-- **A page that is minded lies in its file, and its pins add up**, at any time of a run. -/
theorem PoolRun.inside (h : PoolRun (Minds k) log s) : s.Inside k ∧ PinsAddUp k log s := by
  induction h with
  | start disk capacity limit => exact ⟨fun hframe => absurd rfl hframe, rfl⟩
  | @returned _ s s' call r h hminds hrun ih =>
    obtain ⟨hgoes, hstep⟩ := (call.ends_run_page h.tidy k).of_ok hrun
    exact ⟨hstep.inside ih.1 h.tidy hgoes hminds, hstep.pinsAddUp ih.2 ih.1⟩
  | @failed _ s s' call e h hminds hrun ih =>
    obtain ⟨-, hpassed | ⟨file, rfl, hclosed⟩⟩ := (call.ends_run_page h.tidy k).of_error hrun
    · exact ⟨ih.1.passed hpassed, by rw [PinsAddUp, hpassed.pinCount_eq]; exact ih.2⟩
    · rw [Minds, hclosed] at hminds
      cases hminds
  | wrote _ f b ih => exact ih
  | @opened _ s s' path handle h hrun ih =>
    obtain rfl | ⟨place, i, -, -, rfl⟩ := Store.of_openFile hrun
    · exact ih
    · refine ⟨fun hframe => ?_, ih.2⟩
      obtain ⟨hissued, hinside⟩ := ih.1 hframe
      refine ⟨Nat.lt_succ_of_lt hissued, fun o ho => hinside o ?_⟩
      -- the page has a handle that was given out before
      exact (FileTable.byHandle?_add.trans (if_neg (Nat.ne_of_lt hissued))).symm.trans ho
  | @closed _ s s' handle h hrun ih =>
    rw [Store.of_closeFile hrun]
    refine ⟨fun hframe => ⟨(ih.1 hframe).1, fun o ho => (ih.1 hframe).2 o ?_⟩, ih.2⟩
    have herase : (s.files.table.erase handle).byHandle? k.file = some o := ho
    rw [FileTable.byHandle?_erase] at herase
    split at herase
    · cases herase
    · exact herase

/-- **A new page replaces no page that is buffered** if that page was fetched only where it lay
in its file. Its pins are then those that were taken and not given back since its file was
last discarded. -/
theorem new_page_replaces_nothing (h : PoolRun (Minds k) log s) :
    s.pool.pinCount k + (sinceDiscard k log).countP (gives k) =
        (sinceDiscard k log).countP (takes k) ∧
      ∀ file f s', (PoolCall.newPage file).run s = .ok (.pinned k f) s' →
        s.pool.frame? k = none ∧ s'.pool.pinCount k = 1 := by
  obtain ⟨hinside, hsum⟩ := h.inside
  refine ⟨hsum, fun file f s' hrun => ?_⟩
  obtain ⟨-, hstep⟩ := ((PoolCall.newPage file).ends_run_page h.tidy k).of_ok hrun
  refine ⟨hstep.not_buffered hinside, ?_⟩
  cases hstep with
  | passed htakes =>
    rw [takes_pinned_self] at htakes
    cases htakes
  | made _ _ _ hpins => exact hpins

/-! ## One file of one page -/

/-- A store with two frames, in which a file of one page of zeros is open. -/
def openedFile : Store :=
  (Store.ofDisk oneFile 2 1).withTable (({ limit := 1 } : FileTable).add (Disk.home ++ ["f"]) 0)

theorem openedFile_run (may : Store → PoolCall → Prop) : PoolRun may [] openedFile := by
  have hrun : Store.onFiles (Files.openFile ⟨["f"]⟩) (Store.ofDisk oneFile 2 1) =
      .ok 0 openedFile := rfl
  exact .opened (.start oneFile 2 1) hrun

/-- The page of the file after it was fetched, -/
def onceFetched : Store := stateAfter (PoolCall.fetch ⟨0, 0⟩).run openedFile

/-- after it was fetched once more, -/
def twiceFetched : Store := stateAfter (PoolCall.fetch ⟨0, 0⟩).run onceFetched

/-- after one of the pins was given back, -/
def onceReturned : Store := stateAfter (PoolCall.unpin ⟨⟨0, 0⟩, 0, false⟩ false).run twiceFetched

/-- and after a second page was made. -/
def secondMade : Store := stateAfter (PoolCall.newPage 0).run onceReturned

/-- Whichever page is minded, the page of the file may be fetched. -/
theorem onceReturned_run (k : PageKey) : PoolRun (Minds k)
    [(.unpin ⟨⟨0, 0⟩, 0, false⟩ false, .done), (.fetch ⟨0, 0⟩, .pinned ⟨0, 0⟩ 0),
      (.fetch ⟨0, 0⟩, .pinned ⟨0, 0⟩ 0)] onceReturned := by
  have hfetch : (PoolCall.fetch ⟨0, 0⟩).run openedFile = .ok (.pinned ⟨0, 0⟩ 0) onceFetched := rfl
  have hagain : (PoolCall.fetch ⟨0, 0⟩).run onceFetched = .ok (.pinned ⟨0, 0⟩ 0) twiceFetched := rfl
  have hback : (PoolCall.unpin ⟨⟨0, 0⟩, 0, false⟩ false).run twiceFetched =
      .ok .done onceReturned := rfl
  have hminds : (PoolCall.fetch ⟨0, 0⟩).Minds k openedFile := by
    rintro rfl o ho
    cases ho
    decide
  have hminds' : (PoolCall.fetch ⟨0, 0⟩).Minds k onceFetched := by
    rintro rfl o ho
    cases ho
    decide
  exact (((openedFile_run _).returned hminds hfetch).returned hminds' hagain).returned trivial hback

/-- Of two pins of the first page one is left. The second page is new, was not buffered before,
and has the two pins that were taken of it when it has been fetched as well. -/
theorem new_page_replaces_nothing_onceReturned :
    onceReturned.pool.pinCount ⟨0, 0⟩ + 1 = 2 ∧
      (PoolCall.newPage 0).run onceReturned = .ok (.pinned ⟨0, 1⟩ 1) secondMade ∧
      onceReturned.pool.frame? ⟨0, 1⟩ = none ∧ secondMade.pool.pinCount ⟨0, 1⟩ = 1 ∧
      ∃ s, (PoolCall.fetch ⟨0, 1⟩).run secondMade = .ok (.pinned ⟨0, 1⟩ 1) s ∧
        s.pool.pinCount ⟨0, 1⟩ = 2 := by
  have hnew : (PoolCall.newPage 0).run onceReturned = .ok (.pinned ⟨0, 1⟩ 1) secondMade := rfl
  have hfetch : (PoolCall.fetch ⟨0, 1⟩).run secondMade =
      .ok (.pinned ⟨0, 1⟩ 1) (stateAfter (PoolCall.fetch ⟨0, 1⟩).run secondMade) := rfl
  have hmakes : (PoolCall.newPage 0).Minds ⟨0, 1⟩ onceReturned := trivial
  have hminds : (PoolCall.fetch ⟨0, 1⟩).Minds ⟨0, 1⟩ secondMade := by
    rintro - o ho
    cases ho
    decide
  obtain ⟨hout, hpin⟩ := (new_page_replaces_nothing (onceReturned_run ⟨0, 1⟩)).2 0 1 _ hnew
  have hrun := ((onceReturned_run ⟨0, 1⟩).returned hmakes hnew).returned hminds hfetch
  exact ⟨(new_page_replaces_nothing (onceReturned_run ⟨0, 0⟩)).1, hnew, hout, hpin, _, hfetch,
    (new_page_replaces_nothing hrun).1⟩

/-- The page behind the end of the file after it was fetched, -/
def fetchedBehind : Store := stateAfter (PoolCall.fetch ⟨0, 1⟩).run openedFile

/-- after a byte was written to its frame, -/
def wroteBehind : Store :=
  { fetchedBehind with
    frames := fetchedBehind.frames.setIfInBounds 0 ((Buffer.zero blockSize).set 0 7 blockSize_pos) }

/-- and after it was reported dirty. -/
def dirtyBehind : Store := stateAfter (PoolCall.markDirty ⟨0, 1⟩).run wroteBehind

/-- **A page that was fetched behind the end of its file is replaced when it is made.** It has
one pin before and one pin after, though two were taken; and the byte that was written to it
is gone. -/
theorem new_page_forgets_fetched :
    ∃ log s s' f f', PoolRun (fun _ _ => True) log s ∧
      (PoolCall.newPage 0).run s = .ok (.pinned ⟨0, 1⟩ f') s' ∧
      s.pool.pinCount ⟨0, 1⟩ = 1 ∧ s'.pool.pinCount ⟨0, 1⟩ = 1 ∧
      ¬PinsAddUp ⟨0, 1⟩ ((.newPage 0, .pinned ⟨0, 1⟩ f') :: log) s' ∧
      s.pool.frame? ⟨0, 1⟩ = some f ∧ s.pool.isDirty ⟨0, 1⟩ = true ∧ (s.frame f)[0] = 7 ∧
      s'.pool.frame? ⟨0, 1⟩ = some f' ∧ (s'.frame f')[0] = 0 := by
  have hfetch : (PoolCall.fetch ⟨0, 1⟩).run openedFile = .ok (.pinned ⟨0, 1⟩ 0) fetchedBehind :=
    rfl
  have hmark : (PoolCall.markDirty ⟨0, 1⟩).run wroteBehind = .ok .done dirtyBehind := rfl
  have hfetched := (openedFile_run fun _ _ => True).returned trivial hfetch
  have hdirty := (hfetched.wrote 0 ((Buffer.zero blockSize).set 0 7)).returned trivial hmark
  refine ⟨_, _, _, 0, 1, hdirty, rfl, rfl, rfl, ?_, rfl, rfl, ?_, rfl, ?_⟩
  · unfold PinsAddUp
    decide
  · exact Vector.getElem_set_self _
  · exact Image.getElem_zero _

end Runs

end SlottedFile
