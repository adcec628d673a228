import Mathlib.Data.Finset.Card
import Mathlib.Data.List.Find
import SlottedFile.Proofs.Disk
import SlottedFile.Proofs.HandleMaps
import SlottedFile.Proofs.PageArray

/-!
# The table of open files

A table of open files keeps one map from handles to open files and another from places to
handles. No call that opens, closes or removes a file does anything to the one that it does not
do to the other (`FileTable.Moved.changed`), so that the two stay inverse to each other over
every run that begins with nothing open. That is an invariant of the runs and not of the
tables: the calls look a file up in one map and take it out of both.

That no handle is given out a second time rests on a number that only grows. What is on the
disk has nothing to do with either, and nothing is assumed of it: between any two calls it may
become any other disk (`TableRun.meanwhile`).
-/

namespace SlottedFile

/-! ## What holds of every table -/

namespace FileTable

variable {t : FileTable}

/-- **What every run keeps of a table**: its maps are inverse to each other, no handle is
entered twice, and no more files are open than may be. -/
structure Keeps (t : FileTable) : Prop extends t.Sound where
  handles : (t.opened.map (·.handle)).Nodup
  within : t.Within

namespace Keeps

theorem empty (limit : Nat) : Keeps { limit } :=
  ⟨.empty limit, List.nodup_nil, Nat.zero_le _⟩

variable (ht : t.Keeps)

include ht

/-- A file that is entered under a new place. -/
theorem add {place : Place} (hplace : t.handleAt? place = none)
    (hroom : t.opened.length < t.limit) (i : ImageId) : (t.add place i).Keeps where
  toSound := ht.toSound.add hplace i
  handles := by
    refine List.nodup_cons.mpr ⟨fun hmem => ?_, ht.handles⟩
    obtain ⟨o, ho, heq⟩ := List.mem_map.mp hmem
    exact absurd heq (Nat.ne_of_lt (ht.handle_lt o ho))
  within := hroom

theorem erase (h : Nat) : (t.erase h).Keeps where
  toSound := ht.toSound.erase h
  handles := ht.handles.sublist (List.filter_sublist.map _)
  within := ht.within.erase h

end Keeps

/-! ## What one call does to a table -/

/-- **A table after a call**: it is as it was, or has one file more or less. -/
inductive Moved (t : FileTable) : FileTable → Prop
  | same : Moved t t
  | added {place : Place} {i : ImageId} (hplace : t.handleAt? place = none)
      (hroom : t.opened.length < t.limit) : Moved t (t.add place i)
  | erased {h : Nat} {o : OpenFile} (ho : t.byHandle? h = some o) : Moved t (t.erase h)

namespace Moved

variable {t' : FileTable} (h : t.Moved t')

include h

theorem limit_eq : t'.limit = t.limit := by
  cases h <;> rfl

theorem next_le : t.next ≤ t'.next := by
  cases h with
  | added _ _ => exact Nat.le_succ _
  | _ => exact Nat.le_refl _

theorem keeps (ht : t.Keeps) : t'.Keeps := by
  cases h with
  | same => exact ht
  | added hplace hroom => exact ht.add hplace hroom _
  | erased _ => exact ht.erase _

/-- **Both maps change alike.** -/
theorem changed (ht : t.Keeps) : t.maps.Changed t'.maps := by
  cases h with
  | same => exact .same
  | @added place i hplace _ =>
    rw [maps_add]
    exact .inserted _ ht.byHandle?_next hplace
  | @erased h o ho =>
    rw [maps_erase ho]
    refine .removed o ?_
    rw [(mem_of_byHandle? ho).2]
    exact ho

/-- **A handle that was given out and is not open** is not opened again. -/
theorem byHandle?_eq_none {handle : Nat} (hlt : handle < t.next)
    (hclosed : t.byHandle? handle = none) : t'.byHandle? handle = none := by
  cases h with
  | same => exact hclosed
  | added _ _ => rw [byHandle?_add, if_neg (Nat.ne_of_lt hlt), hclosed]
  | erased _ => rw [byHandle?_erase, hclosed, ite_self]

end Moved

end FileTable

namespace Files

variable {fs fs' : Files}

/-- The table after a path was removed: if a file is open at the path, it is closed. -/
def tableRemoved (fs : Files) (path : Path) : FileTable :=
  match fs.disk.canonical path with
  | .ok place => fs.table.without place
  | .error _ => fs.table

/-- **A path is removed from the table before it is removed from the disk**, so that it does
not matter whether the latter succeeds. -/
theorem ends_removeFile_table (fs : Files) (path : Path) :
    Ends (removeFile path) fs (fun _ fs' => fs'.table = fs.tableRemoved path)
      (fun _ fs' => fs'.table = fs.tableRemoved path) := by
  have hdisk : ∀ t, Ends (onDisk (Disk.removeFile path)) { fs with table := t }
      (fun _ fs' => fs'.table = t) (fun _ fs' => fs'.table = t) := by
    intro t
    rw [ends_onDisk]
    unfold Ends
    cases Disk.removeFile path fs.disk <;> rfl
  unfold removeFile tableRemoved FileTable.without
  rw [ends_bind, ends_get]
  cases fs.disk.canonical path with
  | error e => exact hdisk fs.table
  | ok place =>
    dsimp only
    rw [ends_bind, ends_get]
    cases fs.table.handleAt? place with
    | none => exact hdisk fs.table
    | some h =>
      dsimp only [Option.elim]
      rw [ends_bind, ends_closeFile]
      exact ⟨fun _ => hdisk _, fun hclosed => (FileTable.erase_of_closed hclosed).symm⟩

theorem moved_tableRemoved (fs : Files) (path : Path) : fs.table.Moved (fs.tableRemoved path) := by
  unfold tableRemoved FileTable.without
  cases fs.disk.canonical path with
  | error e => exact .same
  | ok place =>
    dsimp only
    cases fs.table.handleAt? place with
    | none => exact .same
    | some h =>
      dsimp only [Option.elim]
      cases ho : fs.table.byHandle? h with
      | none =>
        rw [FileTable.erase_of_closed ho]
        exact .same
      | some o => exact .erased ho

end Files

/-- **A call on a table.** -/
inductive TableCall where
  | createFile (path : Path)
  | openFile (path : Path)
  | closeFile (handle : Nat)
  | removeFile (path : Path)

/-- **What a call gives back.** -/
inductive TableReply where
  | handle (h : Nat)
  | done

namespace TableCall

/-- Make a call. -/
def run : TableCall → FilesM TableReply
  | createFile path => do
    Files.createFile path
    return .done
  | openFile path => do return .handle (← Files.openFile path)
  | closeFile handle => do
    Files.closeFile handle
    return .done
  | removeFile path => do
    Files.removeFile path
    return .done

/-- **Whether a call that returned has given out a handle**, and which: the one that the file
had, or the next. -/
inductive GivesOut (t t' : FileTable) : TableCall → TableReply → Prop
  | nothing {call : TableCall} (hnext : t'.next = t.next) : GivesOut t t' call .done
  | again {path : Path} {h : Nat} (hlt : h < t.next) (hnext : t'.next = t.next) :
      GivesOut t t' (.openFile path) (.handle h)
  | fresh {path : Path} (hnext : t'.next = t.next + 1) :
      GivesOut t t' (.openFile path) (.handle t.next)

/-- **The step lemma.** -/
theorem ends_run {fs : Files} (ht : fs.table.Keeps) (call : TableCall) :
    Ends call.run fs
      (fun r fs' => fs.table.Moved fs'.table ∧ GivesOut fs.table fs'.table call r)
      (fun _ fs' => fs.table.Moved fs'.table ∧ fs'.table.next = fs.table.next) := by
  cases call with
  | createFile path =>
    refine ends_bind.mpr ((Files.ends_createFile fs path).imp ?_ ?_)
    · rintro _ fs' ⟨htable, -⟩
      exact ⟨htable ▸ .same, .nothing (congrArg FileTable.next htable)⟩
    · rintro _ fs' ⟨htable, -⟩
      exact ⟨htable ▸ .same, congrArg FileTable.next htable⟩
  | openFile path =>
    refine ends_bind.mpr ((Files.ends_openFile fs path).imp ?_ ?_)
    · rintro _ _ ⟨place, -, ⟨hopen, rfl⟩ | ⟨i, hplace, -, hroom, rfl, rfl⟩⟩
      · obtain ⟨o, hmem, rfl, -⟩ := ht.handleAt?_eq_some_iff.mp hopen
        exact ⟨.same, .again (ht.handle_lt o hmem) rfl⟩
      · exact ⟨.added hplace hroom, .fresh rfl⟩
    · rintro _ _ ⟨rfl, -⟩
      exact ⟨.same, rfl⟩
  | closeFile handle =>
    refine ends_bind.mpr (Files.ends_closeFile.mpr ⟨fun hsome => ?_, fun _ => ⟨.same, rfl⟩⟩)
    obtain ⟨o, ho⟩ := Option.isSome_iff_exists.mp hsome
    exact ⟨.erased ho, .nothing rfl⟩
  | removeFile path =>
    have hmoved := fs.moved_tableRemoved path
    have hnext : (fs.tableRemoved path).next = fs.table.next := by
      unfold Files.tableRemoved
      split
      · exact FileTable.next_without _
      · rfl
    refine ends_bind.mpr ((Files.ends_removeFile_table fs path).imp ?_ ?_)
    · exact fun _ fs' htable => ⟨htable ▸ hmoved, .nothing (htable ▸ hnext)⟩
    · exact fun _ fs' htable => ⟨htable ▸ hmoved, htable ▸ hnext⟩

end TableCall

/-! ## Handles that are not open -/

/-- A call that is refused for no other reason than its handle: its buffer is a page, its page
number is small, and its header fits. -/
def FileCall.Sized : FileCall → Prop
  | readPage page n | writePage page n _ => n = blockSize ∧ page < 0x40000000
  | writeHeader bytes => bytes.length ≤ blockSize
  | _ => True

/-- **A handle that nothing can be done with.** -/
def Files.Refuses (fs : Files) (handle : Nat) : Prop :=
  (∀ call : FileCall, call.Sized →
    call.run handle fs = .error (.error (.invalidHandle handle)) fs) ∧
  Files.syncFile handle fs = .error (.error (.invalidHandle handle)) fs ∧
  Files.closeFile handle fs = .error (.error (.invalidHandle handle)) fs

/-- **A handle that is not open is refused by every call.** -/
theorem Files.refuses_of_closed {fs : Files} {handle : Nat}
    (hclosed : fs.table.byHandle? handle = none) : fs.Refuses handle := by
  have hopened : opened handle fs = .error (.error (.invalidHandle handle)) fs :=
    Ends.eq_error (ends_opened.mpr ⟨fun o ho => absurd (ho.symm.trans hclosed) nofun,
      fun _ => ⟨rfl, rfl⟩⟩)
  have hread : ∀ k,
      readBlock handle k blockSize fs = .error (.error (.invalidHandle handle)) fs := by
    intro k
    refine Ends.eq_error ?_
    unfold readBlock
    rw [dif_pos rfl, ends_bind, ends_of_error hopened]
    exact ⟨rfl, rfl⟩
  have hwrite : ∀ k (b : Block),
      writeBlock handle k b fs = .error (.error (.invalidHandle handle)) fs := by
    intro k b
    refine Ends.eq_error ?_
    unfold writeBlock
    rw [dif_pos rfl, ends_bind, ends_of_error hopened]
    exact ⟨rfl, rfl⟩
  have hsmall : ∀ {page}, page < 0x40000000 → page + 1 < wordLimit := by
    intro page hpage
    have hlimit : wordLimit = 18446744073709551616 := rfl
    omega
  refine ⟨fun call hsized => Ends.eq_error ?_, Ends.eq_error ?_, Ends.eq_error ?_⟩
  · cases call with
    | readPage page n =>
      obtain ⟨rfl, hpage⟩ := hsized
      refine ends_bind.mpr (ends_bind.mpr (ends_pageBlock.mpr ⟨fun _ => ?_, fun hfar => ?_⟩))
      · exact (ends_of_error (hread _)).mpr ⟨rfl, rfl⟩
      · exact absurd (hsmall hpage) (Nat.not_lt.2 hfar)
    | writePage page n data =>
      obtain ⟨rfl, hpage⟩ := hsized
      refine ends_bind.mpr (ends_bind.mpr (ends_pageBlock.mpr ⟨fun _ => ?_, fun hfar => ?_⟩))
      · exact (ends_of_error (hwrite _ data)).mpr ⟨rfl, rfl⟩
      · exact absurd (hsmall hpage) (Nat.not_lt.2 hfar)
    | readHeader => exact ends_bind.mpr ((ends_of_error (hread 0)).mpr ⟨rfl, rfl⟩)
    | writeHeader bytes =>
      exact ends_bind.mpr ((ends_writeHeader_of_closed hclosed hsized).imp (fun _ _ h => h.elim)
        fun _ _ h => h)
    | allocate =>
      exact ends_bind.mpr (ends_bind.mpr (ends_pageCount.mpr
        ⟨fun o ho => absurd (ho.symm.trans hclosed) nofun, fun _ => ⟨rfl, rfl⟩⟩))
    | truncate pages =>
      exact ends_bind.mpr (ends_bind.mpr ((ends_of_error hopened).mpr ⟨rfl, rfl⟩))
    | count =>
      exact ends_bind.mpr (ends_pageCount.mpr
        ⟨fun o ho => absurd (ho.symm.trans hclosed) nofun, fun _ => ⟨rfl, rfl⟩⟩)
  · exact ends_bind.mpr ((ends_of_error hopened).mpr ⟨rfl, rfl⟩)
  · exact ends_bind.mpr ((ends_of_error hopened).mpr ⟨rfl, rfl⟩)

/-! ## Runs -/

/-- **A run of the four calls**: those that returned, the latest first, and the files behind
them. Between two calls the disk may become any other. -/
inductive TableRun (fs₀ : Files) : List (TableCall × TableReply) → Files → Prop
  | start : TableRun fs₀ [] fs₀
  | returned {log : List (TableCall × TableReply)} {fs fs' : Files} {call : TableCall}
      {r : TableReply} (h : TableRun fs₀ log fs) (hrun : call.run fs = .ok r fs') :
      TableRun fs₀ ((call, r) :: log) fs'
  | failed {log : List (TableCall × TableReply)} {fs fs' : Files} {call : TableCall}
      {e : Fault FileError} (h : TableRun fs₀ log fs) (hrun : call.run fs = .error e fs') :
      TableRun fs₀ log fs'
  | meanwhile {log : List (TableCall × TableReply)} {fs : Files} (h : TableRun fs₀ log fs)
      (disk : Disk) : TableRun fs₀ log { fs with disk }

/-- **The handles that were given out.** -/
def Issued (log : List (TableCall × TableReply)) (handle : Nat) : Prop :=
  ∃ path, (TableCall.openFile path, TableReply.handle handle) ∈ log

/-- What was given out before a call, and by it. -/
theorem TableCall.GivesOut.issued_iff {t t' : FileTable} {call : TableCall} {r : TableReply}
    (h : GivesOut t t' call r) {log : List (TableCall × TableReply)}
    (hlog : ∀ handle, Issued log handle ↔ handle < t.next) (handle : Nat) :
    Issued ((call, r) :: log) handle ↔ handle < t'.next := by
  have hcons : Issued ((call, r) :: log) handle ↔
      (∃ path, (TableCall.openFile path, TableReply.handle handle) = (call, r)) ∨
        handle < t.next := by
    unfold Issued
    simp only [List.mem_cons, exists_or]
    exact or_congr_right (hlog handle)
  rw [hcons]
  cases h with
  | nothing hnext =>
    rw [hnext]
    exact or_iff_right fun ⟨_, heq⟩ => nomatch heq
  | @again path h hlt hnext =>
    rw [hnext]
    refine or_iff_right_of_imp ?_
    rintro ⟨_, heq⟩
    cases heq
    exact hlt
  | @fresh path hnext =>
    rw [hnext, Nat.lt_succ_iff_lt_or_eq, or_comm]
    refine or_congr_right ⟨?_, ?_⟩
    · rintro ⟨_, heq⟩
      cases heq
      rfl
    · rintro rfl
      exact ⟨path, rfl⟩

namespace TableRun

variable {fs₀ fs : Files} {log : List (TableCall × TableReply)}

/-- **What every run keeps to**: the table is in order, it has the limit that it had, and a
handle that was not open at the start, but given out before, is not open. -/
structure Kept (fs₀ fs : Files) : Prop where
  keeps : fs.table.Keeps
  limit_eq : fs.table.limit = fs₀.table.limit
  next_le : fs₀.table.next ≤ fs.table.next
  closed : ∀ handle, handle < fs₀.table.next → fs₀.table.byHandle? handle = none →
    fs.table.byHandle? handle = none

theorem Kept.moved {fs' : Files} (h : Kept fs₀ fs) (hmoved : fs.table.Moved fs'.table) :
    Kept fs₀ fs' where
  keeps := hmoved.keeps h.keeps
  limit_eq := hmoved.limit_eq.trans h.limit_eq
  next_le := Nat.le_trans h.next_le hmoved.next_le
  closed := fun handle hlt hclosed =>
    hmoved.byHandle?_eq_none (Nat.lt_of_lt_of_le hlt h.next_le) (h.closed handle hlt hclosed)

/-- **The run lemma.** -/
theorem kept (hkeeps : fs₀.table.Keeps) (h : TableRun fs₀ log fs) : Kept fs₀ fs := by
  induction h with
  | start => exact ⟨hkeeps, rfl, Nat.le_refl _, fun _ _ h => h⟩
  | @returned _ _ _ call _ _ hrun ih => exact ih.moved ((call.ends_run ih.keeps).of_ok hrun).1
  | @failed _ _ _ call _ _ hrun ih => exact ih.moved ((call.ends_run ih.keeps).of_error hrun).1
  | meanwhile _ disk ih => exact ⟨ih.keeps, ih.limit_eq, ih.next_le, ih.closed⟩

variable {disk : Disk} {limit : Nat}

theorem kept_empty (h : TableRun ⟨disk, { limit }⟩ log fs) : Kept ⟨disk, { limit }⟩ fs :=
  h.kept (.empty limit)

/-- **The handles below the next one are those that were given out.** -/
theorem issued_iff (h : TableRun ⟨disk, { limit }⟩ log fs) (handle : Nat) :
    Issued log handle ↔ handle < fs.table.next := by
  induction h generalizing handle with
  | start => exact iff_of_false (fun ⟨_, hmem⟩ => nomatch hmem) (Nat.not_lt_zero _)
  | @returned _ _ _ call _ h hrun ih =>
    exact ((call.ends_run h.kept_empty.keeps).of_ok hrun).2.issued_iff ih handle
  | @failed _ _ _ call _ h hrun ih =>
    rw [((call.ends_run h.kept_empty.keeps).of_error hrun).2]
    exact ih handle
  | meanwhile _ _ ih => exact ih handle

end TableRun

/-! ## What a call finds and leaves -/

/-- The open handles are as many as the open files. -/
theorem FileTable.Keeps.exists_handles {t : FileTable} (ht : t.Keeps) :
    ∃ handles : Finset Nat, (∀ handle, handle ∈ handles ↔ (t.maps.openFiles handle).isSome) ∧
      handles.card = t.opened.length := by
  refine ⟨(t.opened.map (·.handle)).toFinset, fun handle => ?_, ?_⟩
  · show _ ↔ (t.byHandle? handle).isSome
    rw [List.mem_toFinset, List.mem_map, FileTable.byHandle?, List.find?_isSome]
    simp only [beq_iff_eq]
  · rw [List.toFinset_card_of_nodup ht.handles, List.length_map]

/-- **Opening gives an old handle or a new one.** -/
theorem TableRun.ends_openFile {disk : Disk} {limit : Nat} {fs : Files}
    {log : List (TableCall × TableReply)} (h : TableRun ⟨disk, { limit }⟩ log fs) (path : Path) :
    Ends (Files.openFile path) fs
      (fun handle fs' => ∃ place, fs.disk.canonical path = .ok place ∧
        fs'.table.maps.pathToHandle place = some handle ∧
        (Issued log handle ↔ (fs.table.maps.pathToHandle place).isSome) ∧
        ((fs.table.maps.pathToHandle place).isSome → fs' = fs))
      (fun _ fs' => fs' = fs) := by
  have hkeeps := h.kept_empty.keeps
  refine (Files.ends_openFile fs path).imp ?_ fun _ _ herror => herror.1
  rintro _ _ ⟨place, hplace, ⟨hopen, rfl⟩ | ⟨i, hnone, -, -, rfl, rfl⟩⟩
  · obtain ⟨o, hmem, rfl, -⟩ := hkeeps.handleAt?_eq_some_iff.mp hopen
    refine ⟨place, hplace, hopen, iff_of_true ?_ ?_, fun _ => rfl⟩
    · exact (h.issued_iff _).mpr (hkeeps.handle_lt o hmem)
    · exact Option.isSome_of_eq_some hopen
  · have hnot : ¬(fs.table.maps.pathToHandle place).isSome := by
      show ¬(fs.table.handleAt? place).isSome
      rw [hnone]
      exact Bool.false_ne_true
    refine ⟨place, hplace, ?_, iff_of_false ?_ hnot, fun hsome => absurd hsome hnot⟩
    · show (fs.table.add place i).maps.pathToHandle place = _
      rw [FileTable.maps_add]
      exact Function.update_self place _ _
    · rw [h.issued_iff]
      exact Nat.lt_irrefl _

/-- A handle that was closed is not open, -/
theorem Files.closed_of_closeFile (fs : Files) (handle : Nat) :
    (stateAfter (closeFile handle) fs).table.maps.openFiles handle = none := by
  have hends : Ends (closeFile handle) fs (fun _ fs' => fs'.table.byHandle? handle = none)
      (fun _ fs' => fs'.table.byHandle? handle = none) :=
    ends_closeFile.mpr ⟨fun _ => FileTable.byHandle?_erase.trans (if_pos rfl), fun h => h⟩
  exact hends.stateAfter (P := fun fs' : Files => fs'.table.byHandle? handle = none)

/-- nor is one whose path was removed. -/
theorem Files.closed_of_removeFile {fs : Files} {path : Path} {place : Place} {handle : Nat}
    (hplace : fs.disk.canonical path = .ok place)
    (hhandle : fs.table.maps.pathToHandle place = some handle) :
    (stateAfter (removeFile path) fs).table.maps.openFiles handle = none := by
  have htable : (stateAfter (removeFile path) fs).table = fs.tableRemoved path :=
    (ends_removeFile_table fs path).stateAfter
      (P := fun fs' : Files => fs'.table = fs.tableRemoved path)
  have hhandle : fs.table.handleAt? place = some handle := hhandle
  show (stateAfter (removeFile path) fs).table.byHandle? handle = none
  rw [htable, tableRemoved, hplace]
  dsimp only [FileTable.without]
  rw [hhandle]
  exact FileTable.byHandle?_erase.trans (if_pos rfl)

/-- **The table of open files is a bijection, and handles are not used again.** In every run of
the four calls on files of which none is open at first, with any limit, and whatever becomes of
the disk meanwhile: the two maps are inverse to each other, and change alike in every call; no
two handles have one place; no more files are open than may be. Opening gives a handle that was
given out before if and only if the place is open, and then that one, and changes nothing if it
fails. A handle that is closed, or whose path is removed, is refused by every call for the rest
of the run. -/
theorem handles_are_not_used_again {disk : Disk} {limit : Nat} {fs : Files}
    {log : List (TableCall × TableReply)} (h : TableRun ⟨disk, { limit }⟩ log fs) :
    (∀ place handle, fs.table.maps.pathToHandle place = some handle ↔
      ∃ o, fs.table.maps.openFiles handle = some o ∧ o.place = place) ∧
    (∀ handle handle' o o', fs.table.maps.openFiles handle = some o →
      fs.table.maps.openFiles handle' = some o' → o.place = o'.place → handle = handle') ∧
    (∃ handles : Finset Nat, (∀ handle, handle ∈ handles ↔
      (fs.table.maps.openFiles handle).isSome) ∧ handles.card = fs.openCount ∧
        fs.openCount ≤ limit) ∧
    (∀ call : TableCall, fs.table.maps.Changed (stateAfter call.run fs).table.maps) ∧
    (∀ path, Ends (Files.openFile path) fs
      (fun handle fs' => ∃ place, fs.disk.canonical path = .ok place ∧
        fs'.table.maps.pathToHandle place = some handle ∧
        (Issued log handle ↔ (fs.table.maps.pathToHandle place).isSome) ∧
        ((fs.table.maps.pathToHandle place).isSome → fs' = fs))
      (fun _ fs' => fs' = fs)) ∧
    (∀ handle, (fs.table.maps.openFiles handle).isSome → Issued log handle ∧
      (stateAfter (Files.closeFile handle) fs).table.maps.openFiles handle = none) ∧
    (∀ path place handle, fs.disk.canonical path = .ok place →
      fs.table.maps.pathToHandle place = some handle →
      (stateAfter (Files.removeFile path) fs).table.maps.openFiles handle = none) ∧
    ∀ handle, Issued log handle → fs.table.maps.openFiles handle = none →
      ∀ later fs', TableRun fs later fs' → fs'.Refuses handle := by
  have hkept := h.kept_empty
  refine ⟨hkept.keeps.inverse.place_iff, fun _ _ _ _ => hkept.keeps.inverse.handle_unique, ?_,
    fun call => ?_, h.ends_openFile, fun handle hsome => ?_, fun _ _ _ => Files.closed_of_removeFile,
    fun handle hissued hclosed later fs' hlater => ?_⟩
  · obtain ⟨handles, hmem, hcard⟩ := hkept.keeps.exists_handles
    exact ⟨handles, hmem, hcard, Nat.le_trans hkept.keeps.within (Nat.le_of_eq hkept.limit_eq)⟩
  · exact ((call.ends_run hkept.keeps).imp (fun _ _ hstep => hstep.1.changed hkept.keeps)
      fun _ _ hstep => hstep.1.changed hkept.keeps).stateAfter
        (P := fun fs' : Files => fs.table.maps.Changed fs'.table.maps)
  · obtain ⟨o, ho⟩ := Option.isSome_iff_exists.mp hsome
    exact ⟨(h.issued_iff handle).mpr (hkept.keeps.lt_next ho), fs.closed_of_closeFile handle⟩
  · have hlater := hlater.kept hkept.keeps
    exact Files.refuses_of_closed (hlater.closed handle ((h.issued_iff handle).mp hissued) hclosed)

/-- A file that is opened, closed and opened again has another handle, and the first one is
refused. -/
theorem handles_are_not_used_again_oneFile :
    ∃ fs fs', Files.openFile ⟨["f"]⟩ ⟨oneFile, { limit := 1 }⟩ = .ok 0 fs ∧
      Files.closeFile 0 fs = .ok () fs' ∧ answer (Files.openFile ⟨["f"]⟩) fs' = .ok 1 ∧
      (stateAfter (Files.openFile ⟨["f"]⟩) fs').Refuses 0 := by
  set fs := stateAfter (Files.openFile ⟨["f"]⟩) ⟨oneFile, { limit := 1 }⟩
  set fs' := stateAfter (Files.closeFile 0) fs
  have hopen : (TableCall.openFile ⟨["f"]⟩).run ⟨oneFile, { limit := 1 }⟩ =
    .ok (.handle 0) fs := rfl
  have hclose : (TableCall.closeFile 0).run fs = .ok .done fs' := rfl
  have hagain : (TableCall.openFile ⟨["f"]⟩).run fs' =
    .ok (.handle 1) (stateAfter (Files.openFile ⟨["f"]⟩) fs') := rfl
  have hrun : TableRun ⟨oneFile, { limit := 1 }⟩ _ fs' :=
    (TableRun.start.returned hopen).returned hclose
  obtain ⟨-, -, -, -, -, -, -, hrefuses⟩ := handles_are_not_used_again hrun
  refine ⟨fs, fs', rfl, rfl, rfl, ?_⟩
  exact hrefuses 0 ⟨_, .tail _ (.head _)⟩ rfl _ _ (TableRun.start.returned hagain)

end SlottedFile
