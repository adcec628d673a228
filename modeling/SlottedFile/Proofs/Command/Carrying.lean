import SlottedFile.Proofs.Command.Answers
import SlottedFile.Proofs.Records.Inspection

/-!
# Commands on a file that is there

Each command on a file that the disk carries answers as the keyed store in it does, and
leaves what the answer says (`Invocation.leaves`). A command that changes the file closes it
before it prints anything, so that what is printed has been written. One that fails prints
nothing: the file is left open, and as it was.

A report can always be shown, whatever is in the file: its numbers have a width, and there
are not so many records that their number would overrun.
-/

namespace SlottedFile

/-! ## Operations of the keyed store -/

namespace KeyedStore

variable {k : KeyedStore} {id : RecordId}

theorem exists_of_checkLive (hfree : k.isLive id = false) : ∃ e, checkLive id k = .error e k := by
  rcases Nat.lt_or_ge id.page k.pages with hpage | hpage
  · exact ⟨_, checkLive_of_free hpage hfree⟩
  · exact ⟨_, checkLive_of_le hpage⟩

/-- What is not there can neither be read -/
theorem exists_of_get (hfree : k.isLive id = false) : ∃ e, get id k = .error e k := by
  obtain ⟨e, he⟩ := exists_of_checkLive hfree
  exact ⟨e, bind_of_error he⟩

/-- nor deleted. -/
theorem exists_of_delete (hfree : k.isLive id = false) : ∃ e, delete id k = .error e k := by
  obtain ⟨e, he⟩ := exists_of_checkLive hfree
  exact ⟨e, bind_of_error he⟩

end KeyedStore

/-- **A record of the right length is inserted where there was none**, since a page on the
list has a free slot. -/
theorem Represents.ends_insert {p : PlainFile} {k : KeyedStore} (h : Represents p k)
    {record : List UInt8} (hsize : record.length = k.recordSize) :
    Ends (KeyedStore.insert record) k (fun id _ => k.isLive id = false) (fun _ _ => False) := by
  unfold KeyedStore.insert
  rw [ends_bind, ends_of_ok (KeyedStore.checkSize_of_eq hsize), ends_bind, ends_get]
  cases hfree : k.free with
  | nil =>
    -- the page is new
    have hnone : k.isLive ⟨k.pages, 0⟩ = false :=
      Bool.eq_false_iff.mpr fun hlive => Nat.lt_irrefl _ (h.page_lt hlive)
    exact hnone
  | cons page rest =>
    obtain ⟨slot, hslot, -, hlive⟩ := h.lowestFree_eq_some (hfree ▸ List.mem_cons_self)
    dsimp only
    rw [hslot]
    exact hlive

/-! ## Reports that are shown -/

/-- **The table of a report** has no cell that is too odd to be shown. -/
theorem FileReport.exists_table (r : FileReport) : ∃ table, r.table = .ok table := by
  have hword : ∀ {s : String}, Text.Unsigned s → ∀ o, Text.Cell.ofString s ≠ .error o := fun h =>
    h.ofString_ne_error
  cases htable : r.table with
  | ok table => exact ⟨table, rfl⟩
  | error o =>
    exfalso
    unfold FileReport.table at htable
    cases htitles : Text.Row.ofStrings ["page", "records", "occupied", "next free", "free list"] with
    | error o' =>
      obtain ⟨s, hs, herror⟩ := Text.exists_of_mapM_error htitles
      refine hword ?_ o' herror
      simp only [List.mem_cons, List.not_mem_nil, or_false] at hs
      rcases hs with rfl | rfl | rfl | rfl | rfl <;> exact Text.unsigned_of_all rfl
    | ok titles =>
      rw [htitles] at htable
      obtain ⟨page, -, hrow⟩ := Text.exists_of_mapM_error (Text.eq_error_of_bind htable)
      obtain ⟨s, hs, herror⟩ := Text.exists_of_mapM_error hrow
      refine hword ?_ o herror
      simp only [List.mem_cons, List.not_mem_nil, or_false] at hs
      rcases hs with rfl | rfl | rfl | rfl | rfl
      · exact Text.unsigned_toString _
      · exact Text.unsigned_toString _
      · exact Text.unsigned_toString _
      · cases page.next with
        | some next => exact Text.unsigned_toString next
        | none => exact Text.unsigned_of_all rfl
      · cases page.listed <;> exact Text.unsigned_of_all rfl

/-! ## The commands -/

section Commands

variable {disk : Disk} {path : Path} {image : ImageId} {p : PlainFile} {k : KeyedStore}

/-- **An insertion** prints the place at which it puts the record, unless the text is too
long. -/
theorem Disk.Carries.leaves_insert (h : disk.Carries path image p) (hrep : Represents p k)
    (hpages : p.header.pages < noPage) (frames : Nat) (text : String) :
    Invocation.Leaves ⟨frames, .insert path text⟩ path image p k
      (Invocation.run ⟨frames, .insert path text⟩ disk).1
      (Invocation.run ⟨frames, .insert path text⟩ disk).2 := by
  refine Invocation.run_of_ends (Invocation.Leaves _ path image p k)
    (ends_opening h ⟨⟨k, hrep⟩, hpages⟩ fun file store hserves => ?_)
  have hsize : file.header.recordSize = k.recordSize := by
    rw [show file.header = p.header from congrArg PlainFile.header hserves.own_eq,
      hrep.recordSize_eq]
  rw [hsize]
  cases hrecord : RecordText.toRecord? text k.recordSize with
  | none =>
    exact .of_same hserves.shutdown hrep (.tooLong (RecordText.toRecord?_eq_none_iff.mp hrecord))
  | some record =>
    dsimp only
    rw [ends_bind, ends_commandStore, ends_change]
    refine (hserves.ends_agreeing hpages
      (does_insert hserves.work.good hserves.own_eq hserves.whole.toSized record)
      (balanced_insert record) (PlainFile.grows_insert record) (agrees_insert hrep record)).imp ?_ ?_
    · rintro id s₁ ⟨p', -, hserves₁, k', hinsert, hrep'⟩
      refine ends_closing hserves₁ fun t hcarries => ?_
      refine ⟨⟨p', hcarries, hserves₁.whole, fun _ => ?_⟩, fun hsame => hsame.elim False.elim nofun⟩
      have hrecords : k'.records id = some record := by
        rw [KeyedStore.records_of_insert hinsert, Function.update_self]
      refine ⟨k', hrep', ?_⟩
      show Invocation.Answers _ _ (.done ("" ++ id.text ++ "\n")) _
      rw [String.empty_append]
      refine .inserted hrecord hinsert ?_ fun hzero => ?_
      · unfold KeyedStore.isLive
        rw [hrecords]
        rfl
      · unfold KeyedStore.text
        rw [hrecords]
        exact RecordText.ofRecord_of_toRecord? hrecord hzero
    · rintro e s₁ ⟨-, -, hfailed⟩
      obtain ⟨e', hinsert⟩ := hfailed (Session.Serves.one_le_frames frames)
      obtain ⟨id, k', hok, -⟩ :=
        (hrep.ends_insert (RecordText.length_of_toRecord? hrecord)).exists_ok
      rw [hinsert] at hok
      cases hok

/-- **A record is printed** if it is there. -/
theorem Disk.Carries.leaves_get (h : disk.Carries path image p) (hrep : Represents p k)
    (hpages : p.header.pages < noPage) (frames : Nat) (id : RecordId) :
    Invocation.Leaves ⟨frames, .get path id⟩ path image p k
      (Invocation.run ⟨frames, .get path id⟩ disk).1
      (Invocation.run ⟨frames, .get path id⟩ disk).2 := by
  refine Invocation.run_of_ends (Invocation.Leaves _ path image p k)
    (ends_opening h ⟨⟨k, hrep⟩, hpages⟩ fun file store hserves => ?_)
  cases hlive : k.isLive id with
  | true =>
    have hget := hserves.ends_get hrep hpages hlive
    rw [ends_onStore] at hget
    rw [ends_bind, ends_commandStore]
    refine hget.imp ?_ fun _ _ h => h.elim
    rintro _ store₁ ⟨rfl, hserves₁⟩
    refine ends_closing hserves₁ fun t hcarries => .of_same hcarries hrep ?_
    show Invocation.Answers _ _ (.done ("" ++ k.text id ++ "\n")) _
    rw [String.empty_append]
    exact .got hlive
  | false =>
    obtain ⟨e', hnone⟩ := KeyedStore.exists_of_get hlive
    have hget := hserves.ends_agreeing hpages
      (does_getRecord hserves.work.good hserves.own_eq hserves.whole.toSized id)
      (balanced_get id) (PlainFile.reads_get id).grows (agrees_get hrep id)
    rw [ends_onStore] at hget
    rw [ends_bind, ends_commandStore]
    refine hget.imp ?_ ?_
    · rintro record store₁ ⟨_, -, -, k', hok, -⟩
      rw [hnone] at hok
      cases hok
    · rintro e store₁ ⟨hserves₁, herror, -⟩
      obtain ⟨e', heq⟩ := exists_of_isError herror ""
      rw [heq]
      exact .of_same hserves₁.shutdown hrep (.noneToGet hlive)

/-- **A record is deleted** if it is there and there are frames enough. -/
theorem Disk.Carries.leaves_delete (h : disk.Carries path image p) (hrep : Represents p k)
    (hpages : p.header.pages < noPage) (frames : Nat) (id : RecordId) :
    Invocation.Leaves ⟨frames, .delete path id⟩ path image p k
      (Invocation.run ⟨frames, .delete path id⟩ disk).1
      (Invocation.run ⟨frames, .delete path id⟩ disk).2 := by
  refine Invocation.run_of_ends (Invocation.Leaves _ path image p k)
    (ends_opening h ⟨⟨k, hrep⟩, hpages⟩ fun file store hserves => ?_)
  rw [ends_bind, ends_commandStore, ends_change]
  refine (hserves.ends_agreeing hpages
    (does_delete hserves.work.good hserves.own_eq hserves.whole.toSized id)
    (balanced_delete id) (PlainFile.grows_delete id) (agrees_delete hrep hpages id)).imp ?_ ?_
  · rintro _ s₁ ⟨p', -, hserves₁, k', hdelete, hrep'⟩
    dsimp only
    rw [ends_commandStore]
    refine hserves₁.ends_close.imp (fun _ t hcarries => ?_) fun _ _ h => h.elim
    refine ⟨⟨p', hcarries, hserves₁.whole, fun _ => ?_⟩, fun hsame => hsame.elim False.elim nofun⟩
    cases hlive : k.isLive id with
    | true =>
      rw [KeyedStore.delete_eq (hrep.page_lt hlive) hlive] at hdelete
      cases hdelete
      exact ⟨_, hrep', .deleted hlive⟩
    | false =>
      obtain ⟨e, hnone⟩ := KeyedStore.exists_of_delete hlive
      rw [hnone] at hdelete
      cases hdelete
  · rintro e s₁ ⟨hserves₁, herror, hfailed⟩
    obtain ⟨e', heq⟩ := exists_of_isError herror ""
    rw [heq]
    refine .of_same hserves₁.shutdown hrep ?_
    cases hlive : k.isLive id with
    | true =>
      refine .noFrame (Nat.lt_of_not_le fun hframes => ?_)
      obtain ⟨e', hnone⟩ := hfailed (Nat.le_trans hframes (Nat.le_max_left _ _))
      rw [KeyedStore.delete_eq (hrep.page_lt hlive) hlive] at hnone
      cases hnone
    | false => exact .noneToDelete hlive

/-- **All records are listed**, if their texts can be shown. -/
theorem Disk.Carries.leaves_scan (h : disk.Carries path image p) (hrep : Represents p k)
    (hpages : p.header.pages < noPage) (frames : Nat) :
    Invocation.Leaves ⟨frames, .scan path⟩ path image p k
      (Invocation.run ⟨frames, .scan path⟩ disk).1
      (Invocation.run ⟨frames, .scan path⟩ disk).2 := by
  refine Invocation.run_of_ends (Invocation.Leaves _ path image p k)
    (ends_opening h ⟨⟨k, hrep⟩, hpages⟩ fun file store hserves => ?_)
  have hlist := hserves.ends_recordTable hrep hpages
  rw [ends_onStore] at hlist
  rw [ends_bind, ends_commandStore]
  refine hlist.imp ?_ ?_
  · rintro table store₁ ⟨htable, hserves₁⟩
    rw [ends_bind, ends_printAll, ends_commandStore]
    exact hserves₁.ends_close.imp (fun _ t hcarries => .of_same hcarries hrep (.listed htable))
      fun _ _ h => h.elim
  · rintro e store₁ ⟨⟨o, rfl, htable⟩, hserves₁⟩
    obtain ⟨id, hid, hshown⟩ := KeyedStore.exists_of_table_error htable
    exact .of_same hserves₁.shutdown hrep (.notListed htable hid hshown)

/-- **A report is shown.** -/
theorem Disk.Carries.leaves_inspect (h : disk.Carries path image p) (hrep : Represents p k)
    (hpages : p.header.pages < noPage) (frames : Nat) (json : Bool) :
    Invocation.Leaves ⟨frames, .inspect path json⟩ path image p k
      (Invocation.run ⟨frames, .inspect path json⟩ disk).1
      (Invocation.run ⟨frames, .inspect path json⟩ disk).2 := by
  refine Invocation.run_of_ends (Invocation.Leaves _ path image p k)
    (ends_opening h ⟨⟨k, hrep⟩, hpages⟩ fun file store hserves => ?_)
  have hinspect := hserves.ends_answers hpages
    (does_inspect hserves.work.good hserves.own_eq hserves.whole.toSized) balanced_inspect
    PlainFile.reads_inspect.grows (PlainFile.inspect_eq hrep.whole.toSized)
  rw [ends_onStore] at hinspect
  rw [ends_bind, ends_commandStore]
  refine hinspect.imp ?_ fun _ _ h => h.elim
  rintro _ store₁ ⟨rfl, hserves₁⟩
  refine ends_closing hserves₁ fun t hcarries => ?_
  obtain ⟨table, htable⟩ := FileReport.exists_table p.report
  have hcount := p.describes_report.recordCount_eq hrep.whole.toSized
    (hrep.whole.slots_lt hrep.most
      (FileHeader.reach_of_pages_lt (Nat.lt_trans hpages (by decide))))
  refine ends_ite.mpr ⟨fun _ => ?_, fun _ => ?_⟩
  · rw [ends_printAll]
    exact .of_same hcarries hrep .inspected
  · rw [htable, hcount, ends_bind, ends_liftOverrun]
    refine ⟨fun _ heq => ?_, nofun⟩
    cases heq
    rw [ends_bind, ends_printAll, ends_bind, ends_liftOverrun]
    exact ⟨fun _ _ => .of_same hcarries hrep .inspected, nofun⟩

/-- **A file that holds a keyed store passes its check.** -/
theorem Disk.Carries.leaves_check (h : disk.Carries path image p) (hrep : Represents p k)
    (hpages : p.header.pages < noPage) (frames : Nat) :
    Invocation.Leaves ⟨frames, .check path⟩ path image p k
      (Invocation.run ⟨frames, .check path⟩ disk).1
      (Invocation.run ⟨frames, .check path⟩ disk).2 := by
  refine Invocation.run_of_ends (Invocation.Leaves _ path image p k)
    (ends_opening h ⟨⟨k, hrep⟩, hpages⟩ fun file store hserves => ?_)
  have hcheck := hserves.ends_answers hpages
    (does_check hserves.work.good hserves.own_eq hserves.whole.toSized) balanced_check
    PlainFile.reads_check.grows ((hrep.inOrder hpages).check_eq hrep.whole.toSized)
  rw [ends_onStore] at hcheck
  rw [ends_bind, ends_commandStore, ends_attempt]
  refine hcheck.imp ?_ fun _ _ h => h.elim
  rintro _ store₁ ⟨-, hserves₁⟩
  exact ends_closing hserves₁ fun t hcarries => .of_same hcarries hrep .checked

/-- **No file is created over one that is there.** -/
theorem Disk.Carries.leaves_create (h : disk.Carries path image p) (hrep : Represents p k)
    (hshort : path.byteSize < Disk.pathLimit) (frames : Nat) (options : FileOptions) :
    Invocation.Leaves ⟨frames, .create path options⟩ path image p k
      (Invocation.run ⟨frames, .create path options⟩ disk).1
      (Invocation.run ⟨frames, .create path options⟩ disk).2 := by
  refine Invocation.run_of_ends (Invocation.Leaves _ path image p k) ?_
  obtain ⟨e, herror⟩ := create_of_leads (s := .ofDisk disk frames FileTable.defaultLimit) h.leads
    hshort options
  show Ends (Command.onStore (RecordFile.create path options) >>= _) _ _ _
  rw [ends_bind, ends_commandStore, show (Invocation.console ⟨frames, .create path options⟩ disk).store =
    .ofDisk disk frames FileTable.defaultLimit from rfl, ends_of_error herror]
  rw [Store.shutdown_of_empty rfl]
  exact .of_same h hrep .alreadyThere

/-- **Every command on a file that is there** answers as the keyed store does. -/
theorem Invocation.leaves (h : disk.Carries path image p) (hrep : Represents p k)
    (hpages : p.header.pages < noPage) (hshort : path.byteSize < Disk.pathLimit) (i : Invocation)
    (hpath : i.command.path = path) :
    i.Leaves path image p k (i.run disk).1 (i.run disk).2 := by
  obtain ⟨frames, command⟩ := i
  subst hpath
  cases command with
  | create path options => exact h.leaves_create hrep hshort frames options
  | insert path text => exact h.leaves_insert hrep hpages frames text
  | get path id => exact h.leaves_get hrep hpages frames id
  | delete path id => exact h.leaves_delete hrep hpages frames id
  | scan path => exact h.leaves_scan hrep hpages frames
  | inspect path json => exact h.leaves_inspect hrep hpages frames json
  | check path => exact h.leaves_check hrep hpages frames

end Commands

end SlottedFile
