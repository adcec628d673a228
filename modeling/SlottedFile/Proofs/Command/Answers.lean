import SlottedFile.Proofs.Command.Beginning
import SlottedFile.Proofs.Command.Listing

/-!
# What a command answers

To its users a record file is a keyed store, and a command is a question that is put to it.
What may be answered depends on the store, and in two places on more than that
(`Invocation.Answers`): a file may not be creatable, and a deletion may want a second frame.
All else is settled by the store, down to what is printed.

A file that the disk carries is left behind by a command as what the store has become, and
as what it was if the command fails or only reads (`Invocation.Leaves`). Each command is
taken apart into the opening of the file, its operation, the closing and the printing.
-/

namespace SlottedFile

/-! ## The answers -/

/-- What is printed of a table. -/
def Text.Table.printed (t : Text.Table) : String :=
  t.draw.foldl (fun output line => output ++ line ++ "\n") ""

/-- **A command that only reads.** -/
def Command.Reads : Command → Prop
  | get _ _ | scan _ | inspect _ _ | check _ => True
  | _ => False

/-- **How an invocation may end** where there is a file that holds a keyed store, or no
file, and what there is afterwards. -/
inductive Invocation.Answers : Invocation → Option KeyedStore → Outcome → Option KeyedStore → Prop
  | created {frames : Nat} {path : Path} {options : FileOptions} {header : FileHeader}
      (hheader : FileHeader.create options = .ok header) :
      Answers ⟨frames, .create path options⟩ none (.done s!"created {path.text}\n")
        (some (.empty header.recordSize header.recordsPerPage))
  | notCreated {frames : Nat} {path : Path} {options : FileOptions} {e : CommandError} :
      Answers ⟨frames, .create path options⟩ none (.failed "" e) none
  | alreadyThere {frames : Nat} {path : Path} {options : FileOptions} {k : KeyedStore}
      {e : CommandError} : Answers ⟨frames, .create path options⟩ (some k) (.failed "" e) (some k)
  /-- There is no file. -/
  | notThere {i : Invocation} {e : CommandError}
      (hcommand : ∀ path options, i.command ≠ .create path options) :
      Answers i none (.failed "" e) none
  /-- The record goes where the keyed store puts it, and its text can be read there. -/
  | inserted {frames : Nat} {path : Path} {text : String} {k k' : KeyedStore}
      {record : List UInt8} {id : RecordId}
      (hrecord : RecordText.toRecord? text k.recordSize = some record)
      (hinsert : KeyedStore.insert record k = .ok id k')
      (hlive : k'.isLive id = true) (htext : '\x00' ∉ text.toList → k'.text id = text) :
      Answers ⟨frames, .insert path text⟩ (some k) (.done (id.text ++ "\n")) (some k')
  | tooLong {frames : Nat} {path : Path} {text : String} {k : KeyedStore} {e : CommandError}
      (hlong : k.recordSize < (Text.Utf8.encode text).length) :
      Answers ⟨frames, .insert path text⟩ (some k) (.failed "" e) (some k)
  | got {frames : Nat} {path : Path} {id : RecordId} {k : KeyedStore} (hlive : k.isLive id = true) :
      Answers ⟨frames, .get path id⟩ (some k) (.done (k.text id ++ "\n")) (some k)
  | noneToGet {frames : Nat} {path : Path} {id : RecordId} {k : KeyedStore} {e : CommandError}
      (hfree : k.isLive id = false) : Answers ⟨frames, .get path id⟩ (some k) (.failed "" e) (some k)
  | deleted {frames : Nat} {path : Path} {id : RecordId} {k : KeyedStore}
      (hlive : k.isLive id = true) :
      Answers ⟨frames, .delete path id⟩ (some k) (.done "") (some (k.vacate id))
  | noneToDelete {frames : Nat} {path : Path} {id : RecordId} {k : KeyedStore} {e : CommandError}
      (hfree : k.isLive id = false) :
      Answers ⟨frames, .delete path id⟩ (some k) (.failed "" e) (some k)
  /-- The deletion wants a second frame. -/
  | noFrame {frames : Nat} {path : Path} {id : RecordId} {k : KeyedStore} {e : CommandError}
      (hframes : frames < 2) : Answers ⟨frames, .delete path id⟩ (some k) (.failed "" e) (some k)
  | listed {frames : Nat} {path : Path} {k : KeyedStore} {table : Text.Table}
      (htable : k.table = .ok table) :
      Answers ⟨frames, .scan path⟩ (some k) (.done table.printed) (some k)
  /-- The text of a record has a line that no table can hold. -/
  | notListed {frames : Nat} {path : Path} {k : KeyedStore} {o : Overrun} {id : RecordId}
      (htable : k.table = .error o) (hid : id ∈ k.live) (hshown : ¬KeyedStore.Shown (k.text id)) :
      Answers ⟨frames, .scan path⟩ (some k) (.overran "") (some k)
  | inspected {frames : Nat} {path : Path} {json : Bool} {k : KeyedStore} {output : String} :
      Answers ⟨frames, .inspect path json⟩ (some k) (.done output) (some k)
  | checked {frames : Nat} {path : Path} {k : KeyedStore} :
      Answers ⟨frames, .check path⟩ (some k) (.done "ok\n") (some k)

/-- **What an invocation leaves of a file**, which shows `p` and holds the keyed store `k`:
a file that holds what the answer says, and the same file if the command fails or only
reads. -/
structure Invocation.Leaves (i : Invocation) (path : Path) (image : ImageId) (p : PlainFile)
    (k : KeyedStore) (o : Outcome) (d : Disk) : Prop where
  became : ∃ p', d.Carries path image p' ∧ p'.Whole ∧ (p'.header.pages < noPage →
    ∃ k', Represents p' k' ∧ i.Answers (some k) o (some k'))
  same : i.command.Reads ∨ o.status = 1 → d.Carries path image p

section Carrying

variable {disk : Disk} {path : Path} {image : ImageId} {frames : Nat} {p p' : PlainFile}
  {k : KeyedStore} {i : Invocation} {o : Outcome} {c : Console} {output : String} {α : Type}

theorem Invocation.Leaves.of_same {d : Disk} (hcarries : d.Carries path image p)
    (hrep : Represents p k) (hanswers : i.Answers (some k) o (some k)) :
    i.Leaves path image p k o d :=
  ⟨⟨p, hcarries, hrep.whole, fun _ => ⟨k, hrep, hanswers⟩⟩, fun _ => hcarries⟩

/-! ## Steps of a command -/

theorem ends_commandStore {x : StoreM RecordError α} {good : α → Console → Prop}
    {bad : Fault CommandError → Console → Prop} :
    Ends (Command.onStore x) c good bad ↔
      Ends x c.store (fun a store => good a { c with store })
        (fun e store => bad (e.map .record) { c with store }) :=
  ends_onPart

theorem ends_print {line : String} {good : Unit → Console → Prop}
    {bad : Fault CommandError → Console → Prop} :
    Ends (Command.print line) c good bad ↔
      good () { c with output := c.output ++ line ++ "\n" } := Iff.rfl

theorem ends_printAll {lines : List String} {good : PUnit → Console → Prop}
    {bad : Fault CommandError → Console → Prop} :
    Ends (lines.forM Command.print) c good bad ↔
      good ⟨⟩ { c with output := lines.foldl (fun output line => output ++ line ++ "\n") c.output } := by
  induction lines generalizing c with
  | nil => exact Iff.rfl
  | cons line lines ih =>
    show Ends (Command.print line >>= fun _ => lines.forM Command.print) c good bad ↔ _
    rw [ends_bind, ends_print, ih]
    rfl

theorem ends_change {f : RecordFile} {store : Store} {x : RecordM α}
    {good : α × RecordFile → Store → Prop} {bad : Fault RecordError → Store → Prop} :
    Ends (f.change x) store good bad ↔
      Ends x ⟨store, f⟩ (fun a s => good (a, s.file) s.store) (fun e s => bad e s.store) := by
  unfold Ends RecordFile.change
  cases x ⟨store, f⟩ <;> rfl

/-- What is reported of a fault. -/
def Outcome.ofFault (output : String) : Fault CommandError → Outcome
  | .error e => .failed output e
  | .overrun _ => .overran output

/-- The console that an invocation begins with. -/
def Invocation.console (i : Invocation) (disk : Disk) : Console where
  store := .ofDisk disk i.frames FileTable.defaultLimit

/-- **An invocation is its command and the end of the store.** -/
theorem Invocation.run_of_ends (good : Outcome → Disk → Prop)
    (h : Ends i.command.carryOut (i.console disk)
      (fun _ c => good (.done c.output) c.store.shutdown)
      (fun e c => good (.ofFault c.output e) c.store.shutdown)) :
    good (i.run disk).1 (i.run disk).2 := by
  unfold Ends console at h
  unfold run
  cases hrun : i.command.carryOut { store := .ofDisk disk i.frames FileTable.defaultLimit } with
  | ok u c =>
    rw [hrun] at h
    exact h
  | error e c =>
    rw [hrun] at h
    cases e <;> exact h

/-- A failure that is an answer is reported as one. -/
theorem exists_of_isError {e : Fault RecordError} (he : e.IsError) (output : String) :
    ∃ e', Outcome.ofFault output (e.map .record) = .failed output e' := by
  cases e with
  | error e => exact ⟨.record e, rfl⟩
  | overrun o => exact he.elim

/-- **A command opens its file** and goes on with a session that serves it. -/
theorem ends_opening (h : disk.Carries path image p) (hproper : p.Proper)
    {rest : RecordFile → CommandM Unit} {good : Unit → Console → Prop}
    {bad : Fault CommandError → Console → Prop}
    (hrest : ∀ file store, (⟨store, file⟩ : Session).Serves (besides image) image path frames p →
      Ends (rest file) { store } good bad) :
    Ends (do rest (← Command.onStore (RecordFile.openFile path)))
      ({ store := .ofDisk disk frames FileTable.defaultLimit } : Console) good bad := by
  rw [ends_bind, ends_commandStore]
  exact (h.ends_open hproper (by decide)).imp hrest fun _ _ h => h.elim

/-- **A command closes its file** and goes on with what the disk carries to the end. -/
theorem ends_closing {file : RecordFile} {store : Store} {other : Nat → ImageId}
    (h : (⟨store, file⟩ : Session).Serves other image path frames p)
    {rest : Unit → CommandM Unit} {good : Unit → Console → Prop}
    {bad : Fault CommandError → Console → Prop}
    (hrest : ∀ t, t.shutdown.Carries path image p → Ends (rest ()) { store := t, output } good bad) :
    Ends (Command.onStore file.close >>= rest) { store, output } good bad := by
  rw [ends_bind, ends_commandStore]
  exact h.ends_close.imp (fun _ => hrest) fun _ _ h => h.elim

end Carrying

end SlottedFile
