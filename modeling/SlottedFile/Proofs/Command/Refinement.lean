import SlottedFile.Proofs.Command.Carrying

/-!
# The command line as a store

One invocation hands nothing to the next but the disk, and yet a sequence of them is a keyed
store at work. What the disk stores at a path (`Disk.Stores`) is no file, or one that holds
a keyed store, and every invocation accounts for the step from what was there to what is
there afterwards (`CommandEvent.Accounted`): it answers as the store does, and it does not
touch the bytes of the file if it fails or only reads. Each may have a pool of its own size.

A sequence of commands is accounted for as a whole (`command_line_keeps_store`), from no file
on. Nothing is assumed of the arguments. In particular the texts may be any, and that is why
a listing can overrun: a text may have a line of which more is hidden from a reader than
there is to see, and the width of such a line has no number
(`listing_overruns_hidden_text`).
-/

namespace SlottedFile

/-! ## What is at a path -/

/-- **What a disk stores at a path**: no file, or one that holds a keyed store and whose
pages links can name. -/
inductive Disk.Stores (d : Disk) (path : Path) : Option KeyedStore → Prop
  | nothing (hmissing : d.Missing path) : d.Stores path none
  | file {image : ImageId} {p : PlainFile} {k : KeyedStore} (hshort : path.byteSize < pathLimit)
      (hcarries : d.Carries path image p) (hrep : Represents p k)
      (hpages : p.header.pages < noPage) : d.Stores path (some k)

/-- **A command that was carried out**, with its answer and the disks before and after it. -/
structure CommandEvent where
  invocation : Invocation
  outcome : Outcome
  before : Disk
  after : Disk

/-- **A command is accounted for** by what was stored at the path and what is. -/
structure CommandEvent.Accounted (event : CommandEvent) (path : Path) (σ σ' : Option KeyedStore) :
    Prop where
  before : event.before.Stores path σ
  answers : event.invocation.Answers σ event.outcome σ'
  after : event.after.Stores path σ'
  /-- What was inserted can be read as long as it is there. -/
  text_eq : ∀ k ∈ σ, ∀ k' ∈ σ', ∀ id, k.isLive id = true → k'.isLive id = true →
    k'.text id = k.text id
  same : event.invocation.command.Reads ∨ event.outcome.status = 1 →
    ∀ bytes, event.before.BytesAt path bytes ↔ event.after.BytesAt path bytes

/-- Carry out a command. -/
def Invocation.event (i : Invocation) (disk : Disk) : CommandEvent where
  invocation := i
  outcome := (i.run disk).1
  before := disk
  after := (i.run disk).2

section OneCommand

variable {disk : Disk} {path : Path} {p p' : PlainFile} {image : ImageId} {k : KeyedStore}
  {i : Invocation}

/-- Where there is no file, there are no bytes to change. -/
theorem Disk.Missing.bytesAt_iff {d d' : Disk} (h : d.Missing path) (h' : d'.Missing path)
    (bytes : List UInt8) : d.BytesAt path bytes ↔ d'.BytesAt path bytes :=
  iff_of_false (h.nowhere.not_bytesAt bytes) (h'.nowhere.not_bytesAt bytes)

/-- **The records that stay keep their texts.** -/
theorem Invocation.Answers.text_eq {k' : KeyedStore} {o : Outcome}
    (h : i.Answers (some k) o (some k')) (hrep : Represents p k) {id : RecordId}
    (hlive : k.isLive id = true) (hlive' : k'.isLive id = true) : k'.text id = k.text id := by
  cases h with
  | @inserted _ _ _ _ _ _ new hrecord hinsert =>
    have hfree := (hrep.ends_insert (RecordText.length_of_toRecord? hrecord)).of_ok hinsert
    have hne : id ≠ new := by
      rintro rfl
      rw [hfree] at hlive
      cases hlive
    unfold KeyedStore.text
    rw [KeyedStore.records_of_insert hinsert, Function.update_of_ne hne]
  | @deleted _ _ gone =>
    have hne : id ≠ gone := by
      rintro rfl
      rw [KeyedStore.isLive, KeyedStore.records_vacate, Function.update_self] at hlive'
      cases hlive'
    unfold KeyedStore.text
    rw [KeyedStore.records_vacate, Function.update_of_ne hne]
  | _ => rfl

/-! ## Commands where there is no file -/

/-- **A command finds no file to open**, and the disk stays what it is. -/
theorem ends_opening_missing (h : disk.Missing path) (rest : RecordFile → CommandM Unit) :
    Ends (do rest (← Command.onStore (RecordFile.openFile path))) (i.console disk)
      (fun _ _ => False)
      (fun e c => (∃ e', Outcome.ofFault c.output e = .failed "" e') ∧ c.store.shutdown = disk) := by
  rw [ends_bind, ends_commandStore]
  refine (ends_open_nowhere (s := (i.console disk).store) (.start disk _) h.nowhere rfl).imp
    (fun _ _ h => h.elim) ?_
  rintro e _ ⟨herror, rfl⟩
  exact ⟨exists_of_isError herror "", Store.shutdown_of_empty rfl⟩

/-- **Nothing but a file can be created** where there is none. -/
theorem Disk.Missing.accounted_create (h : disk.Missing path) (frames : Nat)
    (options : FileOptions) :
    ∃ σ', (Invocation.event ⟨frames, .create path options⟩ disk).Accounted path none σ' := by
  let i : Invocation := ⟨frames, .create path options⟩
  suffices haccounts : ∃ σ', i.Answers none (i.run disk).1 σ' ∧ (i.run disk).2.Stores path σ' ∧
      ((i.run disk).1.status = 1 → σ' = none) by
    obtain ⟨σ', hanswers, hstores, hfailed⟩ := haccounts
    refine ⟨σ', .nothing h, hanswers, hstores, nofun, fun hsame => ?_⟩
    obtain rfl := hfailed (hsame.resolve_left False.elim)
    obtain ⟨hmissing⟩ := hstores
    exact h.bytesAt_iff hmissing
  refine Invocation.run_of_ends
    (fun o d => ∃ σ', i.Answers none o σ' ∧ d.Stores path σ' ∧ (o.status = 1 → σ' = none)) ?_
  have hsound := Store.sound_ofDisk (injective_besides 0) disk frames FileTable.defaultLimit
  show Ends (Command.onStore (RecordFile.create path options) >>= _) _ _ _
  rw [ends_bind, ends_commandStore]
  refine (ends_create_missing hsound.coherent.files h rfl
    (show 0 < FileTable.defaultLimit by decide) options).imp ?_ ?_
  · rintro _ s ⟨hshort, header, image, hheader, hmade⟩
    rw [ends_print, Store.shutdown_of_empty (congrArg Pool.entries hmade.aside.pool_eq)]
    refine ⟨_, ?_, .file hshort ⟨hmade.leads, hmade.keeps, hmade.paged⟩ (.created hheader)
      (PlainFile.Proper.created hheader).pages_lt, nofun⟩
    show i.Answers none (.done ("" ++ s!"created {path.text}" ++ "\n")) _
    rw [String.empty_append]
    exact .created hheader
  · rintro e s ⟨herror, haside, hmissing⟩
    obtain ⟨e', heq⟩ := exists_of_isError herror ""
    rw [Store.shutdown_of_empty (congrArg Pool.entries haside.pool_eq)]
    dsimp only
    rw [show (i.console disk).output = "" from rfl, heq]
    exact ⟨none, .notCreated, .nothing hmissing, fun _ => rfl⟩

/-- **Every other command fails** there. -/
theorem Disk.Missing.accounted (h : disk.Missing path) (hpath : i.command.path = path) :
    ∃ σ', (i.event disk).Accounted path none σ' := by
  by_cases hcreate : ∃ options, i.command = .create path options
  · obtain ⟨options, hcommand⟩ := hcreate
    obtain ⟨frames, command⟩ := i
    obtain rfl : command = _ := hcommand
    exact h.accounted_create frames options
  have hother : ∀ path' options, i.command ≠ .create path' options := by
    intro path' options hcommand
    rw [hcommand] at hpath
    exact hcreate ⟨options, by rw [hcommand, ← hpath]; rfl⟩
  have hends : Ends i.command.carryOut (i.console disk) (fun _ _ => False)
      (fun e c => (∃ e', Outcome.ofFault c.output e = .failed "" e') ∧ c.store.shutdown = disk) := by
    obtain ⟨frames, command⟩ := i
    subst hpath
    cases command with
    | create path options => exact absurd rfl (hother path options)
    | _ => exact ends_opening_missing h _
  obtain ⟨⟨e, houtcome⟩, hdisk⟩ := Invocation.run_of_ends
    (fun o d => (∃ e, o = .failed "" e) ∧ d = disk) (hends.imp (fun _ _ h => h.elim) fun _ _ h => h)
  refine ⟨none, .nothing h, ?_, ?_, nofun, fun _ bytes => ?_⟩
  · show i.Answers none (i.run disk).1 none
    rw [houtcome]
    exact .notThere hother
  · show (i.run disk).2.Stores path none
    rw [hdisk]
    exact .nothing h
  · show disk.BytesAt path bytes ↔ (i.run disk).2.BytesAt path bytes
    rw [hdisk]

/-! ## Commands on what is stored -/

/-- The disk tells how many pages a file has that it carries. -/
theorem Disk.Carries.pages_eq (h : disk.Carries path image p) (hwhole : p.Whole) :
    (disk.image image).pages = p.header.pages :=
  h.keeps.count_eq.trans hwhole.count

/-- **A command is accounted for**, whatever is stored at its path. -/
theorem Disk.Stores.accounted {σ : Option KeyedStore} (h : disk.Stores path σ)
    (hpath : i.command.path = path) (hpages : ∀ image, (i.event disk).after.Leads path image →
      ((i.event disk).after.image image).pages < noPage) :
    ∃ σ', (i.event disk).Accounted path σ σ' := by
  cases h with
  | nothing hmissing => exact hmissing.accounted hpath
  | @file image p k hshort hcarries hrep hbefore =>
    obtain ⟨⟨p', hcarries', hwhole, hbecame⟩, hsame⟩ :=
      i.leaves hcarries hrep hbefore hshort hpath
    have hafter : p'.header.pages < noPage := hcarries'.pages_eq hwhole ▸ hpages _ hcarries'.leads
    obtain ⟨k', hrep', hanswers⟩ := hbecame hafter
    refine ⟨some k', .file hshort hcarries hrep hbefore, hanswers,
      .file hshort hcarries' hrep' hafter, ?_, fun h bytes =>
        hcarries.bytesAt_iff.trans (hsame h).bytesAt_iff.symm⟩
    rintro _ ⟨⟩ _ ⟨⟩ id
    exact hanswers.text_eq hrep

end OneCommand

/-! ## One command after the other -/

/-- **Commands on one path**, the latest first. There is no file at first, nothing else
touches it, and it does not get so long that links could not name its pages. -/
inductive CommandRun (path : Path) : List CommandEvent → Disk → Prop
  | start {disk : Disk} (hmissing : disk.Missing path) : CommandRun path [] disk
  | carriedOut {log : List CommandEvent} {disk : Disk} {i : Invocation}
      (h : CommandRun path log disk) (hpath : i.command.path = path)
      (hpages : ∀ image, (i.event disk).after.Leads path image →
        ((i.event disk).after.image image).pages < noPage) :
      CommandRun path (i.event disk :: log) (i.event disk).after

/-- **Commands that are accounted for**, each by what those before it have left at the path,
and what they have left. -/
inductive Accounts (path : Path) : List CommandEvent → Option KeyedStore → Prop
  | start : Accounts path [] none
  | answered {log : List CommandEvent} {event : CommandEvent} {σ σ' : Option KeyedStore}
      (h : Accounts path log σ) (hevent : event.Accounted path σ σ') :
      Accounts path (event :: log) σ'

/-- **The command line is a persistent store.** Commands on one path, each with a pool of
its own, are answered as by one keyed store that is there from the first `create` that
succeeds, and the disk holds what that store has become. An insertion prints the place where
the store puts the record, and fails only if the text is too long; a record that is there is
printed or deleted, unless the deletion wants a second frame, and any other is refused; a
check passes; and a listing shows every record, or overruns because a text cannot be shown.
Whatever fails or only reads leaves the bytes of the file alone. -/
theorem command_line_keeps_store {path : Path} {log : List CommandEvent} {disk : Disk}
    (h : CommandRun path log disk) : ∃ σ, Accounts path log σ ∧ disk.Stores path σ := by
  induction h with
  | start hmissing => exact ⟨none, .start, .nothing hmissing⟩
  | carriedOut _ hpath hpages ih =>
    obtain ⟨σ, haccounts, hstores⟩ := ih
    obtain ⟨σ', hevent⟩ := hstores.accounted hpath hpages
    exact ⟨σ', haccounts.answered hevent, hevent.after⟩

section Hidden

/-! A file is created, a record is put into it, and the records are listed, with one frame or
none. -/

/-- Five columns with six hidden in them: a lam and an alef take one column together and two
alone. -/
def hiddenText : String := "\x1b[\u0644\u0627\u0644\u0627m"

def hiddenCreate : CommandEvent :=
  Invocation.event ⟨1, .create ⟨["f"]⟩ ⟨11, some 1⟩⟩ .empty

def hiddenInsert : CommandEvent :=
  Invocation.event ⟨0, .insert ⟨["f"]⟩ hiddenText⟩ hiddenCreate.after

attribute [irreducible] hiddenCreate hiddenInsert

set_option maxRecDepth 100000 in
theorem hidden_run : CommandRun ⟨["f"]⟩ [hiddenInsert, hiddenCreate] hiddenInsert.after := by
  have hmissing : Disk.empty.Missing ⟨["f"]⟩ := by
    refine .inl fun place i hnode => ?_
    unfold Disk.node? at hnode
    split at hnode <;> cases hnode
  have hpaged : ∀ {d : Disk}, d.canonical ⟨["f"]⟩ = .ok (Disk.home ++ ["f"]) →
      d.node? (Disk.home ++ ["f"]) = some (.file 0) → (d.image 0).pages < noPage →
      ∀ i, d.Leads ⟨["f"]⟩ i → (d.image i).pages < noPage := by
    intro d hplace hnode hpages i hleads
    rw [← hleads.eq_of_node? hplace hnode]
    exact hpages
  obtain ⟨hplace, hnode, hpages⟩ :
      hiddenCreate.after.canonical ⟨["f"]⟩ = .ok (Disk.home ++ ["f"]) ∧
      hiddenCreate.after.node? (Disk.home ++ ["f"]) = some (.file 0) ∧
      (hiddenCreate.after.image 0).pages < noPage := by decide +kernel
  obtain ⟨hplace', hnode', hpages'⟩ :
      hiddenInsert.after.canonical ⟨["f"]⟩ = .ok (Disk.home ++ ["f"]) ∧
      hiddenInsert.after.node? (Disk.home ++ ["f"]) = some (.file 0) ∧
      (hiddenInsert.after.image 0).pages < noPage := by decide +kernel
  have hcreated : CommandRun ⟨["f"]⟩ [hiddenCreate] hiddenCreate.after := by
    unfold hiddenCreate at hplace hnode hpages ⊢
    exact (CommandRun.start hmissing).carriedOut rfl (hpaged hplace hnode hpages)
  unfold hiddenInsert at hplace' hnode' hpages' ⊢
  exact hcreated.carriedOut rfl (hpaged hplace' hnode' hpages')

/-- The record was put in the first place of the file. -/
theorem command_line_keeps_store_hidden :
    hiddenInsert.outcome = .done "(0, 0)\n" ∧
      ∃ σ, Accounts ⟨["f"]⟩ [hiddenInsert, hiddenCreate] σ ∧ hiddenInsert.after.Stores ⟨["f"]⟩ σ := by
  have houtcome : hiddenInsert.outcome = .done "(0, 0)\n" := by decide +kernel
  exact ⟨houtcome, command_line_keeps_store hidden_run⟩

/-- **A listing overruns** on a file that was created and filled by commands, though its
only record can be printed. -/
theorem listing_overruns_hidden_text :
    CommandRun ⟨["f"]⟩ [hiddenInsert, hiddenCreate] hiddenInsert.after ∧
      hiddenInsert.outcome = .done "(0, 0)\n" ∧
      (Invocation.run ⟨1, .get ⟨["f"]⟩ ⟨0, 0⟩⟩ hiddenInsert.after).1 =
        .done (hiddenText ++ "\n") ∧
      (Invocation.run ⟨1, .scan ⟨["f"]⟩⟩ hiddenInsert.after).1 = .overran "" := by
  refine ⟨hidden_run, ?_⟩
  decide +kernel

end Hidden

end SlottedFile
