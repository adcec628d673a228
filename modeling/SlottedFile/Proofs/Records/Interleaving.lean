import SlottedFile.Proofs.Records.Desk
import SlottedFile.Proofs.Records.Solo

/-!
# Record files that share a pool do not interfere

Any number of record files are made, worked on and closed in one store, in any order
(`SharedRun`). Their pages evict one another from the pool and are written back for one
another. But what a task makes of its file is what it makes of the plain file, and of
the other files it makes nothing. So each file is what its own tasks, one after the
other, make of it anywhere else (`files_do_not_interfere`).
-/

namespace SlottedFile

/-- **What happens at a desk**: a file is created and opened, a task is done, or a file is
closed. -/
inductive DeskEvent where
  | made (handle : Nat) (path : Path) (options : FileOptions)
  | done (handle : Nat) (task : RecordTask) (outcome : Except (Fault RecordError) TaskReply)
  | closed (handle : Nat)

namespace DeskEvent

/-- What an event is to the file of a handle. -/
def of? (handle : Nat) : DeskEvent → Option SoloEvent
  | done h task outcome => if h = handle then some (.done task outcome) else none
  | _ => none

/-- **The events of one file.** -/
def own (handle : Nat) (log : List DeskEvent) : List SoloEvent := log.filterMap (of? handle)

end DeskEvent

/-- **A run of record files that share a store.** No file is created that is open, links
can name the pages of each, and nobody holds a pin between two tasks. -/
inductive SharedRun (disk : Disk) (capacity limit : Nat) : List DeskEvent → Desk → Prop
  | start : SharedRun disk capacity limit [] (.empty (.ofDisk disk capacity limit))
  | made {log : List DeskEvent} {d : Desk} {path : Path} {options : FileOptions}
      {store store' : Store} {file : RecordFile} (h : SharedRun disk capacity limit log d)
      (hcreate : RecordFile.create path options d.store = .ok () store)
      (hclosed : ∀ i, store.files.disk.Leads path i → ∀ o ∈ d.store.files.table.opened, o.image ≠ i)
      (hopen : RecordFile.openFile path store = .ok file store') :
      SharedRun disk capacity limit (log ++ [.made file.handle path options]) (d.put ⟨store', file⟩)
  | returned {log : List DeskEvent} {d : Desk} {file : RecordFile} {s' : Session}
      {task : RecordTask} {r : TaskReply} (h : SharedRun disk capacity limit log d)
      (hfile : d.header? file.handle = some file.header) (hfree : task.PinFree)
      (hrun : task.run ⟨d.store, file⟩ = .ok r s') (hpages : s'.file.header.pages < noPage) :
      SharedRun disk capacity limit (log ++ [.done file.handle task (.ok r)]) (d.put s')
  | failed {log : List DeskEvent} {d : Desk} {file : RecordFile} {s' : Session}
      {task : RecordTask} {e : Fault RecordError} (h : SharedRun disk capacity limit log d)
      (hfile : d.header? file.handle = some file.header) (hfree : task.PinFree)
      (hrun : task.run ⟨d.store, file⟩ = .error e s') :
      SharedRun disk capacity limit (log ++ [.done file.handle task (.error e)]) (d.put s')
  | closed {log : List DeskEvent} {d : Desk} {file : RecordFile} {store : Store}
      (h : SharedRun disk capacity limit log d)
      (hfile : d.header? file.handle = some file.header)
      (hclose : file.close d.store = .ok () store) :
      SharedRun disk capacity limit (log ++ [.closed file.handle]) (d.clear store file.handle)

/-! ## What every point of a run has in common -/

/-- **A file is what its own events make of the plain file**, and is shown so if it is
open. -/
def Desk.Follows (imageOf : Nat → ImageId) (log : List DeskEvent) (d : Desk) (handle : Nat)
    (path : Path) (options : FileOptions) : Prop :=
  ∃ header p, FileHeader.create options = .ok header ∧
    PlainRun (.created header) (DeskEvent.own handle log) p ∧
    ∀ header', d.header? handle = some header' → header' = p.header ∧
      (⟨d.store, ⟨handle, header'⟩⟩ : Session).Shows imageOf path p

/-- **The files of a desk after some events**: the store is at rest, and each file is what
its own events make of the plain file. Pages of some handles that are gone may be
buffered. -/
structure Desk.Holds (imageOf : Nat → ImageId) (gone : Set Nat) (log : List DeskEvent)
    (d : Desk) : Prop where
  rest : d.store.AtRest imageOf gone
  /-- The files that are gone have been given out before, and are older than any to come. -/
  gone_lt : ∀ {handle}, handle ∈ gone →
    handle < d.store.files.table.next ∧ imageOf handle < d.store.files.disk.images.size
  /-- Whatever is open was made. -/
  of_open : ∀ {handle header}, d.header? handle = some header →
    ∃ path options, .made handle path options ∈ log
  /-- Handles are given out one after the other. -/
  issued : ∀ {handle path options}, .made handle path options ∈ log →
    handle < d.store.files.table.next
  plain : ∀ {handle path options}, .made handle path options ∈ log →
    d.Follows imageOf log handle path options
  /-- Only files that were made have events. -/
  own_eq_nil : ∀ {handle}, d.store.files.table.next ≤ handle → DeskEvent.own handle log = []

namespace DeskEvent

theorem own_append (handle : Nat) (log : List DeskEvent) (event : DeskEvent) :
    own handle (log ++ [event]) = own handle log ++ (event.of? handle).toList := by
  unfold own
  rw [List.filterMap_append]
  cases h : event.of? handle with
  | none => rw [List.filterMap_cons_none h, List.filterMap_nil, Option.toList_none]
  | some e => rw [List.filterMap_cons_some h, List.filterMap_nil, Option.toList_some]

/-- An event that is none of a file's own does not count for it. -/
theorem own_append_of_none {handle : Nat} {event : DeskEvent} (h : event.of? handle = none)
    (log : List DeskEvent) : own handle (log ++ [event]) = own handle log := by
  rw [own_append, h, Option.toList_none, List.append_nil]

theorem of?_done_of_ne {handle h : Nat} (hne : handle ≠ h) (task : RecordTask)
    (outcome : Except (Fault RecordError) TaskReply) : (done h task outcome).of? handle = none :=
  if_neg hne.symm

end DeskEvent

section Shared

variable {imageOf : Nat → ImageId} {gone : Set Nat} {log : List DeskEvent} {d : Desk}
  {file : RecordFile} {handle : Nat} {path : Path} {options : FileOptions} {store store' : Store}

namespace Desk.Holds

/-- The file that a desk has is shown. -/
theorem exists_shows (hd : d.Holds imageOf gone log) (hfile : d.header? file.handle = some file.header) :
    ∃ path p, (⟨d.store, file⟩ : Session).Shows imageOf path p := by
  obtain ⟨path, options, hmade⟩ := hd.of_open hfile
  obtain ⟨_, p, -, -, hopen⟩ := hd.plain hmade
  exact ⟨path, p, (hopen _ hfile).2⟩

/-- A handle that is open has been given out. -/
theorem handle_lt (hd : d.Holds imageOf gone log) (hfile : d.header? file.handle = some file.header) :
    file.handle < d.store.files.table.next := by
  obtain ⟨path, options, hmade⟩ := hd.of_open hfile
  exact hd.issued hmade

/-- **What happens to files that are there** makes none: what is open was open before, and
has a handle that was given out. -/
theorem step {event : DeskEvent} {d' : Desk} (hd : d.Holds imageOf gone log)
    (hevent : ∀ handle path options, event ≠ .made handle path options)
    (hrest : d'.store.AtRest imageOf gone)
    (hnext : d'.store.files.table.next = d.store.files.table.next)
    (himages : d'.store.files.disk.images.size = d.store.files.disk.images.size)
    (hopen : ∀ {handle header}, d'.header? handle = some header → (d.header? handle).isSome)
    (hown : ∀ {handle}, d.store.files.table.next ≤ handle → event.of? handle = none)
    (hplain : ∀ {handle path options}, .made handle path options ∈ log →
      d'.Follows imageOf (log ++ [event]) handle path options) :
    d'.Holds imageOf gone (log ++ [event]) := by
  have hmem : ∀ {handle path options}, .made handle path options ∈ log ++ [event] →
      .made handle path options ∈ log := fun h =>
    (List.mem_append.mp h).resolve_right fun h => hevent _ _ _ (List.mem_singleton.mp h).symm
  constructor
  case rest => exact hrest
  case gone_lt =>
    intro handle hmem
    rw [hnext, himages]
    exact hd.gone_lt hmem
  case of_open =>
    intro handle header hheader
    obtain ⟨header, hbefore⟩ := Option.isSome_iff_exists.mp (hopen hheader)
    obtain ⟨path, options, hmade⟩ := hd.of_open hbefore
    exact ⟨path, options, List.mem_append_left _ hmade⟩
  case issued =>
    intro handle path options hmade
    exact Nat.lt_of_lt_of_eq (hd.issued (hmem hmade)) hnext.symm
  case plain =>
    intro handle path options hmade
    exact hplain (hmem hmade)
  case own_eq_nil =>
    intro handle hle
    have hle : d.store.files.table.next ≤ handle := hnext ▸ hle
    rw [DeskEvent.own_append_of_none (hown hle)]
    exact hd.own_eq_nil hle

/-- **A task was done**: it is an event of its own file, and no other one notices. -/
theorem done {s' : Session} {task : RecordTask} {outcome : Except (Fault RecordError) TaskReply}
    (hd : d.Holds imageOf gone log) (hfile : d.header? file.handle = some file.header)
    (hrested : (⟨d.store, file⟩ : Session).Rested imageOf gone s')
    (hhandle : s'.file.handle = file.handle)
    (hown : ∀ {path p p₀ events}, PlainRun p₀ events p →
      (⟨d.store, file⟩ : Session).Shows imageOf path p →
      ∃ p', PlainRun p₀ (events ++ [.done task outcome]) p' ∧ s'.file.header = p'.header ∧
        s'.Shows imageOf path p') :
    (d.put s').Holds imageOf gone (log ++ [.done file.handle task outcome]) := by
  have hself : (d.put s').header? file.handle = some s'.file.header := by
    rw [Desk.header?_put, if_pos hhandle.symm]
  have hother : ∀ {handle}, handle ≠ file.handle → (d.put s').header? handle = d.header? handle := by
    intro handle hne
    rw [Desk.header?_put, hhandle, if_neg hne]
  refine hd.step (fun _ _ _ => nofun) hrested.rest (congrArg FileTable.next hrested.table_eq)
    hrested.images_eq ?_ ?_ ?_
  · intro handle header hheader
    by_cases hne : handle = file.handle
    · rw [hne, hfile]
      rfl
    · rw [← hother hne, hheader]
      rfl
  · intro handle hle
    have hne : handle ≠ file.handle := Nat.ne_of_gt (Nat.lt_of_lt_of_le (hd.handle_lt hfile) hle)
    exact DeskEvent.of?_done_of_ne hne task outcome
  · intro handle path options hmade
    obtain ⟨header, p, hcreate, hplain, hopen⟩ := hd.plain hmade
    by_cases hne : handle = file.handle
    · -- the event is the next one of its own file,
      subst hne
      obtain ⟨p', hplain', hheader, hshows⟩ := hown hplain (hopen _ hfile).2
      refine ⟨header, p', hcreate, ?_, fun header' hheader' => ?_⟩
      · rw [DeskEvent.own_append, DeskEvent.of?, if_pos rfl]
        exact hplain'
      · rw [hself] at hheader'
        obtain rfl : s'.file.header = header' := Option.some.inj hheader'
        refine ⟨hheader, ?_⟩
        rw [← hhandle]
        exact hshows
    · -- and no other file has it
      refine ⟨header, p, hcreate, ?_, fun header' hheader' => ?_⟩
      · rw [DeskEvent.own_append_of_none (DeskEvent.of?_done_of_ne hne task outcome)]
        exact hplain
      · rw [hother hne] at hheader'
        obtain ⟨hheader, hshows⟩ := hopen header' hheader'
        exact ⟨hheader, hrested.spares _ _ _ hne hshows⟩

/-- A task came to an answer. -/
theorem returned {s' : Session} {task : RecordTask} {r : TaskReply}
    (hd : d.Holds imageOf gone log) (hfile : d.header? file.handle = some file.header)
    (hfree : task.PinFree) (hrun : task.run ⟨d.store, file⟩ = .ok r s')
    (hpages : s'.file.header.pages < noPage) :
    (d.put s').Holds imageOf gone (log ++ [.done file.handle task (.ok r)]) := by
  obtain ⟨path, p, hshows⟩ := hd.exists_shows hfile
  obtain ⟨_, -, hhandle, hrested, -⟩ := (hshows.ends_run hd.rest hfree).of_ok hrun
  refine hd.done hfile hrested (by rw [hhandle]) ?_
  intro path p p₀ events hplain hshows
  obtain ⟨p', htask, hheader, -, hshows'⟩ := (hshows.ends_run hd.rest hfree).of_ok hrun
  have hheader : _ = p'.header := congrArg RecordFile.header hheader
  rw [hheader] at hpages
  exact ⟨p', hplain.returned hfree htask hpages, hheader, hshows' hpages⟩

/-- A task failed. -/
theorem failed {s' : Session} {task : RecordTask} {e : Fault RecordError}
    (hd : d.Holds imageOf gone log) (hfile : d.header? file.handle = some file.header)
    (hfree : task.PinFree) (hrun : task.run ⟨d.store, file⟩ = .error e s') :
    (d.put s').Holds imageOf gone (log ++ [.done file.handle task (.error e)]) := by
  obtain ⟨path, p, hshows⟩ := hd.exists_shows hfile
  obtain ⟨-, hfile', hrested, -⟩ := (hshows.ends_run hd.rest hfree).of_error hrun
  refine hd.done hfile hrested (congrArg RecordFile.handle hfile') ?_
  intro path p p₀ events hplain hshows
  obtain ⟨⟨p', htask⟩, -, -, hshows'⟩ := (hshows.ends_run hd.rest hfree).of_error hrun
  exact ⟨p, hplain.failed hfree htask, congrArg PlainFile.header hshows'.plain_eq, hshows'⟩

/-- **A file was created and opened**, under a handle that is new. It is younger than those
that are gone. -/
theorem made (hd : d.Holds imageOf gone log)
    (hcreate : RecordFile.create path options d.store = .ok () store)
    (hclosed : ∀ i, store.files.disk.Leads path i → ∀ o ∈ d.store.files.table.opened, o.image ≠ i)
    (hyounger : ∀ i, store.files.disk.Leads path i → ∀ h ∈ gone, imageOf h < i)
    (hopen : RecordFile.openFile path store = .ok file store') :
    ∃ imageOf',
      (d.put ⟨store', file⟩).Holds imageOf' gone (log ++ [.made file.handle path options]) := by
  obtain ⟨header, imageOf', hheader, hnext, hrest, hleads, hstands, hshows, hspares⟩ :=
    hd.rest.created hcreate hclosed (fun i hi h hmem => Nat.ne_of_lt (hyounger i hi h hmem)) hopen
  obtain ⟨o, ho, -⟩ := hshows.place
  have hlt : file.handle < store'.files.table.next := hrest.tidy.files.lt_next ho
  have hmem : ∀ {handle path' options'},
      .made handle path' options' ∈ log ++ [.made file.handle path options] →
        .made handle path' options' ∈ log ∨
          handle = file.handle ∧ path' = path ∧ options' = options := by
    intro handle path' options' h
    rw [List.mem_append, List.mem_singleton] at h
    exact h.imp_right fun h => by cases h; exact ⟨rfl, rfl, rfl⟩
  have hsame : ∀ handle, DeskEvent.own handle (log ++ [.made file.handle path options]) =
      DeskEvent.own handle log := fun handle => DeskEvent.own_append_of_none rfl log
  have hother : ∀ {handle}, handle ≠ file.handle →
      (d.put ⟨store', file⟩).header? handle = d.header? handle := by
    intro handle hne
    rw [Desk.header?_put, if_neg hne]
  have hself : (d.put ⟨store', file⟩).header? file.handle = some file.header := by
    rw [Desk.header?_put, if_pos rfl]
  refine ⟨imageOf', ?_⟩
  constructor
  case rest => exact hrest
  case gone_lt =>
    intro h hmem
    have hbefore := (hd.gone_lt hmem).1
    refine ⟨Nat.lt_trans (Nat.lt_of_lt_of_le hbefore hnext) hlt, ?_⟩
    show imageOf' h < store'.files.disk.images.size
    rw [hstands h hmem hbefore]
    refine Nat.lt_trans (hyounger _ hleads h hmem) ?_
    rw [← hrest.sound.coherent.stands_of_byHandle? ho]
    exact hrest.tidy.files.lt_images ho
  case of_open =>
    intro handle header hheader
    by_cases hne : handle = file.handle
    · rw [hne]
      exact ⟨path, options, List.mem_append_right _ List.mem_cons_self⟩
    · rw [hother hne] at hheader
      obtain ⟨path', options', hmade⟩ := hd.of_open hheader
      exact ⟨path', options', List.mem_append_left _ hmade⟩
  case issued =>
    intro handle path' options' hmade
    rcases hmem hmade with hmade | ⟨rfl, -, -⟩
    · exact Nat.lt_trans (Nat.lt_of_lt_of_le (hd.issued hmade) hnext) hlt
    · exact hlt
  case plain =>
    intro handle path' options' hmade
    unfold Desk.Follows
    rw [hsame]
    rcases hmem hmade with hmade | ⟨rfl, rfl, rfl⟩
    · have hne : handle ≠ file.handle := Nat.ne_of_lt (Nat.lt_of_lt_of_le (hd.issued hmade) hnext)
      obtain ⟨header', p, hcreate', hplain, hopen'⟩ := hd.plain hmade
      refine ⟨header', p, hcreate', hplain, fun header'' hheader'' => ?_⟩
      rw [hother hne] at hheader''
      obtain ⟨hheader'', hshows'⟩ := hopen' header'' hheader''
      exact ⟨hheader'', hspares _ _ _ hne hshows'⟩
    · -- nothing has happened under a handle that is new
      rw [hd.own_eq_nil hnext]
      refine ⟨header, _, hheader, .start, fun header' hheader' => ?_⟩
      rw [hself] at hheader'
      obtain rfl : file.header = header' := Option.some.inj hheader'
      exact ⟨congrArg PlainFile.header hshows.plain_eq, hshows⟩
  case own_eq_nil =>
    intro handle hle
    rw [hsame]
    exact hd.own_eq_nil (Nat.le_trans hnext (Nat.le_trans (Nat.le_of_lt hlt) hle))

/-- **A file was closed**, and no other one notices. -/
theorem closed (hd : d.Holds imageOf gone log) (hfile : d.header? file.handle = some file.header)
    (hclose : file.close d.store = .ok () store) :
    (d.clear store file.handle).Holds imageOf gone (log ++ [.closed file.handle]) := by
  obtain ⟨path, p, hshows⟩ := hd.exists_shows hfile
  have hclosed := (hshows.ends_close hd.rest).of_ok hclose
  have hnext : store.files.table.next = d.store.files.table.next := by
    rw [hclosed.table_eq]
    rfl
  refine hd.step (fun _ _ _ => nofun) hclosed.rest hnext hclosed.images_eq
    (fun hheader => Option.isSome_of_eq_some (Desk.of_clear hheader).2) (fun _ => rfl) ?_
  intro handle path options hmade
  obtain ⟨header, p, hcreate, hplain, hshows⟩ := hd.plain hmade
  refine ⟨header, p, hcreate, ?_, fun header' hheader' => ?_⟩
  · rw [DeskEvent.own_append_of_none rfl]
    exact hplain
  · obtain ⟨hne, hheader'⟩ := Desk.of_clear hheader'
    obtain ⟨hheader, hshows⟩ := hshows header' hheader'
    exact ⟨hheader, hclosed.spares _ _ _ hne hshows⟩

/-- **A file is what it would be in a store of its own**: the tasks that were done with it
come to the same there. What it contains is the same, and so are its bytes after it is
closed. -/
theorem alike (hd : d.Holds imageOf gone log) (hmade : .made handle path options ∈ log)
    {path' : Path} {capacity' : Nat} {s₀ : Session} (hcapacity' : 2 ≤ capacity')
    (hfresh : s₀.Fresh path' options capacity') :
    ∃ s', SoloRun path' s₀ (DeskEvent.own handle log) s' ∧
      ∀ header, d.header? handle = some header →
        s'.contents = (⟨d.store, ⟨handle, header⟩⟩ : Session).contents ∧
        ∃ bytes, (⟨d.store, ⟨handle, header⟩⟩ : Session).ClosesAs path bytes ∧
          s'.ClosesAs path' bytes := by
  obtain ⟨header, p, hheader, hplain, hopen⟩ := hd.plain hmade
  obtain ⟨header', hheader', halone⟩ := hfresh.alone hcapacity'
  obtain rfl : header' = header := Except.ok.inj (hheader'.symm.trans hheader)
  obtain ⟨s', hsolo, hs'⟩ := hplain.solo halone
  refine ⟨s', hsolo, fun header'' hheader'' => ?_⟩
  have hshows := (hopen header'' hheader'').2
  exact ⟨hs'.contents_eq.trans (hshows.contents_eq hd.rest).symm, p.bytes,
    hshows.closesAs hd.rest, hs'.closesAs⟩

end Desk.Holds

/-! ## The run -/

variable {disk : Disk} {capacity limit : Nat}

/-- **The run lemma**: at every point, each file is what its own events make of the plain
file. -/
theorem SharedRun.holds (h : SharedRun disk capacity limit log d) (hcapacity : 2 ≤ capacity) :
    ∃ imageOf, d.Holds imageOf ∅ log := by
  induction h with
  | start =>
    exact ⟨id, Store.atRest_ofDisk disk hcapacity, nofun, nofun, nofun, nofun, fun _ => rfl⟩
  | made _ hcreate hclosed hopen ih =>
    obtain ⟨imageOf, hd⟩ := ih
    exact hd.made hcreate hclosed (fun _ _ _ => nofun) hopen
  | returned _ hfile hfree hrun hpages ih =>
    obtain ⟨imageOf, hd⟩ := ih
    exact ⟨imageOf, hd.returned hfile hfree hrun hpages⟩
  | failed _ hfile hfree hrun ih =>
    obtain ⟨imageOf, hd⟩ := ih
    exact ⟨imageOf, hd.failed hfile hfree hrun⟩
  | closed _ hfile hclose ih =>
    obtain ⟨imageOf, hd⟩ := ih
    exact ⟨imageOf, hd.closed hfile hclose⟩

/-- **Files that share a pool do not interfere.** Whatever has been done with other files,
the answers and the errors that the tasks of a file came to are those of the same tasks
in a store of its own. What the file contains is the same in both, its header and its
pages, and so are its bytes after it is closed. -/
theorem files_do_not_interfere (hcapacity : 2 ≤ capacity)
    (h : SharedRun disk capacity limit log d) (hmade : .made handle path options ∈ log)
    {path' : Path} {capacity' : Nat} {s₀ : Session} (hcapacity' : 2 ≤ capacity')
    (hfresh : s₀.Fresh path' options capacity') :
    ∃ s', SoloRun path' s₀ (DeskEvent.own handle log) s' ∧
      ∀ header, d.header? handle = some header →
        s'.contents = (⟨d.store, ⟨handle, header⟩⟩ : Session).contents ∧
        ∃ bytes, (⟨d.store, ⟨handle, header⟩⟩ : Session).ClosesAs path bytes ∧
          s'.ClosesAs path' bytes := by
  obtain ⟨imageOf, hd⟩ := h.holds hcapacity
  exact hd.alike hmade hcapacity' hfresh

/-! ## Two files -/

/-- A store in which a second file was created beside an empty one. -/
def tinyMore : Store := stateAfter (RecordFile.create ⟨["g"]⟩ ⟨1, some 1⟩) (tinyFresh 2).store

/-- The second file after it was opened. -/
def tinyOther : Session where
  store := stateAfter (RecordFile.openFile ⟨["g"]⟩) tinyMore
  file := ⟨3, ⟨1, 1, 0, 1, none⟩⟩

/-- The two files, with a record in the second one. -/
def tinyDesk : Desk :=
  let both := ((Desk.empty (.ofDisk .empty 2 2)).put (tinyFresh 2)).put tinyOther
  both.put (stateAfter tinyTask.run tinyOther)

set_option maxRecDepth 100000 in
theorem tinyDesk_run :
    SharedRun .empty 2 2
      [.made 1 ⟨["f"]⟩ ⟨1, some 1⟩, .made 3 ⟨["g"]⟩ ⟨1, some 1⟩,
        .done 3 tinyTask (.ok (.reply (.inserted ⟨0, 0⟩)))] tinyDesk := by
  have hcreate : RecordFile.create ⟨["g"]⟩ ⟨1, some 1⟩ (tinyFresh 2).store = .ok () tinyMore := rfl
  have hopen : RecordFile.openFile ⟨["g"]⟩ tinyMore = .ok tinyOther.file tinyOther.store := rfl
  have hrun : tinyTask.run tinyOther =
      .ok (.reply (.inserted ⟨0, 0⟩)) (stateAfter tinyTask.run tinyOther) := rfl
  have hleads : tinyMore.files.disk.Leads ⟨["g"]⟩ 1 := ⟨_, rfl, rfl⟩
  have himages : (tinyFresh 2).store.files.table.opened.map OpenFile.image = [0] := rfl
  have hfirst := SharedRun.start.made tinyFresh_two.1 (fun _ _ => nofun) tinyFresh_two.2
  have hclosed : ∀ i, tinyMore.files.disk.Leads ⟨["g"]⟩ i →
      ∀ o ∈ (tinyFresh 2).store.files.table.opened, o.image ≠ i := by
    intro i hi o ho
    have himage := List.mem_map_of_mem (f := OpenFile.image) ho
    rw [himages, List.mem_singleton] at himage
    rw [himage, hleads.eq hi]
    exact Nat.zero_ne_one
  have hboth := hfirst.made hcreate hclosed hopen
  have hfree : tinyTask.PinFree := trivial
  exact hboth.returned rfl hfree hrun (show 1 < noPage by decide)

set_option maxRecDepth 100000 in
/-- A record is put into one of two files that share two frames, and the same is done in a
store that has no other file. -/
theorem files_do_not_interfere_tiny :
    ∃ s', SoloRun ⟨["f"]⟩ (tinyFresh 3) [.done tinyTask (.ok (.reply (.inserted ⟨0, 0⟩)))] s' ∧
      ∃ header, tinyDesk.header? 3 = some header ∧
        s'.contents = (⟨tinyDesk.store, ⟨3, header⟩⟩ : Session).contents := by
  obtain ⟨s', hsolo, hopen⟩ := files_do_not_interfere (Nat.le_refl 2) tinyDesk_run
    (List.mem_cons_of_mem _ List.mem_cons_self) (Nat.le_succ 2) ⟨_, _, _, tinyFresh_three⟩
  have hheader : tinyDesk.header? 3 = some (stateAfter tinyTask.run tinyOther).file.header := rfl
  exact ⟨s', hsolo, _, hheader, (hopen _ hheader).1⟩

end Shared

end SlottedFile
