import SlottedFile.Proofs.Records.Desk
import SlottedFile.Proofs.Records.Opening
import SlottedFile.Proofs.Records.Run
import SlottedFile.Proofs.Records.Tasks

/-!
# Pins are balanced

Whoever takes a page of a record file holds a pin of it until the pin is dropped. In
between, any number of files are created, opened, worked on and closed in the same store,
and pages are written back and evicted (`HoldingRun`). Whatever of this fails, the pool
counts exactly the pins that are held. So no page is evicted while somebody holds a pin
of it, and every pin can be given back (`pins_are_balanced`).

Neither the pages on the disk nor the headers need be in order for this.
-/

namespace SlottedFile

/-! ## Runs in which pins are held -/

/-- **Work on a store that no record file is asked for.** -/
inductive Upkeep where
  | flushPage (key : PageKey)
  | flushFile (file : Nat)
  | flushAll
  | evict (key : PageKey)
  | markDirty (key : PageKey)
  | discardFile (file : Nat)
  | persistHeader (file : RecordFile)
  | noteWrite (pin : Pin)

namespace Upkeep

/-- Do the work. -/
def run : Upkeep → StoreM RecordError Unit
  | flushPage key => RecordFile.passing (Store.flushPage key)
  | flushFile file => RecordFile.passing (Store.flushFile file)
  | flushAll => RecordFile.passing Store.flushAll
  | evict key => RecordFile.passing do
    let _ ← Store.evict key
  | markDirty key => RecordFile.passing (Store.markDirty key)
  | discardFile file => RecordFile.passing (Store.discardFile file)
  | persistHeader file => file.persistHeader
  | noteWrite pin => Store.noteWrite pin

/-- Whether no pin is held of a file that is taken out of the pool. -/
def Allowed (pins : List Pin) : Upkeep → Prop
  | discardFile file => ∀ pin ∈ pins, pin.key.file ≠ file
  | _ => True

end Upkeep

namespace Desk

/-- Whether a path leads to no file that is in use. -/
def Unused (d : Desk) (path : Path) : Prop :=
  ∀ handle o, (d.header? handle).isSome → d.store.files.table.byHandle? handle = some o →
    ¬d.store.files.disk.Leads path o.image

/-- **Whether a store retains every file that is in use**: as long as it is open, it is as
long as it was. -/
def Retained (d : Desk) (store : Store) : Prop :=
  ∀ handle, (d.header? handle).isSome → d.store.Retains handle store

end Desk

/-- **A run in which pins are held**, the latest first. A file is used under one handle at
a time, and is not closed as long as somebody holds a pin of it. Each step but the taking
of a pin may end well or fail.

To create a file can be to empty one that is in use: the path `new/../f` leads to no file
until the directory `new` is made, and then it leads to `f`. Its handle is closed in that
case, so that no page of it is asked for any more. But if `f` has a second name that is in
use, or if the path is too long on the way, the handle stays open of a file that was emptied.
That is what `hretained` excludes. On a disk on which no file stands at two places there is
nothing to exclude, if only the path leads somewhere afterwards (`HoldingRun.create`). -/
inductive HoldingRun (disk : Disk) (capacity limit : Nat) : Desk → List Pin → Prop
  | start : HoldingRun disk capacity limit (.empty (.ofDisk disk capacity limit)) []
  | created {d : Desk} {pins : List Pin} {path : Path} {options : FileOptions}
      (h : HoldingRun disk capacity limit d pins)
      (hretained : d.Retained (stateAfter (RecordFile.create path options) d.store)) :
      HoldingRun disk capacity limit
        { d with store := stateAfter (RecordFile.create path options) d.store } pins
  | opened {d : Desk} {pins : List Pin} {path : Path} {file : RecordFile} {store : Store}
      (h : HoldingRun disk capacity limit d pins) (hunused : d.Unused path)
      (hopen : RecordFile.openFile path d.store = .ok file store) :
      HoldingRun disk capacity limit (d.put ⟨store, file⟩) pins
  | refused {d : Desk} {pins : List Pin} {path : Path} {e : Fault RecordError} {store : Store}
      (h : HoldingRun disk capacity limit d pins) (hunused : d.Unused path)
      (hopen : RecordFile.openFile path d.store = .error e store) :
      HoldingRun disk capacity limit { d with store } pins
  | done {d : Desk} {pins : List Pin} {file : RecordFile} {task : RecordTask}
      (h : HoldingRun disk capacity limit d pins)
      (hfile : d.header? file.handle = some file.header) (hkeeps : ¬task.MovesPin) :
      HoldingRun disk capacity limit (d.put (stateAfter task.run ⟨d.store, file⟩)) pins
  | taken {d : Desk} {pins : List Pin} {file : RecordFile} {which : PageChoice} {pin : Pin}
      {s : Session} (h : HoldingRun disk capacity limit d pins)
      (hfile : d.header? file.handle = some file.header)
      (htake : which.take ⟨d.store, file⟩ = .ok pin s) :
      HoldingRun disk capacity limit (d.put s) (pin :: pins)
  | notTaken {d : Desk} {pins : List Pin} {file : RecordFile} {which : PageChoice}
      {e : Fault RecordError} {s : Session} (h : HoldingRun disk capacity limit d pins)
      (hfile : d.header? file.handle = some file.header)
      (htake : which.take ⟨d.store, file⟩ = .error e s) :
      HoldingRun disk capacity limit (d.put s) pins
  | dropped {d : Desk} {pins : List Pin} {pin : Pin} (h : HoldingRun disk capacity limit d pins)
      (hpin : pin ∈ pins) :
      HoldingRun disk capacity limit
        { d with store := stateAfter (Store.release pin : StoreM RecordError Unit) d.store }
        (pins.erase pin)
  | tended {d : Desk} {pins : List Pin} {work : Upkeep} (h : HoldingRun disk capacity limit d pins)
      (hallowed : work.Allowed pins) :
      HoldingRun disk capacity limit { d with store := stateAfter work.run d.store } pins
  | closed {d : Desk} {pins : List Pin} {file : RecordFile}
      (h : HoldingRun disk capacity limit d pins)
      (hfile : d.header? file.handle = some file.header)
      (hdropped : ∀ pin ∈ pins, pin.key.file ≠ file.handle) :
      HoldingRun disk capacity limit (d.clear (stateAfter file.close d.store) file.handle) pins

/-! ## A store that accounts for its pins -/

/-- **A store that accounts for the pins that are held**: the pool counts each of them and
no other, the page of each is in the frame that the pin is for, and so far no pin was
refused that was given back. -/
structure Store.Accounts (s : Store) (pins : List Pin) : Prop where
  tidy : s.Tidy
  held_eq : s.held.map (·.pin) = pins
  ids_nodup : (pins.map (·.id)).Nodup
  pinCount_eq : ∀ k, s.pool.pinCount k = pins.countP (·.key = k)
  frame?_eq : ∀ pin ∈ pins, s.pool.frame? pin.key = some pin.frame
  quiet : ∀ page e, Event.unpinFailed page e ∉ s.events

section Holding

variable {P : PageKey → Prop} {s s' : Store} {pins pins' : List Pin} {pin : Pin} {k : PageKey}

namespace Store.Accounts

theorem pinCount_ne_zero_iff (h : s.Accounts pins) :
    s.pool.pinCount k ≠ 0 ↔ ∃ pin ∈ pins, pin.key = k := by
  rw [h.pinCount_eq, ← Nat.pos_iff_ne_zero, List.countP_pos_iff]
  simp only [decide_eq_true_eq]

/-- The page of a pin has a pin. -/
theorem pinCount_ne_zero (h : s.Accounts pins) (hpin : pin ∈ pins) :
    s.pool.pinCount pin.key ≠ 0 :=
  h.pinCount_ne_zero_iff.mpr ⟨pin, hpin, rfl⟩

/-- A store accounts for the pins as long as it only goes on. -/
theorem onward (h : s.Accounts pins) (honward : s.Onward P [] [] s') : s'.Accounts pins where
  tidy := honward.tidy h.tidy
  held_eq := honward.pins_eq.trans h.held_eq
  ids_nodup := h.ids_nodup
  pinCount_eq := fun k => (honward.pinCount_eq k).trans (h.pinCount_eq k)
  frame?_eq := fun pin hpin =>
    (honward.frame?_eq _ (h.pinCount_ne_zero hpin)).trans (h.frame?_eq pin hpin)
  quiet := fun page e he => h.quiet page e (honward.unpinFailed page e he)

/-- Only the files have changed. -/
theorem aside (h : s.Accounts pins) (haside : s.Aside s') : s'.Accounts pins where
  tidy := by
    refine ⟨haside.files, ?_, ?_⟩
    · rw [haside.pool_eq]
      exact h.tidy.distinct
    · rw [haside.held_eq, haside.nextPin_eq]
      exact h.tidy.id_lt
  held_eq := by
    rw [haside.held_eq]
    exact h.held_eq
  ids_nodup := h.ids_nodup
  pinCount_eq := by
    rw [haside.pool_eq]
    exact h.pinCount_eq
  frame?_eq := by
    rw [haside.pool_eq]
    exact h.frame?_eq
  quiet := fun page e he => h.quiet page e (haside.unpinFailed page e he)

/-- **A pin that was taken is accounted for.** -/
theorem took (h : s.Accounts pins) (htook : Store.Took P pin s s') :
    s'.Accounts (pin :: pins) where
  tidy := htook.tidy h.tidy
  held_eq := by
    rw [htook.onward.pins_eq, h.held_eq]
    rfl
  ids_nodup := by
    -- the number of the pin is one that no pin had before
    refine List.nodup_cons.mpr ⟨?_, h.ids_nodup⟩
    rw [← h.held_eq, List.map_map, List.mem_map]
    rintro ⟨g, hg, heq⟩
    have heq : g.pin.id = pin.id := heq
    exact Nat.not_le.2 (h.tidy.id_lt g hg) (heq ▸ htook.fresh)
  pinCount_eq := by
    intro k
    rw [htook.onward.pinCount_eq, h.pinCount_eq, List.countP_cons, List.count_singleton]
    simp only [beq_iff_eq, decide_eq_true_eq]
  frame?_eq := by
    rw [List.forall_mem_cons]
    refine ⟨htook.frame?_eq, fun g hg => ?_⟩
    exact (htook.onward.frame?_eq _ (h.pinCount_ne_zero hg)).trans (h.frame?_eq g hg)
  quiet := fun page e he => h.quiet page e (htook.onward.unpinFailed page e he)

/-- A pin is told from the others by its number. -/
theorem filter_eq_erase (h : s.Accounts pins) (hpin : pin ∈ pins) :
    pins.filter (·.id != pin.id) = pins.erase pin := by
  rw [(List.Nodup.of_map _ h.ids_nodup).erase_eq_filter]
  refine List.filter_congr fun g hg => ?_
  have hiff : g.id = pin.id ↔ g = pin :=
    ⟨fun heq => List.inj_on_of_nodup_map h.ids_nodup hg hpin heq, congrArg Pin.id⟩
  rw [bne, bne, Bool.beq_eq_decide_eq, Bool.beq_eq_decide_eq, decide_eq_decide.mpr hiff]

/-- **A pin that was dropped need not be accounted for.** -/
theorem released (h : s.Accounts pins) (hpin : pin ∈ pins) :
    (s.released pin).Accounts (pins.erase pin) where
  tidy := by
    refine ⟨h.tidy.files, h.tidy.distinct.update pin.key fun _ => rfl, fun g hg => ?_⟩
    exact h.tidy.id_lt g (List.mem_of_mem_filter hg)
  held_eq := by
    show (s.held.filter ((·.id != pin.id) ∘ (·.pin))).map (·.pin) = _
    rw [← List.filter_map, h.held_eq, h.filter_eq_erase hpin]
  ids_nodup := h.ids_nodup.sublist (List.erase_sublist.map _)
  pinCount_eq := by
    intro k
    rw [pinCount_released (h.pinCount_ne_zero hpin), h.pinCount_eq, List.countP_erase]
    simp only [hpin, true_and, decide_eq_true_eq]
    exact congrArg _ (if_congr eq_comm rfl rfl)
  frame?_eq := by
    intro g hg
    rw [frame?_released]
    exact h.frame?_eq g (List.mem_of_mem_erase hg)
  quiet := h.quiet

/-- **A pin that is held can be given back.** -/
theorem ends_unpin (h : s.Accounts pins) (hpin : pin ∈ pins) (dirty : Bool) :
    Ends (unpin pin.key dirty) s (fun _ _ => True) (fun _ _ => False) :=
  (ends_unpin_of_pinned (h.pinCount_ne_zero hpin) dirty).imp (fun _ _ _ => trivial)
    fun _ _ h => h

/-- **No work on a store touches a pin.** -/
theorem ends_upkeep (h : s.Accounts pins) {work : Upkeep} (hallowed : work.Allowed pins) :
    Ends work.run s (fun _ s' => s.Onward (fun _ => True) [] [] s')
      (fun _ s' => s.Onward (fun _ => True) [] [] s') := by
  have hs := h.tidy
  cases work with
  | flushPage key =>
    refine ends_widenError.mpr ((hs.ends_flushPage key).imp (fun _ _ h => h.1) ?_)
    rintro _ _ ⟨rfl, -⟩
    exact .refl hs
  | flushFile file =>
    exact ends_widenError.mpr ((hs.ends_flushFile file).imp (fun _ _ h => h) fun _ _ h => h.1)
  | flushAll => exact ends_widenError.mpr hs.ends_flushAll
  | evict key => exact ends_widenError.mpr (ends_bind.mpr (hs.ends_evict key))
  | markDirty key => exact ends_widenError.mpr (hs.ends_markDirty trivial)
  | discardFile file =>
    refine ends_widenError.mpr (hs.ends_discardFile fun k hk => ?_)
    by_contra hpins
    obtain ⟨pin, hpin, rfl⟩ := h.pinCount_ne_zero_iff.mp hpins
    exact hallowed pin hpin hk
  | persistHeader file =>
    refine ends_widenError.mpr (ends_onFiles.mpr ?_)
    refine (Files.ends_writeHeader hs.files file.handle _).imp ?_ ?_
    · rintro _ fs ⟨o, ho, rfl⟩
      exact .of_files hs (.putBlock (hs.files.lt_images ho) _ _)
    · rintro _ fs ⟨rfl, -⟩
      exact .refl hs
  | noteWrite pin => exact hs.noteWrite pin

end Store.Accounts

/-! ## A desk whose files can be worked on -/

/-- **A store that goes on with what is at a desk**: no handle is given out again, no file
gets a second place, and every file in use is retained. -/
structure Desk.GoesOn (d : Desk) (store : Store) : Prop where
  next_le : d.store.files.table.next ≤ store.files.table.next
  unshared : d.store.files.disk.Unshared → store.files.disk.Unshared
  retained : d.Retained store

theorem Desk.GoesOn.of_onward {d : Desk} {store : Store} {P : PageKey → Prop}
    {keys : List PageKey} (h : d.store.Onward P keys pins store) : d.GoesOn store where
  next_le := Nat.le_of_eq (congrArg FileTable.next h.files.table_eq.symm)
  unshared := fun hdisk => hdisk.congr h.files.entries_eq
  retained := fun handle _ => h.retains handle

/-- **A desk with pins**: the store accounts for them, every file that is in use was given
its handle and can be worked on, and only such files have pins. If no file stood at two
places when the store was made, none does. -/
structure Desk.Accounts (d : Desk) (disk : Disk) (pins : List Pin) : Prop where
  counted : d.store.Accounts pins
  issued : ∀ handle, (d.header? handle).isSome → handle < d.store.files.table.next
  fit : ∀ {file : RecordFile}, d.header? file.handle = some file.header →
    (⟨d.store, file⟩ : Session).Fit
  in_use : ∀ pin ∈ pins, (d.header? pin.key.file).isSome
  unshared : disk.Unshared → d.store.files.disk.Unshared

namespace Desk.Accounts

variable {d : Desk} {disk : Disk} {file : RecordFile} {store : Store} {t : Session}

/-- A file that is retained can still be worked on. -/
theorem fit_of_retains (h : d.Accounts disk pins) (hstore : store.Accounts pins')
    (hfile : d.header? file.handle = some file.header) (hretains : d.store.Retains file.handle store)
    (hpins : ∀ pin ∈ pins', pin.key.file = file.handle → pin ∈ pins) :
    (⟨store, file⟩ : Session).Fit := by
  refine (h.fit hfile).beside hstore.tidy hretains fun page hpin => ?_
  obtain ⟨pin, hmem, hkey⟩ := hstore.pinCount_ne_zero_iff.mp hpin
  have hmem : pin ∈ pins := hpins pin hmem (congrArg PageKey.file hkey)
  exact h.counted.pinCount_ne_zero_iff.mpr ⟨pin, hmem, hkey⟩

/-- The store has changed, and nothing else. -/
theorem withStore (h : d.Accounts disk pins) (hstore : store.Accounts pins') (hsub : pins' ⊆ pins)
    (hgoes : d.GoesOn store) : Desk.Accounts { d with store } disk pins' where
  counted := hstore
  issued := fun handle huse => Nat.lt_of_lt_of_le (h.issued handle huse) hgoes.next_le
  fit := fun {f} hf => h.fit_of_retains hstore hf
    (hgoes.retained f.handle (Option.isSome_of_eq_some hf)) fun _ hmem _ => hsub hmem
  in_use := fun pin hpin => h.in_use pin (hsub hpin)
  unshared := fun hdisk => hgoes.unshared (h.unshared hdisk)

/-- A file is in use from now on, or goes on with another header. -/
theorem put (h : d.Accounts disk pins) (ht : t.Fit) (hstore : t.store.Accounts pins')
    (hpins : ∀ pin ∈ pins', pin.key.file ≠ t.file.handle → pin ∈ pins)
    (hlt : t.file.handle < t.store.files.table.next) (hgoes : d.GoesOn t.store) :
    (d.put t).Accounts disk pins' where
  counted := hstore
  issued := by
    intro handle huse
    rw [header?_put] at huse
    split at huse
    · exact ‹handle = _› ▸ hlt
    · exact Nat.lt_of_lt_of_le (h.issued handle huse) hgoes.next_le
  fit := by
    intro f hf
    rw [header?_put] at hf
    split at hf
    · have hself : f = t.file := by
        cases f
        cases hf
        subst_vars
        rfl
      exact hself ▸ ht
    · rename_i hne
      exact h.fit_of_retains hstore hf (hgoes.retained _ (Option.isSome_of_eq_some hf))
        fun pin hmem hfile => hpins pin hmem (hfile ▸ hne)
  in_use := by
    intro pin hpin
    rw [header?_put]
    split
    · rfl
    · rename_i hne
      exact h.in_use pin (hpins pin hpin hne)
  unshared := fun hdisk => hgoes.unshared (h.unshared hdisk)

/-- A file without pins is no longer in use. -/
theorem clear {handle : Nat} (h : d.Accounts disk pins)
    (hpins : ∀ pin ∈ pins, pin.key.file ≠ handle) :
    (d.clear d.store handle).Accounts disk pins where
  counted := h.counted
  issued := by
    intro j huse
    obtain ⟨header, hheader⟩ := Option.isSome_iff_exists.mp huse
    exact h.issued j (Option.isSome_of_eq_some (of_clear hheader).2)
  fit := fun hf => h.fit (of_clear hf).2
  in_use := by
    intro pin hpin
    rw [header?_clear, if_neg (hpins pin hpin)]
    exact h.in_use pin hpin
  unshared := h.unshared

/-- Whatever a path leads to that is not in use may be opened. -/
theorem goesOn_of_passed (h : d.Accounts disk pins) {path : Path} (hunused : d.Unused path)
    (hpassed : d.store.Passed path store) : d.GoesOn store where
  next_le := hpassed.next_le
  unshared := fun hdisk => hdisk.congr hpassed.entries_eq
  retained := by
    intro handle huse o ho
    have hbefore : d.store.files.table.byHandle? handle = some o :=
      (hpassed.was_open handle o ho).resolve_right (Nat.not_le.2 (h.issued handle huse))
    have himage := (hpassed.stays handle o hbefore (hunused handle o huse hbefore)).2
    exact ⟨hbefore, Nat.le_of_eq (congrArg Image.pages himage.symm)⟩

/-- **A file was opened** that was not in use. -/
theorem opened (h : d.Accounts disk pins) {path : Path} (hunused : d.Unused path)
    (hpassed : d.store.Passed path store) {o : OpenFile}
    (ho : store.files.table.byHandle? file.handle = some o)
    (hleads : d.store.files.disk.Leads path o.image)
    (hpages : file.header.pages = (store.files.disk.image o.image).pages)
    (hlt : file.header.pages < widthLimit 4) : (d.put ⟨store, file⟩).Accounts disk pins := by
  have hstore := h.counted.aside hpassed.aside
  have hgoes := h.goesOn_of_passed hunused hpassed
  -- a pin of the file would be one of a file that is in use, but the path leads to none
  have hnew : ∀ pin ∈ pins, pin.key.file ≠ file.handle := by
    intro pin hpin heq
    have huse := heq ▸ h.in_use pin hpin
    exact hunused _ o huse (hgoes.retained _ huse o ho).1 hleads
  refine h.put ⟨hstore.tidy, fun o' ho' => ?_, ?_, fun _ _ page hpin => ?_⟩ hstore
    (fun _ hmem _ => hmem) (hstore.tidy.files.lt_next ho) hgoes
  · obtain rfl : o = o' := Option.some.inj (ho.symm.trans ho')
    exact Nat.le_of_eq hpages
  · have hlimit : widthLimit 4 = 4294967296 := rfl
    have hblock : blockSize = 8192 := rfl
    have hoffset : Files.maxOffset = 9223372036854775807 := rfl
    show (file.header.pages + 1) * blockSize ≤ Files.maxOffset
    rw [hblock]
    omega
  · obtain ⟨pin, hmem, hkey⟩ := hstore.pinCount_ne_zero_iff.mp hpin
    exact absurd (congrArg PageKey.file hkey) (hnew pin hmem)

/-- **A file was closed** of which nobody holds a pin, or it was not because a page could
not be written back. -/
theorem closed (h : d.Accounts disk pins) (hfile : d.header? file.handle = some file.header)
    (hdropped : ∀ pin ∈ pins, pin.key.file ≠ file.handle) :
    (d.clear (stateAfter file.close d.store) file.handle).Accounts disk pins := by
  have hpins : ∀ k : PageKey, k.file = file.handle → d.store.pool.pinCount k = 0 := by
    intro k hk
    by_contra hne
    obtain ⟨pin, hpin, rfl⟩ := h.counted.pinCount_ne_zero_iff.mp hne
    exact hdropped pin hpin hk
  have hclear := h.clear hdropped
  refine Ends.stateAfter (P := fun t => (d.clear t file.handle).Accounts disk pins)
    (((h.fit hfile).ends_close hpins).imp ?_ ?_)
  · rintro _ t ⟨s₁, honward, rfl⟩
    have hcounted := h.counted.onward honward
    have haside : s₁.Aside (s₁.withTable (d.store.files.table.erase file.handle)) := by
      rw [← honward.files.table_eq]
      exact ⟨hcounted.tidy.files.erase _, rfl, rfl, rfl, rfl, fun _ _ h => h⟩
    refine hclear.withStore (hcounted.aside haside) (List.Subset.refl _) ⟨Nat.le_refl _,
      fun hdisk => hdisk.congr honward.files.entries_eq, fun handle huse o ho => ⟨?_, ?_⟩⟩
    · obtain ⟨header, hheader⟩ := Option.isSome_iff_exists.mp huse
      exact (FileTable.byHandle?_erase.trans (if_neg (of_clear hheader).1)).symm.trans ho
    · exact honward.files.pages_le o.image
  · intro _ t honward
    exact hclear.withStore (h.counted.onward honward) (List.Subset.refl _)
      (.of_onward (d := d.clear d.store file.handle) honward)

/-- A file that is in use goes on, in a store that does. -/
theorem put_onward {P : PageKey → Prop} {keys : List PageKey} {new : List Pin}
    (h : d.Accounts disk pins) (hfile : d.header? file.handle = some file.header) (ht : t.Fit)
    (hhandle : t.file.handle = file.handle) (honward : d.store.Onward P keys new t.store)
    (hstore : t.store.Accounts pins')
    (hpins : ∀ pin ∈ pins', pin.key.file ≠ t.file.handle → pin ∈ pins) :
    (d.put t).Accounts disk pins' := by
  refine h.put ht hstore hpins ?_ (.of_onward honward)
  rw [hhandle, honward.files.table_eq]
  exact h.issued _ (Option.isSome_of_eq_some hfile)

/-- **A task was done** that gives back the pins that it takes. -/
theorem done (h : d.Accounts disk pins) (hfile : d.header? file.handle = some file.header)
    {task : RecordTask} (hkeeps : ¬task.MovesPin) :
    (d.put (stateAfter task.run ⟨d.store, file⟩)).Accounts disk pins := by
  have hsteady : (⟨d.store, file⟩ : Session).Steady (stateAfter task.run ⟨d.store, file⟩) :=
    Ends.stateAfter ((RecordTask.balanced hkeeps _ (h.fit hfile) False.elim).imp
      (fun _ _ h => h) fun _ _ h => h.steady)
  exact h.put_onward hfile hsteady.fit hsteady.handle_eq hsteady.onward
    (h.counted.onward hsteady.onward) fun _ hmem _ => hmem

/-- **A page was pinned**, and whoever asked for it holds the pin. -/
theorem taken (h : d.Accounts disk pins) (hfile : d.header? file.handle = some file.header)
    {which : PageChoice} :
    Ends which.take ⟨d.store, file⟩ (fun pin t => (d.put t).Accounts disk (pin :: pins))
      (fun _ t => (d.put t).Accounts disk pins) := by
  -- whether there is room does not matter: if there is none, no pin is taken
  refine (which.taking (n := 0) _ (h.fit hfile) False.elim).imp ?_ ?_
  · intro pin t htook
    refine h.put_onward hfile htook.fit htook.handle_eq htook.took.onward
      (h.counted.took htook.took) fun g hg hne => ?_
    refine (List.mem_cons.mp hg).resolve_left ?_
    rintro rfl
    exact hne (htook.pageOf.1.trans htook.handle_eq.symm)
  · intro e t hfails
    exact h.put_onward hfile hfails.steady.fit hfails.steady.handle_eq hfails.steady.onward
      (h.counted.onward hfails.steady.onward) fun _ hmem _ => hmem

/-- **A pin was dropped.** -/
theorem dropped (h : d.Accounts disk pins) (hpin : pin ∈ pins) :
    Desk.Accounts { d with store := stateAfter (Store.release pin : StoreM RecordError Unit) d.store }
      disk (pins.erase pin) := by
  have hreleased : stateAfter (Store.release pin : StoreM RecordError Unit) d.store =
      d.store.released pin :=
    Ends.stateAfter (P := (· = d.store.released pin))
      ((Store.ends_release_of_pinCount (h.counted.pinCount_ne_zero hpin)).imp (fun _ _ h => h)
        fun _ _ h => h.elim)
  rw [hreleased]
  exact h.withStore (h.counted.released hpin) List.erase_subset
    ⟨Nat.le_refl _, fun hdisk => hdisk, fun _ _ o ho => ⟨ho, Nat.le_refl _⟩⟩

end Desk.Accounts

/-! ## The run -/

variable {disk : Disk} {capacity limit : Nat} {d : Desk}

/-- **The run lemma**: at every point, the store accounts for the pins that are held. -/
theorem HoldingRun.accounts (h : HoldingRun disk capacity limit d pins) :
    d.Accounts disk pins := by
  induction h with
  | start =>
    have htidy : (Store.ofDisk disk capacity limit).Tidy :=
      ⟨.start _ _, List.nodup_nil, nofun⟩
    exact ⟨⟨htidy, rfl, List.nodup_nil, fun _ => rfl, nofun, nofun⟩, nofun, nofun, nofun,
      fun hdisk => hdisk⟩
  | @created d _ path options _ hretained ih =>
    have htried := Store.tried_create ih.counted.tidy.files path options
    exact ih.withStore (ih.counted.aside htried.aside) (List.Subset.refl _)
      ⟨htried.next_le, fun hdisk => (htried.spares hdisk).unshared, hretained⟩
  | opened _ hunused hopen ih =>
    obtain ⟨hpassed, o, ho, hleads, hpages, hlt⟩ :=
      (ends_open_passed ih.counted.tidy.files _).of_ok hopen
    exact ih.opened hunused hpassed ho hleads hpages hlt
  | refused _ hunused hopen ih =>
    obtain ⟨-, hpassed⟩ := (ends_open_passed ih.counted.tidy.files _).of_error hopen
    exact ih.withStore (ih.counted.aside hpassed.aside) (List.Subset.refl _)
      (ih.goesOn_of_passed hunused hpassed)
  | done _ hfile hkeeps ih => exact ih.done hfile hkeeps
  | taken _ hfile htake ih => exact (ih.taken hfile).of_ok htake
  | notTaken _ hfile htake ih => exact (ih.taken hfile).of_error htake
  | dropped _ hpin ih => exact ih.dropped hpin
  | @tended d _ work _ hallowed ih =>
    have honward : d.store.Onward (fun _ => True) [] [] (stateAfter work.run d.store) :=
      Ends.stateAfter (ih.counted.ends_upkeep hallowed)
    exact ih.withStore (ih.counted.onward honward) (List.Subset.refl _) (.of_onward honward)
  | closed _ hfile hdropped ih => exact ih.closed hfile hdropped

/-- **To create a file is a step of the run**, without any assumption on what it retains, if
no file stood at two places in the beginning and the path leads somewhere in the end. -/
theorem HoldingRun.create (h : HoldingRun disk capacity limit d pins) (hdisk : disk.Unshared)
    {path : Path} {options : FileOptions} {place : Place}
    (hplace : (stateAfter (RecordFile.create path options) d.store).files.disk.canonical path =
      .ok place) :
    HoldingRun disk capacity limit
      { d with store := stateAfter (RecordFile.create path options) d.store } pins := by
  have haccounts := h.accounts
  have hfiles := haccounts.counted.tidy.files
  have htried := Store.tried_create hfiles path options
  refine h.created fun handle _ o ho => ?_
  obtain ⟨hmem, rfl⟩ := FileTable.mem_of_byHandle? ho
  refine ⟨hfiles.byHandle?_of_mem (htried.opened_subset hmem), ?_⟩
  rw [(htried.spares (haccounts.unshared hdisk)).image_eq hplace o hmem]

/-- **Pins are balanced and never leak.** Whatever was done with the files that share a
store, and whether it succeeded or failed: the pool counts as many pins of a page as are
held of it; every page of which a pin is held is buffered, in the frame that the pin is
for; and the pool has never refused to take back a pin, nor does it now. -/
theorem pins_are_balanced (h : HoldingRun disk capacity limit d pins) :
    (∀ k, d.store.pool.pinCount k = pins.countP (·.key = k)) ∧
    (∀ pin ∈ pins, d.store.pool.contains pin.key ∧
      d.store.pool.frame? pin.key = some pin.frame) ∧
    (∀ page e, Event.unpinFailed page e ∉ d.store.events) ∧
    ∀ pin ∈ pins, ∀ dirty,
      Ends (Store.unpin pin.key dirty) d.store (fun _ _ => True) (fun _ _ => False) := by
  have haccounts := h.accounts.counted
  refine ⟨haccounts.pinCount_eq, fun pin hpin => ?_, haccounts.quiet,
    fun pin hpin => haccounts.ends_unpin hpin⟩
  have hframe := haccounts.frame?_eq pin hpin
  refine ⟨?_, hframe⟩
  unfold Pool.contains
  unfold Pool.frame? at hframe
  rw [← Option.isSome_map, hframe]
  rfl

/-! ## A frame that is pinned -/

/-- The pin of the page that was added to the tiny file. -/
def tinyPin : Pin := ⟨0, ⟨1, 0⟩, 0⟩

/-- To put another record into the file. -/
def tinyFill (byte : UInt8) : RecordTask := .call (.insert [byte])

/-- The tiny file after its page was pinned, -/
def tinyTaken : Desk := ((Desk.empty tinyCreated).put tinyOpened).put tinyPinned

/-- after a file was made beside it, for which there was no handle left, -/
def tinyBeside : Desk :=
  { tinyTaken with store := stateAfter (RecordFile.create ⟨["g"]⟩ ⟨1, none⟩) tinyTaken.store }

/-- after the page was filled, -/
def tinyBusy : Desk :=
  tinyBeside.put (stateAfter (tinyFill 7).run ⟨tinyBeside.store, tinyPinned.file⟩)

/-- and after no page could be added for another record. -/
def tinyCrowded : Desk :=
  tinyBusy.put (stateAfter (tinyFill 8).run ⟨tinyBusy.store, tinyFilled.file⟩)

set_option maxRecDepth 100000 in
theorem tinyCrowded_run : HoldingRun .empty 1 1 tinyCrowded [tinyPin] := by
  have hopen : RecordFile.openFile ⟨["f"]⟩ tinyCreated = .ok tinyOpened.file tinyOpened.store := rfl
  have htake : PageChoice.new.take tinyOpened = .ok tinyPin tinyPinned := rfl
  have hcreated : HoldingRun .empty 1 1 (.empty tinyCreated) [] := HoldingRun.start.created nofun
  have htaken : HoldingRun .empty 1 1 tinyTaken [tinyPin] :=
    (hcreated.opened nofun hopen).taken rfl htake
  have hplace : tinyBeside.store.files.disk.canonical ⟨["g"]⟩ = .ok (Disk.home ++ ["g"]) := rfl
  have hbeside : HoldingRun .empty 1 1 tinyBeside [tinyPin] :=
    htaken.create Disk.unshared_empty hplace
  have hkeeps : ∀ byte, ¬(tinyFill byte).MovesPin := fun _ => id
  have hpinned : tinyBeside.header? tinyPinned.file.handle = some tinyPinned.file.header := rfl
  have hfilled : tinyBusy.header? tinyFilled.file.handle = some tinyFilled.file.header := rfl
  exact (hbeside.done hpinned (hkeeps 7)).done hfilled (hkeeps 8)

set_option maxRecDepth 100000 in
/-- The frame stays pinned when no page can be added, and the pin can be given back. -/
theorem pins_are_balanced_crowded :
    tinyCrowded.store.pool.pinCount tinyPin.key = 1 ∧
      Ends (Store.unpin tinyPin.key false) tinyCrowded.store (fun _ _ => True)
        (fun _ _ => False) := by
  obtain ⟨hcount, -, -, hunpin⟩ := pins_are_balanced tinyCrowded_run
  have hone : [tinyPin].countP (·.key = tinyPin.key) = 1 := rfl
  exact ⟨(hcount tinyPin.key).trans hone, hunpin tinyPin List.mem_cons_self false⟩

end Holding

end SlottedFile
