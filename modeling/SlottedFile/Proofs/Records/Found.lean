import SlottedFile.Proofs.Records.Changes
import SlottedFile.Proofs.Records.Run
import SlottedFile.Proofs.Records.Tasks

/-!
# A record file that was found

Whoever opens a record file knows of its header only what was checked: that the slots fit
in a page, that the bitmap is the one they need, and that the free list starts inside the
file. What is in the pages may have been written by anybody. Counters may be wrong, bits
may be set of records that are not counted, and links may lead out of the file or in a
circle.

A run of such a file (`FoundRun`) starts with the opening, and from then on anything may
be asked of it, while other clients of the store work on their own files. It keeps the
size that its header tells (`FoundRun.inHand`), and that is enough for a call to leave
every record alone but its own (`other_records_kept`).
-/

namespace SlottedFile

/-- Whether a task may be asked for: a pin that it is given is held. -/
def RecordTask.Allowed (s : Session) : RecordTask → Prop
  | call c => c.Allowed s
  | _ => True

/-- **A run of a record file that was found on a disk**, with the other client of its store.
No handle but its own stands for the file. -/
inductive FoundRun (other : Nat → ImageId) (image : ImageId) (path : Path) :
    Session → Client → Prop
  | opened {s₀ s₁ : Store} {c : Client} {file : RecordFile}
      (hpool : PoolReachable other s₀ c) (hother : ∀ h, other h ≠ image)
      (hleads : s₀.files.disk.Leads path image)
      (hopen : RecordFile.openFile path s₀ = .ok file s₁) :
      FoundRun other image path ⟨s₁, file⟩ c
  | asked {s : Session} {c : Client} {task : RecordTask} (h : FoundRun other image path s c)
      (hallowed : task.Allowed s) : FoundRun other image path (stateAfter task.run s) c
  | beside {s : Session} {store : Store} {c c' : Client} (h : FoundRun other image path s c)
      (hstep : PoolStep (standFor other image s.file.handle) (· ≠ s.file.handle)
        (s.store, c) (store, c')) :
      FoundRun other image path { s with store } c'

/-! ## What a task may leave behind -/

section Tasks

variable {imageOf : Nat → ImageId} {raw : List Hold} {p : PlainFile} {s : Session} {α : Type}

/-- **What a task comes to**: a file that has grown, and a failure of the pool or an error
if it fails. -/
def Comes (imageOf : Nat → ImageId) (raw : List Hold) (x : RecordM α) (s : Session) : Prop :=
  Ends x s
    (fun _ s' => ∃ p', (s.plain imageOf).Grown p' ∧ Session.Became imageOf raw s p' s')
    (fun e s' => (∃ p', (s.plain imageOf).Grown p' ∧ Session.Became imageOf raw s p' s') ∧
      (PoolFailure (s.plain imageOf) e ∨ e.IsError))

/-- What does what a plain operation does comes to what that one comes to. -/
theorem Does.comes {x : RecordM α} {m : PlainM α}
    (h : Does imageOf raw [] (s.plain imageOf) x m s) (hsized : (s.plain imageOf).Sized)
    (hm : Ends m (s.plain imageOf) (fun _ p' => (s.plain imageOf).Grown p') fun e _ => e.IsError) :
    Comes imageOf raw x s := by
  refine Ends.imp h ?_ ?_
  · rintro a s' ⟨p', hok, hbecame, -⟩
    exact ⟨p', hm.of_ok hok, hbecame⟩
  · rintro e s' ⟨hbecame, -, hreason⟩
    refine ⟨⟨_, .refl hsized, hbecame⟩, hreason.imp_right ?_⟩
    rintro ⟨p', herror⟩
    exact hm.of_error herror

theorem PlainFile.Looks.grown {m : PlainM α} (h : p.Looks m) (hsized : p.Sized) :
    Ends m p (fun _ p' => p.Grown p') fun e _ => e.IsError :=
  Ends.imp h (fun _ p' (heq : p' = p) => heq.symm ▸ .refl hsized) fun _ _ h => h.2

/-- A page is found, or the file is extended. -/
theorem PageChoice.grown_find (hsized : p.Sized) (which : PageChoice) :
    Ends which.find p (fun _ p' => p.Grown p') fun e _ => e.IsError := by
  have hleaves : which.call.LeavesBytes := by cases which <;> trivial
  have hinside : which.call.Inside p := by cases which <;> trivial
  have hplain := RecordCall.altered_plain hsized hleaves hinside
  rw [which.plain_call, ends_map] at hplain
  exact hplain.imp (fun _ _ h => h.1.grown) fun _ _ h => h

/-- **Every task leaves a file of the size that its header tells**, and does not overrun
unless the pool does. -/
theorem RecordTask.comes (hs : s.Good imageOf raw) (hsized : (s.plain imageOf).Sized)
    {task : RecordTask} (hallowed : task.Allowed s) : Comes imageOf raw task.run s := by
  cases task with
  | call c =>
    refine ends_map.mpr (Ends.imp (c.ends_run_of_sized hs rfl hsized hallowed) ?_ ?_)
    · rintro r s' ⟨full, p', hplain, hbecame, -⟩
      exact ⟨p', c.grows_plain.of_ok hsized hplain, hbecame⟩
    · rintro e s' ⟨hbecame, hreason⟩
      refine ⟨⟨_, (c.altered_left hsized).grown, hbecame⟩, hreason.imp_right ?_⟩
      rintro ⟨p', hplain⟩
      exact RecordCall.isError_of_plain hsized (RecordCall.Allowed.inside hs hsized hallowed) hplain
  | touch which =>
    exact ends_map.mpr ((which.does hs rfl hsized).comes hsized (which.grown_find hsized))
  | inspect =>
    exact ends_map.mpr ((does_inspect hs rfl hsized).comes hsized
      ((PlainFile.looks_inspect hsized).grown hsized))
  | check =>
    exact (ends_map (f := fun _ => TaskReply.sound)).mpr ((does_check hs rfl hsized).comes hsized
      ((PlainFile.looks_check hsized).grown hsized))

/-- **And its pages can be addressed**, if they could before. -/
theorem RecordTask.ends_reach (hs : s.Good imageOf raw) (hsized : (s.plain imageOf).Sized)
    (hreach : s.file.header.Reach) {task : RecordTask} (hallowed : task.Allowed s) :
    Ends task.run s (fun _ s' => s'.file.header.Reach) fun _ s' => s'.file.header.Reach := by
  have hfit := hs.fit hsized.count hreach
  -- nothing is said about room in the pool
  have htaking : ∀ {take : RecordM Pin}, Taking False 0 take →
      Ends (do return .reply (← (do return .page (← take).key.page : RecordM RecordReply)) :
          RecordM TaskReply) s
        (fun _ s' => s'.file.header.Reach) fun _ s' => s'.file.header.Reach := by
    intro take htake
    refine ends_map.mpr (ends_map.mpr ?_)
    exact (htake s hfit False.elim).imp (fun _ _ h => h.fit.reach) fun _ _ h => h.steady.fit.reach
  by_cases hmoves : task.MovesPin
  · cases task with
    | call c =>
      cases c with
      | newPage => exact htaking taking_newPage
      | freePage => exact htaking taking_freePage
      | pinPage page => exact htaking (taking_pinPage page)
      | unpin pin =>
        have hanswers := (RecordCall.unpin pin).ends_run_of_sized hs rfl hsized hallowed
        refine ends_map.mpr (Ends.imp hanswers ?_ ?_)
        · rintro r s' ⟨full, p', hplain, hbecame, -⟩
          cases hplain
          rwa [hbecame.file_eq rfl]
        · rintro e s' ⟨hbecame, -⟩
          rwa [hbecame.file_eq rfl]
      | insert | insertAt | delete | update | get | scan | first | next | write | releasePage
      | flush => exact hmoves.elim
    | touch | inspect | check => exact hmoves.elim
  · exact (RecordTask.balanced hmoves s hfit False.elim).imp (fun _ _ h => h.fit.reach)
      fun _ _ h => h.steady.fit.reach

end Tasks

/-! ## The run -/

section Run

variable {other : Nat → ImageId} {image : ImageId} {path : Path} {raw : List Hold} {s s' : Session}
  {c : Client}

/-- **One step**: a file in hand stays in hand, whatever is asked of it. -/
theorem InHand.asked (h : InHand other image raw s) (hreach : s.file.header.Reach)
    {task : RecordTask} (hallowed : task.Allowed s) :
    InHand other image raw (stateAfter task.run s) ∧
      (stateAfter task.run s).file.header.Reach := by
  have hgrown : ∀ {s'}, (∃ p', (s.own other image).Grown p' ∧
      Session.Became (standFor other image s.file.handle) raw s p' s') →
        InHand other image raw s' := by
    rintro s' ⟨p', hgrown, hbecame⟩
    exact (h.became hbecame hgrown.sized).1
  exact ⟨Ends.stateAfter ((RecordTask.comes h.good h.sized hallowed).imp (fun _ _ h => hgrown h)
      fun _ _ h => hgrown h.1),
    Ends.stateAfter (RecordTask.ends_reach h.good h.sized hreach hallowed)⟩

/-- **The run lemma**: a file that was found is in hand at every point of a run, and its
pages can be addressed. -/
theorem FoundRun.inHand (h : FoundRun other image path s c) :
    InHand other image c.holds s ∧ s.file.header.Reach := by
  induction h with
  | opened hpool hother hleads hopen =>
    have hsound := hpool.sound
    have hopened := (ends_openRecordFile hsound hother hleads).of_ok hopen
    exact ⟨.of_opened hsound.coherent.injective hother hopened,
      FileHeader.reach_of_pages_lt (FileHeader.pages_lt_of_decode hopened.decoded)⟩
  | asked _ hallowed ih => exact ih.1.asked ih.2 hallowed
  | beside _ hstep ih => exact ⟨(ih.1.beside hstep).1, ih.2⟩

/-- **No operation touches another record**, whatever is in the pages of the file and
whether it succeeds or fails. Every place that the file had holds what it held, but for
the record that the call was given or has answered, and that record is put where there
was none. -/
theorem other_records_kept (h : FoundRun other image path s c) {call : RecordCall}
    (hleaves : call.LeavesBytes) (hallowed : call.Allowed s) :
    Ends call.run s
      (fun r s' =>
        (∀ id : RecordId, id.page < s.file.header.pages → id.slot < s.file.header.recordsPerPage →
          ¬call.Own r id → ∃ entry, (s.own other image).entry id = .ok entry ∧
            (s'.own other image).entry id = .ok entry) ∧
        ∀ id ∈ call.fills? r, id.page < s.file.header.pages →
          ∃ bytes, (s.own other image).entry id = .ok (false, bytes))
      (fun _ s' => ∀ id : RecordId, id.page < s.file.header.pages →
        id.slot < s.file.header.recordsPerPage → ∃ entry, (s.own other image).entry id = .ok entry ∧
          (s'.own other image).entry id = .ok entry) := by
  obtain ⟨hhand, -⟩ := h.inHand
  have hsized := hhand.sized
  have hinside := RecordCall.Allowed.inside hhand.good hsized hallowed
  have htold := RecordCall.altered_plain hsized hleaves hinside
  refine Ends.imp (call.ends_run_of_sized hhand.good rfl hsized hallowed) ?_ ?_
  · rintro r s' ⟨full, p', hplain, hbecame, hr⟩
    obtain ⟨haltered, hfills⟩ : call.Told (s.own other image) r p' := by
      have htold := htold.of_ok hplain
      rcases hr with rfl | hcut
      · exact htold
      · exact hcut.told htold
    rw [(hhand.became hbecame haltered.grown.sized).2]
    refine ⟨fun id hpage hslot hown => haltered.entry_eq hsized hpage hslot hown, ?_⟩
    intro id hid hpage
    obtain ⟨hslot, hfree⟩ := hfills id hid
    rw [PlainFile.entry_eq hsized.fits hslot, hfree hpage]
    exact ⟨_, rfl⟩
  · rintro e s' ⟨hbecame, -⟩ id hpage hslot
    have haltered := call.altered_left hsized
    rw [(hhand.became hbecame haltered.grown.sized).2]
    exact haltered.entry_eq hsized hpage hslot not_false

/-- A file may be found in a store that was just set up. -/
theorem FoundRun.of_disk (hinj : Function.Injective other) (hother : ∀ h, other h ≠ image)
    {disk : Disk} {capacity limit : Nat} (hleads : disk.Leads path image)
    (hopen : RecordFile.openFile path (.ofDisk disk capacity limit) = .ok s.file s.store) :
    FoundRun other image path s ⟨[], (Store.ofDisk disk capacity limit).diskBlock other⟩ :=
  .opened (.run hinj disk capacity limit .refl) hother hleads hopen

/-! ## A file that is not in order -/

/-- A disk with a file of one page, which counts four billion records, holds one, and
follows itself on the free list. -/
def strayDisk : Disk :=
  (Disk.empty.addFile (Disk.home ++ ["f"])).setImage 0
    ((Image.empty.setBlock 0 (Buffer.ofList blockSize (FileHeader.encode ⟨1, 2, 1, 1, some 0⟩))).setBlock
      1 (Buffer.ofList blockSize [255, 255, 255, 255, 0, 0, 0, 0, 1, 7]))

/-- That file after it was opened. -/
def strayOpened : Session where
  store := stateAfter (RecordFile.openFile ⟨["f"]⟩) (.ofDisk strayDisk 1 1)
  file := ⟨0, ⟨1, 2, 1, 1, some 0⟩⟩

set_option maxRecDepth 100000 in
theorem strayOpened_run : FoundRun (· + 1) 0 ⟨["f"]⟩ strayOpened
    ⟨[], (Store.ofDisk strayDisk 1 1).diskBlock (· + 1)⟩ := by
  have hopen : RecordFile.openFile ⟨["f"]⟩ (.ofDisk strayDisk 1 1) =
      .ok strayOpened.file strayOpened.store := rfl
  exact .of_disk (fun _ _ h => Nat.succ.inj h) Nat.succ_ne_zero ⟨_, rfl, rfl⟩ hopen

set_option maxRecDepth 100000 in
/-- Another record of that page is where it was after a record was put beside it. -/
theorem other_records_kept_stray :
    ∃ s', (RecordCall.insert [9]).run strayOpened = .ok (.inserted ⟨0, 1⟩) s' ∧
      ∃ entry, (strayOpened.own (· + 1) 0).entry ⟨0, 0⟩ = .ok entry ∧
        (s'.own (· + 1) 0).entry ⟨0, 0⟩ = .ok entry := by
  have hallowed : (RecordCall.insert [9]).Allowed strayOpened := trivial
  have hleaves : (RecordCall.insert [9]).LeavesBytes := trivial
  have hkept := other_records_kept strayOpened_run hleaves hallowed
  refine ⟨stateAfter (RecordCall.insert [9]).run strayOpened, rfl, ?_⟩
  exact (hkept.of_ok rfl).1 ⟨0, 0⟩ (by decide) (by decide) nofun

end Run

end SlottedFile
