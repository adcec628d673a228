import SlottedFile.Proofs.Plain.Reporting
import SlottedFile.Proofs.Records.Operations
import SlottedFile.Proofs.Records.Replay

/-!
# What a record file answers if no page is wanting

A task is anything that can be asked of a record file: a call, a report or a check, or a
page that is pinned and given back at once (`RecordTask`). Like a call, a task has a
counterpart on the plain file. One that keeps no pin and uses none that somebody holds
needs two frames at most. So if there is room for two more pins in the pool and every
dirty page can be written back, it does exactly what its counterpart does, and what it
answers is the same with any other pool (`RecordTask.exact_run`).
-/

namespace SlottedFile

/-- **A page to pin.** -/
inductive PageChoice where
  | new
  /-- One that has a free slot. -/
  | free
  | number (page : Nat)

namespace PageChoice

/-- Pin the page. -/
def take : PageChoice → RecordM Pin
  | new => Session.newPage
  | free => Session.freePage
  | number page => Session.pinPage page

/-- Find the page in the plain file. -/
def find : PageChoice → PlainM Nat
  | new => PlainFile.newPage
  | free => PlainFile.freePage
  | number page => do
    PlainFile.checkPage page
    return page

/-- The call that pins the page. -/
def call : PageChoice → RecordCall
  | new => .newPage
  | free => .freePage
  | number page => .pinPage page

theorem plain_call (which : PageChoice) :
    which.call.plain = do return .page (← which.find) := by
  cases which with
  | new => rfl
  | free => rfl
  | number page =>
    unfold find
    dsimp only
    rw [bind_assoc]
    rfl

end PageChoice

/-- **A task for a record file.** -/
inductive RecordTask where
  | call (call : RecordCall)
  /-- Pin a page and give it back. -/
  | touch (which : PageChoice)
  | inspect
  | check

/-- **What a task gives back.** -/
inductive TaskReply where
  | reply (reply : RecordReply)
  | report (report : FileReport)
  | sound

/-- **Whether a scan was not broken off**: no item of it is an error. -/
def TaskReply.Unbroken : TaskReply → Prop
  | reply (.items items) => ∀ item ∈ items, ∃ id, item = .ok id
  | _ => True

/-- Whether a call leaves the pins alone. -/
def RecordCall.PinFree : RecordCall → Prop
  | newPage | freePage | pinPage _ | unpin _ | write _ _ | releasePage _ => False
  | _ => True

namespace RecordTask

/-- Do a task. -/
def run : RecordTask → RecordM TaskReply
  | call c => do return .reply (← c.run)
  | touch which => do
    return .reply (.page (← Session.withPin which.take fun pin => return pin.key.page))
  | inspect => do return .report (← Session.onStore (·.inspect))
  | check => do
    Session.onStore (·.check)
    return .sound

/-- **What a task does to the plain file.** -/
def plain : RecordTask → PlainM TaskReply
  | call c => do return .reply (← c.plain)
  | touch which => do return .reply (.page (← which.find))
  | inspect => do return .report (← PlainFile.inspect)
  | check => do
    PlainFile.check
    return .sound

/-- Whether a task keeps no pin and uses none. -/
def PinFree : RecordTask → Prop
  | call c => c.PinFree
  | _ => True

end RecordTask

/-! ## What a task does to the plain file -/

section Plain

variable {p p' : PlainFile}

theorem RecordCall.PinFree.readOnly {call : RecordCall} (h : call.PinFree) : call.ReadOnly := by
  cases call <;> first | exact h | trivial

/-- **A file that represents a keyed store** still represents one after a call. -/
theorem RecordCall.represents {call : RecordCall} (hread : call.ReadOnly) {k : KeyedStore}
    (h : Represents p k) (hpages : p.header.pages < noPage) {r : RecordReply}
    (hplain : call.plain p = .ok r p') : ∃ k', Represents p' k' := by
  obtain ⟨_, k', -, -, hfollows⟩ := ((RecordCall.agrees h hpages hread).of_ok hplain).exists_ok
  exact ⟨k', hfollows.represents⟩

/-- What an operation gives back can be given back under another form. -/
theorem map_of_ok {α β : Type} {m : PlainM α} {a : α} (h : m p = .ok a p') (f : α → β) :
    (do return f (← m) : PlainM β) p = .ok (f a) p' :=
  bind_of_ok h

/-- What an operation gives back under another form, it gives back. -/
theorem ok_of_map {α β : Type} {m : PlainM α} {f : α → β} {b : β}
    (h : (do return f (← m) : PlainM β) p = .ok b p') : ∃ a, m p = .ok a p' ∧ b = f a := by
  cases hrun : m p with
  | ok a q =>
    rw [map_of_ok hrun] at h
    cases h
    exact ⟨a, rfl, rfl⟩
  | error e q =>
    have hbind : (do return f (← m) : PlainM β) p = .error e q := bind_of_error hrun
    rw [hbind] at h
    cases h

/-- **And so it does after a task** that uses no pin. -/
theorem RecordTask.represents {task : RecordTask} (hfree : task.PinFree) {k : KeyedStore}
    (h : Represents p k) (hpages : p.header.pages < noPage) {r : TaskReply}
    (hplain : task.plain p = .ok r p') : ∃ k', Represents p' k' := by
  cases task with
  | call c =>
    obtain ⟨_, hc, -⟩ := ok_of_map hplain
    exact RecordCall.represents (RecordCall.PinFree.readOnly hfree) h hpages hc
  | touch which =>
    have hread : which.call.ReadOnly := by cases which <;> trivial
    obtain ⟨page, hfind, -⟩ := ok_of_map hplain
    refine RecordCall.represents hread h hpages (r := .page page) ?_
    rw [which.plain_call]
    exact map_of_ok hfind RecordReply.page
  | inspect =>
    obtain ⟨_, hinspect, -⟩ := ok_of_map hplain
    exact ⟨k, PlainFile.reads_inspect.eq hinspect ▸ h⟩
  | check =>
    obtain ⟨_, hcheck, -⟩ := ok_of_map (f := fun _ => TaskReply.sound) hplain
    exact ⟨k, PlainFile.reads_check.eq hcheck ▸ h⟩

/-- **No scan of a plain file is broken off.** -/
theorem RecordTask.unbroken_of_plain {task : RecordTask} {r : TaskReply}
    (h : task.plain p = .ok r p') : r.Unbroken := by
  cases task with
  | call c =>
    obtain ⟨reply, hplain, rfl⟩ := ok_of_map h
    cases reply with
    | items items =>
      have hno : ∀ {α : Type} {m : PlainM α} {f : α → RecordReply}, (∀ a, f a ≠ .items items) →
          (do return f (← m) : PlainM RecordReply) p ≠ .ok (.items items) p' := by
        intro α m f hf hm
        obtain ⟨a, -, heq⟩ := ok_of_map hm
        exact hf a heq.symm
      cases c with
      | scan =>
        cases hplain
        intro item hitem
        obtain ⟨id, -, rfl⟩ := List.mem_map.mp hitem
        exact ⟨id, rfl⟩
      | unpin => cases hplain
      | insert | insertAt | delete | update | get | first | next | newPage | freePage | pinPage
      | write | releasePage | flush => exact absurd hplain (hno fun _ => nofun)
    | inserted | record | position | page | done => trivial
  | touch which =>
    obtain ⟨page, -, rfl⟩ := ok_of_map h
    trivial
  | inspect =>
    obtain ⟨report, -, rfl⟩ := ok_of_map h
    trivial
  | check =>
    obtain ⟨_, -, rfl⟩ := ok_of_map (f := fun _ => TaskReply.sound) h
    trivial

end Plain

/-! ## Which pins a task takes -/

section Pins

variable {ample : Prop} {n : Nat} {α : Type}

theorem PageChoice.taking (which : PageChoice) : Taking ample n which.take := by
  cases which with
  | new => exact taking_newPage
  | free => exact taking_freePage
  | number page => exact taking_pinPage page

/-- A scan is balanced, whatever it gives out. -/
theorem balanced_items : Balanced ample 1 (Session.onStore Scan.items) :=
  fun _ hs hroomy => (hs.ends_items hroomy).imp (fun _ _ h => h.1) fun _ _ h => h

/-- Whether a call takes a pin or gives one back. -/
def RecordCall.MovesPin : RecordCall → Prop
  | newPage | freePage | pinPage _ | unpin _ => True
  | _ => False

/-- **Every other call gives back the pins that it takes**, two at most. -/
theorem RecordCall.balanced {call : RecordCall} (h : ¬call.MovesPin) :
    Balanced ample 2 call.run := by
  have hthen : ∀ {β : Type} {m : Nat} {x : RecordM β} (f : β → RecordReply), m ≤ 2 →
      Balanced ample m x → Balanced ample 2 (do return f (← x)) := fun f hle hx =>
    (hx.mono hle).bind fun _ => balanced_pure _
  cases call with
  | insert record => exact hthen _ (by decide) (balanced_insert record)
  | insertAt id record => exact hthen (fun _ => .done) (by decide) (balanced_insertAt id record)
  | delete id => exact hthen (fun _ => .done) (by decide) (balanced_delete id)
  | update id record => exact hthen (fun _ => .done) (by decide) (balanced_update id record)
  | get id => exact hthen _ (by decide) (balanced_get id)
  | scan => exact hthen _ (by decide) balanced_items
  | first => exact hthen _ (by decide) balanced_start
  | next id => exact hthen _ (by decide) (balanced_advance _)
  | newPage => exact absurd trivial h
  | freePage => exact absurd trivial h
  | pinPage page => exact absurd trivial h
  | unpin pin => exact absurd trivial h
  | write pin bytes => exact hthen (m := 0) (fun _ => .done) (by decide) (balanced_edit pin _)
  | releasePage pin => exact hthen (fun _ => .done) (by decide) (balanced_releasePage pin)
  | flush => exact hthen (m := 0) (fun _ => .done) (by decide) balanced_flush

/-- **A page that is pinned and given back** takes one pin at a time. -/
theorem PageChoice.balanced (which : PageChoice) :
    Balanced ample 1 (Session.withPin which.take fun pin => return pin.key.page) :=
  which.taking.balanced_withPin fun _ => balanced_pure _

/-- Whether a task takes a pin or gives one back. -/
def RecordTask.MovesPin : RecordTask → Prop
  | call c => c.MovesPin
  | _ => False

/-- **Every other task gives back the pins that it takes.** -/
theorem RecordTask.balanced {task : RecordTask} (h : ¬task.MovesPin) : Balanced ample 2 task.run := by
  cases task with
  | call c => exact (RecordCall.balanced h).bind fun _ => balanced_pure _
  | touch which => exact (which.balanced.mono (Nat.le_succ 1)).bind fun _ => balanced_pure _
  | inspect => exact (balanced_inspect.mono (Nat.le_succ 1)).bind fun _ => balanced_pure _
  | check => exact (balanced_check.mono (Nat.le_succ 1)).bind fun _ => balanced_pure _

end Pins

/-! ## Sessions with room -/

section Ready

variable {imageOf : Nat → ImageId} {raw : List Hold} {p p' : PlainFile} {s s' : Session}
  {α β : Type}

/-- **A session whose file is entire**: it is all there, and links can name its pages. -/
structure Session.Entire (imageOf : Nat → ImageId) (raw : List Hold) (p : PlainFile) (s : Session) :
    Prop where
  good : s.Good imageOf raw
  plain_eq : s.plain imageOf = p
  whole : p.Whole
  pages_lt : p.header.pages < noPage

/-- **A session that is ready**: its file is all there, links can name its pages, and
there is room for two more pins. -/
structure Session.Ready (imageOf : Nat → ImageId) (raw : List Hold) (p : PlainFile) (s : Session) :
    Prop where
  good : s.Good imageOf raw
  plain_eq : s.plain imageOf = p
  whole : p.Whole
  pages_lt : p.header.pages < noPage
  roomy : s.store.Roomy 2

theorem Session.Ready.entire (h : s.Ready imageOf raw p) : s.Entire imageOf raw p :=
  ⟨h.good, h.plain_eq, h.whole, h.pages_lt⟩

/-- A file whose pages can be counted in a header is not full. -/
theorem Session.Good.not_full (hs : s.Good imageOf raw)
    (hcount : (s.plain imageOf).count ≤ noPage) : ¬s.Full := by
  obtain ⟨o, ho⟩ := Option.isSome_iff_exists.mp hs.opened
  intro hfull
  have hfar := hfull o ho
  rw [hs.sound.coherent.stands_of_byHandle? ho] at hfar
  have hcount : (s.store.files.disk.image (imageOf s.file.handle)).pages ≤ noPage := hcount
  have hnoPage : noPage = 4294967295 := rfl
  have hblock : blockSize = 8192 := rfl
  have hoffset : Files.maxOffset = 9223372036854775807 := rfl
  rw [hblock] at hfar
  omega

/-- A header whose pages can be addressed, and one page more. -/
def FileHeader.Reach (h : FileHeader) : Prop := (h.pages + 1) * blockSize ≤ Files.maxOffset

/-- Pages that a word can count can be addressed. -/
theorem FileHeader.reach_of_pages_lt {h : FileHeader} (hpages : h.pages < widthLimit 4) :
    h.Reach := by
  have hlimit : widthLimit 4 = 4294967296 := rfl
  have hblock : blockSize = 8192 := rfl
  have hoffset : Files.maxOffset = 9223372036854775807 := rfl
  unfold FileHeader.Reach
  rw [hblock]
  omega

/-- **A file of the size that its header tells can be worked on**, as long as its pages can
be addressed. -/
theorem Session.Good.fit (hs : s.Good imageOf raw)
    (hcount : (s.plain imageOf).count = s.file.header.pages) (hreach : s.file.header.Reach) :
    s.Fit := by
  have hcoherent := hs.sound.coherent
  have himage : ∀ o, s.store.files.table.byHandle? s.file.handle = some o →
      (s.store.files.disk.image o.image).pages = s.file.header.pages := by
    intro o ho
    rw [hcoherent.stands_of_byHandle? ho]
    exact hcount
  refine ⟨⟨hcoherent.files, hcoherent.distinct, hs.sound.id_lt⟩,
    fun o ho => Nat.le_of_eq (himage o ho).symm, hreach, ?_⟩
  intro o ho page hpin
  cases hframe : s.store.pool.frame? ⟨s.file.handle, page⟩ with
  | none => exact absurd (Pool.pinCount_of_frame?_none hframe) hpin
  | some f =>
    rw [hcoherent.stands_of_byHandle? ho]
    exact hcoherent.inside hframe

theorem Session.Entire.fit (h : s.Entire imageOf raw p) : s.Fit := by
  have hheader : s.file.header = p.header := congrArg PlainFile.header h.plain_eq
  refine h.good.fit ?_ (FileHeader.reach_of_pages_lt ?_)
  · rw [h.plain_eq, hheader, h.whole.count]
  · rw [hheader]
    exact Nat.lt_trans h.pages_lt (by decide)

theorem Session.Ready.fit (h : s.Ready imageOf raw p) : s.Fit := h.entire.fit

/-- A file whose pages links can name is not too long for its pages to be written back. -/
theorem Session.Entire.not_too_long (h : s.Entire imageOf raw p) :
    ¬Files.maxOffset < (p.count + 1) * blockSize := by
  have hlt := h.pages_lt
  have hnoPage : noPage = 4294967295 := rfl
  have hblock : blockSize = 8192 := rfl
  have hoffset : Files.maxOffset = 9223372036854775807 := rfl
  rw [h.whole.count, hblock]
  omega

/-- **An operation does what the plain operation does**, and if it fails it is for the
same reason. -/
def Exact (imageOf : Nat → ImageId) (raw : List Hold) (p : PlainFile) (x : RecordM α) (m : PlainM α)
    (s : Session) : Prop :=
  Ends x s
    (fun a s' => ∃ p', m p = .ok a p' ∧ Session.Became imageOf raw s p' s' ∧ s.Steady s')
    (fun e s' => ¬FromPool e ∧ ∃ p', m p = .error e p' ∧ Session.Became imageOf raw s p s' ∧
      s.Steady s')

theorem Exact.map {x : RecordM β} {m : PlainM β} (h : Exact imageOf raw p x m s) (f : β → α) :
    Exact imageOf raw p (do return f (← x)) (do return f (← m)) s := by
  refine ends_bind.mpr (Ends.imp h ?_ ?_)
  · rintro b s' ⟨p', hm, hrest⟩
    exact ⟨p', map_of_ok hm f, hrest⟩
  · rintro e s' ⟨hpool, p', hm, hrest⟩
    exact ⟨hpool, p', bind_of_error hm, hrest⟩

/-- A failure of the pool is one that comes from the pool. -/
theorem WantOfPage.fromPool {e : RecordError} (h : WantOfPage e) : FromPool (.error e) := by
  cases h with
  | fetch page e => exact .fetch page e
  | allocate e => exact .allocate e

/-- **With room enough the pool does not fail.** -/
theorem Session.Entire.not_fromPool (h : s.Entire imageOf raw p) {e : Fault RecordError}
    (hbecame : Session.Became imageOf raw s p s') (hfull : FromPool e → s'.Full) : ¬FromPool e := by
  intro hpool
  refine hbecame.good.not_full ?_ (hfull hpool)
  rw [hbecame.plain_eq, h.whole.count]
  exact Nat.le_of_lt h.pages_lt

theorem Session.Entire.not_poolFailure (h : s.Entire imageOf raw p) {e : Fault RecordError}
    (hbecame : Session.Became imageOf raw s p s') (hfull : FromPool e → s'.Full) :
    ¬PoolFailure p e := by
  intro hfailure
  obtain ⟨e, rfl, hwant⟩ := hfailure.wantOfPage (h.whole.count ▸ h.pages_lt)
  exact h.not_fromPool hbecame hfull hwant.fromPool

/-- **What does what a plain operation does or fails for want of a page, does exactly
that** if there is room for the pins that it takes. -/
theorem Session.Entire.exact_of_does (h : s.Entire imageOf raw p) {x : RecordM α} {m : PlainM α}
    (hdoes : Does imageOf raw [] p x m s) {n : Nat} (hroomy : s.store.Roomy n)
    (hbalanced : Balanced True n x) : Exact imageOf raw p x m s := by
  refine Ends.imp (Ends.and hdoes (hbalanced s h.fit fun _ _ => hroomy)) ?_ ?_
  · rintro a s' ⟨⟨p', hm, hbecame, -⟩, hsteady⟩
    rw [h.plain_eq] at hm
    exact ⟨p', hm, hbecame, hsteady⟩
  · rintro e s' ⟨⟨hbecame, -, hreason⟩, hfails⟩
    have hfull := hfails.full trivial
    rw [h.plain_eq] at hreason
    obtain ⟨p', hm⟩ := hreason.resolve_left (h.not_poolFailure hbecame hfull)
    exact ⟨h.not_fromPool hbecame hfull, p', hm, hbecame, hfails.steady⟩

/-- A session that is ready has room for two pins. -/
theorem Session.Ready.exact_of_does (h : s.Ready imageOf raw p) {x : RecordM α} {m : PlainM α}
    (hdoes : Does imageOf raw [] p x m s) {n : Nat} (hn : n ≤ 2) (hbalanced : Balanced True n x) :
    Exact imageOf raw p x m s :=
  h.entire.exact_of_does hdoes (h.roomy.mono hn) hbalanced

/-- **A scan gives out all the records that there are.** -/
theorem Session.Ready.exact_scan (h : s.Ready imageOf raw p) :
    Exact imageOf raw p RecordCall.scan.run RecordCall.scan.plain s := by
  have hscan := (ends_items [] h.good h.plain_eq h.whole.toSized).and
    (h.fit.ends_items fun (_ : True) _ => h.roomy.mono (Nat.le_succ 1))
  refine ends_bind.mpr (hscan.imp ?_ ?_)
  · rintro items s' ⟨⟨hscanned, hkept⟩, hsteady, howes⟩
    refine ⟨p, ?_, hkept.became, hsteady⟩
    rcases hscanned with rfl | ⟨i, e, hfailure, rfl⟩
    · rfl
    · have hlast : s'.Owes True (Scan.failure? (.error e)) :=
        howes (.error e) (List.mem_append_right _ List.mem_cons_self)
      exact absurd hfailure (h.entire.not_poolFailure hkept.became (hlast e rfl trivial))
  · rintro e s' ⟨⟨hfailure, hkept⟩, hfails⟩
    exact absurd hfailure (h.entire.not_poolFailure hkept.became (hfails.full trivial))

/-- **A call that uses no pin does what the plain call does.** -/
theorem RecordCall.exact_run (h : s.Ready imageOf raw p) {call : RecordCall}
    (hfree : call.PinFree) : Exact imageOf raw p call.run call.plain s := by
  have hs := h.good
  have hp := h.plain_eq
  have hsized := h.whole.toSized
  have hone : 1 ≤ 2 := Nat.le_succ 1
  cases call with
  | insert record =>
    exact (h.exact_of_does (does_insert hs hp hsized record) hone (balanced_insert record)).map
      RecordReply.inserted
  | insertAt id record =>
    exact (h.exact_of_does (does_insertAt hs hp hsized id record) (Nat.le_refl 2)
      (balanced_insertAt id record)).map fun _ => RecordReply.done
  | delete id =>
    exact (h.exact_of_does (does_delete hs hp hsized id) (Nat.le_refl 2)
      (balanced_delete id)).map fun _ => RecordReply.done
  | update id record =>
    exact (h.exact_of_does (does_update hs hp hsized id record) hone
      (balanced_update id record)).map fun _ => RecordReply.done
  | get id =>
    exact (h.exact_of_does (does_getRecord hs hp hsized id) hone (balanced_get id)).map
      RecordReply.record
  | scan => exact h.exact_scan
  | first =>
    rw [run_first]
    exact (h.exact_of_does (does_seek hs hp hsized 0 0) hone (balanced_seek 0 0)).map
      RecordReply.position
  | next id =>
    rw [run_next]
    exact (h.exact_of_does (does_seek hs hp hsized _ _) hone (balanced_seek _ _)).map
      RecordReply.position
  | flush =>
    exact (h.exact_of_does (does_flush hs hp h.whole) (Nat.zero_le 2) balanced_flush).map
      fun _ => RecordReply.done
  | newPage => exact hfree.elim
  | freePage => exact hfree.elim
  | pinPage page => exact hfree.elim
  | unpin pin => exact hfree.elim
  | write pin bytes => exact hfree.elim
  | releasePage pin => exact hfree.elim

/-- A page that is pinned and given back is one that the plain file finds. -/
theorem PageChoice.does (hs : s.Good imageOf raw) (hp : s.plain imageOf = p) (hsized : p.Sized)
    (which : PageChoice) :
    Does imageOf raw [] p (Session.withPin which.take fun pin => return pin.key.page) which.find
      s := by
  have htakes : Takes imageOf raw [] p which.take which.find s := by
    cases which with
    | new => exact takes_newPage hs hp hsized
    | free => exact takes_freePage hs hp hsized
    | number page => exact takes_pinPage hs hp (Nat.le_of_eq hsized.count.symm) page
  have hnothing : which.find >>= pure = which.find := bind_pure _
  rw [← hnothing]
  refine htakes.does_withPin fun pin page p' s₁ _ hbecame hkey _ _ => ?_
  rw [hkey]
  exact does_pure hbecame.good _

/-- **A task that uses no pin does what the plain task does**, whatever else the pool
is used for, as long as there is room for two more pins. -/
theorem RecordTask.exact_run (h : s.Ready imageOf raw p) {task : RecordTask}
    (hfree : task.PinFree) : Exact imageOf raw p task.run task.plain s := by
  have hs := h.good
  have hp := h.plain_eq
  have hsized := h.whole.toSized
  have hone : 1 ≤ 2 := Nat.le_succ 1
  cases task with
  | call c => exact (RecordCall.exact_run h hfree).map TaskReply.reply
  | touch which =>
    exact (h.exact_of_does (which.does hs hp hsized) hone which.balanced).map fun page =>
      TaskReply.reply (.page page)
  | inspect =>
    exact (h.exact_of_does (does_inspect hs hp hsized) hone balanced_inspect).map TaskReply.report
  | check =>
    exact (h.exact_of_does (does_check hs hp hsized) hone balanced_check).map fun _ =>
      TaskReply.sound

end Ready

end SlottedFile
