import SlottedFile.Proofs.Plain.Growth
import SlottedFile.Proofs.Plain.Scanning
import SlottedFile.Proofs.Plain.Writing

/-!
# The calls of a record file

Whoever has a record file open reaches it by calls (`RecordCall`): the operations
on records, scans, the pins of pages and what is written through them. Every call
has a counterpart on the plain file (`RecordCall.plain`), and answers what that
one answers or fails for want of a page (`RecordCall.ends_run`).

A scan is the one call that answers although a page could not be pinned: the
error is then its last item.
-/

namespace SlottedFile

/-- **A call of a record file.** -/
inductive RecordCall where
  | insert (record : List UInt8)
  | insertAt (id : RecordId) (record : List UInt8)
  | delete (id : RecordId)
  | update (id : RecordId) (record : List UInt8)
  | get (id : RecordId)
  /-- Take all items of a scan. -/
  | scan
  /-- Start a scan. -/
  | first
  /-- Move on a scan that stands at a record. -/
  | next (id : RecordId)
  | newPage
  | freePage
  | pinPage (page : Nat)
  | unpin (pin : Pin)
  /-- Write the bytes of a pinned page. -/
  | write (pin : Pin) (bytes : Block)
  | releasePage (pin : Pin)
  | flush

/-- **What a call gives back.** Of a pin it is the page that is told. -/
inductive RecordReply where
  | inserted (id : RecordId)
  | record (bytes : List UInt8)
  | items (items : List Scan.Item)
  | position (id? : Option RecordId)
  | page (page : Nat)
  | done

namespace RecordCall

/-- Make a call. -/
def run : RecordCall → RecordM RecordReply
  | insert record => do return .inserted (← Session.insert record)
  | insertAt id record => do
    Session.insertAt id record
    return .done
  | delete id => do
    Session.delete id
    return .done
  | update id record => do
    Session.update id record
    return .done
  | get id => do return .record (← Session.onStore (·.get id))
  | scan => do return .items (← Session.onStore Scan.items)
  | first => do return .position (← Session.onStore Scan.start).position
  | next id => do
    return .position (← Session.onStore fun f => Scan.advance f { position := some id }).position
  | newPage => do return .page (← Session.newPage).key.page
  | freePage => do return .page (← Session.freePage).key.page
  | pinPage page => do return .page (← Session.pinPage page).key.page
  | unpin pin => do
    Session.release pin
    return .done
  | write pin bytes => do
    Session.edit pin fun _ => set bytes
    return .done
  | releasePage pin => do
    Session.releasePage pin
    return .done
  | flush => do
    Session.onStore (·.flush)
    return .done

/-- **Whether a call may be made**: a pin that it is given is held, and is one of
the file. -/
def Allowed (s : Session) : RecordCall → Prop
  | unpin pin | write pin _ | releasePage pin =>
      s.store.Holds pin ∧ pin.key.file = s.file.handle
  | _ => True

/-- Whether a call leaves it to the file what is written to its pages. -/
def ReadOnly : RecordCall → Prop
  | write _ _ | releasePage _ => False
  | _ => True

/-- **What a call does to the plain file.** -/
def plain : RecordCall → PlainM RecordReply
  | insert record => do return .inserted (← PlainFile.insert record)
  | insertAt id record => do
    PlainFile.insertAt id record
    return .done
  | delete id => do
    PlainFile.delete id
    return .done
  | update id record => do
    PlainFile.update id record
    return .done
  | get id => do return .record (← PlainFile.get id)
  | scan => do
    let p ← EStateM.get
    let records := p.trail (p.header.pages * p.header.recordsPerPage + 1) (p.found 0 0)
    return .items (records.map .ok)
  | first => do return .position (← PlainFile.seek 0 0)
  | next id => do return .position (← PlainFile.seek id.page (id.slot + 1))
  | newPage => do return .page (← PlainFile.newPage)
  | freePage => do return .page (← PlainFile.freePage)
  | pinPage page => do
    PlainFile.checkPage page
    return .page page
  | unpin _ => return .done
  | write pin bytes => do
    PlainFile.edit pin.key.page fun _ => set bytes
    return .done
  | releasePage pin => do
    PlainFile.releasePage pin.key.page
    return .done
  | flush => do
    PlainFile.flush
    return .done

/-- **What a call leaves of a file if it fails**: a flush has written the header down. -/
def left (p : PlainFile) : RecordCall → PlainFile
  | flush => p.withHeader p.header
  | _ => p

theorem left_of_ne {call : RecordCall} (p : PlainFile) (hne : call ≠ flush) : call.left p = p := by
  cases call with
  | flush => exact absurd rfl hne
  | _ => rfl

theorem left_of_whole {p : PlainFile} (hwhole : p.Whole) (call : RecordCall) : call.left p = p := by
  by_cases hflush : call = flush
  · subst hflush
    exact PlainFile.withHeader_self hwhole
  · exact left_of_ne p hflush

end RecordCall

/-- **What may be answered instead of a reply**: a scan may be cut short by an
error, which is then the last of its items. -/
inductive RecordReply.CutShort (bad : RecordError → Prop) : RecordReply → RecordReply → Prop
  | items {l : List RecordId} {i : Nat} {e : RecordError} (hbad : bad e) :
      CutShort bad (.items (l.map .ok)) (.items ((l.take i).map .ok ++ [.error e]))

section Answers

variable {imageOf : Nat → ImageId} {raw : List Hold} {p₀ left : PlainFile} {s s' : Session}
  {α : Type}

/-- **An operation answers what a plain operation answers**, or fails for want of a page.
If it fails, `left` is what is left of the file. -/
def Answers (imageOf : Nat → ImageId) (raw : List Hold) (p₀ left : PlainFile)
    (x : RecordM RecordReply) (m : PlainM RecordReply) (s : Session) : Prop :=
  Ends x s
    (fun r s' => ∃ full p', m p₀ = .ok full p' ∧ Session.Became imageOf raw s p' s' ∧
      (r = full ∨ full.CutShort (fun e => PoolFailure p₀ (.error e)) r))
    (fun e s' => Session.Became imageOf raw s left s' ∧
      (PoolFailure p₀ e ∨ ∃ p', m p₀ = .error e p'))

/-- Whether a failure is one of the pool depends on the length of the file only. -/
theorem PoolFailure.congr {p p' : PlainFile} (hcount : p.count = p'.count) {e : Fault RecordError}
    (h : PoolFailure p e) : PoolFailure p' e := by
  unfold PoolFailure at h ⊢
  rwa [← hcount]

theorem Answers.of_does {x : RecordM α} {m : PlainM α} (hp : s.plain imageOf = p₀)
    (hcount : left.count = p₀.count) (ids : List Nat) (h : Does imageOf raw ids left x m s)
    (f : α → RecordReply) :
    Answers imageOf raw p₀ left (do return f (← x)) (do return f (← m)) s := by
  have hmap : Does imageOf raw ids left (do return f (← x)) (do return f (← m)) s :=
    Does.bind h fun _ _ _ _ hbecame _ => does_pure hbecame.good _
  refine Ends.imp hmap ?_ ?_
  · rintro r s' ⟨p', hm, hbecame, -⟩
    rw [hp] at hm
    exact ⟨r, p', hm, hbecame, .inl rfl⟩
  · rintro e s' ⟨hbecame, -, hreason⟩
    rw [hp] at hreason
    exact ⟨hbecame, hreason.imp_left (.congr hcount)⟩

/-- The pin that is taken stays held. -/
theorem Answers.of_takes {x : RecordM Pin} {m : PlainM Nat} (hp : s.plain imageOf = p₀)
    (ids : List Nat) (h : Takes imageOf raw ids p₀ x m s) :
    Answers imageOf raw p₀ p₀ (do return .page (← x).key.page) (do return .page (← m)) s := by
  refine ends_bind.mpr (Ends.imp h ?_ ?_)
  · rintro pin s' ⟨page, p', dirty, hm, hbecame, hkey, -⟩
    rw [hp] at hm
    refine ⟨.page page, p', ?_, hbecame, .inl (by rw [hkey])⟩
    exact bind_of_ok hm
  · rintro e s' ⟨hbecame, -, hreason⟩
    rw [hp] at hreason
    refine ⟨hbecame, hreason.imp_right ?_⟩
    rintro ⟨p', hm⟩
    exact ⟨p', bind_of_error hm⟩

/-- A pin is given back to no effect. -/
theorem Answers.release (hs : s.Good imageOf raw) (hp : s.plain imageOf = p₀) {pin : Pin}
    (hpin : s.store.Holds pin) :
    Answers imageOf raw p₀ p₀ (do Session.release pin; return .done) (return .done) s := by
  unfold Answers Session.release
  rw [ends_bind, ends_onStore]
  refine (Store.ends_release hs.sound hpin).imp ?_ fun _ _ h => h.elim
  rintro _ store ⟨hsound, -, hpic⟩
  refine ⟨.done, p₀, rfl, ?_, .inl rfl⟩
  rw [← hp]
  exact .of_store hs hsound hpic

/-- The items of a scan are those of the plain file, or are cut short. -/
theorem Answers.scan (hs : s.Good imageOf raw) (hp : s.plain imageOf = p₀) (hsized : p₀.Sized) :
    Answers imageOf raw p₀ p₀ RecordCall.scan.run RecordCall.scan.plain s := by
  refine ends_bind.mpr ((ends_items [] hs hp hsized).imp ?_ ?_)
  · rintro items s' ⟨hscanned, hkept⟩
    refine ⟨_, p₀, rfl, hkept.became, ?_⟩
    rcases hscanned with rfl | ⟨i, e, hbad, rfl⟩
    · exact .inl rfl
    · exact .inr (.items hbad)
  · rintro e s' ⟨hpool, hkept⟩
    exact ⟨hkept.became, .inl hpool⟩

/-- A scan is started by a search, -/
theorem RecordCall.run_first :
    first.run = do return .position (← Session.onStore fun f => Scan.seek f 0 0) := by
  unfold run Scan.start
  rw [Session.onStore_bind, bind_assoc]
  rfl

/-- and moved on by another one. -/
theorem RecordCall.run_next (id : RecordId) :
    (next id).run = do
      return .position (← Session.onStore fun f => Scan.seek f id.page (id.slot + 1)) := by
  unfold run Scan.advance
  dsimp only
  rw [Session.onStore_bind, bind_assoc]
  rfl

/-- **Every call answers what it answers on the plain file**, or fails for want of a
page. -/
theorem RecordCall.ends_run_of_sized (hs : s.Good imageOf raw) (hp : s.plain imageOf = p₀)
    (hsized : p₀.Sized) {call : RecordCall} (hallowed : call.Allowed s) :
    Answers imageOf raw p₀ (call.left p₀) call.run call.plain s := by
  cases call with
  | insert record => exact .of_does hp rfl [] (does_insert hs hp hsized record) .inserted
  | insertAt id record =>
    exact .of_does hp rfl [] (does_insertAt hs hp hsized id record) fun _ => .done
  | delete id => exact .of_does hp rfl [] (does_delete hs hp hsized id) fun _ => .done
  | update id record => exact .of_does hp rfl [] (does_update hs hp hsized id record) fun _ => .done
  | get id => exact .of_does hp rfl [] (does_getRecord hs hp hsized id) .record
  | scan => exact .scan hs hp hsized
  | first =>
    rw [run_first]
    exact .of_does hp rfl [] (does_seek hs hp hsized 0 0) .position
  | next id =>
    rw [run_next]
    exact .of_does hp rfl [] (does_seek hs hp hsized id.page (id.slot + 1)) .position
  | newPage => exact .of_takes hp [] (takes_newPage hs hp hsized)
  | freePage => exact .of_takes hp [] (takes_freePage hs hp hsized)
  | pinPage page =>
    have hplain : (pinPage page).plain =
        do return .page (← (do PlainFile.checkPage page; return page)) := by
      rw [bind_assoc]
      rfl
    rw [hplain]
    exact .of_takes hp [] (takes_pinPage hs hp (Nat.le_of_eq hsized.count.symm) page)
  | unpin pin => exact .release hs hp hallowed.1
  | write pin bytes =>
    have hkey : pin.key = ⟨s.file.handle, pin.key.page⟩ := by
      rw [← hallowed.2]
    have hedit : Does imageOf raw [pin.id] p₀ (Session.edit pin fun _ => set bytes)
        (PlainFile.edit pin.key.page fun _ => set bytes) s :=
      does_edit hs hallowed.1 List.mem_cons_self hkey ⟨(), bytes, rfl⟩
    exact .of_does hp rfl [pin.id] hedit fun _ => .done
  | releasePage pin =>
    have hkey : pin.key = ⟨s.file.handle, pin.key.page⟩ := by
      rw [← hallowed.2]
    exact .of_does hp rfl [pin.id]
      (does_releasePage hs hp hsized hallowed.1 List.mem_cons_self hkey) fun _ => .done
  | flush =>
    have hcount : (p₀.withHeader p₀.header).count = p₀.count := by rw [PlainFile.withHeader]
    exact .of_does hp hcount [] (does_flush_of_good hs hp) fun _ => .done

/-- A call that fails leaves a file as it was whose header is written down. -/
theorem RecordCall.ends_run (hs : s.Good imageOf raw) (hp : s.plain imageOf = p₀)
    (hwhole : p₀.Whole) {call : RecordCall} (hallowed : call.Allowed s) :
    Answers imageOf raw p₀ p₀ call.run call.plain s := by
  have hanswers := ends_run_of_sized hs hp hwhole.toSized hallowed
  rwa [left_of_whole hwhole] at hanswers

/-- **Every call grows the plain file.** -/
theorem RecordCall.grows_plain (call : RecordCall) : PlainFile.Grows call.plain := by
  have hthen : ∀ {β : Type} {m : PlainM β} (f : β → RecordReply), PlainFile.Grows m →
      PlainFile.Grows (do return f (← m)) := fun f hm =>
    hm.bind fun _ => PlainFile.grows_pure _
  have hseek : ∀ page slot, PlainFile.Grows (PlainFile.seek page slot) := by
    intro page slot p hsized
    rw [ends_of_ok (PlainFile.seek_eq hsized page slot)]
    exact .refl hsized
  cases call with
  | insert record => exact hthen _ (PlainFile.grows_insert record)
  | insertAt id record => exact hthen _ (PlainFile.grows_insertAt id record)
  | delete id => exact hthen _ (PlainFile.grows_delete id)
  | update id record => exact hthen _ (PlainFile.grows_update id record)
  | get id => exact hthen _ (PlainFile.reads_get id).grows
  | scan => exact PlainFile.grows_get_bind fun _ => PlainFile.grows_pure _
  | first => exact hthen _ (hseek 0 0)
  | next id => exact hthen _ (hseek id.page (id.slot + 1))
  | newPage => exact hthen _ PlainFile.grows_newPage
  | freePage => exact hthen _ PlainFile.grows_freePage
  | pinPage page => exact hthen _ (PlainFile.reads_checkPage page).grows
  | unpin pin => exact PlainFile.grows_pure _
  | write pin bytes => exact hthen _ (PlainFile.grows_edit _ _)
  | releasePage pin => exact hthen _ (PlainFile.grows_releasePage _)
  | flush => exact hthen _ PlainFile.grows_flush

end Answers

end SlottedFile
