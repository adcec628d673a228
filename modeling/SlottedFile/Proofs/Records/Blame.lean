import SlottedFile.Proofs.Records.Locating

/-!
# What a recoverable error is put down to

Two errors of a record file count as recoverable: that a page does not exist, and that there is
no record at a place. Either seems to say that the request was a bad one (`RecordCall.BadRequest`),
and that the file is in order.

Nobody has to have asked for the page that does not exist. A link of the free list may lead
out of the file, and whoever takes a page from the list, or searches it for one, is led there
(`RecordCall.LedAstray`). The error is then the same as for a page that was asked for, although an
inspection calls that link a flaw of the file. So an insertion, which names no place at all,
can fail for a page that does not exist, and so can the deletion of a record that is there.

There is no third reason (`recoverable_errors_explained`). Once the pages are found, what is left
to do only writes into them and cannot fail so in any file (`PlainFile.Innocent`); what comes
before only looks, and the file is still the one that the request was made of
(`PlainFile.Reads.explains_bind`).
-/

namespace SlottedFile

variable {why why' : RecordError → Prop}

/-- **A failure is put down to something**: if its error counts as recoverable, that is why. -/
def Fault.PutDownTo (why : RecordError → Prop) (e : Fault RecordError) : Prop :=
  ∀ r, e = .error r → r.isRecoverable = true → why r

namespace Fault

theorem PutDownTo.mono {e : Fault RecordError} (h : e.PutDownTo why) (himp : ∀ r, why r → why' r) :
    e.PutDownTo why' :=
  fun r he hr => himp r (h r he hr)

theorem putDownTo_error {r : RecordError} (h : r.isRecoverable = true → why r) :
    (error r).PutDownTo why := by
  rintro _ ⟨⟩
  exact h

theorem putDownTo_overrun (o : Overrun) : (overrun o).PutDownTo why := nofun

end Fault

/-- **No failure of the pool counts as recoverable.** -/
theorem PoolFailure.putDownTo {p : PlainFile} {e : Fault RecordError} (h : PoolFailure p e) :
    e.PutDownTo why := by
  rintro (_ | _ | _ | _ | _ | _ | _) rfl hrecoverable
  · exact h.elim
  · exact h.elim
  all_goals cases hrecoverable

/-! ## Requests -/

namespace RecordCall

/-- The page that a call names. -/
def page? : RecordCall → Option Nat
  | insertAt id _ | delete id | update id _ | get id => some id.page
  | pinPage page => some page
  | _ => none

/-- The record that a call names. -/
def record? : RecordCall → Option RecordId
  | delete id | update id _ | get id => some id
  | _ => none

/-- Whether a call takes the page at the head of the free list. -/
def TakesHead : RecordCall → Prop
  | insert _ | freePage => True
  | _ => False

/-- The page that a call may have to find on the free list. -/
def searched? : RecordCall → Option Nat
  | insertAt id _ | delete id => some id.page
  | releasePage pin => some pin.key.page
  | _ => none

/-- **A bad request**: the call names a page that the file does not have, or a place of a page
where there is no record. -/
inductive BadRequest (p : PlainFile) (call : RecordCall) : RecordError → Prop
  | page {page : Nat} (hnamed : page ∈ call.page?) (hout : p.header.pages ≤ page) :
      BadRequest p call (.pageNotExist page)
  | record {id : RecordId} (hnamed : id ∈ call.record?) (hin : id.page < p.header.pages)
      (hnone : p.header.recordsPerPage ≤ id.slot ∨ (p.data id.page).occupied id.slot = false) :
      BadRequest p call (.recordNotFound id)

/-- **A call that is led out of the file**: an inspection finds a link to a page that the file
does not have, and the page that the call is looking for does not come before. -/
inductive LedAstray (p : PlainFile) (call : RecordCall) : RecordError → Prop
  | head {q : Nat} (htakes : call.TakesHead) (hlist : p.report.freeList = [])
      (hflaw : p.report.freeListFlaw = some (.beyond q p.header.pages)) :
      LedAstray p call (.pageNotExist q)
  | search {page q : Nat} (hsearched : page ∈ call.searched?) (hin : page < p.header.pages)
      (hunlisted : page ∉ p.report.freeList)
      (hflaw : p.report.freeListFlaw = some (.beyond q p.header.pages)) :
      LedAstray p call (.pageNotExist q)

/-- **Why a call fails** for an error that counts as recoverable. -/
def Explained (p : PlainFile) (call : RecordCall) (r : RecordError) : Prop :=
  call.BadRequest p r ∨ call.LedAstray p r

end RecordCall

namespace PlainFile

variable {α β : Type} {p : PlainFile}

/-! ## What explains an error -/

/-- **The recoverable errors of a plain operation on a file are put down to something.** -/
def Explains (p : PlainFile) (why : RecordError → Prop) (m : PlainM α) : Prop :=
  Ends m p (fun _ _ => True) fun e _ => e.PutDownTo why

/-- **An operation without recoverable errors**, whatever the file is. -/
def Innocent (m : PlainM α) : Prop := ∀ p, Explains p (fun _ => False) m

theorem Innocent.explains {m : PlainM α} (h : Innocent m) : Explains p why m :=
  (h p).imp (fun _ _ h => h) fun _ _ h => h.mono fun _ => False.elim

theorem innocent_pure (a : α) : Innocent (pure a) := fun _ => trivial

theorem innocent_fail {e : RecordError} (h : e.isRecoverable = false) :
    Innocent (fail e : PlainM α) := by
  refine fun _ => Fault.putDownTo_error fun hrecoverable => ?_
  rw [h] at hrecoverable
  cases hrecoverable

theorem Innocent.bind {m : PlainM β} {k : β → PlainM α} (hm : Innocent m)
    (hk : ∀ b, Innocent (k b)) : Innocent (m >>= k) :=
  fun p => Ends.bind (hm p) fun b p' _ => hk b p'

theorem innocent_get_bind {k : PlainFile → PlainM α} (hk : ∀ p, Innocent (k p)) :
    Innocent (EStateM.get >>= k) :=
  fun p => hk p p

theorem innocent_ite {c : Prop} [Decidable c] {m n : PlainM α} (hm : Innocent m) (hn : Innocent n) :
    Innocent (if c then m else n) := by
  split
  · exact hm
  · exact hn

theorem innocent_look (page : Nat) (f : PageLayout → Block → Except Overrun α) :
    Innocent (look page f) :=
  innocent_get_bind fun _ _ =>
    ends_liftOverrun.mpr ⟨fun _ _ => trivial, fun o _ => Fault.putDownTo_overrun o⟩

theorem innocent_edit (page : Nat) (e : PageLayout → Buffer.Edit blockSize α) :
    Innocent (edit page e) := by
  intro p
  unfold Explains Ends edit
  cases e p.layout (p.page page) with
  | ok a b => trivial
  | error o b => exact Fault.putDownTo_overrun o

theorem innocent_setFreeHead (head : Option Nat) : Innocent (setFreeHead head) := fun _ => trivial

theorem innocent_link (page : Nat) : Innocent (link page) :=
  innocent_get_bind fun _ => (innocent_edit _ _).bind fun _ => innocent_setFreeHead _

theorem innocent_fillAndUnlink (id : RecordId) (data : List UInt8) (position : FreePosition) :
    Innocent (fillAndUnlink id data position) := by
  refine (innocent_edit _ _).bind fun r => innocent_ite ?_ (innocent_pure _)
  cases position with
  | head => exact innocent_setFreeHead _
  | after prev => exact innocent_edit _ _
  | absent => exact innocent_pure _

/-- What comes last may write. -/
theorem Explains.bind_innocent {m : PlainM β} {k : β → PlainM α} (hm : Explains p why m)
    (hk : ∀ b, Innocent (k b)) : Explains p why (m >>= k) :=
  Ends.bind hm fun b _ _ => (hk b).explains

/-- What comes before only looks. -/
theorem Reads.explains_bind {m : PlainM β} {k : β → PlainM α} (hreads : Reads m)
    (hm : Explains p why m) (hk : ∀ b, m p = .ok b p → Explains p why (k b)) :
    Explains p why (m >>= k) := by
  unfold Explains
  rw [ends_bind, ends_iff]
  refine ⟨fun b p' hb => ?_, fun e p' he => hm.of_error he⟩
  obtain rfl := hreads.eq hb
  exact hk b hb

theorem Reads.explains_innocent {m : PlainM β} {k : β → PlainM α} (hreads : Reads m)
    (hm : Innocent m) (hk : ∀ b, m p = .ok b p → Explains p why (k b)) :
    Explains p why (m >>= k) :=
  hreads.explains_bind hm.explains hk

theorem explains_ite {c : Prop} [Decidable c] {m n : PlainM α} (hm : c → Explains p why m)
    (hn : ¬c → Explains p why n) : Explains p why (if c then m else n) :=
  ends_ite.mpr ⟨hm, hn⟩

theorem explains_fail_bind {e : RecordError} (h : e.isRecoverable = true → why e) (k : β → PlainM α) :
    Explains p why ((fail e : PlainM β) >>= k) :=
  Fault.putDownTo_error h

/-! ## The checks and the free list -/

theorem innocent_checkSize (data : List UInt8) : Innocent (checkSize data) :=
  innocent_get_bind fun _ => innocent_ite (innocent_fail rfl) (innocent_pure _)

theorem explains_checkPage {page : Nat} (h : p.header.pages ≤ page → why (.pageNotExist page)) :
    Explains p why (checkPage page) :=
  ends_checkPage.mpr ⟨fun _ => trivial, fun hout => Fault.putDownTo_error fun _ => h hout⟩

theorem lt_of_checkPage_eq {page : Nat} (h : checkPage page p = .ok () p) : page < p.header.pages := by
  have hends : Ends (checkPage page) p (fun _ _ => page < p.header.pages) fun _ _ => True :=
    ends_checkPage.mpr ⟨id, fun _ => trivial⟩
  exact hends.of_ok h

theorem innocent_isLive (id : RecordId) : Innocent (isLive id) :=
  innocent_get_bind fun _ => innocent_ite (innocent_look _ _) (innocent_pure _)

/-- There is no record where the file says that there is none. -/
theorem Sized.none_of_isLive (hsized : p.Sized) {id : RecordId} (h : isLive id p = .ok false p) :
    p.header.recordsPerPage ≤ id.slot ∨ (p.data id.page).occupied id.slot = false := by
  by_cases hslot : p.hasSlot id.slot = true
  · have hlook : Ends (look id.page (·.isOccupied · id.slot)) p
        (fun a _ => a = (p.data id.page).occupied id.slot) fun _ _ => True :=
      (ends_look (f := fun l b => l.isOccupied b id.slot)
        (PageLayout.isOccupied_eq hsized.fits (of_decide_eq_true hslot))).mpr rfl
    rw [isLive_of_hasSlot hslot] at h
    exact .inr (hlook.of_ok h).symm
  · exact .inl (Nat.not_lt.1 fun hlt => hslot (decide_eq_true hlt))

/-- **A head that leads out of the file** is all that an inspection sees of the free list. -/
theorem report_of_head {q : Nat} (hhead : p.header.freeHead = some q) (hout : p.header.pages ≤ q) :
    p.report.freeList = [] ∧ p.report.freeListFlaw = some (.beyond q p.header.pages) := by
  have hwalk := p.freeList_report
  rw [hhead, FileReport.followFree, p.length_links, if_pos hout] at hwalk
  exact Prod.mk.inj hwalk

variable {call : RecordCall}

theorem explains_freePage (hsized : p.Sized) (htakes : call.TakesHead) :
    Explains p (call.Explained p) freePage := by
  refine (ends_freePage hsized).imp (fun _ _ _ => trivial) ?_
  rintro _ _ ⟨-, q, hhead, hout, rfl⟩
  obtain ⟨hlist, hflaw⟩ := report_of_head hhead hout
  exact Fault.putDownTo_error fun _ => .inr (.head htakes hlist hflaw)

/-- A search that is led in a circle fails for an error that does not count as recoverable. -/
theorem explains_locate {page : Nat} (hsearched : page ∈ call.searched?) (hin : page < p.header.pages) :
    Explains p (call.Explained p) (locate page) := by
  refine (p.ends_locate_report hin).imp (fun _ _ _ => trivial) ?_
  rintro _ _ ⟨hunlisted, flaw, hflaw, hastray⟩
  cases hastray with
  | beyond q => exact Fault.putDownTo_error fun _ => .inr (.search hsearched hin hunlisted hflaw)
  | circle q => exact Fault.putDownTo_error nofun

theorem explains_canLink {page : Nat} (hsearched : page ∈ call.searched?) (hin : page < p.header.pages) :
    Explains p (call.Explained p) (canLink page) :=
  (explains_locate hsearched hin).bind_innocent fun _ => innocent_pure _

/-- The page in front of one that is found is a page of the file. -/
theorem lt_of_locate {page prev : Nat} (hin : page < p.header.pages)
    (h : locate page p = .ok (.after prev) p) : prev < p.header.pages := by
  obtain ⟨⟨before, rest, hlist⟩, -⟩ := (p.ends_locate_report hin).of_ok h
  have hlist : p.report.freeList = before ++ prev :: page :: rest := hlist
  refine p.describes_report.walk.inside prev ?_
  rw [hlist]
  exact List.mem_append_right _ List.mem_cons_self

/-! ## The operations -/

theorem explains_insert (hsized : p.Sized) (data : List UInt8) :
    Explains p ((RecordCall.insert data).Explained p) (insert data) := by
  refine (reads_checkSize data).explains_innocent (innocent_checkSize data) fun _ _ => ?_
  have hfree : Explains p ((RecordCall.insert data).Explained p) freePage :=
    explains_freePage hsized trivial
  refine hfree.bind_innocent fun page => (innocent_look _ _).bind fun slot? => ?_
  cases slot? with
  | none => exact innocent_fail rfl
  | some slot => exact (innocent_fillAndUnlink _ _ _).bind fun _ => innocent_pure _

theorem explains_insertAt (id : RecordId) (data : List UInt8) :
    Explains p ((RecordCall.insertAt id data).Explained p) (insertAt id data) := by
  refine (reads_checkSize data).explains_innocent (innocent_checkSize data) fun _ _ => ?_
  refine (reads_checkPage id.page).explains_bind
    (explains_checkPage fun hout => .inl (.page rfl hout)) fun _ hpage => ?_
  have hin := lt_of_checkPage_eq hpage
  refine explains_ite (fun _ => ?_) fun _ => explains_fail_bind nofun _
  refine (reads_look _ _).explains_innocent (innocent_look _ _) fun occupied _ =>
    explains_ite (fun _ => explains_fail_bind nofun _) fun _ => ?_
  refine (reads_look _ _).explains_innocent (innocent_look _ _) fun header _ =>
    explains_ite (fun _ => ?_) fun _ => (innocent_fillAndUnlink _ _ _).explains
  refine (reads_locate id.page).explains_bind (explains_locate rfl hin) fun position hposition => ?_
  cases position with
  | head => exact (innocent_fillAndUnlink _ _ _).explains
  | absent => exact (innocent_fillAndUnlink _ _ _).explains
  | after prev =>
    have hprev := lt_of_locate hin hposition
    have hfound : Explains p ((RecordCall.insertAt id data).Explained p) (checkPage prev) :=
      explains_checkPage fun hout => absurd hprev (Nat.not_lt.2 hout)
    exact hfound.bind_innocent fun _ => innocent_fillAndUnlink _ _ _

/-- **A call that names a record** first makes sure that it is there. -/
theorem explains_live (hsized : p.Sized) {id : RecordId} (hpage : id.page ∈ call.page?)
    (hrecord : id ∈ call.record?) {k : PlainM α}
    (hk : id.page < p.header.pages → Explains p (call.Explained p) k) :
    Explains p (call.Explained p) (do
      checkPage id.page
      unless ← isLive id do fail (.recordNotFound id)
      k) := by
  refine (reads_checkPage id.page).explains_bind
    (explains_checkPage fun hout => .inl (.page hpage hout)) fun _ hchecked => ?_
  have hin := lt_of_checkPage_eq hchecked
  refine (reads_isLive id).explains_innocent (innocent_isLive id) fun live hlive =>
    explains_ite (fun _ => hk hin) fun hdead => explains_fail_bind (fun _ => ?_) _
  obtain rfl : live = false := eq_false_of_ne_true hdead
  exact .inl (.record hrecord hin (hsized.none_of_isLive hlive))

theorem explains_get (hsized : p.Sized) (id : RecordId) :
    Explains p ((RecordCall.get id).Explained p) (get id) :=
  explains_live hsized rfl rfl fun _ => (innocent_look _ _).explains

theorem explains_update (hsized : p.Sized) (id : RecordId) (data : List UInt8) :
    Explains p ((RecordCall.update id data).Explained p) (update id data) :=
  (reads_checkSize data).explains_innocent (innocent_checkSize data) fun _ _ =>
    explains_live hsized rfl rfl fun _ => (innocent_edit _ _).explains

theorem explains_delete (hsized : p.Sized) (id : RecordId) :
    Explains p ((RecordCall.delete id).Explained p) (delete id) := by
  refine explains_live hsized rfl rfl fun hin => ?_
  have hrest : ∀ relink : Bool, Innocent (do
      edit id.page (·.vacateSlot id.slot)
      if relink then link id.page) := fun relink =>
    (innocent_edit _ _).bind fun _ => innocent_ite (innocent_link _) (innocent_pure _)
  refine (reads_look _ _).explains_innocent (innocent_look _ _) fun wasFull _ =>
    explains_ite (fun _ => ?_) fun _ => ?_
  · exact (explains_canLink rfl hin).bind_innocent hrest
  · exact (innocent_pure false).explains.bind_innocent hrest

theorem explains_releasePage {pin : Pin} (hin : pin.key.page < p.header.pages) :
    Explains p ((RecordCall.releasePage pin).Explained p) (releasePage pin.key.page) :=
  (explains_canLink rfl hin).bind_innocent fun _ =>
    innocent_ite (innocent_link _) (innocent_pure _)

/-- **Every recoverable error of a call is explained**, whatever is in the pages. -/
theorem explains_plain (hsized : p.Sized) (hinside : call.Inside p) :
    Explains p (call.Explained p) call.plain := by
  have hthen : ∀ {β : Type} {m : PlainM β} (f : β → RecordReply), Explains p (call.Explained p) m →
      Explains p (call.Explained p) (do return f (← m)) := fun f hm =>
    hm.bind_innocent fun _ => innocent_pure _
  have hseek : ∀ page slot, Explains p (call.Explained p) (seek page slot) := fun page slot =>
    (ends_of_ok (seek_eq hsized page slot)).mpr trivial
  cases call with
  | insert record => exact hthen _ (explains_insert hsized record)
  | insertAt id record => exact hthen (fun _ => .done) (explains_insertAt id record)
  | delete id => exact hthen (fun _ => .done) (explains_delete hsized id)
  | update id record => exact hthen (fun _ => .done) (explains_update hsized id record)
  | get id => exact hthen _ (explains_get hsized id)
  | scan => exact (innocent_get_bind fun _ => innocent_pure _).explains
  | first => exact hthen _ (hseek 0 0)
  | next id => exact hthen _ (hseek id.page (id.slot + 1))
  | newPage =>
    exact hthen _ ((ends_newPage hsized).imp (fun _ _ _ => trivial) fun _ _ h => h.elim)
  | freePage => exact hthen _ (explains_freePage hsized trivial)
  | pinPage page =>
    exact hthen (fun _ => .page page) (explains_checkPage fun hout => .inl (.page rfl hout))
  | unpin pin => exact (innocent_pure _).explains
  | write pin bytes => exact hthen (fun _ => .done) (innocent_edit _ _).explains
  | releasePage pin => exact hthen (fun _ => .done) (explains_releasePage hinside)
  | flush =>
    have hflush : Innocent flush := fun _ => trivial
    exact hthen (fun _ => .done) hflush.explains

theorem explains_inspect (hsized : p.Sized) : Explains p why inspect :=
  (ends_of_ok (inspect_eq hsized)).mpr trivial

/-- A check that fails tells what is wrong with the file, and blames nobody. -/
theorem explains_check (hsized : p.Sized) : Explains p why check := by
  refine (ends_check hsized).imp (fun _ _ _ => trivial) ?_
  rintro _ _ ⟨-, rfl, -⟩
  exact Fault.putDownTo_error nofun

end PlainFile

/-! ## Tasks -/

/-- The call that a task makes of a file. An inspection or a check is none. -/
def RecordTask.call? : RecordTask → Option RecordCall
  | call c => some c
  | touch which => some which.call
  | inspect | check => none

/-- Whether an error has broken off a scan. -/
def TaskReply.BrokenOffBy (e : RecordError) : TaskReply → Prop
  | reply (.items items) => .error e ∈ items
  | _ => False

theorem TaskReply.Unbroken.not_brokenOffBy {r : TaskReply} (h : r.Unbroken) (e : RecordError) :
    ¬r.BrokenOffBy e := by
  intro hbroken
  match r, h, hbroken with
  | .reply (.items items), hall, hitem =>
    obtain ⟨id, heq⟩ := hall (.error e) hitem
    cases heq

/-- A scan that is cut short is broken off by its last item. -/
theorem RecordReply.CutShort.bad_of_brokenOffBy {bad : RecordError → Prop} {full r : RecordReply}
    (h : full.CutShort bad r) {e : RecordError} (hbroken : (TaskReply.reply r).BrokenOffBy e) :
    bad e := by
  cases h with
  | items hbad =>
    obtain hread | hlast := List.mem_append.mp hbroken
    · obtain ⟨id, -, heq⟩ := List.mem_map.mp hread
      cases heq
    · cases List.mem_singleton.mp hlast
      exact hbad

section Sessions

variable {other : Nat → ImageId} {image : ImageId} {path : Path} {raw : List Hold} {s : Session}
  {c : Client}

/-- What does what a plain operation does has no other recoverable errors. -/
theorem Does.putDownTo {imageOf : Nat → ImageId} {α : Type} {x : RecordM α} {m : PlainM α}
    (h : Does imageOf raw [] (s.plain imageOf) x m s)
    (hm : PlainFile.Explains (s.plain imageOf) why m) :
    Ends x s (fun _ _ => True) fun e _ => e.PutDownTo why := by
  refine Ends.imp h (fun _ _ _ => trivial) ?_
  rintro e _ ⟨-, -, hpool | ⟨_, herror⟩⟩
  · exact hpool.putDownTo
  · exact hm.of_error herror

/-- **The recoverable errors of a task** are those of the call that it makes. A scan is not
broken off by one. -/
theorem InHand.ends_task_putDownTo (h : InHand other image raw s) {task : RecordTask}
    (hallowed : task.Allowed s) :
    Ends task.run s (fun r _ => ∀ e, r.BrokenOffBy e → e.isRecoverable = false)
      fun e _ => e.PutDownTo fun r => ∃ call ∈ task.call?, call.Explained (s.own other image) r := by
  have hgood := h.good
  have hsized := h.sized
  cases task with
  | call c =>
    have hinside := RecordCall.Allowed.inside hgood hsized hallowed
    have hplain := PlainFile.explains_plain hsized hinside
    refine ends_map.mpr (Ends.imp (c.ends_run_of_sized hgood rfl hsized hallowed) ?_ ?_)
    · rintro r _ ⟨full, p', hfull, -, rfl | hcut⟩ e hbroken
      · have htask : (RecordTask.call c).plain (s.own other image) = .ok (.reply r) p' :=
          map_of_ok hfull TaskReply.reply
        exact absurd hbroken ((RecordTask.unbroken_of_plain htask).not_brokenOffBy e)
      · have hnever : (Fault.error e).PutDownTo fun _ => False :=
          PoolFailure.putDownTo (hcut.bad_of_brokenOffBy hbroken)
        exact eq_false_of_ne_true (hnever e rfl)
    · rintro e _ ⟨-, hpool | ⟨_, herror⟩⟩
      · exact hpool.putDownTo
      · exact (hplain.of_error herror).mono fun r hr => ⟨c, rfl, hr⟩
  | touch which =>
    have hinside : which.call.Inside (s.own other image) := by cases which <;> trivial
    have hplain := PlainFile.explains_plain hsized hinside
    rw [which.plain_call] at hplain
    have hfind : PlainFile.Explains (s.own other image) (which.call.Explained (s.own other image))
        which.find := ends_map.mp hplain
    refine ends_map.mpr (((which.does hgood rfl hsized).putDownTo hfind).imp (fun _ _ _ _ => False.elim)
      fun _ _ hdown => hdown.mono fun r hr => ⟨which.call, rfl, hr⟩)
  | inspect =>
    have hplain : PlainFile.Explains (s.own other image) (fun _ => False) PlainFile.inspect :=
      PlainFile.explains_inspect hsized
    exact ends_map.mpr (((does_inspect hgood rfl hsized).putDownTo hplain).imp
      (fun _ _ _ _ => False.elim) fun _ _ h => h.mono fun _ => False.elim)
  | check =>
    have hplain : PlainFile.Explains (s.own other image) (fun _ => False) PlainFile.check :=
      PlainFile.explains_check hsized
    exact (ends_map (f := fun _ => TaskReply.sound)).mpr
      (((does_check hgood rfl hsized).putDownTo hplain).imp (fun _ _ _ _ => False.elim)
        fun _ _ h => h.mono fun _ => False.elim)

/-- **An insertion is led out of the file** by the head of the free list, and no page is fetched
for it. -/
theorem Session.insert_of_head {q : Nat} (hhead : s.file.header.freeHead = some q)
    (hout : s.file.header.pages ≤ q) {record : List UInt8}
    (hsize : record.length = s.file.header.recordSize) :
    (RecordCall.insert record).run s = .error (.error (.pageNotExist q)) s := by
  have hfree : Ends Session.freePage s (fun _ _ => False)
      fun e s' => e = .error (.pageNotExist q) ∧ s' = s := by
    unfold Session.freePage
    rw [ends_bind, ends_get, hhead]
    unfold Session.pinPage RecordFile.pinPage
    rw [ends_onStore]
    exact ends_ite.mpr ⟨fun _ => ⟨rfl, rfl⟩, fun hin => absurd hout hin⟩
  refine Ends.eq_error (ends_map.mpr ?_)
  unfold Session.insert RecordFile.checkSize
  rw [ends_bind, ends_onStore]
  refine ends_ite.mpr ⟨fun hne => absurd hsize hne, fun _ => ?_⟩
  unfold Session.withPin
  exact ends_bind.mpr (hfree.imp (fun _ _ h => h.elim) fun _ _ h => h)

/-- **A recoverable error means a bad request, or a link that leads out of the file.** At every
point of a run of a file that was found, whatever is in its pages, there is no third reason for
it: a task names a page that the file does not have or a place where there is no record, or it
takes a page from the free list or searches it for one, and is led to a page that does not exist
by a link that an inspection calls a flaw of the file. If the head of the list itself
leads out of the file, every insertion fails so that has the right length. -/
theorem recoverable_errors_explained (h : FoundRun other image path s c) :
    (∀ task : RecordTask, task.Allowed s →
      Ends task.run s (fun r _ => ∀ e, r.BrokenOffBy e → e.isRecoverable = false)
        (fun e _ => ∀ r, e = .error r → r.isRecoverable = true → ∃ call ∈ task.call?,
          call.BadRequest (s.own other image) r ∨ call.LedAstray (s.own other image) r)) ∧
    ∀ q record, s.file.header.freeHead = some q → s.file.header.pages ≤ q →
      record.length = s.file.header.recordSize →
        (RecordCall.insert record).run s = .error (.error (.pageNotExist q)) s ∧
          (RecordError.pageNotExist q).isRecoverable = true ∧
          (s.own other image).report.freeListFlaw = some (.beyond q s.file.header.pages) := by
  obtain ⟨hhand, -⟩ := h.inHand
  refine ⟨fun task hallowed => hhand.ends_task_putDownTo hallowed, fun q record hhead hout hsize => ?_⟩
  have hflaw := (PlainFile.report_of_head (p := s.own other image) hhead hout).2
  exact ⟨Session.insert_of_head hhead hout hsize, rfl, hflaw⟩

end Sessions

/-! ## A link to the eighth page of two -/

/-- A disk with a file of two pages with room for one record each. The first is empty and links to
page 7, and the second holds a record. -/
def danglingDisk : Disk :=
  (Disk.empty.addFile (Disk.home ++ ["f"])).setImage 0
    (((Image.empty.setBlock 0 (Buffer.ofList blockSize (FileHeader.encode ⟨1, 1, 2, 1, some 0⟩))).setBlock
      1 (Buffer.ofList blockSize [0, 0, 0, 0, 7, 0, 0, 0])).setBlock
      2 (Buffer.ofList blockSize [1, 0, 0, 0, 255, 255, 255, 255, 1, 9]))

/-- That file after it was opened. -/
def danglingOpened : Session where
  store := stateAfter (RecordFile.openFile ⟨["f"]⟩) (.ofDisk danglingDisk 2 1)
  file := ⟨0, ⟨1, 1, 2, 1, some 0⟩⟩

set_option maxRecDepth 100000 in
theorem danglingOpened_run : FoundRun (· + 1) 0 ⟨["f"]⟩ danglingOpened
    ⟨[], (Store.ofDisk danglingDisk 2 1).diskBlock (· + 1)⟩ := by
  have hopen : RecordFile.openFile ⟨["f"]⟩ (.ofDisk danglingDisk 2 1) =
      .ok danglingOpened.file danglingOpened.store := rfl
  exact .of_disk (fun _ _ h => Nat.succ.inj h) Nat.succ_ne_zero ⟨_, rfl, rfl⟩ hopen

/-- And after a record was put into its first page. -/
def danglingFilled : Session := stateAfter (RecordTask.call (.insert [7])).run danglingOpened

theorem danglingFilled_run : FoundRun (· + 1) 0 ⟨["f"]⟩ danglingFilled
    ⟨[], (Store.ofDisk danglingDisk 2 1).diskBlock (· + 1)⟩ :=
  danglingOpened_run.asked trivial

set_option maxRecDepth 100000 in
/-- The page that was filled has handed its link to the header. -/
theorem header_danglingFilled : danglingFilled.file.header = ⟨1, 1, 2, 1, some 7⟩ := rfl

/-- The next insertion fails for page 7, and an inspection says why. -/
theorem recoverable_errors_explained_dangling :
    (RecordCall.insert [8]).run danglingFilled = .error (.error (.pageNotExist 7)) danglingFilled ∧
      (RecordError.pageNotExist 7).isRecoverable = true ∧
      (danglingFilled.own (· + 1) 0).report.freeListFlaw = some (.beyond 7 2) := by
  have hhead : danglingFilled.file.header.freeHead = some 7 :=
    congrArg FileHeader.freeHead header_danglingFilled
  have hpages : danglingFilled.file.header.pages = 2 :=
    congrArg FileHeader.pages header_danglingFilled
  have hsize : danglingFilled.file.header.recordSize = 1 :=
    congrArg FileHeader.recordSize header_danglingFilled
  obtain ⟨-, hled⟩ := recoverable_errors_explained danglingFilled_run
  rw [hpages, hsize] at hled
  exact hled 7 [8] hhead (by decide) rfl

set_option maxRecDepth 100000 in
/-- **A stray link is put down to the request.** The record in the second page can be read, and
to delete it fails because page 7 does not exist; so does the second insertion, which names no
page at all. The error counts as recoverable, and a check of the same file finds it damaged. -/
theorem stray_link_is_put_down_to_request :
    FoundRun (· + 1) 0 ⟨["f"]⟩ danglingOpened
        ⟨[], (Store.ofDisk danglingDisk 2 1).diskBlock (· + 1)⟩ ∧
      answer (RecordCall.get ⟨1, 0⟩).run danglingOpened = .ok (.record [9]) ∧
      answer (RecordCall.delete ⟨1, 0⟩).run danglingOpened = .error (.error (.pageNotExist 7)) ∧
      answer danglingOpened.file.check danglingOpened.store =
        .error (.error (.internal (.violations [.freeList (.beyond 7 2)]))) ∧
      FoundRun (· + 1) 0 ⟨["f"]⟩ danglingFilled
        ⟨[], (Store.ofDisk danglingDisk 2 1).diskBlock (· + 1)⟩ ∧
      (RecordCall.insert [8]).run danglingFilled =
        .error (.error (.pageNotExist 7)) danglingFilled ∧
      (RecordError.pageNotExist 7).isRecoverable = true := by
  have hhead : danglingFilled.file.header.freeHead = some 7 :=
    congrArg FileHeader.freeHead header_danglingFilled
  have hout : danglingFilled.file.header.pages ≤ 7 :=
    Nat.le_trans (Nat.le_of_eq (congrArg FileHeader.pages header_danglingFilled)) (by decide)
  have hsize : [8].length = danglingFilled.file.header.recordSize :=
    (congrArg FileHeader.recordSize header_danglingFilled).symm
  exact ⟨danglingOpened_run, rfl, rfl, rfl, danglingFilled_run,
    Session.insert_of_head hhead hout hsize, rfl⟩

end SlottedFile
