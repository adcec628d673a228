import SlottedFile.Proofs.Records.Balanced
import SlottedFile.RecordFile.Records
import SlottedFile.RecordFile.Report
import SlottedFile.RecordFile.Scan

/-!
# Every operation gives back its pins

Each operation of a record file is balanced, and the deepest of them pin two pages at
a time: a page that becomes full and the page before it on the free list, or a page
and the one that a walk along the free list has come to. A walk gives back each page
before it takes the next, however long the list is, and so does a scan, an inspection
and a check.
-/

namespace SlottedFile

section Operations

variable {ample : Prop} {n : Nat} {α ι : Type} {s : Session}

/-- What an operation of the store takes from the open file is looked at for each value
that it may have. -/
theorem balanced_onStore_of {a : RecordFile → ι} {y : ι → RecordFile → StoreM RecordError α}
    (h : ∀ i, Balanced ample n (Session.onStore (y i))) :
    Balanced ample n (Session.onStore fun f => y (a f) f) :=
  fun s hs hroomy => h (a s.file) s hs hroomy

/-- **A page is held while something is done.** -/
theorem balanced_withPage (page : Nat) {body : RecordFile → Pin → StoreM RecordError α}
    (h : ∀ pin, Balanced ample n (Session.onStore fun f => body f pin)) :
    Balanced ample (n + 1) (Session.onStore fun f => f.withPage page (body f)) := by
  rw [Session.onStore_withPage]
  exact (taking_pinPage page).balanced_withPin h

theorem balanced_checkSize (data : List UInt8) :
    Balanced ample n (Session.onStore (·.checkSize data)) :=
  balanced_onStore fun _ => balanced_onStore_ite (balanced_fail nofun) (balanced_pure _)

/-- **Reading a record** pins its page. -/
theorem balanced_get (id : RecordId) : Balanced ample 1 (Session.onStore (·.get id)) := by
  unfold RecordFile.get
  refine balanced_withPage id.page fun pin => ?_
  refine balanced_onStore fun f => ?_
  have hread : Balanced ample 0 (Session.onStore fun _ => do
      unless ← Store.view pin (f.layout.isOccupied · id.slot) do fail (.recordNotFound id)
      Store.view pin (f.layout.slot · id.slot)) := by
    refine balanced_onStore_bind (balanced_view pin fun _ b => f.layout.isOccupied b id.slot) ?_
    intro occupied
    refine balanced_onStore_ite ?_ (balanced_onStore_bind (balanced_fail nofun) fun _ => ?_)
    · exact balanced_view pin fun _ b => f.layout.slot b id.slot
    · exact balanced_view pin fun _ b => f.layout.slot b id.slot
  refine balanced_onStore_ite hread (balanced_onStore_bind (balanced_fail nofun) fun _ => hread)

/-! ## The free list -/

theorem balanced_nextFree (page : Nat) : Balanced ample 1 (Session.onStore (·.nextFree page)) := by
  unfold RecordFile.nextFree
  refine balanced_withPage page fun pin => ?_
  rw [Session.onStore_bind]
  exact (balanced_view pin fun _ => PageHeader.decode).bind fun h => balanced_pure _

theorem balanced_locateFrom (page left : Nat) (prev current : Option Nat) :
    Balanced ample 1 (Session.onStore (·.locateFrom page left prev current)) := by
  refine RecordFile.locateFrom_induction (motive := fun x => Balanced ample 1 (Session.onStore x))
    (fun _ => balanced_pure _) (balanced_onStore fun f => balanced_fail nofun)
    (fun listed hrest => ?_) _ _ _
  rw [Session.onStore_bind]
  exact (balanced_nextFree listed).bind hrest

/-- **A walk along the free list** pins one page at a time. -/
theorem balanced_locate (page : Nat) : Balanced ample 1 (Session.onStore (·.locate page)) :=
  balanced_onStore_of (a := fun f => f.header)
    (y := fun h f => f.locateFrom page h.pages none h.freeHead) fun h =>
      balanced_locateFrom page h.pages none h.freeHead

theorem balanced_canLink (page : Nat) : Balanced ample 1 (Session.onStore (·.canLink page)) := by
  unfold RecordFile.canLink
  rw [Session.onStore_bind]
  refine (balanced_locate page).bind fun position => ?_
  by_cases habsent : position = .absent
  · simp only [if_pos habsent]
    exact balanced_pure _
  · simp only [if_neg habsent]
    rw [Session.onStore_bind]
    exact Balanced.bind (balanced_report nofun) fun _ => balanced_pure _

theorem balanced_link (pin : Pin) : Balanced ample n (Session.link pin) :=
  balanced_get_bind fun _ => (balanced_edit pin _).bind fun _ => (balanced_setFreeHead _).bind
    fun _ => balanced_report nofun

/-- **A page is put on the free list** at the price of one pin, for the walk. -/
theorem balanced_releasePage (pin : Pin) : Balanced ample 1 (Session.releasePage pin) :=
  (balanced_canLink pin.key.page).bind fun _ => balanced_ite (balanced_link pin) (balanced_pure _)

/-! ## Records -/

/-- **Inserting a record** pins the page with the free slot. -/
theorem balanced_insert (data : List UInt8) : Balanced ample 1 (Session.insert data) := by
  refine (balanced_checkSize data).bind fun _ => taking_freePage.balanced_withPin fun pin => ?_
  refine (balanced_view pin fun f => f.layout.firstFreeSlot).bind ?_
  rintro (_ | slot)
  · exact balanced_fail nofun
  · refine (balanced_edit pin fun l => l.fillSlot slot data).bind ?_
    rintro ⟨full, next⟩
    refine balanced_ite ?_ (balanced_pure _)
    exact (balanced_setFreeHead next).bind fun _ => Balanced.bind (balanced_report nofun) fun _ =>
      balanced_pure _

theorem balanced_fillAndUnlink (pin : Pin) (id : RecordId) (data : List UInt8)
    (position : FreePosition) (before : Option Pin) :
    Balanced ample n (Session.fillAndUnlink pin id data position before) := by
  refine (balanced_edit pin fun l => l.fillSlot id.slot data).bind ?_
  rintro ⟨full, next⟩
  have hreport : ∀ {e : Event}, (∀ page f, e ≠ .unpinFailed page f) →
      Balanced ample n (do Session.report e; Session.report (.pageUnlisted id.page)) :=
    fun he => (balanced_report he).bind fun _ => balanced_report nofun
  refine balanced_ite ?_ (balanced_pure _)
  cases position with
  | head => exact (balanced_setFreeHead next).bind fun _ => balanced_report nofun
  | absent => exact hreport nofun
  | after page =>
    cases before with
    | none => exact hreport nofun
    | some prev => exact (balanced_edit prev _).bind fun _ => balanced_report nofun

/-- **Inserting a record at a given place** pins its page, and beside it one page of the
walk or the page before it on the free list. -/
theorem balanced_insertAt (id : RecordId) (data : List UInt8) :
    Balanced ample 2 (Session.insertAt id data) := by
  refine (balanced_checkSize data).bind fun _ => (taking_pinPage id.page).balanced_withPin
    fun pin => balanced_get_bind fun s => balanced_unless nofun ?_
  refine (balanced_view pin fun f b => f.layout.isOccupied b id.slot).bind fun occupied =>
    balanced_refuse nofun ?_
  refine (balanced_view pin fun _ => PageHeader.decode).bind fun header => ?_
  refine balanced_ite ((balanced_locate id.page).bind ?_) (balanced_fillAndUnlink pin id data _ _)
  rintro (_ | prev | _)
  · exact balanced_fillAndUnlink pin id data _ _
  · exact (taking_pinPage prev).balanced_withPin fun before =>
      balanced_fillAndUnlink pin id data _ _
  · exact balanced_fillAndUnlink pin id data _ _

theorem balanced_isLive (pin : Pin) (id : RecordId) :
    Balanced ample n (Session.isLive pin id) :=
  balanced_onStore fun f => balanced_onStore_ite
    (balanced_view pin fun _ b => f.layout.isOccupied b id.slot) (balanced_pure _)

/-- **Deleting a record** pins its page, and beside it one page of the walk. -/
theorem balanced_delete (id : RecordId) : Balanced ample 2 (Session.delete id) := by
  refine (taking_pinPage id.page).balanced_withPin fun pin => ?_
  refine (balanced_isLive pin id).bind fun live => balanced_unless nofun ?_
  refine (balanced_view pin fun f b => f.layout.isFull b).bind fun full => ?_
  have hrest : ∀ relink, Balanced ample 1 (do
      Session.edit pin (·.vacateSlot id.slot)
      if relink = true then Session.link pin else pure ()) := fun relink =>
    (balanced_edit pin fun l => l.vacateSlot id.slot).bind fun _ =>
      balanced_ite (balanced_link pin) (balanced_pure _)
  exact balanced_ite ((balanced_canLink id.page).bind hrest) ((balanced_pure false).bind hrest)

/-- **Replacing a record** pins its page. -/
theorem balanced_update (id : RecordId) (data : List UInt8) :
    Balanced ample 1 (Session.update id data) := by
  refine (balanced_checkSize data).bind fun _ => (taking_pinPage id.page).balanced_withPin
    fun pin => ?_
  exact (balanced_isLive pin id).bind fun live => balanced_unless nofun
    (balanced_edit pin fun l => l.setSlot id.slot data)

/-! ## Scans -/

theorem balanced_seekFrom (left page slot : Nat) :
    Balanced ample 1 (Session.onStore fun f => Scan.seekFrom f left page slot) := by
  -- the induction is on the pages that are left
  induction left generalizing page slot with
  | zero => exact balanced_pure _
  | succ left ih =>
    unfold Scan.seekFrom
    rw [Session.onStore_bind]
    refine (balanced_withPage page fun pin =>
      balanced_view pin fun f b => f.layout.nextOccupied b slot).bind ?_
    rintro (_ | hit)
    · exact ih _ _
    · exact balanced_pure _

/-- **A search for the next record** pins one page at a time. -/
theorem balanced_seek (page slot : Nat) :
    Balanced ample 1 (Session.onStore fun f => Scan.seek f page slot) :=
  balanced_onStore_of (a := fun f => f.header.pages - page)
    (y := fun left f => Scan.seekFrom f left page slot) fun left => balanced_seekFrom left page slot

theorem balanced_start : Balanced ample 1 (Session.onStore Scan.start) := by
  unfold Scan.start
  rw [Session.onStore_bind]
  exact (balanced_seek 0 0).bind fun _ => balanced_pure _

theorem balanced_advance (scan : Scan) :
    Balanced ample 1 (Session.onStore fun f => scan.advance f) := by
  unfold Scan.advance
  cases scan.position with
  | none => exact balanced_pure _
  | some id =>
    dsimp only
    rw [Session.onStore_bind]
    exact (balanced_seek _ _).bind fun _ => balanced_pure _

/-- An error that a scan has to give out does not come from the pool, if there is ample
room and the file can still grow. -/
def Session.Owes (ample : Prop) (s : Session) (e? : Option RecordError) : Prop :=
  ∀ e ∈ e?, ample → FromPool (.error e) → s.Full

theorem Session.owes_none (ample : Prop) (s : Session) : s.Owes ample none := nofun

theorem Session.Owes.steady {e? : Option RecordError} {s' : Session} (h : s.Owes ample e?)
    (hsteady : s.Steady s') : s'.Owes ample e? :=
  fun e he ha hpool => hsteady.full (h e he ha hpool)

/-- The error among the items of a scan. -/
def Scan.failure? : Scan.Item → Option RecordError
  | .ok _ => none
  | .error e => some e

/-- **A scan gives out its next item.** -/
theorem Session.Fit.ends_next {scan : Scan} (hs : s.Fit) (hroomy : ample → s.Roomy 1)
    (howes : s.Owes ample scan.pending) :
    Ends (Session.onStore fun f => scan.next f) s
      (fun r s' => s.Steady s' ∧ (∀ item ∈ r.1, s'.Owes ample (Scan.failure? item)) ∧
        s'.Owes ample r.2.pending)
      (Fails ample s) := by
  unfold Scan.next
  cases hpending : scan.pending with
  | some e =>
    rw [hpending] at howes
    refine ⟨.refl hs, ?_, Session.owes_none _ _⟩
    rintro _ ⟨⟩
    exact howes
  | none =>
    cases hposition : scan.position with
    | none =>
      refine ⟨.refl hs, nofun, ?_⟩
      show s.Owes ample scan.pending
      rw [hpending]
      exact Session.owes_none _ _
    | some id =>
      dsimp only
      rw [Session.onStore_bind, Session.onStore_attempt, ends_bind, ends_attempt]
      have hitem : ∀ s' : Session, ∀ item ∈ some (Except.ok id : Scan.Item),
          s'.Owes ample (Scan.failure? item) := by
        rintro s' _ ⟨⟩
        exact Session.owes_none _ _
      have hkeep : Ends (Session.onStore fun f => scan.advance f) s
          (fun scan' s' => s.Steady s' ∧ scan'.pending = none) (Fails ample s) := by
        unfold Scan.advance
        rw [hposition]
        dsimp only
        rw [Session.onStore_bind, ends_bind]
        exact (balanced_seek id.page (id.slot + 1) s hs hroomy).imp
          (fun _ _ hsteady => ⟨hsteady, hpending⟩) fun _ _ h => h
      refine hkeep.imp ?_ ?_
      · rintro scan' s' ⟨hsteady, hnone⟩
        refine ⟨hsteady, hitem s', ?_⟩
        show s'.Owes ample scan'.pending
        rw [hnone]
        exact Session.owes_none _ _
      · rintro (e | o) s' hfails
        · refine ⟨hfails.steady, hitem s', ?_⟩
          rintro _ ⟨⟩ ha hpool
          exact hfails.full ha hpool
        · exact hfails

theorem Session.Fit.ends_itemsFrom (bound : Nat) {scan : Scan} (hs : s.Fit)
    (hroomy : ample → s.Roomy 1) (howes : s.Owes ample scan.pending) :
    Ends (Session.onStore fun f => Scan.itemsFrom f bound scan) s
      (fun items s' => s.Steady s' ∧ ∀ item ∈ items, s'.Owes ample (Scan.failure? item))
      (Fails ample s) := by
  induction bound generalizing s scan with
  | zero => exact ⟨.refl hs, nofun⟩
  | succ bound ih =>
    unfold Scan.itemsFrom
    rw [Session.onStore_bind, ends_bind]
    refine (hs.ends_next hroomy howes).imp ?_ fun _ _ h => h
    rintro ⟨_ | item, scan'⟩ s₁ ⟨hsteady, hitem, howes₁⟩
    · exact ⟨hsteady, nofun⟩
    · dsimp only
      rw [Session.onStore_bind, ends_bind]
      refine (ih hsteady.fit (fun ha => hsteady.roomy hs (hroomy ha)) howes₁).imp ?_
        fun _ _ h => h.of_steady hsteady
      rintro items s₂ ⟨hsteady₂, hitems⟩
      refine ⟨hsteady.trans hsteady₂, ?_⟩
      rw [List.forall_mem_cons]
      exact ⟨(hitem item rfl).steady hsteady₂, hitems⟩

/-- **A scan** pins one page at a time, and gives out no error of the pool as long as
there is ample room. -/
theorem Session.Fit.ends_items (hs : s.Fit) (hroomy : ample → s.Roomy 1) :
    Ends (Session.onStore Scan.items) s
      (fun items s' => s.Steady s' ∧ ∀ item ∈ items, s'.Owes ample (Scan.failure? item))
      (Fails ample s) := by
  unfold Scan.items Scan.start
  rw [Session.onStore_bind, Session.onStore_bind, ends_bind, ends_bind]
  refine (balanced_seek 0 0 s hs hroomy).imp ?_ fun _ _ h => h
  intro first s₁ hsteady
  refine (hsteady.fit.ends_itemsFrom (Scan.bound s₁.file)
    (fun ha => hsteady.roomy hs (hroomy ha)) (Session.owes_none _ _)).imp ?_
      fun _ _ h => h.of_steady hsteady
  rintro items s₂ ⟨hsteady₂, hitems⟩
  exact ⟨hsteady.trans hsteady₂, hitems⟩

/-! ## Inspection -/

theorem balanced_inspectPage (page : Nat) :
    Balanced ample 1 (Session.onStore (·.inspectPage page)) := by
  unfold RecordFile.inspectPage
  refine balanced_withPage page fun pin => balanced_onStore fun f => ?_
  refine balanced_onStore_bind (balanced_view pin fun _ => PageHeader.decode) fun header => ?_
  refine balanced_onStore_bind (balanced_view pin fun _ b => f.layout.occupiedCount b) fun _ => ?_
  exact balanced_pure _

theorem balanced_inspectPages (pages : List Nat) :
    Balanced ample 1 (Session.onStore fun f => pages.mapM f.inspectPage) := by
  induction pages with
  | nil => exact balanced_pure _
  | cons page pages ih =>
    simp only [List.mapM_cons]
    rw [Session.onStore_bind]
    refine (balanced_inspectPage page).bind fun _ => ?_
    rw [Session.onStore_bind]
    exact ih.bind fun _ => balanced_pure _

/-- **An inspection** pins one page at a time, -/
theorem balanced_inspect : Balanced ample 1 (Session.onStore (·.inspect)) := by
  unfold RecordFile.inspect
  rw [Session.onStore_bind]
  refine Balanced.bind ?_ fun pages => balanced_onStore fun f => balanced_pure _
  exact balanced_onStore_of (a := fun f => List.range f.header.pages)
    (y := fun pages f => pages.mapM f.inspectPage) balanced_inspectPages

/-- and so does a check. -/
theorem balanced_check : Balanced ample 1 (Session.onStore (·.check)) := by
  unfold RecordFile.check
  rw [Session.onStore_bind]
  exact balanced_inspect.bind fun r => balanced_onStore_ite (balanced_pure _) (balanced_fail nofun)

end Operations

end SlottedFile
