import SlottedFile.Proofs.Plain.Rules
import SlottedFile.Proofs.Plain.Steps

/-!
# Reading a record file, pool and all

An operation that only looks at a record file does what its plain counterpart
does, or fails for want of a page. That much holds of any file whose layout fits
and which holds as many pages as its header counts (`PlainFile.Sized`), whatever is
in its pages.
-/

namespace SlottedFile

section Rules

variable {imageOf : Nat → ImageId} {raw : List Hold} {ids : List Nat} {p₀ : PlainFile} {α β : Type}
  {s s' : Session}

theorem Session.onStore_bind (x : RecordFile → StoreM RecordError β)
    (k : RecordFile → β → StoreM RecordError α) :
    onStore (fun f => x f >>= k f) = onStore x >>= fun b => onStore fun f => k f b := by
  funext s
  simp only [onStore, Bind.bind, EStateM.bind]
  cases x s.file s.store <;> rfl

/-- To hold a page in the store is to hold it in the session. -/
theorem Session.onStore_withPage (page : Nat) (body : RecordFile → Pin → StoreM RecordError α) :
    onStore (fun f => f.withPage page (body f)) =
      withPin (pinPage page) fun pin => onStore fun f => body f pin := by
  funext s
  unfold RecordFile.withPage Store.withPin withPin
  rw [onStore_bind]
  show EStateM.bind _ _ s = EStateM.bind _ _ s
  unfold EStateM.bind pinPage
  cases onStore (fun f => f.pinPage page) s with
  | error e s₁ => rfl
  | ok pin s₁ =>
    show onStore (fun f => tryFinally (body f pin) (Store.release pin)) s₁ =
      tryFinally (onStore fun f => body f pin) (onStore fun _ => Store.release pin) s₁
    unfold onStore
    simp only [tryFinally, tryFinally', Functor.map, EStateM.map]
    cases body s₁.file pin s₁.store with
    | ok a store =>
      dsimp only
      generalize (Store.release pin store : EStateM.Result (Fault RecordError) Store Unit) = r
      cases r <;> rfl
    | error e store =>
      dsimp only
      generalize (Store.release pin store : EStateM.Result (Fault RecordError) Store Unit) = r
      cases r <;> rfl

/-- **A page is pinned while something is done**: the plain operation only checks
that the page is there. -/
theorem does_pinned (hs : s.Good imageOf raw) (hp : s.plain imageOf = p₀) (hsized : p₀.Sized)
    {page : Nat} {body : Pin → RecordM α} {m : PlainM α}
    (hbody : page < p₀.header.pages → ∀ pin s', Session.Became imageOf raw s p₀ s' →
      pin.key = ⟨s'.file.handle, page⟩ → s'.store.Holds pin →
      (∀ q, s.store.Holds q → s'.store.Holds q) →
      Does imageOf raw (pin.id :: ids) p₀ (body pin) m s') :
    Does imageOf raw ids p₀ (Session.withPin (Session.pinPage page) body)
      (do PlainFile.checkPage page; m) s := by
  have hcheck : (do PlainFile.checkPage page; m : PlainM α) =
      (do PlainFile.checkPage page; return page : PlainM Nat) >>= fun _ => m := by
    rw [bind_assoc]
    rfl
  rw [hcheck]
  refine (takes_pinPage hs hp (Nat.le_of_eq hsized.count.symm) page).does_withPin ?_
  intro pin page' p' s' hm hbecame hkey hholds hold
  rw [hp] at hm
  obtain ⟨hlt, rfl, rfl⟩ := PlainFile.lt_of_checkPage hm
  exact hbody hlt pin s' hbecame hkey hholds hold

/-- What the plain operation does is a matter of the one file. -/
theorem Does.congr {x : RecordM α} {m n : PlainM α} (h : m (s.plain imageOf) = n (s.plain imageOf))
    (hx : Does imageOf raw ids p₀ x n s) : Does imageOf raw ids p₀ x m s := by
  unfold Does
  rw [h]
  exact hx

/-- The operation looks at the open file. -/
theorem does_onStore {x : RecordFile → StoreM RecordError α} {m : PlainM α} :
    Does imageOf raw ids p₀ (Session.onStore x) m s ↔
      Does imageOf raw ids p₀ (Session.onStore fun _ => x s.file) m s :=
  Iff.rfl

/-- A step on the way that leaves no trace. -/
theorem Does.skip {x : RecordM Unit} (hx : Does imageOf raw ids p₀ x (pure ()) s) {y : RecordM α}
    {m : PlainM α} (hy : ∀ s', Session.Became imageOf raw s (s.plain imageOf) s' →
      SameHeld ids s.store.held s'.store.held → Does imageOf raw ids p₀ y m s') :
    Does imageOf raw ids p₀ (do x; y) m s := by
  have hbind : Does imageOf raw ids p₀ (x >>= fun _ => y) (pure () >>= fun _ => m) s := by
    refine hx.bind fun _ p' s' hm hbecame hheld => ?_
    cases hm
    exact hy s' hbecame hheld
  exact hbind

/-- An event is reported on the way. -/
theorem does_reported (hs : s.Good imageOf raw) (e : Event) {y : RecordM α} {m : PlainM α}
    (hy : ∀ s', Session.Became imageOf raw s (s.plain imageOf) s' →
      SameHeld ids s.store.held s'.store.held → Does imageOf raw ids p₀ y m s') :
    Does imageOf raw ids p₀ (do Session.report e; y) m s :=
  (does_report hs e).skip hy

end Rules

/-! ## Operations that only look -/

section Looking

variable {imageOf : Nat → ImageId} {raw : List Hold} {ids : List Nat} {p₀ : PlainFile}
  {s s' : Session}

theorem does_checkSize (hs : s.Good imageOf raw) (hp : s.plain imageOf = p₀) (data : List UInt8) :
    Does imageOf raw ids p₀ (Session.onStore (·.checkSize data)) (PlainFile.checkSize data) s := by
  have hreal : Session.onStore (·.checkSize data) s =
      (if data.length ≠ s.file.header.recordSize then
        fail (.invalidRecordSize s.file.header.recordSize data.length) else pure () : RecordM Unit) s
      := by
    unfold Session.onStore RecordFile.checkSize
    by_cases hsize : data.length ≠ s.file.header.recordSize
    · simp only [if_pos hsize]
      rfl
    · simp only [if_neg hsize]
      rfl
  have hite : Does imageOf raw ids p₀ (if data.length ≠ s.file.header.recordSize then
      fail (.invalidRecordSize s.file.header.recordSize data.length) else pure () : RecordM Unit)
      (PlainFile.checkSize data) s :=
    does_get (does_ite Iff.rfl (fun _ => does_fail hs hp _) fun _ => does_pure hs _)
  unfold Does Ends at hite ⊢
  rw [hreal]
  exact hite

theorem does_nextFree (hs : s.Good imageOf raw) (hp : s.plain imageOf = p₀) (hsized : p₀.Sized)
    (page : Nat) :
    Does imageOf raw ids p₀ (Session.onStore (·.nextFree page)) (PlainFile.nextFree page) s := by
  unfold RecordFile.nextFree
  rw [Session.onStore_withPage]
  refine does_pinned hs hp hsized fun _ pin s₁ hbecame hkey hholds _ => ?_
  rw [Session.onStore_bind]
  refine (does_view (f := fun _ => PageHeader.decode) hbecame.good hholds hkey
    (.inl hbecame.plain_eq)).bind ?_
  intro h p' s₂ _ hbecame₂ _
  exact does_pure hbecame₂.good _

theorem does_locateFrom (hs : s.Good imageOf raw) (hp : s.plain imageOf = p₀) (hsized : p₀.Sized)
    (page left : Nat) (prev current : Option Nat) :
    Does imageOf raw ids p₀ (Session.onStore (·.locateFrom page left prev current))
      (PlainFile.locateFrom page left prev current) s := by
  -- the induction is on the links that may still be followed
  induction left generalizing s prev current with
  | zero =>
    cases current with
    | none => exact does_pure hs _
    | some listed =>
      unfold RecordFile.locateFrom PlainFile.locateFrom
      by_cases hlisted : listed = page
      · simp only [if_pos hlisted]
        exact does_pure hs _
      · simp only [if_neg hlisted]
        exact does_get (does_fail hs hp _)
  | succ left ih =>
    cases current with
    | none => exact does_pure hs _
    | some listed =>
      unfold RecordFile.locateFrom PlainFile.locateFrom
      by_cases hlisted : listed = page
      · simp only [if_pos hlisted]
        exact does_pure hs _
      · simp only [if_neg hlisted]
        rw [Session.onStore_bind]
        refine (does_nextFree hs hp hsized listed).bind_read hp
          (fun _ _ => (PlainFile.reads_nextFree listed).eq) ?_
        intro next s₁ _ hbecame _
        exact ih hbecame.good hbecame.plain_eq _ _

theorem does_locate (hs : s.Good imageOf raw) (hp : s.plain imageOf = p₀) (hsized : p₀.Sized)
    (page : Nat) :
    Does imageOf raw ids p₀ (Session.onStore (·.locate page)) (PlainFile.locate page) s := by
  refine does_get ?_
  exact does_locateFrom hs hp hsized page _ _ _

theorem does_canLink (hs : s.Good imageOf raw) (hp : s.plain imageOf = p₀) (hsized : p₀.Sized)
    (page : Nat) :
    Does imageOf raw ids p₀ (Session.onStore (·.canLink page)) (PlainFile.canLink page) s := by
  unfold RecordFile.canLink
  rw [Session.onStore_bind]
  refine (does_locate hs hp hsized page).bind fun position p' s₁ _ hbecame _ => ?_
  by_cases habsent : position = .absent
  · subst habsent
    exact does_pure hbecame.good _
  · simp only [if_neg habsent, decide_eq_false habsent]
    exact does_reported hbecame.good _ fun s₂ hbecame₂ _ => does_pure hbecame₂.good _

/-- **Whether there is a record** at a place of a pinned page. -/
theorem does_isLive (hs : s.Good imageOf raw) (hp : s.plain imageOf = p₀) {pin : Pin}
    (hpin : s.store.Holds pin) {id : RecordId} (hkey : pin.key = ⟨s.file.handle, id.page⟩) :
    Does imageOf raw ids p₀ (Session.isLive pin id) (PlainFile.isLive id) s := by
  refine does_onStore.mpr ?_
  by_cases hslot : s.file.hasSlot id.slot = true
  · refine Does.congr (PlainFile.isLive_of_hasSlot (p := s.plain imageOf) hslot) ?_
    simp only [hslot, if_true]
    exact does_view (f := fun l b => l.isOccupied b id.slot) hs hpin hkey (.inl hp)
  · refine Does.congr (n := pure false) (PlainFile.isLive_of_not_hasSlot hslot) ?_
    simp only [hslot]
    exact does_pure hs _

/-- **Reading a record** gives what is in its slot. -/
theorem does_getRecord (hs : s.Good imageOf raw) (hp : s.plain imageOf = p₀) (hsized : p₀.Sized)
    (id : RecordId) :
    Does imageOf raw ids p₀ (Session.onStore (·.get id)) (PlainFile.get id) s := by
  unfold RecordFile.get
  rw [Session.onStore_withPage]
  refine does_pinned hs hp hsized fun _ pin s₁ hbecame hkey hholds _ => ?_
  have hp₁ := hbecame.plain_eq
  refine does_onStore.mpr ?_
  by_cases hslot : s₁.file.hasSlot id.slot = true
  · refine Does.congr (n := do
      unless ← PlainFile.look id.page (·.isOccupied · id.slot) do fail (.recordNotFound id)
      PlainFile.look id.page (·.slot · id.slot)) ?_ ?_
    · show EStateM.bind _ _ _ = EStateM.bind _ _ _
      unfold EStateM.bind
      rw [PlainFile.isLive_of_hasSlot (p := s₁.plain imageOf) hslot]
    simp only [hslot, if_true]
    rw [Session.onStore_bind]
    refine (does_view (f := fun l b => l.isOccupied b id.slot) hbecame.good hholds hkey
      (.inl hp₁)).bind_read hp₁ (fun _ _ => (PlainFile.reads_look _ _).eq) ?_
    rintro (_ | _) s₂ _ hbecame₂ hheld₂
    · exact does_fail hbecame₂.good hbecame₂.plain_eq _
    · rw [← hbecame₂.file_eq hp₁]
      rw [← hbecame₂.handle_eq] at hkey
      exact does_view (f := fun l b => l.slot b id.slot) hbecame₂.good (hholds.of_sameHeld hheld₂)
        hkey (.inl hbecame₂.plain_eq)
  · refine Does.congr (n := fail (.recordNotFound id)) ?_ ?_
    · show EStateM.bind _ _ _ = _
      unfold EStateM.bind
      rw [PlainFile.isLive_of_not_hasSlot (p := s₁.plain imageOf) hslot]
      rfl
    simp only [hslot]
    exact does_fail hbecame.good hp₁ _

/-- **Finding the next record** among some pages. -/
theorem does_seekFrom (hs : s.Good imageOf raw) (hp : s.plain imageOf = p₀) (hsized : p₀.Sized)
    (left page slot : Nat) :
    Does imageOf raw ids p₀ (Session.onStore fun f => Scan.seekFrom f left page slot)
      (PlainFile.seekFrom left page slot) s := by
  -- the induction is on the pages that are left
  induction left generalizing s page slot with
  | zero => exact does_pure hs _
  | succ left ih =>
    unfold Scan.seekFrom PlainFile.seekFrom
    rw [Session.onStore_bind, Session.onStore_withPage]
    have hlook : Does imageOf raw ids p₀
        (Session.withPin (Session.pinPage page) fun pin =>
          Session.onStore fun f => Store.view pin (f.layout.nextOccupied · slot))
        (do PlainFile.checkPage page; PlainFile.look page (·.nextOccupied · slot)) s := by
      refine does_pinned hs hp hsized fun _ pin s₁ hbecame hkey hholds _ => ?_
      exact does_view (f := fun l b => l.nextOccupied b slot) hbecame.good hholds hkey
        (.inl hbecame.plain_eq)
    rw [← bind_assoc]
    refine hlook.bind_read hp (fun _ _ => ((PlainFile.reads_checkPage page).bind
      fun _ => PlainFile.reads_look _ _).eq) ?_
    rintro (_ | hit) s₁ _ hbecame _
    · exact ih hbecame.good hbecame.plain_eq _ _
    · exact does_pure hbecame.good _

theorem does_seek (hs : s.Good imageOf raw) (hp : s.plain imageOf = p₀) (hsized : p₀.Sized)
    (page slot : Nat) :
    Does imageOf raw ids p₀ (Session.onStore fun f => Scan.seek f page slot)
      (PlainFile.seek page slot) s := by
  refine does_get ?_
  exact does_seekFrom hs hp hsized _ _ _

end Looking

end SlottedFile
