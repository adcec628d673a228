import SlottedFile.Proofs.Plain.Steps

/-!
# Looking at a plain file without overrunning

What only looks at a file of the size that its header tells finds every range it looks
at, whatever the bytes in the pages are (`PlainFile.Looks`). It comes to a value or
reports an error, and leaves the file as it is.

A slot is only looked at after it was checked that there is such a slot, and the walk
along the free list follows as many links as the file has pages, so that it comes to
an end in a circle as well.
-/

namespace SlottedFile.PlainFile

variable {α β : Type} {p : PlainFile}

/-- **A plain operation looks at a file** and does not overrun. -/
def Looks (p : PlainFile) (m : PlainM α) : Prop :=
  Ends m p (fun _ p' => p' = p) fun e p' => p' = p ∧ e.IsError

theorem looks_pure (a : α) : Looks p (pure a) := ends_pure.mpr rfl

theorem looks_fail (e : RecordError) : Looks p (fail e : PlainM α) := ends_fail.mpr ⟨rfl, trivial⟩

/-- What was looked at is followed by something that does not overrun either. -/
theorem Looks.ends_bind {m : PlainM β} {k : β → PlainM α} {good : α → PlainFile → Prop}
    (hm : Looks p m) (hk : ∀ b, m p = .ok b p → Ends (k b) p good fun e _ => e.IsError) :
    Ends (m >>= k) p good fun e _ => e.IsError := by
  rw [SlottedFile.ends_bind, ends_iff]
  refine ⟨fun b p₁ hb => ?_, fun e p₁ he => (hm.of_error he).2⟩
  obtain rfl : p₁ = p := hm.of_ok hb
  exact hk b hb

theorem Looks.bind {m : PlainM β} {k : β → PlainM α} (hm : Looks p m)
    (hk : ∀ b, m p = .ok b p → Looks p (k b)) : Looks p (m >>= k) := by
  unfold Looks
  rw [SlottedFile.ends_bind, ends_iff]
  refine ⟨fun b p₁ hb => ?_, fun e p₁ he => hm.of_error he⟩
  obtain rfl : p₁ = p := hm.of_ok hb
  exact hk b hb

theorem looks_get_bind {k : PlainFile → PlainM α} (hk : Looks p (k p)) :
    Looks p (EStateM.get >>= k) := hk

/-- Nothing follows what is refused. -/
theorem looks_fail_bind (e : RecordError) (k : β → PlainM α) :
    Looks p ((fail e : PlainM β) >>= k) :=
  (looks_fail e).bind nofun

theorem looks_ite {c : Prop} [Decidable c] {m n : PlainM α} (hm : c → Looks p m)
    (hn : ¬c → Looks p n) : Looks p (if c then m else n) :=
  ends_ite.mpr ⟨hm, hn⟩

theorem looks_look {page : Nat} {f : PageLayout → Block → Except Overrun α} {a : α}
    (h : f p.layout (p.page page) = .ok a) : Looks p (look page f) :=
  (ends_look h).mpr rfl

theorem looks_checkPage (page : Nat) : Looks p (checkPage page) :=
  ends_checkPage.mpr ⟨fun _ => rfl, fun _ => ⟨rfl, trivial⟩⟩

theorem looks_checkSize (data : List UInt8) : Looks p (checkSize data) :=
  ends_checkSize.mpr ⟨fun _ => rfl, fun _ => ⟨rfl, trivial⟩⟩

/-! ## The free list -/

theorem looks_decode (page : Nat) : Looks p (look page fun _ => PageHeader.decode) :=
  looks_look (PageLayout.decode_eq (p.page page) p.layout)

theorem looks_nextFree (page : Nat) : Looks p (nextFree page) :=
  (looks_checkPage page).bind fun _ _ => (looks_decode page).bind fun _ _ => looks_pure _

/-- The walk looks at one page after the other, wherever the links lead. -/
theorem looks_locateFrom (page left : Nat) (prev current : Option Nat) :
    Looks p (locateFrom page left prev current) :=
  locateFrom_induction (fun _ => looks_pure _) (looks_get_bind (looks_fail _))
    (fun listed hrest => (looks_nextFree listed).bind fun next _ => hrest next) _ _ _

theorem looks_locate (page : Nat) : Looks p (locate page) :=
  looks_get_bind (looks_locateFrom _ _ _ _)

theorem looks_canLink (page : Nat) : Looks p (canLink page) :=
  (looks_locate page).bind fun _ _ => looks_pure _

/-! ## Records -/

theorem looks_isFull (page : Nat) : Looks p (look page (·.isFull)) :=
  looks_look (f := fun l => l.isFull) (PageLayout.isFull_eq (l := p.layout) (p.page page))

section Sized

variable (hsized : p.Sized)

include hsized

/-- A bit is looked at if there is such a slot. -/
theorem looks_isOccupied {id : RecordId} (hslot : id.slot < p.layout.recordsPerPage) :
    Looks p (look id.page (·.isOccupied · id.slot)) :=
  looks_look (f := fun l b => l.isOccupied b id.slot) (PageLayout.isOccupied_eq hsized.fits hslot)

theorem looks_isLive (id : RecordId) : Looks p (isLive id) :=
  looks_get_bind (looks_ite (fun hhas => looks_isOccupied hsized (of_decide_eq_true hhas))
    fun _ => looks_pure _)

theorem looks_get (id : RecordId) : Looks p (get id) := by
  refine (looks_checkPage id.page).bind fun _ _ => (looks_isLive hsized id).bind fun live hlive =>
    looks_ite (fun htrue => ?_) fun _ => looks_fail_bind _ _
  rw [htrue] at hlive
  exact looks_look (f := fun l b => PageLayout.slot l b id.slot)
    (PageLayout.slot_eq hsized.fits (slot_lt_of_isLive hlive))

/-! ## Scanning and inspection -/

theorem looks_seekFrom (left page slot : Nat) : Looks p (seekFrom left page slot) := by
  induction left generalizing page slot with
  | zero => exact looks_pure _
  | succ left ih =>
    unfold seekFrom
    refine (looks_checkPage page).bind fun _ _ => ?_
    refine (looks_look (f := fun l b => l.nextOccupied b slot)
      (PageLayout.nextOccupied_eq hsized.fits (p.page page) slot)).bind fun hit? _ => ?_
    cases hit? with
    | none => exact ih (page + 1) 0
    | some hit => exact looks_pure _

theorem looks_seek (page slot : Nat) : Looks p (seek page slot) :=
  looks_get_bind (looks_seekFrom hsized _ _ _)

theorem looks_inspectPage (page : Nat) : Looks p (inspectPage page) := by
  refine (looks_checkPage page).bind fun _ _ => (looks_decode page).bind fun _ _ => ?_
  refine (looks_look (f := fun l => l.occupiedCount)
    (PageLayout.occupiedCount_eq hsized.fits (p.page page))).bind fun _ _ => ?_
  exact looks_get_bind (looks_pure _)

theorem looks_inspectPages (pages : List Nat) : Looks p (pages.mapM inspectPage) := by
  induction pages with
  | nil => exact looks_pure _
  | cons page pages ih =>
    rw [List.mapM_cons]
    exact (looks_inspectPage hsized page).bind fun _ _ => ih.bind fun _ _ => looks_pure _

theorem looks_inspect : Looks p inspect :=
  looks_get_bind ((looks_inspectPages hsized _).bind fun _ _ => looks_pure _)

theorem looks_check : Looks p check :=
  (looks_inspect hsized).bind fun _ _ => looks_ite (fun _ => looks_pure _) fun _ => looks_fail _

end Sized

end SlottedFile.PlainFile
