import SlottedFile.Proofs.Pool.Staining
import SlottedFile.RecordFile.FreeList
import SlottedFile.RecordFile.Report
import SlottedFile.RecordFile.Scan

/-!
# Looking at a record file stains nothing

An operation that only looks holds one page at a time, looks at it, and gives it back. Whatever
it finds there, and whether or not the pool has a frame for the next page, it has stained
nothing. The number of the next pin tells how many pages were held, so that it also tells
what a walk along the free list costs (`RecordFile.ends_locateFrom_pins`): a page for each link
at most, and one less if it ends because a page could not be fetched.
-/

namespace SlottedFile

open Store

variable {α : Type} {f : RecordFile}

/-! ## Holding a page -/

/-- **A page of the file is lent**; one that is not fetched takes no pin. -/
theorem RecordFile.ends_pinPage_lent (f : RecordFile) (page : Nat) {s : Store}
    (hs : s.files.Sound) :
    Ends (f.pinPage page) s
      (fun pin s' => pin.key = ⟨f.handle, page⟩ ∧ Lent ∅ pin s s' ∧ s'.nextPin = s.nextPin + 1 ∧
        s.Keeps s')
      fun _ s' => s.Unnoticed s' := by
  unfold pinPage
  refine ends_ite.mpr ⟨fun _ => .refl s, fun _ => ?_⟩
  exact ends_widenError.mpr (Store.ends_pinPage_lent hs f.handle page)

theorem spotless_withPage (page : Nat) {body : Pin → StoreM RecordError α}
    (hbody : ∀ pin, Spotless (body pin)) : Spotless (f.withPage page body) :=
  spotless_withPin (fun _ hs => (f.ends_pinPage_lent page hs).imp
    (fun _ _ h => ⟨h.2.1, h.2.2.2⟩) fun _ _ h => h.intact) hbody

/-- **Reading a record.** -/
theorem spotless_get (id : RecordId) : Spotless (f.get id) := by
  refine spotless_withPage id.page fun pin => spotless_unless ?_
  exact (spotless_view pin _).bind fun _ => spotless_unless (spotless_view pin _)

/-! ## The free list -/

theorem spotless_nextFree (page : Nat) : Spotless (f.nextFree page) :=
  spotless_withPage page fun pin => (spotless_view pin _).bind fun _ => spotless_pure _

theorem spotless_locateFrom (page left : Nat) (prev current : Option Nat) :
    Spotless (f.locateFrom page left prev current) :=
  RecordFile.locateFrom_induction (motive := fun x => Spotless (x f)) (fun _ => spotless_pure _)
    (spotless_fail _) (fun listed hrest => (spotless_nextFree listed).bind hrest) _ _ _

theorem spotless_locate (page : Nat) : Spotless (f.locate page) := spotless_locateFrom _ _ _ _

/-- **Finding out whether a page may be put on the free list.** -/
theorem spotless_canLink (page : Nat) : Spotless (f.canLink page) := by
  refine (spotless_locate page).bind fun position => spotless_ite (spotless_pure _) ?_
  exact (spotless_report _).bind fun _ => spotless_pure _

/-- **To follow a link takes one pin.** -/
theorem RecordFile.ends_nextFree_pins (f : RecordFile) (page : Nat) {s : Store}
    (hs : s.files.Sound) :
    Ends (f.nextFree page) s (fun _ s' => s'.nextPin = s.nextPin + 1)
      (fun e s' => s'.nextPin ≤ s.nextPin + 1 ∧
        ∀ q fe, e = .error (.internal (.fetch q fe)) → s'.nextPin = s.nextPin) := by
  unfold nextFree withPage withPin
  rw [ends_bind]
  refine (f.ends_pinPage_lent page hs).imp ?_ ?_
  · rintro pin s₁ ⟨-, -, hnext, -⟩
    have hback : Ends (release pin : StoreM RecordError Unit) s₁
        (fun _ s' => s'.nextPin = s.nextPin + 1) fun _ _ => False :=
      (ends_release_marks pin s₁).imp (fun _ _ h => h.2.2.1.trans hnext) fun _ _ h => h
    rw [ends_tryFinally, ends_bind]
    refine (ends_view_stays pin PageHeader.decode s₁).imp ?_ ?_
    · rintro _ _ ⟨-, rfl⟩
      exact hback.imp (fun _ _ h => h) fun _ _ h => h.elim
    · rintro _ _ ⟨⟨o, -, rfl⟩, rfl⟩
      exact hback.imp (fun _ _ h => ⟨Nat.le_of_eq h, nofun⟩) fun _ _ h => h.elim
  · intro e s' h
    exact ⟨Nat.le_succ_of_le (Nat.le_of_eq h.nextPin_eq), fun _ _ _ => h.nextPin_eq⟩

/-- **A walk along the free list takes a pin for each link at most**, and one less if a page
cannot be fetched. -/
theorem RecordFile.ends_locateFrom_pins (f : RecordFile) (page left : Nat)
    (prev current : Option Nat) {s : Store} (hs : s.Numbered) :
    Ends (f.locateFrom page left prev current) s (fun _ s' => s'.nextPin ≤ s.nextPin + left)
      (fun e s' => s'.nextPin ≤ s.nextPin + left ∧
        ∀ q fe, e = .error (.internal (.fetch q fe)) → s'.nextPin < s.nextPin + left) := by
  induction left generalizing s prev current with
  | zero =>
    cases current with
    | none => exact Nat.le_refl _
    | some listed => exact ends_ite.mpr ⟨fun _ => Nat.le_refl _, fun _ => ⟨Nat.le_refl _, nofun⟩⟩
  | succ left ih =>
    cases current with
    | none => exact Nat.le_add_right _ _
    | some listed =>
      refine ends_ite.mpr ⟨fun _ => Nat.le_add_right _ _, fun _ => ends_bind.mpr ?_⟩
      refine Ends.imp (Ends.and (f.ends_nextFree_pins listed hs.files)
        (spotless_nextFree listed s hs)) ?_ ?_
      · rintro next s₁ ⟨hnext, hintact⟩
        refine (ih (some listed) next (hintact.numbered hs)).imp ?_ ?_
        · intro _ s' hle
          omega
        · rintro e s' ⟨hle, hfetch⟩
          refine ⟨by omega, fun q fe he => ?_⟩
          have hlt := hfetch q fe he
          omega
      · rintro e s₁ ⟨⟨hle, hfetch⟩, -⟩
        refine ⟨by omega, fun q fe he => ?_⟩
        have heq := hfetch q fe he
        omega

/-! ## Scans -/

theorem spotless_seekFrom (left page slot : Nat) : Spotless (Scan.seekFrom f left page slot) := by
  -- the induction is on the pages that are left
  induction left generalizing page slot with
  | zero => exact spotless_pure _
  | succ left ih =>
    refine (spotless_withPage page fun pin => spotless_view pin _).bind ?_
    rintro (_ | hit)
    · exact ih _ _
    · exact spotless_pure _

theorem spotless_seek (page slot : Nat) : Spotless (Scan.seek f page slot) :=
  spotless_seekFrom _ _ _

theorem spotless_start : Spotless (Scan.start f) :=
  (spotless_seek 0 0).bind fun _ => spotless_pure _

theorem spotless_advance (scan : Scan) : Spotless (scan.advance f) := by
  unfold Scan.advance
  cases scan.position with
  | none => exact spotless_pure _
  | some id => exact (spotless_seek _ _).bind fun _ => spotless_pure _

/-- **A step of a scan**, also one that finds no frame for the next page. -/
theorem spotless_next (scan : Scan) : Spotless (scan.next f) := by
  unfold Scan.next
  cases scan.pending with
  | some e => exact spotless_pure _
  | none =>
    cases scan.position with
    | none => exact spotless_pure _
    | some id =>
      refine (spotless_attempt (spotless_advance scan)).bind ?_
      rintro (_ | _)
      · exact spotless_pure _
      · exact spotless_pure _

theorem spotless_itemsFrom (bound : Nat) (scan : Scan) : Spotless (Scan.itemsFrom f bound scan) := by
  induction bound generalizing scan with
  | zero => exact spotless_pure _
  | succ bound ih =>
    refine (spotless_next scan).bind ?_
    rintro ⟨_ | item, scan'⟩
    · exact spotless_pure _
    · exact (ih scan').bind fun _ => spotless_pure _

/-! ## Inspection -/

theorem spotless_inspectPage (page : Nat) : Spotless (f.inspectPage page) :=
  spotless_withPage page fun pin => (spotless_view pin _).bind fun _ =>
    (spotless_view pin _).bind fun _ => spotless_pure _

theorem spotless_inspectPages (pages : List Nat) : Spotless (pages.mapM f.inspectPage) := by
  induction pages with
  | nil => exact spotless_pure _
  | cons page pages ih =>
    rw [List.mapM_cons]
    exact (spotless_inspectPage page).bind fun _ => ih.bind fun _ => spotless_pure _

/-- **An inspection.** -/
theorem spotless_inspect : Spotless f.inspect :=
  (spotless_inspectPages _).bind fun _ => spotless_pure _

/-- **A check.** -/
theorem spotless_check : Spotless f.check :=
  spotless_inspect.bind fun _ => spotless_unless (spotless_pure _)

end SlottedFile
