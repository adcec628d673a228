import SlottedFile.Proofs.Plain.Reading

/-!
# Inspecting a record file, pool and all

An inspection looks at one page after the other, and reports what the plain file
reports or fails for want of a page. The same goes for a check, which fails besides if
the report shows anything wrong.
-/

namespace SlottedFile

section Inspecting

variable {imageOf : Nat → ImageId} {raw : List Hold} {ids : List Nat} {p₀ : PlainFile}
  {s : Session}

theorem does_inspectPage (hs : s.Good imageOf raw) (hp : s.plain imageOf = p₀) (hsized : p₀.Sized)
    (page : Nat) :
    Does imageOf raw ids p₀ (Session.onStore (·.inspectPage page)) (PlainFile.inspectPage page) s := by
  unfold RecordFile.inspectPage PlainFile.inspectPage
  rw [Session.onStore_withPage]
  refine does_pinned hs hp hsized fun _ pin s₁ hbecame hkey hholds _ => ?_
  rw [Session.onStore_bind]
  refine (does_view (f := fun _ => PageHeader.decode) hbecame.good hholds hkey
    (.inl hbecame.plain_eq)).bind_read hbecame.plain_eq (fun _ _ => (PlainFile.reads_look _ _).eq) ?_
  intro header s₂ _ hbecame₂ hheld₂
  rw [← hbecame₂.handle_eq] at hkey
  rw [Session.onStore_bind]
  refine (does_view (f := PageLayout.occupiedCount) hbecame₂.good (hholds.of_sameHeld hheld₂) hkey
    (.inl hbecame₂.plain_eq)).bind_read hbecame₂.plain_eq
      (fun _ _ => (PlainFile.reads_look _ _).eq) ?_
  intro occupied s₃ _ hbecame₃ _
  exact does_get (@does_pure _ _ _ p₀ _ _ hbecame₃.good _)

theorem does_inspectPages (hs : s.Good imageOf raw) (hp : s.plain imageOf = p₀)
    (hsized : p₀.Sized) (pages : List Nat) :
    Does imageOf raw ids p₀ (Session.onStore fun f => pages.mapM f.inspectPage)
      (pages.mapM PlainFile.inspectPage) s := by
  induction pages generalizing s with
  | nil => exact does_pure hs _
  | cons page pages ih =>
    simp only [List.mapM_cons]
    rw [Session.onStore_bind]
    refine (does_inspectPage hs hp hsized page).bind_read hp
      (fun _ _ => (PlainFile.reads_inspectPage page).eq) fun report s₁ _ hbecame _ => ?_
    rw [Session.onStore_bind]
    refine (ih hbecame.good hbecame.plain_eq).bind_read hbecame.plain_eq
      (fun _ _ => (PlainFile.reads_inspectPages pages).eq) fun reports s₂ _ hbecame₂ _ => ?_
    exact does_pure hbecame₂.good _

/-- **An inspection** reports what the plain file reports. -/
theorem does_inspect (hs : s.Good imageOf raw) (hp : s.plain imageOf = p₀) (hsized : p₀.Sized) :
    Does imageOf raw ids p₀ (Session.onStore (·.inspect)) PlainFile.inspect s := by
  unfold RecordFile.inspect PlainFile.inspect
  rw [Session.onStore_bind]
  refine does_get (Does.bind_read hp
    (does_inspectPages hs hp hsized (List.range s.file.header.pages))
    (fun _ _ => (PlainFile.reads_inspectPages _).eq) fun reports s₁ _ hbecame _ => ?_)
  have hheader : (s.plain imageOf).header = s₁.file.header :=
    congrArg RecordFile.header (hbecame.file_eq hp).symm
  rw [hheader]
  exact @does_pure _ _ _ p₀ _ _ hbecame.good _

/-- **A check** finds wrong what is wrong with the plain file. -/
theorem does_check (hs : s.Good imageOf raw) (hp : s.plain imageOf = p₀) (hsized : p₀.Sized) :
    Does imageOf raw ids p₀ (Session.onStore (·.check)) PlainFile.check s := by
  unfold RecordFile.check PlainFile.check
  rw [Session.onStore_bind]
  refine (does_inspect hs hp hsized).bind_read hp (fun _ _ => PlainFile.reads_inspect.eq) ?_
  intro report s₁ _ hbecame _
  by_cases hempty : report.violations.isEmpty = true
  · simp only [hempty, if_true]
    exact does_pure hbecame.good _
  · simp only [hempty]
    exact does_fail hbecame.good hbecame.plain_eq _

end Inspecting

end SlottedFile
