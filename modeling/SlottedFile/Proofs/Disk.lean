import SlottedFile.Proofs.PagedFiles

/-!
# Files that are made on the disk, and removed

To make a file is to add entries to the disk – directories that were missing and
at last the file itself. What stood on the disk stands there afterwards
(`Disk.Extended`), so that a path still leads where it led, and the path that was
given leads to the file that was made (`Disk.canonical_of_target`).

There may have been a file at that place: a path can fail to lead there because
one of its directories was missing, and once that is made it does. Such a file is
emptied.

To remove a file is to take its entry away. No path leads through a file, so that every
path that led somewhere else still does (`Disk.canonical_removeEntry`).
-/

namespace SlottedFile

namespace Disk

variable {d d' d'' : Disk} {place : Place} {p : Path}

/-! ## Disks with more on them -/

/-- **No file stands at two places.** -/
def Unshared (d : Disk) : Prop :=
  ∀ p q i, d.node? p = some (.file i) → d.node? q = some (.file i) → p = q

theorem unshared_empty : empty.Unshared := by
  intro p q i hp
  unfold node? at hp
  split at hp <;> cases hp

/-- Where files stand depends on the entries of the disk alone. -/
theorem Unshared.congr (h : d.Unshared) (hentries : d'.entries = d.entries) : d'.Unshared := by
  intro p q i hp hq
  rw [node?_congr hentries] at hp hq
  exact h p q i hp hq

/-- **A disk on which everything still stands**, and every file is what it was. -/
structure Extended (d d' : Disk) : Prop where
  stands : Stands d d'
  image : ∀ i, d'.image i = d.image i
  unshared : d.Unshared → d'.Unshared

theorem Extended.refl (d : Disk) : Extended d d := ⟨fun _ _ h => h, fun _ => rfl, fun h => h⟩

theorem Extended.trans (h : Extended d d') (h' : Extended d' d'') : Extended d d'' where
  stands := fun q n hn => h'.stands q n (h.stands q n hn)
  image := fun i => (h'.image i).trans (h.image i)
  unshared := fun hd => h'.unshared (h.unshared hd)

/-- What stands on a disk with one more entry. -/
theorem node?_cons {n : Node} (hentries : d'.entries = (place, n) :: d.entries)
    (hnone : d.node? place = none) (q : Place) :
    d'.node? q = if q = place then some n else d.node? q := by
  unfold node? at hnone ⊢
  rw [hentries]
  split at hnone
  · cases hnone
  · rename_i hplace
    by_cases hq : q = place
    · rw [hq, if_neg hplace, if_pos rfl, List.lookup_cons, beq_self_eq_true]
    · rw [if_neg hq, List.lookup_cons, beq_eq_false_iff_ne.mpr hq]

theorem extended_of_cons {n : Node} (hentries : d'.entries = (place, n) :: d.entries)
    (hnone : d.node? place = none) (himage : ∀ i, d'.image i = d.image i)
    (hnew : ∀ i, n = .file i → d.images.size ≤ i) : Extended d d' where
  stands := by
    intro q m hq
    rw [node?_cons hentries hnone, if_neg, hq]
    rintro rfl
    rw [hnone] at hq
    cases hq
  image := himage
  unshared := by
    intro hd p q i hp hq
    rw [node?_cons hentries hnone] at hp hq
    -- a file that stood on the disk before is not the new one
    have hold : ∀ {r}, d.node? r = some (.file i) → some n ≠ some (.file i) := fun hr heq =>
      Nat.not_le.mpr (lt_of_node? hr) (hnew i (Option.some.inj heq))
    split at hp <;> split at hq
    · exact Eq.trans ‹_› (Eq.symm ‹_›)
    · exact absurd hp (hold hq)
    · exact absurd hq (hold hp)
    · exact hd p q i hp hq

theorem extended_addDirectory (hnone : d.node? place = none) : Extended d (d.addDirectory place) :=
  extended_of_cons rfl hnone (fun _ => rfl) nofun

theorem extended_addFile (hnone : d.node? place = none) : Extended d (d.addFile place) := by
  refine extended_of_cons rfl hnone (fun i => ?_) (by rintro i ⟨⟩; exact Nat.le_refl _)
  show (d.images.push Image.empty).getD i Image.empty = d.images.getD i Image.empty
  rw [Array.getD_eq_getD_getElem?, Array.getD_eq_getD_getElem?, Array.getElem?_push]
  split
  · rename_i hi
    rw [Array.getElem?_eq_none (Nat.le_of_eq hi.symm)]
    rfl
  · rfl

/-! ## Where paths lead -/

section Walking

variable {segment : String} {rest : List String} {found : Place}

theorem walk_cons_eq_ok_iff : d.walk place (segment :: rest) = .ok found ↔
    ∃ next, d.step place segment = .ok next ∧ d.walk next rest = .ok found := by
  rw [walk]
  cases d.step place segment <;> simp

/-- A walk comes to every place on its way. -/
theorem walk_append_eq_ok_iff {l l' : List String} : d.walk place (l ++ l') = .ok found ↔
    ∃ next, d.walk place l = .ok next ∧ d.walk next l' = .ok found := by
  induction l generalizing place with
  | nil => simp [walk]
  | cons segment rest ih =>
    rw [List.cons_append, walk_cons_eq_ok_iff]
    refine ⟨?_, ?_⟩
    · rintro ⟨next, hstep, hwalk⟩
      obtain ⟨last, hrest, hlast⟩ := ih.mp hwalk
      exact ⟨last, walk_cons_eq_ok_iff.mpr ⟨next, hstep, hrest⟩, hlast⟩
    · rintro ⟨last, hwalk, hlast⟩
      obtain ⟨next, hstep, hrest⟩ := walk_cons_eq_ok_iff.mp hwalk
      exact ⟨next, hstep, ih.mpr ⟨last, hrest, hlast⟩⟩

theorem walkShort_cons_eq_ok_iff : d.walkShort place (segment :: rest) = .ok found ↔
    ∃ next, d.step place segment = .ok next ∧ next.byteSize < pathLimit ∧
      d.walkShort next rest = .ok found := by
  rw [walkShort]
  cases d.step place segment with
  | error e => simp
  | ok next =>
    by_cases hlong : next.byteSize ≥ pathLimit
    · simp [hlong, Nat.not_lt.2 hlong]
    · simp [hlong, Nat.not_le.1 hlong]

theorem canonical_eq_ok_iff : d.canonical p = .ok found ↔
    formFlaw p = none ∧ d.walkShort (startOf p) p.segments = .ok found := by
  rw [canonical]
  cases formFlaw p <;> simp

theorem resolve_eq_ok_iff : d.resolve p = .ok found ↔
    pathFlaw p = none ∧ d.walk (startOf p) p.segments = .ok found := by
  rw [resolve]
  cases pathFlaw p <;> simp

end Walking

/-- A step looks at the place it starts from, and at the entry that it leads to. -/
theorem step_of_nodes {next : Place} {segment : String}
    (hfrom : ∀ n, d.node? place = some n → d'.node? place = some n)
    (hto : next = place ++ [segment] → ∀ n, d.node? next = some n → d'.node? next = some n)
    (hstep : d.step place segment = .ok next) : d'.step place segment = .ok next := by
  unfold step at hstep ⊢
  cases hnode : d.node? place with
  | none => simp only [hnode, reduceCtorEq] at hstep
  | some node =>
    rw [hnode] at hstep
    rw [hfrom _ hnode]
    cases node with
    | file i => cases hstep
    | directory =>
      dsimp only at hstep ⊢
      split at hstep
      · rename_i hidle
        rw [if_pos hidle, hstep]
      · rename_i hidle
        split at hstep
        · rename_i hup
          rw [if_neg hidle, if_pos hup, hstep]
        · rename_i hup
          split at hstep
          · cases hstep
          · rename_i hshort
            cases hentry : d.node? (place ++ [segment]) with
            | none =>
              rw [hentry] at hstep
              cases hstep
            | some m =>
              rw [hentry] at hstep
              cases hstep
              rw [if_neg hidle, if_neg hup, if_neg hshort, hto rfl m hentry]

theorem step_of_stands (h : Stands d d') {next : Place} {segment : String}
    (hstep : d.step place segment = .ok next) : d'.step place segment = .ok next :=
  step_of_nodes (h place) (fun _ => h next) hstep

/-- **A path that leads somewhere still leads there** if the disk has more on
it. -/
theorem walk_of_stands (h : Stands d d') {segments : List String} {found : Place}
    (hwalk : d.walk place segments = .ok found) : d'.walk place segments = .ok found := by
  induction segments generalizing place with
  | nil => exact hwalk
  | cons segment rest ih =>
    obtain ⟨next, hstep, hrest⟩ := walk_cons_eq_ok_iff.mp hwalk
    exact walk_cons_eq_ok_iff.mpr ⟨next, step_of_stands h hstep, ih hrest⟩

theorem canonical_of_stands (h : Stands d d') {found : Place} (hfound : d.canonical p = .ok found) :
    d'.canonical p = .ok found := by
  have hwalk : ∀ {segments place}, d.walkShort place segments = .ok found →
      d'.walkShort place segments = .ok found := by
    intro segments
    induction segments with
    | nil => exact fun hwalk => hwalk
    | cons segment rest ih =>
      intro place hwalk
      obtain ⟨next, hstep, hshort, hrest⟩ := walkShort_cons_eq_ok_iff.mp hwalk
      exact walkShort_cons_eq_ok_iff.mpr ⟨next, step_of_stands h hstep, hshort, ih hrest⟩
  rw [canonical_eq_ok_iff] at hfound ⊢
  exact hfound.imp_right hwalk

/-- **Where paths lead depends on the entries of the disk alone.** -/
theorem canonical_congr (h : d.entries = d'.entries) (p : Path) : d.canonical p = d'.canonical p := by
  have hstep : ∀ place segment, d.step place segment = d'.step place segment := by
    intro place segment
    unfold step
    rw [node?_congr h, node?_congr h]
  have hwalk : ∀ place segments, d.walkShort place segments = d'.walkShort place segments := by
    intro place segments
    induction segments generalizing place with
    | nil => rfl
    | cons segment rest ih =>
      unfold walkShort
      rw [hstep]
      cases d'.step place segment with
      | error e => rfl
      | ok next =>
        dsimp only
        rw [ih]
  unfold canonical
  rw [hwalk]

/-- The last segment of a path that does not end with a slash. -/
theorem segments_eq_of_last {segments before : List String} {last : String}
    (hdrop : segments.reverse.dropWhile (· == "") = last :: before)
    (hslash : (segments.getLast? == some "") = false) :
    segments = before.reverse ++ [last] ∧ last ≠ "" := by
  rw [List.getLast?_eq_head?_reverse] at hslash
  cases hreverse : segments.reverse with
  | nil =>
    rw [hreverse] at hdrop
    cases hdrop
  | cons x xs =>
    rw [hreverse] at hdrop hslash
    have hx : x ≠ "" := by
      rintro rfl
      simp at hslash
    rw [List.dropWhile_cons_of_neg (by simpa using hx)] at hdrop
    cases hdrop
    refine ⟨?_, hx⟩
    rw [← List.reverse_reverse segments, hreverse, List.reverse_cons]

/-- **What a path names**: an entry of the directory that its other segments lead
to. -/
theorem of_target (h : d.target p = .ok (.entry place false)) :
    pathFlaw p = none ∧ ∃ before last up, p.segments = before ++ [last] ∧
      d.walk (startOf p) before = .ok up ∧ d.node? up = some .directory ∧
      ¬Path.isIdle last = true ∧ last ≠ ".." ∧ place = up ++ [last] := by
  unfold target at h
  cases hflaw : pathFlaw p with
  | some e => simp only [hflaw, reduceCtorEq] at h
  | none =>
    rw [hflaw] at h
    dsimp only at h
    split at h
    · cases h
    · rename_i last before hsegments
      split at h
      · cases h
      · rename_i up hup
        split at h
        · rename_i hnode
          split at h
          · cases h
          · rename_i hdots
            simp only [Except.ok.injEq, Target.entry.injEq] at h
            obtain ⟨rfl, hslash⟩ := h
            obtain ⟨hlast, hempty⟩ := segments_eq_of_last hsegments hslash
            rw [Bool.or_eq_true, not_or, beq_iff_eq, beq_iff_eq] at hdots
            refine ⟨rfl, before.reverse, last, up, hlast, hup, hnode, ?_, hdots.2, rfl⟩
            unfold Path.isIdle
            rw [Bool.or_eq_true, beq_iff_eq, beq_iff_eq]
            exact fun hor => hor.elim hempty hdots.1
        · cases h
        · cases h

/-- A step down leads to the entry of that name. -/
theorem eq_of_step {segment : String} {next : Place} (hidle : ¬Path.isIdle segment = true)
    (hup : segment ≠ "..") (h : d.step place segment = .ok next) : next = place ++ [segment] := by
  unfold step at h
  split at h
  · rw [if_neg hidle, if_neg (by simpa using hup)] at h
    split at h
    · cases h
    · split at h
      · cases h
        rfl
      · cases h
  · cases h
  · cases h

/-- **A path leads to the entry that it names.** -/
theorem canonical_of_target (h : Stands d d') {found : Place}
    (htarget : d.target p = .ok (.entry place false)) (hfound : d'.canonical p = .ok found) :
    found = place := by
  obtain ⟨hflaw, before, last, up, hsegments, hup, -, hidle, hdots, rfl⟩ := of_target htarget
  have hwalk := walk_of_walkShort (canonical_eq_ok_iff.mp hfound).2
  rw [hsegments, walk_append_eq_ok_iff] at hwalk
  obtain ⟨up', hup', hlast⟩ := hwalk
  cases (walk_of_stands h hup).symm.trans hup'
  obtain ⟨next, hstep, hend⟩ := walk_cons_eq_ok_iff.mp hlast
  cases hend
  exact eq_of_step hidle hdots hstep

/-! ## Making entries -/

section Making

variable {α : Type}

theorem ends_tryCatch {x : DiskM α} {h : IoError → DiskM α} {good : α → Disk → Prop}
    {bad : IoError → Disk → Prop} :
    Ends (tryCatch x h) d good bad ↔ Ends x d good (fun e d' => Ends (h e) d' good bad) := by
  simp only [Ends, tryCatch, tryCatchThe, MonadExceptOf.tryCatch]
  delta EStateM.tryCatch
  cases x d <;> rfl

theorem ends_locate {good : Target → Disk → Prop} {bad : IoError → Disk → Prop} :
    Ends (locate p) d good bad ↔
      (∀ t, d.target p = .ok t → good t d) ∧ ∀ e, d.target p = .error e → bad e d := by
  unfold locate
  rw [ends_bind, ends_get]
  cases d.target p with
  | ok t => simp [ends_pure]
  | error e => simp [ends_throw]

theorem ends_lookUp {good : Option Node → Disk → Prop} {bad : IoError → Disk → Prop}
    (hgood : (place.getLastD "").utf8ByteSize ≤ maxSegment → good (d.node? place) d)
    (hbad : ∀ e, bad e d) : Ends (lookUp place) d good bad := by
  unfold lookUp
  exact ends_ite.mpr ⟨fun _ => hbad _, fun hshort => hgood (Nat.not_lt.1 hshort)⟩

/-! What no new directory changes, no making of directories does. -/

section Directories

variable {P : Disk → Prop}
  (hadd : ∀ {d : Disk} {place : Place}, d.node? place = none → P d → P (d.addDirectory place))

include hadd

/-- **Directories are made where nothing stands.** -/
theorem ends_makeDirectory (p : Path) (h : P d) :
    Ends (makeDirectory p) d (fun _ d' => P d') (fun _ d' => P d') := by
  unfold makeDirectory
  rw [ends_bind, ends_locate]
  refine ⟨fun t _ => ?_, fun _ _ => h⟩
  cases t with
  | directory => exact h
  | entry place slashed =>
    refine ends_bind.mpr (ends_lookUp (fun _ => ?_) fun _ => h)
    cases hnode : d.node? place with
    | some n => exact h
    | none => exact hadd hnode h

theorem ends_ensureDirectory (p : Path) (h : P d) :
    Ends (ensureDirectory p) d (fun _ d' => P d') (fun _ d' => P d') := by
  refine ends_tryCatch.mpr ((ends_makeDirectory hadd p h).imp (fun _ _ h => h) fun e d' h => ?_)
  rw [ends_bind, ends_get]
  exact ends_ite.mpr ⟨fun _ => h, fun _ => h⟩

theorem ends_makeDirectories (depth : Nat) (p : Path) (h : P d) :
    Ends (makeDirectories depth p) d (fun _ d' => P d') (fun _ d' => P d') := by
  induction depth generalizing d p with
  | zero => exact h
  | succ depth ih =>
    unfold makeDirectories
    refine ends_ite.mpr ⟨fun _ => h, fun _ => ?_⟩
    refine ends_tryCatch.mpr ((ends_ensureDirectory hadd p h).imp (fun _ _ h => h) fun e d' h => ?_)
    split
    · refine ends_bind.mpr ((ih _ h).imp (fun _ d'' h => ?_) fun _ _ h => h)
      exact ends_ensureDirectory hadd p h
    · exact h

end Directories

/-- **A disk on which a file was made**: the file is empty, a path that leads
anywhere leads to it, and every other file is what it was. -/
structure Made (d d' : Disk) (p : Path) (i : ImageId) : Prop where
  stands : Stands d d'
  found : ∀ q, d'.canonical p = .ok q → d'.node? q = some (.file i)
  image : ∀ j, j ≠ i → d'.image j = d.image j
  image_self : d'.image i = Image.empty
  unshared : d.Unshared → d'.Unshared

theorem Extended.made {i : ImageId} (h : Extended d d') (h' : Made d' d'' p i) : Made d d'' p i where
  stands := fun q n hn => h'.stands q n (h.stands q n hn)
  found := h'.found
  image := fun j hj => (h'.image j hj).trans (h.image j)
  image_self := h'.image_self
  unshared := fun hd => h'.unshared (h.unshared hd)

theorem Made.of_target {i : ImageId} (htarget : d.target p = .ok (.entry place false))
    (hstands : Stands d d') (hnode : d'.node? place = some (.file i))
    (himage : ∀ j, j ≠ i → d'.image j = d.image j) (hself : d'.image i = Image.empty)
    (hunshared : d.Unshared → d'.Unshared) : Made d d' p i where
  stands := hstands
  found := fun q hq => by
    rw [canonical_of_target hstands htarget hq]
    exact hnode
  image := himage
  image_self := hself
  unshared := hunshared

/-- **A file is made at the entry that its path names.** -/
theorem ends_createFile_at (p : Path) :
    Ends (createFile p) d
      (fun _ d' => ∃ place i, d.target p = .ok (.entry place false) ∧
        (place.getLastD "").utf8ByteSize ≤ maxSegment ∧ Stands d d' ∧
        d'.node? place = some (.file i) ∧ (∀ j, j ≠ i → d'.image j = d.image j) ∧
        d'.image i = Image.empty ∧ (d.Unshared → d'.Unshared))
      (fun _ d' => d' = d) := by
  unfold createFile
  rw [ends_bind, ends_locate]
  refine ⟨fun t htarget => ?_, fun _ _ => rfl⟩
  cases t with
  | directory => exact rfl
  | entry place slashed =>
    refine ends_ite.mpr ⟨fun _ => rfl, fun hslashed => ?_⟩
    rw [Bool.not_eq_true] at hslashed
    subst hslashed
    refine ends_bind.mpr (ends_lookUp (fun hshort => ?_) fun _ => rfl)
    cases hnode : d.node? place with
    | none =>
      have hext := extended_addFile hnode
      refine ⟨place, d.images.size, htarget, hshort, hext.stands, ?_, fun j _ => hext.image j, ?_,
        hext.unshared⟩
      · rw [node?_cons rfl hnode, if_pos rfl]
      · show (d.images.push Image.empty).getD d.images.size Image.empty = Image.empty
        rw [Array.getD_eq_getD_getElem?, Array.getElem?_push_size]
        rfl
    | some n =>
      cases n with
      | directory => exact rfl
      | file i =>
        have himage := image_setImage Image.empty (lt_of_node? hnode)
        exact ⟨place, i, htarget, hshort, fun _ _ h => h, hnode,
          fun j hj => (himage j).trans (if_neg hj), (himage i).trans (if_pos rfl), fun h => h⟩

theorem ends_createFile (p : Path) :
    Ends (createFile p) d (fun _ d' => ∃ i, Made d d' p i) (fun _ d' => d' = d) := by
  refine (ends_createFile_at p).imp ?_ fun _ _ h => h
  rintro _ d' ⟨place, i, htarget, -, hstands, hnode, himage, hself, hunshared⟩
  exact ⟨i, .of_target htarget hstands hnode himage hself hunshared⟩

end Making

/-! ## Removing entries -/

theorem node?_removeEntry {q : Place} (hq : q ≠ place) :
    (d.removeEntry place).node? q = d.node? q := by
  unfold node? removeEntry
  rw [lookup_filter_ne, if_neg hq]

/-- No path leads through a file. -/
theorem eq_of_walkShort_of_file {i : ImageId} (hfile : d.node? place = some (.file i))
    {segments : List String} {found : Place} (h : d.walkShort place segments = .ok found) :
    found = place := by
  cases segments with
  | nil => exact (Except.ok.inj h).symm
  | cons segment rest =>
    have hstep : d.step place segment = .error .notADirectory := by
      unfold step
      rw [hfile]
    obtain ⟨next, hnext, -⟩ := walkShort_cons_eq_ok_iff.mp h
    cases hstep.symm.trans hnext

/-- **Where a path leads does not depend on a file that is somewhere else.** -/
theorem canonical_removeEntry {i : ImageId} (hfile : d.node? place = some (.file i)) {found : Place}
    (hfound : d.canonical p = .ok found) (hne : found ≠ place) :
    (d.removeEntry place).canonical p = .ok found := by
  have hkept : ∀ {start segments}, d.walkShort start segments = .ok found → ∀ n,
      d.node? start = some n → (d.removeEntry place).node? start = some n := by
    intro start segments hwalk n hn
    rw [node?_removeEntry, hn]
    rintro rfl
    exact hne (eq_of_walkShort_of_file hfile hwalk)
  have hwalk : ∀ {segments start}, d.walkShort start segments = .ok found →
      (d.removeEntry place).walkShort start segments = .ok found := by
    intro segments
    induction segments with
    | nil => exact fun hwalk => hwalk
    | cons segment rest ih =>
      intro start hwalk
      obtain ⟨next, hstep, hshort, hrest⟩ := walkShort_cons_eq_ok_iff.mp hwalk
      exact walkShort_cons_eq_ok_iff.mpr
        ⟨next, step_of_nodes (hkept hwalk) (fun _ => hkept hrest) hstep, hshort, ih hrest⟩
  rw [canonical_eq_ok_iff] at hfound ⊢
  exact hfound.imp_right hwalk

/-- **Only a file is removed**, and nothing else with it. -/
theorem ends_removeFile (p : Path) :
    Ends (removeFile p) d
      (fun _ d' => ∃ place i, d.target p = .ok (.entry place false) ∧
        d.node? place = some (.file i) ∧ d' = d.removeEntry place) (fun _ d' => d' = d) := by
  unfold removeFile
  rw [ends_bind, ends_locate]
  refine ⟨fun t htarget => ?_, fun _ _ => rfl⟩
  cases t with
  | directory => exact rfl
  | entry place slashed =>
    refine ends_bind.mpr (ends_lookUp (fun _ => ?_) fun _ => rfl)
    cases hnode : d.node? place with
    | none => exact rfl
    | some n =>
      cases n with
      | directory => exact rfl
      | file i =>
        refine ends_ite.mpr ⟨fun _ => rfl, fun hslashed => ?_⟩
        rw [Bool.not_eq_true] at hslashed
        subst hslashed
        exact ⟨place, i, htarget, hnode, rfl⟩

end Disk

/-- What is done to the disk leaves the table of open files alone. -/
theorem Files.ends_onDisk {α : Type} {fs : Files} {x : DiskM α} {good : α → Files → Prop}
    {bad : Fault FileError → Files → Prop} :
    Ends (onDisk x) fs good bad ↔
      Ends x fs.disk (fun a disk => good a { fs with disk })
        (fun e disk => bad (.error (.io e)) { fs with disk }) := by
  unfold Ends onDisk
  cases x fs.disk <;> rfl

/-- **A file is made on the disk** and no file is opened or closed. If it cannot be made,
directories may have been. -/
theorem Files.ends_createFile (fs : Files) (path : Path) :
    Ends (createFile path) fs
      (fun _ fs' => fs'.table = fs.table ∧ ∃ i, fs.disk.Made fs'.disk path i)
      (fun _ fs' => fs'.table = fs.table ∧ fs.disk.Extended fs'.disk) := by
  have hdisk : ∀ {fs : Files} {x : DiskM Unit} {good bad : Disk → Prop},
      Ends x fs.disk (fun _ d' => good d') (fun _ d' => bad d') →
      Ends (onDisk x) fs (fun _ fs' => fs'.table = fs.table ∧ good fs'.disk)
        (fun _ fs' => fs'.table = fs.table ∧ bad fs'.disk) := by
    intro fs x good bad hx
    rw [ends_onDisk]
    exact hx.imp (fun _ _ h => ⟨rfl, h⟩) fun _ _ h => ⟨rfl, h⟩
  unfold createFile
  rw [ends_bind, ends_get]
  refine ends_ite.mpr ⟨fun _ => ⟨rfl, .refl _⟩, fun _ => ?_⟩
  have hmake : ∀ fs' : Files, fs'.table = fs.table → fs.disk.Extended fs'.disk →
      Ends (onDisk (Disk.createFile path)) fs'
        (fun _ fs'' => fs''.table = fs.table ∧ ∃ i, fs.disk.Made fs''.disk path i)
        (fun _ fs'' => fs''.table = fs.table ∧ fs.disk.Extended fs''.disk) := by
    intro fs' htable hext
    refine (hdisk (Disk.ends_createFile path)).imp ?_ ?_
    · rintro _ fs'' ⟨htable', i, hmade⟩
      exact ⟨htable'.trans htable, i, hext.made hmade⟩
    · rintro _ fs'' ⟨htable', hsame⟩
      exact ⟨htable'.trans htable, hsame ▸ hext⟩
  split
  · rename_i up hup
    refine Ends.bind (hdisk (Disk.ends_makeDirectories (P := fs.disk.Extended)
      (fun hnone hext => hext.trans (Disk.extended_addDirectory hnone)) _ up (.refl _))) ?_
    rintro _ fs' ⟨htable, hext⟩
    exact hmake fs' htable hext
  · exact hmake fs rfl (.refl _)

end SlottedFile
