import SlottedFile.Proofs.Pool.Operations

/-!
# Files that are opened and closed behind a pool

A handle that is opened or closed leaves every page as it is: what is buffered
of a file stays buffered when its handle is closed, and no page of a handle is
buffered before it is opened. The second is why a handle may be told to stand
for another image as long as none of its pages is buffered (`Coherent.rename`),
and why a file may be cut under a handle that was only just opened
(`Coherent.resize`).
-/

namespace SlottedFile

/-! ## The table of open files -/

namespace FileTable

/-- A file that is opened and closed at once leaves the others open. -/
theorem opened_erase_add {t : FileTable} (ht : ∀ o ∈ t.opened, o.handle < t.next) (place : Place)
    (i : ImageId) : ((t.add place i).erase t.next).opened = t.opened := by
  show (⟨t.next, place, i⟩ :: t.opened).filter (·.handle != t.next) = t.opened
  rw [List.filter_cons_of_neg (by simp), List.filter_eq_self]
  exact fun o ho => bne_iff_ne.mpr (Nat.ne_of_lt (ht o ho))

/-- **Nothing is left of it** but that its handle was used. -/
theorem erase_add {t : FileTable} (ht : ∀ o ∈ t.opened, o.handle < t.next) {place : Place}
    (hclosed : t.handleAt? place = none) (i : ImageId) :
    (t.add place i).erase t.next = { t with next := t.next + 1 } := by
  have hplaces : ((place, t.next) :: t.places).filter (·.1 ≠ place) = t.places := by
    rw [List.filter_cons_of_neg (by simp), List.filter_eq_self]
    intro entry hentry
    have hother := List.lookup_eq_none_iff.mp hclosed entry hentry
    exact decide_eq_true (Ne.symm (bne_iff_ne.mp hother))
  have hnew : (t.add place i).byHandle? t.next = some ⟨t.next, place, i⟩ :=
    byHandle?_add.trans (if_pos rfl)
  have hplaces : ((t.add place i).erase t.next).places = t.places := by
    unfold erase
    rw [hnew]
    exact hplaces
  exact congrArg₂ (FileTable.mk · · (t.next + 1) t.limit) (opened_erase_add ht place i) hplaces

/-- **No more files are open than may be.** -/
def Within (t : FileTable) : Prop := t.opened.length ≤ t.limit

theorem Within.erase {t : FileTable} (ht : t.Within) (h : Nat) : (t.erase h).Within :=
  Nat.le_trans (List.length_filter_le _ _) ht

theorem Within.without {t : FileTable} (ht : t.Within) (place : Place) :
    (t.without place).Within := by
  unfold FileTable.without
  cases t.handleAt? place with
  | none => exact ht
  | some h => exact ht.erase h

/-- A file that is closed leaves room for another. -/
theorem Within.erase_lt {t : FileTable} (ht : t.Within) {h : Nat} {o : OpenFile}
    (ho : t.byHandle? h = some o) : (t.erase h).opened.length < (t.erase h).limit := by
  obtain ⟨hmem, rfl⟩ := mem_of_byHandle? ho
  refine Nat.lt_of_lt_of_le ?_ ht
  exact List.length_filter_lt_length_iff_exists.mpr ⟨o, hmem, by simp⟩

end FileTable

namespace Files

variable {fs : Files}

theorem Sound.erase (hs : fs.Sound) (h : Nat) : Sound { fs with table := fs.table.erase h } :=
  ⟨hs.toSound.erase h, fun o ho => hs.placed o (FileTable.mem_opened_erase.mp ho).1⟩

/-- A file that is not open may be opened. -/
theorem Sound.add (hs : fs.Sound) {place : Place} {i : ImageId}
    (hclosed : fs.table.handleAt? place = none) (hnode : fs.disk.node? place = some (.file i)) :
    Sound { fs with table := fs.table.add place i } := by
  refine ⟨hs.toSound.add hclosed i, fun o ho => ?_⟩
  rcases List.mem_cons.mp ho with rfl | ho
  · exact hnode
  · exact hs.placed o ho

theorem ends_closeFile {h : Nat} {good : Unit → Files → Prop}
    {bad : Fault FileError → Files → Prop} :
    Ends (closeFile h) fs good bad ↔
      ((fs.table.byHandle? h).isSome → good () { fs with table := fs.table.erase h }) ∧
        (fs.table.byHandle? h = none → bad (.error (.invalidHandle h)) fs) := by
  have herase : ∀ {o : OpenFile}, fs.table.byHandle? h = some o →
      fs.table.erase h = { fs.table with
        opened := fs.table.opened.filter (·.handle != h)
        places := fs.table.places.filter (·.1 ≠ o.place) } := by
    intro o ho
    unfold FileTable.erase
    rw [ho]
    rfl
  unfold closeFile
  rw [ends_bind, ends_opened]
  refine and_congr_left' ⟨fun hok hsome => ?_, fun hok o ho => ?_⟩
  · obtain ⟨o, ho⟩ := Option.isSome_iff_exists.mp hsome
    rw [herase ho]
    exact hok o ho
  · rw [ends_bind, ends_modify, ends_modify]
    have hgood := hok (Option.isSome_iff_exists.mpr ⟨o, ho⟩)
    rw [herase ho] at hgood
    exact hgood

/-- **A file is open at most once**: the handle of a file that is open already is
given out again, and any other file gets the next handle, if there is a handle
left. -/
theorem ends_openFile (fs : Files) (path : Path) :
    Ends (openFile path) fs
      (fun h fs' => ∃ place, fs.disk.canonical path = .ok place ∧
        ((fs.table.handleAt? place = some h ∧ fs' = fs) ∨
          ∃ i, fs.table.handleAt? place = none ∧ fs.disk.node? place = some (.file i) ∧
            fs.table.opened.length < fs.table.limit ∧
            h = fs.table.next ∧ fs' = { fs with table := fs.table.add place i }))
      (fun e fs' => fs' = fs ∧ (∃ fe, e = .error fe) ∧
        ∀ place, fs.disk.canonical path = .ok place → fs.table.handleAt? place = none ∧
          ∀ i, fs.disk.node? place = some (.file i) →
            fs.table.limit ≤ fs.table.opened.length) := by
  unfold openFile
  rw [ends_bind, ends_get]
  cases hplace : fs.disk.canonical path with
  | error e => exact ⟨rfl, ⟨_, rfl⟩, nofun⟩
  | ok place =>
    rw [ends_bind, ends_get]
    dsimp only
    cases hopen : fs.table.handleAt? place with
    | some h => exact ⟨place, rfl, .inl ⟨hopen, rfl⟩⟩
    | none =>
      refine ends_ite.mpr ⟨fun hlimit => ⟨rfl, ⟨_, rfl⟩, ?_⟩, fun hlimit => ?_⟩
      · rintro _ ⟨⟩
        exact ⟨hopen, fun _ _ => hlimit⟩
      rw [ends_bind, ends_get]
      cases hnode : fs.disk.node? place with
      | none =>
        refine ⟨rfl, ⟨_, rfl⟩, ?_⟩
        rintro _ ⟨⟩
        exact ⟨hopen, fun i hi => absurd (hnode.symm.trans hi) nofun⟩
      | some node =>
        cases node with
        | directory =>
          refine ⟨rfl, ⟨_, rfl⟩, ?_⟩
          rintro _ ⟨⟩
          exact ⟨hopen, fun i hi => absurd (hnode.symm.trans hi) nofun⟩
        | file i => exact ⟨place, rfl, .inr ⟨i, hopen, hnode, Nat.not_le.1 hlimit, rfl, rfl⟩⟩

end Files

namespace Store

/-- The store with another table of open files. -/
def withTable (s : Store) (t : FileTable) : Store := { s with files := { s.files with table := t } }

theorem ends_closeFile {s : Store} {h : Nat} {good : Unit → Store → Prop}
    {bad : Fault FileError → Store → Prop} :
    Ends (onFiles (Files.closeFile h)) s good bad ↔
      ((s.files.table.byHandle? h).isSome → good () (s.withTable (s.files.table.erase h))) ∧
        (s.files.table.byHandle? h = none → bad (.error (.invalidHandle h)) s) := by
  rw [ends_onFiles, Files.ends_closeFile]
  rfl

theorem ends_openFile (s : Store) (path : Path) :
    Ends (onFiles (Files.openFile path)) s
      (fun h s' => ∃ place, s.files.disk.canonical path = .ok place ∧
        ((s.files.table.handleAt? place = some h ∧ s' = s) ∨
          ∃ i, s.files.table.handleAt? place = none ∧
            s.files.disk.node? place = some (.file i) ∧
            s.files.table.opened.length < s.files.table.limit ∧ h = s.files.table.next ∧
            s' = s.withTable (s.files.table.add place i)))
      (fun e s' => s' = s ∧ (∃ fe, e = .error fe) ∧
        ∀ place, s.files.disk.canonical path = .ok place →
          s.files.table.handleAt? place = none ∧ ∀ i, s.files.disk.node? place = some (.file i) →
            s.files.table.limit ≤ s.files.table.opened.length) := by
  rw [ends_onFiles]
  refine (Files.ends_openFile s.files path).imp ?_ ?_
  · rintro h fs ⟨place, hplace, ⟨hopen, rfl⟩ | ⟨i, hclosed, hnode, hroom, hh, rfl⟩⟩
    · exact ⟨place, hplace, .inl ⟨hopen, rfl⟩⟩
    · exact ⟨place, hplace, .inr ⟨i, hclosed, hnode, hroom, hh, rfl⟩⟩
  · rintro e fs ⟨rfl, hcause⟩
    exact ⟨rfl, hcause⟩

end Store

namespace Coherent

variable {imageOf : Nat → ImageId} {holds : List Hold} {s : Store}

/-- A change of the table does not show in any page. -/
theorem retable (hs : Coherent imageOf holds s) {t : FileTable}
    (hfiles : Files.Sound { s.files with table := t })
    (hstands : ∀ o ∈ t.opened, o.image = imageOf o.handle) (hnext : s.files.table.next ≤ t.next) :
    Coherent imageOf holds (s.withTable t) :=
  hs.refile rfl rfl hfiles hstands hnext (fun _ => Nat.le_refl _) fun _ => .inl rfl

/-- **A handle may be closed at any time**, whatever is buffered of its file. -/
theorem closeFile (hs : Coherent imageOf holds s) (h : Nat) :
    Coherent imageOf holds (s.withTable (s.files.table.erase h)) :=
  hs.retable (hs.files.erase h) (fun o ho => hs.stands o (FileTable.mem_opened_erase.mp ho).1)
    (Nat.le_refl _)

/-- **A file may be opened** if its image is the one that its handle stands for. -/
theorem openFile (hs : Coherent imageOf holds s) {place : Place} {i : ImageId}
    (hclosed : s.files.table.handleAt? place = none)
    (hnode : s.files.disk.node? place = some (.file i)) (himage : i = imageOf s.files.table.next) :
    Coherent imageOf holds (s.withTable (s.files.table.add place i)) := by
  refine hs.retable (hs.files.add hclosed hnode) (fun o ho => ?_) (Nat.le_succ _)
  rcases List.mem_cons.mp ho with rfl | ho
  · exact himage
  · exact hs.stands o ho

/-- **A handle may be told to stand for another image** as long as none of its
pages is buffered and it is not open. -/
theorem rename (hs : Coherent imageOf holds s) {imageOf' : Nat → ImageId}
    (hinj : Function.Injective imageOf')
    (hopen : ∀ o ∈ s.files.table.opened, imageOf' o.handle = imageOf o.handle)
    (hbuffered : ∀ {k f}, s.pool.frame? k = some f → imageOf' k.file = imageOf k.file) :
    Coherent imageOf' holds s where
  injective := hinj
  files := hs.files
  stands := fun o ho => (hs.stands o ho).trans (hopen o ho).symm
  distinct := hs.distinct
  frame_lt := hs.frame_lt
  frame_inj := hs.frame_inj
  issued := hs.issued
  inside := fun h => by
    rw [hbuffered h]
    exact hs.inside h
  near := hs.near
  pins_eq := hs.pins_eq
  held := hs.held
  clean := fun h hdirty hwrote => by
    unfold Store.diskBlock
    rw [hbuffered h]
    exact hs.clean h hdirty hwrote

end Coherent

end SlottedFile
