import Mathlib.Logic.Function.Basic
import SlottedFile.PagedFiles

/-!
# The two maps of the open files

A table of open files keeps two maps: which file a handle stands for, and which handle a place
has. They are separate data. A file is entered in the one and then in the other, and it is taken
out of the one by its handle and out of the other by the place that was entered with it. Nothing
in a table ties the two together, and a table in which they contradict each other is a table all
the same: `openFile` would give out a handle that is not open, and `removeFile` would refuse to
remove the file.

That no such table comes about is what `HandleMaps.Inverse` says. What the calls do to the maps
is one of three things: nothing, an entry in both, or an entry taken out of both
(`HandleMaps.Changed`), and that is all that is needed for the maps to stay inverse to each
other, whether a file is opened, closed, or removed, and whether the call succeeds.
-/

namespace SlottedFile

/-- The entries under other keys are found as before, and those under one key are gone. -/
theorem lookup_filter_ne {α β : Type} [BEq α] [LawfulBEq α] [DecidableEq α] (l : List (α × β))
    (a b : α) :
    (l.filter (·.1 ≠ b)).lookup a = if a = b then none else l.lookup a := by
  induction l with
  | nil => exact (ite_self _).symm
  | cons entry l ih =>
    by_cases hentry : entry.1 = b
    · rw [List.filter_cons_of_neg (by simpa using hentry), ih, List.lookup_cons]
      refine ite_congr rfl (fun _ => rfl) fun ha => ?_
      rw [beq_eq_false_iff_ne.mpr (hentry ▸ ha)]
    · rw [List.filter_cons_of_pos (by simpa using hentry), List.lookup_cons, List.lookup_cons, ih]
      by_cases ha : a = entry.1
      · subst ha
        rw [beq_self_eq_true]
        exact (if_neg hentry).symm
      · rw [beq_eq_false_iff_ne.mpr ha]

/-! ## Two maps -/

/-- **The two maps of a table**: what a handle stands for, and which handle a place has. -/
@[ext] structure HandleMaps where
  openFiles : Nat → Option OpenFile
  pathToHandle : Place → Option Nat

namespace HandleMaps

variable {m m' : HandleMaps}

/-- The maps with a file entered in both. -/
def inserted (m : HandleMaps) (o : OpenFile) : HandleMaps where
  openFiles := Function.update m.openFiles o.handle (some o)
  pathToHandle := Function.update m.pathToHandle o.place (some o.handle)

/-- The maps with a file taken out of both. -/
def removed (m : HandleMaps) (o : OpenFile) : HandleMaps where
  openFiles := Function.update m.openFiles o.handle none
  pathToHandle := Function.update m.pathToHandle o.place none

/-- **What may become of the maps**: a file is entered whose handle and place are new, or one
that is there is taken out. -/
inductive Changed (m : HandleMaps) : HandleMaps → Prop
  | same : Changed m m
  | inserted (o : OpenFile) (hhandle : m.openFiles o.handle = none)
      (hplace : m.pathToHandle o.place = none) : Changed m (m.inserted o)
  | removed (o : OpenFile) (ho : m.openFiles o.handle = some o) : Changed m (m.removed o)

/-- **Maps that are inverse to each other.** -/
structure Inverse (m : HandleMaps) : Prop where
  handle_eq : ∀ {h o}, m.openFiles h = some o → o.handle = h
  place_iff : ∀ place h, m.pathToHandle place = some h ↔
    ∃ o, m.openFiles h = some o ∧ o.place = place

namespace Inverse

theorem of_open (hm : m.Inverse) {h : Nat} {o : OpenFile} (ho : m.openFiles h = some o) :
    m.pathToHandle o.place = some h :=
  (hm.place_iff o.place h).mpr ⟨o, ho, rfl⟩

/-- No two handles have one place. -/
theorem handle_unique (hm : m.Inverse) {h h' : Nat} {o o' : OpenFile}
    (ho : m.openFiles h = some o) (ho' : m.openFiles h' = some o') (hplace : o.place = o'.place) :
    h = h' := by
  have hsame := hm.of_open ho
  rw [hplace, hm.of_open ho'] at hsame
  exact (Option.some.inj hsame).symm

theorem inserted (hm : m.Inverse) {o : OpenFile} (hhandle : m.openFiles o.handle = none)
    (hplace : m.pathToHandle o.place = none) : (m.inserted o).Inverse where
  handle_eq := by
    intro h o' ho'
    replace ho' : Function.update m.openFiles o.handle (some o) h = some o' := ho'
    rw [Function.update_apply] at ho'
    split at ho'
    · rename_i heq
      cases ho'
      exact heq.symm
    · exact hm.handle_eq ho'
  place_iff := by
    intro place h
    show Function.update m.pathToHandle o.place (some o.handle) place = some h ↔
      ∃ o', Function.update m.openFiles o.handle (some o) h = some o' ∧ o'.place = place
    rw [Function.update_apply, Function.update_apply]
    by_cases hp : place = o.place <;> by_cases hh : h = o.handle
    · rw [if_pos hp, if_pos hh]
      exact iff_of_true (congrArg some hh.symm) ⟨o, rfl, hp.symm⟩
    · -- another file at this place would have a handle for it
      rw [if_pos hp, if_neg hh, ← hm.place_iff, hp, hplace]
      exact iff_of_false (fun heq => hh (Option.some.inj heq).symm) nofun
    · rw [if_neg hp, if_pos hh, hm.place_iff, hh, hhandle]
      refine iff_of_false (fun ⟨_, hnone, _⟩ => nomatch hnone) ?_
      rintro ⟨_, hsome, heq⟩
      cases hsome
      exact hp heq.symm
    · rw [if_neg hp, if_neg hh, hm.place_iff]

theorem removed (hm : m.Inverse) {o : OpenFile} (ho : m.openFiles o.handle = some o) :
    (m.removed o).Inverse where
  handle_eq := by
    intro h o' ho'
    replace ho' : Function.update m.openFiles o.handle none h = some o' := ho'
    rw [Function.update_apply] at ho'
    split at ho'
    · cases ho'
    · exact hm.handle_eq ho'
  place_iff := by
    intro place h
    show Function.update m.pathToHandle o.place none place = some h ↔
      ∃ o', Function.update m.openFiles o.handle none h = some o' ∧ o'.place = place
    rw [Function.update_apply, Function.update_apply]
    by_cases hp : place = o.place <;> by_cases hh : h = o.handle
    · rw [if_pos hp, if_pos hh]
      exact iff_of_false nofun fun ⟨_, hnone, _⟩ => nomatch hnone
    · rw [if_pos hp, if_neg hh, ← hm.place_iff, hp, hm.of_open ho]
      exact iff_of_false nofun fun heq => hh (Option.some.inj heq).symm
    · rw [if_neg hp, if_pos hh, hm.place_iff, hh, ho]
      refine iff_of_false ?_ fun ⟨_, hnone, _⟩ => nomatch hnone
      rintro ⟨_, hsome, heq⟩
      cases hsome
      exact hp heq.symm
    · rw [if_neg hp, if_neg hh, hm.place_iff]

end Inverse

end HandleMaps

/-! ## Tables -/

namespace FileTable

variable {t : FileTable}

/-- **The maps of a table**, each read for itself. -/
def maps (t : FileTable) : HandleMaps where
  openFiles := t.byHandle?
  pathToHandle := t.handleAt?

/-- A table in which nothing is open. -/
theorem inverse_empty (limit : Nat) : ({ limit } : FileTable).maps.Inverse :=
  ⟨nofun, fun _ _ => iff_of_false nofun nofun⟩

theorem mem_of_byHandle? {h : Nat} {o : OpenFile} (ho : t.byHandle? h = some o) :
    o ∈ t.opened ∧ o.handle = h :=
  ⟨List.mem_of_find?_eq_some ho, by simpa using List.find?_some ho⟩

/-- The table with another open file, entered in both maps. -/
def add (t : FileTable) (place : Place) (i : ImageId) : FileTable :=
  { t with
    opened := ⟨t.next, place, i⟩ :: t.opened
    places := (place, t.next) :: t.places
    next := t.next + 1 }

theorem byHandle?_add {place : Place} {i : ImageId} {h : Nat} :
    (t.add place i).byHandle? h = if h = t.next then some ⟨t.next, place, i⟩
      else t.byHandle? h := by
  unfold add byHandle?
  rw [List.find?_cons]
  by_cases hh : h = t.next
  · subst hh
    rw [beq_self_eq_true, if_pos rfl]
  · rw [beq_eq_false_iff_ne.mpr (Ne.symm hh), if_neg hh]

theorem handleAt?_add {place p : Place} {i : ImageId} :
    (t.add place i).handleAt? p = if p = place then some t.next else t.handleAt? p := by
  unfold add handleAt?
  rw [List.lookup_cons]
  by_cases hp : p = place
  · subst hp
    rw [beq_self_eq_true, if_pos rfl]
  · rw [beq_eq_false_iff_ne.mpr hp, if_neg hp]

/-- The table without the file with a handle. From the second map the place is
taken that the first map has for the handle. -/
def erase (t : FileTable) (handle : Nat) : FileTable :=
  { t with
    opened := t.opened.filter (·.handle != handle)
    places := (t.byHandle? handle).elim t.places fun o => t.places.filter (·.1 ≠ o.place) }

theorem mem_opened_erase {h : Nat} {o : OpenFile} :
    o ∈ (t.erase h).opened ↔ o ∈ t.opened ∧ o.handle ≠ h := by
  unfold erase
  rw [List.mem_filter, bne_iff_ne]

/-- Closing a file leaves the others open, -/
theorem byHandle?_erase {h j : Nat} :
    (t.erase h).byHandle? j = if j = h then none else t.byHandle? j := by
  unfold erase byHandle?
  rw [List.find?_filter]
  split
  · subst j
    refine List.find?_eq_none.mpr (fun o _ => ?_)
    simp
  · rename_i hj
    congr 1
    funext o
    by_cases hoj : o.handle = j
    · simp [hoj, hj]
    · simp [hoj]

/-- and they keep their places. -/
theorem handleAt?_erase {h : Nat} {o : OpenFile} (ho : t.byHandle? h = some o) {p : Place} :
    (t.erase h).handleAt? p = if p = o.place then none else t.handleAt? p := by
  unfold erase handleAt?
  rw [ho]
  exact lookup_filter_ne t.places p o.place

/-- To close what is not open changes nothing. -/
theorem erase_of_closed {h : Nat} (hclosed : t.byHandle? h = none) : t.erase h = t := by
  have hopened : t.opened.filter (·.handle != h) = t.opened :=
    List.filter_eq_self.mpr fun o ho => by simpa using List.find?_eq_none.mp hclosed o ho
  unfold erase
  rw [hclosed, hopened]
  rfl

/-- **To enter a file in the table is to enter it in both maps.** -/
theorem maps_add (place : Place) (i : ImageId) :
    (t.add place i).maps = t.maps.inserted ⟨t.next, place, i⟩ := by
  ext1
  · funext h
    exact byHandle?_add.trans (Function.update_apply _ _ _ _).symm
  · funext p
    exact (handleAt?_add (i := i)).trans (Function.update_apply _ _ _ _).symm

/-- **To take a file out of the table is to take it out of both maps.** -/
theorem maps_erase {h : Nat} {o : OpenFile} (ho : t.byHandle? h = some o) :
    (t.erase h).maps = t.maps.removed o := by
  obtain rfl := (mem_of_byHandle? ho).2
  ext1
  · funext h
    exact byHandle?_erase.trans (Function.update_apply _ _ _ _).symm
  · funext p
    exact (handleAt?_erase ho).trans (Function.update_apply _ _ _ _).symm

/-- The table after the file at a place was closed, if one is open there. -/
def without (t : FileTable) (place : Place) : FileTable :=
  (t.handleAt? place).elim t t.erase

@[simp] theorem next_without (place : Place) : (t.without place).next = t.next := by
  unfold without
  cases t.handleAt? place <;> rfl

end FileTable

end SlottedFile
