import Mathlib.Logic.Function.Basic
import SlottedFile.RecordFile.Basic

/-!
# A desk with record files

Several record files may be open in one store at a time. Whoever works on them has the
store and, for each handle that is in use, the header of its file (`Desk`).
-/

namespace SlottedFile

/-- **A store and the record files that are open in it**, with the header that each has
by its handle. -/
structure Desk where
  store : Store
  header? : Nat → Option FileHeader

namespace Desk

/-- Nothing is open. -/
def empty (store : Store) : Desk where
  store := store
  header? := fun _ => none

/-- The desk that a session leaves. -/
def put (d : Desk) (s : Session) : Desk where
  store := s.store
  header? := Function.update d.header? s.file.handle (some s.file.header)

/-- The desk without a file. -/
def clear (d : Desk) (store : Store) (handle : Nat) : Desk where
  store := store
  header? := Function.update d.header? handle none

/-- The desk with the files that are still open in a store. -/
def keep (d : Desk) (store : Store) : Desk where
  store := store
  header? := fun handle =>
    if (store.files.table.byHandle? handle).isSome then d.header? handle else none

variable (d : Desk)

theorem header?_put (s : Session) (handle : Nat) :
    (d.put s).header? handle =
      if handle = s.file.handle then some s.file.header else d.header? handle :=
  Function.update_apply _ _ _ _

theorem header?_clear (store : Store) (handle h : Nat) :
    (d.clear store handle).header? h = if h = handle then none else d.header? h :=
  Function.update_apply _ _ _ _

variable {d}

/-- What is still at the desk was there before. -/
theorem of_clear {store : Store} {handle h : Nat} {header : FileHeader}
    (hheader : (d.clear store handle).header? h = some header) :
    h ≠ handle ∧ d.header? h = some header := by
  rw [header?_clear] at hheader
  split at hheader
  · cases hheader
  · exact ⟨‹_›, hheader⟩

/-- What is kept at the desk is open, and was there before. -/
theorem of_keep {store : Store} {h : Nat} {header : FileHeader}
    (hheader : (d.keep store).header? h = some header) :
    (store.files.table.byHandle? h).isSome ∧ d.header? h = some header := by
  unfold keep at hheader
  dsimp only at hheader
  split at hheader
  · exact ⟨‹_›, hheader⟩
  · cases hheader

end Desk

end SlottedFile
