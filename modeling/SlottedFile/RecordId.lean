/-!
# Where a record lives

A record is named by its page and its slot in that page. Records are ordered by
page first and slot second, which is the order a scan visits them in.
-/

namespace SlottedFile

/-- The place of a record: a page of the file and a slot in that page. -/
structure RecordId where
  page : Nat
  slot : Nat
  deriving DecidableEq, Repr

namespace RecordId

/-- Page first, slot second. -/
def compare (a b : RecordId) : Ordering :=
  (Ord.compare a.page b.page).then (Ord.compare a.slot b.slot)

instance : Ord RecordId := ⟨compare⟩

/-- Page first, slot second. -/
def lt (a b : RecordId) : Prop := a.page < b.page ∨ a.page = b.page ∧ a.slot < b.slot

instance : LT RecordId := ⟨lt⟩

instance (a b : RecordId) : Decidable (a < b) :=
  inferInstanceAs (Decidable (a.page < b.page ∨ a.page = b.page ∧ a.slot < b.slot))

/-- The records in scan order. -/
def sort (ids : List RecordId) : List RecordId := ids.mergeSort fun a b => (compare a b).isLE

/-- How a record id is written: `(page, slot)`. -/
def text (r : RecordId) : String := s!"({r.page}, {r.slot})"

end RecordId

end SlottedFile
