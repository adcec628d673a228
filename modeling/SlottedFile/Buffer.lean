import SlottedFile.Fault

/-!
# Buffers of a fixed width

A `Buffer n` holds exactly `n` bytes. Everything above it reads ranges of bytes
with `slice` and replaces ranges with `write`; both refuse a range that does
not lie inside the buffer. The one law of a write is `getElem_write`: inside the
range stands the new byte, outside it the old one.
-/

namespace SlottedFile

/-- A buffer of exactly `n` bytes. -/
abbrev Buffer (n : Nat) := Vector UInt8 n

/-- The number of bytes in a block of a file, and so in a page. -/
def blockSize : Nat := 8192

/-- One block of a file. -/
abbrev Block := Buffer blockSize

namespace Buffer

/-- The buffer of zeros. -/
def zero (n : Nat) : Buffer n := Vector.replicate n 0

/-- The `len` bytes that start at `off`. -/
def slice {n : Nat} (b : Buffer n) (off len : Nat) : Except Overrun (List UInt8) :=
  if h : off + len ≤ n then
    .ok (List.ofFn fun i : Fin len => b.get ⟨off + i.val, by omega⟩)
  else
    .error .range

/-- Write bytes from `off` on, which are known to fit. -/
def put {n : Nat} (b : Buffer n) (off : Nat) :
    (bytes : List UInt8) → off + bytes.length ≤ n → Buffer n
  | [], _ => b
  | x :: bytes, h =>
    put (b.set off x (by simp only [List.length_cons] at h; omega)) (off + 1) bytes
      (by simp only [List.length_cons] at h; omega)

/-- Replace the bytes from `off` on. -/
def write {n : Nat} (b : Buffer n) (off : Nat) (bytes : List UInt8) : Except Overrun (Buffer n) :=
  if h : off + bytes.length ≤ n then .ok (b.put off bytes h) else .error .range

/-- The buffer that holds a byte string, cut off or filled up with zeros. -/
def ofList (n : Nat) (bytes : List UInt8) : Buffer n :=
  (zero n).put 0 (bytes.take n) (by simp only [List.length_take]; omega)

theorem getElem_put {n : Nat} (b : Buffer n) (off : Nat) (bytes : List UInt8)
    (h : off + bytes.length ≤ n) (i : Nat) (hi : i < n) :
    (b.put off bytes h)[i] =
      if off ≤ i ∧ i < off + bytes.length then bytes.getD (i - off) 0 else b[i] := by
  induction bytes generalizing b off with
  | nil => rw [put, if_neg (by simp only [List.length_nil]; omega)]
  | cons x bytes ih =>
    simp only [List.length_cons] at h ⊢
    rw [put, ih]
    by_cases hx : i = off
    · subst hx
      rw [if_neg (by omega), if_pos (by omega), Vector.getElem_set_self]
      simp
    · by_cases hr : off + 1 ≤ i ∧ i < off + 1 + bytes.length
      · rw [if_pos hr, if_pos (by omega)]
        have hsub : i - off = (i - (off + 1)) + 1 := by omega
        simp [hsub]
      · rw [if_neg hr, if_neg (by omega), Vector.getElem_set_ne _ _ (by omega)]

/-- **The law of a write**: the new bytes inside the range, the old ones outside
it. -/
theorem getElem_write {n : Nat} {b b' : Buffer n} {off : Nat} {bytes : List UInt8}
    (h : b.write off bytes = .ok b') (i : Nat) (hi : i < n) :
    b'[i] = if off ≤ i ∧ i < off + bytes.length then bytes.getD (i - off) 0 else b[i] := by
  unfold write at h
  split at h
  · cases h
    exact getElem_put b off bytes _ i hi
  · cases h

theorem slice_eq_ok_iff {n : Nat} {b : Buffer n} {off len : Nat} :
    (∃ bytes, b.slice off len = .ok bytes) ↔ off + len ≤ n := by
  unfold slice
  split <;> simp_all

theorem length_slice {n : Nat} {b : Buffer n} {off len : Nat} {bytes : List UInt8}
    (h : b.slice off len = .ok bytes) : bytes.length = len := by
  unfold slice at h
  split at h
  · cases h
    simp
  · cases h

/-! ## Editing in place -/

/-- A computation that edits a buffer. What it wrote before an overrun stays
written. -/
abbrev Edit (n : Nat) := EStateM Overrun (Buffer n)

namespace Edit

/-- Look at the buffer being edited. -/
def view {n : Nat} {α : Type} (f : Buffer n → Except Overrun α) : Edit n α := fun b =>
  match f b with
  | .ok a => .ok a b
  | .error o => .error o b

/-- Replace the bytes from `off` on. -/
def write {n : Nat} (off : Nat) (bytes : List UInt8) : Edit n Unit := fun b =>
  match b.write off bytes with
  | .ok b' => .ok () b'
  | .error o => .error o b

/-- Replace exactly the `len` bytes from `off` on. -/
def replace {n : Nat} (off len : Nat) (bytes : List UInt8) : Edit n Unit := do
  let old ← view (·.slice off len)
  if bytes.length = old.length then write off bytes else throw .length

end Edit

end Buffer

end SlottedFile
