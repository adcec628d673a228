/-!
# Numbers as bytes

Every number on disk is four bytes, least significant first. `toLE` drops what
does not fit its width, so reading back gives the number modulo `256 ^ width`
(`ofLE_toLE`); in the other direction nothing is lost (`toLE_ofLE`).
-/

namespace SlottedFile

/-- The numbers that `width` bytes can hold stay below this limit. -/
def widthLimit : (width : Nat) → Nat
  | 0 => 1
  | width + 1 => 256 * widthLimit width

/-- The `width` bytes of a number, least significant first; higher bits are
dropped. -/
def toLE : (width : Nat) → Nat → List UInt8
  | 0, _ => []
  | width + 1, n => UInt8.ofNat n :: toLE width (n / 256)

/-- The number with the given bytes, least significant first. -/
def ofLE : List UInt8 → Nat
  | [] => 0
  | b :: bs => b.toNat + 256 * ofLE bs

@[simp] theorem length_toLE (width n : Nat) : (toLE width n).length = width := by
  induction width generalizing n with
  | zero => rfl
  | succ width ih => simp [toLE, ih]

theorem ofLE_toLE (width n : Nat) : ofLE (toLE width n) = n % widthLimit width := by
  induction width generalizing n with
  | zero => simp only [toLE, ofLE, widthLimit, Nat.mod_one]
  | succ width ih =>
    rw [toLE, ofLE, ih, widthLimit, Nat.mod_mul, UInt8.toNat_ofNat']

theorem ofLE_lt (bs : List UInt8) : ofLE bs < widthLimit bs.length := by
  induction bs with
  | nil => exact Nat.zero_lt_one
  | cons b bs ih =>
    have hb := b.toNat_lt
    rw [ofLE, List.length_cons, widthLimit]
    omega

theorem toLE_ofLE (bs : List UInt8) : toLE bs.length (ofLE bs) = bs := by
  induction bs with
  | nil => rfl
  | cons b bs ih =>
    have hb := b.toNat_lt
    rw [List.length_cons, toLE, ofLE]
    congr 1
    · apply UInt8.toNat.inj
      rw [UInt8.toNat_ofNat']
      omega
    · rw [Nat.add_mul_div_left _ _ (by decide), Nat.div_eq_of_lt hb, Nat.zero_add, ih]

/-! ## Page numbers that may be absent -/

/-- The word that stands for "no page" where a page number is stored. -/
def noPage : Nat := 0xFFFFFFFF

/-- How an optional page number is stored. -/
def linkBytes (link : Option Nat) : List UInt8 := toLE 4 (link.getD noPage)

/-- The optional page number stored as `n`. -/
def linkOfWord (n : Nat) : Option Nat := if n = noPage then none else some n

/-- A word that is read as a link is the word that is stored for it. -/
theorem getD_linkOfWord (n : Nat) : (linkOfWord n).getD noPage = n := by
  unfold linkOfWord
  split
  · rename_i heq
    rw [heq, Option.getD_none]
  · rw [Option.getD_some]

@[simp] theorem length_linkBytes (link : Option Nat) : (linkBytes link).length = 4 := by
  simp [linkBytes]

/-- **A link reads back** as long as it fits and is not the word kept for its
absence. -/
theorem linkOfWord_ofLE_linkBytes {link : Option Nat} (h : ∀ p ∈ link, p < noPage) :
    linkOfWord (ofLE (linkBytes link)) = link := by
  rw [linkBytes, ofLE_toLE]
  cases link with
  | none => rfl
  | some p =>
    have hp := h p rfl
    have hmod : p % widthLimit 4 = p := Nat.mod_eq_of_lt (Nat.lt_of_lt_of_le hp (by decide))
    simp only [Option.getD_some, hmod, linkOfWord]
    rw [if_neg (Nat.ne_of_lt hp)]

end SlottedFile
