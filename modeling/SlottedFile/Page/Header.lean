import SlottedFile.Buffer
import SlottedFile.Bytes

/-!
# The header of a page

The first eight bytes of a page hold the number of its records and its link in
the free list.
-/

namespace SlottedFile

/-- **What a page says about itself.** -/
structure PageHeader where
  /-- How many slots the page counts as occupied. -/
  records : Nat
  /-- The next page on the free list. -/
  next : Option Nat
  deriving DecidableEq, Repr

namespace PageHeader

/-- The number of bytes a page header takes. -/
def size : Nat := 8

/-- The bytes of a page header. -/
def encode (h : PageHeader) : List UInt8 := toLE 4 h.records ++ linkBytes h.next

/-- The page header that eight bytes hold. -/
def ofBytes (bytes : List UInt8) : PageHeader where
  records := ofLE (bytes.take 4)
  next := linkOfWord (ofLE (bytes.drop 4))

/-- The page header at the start of a buffer. -/
def decode {n : Nat} (b : Buffer n) : Except Overrun PageHeader := (b.slice 0 size).map ofBytes

@[simp] theorem length_encode (h : PageHeader) : h.encode.length = size := by
  simp [encode, size]

/-- **A page header reads back** as long as its numbers fit. -/
theorem ofBytes_encode {h : PageHeader} (hr : h.records < widthLimit 4)
    (hn : ∀ p ∈ h.next, p < noPage) : ofBytes h.encode = h := by
  have htake : h.encode.take 4 = toLE 4 h.records := List.take_left' (length_toLE _ _)
  have hdrop : h.encode.drop 4 = linkBytes h.next := List.drop_left' (length_toLE _ _)
  have hmod : h.records % widthLimit 4 = h.records := Nat.mod_eq_of_lt hr
  simp only [ofBytes, htake, hdrop, ofLE_toLE, hmod, linkOfWord_ofLE_linkBytes hn]

end PageHeader

end SlottedFile
