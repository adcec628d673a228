import Mathlib.Data.List.Find
import SlottedFile.Bitmap

/-!
# Bitmaps as functions

A bitmap is read as a function from positions to bits (`Bitmap.bit`). Setting and
clearing a bit changes that function at one position, searching finds the lowest
position with a given bit, and counting counts the positions with a set one.

The search skips whole bytes, and the byte that stops it may have its bit behind the
positions that are asked about. What it finds is nevertheless the first position with the
bit, as one comes to it by reading the bits one at a time (`Bitmap.IsFirst`).
-/

namespace SlottedFile.Bitmap

/-- **The bit at a position**; past the last byte there are none that are
set. -/
def bit (bits : Bitmap) (i : Nat) : Bool := ((bits[i / 8]?).getD 0).toBitVec.getLsbD (i % 8)

/-! ## The bits of one byte -/

theorem toBitVec_mask (i : Nat) : (mask i).toBitVec = BitVec.twoPow 8 (i % 8) := by
  have hall : ∀ k : Fin 8, ((1 : UInt8) <<< UInt8.ofNat k.val).toBitVec = BitVec.twoPow 8 k.val := by
    decide
  exact hall ⟨i % 8, Nat.mod_lt _ (by decide)⟩

theorem getLsbD_mask (i j : Nat) :
    (mask i).toBitVec.getLsbD (j % 8) = decide (i % 8 = j % 8) := by
  rw [toBitVec_mask, BitVec.getLsbD_twoPow, decide_eq_true (Nat.mod_lt i (by decide)),
    Bool.true_and]

/-- A byte has the bit of a mask if they have anything in common. -/
theorem and_mask_bne_zero (byte : UInt8) (i : Nat) :
    (byte &&& mask i != 0) = byte.toBitVec.getLsbD (i % 8) := by
  have hpow : ∀ k : Fin 8, BitVec.twoPow 8 k.val ≠ 0#8 := by decide
  have hzero : byte &&& mask i = 0 ↔ byte.toBitVec.getLsbD (i % 8) = false := by
    rw [← UInt8.toBitVec_inj, UInt8.toBitVec_and, toBitVec_mask, BitVec.and_twoPow,
      UInt8.toBitVec_zero]
    cases byte.toBitVec.getLsbD (i % 8) with
    | false => exact iff_of_true rfl rfl
    | true => exact iff_of_false (hpow ⟨i % 8, Nat.mod_lt _ (by decide)⟩) Bool.noConfusion
  cases hbit : byte.toBitVec.getLsbD (i % 8) with
  | false => rw [hzero.mpr hbit]; rfl
  | true =>
    rw [bne_iff_ne]
    exact fun h => Bool.noConfusion (hbit.symm.trans (hzero.mp h))

/-- The bits of a byte or of its complement. -/
theorem getLsbD_ite_not (value : Bool) (byte : UInt8) {i : Nat} (h : i < 8) :
    (if value then byte else ~~~ byte).toBitVec.getLsbD i =
      (byte.toBitVec.getLsbD i == value) := by
  cases value with
  | true => simp
  | false => simp [UInt8.toBitVec_not, h]

/-! ## Reading and writing a bit -/

section Access

variable {bits : Bitmap} {i : Nat}

/-- A bit lies in the bitmap if its byte does. -/
theorem getElem?_byte (h : i < 8 * bits.length) : bits[i / 8]? = some (bits[i / 8]?.getD 0) := by
  have hlt : i / 8 < bits.length := by omega
  rw [List.getElem?_eq_getElem hlt, Option.getD_some]

theorem isSet_eq (h : i < 8 * bits.length) : isSet bits i = .ok (bits.bit i) := by
  rw [isSet, getElem?_byte h]
  exact congrArg Except.ok (and_mask_bne_zero _ i)

theorem isSet_eq_ok_iff {b : Bool} :
    isSet bits i = .ok b ↔ i < 8 * bits.length ∧ bits.bit i = b := by
  by_cases h : i < 8 * bits.length
  · rw [isSet_eq h, Except.ok.injEq, and_iff_right h]
  · have hnone : bits[i / 8]? = none := List.getElem?_eq_none (by omega)
    rw [isSet, hnone]
    exact iff_of_false nofun fun hset => h hset.1

/-- The bits after one byte was changed. -/
theorem bit_listSet (h : i < 8 * bits.length) (byte : UInt8) (j : Nat) :
    bit (List.set bits (i / 8) byte) j =
      if j / 8 = i / 8 then byte.toBitVec.getLsbD (j % 8) else bits.bit j := by
  have hlt : i / 8 < bits.length := by omega
  unfold bit
  rw [List.getElem?_set]
  by_cases hj : i / 8 = j / 8
  · rw [if_pos hj, if_pos hlt, if_pos hj.symm, Option.getD_some]
  · rw [if_neg hj, if_neg (Ne.symm hj)]

/-- **Setting a bit sets that bit**, and leaves the others alone. -/
theorem set_eq (h : i < 8 * bits.length) : ∃ bits' : Bitmap, set bits i = .ok bits' ∧
    bits'.length = bits.length ∧ ∀ j, bits'.bit j = (decide (j = i) || bits.bit j) := by
  refine ⟨List.set bits (i / 8) (bits[i / 8]?.getD 0 ||| mask i), ?_, List.length_set, fun j => ?_⟩
  · rw [set, getElem?_byte h]
    rfl
  · rw [bit_listSet h, UInt8.toBitVec_or, BitVec.getLsbD_or, getLsbD_mask]
    by_cases hj : j / 8 = i / 8
    · have hmod : i % 8 = j % 8 ↔ j = i := by omega
      rw [if_pos hj, Bool.or_comm, bit, hj, decide_eq_decide.mpr hmod]
    · rw [if_neg hj, decide_eq_false (by rintro rfl; exact hj rfl), Bool.false_or]

/-- **Clearing a bit clears that bit**, and leaves the others alone. -/
theorem reset_eq (h : i < 8 * bits.length) : ∃ bits' : Bitmap, reset bits i = .ok bits' ∧
    bits'.length = bits.length ∧ ∀ j, bits'.bit j = (decide (j ≠ i) && bits.bit j) := by
  refine ⟨List.set bits (i / 8) (bits[i / 8]?.getD 0 &&& ~~~ mask i), ?_, List.length_set,
    fun j => ?_⟩
  · rw [reset, getElem?_byte h]
    rfl
  · rw [bit_listSet h, UInt8.toBitVec_and, BitVec.getLsbD_and, UInt8.toBitVec_not,
      BitVec.getLsbD_not, getLsbD_mask, decide_eq_true (Nat.mod_lt j (by decide)), Bool.true_and]
    by_cases hj : j / 8 = i / 8
    · have hmod : ¬i % 8 = j % 8 ↔ j ≠ i := by omega
      rw [if_pos hj, Bool.and_comm, bit, hj, ← decide_not, decide_eq_decide.mpr hmod]
    · rw [if_neg hj, decide_eq_true (by rintro rfl; exact hj rfl), Bool.true_and]

/-- **A bitmap is determined by its bits** and its length. -/
theorem eq_of_bit_eq {bits' : Bitmap} (hlen : bits.length = bits'.length)
    (h : ∀ j, bits.bit j = bits'.bit j) : bits = bits' := by
  refine List.ext_getElem hlen fun n hn hn' => ?_
  refine UInt8.toBitVec_inj.mp (BitVec.eq_of_getLsbD_eq fun j hj => ?_)
  have hbit := h (8 * n + j)
  have hdiv : (8 * n + j) / 8 = n := by omega
  have hmod : (8 * n + j) % 8 = j := by omega
  unfold bit at hbit
  rwa [hdiv, hmod, List.getElem?_eq_getElem hn, List.getElem?_eq_getElem hn', Option.getD_some,
    Option.getD_some] at hbit

/-- A bitmap of zeros. -/
theorem bit_replicate_zero (n i : Nat) : bit (List.replicate n 0) i = false := by
  unfold bit
  rw [List.getElem?_replicate]
  split
  · exact BitVec.getLsbD_zero
  · exact BitVec.getLsbD_zero

end Access

/-! ## Searching and counting -/

/-- A search among the first numbers is a search among more of them, if what it
finds is small enough. -/
theorem find?_range_of_le {p : Nat → Bool} {n m : Nat} (h : n ≤ m) :
    (List.range n).find? p = ((List.range m).find? p).filter (· < n) := by
  obtain ⟨k, rfl⟩ := Nat.exists_eq_add_of_le h
  rw [List.range_add, List.find?_append]
  cases hfind : (List.range n).find? p with
  | some i =>
    have hi := List.mem_range.mp (List.mem_of_find?_eq_some hfind)
    rw [Option.some_or, Option.filter_some, if_pos (decide_eq_true hi)]
  | none =>
    rw [Option.none_or]
    cases hrest : ((List.range k).map (n + ·)).find? p with
    | none => rfl
    | some j =>
      obtain ⟨l, -, rfl⟩ := List.mem_map.mp (List.mem_of_find?_eq_some hrest)
      rw [Option.filter_some, if_neg (by simp)]

theorem bit_cons_of_lt {byte : UInt8} {bits : Bitmap} {i : Nat} (h : i < 8) :
    bit (byte :: bits) i = byte.toBitVec.getLsbD i := by
  unfold bit
  rw [Nat.div_eq_of_lt h, Nat.mod_eq_of_lt h]
  rfl

theorem bit_cons_add (byte : UInt8) (bits : Bitmap) (i : Nat) :
    bit (byte :: bits) (8 + i) = bit bits i := by
  unfold bit
  rw [Nat.add_div_left _ (by decide), Nat.add_mod_left]
  rfl

/-- The lowest bit with a value in the first byte. -/
theorem lowestBit_eq_find? (value : Bool) (byte : UInt8) (bits : Bitmap) :
    lowestBit (if value then byte else ~~~ byte) =
      (List.range 8).find? fun i => bit (byte :: bits) i == value := by
  refine List.find?_congr fun i hmem => ?_
  have hi := List.mem_range.mp hmem
  rw [and_mask_bne_zero, Nat.mod_eq_of_lt hi, getLsbD_ite_not value byte hi, bit_cons_of_lt hi]

@[simp] theorem firstBit_zero (value : Bool) (bits : Bitmap) : firstBit value bits 0 = none := by
  cases bits with
  | nil => rfl
  | cons byte bits => exact if_pos rfl

/-- **A search goes byte by byte**: the first eight positions come first. -/
theorem firstBit_cons (value : Bool) (byte : UInt8) (bits : Bitmap) (n : Nat) :
    firstBit value (byte :: bits) n =
      ((List.range (min n 8)).find? fun i => bit (byte :: bits) i == value).or
        ((firstBit value bits (n - 8)).map (· + 8)) := by
  by_cases hzero : n = 0
  · rw [hzero, firstBit_zero, Nat.zero_sub, firstBit_zero, Nat.zero_min]
    rfl
  rw [firstBit, if_neg hzero, lowestBit_eq_find? value byte bits,
    find?_range_of_le (Nat.min_le_right n 8)]
  cases hfind : (List.range 8).find? fun i => bit (byte :: bits) i == value with
  | none => rfl
  | some i =>
    have hi := List.mem_range.mp (List.mem_of_find?_eq_some hfind)
    rw [Option.filter_some]
    by_cases hlt : i < n
    · simp [hlt, hi]
    · -- the byte with a bit behind the first `n` is the last one that is asked about
      have hlast : n - 8 = 0 := by omega
      simp [hlt, hlast]

/-- **The search for a bit finds the lowest position that has it** among those
that are asked for and exist. -/
theorem firstBit_eq_find? (value : Bool) (bits : Bitmap) (n : Nat) :
    firstBit value bits n =
      (List.range (min n (8 * bits.length))).find? fun i => bits.bit i == value := by
  -- the induction is on the bytes, eight positions at a time
  induction bits generalizing n with
  | nil => simp [firstBit]
  | cons byte bits ih =>
    rw [firstBit_cons, ih, List.length_cons]
    rcases Nat.le_total n 8 with hle | hge
    · rw [Nat.min_eq_left hle, Nat.sub_eq_zero_of_le hle, Nat.zero_min,
        Nat.min_eq_left (by omega)]
      exact Option.or_none
    · have hsplit : min n (8 * (bits.length + 1)) = 8 + min (n - 8) (8 * bits.length) := by omega
      have hshift : ((fun i => bit (byte :: bits) i == value) ∘ (8 + ·)) =
          fun i => bit bits i == value := funext fun i => by
        rw [Function.comp_apply, bit_cons_add]
      rw [Nat.min_eq_right hge, hsplit, List.range_add, List.find?_append, List.find?_map, hshift]
      exact congrArg _ (congrArg (Option.map · _) (funext fun i => Nat.add_comm i 8))

/-- The search for a set bit from a position on. -/
theorem findSet_eq {bits : Bitmap} {count i : Nat} (h : i + count ≤ 8 * bits.length) :
    findSet bits count i = .ok ((List.range' i count).find? bits.bit) := by
  induction count generalizing i with
  | zero => rfl
  | succ count ih =>
    rw [findSet, isSet_eq (by omega), List.range'_succ, List.find?_cons]
    cases bits.bit i with
    | true => rfl
    | false => exact ih (by omega)

theorem countFrom_eq {bits : Bitmap} {count i found : Nat} (h : i + count ≤ 8 * bits.length) :
    countFrom bits count i found = .ok (found + (List.range' i count).countP bits.bit) := by
  induction count generalizing i found with
  | zero => rfl
  | succ count ih =>
    rw [countFrom, isSet_eq (by omega), List.range'_succ, List.countP_cons]
    show countFrom bits count (i + 1) (if bits.bit i = true then found + 1 else found) = _
    rw [ih (by omega)]
    refine congrArg Except.ok ?_
    split <;> omega

/-- **Counting counts the set bits.** -/
theorem countOnes_eq {bits : Bitmap} {n : Nat} (h : n ≤ 8 * bits.length) :
    countOnes bits n = .ok ((List.range n).countP bits.bit) := by
  rw [countOnes, countFrom_eq (by omega), Nat.zero_add, List.range_eq_range']

/-! ## The first position, bit by bit -/

/-- **The first position with a value**, among the first `n` positions and those that
there are. -/
structure IsFirst (value : Bool) (bits : Bitmap) (n i : Nat) : Prop where
  asked : i < n
  /-- The bitmap has a bit at this position. -/
  stands : i < 8 * bits.length
  found : isSet bits i = .ok value
  /-- The bits before have the other value. -/
  before : ∀ j < i, isSet bits j = .ok (!value)

section First

variable {value : Bool} {bits bits' : Bitmap} {n i : Nat}

theorem firstBit_eq_some_iff : firstBit value bits n = some i ↔ IsFirst value bits n i := by
  rw [firstBit_eq_find?, List.find?_range_eq_some, List.mem_range, Nat.lt_min]
  simp only [beq_iff_eq, Bool.not_eq_true', beq_eq_false_iff_ne, ← Bool.eq_not]
  constructor
  · rintro ⟨hbit, ⟨hasked, hstands⟩, hbefore⟩
    exact ⟨hasked, hstands, isSet_eq_ok_iff.mpr ⟨hstands, hbit⟩, fun j hj =>
      isSet_eq_ok_iff.mpr ⟨Nat.lt_trans hj hstands, hbefore j hj⟩⟩
  · intro h
    exact ⟨(isSet_eq_ok_iff.mp h.found).2, ⟨h.asked, h.stands⟩, fun j hj =>
      (isSet_eq_ok_iff.mp (h.before j hj)).2⟩

theorem firstBit_eq_none_iff : firstBit value bits n = none ↔
    ∀ i < n, i < 8 * bits.length → isSet bits i = .ok (!value) := by
  rw [firstBit_eq_find?, List.find?_range_eq_none]
  simp only [Nat.lt_min, and_imp, Bool.not_eq_true', beq_eq_false_iff_ne, ← Bool.eq_not]
  refine forall_congr' fun i => imp_congr_right fun _ => imp_congr_right fun hi => ?_
  rw [isSet_eq_ok_iff, and_iff_right hi]

theorem IsFirst.congr (hfirst : IsFirst value bits n i)
    (h : ∀ j < n, isSet bits j = isSet bits' j) : IsFirst value bits' n i := by
  have hfound := (h i hfirst.asked).symm.trans hfirst.found
  exact ⟨hfirst.asked, (isSet_eq_ok_iff.mp hfound).1, hfound, fun j hj =>
    (h j (Nat.lt_trans hj hfirst.asked)).symm.trans (hfirst.before j hj)⟩

/-- **Bits behind the first `n`** make no difference to a search. -/
theorem firstBit_congr (h : ∀ j < n, isSet bits j = isSet bits' j) :
    firstBit value bits n = firstBit value bits' n := by
  refine Option.ext fun i => ?_
  rw [firstBit_eq_some_iff, firstBit_eq_some_iff]
  exact ⟨fun hfirst => hfirst.congr h, fun hfirst => hfirst.congr fun j hj => (h j hj).symm⟩

/-- **A search finds nothing** where the count leaves nothing to find. -/
theorem firstBit_eq_none_iff_countOnes (hn : n ≤ 8 * bits.length) :
    firstBit value bits n = none ↔ countOnes bits n = .ok (if value then 0 else n) := by
  have hall : firstBit value bits n = none ↔ ∀ i ∈ List.range n, bits.bit i = !value := by
    rw [firstBit_eq_find?, Nat.min_eq_left hn, List.find?_eq_none]
    simp only [beq_iff_eq, Bool.eq_not, ne_eq]
  rw [hall, countOnes_eq hn, Except.ok.injEq]
  cases value with
  | true =>
    rw [if_pos rfl, List.countP_eq_zero]
    simp only [Bool.not_true, Bool.not_eq_true]
  | false =>
    have hcount := List.countP_eq_length (p := bits.bit) (l := List.range n)
    rw [List.length_range] at hcount
    exact hcount.symm

end First

/-- **The search for a bit is exact.** It finds a position if and only if that is the first
one with the value, and nothing if and only if there is none. The bits behind the first `n`
make no difference to it, and where there are `n` bits to be counted, their count tells
whether it finds something. -/
theorem first_bit_is_least (bits : Bitmap) (n : Nat) :
    (∀ value : Bool,
      (∀ i, firstBit value bits n = some i ↔ IsFirst value bits n i) ∧
      (firstBit value bits n = none ↔ ∀ i, ¬IsFirst value bits n i) ∧
      (firstBit value bits n = none ↔
        ∀ i < n, i < 8 * bits.length → isSet bits i = .ok (!value)) ∧
      ∀ bits' : Bitmap, (∀ j < n, isSet bits j = isSet bits' j) →
        firstBit value bits n = firstBit value bits' n) ∧
    (n ≤ 8 * bits.length →
      (firstBit false bits n = none ↔ countOnes bits n = .ok n) ∧
      (firstBit true bits n = none ↔ countOnes bits n = .ok 0)) := by
  have hnone : ∀ value, firstBit value bits n = none ↔ ∀ i, ¬IsFirst value bits n i := by
    intro value
    rw [Option.eq_none_iff_forall_ne_some]
    exact forall_congr' fun i => not_congr firstBit_eq_some_iff
  refine ⟨fun value => ⟨fun i => firstBit_eq_some_iff, hnone value, firstBit_eq_none_iff, ?_⟩, ?_⟩
  · exact fun bits' h => firstBit_congr h
  · exact fun hn => ⟨firstBit_eq_none_iff_countOnes hn, firstBit_eq_none_iff_countOnes hn⟩

/-- Nine set bits are followed by a clear one in the same byte. A search among the first nine
finds nothing, as in a bitmap that goes on otherwise, and a search among ten finds it. -/
theorem first_bit_is_least_stray :
    (∀ j < 9, isSet [0xFF, 0xFD] j = isSet [0xFF, 0x31, 0x08] j) ∧
      firstBit false [0xFF, 0xFD] 9 = firstBit false [0xFF, 0x31, 0x08] 9 ∧
      9 ≤ 8 * 2 ∧ firstBit false [0xFF, 0xFD] 9 = none ∧ countOnes [0xFF, 0xFD] 9 = .ok 9 ∧
      IsFirst false [0xFF, 0xFD] 10 9 := by
  obtain ⟨hsearch, hcount⟩ := first_bit_is_least [0xFF, 0xFD] 9
  have hsame : ∀ j < 9, isSet [0xFF, 0xFD] j = isSet [0xFF, 0x31, 0x08] j := by decide
  have hnone : firstBit false [0xFF, 0xFD] 9 = none := by decide
  obtain ⟨hfound, -⟩ := (first_bit_is_least [0xFF, 0xFD] 10).1 false
  exact ⟨hsame, (hsearch false).2.2.2 _ hsame, by decide, hnone, (hcount (by decide)).1.mp hnone,
    (hfound 9).mp (by decide)⟩

end SlottedFile.Bitmap
