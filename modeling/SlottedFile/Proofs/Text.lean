import SlottedFile.Command.Display

/-!
# Texts as records, and in tables

A text that is written as bytes and read again is the text it was (`Text.Utf8.decode_encode`),
because each character is one run of bytes that begins as no other does. A record is the
bytes of a text with zeros behind it. If the text has no zero character, none of its bytes
is zero, and it is read off the record again (`RecordText.ofRecord_of_toRecord?`).

In a table every line of a text has to have a width. Lines without control characters and
beyond the first characters can have none; those of a number or of a place always do
(`Text.Unsigned.ofString_ne_error`).
-/

namespace SlottedFile

namespace Text.Utf8

/-! ## One character -/

theorem lead_one {n : Nat} (hn : n < 128) : lead (UInt8.ofNat n) = ([Char.ofNat n], none) := by
  decide +revert +kernel

theorem lead_two {n : Nat} (hn : n < 32) (hlow : 2 ≤ n) :
    lead (UInt8.ofNat (n + 192)) = ([], some ⟨0, 0x80, 0xBF, n⟩) := by
  decide +revert +kernel

theorem lead_three {n : Nat} (hn : n < 16) :
    lead (UInt8.ofNat (n + 224)) =
      ([], some ⟨1, if n = 0 then 0xA0 else 0x80, if n = 13 then 0x9F else 0xBF, n⟩) := by
  decide +revert +kernel

theorem lead_four {n : Nat} (hn : n < 5) :
    lead (UInt8.ofNat (n + 240)) =
      ([], some ⟨2, if n = 0 then 0x90 else 0x80, if n = 4 then 0x8F else 0xBF, n⟩) := by
  decide +revert +kernel

/-- **A byte that continues a character** adds six bits to its value. -/
theorem next_of_begun {after n value : Nat} {low high : UInt8} (hn : n < 64)
    (hlow : low.toNat ≤ n + 128) (hhigh : n + 128 ≤ high.toNat) :
    next (some ⟨after, low, high, value⟩) (UInt8.ofNat (n + 128)) =
      match after with
      | 0 => ([Char.ofNat (value * 64 + n)], none)
      | after + 1 => ([], some ⟨after, 0x80, 0xBF, value * 64 + n⟩) := by
  have hbyte : (UInt8.ofNat (n + 128)).toNat = n + 128 := by
    rw [UInt8.toNat_ofNat']
    omega
  have hbounds : low ≤ UInt8.ofNat (n + 128) ∧ UInt8.ofNat (n + 128) ≤ high := by
    rw [UInt8.le_iff_toNat_le, UInt8.le_iff_toNat_le, hbyte]
    exact ⟨hlow, hhigh⟩
  have hbits : (UInt8.ofNat (n + 128)).toNat - 0x80 = n := by
    rw [hbyte, Nat.add_sub_cancel]
  cases after with
  | zero =>
    exact (if_pos hbounds).trans (congrArg (fun m => ([Char.ofNat (value * 64 + m)], none)) hbits)
  | succ after =>
    exact (if_pos hbounds).trans
      (congrArg (fun m => ([], some (Begun.mk after 0x80 0xBF (value * 64 + m)))) hbits)

theorem next_of_begun_last {n value : Nat} (hn : n < 64) :
    next (some ⟨0, 0x80, 0xBF, value⟩) (UInt8.ofNat (n + 128)) =
      ([Char.ofNat (value * 64 + n)], none) :=
  next_of_begun hn (Nat.le_add_left _ _) (Nat.add_le_add_right (Nat.le_of_lt_succ hn) 128)

theorem decodeFrom_cons (begun : Option Begun) (b : UInt8) (bytes : List UInt8) :
    decodeFrom begun (b :: bytes) = (next begun b).1 ++ decodeFrom (next begun b).2 bytes := by
  cases begun <;> rfl

/-- The value of a character is no surrogate. -/
theorem valid_toNat (c : Char) : c.val.toNat < 0xD800 ∨ 0xDFFF < c.val.toNat ∧ c.val.toNat < 0x110000 :=
  c.valid

/-- **The bytes of a character are read as that character**, whatever follows. -/
theorem decodeFrom_utf8EncodeChar (c : Char) (bytes : List UInt8) :
    decodeFrom none (String.utf8EncodeChar c ++ bytes) = c :: decodeFrom none bytes := by
  have hvalid := valid_toNat c
  have hself : Char.ofNat c.val.toNat = c := Char.ofNat_toNat c
  rw [String.utf8EncodeChar.eq_1]
  generalize c.val.toNat = n at hvalid hself
  split
  · rw [List.singleton_append, decodeFrom_cons, next, lead_one (by omega), hself]
    rfl
  split
  · have hvalue : n / 64 % 32 * 64 + n % 64 = n := by omega
    rw [List.cons_append, List.singleton_append, decodeFrom_cons, next,
      lead_two (by omega) (by omega)]
    dsimp only
    rw [decodeFrom_cons, next_of_begun_last (by omega), hvalue, hself]
    rfl
  split
  · have hvalue : (n / 4096 % 16 * 64 + n / 64 % 64) * 64 + n % 64 = n := by omega
    rw [List.cons_append, List.cons_append, List.singleton_append, decodeFrom_cons, next,
      lead_three (by omega)]
    dsimp only
    rw [decodeFrom_cons, next_of_begun (by omega) ?low ?high]
    case low =>
      split <;> simp
      omega
    case high => split <;> simp <;> omega
    dsimp only
    rw [decodeFrom_cons, next_of_begun_last (by omega), hvalue, hself]
    rfl
  · have hvalue : ((n / 262144 % 8 * 64 + n / 4096 % 64) * 64 + n / 64 % 64) * 64 + n % 64 = n := by
      omega
    rw [List.cons_append, List.cons_append, List.cons_append, List.singleton_append,
      decodeFrom_cons, next, lead_four (by omega)]
    dsimp only
    rw [decodeFrom_cons, next_of_begun (by omega) ?low ?high]
    case low =>
      split <;> simp
      omega
    case high => split <;> simp <;> omega
    dsimp only
    rw [decodeFrom_cons, next_of_begun (by omega) (Nat.le_add_left _ _)
      (Nat.add_le_add_right (by omega) 128)]
    dsimp only
    rw [decodeFrom_cons, next_of_begun_last (by omega), hvalue, hself]
    rfl

/-! ## Texts -/

/-- **A text that is written and read again** is the text it was. -/
theorem decode_encode (s : String) : decode (encode s) = s := by
  have hchars : ∀ cs : List Char, decodeFrom none (cs.flatMap String.utf8EncodeChar) = cs := by
    intro cs
    induction cs with
    | nil => rfl
    | cons c cs ih => rw [List.flatMap_cons, decodeFrom_utf8EncodeChar, ih]
  unfold decode encode
  rw [hchars, String.ofList_toList]

/-- Only the zero character has a byte that is zero. -/
theorem eq_of_zero_mem {c : Char} (h : 0 ∈ String.utf8EncodeChar c) : c = '\x00' := by
  have hbyte : ∀ m : Nat, m < 256 → UInt8.ofNat m = 0 → m = 0 := by
    intro m hm hzero
    have hnat := congrArg UInt8.toNat hzero
    rw [UInt8.toNat_ofNat'] at hnat
    simp at hnat
    omega
  have hself : Char.ofNat c.val.toNat = c := Char.ofNat_toNat c
  rw [String.utf8EncodeChar.eq_1] at h
  generalize c.val.toNat = n at h hself
  split at h
  · have hn := hbyte n (by omega) (List.mem_singleton.mp h).symm
    rw [← hself, hn]
  · exfalso
    split at h
    · simp only [List.mem_cons, List.not_mem_nil, or_false] at h
      rcases h with h | h <;> exact absurd (hbyte _ (by omega) h.symm) (by omega)
    split at h <;>
    · simp only [List.mem_cons, List.not_mem_nil, or_false] at h
      rcases h with h | h | h
      all_goals first
        | exact absurd (hbyte _ (by omega) h.symm) (by omega)
        | rcases h with h | h <;> exact absurd (hbyte _ (by omega) h.symm) (by omega)

theorem zero_not_mem_encode {s : String} (h : '\x00' ∉ s.toList) : 0 ∉ encode s := by
  intro hmem
  obtain ⟨c, hc, hzero⟩ := List.mem_flatMap.mp hmem
  exact h (eq_of_zero_mem hzero ▸ hc)

end Text.Utf8

namespace Text

/-! ## Cells and rows -/

/-- A row of computations fails with one of them. -/
theorem exists_of_mapM_error {α β ε : Type} {f : α → Except ε β} {l : List α} {e : ε}
    (h : l.mapM f = .error e) : ∃ a ∈ l, f a = .error e := by
  induction l with
  | nil => cases h
  | cons a l ih =>
    rw [List.mapM_cons] at h
    cases hf : f a with
    | error e' =>
      rw [hf] at h
      cases h
      exact ⟨a, List.mem_cons_self, hf⟩
    | ok b =>
      rw [hf] at h
      cases hl : l.mapM f with
      | ok bs =>
        rw [hl] at h
        cases h
      | error e' =>
        rw [hl] at h
        cases h
        obtain ⟨a', hmem, herror⟩ := ih hl
        exact ⟨a', List.mem_cons_of_mem a hmem, herror⟩

/-- What is followed by something that does not fail is what failed. -/
theorem eq_error_of_bind {α β ε : Type} {x : Except ε α} {f : α → β} {e : ε}
    (h : (do return f (← x) : Except ε β) = .error e) : x = .error e := by
  cases x with
  | ok a => cases h
  | error e' => exact congrArg Except.error (Except.error.inj h)

/-- **A cell overruns at a line that has no width.** -/
theorem exists_of_ofString_error {s : String} {o : Overrun} (h : Cell.ofString s = .error o) :
    ∃ line ∈ lines s, Width.ofString? line = none := by
  obtain ⟨line, hmem, herror⟩ := exists_of_mapM_error (eq_error_of_bind h)
  refine ⟨line, hmem, ?_⟩
  cases hwidth : Width.ofString? line with
  | none => rfl
  | some width =>
    rw [hwidth] at herror
    cases herror

theorem linesFrom_cons (before : List Char) (c : Char) (cs : List Char) :
    linesFrom before (c :: cs) =
      if c = '\n' then
        String.ofList (match before with | '\r' :: before => before | _ => before).reverse ::
          linesFrom [] cs
      else linesFrom (c :: before) cs := by
  cases before <;> rfl

/-- The characters of a line are characters of the text. -/
theorem mem_of_mem_linesFrom {before cs : List Char} {line : String}
    (h : line ∈ linesFrom before cs) : ∀ c ∈ line.toList, c ∈ before ∨ c ∈ cs := by
  induction cs generalizing before with
  | nil =>
    cases before with
    | nil => cases h
    | cons b before =>
      obtain rfl := List.mem_singleton.mp h
      intro c hc
      rw [String.toList_ofList, List.mem_reverse] at hc
      exact .inl hc
  | cons d cs ih =>
    rw [linesFrom_cons] at h
    split at h
    · rcases List.mem_cons.mp h with rfl | h
      · intro c hc
        rw [String.toList_ofList, List.mem_reverse] at hc
        left
        split at hc
        · exact List.mem_cons_of_mem _ hc
        · exact hc
      · intro c hc
        exact .inr (List.mem_cons_of_mem d ((ih h c hc).resolve_left List.not_mem_nil))
    · intro c hc
      rcases ih h c hc with hbefore | hafter
      · rcases List.mem_cons.mp hbefore with rfl | hmem
        · exact .inr List.mem_cons_self
        · exact .inl hmem
      · exact .inr (List.mem_cons_of_mem d hafter)

/-- **A text without signs**: every character of it is one of the first, and none begins a
colour sequence. -/
def Unsigned (s : String) : Prop := ∀ c ∈ s.toList, c.toNat ≤ 0xA0 ∧ c ≠ '\x1b'

theorem unsigned_of_all {s : String}
    (h : (s.toList.all fun c => decide (c.toNat ≤ 0xA0) && c != '\x1b') = true) : Unsigned s := by
  intro c hc
  obtain ⟨hle, hne⟩ := (Bool.and_eq_true _ _).mp (List.all_eq_true.mp h c hc)
  exact ⟨of_decide_eq_true hle, bne_iff_ne.mp hne⟩

/-- **A text without signs has a cell.** -/
theorem Unsigned.ofString_ne_error {s : String} (h : Unsigned s) (o : Overrun) :
    Cell.ofString s ≠ .error o := by
  intro herror
  obtain ⟨line, hline, hnone⟩ := exists_of_ofString_error herror
  have hmem : ∀ c ∈ line.toList, c ∈ s.toList := fun c hc =>
    (mem_of_mem_linesFrom hline c hc).resolve_left List.not_mem_nil
  rw [Width.ofString?_eq_length (fun c hc => (h c (hmem c hc)).1)
    fun hesc => (h _ (hmem _ hesc)).2 rfl] at hnone
  cases hnone

theorem unsigned_append {s t : String} (hs : Unsigned s) (ht : Unsigned t) : Unsigned (s ++ t) := by
  intro c hc
  rw [String.toList_append] at hc
  exact (List.mem_append.mp hc).elim (hs c) (ht c)

theorem unsigned_toString (n : Nat) : Unsigned (toString n) := by
  intro c hc
  have hdigits : (toString n).toList = Nat.toDigits 10 n := String.toList_ofList
  rw [hdigits] at hc
  have hdigit := Nat.isDigit_of_mem_toDigits (by decide) (by decide) hc
  unfold Char.isDigit at hdigit
  have hle : c.toNat ≤ 57 := by
    have hand := (Bool.and_eq_true _ _).mp hdigit
    exact of_decide_eq_true hand.2
  refine ⟨Nat.le_trans hle (by decide), ?_⟩
  rintro rfl
  exact absurd hdigit (by decide)

end Text

theorem RecordId.unsigned_text (id : RecordId) : Text.Unsigned id.text := by
  have hopen : Text.Unsigned "(" := Text.unsigned_of_all rfl
  have hcomma : Text.Unsigned ", " := Text.unsigned_of_all rfl
  have hclose : Text.Unsigned ")" := Text.unsigned_of_all rfl
  exact Text.unsigned_append (Text.unsigned_append (Text.unsigned_append
    (Text.unsigned_append hopen (Text.unsigned_toString _)) hcomma) (Text.unsigned_toString _)) hclose

namespace RecordText

variable {text : String} {recordSize : Nat} {record : List UInt8}

theorem toRecord?_eq_some_iff : toRecord? text recordSize = some record ↔
    (Text.Utf8.encode text).length ≤ recordSize ∧ record = Text.Utf8.encode text ++
      List.replicate (recordSize - (Text.Utf8.encode text).length) 0 := by
  unfold toRecord?
  dsimp only
  split
  · rename_i hlong
    simp only [reduceCtorEq, false_iff, not_and]
    omega
  · rename_i hshort
    rw [Option.some.injEq, eq_comm]
    exact (and_iff_right (Nat.not_lt.1 hshort)).symm

/-- A text that does not fit is too long. -/
theorem toRecord?_eq_none_iff : toRecord? text recordSize = none ↔
    recordSize < (Text.Utf8.encode text).length := by
  unfold toRecord?
  dsimp only
  split
  · exact iff_of_true rfl ‹_›
  · exact iff_of_false nofun ‹_›

theorem length_of_toRecord? (h : toRecord? text recordSize = some record) :
    record.length = recordSize := by
  obtain ⟨hle, rfl⟩ := toRecord?_eq_some_iff.mp h
  rw [List.length_append, List.length_replicate]
  omega

/-- **A text is read off the record that holds it**, if it has no zero character. -/
theorem ofRecord_of_toRecord? (h : toRecord? text recordSize = some record)
    (hzero : '\x00' ∉ text.toList) : ofRecord record = text := by
  obtain ⟨-, rfl⟩ := toRecord?_eq_some_iff.mp h
  have hbytes : (Text.Utf8.encode text).reverse.dropWhile (· == 0) =
      (Text.Utf8.encode text).reverse := by
    cases hreverse : (Text.Utf8.encode text).reverse with
    | nil => rfl
    | cons b bytes =>
      refine List.dropWhile_cons_of_neg fun hb => Text.Utf8.zero_not_mem_encode hzero ?_
      rw [← List.mem_reverse, hreverse, ← beq_iff_eq.mp hb]
      exact List.mem_cons_self
  unfold ofRecord
  rw [List.reverse_append, List.dropWhile_append_of_pos, hbytes, List.reverse_reverse,
    Text.Utf8.decode_encode]
  intro b hb
  rw [List.mem_reverse] at hb
  exact beq_iff_eq.mpr (List.eq_of_mem_replicate hb)

end RecordText

end SlottedFile
