import SlottedFile.Text.Width.Emoji
import SlottedFile.Text.Width.Letter

/-!
# How wide a text is shown

A text takes as many columns as its characters, but for three things. A control
character takes one column, though by itself it takes none. Characters that are
shown as one sign take the columns of that sign: pictures with all that is
joined to them, and letters of some scripts. And in a colour sequence – an
escape character, a bracket and all up to the letter `m` – every character that
would take a column takes one less.

Whether characters are one sign is decided from the end of the text: `step` says
what a character adds to the text behind it.
-/

namespace SlottedFile.Text.Width

/-! ## Characters that are shown together -/

/-- **What a text starts with**, as far as it bears on a character in front of
it. -/
inductive Start where
  | plain
  | alef
  /-- A letter, and whether it is joined to what is in front of it. -/
  | letter (l : Letter) (joined : Bool)
  | picture
  | tone
  /-- A picture that is joined to what is in front of it. -/
  | joinedPicture
  /-- A key that is joined to the picture behind it. -/
  | joinedKey
  /-- The last letter of a flag. -/
  | flagLetter
  /-- Several letters of flags. -/
  | flagLetters
  /-- The last letter of a flag that is joined to the picture behind it. -/
  | joinedFlagLetter
  /-- Flags, of which the last one is joined to the picture behind it. -/
  | joinedFlags
  /-- The last letter of a flag and such flags behind it. -/
  | flagLetterBeforeFlags
  /-- The end of the name of a region that is joined to the picture behind it:
  so many letters and so many digits in front of them. -/
  | region (letters digits : Nat)
  deriving DecidableEq, Repr

/-- What a text starts with, if it starts with a character that makes no sign
with what is behind it. -/
def Start.ofChar (c : Char) : Start :=
  if isFlagLetter c then .flagLetter
  else if isTone c then .tone
  else if isPicture c then .picture
  else if isAlef c then .alef
  else
    match Letter.ofChar? c with
    | some l => .letter l false
    | none => .plain

/-- Whether a text is joined to a picture in front of it. -/
def Start.isJoined : Start → Bool
  | joinedPicture | joinedKey => true
  | _ => false

/-- What a text starts with, seen past a sign that asks for a picture or for
text. -/
def Start.pastSign : Start → Start
  | alef => alef
  | letter l joined => letter l joined
  | _ => plain

/-- What a sign in front of a text can ask for. -/
inductive Style where
  | picture
  | text
  deriving DecidableEq, Repr

/-- **What is behind a character**: a text, and the sign in front of the text if
there is one. -/
structure Behind where
  start : Start := .plain
  sign : Option Style := none
  deriving DecidableEq, Repr

/-- The columns of a character that heeds the sign behind it. -/
def styled? (c : Char) (b : Behind) : Option (Int × Behind) :=
  match b.sign with
  | some .picture =>
    if heedsPictureSign c then some (if b.start.isJoined then 0 else 2, { start := .picture })
    else none
  | some .text => if heedsTextSign c then some (1, {}) else none
  | none => none

/-- The columns that the letter of a flag takes in front of a text if the two are
one sign, and what the text starts with then. The letters of flags are read in
pairs; a pair that is joined to a picture takes no columns. -/
def flag? : Start → Option (Int × Start)
  | .flagLetter | .flagLetters => some (1, .flagLetters)
  | .joinedPicture => some (1, .joinedFlagLetter)
  | .joinedFlagLetter | .flagLetterBeforeFlags => some (-1, .joinedFlags)
  | .joinedFlags => some (3, .flagLetterBeforeFlags)
  | _ => none

/-- What a character in front of the end of the name of a region makes of it. A
name is two letters and one to four more, or three digits and at most four
letters, behind the flag. -/
def region? (c : Char) (letters digits : Nat) : Option Start :=
  if isTagLetter c ∧ digits = 0 ∧ letters < 6 then some (.region (letters + 1) 0)
  else if isTagDigit c ∧ digits < 3 ∧ (digits = 0 → letters < 5) then
    some (.region letters (digits + 1))
  else if isBlackFlag c ∧ (digits = 0 ∧ 3 ≤ letters ∨ digits = 3) then some .picture
  else none

/-- The columns that a character takes in front of a text if the two are one
sign, and what the text starts with then. -/
def sign? (c : Char) (start : Start) : Option (Int × Start) :=
  match start with
  | .plain | .joinedKey => none
  | .alef =>
    if isLam c then some (0, .plain) else if staysBetween c then some (0, .alef) else none
  | .letter l joined =>
    if c = joiner then some (0, .letter l true)
    else if Letter.isPassedOver c then some (0, .letter l joined)
    else
      (l.sign? c joined).map fun (columns, made) =>
        (columns, match made with | some l => .letter l false | none => .plain)
  | .region letters digits => (region? c letters digits).map fun start => (0, start)
  | _ =>
    if isFlagLetter c then flag? start
    else
      match start with
      | .tone =>
        if takesTone c then some (0, .picture)
        else if c = joiner then some (0, .joinedPicture)
        else none
      | .picture | .flagLetters | .joinedFlags | .flagLetterBeforeFlags =>
        if c = joiner then some (0, .joinedPicture) else none
      | .joinedPicture =>
        if c = keySign then some (0, .joinedKey)
        else if isTagEnd c then some (0, .region 0 0)
        else if isTone c then some (0, .tone)
        else if isPicture c then some (0, .picture)
        else none
      | _ => none

/-- **The columns that a character adds to the text behind it**, and what that
text starts with then. -/
def step (c : Char) (behind : Behind) : Int × Behind :=
  match styled? c behind with
  | some answer => answer
  | none =>
    let start := if behind.sign.isSome then behind.start.pastSign else behind.start
    if c.toNat ≤ 0xA0 then (1, {})
    else if c = pictureSign then
      (0, { start := if start.isJoined then start else start.pastSign, sign := some .picture })
    else if c = textSign then (0, { start := start.pastSign, sign := some .text })
    else
      match sign? c start with
      | some (columns, start) => (columns, { start })
      | none => (ofChar c, { start := .ofChar c })

/-- The columns that characters take, and what is behind a character in front of
them. -/
def shown (cs : List Char) : Int × Behind :=
  cs.foldr (fun c (columns, behind) =>
    let (own, behind) := step c behind
    (own + columns, behind)) (0, {})

/-- The first characters up to the hard blank, controls among them, take one
column each. -/
theorem shown_of_le_hardBlank {cs : List Char} (h : ∀ c ∈ cs, c.toNat ≤ 0xA0) :
    shown cs = ((cs.length : Int), {}) := by
  induction cs with
  | nil => rfl
  | cons c cs ih =>
    have hc := h c List.mem_cons_self
    have hcs : List.foldr _ _ cs = _ := ih fun d hd => h d (List.mem_cons_of_mem c hd)
    have hstep : step c {} = (1, {}) := if_pos hc
    rw [shown, List.foldr_cons, hcs]
    simp only [hstep, List.length_cons, Int.natCast_add, Int.natCast_one, Int.add_comm]

/-! ## Colour sequences -/

/-- How far into a colour sequence a text has got. -/
inductive Colour where
  | outside
  | escape
  | inside
  deriving DecidableEq, Repr

/-- The point in a colour sequence behind a character. -/
def Colour.next (point : Colour) (c : Char) : Colour :=
  match point with
  | outside => if c = '\x1b' then escape else outside
  | escape => if c = '[' then inside else outside
  | inside => if c = 'm' then outside else inside

/-- The characters in colour sequences that would take a column, read from a
point in a colour sequence on. The escape character is not counted. -/
def hidden : Colour → List Char → Nat
  | _, [] => 0
  | point, c :: cs =>
    let next := point.next c
    let steers := (point = .inside ∨ next = .inside) ∧ ofChar c > 0
    (if steers then 1 else 0) + hidden next cs

theorem hidden_outside_eq_zero {cs : List Char} (h : '\x1b' ∉ cs) : hidden .outside cs = 0 := by
  induction cs with
  | nil => rfl
  | cons c cs ih =>
    have hc : c ≠ '\x1b' := fun hc => h (hc ▸ List.mem_cons_self)
    have hnext : Colour.next .outside c = .outside := if_neg hc
    simp only [hidden, hnext, ih fun hcs => h (List.mem_cons_of_mem c hcs), reduceCtorEq,
      false_and, or_self, if_false, Nat.add_zero]

/-- **The columns a text takes.** There is no answer if more characters of its
colour sequences are hidden than it has columns, as when they are shown
together. -/
def ofString? (s : String) : Option Nat :=
  let columns := (shown s.toList).1 - hidden .outside s.toList
  if 0 ≤ columns then some columns.toNat else none

/-- **A text of the first characters takes a column for each of them**, if none
of them begins a colour sequence. -/
theorem ofString?_eq_length {s : String} (h : ∀ c ∈ s.toList, c.toNat ≤ 0xA0)
    (hesc : '\x1b' ∉ s.toList) : ofString? s = some s.length := by
  simp only [ofString?, shown_of_le_hardBlank h, hidden_outside_eq_zero hesc, Int.natCast_zero,
    Int.sub_zero, Int.natCast_nonneg, if_true, Int.toNat_natCast, String.length_toList]

end SlottedFile.Text.Width
