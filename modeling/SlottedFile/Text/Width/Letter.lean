import SlottedFile.Text.Width.Char

/-!
# Letters that are shown as one sign

In some scripts two letters make a single sign, so that the first of them takes
no column of its own. A text is read from its end here: a letter says what it
makes of the character in front of it.
-/

namespace SlottedFile.Text.Width

/-! ## Arabic -/

/-- Whether a character is a lam, which takes no column in front of an alef. -/
def isLam (c : Char) : Bool :=
  within [(0x0644, 0x0644), (0x06B5, 0x06B8), (0x076A, 0x076A), (0x08A6, 0x08A6), (0x08C7, 0x08C7)]
    c

/-- Whether a character is an alef. -/
def isAlef (c : Char) : Bool :=
  within [(0x0622, 0x0623), (0x0625, 0x0625), (0x0627, 0x0627), (0x0671, 0x0673), (0x0675, 0x0675),
    (0x0773, 0x0774), (0x0870, 0x0882)] c

/-- The characters without a column of their own that keep the letters on either
side of them apart. -/
def separatingRanges : List (Nat × Nat) :=
  [(0x0605, 0x0605), (0x0890, 0x0891), (0x08E2, 0x08E2), (0x09BE, 0x09BE), (0x09D7, 0x09D7),
   (0x0B3E, 0x0B3E), (0x0B57, 0x0B57), (0x0BBE, 0x0BBE), (0x0BD7, 0x0BD7), (0x0CC0, 0x0CC2),
   (0x0CC7, 0x0CCB), (0x0CD5, 0x0CD6), (0x0D3E, 0x0D3E), (0x0D4E, 0x0D57), (0x0DCF, 0x0DCF),
   (0x0DDF, 0x0DDF), (0x1160, 0x11FF), (0x180E, 0x180E), (0x1B35, 0x1B35), (0x1B3B, 0x1B3B),
   (0x1B3D, 0x1B3D), (0x1B43, 0x1B43), (0x200C, 0x200D), (0x2065, 0x2069), (0x302E, 0x302F),
   (0x3164, 0x3164), (0xA8FA, 0xA8FA), (0xD7B0, 0xD7FB), (0xFF9E, 0xFFF8), (0x111C2, 0x111C3),
   (0x1133E, 0x1133E), (0x11357, 0x11357), (0x114B0, 0x114B0), (0x114BD, 0x114BD),
   (0x115AF, 0x115AF), (0x11930, 0x11930), (0x1193F, 0x11941), (0x11A3A, 0x11A3A),
   (0x11A84, 0x11A89), (0x11D46, 0x11D46), (0x11F02, 0x11F02), (0x1D165, 0x1D165),
   (0x1D16E, 0x1D172), (0xE0000, 0xE0000), (0xE0002, 0xE001F), (0xE0080, 0xE00FF),
   (0xE01F0, 0xE0FFF)]

/-- Whether a character between a lam and an alef leaves them one sign. -/
def staysBetween (c : Char) : Bool := ofChar c == 0 && !within separatingRanges c

/-! ## Other scripts -/

/-- **A letter that can be one sign with what is in front of it.** -/
inductive Letter where
  /-- The Hebrew lamed, behind an alef joined to it. -/
  | lamed
  /-- The Buginese ya, behind a vowel sign joined to it. -/
  | ya
  /-- The Buginese ya with that vowel sign, behind an a. -/
  | yaWithSign
  | tifinagh
  /-- A Tifinagh letter with the sign that joins it to another one. -/
  | tifinaghWithJoin
  /-- A Lisu tone, behind another one that it combines with. -/
  | lisuTone
  /-- The Old Turkic i, behind an ec joined to it. -/
  | orkhonI
  /-- A Khmer letter that the sign in front of it puts under another one. -/
  | khmer
  deriving DecidableEq, Repr

namespace Letter

/-- Whether a character is a Tifinagh letter. -/
def isTifinagh (c : Char) : Bool := within [(0x2D31, 0x2D65), (0x2D6F, 0x2D6F)] c

/-- The letter that a character is, if it is one of those that matter here. -/
def ofChar? (c : Char) : Option Letter :=
  if c = '\u05dc' then some lamed
  else if c = '\u1a10' then some ya
  else if isTifinagh c then some tifinagh
  else if within [(0xA4FC, 0xA4FD)] c then some lisuTone
  else if within [(0x10C03, 0x10C03)] c then some orkhonI
  else if within [(0x1780, 0x1782), (0x1784, 0x1787), (0x1789, 0x178C), (0x178E, 0x1793),
    (0x1795, 0x1798), (0x179B, 0x179D), (0x17A0, 0x17A0), (0x17A2, 0x17A2), (0x17A7, 0x17A7),
    (0x17AB, 0x17AC), (0x17AF, 0x17AF)] c then some khmer
  else none

/-- Whether a character between two letters changes nothing about them. -/
def isPassedOver (c : Char) : Bool :=
  within [(0x034F, 0x034F), (0x17B4, 0x17B5), (0x180B, 0x180D), (0x180F, 0x180F),
    (0xFE00, 0xFE0F), (0xE0100, 0xE01EF)] c

/-- The columns that a character takes in front of a letter if the two are one
sign, and the letter that this sign is in turn. Some letters make a sign only if
they are joined to the character. A character takes back a column if the letter
is written where it takes none. -/
def sign? (c : Char) (joined : Bool) : Letter → Option (Int × Option Letter)
  | lamed => if joined && c = '\u05d0' then some (0, none) else none
  | ya => if joined && c = '\u1a17' then some (0, some yaWithSign) else none
  | yaWithSign => if c = '\u1a15' then some (0, none) else none
  | tifinagh =>
    if c = '\u2d7f' then some (1, some tifinaghWithJoin)
    else if joined && isTifinagh c then some (0, none)
    else none
  | tifinaghWithJoin => if isTifinagh c then some (-1, none) else none
  | lisuTone => if within [(0xA4F8, 0xA4FB)] c then some (0, none) else none
  | orkhonI => if joined && within [(0x10C32, 0x10C32)] c then some (0, none) else none
  | khmer => if c = '\u17d2' then some (-1, none) else none

end Letter

end SlottedFile.Text.Width
