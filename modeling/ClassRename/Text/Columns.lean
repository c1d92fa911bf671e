import ClassRename.Text.Emoji
import ClassRename.Text.Width

namespace ClassRename.Text

def isOneOf (scalar : Char) (ranges : List (Nat × Nat)) : Bool :=
  ranges.any fun (first, last) => first ≤ scalar.toNat && scalar.toNat ≤ last

inductive Merger where
  | arabicAlef
  | khmerSubscript
  | hebrewLamed
  | bugineseYa
  | bugineseVowelAndYa
  | tifinaghConsonant
  | tifinaghJoinerAndConsonant
  | lisuToneEnd
  | orkhonI
deriving Repr, DecidableEq

inductive Successor where
  | plain
  | letter (merger : Merger) (joined : Bool)
  | kiratRaiE
  | kiratRaiAi
  | skinTone
  | flagLetter
  | flagLetters
  | picture
  | joinedPicture
  | joinedKeycap
  | joinedFlagLetter
  | joinedFlagEven
  | joinedFlagOdd
  | joinedTag (letters digits : Nat)
deriving Repr, DecidableEq

inductive Presentation where
  | text
  | picture
  | fullWidth
deriving Repr, DecidableEq

-- Where selectors stand in a row in front of a letter that merges, the character before them is
-- asked by all of them; elsewhere only by the first.
structure Context where
  next : Successor
  asked : List Presentation
deriving Repr, DecidableEq

def Presentation.ofScalar? (scalar : Char) : Option Presentation :=
  if scalar = '\uFE0F' then some .picture
  else if scalar = '\uFE0E' then some .text
  else if scalar = '\uFE01' then some .fullWidth
  else none

def isWideningMark (scalar : Char) : Bool :=
  isOneOf scalar [(0x2018, 0x2019), (0x201C, 0x201D)]

def isJoiner (scalar : Char) : Bool := scalar = '\u200D'

def isTifinaghConsonant (scalar : Char) : Bool :=
  isOneOf scalar [(0x2D31, 0x2D65), (0x2D6F, 0x2D6F)]

def isMergeTransparent (scalar : Char) : Bool :=
  isOneOf scalar [(0x34F, 0x34F), (0x17B4, 0x17B5), (0x180B, 0x180D), (0x180F, 0x180F),
    (0xFE00, 0xFE0F), (0xE0100, 0xE01EF)]

def separatorRanges : Array (Nat × Nat) := #[
    (0x605, 0x605), (0x890, 0x891), (0x8E2, 0x8E2), (0x9BE, 0x9BE), (0x9D7, 0x9D7),
    (0xB3E, 0xB3E), (0xB57, 0xB57), (0xBBE, 0xBBE), (0xBD7, 0xBD7), (0xCC0, 0xCC0),
    (0xCC2, 0xCC2), (0xCC7, 0xCC8), (0xCCA, 0xCCB), (0xCD5, 0xCD6), (0xD3E, 0xD3E),
    (0xD4E, 0xD4E), (0xD57, 0xD57), (0xDCF, 0xDCF), (0xDDF, 0xDDF), (0x1160, 0x11FF),
    (0x1715, 0x1715), (0x1734, 0x1734), (0x180E, 0x180E), (0x1B35, 0x1B35), (0x1B3B, 0x1B3B),
    (0x1B3D, 0x1B3D), (0x1B43, 0x1B44), (0x1BAA, 0x1BAA), (0x1BF2, 0x1BF3), (0x200C, 0x200D),
    (0x2065, 0x2069), (0x302E, 0x302F), (0x3164, 0x3164), (0xA8FA, 0xA8FA), (0xA953, 0xA953),
    (0xA9C0, 0xA9C0), (0xD7B0, 0xD7C6), (0xD7CB, 0xD7FB), (0xFFA0, 0xFFA0), (0xFFF0, 0xFFF8),
    (0x111C0, 0x111C0), (0x111C2, 0x111C3), (0x11235, 0x11235), (0x1133E, 0x1133E),
    (0x1134D, 0x1134D), (0x11357, 0x11357), (0x113B8, 0x113B8), (0x113C2, 0x113C2),
    (0x113C5, 0x113C5), (0x113C7, 0x113C9), (0x113CF, 0x113CF), (0x113D1, 0x113D1),
    (0x114B0, 0x114B0), (0x114BD, 0x114BD), (0x115AF, 0x115AF), (0x116B6, 0x116B6),
    (0x11930, 0x11930), (0x1193D, 0x1193D), (0x1193F, 0x1193F), (0x11941, 0x11941),
    (0x11A84, 0x11A89), (0x11D46, 0x11D46), (0x11F02, 0x11F02), (0x11F41, 0x11F41),
    (0x16FF0, 0x16FF1), (0x1D165, 0x1D166), (0x1D16D, 0x1D172), (0x1D250, 0x1D252),
    (0x1D25F, 0x1D25F), (0x1D280, 0x1D281), (0xE0000, 0xE0000), (0xE0002, 0xE001F),
    (0xE0080, 0xE00FF), (0xE01F0, 0xE0FFF)]

def isArabicMark (scalar : Char) : Bool :=
  width scalar = 0 && !isWithin separatorRanges scalar

def Merger.ofScalar? (scalar : Char) : Option Merger :=
  if isOneOf scalar [(0x622, 0x623), (0x625, 0x625), (0x627, 0x627), (0x671, 0x673),
      (0x675, 0x675), (0x773, 0x774), (0x870, 0x882)] then some .arabicAlef
  else if isOneOf scalar [(0x1780, 0x1782), (0x1784, 0x1787), (0x1789, 0x178C),
      (0x178E, 0x1793), (0x1795, 0x1798), (0x179B, 0x179D), (0x17A0, 0x17A0),
      (0x17A2, 0x17A2), (0x17A7, 0x17A7), (0x17AB, 0x17AC), (0x17AF, 0x17AF)] then
    some .khmerSubscript
  else if scalar.toNat = 0x5DC then some .hebrewLamed
  else if scalar.toNat = 0x1A10 then some .bugineseYa
  else if isTifinaghConsonant scalar then some .tifinaghConsonant
  else if isOneOf scalar [(0xA4FC, 0xA4FD)] then some .lisuToneEnd
  else if scalar.toNat = 0x10C03 then some .orkhonI
  else none

def Merger.absorb? (merger : Merger) (joined : Bool) (scalar : Char) : Option (Int × Successor) :=
  if merger ≠ .arabicAlef && isJoiner scalar then some (0, .letter merger true)
  else if merger ≠ .arabicAlef && isMergeTransparent scalar then some (0, .letter merger joined)
  else match merger with
  | .arabicAlef =>
    if isOneOf scalar [(0x644, 0x644), (0x6B5, 0x6B8), (0x76A, 0x76A), (0x8A6, 0x8A6),
        (0x8C7, 0x8C7)] then some (0, .plain)
    else if isArabicMark scalar then some (0, .letter .arabicAlef false)
    else none
  | .khmerSubscript => if scalar.toNat = 0x17D2 then some (-1, .plain) else none
  | .hebrewLamed => if joined && scalar.toNat = 0x5D0 then some (0, .plain) else none
  | .bugineseYa =>
    if joined && scalar.toNat = 0x1A17 then some (0, .letter .bugineseVowelAndYa false) else none
  | .bugineseVowelAndYa => if scalar.toNat = 0x1A15 then some (0, .plain) else none
  | .tifinaghConsonant =>
    if scalar.toNat = 0x2D7F then some (1, .letter .tifinaghJoinerAndConsonant false)
    else if joined && isTifinaghConsonant scalar then some (0, .plain)
    else none
  | .tifinaghJoinerAndConsonant =>
    if isTifinaghConsonant scalar then some (-1, .plain) else none
  | .lisuToneEnd => if isOneOf scalar [(0xA4F8, 0xA4FB)] then some (0, .plain) else none
  | .orkhonI => if joined && scalar.toNat = 0x10C32 then some (0, .plain) else none

def Successor.ofScalar (scalar : Char) : Successor :=
  if isSkinTone scalar then .skinTone
  else if isFlagLetter scalar then .flagLetter
  else if isPicture scalar then .picture
  else if scalar.toNat = 0x16D67 then .kiratRaiE
  else if scalar.toNat = 0x16D68 then .kiratRaiAi
  else match Merger.ofScalar? scalar with
  | some merger => .letter merger false
  | none => .plain

def absorbTag? (letters digits : Nat) (scalar : Char) : Option (Int × Successor) :=
  if isOneOf scalar [(0xE0061, 0xE007A)] then
    if digits = 0 && letters < 6 then some (0, .joinedTag (letters + 1) 0) else none
  else if isOneOf scalar [(0xE0030, 0xE0039)] then
    if digits < 3 && letters ≤ 4 then some (0, .joinedTag 0 (digits + 1)) else none
  else if scalar.toNat = 0x1F3F4 then
    if digits = 3 || (digits = 0 && 3 ≤ letters) then some (0, .picture) else none
  else none

-- The columns that a character adds where it merges with what stands to its right. Of a row of
-- flag letters each two from the left make one flag, so where a picture is joined to the last
-- flag, another letter in front splits the row anew.
def Successor.absorb? (next : Successor) (scalar : Char) : Option (Int × Successor) :=
  match next with
  | .plain | .joinedKeycap => none
  | .letter merger joined => merger.absorb? joined scalar
  | .kiratRaiE =>
    if isOneOf scalar [(0x16D63, 0x16D63), (0x16D69, 0x16D69)] then some (0, .plain)
    else if scalar.toNat = 0x16D67 then some (0, .kiratRaiAi)
    else if scalar.toNat = 0x16D68 then some (1, .kiratRaiE)
    else none
  | .kiratRaiAi => if scalar.toNat = 0x16D63 then some (0, .plain) else none
  | .skinTone =>
    if isToneable scalar then some (0, .picture)
    else if isJoiner scalar then some (0, .joinedPicture)
    else none
  | .flagLetter => if isFlagLetter scalar then some (1, .flagLetters) else none
  | .flagLetters =>
    if isFlagLetter scalar then some (1, .flagLetters)
    else if isJoiner scalar then some (0, .joinedPicture)
    else none
  | .picture => if isJoiner scalar then some (0, .joinedPicture) else none
  | .joinedPicture =>
    if scalar = '\u20E3' then some (0, .joinedKeycap)
    else if isFlagLetter scalar then some (1, .joinedFlagLetter)
    else if isSkinTone scalar then some (0, .skinTone)
    else if scalar.toNat = 0xE007F then some (0, .joinedTag 0 0)
    else if isPicture scalar then some (0, .picture)
    else none
  | .joinedFlagLetter => if isFlagLetter scalar then some (-1, .joinedFlagEven) else none
  | .joinedFlagEven =>
    if isFlagLetter scalar then some (3, .joinedFlagOdd)
    else if isJoiner scalar then some (0, .joinedPicture)
    else none
  | .joinedFlagOdd =>
    if isFlagLetter scalar then some (-1, .joinedFlagEven)
    else if isJoiner scalar then some (0, .joinedPicture)
    else none
  | .joinedTag letters digits => absorbTag? letters digits scalar

def Context.unselected (right : Context) : Successor :=
  match right.asked, right.next with
  | [], next => next
  | _, .letter merger joined => .letter merger joined
  | _, _ => .plain

def Context.select (right : Context) (selector : Presentation) : Context :=
  match right.unselected, selector with
  | .letter merger joined, _ =>
    ⟨.letter merger joined, selector :: right.asked.filter (· ≠ .picture)⟩
  | .joinedPicture, .picture => ⟨.joinedPicture, [.picture]⟩
  | .joinedKeycap, .picture => ⟨.joinedKeycap, [.picture]⟩
  | _, _ => ⟨.plain, [selector]⟩

def Context.place (right : Context) (scalar : Char) : Int × Context :=
  if right.asked.contains .picture && isSelectable scalar then
    let columns := if right.next = .joinedPicture || right.next = .joinedKeycap then 0 else 2
    (columns, ⟨.picture, []⟩)
  else if scalar.toNat < 0xA1 then (1, ⟨.plain, []⟩)
  else if right.asked.contains .text && isNarrowAsText scalar then (1, ⟨.plain, []⟩)
  else if right.asked.contains .fullWidth && isWideningMark scalar then (2, ⟨.plain, []⟩)
  else match Presentation.ofScalar? scalar with
  | some selector => (0, right.select selector)
  | none =>
    match right.unselected.absorb? scalar with
    | some (columns, next) => (columns, ⟨next, []⟩)
    | none => (width scalar, ⟨.ofScalar scalar, []⟩)

structure Layout where
  columns : Int
  context : Context
deriving Repr, DecidableEq

def Layout.empty : Layout := ⟨0, ⟨.plain, []⟩⟩

def Layout.prepend (scalar : Char) (right : Layout) : Layout :=
  let (added, context) := right.context.place scalar
  ⟨right.columns + added, context⟩

def columns (text : String) : Nat :=
  (text.toList.foldr Layout.prepend .empty).columns.toNat

end ClassRename.Text
