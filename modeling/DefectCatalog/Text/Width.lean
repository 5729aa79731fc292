import DefectCatalog.Text.Cut
import DefectCatalog.Text.WidthTable

/-!
# Cell widths

How many terminal cells a text takes.  Most characters take the width of
`printedWidth`, whatever stands around them.  The exceptions are a carriage
return with its line feed, emoji with a selector, a skin tone, a joiner or a tag,
and the ligatures of some scripts.  What they are is known at their last
character, so the characters are counted from the end of the text, and `Behind`
says what has been passed.
-/

namespace DefectCatalog.Text

/-- Whether `c` is a control character. -/
def isControl (c : Char) : Bool :=
  c.toNat < 0x20 || (0x7F ≤ c.toNat && c.toNat < 0xA0)

/-- The cells of a printed character. -/
def printedWidth (c : Char) : Nat :=
  if c.toNat < 0x300 then (if c.toNat == 0xAD then 0 else 1)
  else if c.toNat == 0x17D8 then 3
  else if inRanges zeroWidthRanges c.toNat then 0
  else if inRanges wideRanges c.toNat then 2
  else 1

/-- Whether `c` is the joiner of emoji and letters. -/
def isJoiner (c : Char) : Bool :=
  c.toNat == 0x200D

/-- Whether `c` asks for the emoji form of the character before it. -/
def isEmojiSelector (c : Char) : Bool :=
  c.toNat == 0xFE0F

/-- Whether `c` asks for the text form of the character before it. -/
def isTextSelector (c : Char) : Bool :=
  c.toNat == 0xFE0E

/-- Whether `c` is a skin tone. -/
def isModifier (c : Char) : Bool :=
  0x1F3FB ≤ c.toNat && c.toNat ≤ 0x1F3FF

/-- Whether `c` is a letter that makes flags in pairs. -/
def isRegional (c : Char) : Bool :=
  0x1F1E6 ≤ c.toNat && c.toNat ≤ 0x1F1FF

/-- What stands behind a character, as far as its width may depend on it. -/
inductive Behind where
  | nothing
  | lineFeed
  /-- A skin tone. -/
  | modifier
  /-- A letter of a flag. -/
  | regional
  /-- Several letters of flags. -/
  | regionals
  | emoji
  /-- A joiner with an emoji behind it. -/
  | joinedEmoji
  /-- The frame of a key before a joiner. -/
  | joinedKeycap
  /-- A letter of a flag before a joiner; or an even or odd number of them. -/
  | joinedRegional
  | joinedEven
  | joinedOdd
  /-- The end of a tag before a joiner, with so many letters of the tag. -/
  | joinedLetters (n : Nat)
  /-- The end of a tag before a joiner, with so many digits of the tag. -/
  | joinedDigits (n : Nat)
  /-- The Arabic letter group alef. -/
  | alef
  /-- The Hebrew letter lamed, and whether a joiner stands before it. -/
  | lamed (joined : Bool)
  /-- The Buginese letter ya, and whether a joiner stands before it. -/
  | ya (joined : Bool)
  /-- The Buginese vowel sign that a joiner ties to the letter ya. -/
  | vowelYa
  /-- A Tifinagh consonant, and whether a joiner stands before it. -/
  | consonant (joined : Bool)
  /-- The sign that ties Tifinagh consonants, before a consonant. -/
  | tiedConsonant
  /-- The second half of a Lisu tone. -/
  | tone
  /-- The Old Turkic letter i, and whether a joiner stands before it. -/
  | orkhonI (joined : Bool)
  /-- A Khmer letter that can be written under another one. -/
  | subscript
  /-- The Kirat Rai vowel signs e and ai. -/
  | vowelE
  | vowelAi
deriving DecidableEq, Repr

namespace Behind

/-- Whether a ligature of letters may begin here; selectors do not break it. -/
def isLigature : Behind → Bool
  | alef | lamed _ | ya _ | vowelYa | consonant _ | tiedConsonant | tone | orkhonI _
  | subscript => true
  | _ => false

/-- Whether characters of no width do not break the ligature. -/
def isTransparent (b : Behind) : Bool :=
  b.isLigature && b != alef

/-- A joiner before the letters of a ligature. -/
def join : Behind → Behind
  | lamed _ => lamed true
  | ya _ => ya true
  | consonant _ => consonant true
  | orkhonI _ => orkhonI true
  | b => b

/-- Whether a joiner ties an emoji before it. -/
def tiesEmoji (b : Behind) : Bool :=
  b == joinedEmoji || b == joinedKeycap

end Behind

/-- A selector of the form of the character before it. -/
inductive Selector where
  | text
  | emoji
deriving DecidableEq, Repr

/-- What has been passed of a text, counted from its end. -/
structure WidthContext where
  behind : Behind := .nothing
  selector : Option Selector := none
deriving DecidableEq, Repr

namespace WidthContext

/-- A selector in front of what has been passed. -/
def select (s : WidthContext) (form : Selector) : WidthContext :=
  if s.behind.isLigature || (form = .emoji && s.behind.tiesEmoji) then ⟨s.behind, some form⟩
  else ⟨.nothing, some form⟩

/-- A selector without effect, which leaves ligatures alone. -/
def unselect (s : WidthContext) : WidthContext :=
  if s.behind.isLigature then ⟨s.behind, none⟩ else {}

end WidthContext

/-- What a character is to those before it. -/
def behindOf (c : Char) : Behind :=
  if isModifier c then .modifier
  else if isRegional c then .regional
  else if inRanges emojiPresentationRanges c.toNat then .emoji
  else if inRanges alefRanges c.toNat then .alef
  else if c.toNat == 0x05DC then .lamed false
  else if c.toNat == 0x1A10 then .ya false
  else if inRanges tifinaghRanges c.toNat then .consonant false
  else if c.toNat == 0xA4FC || c.toNat == 0xA4FD then .tone
  else if c.toNat == 0x10C03 then .orkhonI false
  else if inRanges khmerLetterRanges c.toNat then .subscript
  else if c.toNat == 0x16D67 then .vowelE
  else if c.toNat == 0x16D68 then .vowelAi
  else .nothing

/-- Whether the emoji form can be asked for a character. -/
def hasEmojiForm (c : Char) : Bool :=
  inRanges textEmojiRanges c.toNat || inRanges textFormRanges c.toNat

/-- Whether the text form can be asked for a character that is shown as an emoji and takes a
cell then. -/
def hasTextForm (c : Char) : Bool :=
  inRanges textFormRanges c.toNat && !(0x1F200 ≤ c.toNat && c.toNat ≤ 0x1F2FF)

/-- What `c` adds to the cells of what stands behind it if it is tied to that, and what then
stands behind the next character. -/
def tie? (b : Behind) (c : Char) : Option (Int × Behind) :=
  match b with
  | .alef =>
    if inRanges lamRanges c.toNat then some (0, .nothing)
    else if printedWidth c = 0 && !inRanges untiedRanges c.toNat then some (0, .alef)
    else none
  | .lamed true => if c.toNat == 0x05D0 then some (0, .nothing) else none
  | .subscript => if c.toNat == 0x17D2 then some (-1, .nothing) else none
  | .ya true => if c.toNat == 0x1A17 then some (0, .vowelYa) else none
  | .vowelYa => if c.toNat == 0x1A15 then some (0, .nothing) else none
  | .consonant joined =>
    if c.toNat == 0x2D7F then some (1, .tiedConsonant)
    else if joined && inRanges tifinaghRanges c.toNat then some (0, .nothing)
    else none
  | .tiedConsonant => if inRanges tifinaghRanges c.toNat then some (-1, .nothing) else none
  | .tone => if 0xA4F8 ≤ c.toNat && c.toNat ≤ 0xA4FB then some (0, .nothing) else none
  | .orkhonI true => if c.toNat == 0x10C32 then some (0, .nothing) else none
  | .vowelE =>
    if c.toNat == 0x16D63 then some (0, .nothing)
    else if c.toNat == 0x16D67 then some (0, .vowelAi)
    else if c.toNat == 0x16D68 then some (1, .vowelE)
    else if c.toNat == 0x16D69 then some (0, .nothing)
    else none
  | .vowelAi => if c.toNat == 0x16D63 then some (0, .nothing) else none
  | .modifier =>
    if inRanges modifierBaseRanges c.toNat then some (0, .emoji)
    else if isJoiner c then some (0, .joinedEmoji)
    else none
  | .regional => if isRegional c then some (1, .regionals) else none
  | .regionals =>
    if isRegional c then some (1, .regionals)
    else if isJoiner c then some (0, .joinedEmoji)
    else none
  | .emoji => if isJoiner c then some (0, .joinedEmoji) else none
  | .joinedEmoji =>
    if c.toNat == 0x20E3 then some (0, .joinedKeycap)
    else if isRegional c then some (1, .joinedRegional)
    else if isModifier c then some (0, .modifier)
    else if c.toNat == 0xE007F then some (0, .joinedLetters 0)
    else if behindOf c = .emoji then some (0, .emoji)
    else none
  | .joinedRegional => if isRegional c then some (-1, .joinedEven) else none
  | .joinedEven =>
    if isRegional c then some (3, .joinedOdd)
    else if isJoiner c then some (0, .joinedEmoji)
    else none
  | .joinedOdd =>
    if isRegional c then some (-1, .joinedEven)
    else if isJoiner c then some (0, .joinedEmoji)
    else none
  | .joinedLetters n =>
    if n < 6 && 0xE0061 ≤ c.toNat && c.toNat ≤ 0xE007A then some (0, .joinedLetters (n + 1))
    else if n < 5 && 0xE0030 ≤ c.toNat && c.toNat ≤ 0xE0039 then some (0, .joinedDigits 1)
    else if 3 ≤ n && c.toNat == 0x1F3F4 then some (0, .emoji)
    else none
  | .joinedDigits n =>
    if n < 3 && 0xE0030 ≤ c.toNat && c.toNat ≤ 0xE0039 then some (0, .joinedDigits (n + 1))
    else if n == 3 && c.toNat == 0x1F3F4 then some (0, .emoji)
    else none
  | _ => none

/-- What a character adds to the cells of what stands behind it, without regard to selectors. -/
def unselectedStep (b : Behind) (c : Char) : Int × WidthContext :=
  if b.isTransparent && isJoiner c then (0, ⟨b.join, none⟩)
  else if b.isTransparent && inRanges transparentRanges c.toNat then (0, ⟨b, none⟩)
  else
    match tie? b c with
    | some (n, b) => (n, ⟨b, none⟩)
    | none => (printedWidth c, ⟨behindOf c, none⟩)

/-- What a character adds to the cells of what stands behind it, and what then stands behind the
next one. -/
def widthStep (s : WidthContext) (c : Char) : Int × WidthContext :=
  if s.selector = some .emoji && hasEmojiForm c then
    (if s.behind.tiesEmoji then 0 else 2, ⟨.emoji, none⟩)
  else
    let s := if s.selector = some .emoji then s.unselect else s
    if c.toNat ≤ 0xA0 then
      if c = '\n' then (1, ⟨.lineFeed, none⟩)
      else if c = '\r' && s = ⟨.lineFeed, none⟩ then (0, {})
      else (1, {})
    else if isEmojiSelector c then (0, s.select .emoji)
    else if isTextSelector c then (0, s.select .text)
    else if s.selector = some .text && hasTextForm c then (1, {})
    else unselectedStep (if s.selector = some .text then s.unselect else s).behind c

/-- The cells of a text, and what it is to the characters before it. -/
def measured : List Char → Int × WidthContext
  | [] => (0, {})
  | c :: rest =>
    let (n, s) := measured rest
    let (more, s) := widthStep s c
    (n + more, s)

/-- The cells of a text. -/
def cells (s : List Char) : Nat :=
  (measured s).1.toNat

/-- The widths that the character database and the ligatures of the scripts give. -/
instance unicode : Measure where
  width s := cells s.toList
  charWidth c := if isControl c then 0 else printedWidth c

end DefectCatalog.Text
