import SettingsConsole.Text.Combining
import SettingsConsole.Text.Emoji

/-!
# Width of text on the screen

A character takes one cell of the screen, two if it is wide, and none if it only changes another
one.  In a text the width of a character also depends on what follows it: a selector, a joiner or a
modifier, and letters that are written as one with it.  So a text is measured from its end.
-/

namespace SettingsConsole

namespace Text

/-! ## Single characters -/

/-- The ranges of wide characters; letters of flags are left out, since it takes two of them to fill
two cells. -/
def wideRanges : Ranges :=
  [(0x1100, 0x115F), (0x231A, 0x231B), (0x2329, 0x232A), (0x23E9, 0x23EC), (0x23F0, 0x23F0),
   (0x23F3, 0x23F3), (0x25FD, 0x25FE), (0x2614, 0x2615), (0x2630, 0x2637), (0x2648, 0x2653),
   (0x267F, 0x267F), (0x268A, 0x268F), (0x2693, 0x2693), (0x26A1, 0x26A1), (0x26AA, 0x26AB),
   (0x26BD, 0x26BE), (0x26C4, 0x26C5), (0x26CE, 0x26CE), (0x26D4, 0x26D4), (0x26EA, 0x26EA),
   (0x26F2, 0x26F3), (0x26F5, 0x26F5), (0x26FA, 0x26FA), (0x26FD, 0x26FD), (0x2705, 0x2705),
   (0x270A, 0x270B), (0x2728, 0x2728), (0x274C, 0x274C), (0x274E, 0x274E), (0x2753, 0x2755),
   (0x2757, 0x2757), (0x2795, 0x2797), (0x27B0, 0x27B0), (0x27BF, 0x27BF), (0x2B1B, 0x2B1C),
   (0x2B50, 0x2B50), (0x2B55, 0x2B55), (0x2E80, 0x2E99), (0x2E9B, 0x2EF3), (0x2F00, 0x2FD5),
   (0x2FF0, 0x303E), (0x3041, 0x3096), (0x3099, 0x30FF), (0x3105, 0x312F), (0x3131, 0x318E),
   (0x3190, 0x31E5), (0x31EF, 0x321E), (0x3220, 0x3247), (0x3250, 0xA48C), (0xA490, 0xA4C6),
   (0xA960, 0xA97C), (0xAC00, 0xD7A3), (0xF900, 0xFAFF), (0xFE10, 0xFE19), (0xFE30, 0xFE52),
   (0xFE54, 0xFE66), (0xFE68, 0xFE6B), (0xFF01, 0xFF60), (0xFFE0, 0xFFE6), (0x16FE0, 0x16FE4),
   (0x16FF0, 0x16FF6), (0x17000, 0x18CD5), (0x18CFF, 0x18D1E), (0x18D80, 0x18DF2),
   (0x1AFF0, 0x1AFF3), (0x1AFF5, 0x1AFFB), (0x1AFFD, 0x1AFFE), (0x1B000, 0x1B122),
   (0x1B132, 0x1B132), (0x1B150, 0x1B152), (0x1B155, 0x1B155), (0x1B164, 0x1B167),
   (0x1B170, 0x1B2FB), (0x1D300, 0x1D356), (0x1D360, 0x1D376), (0x1F004, 0x1F004),
   (0x1F0CF, 0x1F0CF), (0x1F18E, 0x1F18E), (0x1F191, 0x1F19A), (0x1F200, 0x1F202),
   (0x1F210, 0x1F23B), (0x1F240, 0x1F248), (0x1F250, 0x1F251), (0x1F260, 0x1F265),
   (0x1F300, 0x1F320), (0x1F32D, 0x1F335), (0x1F337, 0x1F37C), (0x1F37E, 0x1F393),
   (0x1F3A0, 0x1F3CA), (0x1F3CF, 0x1F3D3), (0x1F3E0, 0x1F3F0), (0x1F3F4, 0x1F3F4),
   (0x1F3F8, 0x1F43E), (0x1F440, 0x1F440), (0x1F442, 0x1F4FC), (0x1F4FF, 0x1F53D),
   (0x1F54B, 0x1F54E), (0x1F550, 0x1F567), (0x1F57A, 0x1F57A), (0x1F595, 0x1F596),
   (0x1F5A4, 0x1F5A4), (0x1F5FB, 0x1F64F), (0x1F680, 0x1F6C5), (0x1F6CC, 0x1F6CC),
   (0x1F6D0, 0x1F6D2), (0x1F6D5, 0x1F6D8), (0x1F6DC, 0x1F6DF), (0x1F6EB, 0x1F6EC),
   (0x1F6F4, 0x1F6FC), (0x1F7E0, 0x1F7EB), (0x1F7F0, 0x1F7F0), (0x1F90C, 0x1F93A),
   (0x1F93C, 0x1F945), (0x1F947, 0x1F9FF), (0x1FA70, 0x1FA7C), (0x1FA80, 0x1FA8A),
   (0x1FA8E, 0x1FAC6), (0x1FAC8, 0x1FAC8), (0x1FACD, 0x1FADC), (0x1FADF, 0x1FAEA),
   (0x1FAEF, 0x1FAF8), (0x20000, 0x2FFFD), (0x30000, 0x3FFFD)]

/-- The ranges of characters with the property `Default_Ignorable_Code_Point`. -/
def ignorableRanges : Ranges :=
  [(0xAD, 0xAD), (0x34F, 0x34F), (0x61C, 0x61C), (0x115F, 0x1160), (0x17B4, 0x17B5),
   (0x180B, 0x180F), (0x200B, 0x200F), (0x202A, 0x202E), (0x2060, 0x206F), (0x3164, 0x3164),
   (0xFE00, 0xFE0F), (0xFEFF, 0xFEFF), (0xFFA0, 0xFFA0), (0xFFF0, 0xFFF8), (0x1BCA0, 0x1BCA3),
   (0x1D173, 0x1D17A), (0xE0000, 0xE0FFF)]

/-- The ranges of the later letters of a Korean syllable, which share its cells. -/
def laterJamoRanges : Ranges := [(0x1160, 0x11FF), (0xD7B0, 0xD7C6), (0xD7CB, 0xD7FB)]

/-- The ranges of the marks that stand before the character they are written over. -/
def leadingMarkRanges : Ranges :=
  [(0x605, 0x605), (0x70F, 0x70F), (0x890, 0x891), (0x8E2, 0x8E2), (0xD4E, 0xD4E),
   (0xA8FA, 0xA8FA), (0x111C2, 0x111C3), (0x113D1, 0x113D1), (0x1193F, 0x1193F),
   (0x11941, 0x11941), (0x11A84, 0x11A89), (0x11D46, 0x11D46), (0x11F02, 0x11F02)]

/-- Whether a character is a control character. -/
def isControl (c : Char) : Bool := c.toNat < 0x20 || (0x7F ≤ c.toNat && c.toNat < 0xA0)

/-- Whether a character is a voicing mark of half width. -/
def isVoicingMark (c : Char) : Bool := c = '\uff9e' || c = '\uff9f'

/-- The cells a character takes by itself; it counts one for a control character, which is not
drawn. -/
def charWidth (c : Char) : Nat :=
  if c.toNat ≤ 0xA0 then 1
  else if c = '\u115f' || c = '\u17a4' then 2
  else if c = '\u17d8' then 3
  else if c = '\u2d7f' || isVoicingMark c then 1
  else if isCombining c || liesIn ignorableRanges c || liesIn laterJamoRanges c ||
    liesIn leadingMarkRanges c then 0
  else if liesIn wideRanges c then 2
  else 1

/-! ## Letters that are written as one -/

/-- The last part of letters that are written as one. -/
inductive Ligature where
  | lamed
  | ya
  /-- The vowel sign and the letter of a Buginese ligature. -/
  | vowelYa
  | tifinagh
  /-- A Tifinagh consonant after its joiner. -/
  | joinedTifinagh
  | lisuTone
  | orkhonI
  | khmerLetter
  | kiratE
  | kiratAi
  deriving DecidableEq, Repr

/-- The ranges of the Khmer letters that are written below another one. -/
def khmerRanges : Ranges :=
  [(0x1780, 0x1782), (0x1784, 0x1787), (0x1789, 0x178C), (0x178E, 0x1793), (0x1795, 0x1798),
   (0x179B, 0x179D), (0x17A0, 0x17A0), (0x17A2, 0x17A2), (0x17A7, 0x17A7), (0x17AB, 0x17AC),
   (0x17AF, 0x17AF)]

/-- Whether a character is a Tifinagh consonant. -/
def isTifinagh (c : Char) : Bool := liesIn [(0x2D31, 0x2D65), (0x2D6F, 0x2D6F)] c

/-- Whether a character is a form of the Arabic letter alef. -/
def isAlef (c : Char) : Bool :=
  liesIn [(0x622, 0x623), (0x625, 0x625), (0x627, 0x627), (0x671, 0x673), (0x675, 0x675),
    (0x773, 0x774), (0x870, 0x882)] c

/-- Whether a character is a form of the Arabic letter lam. -/
def isLam (c : Char) : Bool :=
  liesIn [(0x644, 0x644), (0x6B5, 0x6B8), (0x76A, 0x76A), (0x8A6, 0x8A6), (0x8C7, 0x8C7)] c

/-- The ligature that a character may be the last part of. -/
def ligature? (c : Char) : Option Ligature :=
  if c = '\u05dc' then some .lamed
  else if c = '\u1a10' then some .ya
  else if isTifinagh c then some .tifinagh
  else if liesIn [(0xA4FC, 0xA4FD)] c then some .lisuTone
  else if c.toNat = 0x10C03 then some .orkhonI
  else if liesIn khmerRanges c then some .khmerLetter
  else if c.toNat = 0x16D67 then some .kiratE
  else if c.toNat = 0x16D68 then some .kiratAi
  else none

/-- What a character before the end of a ligature adds to the width, and the ligature that it makes
with it; `joined` says that a joiner stands between the two. -/
def Ligature.extend? (joined : Bool) (c : Char) : Ligature → Option (Int × Option Ligature)
  | .lamed => if joined && c = '\u05d0' then some (0, none) else none
  | .ya => if joined && c = '\u1a17' then some (0, some .vowelYa) else none
  | .vowelYa => if c = '\u1a15' then some (0, none) else none
  | .tifinagh =>
    if c = '\u2d7f' then some (1, some .joinedTifinagh)
    else if joined && isTifinagh c then some (0, none)
    else none
  | .joinedTifinagh => if isTifinagh c then some (-1, none) else none
  | .lisuTone => if liesIn [(0xA4F8, 0xA4FB)] c then some (0, none) else none
  | .orkhonI => if joined && c.toNat = 0x10C32 then some (0, none) else none
  | .khmerLetter => if c = '\u17d2' then some (-1, none) else none
  | .kiratE =>
    if c.toNat = 0x16D63 || c.toNat = 0x16D69 then some (0, none)
    else if c.toNat = 0x16D67 then some (0, some .kiratAi)
    else none
  | .kiratAi => if c.toNat = 0x16D63 then some (0, none) else none

/-! ## Texts -/

/-- The style that a selector asks for. -/
inductive Selected where
  | text
  | emoji
  deriving DecidableEq, Repr

/-- What follows a character, as far as it matters for its width. -/
inductive Following where
  | other
  | emoji
  | modifier
  | flagLetter
  /-- Two or more letters of flags. -/
  | flagLetters
  /-- A joiner and a coloured picture. -/
  | joinedEmoji
  | joinedKeycap
  | joinedFlagLetter
  /-- An even number of letters of flags before a joiner and a coloured picture. -/
  | joinedFlags
  /-- An odd number of them, three or more. -/
  | joinedFlagsAndLetter
  | alef
  | ligature (l : Ligature) (joined : Bool)
  deriving DecidableEq, Repr

namespace Following

/-- Whether it is still there behind a selector. -/
def outlastsSelector : Following → Bool
  | alef | ligature _ _ => true
  | _ => false

/-- Whether a character in colour becomes part of it. -/
def takesIn : Following → Bool
  | joinedEmoji | joinedKeycap => true
  | _ => false

/-- What a character of no special width is followed by, once it stands before the rest. -/
def ofChar (c : Char) : Following :=
  if isModifier c then modifier
  else if isFlagLetter c then flagLetter
  else if isEmoji c then emoji
  else if isAlef c then alef
  else match ligature? c with
    | some l => ligature l false
    | none => other

/-- What a character adds to the width before something that it makes one with. -/
def extend? (c : Char) : Following → Option (Int × Following)
  | other => none
  | emoji => if c = joiner then some (0, joinedEmoji) else none
  | modifier =>
    if takesModifier c then some (0, emoji)
    else if c = joiner then some (0, joinedEmoji)
    else none
  | flagLetter => if isFlagLetter c then some (1, flagLetters) else none
  | flagLetters =>
    if isFlagLetter c then some (1, flagLetters)
    else if c = joiner then some (0, joinedEmoji)
    else none
  | joinedEmoji =>
    if c = keycap then some (0, joinedKeycap)
    else if isFlagLetter c then some (1, joinedFlagLetter)
    else if isModifier c then some (0, modifier)
    else if isEmoji c then some (0, emoji)
    else none
  | joinedKeycap => none
  | joinedFlagLetter => if isFlagLetter c then some (-1, joinedFlags) else none
  | joinedFlags =>
    if isFlagLetter c then some (3, joinedFlagsAndLetter)
    else if c = joiner then some (0, joinedEmoji)
    else none
  | joinedFlagsAndLetter =>
    if isFlagLetter c then some (-1, joinedFlags)
    else if c = joiner then some (0, joinedEmoji)
    else none
  | alef =>
    if isLam c then some (0, other)
    else if isCombining c && c ≠ '\u200c' then some (0, alef)
    else none
  | ligature l joined =>
    if c = joiner then some (0, ligature l true)
    else if isCombining c && liesIn ignorableRanges c then some (0, ligature l joined)
    else (l.extend? joined c).map fun (n, l') =>
      (n, match l' with
        | some l' => ligature l' true
        | none => other)

end Following

/-- A selector, if one comes next, and what follows then. -/
structure Ahead where
  selected : Option Selected
  following : Following
  deriving DecidableEq, Repr

namespace Ahead

/-- Nothing of interest. -/
def nothing : Ahead := ⟨none, .other⟩

/-- What is ahead of a character that the selector means nothing to. -/
def unselected (a : Ahead) : Following :=
  if a.selected.isSome && !a.following.outlastsSelector then .other else a.following

/-- A selector before the rest. -/
def select (s : Selected) (a : Ahead) : Ahead :=
  let stays := a.following.outlastsSelector ||
    (s = .emoji && a.selected = none && a.following.takesIn)
  ⟨some s, if stays then a.following else .other⟩

/-- What a character adds to the width of a text, and what is ahead of the character before it. -/
def before (a : Ahead) (c : Char) : Int × Ahead :=
  if a.selected = some .emoji && takesEmojiStyle c then
    (if a.following.takesIn then 0 else 2, ⟨none, .emoji⟩)
  else if c.toNat ≤ 0xA0 then (1, nothing)
  else if c = emojiSelector then (0, a.select .emoji)
  else if c = textSelector then (0, a.select .text)
  else if a.selected = some .text && takesTextStyle c then (1, nothing)
  else
    match a.unselected.extend? c with
    | some (n, following) => (n, ⟨none, following⟩)
    | none => (charWidth c, ⟨none, .ofChar c⟩)

end Ahead

/-- The width of a text, and what it puts ahead of a character before it. -/
def measure : List Char → Int × Ahead
  | [] => (0, .nothing)
  | c :: rest =>
    let (n, ahead) := measure rest
    let (own, ahead) := ahead.before c
    (own + n, ahead)

/-- The width of a text in cells. -/
def width (cs : List Char) : Nat := (measure cs).1.toNat

/-- The cells that are set aside for what is drawn together: its width, and one more for each
voicing mark of half width. -/
def cells (cs : List Char) : Nat := width cs + cs.countP isVoicingMark

example : ["e\u0301名", "👩\u200d💻", "👍🏽", "1\ufe0f\u20e3", "⌚\ufe0e", "لا", "क\u094dष"].map
    (fun s => width s.toList) = [3, 2, 2, 2, 1, 1, 2] := by decide +kernel

end Text

end SettingsConsole
