import SpeciesBrowser.Text.Emoji
import SpeciesBrowser.Text.Extending
import SpeciesBrowser.Text.Ignorable
import SpeciesBrowser.Text.WidthTable

/-!
# Display width

How many columns a text takes on a terminal. Most characters take the same number
wherever they stand; ligatures and pictures of several characters do not. So a text is
measured from its end, and each character is given what its followers can still be joined
with.

Main statement: a text of printable ASCII has the width of its length.
-/

namespace SpeciesBrowser.Text

def isControl (symbol : Char) : Bool :=
  symbol.toNat < 0x20 || isBetween 0x7f 0x9f symbol

/-! ## Characters by themselves -/

/-- Whether a character takes no column. The filler of initials, the joiner of Tifinagh and
the sound marks of narrow kana do, though they extend a character or may be ignored. -/
def isColumnless (symbol : Char) : Bool :=
  inRanges columnlessRanges symbol ||
    ((isExtending symbol || isIgnorable symbol) &&
      !(symbol = '\u115f' || symbol = '\u2d7f' || isKanaSoundMark symbol))

def charWidth (symbol : Char) : Nat :=
  if symbol.toNat ≤ 0xa0 then 1
  else if symbol = '\u17d8' then 3
  else if isColumnless symbol then 0
  else if inRanges wideRanges symbol then 2
  else 1

/-! ## What follows a character -/

/-- The last part of a ligature of letters. -/
inductive LigaturePart where
  | alef
  | lamed
  | ya
  | vowelAndYa
  | tifinagh
  | linkedTifinagh
  | tone
  | orkhonI
  | subjoined
deriving DecidableEq, Repr

/-- What the characters after a place begin with. A joiner stands for itself and the
picture after it, and so do a joiner before the frame of a key and a tag. -/
inductive Follower where
  | nothing
  | lineFeed
  | part (part : LigaturePart) (joined : Bool)
  | vowelE
  | vowelAi
  | picture
  | skinTone
  | flagLetter
  | flagLetters
  | joiner
  | keyJoiner
  | joinedFlagLetter
  | joinedFlags
  | joinedFlagsAndLetter
  | tags (letters digits : Nat)
deriving DecidableEq, Repr

/-- The selectors by which a character asks to be shown plain or as a picture. -/
inductive Selector where
  | plain
  | picture
deriving DecidableEq, Repr

/-- What follows a place: perhaps a selector, and what is behind it if that still counts. -/
structure Following where
  follower : Follower := .nothing
  selector : Option Selector := none
deriving DecidableEq, Repr

namespace Following

/-- Put a selector in front. Parts of ligatures stay in reach behind it, and a joiner does
behind the selector for pictures. -/
def select (following : Following) (selector : Selector) : Following :=
  match following.follower, selector with
  | .part .., _ | .joiner, .picture | .keyJoiner, .picture => { following with selector }
  | _, _ => { selector }

/-- What follows a character that the selector does not concern. -/
def unselected (following : Following) : Following :=
  match following.selector, following.follower with
  | none, _ => following
  | some _, .part .. => { following with selector := none }
  | some _, _ => {}

def isJoined (following : Following) : Bool :=
  following.follower = .joiner || following.follower = .keyJoiner

end Following

/-! ## Ligatures of letters -/

def isAlef (symbol : Char) : Bool :=
  inRanges #[(0x622, 0x623), (0x625, 0x625), (0x627, 0x627), (0x671, 0x673), (0x675, 0x675),
    (0x773, 0x774), (0x870, 0x882)] symbol

def isLam (symbol : Char) : Bool :=
  inRanges #[(0x644, 0x644), (0x6b5, 0x6b8), (0x76a, 0x76a), (0x8a6, 0x8a6), (0x8c7, 0x8c7)]
    symbol

/-- Khmer letters that can be written below another one. -/
def isSubjoinable (symbol : Char) : Bool :=
  inRanges #[(0x1780, 0x1782), (0x1784, 0x1787), (0x1789, 0x178c), (0x178e, 0x1793),
    (0x1795, 0x1798), (0x179b, 0x179d), (0x17a0, 0x17a0), (0x17a2, 0x17a2), (0x17a7, 0x17a7),
    (0x17ab, 0x17ac), (0x17af, 0x17af)] symbol

def isTifinagh (symbol : Char) : Bool := isBetween 0x2d31 0x2d65 symbol || symbol = '\u2d6f'

def ligaturePart? (symbol : Char) : Option LigaturePart :=
  if symbol = '\u05dc' then some .lamed
  else if isAlef symbol then some .alef
  else if isSubjoinable symbol then some .subjoined
  else if symbol = '\u1a10' then some .ya
  else if isTifinagh symbol then some .tifinagh
  else if isBetween 0xa4fc 0xa4fd symbol then some .tone
  else if symbol.toNat = 0x10c03 then some .orkhonI
  else none

/-- What a character takes before a part of a ligature, if it belongs to the ligature, and
what follows the characters before it. Some ligatures need a joiner. -/
def ligature? : LigaturePart → Bool → Char → Option (Int × Follower)
  | .alef, _, symbol =>
      if isLam symbol then some (0, .nothing)
      else if isColumnless symbol && !inRanges opaqueRanges symbol then some (0, .part .alef false)
      else none
  | part, joined, symbol =>
      if symbol = '\u200d' then some (0, .part part true)
      else if isIgnorableMark symbol then some (0, .part part joined)
      else match part with
      | .lamed => if joined && symbol = '\u05d0' then some (0, .nothing) else none
      | .ya => if joined && symbol = '\u1a17' then some (0, .part .vowelAndYa true) else none
      | .vowelAndYa => if symbol = '\u1a15' then some (0, .nothing) else none
      | .tifinagh =>
          if symbol = '\u2d7f' then some (1, .part .linkedTifinagh true)
          else if joined && isTifinagh symbol then some (0, .nothing)
          else none
      | .linkedTifinagh => if isTifinagh symbol then some (-1, .nothing) else none
      | .tone => if isBetween 0xa4f8 0xa4fb symbol then some (0, .nothing) else none
      | .orkhonI => if joined && symbol.toNat = 0x10c32 then some (0, .nothing) else none
      | .subjoined => if symbol = '\u17d2' then some (-1, .nothing) else none
      | .alef => none

/-- The vowel signs of Kirat Rai: two or three of them can be written as one. -/
def vowelSequence? (follower : Follower) (symbol : Char) : Option (Int × Follower) :=
  match follower, symbol.toNat with
  | .vowelE, 0x16d63 | .vowelE, 0x16d69 | .vowelAi, 0x16d63 => some (0, .nothing)
  | .vowelE, 0x16d67 => some (0, .vowelAi)
  | .vowelE, 0x16d68 => some (1, .vowelE)
  | _, _ => none

/-! ## Pictures of several characters -/

/-- The letters and digits of a region are written from its end on behind a black flag. -/
def tagSequence? (letters digits : Nat) (symbol : Char) : Option (Int × Follower) :=
  if isBetween 0xe0061 0xe007a symbol && digits = 0 && letters < 6 then
    some (0, .tags (letters + 1) 0)
  else if isBetween 0xe0030 0xe0039 symbol && digits < 3 && (0 < digits || letters < 5) then
    some (0, .tags letters (digits + 1))
  else if symbol.toNat = 0x1f3f4 && (digits = 3 || (digits = 0 && 3 ≤ letters)) then
    some (0, .picture)
  else none

/-- What a character takes that belongs to one picture with its followers. -/
def pictureSequence? (follower : Follower) (symbol : Char) : Option (Int × Follower) :=
  let tie : Option (Int × Follower) := if symbol = '\u200d' then some (0, .joiner) else none
  match follower with
  | .picture => tie
  | .skinTone => if isToneable symbol then some (0, .picture) else tie
  | .flagLetter => if isFlagLetter symbol then some (1, .flagLetters) else none
  | .flagLetters => if isFlagLetter symbol then some (1, .flagLetters) else tie
  | .joiner =>
      if symbol = '\u20e3' then some (0, .keyJoiner)
      else if isFlagLetter symbol then some (1, .joinedFlagLetter)
      else if isSkinTone symbol then some (0, .skinTone)
      else if symbol.toNat = 0xe007f then some (0, .tags 0 0)
      else if isPicture symbol then some (0, .picture)
      else none
  | .joinedFlagLetter => if isFlagLetter symbol then some (-1, .joinedFlags) else none
  | .joinedFlags => if isFlagLetter symbol then some (3, .joinedFlagsAndLetter) else tie
  | .joinedFlagsAndLetter => if isFlagLetter symbol then some (-1, .joinedFlags) else tie
  | .tags letters digits => tagSequence? letters digits symbol
  | _ => none

/-! ## Texts -/

/-- What a character by itself is for the one before it. -/
def followerOf (symbol : Char) : Follower :=
  match ligaturePart? symbol with
  | some part => .part part false
  | none =>
      if symbol.toNat = 0x16d67 then .vowelE
      else if symbol.toNat = 0x16d68 then .vowelAi
      else if isFlagLetter symbol then .flagLetter
      else if isSkinTone symbol then .skinTone
      else if isPicture symbol then .picture
      else .nothing

def sequence? (follower : Follower) (symbol : Char) : Option (Int × Follower) :=
  match follower with
  | .nothing => none
  | .part part joined => ligature? part joined symbol
  | follower => (vowelSequence? follower symbol).orElse fun _ => pictureSequence? follower symbol

/-- The columns of a character beyond the plain ones that no selector concerns. -/
def measureSign (symbol : Char) (follower : Follower) : Int × Following :=
  match sequence? follower symbol with
  | some (columns, follower) => (columns, { follower })
  | none => (charWidth symbol, { follower := followerOf symbol })

/-- The columns of a plain character. A line feed takes one with the return before it. -/
def measurePlain (symbol : Char) (following : Following) : Int × Following :=
  if symbol = '\n' then (1, { follower := .lineFeed })
  else if symbol = '\r' && following = { follower := .lineFeed } then (0, {})
  else (1, {})

/-- The columns that a character adds to what follows it, and what then follows the
characters before it. -/
def measureChar (symbol : Char) (following : Following) : Int × Following :=
  if following.selector = some .picture && isSelectable symbol then
    (if following.isJoined then 0 else 2, { follower := .picture })
  else if following.selector = some .plain && isPlainable symbol then (1, {})
  else if symbol.toNat ≤ 0xa0 then measurePlain symbol following
  else if symbol = '\ufe0f' then (0, following.unselected.select .picture)
  else if symbol = '\ufe0e' then (0, following.unselected.select .plain)
  else measureSign symbol following.unselected.follower

def measure : List Char → Int × Following
  | [] => (0, {})
  | symbol :: rest =>
      let (columns, following) := measure rest
      let (added, following) := measureChar symbol following
      (columns + added, following)

/-- The measured width of a text. -/
def width (text : List Char) : Nat := (measure text).1.toNat

def isPlainAscii (symbol : Char) : Bool := isBetween 0x20 0x7e symbol

theorem measureChar_of_isPlainAscii {symbol : Char} (plain : isPlainAscii symbol = true) :
    measureChar symbol {} = (1, {}) := by
  simp only [isPlainAscii, isBetween, Bool.and_eq_true, decide_eq_true_eq] at plain
  have small : symbol.toNat ≤ 0xa0 := by omega
  have no_feed : symbol ≠ '\n' := by rintro rfl; simp at plain
  have no_return : symbol ≠ '\r' := by rintro rfl; simp at plain
  simp [measureChar, measurePlain, small, no_feed, no_return]

theorem measure_of_isPlainAscii {text : List Char}
    (plain : ∀ symbol ∈ text, isPlainAscii symbol = true) :
    measure text = ((text.length : Int), {}) := by
  induction text with
  | nil => rfl
  | cons symbol rest ih =>
      have tail := ih fun other h => plain other (List.mem_cons_of_mem _ h)
      simp [measure, tail, measureChar_of_isPlainAscii (plain symbol List.mem_cons_self)]

theorem width_of_isPlainAscii {text : List Char}
    (plain : ∀ symbol ∈ text, isPlainAscii symbol = true) : width text = text.length := by
  simp [width, measure_of_isPlainAscii plain]

end SpeciesBrowser.Text
