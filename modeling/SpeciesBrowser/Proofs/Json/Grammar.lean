import SpeciesBrowser.Json.Skip

/-!
# The grammar of documents

Which texts spell which values. Blanks may stand around every token, a text may be written with
escapes or without, and the members of an object may stand in any order. The readers are not
mentioned here.
-/

namespace SpeciesBrowser.Json

/-- Blanks and nothing else. -/
def Blank (text : List Char) : Prop := ∀ symbol ∈ text, symbol ∈ [' ', '\n', '\r', '\t']

theorem blank_nil : Blank [] := List.forall_mem_nil _

/-! ## Strings -/

/-- The hexadecimal digits with their values, in both cases. -/
def hexDigits : List (Char × Nat) :=
  ['0', '1', '2', '3', '4', '5', '6', '7', '8', '9', 'a', 'b', 'c', 'd', 'e', 'f'].zipIdx ++
    ['A', 'B', 'C', 'D', 'E', 'F'].zipIdx 10

/-- Four hexadecimal digits spell a number of sixteen bits. -/
inductive SpellsUnit : List Char → Nat → Prop where
  | intro {a b c d : Char} {first second third fourth : Nat}
      (isFirst : (a, first) ∈ hexDigits) (isSecond : (b, second) ∈ hexDigits)
      (isThird : (c, third) ∈ hexDigits) (isFourth : (d, fourth) ∈ hexDigits) :
      SpellsUnit [a, b, c, d] (((first * 16 + second) * 16 + third) * 16 + fourth)

/-- The letters that may stand behind a backslash, with the characters they stand for. -/
def shortEscapes : List (Char × Char) :=
  [('"', '"'), ('\\', '\\'), ('/', '/'), ('b', '\x08'), ('f', '\x0c'), ('n', '\n'), ('r', '\r'),
    ('t', '\t')]

/-- A character may stand for itself in a string. -/
structure IsPlain (symbol : Char) : Prop where
  printed : ' ' ≤ symbol
  ne_quote : symbol ≠ '"'
  ne_backslash : symbol ≠ '\\'

instance : DecidablePred IsPlain := fun symbol =>
  decidable_of_iff (' ' ≤ symbol ∧ symbol ≠ '"' ∧ symbol ≠ '\\')
    ⟨fun plain => ⟨plain.1, plain.2.1, plain.2.2⟩,
      fun plain => ⟨plain.printed, plain.ne_quote, plain.ne_backslash⟩⟩

/-- What may stand between the quotes of a string, whether or not it spells a text: the halves of a
pair may stand alone. -/
inductive IsString : List Char → Prop where
  | done : IsString []
  | plain {symbol : Char} {written : List Char} (isPlain : IsPlain symbol)
      (rest : IsString written) : IsString (symbol :: written)
  | short {letter symbol : Char} {written : List Char} (escape : (letter, symbol) ∈ shortEscapes)
      (rest : IsString written) : IsString ('\\' :: letter :: written)
  | unit {digits written : List Char} {unit : Nat} (spelled : SpellsUnit digits unit)
      (rest : IsString written) : IsString ('\\' :: 'u' :: (digits ++ written))

/-- What may stand between the quotes of a string that spells a text. A character beyond the
sixteen-bit numbers is spelled as itself or as a pair of halves. -/
inductive SpellsText : List Char → List Char → Prop where
  | done : SpellsText [] []
  | plain {symbol : Char} {written text : List Char} (isPlain : IsPlain symbol)
      (rest : SpellsText written text) : SpellsText (symbol :: written) (symbol :: text)
  | short {letter symbol : Char} {written text : List Char}
      (escape : (letter, symbol) ∈ shortEscapes) (rest : SpellsText written text) :
      SpellsText ('\\' :: letter :: written) (symbol :: text)
  | unit {symbol : Char} {digits written text : List Char}
      (spelled : SpellsUnit digits symbol.toNat) (rest : SpellsText written text) :
      SpellsText ('\\' :: 'u' :: (digits ++ written)) (symbol :: text)
  | pair {symbol : Char} {highDigits lowDigits written text : List Char} {high low : Nat}
      (spelledHigh : SpellsUnit highDigits high) (isHigh : 0xd800 ≤ high ∧ high < 0xdc00)
      (spelledLow : SpellsUnit lowDigits low) (isLow : 0xdc00 ≤ low ∧ low < 0xe000)
      (joined : symbol.toNat = 0x10000 + (high - 0xd800) * 0x400 + (low - 0xdc00))
      (rest : SpellsText written text) :
      SpellsText ('\\' :: 'u' :: (highDigits ++ '\\' :: 'u' :: (lowDigits ++ written)))
        (symbol :: text)

/-- A text without quotes, backslashes and controls spells itself. -/
theorem spellsText_self {text : List Char} (plain : ∀ symbol ∈ text, IsPlain symbol) :
    SpellsText text text := by
  induction text with
  | nil => exact .done
  | cons symbol rest ih =>
      obtain ⟨isPlain, plain⟩ := List.forall_mem_cons.mp plain
      exact .plain isPlain (ih plain)

theorem spellsText_plain {text : List Char} (plain : text.all (decide <| IsPlain ·) = true) :
    SpellsText text text :=
  spellsText_self fun symbol isIn => of_decide_eq_true (List.all_eq_true.mp plain symbol isIn)

/-- A string in its quotes spells a text. -/
inductive SpellsQuoted : List Char → List Char → Prop where
  | intro {written text : List Char} (spelled : SpellsText written text) :
      SpellsQuoted ('"' :: (written ++ ['"'])) text

/-! ## Numbers -/

/-- The decimal digits of an integer, behind a minus sign if it is negative. -/
def decimal (value : Int) : List Char :=
  if value < 0 then '-' :: Nat.toDigits 10 value.natAbs else Nat.toDigits 10 value.natAbs

/-- At least one digit and nothing else. -/
structure IsDigits (digits : List Char) : Prop where
  ne_nil : digits ≠ []
  digit : ∀ symbol ∈ digits, symbol.isDigit = true

/-- The digits before the point: a leading zero stands alone. -/
inductive IsWhole : List Char → Prop where
  | zero : IsWhole ['0']
  | digits {digits : List Char} (isDigits : IsDigits digits)
      (nonzero : digits.head? ≠ some '0') : IsWhole digits

inductive IsFraction : List Char → Prop where
  | none : IsFraction []
  | digits {digits : List Char} (isDigits : IsDigits digits) : IsFraction ('.' :: digits)

inductive IsExponent : List Char → Prop where
  | none : IsExponent []
  | digits {letter : Char} {sign digits : List Char} (isLetter : letter ∈ ['e', 'E'])
      (isSign : sign ∈ [[], ['+'], ['-']]) (isDigits : IsDigits digits) :
      IsExponent (letter :: (sign ++ digits))

/-- Any number, of any size and precision. -/
inductive IsNumber : List Char → Prop where
  | intro {sign whole fraction exponent : List Char} (isSign : sign ∈ [[], ['-']])
      (isWhole : IsWhole whole) (isFraction : IsFraction fraction)
      (isExponent : IsExponent exponent) : IsNumber (sign ++ (whole ++ (fraction ++ exponent)))

/-! ## Values -/

def Frame.opening : Frame → Char
  | .list => '['
  | .object => '\x7b'

/-- The parts of a document: a value, one of the items in a list or an object, or all of them. -/
inductive Part where
  | value
  | item (frame : Frame)
  | items (frame : Frame)

/-- The texts that are a part of some document. -/
inductive Written : Part → List Char → Prop where
  | null : Written .value ['n', 'u', 'l', 'l']
  | true : Written .value ['t', 'r', 'u', 'e']
  | false : Written .value ['f', 'a', 'l', 's', 'e']
  | number {text : List Char} (isNumber : IsNumber text) : Written .value text
  | string {text : List Char} (isString : IsString text) : Written .value ('"' :: (text ++ ['"']))
  | empty {frame : Frame} {blanks : List Char} (blank : Blank blanks) :
      Written .value (frame.opening :: (blanks ++ [frame.closing]))
  | full {frame : Frame} {text : List Char} (items : Written (.items frame) text) :
      Written .value (frame.opening :: (text ++ [frame.closing]))
  | element {before text after : List Char} (blankBefore : Blank before)
      (value : Written .value text) (blankAfter : Blank after) :
      Written (.item .list) (before ++ (text ++ after))
  | member {before key gap gap' text after : List Char} (blankBefore : Blank before)
      (isKey : IsString key) (blankGap : Blank gap) (blankGap' : Blank gap')
      (value : Written .value text) (blankAfter : Blank after) :
      Written (.item .object)
        (before ++ '"' :: (key ++ '"' :: (gap ++ ':' :: (gap' ++ (text ++ after)))))
  | one {frame : Frame} {text : List Char} (item : Written (.item frame) text) :
      Written (.items frame) text
  | more {frame : Frame} {text texts : List Char} (item : Written (.item frame) text)
      (items : Written (.items frame) texts) : Written (.items frame) (text ++ ',' :: texts)

/-- Any value whatever, nested to any depth. -/
def IsValue (text : List Char) : Prop := Written .value text

/-! ## Values of a known type -/

/-- A signed word in decimal digits. -/
def SpellsInteger (text : List Char) (value : Int64) : Prop := text = decimal value.toInt

/-- A string in its quotes spells a string. -/
def SpellsString (text : List Char) (value : String) : Prop := SpellsQuoted text value.toList

/-- A value or null. -/
inductive SpellsOptional (spells : List Char → α → Prop) : List Char → Option α → Prop where
  | null : SpellsOptional spells ['n', 'u', 'l', 'l'] none
  | value {text : List Char} {value : α} (spelled : spells text value) :
      SpellsOptional spells text (some value)

/-- Items with commas between them and blanks around them. -/
inductive SpellsItems (spells : List Char → α → Prop) : List Char → List α → Prop where
  | one {before text after : List Char} {value : α} (blankBefore : Blank before)
      (spelled : spells text value) (blankAfter : Blank after) :
      SpellsItems spells (before ++ (text ++ after)) [value]
  | more {before text after texts : List Char} {value : α} {values : List α}
      (blankBefore : Blank before) (spelled : spells text value) (blankAfter : Blank after)
      (rest : SpellsItems spells texts values) :
      SpellsItems spells (before ++ (text ++ (after ++ ',' :: texts))) (value :: values)

section Items

variable {spells : List Char → α → Prop} {text texts : List Char} {value : α} {values : List α}

theorem spellsItems_last (spelled : spells text value) : SpellsItems spells text [value] := by
  have last := SpellsItems.one blank_nil spelled blank_nil
  rwa [List.nil_append, List.append_nil] at last

theorem spellsItems_next (spelled : spells text value)
    (rest : SpellsItems spells texts values) :
    SpellsItems spells (text ++ ',' :: texts) (value :: values) :=
  .more blank_nil spelled blank_nil rest

end Items

/-- A list or an object with its items. -/
inductive SpellsFrame (frame : Frame) (spells : List Char → α → Prop) :
    List Char → List α → Prop where
  | empty {blanks : List Char} (blank : Blank blanks) :
      SpellsFrame frame spells (frame.opening :: (blanks ++ [frame.closing])) []
  | full {text : List Char} {values : List α} (items : SpellsItems spells text values) :
      SpellsFrame frame spells (frame.opening :: (text ++ [frame.closing])) values

def SpellsList (spells : List Char → α → Prop) : List Char → List α → Prop :=
  SpellsFrame .list spells

/-- A member of an object: its name, and the text that stands for its value. -/
structure Member where
  name : String
  text : List Char
deriving DecidableEq, Repr

inductive SpellsMember : List Char → Member → Prop where
  | intro {written gap gap' text : List Char} {name : String}
      (spelled : SpellsText written name.toList) (blankGap : Blank gap) (blankGap' : Blank gap') :
      SpellsMember ('"' :: (written ++ '"' :: (gap ++ ':' :: (gap' ++ text))))
        { name := name, text }

/-- A name without quotes, backslashes and controls stands in its quotes as it is. -/
theorem spellsMember_plain (name : String) (text : List Char)
    (plain : name.toList.all (decide <| IsPlain ·) = true) :
    SpellsMember ('"' :: (name.toList ++ '"' :: ':' :: text)) { name := name, text } :=
  .intro (spellsText_plain plain) blank_nil blank_nil

def SpellsObject : List Char → List Member → Prop := SpellsFrame .object SpellsMember

namespace Member

/-- The texts of the members with a name. -/
def textsOf (members : List Member) (name : String) : List (List Char) :=
  (members.filter (·.name = name)).map (·.text)

/-- A name occurs once, and its text spells a value, or it does not occur. -/
inductive Holds (members : List Member) (name : String) (spells : List Char → α → Prop) :
    Option α → Prop where
  | once {text : List Char} {value : α} (only : textsOf members name = [text])
      (spelled : spells text value) : Holds members name spells (some value)
  | absent (nowhere : textsOf members name = []) : Holds members name spells none

/-- All members but those with the used names hold any value. -/
def OthersAny (members : List Member) (used : List String) : Prop :=
  ∀ member ∈ members, member.name ∉ used → IsValue member.text

end Member

/-- A value with blanks around it and nothing else. -/
inductive SpellsDocument (spells : List Char → α → Prop) : List Char → α → Prop where
  | intro {before text after : List Char} {value : α} (blankBefore : Blank before)
      (spelled : spells text value) (blankAfter : Blank after) :
      SpellsDocument spells (before ++ (text ++ after)) value

theorem SpellsDocument.bare {spells : List Char → α → Prop} {text : List Char} {value : α}
    (spelled : spells text value) : SpellsDocument spells text value := by
  have document := SpellsDocument.intro blank_nil spelled blank_nil
  rwa [List.nil_append, List.append_nil] at document

theorem SpellsDocument.of_eq {spells : List Char → α → Prop} {text body : List Char} {value : α}
    (spelled : SpellsDocument spells text value) (same : body = text) :
    SpellsDocument spells body value := by
  rw [same]
  exact spelled

end SpeciesBrowser.Json
