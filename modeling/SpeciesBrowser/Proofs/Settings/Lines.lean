import Mathlib.Data.Bool.AllAny
import Mathlib.Data.List.Forall2
import Mathlib.Data.List.Induction
import Mathlib.Data.List.TakeWhile
import SpeciesBrowser.Settings.Basic
import SpeciesBrowser.Settings.Line

/-!
# What a line says

A line gives a key a value: any spelling of the key's name, an equals sign, the value and perhaps a
comment behind it, with blanks between them. Read back, the line holds the name and the value, and
nothing of how they were written.
-/

namespace SpeciesBrowser

namespace Text

/-! ## Blanks at the ends -/

/-- Blanks and nothing else. -/
def Blank (text : List Char) : Prop := ∀ symbol ∈ text, isBlank symbol = true

def StartsBare (text : List Char) : Prop :=
  ∃ first rest, text = first :: rest ∧ isBlank first = false

def EndsBare (text : List Char) : Prop :=
  ∃ front last, text = front ++ [last] ∧ isBlank last = false

theorem Blank.append {first second : List Char} (blank : Blank first) (blank' : Blank second) :
    Blank (first ++ second) :=
  List.forall_mem_append.mpr ⟨blank, blank'⟩

theorem StartsBare.append {text : List Char} (starts : StartsBare text) (after : List Char) :
    StartsBare (text ++ after) := by
  obtain ⟨first, rest, rfl, visible⟩ := starts
  exact ⟨first, rest ++ after, rfl, visible⟩

theorem Blank.ne_cons {text tail rest : List Char} {symbol : Char} (blank : Blank text)
    (filled : text ≠ []) (visible : isBlank symbol = false) : text ++ tail ≠ symbol :: rest := by
  cases text with
  | nil => exact absurd rfl filled
  | cons first others =>
      rintro same
      cases same
      exact Bool.false_ne_true (visible.symm.trans (blank symbol List.mem_cons_self))

theorem EndsBare.prepend {text : List Char} (ends : EndsBare text) (before : List Char) :
    EndsBare (before ++ text) := by
  obtain ⟨front, last, rfl, visible⟩ := ends
  exact ⟨before ++ front, last, (List.append_assoc _ _ _).symm, visible⟩

theorem trimStart_append {before text : List Char} (blank : Blank before)
    (starts : StartsBare text) : trimStart (before ++ text) = text := by
  obtain ⟨first, rest, rfl, visible⟩ := starts
  rw [trimStart, List.dropWhile_append_of_pos blank,
    List.dropWhile_cons_of_neg (Bool.eq_false_iff.mp visible)]

theorem trimEnd_append {text after : List Char} (ends : EndsBare text) (blank : Blank after) :
    trimEnd (text ++ after) = text := by
  obtain ⟨front, last, rfl, visible⟩ := ends
  have blank' : ∀ symbol ∈ after.reverse, isBlank symbol = true := fun symbol isIn =>
    blank symbol (List.mem_reverse.mp isIn)
  rw [trimEnd, List.reverse_append, List.dropWhile_append_of_pos blank', List.reverse_append,
    List.reverse_singleton, List.singleton_append,
    List.dropWhile_cons_of_neg (Bool.eq_false_iff.mp visible), List.reverse_cons,
    List.reverse_reverse]

/-- Trimming takes away the blanks around a text and nothing else. -/
theorem trim_around {before text after : List Char} (blank : Blank before)
    (starts : StartsBare text) (ends : EndsBare text) (blank' : Blank after) :
    trim (before ++ (text ++ after)) = text := by
  rw [trim, trimStart_append blank (starts.append after), trimEnd_append ends blank']

theorem Blank.trim_eq_nil {text : List Char} (blank : Blank text) : trim text = [] := by
  rw [trim, trimStart, List.dropWhile_eq_nil_iff.mpr blank]
  rfl

theorem exists_endsBare (text : List Char) :
    ∃ kept after, text = kept ++ after ∧ (kept = [] ∨ EndsBare kept) ∧ Blank after := by
  induction text using List.reverseRecOn with
  | nil => exact ⟨[], [], rfl, Or.inl rfl, List.forall_mem_nil _⟩
  | append_singleton front last ih =>
      cases visible : isBlank last with
      | false =>
          exact ⟨front ++ [last], [], (List.append_nil _).symm, Or.inr ⟨front, last, rfl, visible⟩,
            List.forall_mem_nil _⟩
      | true =>
          obtain ⟨kept, after, rfl, ends, blank⟩ := ih
          exact ⟨kept, after ++ [last], List.append_assoc _ _ _, ends,
            blank.append (List.forall_mem_singleton.mpr visible)⟩

theorem mem_of_mem_trim {symbol : Char} {text : List Char} (member : symbol ∈ trim text) :
    symbol ∈ text := by
  have start := List.dropWhile_sublist (p := isBlank) (l := text)
  have back := List.dropWhile_sublist (p := isBlank) (l := (trimStart text).reverse)
  rw [trim, trimEnd, List.mem_reverse] at member
  exact start.mem (List.mem_reverse.mp (back.mem member))

/-! ## Lower case -/

/-- An ASCII text is lowered letter by letter. -/
theorem lower_ascii {text : List Char} (ascii : ∀ symbol ∈ text, symbol.toNat < 128) :
    lower text = text.map lowerChar := by
  have general : ∀ before, lowerAfter before text = text.map lowerChar := by
    induction text with
    | nil => exact fun _ => rfl
    | cons symbol rest ih =>
        obtain ⟨small, ascii⟩ := List.forall_mem_cons.mp ascii
        have notSigma : symbol ≠ 'Σ' := by
          rintro rfl
          revert small
          decide
        have notDotted : symbol ≠ 'İ' := by
          rintro rfl
          revert small
          decide
        intro before
        simp only [lowerAfter, if_neg notSigma, if_neg notDotted, ih ascii, List.map_cons,
          List.singleton_append]
  exact general []

end Text

namespace Settings

open Text

/-! ## Keys -/

/-- The letters that names are written with. -/
def letters : List Char :=
  ['a', 'b', 'c', 'd', 'e', 'f', 'g', 'h', 'i', 'j', 'k', 'l', 'm', 'n', 'o', 'p', 'q', 'r', 's',
    't', 'u', 'v', 'w', 'x', 'y', 'z']

/-- What may stand between the words of a key. -/
def joints : List Char := ['_', '.', '-', ' ']

/-- A letter may be a capital, and any joint may stand for an underscore. -/
inductive SpellsLetter : Char → Char → Prop where
  | small {letter : Char} (isLetter : letter ∈ letters) : SpellsLetter letter letter
  | capital {letter : Char} (isLetter : letter ∈ letters) : SpellsLetter letter.toUpper letter
  | joint {symbol : Char} (isJoint : symbol ∈ joints) : SpellsLetter symbol '_'

instance (symbol letter : Char) : Decidable (SpellsLetter symbol letter) :=
  decidable_of_iff
    ((letter ∈ letters ∧ (symbol = letter ∨ symbol = letter.toUpper)) ∨
      (symbol ∈ joints ∧ letter = '_')) <| by
    constructor
    · rintro (⟨isLetter, rfl | rfl⟩ | ⟨isJoint, rfl⟩)
      · exact .small isLetter
      · exact .capital isLetter
      · exact .joint isJoint
    · rintro (isLetter | isLetter | isJoint)
      · exact Or.inl ⟨isLetter, Or.inl rfl⟩
      · exact Or.inl ⟨isLetter, Or.inr rfl⟩
      · exact Or.inr ⟨isJoint, rfl⟩

def SpellsKey (key : List Char) (name : String) : Prop := List.Forall₂ SpellsLetter key name.toList

instance (key : List Char) (name : String) : Decidable (SpellsKey key name) :=
  inferInstanceAs (Decidable (List.Forall₂ SpellsLetter key name.toList))

theorem SpellsLetter.keyed {symbol letter : Char} (spelled : SpellsLetter symbol letter) :
    symbol.toNat < 128 ∧ symbol ≠ '=' ∧ joinWords (lowerChar symbol) = letter := by
  have smalls : ∀ letter ∈ letters, letter.toNat < 128 ∧ letter ≠ '=' ∧
      joinWords (lowerChar letter) = letter := List.all_iff_forall_prop.mp (by decide)
  have capitals : ∀ letter ∈ letters, letter.toUpper.toNat < 128 ∧ letter.toUpper ≠ '=' ∧
      joinWords (lowerChar letter.toUpper) = letter := List.all_iff_forall_prop.mp (by decide)
  have jointed : ∀ symbol ∈ joints, symbol.toNat < 128 ∧ symbol ≠ '=' ∧
      joinWords (lowerChar symbol) = '_' := List.all_iff_forall_prop.mp (by decide)
  cases spelled with
  | small isLetter => exact smalls _ isLetter
  | capital isLetter => exact capitals _ isLetter
  | joint isJoint => exact jointed _ isJoint

theorem SpellsLetter.bare {symbol letter : Char} (spelled : SpellsLetter symbol letter)
    (isLetter : letter ∈ letters) :
    isBlank symbol = false ∧ symbol ≠ '#' ∧ symbol ≠ '/' := by
  have smalls : ∀ letter ∈ letters, isBlank letter = false ∧ letter ≠ '#' ∧ letter ≠ '/' :=
    List.all_iff_forall_prop.mp (by decide)
  have capitals : ∀ letter ∈ letters, isBlank letter.toUpper = false ∧ letter.toUpper ≠ '#' ∧
      letter.toUpper ≠ '/' := List.all_iff_forall_prop.mp (by decide)
  cases spelled with
  | small isLetter => exact smalls _ isLetter
  | capital isLetter => exact capitals _ isLetter
  | joint => exact absurd isLetter (by decide)

/-- Every name begins and ends with a letter. -/
theorem Field.exists_letters {field : Field} {name : String} (isName : name ∈ field.names) :
    (∃ first rest, name.toList = first :: rest ∧ first ∈ letters) ∧
      ∃ front last, name.toList = front ++ [last] ∧ last ∈ letters := by
  have checked : field.names.all (fun name =>
      name.toList.head?.any (letters.contains ·) &&
        name.toList.getLast?.any (letters.contains ·)) = true := by
    cases field <;> decide
  have checked := List.all_eq_true.mp checked name isName
  cases head : name.toList.head? with
  | none => simp [head] at checked
  | some first =>
      cases foot : name.toList.getLast? with
      | none => simp [foot] at checked
      | some last =>
          rw [head, foot, Bool.and_eq_true] at checked
          obtain ⟨rest, same⟩ := List.head?_eq_some_iff.mp head
          obtain ⟨front, same'⟩ := List.getLast?_eq_some_iff.mp foot
          exact ⟨⟨first, rest, same, List.contains_iff_mem.mp checked.1⟩,
            front, last, same', List.contains_iff_mem.mp checked.2⟩

theorem keyed_of_spells {key name : List Char} (spelled : List.Forall₂ SpellsLetter key name) :
    (∀ symbol ∈ key, symbol.toNat < 128 ∧ symbol ≠ '=') ∧
      key.map (joinWords ∘ lowerChar) = name := by
  induction spelled with
  | nil => exact ⟨List.forall_mem_nil _, rfl⟩
  | cons spelled _ ih =>
      obtain ⟨ascii, notEquals, same⟩ := spelled.keyed
      refine ⟨List.forall_mem_cons.mpr ⟨⟨ascii, notEquals⟩, ih.1⟩, ?_⟩
      rw [List.map_cons, Function.comp_apply, same, ih.2]

namespace SpellsKey

variable {key : List Char} {name : String}

theorem notEquals (spelled : SpellsKey key name) : '=' ∉ key := fun isIn =>
  ((keyed_of_spells spelled).1 '=' isIn).2 rfl

theorem lowered (spelled : SpellsKey key name) : (lower key).map joinWords = name.toList := by
  obtain ⟨ascii, same⟩ := keyed_of_spells spelled
  rw [lower_ascii fun symbol isIn => (ascii symbol isIn).1, List.map_map, same]

/-- A key of a field opens no comment. -/
theorem exists_cons {field : Field} (spelled : SpellsKey key name)
    (isName : name ∈ field.names) :
    ∃ first rest, key = first :: rest ∧ isBlank first = false ∧ first ≠ '#' ∧ first ≠ '/' := by
  obtain ⟨⟨letter, others, same, isLetter⟩, -⟩ := Field.exists_letters isName
  rw [SpellsKey, same] at spelled
  cases spelled with
  | cons spelled _ => exact ⟨_, _, rfl, spelled.bare isLetter⟩

theorem endsBare {field : Field} (spelled : SpellsKey key name) (isName : name ∈ field.names) :
    EndsBare key := by
  obtain ⟨-, front, letter, same, isLetter⟩ := Field.exists_letters isName
  rw [SpellsKey, ← List.forall₂_reverse_iff, same, List.reverse_concat] at spelled
  generalize turned : key.reverse = yek at spelled
  cases spelled with
  | @cons last _ behind _ spelled _ =>
      refine ⟨behind.reverse, last, ?_, (spelled.bare isLetter).1⟩
      rw [← List.reverse_cons, ← turned, List.reverse_reverse]

end SpellsKey

theorem keyOf_spelled {field : Field} {key gap : List Char} {name : String}
    (spelled : SpellsKey key name) (isName : name ∈ field.names) (blank : Blank gap) :
    keyOf (key ++ gap) = name.toList := by
  obtain ⟨first, rest, same, visible, -⟩ := spelled.exists_cons isName
  have trimmed : trim ([] ++ (key ++ gap)) = key :=
    trim_around (List.forall_mem_nil _) ⟨first, rest, same, visible⟩ (spelled.endsBare isName) blank
  rw [List.nil_append] at trimmed
  rw [keyOf, trimmed, spelled.lowered]

theorem splitEquals?_append {key : List Char} (notEquals : '=' ∉ key) (value : List Char) :
    splitEquals? (key ++ '=' :: value) = some (key, value) := by
  induction key with
  | nil => rfl
  | cons symbol rest ih =>
      rw [List.mem_cons, not_or] at notEquals
      obtain ⟨differs, notEquals⟩ := notEquals
      rw [List.cons_append, splitEquals?, ih notEquals]
      · rfl
      · rintro rfl
        exact differs rfl

theorem splitEquals?_of_not_mem {text : List Char} (absent : '=' ∉ text) :
    splitEquals? text = none := by
  induction text with
  | nil => rfl
  | cons symbol rest ih =>
      rw [List.mem_cons, not_or] at absent
      obtain ⟨differs, absent⟩ := absent
      rw [splitEquals?, ih absent]
      · rfl
      · rintro rfl
        exact differs rfl

/-! ## Comments -/

/-- How a comment opens. -/
def markers : List (List Char) := [['#'], ['/', '/']]

theorem mem_markers {marker : List Char} :
    marker ∈ markers ↔ marker = ['#'] ∨ marker = ['/', '/'] := by
  rw [markers, List.mem_cons, List.mem_singleton]

theorem opensComment_marker {marker : List Char} (isMarker : marker ∈ markers)
    (rest : List Char) : opensComment (marker ++ rest) = true := by
  rcases mem_markers.mp isMarker with rfl | rfl <;> rfl

theorem startsBare_marker {marker : List Char} (isMarker : marker ∈ markers) :
    StartsBare marker := by
  rcases mem_markers.mp isMarker with rfl | rfl
  · exact ⟨'#', [], rfl, rfl⟩
  · exact ⟨'/', ['/'], rfl, rfl⟩

theorem endsBare_marker {marker : List Char} (isMarker : marker ∈ markers) : EndsBare marker := by
  rcases mem_markers.mp isMarker with rfl | rfl
  · exact ⟨[], '#', rfl, rfl⟩
  · exact ⟨['/'], '/', rfl, rfl⟩

/-- Trimming leaves the marker of a comment. -/
theorem exists_endsBare_marker {marker : List Char} (isMarker : marker ∈ markers)
    (rest : List Char) :
    ∃ kept after, rest = kept ++ after ∧ EndsBare (marker ++ kept) ∧ Blank after := by
  obtain ⟨kept, after, rfl, rfl | ends, isAfter⟩ := exists_endsBare rest
  · refine ⟨[], after, rfl, ?_, isAfter⟩
    rw [List.append_nil]
    exact endsBare_marker isMarker
  · exact ⟨kept, after, rfl, ends.prepend marker, isAfter⟩

theorem opensComment_trim {before marker : List Char} (isBefore : Blank before)
    (isMarker : marker ∈ markers) (rest : List Char) :
    opensComment (trim (before ++ (marker ++ rest))) = true := by
  obtain ⟨kept, after, rfl, ends, isAfter⟩ := exists_endsBare_marker isMarker rest
  rw [← List.append_assoc marker,
    trim_around isBefore ((startsBare_marker isMarker).append kept) ends isAfter]
  exact opensComment_marker isMarker kept

theorem exists_marker {text : List Char} (opens : opensComment text = true) :
    ∃ marker ∈ markers, ∃ rest, text = marker ++ rest := by
  unfold opensComment at opens
  split at opens
  · exact ⟨['#'], by decide, _, rfl⟩
  · exact ⟨['/', '/'], by decide, _, rfl⟩
  · cases opens

theorem opensComment_cons_of_ne {symbol : Char} (notHash : symbol ≠ '#') (notSlash : symbol ≠ '/')
    (rest : List Char) : opensComment (symbol :: rest) = false := by
  refine Bool.eq_false_iff.mpr fun opens => ?_
  obtain ⟨marker, isMarker, after, same⟩ := exists_marker opens
  rcases mem_markers.mp isMarker with rfl | rfl
  · exact notHash (List.cons_eq_cons.mp same).1
  · exact notSlash (List.cons_eq_cons.mp same).1

/-- At its front a text has a comment only behind slashes. -/
theorem exists_slashes {text : List Char} (starts : startsComment none text = true) :
    ∃ rest, text = ['/', '/'] ++ rest := by
  obtain ⟨rest, same⟩ := List.isPrefixOf_iff_prefix.mp starts
  exact ⟨rest, same.symm⟩

theorem exists_marker_of_starts {before : Option Char} {text : List Char}
    (starts : startsComment before text = true) :
    ∃ marker ∈ markers, ∃ rest, text = marker ++ rest := by
  cases before with
  | none => exact ⟨['/', '/'], by decide, exists_slashes starts⟩
  | some symbol =>
      rw [startsComment, Bool.and_eq_true] at starts
      exact exists_marker starts.1

theorem startsComment_some {symbol : Char} {text : List Char} :
    startsComment (some symbol) text = true ↔
      opensComment text = true ∧ isAsciiBlank symbol = true := by
  rw [startsComment, Bool.and_eq_true]

/-- A marker that stands at the front of two texts stands in the first, unless a slash begins the
second. -/
theorem exists_marker_append {marker text tail rest : List Char} (isMarker : marker ∈ markers)
    (filled : text ≠ []) (noSlash : ∀ rest, tail ≠ '/' :: rest)
    (same : text ++ tail = marker ++ rest) : ∃ rest, text = marker ++ rest := by
  cases text with
  | nil => exact absurd rfl filled
  | cons symbol others =>
      rcases mem_markers.mp isMarker with rfl | rfl
      · cases same
        exact ⟨others, rfl⟩
      · cases others with
        | nil =>
            cases same
            exact absurd rfl (noSlash rest)
        | cons next others =>
            cases same
            exact ⟨others, rfl⟩

/-- A text in which no comment starts is kept, and what comes after it is cut by itself. -/
theorem cutComment_append {before : Option Char} {kept : List Char} (tail : List Char)
    (quiet : ∀ earlier later, kept = earlier ++ later → later ≠ [] →
      startsComment (earlier.getLast?.or before) (later ++ tail) = false) :
    cutComment before (kept ++ tail) = kept ++ cutComment (kept.getLast?.or before) tail := by
  induction kept generalizing before with
  | nil => rfl
  | cons symbol rest ih =>
      have first : startsComment before (symbol :: (rest ++ tail)) = false :=
        quiet [] (symbol :: rest) rfl (List.cons_ne_nil _ _)
      have later : ∀ earlier later, rest = earlier ++ later → later ≠ [] →
          startsComment (earlier.getLast?.or (some symbol)) (later ++ tail) = false := by
        rintro earlier later rfl filled
        have quiet := quiet (symbol :: earlier) later rfl filled
        rw [List.getLast?_cons] at quiet
        cases last : earlier.getLast? with
        | none => rwa [last] at quiet
        | some last' => rwa [last] at quiet
      rw [List.cons_append, cutComment, if_neg (Bool.eq_false_iff.mp first), ih later,
        List.cons_append, List.getLast?_cons]
      cases rest.getLast? <;> rfl

/-! ## Values -/

/-- A value that is read back as it stands: it is trimmed and not empty, and nothing in it begins a
comment. -/
structure PlainValue (value : List Char) : Prop where
  starts : StartsBare value
  ends : EndsBare value
  noSlashes : ∀ rest, value ≠ '/' :: '/' :: rest
  noComment : ∀ before blank marker rest, isAsciiBlank blank = true → marker ∈ markers →
    value ≠ before ++ blank :: (marker ++ rest)

theorem PlainValue.quiet {value tail : List Char} (plain : PlainValue value)
    (noSlash : ∀ rest, tail ≠ '/' :: rest) {earlier later : List Char}
    (same : value = earlier ++ later) (filled : later ≠ []) :
    startsComment (earlier.getLast?.or none) (later ++ tail) = false := by
  rw [Bool.eq_false_iff, Option.or_none]
  intro starts
  cases last : earlier.getLast? with
  | none =>
      rw [last] at starts
      rw [List.getLast?_eq_none_iff.mp last, List.nil_append] at same
      obtain ⟨rest, front⟩ := exists_slashes starts
      obtain ⟨rest, rfl⟩ := exists_marker_append (by decide) filled noSlash front
      exact plain.noSlashes rest same
  | some blank =>
      rw [last, startsComment_some] at starts
      obtain ⟨front, rfl⟩ := List.getLast?_eq_some_iff.mp last
      obtain ⟨marker, isMarker, rest, opens⟩ := exists_marker starts.1
      obtain ⟨rest, rfl⟩ := exists_marker_append isMarker filled noSlash opens
      rw [List.append_assoc] at same
      exact plain.noComment front blank marker rest starts.2 isMarker same

/-- What may stand behind a value. -/
inductive SpellsTail : List Char → Prop where
  | blank {text : List Char} (blank : Blank text) : SpellsTail text
  | comment {before marker rest : List Char} {blank : Char} (isBefore : Blank before)
      (isBlank : isAsciiBlank blank = true) (isMarker : marker ∈ markers) :
      SpellsTail (before ++ blank :: (marker ++ rest))

theorem SpellsTail.append {tail after : List Char} (isTail : SpellsTail tail)
    (blank : Blank after) : SpellsTail (tail ++ after) := by
  cases isTail with
  | blank blank' => exact .blank (blank'.append blank)
  | comment isBefore isBlank isMarker =>
      rw [List.append_assoc, List.cons_append, List.append_assoc]
      exact .comment isBefore isBlank isMarker

/-- A tail without the blanks at its end. -/
inductive ClosedTail : List Char → Prop where
  | none : ClosedTail []
  | comment {before comment : List Char} {blank : Char} (isBefore : Blank before)
      (isBlank : isAsciiBlank blank = true) (opens : opensComment comment = true)
      (ends : EndsBare comment) : ClosedTail (before ++ blank :: comment)

theorem SpellsTail.exists_closed {tail : List Char} (isTail : SpellsTail tail) :
    ∃ kept after, tail = kept ++ after ∧ ClosedTail kept ∧ Blank after := by
  cases isTail with
  | blank blank => exact ⟨[], tail, rfl, .none, blank⟩
  | @comment before marker rest blank isBefore isBlank isMarker =>
      obtain ⟨kept, after, rfl, ends, isAfter⟩ := exists_endsBare_marker isMarker rest
      refine ⟨before ++ blank :: (marker ++ kept), after, ?_,
        .comment isBefore isBlank (opensComment_marker isMarker kept) ends, isAfter⟩
      simp only [List.append_assoc, List.cons_append]

theorem ClosedTail.ends {value tail : List Char} (closed : ClosedTail tail)
    (ends : EndsBare value) : EndsBare (value ++ tail) := by
  cases closed with
  | none => rwa [List.append_nil]
  | @comment before comment blank _ _ _ ends =>
      have ends := ends.prepend (value ++ (before ++ [blank]))
      rwa [List.append_assoc, List.append_assoc, List.singleton_append] at ends

theorem startsComment_blank {before : Option Char} {text tail : List Char} (blank : Blank text)
    (filled : text ≠ []) : startsComment before (text ++ tail) = false := by
  rw [Bool.eq_false_iff]
  intro starts
  obtain ⟨marker, isMarker, rest, same⟩ := exists_marker_of_starts starts
  rcases mem_markers.mp isMarker with rfl | rfl
  · exact blank.ne_cons filled rfl same
  · exact blank.ne_cons filled rfl same

/-- Of a value with its tail the value is left, and blanks behind it. -/
theorem exists_cutComment {value tail : List Char} (plain : PlainValue value)
    (closed : ClosedTail tail) :
    ∃ after, cutComment none (value ++ tail) = value ++ after ∧ Blank after := by
  cases closed with
  | none =>
      have noSlash : ∀ rest : List Char, [] ≠ '/' :: rest := fun _ => (List.cons_ne_nil _ _).symm
      exact ⟨[], cutComment_append [] fun _ _ => plain.quiet noSlash, List.forall_mem_nil _⟩
  | @comment before comment blank isBefore isBlank opens ends =>
      have blanks : Blank (before ++ [blank]) :=
        isBefore.append (List.forall_mem_singleton.mpr (isBlank_of_isAsciiBlank isBlank))
      have filled : before ++ [blank] ≠ [] :=
        List.append_ne_nil_of_right_ne_nil _ (List.cons_ne_nil _ _)
      have cut : cutComment (some blank) comment = [] := by
        cases comment with
        | nil => rfl
        | cons symbol rest => rw [cutComment, if_pos (startsComment_some.mpr ⟨opens, isBlank⟩)]
      have quiet : ∀ earlier later, before ++ [blank] = earlier ++ later → later ≠ [] →
          startsComment (earlier.getLast?.or (value.getLast?.or none)) (later ++ comment) =
            false := by
        intro earlier later same
        exact startsComment_blank fun symbol isIn =>
          blanks symbol (same ▸ List.mem_append_right earlier isIn)
      refine ⟨before ++ [blank], ?_, blanks⟩
      rw [← List.singleton_append, ← List.append_assoc before,
        cutComment_append _ fun _ _ => plain.quiet fun _ => blanks.ne_cons filled rfl,
        cutComment_append comment quiet, List.getLast?_concat, Option.some_or, cut,
        List.append_nil]

/-- The value is read back, whatever blanks stand before it and whatever comment behind it. -/
theorem valueOf_plain {before value tail : List Char} (isBefore : Blank before)
    (plain : PlainValue value) (closed : ClosedTail tail) :
    valueOf (before ++ (value ++ tail)) = value := by
  have outer := trim_around isBefore (plain.starts.append tail) (closed.ends plain.ends)
    (List.forall_mem_nil _)
  obtain ⟨after, cut, isAfter⟩ := exists_cutComment plain closed
  rw [List.append_nil] at outer
  rw [valueOf, outer, cut]
  exact trim_around (List.forall_mem_nil _) plain.starts plain.ends isAfter

/-! ## Entries -/

theorem entry?_eq_none_of_blank {line : List Char} (empty : trim line = []) :
    entry? line = none := by
  rw [ entry?, empty]
  rfl

theorem entry?_eq_none_of_comment {line : List Char} (opens : opensComment (trim line) = true) :
    entry? line = none := by
  simp only [ entry?, opens, Bool.or_true, if_true]

theorem entry?_eq_none_of_unassigned {line : List Char} (absent : '=' ∉ line) :
    entry? line = none := by
  have split : splitEquals? (trim line) = none :=
    splitEquals?_of_not_mem fun member => absent (mem_of_mem_trim member)
  simp only [ entry?, split, Option.map_none, ite_self]

/-- A line that spells a key and a value holds the name and the value. -/
theorem entry?_spelled {field : Field} {name : String} {before key gap gap' value tail : List Char}
    (isName : name ∈ field.names) (isBefore : Blank before) (spelled : SpellsKey key name)
    (isGap : Blank gap) (isGap' : Blank gap') (plain : PlainValue value)
    (isTail : SpellsTail tail) :
    entry? (before ++ (key ++ (gap ++ '=' :: (gap' ++ (value ++ tail))))) =
      some (name.toList, value) := by
  obtain ⟨first, rest, sameKey, visible, notHash, notSlash⟩ := spelled.exists_cons isName
  obtain ⟨kept, after, rfl, closed, isAfter⟩ := isTail.exists_closed
  have starts : StartsBare (key ++ (gap ++ '=' :: (gap' ++ (value ++ kept)))) :=
    StartsBare.append ⟨first, rest, sameKey, visible⟩ _
  have ends : EndsBare (key ++ (gap ++ '=' :: (gap' ++ (value ++ kept)))) := by
    have ends := (closed.ends plain.ends).prepend (key ++ (gap ++ '=' :: gap'))
    rwa [List.append_assoc, List.append_assoc, List.cons_append] at ends
  have trimmed := trim_around isBefore starts ends isAfter
  simp only [List.append_assoc, List.cons_append] at trimmed
  have notEquals : '=' ∉ key ++ gap := by
    intro isIn
    rcases List.mem_append.mp isIn with isIn | isIn
    · exact spelled.notEquals isIn
    · exact Bool.false_ne_true (isGap '=' isIn)
  have split := splitEquals?_append notEquals (gap' ++ (value ++ kept))
  rw [List.append_assoc] at split
  simp only [ entry?, trimmed, split]
  rw [sameKey, List.cons_append, opensComment_cons_of_ne notHash notSlash, ← sameKey,
    Option.map_some, keyOf_spelled spelled isName isGap, valueOf_plain isGap' plain closed]
  rfl

end Settings

end SpeciesBrowser
