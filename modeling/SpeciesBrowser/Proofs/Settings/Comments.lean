import SpeciesBrowser.Proofs.Settings.Lines
import SpeciesBrowser.Proofs.Text.Lowering

/-!
# Where values end

A line holds an entry unless it is blank, a comment or without an equals sign. The value is what
stands behind the first equals sign, up to the first place where a comment starts. So there is no
comment in a value, and a value that is written behind its key once more is read back.
-/

namespace SpeciesBrowser

namespace Text

/-! ## Trimmed texts -/

/-- A text without blanks at its ends. -/
def Trimmed (text : List Char) : Prop := text = [] ∨ StartsBare text ∧ EndsBare text

theorem StartsBare.of_prefix {kept text : List Char} (starts : StartsBare text)
    (front : kept <+: text) : kept = [] ∨ StartsBare kept := by
  obtain ⟨first, rest, rfl, visible⟩ := starts
  cases kept with
  | nil => exact Or.inl rfl
  | cons symbol others =>
      obtain ⟨rfl, -⟩ := List.cons_prefix_cons.mp front
      exact Or.inr ⟨symbol, others, rfl, visible⟩

theorem exists_trimStart (text : List Char) :
    ∃ before, text = before ++ trimStart text ∧ Blank before ∧
      (trimStart text = [] ∨ StartsBare (trimStart text)) := by
  induction text with
  | nil => exact ⟨[], rfl, List.forall_mem_nil _, Or.inl rfl⟩
  | cons symbol rest ih =>
      cases visible : isBlank symbol with
      | false =>
          have same : trimStart (symbol :: rest) = symbol :: rest :=
            trimStart_append (List.forall_mem_nil _) ⟨symbol, rest, rfl, visible⟩
          rw [same]
          exact ⟨[], rfl, List.forall_mem_nil _, Or.inr ⟨symbol, rest, rfl, visible⟩⟩
      | true =>
          obtain ⟨before, same, blank, starts⟩ := ih
          have skipped : trimStart (symbol :: rest) = trimStart rest :=
            List.dropWhile_cons_of_pos visible
          rw [skipped]
          exact ⟨symbol :: before, congrArg (symbol :: ·) same,
            List.forall_mem_cons.mpr ⟨visible, blank⟩, starts⟩

theorem Blank.trimEnd_eq_nil {text : List Char} (blank : Blank text) : trimEnd text = [] := by
  have blank' : ∀ symbol ∈ text.reverse, isBlank symbol = true := fun symbol isIn =>
    blank symbol (List.mem_reverse.mp isIn)
  rw [trimEnd, List.dropWhile_eq_nil_iff.mpr blank', List.reverse_nil]

theorem exists_trimEnd (text : List Char) :
    ∃ after, text = trimEnd text ++ after ∧ Blank after ∧
      (trimEnd text = [] ∨ EndsBare (trimEnd text)) := by
  obtain ⟨kept, after, rfl, rfl | ends, blank⟩ := exists_endsBare text
  · rw [List.nil_append, blank.trimEnd_eq_nil]
    exact ⟨after, rfl, blank, Or.inl rfl⟩
  · rw [trimEnd_append ends blank]
    exact ⟨after, rfl, blank, Or.inr ends⟩

theorem isPrefix_trimEnd (text : List Char) : trimEnd text <+: text := by
  obtain ⟨after, same, -⟩ := exists_trimEnd text
  exact ⟨after, same.symm⟩

/-- Trimming loses blanks only. -/
theorem mem_trim {symbol : Char} {text : List Char} (visible : isBlank symbol = false)
    (isIn : symbol ∈ text) : symbol ∈ trim text := by
  obtain ⟨before, same, isBefore, -⟩ := exists_trimStart text
  obtain ⟨after, same', isAfter, -⟩ := exists_trimEnd (trimStart text)
  rw [same, List.mem_append] at isIn
  have isIn := isIn.resolve_left fun isIn =>
    Bool.false_ne_true (visible.symm.trans (isBefore symbol isIn))
  rw [same', List.mem_append] at isIn
  exact isIn.resolve_right fun isIn =>
    Bool.false_ne_true (visible.symm.trans (isAfter symbol isIn))

theorem trim_of_starts {text : List Char} (starts : text = [] ∨ StartsBare text) :
    trim text = trimEnd text := by
  rcases starts with rfl | starts
  · rfl
  · exact congrArg trimEnd (trimStart_append (List.forall_mem_nil _) starts)

theorem Trimmed.trimEnd_of_starts {text : List Char} (starts : text = [] ∨ StartsBare text) :
    Trimmed (trimEnd text) := by
  obtain ⟨-, -, -, none | ends⟩ := exists_trimEnd text
  · exact Or.inl none
  · rcases starts with rfl | starts
    · exact Or.inl rfl
    · rcases starts.of_prefix (isPrefix_trimEnd text) with none | starts
      · exact Or.inl none
      · exact Or.inr ⟨starts, ends⟩

theorem trimmed_trim (text : List Char) : Trimmed (trim text) := by
  obtain ⟨-, -, -, starts⟩ := exists_trimStart text
  exact .trimEnd_of_starts starts

namespace Trimmed

variable {text : List Char}

theorem starts (trimmed : Trimmed text) : text = [] ∨ StartsBare text :=
  trimmed.imp_right And.left

theorem trimEnd_eq (trimmed : Trimmed text) : trimEnd text = text := by
  rcases trimmed with rfl | ⟨-, ends⟩
  · rfl
  · have same := trimEnd_append ends (List.forall_mem_nil _)
    rwa [List.append_nil] at same

theorem trim_eq (trimmed : Trimmed text) : trim text = text :=
  (trim_of_starts trimmed.starts).trans trimmed.trimEnd_eq

theorem trim_append {before : List Char} (blank : Blank before) (trimmed : Trimmed text) :
    trim (before ++ text) = text := by
  rcases trimmed with rfl | ⟨starts, ends⟩
  · rw [List.append_nil, blank.trim_eq_nil]
  · have same := trim_around blank starts ends (List.forall_mem_nil _)
    rwa [List.append_nil] at same

end Trimmed

/-- On either side of a character that is no blank, a text is trimmed by itself. -/
theorem trim_append_cons {symbol : Char} (visible : isBlank symbol = false)
    (front back : List Char) :
    trim (front ++ symbol :: back) = trimStart front ++ symbol :: trimEnd back := by
  obtain ⟨before, sameFront, isBefore, starts⟩ := exists_trimStart front
  obtain ⟨after, sameBack, isAfter, ends⟩ := exists_trimEnd back
  have starts : StartsBare (trimStart front ++ symbol :: trimEnd back) := by
    rcases starts with none | starts
    · rw [none]
      exact ⟨symbol, _, rfl, visible⟩
    · exact starts.append _
  have ends : EndsBare (trimStart front ++ symbol :: trimEnd back) := by
    rcases ends with none | ends
    · rw [none]
      exact ⟨_, symbol, rfl, visible⟩
    · have ends := ends.prepend (trimStart front ++ [symbol])
      rwa [List.append_assoc, List.singleton_append] at ends
  have trimmed := trim_around isBefore starts ends isAfter
  rwa [List.append_assoc, List.cons_append, ← List.append_assoc, ← sameFront, ← sameBack] at trimmed

end Text

namespace Settings

open Text

/-! ## Where a comment starts -/

/-- A comment starts behind an ASCII blank where a marker stands, and at the front only where
slashes stand. -/
inductive CommentAt : List Char → Nat → Prop where
  | inner {before marker rest : List Char} {blank : Char} (isBlank : isAsciiBlank blank = true)
      (isMarker : marker ∈ markers) :
      CommentAt (before ++ blank :: (marker ++ rest)) (before.length + 1)
  | front (rest : List Char) : CommentAt (['/', '/'] ++ rest) 0

theorem opensComment_iff {text : List Char} :
    opensComment text = true ↔ ∃ marker ∈ markers, marker <+: text := by
  constructor
  · intro opens
    obtain ⟨marker, isMarker, rest, same⟩ := exists_marker opens
    exact ⟨marker, isMarker, rest, same.symm⟩
  · rintro ⟨marker, isMarker, rest, rfl⟩
    exact opensComment_marker isMarker rest

theorem startsComment_nil (before : Option Char) : startsComment before [] = false := by
  cases before <;> rfl

/-- A comment starts at a place if one starts there behind what stands before it. -/
theorem commentAt_iff {text : List Char} {place : Nat} :
    CommentAt text place ↔
      startsComment (text.take place).getLast? (text.drop place) = true := by
  constructor
  · intro starts
    cases starts with
    | @inner before marker rest blank isBlank isMarker =>
        have sameFront : (before ++ blank :: (marker ++ rest)).take (before.length + 1) =
            before ++ [blank] := by
          rw [List.take_length_add_append, List.take_succ_cons, List.take_zero]
        have sameBack : (before ++ blank :: (marker ++ rest)).drop (before.length + 1) =
            marker ++ rest := by
          rw [List.drop_length_add_append, List.drop_succ_cons, List.drop_zero]
        rw [sameFront, sameBack, List.getLast?_concat, startsComment_some]
        exact ⟨opensComment_marker isMarker rest, isBlank⟩
    | front rest => rfl
  · intro starts
    have whole := List.take_append_drop place text
    have inside : place < text.length := by
      refine Nat.lt_of_not_le fun beyond => ?_
      rw [List.drop_eq_nil_of_le beyond, startsComment_nil] at starts
      cases starts
    cases last : (text.take place).getLast? with
    | none =>
        rw [last] at starts
        obtain ⟨rest, slashes⟩ := exists_slashes starts
        rw [List.getLast?_eq_none_iff] at last
        rw [last, slashes, List.nil_append] at whole
        have zero : place = 0 := by
          have short := congrArg List.length last
          rw [List.length_take, List.length_nil] at short
          omega
        rw [← whole, zero]
        exact .front rest
    | some blank =>
        rw [last, startsComment_some] at starts
        obtain ⟨before, same⟩ := List.getLast?_eq_some_iff.mp last
        obtain ⟨marker, isMarker, rest, opens⟩ := exists_marker starts.1
        have count : place = before.length + 1 := by
          have short := congrArg List.length same
          rw [List.length_take, List.length_append, List.length_singleton] at short
          omega
        rw [same, opens, List.append_assoc, List.singleton_append] at whole
        rw [← whole, count]
        exact .inner starts.2 isMarker

theorem CommentAt.place_lt {text : List Char} {place : Nat} (starts : CommentAt text place) :
    place < text.length := by
  cases starts with
  | inner _ isMarker =>
      rcases mem_markers.mp isMarker with rfl | rfl
      · simp only [List.length_append, List.length_cons]
        omega
      · simp only [List.length_append, List.length_cons]
        omega
  | front rest => exact Nat.succ_pos _

/-- A comment that starts in the front of a text starts in the text. -/
theorem CommentAt.of_prefix {front text : List Char} {place : Nat}
    (starts : CommentAt front place) (isFront : front <+: text) : CommentAt text place := by
  obtain ⟨after, rfl⟩ := isFront
  cases starts with
  | inner isBlank isMarker =>
      rw [List.append_assoc, List.cons_append, List.append_assoc]
      exact .inner isBlank isMarker
  | front rest => exact .front (rest ++ after)

/-- In a text without ASCII blanks a comment starts only at the front. -/
theorem not_commentAt_of_unbroken {text : List Char}
    (unbroken : ∀ symbol ∈ text, isAsciiBlank symbol = false)
    (noSlashes : ¬['/', '/'] <+: text) (place : Nat) : ¬CommentAt text place := by
  intro starts
  cases starts with
  | @inner before marker rest blank isBlank isMarker =>
      have isIn : blank ∈ before ++ blank :: (marker ++ rest) :=
        List.mem_append_right before List.mem_cons_self
      rw [unbroken blank isIn] at isBlank
      cases isBlank
  | front rest => exact noSlashes ⟨rest, rfl⟩

/-! ## What is kept of a value -/

/-- The longest front of a text in which no comment starts. -/
structure Uncommented (text kept : List Char) : Prop where
  isFront : kept <+: text
  quiet : ∀ place < kept.length, ¬CommentAt text place
  longest : ∀ front, front <+: text → (∀ place < front.length, ¬CommentAt text place) →
    front.length ≤ kept.length

theorem getLast?_cons_or (symbol : Char) (text : List Char) (before : Option Char) :
    (symbol :: text).getLast?.or before = text.getLast?.or (some symbol) := by
  rw [List.getLast?_cons]
  cases text.getLast? <;> rfl

/-- The cut is at the first place where a comment starts, or there is none. -/
theorem cutComment_spec (before : Option Char) (text : List Char) :
    cutComment before text <+: text ∧
      (∀ place < (cutComment before text).length,
        startsComment ((text.take place).getLast?.or before) (text.drop place) = false) ∧
      (cutComment before text = text ∨
        startsComment ((text.take (cutComment before text).length).getLast?.or before)
          (text.drop (cutComment before text).length) = true) := by
  induction text generalizing before with
  | nil => exact ⟨List.prefix_rfl, fun place inside => absurd inside (Nat.not_lt_zero place),
      Or.inl rfl⟩
  | cons symbol rest ih =>
      by_cases starts : startsComment before (symbol :: rest) = true
      · rw [cutComment, if_pos starts]
        exact ⟨List.nil_prefix, fun place inside => absurd inside (Nat.not_lt_zero place),
          Or.inr starts⟩
      · obtain ⟨isFront, quiet, cut⟩ := ih (some symbol)
        rw [cutComment, if_neg starts]
        refine ⟨List.cons_prefix_cons.mpr ⟨rfl, isFront⟩, ?_, ?_⟩
        · intro place inside
          cases place with
          | zero => exact Bool.eq_false_iff.mpr starts
          | succ place =>
              rw [List.take_succ_cons, List.drop_succ_cons, getLast?_cons_or]
              exact quiet place (Nat.lt_of_succ_lt_succ inside)
        · rw [List.length_cons, List.take_succ_cons, List.drop_succ_cons, getLast?_cons_or]
          exact cut.imp_left (congrArg (symbol :: ·))

theorem uncommented_cutComment (text : List Char) : Uncommented text (cutComment none text) := by
  obtain ⟨isFront, quiet, cut⟩ := cutComment_spec none text
  simp only [Option.or_none] at quiet cut
  refine ⟨isFront, ?_, ?_⟩
  · intro place inside starts
    exact Bool.false_ne_true ((quiet place inside).symm.trans (commentAt_iff.mp starts))
  · intro front isFront quiet
    rcases cut with whole | starts
    · rw [whole]
      exact isFront.length_le
    · refine Nat.le_of_not_lt fun inside => ?_
      exact quiet _ inside (commentAt_iff.mpr starts)

namespace Uncommented

variable {text kept : List Char}

theorem not_commentAt (uncommented : Uncommented text kept) {front : List Char}
    (isFront : front <+: kept) (place : Nat) : ¬CommentAt front place := fun starts =>
  uncommented.quiet place (Nat.lt_of_lt_of_le starts.place_lt isFront.length_le)
    (starts.of_prefix (isFront.trans uncommented.isFront))

/-- There is one longest front. -/
theorem unique {other : List Char} (uncommented : Uncommented text kept)
    (uncommented' : Uncommented text other) : kept = other := by
  have shorter := uncommented.longest other uncommented'.isFront uncommented'.quiet
  have longer := uncommented'.longest kept uncommented.isFront uncommented.quiet
  exact (List.prefix_of_prefix_length_le uncommented.isFront uncommented'.isFront
    longer).eq_of_length_le shorter

/-- A text without comments is kept. -/
theorem eq_of_quiet (uncommented : Uncommented text kept)
    (quiet : ∀ place, ¬CommentAt text place) : kept = text :=
  uncommented.isFront.eq_of_length_le
    (uncommented.longest text List.prefix_rfl fun place _ => quiet place)

end Uncommented

theorem cutComment_eq_of_quiet {text : List Char} (quiet : ∀ place, ¬CommentAt text place) :
    cutComment none text = text :=
  (uncommented_cutComment text).eq_of_quiet quiet

/-- The value is the part that is kept, and only blanks at its end are lost. -/
theorem valueOf_eq (text : List Char) : valueOf text = trimEnd (cutComment none (trim text)) := by
  have isFront := (uncommented_cutComment (trim text)).isFront
  refine trim_of_starts ?_
  rcases (trimmed_trim text).starts with none | starts
  · rw [none] at isFront ⊢
    exact Or.inl (List.prefix_nil.mp isFront)
  · exact starts.of_prefix isFront

theorem trimmed_valueOf (text : List Char) : Trimmed (valueOf text) := trimmed_trim _

theorem valueOf_quiet (text : List Char) (place : Nat) : ¬CommentAt (valueOf text) place := by
  rw [valueOf_eq]
  exact (uncommented_cutComment (trim text)).not_commentAt (isPrefix_trimEnd _) place

/-- A value is read back behind a blank. -/
theorem valueOf_again {value : List Char} (trimmed : Trimmed value)
    (quiet : ∀ place, ¬CommentAt value place) : valueOf (trimEnd (' ' :: value)) = value := by
  have blank : Blank [' '] := List.forall_mem_singleton.mpr rfl
  have kept : trim (trimEnd (' ' :: value)) = value := by
    rcases trimmed with rfl | ⟨starts, ends⟩
    · rfl
    · have same := trimEnd_append (ends.prepend [' ']) (List.forall_mem_nil _)
      rw [List.append_nil] at same
      exact (congrArg trim same).trans (Trimmed.trim_append blank (Or.inr ⟨starts, ends⟩))
  rw [valueOf, kept, cutComment_eq_of_quiet quiet, trimmed.trim_eq]

/-! ## Keys -/

theorem eq_of_joinWords {symbol sign : Char} (isSign : sign ∈ signs)
    (same : joinWords symbol = sign) : symbol = sign := by
  unfold joinWords at same
  split at same
  · rw [← same] at isSign
    exact absurd isSign (by decide)
  · exact same

theorem isBlank_of_joinWords {symbol : Char} (blank : isBlank (joinWords symbol) = true) :
    isBlank symbol = true := by
  unfold joinWords at blank
  split at blank
  · cases blank
  · exact blank

theorem mem_of_mem_keyOf {sign : Char} {name : List Char} (isSign : sign ∈ signs)
    (isIn : sign ∈ keyOf name) : sign ∈ name := by
  obtain ⟨symbol, isIn, same⟩ := List.mem_map.mp isIn
  rw [eq_of_joinWords isSign same] at isIn
  exact mem_of_mem_trim (mem_of_mem_lowerAfter isSign isIn)

theorem keyOf_starts (name : List Char) : keyOf name = [] ∨ StartsBare (keyOf name) := by
  rcases (trimmed_trim name).starts with none | ⟨symbol, rest, same, visible⟩
  · rw [keyOf, none]
    exact Or.inl rfl
  · obtain ⟨first, more, lowers, -, lowered⟩ := exists_lowerAfter_cons [] symbol rest
    rw [keyOf, same, lower, lowered]
    refine Or.inr ⟨joinWords first, _, List.map_cons, ?_⟩
    refine Bool.eq_false_iff.mpr fun blank => ?_
    exact Bool.false_ne_true (visible.symm.trans (lowers.blank (isBlank_of_joinWords blank)))

/-- A key with a blank behind it opens a comment only if its name does. -/
theorem opensComment_of_lowered {name tail : List Char}
    (opens : opensComment ((lower name).map joinWords ++ ' ' :: tail) = true) :
    opensComment name = true := by
  cases name with
  | nil => cases opens
  | cons symbol rest =>
      obtain ⟨first, more, lowers, marks, lowered⟩ := exists_lowerAfter_cons [] symbol rest
      obtain ⟨marker, isMarker, after, same⟩ := exists_marker opens
      rw [lower, lowered, List.map_cons, List.cons_append] at same
      rcases mem_markers.mp isMarker with rfl | rfl
      · have isHash := eq_of_joinWords (by decide) (List.cons_eq_cons.mp same).1
        rw [lowers.sign '#' (by decide) isHash]
        rfl
      · obtain ⟨isSlash, same⟩ := List.cons_eq_cons.mp same
        have isSlash := lowers.sign '/' (by decide) (eq_of_joinWords (by decide) isSlash)
        rcases marks with rfl | ⟨isDotted, -⟩
        · cases rest with
          | nil => cases same
          | cons next others =>
              obtain ⟨second, more, lowers, -, lowered⟩ :=
                exists_lowerAfter_cons [symbol] next others
              rw [List.nil_append, lowered, List.map_cons, List.cons_append] at same
              have isNext := eq_of_joinWords (by decide) (List.cons_eq_cons.mp same).1
              rw [isSlash, lowers.sign '/' (by decide) isNext]
              rfl
        · rw [isSlash] at isDotted
          cases isDotted

theorem opensComment_of_front {front text : List Char} (isFront : front <+: text)
    (opens : opensComment front = true) : opensComment text = true := by
  obtain ⟨marker, isMarker, isMarked⟩ := opensComment_iff.mp opens
  exact opensComment_iff.mpr ⟨marker, isMarker, isMarked.trans isFront⟩

theorem opensComment_keyOf {name : List Char} (starts : name = [] ∨ StartsBare name)
    (silent : opensComment name = false) (tail : List Char) :
    opensComment (keyOf name ++ ' ' :: tail) = false := by
  refine Bool.eq_false_iff.mpr fun opens => ?_
  have opens := opensComment_of_lowered opens
  rw [trim_of_starts starts] at opens
  exact Bool.false_ne_true (silent.symm.trans (opensComment_of_front (isPrefix_trimEnd name) opens))

/-! ## Entries -/

/-- A line that is no comment and has an equals sign holds an entry. -/
theorem entry?_of_assigned {line name value : List Char} (same : trim line = name ++ '=' :: value)
    (absent : '=' ∉ name) (opens : opensComment (trim line) = false) :
    entry? line = some (keyOf name, valueOf value) := by
  have filled : (trim line).isEmpty = false := by
    rw [same]
    exact List.isEmpty_eq_false_iff.mpr
      (List.append_ne_nil_of_right_ne_nil name (List.cons_ne_nil _ _))
  simp only [ entry?, opens, filled, Bool.or_false, Bool.false_eq_true, if_false]
  rw [same, splitEquals?_append absent]
  rfl

theorem entry?_eq_none_iff {line : List Char} :
    entry? line = none ↔
      trim line = [] ∨ (∃ marker ∈ markers, marker <+: trim line) ∨ '=' ∉ trim line := by
  constructor
  · intro nothing
    by_cases assigned : '=' ∈ trim line
    · obtain ⟨name, value, same, absent⟩ := List.eq_append_cons_of_mem assigned
      refine Or.inr (Or.inl (opensComment_iff.mp ?_))
      by_contra silent
      rw [ entry?_of_assigned same absent (Bool.eq_false_iff.mpr silent)] at nothing
      cases nothing
    · exact Or.inr (Or.inr assigned)
  · rintro (empty | opens | absent)
    · exact entry?_eq_none_of_blank empty
    · exact entry?_eq_none_of_comment (opensComment_iff.mpr opens)
    · simp only [ entry?, splitEquals?_of_not_mem absent, Option.map_none, ite_self]

/-- What an entry is made from. -/
theorem exists_entry {line key value : List Char} (holds : entry? line = some (key, value)) :
    ∃ name after, trim line = name ++ '=' :: after ∧ '=' ∉ name ∧
      opensComment (trim line) = false ∧ key = keyOf name ∧ value = valueOf after := by
  have silent : opensComment (trim line) = false := by
    refine Bool.eq_false_iff.mpr fun opens => ?_
    rw [ entry?_eq_none_of_comment opens] at holds
    cases holds
  by_cases assigned : '=' ∈ trim line
  · obtain ⟨name, after, same, absent⟩ := List.eq_append_cons_of_mem assigned
    rw [ entry?_of_assigned same absent silent] at holds
    cases holds
    exact ⟨name, after, same, absent, silent, rfl, rfl⟩
  · rw [ entry?_eq_none_iff.mpr (Or.inr (Or.inr assigned))] at holds
    cases holds

/-- A line that opens no comment has an entry if it has an equals sign: the key stands before the
first one, and the value behind it, up to the first comment. -/
theorem entry?_eq_some_iff {line key value : List Char} :
    entry? line = some (key, value) ↔
      ∃ name after kept, trim line = name ++ '=' :: after ∧ '=' ∉ name ∧
        (∀ marker ∈ markers, ¬marker <+: trim line) ∧ key = keyOf name ∧
        Uncommented (trim after) kept ∧ value = trimEnd kept := by
  constructor
  · intro holds
    obtain ⟨name, after, same, absent, silent, isKey, isValue⟩ := exists_entry holds
    refine ⟨name, after, _, same, absent, fun marker isMarker opens => ?_, isKey,
      uncommented_cutComment (trim after), isValue.trans (valueOf_eq after)⟩
    exact Bool.false_ne_true (silent.symm.trans (opensComment_iff.mpr ⟨marker, isMarker, opens⟩))
  · rintro ⟨name, after, kept, same, absent, silent, rfl, uncommented, rfl⟩
    have noComment : opensComment (trim line) = false := by
      refine Bool.eq_false_iff.mpr fun opens => ?_
      obtain ⟨marker, isMarker, opens⟩ := opensComment_iff.mp opens
      exact silent marker isMarker opens
    rw [ entry?_of_assigned same absent noComment, valueOf_eq,
      (uncommented_cutComment (trim after)).unique uncommented]

/-- A value that is written behind its key is read back. -/
theorem exists_entry_again {name value : List Char} (absent : '=' ∉ name)
    (starts : name = [] ∨ StartsBare name) (silent : opensComment name = false)
    (trimmed : Trimmed value) (quiet : ∀ place, ¬CommentAt value place) :
    ∃ key, entry? (keyOf name ++ ' ' :: '=' :: ' ' :: value) = some (key, value) := by
  have regroup : keyOf name ++ ' ' :: '=' :: ' ' :: value =
      keyOf name ++ [' '] ++ '=' :: ' ' :: value :=
    List.append_cons _ _ _
  have same := @trim_append_cons '=' rfl (keyOf name ++ [' ']) (' ' :: value)
  rw [← regroup] at same
  rcases keyOf_starts name with none | bare
  · have gone : trimStart (keyOf name ++ [' ']) = [] := by
      rw [none]
      rfl
    rw [gone] at same
    refine ⟨keyOf [], ?_⟩
    rw [ entry?_of_assigned same List.not_mem_nil (same ▸ rfl), valueOf_again trimmed quiet]
  · have kept : trimStart (keyOf name ++ [' ']) = keyOf name ++ [' '] :=
      trimStart_append (List.forall_mem_nil _) (bare.append [' '])
    rw [kept] at same
    have absent' : '=' ∉ keyOf name ++ [' '] := by
      intro isIn
      rcases List.mem_append.mp isIn with isIn | isIn
      · exact absent (mem_of_mem_keyOf (by decide) isIn)
      · exact absurd isIn (by decide)
    have silent' : opensComment (trim (keyOf name ++ ' ' :: '=' :: ' ' :: value)) = false := by
      rw [same, List.append_assoc]
      exact opensComment_keyOf starts silent _
    refine ⟨keyOf (keyOf name ++ [' ']), ?_⟩
    rw [ entry?_of_assigned same absent' silent', valueOf_again trimmed quiet]

/-- A line holds no entry exactly if it is blank, a comment or without an equals sign. Else the
value is the longest front of what stands behind the first equals sign in which no comment starts,
without the blanks at its end. So no comment starts in a value, a text in which none starts is kept
whole, above all one without ASCII blanks that does not begin with slashes, and a value that is
written behind its key is read back. -/
theorem entry_ends_at_comment (line : List Char) :
    ( entry? line = none ↔
      trim line = [] ∨ (∃ marker ∈ markers, marker <+: trim line) ∨ '=' ∉ trim line) ∧
    ∀ key value, entry? line = some (key, value) →
      ∃ name after, trim line = name ++ '=' :: after ∧ '=' ∉ name ∧ key = keyOf name ∧
        (∃ kept, Uncommented (trim after) kept ∧ value = trimEnd kept) ∧
        (∀ place, ¬CommentAt value place) ∧
        ((∀ place, ¬CommentAt (trim after) place) → value = trim after) ∧
        ((∀ symbol ∈ trim after, isAsciiBlank symbol = false) → ¬['/', '/'] <+: trim after →
          value = trim after) ∧
        ∃ key', entry? (key ++ ' ' :: '=' :: ' ' :: value) = some (key', value) := by
  refine ⟨entry?_eq_none_iff, ?_⟩
  intro key value holds
  obtain ⟨name, after, same, absent, silent, rfl, rfl⟩ := exists_entry holds
  have isFront : name <+: trim line := ⟨'=' :: after, same.symm⟩
  have starts : name = [] ∨ StartsBare name := by
    rcases (trimmed_trim line).starts with none | starts
    · rw [none] at isFront
      exact Or.inl (List.prefix_nil.mp isFront)
    · exact starts.of_prefix isFront
  have silent' : opensComment name = false := by
    refine Bool.eq_false_iff.mpr fun opens => ?_
    exact Bool.false_ne_true (silent.symm.trans (opensComment_of_front isFront opens))
  have whole : (∀ place, ¬CommentAt (trim after) place) → valueOf after = trim after := by
    intro quiet
    rw [valueOf_eq, cutComment_eq_of_quiet quiet, (trimmed_trim after).trimEnd_eq]
  exact ⟨name, after, same, absent, rfl,
    ⟨_, uncommented_cutComment (trim after), valueOf_eq after⟩, valueOf_quiet after, whole,
    fun unbroken noSlashes => whole (not_commentAt_of_unbroken unbroken noSlashes),
    exists_entry_again absent starts silent' (trimmed_valueOf after) (valueOf_quiet after)⟩

/-- Slashes of an address, a fragment and a hash at the front stay, and slashes overlap where the
comment starts. -/
theorem entry_ends_at_comment_slashes :
    let line := " /.K=\u00a0#x://y#z=w ///#c".toList
    let value := "#x://y#z=w".toList
    entry? line = some ("/_k".toList, value) ∧ (∀ place, ¬CommentAt value place) ∧
      ∃ key', entry? ("/_k".toList ++ ' ' :: '=' :: ' ' :: value) = some (key', value) := by
  intro line value
  have holds : entry? line = some ("/_k".toList, value) := by decide +kernel
  obtain ⟨-, -, -, -, -, -, quiet, -, -, again⟩ := (entry_ends_at_comment line).2 _ _ holds
  exact ⟨holds, quiet, again⟩

end Settings

end SpeciesBrowser
