import SpeciesBrowser.Json.Typed
import SpeciesBrowser.Proofs.Json.Skipping

/-!
# Reading values of a known type

A reader reads what a grammar spells if it gives back the spelled value, whatever comes after it.
That holds of the readers of integers and texts, and readers of optional values and of sequences
have it from the readers they are made of.
-/

namespace SpeciesBrowser.Json

/-- A reader gives the values that a grammar spells, and stops where their texts end. -/
structure Reads (reader : Reader α) (spells : List Char → α → Prop) : Prop where
  starts : ∀ {text value}, spells text value → Starts text
  gives : ∀ {before text rest value}, spells text value → Blank before → Ends rest →
    Gives (reader (before ++ (text ++ rest))) value rest

/-! ## Scalars -/

theorem toInt_lt_signedSpan (value : Int64) : value.toInt < Text.signedSpan :=
  value.toInt_lt

/-- A numeral begins with something that is no blank and closes nothing. -/
theorem visible_numeral {symbol : Char} (numeral : symbol = '-' ∨ isDigit symbol = true) :
    isBlank symbol = false ∧ ∀ frame : Frame, symbol ≠ frame.closing := by
  rcases numeral with rfl | digit
  · exact ⟨rfl, Frame.ne_closing (by decide) (by decide)⟩
  · exact ⟨isBlank_digit digit, fun frame => ne_of_isDigit digit frame.noDigit_closing⟩

theorem reads_integer : Reads readInteger SpellsInteger where
  starts := by
    intro text value spelled
    obtain rfl : text = decimal value.toInt := spelled
    obtain ⟨symbol, tail, same, numeral⟩ := exists_cons_decimal value.toInt
    rw [same]
    exact starts_cons (visible_numeral numeral).1 (visible_numeral numeral).2
  gives := by
    intro before text rest value spelled blank ends
    obtain rfl : text = decimal value.toInt := spelled
    have read := readNumber_decimal ends value
    obtain ⟨symbol, tail, same, numeral⟩ := exists_cons_decimal value.toInt
    rw [same] at read ⊢
    have start : skipBlanks (before ++ (symbol :: tail ++ rest)) = symbol :: (tail ++ rest) :=
      skipBlanks_to blank (visible_numeral numeral).1
    unfold readInteger
    split
    case h_1 none => cases start.symm.trans none
    case h_2 found =>
      cases start.symm.trans found
      rw [if_pos numeral]
      refine read.andThen fun shorter => ?_
      dsimp only
      rw [if_pos (toInt_lt_signedSpan value), Int64.ofInt_toInt]
      exact gives_ok _

theorem reads_text : Reads readText SpellsQuoted where
  starts := by
    rintro _ value ⟨_⟩
    exact starts_cons rfl (Frame.ne_closing (by decide) (by decide))
  gives := by
    rintro before _ rest value (@⟨written, _, spelled⟩) blank ends
    have start : skipBlanks (before ++ ('"' :: (written ++ ['"']) ++ rest)) =
        '"' :: (written ++ ['"'] ++ rest) := skipBlanks_to blank rfl
    have read : Gives (readString (written ++ ['"'] ++ rest)) value rest := by
      rw [List.append_assoc]
      exact spelled.readString rest
    unfold readText
    split
    case h_1 none => cases start.symm.trans none
    case h_2 found =>
      cases start.symm.trans found
      rw [if_pos rfl]
      exact widen_of_gives read _

/-! ## Null -/

theorem readOptional_of_notNull (reader : Reader α) {text : List Char}
    (notNull : ∀ tail, skipBlanks text ≠ 'n' :: tail) :
    readOptional reader text = mapValue some (reader text) := by
  unfold readOptional
  split
  case h_1 found => exact absurd found (notNull _)
  case h_2 => rfl

/-- A value that is not null does not begin as null does. -/
theorem Reads.optional {reader : Reader α} {spells : List Char → α → Prop}
    (reads : Reads reader spells)
    (notNull : ∀ {text value rest tail}, spells text value →
      skipBlanks (text ++ rest) ≠ 'n' :: tail) :
    Reads (readOptional reader) (SpellsOptional spells) where
  starts := by
    rintro _ _ (_ | spelled)
    · exact isScalar_null.starts
    · exact reads.starts spelled
  gives := by
    rintro before text rest _ (_ | spelled) blank ends
    · have start : skipBlanks (before ++ (['n', 'u', 'l', 'l'] ++ rest)) =
          'n' :: 'u' :: 'l' :: 'l' :: rest := skipBlanks_to blank rfl
      unfold readOptional
      split
      case h_1 found =>
        cases start.symm.trans found
        split
        case h_1 read =>
          cases read
          exact gives_ok _
        case h_2 failed => cases failed
      case h_2 other => exact absurd start (other _)
    · have notNull' : ∀ tail, skipBlanks (before ++ (text ++ rest)) ≠ 'n' :: tail := by
        intro tail
        rw [skipBlanks_append blank]
        exact notNull spelled
      rw [readOptional_of_notNull reader notNull']
      exact mapValue_of_gives (reads.gives spelled blank ends) some

theorem notNull_integer {text rest tail : List Char} {value : Int64}
    (spelled : SpellsInteger text value) : skipBlanks (text ++ rest) ≠ 'n' :: tail := by
  obtain rfl : text = decimal value.toInt := spelled
  obtain ⟨symbol, others, same, numeral⟩ := exists_cons_decimal value.toInt
  have start : skipBlanks (symbol :: (others ++ rest)) = symbol :: (others ++ rest) :=
    skipBlanks_to blank_nil (visible_numeral numeral).1
  rw [same, List.cons_append, start]
  rintro found
  cases found
  revert numeral
  decide

/-! ## Sequences -/

variable {reader : Reader α} {spells : List Char → α → Prop}

theorem readElements_end {text rest : List Char} (start : skipBlanks text = ']' :: rest) :
    Gives (readElements reader text) [] rest := by
  rw [readElements]
  split
  case h_1 none => cases start.symm.trans none
  case h_2 found =>
    cases start.symm.trans found
    rw [if_pos rfl]
    exact gives_ok _

theorem length_lt_behind_item {text inside after rest : List Char} {symbol : Char}
    (start : skipBlanks text = symbol :: inside) (shorter : after.length < inside.length)
    (shorter' : rest.length < after.length) : rest.length < text.length :=
  Nat.lt_trans shorter' (Nat.lt_trans shorter (length_lt_of_skipBlanks start))

/-- Behind a comma an item is read, and what is left of the list after it. -/
theorem readElements_item (reader : Reader α) {text inside : List Char}
    (start : skipBlanks text = ',' :: inside) (starts : Starts inside) :
    readElements reader text =
      andThen (reader inside) fun value after shorter =>
        andThen (readElements reader after) fun later rest shorter' =>
          .ok ⟨value :: later, rest, length_lt_behind_item start shorter shorter'⟩ := by
  obtain ⟨symbol, tail, opened, closesNot⟩ := starts.exists_skipBlanks
  rw [readElements]
  split
  case h_1 none => cases start.symm.trans none
  case h_2 found =>
    cases start.symm.trans found
    rw [if_neg (by decide), if_pos rfl]
    split
    case h_1 none => cases opened.symm.trans none
    case h_2 closed =>
      cases opened.symm.trans closed
      exact absurd rfl (closesNot .list)
    case h_3 => rfl

theorem readElements_more {text next rest after : List Char} {value : α} {values : List α}
    (start : skipBlanks text = ',' :: next) (starts : Starts next)
    (read : Gives (reader next) value rest)
    (later : Gives (readElements reader rest) values after) :
    Gives (readElements reader text) (value :: values) after := by
  rw [readElements_item reader start starts]
  exact read.andThen fun _ => later.andThen fun _ => gives_ok _

/-- What opens no list is not expected where a list should stand. -/
theorem readSequence_unexpected (reader : Reader α) {text rest : List Char} {symbol : Char}
    (start : skipBlanks text = symbol :: rest) (opensNot : symbol ≠ '[') :
    readSequence reader text = unexpected .sequence symbol rest := by
  unfold readSequence
  split
  case h_1 none => cases start.symm.trans none
  case h_2 found =>
    cases start.symm.trans found
    rw [if_neg opensNot]

/-- Behind an opening bracket a first item is read, and what is left of the list after it. -/
theorem readSequence_item (reader : Reader α) {text inside : List Char}
    (start : skipBlanks text = '[' :: inside) (starts : Starts inside) :
    readSequence reader text =
      andThen (reader inside) fun value after shorter =>
        andThen (readElements reader after) fun later rest shorter' =>
          .ok ⟨value :: later, rest, length_lt_behind_item start shorter shorter'⟩ := by
  obtain ⟨symbol, tail, opened, closesNot⟩ := starts.exists_skipBlanks
  have notClosed : symbol ≠ ']' := closesNot .list
  unfold readSequence
  split
  case h_1 none => cases start.symm.trans none
  case h_2 found =>
    cases start.symm.trans found
    rw [if_pos rfl]
    split
    case h_1 none => cases opened.symm.trans none
    case h_2 found =>
      cases opened.symm.trans found
      rw [if_neg notClosed]

theorem readSequence_empty {text inside rest : List Char} (start : skipBlanks text = '[' :: inside)
    (closed : skipBlanks inside = ']' :: rest) : Gives (readSequence reader text) [] rest := by
  unfold readSequence
  split
  case h_1 none => cases start.symm.trans none
  case h_2 found =>
    cases start.symm.trans found
    rw [if_pos rfl]
    split
    case h_1 none => cases closed.symm.trans none
    case h_2 found =>
      cases closed.symm.trans found
      rw [if_pos rfl]
      exact gives_ok _

theorem readSequence_full {text inside rest after : List Char} {value : α} {values : List α}
    (start : skipBlanks text = '[' :: inside) (starts : Starts inside)
    (read : Gives (reader inside) value rest)
    (later : Gives (readElements reader rest) values after) :
    Gives (readSequence reader text) (value :: values) after := by
  rw [readSequence_item reader start starts]
  exact read.andThen fun _ => later.andThen fun _ => gives_ok _

/-- The items are read one by one up to the closing bracket: the first one by itself, the others
as what is left of the sequence after it. -/
theorem SpellsItems.read {text : List Char} {values : List α}
    (items : SpellsItems spells text values)
    (reads : Reads reader spells) (rest : List Char) :
    Starts text ∧ ∃ value others after, values = value :: others ∧
      Gives (reader (text ++ ']' :: rest)) value after ∧
      Gives (readElements reader after) others rest := by
  induction items with
  | @one before text after value blankBefore spelled blankAfter =>
      have ends : Ends (after ++ ']' :: rest) := ends_blank blankAfter (ends_cons (by decide))
      refine ⟨((reads.starts spelled).append after).prepend blankBefore,
        value, [], after ++ ']' :: rest, rfl, ?_, ?_⟩
      · rw [List.append_assoc, List.append_assoc]
        exact reads.gives spelled blankBefore ends
      · exact readElements_end (skipBlanks_to blankAfter rfl)
  | @more before text after texts value values blankBefore spelled blankAfter _ ih =>
      obtain ⟨starts, next, others, after', rfl, read, later⟩ := ih
      have ends : Ends (after ++ ',' :: (texts ++ ']' :: rest)) :=
        ends_blank blankAfter (ends_cons List.mem_cons_self)
      refine ⟨((reads.starts spelled).append _).prepend blankBefore,
        value, next :: others, after ++ ',' :: (texts ++ ']' :: rest), rfl, ?_, ?_⟩
      · rw [List.append_assoc, List.append_assoc, List.append_assoc, List.cons_append]
        exact reads.gives spelled blankBefore ends
      · exact readElements_more (skipBlanks_to blankAfter rfl) (starts.append _) read later

/-- A reader of items gives a reader of lists of them. -/
theorem Reads.sequence (reads : Reads reader spells) :
    Reads (readSequence reader) (SpellsList spells) where
  starts := by
    rintro _ _ (_ | _)
    · exact Frame.starts_opening .list _
    · exact Frame.starts_opening .list _
  gives := by
    rintro before _ rest _ (@⟨blanks, blank'⟩ | @⟨inside, values, items⟩) blank ends
    · have start : skipBlanks (before ++ ('[' :: (blanks ++ [']']) ++ rest)) =
          '[' :: (blanks ++ [']'] ++ rest) := skipBlanks_to blank rfl
      have closed : skipBlanks (blanks ++ [']'] ++ rest) = ']' :: rest := by
        rw [List.append_assoc]
        exact skipBlanks_to blank' rfl
      exact readSequence_empty start closed
    · have start : skipBlanks (before ++ ('[' :: (inside ++ [']']) ++ rest)) =
          '[' :: (inside ++ [']'] ++ rest) := skipBlanks_to blank rfl
      obtain ⟨starts, value, others, after, rfl, read, later⟩ := items.read reads rest
      refine readSequence_full start ((starts.append _).append _) ?_ later
      rw [List.append_assoc]
      exact read

end SpeciesBrowser.Json
