import SpeciesBrowser.Proofs.Json.Numbers

/-!
# Passing over a value

Every value of the grammar is passed over, to any depth and whatever is open around it. There is
one lemma for each step of the machine; the induction is on the grammar, and what is open is
carried along.
-/

namespace SpeciesBrowser.Json

/-! ## Where a value starts -/

theorem Frame.ne_closing {symbol : Char} (notBracket : symbol ≠ ']') (notBrace : symbol ≠ '\x7d')
    (frame : Frame) : symbol ≠ frame.closing := by
  cases frame with
  | list => exact notBracket
  | object => exact notBrace

/-- Behind blanks stands something that closes nothing. -/
inductive Starts : List Char → Prop where
  | intro {before tail : List Char} {symbol : Char} (blank : Blank before)
      (visible : isBlank symbol = false) (closesNot : ∀ frame : Frame, symbol ≠ frame.closing) :
      Starts (before ++ symbol :: tail)

theorem starts_cons {symbol : Char} {tail : List Char} (visible : isBlank symbol = false)
    (closesNot : ∀ frame : Frame, symbol ≠ frame.closing) : Starts (symbol :: tail) :=
  Starts.intro blank_nil visible closesNot

theorem Starts.prepend {blanks text : List Char} (starts : Starts text) (blank : Blank blanks) :
    Starts (blanks ++ text) := by
  cases starts with
  | intro blank' visible closesNot =>
      rw [← List.append_assoc]
      exact Starts.intro (blank.append blank') visible closesNot

theorem Starts.append {text : List Char} (starts : Starts text) (more : List Char) :
    Starts (text ++ more) := by
  cases starts with
  | intro blank visible closesNot =>
      rw [List.append_assoc, List.cons_append]
      exact Starts.intro blank visible closesNot

theorem Starts.exists_skipBlanks {text : List Char} (starts : Starts text) :
    ∃ symbol tail, skipBlanks text = symbol :: tail ∧ ∀ frame : Frame, symbol ≠ frame.closing := by
  cases starts with
  | intro blank visible closesNot => exact ⟨_, _, skipBlanks_to blank visible, closesNot⟩

/-! ## Scalars -/

/-- A text that is passed over without opening anything. -/
structure IsScalar (symbol : Char) (tail : List Char) : Prop where
  visible : isBlank symbol = false
  opens_not : symbol ≠ '[' ∧ symbol ≠ '\x7b'
  closes_not : ∀ frame : Frame, symbol ≠ frame.closing
  skips : ∀ rest, Ends rest → Gives (skipScalar symbol (tail ++ rest)) () rest

theorem isScalar_null : IsScalar 'n' ['u', 'l', 'l'] :=
  ⟨rfl, by decide, Frame.ne_closing (by decide) (by decide), fun _ _ => ⟨_, rfl⟩⟩

theorem isScalar_true : IsScalar 't' ['r', 'u', 'e'] :=
  ⟨rfl, by decide, Frame.ne_closing (by decide) (by decide), fun _ _ => ⟨_, rfl⟩⟩

theorem isScalar_false : IsScalar 'f' ['a', 'l', 's', 'e'] :=
  ⟨rfl, by decide, Frame.ne_closing (by decide) (by decide), fun _ _ => ⟨_, rfl⟩⟩

theorem isScalar_string {written : List Char} (isString : IsString written) :
    IsScalar '"' (written ++ ['"']) := by
  refine ⟨rfl, by decide, Frame.ne_closing (by decide) (by decide), fun rest _ => ?_⟩
  rw [List.append_assoc]
  exact widen_of_gives (isString.skipString rest) (Nat.le_succ _)

theorem IsWhole.exists_cons {whole : List Char} (isWhole : IsWhole whole) :
    ∃ first others, whole = first :: others ∧ isDigit first = true := by
  cases isWhole with
  | zero => exact ⟨'0', [], rfl, rfl⟩
  | digits isDigits _ =>
      obtain ⟨first, others, same, digit, -⟩ := isDigits.exists_cons
      exact ⟨first, others, same, (isDigit_eq first).trans digit⟩

/-- Digits are no blanks. -/
theorem isBlank_digit {symbol : Char} (digit : isDigit symbol = true) :
    isBlank symbol = false := by
  rw [Bool.eq_false_iff]
  intro blank
  have isIn := isBlank_iff.mp blank
  simp only [List.mem_cons, List.not_mem_nil, or_false] at isIn
  rcases isIn with rfl | rfl | rfl | rfl
  all_goals cases digit

theorem ne_of_isDigit {symbol other : Char} (digit : isDigit symbol = true)
    (noDigit : isDigit other = false) : symbol ≠ other := by
  rintro rfl
  rw [digit] at noDigit
  cases noDigit

theorem skipScalar_digit {symbol : Char} (digit : isDigit symbol = true) (rest : List Char) :
    skipScalar symbol rest = skipUnsigned (symbol :: rest) := by
  unfold skipScalar
  rw [if_neg (ne_of_isDigit digit rfl), if_neg (ne_of_isDigit digit rfl),
    if_neg (ne_of_isDigit digit rfl), if_neg (ne_of_isDigit digit rfl),
    if_neg (ne_of_isDigit digit rfl), if_pos digit]

theorem Frame.noDigit_closing (frame : Frame) : isDigit frame.closing = false := by
  cases frame <;> rfl

theorem isScalar_number {text : List Char} (isNumber : IsNumber text) :
    ∃ symbol tail, text = symbol :: tail ∧ IsScalar symbol tail := by
  cases isNumber with
  | @intro sign whole fraction exponent isSign isWhole isFraction isExponent =>
      have skips (rest : List Char) (ends : Ends rest) :
          Gives (skipUnsigned (whole ++ (fraction ++ exponent) ++ rest)) () rest := by
        rw [List.append_assoc, List.append_assoc]
        exact skipUnsigned_to isWhole isFraction isExponent ends
      simp only [List.mem_cons, List.not_mem_nil, or_false] at isSign
      rcases isSign with rfl | rfl
      · obtain ⟨first, others, rfl, digit⟩ := isWhole.exists_cons
        refine ⟨first, _, rfl, isBlank_digit digit,
          ⟨ne_of_isDigit digit rfl, ne_of_isDigit digit rfl⟩,
          fun frame => ne_of_isDigit digit frame.noDigit_closing, fun rest ends => ?_⟩
        rw [skipScalar_digit digit]
        exact skips rest ends
      · exact ⟨'-', _, rfl, rfl, by decide, Frame.ne_closing (by decide) (by decide),
          fun rest ends => widen_of_gives (skips rest ends) (Nat.le_succ _)⟩

/-! ## Steps of the machine -/

theorem Frame.opening_list : Frame.list.opening = '[' := rfl

theorem Frame.opening_object : Frame.object.opening = '\x7b' := rfl

theorem Frame.visible_opening (frame : Frame) : isBlank frame.opening = false := by
  cases frame <;> rfl

theorem Frame.visible_closing (frame : Frame) : isBlank frame.closing = false := by
  cases frame <;> rfl

/-- A scalar is passed over at once. -/
theorem skipDue_scalar {frames : List Frame} {text tail rest : List Char} {symbol : Char}
    (scalar : IsScalar symbol tail) (start : skipBlanks text = symbol :: (tail ++ rest))
    (ends : Ends rest) (h : text.length ≤ bound) (h' : rest.length < bound) :
    skipDue bound frames text h = skipEnded bound frames rest h' := by
  obtain ⟨shorter, skipped⟩ := scalar.skips rest ends
  rw [skipDue]
  split
  case h_1 none => cases start.symm.trans none
  case h_2 found =>
    cases start.symm.trans found
    rw [if_neg scalar.opens_not.1, if_neg scalar.opens_not.2, skipped]
    rfl

theorem length_le_bound {text : List Char} (h : text.length < bound) : text.length ≤ bound :=
  Nat.le_of_lt h

theorem length_le_bound_of_shorter {value text : List Char} (shorter : value.length < text.length)
    (h : text.length < bound) : value.length ≤ bound :=
  Nat.le_of_lt (Nat.lt_trans shorter h)

/-- Pass over an item of what is open innermost, and over all that is open around it. -/
def skipItem (bound : Nat) (frame : Frame) (outer : List Frame) (text : List Char)
    (h : text.length < bound) : Result bound Unit :=
  match frame with
  | .list => skipDue bound (.list :: outer) text (length_le_bound h)
  | .object =>
      andThen (skipKey text) fun _ value shorter =>
        skipDue bound (.object :: outer) value (length_le_bound_of_shorter shorter h)

/-- Behind an opening bracket or brace stands its closing one or a first item. -/
theorem skipDue_opening {frame : Frame} {frames : List Frame} {text inside rest : List Char}
    {symbol : Char} (start : skipBlanks text = frame.opening :: inside)
    (opened : skipBlanks inside = symbol :: rest) (h : text.length ≤ bound)
    (h' : inside.length < bound) (h'' : rest.length < bound) :
    skipDue bound frames text h =
      if symbol = frame.closing then skipEnded bound frames rest h''
      else skipItem bound frame frames inside h' := by
  rw [skipDue]
  split
  case h_1 none => cases start.symm.trans none
  case h_2 found =>
    cases start.symm.trans found
    cases frame with
    | list =>
        rw [if_pos Frame.opening_list]
        split
        case h_1 none => cases opened.symm.trans none
        case h_2 found =>
          cases opened.symm.trans found
          rfl
    | object =>
        have notList : ¬Frame.object.opening = '[' := by decide
        rw [if_neg notList, if_pos Frame.opening_object]
        split
        case h_1 none => cases opened.symm.trans none
        case h_2 found =>
          cases opened.symm.trans found
          rfl

/-- Behind a comma stands one more item of what is open innermost. -/
theorem skipEnded_comma {frame : Frame} {frames : List Frame} {text rest : List Char}
    (next : skipBlanks text = ',' :: rest) (h : text.length < bound) (h' : rest.length < bound) :
    skipEnded bound (frame :: frames) text h = skipItem bound frame frames rest h' := by
  rw [skipEnded]
  split
  case h_1 none => cases next.symm.trans none
  case h_2 found =>
    cases next.symm.trans found
    rw [if_pos rfl]
    cases frame <;> rfl

/-- A closing bracket or brace ends what is open innermost. -/
theorem skipEnded_close {frame : Frame} {frames : List Frame} {text rest : List Char}
    (next : skipBlanks text = frame.closing :: rest) (h : text.length < bound)
    (h' : rest.length < bound) :
    skipEnded bound (frame :: frames) text h = skipEnded bound frames rest h' := by
  rw [skipEnded]
  split
  case h_1 none => cases next.symm.trans none
  case h_2 found =>
    cases next.symm.trans found
    cases frame with
    | list => rw [if_neg (by decide), if_pos rfl]
    | object => rw [if_neg (by decide), if_pos rfl]

theorem skipKey_to {before key gap rest : List Char} (blank : Blank before)
    (isKey : IsString key) (blankGap : Blank gap) :
    Gives (skipKey (before ++ '"' :: (key ++ '"' :: (gap ++ ':' :: rest)))) () rest := by
  have start : skipBlanks (before ++ '"' :: (key ++ '"' :: (gap ++ ':' :: rest))) =
      '"' :: (key ++ '"' :: (gap ++ ':' :: rest)) := skipBlanks_to blank rfl
  unfold skipKey
  split
  case h_1 none => cases start.symm.trans none
  case h_2 found =>
    cases start.symm.trans found
    rw [if_pos rfl]
    exact (isKey.skipString _).andThen fun _ =>
      (readColon_to blankGap rest).andThen fun _ => gives_ok _

/-! ## The run -/

theorem Frame.closesNot_opening (frame other : Frame) : frame.opening ≠ other.closing := by
  cases frame <;> cases other <;> decide

theorem IsScalar.starts {symbol : Char} {tail : List Char} (scalar : IsScalar symbol tail) :
    Starts (symbol :: tail) :=
  starts_cons scalar.visible scalar.closes_not

theorem Frame.starts_opening (frame : Frame) (tail : List Char) :
    Starts (frame.opening :: tail) :=
  starts_cons frame.visible_opening frame.closesNot_opening

theorem Written.starts {part : Part} {text : List Char} (written : Written part text) :
    Starts text := by
  induction written with
  | null => exact isScalar_null.starts
  | true => exact isScalar_true.starts
  | false => exact isScalar_false.starts
  | number isNumber =>
      obtain ⟨symbol, tail, rfl, scalar⟩ := isScalar_number isNumber
      exact scalar.starts
  | string isString => exact (isScalar_string isString).starts
  | empty _ => exact Frame.starts_opening _ _
  | full _ _ => exact Frame.starts_opening _ _
  | element blankBefore _ _ ih => exact (ih.append _).prepend blankBefore
  | member blankBefore _ _ _ _ _ _ =>
      exact Starts.intro blankBefore rfl (Frame.ne_closing (by decide) (by decide))
  | one _ ih => exact ih
  | more _ _ ih _ => exact ih.append _

/-- A part of a document is passed over: what comes next is what the machine does at the end of
the part. -/
def Skips : Part → List Char → Prop
  | .value, text =>
      ∀ {bound frames before rest final} h, Blank before → Ends rest →
        (∀ h', Gives (skipEnded bound frames rest h') () final) →
        Gives (skipDue bound frames (before ++ (text ++ rest)) h) () final
  | .item frame, text =>
      ∀ {bound outer rest final} h, Ends rest →
        (∀ blanks h', Blank blanks →
          Gives (skipEnded bound (frame :: outer) (blanks ++ rest) h') () final) →
        Gives (skipItem bound frame outer (text ++ rest) h) () final
  | .items frame, text =>
      ∀ {bound outer rest final} h,
        (∀ h', Gives (skipEnded bound outer rest h') () final) →
        Gives (skipItem bound frame outer (text ++ frame.closing :: rest) h) () final

theorem IsScalar.skips_value {symbol : Char} {tail : List Char} (scalar : IsScalar symbol tail) :
    Skips .value (symbol :: tail) := by
  intro bound frames before rest final h blank ends goes
  have start : skipBlanks (before ++ (symbol :: tail ++ rest)) = symbol :: (tail ++ rest) :=
    skipBlanks_to blank scalar.visible
  have shorter : rest.length < bound := by
    simp only [List.length_append, List.length_cons] at h
    omega
  rw [skipDue_scalar scalar start ends h shorter]
  exact goes shorter

theorem skips_empty (frame : Frame) {blanks : List Char} (blank : Blank blanks) :
    Skips .value (frame.opening :: (blanks ++ [frame.closing])) := by
  intro bound frames before rest final h blank' ends goes
  have start : skipBlanks (before ++ (frame.opening :: (blanks ++ [frame.closing]) ++ rest)) =
      frame.opening :: (blanks ++ [frame.closing] ++ rest) :=
    skipBlanks_to blank' frame.visible_opening
  have closed : skipBlanks (blanks ++ [frame.closing] ++ rest) = frame.closing :: rest := by
    rw [List.append_assoc]
    exact skipBlanks_to blank frame.visible_closing
  have shorter := length_lt_of_skipBlanks start
  have shorter' := length_lt_of_skipBlanks closed
  rw [skipDue_opening start closed h (by omega) (by omega), if_pos rfl]
  exact goes _

theorem Skips.full {frame : Frame} {text : List Char} (skips : Skips (.items frame) text)
    (starts : Starts text) : Skips .value (frame.opening :: (text ++ [frame.closing])) := by
  intro bound frames before rest final h blank ends goes
  have start : skipBlanks (before ++ (frame.opening :: (text ++ [frame.closing]) ++ rest)) =
      frame.opening :: (text ++ [frame.closing] ++ rest) :=
    skipBlanks_to blank frame.visible_opening
  obtain ⟨symbol, tail, opened, closesNot⟩ :=
    ((starts.append [frame.closing]).append rest).exists_skipBlanks
  have shorter := length_lt_of_skipBlanks start
  have shorter' := length_lt_of_skipBlanks opened
  rw [skipDue_opening start opened h (by omega) (by omega), if_neg (closesNot frame)]
  simp only [List.append_assoc]
  exact skips _ goes

theorem Skips.element {before text after : List Char} (skips : Skips .value text)
    (blankBefore : Blank before) (blankAfter : Blank after) :
    Skips (.item .list) (before ++ (text ++ after)) := by
  intro bound outer rest final h ends goes
  simp only [List.append_assoc]
  exact skips _ blankBefore (ends_blank blankAfter ends) fun h' => goes after h' blankAfter

theorem Skips.member {before key gap gap' text after : List Char} (skips : Skips .value text)
    (blankBefore : Blank before) (isKey : IsString key) (blankGap : Blank gap)
    (blankGap' : Blank gap') (blankAfter : Blank after) :
    Skips (.item .object)
      (before ++ '"' :: (key ++ '"' :: (gap ++ ':' :: (gap' ++ (text ++ after))))) := by
  intro bound outer rest final h ends goes
  simp only [List.append_assoc, List.cons_append]
  exact (skipKey_to blankBefore isKey blankGap).andThen fun _ =>
    skips _ blankGap' (ends_blank blankAfter ends) fun h' => goes after h' blankAfter

theorem Frame.ends_closing (frame : Frame) (rest : List Char) : Ends (frame.closing :: rest) :=
  ends_cons (by cases frame <;> decide)

theorem Skips.one {frame : Frame} {text : List Char} (skips : Skips (.item frame) text) :
    Skips (.items frame) text := by
  intro bound outer rest final h goes
  refine skips h (frame.ends_closing rest) fun blanks h' blank => ?_
  have next : skipBlanks (blanks ++ frame.closing :: rest) = frame.closing :: rest :=
    skipBlanks_to blank frame.visible_closing
  have shorter := length_lt_of_skipBlanks next
  rw [skipEnded_close next h' (by omega)]
  exact goes _

theorem Skips.more {frame : Frame} {text texts : List Char} (skips : Skips (.item frame) text)
    (skips' : Skips (.items frame) texts) : Skips (.items frame) (text ++ ',' :: texts) := by
  intro bound outer rest final h goes
  simp only [List.append_assoc, List.cons_append]
  refine skips _ (ends_cons List.mem_cons_self) fun blanks h' blank => ?_
  have next : skipBlanks (blanks ++ ',' :: (texts ++ frame.closing :: rest)) =
      ',' :: (texts ++ frame.closing :: rest) := skipBlanks_to blank rfl
  have shorter := length_lt_of_skipBlanks next
  rw [skipEnded_comma next h' (by omega)]
  exact skips' _ goes

theorem Written.skips {part : Part} {text : List Char} (written : Written part text) :
    Skips part text := by
  -- By induction on the grammar, since the machine itself keeps no track of where a value began.
  induction written with
  | null => exact isScalar_null.skips_value
  | true => exact isScalar_true.skips_value
  | false => exact isScalar_false.skips_value
  | number isNumber =>
      obtain ⟨symbol, tail, rfl, scalar⟩ := isScalar_number isNumber
      exact scalar.skips_value
  | string isString => exact (isScalar_string isString).skips_value
  | empty blank => exact skips_empty _ blank
  | full items ih => exact ih.full items.starts
  | element blankBefore _ blankAfter ih => exact ih.element blankBefore blankAfter
  | member blankBefore isKey blankGap blankGap' _ blankAfter ih =>
      exact ih.member blankBefore isKey blankGap blankGap' blankAfter
  | one _ ih => exact ih.one
  | more _ _ ih ih' => exact ih.more ih'

/-- Any value is passed over, with the blanks before it and nothing after it. -/
theorem IsValue.skipValue {before text rest : List Char} (isValue : IsValue text)
    (blank : Blank before) (ends : Ends rest) :
    Gives (skipValue (before ++ (text ++ rest))) () rest :=
  Written.skips isValue (Nat.le_refl _) blank ends fun h => by
    rw [skipEnded]
    exact gives_ok h

end SpeciesBrowser.Json
