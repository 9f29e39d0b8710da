import SpeciesBrowser.Proofs.Text.Numerals
import SpeciesBrowser.Screen.Rows

/-!
# Columns of a list

The secondary labels of a page start in one column, which the widest primary label decides as long
as it is not too wide. A row leaves that column for its own id or its own primary label only, and
moves no other row.
-/

namespace SpeciesBrowser

namespace Text

theorem plain_of_isDigit {symbol : Char} (digit : symbol.isDigit = true) :
    isPlainAscii symbol = true := by
  rw [isDigit_iff] at digit
  have low : '0'.toNat ≤ symbol.toNat := digit.1
  have high : symbol.toNat ≤ '9'.toNat := digit.2
  simp only [isPlainAscii, isBetween, Bool.and_eq_true, decide_eq_true_eq]
  exact ⟨Nat.le_trans (by decide) low, Nat.le_trans high (by decide)⟩

theorem IsInteger.plain {text : List Char} {value : Int} (integer : IsInteger text value) :
    ∀ symbol ∈ text, isPlainAscii symbol = true := by
  obtain ⟨digits, _, decimal, forms⟩ := integer
  have plain : ∀ symbol ∈ digits, isPlainAscii symbol = true :=
    fun symbol member => plain_of_isDigit (decimal.digit symbol member)
  obtain ⟨-, rfl | rfl⟩ | ⟨-, rfl⟩ := forms
  · exact plain
  · exact List.forall_mem_cons.mpr ⟨rfl, plain⟩
  · exact List.forall_mem_cons.mpr ⟨rfl, plain⟩

/-- A table is looked through from its first range on. -/
theorem inRanges_eq (ranges : Array CharRange) (symbol : Char) :
    inRanges ranges symbol = ranges.toList.any fun (first, last) => isBetween first last symbol :=
  Array.any_toList.symm

end Text

open Text

namespace Row

/-- The columns that the primary label takes; an absent one takes none. -/
def primaryColumns (row : Row) : Nat := Text.width (row.primary.getD "").toList

/-- The number of symbols that the id is written with. -/
def idLength (row : Row) : Nat := (toString row.id).toList.length

end Row

namespace Screen

/-- The columns that spans take when they are drawn one after another. -/
def spansWidth : List Span → Nat
  | [] => 0
  | span :: rest => span.width + spansWidth rest

def secondarySpan (row : Row) : Span :=
  { text := (row.secondary.getD "").toList, style := { colour := some Palette.quiet } }

/-- The column of a row's line that the secondary label starts in, behind all other spans. -/
def secondaryColumn (row : Row) (primaryWidth : Nat) : Nat :=
  spansWidth (rowSpans row primaryWidth).dropLast

/-- The lines of a page, one for every row. -/
def pageLines (rows : List Row) : List (List Span) :=
  rows.map (rowSpans · (primaryWidth rows))

/-! ## Drawing -/

theorem dropColumns_dropColumns (area : Area) (first second : Nat) :
    (area.dropColumns first).dropColumns second = area.dropColumns (first + second) := by
  simp only [Area.dropColumns, Area.mk.injEq, and_true, true_and]
  omega

/-- Spans are drawn from the column on where those before them end. -/
theorem writeSpans_append (canvas : Canvas) (area : Area) (first second : List Span) :
    canvas.writeSpans area (first ++ second) =
      (canvas.writeSpans area first).writeSpans (area.dropColumns (spansWidth first)) second := by
  induction first generalizing canvas area with
  | nil => rfl
  | cons span first ih =>
      rw [List.cons_append, Canvas.writeSpans, Canvas.writeSpans, spansWidth]
      by_cases blank : span.width = 0
      · rw [if_pos blank, if_pos blank, ih, blank, Nat.zero_add]
      · rw [if_neg blank, if_neg blank, ih, dropColumns_dropColumns]

/-! ## Spans before the secondary label -/

theorem plain_blanks (count : Nat) : ∀ symbol ∈ blanks count, isPlainAscii symbol = true := by
  intro symbol member
  rw [List.eq_of_mem_replicate member]
  rfl

theorem width_blanks (count : Nat) : Text.width (blanks count) = count := by
  rw [width_of_isPlainAscii (plain_blanks count), blanks, List.length_replicate]

theorem width_idText (row : Row) : Text.width (idText row) = max 6 (1 + row.idLength) := by
  have digits : ∀ symbol ∈ (toString row.id).toList, isPlainAscii symbol = true :=
    (isInteger_repr row.id.toInt).plain
  have plain : ∀ symbol ∈ idText row, isPlainAscii symbol = true :=
    List.forall_mem_cons.mpr ⟨rfl, List.forall_mem_append.mpr ⟨digits, plain_blanks _⟩⟩
  have length : (idText row).length = 1 + (row.idLength + (5 - row.idLength)) := by
    rw [idText, List.length_cons, List.length_append, blanks, List.length_replicate, Nat.add_comm]
    rfl
  rw [width_of_isPlainAscii plain, length]
  omega

/-- The id fills its column or reaches beyond it, the primary label likewise, and two blanks
follow. -/
theorem secondaryColumn_eq (row : Row) (width : Nat) :
    secondaryColumn row width =
      max 6 (1 + row.idLength) + max width row.primaryColumns + 2 := by
  have spans : secondaryColumn row width =
      Text.width (idText row) +
        (row.primaryColumns + (Text.width (blanks (width - row.primaryColumns + 2)) + 0)) := rfl
  rw [spans, width_idText, width_blanks]
  omega

/-- What a label takes beyond the width of its column moves the secondary label. -/
theorem secondaryColumn_excess (row : Row) (width : Nat) :
    secondaryColumn row width =
      secondaryColumn { row with primary := none } width + (row.primaryColumns - width) := by
  have blank : Row.primaryColumns { row with primary := none } = 0 := rfl
  have sameId : Row.idLength { row with primary := none } = row.idLength := rfl
  rw [secondaryColumn_eq, secondaryColumn_eq, blank, sameId]
  omega

theorem writeSpans_rowSpans (canvas : Canvas) (area : Area) (row : Row) (width : Nat) :
    canvas.writeSpans area (rowSpans row width) =
      (canvas.writeSpans area (rowSpans row width).dropLast).writeSpans
        (area.dropColumns (secondaryColumn row width)) [secondarySpan row] :=
  writeSpans_append canvas area (rowSpans row width).dropLast [secondarySpan row]

/-! ## The width of a page -/

variable {rows : List Row} {row : Row}

/-- Absent labels do not count for the widest one, as if they were blank. -/
theorem foldl_present (rows : List Row) (start : Nat) :
    (rows.filterMap fun row => row.primary.map fun label => Text.width label.toList).foldl max
        start =
      (rows.map Row.primaryColumns).foldl max start := by
  induction rows generalizing start with
  | nil => rfl
  | cons row rows ih =>
      cases label : row.primary with
      | none =>
          have blank : row.primaryColumns = 0 := by
            rw [Row.primaryColumns, label]
            rfl
          rw [List.filterMap_cons_none (by rw [label]; rfl), List.map_cons, List.foldl_cons, blank,
            Nat.max_zero, ih]
      | some text =>
          have columns : row.primaryColumns = Text.width text.toList := by
            rw [Row.primaryColumns, label]
            rfl
          rw [List.filterMap_cons_some (by rw [label]; rfl), List.map_cons, List.foldl_cons,
            List.foldl_cons, columns, ih]

theorem primaryWidth_eq (rows : List Row) :
    primaryWidth rows = min 24 ((rows.map Row.primaryColumns).max?.getD 0) := by
  rw [primaryWidth, foldl_present, List.foldl_max, Nat.zero_max]
  rfl

theorem le_primaryWidth (member : row ∈ rows) (narrow : row.primaryColumns ≤ 24) :
    row.primaryColumns ≤ primaryWidth rows := by
  rw [primaryWidth_eq]
  exact Nat.le_min.mpr ⟨narrow, List.le_max?_getD_of_mem (List.mem_map_of_mem member)⟩

theorem secondaryColumn_of_fits (member : row ∈ rows) (short : row.idLength ≤ 5)
    (narrow : row.primaryColumns ≤ 24) :
    secondaryColumn row (primaryWidth rows) = 6 + primaryWidth rows + 2 := by
  have fits : row.primaryColumns ≤ primaryWidth rows := le_primaryWidth member narrow
  rw [secondaryColumn_eq]
  omega

theorem primaryWidth_of_wide (member : row ∈ rows) (wide : 24 ≤ row.primaryColumns) :
    primaryWidth rows = 24 := by
  rw [primaryWidth_eq, Nat.min_eq_left]
  exact Nat.le_trans wide (List.le_max?_getD_of_mem (List.mem_map_of_mem member))

theorem exists_widest (filled : rows ≠ []) :
    ∃ widest ∈ rows, (∀ row ∈ rows, row.primaryColumns ≤ widest.primaryColumns) ∧
      primaryWidth rows = min 24 widest.primaryColumns := by
  cases greatest : (rows.map Row.primaryColumns).max? with
  | none => exact absurd (List.map_eq_nil_iff.mp (List.max?_eq_none_iff.mp greatest)) filled
  | some columns =>
      obtain ⟨member, above⟩ := List.max?_eq_some_iff.mp greatest
      obtain ⟨widest, isRow, rfl⟩ := List.mem_map.mp member
      refine ⟨widest, isRow, fun row member => above _ (List.mem_map_of_mem member), ?_⟩
      rw [primaryWidth_eq, greatest, Option.getD_some]

/-- A row whose label fills the widest column that there can be may be exchanged for another such
row, and no other line changes. -/
theorem pageLines_set {index : Nat} {other : Row} (isRow : rows[index]? = some row)
    (wide : 24 ≤ row.primaryColumns) (otherWide : 24 ≤ other.primaryColumns) :
    pageLines (rows.set index other) =
      (pageLines rows).set index (rowSpans other (primaryWidth rows)) := by
  obtain ⟨inside, -⟩ := List.getElem?_eq_some_iff.mp isRow
  have before := primaryWidth_of_wide (List.mem_of_getElem? isRow) wide
  have after := primaryWidth_of_wide (List.mem_set inside other) otherWide
  rw [pageLines, pageLines, before, after, List.map_set]

/-- The primary labels of a page are padded to the widest of them, or to 24 columns if that one is
wider. The secondary label ends its line and is drawn in a column that the id and the primary label
decide, so that rows whose id and whose primary label are not too long share that column. A longer
label moves its own secondary label by what it has beyond the width, and no other line changes with
it. -/
theorem secondary_labels_line_up (rows : List Row) (filled : rows ≠ []) :
    let width := primaryWidth rows
    (∃ widest ∈ rows, (∀ row ∈ rows, row.primaryColumns ≤ widest.primaryColumns) ∧
        width = min 24 widest.primaryColumns) ∧
      (∀ row, (rowSpans row width).getLast? = some (secondarySpan row) ∧
        secondaryColumn row width =
          max 6 (1 + row.idLength) + max width row.primaryColumns + 2 ∧
        ∀ (canvas : Canvas) (area : Area), canvas.writeSpans area (rowSpans row width) =
          (canvas.writeSpans area (rowSpans row width).dropLast).writeSpans
            (area.dropColumns (secondaryColumn row width)) [secondarySpan row]) ∧
      (∀ row ∈ rows, row.idLength ≤ 5 → row.primaryColumns ≤ 24 →
        secondaryColumn row width = 6 + width + 2) ∧
      ∀ index row, rows[index]? = some row → 24 < row.primaryColumns →
        secondaryColumn row width =
            secondaryColumn { row with primary := none } width + (row.primaryColumns - width) ∧
          ∀ other : Row, 24 ≤ other.primaryColumns →
            pageLines (rows.set index other) =
              (pageLines rows).set index (rowSpans other width) := by
  intro width
  refine ⟨exists_widest filled, ?_, ?_, ?_⟩
  · intro row
    exact ⟨rfl, secondaryColumn_eq row width,
      fun canvas area => writeSpans_rowSpans canvas area row width⟩
  · intro row member short narrow
    exact secondaryColumn_of_fits member short narrow
  · intro index row isRow wide
    exact ⟨secondaryColumn_excess row width,
      fun other otherWide => pageLines_set isRow (Nat.le_of_lt wide) otherWide⟩

theorem width_doubleLetter : Text.width "ピ".toList = 2 := by
  have alone : Text.width "ピ".toList = (0 + (charWidth 'ピ' : Int)).toNat := rfl
  -- the kernel looks through the list of these ranges much faster than through the array
  have ownPlace : isExtending 'ピ' = false := by
    rw [isExtending, inRanges_eq]
    decide +kernel
  have wide : charWidth 'ピ' = 2 := by
    rw [charWidth, isColumnless, ownPlace]
    decide +kernel
  rw [alone, wide]
  rfl

/-- Neither an absent label nor a mark that takes no column nor a letter of double width moves a
secondary label; a label of 26 columns moves its own one by two. -/
theorem secondary_labels_line_up_of_four :
    let absent : Row := { id := 25, primary := none, secondary := some "Pikachu" }
    let marked : Row := { id := -1234, primary := some "e\u0301", secondary := none }
    let double : Row := { id := 172, primary := some "ピ", secondary := some "Pichu" }
    let long : Row := { id := 26, primary := some "abcdefghijklmnopqrstuvwxyz", secondary := none }
    let longer : Row := { long with primary := some "abcdefghijklmnopqrstuvwxyz..." }
    let rows := [absent, marked, double, long]
    (rows ≠ [] ∧ rows.map Row.idLength = [2, 5, 3, 2] ∧
        rows.map Row.primaryColumns = [0, 1, 2, 26] ∧ longer.primaryColumns = 29) ∧
      primaryWidth rows = 24 ∧ rows.map (secondaryColumn · 24) = [32, 32, 32, 34] ∧
      pageLines (rows.set 3 longer) = (pageLines rows).set 3 (rowSpans longer 24) := by
  intro absent marked double long longer rows
  have filled : rows ≠ [] := List.cons_ne_nil _ _
  have ids : rows.map Row.idLength = [2, 5, 3, 2] := by decide
  have one : marked.primaryColumns = 1 := by decide +kernel
  have two : double.primaryColumns = 2 := width_doubleLetter
  have many : long.primaryColumns = 26 := by decide +kernel
  have more : longer.primaryColumns = 29 := by decide +kernel
  have width : primaryWidth rows = 24 :=
    @primaryWidth_of_wide rows long (by simp [rows]) (by omega)
  obtain ⟨-, starts, shared, pushed⟩ := secondary_labels_line_up rows filled
  rw [width] at starts shared pushed
  have first : secondaryColumn absent 24 = 32 :=
    shared absent (by simp [rows]) (by decide) (by decide)
  have second : secondaryColumn marked 24 = 32 :=
    shared marked (by simp [rows]) (by decide) (by omega)
  have third : secondaryColumn double 24 = 32 :=
    shared double (by simp [rows]) (by decide) (by omega)
  obtain ⟨moved, alone⟩ := pushed 3 long rfl (by omega)
  have last : secondaryColumn long 24 = 34 := by
    rw [moved, many, (starts _).2.1]
    decide
  refine ⟨⟨filled, ids, ?_, more⟩, width, ?_, alone longer (by omega)⟩
  · simp only [rows, List.map_cons, List.map_nil, one, two, many]
    rfl
  · simp only [rows, List.map_cons, List.map_nil, first, second, third, last]

end Screen

end SpeciesBrowser
