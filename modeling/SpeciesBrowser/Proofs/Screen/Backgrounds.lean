import Mathlib.Data.List.Nodup
import SpeciesBrowser.Screen.Frame

/-!
# Backgrounds

Only the highlighted row of a list has a raised background. Whatever else is written on a canvas
never raises a background, and takes a raised one away at most where a glyph hides columns of its
own line.
-/

namespace SpeciesBrowser.Screen.Canvas

/-- Whether a cell has the background of a highlighted row. -/
def IsRaised (canvas : Canvas) (x y : Nat) : Prop :=
  (canvas.cell x y).background = Palette.raised

/-- What is written raises no background, and lowers raised ones in some lines at most. -/
structure Lowers (before after : Canvas) (lines : Nat → Prop) : Prop where
  width : after.width = before.width
  size : after.cells.size = before.cells.size
  raised : ∀ {x y}, after.IsRaised x y → before.IsRaised x y
  kept : ∀ {x y}, ¬lines y → before.IsRaised x y → after.IsRaised x y

variable {canvas : Canvas} {lines : Nat → Prop}

namespace Lowers

variable {first second third : Canvas}

theorem refl (canvas : Canvas) (lines : Nat → Prop) : Lowers canvas canvas lines :=
  ⟨rfl, rfl, id, fun _ => id⟩

theorem trans (lowers : Lowers first second lines) (lowers' : Lowers second third lines) :
    Lowers first third lines where
  width := lowers'.width.trans lowers.width
  size := lowers'.size.trans lowers.size
  raised := fun raised => lowers.raised (lowers'.raised raised)
  kept := fun outside raised => lowers'.kept outside (lowers.kept outside raised)

/-- Where nothing is lowered all stays as it is. -/
theorem isRaised_iff (lowers : Lowers first second lines) {x y : Nat}
    (outside : first.IsRaised x y → ¬lines y) : second.IsRaised x y ↔ first.IsRaised x y :=
  ⟨lowers.raised, fun raised => lowers.kept (outside raised) raised⟩

theorem flat (lowers : Lowers first second lines) (flat : ∀ x y, ¬first.IsRaised x y) :
    ∀ x y, ¬second.IsRaised x y :=
  fun x y raised => flat x y (lowers.raised raised)

theorem foldl {α : Type} {step : Canvas → α → Canvas} (items : List α) (canvas : Canvas)
    (lowers : ∀ item ∈ items, ∀ canvas, Lowers canvas (step canvas item) lines) :
    Lowers canvas (items.foldl step canvas) lines := by
  induction items generalizing canvas with
  | nil => exact .refl canvas lines
  | cons item items ih =>
      rw [List.forall_mem_cons] at lowers
      exact (lowers.1 canvas).trans (ih _ lowers.2)

end Lowers

/-! ## Cells -/

theorem index_inj {width x y x' y' : Nat} (inside : x < width) (inside' : x' < width)
    (same : y * width + x = y' * width + x') : x = x' ∧ y = y' := by
  have column : x = x' := by
    have rest := congrArg (· % width) same
    simpa [Nat.mul_add_mod, Nat.mod_eq_of_lt inside, Nat.mod_eq_of_lt inside', Nat.mul_comm]
      using rest
  subst column
  exact ⟨rfl, Nat.eq_of_mul_eq_mul_right (by omega) (Nat.add_right_cancel same)⟩

theorem cell_modify_of_ne {x y x' y' : Nat} (canvas : Canvas) (change : Cell → Cell)
    (elsewhere : ¬(x' = x ∧ y' = y)) :
    (canvas.modify x y change).cell x' y' = canvas.cell x' y' := by
  unfold modify
  by_cases inside : x < canvas.width
  · rw [if_pos inside]
    unfold cell
    dsimp only
    by_cases inside' : x' < canvas.width
    · have apart : y * canvas.width + x ≠ y' * canvas.width + x' := fun same =>
        have ⟨column, line⟩ := index_inj inside inside' same
        elsewhere ⟨column.symm, line.symm⟩
      rw [if_pos inside', if_pos inside', Array.getElem?_modify, if_neg apart]
    · rw [if_neg inside', if_neg inside']
  · rw [if_neg inside]

theorem cell_modify_self {x y : Nat} (canvas : Canvas) (change : Cell → Cell) :
    (canvas.modify x y change).cell x y =
      if x < canvas.width ∧ y * canvas.width + x < canvas.cells.size then
        change (canvas.cell x y)
      else canvas.cell x y := by
  unfold modify cell
  by_cases inside : x < canvas.width
  · rw [if_pos inside, if_pos inside, if_pos inside, Array.getElem?_modify, if_pos rfl]
    by_cases low : y * canvas.width + x < canvas.cells.size
    · rw [if_pos ⟨inside, low⟩, Array.getElem?_eq_getElem low]
      rfl
    · rw [if_neg fun both => low both.2, Array.getElem?_eq_none (Nat.le_of_not_lt low)]
      rfl
  · have outside : ¬(x < canvas.width ∧ y * canvas.width + x < canvas.cells.size) :=
      fun both => inside both.1
    rw [if_neg inside, if_neg inside, if_neg outside]

theorem width_modify (canvas : Canvas) (x y : Nat) (change : Cell → Cell) :
    (canvas.modify x y change).width = canvas.width := by
  unfold modify
  split <;> rfl

theorem size_modify (canvas : Canvas) (x y : Nat) (change : Cell → Cell) :
    (canvas.modify x y change).cells.size = canvas.cells.size := by
  unfold modify
  split
  · exact Array.size_modify
  · rfl

theorem lowers_modify {x y : Nat} {change : Cell → Cell} (canvas : Canvas)
    (quiet : ∀ cell, (change cell).background = Palette.raised →
      cell.background = Palette.raised)
    (keeps : ¬lines y → ∀ cell, cell.background = Palette.raised →
      (change cell).background = Palette.raised) :
    Lowers canvas (canvas.modify x y change) lines where
  width := width_modify canvas x y change
  size := size_modify canvas x y change
  raised := by
    intro x' y' raised
    unfold IsRaised at raised ⊢
    by_cases here : x' = x ∧ y' = y
    · obtain ⟨rfl, rfl⟩ := here
      rw [cell_modify_self] at raised
      split at raised
      · exact quiet _ raised
      · exact raised
    · rwa [cell_modify_of_ne canvas change here] at raised
  kept := by
    intro x' y' outside raised
    unfold IsRaised at raised ⊢
    by_cases here : x' = x ∧ y' = y
    · obtain ⟨rfl, rfl⟩ := here
      rw [cell_modify_self]
      split
      · exact keeps outside _ raised
      · exact raised
    · rwa [cell_modify_of_ne canvas change here]

theorem lowers_put (canvas : Canvas) (x y : Nat) (symbols : List Char) (style : Style) :
    Lowers canvas (canvas.put x y symbols style) lines :=
  canvas.lowers_modify (fun _ => id) fun _ _ => id

theorem Lowers.put {before : Canvas} (lowers : Lowers before canvas lines) {x y : Nat}
    {symbols : List Char} {style : Style} : Lowers before (canvas.put x y symbols style) lines :=
  lowers.trans (canvas.lowers_put x y symbols style)

theorem lowers_attach (canvas : Canvas) (x y : Nat) (symbols : List Char) (style : Style) :
    Lowers canvas (canvas.attach x y symbols style) lines :=
  canvas.lowers_modify (fun _ => id) fun _ _ => id

theorem lowers_paintForeground (canvas : Canvas) (area : Area) (colour : Colour) :
    Lowers canvas (canvas.paintForeground area colour) lines :=
  .foldl _ canvas fun _ _ canvas => canvas.lowers_modify (fun _ => id) fun _ _ => id

theorem lowers_clear (canvas : Canvas) {x y columns : Nat} (cleared : 0 < columns → lines y) :
    Lowers canvas (canvas.clear x y columns) lines := by
  refine .foldl _ canvas fun place member canvas => ?_
  have low := List.mem_range.mp member
  refine canvas.lowers_modify (fun _ raised => ?_) fun outside => ?_
  · cases raised
  · exact absurd (cleared (by omega)) outside

/-! ## Texts -/

theorem lowers_writeGlyphs (canvas : Canvas) {start right y x : Nat} {style : Style} {first : Bool}
    {glyphs : List Text.Glyph} (wide : ∀ glyph ∈ glyphs, 1 < glyph.width → lines y) :
    Lowers canvas (canvas.writeGlyphs start right y style x first glyphs) lines := by
  induction glyphs generalizing canvas x first with
  | nil => exact .refl canvas lines
  | cons glyph glyphs ih =>
      rw [List.forall_mem_cons] at wide
      unfold writeGlyphs
      split
      · exact .refl canvas lines
      · refine .trans ?_ ((lowers_clear _ fun hidden => wide.1 (by omega)).trans (ih _ wide.2))
        split
        · exact canvas.lowers_put _ _ _ _
        · split
          · exact canvas.lowers_attach _ _ _ _
          · split
            · exact canvas.lowers_attach _ _ _ _
            · exact canvas.lowers_put _ _ _ _

theorem lowers_writeText (canvas : Canvas) {area : Area} {text : List Char} {style : Style}
    (wide : ∀ glyph ∈ Text.glyphs text, 1 < glyph.width → lines area.y) :
    Lowers canvas (canvas.writeText area text style) lines := by
  unfold writeText
  split
  · exact .refl canvas lines
  · exact canvas.lowers_writeGlyphs wide

theorem lowers_layLine (canvas : Canvas) (y x : Nat) (line : List (Text.Glyph × Style)) :
    Lowers canvas (canvas.layLine y x line) lines := by
  induction line generalizing canvas x with
  | nil => exact .refl canvas lines
  | cons place line ih =>
      unfold layLine
      split
      · exact ih canvas x
      · exact (canvas.lowers_put _ _ _ _).trans (ih _ _)

theorem lowers_writeLine (canvas : Canvas) (area : Area) (spans : List Span) :
    Lowers canvas (canvas.writeLine area spans) lines := by
  unfold writeLine
  split
  · exact .refl canvas lines
  · exact canvas.lowers_layLine _ _ _

theorem lowers_writeSpans (canvas : Canvas) {area : Area} (spans : List Span)
    (line : lines area.y) : Lowers canvas (canvas.writeSpans area spans) lines := by
  induction spans generalizing canvas area with
  | nil => exact .refl canvas lines
  | cons span spans ih =>
      unfold writeSpans
      split
      · exact ih canvas line
      · exact (canvas.lowers_writeText fun _ _ _ => line).trans (ih _ line)

/-! ## Boxes -/

theorem lowers_drawBox (canvas : Canvas) (area : Area) :
    Lowers canvas (canvas.drawBox area) lines := by
  have across : ∀ (canvas : Canvas) (y : Nat), Lowers canvas
      ((List.range area.width).foldl (fun canvas dx =>
        canvas.put (area.x + dx) y ['─'] { colour := some Palette.border }) canvas) lines :=
    fun canvas y => .foldl _ canvas fun _ _ canvas => canvas.lowers_put _ _ _ _
  have down : ∀ (canvas : Canvas) (x : Nat), Lowers canvas
      ((List.range area.height).foldl (fun canvas dy =>
        canvas.put x (area.y + dy) ['│'] { colour := some Palette.border }) canvas) lines :=
    fun canvas x => .foldl _ canvas fun _ _ canvas => canvas.lowers_put _ _ _ _
  unfold drawBox
  split
  · exact .refl canvas lines
  · have edges := (((down canvas area.x).trans (across _ area.y)).trans
      (down _ (area.right - 1))).trans (across _ (area.bottom - 1))
    exact edges.put.put.put.put

theorem lowers_drawListBox (canvas : Canvas) (area : Area) :
    Lowers canvas (canvas.drawListBox area) fun _ => True :=
  (canvas.lowers_drawBox area).trans (lowers_writeText _ fun _ _ _ => trivial)

theorem isRaised_drawFooter (canvas : Canvas) (area : Area) (browser : Browser) (x y : Nat) :
    (canvas.drawFooter area browser).IsRaised x y ↔ canvas.IsRaised x y := by
  have lowers : Lowers canvas (canvas.drawFooter area browser) fun _ => False :=
    (canvas.lowers_drawBox area).trans (lowers_writeLine _ _ _)
  exact lowers.isRaised_iff fun _ => not_false

/-! ## Painting a background -/

/-- Whether the canvas has cells for all of an area. -/
structure Holds (canvas : Canvas) (area : Area) : Prop where
  width : area.right ≤ canvas.width
  size : area.bottom * canvas.width ≤ canvas.cells.size

theorem Lowers.holds {before after : Canvas} (lowers : Lowers before after lines) {area : Area}
    (holds : before.Holds area) : after.Holds area where
  width := by
    rw [lowers.width]
    exact holds.width
  size := by
    rw [lowers.width, lowers.size]
    exact holds.size

theorem Holds.cell {area : Area} (holds : canvas.Holds area) {x y : Nat} (left : x < area.right)
    (above : y < area.bottom) : x < canvas.width ∧ y * canvas.width + x < canvas.cells.size := by
  have inside := Nat.lt_of_lt_of_le left holds.width
  have rows := Nat.mul_le_mul_right canvas.width above
  have size := holds.size
  rw [Nat.succ_mul] at rows
  exact ⟨inside, by omega⟩

theorem Holds.row {area : Area} (holds : canvas.Holds area) {index : Nat}
    (inside : index < area.height) : canvas.Holds (area.row index) where
  width := holds.width
  size := by
    have below : (area.row index).bottom ≤ area.bottom := by
      change area.y + index + 1 ≤ area.y + area.height
      omega
    exact Nat.le_trans (Nat.mul_le_mul_right canvas.width below) holds.size

/-- Raise the background of some cells. -/
def raiseCells (canvas : Canvas) (places : List (Nat × Nat)) : Canvas :=
  places.foldl (fun canvas place =>
    canvas.modify place.1 place.2 ({ · with background := Palette.raised })) canvas

theorem paintBackground_raised (canvas : Canvas) (area : Area) :
    canvas.paintBackground area Palette.raised = canvas.raiseCells area.positions := rfl

theorem isRaised_raiseCells (canvas : Canvas) (places : List (Nat × Nat)) {x y : Nat} :
    (canvas.raiseCells places).IsRaised x y ↔ canvas.IsRaised x y ∨
      (x, y) ∈ places ∧ x < canvas.width ∧ y * canvas.width + x < canvas.cells.size := by
  induction places generalizing canvas with
  | nil => simp [raiseCells]
  | cons place places ih =>
      obtain ⟨x', y'⟩ := place
      refine (ih _).trans ?_
      rw [width_modify, size_modify, List.mem_cons, Prod.mk.injEq]
      by_cases here : x = x' ∧ y = y'
      · obtain ⟨rfl, rfl⟩ := here
        rw [IsRaised, cell_modify_self, IsRaised]
        split
        · simp [*]
        · simp [*]
      · rw [IsRaised, cell_modify_of_ne _ _ here, IsRaised]
        simp [here]

end SpeciesBrowser.Screen.Canvas

namespace SpeciesBrowser.Screen

theorem Area.isEmpty_eq_false_iff {area : Area} :
    area.isEmpty = false ↔ 0 < area.width ∧ 0 < area.height := by
  simp only [Area.isEmpty, Bool.or_eq_false_iff, decide_eq_false_iff_not, Nat.pos_iff_ne_zero]

theorem Area.mem_positions {area : Area} {x y : Nat} :
    (x, y) ∈ area.positions ↔
      (area.y ≤ y ∧ y < area.bottom) ∧ area.x ≤ x ∧ x < area.right := by
  simp only [Area.positions, List.mem_flatMap, List.mem_map, List.mem_range, Prod.mk.injEq,
    Area.bottom, Area.right]
  constructor
  · rintro ⟨dy, low, dx, left, rfl, rfl⟩
    omega
  · rintro ⟨⟨top, bottom⟩, left, right⟩
    exact ⟨y - area.y, by omega, x - area.x, by omega, by omega, by omega⟩

namespace Canvas

variable {canvas : Canvas} {lines : Nat → Prop}

theorem isRaised_paintBackground (flat : ∀ x y, ¬canvas.IsRaised x y) {area : Area}
    (holds : canvas.Holds area) (x y : Nat) :
    (canvas.paintBackground area Palette.raised).IsRaised x y ↔
      (area.y ≤ y ∧ y < area.bottom) ∧ area.x ≤ x ∧ x < area.right := by
  rw [paintBackground_raised, isRaised_raiseCells, Area.mem_positions, or_iff_right (flat x y)]
  exact and_iff_left_of_imp fun inside => holds.cell inside.2.2 inside.1.2

/-! ## Rows -/

/-- What stands before a row is written into its first two columns. -/
theorem lowers_writeMarker (canvas : Canvas) {area : Area} {text : List Char}
    (wide : ∀ glyph ∈ Text.glyphs text, 1 < glyph.width → lines area.y) :
    Lowers canvas (canvas.writeText { area with width := 2 } text {}) lines :=
  canvas.lowers_writeText wide

theorem lowers_drawRow (canvas : Canvas) {area : Area} (row : Row) (primaryWidth : Nat)
    {marking : Option Bool} (plain : marking ≠ some true) (line : lines area.y) :
    Lowers canvas (canvas.drawRow area row primaryWidth marking) lines := by
  rcases marking with _ | _ | _
  · exact canvas.lowers_writeSpans _ line
  · have written : Lowers canvas
        (canvas.writeSpans (area.dropColumns 2) (rowSpans row primaryWidth)) lines :=
      canvas.lowers_writeSpans _ line
    exact written.trans (lowers_writeMarker _ fun _ _ _ => line)
  · exact absurd rfl plain

theorem glyphs_marker : Text.glyphs ['>', ' '] = [⟨['>'], 1⟩, ⟨[' '], 1⟩] := by decide +kernel

/-- On a canvas without raised backgrounds a highlighted row raises its own. -/
theorem isRaised_drawRow (flat : ∀ x y, ¬canvas.IsRaised x y) {area : Area}
    (holds : canvas.Holds area) (single : area.height = 1) (row : Row) (primaryWidth : Nat)
    (x y : Nat) :
    (canvas.drawRow area row primaryWidth (some true)).IsRaised x y ↔
      y = area.y ∧ area.x ≤ x ∧ x < area.right := by
  have written : Lowers canvas
      (canvas.writeSpans (area.dropColumns 2) (rowSpans row primaryWidth)) fun _ => True :=
    canvas.lowers_writeSpans _ trivial
  have painted := isRaised_paintBackground (written.flat flat) (written.holds holds) x y
  -- The marker is narrow, so it hides no column and the background stays below it.
  have narrow : ∀ glyph ∈ Text.glyphs ['>', ' '], 1 < glyph.width → False := by
    rw [glyphs_marker]
    decide
  have marked : Lowers _ (canvas.drawRow area row primaryWidth (some true)) fun _ => False :=
    lowers_writeMarker ((canvas.writeSpans (area.dropColumns 2)
      (rowSpans row primaryWidth)).paintBackground area Palette.raised) narrow
  have line : area.y ≤ y ∧ y < area.bottom ↔ y = area.y := by
    rw [Area.bottom, single]
    omega
  rw [line] at painted
  exact (marked.isRaised_iff fun _ => not_false).trans painted

end Canvas

end SpeciesBrowser.Screen

namespace SpeciesBrowser

/-! ## Windows of rows -/

namespace ListCursor

variable {cursor : ListCursor} {rows : List Row} {height : Nat}

theorem mem_visibleRows {row : Row} {index : Nat} :
    (row, index) ∈ cursor.visibleRows rows height ↔
      rows[index]? = some row ∧ cursor.scroll ≤ index ∧ index < cursor.scroll + height := by
  have found : ∀ place, (cursor.visibleRows rows height)[place]? = some (row, index) ↔
      place < height ∧ rows[cursor.scroll + place]? = some row ∧ cursor.scroll + place = index := by
    intro place
    rw [visibleRows, List.getElem?_take]
    by_cases low : place < height
    · rw [if_pos low, List.getElem?_drop, List.getElem?_zipIdx, Option.map_eq_some_iff]
      simp [low]
    · rw [if_neg low]
      simp [low]
  rw [List.mem_iff_getElem?]
  constructor
  · rintro ⟨place, here⟩
    obtain ⟨low, isRow, rfl⟩ := (found place).mp here
    exact ⟨isRow, by omega, by omega⟩
  · rintro ⟨isRow, start, stop⟩
    refine ⟨index - cursor.scroll, (found _).mpr ⟨by omega, ?_, by omega⟩⟩
    rwa [Nat.add_sub_cancel' start]

theorem nodup_visibleRows : ((cursor.visibleRows rows height).map Prod.snd).Nodup := by
  have whole : (rows.zipIdx.map Prod.snd).Nodup := by
    rw [List.zipIdx_map_snd]
    exact List.nodup_range'
  exact whole.sublist (((List.take_sublist _ _).trans (List.drop_sublist _ _)).map _)

end ListCursor

namespace Screen.Canvas

variable {canvas : Canvas}

/-- Draw a row at its place in the window. -/
def drawNumbered (area : Area) (rows : List Row) (cursor : ListCursor) (canvas : Canvas)
    (item : Row × Nat) : Canvas :=
  canvas.drawRow (area.row (item.2 - cursor.scroll)) item.1 (primaryWidth rows)
    (cursor.highlight.map fun highlight => highlight = item.2)

theorem drawRows_eq (canvas : Canvas) (area : Area) (rows : List Row) (cursor : ListCursor) :
    canvas.drawRows area rows cursor =
      (cursor.visibleRows rows area.height).foldl (drawNumbered area rows cursor) canvas := rfl

/-- The rows of a window raise the background of the highlighted one, and no other. -/
theorem isRaised_drawRows (flat : ∀ x y, ¬canvas.IsRaised x y) {area : Area}
    (holds : canvas.Holds area) {rows : List Row} {cursor : ListCursor} {row : Row} {selected : Nat}
    (highlight : cursor.highlight = some selected)
    (visible : (row, selected) ∈ cursor.visibleRows rows area.height) (x y : Nat) :
    (canvas.drawRows area rows cursor).IsRaised x y ↔
      y = area.y + (selected - cursor.scroll) ∧ area.x ≤ x ∧ x < area.right := by
  obtain ⟨-, start, stop⟩ := ListCursor.mem_visibleRows.mp visible
  obtain ⟨front, back, split⟩ := List.append_of_mem visible
  have others : ∀ item ∈ front ++ back, cursor.scroll ≤ item.2 ∧ item.2 ≠ selected := by
    intro item member
    have nodup := @ListCursor.nodup_visibleRows cursor rows area.height
    rw [split, List.map_append, List.map_cons, List.nodup_middle, List.nodup_cons,
      ← List.map_append] at nodup
    have isVisible : item ∈ cursor.visibleRows rows area.height := by
      rw [split, List.mem_append, List.mem_cons]
      exact (List.mem_append.mp member).imp_right Or.inr
    have numbered : item.2 ∈ (front ++ back).map Prod.snd := List.mem_map_of_mem member
    refine ⟨(ListCursor.mem_visibleRows.mp isVisible).2.1, ?_⟩
    rintro rfl
    exact nodup.1 numbered
  -- The rows before and after the highlighted one leave its line alone.
  have lowers : ∀ items, items ⊆ front ++ back → ∀ canvas,
      Lowers canvas (items.foldl (drawNumbered area rows cursor) canvas)
        fun line => line ≠ area.y + (selected - cursor.scroll) := by
    intro items isPart canvas
    refine .foldl items canvas fun item member canvas => ?_
    obtain ⟨low, other⟩ := others item (isPart member)
    refine canvas.lowers_drawRow item.1 _ ?_ ?_
    · rw [highlight, Option.map_some, decide_eq_false (Ne.symm other)]
      exact fun same => Bool.false_ne_true (Option.some.inj same)
    · change area.y + (item.2 - cursor.scroll) ≠ _
      omega
  have before := lowers front (List.subset_append_left front back) canvas
  have after := lowers back (List.subset_append_right front back)
  have place : selected - cursor.scroll < area.height := by omega
  have drawn := isRaised_drawRow (before.flat flat) (before.holds (holds.row place)) rfl row
    (primaryWidth rows) x y
  rw [drawRows_eq, split, List.foldl_append, List.foldl_cons, drawNumbered, highlight,
    Option.map_some, decide_eq_true rfl]
  refine ((after _).isRaised_iff ?_).trans drawn
  intro raised
  exact not_not_intro (drawn.mp raised).1

/-! ## Frames -/

theorem flat_blank (width height : Nat) (x y : Nat) :
    ¬(blank width height Palette.base).IsRaised x y := by
  unfold IsRaised cell blank
  rw [Array.getElem?_replicate]
  split
  · split
    · decide
    · decide
  · decide

theorem lowers_frameStart (endpoint : String) (width height : Nat) (area : Area) :
    Lowers (blank width height Palette.base)
      ((((blank width height Palette.base).writeLine (frameAreas width height).title
        (titleSpans endpoint)).paintForeground area Palette.text).drawListBox area)
      fun _ => True :=
  ((lowers_writeLine _ _ _).trans (lowers_paintForeground _ _ _)).trans (lowers_drawListBox _ _)

end Screen.Canvas

namespace Browser

open Screen

theorem bottom_list_le (width height : Nat) : (frameAreas width height).list.bottom ≤ height := by
  have bottom : (frameAreas width height).list.bottom =
      (frameHeights height).1 + (frameHeights height).2.1 := rfl
  rw [bottom]
  unfold frameHeights
  split
  · decide
  · decide
  · decide
  · split
    · exact Nat.le_of_eq (Nat.zero_add _)
    · dsimp only
      omega

theorem holds_rowArea {width height : Nat} (room : (rowArea width height).isEmpty = false) :
    (Canvas.blank width height Palette.base).Holds (rowArea width height) := by
  have bottom := bottom_list_le width height
  have columns : (frameAreas width height).list.width = width := rfl
  have left : (frameAreas width height).list.x = 0 := rfl
  rw [Area.isEmpty_eq_false_iff] at room
  simp only [rowArea, Area.inner] at room
  have low : (rowArea width height).bottom ≤ height := by
    simp only [rowArea, Area.inner, Area.bottom] at bottom ⊢
    omega
  constructor
  · change (rowArea width height).right ≤ width
    simp only [rowArea, Area.inner, Area.right]
    omega
  · change (rowArea width height).bottom * width ≤ (Array.replicate (width * height) _).size
    rw [Array.size_replicate, Nat.mul_comm width height]
    exact Nat.mul_le_mul_right width low

theorem drawList_of_ready {browser : Browser} {shown : PageView} {area : Area}
    (ready : browser.view = .ready shown) (filled : shown.rows ≠ [])
    (room : area.inner.isEmpty = false) (canvas : Canvas) :
    browser.drawList canvas area =
      ((canvas.paintForeground area Palette.text).drawListBox area).drawRows area.inner shown.rows
        (browser.cursorIn area.inner) := by
  unfold drawList
  rw [ready]
  dsimp only
  rw [if_neg (by simpa using filled), if_neg (ne_true_of_eq_false room)]

/-- The frame raises the background of the highlighted row, over the width of the list, and no
other. -/
theorem isRaised_frame {browser : Browser} {shown : PageView} {width height : Nat}
    (ready : browser.view = .ready shown) (room : (rowArea width height).isEmpty = false)
    {row : Row} {selected : Nat}
    (highlight : (browser.cursorIn (rowArea width height)).highlight = some selected)
    (visible : (row, selected) ∈ (browser.cursorIn (rowArea width height)).visibleRows shown.rows
      (rowArea width height).height) (x y : Nat) :
    (browser.frame width height).IsRaised x y ↔
      y = (rowArea width height).y +
        (selected - (browser.cursorIn (rowArea width height)).scroll) ∧
      (rowArea width height).x ≤ x ∧ x < (rowArea width height).right := by
  have filled : shown.rows ≠ [] := by
    intro none
    have isRow := (ListCursor.mem_visibleRows.mp visible).1
    rw [none] at isRow
    cases isRow
  have started := Canvas.lowers_frameStart browser.endpoint width height
    (frameAreas width height).list
  have drawn := Canvas.isRaised_drawRows (started.flat (Canvas.flat_blank width height))
    (started.holds (holds_rowArea room)) highlight visible x y
  unfold frame
  dsimp only
  rw [drawList_of_ready ready filled room, Canvas.isRaised_drawFooter]
  exact drawn

end Browser

end SpeciesBrowser
