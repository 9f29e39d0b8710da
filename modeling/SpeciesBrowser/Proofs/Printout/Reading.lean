import SpeciesBrowser.Printout
import SpeciesBrowser.Proofs.Text.Numerals

/-!
# Reading printed pages

A reader that cuts a printed page at its line feeds and its tabs. As long as no label has a line
feed or a tab in it, the reader gives back the page number, whether there is a next page, and the
id and the labels of every row, whatever else the labels look like.
-/

namespace SpeciesBrowser

open Text

/-! ## Lines -/

namespace Printout

/-- The lines of a text before its last one, and the last one. Every line ends with a line feed. -/
def lastLine? (text : List Char) : Option (List (List Char) × List Char) :=
  match (text.splitOn '\n').reverse with
  | [] :: last :: before => some (before.reverse, last)
  | _ => none

/-- Lines one after the other, each with a line feed at its end. -/
def closeLines (lines : List (List Char)) : List Char := lines.flatMap (· ++ ['\n'])

theorem splitOn_closeLines (lines : List (List Char)) (rest : List Char) :
    (closeLines lines ++ rest).splitOn '\n' =
      lines.flatMap (·.splitOn '\n') ++ rest.splitOn '\n' := by
  induction lines with
  | nil => rfl
  | cons line lines ih =>
      have first : closeLines (line :: lines) ++ rest =
          line ++ '\n' :: (closeLines lines ++ rest) := by
        simp [closeLines]
      rw [first, List.splitOn_append_cons_self, ih, List.flatMap_cons, List.append_assoc]

theorem splitOn_closed {last : List Char} (oneLine : '\n' ∉ last) :
    (last ++ ['\n']).splitOn '\n' = [last, []] := by
  rw [List.splitOn_append_cons_self_of_not_mem oneLine, List.splitOn_nil]

theorem lastLine?_closeLines (lines : List (List Char)) {last : List Char}
    (oneLine : '\n' ∉ last) :
    lastLine? (closeLines lines ++ (last ++ ['\n'])) =
      some (lines.flatMap (·.splitOn '\n'), last) := by
  rw [lastLine?, splitOn_closeLines, splitOn_closed oneLine, List.reverse_append]
  simp

end Printout

open Printout

/-! ## Hints -/

/-- What the last line of a printed page says, with its numbers as they are written. -/
structure Hint where
  number : List Char
  next : Option (List Char)
deriving DecidableEq, Repr

/-- What stands in a line behind its front. -/
def afterFront? (front line : List Char) : Option (List Char) :=
  if front <+: line then some (line.drop front.length) else none

theorem afterFront?_append (front rest : List Char) :
    afterFront? front (front ++ rest) = some rest := by
  simp [afterFront?]

def Hint.read (line : List Char) : Option Hint :=
  (afterFront? "-- page ".toList line).bind fun rest =>
    let number := rest.takeWhile Char.isDigit
    let told := rest.dropWhile Char.isDigit
    if told = "; end of listing".toList then some { number, next := none }
    else
      (afterFront? "; more with --page ".toList told).map fun next =>
        { number, next := some next }

/-- The decimal digits of a word. -/
def digitsOf (word : UInt64) : List Char := Nat.toDigits 10 word.toNat

theorem toList_toString (word : UInt64) : (toString word).toList = digitsOf word :=
  Nat.toList_repr

theorem isDecimal_digitsOf (word : UInt64) : IsDecimal (digitsOf word) word.toNat :=
  isDecimal_toDigits word.toNat

theorem takeWhile_digitsOf (word : UInt64) (rest : List Char) :
    (digitsOf word ++ ';' :: rest).takeWhile Char.isDigit = digitsOf word := by
  rw [List.takeWhile_append_of_pos (isDecimal_digitsOf word).digit]
  exact List.append_nil _

theorem dropWhile_digitsOf (word : UInt64) (rest : List Char) :
    (digitsOf word ++ ';' :: rest).dropWhile Char.isDigit = ';' :: rest := by
  rw [List.dropWhile_append_of_pos (isDecimal_digitsOf word).digit]
  rfl

namespace Page

/-- The hint under a page, by what it says. -/
def hint (page : Page) (hasNext : Bool) : Hint where
  number := digitsOf page.number
  next := if hasNext then some (digitsOf page.next.number) else none

/-- What the last line of a printed page says behind the number of the page. -/
def hintTail (page : Page) : Bool → List Char
  | true => "; more with --page ".toList ++ digitsOf page.next.number
  | false => "; end of listing".toList

/-- The last line of a printed page. -/
def hintLine (page : Page) (hasNext : Bool) : List Char :=
  "-- page ".toList ++ (digitsOf page.number ++ page.hintTail hasNext)

theorem toList_hint (page : Page) (hasNext : Bool) :
    (PageView.hint page hasNext).toList = page.hintLine hasNext ++ ['\n'] := by
  have line : page.hintLine hasNext =
      "-- page ".toList ++ (digitsOf page.number ++ page.hintTail hasNext) := rfl
  rw [line, List.append_assoc, List.append_assoc]
  cases hasNext with
  | false =>
      have unfolded : PageView.hint page false =
          "-- page " ++ toString page.number ++ "; end of listing\n" := rfl
      have feed : "; end of listing\n".toList = page.hintTail false ++ ['\n'] := rfl
      rw [unfolded, String.toList_append, String.toList_append, toList_toString,
        List.append_assoc, feed]
  | true =>
      have unfolded : PageView.hint page true =
          "-- page " ++ toString page.number ++ "; more with --page " ++
            toString page.next.number ++ "\n" := rfl
      have tail : page.hintTail true =
          "; more with --page ".toList ++ digitsOf page.next.number := rfl
      have feed : "\n".toList = ['\n'] := rfl
      rw [unfolded, tail]
      simp only [String.toList_append, toList_toString, feed, List.append_assoc]

theorem exists_hintTail (page : Page) (hasNext : Bool) :
    ∃ rest, page.hintTail hasNext = ';' :: rest := by
  cases hasNext with
  | false => exact ⟨_, rfl⟩
  | true => exact ⟨_, rfl⟩

theorem read_hintLine (page : Page) (hasNext : Bool) :
    Hint.read (page.hintLine hasNext) = some (page.hint hasNext) := by
  have front : afterFront? "-- page ".toList (page.hintLine hasNext) =
      some (digitsOf page.number ++ page.hintTail hasNext) :=
    afterFront?_append _ _
  obtain ⟨rest, tail⟩ := page.exists_hintTail hasNext
  rw [Hint.read, front, Option.bind_some, tail, takeWhile_digitsOf, dropWhile_digitsOf, ← tail]
  cases hasNext with
  | false => exact if_pos rfl
  | true =>
      have more : page.hintTail true ≠ "; end of listing".toList := by
        -- the two tails part at their third symbol
        intro same
        have third : some 'm' = some 'e' := congrArg (·[2]?) same
        exact absurd third (by decide)
      have next : afterFront? "; more with --page ".toList (page.hintTail true) =
          some (digitsOf page.next.number) :=
        afterFront?_append _ _
      rw [if_neg more, next]
      rfl

/-- The last line of a printed page is one line. -/
theorem oneLine_hintLine (page : Page) (hasNext : Bool) : '\n' ∉ page.hintLine hasNext := by
  have digits (word : UInt64) : '\n' ∉ digitsOf word := (isDecimal_digitsOf word).not_mem rfl
  have tail : '\n' ∉ page.hintTail hasNext := by
    cases hasNext with
    | false => exact (by decide : '\n' ∉ "; end of listing".toList)
    | true =>
        exact List.not_mem_append (by decide : '\n' ∉ "; more with --page ".toList) (digits _)
  exact List.not_mem_append (by decide : '\n' ∉ "-- page ".toList)
    (List.not_mem_append (digits _) tail)

end Page

/-! ## Rows -/

/-- What the line of a row says; an absent label is read as the empty text. -/
structure PrintedRow where
  id : Int64
  primary : String
  secondary : String
deriving DecidableEq, Repr

def PrintedRow.read (line : List Char) : Option PrintedRow :=
  match line.splitOn '\t' with
  | ['#' :: id, primary, secondary] =>
      (readSigned id).toOption.map fun id =>
        { id := id, primary := String.ofList primary, secondary := String.ofList secondary }
  | _ => none

namespace Row

/-- No label of the row has one of the symbols in it that part a printed page. -/
structure Plain (row : Row) : Prop where
  primary : '\t' ∉ (row.primary.getD "").toList ∧ '\n' ∉ (row.primary.getD "").toList
  secondary : '\t' ∉ (row.secondary.getD "").toList ∧ '\n' ∉ (row.secondary.getD "").toList

def printed (row : Row) : PrintedRow where
  id := row.id
  primary := row.primary.getD ""
  secondary := row.secondary.getD ""

/-- The line of a row without the line feed at its end. -/
def written (row : Row) : List Char :=
  ('#' :: row.id.toInt.repr.toList) ++ '\t' :: ((row.primary.getD "").toList ++
    '\t' :: (row.secondary.getD "").toList)

theorem toList_line (row : Row) : row.line.toList = row.written ++ ['\n'] := by
  have unfolded : row.line =
      "#" ++ row.id.toInt.repr ++ "\t" ++ row.primary.getD "" ++ "\t" ++
        row.secondary.getD "" ++ "\n" := rfl
  have marks : "#".toList = ['#'] ∧ "\t".toList = ['\t'] ∧ "\n".toList = ['\n'] :=
    ⟨rfl, rfl, rfl⟩
  rw [unfolded, written]
  simp only [String.toList_append, marks, List.append_assoc, List.cons_append, List.nil_append]

variable {row : Row}

theorem not_mem_id {symbol : Char} (digit : symbol.isDigit = false) (mark : symbol ≠ '#')
    (plus : symbol ≠ '+') (minus : symbol ≠ '-') : symbol ∉ '#' :: row.id.toInt.repr.toList :=
  List.not_mem_cons_of_ne_of_not_mem mark
    ((isInteger_repr row.id.toInt).not_mem digit plus minus)

theorem read_written (plain : row.Plain) : PrintedRow.read row.written = some row.printed := by
  have id : '\t' ∉ '#' :: row.id.toInt.repr.toList :=
    not_mem_id rfl (by decide) (by decide) (by decide)
  have cells : row.written.splitOn '\t' =
      ['#' :: row.id.toInt.repr.toList, (row.primary.getD "").toList,
        (row.secondary.getD "").toList] := by
    rw [written, List.splitOn_append_cons_self_of_not_mem id,
      List.splitOn_append_cons_self_of_not_mem plain.primary.1,
      List.splitOn_eq_singleton plain.secondary.1]
  have signed : readSigned row.id.toInt.repr.toList = .ok row.id :=
    readSigned_eq_ok_iff.mpr (isInteger_repr row.id.toInt)
  rw [PrintedRow.read, cells]
  simp only [signed, Except.toOption, Option.map_some, String.ofList_toList]
  rfl

/-- The line of a plain row is one line. -/
theorem oneLine_written (plain : row.Plain) : '\n' ∉ row.written := by
  have id : '\n' ∉ '#' :: row.id.toInt.repr.toList :=
    not_mem_id rfl (by decide) (by decide) (by decide)
  have labels : '\n' ∉ (row.primary.getD "").toList ++ '\t' :: (row.secondary.getD "").toList :=
    List.not_mem_append plain.primary.2
      (List.not_mem_cons_of_ne_of_not_mem (by decide) plain.secondary.2)
  exact List.not_mem_append id (List.not_mem_cons_of_ne_of_not_mem (by decide) labels)

theorem flatMap_splitOn_written {rows : List Row} (plain : ∀ row ∈ rows, row.Plain) :
    (rows.map written).flatMap (·.splitOn '\n') = rows.map written := by
  induction rows with
  | nil => rfl
  | cons row rows ih =>
      obtain ⟨first, rest⟩ := List.forall_mem_cons.mp plain
      rw [List.map_cons, List.flatMap_cons, ih rest,
        List.splitOn_eq_singleton (oneLine_written first), List.singleton_append]

theorem mapM_read_written {rows : List Row} (plain : ∀ row ∈ rows, row.Plain) :
    (rows.map written).mapM PrintedRow.read = some (rows.map printed) := by
  induction rows with
  | nil => rfl
  | cons row rows ih =>
      obtain ⟨first, rest⟩ := List.forall_mem_cons.mp plain
      rw [List.map_cons, List.mapM_cons, read_written first, ih rest]
      rfl

end Row

/-! ## Pages -/

/-- What a printed page says. -/
structure PrintedPage where
  page : Page
  hasNext : Bool
  rows : List PrintedRow
deriving DecidableEq, Repr

def PrintedPage.read (text : String) : Option PrintedPage := do
  let (lines, last) ← lastLine? text.toList
  let hint ← Hint.read last
  let number ← (readWord hint.number).toOption
  let rows ← lines.mapM PrintedRow.read
  return { page := Page.ofNumber number, hasNext := hint.next.isSome, rows := rows }

namespace PageView

variable {view : PageView} {page : Page}

def printed (view : PageView) (page : Page) : PrintedPage where
  page := page
  hasNext := view.hasNext
  rows := view.rows.map Row.printed

theorem toList_text (view : PageView) (page : Page) :
    (view.text page).toList =
      closeLines (view.rows.map Row.written) ++ (page.hintLine view.hasNext ++ ['\n']) := by
  have rows : (String.join (view.rows.map Row.line)).toList =
      closeLines (view.rows.map Row.written) := by
    rw [String.toList_join, closeLines, List.flatMap_map, List.flatMap_map]
    simp only [Row.toList_line]
  rw [text, String.toList_append, rows, Page.toList_hint]

theorem lastLine?_text (view : PageView) (page : Page) :
    lastLine? (view.text page).toList =
      some ((view.rows.map Row.written).flatMap (·.splitOn '\n'), page.hintLine view.hasNext) := by
  rw [toList_text, lastLine?_closeLines _ (page.oneLine_hintLine _)]

theorem splitOn_text (plain : ∀ row ∈ view.rows, row.Plain) :
    (view.text page).toList.splitOn '\n' =
      view.rows.map Row.written ++ [page.hintLine view.hasNext, []] := by
  rw [toList_text, splitOn_closeLines, splitOn_closed (page.oneLine_hintLine _),
    Row.flatMap_splitOn_written plain]

theorem read_text (plain : ∀ row ∈ view.rows, row.Plain) (room : page.index.toNat < maxWord) :
    PrintedPage.read (view.text page) = some (view.printed page) := by
  have parts : lastLine? (view.text page).toList =
      some (view.rows.map Row.written, page.hintLine view.hasNext) := by
    rw [lastLine?_text, Row.flatMap_splitOn_written plain]
  have number : readWord (page.hint view.hasNext).number = .ok page.number :=
    readWord_eq_ok_iff.mpr ⟨_, isDecimal_digitsOf page.number, Or.inl rfl⟩
  have rows : (view.rows.map Row.written).mapM PrintedRow.read =
      some (view.rows.map Row.printed) :=
    Row.mapM_read_written plain
  have next : (page.hint view.hasNext).next.isSome = view.hasNext := by
    cases view.hasNext <;> rfl
  simp only [PrintedPage.read, parts, Option.bind_eq_bind, Option.bind_some, Page.read_hintLine,
    number, Except.toOption, rows, next, Page.ofNumber_number room]
  rfl

/-- A printed page has one line for every row and one for its hint, and these say which page it is,
whether there is a next one, and what every row shows. So no two pages of plain rows that differ
in any of these are printed alike. -/
theorem text_read_back (plain : ∀ row ∈ view.rows, row.Plain) (room : page.index.toNat < maxWord) :
    (view.text page).toList.splitOn '\n' =
        view.rows.map Row.written ++ [page.hintLine view.hasNext, []] ∧
      PrintedPage.read (view.text page) = some (view.printed page) ∧
      ∀ other : PageView, ∀ otherPage : Page, (∀ row ∈ other.rows, row.Plain) →
        otherPage.index.toNat < maxWord → other.text otherPage = view.text page →
          otherPage = page ∧ other.hasNext = view.hasNext ∧
            other.rows.map Row.printed = view.rows.map Row.printed := by
  refine ⟨splitOn_text plain, read_text plain room, ?_⟩
  intro other otherPage otherPlain otherRoom same
  have both : some (other.printed otherPage) = some (view.printed page) := by
    rw [← read_text otherPlain otherRoom, ← read_text plain room, same]
  have said : other.printed otherPage = view.printed page := Option.some.inj both
  exact ⟨congrArg PrintedPage.page said, congrArg PrintedPage.hasNext said,
    congrArg PrintedPage.rows said⟩

/-- Labels that look like a hint or like the start of a row do not lead the reader astray. -/
theorem text_read_back_of_lookalikes :
    let rows : List Row :=
      [{ id := -5, primary := some "-- page 3; end of listing", secondary := none },
        { id := 7, primary := some "", secondary := some "#9" }]
    let view : PageView := { rows := rows, hasPrev := true, hasNext := true }
    let page : Page := { index := 18446744073709551614 }
    (∀ row ∈ rows, row.Plain) ∧ page.index.toNat < maxWord ∧
    PrintedPage.read (view.text page) =
      some
        { page := page
          hasNext := true
          rows :=
            [{ id := -5, primary := "-- page 3; end of listing", secondary := "" },
              { id := 7, primary := "", secondary := "#9" }] } := by
  intro rows view page
  have plain : ∀ row ∈ rows, row.Plain :=
    List.forall_mem_cons.mpr ⟨⟨by decide, by decide⟩,
      List.forall_mem_singleton.mpr ⟨by decide, by decide⟩⟩
  have room : page.index.toNat < maxWord := by decide
  obtain ⟨-, said, -⟩ := @text_read_back view page plain room
  exact ⟨plain, room, said⟩

end PageView

end SpeciesBrowser
