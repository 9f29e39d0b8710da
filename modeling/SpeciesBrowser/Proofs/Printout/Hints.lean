import SpeciesBrowser.CommandLine.Reader
import SpeciesBrowser.Proofs.Listing.Pages
import SpeciesBrowser.Proofs.Printout.Reading

/-!
# Following the hints

The hint under a printed page names the number of the next page, and a run that is given this
number prints that page. Whoever starts with the first page and follows the hints until one of them
says that the listing ends has printed every entity of the listing once and in order, whatever the
labels look like.
-/

namespace SpeciesBrowser

open Text

/-! ## Asking for a page -/

namespace CommandLine

/-- The arguments of a run that prints the page with a number. -/
def pageArguments (number : List Char) : List String :=
  ["--print", "--page", String.ofList number]

variable {digits : List Char} {number : Nat}

theorem take_number {progress : Progress} (decimal : IsDecimal digits number) :
    progress.take (String.ofList digits) = progress.takeWord (String.ofList digits) := by
  have unsigned (rest : List Char) : digits ≠ '-' :: rest := decimal.head_ne rfl
  unfold Progress.take
  rw [String.toList_ofList]
  split
  · exact absurd rfl (unsigned _)
  · exact absurd rfl (unsigned _)
  · rfl

theorem readPage_number (decimal : IsDecimal digits number) (positive : 0 < number)
    (fits : number ≤ maxWord) : readPage (String.ofList digits) = .ok (UInt64.ofNat number) := by
  have value := toNat_ofNat_of_le_maxWord fits
  have word : readWord digits = .ok (UInt64.ofNat number) :=
    readWord_eq_ok_iff.mpr ⟨digits, value.symm ▸ decimal, Or.inl rfl⟩
  have nonzero : UInt64.ofNat number ≠ 0 := by
    intro zero
    rw [zero] at value
    exact absurd value (Nat.ne_of_lt positive)
  rw [readPage, String.toList_ofList, word]
  exact if_neg nonzero

/-- Two dashes alone are no argument; all others are taken one by one. -/
theorem readFrom_cons {progress after : Progress} {argument : String} (rest : List String)
    (proper : argument ≠ "--") (taken : progress.take argument = .ok after) :
    readFrom progress (argument :: rest) = readFrom after rest := by
  rw [readFrom, taken]
  · rfl
  · exact fun only _ => proper only
  · exact fun _ _ only _ => proper only

/-- A run takes the number of any page and prints that page. -/
theorem read_pageArguments (decimal : IsDecimal digits number) (positive : 0 < number)
    (fits : number ≤ maxWord) :
    read (pageArguments digits) =
      .ok { page := some (UInt64.ofNat number), print := true } := by
  have value : String.ofList digits ≠ "--" := by
    intro dashes
    exact decimal.head_ne rfl (String.ofList_injective dashes)
  have switched : Progress.take {} "--print" = .ok { arguments := { print := true } } := rfl
  have waiting : Progress.take { arguments := { print := true } } "--page" =
      .ok { arguments := { print := true }, pending := some { flag := .page } } := rfl
  have stored : Arguments.store { print := true } .page (some (String.ofList digits)) =
      .ok { page := some (UInt64.ofNat number), print := true } := by
    change Arguments.set { print := true } .page (String.ofList digits) = _
    rw [Arguments.set, readPage_number decimal positive fits]
  rw [read, pageArguments, readFrom_cons _ (by decide) switched,
    readFrom_cons _ (by decide) waiting, readFrom_cons _ value (take_number decimal), readFrom]
  simp only [Progress.settle, stored]
  rfl

end CommandLine

/-- What a run writes that is told to print the page with a number. -/
def printNumbered (fetch : Query → Logged Outcome) (config : ListConfig) (number : List Char) :
    Option String :=
  (CommandLine.read (CommandLine.pageArguments number)).toOption.bind fun arguments =>
    if arguments.print then (printPage fetch config arguments.startPage).value.toOption else none

/-! ## What is printed -/

namespace Printout

/-- The hint in the last line of an output. -/
def hint? (output : String) : Option Hint :=
  (lastLine? output.toList).bind fun cut => Hint.read cut.2

/-- An output without its last line. -/
def body (output : String) : List Char :=
  ((lastLine? output.toList).map fun cut => closeLines cut.1).getD []

/-- Cutting a line where it has line feeds of its own does not change what is written. -/
theorem closeLines_splitOn (line : List Char) :
    closeLines (line.splitOn '\n') = line ++ ['\n'] := by
  have joined (first : List Char) (rest : List (List Char)) :
      closeLines (first :: rest) = ['\n'].intercalate (first :: rest) ++ ['\n'] := by
    induction rest generalizing first with
    | nil => rw [List.intercalate_singleton, closeLines, List.flatMap_singleton]
    | cons second rest ih =>
        rw [List.intercalate_cons_cons, List.append_assoc, ← ih second]
        rfl
  obtain ⟨first, rest, parts⟩ := List.exists_cons_of_ne_nil (List.splitOn_ne_nil '\n' line)
  rw [parts, joined, ← parts, List.intercalate_splitOn]

theorem closeLines_flatMap_splitOn (lines : List (List Char)) :
    closeLines (lines.flatMap (·.splitOn '\n')) = closeLines lines := by
  rw [closeLines, List.flatMap_assoc]
  exact congrArg (lines.flatMap ·) (funext closeLines_splitOn)

end Printout

open Printout

namespace PageView

theorem hint?_text (view : PageView) (page : Page) :
    hint? (view.text page) = some (page.hint view.hasNext) := by
  rw [hint?, lastLine?_text, Option.bind_some, Page.read_hintLine]

theorem body_text (view : PageView) (page : Page) :
    body (view.text page) = view.rows.flatMap fun row => row.line.toList := by
  rw [body, lastLine?_text, Option.map_some, Option.getD_some, closeLines_flatMap_splitOn,
    closeLines, List.flatMap_map]
  simp only [Row.toList_line]

end PageView

namespace Page

variable {index : Nat}

def ofIndex (index : Nat) : Page := { index := clampWord index }

theorem index_ofIndex (room : index ≤ maxWord) : (ofIndex index).index.toNat = index := by
  rw [ofIndex, toNat_clampWord, Nat.min_eq_left room]

theorem number_ofIndex (room : index + 1 ≤ maxWord) :
    (ofIndex index).number.toNat = index + 1 := by
  rw [number_toNat, index_ofIndex (Nat.le_of_lt room), Nat.min_eq_left room]

theorem ofNumber_succ (room : index + 1 ≤ maxWord) :
    ofNumber (UInt64.ofNat (index + 1)) = ofIndex index := by
  rw [ofNumber, toNat_ofNat_of_le_maxWord room, Nat.add_sub_cancel, ofIndex]

theorem next_ofIndex (room : index ≤ maxWord) : (ofIndex index).next = ofIndex (index + 1) := by
  rw [next, index_ofIndex room, ofIndex]

end Page

namespace ListConfig

variable {fetch : Query → Logged Outcome} {config : ListConfig} {listing : List Entity}
  {index : Nat}

/-- What is printed of the page with an index when a listing is served. -/
def output (config : ListConfig) (listing : List Entity) (index : Nat) : String :=
  (config.pageAt listing index).text (.ofIndex index)

theorem lastIndex_lt (config : ListConfig) (short : listing.length < maxWord) :
    config.lastIndex listing < maxWord :=
  Nat.lt_of_le_of_lt (Nat.div_le_self _ _) short

theorem printNumbered_eq (serves : ∀ query, (fetch query).value = .ofListing listing query)
    (positive : 0 < config.pageSize.toNat) (short : listing.length < maxWord)
    (inside : index ≤ config.lastIndex listing) {number : List Char}
    (names : IsDecimal number (index + 1)) :
    printNumbered fetch config number = some (config.output listing index) := by
  have room : index + 1 ≤ maxWord := Nat.lt_of_le_of_lt inside (config.lastIndex_lt short)
  have here : (Page.ofIndex index).index.toNat = index := Page.index_ofIndex (Nat.le_of_lt room)
  have view : (computeView fetch config (.ofIndex index)).value =
      .ready (config.pageAt listing index) := by
    rw [← ofOutcome_ofListing positive (Nat.le_of_lt short) here inside, ← serves]
    rfl
  have printed : (printPage fetch config (.ofIndex index)).value =
      View.print (.ofIndex index) (computeView fetch config (.ofIndex index)).value := rfl
  rw [printNumbered, CommandLine.read_pageArguments names (Nat.succ_pos index) room]
  change (printPage fetch config (Page.ofNumber (UInt64.ofNat (index + 1)))).value.toOption = _
  rw [Page.ofNumber_succ room, printed, view]
  rfl

theorem hint?_output (short : listing.length < maxWord)
    (inside : index ≤ config.lastIndex listing) :
    hint? (config.output listing index) = some
      { number := Nat.toDigits 10 (index + 1)
        next := if index < config.lastIndex listing then some (Nat.toDigits 10 (index + 2))
          else none } := by
  have short := config.lastIndex_lt short
  have room : index + 1 ≤ maxWord := by omega
  rw [output, PageView.hint?_text, Page.hint, digitsOf, digitsOf, Page.number_ofIndex room]
  by_cases more : index < config.lastIndex listing
  · have next : (Page.ofIndex index).next.number.toNat = index + 2 := by
      rw [Page.next_ofIndex (Nat.le_of_lt room), Page.number_ofIndex (by omega)]
    simp only [pageAt, more, decide_true, if_true, next]
  · simp only [pageAt, more, decide_false, Bool.false_eq_true, if_false]

/-- The outputs for all pages hold one line for every entity, in order. -/
theorem flatMap_body_output (positive : 0 < config.pageSize.toNat) :
    ((List.range (config.lastIndex listing + 1)).map (config.output listing)).flatMap body =
      listing.flatMap fun entity => (config.row entity).line.toList := by
  have bodies : (fun index => body (config.output listing index)) =
      fun index => (config.pageAt listing index).rows.flatMap fun row => row.line.toList :=
    funext fun index => PageView.body_text _ _
  calc ((List.range (config.lastIndex listing + 1)).map (config.output listing)).flatMap body
      = (List.range (config.lastIndex listing + 1)).flatMap fun index =>
          (config.pageAt listing index).rows.flatMap fun row => row.line.toList := by
        rw [List.flatMap_map, bodies]
    _ = (((List.range (config.lastIndex listing + 1)).map (config.pageAt listing)).flatMap
          (·.rows)).flatMap fun row => row.line.toList := by
        rw [List.flatMap_map, List.flatMap_assoc]
    _ = listing.flatMap fun entity => (config.row entity).line.toList := by
        rw [flatMap_pageAt positive, List.flatMap_map]

end ListConfig

/-! ## Runs -/

/-- Runs one after another, the next with the number in the hint of the one before, until a hint
says that the listing ends. -/
inductive Follows (print : List Char → Option String) : List Char → List String → Prop where
  | ends {number : List Char} {output : String} {hint : Hint} :
      print number = some output → hint? output = some hint → hint.next = none →
        Follows print number [output]
  | more {number next : List Char} {output : String} {rest : List String} {hint : Hint} :
      print number = some output → hint? output = some hint → hint.next = some next →
        Follows print next rest → Follows print number (output :: rest)

namespace Follows

variable {print : List Char → Option String} {number : List Char} {outputs others : List String}

/-- What the first run prints decides whether another one follows, and which one. -/
theorem output_decides (follows : Follows print number outputs) {output : String} {hint : Hint}
    (printed : print number = some output) (hinted : hint? output = some hint) :
    (hint.next = none ∧ outputs = [output]) ∨
      ∃ next rest, hint.next = some next ∧ outputs = output :: rest ∧ Follows print next rest := by
  cases follows with
  | ends printed' hinted' last =>
      obtain rfl := Option.some.inj (printed.symm.trans printed')
      obtain rfl := Option.some.inj (hinted.symm.trans hinted')
      exact .inl ⟨last, rfl⟩
  | more printed' hinted' named rest =>
      obtain rfl := Option.some.inj (printed.symm.trans printed')
      obtain rfl := Option.some.inj (hinted.symm.trans hinted')
      exact .inr ⟨_, _, named, rfl, rest⟩

/-- Hints leave no choice: runs that start with the same number are the same to their end. -/
theorem unique (follows : Follows print number outputs) (also : Follows print number others) :
    others = outputs := by
  induction follows generalizing others with
  | ends printed hinted last =>
      obtain ⟨-, same⟩ | ⟨_, _, named, -⟩ := also.output_decides printed hinted
      · exact same
      · cases last.symm.trans named
  | more printed hinted named _ ih =>
      obtain ⟨last, -⟩ | ⟨_, _, named', same, follows⟩ := also.output_decides printed hinted
      · cases last.symm.trans named
      · obtain rfl := Option.some.inj (named.symm.trans named')
        rw [same, ih follows]

end Follows

/-- A hint that names a next page names the number after its own, and a run takes that number. -/
def Hint.LeadsOn (hint : Hint) : Prop :=
  ∀ next, hint.next = some next →
    ∃ number, IsDecimal hint.number number ∧ IsDecimal next (number + 1) ∧
      ∃ arguments, CommandLine.read (CommandLine.pageArguments next) = .ok arguments ∧
        arguments.pageNumber.toNat = number + 1

namespace ListConfig

variable {fetch : Query → Logged Outcome} {config : ListConfig} {listing : List Entity}

theorem leadsOn_hint (short : listing.length < maxWord) {index : Nat}
    (inside : index ≤ config.lastIndex listing) {hint : Hint}
    (hinted : hint? (config.output listing index) = some hint) : hint.LeadsOn := by
  have room := config.lastIndex_lt short
  obtain rfl := Option.some.inj (hinted.symm.trans (hint?_output short inside))
  intro next named
  by_cases more : index < config.lastIndex listing
  · rw [if_pos more] at named
    obtain rfl := Option.some.inj named
    have fits : index + 2 ≤ maxWord := by omega
    exact ⟨index + 1, isDecimal_toDigits _, isDecimal_toDigits _, _,
      CommandLine.read_pageArguments (isDecimal_toDigits _) (Nat.succ_pos _) fits,
      toNat_ofNat_of_le_maxWord fits⟩
  · rw [if_neg more] at named
    cases named

theorem follows_outputs (serves : ∀ query, (fetch query).value = .ofListing listing query)
    (positive : 0 < config.pageSize.toNat) (short : listing.length < maxWord)
    {index remaining : Nat} (left : index + remaining = config.lastIndex listing)
    {number : List Char} (names : IsDecimal number (index + 1)) :
    Follows (printNumbered fetch config) number
      ((List.range' index (remaining + 1)).map (config.output listing)) := by
  induction remaining generalizing index number with
  | zero =>
      have last : index = config.lastIndex listing := left
      have inside : index ≤ config.lastIndex listing := Nat.le_of_eq last
      exact .ends (printNumbered_eq serves positive short inside names)
        (hint?_output short inside) (if_neg (Nat.not_lt_of_le (Nat.le_of_eq last.symm)))
  | succ remaining ih =>
      have more : index < config.lastIndex listing := by omega
      have inside := Nat.le_of_lt more
      rw [List.range'_succ, List.map_cons]
      exact .more (printNumbered_eq serves positive short inside names)
        (hint?_output short inside) (if_pos more) (ih (by omega) (isDecimal_toDigits _))

/-- Following the hints from the first page on takes one run more than the listing fills pages, and
the runs print its entities, one line for each and in order. Every hint on the way names the number
after its own, which the next run takes. -/
theorem hints_print_listing (serves : ∀ query, (fetch query).value = .ofListing listing query)
    (positive : 0 < config.pageSize.toNat) (short : listing.length < maxWord) :
    ∃ outputs, Follows (printNumbered fetch config) ['1'] outputs ∧
      (∀ others, Follows (printNumbered fetch config) ['1'] others → others = outputs) ∧
      outputs.length = listing.length / config.pageSize.toNat + 1 ∧
      (∀ output ∈ outputs, ∀ hint, hint? output = some hint → hint.LeadsOn) ∧
      outputs.flatMap body = listing.flatMap fun entity => (config.row entity).line.toList := by
  have follows : Follows (printNumbered fetch config) ['1']
      ((List.range (config.lastIndex listing + 1)).map (config.output listing)) := by
    rw [List.range_eq_range']
    exact follows_outputs serves positive short (Nat.zero_add _) (isDecimal_toDigits 1)
  refine ⟨_, follows, fun _ also => follows.unique also, ?_, ?_, flatMap_body_output positive⟩
  · rw [List.length_map, List.length_range, lastIndex]
  · intro output mem hint hinted
    obtain ⟨index, inside, rfl⟩ := List.mem_map.mp mem
    exact leadsOn_hint short (Nat.le_of_lt_succ (List.mem_range.mp inside)) hinted

/-- Two full pages and an empty one; a label that goes on in a line of its own, which looks like a
hint, stays in the row. -/
theorem hints_print_listing_of_four :
    let config : ListConfig := { pageSize := 2 }
    let listing : List Entity :=
      [{ id := 1,
          labels := [{ language := 1, text := "ja-1" }, { language := 9, text := "en-1" }] },
        { id := -2, labels := [{ language := 9, text := "en\n-- page 9; end of listing" }] },
        { id := 3, labels := [] },
        { id := 4, labels := [{ language := 1, text := "" }] }]
    let fetch : Query → Logged Outcome := fun query => pure (.ofListing listing query)
    ((∀ query, (fetch query).value = .ofListing listing query) ∧ 0 < config.pageSize.toNat ∧
      listing.length < maxWord) ∧
    ∃ outputs, Follows (printNumbered fetch config) ['1'] outputs ∧ outputs.length = 3 ∧
      outputs.flatMap body =
        "#1\tja-1\ten-1\n#-2\t\ten\n-- page 9; end of listing\n#3\t\t\n#4\t\t\n".toList := by
  intro config listing fetch
  have serves (query : Query) : (fetch query).value = .ofListing listing query := rfl
  have positive : 0 < config.pageSize.toNat := by decide
  have short : listing.length < maxWord := by decide
  obtain ⟨outputs, follows, -, runs, -, bodies⟩ := hints_print_listing serves positive short
  exact ⟨⟨serves, positive, short⟩, outputs, follows, runs.trans (by decide),
    bodies.trans (by decide)⟩

end ListConfig

end SpeciesBrowser
