import SpeciesBrowser.Program
import SpeciesBrowser.Proofs.CommandLine.Accepted
import SpeciesBrowser.Proofs.Settings.Loading
import SpeciesBrowser.Proofs.Settings.Precedence

/-!
# Valid settings

The defaults are valid, every line of a file keeps settings valid, and the command line takes no
page size of zero. An endpoint is taken from it as it is given, though, so a run has no endpoint
exactly if its command line gives it an empty one.
-/

namespace SpeciesBrowser

open Files TreeM CommandLine

namespace Settings

structure Valid (settings : Settings) : Prop where
  pageSize : 1 ≤ settings.pageSize.toNat
  timeout : 1 ≤ settings.timeoutSeconds.toNat
  endpoint : settings.endpoint ≠ ""

theorem default_valid : ({} : Settings).Valid := ⟨by decide, by decide, by decide⟩

namespace Valid

variable {settings : Settings} (valid : settings.Valid)

include valid

theorem put {field : Field} {text : List Char} {value : field.Value}
    (means : field.Means text value) : (settings.put field value).Valid := by
  cases field with
  | pageSize => exact ⟨means.2, valid.timeout, valid.endpoint⟩
  | timeout => exact ⟨valid.pageSize, means.2, valid.endpoint⟩
  | primary | secondary | cacheCapacity => exact ⟨valid.pageSize, valid.timeout, valid.endpoint⟩
  | endpoint =>
      obtain ⟨filled, same⟩ := means
      refine ⟨valid.pageSize, valid.timeout, ?_⟩
      rintro rfl
      exact filled same.symm

theorem applyLine (line : List Char) : (settings.applyLine line).value.Valid := by
  cases entry : entry? line with
  | none => rwa [value_applyLine_of_none entry]
  | some pair =>
      rw [value_applyLine_of_some entry]
      cases Field.named? (String.ofList pair.1) with
      | none => exact valid
      | some field =>
          rw [Option.bind_some]
          cases set : settings.set? field pair.2 with
          | none => exact valid
          | some after =>
              obtain ⟨value, means, rfl⟩ := set?_eq_some_iff.mp set
              exact valid.put means

theorem applyLines (lines : List (List Char)) : (applyLines lines settings).value.Valid := by
  induction lines generalizing settings with
  | nil => exact valid
  | cons line rest ih => exact ih (valid.applyLine line)

theorem read (text : String) : (settings.read text).value.Valid := by
  rw [value_read]
  exact valid.applyLines (lines text.toList)

end Valid

theorem load_valid (tree : Tree) (path : Path) : (result (load path) tree).Valid := by
  rw [result_load]
  split
  · cases tree.readText path with
    | ok text => exact default_valid.read text
    | error error => exact default_valid
  · exact default_valid

end Settings

/-! ## The command line -/

namespace CommandLine

theorem readPageSize_positive {value : String} {size : UInt32}
    (read : readPageSize value = .ok size) : 1 ≤ size.toNat := by
  unfold readPageSize at read
  split at read
  case h_1 given _ =>
    by_cases inside : 1 ≤ given ∧ given < UInt32.size
    · rw [if_pos inside] at read
      cases read
      rw [UInt32.toNat_ofNat_of_lt' (by omega)]
      omega
    · rw [if_neg inside] at read
      cases read
  case h_2 => cases read

theorem kept_pageSize_positive :
    Kept fun arguments => ∀ size, arguments.pageSize = some size → 1 ≤ size.toNat where
  start := by
    intro size given
    cases given
  set := by
    intro arguments after flag value positive set
    unfold Arguments.set at set
    split at set
    · cases set
      exact positive
    · split at set
      · cases set
      · cases set
        exact positive
    · cases set
      exact positive
    · split at set
      case h_1 read =>
        cases set
        intro size given
        cases given
        exact readPageSize_positive read
      case h_2 => cases set
    · split at set
      · cases set
        exact positive
      · cases set
    · cases set
  verbose := id
  print := id

end CommandLine

/-! ## Runs -/

/-- The settings of a run are those of a file with the arguments over them. -/
theorem exists_result_effectiveSettings (environment : Environment) (arguments : Arguments)
    (tree : Tree) :
    ∃ path before, result (effectiveSettings environment arguments) tree =
      arguments.override (result (Settings.load path) before) := by
  unfold effectiveSettings
  cases arguments.config with
  | some text =>
      refine ⟨Path.ofText text, tree, ?_⟩
      rw [result_bind, result_bind, result_pure, result_pure, leaves_pure]
  | none =>
      refine ⟨result environment.settingsPath tree, leaves environment.settingsPath tree, ?_⟩
      rw [result_bind, result_bind, result_pure]

/-- Whatever stands in the files and whatever command line is accepted, a run has a page size of
one at least and a timeout of a second at least. It has an endpoint as well, unless the command
line gives it an empty one. -/
theorem effective_valid_unless_emptied (environment : Environment) {words : List String}
    {arguments : Arguments} (accepted : CommandLine.read words = .ok arguments) (tree : Tree) :
    let settings := result (effectiveSettings environment arguments) tree
    1 ≤ settings.pageSize.toNat ∧ 1 ≤ settings.timeoutSeconds.toNat ∧
      (settings.endpoint = "" ↔ arguments.endpoint = some "") := by
  intro settings
  obtain ⟨path, before, same⟩ := exists_result_effectiveSettings environment arguments tree
  have valid := Settings.load_valid before path
  change settings = _ at same
  rw [same]
  refine ⟨?_, valid.timeout, ?_⟩
  · change 1 ≤ (arguments.pageSize.getD _).toNat
    cases given : arguments.pageSize with
    | none => exact valid.pageSize
    | some size => exact kept_pageSize_positive.read accepted size given
  · change arguments.endpoint.getD _ = "" ↔ _
    cases arguments.endpoint with
    | none =>
        exact ⟨fun empty => absurd empty valid.endpoint,
          fun given => absurd given.symm (Option.some_ne_none _)⟩
    | some endpoint => exact Option.some_inj.symm

/-- Zeros and an empty endpoint in a file are passed over, and the page size is that of the
arguments. -/
theorem effective_valid_unless_emptied_by_file :
    let words := ["--config=dex.conf", "-v", "--page-size", "7"]
    let arguments : Arguments := { verbose := true, config := some "dex.conf", pageSize := some 7 }
    let text := "page_size = 0\ntimeout = 0\nendpoint =\n"
    let tree : Tree := { entries := [(["dex.conf"], .file text.toUTF8)] }
    let settings := result (effectiveSettings {} arguments) tree
    CommandLine.read words = .ok arguments ∧ settings.pageSize = 7 ∧
      1 ≤ settings.timeoutSeconds.toNat ∧ settings.endpoint ≠ "" := by
  intro words arguments text tree settings
  have accepted : CommandLine.read words = .ok arguments := by rfl
  obtain ⟨-, timeout, endpoint⟩ := effective_valid_unless_emptied {} accepted tree
  obtain ⟨path, before, same⟩ := exists_result_effectiveSettings {} arguments tree
  have pageSize : settings.pageSize = 7 := by
    change (result (effectiveSettings {} arguments) tree).pageSize = 7
    rw [same]
    rfl
  exact ⟨accepted, pageSize, timeout, fun empty => absurd (endpoint.mp empty) (by decide)⟩

/-- An empty endpoint on the command line leaves a run without one. -/
theorem endpoint_emptied_by_arguments :
    let arguments : Arguments := { endpoint := some "" }
    CommandLine.read ["--endpoint", ""] = .ok arguments ∧
      (result (effectiveSettings { home := some "/home" } arguments) {}).endpoint = "" := by
  intro arguments
  obtain ⟨path, before, same⟩ :=
    exists_result_effectiveSettings { home := some "/home" } arguments {}
  refine ⟨rfl, ?_⟩
  rw [same]
  rfl

end SpeciesBrowser
