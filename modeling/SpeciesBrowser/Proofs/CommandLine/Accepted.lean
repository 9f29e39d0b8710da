import SpeciesBrowser.CommandLine.Reader

/-!
# Accepted arguments

Arguments come from an empty command line by setting one flag after the other. Whatever holds at
the start and is kept by each flag holds of all arguments that are accepted, in whatever order
and spelling the flags were given.
-/

namespace SpeciesBrowser.CommandLine

/-- A fact about arguments that no flag takes away. -/
structure Kept (Holds : Arguments → Prop) : Prop where
  start : Holds {}
  set : ∀ {arguments after flag value}, Holds arguments →
    arguments.set flag value = .ok after → Holds after
  verbose : ∀ {arguments}, Holds arguments → Holds { arguments with verbose := true }
  print : ∀ {arguments}, Holds arguments → Holds { arguments with print := true }

theorem exists_of_bind_eq_ok {first : Except ε α} {next : α → Except ε β} {value : β}
    (result : (first >>= next) = .ok value) :
    ∃ found, first = .ok found ∧ next found = .ok value := by
  cases first with
  | error error => cases result
  | ok found => exact ⟨found, rfl, result⟩

variable {Holds : Arguments → Prop} (kept : Kept Holds)

namespace Kept

include kept

theorem store {arguments after : Arguments} {flag : Flag} {value? : Option String}
    (holds : Holds arguments) (stored : arguments.store flag value? = .ok after) :
    Holds after := by
  unfold Arguments.store at stored
  split at stored
  · cases stored
  · split at stored
    · cases stored
    · exact kept.set holds stored

variable {progress after : Progress}

theorem settle (holds : Holds progress.arguments) (settled : progress.settle = .ok after) :
    Holds after.arguments := by
  unfold Progress.settle at settled
  split at settled
  · cases settled
    exact holds
  · split at settled
    case h_1 stored =>
      cases settled
      exact kept.store holds stored
    case h_2 => cases settled

theorem takeSwitch {flag : Flag} (holds : Holds progress.arguments)
    (taken : progress.takeSwitch flag = .ok after) : Holds after.arguments := by
  obtain ⟨settled, settle, taken⟩ := exists_of_bind_eq_ok taken
  have holds := kept.settle holds settle
  split at taken
  · cases taken
  · split at taken
    · cases taken
    · cases taken
    · cases taken
      exact kept.verbose holds
    · cases taken
      exact kept.print holds
    · cases taken
      exact holds

theorem takeValue {flag : Flag} {attached : Option String} (holds : Holds progress.arguments)
    (taken : progress.takeValue flag attached = .ok after) : Holds after.arguments := by
  obtain ⟨settled, settle, taken⟩ := exists_of_bind_eq_ok taken
  have holds := kept.settle holds settle
  split at taken
  · cases taken
    exact holds
  · split at taken
    case h_1 stored =>
      cases taken
      exact kept.store holds stored
    case h_2 => cases taken

theorem takeLong {argument : List Char} (holds : Holds progress.arguments)
    (taken : progress.takeLong argument = .ok after) : Holds after.arguments := by
  unfold Progress.takeLong at taken
  dsimp only at taken
  split at taken
  · cases taken
  · split at taken
    · exact kept.takeValue holds taken
    · split at taken
      · cases taken
      · exact kept.takeSwitch holds taken

theorem takeShort {letters : List Char} (holds : Holds progress.arguments)
    (taken : progress.takeShort letters = .ok after) : Holds after.arguments := by
  induction letters generalizing progress with
  | nil =>
      cases taken
      exact holds
  | cons letter rest ih =>
      unfold Progress.takeShort at taken
      split at taken
      · cases taken
      · split at taken
        · exact kept.takeValue holds taken
        · obtain ⟨switched, switch, taken⟩ := exists_of_bind_eq_ok taken
          exact ih (kept.takeSwitch holds switch) taken

theorem take {argument : String} (holds : Holds progress.arguments)
    (taken : progress.take argument = .ok after) : Holds after.arguments := by
  unfold Progress.take at taken
  split at taken
  · exact kept.takeLong holds taken
  · exact kept.takeShort holds taken
  · unfold Progress.takeWord at taken
    split at taken
    · cases taken
      exact holds
    · cases taken

theorem finish {arguments : Arguments} (holds : Holds progress.arguments)
    (finished : (do return (← progress.settle).arguments) = Except.ok arguments) :
    Holds arguments := by
  obtain ⟨settled, settle, same⟩ := exists_of_bind_eq_ok finished
  cases same
  exact kept.settle holds settle

theorem readFrom {words : List String} {arguments : Arguments}
    (holds : Holds progress.arguments)
    (accepted : CommandLine.readFrom progress words = .ok arguments) : Holds arguments := by
  induction words generalizing progress with
  | nil => exact kept.finish holds accepted
  | cons word rest ih =>
      unfold CommandLine.readFrom at accepted
      split at accepted
      case h_1 nothing => cases nothing
      case h_2 => exact kept.finish holds accepted
      case h_3 => cases accepted
      case h_4 same =>
        cases same
        obtain ⟨taken, take, accepted⟩ := exists_of_bind_eq_ok accepted
        exact ih (kept.take holds take) accepted

/-- What no flag takes away holds of all arguments that are accepted. -/
theorem read {words : List String} {arguments : Arguments}
    (accepted : CommandLine.read words = .ok arguments) : Holds arguments :=
  kept.readFrom kept.start accepted

end Kept

end SpeciesBrowser.CommandLine
