import SpeciesBrowser.Proofs.Files.Paths
import SpeciesBrowser.Proofs.Settings.Writing
import SpeciesBrowser.Settings.File

/-!
# Loading settings

Loading reads the file at a path onto the defaults and leaves the tree alone. Where no file is
there it gives the defaults and may write them down: it adds directories above the path and the
first settings file at the path, and a second load finds that file and gives the defaults again.
-/

namespace SpeciesBrowser.Settings

open Files Tree TreeM

/-- The settings that a text holds, with the default for each one that it leaves out. -/
def ofText (text : String) : Settings := (({} : Settings).read text).value

theorem fromUTF8?_toUTF8 (text : String) : String.fromUTF8? text.toUTF8 = some text := by
  unfold String.fromUTF8?
  exact dif_pos text.isValidUTF8

theorem ofText_skeleton : ofText skeleton = {} := by
  rw [ofText, value_read_skeleton]

/-- The tree once the directory that a path lies in has been asked for. -/
def withDirectory (tree : Tree) (path : Path) : Tree :=
  match path.parent? with
  | some directory => (tree.createDirs directory).2
  | none => tree

theorem result_load (tree : Tree) (path : Path) :
    result (load path) tree =
      if tree.isFile path then ((tree.readText path).toOption.map ofText).getD {} else {} := by
  rw [load, result_bind, result_isFile, leaves_isFile]
  cases tree.isFile path with
  | true =>
      rw [if_pos rfl, if_pos rfl, result_bind, result_readText, leaves_readText]
      cases tree.readText path <;> rfl
  | false =>
      rw [if_neg Bool.false_ne_true, if_neg Bool.false_ne_true]
      cases path.parent? with
      | none =>
          dsimp only
          rw [result_bind]
          split <;> rfl
      | some directory =>
          dsimp only
          rw [result_bind, result_bind]
          split <;> rfl

theorem leaves_load (tree : Tree) (path : Path) :
    leaves (load path) tree =
      if tree.isFile path then tree
      else ((withDirectory tree path).writeBytes path skeleton.toUTF8).toOption.getD
        (withDirectory tree path) := by
  rw [load, leaves_bind, result_isFile, leaves_isFile]
  cases tree.isFile path with
  | true =>
      rw [if_pos rfl, if_pos rfl, leaves_bind, result_readText, leaves_readText]
      cases tree.readText path <;> rfl
  | false =>
      rw [if_neg Bool.false_ne_true, if_neg Bool.false_ne_true, withDirectory]
      cases path.parent? with
      | none =>
          dsimp only
          rw [leaves_bind, leaves_writeText]
          split <;> rfl
      | some directory =>
          dsimp only
          rw [leaves_bind, leaves_bind, leaves_writeText, leaves_createDirs]
          split <;> rfl

variable {tree : Tree} {path : Path} (plain : path.IsPlain)

/-! ## The directory of the file -/

section Directory

include plain

/-- Asking for the directory of a plain path makes directories above the path, or has nothing to
make. -/
theorem exists_withDirectory (tree : Tree) : ∃ directory,
    (∀ tree, withDirectory tree path = (tree.createDirs directory).2) ∧
      ".." ∉ directory.steps ∧
        (directory.steps = [] ∨ tree.place directory = (tree.place path).dropLast) := by
  obtain ⟨directory, parent, steps, same⟩ := plain.exists_parent
  refine ⟨directory, fun tree => by rw [withDirectory, parent], ?_, ?_⟩
  · rw [steps]
    exact fun member => plain.down (List.mem_of_mem_dropLast member)
  · rcases same with absolute | nowhere
    · right
      have start : tree.start directory = tree.start path := by rw [start, absolute, start]
      rw [place, place, start, steps, List.dropLast_append_of_ne_nil plain.steps_ne_nil]
    · exact Or.inl nowhere

theorem extends_withDirectory (tree : Tree) :
    tree.Extends (withDirectory tree path)
      fun place entry => entry = .directory ∧ place <+: (tree.place path).dropLast := by
  obtain ⟨directory, made, down, nowhere | same⟩ := exists_withDirectory plain tree
  · rw [made, createDirs_of_nowhere nowhere]
    exact .refl tree _
  · rw [made, ← same]
    exact extends_createDirs down

theorem withDirectory_again (tree : Tree) :
    withDirectory (withDirectory tree path) path = withDirectory tree path := by
  obtain ⟨directory, made, down, -⟩ := exists_withDirectory plain tree
  rw [made, made, createDirs_again down]

theorem wellFormed_withDirectory (wellFormed : tree.WellFormed) :
    (withDirectory tree path).WellFormed := by
  obtain ⟨directory, made, down, -⟩ := exists_withDirectory plain tree
  rw [made]
  exact wellFormed.createDirs down

/-- No file comes with the directories. -/
theorem fileAt?_withDirectory (missing : tree.fileAt? path = none) :
    (withDirectory tree path).fileAt? path = none := by
  have grown := extends_withDirectory plain tree
  cases named : (withDirectory tree path).fileAt? path with
  | none => rfl
  | some content =>
      obtain ⟨accepted, found⟩ := fileAt?_eq_some_iff.mp named
      rw [grown.place] at found
      rcases grown.added found with earlier | ⟨directory, -⟩
      · rw [fileAt?_eq_some_iff.mpr ⟨accepted, earlier⟩] at missing
        cases missing
      · cases directory

/-- Where a file stands above the path, or at it, no directory is made. -/
theorem withDirectory_of_file (wellFormed : tree.WellFormed) {above : Location}
    {content : ByteArray} (file : tree.entry? above = some (.file content))
    (way : above <+: tree.place path) : withDirectory tree path = tree := by
  obtain ⟨directory, made, down, nowhere | same⟩ := exists_withDirectory plain tree
  · rw [made, createDirs_of_nowhere nowhere]
  · rw [made]
    rw [isPrefix_place_iff plain, ← same] at way
    rcases way with rfl | way
    · refine wellFormed.createDirs_of_entry down ?_
      rw [same]
      exact wellFormed.enclosed file
    · exact wellFormed.createDirs_of_file down file way

end Directory

/-! ## What is loaded -/

variable (wellFormed : tree.WellFormed)

include plain wellFormed

/-- A file is read and stays as it is. -/
theorem load_of_file {content : ByteArray} (named : tree.fileAt? path = some content) :
    result (load path) tree = ((String.fromUTF8? content).map ofText).getD {} ∧
      leaves (load path) tree = tree := by
  have isFile : tree.isFile path = true := by
    rw [wellFormed.isFile_eq plain, named]
    rfl
  rw [result_load, leaves_load, if_pos isFile, if_pos isFile,
    wellFormed.readText_eq plain named]
  exact ⟨rfl, rfl⟩

/-- Without a file the defaults hold, and it is tried to write them. -/
theorem load_of_missing (missing : tree.fileAt? path = none) :
    result (load path) tree = {} ∧
      leaves (load path) tree =
        ((withDirectory tree path).writeBytes path skeleton.toUTF8).toOption.getD
          (withDirectory tree path) := by
  have isFile : ¬tree.isFile path = true := by
    rw [wellFormed.isFile_eq plain, missing]
    exact Bool.false_ne_true
  rw [result_load, leaves_load, if_neg isFile, if_neg isFile]
  exact ⟨rfl, rfl⟩

theorem result_load_eq :
    result (load path) tree =
      (((tree.fileAt? path).bind String.fromUTF8?).map ofText).getD {} := by
  cases named : tree.fileAt? path with
  | some content => exact (load_of_file plain wellFormed named).1
  | none => exact (load_of_missing plain wellFormed named).1

/-- Loading where no file is either leaves the directories alone, and will do so again, or has put
the first settings file where nothing was. -/
theorem leaves_load_of_missing (missing : tree.fileAt? path = none) :
    (leaves (load path) tree = withDirectory tree path ∧
      leaves (load path) (withDirectory tree path) = withDirectory tree path) ∨
    Tree.entry? (withDirectory tree path) (tree.place path) = none ∧
      (withDirectory tree path).locate path = .ok (tree.place path) ∧
      (tree.place path).getLast?.any Path.isTooLong = false ∧
      leaves (load path) tree =
        (withDirectory tree path).put (tree.place path) (.file skeleton.toUTF8) := by
  have stillMissing := fileAt?_withDirectory plain missing
  obtain ⟨-, left⟩ := load_of_missing plain wellFormed missing
  obtain ⟨-, leftAgain⟩ :=
    load_of_missing plain (wellFormed_withDirectory plain wellFormed) stillMissing
  rw [withDirectory_again plain] at leftAgain
  have place : (withDirectory tree path).place path = tree.place path :=
    (extends_withDirectory plain tree).place
  cases written : (withDirectory tree path).writeBytes path skeleton.toUTF8 with
  | error error =>
      rw [written] at left leftAgain
      exact Or.inl ⟨left, leftAgain⟩
  | ok after =>
      rw [written] at left
      obtain ⟨located, short, noDirectory, rfl⟩ := writeBytes_eq_ok plain written
      rw [place] at located short noDirectory left
      refine Or.inr ⟨?_, located, short, left⟩
      cases found : Tree.entry? (withDirectory tree path) (tree.place path) with
      | none => rfl
      | some entry =>
          cases entry with
          | directory => exact absurd found noDirectory
          | file content =>
              obtain ⟨accepted, -⟩ := locate_eq_ok plain.down located
              rw [← place] at found
              rw [fileAt?_eq_some_iff.mpr ⟨accepted, found⟩] at stillMissing
              cases stillMissing

/-- A load adds directories above the path and the first settings file at it, at the most. -/
theorem extends_load :
    tree.Extends (leaves (load path) tree) fun place entry =>
      entry = .directory ∧ place <+: (tree.place path).dropLast ∨
        place = tree.place path ∧ entry = .file skeleton.toUTF8 := by
  cases missing : tree.fileAt? path with
  | some content =>
      rw [(load_of_file plain wellFormed missing).2]
      exact .refl tree _
  | none =>
      have grown := extends_withDirectory plain tree
      rcases leaves_load_of_missing plain wellFormed missing with ⟨left, -⟩ | ⟨free, -, -, left⟩
      · rw [left]
        exact grown.mono fun _ _ => Or.inl
      · rw [left]
        exact grown.chain (extends_put free _)

/-- Nothing is added where a file stands above the path or at it. -/
theorem leaves_load_of_file {above : Location} {content : ByteArray}
    (file : tree.entry? above = some (.file content)) (way : above <+: tree.place path) :
    leaves (load path) tree = tree := by
  cases missing : tree.fileAt? path with
  | some content => exact (load_of_file plain wellFormed missing).2
  | none =>
      have same := withDirectory_of_file plain wellFormed file way
      rcases leaves_load_of_missing plain wellFormed missing with ⟨left, -⟩ | ⟨free, located, -, -⟩
      · rw [left, same]
      · rw [same] at free located
        rcases (isPrefix_place_iff plain).mp way with rfl | way
        · rw [free] at file
          cases file
        · have directory := directory_of_locate plain located
          rw [wellFormed.eq_of_file file way directory, directory] at file
          cases file

/-- A second load gives the same settings and changes nothing. -/
theorem load_again :
    result (load path) (leaves (load path) tree) = result (load path) tree ∧
      leaves (load path) (leaves (load path) tree) = leaves (load path) tree := by
  cases missing : tree.fileAt? path with
  | some content =>
      obtain ⟨-, left⟩ := load_of_file plain wellFormed missing
      rw [left]
      exact ⟨rfl, left⟩
  | none =>
      obtain ⟨defaults, -⟩ := load_of_missing plain wellFormed missing
      have made := wellFormed_withDirectory plain wellFormed
      rcases leaves_load_of_missing plain wellFormed missing with
        ⟨left, again⟩ | ⟨free, located, short, left⟩
      · have stillMissing := fileAt?_withDirectory plain missing
        rw [left, defaults]
        exact ⟨(load_of_missing plain made stillMissing).1, again⟩
      · obtain ⟨name, place⟩ := place_eq_concat plain tree
        have last : Path.isTooLong name = false := by
          rwa [place, List.getLast?_concat] at short
        have nothing := free
        rw [place] at nothing
        have written :=
          made.put (directory_of_locate plain located) last nothing (.file skeleton.toUTF8)
        rw [← place, ← left] at written
        have named : (leaves (load path) tree).fileAt? path = some skeleton.toUTF8 := by
          obtain ⟨accepted, -⟩ := locate_eq_ok plain.down located
          rw [fileAt?_eq_some_iff, (extends_load plain wellFormed).place, left]
          exact ⟨accepted, entry?_put_self (ne_root_of_free free) _⟩
        obtain ⟨settings, leftAgain⟩ := load_of_file plain written named
        rw [fromUTF8?_toUTF8, Option.map_some, Option.getD_some, ofText_skeleton] at settings
        rw [defaults]
        exact ⟨settings, leftAgain⟩

/-- Loading reads the file at the path, if there is one and it is text, and otherwise gives the
defaults. All that stands in the tree stays. Without a file at the path or above it the directories
above it and the first settings file may be new. A second load repeats the first one and changes
nothing. -/
theorem loads_and_keeps_files :
    result (load path) tree = (((tree.fileAt? path).bind String.fromUTF8?).map ofText).getD {} ∧
      tree.Extends (leaves (load path) tree) (fun place entry =>
        entry = .directory ∧ place <+: (tree.place path).dropLast ∨
          place = tree.place path ∧ entry = .file skeleton.toUTF8) ∧
      (∀ above content, above <+: tree.place path → tree.entry? above = some (.file content) →
        leaves (load path) tree = tree) ∧
      result (load path) (leaves (load path) tree) = result (load path) tree ∧
      leaves (load path) (leaves (load path) tree) = leaves (load path) tree :=
  ⟨result_load_eq plain wellFormed, extends_load plain wellFormed,
    fun _ _ way file => leaves_load_of_file plain wellFormed file way,
    load_again plain wellFormed⟩

omit plain wellFormed

/-- A home with a file of bytes that are no text. -/
def notesTree : Tree :=
  (({} : Tree).put ["home"] .directory).put ["home", "notes"] (.file ⟨#[255]⟩)

def notesPath : Path := ⟨["", "home", "dex", "settings.conf"]⟩

theorem notesTree_wellFormed : notesTree.WellFormed :=
  have home : (({} : Tree).put ["home"] .directory).WellFormed :=
    @WellFormed.put _ [] wellFormed_empty "home" rfl (by decide) rfl .directory
  @WellFormed.put _ ["home"] home "notes" rfl (by decide) rfl (.file ⟨#[255]⟩)

/-- The defaults are written into a directory that was missing, beside the file. -/
theorem loads_and_keeps_files_beside_notes :
    let after := leaves (load notesPath) notesTree
    notesTree.WellFormed ∧ notesPath.IsPlain ∧
      result (load notesPath) notesTree = {} ∧
      after.entry? ["home", "notes"] = some (.file ⟨#[255]⟩) ∧
      after.entry? ["home", "dex", "settings.conf"] = some (.file skeleton.toUTF8) ∧
      leaves (load notesPath) after = after := by
  have plain : notesPath.IsPlain :=
    .absolute _ (List.cons_ne_nil _ _) (List.all_iff_forall_prop.mp (by decide))
  obtain ⟨settings, grown, -, -, again⟩ := loads_and_keeps_files plain notesTree_wellFormed
  have missing : notesTree.fileAt? notesPath = none := by rfl
  rw [missing] at settings
  exact ⟨notesTree_wellFormed, plain, settings, grown.kept rfl, rfl, again⟩

end SpeciesBrowser.Settings
