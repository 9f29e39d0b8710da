import SpeciesBrowser.Text.ClusterTable
import SpeciesBrowser.Text.Emoji
import SpeciesBrowser.Text.Extending

/-!
# Clusters

A text falls into clusters, each of which a reader takes for one character: a base with
its marks, a syllable of Hangul, two letters of a flag, pictures tied by joiners. Whether
a character belongs to the cluster before it depends on that cluster alone.

Main statement: the clusters of a text, one after another, are the text.
-/

namespace SpeciesBrowser.Text

/-- What a character is to its neighbours. -/
inductive ClusterRole where
  | carriageReturn
  | lineFeed
  | solitary
  | extending
  | joiner
  | spacingMark
  | leading
  | flagLetter
  | initial
  | vowel
  | final
  | openSyllable
  | closedSyllable
  | other
deriving DecidableEq, Repr

def isConsonant (symbol : Char) : Bool :=
  0x900 ≤ symbol.toNat && inRanges consonantRanges symbol

def isConjoiner (symbol : Char) : Bool :=
  0x900 ≤ symbol.toNat && inRanges conjoinerRanges symbol

namespace ClusterRole

/-- The role of a character beyond the marks of European scripts. -/
def ofDistant (symbol : Char) : ClusterRole :=
  if isBetween 0xac00 0xd7a3 symbol then
    if (symbol.toNat - 0xac00) % 28 = 0 then .openSyllable else .closedSyllable
  else if isBetween 0x1100 0x115f symbol || isBetween 0xa960 0xa97c symbol then .initial
  else if isBetween 0x1160 0x11a7 symbol || isBetween 0xd7b0 0xd7c6 symbol then .vowel
  else if isBetween 0x11a8 0x11ff symbol || isBetween 0xd7cb 0xd7fb symbol then .final
  else if symbol.toNat = 0x16d63 || isBetween 0x16d67 0x16d6a symbol then .vowel
  else if symbol = '\u200d' then .joiner
  else if isFlagLetter symbol then .flagLetter
  else if isExtending symbol || isSkinTone symbol then .extending
  else if inRanges solitaryRanges symbol then .solitary
  else if inRanges spacingMarkRanges symbol then .spacingMark
  else if inRanges leadingRanges symbol then .leading
  else .other

def ofChar (symbol : Char) : ClusterRole :=
  if symbol = '\r' then .carriageReturn
  else if symbol = '\n' then .lineFeed
  else if symbol.toNat < 0x300 then
    if inRanges solitaryRanges symbol then .solitary else .other
  else ofDistant symbol

/-- Whether two characters belong to one syllable of Hangul. -/
def formsSyllable : ClusterRole → ClusterRole → Bool
  | .initial, .initial | .initial, .vowel => true
  | .initial, .openSyllable | .initial, .closedSyllable => true
  | .openSyllable, .vowel | .openSyllable, .final => true
  | .vowel, .vowel | .vowel, .final => true
  | .closedSyllable, .final | .final, .final => true
  | _, _ => false

def isLineEnd : ClusterRole → Bool
  | .carriageReturn | .lineFeed => true
  | _ => false

end ClusterRole

/-- How far a picture, or a consonant, at the end of a cluster is tied to what comes next. -/
inductive Tie where
  | absent
  | loose
  | tied
deriving DecidableEq, Repr

/-- What the end of a cluster decides about the character after it. -/
structure ClusterEnd where
  role : ClusterRole
  picture : Tie
  consonant : Tie
  /-- Whether the cluster ends with the first letter of a flag. -/
  halfFlag : Bool
deriving DecidableEq, Repr

namespace ClusterEnd

/-- A picture stays loose over marks; a joiner ties it. -/
def pictureAfter (before : Tie) (role : ClusterRole) (symbol : Char) : Tie :=
  if isPictograph symbol then .loose
  else match before, role with
  | .loose, .extending => .loose
  | .loose, .joiner => .tied
  | _, _ => .absent

/-- A conjoining sign ties a consonant; other marks and joiners keep what there is. -/
def consonantAfter (before : Tie) (role : ClusterRole) (symbol : Char) : Tie :=
  if isConsonant symbol then .loose
  else if before = .absent then .absent
  else if isConjoiner symbol then .tied
  else match role with
  | .joiner => before
  | .extending => if symbol = '\u200c' then .absent else before
  | _ => .absent

/-- The end of a cluster that a character begins. -/
def first (symbol : Char) : ClusterEnd :=
  let role := ClusterRole.ofChar symbol
  { role
    picture := pictureAfter .absent role symbol
    consonant := consonantAfter .absent role symbol
    halfFlag := role = .flagLetter }

/-- The end of a cluster to which a character has been added. -/
def add (before : ClusterEnd) (symbol : Char) : ClusterEnd :=
  let role := ClusterRole.ofChar symbol
  { role
    picture := pictureAfter before.picture role symbol
    consonant := consonantAfter before.consonant role symbol
    halfFlag := role = .flagLetter && !before.halfFlag }

/-- Whether a character belongs to the cluster. -/
def takes (before : ClusterEnd) (symbol : Char) : Bool :=
  let role := ClusterRole.ofChar symbol
  if before.role = .carriageReturn && role = .lineFeed then true
  else if before.role.isLineEnd || role.isLineEnd then false
  else if before.role = .solitary || role = .solitary then false
  else
    role = .extending || role = .joiner || role = .spacingMark || before.role = .leading ||
      before.role.formsSyllable role ||
      (role = .flagLetter && before.halfFlag) ||
      (before.picture = .tied && isPictograph symbol) ||
      (before.consonant = .tied && isConsonant symbol)

end ClusterEnd

/-- The rest of a cluster that ends so far in some way, and the clusters after it. -/
def clustersFrom (before : ClusterEnd) : List Char → List Char × List (List Char)
  | [] => ([], [])
  | symbol :: rest =>
      if before.takes symbol then
        let (cluster, later) := clustersFrom (before.add symbol) rest
        (symbol :: cluster, later)
      else
        let (cluster, later) := clustersFrom (.first symbol) rest
        ([], (symbol :: cluster) :: later)

def clusters : List Char → List (List Char)
  | [] => []
  | symbol :: rest =>
      let (cluster, later) := clustersFrom (.first symbol) rest
      (symbol :: cluster) :: later

theorem flatten_clustersFrom (before : ClusterEnd) (text : List Char) :
    (clustersFrom before text).1 ++ (clustersFrom before text).2.flatten = text := by
  induction text generalizing before with
  | nil => rfl
  | cons symbol rest ih =>
      simp only [clustersFrom]
      split
      · simpa using ih (before.add symbol)
      · simpa using ih (.first symbol)

theorem flatten_clusters (text : List Char) : (clusters text).flatten = text := by
  cases text with
  | nil => rfl
  | cons symbol rest => simpa [clusters] using flatten_clustersFrom (.first symbol) rest

end SpeciesBrowser.Text
