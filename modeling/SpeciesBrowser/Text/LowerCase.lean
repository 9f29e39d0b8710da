import SpeciesBrowser.Text.CaseTable

/-!
# Lower case

Every character is lowered by itself, but for two rules: the dotted capital I
becomes two characters, and a capital sigma takes its final form when a letter
stands before it and none after it.
-/

namespace SpeciesBrowser.Text

/-- The single lower-case form of a character. -/
def lowerChar (symbol : Char) : Char :=
  if symbol.toNat < 128 then symbol.toLower
  else match lowerRuns.find? (·.contains symbol.toNat) with
  | some run => Char.ofNat (symbol.toNat + run.shift).toNat
  | none => symbol

/-- Whether a cased letter comes first once ignorable characters are passed over. -/
def meetsLetter (text : List Char) : Bool :=
  match text.dropWhile (inRanges caseIgnorableRanges) with
  | symbol :: _ => inRanges casedRanges symbol
  | [] => false

/-- Lower a text; `before` holds the characters already passed, the last one first. -/
def lowerAfter (before : List Char) : List Char → List Char
  | [] => []
  | symbol :: rest =>
      let lowered :=
        if symbol = 'Σ' then
          if meetsLetter before && !meetsLetter rest then ['ς'] else ['σ']
        else if symbol = 'İ' then ['i', '\u0307']
        else [lowerChar symbol]
      lowered ++ lowerAfter (symbol :: before) rest

def lower (text : List Char) : List Char := lowerAfter [] text

end SpeciesBrowser.Text
