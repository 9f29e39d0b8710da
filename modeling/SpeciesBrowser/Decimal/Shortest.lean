/-!
# The fewest digits that read back

A double stands for all real numbers that round to it. Of the decimal numbers among
them the shortest is taken, and of the shortest ones the nearest to the double. Each
length is tried on its own: among the decimals with that many digits only the two
neighbours of the double can be the nearest.
-/

namespace SpeciesBrowser.Decimal

/-- A positive double as `significand * 2 ^ exponent`. -/
structure Binary where
  significand : Nat
  exponent : Int
deriving DecidableEq, Repr

/-- `digits * 10 ^ exponent`. -/
structure Scaled where
  digits : Nat
  exponent : Int
deriving DecidableEq, Repr

/-- A power of ten. -/
def tens (exponent : Nat) : Nat := Nat.pow 10 exponent

namespace Binary

/-- One more than the greatest fraction of a double. -/
def fractions : Nat := 0x10000000000000

def ofBits (bits : UInt64) : Binary :=
  let fraction : Nat := bits.toNat % fractions
  let biased : Nat := bits.toNat / fractions % 0x800
  if biased = 0 then ⟨fraction, -1074⟩ else ⟨fraction + fractions, (biased : Int) - 1075⟩

/-- Compare `scaled * 2 ^ power` with a decimal number. -/
def compareScaled (scaled : Nat) (power : Int) (decimal : Scaled) : Ordering :=
  compare ((scaled * tens (-decimal.exponent).toNat) <<< power.toNat)
    ((decimal.digits * tens decimal.exponent.toNat) <<< (-power).toNat)

/-- Whether a decimal number rounds to the double; the ends of the range round to even. -/
def holds (binary : Binary) (decimal : Scaled) : Bool :=
  let power := binary.exponent - 2
  let middle := 4 * binary.significand
  let below := if binary.significand = fractions ∧ -1074 < binary.exponent then 1 else 2
  let ends := binary.significand % 2 = 0
  let fromBelow := compareScaled (middle - below) power decimal
  let fromAbove := compareScaled (middle + 2) power decimal
  (fromBelow == .lt || (ends && fromBelow == .eq)) &&
    (fromAbove == .gt || (ends && fromAbove == .eq))

/-- The greatest multiple of a power of ten that does not exceed the double. -/
def floorAt (binary : Binary) (exponent : Int) : Scaled :=
  let top := (binary.significand * tens (-exponent).toNat) <<< binary.exponent.toNat
  let bottom := tens exponent.toNat <<< (-binary.exponent).toNat
  ⟨top / bottom, exponent⟩

/-- How many decimal places up to the first digit are tried for a double below one. -/
def leadingPlaces : Nat → Nat → Binary → Nat
  | 0, places, _ => places
  | fuel + 1, places, binary =>
      if (binary.floorAt (-places)).digits = 0 then leadingPlaces fuel (places + 1) binary
      else places

/-- The power of ten of the first digit. -/
def leadingPower (binary : Binary) : Int :=
  let whole := (binary.floorAt 0).digits
  if whole = 0 then -(leadingPlaces 400 1 binary) else (Nat.toDigits 10 whole).length - 1

/-- Of the two neighbours on one grid the one that rounds to the double, or the nearer of two. -/
def onGrid? (binary : Binary) (exponent : Int) : Option Scaled :=
  let low := binary.floorAt exponent
  let high : Scaled := ⟨low.digits + 1, exponent⟩
  match binary.holds low, binary.holds high with
  | false, false => none
  | true, false => some low
  | false, true => some high
  | true, true =>
      let middle : Scaled := ⟨(2 * low.digits + 1) * 5, exponent - 1⟩
      match compareScaled binary.significand binary.exponent middle with
      | .lt => some low
      | .gt => some high
      | .eq => some (if low.digits % 2 = 0 then low else high)

end Binary

/-- The shortest decimal of a positive double. -/
def shortest (binary : Binary) : Scaled :=
  let power := binary.leadingPower
  let grids := (List.range 17).map fun (place : Nat) => power - place
  (grids.findSome? binary.onGrid?).getD (binary.floorAt (power - 16))

end SpeciesBrowser.Decimal
