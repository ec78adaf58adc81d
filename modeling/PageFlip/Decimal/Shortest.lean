/-!
# Shortest decimals

The decimal with the fewest digits among those that are read back as a given binary fraction, and
of these the one nearest to it; of two that are equally near, the one whose last digit is even. All
arithmetic is on natural numbers.
-/

namespace PageFlip.Decimal

/-- A positive binary fraction: `mantissa * 2 ^ exponent`. -/
structure Binary where
  mantissa : Nat
  exponent : Int
  /-- Whether the next smaller fraction is only half as far away as the next larger one. -/
  narrowBelow : Bool

/-- The fraction with the given bits, its sign left out. The bits are those of a finite number. -/
def Binary.ofBits (bits : UInt64) : Binary :=
  let power := ((bits >>> 52) &&& 0x7ff).toNat
  let fraction := (bits &&& 0xfffffffffffff).toNat
  if power = 0 then ⟨fraction, -1074, false⟩
  else ⟨1 <<< 52 + fraction, (power : Int) - 1075, fraction == 0 && 1 < power⟩

/-- The decimal `digits * 10 ^ exponent`. -/
structure Scaled where
  digits : Nat
  exponent : Int
deriving DecidableEq

/-- How `a * 10 ^ i` compares with `n * 2 ^ j`. -/
def compareScaled (a : Nat) (i : Int) (n : Nat) (j : Int) : Ordering :=
  compare (a * Nat.pow 10 i.toNat * Nat.pow 2 (-j).toNat)
    (n * Nat.pow 2 j.toNat * Nat.pow 10 (-i).toNat)

/-- Whether a decimal is read back as the fraction: it lies between the points halfway to the
neighbours, and these points themselves are read back if the mantissa is even. -/
def Binary.readsBack (x : Binary) (d : Scaled) : Bool :=
  let low := if x.narrowBelow then 4 * x.mantissa - 1 else 4 * x.mantissa - 2
  let high := 4 * x.mantissa + 2
  let closed := x.mantissa % 2 == 0
  let below := compareScaled d.digits d.exponent low (x.exponent - 2)
  let above := compareScaled d.digits d.exponent high (x.exponent - 2)
  (below == .gt || closed && below == .eq) && (above == .lt || closed && above == .eq)

/-- The greatest multiple of `10 ^ exponent` that is not above the fraction. -/
def Binary.floorTo (x : Binary) (exponent : Int) : Scaled :=
  ⟨x.mantissa * Nat.pow 2 x.exponent.toNat * Nat.pow 10 (-exponent).toNat /
    (Nat.pow 2 (-x.exponent).toNat * Nat.pow 10 exponent.toNat), exponent⟩

/-- Whether a fraction that lies between a decimal and the next of the same exponent is rounded to
the former. The middle between them is rounded to the even one. -/
def Binary.roundsDown (x : Binary) (d : Scaled) : Bool :=
  match compareScaled (2 * d.digits + 1) d.exponent (2 * x.mantissa) x.exponent with
  | .gt => true
  | .eq => d.digits % 2 == 0
  | .lt => false

/-- The nearer neighbour of the fraction with the given exponent, among those that are read
back. -/
def Binary.neighbour? (x : Binary) (exponent : Int) : Option Scaled :=
  let d := x.floorTo exponent
  let e := { d with digits := d.digits + 1 }
  match x.readsBack d, x.readsBack e with
  | true, true => if x.roundsDown d then some d else some e
  | true, false => some d
  | false, true => some e
  | false, false => none

/-- The least exponent of ten from `start` on whose power is above the fraction, at most
`start + fuel`. -/
def Binary.scaleFrom (x : Binary) (start : Int) : Nat → Int
  | 0 => start
  | fuel + 1 =>
    if compareScaled 1 start x.mantissa x.exponent == .gt then start
    else x.scaleFrom (start + 1) fuel

/-- The least exponent of ten whose power is above the fraction. Every finite fraction lies between
the powers of -325 and 310. -/
def Binary.scale (x : Binary) : Int := x.scaleFrom (-325) 640

/-- Takes the zeros at the end of the digits into the exponent. -/
def Scaled.stripZeros (d : Scaled) : Scaled :=
  if 0 < d.digits ∧ d.digits % 10 = 0 then stripZeros ⟨d.digits / 10, d.exponent + 1⟩ else d
termination_by d.digits
decreasing_by exact Nat.div_lt_self (by omega) (by decide)

/-- The shortest decimal that is read back as the fraction. Seventeen digits always suffice. -/
def Binary.shortest (x : Binary) : Scaled :=
  let scale := x.scale
  let found := (List.range 17).findSome? fun n : Nat => x.neighbour? (scale - (n + 1 : Nat))
  (found.getD (x.floorTo (scale - 17))).stripZeros

/-- How a decimal is written. -/
structure Style where
  /-- The least power of ten of the first digit for which no exponent is written. -/
  leastFixed : Int
  /-- The greatest power of ten of the first digit for which no exponent is written. -/
  greatestFixed : Int
  /-- The sign before an exponent that is not negative. -/
  plus : String

/-- A decimal in a style. Without an exponent there is always a digit behind the point. -/
def Style.write (style : Style) (d : Scaled) : String :=
  let digits := (toString d.digits).toList
  let power := d.exponent + digits.length - 1
  if power < style.leastFixed || style.greatestFixed < power then
    let fraction := if digits.length = 1 then [] else '.' :: digits.drop 1
    let sign := if power < 0 then "-" else style.plus
    String.ofList (digits.take 1 ++ fraction) ++ s!"e{sign}{power.natAbs}"
  else if power < 0 then
    String.ofList ('0' :: '.' :: List.replicate (power.natAbs - 1) '0' ++ digits)
  else
    let whole := digits.take (power.toNat + 1)
    let padded := whole ++ List.replicate (power.toNat + 1 - whole.length) '0'
    let fraction := digits.drop (power.toNat + 1)
    String.ofList (padded ++ '.' :: (if fraction.isEmpty then ['0'] else fraction))

/-- A finite number in a style, with the fewest digits that are read back as it. -/
def Style.writeFloat (style : Style) (x : Float) : String :=
  let bits := x.toBits
  let sign := if bits >>> 63 == 0 then "" else "-"
  let b := Binary.ofBits (bits &&& 0x7fff_ffff_ffff_ffff)
  if b.mantissa = 0 then sign ++ "0.0" else sign ++ style.write b.shortest

end PageFlip.Decimal
