import NodeFamilies.Decimal.Binary64

/-!
# The shortest decimal text of a number

The fewest digits that still name the number among all binary ones, and of those the nearest.
-/

namespace NodeFamilies.Decimal

/-- `digits * 10 ^ exponent` -/
structure Digits where
  digits : Nat
  exponent : Int
  deriving DecidableEq, Repr

/-- Whether `num / den` is `10 ^ e * k`, more or less. -/
def compareScaled (k : Nat) (e : Int) (num den : Nat) : Ordering :=
  compare (k * powerOfTen e.toNat * den) (num * powerOfTen (-e).toNat)

/-- The exponent of the first digit of `num / den`. -/
def leadingExponent (num den : Nat) : Int :=
  if den ≤ num then ((Nat.toDigits 10 (num / den)).length : Int) - 1
  else -((Nat.toDigits 10 ((den - 1) / num)).length : Int)

namespace Binary64

/-- The numbers around `x` that are nearer to it than to any other, as quarters of its last bit. -/
def interval (x : Binary64) : Nat × Nat :=
  let below := if x.mantissa = powerOfTwo 52 && -1074 < x.exponent then 1 else 2
  (4 * x.mantissa - below, 4 * x.mantissa + 2)

/-- `k` quarters of the last bit of `x`, as a quotient. -/
def quarters (x : Binary64) (k : Nat) : Nat × Nat :=
  (k * powerOfTwo (x.exponent - 2).toNat, powerOfTwo (2 - x.exponent).toNat)

/-- Whether the decimal number is read as `x`; the ends of the interval are if `x` is even. -/
def names (x : Binary64) (d : Digits) : Bool :=
  let (low, high) := x.interval
  let (n, m) := x.quarters low
  let (n', m') := x.quarters high
  let atLeast := compareScaled d.digits d.exponent n m
  let atMost := compareScaled d.digits d.exponent n' m'
  (atLeast == .gt || (atLeast == .eq && x.mantissa % 2 == 0)) &&
    (atMost == .lt || (atMost == .eq && x.mantissa % 2 == 0))

/-- The two neighbours of `x` among the multiples of `10 ^ e`. -/
def neighbours (x : Binary64) (e : Int) : Nat × Nat :=
  let (n, m) := x.ratio
  let k := n * powerOfTen (-e).toNat / (m * powerOfTen e.toNat)
  (k, k + 1)

/-- Whether the lower neighbour is the nearer one; the even one if both are equally near. -/
def preferLower (x : Binary64) (e : Int) (k : Nat) : Bool :=
  let (n, m) := x.ratio
  match compareScaled (2 * k + 1) e (2 * n) m with
  | .gt => true
  | .eq => k % 2 == 0
  | .lt => false

/-- The multiple of `10 ^ e` that names `x` and is nearest to it. -/
def nearestNaming? (x : Binary64) (e : Int) : Option Digits :=
  let (k, k') := x.neighbours e
  match x.names ⟨k, e⟩, x.names ⟨k', e⟩ with
  | true, true => some ⟨if x.preferLower e k then k else k', e⟩
  | true, false => some ⟨k, e⟩
  | false, true => some ⟨k', e⟩
  | false, false => none

/-- Tries the powers of ten from `10 ^ e` down, as often as `tries` says. -/
def searchDigits (x : Binary64) (e : Int) : Nat → Digits
  | 0 => ⟨(x.neighbours e).1, e⟩
  | tries + 1 => (x.nearestNaming? e).getD (x.searchDigits (e - 1) tries)

/-- Seventeen digits name every number. -/
def shortest (x : Binary64) : Digits :=
  let (n, m) := x.ratio
  x.searchDigits (leadingExponent n m) 17

end Binary64

/-- Takes the zeros at the end of `k` into the exponent; `fuel` bounds their number. -/
def stripZeros (k : Nat) (e : Int) : Nat → Digits
  | 0 => ⟨k, e⟩
  | fuel + 1 => if k ≠ 0 && k % 10 == 0 then stripZeros (k / 10) (e + 1) fuel else ⟨k, e⟩

/-- How a number is written: where the point still stands among or next to its digits. -/
structure Layout where
  leastPositional : Int
  mostPositional : Int

/-- From a hundred-thousandth up to sixteen digits before the point no exponent is written. -/
def plainLayout : Layout := ⟨-5, 15⟩

def exponentText (e : Int) : String :=
  (if 0 ≤ e then "e+" else "e-") ++ toString e.natAbs

/-- The digits with a point in or beside them, or with one digit before the point and an exponent. -/
def Layout.write (l : Layout) (d : Digits) : String :=
  let ds := Nat.toDigits 10 d.digits
  let e : Int := d.exponent + ds.length - 1
  if l.leastPositional ≤ e && e ≤ l.mostPositional then
    if 0 ≤ d.exponent then
      String.ofList (ds ++ List.replicate d.exponent.toNat '0' ++ ['.', '0'])
    else if 0 ≤ e then
      String.ofList (ds.take (e.toNat + 1) ++ ['.'] ++ ds.drop (e.toNat + 1))
    else
      String.ofList (['0', '.'] ++ List.replicate (-e - 1).toNat '0' ++ ds)
  else
    String.ofList (ds.take 1 ++ (if ds.length = 1 then [] else '.' :: ds.drop 1)) ++ exponentText e

/-- The text of a number with its sign. -/
def floatText (negative : Bool) (x : Binary64) : String :=
  (if negative then "-" else "") ++
    (if x.mantissa = 0 then "0.0"
    else
      let d := x.shortest
      plainLayout.write (stripZeros d.digits d.exponent 20))

end NodeFamilies.Decimal
