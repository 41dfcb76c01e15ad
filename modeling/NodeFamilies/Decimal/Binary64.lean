/-!
# Binary floating point

Non-negative numbers of the form `mantissa * 2 ^ exponent`, with 53 bits of mantissa and
exponents from -1074 to 971. Every result is the nearest such number; of two that are equally
near, the one with an even mantissa.
-/

namespace NodeFamilies.Decimal

def powerOfTwo (k : Nat) : Nat := Nat.pow 2 k

def powerOfTen (k : Nat) : Nat := Nat.pow 10 k

structure Binary64 where
  mantissa : Nat
  exponent : Int
  deriving DecidableEq, Repr

namespace Binary64

def zero : Binary64 := ⟨0, -1074⟩

/-- The value as a quotient of natural numbers. -/
def ratio (x : Binary64) : Nat × Nat :=
  (x.mantissa * powerOfTwo x.exponent.toNat, powerOfTwo (-x.exponent).toNat)

/-- `num / den` to the nearest natural number, a half to the even one. -/
def divNearest (num den : Nat) : Nat :=
  let q := num / den
  let r := num % den
  if 2 * r < den || (2 * r == den && q % 2 == 0) then q else q + 1

/-- The exponent that leaves 53 bits of `num / den` before the point, but at least -1074. -/
def scaleOf (num den : Nat) : Int :=
  let e : Int := num.log2 - den.log2 - 52
  let short := num * powerOfTwo (-e).toNat / (den * powerOfTwo e.toNat) < powerOfTwo 52
  max (if short then e - 1 else e) (-1074)

/-- The number nearest to `num / den`, or `none` above the largest one. -/
def ofRatio? (num den : Nat) : Option Binary64 :=
  if num = 0 then some zero
  else
    let e := scaleOf num den
    let m := divNearest (num * powerOfTwo (-e).toNat) (den * powerOfTwo e.toNat)
    let x : Binary64 := if m = powerOfTwo 53 then ⟨powerOfTwo 52, e + 1⟩ else ⟨m, e⟩
    if x.exponent ≤ 971 then some x else none

def mul? (x y : Binary64) : Option Binary64 :=
  ofRatio? (x.ratio.1 * y.ratio.1) (x.ratio.2 * y.ratio.2)

/-- Division by a number that is not zero. -/
def div? (x y : Binary64) : Option Binary64 :=
  ofRatio? (x.ratio.1 * y.ratio.2) (x.ratio.2 * y.ratio.1)

def ofNat? (n : Nat) : Option Binary64 := ofRatio? n 1

/-- The number nearest to a power of ten. -/
def ofPowerOfTen? (k : Nat) : Option Binary64 := ofNat? (powerOfTen k)

/-- `x / 10 ^ places`, at most 308 places at a time. -/
def shiftRight? (x : Binary64) (places : Nat) : Option Binary64 :=
  if places ≤ 308 then (ofPowerOfTen? places).bind x.div?
  else if x.mantissa = 0 then some x
  else (ofPowerOfTen? 308).bind fun p => (x.div? p).bind fun y => shiftRight? y (places - 308)
termination_by places

/--
The number written `digits * 10 ^ exponent`. The digits, the power of ten and their product or
quotient are rounded one after the other, so the result may miss the nearest number by a little.
-/
def ofDecimal? (digits : Nat) (exponent : Int) : Option Binary64 :=
  (ofNat? digits).bind fun x =>
    if exponent < 0 then x.shiftRight? (-exponent).toNat
    else if x.mantissa = 0 then some x
    else if exponent ≤ 308 then (ofPowerOfTen? exponent.toNat).bind x.mul?
    else none

end Binary64

end NodeFamilies.Decimal
