/-!
# Double-precision numbers as exact values

A finite double is a sign and `mantissa * 2 ^ exponent`. `ofRatio?` rounds a
ratio of natural numbers to the nearest double, a tie going to the even
mantissa; all arithmetic is exact arithmetic followed by one such rounding.
`ofDecimal?` reads decimal notation: the significand is rounded first and then
scaled by a rounded power of ten, so a result may lie one step away from the
double nearest to what was written.
-/

namespace ScanConsole.Decimal

/-- A finite double: `mantissa < 2 ^ 53`, and below `2 ^ 52` only at the least exponent. -/
structure Binary64 where
  negative : Bool
  mantissa : Nat
  exponent : Int
  deriving DecidableEq, Repr

namespace Binary64

def leastExponent : Int := -1074

def greatestExponent : Int := 971

/-- Zero with a sign. -/
def zero (negative : Bool) : Binary64 := ⟨negative, 0, leastExponent⟩

/-- The quotient rounded to the nearest integer, a half to the even neighbour. -/
def roundDiv (num den : Nat) : Nat :=
  let q := num / den
  let r := num % den
  if 2 * r < den then q
  else if den < 2 * r then q + 1
  else if q % 2 == 0 then q else q + 1

/-- The ratio `num / (den * 2 ^ e)` as a pair of natural numbers. -/
def scaled (num den : Nat) (e : Int) : Nat × Nat :=
  if 0 ≤ e then (num, den <<< e.toNat) else (num <<< (-e).toNat, den)

/-- The double nearest to `num / den`; none if it would be infinite. -/
def ofRatio? (num den : Nat) : Option Binary64 :=
  if num == 0 then some (zero false)
  else
    let guess : Int := (Nat.log2 num : Int) - (Nat.log2 den : Int) - 52
    let (n, d) := scaled num den guess
    let e := max (if n < d <<< 52 then guess - 1 else guess) leastExponent
    let (n, d) := scaled num den e
    let m := roundDiv n d
    let (m, e) := if m == Nat.pow 2 53 then (Nat.pow 2 52, e + 1) else (m, e)
    if greatestExponent < e then none else some ⟨false, m, e⟩

def ratio (x : Binary64) : Nat × Nat := scaled x.mantissa 1 (-x.exponent)

def mul? (x y : Binary64) : Option Binary64 :=
  ofRatio? (x.ratio.1 * y.ratio.1) (x.ratio.2 * y.ratio.2)

/-- Quotient of two magnitudes, the second not zero. -/
def div? (x y : Binary64) : Option Binary64 :=
  ofRatio? (x.ratio.1 * y.ratio.2) (x.ratio.2 * y.ratio.1)

/-- The double nearest to a power of ten. -/
def powTen? (n : Nat) : Option Binary64 := ofRatio? (Nat.pow 10 n) 1

/-- The largest power of ten that is a double. -/
def greatestPower : Nat := 308

/-- A magnitude divided by the greatest power of ten `steps` times and then by `10 ^ rest`. Nothing is
left to do once it is zero. -/
def scaleDown? (x : Binary64) : (steps rest : Nat) → Option Binary64
  | 0, rest => (powTen? rest).bind x.div?
  | steps + 1, rest =>
    if x.mantissa == 0 then some x
    else
      match (powTen? greatestPower).bind x.div? with
      | some y => y.scaleDown? steps rest
      | none => none

/-- A magnitude scaled by `10 ^ e`. -/
def scaleTen? (x : Binary64) (e : Int) : Option Binary64 :=
  if 0 ≤ e then
    if e.toNat ≤ greatestPower then (powTen? e.toNat).bind x.mul?
    else if x.mantissa == 0 then some x else none
  else
    let n := (-e).toNat
    let steps := (n - 1) / greatestPower
    x.scaleDown? steps (n - steps * greatestPower)

/-- The double for `significand * 10 ^ e`; none if it would be infinite. -/
def ofDecimal? (negative : Bool) (significand : Nat) (e : Int) : Option Binary64 :=
  ((ofRatio? significand 1).bind (·.scaleTen? e)).map fun x => { x with negative }

end Binary64

end ScanConsole.Decimal
