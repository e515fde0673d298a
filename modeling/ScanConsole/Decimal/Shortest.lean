import ScanConsole.Decimal.Binary64

/-!
# The shortest decimal that reads back

Among the decimals that round to a given double, `shortest` picks one with the
fewest digits, and among those the nearest to the double. It looks at the two
neighbours of the double on the grid of one-digit decimals, then of two-digit
decimals, and so on up to seventeen; all comparisons are between natural
numbers. `write` puts the digits down: in positions while the leading digit
stands between the fifth place after the point and the sixteenth before it, with
an exponent otherwise.
-/

namespace ScanConsole.Decimal

open Binary64

/-- A decimal `digits * 10 ^ exponent`. -/
structure Short where
  digits : Nat
  exponent : Int
  deriving DecidableEq, Repr

/-- The ends of the interval of reals that round to the double, in quarters of a unit of its last
place: the interval is narrower below a power of two. -/
def quarterEnds (x : Binary64) : Nat × Nat :=
  let below := if x.mantissa == Nat.pow 2 52 && leastExponent < x.exponent then 1 else 2
  (4 * x.mantissa - below, 4 * x.mantissa + 2)

/-- `n * 10 ^ p` as a ratio. -/
def tenRatio (n : Nat) (p : Int) : Nat × Nat :=
  if 0 ≤ p then (n * Nat.pow 10 p.toNat, 1) else (n, Nat.pow 10 (-p).toNat)

/-- The decimal `c * 10 ^ p` rounds to the double. -/
def roundsTo (x : Binary64) (c : Nat) (p : Int) : Bool :=
  let (n, d) := tenRatio c p
  let (lo, hi) := quarterEnds x
  let (ln, ld) := scaled lo 4 (-x.exponent)
  let (hn, hd) := scaled hi 4 (-x.exponent)
  if x.mantissa % 2 == 0 then ln * d ≤ n * ld && n * hd ≤ hn * d
  else ln * d < n * ld && n * hd < hn * d

/-- The place of the leading digit of `n / d`, counted up from `k`, where `10 ^ k ≤ n / d`. -/
def leadingPlaceFrom (n d : Nat) : (fuel : Nat) → (k : Int) → Int
  | 0, k => k
  | fuel + 1, k =>
    let (pn, pd) := tenRatio 1 (k + 1)
    if pn * d ≤ n * pd then leadingPlaceFrom n d fuel (k + 1) else k

/-- The place of the leading digit of a positive double: the least double has it at -324. -/
def leadingPlace (x : Binary64) : Int :=
  let guess : Int := ((x.exponent + (Nat.log2 x.mantissa : Int)) * 1233) / 4096 - 1
  leadingPlaceFrom x.ratio.1 x.ratio.2 4 guess

/-- The grid point nearest to the double among its neighbours with `count` digits, if one of them
rounds to it. -/
def onGrid? (x : Binary64) (place : Int) (count : Nat) : Option Short :=
  let p := place + 1 - count
  let (n, d) := x.ratio
  let (pn, pd) := tenRatio 1 p
  -- the double is `num / den` grid steps
  let num := n * pd
  let den := d * pn
  let c := num / den
  let r := num % den
  let low := roundsTo x c p && c != 0
  let high := roundsTo x (c + 1) p
  if low && high then
    if 2 * r < den || (2 * r == den && c % 2 == 0) then some ⟨c, p⟩ else some ⟨c + 1, p⟩
  else if low then some ⟨c, p⟩
  else if high then some ⟨c + 1, p⟩
  else none

/-- The shortest decimal that rounds to a positive double. -/
def shortest (x : Binary64) : Short :=
  let place := leadingPlace x
  match (List.range 17).findSome? fun k => onGrid? x place (k + 1) with
  | some s => s
  | none => ⟨x.ratio.1 / x.ratio.2, 0⟩

/-- The digits without the zeros at their end, and how many those were. -/
def dropZeros (ds : List Char) : List Char × Nat :=
  let kept := (ds.reverse.dropWhile (· == '0')).reverse
  (kept, ds.length - kept.length)

/-- The least place of a leading digit that is written without an exponent. -/
def leastPlace : Int := -5

/-- The greatest such place. -/
def greatestPlace : Int := 15

/-- Digits with the leading one at the given place. -/
def writeDigits (ds : List Char) (place : Int) : List Char :=
  if leastPlace ≤ place && place ≤ greatestPlace then
    if place < 0 then
      '0' :: '.' :: List.replicate (-place - 1).toNat '0' ++ ds
    else
      let before := place.toNat + 1
      if ds.length ≤ before then ds ++ List.replicate (before - ds.length) '0' ++ ['.', '0']
      else ds.take before ++ '.' :: ds.drop before
  else
    let mantissa :=
      match ds with
      | d :: (r :: rest) => d :: '.' :: r :: rest
      | ds => ds
    let sign := if place < 0 then '-' else '+'
    mantissa ++ 'e' :: sign :: (toString place.natAbs).toList

def write (x : Binary64) : String :=
  let body :=
    if x.mantissa == 0 then ['0', '.', '0']
    else
      let s := shortest x
      let (ds, zeros) := dropZeros (toString s.digits).toList
      writeDigits ds (s.exponent + zeros + ds.length - 1)
  String.ofList (if x.negative then '-' :: body else body)

end ScanConsole.Decimal
