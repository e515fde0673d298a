import ScanConsole.Decimal.Shortest

/-!
# Numbers in JSON

A number is whole if it is written without point and exponent and fits into 64
bits, signed or not; any other number is a double. `Literal` is a number as it
is written, `Literal.value?` its value. The significand of a double takes the
leading digits while they fit into 64 bits: later digits before the point only
raise the exponent, later digits behind it are dropped.
-/

namespace ScanConsole.Json

/-- The value of a JSON number. -/
inductive Number where
  /-- `n`, below `2 ^ 64`. -/
  | whole (n : Nat)
  /-- `-n`, where `n` is positive and at most `2 ^ 63`. -/
  | minus (n : Nat)
  | real (x : Decimal.Binary64)
  deriving DecidableEq, Repr

def Number.text : Number → String
  | .whole n => toString n
  | .minus n => "-" ++ toString n
  | .real x => Decimal.write x

/-- A number as it is written. -/
structure Literal where
  negative : Bool
  digits : List Char
  /-- The digits behind the point, if there is one. -/
  fraction : Option (List Char)
  /-- The sign and digits of the exponent, if there is one. -/
  exponent : Option (Bool × List Char)
  deriving DecidableEq, Repr

namespace Literal

/-- The first number that takes more than 64 bits. -/
def wordLimit : Nat := Nat.pow 2 64

def digitValue (c : Char) : Nat := c.toNat - '0'.toNat

/-- The number that the digits denote. -/
def natural (ds : List Char) : Nat := ds.foldl (fun n c => n * 10 + digitValue c) 0

/-- A significand extended by digits while it stays below the word limit, and the digits left over. -/
def extend (significand : Nat) : List Char → Nat × List Char
  | [] => (significand, [])
  | c :: rest =>
    let next := significand * 10 + digitValue c
    if next < wordLimit then extend next rest else (significand, c :: rest)

def real? (l : Literal) : Option Number :=
  let (significand, surplus) := extend 0 l.digits
  let fraction := l.fraction.getD []
  let (significand, dropped) := extend significand fraction
  let kept := fraction.length - dropped.length
  let written : Int :=
    match l.exponent with
    | none => 0
    | some (true, ds) => -(natural ds : Int)
    | some (false, ds) => natural ds
  let e := (surplus.length : Int) - kept + written
  (Decimal.Binary64.ofDecimal? l.negative significand e).map .real

/-- The value, none if it is too large for a double. -/
def value? (l : Literal) : Option Number :=
  match l.fraction, l.exponent with
  | none, none =>
    let n := natural l.digits
    if l.negative then
      if n != 0 && n ≤ Nat.pow 2 63 then some (.minus n) else l.real?
    else if n < wordLimit then some (.whole n)
    else l.real?
  | _, _ => l.real?

/-- The digits at the head of a text; there has to be one. -/
def digits? (s : List Char) : Option (List Char × List Char) :=
  let ds := s.takeWhile Char.isDigit
  if ds.isEmpty then none else some (ds, s.dropWhile Char.isDigit)

/-- The digits before the point: a zero stands alone. -/
def leading? (s : List Char) : Option (List Char × List Char) :=
  match s with
  | '0' :: rest =>
    match rest with
    | c :: _ => if c.isDigit then none else some (['0'], rest)
    | [] => some (['0'], rest)
  | s => digits? s

def fraction? (s : List Char) : Option (Option (List Char) × List Char) :=
  match s with
  | '.' :: rest => (digits? rest).map fun r => (some r.1, r.2)
  | s => some (none, s)

def exponent? (s : List Char) : Option (Option (Bool × List Char) × List Char) :=
  match s with
  | c :: rest =>
    if c == 'e' || c == 'E' then
      let (negative, rest) :=
        match rest with
        | '-' :: r => (true, r)
        | '+' :: r => (false, r)
        | r => (false, r)
      (digits? rest).map fun r => (some (negative, r.1), r.2)
    else some (none, c :: rest)
  | [] => some (none, [])

/-- The number at the head of a text, and what follows it. -/
def read? (s : List Char) : Option (Literal × List Char) :=
  let (negative, s) :=
    match s with
    | '-' :: r => (true, r)
    | r => (false, r)
  match leading? s with
  | none => none
  | some (digits, s) =>
    match fraction? s with
    | none => none
    | some (fraction, s) =>
      match exponent? s with
      | none => none
      | some (exponent, s) => some (⟨negative, digits, fraction, exponent⟩, s)

end Literal

end ScanConsole.Json
