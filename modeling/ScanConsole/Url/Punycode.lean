import ScanConsole.Text.Search

/-!
# Labels spelled in ASCII

A label with characters beyond ASCII is spelled as its ASCII characters and,
behind a hyphen, the other ones in the order of their codes: each as the
difference to the one before, counted in places of the label and codes together.
A difference is written in digits of base 36, the least of them first; the range
of the last digit adapts to the size of the differences. `encode` spells a
label, `decode?` reads a spelling.
-/

namespace ScanConsole.Url.Punycode

/-! ## Digits -/

/-- A digit of base 36. -/
def digit (d : Nat) : Char :=
  if d < 26 then Char.ofNat ('a'.toNat + d) else Char.ofNat ('0'.toNat + (d - 26))

/-- The value of a digit; letters are small. -/
def value? (c : Char) : Option Nat :=
  if 'a' ≤ c && c ≤ 'z' then some (c.toNat - 'a'.toNat)
  else if c.isDigit then some (c.toNat - '0'.toNat + 26)
  else none

/-- The threshold of the digit at this place: a digit below it is the last one. -/
def threshold (place bias : Nat) : Nat := min 26 (max 1 (place - bias))

/-- The halving that brings a difference into the range of the next bias. -/
def settle (fuel steps delta : Nat) : Nat × Nat :=
  match fuel with
  | 0 => (steps, delta)
  | fuel + 1 => if 455 < delta then settle fuel (steps + 36) (delta / 35) else (steps, delta)

/-- The bias after a difference. -/
def nextBias (delta count : Nat) (first : Bool) : Nat :=
  let delta := if first then delta / 700 else delta / 2
  let (steps, delta) := settle delta 0 (delta + delta / count)
  steps + 36 * delta / (delta + 38)

/-! ## Writing -/

/-- A difference in digits, the least of which comes first. -/
def differenceDigits (fuel bias place q : Nat) : List Char :=
  match fuel with
  | 0 => []
  | fuel + 1 =>
    let t := threshold place bias
    if q < t then [digit q]
    else
      digit (t + (q - t) % (36 - t)) ::
        differenceDigits fuel bias (place + 36) ((q - t) / (36 - t))

/-- Where the writing of a label stands. -/
structure Writing where
  delta : Nat
  bias : Nat
  done : Nat
  first : Bool
  digits : List Char

/-- One character of the label, when the characters of code `n` are placed. -/
def place (n : Nat) (w : Writing) (c : Char) : Writing :=
  if c.toNat < n then { w with delta := w.delta + 1 }
  else if c.toNat == n then
    { delta := 0, bias := nextBias w.delta (w.done + 1) w.first, done := w.done + 1, first := false,
      digits := w.digits ++ differenceDigits (w.delta + 1) w.bias 36 w.delta }
  else w

/-- All characters from code `n` on placed, the least code first. -/
def placeFrom (fuel : Nat) (label : List Char) (n : Nat) (w : Writing) : List Char :=
  match fuel with
  | 0 => w.digits
  | fuel + 1 =>
    match (label.map Char.toNat).filter (n ≤ ·) with
    | [] => w.digits
    | m :: ms =>
      let m := ms.foldl min m
      let w := { w with delta := w.delta + (m - n) * (w.done + 1) }
      let w := label.foldl (place m) w
      placeFrom fuel label (m + 1) { w with delta := w.delta + 1 }

def encode (label : List Char) : List Char :=
  let basic := label.filter fun c => c.toNat < 0x80
  let head := if basic.isEmpty then [] else basic ++ ['-']
  head ++ placeFrom label.length label 0x80 ⟨0, 72, basic.length, true, []⟩

/-! ## Reading -/

/-- The greatest number that is counted to. -/
def countLimit : Nat := 0xFFFFFFFF

/-- `i` with the difference at the head of the digits added, and the digits behind it; `none` if a
character is no digit, the digits end too early or the count goes too far. -/
def difference? (bias place weight i : Nat) : List Char → Option (Nat × List Char)
  | [] => none
  | c :: rest =>
    match value? c with
    | none => none
    | some d =>
      let t := threshold place bias
      if (countLimit - i) / weight < d then none
      else if d < t then some (i + d * weight, rest)
      else if countLimit / (36 - t) < weight then none
      else difference? bias (place + 36) (weight * (36 - t)) (i + d * weight) rest

/-- A difference takes at least one digit. -/
theorem difference?_length {bias place weight i : Nat} {s : List Char} {r : Nat × List Char}
    (h : difference? bias place weight i s = some r) : r.2.length < s.length := by
  induction s generalizing place weight i with
  | nil => simp [difference?] at h
  | cons c rest ih =>
    rw [difference?] at h
    split at h
    · simp at h
    · dsimp only at h
      split at h
      · simp at h
      · split at h
        · cases h; simp
        · split at h
          · simp at h
          · exact Nat.lt_succ_of_lt (ih h)

/-- The code is one of a character. -/
def isCharacterCode (n : Nat) : Bool := n < 0xD800 || (0xDFFF < n && n ≤ 0x10FFFF)

/-- The label that the digits add characters to: `i` counts from the start of the label, at code `n`. -/
def insertFrom (bias n i : Nat) (label s : List Char) : Option (List Char) :=
  match s with
  | [] => some label
  | c :: rest =>
    match _h : difference? bias 36 1 i (c :: rest) with
    | none => none
    | some (j, rest) =>
      let count := label.length + 1
      let m := n + j / count
      if isCharacterCode m then
        insertFrom (nextBias (j - i) count (i == 0)) m (j % count + 1)
          (label.insertIdx (j % count) (Char.ofNat m)) rest
      else none
  termination_by s.length
  decreasing_by exact difference?_length _h

/-- The label with this spelling. The last hyphen ends the ASCII characters of the label, unless it
stands first, where it can be nothing. -/
def decode? (s : List Char) : Option (List Char) :=
  match Text.splitOnce? '-' s.reverse with
  | none => insertFrom 72 0x80 0 [] s
  | some (digits, basic) =>
    if basic.isEmpty then none else insertFrom 72 0x80 0 basic.reverse digits.reverse

end ScanConsole.Url.Punycode
