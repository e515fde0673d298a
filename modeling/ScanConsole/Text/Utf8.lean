/-!
# UTF-8, read without ever failing

`encode` writes a text in UTF-8. `decodeLossy` reads any bytes: a byte that
cannot continue what stands before it closes the unfinished character with a
replacement character and is read anew. The reader is a machine with one
character in progress (`Reading`), so a text can be read piece by piece:
`decodeLossy` is a left fold, and cutting the bytes does not change it.
-/

namespace ScanConsole.Text.Utf8

def encode (s : List Char) : List UInt8 := s.flatMap String.utf8EncodeChar

/-- How many bytes the text takes in UTF-8. -/
def size (s : List Char) : Nat := (encode s).length

/-- The replacement character, U+FFFD. -/
def replacement : Char := '\uFFFD'

/-- A character in progress: its bits so far, the continuation bytes still owed, and the least and
greatest value that the next one may have. -/
structure Reading where
  bits : Nat
  owed : Nat
  least : Nat
  greatest : Nat
  deriving DecidableEq, Repr

/-- The first byte of a character: the character it is, the reading it starts, or a byte that starts
nothing. -/
def start (b : Nat) : Option Reading × List Char :=
  if b < 0x80 then (none, [Char.ofNat b])
  else if 0xC2 ≤ b && b ≤ 0xDF then (some ⟨b - 0xC0, 1, 0x80, 0xBF⟩, [])
  else if b == 0xE0 then (some ⟨0, 2, 0xA0, 0xBF⟩, [])
  else if b == 0xED then (some ⟨0xD, 2, 0x80, 0x9F⟩, [])
  else if 0xE1 ≤ b && b ≤ 0xEF then (some ⟨b - 0xE0, 2, 0x80, 0xBF⟩, [])
  else if b == 0xF0 then (some ⟨0, 3, 0x90, 0xBF⟩, [])
  else if 0xF1 ≤ b && b ≤ 0xF3 then (some ⟨b - 0xF0, 3, 0x80, 0xBF⟩, [])
  else if b == 0xF4 then (some ⟨4, 3, 0x80, 0x8F⟩, [])
  else (none, [replacement])

/-- One byte: the character in progress after it, and the characters it completes. -/
def step (reading : Option Reading) (b : Nat) : Option Reading × List Char :=
  match reading with
  | none => start b
  | some r =>
    if r.least ≤ b && b ≤ r.greatest then
      let bits := r.bits * 0x40 + (b - 0x80)
      if r.owed ≤ 1 then (none, [Char.ofNat bits]) else (some ⟨bits, r.owed - 1, 0x80, 0xBF⟩, [])
    else
      let (reading, chars) := start b
      (reading, replacement :: chars)

/-- One byte of the fold: the text so far stands in reverse. -/
def push (acc : Option Reading × List Char) (b : UInt8) : Option Reading × List Char :=
  let (reading, chars) := step acc.1 b.toNat
  (reading, chars.reverseAux acc.2)

/-- The end of the bytes: an unfinished character is replaced. -/
def close (acc : Option Reading × List Char) : List Char :=
  match acc.1 with
  | none => acc.2.reverse
  | some _ => (replacement :: acc.2).reverse

/-- The bytes as text, with every ill-formed stretch replaced. -/
def decodeLossy (bytes : List UInt8) : List Char := close (bytes.foldl push (none, []))

/-- The bytes as text if they are well formed: exactly if reading them replaced nothing. -/
def decode? (bytes : List UInt8) : Option (List Char) :=
  let s := decodeLossy bytes
  if encode s = bytes then some s else none

/-! ## On strings -/

def bytesOf (s : String) : List UInt8 := encode s.toList

def textOf (bytes : List UInt8) : String := String.ofList (decodeLossy bytes)

end ScanConsole.Text.Utf8
