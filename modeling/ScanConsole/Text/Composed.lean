import ScanConsole.Text.CombiningTable
import ScanConsole.Text.Ranges

/-!
# Composed text

A letter with marks can be spelled in several ways. `composed` gives the one
spelling in which marks stand in the order of their classes and every letter is
joined with as many of its marks as there are characters for: first each
character is taken apart, then the marks are ordered, then they are put together
again. Capital letters are left as they are.
-/

namespace ScanConsole.Text

/-- A mark that belongs to the character before it. -/
def isMark (c : Char) : Bool := covers markRanges c

/-- The place of a mark in the order behind its letter; zero for what starts anew. -/
def combiningClass (c : Char) : Nat :=
  match combiningClassRuns.find? fun r => r.1 ≤ c.toNat && c.toNat ≤ r.2.1 with
  | some r => r.2.2
  | none => 0

/-! ## Pairs -/

/-- The pairs of one mark, from the text in which a character and its composite take turns. -/
def pairsOf (mark : Char) : List Char → List (Char × Char × Char)
  | a :: c :: rest => (a, mark, c) :: pairsOf mark rest
  | _ => []

/-- A character, a mark, and what they compose to. -/
def compositions : List (Char × Char × Char) :=
  composites.toList.flatMap fun r => pairsOf r.1 r.2.toList

/-- The character and the mark that a character composes. -/
def pair? (c : Char) : Option (Char × Char) :=
  (compositions.find? fun t => t.2.2 == c).map fun t => (t.1, t.2.1)

/-! ## Hangul syllables

A syllable is a leading consonant, a vowel and perhaps a trailing consonant; its
code is computed from theirs. -/

/-- The parts of a syllable. -/
def syllableParts? (c : Char) : Option (List Char) :=
  let n := c.toNat
  if n < 0xAC00 || 0xD7A3 < n then none
  else
    let i := n - 0xAC00
    let start := [Char.ofNat (0x1100 + i / 588), Char.ofNat (0x1161 + i % 588 / 28)]
    some (if i % 28 == 0 then start else start ++ [Char.ofNat (0x11A7 + i % 28)])

/-- A leading consonant with a vowel, or an open syllable with a trailing consonant. -/
def syllable? (a b : Char) : Option Char :=
  let m := a.toNat
  let n := b.toNat
  if 0x1100 ≤ m && m ≤ 0x1112 && 0x1161 ≤ n && n ≤ 0x1175 then
    some (Char.ofNat (0xAC00 + ((m - 0x1100) * 21 + (n - 0x1161)) * 28))
  else if 0xAC00 ≤ m && m ≤ 0xD7A3 && (m - 0xAC00) % 28 == 0 && 0x11A7 < n && n ≤ 0x11C2 then
    some (Char.ofNat (m + (n - 0x11A7)))
  else none

/-! ## Taking apart, ordering, putting together -/

/-- A character with at most so many marks taken off, the marks behind it. -/
def takenApart : Nat → Char → List Char
  | 0, c => [c]
  | marks + 1, c =>
    match syllableParts? c with
    | some parts => parts
    | none =>
      match pair? c with
      | some (a, mark) => takenApart marks a ++ [mark]
      | none => [c]

/-- A character put in order behind a text that stands in reverse: a mark goes before those of a higher
class. -/
def settle (c : Char) : List Char → List Char
  | [] => [c]
  | p :: before =>
    if combiningClass c != 0 && combiningClass c < combiningClass p then p :: settle c before
    else c :: p :: before

/-- The text with the marks behind each letter in the order of their classes. -/
def ordered (s : List Char) : List Char := (s.foldl (fun before c => settle c before) []).reverse

/-- What two characters compose to. -/
def composite? (a b : Char) : Option Char :=
  (syllable? a b).orElse fun _ =>
    (compositions.find? fun t => t.1 == a && t.2.1 == b).map fun t => t.2.2

/-- A text put together: `letter` takes in what follows it as long as nothing that it could not take in
stands between them with the same class or a higher one; `kept` holds, in reverse, what it did not take
in. -/
def joined (letter : Char) (kept : List Char) : List Char → List Char
  | [] => letter :: kept.reverse
  | c :: rest =>
    let free : Bool :=
      match kept with
      | [] => true
      | k :: _ => combiningClass k < combiningClass c
    match if free then composite? letter c else none with
    | some composite => joined composite kept rest
    | none =>
      if combiningClass c == 0 then letter :: (kept.reverse ++ joined c [] rest)
      else joined letter (c :: kept) rest

/-- The composed spelling of a text. No character holds more than three marks. -/
def composed (s : List Char) : List Char :=
  match ordered (s.flatMap (takenApart 3)) with
  | [] => []
  | c :: rest => joined c [] rest

end ScanConsole.Text
