import ScanConsole.Text.Ranges
import ScanConsole.Url.DirectionTable

/-!
# Writing direction in labels

In a name that has characters written from right to left, each label has to run
in one direction that its first character gives, and end with a letter or a
number, so that the labels of the name stay apart when the name is displayed.
-/

namespace ScanConsole.Url

/-- How a character is written. -/
inductive Direction where
  | leftToRight
  | rightToLeft
  | arabicNumber
  | europeanNumber
  /-- As its neighbours are. -/
  | undirected
  /-- As the character that it is attached to. -/
  | attached
  deriving DecidableEq, Repr

/-- The direction of a character that a label can hold. -/
def Direction.of (c : Char) : Direction :=
  if c.toNat < 0x80 then
    if c.isAlpha then .leftToRight else if c.isDigit then .europeanNumber else .undirected
  else if Text.covers rightToLeftRanges c then .rightToLeft
  else if Text.covers arabicNumberRanges c then .arabicNumber
  else if Text.covers europeanNumberRanges c then .europeanNumber
  else if Text.covers undirectedRanges c then .undirected
  else if Text.covers attachedRanges c then .attached
  else .leftToRight

/-- The direction asks for care in the whole name. -/
def Direction.isFromRight (d : Direction) : Bool := d == .rightToLeft || d == .arabicNumber

/-- The label has a character that asks for care. -/
def hasRightToLeft (label : List Char) : Bool := label.any fun c => (Direction.of c).isFromRight

/-- A label whose characters have these directions runs in one direction. -/
def runsOneWay (ds : List Direction) : Bool :=
  let last := (ds.reverse.dropWhile (· == .attached)).head?
  match ds with
  | [] => true
  | .leftToRight :: _ =>
    ds.all (fun d => d != .rightToLeft && d != .arabicNumber) &&
      last.any fun d => d == .leftToRight || d == .europeanNumber
  | .rightToLeft :: _ =>
    ds.all (· != .leftToRight) &&
      !(ds.contains .europeanNumber && ds.contains .arabicNumber) &&
      last.any fun d => d == .rightToLeft || d == .europeanNumber || d == .arabicNumber
  | _ => false

/-- The labels can stand together in a name. -/
def directionsAgree (labels : List (List Char)) : Bool :=
  !labels.any hasRightToLeft || labels.all fun label => runsOneWay (label.map Direction.of)

end ScanConsole.Url
