import ScanConsole.Text.Blank
import ScanConsole.Text.Composed
import ScanConsole.Text.Lowercase
import ScanConsole.Url.Direction
import ScanConsole.Url.DomainTable
import ScanConsole.Url.Joining
import ScanConsole.Url.Percent
import ScanConsole.Url.Punycode

/-!
# Domain names

A domain name is written in small ASCII letters; a label with other characters
is spelled in ASCII behind `xn--`. Names that look alike are to be one name:
each character is replaced by its image, the text is composed, and a label that
comes spelled already has to be the spelling of a label in just this form.
-/

namespace ScanConsole.Url

/-! ## Characters -/

/-- A character that no domain name holds. -/
def isForbidden (c : Char) : Bool :=
  c.toNat ≤ 0x20 || c.toNat == 0x7F || "#/:<>?@[\\]^|%".toList.contains c

/-- A character beyond ASCII that no domain name is read from. -/
def isDisallowed (c : Char) : Bool := Text.covers disallowedRanges c

/-- The image of a character in a domain name; nothing if it is ignored. -/
def image (c : Char) : List Char :=
  if c.toNat < 0x80 then [c.toLower]
  else if Text.covers ignoredRanges c then []
  else
    match imageRuns.find? fun r => r.1 ≤ c.toNat && c.toNat ≤ r.2.1 with
    | some r => ((Text.splitAtEach (· == ' ') r.2.2.toList)[c.toNat - r.1]?).getD [c]
    | none => [Text.lowerChar c]

/-- The character is its own image. -/
def isSettled (c : Char) : Bool := !isDisallowed c && image c == [c]

/-! ## Labels -/

/-- A label as it is displayed and as it is written. -/
structure Label where
  shown : List Char
  written : List Char
  deriving DecidableEq, Repr

/-- The mark of a spelled label. -/
def spelledMark : List Char := "xn--".toList

/-- A label beyond ASCII is not longer than this. -/
def labelLimit : Nat := 1000

/-- The spelling of a label is not longer than this. -/
def spellingLimit : Nat := 2000

def isAscii (s : List Char) : Bool := s.all fun c => c.toNat < 0x80

/-- The label does not begin with a mark, and its joiners fit. -/
def isWellFormed (label : List Char) : Bool :=
  !label.head?.any Text.isMark && joinersFit [] label

/-- The label that a spelling behind its mark stands for. -/
def spelledLabel? (spelling : List Char) : Option Label :=
  if spelling.isEmpty || spelling.getLast? == some '-' || spellingLimit < spelling.length ||
      !isAscii spelling then none
  else
    match Punycode.decode? spelling with
    | none => none
    | some label =>
      if label.all isSettled && Text.composed label == label && isWellFormed label then
        some ⟨label, spelledMark ++ spelling⟩
      else none

/-- A label of a composed name of images. -/
def label? (label : List Char) : Option Label :=
  match Text.after? spelledMark label with
  | some spelling => spelledLabel? spelling
  | none =>
    if isAscii label then some ⟨label, label⟩
    else if isWellFormed label && label.length ≤ labelLimit then
      some ⟨label, spelledMark ++ Punycode.encode label⟩
    else none

/-! ## Names -/

/-- A domain name in ASCII; `none` if the text is no domain name. -/
def domain? (s : List Char) : Option (List Char) :=
  if s.any isDisallowed then none
  else
    let name := Text.composed (s.flatMap image)
    if name.isEmpty || name.any isForbidden then none
    else
      match (Text.splitAtEach (· == '.') name).mapM label? with
      | none => none
      | some labels =>
        if directionsAgree (labels.map Label.shown) then
          some (".".toList.intercalate (labels.map Label.written))
        else none

end ScanConsole.Url
