import ScanConsole.Text.Composed
import ScanConsole.Url.JoiningTable

/-!
# Joiners in labels

The joiner and the non-joiner are invisible, so a label may hold them only where
they change how its letters look: behind a virama, or, the non-joiner, between
letters that would else be joined.
-/

namespace ScanConsole.Url

/-- The mark takes the vowel from the letter before it. -/
def isVirama (c : Char) : Bool := Text.combiningClass c == 9

/-- The letter joins what follows it. -/
def joinsNext (c : Char) : Bool :=
  Text.covers leftJoiningRanges c || Text.covers dualJoiningRanges c

def joinsPrevious (c : Char) : Bool :=
  Text.covers rightJoiningRanges c || Text.covers dualJoiningRanges c

/-- Joining looks through the mark. -/
def isTransparent (c : Char) : Bool := Text.covers transparentRanges c

/-- The non-joiner, U+200C. -/
def nonJoiner : Char := '\u200C'

/-- The joiner, U+200D. -/
def joiner : Char := '\u200D'

/-- A joiner or non-joiner may stand between these texts, of which the first is in reverse. -/
def joinerFits (c : Char) (before after : List Char) : Bool :=
  before.head?.any isVirama ||
    (c == nonJoiner && (before.dropWhile isTransparent).head?.any joinsNext &&
      (after.dropWhile isTransparent).head?.any joinsPrevious)

/-- All joiners of a label fit; `before` is what precedes `rest`, in reverse. -/
def joinersFit (before : List Char) : (rest : List Char) → Bool
  | [] => true
  | c :: rest =>
    ((c != joiner && c != nonJoiner) || joinerFits c before rest) && joinersFit (c :: before) rest

end ScanConsole.Url
