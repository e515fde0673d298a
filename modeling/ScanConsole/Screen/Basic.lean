/-!
# Result screens

A scan answers with named screens: lines of text, or a table whose first row is
its head.
-/

namespace ScanConsole

/-- What a screen shows. -/
inductive ScreenContent where
  | lines (lines : List String)
  | table (rows : List (List String))
  deriving DecidableEq, Repr

/-- One named part of the results of a scan. -/
structure Screen where
  name : String
  content : ScreenContent
  deriving DecidableEq, Repr

def ScreenContent.isTable : ScreenContent → Bool
  | .lines _ => false
  | .table _ => true

end ScanConsole
