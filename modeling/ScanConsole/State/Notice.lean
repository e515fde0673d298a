/-!
# Notices

What an operation tells the operator, and the banner that shows the last notice
of a section.
-/

namespace ScanConsole

/-- What an operation tells the operator. -/
inductive Notice where
  | success (message : String)
  | error (message : String)
  deriving DecidableEq, Repr

/-- The messages shown in a section; at most one of them. -/
structure Banner where
  success : Option String := none
  error : Option String := none
  deriving DecidableEq, Repr

namespace Banner

def empty : Banner := {}

def ofNotice : Notice → Banner
  | .success message => { success := some message }
  | .error message => { error := some message }

end Banner

end ScanConsole
