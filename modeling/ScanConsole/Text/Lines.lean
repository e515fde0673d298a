/-!
# Lines

A line ends at a line feed; a carriage return right before it belongs to the
ending. What stands after the last line feed is a line of its own unless it is
empty, and keeps a carriage return at its end.
-/

namespace ScanConsole.Text

/-- A line without the carriage return at its end. -/
def dropReturn (line : List Char) : List Char :=
  match line.reverse with
  | '\r' :: r => r.reverse
  | _ => line

/-- The lines of what is still to come: `current` is the open line and `done` the finished ones, both
in reverse. -/
def linesFrom (done : List (List Char)) (current : List Char) : List Char → List (List Char)
  | [] => (if current.isEmpty then done else current.reverse :: done).reverse
  | '\n' :: rest => linesFrom (dropReturn current.reverse :: done) [] rest
  | c :: rest => linesFrom done (c :: current) rest

def lines (s : List Char) : List (List Char) := linesFrom [] [] s

end ScanConsole.Text
