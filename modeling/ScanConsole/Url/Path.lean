import ScanConsole.Text.Blank
import ScanConsole.Url.Percent

/-!
# Reading paths

A path is read segment by segment; a segment of dots stands for the directory or
the one above it. A path that is being read stands in reverse, with its open
segment first: a path behind a slash starts with an empty one. In the address of
a file a drive at the head of the path stays there and is a segment of its own.
`addSegments_of_plain`: segments without dots are added as they are.
-/

namespace ScanConsole.Url

/-! ## Ends of segments -/

/-- A slash, or what counts as one in a special scheme. -/
def isSlash (special : Bool) (c : Char) : Bool := c == '/' || (special && c == '\\')

/-- What ends an authority. -/
def endsAuthority (special : Bool) (c : Char) : Bool := isSlash special c || c == '?' || c == '#'

/-- The path at the head of a text, up to its query or fragment. -/
def pathText (s : List Char) : List Char := s.takeWhile fun c => c != '?' && c != '#'

def pieces (special : Bool) (s : List Char) : List (List Char) :=
  (Text.splitAtEach (isSlash special) (pathText s)).map (percentEncode inPathSet)

/-! ## Segments with a meaning -/

/-- The segment stands for the one that holds it. -/
def isDoubleDot (s : List Char) : Bool :=
  ["..", "%2e%2e", "%2e.", ".%2e"].contains (String.ofList (s.map Char.toLower))

/-- The segment stands for itself. -/
def isSingleDot (s : List Char) : Bool := [".", "%2e"].contains (String.ofList (s.map Char.toLower))

/-- The segment stands for itself or for the one that holds it. -/
def isDots (s : List Char) : Bool := isSingleDot s || isDoubleDot s

/-- A drive: a letter with a colon or a bar. -/
def isDrive : List Char → Bool
  | [c, mark] => c.isAlpha && (mark == ':' || mark == '|')
  | _ => false

/-- A drive with a colon, as paths hold it. -/
def isPlainDrive : List Char → Bool
  | [c, ':'] => c.isAlpha
  | _ => false

/-- The text starts with a drive that is a whole segment. -/
def startsWithDrive (s : List Char) : Bool := isDrive (s.takeWhile fun c => !endsAuthority true c)

/-! ## Open paths -/

/-- The root, with a segment open. -/
def root : List (List Char) := [[]]

/-- The last segment emptied; in a file's path, `file`, not if it is a drive. -/
def cutLast (file : Bool) : List (List Char) → List (List Char)
  | [] => []
  | s :: path => if file && isPlainDrive s then s :: path else [] :: path

/-- The path that a relative reference adds to: the base without its last segment. -/
def directory (file : Bool) (segments : List (List Char)) : List (List Char) :=
  match cutLast file segments.reverse with
  | [] => root
  | path => path

/-- A slash at the end, if there is none. -/
def endWithSlash : List (List Char) → List (List Char)
  | [] :: path => [] :: path
  | path => [] :: path

/-- The path of the directory above. What looks like a drive has none. -/
def directoryAbove (file : Bool) : List (List Char) → List (List Char)
  | [] :: s :: path => if startsWithDrive s then [] :: s :: path else cutLast file (s :: path)
  | path => cutLast file path

/-- The path of a file to which the segment `s` can be added: a drive is closed first. -/
def closeDrive (path : List (List Char)) (s : List Char) : List (List Char) :=
  match path with
  | [d] => if isPlainDrive d && !s.isEmpty then [[], d] else path
  | _ => path

/-- A segment at the root of a file's path, where a drive is one of its own and has a colon. -/
def atFileRoot : List Char → List (List Char)
  | [letter, mark] => if isDrive [letter, mark] then [[letter, ':']] else [[letter, mark]]
  | letter :: ':' :: s => if letter.isAlpha then [s, [letter, ':']] else [letter :: ':' :: s]
  | s => [s]

/-- The text of a segment added to the open one. -/
def extendLast : List (List Char) → List Char → List (List Char)
  | [], s => [s]
  | last :: path, s => (last ++ s) :: path

/-- A segment added to a path; `more` says that a slash follows. -/
def addSegment (file more : Bool) (path : List (List Char)) (s : List Char) : List (List Char) :=
  let path := if file then closeDrive path s else path
  if isDoubleDot s then
    if more then endWithSlash (directoryAbove file path) else directoryAbove file path
  else if isSingleDot s then endWithSlash path
  else
    let extended := if file && path == root then atFileRoot s else extendLast path s
    if more then [] :: extended else extended

/-- Segments added to an open path, and the whole path in order. -/
def addSegments (file : Bool) (path : List (List Char)) : List (List Char) → List (List Char)
  | [] => path.reverse
  | [s] => (addSegment file false path s).reverse
  | s :: rest => addSegments file (addSegment file true path s) rest

/-- Empty segments at the head of a path left out; the last segment stays. -/
def dropEmptyHead : List (List Char) → List (List Char)
  | [] :: s :: rest => dropEmptyHead (s :: rest)
  | ss => ss

/-! ## Small facts -/

/-- A segment without a meaning is added as it is. -/
theorem addSegment_of_plain {more : Bool} {path : List (List Char)} {s : List Char}
    (h : isDots s = false) :
    addSegment false more ([] :: path) s = if more then [] :: s :: path else s :: path := by
  simp only [isDots, Bool.or_eq_false_iff] at h
  simp [addSegment, h.1, h.2, extendLast]

/-- Segments without a meaning are added as they are. -/
theorem addSegments_of_plain {path ss : List (List Char)} (hne : ss ≠ [])
    (h : ∀ s ∈ ss, isDots s = false) :
    addSegments false ([] :: path) ss = path.reverse ++ ss := by
  induction ss generalizing path with
  | nil => exact absurd rfl hne
  | cons s rest ih =>
    cases rest with
    | nil => simp [addSegments, addSegment_of_plain (h s (by simp))]
    | cons t rest =>
      rw [addSegments, addSegment_of_plain (h s (by simp)), if_pos rfl,
        ih (by simp) fun u hu => h u (by simp [hu])]
      · simp
      · simp

end ScanConsole.Url
