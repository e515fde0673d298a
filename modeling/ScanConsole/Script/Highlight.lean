import ScanConsole.Script.Editor
import ScanConsole.Text.Word

/-!
# Highlighted scripts

`pieces` cuts a shell script into tokens and the characters between them;
`highlight` writes the pieces as markup, each token in an element of its own and
every special character as an entity. The markup is only ever derived from the
text, never read back.
-/

namespace ScanConsole.Script

/-- What a token is. -/
inductive TokenKind where
  | comment
  | string
  | variable
  | keyword
  | builtin
  | number
  | operator
  deriving DecidableEq, Repr

/-- The word that marks the kind in the markup. -/
def TokenKind.name : TokenKind → String
  | .comment => "comment"
  | .string => "string"
  | .variable => "variable"
  | .keyword => "keyword"
  | .builtin => "builtin"
  | .number => "number"
  | .operator => "operator"

inductive Piece where
  | plain (c : Char)
  | token (kind : TokenKind) (text : List Char)
  deriving DecidableEq, Repr

def Piece.text : Piece → List Char
  | .plain c => [c]
  | .token _ text => text

/-! ## Tokens -/

/-- The words of the shell's grammar. -/
def keywords : List String :=
  ["if", "then", "else", "elif", "fi", "for", "while", "until", "do", "done", "case", "esac", "in",
    "function", "return", "export", "local", "select"]

/-- The commands of the shell itself. -/
def builtins : List String :=
  ["echo", "cd", "printf", "read", "source", "exit", "set", "unset", "test", "eval", "exec", "shift",
    "trap", "sudo"]

/-- The length of a text up to and with the quote that closes it; a backslash takes the next
character with it, which must not be a line feed. -/
def doubleQuoted? : List Char → Option Nat
  | [] => none
  | ['\\'] => none
  | '\\' :: c :: rest => if c == '\n' then none else (doubleQuoted? rest).map (· + 2)
  | c :: rest => if c == '"' then some 1 else (doubleQuoted? rest).map (· + 1)

/-- The length of a text up to and with the first closing character. -/
def upTo? (closing : Char) : List Char → Option Nat
  | [] => none
  | c :: rest => if c == closing then some 1 else (upTo? closing rest).map (· + 1)

/-- The length of the braces of a variable up to and with the closing one, in one line. -/
def braced? : List Char → Option Nat
  | [] => none
  | c :: rest =>
    if c == '\x7d' then some 1 else if c == '\n' then none else (braced? rest).map (· + 1)

/-- A character that begins the name of a variable. -/
def startsName (c : Char) : Bool := c.isAlpha || c == '_'

/-- A character within the name of a variable. -/
def continuesName (c : Char) : Bool := c.isAlphanum || c == '_'

/-- A character that is a variable by itself. -/
def isSpecialVariable (c : Char) : Bool :=
  c.isDigit || c == '@' || c == '#' || c == '?' || c == '*' || c == '$' || c == '!'

/-- The length of a variable behind its dollar sign. -/
def dollarName? : List Char → Option Nat
  | [] => none
  | c :: rest =>
    if c == '\x7b' then (braced? rest).map (· + 1)
    else if startsName c then some (1 + (rest.takeWhile continuesName).length)
    else if isSpecialVariable c then some 1
    else none

def wordKind? (word : List Char) : Option TokenKind :=
  if keywords.contains (String.ofList word) then some .keyword
  else if builtins.contains (String.ofList word) then some .builtin
  else if word.all Text.isDecimal then some .number
  else none

/-- How many characters beyond its first an operator that starts with `c` has. -/
def operator? (c : Char) (rest : List Char) : Option Nat :=
  if c == '&' || c == '|' || c == '>' then
    match rest with
    | d :: _ => some (if d == c then 1 else 0)
    | [] => some 0
  else if c == ';' || c == '<' then some 0
  else none

/-- The token that starts with `c` behind the character `before`: its kind, and how many characters
it has beyond `c`. A word is a token only as a whole. -/
def token? (before : Option Char) (c : Char) (rest : List Char) : Option (TokenKind × Nat) :=
  if c == '#' then some (.comment, (rest.takeWhile (· != '\n')).length)
  else if c == '"' then (doubleQuoted? rest).map fun n => (.string, n)
  else if c == '\x27' then (upTo? '\x27' rest).map fun n => (.string, n)
  else if c == '$' then (dollarName? rest).map fun n => (.variable, n)
  else if Text.isWord c then
    if before.any Text.isWord then none
    else
      let more := rest.takeWhile Text.isWord
      (wordKind? (c :: more)).map fun kind => (kind, more.length)
  else (operator? c rest).map fun n => (.operator, n)

/-- The parts of the rest of a script behind the character `before`. -/
def piecesAfter (before : Option Char) : List Char → List Piece
  | [] => []
  | c :: rest =>
    match token? before c rest with
    | none => .plain c :: piecesAfter (some c) rest
    | some (kind, more) =>
      let text := c :: rest.take more
      .token kind text :: piecesAfter text.getLast? (rest.drop more)
  termination_by s => s.length
  decreasing_by all_goals simp only [List.length_cons, List.length_drop]; omega

def pieces (script : List Char) : List Piece := piecesAfter none script

/-! ## Markup -/

/-- A character in markup. -/
def escapeChar (c : Char) : List Char :=
  if c == '&' then "&amp;".toList
  else if c == '<' then "&lt;".toList
  else if c == '>' then "&gt;".toList
  else if c == '"' then "&quot;".toList
  else if c == '\x27' then "&#39;".toList
  else [c]

def escape (s : List Char) : List Char := s.flatMap escapeChar

def Piece.markup : Piece → List Char
  | .plain c => escapeChar c
  | .token kind text =>
    "<span class=\"token ".toList ++ kind.name.toList ++ "\">".toList ++ escape text ++
      "</span>".toList

def highlightChars (script : List Char) : List Char :=
  "<code class=\"language-bash\">".toList ++ (pieces script).flatMap Piece.markup ++
    "</code>".toList

def highlight (script : String) : String := String.ofList (highlightChars script.toList)

end ScanConsole.Script

namespace ScanConsole

def Editor.markup (e : Editor) : String := Script.highlight e.text

end ScanConsole
