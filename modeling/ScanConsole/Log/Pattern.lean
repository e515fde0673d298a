import ScanConsole.Text.Blank
import ScanConsole.Text.Hex
import ScanConsole.Text.Letter
import ScanConsole.Text.Search

/-!
# Patterns for the values of fields

A filter may ask a field for a value that matches a regular expression. No
record here has such a field, so all that counts is `isPattern`: whether a text
is a regular expression. It is one if every repetition has something to repeat,
groups and brackets are closed, escapes and flags are known, and nothing asks
for the edge of a word in general text, which the matcher cannot find. Counts in
braces do not occur.
-/

namespace ScanConsole.Log

namespace Pattern

/-! ## Escapes -/

/-- What a character or an escape stands for. -/
inductive Item where
  | char (c : Char)
  /-- Any of several characters; `wide` if there is one outside ASCII for certain. -/
  | oneOf (wide : Bool)
  /-- A place at the start or end of the text. -/
  | textEdge
  /-- A place at the edge of a word. -/
  | wordEdge
  deriving DecidableEq, Repr

/-- The number in so many hexadecimal digits, as a character. -/
def hexChar? (digits : Nat) (s : List Char) : Option (Item × List Char) :=
  let ds := s.take digits
  match if ds.length == digits then ds.mapM Text.hexValue? else none with
  | none => none
  | some values =>
    let n := values.foldl (fun n d => n * 16 + d) 0
    if n < 0xD800 || (0xDFFF < n && n ≤ 0x10FFFF) then some (.char (Char.ofNat n), s.drop digits)
    else none

/-- What stands behind a backslash. -/
def escape? : List Char → Option (Item × List Char)
  | [] => none
  | c :: rest =>
    if c == 'x' then hexChar? 2 rest
    else if c == 'u' then hexChar? 4 rest
    else if c == 'U' then hexChar? 8 rest
    else if c == 'p' || c == 'P' then
      match rest with
      | k :: rest => if "clmnpsz".toList.contains k.toLower then some (.oneOf true, rest) else none
      | [] => none
    else if "dsw".toList.contains c then some (.oneOf false, rest)
    else if "DSW".toList.contains c then some (.oneOf true, rest)
    else if c == 'a' then some (.char '\x07', rest)
    else if c == 'f' then some (.char '\x0c', rest)
    else if c == 't' then some (.char '\t', rest)
    else if c == 'n' then some (.char '\n', rest)
    else if c == 'r' then some (.char '\r', rest)
    else if c == 'v' then some (.char '\x0b', rest)
    else if c == 'A' || c == 'z' then some (.textEdge, rest)
    else if "bB<>".toList.contains c then some (.wordEdge, rest)
    else if c.toNat < 0x80 && !c.isAlphanum then some (.char c, rest)
    else none

def item? : List Char → Option (Item × List Char)
  | [] => none
  | '\\' :: rest => escape? rest
  | c :: rest => some (.char c, rest)

/-! ## Brackets -/

/-- The names of classes that stand between `[:` and `:]`. -/
def classNames : List String :=
  ["alnum", "alpha", "ascii", "blank", "cntrl", "digit", "graph", "lower", "print", "punct", "space",
    "upper", "word", "xdigit"]

/-- What follows a named class, behind its bracket. -/
def afterNamedClass? (s : List Char) : Option (List Char) :=
  match s with
  | ':' :: rest =>
    let rest := if rest.head? == some '^' then rest.tail else rest
    let name := rest.takeWhile (· != ':')
    match rest.drop name.length with
    | ':' :: ']' :: behind => if classNames.contains (String.ofList name) then some behind else none
    | _ => none
  | _ => none

/-- What follows the signs at the start of a bracket: a negation, hyphens, and a closing bracket that
closes nothing. -/
def afterOpening? (s : List Char) : Option (List Char) :=
  let s := if s.head? == some '^' then s.tail else s
  let rest := s.dropWhile (· == '-')
  match rest with
  | [] => none
  | ']' :: behind => if rest.length == s.length then some behind else some rest
  | _ => some rest

/-- What follows a range or a single item of a bracket. -/
def afterRange? (s : List Char) : Option (List Char) :=
  match item? s with
  | none => none
  | some (first, rest) =>
    let single : Option (List Char) :=
      match first with
      | .char _ | .oneOf _ => some rest
      | .textEdge | .wordEdge => none
    match rest with
    | [] => none
    | '-' :: ']' :: _ => single
    | '-' :: '-' :: _ => single
    | '-' :: behind =>
      match first, item? behind with
      | .char a, some (.char b, rest) => if a ≤ b then some rest else none
      | _, _ => none
    | _ => single

/-- What follows the end of a bracket, when `depth` brackets around it are open too. -/
def afterBracket? (fuel depth : Nat) (s : List Char) : Option (List Char) :=
  match fuel with
  | 0 => none
  | fuel + 1 =>
    match s with
    | [] => none
    | '[' :: rest =>
      match afterNamedClass? rest with
      | some behind => afterBracket? fuel depth behind
      | none => (afterOpening? rest).bind (afterBracket? fuel (depth + 1))
    | ']' :: rest => if depth == 0 then some rest else afterBracket? fuel (depth - 1) rest
    | '&' :: '&' :: rest | '-' :: '-' :: rest | '~' :: '~' :: rest => afterBracket? fuel depth rest
    | s => (afterRange? s).bind (afterBracket? fuel depth)

/-- What follows a bracket, behind its opening sign. -/
def afterClass? (s : List Char) : Option (List Char) :=
  (afterOpening? s).bind (afterBracket? (s.length + 1) 0)

/-! ## Groups -/

/-- What flags change in the reading of a pattern. -/
structure Mode where
  /-- Classes hold characters of all scripts. -/
  general : Bool := true
  /-- Blanks and comments count for nothing. -/
  spaced : Bool := false
  deriving DecidableEq, Repr

/-- Where the reading of a pattern stands. -/
structure Reading where
  mode : Mode := {}
  /-- The modes outside the open groups, the innermost first. -/
  outer : List Mode := []
  names : List (List Char) := []
  /-- There is something that a sign of repetition can repeat. -/
  repeatable : Bool := false

def isGroupName : List Char → Bool
  | [] => false
  | c :: rest =>
    (c == '_' || Text.isAlphabetic c) &&
      rest.all fun c => "_.[]".toList.contains c || Text.isAlphanumeric c

/-- The mode after flags, of which those behind a hyphen are switched off. -/
def Mode.after? (m : Mode) (flags : List Char) : Option Mode :=
  let on := flags.takeWhile (· != '-')
  let off := flags.drop (on.length + 1)
  let letters := on ++ off
  if (flags.contains '-' && off.isEmpty) || !letters.all "imsUuRx".toList.contains ||
      letters.eraseDups.length != letters.length then none
  else
    let switched (flag : Char) (before : Bool) : Bool :=
      (before || on.contains flag) && !off.contains flag
    some ⟨switched 'u' m.general, switched 'x' m.spaced⟩

/-- A group opened in the mode `m`. -/
def Reading.opened (r : Reading) (m : Mode) : Reading :=
  { r with mode := m, outer := r.mode :: r.outer, repeatable := false }

/-- The reading behind what follows an opening parenthesis. -/
def Reading.group? (r : Reading) (s : List Char) : Option (Reading × List Char) :=
  let named (s : List Char) : Option (Reading × List Char) :=
    match Text.splitOnce? '>' s with
    | none => none
    | some (name, rest) =>
      if isGroupName name && !r.names.contains name then
        some ({ r.opened r.mode with names := name :: r.names }, rest)
      else none
  match s with
  | '?' :: 'P' :: '<' :: rest => named rest
  | '?' :: '<' :: rest => named rest
  | '?' :: rest =>
    let flags := rest.takeWhile fun c => c != ':' && c != ')'
    match r.mode.after? flags, rest.drop flags.length with
    | some m, ':' :: rest => some (r.opened m, rest)
    | some m, ')' :: rest =>
      if flags.isEmpty then none else some ({ r with mode := m, repeatable := false }, rest)
    | _, _ => none
  | s => some (r.opened r.mode, s)

/-! ## Whole patterns -/

/-- The item may stand in a pattern that is read in this mode. -/
def Mode.admits (m : Mode) : Item → Bool
  | .char c => m.general || c.toNat < 0x80
  | .oneOf wide => m.general || !wide
  | .textEdge => true
  | .wordEdge => !m.general

/-- The rest of a pattern is well formed. -/
def Reading.isWellFormed (fuel : Nat) (r : Reading) (s : List Char) : Bool :=
  match fuel with
  | 0 => false
  | fuel + 1 =>
    let item : Reading := { r with repeatable := true }
    match s with
    | [] => r.outer.isEmpty
    | '\\' :: rest =>
      match escape? rest with
      | some (i, rest) => r.mode.admits i && item.isWellFormed fuel rest
      | none => false
    | '[' :: rest =>
      match afterClass? rest with
      | some behind =>
        (r.mode.general || rest.head? != some '^') && item.isWellFormed fuel behind
      | none => false
    | '(' :: rest =>
      match r.group? rest with
      | some (r, rest) => r.isWellFormed fuel rest
      | none => false
    | ')' :: rest =>
      match r.outer with
      | m :: outer => Reading.isWellFormed fuel { item with mode := m, outer := outer } rest
      | [] => false
    | '|' :: rest => Reading.isWellFormed fuel { r with repeatable := false } rest
    | '\x7b' :: _ => false
    | '.' :: rest => r.mode.general && item.isWellFormed fuel rest
    | c :: rest =>
      if c == '?' || c == '*' || c == '+' then
        r.repeatable && r.isWellFormed fuel (if rest.head? == some '?' then rest.tail else rest)
      else if r.mode.spaced && Text.isBlank c then r.isWellFormed fuel rest
      else if r.mode.spaced && c == '#' then r.isWellFormed fuel (rest.dropWhile (· != '\n'))
      else item.isWellFormed fuel rest

end Pattern

/-- The text is a regular expression. -/
def isPattern (s : List Char) : Bool := Pattern.Reading.isWellFormed (s.length + 1) {} s

/-! ## Numbers -/

/-- Digits, perhaps with a point in or around them, of which there is at least one. -/
def isDecimalPart (s : List Char) : Bool :=
  match Text.splitOnce? '.' s with
  | none => !s.isEmpty && s.all Char.isDigit
  | some (whole, fraction) =>
    !(whole.isEmpty && fraction.isEmpty) && whole.all Char.isDigit && fraction.all Char.isDigit

def unsigned : List Char → List Char
  | '+' :: s => s
  | '-' :: s => s
  | s => s

/-- The text is a number, infinity and the lack of one included. -/
def isNumber (s : List Char) : Bool :=
  let s := (unsigned s).map Char.toLower
  ["inf", "infinity", "nan"].contains (String.ofList s) ||
    match Text.splitOnce? 'e' s with
    | none => isDecimalPart s
    | some (m, e) =>
      let e := unsigned e
      isDecimalPart m && !e.isEmpty && e.all Char.isDigit

end ScanConsole.Log
