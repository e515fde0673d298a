import ScanConsole.Text.Blank
import ScanConsole.Text.Search
import ScanConsole.Text.Utf8
import ScanConsole.Text.Word

/-!
# Masking secrets

What follows a key word for a secret is overwritten with as many asterisks as it
has bytes: either the text between two quotes, or what goes on up to a blank, a
quote, a comma or a closing brace. A quote, blanks and a sign of equality or a
colon may stand between the key and its secret. They are passed if that leads to
a secret; or else the sign, or then the quote, is taken for the start of the
secret.
-/

namespace ScanConsole.Log

/-- The words that keys of secrets start with, in the order in which they are looked for. -/
def secretKeys : List String :=
  ["password", "csrftoken", "csrf_token", "X-CSRFToken", "sessionid", "token"]

/-- A place in a text: the character before it, and what follows. -/
structure Place where
  before : Option Char
  ahead : List Char

/-- The place so many characters further on. -/
def Place.advance (p : Place) (n : Nat) : Place :=
  match (p.ahead.take n).getLast? with
  | some c => ⟨some c, p.ahead.drop n⟩
  | none => p

def Place.blanks (p : Place) : Nat := (p.ahead.takeWhile Text.isBlank).length

def Place.follows (p : Place) (t : Char → Bool) : Bool := p.ahead.head?.any t

/-- How many characters an optional one may take: one if it is there, or none. -/
def optionalAt (p : Place) (t : Char → Bool) : List Nat := if p.follows t then [1, 0] else [0]

/-- A secret in a text: the length of its key with all that stands before the secret, whether it stands
between quotes, and its own length. -/
structure Secret where
  key : Nat
  quoted : Bool
  length : Nat
  deriving DecidableEq, Repr

/-- A character of a secret without quotes. -/
def isBare (c : Char) : Bool := !(Text.isBlank c || c == '"' || c == ',' || c == '\x7d')

/-- A secret right at this place: whether it stands between quotes, and its length. -/
def secretHere? (p : Place) : Option (Bool × Nat) :=
  match p.ahead with
  | '"' :: rest =>
    let n := (rest.takeWhile (· != '"')).length
    if n != 0 && n < rest.length then some (true, n) else none
  | c :: rest =>
    if Text.isWordEdge p.before (some c) && isBare c then
      some (false, 1 + (rest.takeWhile isBare).length)
    else none
  | [] => none

/-- A sign between a key and its secret. -/
def isSign (c : Char) : Bool := c == ':' || c == '='

/-- The first secret behind an end of a key, with the number of characters before it. No secret starts at
a blank, so all blanks are passed at once. -/
def secretBehind? (p : Place) : Option (Nat × Bool × Nat) :=
  (optionalAt p (· == '"')).findSome? fun quote =>
    let p1 := p.advance quote
    let p2 := p1.advance p1.blanks
    (optionalAt p2 isSign).findSome? fun sign =>
      let p3 := p2.advance sign
      (secretHere? (p3.advance p3.blanks)).map fun s =>
        (quote + p1.blanks + sign + p3.blanks, s.1, s.2)

/-- The secret of a key that starts a word at this place. -/
def secretOfKey? (key : List Char) (p : Place) : Option Secret :=
  if Text.isWordAt p.before then none
  else if (Text.after? key p.ahead).isSome then
    (secretBehind? (p.advance key.length)).map fun s => ⟨key.length + s.1, s.2.1, s.2.2⟩
  else none

/-- The secret of a key at this place, before which a quote may stand. -/
def secretAt? (key : List Char) (p : Place) : Option Secret :=
  match p.ahead with
  | '"' :: _ => (secretOfKey? key (p.advance 1)).map fun s => { s with key := s.key + 1 }
  | _ => secretOfKey? key p

/-- The quotes around a secret, if it has them. -/
def Secret.quotes (s : Secret) : List Char := if s.quoted then ['"'] else []

/-- How many characters the key and the secret take together. -/
def Secret.extent (s : Secret) : Nat := s.key + 2 * s.quotes.length + s.length

/-- The key and the secret, with the secret masked. -/
def Secret.masked (s : Secret) (text : List Char) : List Char :=
  let secret := (text.drop (s.key + s.quotes.length)).take s.length
  text.take s.key ++ s.quotes ++ List.replicate (Text.Utf8.size secret) '*' ++ s.quotes

/-- The text behind the character `before` with all secrets of one key masked. -/
def maskKeyAfter (key : List Char) (before : Option Char) : List Char → List Char
  | [] => []
  | c :: rest =>
    match secretAt? key ⟨before, c :: rest⟩ with
    | none => c :: maskKeyAfter key (some c) rest
    | some s =>
      s.masked (c :: rest) ++
        maskKeyAfter key ((c :: rest).take s.extent).getLast? (rest.drop (s.extent - 1))
  termination_by text => text.length
  decreasing_by all_goals simp only [List.length_cons, List.length_drop]; omega

/-- The text with all secrets of one key masked. -/
def maskKey (text : List Char) (key : String) : List Char := maskKeyAfter key.toList none text

/-- The text with all secrets masked, one key after the other. -/
def mask (text : List Char) : List Char := secretKeys.foldl maskKey text

end ScanConsole.Log
