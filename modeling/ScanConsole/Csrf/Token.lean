import ScanConsole.Text.Blank
import ScanConsole.Text.Search

/-!
# The anti-forgery token

The backend expects a token on every request that changes something. The token
stands on the page that the backend serves, in a `meta` tag, or in a cookie. A
text of blanks is no token.
-/

namespace ScanConsole

structure CsrfToken where
  text : String
  deriving DecidableEq, Repr

namespace CsrfToken

/-- A text as a token, unless it shows nothing. -/
def ofText? (text : String) : Option CsrfToken :=
  if Text.isBlankText text then none else some ⟨text⟩

/-! ## On a page -/

def isQuote (c : Char) : Bool := c == '"' || c == '\x27'

/-- What follows `name = "` at the head of a text, with any blanks around the sign of equality, any
letter case of the name, and either quote. -/
def afterAttribute? (name : List Char) (s : List Char) : Option (List Char) :=
  match (Text.afterFolded? name s).map Text.trimStart with
  | some ('=' :: rest) =>
    match Text.trimStart rest with
    | q :: value => if isQuote q then some value else none
    | [] => none
  | _ => none

/-- The text has an attribute at its head that gives the tag its name as the token's. -/
def isTokenName (s : List Char) : Bool :=
  match afterAttribute? "name".toList s with
  | some value =>
    match Text.afterFolded? "csrf-token".toList value with
    | some (q :: _) => isQuote q
    | _ => false
  | none => false

/-- Some part of the text that starts behind its head satisfies `p`. -/
def anyBehind (p : List Char → Bool) : List Char → Bool
  | [] => false
  | _ :: rest => p rest || anyBehind p rest

/-- The tag at the head of a text up to its closing bracket, if it is the `meta` tag of the token. -/
def metaTag? (s : List Char) : Option (List Char) :=
  match Text.afterFolded? "<meta".toList s with
  | none => none
  | some rest =>
    match Text.splitOnce? '>' rest with
    | none => none
    | some (body, _) =>
      match body with
      | c :: _ => if Text.isBlank c && anyBehind isTokenName body then some body else none
      | [] => none

/-- The value of a `content` attribute at the head of a text, up to the next quote. -/
def contentValue? (s : List Char) : Option (List Char) :=
  (afterAttribute? "content".toList s).bind fun value =>
    if value.any isQuote then some (value.takeWhile fun c => !isQuote c) else none

/-- The first answer that `f` gives on the text or on what is left of it behind some character. -/
def firstAt? {α : Type} (f : List Char → Option α) : List Char → Option α
  | [] => f []
  | c :: rest =>
    match f (c :: rest) with
    | some a => some a
    | none => firstAt? f rest

/-- The token on a page: the content of the first `meta` tag of the token. -/
def ofPage? (page : String) : Option CsrfToken := do
  let tag ← firstAt? metaTag? page.toList
  let value ← firstAt? contentValue? tag
  ofText? (String.ofList value)

/-! ## In a cookie -/

/-- The name and the value of a cookie, without the blanks around them. -/
def cookie? (segment : List Char) : Option (String × String) :=
  (Text.splitOnce? '=' (Text.trim segment)).map fun r =>
    (String.ofList (Text.trim r.1), String.ofList (Text.trim r.2))

/-- The token in the first cookie of this name. -/
def ofCookies? (header name : String) : Option CsrfToken := do
  let cookies := (Text.splitAtEach (· == ';') header.toList).filterMap cookie?
  let found ← cookies.find? fun c => c.1 == name
  ofText? found.2

/-- The token of a page, or else that of the cookies. -/
def resolve? (page cookies : Option String) (name : String) : Option CsrfToken :=
  match page.bind ofPage? with
  | some t => some t
  | none => cookies.bind fun header => ofCookies? header name

end CsrfToken

end ScanConsole
