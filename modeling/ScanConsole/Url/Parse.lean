import ScanConsole.Text.Search
import ScanConsole.Url.Basic
import ScanConsole.Url.Domain
import ScanConsole.Url.Path

/-!
# Reading addresses

`Url.parse?` reads an absolute address, `Url.join?` one that may be relative to
another. Blanks and controls around an address and line ends and tabs inside it
are ignored. In special schemes a backslash is a slash, a host is needed, and a
path always starts with a slash.
-/

namespace ScanConsole.Url

/-! ## Parts of an address -/

/-- The text without blanks and controls around it and without tabs and line ends. -/
def clean (s : List Char) : List Char :=
  let isEdge (c : Char) : Bool := c.toNat ≤ 0x20
  let inner := ((s.dropWhile isEdge).reverse.dropWhile isEdge).reverse
  inner.filter fun c => c != '\t' && c != '\n' && c != '\r'

/-- The scheme in small letters, and what follows its colon. -/
def scheme? (s : List Char) : Option (List Char × List Char) :=
  match Text.splitOnce? ':' s with
  | none => none
  | some (name, rest) =>
    let isPart (c : Char) : Bool := c.isAlphanum || c == '+' || c == '-' || c == '.'
    match name with
    | c :: _ => if c.isAlpha && name.all isPart then some (name.map Char.toLower, rest) else none
    | [] => none

def queryAndFragment (special : Bool) (s : List Char) : Option (List Char) × Option (List Char) :=
  let fragment (t : List Char) : Option (List Char) :=
    match t with
    | '#' :: f => some (percentEncode inFragmentSet f)
    | _ => none
  match s with
  | '?' :: rest =>
    let q := rest.takeWhile (· != '#')
    (some (percentEncode (if special then inSpecialQuerySet else inQuerySet) q),
      fragment (rest.dropWhile (· != '#')))
  | s => (none, fragment s)

/-! ## Paths -/

/-- An address with the path that a text adds to the open path `path`, and with the query and fragment
behind it. -/
def withPath (scheme : List Char) (authority : Option Authority) (path : List (List Char))
    (s : List Char) : Url :=
  let special := isSpecial scheme
  let file := scheme == "file".toList
  let segments := addSegments file path (pieces special s)
  let (query, fragment) := queryAndFragment special (s.drop (pathText s).length)
  ⟨scheme, authority, .segments (if file then dropEmptyHead segments else segments), query, fragment⟩

/-- An address with the path that starts a text. -/
def withPathStart (scheme : List Char) (authority : Option Authority) (s : List Char) : Url :=
  let special := isSpecial scheme
  match s with
  | c :: rest =>
    if isSlash special c then withPath scheme authority root rest
    else if !special && (c == '?' || c == '#') then
      let (query, fragment) := queryAndFragment special s
      ⟨scheme, authority, .segments [], query, fragment⟩
    else withPath scheme authority root s
  | [] =>
    if special then withPath scheme authority root []
    else ⟨scheme, authority, .segments [], none, none⟩

/-! ## Hosts -/

/-- An address of version 6 behind its opening bracket. -/
def bracketed? (s : List Char) : Option Host :=
  match s.reverse with
  | ']' :: r => (address6? r.reverse).map Host.address6
  | _ => none

/-- A host of a scheme that is not special: any text without some characters. -/
def plainHost? (s : List Char) : Option Host :=
  match s with
  | '[' :: rest => bracketed? rest
  | s =>
    if s.any fun c => c == '\x00' || " #/:<>?@[\\]^|".toList.contains c then none
    else some (.name (percentEncode isControl s))

/-- A host of a special scheme: a domain name or a numeric address. -/
def specialHost? (s : List Char) : Option Host :=
  match s with
  | '[' :: rest => bracketed? rest
  | s =>
    match (Text.Utf8.decode? (percentDecode s)).bind domain? with
    | none => none
    | some name => if endsInNumber name then (address4? name).map Host.address4 else some (.name name)

/-- The text of the host at the head of an authority: up to a colon outside brackets. -/
def hostText (special : Bool) (inside : Bool) : List Char → List Char
  | [] => []
  | c :: rest =>
    if (c == ':' && !inside) || endsAuthority special c then []
    else c :: hostText special (if c == '[' then true else if c == ']' then false else inside) rest

/-- The port at the head of a text, which a slash, a query or a fragment has to follow. -/
def port? (scheme s : List Char) : Option (Option Nat × List Char) :=
  let ds := s.takeWhile Char.isDigit
  let rest := s.dropWhile Char.isDigit
  let n := (numberOf? 10 ds).getD 0
  if 65535 < n then none
  else if rest.head?.all (endsAuthority true) then
    some (if ds.isEmpty || some n == defaultPort? scheme then none else some n, rest)
  else none

/-- The user name and password, encoded: a colon between them, the first one. -/
def credentials (s : List Char) : List Char × List Char :=
  match Text.splitOnce? ':' s with
  | none => (percentEncode inUserSet s, [])
  | some (u, p) => (percentEncode inUserSet u, percentEncode inUserSet p)

/-- The last split of a text at an `@`. -/
def splitUser? (s : List Char) : Option (List Char × List Char) :=
  (Text.splitOnce? '@' s.reverse).map fun r => (r.2.reverse, r.1.reverse)

/-- The authority at the head of a text, and what follows it. A host is needed in a special scheme, before
a port, and behind a user name or password; an `@` alone has to stand before a host or end the text. -/
def authority? (scheme s : List Char) : Option (Authority × List Char) :=
  let special := isSpecial scheme
  let user := splitUser? (s.takeWhile fun c => !endsAuthority special c)
  let (username, password) := credentials ((user.map (·.1)).getD [])
  let rest :=
    match user with
    | none => s
    | some (u, _) => s.drop (u.length + 1)
  let host := hostText special false rest
  let behind := rest.drop host.length
  let isUser := !username.isEmpty || !password.isEmpty
  let isLoneAt := user == some ([], []) && !behind.isEmpty
  if host.isEmpty && (special || isUser || isLoneAt || behind.head? == some ':') then none
  else
    match if special then specialHost? host else plainHost? host with
    | none => none
    | some h =>
      match behind with
      | ':' :: behind => (port? scheme behind).map fun r => (⟨username, password, h, r.1⟩, r.2)
      | behind => some (⟨username, password, h, none⟩, behind)

/-- An address behind the two slashes of its authority. -/
def afterSlashes? (scheme s : List Char) : Option Url :=
  (authority? scheme s).map fun r => withPathStart scheme (some r.1) r.2

/-! ## Whole addresses -/

/-- The authority of a file without a host. -/
def noHost : Authority := { host := .name [] }

/-- An address of a file behind two slashes. A drive there is no host, and one at the head of the path puts
the host aside. -/
def fileOnHost? (s : List Char) : Option Url :=
  let scheme := "file".toList
  let host := s.takeWhile fun c => !endsAuthority true c
  let behind := s.drop host.length
  if isDrive host then some (withPath scheme (some noHost) root s)
  else if host.isEmpty then some (withPath scheme (some noHost) root behind)
  else
    (specialHost? host).map fun h =>
      if h == .name "localhost".toList then withPath scheme (some noHost) root behind
      else
        let path :=
          match behind with
          | c :: rest => if isSlash true c then rest else behind
          | [] => []
        let isOnDrive := ((pieces true path).dropWhile isDots).head?.any isDrive
        withPath scheme (some (if isOnDrive then noHost else { host := h })) root path

/-- An address of a file from the root of its host on: `s` starts with a slash. A drive that the base is
on is kept, or else its host. -/
def fileAtRoot (base : Option Url) (s : List Char) : Url :=
  let scheme := "file".toList
  if startsWithDrive s.tail then withPath scheme (some noHost) root s.tail
  else
    match base with
    | none => withPath scheme (some noHost) root s.tail
    | some b =>
      match b.path with
      | .segments (d :: _) =>
        if isPlainDrive d then withPath scheme (some noHost) [d] s
        else withPath scheme b.authority root s.tail
      | _ => withPath scheme b.authority root s.tail

/-- An address of a file behind its scheme; a base gives what the text leaves out. -/
def file? (base : Option Url) (s : List Char) : Option Url :=
  let scheme := "file".toList
  match s with
  | a :: rest =>
    if isSlash true a then
      match rest with
      | b :: rest => if isSlash true b then fileOnHost? rest else some (fileAtRoot base s)
      | [] => some (fileAtRoot base s)
    else
      match base with
      | none => some (withPath scheme (some noHost) root s)
      | some b =>
        match a, b.path with
        | '?', _ =>
          let (query, fragment) := queryAndFragment true s
          some { b with query := query, fragment := fragment }
        | '#', _ => some { b with fragment := (queryAndFragment true s).2 }
        | _, .segments ss =>
          some <| if startsWithDrive s then withPath scheme (some noHost) root s
            else withPath scheme b.authority (directory true ss) s
        | _, .plain _ => none
  | [] =>
    match base with
    | none => some (withPath scheme (some noHost) root [])
    | some b => some { b with fragment := none }

/-- A reference relative to `base`, whose path is a list of segments. -/
def relative? (base : Url) (segments : List (List Char)) (s : List Char) : Option Url :=
  let special := isSpecial base.scheme
  match s with
  | [] => some { base with fragment := none }
  | '?' :: _ =>
    let (query, fragment) := queryAndFragment special s
    some { base with query := query, fragment := fragment }
  | '#' :: _ => some { base with fragment := (queryAndFragment special s).2 }
  | c :: rest =>
    if isSlash true c then
      match s with
      | '/' :: '/' :: behind => afterSlashes? base.scheme behind
      | _ =>
        if rest.head?.any (isSlash true) then
          afterSlashes? base.scheme (s.dropWhile (isSlash true))
        else some (withPath base.scheme base.authority root rest)
    else some (withPath base.scheme base.authority (directory false segments) s)

/-- An address behind its scheme; a base of the same scheme counts if the text is relative. -/
def afterScheme? (base : Option Url) (scheme s : List Char) : Option Url :=
  if scheme == "file".toList then file? (base.filter fun b => b.scheme == scheme) s
  else if isSpecial scheme then
    match base with
    | some b =>
      if (s.takeWhile (isSlash true)).length < 2 && b.scheme == scheme then
        match b.path with
        | .segments ss => relative? b ss s
        | .plain _ => none
      else afterSlashes? scheme (s.dropWhile (isSlash true))
    | none => afterSlashes? scheme (s.dropWhile (isSlash true))
  else
    match s with
    | '/' :: '/' :: rest => afterSlashes? scheme rest
    | '/' :: rest => some (withPath scheme none root rest)
    | s =>
      let plain := s.takeWhile fun c => c != '?' && c != '#'
      let (query, fragment) := queryAndFragment false (s.drop plain.length)
      some ⟨scheme, none, .plain (percentEncode isControl plain), query, fragment⟩

/-- A reference read, relative to a base if there is one. -/
def resolve? (base : Option Url) (text : String) : Option Url :=
  let s := clean text.toList
  match scheme? s with
  | some (scheme, rest) => afterScheme? base scheme rest
  | none =>
    match base with
    | none => none
    | some b =>
      match s, b.path with
      | '#' :: _, _ => some { b with fragment := (queryAndFragment (isSpecial b.scheme) s).2 }
      | _, .plain _ => none
      | _, .segments ss => if b.scheme == "file".toList then file? (some b) s else relative? b ss s

def parse? (text : String) : Option Url := resolve? none text

/-- An address that may be relative to this one. -/
def join? (base : Url) (text : String) : Option Url := resolve? (some base) text

end ScanConsole.Url
