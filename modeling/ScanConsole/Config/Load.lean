import ScanConsole.Config.Basic

/-!
# Loading the configuration

The configuration comes from a file, if there is one, with single settings of
the environment put over it. Settings and files that are not well-formed text
count as absent.
-/

namespace ScanConsole

/-- Where a configuration is loaded from. -/
structure Surroundings where
  /-- The settings by name. -/
  settings : List (String × List UInt8)
  /-- The files by name. -/
  files : List (String × List UInt8)
  deriving Repr

namespace Surroundings

/-- The well-formed text under a name. -/
def textOf? (entries : List (String × List UInt8)) (name : String) : Option String :=
  match entries.find? fun e => e.1 == name with
  | some (_, bytes) => (Text.Utf8.decode? bytes).map String.ofList
  | none => none

/-- A setting. -/
def setting? (s : Surroundings) (name : String) : Option String := textOf? s.settings name

/-- The name of a file without the points and slashes at its head that lead back to where it is. -/
def plainName : List Char → List Char
  | '.' :: '/' :: rest => plainName (rest.dropWhile (· == '/'))
  | name => name
  termination_by name => name.length
  decreasing_by
    have := (List.dropWhile_sublist (l := rest) (· == '/')).length_le
    simp only [List.length_cons]
    omega

def file? (s : Surroundings) (name : String) : Option String :=
  textOf? s.files (String.ofList (plainName name.toList))

end Surroundings

namespace Config

/-- The file that is read unless another is named. -/
def usualFile : String := "allsafe-console.json"

def fileName (s : Surroundings) : String := (s.setting? "ALLSAFE_CONSOLE_CONFIG").getD usualFile

/-- The configuration of the file, or the usual one without a file. -/
def ofFile (s : Surroundings) : Except ConfigError Config :=
  match s.file? (fileName s) with
  | none => .ok {}
  | some text =>
    match Json.decode? decoder text with
    | some c => .ok c
    | none => .error (.file (fileName s))

/-- A whole number of 64 bits: digits, before which a plus may stand. -/
def word? (text : String) : Option Nat :=
  let ds :=
    match text.toList with
    | '+' :: ds => ds
    | ds => ds
  if ds.isEmpty || !ds.all Char.isDigit then none
  else
    let n := Json.Literal.natural ds
    if n < Json.Literal.wordLimit then some n else none

/-- A setting put over the configuration, if it is there. -/
def override {α : Type} (s : Surroundings) (name : String) (read? : String → Option α)
    (set : α → Config → Config) (c : Config) : Except ConfigError Config :=
  match s.setting? name with
  | none => .ok c
  | some text =>
    match read? text with
    | some a => .ok (set a c)
    | none => .error (.setting name text)

/-- The configuration of a file and the settings, checked. -/
def load (s : Surroundings) : Except ConfigError Config := do
  let c ← ofFile s
  let c ← override s "ALLSAFE_BASE_URL" some (fun u c => { c with baseUrl := u }) c
  let c ← override s "ALLSAFE_TRANSPORT" TransportKind.parse? (fun t c => { c with transport := t }) c
  let c ← override s "ALLSAFE_REQUEST_TIMEOUT_SECS" word? (fun n c => { c with requestTimeout := n }) c
  let c ← override s "ALLSAFE_REFRESH_CHECK_SECS" word? (fun n c => { c with refreshCheck := n }) c
  c.validate
  pure c

end Config

end ScanConsole
