import ScanConsole.Json.Decoder
import ScanConsole.Json.Printer
import ScanConsole.Url.Parse

/-!
# Configuration

How the console reaches its backend. A configuration that is to be used has a
base address, checks for due refreshes at all, and an execution path that starts
at the root.
-/

namespace ScanConsole

open Json (Decoder Value)

/-- How executions reach the backend. -/
inductive TransportKind where
  /-- An event for each line, as it comes. -/
  | streaming
  /-- One reply with everything. -/
  | synchronous
  deriving DecidableEq, Repr

namespace TransportKind

def name : TransportKind → String
  | .streaming => "streaming"
  | .synchronous => "synchronous"

def all : List TransportKind := [.streaming, .synchronous]

/-- The kind with exactly this name. -/
def ofName? (name : String) : Option TransportKind := all.find? fun k => k.name == name

/-- The kind with this name in any case of its ASCII letters. -/
def parse? (text : String) : Option TransportKind :=
  ofName? (String.ofList (text.toList.map Char.toLower))

def toJson (k : TransportKind) : Value := .string k.name

def decoder : Decoder TransportKind := Decoder.choice ofName?

end TransportKind

/-- How the console reaches its backend. -/
structure Config where
  baseUrl : String := "http://127.0.0.1:8000"
  transport : TransportKind := .streaming
  executionPath : String := "/api/plugin_result/"
  /-- How many seconds a request may take. -/
  requestTimeout : Nat := 120
  /-- How many seconds pass between two checks for due refreshes. -/
  refreshCheck : Nat := 10
  csrfCookieName : String := "csrftoken"
  csrfHeader : String := "X-CSRFToken"
  deriving DecidableEq, Repr

/-- What is wrong with a configuration. -/
inductive ConfigError where
  | baseUrl (text : String)
  | endpointPath (path : String)
  | refreshCheck
  | executionPath (path : String)
  | file (name : String)
  | setting (name value : String)
  deriving DecidableEq, Repr

def ConfigError.message : ConfigError → String
  | .baseUrl text => "invalid base URL: " ++ text
  | .endpointPath path => "invalid endpoint path: " ++ path
  | .refreshCheck => "refresh check period must be at least one second"
  | .executionPath path => "execution path must be absolute: " ++ path
  | .file name => "failed to parse " ++ name
  | .setting name value => "invalid " ++ name ++ ": " ++ value

namespace Config

def toJson (c : Config) : Value :=
  .object [("base_url", .string c.baseUrl), ("transport", c.transport.toJson),
    ("execution_path", .string c.executionPath), ("request_timeout_secs", .ofNat c.requestTimeout),
    ("refresh_check_secs", .ofNat c.refreshCheck), ("csrf_cookie_name", .string c.csrfCookieName),
    ("csrf_header", .string c.csrfHeader)]

/-- A configuration, in which what is absent has its usual value. -/
def decoder : Decoder Config := fun room d =>
  match Decoder.fields
      [["base_url"], ["transport"], ["execution_path"], ["request_timeout_secs"],
        ["refresh_check_secs"], ["csrf_cookie_name"], ["csrf_header"]] room d with
  | some (room, [baseUrl, transport, path, timeout, check, cookie, header]) => do
    let usual : Config := {}
    some ⟨← Decoder.defaulted usual.baseUrl Decoder.string room baseUrl,
      ← Decoder.defaulted usual.transport TransportKind.decoder room transport,
      ← Decoder.defaulted usual.executionPath Decoder.string room path,
      ← Decoder.defaulted usual.requestTimeout Decoder.word64 room timeout,
      ← Decoder.defaulted usual.refreshCheck Decoder.word64 room check,
      ← Decoder.defaulted usual.csrfCookieName Decoder.string room cookie,
      ← Decoder.defaulted usual.csrfHeader Decoder.string room header⟩
  | _ => none

def base (c : Config) : Except ConfigError Url :=
  match Url.parse? c.baseUrl with
  | some u => .ok u
  | none => .error (.baseUrl c.baseUrl)

/-- The address of a path at the backend. -/
def endpoint (c : Config) (path : String) : Except ConfigError Url :=
  match c.base with
  | .error e => .error e
  | .ok b =>
    match b.join? path with
    | some u => .ok u
    | none => .error (.endpointPath path)

/-- The configuration can be used. -/
def validate (c : Config) : Except ConfigError Unit :=
  match c.base with
  | .error e => .error e
  | .ok _ =>
    if c.refreshCheck == 0 then .error .refreshCheck
    else if c.executionPath.toList.head? == some '/' then .ok ()
    else .error (.executionPath c.executionPath)

end Config

end ScanConsole
