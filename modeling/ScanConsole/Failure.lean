import ScanConsole.Json.Reader

/-!
# Failures

Why an operation of the console failed. Only a rejection may carry words of the
backend, which are what the operator reads if there are any; else the operation
has words of its own.
-/

namespace ScanConsole

/-- Why an operation failed. -/
inductive Failure where
  /-- There was no complete answer. -/
  | http
  /-- The backend answered with a status that is no success. -/
  | rejected (status : Nat) (message : Option String)
  /-- The answer was not what it should be. -/
  | decode
  | config (reason : String)
  | stream (reason : String)
  | runtime (reason : String)
  deriving DecidableEq, Repr

/-- The words of the backend in the body of a rejection: the text under `message`, or else the text
under `error`. -/
def messageInBody? (body : String) : Option String := do
  let v ← Json.Value.read? body
  ["message", "error"].findSome? fun name => (v.field? name).bind Json.Value.text?

namespace Failure

def ofAnswer (status : Nat) (body : String) : Failure := .rejected status (messageInBody? body)

def message : Failure → String
  | .http => "request failed"
  | .rejected status none => "backend rejected the request (HTTP " ++ toString status ++ ")"
  | .rejected status (some m) =>
    "backend rejected the request (HTTP " ++ toString status ++ "): " ++ m
  | .decode => "failed to decode backend payload"
  | .config reason => "invalid configuration: " ++ reason
  | .stream reason => "execution stream failed: " ++ reason
  | .runtime reason => "runtime unavailable: " ++ reason

def serverMessage? : Failure → Option String
  | .rejected _ m => m
  | _ => none

/-- What the operator reads: the words of the backend unless they are absent or empty. -/
def userMessage (f : Failure) (fallback : String) : String :=
  match f.serverMessage? with
  | some m => if m == "" then fallback else m
  | none => fallback

end Failure

end ScanConsole
