import ScanConsole.Json.Decoder
import ScanConsole.Json.Printer
import ScanConsole.Plugin.Json
import ScanConsole.Text.Quoted

/-!
# Messages to and from the backend

The bodies that the console sends, and the short replies to them.
-/

namespace ScanConsole

open Json (Decoder Value)

/-- A machine to enroll, with the credentials for it. -/
structure Enrollment where
  address : String
  username : String
  password : String
  deriving DecidableEq, Repr

namespace Enrollment

def toJson (e : Enrollment) : Value :=
  .object [("ipAddress", .string e.address), ("username", .string e.username),
    ("password", .string e.password)]

/-- The enrollment for diagnostics, which never show the password. -/
def described (e : Enrollment) : String :=
  "Enrollment \x7b ip_address: " ++ Text.quoted e.address ++ ", username: " ++
    Text.quoted e.username ++ ", password: \"***\" \x7d"

end Enrollment

/-- A reply that may carry a message. -/
structure MessageReply where
  message : Option String
  deriving DecidableEq, Repr

namespace MessageReply

def decoder : Decoder MessageReply := fun room d =>
  match Decoder.fields [["message"]] room d with
  | some (room, [message]) => (Decoder.optional Decoder.string room message).map mk
  | _ => none

def toJson (r : MessageReply) : Value := .object [("message", Value.ofOption .string r.message)]

end MessageReply

/-- The reply to the creation of a plugin. -/
structure CreatedReply where
  id : Option PluginId
  message : Option String
  deriving DecidableEq, Repr

def CreatedReply.decoder : Decoder CreatedReply := fun room d =>
  match Decoder.fields [["id"], ["message"]] room d with
  | some (room, [id, message]) => do
    some ⟨← Decoder.optional PluginId.decoder room id,
      ← Decoder.optional Decoder.string room message⟩
  | _ => none

/-- A request to run a plugin on a resource. -/
structure ExecutionRequest where
  scriptName : String
  address : String
  deriving DecidableEq, Repr

def ExecutionRequest.toJson (r : ExecutionRequest) : Value :=
  .object [("script_name", .string r.scriptName), ("resource_ip", .string r.address)]

/-- The request to delete a resource, as it is sent. -/
def deletionJson (address : String) : Value := .object [("ip_address", .string address)]

end ScanConsole
