import ScanConsole.Backend.Messages
import ScanConsole.Config.Basic
import ScanConsole.Csrf.Token
import ScanConsole.Http.Network
import ScanConsole.Resource.Json

/-!
# The client of the backend

The client sends the requests of the console to the backend and reads the
replies. A request that changes something carries the anti-forgery token, if
there is one. A reply whose status is no success is a rejection with the words
of its body.
-/

namespace ScanConsole

open Json (Decoder Value)

/-- A client: where it sends to, the token it holds, and the network. -/
structure Client where
  config : Config
  token : Option CsrfToken := none
  network : Http.Network := {}
  deriving DecidableEq, Repr

namespace Client

/-- The header that carries the token, on requests that change something. -/
def tokenHeaders (c : Client) (method : String) : List (String × String) :=
  match c.token with
  | some t => if Http.isMutating method then [(c.config.csrfHeader, t.text)] else []
  | none => []

/-- The headers of a body, behind those given before; one of them may be its type already. -/
def bodyHeaders (given : List (String × String)) : Option Value → List (String × String)
  | some _ =>
    if given.any fun h => h.1.toList.map Char.toLower == "content-type".toList then []
    else [("content-type", "application/json")]
  | none => []

/-- A request to a path of the backend. -/
def request (c : Client) (method path : String) (headers : List (String × String))
    (body : Option Value) : Except Failure Http.Request :=
  match c.config.endpoint path with
  | .error e => .error (.config e.message)
  | .ok url =>
    let given := c.tokenHeaders method ++ headers
    .ok { method := method, url := url, headers := given ++ bodyHeaders given body,
          body := body.map Value.compact }

/-- A request sent, and the reply to it. -/
def send (method path : String) (headers : List (String × String)) (body : Option Value)
    (c : Client) : Except Failure Http.Reply × Client :=
  match c.request method path headers body with
  | .error f => (.error f, c)
  | .ok r =>
    if r.isSendable then
      let (reply, network) := c.network.exchange r
      (reply, { c with network := network })
    else (.error .http, c)

/-- A reply whose status is a success; any other is a rejection. -/
def accepted (reply : Except Failure Http.Reply) : Except Failure Http.Reply :=
  match reply with
  | .error f => .error f
  | .ok r =>
    if r.isSuccess then .ok r
    else
      match r.text with
      | .ok body => .error (.ofAnswer r.status body)
      | .error _ => .error (.ofAnswer r.status "")

def readAs {α : Type} (decode : Decoder α) (reply : Except Failure Http.Reply) : Except Failure α :=
  match reply with
  | .error f => .error f
  | .ok r =>
    match r.text with
    | .error f => .error f
    | .ok body =>
      match Json.decode? decode body with
      | some a => .ok a
      | none => .error .decode

def call {α : Type} (decode : Decoder α) (method path : String) (body : Option Value) (c : Client) :
    Except Failure α × Client :=
  let (reply, c) := c.send method path [] body
  (readAs decode (accepted reply), c)

/-! ## The interface of the backend -/

def listResources (c : Client) : Except Failure (List Resource.Entry) × Client :=
  c.call (Decoder.list Resource.Entry.decoder) "GET" "/api/resources/list/" none

def saveResource (e : Enrollment) (c : Client) : Except Failure MessageReply × Client :=
  c.call MessageReply.decoder "POST" "/api/resources/" (some e.toJson)

def deleteResource (address : String) (c : Client) : Except Failure MessageReply × Client :=
  c.call MessageReply.decoder "POST" "/api/resources/delete/" (some (deletionJson address))

def listPlugins (c : Client) : Except Failure (List Plugin) × Client :=
  c.call (Decoder.list Plugin.decoder) "GET" "/api/plugins/" none

def createPlugin (d : Plugin.Draft) (c : Client) : Except Failure CreatedReply × Client :=
  c.call CreatedReply.decoder "POST" "/api/plugins/" (some d.toJson)

def pluginPath (id : PluginId) : String := "/api/plugins/" ++ id.text

def updatePlugin (id : PluginId) (d : Plugin.Draft) (c : Client) :
    Except Failure MessageReply × Client :=
  c.call MessageReply.decoder "PUT" (pluginPath id) (some d.toJson)

/-- A plugin deleted; what the reply says beyond its status does not matter. -/
def deletePlugin (id : PluginId) (c : Client) : Except Failure Unit × Client :=
  let (reply, c) := c.send "DELETE" (pluginPath id) [] none
  ((accepted reply).map fun _ => (), c)

/-- The token in a page: in its text, or else in the first cookie that has it. -/
def tokenOf? (config : Config) (page : String) (cookies : List String) : Option CsrfToken :=
  match CsrfToken.ofPage? page with
  | some t => some t
  | none => cookies.findSome? fun c => CsrfToken.ofCookies? c config.csrfCookieName

/-- A page loaded for its token, which replaces the one held. -/
def loadToken (path : String) (c : Client) : Except Failure (Option CsrfToken) × Client :=
  let (reply, c) := c.send "GET" path [] none
  match reply with
  | .error f => (.error f, c)
  | .ok r =>
    match r.text with
    | .error f => (.error f, c)
    | .ok page =>
      let token := tokenOf? c.config page (r.values "set-cookie")
      (.ok token, { c with token := token })

end Client

end ScanConsole
