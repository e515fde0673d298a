import ScanConsole.Http.Message

/-!
# The network

A network answers requests one after the other. It may be out of reach; and any
answer may fail to come, as all answers do behind the last that is there.

This is the network as the console sees it through its HTTP client. A request is
what the console hands to the client, and a reply what the client hands back,
which is the last one where the backend redirects. The requests by which the
client follows a redirect on its own are not among those here.
-/

namespace ScanConsole.Http

/-- A network with its answers still to come. -/
structure Network where
  /-- Requests arrive at all. -/
  reachable : Bool := true
  /-- The answers that the client hands back, behind any redirects; some fail to come. -/
  replies : List (Option Reply) := []
  /-- The requests that the console has handed to its client and that have arrived, in their order. -/
  sent : List Request := []
  deriving DecidableEq, Repr

namespace Network

def unreachable : Network := { reachable := false }

def exchange (r : Request) (n : Network) : Except Failure Reply × Network :=
  if !n.reachable then (.error .http, n)
  else
    let n := { n with sent := n.sent ++ [r] }
    match n.replies with
    | [] => (.error .http, n)
    | none :: rest => (.error .http, { n with replies := rest })
    | some reply :: rest => (.ok reply, { n with replies := rest })

end Network

end ScanConsole.Http
