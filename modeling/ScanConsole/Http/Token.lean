/-!
# Tokens of HTTP

Methods and header names are tokens: ASCII letters, digits and a few marks, at
least one of them.
-/

namespace ScanConsole.Http

def isTokenChar (c : Char) : Bool :=
  c.isAlphanum || "!#$%&'*+-.^_\x60|~".toList.contains c

def isToken (s : String) : Bool := !s.isEmpty && s.toList.all isTokenChar

/-- A request with this method changes something at the backend. -/
def isMutating (method : String) : Bool := ["POST", "PUT", "DELETE"].contains method

end ScanConsole.Http
