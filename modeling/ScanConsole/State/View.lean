import ScanConsole.Json.Decoder
import ScanConsole.Json.Printer

/-!
# Views

What the console shows: the directory of resources, the results of scans, or one
of the management pages. A form for users is kept beside them. Page names are
read in any letter case, role names only as they are written.
-/

namespace ScanConsole

open Json (Decoder Value)

/-- A page of the management view. -/
inductive Page where
  | users
  | resources
  | plugins
  deriving DecidableEq, Repr, Inhabited

namespace Page

def name : Page → String
  | .users => "users"
  | .resources => "resources"
  | .plugins => "plugins"

def all : List Page := [.users, .resources, .plugins]

def ofName? (name : String) : Option Page := all.find? fun p => p.name == name

/-- The page with this name in any case of its ASCII letters. -/
def parse? (text : String) : Option Page :=
  ofName? (String.ofList (text.toList.map Char.toLower))

def toJson (p : Page) : Value := .string p.name

def decoder : Decoder Page := Decoder.choice ofName?

end Page

/-- What the console shows. -/
inductive View where
  | directory
  | scanResults
  | management (page : Page)
  deriving DecidableEq, Repr, Inhabited

namespace View

/-- A view is written as its name; the management view holds its page. -/
def toJson : View → Value
  | .directory => .string "Directory"
  | .scanResults => .string "ScanResults"
  | .management page => .object [("Management", page.toJson)]

def plain? (name : String) : Option View :=
  if name == "Directory" then some .directory
  else if name == "ScanResults" then some .scanResults
  else none

def decoder : Decoder View := fun room d =>
  match Decoder.choice plain? room d with
  | some v => some v
  | none =>
    Decoder.tagged (fun name =>
      if name == "Management" then some fun room d => (Page.decoder room d).map View.management
      else none) room d

end View

/-- What a user may do. -/
inductive Role where
  | admin
  | operator
  | viewer
  deriving DecidableEq, Repr, Inhabited

namespace Role

def name : Role → String
  | .admin => "Admin"
  | .operator => "Operator"
  | .viewer => "Viewer"

def all : List Role := [.admin, .operator, .viewer]

def parse? (name : String) : Option Role := all.find? fun r => r.name == name

def toJson (r : Role) : Value := .string r.name

def decoder : Decoder Role := Decoder.choice parse?

end Role

/-- The form for a new user. Nothing is sent: a submitted form is only reported. -/
structure UserDraft where
  isOpen : Bool := false
  username : String := ""
  role : Role := .admin
  deriving DecidableEq, Repr

namespace UserDraft

def opened : UserDraft := { isOpen := true }

/-- The form off screen, with its contents. -/
def closed (d : UserDraft) : UserDraft := { d with isOpen := false }

end UserDraft

end ScanConsole
