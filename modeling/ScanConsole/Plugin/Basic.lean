/-!
# Plugins

A plugin is a script that is run on a resource. It is known by an identifier,
which is any text.
-/

namespace ScanConsole

/-- What names a plugin. -/
structure PluginId where
  text : String
  deriving DecidableEq, Repr

/-- A plugin as the backend lists it. -/
structure Plugin where
  id : PluginId
  name : String
  /-- The script. -/
  body : String
  /-- What the backend shows of the script. -/
  snippet : Option String
  deriving DecidableEq, Repr

namespace Plugin

/-- What a plugin is created from or changed to. -/
structure Draft where
  name : String
  body : String
  deriving DecidableEq, Repr

/-- How many characters of the script stand in for an absent snippet. -/
def previewLength : Nat := 100

/-- The snippet, or the beginning of the script where the snippet is absent or empty. -/
def preview (p : Plugin) : String :=
  match p.snippet with
  | some s => if s == "" then String.ofList (p.body.toList.take previewLength) else s
  | none => String.ofList (p.body.toList.take previewLength)

end Plugin

end ScanConsole
