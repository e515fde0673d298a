import ScanConsole.Json.Decoder
import ScanConsole.Json.Printer
import ScanConsole.Plugin.Basic

/-!
# Plugins in JSON

An identifier may be written as a string or as a whole number; a number stands
for its decimal text. A plugin without an identifier is known by its name.
-/

namespace ScanConsole

open Json (Decoder Value)

/-- A string, or a whole number of 64 bits with sign. -/
def PluginId.decoder : Decoder PluginId
  | _, .string s => s.map PluginId.mk
  | _, .number (some (.whole n)) => if n < Nat.pow 2 63 then some ⟨toString n⟩ else none
  | _, .number (some (.minus n)) => some ⟨"-" ++ toString n⟩
  | _, _ => none

def PluginId.toJson (id : PluginId) : Value := .string id.text

namespace Plugin

def toJson (p : Plugin) : Value :=
  .object [("id", p.id.toJson), ("name", .string p.name), ("roleConfig", .string p.body),
    ("snippet", Value.ofOption .string p.snippet)]

/-- A plugin, of which only the name has to be there. -/
def decoder : Decoder Plugin := fun room d =>
  match Decoder.fields [["id"], ["name"], ["roleConfig"], ["snippet"]] room d with
  | some (room, [id, name, body, snippet]) => do
    let id ← Decoder.optional PluginId.decoder room id
    let name ← Decoder.required Decoder.string room name
    let body ← Decoder.optional Decoder.string room body
    let snippet ← Decoder.optional Decoder.string room snippet
    some ⟨id.getD ⟨name⟩, name, body.getD "", snippet⟩
  | _ => none

def Draft.toJson (d : Draft) : Value :=
  .object [("name", .string d.name), ("roleConfig", .string d.body)]

end Plugin

end ScanConsole
