import ScanConsole.Json.Decoder
import ScanConsole.Json.Printer
import ScanConsole.Resource.Basic

/-!
# Resources in JSON

What the backend lists (`Resource.Entry.decoder`), and resources themselves,
written and read.
-/

namespace ScanConsole

open Json (Decoder Value)

def Resource.portDecoder : Decoder Nat := Decoder.wholeUpTo 65535

/-- An entry of the backend's list: only the address has to be there. -/
def Resource.Entry.decoder : Decoder Resource.Entry := fun room d =>
  match Decoder.fields [["ip_address"], ["hostname"], ["port"], ["status"]] room d with
  | some (room, [address, hostname, port, status]) => do
    some ⟨← Decoder.required Decoder.string room address,
      ← Decoder.optional Decoder.string room hostname,
      ← Decoder.optional portDecoder room port,
      ← Decoder.optional Decoder.string room status⟩
  | _ => none

/-- A score under the name of its kind. -/
def Compliance.toJson : Compliance → Value
  | .synthetic p => .object [("Synthetic", .ofNat p)]

def Compliance.decoder : Decoder Compliance :=
  Decoder.tagged fun name =>
    if name == "Synthetic" then
      some fun room d => (Decoder.wholeUpTo 255 room d).map Compliance.synthetic
    else none

namespace Resource

def toJson (r : Resource) : Value :=
  .object [("ip_address", .string r.address), ("hostname", .string r.hostname),
    ("port", Value.ofOption .ofNat r.port),
    ("status", Value.ofOption .string r.status), ("compliance", r.compliance.toJson)]

/-- A resource; its port and status may be absent. -/
def decoder : Decoder Resource := fun room d =>
  match Decoder.fields [["ip_address"], ["hostname"], ["port"], ["status"], ["compliance"]] room d with
  | some (room, [address, hostname, port, status, compliance]) => do
    some ⟨← Decoder.required Decoder.string room address,
      ← Decoder.required Decoder.string room hostname,
      ← Decoder.optional portDecoder room port,
      ← Decoder.optional Decoder.string room status,
      ← Decoder.required Compliance.decoder room compliance⟩
  | _ => none

end Resource

end ScanConsole
