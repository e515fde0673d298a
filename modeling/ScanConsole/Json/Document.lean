import ScanConsole.Json.Number

/-!
# JSON documents and values

A `Document` is a JSON text as it is written: fields in their order, repeated
names included, and with the parts that have no value marked, which are numbers
too large for a double and strings with an unpaired surrogate. A reader that
skips a part never asks for its value, so such a part does no harm there. A
`Value` is what a document means: names are unique and in order, the last of
equal names wins. `Document.value?` gives the meaning of a document in which
every part has one and which is nested no deeper than allowed.
-/

namespace ScanConsole.Json

/-- A JSON text as it is written. -/
inductive Document where
  | null
  | boolean (b : Bool)
  /-- A number; none if it is out of range. -/
  | number (n : Option Number)
  /-- A string; none if it has an unpaired surrogate. -/
  | string (s : Option String)
  | array (items : List Document)
  | object (fields : List (Option String × Document))
  deriving Repr

/-- The meaning of a JSON text. -/
inductive Value where
  | null
  | boolean (b : Bool)
  | number (n : Number)
  | string (s : String)
  | array (items : List Value)
  | object (fields : List (String × Value))
  deriving Repr

/-- How many arrays and objects may stand inside each other. -/
def nestingLimit : Nat := 127

/-- A field put in its place by name; a field of the same name is replaced. -/
def Value.putField (name : String) (value : Value) : List (String × Value) → List (String × Value)
  | [] => [(name, value)]
  | f :: rest =>
    if name < f.1 then (name, value) :: f :: rest
    else if name == f.1 then (name, value) :: rest
    else f :: putField name value rest

mutual

/-- The meaning of a document with room for `room` levels of nesting. -/
def Document.value? (room : Nat) : Document → Option Value
  | .null => some .null
  | .boolean b => some (.boolean b)
  | .number n => n.map .number
  | .string s => s.map .string
  | .array items =>
    match room with
    | 0 => none
    | room + 1 => (itemValues? room items).map .array
  | .object fields =>
    match room with
    | 0 => none
    | room + 1 => (fieldValues? room [] fields).map .object

def Document.itemValues? (room : Nat) : List Document → Option (List Value)
  | [] => some []
  | d :: rest =>
    match d.value? room, itemValues? room rest with
    | some v, some vs => some (v :: vs)
    | _, _ => none

/-- The fields put in order one by one. -/
def Document.fieldValues? (room : Nat) (acc : List (String × Value)) :
    List (Option String × Document) → Option (List (String × Value))
  | [] => some acc
  | (name, d) :: rest =>
    match name, d.value? room with
    | some name, some v => fieldValues? room (Value.putField name v acc) rest
    | _, _ => none

end

/-- `null` for what is absent. -/
def Value.ofOption {α : Type} (write : α → Value) : Option α → Value
  | none => .null
  | some a => write a

def Value.ofNat (n : Nat) : Value := .number (.whole n)

def Value.ofStrings (texts : List String) : Value := .array (texts.map .string)

def Value.field? (name : String) : Value → Option Value
  | .object fields => (fields.find? fun f => f.1 == name).map (·.2)
  | _ => none

def Value.text? : Value → Option String
  | .string s => some s
  | _ => none

end ScanConsole.Json
