import ScanConsole.Json.Reader

/-!
# Reading domain values out of documents

A `Decoder α` turns a document into an `α`, given how many more levels of
nesting are allowed. It looks only at the parts that it needs. A record may be
written as an object, whose unknown fields are skipped and whose known fields
may not repeat, or as an array of its fields in their order, of which the last
may be missing. An absent field is taken by `required`, `defaulted` or
`optional`, which differ in what absence and `null` mean.
-/

namespace ScanConsole.Json

/-- Reads a document with room for so many levels of nesting. -/
abbrev Decoder (α : Type) := (room : Nat) → Document → Option α

namespace Decoder

def string : Decoder String
  | _, .string s => s
  | _, _ => none

def boolean : Decoder Bool
  | _, .boolean b => some b
  | _, _ => none

/-- A whole number of at most `most`. -/
def wholeUpTo (most : Nat) : Decoder Nat
  | _, .number (some (.whole n)) => if n ≤ most then some n else none
  | _, _ => none

/-- A whole number of 64 bits. -/
def word64 : Decoder Nat := wholeUpTo (Literal.wordLimit - 1)

def value : Decoder Value := fun room d => d.value? room

/-- `null`, or what `decode` reads. -/
def nullable {α : Type} (decode : Decoder α) : Decoder (Option α)
  | _, .null => some none
  | room, d => (decode room d).map some

def list {α : Type} (decode : Decoder α) : Decoder (List α)
  | room + 1, .array items => items.mapM (decode room)
  | _, _ => none

/-! ## Records -/

/-- The place of the field among the known ones, each known by one or more names. -/
def place? (names : List (List String)) (name : String) : Option Nat :=
  names.findIdx? (·.contains name)

/-- The known fields of an object, by place. -/
def gather (names : List (List String)) (found : List (Option Document)) :
    List (Option String × Document) → Option (List (Option Document))
  | [] => some found
  | (none, _) :: _ => none
  | (some name, d) :: rest =>
    match place? names name with
    | none => gather names found rest
    | some i =>
      match found[i]? with
      | some none => gather names (found.set i (some d)) rest
      | _ => none

/-- The fields of a record, by place, and the room left for them. -/
def fields (names : List (List String)) : Decoder (Nat × List (Option Document))
  | room + 1, .object fs =>
    (gather names (names.map fun _ => none) fs).map fun found => (room, found)
  | room + 1, .array items =>
    if items.length ≤ names.length then
      some (room, items.map some ++ List.replicate (names.length - items.length) none)
    else none
  | _, _ => none

def required {α : Type} (decode : Decoder α) (room : Nat) (field : Option Document) : Option α :=
  field.bind (decode room)

/-- A field with a value for its absence. -/
def defaulted {α : Type} (absent : α) (decode : Decoder α) (room : Nat) (field : Option Document) :
    Option α :=
  match field with
  | none => some absent
  | some d => decode room d

/-- A field that may be absent or `null`. -/
def optional {α : Type} (decode : Decoder α) : (room : Nat) → (field : Option Document) →
    Option (Option α) :=
  defaulted none (nullable decode)

/-! ## Choices -/

/-- A choice by name without contents: the name alone, or an object with the name before `null`. -/
def choice {α : Type} (ofName : String → Option α) : Decoder α
  | _, .string (some name) => ofName name
  | _ + 1, .object [(some name, .null)] => ofName name
  | _, _ => none

/-- A choice by name with contents: an object with the name before the contents. -/
def tagged {α : Type} (ofName : String → Option (Decoder α)) : Decoder α
  | room + 1, .object [(some name, d)] => (ofName name).bind fun decode => decode room d
  | _, _ => none

end Decoder

/-- The text read as a document and decoded. -/
def decode? {α : Type} (decode : Decoder α) (text : String) : Option α :=
  (Document.read? text).bind (decode nestingLimit)

end ScanConsole.Json
