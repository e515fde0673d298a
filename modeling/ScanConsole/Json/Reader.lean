import ScanConsole.Json.Document
import ScanConsole.Text.Hex
import ScanConsole.Text.Search

/-!
# Reading JSON

`Document.read?` reads a whole text as one document with blanks around it. The
functions of `Reader` read one construct at the head of a text and return what
follows it. Values nest, so the readers of values, items and fields share a
bound on their calls, which `whole?` computes from the length of the text: every
second call takes a character.
-/

namespace ScanConsole.Json

namespace Reader

/-- A blank between the parts of a document. -/
def isGap (c : Char) : Bool := c == ' ' || c == '\n' || c == '\t' || c == '\r'

/-- The text from its next part on. -/
def skipGaps (s : List Char) : List Char := s.dropWhile isGap

/-! ## Strings -/

/-- What stands for one character of a string: the character, or one half of a surrogate pair. -/
inductive Piece where
  | char (c : Char)
  | half (n : Nat)
  deriving DecidableEq, Repr

/-- What the code unit that four hexadecimal digits name stands for. -/
def codeUnit? (a b c d : Char) : Option Piece :=
  match Text.hexValue? a, Text.hexValue? b, Text.hexValue? c, Text.hexValue? d with
  | some a, some b, some c, some d =>
    let n := ((a * 16 + b) * 16 + c) * 16 + d
    some (if 0xD800 ≤ n && n ≤ 0xDFFF then .half n else .char (Char.ofNat n))
  | _, _, _, _ => none

/-- What a short escape stands for. -/
def escape? (c : Char) : Option Char :=
  if c == '"' || c == '\\' || c == '/' then some c
  else if c == 'b' then some '\x08'
  else if c == 'f' then some '\x0c'
  else if c == 'n' then some '\n'
  else if c == 'r' then some '\r'
  else if c == 't' then some '\t'
  else none

/-- The pieces of a string up to its closing quote; `acc` holds those read before, in reverse. -/
def pieces? (acc : List Piece) : List Char → Option (List Piece × List Char)
  | [] => none
  | '"' :: rest => some (acc.reverse, rest)
  | '\\' :: 'u' :: a :: b :: c :: d :: rest =>
    match codeUnit? a b c d with
    | some p => pieces? (p :: acc) rest
    | none => none
  | '\\' :: e :: rest =>
    match escape? e with
    | some c => pieces? (.char c :: acc) rest
    | none => none
  | c :: rest =>
    if c.toNat < 0x20 || c == '\\' then none else pieces? (.char c :: acc) rest

/-- The text of the pieces: a high half has to stand right before a low one. -/
def pair? (acc : List Char) : List Piece → Option (List Char)
  | [] => some acc.reverse
  | .char c :: rest => pair? (c :: acc) rest
  | .half high :: .half low :: rest =>
    if high < 0xDC00 && 0xDC00 ≤ low then
      pair? (Char.ofNat (0x10000 + (high - 0xD800) * 0x400 + (low - 0xDC00)) :: acc) rest
    else none
  | .half _ :: _ => none

/-- A string whose opening quote has been read. -/
def string? (s : List Char) : Option (Option String × List Char) :=
  (pieces? [] s).map fun r => ((pair? [] r.1).map String.ofList, r.2)

/-! ## Values -/

/-- A document that is written as a fixed word; the first letter has been read. -/
def word? (w : List Char) (d : Document) (s : List Char) : Option (Document × List Char) :=
  (Text.after? w s).map fun rest => (d, rest)

mutual

/-- The value at the head of a text. -/
def value? (fuel : Nat) (s : List Char) : Option (Document × List Char) :=
  match fuel with
  | 0 => none
  | fuel + 1 =>
    match skipGaps s with
    | [] => none
    | c :: rest =>
      if c == '\x7b' then
        match skipGaps rest with
        | '\x7d' :: rest => some (.object [], rest)
        | rest => fields? fuel [] rest
      else if c == '[' then
        match skipGaps rest with
        | ']' :: rest => some (.array [], rest)
        | rest => items? fuel [] rest
      else if c == '"' then (string? rest).map fun r => (.string r.1, r.2)
      else if c == 't' then word? ['r', 'u', 'e'] (.boolean true) rest
      else if c == 'f' then word? ['a', 'l', 's', 'e'] (.boolean false) rest
      else if c == 'n' then word? ['u', 'l', 'l'] .null rest
      else (Literal.read? (c :: rest)).map fun r => (.number r.1.value?, r.2)

/-- The items of an array from one item on; `acc` holds those before it, in reverse. -/
def items? (fuel : Nat) (acc : List Document) (s : List Char) : Option (Document × List Char) :=
  match fuel with
  | 0 => none
  | fuel + 1 =>
    match value? fuel s with
    | none => none
    | some (d, rest) =>
      match skipGaps rest with
      | ',' :: rest => items? fuel (d :: acc) rest
      | ']' :: rest => some (.array (d :: acc).reverse, rest)
      | _ => none

/-- The fields of an object from one field on; `acc` holds those before it, in reverse. -/
def fields? (fuel : Nat) (acc : List (Option String × Document)) (s : List Char) :
    Option (Document × List Char) :=
  match fuel with
  | 0 => none
  | fuel + 1 =>
    match skipGaps s with
    | '"' :: rest =>
      match string? rest with
      | none => none
      | some (name, rest) =>
        match skipGaps rest with
        | ':' :: rest =>
          match value? fuel rest with
          | none => none
          | some (d, rest) =>
            match skipGaps rest with
            | ',' :: rest => fields? fuel ((name, d) :: acc) rest
            | '\x7d' :: rest => some (.object ((name, d) :: acc).reverse, rest)
            | _ => none
        | _ => none
    | _ => none

end

/-- The text as one document and nothing else. -/
def whole? (s : List Char) : Option Document :=
  match value? (2 * s.length + 2) s with
  | some (d, rest) => if (skipGaps rest).isEmpty then some d else none
  | none => none

end Reader

def Document.read? (text : String) : Option Document := Reader.whole? text.toList

def Value.read? (text : String) : Option Value :=
  (Document.read? text).bind (·.value? nestingLimit)

end ScanConsole.Json
