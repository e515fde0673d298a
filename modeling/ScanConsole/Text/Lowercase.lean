import ScanConsole.Text.Ranges
import ScanConsole.Text.LowercaseTable

/-!
# Lower case

The full lowercase mapping: each capital letter to its small form, the dotted
capital I to two characters, and the Greek sigma to its final form where a word
ends. Whether a sigma is final depends on its neighbours, so lowercasing does
not commute with taking pieces of a text.
-/

namespace ScanConsole.Text

/-- A character that case mapping looks through. -/
def isCaseIgnorable (c : Char) : Bool :=
  if c.toNat < 0x80 then c == '\x27' || c == '.' || c == ':' || c == '^' || c == '\x60'
  else covers caseIgnorableRanges c

/-- A letter with case. -/
def isCased (c : Char) : Bool :=
  if c.toNat < 0x80 then c.isAlpha else covers casedRanges c

def lowerChar (c : Char) : Char :=
  if c.toNat < 0x80 then c.toLower
  else
    match lowercaseRuns.find? fun r =>
        r.1 ≤ c.toNat && c.toNat ≤ r.2.1 && (c.toNat - r.1) % r.2.2.1 == 0 with
    | some r => Char.ofNat ((c.toNat : Int) + r.2.2.2).toNat
    | none => c

/-- Past the characters that case mapping looks through there is a letter with case. -/
def casedAhead (s : List Char) : Bool :=
  match s.dropWhile isCaseIgnorable with
  | c :: _ => isCased c
  | [] => false

/-- Lowercase of `rest`, where `before` is what precedes it, nearest character first. -/
def lowerAfter (before : List Char) : List Char → List Char
  | [] => []
  | c :: rest =>
    let small :=
      if c == 'Σ' then [if casedAhead before && !casedAhead rest then 'ς' else 'σ']
      else if c == 'İ' then ['i', '\u0307']
      else [lowerChar c]
    small ++ lowerAfter (c :: before) rest

def lower (s : List Char) : List Char := lowerAfter [] s

/-- `lower` on strings. -/
def lowercase (s : String) : String := String.ofList (lower s.toList)

end ScanConsole.Text
