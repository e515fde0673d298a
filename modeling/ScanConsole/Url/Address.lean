import ScanConsole.Text.Blank
import ScanConsole.Url.Percent

/-!
# Numeric addresses

An address of version 4 is one to four numbers, decimal, octal or hexadecimal,
of which the last fills all bytes that are left. An address of version 6 is
eight groups of hexadecimal digits, of which one run of zero groups may be left
out and the last two may be written in version 4.
-/

namespace ScanConsole.Url

/-- The number that digits of a base denote; `none` if one of them is no digit of it. -/
def numberOf? (base : Nat) (ds : List Char) : Option Nat :=
  ds.foldl
    (fun acc c =>
      match acc, Text.hexValue? c with
      | some n, some d => if d < base then some (n * base + d) else none
      | _, _ => none)
    (some 0)

/-! ## Version 4 -/

/-- One number of an address: `0x` starts a hexadecimal one, any other leading zero an octal one. -/
def part4? (s : List Char) : Option Nat :=
  match s with
  | [] => none
  | '0' :: 'x' :: ds => numberOf? 16 ds
  | '0' :: 'X' :: ds => numberOf? 16 ds
  | '0' :: ds => numberOf? 8 ds
  | ds => numberOf? 10 ds

/-- The numbers between the points; a point at the end is ignored. -/
def parts4 (s : List Char) : List (List Char) :=
  let parts := Text.splitAtEach (· == '.') s
  if parts.getLast? == some [] then parts.dropLast else parts

/-- The host has to be an address of version 4, for its last part is a number. -/
def endsInNumber (s : List Char) : Bool :=
  match (parts4 s).getLast? with
  | none => false
  | some last => (!last.isEmpty && last.all Char.isDigit) || (part4? last).isSome

/-- The value of the numbers, the last of which fills what the others leave. -/
def combine4? (ns : List Nat) : Option Nat :=
  match ns.getLast? with
  | none => none
  | some last =>
    let leading := ns.dropLast
    if 4 < ns.length || leading.any (255 < ·) || Nat.pow 256 (4 - leading.length) ≤ last then none
    else some (leading.foldl (fun n part => n * 256 + part) 0 * Nat.pow 256 (4 - leading.length) + last)

/-- An address of version 4 as a number of 32 bits. -/
def address4? (s : List Char) : Option Nat := ((parts4 s).mapM part4?).bind combine4?

/-- Four decimal numbers with points between them. -/
def address4Text (n : Nat) : List Char :=
  ".".toList.intercalate
    ([n / 0x1000000 % 256, n / 0x10000 % 256, n / 0x100 % 256, n % 256].map fun b =>
      (toString b).toList)

/-! ## Version 6 -/

/-- One group: one to four hexadecimal digits. -/
def group6? (s : List Char) : Option Nat :=
  if s.isEmpty || 4 < s.length then none else numberOf? 16 s

/-- One number of a version 4 tail: decimal, without leading zeros, at most 255. -/
def tailPart? (s : List Char) : Option Nat :=
  match s with
  | [] => none
  | '0' :: _ :: _ => none
  | ds =>
    if ds.all Char.isDigit then
      match numberOf? 10 ds with
      | some n => if n ≤ 255 then some n else none
      | none => none
    else none

/-- A version 4 tail as two groups. -/
def tail6? (s : List Char) : Option (List Nat) :=
  match (Text.splitAtEach (· == '.') s).mapM tailPart? with
  | some [a, b, c, d] => some [a * 256 + b, c * 256 + d]
  | _ => none

/-- Groups with colons between them, where the last may be a tail in version 4. -/
def groups6? : List (List Char) → Option (List Nat)
  | [] => some []
  | [last] => if last.contains '.' then tail6? last else (group6? last).map fun g => [g]
  | s :: rest =>
    match group6? s, groups6? rest with
    | some g, some gs => some (g :: gs)
    | _, _ => none

/-- The groups of a side of the double colon, which may be empty. -/
def side6? (s : List Char) : Option (List Nat) :=
  if s.isEmpty then some [] else groups6? (Text.splitAtEach (· == ':') s)

/-- The two sides of the first double colon. -/
def splitDouble? : List Char → Option (List Char × List Char)
  | [] => none
  | ':' :: ':' :: rest => some ([], rest)
  | c :: rest => (splitDouble? rest).map fun r => (c :: r.1, r.2)

/-- An address of version 6 as eight groups. -/
def address6? (s : List Char) : Option (List Nat) :=
  match splitDouble? s with
  | none =>
    match side6? s with
    | some gs => if gs.length == 8 then some gs else none
    | none => none
  | some (left, right) =>
    if left.contains '.' then none
    else
      match side6? left, side6? right with
      | some l, some r =>
        if l.length + r.length < 8 then
          some (l ++ List.replicate (8 - l.length - r.length) 0 ++ r)
        else none
      | _, _ => none

/-- How many zero groups follow. -/
def zeroRun (gs : List Nat) : Nat := (gs.takeWhile (· == 0)).length

/-- The place and length of the longest run of zero groups, the first of several; at place `i`. -/
def longestRun (i : Nat) : List Nat → Nat × Nat
  | [] => (i, 0)
  | g :: rest =>
    let here := zeroRun (g :: rest)
    let later := longestRun (i + 1) rest
    if later.2 ≤ here then (i, here) else later

/-- Groups in small hexadecimal digits with colons between them. -/
def groupsText (gs : List Nat) : List Char :=
  ":".toList.intercalate (gs.map Text.hexDigits)

/-- Eight groups, the longest run of two or more zero groups left out. -/
def address6Text (gs : List Nat) : List Char :=
  let (start, length) := longestRun 0 gs
  if length < 2 then groupsText gs
  else groupsText (gs.take start) ++ "::".toList ++ groupsText (gs.drop (start + length))

end ScanConsole.Url
