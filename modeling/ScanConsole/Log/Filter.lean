import ScanConsole.Log.Pattern
import ScanConsole.Log.Record
import ScanConsole.Text.Utf8

/-!
# Which records are logged

A filter is a list of directives with commas between them. A directive is a
level, an origin, or both with a sign of equality between them: it allows the
origins that start with its own, up to its level. It may also name a span in
brackets and, in braces there, fields. Of the directives that apply to a record
the most specific decides, and of equal ones the last. Records here have one
field, their message, and stand in no span.
-/

namespace ScanConsole.Log

/-- The most talkative level that is allowed; none if nothing is. -/
abbrev Ceiling := Option Level

/-- A level by its name in any case, or by its number. -/
def ceiling? (text : List Char) : Option Ceiling :=
  let word := String.ofList (text.map Char.toLower)
  let digits :=
    match text with
    | '+' :: ds => ds
    | ds => ds
  if word == "off" then some none
  else if word == "error" || text.isEmpty then some (some .error)
  else if word == "warn" then some (some .warn)
  else if word == "info" then some (some .info)
  else if word == "debug" then some (some .debug)
  else if word == "trace" then some (some .trace)
  else if digits.isEmpty || !digits.all Char.isDigit then none
  else
    match digits.dropWhile (· == '0') with
    | [] => some none
    | ['1'] => some (some .error)
    | ['2'] => some (some .warn)
    | ['3'] => some (some .info)
    | ['4'] => some (some .debug)
    | ['5'] => some (some .trace)
    | _ => none

/-- What a record has to be to be logged. -/
structure Directive where
  ceiling : Ceiling
  /-- What the origin has to start with. -/
  origin : Option (List Char) := none
  /-- The name of a span that the record has to stand in. -/
  span : Option (List Char) := none
  /-- The names of fields that the record has to have, and whether a value is asked of them. -/
  fields : List (List Char × Bool) := []
  deriving DecidableEq, Repr

namespace Directive

/-- A field by its name, and whether a value is asked of it, which has to be a number or a pattern. -/
def field? (text : List Char) : Option (List Char × Bool) :=
  if text.isEmpty then none
  else
    match Text.splitOnce? '=' text with
    | none => some (text, false)
    | some (name, rest) =>
      let value := rest.takeWhile (· != '=')
      if isNumber value || isPattern value then some (name, true) else none

/-- Which part of a directive is being read, and where in its text the part starts. -/
inductive Part where
  | start
  /-- A level or an origin. -/
  | name (place : Nat)
  | span (place : Nat)
  | field (place : Nat)
  | fields
  /-- Behind the brackets. -/
  | behind
  | level (place : Nat)
  deriving DecidableEq, Repr

/-- A directive that is being read. -/
structure Reading where
  directive : Directive := { ceiling := some .trace }
  part : Part := .start
  deriving DecidableEq, Repr

/-- A character that a level or an origin can start with. -/
def startsName (c : Char) : Bool := c == '-' || c == ':' || c == '_' || Text.isAlphanumeric c

/-- The reading behind the character `c` at place `i`, where `cut` is the text between two places. -/
def Reading.step (cut : Nat → Nat → Option (List Char)) (r : Reading) (i : Nat) (c : Char) :
    Option Reading :=
  match r.part with
  | .start =>
    if c == '[' then some { r with part := .span (i + 1) }
    else if startsName c then some { r with part := .name i }
    else none
  | .name start =>
    if c == '=' || c == '[' then
      (cut start i).map fun origin =>
        { r with
          directive := { r.directive with origin := some origin }
          part := if c == '=' then .level (i + 1) else .span (i + 1) }
    else some r
  | .span start =>
    if c == ']' then
      (cut start i).map fun name =>
        { r with directive := { r.directive with span := some name }, part := .behind }
    else if c == '\x7b' then
      (cut start i).map fun name =>
        { r with
          directive := { r.directive with span := if name.isEmpty then none else some name }
          part := .field (i + 1) }
    else some r
  | .field start =>
    if c == '\x7d' then
      ((cut start i).bind field?).map fun f =>
        { r with directive := { r.directive with fields := [f] }, part := .fields }
    else some r
  | .fields => if c == ']' then some { r with part := .behind } else none
  | .behind => if c == '=' then some { r with part := .level (i + 1) } else none
  | .level _ => some r

/-- The directive when its text has ended, where `tail` is the text from a place on. -/
def Reading.close? (tail : Nat → Option (List Char)) (r : Reading) : Option Directive :=
  match r.part with
  | .name start =>
    (tail start).map fun text =>
      match ceiling? text with
      | some ceiling => { r.directive with ceiling := ceiling }
      | none => { r.directive with origin := some text }
  | .level start =>
    match tail start with
    | none => none
    | some [] => some r.directive
    | some text => (ceiling? text).map fun c => { r.directive with ceiling := c }
  | .behind => some r.directive
  | .start | .span _ | .field _ | .fields => none

/-- The bytes of a text between two places, as text. -/
def cutBytes (bytes : List UInt8) (start stop : Nat) : Option (List Char) :=
  Text.Utf8.decode? ((bytes.take stop).drop start)

/-- A directive. Its parts are told apart in the text without the blanks around it and are then cut out of
the text with these blanks, at the same bytes: a blank in front shifts every part. -/
def parse? (text : List Char) : Option Directive :=
  let bytes := Text.Utf8.encode text
  let walk (acc : Option (Reading × Nat)) (c : Char) : Option (Reading × Nat) :=
    acc.bind fun (r, i) =>
      (r.step (cutBytes bytes) i c).map fun r => (r, i + Text.Utf8.size [c])
  ((Text.trim text).foldl walk (some ({}, 0))).bind fun (r, _) =>
    r.close? fun start => cutBytes bytes start bytes.length

/-- The directive decides about records of this origin. -/
def appliesTo (d : Directive) (origin : Origin) : Bool :=
  d.span.isNone && d.fields.all (fun f => f.1 == "message".toList && !f.2) &&
    match d.origin with
    | none => true
    | some start => (Text.after? start origin.path.toList).isSome

/-- How specific a directive is. -/
def weight (d : Directive) : Nat × Nat :=
  (match d.origin with
    | none => 0
    | some start => start.length + 1, d.fields.length)

/-- The second directive is at least as specific as the first. -/
def yieldsTo (d e : Directive) : Bool :=
  d.weight.1 < e.weight.1 || (d.weight.1 == e.weight.1 && d.weight.2 ≤ e.weight.2)

end Directive

/-- Which records are logged. -/
structure Filter where
  directives : List Directive
  deriving DecidableEq, Repr

namespace Filter

/-- A filter from its text. Without directives it allows errors alone. -/
def parse? (text : String) : Option Filter :=
  match (Text.splitAtEach (· == ',') text.toList).filter fun p => !p.isEmpty with
  | [] => some ⟨[{ ceiling := some .error }]⟩
  | parts => (parts.mapM Directive.parse?).map Filter.mk

/-- The filter that is used without another: up to information. -/
def default : Filter := ⟨[{ ceiling := some .info }]⟩

/-- The filter with this text; the usual one without a text or if the text is no filter. -/
def ofSetting (text : Option String) : Filter := (text.bind parse?).getD default

/-- The directive that decides about records of this origin. -/
def deciding? (f : Filter) (origin : Origin) : Option Directive :=
  (f.directives.filter fun d => d.appliesTo origin).foldl
    (fun best d =>
      match best with
      | none => some d
      | some b => if b.yieldsTo d then some d else some b)
    none

def allows (f : Filter) (r : Record) : Bool :=
  match f.deciding? r.origin with
  | none => false
  | some d =>
    match d.ceiling with
    | none => false
    | some level => r.level.rank ≤ level.rank

end Filter

end ScanConsole.Log
