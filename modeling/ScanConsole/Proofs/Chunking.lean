import Mathlib.Data.List.TakeWhile
import ScanConsole.EventStream.Reader

/-!
# Payloads of a stream of bytes

What a stream of events holds can be said of its bytes all at once (`payloads`):
the lines are the pieces that a line feed closes, the events are the pieces of
the list of lines that an empty line closes, and the payload of an event joins
the values of its data lines. The reader comes to the same byte by byte, and so
in whatever chunks the bytes arrive:

    (feedEach {} chunks).flatten = payloads chunks.flatten     (`payloads_of_chunks`)

A chunk may end in the middle of a line, of a character or between a carriage
return and its line feed, and it may be empty. The bytes need not be UTF-8; a
line that is not is decoded with replacements, on the whole line and not by
chunks.

The induction is over the bytes. It carries what the reader holds
(`Reader.Holds`): the bytes of the line that is open, and the values of the data
lines since the last empty one.
-/

namespace ScanConsole.EventStream

/-! ## Closed pieces

What stands behind the last separator is left out, as a line without its line
feed is and an event without its empty line. -/

section
variable {α : Type} {p : α → Bool}

/-- The pieces of a list that a separator closes; what stands behind the last one is left out. -/
def closedPieces (p : α → Bool) (xs : List α) : List (List α) := (xs.splitOnP p).dropLast

theorem closedPieces_of_open {piece : List α} (h : ∀ x ∈ piece, p x = false) :
    closedPieces p piece = [] := by
  rw [closedPieces, List.splitOnP_eq_singleton h]
  rfl

theorem closedPieces_append_cons {piece : List α} {x : α} (h : ∀ y ∈ piece, p y = false)
    (hx : p x = true) (rest : List α) :
    closedPieces p (piece ++ x :: rest) = piece :: closedPieces p rest := by
  rw [closedPieces, List.splitOnP_append_cons_of_forall_mem h x hx,
    List.dropLast_cons_of_ne_nil (List.splitOnP_ne_nil p rest)]
  rfl

end

/-! ## Payloads all at once

This is the format, said without a reader. A field has its name before the first
colon and its value behind it, less one space; only data lines count, and an
event without any has no payload. -/

/-- A line as text, without the carriage return at its end. -/
def lineText (bytes : List UInt8) : List Char :=
  let text := Text.Utf8.decodeLossy bytes
  if text.getLast? = some '\r' then text.dropLast else text

/-- The lines that are ended by a line feed. -/
def endedLines (bytes : List UInt8) : List (List Char) :=
  (closedPieces (fun b => b == 10) bytes).map lineText

/-- The name of a field stands before the first colon; a line that starts with one names none. -/
def fieldName (line : List Char) : List Char := line.takeWhile fun c => c != ':'

/-- The value of a field stands behind the first colon, less one space; it is empty without a colon. -/
def fieldValue (line : List Char) : List Char :=
  match (line.dropWhile fun c => c != ':').drop 1 with
  | ' ' :: value => value
  | value => value

def dataValue? (line : List Char) : Option (List Char) :=
  if fieldName line = "data".toList then some (fieldValue line) else none

/-- The payload of an event, if a data line is among its lines. -/
def eventPayload? (block : List (List Char)) : Option String :=
  let values := block.filterMap dataValue?
  if values.isEmpty then none else some (payload values)

/-- The payloads of the events that are ended by an empty line. -/
def linePayloads (lines : List (List Char)) : List String :=
  (closedPieces List.isEmpty lines).filterMap eventPayload?

/-- The payloads of a stream of bytes. -/
def payloads (bytes : List UInt8) : List String := linePayloads (endedLines bytes)

example : payloads (Text.Utf8.bytesOf ": hi\n\nid: 4\ndata:one\r\ndata\ndata:  two\n\ndata: three\n") =
    ["one\n\n two"] := by decide

theorem endedLines_of_open {piece : List UInt8} (h : ∀ b ∈ piece, (b == 10) = false) :
    endedLines piece = [] := by
  rw [endedLines, closedPieces_of_open h]
  rfl

theorem endedLines_append_cons {piece : List UInt8} (h : ∀ b ∈ piece, (b == 10) = false)
    (rest : List UInt8) : endedLines (piece ++ 10 :: rest) = lineText piece :: endedLines rest := by
  rw [endedLines, closedPieces_append_cons h (beq_self_eq_true _)]
  rfl

theorem linePayloads_of_open {block : List (List Char)} (h : ∀ line ∈ block, line.isEmpty = false) :
    linePayloads block = [] := by
  rw [linePayloads, closedPieces_of_open h]
  rfl

theorem linePayloads_append_cons {block : List (List Char)} (h : ∀ line ∈ block, line.isEmpty = false)
    (rest : List (List Char)) :
    linePayloads (block ++ [] :: rest) = (eventPayload? block).toList ++ linePayloads rest := by
  rw [linePayloads, closedPieces_append_cons h List.isEmpty_nil, List.filterMap_cons]
  cases eventPayload? block <;> rfl

/-! ## One line

The reader drops the return, splits the field and acts on the name; each of
these is what the definitions above say. -/

theorem dropReturn_eq (line : List Char) :
    Text.dropReturn line = if line.getLast? = some '\r' then line.dropLast else line := by
  rcases List.eq_nil_or_concat line with rfl | ⟨init, c, h⟩
  · rfl
  · rw [List.concat_eq_append] at h
    subst h
    unfold Text.dropReturn
    rw [List.reverse_concat, List.getLast?_concat, List.dropLast_concat]
    by_cases hc : c = '\r'
    · subst hc
      simp
    · rw [if_neg (by simpa using hc)]
      split
      · next heq => exact absurd (List.cons.inj heq).1 hc
      · rfl

theorem splitOnce?_eq (sep : Char) (line : List Char) :
    Text.splitOnce? sep line =
      if sep ∈ line then
        some (line.takeWhile fun c => c != sep, (line.dropWhile fun c => c != sep).drop 1)
      else none := by
  induction line with
  | nil => rfl
  | cons c line ih =>
    by_cases hc : c = sep
    · subst hc
      simp [Text.splitOnce?]
    · have hne : sep ≠ c := fun h => hc h.symm
      by_cases hmem : sep ∈ line
      · simp [Text.splitOnce?, hc, hne, ih, hmem]
      · simp [Text.splitOnce?, hc, hne, ih, hmem]

theorem splitField_eq (line : List Char) : splitField line = (fieldName line, fieldValue line) := by
  unfold splitField fieldName fieldValue
  rw [splitOnce?_eq]
  by_cases hmem : ':' ∈ line
  · rw [if_pos hmem]
    generalize (line.dropWhile fun c => c != ':').drop 1 = value
    cases value with
    | nil => rfl
    | cons c value =>
      by_cases hc : c = ' '
      · subst hc
        rfl
      · simp [hc]
  · rw [if_neg hmem]
    have hall : ∀ c ∈ line, (c != ':') = true := by
      intro c hc
      rw [bne_iff_ne]
      rintro rfl
      exact hmem hc
    rw [List.takeWhile_eq_self_iff.mpr hall, List.dropWhile_eq_nil_iff.mpr hall]
    rfl

theorem dataValue?_of_colon (line : List Char) : dataValue? (':' :: line) = none := rfl

namespace Reader

theorem finishLine_blank (r : Reader) :
    r.finishLine [] = ({}, if r.data.isEmpty then none else some (payload r.data.reverse)) := by
  unfold finishLine
  cases h : r.data with
  | nil => simp
  | cons value data => simp

theorem finishLine_of_ne_nil (r : Reader) {line : List Char} (h : line.isEmpty = false) :
    r.finishLine line = ({ line := [], data := (dataValue? line).toList ++ r.data }, none) := by
  unfold finishLine
  split
  · cases h
  · rw [dataValue?_of_colon]
    rfl
  · rw [splitField_eq]
    dsimp only [dataValue?]
    by_cases hname : fieldName line = "data".toList
    · rw [if_pos hname, if_pos (beq_iff_eq.mpr hname)]
      rfl
    · rw [if_neg hname, if_neg fun h => hname (beq_iff_eq.mp h)]
      rfl

theorem push_lineFeed (r : Reader) : r.push 10 = r.finishLine (lineText r.line.reverse) := by
  unfold push lineText
  rw [if_pos (beq_self_eq_true _), dropReturn_eq]

theorem push_of_ne (r : Reader) {b : UInt8} (hb : (b == 10) = false) :
    r.push b = ({ r with line := b :: r.line }, none) := by
  unfold push
  rw [if_neg (by simp [hb])]

/-! ## All bytes

What the reader still gives is what the bytes that it holds and those to come
give together (`feed_of_holds`). Chunks are then nothing but a way to write a
list of bytes (`flatten_feedEach`). -/

/-- What the reader holds: the bytes of the open line, and the values of the data lines of the event in
progress. -/
structure Holds (r : Reader) (block : List (List Char)) (piece : List UInt8) : Prop where
  line : r.line.reverse = piece
  data : r.data.reverse = block.filterMap dataValue?
  unended : ∀ b ∈ piece, (b == 10) = false
  unblank : ∀ line ∈ block, line.isEmpty = false

theorem holds_nothing : Holds {} [] [] where
  line := rfl
  data := rfl
  unended _ hb := absurd hb List.not_mem_nil
  unblank _ hl := absurd hl List.not_mem_nil

section
variable {r : Reader} {block : List (List Char)} {piece : List UInt8}

theorem Holds.byte (h : r.Holds block piece) {b : UInt8} (hb : (b == 10) = false) :
    Holds { r with line := b :: r.line } block (piece ++ [b]) where
  line := by rw [List.reverse_cons, h.line]
  data := h.data
  unended c hc := by
    rcases List.mem_append.mp hc with hc | hc
    · exact h.unended c hc
    · rwa [List.mem_singleton.mp hc]
  unblank := h.unblank

theorem Holds.finishedLine (h : r.Holds block piece) {line : List Char}
    (hline : line.isEmpty = false) :
    Holds { line := [], data := (dataValue? line).toList ++ r.data } (block ++ [line]) [] where
  line := rfl
  data := by
    rw [List.filterMap_append, ← h.data, List.reverse_append]
    cases hv : dataValue? line <;> simp [hv]
  unended _ hb := absurd hb List.not_mem_nil
  unblank l hl := by
    rcases List.mem_append.mp hl with hl | hl
    · exact h.unblank l hl
    · rwa [List.mem_singleton.mp hl]

theorem Holds.eventPayload? (h : r.Holds block piece) :
    eventPayload? block = if r.data.isEmpty then none else some (payload r.data.reverse) := by
  unfold EventStream.eventPayload?
  dsimp only
  rw [← h.data, List.isEmpty_reverse]

theorem feed_of_holds (h : r.Holds block piece) (bytes : List UInt8) :
    (r.feed bytes).2 = linePayloads (block ++ endedLines (piece ++ bytes)) := by
  induction bytes generalizing r block piece with
  | nil =>
    rw [List.append_nil, endedLines_of_open h.unended, List.append_nil,
      linePayloads_of_open h.unblank]
    rfl
  | cons b bytes ih =>
    have hfeed : (r.feed (b :: bytes)).2 = (r.push b).2.toList ++ ((r.push b).1.feed bytes).2 := rfl
    rw [hfeed]
    cases hb : b == 10 with
    | false =>
      rw [push_of_ne r hb, ih (h.byte hb)]
      simp
    | true =>
      obtain rfl : b = 10 := beq_iff_eq.mp hb
      rw [push_lineFeed, h.line, endedLines_append_cons h.unended]
      cases hline : (lineText piece).isEmpty with
      | true =>
        -- an empty line ends the event, and the reader is as it was at the start
        rw [List.isEmpty_iff.mp hline, finishLine_blank, linePayloads_append_cons h.unblank,
          h.eventPayload?, ih holds_nothing]
        rfl
      | false =>
        rw [finishLine_of_ne_nil r hline, ih (h.finishedLine hline)]
        simp

end

theorem feed_append (r : Reader) (xs ys : List UInt8) :
    r.feed (xs ++ ys) = (((r.feed xs).1.feed ys).1, (r.feed xs).2 ++ ((r.feed xs).1.feed ys).2) := by
  induction xs generalizing r with
  | nil => rfl
  | cons b xs ih => simp only [List.cons_append, feed, ih, List.append_assoc]

end Reader

theorem flatten_feedEach (r : Reader) (chunks : List (List UInt8)) :
    (feedEach r chunks).flatten = (r.feed chunks.flatten).2 := by
  induction chunks generalizing r with
  | nil => rfl
  | cons chunk chunks ih =>
    simp only [feedEach, List.flatten_cons, ih, Reader.feed_append]

/-- However the bytes are cut into chunks, the payloads that the reader gives for one chunk after the
other are those of all the bytes. -/
theorem payloads_of_chunks (chunks : List (List UInt8)) :
    (feedEach {} chunks).flatten = payloads chunks.flatten := by
  rw [flatten_feedEach]
  exact Reader.feed_of_holds Reader.holds_nothing chunks.flatten

end ScanConsole.EventStream
