import Mathlib.Data.List.Basic
import ScanConsole.Proofs.Chunking
import ScanConsole.Proofs.Messages
import ScanConsole.Proofs.Utf8

/-!
# Streams as they are written

A sender writes blocks of lines, each ended by an empty line.
`payloads_blockBytes` says that a stream carries the payloads of its blocks. A
block is framed either around the data line of an event, with comments and other
fields beside it, or around nothing that is an event (`Frame`); the events of a
stream are those of its frames:

    (payloads (blockBytes (frames.map Frame.lines) ++ rest)).filterMap Event.decode?
      = frames.filterMap Frame.event? ++ …                       (`events_frames`)

The text of an event has no line feed in it, so it is one line. It is read back
as the event if its numbers fit (`Event.Fits`): the number of a screen has to
fit into 64 bits, and there is nothing else.

Of a body the console takes the items that `streamItems_eq` says: the events
among the payloads of its bytes, however these come in chunks. A body that
breaks off has a failure for its last item.
-/

namespace ScanConsole

/-! ## Blocks of lines

A line of a block has no line feed in it, and something before its end, for else
it would close a line or the block. A carriage return at its end is not part of
what is read. -/

namespace EventStream

/-- Lines in bytes, each ended by a line feed. -/
def lineBytes (lines : List (List Char)) : List UInt8 :=
  lines.flatMap fun line => Text.Utf8.encode line ++ [10]

/-- Blocks of lines in bytes, each ended by an empty line. -/
def blockBytes (blocks : List (List (List Char))) : List UInt8 :=
  blocks.flatMap fun block => lineBytes block ++ [10]

/-- What may stand as a line in a block: no line feed, and something before the end of the line. -/
structure IsLine (line : List Char) : Prop where
  unended : '\n' ∉ line
  unblank : Text.dropReturn line ≠ []

/-- The lines of a block as they are read. -/
def readLines (block : List (List Char)) : List (List Char) := block.map Text.dropReturn

theorem lineText_encode (line : List Char) : lineText (Text.Utf8.encode line) = Text.dropReturn line := by
  unfold lineText
  rw [Text.Utf8.decodeLossy_encode, dropReturn_eq]

theorem endedLines_lineBytes {block : List (List Char)} (h : ∀ line ∈ block, IsLine line)
    (rest : List UInt8) : endedLines (lineBytes block ++ rest) = readLines block ++ endedLines rest := by
  induction block with
  | nil => rfl
  | cons line block ih =>
    have hline : ∀ b ∈ Text.Utf8.encode line, (b == 10) = false := by
      intro b hb
      rw [beq_eq_false_iff_ne]
      rintro rfl
      exact Text.Utf8.lineFeed_not_mem_encode (h line List.mem_cons_self).unended hb
    have ih' := ih fun l hl => h l (List.mem_cons_of_mem _ hl)
    have hbytes : lineBytes (line :: block) ++ rest =
        Text.Utf8.encode line ++ 10 :: (lineBytes block ++ rest) := by
      simp [lineBytes]
    rw [hbytes, endedLines_append_cons hline, lineText_encode, ih']
    rfl

theorem payloads_blockBytes {blocks : List (List (List Char))}
    (h : ∀ block ∈ blocks, ∀ line ∈ block, IsLine line) (rest : List UInt8) :
    payloads (blockBytes blocks ++ rest) =
      blocks.filterMap (fun block => eventPayload? (readLines block)) ++ payloads rest := by
  induction blocks with
  | nil => rfl
  | cons block blocks ih =>
    have hblock := h block List.mem_cons_self
    have hunblank : ∀ line ∈ readLines block, line.isEmpty = false := by
      intro l hl
      obtain ⟨line, hline, rfl⟩ := List.mem_map.mp hl
      exact List.isEmpty_eq_false_iff.mpr (hblock line hline).unblank
    have hbytes : blockBytes (block :: blocks) ++ rest =
        lineBytes block ++ 10 :: (blockBytes blocks ++ rest) := by
      simp [blockBytes]
    have hblank : endedLines (10 :: (blockBytes blocks ++ rest)) =
        [] :: endedLines (blockBytes blocks ++ rest) :=
      endedLines_append_cons (fun b hb => absurd hb List.not_mem_nil) _
    have ih' : linePayloads (endedLines (blockBytes blocks ++ rest)) = _ :=
      ih fun b hb => h b (List.mem_cons_of_mem _ hb)
    show linePayloads (endedLines (blockBytes (block :: blocks) ++ rest)) = _
    rw [hbytes, endedLines_lineBytes hblock, hblank, linePayloads_append_cons hunblank, ih',
      List.filterMap_cons, ← List.append_assoc]
    cases eventPayload? (readLines block) <;> rfl

/-! ## Events

Lines that add nothing to a payload are idle (`IsIdle`). The end of a line is
behind its first colon, so dropping a carriage return does not touch the name of
a field. A block carries the event in its data line, whatever idle lines stand
around it (`blockEvent?_of_event`).

A frame of the second kind may hold any lines, data lines among them, as long as
the block carries no event (`Frame.Sound`). So nothing is assumed of blocks that
cannot be decoded but that they cannot. -/

/-- The event that a block carries, if its payload is one. -/
def blockEvent? (block : List (List Char)) : Option Event :=
  (eventPayload? (readLines block)).bind Event.decode?

/-- A line that adds nothing to a payload: another field than data, or a comment, which is a field without a
name. -/
inductive IsIdle : List Char → Prop
  | field {name : List Char} (value : List Char) : ':' ∉ name → name ≠ "data".toList →
      IsIdle (name ++ ':' :: value)
  | bare {name : List Char} : ':' ∉ name → Text.dropReturn name ≠ "data".toList → IsIdle name

def dataLine (e : Event) : List Char := "data: ".toList ++ e.toJson.write

theorem fieldName_append_colon {name : List Char} (h : ':' ∉ name) (value : List Char) :
    fieldName (name ++ ':' :: value) = name := by
  have hname : ∀ c ∈ name, (c != ':') = true := by
    intro c hc
    rw [bne_iff_ne]
    rintro rfl
    exact h hc
  rw [fieldName, List.takeWhile_append_of_pos hname, List.takeWhile_cons_of_neg (by decide),
    List.append_nil]

theorem dropReturn_append_colon (name value : List Char) :
    ∃ value', Text.dropReturn (name ++ ':' :: value) = name ++ ':' :: value' := by
  rw [dropReturn_eq]
  split
  · next hlast =>
    have hvalue : value ≠ [] := by
      rintro rfl
      rw [List.getLast?_concat] at hlast
      exact absurd hlast (by decide)
    refine ⟨value.dropLast, ?_⟩
    rw [List.dropLast_append_of_ne_nil (List.cons_ne_nil _ _), List.dropLast_cons_of_ne_nil hvalue]
  · exact ⟨value, rfl⟩

theorem dropReturn_subset (line : List Char) : Text.dropReturn line ⊆ line := by
  rw [dropReturn_eq]
  split
  · exact List.dropLast_subset line
  · exact List.Subset.refl line

theorem dataValue?_of_idle {line : List Char} (h : IsIdle line) :
    dataValue? (Text.dropReturn line) = none := by
  cases h with
  | field value hcolon hname =>
    obtain ⟨value', hread⟩ := dropReturn_append_colon _ value
    rw [hread, dataValue?, fieldName_append_colon hcolon, if_neg hname]
  | bare hcolon hname =>
    have hall : ∀ c ∈ Text.dropReturn line, (c != ':') = true := by
      intro c hc
      rw [bne_iff_ne]
      rintro rfl
      exact hcolon (dropReturn_subset line hc)
    rw [dataValue?, fieldName, List.takeWhile_eq_self_iff.mpr hall, if_neg hname]

theorem isText_dataLine {e : Event} (h : e.Fits) : (dataLine e).all Json.isText = true := by
  show ("data: ".toList ++ e.toJson.write).all Json.isText = true
  rw [List.all_append, Bool.and_eq_true_iff]
  exact ⟨by decide, Json.isText_write e.toJson (Event.isWhole_toJson h)⟩

theorem dropReturn_dataLine {e : Event} (h : e.Fits) : Text.dropReturn (dataLine e) = dataLine e := by
  rw [dropReturn_eq, if_neg]
  intro hlast
  have hmem := List.mem_of_getLast? hlast
  exact absurd (List.all_eq_true.mp (isText_dataLine h) _ hmem) (by decide)

theorem isLine_dataLine {e : Event} (h : e.Fits) : IsLine (dataLine e) where
  unended hmem := absurd (List.all_eq_true.mp (isText_dataLine h) _ hmem) (by decide)
  unblank := by
    rw [dropReturn_dataLine h]
    exact List.cons_ne_nil _ _

theorem dataValue?_dataLine (e : Event) : dataValue? (dataLine e) = some e.toJson.write := rfl

theorem blockEvent?_of_event {e : Event} (h : e.Fits) {before after : List (List Char)}
    (hbefore : ∀ line ∈ before, IsIdle line) (hafter : ∀ line ∈ after, IsIdle line) :
    blockEvent? (before ++ dataLine e :: after) = some e := by
  have hidle {lines : List (List Char)} (hl : ∀ line ∈ lines, IsIdle line) :
      (readLines lines).filterMap dataValue? = [] := by
    rw [List.filterMap_eq_nil_iff]
    intro l hmem
    obtain ⟨line, hline, rfl⟩ := List.mem_map.mp hmem
    exact dataValue?_of_idle (hl line hline)
  have hvalues : (readLines (before ++ dataLine e :: after)).filterMap dataValue? = [e.toJson.write] := by
    have hread : readLines (before ++ dataLine e :: after) =
        readLines before ++ dataLine e :: readLines after := by
      rw [readLines, List.map_append, List.map_cons, dropReturn_dataLine h]
      rfl
    rw [hread, List.filterMap_append, List.filterMap_cons, hidle hbefore, hidle hafter,
      dataValue?_dataLine]
    rfl
  have hpayload : eventPayload? (readLines (before ++ dataLine e :: after)) =
      some e.toJson.compact := by
    have hjoined : payload [e.toJson.write] = e.toJson.compact := by
      rw [payload, List.intercalate_singleton, Json.Value.compact]
    simp only [eventPayload?, hvalues, List.isEmpty_cons, Bool.false_eq_true, if_false, hjoined]
  rw [blockEvent?, hpayload]
  exact Event.decode?_compact h

/-- What a sender puts into one block: an event, with lines before and after that add nothing to it, or lines
of any other kind. -/
inductive Frame where
  | event (before : List (List Char)) (e : Event) (after : List (List Char))
  | other (lines : List (List Char))

namespace Frame

def lines : Frame → List (List Char)
  | .event before e after => before ++ dataLine e :: after
  | .other lines => lines

def event? : Frame → Option Event
  | .event _ e _ => some e
  | .other _ => none

/-- The frame is what it says it is: no other event is in it. -/
inductive Sound : Frame → Prop
  | event {before after : List (List Char)} {e : Event} : e.Fits →
      (∀ line ∈ before, IsLine line ∧ IsIdle line) → (∀ line ∈ after, IsLine line ∧ IsIdle line) →
      Sound (.event before e after)
  | other {lines : List (List Char)} : (∀ line ∈ lines, IsLine line) → blockEvent? lines = none →
      Sound (.other lines)

theorem Sound.isLine {f : Frame} (h : f.Sound) : ∀ line ∈ f.lines, IsLine line := by
  cases h with
  | event hfits hbefore hafter =>
    intro line hline
    rcases List.mem_append.mp hline with hline | hline
    · exact (hbefore line hline).1
    · rcases List.mem_cons.mp hline with rfl | hline
      · exact isLine_dataLine hfits
      · exact (hafter line hline).1
  | other hlines _ => exact hlines

theorem Sound.blockEvent? {f : Frame} (h : f.Sound) : blockEvent? f.lines = f.event? := by
  cases h with
  | event hfits hbefore hafter =>
    exact blockEvent?_of_event hfits (fun l hl => (hbefore l hl).2) fun l hl => (hafter l hl).2
  | other _ hevent => exact hevent

end Frame

/-- The events of a stream are those of its frames, and then those of what comes behind them. -/
theorem events_frames {frames : List Frame} (h : ∀ f ∈ frames, f.Sound) (rest : List UInt8) :
    (payloads (blockBytes (frames.map Frame.lines) ++ rest)).filterMap Event.decode? =
      frames.filterMap Frame.event? ++ (payloads rest).filterMap Event.decode? := by
  have hlines : ∀ block ∈ frames.map Frame.lines, ∀ line ∈ block, IsLine line := by
    intro block hblock
    obtain ⟨f, hf, rfl⟩ := List.mem_map.mp hblock
    exact (h f hf).isLine
  rw [payloads_blockBytes hlines, List.filterMap_append, List.filterMap_filterMap, List.filterMap_map]
  exact congrArg (· ++ _) (List.filterMap_congr fun f hf => (h f hf).blockEvent?)

/-! ## Chunks

The payloads that are ready behind each chunk come one after the other, with
whatever silences the reader has between them; all together they are those of
the bytes. -/

theorem itemsFrom_chunks (r : Reader) (chunks : List (List UInt8)) (rest : List Chunk) :
    itemsFrom r (chunks.map Chunk.bytes ++ rest) =
      (r.feed chunks.flatten).2.map Item.payload ++ itemsFrom (r.feed chunks.flatten).1 rest := by
  induction chunks generalizing r with
  | nil => rfl
  | cons chunk chunks ih =>
    simp only [List.map_cons, List.cons_append, itemsFrom, ih, List.flatten_cons, Reader.feed_append,
      List.map_append, List.append_assoc]

end EventStream

/-- The items of a body are the events among the payloads of its bytes, and a failure if it breaks off. -/
theorem streamItems_eq (r : Http.Reply) :
    streamItems r =
      ((EventStream.payloads r.chunks.flatten).filterMap Event.decode?).map Item.event ++
        if r.complete then [] else [.failure .http] := by
  have hpayloads : (EventStream.Reader.feed {} r.chunks.flatten).2 =
      EventStream.payloads r.chunks.flatten :=
    EventStream.Reader.feed_of_holds EventStream.Reader.holds_nothing r.chunks.flatten
  have hevents (texts : List String) : (texts.map EventStream.Item.payload).filterMap Item.ofStream? =
      (texts.filterMap Event.decode?).map Item.event := by
    rw [List.filterMap_map, List.map_filterMap]
    rfl
  unfold streamItems streamChunks EventStream.items
  rw [EventStream.itemsFrom_chunks, List.filterMap_append, hpayloads, hevents]
  cases r.complete <;> rfl

end ScanConsole
