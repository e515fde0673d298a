import ScanConsole.Backend.Transports
import ScanConsole.Proofs.JsonRoundTrip

/-!
# Messages that are written are decoded

What the console makes of the text of an event, of a screen or of a whole reply
is that event, screen or reply:

    e.Fits → Event.decode? e.toJson.compact = some e

With `Document.read?_compact` the text is out of the way: a value that is
written is read back as its document. What is left is a matter of documents, and
goes along the fields of the records.

A decoder is given the room that it has for nesting. A document is decoded in
any room that is large enough, so each theorem says how much more than its parts
a record takes (`room + 3` for a screen, `room + 5` for an event or a reply),
and the limit of the reader leaves plenty. Depths are bounded for the same
reason: the reader refuses a text that is nested too deep.

Numbers are the only fields that the types let grow out of range. The number of
a screen is written in any size and read in 64 bits (`Event.Fits`).
-/

namespace ScanConsole

open Json (Decoder Document Value)

namespace Json

/-! ## Lists

The members are decoded in the room that is left within the list. An optional
part is written as null where it is missing, and null is no part. -/

theorem Value.itemDocuments_eq (items : List Value) :
    Value.itemDocuments items = items.map Value.document := by
  induction items with
  | nil => rfl
  | cons v items ih => rw [itemDocuments, List.map_cons, ih]

theorem mapM_map_of_forall {α β : Type} {f : α → β} {g : β → Option α} {xs : List α}
    (h : ∀ x ∈ xs, g (f x) = some x) : (xs.map f).mapM g = some xs := by
  induction xs with
  | nil => rfl
  | cons x xs ih =>
    have hx := h x List.mem_cons_self
    have hxs := ih fun y hy => h y (List.mem_cons_of_mem _ hy)
    simp [hx, hxs]

theorem Decoder.list_document {α : Type} {decode : Decoder α} {write : α → Value} {room : Nat}
    {xs : List α} (h : ∀ x ∈ xs, decode room (write x).document = some x) :
    Decoder.list decode (room + 1) (Value.array (xs.map write)).document = some xs := by
  show (Value.itemDocuments (xs.map write)).mapM (decode room) = some xs
  rw [Value.itemDocuments_eq, List.map_map]
  exact mapM_map_of_forall h

theorem Decoder.list_strings (room : Nat) (texts : List String) :
    Decoder.list Decoder.string (room + 1) (Value.ofStrings texts).document = some texts :=
  Decoder.list_document fun _ _ => rfl

theorem Decoder.optional_document {α : Type} {decode : Decoder α} {write : α → Value} {room : Nat}
    (hnull : ∀ a, (write a).document ≠ .null) (h : ∀ a, decode room (write a).document = some a)
    (o : Option α) :
    Decoder.optional decode room (some (Value.ofOption write o).document) = some o := by
  cases o with
  | none => rfl
  | some a =>
    show Decoder.nullable decode room (write a).document = _
    unfold Decoder.nullable
    split
    · next hdoc => exact absurd hdoc (hnull a)
    · rw [h a]
      rfl

theorem Decoder.list_values {room : Nat} {vs : List Value}
    (h : ∀ v ∈ vs, v.document.value? room = some v) :
    Decoder.list Decoder.value (room + 1) (Value.array vs).document = some vs := by
  have hlist : Decoder.list Decoder.value (room + 1) (Value.array (vs.map id)).document = some vs :=
    Decoder.list_document h
  rwa [List.map_id] at hlist

theorem Value.value?_ofStrings (room : Nat) (texts : List String) :
    (Value.ofStrings texts).document.value? (room + 1) = some (Value.ofStrings texts) := by
  have hitems : Document.itemValues? room (itemDocuments (texts.map Value.string)) =
      some (texts.map Value.string) := by
    induction texts with
    | nil => rfl
    | cons t texts ih => simp [itemDocuments, document, Document.itemValues?, Document.value?, ih]
  show (Document.itemValues? room (itemDocuments (texts.map Value.string))).map Value.array = _
  rw [hitems]
  rfl

theorem Value.isWhole_ofStrings (texts : List String) : (Value.ofStrings texts).isWhole = true := by
  refine itemsWhole_of_forall fun v hv => ?_
  obtain ⟨t, -, rfl⟩ := List.mem_map.mp hv
  rfl

theorem Value.depth_ofStrings (texts : List String) : (Value.ofStrings texts).depth ≤ 1 := by
  refine Nat.succ_le_succ (itemsDepth_le_of_forall fun v hv => ?_)
  obtain ⟨t, -, rfl⟩ := List.mem_map.mp hv
  exact Nat.le_refl 0

theorem decode?_compact {α : Type} (decode : Decoder α) {v : Value} (h : v.isWhole = true) :
    decode? decode v.compact = decode nestingLimit v.document := by
  rw [decode?, Document.read?_compact v h]
  rfl

end Json

/-! ## Screens

The content of a screen is lines or a table, and a field beside it says which.
The items are decoded as any values, and made lines or rows afterwards. -/

namespace Screen

theorem map_cellText (texts : List String) : (texts.map Value.string).map cellText = texts := by
  rw [List.map_map]
  exact List.map_id texts

theorem content_of_items (room : Nat) (c : ScreenContent) :
    ∃ items, Decoder.list Decoder.value (room + 2) (contentJson c).document = some items ∧
      contentOf c.isTable items = c := by
  cases c with
  | lines lines =>
    refine ⟨lines.map Value.string, Decoder.list_values fun v hv => ?_, ?_⟩
    · obtain ⟨line, -, rfl⟩ := List.mem_map.mp hv
      rfl
    · show ScreenContent.lines ((lines.map Value.string).map line) = _
      rw [List.map_map]
      exact congrArg ScreenContent.lines (List.map_id lines)
  | table rows =>
    refine ⟨rows.map Value.ofStrings, Decoder.list_values fun v hv => ?_, ?_⟩
    · obtain ⟨cells, -, rfl⟩ := List.mem_map.mp hv
      exact Value.value?_ofStrings room cells
    · show ScreenContent.table ((rows.map Value.ofStrings).map row) = _
      have hrow : row ∘ Value.ofStrings = id := funext map_cellText
      rw [List.map_map, hrow, List.map_id]

theorem decoder_toJson (room : Nat) (s : Screen) : decoder (room + 3) s.toJson.document = some s := by
  obtain ⟨name, content⟩ := s
  obtain ⟨items, hitems, hcontent⟩ := content_of_items room content
  have hfields : Decoder.fields [["screen_name"], ["is_table"], ["content"]] (room + 3)
      (toJson ⟨name, content⟩).document =
        some (room + 2, [some (.string (some name)), some (.boolean content.isTable),
          some (contentJson content).document]) := rfl
  have hname : Decoder.defaulted "" Decoder.string (room + 2) (some (.string (some name))) =
      some name := rfl
  have htable : Decoder.defaulted false Decoder.boolean (room + 2) (some (.boolean content.isTable)) =
      some content.isTable := rfl
  have hcontents : Decoder.defaulted [] (Decoder.list Decoder.value) (room + 2)
      (some (contentJson content).document) = some items := hitems
  simp [decoder, hfields, hname, htable, hcontents, hcontent]

theorem list_decoder_toJson (room : Nat) (screens : List Screen) :
    Decoder.list decoder (room + 4) (Value.array (screens.map toJson)).document = some screens :=
  Decoder.list_document fun s _ => decoder_toJson room s

theorem isWhole_contentJson (c : ScreenContent) : (contentJson c).isWhole = true := by
  cases c with
  | lines lines => exact Value.isWhole_ofStrings lines
  | table rows =>
    refine Value.itemsWhole_of_forall fun v hv => ?_
    obtain ⟨cells, -, rfl⟩ := List.mem_map.mp hv
    exact Value.isWhole_ofStrings cells

theorem depth_contentJson (c : ScreenContent) : (contentJson c).depth ≤ 2 := by
  cases c with
  | lines lines => exact Nat.le_succ_of_le (Value.depth_ofStrings lines)
  | table rows =>
    refine Nat.succ_le_succ (Value.itemsDepth_le_of_forall fun v hv => ?_)
    obtain ⟨cells, -, rfl⟩ := List.mem_map.mp hv
    exact Value.depth_ofStrings cells

theorem isWhole_screens (screens : List Screen) :
    (Value.array (screens.map toJson)).isWhole = true := by
  refine Value.itemsWhole_of_forall fun v hv => ?_
  obtain ⟨s, -, rfl⟩ := List.mem_map.mp hv
  simp [toJson, Value.isWhole, Value.fieldsWhole, isWhole_contentJson]

theorem depth_screens (screens : List Screen) : (Value.array (screens.map toJson)).depth ≤ 4 := by
  refine Nat.succ_le_succ (Value.itemsDepth_le_of_forall fun v hv => ?_)
  obtain ⟨s, -, rfl⟩ := List.mem_map.mp hv
  have hcontent := depth_contentJson s.content
  show max 0 (max 0 (max (contentJson s.content).depth 0)) + 1 ≤ 3
  omega

end Screen

/-! ## Events

The kind of an event stands among its fields, and the decoder of this kind gets
those that are left. The whole document has to mean a value first. -/

namespace Event

/-- The number of a screen in the event fits into 64 bits. -/
def Fits (e : Event) : Prop :=
  ∀ screen commands, e = .commandStart screen commands → screen < Json.Literal.wordLimit

theorem isWhole_toJson {e : Event} (h : e.Fits) : e.toJson.isWhole = true := by
  cases e with
  | commandStart screen commands =>
    have hscreen : (Value.ofNat screen).isWhole = true := decide_eq_true (h screen commands rfl)
    show (true && ((Value.ofNat screen).isWhole && ((Value.ofStrings commands).isWhole && true))) = true
    rw [hscreen, Value.isWhole_ofStrings]
    rfl
  | complete results =>
    show (true && ((Value.array (results.map Screen.toJson)).isWhole && true)) = true
    rw [Screen.isWhole_screens]
    rfl
  | _ => rfl

theorem depth_toJson (e : Event) : e.toJson.depth ≤ 5 := by
  cases e with
  | commandStart screen commands =>
    have hcommands := Value.depth_ofStrings commands
    show max 0 (max 0 (max (Value.ofStrings commands).depth 0)) + 1 ≤ 5
    omega
  | complete results =>
    have hresults := Screen.depth_screens results
    show max 0 (max (Value.array (results.map Screen.toJson)).depth 0) + 1 ≤ 5
    omega
  | _ =>
    show max 0 (max 0 0) + 1 ≤ 5
    decide

/-- An event is decoded as it is written. -/
theorem decoder_toJson (room : Nat) {e : Event} (h : e.Fits) :
    decoder (room + 5) e.toJson.document = some e := by
  obtain ⟨v, hv⟩ := Option.isSome_iff_exists.mp
    (Value.isSome_value?_document e.toJson (room + 5) (Nat.le_add_left_of_le (depth_toJson e)))
  have hdecoder (kind : String) (rest : Document) (hkind : kind? e.toJson.document = some (kind, rest)) :
      decoder (room + 5) e.toJson.document = ofKind? kind (room + 5) rest := by
    simp only [decoder, hv, hkind]
  cases e with
  | commandStart screen commands =>
    have hscreen : Decoder.required Decoder.word64 (room + 4) (some (.number (some (.whole screen)))) =
        some screen := if_pos (Nat.le_pred_of_lt (h screen commands rfl))
    have hcommands : Decoder.defaulted [] (Decoder.list Decoder.string) (room + 4)
        (some (Value.ofStrings commands).document) = some commands :=
      Decoder.list_strings (room + 3) commands
    rw [hdecoder _ _ rfl]
    show (do
      let screen ← Decoder.required Decoder.word64 (room + 4) (some (.number (some (.whole screen))))
      let commands ← Decoder.defaulted [] (Decoder.list Decoder.string) (room + 4)
        (some (Value.ofStrings commands).document)
      some (commandStart screen commands)) = _
    rw [hscreen, hcommands]
    rfl
  | complete results =>
    have hresults : Decoder.defaulted [] (Decoder.list Screen.decoder) (room + 4)
        (some (Value.array (results.map Screen.toJson)).document) = some results :=
      Screen.list_decoder_toJson room results
    rw [hdecoder _ _ rfl]
    show (Decoder.defaulted [] (Decoder.list Screen.decoder) (room + 4)
        (some (Value.array (results.map Screen.toJson)).document)).map complete = _
    rw [hresults]
    rfl
  | _ => exact hdecoder _ _ rfl

/-- The text of an event is decoded to that event. -/
theorem decode?_compact {e : Event} (h : e.Fits) : decode? e.toJson.compact = some e :=
  (Json.decode?_compact decoder (isWhole_toJson h)).trans (decoder_toJson 122 h)

end Event

/-! ## Whole replies

All fields are written, also those that are missing. -/

namespace WholeReply

def resultsJson (screens : List Screen) : Value := .array (screens.map Screen.toJson)

/-- A reply with everything, as it is written. -/
def toJson (r : WholeReply) : Value :=
  .object [("scan_results", .ofOption resultsJson r.results), ("logs", .ofStrings r.logs),
    ("error", .ofOption .string r.error)]

theorem isWhole_toJson (r : WholeReply) : r.toJson.isWhole = true := by
  have hresults : (Value.ofOption resultsJson r.results).isWhole = true := by
    cases r.results with
    | none => rfl
    | some screens => exact Screen.isWhole_screens screens
  have herror : (Value.ofOption Value.string r.error).isWhole = true := by cases r.error <;> rfl
  show ((Value.ofOption resultsJson r.results).isWhole && ((Value.ofStrings r.logs).isWhole &&
    ((Value.ofOption Value.string r.error).isWhole && true))) = true
  rw [hresults, herror, Value.isWhole_ofStrings]
  rfl

/-- A reply is decoded as it is written. -/
theorem decoder_toJson (room : Nat) (r : WholeReply) :
    decoder (room + 5) r.toJson.document = some r := by
  have hresults : Decoder.optional (Decoder.list Screen.decoder) (room + 4)
      (some (Value.ofOption resultsJson r.results).document) = some r.results :=
    Decoder.optional_document (fun _ h => by cases h) (Screen.list_decoder_toJson room) r.results
  have hlogs : Decoder.defaulted [] (Decoder.list Decoder.string) (room + 4)
      (some (Value.ofStrings r.logs).document) = some r.logs := Decoder.list_strings (room + 3) r.logs
  have herror : Decoder.optional Decoder.string (room + 4)
      (some (Value.ofOption Value.string r.error).document) = some r.error :=
    Decoder.optional_document (fun _ h => by cases h) (fun _ => rfl) r.error
  show (do
    let results ← Decoder.optional (Decoder.list Screen.decoder) (room + 4)
      (some (Value.ofOption resultsJson r.results).document)
    let logs ← Decoder.defaulted [] (Decoder.list Decoder.string) (room + 4)
      (some (Value.ofStrings r.logs).document)
    let error ← Decoder.optional Decoder.string (room + 4)
      (some (Value.ofOption Value.string r.error).document)
    some (⟨results, logs, error⟩ : WholeReply)) = _
  rw [hresults, hlogs, herror]
  rfl

/-- The text of a reply is decoded to that reply. -/
theorem decode?_compact (r : WholeReply) : Json.decode? decoder r.toJson.compact = some r :=
  (Json.decode?_compact decoder (isWhole_toJson r)).trans (decoder_toJson 122 r)

end WholeReply

end ScanConsole
