import ScanConsole.Plugin.Json
import ScanConsole.Proofs.Messages
import ScanConsole.Resource.Json

/-!
# What was decoded is decoded again

A decoder forgives much: other names of a field, missing fields, numbers for
texts, rows in one string. What it makes of a text is written in one form only,
and that form is decoded to the same value. So decoding is a projection on the
texts that it accepts (`decoding_undoes_writing`):

    decode? text = some a → decode? (write a).compact = some a

The text may be any text: nothing is assumed of where it comes from. The theorem
is about texts that are decoded, and says nothing of those that are not. That it
is not empty is shown on a plugin with a number for its identifier.

## Ranges

Reading back what is written needs numbers in their range, which the types of
the model do not ask for: a port is a natural number here and two bytes in a
message. `Again` ties the range to the decoder: what the decoder gives is in
range, and what is in range is read back. So the range is no assumption of the
theorem, but something that the decoder has checked.

## Identifiers

A plugin is known by a text. Where a number of 64 bits stands in its place, it
stands for its decimal text: the document with the number and that with the text
(`Plugin.SpelledAs`) are decoded alike. The number may be the identifier of an
object, in any place among its fields, or the first member of an array.
-/

namespace ScanConsole

open Json (Decoder Document Number Value)

namespace Json

/-- Values that `decode` gives are in range, and those in range are read back as they are written. -/
structure Again {α : Type} (decode : Decoder α) (write : α → Value) (InRange : α → Prop) : Prop where
  inRange : ∀ {room d a}, decode room d = some a → InRange a
  isWhole : ∀ {a}, InRange a → (write a).isWhole = true
  document : ∀ {a}, InRange a → decode nestingLimit (write a).document = some a

theorem Again.decode? {α : Type} {decode : Decoder α} {write : α → Value} {InRange : α → Prop}
    (again : Again decode write InRange) {text : String} {a : α}
    (h : decode? decode text = some a) : Json.decode? decode (write a).compact = some a := by
  obtain ⟨d, -, hd⟩ := Option.bind_eq_some_iff.mp h
  have hrange := again.inRange hd
  rw [decode?_compact decode (again.isWhole hrange)]
  exact again.document hrange

theorem Decoder.le_of_wholeUpTo {most room n : Nat} {d : Document}
    (h : wholeUpTo most room d = some n) : n ≤ most := by
  unfold wholeUpTo at h
  split at h
  · next m =>
    obtain ⟨hm, hmn⟩ := Option.ite_none_right_eq_some.mp h
    exact Option.some.inj hmn ▸ hm
  · cases h

end Json

/-! ## Events and screens

The number of a screen is in range because the decoder refuses a larger one. -/

theorem Event.le_of_ofKind? {kind : String} {room screen : Nat} {d : Document} {commands : List String}
    (h : ofKind? kind room d = some (.commandStart screen commands)) :
    screen ≤ Json.Literal.wordLimit - 1 := by
  -- only events of one kind have a number
  have hother {α : Type} {f : α → Event} {o : Option α} (hf : ∀ a, f a ≠ .commandStart screen commands) :
      o.map f ≠ some (.commandStart screen commands) := by
    intro heq
    obtain ⟨a, -, ha⟩ := Option.map_eq_some_iff.mp heq
    exact hf a ha
  unfold ofKind? at h
  split at h
  · split at h
    · exact absurd h (hother (fun _ heq => by cases heq))
    · cases h
  split at h
  · split at h
    · exact absurd h (hother (fun _ heq => by cases heq))
    · cases h
  split at h
  · split at h
    · next room screen? commands? _ =>
      obtain ⟨n, hn, h⟩ := Option.bind_eq_some_iff.mp h
      obtain ⟨cs, -, h⟩ := Option.bind_eq_some_iff.mp h
      obtain ⟨rfl, rfl⟩ := Event.commandStart.inj (Option.some.inj h)
      obtain ⟨d, -, hd⟩ := Option.bind_eq_some_iff.mp hn
      exact Decoder.le_of_wholeUpTo hd
    · cases h
  iterate 3
    split at h
    · split at h
      · exact absurd h (hother (fun _ heq => by cases heq))
      · cases h
  cases h

theorem Event.again : Json.Again decoder toJson Fits where
  inRange := by
    intro room d e h screen commands he
    subst he
    unfold decoder at h
    split at h
    · exact Nat.lt_of_le_pred (by decide) (le_of_ofKind? h)
    · cases h
  isWhole := isWhole_toJson
  document := decoder_toJson 122

theorem Screen.again : Json.Again decoder toJson fun _ => True where
  inRange _ := trivial
  isWhole := by
    intro s _
    simp [toJson, Value.isWhole, Value.fieldsWhole, isWhole_contentJson]
  document := by
    intro s _
    exact decoder_toJson 124 s

/-! ## Plugins and resources

The score of a resource is read in one byte, and a port in two. -/

theorem Plugin.decoder_toJson (room : Nat) (p : Plugin) :
    decoder (room + 1) p.toJson.document = some p := by
  have hsnippet : Decoder.optional Decoder.string room
      (some (Value.ofOption Value.string p.snippet).document) = some p.snippet :=
    Decoder.optional_document (fun _ h => by cases h) (fun _ => rfl) p.snippet
  show (Decoder.optional Decoder.string room
    (some (Value.ofOption Value.string p.snippet).document)).bind
      (fun snippet => some (⟨⟨p.id.text⟩, p.name, p.body, snippet⟩ : Plugin)) = _
  rw [hsnippet]
  rfl

theorem Plugin.again : Json.Again decoder toJson fun _ => True where
  inRange _ := trivial
  isWhole := by
    intro p _
    cases hsnippet : p.snippet <;>
      simp [toJson, PluginId.toJson, hsnippet, Value.ofOption, Value.isWhole, Value.fieldsWhole]
  document := by
    intro p _
    exact decoder_toJson 126 p

/-- The port fits into two bytes and the score into one. -/
def Resource.Fits (r : Resource) : Prop :=
  (∀ port ∈ r.port, port ≤ 65535) ∧ r.compliance.percent ≤ 255

theorem Compliance.percent_le_of_decoder {room : Nat} {d : Document} {c : Compliance}
    (h : decoder room d = some c) : c.percent ≤ 255 := by
  unfold decoder Decoder.tagged at h
  split at h
  · obtain ⟨decode, hdecode, h⟩ := Option.bind_eq_some_iff.mp h
    obtain ⟨-, hdecode⟩ := Option.ite_none_right_eq_some.mp hdecode
    obtain rfl := Option.some.inj hdecode
    obtain ⟨p, hp, rfl⟩ := Option.map_eq_some_iff.mp h
    exact Decoder.le_of_wholeUpTo hp
  · cases h

theorem Resource.port_le_of_optional {room : Nat} {d : Option Document} {port? : Option Nat}
    (h : Decoder.optional portDecoder room d = some port?) : ∀ port ∈ port?, port ≤ 65535 := by
  rintro port rfl
  unfold Decoder.optional Decoder.defaulted at h
  split at h
  · cases h
  · unfold Decoder.nullable at h
    split at h
    · cases h
    · obtain ⟨p, hp, heq⟩ := Option.map_eq_some_iff.mp h
      exact Option.some.inj heq ▸ Decoder.le_of_wholeUpTo hp

theorem Resource.fits_of_decoder {room : Nat} {d : Document} {r : Resource}
    (h : decoder room d = some r) : r.Fits := by
  unfold decoder at h
  split at h
  · obtain ⟨address, -, h⟩ := Option.bind_eq_some_iff.mp h
    obtain ⟨hostname, -, h⟩ := Option.bind_eq_some_iff.mp h
    obtain ⟨port, hport, h⟩ := Option.bind_eq_some_iff.mp h
    obtain ⟨status, -, h⟩ := Option.bind_eq_some_iff.mp h
    obtain ⟨compliance, hcompliance, h⟩ := Option.bind_eq_some_iff.mp h
    obtain rfl := Option.some.inj h
    obtain ⟨d, -, hd⟩ := Option.bind_eq_some_iff.mp hcompliance
    exact ⟨port_le_of_optional hport, Compliance.percent_le_of_decoder hd⟩
  · cases h

theorem Resource.decoder_toJson (room : Nat) {r : Resource} (h : r.Fits) :
    decoder (room + 2) r.toJson.document = some r := by
  obtain ⟨address, hostname, port, status, ⟨percent⟩⟩ := r
  obtain ⟨hport, hpercent⟩ := h
  have hport : Decoder.optional portDecoder (room + 1) (some (Value.ofOption .ofNat port).document) =
      some port := by
    cases port with
    | none => rfl
    | some n => exact congrArg (Option.map some) (if_pos (hport n rfl))
  have hstatus : Decoder.optional Decoder.string (room + 1)
      (some (Value.ofOption .string status).document) = some status :=
    Decoder.optional_document (fun _ h => by cases h) (fun _ => rfl) status
  have hscore : Decoder.required Compliance.decoder (room + 1)
      (some (Compliance.synthetic percent).toJson.document) = some (.synthetic percent) :=
    congrArg (Option.map Compliance.synthetic) (if_pos hpercent)
  show (do
    let port ← Decoder.optional portDecoder (room + 1) (some (Value.ofOption .ofNat port).document)
    let status ← Decoder.optional Decoder.string (room + 1)
      (some (Value.ofOption .string status).document)
    let score ← Decoder.required Compliance.decoder (room + 1)
      (some (Compliance.synthetic percent).toJson.document)
    some (⟨address, hostname, port, status, score⟩ : Resource)) = _
  rw [hport, hstatus, hscore]
  rfl

theorem Resource.isWhole_toJson {r : Resource} (h : r.Fits) : r.toJson.isWhole = true := by
  obtain ⟨address, hostname, port, status, ⟨percent⟩⟩ := r
  obtain ⟨hport, hpercent⟩ := h
  have hword {n : Nat} (hn : n ≤ 65535) : (Value.ofNat n).isWhole = true :=
    decide_eq_true (Nat.lt_of_le_of_lt hn (by decide))
  have hports : (Value.ofOption .ofNat port).isWhole = true := by
    cases port with
    | none => rfl
    | some n => exact hword (hport n rfl)
  have hstatus : (Value.ofOption Value.string status).isWhole = true := by cases status <;> rfl
  have hscore : (Value.ofNat percent).isWhole = true := hword (Nat.le_trans hpercent (by decide))
  simp [toJson, Compliance.toJson, Value.isWhole, Value.fieldsWhole, hports, hstatus, hscore]

theorem Resource.again : Json.Again decoder toJson Fits where
  inRange := fits_of_decoder
  isWhole := isWhole_toJson
  document := decoder_toJson 125

/-! ## Identifiers that are numbers

What a decoder gathers from the fields goes from front to back, and what is
gathered behind a field does not depend on what that field is, only on which
name is taken. -/

/-- A number of 64 bits with sign, as it is read. -/
def Json.Number.ofInt64 (n : Int64) : Number :=
  if n.toInt < 0 then .minus n.toInt.natAbs else .whole n.toInt.natAbs

namespace Json

theorem Number.text_ofInt64 (n : Int64) : (Number.ofInt64 n).text = toString n.toInt := by
  unfold ofInt64
  cases n.toInt with
  | ofNat m =>
    have hm : ¬Int.ofNat m < 0 := Int.not_lt.mpr (Int.natCast_nonneg m)
    rw [if_neg hm]
    rfl
  | negSucc m =>
    rw [if_pos (Int.negSucc_lt_zero m)]
    rfl

theorem Number.isWord_ofInt64 (n : Int64) : (Number.ofInt64 n).isWord = true := by
  have hlow := n.le_toInt
  have hhigh := n.toInt_lt
  have hlimit : Literal.wordLimit = 18446744073709551616 := rfl
  have hhalf : Nat.pow 2 63 = 9223372036854775808 := rfl
  unfold ofInt64
  split
  · simp only [isWord, Bool.and_eq_true, bne_iff_ne, decide_eq_true_eq]
    omega
  · simp only [isWord, decide_eq_true_eq]
    omega

/-- The decimal text of a number is read as that number. -/
theorem Document.read?_int64 (n : Int64) :
    Document.read? (toString n.toInt) = some (.number (some (.ofInt64 n))) := by
  have htext : (Value.number (.ofInt64 n)).compact = toString n.toInt := by
    rw [← Number.text_ofInt64]
    exact String.ofList_toList
  rw [← htext]
  exact Document.read?_compact _ (Number.isWord_ofInt64 n)

theorem Decoder.gather_behind (names : List (List String)) (found : List (Option Document))
    (fs : List (Option String × Document)) :
    ∃ r : Option (List (Option Document)), ∀ d,
      gather names (some d :: found) fs = r.map (some d :: ·) := by
  induction fs generalizing found with
  | nil => exact ⟨some found, fun _ => rfl⟩
  | cons f fs ih =>
    obtain ⟨_ | name, value⟩ := f
    · exact ⟨none, fun _ => rfl⟩
    · simp only [gather]
      cases place? names name with
      | none => exact ih found
      | some i =>
        cases i with
        | zero => exact ⟨none, fun _ => rfl⟩
        | succ i =>
          simp only [List.getElem?_cons_succ, List.set_cons_succ]
          split
          · exact ih (found.set i (some value))
          · exact ⟨none, fun _ => rfl⟩

theorem Decoder.gather_append (names : List (List String)) (found : List (Option Document))
    (fs fs' : List (Option String × Document)) :
    gather names found (fs ++ fs') = (gather names found fs).bind fun found => gather names found fs' := by
  induction fs generalizing found with
  | nil => rfl
  | cons f fs ih =>
    obtain ⟨_ | name, value⟩ := f
    · rfl
    · simp only [List.cons_append, gather]
      split
      · exact ih found
      · split
        · exact ih _
        · rfl

end Json

/-- Two documents of a plugin that differ in the identifier only: the number in one stands as its decimal
text in the other. -/
inductive Plugin.SpelledAs (n : Int64) : Document → Document → Prop
  | object (before after : List (Option String × Document)) :
    SpelledAs n
      (.object (before ++ (some "id", .number (some (.ofInt64 n))) :: after))
      (.object (before ++ (some "id", .string (some (toString n.toInt))) :: after))
  | array (rest : List Document) :
    SpelledAs n
      (.array (.number (some (.ofInt64 n)) :: rest))
      (.array (.string (some (toString n.toInt)) :: rest))

theorem PluginId.decoder_number (room : Nat) (n : Int64) :
    PluginId.decoder room (.number (some (.ofInt64 n))) = some ⟨toString n.toInt⟩ := by
  have hhigh := n.toInt_lt
  have hhalf : Nat.pow 2 63 = 9223372036854775808 := rfl
  rw [← Number.text_ofInt64]
  unfold Number.ofInt64
  split
  · rfl
  · refine if_pos ?_
    rw [hhalf]
    omega

/-- The known fields of a plugin. -/
abbrev Plugin.fieldNames : List (List String) := [["id"], ["name"], ["roleConfig"], ["snippet"]]

theorem Plugin.fields_of_spelledAs {n : Int64} {d d' : Document} (h : SpelledAs n d d') (room : Nat) :
    ∃ r : Option (Nat × List (Option Document)),
      Decoder.fields fieldNames room d =
        r.map (fun f => (f.1, some (.number (some (.ofInt64 n))) :: f.2)) ∧
      Decoder.fields fieldNames room d' =
        r.map (fun f => (f.1, some (.string (some (toString n.toInt))) :: f.2)) := by
  cases room with
  | zero => cases h <;> exact ⟨none, rfl, rfl⟩
  | succ room =>
    cases h with
    | object before after =>
      have hgather : ∃ r : Option (List (Option Document)), ∀ d,
          Decoder.gather fieldNames (fieldNames.map fun _ => none) (before ++ (some "id", d) :: after) =
            r.map (some d :: ·) := by
        simp only [Decoder.gather_append]
        cases Decoder.gather fieldNames (fieldNames.map fun _ => none) before with
        | none => exact ⟨none, fun _ => rfl⟩
        | some found =>
          match found with
          | [] => exact ⟨none, fun _ => rfl⟩
          | some _ :: found => exact ⟨none, fun _ => rfl⟩
          | none :: found => exact Decoder.gather_behind fieldNames found after
      obtain ⟨r, hr⟩ := hgather
      refine ⟨r.map fun f => (room, f), ?_, ?_⟩
      · show (Decoder.gather _ _ _).map _ = _
        rw [hr, Option.map_map, Option.map_map]
        rfl
      · show (Decoder.gather _ _ _).map _ = _
        rw [hr, Option.map_map, Option.map_map]
        rfl
    | array rest =>
      have hfields (d : Document) : Decoder.fields fieldNames (room + 1) (.array (d :: rest)) =
          if rest.length + 1 ≤ fieldNames.length then
            some (room, some d ::
              (rest.map some ++ List.replicate (fieldNames.length - (rest.length + 1)) none))
          else none := rfl
      rw [hfields, hfields]
      split
      · exact ⟨some (room, _), rfl, rfl⟩
      · exact ⟨none, rfl, rfl⟩

/-- A plugin whose identifier is a number is the one whose identifier is its decimal text. -/
theorem Plugin.decoder_of_spelledAs {n : Int64} {d d' : Document} (h : SpelledAs n d d') (room : Nat) :
    decoder room d = decoder room d' := by
  obtain ⟨r, hr, hr'⟩ := fields_of_spelledAs h room
  have hid (room : Nat) :
      Decoder.optional PluginId.decoder room (some (.number (some (.ofInt64 n)))) =
        Decoder.optional PluginId.decoder room (some (.string (some (toString n.toInt)))) :=
    congrArg (Option.map some) (PluginId.decoder_number room n)
  unfold decoder
  rw [hr, hr']
  match r with
  | none => rfl
  | some (room, [name, body, snippet]) => simp only [Option.map_some, hid]
  | some (_, []) => rfl
  | some (_, [_]) => rfl
  | some (_, [_, _]) => rfl
  | some (_, _ :: _ :: _ :: _ :: _) => rfl

/-- What is decoded is written and decoded to itself, for events, screens, plugins and resources; and a
plugin whose identifier is a number of 64 bits is decoded like the one whose identifier is the decimal text
of that number. -/
theorem decoding_undoes_writing :
    (∀ text e, Event.decode? text = some e → Event.decode? e.toJson.compact = some e) ∧
    (∀ text s, Json.decode? Screen.decoder text = some s →
      Json.decode? Screen.decoder s.toJson.compact = some s) ∧
    (∀ text p, Json.decode? Plugin.decoder text = some p →
      Json.decode? Plugin.decoder p.toJson.compact = some p) ∧
    (∀ text r, Json.decode? Resource.decoder text = some r →
      Json.decode? Resource.decoder r.toJson.compact = some r) ∧
    ∀ n : Int64,
      Document.read? (toString n.toInt) = some (.number (some (.ofInt64 n))) ∧
      ∀ text text' d d', Document.read? text = some d → Document.read? text' = some d' →
        Plugin.SpelledAs n d d' →
        Json.decode? Plugin.decoder text = Json.decode? Plugin.decoder text' := by
  refine ⟨?_, ?_, ?_, ?_, fun n => ⟨Document.read?_int64 n, ?_⟩⟩
  · intro text e h
    exact Event.again.decode? h
  · intro text s h
    exact Screen.again.decode? h
  · intro text p h
    exact Plugin.again.decode? h
  · intro text r h
    exact Resource.again.decode? h
  · intro text text' d d' hd hd' hspelled
    unfold Json.decode?
    rw [hd, hd']
    exact Plugin.decoder_of_spelledAs hspelled _

/-- A plugin whose identifier is a number is decoded, and so is what is written for it. -/
theorem decoding_undoes_writing_numbered :
    let p : Plugin := ⟨⟨"7"⟩, "disk", "echo", none⟩
    Json.decode? Plugin.decoder "\x7b\"id\":7,\"name\":\"disk\",\"roleConfig\":\"echo\"\x7d" = some p ∧
      Json.decode? Plugin.decoder p.toJson.compact = some p := by
  intro p
  have hread : Json.decode? Plugin.decoder
      "\x7b\"id\":7,\"name\":\"disk\",\"roleConfig\":\"echo\"\x7d" = some p := by
    decide +kernel
  exact ⟨hread, decoding_undoes_writing.2.2.1 _ p hread⟩

end ScanConsole
