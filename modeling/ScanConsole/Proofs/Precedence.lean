import ScanConsole.Config.Load
import ScanConsole.Proofs.NormalForms
import ScanConsole.Proofs.Records
import ScanConsole.Proofs.Utf8

/-!
# What the configuration is made of

Each source of the configuration, the file and the settings, gives a layer: some
of the fields. The settings lie above the file, and what neither has is as
usual:

    load s = .ok c ↔ c = (settings.above file).complete and c can be used

where both sources can be read (`load_precedence`). So loading fails exactly if
the file or a setting cannot be read, or what comes of them cannot be used. A
configuration that was written to the file is loaded again.

## The two readings

The layer of the file is read off the document field by field (`Layer.IsOf`),
with no mention of the order in which the decoder goes through it. The decoder
agrees with it (`decoder_eq_some_iff`), and so the theorem does not repeat the
program: a field counts if it is there by its name, in an object, or in its
place, in an array.

The settings are put into the configuration one after the other, each checked
when its turn comes. As a layer they have no order (`put_settings`).

## What counts as absent

A file that cannot be found or is not well-formed text gives nothing, and
neither does a setting that is not set or not well-formed text. Everything else
that is there has to be read: a setting with an empty text is one that is set.

## What is written

Numbers of seconds are written in any size and read in 64 bits (`Config.Fits`).
What was loaded is in range, so it can be written and loaded again. The settings
stand above the file then too, and so none may be set.
-/

namespace ScanConsole

open Json (Decoder Document Value)

namespace Config

/-- What a source has for each field of a configuration. -/
structure Layer where
  baseUrl : Option String := none
  transport : Option TransportKind := none
  executionPath : Option String := none
  requestTimeout : Option Nat := none
  refreshCheck : Option Nat := none
  csrfCookieName : Option String := none
  csrfHeader : Option String := none

/-- The value is what the source is read as, and there is none if the source has nothing. -/
def Reads {α β : Type} (read? : α → Option β) (source : Option α) (value : Option β) : Prop :=
  source.map read? = value.map some

theorem reads_none {α β : Type} {read? : α → Option β} {value : Option β} :
    Reads read? none value ↔ value = none := by
  cases value <;> simp [Reads]

theorem reads_some {α β : Type} {read? : α → Option β} {a : α} {value : Option β} :
    Reads read? (some a) value ↔ ∃ b, read? a = some b ∧ value = some b := by
  cases value <;> simp [Reads]

/-- The names of the fields in the file. -/
def fieldNames : List String :=
  ["base_url", "transport", "execution_path", "request_timeout_secs", "refresh_check_secs",
    "csrf_cookie_name", "csrf_header"]

/-- The settings that stand for fields. -/
def overrides : List String :=
  ["ALLSAFE_BASE_URL", "ALLSAFE_TRANSPORT", "ALLSAFE_REQUEST_TIMEOUT_SECS", "ALLSAFE_REFRESH_CHECK_SECS"]

namespace Layer

/-- Two layers as one: each field as the upper layer has it, or else as the lower one. -/
def above (upper lower : Layer) : Layer where
  baseUrl := upper.baseUrl.or lower.baseUrl
  transport := upper.transport.or lower.transport
  executionPath := upper.executionPath.or lower.executionPath
  requestTimeout := upper.requestTimeout.or lower.requestTimeout
  refreshCheck := upper.refreshCheck.or lower.refreshCheck
  csrfCookieName := upper.csrfCookieName.or lower.csrfCookieName
  csrfHeader := upper.csrfHeader.or lower.csrfHeader

/-- The configuration with the fields that the layer has in place of its own. -/
def onto (l : Layer) (c : Config) : Config where
  baseUrl := l.baseUrl.getD c.baseUrl
  transport := l.transport.getD c.transport
  executionPath := l.executionPath.getD c.executionPath
  requestTimeout := l.requestTimeout.getD c.requestTimeout
  refreshCheck := l.refreshCheck.getD c.refreshCheck
  csrfCookieName := l.csrfCookieName.getD c.csrfCookieName
  csrfHeader := l.csrfHeader.getD c.csrfHeader

/-- The configuration of a layer, with the usual values for what it does not have. -/
def complete (l : Layer) : Config := l.onto {}

theorem complete_above (upper lower : Layer) : (upper.above lower).complete = upper.onto lower.complete := by
  simp only [complete, onto, above, Option.getD_or]

/-- The layer of a document, which has to be a record with fields that can be read. -/
structure IsOf (room : Nat) (d : Document) (l : Layer) : Prop where
  record : d.IsRecord fieldNames
  baseUrl : Reads (Decoder.string room) (d.part? fieldNames "base_url") l.baseUrl
  transport : Reads (TransportKind.decoder room) (d.part? fieldNames "transport") l.transport
  executionPath : Reads (Decoder.string room) (d.part? fieldNames "execution_path") l.executionPath
  requestTimeout : Reads (Decoder.word64 room) (d.part? fieldNames "request_timeout_secs") l.requestTimeout
  refreshCheck : Reads (Decoder.word64 room) (d.part? fieldNames "refresh_check_secs") l.refreshCheck
  csrfCookieName : Reads (Decoder.string room) (d.part? fieldNames "csrf_cookie_name") l.csrfCookieName
  csrfHeader : Reads (Decoder.string room) (d.part? fieldNames "csrf_header") l.csrfHeader

/-- The layer of the file, which has nothing if there is no file with well-formed text. The record takes one of the
levels of nesting itself. -/
def IsOfFile (s : Surroundings) (l : Layer) : Prop :=
  match s.file? (fileName s) with
  | none => l = {}
  | some text => ∃ d, Document.read? text = some d ∧ l.IsOf (Json.nestingLimit - 1) d

/-- The layer of the settings, which stand for four of the fields. -/
structure IsOfSettings (s : Surroundings) (l : Layer) : Prop where
  baseUrl : Reads some (s.setting? "ALLSAFE_BASE_URL") l.baseUrl
  transport : Reads TransportKind.parse? (s.setting? "ALLSAFE_TRANSPORT") l.transport
  executionPath : l.executionPath = none
  requestTimeout : Reads word? (s.setting? "ALLSAFE_REQUEST_TIMEOUT_SECS") l.requestTimeout
  refreshCheck : Reads word? (s.setting? "ALLSAFE_REFRESH_CHECK_SECS") l.refreshCheck
  csrfCookieName : l.csrfCookieName = none
  csrfHeader : l.csrfHeader = none

end Layer

/-! ## The file

A file gives the configuration of its layer, whatever the layer lacks being as
usual. -/

theorem bind_defaulted_eq_some_iff {α β : Type} {absent : α} {decode : Decoder α} {room : Nat}
    {field : Option Document} {f : α → Option β} {b : β} :
    (Decoder.defaulted absent decode room field).bind f = some b ↔
      ∃ value, Reads (decode room) field value ∧ f (value.getD absent) = some b := by
  cases field with
  | none => simp [Decoder.defaulted, reads_none]
  | some d =>
    rw [Decoder.defaulted, Option.bind_eq_some_iff]
    constructor
    · rintro ⟨a, ha, hf⟩
      exact ⟨some a, reads_some.mpr ⟨a, ha, rfl⟩, hf⟩
    · rintro ⟨value, hvalue, hf⟩
      obtain ⟨a, ha, rfl⟩ := reads_some.mp hvalue
      exact ⟨a, ha, hf⟩

/-- The configuration of a document is that of its layer. -/
theorem decoder_eq_some_iff {room : Nat} {d : Document} {c : Config} :
    decoder (room + 1) d = some c ↔ ∃ l : Layer, l.IsOf room d ∧ c = l.complete := by
  have hnames : fieldNames.Nodup := by decide
  have hnamed : [["base_url"], ["transport"], ["execution_path"], ["request_timeout_secs"],
      ["refresh_check_secs"], ["csrf_cookie_name"], ["csrf_header"]] = fieldNames.map fun n => [n] := rfl
  unfold decoder
  rw [hnamed]
  by_cases hrecord : d.IsRecord fieldNames
  · have hfields : Decoder.fields (fieldNames.map fun n => [n]) (room + 1) d =
        some (room, fieldNames.map fun name => d.part? fieldNames name) :=
      (Decoder.fields_eq_some_iff hnames).mpr ⟨hrecord, rfl, rfl⟩
    rw [hfields]
    constructor
    · intro h
      obtain ⟨base, hbase, h⟩ := bind_defaulted_eq_some_iff.mp h
      obtain ⟨transport, htransport, h⟩ := bind_defaulted_eq_some_iff.mp h
      obtain ⟨path, hpath, h⟩ := bind_defaulted_eq_some_iff.mp h
      obtain ⟨timeout, htimeout, h⟩ := bind_defaulted_eq_some_iff.mp h
      obtain ⟨check, hcheck, h⟩ := bind_defaulted_eq_some_iff.mp h
      obtain ⟨cookie, hcookie, h⟩ := bind_defaulted_eq_some_iff.mp h
      obtain ⟨header, hheader, h⟩ := bind_defaulted_eq_some_iff.mp h
      exact ⟨⟨base, transport, path, timeout, check, cookie, header⟩,
        ⟨hrecord, hbase, htransport, hpath, htimeout, hcheck, hcookie, hheader⟩, (Option.some.inj h).symm⟩
    · rintro ⟨l, hl, rfl⟩
      refine bind_defaulted_eq_some_iff.mpr ⟨l.baseUrl, hl.baseUrl, ?_⟩
      refine bind_defaulted_eq_some_iff.mpr ⟨l.transport, hl.transport, ?_⟩
      refine bind_defaulted_eq_some_iff.mpr ⟨l.executionPath, hl.executionPath, ?_⟩
      refine bind_defaulted_eq_some_iff.mpr ⟨l.requestTimeout, hl.requestTimeout, ?_⟩
      refine bind_defaulted_eq_some_iff.mpr ⟨l.refreshCheck, hl.refreshCheck, ?_⟩
      refine bind_defaulted_eq_some_iff.mpr ⟨l.csrfCookieName, hl.csrfCookieName, ?_⟩
      exact bind_defaulted_eq_some_iff.mpr ⟨l.csrfHeader, hl.csrfHeader, rfl⟩
  · have hfields : Decoder.fields (fieldNames.map fun n => [n]) (room + 1) d = none := by
      refine Option.eq_none_iff_forall_ne_some.mpr fun (_, _) h => ?_
      exact hrecord ((Decoder.fields_eq_some_iff hnames).mp h).1
    rw [hfields]
    exact ⟨nofun, fun ⟨l, hl, _⟩ => absurd hl.record hrecord⟩

theorem ofFile_eq_ok_iff {s : Surroundings} {c : Config} :
    ofFile s = .ok c ↔ ∃ l : Layer, l.IsOfFile s ∧ c = l.complete := by
  unfold ofFile Layer.IsOfFile
  cases s.file? (fileName s) with
  | none =>
    have husual : ({} : Config) = ({} : Layer).complete := rfl
    simp [husual, eq_comm]
  | some text =>
    have hdecode : Json.decode? decoder text = some c ↔
        ∃ l : Layer, (∃ d, Document.read? text = some d ∧ l.IsOf (Json.nestingLimit - 1) d) ∧ c = l.complete := by
      rw [Json.decode?, Option.bind_eq_some_iff]
      constructor
      · rintro ⟨d, hd, hc⟩
        obtain ⟨l, hl, heq⟩ := decoder_eq_some_iff.mp hc
        exact ⟨l, ⟨d, hd, hl⟩, heq⟩
      · rintro ⟨l, ⟨d, hd, hl⟩, heq⟩
        exact ⟨d, hd, decoder_eq_some_iff.mpr ⟨l, hl, heq⟩⟩
    dsimp only
    rw [← hdecode]
    cases Json.decode? decoder text <;> simp

/-! ## The settings

Each setting is read, or the loading fails there. -/

theorem bind_eq_ok_iff {ε α β : Type} {x : Except ε α} {f : α → Except ε β} {b : β} :
    x >>= f = .ok b ↔ ∃ a, x = .ok a ∧ f a = .ok b := by
  cases x <;> simp [bind, Except.bind]

/-- A value put into a configuration, if there is one. -/
def put {α : Type} (value : Option α) (set : α → Config → Config) (c : Config) : Config :=
  value.elim c fun a => set a c

theorem override_eq_ok_iff {α : Type} {s : Surroundings} {name : String} {read? : String → Option α}
    {set : α → Config → Config} {c c' : Config} :
    override s name read? set c = .ok c' ↔
      ∃ value, Reads read? (s.setting? name) value ∧ c' = put value set c := by
  unfold override put
  cases s.setting? name with
  | none => simp [reads_none, eq_comm]
  | some text => cases hread : read? text <;> simp [reads_some, hread, eq_comm]

/-- The settings, which are put into a configuration one after the other, are put over it as one layer. -/
theorem put_settings {s : Surroundings} {l : Layer} (h : l.IsOfSettings s) (c : Config) :
    put l.refreshCheck (fun n c => { c with refreshCheck := n })
      (put l.requestTimeout (fun n c => { c with requestTimeout := n })
        (put l.transport (fun t c => { c with transport := t })
          (put l.baseUrl (fun u c => { c with baseUrl := u }) c))) = l.onto c := by
  obtain ⟨base, transport, path, timeout, check, cookie, header⟩ := l
  obtain rfl : path = none := h.executionPath
  obtain rfl : cookie = none := h.csrfCookieName
  obtain rfl : header = none := h.csrfHeader
  cases base <;> cases transport <;> cases timeout <;> cases check <;> rfl

/-! ## Loading

The two layers, one put over the other. -/

theorem load_eq_ok_iff {s : Surroundings} {c : Config} :
    load s = .ok c ↔
      ∃ file settings : Layer, file.IsOfFile s ∧ settings.IsOfSettings s ∧
        c = (settings.above file).complete ∧ c.validate = .ok () := by
  unfold load
  simp only [bind_eq_ok_iff, override_eq_ok_iff, ofFile_eq_ok_iff, Layer.complete_above]
  constructor
  · rintro ⟨_, ⟨file, hfile, rfl⟩, _, ⟨base, hbase, rfl⟩, _, ⟨transport, htransport, rfl⟩,
      _, ⟨timeout, htimeout, rfl⟩, _, ⟨check, hcheck, rfl⟩, _, hvalid, hc⟩
    obtain rfl := Except.ok.inj hc
    have hsettings : Layer.IsOfSettings s ⟨base, transport, none, timeout, check, none, none⟩ :=
      ⟨hbase, htransport, rfl, htimeout, hcheck, rfl, rfl⟩
    exact ⟨file, _, hfile, hsettings, put_settings hsettings file.complete, hvalid⟩
  · rintro ⟨file, settings, hfile, hsettings, rfl, hvalid⟩
    refine ⟨_, ⟨file, hfile, rfl⟩, _, ⟨_, hsettings.baseUrl, rfl⟩, _, ⟨_, hsettings.transport, rfl⟩,
      _, ⟨_, hsettings.requestTimeout, rfl⟩, _, ⟨_, hsettings.refreshCheck, rfl⟩, (), ?_⟩
    rw [put_settings hsettings]
    exact ⟨hvalid, rfl⟩

/-! ## Numbers of 64 bits

Neither a document nor a setting gives a number beyond the range, and the usual
values are in it. -/

/-- Both numbers of seconds fit into 64 bits. -/
def Fits (c : Config) : Prop :=
  c.requestTimeout < Json.Literal.wordLimit ∧ c.refreshCheck < Json.Literal.wordLimit

theorem lt_of_word? {text : String} {n : Nat} (h : word? text = some n) : n < Json.Literal.wordLimit := by
  obtain ⟨-, h⟩ := Option.ite_none_left_eq_some.mp h
  obtain ⟨hlt, h⟩ := Option.ite_none_right_eq_some.mp h
  exact Option.some.inj h ▸ hlt

theorem lt_of_word64 {room n : Nat} {d : Document} (h : Decoder.word64 room d = some n) :
    n < Json.Literal.wordLimit := Nat.lt_of_le_pred (by decide) (Decoder.le_of_wholeUpTo h)

theorem Reads.all {α β : Type} {read? : α → Option β} {P : β → Prop} (hread : ∀ {a b}, read? a = some b → P b)
    {source : Option α} {value : Option β} (h : Reads read? source value) : ∀ b ∈ value, P b := by
  rintro b rfl
  cases source with
  | none => cases reads_none.mp h
  | some a =>
    obtain ⟨b', hb, heq⟩ := reads_some.mp h
    exact Option.some.inj heq ▸ hread hb

theorem getD_or {α : Type} {P : α → Prop} {upper lower : Option α} {usual : α} (hupper : ∀ a ∈ upper, P a)
    (hlower : ∀ a ∈ lower, P a) (husual : P usual) : P ((upper.or lower).getD usual) := by
  cases upper with
  | some a => exact hupper a rfl
  | none =>
    cases lower with
    | some a => exact hlower a rfl
    | none => exact husual

theorem Layer.IsOfFile.fits {s : Surroundings} {l : Layer} (h : l.IsOfFile s) :
    (∀ n ∈ l.requestTimeout, n < Json.Literal.wordLimit) ∧ ∀ n ∈ l.refreshCheck, n < Json.Literal.wordLimit := by
  unfold IsOfFile at h
  split at h
  · subst h
    exact ⟨nofun, nofun⟩
  · obtain ⟨d, -, hd⟩ := h
    exact ⟨hd.requestTimeout.all lt_of_word64, hd.refreshCheck.all lt_of_word64⟩

theorem fits_of_load {s : Surroundings} {c : Config} (h : load s = .ok c) : c.Fits := by
  obtain ⟨file, settings, hfile, hsettings, rfl, -⟩ := load_eq_ok_iff.mp h
  exact ⟨getD_or (hsettings.requestTimeout.all lt_of_word?) hfile.fits.1 (by decide),
    getD_or (hsettings.refreshCheck.all lt_of_word?) hfile.fits.2 (by decide)⟩

/-! ## A configuration in the file

All fields are written, and each is read back. -/

theorem isWhole_toJson {c : Config} (h : c.Fits) : c.toJson.isWhole = true := by
  have htimeout : (Value.ofNat c.requestTimeout).isWhole = true := decide_eq_true h.1
  have hcheck : (Value.ofNat c.refreshCheck).isWhole = true := decide_eq_true h.2
  simp [toJson, TransportKind.toJson, Value.isWhole, Value.fieldsWhole, htimeout, hcheck]

/-- The layer that has all fields of a configuration. -/
def layer (c : Config) : Layer :=
  ⟨c.baseUrl, c.transport, c.executionPath, c.requestTimeout, c.refreshCheck, c.csrfCookieName, c.csrfHeader⟩

theorem word64_ofNat (room : Nat) {n : Nat} (h : n < Json.Literal.wordLimit) :
    Decoder.word64 room (Value.ofNat n).document = some n := if_pos (Nat.le_pred_of_lt h)

theorem isOf_toJson {c : Config} (h : c.Fits) (room : Nat) : c.layer.IsOf room c.toJson.document where
  record := by
    refine ⟨?_, ?_⟩
    · simp [Value.fieldDocuments]
    · simp [fieldNames, Document.behind, Value.fieldDocuments]
  baseUrl := rfl
  transport := by
    show some (TransportKind.decoder room (Document.string c.transport.name)) = some (some c.transport)
    cases c.transport <;> rfl
  executionPath := rfl
  requestTimeout := congrArg some (word64_ofNat room h.1)
  refreshCheck := congrArg some (word64_ofNat room h.2)
  csrfCookieName := rfl
  csrfHeader := rfl

end Config

/-- The surroundings with a file of this text under the name. -/
def Surroundings.write (s : Surroundings) (name : String) (text : String) : Surroundings :=
  { s with files := (String.ofList (plainName name.toList), Text.Utf8.bytesOf text) :: s.files }

theorem Surroundings.file?_write (s : Surroundings) (name text : String) :
    (s.write name text).file? name = some text := by
  simp [write, file?, textOf?, Text.Utf8.decode?, Text.Utf8.bytesOf, Text.Utf8.decodeLossy_encode]

namespace Config

/-- A configuration that was written to the file is loaded again, if no setting stands for one of the fields. -/
theorem load_write {s : Surroundings} {c : Config} (hfits : c.Fits) (hvalid : c.validate = .ok ())
    (hbare : ∀ name ∈ overrides, s.setting? name = none) :
    load (s.write (fileName s) c.toJson.compact) = .ok c := by
  have hname : fileName (s.write (fileName s) c.toJson.compact) = fileName s := rfl
  have hfile : c.layer.IsOfFile (s.write (fileName s) c.toJson.compact) := by
    rw [Layer.IsOfFile, hname, Surroundings.file?_write]
    exact ⟨_, Document.read?_compact c.toJson (isWhole_toJson hfits), isOf_toJson hfits _⟩
  have hsettings : Layer.IsOfSettings (s.write (fileName s) c.toJson.compact) {} := by
    have hnone (name : String) (hname : name ∈ overrides) {α : Type} (read? : String → Option α) :
        Reads read? (s.setting? name) none := by
      rw [hbare name hname]
      rfl
    exact ⟨hnone _ (by decide) _, hnone _ (by decide) _, rfl, hnone _ (by decide) _,
      hnone _ (by decide) _, rfl, rfl⟩
  exact load_eq_ok_iff.mpr ⟨c.layer, {}, hfile, hsettings, rfl, hvalid⟩

/-- A configuration is loaded exactly if the file and the settings can be read and what comes of them can be
used: each field as a setting has it, or else as the file has it, or else as usual. A setting that is set to
what is no UTF-8 counts as absent here: it neither stands for its field nor keeps the configuration from being
loaded. The numbers of the configuration fit into 64 bits. And a configuration with such numbers that can be
used is loaded from the file to which it was written, where no setting stands for one of its fields. -/
theorem load_precedence (s : Surroundings) (c : Config) :
    (load s = .ok c ↔
      ∃ file settings : Layer, file.IsOfFile s ∧ settings.IsOfSettings s ∧
        c = (settings.above file).complete ∧ c.validate = .ok ()) ∧
    (load s = .ok c → c.Fits) ∧
    (c.Fits → c.validate = .ok () → (∀ name ∈ overrides, s.setting? name = none) →
      load (s.write (fileName s) c.toJson.compact) = .ok c) :=
  ⟨load_eq_ok_iff, fits_of_load, load_write⟩

/-- A file with two of the fields. -/
def partialFile : Value :=
  .object [("transport", .string "synchronous"), ("refresh_check_secs", .ofNat 5)]

/-- This file, and settings for two of the fields. -/
def mixed : Surroundings :=
  Surroundings.write ⟨[("ALLSAFE_BASE_URL", Text.Utf8.bytesOf "http://[::1]:8000"),
    ("ALLSAFE_TRANSPORT", Text.Utf8.bytesOf "Streaming")], []⟩ usualFile partialFile.compact

/-- A setting wins over the file, and what comes of both is loaded again from a file of its own. -/
theorem load_precedence_mixed :
    load mixed = .ok { baseUrl := "http://[::1]:8000", refreshCheck := 5 } ∧
      load (Surroundings.write ⟨[], []⟩ usualFile
        (Config.toJson { baseUrl := "http://[::1]:8000", refreshCheck := 5 }).compact) =
          .ok { baseUrl := "http://[::1]:8000", refreshCheck := 5 } := by
  have hvalid : Config.validate { baseUrl := "http://[::1]:8000", refreshCheck := 5 } = .ok () := rfl
  have hfile : Layer.IsOfFile mixed { transport := some .synchronous, refreshCheck := some 5 } := by
    have hname : fileName mixed = usualFile := rfl
    rw [Layer.IsOfFile, hname, mixed, Surroundings.file?_write]
    exact ⟨_, Document.read?_compact partialFile rfl, ⟨by decide, by decide⟩,
      rfl, rfl, rfl, rfl, rfl, rfl, rfl⟩
  have hsettings : Layer.IsOfSettings mixed
      { baseUrl := some "http://[::1]:8000", transport := some .streaming } :=
    ⟨rfl, rfl, rfl, rfl, rfl, rfl, rfl⟩
  obtain ⟨hload, hfits, -⟩ := load_precedence mixed { baseUrl := "http://[::1]:8000", refreshCheck := 5 }
  have hmixed := hload.mpr ⟨_, _, hfile, hsettings, rfl, hvalid⟩
  exact ⟨hmixed, (load_precedence ⟨[], []⟩ _).2.2 (hfits hmixed) hvalid fun _ _ => rfl⟩

end Config

end ScanConsole
