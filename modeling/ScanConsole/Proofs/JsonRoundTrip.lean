import ScanConsole.Json.Decoder
import ScanConsole.Json.Printer
import ScanConsole.Json.Reader

/-!
# JSON that is written is read back

`Document.read?_compact` says that the reader makes of the text of a value the
document that the value stands for, if its numbers are whole and fit into 64
bits:

    v.isWhole = true → Document.read? v.compact = some v.document

Blanks do not come up, as the compact form has none. Numbers that are not whole
do not come up either, as the console writes none; it reads them, and the reader
is defined for them, but nothing is written of which they could be the reading.

The induction is over the value, and generalizes over the text behind it: the
reader stops where the value ends, unless a number would go on (`Ends`). The
reader's bound on its calls is twice the length of the text. Values, items and
fields are read by three functions that call each other, and the lemmas on them
are proved together in the same way.

Two consequences are used elsewhere. The text of a value has no control
characters in it, so it can be sent as one line of a stream (`isText_write`);
and if the value is not too deep, its document has a meaning in all its parts
(`Value.isSome_value?_document`).
-/

namespace ScanConsole.Json

/-! ## Values as documents

A document keeps the fields of an object in their order and twice if they stand
there twice, and the name of a field may fail to be text; what is written has
neither in it, but the reader does not know that. -/

mutual

/-- The document that is written for a value. -/
def Value.document : Value → Document
  | .null => .null
  | .boolean b => .boolean b
  | .number n => .number (some n)
  | .string s => .string (some s)
  | .array items => .array (itemDocuments items)
  | .object fields => .object (fieldDocuments fields)

def Value.itemDocuments : List Value → List Document
  | [] => []
  | v :: rest => v.document :: itemDocuments rest

def Value.fieldDocuments : List (String × Value) → List (Option String × Document)
  | [] => []
  | (name, v) :: rest => (some name, v.document) :: fieldDocuments rest

end

/-- The number is whole and fits into 64 bits, signed or not. -/
def Number.isWord : Number → Bool
  | .whole n => n < Literal.wordLimit
  | .minus n => n != 0 && n ≤ Nat.pow 2 63
  | .real _ => false

mutual

/-- All numbers in the value are whole and fit into 64 bits. -/
def Value.isWhole : Value → Bool
  | .number n => n.isWord
  | .array items => itemsWhole items
  | .object fields => fieldsWhole fields
  | _ => true

def Value.itemsWhole : List Value → Bool
  | [] => true
  | v :: rest => v.isWhole && itemsWhole rest

def Value.fieldsWhole : List (String × Value) → Bool
  | [] => true
  | (_, v) :: rest => v.isWhole && fieldsWhole rest

end

namespace Reader

/-! ## Strings

A character is written as itself, as a short escape or by its code, and read
back from each of these (`pieces?_writeChar`). By induction on the text a string
is read back behind its opening quote. -/

theorem hexValue?_hexDigit : ∀ n < 16, Text.hexValue? (Text.hexDigit n) = some n := by decide

theorem codeUnit?_control {c : Char} (h : c.toNat < 0x20) :
    codeUnit? '0' '0' (Text.hexDigit (c.toNat / 16)) (Text.hexDigit (c.toNat % 16)) =
      some (.char c) := by
  have hhigh := hexValue?_hexDigit (c.toNat / 16) (by omega)
  have hlow := hexValue?_hexDigit (c.toNat % 16) (by omega)
  have hzero : Text.hexValue? '0' = some 0 := rfl
  have hn : ((0 * 16 + 0) * 16 + c.toNat / 16) * 16 + c.toNat % 16 = c.toNat := by omega
  simp only [codeUnit?, hzero, hhigh, hlow, hn, Char.ofNat_toNat]
  rw [if_neg (by simp; omega)]

theorem pieces?_escaped {e c : Char} (hu : e ≠ 'u') (h : escape? e = some c) (acc : List Piece)
    (rest : List Char) : pieces? acc ('\\' :: e :: rest) = pieces? (.char c :: acc) rest := by
  rw [pieces?.eq_def]
  split
  · next heq => cases heq
  · next heq => cases heq
  · next heq => exact absurd (List.cons.inj (List.cons.inj heq).2).1 hu
  · next heq =>
    obtain ⟨rfl, rfl⟩ := List.cons.inj (List.cons.inj heq).2
    simp only [h]
  · next hno heq =>
    obtain ⟨rfl, rfl⟩ := List.cons.inj heq
    exact absurd rfl (hno e rest rfl)

theorem pieces?_plain {c : Char} (hq : c ≠ '"') (hb : c ≠ '\\') (hc : ¬c.toNat < 0x20)
    (acc : List Piece) (rest : List Char) :
    pieces? acc (c :: rest) = pieces? (.char c :: acc) rest := by
  rw [pieces?.eq_def]
  split
  · next heq => cases heq
  · next heq => exact absurd (List.cons.inj heq).1 hq
  · next heq => exact absurd (List.cons.inj heq).1 hb
  · next heq => exact absurd (List.cons.inj heq).1 hb
  · next heq =>
    obtain ⟨rfl, rfl⟩ := List.cons.inj heq
    rw [if_neg (by simp [hb]; omega)]

theorem pieces?_writeChar (c : Char) (acc : List Piece) (rest : List Char) :
    pieces? acc (writeChar c ++ rest) = pieces? (.char c :: acc) rest := by
  unfold writeChar
  -- the characters that have a short escape
  iterate 7
    split
    · next h =>
      obtain rfl := eq_of_beq h
      exact pieces?_escaped (by decide) rfl acc rest
  split
  · next hcontrol =>
    show pieces? acc ('\\' :: 'u' :: '0' :: '0' :: _ :: _ :: rest) = _
    rw [pieces?, codeUnit?_control hcontrol]
  · next hq hb _ _ _ _ _ hc =>
    exact pieces?_plain (by simpa using hq) (by simpa using hb) hc acc rest

theorem pieces?_written (s : List Char) (acc : List Piece) (rest : List Char) :
    pieces? acc (s.flatMap writeChar ++ '"' :: rest) = some (acc.reverse ++ s.map .char, rest) := by
  induction s generalizing acc with
  | nil => simp [pieces?]
  | cons c s ih =>
    rw [List.flatMap_cons, List.append_assoc, pieces?_writeChar, ih]
    simp

theorem pair?_chars (s acc : List Char) : pair? acc (s.map .char) = some (acc.reverse ++ s) := by
  induction s generalizing acc with
  | nil => simp [pair?]
  | cons c s ih =>
    rw [List.map_cons, pair?, ih]
    simp

theorem string?_written (s : String) (rest : List Char) :
    string? (s.toList.flatMap writeChar ++ '"' :: rest) = some (some s, rest) := by
  simp [string?, pieces?_written, pair?_chars]

/-! ## Numbers

A number starts with a digit, which is a zero for zero only. The digits end
where the text behind them does not go on with digits, a point or an exponent,
which is what `Ends` asks for. -/

/-- What stands behind a value: a number would not go on. -/
def Ends (rest : List Char) : Prop :=
  rest = [] ∨ ∃ c rest', rest = c :: rest' ∧ (c = ',' ∨ c = ']' ∨ c = '\x7d')

theorem ends_cons {c : Char} (h : c = ',' ∨ c = ']' ∨ c = '\x7d') (rest : List Char) :
    Ends (c :: rest) := .inr ⟨c, rest, rfl, h⟩

theorem digitChar_eq_zero : ∀ n < 10, n.digitChar = '0' → n = 0 := by decide

theorem isDigit_toDigits (n : Nat) : ∀ c ∈ Nat.toDigits 10 n, c.isDigit = true :=
  fun _ hc => Nat.isDigit_of_mem_toDigits (Nat.zero_lt_succ 9) (Nat.le_refl 10) hc

theorem isGap_of_isDigit {c : Char} (h : c.isDigit = true) : isGap c = false := by
  simp only [isGap, Bool.or_eq_false_iff, beq_eq_false_iff_ne]
  refine ⟨⟨⟨?_, ?_⟩, ?_⟩, ?_⟩ <;> (rintro rfl; revert h; decide)

theorem toDigits_head (n : Nat) :
    ∃ c ds, Nat.toDigits 10 n = c :: ds ∧ c.isDigit = true ∧ (c = '0' → n = 0 ∧ ds = []) := by
  induction n using Nat.strongRecOn with
  | ind n ih =>
    by_cases hn : n < 10
    · have hds := Nat.toDigits_of_lt_base hn
      exact ⟨n.digitChar, [], hds, isDigit_toDigits n _ (by simp [hds]),
        fun h => ⟨digitChar_eq_zero n hn h, rfl⟩⟩
    · obtain ⟨c, ds, hds, hdigit, hzero⟩ := ih (n / 10) (by omega)
      refine ⟨c, ds ++ [(n % 10).digitChar], ?_, hdigit, fun h => ?_⟩
      · rw [Nat.toDigits_of_base_le (by decide) (by omega), hds]
        rfl
      · have := (hzero h).1
        omega

theorem natural_toDigits (n : Nat) : Literal.natural (Nat.toDigits 10 n) = n := by
  have h := Nat.ofDigitChars_ten_toDigits (n := n)
  simp only [Nat.ofDigitChars, Nat.mul_comm 10] at h
  exact h

section
variable {rest : List Char} (hrest : Ends rest)
include hrest

theorem digits?_written {ds : List Char} (hne : ds ≠ []) (hds : ∀ c ∈ ds, c.isDigit = true) :
    Literal.digits? (ds ++ rest) = some (ds, rest) := by
  have hnone : rest.takeWhile Char.isDigit = [] ∧ rest.dropWhile Char.isDigit = rest := by
    obtain rfl | ⟨c, rest, rfl, rfl | rfl | rfl⟩ := hrest <;> exact ⟨rfl, rfl⟩
  unfold Literal.digits?
  rw [List.takeWhile_append_of_pos hds, List.dropWhile_append_of_pos hds, hnone.1, hnone.2,
    List.append_nil]
  simp [hne]

theorem leading?_written (n : Nat) :
    Literal.leading? (Nat.toDigits 10 n ++ rest) = some (Nat.toDigits 10 n, rest) := by
  obtain ⟨c, ds, hds, -, hzero⟩ := toDigits_head n
  by_cases hc : c = '0'
  · obtain ⟨-, rfl⟩ := hzero hc
    subst hc
    rw [hds]
    obtain rfl | ⟨c, rest, rfl, rfl | rfl | rfl⟩ := hrest <;> rfl
  · have hdigits := digits?_written hrest Nat.toDigits_ne_nil (isDigit_toDigits n)
    rw [← hdigits, hds]
    unfold Literal.leading?
    split
    · next heq => exact absurd (List.cons.inj heq).1 hc
    · rfl

theorem fraction?_ends : Literal.fraction? rest = some (none, rest) := by
  obtain rfl | ⟨c, rest, rfl, rfl | rfl | rfl⟩ := hrest <;> rfl

theorem exponent?_ends : Literal.exponent? rest = some (none, rest) := by
  obtain rfl | ⟨c, rest, rfl, rfl | rfl | rfl⟩ := hrest <;> rfl

theorem read?_whole (n : Nat) :
    Literal.read? (Nat.toDigits 10 n ++ rest) = some (⟨false, Nat.toDigits 10 n, none, none⟩, rest) := by
  obtain ⟨c, ds, hds, hdigit, -⟩ := toDigits_head n
  have hc : c ≠ '-' := by
    rintro rfl
    cases hdigit
  have hlead := leading?_written hrest n
  rw [hds] at hlead
  unfold Literal.read?
  rw [hds, List.cons_append]
  split
  next negative digits heq =>
    split at heq
    · next hminus => exact absurd (List.cons.inj hminus).1 hc
    · obtain ⟨rfl, rfl⟩ := Prod.mk.inj heq
      rw [← List.cons_append]
      simp only [hlead, fraction?_ends hrest, exponent?_ends hrest]

theorem read?_minus (n : Nat) :
    Literal.read? ('-' :: (Nat.toDigits 10 n ++ rest)) =
      some (⟨true, Nat.toDigits 10 n, none, none⟩, rest) := by
  simp only [Literal.read?, leading?_written hrest, fraction?_ends hrest, exponent?_ends hrest]

end

theorem value?_whole {n : Nat} (h : n < Literal.wordLimit) :
    Literal.value? ⟨false, Nat.toDigits 10 n, none, none⟩ = some (.whole n) := by
  simp only [Literal.value?, natural_toDigits, Bool.false_eq_true, if_false, if_pos h]

theorem value?_minus {n : Nat} (h : (n != 0 && decide (n ≤ Nat.pow 2 63)) = true) :
    Literal.value? ⟨true, Nat.toDigits 10 n, none, none⟩ = some (.minus n) := by
  simp only [Literal.value?, natural_toDigits, if_true, h]

/-! ## Values

A value starts with a character that is no blank and closes nothing
(`write_head`), so the reader of an array or object knows whether another item
comes. -/

theorem write_whole (n : Nat) : (Value.number (.whole n)).write = Nat.toDigits 10 n := by
  simp [Value.write, Number.text]

theorem write_minus (n : Nat) : (Value.number (.minus n)).write = '-' :: Nat.toDigits 10 n := by
  simp [Value.write, Number.text]

theorem write_head (v : Value) (h : v.isWhole = true) :
    ∃ c s, v.write = c :: s ∧ isGap c = false ∧ c ≠ ']' := by
  cases v with
  | null => exact ⟨_, _, rfl, rfl, by decide⟩
  | boolean b => cases b <;> exact ⟨_, _, rfl, rfl, by decide⟩
  | number n =>
    cases n with
    | whole n =>
      obtain ⟨c, ds, hds, hdigit, -⟩ := toDigits_head n
      refine ⟨c, ds, (write_whole n).trans hds, isGap_of_isDigit hdigit, ?_⟩
      rintro rfl
      cases hdigit
    | minus n => exact ⟨'-', _, write_minus n, rfl, by decide⟩
    | real x => cases h
  | string s => exact ⟨_, _, rfl, rfl, by decide⟩
  | array items => exact ⟨_, _, rfl, rfl, by decide⟩
  | object fields => exact ⟨_, _, rfl, rfl, by decide⟩

theorem writeItems_cons (v w : Value) (items : List Value) :
    Value.writeItems (v :: w :: items) = v.write ++ ',' :: Value.writeItems (w :: items) := rfl

theorem writeFields_cons (name : String) (v : Value) (f : String × Value)
    (fields : List (String × Value)) :
    Value.writeFields ((name, v) :: f :: fields) =
      writeString name ++ ':' :: v.write ++ ',' :: Value.writeFields (f :: fields) := rfl

theorem writeItems_head {v : Value} (h : v.isWhole = true) (items : List Value) :
    ∃ c s, Value.writeItems (v :: items) = c :: s ∧ isGap c = false ∧ c ≠ ']' := by
  obtain ⟨c, s, hs, hgap, hc⟩ := write_head v h
  cases items with
  | nil => exact ⟨c, s, hs, hgap, hc⟩
  | cons w items =>
    refine ⟨c, s ++ ',' :: Value.writeItems (w :: items), ?_, hgap, hc⟩
    rw [writeItems_cons, hs, List.cons_append]

theorem writeFields_head (f : String × Value) (fields : List (String × Value)) :
    ∃ s, Value.writeFields (f :: fields) = '"' :: s := by
  cases fields <;> exact ⟨_, rfl⟩

theorem skipGaps_cons {c : Char} (h : isGap c = false) (s : List Char) : skipGaps (c :: s) = c :: s := by
  simp [skipGaps, h]

theorem value?_bracket (fuel : Nat) {c : Char} (hgap : isGap c = false) (hc : c ≠ ']')
    (s : List Char) : value? (fuel + 1) ('[' :: c :: s) = items? fuel [] (c :: s) := by
  have hbracket : isGap '[' = false := rfl
  have hne : ('[' == '\x7b') = false := by decide
  rw [value?]
  simp only [skipGaps_cons hbracket, skipGaps_cons hgap, hne, beq_self_eq_true, Bool.false_eq_true,
    if_false, if_true]
  split
  · next heq => exact absurd (List.cons.inj heq).1 hc
  · rfl

theorem value?_brace (fuel : Nat) (s : List Char) :
    value? (fuel + 1) ('\x7b' :: '"' :: s) = fields? fuel [] ('"' :: s) := rfl

theorem value?_digit (fuel : Nat) {c : Char} (h : c.isDigit = true) (s : List Char) :
    value? (fuel + 1) (c :: s) =
      (Literal.read? (c :: s)).map fun r => (.number r.1.value?, r.2) := by
  have hne {d : Char} (hd : d.isDigit = false) : (c == d) = false := by
    rw [beq_eq_false_iff_ne]
    rintro rfl
    exact Bool.noConfusion (hd.symm.trans h)
  rw [value?, skipGaps_cons (isGap_of_isDigit h)]
  simp only [hne (d := '\x7b') rfl, hne (d := '[') rfl, hne (d := '"') rfl, hne (d := 't') rfl,
    hne (d := 'f') rfl, hne (d := 'n') rfl, Bool.false_eq_true, if_false]

theorem value?_written_number (n : Number) (fuel : Nat) (rest : List Char)
    (hwhole : (Value.number n).isWhole = true) (hrest : Ends rest) :
    value? (fuel + 1) ((Value.number n).write ++ rest) = some ((Value.number n).document, rest) := by
  cases n with
  | whole n =>
    obtain ⟨c, ds, hds, hdigit, -⟩ := toDigits_head n
    have hn : n < Literal.wordLimit := of_decide_eq_true hwhole
    have hread := read?_whole hrest n
    rw [write_whole, hds, List.cons_append, value?_digit fuel hdigit, ← List.cons_append, ← hds, hread]
    simp only [Option.map_some, value?_whole hn]
    rfl
  | minus n =>
    rw [write_minus, List.cons_append]
    show (Literal.read? ('-' :: (Nat.toDigits 10 n ++ rest))).map _ = _
    rw [read?_minus hrest n]
    simp only [Option.map_some, value?_minus hwhole]
    rfl
  | real x => cases hwhole

mutual

/-- A value is read back. -/
theorem value?_written (v : Value) (fuel : Nat) (rest : List Char) (hwhole : v.isWhole = true)
    (hrest : Ends rest) (hfuel : 2 * v.write.length ≤ fuel) :
    value? fuel (v.write ++ rest) = some (v.document, rest) := by
  obtain ⟨fuel, rfl⟩ : ∃ n, fuel = n + 1 := Nat.exists_eq_add_one.mpr (by
    obtain ⟨c, s, hs, -⟩ := write_head v hwhole
    rw [hs, List.length_cons] at hfuel
    omega)
  cases v with
  | null => rfl
  | boolean b => cases b <;> rfl
  | number n => exact value?_written_number n fuel rest hwhole hrest
  | string text =>
    show (string? (text.toList.flatMap writeChar ++ ['"'] ++ rest)).map _ = _
    rw [List.append_assoc, List.singleton_append, string?_written]
    rfl
  | array items =>
    cases items with
    | nil => rfl
    | cons v items =>
      have hitems := items?_written (v :: items) (List.cons_ne_nil _ _) fuel [] rest hwhole (by
        simp only [Value.write, List.length_cons, List.length_append] at hfuel
        omega)
      obtain ⟨c, s, hs, hgap, hc⟩ := writeItems_head (Bool.and_eq_true_iff.mp hwhole).1 items
      show value? (fuel + 1) ('[' :: (Value.writeItems (v :: items) ++ [']'] ++ rest)) = _
      rw [List.append_assoc, List.singleton_append, hs, List.cons_append, value?_bracket fuel hgap hc,
        ← List.cons_append, ← hs, hitems]
      rfl
  | object fields =>
    cases fields with
    | nil => rfl
    | cons f fields =>
      have hfields := fields?_written (f :: fields) (List.cons_ne_nil _ _) fuel [] rest hwhole (by
        simp only [Value.write, List.length_cons, List.length_append] at hfuel
        omega)
      obtain ⟨s, hs⟩ := writeFields_head f fields
      show value? (fuel + 1) ('\x7b' :: (Value.writeFields (f :: fields) ++ ['\x7d'] ++ rest)) = _
      rw [List.append_assoc, List.singleton_append, hs, List.cons_append, value?_brace,
        ← List.cons_append, ← hs, hfields]
      rfl

theorem items?_written (items : List Value) (hne : items ≠ []) (fuel : Nat) (acc : List Document)
    (rest : List Char) (hwhole : Value.itemsWhole items = true)
    (hfuel : 2 * (Value.writeItems items).length < fuel) :
    items? fuel acc (Value.writeItems items ++ ']' :: rest) =
      some (.array (acc.reverse ++ Value.itemDocuments items), rest) := by
  obtain ⟨fuel, rfl⟩ : ∃ n, fuel = n + 1 := Nat.exists_eq_add_one.mpr (by omega)
  match items with
  | [] => exact absurd rfl hne
  | [v] =>
    have hv : v.isWhole = true := (Bool.and_eq_true_iff.mp hwhole).1
    have hvalue := value?_written v fuel (']' :: rest) hv (ends_cons (.inr (.inl rfl)) rest) (by
      simp only [Value.writeItems] at hfuel
      omega)
    show items? (fuel + 1) acc (v.write ++ ']' :: rest) = _
    rw [items?, hvalue]
    simp [skipGaps_cons, isGap, Value.itemDocuments]
  | v :: w :: items =>
    obtain ⟨hv, hitems⟩ := Bool.and_eq_true_iff.mp hwhole
    rw [writeItems_cons, List.length_append, List.length_cons] at hfuel
    have hvalue := value?_written v fuel (',' :: (Value.writeItems (w :: items) ++ ']' :: rest)) hv
      (ends_cons (.inl rfl) _) (by omega)
    have hnext := items?_written (w :: items) (List.cons_ne_nil _ _) fuel (v.document :: acc) rest
      hitems (by omega)
    rw [writeItems_cons, List.append_assoc, List.cons_append, items?, hvalue]
    simp [skipGaps_cons, isGap, hnext, Value.itemDocuments]

theorem fields?_written (fields : List (String × Value)) (hne : fields ≠ []) (fuel : Nat)
    (acc : List (Option String × Document)) (rest : List Char)
    (hwhole : Value.fieldsWhole fields = true)
    (hfuel : 2 * (Value.writeFields fields).length < fuel) :
    fields? fuel acc (Value.writeFields fields ++ '\x7d' :: rest) =
      some (.object (acc.reverse ++ Value.fieldDocuments fields), rest) := by
  obtain ⟨fuel, rfl⟩ : ∃ n, fuel = n + 1 := Nat.exists_eq_add_one.mpr (by omega)
  match fields with
  | [] => exact absurd rfl hne
  | [(name, v)] =>
    have hv : v.isWhole = true := (Bool.and_eq_true_iff.mp hwhole).1
    have hvalue := value?_written v fuel ('\x7d' :: rest) hv (ends_cons (.inr (.inr rfl)) rest) (by
      simp only [Value.writeFields, List.length_append, List.length_cons] at hfuel
      omega)
    rw [fields?]
    simp [Value.writeFields, writeString, skipGaps_cons, isGap, Value.fieldDocuments, string?_written, hvalue]
  | (name, v) :: g :: fields =>
    obtain ⟨hv, hfields⟩ := Bool.and_eq_true_iff.mp hwhole
    rw [writeFields_cons, List.length_append, List.length_append, List.length_cons, List.length_cons] at hfuel
    have hvalue := value?_written v fuel
      (',' :: (Value.writeFields (g :: fields) ++ '\x7d' :: rest)) hv (ends_cons (.inl rfl) _) (by omega)
    have hnext := fields?_written (g :: fields) (List.cons_ne_nil _ _) fuel
      ((some name, v.document) :: acc) rest hfields (by omega)
    rw [writeFields_cons, fields?]
    simp [writeString, skipGaps_cons, isGap, Value.fieldDocuments, string?_written, hvalue, hnext]

end

end Reader

/-- The text of a value is read back as its document. -/
theorem Document.read?_compact (v : Value) (h : v.isWhole = true) :
    Document.read? v.compact = some v.document := by
  have hread := Reader.value?_written v (2 * v.write.length + 2) [] h (.inl rfl) (by omega)
  rw [List.append_nil] at hread
  simp only [Document.read?, Value.compact, String.toList_ofList, Reader.whole?, hread]
  rfl

/-! ## No control characters -/

/-- The character is no control: it is a space or stands behind it. -/
def isText (c : Char) : Bool := 0x20 ≤ c.toNat

theorem isText_hexDigit : ∀ n < 16, isText (Text.hexDigit n) = true := by decide

theorem isText_of_isDigit {c : Char} (h : c.isDigit = true) : isText c = true := by
  simp only [Char.isDigit, Bool.and_eq_true, decide_eq_true_eq] at h
  exact decide_eq_true (Nat.le_trans (by decide) (show 48 ≤ c.toNat from h.1))

theorem isText_writeChar (c : Char) : (writeChar c).all isText = true := by
  unfold writeChar
  iterate 7
    split
    · rfl
  split
  · next hcontrol =>
    have hhigh := isText_hexDigit (c.toNat / 16) (by omega)
    have hlow := isText_hexDigit (c.toNat % 16) (by omega)
    simp only [List.all_cons, hhigh, hlow]
    rfl
  · next hplain => simpa [isText] using hplain

theorem isText_writeString (s : String) : (writeString s).all isText = true := by
  have hchars : (s.toList.flatMap writeChar).all isText = true := by
    rw [List.all_flatMap, List.all_eq_true]
    exact fun c _ => isText_writeChar c
  simp only [writeString, List.all_append, List.all_cons, hchars]
  rfl

mutual

/-- The text of a value has no control characters. -/
theorem isText_write (v : Value) (h : v.isWhole = true) : v.write.all isText = true := by
  cases v with
  | null => rfl
  | boolean b => cases b <;> rfl
  | number n =>
    cases n with
    | whole n =>
      rw [Reader.write_whole, List.all_eq_true]
      exact fun c hc => isText_of_isDigit (Reader.isDigit_toDigits n c hc)
    | minus n =>
      rw [Reader.write_minus, List.all_eq_true]
      rintro c (_ | ⟨_, hc⟩)
      · rfl
      · exact isText_of_isDigit (Reader.isDigit_toDigits n c hc)
    | real x => cases h
  | string s => exact isText_writeString s
  | array items =>
    have hitems := isText_writeItems items h
    simp only [Value.write, List.all_append, List.all_cons, hitems]
    rfl
  | object fields =>
    have hfields := isText_writeFields fields h
    simp only [Value.write, List.all_append, List.all_cons, hfields]
    rfl

theorem isText_writeItems (items : List Value) (h : Value.itemsWhole items = true) :
    (Value.writeItems items).all isText = true := by
  match items with
  | [] => rfl
  | [v] => exact isText_write v (Bool.and_eq_true_iff.mp h).1
  | v :: w :: items =>
    obtain ⟨hv, hitems⟩ := Bool.and_eq_true_iff.mp h
    have hhead := isText_write v hv
    have hrest := isText_writeItems (w :: items) hitems
    rw [Reader.writeItems_cons]
    simp only [List.all_append, List.all_cons, hhead, hrest]
    rfl

theorem isText_writeFields (fields : List (String × Value)) (h : Value.fieldsWhole fields = true) :
    (Value.writeFields fields).all isText = true := by
  match fields with
  | [] => rfl
  | [(name, v)] =>
    have hvalue := isText_write v (Bool.and_eq_true_iff.mp h).1
    simp only [Value.writeFields, List.all_append, List.all_cons, isText_writeString, hvalue]
    rfl
  | (name, v) :: f :: fields =>
    obtain ⟨hv, hfields⟩ := Bool.and_eq_true_iff.mp h
    have hvalue := isText_write v hv
    have hrest := isText_writeFields (f :: fields) hfields
    rw [Reader.writeFields_cons]
    simp only [List.all_append, List.all_cons, isText_writeString, hvalue, hrest]
    rfl

end

/-! ## What the document means

A document may be nested so deep that the reader of its meaning gives up, and
the depth of what is written is that of the value. -/

mutual

/-- How many arrays and objects stand inside each other. -/
def Value.depth : Value → Nat
  | .array items => itemsDepth items + 1
  | .object fields => fieldsDepth fields + 1
  | _ => 0

def Value.itemsDepth : List Value → Nat
  | [] => 0
  | v :: rest => max v.depth (itemsDepth rest)

def Value.fieldsDepth : List (String × Value) → Nat
  | [] => 0
  | (_, v) :: rest => max v.depth (fieldsDepth rest)

end

theorem Value.itemsWhole_of_forall {items : List Value} (h : ∀ v ∈ items, v.isWhole = true) :
    itemsWhole items = true := by
  induction items with
  | nil => rfl
  | cons v items ih =>
    exact Bool.and_eq_true_iff.mpr
      ⟨h v List.mem_cons_self, ih fun w hw => h w (List.mem_cons_of_mem _ hw)⟩

theorem Value.itemsDepth_le_of_forall {n : Nat} {items : List Value} (h : ∀ v ∈ items, v.depth ≤ n) :
    itemsDepth items ≤ n := by
  induction items with
  | nil => exact Nat.zero_le n
  | cons v items ih =>
    exact Nat.max_le.mpr ⟨h v List.mem_cons_self, ih fun w hw => h w (List.mem_cons_of_mem _ hw)⟩

mutual

/-- What is written for a value has a meaning in all its parts. -/
theorem Value.isSome_value?_document (v : Value) (room : Nat) (h : v.depth ≤ room) :
    (v.document.value? room).isSome = true := by
  cases v with
  | array items =>
    obtain ⟨room, rfl⟩ : ∃ n, room = n + 1 := Nat.exists_eq_add_one.mpr (by
      simp only [depth] at h
      omega)
    have hitems := isSome_itemValues? items room (Nat.le_of_succ_le_succ h)
    simpa [document, Document.value?] using hitems
  | object fields =>
    obtain ⟨room, rfl⟩ : ∃ n, room = n + 1 := Nat.exists_eq_add_one.mpr (by
      simp only [depth] at h
      omega)
    have hfields := isSome_fieldValues? fields room [] (Nat.le_of_succ_le_succ h)
    simpa [document, Document.value?] using hfields
  | _ => rfl

theorem Value.isSome_itemValues? (items : List Value) (room : Nat) (h : itemsDepth items ≤ room) :
    (Document.itemValues? room (itemDocuments items)).isSome = true := by
  cases items with
  | nil => rfl
  | cons v items =>
    obtain ⟨hv, hitems⟩ := Nat.max_le.mp h
    obtain ⟨x, hx⟩ := Option.isSome_iff_exists.mp (isSome_value?_document v room hv)
    obtain ⟨xs, hxs⟩ := Option.isSome_iff_exists.mp (isSome_itemValues? items room hitems)
    simp [itemDocuments, Document.itemValues?, hx, hxs]

theorem Value.isSome_fieldValues? (fields : List (String × Value)) (room : Nat)
    (acc : List (String × Value)) (h : fieldsDepth fields ≤ room) :
    (Document.fieldValues? room acc (fieldDocuments fields)).isSome = true := by
  match fields with
  | [] => rfl
  | (name, v) :: fields =>
    obtain ⟨hv, hfields⟩ := Nat.max_le.mp h
    obtain ⟨x, hx⟩ := Option.isSome_iff_exists.mp (isSome_value?_document v room hv)
    have hrest := isSome_fieldValues? fields room (putField name x acc) hfields
    simp [fieldDocuments, Document.fieldValues?, hx, hrest]

end

end ScanConsole.Json
