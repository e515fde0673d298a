import ScanConsole.Proofs.Utf8
import ScanConsole.Text.Blank
import ScanConsole.Url.Path

/-!
# Segments of a path and the texts that they stand for

A text that is put into a path as a segment is encoded, and stands for what its
characters stand for when they are decoded again:

    hasEscape s = false → percentDecode (percentEncode s) = encode s

What is encoded is a character that may not stand in a path, and a percent sign
is none of these. So a text in which two hexadecimal digits stand behind a
percent sign keeps them (`hasEscape`), and there stands for one byte. What a
segment stands for is never longer than what was put there, and shorter if there
was an escape (`length_percentDecode`). This gives the converse of the above: a
text that stands for itself has no escape.

Segments of dots are not kept in a path, and they may be written in several
ways; what they stand for is one dot or two (`percentDecode_of_isDots`).

Reading a path makes no segments of its own but empty ones (`mem_addSegments`).
The paths here are not those of files, in which the name of a drive is treated
in its own way.
-/

namespace ScanConsole.Url

open Text (hexValue? hexCapital)
open Text.Utf8 (encode length_encode_cons)

/-! ## Encoding and decoding

Encoding neither makes digits behind a percent sign nor changes them, since
digits are never encoded. -/

/-- Two hexadecimal digits stand at the head of the text. -/
def startsWithByte : List Char → Bool
  | a :: b :: _ => (hexValue? a).isSome && (hexValue? b).isSome
  | _ => false

/-- Somewhere in the text two hexadecimal digits stand behind a percent sign. -/
def hasEscape : List Char → Bool
  | [] => false
  | c :: rest => (c == '%' && startsWithByte rest) || hasEscape rest

theorem hexValue?_hexCapital : ∀ n < 16, hexValue? (hexCapital n) = some n := by decide

theorem percentDecode_nil : percentDecode [] = [] := by rw [percentDecode]

theorem percentDecode_cons {c : Char} {s : List Char} (h : (c == '%' && startsWithByte s) = false) :
    percentDecode (c :: s) = encode [c] ++ percentDecode s := by
  rw [percentDecode.eq_def]
  split
  · next heq => cases heq
  · next a b rest heq =>
    obtain ⟨rfl, rfl⟩ := List.cons.inj heq
    split
    · next ha hb =>
      rw [startsWithByte, ha, hb] at h
      cases h
    · rfl
  · next heq =>
    obtain ⟨rfl, rfl⟩ := List.cons.inj heq
    rfl

theorem percentDecode_percentByte (b : UInt8) (s : List Char) :
    percentDecode (percentByte b ++ s) = b :: percentDecode s := by
  have hb := b.toNat_lt
  have hhigh := hexValue?_hexCapital (b.toNat / 16) (by omega)
  have hlow := hexValue?_hexCapital (b.toNat % 16) (by omega)
  have hbyte : 16 * (b.toNat / 16) + b.toNat % 16 = b.toNat := Nat.div_add_mod b.toNat 16
  show percentDecode ('%' :: hexCapital (b.toNat / 16) :: hexCapital (b.toNat % 16) :: s) = _
  rw [percentDecode, hhigh, hlow]
  simp only [hbyte, UInt8.ofNat_toNat]

theorem percentDecode_percentBytes (bs : List UInt8) (s : List Char) :
    percentDecode (bs.flatMap percentByte ++ s) = bs ++ percentDecode s := by
  induction bs with
  | nil => rfl
  | cons b bs ih =>
    rw [List.flatMap_cons, List.append_assoc, percentDecode_percentByte, ih]
    rfl

theorem percentEncode_cons (inSet : Char → Bool) (c : Char) (s : List Char) :
    percentEncode inSet (c :: s) =
      (if inSet c then (encode [c]).flatMap percentByte else [c]) ++ percentEncode inSet s := rfl

theorem percentBytes_head (c : Char) :
    ∃ s, (encode [c]).flatMap percentByte = '%' :: s := by
  have hlength : 0 < (encode [c]).length := by
    rw [length_encode_cons]
    exact Nat.add_pos_left (Char.utf8Size_pos c) _
  obtain ⟨b, bs, hb⟩ := List.exists_cons_of_length_pos hlength
  rw [hb]
  exact ⟨_, rfl⟩

theorem toNat_lt_of_hexValue? {c : Char} (h : (hexValue? c).isSome = true) : c.toNat < 128 := by
  unfold hexValue? at h
  split at h
  · next hdigit =>
    have hc := (Char.isDigit_iff_toNat.mp hdigit).2
    exact Nat.lt_of_le_of_lt hc (by decide)
  split at h
  · next hsmall =>
    have hc : c.toNat ≤ 'f'.toNat := of_decide_eq_true (Bool.and_eq_true_iff.mp hsmall).2
    exact Nat.lt_of_le_of_lt hc (by decide)
  split at h
  · next hcapital =>
    have hc : c.toNat ≤ 'F'.toNat := of_decide_eq_true (Bool.and_eq_true_iff.mp hcapital).2
    exact Nat.lt_of_le_of_lt hc (by decide)
  · cases h

theorem inPathSet_of_hexValue? {c : Char} (h : (hexValue? c).isSome = true) : inPathSet c = false := by
  have hascii : ∀ n < 128, (hexValue? (Char.ofNat n)).isSome = true → inPathSet (Char.ofNat n) = false := by
    decide
  have hc := hascii c.toNat (toNat_lt_of_hexValue? h)
  rw [Char.ofNat_toNat] at hc
  exact hc h

theorem startsWithByte_percentEncode (s : List Char) :
    startsWithByte (percentEncode inPathSet s) = startsWithByte s := by
  have hpercent (t : List Char) : startsWithByte ('%' :: t) = false := by cases t <;> rfl
  match s with
  | [] => rfl
  | [a] =>
    rw [percentEncode_cons]
    split
    · obtain ⟨t, ht⟩ := percentBytes_head a
      rw [ht]
      exact hpercent _
    · rfl
  | a :: b :: s =>
    rw [percentEncode_cons]
    split
    · next ha =>
      obtain ⟨t, ht⟩ := percentBytes_head a
      have hvalue : (hexValue? a).isSome = false := by
        rw [← Bool.not_eq_true]
        exact fun hsome => Bool.noConfusion (ha.symm.trans (inPathSet_of_hexValue? hsome))
      rw [ht, startsWithByte, hvalue]
      exact hpercent _
    · rw [percentEncode_cons]
      split
      · next hb =>
        obtain ⟨t, ht⟩ := percentBytes_head b
        have hvalue : (hexValue? b).isSome = false := by
          rw [← Bool.not_eq_true]
          exact fun hsome => Bool.noConfusion (hb.symm.trans (inPathSet_of_hexValue? hsome))
        have hsign : (hexValue? '%').isSome = false := rfl
        rw [ht]
        show ((hexValue? a).isSome && (hexValue? '%').isSome) = startsWithByte (a :: b :: s)
        rw [startsWithByte, hvalue, hsign]
      · rfl

theorem percentDecode_percentEncode_cons {c : Char} {s : List Char}
    (h : (c == '%' && startsWithByte s) = false) :
    percentDecode (percentEncode inPathSet (c :: s)) =
      encode [c] ++ percentDecode (percentEncode inPathSet s) := by
  rw [percentEncode_cons]
  split
  · rw [percentDecode_percentBytes]
  · rw [List.singleton_append, percentDecode_cons]
    rwa [startsWithByte_percentEncode]

/-- A text without escapes stands for itself. -/
theorem percentDecode_percentEncode {s : List Char} (h : hasEscape s = false) :
    percentDecode (percentEncode inPathSet s) = encode s := by
  induction s with
  | nil => exact percentDecode_nil
  | cons c s ih =>
    obtain ⟨hhead, htail⟩ := Bool.or_eq_false_iff.mp h
    rw [percentDecode_percentEncode_cons hhead, ih htail, encode, encode, ← List.flatMap_append]
    rfl

theorem exists_of_startsWithByte {s : List Char} (h : startsWithByte s = true) :
    ∃ a b rest byte, s = a :: b :: rest ∧
      percentDecode ('%' :: percentEncode inPathSet s) =
        byte :: percentDecode (percentEncode inPathSet rest) := by
  match s with
  | [] => cases h
  | [_] => cases h
  | a :: b :: rest =>
    obtain ⟨ha, hb⟩ := Bool.and_eq_true_iff.mp h
    obtain ⟨x, hx⟩ := Option.isSome_iff_exists.mp ha
    obtain ⟨y, hy⟩ := Option.isSome_iff_exists.mp hb
    refine ⟨a, b, rest, UInt8.ofNat (16 * x + y), rfl, ?_⟩
    rw [percentEncode_cons, percentEncode_cons, inPathSet_of_hexValue? ha, inPathSet_of_hexValue? hb]
    show percentDecode ('%' :: a :: b :: percentEncode inPathSet rest) = _
    rw [percentDecode, hx, hy]

/-- What a segment stands for takes no more bytes than what was put there, and fewer if that had an
escape. -/
theorem length_percentDecode (s : List Char) :
    (percentDecode (percentEncode inPathSet s)).length ≤ (encode s).length ∧
      (hasEscape s = true →
        (percentDecode (percentEncode inPathSet s)).length < (encode s).length) := by
  match s with
  | [] =>
    refine ⟨?_, fun h => by cases h⟩
    rw [show percentEncode inPathSet [] = [] from rfl, percentDecode_nil]
    exact Nat.zero_le _
  | c :: s =>
    obtain ⟨hle, hlt⟩ := length_percentDecode s
    by_cases hescape : (c == '%' && startsWithByte s) = true
    · obtain ⟨hc, hs⟩ := Bool.and_eq_true_iff.mp hescape
      obtain rfl := eq_of_beq hc
      obtain ⟨a, b, rest, byte, rfl, hdecode⟩ := exists_of_startsWithByte hs
      have hrest := (length_percentDecode rest).1
      have ha := Char.utf8Size_pos a
      have hb := Char.utf8Size_pos b
      have hc := Char.utf8Size_pos '%'
      have hless : (percentDecode (percentEncode inPathSet ('%' :: a :: b :: rest))).length <
          (encode ('%' :: a :: b :: rest)).length := by
        have hsign : percentEncode inPathSet ('%' :: a :: b :: rest) =
            '%' :: percentEncode inPathSet (a :: b :: rest) := rfl
        rw [hsign, hdecode, List.length_cons, length_encode_cons, length_encode_cons, length_encode_cons]
        omega
      exact ⟨Nat.le_of_lt hless, fun _ => hless⟩
    · -- nothing is lost at a character that starts no escape
      rw [Bool.not_eq_true] at hescape
      rw [percentDecode_percentEncode_cons hescape, List.length_append, length_encode_cons c s,
        show (encode [c]).length = c.utf8Size from length_encode_cons c []]
      refine ⟨Nat.add_le_add_left hle _, fun h => ?_⟩
      rw [hasEscape, hescape, Bool.false_or] at h
      exact Nat.add_lt_add_left (hlt h) _
  termination_by s.length

/-! ## Dots

Only a small `e` and a capital one, the digit, the sign and the dot itself come
into question, and these are ASCII. -/

theorem toNat_lt_of_toLower {c d : Char} (h : c.toLower = d) (hd : d.toNat < 128) : c.toNat < 128 := by
  unfold Char.toLower at h
  split at h
  · next hc =>
    have hcapital : c.toNat ≤ 'Z'.toNat := hc.2
    exact Nat.lt_of_le_of_lt hcapital (by decide)
  · exact h ▸ hd

theorem dot_chars :
    ∀ n < 128,
      ((Char.ofNat n).toLower = '.' → Char.ofNat n = '.') ∧
      ((Char.ofNat n).toLower = '%' → Char.ofNat n = '%') ∧
      ((Char.ofNat n).toLower = '2' → hexValue? (Char.ofNat n) = some 2) ∧
      ((Char.ofNat n).toLower = 'e' → hexValue? (Char.ofNat n) = some 14) := by decide

theorem dot_char {c d : Char} (h : c.toLower = d) (hd : d.toNat < 128) :
    (d = '.' → c = '.') ∧ (d = '%' → c = '%') ∧ (d = '2' → hexValue? c = some 2) ∧
      (d = 'e' → hexValue? c = some 14) := by
  have hc := dot_chars c.toNat (toNat_lt_of_toLower h hd)
  rw [Char.ofNat_toNat, h] at hc
  exact hc

theorem percentDecode_dot {dot : List Char} (s : List Char)
    (h : dot.map Char.toLower = ['.'] ∨ dot.map Char.toLower = ['%', '2', 'e']) :
    percentDecode (dot ++ s) = 0x2E :: percentDecode s := by
  obtain h | h := h
  · obtain ⟨c, rest, rfl, hc, hrest⟩ := List.map_eq_cons_iff.mp h
    obtain rfl := List.map_eq_nil_iff.mp hrest
    obtain rfl := (dot_char hc (by decide)).1 rfl
    rw [List.singleton_append, percentDecode_cons rfl]
    rfl
  · obtain ⟨c, rest, rfl, hc, hrest⟩ := List.map_eq_cons_iff.mp h
    obtain ⟨a, rest, rfl, ha, hrest⟩ := List.map_eq_cons_iff.mp hrest
    obtain ⟨b, rest, rfl, hb, hrest⟩ := List.map_eq_cons_iff.mp hrest
    obtain rfl := List.map_eq_nil_iff.mp hrest
    obtain rfl := (dot_char hc (by decide)).2.1 rfl
    have hvalue := (dot_char ha (by decide)).2.2.1 rfl
    have hvalue' := (dot_char hb (by decide)).2.2.2 rfl
    show percentDecode ('%' :: a :: b :: s) = _
    rw [percentDecode, hvalue, hvalue']
    rfl

/-- A segment of dots stands for one dot or for two. -/
theorem percentDecode_of_isDots {s : List Char} (h : isDots s = true) :
    percentDecode s = encode ['.'] ∨ percentDecode s = encode ['.', '.'] := by
  have hone {dot : List Char}
      (hdot : dot.map Char.toLower = ['.'] ∨ dot.map Char.toLower = ['%', '2', 'e']) :
      percentDecode dot = encode ['.'] := by
    have h := percentDecode_dot [] hdot
    rw [List.append_nil, percentDecode_nil] at h
    exact h
  have htwo {x y : List Char} (hx : x = ['.'] ∨ x = ['%', '2', 'e'])
      (hy : y = ['.'] ∨ y = ['%', '2', 'e']) (hs : s.map Char.toLower = x ++ y) :
      percentDecode s = encode ['.', '.'] := by
    obtain ⟨dot, dot', rfl, rfl, rfl⟩ := List.map_eq_append_iff.mp hs
    rw [percentDecode_dot dot' hx, hone hy]
    rfl
  have hchars {text : String} (htext : String.ofList (s.map Char.toLower) = text) :
      s.map Char.toLower = text.toList := by
    rw [← htext, String.toList_ofList]
  obtain h | h := Bool.or_eq_true_iff.mp h
  · have h := List.contains_iff_mem.mp h
    simp only [List.mem_cons, List.not_mem_nil, or_false] at h
    obtain h | h := h
    · exact .inl (hone (.inl (hchars h)))
    · exact .inl (hone (.inr (hchars h)))
  · have h := List.contains_iff_mem.mp h
    simp only [List.mem_cons, List.not_mem_nil, or_false] at h
    obtain h | h | h | h := h
    · exact .inr (htwo (.inl rfl) (.inl rfl) (hchars h))
    · exact .inr (htwo (.inr rfl) (.inr rfl) (hchars h))
    · exact .inr (htwo (.inr rfl) (.inl rfl) (hchars h))
    · exact .inr (htwo (.inl rfl) (.inr rfl) (hchars h))

/-! ## Reading segments

An open segment that is empty stays so, or is filled with a segment that is not
dots. -/

theorem addSegment_cases (more : Bool) (path : List (List Char)) (s : List Char) :
    (∃ path', addSegment false more ([] :: path) s = [] :: path' ∧ path' ⊆ path) ∨
      (isDots s = false ∧
        addSegment false more ([] :: path) s = if more then [] :: s :: path else s :: path) := by
  by_cases hdouble : isDoubleDot s = true
  · have habove : ∃ path', directoryAbove false ([] :: path) = [] :: path' ∧ path' ⊆ path := by
      cases path with
      | nil => exact ⟨[], rfl, List.Subset.refl _⟩
      | cons t path =>
        rw [directoryAbove]
        split
        · exact ⟨t :: path, rfl, List.Subset.refl _⟩
        · exact ⟨path, rfl, List.subset_cons_self t path⟩
    obtain ⟨path', heq, hsub⟩ := habove
    refine .inl ⟨path', ?_, hsub⟩
    simp only [addSegment, hdouble, if_true, Bool.false_eq_true, if_false, heq]
    cases more <;> rfl
  rw [Bool.not_eq_true] at hdouble
  by_cases hsingle : isSingleDot s = true
  · refine .inl ⟨path, ?_, List.Subset.refl path⟩
    simp only [addSegment, hdouble, hsingle, if_true, Bool.false_eq_true, if_false]
    rfl
  · rw [Bool.not_eq_true] at hsingle
    have hdots : isDots s = false := by rw [isDots, hsingle, hdouble, Bool.false_or]
    exact .inr ⟨hdots, addSegment_of_plain hdots⟩

/-- A segment of a path that is read was there before, or is one of those read, or is empty. -/
theorem mem_addSegments {path ss : List (List Char)} {segment : List Char}
    (h : segment ∈ addSegments false ([] :: path) ss) :
    segment = [] ∨ segment ∈ path ∨ (segment ∈ ss ∧ isDots segment = false) := by
  induction ss generalizing path with
  | nil =>
    obtain rfl | h := List.mem_cons.mp (List.mem_reverse.mp h)
    · exact .inl rfl
    · exact .inr (.inl h)
  | cons s ss ih =>
    cases ss with
    | nil =>
      have h := List.mem_reverse.mp h
      obtain ⟨path', heq, hsub⟩ | ⟨hdots, heq⟩ := addSegment_cases false path s
      · rw [heq] at h
        obtain rfl | h := List.mem_cons.mp h
        · exact .inl rfl
        · exact .inr (.inl (hsub h))
      · rw [heq] at h
        obtain rfl | h := List.mem_cons.mp h
        · exact .inr (.inr ⟨List.mem_cons_self, hdots⟩)
        · exact .inr (.inl h)
    | cons t ss =>
      rw [addSegments] at h
      · obtain ⟨path', heq, hsub⟩ | ⟨hdots, heq⟩ := addSegment_cases true path s
        · rw [heq] at h
          obtain h | h | ⟨h, hsegment⟩ := ih h
          · exact .inl h
          · exact .inr (.inl (hsub h))
          · exact .inr (.inr ⟨List.mem_cons_of_mem s h, hsegment⟩)
        · rw [heq, if_pos rfl] at h
          obtain h | h | ⟨h, hsegment⟩ := ih h
          · exact .inl h
          · obtain rfl | h := List.mem_cons.mp h
            · exact .inr (.inr ⟨List.mem_cons_self, hdots⟩)
            · exact .inr (.inl h)
          · exact .inr (.inr ⟨List.mem_cons_of_mem s h, hsegment⟩)
      · intro heq
        cases heq

end ScanConsole.Url
